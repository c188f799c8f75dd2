import SymbolAtlas.Proofs.Files.Crawling
import SymbolAtlas.Proofs.Store.Stage

/-!
# Trees that stay while files come and go

A project is the directory that a path leads to, with all that lies in it. Where
regular files are put or taken away at some places outside of it, and nothing else
changes, the path leads to the same directory as before, and the same lies in it.
`Files.Refiles` is this relation between two file systems. A link at one of the places
may be gone afterwards; where there was none, nothing is lost, and the relation can be
read from either side.

Two more things do not change then. A directory that has been made is not made again,
and where a database path has a full name before and afterwards, it is the same one.
-/

namespace SymbolAtlas

namespace Files

/-- The directory that a path leads to, if it may be listed: its names, what lies in it, and
which directories from it on may not be listed. -/
def treeAt? (files : Files) (root : String) :
    Option (List String × List (String × Entry) × List (List String)) :=
  match files.place root with
  | .present names (.directory entries) =>
    if files.unlisted.contains names then none
    else some (names, entries, files.unlisted.filter names.isPrefixOf)
  | _ => none

/-- No link stands at one of some places. -/
def Unlinked (places : List (List String)) (files : Files) : Prop :=
  ∀ place ∈ places, ∀ target, files.sight place ≠ some (.link target)

/-- Later files that differ only in the regular files at some places, and in links there that
are gone. -/
structure Refiles (places : List (List String)) (before after : Files) : Prop
    extends before.Sheds after where
  kept : ∀ names ∉ places, ∀ target, before.sight names = some (.link target) →
    after.sight names = some (.link target)
  entries : ∀ names, (∀ place ∈ places, ¬ names <+: place) →
    entryAt names after.entries = entryAt names before.entries

variable {files before middle after made : Files} {places : List (List String)}
  {names place : List String} {root path : String} {entries : List (String × Entry)}
  {hidden : List (List String)}

/-- A tree is where a crawl can start. -/
theorem treeAt?_eq_some_iff :
    files.treeAt? root = some (names, entries, hidden) ↔
      files.CrawlsFrom root names ∧ entryAt names files.entries = some (.directory entries) ∧
        files.unlisted.filter names.isPrefixOf = hidden := by
  have led : files.treeAt? root = some (names, entries, hidden) ↔
      files.place root = .present names (.directory entries) ∧ names ∉ files.unlisted ∧
        files.unlisted.filter names.isPrefixOf = hidden := by
    unfold treeAt?
    split
    · rename_i found inner reached
      rw [reached]
      by_cases unlisted : found ∈ files.unlisted
      · simp only [List.contains_eq_mem, decide_eq_true unlisted, if_true, reduceCtorEq,
          Place.present.injEq, false_iff, not_and]
        rintro ⟨rfl, -⟩ listed
        exact absurd unlisted listed
      · simp only [List.contains_eq_mem, decide_eq_false unlisted, Bool.false_eq_true, if_false,
          Option.some.injEq, Prod.mk.injEq, Place.present.injEq, Entry.directory.injEq]
        constructor
        · rintro ⟨rfl, rfl, rfl⟩
          exact ⟨⟨rfl, rfl⟩, unlisted, rfl⟩
        · rintro ⟨⟨rfl, rfl⟩, -, rfl⟩
          exact ⟨rfl, rfl, rfl⟩
    · rename_i elsewhere
      constructor
      · intro none
        simp at none
      · rintro ⟨reached, -⟩
        exact absurd reached (elsewhere names entries)
  rw [led, place_eq_present_iff]
  constructor
  · rintro ⟨⟨sound, leads, there⟩, listed, same⟩
    exact ⟨⟨sound, leads, sightAt_eq_directory.2 ⟨entries, there⟩, listed⟩, there, same⟩
  · rintro ⟨start, there, same⟩
    exact ⟨⟨start.sound, start.leads, there⟩, start.listed, same⟩

namespace Refiles

/-- File systems do not differ from themselves. -/
theorem refl (places : List (List String)) (files : Files) : files.Refiles places files :=
  ⟨.refl files, fun _ _ _ => id, fun _ _ => rfl⟩

/-- Differences at the same places add up. -/
theorem trans (first : before.Refiles places middle) (second : middle.Refiles places after) :
    before.Refiles places after where
  toSheds := first.toSheds.trans second.toSheds
  kept names elsewhere target link :=
    second.kept names elsewhere target (first.kept names elsewhere target link)
  entries names outside := (second.entries names outside).trans (first.entries names outside)

/-- No link comes to stand at one of the places. -/
theorem unlinked (refiles : before.Refiles places after) (free : before.Unlinked places) :
    after.Unlinked places :=
  fun place listed target link => free place listed target (refiles.link place target link)

/-- Of two later file systems, one without links at the places differs from the other only
there. -/
theorem across (refiles : before.Refiles places after) (other : before.Refiles places middle)
    (free : middle.Unlinked places) : after.Refiles places middle where
  current := other.current.trans refiles.current.symm
  unlisted := other.unlisted.trans refiles.unlisted.symm
  directory names := (other.directory names).trans (refiles.directory names).symm
  link names target link := by
    by_cases listed : names ∈ places
    · exact absurd link (free names listed target)
    · exact refiles.kept names listed target (other.link names target link)
  kept names elsewhere target link :=
    other.kept names elsewhere target (refiles.link names target link)
  entries names outside := (other.entries names outside).trans (refiles.entries names outside).symm

/-- Where no link stood at the places, the difference is the same from either side. -/
theorem symm (refiles : before.Refiles places after) (free : before.Unlinked places) :
    after.Refiles places before :=
  refiles.across (.refl places before) free

/-- A path that leads to a directory has led to the same one before. -/
theorem arrived (refiles : before.Refiles places after)
    (leads : Leads after.sight .target linkLimit after.current (steps root) (.arrived names))
    (directory : after.sight names = some .directory) :
    Leads before.sight .target linkLimit before.current (steps root) (.arrived names) := by
  rw [← refiles.current]
  refine leads.arrived_before (isRooted_steps root) ?_ refiles.link ?_
  · exact fun names seen => (refiles.directory names).1 seen
  · intro isFile
    rw [directory] at isFile
    simp at isFile

/-- Where a crawl can start, it could have started before. -/
theorem crawlsFrom (refiles : before.Refiles places after) (start : after.CrawlsFrom root names) :
    before.CrawlsFrom root names where
  sound := start.sound
  leads := refiles.arrived start.leads start.directory
  directory := (refiles.directory names).1 start.directory
  listed := refiles.unlisted ▸ start.listed

/-- A path that leads to a directory still does. -/
theorem isDirectory (refiles : before.Refiles places after) (free : before.Unlinked places)
    (there : before.isDirectory path = true) : after.isDirectory path = true := by
  obtain ⟨sound, names, leads, directory⟩ := isDirectory_eq_true_iff.1 there
  exact isDirectory_eq_true_iff.2 ⟨sound, names, (refiles.symm free).arrived leads directory,
    (refiles.directory names).2 directory⟩

/-- A tree around none of the places is found as it was. -/
theorem treeAt?_of_some (refiles : before.Refiles places after) (free : before.Unlinked places)
    (there : before.treeAt? root = some (names, entries, hidden))
    (outside : ∀ place ∈ places, ¬ names <+: place) :
    after.treeAt? root = some (names, entries, hidden) := by
  obtain ⟨start, held, same⟩ := treeAt?_eq_some_iff.1 there
  refine treeAt?_eq_some_iff.2 ⟨(refiles.symm free).crawlsFrom start, ?_, ?_⟩
  · rw [refiles.entries names outside]
    exact held
  · rw [refiles.unlisted]
    exact same

/-- What a path leads to is the same tree as before, or no tree as before, unless the tree is
around one of the places. -/
theorem treeAt? (refiles : before.Refiles places after) (free : before.Unlinked places)
    (outside : ∀ tree, before.treeAt? root = some tree →
      ∀ place ∈ places, ¬ tree.1 <+: place) :
    after.treeAt? root = before.treeAt? root := by
  cases there : before.treeAt? root with
  | some tree => exact refiles.treeAt?_of_some free there (outside _ there)
  | none =>
    cases later : after.treeAt? root with
    | none => rfl
    | some tree =>
      obtain ⟨start, -⟩ := treeAt?_eq_some_iff.1 later
      have earlier := refiles.crawlsFrom start
      obtain ⟨inner, held⟩ := sightAt_eq_directory.1 earlier.directory
      have found := treeAt?_eq_some_iff.2 ⟨earlier, held, rfl⟩
      rw [there] at found
      simp at found

/-- Full names that are found in both are the same: a regular file on the way ends the search,
and nothing else about it counts. -/
theorem nameThrough_unique (refiles : before.Refiles places after)
    (free : before.Unlinked places) {links : Nat} {start result other : List String}
    {path : List PathStep} (found : before.nameThrough links start path = some result)
    (again : after.nameThrough links start path = some other) : other = result := by
  induction links generalizing start path with
  | zero => simp [nameThrough] at found
  | succ links further =>
    rw [nameThrough] at found again
    induction path generalizing start with
    | nil =>
      simp only [nameFrom, Option.some.injEq] at found again
      exact again.symm.trans found
    | cons step rest hypothesis =>
      cases step with
      | slash =>
        rw [nameFrom] at found again
        exact hypothesis found again
      | go component =>
        cases component with
        | root | current | parent =>
          rw [nameFrom] at found again
          exact hypothesis found again
        | name name =>
          obtain ⟨-, ⟨unseen, onward⟩ | ⟨opens, chosen⟩⟩ := nameFrom_name_eq_some_iff.1 found
          · obtain ⟨-, ⟨-, onwardAgain⟩ | ⟨opensAgain, -⟩⟩ := nameFrom_name_eq_some_iff.1 again
            · exact hypothesis onward onwardAgain
            · have seen := (refiles.directory start).1 opensAgain.directory
              rw [unseen] at seen
              simp at seen
          · obtain ⟨-, ⟨unseen, -⟩ | ⟨-, chosenAgain⟩⟩ := nameFrom_name_eq_some_iff.1 again
            · have seen := (refiles.directory start).2 opens.directory
              rw [unseen] at seen
              simp at seen
            · rcases chosen with ⟨target, link, jumped⟩ | ⟨unlinked, onward⟩
              · have still := (refiles.symm free).link _ target link
                rcases chosenAgain with ⟨target', link', jumped'⟩ | ⟨unlinked', -⟩
                · rw [still] at link'
                  obtain rfl := Sight.link.inj (Option.some.inj link')
                  exact further jumped jumped'
                · exact absurd still (unlinked' target)
              · rcases chosenAgain with ⟨target', link', -⟩ | ⟨-, onward'⟩
                · exact absurd (refiles.link _ target' link') (unlinked target')
                · exact hypothesis onward onward'

/-- The full name of a database path is the same in both, if it has one in both. -/
theorem fullName?_unique (refiles : before.Refiles places after)
    (free : before.Unlinked places) {result other : List String}
    (found : before.fullName? path = some result)
    (again : after.fullName? path = some other) : other = result := by
  unfold Files.fullName? at found again
  obtain ⟨through, -⟩ := Option.filter_eq_some_iff.1 found
  obtain ⟨throughAgain, -⟩ := Option.filter_eq_some_iff.1 again
  rw [refiles.current] at throughAgain
  exact refiles.nameThrough_unique free through throughAgain

end Refiles

section Plain

variable {entry : Option Entry}

/-- What is put somewhere is a regular file then. -/
theorem exists_content_of_plain {new : Entry}
    (plain : entry = none ∨ ∃ content, entry = some (.file content)) (same : entry = some new) :
    ∃ content, new = .file content := by
  subst same
  obtain none | ⟨content, same⟩ := plain
  · simp at none
  · exact ⟨content, Option.some.inj same⟩

/-- It holds no further entries. -/
theorem isBare_of_plain (plain : entry = none ∨ ∃ content, entry = some (.file content)) :
    ∀ new, entry = some new → new.isBare = true := by
  intro new same
  obtain ⟨content, rfl⟩ := exists_content_of_plain plain same
  rfl

/-- The names stay distinct. -/
theorem isDistinctAmong_bind_plain (distinct : isDistinctAmong files.entries = true)
    (plain : entry = none ∨ ∃ content, entry = some (.file content)) :
    isDistinctAmong (files.bind place entry).entries = true := by
  apply isDistinctAmong_bindAt distinct
  intro new same
  obtain ⟨content, rfl⟩ := exists_content_of_plain plain same
  rfl

/-- No link is where a regular file has been put or something taken away. -/
theorem sight_bind_ne_link (distinct : isDistinctAmong files.entries = true)
    (admits : files.Admits place)
    (plain : entry = none ∨ ∃ content, entry = some (.file content)) (target : String) :
    (files.bind place entry).sight place ≠ some (.link target) := by
  rw [sight_bind distinct admits (isBare_of_plain plain), if_pos rfl]
  rcases plain with rfl | ⟨content, rfl⟩ <;> simp [Entry.sight]

/-- Putting a regular file at one of the places, or taking away what is no directory, is such a
difference. -/
theorem refiles_bind (distinct : isDistinctAmong files.entries = true)
    (admits : files.Admits place) (listed : place ∈ places)
    (plain : entry = none ∨ ∃ content, entry = some (.file content)) :
    files.Refiles places (files.bind place entry) := by
  have view := sight_bind distinct admits (isBare_of_plain plain)
  refine ⟨sheds_bind distinct admits plain, ?_, ?_⟩
  · intro names elsewhere target link
    have other : names ≠ place := fun same => elsewhere (same ▸ listed)
    rwa [view, if_neg other]
  · intro names outside
    by_cases below : place <+: names
    · -- Below a place that holds no directory there is nothing before and nothing afterwards.
      obtain ⟨rest, rfl⟩ := below
      have further : rest ≠ [] := by
        rintro rfl
        exact outside place listed (by simp)
      have vacant : sightAt (place ++ rest) files.entries = none :=
        sightAt_append_eq_none further admits.closed
      have still : (files.bind place entry).sight (place ++ rest) = none := by
        rw [view, if_neg (by simpa using further)]
        exact vacant
      rw [sightAt_eq_none.1 vacant]
      exact sightAt_eq_none.1 still
    · exact entryAt_bindAt_apart below (outside place listed)

end Plain

/-- The files without a link at some names. -/
def unlinkAt (files : Files) (names : List String) : Files :=
  match files.sight names with
  | some (.link _) => files.bind names none
  | _ => files

/-- The files without the links at some places. -/
def unlink (files : Files) (places : List (List String)) : Files := places.foldl unlinkAt files

/-- Taking away a link at one of the places leaves the rest, and there is none afterwards. -/
theorem refiles_unlinkAt (distinct : isDistinctAmong files.entries = true)
    (nonempty : place ≠ []) (listed : place ∈ places) :
    files.Refiles places (files.unlinkAt place) ∧
      isDistinctAmong (files.unlinkAt place).entries = true ∧
      ∀ target, (files.unlinkAt place).sight place ≠ some (.link target) := by
  unfold unlinkAt
  split
  · rename_i aim linked
    have admits : files.Admits place := by
      refine ⟨nonempty, sight_dropLast nonempty ?_, ?_⟩ <;> simp [linked]
    exact ⟨refiles_bind distinct admits listed (.inl rfl),
      isDistinctAmong_bind_plain distinct (.inl rfl),
      sight_bind_ne_link distinct admits (.inl rfl)⟩
  · rename_i unlinked
    exact ⟨.refl places files, distinct, unlinked⟩

/-- Taking away the links at some places leaves the rest, and there is none afterwards. -/
theorem refiles_unlink (distinct : isDistinctAmong files.entries = true)
    (nonempty : ∀ place ∈ places, place ≠ []) :
    files.Refiles places (files.unlink places) ∧
      isDistinctAmong (files.unlink places).entries = true ∧
      (files.unlink places).Unlinked places := by
  -- The links at the first of the places are gone, and stay away while the others are taken.
  have each : ∀ rest ⊆ places, ∀ files : Files, isDistinctAmong files.entries = true →
      files.Refiles places (rest.foldl unlinkAt files) ∧
        isDistinctAmong (rest.foldl unlinkAt files).entries = true ∧
        (rest.foldl unlinkAt files).Unlinked rest := by
    intro rest
    induction rest with
    | nil =>
      intro _ files distinct
      exact ⟨.refl places files, distinct, by simp [Unlinked]⟩
    | cons place rest hypothesis =>
      intro listed files distinct
      rw [List.cons_subset] at listed
      obtain ⟨first, distinctFirst, unlinked⟩ :=
        refiles_unlinkAt distinct (nonempty place listed.1) listed.1
      obtain ⟨onward, distinctRest, others⟩ := hypothesis listed.2 _ distinctFirst
      refine ⟨first.trans onward, distinctRest, ?_⟩
      intro other member target link
      rcases List.mem_cons.1 member with rfl | behind
      · exact unlinked target (onward.link _ target link)
      · exact others other behind target link
  exact each places (List.Subset.refl places) files distinct

/-- Where no link is at some places, none is taken away. -/
theorem unlink_of_unlinked (free : files.Unlinked places) : files.unlink places = files := by
  unfold unlink
  induction places with
  | nil => rfl
  | cons place rest hypothesis =>
    have here : files.unlinkAt place = files := by
      unfold unlinkAt
      split
      · rename_i target link
        exact absurd link (free place (by simp) target)
      · rfl
    rw [List.foldl_cons, here]
    exact hypothesis fun other listed => free other (by simp [listed])

end Files

namespace Leads

variable {sight later : List String → Option Sight} {links : Nat} {start found : List String}
  {path last : List PathStep} {name : String}

/-- A path that led to a missing name arrives once there is a directory of that name, and
nothing else has changed. -/
theorem arrived_made (leads : Leads sight .entry links start path (.missing found name))
    (view : ∀ names, later names =
      if names = found ++ [name] then some .directory else sight names)
    (ending : last = [] ∨ last = [.slash]) :
    Leads later .target links start (path ++ last) (.arrived (found ++ [name])) := by
  generalize reached : Verdict.missing found name = verdict at leads
  have unseen : sight (found ++ [name]) = none := by
    subst reached
    exact leads.of_missing.2
  -- What was seen before is still seen, since nothing was seen where the directory is made.
  have kept : ∀ {names : List String} {look : Sight}, sight names = some look →
      later names = some look := by
    intro names look seen
    rw [view, if_neg]
    · exact seen
    · rintro rfl
      rw [unseen] at seen
      simp at seen
  have shown : later (found ++ [name]) = some .directory := by rw [view, if_pos rfl]
  induction leads with
  | missing opens _ =>
    obtain ⟨rfl, rfl⟩ := Verdict.missing.inj reached
    refine .enter ⟨kept opens.directory, opens.short⟩ (.inr shown) ?_
    rcases ending with rfl | rfl
    · exact .arrive (by simp [shown])
    · exact .stay (.inr rfl) shown (.arrive (by simp [shown]))
  | root _ hypothesis => exact .root (hypothesis reached)
  | up directory _ hypothesis => exact .up (kept directory) (hypothesis reached)
  | stay still directory _ hypothesis => exact .stay still (kept directory) (hypothesis reached)
  | jump opens link _ _ hypothesis =>
    refine .jump_append ⟨kept opens.directory, opens.short⟩ (kept link) (by simp) ?_
    exact hypothesis reached
  | enter opens solid _ hypothesis =>
    refine .enter ⟨kept opens.directory, opens.short⟩ ?_ (hypothesis reached)
    exact solid.imp kept kept
  | arrive | lost | blocked | overlong | nowhere | halt | exhausted => simp at reached

end Leads

namespace Files

variable {files later made : Files} {places : List (List String)} {path : String}

/-- A directory that has been made is there. -/
theorem isDirectory_of_makeDirectory (distinct : isDistinctAmong files.entries = true)
    (done : files.makeDirectory path = .ok made) : made.isDirectory path = true := by
  rw [makeDirectory_eq] at done
  cases sound : textError? path with
  | some error => simp [sound] at done
  | none =>
    simp only [sound] at done
    cases verdict : (files.placeOf .entry (entrySteps path)).verdict with
    | arrived => simp [verdict] at done
    | failed => simp [verdict] at done
    | missing names name =>
      simp only [verdict, Except.ok.injEq] at done
      subst done
      have leads := (leads_iff (by simp : Purpose.entry ≠ .creation)).2 verdict
      obtain ⟨room, vacant⟩ := leads.of_missing
      have admits : files.Admits (names ++ [name]) :=
        ⟨by simp, by simpa using room, by simp [vacant]⟩
      have view : ∀ other, (files.bind (names ++ [name]) (some (.directory []))).sight other =
          if other = names ++ [name] then some .directory else files.sight other :=
        sight_bind distinct admits (by simp [Entry.isBare])
      obtain ⟨last, whole, ending⟩ := exists_steps_eq path
      refine isDirectory_eq_true_iff.2 ⟨sound, names ++ [name], ?_, ?_⟩
      · rw [whole]
        exact leads.arrived_made view ending
      · rw [view, if_pos rfl]

/-- Making directories keeps the names in every directory distinct. -/
theorem isDistinctAmong_makeDirectories (distinct : isDistinctAmong files.entries = true)
    (path : String) (components : List Component) :
    isDistinctAmong (files.makeDirectories path components).1.entries = true := by
  apply makeDirectories_induction (fun files => isDistinctAmong files.entries = true) _ path
    components distinct
  intro files names distinct _
  exact isDistinctAmong_bindAt distinct (by simp [Entry.isDistinct, isDistinctAmong])

/-- Where a chain of directories has been made, the last of them is there. -/
theorem isDirectory_of_makeDirectories (distinct : isDistinctAmong files.entries = true)
    {last : Component} {before : List Component}
    (done : (files.makeDirectories path (last :: before)).2 = .ok ()) :
    (files.makeDirectories path (last :: before)).1.isDirectory path = true := by
  by_cases there : files.isDirectory path = true
  · rw [makeDirectories_of_isDirectory there]
    exact there
  · unfold makeDirectories at done ⊢
    cases first : files.makeDirectory path with
    | ok made => exact isDirectory_of_makeDirectory distinct first
    | error error =>
      rw [first] at done
      by_cases absent : error = .notFound
      · subst absent
        have above := isDistinctAmong_makeDirectories distinct
          (Path.ofComponents before.reverse) before
        rcases parents : files.makeDirectories (Path.ofComponents before.reverse) before with
          ⟨made, result⟩
        rw [parents] at done above
        cases result with
        | error error => simp at done
        | ok =>
          dsimp only at done ⊢
          cases second : made.makeDirectory path with
          | ok all => exact isDirectory_of_makeDirectory above second
          | error error =>
            rw [second] at done
            by_cases now : made.isDirectory path = true
            · simp [now]
            · simp [now] at done
      · cases error <;> first | exact absurd rfl absent | simp [there] at done

/-- Making the directory of a path keeps the names in every directory distinct. -/
theorem isDistinctAmong_makeParent (distinct : isDistinctAmong files.entries = true)
    (path : String) : isDistinctAmong (files.makeParent path).1.entries = true := by
  unfold makeParent
  split
  · exact distinct
  · exact isDistinctAmong_makeDirectories distinct _ _

/-- Once the directory of a path has been made, there is nothing left to make, also when files
have come and gone since. -/
theorem makeParent_again (distinct : isDistinctAmong files.entries = true)
    (done : (files.makeParent path).2 = .ok ())
    (free : (files.makeParent path).1.Unlinked places)
    (refiles : (files.makeParent path).1.Refiles places later) :
    later.makeParent path = (later, .ok ()) := by
  unfold makeParent at done free refiles ⊢
  cases parent : Path.parent? path with
  | none => rfl
  | some components =>
    rw [parent] at done free refiles
    dsimp only at done free refiles ⊢
    cases reversed : components.reverse with
    | nil => rfl
    | cons last before =>
      rw [reversed] at done free refiles
      have there := isDirectory_of_makeDirectories distinct done
      exact makeDirectories_of_isDirectory (refiles.isDirectory free there) _

end Files

end SymbolAtlas
