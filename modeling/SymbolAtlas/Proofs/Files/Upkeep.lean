import SymbolAtlas.Files.FullName
import SymbolAtlas.Proofs.Files.Following

/-!
# Taking files away and making directories

What the operations on a file system do to its view. Taking away what a path names
hides one place and shows nothing new, so afterwards the path leads nowhere and
every path that leads somewhere did so before. Making directories leaves alone what
is a directory already; on a file system that lacks a regular file it succeeds
wherever it succeeds with the file, and makes the same directories.
-/

namespace SymbolAtlas

namespace Files

variable {files left full lacking : Files} {path other : String} {names gone : List String}
  {content : Content}

/-- A path is held where it is followed to an entry. -/
theorem holds_eq_true_iff :
    files.holds path = true ↔ textError? path = none ∧
      ∃ found, Leads files.sight .target linkLimit files.current (steps path) (.arrived found) := by
  unfold holds place find
  cases textError? path with
  | some error => simp
  | none =>
    simp only [true_and, leads_iff (by simp : Purpose.target ≠ .creation)]
    cases files.placeOf .target (steps path) <;> simp [Place.verdict]

/-- A path leads to an entry where it is followed to it. -/
theorem place_eq_present_iff {entry : Entry} :
    files.place path = .present names entry ↔ textError? path = none ∧
      Leads files.sight .target linkLimit files.current (steps path) (.arrived names) ∧
      entryAt names files.entries = some entry := by
  unfold place find
  cases textError? path with
  | some error => simp
  | none => simp only [true_and, placeOf_eq_present_iff (by simp : Purpose.target ≠ .creation)]

/-- A path names an entry where it is followed to it up to a separator at its end. -/
theorem findEntry_eq_present_iff {entry : Entry} :
    (files.findEntry path).1 = .present names entry ↔ textError? path = none ∧
      Leads files.sight .entry linkLimit files.current ((steps path).filter (· ≠ .slash))
        (.arrived names) ∧ entryAt names files.entries = some entry := by
  unfold findEntry
  cases textError? path with
  | some error => simp
  | none => simp only [true_and, placeOf_eq_present_iff (by simp : Purpose.entry ≠ .creation)]

/-- What can be taken away is named without a separator at the end and is no directory. -/
theorem removeFile_cases (removed : files.removeFile path = .ok left) :
    ∃ found entry, (files.findEntry path).1 = .present found entry ∧
      Leads files.sight .entry linkLimit files.current (steps path) (.arrived found) ∧
      files.Admits found ∧ left = files.bind found none := by
  unfold removeFile findEntry at removed
  unfold findEntry
  cases refused : textError? path with
  | some error => simp [refused] at removed
  | none =>
    simp only [refused] at removed ⊢
    cases arrival : files.placeOf .entry ((steps path).filter (· ≠ .slash)) with
    | absent found name => simp only [arrival, reduceCtorEq] at removed
    | failed error => simp only [arrival, reduceCtorEq] at removed
    | present found entry =>
      simp only [arrival] at removed
      obtain ⟨leads, there⟩ := (placeOf_eq_present_iff (by simp)).1 arrival
      cases slash : (steps path).contains .slash with
      | true => cases entry <;> simp only [slash, reduceCtorEq] at removed
      | false =>
        have plain : (steps path).filter (· ≠ .slash) = steps path := by
          rw [List.filter_eq_self]
          intro step inside
          have notSlash : step ≠ .slash := by
            rintro rfl
            simp [inside] at slash
          simpa using notSlash
        rw [plain] at leads
        rw [slash] at removed
        cases entry with
        | directory inner => simp at removed
        | file content =>
          refine ⟨found, .file content, rfl, leads, ?_, by simpa using removed.symm⟩
          exact admits_of_seen (by simp [sight, there])
            (by simp [sight, sightAt, there, Entry.sight])
        | link target =>
          refine ⟨found, .link target, rfl, leads, ?_, by simpa using removed.symm⟩
          exact admits_of_seen (by simp [sight, there])
            (by simp [sight, sightAt, there, Entry.sight])

/-- What was named by a path that has been taken away is gone. -/
theorem holds_removeFile (distinct : isDistinctAmong files.entries = true)
    (removed : files.removeFile path = .ok left) : left.holds path = false := by
  obtain ⟨found, entry, -, leads, admits, rfl⟩ := removeFile_cases removed
  have view : ∀ names, (files.bind found none).sight names =
      if names = found then none else files.sight names :=
    sight_bind distinct admits (by simp)
  obtain ⟨other, onward, absent⟩ := leads.removed ⟨admits.closed, view⟩
  rw [← Bool.not_eq_true, holds_eq_true_iff]
  rintro ⟨-, arrival, arrives⟩
  have first := verdict_of_leads (by simp) onward
  have second := verdict_of_leads (by simp) arrives
  exact absent arrival (first.symm.trans second)

end Files

/-- Steps from which separators at the end may have been dropped. -/
inductive Trims : List PathStep → List PathStep → Prop
  | nil : Trims [] []
  | keep (step : PathStep) {path trimmed : List PathStep} (rest : Trims path trimmed) :
      Trims (step :: path) (step :: trimmed)
  | drop {path trimmed : List PathStep} (rest : Trims path trimmed) :
      Trims (.slash :: path) trimmed

/-- Steps without their separators are such. -/
theorem trims_filter (path : List PathStep) : Trims path (path.filter (· ≠ .slash)) := by
  induction path with
  | nil => exact .nil
  | cons step rest hypothesis =>
    by_cases slash : step = .slash
    · subst slash
      exact .drop hypothesis
    · rw [List.filter_cons_of_pos (by simpa using slash)]
      exact .keep step hypothesis

/-- So are the same steps with others before them. -/
theorem Trims.append {path trimmed : List PathStep} (trims : Trims path trimmed)
    (before : List PathStep) : Trims (before ++ path) (before ++ trimmed) := by
  induction before with
  | nil => exact trims
  | cons step rest hypothesis => exact .keep step hypothesis

namespace Leads

variable {sight : List String → Option Sight} {links : Nat} {start found : List String}
  {path trimmed : List PathStep}

/-- A path that arrives somewhere names an entry. -/
theorem exists_entry (leads : Leads sight .target links start path (.arrived found))
    (trims : Trims path trimmed) :
    ∃ named, Leads sight .entry links start trimmed (.arrived named) := by
  generalize reached : Verdict.arrived found = verdict at leads
  induction leads generalizing trimmed with
  | arrive seen =>
    cases trims
    exact ⟨_, .arrive seen⟩
  | root _ hypothesis =>
    cases trims with
    | keep _ rest =>
      obtain ⟨named, onward⟩ := hypothesis rest reached
      exact ⟨named, .root onward⟩
  | up directory _ hypothesis =>
    cases trims with
    | keep _ rest =>
      obtain ⟨named, onward⟩ := hypothesis rest reached
      exact ⟨named, .up directory onward⟩
  | stay still directory _ hypothesis =>
    cases trims with
    | keep _ rest =>
      obtain ⟨named, onward⟩ := hypothesis rest reached
      exact ⟨named, .stay still directory onward⟩
    | drop rest => exact hypothesis rest reached
  | jump opens link through _ hypothesis =>
    cases trims with
    | @keep _ _ trimmed rest =>
      -- At the end of what is left the link itself is the entry.
      by_cases last : trimmed = []
      · subst last
        exact ⟨_, .halt opens link rfl⟩
      · obtain ⟨named, onward⟩ := hypothesis (rest.append _) reached
        exact ⟨named, .jump opens link (fun empty => absurd empty last) onward⟩
  | enter opens solid _ hypothesis =>
    cases trims with
    | keep _ rest =>
      obtain ⟨named, onward⟩ := hypothesis rest reached
      exact ⟨named, .enter opens solid onward⟩
  | halt _ _ itself => simp at itself
  | lost | blocked | overlong | missing | nowhere | exhausted => simp at reached

/-- Something is seen where a path arrives. -/
theorem seen {purpose : Purpose}
    (leads : Leads sight purpose links start path (.arrived found)) : sight found ≠ none := by
  generalize reached : Verdict.arrived found = verdict at leads
  induction leads with
  | arrive seen =>
    obtain rfl := Verdict.arrived.inj reached
    exact seen
  | halt _ link =>
    obtain rfl := Verdict.arrived.inj reached
    simp [link]
  | root _ hypothesis => exact hypothesis reached
  | up _ _ hypothesis => exact hypothesis reached
  | stay _ _ _ hypothesis => exact hypothesis reached
  | jump _ _ _ _ hypothesis => exact hypothesis reached
  | enter _ _ _ hypothesis => exact hypothesis reached
  | lost | blocked | overlong | missing | nowhere | exhausted => simp at reached

/-- A name is missing only in a directory. -/
theorem of_missing {purpose : Purpose} {name : String}
    (leads : Leads sight purpose links start path (.missing found name)) :
    sight found = some .directory ∧ sight (found ++ [name]) = none := by
  generalize reached : Verdict.missing found name = verdict at leads
  induction leads with
  | missing opens unseen =>
    obtain ⟨rfl, rfl⟩ := Verdict.missing.inj reached
    exact ⟨opens.directory, unseen⟩
  | root _ hypothesis => exact hypothesis reached
  | up _ _ hypothesis => exact hypothesis reached
  | stay _ _ _ hypothesis => exact hypothesis reached
  | jump _ _ _ _ hypothesis => exact hypothesis reached
  | enter _ _ _ hypothesis => exact hypothesis reached
  | arrive | lost | blocked | overlong | nowhere | halt | exhausted => simp at reached

end Leads

namespace Files

variable {files full lacking : Files} {path : String} {names gone : List String}
  {content : Content}

/-- A path leads to a directory where it arrives at one. -/
theorem isDirectory_eq_true_iff :
    files.isDirectory path = true ↔ textError? path = none ∧
      ∃ found, Leads files.sight .target linkLimit files.current (steps path) (.arrived found) ∧
        files.sight found = some .directory := by
  have shape : files.isDirectory path = true ↔
      ∃ found inner, files.place path = .present found (.directory inner) := by
    unfold isDirectory
    rcases files.place path with ⟨found, _ | _ | _⟩ | _ | _ <;> simp
  rw [shape]
  constructor
  · rintro ⟨found, inner, present⟩
    obtain ⟨sound, leads, there⟩ := place_eq_present_iff.1 present
    exact ⟨sound, found, leads, sightAt_eq_directory.2 ⟨inner, there⟩⟩
  · rintro ⟨sound, found, leads, directory⟩
    obtain ⟨inner, there⟩ := sightAt_eq_directory.1 directory
    exact ⟨found, inner, place_eq_present_iff.2 ⟨sound, leads, there⟩⟩

/-- The steps by which the entry of a path is found. -/
def entrySteps (path : String) : List PathStep :=
  (steps path).filter (· ≠ .slash)

/-- The steps to an entry go to the root at most in the beginning. -/
theorem isRooted_entrySteps (path : String) : IsRooted (entrySteps path) :=
  (isRooted_steps path).filter _

/-- Whether a directory is made depends on where the path leads, and on nothing else. -/
theorem makeDirectory_eq (files : Files) (path : String) :
    files.makeDirectory path =
      match textError? path with
      | some error => .error error
      | none =>
        match (files.placeOf .entry (entrySteps path)).verdict with
        | .arrived _ => .error .alreadyExists
        | .missing names name => .ok (files.bind (names ++ [name]) (some (.directory [])))
        | .failed error => .error error := by
  unfold makeDirectory findEntry
  rw [← entrySteps]
  cases textError? path with
  | some error => rfl
  | none => cases files.placeOf .entry (entrySteps path) <;> rfl

/-- A directory cannot be made where one is. -/
theorem makeDirectory_of_isDirectory (there : files.isDirectory path = true) :
    files.makeDirectory path = .error .alreadyExists := by
  obtain ⟨sound, found, leads, -⟩ := isDirectory_eq_true_iff.1 there
  obtain ⟨named, arrives⟩ := leads.exists_entry (trims_filter _)
  have verdict := (leads_iff (by simp)).1 arrives
  rw [← entrySteps] at verdict
  rw [makeDirectory_eq, sound, verdict]

/-- What is a directory already is left alone. -/
theorem makeDirectories_of_isDirectory (there : files.isDirectory path = true)
    (components : List Component) : files.makeDirectories path components = (files, .ok ()) := by
  cases components with
  | nil => rfl
  | cons last before => simp [makeDirectories, makeDirectory_of_isDirectory there, there]

/-- The full name behind one more name, by what is seen on the way. -/
theorem nameFrom_name (files : Files)
    (jump : List String → List PathStep → Option (List String)) (names : List String)
    (name : String) (rest : List PathStep) :
    files.nameFrom jump names (.go (.name name) :: rest) =
      if fullNameLimit ≤ writtenSize (names ++ [name]) then none
      else match files.sight names with
        | none => files.nameFrom jump (names ++ [name]) rest
        | some .directory =>
          if nameLimit < name.utf8ByteSize then none
          else match files.sight (names ++ [name]) with
            | some (.link target) => jump names (steps target ++ rest)
            | _ => files.nameFrom jump (names ++ [name]) rest
        | some _ => none := by
  rw [nameFrom]
  cases there : entryAt names files.entries with
  | none => simp [sight, sightAt, there]
  | some entry =>
    cases entry with
    | directory inner =>
      rw [sight_concat there]
      have seen : files.sight names = some .directory := sightAt_eq_directory.2 ⟨inner, there⟩
      rw [seen]
      dsimp only
      cases inner.lookup name with
      | none => rfl
      | some below => cases below <;> rfl
    | file content => simp [sight, sightAt, there, Entry.sight]
    | link target => simp [sight, sightAt, there, Entry.sight]

/-- A full name goes on behind one more name where there is nothing yet or a directory; in a
directory a link is followed. -/
theorem nameFrom_name_eq_some_iff {jump : List String → List PathStep → Option (List String)}
    {name : String} {rest : List PathStep} {result : List String} :
    files.nameFrom jump names (.go (.name name) :: rest) = some result ↔
      writtenSize (names ++ [name]) < fullNameLimit ∧
        (files.sight names = none ∧ files.nameFrom jump (names ++ [name]) rest = some result ∨
          CanLookUp files.sight names name ∧
            ((∃ target, files.sight (names ++ [name]) = some (.link target) ∧
                jump names (steps target ++ rest) = some result) ∨
              (∀ target, files.sight (names ++ [name]) ≠ some (.link target)) ∧
                files.nameFrom jump (names ++ [name]) rest = some result)) := by
  have room : CanLookUp files.sight names name ↔
      files.sight names = some .directory ∧ ¬ nameLimit < name.utf8ByteSize := by
    rw [Nat.not_lt]
    exact ⟨fun opens => ⟨opens.directory, opens.short⟩, fun both => ⟨both.1, both.2⟩⟩
  rw [nameFrom_name, room]
  by_cases long : fullNameLimit ≤ writtenSize (names ++ [name])
  · simp [Nat.not_lt.2 long, long]
  · rw [if_neg long, and_iff_right (Nat.lt_of_not_le long)]
    cases files.sight names with
    | none => simp
    | some what =>
      cases what with
      | file | link => simp
      | directory =>
        by_cases overlong : nameLimit < name.utf8ByteSize
        · simp [overlong]
        · rcases files.sight (names ++ [name]) with _ | _ | _ | _ <;> simp [overlong]

namespace Lacks

/-- Nothing else is hidden. -/
theorem hides (lacks : Lacks gone content full lacking) :
    Hides gone full.sight lacking.sight :=
  ⟨by simp [lacks.sight_gone], lacks.sight⟩

/-- Without the file, a path leads where it led, unless it needed the file. -/
theorem parts {purpose : Purpose} (notWriting : purpose ≠ .creation)
    (lacks : Lacks gone content full lacking) {path : List PathStep} (rooted : IsRooted path) :
    (full.placeOf purpose path).verdict.Parts gone (lacking.placeOf purpose path).verdict := by
  have leads : Leads full.sight purpose linkLimit full.current path
      (full.placeOf purpose path).verdict := (leads_iff notWriting).2 rfl
  obtain ⟨other, onward, parts⟩ := leads.without rooted lacks.sight_gone lacks.hides
  rw [← lacks.current] at onward
  rwa [(leads_iff notWriting).1 onward]

/-- A path that leads to a directory still does. -/
theorem isDirectory (lacks : Lacks gone content full lacking)
    (there : full.isDirectory path = true) : lacking.isDirectory path = true := by
  obtain ⟨sound, found, leads, directory⟩ := isDirectory_eq_true_iff.1 there
  refine isDirectory_eq_true_iff.2 ⟨sound, found, ?_⟩
  have different : found ≠ gone := by
    rintro rfl
    simp [lacks.sight_gone] at directory
  obtain ⟨other, onward, parts⟩ :=
    leads.without (isRooted_steps path) lacks.sight_gone lacks.hides
  cases parts with
  | same elsewhere =>
    rw [lacks.current, lacks.sight_of_ne different]
    exact ⟨onward, directory⟩
  | lost needed nowhere =>
    rcases needed with needed | needed
    · exact absurd (Verdict.arrived.inj needed) different
    · simp at needed

/-- Where a directory is made with the file, the same is made without it; and where one on
the way is missing, it is missing without the file too. -/
theorem makeDirectory (lacks : Lacks gone content full lacking) (path : String) :
    (∀ made, full.makeDirectory path = .ok made →
      ∃ other, lacking.makeDirectory path = .ok other ∧ Lacks gone content made other) ∧
    (full.makeDirectory path = .error .notFound →
      lacking.makeDirectory path = .error .notFound) := by
  have parts := lacks.parts (by simp : Purpose.entry ≠ .creation) (isRooted_entrySteps path)
  rw [makeDirectory_eq, makeDirectory_eq]
  cases textError? path with
  | some error => exact ⟨by simp, id⟩
  | none =>
    cases verdict : (full.placeOf .entry (entrySteps path)).verdict with
    | arrived names => exact ⟨by simp, by simp⟩
    | failed error =>
      refine ⟨by simp, ?_⟩
      rintro refused
      obtain rfl : error = .notFound := by simpa using refused
      rw [verdict] at parts
      generalize (lacking.placeOf .entry (entrySteps path)).verdict = other at parts
      cases parts with
      | same => rfl
      | lost needed => simp at needed
    | missing names name =>
      refine ⟨?_, by simp⟩
      rintro made done
      obtain rfl : full.bind (names ++ [name]) (some (.directory [])) = made := by
        simpa using done
      obtain ⟨room, vacant⟩ := ((leads_iff (by simp)).2 verdict).of_missing
      have admits : full.Admits (names ++ [name]) :=
        ⟨by simp, by simpa using room, by simp [vacant]⟩
      have different : names ++ [name] ≠ gone := by
        rintro rfl
        simp [lacks.sight_gone] at vacant
      rw [verdict] at parts
      generalize (lacking.placeOf .entry (entrySteps path)).verdict = other at parts
      cases parts with
      | same => exact ⟨_, rfl, lacks.bind admits different (by simp [Entry.isBare])⟩
      | lost needed => simp at needed

/-- Where a chain of directories is made with the file, the same is made without it. -/
theorem makeDirectories (lacks : Lacks gone content full lacking) (path : String)
    (components : List Component) (done : (full.makeDirectories path components).2 = .ok ()) :
    (lacking.makeDirectories path components).2 = .ok () ∧
      Lacks gone content (full.makeDirectories path components).1
        (lacking.makeDirectories path components).1 := by
  induction components generalizing path with
  | nil => exact ⟨rfl, lacks⟩
  | cons last before hypothesis =>
    by_cases there : full.isDirectory path = true
    · rw [makeDirectories_of_isDirectory there,
        makeDirectories_of_isDirectory (lacks.isDirectory there)]
      exact ⟨rfl, lacks⟩
    · obtain ⟨made, missed⟩ := lacks.makeDirectory path
      unfold Files.makeDirectories at done ⊢
      cases first : full.makeDirectory path with
      | ok result =>
        obtain ⟨other, again, still⟩ := made result first
        rw [again]
        exact ⟨rfl, still⟩
      | error error =>
        -- Only a missing directory on the way can be made up for.
        by_cases absent : error = .notFound
        · subst absent
          rw [missed first]
          rw [first] at done
          specialize hypothesis (Path.ofComponents before.reverse)
          rcases parents : full.makeDirectories (Path.ofComponents before.reverse) before with
            ⟨above, result⟩
          rcases others : lacking.makeDirectories (Path.ofComponents before.reverse) before with
            ⟨otherAbove, otherResult⟩
          rw [parents, others] at hypothesis
          rw [parents] at done
          cases result with
          | error error => simp at done
          | ok =>
            obtain ⟨rfl, stillAbove⟩ := hypothesis rfl
            obtain ⟨made, -⟩ := stillAbove.makeDirectory path
            dsimp only at done ⊢
            cases second : above.makeDirectory path with
            | ok all =>
              obtain ⟨other, again, still⟩ := made all second
              rw [again]
              exact ⟨rfl, still⟩
            | error error =>
              rw [second] at done
              by_cases now : above.isDirectory path = true
              · rw [makeDirectory_of_isDirectory (stillAbove.isDirectory now)]
                simp only [now, stillAbove.isDirectory now, if_true]
                exact ⟨trivial, stillAbove⟩
              · simp [now] at done
        · rw [first] at done
          cases error <;> first | exact absurd rfl absent | simp [there] at done

/-- The directory of a path is made without the file as it is made with it. -/
theorem makeParent (lacks : Lacks gone content full lacking) {path : String}
    (done : (full.makeParent path).2 = .ok ()) :
    (lacking.makeParent path).2 = .ok () ∧
      Lacks gone content (full.makeParent path).1 (lacking.makeParent path).1 := by
  unfold Files.makeParent at done ⊢
  cases parent : Path.parent? path with
  | none => exact ⟨rfl, lacks⟩
  | some components =>
    rw [parent] at done
    exact lacks.makeDirectories _ _ done

/-- A full name that can be found with the file is found without it, links to the file
included: a full name does not depend on whether anything is there. -/
theorem nameThrough (lacks : Lacks gone content full lacking) {links : Nat}
    {start result : List String} {path : List PathStep}
    (found : full.nameThrough links start path = some result) :
    lacking.nameThrough links start path = some result := by
  induction links generalizing start path with
  | zero => simp [Files.nameThrough] at found
  | succ links further =>
    rw [Files.nameThrough] at found ⊢
    induction path generalizing start with
    | nil => simpa [nameFrom] using found
    | cons step rest hypothesis =>
      match step with
      | .slash =>
        rw [nameFrom] at found ⊢
        exact hypothesis found
      | .go .root =>
        rw [nameFrom] at found ⊢
        exact hypothesis found
      | .go .current =>
        rw [nameFrom] at found ⊢
        exact hypothesis found
      | .go .parent =>
        rw [nameFrom] at found ⊢
        exact hypothesis found
      | .go (.name name) =>
        obtain ⟨fits, ⟨unseen, onward⟩ | ⟨opens, ⟨target, link, jumped⟩ | ⟨unlinked, onward⟩⟩⟩ :=
          nameFrom_name_eq_some_iff.1 found
        · have still := lacks.hides.kept_of_seen unseen (by simp [lacks.sight_gone])
          exact nameFrom_name_eq_some_iff.2 ⟨fits, .inl ⟨still, hypothesis onward⟩⟩
        · have still := lacks.hides.kept_of_seen link (by simp [lacks.sight_gone])
          exact nameFrom_name_eq_some_iff.2
            ⟨fits, .inr ⟨lacks.hides.opens opens, .inl ⟨target, still, further jumped⟩⟩⟩
        · have still : ∀ target, lacking.sight (start ++ [name]) ≠ some (.link target) := by
            intro target
            rw [lacks.sight]
            split
            · simp
            · exact unlinked target
          exact nameFrom_name_eq_some_iff.2
            ⟨fits, .inr ⟨lacks.hides.opens opens, .inr ⟨still, hypothesis onward⟩⟩⟩

/-- The full name of a database path is the same without the file. -/
theorem fullName? (lacks : Lacks gone content full lacking) {path : String}
    (found : full.fullName? path = some names) : lacking.fullName? path = some names := by
  unfold Files.fullName? at found ⊢
  obtain ⟨through, fits⟩ := Option.filter_eq_some_iff.1 found
  rw [lacks.current, lacks.nameThrough through, Option.filter_some, if_pos fits]

end Lacks

/-- Making directories hides nothing, and shows nothing new but directories. -/
theorem sight_makeParent (files : Files) (path : String) :
    (∀ names look, files.sight names = some look →
      (files.makeParent path).1.sight names = some look) ∧
    ∀ names target, (files.makeParent path).1.sight names = some (.link target) →
      files.sight names = some (.link target) := by
  refine makeParent_induction (fun later =>
    (∀ names look, files.sight names = some look → later.sight names = some look) ∧
    ∀ names target, later.sight names = some (.link target) →
      files.sight names = some (.link target)) ?_ path ⟨fun _ _ => id, fun _ _ => id⟩
  rintro later new ⟨shows, links⟩ vacant
  have closed : later.sight new ≠ some .directory := by simp [sight, sightAt, vacant]
  constructor
  · intro names look seen
    have before := shows names look seen
    rw [← before]
    refine sightAt_bindAt ?_
    rintro ⟨rest, rfl⟩
    by_cases last : rest = []
    · simp [last, sight, sightAt, vacant] at before
    · simp [sight, sightAt_append_eq_none last closed] at before
  · intro names target seen
    by_cases within : new <+: names
    · -- At or below the new directory there is nothing but the directory.
      exfalso
      obtain ⟨rest, rfl⟩ := within
      have bound := entryAt_bindAt_of_vacant vacant (.directory [])
      by_cases last : rest = []
      · simp only [last, List.append_nil, sight, sightAt, bind] at seen
        rcases bound with nothing | empty
        · simp [nothing] at seen
        · simp [empty, Entry.sight] at seen
      · have read := sightAt_eq_link.1 seen
        obtain ⟨inner, there, below⟩ := entryAt_of_append read last
        have empty : inner = [] := by
          rw [bind] at there
          simpa [there] using bound
        obtain ⟨head, further, rfl⟩ := List.exists_cons_of_ne_nil last
        simp [empty, entryAt] at below
    · rw [sight, bind, sightAt_bindAt within] at seen
      exact links names target seen

/-- Making directories leaves the current directory. -/
theorem current_makeParent (files : Files) (path : String) :
    (files.makeParent path).1.current = files.current :=
  makeParent_induction (fun later => later.current = files.current)
    (fun _ _ same _ => same) path rfl

end Files

end SymbolAtlas
