import SymbolAtlas.Proofs.Files.Binding

/-!
# What is seen at some names

To follow a path one need not know what a file holds or what lies in a directory
that is passed; it is enough to see, at each names, whether there is a file, a
directory or a link, and where the link points. `Files.sight` is this view of a
file system, and every change to a file system is described here by what it does
to the view.

A binding is seen at its own names and nowhere else, since what is not a
directory has nothing below it. For a removal this needs that no directory has a
name twice: taking away the first of two entries would uncover the second.
`Files.Lacks` relates a file system to the one without one of its regular files;
the relation survives every binding that is apart from that file.
-/

namespace SymbolAtlas

/-- What is seen of an entry from outside. -/
inductive Sight where
  | file
  | directory
  | link (target : String)
  deriving DecidableEq, Repr

/-- The sight of an entry. -/
def Entry.sight : Entry → Sight
  | .file _ => .file
  | .directory _ => .directory
  | .link target => .link target

/-- What is seen at some names below a directory. -/
def sightAt (names : List String) (entries : List (String × Entry)) : Option Sight :=
  (entryAt names entries).map Entry.sight

/-- What is seen at some names. -/
def Files.sight (files : Files) (names : List String) : Option Sight :=
  sightAt names files.entries

mutual

/-- Whether no directory at or below an entry has a name twice. -/
def Entry.isDistinct : Entry → Bool
  | .directory entries => isDistinctAmong entries
  | _ => true

/-- Whether no name is there twice among entries, nor in a directory below them. -/
def isDistinctAmong : List (String × Entry) → Bool
  | [] => true
  | (name, entry) :: rest =>
    (rest.lookup name).isNone && entry.isDistinct && isDistinctAmong rest

end

/-- Below a directory that names lead to, further names lead on from it. -/
theorem entryAt_append {first : List String} {entries inner : List (String × Entry)}
    (there : entryAt first entries = some (.directory inner)) (second : List String) :
    entryAt (first ++ second) entries = entryAt second inner := by
  induction first generalizing entries with
  | nil =>
    obtain rfl : entries = inner := by simpa [entryAt] using there
    rfl
  | cons head rest hypothesis =>
    unfold entryAt at there
    rw [List.cons_append, entryAt]
    cases looked : entries.lookup head with
    | none => simp [looked] at there
    | some old =>
      cases old with
      | directory below =>
        simp only [looked] at there
        exact hypothesis there
      | file content => simp [looked] at there
      | link target => simp [looked] at there

/-- One name leads to the entry that it is bound to. -/
theorem entryAt_singleton (name : String) (entries : List (String × Entry)) :
    entryAt [name] entries = entries.lookup name := by
  unfold entryAt
  cases entries.lookup name with
  | none => rfl
  | some entry => cases entry <;> rfl

/-- A directory is seen where its entries can be read. -/
theorem sightAt_eq_directory {names : List String} {entries : List (String × Entry)} :
    sightAt names entries = some .directory ↔
      ∃ inner, entryAt names entries = some (.directory inner) := by
  unfold sightAt
  cases entryAt names entries with
  | none => simp
  | some entry => cases entry <;> simp [Entry.sight]

/-- A file is seen where its content can be read. -/
theorem sightAt_eq_file {names : List String} {entries : List (String × Entry)} :
    sightAt names entries = some .file ↔
      ∃ content, entryAt names entries = some (.file content) := by
  unfold sightAt
  cases entryAt names entries with
  | none => simp
  | some entry => cases entry <;> simp [Entry.sight]

/-- A link is seen with its target. -/
theorem sightAt_eq_link {names : List String} {entries : List (String × Entry)}
    {target : String} :
    sightAt names entries = some (.link target) ↔
      entryAt names entries = some (.link target) := by
  unfold sightAt
  cases entryAt names entries with
  | none => simp
  | some entry => cases entry <;> simp [Entry.sight]

/-- Nothing is seen exactly where there is no entry. -/
@[simp] theorem sightAt_eq_none {names : List String} {entries : List (String × Entry)} :
    sightAt names entries = none ↔ entryAt names entries = none := by
  simp [sightAt]

/-- Something is seen only below directories. -/
theorem sightAt_directory_of_append {first second : List String}
    {entries : List (String × Entry)} (further : second ≠ [])
    (seen : sightAt (first ++ second) entries ≠ none) :
    sightAt first entries = some .directory := by
  obtain ⟨sight, found⟩ := Option.ne_none_iff_exists'.1 seen
  obtain ⟨entry, read, -⟩ := Option.map_eq_some_iff.1 found
  obtain ⟨inner, there, -⟩ := entryAt_of_append read further
  exact sightAt_eq_directory.2 ⟨inner, there⟩

/-- Below anything but a directory nothing is seen. -/
theorem sightAt_append_eq_none {first second : List String} {entries : List (String × Entry)}
    (further : second ≠ []) (closed : sightAt first entries ≠ some .directory) :
    sightAt (first ++ second) entries = none := by
  apply Decidable.byContradiction
  intro seen
  exact closed (sightAt_directory_of_append further seen)

section Bindings

variable {names other : List String} {entry : Option Entry} {entries : List (String × Entry)}

/-- A directory above the names that are bound is changed below, anything else is
left. -/
theorem entryAt_bindAt_above {rest : List String} (deeper : rest ≠ []) :
    entryAt names (bindAt (names ++ rest) entry entries) =
      (entryAt names entries).map (Entry.rebound rest entry) := by
  induction names generalizing entries with
  | nil => simp [entryAt, Entry.rebound]
  | cons name further hypothesis =>
    have below : further ++ rest ≠ [] := by simp [deeper]
    rw [List.cons_append, entryAt, entryAt, lookup_bindAt_cons below, if_pos rfl]
    cases entries.lookup name with
    | none => rfl
    | some old =>
      cases old with
      | directory inner => simpa [Entry.rebound] using hypothesis
      | file content => by_cases last : further = [] <;> simp [Entry.rebound, last]
      | link target => by_cases last : further = [] <;> simp [Entry.rebound, last]

/-- Names that neither lead to a binding nor lie at or below it lead to the same entry as
before. -/
theorem entryAt_bindAt_apart (outside : ¬ names <+: other) (aside : ¬ other <+: names) :
    entryAt other (bindAt names entry entries) = entryAt other entries := by
  induction names generalizing other entries with
  | nil => exact absurd List.nil_prefix outside
  | cons name rest hypothesis =>
    cases other with
    | nil => exact absurd List.nil_prefix aside
    | cons head further =>
      rw [List.cons_prefix_cons] at outside aside
      by_cases last : rest = []
      · subst last
        have different : head ≠ name := by
          intro same
          exact outside ⟨same.symm, List.nil_prefix⟩
        simp only [bindAt, entryAt, lookup_bindName_of_ne different]
      · rw [entryAt, entryAt, lookup_bindAt_cons last]
        by_cases same : head = name
        · subst same
          rw [if_pos rfl]
          cases entries.lookup head with
          | none => rfl
          | some old =>
            cases old with
            | directory inner =>
              exact hypothesis (fun within => outside ⟨rfl, within⟩)
                fun within => aside ⟨rfl, within⟩
            | file content => rfl
            | link target => rfl
        · rw [if_neg same]

/-- What is seen anywhere but at or below a binding is what was seen before. -/
theorem sightAt_bindAt (outside : ¬ names <+: other) :
    sightAt other (bindAt names entry entries) = sightAt other entries := by
  unfold sightAt
  by_cases above : other <+: names
  · obtain ⟨rest, rfl⟩ := above
    have deeper : rest ≠ [] := by
      rintro rfl
      exact outside (by simp)
    rw [entryAt_bindAt_above deeper, Option.map_map]
    congr 1
    funext old
    cases old <;> rfl
  · rw [entryAt_bindAt_apart outside above]

end Bindings

section Distinct

variable {names : List String} {entries : List (String × Entry)}

/-- A name is in a directory after a binding only if it was bound, or was there. -/
theorem lookup_bindName_isNone {name other : String} {entry : Option Entry}
    (different : other ≠ name) (absent : (entries.lookup other).isNone = true) :
    ((bindName name entry entries).lookup other).isNone = true := by
  rwa [lookup_bindName_of_ne different]

/-- A binding of one name keeps the names of a directory distinct. -/
theorem isDistinctAmong_bindName {name : String} {entry : Option Entry}
    (distinct : isDistinctAmong entries = true)
    (sound : ∀ new, entry = some new → new.isDistinct = true) :
    isDistinctAmong (bindName name entry entries) = true := by
  induction entries with
  | nil =>
    cases entry with
    | none => rfl
    | some new => simp [bindName, isDistinctAmong, sound new rfl]
  | cons binding rest hypothesis =>
    obtain ⟨other, old⟩ := binding
    simp only [isDistinctAmong, Bool.and_eq_true] at distinct
    obtain ⟨⟨alone, oldSound⟩, restDistinct⟩ := distinct
    by_cases same : other = name
    · subst same
      cases entry with
      | none => simpa [bindName] using restDistinct
      | some new =>
        simp only [bindName, if_true, isDistinctAmong, Bool.and_eq_true]
        exact ⟨⟨alone, sound new rfl⟩, restDistinct⟩
    · simp only [bindName, same, if_false, isDistinctAmong, Bool.and_eq_true]
      exact ⟨⟨lookup_bindName_isNone same alone, oldSound⟩, hypothesis restDistinct⟩

/-- What a name leads to is distinct where the whole is. -/
theorem isDistinct_of_lookup {name : String} {entry : Entry}
    (distinct : isDistinctAmong entries = true) (found : entries.lookup name = some entry) :
    entry.isDistinct = true := by
  induction entries with
  | nil => simp at found
  | cons binding rest hypothesis =>
    obtain ⟨other, old⟩ := binding
    simp only [isDistinctAmong, Bool.and_eq_true] at distinct
    by_cases same : name = other
    · have first : old = entry := by simpa [List.lookup_cons, same] using found
      exact first ▸ distinct.1.2
    · rw [List.lookup_cons, beq_eq_false_iff_ne.2 same] at found
      exact hypothesis distinct.2 found

/-- What names lead to is distinct where the whole is. -/
theorem isDistinct_of_entryAt {entry : Entry} (distinct : isDistinctAmong entries = true)
    (found : entryAt names entries = some entry) : entry.isDistinct = true := by
  induction names generalizing entries with
  | nil =>
    obtain rfl : Entry.directory entries = entry := by simpa [entryAt] using found
    simpa [Entry.isDistinct] using distinct
  | cons name rest hypothesis =>
    unfold entryAt at found
    cases looked : entries.lookup name with
    | none => simp [looked] at found
    | some below =>
      have belowDistinct := isDistinct_of_lookup distinct looked
      cases below with
      | directory inner =>
        simp only [looked] at found
        exact hypothesis (by simpa [Entry.isDistinct] using belowDistinct) found
      | file old =>
        simp only [looked, Option.ite_none_right_eq_some, Option.some.injEq] at found
        exact found.2 ▸ belowDistinct
      | link target =>
        simp only [looked, Option.ite_none_right_eq_some, Option.some.injEq] at found
        exact found.2 ▸ belowDistinct

/-- A binding keeps the names of all directories distinct. -/
theorem isDistinctAmong_bindAt {entry : Option Entry} (distinct : isDistinctAmong entries = true)
    (sound : ∀ new, entry = some new → new.isDistinct = true) :
    isDistinctAmong (bindAt names entry entries) = true := by
  induction names generalizing entries with
  | nil => simpa [bindAt] using distinct
  | cons name rest hypothesis =>
    by_cases last : rest = []
    · subst last
      exact isDistinctAmong_bindName distinct sound
    · induction entries with
      | nil => rw [bindAt_cons last, List.map_nil, isDistinctAmong]
      | cons binding others further =>
        obtain ⟨other, old⟩ := binding
        simp only [isDistinctAmong, Bool.and_eq_true] at distinct
        obtain ⟨⟨alone, oldDistinct⟩, othersDistinct⟩ := distinct
        have tail := further othersDistinct
        have kept : ((bindAt (name :: rest) entry others).lookup other).isNone = true := by
          rw [lookup_bindAt_cons last]
          by_cases same : other = name
          · subst same
            simpa using alone
          · rwa [if_neg same]
        rw [bindAt_cons last] at tail kept ⊢
        simp only [List.map_cons, isDistinctAmong, Bool.and_eq_true]
        refine ⟨⟨kept, ?_⟩, tail⟩
        by_cases same : other = name
        · cases old with
          | directory inner =>
            simp only [same, if_true, Entry.rebound, Entry.isDistinct] at oldDistinct ⊢
            exact hypothesis oldDistinct
          | file content => simp [Entry.rebound, Entry.isDistinct]
          | link target => simp [Entry.rebound, Entry.isDistinct]
        · rwa [if_neg same]

/-- A name that was there once is gone when it has been taken away. -/
theorem lookup_bindName_none_self {name : String} (distinct : isDistinctAmong entries = true) :
    (bindName name none entries).lookup name = none := by
  induction entries with
  | nil => rfl
  | cons binding rest hypothesis =>
    obtain ⟨other, old⟩ := binding
    simp only [isDistinctAmong, Bool.and_eq_true] at distinct
    by_cases same : other = name
    · subst same
      simpa [bindName] using distinct.1.1
    · rw [bindName, if_neg same, List.lookup_cons, beq_eq_false_iff_ne.2 (Ne.symm same)]
      exact hypothesis distinct.2

/-- What has been taken away is gone. -/
theorem entryAt_bindAt_none_self (distinct : isDistinctAmong entries = true)
    (nonempty : names ≠ []) : entryAt names (bindAt names none entries) = none := by
  induction names generalizing entries with
  | nil => exact absurd rfl nonempty
  | cons name rest hypothesis =>
    by_cases last : rest = []
    · subst last
      rw [entryAt_singleton]
      exact lookup_bindName_none_self distinct
    · rw [entryAt, lookup_bindAt_cons last, if_pos rfl]
      cases looked : entries.lookup name with
      | none => rfl
      | some old =>
        cases old with
        | directory inner =>
          have innerDistinct := isDistinct_of_lookup distinct looked
          simp only [Entry.isDistinct] at innerDistinct
          simpa [Entry.rebound] using hypothesis innerDistinct last
        | file content => simp [Entry.rebound, last]
        | link target => simp [Entry.rebound, last]

end Distinct

section Commuting

variable {entries : List (String × Entry)}

/-- Taking one name away and binding another can be done in either order. -/
theorem bindName_none_comm {name other : String} (different : name ≠ other)
    (entry : Option Entry) :
    bindName name none (bindName other entry entries) =
      bindName other entry (bindName name none entries) := by
  induction entries with
  | nil =>
    cases entry with
    | none => rfl
    | some new => simp [bindName, different.symm]
  | cons binding rest hypothesis =>
    obtain ⟨first, old⟩ := binding
    by_cases isOther : first = other
    · subst isOther
      cases entry <;> simp [bindName, different.symm]
    · by_cases isName : first = name
      · subst isName
        simp [bindName, different]
      · simp [bindName, isOther, isName, hypothesis]

/-- Taking a name away commutes with a change of every other entry. -/
theorem bindName_none_map (name : String) (change : String → Entry → Entry) :
    bindName name none (entries.map fun binding => (binding.1, change binding.1 binding.2)) =
      (bindName name none entries).map fun binding =>
        (binding.1, change binding.1 binding.2) := by
  induction entries with
  | nil => rfl
  | cons binding rest hypothesis =>
    by_cases same : binding.1 = name <;> simp [bindName, same, hypothesis]

/-- A binding of one name commutes with a change that leaves the entries of that name. -/
theorem bindName_map {name : String} (change : String → Entry → Entry)
    (keeps : ∀ entry, change name entry = entry) (entry : Option Entry) :
    bindName name entry (entries.map fun binding => (binding.1, change binding.1 binding.2)) =
      (bindName name entry entries).map fun binding =>
        (binding.1, change binding.1 binding.2) := by
  induction entries with
  | nil => cases entry <;> simp [bindName, keeps]
  | cons binding rest hypothesis =>
    by_cases same : binding.1 = name
    · cases entry <;> simp [bindName, same, keeps]
    · simp [bindName, same, hypothesis]

/-- Two changes below different names, or below one name in either order, give the same
entry. -/
theorem rebound_comm {first second : List String} {entry : Option Entry}
    (inside : ∀ inner : List (String × Entry),
      bindAt first none (bindAt second entry inner) = bindAt second entry (bindAt first none inner))
    (old : Entry) :
    Entry.rebound first none (Entry.rebound second entry old) =
      Entry.rebound second entry (Entry.rebound first none old) := by
  cases old with
  | directory inner => simp only [Entry.rebound, inside]
  | file content => rfl
  | link target => rfl

/-- Taking an entry away and binding another one can be done in either order, provided
neither lies at or below the other. -/
theorem bindAt_none_comm {names other : List String} (outside : ¬ names <+: other)
    (aside : ¬ other <+: names) (entry : Option Entry) :
    bindAt names none (bindAt other entry entries) =
      bindAt other entry (bindAt names none entries) := by
  induction names generalizing other entries with
  | nil => exact absurd List.nil_prefix outside
  | cons name rest hypothesis =>
    cases other with
    | nil => exact absurd List.nil_prefix aside
    | cons head further =>
      rw [List.cons_prefix_cons] at outside aside
      by_cases same : name = head
      · subst same
        have restDeeper : rest ≠ [] := by
          rintro rfl
          exact outside ⟨rfl, List.nil_prefix⟩
        have furtherDeeper : further ≠ [] := by
          rintro rfl
          exact aside ⟨rfl, List.nil_prefix⟩
        have inside : ∀ inner : List (String × Entry),
            bindAt rest none (bindAt further entry inner) =
              bindAt further entry (bindAt rest none inner) := fun inner =>
          hypothesis (fun within => outside ⟨rfl, within⟩) fun within => aside ⟨rfl, within⟩
        simp only [bindAt_cons restDeeper, bindAt_cons furtherDeeper, List.map_map]
        apply List.map_congr_left
        rintro ⟨bound, old⟩ -
        by_cases here : bound = name <;> simp [here, rebound_comm inside]
      · -- The two lie below different entries of this directory.
        by_cases last : rest = [] <;> by_cases otherLast : further = []
        · subst last otherLast
          exact bindName_none_comm same entry
        · subst last
          rw [bindAt_cons otherLast, bindAt_cons otherLast]
          exact bindName_none_map name fun bound old =>
            if bound = head then old.rebound further entry else old
        · subst otherLast
          rw [bindAt_cons last, bindAt_cons last]
          exact (bindName_map
            (fun bound old => if bound = name then old.rebound rest none else old)
            (fun old => if_neg (Ne.symm same)) entry).symm
        · simp only [bindAt_cons last, bindAt_cons otherLast, List.map_map]
          apply List.map_congr_left
          rintro ⟨bound, old⟩ -
          by_cases here : bound = name
          · simp [here, same]
          · by_cases there : bound = head <;> simp [here, there, Ne.symm same]

end Commuting

/-- Whether nothing lies below an entry. -/
def Entry.isBare : Entry → Bool
  | .directory entries => entries.isEmpty
  | _ => true

/-- Where nothing lies below an entry, nothing is there twice. -/
theorem Entry.isDistinct_of_isBare {entry : Entry} (bare : entry.isBare = true) :
    entry.isDistinct = true := by
  cases entry with
  | directory entries =>
    obtain rfl : entries = [] := by simpa [isBare] using bare
    simp [Entry.isDistinct, isDistinctAmong]
  | file content => rfl
  | link target => rfl

namespace Files

/-- A place where something can be put or taken away: it lies in a directory that is
there, and it is no directory itself. -/
structure Admits (files : Files) (names : List String) : Prop where
  nonempty : names ≠ []
  room : files.sight names.dropLast = some .directory
  closed : files.sight names ≠ some .directory

variable {files full lacking : Files} {names other gone : List String} {content : Content}

/-- Where something is seen, there is a directory around it. -/
theorem sight_dropLast (nonempty : names ≠ []) (seen : files.sight names ≠ none) :
    files.sight names.dropLast = some .directory := by
  apply sightAt_directory_of_append (List.cons_ne_nil (names.getLast nonempty) [])
  rwa [List.dropLast_concat_getLast nonempty]

/-- The root is a directory. -/
@[simp] theorem sight_nil (files : Files) : files.sight [] = some .directory :=
  rfl

/-- What is seen and is no directory admits changes. -/
theorem admits_of_seen (seen : files.sight names ≠ none)
    (closed : files.sight names ≠ some .directory) : files.Admits names := by
  have nonempty : names ≠ [] := by
    rintro rfl
    exact closed rfl
  exact ⟨nonempty, sight_dropLast nonempty seen, closed⟩

/-- In a directory, a name is seen as what it is bound to. -/
theorem sight_concat {inner : List (String × Entry)}
    (there : entryAt names files.entries = some (.directory inner)) (name : String) :
    files.sight (names ++ [name]) = (inner.lookup name).map Entry.sight := by
  rw [sight, sightAt, entryAt_append there, entryAt_singleton]

/-- A bare entry that is bound where the place admits it is seen there, and everything
else is seen as before. -/
theorem sight_bind {entry : Option Entry} (distinct : isDistinctAmong files.entries = true)
    (admits : files.Admits names) (bare : ∀ new, entry = some new → new.isBare = true)
    (other : List String) :
    (files.bind names entry).sight other =
      if other = names then entry.map Entry.sight else files.sight other := by
  have here : entryAt names (bindAt names entry files.entries) = entry := by
    cases entry with
    | none => exact entryAt_bindAt_none_self distinct admits.nonempty
    | some new =>
      obtain ⟨inner, there⟩ := sightAt_eq_directory.1 admits.room
      have bound := @entryAt_bindAt_self _ (names.getLast admits.nonempty) new _ _ there
      rwa [List.dropLast_concat_getLast] at bound
  by_cases same : other = names
  · rw [if_pos same, same, sight, bind, sightAt, here]
  · rw [if_neg same]
    by_cases below : names <+: other
    · -- Nothing was below the place, since it was no directory, and nothing came with the
      -- entry, since it is bare.
      obtain ⟨rest, rfl⟩ := below
      have further : rest ≠ [] := by
        rintro rfl
        simp at same
      rw [sight, sight, sightAt_append_eq_none further admits.closed, sightAt_eq_none]
      cases entry with
      | none =>
        have closed : sightAt names (bindAt names none files.entries) ≠ some .directory := by
          simp [sightAt, here]
        exact sightAt_eq_none.1 (sightAt_append_eq_none further closed)
      | some new =>
        cases new with
        | directory entries =>
          obtain rfl : entries = [] := by simpa [Entry.isBare] using bare _ rfl
          obtain ⟨head, tail, rfl⟩ := List.exists_cons_of_ne_nil further
          exact entryAt_append here _
        | file content =>
          have closed : sightAt names (bindAt names (some (.file content)) files.entries) ≠
              some .directory := by
            simp [sightAt, here, Entry.sight]
          exact sightAt_eq_none.1 (sightAt_append_eq_none further closed)
        | link target =>
          have closed : sightAt names (bindAt names (some (.link target)) files.entries) ≠
              some .directory := by
            simp [sightAt, here, Entry.sight]
          exact sightAt_eq_none.1 (sightAt_append_eq_none further closed)
    · exact sightAt_bindAt below

/-- One file system is another one without a regular file. -/
structure Lacks (gone : List String) (content : Content) (full lacking : Files) : Prop where
  held : entryAt gone full.entries = some (.file content)
  distinct : isDistinctAmong full.entries = true
  same : lacking = full.bind gone none

namespace Lacks

/-- The file is seen where it is. -/
theorem sight_gone (lacks : Lacks gone content full lacking) : full.sight gone = some .file :=
  sightAt_eq_file.2 ⟨content, lacks.held⟩

/-- The file can be taken away. -/
theorem admits (lacks : Lacks gone content full lacking) : full.Admits gone :=
  admits_of_seen (by simp [lacks.sight_gone]) (by simp [lacks.sight_gone])

/-- Only the file is missing from view. -/
theorem sight (lacks : Lacks gone content full lacking) (names : List String) :
    lacking.sight names = if names = gone then none else full.sight names := by
  rw [lacks.same, sight_bind lacks.distinct lacks.admits (by simp), Option.map_none]

/-- A place other than that of the file is seen as before. -/
theorem sight_of_ne (lacks : Lacks gone content full lacking) (different : names ≠ gone) :
    lacking.sight names = full.sight names := by
  rw [lacks.sight, if_neg different]

/-- The two share the current directory. -/
theorem current (lacks : Lacks gone content full lacking) : lacking.current = full.current := by
  rw [lacks.same, bind]

/-- The two hide the same directories from a listing. -/
theorem unlisted (lacks : Lacks gone content full lacking) :
    lacking.unlisted = full.unlisted := by
  rw [lacks.same, bind]

/-- Away from the file and the directories around it, the entries are the same. -/
theorem entryAt_of_aside (lacks : Lacks gone content full lacking) (aside : ¬ names <+: gone) :
    entryAt names lacking.entries = entryAt names full.entries := by
  by_cases below : gone <+: names
  · have different : names ≠ gone := by
      rintro rfl
      exact aside List.prefix_rfl
    obtain ⟨rest, rfl⟩ := below
    have further : rest ≠ [] := by
      rintro rfl
      simp at different
    have nothing : full.sight (gone ++ rest) = none :=
      sightAt_append_eq_none further lacks.admits.closed
    have still := lacks.sight_of_ne different
    rw [nothing] at still
    rw [sightAt_eq_none.1 nothing, sightAt_eq_none.1 still]
  · rw [lacks.same]
    exact entryAt_bindAt_apart below aside

/-- What is no directory and not the file is the same entry in both. -/
theorem entryAt_of_closed (lacks : Lacks gone content full lacking) (different : names ≠ gone)
    (closed : full.sight names ≠ some .directory) :
    entryAt names lacking.entries = entryAt names full.entries := by
  apply lacks.entryAt_of_aside
  rintro ⟨rest, rfl⟩
  have further : rest ≠ [] := by
    rintro rfl
    simp at different
  exact closed (sightAt_directory_of_append further (by simp [lacks.held]))

/-- In a directory around the file, the file is missing. -/
theorem entryAt_above {rest : List String} {inner : List (String × Entry)} (deeper : rest ≠ [])
    (lacks : Lacks (names ++ rest) content full lacking)
    (there : entryAt names full.entries = some (.directory inner)) :
    entryAt names lacking.entries = some (.directory (bindAt rest none inner)) := by
  rw [lacks.same]
  exact (entryAt_bindAt_above deeper).trans (by rw [there]; rfl)

/-- A place that admits changes, and is not that of the file, is apart from it. -/
theorem apart (lacks : Lacks gone content full lacking) (admits : full.Admits other)
    (different : other ≠ gone) : ¬ gone <+: other ∧ ¬ other <+: gone := by
  constructor
  · rintro ⟨rest, rfl⟩
    have further : rest ≠ [] := by
      rintro rfl
      simp at different
    have room := admits.room
    rw [List.dropLast_append_of_ne_nil further] at room
    by_cases last : rest.dropLast = []
    · rw [last, List.append_nil, lacks.sight_gone] at room
      simp at room
    · rw [Files.sight, sightAt_append_eq_none last lacks.admits.closed] at room
      simp at room
  · rintro ⟨rest, rfl⟩
    have further : rest ≠ [] := by
      rintro rfl
      simp at different
    exact admits.closed (sightAt_directory_of_append further (by simp [lacks.held]))

/-- The same change at another place keeps the difference. -/
theorem bind {entry : Option Entry} (lacks : Lacks gone content full lacking)
    (admits : full.Admits other) (different : other ≠ gone)
    (bare : ∀ new, entry = some new → new.isBare = true) :
    Lacks gone content (full.bind other entry) (lacking.bind other entry) where
  held := (entryAt_bindAt_eq_file_iff (lacks.apart admits different).2).2 lacks.held
  distinct := isDistinctAmong_bindAt lacks.distinct fun new bound =>
    Entry.isDistinct_of_isBare (bare new bound)
  same := by
    obtain ⟨outside, aside⟩ := lacks.apart admits different
    rw [lacks.same]
    exact congrArg (fun entries => { full with entries := entries })
      (bindAt_none_comm outside aside entry).symm

end Lacks

end Files

end SymbolAtlas
