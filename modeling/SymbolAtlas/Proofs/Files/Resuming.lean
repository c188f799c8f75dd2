import SymbolAtlas.Proofs.Files.Upkeep
import SymbolAtlas.Proofs.Text.Split

/-!
# Paths below a directory

A name below a directory is written behind the path of the directory, and the two
are followed one after the other: first as the path of the directory is followed,
then straight down. This needs that the names are names: one that holds a separator
would be taken apart again.

The files may change in between. As long as directories stay and links are only
taken away, the path of the directory is followed in the same way up to the first
link that is gone; so a path below it either leads straight down from where the
directory was, or fails, and for a reason that depends on that link alone.
`Resumes` says this for two later file systems at once, which show the same links.
-/

namespace SymbolAtlas

/-- Whether a text can name an entry of a directory. -/
def isUsableName (name : String) : Bool :=
  name ≠ "" && name ≠ "." && name ≠ ".." && !name.toList.contains '/' &&
    !name.toList.contains '\x00' && decide (name.utf8ByteSize ≤ Files.nameLimit)

mutual

/-- Whether all names below an entry are usable. -/
def Entry.isNamed : Entry → Bool
  | .directory entries => isNamedAmong entries
  | _ => true

/-- Whether the names of several entries, and all names below them, are usable. -/
def isNamedAmong : List (String × Entry) → Bool
  | [] => true
  | (name, entry) :: rest => isUsableName name && entry.isNamed && isNamedAmong rest

end

/-- Whether every directory has usable names, each once. -/
def Files.isTidy (files : Files) : Bool :=
  isDistinctAmong files.entries && isNamedAmong files.entries

/-- A name that is found is usable. -/
theorem isNamedAmong_lookup {entries : List (String × Entry)} {name : String} {entry : Entry}
    (named : isNamedAmong entries = true) (found : entries.lookup name = some entry) :
    isUsableName name = true ∧ entry.isNamed = true := by
  induction entries with
  | nil => simp at found
  | cons binding rest hypothesis =>
    obtain ⟨other, old⟩ := binding
    simp only [isNamedAmong, Bool.and_eq_true] at named
    by_cases same : name = other
    · have first : old = entry := by simpa [List.lookup_cons, same] using found
      exact ⟨same ▸ named.1.1, first ▸ named.1.2⟩
    · rw [List.lookup_cons, beq_eq_false_iff_ne.2 same] at found
      exact hypothesis named.2 found

/-- Names that lead to something are usable. -/
theorem isUsableName_of_entryAt {entries : List (String × Entry)} {names : List String}
    {entry : Entry} (named : isNamedAmong entries = true)
    (found : entryAt names entries = some entry) {name : String} (inside : name ∈ names) :
    isUsableName name = true := by
  induction names generalizing entries with
  | nil => simp at inside
  | cons first rest hypothesis =>
    unfold entryAt at found
    cases looked : entries.lookup first with
    | none => simp [looked] at found
    | some below =>
      obtain ⟨usable, belowNamed⟩ := isNamedAmong_lookup named looked
      rcases List.mem_cons.1 inside with rfl | later
      · exact usable
      · cases below with
        | directory inner =>
          simp only [looked] at found
          exact hypothesis (by simpa [Entry.isNamed] using belowNamed) found later
        | file old =>
          simp only [looked, Option.ite_none_right_eq_some, List.isEmpty_iff] at found
          simp [found.1] at later
        | link target =>
          simp only [looked, Option.ite_none_right_eq_some, List.isEmpty_iff] at found
          simp [found.1] at later

namespace Files

/-- The steps of a path up to a separator at its end. -/
def leadingSteps (text : List Char) : List PathStep :=
  (if text.head? = some '/' then [.go .root] else []) ++
    (Text.splitWhen (· = '/') text).filterMap segmentStep?

/-- The steps of a path are these and the separator at its end. -/
theorem steps_eq (path : String) :
    steps path = leadingSteps path.toList ++
      if path.toList.getLast? = some '/' then [.slash] else [] := by
  simp [steps, leadingSteps]

/-- Without separators the steps of a path are these. -/
theorem entrySteps_eq (path : String) : entrySteps path = leadingSteps path.toList := by
  have middle : ((Text.splitWhen (· = '/') path.toList).filterMap segmentStep?).filter
      (· ≠ .slash) = (Text.splitWhen (· = '/') path.toList).filterMap segmentStep? := by
    rw [List.filter_eq_self]
    intro step inside
    obtain ⟨segment, -, made⟩ := List.mem_filterMap.1 inside
    unfold segmentStep? at made
    split at made
    · simp at made
    · split at made
      · simp [← Option.some.inj made]
      · split at made <;> simp [← Option.some.inj made]
  rw [entrySteps, steps_eq, List.filter_append, leadingSteps, List.filter_append, middle]
  split <;> split <;> simp

/-- The segment of a usable name is that name. -/
theorem segmentStep?_of_usable {name : String} (usable : isUsableName name = true) :
    segmentStep? name.toList = some (.go (.name name)) := by
  simp only [isUsableName, Bool.and_eq_true, decide_eq_true_eq] at usable
  obtain ⟨⟨⟨⟨⟨nonempty, notCurrent⟩, notParent⟩, -⟩, -⟩, -⟩ := usable
  have texts : ∀ {text : String}, name ≠ text → name.toList ≠ text.toList :=
    fun different same => different (String.toList_inj.1 same)
  have first : name.toList ≠ [] := texts nonempty
  have second : name.toList ≠ ['.'] := texts notCurrent
  have third : name.toList ≠ ['.', '.'] := texts notParent
  simp [segmentStep?, first, second, third]

/-- A usable name holds no separator. -/
theorem slash_not_mem_of_usable {name : String} (usable : isUsableName name = true) :
    '/' ∉ name.toList := by
  simp only [isUsableName, Bool.and_eq_true, Bool.not_eq_true'] at usable
  simpa using usable.1.1.2

/-- A text without a separator is one segment. -/
theorem splitWhen_of_whole {name : String} (whole : '/' ∉ name.toList) :
    Text.splitWhen (· = '/') name.toList = [name.toList] := by
  apply Text.splitWhen_of_uncut
  intro c inside
  apply decide_eq_false
  rintro rfl
  exact whole inside

/-- A usable name is not too long. -/
theorem short_of_usable {name : String} (usable : isUsableName name = true) :
    name.utf8ByteSize ≤ nameLimit := by
  simp only [isUsableName, Bool.and_eq_true, decide_eq_true_eq] at usable
  exact usable.2

/-- A path joined with a name, as the text of the path up to a separator, a separator, and
the name. -/
theorem toList_join (directory name : String) (nonempty : directory ≠ "") :
    ∃ base, (Path.join directory name).toList = base ++ '/' :: name.toList ∧
      (directory.toList = base ∧ base ≠ [] ∨ directory.toList = base ++ ['/']) := by
  have written : directory.toList ≠ [] := by simpa using nonempty
  unfold Path.join
  by_cases ends : directory.toList.getLast? = some '/'
  · obtain ⟨base, whole⟩ := List.getLast?_eq_some_iff.1 ends
    refine ⟨base, ?_, .inr whole⟩
    simp [nonempty, whole]
  · refine ⟨directory.toList, ?_, .inl ⟨rfl, written⟩⟩
    simp [nonempty, ends]

/-- A name joined to a path is one step behind the steps of the path. -/
theorem steps_join {directory name : String} (nonempty : directory ≠ "")
    (usable : isUsableName name = true) :
    steps (Path.join directory name) = entrySteps directory ++ [.go (.name name)] := by
  obtain ⟨base, joined, directoryText⟩ := toList_join directory name nonempty
  have noSlash := slash_not_mem_of_usable usable
  have written : name.toList ≠ [] := by
    intro empty
    have step := segmentStep?_of_usable usable
    simp [empty, segmentStep?] at step
  have one := splitWhen_of_whole noSlash
  have unended : (base ++ '/' :: name.toList).getLast? ≠ some '/' := by
    obtain ⟨first, rest, text⟩ := List.exists_cons_of_ne_nil written
    rw [text, List.getLast?_append, List.getLast?_cons_cons, ← text]
    intro ends
    rw [List.getLast?_eq_some_getLast written, Option.some_or] at ends
    exact noSlash (Option.some.inj ends ▸ List.getLast_mem written)
  have segments : ∀ text : List Char, text = base ∨ text = base ++ ['/'] →
      (Text.splitWhen (· = '/') text).filterMap segmentStep? =
        (Text.splitWhen (· = '/') base).filterMap segmentStep? := by
    rintro text (rfl | rfl)
    · rfl
    · rw [Text.splitWhen_append (by simp), List.filterMap_append]
      simp [Text.splitWhen, segmentStep?]
  have front : (base ++ '/' :: name.toList).head? = directory.toList.head? := by
    rcases directoryText with ⟨same, filled⟩ | ended
    · obtain ⟨first, rest, rfl⟩ := List.exists_cons_of_ne_nil filled
      simp [same]
    · rw [ended]
      cases base <;> simp
  rw [steps_eq, entrySteps_eq, joined, if_neg unended, List.append_nil, leadingSteps,
    leadingSteps, front, Text.splitWhen_append (by simp), List.filterMap_append, one,
    segments directory.toList (directoryText.imp And.left id), List.append_assoc]
  simp [segmentStep?_of_usable usable]

/-- The steps by which names are followed down from a directory. -/
def downSteps (names : List String) : List PathStep :=
  names.map fun name => .go (.name name)

/-- Names joined to a path are followed behind the path. -/
theorem steps_foldl_join {root : String} {below : List String} (nonempty : root ≠ "")
    (filled : below ≠ []) (usable : ∀ name ∈ below, isUsableName name = true) :
    steps (below.foldl Path.join root) = entrySteps root ++ downSteps below := by
  induction below generalizing root with
  | nil => exact absurd rfl filled
  | cons name rest hypothesis =>
    have joined := steps_join nonempty (usable name (by simp))
    by_cases last : rest = []
    · subst last
      exact joined
    · have joinedFilled : Path.join root name ≠ "" := by
        obtain ⟨base, text, -⟩ := toList_join root name nonempty
        intro empty
        simp [empty] at text
      have entry : entrySteps (Path.join root name) = entrySteps root ++ [.go (.name name)] := by
        rw [entrySteps, joined, List.filter_append, entrySteps, List.filter_filter]
        simp
      rw [List.foldl_cons, hypothesis joinedFilled last fun other inside =>
        usable other (by simp [inside]), entry, List.append_assoc]
      rfl

/-- The steps of a path are those to its entry, and at most a separator. -/
theorem exists_steps_eq (path : String) :
    ∃ last, steps path = entrySteps path ++ last ∧ (last = [] ∨ last = [.slash]) := by
  refine ⟨_, by rw [steps_eq, entrySteps_eq], ?_⟩
  split
  · exact .inr rfl
  · exact .inl rfl

end Files

/-- Later views in which directories are still there, and where a link or a file is gone
there is nothing or a file. -/
structure Settles (before after : List String → Option Sight) : Prop where
  directory : ∀ names, before names = some .directory → after names = some .directory
  link : ∀ names target, before names = some (.link target) →
    after names = some (.link target) ∨ after names = none ∨ after names = some .file
  file : ∀ names, before names = some .file → after names = none ∨ after names = some .file

/-- Behind a path, steps lead where they lead from a directory through so many links. -/
def Continues (sight : List String → Option Sight) (links : Nat) (start : List String)
    (path : List PathStep) (left : Nat) (found : List String) : Prop :=
  ∀ purpose rest verdict, (rest = [] → purpose ≠ .entry) →
    Leads sight purpose left found rest verdict →
    Leads sight purpose links start (path ++ rest) verdict

/-- A path cannot be followed any further. -/
def Breaks (sight : List String → Option Sight) (links : Nat) (start : List String)
    (path : List PathStep) (error : FileError) : Prop :=
  ∀ purpose rest, rest ≠ [] → (∀ step ∈ rest, step ≠ .go .root) →
    Leads sight purpose links start (path ++ rest) (.failed error)

section Broken

variable {sight : List String → Option Sight} {links : Nat} {names : List String}
  {name : String} {path : List PathStep}

/-- A path cannot be followed past a name that is missing. -/
theorem breaks_of_missing (opens : CanLookUp sight names name)
    (absent : sight (names ++ [name]) = none) :
    Breaks sight links names (.go (.name name) :: path) .notFound := by
  intro purpose rest filled _
  refine .nowhere opens absent ?_
  intro empty
  exact filled (List.append_eq_nil_iff.1 empty).2

/-- A path cannot be followed past a file, unless it goes back to the root. -/
theorem breaks_of_file (opens : CanLookUp sight names name)
    (isFile : sight (names ++ [name]) = some .file) (inner : ∀ step ∈ path, step ≠ .go .root) :
    Breaks sight links names (.go (.name name) :: path) .notDirectory := by
  intro purpose rest filled restInner
  have further : path ++ rest ≠ [] := by
    intro empty
    exact filled (List.append_eq_nil_iff.1 empty).2
  obtain ⟨first, others, split⟩ := List.exists_cons_of_ne_nil further
  have notRoot : first ≠ .go .root := by
    have inside : first ∈ path ++ rest := by simp [split]
    rcases List.mem_append.1 inside with early | late
    · exact inner first early
    · exact restInner first late
  rw [List.cons_append, split]
  exact .enter opens (.inl isFile) (.blocked notRoot (by simp [isFile]))

/-- A link is followed where more steps are behind its name. -/
theorem Leads.jump_append {purpose : Purpose} {target : String} {rest : List PathStep}
    {verdict : Verdict} (opens : CanLookUp sight names name)
    (link : sight (names ++ [name]) = some (.link target))
    (through : rest = [] → purpose ≠ .entry)
    (onward : Leads sight purpose links names ((Files.steps target ++ path) ++ rest) verdict) :
    Leads sight purpose (links + 1) names (.go (.name name) :: path ++ rest) verdict := by
  rw [List.append_assoc] at onward
  exact .jump opens link (fun empty => through (List.append_eq_nil_iff.1 empty).2) onward

end Broken

/-- A path that has led to a directory and is followed further in two later views that show
the same links: either both go on from the directory, or both fail for the same reason, and
then a link is gone. -/
inductive Resumes (before after other : List String → Option Sight) (links : Nat)
    (start : List String) (path : List PathStep) (found : List String) : Prop
  | intact (left : Nat) (first : Continues after links start path left found)
      (second : Continues other links start path left found)
  | broken (error : FileError) (first : Breaks after links start path error)
      (second : Breaks other links start path error)
      (shed : ∃ names target, before names = some (.link target) ∧
        after names ≠ some (.link target))

/-- A step that both views take is taken before what is resumed. -/
theorem Resumes.step {before after other : List String → Option Sight} {links further : Nat}
    {start next found : List String} {path onward : List PathStep}
    (resumes : Resumes before after other further next onward found)
    (taken : ∀ {purpose rest verdict}, (rest = [] → purpose ≠ .entry) →
      Leads after purpose further next (onward ++ rest) verdict →
      Leads after purpose links start (path ++ rest) verdict)
    (otherTaken : ∀ {purpose rest verdict}, (rest = [] → purpose ≠ .entry) →
      Leads other purpose further next (onward ++ rest) verdict →
      Leads other purpose links start (path ++ rest) verdict) :
    Resumes before after other links start path found := by
  cases resumes with
  | intact left first second =>
    refine .intact left ?_ ?_
    · intro purpose rest verdict through leads
      exact taken through (first purpose rest verdict through leads)
    · intro purpose rest verdict through leads
      exact otherTaken through (second purpose rest verdict through leads)
  | broken error first second shed =>
    refine .broken error ?_ ?_ shed
    · intro purpose rest filled inner
      exact taken (fun empty => absurd empty filled) (first purpose rest filled inner)
    · intro purpose rest filled inner
      exact otherTaken (fun empty => absurd empty filled) (second purpose rest filled inner)

namespace Leads

variable {before after other : List String → Option Sight} {links : Nat}
  {start found : List String} {path : List PathStep}

/-- A path that led to a directory before is followed in the same way later on, up to the
first link that is gone. -/
theorem resume {last : List PathStep}
    (leads : Leads before .target links start (path ++ last) (.arrived found))
    (rooted : IsRooted (path ++ last)) (ending : last = [] ∨ last = [.slash])
    (directory : before found = some .directory) (settles : Settles before after)
    (still : ∀ names, before names = some .directory → other names = some .directory)
    (alike : ∀ names target, before names = some (.link target) → other names = after names) :
    Resumes before after other links start path found := by
  have now : ∀ {names name}, CanLookUp before names name → CanLookUp after names name :=
    fun opens => ⟨settles.directory _ opens.directory, opens.short⟩
  have otherNow : ∀ {names name}, CanLookUp before names name → CanLookUp other names name :=
    fun opens => ⟨still _ opens.directory, opens.short⟩
  generalize whole : path ++ last = steps at leads rooted
  generalize reached : Verdict.arrived found = verdict at leads
  induction leads generalizing path with
  | arrive =>
    obtain ⟨rfl, -⟩ := List.append_eq_nil_iff.1 whole
    obtain rfl := Verdict.arrived.inj reached
    exact .intact _ (fun _ _ _ _ => id) fun _ _ _ _ => id
  | root _ hypothesis =>
    cases path with
    | nil => rcases ending with rfl | rfl <;> simp at whole
    | cons step path =>
      obtain ⟨rfl, rfl⟩ := List.cons.inj whole
      exact (hypothesis rfl rooted.rest reached).step (fun _ => .root) (fun _ => .root)
  | up isDirectory _ hypothesis =>
    cases path with
    | nil => rcases ending with rfl | rfl <;> simp at whole
    | cons step path =>
      obtain ⟨rfl, rfl⟩ := List.cons.inj whole
      exact (hypothesis rfl rooted.rest reached).step
        (fun _ => .up (settles.directory _ isDirectory)) (fun _ => .up (still _ isDirectory))
  | stay stays isDirectory onward hypothesis =>
    cases path with
    | nil =>
      -- The separator at the end has only asked whether this is a directory.
      rcases ending with rfl | rfl
      · simp at whole
      · obtain ⟨-, rfl⟩ := List.cons.inj whole
        cases onward with
        | arrive =>
          obtain rfl := Verdict.arrived.inj reached
          exact .intact _ (fun _ _ _ _ => id) fun _ _ _ _ => id
        | lost => simp at reached
    | cons step path =>
      obtain ⟨rfl, rfl⟩ := List.cons.inj whole
      exact (hypothesis rfl rooted.rest reached).step
        (fun _ => .stay stays (settles.directory _ isDirectory))
        (fun _ => .stay stays (still _ isDirectory))
  | @jump links names name target rest verdict opens link _ _ hypothesis =>
    cases path with
    | nil => rcases ending with rfl | rfl <;> simp at whole
    | cons step path =>
      obtain ⟨rfl, rfl⟩ := List.cons.inj whole
      have same := alike _ _ link
      rcases settles.link _ _ link with linked | absent | isFile
      · exact (hypothesis (List.append_assoc ..) (rooted.target target) reached).step
          (jump_append (now opens) linked) (jump_append (otherNow opens) (same.trans linked))
      · exact .broken .notFound (breaks_of_missing (now opens) absent)
          (breaks_of_missing (otherNow opens) (same.trans absent))
          ⟨_, _, link, by simp [absent]⟩
      · -- A file stands where the link was, and steps are left.
        have inner : ∀ step ∈ path, step ≠ .go .root :=
          fun step early => rooted step (by simp [early])
        exact .broken .notDirectory (breaks_of_file (now opens) isFile inner)
          (breaks_of_file (otherNow opens) (same.trans isFile) inner)
          ⟨_, _, link, by simp [isFile]⟩
  | @enter links names name rest verdict opens solid onward hypothesis =>
    cases path with
    | nil => rcases ending with rfl | rfl <;> simp at whole
    | cons step path =>
      obtain ⟨rfl, rfl⟩ := List.cons.inj whole
      rcases solid with isFile | isDirectory
      · -- Behind a file no directory is reached.
        rcases onward.of_file isFile rooted with ⟨-, rfl⟩ | rfl
        · obtain rfl := Verdict.arrived.inj reached
          simp [isFile] at directory
        · simp at reached
      · exact (hypothesis rfl rooted.rest reached).step
          (fun _ => .enter (now opens) (.inr (settles.directory _ isDirectory)))
          (fun _ => .enter (otherNow opens) (.inr (still _ isDirectory)))
  | halt _ _ itself => simp at itself
  | lost | blocked | overlong | missing | nowhere | exhausted => simp at reached

end Leads

namespace Files

variable {files : Files} {purpose : Purpose} {links : Nat} {start names : List String}

/-- A directory is seen on the way down to a directory. -/
theorem sight_on_the_way {rest : List String}
    (room : files.sight (start ++ rest) = some .directory) :
    files.sight start = some .directory := by
  by_cases last : rest = []
  · rwa [last, List.append_nil] at room
  · exact sightAt_directory_of_append last (by rw [← sight, room]; simp)

/-- A separator at the end of a path stays at a directory. -/
theorem leads_ending {last : List PathStep} (directory : files.sight names = some .directory)
    (ending : last = [] ∨ last = [.slash]) :
    Leads files.sight purpose links names last (.arrived names) := by
  rcases ending with rfl | rfl
  · exact .arrive (by simp [directory])
  · exact .stay (.inr rfl) directory (.arrive (by simp [directory]))

/-- Names that lead straight down to something are followed to it. -/
theorem leads_down (filled : names ≠ [])
    (short : ∀ name ∈ names, name.utf8ByteSize ≤ nameLimit)
    (solid : files.sight (start ++ names) = some .file ∨
      files.sight (start ++ names) = some .directory) :
    Leads files.sight purpose links start (downSteps names) (.arrived (start ++ names)) := by
  induction names generalizing start with
  | nil => exact absurd rfl filled
  | cons name rest hypothesis =>
    have seen : files.sight (start ++ name :: rest) ≠ none := by
      rcases solid with look | look <;> simp [look]
    have opens : CanLookUp files.sight start name :=
      ⟨sightAt_directory_of_append (by simp) seen, short name (by simp)⟩
    rw [List.append_cons] at solid seen ⊢
    by_cases last : rest = []
    · subst last
      rw [List.append_nil] at solid seen ⊢
      exact .enter opens solid (.arrive seen)
    · refine .enter opens (.inr (sightAt_directory_of_append last seen)) ?_
      exact hypothesis last (fun other inside => short other (by simp [inside])) solid

/-- Names of which only the last is missing are followed up to it. -/
theorem leads_down_missing (filled : names ≠ [])
    (short : ∀ name ∈ names, name.utf8ByteSize ≤ nameLimit)
    (room : files.sight (start ++ names.dropLast) = some .directory)
    (unseen : files.sight (start ++ names) = none) :
    Leads files.sight purpose links start (downSteps names)
      (.missing (start ++ names.dropLast) (names.getLast filled)) := by
  induction names generalizing start with
  | nil => exact absurd rfl filled
  | cons name rest hypothesis =>
    have opens : CanLookUp files.sight start name :=
      ⟨sight_on_the_way room, short name (by simp)⟩
    by_cases last : rest = []
    · subst last
      simpa [downSteps] using Leads.missing opens unseen
    · rw [List.dropLast_cons_of_ne_nil last, List.append_cons] at room ⊢
      rw [List.append_cons] at unseen
      rw [List.getLast_cons last]
      refine .enter opens (.inr (sight_on_the_way room)) ?_
      exact hypothesis last (fun other inside => short other (by simp [inside])) room unseen

end Files

end SymbolAtlas
