import SymbolAtlas.Proofs.Files.Sight

/-!
# Where a path leads, as a relation

`Leads` says by rules where steps lead that are followed from some names through
at most so many links. It reads a file system only through what is seen at names,
so a change that leaves the view alone leaves every path alone, and each law about
a change is an induction over the rules. `Files.followLinks` gives exactly the
verdict of the relation; only paths to files that are to be written are left out,
since no law here is about them.

Three laws are proved. A path that arrives after a change that has brought no
directory and no link arrives before it at the same names. Without a regular file
every path leads where it led, except that one that led to the file or through it
is lost. And once an entry has been taken away, its path leads nowhere.
-/

namespace SymbolAtlas

/-- Where a path leads, whatever is there. -/
inductive Verdict where
  /-- To an entry at some names. -/
  | arrived (names : List String)
  /-- To a directory in which the last name is missing. -/
  | missing (names : List String) (name : String)
  | failed (error : FileError)
  deriving DecidableEq, Repr

/-- A place without the entry there. -/
def Place.verdict : Place → Verdict
  | .present names _ => .arrived names
  | .absent names name => .missing names name
  | .failed error => .failed error

/-- Where a verdict leads in a file system. -/
def Verdict.placeIn (files : Files) : Verdict → Place
  | .arrived names =>
    match entryAt names files.entries with
    | some entry => .present names entry
    | none => .failed .notFound
  | .missing names name => .absent names name
  | .failed error => .failed error

/-- A name can be looked up in a directory. -/
structure CanLookUp (sight : List String → Option Sight) (names : List String) (name : String) :
    Prop where
  directory : sight names = some .directory
  short : name.utf8ByteSize ≤ Files.nameLimit

/-- Where steps lead from some names through at most so many links. -/
inductive Leads (sight : List String → Option Sight) (purpose : Purpose) :
    Nat → List String → List PathStep → Verdict → Prop
  | arrive {links : Nat} {names : List String} (seen : sight names ≠ none) :
      Leads sight purpose links names [] (.arrived names)
  | lost {links : Nat} {names : List String} (unseen : sight names = none) :
      Leads sight purpose links names [] (.failed .notFound)
  | root {links : Nat} {names : List String} {rest : List PathStep} {verdict : Verdict}
      (onward : Leads sight purpose links [] rest verdict) :
      Leads sight purpose links names (.go .root :: rest) verdict
  /-- Nothing but a directory can be left by a step. -/
  | blocked {links : Nat} {names : List String} {step : PathStep} {rest : List PathStep}
      (inner : step ≠ .go .root) (closed : sight names ≠ some .directory) :
      Leads sight purpose links names (step :: rest) (.failed .notDirectory)
  | up {links : Nat} {names : List String} {rest : List PathStep} {verdict : Verdict}
      (directory : sight names = some .directory)
      (onward : Leads sight purpose links names.dropLast rest verdict) :
      Leads sight purpose links names (.go .parent :: rest) verdict
  | stay {links : Nat} {names : List String} {step : PathStep} {rest : List PathStep}
      {verdict : Verdict} (still : step = .go .current ∨ step = .slash)
      (directory : sight names = some .directory)
      (onward : Leads sight purpose links names rest verdict) :
      Leads sight purpose links names (step :: rest) verdict
  | overlong {links : Nat} {names : List String} {name : String} {rest : List PathStep}
      (directory : sight names = some .directory)
      (long : Files.nameLimit < name.utf8ByteSize) :
      Leads sight purpose links names (.go (.name name) :: rest) (.failed .nameTooLong)
  | missing {links : Nat} {names : List String} {name : String} (opens : CanLookUp sight names name)
      (unseen : sight (names ++ [name]) = none) :
      Leads sight purpose links names [.go (.name name)] (.missing names name)
  | nowhere {links : Nat} {names : List String} {name : String} {rest : List PathStep}
      (opens : CanLookUp sight names name) (unseen : sight (names ++ [name]) = none)
      (further : rest ≠ []) :
      Leads sight purpose links names (.go (.name name) :: rest) (.failed .notFound)
  /-- The link itself is wanted. -/
  | halt {links : Nat} {names : List String} {name target : String}
      (opens : CanLookUp sight names name)
      (link : sight (names ++ [name]) = some (.link target)) (itself : purpose = .entry) :
      Leads sight purpose links names [.go (.name name)] (.arrived (names ++ [name]))
  | jump {links : Nat} {names : List String} {name target : String} {rest : List PathStep}
      {verdict : Verdict} (opens : CanLookUp sight names name)
      (link : sight (names ++ [name]) = some (.link target))
      (through : rest = [] → purpose ≠ .entry)
      (onward : Leads sight purpose links names (Files.steps target ++ rest) verdict) :
      Leads sight purpose (links + 1) names (.go (.name name) :: rest) verdict
  | exhausted {names : List String} {name target : String} {rest : List PathStep}
      (opens : CanLookUp sight names name)
      (link : sight (names ++ [name]) = some (.link target))
      (through : rest = [] → purpose ≠ .entry) :
      Leads sight purpose 0 names (.go (.name name) :: rest) (.failed .tooManyLinks)
  | enter {links : Nat} {names : List String} {name : String} {rest : List PathStep}
      {verdict : Verdict} (opens : CanLookUp sight names name)
      (solid : sight (names ++ [name]) = some .file ∨
        sight (names ++ [name]) = some .directory)
      (onward : Leads sight purpose links (names ++ [name]) rest verdict) :
      Leads sight purpose links names (.go (.name name) :: rest) verdict

namespace Files

variable {files : Files} {purpose : Purpose} {names : List String} {name : String}
  {jump : List String → List PathStep → Place}

/-- A directory that is seen can be read, and its names are seen as they are bound. -/
theorem exists_inner (directory : files.sight names = some .directory) :
    ∃ inner, entryAt names files.entries = some (.directory inner) ∧
      ∀ name, (inner.lookup name).map Entry.sight = files.sight (names ++ [name]) := by
  obtain ⟨inner, there⟩ := sightAt_eq_directory.1 directory
  exact ⟨inner, there, fun name => (sight_concat there name).symm⟩

/-- Only a directory can be left by a step. -/
theorem follow_of_closed {step : PathStep} {rest : List PathStep} (inner : step ≠ .go .root)
    (closed : files.sight names ≠ some .directory) :
    files.follow jump purpose names (step :: rest) = .failed .notDirectory := by
  have unread : ∀ inside, entryAt names files.entries ≠ some (.directory inside) :=
    fun inside there => closed (sightAt_eq_directory.2 ⟨inside, there⟩)
  cases step with
  | go component =>
    cases component with
    | root => exact absurd rfl inner
    | current | parent | name text =>
      unfold follow
      split
      · rename_i inside there
        exact absurd there (unread inside)
      · rfl
  | slash =>
    unfold follow
    split
    · rename_i inside there
      exact absurd there (unread inside)
    · rfl

/-- Looking up a name in a directory, by what is seen there. -/
theorem follow_of_opens (notWriting : purpose ≠ .creation)
    (opens : CanLookUp files.sight names name) (rest : List PathStep) :
    files.follow jump purpose names (.go (.name name) :: rest) =
      match files.sight (names ++ [name]) with
      | none => if rest.isEmpty then .absent names name else .failed .notFound
      | some (.link target) =>
        if rest.isEmpty ∧ purpose = .entry then .present (names ++ [name]) (.link target)
        else jump names (steps target ++ rest)
      | some _ => files.follow jump purpose (names ++ [name]) rest := by
  obtain ⟨inner, there, seen⟩ := exists_inner opens.directory
  rw [follow, there]
  simp only [notWriting, false_and, if_false, Nat.not_lt.2 opens.short, ← seen name]
  cases inner.lookup name with
  | none => rfl
  | some entry => cases entry <;> rfl

/-- A path without steps leads as it is followed. -/
theorem leads_follow_nil {links : Nat} (files : Files)
    (jump : List String → List PathStep → Place) (names : List String) :
    Leads files.sight purpose links names [] (files.follow jump purpose names []).verdict := by
  rw [follow]
  cases there : entryAt names files.entries with
  | none => exact .lost (sightAt_eq_none.2 there)
  | some entry => exact .arrive (by simp [sight, there])

/-- A path leads as it is followed by its first step, if it does by the others and where the
step is a link. -/
theorem leads_follow_cons {links : Nat} {step : PathStep} {rest : List PathStep}
    (notWriting : purpose ≠ .creation)
    (hypothesis : ∀ names, Leads files.sight purpose links names rest
      (files.follow jump purpose names rest).verdict)
    (jumps : ∀ {name target : String}, CanLookUp files.sight names name →
      files.sight (names ++ [name]) = some (.link target) →
      (rest = [] → purpose ≠ .entry) →
      Leads files.sight purpose links names (.go (.name name) :: rest)
        (jump names (steps target ++ rest)).verdict) :
    Leads files.sight purpose links names (step :: rest)
      (files.follow jump purpose names (step :: rest)).verdict := by
  by_cases atRoot : step = .go .root
  · subst atRoot
    rw [follow]
    exact .root (hypothesis [])
  · by_cases directory : files.sight names = some .directory
    · obtain ⟨inner, there, seen⟩ := exists_inner directory
      cases step with
      | slash =>
        rw [follow, there]
        · exact .stay (.inr rfl) directory (hypothesis names)
        all_goals simp
      | go component =>
        cases component with
        | root => exact absurd rfl atRoot
        | current =>
          rw [follow, there]
          · exact .stay (.inl rfl) directory (hypothesis names)
          all_goals simp
        | parent =>
          rw [follow, there]
          exact .up directory (hypothesis _)
        | name name =>
          by_cases long : nameLimit < name.utf8ByteSize
          · rw [follow, there]
            simp only [notWriting, false_and, if_false, long, if_true]
            exact .overlong directory long
          · have opens : CanLookUp files.sight names name := ⟨directory, Nat.not_lt.1 long⟩
            rw [follow_of_opens notWriting opens]
            cases look : files.sight (names ++ [name]) with
            | none =>
              by_cases last : rest = []
              · subst last
                exact .missing opens look
              · simp only [List.isEmpty_iff, last, if_false]
                exact .nowhere opens look last
            | some entry =>
              cases entry with
              | file => exact .enter opens (.inl look) (hypothesis _)
              | directory => exact .enter opens (.inr look) (hypothesis _)
              | link target =>
                by_cases itself : rest = [] ∧ purpose = .entry
                · obtain ⟨rfl, rfl⟩ := itself
                  exact .halt opens look rfl
                · simp only [List.isEmpty_iff, itself, if_false]
                  exact jumps opens look fun last wanted => itself ⟨last, wanted⟩
    · rw [follow_of_closed atRoot directory]
      exact .blocked atRoot directory

/-- The verdict of `followLinks` is one of the relation. -/
theorem leads_followLinks (notWriting : purpose ≠ .creation) (links : Nat)
    (names : List String) (path : List PathStep) :
    Leads files.sight purpose links names path
      (files.followLinks purpose (links + 1) names path).verdict := by
  -- The outer induction is on the links left, the inner one on the steps.
  induction links generalizing names path with
  | zero =>
    rw [followLinks]
    induction path generalizing names with
    | nil => exact leads_follow_nil files _ names
    | cons step rest hypothesis =>
      exact leads_follow_cons notWriting hypothesis fun opens link through =>
        .exhausted opens link through
  | succ links further =>
    rw [followLinks]
    induction path generalizing names with
    | nil => exact leads_follow_nil files _ names
    | cons step rest hypothesis =>
      exact leads_follow_cons notWriting hypothesis fun opens link through =>
        .jump opens link through (further _ _)

/-- The relation gives no other verdict than `followLinks`. -/
theorem verdict_of_leads (notWriting : purpose ≠ .creation) {links : Nat}
    {path : List PathStep} {verdict : Verdict}
    (leads : Leads files.sight purpose links names path verdict) :
    (files.followLinks purpose (links + 1) names path).verdict = verdict := by
  induction leads with
  | @arrive links names seen =>
    obtain ⟨look, found⟩ := Option.ne_none_iff_exists'.1 seen
    obtain ⟨entry, there, -⟩ := Option.map_eq_some_iff.1 found
    simp [followLinks, follow, there, Place.verdict]
  | lost unseen => simp [followLinks, follow, sightAt_eq_none.1 unseen, Place.verdict]
  | root _ hypothesis => simpa [followLinks, follow] using hypothesis
  | blocked inner closed => simp [followLinks, follow_of_closed inner closed, Place.verdict]
  | up directory _ hypothesis =>
    obtain ⟨inner, there, -⟩ := exists_inner directory
    simpa [followLinks, follow, there] using hypothesis
  | stay still directory _ hypothesis =>
    obtain ⟨inner, there, -⟩ := exists_inner directory
    rcases still with rfl | rfl <;> simpa [followLinks, follow, there] using hypothesis
  | overlong directory long =>
    obtain ⟨inner, there, -⟩ := exists_inner directory
    simp [followLinks, follow, there, notWriting, long, Place.verdict]
  | missing opens unseen =>
    simp [followLinks, follow_of_opens notWriting opens, unseen, Place.verdict]
  | nowhere opens unseen further =>
    simp [followLinks, follow_of_opens notWriting opens, unseen, further, Place.verdict]
  | halt opens link itself =>
    rw [followLinks, follow_of_opens notWriting opens, link]
    simp [itself, Place.verdict]
  | @jump links names name target rest verdict opens link through _ hypothesis =>
    have onward : ¬ (rest = [] ∧ purpose = .entry) := fun wanted => through wanted.1 wanted.2
    rw [followLinks, follow_of_opens notWriting opens, link]
    simpa [onward] using hypothesis
  | @exhausted names name target rest opens link through =>
    have onward : ¬ (rest = [] ∧ purpose = .entry) := fun wanted => through wanted.1 wanted.2
    rw [followLinks, follow_of_opens notWriting opens, link]
    simp [onward, followLinks, Place.verdict]
  | enter opens solid _ hypothesis =>
    rw [followLinks, follow_of_opens notWriting opens]
    rcases solid with look | look <;> simpa [look, followLinks] using hypothesis

/-- The entry that a path is said to lead to is there. -/
theorem follow_present {path : List PathStep} {found : List String} {entry : Entry}
    (jumped : ∀ names path, jump names path = .present found entry →
      entryAt found files.entries = some entry)
    (present : files.follow jump purpose names path = .present found entry) :
    entryAt found files.entries = some entry := by
  fun_induction follow files jump purpose names path with
  | case1 names old there =>
    obtain ⟨rfl, rfl⟩ := Place.present.inj present
    exact there
  | case3 _ _ hypothesis => exact hypothesis present
  | case4 _ _ _ _ hypothesis => exact hypothesis present
  | case10 names name rest inner there _ _ target bound last =>
    -- A link at the end that is wanted itself.
    obtain ⟨rfl, rfl⟩ := Place.present.inj present
    rw [entryAt_append there, entryAt_singleton, bound]
  | case11 => exact jumped _ _ present
  | case12 _ _ _ _ _ _ _ _ _ _ hypothesis => exact hypothesis present
  | case14 _ _ _ _ _ _ _ _ hypothesis => exact hypothesis present
  | _ => simp at present

/-- The same through any number of links. -/
theorem followLinks_present {links : Nat} {path : List PathStep} {found : List String}
    {entry : Entry} (present : files.followLinks purpose links names path = .present found entry) :
    entryAt found files.entries = some entry := by
  induction links generalizing names path with
  | zero => simp [followLinks] at present
  | succ links hypothesis => exact follow_present (fun _ _ => hypothesis) present

/-- A place is known by its verdict. -/
theorem followLinks_eq_placeIn (links : Nat) (names : List String) (path : List PathStep) :
    files.followLinks purpose links names path =
      (files.followLinks purpose links names path).verdict.placeIn files := by
  cases arrival : files.followLinks purpose links names path with
  | present found entry =>
    simp [Place.verdict, Verdict.placeIn, followLinks_present arrival]
  | absent found name => rfl
  | failed error => rfl

/-- The relation says where a path leads from the current directory. -/
theorem leads_iff (notWriting : purpose ≠ .creation) {path : List PathStep} {verdict : Verdict} :
    Leads files.sight purpose linkLimit files.current path verdict ↔
      (files.placeOf purpose path).verdict = verdict := by
  constructor
  · exact verdict_of_leads notWriting
  · rintro rfl
    exact leads_followLinks notWriting _ _ _

/-- A path leads to an entry where it arrives and the entry is there. -/
theorem placeOf_eq_present_iff (notWriting : purpose ≠ .creation) {path : List PathStep}
    {found : List String} {entry : Entry} :
    files.placeOf purpose path = .present found entry ↔
      Leads files.sight purpose linkLimit files.current path (.arrived found) ∧
        entryAt found files.entries = some entry := by
  rw [leads_iff notWriting]
  constructor
  · intro present
    exact ⟨by rw [present, Place.verdict], followLinks_present present⟩
  · rintro ⟨arrived, there⟩
    rw [placeOf, followLinks_eq_placeIn, ← placeOf, arrived, Verdict.placeIn, there]

/-- A path leads to a missing name where the relation says so. -/
theorem placeOf_eq_absent_iff (notWriting : purpose ≠ .creation) {path : List PathStep}
    {found : List String} {name : String} :
    files.placeOf purpose path = .absent found name ↔
      Leads files.sight purpose linkLimit files.current path (.missing found name) := by
  rw [leads_iff notWriting]
  cases files.placeOf purpose path <;> simp [Place.verdict]

/-- A path fails where the relation says so. -/
theorem placeOf_eq_failed_iff (notWriting : purpose ≠ .creation) {path : List PathStep}
    {error : FileError} :
    files.placeOf purpose path = .failed error ↔
      Leads files.sight purpose linkLimit files.current path (.failed error) := by
  rw [leads_iff notWriting]
  cases files.placeOf purpose path <;> simp [Place.verdict]

/-- Only the first step of a path can go to the root. -/
theorem ne_root_of_mem_tail_steps {path : String} {step : PathStep}
    (later : step ∈ (steps path).tail) : step ≠ .go .root := by
  have segment : ∀ step ∈ (Text.splitWhen (· = '/') path.toList).filterMap segmentStep?,
      step ≠ .go .root := by
    rintro step inside rfl
    obtain ⟨segment, -, made⟩ := List.mem_filterMap.1 inside
    unfold segmentStep? at made
    split at made
    · simp at made
    · split at made
      · simp at made
      · split at made <;> simp at made
  have behind : ∀ step ∈ (Text.splitWhen (· = '/') path.toList).filterMap segmentStep? ++
      (if path.toList.getLast? = some '/' then [PathStep.slash] else []), step ≠ .go .root := by
    intro step inside
    rcases List.mem_append.1 inside with middle | last
    · exact segment step middle
    · split at last
      · rintro rfl
        simp at last
      · simp at last
  unfold steps at later
  simp only [List.append_assoc] at later
  split at later
  · exact behind step (by simpa using later)
  · exact behind step (List.mem_of_mem_tail (by simpa using later))

end Files

/-- Only the first of these steps may go to the root. -/
def IsRooted (path : List PathStep) : Prop :=
  ∀ step ∈ path.tail, step ≠ .go .root

/-- The steps of a path are such. -/
theorem isRooted_steps (path : String) : IsRooted (Files.steps path) :=
  fun _ => Files.ne_root_of_mem_tail_steps

/-- So are those behind the first one. -/
theorem IsRooted.rest {step : PathStep} {rest : List PathStep} (rooted : IsRooted (step :: rest)) :
    IsRooted rest :=
  fun step inside => rooted step (List.mem_of_mem_tail inside)

/-- So are the steps of a link's target with those that are left behind them. -/
theorem IsRooted.target {step : PathStep} {rest : List PathStep}
    (rooted : IsRooted (step :: rest)) (target : String) :
    IsRooted (Files.steps target ++ rest) := by
  intro other inside
  cases taken : Files.steps target with
  | nil =>
    rw [taken, List.nil_append] at inside
    exact rooted other (List.mem_of_mem_tail inside)
  | cons first others =>
    rw [taken, List.cons_append, List.tail_cons] at inside
    rcases List.mem_append.1 inside with early | late
    · exact isRooted_steps target other (by simpa [taken] using early)
    · exact rooted other late

/-- So are those that pass a test. -/
theorem IsRooted.filter {path : List PathStep} (rooted : IsRooted path)
    (test : PathStep → Bool) : IsRooted (path.filter test) := by
  intro step inside
  cases path with
  | nil => simp at inside
  | cons first rest =>
    rw [List.filter_cons] at inside
    split at inside
    · exact rooted step (List.mem_filter.1 inside).1
    · exact rooted step (List.mem_filter.1 (List.mem_of_mem_tail inside)).1

namespace Leads

variable {sight before after : List String → Option Sight} {purpose : Purpose} {links : Nat}
  {names : List String} {path : List PathStep} {verdict : Verdict}

/-- Nothing goes on behind a file: a path that does not start at the root ends there or is
blocked. -/
theorem of_file (leads : Leads sight purpose links names path verdict)
    (isFile : sight names = some .file) (inner : ∀ step ∈ path, step ≠ .go .root) :
    path = [] ∧ verdict = .arrived names ∨ verdict = .failed .notDirectory := by
  have closed : sight names ≠ some .directory := by simp [isFile]
  cases leads with
  | arrive => exact .inl ⟨rfl, rfl⟩
  | lost unseen => simp [isFile] at unseen
  | root => exact absurd rfl (inner _ (List.mem_cons_self ..))
  | blocked => exact .inr rfl
  | up directory | stay _ directory | overlong directory => exact absurd directory closed
  | missing opens | nowhere opens | halt opens | jump opens | exhausted opens | enter opens =>
    exact absurd opens.directory closed

/-- A path that arrives although directories and links have only become fewer arrives at
the same names before, provided that a file there was one before. -/
theorem arrived_before {found : List String}
    (leads : Leads after purpose links names path (.arrived found)) (rooted : IsRooted path)
    (directories : ∀ names, after names = some .directory → before names = some .directory)
    (linked : ∀ names target, after names = some (.link target) →
      before names = some (.link target))
    (file : after found = some .file → before found = some .file) :
    Leads before purpose links names path (.arrived found) := by
  generalize reached : Verdict.arrived found = verdict at leads
  induction leads with
  | @arrive links names seen =>
    obtain rfl := Verdict.arrived.inj reached
    refine .arrive ?_
    cases look : after found with
    | none => exact absurd look seen
    | some what =>
      cases what with
      | file => simp [file look]
      | directory => simp [directories _ look]
      | link target => simp [linked _ _ look]
  | root _ hypothesis => exact .root (hypothesis rooted.rest reached)
  | up directory _ hypothesis =>
    exact .up (directories _ directory) (hypothesis rooted.rest reached)
  | stay still directory _ hypothesis =>
    exact .stay still (directories _ directory) (hypothesis rooted.rest reached)
  | halt opens link itself =>
    obtain rfl := Verdict.arrived.inj reached
    exact .halt ⟨directories _ opens.directory, opens.short⟩ (linked _ _ link) itself
  | jump opens link through _ hypothesis =>
    exact .jump ⟨directories _ opens.directory, opens.short⟩ (linked _ _ link) through
      (hypothesis (rooted.target _) reached)
  | @enter links names name rest verdict opens solid onward hypothesis =>
    have opened : CanLookUp before names name := ⟨directories _ opens.directory, opens.short⟩
    rcases solid with isFile | isDirectory
    · rcases onward.of_file isFile rooted with ⟨rfl, rfl⟩ | rfl
      · obtain rfl := Verdict.arrived.inj reached
        exact .enter opened (.inl (file isFile)) (.arrive (by simp [file isFile]))
      · simp at reached
    · exact .enter opened (.inr (directories _ isDirectory)) (hypothesis rooted.rest reached)
  | lost | blocked | overlong | missing | nowhere | exhausted => simp at reached

end Leads

/-- A view that shows nothing at one place, where no directory was, and all else as before. -/
structure Hides (gone : List String) (sight lacking : List String → Option Sight) : Prop where
  closed : sight gone ≠ some .directory
  view : ∀ names, lacking names = if names = gone then none else sight names

namespace Hides

variable {gone names : List String} {sight lacking : List String → Option Sight}

/-- The place is hidden. -/
theorem hidden (hides : Hides gone sight lacking) : lacking gone = none := by
  simp [hides.view]

/-- Every other place is shown. -/
theorem kept (hides : Hides gone sight lacking) (different : names ≠ gone) :
    lacking names = sight names := by
  rw [hides.view, if_neg different]

/-- What was not seen at the place is seen wherever it was. -/
theorem kept_of_seen (hides : Hides gone sight lacking) {look : Option Sight}
    (seen : sight names = look) (other : sight gone ≠ look) : lacking names = look := by
  rw [hides.kept, seen]
  rintro rfl
  exact other seen

/-- Directories are still there. -/
theorem directory (hides : Hides gone sight lacking) (seen : sight names = some .directory) :
    lacking names = some .directory :=
  hides.kept_of_seen seen hides.closed

/-- Names can still be looked up in them. -/
theorem opens (hides : Hides gone sight lacking) {name : String}
    (opens : CanLookUp sight names name) : CanLookUp lacking names name :=
  ⟨hides.directory opens.directory, opens.short⟩

end Hides

/-- The verdicts on one path with a regular file and without it: the same, unless the
path needed the file. -/
inductive Verdict.Parts (gone : List String) : Verdict → Verdict → Prop
  | same {verdict : Verdict} (elsewhere : verdict ≠ .arrived gone) : Parts gone verdict verdict
  | lost {verdict other : Verdict}
      (needed : verdict = .arrived gone ∨ verdict = .failed .notDirectory)
      (nowhere : other = .failed .notFound ∨ ∃ names name, other = .missing names name) :
      Parts gone verdict other

namespace Leads

variable {sight lacking : List String → Option Sight} {purpose : Purpose} {links : Nat}
  {names gone : List String} {path : List PathStep} {verdict : Verdict}

/-- A name that is not seen leads nowhere. -/
theorem exists_of_unseen {name : String} (purpose : Purpose) (links : Nat)
    (rest : List PathStep) (opens : CanLookUp lacking names name)
    (unseen : lacking (names ++ [name]) = none) :
    ∃ other, Leads lacking purpose links names (.go (.name name) :: rest) other ∧
      (other = .failed .notFound ∨ ∃ names name, other = .missing names name) := by
  by_cases last : rest = []
  · subst last
    exact ⟨_, .missing opens unseen, .inr ⟨names, name, rfl⟩⟩
  · exact ⟨_, .nowhere opens unseen last, .inl rfl⟩

/-- Without a regular file, every path that does not need it leads where it did. -/
theorem without (leads : Leads sight purpose links names path verdict) (rooted : IsRooted path)
    (isFile : sight gone = some .file) (hides : Hides gone sight lacking) :
    ∃ other, Leads lacking purpose links names path other ∧ verdict.Parts gone other := by
  have linked : ∀ {names target}, sight names = some (.link target) →
      lacking names = some (.link target) :=
    fun link => hides.kept_of_seen link (by simp [isFile])
  have unseen_kept : ∀ {names}, sight names = none → lacking names = none :=
    fun unseen => hides.kept_of_seen unseen (by simp [isFile])
  induction leads with
  | @arrive links names seen =>
    by_cases same : names = gone
    · exact ⟨_, .lost (same ▸ hides.hidden), .lost (.inl (by rw [same])) (.inl rfl)⟩
    · exact ⟨_, .arrive (by rwa [hides.kept same]), .same (by simpa using same)⟩
  | lost unseen => exact ⟨_, .lost (unseen_kept unseen), .same (by simp)⟩
  | root _ hypothesis =>
    obtain ⟨other, onward, parts⟩ := hypothesis rooted.rest
    exact ⟨other, .root onward, parts⟩
  | @blocked links names step rest inner closed =>
    have stillClosed : lacking names ≠ some .directory := by
      by_cases same : names = gone
      · simp [same, hides.hidden]
      · rwa [hides.kept same]
    exact ⟨_, .blocked inner stillClosed, .same (by simp)⟩
  | up directory _ hypothesis =>
    obtain ⟨other, onward, parts⟩ := hypothesis rooted.rest
    exact ⟨other, .up (hides.directory directory) onward, parts⟩
  | stay still directory _ hypothesis =>
    obtain ⟨other, onward, parts⟩ := hypothesis rooted.rest
    exact ⟨other, .stay still (hides.directory directory) onward, parts⟩
  | overlong directory long =>
    exact ⟨_, .overlong (hides.directory directory) long, .same (by simp)⟩
  | missing opens unseen =>
    exact ⟨_, .missing (hides.opens opens) (unseen_kept unseen), .same (by simp)⟩
  | nowhere opens unseen further =>
    exact ⟨_, .nowhere (hides.opens opens) (unseen_kept unseen) further, .same (by simp)⟩
  | @halt links names name target opens link itself =>
    refine ⟨_, .halt (hides.opens opens) (linked link) itself, .same ?_⟩
    intro arrived
    rw [Verdict.arrived.inj arrived, isFile] at link
    simp at link
  | jump opens link through _ hypothesis =>
    obtain ⟨other, onward, parts⟩ := hypothesis (rooted.target _)
    exact ⟨other, .jump (hides.opens opens) (linked link) through onward, parts⟩
  | exhausted opens link through =>
    exact ⟨_, .exhausted (hides.opens opens) (linked link) through, .same (by simp)⟩
  | @enter links names name rest verdict opens solid onward hypothesis =>
    by_cases same : names ++ [name] = gone
    · -- The path has come to the file: it ends here, or it is blocked.
      have needed : verdict = .arrived gone ∨ verdict = .failed .notDirectory := by
        rw [same] at onward
        exact (onward.of_file isFile rooted).imp And.right id
      obtain ⟨other, lost, nowhere⟩ :=
        exists_of_unseen purpose links rest (hides.opens opens) (by rw [same, hides.hidden])
      exact ⟨other, lost, .lost needed nowhere⟩
    · obtain ⟨other, further, parts⟩ := hypothesis rooted.rest
      exact ⟨other, .enter (hides.opens opens) (by rwa [hides.kept same]) further, parts⟩

/-- Once the entry that a path names has been taken away, the path leads nowhere. -/
theorem removed (leads : Leads sight .entry links names path (.arrived gone))
    (hides : Hides gone sight lacking) :
    ∃ other, Leads lacking .target links names path other ∧
      ∀ found, other ≠ .arrived found := by
  have nowhere : ∀ {names name} {links : Nat} {rest : List PathStep}, CanLookUp sight names name →
      names ++ [name] = gone → ∃ other,
        Leads lacking .target links names (.go (.name name) :: rest) other ∧
        ∀ found, other ≠ .arrived found := by
    intro names name links rest opens same
    obtain ⟨other, lost, absent⟩ :=
      exists_of_unseen .target links rest (hides.opens opens) (by rw [same, hides.hidden])
    refine ⟨other, lost, ?_⟩
    rcases absent with rfl | ⟨_, _, rfl⟩ <;> simp
  generalize reached : Verdict.arrived gone = verdict at leads
  induction leads with
  | @arrive links names seen =>
    obtain rfl := Verdict.arrived.inj reached
    exact ⟨_, .lost hides.hidden, by simp⟩
  | root _ hypothesis =>
    obtain ⟨other, onward, absent⟩ := hypothesis reached
    exact ⟨other, .root onward, absent⟩
  | up directory _ hypothesis =>
    obtain ⟨other, onward, absent⟩ := hypothesis reached
    exact ⟨other, .up (hides.directory directory) onward, absent⟩
  | stay still directory _ hypothesis =>
    obtain ⟨other, onward, absent⟩ := hypothesis reached
    exact ⟨other, .stay still (hides.directory directory) onward, absent⟩
  | halt opens => exact nowhere opens (Verdict.arrived.inj reached).symm
  | @jump links names name target rest verdict opens link _ _ hypothesis =>
    by_cases same : names ++ [name] = gone
    · exact nowhere opens same
    · obtain ⟨other, onward, absent⟩ := hypothesis reached
      exact ⟨other, .jump (hides.opens opens) (by rwa [hides.kept same]) (by simp) onward, absent⟩
  | @enter links names name rest verdict opens solid _ hypothesis =>
    by_cases same : names ++ [name] = gone
    · exact nowhere opens same
    · obtain ⟨other, onward, absent⟩ := hypothesis reached
      exact ⟨other, .enter (hides.opens opens) (by rwa [hides.kept same]) onward, absent⟩
  | lost | blocked | overlong | missing | nowhere | exhausted => simp at reached

end Leads

end SymbolAtlas
