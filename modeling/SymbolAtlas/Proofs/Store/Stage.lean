import SymbolAtlas.Proofs.Files.Upkeep
import SymbolAtlas.Proofs.Store.Place

/-!
# Workspaces that differ in a file

A store on a database touches the file of the database and the three files beside
it, and nothing else. So a regular file that is none of these, and that no link in
their places leads to, may be missing from a workspace: what is put beside a
database, swept away or settled is the same, and the two workspaces still differ in
the file alone.

`Stage` is what the stages of opening carry along: the difference between the two
workspaces, what has become of the view since the directory of the database was
made, and that the database file is there. Each change that a store makes to the
files preserves it.
-/

namespace SymbolAtlas

namespace Files

/-- Later files in which there are the same directories, and no link that was not there. -/
structure Sheds (before after : Files) : Prop where
  current : after.current = before.current
  unlisted : after.unlisted = before.unlisted
  directory : ∀ names, after.sight names = some .directory ↔ before.sight names = some .directory
  link : ∀ names target, after.sight names = some (.link target) →
    before.sight names = some (.link target)

variable {files before middle after : Files} {names gone : List String}

/-- Files shed nothing at first. -/
theorem Sheds.refl (files : Files) : files.Sheds files :=
  ⟨rfl, rfl, fun _ => Iff.rfl, fun _ _ => id⟩

/-- Shedding twice is shedding. -/
theorem Sheds.trans (first : before.Sheds middle) (second : middle.Sheds after) :
    before.Sheds after :=
  ⟨second.current.trans first.current, second.unlisted.trans first.unlisted,
    fun names => (second.directory names).trans (first.directory names),
    fun names target seen => first.link names target (second.link names target seen)⟩

/-- Putting a file somewhere, or taking away what is no directory, sheds. -/
theorem sheds_bind {entry : Option Entry} (distinct : isDistinctAmong files.entries = true)
    (admits : files.Admits names)
    (plain : entry = none ∨ ∃ content, entry = some (.file content)) :
    files.Sheds (files.bind names entry) := by
  have bare : ∀ new, entry = some new → new.isBare = true := by
    rintro new rfl
    rcases plain with none | ⟨content, same⟩
    · simp at none
    · rw [Option.some.inj same]
      rfl
  have hidden : entry.map Entry.sight = none ∨ entry.map Entry.sight = some .file := by
    rcases plain with rfl | ⟨content, rfl⟩
    · exact .inl rfl
    · exact .inr rfl
  refine ⟨rfl, rfl, ?_, ?_⟩
  · intro other
    rw [sight_bind distinct admits bare]
    by_cases same : other = names
    · subst same
      rw [if_pos rfl]
      rcases hidden with none | file
      · simp [none, admits.closed]
      · simp [file, admits.closed]
    · rw [if_neg same]
  · intro other target seen
    rw [sight_bind distinct admits bare] at seen
    by_cases same : other = names
    · rw [if_pos same] at seen
      rcases hidden with none | file
      · simp [none] at seen
      · simp [file] at seen
    · rwa [if_neg same] at seen

/-- A path that leads to a file later on has always led there, if the file has always
been there. -/
theorem Sheds.verdict (sheds : before.Sheds after) {path : List PathStep}
    (rooted : IsRooted path) (held : before.sight gone = some .file)
    (leads : (after.placeOf .target path).verdict = .arrived gone) :
    (before.placeOf .target path).verdict = .arrived gone := by
  have arrives := (leads_iff (by simp)).2 leads
  rw [sheds.current] at arrives
  exact (leads_iff (by simp)).1 (arrives.arrived_before rooted
    (fun names => (sheds.directory names).1) sheds.link fun _ => held)

end Files

/-- The endings of the names of a database file and of the files beside it. -/
def databaseEndings : List String := ["", "-journal", "-wal", "-shm"]

/-- The steps by which names are followed from the root. -/
def wholeSteps (names : List String) : List PathStep :=
  .go .root :: names.map fun name => .go (.name name)

/-- Such steps go to the root only in the beginning. -/
theorem isRooted_wholeSteps (names : List String) : IsRooted (wholeSteps names) := by
  intro step inside
  obtain ⟨name, -, rfl⟩ := List.mem_map.1 inside
  simp

/-- A database at some names has nothing to do with a file that is there: neither the
database file nor one beside it is the file or leads to it. -/
structure Files.Spares (files : Files) (gone names : List String) : Prop where
  held : files.sight gone = some .file
  apart : ∀ ending ∈ databaseEndings, besideNames names ending ≠ gone
  unled : ∀ ending ∈ databaseEndings,
    (files.placeOf .target (wholeSteps (besideNames names ending))).verdict ≠ .arrived gone

/-- The names without an ending are the names. -/
theorem besideNames_empty {names : List String} (nonempty : names ≠ []) :
    besideNames names "" = names := by
  obtain ⟨directory, last, rfl⟩ : ∃ directory last, names = directory ++ [last] :=
    ⟨_, _, (List.dropLast_concat_getLast nonempty).symm⟩
  simp [besideNames]

/-- A file beside another lies in the same directory. -/
theorem dropLast_besideNames {names : List String} (nonempty : names ≠ []) (ending : String) :
    (besideNames names ending).dropLast = names.dropLast := by
  obtain ⟨directory, last, rfl⟩ : ∃ directory last, names = directory ++ [last] :=
    ⟨_, _, (List.dropLast_concat_getLast nonempty).symm⟩
  simp [besideNames]

/-- A file beside another has a name. -/
theorem besideNames_ne_nil {names : List String} (nonempty : names ≠ []) (ending : String) :
    besideNames names ending ≠ [] := by
  obtain ⟨directory, last, rfl⟩ : ∃ directory last, names = directory ++ [last] :=
    ⟨_, _, (List.dropLast_concat_getLast nonempty).symm⟩
  simp [besideNames]

/-- A file beside another is another one. -/
theorem besideNames_ne {names : List String} (nonempty : names ≠ []) {ending : String}
    (longer : ending ≠ "") : besideNames names ending ≠ names := by
  intro same
  exact Workspace.besideNames_outside nonempty ending longer (by simp [same])

namespace Workspace

/-- One workspace is another one without a regular file. -/
structure Lacks (gone : List String) (content : Content) (full lacking : Workspace) : Prop where
  files : Files.Lacks gone content full.files lacking.files
  databases : lacking.databases = full.databases
  lockedNumber : lacking.lockedNumber = full.lockedNumber

/-- Whether there is a directory is a matter of view. -/
theorem hasDirectory_eq (workspace : Workspace) (names : List String) :
    workspace.hasDirectory names = decide (workspace.files.sight names = some .directory) := by
  unfold hasDirectory entry? Files.sight sightAt
  cases entryAt names workspace.files.entries with
  | none => rfl
  | some entry => cases entry <;> rfl

/-- Whether there is a link is a matter of view. -/
theorem hasLink_eq (workspace : Workspace) (names : List String) :
    workspace.hasLink names =
      match workspace.files.sight names with
      | some (.link _) => true
      | _ => false := by
  unfold hasLink entry? Files.sight sightAt
  cases entryAt names workspace.files.entries with
  | none => rfl
  | some entry => cases entry <;> rfl

/-- What is found at some names, by where they lead. -/
theorem finds_eq (workspace : Workspace) (names : List String) :
    workspace.finds names =
      match (workspace.files.placeOf .target (wholeSteps names)).verdict with
      | .arrived found =>
        match workspace.entry? found with
        | some (.file content) => !content.isVoid
        | some _ => true
        | none => false
      | _ => false := by
  unfold finds entry?
  rw [← wholeSteps]
  cases arrival : workspace.files.placeOf .target (wholeSteps names) with
  | absent => rfl
  | failed => rfl
  | present found entry =>
    have there := ((Files.placeOf_eq_present_iff (by simp)).1 arrival).2
    dsimp only [Place.verdict]
    rw [there]
    cases entry <;> rfl

namespace Lacks

variable {gone : List String} {content : Content} {full lacking : Workspace}
  {names : List String}

/-- The databases are the same. -/
theorem database (lacks : Lacks gone content full lacking) (number : Nat) :
    lacking.database number = full.database number := by
  rw [Workspace.database, Workspace.database, lacks.databases]

/-- What is no directory and not the file reads the same. -/
theorem entry? (lacks : Lacks gone content full lacking) (different : names ≠ gone)
    (closed : full.files.sight names ≠ some .directory) :
    lacking.entry? names = full.entry? names :=
  lacks.files.entryAt_of_closed different closed

/-- There are the same directories. -/
theorem hasDirectory (lacks : Lacks gone content full lacking) (names : List String) :
    lacking.hasDirectory names = full.hasDirectory names := by
  rw [hasDirectory_eq, hasDirectory_eq, lacks.files.sight]
  by_cases same : names = gone
  · rw [if_pos same, same, lacks.files.sight_gone]
    rfl
  · rw [if_neg same]

/-- There are the same links. -/
theorem hasLink (lacks : Lacks gone content full lacking) (names : List String) :
    lacking.hasLink names = full.hasLink names := by
  rw [hasLink_eq, hasLink_eq, lacks.files.sight]
  by_cases same : names = gone
  · rw [if_pos same, same, lacks.files.sight_gone]
  · rw [if_neg same]

/-- A file can be made in the same places. -/
theorem admitsFile (lacks : Lacks gone content full lacking) (names : List String) :
    lacking.admitsFile names = full.admitsFile names := by
  rw [Workspace.admitsFile, Workspace.admitsFile, lacks.hasDirectory, lacks.hasLink]

/-- The same number is found in a content. -/
theorem numberIn? (lacks : Lacks gone content full lacking) (found : Content) :
    lacking.numberIn? found = full.numberIn? found := by
  cases found <;> simp [Workspace.numberIn?, lacks.database]

/-- The same database replaced keeps the difference. -/
theorem setDatabase (lacks : Lacks gone content full lacking) (number : Nat)
    (database : Database) :
    Lacks gone content (full.setDatabase number database) (lacking.setDatabase number database) :=
  ⟨lacks.files, by simp [Workspace.setDatabase, lacks.databases], lacks.lockedNumber⟩

/-- The same database added keeps the difference, and gets the same number. -/
theorem addDatabase (lacks : Lacks gone content full lacking) (database : Database) :
    (lacking.addDatabase database).2 = (full.addDatabase database).2 ∧
      Lacks gone content (full.addDatabase database).1 (lacking.addDatabase database).1 := by
  refine ⟨?_, lacks.files, ?_, lacks.lockedNumber⟩
  · simp [Workspace.addDatabase, lacks.databases]
  · simp [Workspace.addDatabase, lacks.databases]

/-- The same change of files keeps the difference. -/
theorem bind {entry : Option Entry} (lacks : Lacks gone content full lacking)
    (admits : full.files.Admits names) (different : names ≠ gone)
    (bare : ∀ new, entry = some new → new.isBare = true) :
    Lacks gone content (full.bind names entry) (lacking.bind names entry) :=
  ⟨lacks.files.bind admits different bare, lacks.databases, lacks.lockedNumber⟩

/-- The same is found at names that do not lead to the file. -/
theorem finds (lacks : Lacks gone content full lacking)
    (unled : (full.files.placeOf .target (wholeSteps names)).verdict ≠ .arrived gone) :
    lacking.finds names = full.finds names := by
  have parts := lacks.files.parts (by simp : Purpose.target ≠ .creation)
    (isRooted_wholeSteps names)
  rw [finds_eq, finds_eq]
  generalize (full.files.placeOf .target (wholeSteps names)).verdict = verdict at parts unled
  generalize (lacking.files.placeOf .target (wholeSteps names)).verdict = other at parts
  cases parts with
  | lost needed nowhere =>
    rcases needed with rfl | rfl
    · exact absurd rfl unled
    · rcases nowhere with rfl | ⟨_, _, rfl⟩ <;> rfl
  | same =>
    cases verdict with
    | missing => rfl
    | failed => rfl
    | arrived found =>
      have different : found ≠ gone := fun same => unled (by rw [same])
      by_cases closed : full.files.sight found = some .directory
      · have still := lacks.files.sight_of_ne different
        rw [closed] at still
        obtain ⟨inner, there⟩ := sightAt_eq_directory.1 closed
        obtain ⟨otherInner, otherThere⟩ := sightAt_eq_directory.1 still
        simp [Workspace.entry?, there, otherThere]
      · simp only [lacks.entry? different closed]

end Lacks

/-- What the stages of opening carry along, for a database at some names: the difference
between the two workspaces, the view since the beginning, and that the database file is
there. -/
structure Stage (gone : List String) (content : Content) (names : List String) (origin : Files)
    (full lacking : Workspace) : Prop where
  lacks : Lacks gone content full lacking
  sheds : origin.Sheds full.files
  seated : full.files.sight names = some .file

namespace Stage

variable {gone : List String} {content : Content} {names : List String} {origin : Files}
  {full lacking : Workspace}

/-- A database file has a name. -/
theorem nonempty (stage : Stage gone content names origin full lacking) : names ≠ [] := by
  rintro rfl
  have seated := stage.seated
  simp at seated

/-- The database file can be written. -/
theorem admits_home (stage : Stage gone content names origin full lacking) :
    full.files.Admits names :=
  Files.admits_of_seen (by simp [stage.seated]) (by simp [stage.seated])

/-- A file beside the database can be made, unless there is a directory. -/
theorem admits_beside (stage : Stage gone content names origin full lacking) {ending : String}
    (closed : full.files.sight (besideNames names ending) ≠ some .directory) :
    full.files.Admits (besideNames names ending) where
  nonempty := besideNames_ne_nil stage.nonempty ending
  room := by
    rw [dropLast_besideNames stage.nonempty]
    exact stage.admits_home.room
  closed := closed

/-- A change of databases alone. -/
theorem withDatabases {full' lacking' : Workspace}
    (stage : Stage gone content names origin full lacking)
    (lacks : Lacks gone content full' lacking') (same : full'.files = full.files) :
    Stage gone content names origin full' lacking' :=
  ⟨lacks, same ▸ stage.sheds, same ▸ stage.seated⟩

/-- Replacing a database. -/
theorem setDatabase (stage : Stage gone content names origin full lacking) (number : Nat)
    (database : Database) : Stage gone content names origin (full.setDatabase number database)
      (lacking.setDatabase number database) :=
  stage.withDatabases (stage.lacks.setDatabase number database) rfl

/-- Several changes of files beside the database, one after another. -/
theorem foldl {change : Workspace → Side → Workspace}
    (each : ∀ {full lacking : Workspace} (side : Side),
      Stage gone content names origin full lacking →
        Stage gone content names origin (change full side) (change lacking side))
    (stage : Stage gone content names origin full lacking) (sides : List Side) :
    Stage gone content names origin (sides.foldl change full) (sides.foldl change lacking) := by
  induction sides generalizing full lacking with
  | nil => exact stage
  | cons side rest hypothesis => exact hypothesis (each side stage)

variable (spares : origin.Spares gone names)

include spares

/-- The database file is another file. -/
theorem home_ne (stage : Stage gone content names origin full lacking) : names ≠ gone := by
  have apart := spares.apart "" (by decide)
  rwa [besideNames_empty stage.nonempty] at apart

/-- Writing the database file. -/
theorem bind_home (stage : Stage gone content names origin full lacking) (written : Content) :
    Stage gone content names origin (full.bind names (some (.file written)))
      (lacking.bind names (some (.file written))) where
  lacks := stage.lacks.bind stage.admits_home (stage.home_ne spares) (by simp [Entry.isBare])
  sheds := stage.sheds.trans
    (Files.sheds_bind stage.lacks.files.distinct stage.admits_home (.inr ⟨written, rfl⟩))
  seated := by
    rw [bind, withFiles, Files.sight_bind stage.lacks.files.distinct stage.admits_home
      (by simp [Entry.isBare]), if_pos rfl]
    rfl

/-- Writing a file beside the database, or taking it away. -/
theorem bind_beside {entry : Option Entry}
    (stage : Stage gone content names origin full lacking) {ending : String}
    (listed : ending ∈ databaseEndings) (longer : ending ≠ "")
    (closed : full.files.sight (besideNames names ending) ≠ some .directory)
    (plain : entry = none ∨ ∃ content, entry = some (.file content)) :
    Stage gone content names origin (full.bind (besideNames names ending) entry)
      (lacking.bind (besideNames names ending) entry) := by
  have bare : ∀ new, entry = some new → new.isBare = true := by
    rintro new rfl
    rcases plain with none | ⟨content, same⟩
    · simp at none
    · rw [Option.some.inj same]
      rfl
  have admits := stage.admits_beside closed
  refine ⟨stage.lacks.bind admits (spares.apart ending listed) bare,
    stage.sheds.trans (Files.sheds_bind stage.lacks.files.distinct admits plain), ?_⟩
  rw [bind, withFiles, Files.sight_bind stage.lacks.files.distinct admits bare,
    if_neg (Ne.symm (besideNames_ne stage.nonempty longer)), stage.seated]

/-- A file beside the database reads the same, unless there is a directory. -/
theorem entry?_beside (stage : Stage gone content names origin full lacking) {ending : String}
    (listed : ending ∈ databaseEndings)
    (closed : full.files.sight (besideNames names ending) ≠ some .directory) :
    lacking.entry? (besideNames names ending) = full.entry? (besideNames names ending) :=
  stage.lacks.entry? (spares.apart ending listed) closed

/-- A directory beside the database is there in both. -/
theorem directory_beside (stage : Stage gone content names origin full lacking) {ending : String}
    (listed : ending ∈ databaseEndings)
    (directory : full.files.sight (besideNames names ending) = some .directory) :
    ∃ inner other, full.entry? (besideNames names ending) = some (.directory inner) ∧
      lacking.entry? (besideNames names ending) = some (.directory other) := by
  have still := stage.lacks.files.sight_of_ne (spares.apart ending listed)
  rw [directory] at still
  obtain ⟨inner, there⟩ := sightAt_eq_directory.1 directory
  obtain ⟨other, otherThere⟩ := sightAt_eq_directory.1 still
  exact ⟨inner, other, there, otherThere⟩

/-- Putting a file beside the database. -/
theorem putSide (stage : Stage gone content names origin full lacking) (number : Nat)
    (side : Side) : Stage gone content names origin (Workspace.putSide number names full side)
      (Workspace.putSide number names lacking side) := by
  have listed : side.ending ∈ databaseEndings := by cases side <;> decide
  have longer : side.ending ≠ "" := by cases side <;> decide
  unfold Workspace.putSide
  dsimp only
  by_cases directory : full.files.sight (besideNames names side.ending) = some .directory
  · obtain ⟨inner, other, there, otherThere⟩ := stage.directory_beside spares listed directory
    rw [there, otherThere]
    exact stage
  · have bound := stage.bind_beside spares listed longer directory
      (.inr ⟨.side side number, rfl⟩)
    rw [stage.entry?_beside spares listed directory]
    cases full.entry? (besideNames names side.ending) with
    | none => exact bound
    | some entry =>
      cases entry with
      | file => exact bound
      | directory => exact stage
      | link => exact stage

/-- Taking away a file beside the database. -/
theorem removeSide (stage : Stage gone content names origin full lacking) (side : Side) :
    Stage gone content names origin (Workspace.removeSide names full side)
      (Workspace.removeSide names lacking side) := by
  have listed : side.ending ∈ databaseEndings := by cases side <;> decide
  have longer : side.ending ≠ "" := by cases side <;> decide
  unfold Workspace.removeSide
  dsimp only
  by_cases directory : full.files.sight (besideNames names side.ending) = some .directory
  · obtain ⟨inner, other, there, otherThere⟩ := stage.directory_beside spares listed directory
    rw [there, otherThere]
    exact stage
  · rw [stage.entry?_beside spares listed directory]
    cases full.entry? (besideNames names side.ending) with
    | none => exact stage
    | some entry =>
      cases entry with
      | file => exact stage.bind_beside spares listed longer directory (.inl rfl)
      | directory => exact stage
      | link => exact stage

/-- Names beside the database do not lead to the file. -/
theorem unled (stage : Stage gone content names origin full lacking) {ending : String}
    (listed : ending ∈ databaseEndings) :
    (full.files.placeOf .target (wholeSteps (besideNames names ending))).verdict ≠
      .arrived gone := by
  intro leads
  exact spares.unled ending listed
    (stage.sheds.verdict (isRooted_wholeSteps _) spares.held leads)

/-- Sweeping a file beside the database away. -/
theorem sweep (stage : Stage gone content names origin full lacking) {ending : String}
    (listed : ending ∈ databaseEndings) (longer : ending ≠ "") :
    Stage gone content names origin (full.sweep (besideNames names ending))
      (lacking.sweep (besideNames names ending)) := by
  have found := stage.lacks.finds (stage.unled spares listed)
  unfold Workspace.sweep
  by_cases directory : full.files.sight (besideNames names ending) = some .directory
  · obtain ⟨inner, other, there, otherThere⟩ := stage.directory_beside spares listed directory
    rw [there, otherThere]
    exact stage
  · have swept : Stage gone content names origin
        (if full.finds (besideNames names ending) then full.bind (besideNames names ending) none
          else full)
        (if lacking.finds (besideNames names ending) then
          lacking.bind (besideNames names ending) none else lacking) := by
      rw [found]
      by_cases finds : full.finds (besideNames names ending) = true
      · simp only [finds, if_true]
        exact stage.bind_beside spares listed longer directory (.inl rfl)
      · simp only [finds]
        exact stage
    rw [stage.entry?_beside spares listed directory]
    cases full.entry? (besideNames names ending) with
    | none => exact swept
    | some entry =>
      cases entry with
      | file => exact swept
      | directory => exact stage
      | link => exact swept

/-- One more handle on the database. -/
theorem attach (stage : Stage gone content names origin full lacking) {number : Nat}
    (home : (full.database number).home = some names) :
    Stage gone content names origin (full.attach number) (lacking.attach number) := by
  unfold Workspace.attach
  rw [stage.lacks.database]
  dsimp only
  rw [home]
  exact foldl (fun side stage => stage.putSide spares number side)
    (stage.setDatabase _ _) _

/-- The last handle on the database carries the changes over. -/
theorem settle (stage : Stage gone content names origin full lacking) (number : Nat) :
    Stage gone content names origin (full.settle number names)
      (lacking.settle number names) := by
  unfold Workspace.settle
  rw [stage.lacks.database]
  exact foldl (fun side stage => stage.removeSide spares side)
    ((stage.setDatabase _ _).bind_home spares _) _

/-- One handle less on the database. -/
theorem detach (stage : Stage gone content names origin full lacking) {number : Nat}
    (home : (full.database number).home = some names) (writable : Bool) :
    Stage gone content names origin (full.detach number writable)
      (lacking.detach number writable) := by
  have atHome : lacking.isAtHome number names = full.isAtHome number names := by
    unfold isAtHome
    rw [stage.lacks.entry? (stage.home_ne spares) (by simp [stage.seated])]
    cases full.entry? names with
    | none => rfl
    | some entry => cases entry <;> simp [stage.lacks.numberIn?]
  unfold Workspace.detach
  rw [stage.lacks.database]
  dsimp only
  rw [home]
  dsimp only
  rw [atHome]
  split
  · exact (stage.setDatabase number _).settle spares number
  · exact stage.setDatabase number _

end Stage

end Workspace

end SymbolAtlas
