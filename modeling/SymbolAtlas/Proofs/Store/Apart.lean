import SymbolAtlas.Proofs.Store.Stage

/-!
# Opening and closing a store apart from a file

A store whose files have nothing to do with a regular file is opened without the
file as with it, and saves and is closed alike. Only a store that is opened is
followed; an opening that fails may fail for other reasons without the file.
-/

namespace SymbolAtlas

namespace Store

variable {gone : List String} {content : Content} {names : List String} {origin : Files}
  {full lacking : Workspace}

/-- What the opening of a store on a database in a file comes to in two workspaces that
differ in a file: where it succeeds with the file, it succeeds without it, and a store on a
database that is at home at the names is given. -/
def Matches (gone : List String) (content : Content) (names : List String) (origin : Files)
    (outcome other : Workspace × Except StoreError Store) : Prop :=
  ∀ store, outcome.2 = .ok store → other.2 = .ok store ∧
    Workspace.Stage gone content names origin outcome.1 other.1 ∧
    (outcome.1.database store.number).home = some names

/-- A failure has no match to find. -/
theorem matches_error {left : Workspace} {error : StoreError}
    {other : Workspace × Except StoreError Store} :
    Matches gone content names origin (left, .error error) other := by
  intro store opened
  simp at opened

/-- A hindrance that is met with the file and without it. -/
theorem matches_hindered {hindered other : Bool} {left otherLeft : Workspace}
    {error otherError : StoreError} {onward otherOnward : Workspace × Except StoreError Store}
    (same : other = hindered)
    (further : hindered = false → Matches gone content names origin onward otherOnward) :
    Matches gone content names origin (if hindered then (left, .error error) else onward)
      (if other then (otherLeft, .error otherError) else otherOnward) := by
  subst same
  cases other with
  | true => exact matches_error
  | false => exact further rfl

/-- Counting one more handle leaves the home of a database. -/
theorem home_attach (workspace : Workspace) (number : Nat) :
    ((workspace.attach number).database number).home = (workspace.database number).home := by
  have counted : ((workspace.setDatabase number
      { workspace.database number with
        handles := (workspace.database number).handles + 1 }).database number).home =
        (workspace.database number).home := by
    by_cases used : number < workspace.databases.length
    · rw [Workspace.database_setDatabase_self _ _ used]
    · rw [Workspace.database_of_unused _ (by simpa [Workspace.setDatabase] using used),
        Workspace.database_of_unused _ (Nat.not_lt.1 used)]
  have sides : ∀ (sides : List Side) (names : List String) (start : Workspace),
      ((sides.foldl (Workspace.putSide number names) start).database number) =
        start.database number := by
    intro sides names start
    induction sides generalizing start with
    | nil => rfl
    | cons side rest hypothesis =>
      rw [List.foldl_cons, hypothesis]
      unfold Workspace.putSide
      dsimp only
      split <;> rfl
  unfold Workspace.attach
  dsimp only
  split
  · exact counted
  · rw [sides]
    exact counted

section Beside

variable (spares : origin.Spares gone names)

include spares

/-- Preparing a store on a database that is at home. -/
theorem matches_prepare (stage : Workspace.Stage gone content names origin full lacking)
    {store : Store} (home : (full.database store.number).home = some names) :
    Matches gone content names origin (store.prepare full) (store.prepare lacking) := by
  have attached := stage.attach spares home
  have stillHome : ((full.attach store.number).database store.number).home = some names := by
    rw [home_attach, home]
  have changed := attached.setDatabase store.number
    (((full.attach store.number).database store.number).createTables store.writable).1
  unfold prepare
  dsimp only
  rw [attached.lacks.database]
  rcases created : ((full.attach store.number).database store.number).createTables
    store.writable with ⟨database, result⟩
  rw [created] at changed
  cases result with
  | error error => exact matches_error
  | ok =>
    rintro other opened
    obtain rfl := Except.ok.inj opened
    refine ⟨rfl, changed, ?_⟩
    have kept := home_createTables ((full.attach store.number).database store.number)
      store.writable
    rw [created, stillHome] at kept
    by_cases used : store.number < (full.attach store.number).databases.length
    · rw [Workspace.database_setDatabase_self _ _ used, kept]
    · rw [Workspace.database_of_unused _ (Nat.not_lt.1 used)] at stillHome
      simp at stillHome

/-- Making a new database in the place of a file: the journal is out of the way, and the
file is the home of the database. -/
theorem stage_made (stage : Workspace.Stage gone content names origin full lacking)
    (closed : full.files.sight (besideNames names "-journal") ≠ some .directory) :
    let added := (full.bind (besideNames names "-journal") none).addDatabase
      { home := some names }
    let other := (lacking.bind (besideNames names "-journal") none).addDatabase
      { home := some names }
    other.2 = added.2 ∧ (added.1.database added.2).home = some names ∧
      Workspace.Stage gone content names origin
        (added.1.bind names (some (.file (.database added.2))))
        (other.1.bind names (some (.file (.database added.2)))) := by
  intro added other
  have cleared := stage.bind_beside spares (by decide : "-journal" ∈ databaseEndings) (by decide)
    closed (.inl rfl)
  obtain ⟨same, lacks⟩ := cleared.lacks.addDatabase { home := some names }
  refine ⟨same, ?_, ?_⟩
  · rw [Workspace.database_addDatabase]
  · exact (cleared.withDatabases lacks rfl).bind_home spares _

/-- Opening a new database in a file that is there. -/
theorem matches_openNew (stage : Workspace.Stage gone content names origin full lacking)
    (path : String) (chunkSize : Nat) (access : Access) :
    Matches gone content names origin (openNew full path chunkSize access names)
      (openNew lacking path chunkSize access names) := by
  unfold openNew
  by_cases reading : access = .readOnly
  · simp only [reading, if_true]
    exact matches_error
  simp only [reading, if_false]
  have swept := stage.sweep spares (by decide : "-journal" ∈ databaseEndings) (by decide)
  refine matches_hindered (swept.lacks.hasDirectory _) fun _ => ?_
  have clean := swept.sweep spares (by decide : Side.log.ending ∈ databaseEndings) (by decide)
  refine matches_hindered (congrArg _ (clean.lacks.admitsFile _)) fun admitted => ?_
  have closed : ((full.sweep (besideNames names "-journal")).sweep
      (besideNames names Side.log.ending)).files.sight (besideNames names "-journal") ≠
        some .directory := by
    intro directory
    simp [Workspace.admitsFile, Workspace.hasDirectory_eq, Workspace.journalNames,
      Workspace.logNames, directory] at admitted
  obtain ⟨number, home, made⟩ := stage_made spares clean closed
  rw [← Workspace.journalNames, ← Workspace.logNames] at number home made
  rw [number]
  refine matches_hindered (made.lacks.hasLink _) fun _ => ?_
  refine matches_hindered (made.lacks.hasLink _) fun _ => ?_
  refine matches_hindered (made.lacks.hasDirectory _) fun _ => ?_
  exact matches_prepare spares made home

omit spares in
/-- Meeting a journal leaves the databases. -/
theorem databases_meetJournal (workspace : Workspace) (number : Nat) (access : Access)
    (names : List String) :
    (meetJournal workspace number access names).1.databases = workspace.databases := by
  unfold meetJournal
  dsimp only
  split
  · rfl
  · rfl
  · rfl
  · split
    · rfl
    · split
      · rfl
      · split <;> rfl

/-- A journal beside the database means the same with the file and without it. -/
theorem stage_meetJournal (stage : Workspace.Stage gone content names origin full lacking)
    (number : Nat) (access : Access) :
    (meetJournal lacking number access names).2 = (meetJournal full number access names).2 ∧
      Workspace.Stage gone content names origin (meetJournal full number access names).1
        (meetJournal lacking number access names).1 := by
  have listed : "-journal" ∈ databaseEndings := by decide
  have found := stage.lacks.finds (stage.unled spares listed)
  unfold meetJournal
  dsimp only [Workspace.journalNames]
  by_cases directory : full.files.sight (besideNames names "-journal") = some .directory
  · obtain ⟨inner, other, there, otherThere⟩ := stage.directory_beside spares listed directory
    rw [there, otherThere]
    exact ⟨rfl, stage⟩
  · rw [stage.entry?_beside spares listed directory, stage.lacks.database, found]
    cases full.entry? (besideNames names "-journal") with
    | none => exact ⟨rfl, stage⟩
    | some entry =>
      cases entry with
      | directory => exact ⟨rfl, stage⟩
      | link => exact ⟨rfl, stage⟩
      | file journal =>
        dsimp only
        split
        · exact ⟨rfl, stage⟩
        · split
          · exact ⟨rfl, stage⟩
          · split
            · exact ⟨rfl, stage⟩
            · exact ⟨rfl, stage.bind_beside spares listed (by decide) directory (.inl rfl)⟩

/-- Opening a database that is at home. -/
theorem matches_openKnown (stage : Workspace.Stage gone content names origin full lacking)
    (path : String) (chunkSize : Nat) (access : Access) {number : Nat}
    (home : (full.database number).home = some names) :
    Matches gone content names origin (openKnown full path chunkSize access names number)
      (openKnown lacking path chunkSize access names number) := by
  obtain ⟨sameCause, met⟩ := stage_meetJournal spares stage number access
  have databases := databases_meetJournal full number access names
  unfold openKnown
  generalize meetJournal full number access names = outcome at sameCause met databases
  generalize meetJournal lacking number access names = other at sameCause met
  obtain ⟨left, cause⟩ := outcome
  obtain ⟨otherLeft, otherCause⟩ := other
  obtain rfl : otherCause = cause := sameCause
  cases otherCause with
  | some cause => exact matches_error
  | none =>
    have stillHome : (left.database number).home = some names := by
      rw [Workspace.database, databases, ← Workspace.database, home]
    have sameLinked : indexMeets otherLeft number names Workspace.hasLink =
        indexMeets left number names Workspace.hasLink := by
      rw [indexMeets, indexMeets, met.lacks.database, met.lacks.hasLink]
    have sameBlocked : indexMeets otherLeft number names Workspace.hasDirectory =
        indexMeets left number names Workspace.hasDirectory := by
      rw [indexMeets, indexMeets, met.lacks.database, met.lacks.hasDirectory]
    dsimp only
    refine matches_hindered ?_ fun unhindered => ?_
    · rw [met.lacks.hasDirectory, met.lacks.hasLink]
    have closed : left.files.sight (besideNames names Side.log.ending) ≠ some .directory := by
      intro directory
      simp [Workspace.hasDirectory_eq, Workspace.logNames, directory] at unhindered
    have sameLog : lacksLog otherLeft number names = lacksLog left number names := by
      unfold lacksLog
      rw [met.lacks.database]
      dsimp only [Workspace.logNames]
      rw [met.entry?_beside spares (by decide) closed]
    refine matches_hindered sameLinked fun _ => ?_
    refine matches_hindered sameLog fun _ => ?_
    rw [sameBlocked]
    exact matches_prepare spares met stillHome

omit spares in
/-- A file that is no database is never opened. -/
theorem refuseFile_error (workspace : Workspace) (names : List String) :
    ∃ error, (refuseFile workspace names).2 = .error error := by
  unfold refuseFile
  split
  · exact ⟨_, rfl⟩
  · dsimp only
    split <;> exact ⟨_, rfl⟩

end Beside

/-- Opening a database in a file, which need not be there yet. -/
theorem matches_openFile (lacks : Workspace.Lacks gone content full lacking)
    (spares : full.files.Spares gone names)
    (housed : ∀ found number, full.entry? names = some (.file found) →
      full.numberIn? found = some number → (full.database number).home = some names)
    (path : String) (chunkSize : Nat) (access : Access) :
    Matches gone content names full.files (openFile full path chunkSize access (some names))
      (openFile lacking path chunkSize access (some names)) := by
  unfold openFile
  dsimp only
  by_cases directory : full.files.sight names = some .directory
  · obtain ⟨inner, there⟩ := sightAt_eq_directory.1 directory
    have read : full.entry? names = some (.directory inner) := there
    rw [read]
    exact matches_error
  · have nonempty : names ≠ [] := by
      rintro rfl
      exact directory rfl
    have different : names ≠ gone := by
      have apart := spares.apart "" (by decide)
      rwa [besideNames_empty nonempty] at apart
    rw [lacks.entry? different directory]
    cases there : full.entry? names with
    | none =>
      dsimp only
      by_cases creating : (access = .create && full.hasDirectory names.dropLast) = true
      · rw [lacks.hasDirectory, if_pos creating, if_pos creating]
        have room : full.files.sight names.dropLast = some .directory := by
          rw [Bool.and_eq_true, Workspace.hasDirectory_eq] at creating
          exact of_decide_eq_true creating.2
        have admits : full.files.Admits names := ⟨nonempty, room, directory⟩
        refine matches_openNew spares ⟨?_, ?_, ?_⟩ path chunkSize access
        · exact lacks.bind admits different (by simp [Entry.isBare])
        · exact Files.sheds_bind lacks.files.distinct admits (.inr ⟨_, rfl⟩)
        · rw [Workspace.bind, Workspace.withFiles, Files.sight_bind lacks.files.distinct admits
            (by simp [Entry.isBare]), if_pos rfl]
          rfl
      · rw [if_neg creating]
        exact matches_error
    | some entry =>
      cases entry with
      | directory => exact matches_error
      | link => exact matches_error
      | file found =>
        have stage : Workspace.Stage gone content names full.files full lacking :=
          ⟨lacks, .refl _, sightAt_eq_file.2 ⟨found, there⟩⟩
        dsimp only
        rw [lacks.numberIn?]
        cases known : full.numberIn? found with
        | some number =>
          dsimp only
          split
          · exact matches_error
          · exact matches_openKnown spares stage path chunkSize access (housed _ _ there known)
        | none =>
          dsimp only
          split
          · exact matches_openNew spares stage path chunkSize access
          · intro store opened
            obtain ⟨error, refused⟩ := refuseFile_error full names
            rw [refused] at opened
            simp at opened

/-- A store in two workspaces that differ in a file, opened since some files were as they
were: its database has no file, or one that has nothing to do with the other. -/
structure Opened (gone : List String) (content : Content) (made : Files) (store : Store)
    (opened other : Workspace) : Prop where
  lacks : Workspace.Lacks gone content opened other
  sheds : made.Sheds opened.files
  home : (opened.database store.number).home = none ∨ ∃ names,
    (opened.database store.number).home = some names ∧ made.Spares gone names ∧
      opened.files.sight names = some .file

/-- A database in a file has one. -/
theorem Matches.opened {outcome other : Workspace × Except StoreError Store}
    (matched : Matches gone content names origin outcome other)
    (spares : origin.Spares gone names) {store : Store} (ok : outcome.2 = .ok store) :
    other.2 = .ok store ∧ Opened gone content origin store outcome.1 other.1 := by
  obtain ⟨same, stage, home⟩ := matched store ok
  exact ⟨same, stage.lacks, stage.sheds, .inr ⟨names, home, spares, stage.seated⟩⟩

/-- Preparing a store on a database without a file. -/
theorem opened_prepare (lacks : Workspace.Lacks gone content full lacking) {store : Store}
    (homeless : (full.database store.number).home = none) {opened : Store}
    (ok : (store.prepare full).2 = .ok opened) :
    (store.prepare lacking).2 = .ok opened ∧
      Opened gone content full.files opened (store.prepare full).1 (store.prepare lacking).1 := by
  have stillHomeless : ((full.attach store.number).database store.number).home = none := by
    rw [home_attach, homeless]
  have attached : Workspace.Lacks gone content (full.attach store.number)
      (lacking.attach store.number) ∧ (full.attach store.number).files = full.files := by
    unfold Workspace.attach
    rw [lacks.database]
    dsimp only
    rw [homeless]
    exact ⟨lacks.setDatabase _ _, rfl⟩
  obtain ⟨attachedLacks, sameFiles⟩ := attached
  unfold prepare at ok ⊢
  dsimp only at ok ⊢
  rw [attachedLacks.database]
  rcases created : ((full.attach store.number).database store.number).createTables
    store.writable with ⟨database, result⟩
  rw [created] at ok
  cases result with
  | error error => simp at ok
  | ok =>
    obtain rfl := Except.ok.inj ok
    refine ⟨rfl, attachedLacks.setDatabase _ _, ?_, .inl ?_⟩
    · have shed := Files.Sheds.refl full.files
      rwa [← sameFiles] at shed ⊢
    · have kept := home_createTables ((full.attach store.number).database store.number)
        store.writable
      rw [created, stillHomeless] at kept
      by_cases used : store.number < (full.attach store.number).databases.length
      · rw [Workspace.database_setDatabase_self _ _ used, kept]
      · rw [Workspace.database_of_unused _ (by simpa [Workspace.setDatabase] using used)]

/-- Opening a database that has no file. -/
theorem opened_openPrivate (lacks : Workspace.Lacks gone content full lacking)
    {path : Option String} {chunkSize : Nat} {access : Access} {sharedName : Option String}
    {store : Store}
    (ok : (openPrivate full path chunkSize access sharedName).2 = .ok store) :
    (openPrivate lacking path chunkSize access sharedName).2 = .ok store ∧
      Opened gone content full.files store (openPrivate full path chunkSize access sharedName).1
        (openPrivate lacking path chunkSize access sharedName).1 := by
  obtain ⟨sameNumber, added⟩ := lacks.addDatabase { sharedName := sharedName }
  unfold openPrivate at ok ⊢
  dsimp only at ok ⊢
  rw [sameNumber]
  refine opened_prepare added ?_ ok
  dsimp only
  rw [Workspace.database_addDatabase]

/-- Opening a database that stores share by a name. -/
theorem opened_openShared (lacks : Workspace.Lacks gone content full lacking)
    {path : String} {chunkSize : Nat} {access : Access} {name : String} {store : Store}
    (housed : ∀ number, full.sharedNumber? name = some number →
      (full.database number).home = none)
    (ok : (openShared full path chunkSize access name).2 = .ok store) :
    (openShared lacking path chunkSize access name).2 = .ok store ∧
      Opened gone content full.files store (openShared full path chunkSize access name).1
        (openShared lacking path chunkSize access name).1 := by
  have same : lacking.sharedNumber? name = full.sharedNumber? name := by
    rw [Workspace.sharedNumber?, Workspace.sharedNumber?, lacks.databases]
  unfold openShared at ok ⊢
  rw [same]
  cases known : full.sharedNumber? name with
  | none =>
    rw [known] at ok
    exact opened_openPrivate lacks ok
  | some number =>
    rw [known] at ok
    exact opened_prepare lacks (housed number known) ok

end Store

namespace Workspace

/-- The full name of the file that a database path stands for, once the directory of the
path has been made; none for a database without a file. -/
def databaseNames? (workspace : Workspace) (database : String) : Option (List String) :=
  match Address.read database with
  | .ok { holder := .file file, .. } => (workspace.files.makeParent database).1.fullName? file
  | _ => none

/-- Whether a database that a path stands for is where it is at home: in the file that the
path leads to, or, shared in memory, in no file. -/
def isHoused (workspace : Workspace) (database : String) : Bool :=
  match Address.read database with
  | .ok { holder := .shared name, .. } =>
    (workspace.sharedNumber? name).all fun number => (workspace.database number).home.isNone
  | _ =>
    match (workspace.databaseNames? database).bind workspace.entry? with
    | some (.file content) =>
      (workspace.numberIn? content).all fun number =>
        (workspace.database number).home == workspace.databaseNames? database
    | _ => true

/-- Whether a path leads to a file of a database, or one of the files of the database leads
to the same. -/
def sharesFile (workspace : Workspace) (database path : String) : Bool :=
  let made := (workspace.files.makeParent database).1
  match workspace.databaseNames? database with
  | none => false
  | some names =>
    databaseEndings.any fun ending =>
      decide ((made.placeOf .target (wholeSteps (besideNames names ending))).verdict =
        (made.placeOf .target (Files.steps path)).verdict)

end Workspace

namespace Store

variable {gone : List String} {content : Content} {full lacking : Workspace}

/-- Once its directory is made and its address is read, a store is opened by its address. -/
theorem openAt_eq_openAddress {workspace : Workspace} {database : String} {chunkSize : Nat}
    {address : Address} (made : (workspace.files.makeParent database).2 = .ok ())
    (plain : nullPosition? database = none) (read : Address.read database = .ok address) :
    openAt workspace database chunkSize =
      openAddress (workspace.withFiles (workspace.files.makeParent database).1) database
        chunkSize address := by
  unfold openAt
  generalize workspace.files.makeParent database = outcome at made ⊢
  obtain ⟨files, result⟩ := outcome
  obtain rfl : result = .ok () := made
  simp only [plain, read]

/-- A store that is opened has gone through these stages. -/
theorem openAt_ok {workspace : Workspace} {database : String} {chunkSize : Nat} {store : Store}
    (ok : (openAt workspace database chunkSize).2 = .ok store) :
    (workspace.files.makeParent database).2 = .ok () ∧ nullPosition? database = none ∧
      ∃ address, Address.read database = .ok address := by
  unfold openAt at ok
  generalize workspace.files.makeParent database = outcome at ok ⊢
  obtain ⟨files, result⟩ := outcome
  cases result with
  | error error => simp at ok
  | ok =>
    cases null : nullPosition? database with
    | some position => simp [null] at ok
    | none =>
      cases read : Address.read database with
      | error error => simp [null, read] at ok
      | ok address => exact ⟨rfl, rfl, address, rfl⟩

/-- Where a store is opened with the file, the same store is opened without it. -/
theorem opened_openAt (lacks : Workspace.Lacks gone content full lacking) {database : String}
    {chunkSize : Nat} {store : Store} (housed : full.isHoused database = true)
    (spared : ∀ names, full.databaseNames? database = some names →
      (full.files.makeParent database).1.Spares gone names)
    (ok : (openAt full database chunkSize).2 = .ok store) :
    (openAt lacking database chunkSize).2 = .ok store ∧
      Opened gone content (full.files.makeParent database).1 store
        (openAt full database chunkSize).1 (openAt lacking database chunkSize).1 := by
  obtain ⟨made, plain, address, read⟩ := openAt_ok ok
  obtain ⟨otherMade, madeLacks⟩ := lacks.files.makeParent made
  have readied : Workspace.Lacks gone content
      (full.withFiles (full.files.makeParent database).1)
      (lacking.withFiles (lacking.files.makeParent database).1) :=
    ⟨madeLacks, lacks.databases, lacks.lockedNumber⟩
  rw [openAt_eq_openAddress made plain read] at ok ⊢
  rw [openAt_eq_openAddress otherMade plain read]
  obtain ⟨holder, access⟩ := address
  cases holder with
  | alone => exact opened_openPrivate readied ok
  | shared name =>
    refine opened_openShared readied ?_ ok
    intro number known
    simp only [Workspace.isHoused, read] at housed
    have found : full.sharedNumber? name = some number := known
    have homeless : (full.database number).home = none := by simpa [found] using housed
    exact homeless
  | file file =>
    unfold openAddress at ok ⊢
    dsimp only at ok ⊢
    cases named : (full.files.makeParent database).1.fullName? file with
    | none =>
      have unnamed : (full.withFiles (full.files.makeParent database).1).files.fullName? file =
        none := named
      simp [unnamed, openFile] at ok
    | some names =>
      have known : full.databaseNames? database = some names := by
        simp only [Workspace.databaseNames?, read, named]
      have fullNamed : (full.withFiles (full.files.makeParent database).1).files.fullName? file =
        some names := named
      rw [fullNamed] at ok ⊢
      rw [readied.files.fullName? fullNamed]
      refine (matches_openFile readied (spared names known) ?_ database chunkSize access).opened
        (spared names known) ok
      -- Making directories has neither made nor lost the database file.
      intro found number there held
      have before : full.entry? names = some (.file found) :=
        Files.entryAt_makeParent_eq_file_iff.1 there
      have numbered : full.numberIn? found = some number := held
      simp only [Workspace.isHoused, read, known, Option.bind_some, before] at housed
      have home : (full.database number).home = some names := by simpa [numbered] using housed
      exact home

/-- Closing a store whose database has nothing to do with the file, in whatever state its
databases are by then. -/
theorem Opened.close {made : Files} {store : Store} {opened other : Workspace}
    (isOpened : Opened gone content made store opened other) :
    Workspace.Lacks gone content (store.close opened).1 (store.close other).1 := by
  unfold Store.close
  split
  · rcases isOpened.home with homeless | ⟨names, home, spares, seated⟩
    · unfold Workspace.detach
      rw [isOpened.lacks.database]
      dsimp only
      rw [homeless]
      exact isOpened.lacks.setDatabase _ _
    · have stage : Workspace.Stage gone content names made opened other :=
        ⟨isOpened.lacks, isOpened.sheds, seated⟩
      exact (stage.detach spares home store.writable).lacks
  · exact isOpened.lacks

/-- Saving the same symbols gives the same answer, and leaves the store opened so. -/
theorem Opened.save {made : Files} {store : Store} {opened other : Workspace}
    (isOpened : Opened gone content made store opened other) (symbols : List Symbol) :
    (store.save other symbols).2 = (store.save opened symbols).2 ∧
      Opened gone content made store (store.save opened symbols).1
        (store.save other symbols).1 := by
  unfold Store.save
  split
  · exact ⟨rfl, isOpened⟩
  · split
    · exact ⟨rfl, isOpened⟩
    · split
      · rw [isOpened.lacks.database]
        have inserted : Opened gone content made store
            (opened.setDatabase store.number ((opened.database store.number).insert
              store.inserter store.chunkSize (symbols.map Row.ofSymbol)).1)
            (other.setDatabase store.number ((opened.database store.number).insert
              store.inserter store.chunkSize (symbols.map Row.ofSymbol)).1) := by
          refine ⟨isOpened.lacks.setDatabase _ _, isOpened.sheds, ?_⟩
          have kept := home_insert (opened.database store.number) store.inserter store.chunkSize
            (symbols.map Row.ofSymbol)
          by_cases used : store.number < opened.databases.length
          · rw [Workspace.database_setDatabase_self _ _ used, kept]
            exact isOpened.home
          · rw [Workspace.database_of_unused _ (by simpa [Workspace.setDatabase] using used)]
            exact .inl rfl
        dsimp only
        split
        · exact ⟨rfl, inserted⟩
        · exact ⟨rfl, inserted⟩
      · exact ⟨rfl, isOpened⟩

end Store

end SymbolAtlas
