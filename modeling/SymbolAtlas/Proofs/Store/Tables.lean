import SymbolAtlas.Proofs.Files.Binding
import SymbolAtlas.Proofs.Workspace

/-!
# Opening and closing leave the tables alone

Whatever opening or closing a store does to files and handles, and however far a
failing opening gets, every database keeps its rows and its refusals. The one
change to a table is that a missing one is made, without rows. `Workspace.Keeps`
says so of two workspaces; it is reflexive and transitive, so a law for each
single change gives the law for a whole opening.

A workspace is `Known` when every database that a file holds is among those in
use. A store opened there finds its table.
-/

namespace SymbolAtlas

/-- The same rows and refusals, except that a missing table may have been made. -/
structure Database.KeepsTable (before after : Database) : Prop where
  rows : after.rows = before.rows ∨ before.rows = none ∧ after.rows = some []
  guards : after.guards = before.guards

namespace Database

/-- A database keeps its own table. -/
theorem KeepsTable.refl (database : Database) : database.KeepsTable database :=
  ⟨.inl rfl, rfl⟩

/-- A table that was made stays as it is. -/
theorem KeepsTable.trans {first second third : Database} (earlier : first.KeepsTable second)
    (later : second.KeepsTable third) : first.KeepsTable third := by
  refine ⟨?_, later.guards.trans earlier.guards⟩
  rcases earlier.rows with same | ⟨missing, made⟩
  · rw [← same]
    exact later.rows
  · rcases later.rows with same | ⟨again, -⟩
    · exact .inr ⟨missing, same.trans made⟩
    · simp [made] at again

/-- Read as a list, the table is the same, since a missing table has no rows. -/
theorem KeepsTable.getD_rows {before after : Database} (kept : before.KeepsTable after) :
    after.rows.getD [] = before.rows.getD [] := by
  rcases kept.rows with same | ⟨missing, made⟩
  · rw [same]
  · simp [missing, made]

/-- A table that is there does not go missing. -/
theorem KeepsTable.isSome_rows {before after : Database} (kept : before.KeepsTable after)
    (present : before.rows.isSome = true) : after.rows.isSome = true := by
  rcases kept.rows with same | ⟨missing, -⟩
  · rw [same, present]
  · simp [missing] at present

/-- Creating tables touches no table that is there, also where it fails. -/
theorem keepsTable_createTables (database : Database) (writable : Bool) :
    database.KeepsTable (database.createTables writable).1 := by
  have made : database.rows = some (database.rows.getD []) ∨
      database.rows = none ∧ database.rows.getD [] = [] := by
    cases database.rows <;> simp
  unfold createTables
  split
  · exact .refl database
  · split
    · exact .refl database
    · rcases made with there | ⟨missing, empty⟩
      · split <;> exact ⟨.inl there.symm, rfl⟩
      · split <;> exact ⟨.inr ⟨missing, congrArg some empty⟩, rfl⟩

/-- Once its creation has succeeded the table is there. -/
theorem isSome_rows_createTables (database : Database) (writable : Bool)
    (created : (database.createTables writable).2 = .ok ()) :
    (database.createTables writable).1.rows.isSome = true := by
  unfold createTables at created ⊢
  split at created
  · simp at created
  · rename_i mayWrite
    rw [if_neg mayWrite]
    split at created
    · simp at created
    · rename_i unlocked
      rw [if_neg unlocked]
      split <;> rfl

end Database

namespace Workspace

/-- Every database that a file holds is in use. -/
def Known (workspace : Workspace) : Prop :=
  ∀ number, Content.database number ∈ contentsAmong workspace.files.entries →
    number < workspace.databases.length

/-- No number goes out of use, every database keeps its table, and the later
workspace is known if the earlier one is. -/
structure Keeps (before after : Workspace) : Prop where
  grows : before.databases.length ≤ after.databases.length
  tables : ∀ number, (before.database number).KeepsTable (after.database number)
  known : before.Known → after.Known

/-- A workspace keeps itself. -/
theorem Keeps.refl (workspace : Workspace) : workspace.Keeps workspace :=
  ⟨Nat.le_refl _, fun _ => .refl _, id⟩

/-- What is kept twice in a row is kept. -/
theorem Keeps.trans {first second third : Workspace} (earlier : first.Keeps second)
    (later : second.Keeps third) : first.Keeps third where
  grows := Nat.le_trans earlier.grows later.grows
  tables number := (earlier.tables number).trans (later.tables number)
  known := later.known ∘ earlier.known

/-- Binding an entry keeps everything, as long as the entry brings no database that is
not in use. -/
theorem keeps_bind {workspace : Workspace} (names : List String) {entry : Option Entry}
    (fits : ∀ new number, entry = some new → Content.database number ∈ new.contents →
      number < workspace.databases.length) :
    workspace.Keeps (workspace.bind names entry) where
  grows := Nat.le_refl _
  tables _ := .refl _
  known known number inside := by
    rcases mem_contentsAmong_bindAt inside with old | ⟨new, same, brought⟩
    · exact known number old
    · exact fits new number same brought

/-- Taking a name away keeps everything. -/
theorem keeps_bind_none (workspace : Workspace) (names : List String) :
    workspace.Keeps (workspace.bind names none) :=
  keeps_bind names (by simp)

/-- Putting a file that is no database keeps everything. -/
theorem keeps_bind_file (workspace : Workspace) (names : List String) {content : Content}
    (plain : ∀ number, content ≠ .database number) :
    workspace.Keeps (workspace.bind names (some (.file content))) := by
  apply keeps_bind
  rintro new number same inside
  obtain rfl := Option.some.inj same
  exact absurd (List.mem_singleton.1 inside).symm (plain number)

/-- Putting the file of a database in use keeps everything. -/
theorem keeps_bind_database (workspace : Workspace) (names : List String) {number : Nat}
    (used : number < workspace.databases.length) :
    workspace.Keeps (workspace.bind names (some (.file (.database number)))) := by
  apply keeps_bind
  rintro new other same inside
  obtain rfl := Option.some.inj same
  obtain rfl := Content.database.inj (List.mem_singleton.1 inside)
  exact used

/-- Replacing a database keeps everything, as long as the new one keeps the table. -/
theorem keeps_setDatabase {workspace : Workspace} {number : Nat} {database : Database}
    (kept : (workspace.database number).KeepsTable database) :
    workspace.Keeps (workspace.setDatabase number database) where
  grows := by simp [setDatabase]
  tables other := by
    by_cases same : other = number
    · subst same
      by_cases used : other < workspace.databases.length
      · rw [database_setDatabase_self _ _ used]
        exact kept
      · have unused : (workspace.setDatabase other database).databases.length ≤ other := by
          simpa [setDatabase] using used
        rw [database_of_unused _ unused, database_of_unused _ (Nat.le_of_not_lt used)]
        exact .refl _
    · rw [database_setDatabase_ne _ _ same]
      exact .refl _
  known known other inside := by
    simpa [setDatabase] using known other inside

/-- Adding a database without a table and without refusals keeps everything. -/
theorem keeps_addDatabase (workspace : Workspace) (database : Database)
    (empty : database.rows = none) (free : database.guards = []) :
    workspace.Keeps (workspace.addDatabase database).1 where
  grows := by simp [addDatabase]
  tables other := by
    rcases Nat.lt_trichotomy other workspace.databases.length with earlier | new | beyond
    · simp only [addDatabase, Workspace.database, List.getElem?_append_left earlier]
      exact .refl _
    · subst new
      rw [database_of_unused workspace (Nat.le_refl _)]
      refine ⟨.inl ?_, ?_⟩ <;> simp [addDatabase, Workspace.database, empty, free]
    · rw [database_of_unused _ (Nat.le_of_lt beyond), database_of_unused]
      · exact .refl _
      · simpa [addDatabase] using Nat.succ_le_of_lt beyond
  known known number inside := by
    simpa [addDatabase] using Nat.lt_succ_of_lt (known number inside)

/-- The number of a database that has been added is in use. -/
theorem addDatabase_used (workspace : Workspace) (database : Database) :
    (workspace.addDatabase database).2 <
      (workspace.addDatabase database).1.databases.length := by
  simp [addDatabase]

/-- A run of changes keeps what each of them keeps. -/
theorem keeps_foldl {α : Type} {change : Workspace → α → Workspace}
    (each : ∀ (workspace : Workspace) item, workspace.Keeps (change workspace item))
    (workspace : Workspace)
    (items : List α) : workspace.Keeps (items.foldl change workspace) := by
  induction items generalizing workspace with
  | nil => exact .refl workspace
  | cons item rest hypothesis => exact (each workspace item).trans (hypothesis _)

/-- Putting a file beside a database keeps everything. -/
theorem keeps_putSide (number : Nat) (names : List String) (workspace : Workspace)
    (side : Side) : workspace.Keeps (putSide number names workspace side) := by
  unfold putSide
  dsimp only
  split
  · exact keeps_bind_file _ _ (by simp)
  · exact keeps_bind_file _ _ (by simp)
  · exact .refl workspace

/-- Taking away a file beside a database keeps everything. -/
theorem keeps_removeSide (names : List String) (workspace : Workspace) (side : Side) :
    workspace.Keeps (removeSide names workspace side) := by
  unfold removeSide
  dsimp only
  split
  · exact keeps_bind_none _ _
  · exact .refl workspace

/-- One more handle keeps everything. -/
theorem keeps_attach (workspace : Workspace) (number : Nat) :
    workspace.Keeps (workspace.attach number) := by
  have counted : workspace.Keeps (workspace.setDatabase number
      { workspace.database number with handles := (workspace.database number).handles + 1 }) :=
    keeps_setDatabase ⟨.inl rfl, rfl⟩
  unfold attach
  dsimp only
  split
  · exact counted
  · exact counted.trans (keeps_foldl (keeps_putSide number _) _ _)

/-- Only a number in use has a home. -/
theorem used_of_home {workspace : Workspace} {number : Nat} {names : List String}
    (home : (workspace.database number).home = some names) :
    number < workspace.databases.length := by
  apply Nat.lt_of_not_le
  intro unused
  rw [database_of_unused workspace unused] at home
  simp at home

/-- Carrying over the changes of a database in use keeps everything. -/
theorem keeps_settle {workspace : Workspace} {number : Nat} (names : List String)
    (used : number < workspace.databases.length) :
    workspace.Keeps (workspace.settle number names) := by
  have settled : workspace.Keeps (workspace.setDatabase number
      { workspace.database number with logged := false, settled := true }) :=
    keeps_setDatabase ⟨.inl rfl, rfl⟩
  refine (settled.trans (keeps_bind_database _ names ?_)).trans
    (keeps_foldl (keeps_removeSide names) _ _)
  simpa [setDatabase] using used

/-- One handle less keeps everything, also where it is the last. -/
theorem keeps_detach (workspace : Workspace) (number : Nat) (writable : Bool) :
    workspace.Keeps (workspace.detach number writable) := by
  have counted : workspace.Keeps (workspace.setDatabase number
      { workspace.database number with handles := (workspace.database number).handles - 1 }) :=
    keeps_setDatabase ⟨.inl rfl, rfl⟩
  unfold detach
  dsimp only
  split
  · exact counted
  · rename_i names home
    split
    · refine counted.trans (keeps_settle names ?_)
      simpa [setDatabase] using used_of_home home
    · exact counted

/-- Taking away what stands at some names keeps everything. -/
theorem keeps_sweep (workspace : Workspace) (names : List String) :
    workspace.Keeps (workspace.sweep names) := by
  unfold sweep
  split
  · exact .refl workspace
  · split
    · exact keeps_bind_none _ _
    · exact .refl workspace

/-- Making the directory of a path keeps everything. -/
theorem keeps_makeParent (workspace : Workspace) (path : String) :
    workspace.Keeps (workspace.withFiles (workspace.files.makeParent path).1) where
  grows := Nat.le_refl _
  tables _ := .refl _
  known known number inside := known number (Files.mem_contents_makeParent inside)

end Workspace

namespace Store

/-- What an attempt to open a store comes to: every table is kept, and where it
succeeds in a known workspace the store is open and its table is there. -/
structure Opens (workspace : Workspace) (outcome : Workspace × Except StoreError Store) :
    Prop where
  keeps : workspace.Keeps outcome.1
  ready : workspace.Known → ∀ store, outcome.2 = .ok store →
    store.isOpen = true ∧ (outcome.1.database store.number).rows.isSome = true

/-- An attempt that fails has only to keep the tables. -/
theorem Opens.failed {before after : Workspace} (kept : before.Keeps after)
    (error : StoreError) : Opens before (after, .error error) :=
  ⟨kept, by simp⟩

/-- Changes in front of an attempt that keep the tables may be added to it. -/
theorem Opens.after {before middle : Workspace}
    {outcome : Workspace × Except StoreError Store} (kept : before.Keeps middle)
    (opens : Opens middle outcome) : Opens before outcome :=
  ⟨kept.trans opens.keeps, fun known => opens.ready (kept.known known)⟩

/-- Preparing a store keeps everything. -/
theorem keeps_prepare (workspace : Workspace) (store : Store) :
    workspace.Keeps (store.prepare workspace).1 := by
  have attached := workspace.keeps_attach store.number
  have created := Workspace.keeps_setDatabase
    (((workspace.attach store.number).database store.number).keepsTable_createTables
      store.writable)
  unfold prepare
  dsimp only
  cases made : ((workspace.attach store.number).database store.number).createTables
      store.writable with
  | mk database result =>
    rw [made] at created
    cases result with
    | error error => exact (attached.trans created).trans (Workspace.keeps_detach ..)
    | ok => exact attached.trans created

/-- A store that has been prepared on a database in use is the one given, and its
table is there. -/
theorem prepare_ready {workspace : Workspace} {store opened : Store}
    (used : store.number < workspace.databases.length)
    (prepared : (store.prepare workspace).2 = .ok opened) :
    opened = store ∧
      ((store.prepare workspace).1.database opened.number).rows.isSome = true := by
  have inUse := Nat.lt_of_lt_of_le used (workspace.keeps_attach store.number).grows
  have present := Database.isSome_rows_createTables
    ((workspace.attach store.number).database store.number) store.writable
  unfold prepare at prepared ⊢
  dsimp only at prepared ⊢
  cases made : ((workspace.attach store.number).database store.number).createTables
      store.writable with
  | mk database result =>
    rw [made] at prepared present
    cases result with
    | error error => simp at prepared
    | ok =>
      obtain rfl := Except.ok.inj prepared
      exact ⟨rfl, by simpa [Workspace.database_setDatabase_self _ _ inUse] using present rfl⟩

/-- Preparing an open store on a database in use. -/
theorem opens_prepare {workspace : Workspace} {store : Store} (isOpen : store.isOpen = true)
    (used : store.number < workspace.databases.length) :
    Opens workspace (store.prepare workspace) where
  keeps := keeps_prepare workspace store
  ready _ opened prepared := by
    obtain ⟨same, present⟩ := prepare_ready used prepared
    exact ⟨same ▸ isOpen, present⟩

/-- Opening a store for itself. -/
theorem opens_openPrivate (workspace : Workspace) (path : Option String) (chunkSize : Nat)
    (access : Access) (sharedName : Option String) :
    Opens workspace (openPrivate workspace path chunkSize access sharedName) := by
  refine .after (workspace.keeps_addDatabase { sharedName := sharedName } rfl rfl) ?_
  exact opens_prepare rfl (Workspace.addDatabase_used _ _)

/-- Opening a store on a database in memory that is shared by name. -/
theorem opens_openShared (workspace : Workspace) (path : String) (chunkSize : Nat)
    (access : Access) (name : String) :
    Opens workspace (openShared workspace path chunkSize access name) := by
  unfold openShared
  split
  · exact opens_openPrivate ..
  · rename_i number found
    apply opens_prepare rfl
    exact (List.findIdx?_eq_some_iff_findIdx_eq.1 found).1

/-- Opening a store on a new database in a file. -/
theorem opens_openNew (workspace : Workspace) (path : String) (chunkSize : Nat)
    (access : Access) (names : List String) :
    Opens workspace (openNew workspace path chunkSize access names) := by
  unfold openNew
  dsimp only
  split
  · exact .failed (.refl workspace) _
  · refine .after (workspace.keeps_sweep (Workspace.journalNames names)) ?_
    split
    · exact .failed (.refl _) _
    · refine .after (Workspace.keeps_sweep _ (Workspace.logNames names)) ?_
      split
      · exact .failed (.refl _) _
      · refine .after (Workspace.keeps_bind_none _ (Workspace.journalNames names)) ?_
        refine .after (Workspace.keeps_addDatabase _ { home := some names }
          rfl rfl) ?_
        refine .after (Workspace.keeps_bind_database _ names
          (Workspace.addDatabase_used _ _)) ?_
        split
        · exact .failed (.refl _) _
        · split
          · exact .failed (Workspace.keeps_putSide ..) _
          · split
            · exact .failed (Workspace.keeps_putSide ..) _
            · exact opens_prepare rfl (Workspace.addDatabase_used _ _)

/-- Meeting the journal beside a database keeps everything. -/
theorem keeps_meetJournal (workspace : Workspace) (number : Nat) (access : Access)
    (names : List String) :
    workspace.Keeps (meetJournal workspace number access names).1 := by
  unfold meetJournal
  dsimp only
  cases workspace.entry? (Workspace.journalNames names) with
  | none => exact .refl workspace
  | some entry =>
    cases entry with
    | directory entries => exact .refl workspace
    | link target => exact .refl workspace
    | file content =>
      dsimp only
      split
      · exact .refl workspace
      · split
        · exact .refl workspace
        · split
          · exact .refl workspace
          · exact Workspace.keeps_bind_none _ _

/-- Opening a store on a database that is there. -/
theorem opens_openKnown (workspace : Workspace) (path : String) (chunkSize : Nat)
    (access : Access) (names : List String) (number : Nat)
    (used : workspace.Known → number < workspace.databases.length) :
    Opens workspace (openKnown workspace path chunkSize access names number) := by
  have kept := keeps_meetJournal workspace number access names
  unfold openKnown
  cases met : meetJournal workspace number access names with
  | mk left cause =>
    rw [met] at kept
    cases cause with
    | some cause => exact .failed kept _
    | none =>
      -- The database stays in use, whatever has happened to the journal.
      have stillUsed : workspace.Known → number < left.databases.length :=
        fun known => Nat.lt_of_lt_of_le (used known) kept.grows
      simp only
      split
      · exact .failed kept _
      · split
        · exact .failed (kept.trans (Workspace.keeps_putSide ..)) _
        · split
          · exact .failed (kept.trans (Workspace.keeps_bind_file _ _ (by simp))) _
          · refine ⟨kept.trans (keeps_prepare left _), fun known opened prepared => ?_⟩
            obtain ⟨same, present⟩ := prepare_ready (stillUsed known) prepared
            exact ⟨same ▸ rfl, present⟩

/-- Refusing a file that is no database. -/
theorem opens_refuseFile (workspace : Workspace) (names : List String) :
    Opens workspace (refuseFile workspace names) := by
  unfold refuseFile
  dsimp only
  split
  · exact .failed (.refl workspace) _
  · refine .after (workspace.keeps_sweep (Workspace.journalNames names)) ?_
    split
    · exact .failed (.refl _) _
    · exact .failed (Workspace.keeps_sweep ..) _

/-- The database in a file is in use. A file that was written over counts only while
there are handles, which no unused number has. -/
theorem used_of_numberIn? {workspace : Workspace} (known : workspace.Known)
    {names : List String} {content : Content} {number : Nat}
    (entry : workspace.entry? names = some (.file content))
    (found : workspace.numberIn? content = some number) :
    number < workspace.databases.length := by
  cases content with
  | database other =>
    obtain rfl : other = number := by simpa [Workspace.numberIn?] using found
    exact known other (mem_contentsAmong_of_entryAt entry (by simp [Entry.contents]))
  | overwritten other content =>
    simp only [Workspace.numberIn?, Option.ite_none_right_eq_some, Option.some.injEq] at found
    obtain ⟨busy, rfl⟩ := found
    apply Nat.lt_of_not_le
    intro unused
    simp [Workspace.database_of_unused workspace unused] at busy
  | text => simp [Workspace.numberIn?] at found
  | bytes => simp [Workspace.numberIn?] at found
  | side => simp [Workspace.numberIn?] at found

/-- Opening a store in a file. -/
theorem opens_openFile (workspace : Workspace) (path : String) (chunkSize : Nat)
    (access : Access) (names : Option (List String)) :
    Opens workspace (openFile workspace path chunkSize access names) := by
  cases names with
  | none => exact .failed (.refl workspace) _
  | some names =>
    unfold openFile
    dsimp only
    cases entry : workspace.entry? names with
    | none =>
      dsimp only
      split
      · exact .after (Workspace.keeps_bind_file _ _ (by simp)) (opens_openNew ..)
      · exact .failed (.refl workspace) _
    | some found =>
      cases found with
      | directory entries => exact .failed (.refl workspace) _
      | link target => exact .failed (.refl workspace) _
      | file content =>
        dsimp only
        cases held : workspace.numberIn? content with
        | none =>
          dsimp only
          split
          · exact opens_openNew ..
          · exact opens_refuseFile ..
        | some number =>
          dsimp only
          split
          · exact .failed (.refl workspace) _
          · exact opens_openKnown _ _ _ _ _ _ fun known => used_of_numberIn? known entry held

/-- Opening a store at an address. -/
theorem opens_openAddress (workspace : Workspace) (path : String) (chunkSize : Nat)
    (address : Address) : Opens workspace (openAddress workspace path chunkSize address) := by
  unfold openAddress
  cases address.holder with
  | alone => exact opens_openPrivate ..
  | shared name => exact opens_openShared ..
  | file file => exact opens_openFile ..

/-- Opening a store at a path, whatever the path. -/
theorem opens_openAt (workspace : Workspace) (path : String) (chunkSize : Nat) :
    Opens workspace (openAt workspace path chunkSize) := by
  have kept := workspace.keeps_makeParent path
  unfold openAt
  cases made : workspace.files.makeParent path with
  | mk files result =>
    rw [made] at kept
    cases result with
    | error error => exact .failed kept _
    | ok =>
      dsimp only
      cases nullPosition? path with
      | some position => exact .failed kept _
      | none =>
        cases Address.read path with
        | error error => exact .failed kept _
        | ok address => exact .after kept (opens_openAddress ..)

/-- Opening a store in memory. -/
theorem opens_inMemory (workspace : Workspace) : Opens workspace (inMemory workspace) :=
  opens_openPrivate ..

/-- Closing a store keeps everything. -/
theorem keeps_close (workspace : Workspace) (store : Store) :
    workspace.Keeps (store.close workspace).1 := by
  unfold close
  split
  · exact Workspace.keeps_detach ..
  · exact .refl workspace

/-- Creating the tables of a store keeps everything, also where it fails and closes
the store. -/
theorem keeps_createTables (workspace : Workspace) (store : Store) :
    workspace.Keeps (store.createTables workspace).1 := by
  have created := Workspace.keeps_setDatabase
    ((workspace.database store.number).keepsTable_createTables store.writable)
  unfold createTables
  split
  · dsimp only
    cases made : (workspace.database store.number).createTables store.writable with
    | mk database result =>
      rw [made] at created
      cases result with
      | ok => exact created
      | error error => exact created.trans (keeps_close _ store)
  · exact .refl workspace

end Store

end SymbolAtlas
