import SymbolAtlas.Proofs.Store.Held
import SymbolAtlas.Proofs.Store.Tables

/-!
# One file holds one database

A database made in a file is at home there. As long as only stores on that file are
opened, the file goes on holding that database: the other files that an operation
binds or takes away have longer last names, and the file itself is bound anew only
to the database it holds. `Workspace.Stays` says so of two workspaces and is closed
under composition, like `Workspace.Keeps`.

So all stores that a session opens at one file share one database, whatever paths
they were opened by and whatever was closed in between.
-/

namespace SymbolAtlas

namespace Workspace

/-- The file at some names is the database of a number. -/
def HoldsAt (workspace : Workspace) (names : List String) (number : Nat) : Prop :=
  workspace.entry? names = some (.file (.database number))

/-- A content that may be at some names: a database only where it is at home, and
nothing written over one. -/
def Fits (workspace : Workspace) (names : List String) : Content → Prop
  | .database number => (workspace.database number).home = some names
  | .overwritten _ _ => False
  | _ => True

/-- What is at some names may be there. -/
def IsHome (workspace : Workspace) (names : List String) : Prop :=
  ∀ content, workspace.entry? names = some (.file content) → workspace.Fits names content

/-- A file holds one database at most. -/
theorem HoldsAt.unique {workspace : Workspace} {names : List String} {first second : Nat}
    (one : workspace.HoldsAt names first) (two : workspace.HoldsAt names second) :
    first = second := by
  have same := Option.some.inj (one.symm.trans two)
  exact Content.database.inj (Entry.file.inj same)

/-- The root holds no database. -/
theorem HoldsAt.nonempty {workspace : Workspace} {names : List String} {number : Nat}
    (held : workspace.HoldsAt names number) : names ≠ [] := by
  rintro rfl
  simp [HoldsAt, entry?, entryAt] at held

/-- A database that may be where it is has its home there. -/
theorem IsHome.home {workspace : Workspace} {names : List String} {number : Nat}
    (isHome : workspace.IsHome names) (held : workspace.HoldsAt names number) :
    (workspace.database number).home = some names :=
  isHome _ held

/-- What is at some names may be there afterwards if it might before. A database that
is there stays there, and one that comes there is new. -/
structure Stays (names : List String) (before after : Workspace) : Prop where
  isHome : before.IsHome names → after.IsHome names
  held : before.IsHome names → ∀ number, before.HoldsAt names number →
    after.HoldsAt names number
  fresh : before.IsHome names → ∀ number, after.HoldsAt names number →
    before.HoldsAt names number ∨ before.databases.length ≤ number
  grows : before.IsHome names → before.databases.length ≤ after.databases.length

/-- A workspace stays as it is. -/
theorem Stays.refl (names : List String) (workspace : Workspace) :
    Stays names workspace workspace :=
  ⟨id, fun _ _ => id, fun _ _ => .inl, fun _ => Nat.le_refl _⟩

/-- What stays twice in a row stays. -/
theorem Stays.trans {names : List String} {first second third : Workspace}
    (earlier : Stays names first second) (later : Stays names second third) :
    Stays names first third where
  isHome := later.isHome ∘ earlier.isHome
  held isHome number held :=
    later.held (earlier.isHome isHome) number (earlier.held isHome number held)
  fresh isHome number held := by
    rcases later.fresh (earlier.isHome isHome) number held with between | new
    · exact earlier.fresh isHome number between
    · exact .inr (Nat.le_trans (earlier.grows isHome) new)
  grows isHome := Nat.le_trans (earlier.grows isHome) (later.grows (earlier.isHome isHome))

/-- Only what may be at the names has to stay. -/
theorem Stays.given {names : List String} {before after : Workspace}
    (stays : before.IsHome names → Stays names before after) : Stays names before after :=
  ⟨fun isHome => (stays isHome).isHome isHome, fun isHome => (stays isHome).held isHome,
    fun isHome => (stays isHome).fresh isHome, fun isHome => (stays isHome).grows isHome⟩

/-- A change stays if it leaves the files at some names, and the homes of databases. -/
theorem stays_of_files {names : List String} {before after : Workspace}
    (files : ∀ content, after.entry? names = some (.file content) ↔
      before.entry? names = some (.file content))
    (grows : before.databases.length ≤ after.databases.length)
    (homes : ∀ number, (before.database number).home = some names →
      (after.database number).home = some names) : Stays names before after where
  isHome isHome content found := by
    have fits := isHome content ((files content).1 found)
    cases content with
    | database number => exact homes number fits
    | overwritten number inner => exact fits
    | _ => trivial
  held _ number held := (files _).2 held
  fresh _ number held := .inl ((files _).1 held)
  grows _ := grows

/-- Binding other names stays. -/
theorem stays_bind {names other : List String} (outside : ¬ other <+: names)
    (workspace : Workspace) (entry : Option Entry) :
    Stays names workspace (workspace.bind other entry) :=
  stays_of_files (fun _ => entryAt_bindAt_eq_file_iff outside) (Nat.le_refl _) fun _ => id

/-- A file beside another has other names, and is no directory around it. -/
theorem besideNames_outside {names : List String} (nonempty : names ≠ []) (ending : String)
    (longer : ending ≠ "") : ¬ besideNames names ending <+: names := by
  obtain ⟨directory, last, rfl⟩ : ∃ directory last, names = directory ++ [last] :=
    ⟨_, _, (List.dropLast_concat_getLast nonempty).symm⟩
  intro within
  have same := within.eq_of_length (by simp [besideNames])
  have ends : last ++ ending = last := by simpa [besideNames] using same
  exact longer (by simpa using ends)

/-- Replacing a database by one with the same home stays. -/
theorem stays_setDatabase (names : List String) {workspace : Workspace} {number : Nat}
    {database : Database} (same : database.home = (workspace.database number).home) :
    Stays names workspace (workspace.setDatabase number database) := by
  refine stays_of_files (fun _ => Iff.rfl) (by simp [setDatabase]) ?_
  intro other home
  by_cases changed : other = number
  · subst changed
    rw [database_setDatabase_self _ _ (used_of_home home), same, home]
  · rw [database_setDatabase_ne _ _ changed, home]

/-- The database of the number that has been added is the one added. -/
theorem database_addDatabase (workspace : Workspace) (database : Database) :
    (workspace.addDatabase database).1.database (workspace.addDatabase database).2 =
      database := by
  simp [addDatabase, Workspace.database]

/-- A run of changes stays if each of them does. -/
theorem stays_foldl {α : Type} {names : List String} {change : Workspace → α → Workspace}
    (each : ∀ workspace item, Stays names workspace (change workspace item))
    (workspace : Workspace) (items : List α) :
    Stays names workspace (items.foldl change workspace) := by
  induction items generalizing workspace with
  | nil => exact .refl names workspace
  | cons item rest hypothesis => exact (each workspace item).trans (hypothesis _)

/-- Making the directory of a path stays. -/
theorem stays_makeParent (names : List String) (workspace : Workspace) (path : String) :
    Stays names workspace (workspace.withFiles (workspace.files.makeParent path).1) :=
  stays_of_files (fun _ => Files.entryAt_makeParent_eq_file_iff) (Nat.le_refl _) fun _ => id

/-- Binding a file to the database it holds stays. -/
theorem stays_rebind {names : List String} {workspace : Workspace} {number : Nat}
    (held : workspace.HoldsAt names number) :
    Stays names workspace (workspace.bind names (some (.file (.database number)))) := by
  refine stays_of_files (fun content => ?_) (Nat.le_refl _) fun _ => id
  have bound := entryAt_bindAt_over_file held (.file (.database number))
  exact (bound.trans held.symm) ▸ Iff.rfl

/-- A database found in a file that may be there is the one the file holds. -/
theorem holdsAt_of_numberIn? {names : List String} {workspace : Workspace} {content : Content}
    {number : Nat} (isHome : workspace.IsHome names)
    (entry : workspace.entry? names = some (.file content))
    (found : workspace.numberIn? content = some number) : workspace.HoldsAt names number := by
  have fits := isHome content entry
  cases content with
  | database other =>
    obtain rfl : other = number := by simpa [numberIn?] using found
    exact entry
  | overwritten other inner => exact fits.elim
  | text => simp [numberIn?] at found
  | bytes => simp [numberIn?] at found
  | side => simp [numberIn?] at found

/-- A database that is still where it was opened is the one the file holds. -/
theorem holdsAt_of_isAtHome {names : List String} {workspace : Workspace} {number : Nat}
    (isHome : workspace.IsHome names) (there : workspace.isAtHome number names = true) :
    workspace.HoldsAt names number := by
  unfold isAtHome at there
  split at there
  · rename_i content entry
    exact holdsAt_of_numberIn? isHome entry (by simpa using there)
  · simp at there

/-- A database added with its home in a file that held none is held there. -/
theorem holdsAt_planted {names : List String} {workspace : Workspace} {content : Content}
    (found : workspace.entry? names = some (.file content)) (database : Database) :
    ((workspace.addDatabase database).1.bind names
      (some (.file (.database (workspace.addDatabase database).2)))).HoldsAt names
        (workspace.addDatabase database).2 :=
  entryAt_bindAt_over_file found _

/-- Adding a database with its home in a file that held none stays. -/
theorem stays_planted {names : List String} {workspace : Workspace} {content : Content}
    (found : workspace.entry? names = some (.file content))
    (vacant : ∀ number, content ≠ .database number) :
    Stays names workspace ((workspace.addDatabase { home := some names }).1.bind names
      (some (.file (.database (workspace.addDatabase { home := some names }).2)))) where
  isHome _ other read := by
    have held := holdsAt_planted found { home := some names }
    obtain rfl : other = .database (workspace.addDatabase { home := some names }).2 :=
      Entry.file.inj (Option.some.inj (read.symm.trans held))
    rw [Fits, database_bind, database_addDatabase]
  held _ number held := by
    have same : content = .database number :=
      Entry.file.inj (Option.some.inj (found.symm.trans held))
    exact absurd same (vacant number)
  fresh _ number held := by
    have same := held.unique (holdsAt_planted found { home := some names })
    exact .inr (Nat.le_of_eq same.symm)
  grows _ := by simp [addDatabase]

section Beside

variable {names : List String} (nonempty : names ≠ [])

include nonempty

/-- A file made in a directory is there. -/
theorem entry?_created {workspace : Workspace} (content : Content)
    (there : workspace.hasDirectory names.dropLast = true) :
    entry? (workspace.bind names (some (.file content))) names = some (.file content) := by
  obtain ⟨directory, last, rfl⟩ : ∃ directory last, names = directory ++ [last] :=
    ⟨_, _, (List.dropLast_concat_getLast nonempty).symm⟩
  rw [List.dropLast_concat] at there
  unfold hasDirectory at there
  split at there
  · rename_i inner found
    exact entryAt_bindAt_self found
  · simp at there

/-- Making an empty file where nothing was stays. -/
theorem stays_created {workspace : Workspace} (vacant : workspace.entry? names = none)
    (there : workspace.hasDirectory names.dropLast = true) :
    Stays names workspace (workspace.bind names (some (.file (.text "" none)))) where
  isHome _ content read := by
    have made := entry?_created nonempty (.text "" none) there
    obtain rfl : content = .text "" none :=
      Entry.file.inj (Option.some.inj (read.symm.trans made))
    trivial
  held _ number held := by
    rw [HoldsAt, vacant] at held
    simp at held
  fresh _ number held := by
    rw [HoldsAt, entry?_created nonempty _ there] at held
    simp at held
  grows _ := Nat.le_refl _

/-- Putting a file beside the database stays. -/
theorem stays_putSide (number : Nat) (workspace : Workspace) (side : Side) :
    Stays names workspace (putSide number names workspace side) := by
  have outside : ¬ besideNames names side.ending <+: names :=
    besideNames_outside nonempty _ (by cases side <;> decide)
  unfold putSide
  dsimp only
  split
  · exact stays_bind outside _ _
  · exact stays_bind outside _ _
  · exact .refl names workspace

/-- Taking away a file beside the database stays. -/
theorem stays_removeSide (workspace : Workspace) (side : Side) :
    Stays names workspace (removeSide names workspace side) := by
  have outside : ¬ besideNames names side.ending <+: names :=
    besideNames_outside nonempty _ (by cases side <;> decide)
  unfold removeSide
  dsimp only
  split
  · exact stays_bind outside _ _
  · exact .refl names workspace

/-- One more handle on a database at home stays. -/
theorem stays_attach {workspace : Workspace} {number : Nat}
    (home : (workspace.database number).home = some names) :
    Stays names workspace (workspace.attach number) := by
  have counted : Stays names workspace (workspace.setDatabase number
      { workspace.database number with handles := (workspace.database number).handles + 1 }) :=
    stays_setDatabase names rfl
  unfold attach
  dsimp only
  split
  · exact counted
  · rename_i found same
    obtain rfl : found = names := Option.some.inj (same.symm.trans home)
    exact counted.trans (stays_foldl (stays_putSide nonempty number) _ _)

/-- Carrying over the changes of the database that a file holds stays. -/
theorem stays_settle {workspace : Workspace} {number : Nat}
    (held : workspace.HoldsAt names number) :
    Stays names workspace (workspace.settle number names) := by
  have settled : Stays names workspace (workspace.setDatabase number
      { workspace.database number with logged := false, settled := true }) :=
    stays_setDatabase names rfl
  exact (settled.trans (stays_rebind held)).trans (stays_foldl (stays_removeSide nonempty) _ _)

/-- One handle less on a database at home stays. The file is bound anew only where it
holds that database. -/
theorem stays_detach {workspace : Workspace} {number : Nat} (writable : Bool)
    (home : (workspace.database number).home = some names) :
    Stays names workspace (workspace.detach number writable) := by
  have counted : Stays names workspace (workspace.setDatabase number
      { workspace.database number with handles := (workspace.database number).handles - 1 }) :=
    stays_setDatabase names rfl
  unfold detach
  dsimp only
  split
  · exact counted
  · rename_i found same
    obtain rfl : found = names := Option.some.inj (same.symm.trans home)
    split
    · rename_i last
      simp only [Bool.and_eq_true] at last
      refine .given fun isHome => counted.trans (stays_settle nonempty ?_)
      exact counted.held isHome number (holdsAt_of_isAtHome isHome last.2)
    · exact counted

/-- Taking away what stands beside the database stays. -/
theorem stays_sweep_beside (workspace : Workspace) (ending : String) (longer : ending ≠ "") :
    Stays names workspace (workspace.sweep (besideNames names ending)) := by
  unfold sweep
  split
  · exact .refl names workspace
  · split
    · exact stays_bind (besideNames_outside nonempty ending longer) _ _
    · exact .refl names workspace

/-- Taking away what stands beside a file leaves the file. -/
theorem entry?_sweep_beside {workspace : Workspace} {content : Content} (ending : String)
    (longer : ending ≠ "") (found : workspace.entry? names = some (.file content)) :
    entry? (workspace.sweep (besideNames names ending)) names = some (.file content) := by
  unfold sweep
  split
  · exact found
  · split
    · exact (entryAt_bindAt_eq_file_iff (besideNames_outside nonempty ending longer)).2 found
    · exact found

end Beside

end Workspace

namespace Store

/-- What an attempt to open a store at some names comes to: what is there stays, and
where it succeeds the file holds the database of the store. -/
structure Finds (names : List String) (workspace : Workspace)
    (outcome : Workspace × Except StoreError Store) : Prop where
  stays : Workspace.Stays names workspace outcome.1
  held : workspace.IsHome names → ∀ store, outcome.2 = .ok store →
    outcome.1.HoldsAt names store.number

/-- An attempt that fails has only to let things stay. -/
theorem Finds.failed {names : List String} {before after : Workspace}
    (stays : Workspace.Stays names before after) (error : StoreError) :
    Finds names before (after, .error error) :=
  ⟨stays, by simp⟩

/-- Changes in front of an attempt that let things stay may be added to it. -/
theorem Finds.after {names : List String} {before middle : Workspace}
    {outcome : Workspace × Except StoreError Store} (stays : Workspace.Stays names before middle)
    (finds : Finds names middle outcome) : Finds names before outcome :=
  ⟨stays.trans finds.stays, fun isHome => finds.held (stays.isHome isHome)⟩

/-- Only what may be at the names has to be found there. -/
theorem Finds.given {names : List String} {workspace : Workspace}
    {outcome : Workspace × Except StoreError Store}
    (finds : workspace.IsHome names → Finds names workspace outcome) :
    Finds names workspace outcome :=
  ⟨.given fun isHome => (finds isHome).stays, fun isHome => (finds isHome).held isHome⟩

/-- Creating tables leaves the home of a database. -/
theorem home_createTables (database : Database) (writable : Bool) :
    (database.createTables writable).1.home = database.home := by
  unfold Database.createTables
  split
  · rfl
  · split
    · rfl
    · split <;> rfl

section Beside

variable {names : List String} (nonempty : names ≠ [])

include nonempty

/-- Preparing a store on the database that a file holds. -/
theorem finds_prepare {workspace : Workspace} {store : Store}
    (held : workspace.HoldsAt names store.number) :
    Finds names workspace (store.prepare workspace) := by
  refine .given fun isHome => ?_
  have attached := Workspace.stays_attach nonempty (isHome.home held)
  have created : Workspace.Stays names (workspace.attach store.number)
      ((workspace.attach store.number).setDatabase store.number
        (((workspace.attach store.number).database store.number).createTables
          store.writable).1) :=
    Workspace.stays_setDatabase names (home_createTables ..)
  have both := attached.trans created
  unfold prepare
  dsimp only
  cases made : ((workspace.attach store.number).database store.number).createTables
      store.writable with
  | mk database result =>
    rw [made] at both
    cases result with
    | error error =>
      refine .failed (both.trans (Workspace.stays_detach nonempty _ ?_)) error
      exact (both.isHome isHome).home (both.held isHome _ held)
    | ok =>
      refine ⟨both, fun _ opened same => ?_⟩
      obtain rfl := Except.ok.inj same
      exact both.held isHome _ held

/-- Opening a store on a new database in a file that holds none. -/
theorem finds_openNew {workspace : Workspace} (path : String) (chunkSize : Nat)
    (access : Access) {content : Content}
    (found : workspace.entry? names = some (.file content))
    (vacant : ∀ number, content ≠ .database number) :
    Finds names workspace (openNew workspace path chunkSize access names) := by
  have journal := Workspace.besideNames_outside nonempty "-journal" (by decide)
  unfold openNew
  dsimp only
  split
  · exact .failed (.refl names workspace) _
  · have swept := Workspace.stays_sweep_beside nonempty workspace "-journal" (by decide)
    have file := Workspace.entry?_sweep_beside nonempty "-journal" (by decide) found
    refine .after swept ?_
    split
    · exact .failed (.refl _ _) _
    · refine .after (Workspace.stays_sweep_beside nonempty _ Side.log.ending (by decide)) ?_
      have file := Workspace.entry?_sweep_beside nonempty Side.log.ending (by decide) file
      split
      · exact .failed (.refl _ _) _
      · refine .after (Workspace.stays_bind journal _ none) ?_
        have file : Workspace.entry? (Workspace.bind _ (Workspace.journalNames names) none) names =
            some (.file content) := (entryAt_bindAt_eq_file_iff journal).2 file
        refine .after (Workspace.stays_planted file vacant) ?_
        split
        · exact .failed (.refl _ _) _
        · split
          · exact .failed (Workspace.stays_putSide nonempty ..) _
          · split
            · exact .failed (Workspace.stays_putSide nonempty ..) _
            · exact finds_prepare nonempty (Workspace.holdsAt_planted file _)

/-- Meeting the journal beside a database stays. -/
theorem stays_meetJournal (workspace : Workspace) (number : Nat) (access : Access) :
    Workspace.Stays names workspace (meetJournal workspace number access names).1 := by
  unfold meetJournal
  dsimp only
  cases workspace.entry? (Workspace.journalNames names) with
  | none => exact .refl names workspace
  | some entry =>
    cases entry with
    | directory entries => exact .refl names workspace
    | link target => exact .refl names workspace
    | file content =>
      dsimp only
      split
      · exact .refl names workspace
      · split
        · exact .refl names workspace
        · split
          · exact .refl names workspace
          · exact Workspace.stays_bind (Workspace.besideNames_outside nonempty _ (by decide)) _ _

/-- Opening a store on the database that a file holds. -/
theorem finds_openKnown {workspace : Workspace} (path : String) (chunkSize : Nat)
    (access : Access) {number : Nat} (held : workspace.HoldsAt names number) :
    Finds names workspace (openKnown workspace path chunkSize access names number) := by
  refine .given fun isHome => ?_
  have met := stays_meetJournal nonempty workspace number access
  have log := Workspace.besideNames_outside nonempty Side.log.ending (by decide)
  unfold openKnown
  cases result : meetJournal workspace number access names with
  | mk left cause =>
    rw [result] at met
    cases cause with
    | some cause => exact .failed met _
    | none =>
      simp only
      refine .after met ?_
      split
      · exact .failed (.refl names left) _
      · split
        · exact .failed (Workspace.stays_putSide nonempty ..) _
        · split
          · exact .failed (Workspace.stays_bind log ..) _
          · exact finds_prepare nonempty (met.held isHome number held)

/-- Refusing a file that is no database. -/
theorem finds_refuseFile (workspace : Workspace) :
    Finds names workspace (refuseFile workspace names) := by
  unfold refuseFile
  dsimp only
  split
  · exact .failed (.refl names workspace) _
  · refine .after (Workspace.stays_sweep_beside nonempty workspace "-journal" (by decide)) ?_
    split
    · exact .failed (.refl _ _) _
    · exact .failed (Workspace.stays_sweep_beside nonempty _ Side.log.ending (by decide)) _

/-- Opening a store in the file at some names. -/
theorem finds_openFile (workspace : Workspace) (path : String) (chunkSize : Nat)
    (access : Access) :
    Finds names workspace (openFile workspace path chunkSize access (some names)) := by
  refine .given fun isHome => ?_
  unfold openFile
  dsimp only
  cases entry : workspace.entry? names with
  | none =>
    dsimp only
    split
    · rename_i makes
      simp only [Bool.and_eq_true] at makes
      refine .after (Workspace.stays_created nonempty entry makes.2) ?_
      exact finds_openNew nonempty path chunkSize access
        (Workspace.entry?_created nonempty _ makes.2) (by simp)
    · exact .failed (.refl names workspace) _
  | some found =>
    cases found with
    | directory entries => exact .failed (.refl names workspace) _
    | link target => exact .failed (.refl names workspace) _
    | file content =>
      dsimp only
      cases inside : workspace.numberIn? content with
      | none =>
        dsimp only
        split
        · refine finds_openNew nonempty path chunkSize access entry ?_
          rintro number rfl
          simp [Workspace.numberIn?] at inside
        · exact finds_refuseFile nonempty workspace
      | some number =>
        dsimp only
        split
        · exact .failed (.refl names workspace) _
        · exact finds_openKnown nonempty path chunkSize access
            (Workspace.holdsAt_of_numberIn? isHome entry inside)

/-- Closing a store on the database that a file holds stays. -/
theorem stays_close {workspace : Workspace} {store : Store}
    (held : workspace.HoldsAt names store.number) :
    Workspace.Stays names workspace (store.close workspace).1 := by
  refine .given fun isHome => ?_
  unfold close
  split
  · exact Workspace.stays_detach nonempty _ (isHome.home held)
  · exact .refl names workspace

/-- Creating the tables of a store on the database that a file holds stays. -/
theorem stays_createTables {workspace : Workspace} {store : Store}
    (held : workspace.HoldsAt names store.number) :
    Workspace.Stays names workspace (store.createTables workspace).1 := by
  refine .given fun isHome => ?_
  have created : Workspace.Stays names workspace (workspace.setDatabase store.number
      ((workspace.database store.number).createTables store.writable).1) :=
    Workspace.stays_setDatabase names (home_createTables ..)
  unfold createTables
  split
  · dsimp only
    cases made : (workspace.database store.number).createTables store.writable with
    | mk database result =>
      rw [made] at created
      cases result with
      | ok => exact created
      | error error =>
        exact created.trans (stays_close nonempty (created.held isHome _ held))
  · exact .refl names workspace

end Beside

/-- Writing rows leaves the home of a database. -/
theorem home_insert (database : Database) (writer : Writer) (chunkSize : Nat)
    (rows : List Row) : (database.insert writer chunkSize rows).1.home = database.home := by
  unfold Database.insert
  dsimp only
  split <;> rfl

/-- Deleting the rows leaves the home of a database. -/
theorem home_clear (database : Database) (writer : Writer) :
    (database.clear writer).1.home = database.home := by
  unfold Database.clear
  split <;> rfl

/-- Saving stays. -/
theorem stays_save (names : List String) (workspace : Workspace) (store : Store)
    (symbols : List Symbol) : Workspace.Stays names workspace (store.save workspace symbols).1 := by
  have inserted : Workspace.Stays names workspace (workspace.setDatabase store.number
      ((workspace.database store.number).insert store.inserter store.chunkSize
        (symbols.map Row.ofSymbol)).1) :=
    Workspace.stays_setDatabase names (home_insert ..)
  unfold save
  split
  · exact .refl names workspace
  · split
    · exact .refl names workspace
    · split
      · dsimp only
        split <;> exact inserted
      · exact .refl names workspace

/-- Clearing stays. -/
theorem stays_clear (names : List String) (workspace : Workspace) (store : Store) :
    Workspace.Stays names workspace (store.clear workspace).1 := by
  unfold clear
  split
  · exact Workspace.stays_setDatabase names (home_clear ..)
  · exact .refl names workspace

end Store

/-- Whether an operation opens no store other than at the file of some names: an
opening has to be by the address of a file, whose full name, if it has one once the
directories on the way are made, has to be these names. -/
def Action.opensAt (workspace : Workspace) (names : List String) : Action → Bool
  | .openAt none _ => false
  | .openAt (some path) _ =>
    match Address.read path with
    | .error _ => true
    | .ok address =>
      match address.holder with
      | .file file => ((workspace.files.makeParent path).1.fullName? file).all (· == names)
      | _ => false
  | _ => true

/-- Opening a store by a path that leads to a file. -/
theorem Store.finds_openAt {workspace : Workspace} {names : List String} {path : String}
    {chunkSize : Nat}
    (leads : (Action.openAt (some path) chunkSize).opensAt workspace names = true) :
    Store.Finds names workspace (Store.openAt workspace path chunkSize) := by
  have made := Workspace.stays_makeParent names workspace path
  dsimp only [Action.opensAt] at leads
  unfold Store.openAt
  cases parent : workspace.files.makeParent path with
  | mk files result =>
    rw [parent] at made leads
    cases result with
    | error error => exact .failed made _
    | ok =>
      dsimp only
      cases Store.nullPosition? path with
      | some position => exact .failed made _
      | none =>
        cases read : Address.read path with
        | error error => exact .failed made _
        | ok address =>
          simp only [read] at leads
          refine .after made ?_
          unfold Store.openAddress
          cases holder : address.holder with
          | alone => simp [holder] at leads
          | shared name => simp [holder] at leads
          | file file =>
            simp only [holder] at leads ⊢
            change Store.Finds names _ (Store.openFile _ path chunkSize address.access
              (files.fullName? file))
            cases full : files.fullName? file with
            | none => exact .failed (.refl names _) _
            | some found =>
              obtain rfl : found = names := by simpa [full] using leads
              have nonempty : found ≠ [] := by
                have kept := (Option.filter_eq_some_iff.1 full).2
                simp only [Bool.and_eq_true, Bool.not_eq_true', List.isEmpty_eq_false_iff] at kept
                exact kept.1
              exact Store.finds_openFile nonempty _ path chunkSize address.access

namespace Session

/-- What is at some names may be there, and every store of the session is on the
database there. -/
structure LivesAt (session : Session) (names : List String) : Prop where
  isHome : session.workspace.IsHome names
  held : ∀ name store, session.stores.get? name = some store →
    session.workspace.HoldsAt names store.number

/-- Letting a store go stays, if it is on the database that the file holds. -/
theorem stays_drop (session : Session) {name : String} {names : List String}
    (held : ∀ store, session.stores.get? name = some store →
      session.workspace.HoldsAt names store.number) :
    Workspace.Stays names session.workspace (session.drop name).workspace := by
  unfold drop
  cases before : session.stores.get? name with
  | none => exact .refl names session.workspace
  | some store => exact Store.stays_close (held store before).nonempty (held store before)

/-- What an opening at the names comes to before the session takes the store in. -/
theorem finds_opening {session : Session} {names : List String} {path : Option String}
    {chunkSize : Nat}
    (opensAt : (Action.openAt path chunkSize).opensAt session.workspace names = true) :
    Store.Finds names session.workspace (session.opening path chunkSize) := by
  cases path with
  | none => simp [Action.opensAt] at opensAt
  | some path => exact Store.finds_openAt opensAt

/-- Opening at the names lets things stay, and the file holds the database of the store
that was opened. -/
theorem finds_session_openAt {session : Session} {names : List String} (name : String)
    {path : Option String} {chunkSize : Nat} (livesAt : session.LivesAt names)
    (opensAt : (Action.openAt path chunkSize).opensAt session.workspace names = true) :
    Workspace.Stays names session.workspace (session.openAt name path chunkSize).1.workspace ∧
      ∀ store, (session.opening path chunkSize).2 = .ok store →
        (session.openAt name path chunkSize).1.workspace.HoldsAt names store.number := by
  have finds := finds_opening opensAt
  cases result : (session.opening path chunkSize).2 with
  | error error =>
    rw [openAt_of_error result]
    exact ⟨finds.stays, by simp⟩
  | ok new =>
    rw [openAt_of_ok result]
    have stillHeld : ∀ store, session.stores.get? name = some store →
        (session.opening path chunkSize).1.HoldsAt names store.number :=
      fun store before => finds.stays.held livesAt.isHome _ (livesAt.held name store before)
    have dropped := stays_drop
      { session with workspace := (session.opening path chunkSize).1 } stillHeld
    refine ⟨finds.stays.trans dropped, fun store same => ?_⟩
    obtain rfl := Except.ok.inj same
    exact dropped.held (finds.stays.isHome livesAt.isHome) _ (finds.held livesAt.isHome _ result)

/-- Every operation lets the file hold what it holds, as long as it opens no store
elsewhere. -/
theorem stays_perform {session : Session} {names : List String} (name : String)
    {action : Action} (livesAt : session.LivesAt names)
    (opensAt : action.opensAt session.workspace names = true) :
    Workspace.Stays names session.workspace (session.perform name action).1.workspace := by
  unfold perform
  cases before : session.stores.get? name with
  | none =>
    cases action with
    | openAt path chunkSize => exact (finds_session_openAt name livesAt opensAt).1
    | _ => exact .refl names session.workspace
  | some store =>
    have held := livesAt.held name store before
    cases action with
    | openAt path chunkSize => exact (finds_session_openAt name livesAt opensAt).1
    | save symbols => exact Store.stays_save names session.workspace store symbols
    | clear => exact Store.stays_clear names session.workspace store
    | createTables => exact Store.stays_createTables held.nonempty held
    | close => exact Store.stays_close held.nonempty held
    | drop => exact stays_drop session (livesAt.held name)
    | _ => exact .refl names session.workspace

/-- A session goes on living at one file as long as it opens no store elsewhere. -/
theorem livesAt_perform {session : Session} {names : List String} (name : String)
    {action : Action} (livesAt : session.LivesAt names)
    (opensAt : action.opensAt session.workspace names = true) :
    (session.perform name action).1.LivesAt names where
  isHome := (stays_perform name livesAt opensAt).isHome livesAt.isHome
  held other store after := by
    rcases held_perform after with ⟨old, before, follows⟩ | ⟨path, chunkSize, rfl, -, opened⟩
    · rw [follows.number]
      exact (stays_perform name livesAt opensAt).held livesAt.isHome _
        (livesAt.held other old before)
    · have found := (finds_session_openAt name livesAt opensAt).2 store opened
      unfold perform
      cases session.stores.get? name <;> exact found

/-- Whether a history opens no store other than at the file of some names. -/
def opensOnlyAt (names : List String) : Session → List (String × Action) → Bool
  | _, [] => true
  | session, (name, action) :: rest =>
    action.opensAt session.workspace names &&
      opensOnlyAt names (session.perform name action).1 rest

/-- A session lives at one file through a whole history that opens no store
elsewhere. -/
theorem livesAt_performAll {session : Session} {names : List String}
    (history : List (String × Action)) (livesAt : session.LivesAt names)
    (only : session.opensOnlyAt names history = true) :
    (session.performAll history).LivesAt names := by
  induction history generalizing session with
  | nil => exact livesAt
  | cons step rest hypothesis =>
    obtain ⟨name, action⟩ := step
    simp only [opensOnlyAt, Bool.and_eq_true] at only
    exact hypothesis (livesAt_perform name livesAt only.1) only.2

end Session

end SymbolAtlas
