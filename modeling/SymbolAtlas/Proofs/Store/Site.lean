import SymbolAtlas.Proofs.Files.Trees
import SymbolAtlas.Proofs.Store.Apart

/-!
# What a store leaves alone

A store on a database in a file puts and takes away regular files at four places: that
of the database, and those of the journal, the log and the index beside it. It may also
take away a link there. Nothing else in the files changes, and no lock of a database
either. `Workspace.Site` says this of a workspace and one that came before, and each
change that a store makes preserves it.

An opening that succeeds comes down to one preparation, on a new database or on the one
that the file holds. `Store.Prepares` says so of an attempt to open, with what is known of
the store then.
-/

namespace SymbolAtlas

/-- The places of a database file and of the files beside it. -/
def databasePlaces (home : List String) : List (List String) :=
  databaseEndings.map (besideNames home)

/-- A place beside the database is among these. -/
theorem besideNames_mem_databasePlaces (home : List String) {ending : String}
    (listed : ending ∈ databaseEndings) : besideNames home ending ∈ databasePlaces home :=
  List.mem_map_of_mem listed

/-- The places are these four. -/
theorem mem_databasePlaces_iff {home place : List String} (nonempty : home ≠ []) :
    place ∈ databasePlaces home ↔ place = home ∨ place = Workspace.journalNames home ∨
      place = Workspace.logNames home ∨ place = Workspace.indexNames home := by
  simp [databasePlaces, databaseEndings, besideNames_empty nonempty, Workspace.journalNames,
    Workspace.logNames, Workspace.indexNames, Side.ending]

/-- The database itself is at one of them. -/
theorem mem_databasePlaces {home : List String} (nonempty : home ≠ []) :
    home ∈ databasePlaces home :=
  (mem_databasePlaces_iff nonempty).2 (.inl rfl)

/-- A directory that is not around the database is around none of the places, unless it is
one of them. -/
theorem not_isPrefix_of_mem_databasePlaces {home names place : List String} (nonempty : home ≠ [])
    (listed : place ∈ databasePlaces home) (outside : ¬ names <+: home)
    (elsewhere : names ≠ place) : ¬ names <+: place := by
  obtain ⟨ending, -, rfl⟩ := List.mem_map.1 listed
  intro around
  have shorter : names.length < (besideNames home ending).length :=
    Nat.lt_of_le_of_ne around.length_le fun same => elsewhere (around.eq_of_length same)
  have inner : names <+: (besideNames home ending).dropLast := by
    refine List.prefix_of_prefix_length_le around (List.dropLast_prefix _) ?_
    rw [List.length_dropLast]
    omega
  rw [dropLast_besideNames nonempty] at inner
  exact outside (inner.trans (List.dropLast_prefix home))

namespace Workspace

variable {home : List String} {origin workspace other : Workspace} {number : Nat}

/-- Where a regular file is there is no directory. -/
theorem closed_of_file {names : List String} {content : Content}
    (there : workspace.entry? names = some (.file content)) :
    workspace.files.sight names ≠ some .directory := by
  rw [Files.sight, sightAt_eq_file.2 ⟨content, there⟩]
  simp

/-- Where nothing is there is no directory. -/
theorem closed_of_vacant {names : List String} (vacant : workspace.entry? names = none) :
    workspace.files.sight names ≠ some .directory := by
  rw [Files.sight, sightAt_eq_none.2 vacant]
  simp

/-- What a store on a database at some names has left alone since a workspace was as it was:
the files but for those of the database, and the locks. -/
structure Site (home : List String) (origin workspace : Workspace) : Prop where
  nonempty : home ≠ []
  room : workspace.files.sight home.dropLast = some .directory
  closed : workspace.files.sight home ≠ some .directory
  distinct : isDistinctAmong workspace.files.entries = true
  refiles : origin.files.Refiles (databasePlaces home) workspace.files
  locks : ∀ number, (workspace.database number).locked = (origin.database number).locked

namespace Site

/-- Changes of regular files at the places keep the site. -/
theorem step (site : Site home origin workspace)
    (refiles : workspace.files.Refiles (databasePlaces home) other.files)
    (distinct : isDistinctAmong other.files.entries = true)
    (locks : ∀ number, (other.database number).locked = (workspace.database number).locked) :
    Site home origin other where
  nonempty := site.nonempty
  room := (refiles.directory _).2 site.room
  closed directory := site.closed ((refiles.directory _).1 directory)
  distinct := distinct
  refiles := site.refiles.trans refiles
  locks number := (locks number).trans (site.locks number)

/-- There is no directory where there was none. -/
theorem closed_later (earlier : Site home origin workspace) (later : Site home origin other)
    {names : List String} (closed : workspace.files.sight names ≠ some .directory) :
    other.files.sight names ≠ some .directory :=
  fun directory =>
    closed ((earlier.refiles.directory names).2 ((later.refiles.directory names).1 directory))

/-- Something can be put at one of the places, or taken away, unless it is a directory. -/
theorem admits {place : List String} (site : Site home origin workspace)
    (listed : place ∈ databasePlaces home)
    (closed : workspace.files.sight place ≠ some .directory) : workspace.files.Admits place := by
  obtain ⟨ending, -, rfl⟩ := List.mem_map.1 listed
  refine ⟨besideNames_ne_nil site.nonempty ending, ?_, closed⟩
  rw [dropLast_besideNames site.nonempty]
  exact site.room

/-- Putting a regular file at one of the places, or taking away what is there. -/
theorem bind {place : List String} {entry : Option Entry} (site : Site home origin workspace)
    (listed : place ∈ databasePlaces home)
    (closed : workspace.files.sight place ≠ some .directory)
    (plain : entry = none ∨ ∃ content, entry = some (.file content)) :
    Site home origin (workspace.bind place entry) := by
  refine site.step ?_ ?_ fun _ => rfl
  · exact Files.refiles_bind site.distinct (site.admits listed closed) listed plain
  · exact Files.isDistinctAmong_bind_plain site.distinct plain

/-- The same beside the database. -/
theorem bind_beside {ending : String} {entry : Option Entry} (site : Site home origin workspace)
    (listed : ending ∈ databaseEndings)
    (closed : workspace.files.sight (besideNames home ending) ≠ some .directory)
    (plain : entry = none ∨ ∃ content, entry = some (.file content)) :
    Site home origin (workspace.bind (besideNames home ending) entry) :=
  site.bind (besideNames_mem_databasePlaces home listed) closed plain

/-- A change of one database that leaves its lock. -/
theorem setDatabase (site : Site home origin workspace) (number : Nat) (database : Database)
    (locked : database.locked = (workspace.database number).locked) :
    Site home origin (workspace.setDatabase number database) := by
  refine site.step (.refl _ _) site.distinct fun other => ?_
  by_cases same : other = number
  · subst same
    by_cases used : other < workspace.databases.length
    · rw [database_setDatabase_self _ _ used, locked]
    · rw [database_of_unused _ (Nat.not_lt.1 used),
        database_of_unused _ (by simpa [Workspace.setDatabase] using used)]
  · rw [database_setDatabase_ne _ _ same]

/-- A new database that is not locked. -/
theorem addDatabase (site : Site home origin workspace) (database : Database)
    (unlocked : database.locked = false) :
    Site home origin (workspace.addDatabase database).1 := by
  refine site.step (.refl _ _) site.distinct fun other => ?_
  rcases Nat.lt_trichotomy other workspace.databases.length with before | same | behind
  · simp [Workspace.addDatabase, Workspace.database, List.getElem?_append_left before]
  · rw [database_of_unused workspace (Nat.le_of_eq same.symm), same]
    exact (congrArg Database.locked (database_addDatabase workspace database)).trans unlocked
  · rw [database_of_unused workspace (Nat.le_of_lt behind), database_of_unused]
    simpa [Workspace.addDatabase, Nat.succ_le_iff] using behind

/-- Several changes one after another. -/
theorem foldl {change : Workspace → Side → Workspace}
    (each : ∀ {workspace : Workspace} (side : Side), Site home origin workspace →
      Site home origin (change workspace side))
    (site : Site home origin workspace) (sides : List Side) :
    Site home origin (sides.foldl change workspace) := by
  induction sides generalizing workspace with
  | nil => exact site
  | cons side rest hypothesis => exact hypothesis (each side site)

/-- Putting a file beside the database. -/
theorem putSide (site : Site home origin workspace) (number : Nat) (side : Side) :
    Site home origin (Workspace.putSide number home workspace side) := by
  have listed : side.ending ∈ databaseEndings := by cases side <;> decide
  unfold Workspace.putSide
  dsimp only
  split <;> rename_i there
  · exact site.bind_beside listed (closed_of_vacant there) (.inr ⟨_, rfl⟩)
  · exact site.bind_beside listed (closed_of_file there) (.inr ⟨_, rfl⟩)
  · exact site

/-- Taking away a file beside the database. -/
theorem removeSide (site : Site home origin workspace) (side : Side) :
    Site home origin (Workspace.removeSide home workspace side) := by
  have listed : side.ending ∈ databaseEndings := by cases side <;> decide
  unfold Workspace.removeSide
  dsimp only
  split <;> rename_i there
  · exact site.bind_beside listed (closed_of_file there) (.inl rfl)
  · exact site

/-- Sweeping away what stands beside the database. -/
theorem sweep {ending : String} (site : Site home origin workspace)
    (listed : ending ∈ databaseEndings) :
    Site home origin (workspace.sweep (besideNames home ending)) := by
  unfold Workspace.sweep
  split
  · exact site
  · rename_i open'
    split
    · refine site.bind_beside listed ?_ (.inl rfl)
      intro directory
      obtain ⟨inner, there⟩ := sightAt_eq_directory.1 directory
      exact open' inner there
    · exact site

/-- One more handle on the database. -/
theorem attach (site : Site home origin workspace)
    (lives : (workspace.database number).home = some home) :
    Site home origin (workspace.attach number) := by
  have counted := site.setDatabase number
    { workspace.database number with handles := (workspace.database number).handles + 1 } rfl
  unfold Workspace.attach
  dsimp only
  split
  · exact counted
  · rename_i names same
    obtain rfl : home = names := Option.some.inj (lives.symm.trans same)
    exact foldl (fun side site => site.putSide number side) counted _

/-- Carrying over the changes of the database. -/
theorem settle (site : Site home origin workspace) (number : Nat) :
    Site home origin (workspace.settle number home) := by
  unfold Workspace.settle
  refine foldl (fun side site => site.removeSide side) ?_ _
  refine (site.setDatabase number _ ?_).bind (mem_databasePlaces site.nonempty) site.closed
    (.inr ⟨_, rfl⟩)
  rfl

/-- One handle less on the database. -/
theorem detach (site : Site home origin workspace)
    (lives : (workspace.database number).home = some home) (writable : Bool) :
    Site home origin (workspace.detach number writable) := by
  have counted := site.setDatabase number
    { workspace.database number with handles := (workspace.database number).handles - 1 } rfl
  unfold Workspace.detach
  dsimp only
  split
  · exact counted
  · rename_i names same
    obtain rfl : home = names := Option.some.inj (lives.symm.trans same)
    split
    · exact counted.settle number
    · exact counted

end Site

end Workspace

namespace Store

variable {home : List String} {origin workspace : Workspace} {number : Nat} {store : Store}

/-- Creating tables leaves the lock of a database. -/
theorem locked_createTables (database : Database) (writable : Bool) :
    (database.createTables writable).1.locked = database.locked := by
  unfold Database.createTables
  split
  · rfl
  · split
    · rfl
    · dsimp only
      split <;> rfl

/-- Preparing gives the store that was to be prepared, if any. -/
theorem eq_of_prepare {opened : Store} (prepared : (store.prepare workspace).2 = .ok opened) :
    opened = store := by
  unfold prepare at prepared
  dsimp only at prepared
  split at prepared
  · exact (Except.ok.inj prepared).symm
  · simp at prepared

/-- A store that has been prepared on a database at home has kept the site. -/
theorem site_prepare {opened : Store} (site : Workspace.Site home origin workspace)
    (lives : (workspace.database store.number).home = some home)
    (prepared : (store.prepare workspace).2 = .ok opened) :
    Workspace.Site home origin (store.prepare workspace).1 := by
  have attached := site.attach lives
  have changed := attached.setDatabase store.number
    (((workspace.attach store.number).database store.number).createTables store.writable).1
    (locked_createTables _ _)
  unfold prepare at prepared ⊢
  dsimp only at prepared ⊢
  rcases created : ((workspace.attach store.number).database store.number).createTables
    store.writable with ⟨database, result⟩
  rw [created] at prepared changed
  cases result with
  | error error => simp at prepared
  | ok => exact changed

/-- What an attempt to open a store comes to if it succeeds: the store has been prepared, in a
workspace that has kept the site and has a property. -/
def Prepares (home : List String) (origin : Workspace) (property : Workspace → Store → Prop)
    (outcome : Workspace × Except StoreError Store) : Prop :=
  ∀ store, outcome.2 = .ok store → ∃ made, outcome = store.prepare made ∧
    Workspace.Site home origin made ∧ (made.database store.number).home = some home ∧
    property made store

section Opening

variable {property : Workspace → Store → Prop}

/-- An attempt that fails comes to nothing. -/
theorem prepares_error {left : Workspace} {error : StoreError} :
    Prepares home origin property (left, .error error) := by
  intro store opened
  simp at opened

/-- An attempt that succeeds has met no hindrance. -/
theorem prepares_hindered {hindered : Prop} [Decidable hindered] {left : Workspace}
    {error : StoreError} {onward : Workspace × Except StoreError Store}
    (further : ¬ hindered → Prepares home origin property onward) :
    Prepares home origin property (if hindered then (left, .error error) else onward) := by
  by_cases met : hindered
  · rw [if_pos met]
    exact prepares_error
  · rw [if_neg met]
    exact further met

/-- Preparing itself. -/
theorem prepares_prepare (site : Workspace.Site home origin workspace)
    (lives : (workspace.database store.number).home = some home)
    (fits : property workspace store) :
    Prepares home origin property (store.prepare workspace) := by
  intro opened prepared
  obtain rfl := eq_of_prepare prepared
  exact ⟨workspace, rfl, site, lives, fits⟩

end Opening

/-- A store that may write to a new database, with neither a directory nor a link in the place of
one of its files. -/
structure OnNew (home : List String) (made : Workspace) (store : Store) : Prop where
  isOpen : store.isOpen = true
  writable : store.writable = true
  used : store.number < made.databases.length
  free : ∀ place ∈ databasePlaces home, made.files.sight place ≠ some .directory
  unlinked : made.files.Unlinked (databasePlaces home)

/-- Where no directory is found there is none in view. -/
theorem closed_of_not_hasDirectory {names : List String}
    (free : ¬ workspace.hasDirectory names = true) :
    workspace.files.sight names ≠ some .directory := by
  rwa [Workspace.hasDirectory_eq, decide_eq_true_iff] at free

/-- Where a regular file can be made there is no directory. -/
theorem closed_of_admitsFile {names : List String}
    (admitted : workspace.admitsFile names = true) :
    workspace.files.sight names ≠ some .directory := by
  apply closed_of_not_hasDirectory
  intro directory
  simp [Workspace.admitsFile, directory] at admitted

/-- Where no link is found there is none in view. -/
theorem sight_ne_link {names : List String} (unlinked : ¬ workspace.hasLink names = true)
    (target : String) : workspace.files.sight names ≠ some (.link target) := by
  intro linked
  simp [Workspace.hasLink_eq, linked] at unlinked

/-- A new database is opened by preparing it. -/
theorem prepares_openNew (site : Workspace.Site home origin workspace) (path : String)
    (chunkSize : Nat) (access : Access) :
    Prepares home origin (OnNew home) (openNew workspace path chunkSize access home) := by
  have journal : "-journal" ∈ databaseEndings := by decide
  have swept := site.sweep journal
  have clean := swept.sweep (by decide : Side.log.ending ∈ databaseEndings)
  unfold openNew
  refine prepares_hindered fun _ => prepares_hindered fun unlogged =>
    prepares_hindered fun admitted => ?_
  have free := closed_of_admitsFile (by simpa using admitted)
  have ready := (clean.bind_beside journal free (.inl rfl)).addDatabase { home := some home } rfl
  have own := mem_databasePlaces site.nonempty
  have beside := besideNames_mem_databasePlaces home journal
  have room := ready.admits own ready.closed
  have made := fun content : Content => ready.bind own ready.closed (.inr ⟨content, rfl⟩)
  refine prepares_hindered fun unlinkedLog => prepares_hindered fun unlinkedIndex =>
    prepares_hindered fun blocked => ?_
  refine prepares_prepare (made _) ?_ ⟨rfl, rfl, ?_, ?_, ?_⟩
  · exact congrArg Database.home (Workspace.database_addDatabase _ { home := some home })
  · exact Workspace.addDatabase_used _ _
  · intro place listed
    rcases (mem_databasePlaces_iff site.nonempty).1 listed with rfl | rfl | rfl | rfl
    · exact (made _).closed
    · exact clean.closed_later (made _) free
    · exact swept.closed_later (made _) (closed_of_not_hasDirectory unlogged)
    · exact closed_of_not_hasDirectory blocked
  · intro place listed target
    rcases (mem_databasePlaces_iff site.nonempty).1 listed with rfl | rfl | rfl | rfl
    · exact Files.sight_bind_ne_link ready.distinct room (.inr ⟨_, rfl⟩) target
    · intro linked
      have before := (Files.sheds_bind ready.distinct room (.inr ⟨_, rfl⟩)).link _ target linked
      exact Files.sight_bind_ne_link clean.distinct (clean.admits beside free) (.inl rfl) target
        before
    · exact sight_ne_link unlinkedLog target
    · exact sight_ne_link unlinkedIndex target

/-- Meeting the journal beside the database. -/
theorem site_meetJournal (site : Workspace.Site home origin workspace) (number : Nat)
    (access : Access) :
    Workspace.Site home origin (meetJournal workspace number access home).1 := by
  unfold meetJournal
  dsimp only
  split
  · exact site
  · exact site
  · exact site
  · rename_i content there
    split
    · exact site
    · split
      · exact site
      · split
        · exact site
        · exact site.bind_beside (by decide : "-journal" ∈ databaseEndings)
            (Workspace.closed_of_file there) (.inl rfl)

/-- A store on the database of a number, with all databases as they were, which may write
unless it is to read only or the index into the log cannot be written. -/
structure OnKnown (home : List String) (workspace : Workspace) (number : Nat) (access : Access)
    (made : Workspace) (store : Store) : Prop where
  isOpen : store.isOpen = true
  number : store.number = number
  databases : made.databases = workspace.databases
  writable : access ≠ .readOnly →
    made.files.sight (Workspace.indexNames home) ≠ some .directory → store.writable = true

/-- A database that a file holds is opened by preparing it. -/
theorem prepares_openKnown (site : Workspace.Site home origin workspace)
    (lives : (workspace.database number).home = some home) (path : String) (chunkSize : Nat)
    (access : Access) :
    Prepares home origin (OnKnown home workspace number access)
      (openKnown workspace path chunkSize access home number) := by
  have met := site_meetJournal site number access
  have databases := databases_meetJournal workspace number access home
  unfold openKnown
  rcases journal : meetJournal workspace number access home with ⟨left, cause⟩
  rw [journal] at met databases
  cases cause with
  | some cause => exact prepares_error
  | none =>
    refine prepares_hindered fun _ => prepares_hindered fun _ => prepares_hindered fun _ => ?_
    refine prepares_prepare met ?_ ⟨rfl, rfl, databases, ?_⟩
    · rw [Workspace.database, databases]
      exact lives
    · intro writing free
      simp [writing, indexMeets, Workspace.hasDirectory_eq, free]

end Store

end SymbolAtlas
