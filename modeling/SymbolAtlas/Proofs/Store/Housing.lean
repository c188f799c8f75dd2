import SymbolAtlas.Proofs.Store.Batch
import SymbolAtlas.Proofs.Store.Site

/-!
# Where a database lives

`Workspace.Houses` describes a file that holds a database with known rows, which refuses
nothing and which nothing keeps from being written. A database that is made where there
was none is such a database without rows; it stays one while rows are added behind those
it has, when its store is closed, and when it is opened again by the same path. For the
last, the path has to lead to the same file again, and it does: the directory of the
database is there by then, and its full name has not changed.

Making a database takes away a link in the place of its journal or of its log, and fails
where another link stands in the place of one of its files. So what is there afterwards
is compared with the workspace without such links.
-/

namespace SymbolAtlas

namespace Workspace

variable {home : List String} {origin workspace after : Workspace} {number : Nat}
  {rows : List Row}

/-- A workspace without links in the places of the files of a database. -/
def withoutLinks (workspace : Workspace) (home : List String) : Workspace :=
  workspace.withFiles (workspace.files.unlink (databasePlaces home))

/-- Only the links in these places are gone. -/
theorem refiles_withoutLinks (nonempty : home ≠ [])
    (distinct : isDistinctAmong workspace.files.entries = true) :
    workspace.files.Refiles (databasePlaces home) (workspace.withoutLinks home).files ∧
      isDistinctAmong (workspace.withoutLinks home).files.entries = true ∧
      (workspace.withoutLinks home).files.Unlinked (databasePlaces home) := by
  apply Files.refiles_unlink distinct
  intro place listed
  obtain ⟨ending, -, rfl⟩ := List.mem_map.1 listed
  exact besideNames_ne_nil nonempty ending

/-- What has become of a workspace, if there are no such links in it, could also have become of
the workspace without them. -/
theorem Site.withoutLinks (site : Site home origin workspace)
    (distinct : isDistinctAmong origin.files.entries = true)
    (unlinked : workspace.files.Unlinked (databasePlaces home)) :
    Site home (origin.withoutLinks home) workspace where
  nonempty := site.nonempty
  room := site.room
  closed := site.closed
  distinct := site.distinct
  refiles := (refiles_withoutLinks site.nonempty distinct).1.across site.refiles unlinked
  locks := site.locks

/-- A file that holds a database with these rows, which refuses nothing. -/
structure Houses (home : List String) (origin : Workspace) (number : Nat) (rows : List Row)
    (workspace : Workspace) : Prop where
  site : Site home origin workspace
  unlinked : origin.files.Unlinked (databasePlaces home)
  isHome : workspace.IsHome home
  held : workspace.HoldsAt home number
  /-- Nothing keeps its files from being written. -/
  free : ∀ place ∈ databasePlaces home, workspace.files.sight place ≠ some .directory
  rows : (workspace.database number).rows = some rows
  guards : (workspace.database number).guards = []
  unlocked : (workspace.database number).locked = false

namespace Houses

/-- What lets the file stay and leaves the rest alone keeps the database housed. -/
theorem later (houses : Houses home origin number rows workspace)
    (stays : Stays home workspace after) (site : Site home origin after) {others : List Row}
    (table : (after.database number).rows = some others)
    (guards : (after.database number).guards = []) :
    Houses home origin number others after where
  site := site
  unlinked := houses.unlinked
  isHome := stays.isHome houses.isHome
  held := stays.held houses.isHome number houses.held
  free place listed := houses.site.closed_later site (houses.free place listed)
  rows := table
  guards := guards
  unlocked := by rw [site.locks, ← houses.site.locks, houses.unlocked]

/-- What also keeps the tables keeps the rows. -/
theorem kept (houses : Houses home origin number rows workspace)
    (stays : Stays home workspace after) (site : Site home origin after)
    (keeps : workspace.Keeps after) : Houses home origin number rows after := by
  refine houses.later stays site ?_ ?_
  · rcases (keeps.tables number).rows with same | ⟨missing, -⟩
    · rw [same, houses.rows]
    · rw [houses.rows] at missing
      simp at missing
  · rw [(keeps.tables number).guards, houses.guards]

/-- Rows are added behind those that are there. -/
theorem appendRows (houses : Houses home origin number rows workspace) (added : List Row) :
    Houses home origin number (rows ++ added) (workspace.appendRows number added) := by
  have used : number < workspace.databases.length := used_of_rows (by simp [houses.rows])
  refine houses.later ?_ ?_ ?_ ?_
  · exact stays_setDatabase home rfl
  · exact houses.site.setDatabase number _ rfl
  · rw [rows_appendRows, houses.rows]
    rfl
  · rw [Workspace.appendRows, database_setDatabase_self _ _ used]
    exact houses.guards

/-- The database has its home there. -/
theorem lives (houses : Houses home origin number rows workspace) :
    (workspace.database number).home = some home :=
  houses.isHome.home houses.held

/-- Closing a store on the database keeps it housed. -/
theorem close {store : Store} (houses : Houses home origin store.number rows workspace) :
    Houses home origin store.number rows (store.close workspace).1 := by
  refine houses.kept (Store.stays_close houses.site.nonempty houses.held) ?_
    (Store.keeps_close workspace store)
  unfold Store.close
  split
  · exact houses.site.detach houses.lives store.writable
  · exact houses.site

end Houses

end Workspace

namespace Store

variable {home : List String} {origin workspace : Workspace} {number chunkSize : Nat}
  {path : String} {access : Access} {store : Store} {rows : List Row}

/-- A store that may write to a housed database. -/
structure Serves (home : List String) (origin : Workspace) (rows : List Row) (store : Store)
    (opened : Workspace) : Prop where
  houses : Workspace.Houses home origin store.number rows opened
  isOpen : store.isOpen = true
  writable : store.writable = true

/-- The site of a database that is to be made: nothing is there yet. -/
theorem site_of_vacant (nonempty : home ≠ []) (vacant : workspace.entry? home = none)
    (room : workspace.hasDirectory home.dropLast = true)
    (distinct : isDistinctAmong workspace.files.entries = true) :
    Workspace.Site home workspace workspace where
  nonempty := nonempty
  room := by rwa [Workspace.hasDirectory_eq, decide_eq_true_iff] at room
  closed := Workspace.closed_of_vacant vacant
  distinct := distinct
  refiles := .refl _ _
  locks _ := rfl

/-- A store opened where nothing was serves a database without rows. Only an address that
allows to make the file can open it. -/
theorem serves_openFile_vacant (nonempty : home ≠ []) (vacant : workspace.entry? home = none)
    (distinct : isDistinctAmong workspace.files.entries = true)
    (opened : (openFile workspace path chunkSize access (some home)).2 = .ok store) :
    Serves home (workspace.withoutLinks home) [] store
        (openFile workspace path chunkSize access (some home)).1 ∧
      access = .create := by
  have finds := finds_openFile nonempty workspace path chunkSize access
  have opens := opens_openFile workspace path chunkSize access (some home)
  have unhoused : workspace.IsHome home := by
    intro content there
    rw [vacant] at there
    simp at there
  have held := finds.held unhoused store opened
  -- The number of the database is new, so nothing is known of it but what was made.
  have unused : workspace.databases.length ≤ store.number := by
    rcases finds.stays.fresh unhoused store.number held with there | unused
    · rw [Workspace.HoldsAt, vacant] at there
      simp at there
    · exact unused
  have tables := opens.keeps.tables store.number
  rw [Workspace.database_of_unused workspace unused] at tables
  have whole : openFile workspace path chunkSize access (some home) =
      if access = .create && workspace.hasDirectory home.dropLast then
        openNew (workspace.bind home (some (.file (.text "" none)))) path chunkSize access home
      else (workspace, .error (.opening (cannotOpen ++ ": " ++ path))) := by
    simp only [openFile, vacant]
  by_cases makes : (access = .create && workspace.hasDirectory home.dropLast) = true
  · rw [if_pos makes] at whole
    simp only [Bool.and_eq_true, decide_eq_true_eq] at makes
    have site := (site_of_vacant nonempty vacant makes.2 distinct).bind
      (mem_databasePlaces nonempty) (Workspace.closed_of_vacant vacant)
      (.inr ⟨.text "" none, rfl⟩)
    obtain ⟨made, prepared, siteSoFar, lives, onNew⟩ :=
      prepares_openNew site path chunkSize access store (whole ▸ opened)
    have siteMade := siteSoFar.withoutLinks distinct onNew.unlinked
    have unlinked := (Workspace.refiles_withoutLinks nonempty distinct).2.2
    rw [← whole] at prepared
    have ready := prepared ▸ opened
    have siteAfter := site_prepare siteMade lives ready
    obtain ⟨-, present⟩ := prepare_ready onNew.used ready
    rw [← prepared] at siteAfter present
    refine ⟨⟨⟨siteAfter, unlinked, finds.stays.isHome unhoused, held, ?_, ?_, tables.guards, ?_⟩,
      onNew.isOpen, onNew.writable⟩, makes.1⟩
    · exact fun place listed => siteMade.closed_later siteAfter (onNew.free place listed)
    · rcases tables.rows with missing | ⟨-, made⟩
      · rw [missing] at present
        simp at present
      · exact made
    · have made : (workspace.withoutLinks home).databases.length ≤ store.number := unused
      rw [siteAfter.locks, Workspace.database_of_unused _ made]
  · rw [whole, if_neg makes] at opened
    simp at opened

/-- A store opened on a housed database serves it with the rows that it has. -/
theorem serves_openFile_housed (houses : Workspace.Houses home origin number rows workspace)
    (writing : access ≠ .readOnly)
    (opened : (openFile workspace path chunkSize access (some home)).2 = .ok store) :
    Serves home origin rows store (openFile workspace path chunkSize access (some home)).1 ∧
      store.number = number := by
  have finds := finds_openFile houses.site.nonempty workspace path chunkSize access
  have opens := opens_openFile workspace path chunkSize access (some home)
  have whole : openFile workspace path chunkSize access (some home) =
      openKnown workspace path chunkSize access home number := by
    have there : workspace.entry? home = some (.file (.database number)) := houses.held
    simp [openFile, there, Workspace.numberIn?, Content.isBrief]
  obtain ⟨made, prepared, siteMade, lives, onKnown⟩ :=
    prepares_openKnown houses.site houses.lives path chunkSize access store (whole ▸ opened)
  rw [← whole] at prepared
  have siteAfter := site_prepare siteMade lives (prepared ▸ opened)
  rw [← prepared] at siteAfter
  have after := houses.kept finds.stays siteAfter opens.keeps
  refine ⟨⟨onKnown.number ▸ after, onKnown.isOpen, onKnown.writable writing ?_⟩, onKnown.number⟩
  exact houses.site.closed_later siteMade (houses.free _
    (besideNames_mem_databasePlaces home (by decide : Side.index.ending ∈ databaseEndings)))

/-- A path leads a store that may write to the database at some names, and its directory need
not be made, in a workspace and in all that differ from it in the files of the database. -/
structure FoundBy (database file : String) (access : Access) (home : List String)
    (origin : Workspace) : Prop where
  plain : nullPosition? database = none
  address : Address.read database = .ok { holder := .file file, access := access }
  writing : access ≠ .readOnly
  named : origin.files.fullName? file = some home
  parent : ∀ later, origin.files.Refiles (databasePlaces home) later →
    later.makeParent database = (later, .ok ())

/-- Making the directory of a path puts nothing but directories where nothing was. -/
theorem entry?_makeParent_of_unseen (path : String)
    (unseen : workspace.files.sight home = none) :
    Workspace.entry? (workspace.withFiles (workspace.files.makeParent path).1) home = none ∨
      ∃ inner, Workspace.entry? (workspace.withFiles (workspace.files.makeParent path).1) home =
        some (.directory inner) := by
  cases there : Workspace.entry? (workspace.withFiles (workspace.files.makeParent path).1) home with
  | none => exact .inl rfl
  | some entry =>
    cases entry with
    | directory inner => exact .inr ⟨inner, rfl⟩
    | file content =>
      have before := Files.entryAt_makeParent_eq_file_iff.1 there
      rw [sightAt_eq_none.1 unseen] at before
      simp at before
    | link target =>
      have before := (Files.sight_makeParent workspace.files path).2 home target
        (sightAt_eq_link.2 there)
      rw [unseen] at before
      simp at before

/-- A store opened by the path of a database that is not there yet serves one without rows. The
path goes on to lead there, if neither it nor its directory hangs on a link that is taken
away. -/
theorem serves_openAt_vacant {database : String}
    (named : workspace.databaseNames? database = some home)
    (unseen : workspace.files.sight home = none)
    (distinct : isDistinctAmong workspace.files.entries = true)
    (opened : (openAt workspace database chunkSize).2 = .ok store) :
    let made := (workspace.withFiles (workspace.files.makeParent database).1).withoutLinks home
    made.files.makeParent database = (made.files, .ok ()) →
    made.databaseNames? database = some home →
    Serves home made [] store (openAt workspace database chunkSize).1 ∧
      ∃ file access, FoundBy database file access home made := by
  intro made again still
  obtain ⟨parent, plain, ⟨holder, access⟩, address⟩ := openAt_ok opened
  have whole : openAt workspace database chunkSize = _ :=
    openAt_eq_openAddress parent plain address
  cases holder with
  | alone => simp [Workspace.databaseNames?, address] at named
  | shared name => simp [Workspace.databaseNames?, address] at named
  | file file =>
    simp only [Workspace.databaseNames?, address] at named still
    rw [again] at still
    have nonempty : home ≠ [] := by
      rintro rfl
      simp [Files.fullName?, Option.filter_eq_some_iff] at named
    have onward : openAt workspace database chunkSize =
        openFile (workspace.withFiles (workspace.files.makeParent database).1) database chunkSize
          access (some home) := by
      rw [whole, openAddress]
      dsimp only [Workspace.withFiles]
      rw [named]
    rw [onward] at opened ⊢
    have distinctMade := Files.isDistinctAmong_makeParent distinct database
    rcases entry?_makeParent_of_unseen database unseen with vacant | ⟨inner, blocked⟩
    · obtain ⟨serves, rfl⟩ := serves_openFile_vacant nonempty vacant distinctMade opened
      refine ⟨serves, file, .create, plain, address, by simp, still, ?_⟩
      intro later refiles
      obtain ⟨-, distinctBare, unlinked⟩ :=
        @Workspace.refiles_withoutLinks home (workspace.withFiles _) nonempty distinctMade
      apply Files.makeParent_again distinctBare
      · rw [again]
      · rw [again]
        exact unlinked
      · rw [again]
        exact refiles
    · simp [openFile, blocked] at opened

/-- A store opened again by that path serves the database with the rows that it has by then. -/
theorem serves_openAt_again {database file : String}
    (found : FoundBy database file access home origin)
    (houses : Workspace.Houses home origin number rows workspace)
    (opened : (openAt workspace database chunkSize).2 = .ok store) :
    Serves home origin rows store (openAt workspace database chunkSize).1 ∧
      store.number = number := by
  have parent := found.parent workspace.files houses.site.refiles
  have whole : openAt workspace database chunkSize = _ :=
    openAt_eq_openAddress (congrArg Prod.snd parent) found.plain found.address
  rw [parent] at whole
  have onward : openAt workspace database chunkSize =
      openFile workspace database chunkSize access (workspace.files.fullName? file) := whole
  cases again : workspace.files.fullName? file with
  | none =>
    rw [onward, again] at opened
    simp [openFile] at opened
  | some other =>
    obtain rfl := houses.site.refiles.fullName?_unique houses.unlinked found.named again
    rw [onward, again] at opened ⊢
    exact serves_openFile_housed houses found.writing opened

end Store

end SymbolAtlas
