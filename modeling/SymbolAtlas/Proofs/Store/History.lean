import SymbolAtlas.Proofs.Store.Batch
import SymbolAtlas.Proofs.Store.Listing
import SymbolAtlas.Proofs.Store.Place

/-!
# What a history of operations leaves in a database

A ledger says what each database has been given to keep: the batches that were
saved since it was last cleared, one behind the other. It is kept from the replies
alone. A save that was refused, a clearing that was refused, and every operation
that reads, opens or closes leave it as it is.

Every step keeps the tables equal to the ledger, so after any history an open store
lists and counts what the ledger has for its database. Where the stores of a session
are opened at one file only, the ledger needs no numbers: it is one list. The main
result is `Session.getAll_performAll`.
-/

namespace SymbolAtlas

/-- What each database has been given to keep, by its number. -/
abbrev Ledger := Nat → List Symbol

namespace Ledger

/-- The ledger with the list of one number replaced. -/
def enter (ledger : Ledger) (number : Nat) (symbols : List Symbol) : Ledger :=
  fun other => if other = number then symbols else ledger other

/-- What an operation makes of what was kept, given whether it was granted: a batch is
added, a clearing leaves nothing, and everything else leaves it. -/
def entry (kept : List Symbol) : Action → Except StoreError Reply → List Symbol
  | .save symbols, .ok _ => kept ++ symbols
  | .clear, .ok _ => []
  | _, _ => kept

/-- The ledger after an operation, which is about the database of the store that has
the name. -/
def after (ledger : Ledger) (session : Session) (name : String) (action : Action) : Ledger :=
  match session.stores.get? name with
  | none => ledger
  | some store =>
    ledger.enter store.number
      (entry (ledger store.number) action (session.perform name action).2)

/-- The ledger after a history. -/
def afterAll (ledger : Ledger) (session : Session) : List (String × Action) → Ledger
  | [] => ledger
  | (name, action) :: rest =>
    (ledger.after session name action).afterAll (session.perform name action).1 rest

/-- Entering what was there changes nothing. -/
theorem enter_self (ledger : Ledger) (number : Nat) :
    ledger.enter number (ledger number) = ledger := by
  funext other
  by_cases same : other = number <;> simp [enter, same]

end Ledger

namespace Workspace

/-- The tables of a workspace hold what the ledger says, row by row. No refusal leaves
rows out silently, and every database in a file is in use. -/
structure Records (workspace : Workspace) (ledger : Ledger) : Prop where
  rows : ∀ number,
    (workspace.database number).rows.getD [] = (ledger number).map Row.ofSymbol
  skipsNone : ∀ number, (workspace.database number).SkipsNone
  known : workspace.Known

/-- What keeps the tables keeps the ledger. -/
theorem Records.keeps {before after : Workspace} {ledger : Ledger}
    (records : before.Records ledger) (kept : before.Keeps after) : after.Records ledger where
  rows number := (kept.tables number).getD_rows.trans (records.rows number)
  skipsNone number := by
    have none := records.skipsNone number
    rwa [Database.SkipsNone, ← (kept.tables number).guards] at none
  known := kept.known records.known

/-- A table that is replaced is entered in the ledger. -/
theorem Records.setDatabase {workspace : Workspace} {ledger : Ledger} {number : Nat}
    {database : Database} {symbols : List Symbol} (records : workspace.Records ledger)
    (used : number < workspace.databases.length)
    (rows : database.rows.getD [] = symbols.map Row.ofSymbol)
    (guards : database.guards = (workspace.database number).guards) :
    (workspace.setDatabase number database).Records (ledger.enter number symbols) where
  rows other := by
    by_cases same : other = number
    · subst same
      rw [database_setDatabase_self _ _ used, rows, Ledger.enter, if_pos rfl]
    · rw [database_setDatabase_ne _ _ same, records.rows, Ledger.enter, if_neg same]
  skipsNone other := by
    by_cases same : other = number
    · subst same
      have none := records.skipsNone other
      rw [database_setDatabase_self _ _ used]
      rwa [Database.SkipsNone, ← guards] at none
    · rw [database_setDatabase_ne _ _ same]
      exact records.skipsNone other
  known other inside := by
    simpa [Workspace.setDatabase] using records.known other inside

/-- The ledger has nothing for a number that is not in use. -/
theorem Records.unused {workspace : Workspace} {ledger : Ledger} {number : Nat}
    (records : workspace.Records ledger) (unused : workspace.databases.length ≤ number) :
    ledger number = [] := by
  have rows := records.rows number
  rw [database_of_unused workspace unused] at rows
  simpa using rows

/-- No table goes missing. -/
def Lasts (before after : Workspace) : Prop :=
  ∀ number, (before.database number).rows.isSome = true →
    (after.database number).rows.isSome = true

/-- What keeps the tables lets none go missing. -/
theorem Keeps.lasts {before after : Workspace} (kept : before.Keeps after) :
    before.Lasts after :=
  fun number => (kept.tables number).isSome_rows

/-- Replacing a database by one that has a table lets none go missing. -/
theorem lasts_setDatabase {workspace : Workspace} {number : Nat} {database : Database}
    (there : database.rows.isSome = true) :
    workspace.Lasts (workspace.setDatabase number database) := by
  intro other present
  by_cases same : other = number
  · subst same
    rw [database_setDatabase_self _ _ (used_of_rows present), there]
  · rw [database_setDatabase_ne _ _ same, present]

end Workspace

namespace Store

/-- A save that is granted is entered in the ledger, and one that is refused is not. -/
theorem records_save {workspace : Workspace} {ledger : Ledger}
    (records : workspace.Records ledger) (store : Store) (symbols : List Symbol) :
    workspace.Lasts (store.save workspace symbols).1 ∧
      (store.save workspace symbols).1.Records (ledger.enter store.number
        (Ledger.entry (ledger store.number) (.save symbols)
          ((store.save workspace symbols).2.map .number))) := by
  have skipsNone := records.skipsNone store.number
  have granted := save_eq_ok_iff symbols skipsNone
  rcases save_cases symbols skipsNone with saved | ⟨error, failed⟩
  · rw [saved] at granted ⊢
    rcases granted.1 rfl with rfl | ⟨-, -, -, there, -⟩
    · simpa [Except.map, Ledger.entry, Ledger.enter_self] using
        ⟨fun _ => id, records⟩
    · obtain ⟨rows, present⟩ := Option.isSome_iff_exists.1 there
      have filled : rows = (ledger store.number).map Row.ofSymbol := by
        simpa [present] using records.rows store.number
      refine ⟨Workspace.lasts_setDatabase ?_, ?_⟩
      · simp [Database.withRows, present]
      · refine records.setDatabase (Workspace.used_of_rows there) ?_ rfl
        simp [Database.withRows, present, filled, Ledger.entry, Except.map]
  · rw [failed]
    simpa [Except.map, Ledger.entry, Ledger.enter_self] using ⟨fun _ => id, records⟩

/-- A clearing that is granted is entered in the ledger, and one that is refused is
not. -/
theorem records_clear {workspace : Workspace} {ledger : Ledger}
    (records : workspace.Records ledger) (store : Store) :
    workspace.Lasts (store.clear workspace).1 ∧
      (store.clear workspace).1.Records (ledger.enter store.number
        (Ledger.entry (ledger store.number) .clear ((store.clear workspace).2.map .number))) := by
  unfold clear
  cases store.isOpen with
  | false => simpa [Except.map, Ledger.entry, Ledger.enter_self] using ⟨fun _ => id, records⟩
  | true =>
    unfold Database.clear
    cases hindered : (workspace.database store.number).hindrance? store.writer with
    | some cause =>
      simpa [Except.map, Ledger.entry, Ledger.enter_self, Workspace.setDatabase_database] using
        ⟨fun _ => id, records⟩
    | none =>
      obtain ⟨there, -⟩ := (Database.hindrance?_eq_none_iff ..).1 hindered
      obtain ⟨rows, present⟩ := Option.isSome_iff_exists.1 there
      refine ⟨Workspace.lasts_setDatabase ?_, ?_⟩
      · simp [Database.withRows, present]
      · refine records.setDatabase (Workspace.used_of_rows there) ?_ rfl
        simp [Database.withRows, present, Ledger.entry, Except.map]

end Store

namespace Session

/-- The workspace of a session holds what the ledger says, and every open store finds
its table. -/
structure Records (session : Session) (ledger : Ledger) : Prop where
  workspace : session.workspace.Records ledger
  ready : ∀ name store, session.stores.get? name = some store → store.isOpen = true →
    (session.workspace.database store.number).rows.isSome = true

/-- Letting a store go keeps everything. -/
theorem keeps_drop (session : Session) (name : String) :
    session.workspace.Keeps (session.drop name).workspace := by
  unfold drop
  split
  · exact .refl _
  · exact Store.keeps_close ..

/-- What opening a store comes to, at a path or in memory. -/
theorem opens_opening (session : Session) (path : Option String) (chunkSize : Nat) :
    Store.Opens session.workspace (session.opening path chunkSize) := by
  cases path with
  | none => exact Store.opens_inMemory _
  | some path => exact Store.opens_openAt ..

/-- Opening a store keeps everything, and a store that was opened finds its table. -/
theorem keeps_session_openAt (session : Session) (name : String) (path : Option String)
    (chunkSize : Nat) :
    session.workspace.Keeps (session.openAt name path chunkSize).1.workspace ∧
      (session.workspace.Known → ∀ store, (session.opening path chunkSize).2 = .ok store →
        ((session.openAt name path chunkSize).1.workspace.database
          store.number).rows.isSome = true) := by
  have opens := opens_opening session path chunkSize
  cases result : (session.opening path chunkSize).2 with
  | error error =>
    rw [openAt_of_error result]
    exact ⟨opens.keeps, by simp⟩
  | ok new =>
    rw [openAt_of_ok result]
    have dropped := keeps_drop
      { session with workspace := (session.opening path chunkSize).1 } name
    refine ⟨opens.keeps.trans dropped, fun known store same => ?_⟩
    obtain rfl := Except.ok.inj same
    exact dropped.lasts _ (opens.ready known _ result).2

/-- What one operation does to the tables is what the ledger has of it, and no table
goes missing. -/
theorem records_workspace_perform {session : Session} {ledger : Ledger} (name : String)
    (action : Action) (records : session.workspace.Records ledger) :
    session.workspace.Lasts (session.perform name action).1.workspace ∧
      (session.perform name action).1.workspace.Records (ledger.after session name action) := by
  have kept {after : Workspace} (keeps : session.workspace.Keeps after) :
      session.workspace.Lasts after ∧ after.Records ledger :=
    ⟨keeps.lasts, records.keeps keeps⟩
  unfold Ledger.after perform
  cases session.stores.get? name with
  | none =>
    cases action with
    | openAt path chunkSize => exact kept (keeps_session_openAt session name path chunkSize).1
    | _ => exact kept (.refl _)
  | some store =>
    rw [← Ledger.enter_self ledger store.number] at kept
    cases action with
    | save symbols => exact Store.records_save records store symbols
    | clear => exact Store.records_clear records store
    | openAt path chunkSize => exact kept (keeps_session_openAt session name path chunkSize).1
    | createTables => exact kept (Store.keeps_createTables ..)
    | close => exact kept (Store.keeps_close ..)
    | drop => exact kept (keeps_drop session name)
    | _ => exact kept (.refl _)

/-- Every operation keeps the tables equal to the ledger. -/
theorem records_perform {session : Session} {ledger : Ledger} (name : String)
    (action : Action) (records : session.Records ledger) :
    (session.perform name action).1.Records (ledger.after session name action) where
  workspace := (records_workspace_perform name action records.workspace).2
  ready other store after isOpen := by
    have lasts := (records_workspace_perform name action records.workspace).1
    rcases held_perform after with ⟨old, before, follows⟩ | ⟨path, chunkSize, rfl, -, opened⟩
    · rw [follows.number]
      exact lasts _ (records.ready other old before (follows.isOpen isOpen))
    · have found := (keeps_session_openAt session name path chunkSize).2
        records.workspace.known store opened
      unfold perform
      cases session.stores.get? name <;> exact found

/-- A whole history keeps the tables equal to the ledger. -/
theorem records_performAll {session : Session} {ledger : Ledger}
    (history : List (String × Action)) (records : session.Records ledger) :
    (session.performAll history).Records (ledger.afterAll session history) := by
  induction history generalizing session ledger with
  | nil => exact records
  | cons step rest hypothesis => exact hypothesis (records_perform step.1 step.2 records)

/-- What a run of operations keeps when they are all about one database, from what was
kept before: the batches of all saves that were granted since the last clearing that
was, whichever stores they went through. -/
def kept (before : List Symbol) (session : Session) : List (String × Action) → List Symbol
  | [] => before
  | (name, action) :: rest =>
    kept (Ledger.entry before action (session.perform name action).2)
      (session.perform name action).1 rest

/-- Where there is no store of a name, nothing is granted that a ledger would have. -/
theorem entry_of_missing {session : Session} {name : String}
    (missing : session.stores.get? name = none) (before : List Symbol) (action : Action) :
    Ledger.entry before action (session.perform name action).2 = before := by
  cases action <;> simp [perform, missing, Ledger.entry]

end Session

namespace Ledger

/-- What the ledger has for the database in the file at some names, and nothing where
there is none. -/
def inFile (ledger : Ledger) (workspace : Workspace) (names : List String) : List Symbol :=
  match workspace.entry? names with
  | some (.file (.database number)) => ledger number
  | _ => []

/-- For a file that holds a database it is what the ledger has for that. -/
theorem inFile_of_holdsAt {workspace : Workspace} {names : List String} {number : Nat}
    (held : workspace.HoldsAt names number) (ledger : Ledger) :
    ledger.inFile workspace names = ledger number := by
  rw [Workspace.HoldsAt] at held
  simp [inFile, held]

/-- For a file that holds none it is nothing. -/
theorem inFile_of_vacant {workspace : Workspace} {names : List String}
    (vacant : ∀ number, ¬ workspace.HoldsAt names number) (ledger : Ledger) :
    ledger.inFile workspace names = [] := by
  unfold inFile
  split
  · rename_i number held
    exact absurd held (vacant number)
  · rfl

/-- One operation of a session that lives at one file: what the ledger has for that
file changes as if there were no other. -/
theorem inFile_after {session : Session} {ledger : Ledger} {names : List String}
    (name : String) {action : Action} (records : session.Records ledger)
    (livesAt : session.LivesAt names)
    (opensAt : action.opensAt session.workspace names = true) :
    (ledger.after session name action).inFile (session.perform name action).1.workspace names =
      entry (ledger.inFile session.workspace names) action (session.perform name action).2 := by
  have stays := Session.stays_perform name livesAt opensAt
  by_cases held : ∃ number, session.workspace.HoldsAt names number
  · obtain ⟨number, held⟩ := held
    rw [inFile_of_holdsAt (stays.held livesAt.isHome number held), inFile_of_holdsAt held]
    unfold after
    cases before : session.stores.get? name with
    | none => exact (Session.entry_of_missing before _ action).symm
    | some store =>
      obtain rfl := (livesAt.held name store before).unique held
      simp [enter]
  · -- No store is held, so the operation can at most have made the database, and the
    -- ledger has nothing for a number that was not in use.
    have vacant : ∀ number, ¬ session.workspace.HoldsAt names number :=
      fun number there => held ⟨number, there⟩
    have missing : session.stores.get? name = none := by
      cases before : session.stores.get? name with
      | none => rfl
      | some store => exact absurd (livesAt.held name store before) (vacant store.number)
    rw [Session.entry_of_missing missing, inFile_of_vacant vacant]
    have same : ledger.after session name action = ledger := by simp [after, missing]
    rw [same]
    by_cases made : ∃ number, (session.perform name action).1.workspace.HoldsAt names number
    · obtain ⟨number, made⟩ := made
      rw [inFile_of_holdsAt made]
      rcases stays.fresh livesAt.isHome number made with there | unused
      · exact absurd there (vacant number)
      · exact records.workspace.unused unused
    · exact inFile_of_vacant (fun number there => made ⟨number, there⟩) ledger

/-- A whole history of a session that lives at one file. -/
theorem inFile_afterAll {session : Session} {ledger : Ledger} {names : List String}
    (history : List (String × Action)) (records : session.Records ledger)
    (livesAt : session.LivesAt names) (only : session.opensOnlyAt names history = true) :
    (ledger.afterAll session history).inFile (session.performAll history).workspace names =
      session.kept (ledger.inFile session.workspace names) history := by
  induction history generalizing session ledger with
  | nil => rfl
  | cons step rest hypothesis =>
    obtain ⟨name, action⟩ := step
    simp only [Session.opensOnlyAt, Bool.and_eq_true] at only
    have first := inFile_after name records livesAt only.1
    have others := hypothesis (Session.records_perform name action records)
      (Session.livesAt_perform name livesAt only.1) only.2
    rw [first] at others
    exact others

end Ledger

namespace Session

/-- After any history of operations, interleaved in any way over any number of stores,
an open store lists exactly what the ledger has for its database, sorted into source
order, of the chosen kinds, unless it is asked for more kinds than a statement takes
values, which it refuses; and its count is that of the whole. Where all stores are
opened at one file, the ledger has for each of them the batches that were saved since
the last clearing, through whichever store. -/
theorem getAll_performAll (start : Session) (ledger : Ledger)
    (history : List (String × Action)) (records : start.Records ledger) :
    (∀ name store, (start.performAll history).stores.get? name = some store →
      store.isOpen = true →
      (∀ kinds, ((start.performAll history).perform name (.getAll kinds)).2 =
        if kinds.length ≤ valueLimit then
          .ok (.symbols (Symbol.selected kinds (ledger.afterAll start history store.number)))
        else .error (excessKinds kinds)) ∧
      ((start.performAll history).perform name .count).2 =
        .ok (.number (ledger.afterAll start history store.number).length)) ∧
    ∀ names, start.LivesAt names → start.opensOnlyAt names history = true →
      ∀ name store, (start.performAll history).stores.get? name = some store →
        ledger.afterAll start history store.number =
          start.kept (ledger.inFile start.workspace names) history := by
  constructor
  · intro name store held isOpen
    have after := records_performAll history records
    obtain ⟨rows, present⟩ := Option.isSome_iff_exists.1 (after.ready name store held isOpen)
    have filled := after.workspace.rows store.number
    rw [present, Option.getD_some] at filled
    rw [filled] at present
    refine ⟨fun kinds => ?_, ?_⟩
    · split
      · rename_i few
        simp [perform, held, performOn, Store.getAll_of_rows isOpen present few, Except.map]
      · rename_i many
        simp [perform, held, performOn, Store.getAll_of_excess isOpen (Nat.not_le.1 many),
          Except.map]
    · simp [perform, held, performOn, Store.count_of_rows isOpen present, Except.map]
  · intro names livesAt only name store held
    have there := (livesAt_performAll history livesAt only).held name store held
    rw [← Ledger.inFile_of_holdsAt there (ledger.afterAll start history)]
    exact Ledger.inFile_afterAll history records livesAt only

/-- The session in which nothing has happened goes with the empty ledger. -/
theorem records_empty : ({} : Session).Records fun _ => [] where
  workspace :=
    { rows := by simp [Workspace.database]
      skipsNone := by simp [Workspace.database, Database.SkipsNone]
      known := by simp [Workspace.Known, contentsAmong] }
  ready := by simp [Dict.get?]

/-- The session in which nothing has happened lives at any file. -/
theorem livesAt_empty (names : List String) : ({} : Session).LivesAt names where
  isHome content found := by
    have inside := mem_contentsAmong_of_entryAt found (List.mem_singleton_self content)
    simp [contentsAmong] at inside
  held := by simp [Dict.get?]

/-- Two stores on one file, opened by different paths: a batch from before a clearing
and a batch with an unsound symbol are missing, and the batches of the two stores
follow each other, although one of them is closed by then. -/
theorem getAll_performAll_two_stores :
    let symbol (name path : String) (line : Int) : Symbol :=
      { name := name, kind := .field, filePath := path, line := line }
    let history : List (String × Action) :=
      [ ("main", .openAt (some "a.db") 1000)
      , ("main", .save [symbol "gone" "a.py" 1])
      , ("other", .openAt (some "./a.db") 2)
      , ("other", .clear)
      , ("main", .save [symbol "late" "b.py" 1, symbol "early" "a.py" 9])
      , ("other", .save [symbol "fine" "b.py" 1, symbol "" "b.py" 2])
      , ("main", .close)
      , ("other", .save [{ symbol "last" "a.py" 1 with kind := .method }]) ]
    let session := ({} : Session).performAll history
    (session.perform "other" (.getAll [.field, .field])).2 =
        .ok (.symbols [symbol "early" "a.py" 9, symbol "late" "b.py" 1]) ∧
      (session.perform "other" .count).2 = .ok (.number 3) := by
  intro symbol history session
  obtain ⟨listed, shared⟩ := getAll_performAll {} _ history records_empty
  have there : (session.stores.get? "other").any (·.isOpen) = true := by decide +kernel
  obtain ⟨store, held, isOpen⟩ := (Option.any_eq_true ..).1 there
  have kept : ({} : Session).kept [] history =
      [symbol "late" "b.py" 1, symbol "early" "a.py" 9,
        { symbol "last" "a.py" 1 with kind := .method }] := by
    decide +kernel
  have sorted : Symbol.selected [.field, .field]
      [symbol "late" "b.py" 1, symbol "early" "a.py" 9,
        { symbol "last" "a.py" 1 with kind := .method }] =
      [symbol "early" "a.py" 9, symbol "late" "b.py" 1] := by
    have later : Symbol.sourceOrder (symbol "late" "b.py" 1) (symbol "early" "a.py" 9) = false := by
      decide +kernel
    change [symbol "late" "b.py" 1, symbol "early" "a.py" 9].mergeSort Symbol.sourceOrder = _
    simp [List.mergeSort, List.MergeSort.Internal.splitInTwo, later]
  have same := shared ["a.db"] (livesAt_empty _) (by decide +kernel) "other" store held
  obtain ⟨list, number⟩ := listed "other" store held isOpen
  have nothing : Ledger.inFile (fun _ => []) ({} : Session).workspace ["a.db"] = [] := rfl
  rw [same, nothing, kept] at list number
  refine ⟨?_, number⟩
  rw [list, if_pos (by decide), sorted]

/-- A kind given once too often: the store that lists the symbol of this kind refuses to
when the kind is repeated 32767 times. -/
theorem getAll_refuses_repeated_kind :
    let symbol : Symbol := { name := "x", kind := .field, filePath := "a.py", line := 1 }
    let session := ({} : Session).performAll
      [("main", .openAt (some "a.db") 1000), ("main", .save [symbol])]
    let kinds := List.replicate 32767 Kind.field
    (session.perform "main" (.getAll [.field])).2 = .ok (.symbols [symbol]) ∧
      (session.perform "main" (.getAll kinds)).2 = .error (excessKinds kinds) := by
  intro symbol session kinds
  refine ⟨by decide +kernel, ?_⟩
  have there : (session.stores.get? "main").any (·.isOpen) = true := by decide +kernel
  obtain ⟨store, held, isOpen⟩ := (Option.any_eq_true ..).1 there
  have many : valueLimit < kinds.length := by
    rw [List.length_replicate]
    decide
  simp [perform, held, performOn, Store.getAll_of_excess isOpen many, Except.map]

end Session

end SymbolAtlas
