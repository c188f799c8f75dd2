import Mathlib.Control.Monad.Basic
import SymbolAtlas.Proofs.Symbol.Checks
import SymbolAtlas.Proofs.Workspace
import SymbolAtlas.Store.Session

/-!
# Batches are saved whole or not at all

A batch goes to the database row by row inside one transaction. The engine may
refuse any row, and some refusals end the transaction on the spot. The laws here
reduce a save to one question asked of every row, `Database.refusal?`: where no
row is refused the table grows by the whole batch, and where one is, the first
refusal is reported and the workspace is the one before.

How the batch is cut into chunks never shows: a run of insertions over chunks is
the run over their rows, whatever the engine answers. The main result is
`Store.save_whole_or_nothing`.
-/

namespace SymbolAtlas

/-- Cutting a list into pieces loses and moves nothing, also for a size of zero. -/
theorem flatten_chunked {α : Type} (size : Nat) (items : List α) :
    (chunked size items).flatten = items := by
  fun_induction chunked size items with
  | case1 => rfl
  | case2 item rest hypothesis =>
    rw [List.flatten_cons, hypothesis, List.cons_append, List.take_append_drop]

namespace Connection

/-- Inserting two lists of rows is inserting the second where the first was left,
unless the first has failed already. -/
theorem insertRows_append (engine : Engine) (connection : Connection) (first second : List Row) :
    connection.insertRows engine (first ++ second) =
      match connection.insertRows engine first with
      | (some cause, left) => (some cause, left)
      | (none, left) => left.insertRows engine second := by
  induction first generalizing connection with
  | nil => rfl
  | cons row rest hypothesis =>
    simp only [List.cons_append, insertRows]
    cases issued : connection.issue engine (.insert row) with
    | mk outcome left =>
      cases outcome with
      | failed cause ended => rfl
      | done => exact hypothesis left
      | skipped => exact hypothesis left

/-- Chunks are inserted as their rows are, so the engine is asked the same calls in
the same order however a batch is cut. -/
theorem insertChunks_eq_insertRows (engine : Engine) (connection : Connection)
    (chunks : List (List Row)) :
    connection.insertChunks engine chunks = connection.insertRows engine chunks.flatten := by
  induction chunks generalizing connection with
  | nil => rfl
  | cons chunk rest hypothesis =>
    rw [List.flatten_cons, insertRows_append, insertChunks]
    cases inserted : connection.insertRows engine chunk with
    | mk failure left =>
      cases failure with
      | some cause => rfl
      | none => exact hypothesis left

/-- The size of the chunks decides nothing about a write, for any engine. -/
theorem write_chunked (engine : Engine) (connection : Connection) (size : Nat)
    (rows : List Row) :
    connection.write engine (chunked size rows) = connection.write engine [rows] := by
  simp only [write, insertChunks_eq_insertRows, flatten_chunked, List.flatten_singleton]

end Connection

namespace Database

/-- Why a row cannot be inserted: what keeps the writer from the table comes first,
then the latest refusal of the row's name. A refusal that leaves the row out
silently is no reason. -/
def refusal? (database : Database) (writer : Writer) (row : Row) : Option String :=
  match database.hindrance? writer with
  | some cause => some cause
  | none =>
    match database.guards.find? fun guard => guard.name == row.name with
    | some ⟨_, .skips, _⟩ => none
    | some guard => some guard.cause
    | none => none

/-- No refusal leaves rows out silently. -/
def SkipsNone (database : Database) : Prop :=
  ∀ guard ∈ database.guards, guard.refusal ≠ .skips

instance (database : Database) : Decidable database.SkipsNone :=
  inferInstanceAs (Decidable (∀ guard ∈ database.guards, guard.refusal ≠ .skips))

/-- A row without a refusal is inserted. -/
theorem engine_insert_of_accepted {database : Database} {writer : Writer} {row : Row}
    (skipsNone : database.SkipsNone) (accepted : database.refusal? writer row = none)
    (count : Nat) : database.engine writer count (.insert row) = .done := by
  unfold refusal? at accepted
  cases hindered : database.hindrance? writer with
  | some cause => simp [hindered] at accepted
  | none =>
    cases found : database.guards.find? fun guard => guard.name == row.name with
    | none => simp [engine, hindered, found]
    | some guard =>
      have unskipped := skipsNone guard (List.mem_of_find?_eq_some found)
      obtain ⟨name, refusal, cause⟩ := guard
      cases refusal with
      | skips => exact absurd rfl unskipped
      | fails => simp [hindered, found] at accepted
      | failsAndEnds => simp [hindered, found] at accepted

/-- A row with a refusal fails with its cause; whether that ends the transaction
depends on the refusal. -/
theorem engine_insert_of_refused {database : Database} {writer : Writer} {row : Row}
    {cause : String} (refused : database.refusal? writer row = some cause) (count : Nat) :
    ∃ ended, database.engine writer count (.insert row) = .failed cause ended := by
  unfold refusal? at refused
  cases hindered : database.hindrance? writer with
  | some hindrance =>
    have same : hindrance = cause := by simpa [hindered] using refused
    exact ⟨false, by simp [engine, hindered, same]⟩
  | none =>
    cases found : database.guards.find? fun guard => guard.name == row.name with
    | none => simp [hindered, found] at refused
    | some guard =>
      obtain ⟨name, refusal, reason⟩ := guard
      cases refusal with
      | skips => simp [hindered, found] at refused
      | fails =>
        have same : reason = cause := by simpa [hindered, found] using refused
        exact ⟨false, by simp [engine, hindered, found, same]⟩
      | failsAndEnds =>
        have same : reason = cause := by simpa [hindered, found] using refused
        exact ⟨true, by simp [engine, hindered, found, same]⟩

/-- Rows none of which is refused all join the open transaction, in their order. -/
theorem insertRows_of_accepted {database : Database} {writer : Writer} {rows held : List Row}
    (connection : Connection) (skipsNone : database.SkipsNone)
    (accepted : rows.findSome? (database.refusal? writer) = none)
    (begun : connection.pending = some held) :
    ∃ left, connection.insertRows (database.engine writer) rows = (none, left) ∧
      left.committed = connection.committed ∧ left.pending = some (held ++ rows) := by
  induction rows generalizing connection held with
  | nil => exact ⟨connection, rfl, rfl, by simpa using begun⟩
  | cons row rest hypothesis =>
    simp only [List.findSome?_eq_none_iff, List.forall_mem_cons] at accepted hypothesis
    obtain ⟨rowAccepted, restAccepted⟩ := accepted
    have outcome := engine_insert_of_accepted skipsNone rowAccepted connection.log.length
    have joined : (connection.issue (database.engine writer) (.insert row)).2.pending =
        some (held ++ [row]) := by
      simp [Connection.issue, Connection.after, outcome, begun]
    obtain ⟨left, inserted, committed, pending⟩ := hypothesis _ restAccepted joined
    refine ⟨left, ?_, ?_, ?_⟩
    · simpa [Connection.insertRows, Connection.issue, outcome] using inserted
    · simpa [Connection.issue, Connection.after, outcome] using committed
    · simpa using pending

/-- The first refused row ends the insertions with its cause. Nothing is committed,
whatever became of the transaction. -/
theorem insertRows_of_refused {database : Database} {writer : Writer} {rows : List Row}
    {cause : String} (connection : Connection) (skipsNone : database.SkipsNone)
    (refused : rows.findSome? (database.refusal? writer) = some cause) :
    ∃ left, connection.insertRows (database.engine writer) rows = (some cause, left) ∧
      left.committed = connection.committed := by
  induction rows generalizing connection with
  | nil => simp at refused
  | cons row rest hypothesis =>
    cases asked : database.refusal? writer row with
    | some reason =>
      have same : reason = cause := by simpa [asked] using refused
      obtain ⟨ended, outcome⟩ := engine_insert_of_refused asked connection.log.length
      cases ended <;>
        simp [Connection.insertRows, Connection.issue, Connection.after, outcome, same]
    | none =>
      have outcome := engine_insert_of_accepted skipsNone asked connection.log.length
      obtain ⟨left, inserted, committed⟩ :=
        hypothesis (connection.issue (database.engine writer) (.insert row)).2
          (by simpa [asked] using refused)
      refine ⟨left, ?_, ?_⟩
      · simpa [Connection.insertRows, Connection.issue, outcome] using inserted
      · simpa [Connection.issue, Connection.after, outcome] using committed

/-- After a failed insertion nothing is left to take back: a rollback is never
refused here, and the committed rows are those before. -/
theorem abandon_engine (database : Database) (writer : Writer) (connection : Connection)
    (cause : String) :
    ∃ left, connection.abandon (database.engine writer) cause = (.error ⟨cause, none⟩, left) ∧
      left.committed = connection.committed := by
  cases pending : connection.pending <;>
    simp [Connection.abandon, Connection.takeBack, Connection.release, Connection.issue,
      Connection.after, engine, pending]

/-- A write through the engine of a database commits every row, or reports the first
refusal and commits none. -/
theorem write_engine {database : Database} (writer : Writer) (connection : Connection)
    (rows : List Row) (skipsNone : database.SkipsNone) :
    ∃ left, left.committed = connection.committed ++
        (if rows.findSome? (database.refusal? writer) = none then rows else []) ∧
      connection.write (database.engine writer) [rows] =
        ((rows.findSome? (database.refusal? writer)).elim (.ok ())
          fun cause => .error ⟨cause, none⟩, left) := by
  obtain ⟨begun, started, kept, empty⟩ :
      ∃ begun, connection.issue (database.engine writer) .start = (.done, begun) ∧
        begun.committed = connection.committed ∧ begun.pending = some [] :=
    ⟨_, rfl, rfl, rfl⟩
  cases refused : rows.findSome? (database.refusal? writer) with
  | some cause =>
    obtain ⟨left, inserted, committed⟩ :=
      insertRows_of_refused begun skipsNone refused
    obtain ⟨last, abandoned, final⟩ := abandon_engine database writer left cause
    refine ⟨last, ?_, ?_⟩
    · rw [final, committed, kept]
      simp
    · simp only [Connection.write, started, Connection.insertChunks_eq_insertRows,
        List.flatten_singleton, inserted, abandoned, Option.elim]
  | none =>
    obtain ⟨left, inserted, committed, pending⟩ :=
      insertRows_of_accepted begun skipsNone refused empty
    obtain ⟨last, finished, all, idle⟩ :
        ∃ last, left.issue (database.engine writer) .commit = (.done, last) ∧
          last.committed = left.committed ++ left.pending.getD [] ∧ last.pending = none :=
      ⟨_, rfl, rfl, rfl⟩
    refine ⟨last, ?_, ?_⟩
    · rw [all, committed, kept, pending]
      simp
    · simp [Connection.write, started, Connection.insertChunks_eq_insertRows, inserted,
        finished, Connection.release, idle]

/-- A database given its own rows is the same database. -/
theorem withRows_self (database : Database) :
    database.withRows (database.rows.getD []) = database := by
  cases present : database.rows <;> simp [withRows, present] <;> cases database <;> simp_all

/-- The rows that a table holds have no say in what is refused. -/
theorem refusal?_withRows (database : Database) (writer : Writer) (rows : List Row) :
    (database.withRows rows).refusal? writer = database.refusal? writer := by
  funext row
  simp [refusal?, hindrance?, lockHeld, withRows]

/-- Rows added in two changes leave the same database as all of them in one. -/
theorem withRows_append_append (database : Database) (first second : List Row) :
    (database.withRows (database.rows.getD [] ++ first)).withRows
        ((database.withRows (database.rows.getD [] ++ first)).rows.getD [] ++ second) =
      database.withRows (database.rows.getD [] ++ (first ++ second)) := by
  cases present : database.rows with
  | none => simp [withRows, present, Bool.or_assoc]
  | some rows => simp [withRows, present, Bool.or_assoc]

/-- What a write does to a database, without a word on chunks: it reports the first
refusal and changes nothing, or adds every row. -/
theorem insert_eq {database : Database} (writer : Writer) (chunkSize : Nat) (rows : List Row)
    (skipsNone : database.SkipsNone) :
    database.insert writer chunkSize rows =
      match rows.findSome? (database.refusal? writer) with
      | some cause => (database, .error (.write cause none))
      | none => (database.withRows (database.rows.getD [] ++ rows), .ok ()) := by
  obtain ⟨left, committed, written⟩ :=
    write_engine writer (Connection.idle (database.rows.getD [])) rows skipsNone
  unfold insert
  rw [Connection.write_chunked, written]
  cases refused : rows.findSome? (database.refusal? writer) with
  | some cause => simp [committed, refused, Connection.idle, withRows_self]
  | none => simp [committed, refused, Connection.idle]

/-- Nothing keeps a writer from the table just when the table is there, the writer may
write and no one else holds the lock. -/
theorem hindrance?_eq_none_iff (database : Database) (writer : Writer) :
    database.hindrance? writer = none ↔
      database.rows.isSome = true ∧ writer.writable = true ∧ database.locked = false := by
  unfold hindrance?
  cases database.rows <;> cases writer.recalls <;> cases writer.writable <;>
    cases database.locked <;> simp

/-- A row can be inserted just when the writer reaches the table and rows of its name
are not refused. -/
theorem refusal?_eq_none_iff {database : Database} (writer : Writer) (row : Row)
    (skipsNone : database.SkipsNone) :
    database.refusal? writer row = none ↔
      database.hindrance? writer = none ∧ ∀ guard ∈ database.guards, guard.name ≠ row.name := by
  unfold refusal?
  cases hindered : database.hindrance? writer with
  | some cause => simp
  | none =>
    cases found : database.guards.find? fun guard => guard.name == row.name with
    | none => simpa using found
    | some guard =>
      have unskipped := skipsNone guard (List.mem_of_find?_eq_some found)
      have named : guard.name = row.name := by simpa using List.find?_some found
      have member := List.mem_of_find?_eq_some found
      obtain ⟨name, refusal, cause⟩ := guard
      cases refusal with
      | skips => exact absurd rfl unskipped
      | fails => simpa using ⟨_, member, named⟩
      | failsAndEnds => simpa using ⟨_, member, named⟩

end Database

namespace Workspace

/-- The workspace with rows added behind those of the database of a number. -/
def appendRows (workspace : Workspace) (number : Nat) (rows : List Row) : Workspace :=
  workspace.setDatabase number
    ((workspace.database number).withRows ((workspace.database number).rows.getD [] ++ rows))

/-- Adding no rows changes nothing. -/
@[simp] theorem appendRows_nil (workspace : Workspace) (number : Nat) :
    workspace.appendRows number [] = workspace := by
  rw [appendRows, List.append_nil, Database.withRows_self, setDatabase_database]

/-- A number that is not in use takes no rows. -/
theorem appendRows_of_unused (workspace : Workspace) {number : Nat} (rows : List Row)
    (unused : workspace.databases.length ≤ number) :
    workspace.appendRows number rows = workspace := by
  simp [appendRows, setDatabase, List.set_eq_of_length_le unused]

/-- The table grows at its end. A missing table stays missing. -/
theorem rows_appendRows (workspace : Workspace) (number : Nat) (rows : List Row) :
    ((workspace.appendRows number rows).database number).rows =
      (workspace.database number).rows.map (· ++ rows) := by
  by_cases used : number < workspace.databases.length
  · rw [appendRows, database_setDatabase_self _ _ used]
    cases present : (workspace.database number).rows <;> simp [Database.withRows, present]
  · have unused := Nat.le_of_not_lt used
    rw [appendRows_of_unused workspace rows unused, database_of_unused workspace unused]
    rfl

/-- Adding rows leaves every other database. -/
theorem database_appendRows_ne (workspace : Workspace) {number other : Nat} (rows : List Row)
    (different : other ≠ number) :
    (workspace.appendRows number rows).database other = workspace.database other :=
  database_setDatabase_ne _ _ different

/-- Adding rows leaves what the database refuses. -/
theorem refusal?_appendRows (workspace : Workspace) (number : Nat) (rows : List Row)
    (writer : Writer) :
    ((workspace.appendRows number rows).database number).refusal? writer =
      (workspace.database number).refusal? writer := by
  by_cases used : number < workspace.databases.length
  · rw [appendRows, database_setDatabase_self _ _ used, Database.refusal?_withRows]
  · rw [appendRows_of_unused workspace rows (Nat.le_of_not_lt used)]

/-- Adding rows brings no refusal that leaves rows out. -/
theorem skipsNone_appendRows {workspace : Workspace} {number : Nat} (rows : List Row)
    (skipsNone : (workspace.database number).SkipsNone) :
    ((workspace.appendRows number rows).database number).SkipsNone := by
  by_cases used : number < workspace.databases.length
  · rw [appendRows, database_setDatabase_self _ _ used]
    exact skipsNone
  · rw [appendRows_of_unused workspace rows (Nat.le_of_not_lt used)]
    exact skipsNone

/-- Rows added twice are all added, in the order in which they came. -/
theorem appendRows_append (workspace : Workspace) (number : Nat) (first second : List Row) :
    (workspace.appendRows number first).appendRows number second =
      workspace.appendRows number (first ++ second) := by
  by_cases used : number < workspace.databases.length
  · have replaced := database_setDatabase_self workspace
      ((workspace.database number).withRows
        ((workspace.database number).rows.getD [] ++ first)) used
    rw [appendRows, appendRows, replaced, Database.withRows_append_append]
    simp [appendRows, setDatabase]
  · have unused := Nat.le_of_not_lt used
    rw [appendRows_of_unused workspace first unused, appendRows_of_unused workspace second unused,
      appendRows_of_unused workspace (first ++ second) unused]

end Workspace

namespace Store

/-- What a save gives, in the order in which the questions are asked: whether there is
anything to save, whether every symbol is sound, whether the store is open, and
whether the database refuses a row. -/
theorem save_eq {workspace : Workspace} {store : Store} (symbols : List Symbol)
    (skipsNone : (workspace.database store.number).SkipsNone) :
    store.save workspace symbols =
      if symbols = [] then (workspace, .ok 0)
      else match firstDefect? 0 symbols with
        | some (index, defect) => (workspace, .error (.unsound index defect))
        | none =>
          if store.isOpen then
            match (symbols.map Row.ofSymbol).findSome?
                ((workspace.database store.number).refusal? store.inserter) with
            | some cause => (workspace, .error (.write cause none))
            | none =>
              (workspace.appendRows store.number (symbols.map Row.ofSymbol), .ok symbols.length)
          else (workspace, .error .closed) := by
  unfold save
  simp only [List.isEmpty_iff]
  by_cases empty : symbols = []
  · rw [if_pos empty, if_pos empty]
  · rw [if_neg empty, if_neg empty]
    cases firstDefect? 0 symbols with
    | some place => rfl
    | none =>
      cases store.isOpen with
      | false => rfl
      | true =>
        simp only [if_true, Database.insert_eq store.inserter store.chunkSize _ skipsNone]
        cases (symbols.map Row.ofSymbol).findSome?
            ((workspace.database store.number).refusal? store.inserter) with
        | some cause => simp [Workspace.setDatabase_database]
        | none => rfl

/-- A save adds the whole batch behind the table, or fails and leaves the workspace as
it was. -/
theorem save_cases {workspace : Workspace} {store : Store} (symbols : List Symbol)
    (skipsNone : (workspace.database store.number).SkipsNone) :
    store.save workspace symbols =
        (workspace.appendRows store.number (symbols.map Row.ofSymbol), .ok symbols.length) ∨
      ∃ error, store.save workspace symbols = (workspace, .error error) := by
  rw [save_eq symbols skipsNone]
  by_cases empty : symbols = []
  · subst empty
    simp
  · rw [if_neg empty]
    cases firstDefect? 0 symbols with
    | some place => exact .inr ⟨_, rfl⟩
    | none =>
      cases store.isOpen with
      | false => exact .inr ⟨_, rfl⟩
      | true =>
        cases (symbols.map Row.ofSymbol).findSome?
            ((workspace.database store.number).refusal? store.inserter) with
        | some cause => exact .inr ⟨_, rfl⟩
        | none => exact .inl rfl

/-- What a save replies does not depend on the rows that are there already. -/
theorem save_appendRows {workspace : Workspace} {store : Store} (rows : List Row)
    (symbols : List Symbol) (skipsNone : (workspace.database store.number).SkipsNone) :
    (store.save (workspace.appendRows store.number rows) symbols).2 =
      (store.save workspace symbols).2 := by
  rw [save_eq symbols skipsNone, save_eq symbols (Workspace.skipsNone_appendRows rows skipsNone),
    Workspace.refusal?_appendRows]
  by_cases empty : symbols = []
  · rw [if_pos empty, if_pos empty]
  · rw [if_neg empty, if_neg empty]
    cases firstDefect? 0 symbols with
    | some place => rfl
    | none =>
      cases store.isOpen with
      | false => rfl
      | true =>
        cases (symbols.map Row.ofSymbol).findSome?
            ((workspace.database store.number).refusal? store.inserter) <;> rfl

/-- No row of a batch is refused just when the table is there, the store may write, no
lock is held, and no name of the batch is refused. -/
theorem findSome?_refusal?_eq_none_iff {workspace : Workspace} {store : Store}
    {symbols : List Symbol} (nonempty : symbols ≠ [])
    (skipsNone : (workspace.database store.number).SkipsNone) :
    (symbols.map Row.ofSymbol).findSome?
        ((workspace.database store.number).refusal? store.inserter) = none ↔
      (workspace.database store.number).rows.isSome = true ∧ store.writable = true ∧
        (workspace.database store.number).locked = false ∧
        ∀ symbol ∈ symbols, ∀ guard ∈ (workspace.database store.number).guards,
          guard.name ≠ symbol.name := by
  obtain ⟨first, rest, rfl⟩ := List.exists_cons_of_ne_nil nonempty
  simp only [List.findSome?_eq_none_iff, List.forall_mem_map,
    Database.refusal?_eq_none_iff _ _ skipsNone, Database.hindrance?_eq_none_iff]
  constructor
  · intro accepted
    obtain ⟨⟨table, writable, unlocked⟩, -⟩ := accepted first (by simp)
    exact ⟨table, writable, unlocked, fun symbol member => (accepted symbol member).2⟩
  · rintro ⟨table, writable, unlocked, unrefused⟩ symbol member
    exact ⟨⟨table, writable, unlocked⟩, unrefused symbol member⟩

/-- A sound batch on an open store is saved just when no row of it is refused. -/
theorem save_eq_ok_iff {workspace : Workspace} {store : Store} (symbols : List Symbol)
    (skipsNone : (workspace.database store.number).SkipsNone) :
    (store.save workspace symbols).2 = .ok symbols.length ↔
      symbols = [] ∨
        (∀ symbol ∈ symbols, symbol.IsSound) ∧ store.isOpen = true ∧ store.writable = true ∧
          (workspace.database store.number).rows.isSome = true ∧
          (workspace.database store.number).locked = false ∧
          ∀ symbol ∈ symbols, ∀ guard ∈ (workspace.database store.number).guards,
            guard.name ≠ symbol.name := by
  rw [save_eq symbols skipsNone]
  by_cases empty : symbols = []
  · simp [empty]
  · rw [if_neg empty]
    cases defects : firstDefect? 0 symbols with
    | some place =>
      have unsound : ¬ ∀ symbol ∈ symbols, symbol.IsSound := by
        simp [← firstDefect?_eq_none_iff 0, defects]
      simp [empty, unsound]
    | none =>
      have sound := (firstDefect?_eq_none_iff 0 symbols).1 defects
      cases isOpen : store.isOpen with
      | false => simp [empty]
      | true =>
        have accepted := findSome?_refusal?_eq_none_iff empty skipsNone
        cases refused : (symbols.map Row.ofSymbol).findSome?
            ((workspace.database store.number).refusal? store.inserter) with
        | some cause =>
          have hindered := (not_congr accepted).1 (by simp [refused])
          simp only [if_true, reduceCtorEq, false_iff]
          rintro (none | ⟨-, -, writable, table, unlocked, unrefused⟩)
          · exact empty none
          · exact hindered ⟨table, writable, unlocked, unrefused⟩
        | none =>
          obtain ⟨table, writable, unlocked, unrefused⟩ := accepted.1 refused
          simp only [if_true, true_iff]
          exact .inr ⟨sound, trivial, writable, table, unlocked, unrefused⟩

/-- A save is refused for a symbol just when the batch has an unsound one, whatever
else stands in its way. The least position is named, with the first check that its
symbol fails. -/
theorem save_eq_unsound_iff {workspace : Workspace} {store : Store} (symbols : List Symbol)
    (skipsNone : (workspace.database store.number).SkipsNone) (index : Nat) (defect : Defect) :
    (store.save workspace symbols).2 = .error (.unsound index defect) ↔
      (∃ symbol, symbols[index]? = some symbol ∧ symbol.FailsFirst defect) ∧
        ∀ symbol ∈ symbols.take index, symbol.IsSound := by
  have reported := firstDefect?_eq_some_iff 0 index symbols defect
  rw [Nat.zero_add] at reported
  rw [← reported, save_eq symbols skipsNone]
  by_cases empty : symbols = []
  · simp [empty, firstDefect?]
  · rw [if_neg empty]
    cases firstDefect? 0 symbols with
    | some place => simp [Prod.ext_iff]
    | none =>
      cases store.isOpen with
      | false => simp
      | true =>
        cases (symbols.map Row.ofSymbol).findSome?
            ((workspace.database store.number).refusal? store.inserter) <;> simp

/-- How many rows a store inserts at a time decides nothing about a save. -/
theorem save_chunkSize (workspace : Workspace) (store : Store) (symbols : List Symbol)
    (chunkSize : Nat) :
    { store with chunkSize := chunkSize }.save workspace symbols =
      store.save workspace symbols := by
  simp only [save, inserter, Database.insert, Connection.write_chunked]

/-- Saving is all or nothing. The reply is the length of the batch and the table has
grown by the whole batch in its order, or the reply is an error and the workspace is
the one before. The first holds for the empty batch, and for a batch of sound
symbols on an open store that may write, whose table is there and not locked and
refuses none of the names. An unsound symbol is reported before anything else can
be, and the size of the chunks shows in nothing. -/
theorem save_whole_or_nothing (workspace : Workspace) (store : Store) (symbols : List Symbol)
    (skipsNone : (workspace.database store.number).SkipsNone) :
    ((store.save workspace symbols).2 = .ok symbols.length ∧
        ((store.save workspace symbols).1.database store.number).rows =
          (workspace.database store.number).rows.map (· ++ symbols.map Row.ofSymbol) ∨
      ∃ error, store.save workspace symbols = (workspace, .error error)) ∧
    ((store.save workspace symbols).2 = .ok symbols.length ↔
      symbols = [] ∨
        (∀ symbol ∈ symbols, symbol.IsSound) ∧ store.isOpen = true ∧ store.writable = true ∧
          (workspace.database store.number).rows.isSome = true ∧
          (workspace.database store.number).locked = false ∧
          ∀ symbol ∈ symbols, ∀ guard ∈ (workspace.database store.number).guards,
            guard.name ≠ symbol.name) ∧
    (∀ index defect, (store.save workspace symbols).2 = .error (.unsound index defect) ↔
      (∃ symbol, symbols[index]? = some symbol ∧ symbol.FailsFirst defect) ∧
        ∀ symbol ∈ symbols.take index, symbol.IsSound) ∧
    ∀ chunkSize, { store with chunkSize := chunkSize }.save workspace symbols =
      store.save workspace symbols := by
  refine ⟨?_, save_eq_ok_iff symbols skipsNone, save_eq_unsound_iff symbols skipsNone,
    save_chunkSize workspace store symbols⟩
  rcases save_cases symbols skipsNone with saved | failed
  · left
    rw [saved]
    exact ⟨rfl, workspace.rows_appendRows store.number (symbols.map Row.ofSymbol)⟩
  · exact .inr failed

/-- A refusal that ends the transaction strikes behind an accepted row, under chunks of
size zero: the table keeps its one row. -/
theorem save_whole_or_nothing_refused :
    let kept : Symbol := { name := "kept", kind := .field, filePath := "a.py", line := 1 }
    let workspace : Workspace :=
      { databases :=
          [{ rows := some [.ofSymbol kept], guards := [⟨"boom", .failsAndEnds, "no"⟩] }] }
    let store : Store := { number := 0, chunkSize := 0 }
    let batch := [kept, { kept with name := "boom" }, { kept with name := "last" }]
    (workspace.database store.number).SkipsNone ∧
      (store.save workspace batch).2 ≠ .ok batch.length ∧
      (store.save workspace batch).1 = workspace := by
  intro kept workspace store batch
  obtain ⟨outcome, saved, -⟩ := save_whole_or_nothing workspace store batch (by decide)
  have refused : (store.save workspace batch).2 ≠ .ok batch.length := by
    rw [Ne, saved]
    decide
  refine ⟨by decide, refused, ?_⟩
  rcases outcome with ⟨ok, -⟩ | ⟨error, failed⟩
  · exact absurd ok refused
  · rw [failed]

/-- A handle opened for reading only refuses a sound batch, although it is open, its
table is there, no lock is held and no name is refused. -/
theorem save_refused_when_read_only :
    let session := ({} : Session).performAll
      [ ("main", .openAt (some "t.db") 1000)
      , ("reader", .openAt (some "file:t.db?mode=ro") 1000) ]
    let symbol : Symbol := { name := "x", kind := .classLike, filePath := "a.py", line := 1 }
    symbol.IsSound ∧
      (session.stores.get? "reader").any (fun store =>
        store.isOpen && (session.workspace.database store.number).rows.isSome &&
          !(session.workspace.database store.number).locked &&
          (session.workspace.database store.number).guards.isEmpty) = true ∧
      (session.perform "reader" (.save [symbol])).2 =
        .error (.write Database.writeDenied none) := by
  decide +kernel

end Store

end SymbolAtlas
