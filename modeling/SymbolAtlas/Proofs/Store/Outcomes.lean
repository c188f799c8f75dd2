import Mathlib.Data.List.Basic
import SymbolAtlas.Proofs.Store.Growth
import SymbolAtlas.Store.Fault

/-!
# What becomes of a batch, call by call

A write makes calls on its connection and any of them may fail, with or without ending the
transaction. How the write ends is read off the calls and their outcomes alone: it succeeds just
when its commit does, its rows are there just when it succeeds, and its report names a second
cause just when a rollback has failed.

A rollback is tried where a failure has left the transaction open, and once more if it is open
still. So a connection is left inside a transaction only when every rollback has failed, unless it
was inside one before and nothing could be started.

An insertion may be accepted and leave no row. Such rows are missing after a success, and they are
the only ones.
-/

namespace SymbolAtlas

/-- Whether a call failed. -/
def Outcome.isFailure : Outcome → Bool
  | failed _ _ => true
  | _ => false

/-- A failure has a cause. -/
theorem Outcome.exists_of_isFailure {outcome : Outcome} (failure : outcome.isFailure = true) :
    ∃ cause ended, outcome = .failed cause ended := by
  cases outcome with
  | failed cause ended => exact ⟨cause, ended, rfl⟩
  | done => cases failure
  | skipped => cases failure

/-- The row that a call inserts. -/
def Call.row? : Call → Option Row
  | insert row => some row
  | _ => none

/-- The row that a call has added to the transaction, by its outcome. -/
def addedRow? (entry : Call × Outcome) : Option Row :=
  if entry.2 = .done then entry.1.row? else none

/-- Where no call failed and no row was skipped, every row was added. -/
theorem filterMap_addedRow? {calls : List (Call × Outcome)}
    (unfailed : ∀ entry ∈ calls, entry.2.isFailure = false)
    (unskipped : ∀ row, (Call.insert row, Outcome.skipped) ∉ calls) :
    calls.filterMap addedRow? = (calls.map Prod.fst).filterMap Call.row? := by
  rw [List.filterMap_map]
  refine List.filterMap_congr ?_
  rintro ⟨call, outcome⟩ inside
  cases outcome with
  | done => rfl
  | failed cause ended => cases unfailed _ inside
  | skipped =>
    cases call with
    | insert row => exact absurd inside (unskipped row)
    | start => rfl
    | commit => rfl
    | rollback => rfl

namespace Connection

/-- Calls with their outcomes have been made on a connection, the first one in front. -/
def Issued (before : Connection) (calls : List (Call × Outcome)) (after : Connection) : Prop :=
  after.log = calls.reverse ++ before.log

/-- No call has been made yet. -/
theorem Issued.nil (connection : Connection) : connection.Issued [] connection := rfl

/-- Calls are made one after another. -/
theorem Issued.append {before between after : Connection} {first second : List (Call × Outcome)}
    (earlier : before.Issued first between) (later : between.Issued second after) :
    before.Issued (first ++ second) after := by
  unfold Issued at *
  rw [later, earlier, List.reverse_append, List.append_assoc]

/-- A call that is made is the only one. -/
theorem issued_issue {engine : Engine} {connection left : Connection} {call : Call}
    {outcome : Outcome} (issued : connection.issue engine call = (outcome, left)) :
    connection.Issued [(call, outcome)] left := by
  obtain ⟨rfl, rfl⟩ := Prod.mk.inj issued
  rfl

/-- Besides being made, a call changes the rows as its outcome says. -/
theorem rows_of_issue {engine : Engine} {connection left : Connection} {call : Call}
    {outcome : Outcome} (issued : connection.issue engine call = (outcome, left)) :
    left.committed = (connection.after call outcome).committed ∧
      left.pending = (connection.after call outcome).pending := by
  obtain ⟨rfl, rfl⟩ := Prod.mk.inj issued
  exact ⟨rfl, rfl⟩

/-- A rollback that leaves the transaction open has failed. -/
theorem isFailure_of_rollback {engine : Engine} {connection left : Connection} {outcome : Outcome}
    (issued : connection.issue engine .rollback = (outcome, left))
    (still : left.pending.isSome = true) : outcome.isFailure = true := by
  rw [(rows_of_issue issued).2] at still
  cases outcome with
  | failed cause ended => rfl
  | done => simp [after] at still
  | skipped => simp [after] at still

/-- A failed insertion is the last one. -/
theorem insertRows_of_failure {engine : Engine} {connection left : Connection} {row : Row}
    {outcome : Outcome} (issued : connection.issue engine (.insert row) = (outcome, left))
    (failure : outcome.isFailure = true) (rest : List Row) :
    ∃ cause, connection.insertRows engine (row :: rest) = (some cause, left) := by
  obtain ⟨cause, ended, rfl⟩ := Outcome.exists_of_isFailure failure
  exact ⟨cause, by simp [insertRows, issued]⟩

/-- Behind another insertion the rest is inserted, and the transaction holds the row if it was
added. -/
theorem insertRows_of_unfailed {engine : Engine} {connection left : Connection} {row : Row}
    {outcome : Outcome} (issued : connection.issue engine (.insert row) = (outcome, left))
    (unfailed : outcome.isFailure = false) (rest : List Row) :
    connection.insertRows engine (row :: rest) = left.insertRows engine rest ∧
      ∀ held, connection.pending = some held →
        left.pending = some (held ++ [(Call.insert row, outcome)].filterMap addedRow?) := by
  have state := (rows_of_issue issued).2
  cases outcome with
  | failed cause ended => cases unfailed
  | done =>
    refine ⟨by simp [insertRows, issued], ?_⟩
    intro held opened
    simp [state, after, opened, addedRow?, Call.row?]
  | skipped =>
    refine ⟨by simp [insertRows, issued], ?_⟩
    intro held opened
    simp [state, after, opened, addedRow?]

/-- Insertions are made in the order of the rows, up to the first that fails. Where none fails, the
transaction has grown by the rows that were added. -/
theorem issued_insertRows (engine : Engine) {connection : Connection} {held : List Row}
    (opened : connection.pending = some held) (rows : List Row) :
    ∃ calls, connection.Issued calls (connection.insertRows engine rows).2 ∧
      (∀ entry ∈ calls, ∃ row, entry.1 = .insert row) ∧
      ((connection.insertRows engine rows).1 = none →
        calls.map Prod.fst = rows.map Call.insert ∧
        (∀ entry ∈ calls, entry.2.isFailure = false) ∧
        (connection.insertRows engine rows).2.pending =
          some (held ++ calls.filterMap addedRow?)) := by
  induction rows generalizing connection held with
  | nil =>
    refine ⟨[], .nil connection, by simp, fun _ => ⟨rfl, by simp, ?_⟩⟩
    simpa [insertRows] using opened
  | cons row rest hypothesis =>
    rcases issued : connection.issue engine (.insert row) with ⟨outcome, left⟩
    have made := issued_issue issued
    cases failure : outcome.isFailure with
    | true =>
      obtain ⟨cause, stopped⟩ := insertRows_of_failure issued failure rest
      rw [stopped]
      exact ⟨_, made, by simp, by simp⟩
    | false =>
      obtain ⟨goesOn, holds⟩ := insertRows_of_unfailed issued failure rest
      obtain ⟨calls, later, insertions, ending⟩ := hypothesis (holds held opened)
      rw [goesOn]
      refine ⟨_, made.append later, ?_, ?_⟩
      · rintro entry (_ | ⟨_, inside⟩)
        · exact ⟨row, rfl⟩
        · exact insertions entry inside
      · intro unstopped
        obtain ⟨asked, unfailed, pending⟩ := ending unstopped
        refine ⟨by simp [asked], ?_, ?_⟩
        · rintro entry (_ | ⟨_, inside⟩)
          · exact failure
          · exact unfailed entry inside
        · rw [pending, List.append_assoc, ← List.filterMap_append]

/-- A failure that leaves the transaction open is followed by one rollback, and any other by none.
A second cause is given just when that rollback fails, and it has failed if the transaction is open
still. -/
theorem issued_takeBack (engine : Engine) (connection : Connection) :
    ∃ calls, connection.Issued calls (connection.takeBack engine).2 ∧
      (∀ entry ∈ calls, entry.1 = .rollback) ∧
      ((connection.takeBack engine).1.isSome = true ↔ ∃ entry ∈ calls, entry.2.isFailure = true) ∧
      ((connection.takeBack engine).2.pending.isSome = true →
        calls ≠ [] ∧ ∀ entry ∈ calls, entry.2.isFailure = true) := by
  unfold takeBack
  cases opened : connection.pending with
  | none => exact ⟨[], .nil connection, by simp, by simp, by simp [opened]⟩
  | some held =>
    rcases issued : connection.issue engine .rollback with ⟨outcome, left⟩
    have still := isFailure_of_rollback issued
    refine ⟨[(.rollback, outcome)], ?_, by simp, ?_, ?_⟩
    · cases outcome <;> exact issued_issue issued
    · cases outcome <;> simp [Outcome.isFailure]
    · cases outcome <;> simpa using still

/-- When the transaction is let go of, a rollback is tried if it is open still, and only then. Where
it stays open that rollback has failed. -/
theorem issued_release (engine : Engine) (connection : Connection) :
    ∃ calls, connection.Issued calls (connection.release engine true) ∧
      (∀ entry ∈ calls, entry.1 = .rollback) ∧ (connection.pending = none → calls = []) ∧
      ((connection.release engine true).pending.isSome = true →
        connection.pending.isSome = true ∧ ∀ entry ∈ calls, entry.2.isFailure = true) := by
  unfold release
  cases opened : connection.pending with
  | none => exact ⟨[], .nil connection, by simp, by simp, by simp [opened]⟩
  | some held =>
    rcases issued : connection.issue engine .rollback with ⟨outcome, left⟩
    have still := isFailure_of_rollback issued
    exact ⟨[(.rollback, outcome)], issued_issue issued, by simp, by simp, by simpa using still⟩

/-- Giving up makes rollbacks only. Its report names a second cause just when one of them fails,
and where the transaction stays open there was one and all have failed. -/
theorem issued_abandon (engine : Engine) (connection : Connection) (cause : String) :
    ∃ calls failure, connection.Issued calls (connection.abandon engine cause).2 ∧
      (connection.abandon engine cause).1 = .error failure ∧
      (∀ entry ∈ calls, entry.1 = .rollback) ∧
      (failure.rollback.isSome = true ↔ ∃ entry ∈ calls, entry.2.isFailure = true) ∧
      ((connection.abandon engine cause).2.pending.isSome = true →
        calls ≠ [] ∧ ∀ entry ∈ calls, entry.2.isFailure = true) := by
  obtain ⟨first, earlier, firstRollbacks, second, firstFails⟩ := issued_takeBack engine connection
  obtain ⟨more, later, moreRollbacks, unneeded, allFail⟩ :=
    issued_release engine (connection.takeBack engine).2
  refine ⟨first ++ more, ⟨cause, (connection.takeBack engine).1⟩, earlier.append later, rfl, ?_, ?_,
    ?_⟩
  · intro entry inside
    exact (List.mem_append.1 inside).elim (firstRollbacks entry) (moreRollbacks entry)
  · rw [second]
    constructor
    · rintro ⟨entry, inside, failure⟩
      exact ⟨entry, List.mem_append_left _ inside, failure⟩
    · rintro ⟨entry, inside, failure⟩
      rcases List.mem_append.1 inside with inFirst | inMore
      · exact ⟨entry, inFirst, failure⟩
      · -- A second rollback is only tried where the first has failed and left the transaction open.
        have leftOpen : (connection.takeBack engine).2.pending ≠ none := fun ended => by
          simp [unneeded ended] at inMore
        obtain ⟨tried, firstFail⟩ := firstFails (Option.isSome_iff_ne_none.2 leftOpen)
        obtain ⟨other, inFirst⟩ := List.exists_mem_of_ne_nil first tried
        exact ⟨other, inFirst, firstFail other inFirst⟩
  · intro still
    obtain ⟨leftOpen, moreFail⟩ := allFail still
    obtain ⟨tried, firstFail⟩ := firstFails leftOpen
    refine ⟨by simp [tried], ?_⟩
    intro entry inside
    exact (List.mem_append.1 inside).elim (firstFail entry) (moreFail entry)

/-- What is known of a write that succeeds, by the calls it has made. -/
structure Succeeds (before : Connection) (rows : List Row) (calls : List (Call × Outcome))
    (made : Except WriteFailure Unit × Connection) : Prop where
  issued : before.Issued calls made.2
  done : made.1 = .ok ()
  asked : calls.map Prod.fst = .start :: rows.map .insert ++ [.commit]
  unfailed : ∀ entry ∈ calls, entry.2.isFailure = false
  added : made.2.committed = before.committed ++ calls.filterMap addedRow?
  ended : made.2.pending = none

/-- What is known of a write that fails, by the calls it has made. -/
structure Fails (before : Connection) (calls : List (Call × Outcome))
    (made : Except WriteFailure Unit × Connection) : Prop where
  issued : before.Issued calls made.2
  failed : ∃ failure, made.1 = .error failure ∧ (failure.rollback.isSome = true ↔
    ∃ outcome, (.rollback, outcome) ∈ calls ∧ outcome.isFailure = true)
  uncommitted : ∀ outcome, (.commit, outcome) ∈ calls → outcome.isFailure = true
  unchanged : made.2.committed = before.committed
  leftOpen : made.2.pending.isSome = true →
    (before.pending = none → ∃ outcome, (.rollback, outcome) ∈ calls) ∧
      ∀ outcome, (.rollback, outcome) ∈ calls → outcome.isFailure = true

/-- A write that is given up after calls without a rollback and without a successful commit has
failed. -/
theorem fails_of_abandon (engine : Engine) {before left : Connection}
    {calls : List (Call × Outcome)} (issued : before.Issued calls left)
    (unchanged : left.committed = before.committed)
    (forward : ∀ entry ∈ calls,
      entry.1 ≠ .rollback ∧ (entry.1 = .commit → entry.2.isFailure = true))
    (cause : String) : ∃ calls, Fails before calls (left.abandon engine cause) := by
  obtain ⟨taken, failure, later, gives, rollbacks, second, still⟩ :=
    issued_abandon engine left cause
  have among (outcome : Outcome) : (.rollback, outcome) ∈ calls ++ taken ↔
      (.rollback, outcome) ∈ taken := by
    rw [List.mem_append, or_iff_right]
    exact fun inside => (forward _ inside).1 rfl
  refine ⟨calls ++ taken, issued.append later, ⟨failure, gives, ?_⟩, ?_,
    (committed_abandon engine left cause).trans unchanged, ?_⟩
  · simp only [second, among]
    constructor
    · rintro ⟨⟨call, outcome⟩, inside, fails⟩
      obtain rfl : call = .rollback := rollbacks _ inside
      exact ⟨outcome, inside, fails⟩
    · rintro ⟨outcome, inside, fails⟩
      exact ⟨_, inside, fails⟩
  · intro outcome inside
    rcases List.mem_append.1 inside with early | late
    · exact (forward _ early).2 rfl
    · cases rollbacks _ late
  · intro leftOpen
    obtain ⟨tried, allFail⟩ := still leftOpen
    simp only [among]
    refine ⟨fun _ => ?_, fun outcome inside => allFail _ inside⟩
    obtain ⟨⟨call, outcome⟩, inside⟩ := List.exists_mem_of_ne_nil taken tried
    obtain rfl : call = .rollback := rollbacks _ inside
    exact ⟨outcome, inside⟩

variable {engine : Engine} {connection begun filled left : Connection} {outcome : Outcome}

/-- A write that cannot start a transaction fails and leaves the connection as it is. -/
theorem fails_of_start (started : connection.issue engine .start = (outcome, begun))
    (failure : outcome.isFailure = true) (rows : List Row) :
    Fails connection [(.start, outcome)] (connection.write engine [rows]) := by
  obtain ⟨same, opened⟩ := rows_of_issue started
  have beginning := issued_issue started
  obtain ⟨cause, ended, rfl⟩ := Outcome.exists_of_isFailure failure
  have ends : connection.write engine [rows] = (.error ⟨cause, none⟩, begun) := by
    simp [write, started]
  rw [ends]
  refine ⟨beginning, ⟨_, rfl, by simp⟩, by simp, ?_, ?_⟩
  · cases ended <;> exact same
  · intro leftOpen
    refine ⟨fun closed => ?_, by simp⟩
    cases ended <;> simp [opened, after, closed] at leftOpen

/-- What is left to be done once all rows are inserted. -/
def finish (engine : Engine) (connection : Connection) : Except WriteFailure Unit × Connection :=
  match connection.issue engine .commit with
  | (.failed cause _, left) => left.abandon engine cause
  | (_, left) => (.ok (), left.release engine true)

/-- Once a transaction is open, a write inserts its rows and commits, and gives up at the first
failure. -/
theorem write_of_started (started : connection.issue engine .start = (outcome, begun))
    (unfailed : outcome.isFailure = false) (rows : List Row) :
    connection.write engine [rows] =
      match begun.insertRows engine rows with
      | (some cause, left) => left.abandon engine cause
      | (none, filled) => filled.finish engine := by
  simp only [write, started, insertChunks_eq_insertRows, List.flatten_singleton]
  cases outcome with
  | failed cause ended => cases unfailed
  | done => rfl
  | skipped => rfl

/-- A commit that does not fail ends the transaction with what it holds, so that there is nothing
left to be done. -/
theorem finish_of_unfailed (committed : filled.issue engine .commit = (outcome, left))
    (unfailed : outcome.isFailure = false) :
    filled.finish engine = (.ok (), left) ∧ left.pending = none ∧
      left.committed = filled.committed ++ filled.pending.getD [] := by
  obtain ⟨grown, closed⟩ := rows_of_issue committed
  cases outcome with
  | failed cause ended => cases unfailed
  | done => exact ⟨by simp [finish, committed, release, closed, after], closed, grown⟩
  | skipped => exact ⟨by simp [finish, committed, release, closed, after], closed, grown⟩

/-- A commit that fails commits nothing, and the write is given up. -/
theorem finish_of_failure (committed : filled.issue engine .commit = (outcome, left))
    (failure : outcome.isFailure = true) :
    (∃ cause, filled.finish engine = left.abandon engine cause) ∧
      left.committed = filled.committed := by
  obtain ⟨grown, -⟩ := rows_of_issue committed
  obtain ⟨cause, ended, rfl⟩ := Outcome.exists_of_isFailure failure
  refine ⟨⟨cause, by simp [finish, committed]⟩, ?_⟩
  cases ended <;> exact grown

/-- Once all rows are inserted, the commit decides. -/
theorem finish_cases {calls : List (Call × Outcome)} {rows : List Row}
    (issued : connection.Issued calls filled) (unchanged : filled.committed = connection.committed)
    (asked : calls.map Prod.fst = .start :: rows.map .insert)
    (unfailed : ∀ entry ∈ calls, entry.2.isFailure = false)
    (held : filled.pending = some (calls.filterMap addedRow?)) :
    ∃ calls, Succeeds connection rows calls (filled.finish engine) ∨
      Fails connection calls (filled.finish engine) := by
  have forward : ∀ entry ∈ calls, entry.1 ≠ .rollback ∧ entry.1 ≠ .commit := by
    intro entry inside
    have listed : entry.1 ∈ Call.start :: rows.map Call.insert :=
      asked ▸ List.mem_map_of_mem inside
    rcases List.mem_cons.1 listed with start | insertion
    · simp [start]
    · obtain ⟨row, -, same⟩ := List.mem_map.1 insertion
      simp [← same]
  rcases committed : filled.issue engine .commit with ⟨commit, left⟩
  have committing := issued.append (issued_issue committed)
  cases failure : commit.isFailure with
  | true =>
    obtain ⟨⟨cause, ends⟩, kept⟩ := finish_of_failure committed failure
    rw [ends]
    refine (fails_of_abandon engine committing (kept.trans unchanged) ?_ cause).imp fun _ => .inr
    intro entry inside
    rcases List.mem_append.1 inside with early | last
    · obtain ⟨forward, uncommitted⟩ := forward entry early
      exact ⟨forward, fun commit => absurd commit uncommitted⟩
    · simp [List.mem_singleton.1 last, failure]
  | false =>
    obtain ⟨ends, closed, grown⟩ := finish_of_unfailed committed failure
    rw [ends]
    refine ⟨_, .inl ⟨committing, rfl, by simp [asked], ?_, ?_, closed⟩⟩
    · intro entry inside
      rcases List.mem_append.1 inside with early | last
      · exact unfailed entry early
      · simpa [List.mem_singleton.1 last] using failure
    · simp [grown, unchanged, held, addedRow?, Call.row?]

/-- A write succeeds or fails, and its calls tell which. -/
theorem write_cases (engine : Engine) (connection : Connection) (rows : List Row) :
    ∃ calls, Succeeds connection rows calls (connection.write engine [rows]) ∨
      Fails connection calls (connection.write engine [rows]) := by
  rcases started : connection.issue engine .start with ⟨start, begun⟩
  cases startFails : start.isFailure with
  | true => exact ⟨_, .inr (fails_of_start started startFails rows)⟩
  | false =>
    have beginning := issued_issue started
    obtain ⟨same, opened⟩ : begun.committed = connection.committed ∧ begun.pending = some [] := by
      obtain ⟨same, opened⟩ := rows_of_issue started
      cases start with
      | failed cause ended => cases startFails
      | done => exact ⟨same, opened⟩
      | skipped => exact ⟨same, opened⟩
    obtain ⟨calls, inserting, insertions, ending⟩ := issued_insertRows engine opened rows
    have unchanged := (pending_insertRows engine begun rows).1.trans same
    rw [write_of_started started startFails]
    rcases inserted : begun.insertRows engine rows with ⟨_ | cause, filled⟩
    · rw [inserted] at inserting unchanged ending
      obtain ⟨asked, unfailed, held⟩ := ending rfl
      refine finish_cases (beginning.append inserting) unchanged (by simp [asked]) ?_ ?_
      · rintro entry (_ | ⟨_, inside⟩)
        · exact startFails
        · exact unfailed entry inside
      · simpa [addedRow?, Call.row?] using held
    · rw [inserted] at inserting unchanged
      refine (fails_of_abandon engine (beginning.append inserting) unchanged ?_ cause).imp
        fun _ => .inr
      rintro entry (_ | ⟨_, inside⟩)
      · simp
      · obtain ⟨row, insertion⟩ := insertions entry inside
        simp [insertion]

/-- The rows of a write that succeeds are all there, unless one was skipped. -/
theorem Succeeds.filterMap_addedRow? {rows : List Row} {calls : List (Call × Outcome)}
    {made : Except WriteFailure Unit × Connection} (succeeds : Succeeds connection rows calls made)
    (unskipped : ∀ row, (Call.insert row, Outcome.skipped) ∉ calls) :
    calls.filterMap addedRow? = rows := by
  have inserted : (rows.map Call.insert).filterMap Call.row? = rows := by
    rw [List.filterMap_map]
    exact List.filterMap_some
  rw [SymbolAtlas.filterMap_addedRow? succeeds.unfailed unskipped, succeeds.asked,
    List.cons_append, List.filterMap_cons_none rfl, List.filterMap_append, inserted]
  exact List.append_nil rows

end Connection

namespace Store

/-- Saving a batch of sound symbols on an open store is a write of their rows on the connection of
the database. -/
theorem save_eq_write {workspace : Workspace} {store : Store} {symbols : List Symbol}
    (filled : symbols ≠ []) (sound : ∀ symbol ∈ symbols, symbol.IsSound)
    (isOpen : store.isOpen = true) :
    let database := workspace.database store.number
    let made := (Connection.idle (database.rows.getD [])).write (database.engine store.inserter)
      (chunked store.chunkSize (symbols.map Row.ofSymbol))
    store.save workspace symbols =
      (workspace.setDatabase store.number (database.withRows made.2.committed),
        match made.1 with
        | .ok () => .ok symbols.length
        | .error failure => .error (.write failure.cause failure.rollback)) := by
  have checked := (firstDefect?_eq_none_iff 0 symbols).2 sound
  dsimp only
  rcases written : (Connection.idle ((workspace.database store.number).rows.getD [])).write
    ((workspace.database store.number).engine store.inserter)
    (chunked store.chunkSize (symbols.map Row.ofSymbol)) with ⟨failure | _, left⟩
  · simp [save, filled, checked, isOpen, Database.insert, written]
  · simp [save, filled, checked, isOpen, Database.insert, written]

/-- However the calls of a write turn out, it succeeds just when its commit does. Its rows are
committed then, but for those that were accepted and left no row, and otherwise nothing is. A
second cause is reported just when a rollback was made and failed, and the connection is outside a
transaction afterwards unless every rollback failed, of which there was one if the connection was
outside before. Saving a batch of sound symbols on an open store is such a write. -/
theorem save_told_by_calls :
    (∀ (engine : Engine) (connection : Connection) (size : Nat) (rows : List Row), rows ≠ [] →
      let made := connection.write engine (chunked size rows)
      ∃ calls, connection.Issued calls made.2 ∧
        (made.1 = .ok () ↔ ∃ outcome, (.commit, outcome) ∈ calls ∧ outcome.isFailure = false) ∧
        (made.1 = .ok () → calls.map Prod.fst = .start :: rows.map .insert ++ [.commit] ∧
          made.2.committed = connection.committed ++ calls.filterMap addedRow?) ∧
        (made.1 ≠ .ok () → made.2.committed = connection.committed) ∧
        ((∀ row, (Call.insert row, Outcome.skipped) ∉ calls) →
          (made.2.committed = connection.committed ++ rows ↔ made.1 = .ok ())) ∧
        (∀ failure, made.1 = .error failure → (failure.rollback.isSome = true ↔
          ∃ outcome, (.rollback, outcome) ∈ calls ∧ outcome.isFailure = true)) ∧
        (made.2.pending = none ∨
          (connection.pending = none → ∃ outcome, (.rollback, outcome) ∈ calls) ∧
            ∀ outcome, (.rollback, outcome) ∈ calls → outcome.isFailure = true)) ∧
    ∀ (workspace : Workspace) (store : Store) (symbols : List Symbol), symbols ≠ [] →
      (∀ symbol ∈ symbols, symbol.IsSound) → store.isOpen = true →
        let database := workspace.database store.number
        let made := (Connection.idle (database.rows.getD [])).write
          (database.engine store.inserter)
          (chunked store.chunkSize (symbols.map Row.ofSymbol))
        store.save workspace symbols =
          (workspace.setDatabase store.number (database.withRows made.2.committed),
            match made.1 with
            | .ok () => .ok symbols.length
            | .error failure => .error (.write failure.cause failure.rollback)) := by
  refine ⟨?_, fun workspace store symbols => save_eq_write⟩
  intro engine connection size rows filled
  rw [Connection.write_chunked]
  obtain ⟨calls, succeeds | fails⟩ := Connection.write_cases engine connection rows
  · have commits : ∃ outcome, (Call.commit, outcome) ∈ calls ∧ outcome.isFailure = false := by
      have listed : Call.commit ∈ calls.map Prod.fst := by simp [succeeds.asked]
      obtain ⟨⟨call, outcome⟩, inside, rfl⟩ := List.mem_map.1 listed
      exact ⟨outcome, inside, succeeds.unfailed _ inside⟩
    refine ⟨calls, succeeds.issued, iff_of_true succeeds.done commits,
      fun _ => ⟨succeeds.asked, succeeds.added⟩, fun unfinished => absurd succeeds.done unfinished,
      ?_, ?_, .inl succeeds.ended⟩
    · intro unskipped
      refine iff_of_true ?_ succeeds.done
      rw [succeeds.added, succeeds.filterMap_addedRow? unskipped]
    · intro failure failed
      cases succeeds.done.symm.trans failed
  · obtain ⟨failure, failed, second⟩ := fails.failed
    have unfinished : (connection.write engine [rows]).1 ≠ .ok () := by simp [failed]
    refine ⟨calls, fails.issued, iff_of_false unfinished ?_, fun done => absurd done unfinished,
      fun _ => fails.unchanged, ?_, ?_, ?_⟩
    · rintro ⟨outcome, inside, unfailed⟩
      simp [fails.uncommitted outcome inside] at unfailed
    · intro unskipped
      refine iff_of_false ?_ unfinished
      rw [fails.unchanged]
      simpa using filled
    · intro other given
      obtain rfl : failure = other := Except.error.inj (failed.symm.trans given)
      exact second
    · cases closed : (connection.write engine [rows]).2.pending with
      | none => exact .inl rfl
      | some held => exact .inr (fails.leftOpen (by simp [closed]))

/-- A full disk stops the second of two insertions, and the first rollback fails as well; the
second one succeeds. Without such trouble a store saves the two symbols. -/
theorem save_told_by_calls_second_rollback :
    let batch : List Symbol :=
      [ { name := "a", kind := .field, filePath := "a.py", line := 1 }
      , { name := "b", kind := .field, filePath := "a.py", line := 2 } ]
    let engine : Engine
      | 2, .insert _ => .failed "database or disk is full" false
      | 3, .rollback => .failed "disk I/O error" false
      | _, _ => .done
    let made := (Connection.idle []).write engine (chunked 1 (batch.map Row.ofSymbol))
    let workspace : Workspace := { databases := [{ rows := some [] }] }
    let store : Store := { number := 0 }
    made.1 = .error ⟨"database or disk is full", some "disk I/O error"⟩ ∧
      made.2.committed = [] ∧ made.2.pending = none ∧
      (∃ calls, (Connection.idle []).Issued calls made.2 ∧
        ∃ outcome, (.rollback, outcome) ∈ calls ∧ outcome.isFailure = true) ∧
      (∀ symbol ∈ batch, symbol.IsSound) ∧ (store.save workspace batch).2 = .ok 2 := by
  intro batch engine made workspace store
  have failed : made.1 = .error ⟨"database or disk is full", some "disk I/O error"⟩ := by
    decide +kernel
  have ended : made.2.pending = none := by decide +kernel
  have sound : ∀ symbol ∈ batch, symbol.IsSound := by decide
  obtain ⟨writes, saves⟩ := save_told_by_calls
  obtain ⟨calls, issued, -, -, unchanged, -, second, -⟩ :=
    writes engine (.idle []) 1 (batch.map Row.ofSymbol) (by decide)
  refine ⟨failed, unchanged (by simp [failed, made]), ended,
    ⟨calls, issued, (second _ failed).1 rfl⟩, sound, ?_⟩
  rw [saves workspace store batch (by decide) sound rfl]
  decide +kernel

/-- A store that accepts two symbols and leaves one out by a refusal of its name reports that both
are saved. -/
theorem save_reports_skipped_row :
    let session := ({} : Session).performAll [("main", .openAt (some "t.db") 1000)]
    let batch : List Symbol :=
      [ { name := "x", kind := .field, filePath := "a.py", line := 1 }
      , { name := "y", kind := .field, filePath := "a.py", line := 2 } ]
    (∀ symbol ∈ batch, symbol.IsSound) ∧
      (session.stores.get? "main").any (fun store =>
        let workspace := store.guardName session.workspace ⟨"x", .skips, ""⟩
        store.isOpen && (store.save workspace batch).2 = .ok 2 &&
          ((store.save workspace batch).1.database store.number).rows =
            some (batch.tail.map Row.ofSymbol)) = true := by
  decide +kernel

end Store

end SymbolAtlas
