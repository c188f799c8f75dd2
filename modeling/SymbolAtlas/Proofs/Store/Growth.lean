import SymbolAtlas.Proofs.Store.Batch
import SymbolAtlas.Proofs.Store.Tables

/-!
# Tables grow at their ends

However an engine answers the calls of a write, what is committed grows at its end,
by some of the rows of the batch in their order. No assumption is made on refusals
here: an engine may leave rows out, fail at any call, and end the transaction as it
likes. Since a batch with an unsound symbol never reaches the engine, a save adds
rows of sound symbols only.

`Workspace.Grows` says of two workspaces that every table has grown at its end, by
rows with some property. It is reflexive and transitive, so what holds of a save
holds of all that is made of saves.
-/

namespace SymbolAtlas

namespace Connection

/-- Taking a transaction back commits nothing, whether or not it succeeds. -/
theorem committed_rollback (engine : Engine) (connection : Connection) :
    (connection.issue engine .rollback).2.committed = connection.committed := by
  unfold issue
  cases engine connection.log.length .rollback with
  | failed cause ended => cases ended <;> rfl
  | done => rfl
  | skipped => rfl

/-- Letting go of a transaction commits nothing. -/
theorem committed_release (engine : Engine) (connection : Connection) (finished : Bool) :
    (connection.release engine finished).committed = connection.committed := by
  unfold release
  split
  · rfl
  · exact committed_rollback engine connection

/-- Giving up a transaction commits nothing. -/
theorem committed_abandon (engine : Engine) (connection : Connection) (cause : String) :
    (connection.abandon engine cause).2.committed = connection.committed := by
  have takenBack : (connection.takeBack engine).2.committed = connection.committed := by
    have rolledBack := committed_rollback engine connection
    unfold takeBack
    split
    · rfl
    · cases issued : connection.issue engine .rollback with
      | mk outcome left =>
        rw [issued] at rolledBack
        cases outcome <;> exact rolledBack
  exact (committed_release engine _ true).trans takenBack

/-- Insertions commit nothing, and what is pending after them is some of what was
pending before and of the rows, in their order. -/
theorem pending_insertRows (engine : Engine) (connection : Connection) (rows : List Row) :
    (connection.insertRows engine rows).2.committed = connection.committed ∧
      ((connection.insertRows engine rows).2.pending.getD []).Sublist
        (connection.pending.getD [] ++ rows) := by
  induction rows generalizing connection with
  | nil => exact ⟨rfl, by simp [insertRows]⟩
  | cons row rest hypothesis =>
    unfold insertRows
    cases answer : engine connection.log.length (.insert row) with
    | failed cause ended =>
      -- Here the insertions stop, with the transaction as the failure has left it.
      cases ended <;> simp [issue, answer, after]
    | skipped =>
      obtain ⟨committed, kept⟩ := hypothesis (connection.issue engine (.insert row)).2
      simp only [issue, answer, after] at committed kept ⊢
      exact ⟨committed, kept.trans ((List.Sublist.refl _).append (List.sublist_cons_self _ _))⟩
    | done =>
      obtain ⟨committed, kept⟩ := hypothesis (connection.issue engine (.insert row)).2
      simp only [issue, answer, after] at committed kept ⊢
      refine ⟨committed, kept.trans ?_⟩
      cases connection.pending with
      | none => simp
      | some held => simp

/-- Starting a transaction commits nothing, and unless it fails nothing is pending. -/
theorem issue_start {engine : Engine} {connection begun : Connection} {outcome : Outcome}
    (issued : connection.issue engine .start = (outcome, begun)) :
    begun.committed = connection.committed ∧
      ((∃ cause ended, outcome = .failed cause ended) ∨ begun.pending = some []) := by
  obtain ⟨rfl, rfl⟩ := Prod.mk.inj issued
  cases engine connection.log.length .start with
  | failed cause ended => cases ended <;> exact ⟨rfl, .inl ⟨_, _, rfl⟩⟩
  | done => exact ⟨rfl, .inr rfl⟩
  | skipped => exact ⟨rfl, .inr rfl⟩

/-- A commit adds what is pending at the end of what is committed, unless it fails and
adds nothing. -/
theorem issue_commit {engine : Engine} {connection left : Connection} {outcome : Outcome}
    (issued : connection.issue engine .commit = (outcome, left)) :
    (∃ cause ended, outcome = .failed cause ended) ∧ left.committed = connection.committed ∨
      left.committed = connection.committed ++ connection.pending.getD [] := by
  obtain ⟨rfl, rfl⟩ := Prod.mk.inj issued
  cases engine connection.log.length .commit with
  | failed cause ended => cases ended <;> exact .inl ⟨⟨_, _, rfl⟩, rfl⟩
  | done => exact .inr rfl
  | skipped => exact .inr rfl

/-- What is committed grows at its end by some of the rows, in their order, whatever
the engine answers. -/
theorem committed_write (engine : Engine) (connection : Connection) (rows : List Row) :
    ∃ kept, kept.Sublist rows ∧
      (connection.write engine [rows]).2.committed = connection.committed ++ kept := by
  have nothing : ∀ {left : Connection}, left.committed = connection.committed →
      ∃ kept, kept.Sublist rows ∧ left.committed = connection.committed ++ kept :=
    fun same => ⟨[], List.nil_sublist _, by simp [same]⟩
  unfold write
  split
  · rename_i started
    exact nothing (issue_start started).1
  · rename_i outcome begun unfailed started
    obtain ⟨same, ⟨cause, ended, failed⟩ | empty⟩ := issue_start started
    · exact absurd failed (unfailed cause ended)
    · obtain ⟨committed, kept⟩ := pending_insertRows engine begun rows
      rw [insertChunks_eq_insertRows, List.flatten_singleton]
      split
      · rename_i inserted
        rw [inserted, same] at committed
        exact nothing ((committed_abandon engine _ _).trans committed)
      · rename_i filled inserted
        simp only [inserted, same] at committed
        rw [inserted, empty] at kept
        split
        · rename_i cause ended left finished
          rcases issue_commit finished with ⟨-, unchanged⟩ | grown
          · exact nothing ((committed_abandon engine _ _).trans (unchanged.trans committed))
          · exact ⟨_, kept, by simp [committed_abandon, grown, committed]⟩
        · rename_i ending left unfailed finished
          rcases issue_commit finished with ⟨⟨cause, ended, failed⟩, -⟩ | grown
          · exact absurd failed (unfailed cause ended)
          · exact ⟨_, kept, by simp [committed_release, grown, committed]⟩

end Connection

/-- A write adds some of the rows at the end of the table, in their order. -/
theorem Database.rows_insert (database : Database) (writer : Writer) (chunkSize : Nat)
    (rows : List Row) :
    ∃ kept, kept.Sublist rows ∧
      (database.insert writer chunkSize rows).1.rows.getD [] = database.rows.getD [] ++ kept := by
  obtain ⟨kept, within, committed⟩ := Connection.committed_write (database.engine writer)
    (Connection.idle (database.rows.getD [])) rows
  have changed : (database.insert writer chunkSize rows).1 =
      database.withRows ((Connection.idle (database.rows.getD [])).write
        (database.engine writer) [rows]).2.committed := by
    unfold insert
    rw [Connection.write_chunked]
    dsimp only
    split <;> rfl
  rw [changed, committed]
  cases present : database.rows with
  | none => exact ⟨[], List.nil_sublist _, by simp [withRows, present]⟩
  | some held => exact ⟨kept, within, by simp [withRows, present, Connection.idle]⟩

namespace Workspace

/-- Every table has grown at its end, by rows with a property. -/
def Grows (property : Row → Prop) (before after : Workspace) : Prop :=
  ∀ number, ∃ added, (after.database number).rows.getD [] =
    (before.database number).rows.getD [] ++ added ∧ ∀ row ∈ added, property row

variable {property : Row → Prop}

/-- A workspace has grown by nothing. -/
theorem Grows.refl (workspace : Workspace) : Grows property workspace workspace := by
  intro number
  exact ⟨[], by simp, by simp⟩

/-- What grows twice in a row has grown. -/
theorem Grows.trans {first second third : Workspace} (earlier : Grows property first second)
    (later : Grows property second third) : Grows property first third := by
  intro number
  obtain ⟨added, table, all⟩ := earlier number
  obtain ⟨more, longer, allMore⟩ := later number
  refine ⟨added ++ more, by rw [longer, table, List.append_assoc], ?_⟩
  intro row member
  rcases List.mem_append.1 member with old | new
  · exact all row old
  · exact allMore row new

/-- A workspace that keeps its tables has grown by nothing. -/
theorem Keeps.grows_by {before after : Workspace} (kept : before.Keeps after) :
    Grows property before after := by
  intro number
  exact ⟨[], by simp [(kept.tables number).getD_rows], by simp⟩

/-- Replacing one database lets the tables grow as that database's table does. -/
theorem grows_setDatabase {workspace : Workspace} {number : Nat} {database : Database}
    (grown : ∃ added, database.rows.getD [] =
      (workspace.database number).rows.getD [] ++ added ∧ ∀ row ∈ added, property row) :
    Grows property workspace (workspace.setDatabase number database) := by
  intro other
  by_cases same : other = number
  · subst same
    by_cases used : other < workspace.databases.length
    · rw [database_setDatabase_self _ _ used]
      exact grown
    · have unused : workspace.setDatabase other database = workspace := by
        simp [setDatabase, List.set_eq_of_length_le (Nat.le_of_not_lt used)]
      rw [unused]
      exact Grows.refl workspace other
  · rw [database_setDatabase_ne _ _ same]
    exact Grows.refl workspace other

/-- A run of changes lets the tables grow if each of them does. -/
theorem grows_foldl {α : Type} {change : Workspace → α → Workspace}
    (each : ∀ workspace item, Grows property workspace (change workspace item))
    (workspace : Workspace) (items : List α) :
    Grows property workspace (items.foldl change workspace) := by
  induction items generalizing workspace with
  | nil => exact .refl workspace
  | cons item rest hypothesis => exact (each workspace item).trans (hypothesis _)

end Workspace

/-- A save adds rows of sound symbols of the batch only. -/
theorem Store.grows_save {property : Row → Prop} (workspace : Workspace) (store : Store)
    (symbols : List Symbol)
    (fits : ∀ symbol ∈ symbols, symbol.IsSound → property (.ofSymbol symbol)) :
    Workspace.Grows property workspace (store.save workspace symbols).1 := by
  unfold save
  split
  · exact .refl workspace
  · cases checked : firstDefect? 0 symbols with
    | some place => exact .refl workspace
    | none =>
      have sound := (firstDefect?_eq_none_iff 0 symbols).1 checked
      have inserted : Workspace.Grows property workspace
          (workspace.setDatabase store.number ((workspace.database store.number).insert
            store.inserter store.chunkSize (symbols.map Row.ofSymbol)).1) := by
        obtain ⟨kept, within, table⟩ := (workspace.database store.number).rows_insert
          store.inserter store.chunkSize (symbols.map Row.ofSymbol)
        refine Workspace.grows_setDatabase ⟨kept, table, ?_⟩
        intro row member
        obtain ⟨symbol, given, rfl⟩ := List.mem_map.1 (within.subset member)
        exact fits symbol given (sound symbol given)
      dsimp only
      split
      · split <;> exact inserted
      · exact .refl workspace

end SymbolAtlas
