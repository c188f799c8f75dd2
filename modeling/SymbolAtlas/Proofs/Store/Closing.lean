import SymbolAtlas.Proofs.Store.Held
import SymbolAtlas.Proofs.Store.Tables
import SymbolAtlas.Proofs.Symbol.Checks

/-!
# Closed stores

A store that is held is closed in two ways only, by closing it and by a creation of its
tables that fails, and it is closed for good: whatever happens later, through this store,
through others or past all of them, it refuses what needs a database, and nothing it is
asked to do changes the workspace. What it checks before it looks at the database it
reports all the same, so an unsound batch is still called unsound and an empty one saved.

`isOpen_of_use` says once what an operation makes of the store it is performed on. What a
whole history makes of it follows by going through the history from its end.
-/

namespace SymbolAtlas

namespace Action

/-- Whether an operation is performed on the store that is held under a name. The others
put another store there or let it go. -/
def isUse : Action → Bool
  | openAt _ _ => false
  | drop => false
  | _ => true

/-- Whether an operation can do nothing without a database. -/
def needsDatabase : Action → Bool
  | search _ => true
  | execute _ _ => true
  | getAll _ => true
  | count => true
  | countPhrase _ => true
  | clear => true
  | createTables => true
  | _ => false

end Action

/-- Whatever keeps the tables of a database from being created is a fault of its schema. -/
theorem Database.schema_of_createTables {database made : Database} {writable : Bool} {error : StoreError}
    (failed : database.createTables writable = (made, .error error)) :
    ∃ cause, error = .schema cause := by
  unfold createTables at failed
  split at failed
  · exact ⟨_, (Except.error.inj (Prod.mk.inj failed).2).symm⟩
  · split at failed
    · exact ⟨_, (Except.error.inj (Prod.mk.inj failed).2).symm⟩
    · dsimp only at failed
      split at failed
      · exact ⟨_, (Except.error.inj (Prod.mk.inj failed).2).symm⟩
      · cases (Prod.mk.inj failed).2

namespace Store

variable (workspace : Workspace) (store : Store)

/-- Saving, granted or not, neither opens nor closes a store. -/
@[simp] theorem isOpen_afterSaving (symbols : List Symbol) :
    (store.afterSaving workspace symbols).isOpen = store.isOpen := by
  unfold afterSaving
  dsimp only
  repeat' split
  all_goals rfl

/-- Looking at the table neither opens nor closes a store. -/
@[simp] theorem isOpen_afterSeeing : (store.afterSeeing workspace).isOpen = store.isOpen := by
  unfold afterSeeing
  split <;> rfl

/-- Listing symbols neither opens nor closes a store. -/
@[simp] theorem isOpen_afterListing (kinds : List Kind) :
    (store.afterListing workspace kinds).isOpen = store.isOpen := by
  unfold afterListing
  split
  · rfl
  · exact isOpen_afterSeeing workspace store

/-- Clearing the table, granted or not, neither opens nor closes a store. -/
@[simp] theorem isOpen_afterClearing : (store.afterClearing workspace).isOpen = store.isOpen := by
  unfold afterClearing
  dsimp only
  repeat' split
  all_goals rfl

/-- A store that has been closed is closed. -/
@[simp] theorem isOpen_close : (store.close workspace).2.isOpen = false := by
  unfold close
  split
  · rfl
  · rename_i closed
    simpa using closed

/-- Creating the tables closes a store just when the schema is at fault. -/
theorem isOpen_createTables :
    (store.createTables workspace).2.1.isOpen = false ↔ store.isOpen = false ∨
      ∃ cause, (store.createTables workspace).2.2 = .error (.schema cause) := by
  cases isOpen : store.isOpen with
  | false => simp [createTables, isOpen]
  | true =>
    rcases created : (workspace.database store.number).createTables store.writable with
      ⟨database, error | done⟩
    · obtain ⟨cause, rfl⟩ := Database.schema_of_createTables created
      simp [createTables, isOpen, created]
    · simp only [createTables, isOpen, created, if_true]
      split <;> simp [isOpen]

/-- A closed store saves nothing, and says of an unsound batch that it is unsound. -/
theorem save_of_closed {store : Store} (closed : store.isOpen = false) (symbols : List Symbol) :
    store.save workspace symbols = (workspace,
      if symbols.isEmpty then .ok 0
      else match firstDefect? 0 symbols with
        | some (index, defect) => .error (.unsound index defect)
        | none => .error .closed) := by
  unfold save
  split
  · rfl
  · cases firstDefect? 0 symbols with
    | none => simp [closed]
    | some place => rfl

end Store

/-- What can happen while stores are held. -/
inductive Happening where
  /-- An operation under a name. -/
  | operation (name : String) (action : Action)
  /-- Past all stores, another program turns the workspace into this one. -/
  | change (workspace : Workspace)

namespace Session

/-- The session after something has happened. -/
def meet (session : Session) : Happening → Session
  | .operation name action => (session.perform name action).1
  | .change workspace => { session with workspace := workspace }

/-- The session after a history. -/
def meetAll (session : Session) (history : List Happening) : Session :=
  history.foldl meet session

/-- An operation under a name closes the store of that name: it is the closing of it, or a
creation of its tables in which the schema is at fault. -/
def Closes (session : Session) (name : String) (action : Action) : Prop :=
  action = .close ∨
    action = .createTables ∧ ∃ cause, (session.perform name action).2 = .error (.schema cause)

/-- Somewhere in a history an operation closes the store of a name. -/
def ClosedIn (session : Session) (name : String) (history : List Happening) : Prop :=
  ∃ earlier action later, history = earlier ++ .operation name action :: later ∧
    (session.meetAll earlier).Closes name action

/-- The store of a name answers as a closed store does. -/
structure Refuses (session : Session) (name : String) : Prop where
  needy : ∀ action : Action, action.needsDatabase = true →
    (session.perform name action).2 = .error .closed
  query : ∀ store, session.stores.get? name = some store → ∀ query,
    store.execute session.workspace query = .error .closed
  sound : ∀ symbols, symbols ≠ [] → (∀ symbol ∈ symbols, symbol.IsSound) →
    (session.perform name (.save symbols)).2 = .error .closed
  unsound : ∀ symbols, (∃ symbol ∈ symbols, ¬ symbol.IsSound) → ∃ index defect,
    (session.perform name (.save symbols)).2 = .error (.unsound index defect) ∧
      (∃ symbol, symbols[index]? = some symbol ∧ symbol.FailsFirst defect) ∧
      ∀ symbol ∈ symbols.take index, symbol.IsSound
  empty : (session.perform name (.save [])).2 = .ok (.number 0)
  close : (session.perform name .close).2 = .ok .done
  unchanged : ∀ action : Action, action.isUse = true →
    (session.perform name action).1.workspace = session.workspace

variable {session : Session} {name : String} {store : Store} {action : Action}

/-- Where a store is held, an operation under its name is performed on it. -/
theorem perform_of_held (held : session.stores.get? name = some store) (action : Action) :
    session.perform name action = session.performOn name store action := by
  unfold perform
  rw [held]

/-- An operation on a store leaves a store of the same database under its name, and it is
closed if it was, or if the operation closes it. -/
theorem isOpen_of_use (held : session.stores.get? name = some store)
    (use : action.isUse = true) :
    ∃ left, (session.perform name action).1.stores.get? name = some left ∧
      left.number = store.number ∧
      (left.isOpen = false ↔ store.isOpen = false ∨ session.Closes name action) := by
  have turned {after : Workspace} (left : Store) (follows : store.Follows left)
      (isOpen : left.isOpen = false ↔ store.isOpen = false ∨ session.Closes name action) :
      ∃ found, (session.turn name after left).stores.get? name = some found ∧
        found.number = store.number ∧
        (found.isOpen = false ↔ store.isOpen = false ∨ session.Closes name action) :=
    ⟨left, by simp [turn, keep, Dict.get?_put], follows.number, isOpen⟩
  rw [perform_of_held held]
  cases action with
  | openAt | drop => cases use
  | save symbols =>
    exact turned _ (Store.follows_afterSaving session.workspace store symbols) (by simp [Closes])
  | search | execute | count =>
    exact turned _ (Store.follows_afterSeeing session.workspace store) (by simp [Closes])
  | getAll kinds =>
    exact turned _ (Store.follows_afterListing session.workspace store kinds) (by simp [Closes])
  | countPhrase =>
    exact turned _ (Store.follows_afterCounting session.workspace store)
      (by simp [Closes, Store.afterCounting])
  | clear =>
    exact turned _ (Store.follows_afterClearing session.workspace store) (by simp [Closes])
  | close =>
    exact turned (store.close session.workspace).2 (Store.follows_close ..) (by simp [Closes])
  | createTables =>
    have failed (cause : StoreError) :
        (session.performOn name store .createTables).2 = .error cause ↔
          (store.createTables session.workspace).2.2 = .error cause := by
      unfold performOn
      rcases store.createTables session.workspace with ⟨after, left, error | done⟩ <;>
        simp [Except.map]
    refine turned (store.createTables session.workspace).2.1 (Store.follows_createTables ..) ?_
    simp [Closes, perform_of_held held, failed, Store.isOpen_createTables]

/-- An operation under another name leaves the store of a name. -/
theorem get?_stores_perform_ne {other : String} (different : other ≠ name) :
    (session.perform name action).1.stores.get? other = session.stores.get? other := by
  have kept (store : Store) : (session.stores.put name store).get? other =
      session.stores.get? other := by
    rw [Dict.get?_put, if_neg different]
  have opened (path : Option String) (chunkSize : Nat) :
      (session.openAt name path chunkSize).1.stores.get? other = session.stores.get? other := by
    cases result : (session.opening path chunkSize).2 with
    | error error => rw [openAt_of_error result]
    | ok store =>
      rw [openAt_of_ok result, keep, Dict.get?_put, if_neg different, get?_stores_drop,
        if_neg different]
  unfold perform
  cases session.stores.get? name with
  | none =>
    cases action with
    | openAt path chunkSize => exact opened path chunkSize
    | _ => rfl
  | some store =>
    cases action with
    | openAt path chunkSize => exact opened path chunkSize
    | drop =>
      have dropped := get?_stores_drop session name other
      rwa [if_neg different] at dropped
    | _ => exact kept _

/-- A store that is closed answers so. -/
theorem refuses_of_closed (held : session.stores.get? name = some store)
    (closed : store.isOpen = false) : session.Refuses name := by
  have performed := perform_of_held held
  have saving (symbols : List Symbol) := Store.save_of_closed session.workspace closed symbols
  refine ⟨?_, ?_, ?_, ?_, ?_, ?_, ?_⟩
  · intro action needs
    rw [performed]
    cases action with
    | openAt | save | close | drop => cases needs
    | _ => simp [performOn, Store.search, Store.execute, Store.getAll, Store.count, Store.rows,
        Store.countPhrase, Store.clear, Store.createTables, closed, Except.map]
  · intro other found query
    obtain rfl : store = other := Option.some.inj (held.symm.trans found)
    simp [Store.execute, closed]
  · intro symbols nonempty sound
    rw [← Store.firstDefect?_eq_none_iff 0] at sound
    simp [performed, performOn, saving, nonempty, sound, Except.map]
  · intro symbols unsound
    cases reported : Store.firstDefect? 0 symbols with
    | none =>
      obtain ⟨symbol, inside, defective⟩ := unsound
      exact absurd ((Store.firstDefect?_eq_none_iff 0 symbols).1 reported symbol inside) defective
    | some place =>
      obtain ⟨index, defect⟩ := place
      have nonempty : symbols ≠ [] := by
        rintro rfl
        cases reported
      refine ⟨index, defect, ?_, (Store.firstDefect?_eq_some_iff 0 index symbols defect).1 ?_⟩
      · simp [performed, performOn, saving, nonempty, reported, Except.map]
      · rw [reported, Nat.zero_add]
  · simp [performed, performOn, saving, Except.map]
  · rw [performed]
    rfl
  · intro action use
    rw [performed]
    cases action with
    | openAt | drop => cases use
    | _ =>
      simp [performOn, turn, keep, saving, Store.clear, Store.createTables, Store.close, closed]

/-- What closes a store in a history is the first that happens, or is in the rest. -/
theorem closedIn_cons (session : Session) (name : String) (happening : Happening)
    (rest : List Happening) :
    session.ClosedIn name (happening :: rest) ↔
      (∃ action, happening = .operation name action ∧ session.Closes name action) ∨
        (session.meet happening).ClosedIn name rest := by
  constructor
  · rintro ⟨earlier, action, later, same, closes⟩
    cases earlier with
    | nil => exact .inl ⟨action, (List.cons.inj same).1, closes⟩
    | cons first between =>
      obtain ⟨rfl, rfl⟩ := List.cons.inj same
      exact .inr ⟨between, action, later, rfl, closes⟩
  · rintro (⟨action, rfl, closes⟩ | ⟨earlier, action, later, rfl, closes⟩)
    · exact ⟨[], action, rest, rfl, closes⟩
    · exact ⟨happening :: earlier, action, later, rfl, closes⟩

/-- Whatever happens, a store that is held stays so until it is let go or replaced, and only
an operation of its own closes it. -/
theorem isOpen_of_meet (happening : Happening) (held : session.stores.get? name = some store)
    (use : ∀ action, happening = .operation name action → action.isUse = true) :
    ∃ left, (session.meet happening).stores.get? name = some left ∧ left.number = store.number ∧
      (left.isOpen = false ↔ store.isOpen = false ∨
        ∃ action, happening = .operation name action ∧ session.Closes name action) := by
  cases happening with
  | change workspace => exact ⟨store, held, rfl, by simp⟩
  | operation other action =>
    by_cases same : name = other
    · subst same
      obtain ⟨left, after, number, isOpen⟩ := isOpen_of_use held (use action rfl)
      exact ⟨left, after, number, by simp [isOpen]⟩
    · refine ⟨store, (get?_stores_perform_ne same).trans held, rfl, ?_⟩
      simp [Ne.symm same]

/-- After a history a store is closed if it was before it, or has been closed in it. -/
theorem isOpen_of_meetAll {history : List Happening}
    (held : session.stores.get? name = some store)
    (uses : ∀ action, .operation name action ∈ history → action.isUse = true) :
    ∃ left, (session.meetAll history).stores.get? name = some left ∧
      left.number = store.number ∧
      (left.isOpen = false ↔ store.isOpen = false ∨ session.ClosedIn name history) := by
  induction history generalizing session store with
  | nil => exact ⟨store, held, rfl, by simp [ClosedIn]⟩
  | cons happening rest hypothesis =>
    obtain ⟨middle, heldNext, sameNumber, closedNext⟩ :=
      isOpen_of_meet happening held fun action same => uses action (by simp [same])
    obtain ⟨left, heldLast, number, closed⟩ :=
      hypothesis heldNext fun action inside => uses action (List.mem_cons_of_mem _ inside)
    refine ⟨left, heldLast, number.trans sameNumber, ?_⟩
    rw [closed, closedNext, closedIn_cons, or_assoc]

/-- What closes a store takes no row from any database and adds none. -/
theorem rows_of_closes (held : session.stores.get? name = some store)
    (closes : session.Closes name action) (number : Nat) :
    ((session.perform name action).1.workspace.database number).rows.getD [] =
      (session.workspace.database number).rows.getD [] := by
  rw [perform_of_held held]
  rcases closes with rfl | ⟨rfl, -⟩
  · exact ((Store.keeps_close session.workspace store).tables number).getD_rows
  · exact ((Store.keeps_createTables session.workspace store).tables number).getD_rows

/-- A store is closed by nothing but closing it and a failed creation of its tables, neither
of which changes a row; and once closed it answers as a closed store through every history
that does not replace it or let it go. -/
theorem closed_for_good (held : session.stores.get? name = some store)
    (history : List Happening)
    (uses : ∀ action, .operation name action ∈ history → action.isUse = true) :
    ∃ left, (session.meetAll history).stores.get? name = some left ∧
      left.number = store.number ∧
      (left.isOpen = false ↔ store.isOpen = false ∨ session.ClosedIn name history) ∧
      (left.isOpen = false → (session.meetAll history).Refuses name) ∧
      ∀ action, (session.meetAll history).Closes name action → ∀ number,
        (((session.meetAll history).perform name action).1.workspace.database number).rows.getD [] =
          ((session.meetAll history).workspace.database number).rows.getD [] := by
  obtain ⟨left, heldNow, number, closed⟩ := isOpen_of_meetAll held uses
  refine ⟨left, heldNow, number, closed, ?_, ?_⟩
  · intro isClosed
    exact refuses_of_closed heldNow isClosed
  · intro action closes
    exact rows_of_closes heldNow closes

/-- An object in the place of an index closes a store with a row in its table when the tables
are to be created again; what is done later, here and under another name, leaves it so. -/
theorem closed_for_good_obstructed :
    let kept : Symbol := { name := "kept", kind := .classLike, filePath := "a.py", line := 1 }
    let session := (({} : Session).perform "main" (.openAt none 1000)).1
    let obstructed : Workspace :=
      { databases := [{ rows := some [.ofSymbol kept], obstructed := true, handles := 1 }] }
    let before : List Happening := [.operation "main" .count, .change obstructed]
    let after : List Happening :=
      [.operation "other" (.openAt none 1000), .operation "main" (.save [kept])]
    let history := before ++ .operation "main" .createTables :: after
    session.stores.get? "main" = some { number := 0, recalls := true } ∧
      (session.meetAll before).Closes "main" .createTables ∧
      (session.meetAll history).Refuses "main" := by
  intro kept session obstructed before after history
  have held : session.stores.get? "main" = some { number := 0, recalls := true } := by rfl
  have uses : ∀ action, .operation "main" action ∈ history → action.isUse = true := by
    intro action inside
    have listed : action = .count ∨ action = .createTables ∨ action = .save [kept] := by
      simpa [history, before, after] using inside
    rcases listed with rfl | rfl | rfl <;> rfl
  have closes : (session.meetAll before).Closes "main" .createTables :=
    .inr ⟨rfl, _, rfl⟩
  obtain ⟨left, -, -, closed, refuses, -⟩ := closed_for_good held history uses
  exact ⟨held, closes, refuses (closed.2 (.inr ⟨before, .createTables, after, rfl, closes⟩))⟩

end Session

end SymbolAtlas
