import SymbolAtlas.Proofs.Dict
import SymbolAtlas.Store.Session

/-!
# The stores that a session holds

An operation under a name leaves the stores of all other names alone. Under its own
name it leaves the store that was there, which may have been closed but never
opened again and keeps its database, or the store it has opened. `held_perform` says
so once for every operation, and what holds of all stores of a session is proved
from it.
-/

namespace SymbolAtlas

/-- A later state of a store: it names the same database, and is open only if it was. -/
structure Store.Follows (before after : Store) : Prop where
  number : after.number = before.number
  isOpen : after.isOpen = true → before.isOpen = true

namespace Store

/-- A store follows itself. -/
theorem Follows.refl (store : Store) : store.Follows store :=
  ⟨rfl, id⟩

/-- Saving turns a store into a later state of it. -/
theorem follows_afterSaving (workspace : Workspace) (store : Store) (symbols : List Symbol) :
    store.Follows (store.afterSaving workspace symbols) := by
  unfold afterSaving
  dsimp only
  repeat' split
  all_goals exact ⟨rfl, id⟩

/-- Looking at the table turns a store into a later state of it. -/
theorem follows_afterSeeing (workspace : Workspace) (store : Store) :
    store.Follows (store.afterSeeing workspace) := by
  unfold afterSeeing
  split <;> exact ⟨rfl, id⟩

/-- Listing symbols turns a store into a later state of it. -/
theorem follows_afterListing (workspace : Workspace) (store : Store) (kinds : List Kind) :
    store.Follows (store.afterListing workspace kinds) := by
  unfold afterListing
  split
  · exact .refl store
  · exact follows_afterSeeing workspace store

/-- Clearing the table turns a store into a later state of it. -/
theorem follows_afterClearing (workspace : Workspace) (store : Store) :
    store.Follows (store.afterClearing workspace) := by
  unfold afterClearing
  dsimp only
  repeat' split
  all_goals exact ⟨rfl, id⟩

/-- Asking the phrase index turns a store into a later state of it. -/
theorem follows_afterCounting (workspace : Workspace) (store : Store) :
    store.Follows (store.afterCounting workspace) :=
  ⟨rfl, id⟩

/-- Closing turns a store into a later state of it. -/
theorem follows_close (workspace : Workspace) (store : Store) :
    store.Follows (store.close workspace).2 := by
  unfold close
  split
  · exact ⟨rfl, by simp⟩
  · exact .refl store

/-- Creating the tables turns a store into a later state of it, closed or not. -/
theorem follows_createTables (workspace : Workspace) (store : Store) :
    store.Follows (store.createTables workspace).2.1 := by
  unfold createTables
  split
  · dsimp only
    cases (workspace.database store.number).createTables store.writable with
    | mk database result =>
      cases result with
      | error error => exact follows_close ..
      | ok =>
        dsimp only
        split <;> exact ⟨rfl, id⟩
  · exact .refl store

end Store

namespace Session

/-- What opening a store comes to, before the session takes it in. -/
def opening (session : Session) (path : Option String) (chunkSize : Nat) :
    Workspace × Except StoreError Store :=
  match path with
  | some path => Store.openAt session.workspace path chunkSize
  | none => Store.inMemory session.workspace

/-- A failed opening changes at most the workspace. -/
theorem openAt_of_error {session : Session} {name : String} {path : Option String}
    {chunkSize : Nat} {error : StoreError}
    (failed : (session.opening path chunkSize).2 = .error error) :
    (session.openAt name path chunkSize).1 =
      { session with workspace := (session.opening path chunkSize).1 } := by
  cases path <;> simp only [opening] at failed ⊢ <;> simp only [openAt, failed]

/-- A store that was opened takes the place of the one that had its name. -/
theorem openAt_of_ok {session : Session} {name : String} {path : Option String}
    {chunkSize : Nat} {store : Store} (opened : (session.opening path chunkSize).2 = .ok store) :
    (session.openAt name path chunkSize).1 =
      ({ session with workspace := (session.opening path chunkSize).1 }.drop name).keep
        name store := by
  cases path <;> simp only [opening] at opened ⊢ <;> simp only [openAt, opened]

/-- Letting a store go leaves the stores of the other names, and only those. -/
theorem get?_stores_drop (session : Session) (name other : String) :
    (session.drop name).stores.get? other =
      if other = name then none else session.stores.get? other := by
  unfold drop
  by_cases same : other = name
  · subst same
    cases held : session.stores.get? other with
    | none => simp [held]
    | some store => simp [Dict.get?_remove]
  · cases session.stores.get? name with
    | none => simp [same]
    | some store => simp [Dict.get?_remove, same]

/-- A store held after an operation is a later state of the one that its name had
before, or the operation has opened it. -/
theorem held_perform {session : Session} {name other : String} {action : Action}
    {store : Store} (held : (session.perform name action).1.stores.get? other = some store) :
    (∃ old, session.stores.get? other = some old ∧ old.Follows store) ∨
      ∃ path chunkSize, action = .openAt path chunkSize ∧ other = name ∧
        (session.opening path chunkSize).2 = .ok store := by
  have turned {old new : Store} (before : session.stores.get? name = some old)
      (follows : old.Follows new)
      (after : (session.stores.put name new).get? other = some store) :
      ∃ old, session.stores.get? other = some old ∧ old.Follows store := by
    rw [Dict.get?_put] at after
    by_cases same : other = name
    · rw [if_pos same] at after
      obtain rfl := Option.some.inj after
      exact ⟨old, same ▸ before, follows⟩
    · rw [if_neg same] at after
      exact ⟨store, after, .refl store⟩
  have opened {path : Option String} {chunkSize : Nat}
      (after : (session.openAt name path chunkSize).1.stores.get? other = some store) :
      (∃ old, session.stores.get? other = some old ∧ old.Follows store) ∨
        other = name ∧ (session.opening path chunkSize).2 = .ok store := by
    cases result : (session.opening path chunkSize).2 with
    | error error =>
      rw [openAt_of_error result] at after
      exact .inl ⟨store, after, .refl store⟩
    | ok new =>
      rw [openAt_of_ok result, keep, Dict.get?_put] at after
      by_cases same : other = name
      · rw [if_pos same] at after
        exact .inr ⟨same, congrArg Except.ok (Option.some.inj after)⟩
      · rw [if_neg same, get?_stores_drop, if_neg same] at after
        exact .inl ⟨store, after, .refl store⟩
  unfold perform at held
  cases before : session.stores.get? name with
  | none =>
    rw [before] at held
    cases action with
    | openAt path chunkSize =>
      rcases opened held with kept | new
      · exact .inl kept
      · exact .inr ⟨path, chunkSize, rfl, new⟩
    | _ => exact .inl ⟨store, held, .refl store⟩
  | some old =>
    rw [before] at held
    cases action with
    | openAt path chunkSize =>
      rcases opened held with kept | new
      · exact .inl kept
      · exact .inr ⟨path, chunkSize, rfl, new⟩
    | save symbols => exact .inl (turned before (Store.follows_afterSaving ..) held)
    | clear => exact .inl (turned before (Store.follows_afterClearing ..) held)
    | createTables => exact .inl (turned before (Store.follows_createTables ..) held)
    | close => exact .inl (turned before (Store.follows_close ..) held)
    | countPhrase phrase => exact .inl (turned before (Store.follows_afterCounting ..) held)
    | getAll kinds => exact .inl (turned before (Store.follows_afterListing ..) held)
    | drop =>
      have after : (session.drop name).stores.get? other = some store := held
      rw [get?_stores_drop] at after
      exact .inl ⟨store, (Option.ite_none_left_eq_some.1 after).2, .refl store⟩
    | _ => exact .inl (turned before (Store.follows_afterSeeing ..) held)

end Session

end SymbolAtlas
