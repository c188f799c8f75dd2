import SymbolAtlas.Dict
import SymbolAtlas.Store.Opening

/-!
# Sessions

Any number of stores, each under a name, used one after another on one
workspace. A session is what histories of store operations are made of: `perform`
is one operation on one store and `performAll` a whole history.

Opening a store under a name that is taken lets the earlier store go, once the
new one is open; where opening fails the earlier one stays.
-/

namespace SymbolAtlas

/-- Stores by name on one workspace. -/
structure Session where
  workspace : Workspace := {}
  stores : Dict Store := []

/-- An operation on a store. -/
inductive Action where
  /-- Open a store at a path, or in memory. -/
  | openAt (path : Option String) (chunkSize : Nat)
  | save (symbols : List Symbol)
  | search (request : Request)
  /-- Run the query of a request with another cap. -/
  | execute (request : Request) (cap : UInt64)
  | getAll (kinds : List Kind)
  | count
  | countPhrase (phrase : String)
  | clear
  | createTables
  | close
  /-- Let the store go, closed or not. -/
  | drop
  deriving DecidableEq, Repr

/-- What an operation gives. -/
inductive Reply where
  | done
  | number (value : Nat)
  | symbols (symbols : List Symbol)
  | truth (value : Bool)
  deriving DecidableEq, Repr

namespace Session

/-- Let the store of a name go. -/
def drop (session : Session) (name : String) : Session :=
  match session.stores.get? name with
  | none => session
  | some store =>
    { workspace := (store.close session.workspace).1, stores := session.stores.remove name }

/-- Put a store under a name. -/
def keep (session : Session) (name : String) (store : Store) : Session :=
  { session with stores := session.stores.put name store }

/-- Open a store under a name. -/
def openAt (session : Session) (name : String) (path : Option String) (chunkSize : Nat) :
    Session × Except StoreError Reply :=
  let opened := match path with
    | some path => Store.openAt session.workspace path chunkSize
    | none => Store.inMemory session.workspace
  let changed := { session with workspace := opened.1 }
  match opened.2 with
  | .error error => (changed, .error error)
  | .ok store => ((changed.drop name).keep name store, .ok .done)

/-- The session after an operation that has changed the workspace and the store of a
name. -/
def turn (session : Session) (name : String) (workspace : Workspace) (store : Store) : Session :=
  { session with workspace := workspace }.keep name store

/-- Perform an operation on an existing store. -/
def performOn (session : Session) (name : String) (store : Store) :
    Action → Session × Except StoreError Reply
  | .openAt path chunkSize => session.openAt name path chunkSize
  | .save symbols =>
    let (workspace, result) := store.save session.workspace symbols
    (session.turn name workspace (store.afterSaving session.workspace symbols),
      result.map .number)
  | .search request =>
    (session.keep name (store.afterSeeing session.workspace),
      (store.search session.workspace request).map .symbols)
  | .execute request cap =>
    (session.keep name (store.afterSeeing session.workspace),
      (store.execute session.workspace { request.compile with cap := cap }).map .symbols)
  | .getAll kinds =>
    (session.keep name (store.afterListing session.workspace kinds),
      (store.getAll session.workspace kinds).map .symbols)
  | .count =>
    (session.keep name (store.afterSeeing session.workspace),
      (store.count session.workspace).map .number)
  | .countPhrase phrase =>
    (session.keep name (store.afterCounting session.workspace),
      (store.countPhrase session.workspace phrase).map .number)
  | .clear =>
    let (workspace, result) := store.clear session.workspace
    (session.turn name workspace (store.afterClearing session.workspace), result.map .number)
  | .createTables =>
    let (workspace, left, result) := store.createTables session.workspace
    (session.turn name workspace left, result.map fun _ => .done)
  | .close =>
    let (workspace, left) := store.close session.workspace
    (session.turn name workspace left, .ok .done)
  | .drop => (session.drop name, .ok (.truth true))

/-- Perform an operation under a name. Where there is no store of that name, one can
be opened or found missing; anything else is refused as on a closed store. -/
def perform (session : Session) (name : String) (action : Action) :
    Session × Except StoreError Reply :=
  match session.stores.get? name with
  | some store => session.performOn name store action
  | none =>
    match action with
    | .openAt path chunkSize => session.openAt name path chunkSize
    | .drop => (session, .ok (.truth false))
    | _ => (session, .error .closed)

/-- Perform operations one after another, whatever they give. -/
def performAll (session : Session) (actions : List (String × Action)) : Session :=
  actions.foldl (fun session (name, action) => (session.perform name action).1) session

end Session

end SymbolAtlas
