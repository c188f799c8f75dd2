import SymbolAtlas.Workspace

/-!
# Stores

A store is an open handle on a database. A closed store answers no question and
changes nothing; it is closed by closing it or by a failed creation of its
tables, and stays so.

Saving is all or nothing: an empty batch is saved at once, otherwise every
symbol is checked before the store is looked at, and only a sound batch on an
open store reaches the database.

A store has the table in mind once it has written to it, and has its insertion
ready. It then asks for the right to write before it looks for the table, so
this decides which of two hindrances it reports, and nothing else.
-/

namespace SymbolAtlas

/-- A handle on a database. -/
structure Store where
  /-- The number of the database. -/
  number : Nat
  /-- The path it was opened by; none for a store in memory. -/
  path : Option String := none
  /-- How many rows are inserted at a time. -/
  chunkSize : Nat := 1000
  isOpen : Bool := true
  /-- Whether it may change the database. -/
  writable : Bool := true
  /-- Whether it has the table in mind. -/
  recalls : Bool := false
  /-- Whether its insertion is ready. -/
  ready : Bool := false
  deriving DecidableEq, Repr

/-- How many rows are inserted at a time when nothing else is said. -/
def usualChunkSize : Nat := 1000

namespace Store

/-- The store as a writer that deletes. -/
def writer (store : Store) : Writer where
  writable := store.writable
  recalls := store.recalls

/-- The store as a writer that inserts. -/
def inserter (store : Store) : Writer where
  writable := store.writable
  recalls := store.recalls || store.ready

/-- Close a store. A store that is closed already is left so. -/
def close (workspace : Workspace) (store : Store) : Workspace × Store :=
  if store.isOpen then
    (workspace.detach store.number store.writable, { store with isOpen := false })
  else (workspace, store)

/-- Create the tables anew where they are missing. Failing to closes the store. -/
def createTables (workspace : Workspace) (store : Store) :
    Workspace × Store × Except StoreError Unit :=
  if store.isOpen then
    let before := workspace.database store.number
    let (database, result) := before.createTables store.writable
    let changed := workspace.setDatabase store.number database
    match result with
    | .ok () =>
      (changed,
        if before.rows.isNone then { store with recalls := false, ready := false } else store,
        .ok ())
    | .error error =>
      let (left, closed) := close changed store
      (left, closed, .error error)
  else (workspace, store, .error .closed)

/-- The first unsound symbol of a batch with its position, counted from a number. -/
def firstDefect? : Nat → List Symbol → Option (Nat × Defect)
  | _, [] => none
  | index, symbol :: rest =>
    match symbol.defect? with
    | some defect => some (index, defect)
    | none => firstDefect? (index + 1) rest

/-- Save a batch of symbols, giving its length. -/
def save (workspace : Workspace) (store : Store) (symbols : List Symbol) :
    Workspace × Except StoreError Nat :=
  if symbols.isEmpty then (workspace, .ok 0)
  else match firstDefect? 0 symbols with
    | some (index, defect) => (workspace, .error (.unsound index defect))
    | none =>
      if store.isOpen then
        let (database, result) :=
          (workspace.database store.number).insert store.inserter store.chunkSize
            (symbols.map Row.ofSymbol)
        let changed := workspace.setDatabase store.number database
        match result with
        | .ok () => (changed, .ok symbols.length)
        | .error error => (changed, .error error)
      else (workspace, .error .closed)

/-- The rows that a store reads. -/
def rows (workspace : Workspace) (store : Store) : Except StoreError (List Row) :=
  if store.isOpen then (workspace.database store.number).table else .error .closed

/-- Run a query. -/
def execute (workspace : Workspace) (store : Store) (query : Query) :
    Except StoreError (List Symbol) :=
  if store.isOpen then (workspace.database store.number).answer query else .error .closed

/-- Search for a request. -/
def search (workspace : Workspace) (store : Store) (request : Request) :
    Except StoreError (List Symbol) :=
  store.execute workspace request.compile

/-- Every symbol of the chosen kinds in source order. -/
def getAll (workspace : Workspace) (store : Store) (kinds : List Kind) :
    Except StoreError (List Symbol) :=
  if store.isOpen then (workspace.database store.number).list kinds else .error .closed

/-- The number of symbols. -/
def count (workspace : Workspace) (store : Store) : Except StoreError Nat :=
  match store.rows workspace with
  | .ok rows => .ok rows.length
  | .error error => .error error

/-- The number of symbols with a phrase in one of their names. The phrase index
answers also while the table is missing. -/
def countPhrase (workspace : Workspace) (store : Store) (phrase : String) :
    Except StoreError Nat :=
  if store.isOpen then .ok ((workspace.database store.number).phraseCount phrase)
  else .error .closed

/-- Delete every symbol, giving their number. -/
def clear (workspace : Workspace) (store : Store) : Workspace × Except StoreError Nat :=
  if store.isOpen then
    let (database, result) := (workspace.database store.number).clear store.writer
    (workspace.setDatabase store.number database, result)
  else (workspace, .error .closed)

/-- The store once it has seen whether the table is there. -/
def afterSeeing (workspace : Workspace) (store : Store) : Store :=
  if (workspace.database store.number).rows.isNone then { store with recalls := false } else store

/-- The store once it has listed symbols. A statement with too many values is given up
before it is seen whether the table is there. -/
def afterListing (workspace : Workspace) (store : Store) (kinds : List Kind) : Store :=
  if valueLimit < kinds.length then store else store.afterSeeing workspace

/-- The store once it has deleted the rows of the table, or tried to. -/
def afterClearing (workspace : Workspace) (store : Store) : Store :=
  let database := workspace.database store.number
  if database.rows.isSome then { store with recalls := true }
  else if database.hindrance? store.writer = some Database.missingTable then
    { store with recalls := false }
  else store

/-- The store once it has saved a batch, or tried to. -/
def afterSaving (workspace : Workspace) (store : Store) (symbols : List Symbol) : Store :=
  let database := workspace.database store.number
  if symbols.isEmpty || (firstDefect? 0 symbols).isSome then store
  else if database.rows.isSome then { store with recalls := true, ready := true }
  else if database.hindrance? store.inserter = some Database.missingTable then
    { store with recalls := false, ready := false }
  else store

/-- The store once it has asked the phrase index. -/
def afterCounting (workspace : Workspace) (store : Store) : Store :=
  { store with recalls := (workspace.database store.number).rows.isSome }

end Store

end SymbolAtlas
