import SymbolAtlas.Store.Opening

/-!
# What other programs do to a database

A database file can be changed from outside while a store is open on it. These
changes reach the database through the path of the store, by a handle of its own;
a store sees them as soon as they are made. Where the path leads to the store's
database no more, or is for the store alone, there is nothing to change, and a
lock is taken on a database that no store knows.

At any time at most one write lock is held from outside: taking another one gives
the earlier one back.
-/

namespace SymbolAtlas.Store

/-- What the path of a store asks for; a store without a path is alone. -/
def holder (store : Store) : Holder :=
  match store.path.map Address.read with
  | some (.ok address) => address.holder
  | _ => .alone

/-- The number of the database that the path of a store leads to now. -/
def fileNumber? (workspace : Workspace) (store : Store) : Option Nat :=
  match store.holder with
  | .alone => none
  | .shared name => workspace.sharedNumber? name
  | .file file =>
    match (workspace.files.fullName? file).bind workspace.entry? with
    | some (.file content) => workspace.numberIn? content
    | _ => none

/-- Change the database in the store's file. -/
def tamper (workspace : Workspace) (store : Store) (change : Database → Database) : Workspace :=
  match store.fileNumber? workspace with
  | none => workspace
  | some number =>
    let attached := workspace.attach number
    let changed := { change (attached.database number) with logged := true }
    (attached.setDatabase number changed).detach number true

/-- From now on rows of a name are refused. Of several refusals of one name the
latest counts. -/
def guardName (workspace : Workspace) (store : Store) (guard : Guard) : Workspace :=
  store.tamper workspace fun database => { database with guards := guard :: database.guards }

/-- A row is inserted as it is, unless rows of its name are left out. -/
def insertUnchecked (workspace : Workspace) (store : Store) (row : Row) : Workspace :=
  store.tamper workspace fun database =>
    match database.guards.find? fun guard => guard.name == row.name with
    | some ⟨_, .skips, _⟩ => database
    | _ => { database with rows := database.rows.map (· ++ [row]) }

/-- The write lock that is held from outside is given back. -/
def giveBack (workspace : Workspace) : Workspace :=
  match workspace.lockedNumber with
  | none => workspace
  | some number =>
    let freed := workspace.setDatabase number { workspace.database number with locked := false }
    { freed.detach number true with lockedNumber := none }

/-- The workspace with an empty file where the path of a store leads to nothing. -/
def touch (workspace : Workspace) (store : Store) : Workspace :=
  match store.holder with
  | .file file =>
    match workspace.files.fullName? file with
    | some names =>
      if (workspace.entry? names).isNone && workspace.hasDirectory names.dropLast then
        workspace.bind names (some (.file (.text "" none)))
      else workspace
    | none => workspace
  | _ => workspace

/-- The write lock is taken. -/
def lock (workspace : Workspace) (store : Store) : Workspace :=
  let (found, number) := match store.fileNumber? workspace with
    | some number => (workspace, number)
    | none => (store.touch workspace).addDatabase {}
  let attached := (giveBack found).attach number
  { attached.setDatabase number { attached.database number with locked := true } with
    lockedNumber := some number }

/-- The write lock is given back, whichever store it was taken by; whether one was
held. -/
def unlock (workspace : Workspace) : Workspace × Bool :=
  (giveBack workspace, workspace.lockedNumber.isSome)

/-- An object is put in the place of an index. -/
def obstruct (workspace : Workspace) (store : Store) : Workspace :=
  store.tamper workspace fun database => { database with obstructed := true }

/-- The table is dropped, and with it the refusals of rows. -/
def dropTable (workspace : Workspace) (store : Store) : Workspace :=
  store.tamper workspace Database.dropTable

end SymbolAtlas.Store
