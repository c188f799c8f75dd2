import SymbolAtlas.Store.Address
import SymbolAtlas.Store.Basic

/-!
# Opening stores

A store is opened in stages, and the stage that fails is the error reported: the
directory is made, the address is read, the file is opened, the database is
configured, its tables are created. What an earlier stage has done stays done.

A file of at most one byte is a new database; any other file is one only if it
was made one. Beside the file three names count. A journal left by another
program is taken away, and so is the log beside a new database. A directory or a
link in one of these places stands in the way, since none of the three is ever
reached through a link; what it stands in the way of decides the error.
-/

namespace SymbolAtlas

/-- The report of a file that cannot be opened. -/
def cannotOpen : String := "unable to open database file"

/-- The report of a file that cannot be read or taken away. -/
def cannotRead : String := "disk I/O error"

/-- The report of a file that is no database. -/
def notDatabase : String := "file is not a database"

namespace Content

/-- Whether a content has at most one byte. -/
def isBrief : Content → Bool
  | .text written _ => decide (written.utf8ByteSize ≤ 1)
  | .bytes raw => decide (raw.length ≤ 1)
  | .overwritten _ content => content.isBrief
  | _ => false

/-- Whether a content is there and does not begin with a zero byte. -/
def isMarked : Content → Bool
  | .text written _ => !written.isEmpty && written.toList.head? != some '\x00'
  | .bytes raw => !raw.isEmpty && raw.head? != some 0
  | _ => true

/-- Whether a content has no bytes. -/
def isVoid : Content → Bool
  | .text written _ => written.isEmpty
  | .bytes raw => raw.isEmpty
  | .overwritten _ content => content.isVoid
  | _ => false

end Content

namespace Workspace

/-- Whether something is found at some names, a link followed. A file without bytes
counts for nothing. -/
def finds (workspace : Workspace) (names : List String) : Bool :=
  match workspace.files.placeOf .target (.go .root :: names.map fun name => .go (.name name)) with
  | .present _ (.file content) => !content.isVoid
  | .present _ _ => true
  | _ => false

/-- The names of the journal of a database. -/
def journalNames (names : List String) : List String :=
  besideNames names "-journal"

/-- The names of the log of a database. -/
def logNames (names : List String) : List String :=
  besideNames names Side.log.ending

/-- The names of the index into the log of a database. -/
def indexNames (names : List String) : List String :=
  besideNames names Side.index.ending

/-- Take away what is found at some names, unless it is a directory. -/
def sweep (workspace : Workspace) (names : List String) : Workspace :=
  match workspace.entry? names with
  | some (.directory _) => workspace
  | _ => if workspace.finds names then workspace.bind names none else workspace

/-- Whether a directory is at some names. -/
def hasDirectory (workspace : Workspace) (names : List String) : Bool :=
  match workspace.entry? names with
  | some (.directory _) => true
  | _ => false

/-- Whether a link is at some names. -/
def hasLink (workspace : Workspace) (names : List String) : Bool :=
  match workspace.entry? names with
  | some (.link _) => true
  | _ => false

/-- Whether a regular file can be made or written at some names. -/
def admitsFile (workspace : Workspace) (names : List String) : Bool :=
  !workspace.hasDirectory names && !workspace.hasLink names &&
    decide ((names.getLast?.getD "").utf8ByteSize ≤ Files.nameLimit)

/-- The number of the database that stores share in memory by a name. -/
def sharedNumber? (workspace : Workspace) (name : String) : Option Nat :=
  workspace.databases.findIdx? fun database =>
    database.sharedName == some name && decide (0 < database.handles)

end Workspace

namespace Store

/-- Prepare a store on a database that is there: its tables are created, or the
store is let go again. -/
def prepare (workspace : Workspace) (store : Store) : Workspace × Except StoreError Store :=
  let attached := workspace.attach store.number
  let (database, result) := (attached.database store.number).createTables store.writable
  let changed := attached.setDatabase store.number database
  match result with
  | .ok () => (changed, .ok store)
  | .error error => (changed.detach store.number store.writable, .error error)

/-- A store on a new database that has no file. -/
def openPrivate (workspace : Workspace) (path : Option String) (chunkSize : Nat)
    (access : Access) (sharedName : Option String) : Workspace × Except StoreError Store :=
  let (added, number) := workspace.addDatabase { sharedName := sharedName }
  prepare added
    { number := number, path := path, chunkSize := chunkSize, recalls := true
      writable := access != .readOnly }

/-- A store in memory. -/
def inMemory (workspace : Workspace) : Workspace × Except StoreError Store :=
  openPrivate workspace none usualChunkSize .create none

/-- A store on the database that others share by a name, which is new where there is
none. -/
def openShared (workspace : Workspace) (path : String) (chunkSize : Nat) (access : Access)
    (name : String) : Workspace × Except StoreError Store :=
  match workspace.sharedNumber? name with
  | none => openPrivate workspace (some path) chunkSize access (some name)
  | some number =>
    prepare workspace
      { number := number, path := some path, chunkSize := chunkSize
        writable := access != .readOnly }

/-- A store on a new database in a file that is there and holds next to nothing. -/
def openNew (workspace : Workspace) (path : String) (chunkSize : Nat) (access : Access)
    (names : List String) : Workspace × Except StoreError Store :=
  if access = .readOnly then (workspace, .error (.configuration Database.writeDenied))
  else
    let swept := workspace.sweep (Workspace.journalNames names)
    if swept.hasDirectory (Workspace.logNames names) then
      (swept, .error (.configuration cannotRead))
    else
      let clean := swept.sweep (Workspace.logNames names)
      if !clean.admitsFile (Workspace.journalNames names) then
        (clean, .error (.configuration cannotOpen))
      else
        let (added, number) := (clean.bind (Workspace.journalNames names) none).addDatabase
          { home := some names }
        let made := added.bind names (some (.file (.database number)))
        if made.hasLink (Workspace.logNames names) then (made, .error (.schema cannotOpen))
        else if made.hasLink (Workspace.indexNames names) then
          (Workspace.putSide number names made .log, .error (.schema cannotOpen))
        else if made.hasDirectory (Workspace.indexNames names) then
          (Workspace.putSide number names made .log,
            .error (.schema Database.writeDenied))
        else
          prepare made
            { number := number, path := some path, chunkSize := chunkSize, recalls := true }

/-- What a journal beside a database means for a store: a failure, or that it is
taken away. A journal that begins with a zero byte means nothing. -/
def meetJournal (workspace : Workspace) (number : Nat) (access : Access) (names : List String) :
    Workspace × Option String :=
  let journal := Workspace.journalNames names
  match workspace.entry? journal with
  | none => (workspace, none)
  | some (.directory _) => (workspace, some cannotRead)
  | some (.link _) =>
    (workspace,
      if !workspace.finds journal then none
      else if access = .readOnly then some Database.writeDenied
      else if 0 < (workspace.database number).handles then
        some (workspace.database number).lockHeld
      else some cannotOpen)
  | some (.file content) =>
    if !content.isMarked then (workspace, none)
    else if access = .readOnly then (workspace, some Database.writeDenied)
    else if 0 < (workspace.database number).handles then
      (workspace, some (workspace.database number).lockHeld)
    else (workspace.bind journal none, none)

/-- Whether the log of a database in use is not where it was. -/
def lacksLog (workspace : Workspace) (number : Nat) (names : List String) : Bool :=
  let database := workspace.database number
  database.logged && decide (0 < database.handles) &&
    match workspace.entry? (Workspace.logNames names) with
    | some (.file (.side .log other)) => other != number
    | _ => true

/-- Whether a test holds of the index into the log of a database without handles.
Once there are handles the index is theirs, whatever is at its place. -/
def indexMeets (workspace : Workspace) (number : Nat) (names : List String)
    (test : Workspace → List String → Bool) : Bool :=
  decide ((workspace.database number).handles = 0) &&
    test workspace (Workspace.indexNames names)

/-- A store on a database that is there. Where the index into the log cannot be
written, the store may only read. -/
def openKnown (workspace : Workspace) (path : String) (chunkSize : Nat) (access : Access)
    (names : List String) (number : Nat) : Workspace × Except StoreError Store :=
  match meetJournal workspace number access names with
  | (left, some cause) => (left, .error (.configuration cause))
  | (left, none) =>
    if left.hasDirectory (Workspace.logNames names) || left.hasLink (Workspace.logNames names) then
      (left, .error (.configuration cannotOpen))
    else if indexMeets left number names Workspace.hasLink then
      (Workspace.putSide number names left .log, .error (.configuration cannotOpen))
    else if lacksLog left number names then
      (left.bind (Workspace.logNames names) (some (.file (.text "" none))),
        .error (.configuration cannotRead))
    else
      prepare left
        { number := number, path := some path, chunkSize := chunkSize
          writable := access != .readOnly && !indexMeets left number names Workspace.hasDirectory }

/-- What becomes of a file that is no database: the files beside it are taken away
where they can be. -/
def refuseFile (workspace : Workspace) (names : List String) :
    Workspace × Except StoreError Store :=
  if workspace.hasDirectory (Workspace.journalNames names) then
    (workspace, .error (.configuration cannotRead))
  else
    let swept := workspace.sweep (Workspace.journalNames names)
    if swept.hasDirectory (Workspace.logNames names) then
      (swept, .error (.configuration cannotOpen))
    else (swept.sweep (Workspace.logNames names), .error (.configuration notDatabase))

/-- Open the store of a file, given its full name if it has one. -/
def openFile (workspace : Workspace) (path : String) (chunkSize : Nat) (access : Access) :
    Option (List String) → Workspace × Except StoreError Store
  | none => (workspace, .error (.opening (cannotOpen ++ ": " ++ path)))
  | some names =>
    match workspace.entry? names with
    | some (.file content) =>
      match workspace.numberIn? content with
      | some number =>
        if content.isBrief then
          (workspace, .error (.configuration (workspace.database number).lockHeld))
        else openKnown workspace path chunkSize access names number
      | none =>
        if content.isBrief then openNew workspace path chunkSize access names
        else refuseFile workspace names
    | some (.directory _) =>
      (workspace, .error (.opening
        (if access = .readOnly then cannotRead else cannotOpen ++ ": " ++ path)))
    | some (.link _) => (workspace, .error (.opening (cannotOpen ++ ": " ++ path)))
    | none =>
      if access = .create && workspace.hasDirectory names.dropLast then
        openNew (workspace.bind names (some (.file (.text "" none)))) path chunkSize access names
      else (workspace, .error (.opening (cannotOpen ++ ": " ++ path)))

/-- Open the store at an address. -/
def openAddress (workspace : Workspace) (path : String) (chunkSize : Nat) (address : Address) :
    Workspace × Except StoreError Store :=
  match address.holder with
  | .alone => openPrivate workspace (some path) chunkSize address.access none
  | .shared name => openShared workspace path chunkSize address.access name
  | .file file =>
    openFile workspace path chunkSize address.access (workspace.files.fullName? file)

/-- The place of the first null character of a path, counted in bytes. -/
def nullPosition? (path : String) : Option Nat :=
  if path.toList.contains '\x00' then
    some (Text.byteSize (path.toList.takeWhile (· ≠ '\x00')))
  else none

/-- Open the store at a path, making the directory it lies in and the database where
they are missing. -/
def openAt (workspace : Workspace) (path : String) (chunkSize : Nat) :
    Workspace × Except StoreError Store :=
  match workspace.files.makeParent path with
  | (files, .error error) => (workspace.withFiles files, .error (.directory error.message))
  | (files, .ok ()) =>
    let made := workspace.withFiles files
    match nullPosition? path with
    | some position =>
      (made, .error (.opening
        ("nul byte found in provided data at position: " ++ toString position)))
    | none =>
      match Address.read path with
      | .error error => (made, .error (.opening error.message))
      | .ok address => openAddress made path chunkSize address

end Store

end SymbolAtlas
