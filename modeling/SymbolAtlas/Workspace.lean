import SymbolAtlas.Files.FullName
import SymbolAtlas.Store.Database

/-!
# Workspaces

A file system together with the databases in use. A database is known by its
number: the file that holds it and the stores opened on it name the same number,
so that two stores on one file see each other's rows, and a store keeps its
database when the file is taken away.

While a database in a file has handles, two files stand beside it: the log, to
which changes go first, and the index into the log. The last handle carries the
changes over and takes the two files away, provided it may write and still finds
its database where it was opened; otherwise they stay.
-/

namespace SymbolAtlas

/-- A file system and the databases in use. -/
structure Workspace where
  files : Files := {}
  databases : List Database := []
  /-- The database whose write lock another program holds. -/
  lockedNumber : Option Nat := none

namespace Workspace

/-- The database of a number; an empty one where there is none. -/
def database (workspace : Workspace) (number : Nat) : Database :=
  (workspace.databases[number]?).getD {}

/-- The workspace with the database of a number replaced. -/
def setDatabase (workspace : Workspace) (number : Nat) (database : Database) : Workspace :=
  { workspace with databases := workspace.databases.set number database }

/-- The workspace with one more database, and its number. -/
def addDatabase (workspace : Workspace) (database : Database) : Workspace × Nat :=
  ({ workspace with databases := workspace.databases ++ [database] }, workspace.databases.length)

/-- The workspace with other files. -/
def withFiles (workspace : Workspace) (files : Files) : Workspace :=
  { workspace with files := files }

/-- The entry at some names. -/
def entry? (workspace : Workspace) (names : List String) : Option Entry :=
  entryAt names workspace.files.entries

/-- The workspace with the entry at some names bound anew. -/
def bind (workspace : Workspace) (names : List String) (entry : Option Entry) : Workspace :=
  workspace.withFiles (workspace.files.bind names entry)

end Workspace

/-- The names of a file beside another, whose last name has an ending more. -/
def besideNames (names : List String) (ending : String) : List String :=
  match names.getLast? with
  | none => []
  | some last => names.dropLast ++ [last ++ ending]

namespace Side

/-- The ending of the names of a file beside a database. -/
def ending : Side → String
  | log => "-wal"
  | index => "-shm"

end Side

namespace Workspace

/-- Put a file beside a database, unless something other than a regular file is
there. -/
def putSide (number : Nat) (names : List String) (workspace : Workspace) (side : Side) :
    Workspace :=
  let beside := besideNames names side.ending
  match workspace.entry? beside with
  | none => workspace.bind beside (some (.file (.side side number)))
  | some (.file _) => workspace.bind beside (some (.file (.side side number)))
  | some _ => workspace

/-- Take away the file beside a database, unless it is something other than a
regular file. -/
def removeSide (names : List String) (workspace : Workspace) (side : Side) : Workspace :=
  let beside := besideNames names side.ending
  match workspace.entry? beside with
  | some (.file _) => workspace.bind beside none
  | _ => workspace

/-- The files that one more handle puts beside a database. The index is put there by
the first handle and shared by the others. -/
def neededSides (database : Database) : List Side :=
  if database.handles = 0 then [.log, .index] else [.log]

/-- Count one more handle on a database; the files beside it are there from now on. -/
def attach (workspace : Workspace) (number : Nat) : Workspace :=
  let database := workspace.database number
  let counted := workspace.setDatabase number { database with handles := database.handles + 1 }
  match database.home with
  | none => counted
  | some names => (neededSides database).foldl (putSide number names) counted

/-- The number of the database in a file. A database whose changes are all in its
log outlives what is written over it, as long as it has handles. -/
def numberIn? (workspace : Workspace) : Content → Option Nat
  | .database number => some number
  | .overwritten number _ =>
    let database := workspace.database number
    if 0 < database.handles && !database.settled then some number else none
  | _ => none

/-- Whether the file of a database is where it was opened. -/
def isAtHome (workspace : Workspace) (number : Nat) (names : List String) : Bool :=
  match workspace.entry? names with
  | some (.file content) => workspace.numberIn? content == some number
  | _ => false

/-- Carry the changes of a database over from its log, and take the files beside it
away. -/
def settle (workspace : Workspace) (number : Nat) (names : List String) : Workspace :=
  [Side.log, .index].foldl (removeSide names)
    ((workspace.setDatabase number
      { workspace.database number with logged := false, settled := true }).bind names
        (some (.file (.database number))))

/-- Count one handle less on a database. -/
def detach (workspace : Workspace) (number : Nat) (writable : Bool) : Workspace :=
  let database := workspace.database number
  let counted := workspace.setDatabase number { database with handles := database.handles - 1 }
  match database.home with
  | none => counted
  | some names =>
    if database.handles ≤ 1 && writable && workspace.isAtHome number names then
      counted.settle number names
    else counted

/-- What a database file begins with before changes are carried over into it: its
format, the size of a page and the version of its maker, and an empty page. -/
def blankPage : String :=
  let zeros := fun (count : Nat) => String.ofList (List.replicate count '\x00')
  "SQLite format 3\x00\x10\x00\x02\x02\x00@  \x00\x00\x00\x01\x00\x00\x00\x01" ++ zeros 63 ++
    "\x01\x00.zp\r" ++ zeros 4 ++ "\x10" ++ zeros 3990

/-- The text of a regular file. A database can be read as text only before changes
have been carried over into it, and its log only while that is empty. -/
def read (workspace : Workspace) (path : String) : Except FileError String :=
  match workspace.files.place path with
  | .present _ (.file (.database number)) =>
    if (workspace.database number).settled then .error .invalidText else .ok blankPage
  | .present _ (.file (.side .log number)) =>
    if (workspace.database number).logged then .error .invalidText else .ok ""
  | _ => (workspace.files.read path).map Prod.fst

end Workspace

end SymbolAtlas
