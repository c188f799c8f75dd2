import SymbolAtlas.Text.Percent
import SymbolAtlas.Text.Split

/-!
# Database addresses

A database is asked for by a text. Mostly the text is the path of its file. A
text that begins with `file:` is an address instead: a path with percent codes,
options behind a question mark, and a fragment behind a hash sign, which counts
for nothing. Between two leading separators and the next one an address may name
this machine, and no other.

The options say what may be done with the file, whether the database lives in
memory, and whether databases in memory are shared by their names. They are read
in their order, and the first that cannot be granted is reported; the name of
the driver is looked at last.
-/

namespace SymbolAtlas

/-- What may be done with a database. -/
inductive Access where
  | readOnly
  | readWrite
  /-- Reading and writing, and making the file where it is missing. -/
  | create
  deriving DecidableEq, Repr

/-- Where a database is. -/
inductive Holder where
  /-- In memory or in a file without a name, for one store alone. -/
  | alone
  /-- In memory, for all stores that ask for it by this name. -/
  | shared (name : String)
  | file (path : String)
  deriving DecidableEq, Repr

/-- A database that is asked for. -/
structure Address where
  holder : Holder
  access : Access := .create
  deriving DecidableEq, Repr

/-- Why an address cannot be granted. -/
inductive AddressError where
  /-- It names another machine. -/
  | authority (name : String)
  | cacheMode (value : String)
  | accessMode (value : String)
  /-- A mode that allows more than an earlier one. -/
  | accessDenied (value : String)
  | driver (name : String)
  deriving DecidableEq, Repr

/-- How an address that cannot be granted is reported. -/
def AddressError.message : AddressError → String
  | authority name => "invalid uri authority: " ++ name
  | cacheMode value => "no such cache mode: " ++ value
  | accessMode value => "no such access mode: " ++ value
  | accessDenied value => "access mode not allowed: " ++ value
  | driver name => "no such vfs: " ++ name

/-- What the options of an address ask for. -/
structure AddressOptions where
  access : Access := .create
  inMemory : Bool := false
  isShared : Bool := false
  driver : String := "unix"
  deriving DecidableEq, Repr

namespace AddressOptions

/-- How much a kind of access allows. -/
def rank : Access → Nat
  | .readOnly => 1
  | .readWrite => 2
  | .create => 3

/-- Whether a kind of access allows no more than what was asked for so far; a
database in memory allows everything. -/
def grants (options : AddressOptions) (access : Access) : Bool :=
  options.inMemory || decide (rank access ≤ rank options.access)

/-- The options with a kind of access to a file. -/
def withAccess (options : AddressOptions) (value : String) (access : Access) :
    Except AddressError AddressOptions :=
  if options.grants access then .ok { options with access := access, inMemory := false }
  else .error (.accessDenied value)

/-- The options with one more of them read. An option of another name has no effect
here. -/
def read (options : AddressOptions) (name value : String) : Except AddressError AddressOptions :=
  match name with
  | "cache" =>
    match value with
    | "shared" => .ok { options with isShared := true }
    | "private" => .ok { options with isShared := false }
    | _ => .error (.cacheMode value)
  | "mode" =>
    match value with
    | "ro" => options.withAccess value .readOnly
    | "rw" => options.withAccess value .readWrite
    | "rwc" => options.withAccess value .create
    | "memory" => .ok { options with access := .create, inMemory := true }
    | _ => .error (.accessMode value)
  | "vfs" => .ok { options with driver := value }
  | _ => .ok options

/-- The options after several more, up to the first that cannot be granted. -/
def readAll (options : AddressOptions) : List (String × String) → Except AddressError AddressOptions
  | [] => .ok options
  | (name, value) :: rest =>
    match options.read name value with
    | .ok more => more.readAll rest
    | .error error => .error error

/-- The name and the value of an option as written; the value may be missing. An
option without a name is none. -/
def written? (text : List Char) : Option (String × String) :=
  let (name, value) := (Text.splitFirst ['='] text).getD (text, [])
  if (Text.percentDecoded name).isEmpty then none
  else some (Text.percentDecoded name, Text.percentDecoded value)

/-- The driver that keeps databases in memory. -/
def memoryDriver : String := "memdb"

/-- The drivers there are. -/
def drivers : List String := ["unix", "unix-none", "unix-dotfile", "unix-excl", memoryDriver]

end AddressOptions

namespace Address

/-- The path that stands for memory. -/
def memoryPath : String := ":memory:"

/-- The address of a plain path. -/
def ofPath (path : String) : Address where
  holder := if path = "" ∨ path = memoryPath then .alone else .file path

/-- The address of a path with options. -/
def ofOptions (path : String) (options : AddressOptions) : Address where
  access := options.access
  holder :=
    if path = "" then .alone
    else if path = memoryPath ∨ options.inMemory then
      if options.isShared then .shared path else .alone
    else if options.driver = AddressOptions.memoryDriver then
      if path.toList.head? = some '/' then .shared path else .alone
    else .file path

/-- The text behind the name of a machine, if it begins with one. -/
def behindAuthority : List Char → Except AddressError (List Char)
  | '/' :: '/' :: rest =>
    let name := String.ofList (rest.takeWhile (· ≠ '/'))
    if name = "" ∨ name = "localhost" then .ok (rest.dropWhile (· ≠ '/'))
    else .error (.authority name)
  | text => .ok text

/-- The address that is written behind its beginning. -/
def readBody (text : List Char) : Except AddressError Address :=
  let (path, query) := (Text.splitFirst ['?'] (text.takeWhile (· ≠ '#'))).getD
    (text.takeWhile (· ≠ '#'), [])
  let written := (Text.splitWhen (· = '&') query).filterMap AddressOptions.written?
  match ({} : AddressOptions).readAll written with
  | .error error => .error error
  | .ok options =>
    if AddressOptions.drivers.contains options.driver then
      .ok (ofOptions (Text.percentDecoded path) options)
    else .error (.driver options.driver)

/-- The database that a text asks for. -/
def read (text : String) : Except AddressError Address :=
  match text.toList with
  | 'f' :: 'i' :: 'l' :: 'e' :: ':' :: rest =>
    match behindAuthority rest with
    | .ok body => readBody body
    | .error error => .error error
  | _ => .ok (ofPath text)

end Address

end SymbolAtlas
