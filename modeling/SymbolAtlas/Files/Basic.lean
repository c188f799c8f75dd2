import SymbolAtlas.Path
import SymbolAtlas.Tree

/-!
# File systems

A tree of directories, regular files and symbolic links under one root, with a
current directory for relative paths. A path is followed step by step; a link on
the way is replaced by its target, and a path that needs too many such
replacements leads nowhere. A separator at the end is a step of its own, since
it asks for a directory. `Place` is where a path arrives: an entry that is
there, or the one name that is missing in a directory that is there.

Where a path leads depends on what it is followed for. Only to take an entry
away, or to make a new one, is a link at the end left as it is; and a path
followed to write a file may not end in a separator, whatever is there.
-/

namespace SymbolAtlas

/-- What a file beside a database in use is for. -/
inductive Side where
  /-- The log of the changes that are not in the database file yet. -/
  | log
  /-- The index into the log. -/
  | index
  deriving DecidableEq, Repr

/-- What a regular file holds. -/
inductive Content where
  /-- Text, with its syntax tree where it is a source file. -/
  | text (text : String) (tree : Option Tree)
  /-- Bytes that are no text. -/
  | bytes (raw : List UInt8)
  /-- A database, known by its number. -/
  | database (number : Nat)
  /-- What stands beside the database of a number. -/
  | side (side : Side) (number : Nat)
  /-- Something written over the database of a number. -/
  | overwritten (number : Nat) (content : Content)

namespace Content

/-- The content that a reader finds. -/
def surface : Content → Content
  | overwritten _ content => content
  | content => content

/-- What a file holds once something is written over what it held. A database is not
forgotten, since its handles still refer to the file. -/
def writtenOver (old content : Content) : Content :=
  match old with
  | database number => overwritten number content
  | overwritten number _ => overwritten number content
  | _ => content

end Content

/-- An entry of a directory. -/
inductive Entry where
  | file (content : Content)
  | directory (entries : List (String × Entry))
  | link (target : String)

/-- Why a file operation failed. -/
inductive FileError where
  | notFound
  | alreadyExists
  | notDirectory
  | isDirectory
  | tooManyLinks
  | nameTooLong
  /-- The directory may not be listed. -/
  | denied
  /-- The path holds a null character. -/
  | nullInPath
  | invalidText
  deriving DecidableEq, Repr

/-- How the failure of a file operation is reported. -/
def FileError.message : FileError → String
  | notFound => "No such file or directory (os error 2)"
  | alreadyExists => "File exists (os error 17)"
  | notDirectory => "Not a directory (os error 20)"
  | isDirectory => "Is a directory (os error 21)"
  | tooManyLinks => "Too many levels of symbolic links (os error 40)"
  | nameTooLong => "File name too long (os error 36)"
  | denied => "Permission denied (os error 13)"
  | nullInPath => "file name contained an unexpected NUL byte"
  | invalidText => "stream did not contain valid UTF-8"

/-- A file system. -/
structure Files where
  /-- The entries of the root directory. -/
  entries : List (String × Entry) := []
  /-- The names on the way from the root to the current directory. -/
  current : List String := []
  /-- The names from the root of the directories that may not be listed, though paths
  lead through them. -/
  unlisted : List (List String) := []

/-- Bind a name in a directory: an entry replaces the one of that name or comes
last, and no entry takes the name away. -/
def bindName (name : String) (entry : Option Entry) :
    List (String × Entry) → List (String × Entry)
  | [] => match entry with
    | some entry => [(name, entry)]
    | none => []
  | (other, old) :: rest =>
    if other = name then
      match entry with
      | some entry => (name, entry) :: rest
      | none => rest
    else (other, old) :: bindName name entry rest

/-- Bind the last of several names in the directory the others lead to. -/
def bindAt : List String → Option Entry → List (String × Entry) → List (String × Entry)
  | [], _, entries => entries
  | [name], entry, entries => bindName name entry entries
  | name :: rest, entry, entries =>
    entries.map fun (other, old) =>
      if other = name then
        match old with
        | .directory inner => (other, .directory (bindAt rest entry inner))
        | old => (other, old)
      else (other, old)

/-- The entry that names lead to without following links. -/
def entryAt : List String → List (String × Entry) → Option Entry
  | [], entries => some (.directory entries)
  | name :: rest, entries =>
    match entries.lookup name with
    | some (.directory inner) => entryAt rest inner
    | some entry => if rest.isEmpty then some entry else none
    | none => none

/-- Where a path leads. -/
inductive Place where
  /-- To an entry, whose names from the root are free of links. -/
  | present (names : List String) (entry : Entry)
  /-- To a directory in which the last name is missing. -/
  | absent (names : List String) (name : String)
  | failed (error : FileError)

/-- One step of following a path. -/
inductive PathStep where
  | go (component : Component)
  /-- The separator at the end of a path, behind which only a directory can be. -/
  | slash
  deriving DecidableEq, Repr

/-- What a path is followed for. -/
inductive Purpose where
  /-- What the path leads to in the end. -/
  | target
  /-- The entry of that name itself, also where it is a link. -/
  | entry
  /-- A file to be written, which need not be there yet. -/
  | creation
  deriving DecidableEq, Repr

namespace Files

/-- The step that a segment between two separators stands for, if any. -/
def segmentStep? (segment : List Char) : Option PathStep :=
  if segment = [] then none
  else if segment = ['.'] then some (.go .current)
  else if segment = ['.', '.'] then some (.go .parent)
  else some (.go (.name (String.ofList segment)))

/-- The steps of a path. -/
def steps (path : String) : List PathStep :=
  let text := path.toList
  let first := if text.head? = some '/' then [PathStep.go .root] else []
  let last := if text.getLast? = some '/' then [PathStep.slash] else []
  first ++ (Text.splitWhen (· = '/') text).filterMap segmentStep? ++ last

/-- The greatest number of bytes that a name may have. -/
def nameLimit : Nat := 255

/-- The greatest number of bytes that a path may have. -/
def pathLimit : Nat := 4095

/-- Follow steps from an entry that is there. A link is followed by `jump`, which is
given the directory of the link and the steps still to go. -/
def follow (files : Files) (jump : List String → List PathStep → Place) (purpose : Purpose) :
    List String → List PathStep → Place
  | names, [] =>
    match entryAt names files.entries with
    | some entry => .present names entry
    | none => .failed .notFound
  | _, .go .root :: rest => follow files jump purpose [] rest
  | names, .go .parent :: rest =>
    match entryAt names files.entries with
    | some (.directory _) => follow files jump purpose names.dropLast rest
    | _ => .failed .notDirectory
  | names, .go (.name name) :: rest =>
    match entryAt names files.entries with
    | some (.directory entries) =>
      if purpose = .creation ∧ rest = [.slash] then .failed .isDirectory
      else if nameLimit < name.utf8ByteSize then .failed .nameTooLong
      else match entries.lookup name with
        | none => if rest.isEmpty then .absent names name else .failed .notFound
        | some (.link target) =>
          if rest.isEmpty ∧ purpose = .entry then .present (names ++ [name]) (.link target)
          else jump names (steps target ++ rest)
        | some _ => follow files jump purpose (names ++ [name]) rest
    | _ => .failed .notDirectory
  | names, _ :: rest =>
    match entryAt names files.entries with
    | some (.directory _) => follow files jump purpose names rest
    | _ => .failed .notDirectory

/-- Follow steps through at most so many links. -/
def followLinks (files : Files) (purpose : Purpose) : Nat → List String → List PathStep → Place
  | 0 => fun _ _ => .failed .tooManyLinks
  | links + 1 => files.follow (files.followLinks purpose links) purpose

/-- The number of links that one path may go through. -/
def linkLimit : Nat := 40

/-- Where steps lead from the current directory. -/
def placeOf (files : Files) (purpose : Purpose) (steps : List PathStep) : Place :=
  files.followLinks purpose (linkLimit + 1) files.current steps

/-- What keeps a text from being followed as a path, whatever the files. -/
def textError? (path : String) : Option FileError :=
  if path.toList.contains '\x00' then some .nullInPath
  else if path.isEmpty then some .notFound
  else if pathLimit < path.utf8ByteSize then some .nameTooLong
  else none

/-- Where a path leads when it is followed for a purpose. -/
def find (files : Files) (purpose : Purpose) (path : String) : Place :=
  match textError? path with
  | some error => .failed error
  | none => files.placeOf purpose (steps path)

/-- Where a path leads, a link at its end followed. -/
def place (files : Files) (path : String) : Place :=
  files.find .target path

/-- Where a path leads up to a separator at its end, a link there not followed;
and whether there is such a separator. -/
def findEntry (files : Files) (path : String) : Place × Bool :=
  match textError? path with
  | some error => (.failed error, false)
  | none =>
    (files.placeOf .entry ((steps path).filter (· ≠ .slash)), (steps path).contains .slash)

/-- Whether a path leads to something. -/
def holds (files : Files) (path : String) : Bool :=
  match files.place path with
  | .present _ _ => true
  | _ => false

/-- Whether a path leads to a directory. -/
def isDirectory (files : Files) (path : String) : Bool :=
  match files.place path with
  | .present _ (.directory _) => true
  | _ => false

/-- Whether a path leads to a regular file. -/
def isFile (files : Files) (path : String) : Bool :=
  match files.place path with
  | .present _ (.file _) => true
  | _ => false

/-- The absolute path free of links that a path leads to. -/
def realPath? (files : Files) (path : String) : Option String :=
  match files.place path with
  | .present names _ => some ("/" ++ "/".intercalate names)
  | _ => none

/-- The text of a regular file and its syntax tree. -/
def read (files : Files) (path : String) : Except FileError (String × Option Tree) :=
  match files.place path with
  | .present _ (.file content) =>
    match content.surface with
    | .text text tree => .ok (text, tree)
    | _ => .error .invalidText
  | .present _ (.directory _) => .error .isDirectory
  | .present _ (.link _) => .error .notFound
  | .absent _ _ => .error .notFound
  | .failed error => .error error

/-- The file system with the entry at some names bound anew. -/
def bind (files : Files) (names : List String) (entry : Option Entry) : Files :=
  { files with entries := bindAt names entry files.entries }

/-- Write a regular file, replacing what it held. Links are followed, also to a file
that is not there yet. -/
def write (files : Files) (path : String) (content : Content) : Except FileError Files :=
  match files.find .creation path with
  | .present _ (.directory _) => .error .isDirectory
  | .present names (.file old) => .ok (files.bind names (some (.file (old.writtenOver content))))
  | .present names (.link _) => .ok (files.bind names (some (.file content)))
  | .absent names name => .ok (files.bind (names ++ [name]) (some (.file content)))
  | .failed error => .error error

/-- Take away a regular file or a link; a link is not followed. What is no directory
cannot be named with a separator at the end. -/
def removeFile (files : Files) (path : String) : Except FileError Files :=
  match files.findEntry path with
  | (.present _ (.directory _), _) => .error .isDirectory
  | (.present _ _, true) => .error .notDirectory
  | (.present names _, false) => .ok (files.bind names none)
  | (.absent _ _, _) => .error .notFound
  | (.failed error, _) => .error error

/-- Make one directory. -/
def makeDirectory (files : Files) (path : String) : Except FileError Files :=
  match (files.findEntry path).1 with
  | .present _ _ => .error .alreadyExists
  | .absent names name => .ok (files.bind (names ++ [name]) (some (.directory [])))
  | .failed error => .error error

/-- Make a directory and the directories it lies in, given its components from the
last to the first. What is a directory already is left alone; directories made
before a failure stay. -/
def makeDirectories (files : Files) (path : String) :
    List Component → Files × Except FileError Unit
  | [] => (files, .ok ())
  | _ :: before =>
    match files.makeDirectory path with
    | .ok made => (made, .ok ())
    | .error .notFound =>
      match files.makeDirectories (Path.ofComponents before.reverse) before with
      | (made, .error error) => (made, .error error)
      | (made, .ok ()) =>
        match made.makeDirectory path with
        | .ok all => (all, .ok ())
        | .error error =>
          if made.isDirectory path then (made, .ok ()) else (made, .error error)
    | .error error =>
      if files.isDirectory path then (files, .ok ()) else (files, .error error)

/-- Make the directory that a path lies in, if it names one. -/
def makeParent (files : Files) (path : String) : Files × Except FileError Unit :=
  match Path.parent? path with
  | none => (files, .ok ())
  | some components =>
    files.makeDirectories (Path.ofComponents components) components.reverse

/-- Make a directory and those it lies in. -/
def putDirectory (files : Files) (path : String) : Files × Except FileError Unit :=
  files.makeDirectories path (Path.components path).reverse

/-- Write a regular file together with the directories it lies in. -/
def putFile (files : Files) (path : String) (content : Content) :
    Files × Except FileError Unit :=
  match files.makeParent path with
  | (made, .error error) => (made, .error error)
  | (made, .ok ()) =>
    match made.write path content with
    | .ok written => (written, .ok ())
    | .error error => (made, .error error)

/-- What keeps a link from being made, whatever the files. A null character in one
of the two texts is found before anything else. -/
def linkError? (path target : String) : Option FileError :=
  if textError? path = some .nullInPath then some .nullInPath else textError? target

/-- Make a symbolic link together with the directories it lies in. -/
def putLink (files : Files) (path target : String) : Files × Except FileError Unit :=
  match files.makeParent path with
  | (made, .error error) => (made, .error error)
  | (made, .ok ()) =>
    match linkError? path target with
    | some error => (made, .error error)
    | none =>
      match made.findEntry path with
      | (.absent names name, false) =>
        (made.bind (names ++ [name]) (some (.link target)), .ok ())
      | (.absent _ _, true) => (made, .error .notFound)
      | (.present _ _, _) => (made, .error .alreadyExists)
      | (.failed error, _) => (made, .error error)

/-- An empty file system whose current directory has these names. -/
def startingIn (names : List String) : Files where
  entries := names.foldr (fun name inner => [(name, .directory inner)]) []
  current := names

end Files

end SymbolAtlas
