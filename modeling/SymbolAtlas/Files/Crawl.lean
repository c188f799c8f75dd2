import SymbolAtlas.Files.Basic
import SymbolAtlas.Text.Ascii

/-!
# Crawling a directory

The regular files below a directory whose extension is wanted. Each directory is
walked in the order of its names, compared by code points, and what lies in a
directory stands where its name does. Links are passed over; when they are to be
followed, each is first replaced by what it leads to, so that the walk itself
only ever meets files and directories.

A walk reads each directory by its path, so one whose path is too long to be followed
is passed over, and with it all that lies below. A file is only listed, and its own
path may be of any length. A directory that may not be listed is passed over too; only
where it is the root does the crawl fail.
-/

namespace SymbolAtlas

/-- Why a directory could not be crawled. -/
inductive CrawlError where
  /-- The root is missing or no directory. -/
  | invalidRoot (root : String)
  /-- The root could not be read. -/
  | walk (root : String) (cause : FileError)
  deriving DecidableEq, Repr

/-- How a failed crawl is reported. -/
def CrawlError.message : CrawlError → String
  | invalidRoot root => "invalid root path: " ++ root
  | walk root cause =>
    "failed to walk " ++ root ++ ": IO error for operation on " ++ root ++ ": " ++ cause.message

/-- Names in the order in which a directory is walked. -/
def nameOrder {α : Type} (left right : String × α) : Bool :=
  decide (left.1 ≤ right.1)

mutual

/-- The paths of the regular files at or below an entry, as names from it on. -/
def Entry.filesBelow : Entry → List (List String)
  | .file _ => [[]]
  | .link _ => []
  | .directory entries =>
    ((filesAmong entries).mergeSort nameOrder).flatMap fun (name, below) =>
      below.map fun names => name :: names

/-- The paths below each of several entries. -/
def filesAmong : List (String × Entry) → List (String × List (List String))
  | [] => []
  | (name, entry) :: rest => (name, entry.filesBelow) :: filesAmong rest

end

namespace Files

/-- An entry with every link below it replaced by what the link leads to, given the
directories around it, the names of the directory it lies in, and the path by
which the walk has come to it. A link that leads nowhere by this path, or back
to a directory around it, is left a link. A directory that may not be listed shows
nothing of what it holds. -/
def expand (files : Files) :
    Nat → List (List String) → List String → String → Entry → Entry
  | 0, _, _, _, entry => entry
  | depth + 1, around, names, path, .directory entries =>
    if files.unlisted.contains names then .directory []
    else .directory (entries.map fun (name, entry) =>
      (name, files.expand depth (names :: around) (names ++ [name]) (Path.join path name) entry))
  | depth + 1, around, _, path, .link target =>
    match files.place path with
    | .present real (.directory entries) =>
      if around.contains real then .link target
      else files.expand depth around real path (.directory entries)
    | .present _ (.file content) => .file content
    | _ => .link target
  | _ + 1, _, _, _, .file content => .file content

/-- Whether a walk from a root comes to a file by these names. The directories on the
way are read by their paths, of which that of the last one is the longest. -/
def isReached (root : String) (below : List String) : Bool :=
  decide ((below.dropLast.foldl Path.join root).utf8ByteSize ≤ pathLimit)

/-- Whether the directories on the way to a file may be listed: the one at some names, in
which the walk begins, and those below it. -/
def showsAll (files : Files) : List String → List String → Bool
  | _, [] => true
  | names, name :: rest =>
    !files.unlisted.contains names && files.showsAll (names ++ [name]) rest

end Files

mutual

/-- The number of entries at and below an entry. -/
def Entry.size : Entry → Nat
  | .file _ => 1
  | .link _ => 1
  | .directory entries => 1 + sizeAmong entries

/-- The number of entries at and below several entries. -/
def sizeAmong : List (String × Entry) → Nat
  | [] => 0
  | (_, entry) :: rest => entry.size + sizeAmong rest

end

/-- Whether the extension of a path is one of these, ignoring ASCII case. -/
def hasExtension (extensions : List String) (path : String) : Bool :=
  match Path.extension? path with
  | none => false
  | some extension => extensions.any (Text.sameIgnoringCase extension)

/-- The files below a directory with one of the extensions, in walking order, each
written as the root followed by the names below it. -/
def Files.crawl (files : Files) (followLinks : Bool) (root : String)
    (extensions : List String) : Except CrawlError (List String) :=
  match files.place root with
  | .present names (.directory entries) =>
    if files.unlisted.contains names then .error (.walk root .denied)
    else
      let tree := Entry.directory entries
      let depth := 2 * (sizeAmong files.entries + 1) * (sizeAmong files.entries + 1)
      let shown :=
        if followLinks then (files.expand depth [] names root tree).filesBelow
        else tree.filesBelow.filter (files.showsAll names)
      .ok (((shown.filter (isReached root)).map fun below =>
        below.foldl Path.join root).filter (hasExtension extensions))
  | _ => .error (.invalidRoot root)

end SymbolAtlas
