import SymbolAtlas.Files.Basic

/-!
# Full names

The names from the root that a database path stands for. A database path is read
more leniently than a file path: double dots take away the name before them
whether or not a directory of that name is there, a separator at the end counts
for nothing, and directories may be missing on the way. Links are replaced by
their targets wherever they stand, the last name included, so that the full name
of a database does not depend on the links it was reached by.

A full name is limited in its bytes, and so is the number of links behind it.
-/

namespace SymbolAtlas

/-- The number of bytes of a full name as it is written, with a separator before
each name. -/
def writtenSize (names : List String) : Nat :=
  names.foldr (fun name size => 1 + name.utf8ByteSize + size) 0

namespace Files

/-- The bound that the size of a full name stays below. -/
def fullNameLimit : Nat := 512

/-- The bytes that a full name leaves for the endings of the files beside it. -/
def endingSize : Nat := 8

/-- The full name at the end of steps from a directory. A link is followed by `jump`,
which is given the directory of the link and the steps still to go. There is none
below a regular file. -/
def nameFrom (files : Files) (jump : List String → List PathStep → Option (List String)) :
    List String → List PathStep → Option (List String)
  | names, [] => some names
  | names, .slash :: rest => nameFrom files jump names rest
  | _, .go .root :: rest => nameFrom files jump [] rest
  | names, .go .current :: rest => nameFrom files jump names rest
  | names, .go .parent :: rest => nameFrom files jump names.dropLast rest
  | names, .go (.name name) :: rest =>
    if fullNameLimit ≤ writtenSize (names ++ [name]) then none
    else match entryAt names files.entries with
      | none => nameFrom files jump (names ++ [name]) rest
      | some (.directory entries) =>
        if nameLimit < name.utf8ByteSize then none
        else match entries.lookup name with
          | some (.link target) => jump names (steps target ++ rest)
          | _ => nameFrom files jump (names ++ [name]) rest
      | some _ => none

/-- The full name at the end of steps through fewer than so many links. -/
def nameThrough (files : Files) : Nat → List String → List PathStep → Option (List String)
  | 0 => fun _ _ => none
  | links + 1 => files.nameFrom (files.nameThrough links)

/-- The number of links that a full name may replace. -/
def fullNameLinkLimit : Nat := 201

/-- The full name of a database path, if it has one. -/
def fullName? (files : Files) (path : String) : Option (List String) :=
  (files.nameThrough (fullNameLinkLimit + 1) files.current (steps path)).filter fun names =>
    !names.isEmpty && writtenSize names + endingSize ≤ fullNameLimit

end Files

end SymbolAtlas
