import SymbolAtlas.Text.Split

/-!
# Paths

A path is a text; what it means is its list of components. Repeated separators,
a separator at the end and single dots count for nothing, except that a dot in
first place is a component. Double dots are kept, since they cannot be resolved
without the file system.

`relative?` gives the way from one path to another, `below?` what remains of a
path under another, and `extension?` the part of the last name behind its last
dot.
-/

namespace SymbolAtlas

/-- One step of a path. -/
inductive Component where
  | root
  | current
  | parent
  | name (text : String)
  deriving DecidableEq, Repr

/-- A component as it is written. -/
def Component.text : Component → String
  | root => "/"
  | current => "."
  | parent => ".."
  | name text => text

namespace Path

/-- The component that a segment between two separators stands for, if any. -/
def segment? (segment : List Char) : Option Component :=
  if segment = [] ∨ segment = ['.'] then none
  else if segment = ['.', '.'] then some .parent
  else some (.name (String.ofList segment))

/-- The components behind the beginning of a path. -/
def bodyComponents (text : List Char) : List Component :=
  (Text.splitWhen (· = '/') text).filterMap segment?

/-- The components of a path. -/
def components (path : String) : List Component :=
  match path.toList with
  | '/' :: rest => .root :: bodyComponents rest
  | ['.'] => [.current]
  | '.' :: '/' :: rest => .current :: bodyComponents rest
  | text => bodyComponents text

/-- Whether a path starts at the root. -/
def isAbsolute (path : String) : Bool :=
  path.toList.head? = some '/'

/-- The components written one after another with a separator between them. -/
def ofComponents : List Component → String
  | .root :: rest => "/" ++ "/".intercalate (rest.map Component.text)
  | components => "/".intercalate (components.map Component.text)

/-- A name below a directory, with one separator between the two. -/
def join (directory name : String) : String :=
  if directory = "" ∨ directory.toList.getLast? = some '/' then directory ++ name
  else directory ++ "/" ++ name

/-- The last name of a path, if it ends in one. -/
def fileName? (path : String) : Option String :=
  match (components path).getLast? with
  | some (.name text) => some text
  | _ => none

/-- The part of the last name behind its last dot, unless that dot comes first. -/
def extension? (path : String) : Option String :=
  (fileName? path).bind fun name =>
    (Text.splitLast '.' name.toList).bind fun (before, after) =>
      if before.isEmpty then none else some (String.ofList after)

/-- The components of the directory a path lies in; none for the root and for the
empty path. -/
def parent? (path : String) : Option (List Component) :=
  match (components path).reverse with
  | [] => none
  | .root :: _ => none
  | _ :: before => some before.reverse

/-- The text without separators and single dots at its front. -/
def skipFront : List Char → List Char
  | '/' :: rest => skipFront rest
  | ['.'] => []
  | '.' :: '/' :: rest => skipFront rest
  | text => text

/-- The text without separators and single dots at its end. -/
def skipBack (text : List Char) : List Char :=
  (skipFront text.reverse).reverse

/-- The text behind its first `count` components. -/
def dropComponents : Nat → List Char → List Char
  | 0, text => text
  | count + 1, text => dropComponents count ((skipFront text).dropWhile (· ≠ '/'))

/-- The text behind the components of a beginning that are consumed one by one. -/
def afterComponents (base : List Component) (text : List Char) : List Char :=
  match base with
  | [] => text
  | .root :: rest => dropComponents rest.length (text.drop 1)
  | .current :: rest => dropComponents rest.length (text.drop 1)
  | rest => dropComponents rest.length text

/-- What remains of a path behind a base whose components it begins with. The rest
keeps the text of its components as written, inner separators included. -/
def below? (path base : String) : Option String :=
  if (components base).isPrefixOf (components path) then
    some (String.ofList (skipBack (skipFront (afterComponents (components base) path.toList))))
  else none

/-- The way from base components to path components, once a step has differed or
the base has been left; the components found so far come first. -/
def walkFrom (found : List Component) : List Component → List Component → Option (List Component)
  | [], [] => some found
  | path, [] => some (found ++ path)
  | [], _ :: base => walkFrom (found ++ [.parent]) [] base
  | step :: path, other :: base =>
    if found.isEmpty && step == other then walkFrom found path base
    else if other = .current then walkFrom (found ++ [step]) path base
    else if other = .parent then none
    else some (found ++ .parent :: base.map (fun _ => .parent) ++ step :: path)

/-- The way from a base to a path. Where only the path is absolute it is the path
itself; where only the base is, or the base climbs after the two have parted,
there is none. -/
def relative? (path base : String) : Option String :=
  if isAbsolute path != isAbsolute base then
    if isAbsolute path then some path else none
  else
    (walkFrom [] (components path) (components base)).map ofComponents

end Path

end SymbolAtlas
