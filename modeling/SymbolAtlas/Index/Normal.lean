import SymbolAtlas.Extract.Source

/-!
# Paths below the project root

Parsers report paths relative to the root or absolute, with either separator.
Before symbols are saved their paths are brought to one form: relative to the
root with forward separators. A path outside the root, or one that climbs, is
refused.
-/

namespace SymbolAtlas

/-- The text without the current-directory segments at its front. -/
def skipCurrent : List Char → List Char
  | '.' :: '/' :: rest => skipCurrent rest
  | text => text

/-- What remains of a rooted path below the root as given, or else below the root
free of links. -/
def belowRoot? (raw root : String) (realRoot : Option String) : Option String :=
  match Path.below? raw root with
  | some rest => some rest
  | none => realRoot.bind (Path.below? raw)

/-- A reported path in the one form that is stored. -/
def normalPath (root : String) (realRoot : Option String) (raw : String) :
    Except ParseError String :=
  let relative :=
    if isRooted raw then (belowRoot? raw root realRoot).map Text.forwardSlashes
    else some (String.ofList (skipCurrent (Text.forwardSlashes raw).toList))
  match relative with
  | none => .error (.outsideRoot raw root)
  | some path => if hasParentSegment path then .error (.outsideRoot raw root) else .ok path

/-- Symbols with their paths in the one form that is stored, or the report of the
first path that has none. -/
def normalSymbols (root : String) (realRoot : Option String) :
    List Symbol → Except ParseError (List Symbol)
  | [] => .ok []
  | symbol :: rest =>
    match normalPath root realRoot symbol.filePath with
    | .error error => .error error
    | .ok path =>
      match normalSymbols root realRoot rest with
      | .error error => .error error
      | .ok others => .ok ({ symbol with filePath := path } :: others)

end SymbolAtlas
