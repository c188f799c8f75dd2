import SymbolAtlas.Kind

/-!
# Search requests

What a search asks for. Every filter is optional, and a filter of blanks only is
no filter at all.
-/

namespace SymbolAtlas

/-- How many results a search gives when nothing else is said. -/
def defaultLimit : UInt64 := 1000

/-- A search request. -/
structure Request where
  /-- Free text; a double colon in it separates a container from a name. -/
  query : Option String := none
  /-- The kinds to keep; all of them when there are none. -/
  kinds : List Kind := []
  /-- Part of the name of the enclosing type. -/
  className : Option String := none
  /-- Part of the name of the package. -/
  packageName : Option String := none
  /-- A glob pattern for the file. -/
  fileGlob : Option String := none
  /-- The largest number of results; zero stands for the usual one. -/
  limit : UInt64 := defaultLimit
  deriving DecidableEq, Repr

/-- The text of a filter without the blanks around it, unless nothing is left. -/
def filterText? (filter : Option String) : Option String :=
  match filter with
  | none => none
  | some text => if Text.isBlankText text then none else some (Text.trimmed text)

/-- The number of results that a limit stands for. -/
def effectiveLimit (limit : UInt64) : UInt64 :=
  if limit = 0 then defaultLimit else limit

end SymbolAtlas
