import SymbolAtlas.Export.Markdown
import SymbolAtlas.Export.Xml

/-!
# Export formats
-/

namespace SymbolAtlas

/-- The formats of an export. -/
inductive Format where
  | markdown
  | xml
  deriving DecidableEq, Repr

namespace Format

/-- The format of a name, in exactly this spelling. -/
def named? (name : String) : Option Format :=
  if name = "markdown" then some .markdown
  else if name = "xml" then some .xml
  else none

/-- Symbols written in a format. -/
def render (format : Format) (symbols : List Symbol) : String :=
  match format with
  | markdown => Markdown.render (groupByFile symbols)
  | xml => Xml.render (groupByFile symbols)

end Format

end SymbolAtlas
