import SymbolAtlas.Symbol.Basic

/-!
# Rows

A symbol as the database keeps it. The kind is a text, which a row written from
outside may fill with anything; all other columns are kept as they were saved.
-/

namespace SymbolAtlas

/-- One row of the table of symbols. -/
structure Row where
  name : String
  className : Option String := none
  packageName : Option String := none
  kindText : String
  filePath : String
  line : Int
  signature : Option String := none
  referenceTo : Option String := none
  deriving DecidableEq, Repr

namespace Row

/-- The row of a symbol. -/
def ofSymbol (symbol : Symbol) : Row where
  name := symbol.name
  className := symbol.className
  packageName := symbol.packageName
  kindText := symbol.kind.text
  filePath := symbol.filePath
  line := symbol.line
  signature := symbol.signature
  referenceTo := symbol.referenceTo

/-- The symbol of a row, if its kind can be read. -/
def symbol (row : Row) : Except UnknownKind Symbol :=
  match Kind.read row.kindText with
  | .ok kind => .ok
    { name := row.name
      kind := kind
      className := row.className
      packageName := row.packageName
      filePath := row.filePath
      line := row.line
      signature := row.signature
      referenceTo := row.referenceTo }
  | .error unknown => .error unknown

/-- Rows in source order: by file path, compared by code points, then by line. -/
def sourceOrder (left right : Row) : Bool :=
  if left.filePath = right.filePath then decide (left.line ≤ right.line)
  else decide (left.filePath < right.filePath)

end Row

end SymbolAtlas
