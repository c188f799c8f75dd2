import SymbolAtlas.Symbol.Basic
import SymbolAtlas.Text.Escape

/-!
# Symbols as interchange records

A symbol is written as a JSON object of its eight fields in their order, absent
ones as null: on one line, or spread over lines inside a list.
-/

namespace SymbolAtlas

/-- An optional text as a JSON value. -/
def optionalJson : Option String → String
  | some text => Text.jsonString text
  | none => "null"

/-- The field names of a symbol with their JSON values, in order. -/
def Symbol.jsonFields (symbol : Symbol) : List (String × String) :=
  [ ("name", Text.jsonString symbol.name)
  , ("kind", Text.jsonString symbol.kind.text)
  , ("class_name", optionalJson symbol.className)
  , ("package_name", optionalJson symbol.packageName)
  , ("file_path", Text.jsonString symbol.filePath)
  , ("line", toString symbol.line)
  , ("signature", optionalJson symbol.signature)
  , ("reference_to", optionalJson symbol.referenceTo) ]

/-- A symbol as a JSON object without blanks. -/
def Symbol.json (symbol : Symbol) : String :=
  "\x7b" ++ ",".intercalate
    (symbol.jsonFields.map fun (key, value) => Text.jsonString key ++ ":" ++ value) ++ "\x7d"

/-- A symbol as a JSON object over several lines, inside a list. -/
def Symbol.prettyJson (symbol : Symbol) : String :=
  "  \x7b\n" ++ ",\n".intercalate
    (symbol.jsonFields.map fun (key, value) =>
      "    " ++ Text.jsonString key ++ ": " ++ value) ++ "\n  \x7d"

/-- A list of symbols as JSON over several lines. -/
def prettyList : List Symbol → String
  | [] => "[]"
  | symbols => "[\n" ++ ",\n".intercalate (symbols.map Symbol.prettyJson) ++ "\n]"

end SymbolAtlas
