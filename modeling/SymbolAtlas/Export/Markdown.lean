import SymbolAtlas.Export.Group

/-!
# The Markdown export

A heading for each file and each type, and a table with a line for each symbol.
A pipe inside a cell is written behind a backslash, so that the bare pipes of a
line are those between its cells.
-/

namespace SymbolAtlas.Markdown

/-- A text inside a cell. -/
def cell (text : String) : String :=
  String.ofList (Text.replaceChar '|' ['\\', '|'] text.toList)

/-- The cell of a signature; empty where there is none. -/
def signatureCell : Option String → String
  | some signature => "`" ++ cell signature ++ "`"
  | none => ""

/-- The line of a symbol. -/
def row (symbol : Symbol) : String :=
  "| " ++ symbol.kind.text ++ " | " ++ cell symbol.name ++ " | " ++ toString symbol.line ++
    " | " ++ signatureCell symbol.signature ++ " |\n"

/-- The heading of a type; none for the symbols without one. -/
def classHeading : Option String → String
  | some name => "\n### Class: " ++ name ++ "\n"
  | none => ""

/-- The table of a group. -/
def classPart (group : ClassGroup) : String :=
  classHeading group.className ++ "\n| Kind | Name | Line | Signature |\n" ++
    "|------|------|------|-----------|\n" ++ String.join (group.members.map row)

/-- The part of a file. -/
def filePart (group : FileGroup) : String :=
  "\n## File: " ++ group.path ++ "\n" ++ String.join (group.classes.map classPart)

/-- The whole export. -/
def render (groups : List FileGroup) : String :=
  "# Project Symbol Index\n" ++ String.join (groups.map filePart)

end SymbolAtlas.Markdown
