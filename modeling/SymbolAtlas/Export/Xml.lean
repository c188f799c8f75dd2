import SymbolAtlas.Export.Group

/-!
# The XML export

An element for each file, for each type in it and for each symbol, all texts as
attributes. Characters with a meaning in markup are written as entities, so no
text can end the attribute it stands in.
-/

namespace SymbolAtlas.Xml

/-- One character inside an attribute. -/
def attributeChar (c : Char) : List Char :=
  if c = '&' then "&amp;".toList
  else if c = '<' then "&lt;".toList
  else if c = '>' then "&gt;".toList
  else if c = '"' then "&quot;".toList
  else if c = '\'' then "&apos;".toList
  else [c]

/-- A text inside an attribute. -/
def escaped (text : String) : String :=
  String.ofList (text.toList.flatMap attributeChar)

/-- An attribute with a blank before it. -/
def attributePart (name value : String) : String :=
  " " ++ name ++ "=\"" ++ escaped value ++ "\""

/-- The attribute of a signature, where there is one. -/
def signaturePart : Option String → String
  | some signature => attributePart "signature" signature
  | none => ""

/-- The element of a symbol behind an indent. -/
def symbolPart (indent : String) (symbol : Symbol) : String :=
  indent ++ "<symbol" ++ attributePart "kind" symbol.kind.text ++
    attributePart "name" symbol.name ++ attributePart "line" (toString symbol.line) ++
    signaturePart symbol.signature ++ "/>\n"

/-- The elements of a group, inside an element of their type if they have one. -/
def classPart (group : ClassGroup) : String :=
  match group.className with
  | some name =>
    "    <class" ++ attributePart "name" name ++ ">\n" ++
      String.join (group.members.map (symbolPart "      ")) ++ "    </class>\n"
  | none => String.join (group.members.map (symbolPart "    "))

/-- The element of a file. -/
def filePart (group : FileGroup) : String :=
  "  <file" ++ attributePart "path" group.path ++ ">\n" ++
    String.join (group.classes.map classPart) ++ "  </file>\n"

/-- The whole export. -/
def render (groups : List FileGroup) : String :=
  "<?xml version=\"1.0\" encoding=\"UTF-8\"?>\n<project>\n" ++
    String.join (groups.map filePart) ++ "</project>\n"

end SymbolAtlas.Xml
