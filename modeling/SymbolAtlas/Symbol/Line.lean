import SymbolAtlas.Symbol.Basic

/-!
# Symbols on one line

The line shown for a match: kind, display name, place and signature. On a
terminal the first three carry a style; a style is switched on before its text
and off behind it, and switched on again wherever the text itself switches
styles off.
-/

namespace SymbolAtlas

/-- The control sequence that switches every style off. -/
def styleReset : List Char := "\x1b[0m".toList

/-- The text with a style's opening code behind every reset inside it. -/
def restyled (opening : List Char) : Nat → List Char → List Char
  | _, [] => []
  | skip + 1, c :: rest =>
    if skip = 0 then c :: opening ++ restyled opening 0 rest
    else c :: restyled opening skip rest
  | 0, c :: rest =>
    if styleReset.isPrefixOf (c :: rest) then
      c :: restyled opening (styleReset.length - 1) rest
    else c :: restyled opening 0 rest

/-- A text in a style given by its numeric code. -/
def styled (code : String) (text : String) : String :=
  let opening := "\x1b[" ++ code ++ "m"
  opening ++ String.ofList (restyled opening.toList 0 text.toList) ++ String.ofList styleReset

/-- The signature as it stands at the end of a line. -/
def Symbol.signaturePart (symbol : Symbol) : String :=
  match symbol.signature with
  | some signature => " (" ++ signature ++ ")"
  | none => ""

/-- The place of a symbol: its file and line. -/
def Symbol.place (symbol : Symbol) : String :=
  symbol.filePath ++ ":" ++ toString symbol.line

/-- The line that shows a symbol. -/
def Symbol.listing (symbol : Symbol) : String :=
  "[" ++ symbol.kind.text ++ "] " ++ symbol.displayName ++ " -> " ++ symbol.place ++
    symbol.signaturePart

/-- The line that shows a symbol on a terminal. -/
def Symbol.styledLine (symbol : Symbol) : String :=
  styled "1;36" ("[" ++ symbol.kind.text ++ "]") ++ " " ++ styled "1" symbol.displayName ++
    " -> " ++ styled "2" symbol.place ++ symbol.signaturePart

end SymbolAtlas
