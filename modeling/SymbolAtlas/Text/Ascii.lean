/-!
# Texts up to the case of ASCII letters

Kind names, file extensions and search terms are compared without regard to the
case of the letters A to Z. No other letter is folded: the accented capitals and
the letters of other scripts keep their case.
-/

namespace SymbolAtlas.Text

/-- The text with the letters A to Z made small and every other character kept. -/
def lowered (text : String) : String :=
  String.ofList (text.toList.map Char.toLower)

/-- Whether two texts differ at most in the case of ASCII letters. -/
def sameIgnoringCase (left right : String) : Bool :=
  left.toList.map Char.toLower == right.toList.map Char.toLower

/-- A letter of the ASCII alphabet, in either case. -/
def isAsciiLetter (c : Char) : Bool :=
  c.isAlpha

end SymbolAtlas.Text
