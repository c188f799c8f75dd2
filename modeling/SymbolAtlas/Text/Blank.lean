/-!
# Blank characters

The characters that stand between words, and what remains of a text once they
are cut from its ends. The class is the white-space property of the character
standard, so it reaches beyond the ASCII blanks; a zero-width space is not in it.
-/

namespace SymbolAtlas.Text

/-- The white-space characters: tab to carriage return, the space, the next-line
control, and the seventeen wider or narrower spaces and separators. -/
def isBlank (c : Char) : Bool :=
  let n := c.toNat
  (9 ≤ n && n ≤ 13) || n == 0x20 || n == 0x85 || n == 0xA0 || n == 0x1680 ||
    (0x2000 ≤ n && n ≤ 0x200A) || n == 0x2028 || n == 0x2029 || n == 0x202F ||
    n == 0x205F || n == 0x3000

/-- The text without the blanks it begins with. -/
def trimStart (text : List Char) : List Char :=
  text.dropWhile isBlank

/-- The text without the characters of a class that it ends in. -/
def trimEndWhile (drop : Char → Bool) (text : List Char) : List Char :=
  (text.reverse.dropWhile drop).reverse

/-- The text without the blanks it ends in. -/
def trimEnd (text : List Char) : List Char :=
  trimEndWhile isBlank text

/-- The text without the blanks at either end. -/
def trim (text : List Char) : List Char :=
  trimEnd (trimStart text)

/-- A string without the blanks at either end. -/
def trimmed (text : String) : String :=
  String.ofList (trim text.toList)

/-- A string of blanks only, the empty string among them. -/
def isBlankText (text : String) : Bool :=
  text.toList.all isBlank

end SymbolAtlas.Text
