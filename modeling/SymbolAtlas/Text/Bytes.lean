/-!
# Offsets in encoded text

Syntax trees place their nodes by offsets into the UTF-8 encoding of the source.
A slice is cut by counting the encoded size of each character, so it consists of
whole characters of the source in their order.
-/

namespace SymbolAtlas.Text

/-- The text after the characters that fill the first `count` bytes. -/
def dropBytes : Nat → List Char → List Char
  | 0, text => text
  | _ + 1, [] => []
  | count + 1, c :: rest => dropBytes (count + 1 - c.utf8Size) rest

/-- The characters that fill the first `count` bytes. -/
def takeBytes : Nat → List Char → List Char
  | 0, _ => []
  | _ + 1, [] => []
  | count + 1, c :: rest => c :: takeBytes (count + 1 - c.utf8Size) rest

/-- The characters between two byte offsets; none when the end does not lie
behind the start. -/
def slice (start stop : Nat) (text : List Char) : List Char :=
  takeBytes (stop - start) (dropBytes start text)

/-- The number of bytes of a text's encoding. -/
def byteSize (text : List Char) : Nat :=
  text.foldr (fun c size => c.utf8Size + size) 0

end SymbolAtlas.Text
