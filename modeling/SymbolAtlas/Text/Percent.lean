/-!
# Percent codes

A percent sign with two hexadecimal digits behind it stands for a byte; all other
characters stand for themselves. What comes out is read as text only as a whole,
so that a character may be written byte by byte.
-/

namespace SymbolAtlas.Text

/-- The value of a hexadecimal digit. -/
def hexValue? (c : Char) : Option Nat :=
  if '0' ≤ c ∧ c ≤ '9' then some (c.toNat - 48)
  else if 'a' ≤ c ∧ c ≤ 'f' then some (c.toNat - 87)
  else if 'A' ≤ c ∧ c ≤ 'F' then some (c.toNat - 55)
  else none

/-- The bytes that a text with percent codes stands for. -/
def percentBytes : List Char → List UInt8
  | [] => []
  | '%' :: high :: low :: rest =>
    match hexValue? high, hexValue? low with
    | some upper, some lower => UInt8.ofNat (16 * upper + lower) :: percentBytes rest
    | _, _ => 37 :: percentBytes (high :: low :: rest)
  | c :: rest => String.utf8EncodeChar c ++ percentBytes rest

/-- The text that bytes encode; where they encode none, each byte is taken for the
character of its number. -/
def ofBytes (bytes : List UInt8) : String :=
  match String.fromUTF8? (ByteArray.mk bytes.toArray) with
  | some text => text
  | none => String.ofList (bytes.map fun byte => Char.ofNat byte.toNat)

/-- A text with its percent codes replaced, up to the first code of the null
character. -/
def percentDecoded (text : List Char) : String :=
  ofBytes ((percentBytes text).takeWhile (· ≠ 0))

end SymbolAtlas.Text
