import SymbolAtlas.Text.Blank

/-!
# Cutting texts apart

Three ways to cut: at every character of a class, at the first occurrence of a
separator, and at the last occurrence of a character. A cut never loses a
character of the pieces, and the pieces between two neighbouring separators are
kept even when they are empty.
-/

namespace SymbolAtlas.Text

/-- The pieces between the characters of a class; one piece more than there are
such characters. -/
def splitWhen (cut : Char → Bool) : List Char → List (List Char)
  | [] => [[]]
  | c :: rest =>
    if cut c then [] :: splitWhen cut rest
    else match splitWhen cut rest with
      | [] => [[c]]
      | piece :: pieces => (c :: piece) :: pieces

/-- What stands before and after the first occurrence of a separator. -/
def splitFirst (separator : List Char) : List Char → Option (List Char × List Char)
  | [] => none
  | c :: rest =>
    if separator.isPrefixOf (c :: rest) then
      some ([], (c :: rest).drop separator.length)
    else
      (splitFirst separator rest).map fun (before, after) => (c :: before, after)

/-- What stands before and after the last occurrence of a character. -/
def splitLast (separator : Char) : List Char → Option (List Char × List Char)
  | [] => none
  | c :: rest =>
    match splitLast separator rest with
    | some (before, after) => some (c :: before, after)
    | none => if c = separator then some ([], rest) else none

/-- The words of a text: its longest pieces without a blank. -/
def words (text : List Char) : List (List Char) :=
  (splitWhen isBlank text).filter fun word => !word.isEmpty

/-- The pieces one after another with a separator between neighbours. -/
def joinWith (separator : List Char) : List (List Char) → List Char
  | [] => []
  | [piece] => piece
  | piece :: next :: rest => piece ++ separator ++ joinWith separator (next :: rest)

/-- The text up to its first line feed. -/
def firstLine (text : List Char) : List Char :=
  text.takeWhile fun c => c != '\n'

/-- Every occurrence of one character replaced by a text. -/
def replaceChar (old : Char) (new : List Char) (text : List Char) : List Char :=
  text.flatMap fun c => if c = old then new else [c]

/-- Either separator of a path turned into the forward one. -/
def forwardSlashes (text : String) : String :=
  String.ofList (text.toList.map fun c => if c = '\\' then '/' else c)

end SymbolAtlas.Text
