import SymbolAtlas.Text.Letter
import SymbolAtlas.Text.Wildcard

/-!
# Words and phrases

A text is read as the sequence of its words in their plain small form, and a
phrase is found where its words follow one another, the last of them possibly
cut short. Punctuation only separates words; it has no meaning of its own in a
phrase.

A phrase is looked for in places rather than in words, since several words may
stand in one place.
-/

namespace SymbolAtlas.Text

/-- The words of a text, given the reversed plain form of the word that has begun,
if one has. A word begins with a word character; marks continue it unseen. -/
def tokensFrom : Option (List Char) → List Char → List (List Char)
  | none, [] => []
  | some word, [] => [word.reverse]
  | none, c :: rest =>
    if isWordChar c then tokensFrom (some [plainForm c]) rest
    else tokensFrom none rest
  | some word, c :: rest =>
    if isWordChar c then tokensFrom (some (plainForm c :: word)) rest
    else if isCombiningMark c then tokensFrom (some word) rest
    else word.reverse :: tokensFrom none rest

/-- The words of a text in their plain small form. -/
def tokens (text : String) : List (List Char) :=
  tokensFrom none text.toList

/-- Whether the places begin with the phrase, whose last word may be cut short. A
place holds the words that stand there, mostly one. -/
def beginsPhrase : List (List Char) → List (List (List Char)) → Bool
  | [], _ => true
  | _ :: _, [] => false
  | [last], words :: _ => words.any last.isPrefixOf
  | word :: phrase, words :: rest => words.contains word && beginsPhrase phrase rest

/-- Whether the phrase stands somewhere in the places. A phrase without words
stands nowhere. -/
def holdsPhrase (phrase : List (List Char)) (places : List (List (List Char))) : Bool :=
  !phrase.isEmpty && (suffixes places).any (beginsPhrase phrase)

end SymbolAtlas.Text
