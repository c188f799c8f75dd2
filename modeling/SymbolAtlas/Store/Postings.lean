import SymbolAtlas.Store.Row
import SymbolAtlas.Text.Token

/-!
# Postings

What the phrase index keeps of a row: the words of its three names, each in its
place. The index knows rows by their numbers only. A table that is dropped leaves
its postings behind, and a later row of the same number is laid over them: its
own words count where they stand now, and all other words stay where they were.
-/

namespace SymbolAtlas

/-- Words in their places. -/
abbrev Places := List (List (List Char))

namespace Places

/-- The words of a value, one in each place. -/
def ofValue : Option String → Places
  | none => []
  | some text => (Text.tokens text).map fun word => [word]

/-- The places without some words. -/
def without (words : List (List Char)) (places : Places) : Places :=
  places.map fun place => place.filter fun word => !words.contains word

/-- Two rows of places with the words of both. -/
def overlay : Places → Places → Places
  | [], older => older
  | newer, [] => newer
  | words :: newer, others :: older => (words ++ others) :: overlay newer older

end Places

/-- The words of the three names of a row. -/
structure Postings where
  name : Places := []
  className : Places := []
  packageName : Places := []
  deriving DecidableEq, Repr

namespace Postings

/-- The postings of a row. -/
def ofRow (row : Row) : Postings where
  name := .ofValue (some row.name)
  className := .ofValue row.className
  packageName := .ofValue row.packageName

/-- All words, in whatever place. -/
def words (postings : Postings) : List (List Char) :=
  (postings.name ++ postings.className ++ postings.packageName).flatten

/-- The postings without some words. -/
def without (words : List (List Char)) (postings : Postings) : Postings where
  name := postings.name.without words
  className := postings.className.without words
  packageName := postings.packageName.without words

/-- Newer postings laid over older ones of the same number. -/
def laidOver (newer older : Postings) : Postings :=
  let left := older.without newer.words
  { name := newer.name.overlay left.name
    className := newer.className.overlay left.className
    packageName := newer.packageName.overlay left.packageName }

/-- Whether a phrase stands in one of the names. -/
def holds (phrase : List (List Char)) (postings : Postings) : Bool :=
  Text.holdsPhrase phrase postings.name || Text.holdsPhrase phrase postings.className ||
    Text.holdsPhrase phrase postings.packageName

end Postings

/-- Postings by the numbers of their rows. -/
abbrev Remains := List (Nat × Postings)

namespace Remains

/-- The postings of a row of some number laid over what remains of that number. -/
def under (remains : Remains) (number : Nat) (row : Row) : Postings :=
  match remains.lookup number with
  | none => .ofRow row
  | some older => (Postings.ofRow row).laidOver older

/-- What remains once the row of some number is gone: its words go, also those that
were there before it. -/
def after (remains : Remains) (number : Nat) (row : Row) : Remains :=
  remains.map fun (other, postings) =>
    if other = number then (other, postings.without (Postings.ofRow row).words)
    else (other, postings)

end Remains

end SymbolAtlas
