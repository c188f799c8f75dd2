import SymbolAtlas.Proofs.Text.Split
import SymbolAtlas.Text.Bytes

/-!
# Slices of a text and the words in them

Neighbouring slices of a text put together are the slice from the first offset to the last, as long
as the offsets fall between characters: `isBoundary`. An offset inside a character belongs to that
character on both sides, so there the character would be counted twice.

Blanks in front of a text do not show in its words, and taking a text apart into words, or cutting
it at its end, keeps every character that is neither blank nor cut off as often as it stands there.
-/

namespace SymbolAtlas.Text

/-- Whether an offset falls between two characters of a text or at one of its ends. -/
def isBoundary (text : List Char) (offset : Nat) : Bool :=
  byteSize (takeBytes offset text) = offset

@[simp] theorem byteSize_nil : byteSize [] = 0 := rfl

@[simp] theorem byteSize_cons (c : Char) (text : List Char) :
    byteSize (c :: text) = c.utf8Size + byteSize text := rfl

@[simp] theorem byteSize_append (front behind : List Char) :
    byteSize (front ++ behind) = byteSize front + byteSize behind := by
  induction front with
  | nil => simp
  | cons c rest hypothesis => simp [hypothesis, Nat.add_assoc]

/-- What is taken and what is left are the whole text. -/
theorem takeBytes_append_dropBytes (count : Nat) (text : List Char) :
    takeBytes count text ++ dropBytes count text = text := by
  fun_induction takeBytes count text with
  | case1 text => simp [dropBytes]
  | case2 => simp [dropBytes]
  | case3 count c rest hypothesis => simp [dropBytes, hypothesis]

/-- A front is taken whole by as many bytes as it has, and the others go on behind it. -/
theorem takeBytes_add (front behind : List Char) (count : Nat) :
    takeBytes (byteSize front + count) (front ++ behind) = front ++ takeBytes count behind := by
  induction front with
  | nil => simp
  | cons c rest hypothesis =>
    obtain ⟨size, whole⟩ := Nat.exists_eq_add_one.2 c.utf8Size_pos
    have total : byteSize (c :: rest) + count = (size + byteSize rest + count) + 1 := by
      rw [byteSize_cons]
      omega
    have left : size + byteSize rest + count + 1 - c.utf8Size = byteSize rest + count := by omega
    rw [total, List.cons_append, takeBytes, left, hypothesis, List.cons_append]

/-- A slice between two boundaries ends the text up to the second. -/
theorem exists_slice {text : List Char} {start stop : Nat} (lower : isBoundary text start = true)
    (upper : isBoundary text stop = true) (ordered : start ≤ stop) :
    dropBytes start text = slice start stop text ++ dropBytes stop text ∧
      byteSize (slice start stop text) = stop - start := by
  have size := of_decide_eq_true lower
  have whole := takeBytes_append_dropBytes start text
  have taken : takeBytes stop text = takeBytes start text ++ slice start stop text := by
    have further := takeBytes_add (takeBytes start text) (dropBytes start text) (stop - start)
    rwa [whole, size, Nat.add_sub_of_le ordered] at further
  constructor
  · have again := takeBytes_append_dropBytes stop text
    rw [taken, List.append_assoc] at again
    exact (List.append_cancel_left (again.trans whole.symm)).symm
  · have sizes := of_decide_eq_true upper
    rw [taken, byteSize_append] at sizes
    omega

/-- Two neighbouring slices are one. -/
theorem slice_append_slice {text : List Char} {start middle stop : Nat}
    (lower : isBoundary text start = true) (between : isBoundary text middle = true)
    (first : start ≤ middle) (second : middle ≤ stop) :
    slice start middle text ++ slice middle stop text = slice start stop text := by
  obtain ⟨behind, size⟩ := exists_slice lower between first
  have count : stop - start = byteSize (slice start middle text) + (stop - middle) := by omega
  have whole : slice start stop text = takeBytes (stop - start) (dropBytes start text) := rfl
  rw [whole, behind, count, takeBytes_add]
  rfl

/-- Blanks in front of a text are no words. -/
theorem words_append_of_blank {front : List Char} (blank : front.all isBlank = true)
    (text : List Char) : words (front ++ text) = words text := by
  induction front with
  | nil => rfl
  | cons c rest hypothesis =>
    simp only [List.all_cons, Bool.and_eq_true] at blank
    have first : words (c :: (rest ++ text)) = words (rest ++ text) := by
      simp [words, splitWhen, blank.1]
    rw [List.cons_append, first, hypothesis blank.2]

variable {c : Char}

/-- The pieces of a text hold a character at which it is not cut as often as the text does. -/
theorem count_flatten_splitWhen {cut : Char → Bool} (uncut : cut c = false) (text : List Char) :
    (splitWhen cut text).flatten.count c = text.count c := by
  induction text with
  | nil => rfl
  | cons first rest hypothesis =>
    rw [splitWhen]
    split
    next cuts =>
      have other : first ≠ c := by
        rintro rfl
        exact absurd cuts (by simp [uncut])
      simp [hypothesis, other]
    next =>
      obtain ⟨piece, pieces, pieced⟩ := List.exists_cons_of_ne_nil (splitWhen_ne_nil cut rest)
      rw [pieced] at hypothesis ⊢
      rw [List.flatten_cons, List.cons_append, List.count_cons, List.count_cons,
        ← List.flatten_cons, hypothesis]

/-- The words of a text hold a visible character as often as the text does. -/
theorem count_flatten_words (visible : isBlank c = false) (text : List Char) :
    (words text).flatten.count c = text.count c := by
  have kept : (words text).flatten = (splitWhen isBlank text).flatten := by
    rw [words]
    induction splitWhen isBlank text with
    | nil => rfl
    | cons piece rest hypothesis => cases piece <;> simp [hypothesis]
  rw [kept, count_flatten_splitWhen visible]

/-- Pieces put together hold a character that does not stand between them as often as they do. -/
theorem count_joinWith {separator : List Char} (other : c ∉ separator)
    (pieces : List (List Char)) :
    (joinWith separator pieces).count c = pieces.flatten.count c := by
  fun_induction joinWith separator pieces with
  | case1 => rfl
  | case2 piece => simp
  | case3 piece next rest hypothesis =>
    rw [List.count_append, List.count_append, hypothesis, List.count_eq_zero.2 other,
      Nat.add_zero, ← List.count_append]
    rfl

/-- A character that is not cut off at the end of a text stays as often as it stands there. -/
theorem count_trimEndWhile {drop : Char → Bool} (kept : drop c = false) (text : List Char) :
    (trimEndWhile drop text).count c = text.count c := by
  have off : (text.reverse.takeWhile drop).count c = 0 := by
    rw [List.count_eq_zero]
    intro inside
    have dropped := List.all_eq_true.1 List.all_takeWhile c inside
    rw [kept] at dropped
    exact absurd dropped (by decide)
  have whole : (text.reverse.takeWhile drop ++ text.reverse.dropWhile drop).count c =
      text.reverse.count c := by
    rw [List.takeWhile_append_dropWhile]
  rw [List.count_append, off, Nat.zero_add, List.count_reverse] at whole
  rw [trimEndWhile, List.count_reverse, whole]

end SymbolAtlas.Text
