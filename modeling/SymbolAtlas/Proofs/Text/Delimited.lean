import Mathlib.Data.List.Basic

/-!
# Texts written one after another

Where things are written without a count or a table of contents, each must tell where it
ends. `Delimited` says that of two things: whatever follows them, equal texts mean that
they agree in what they show and that what follows is equal. Sequences of such things are
read back as a whole when a reader sees at every place whether one more follows. A number reads back
from its digits.
-/

namespace SymbolAtlas.Text

variable {α β : Type}

/-- Two things whose texts, in front of any others, are only equal when the things show
the same and the texts behind them are equal. -/
def Delimited (write : α → List Char) (shown : α → β) (left right : α) : Prop :=
  ∀ rest others, write left ++ rest = write right ++ others →
    shown left = shown right ∧ rest = others

/-- As `Delimited`, where only certain texts can come behind the two things. -/
def DelimitedBefore (follows : List Char → Prop) (write : α → List Char) (shown : α → β)
    (left right : α) : Prop :=
  ∀ rest others, follows rest → follows others → write left ++ rest = write right ++ others →
    shown left = shown right ∧ rest = others

/-- Sequences of things are delimited by a text that begins none of them, when each thing
is told apart before whatever can come behind it: another one, or that text. -/
theorem map_eq_of_flatMap_append_eq_before {write : α → List Char} {shown : α → β}
    (begins follows : List Char → Prop)
    (opening : ∀ thing rest, begins (write thing ++ rest) ∧ follows (write thing ++ rest))
    {left right : List α}
    (delimited : ∀ thing ∈ left, ∀ other ∈ right,
      DelimitedBefore follows write shown thing other)
    {rest others : List Char} (ends : ¬ begins rest ∧ follows rest)
    (stops : ¬ begins others ∧ follows others)
    (same : left.flatMap write ++ rest = right.flatMap write ++ others) :
    left.map shown = right.map shown ∧ rest = others := by
  have next (things : List α) {rest : List Char} (ends : ¬ begins rest ∧ follows rest) :
      follows (things.flatMap write ++ rest) := by
    cases things with
    | nil => exact ends.2
    | cons thing later =>
      rw [List.flatMap_cons, List.append_assoc]
      exact (opening thing _).2
  induction left generalizing right with
  | nil =>
    cases right with
    | nil => exact ⟨rfl, same⟩
    | cons other after =>
      rw [List.flatMap_nil, List.nil_append, List.flatMap_cons, List.append_assoc] at same
      exact absurd (same ▸ (opening other _).1) ends.1
  | cons thing before hypothesis =>
    cases right with
    | nil =>
      rw [List.flatMap_nil, List.nil_append, List.flatMap_cons, List.append_assoc] at same
      exact absurd (same ▸ (opening thing _).1) stops.1
    | cons other after =>
      rw [List.flatMap_cons, List.flatMap_cons, List.append_assoc, List.append_assoc] at same
      obtain ⟨first, later⟩ := delimited thing List.mem_cons_self other List.mem_cons_self _ _
        (next before ends) (next after stops) same
      obtain ⟨shown, behind⟩ := hypothesis
        (fun thing inside other among =>
          delimited thing (List.mem_cons_of_mem _ inside) other (List.mem_cons_of_mem _ among))
        later
      exact ⟨by rw [List.map_cons, List.map_cons, first, shown], behind⟩

/-- Sequences of delimited things are delimited by a text that begins none of them. -/
theorem map_eq_of_flatMap_append_eq {write : α → List Char} {shown : α → β}
    (begins : List Char → Prop) (opening : ∀ thing rest, begins (write thing ++ rest))
    {left right : List α}
    (delimited : ∀ thing ∈ left, ∀ other ∈ right, Delimited write shown thing other)
    {rest others : List Char} (ends : ¬ begins rest) (stops : ¬ begins others)
    (same : left.flatMap write ++ rest = right.flatMap write ++ others) :
    left.map shown = right.map shown ∧ rest = others :=
  map_eq_of_flatMap_append_eq_before begins (fun _ => True)
    (fun thing rest => ⟨opening thing rest, trivial⟩)
    (fun thing inside other among rest others _ _ =>
      delimited thing inside other among rest others)
    ⟨ends, trivial⟩ ⟨stops, trivial⟩ same

/-- Sequences of things that show the same are written the same, when each thing is
written by what it shows. -/
theorem flatMap_eq_of_map_eq {write : α → List Char} {shown : α → β}
    (written : ∀ thing other, shown thing = shown other → write thing = write other)
    {left right : List α} (same : left.map shown = right.map shown) :
    left.flatMap write = right.flatMap write := by
  induction left generalizing right with
  | nil => rw [List.map_eq_nil_iff.1 same.symm]
  | cons thing before hypothesis =>
    obtain ⟨other, after, rfl, first, later⟩ := List.map_eq_cons_iff.1 same.symm
    rw [List.flatMap_cons, List.flatMap_cons, written thing other first.symm,
      hypothesis later.symm]

/-- The number that digits stand for, with a sign in front of them or without. -/
def numberOf : List Char → Int
  | '-' :: digits => -(Nat.ofDigitChars 10 digits 0)
  | digits => Nat.ofDigitChars 10 digits 0

/-- A number reads back from its text. -/
theorem numberOf_toString (number : Int) : numberOf (toString number).toList = number := by
  cases number with
  | ofNat n =>
    have digits : (toString (Int.ofNat n)).toList = Nat.toDigits 10 n := Nat.toList_repr
    rw [digits, numberOf.eq_def]
    split
    next rest signed =>
      -- a digit is no sign
      have sign : '-' ∈ Nat.toDigits 10 n := signed ▸ List.mem_cons_self
      exact absurd (Nat.isDigit_of_mem_toDigits (by decide) (by decide) sign) (by decide)
    next => exact congrArg Int.ofNat Nat.ofDigitChars_ten_toDigits
  | negSucc n =>
    have digits : (toString (Int.negSucc n)).toList = '-' :: Nat.toDigits 10 (n + 1) :=
      String.toList_append.trans (congrArg ('-' :: ·) Nat.toList_repr)
    rw [digits, numberOf, Nat.ofDigitChars_ten_toDigits]
    rfl

/-- Numbers are told apart by their texts. -/
theorem eq_of_toString_eq {left right : Int} (same : toString left = toString right) :
    left = right := by
  rw [← numberOf_toString left, same, numberOf_toString]

end SymbolAtlas.Text
