import Mathlib.Data.List.DropRight
import SymbolAtlas.Proofs.Text.Split

/-!
# Blanks at the ends of joined texts

Of two texts that are joined at a visible character, the first keeps the blanks at its end and the
second those at its start; only the outer blanks are cut off. So what is trimmed as a whole and then
part by part comes to the parts without the blanks around them. The texts are parted again where
they were joined if the separator has not begun before.
-/

namespace SymbolAtlas.Text

/-- Blanks are cut off at the start up to the first visible character. -/
theorem trimStart_append_cons {c : Char} (visible : isBlank c = false) (before after : List Char) :
    trimStart (before ++ c :: after) = trimStart before ++ c :: after := by
  rw [trimStart, trimStart, List.dropWhile_append]
  split
  · rename_i nothing
    rw [List.isEmpty_iff.1 nothing, List.dropWhile_cons_of_neg (by simp [visible]), List.nil_append]
  · rfl

/-- Blanks are cut off at the end down to the last visible character. -/
theorem trimEnd_append_cons {c : Char} (visible : isBlank c = false) (before after : List Char) :
    trimEnd (before ++ c :: after) = before ++ c :: trimEnd after := by
  have mirrored := trimStart_append_cons visible after.reverse before.reverse
  unfold trimStart at mirrored
  unfold trimEnd trimEndWhile
  rw [List.reverse_append, List.reverse_cons, List.append_assoc, List.singleton_append, mirrored]
  simp

/-- It makes no difference at which end blanks are cut off first. -/
theorem trimStart_trimEnd (text : List Char) : trimStart (trimEnd text) = trim text := by
  induction text with
  | nil => rfl
  | cons c rest hypothesis =>
    cases blank : isBlank c with
    | false =>
      have started (list : List Char) : trimStart (c :: list) = c :: list :=
        trimStart_append_cons blank [] list
      have ended : trimEnd (c :: rest) = c :: trimEnd rest := trimEnd_append_cons blank [] rest
      rw [trim, started, ended, started]
    | true =>
      have started (list : List Char) : trimStart (c :: list) = trimStart list :=
        List.dropWhile_cons_of_pos blank
      rw [trim, started, ← trim, ← hypothesis]
      -- The blank goes with the others if all are blank, and else stays to be cut off first.
      unfold trimEnd trimEndWhile
      rw [List.reverse_cons, List.dropWhile_append]
      split
      · rename_i nothing
        rw [List.isEmpty_iff.1 nothing, List.dropWhile_cons_of_pos blank]
        rfl
      · rw [List.reverse_append, List.reverse_singleton, List.singleton_append, started]

/-- What has been cut off at the start is not there to be cut off again. -/
theorem trim_trimStart (text : List Char) : trim (trimStart text) = trim text := by
  rw [trim, trim, trimStart, trimStart, List.dropWhile_idempotent]

/-- What has been cut off at the end is not there to be cut off again. -/
theorem trim_trimEnd (text : List Char) : trim (trimEnd text) = trim text := by
  have again : trimEnd (trimEnd text) = trimEnd text := by
    rw [trimEnd, trimEnd, trimEndWhile, trimEndWhile, List.reverse_reverse,
      List.dropWhile_idempotent]
  rw [← trimStart_trimEnd, again, trimStart_trimEnd]

/-- The text without the blanks around it occurs in the text. -/
theorem trim_infix (text : List Char) : trim text <:+: text := by
  have begins (list : List Char) : trimEnd list <+: list := by
    rw [← List.reverse_suffix, trimEnd, trimEndWhile, List.reverse_reverse]
    exact List.dropWhile_suffix isBlank
  exact (begins _).isInfix.trans (List.dropWhile_suffix isBlank).isInfix

/-- Where a separator's first character has not come yet, the separator has not either. -/
theorem firstCut_of_not_mem {c : Char} {before : List Char} (absent : c ∉ before)
    (rest after : List Char) :
    FirstCut (c :: rest) (before ++ c :: rest ++ after) before after := by
  refine ⟨rfl, fun others tail same => Nat.le_of_not_lt fun earlier => absent ?_⟩
  have there := congrArg (·[others.length]?) same
  simp only [List.append_assoc, List.getElem?_append_left earlier] at there
  rw [List.getElem?_append_right (Nat.le_refl _), Nat.sub_self] at there
  exact List.mem_of_getElem? there

end SymbolAtlas.Text
