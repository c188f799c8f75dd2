import SymbolAtlas.Text.Split

/-!
# Where texts are cut

A cut at a separator is at its first occurrence, or at its last one where that is asked
for, and fails only where there is none.
A cut at every character of a class goes through a text from left to right, and reads
texts back that were put together with such characters between them. A text is cut down
to nothing at its ends just when it is blank.
-/

namespace SymbolAtlas.Text

/-- Nothing is left between the blanks at the ends just when all is blank. -/
theorem trim_eq_nil_iff (text : List Char) : trim text = [] ↔ text.all isBlank = true := by
  have ends (list : List Char) : list.dropWhile isBlank = [] ↔ list.all isBlank = true := by
    induction list with
    | nil => simp
    | cons c rest hypothesis => cases blank : isBlank c <;> simp [blank, hypothesis]
  unfold trim trimEnd trimEndWhile trimStart
  rw [List.reverse_eq_nil_iff, ends, List.all_reverse]
  induction text with
  | nil => rfl
  | cons c rest hypothesis => cases blank : isBlank c <;> simp [blank, hypothesis]

/-- A text without a blank has nothing to be cut off. -/
theorem trim_of_visible {text : List Char} (visible : ∀ c ∈ text, isBlank c = false) :
    trim text = text := by
  have kept {list : List Char} (visible : ∀ c ∈ list, isBlank c = false) :
      list.dropWhile isBlank = list := by
    cases list with
    | nil => rfl
    | cons c rest => simp [visible c List.mem_cons_self]
  have reversed : ∀ c ∈ text.reverse, isBlank c = false :=
    fun c member => visible c (List.mem_reverse.1 member)
  rw [trim, trimStart, kept visible, trimEnd, trimEndWhile, kept reversed, List.reverse_reverse]

/-- Cutting blanks away brings no character in. -/
theorem mem_of_mem_trim {c : Char} {text : List Char} (member : c ∈ trim text) : c ∈ text := by
  unfold trim trimEnd trimEndWhile trimStart at member
  have kept := List.dropWhile_subset _ (List.mem_reverse.1 member)
  exact List.dropWhile_subset _ (List.mem_reverse.1 kept)

/-- Cutting the end off brings no character in. -/
theorem mem_of_mem_trimEndWhile {drop : Char → Bool} {c : Char} {text : List Char}
    (member : c ∈ trimEndWhile drop text) : c ∈ text :=
  List.mem_reverse.1 (List.dropWhile_subset _ (List.mem_reverse.1 member))

/-- A separator and what stands before and after its first occurrence. -/
def FirstCut (separator text before after : List Char) : Prop :=
  text = before ++ separator ++ after ∧
    ∀ others rest, text = others ++ separator ++ rest → before.length ≤ others.length

/-- There is only one first occurrence. -/
theorem FirstCut.unique {separator text before after others rest : List Char}
    (one : FirstCut separator text before after) (two : FirstCut separator text others rest) :
    before = others ∧ after = rest := by
  have same : before.length = others.length :=
    Nat.le_antisymm (one.2 _ _ two.1) (two.2 _ _ one.1)
  have texts := one.1.symm.trans two.1
  rw [List.append_assoc, List.append_assoc] at texts
  obtain ⟨left, right⟩ := List.append_inj texts same
  exact ⟨left, List.append_cancel_left right⟩

/-- A cut gives the first occurrence, or there is none. -/
theorem splitFirst_cases {separator : List Char} (nonempty : separator ≠ [])
    (text : List Char) :
    (∃ before after, splitFirst separator text = some (before, after) ∧
        FirstCut separator text before after) ∨
      splitFirst separator text = none ∧ ¬ separator <:+: text := by
  induction text with
  | nil => exact .inr ⟨rfl, by simpa using nonempty⟩
  | cons c rest hypothesis =>
    unfold splitFirst
    by_cases begins : separator <+: c :: rest
    · left
      refine ⟨[], (c :: rest).drop separator.length, ?_, ?_, by simp⟩
      · simp [begins]
      · simpa using (List.prefix_iff_eq_append.1 begins).symm
    · rcases hypothesis with ⟨before, after, found, cut, first⟩ | ⟨missing, absent⟩
      · refine .inl ⟨c :: before, after, by simp [begins, found], by simp [cut], ?_⟩
        intro others behind same
        cases others with
        | nil => exact absurd ⟨behind, by simpa using same.symm⟩ begins
        | cons d others =>
          have shorter := first others behind (by simpa using (List.cons.inj same).2)
          simpa using shorter
      · refine .inr ⟨by simp [begins, missing], ?_⟩
        rw [List.infix_cons_iff]
        simp [begins, absent]

/-- A cut gives just what stands around the first occurrence. -/
theorem splitFirst_eq_some_iff {separator : List Char} (nonempty : separator ≠ [])
    (text before after : List Char) :
    splitFirst separator text = some (before, after) ↔
      FirstCut separator text before after := by
  rcases splitFirst_cases nonempty text with ⟨others, rest, found, cut⟩ | ⟨missing, absent⟩
  · rw [found]
    constructor
    · intro same
      obtain ⟨rfl, rfl⟩ := Prod.mk.inj (Option.some.inj same)
      exact cut
    · intro other
      obtain ⟨rfl, rfl⟩ := cut.unique other
      rfl
  · rw [missing]
    constructor
    · simp
    · intro cut
      exact absurd ⟨before, after, cut.1.symm⟩ absent

/-- A cut fails just where the separator does not occur. -/
theorem splitFirst_eq_none_iff {separator : List Char} (nonempty : separator ≠ [])
    (text : List Char) : splitFirst separator text = none ↔ ¬ separator <:+: text := by
  rcases splitFirst_cases nonempty text with ⟨before, after, found, cut⟩ | ⟨missing, absent⟩
  · have occurs : separator <:+: text := ⟨before, after, cut.1.symm⟩
    simp [found, occurs]
  · simp [missing, absent]

/-- A text is not cut at a character that it does not hold. -/
theorem splitLast_eq_none_iff {separator : Char} {text : List Char} :
    splitLast separator text = none ↔ separator ∉ text := by
  induction text with
  | nil => simp [splitLast]
  | cons c rest hypothesis =>
    rw [splitLast]
    cases later : splitLast separator rest with
    | some cut =>
      have inside : separator ∈ rest := by
        refine Decidable.byContradiction fun absent => ?_
        simp [hypothesis.2 absent] at later
      simp [inside]
    | none =>
      have absent := hypothesis.1 later
      by_cases same : c = separator
      · simp [same]
      · simp [same, absent, Ne.symm same]

/-- A cut at the last occurrence of a character gives just what stands around it. -/
theorem splitLast_eq_some_iff {separator : Char} {text before after : List Char} :
    splitLast separator text = some (before, after) ↔
      text = before ++ separator :: after ∧ separator ∉ after := by
  induction text generalizing before with
  | nil => simp [splitLast]
  | cons c rest hypothesis =>
    rw [splitLast]
    cases later : splitLast separator rest with
    | some cut =>
      obtain ⟨others, behind⟩ := cut
      constructor
      · intro same
        obtain ⟨rfl, rfl⟩ := Prod.mk.inj (Option.some.inj same)
        obtain ⟨whole, last⟩ := hypothesis.1 later
        exact ⟨by rw [whole]; rfl, last⟩
      · rintro ⟨whole, last⟩
        cases before with
        | nil =>
          obtain ⟨rfl, rfl⟩ := List.cons.inj whole
          simp [splitLast_eq_none_iff.2 last] at later
        | cons first front =>
          obtain ⟨rfl, inner⟩ := List.cons.inj whole
          have found := hypothesis.2 ⟨inner, last⟩
          rw [later] at found
          obtain ⟨rfl, rfl⟩ := Prod.mk.inj (Option.some.inj found)
          rfl
    | none =>
      have absent := splitLast_eq_none_iff.1 later
      constructor
      · intro found
        obtain ⟨same, cut⟩ := Option.ite_none_right_eq_some.1 found
        obtain ⟨rfl, rfl⟩ := Prod.mk.inj (Option.some.inj cut)
        exact ⟨by rw [same]; rfl, absent⟩
      · rintro ⟨whole, -⟩
        cases before with
        | nil =>
          obtain ⟨rfl, rfl⟩ := List.cons.inj whole
          simp
        | cons first front =>
          obtain ⟨rfl, rfl⟩ := List.cons.inj whole
          simp at absent

variable {cut : Char → Bool}

/-- There is always a piece. -/
theorem splitWhen_ne_nil (cut : Char → Bool) (text : List Char) : splitWhen cut text ≠ [] := by
  cases text with
  | nil => simp [splitWhen]
  | cons c rest =>
    rw [splitWhen]
    split
    · simp
    · split <;> simp

/-- A text is cut at a character into the pieces before it and those behind it. -/
theorem splitWhen_append {c : Char} (cuts : cut c = true) (before after : List Char) :
    splitWhen cut (before ++ c :: after) = splitWhen cut before ++ splitWhen cut after := by
  induction before with
  | nil => simp [splitWhen, cuts]
  | cons first rest hypothesis =>
    rw [List.cons_append, splitWhen, splitWhen, hypothesis]
    split
    · rfl
    · obtain ⟨piece, pieces, pieced⟩ := List.exists_cons_of_ne_nil (splitWhen_ne_nil cut rest)
      rw [pieced]
      rfl

/-- A text without such a character is one piece. -/
theorem splitWhen_of_uncut {text : List Char} (uncut : ∀ c ∈ text, cut c = false) :
    splitWhen cut text = [text] := by
  induction text with
  | nil => rfl
  | cons first rest hypothesis =>
    rw [splitWhen, uncut first (by simp), hypothesis fun c inside => uncut c (by simp [inside])]
    simp

/-- No piece holds a character at which the text is cut. -/
theorem not_cut_of_mem_splitWhen {text piece : List Char} (listed : piece ∈ splitWhen cut text) :
    ∀ c ∈ piece, cut c = false := by
  induction text generalizing piece with
  | nil => simp_all [splitWhen]
  | cons first rest hypothesis =>
    rw [splitWhen] at listed
    split at listed
    · rcases List.mem_cons.1 listed with rfl | later
      · simp
      · exact hypothesis later
    · rename_i uncut
      obtain ⟨head, pieces, pieced⟩ := List.exists_cons_of_ne_nil (splitWhen_ne_nil cut rest)
      simp only [pieced] at listed
      rcases List.mem_cons.1 listed with rfl | later
      · intro c inside
        rcases List.mem_cons.1 inside with rfl | behind
        · simpa using uncut
        · exact hypothesis (by simp [pieced]) c behind
      · exact hypothesis (by simp [pieced, later])

/-- What pieces put together hold is held by one of them or by what stands between them. -/
theorem mem_joinWith {separator : List Char} {pieces : List (List Char)} {c : Char}
    (member : c ∈ joinWith separator pieces) : c ∈ separator ∨ ∃ piece ∈ pieces, c ∈ piece := by
  fun_induction joinWith separator pieces with
  | case1 => simp at member
  | case2 piece => exact .inr ⟨piece, by simp, member⟩
  | case3 piece next rest hypothesis =>
    rw [List.mem_append, List.mem_append] at member
    rcases member with (first | between) | later
    · exact .inr ⟨piece, by simp, first⟩
    · exact .inl between
    · rcases hypothesis later with between | ⟨other, listed, inside⟩
      · exact .inl between
      · exact .inr ⟨other, List.mem_cons_of_mem piece listed, inside⟩

/-- The non-empty pieces of a text at a character. -/
def piecesAt (c : Char) (text : List Char) : List (List Char) :=
  (splitWhen (· = c) text).filter fun piece => !piece.isEmpty

/-- A text has the pieces before one of its cuts and those behind it. -/
theorem piecesAt_append_cons {c : Char} (before after : List Char) :
    piecesAt c (before ++ c :: after) = piecesAt c before ++ piecesAt c after := by
  rw [piecesAt, splitWhen_append (by simp), List.filter_append]
  rfl

/-- Cuts at the front of a text bring no piece. -/
theorem piecesAt_append_of_all {c : Char} {separator : List Char} (made : ∀ d ∈ separator, d = c)
    (text : List Char) : piecesAt c (separator ++ text) = piecesAt c text := by
  induction separator with
  | nil => rfl
  | cons d rest hypothesis =>
    obtain rfl := made d List.mem_cons_self
    exact (piecesAt_append_cons [] (rest ++ text)).trans
      (hypothesis fun e inside => made e (List.mem_cons_of_mem _ inside))

/-- A text without a cut is its only piece. -/
theorem piecesAt_of_uncut {c : Char} {text : List Char} (filled : text ≠ []) (uncut : c ∉ text) :
    piecesAt c text = [text] := by
  have whole : splitWhen (· = c) text = [text] :=
    splitWhen_of_uncut fun d inside => decide_eq_false fun same => uncut (same ▸ inside)
  simpa [piecesAt, whole] using filled

/-- Texts that are put together with cuts between them are the pieces of the whole. -/
theorem piecesAt_joinWith {c : Char} {separator : List Char} (filled : separator ≠ [])
    (made : ∀ d ∈ separator, d = c) {pieces : List (List Char)}
    (whole : ∀ piece ∈ pieces, piece ≠ [] ∧ c ∉ piece) :
    piecesAt c (joinWith separator pieces) = pieces := by
  fun_induction joinWith separator pieces with
  | case1 => rfl
  | case2 piece =>
    obtain ⟨nonempty, uncut⟩ := whole piece List.mem_cons_self
    exact piecesAt_of_uncut nonempty uncut
  | case3 piece next rest hypothesis =>
    obtain ⟨nonempty, uncut⟩ := whole piece List.mem_cons_self
    obtain ⟨d, more, rfl⟩ := List.exists_cons_of_ne_nil filled
    obtain rfl := made d List.mem_cons_self
    have behind : ∀ e ∈ more, e = d := fun e inside => made e (List.mem_cons_of_mem _ inside)
    rw [List.append_assoc, List.cons_append, piecesAt_append_cons, piecesAt_append_of_all behind,
      piecesAt_of_uncut nonempty uncut,
      hypothesis fun other inside => whole other (List.mem_cons_of_mem _ inside),
      List.singleton_append]

end SymbolAtlas.Text
