import SymbolAtlas.Store.Basic

/-!
# The checks of a symbol

A symbol is sound when it passes five checks, and an unsound one is reported with
the first that it fails. The checks are listed here as data, apart from the order
of questions in which they are asked, so that soundness and the first failure can
be stated without following those questions. Of a batch the least unsound
position is reported.
-/

namespace SymbolAtlas

namespace Symbol

/-- The checks in their order: whether the symbol fails, and what is reported then. -/
def checks (symbol : Symbol) : List (Bool × Defect) :=
  [ (Text.isBlankText symbol.name, .emptyName)
  , (Text.isBlankText symbol.filePath, .emptyFilePath)
  , (isRooted symbol.filePath, .absoluteFilePath symbol.filePath)
  , (hasParentSegment symbol.filePath, .parentDirectory symbol.filePath)
  , (decide (symbol.line < 1 ∧ symbol.line ≠ unknownLine), .invalidLine symbol.line) ]

/-- A sound symbol fails no check. -/
def IsSound (symbol : Symbol) : Prop :=
  ∀ check ∈ symbol.checks, check.1 = false

instance (symbol : Symbol) : Decidable symbol.IsSound :=
  inferInstanceAs (Decidable (∀ check ∈ symbol.checks, check.1 = false))

/-- The symbol fails the check with this report and passes every check before it. -/
def FailsFirst (symbol : Symbol) (defect : Defect) : Prop :=
  ∃ passed rest, symbol.checks = passed ++ (true, defect) :: rest ∧
    ∀ check ∈ passed, check.1 = false

/-- The reported defect is that of the first failing check. -/
theorem defect?_eq_find? (symbol : Symbol) :
    symbol.defect? = (symbol.checks.find? Prod.fst).map Prod.snd := by
  unfold defect? checks
  cases Text.isBlankText symbol.name <;> cases Text.isBlankText symbol.filePath <;>
    cases isRooted symbol.filePath <;> cases hasParentSegment symbol.filePath <;>
    by_cases misplaced : symbol.line < 1 ∧ symbol.line ≠ unknownLine <;> simp [misplaced]

/-- Nothing is reported of just the sound symbols. -/
theorem defect?_eq_none_iff (symbol : Symbol) : symbol.defect? = none ↔ symbol.IsSound := by
  simp [defect?_eq_find?, IsSound]

/-- What is reported is the first failing check, and that alone. -/
theorem defect?_eq_some_iff (symbol : Symbol) (defect : Defect) :
    symbol.defect? = some defect ↔ symbol.FailsFirst defect := by
  rw [defect?_eq_find?, Option.map_eq_some_iff, FailsFirst]
  constructor
  · rintro ⟨⟨failed, reported⟩, found, rfl⟩
    obtain ⟨fails, passed, rest, split, before⟩ := List.find?_eq_some_iff_append.1 found
    have isFailed : failed = true := fails
    subst isFailed
    exact ⟨passed, rest, split, fun check member => by simpa using before check member⟩
  · rintro ⟨passed, rest, split, before⟩
    refine ⟨(true, defect), List.find?_eq_some_iff_append.2 ⟨rfl, passed, rest, split, ?_⟩, rfl⟩
    intro check member
    simp [before check member]

end Symbol

namespace Store

/-- No position is reported of just the batches of sound symbols. -/
theorem firstDefect?_eq_none_iff (start : Nat) (symbols : List Symbol) :
    firstDefect? start symbols = none ↔ ∀ symbol ∈ symbols, symbol.IsSound := by
  induction symbols generalizing start with
  | nil => simp [firstDefect?]
  | cons symbol rest hypothesis =>
    unfold firstDefect?
    cases reported : symbol.defect? with
    | some defect => simp [← Symbol.defect?_eq_none_iff, reported]
    | none =>
      have sound := (Symbol.defect?_eq_none_iff symbol).1 reported
      simp [hypothesis (start + 1), sound]

/-- Positions are counted from the start given. -/
theorem le_of_firstDefect? {start : Nat} {symbols : List Symbol} {place : Nat × Defect}
    (reported : firstDefect? start symbols = some place) : start ≤ place.1 := by
  induction symbols generalizing start with
  | nil => simp [firstDefect?] at reported
  | cons symbol rest hypothesis =>
    unfold firstDefect? at reported
    cases asked : symbol.defect? with
    | some defect =>
      simp only [asked, Option.some.injEq] at reported
      exact reported ▸ Nat.le_refl start
    | none =>
      simp only [asked] at reported
      exact Nat.le_of_succ_le (hypothesis reported)

/-- The reported position is the least unsound one, with the first check that fails
there. Positions are counted from `start`, which the induction moves on. -/
theorem firstDefect?_eq_some_iff (start index : Nat) (symbols : List Symbol) (defect : Defect) :
    firstDefect? start symbols = some (start + index, defect) ↔
      (∃ symbol, symbols[index]? = some symbol ∧ symbol.FailsFirst defect) ∧
        ∀ symbol ∈ symbols.take index, symbol.IsSound := by
  induction symbols generalizing start index with
  | nil => simp [firstDefect?]
  | cons symbol rest hypothesis =>
    unfold firstDefect?
    cases reported : symbol.defect? with
    | some found =>
      have unsound : ¬ symbol.IsSound := by
        simp [← Symbol.defect?_eq_none_iff, reported]
      cases index with
      | zero => simp [← Symbol.defect?_eq_some_iff, reported]
      | succ later => simp [unsound]
    | none =>
      have sound := (Symbol.defect?_eq_none_iff symbol).1 reported
      cases index with
      | zero =>
        have behind : firstDefect? (start + 1) rest ≠ some (start, defect) := by
          intro claimed
          exact absurd (le_of_firstDefect? claimed) (Nat.not_succ_le_self start)
        simp [behind, ← Symbol.defect?_eq_some_iff, reported]
      | succ later =>
        have moved : start + (later + 1) = start + 1 + later := by omega
        rw [moved, hypothesis (start + 1) later]
        simp [sound]

end Store

end SymbolAtlas
