import SymbolAtlas.Proofs.Index.Portable

/-!
# How far a normal path is relative to the root

A reported path is asked once whether it is rooted, before anything is taken from its front.
What is taken away can uncover a root: behind segments for the current directory stands any
text, and what is left below the project root is a text of its own, in which a backslash or a
drive letter comes first that was an ordinary character before. `HidesRoot` names these
reports. They are the only ones whose normal path is rooted; parent segments are looked for
at the end, and backslashes are turned everywhere, so neither is ever left.
-/

namespace SymbolAtlas

/-- A text is rooted when it begins with a separator or with a drive. -/
theorem isRooted_eq_true_iff (path : String) :
    isRooted path = true ↔
      path.toList.head? = some '/' ∨ path.toList.head? = some '\\' ∨
      ∃ letter rest, path.toList = letter :: ':' :: rest ∧ Text.isAsciiLetter letter = true := by
  unfold isRooted
  generalize path.toList = text
  split
  next => simp
  next => simp
  next letter rest slash backslash =>
    have first : letter ≠ '/' := fun same => slash (by rw [same])
    have second : letter ≠ '\\' := fun same => backslash (by rw [same])
    simp [first, second]
  next slash backslash drive =>
    constructor
    · simp
    · rintro (begins | begins | ⟨letter, rest, whole, -⟩)
      · obtain ⟨rest, whole⟩ := List.head?_eq_some_iff.1 begins
        exact absurd whole (slash rest)
      · obtain ⟨rest, whole⟩ := List.head?_eq_some_iff.1 begins
        exact absurd whole (backslash rest)
      · exact absurd whole (drive letter rest)

/-- Turning backslashes neither makes a text rooted nor makes it relative. -/
theorem isRooted_forwardSlashes (text : String) :
    isRooted (Text.forwardSlashes text) = isRooted text := by
  rw [Bool.eq_iff_iff, isRooted_eq_true_iff, isRooted_eq_true_iff]
  simp only [Text.forwardSlashes, String.toList_ofList]
  have colon (c : Char) : (if c = '\\' then '/' else c) = ':' ↔ c = ':' := by
    split <;> simp_all
  cases text.toList with
  | nil => simp
  | cons first rest =>
    by_cases turned : first = '\\'
    · simp [turned]
    · cases rest with
      | nil => simp [turned]
      | cons second rest => simp [turned, colon]

/-- Segments for the current directory are skipped until there is none. -/
theorem skipCurrent_eq (text : List Char) :
    ∃ count, text = (List.replicate count ['.', '/']).flatten ++ skipCurrent text := by
  fun_induction skipCurrent text with
  | case1 rest hypothesis =>
    obtain ⟨count, whole⟩ := hypothesis
    refine ⟨count + 1, ?_⟩
    rw [List.replicate_succ, List.flatten_cons, List.append_assoc, ← whole]
    rfl
  | case2 text => exact ⟨0, rfl⟩

/-- What is skipped does not depend on what stands behind it, if that is rooted. -/
theorem skipCurrent_append {rest : List Char} (rooted : isRooted (String.ofList rest) = true)
    (count : Nat) : skipCurrent ((List.replicate count ['.', '/']).flatten ++ rest) = rest := by
  induction count with
  | zero =>
    have unlike : ∀ behind, rest ≠ '.' :: '/' :: behind := by
      rintro behind rfl
      simp [isRooted] at rooted
    unfold skipCurrent
    split
    next behind whole => exact absurd whole (unlike behind)
    next => rfl
  | succ count hypothesis =>
    rw [List.replicate_succ, List.flatten_cons, List.append_assoc]
    exact hypothesis

/-- No separator is left at the front. -/
theorem Path.head?_skipFront (text : List Char) : (skipFront text).head? ≠ some '/' := by
  fun_induction skipFront text with
  | case1 rest hypothesis => exact hypothesis
  | case2 => simp
  | case3 rest hypothesis => exact hypothesis
  | case4 text slash dot dotSlash =>
    intro begins
    obtain ⟨rest, whole⟩ := List.head?_eq_some_iff.1 begins
    exact slash rest whole

/-- Skipping at the front brings no character in. -/
theorem Path.skipFront_suffix (text : List Char) : skipFront text <:+ text := by
  fun_induction skipFront text with
  | case1 rest hypothesis => exact hypothesis.trans ⟨['/'], rfl⟩
  | case2 => exact List.nil_suffix
  | case3 rest hypothesis => exact hypothesis.trans ⟨['.', '/'], rfl⟩
  | case4 text => exact List.suffix_rfl

/-- Taking the end off leaves the front. -/
theorem Path.skipBack_prefix (text : List Char) : skipBack text <+: text := by
  have front := List.reverse_prefix.2 (skipFront_suffix text.reverse)
  rw [List.reverse_reverse] at front
  exact front

/-- What remains below a base does not begin with a separator. -/
theorem Path.head?_of_below? {path base rest : String} (below : below? path base = some rest) :
    rest.toList.head? ≠ some '/' := by
  unfold below? at below
  split at below
  case isFalse => simp at below
  case isTrue =>
    obtain rfl := Option.some.inj below
    rw [String.toList_ofList]
    intro begins
    apply head?_skipFront (afterComponents (components base) path.toList)
    obtain ⟨behind, whole⟩ := skipBack_prefix (skipFront (afterComponents _ path.toList))
    rw [← whole, List.head?_append, begins]
    rfl

/-- The reports whose root shows only when what stands in front of it has been taken away. -/
inductive HidesRoot (root : String) (realRoot : Option String) (raw : String) : Prop where
  /-- A rooted text behind segments for the current directory. -/
  | behindCurrent {rest : List Char} (relative : isRooted raw = false) (count : Nat)
      (written : (Text.forwardSlashes raw).toList =
        (List.replicate (count + 1) ['.', '/']).flatten ++ rest)
      (rooted : isRooted (String.ofList rest) = true)
  /-- A backslash at the front of what is left below the root. -/
  | backslashBelow {below : String} (rooted : isRooted raw = true)
      (left : belowRoot? raw root realRoot = some below)
      (begins : below.toList.head? = some '\\')
  /-- A drive letter at the front of what is left below the root. -/
  | driveBelow {below : String} {letter : Char} {rest : List Char} (rooted : isRooted raw = true)
      (left : belowRoot? raw root realRoot = some below)
      (begins : below.toList = letter :: ':' :: rest)
      (drive : Text.isAsciiLetter letter = true)

/-- What is left below the root does not begin with a separator either. -/
theorem head?_of_belowRoot? {raw root below : String} {realRoot : Option String}
    (left : belowRoot? raw root realRoot = some below) : below.toList.head? ≠ some '/' := by
  unfold belowRoot? at left
  split at left
  next rest found =>
    obtain rfl := Option.some.inj left
    exact Path.head?_of_below? found
  next =>
    obtain ⟨real, -, found⟩ := Option.bind_eq_some_iff.1 left
    exact Path.head?_of_below? found

/-- A normal path and the report it comes from: what is left below the root, or what is left
behind the segments for the current directory. -/
theorem normalPath_eq_ok_iff (root : String) (realRoot : Option String) (raw path : String) :
    normalPath root realRoot raw = .ok path ↔
      hasParentSegment path = false ∧
      ((isRooted raw = true ∧ ∃ below, belowRoot? raw root realRoot = some below ∧
          path = Text.forwardSlashes below) ∨
        (isRooted raw = false ∧
          path = String.ofList (skipCurrent (Text.forwardSlashes raw).toList))) := by
  have kept (text : String) :
      (if hasParentSegment text then .error (.outsideRoot raw root) else .ok text) =
          (.ok path : Except ParseError String) ↔ hasParentSegment path = false ∧ path = text := by
    constructor
    · intro passed
      split at passed
      next => simp at passed
      next unclimbing =>
        obtain rfl := Except.ok.inj passed
        exact ⟨Bool.eq_false_iff.2 unclimbing, rfl⟩
    · rintro ⟨unclimbing, rfl⟩
      simp [unclimbing]
  unfold normalPath
  cases rooted : isRooted raw with
  | false => simp [kept]
  | true =>
    cases belowRoot? raw root realRoot with
    | none => simp
    | some below => simp [kept]

/-- Whether a path has the form that is stored, whatever the root. -/
def isNormalPath (path : String) : Bool :=
  !isRooted path && !hasParentSegment path &&
    decide (String.ofList (skipCurrent (Text.forwardSlashes path).toList) = path)

/-- A path in that form is left as it is. -/
theorem normalPath_of_normal {path : String} (normal : isNormalPath path = true) (root : String)
    (realRoot : Option String) : normalPath root realRoot path = .ok path := by
  simp only [isNormalPath, Bool.and_eq_true, Bool.not_eq_true', decide_eq_true_eq] at normal
  obtain ⟨⟨relative, inner⟩, same⟩ := normal
  exact (normalPath_eq_ok_iff root realRoot path path).2 ⟨inner, .inr ⟨relative, same.symm⟩⟩

/-- Symbols whose paths have that form are left as they are. -/
theorem normalSymbols_of_normal {root : String} {realRoot : Option String}
    {symbols : List Symbol}
    (normal : symbols.all (fun symbol => isNormalPath symbol.filePath) = true) :
    normalSymbols root realRoot symbols = .ok symbols := by
  induction symbols with
  | nil => rfl
  | cons symbol rest hypothesis =>
    rw [List.all_cons, Bool.and_eq_true] at normal
    rw [normalSymbols, normalPath_of_normal normal.1, hypothesis normal.2]

/-- A path in the form that is stored has no parent segment and no backslash, whatever was
reported, below whatever root. It is relative to the root in the sense in which symbols are
checked just when the report does not hide a root. -/
theorem normalPath_relative {root raw path : String} {realRoot : Option String}
    (normal : normalPath root realRoot raw = .ok path) :
    hasParentSegment path = false ∧ '\\' ∉ path.toList ∧
      (isRooted path = false ↔ ¬ HidesRoot root realRoot raw) := by
  obtain ⟨unclimbing, shape⟩ := (normalPath_eq_ok_iff root realRoot raw path).1 normal
  refine ⟨unclimbing, backslash_not_mem_normalPath normal, ?_⟩
  rw [← Bool.not_eq_true, not_iff_not]
  rcases shape with ⟨rooted, below, left, rfl⟩ | ⟨relative, rfl⟩
  · rw [isRooted_forwardSlashes, isRooted_eq_true_iff]
    constructor
    · rintro (slash | backslash | ⟨letter, rest, begins, drive⟩)
      · exact absurd slash (head?_of_belowRoot? left)
      · exact .backslashBelow rooted left backslash
      · exact .driveBelow rooted left begins drive
    · rintro (⟨relative, -, -, -⟩ | ⟨-, again, begins⟩ | ⟨-, again, begins, drive⟩)
      · simp [rooted] at relative
      · obtain rfl := Option.some.inj (left.symm.trans again)
        exact .inr (.inl begins)
      · obtain rfl := Option.some.inj (left.symm.trans again)
        exact .inr (.inr ⟨_, _, begins, drive⟩)
  · constructor
    · intro rooted
      obtain ⟨count, whole⟩ := skipCurrent_eq (Text.forwardSlashes raw).toList
      cases count with
      | zero =>
        -- Nothing was skipped, and turning backslashes does not make a text rooted.
        have unchanged : skipCurrent (Text.forwardSlashes raw).toList =
            (Text.forwardSlashes raw).toList := whole.symm
        rw [unchanged, String.ofList_toList, isRooted_forwardSlashes, relative] at rooted
        exact absurd rooted Bool.false_ne_true
      | succ count => exact .behindCurrent relative count whole rooted
    · rintro (⟨-, count, written, rooted⟩ | ⟨rooted, -, -⟩ | ⟨rooted, -, -, -⟩)
      · rw [written, skipCurrent_append rooted]
        exact rooted
      · simp [relative] at rooted
      · simp [relative] at rooted

/-- Backslashes and a segment for the current directory hide no root, a drive below the root
does. -/
theorem normalPath_relative_drive :
    ¬ HidesRoot "/work" none ".\\src\\a.x" ∧ HidesRoot "/work" none "/work/C:/a.x" := by
  have source : normalPath "/work" none ".\\src\\a.x" = .ok "src/a.x" := by decide +kernel
  have drive : normalPath "/work" none "/work/C:/a.x" = .ok "C:/a.x" := by decide +kernel
  constructor
  · exact (normalPath_relative source).2.2.1 (by decide +kernel)
  · by_contra hidden
    have relative := (normalPath_relative drive).2.2.2 hidden
    exact absurd relative (by decide +kernel)

/-- Not every path in the form that is stored is relative: a rooted path behind a segment for
the current directory is left rooted. -/
theorem not_all_normalPath_relative :
    ¬ ∀ root realRoot raw path, normalPath root realRoot raw = .ok path →
      isRooted path = false ∧ hasParentSegment path = false ∧ '\\' ∉ path.toList := by
  intro all
  have outside : normalPath "/work" none ".//etc/a.x" = .ok "/etc/a.x" := by decide +kernel
  have relative := (all _ _ _ _ outside).1
  exact absurd relative (by decide +kernel)

end SymbolAtlas
