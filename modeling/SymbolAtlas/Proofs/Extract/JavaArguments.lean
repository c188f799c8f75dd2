import Mathlib.Data.List.TakeWhile
import SymbolAtlas.Extract.JavaResolver
import SymbolAtlas.Proofs.Text.Split

/-!
# What type arguments do to the type that is found

A written type is cut at its first angle bracket before anything else is asked of it. So the
arguments themselves never count, and what stands behind them does not count either: neither the
brackets of an array of a generic type nor the inner type of a generic outer one.
`withoutArguments?` is the reading that was meant, which deletes the lists of arguments and keeps
the rest.

Whatever is known of types, the two readings find the same just when they leave the same name to
look for. `typeName?` is that name: a type that is blank or an array has none. One direction is
immediate; for the other, any name that one reading leaves is found where it is the only type that
is known, and then under no other name.
-/

namespace SymbolAtlas.Java

/-- A text without its lists of type arguments, read inside so many lists that are still open.
There is none where the brackets are not balanced. -/
def erase? : Nat → List Char → Option (List Char)
  | 0, [] => some []
  | _ + 1, [] => none
  | depth, c :: text =>
    if c = '<' then erase? (depth + 1) text
    else if c = '>' then
      match depth with
      | 0 => none
      | depth + 1 => erase? depth text
    else if depth = 0 then (erase? 0 text).map (c :: ·)
    else erase? depth text

/-- A text without its balanced lists of type arguments. -/
def withoutArguments? (text : List Char) : Option (List Char) :=
  erase? 0 text

/-- The text in front of the first list of type arguments. -/
def beforeArguments (text : List Char) : List Char :=
  text.takeWhile (· ≠ '<')

/-- The name by which a type that is written without arguments is looked for. A blank text and an
array have none. -/
def typeName? (text : List Char) : Option (List Char) :=
  let plain := Text.trim text
  if plain.isEmpty || plain.getLast? = some ']' then none else some plain

/-- In front of the first list there is none. -/
theorem beforeArguments_idem (text : List Char) :
    beforeArguments (beforeArguments text) = beforeArguments text := by
  simp [beforeArguments, List.takeWhile_takeWhile]

/-- What is left begins with what stands in front of the arguments. -/
theorem beforeArguments_prefix {text plain : List Char}
    (erased : withoutArguments? text = some plain) : beforeArguments text <+: plain := by
  unfold withoutArguments? at erased
  induction text generalizing plain with
  | nil => exact List.nil_prefix
  | cons c rest hypothesis =>
    by_cases opens : c = '<'
    · simp [beforeArguments, opens]
    by_cases closes : c = '>'
    · simp [erase?, closes] at erased
    · simp only [erase?, opens, closes, if_false, if_true, Option.map_eq_some_iff] at erased
      obtain ⟨others, kept, rfl⟩ := erased
      simpa [beforeArguments, opens] using hypothesis kept

/-- No list of arguments is left. -/
theorem beforeArguments_of_erase? {depth : Nat} {text plain : List Char}
    (erased : erase? depth text = some plain) : beforeArguments plain = plain := by
  fun_induction erase? depth text generalizing plain with
  | case1 => simp_all [beforeArguments]
  | case2 => simp at erased
  | case3 _ _ hypothesis => exact hypothesis erased
  | case4 => simp at erased
  | case5 _ _ _ hypothesis => exact hypothesis erased
  | case6 c text opens _ hypothesis =>
    obtain ⟨others, kept, rfl⟩ := Option.map_eq_some_iff.1 erased
    simpa [beforeArguments, opens] using hypothesis kept
  | case7 _ _ _ _ _ _ hypothesis => exact hypothesis erased

/-- Behind a text that is not blank, blanks are all that can be cut off again. -/
theorem trim_append_eq_iff {text : List Char} (filled : Text.trim text ≠ []) (behind : List Char) :
    Text.trim (text ++ behind) = Text.trim text ↔ behind.all Text.isBlank = true := by
  have start : text.dropWhile Text.isBlank ≠ [] := by
    intro empty
    exact filled (by simp [Text.trim, Text.trimStart, empty, Text.trimEnd, Text.trimEndWhile])
  have front : Text.trimStart (text ++ behind) = Text.trimStart text ++ behind := by
    rw [Text.trimStart, Text.trimStart, List.dropWhile_append, if_neg (by simpa using start)]
  have blank : behind.all Text.isBlank = true ↔ behind.reverse.dropWhile Text.isBlank = [] := by
    rw [List.dropWhile_eq_nil_iff, List.all_eq_true]
    simp
  rw [Text.trim, Text.trim, front, blank]
  unfold Text.trimEnd Text.trimEndWhile
  rw [List.reverse_append, List.dropWhile_append]
  by_cases empty : behind.reverse.dropWhile Text.isBlank = []
  · simp [empty]
  -- Something of `behind` is left, so the trimmed text is longer than all of `text`.
  · rw [if_neg (by simpa using empty)]
    refine iff_of_false (fun same => ?_) empty
    have longer := congrArg List.length same
    have shorter := (List.dropWhile_suffix Text.isBlank (l := (Text.trimStart text).reverse)).length_le
    have kept := List.length_pos_iff.2 empty
    simp only [List.length_reverse, List.length_append] at longer shorter
    omega

/-- Blanks at the end are always cut off. -/
theorem trim_append_of_blank (text : List Char) {behind : List Char}
    (blank : behind.all Text.isBlank = true) : Text.trim (text ++ behind) = Text.trim text := by
  by_cases empty : Text.trim text = []
  · have all := (Text.trim_eq_nil_iff text).1 empty
    rw [empty, Text.trim_eq_nil_iff, List.all_append, all, blank, Bool.and_self]
  · exact (trim_append_eq_iff empty behind).2 blank

/-- A name that is looked for is the trimmed text, which is not empty. -/
theorem trim_of_typeName? {text name : List Char} (named : typeName? text = some name) :
    Text.trim text = name ∧ Text.trim text ≠ [] := by
  unfold typeName? at named
  dsimp only at named
  split at named
  next => simp at named
  next looked =>
    have filled : ¬ (Text.trim text).isEmpty := fun empty => looked (by simp [empty])
    exact ⟨Option.some.inj named, by simpa using filled⟩

/-- What stands behind a text leaves the name that is looked for as it is just when it is blank,
or when there is no name with it and none without it. -/
theorem typeName?_append_eq_iff (text behind : List Char) :
    typeName? text = typeName? (text ++ behind) ↔
      behind.all Text.isBlank = true ∨ typeName? text = none ∧ typeName? (text ++ behind) = none := by
  constructor
  · intro same
    cases named : typeName? text with
    | none => exact .inr ⟨rfl, same.symm.trans named⟩
    | some name =>
      obtain ⟨short, filled⟩ := trim_of_typeName? named
      obtain ⟨long, _⟩ := trim_of_typeName? (same.symm.trans named)
      exact .inl ((trim_append_eq_iff filled behind).1 (long.trans short.symm))
  · rintro (blank | ⟨without, withIt⟩)
    · rw [typeName?, typeName?, trim_append_of_blank text blank]
    · rw [without, withIt]

namespace Resolver

/-- The full name of the type that a name without arguments is found as. -/
def find? (resolver : Resolver) (imports : Imports) (name : List Char) : Option String :=
  let whole := String.ofList name
  match Text.splitFirst ['.'] name with
  | some (head, rest) =>
    match resolver.base? imports (String.ofList head) with
    | some base => some (under (some base) (String.ofList rest))
    | none => if resolver.knows whole then some whole else none
  | none =>
    match resolver.base? imports whole with
    | some base => some base
    | none => if resolver.knows whole then some whole else none

/-- A written type is found by the name in front of its arguments. -/
theorem resolve?_eq (resolver : Resolver) (imports : Imports) (written : List Char) :
    resolver.resolve? imports (String.ofList written) =
      (typeName? (beforeArguments written)).bind (resolver.find? imports) := by
  unfold resolve? typeName? beforeArguments
  rw [String.toList_ofList]
  dsimp only
  split
  next => rfl
  next => rfl

/-- The resolver that knows one type only. -/
def knowing (name : String) : Resolver where
  here := [(name, { methods := [], fields := [], superclass := none, imports := {} })]
  elsewhere := []

/-- It knows that type and no other. -/
theorem knows_knowing (name other : String) :
    (knowing name).knows other = true ↔ other = name := by
  by_cases same : other = name
  · simp [knows, get?, knowing, Dict.get?, same]
  · simp [knows, get?, knowing, Dict.get?, List.lookup_cons, beq_eq_false_iff_ne.2 same, same]

/-- Where a type is the only one known, it is found by its own name, and by no other name. -/
theorem find?_knowing (name other : List Char) :
    (knowing (String.ofList name)).find? {} other = some (String.ofList name) ↔ other = name := by
  have base (head : List Char) : (knowing (String.ofList name)).base? {} (String.ofList head) =
      if head = name then some (String.ofList head) else none := by
    simp [base?, Dict.get?, under, knows_knowing, String.ofList_inj]
  have whole : (if (knowing (String.ofList name)).knows (String.ofList other) then
      some (String.ofList other) else none) = some (String.ofList name) ↔ other = name := by
    simp [knows_knowing, String.ofList_inj]
  unfold find?
  dsimp only
  split
  next head rest cut =>
    have parts := ((Text.splitFirst_eq_some_iff (by simp) _ _ _).1 cut).1
    rw [base]
    by_cases same : head = name
    · -- What is found is longer than the name, and so is the text that was looked for.
      subst same
      have longer : other ≠ head := fun equal => by simp [equal] at parts
      have found : under (some (String.ofList head)) (String.ofList rest) ≠ String.ofList head := by
        intro equal
        have lengths := congrArg String.length equal
        have point : ".".length = 1 := rfl
        simp only [under, String.length_append] at lengths
        omega
      simpa [longer] using found
    · simpa [same] using whole
  next =>
    rw [base]
    by_cases same : other = name
    · simp [same]
    · simpa [same] using whole

/-- Two texts are found as the same type, whatever is known, just when they leave the same name to
look for. -/
theorem resolve?_eq_iff (one two : List Char) :
    (∀ (resolver : Resolver) (imports : Imports), resolver.resolve? imports (String.ofList one) =
        resolver.resolve? imports (String.ofList two)) ↔
      typeName? (beforeArguments one) = typeName? (beforeArguments two) := by
  simp only [resolve?_eq]
  constructor
  · intro same
    have known (name : List Char) := same (knowing (String.ofList name)) {}
    cases first : typeName? (beforeArguments one) with
    | some name =>
      have found := known name
      rw [first, Option.bind_some, (find?_knowing name name).2 rfl, eq_comm,
        Option.bind_eq_some_iff] at found
      obtain ⟨other, second, same⟩ := found
      rw [second, (find?_knowing name other).1 same]
    | none =>
      cases second : typeName? (beforeArguments two) with
      | none => rfl
      | some name =>
        have found := known name
        rw [first, second, Option.bind_some, (find?_knowing name name).2 rfl] at found
        simp at found
  · intro same resolver imports
    rw [same]

end Resolver

/-- A written type is found as what stands in front of its first list of type arguments, whatever is
known of types. So its arguments have no part in it, and it is always found as the text without any
of its lists of arguments just when that text goes on with blanks only, or when neither that text nor
its front is a name to look for. -/
theorem resolve?_without_arguments {written plain : List Char}
    (erased : withoutArguments? written = some plain) :
    ∃ behind, plain = beforeArguments written ++ behind ∧
      (∀ (resolver : Resolver) (imports : Imports),
        resolver.resolve? imports (String.ofList written) =
          resolver.resolve? imports (String.ofList (beforeArguments written))) ∧
      ((∀ (resolver : Resolver) (imports : Imports),
          resolver.resolve? imports (String.ofList written) =
            resolver.resolve? imports (String.ofList plain)) ↔
        behind.all Text.isBlank = true ∨
          typeName? (beforeArguments written) = none ∧ typeName? plain = none) := by
  obtain ⟨behind, whole⟩ := beforeArguments_prefix erased
  refine ⟨behind, whole.symm, (Resolver.resolve?_eq_iff _ _).2 ?_, ?_⟩
  · rw [beforeArguments_idem]
  · rw [Resolver.resolve?_eq_iff, beforeArguments_of_erase? erased, ← whole, typeName?_append_eq_iff]

/-- The arguments of a type may hold further lists, and the text may go on with blanks. -/
theorem resolve?_without_nested_arguments :
    withoutArguments? "M.E<K<V>, T> ".toList = some "M.E ".toList ∧
      ∃ behind, "M.E ".toList = beforeArguments "M.E<K<V>, T> ".toList ++ behind ∧
        (∀ (resolver : Resolver) (imports : Imports),
          resolver.resolve? imports (String.ofList "M.E<K<V>, T> ".toList) =
            resolver.resolve? imports
              (String.ofList (beforeArguments "M.E<K<V>, T> ".toList))) ∧
        ((∀ (resolver : Resolver) (imports : Imports),
            resolver.resolve? imports (String.ofList "M.E<K<V>, T> ".toList) =
              resolver.resolve? imports (String.ofList "M.E ".toList)) ↔
          behind.all Text.isBlank = true ∨
            typeName? (beforeArguments "M.E<K<V>, T> ".toList) = none ∧
              typeName? "M.E ".toList = none) :=
  ⟨by decide +kernel, resolve?_without_arguments (by decide +kernel)⟩

/-- Without arguments, an array is found as no type and an inner type as itself; with arguments in
front, the array is found as its element and the inner type as the outer one. -/
theorem arguments_hide_array_and_inner_type :
    (withoutArguments? "O<B>[]".toList = some "O[]".toList ∧
      (Resolver.knowing "O").resolve? {} "O[]" = none ∧
      (Resolver.knowing "O").resolve? {} "O<B>[]" = some "O") ∧
    withoutArguments? "O<B>.I".toList = some "O.I".toList ∧
      (Resolver.knowing "O").resolve? {} "O.I" = some "O.I" ∧
      (Resolver.knowing "O").resolve? {} "O<B>.I" = some "O" := by
  decide +kernel

end SymbolAtlas.Java
