import SymbolAtlas.Extract.PythonSymbols
import SymbolAtlas.Extract.RustSymbols
import SymbolAtlas.Proofs.Extract.Located

/-!
# Which files share a module path

The module path of a file is read off its path: the ending goes, the rest is cut into names, names
that a language gives no meaning of their own are left out, and what is kept is joined again. Of
this only the leaving out can bring two files together. A path that is written from names is cut
into just these names, and names that do not hold the mark between them can be read back from where
they are joined.

So two files have one module path just when the names that are kept are the same, and none just
when no name is kept. `Python.keptNames` and `Rust.keptNames` say which names those are.
-/

namespace SymbolAtlas

namespace Path

/-- A name of a path that is written between two separators and counts: it is no empty name and
not the dot that stays in place. -/
structure IsSegment (name : String) : Prop where
  filled : name ≠ ""
  whole : '/' ∉ name.toList
  moves : name ≠ "."

instance (name : String) : Decidable (IsSegment name) :=
  decidable_of_iff (name ≠ "" ∧ '/' ∉ name.toList ∧ name ≠ ".")
    ⟨fun ⟨filled, whole, moves⟩ => ⟨filled, whole, moves⟩,
      fun ⟨filled, whole, moves⟩ => ⟨filled, whole, moves⟩⟩

/-- The path of a file with a stem and an ending below directories. -/
def ofFile (directories : List String) (stem ending : String) : String :=
  "/".intercalate (directories ++ [stem]) ++ "." ++ ending

variable {directories : List String} {stem : String}

/-- The path of a file is cut at the dot in front of its ending. -/
theorem splitLast_ofFile (ending : String) (undotted : '.' ∉ ending.toList) :
    Text.splitLast '.' (ofFile directories stem ending).toList =
      some (("/".intercalate (directories ++ [stem])).toList, ending.toList) := by
  rw [Text.splitLast_eq_some_iff]
  exact ⟨by simp [ofFile], undotted⟩

/-- The path before the ending is cut into its names, of which each one counts. -/
theorem filter_splitWhen_names {names : List String} (filled : names ≠ [])
    (segments : ∀ name ∈ names, IsSegment name) :
    ((Text.splitWhen (· = '/') ("/".intercalate names).toList).filter
      fun part => !part.isEmpty && part != ['.']) = names.map String.toList := by
  rw [splitWhen_intercalate filled fun name inside => (segments name inside).whole,
    List.filter_eq_self]
  intro part member
  obtain ⟨name, inside, rfl⟩ := List.mem_map.1 member
  have moves : name.toList ≠ ['.'] := fun dot =>
    (segments name inside).moves (String.toList_inj.1 dot)
  simpa [moves] using (segments name inside).filled

/-- The path before the ending is not empty. -/
theorem intercalate_ne_nil {names : List String} (filled : names ≠ [])
    (segments : ∀ name ∈ names, IsSegment name) : ("/".intercalate names).toList ≠ [] := by
  intro empty
  have parts := filter_splitWhen_names filled segments
  rw [empty] at parts
  exact filled (List.map_eq_nil_iff.1 parts.symm)

end Path

/-- Names joined by a separator; none where there are no names. -/
def joined (separator : List Char) (names : List String) : Option String :=
  if names.isEmpty then none
  else some (String.ofList (Text.joinWith separator (names.map String.toList)))

/-- Nothing is joined just where there are no names. -/
theorem joined_eq_none_iff (separator : List Char) (names : List String) :
    joined separator names = none ↔ names = [] := by
  simp [joined]

/-- Names that do not hold the character which the separator is made of are told apart when they
are joined. -/
theorem joined_eq_iff {c : Char} {separator : List Char} (filled : separator ≠ [])
    (made : ∀ d ∈ separator, d = c) {names others : List String}
    (whole : ∀ name ∈ names, name ≠ "" ∧ c ∉ name.toList)
    (otherWhole : ∀ name ∈ others, name ≠ "" ∧ c ∉ name.toList) :
    joined separator names = joined separator others ↔ names = others := by
  have readBack {names : List String} (whole : ∀ name ∈ names, name ≠ "" ∧ c ∉ name.toList) :
      Text.piecesAt c (Text.joinWith separator (names.map String.toList)) =
        names.map String.toList := by
    refine Text.piecesAt_joinWith filled made ?_
    intro piece member
    obtain ⟨name, inside, rfl⟩ := List.mem_map.1 member
    simpa using whole name inside
  constructor
  · intro same
    by_cases empty : names = []
    · have none := (joined_eq_none_iff separator names).2 empty
      rw [empty, (joined_eq_none_iff separator others).1 (same.symm.trans none)]
    · have present : others ≠ [] := fun none =>
        empty ((joined_eq_none_iff separator names).1
          (same.trans ((joined_eq_none_iff separator others).2 none)))
      have texts : Text.joinWith separator (names.map String.toList) =
          Text.joinWith separator (others.map String.toList) := by
        simp only [joined, List.isEmpty_iff, empty, present, if_false, Option.some.injEq] at same
        exact String.ofList_injective same
      have pieces := congrArg (Text.piecesAt c) texts
      rw [readBack whole, readBack otherWhole] at pieces
      exact List.map_injective_iff.2 (fun _ _ => String.toList_inj.1) pieces
  · rintro rfl
    rfl

/-- Names read as texts end in a name just when the names do. -/
theorem getLast?_map_toList (names : List String) (last : String) :
    (names.map String.toList).getLast? = some last.toList ↔ names.getLast? = some last := by
  simp [List.getLast?_map, Option.map_eq_some_iff, String.toList_inj]

namespace Python

/-- The names of a file's module: those on the way to the file, without a last one that stands for
the package around it. -/
def keptNames (names : List String) : List String :=
  if names.getLast? = some "__init__" then names.dropLast else names

/-- No name is brought in. -/
theorem keptNames_subset (names : List String) : keptNames names ⊆ names := by
  unfold keptNames
  split
  · exact List.dropLast_subset names
  · exact List.Subset.refl names

/-- The dotted name of a module is made of its names. -/
theorem moduleName?_ofFile {directories : List String} {stem : String}
    (segments : ∀ name ∈ directories ++ [stem], Path.IsSegment name) :
    moduleName? (Path.ofFile directories stem "py") =
      joined ['.'] (keptNames (directories ++ [stem])) := by
  have filled : directories ++ [stem] ≠ [] := by simp
  have ending : Text.sameIgnoringCase (String.ofList "py".toList) "py" = true := by decide
  have rooted := Path.intercalate_ne_nil filled segments
  simp only [moduleName?, Path.splitLast_ofFile "py" (by decide), ending,
    List.isEmpty_eq_false_iff.2 rooted, Bool.not_false, Bool.and_self, if_true,
    Path.filter_splitWhen_names filled segments, getLast?_map_toList, joined, keptNames]
  split <;> simp

end Python

namespace Rust

/-- Names without a first one that stands for the sources of the crate. -/
def belowSources (names : List String) : List String :=
  if names.head? = some "src" then names.tail else names

/-- Names without a last one that stands for the module around it or, alone, for the crate. -/
def withoutRootFile (names : List String) : List String :=
  if names.getLast? = some "mod" then names.dropLast
  else if names = ["lib"] ∨ names = ["main"] then []
  else names

/-- The names of a file's module. -/
def keptNames (names : List String) : List String :=
  withoutRootFile (belowSources names)

/-- No name is brought in. -/
theorem keptNames_subset (names : List String) : keptNames names ⊆ names := by
  have below : belowSources names ⊆ names := by
    unfold belowSources
    split
    · exact fun _ => List.mem_of_mem_tail
    · exact List.Subset.refl names
  have inner : withoutRootFile (belowSources names) ⊆ belowSources names := by
    unfold withoutRootFile
    split
    · exact List.dropLast_subset _
    · split
      · exact List.nil_subset _
      · exact List.Subset.refl _
  exact List.Subset.trans inner below

/-- The parts of a module path are its names. -/
theorem moduleParts_eq {text : List Char} {names : List String}
    (cut : ((Text.splitWhen (· = '/') text).filter fun part => !part.isEmpty && part != ['.']) =
      names.map String.toList) :
    moduleParts text = (keptNames names).map String.toList := by
  have below : (if (names.map String.toList).head? = some "src".toList
      then (names.map String.toList).drop 1 else names.map String.toList) =
        (belowSources names).map String.toList := by
    simp only [belowSources, List.head?_map, Option.map_eq_some_iff, String.toList_inj,
      exists_eq_right]
    split <;> simp
  have alone (names : List String) (name : String) :
      names.map String.toList = [name.toList] ↔ names = [name] := by
    cases names with
    | nil => simp
    | cons first rest => simp [String.toList_inj]
  simp only [moduleParts, cut, below, getLast?_map_toList, Bool.or_eq_true, decide_eq_true_eq,
    alone, keptNames, withoutRootFile]
  split
  · simp
  · split <;> rfl

/-- The path of a module is made of its names. -/
theorem modulePath?_ofFile {directories : List String} {stem : String}
    (segments : ∀ name ∈ directories ++ [stem], Path.IsSegment name) :
    modulePath? (Path.ofFile directories stem "rs") =
      joined [':', ':'] (keptNames (directories ++ [stem])) := by
  have filled : directories ++ [stem] ≠ [] := by simp
  have ending : Text.sameIgnoringCase (String.ofList "rs".toList) "rs" = true := by decide
  have rooted := Path.intercalate_ne_nil filled segments
  simp only [modulePath?, Path.splitLast_ofFile "rs" (by decide), ending,
    List.isEmpty_eq_false_iff.2 rooted, Bool.not_false, Bool.and_self, if_true,
    moduleParts_eq (Path.filter_splitWhen_names filled segments), joined]
  simp

end Rust

/-- Files with an ending whose names do not hold a character are told apart by the names that are
kept of their paths: two of them have one module path just when the same names are kept, and one has
none just when no name is kept. -/
def TellsApart (modulePath? : String → Option String) (ending : String) (c : Char)
    (kept : List String → List String) : Prop :=
  ∀ directories stem, (∀ name ∈ directories ++ [stem], Path.IsSegment name ∧ c ∉ name.toList) →
    (modulePath? (Path.ofFile directories stem ending) = none ↔
      kept (directories ++ [stem]) = []) ∧
    ∀ others other, (∀ name ∈ others ++ [other], Path.IsSegment name ∧ c ∉ name.toList) →
      (modulePath? (Path.ofFile directories stem ending) =
          modulePath? (Path.ofFile others other ending) ↔
        kept (directories ++ [stem]) = kept (others ++ [other]))

/-- Module paths that join the names kept tell files apart, when the separator is made of the
character. -/
theorem tellsApart_of_joined {modulePath? : String → Option String} {ending : String} {c : Char}
    {kept : List String → List String} {separator : List Char} (filled : separator ≠ [])
    (made : ∀ d ∈ separator, d = c) (subset : ∀ names, kept names ⊆ names)
    (reads : ∀ {directories stem}, (∀ name ∈ directories ++ [stem], Path.IsSegment name) →
      modulePath? (Path.ofFile directories stem ending) =
        joined separator (kept (directories ++ [stem]))) :
    TellsApart modulePath? ending c kept := by
  have whole {names : List String} (fit : ∀ name ∈ names, Path.IsSegment name ∧ c ∉ name.toList) :
      ∀ name ∈ kept names, name ≠ "" ∧ c ∉ name.toList := fun name inside =>
    ⟨(fit name (subset names inside)).1.filled, (fit name (subset names inside)).2⟩
  intro directories stem fit
  rw [reads fun name inside => (fit name inside).1]
  refine ⟨joined_eq_none_iff separator _, ?_⟩
  intro others other otherFit
  rw [reads fun name inside => (otherFit name inside).1]
  exact joined_eq_iff filled made (whole fit) (whole otherFit)

/-- Python files whose names hold no dot are told apart by their names without a last
`__init__`, and Rust files whose names hold no colon by theirs without a first `src` and then
without a last `mod`, or a `lib` or `main` that is left alone. -/
theorem module_path_eq_iff_names :
    TellsApart Python.moduleName? "py" '.' Python.keptNames ∧
      TellsApart Rust.modulePath? "rs" ':' Rust.keptNames := by
  constructor
  · exact tellsApart_of_joined (by simp) (by simp) Python.keptNames_subset
      Python.moduleName?_ofFile
  · exact tellsApart_of_joined (by simp) (by simp) Rust.keptNames_subset Rust.modulePath?_ofFile

/-- The file of a package shares the name of a module beside the package, and the file of a module
the path of one beside its directory; the same names in other places tell files apart, and the file
of a crate has no path. -/
theorem module_path_eq_iff_names_of_roots :
    Python.moduleName? "pkg/__init__.py" = Python.moduleName? "pkg.py" ∧
      Python.moduleName? "__init__/a.py" ≠ Python.moduleName? "a.py" ∧
      Rust.modulePath? "src/v1.0/mod.rs" = Rust.modulePath? "v1.0.rs" ∧
      Rust.modulePath? "src/src/lib.rs" ≠ Rust.modulePath? "src.rs" ∧
      Rust.modulePath? "src/main.rs" = none := by
  obtain ⟨python, rust⟩ := module_path_eq_iff_names
  exact ⟨((python ["pkg"] "__init__" (by decide)).2 [] "pkg" (by decide)).2 rfl,
    fun same => absurd (((python ["__init__"] "a" (by decide)).2 [] "a" (by decide)).1 same)
      (by decide),
    ((rust ["src", "v1.0"] "mod" (by decide)).2 [] "v1.0" (by decide)).2 rfl,
    fun same => absurd (((rust ["src", "src"] "lib" (by decide)).2 [] "src" (by decide)).1 same)
      (by decide),
    (rust ["src"] "main" (by decide)).1.2 rfl⟩

end SymbolAtlas
