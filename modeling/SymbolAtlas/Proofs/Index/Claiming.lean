import SymbolAtlas.Index.Parser
import SymbolAtlas.Proofs.Files.Crawling

/-!
# Which files parsers claim

Which files count is decided twice: the crawl keeps a file when its extension is among
those of the registry, which are written in small letters and each listed once, and the
registry looks for the first parser with that extension, as the parser has written it.
Both pass over the case of ASCII letters, so they agree on every path. Setting parsers up
changes no extension, so they still agree when the registry has been set up in between.
-/

namespace SymbolAtlas

/-- Small letters are compared like those they come from. -/
theorem Text.sameIgnoringCase_lowered (text other : String) :
    sameIgnoringCase text (lowered other) = sameIgnoringCase other text := by
  have small (c : Char) : c.toLower.toLower = c.toLower := by
    delta Char.toLower
    grind
  have again : (lowered other).toList.map Char.toLower = other.toList.map Char.toLower := by
    simp [lowered, small]
  rw [sameIgnoringCase, sameIgnoringCase, again, Bool.beq_comm]

namespace Registry

/-- What the standard registry claims. -/
theorem extensions_standard : standard.extensions = ["java", "py", "rs"] := by
  have sorted : standard.extensions.Pairwise fun left right => decide (left ≤ right) = true :=
    List.pairwise_mergeSort (by simpa using fun _ _ _ => String.le_trans)
      (by simpa using String.le_total) _
  have listed : standard.extensions.Perm ["java", "py", "rs"] :=
    (List.mergeSort_perm _ _).trans (by decide +kernel)
  refine listed.eq_of_pairwise ?_ sorted (by decide +kernel)
  intro left right _ _ before behind
  exact String.le_antisymm (of_decide_eq_true before) (of_decide_eq_true behind)

/-- Some parser of the registry claims an extension. -/
theorem any_extensions (registry : Registry) (extension : String) :
    registry.extensions.any (Text.sameIgnoringCase extension) =
      registry.any (Parser.claims extension) := by
  rw [Bool.eq_iff_iff, List.any_eq_true, List.any_eq_true]
  simp only [extensions, List.mem_mergeSort, List.mem_eraseDups, List.mem_flatMap, List.mem_map,
    Parser.claims, List.any_eq_true]
  constructor
  · rintro ⟨_, ⟨parser, inside, claimed, among, rfl⟩, same⟩
    rw [Text.sameIgnoringCase_lowered] at same
    exact ⟨parser, inside, claimed, among, same⟩
  · rintro ⟨parser, inside, claimed, among, same⟩
    refine ⟨Text.lowered claimed, ⟨parser, inside, claimed, among, rfl⟩, ?_⟩
    rw [Text.sameIgnoringCase_lowered, same]

/-- A file is wanted by the crawl just when there is a parser for it. -/
theorem hasExtension_extensions (registry : Registry) (path : String) :
    hasExtension registry.extensions path = (registry.parserFor? path).isSome := by
  unfold hasExtension parserFor?
  cases Path.extension? path with
  | none => rfl
  | some extension =>
    dsimp only
    rw [any_extensions, List.isSome_find?]

/-- A parser claims the same extensions once it is set up. -/
theorem extensions_of_setUp {files : Files} {root : String} {classpath : List String}
    {parser ready : Parser} (done : parser.setUp files root classpath = .ok ready) :
    ready.extensions = parser.extensions := by
  cases parser with
  | python | rust | java types =>
    obtain rfl := Except.ok.inj done
    rfl
  | custom name extensions setupError parse =>
    cases setupError with
    | none =>
      obtain rfl := Except.ok.inj done
      rfl
    | some error => cases done

/-- Setting up a registry leaves what its parsers claim, however far it gets. -/
theorem map_extensions_setUp (files : Files) (root : String) (classpath : List String)
    (registry : Registry) :
    (registry.setUp files root classpath).1.map Parser.extensions =
      registry.map Parser.extensions := by
  induction registry with
  | nil => rfl
  | cons parser rest hypothesis =>
    unfold setUp
    cases done : parser.setUp files root classpath with
    | error error => rfl
    | ok ready =>
      dsimp only
      rw [List.map_cons, List.map_cons, extensions_of_setUp done, hypothesis]

/-- Registries whose parsers claim the same have a parser for the same files. -/
theorem isSome_parserFor?_congr {registry other : Registry}
    (same : registry.map Parser.extensions = other.map Parser.extensions) (path : String) :
    (registry.parserFor? path).isSome = (other.parserFor? path).isSome := by
  have claims (registry : Registry) (extension : String) :
      registry.any (Parser.claims extension) = (registry.map Parser.extensions).any fun claimed =>
        claimed.any fun written => Text.sameIgnoringCase written extension := by
    rw [List.any_map]
    rfl
  unfold parserFor?
  cases Path.extension? path with
  | none => rfl
  | some extension =>
    dsimp only
    rw [List.isSome_find?, List.isSome_find?, claims, claims, same]

/-- Every file of a crawl has a parser, also in the registry that has been set up. -/
theorem isSome_parserFor?_of_crawled {files : Files} {followLinks : Bool} {root : String}
    {classpath paths : List String} {registry : Registry}
    (crawled : files.crawl followLinks root registry.extensions = .ok paths) {path : String}
    (inside : path ∈ paths) :
    ((registry.setUp files root classpath).1.parserFor? path).isSome = true := by
  have wanted : hasExtension registry.extensions path = true :=
    (Files.of_mem_crawled crawled inside).1
  rw [isSome_parserFor?_congr (map_extensions_setUp files root classpath registry),
    ← hasExtension_extensions, wanted]

end Registry

end SymbolAtlas
