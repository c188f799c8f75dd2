import SymbolAtlas.Proofs.Store.Listing
import SymbolAtlas.Proofs.Text.Split
import SymbolAtlas.Proofs.Text.Wildcard

/-!
# What a request asks for

A request asks for symbols by five conditions, each of which an absent or blank
filter leaves open. `Request.AsksFor` states them in terms of the texts of a symbol,
without a word on patterns or clauses. It depends on how characters are read for
comparison, and on whether a glob has to be met literally up to its first wildcard
besides.

The clauses of the compiled query hold of the row of a symbol just when the request
asks for the symbol: `Request.all_clauses_iff`.
-/

namespace SymbolAtlas

/-- The texts of a symbol that a search looks at. -/
def Symbol.searchedTexts (symbol : Symbol) : List String :=
  [symbol.name, symbol.filePath] ++ [symbol.className, symbol.packageName].filterMap id

namespace Request

/-- The texts of a request. -/
def texts (request : Request) : List String :=
  [request.query, request.className, request.packageName, request.fileGlob].filterMap id

/-- A filter that is there and not blank asks for something by its text without the
blanks around it. -/
def Restricts (filter : Option String) (asked : List Char → Prop) : Prop :=
  ∀ text, filter = some text → Text.trim text.toList ≠ [] → asked (Text.trim text.toList)

instance (filter : Option String) (asked : List Char → Prop) [DecidablePred asked] :
    Decidable (Restricts filter asked) :=
  match filter with
  | none => isTrue (by simp [Restricts])
  | some text =>
    decidable_of_iff (Text.trim text.toList ≠ [] → asked (Text.trim text.toList))
      (by simp [Restricts])

/-- A value is present and contains a term. -/
def Within (read : Char → Char) (term : List Char) (value : Option String) : Prop :=
  ∃ text, value = some text ∧ Text.Contains read term text.toList

instance (read : Char → Char) (term : List Char) (value : Option String) :
    Decidable (Within read term value) :=
  match value with
  | none => isFalse (by simp [Within])
  | some text => decidable_of_iff (Text.Contains read term text.toList) (by simp [Within])

/-- What separates a container from a name in a query. -/
def separator : List Char := [':', ':']

/-- The container of a symbol, its type or its package, contains a term. -/
def InContainer (read : Char → Char) (term : List Char) (symbol : Symbol) : Prop :=
  Within read term symbol.className ∨ Within read term symbol.packageName

/-- A query finds a symbol. With a separator in it, what stands behind the first one is
part of the name and what stands before is part of the container; without, the query
is part of either. -/
def Finds (read : Char → Char) (symbol : Symbol) (query : List Char) : Prop :=
  (∃ container name, Text.FirstCut separator query container name ∧
      Text.Contains read (Text.trim name) symbol.name.toList ∧
      InContainer read (Text.trim container) symbol) ∨
    ¬ separator <:+: query ∧
      (Text.Contains read query symbol.name.toList ∨ InContainer read query symbol)

/-- A request asks for a symbol, when characters are compared as `read` has them, and
when a glob has to be met by its stem literally besides if `byStem` says so. -/
structure AsksFor (read : Char → Char) (byStem : Bool) (request : Request) (symbol : Symbol) :
    Prop where
  query : Restricts request.query (Finds read symbol)
  className : Restricts request.className fun term => Within read term symbol.className
  packageName : Restricts request.packageName fun term => Within read term symbol.packageName
  fileGlob : Restricts request.fileGlob fun pattern =>
    Text.MatchesGlob read pattern symbol.filePath.toList ∧
      (byStem = true → Text.stem pattern <+: symbol.filePath.toList)
  kinds : request.kinds ≠ [] → symbol.kind ∈ request.kinds

/-- A query with a separator, at its first one. -/
theorem finds_of_cut {read : Char → Char} {symbol : Symbol} {query container name : List Char}
    (cut : Text.FirstCut separator query container name) :
    Finds read symbol query ↔
      Text.Contains read (Text.trim name) symbol.name.toList ∧
        InContainer read (Text.trim container) symbol := by
  constructor
  · rintro (⟨others, rest, other, found⟩ | ⟨absent, -⟩)
    · obtain ⟨rfl, rfl⟩ := cut.unique other
      exact found
    · exact absurd ⟨container, name, cut.1.symm⟩ absent
  · intro found
    exact .inl ⟨container, name, cut, found⟩

/-- A query without a separator. -/
theorem finds_of_uncut {read : Char → Char} {symbol : Symbol} {query : List Char}
    (absent : ¬ separator <:+: query) :
    Finds read symbol query ↔
      Text.Contains read query symbol.name.toList ∨ InContainer read query symbol := by
  constructor
  · rintro (⟨container, name, cut, -⟩ | ⟨-, found⟩)
    · exact absurd ⟨container, name, cut.1.symm⟩ absent
    · exact found
  · intro found
    exact .inr ⟨absent, found⟩

instance (read : Char → Char) (term : List Char) (symbol : Symbol) :
    Decidable (InContainer read term symbol) :=
  inferInstanceAs (Decidable (_ ∨ _))

instance (read : Char → Char) (symbol : Symbol) : DecidablePred (Finds read symbol) :=
  fun query =>
    match cut : Text.splitFirst separator query with
    | some (_, _) =>
      decidable_of_iff' _ (finds_of_cut ((Text.splitFirst_eq_some_iff (by decide) ..).1 cut))
    | none =>
      decidable_of_iff' _ (finds_of_uncut ((Text.splitFirst_eq_none_iff (by decide) _).1 cut))

instance (read : Char → Char) (byStem : Bool) (request : Request) (symbol : Symbol) :
    Decidable (request.AsksFor read byStem symbol) :=
  decidable_of_iff
    (Restricts request.query (Finds read symbol) ∧
      Restricts request.className (fun term => Within read term symbol.className) ∧
      Restricts request.packageName (fun term => Within read term symbol.packageName) ∧
      Restricts request.fileGlob (fun pattern =>
        Text.MatchesGlob read pattern symbol.filePath.toList ∧
          (byStem = true → Text.stem pattern <+: symbol.filePath.toList)) ∧
      (request.kinds ≠ [] → symbol.kind ∈ request.kinds))
    ⟨fun ⟨query, className, packageName, fileGlob, kinds⟩ =>
        ⟨query, className, packageName, fileGlob, kinds⟩,
      fun asked =>
        ⟨asked.query, asked.className, asked.packageName, asked.fileGlob, asked.kinds⟩⟩

end Request

/-- Whether a test holds of a row, when its pattern is not too long to be applied. -/
def Test.holds (row : Row) : Test → Bool
  | .like column pattern => (row.column column).any (Text.likeMatches pattern)
  | .glob pattern => Text.globMatches pattern row.filePath
  | .kindIn kinds => kinds.any fun kind => kind.text == row.kindText

/-- Whether a clause holds of a row. -/
def Clause.holds (row : Row) (clause : Clause) : Bool :=
  clause.any (Test.holds row)

/-- Every kind is in the list of all kinds. -/
theorem Kind.mem_all (kind : Kind) : kind ∈ Kind.all := by
  cases kind <;> decide

/-- Taking each member of a list of kinds once keeps the members. -/
theorem Kind.mem_distinct_iff {kind : Kind} {kinds : List Kind} :
    kind ∈ Kind.distinct kinds ↔ kind ∈ kinds := by
  simp [Kind.distinct, Kind.mem_all]

namespace Request

/-- The test for a term holds of the row of a symbol just when the column is there and
contains the term. -/
theorem holds_containsTest_iff {symbol : Symbol} {term : List Char} (column : Column)
    (completeTerm : Text.null ∉ term)
    (completeSymbol : ∀ text ∈ symbol.searchedTexts, Text.null ∉ text.toList) :
    (containsTest term column).holds (.ofSymbol symbol) = true ↔
      Within Text.comparedChar term ((Row.ofSymbol symbol).column column) := by
  have searched : ∀ text, (Row.ofSymbol symbol).column column = some text →
      text ∈ symbol.searchedTexts := by
    intro text
    cases column <;> simp +contextual [Row.column, Row.ofSymbol, Symbol.searchedTexts, eq_comm]
  unfold containsTest Test.holds Within
  cases value : (Row.ofSymbol symbol).column column with
  | none => simp [value]
  | some text =>
    have complete := completeSymbol text (searched text value)
    simp [value, Text.likeMatches_containsPattern completeTerm complete]

/-- The text of a filter that is there and not blank, and of no other. -/
theorem filterText?_eq_some_iff {filter : Option String} {found : String} :
    filterText? filter = some found ↔
      ∃ text, filter = some text ∧ Text.trim text.toList ≠ [] ∧ Text.trimmed text = found := by
  unfold filterText?
  cases filter with
  | none => simp
  | some text =>
    have blank : Text.isBlankText text = true ↔ Text.trim text.toList = [] :=
      (Text.trim_eq_nil_iff text.toList).symm
    by_cases empty : Text.trim text.toList = []
    · simp [blank.2 empty, empty]
    · have present : Text.isBlankText text = false := by simpa [← blank] using empty
      simp [present, empty]

/-- A filter asks for something by its text, if it has one. -/
theorem restricts_iff {filter : Option String} {asked : List Char → Prop} :
    Restricts filter asked ↔ ∀ text, filterText? filter = some text → asked text.toList := by
  constructor
  · intro restricts found same
    obtain ⟨text, present, nonblank, rfl⟩ := filterText?_eq_some_iff.1 same
    simpa [Text.trimmed] using restricts text present nonblank
  · intro all text present nonblank
    have asks := all _ (filterText?_eq_some_iff.2 ⟨text, present, nonblank, rfl⟩)
    simpa [Text.trimmed] using asks

/-- The text of a filter has no null character that the filter has not. -/
theorem complete_filterText {filter : Option String} {found : String}
    (complete : ∀ text, filter = some text → Text.null ∉ text.toList)
    (same : filterText? filter = some found) : Text.null ∉ found.toList := by
  obtain ⟨text, present, -, rfl⟩ := filterText?_eq_some_iff.1 same
  rw [Text.trimmed, String.toList_ofList]
  exact fun member => complete text present (Text.mem_of_mem_trim member)

/-- The clauses of an optional filter hold just when what it asks for does. -/
theorem all_filterClauses_iff {clauses : String → List Clause} {asked : List Char → Prop}
    {filter : Option String} {holds : Clause → Bool}
    (each : ∀ text, filterText? filter = some text →
      ((clauses text).all holds = true ↔ asked text.toList)) :
    (filterClauses clauses filter).all holds = true ↔ Restricts filter asked := by
  rw [restricts_iff, filterClauses]
  cases found : filterText? filter with
  | none => simp
  | some text => simp [each text found]

/-- The clauses of the kinds hold just when there are none or that of the symbol is
among them. -/
theorem all_kindClauses_iff (kinds : List Kind) (symbol : Symbol) :
    (kindClauses kinds).all (Clause.holds (.ofSymbol symbol)) = true ↔
      (kinds ≠ [] → symbol.kind ∈ kinds) := by
  have chosen := any_text_ofSymbol (Kind.distinct kinds) symbol
  unfold kindClauses
  cases distinct : Kind.distinct kinds with
  | nil =>
    have none : kinds = [] := by
      apply List.eq_nil_iff_forall_not_mem.2
      intro kind member
      simp [← Kind.mem_distinct_iff, distinct] at member
    simp [none]
  | cons first rest =>
    have some : kinds ≠ [] :=
      List.ne_nil_of_mem (Kind.mem_distinct_iff.1 (distinct ▸ List.mem_cons_self))
    rw [distinct] at chosen
    have member : symbol.kind ∈ first :: rest ↔ symbol.kind ∈ kinds := by
      rw [← distinct, Kind.mem_distinct_iff]
    simp only [List.all_cons, List.all_nil, Bool.and_true, Clause.holds, List.any_cons,
      List.any_nil, Bool.or_false, Test.holds]
    simp only [List.any_cons] at chosen
    rw [chosen]
    simpa [some] using member

/-- The clauses of a query hold just when the query finds the symbol. -/
theorem all_queryClauses_iff {symbol : Symbol} {query : String}
    (completeQuery : Text.null ∉ query.toList)
    (completeSymbol : ∀ text ∈ symbol.searchedTexts, Text.null ∉ text.toList) :
    (queryClauses query).all (Clause.holds (.ofSymbol symbol)) = true ↔
      Finds Text.comparedChar symbol query.toList := by
  have contains (term : List Char) (column : Column)
      (inQuery : ∀ c ∈ term, c ∈ query.toList) :=
    holds_containsTest_iff column (fun member => completeQuery (inQuery _ member))
      completeSymbol
  have named {term : List Char} :
      Within Text.comparedChar term ((Row.ofSymbol symbol).column .name) ↔
        Text.Contains Text.comparedChar term symbol.name.toList := by
    simp [Within, Row.column, Row.ofSymbol]
  unfold queryClauses
  rcases Text.splitFirst_cases (by decide : separator ≠ []) query.toList with
    ⟨container, name, found, cut⟩ | ⟨missing, absent⟩
  · have around : ∀ c, c ∈ container ∨ c ∈ name → c ∈ query.toList := by
      intro c member
      rw [cut.1]
      rcases member with before | after
      · simp [before]
      · simp [after]
    have inName := contains (Text.trim name) .name fun c member =>
      around c (.inr (Text.mem_of_mem_trim member))
    have inContainer (column : Column) := contains (Text.trim container) column
      fun c member => around c (.inl (Text.mem_of_mem_trim member))
    rw [separator] at found
    rw [finds_of_cut cut, found]
    simp only [List.all_cons, List.all_nil, Clause.holds, List.map_cons, List.map_nil,
      List.any_cons, List.any_nil, Bool.or_false, Bool.and_true, Bool.and_eq_true,
      Bool.or_eq_true, inName, inContainer, named]
    rfl
  · have inQuery (column : Column) := contains query.toList column fun c member => member
    rw [separator] at missing
    rw [finds_of_uncut absent, missing]
    simp only [List.all_cons, List.all_nil, Clause.holds, List.map_cons, List.map_nil,
      List.any_cons, List.any_nil, Bool.or_false, Bool.and_true, Bool.or_eq_true, inQuery,
      named]
    rfl

section Filters

variable {symbol : Symbol} (filter : Option String)
  (completeFilter : ∀ text, filter = some text → Text.null ∉ text.toList)
  (completeSymbol : ∀ text ∈ symbol.searchedTexts, Text.null ∉ text.toList)

include completeFilter completeSymbol

/-- The clauses of an optional query. -/
theorem all_query_iff :
    (filterClauses queryClauses filter).all (Clause.holds (.ofSymbol symbol)) = true ↔
      Restricts filter (Finds Text.comparedChar symbol) := by
  apply all_filterClauses_iff
  intro text found
  exact all_queryClauses_iff (complete_filterText completeFilter found) completeSymbol

/-- The clause of an optional filter on a column. -/
theorem all_column_iff (column : Column) :
    (filterClauses (fun text => [[containsTest text.toList column]]) filter).all
        (Clause.holds (.ofSymbol symbol)) = true ↔
      Restricts filter fun term =>
        Within Text.comparedChar term ((Row.ofSymbol symbol).column column) := by
  apply all_filterClauses_iff
  intro text found
  simpa [Clause.holds] using holds_containsTest_iff column
    (complete_filterText completeFilter found) completeSymbol

/-- The clause of an optional glob. -/
theorem all_glob_iff :
    (filterClauses (fun text => [[.glob text]]) filter).all
        (Clause.holds (.ofSymbol symbol)) = true ↔
      Restricts filter fun pattern =>
        Text.MatchesGlob Text.comparedChar pattern symbol.filePath.toList := by
  apply all_filterClauses_iff
  intro text found
  have completePath := completeSymbol symbol.filePath (by simp [Symbol.searchedTexts])
  simpa [Clause.holds, Test.holds, Row.ofSymbol] using
    Text.globMatches_iff (complete_filterText completeFilter found) completePath

end Filters

/-- The clauses of a request hold of the row of a symbol just when the request asks for
the symbol. -/
theorem all_clauses_iff {request : Request} {symbol : Symbol}
    (completeRequest : ∀ text ∈ request.texts, Text.null ∉ text.toList)
    (completeSymbol : ∀ text ∈ symbol.searchedTexts, Text.null ∉ text.toList) :
    request.compile.clauses.all (Clause.holds (.ofSymbol symbol)) = true ↔
      request.AsksFor Text.comparedChar false symbol := by
  have query := all_query_iff request.query
    (fun text present => completeRequest text (by simp [texts, present])) completeSymbol
  have className := all_column_iff request.className
    (fun text present => completeRequest text (by simp [texts, present])) completeSymbol .className
  have packageName := all_column_iff request.packageName
    (fun text present => completeRequest text (by simp [texts, present])) completeSymbol
    .packageName
  have fileGlob := all_glob_iff request.fileGlob
    (fun text present => completeRequest text (by simp [texts, present])) completeSymbol
  have kinds := all_kindClauses_iff request.kinds symbol
  simp only [compile, List.all_append, Bool.and_eq_true, query, className, packageName, fileGlob,
    kinds]
  constructor
  · rintro ⟨⟨⟨⟨query, className⟩, packageName⟩, fileGlob⟩, kinds⟩
    exact ⟨query, className, packageName,
      fun text present nonblank => ⟨fileGlob text present nonblank, by simp⟩, kinds⟩
  · intro asked
    exact ⟨⟨⟨⟨asked.query, asked.className⟩, asked.packageName⟩,
      fun text present nonblank => (asked.fileGlob text present nonblank).1⟩, asked.kinds⟩

/-- What a filter asks for matters only where it is asked. -/
theorem restricts_congr {filter : Option String} {asked other : List Char → Prop}
    (same : ∀ text, filter = some text →
      (asked (Text.trim text.toList) ↔ other (Text.trim text.toList))) :
    Restricts filter asked ↔ Restricts filter other := by
  unfold Restricts
  exact forall_congr' fun text => forall_congr' fun present =>
    imp_congr_right fun _ => same text present

section Plain

variable {symbol : Symbol}
  (plainSymbol : ∀ text ∈ symbol.searchedTexts, Text.IsPlain text.toList)

include plainSymbol

/-- In a symbol without the two code points the values that contain a term without
them are those that contain it literally. -/
theorem within_plain {term : List Char} (plainTerm : Text.IsPlain term)
    {value : Option String} (searched : ∀ text, value = some text → text ∈ symbol.searchedTexts) :
    Within Text.comparedChar term value ↔ Within id term value := by
  unfold Within
  refine exists_congr fun text => and_congr_right fun present => ?_
  exact Text.contains_plain plainTerm (plainSymbol text (searched text present))

/-- The same for the name of the symbol. -/
theorem contains_name_plain {term : List Char} (plainTerm : Text.IsPlain term) :
    Text.Contains Text.comparedChar term symbol.name.toList ↔
      Text.Contains id term symbol.name.toList :=
  Text.contains_plain plainTerm (plainSymbol _ (by simp [Symbol.searchedTexts]))

/-- The same for its container. -/
theorem inContainer_plain {term : List Char} (plainTerm : Text.IsPlain term) :
    InContainer Text.comparedChar term symbol ↔ InContainer id term symbol :=
  or_congr
    (within_plain plainSymbol plainTerm (by simp +contextual [Symbol.searchedTexts]))
    (within_plain plainSymbol plainTerm (by simp +contextual [Symbol.searchedTexts]))

/-- The same for a query as a whole. -/
theorem finds_plain {query : List Char} (plainQuery : Text.IsPlain query) :
    Finds Text.comparedChar symbol query ↔ Finds id symbol query := by
  unfold Finds
  refine or_congr ?_ (and_congr_right fun _ => or_congr
    (contains_name_plain plainSymbol plainQuery) (inContainer_plain plainSymbol plainQuery))
  refine exists_congr fun container => exists_congr fun name => and_congr_right fun cut => ?_
  have inQuery : ∀ c, c ∈ container ∨ c ∈ name → Text.comparedChar c = c := by
    intro c member
    apply plainQuery
    rw [cut.1]
    rcases member with before | after
    · simp [before]
    · simp [after]
  exact and_congr
    (contains_name_plain plainSymbol fun c member =>
      inQuery c (.inr (Text.mem_of_mem_trim member)))
    (inContainer_plain plainSymbol fun c member =>
      inQuery c (.inl (Text.mem_of_mem_trim member)))

/-- Where neither the request nor the symbol has one of the two code points, characters
are compared as they are, and a glob asks for nothing beyond being met. -/
theorem asksFor_plain {request : Request} (byStem : Bool)
    (plainRequest : ∀ text ∈ request.texts, Text.IsPlain text.toList) :
    request.AsksFor Text.comparedChar byStem symbol ↔ request.AsksFor id false symbol := by
  have plainFilter {text : String} (inRequest : text ∈ request.texts) :
      Text.IsPlain (Text.trim text.toList) :=
    fun c member => plainRequest text inRequest c (Text.mem_of_mem_trim member)
  have plainPath := plainSymbol symbol.filePath (by simp [Symbol.searchedTexts])
  have query : Restricts request.query (Finds Text.comparedChar symbol) ↔
      Restricts request.query (Finds id symbol) :=
    restricts_congr fun text present =>
      finds_plain plainSymbol (plainFilter (by simp [texts, present]))
  have className : Restricts request.className
        (fun term => Within Text.comparedChar term symbol.className) ↔
      Restricts request.className fun term => Within id term symbol.className :=
    restricts_congr fun text present =>
      within_plain plainSymbol (plainFilter (by simp [texts, present]))
        (by simp +contextual [Symbol.searchedTexts])
  have packageName : Restricts request.packageName
        (fun term => Within Text.comparedChar term symbol.packageName) ↔
      Restricts request.packageName fun term => Within id term symbol.packageName :=
    restricts_congr fun text present =>
      within_plain plainSymbol (plainFilter (by simp [texts, present]))
        (by simp +contextual [Symbol.searchedTexts])
  have fileGlob : Restricts request.fileGlob (fun pattern =>
        Text.MatchesGlob Text.comparedChar pattern symbol.filePath.toList ∧
          (byStem = true → Text.stem pattern <+: symbol.filePath.toList)) ↔
      Restricts request.fileGlob fun pattern =>
        Text.MatchesGlob id pattern symbol.filePath.toList ∧
          (false = true → Text.stem pattern <+: symbol.filePath.toList) := by
    refine restricts_congr fun text present => ?_
    have plainPattern : Text.IsPlain (Text.trim text.toList) :=
      plainFilter (by simp [texts, present])
    rw [← Text.matchesGlob_plain plainPattern plainPath]
    constructor
    · rintro ⟨matched, -⟩
      exact ⟨matched, by simp⟩
    · rintro ⟨matched, -⟩
      exact ⟨matched, fun _ => Text.stem_prefix_of_matchesGlob plainPattern plainPath matched⟩
  constructor
  · intro asked
    exact ⟨query.1 asked.query, className.1 asked.className, packageName.1 asked.packageName,
      fileGlob.1 asked.fileGlob, asked.kinds⟩
  · intro asked
    exact ⟨query.2 asked.query, className.2 asked.className, packageName.2 asked.packageName,
      fileGlob.2 asked.fileGlob, asked.kinds⟩

end Plain

end Request

end SymbolAtlas
