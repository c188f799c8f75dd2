import Mathlib.Control.Monad.Basic
import Mathlib.Data.List.Perm.Subperm
import SymbolAtlas.Proofs.Request.Meaning
import SymbolAtlas.Store.Session

/-!
# What a search finds

A search scans rows up to its limit, in the order of insertion or, by the stem of its
glob, in source order, and leaves out a glob that the stem already decides. None of
this shows in what is found, up to which of too many symbols are taken: the symbols
found are as many as the limit allows of those that the request asks for. The main
result is `Store.search_finds`.
-/

namespace SymbolAtlas

/-- Whether the pattern of a test is short enough to be applied. -/
def Test.isApplicable : Test → Bool
  | .like _ pattern => !Text.isOverlong pattern
  | .glob pattern => !Text.isOverlong pattern
  | .kindIn _ => true

/-- A query all of whose patterns can be applied. -/
def IsApplicable (clauses : List Clause) : Prop :=
  ∀ clause ∈ clauses, ∀ test ∈ clause, test.isApplicable = true

instance (clauses : List Clause) : Decidable (IsApplicable clauses) :=
  inferInstanceAs (Decidable (∀ clause ∈ clauses, ∀ test ∈ clause, test.isApplicable = true))

/-- A test that can be applied gives an answer. -/
theorem Test.passes_of_applicable {test : Test} (row : Row)
    (applicable : test.isApplicable = true) : test.passes row = .ok (test.holds row) := by
  cases test with
  | like column pattern =>
    have short : Text.isOverlong pattern = false := by simpa [isApplicable] using applicable
    cases value : row.column column <;> simp [passes, holds, short, value]
  | glob pattern =>
    have short : Text.isOverlong pattern = false := by simpa [isApplicable] using applicable
    simp [passes, holds, short]
  | kindIn kinds => rfl

/-- So does a clause of such tests. -/
theorem passesSome_of_applicable {clause : Clause} (row : Row)
    (applicable : ∀ test ∈ clause, test.isApplicable = true) :
    passesSome row clause = .ok (clause.holds row) := by
  induction clause with
  | nil => rfl
  | cons test rest hypothesis =>
    obtain ⟨first, others⟩ := List.forall_mem_cons.1 applicable
    rw [passesSome, Test.passes_of_applicable row first]
    cases held : test.holds row with
    | true => simp [Clause.holds, held]
    | false => simpa [Clause.holds, held] using hypothesis others

/-- And so do clauses together. -/
theorem meetsAll_of_applicable {clauses : List Clause} (row : Row)
    (applicable : IsApplicable clauses) :
    meetsAll row clauses = .ok (clauses.all (Clause.holds row)) := by
  induction clauses with
  | nil => rfl
  | cons clause rest hypothesis =>
    obtain ⟨first, others⟩ := List.forall_mem_cons.1 applicable
    rw [meetsAll, passesSome_of_applicable row first]
    cases held : clause.holds row with
    | false => simp [held]
    | true => simpa [held] using hypothesis others

/-- A scan gives the first symbols that meet the clauses, up to the limit. -/
theorem scan_of_applicable {clauses : List Clause} (limit : Nat) (symbols : List Symbol)
    (applicable : IsApplicable clauses) :
    scan clauses limit (symbols.map Row.ofSymbol) =
      .ok ((symbols.filter fun symbol =>
        clauses.all (Clause.holds (.ofSymbol symbol))).take limit) := by
  induction symbols generalizing limit with
  | nil => cases limit <;> rfl
  | cons symbol rest hypothesis =>
    cases limit with
    | zero => simp [scan]
    | succ limit =>
      rw [List.map_cons, scan, meetsAll_of_applicable _ applicable]
      cases met : clauses.all (Clause.holds (.ofSymbol symbol)) with
      | false => simpa [List.filter_cons, met] using hypothesis (limit + 1)
      | true => simp [met, hypothesis limit]

/-- The rows of symbols with a stem are sorted as their symbols are. -/
theorem mergeSort_stem_map_ofSymbol (stem : List Char) (symbols : List Symbol) :
    ((symbols.map Row.ofSymbol).filter fun row =>
        stem.isPrefixOf row.filePath.toList).mergeSort Row.sourceOrder =
      ((symbols.filter fun symbol => stem.isPrefixOf symbol.filePath.toList).mergeSort
        Symbol.sourceOrder).map Row.ofSymbol := by
  rw [List.filter_map,
    List.map_mergeSort fun left _ right _ => (Row.sourceOrder_ofSymbol left right).symm]
  rfl

namespace Query

/-- A clause with a glob pattern is the glob. -/
theorem eq_of_globPattern? {clause : Clause} {pattern : String}
    (found : globPattern? clause = some pattern) : clause = [.glob pattern] := by
  unfold globPattern? at found
  split at found
  · rw [Option.some.inj found]
  · simp at found

/-- Leaving out a glob that holds anyway, and trying the others first, changes nothing
about which rows meet the clauses. -/
theorem all_clausesBeyondStem {clauses : List Clause} {holds : Clause → Bool}
    (omitted : ∀ pattern, [Test.glob pattern] ∈ clauses → Text.isStemAndStar pattern = true →
      holds [.glob pattern] = true) :
    (clausesBeyondStem clauses).all holds = clauses.all holds := by
  rw [Bool.eq_iff_iff]
  simp only [List.all_eq_true, clausesBeyondStem, List.mem_append, List.mem_filter]
  constructor
  · intro kept clause member
    cases found : globPattern? clause with
    | none => exact kept clause (.inr ⟨member, by simp [found]⟩)
    | some pattern =>
      obtain rfl := eq_of_globPattern? found
      cases decided : Text.isStemAndStar pattern with
      | true => exact omitted pattern member decided
      | false => exact kept _ (.inl ⟨member, by simp [testsBeyondStem, found, decided]⟩)
  · rintro all clause (⟨member, -⟩ | ⟨member, -⟩) <;> exact all clause member

/-- The clauses for rows with the stem are among all clauses. -/
theorem mem_of_mem_clausesBeyondStem {clauses : List Clause} {clause : Clause}
    (member : clause ∈ clausesBeyondStem clauses) : clause ∈ clauses := by
  simp only [clausesBeyondStem, List.mem_append, List.mem_filter] at member
  rcases member with ⟨inside, -⟩ | ⟨inside, -⟩ <;> exact inside

/-- Clauses that can be applied can be applied in another selection. -/
theorem applicable_clausesBeyondStem {clauses : List Clause}
    (applicable : IsApplicable clauses) : IsApplicable (clausesBeyondStem clauses) :=
  fun clause member => applicable clause (mem_of_mem_clausesBeyondStem member)

/-- The limit inside the statement counts in the lower half of the numbers of 64 bits. In
the upper half it wraps to a negative number, and only the cap is left. -/
theorem bound_eq (query : Query) :
    query.bound =
      if 2 * query.rowLimit.toNat < UInt64.size then
        min query.rowLimit.toNat query.cap.toNat
      else query.cap.toNat := by
  have wrapped : query.signedLimit =
      if 2 * query.rowLimit.toNat < UInt64.size then (query.rowLimit.toNat : Int)
      else query.rowLimit.toNat - UInt64.size :=
    BitVec.toInt_eq_toNat_cond query.rowLimit.toBitVec
  have limited : query.rowLimit.toNat < UInt64.size := query.rowLimit.toNat_lt
  rw [bound, wrapped]
  split <;> split <;> omega

end Query

namespace Request

/-- The two limits of the query of a request are the same. -/
theorem bound_compile_eq (request : Request) :
    request.compile.bound = (effectiveLimit request.limit).toNat := by
  rw [Query.bound_eq]
  simp [compile]

/-- The limit of a search: zero stands for a thousand. -/
theorem bound_compile (request : Request) :
    request.compile.bound = if request.limit = 0 then 1000 else request.limit.toNat := by
  rw [bound_compile_eq, effectiveLimit]
  split <;> rfl

/-- The number of results that a limit stands for is never zero. -/
theorem bound_compile_pos (request : Request) : 0 < request.compile.bound := by
  rw [bound_compile]
  split
  · decide
  · rename_i nonzero
    exact Nat.pos_of_ne_zero fun zero => nonzero (UInt64.toNat_inj.1 zero)

/-- A request has at most one glob, that of its filter. -/
theorem filterMap_globPattern?_compile (request : Request) :
    request.compile.clauses.filterMap Query.globPattern? =
      (filterText? request.fileGlob).toList := by
  have query : (filterClauses queryClauses request.query).filterMap Query.globPattern? = [] := by
    unfold filterClauses
    split
    · unfold queryClauses
      split <;> rfl
    · rfl
  have column (filter : Option String) (column : Column) :
      (filterClauses (fun text => [[containsTest text.toList column]]) filter).filterMap
        Query.globPattern? = [] := by
    unfold filterClauses
    split <;> rfl
  have kinds : (kindClauses request.kinds).filterMap Query.globPattern? = [] := by
    unfold kindClauses
    split <;> rfl
  have glob : (filterClauses (fun text => [[.glob text]]) request.fileGlob).filterMap
      Query.globPattern? = (filterText? request.fileGlob).toList := by
    unfold filterClauses
    split
    · rename_i text found
      rw [found]
      rfl
    · rename_i missing
      rw [missing]
      rfl
  simp only [compile, List.filterMap_append, query, column, kinds, glob, List.nil_append,
    List.append_nil]

/-- The stem that a search goes by is that of the glob, unless it is empty. -/
theorem stem?_compile (request : Request) :
    request.compile.stem? = (filterText? request.fileGlob).bind fun pattern =>
      if (Text.globStem pattern).isEmpty then none else some (Text.globStem pattern) := by
  have first : request.compile.clauses.findSome? Query.globPattern? =
      filterText? request.fileGlob := by
    rw [← List.head?_filterMap, filterMap_globPattern?_compile]
    cases filterText? request.fileGlob <;> rfl
  unfold Query.stem?
  rw [first]
  cases filterText? request.fileGlob <;> rfl

/-- Rows have the stem that a search goes by, if it goes by one, just when the request
asks for it. -/
theorem all_stem?_iff {request : Request} (path : List Char)
    (complete : ∀ text ∈ request.texts, Text.null ∉ text.toList) :
    request.compile.stem?.all (·.isPrefixOf path) = true ↔
      Restricts request.fileGlob fun pattern => Text.stem pattern <+: path := by
  rw [restricts_iff, stem?_compile]
  cases found : filterText? request.fileGlob with
  | none => simp
  | some pattern =>
    have completePattern := complete_filterText
      (fun text present => complete text (by simp [texts, present])) found
    rw [Option.bind_some, Text.globStem_of_complete completePattern]
    cases start : Text.stem pattern.toList <;> simp [start]

/-- Asking for the stem besides is asking for one condition more. -/
theorem asksFor_byStem_iff {read : Char → Char} {request : Request} {symbol : Symbol} :
    request.AsksFor read true symbol ↔
      Restricts request.fileGlob (fun pattern => Text.stem pattern <+: symbol.filePath.toList) ∧
        request.AsksFor read false symbol := by
  constructor
  · intro asked
    refine ⟨fun text present nonblank => (asked.fileGlob text present nonblank).2 rfl,
      asked.query, asked.className, asked.packageName, ?_, asked.kinds⟩
    exact fun text present nonblank => ⟨(asked.fileGlob text present nonblank).1, by simp⟩
  · rintro ⟨begins, asked⟩
    refine ⟨asked.query, asked.className, asked.packageName, ?_, asked.kinds⟩
    exact fun text present nonblank =>
      ⟨(asked.fileGlob text present nonblank).1, fun _ => begins text present nonblank⟩

/-- Among rows that have the stem, the clauses without a glob that the stem decides
hold just when all do. -/
theorem all_clausesBeyondStem_compile {request : Request} {row : Row} {start : List Char}
    (goesBy : request.compile.stem? = some start) (begins : start <+: row.filePath.toList) :
    (Query.clausesBeyondStem request.compile.clauses).all (Clause.holds row) =
      request.compile.clauses.all (Clause.holds row) := by
  apply Query.all_clausesBeyondStem
  intro pattern member decided
  have inGlobs : pattern ∈ (filterText? request.fileGlob).toList := by
    rw [← filterMap_globPattern?_compile]
    exact List.mem_filterMap.2 ⟨_, member, rfl⟩
  have found : filterText? request.fileGlob = some pattern := by simpa using inGlobs
  have goesByStem : Text.globStem pattern = start := by
    rw [stem?_compile, found] at goesBy
    simp only [Option.bind_some, Option.ite_none_left_eq_some, Option.some.injEq] at goesBy
    exact goesBy.2
  have matched := Text.globMatches_of_stemAndStar decided (goesByStem ▸ begins)
  simpa [Clause.holds, Test.holds] using matched

section Answers

variable {request : Request} {symbols : List Symbol}
  (completeRequest : ∀ text ∈ request.texts, Text.null ∉ text.toList)
  (completeSymbols : ∀ symbol ∈ symbols, ∀ text ∈ symbol.searchedTexts,
    Text.null ∉ text.toList)
  (applicable : IsApplicable request.compile.clauses)

include completeRequest completeSymbols applicable

/-- A scan of all rows by all clauses takes the symbols that the request asks for in
the order in which they were saved. -/
theorem scan_compile (limit : Nat) :
    scan request.compile.clauses limit (symbols.map Row.ofSymbol) =
      .ok ((symbols.filter (request.AsksFor Text.comparedChar false ·)).take limit) := by
  rw [scan_of_applicable limit symbols applicable]
  congr 2
  refine List.filter_congr fun symbol member => ?_
  rw [Bool.eq_iff_iff, decide_eq_true_iff]
  exact all_clauses_iff completeRequest (completeSymbols symbol member)

/-- A scan by the stem of the glob takes them in source order. -/
theorem scan_compile_byStem {start : List Char} (limit : Nat)
    (goesBy : request.compile.stem? = some start) :
    ∃ all : List Symbol,
      all.Perm (symbols.filter (request.AsksFor Text.comparedChar true ·)) ∧
      scan (Query.clausesBeyondStem request.compile.clauses) limit
        (((symbols.map Row.ofSymbol).filter fun row =>
          start.isPrefixOf row.filePath.toList).mergeSort Row.sourceOrder) =
        .ok (all.take limit) := by
  rw [mergeSort_stem_map_ofSymbol,
    scan_of_applicable _ _ (Query.applicable_clausesBeyondStem applicable)]
  refine ⟨_, ((List.mergeSort_perm _ _).filter _).trans (.of_eq ?_), rfl⟩
  rw [List.filter_filter]
  refine List.filter_congr fun symbol member => ?_
  have complete := completeSymbols symbol member
  rw [Bool.eq_iff_iff, Bool.and_eq_true, decide_eq_true_iff, asksFor_byStem_iff,
    ← all_stem?_iff symbol.filePath.toList completeRequest, goesBy, Option.all_some,
    ← all_clauses_iff completeRequest complete, and_comm]
  -- Where the path has the stem, leaving out what the stem decides changes nothing.
  refine and_congr_right fun begins => ?_
  rw [all_clausesBeyondStem_compile goesBy (List.isPrefixOf_iff_prefix.1 begins)]

/-- A query takes so many of the symbols that its request asks for, in some order. -/
theorem answer_compile {database : Database}
    (filled : database.rows = some (symbols.map Row.ofSymbol)) :
    ∃ all : List Symbol,
      all.Perm (symbols.filter (request.AsksFor Text.comparedChar database.indexed ·)) ∧
      database.answer request.compile = .ok (all.take request.compile.bound) := by
  have whole := scan_compile completeRequest completeSymbols applicable request.compile.bound
  unfold Database.answer Database.table Query.run
  rw [filled]
  cases indexed : database.indexed with
  | false => exact ⟨_, .refl _, whole⟩
  | true =>
    cases goesBy : request.compile.stem? with
    | some start =>
      exact scan_compile_byStem completeRequest completeSymbols applicable _ goesBy
    | none =>
      refine ⟨_, .of_eq (List.filter_congr fun symbol _ => ?_), whole⟩
      have begins := (all_stem?_iff symbol.filePath.toList completeRequest).1 (by simp [goesBy])
      simp [asksFor_byStem_iff, begins]

end Answers

end Request

namespace Store

/-- A search succeeds and gives as many as its limit allows of the symbols that the
request asks for, each row once, where the limit zero stands for a thousand. The
texts of request and symbols are compared as the database reads them, and in a table
with indexes a glob has to be met literally up to its first wildcard; where neither
has the two code points that are read as the replacement character, both are the same
as comparing the characters themselves. -/
theorem search_finds (workspace : Workspace) (store : Store) (symbols : List Symbol)
    (request : Request) (isOpen : store.isOpen = true)
    (filled : (workspace.database store.number).rows = some (symbols.map Row.ofSymbol))
    (completeRequest : ∀ text ∈ request.texts, Text.null ∉ text.toList)
    (completeSymbols : ∀ symbol ∈ symbols, ∀ text ∈ symbol.searchedTexts,
      Text.null ∉ text.toList)
    (applicable : IsApplicable request.compile.clauses) :
    let asked := request.AsksFor Text.comparedChar (workspace.database store.number).indexed
    (∃ found, store.search workspace request = .ok found ∧
      found.Subperm (symbols.filter (asked ·)) ∧
      found.length =
        min (if request.limit = 0 then 1000 else request.limit.toNat)
          (symbols.filter (asked ·)).length) ∧
    ((∀ text ∈ request.texts, Text.IsPlain text.toList) →
      ∀ symbol ∈ symbols, (∀ text ∈ symbol.searchedTexts, Text.IsPlain text.toList) →
        (asked symbol ↔ request.AsksFor id false symbol)) := by
  intro asked
  obtain ⟨all, reordered, answered⟩ :=
    Request.answer_compile completeRequest completeSymbols applicable filled
  constructor
  · refine ⟨all.take request.compile.bound, ?_, ?_, ?_⟩
    · rw [search, execute, if_pos isOpen, answered]
    · exact (List.take_sublist _ _).subperm.trans reordered.subperm
    · rw [List.length_take, reordered.length_eq, Request.bound_compile]
  · intro plainRequest symbol _ plainSymbol
    exact Request.asksFor_plain plainSymbol _ plainRequest

/-- Every filter at once, with wildcards to be taken literally, a second separator, and
a limit below the number of symbols asked for: two of three are found. -/
theorem search_finds_two_of_three :
    let symbol (name path : String) (line : Int) : Symbol :=
      { name := name, kind := .method, className := some "Outer::In_ner",
        packageName := some "pkg", filePath := path, line := line }
    let symbols :=
      [ symbol "get_x" "src/a.py" 2, symbol "getXx" "src/a.py" 3, symbol "GET_X" "src/b.py" 1
      , symbol "get_x" "lib/a.py" 1, symbol "a_get_xs" "src/a.py" 1 ]
    let workspace : Workspace := { databases := [{ rows := some (symbols.map Row.ofSymbol) }] }
    let store : Store := { number := 0 }
    let request : Request :=
      { query := some " pkg :: get_x ", kinds := [.method, .field], className := some "n_N",
        packageName := some "  ", fileGlob := some "src/*", limit := 2 }
    (store.isOpen = true ∧
      (∀ text ∈ request.texts, Text.null ∉ text.toList) ∧
      (∀ symbol ∈ symbols, ∀ text ∈ symbol.searchedTexts, Text.null ∉ text.toList) ∧
      IsApplicable request.compile.clauses) ∧
      ∃ found, store.search workspace request = .ok found ∧ found.length = 2 ∧
        found.Subperm
          [symbol "get_x" "src/a.py" 2, symbol "GET_X" "src/b.py" 1,
            symbol "a_get_xs" "src/a.py" 1] := by
  intro symbol symbols workspace store request
  have completeRequest : ∀ text ∈ request.texts, Text.null ∉ text.toList := by decide +kernel
  have completeSymbols : ∀ symbol ∈ symbols, ∀ text ∈ symbol.searchedTexts,
      Text.null ∉ text.toList := by
    decide +kernel
  have applicable : IsApplicable request.compile.clauses := by decide +kernel
  obtain ⟨⟨found, searched, among, count⟩, -⟩ := search_finds workspace store symbols request
    rfl rfl completeRequest completeSymbols applicable
  have asked : symbols.filter
        (request.AsksFor Text.comparedChar (workspace.database store.number).indexed ·) =
      [symbol "get_x" "src/a.py" 2, symbol "GET_X" "src/b.py" 1,
        symbol "a_get_xs" "src/a.py" 1] := by
    decide +kernel
  rw [asked] at among count
  exact ⟨⟨rfl, completeRequest, completeSymbols, applicable⟩, found, searched, count, among⟩

/-- A search finds a symbol that the request does not ask for by the characters
themselves: the code point of the query is read as the replacement character, which
is in the name. -/
theorem search_reads_reserved_as_replacement :
    let symbol : Symbol :=
      { name := "a\uFFFDb", kind := .classLike, filePath := "a.py", line := 1 }
    let request : Request := { query := some "\uFFFE" }
    let session := ({} : Session).performAll
      [("main", .openAt none 1000), ("main", .save [symbol])]
    ¬ request.AsksFor id false symbol ∧
      (session.perform "main" (.search request)).2 = .ok (.symbols [symbol]) := by
  decide +kernel

end Store

end SymbolAtlas
