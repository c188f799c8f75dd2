import SymbolAtlas.Proofs.Store.Search

/-!
# What a scan comes to

A scan tries clauses from left to right, and a pattern that is too long is reported as
soon as it would be applied. The tests of one clause of a request look for one
pattern, so they can be applied together or not at all. It follows that a scan with a
pattern that is too long gives no row: either some row comes to the pattern, and the
scan reports it whatever the limit, or every row fails before, and the scan finds
nothing. Where no row comes to such a pattern, a scan reads the rows that meet all
clauses, up to its limit and no further: `scan_of_reaches` and `scan_of_not_reaches`.

Rows may have any content here. `Database.answer_of_appliesOverlong` and
`Database.answer_of_not_appliesOverlong` say the same of the queries of a request, for
which it makes no difference which clauses the stem of a glob leaves out.
-/

namespace SymbolAtlas

/-- Whether all patterns of a clause are short enough to be applied. -/
def Clause.isApplicable (clause : Clause) : Bool :=
  clause.all Test.isApplicable

/-- The tests of a clause can be applied together or not at all. -/
def IsUniform (clauses : List Clause) : Prop :=
  ∀ clause ∈ clauses, ∀ test ∈ clause, test.isApplicable = clause.isApplicable

/-- A row comes to a clause with a pattern that is too long: it meets every clause
before. -/
def ReachesOverlong (row : Row) (clauses : List Clause) : Prop :=
  ∃ before clause after, clauses = before ++ clause :: after ∧
    before.all (Clause.holds row) = true ∧ clause.isApplicable = false

/-- A test that cannot be applied is reported. -/
theorem Test.passes_of_not_applicable {test : Test} (row : Row)
    (overlong : test.isApplicable = false) : test.passes row = .error overlongPattern := by
  cases test with
  | like column pattern =>
    have long : Text.isOverlong pattern = true := by simpa [isApplicable] using overlong
    simp [passes, long]
  | glob pattern =>
    have long : Text.isOverlong pattern = true := by simpa [isApplicable] using overlong
    simp [passes, long]
  | kindIn kinds => simp [isApplicable] at overlong

/-- A clause of tests none of which can be applied is reported at its first test. -/
theorem passesSome_of_not_applicable {clause : Clause} (row : Row)
    (uniform : ∀ test ∈ clause, test.isApplicable = clause.isApplicable)
    (overlong : clause.isApplicable = false) :
    passesSome row clause = .error overlongPattern := by
  cases clause with
  | nil => simp [Clause.isApplicable] at overlong
  | cons test rest =>
    have first : test.isApplicable = false := (uniform test List.mem_cons_self).trans overlong
    rw [passesSome, Test.passes_of_not_applicable row first]

/-- A row comes to such a clause at once, or behind a first clause that it meets. -/
theorem reachesOverlong_cons_iff {row : Row} {clause : Clause} {rest : List Clause} :
    ReachesOverlong row (clause :: rest) ↔
      clause.isApplicable = false ∨ clause.holds row = true ∧ ReachesOverlong row rest := by
  constructor
  · rintro ⟨before, reached, after, cut, held, overlong⟩
    cases before with
    | nil =>
      obtain ⟨rfl, rfl⟩ := List.cons.inj cut
      exact .inl overlong
    | cons first others =>
      obtain ⟨rfl, rfl⟩ := List.cons.inj cut
      simp only [List.all_cons, Bool.and_eq_true] at held
      exact .inr ⟨held.1, others, reached, after, rfl, held.2, overlong⟩
  · rintro (overlong | ⟨met, before, reached, after, rfl, held, overlong⟩)
    · exact ⟨[], clause, rest, rfl, rfl, overlong⟩
    · exact ⟨clause :: before, reached, after, rfl, by simp [met, held], overlong⟩

/-- With a clause that cannot be applied, a row that does not come to it has failed
before. -/
theorem all_holds_of_not_reaches {row : Row} {clauses : List Clause} {clause : Clause}
    (member : clause ∈ clauses) (overlong : clause.isApplicable = false)
    (unreached : ¬ ReachesOverlong row clauses) : clauses.all (Clause.holds row) = false := by
  rw [Bool.eq_false_iff]
  intro all
  obtain ⟨before, after, rfl⟩ := List.append_of_mem member
  rw [List.all_append, Bool.and_eq_true] at all
  exact unreached ⟨before, clause, after, rfl, all.1, overlong⟩

section Uniform

variable {clauses : List Clause} (uniform : IsUniform clauses)

include uniform

/-- A row that comes to a pattern that is too long has it reported, and for any other
row the clauses give an answer. -/
theorem meetsAll_of_uniform (row : Row) :
    (ReachesOverlong row clauses → meetsAll row clauses = .error overlongPattern) ∧
      (¬ ReachesOverlong row clauses →
        meetsAll row clauses = .ok (clauses.all (Clause.holds row))) := by
  induction clauses with
  | nil =>
    refine ⟨?_, fun _ => rfl⟩
    rintro ⟨before, clause, after, cut, -⟩
    simp at cut
  | cons clause rest hypothesis =>
    obtain ⟨first, others⟩ := List.forall_mem_cons.1 uniform
    obtain ⟨reported, answered⟩ := hypothesis others
    rw [reachesOverlong_cons_iff, meetsAll]
    cases applicable : clause.isApplicable with
    | false => simp [passesSome_of_not_applicable row first applicable]
    | true =>
      rw [passesSome_of_applicable row (List.all_eq_true.1 applicable)]
      cases held : clause.holds row with
      | false => simp [held]
      | true => simpa [held] using ⟨reported, answered⟩

/-- A row that comes to a pattern that is too long has a scan fail, whatever its limit:
no row before it is given. -/
theorem scan_of_reaches {rows : List Row} {row : Row} {limit : Nat} (member : row ∈ rows)
    (reached : ReachesOverlong row clauses) (positive : 0 < limit) :
    scan clauses limit rows = .error overlongPattern := by
  obtain ⟨before, clause, after, cut, -, overlong⟩ := id reached
  have inside : clause ∈ clauses := by simp [cut]
  obtain ⟨limit, rfl⟩ := Nat.exists_eq_succ_of_ne_zero (Nat.ne_of_gt positive)
  induction rows with
  | nil => simp at member
  | cons first rest hypothesis =>
    by_cases here : ReachesOverlong first clauses
    · rw [scan, (meetsAll_of_uniform uniform first).1 here]
    · have behind : row ∈ rest := by
        rcases List.mem_cons.1 member with rfl | behind
        · exact absurd reached here
        · exact behind
      rw [scan, (meetsAll_of_uniform uniform first).2 here,
        all_holds_of_not_reaches inside overlong here]
      exact hypothesis behind

/-- Where no row comes to a pattern that is too long, a scan reads the first rows that
meet the clauses, up to the limit. -/
theorem scan_of_not_reaches {rows : List Row} (limit : Nat)
    (unreached : ∀ row ∈ rows, ¬ ReachesOverlong row clauses) :
    scan clauses limit rows =
      symbolsOf ((rows.filter fun row => clauses.all (Clause.holds row)).take limit) := by
  induction rows generalizing limit with
  | nil => cases limit <;> rfl
  | cons row rest hypothesis =>
    obtain ⟨first, others⟩ := List.forall_mem_cons.1 unreached
    cases limit with
    | zero => rfl
    | succ limit =>
      rw [scan, (meetsAll_of_uniform uniform row).2 first]
      cases met : clauses.all (Clause.holds row) with
      | false => simpa [List.filter_cons, met] using hypothesis (limit + 1) others
      | true =>
        rw [List.filter_cons, if_pos met, List.take_succ_cons, symbolsOf, hypothesis limit others]

end Uniform

namespace Database

/-- The stem by which a query goes through the table, if it goes by one. -/
def goesBy? (database : Database) (query : Query) : Option (List Char) :=
  if database.indexed then query.stem? else none

/-- The rows that a query goes through, in the order in which it does: all of them in
the order of insertion, or those with its stem in source order. -/
def scanned (database : Database) (query : Query) : List Row :=
  match database.goesBy? query with
  | none => database.rows.getD []
  | some stem =>
    ((database.rows.getD []).filter fun row => stem.isPrefixOf row.filePath.toList).mergeSort
      Row.sourceOrder

/-- The clauses that a query tries, in the order in which it does. -/
def tried (database : Database) (query : Query) : List Clause :=
  match database.goesBy? query with
  | none => query.clauses
  | some _ => Query.clausesBeyondStem query.clauses

/-- The rows that a query gives: of those that it goes through, the first that meet all
of its clauses, up to its two limits. -/
def found (database : Database) (query : Query) : List Row :=
  ((database.scanned query).filter fun row => query.clauses.all (Clause.holds row)).take
    query.bound

/-- A query comes to apply a pattern that is too long: some row that it goes through
meets every clause tried before. -/
def AppliesOverlong (database : Database) (query : Query) : Prop :=
  ∃ row ∈ database.scanned query, ReachesOverlong row (database.tried query)

/-- A query is answered by a scan. -/
theorem answer_eq_scan {database : Database} {rows : List Row} (query : Query)
    (filled : database.rows = some rows) :
    database.answer query =
      scan (database.tried query) query.bound (database.scanned query) := by
  unfold answer table tried scanned goesBy? Query.run
  rw [filled]
  cases database.indexed with
  | false => rfl
  | true => cases query.stem? <;> rfl

/-- Which rows a query goes through is decided by its clauses. -/
theorem scanned_congr (database : Database) {query other : Query}
    (same : query.clauses = other.clauses) : database.scanned query = database.scanned other := by
  simp only [scanned, goesBy?, Query.stem?, same]

/-- So is whether it comes to a pattern that is too long. -/
theorem appliesOverlong_congr (database : Database) {query other : Query}
    (same : query.clauses = other.clauses) :
    database.AppliesOverlong query ↔ database.AppliesOverlong other := by
  have tried : database.tried query = database.tried other := by
    simp only [Database.tried, goesBy?, Query.stem?, same]
  rw [AppliesOverlong, AppliesOverlong, database.scanned_congr same, tried]

/-- A query goes through rows of the table only. -/
theorem mem_of_mem_scanned {database : Database} {query : Query} {row : Row} {rows : List Row}
    (filled : database.rows = some rows) (member : row ∈ database.scanned query) :
    row ∈ rows := by
  unfold scanned at member
  split at member
  · simpa [filled] using member
  · rw [List.mem_mergeSort] at member
    simpa [filled] using (List.mem_filter.1 member).1

/-- A query tries no clause but its own. -/
theorem mem_of_mem_tried {database : Database} {query : Query} {clause : Clause}
    (member : clause ∈ database.tried query) : clause ∈ query.clauses := by
  unfold tried at member
  split at member
  · exact member
  · exact Query.mem_of_mem_clausesBeyondStem member

end Database

namespace Request

/-- A clause that looks for one pattern in some columns can be applied in all of them
or in none. -/
theorem isUniform_containsTests (term : List Char) (columns : List Column) :
    IsUniform [columns.map (containsTest term)] := by
  intro clause member test inside
  obtain rfl := List.mem_singleton.1 member
  obtain ⟨column, listed, rfl⟩ := List.mem_map.1 inside
  cases overlong : Text.isOverlong (Text.containsPattern term) with
  | false => simp [Clause.isApplicable, containsTest, Test.isApplicable, overlong]
  | true =>
    have some : ∃ column, column ∈ columns := ⟨column, listed⟩
    simpa [Clause.isApplicable, containsTest, Test.isApplicable, overlong] using some

/-- The tests of each clause of a request can be applied together or not at all. -/
theorem isUniform_compile (request : Request) : IsUniform request.compile.clauses := by
  have single (test : Test) : IsUniform [[test]] := by
    simp [IsUniform, Clause.isApplicable]
  have filtered {clauses : String → List Clause} (each : ∀ text, IsUniform (clauses text))
      (filter : Option String) : IsUniform (filterClauses clauses filter) := by
    unfold filterClauses
    split
    · exact each _
    · simp [IsUniform]
  have joined {clauses others : List Clause} (first : IsUniform clauses)
      (second : IsUniform others) : IsUniform (clauses ++ others) :=
    List.forall_mem_append.2 ⟨first, second⟩
  have query (text : String) : IsUniform (queryClauses text) := by
    unfold queryClauses
    split
    · exact joined (single _) (isUniform_containsTests _ [.className, .packageName])
    · exact isUniform_containsTests _ [.name, .className, .packageName]
  have kinds : IsUniform (kindClauses request.kinds) := by
    unfold kindClauses
    split
    · simp [IsUniform]
    · exact single _
  exact joined (joined (joined (joined (filtered query _) (filtered (fun _ => single _) _))
    (filtered (fun _ => single _) _)) (filtered (fun _ => single _) _)) kinds

end Request

section Answers

variable {database : Database} {rows : List Row} {request : Request} (query : Query)
  (ofRequest : query.clauses = request.compile.clauses)

include ofRequest

/-- The clauses that are tried for a request can each be applied as a whole or not at
all. -/
theorem Database.isUniform_tried (database : Database) : IsUniform (database.tried query) :=
  fun clause member => request.isUniform_compile clause (ofRequest ▸ mem_of_mem_tried member)

/-- Of the rows that a query goes through for a request, those that meet the clauses
tried are those that meet all clauses. -/
theorem Database.filter_tried (database : Database) :
    (database.scanned query).filter
        (fun row => (database.tried query).all (Clause.holds row)) =
      (database.scanned query).filter fun row => query.clauses.all (Clause.holds row) := by
  refine List.filter_congr fun row member => ?_
  unfold scanned at member
  unfold tried
  cases goesBy : database.goesBy? query with
  | none => rfl
  | some start =>
    have hasStem : request.compile.stem? = some start := by
      unfold goesBy? at goesBy
      split at goesBy
      · rwa [Query.stem?, ofRequest] at goesBy
      · simp at goesBy
    rw [goesBy] at member
    have begins := (List.mem_filter.1 (List.mem_mergeSort.1 member)).2
    rw [ofRequest]
    exact Request.all_clausesBeyondStem_compile hasStem (List.isPrefixOf_iff_prefix.1 begins)

/-- A query that comes to a pattern that is too long reports it. -/
theorem Database.answer_of_appliesOverlong (filled : database.rows = some rows)
    (applied : database.AppliesOverlong query) (positive : 0 < query.bound) :
    database.answer query = .error overlongPattern := by
  obtain ⟨row, member, reached⟩ := applied
  rw [answer_eq_scan query filled]
  exact scan_of_reaches (database.isUniform_tried query ofRequest) member reached positive

/-- Any other query reads the rows that it gives. -/
theorem Database.answer_of_not_appliesOverlong (filled : database.rows = some rows)
    (unapplied : ¬ database.AppliesOverlong query) :
    database.answer query = symbolsOf (database.found query) := by
  have unreached : ∀ row ∈ database.scanned query,
      ¬ ReachesOverlong row (database.tried query) :=
    fun row member reached => unapplied ⟨row, member, reached⟩
  rw [answer_eq_scan query filled,
    scan_of_not_reaches (database.isUniform_tried query ofRequest) _ unreached,
    database.filter_tried query ofRequest]
  rfl

end Answers

end SymbolAtlas
