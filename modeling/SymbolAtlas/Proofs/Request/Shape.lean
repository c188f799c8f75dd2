import Mathlib.Algebra.GroupWithZero.Nat
import Mathlib.Data.List.Dedup
import Mathlib.Data.List.Infix
import SymbolAtlas.Proofs.Request.Meaning

/-!
# The shape of a request and its statement

A request comes to a statement with question marks and to values in their place. The
shape of a request says which of its filters there are, and of the texts in it only
whether the query has a separator. The statement can be written down from the shape
alone (`Request.sql_compile`), so no text of a request gets into it, and every query
has as many values as its statement has question marks (`Query.marks_sql`). The main
result is `Request.statement_by_shape`.
-/

namespace SymbolAtlas

/-- What the free text of a request asks for. -/
inductive QueryForm where
  /-- Nothing: there is no text, or nothing but blanks. -/
  | absent
  /-- A text without a separator. -/
  | plain
  /-- A container and a name, with a separator between them. -/
  | qualified
  deriving DecidableEq, Repr

/-- Which filters a request has, without their texts. -/
structure Shape where
  query : QueryForm
  className : Bool
  packageName : Bool
  fileGlob : Bool
  /-- The number of different kinds. -/
  kinds : Nat
  deriving DecidableEq, Repr

namespace Request

/-- Whether a filter is there and not blank. -/
def isGiven (filter : Option String) : Bool :=
  filter.any fun text => !(Text.trim text.toList).isEmpty

/-- The form of an optional query, by its text without the blanks around it. -/
def queryForm (query : Option String) : QueryForm :=
  let text := Text.trim (query.getD "").toList
  if text = [] then .absent
  else if separator <:+: text then .qualified
  else .plain

/-- The shape of a request. -/
def shape (request : Request) : Shape where
  query := queryForm request.query
  className := isGiven request.className
  packageName := isGiven request.packageName
  fileGlob := isGiven request.fileGlob
  kinds := request.kinds.dedup.length

end Request

/-- The conditions of a statement that a form of the query leads to. -/
def QueryForm.conditions : QueryForm → List String
  | absent => []
  | plain =>
    [ "(name LIKE ? ESCAPE '\\' OR class_name LIKE ? ESCAPE '\\'" ++
        " OR package_name LIKE ? ESCAPE '\\')" ]
  | qualified =>
    [ "name LIKE ? ESCAPE '\\'"
    , "(class_name LIKE ? ESCAPE '\\' OR package_name LIKE ? ESCAPE '\\')" ]

namespace Shape

/-- The conditions of a statement of this shape. -/
def conditions (shape : Shape) : List String :=
  shape.query.conditions ++
  (if shape.className then ["class_name LIKE ? ESCAPE '\\'"] else []) ++
  (if shape.packageName then ["package_name LIKE ? ESCAPE '\\'"] else []) ++
  (if shape.fileGlob then ["file_path GLOB ?"] else []) ++
  if shape.kinds = 0 then []
  else ["kind IN (" ++ ", ".intercalate (List.replicate shape.kinds "?") ++ ")"]

/-- The statement of this shape. -/
def sql (shape : Shape) : String :=
  Query.selection ++ " WHERE 1=1" ++ String.join (shape.conditions.map (" AND " ++ ·)) ++
    " LIMIT ?"

end Shape

namespace Request

/-- A filter has a text just when it is there and not blank. -/
theorem isSome_filterText? (filter : Option String) :
    (filterText? filter).isSome = isGiven filter := by
  rw [Bool.eq_iff_iff, Option.isSome_iff_exists]
  cases filter with
  | none => simp [filterText?, isGiven]
  | some text => simp [filterText?_eq_some_iff, isGiven]

/-- The conditions of an optional filter, when its text does not show in them. -/
theorem map_sql_filterClauses {clauses : String → List Clause} {conditions : List String}
    (filter : Option String) (same : ∀ text, (clauses text).map Clause.sql = conditions) :
    (filterClauses clauses filter).map Clause.sql =
      if isGiven filter then conditions else [] := by
  rw [← isSome_filterText?, filterClauses]
  cases filterText? filter with
  | none => rfl
  | some text => simpa using same text

/-- The conditions of a query depend on whether it has a separator. -/
theorem map_sql_queryClauses (text : String) :
    (queryClauses text).map Clause.sql =
      if separator <:+: text.toList then QueryForm.qualified.conditions
      else QueryForm.plain.conditions := by
  unfold queryClauses
  rcases Text.splitFirst_cases (by decide : separator ≠ []) text.toList with
    ⟨container, name, found, cut⟩ | ⟨missing, absent⟩
  · have present : separator <:+: text.toList := ⟨container, name, cut.1.symm⟩
    rw [separator] at found
    rw [if_pos present, found]
    rfl
  · rw [separator] at missing
    rw [if_neg absent, missing]
    rfl

/-- The conditions of an optional query are those of its form. -/
theorem map_sql_query (query : Option String) :
    (filterClauses queryClauses query).map Clause.sql = (queryForm query).conditions := by
  rw [filterClauses, queryForm]
  cases found : filterText? query with
  | some text =>
    obtain ⟨whole, rfl, nonblank, rfl⟩ := filterText?_eq_some_iff.1 found
    simp only [map_sql_queryClauses, Text.trimmed, String.toList_ofList, Option.getD_some,
      if_neg nonblank]
    split <;> rfl
  | none =>
    have blank : Text.trim (query.getD "").toList = [] := by
      cases query with
      | none => rfl
      | some whole =>
        apply Decidable.byContradiction
        intro nonblank
        simp [filterText?_eq_some_iff.2 ⟨whole, rfl, nonblank, rfl⟩] at found
    simp [blank, QueryForm.conditions]

/-- As many kinds are tested for as there are different ones. -/
theorem length_distinct (kinds : List Kind) :
    (Kind.distinct kinds).length = kinds.dedup.length := by
  have once : (Kind.distinct kinds).Nodup := List.Nodup.filter _ (by decide)
  refine ((List.perm_ext_iff_of_nodup once kinds.nodup_dedup).2 fun kind => ?_).length_eq
  rw [Kind.mem_distinct_iff, List.mem_dedup]

/-- The condition of a list of kinds depends on their number. -/
theorem map_sql_kindClauses (kinds : List Kind) :
    (kindClauses kinds).map Clause.sql =
      if kinds.dedup.length = 0 then []
      else ["kind IN (" ++ ", ".intercalate (List.replicate kinds.dedup.length "?") ++ ")"] := by
  rw [← length_distinct, kindClauses]
  cases Kind.distinct kinds with
  | nil => rfl
  | cons first rest =>
    simp only [List.map_cons, List.map_nil, Clause.sql, Test.sql, List.map_const',
      List.length_cons, List.replicate_succ, Nat.succ_ne_zero, if_false]

/-- The statement of a request is that of its shape. -/
theorem sql_compile (request : Request) : request.compile.sql = request.shape.sql := by
  have column (filter : Option String) (column : Column) :
      (filterClauses (fun text => [[containsTest text.toList column]]) filter).map Clause.sql =
        if isGiven filter then [column.text ++ " LIKE ? ESCAPE '\\'"] else [] :=
    map_sql_filterClauses filter fun _ => rfl
  have glob (filter : Option String) :
      (filterClauses (fun text => [[.glob text]]) filter).map Clause.sql =
        if isGiven filter then ["file_path GLOB ?"] else [] :=
    map_sql_filterClauses filter fun _ => rfl
  have conditions : request.compile.clauses.map Clause.sql = request.shape.conditions := by
    simp only [compile, List.map_append, map_sql_query, column, glob, map_sql_kindClauses]
    rfl
  rw [Query.sql, Shape.sql, ← conditions, List.map_map]
  rfl

end Request

/-- The number of question marks in a text. -/
def marks (text : String) : Nat :=
  text.toList.count '?'

/-- Texts one after the other have their marks together. -/
theorem marks_append (text rest : String) : marks (text ++ rest) = marks text + marks rest := by
  rw [marks, String.toList_append, List.count_append]
  rfl

/-- So have many texts. -/
theorem marks_join (texts : List String) :
    marks (String.join texts) = (texts.map marks).sum := by
  induction texts with
  | nil => rfl
  | cons text rest hypothesis =>
    rw [String.join_cons, marks_append, hypothesis]
    rfl

/-- And many texts with a separator without marks between them. -/
theorem marks_intercalate {separator : String} (unmarked : marks separator = 0)
    (texts : List String) : marks (separator.intercalate texts) = (texts.map marks).sum := by
  induction texts with
  | nil => rfl
  | cons text rest hypothesis =>
    cases rest with
    | nil => simp
    | cons next others =>
      rw [String.intercalate_cons_cons, marks_append, marks_append, unmarked, hypothesis]
      rfl

/-- A test has a value for each of its marks. -/
theorem Test.marks_sql (test : Test) : marks test.sql = test.parameters.length := by
  cases test with
  | like column pattern =>
    have unmarked : marks column.text = 0 := by cases column <;> decide +kernel
    have marked : marks " LIKE ? ESCAPE '\\'" = 1 := by decide +kernel
    rw [sql, marks_append, unmarked, marked]
    rfl
  | glob pattern =>
    have marked : marks "file_path GLOB ?" = 1 := by decide +kernel
    exact marked
  | kindIn kinds =>
    have opened : marks "kind IN (" = 0 := by decide +kernel
    have closed : marks ")" = 0 := by decide +kernel
    have one : marks "?" = 1 := by decide +kernel
    rw [sql, marks_append, marks_append, marks_intercalate (by decide +kernel), opened, closed]
    simp [parameters, one]

/-- So has a clause. -/
theorem Clause.marks_sql (clause : Clause) :
    marks clause.sql = (clause.flatMap Test.parameters).length := by
  have each : (clause.map Test.sql).map marks =
      clause.map fun test => test.parameters.length := by
    simp [Test.marks_sql]
  have opened : marks "(" = 0 := by decide +kernel
  have closed : marks ")" = 0 := by decide +kernel
  rw [List.length_flatMap, ← each]
  unfold sql
  split
  · simp
  · rw [marks_append, marks_append, marks_intercalate (by decide +kernel), opened, closed]
    simp

/-- A query has as many values as its statement has question marks. -/
theorem Query.marks_sql (query : Query) : marks query.sql = query.parameters.length := by
  have each : (query.clauses.map fun clause => " AND " ++ clause.sql).map marks =
      query.clauses.map fun clause => (clause.flatMap Test.parameters).length := by
    have joint : marks " AND " = 0 := by decide +kernel
    simp [marks_append, joint, Clause.marks_sql]
  have selected : marks (selection ++ " WHERE 1=1") = 0 := by decide +kernel
  have limited : marks " LIMIT ?" = 1 := by decide +kernel
  rw [sql, marks_append, marks_append, marks_join, each, selected, limited, parameters,
    List.length_append, List.length_flatMap]
  simp

/-- The texts in the place of the question marks of a test. -/
def Test.texts : Test → List String
  | like _ pattern => [pattern]
  | glob pattern => [pattern]
  | kindIn kinds => kinds.map Kind.text

/-- The values of a query are the texts of its tests and the limit. -/
theorem Query.parameters_eq (query : Query) :
    query.parameters =
      (query.clauses.flatMap fun clause => clause.flatMap Test.texts).map .text ++
        [.integer query.signedLimit] := by
  have values : Test.parameters = fun test => test.texts.map .text := by
    funext test
    cases test <;> simp [Test.parameters, Test.texts]
  simp only [parameters, values, List.map_flatMap]

namespace Request

/-- Requests of one shape come to the same statement, whatever their texts, kinds and
limits are. In the statement of a request there is a question mark for each value; the
last value is the limit, as a signed number of 64 bits, and all others are texts. -/
theorem statement_by_shape (request : Request) :
    (∀ other : Request, request.shape = other.shape →
      request.compile.sql = other.compile.sql) ∧
    request.compile.sql.toList.count '?' = request.compile.parameters.length ∧
    ∃ texts : List String,
      request.compile.parameters =
        texts.map .text ++ [.integer (effectiveLimit request.limit).toInt64.toInt] := by
  refine ⟨fun other same => ?_, request.compile.marks_sql, ?_⟩
  · rw [sql_compile, sql_compile, same]
  · exact ⟨_, request.compile.parameters_eq⟩

/-- Two requests of one shape, one of them with texts that are parts of a statement and
two mentions of one kind. -/
theorem statement_by_shape_quoted :
    let harmless : Request :=
      { query := some "Outer::inner", kinds := [.field, .method], className := some "A",
        fileGlob := some "src/*" }
    let hostile : Request :=
      { query := some " x' OR ?::'; -- :: ", kinds := [.method, .classLike, .method],
        className := some "' LIMIT ? --", packageName := some "  ", fileGlob := some "?"
        limit := 0xFFFFFFFFFFFFFFFF }
    harmless.shape = hostile.shape ∧ harmless.compile.sql = hostile.compile.sql := by
  intro harmless hostile
  have same : harmless.shape = hostile.shape := by decide +kernel
  exact ⟨same, harmless.statement_by_shape.1 hostile same⟩

end Request

end SymbolAtlas
