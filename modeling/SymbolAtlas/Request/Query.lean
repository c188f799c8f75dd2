import SymbolAtlas.Request.Basic
import SymbolAtlas.Text.Split
import SymbolAtlas.Text.Wildcard

/-!
# Queries

A request is compiled into a query: a conjunction of clauses, each a disjunction
of tests on the columns of one row. A query has a text, the statement in the
query language of the database, in which every value is a question mark, and
the list of values in the order of the marks. The text depends only on which
tests there are, never on the values in them.
-/

namespace SymbolAtlas

/-- The columns in which a term is looked for. -/
inductive Column where
  | name
  | className
  | packageName
  deriving DecidableEq, Repr

/-- The name of a column in the statement. -/
def Column.text : Column → String
  | name => "name"
  | className => "class_name"
  | packageName => "package_name"

/-- One test on a row. -/
inductive Test where
  /-- The column is present and matches a contains pattern. -/
  | like (column : Column) (pattern : String)
  /-- The file path matches a glob pattern. -/
  | glob (pattern : String)
  /-- The kind, as stored, is the name of one of these. -/
  | kindIn (kinds : List Kind)
  deriving DecidableEq, Repr

/-- A value in the place of a question mark. -/
inductive Parameter where
  | text (value : String)
  | integer (value : Int)
  deriving DecidableEq, Repr

namespace Test

/-- A test in the statement. -/
def sql : Test → String
  | like column _ => column.text ++ " LIKE ? ESCAPE '\\'"
  | glob _ => "file_path GLOB ?"
  | kindIn kinds => "kind IN (" ++ ", ".intercalate (kinds.map fun _ => "?") ++ ")"

/-- The values of a test in the order of its question marks. -/
def parameters : Test → List Parameter
  | like _ pattern => [.text pattern]
  | glob pattern => [.text pattern]
  | kindIn kinds => kinds.map fun kind => .text kind.text

end Test

/-- A clause holds when one of its tests does. -/
abbrev Clause := List Test

/-- A clause in the statement. -/
def Clause.sql (clause : Clause) : String :=
  match clause with
  | [test] => test.sql
  | tests => "(" ++ " OR ".intercalate (tests.map Test.sql) ++ ")"

/-- A compiled request. -/
structure Query where
  /-- The clauses, all of which a row has to meet. -/
  clauses : List Clause
  /-- The limit inside the statement. -/
  rowLimit : UInt64
  /-- The number of rows taken from the result. -/
  cap : UInt64
  deriving DecidableEq, Repr

namespace Query

/-- The columns read from a row, and where from. -/
def selection : String :=
  "SELECT name, class_name, package_name, kind, file_path, line, signature, reference_to FROM symbols"

/-- The statement of a query. -/
def sql (query : Query) : String :=
  selection ++ " WHERE 1=1" ++
    String.join (query.clauses.map fun clause => " AND " ++ clause.sql) ++ " LIMIT ?"

/-- The limit inside the statement as a signed number of 64 bits. A limit of 2^63
or more wraps to a negative number, which is no limit. -/
def signedLimit (query : Query) : Int :=
  query.rowLimit.toInt64.toInt

/-- The values of a query in the order of the question marks. -/
def parameters (query : Query) : List Parameter :=
  query.clauses.flatMap (fun clause => clause.flatMap Test.parameters) ++
    [.integer query.signedLimit]

/-- The statement of a listing in source order, of the given kinds or, when there are
none, of everything. -/
def listingSql (kinds : List Kind) : String :=
  selection ++ (if kinds.isEmpty then "" else " WHERE " ++ (Test.kindIn kinds).sql) ++
    " ORDER BY file_path, line, id"

end Query

namespace Request

/-- Whether a term occurs in a column. -/
def containsTest (term : List Char) (column : Column) : Test :=
  .like column (Text.containsPattern term)

/-- The clauses of the free text. With a double colon in it, the name has to
contain what stands behind the first one, and the type or package what stands
before; without, one of the three has to contain the text. -/
def queryClauses (text : String) : List Clause :=
  match Text.splitFirst [':', ':'] text.toList with
  | some (container, name) =>
    [ [containsTest (Text.trim name) .name]
    , [.className, .packageName].map (containsTest (Text.trim container)) ]
  | none => [[.name, .className, .packageName].map (containsTest text.toList)]

/-- The clauses of an optional filter. -/
def filterClauses (clauses : String → List Clause) (filter : Option String) : List Clause :=
  match filterText? filter with
  | some text => clauses text
  | none => []

/-- The clause of a list of kinds; an empty list restricts nothing. -/
def kindClauses (kinds : List Kind) : List Clause :=
  match Kind.distinct kinds with
  | [] => []
  | chosen => [[.kindIn chosen]]

/-- The query for a request. -/
def compile (request : Request) : Query where
  clauses :=
    filterClauses queryClauses request.query ++
    filterClauses (fun text => [[containsTest text.toList .className]]) request.className ++
    filterClauses (fun text => [[containsTest text.toList .packageName]]) request.packageName ++
    filterClauses (fun text => [[.glob text]]) request.fileGlob ++
    kindClauses request.kinds
  rowLimit := effectiveLimit request.limit
  cap := effectiveLimit request.limit

end Request

end SymbolAtlas
