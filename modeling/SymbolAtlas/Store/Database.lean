import SymbolAtlas.Request.Query
import SymbolAtlas.Store.Error
import SymbolAtlas.Store.Postings
import SymbolAtlas.Store.Transaction

/-!
# Databases

What a database holds and how it answers. Besides its rows a database has
properties that other programs may give it: refusals of rows with certain names,
a write lock, a missing table, and an object in the place of an index, which
keeps the tables from being created. A table that is created in spite of such an
object has no indexes: its rows are found all the same, and phrases pass it by.

A search scans rows in the order of insertion, unless the table has its indexes
and the glob begins with an ordinary character: then it scans the rows whose
path begins with the stem of the glob, in source order, and tries the glob before
the other tests, unless it is the stem and one star, which such rows meet anyway.
The scan stops at the limit, so what lies behind is never looked at.

Rows are numbered in the order of insertion, and a number is given to one row
only as long as the table lasts. Only the phrase index makes use of the numbers.
-/

namespace SymbolAtlas

/-- What happens when a refused row is inserted. -/
inductive Refusal where
  /-- The insertion fails. -/
  | fails
  /-- The insertion fails and ends the transaction. -/
  | failsAndEnds
  /-- The row is silently left out. -/
  | skips
  deriving DecidableEq, Repr

/-- Rows with a certain name are refused. -/
structure Guard where
  name : String
  refusal : Refusal
  cause : String
  deriving DecidableEq, Repr

/-- A database. -/
structure Database where
  /-- The rows in order of insertion; none when the table is missing. -/
  rows : Option (List Row) := none
  /-- How many rows of the table have been deleted. -/
  deleted : Nat := 0
  /-- Whether the table has its indexes. -/
  indexed : Bool := true
  /-- What dropped tables have left in the phrase index. -/
  remains : Remains := []
  /-- The refusals of rows, the latest first. -/
  guards : List Guard := []
  /-- Another program holds the write lock. -/
  locked : Bool := false
  /-- Another object stands where an index has to be. -/
  obstructed : Bool := false
  /-- The number of handles on it. -/
  handles : Nat := 0
  /-- The names that lead to its file, if it has one. -/
  home : Option (List String) := none
  /-- The name by which stores share it in memory, if they do. -/
  sharedName : Option String := none
  /-- Whether the log beside it holds changes. -/
  logged : Bool := false
  /-- Whether changes have been carried over from the log into the file. -/
  settled : Bool := false
  deriving DecidableEq, Repr

/-- What decides which of several hindrances a writer is told of. -/
structure Writer where
  /-- Whether it may write at all. -/
  writable : Bool := true
  /-- Whether it takes the table to be there without looking. -/
  recalls : Bool := false
  deriving DecidableEq, Repr

namespace Database

/-- The report of a missing table. -/
def missingTable : String := "no such table: symbols"

/-- The report of a write through a handle that may only read. -/
def writeDenied : String := "attempt to write a readonly database"

/-- The report of a held write lock. -/
def lockHeld (database : Database) : String :=
  if database.sharedName.isSome then "database table is locked" else "database is locked"

/-- What keeps a writer from changing the table. One that takes the table to be
there finds it missing only when nothing else stands in the way. -/
def hindrance? (database : Database) (writer : Writer) : Option String :=
  if database.rows.isNone && !writer.recalls then some missingTable
  else if !writer.writable then some writeDenied
  else if database.locked then some database.lockHeld
  else if database.rows.isNone then some missingTable
  else none

/-- How the database answers the calls of a writer. -/
def engine (database : Database) (writer : Writer) : Engine
  | _, .insert row =>
    match database.hindrance? writer with
    | some cause => .failed cause false
    | none =>
      match database.guards.find? fun guard => guard.name == row.name with
      | none => .done
      | some ⟨_, .fails, cause⟩ => .failed cause false
      | some ⟨_, .failsAndEnds, cause⟩ => .failed cause true
      | some ⟨_, .skips, _⟩ => .skipped
  | _, _ => .done

/-- The database with a change to its rows, which goes to the log first. -/
def withRows (database : Database) (rows : List Row) : Database :=
  { database with
    rows := database.rows.map fun _ => rows
    logged := database.logged || decide (rows.length ≠ (database.rows.getD []).length) }

/-- Write rows in one transaction, in chunks of a given size. -/
def insert (database : Database) (writer : Writer) (chunkSize : Nat) (rows : List Row) :
    Database × Except StoreError Unit :=
  let (result, connection) :=
    (Connection.idle (database.rows.getD [])).write (database.engine writer)
      (chunked chunkSize rows)
  let changed := database.withRows connection.committed
  match result with
  | .ok () => (changed, .ok ())
  | .error failure => (changed, .error (.write failure.cause failure.rollback))

/-- Create the tables that are missing. Creation needs the right to write and the
write lock, and stops at an obstructed index, after the table of symbols. -/
def createTables (database : Database) (writable : Bool) : Database × Except StoreError Unit :=
  if database.rows.isNone && !writable then (database, .error (.schema writeDenied))
  else if database.rows.isNone && database.locked then
    (database, .error (.schema database.lockHeld))
  else
    let made := { database with
      rows := some (database.rows.getD [])
      indexed := !(database.rows.isNone && database.obstructed) && database.indexed
      logged := database.logged || database.rows.isNone }
    if database.obstructed then
      (made, .error (.schema "there is already a table named idx_symbols_name"))
    else (made, .ok ())

/-- The rows that the phrase index follows, with their numbers. -/
def numberedRows (database : Database) : List (Nat × Row) :=
  if database.indexed then
    ((database.rows.getD []).zipIdx (database.deleted + 1)).map fun (row, number) => (number, row)
  else []

/-- Delete every row, giving their number. -/
def clear (database : Database) (writer : Writer) : Database × Except StoreError Nat :=
  match database.hindrance? writer with
  | some cause => (database, .error (.write cause none))
  | none =>
    let rows := database.rows.getD []
    ({ database.withRows [] with
        deleted := database.deleted + rows.length
        remains := if database.remains.isEmpty then []
          else database.numberedRows.foldl
            (fun remains (number, row) => remains.after number row) database.remains },
      .ok rows.length)

/-- The database without its table, and so without the refusals of rows. The phrase
index keeps what it has. -/
def dropTable (database : Database) : Database :=
  let rows := database.numberedRows
  { database with
    rows := none
    deleted := 0
    indexed := true
    remains :=
      rows.map (fun (number, row) => (number, database.remains.under number row)) ++
        database.remains.filter fun (number, _) => !rows.any fun (other, _) => other == number
    guards := []
    logged := true }

/-- The number of rows with a phrase in one of their three names, as the phrase
index has it. -/
def phraseCount (database : Database) (phrase : String) : Nat :=
  let words := Text.tokens phrase
  let rows := database.numberedRows
  (rows.filter fun (number, row) => (database.remains.under number row).holds words).length +
    (database.remains.filter fun (number, postings) =>
      postings.holds words && !rows.any fun (other, _) => other == number).length

/-- The rows, or the report that there is no table. -/
def table (database : Database) : Except StoreError (List Row) :=
  match database.rows with
  | some rows => .ok rows
  | none => .error (.query missingTable)

end Database

/-- A value of a column of a row. -/
def Row.column (row : Row) : Column → Option String
  | .name => some row.name
  | .className => row.className
  | .packageName => row.packageName

/-- The report of a pattern that is too long to be applied. -/
def overlongPattern : StoreError :=
  .query "LIKE or GLOB pattern too complex"

/-- Whether a row passes a test. An absent value passes none, and a pattern that is
too long is reported as soon as it would be applied. -/
def Test.passes (row : Row) : Test → Except StoreError Bool
  | .like column pattern =>
    if Text.isOverlong pattern then .error overlongPattern
    else match row.column column with
      | some value => .ok (Text.likeMatches pattern value)
      | none => .ok false
  | .glob pattern =>
    if Text.isOverlong pattern then .error overlongPattern
    else .ok (Text.globMatches pattern row.filePath)
  | .kindIn kinds => .ok (kinds.any fun kind => kind.text == row.kindText)

/-- Whether a row passes one of the tests, tried from left to right. -/
def passesSome (row : Row) : List Test → Except StoreError Bool
  | [] => .ok false
  | test :: rest =>
    match test.passes row with
    | .error error => .error error
    | .ok true => .ok true
    | .ok false => passesSome row rest

/-- Whether a row meets all of the clauses, tried from left to right. -/
def meetsAll (row : Row) : List Clause → Except StoreError Bool
  | [] => .ok true
  | clause :: rest =>
    match passesSome row clause with
    | .error error => .error error
    | .ok false => .ok false
    | .ok true => meetsAll row rest

/-- The report of a row whose kind cannot be read. -/
def unreadableKind (unknown : UnknownKind) : StoreError :=
  .query ("Conversion error from type Text at index: 3, " ++ unknown.message)

/-- The symbols of the first so many rows that meet the clauses. -/
def scan (clauses : List Clause) : Nat → List Row → Except StoreError (List Symbol)
  | 0, _ => .ok []
  | _ + 1, [] => .ok []
  | limit + 1, row :: rest =>
    match meetsAll row clauses with
    | .error error => .error error
    | .ok false => scan clauses (limit + 1) rest
    | .ok true =>
      match row.symbol with
      | .error unknown => .error (unreadableKind unknown)
      | .ok symbol =>
        match scan clauses limit rest with
        | .error error => .error error
        | .ok symbols => .ok (symbol :: symbols)

namespace Query

/-- The pattern of a clause that is a single glob. -/
def globPattern? : Clause → Option String
  | [.glob pattern] => some pattern
  | _ => none

/-- The stem of the query's glob, if it has one and begins with an ordinary
character. -/
def stem? (query : Query) : Option (List Char) :=
  match query.clauses.findSome? globPattern? with
  | none => none
  | some pattern =>
    if (Text.globStem pattern).isEmpty then none else some (Text.globStem pattern)

/-- Whether a clause is a glob that rows with its stem still have to be tested by. -/
def testsBeyondStem (clause : Clause) : Bool :=
  match globPattern? clause with
  | some pattern => !Text.isStemAndStar pattern
  | none => false

/-- The clauses for rows that have the stem of the glob: the glob in front, or left
out where the stem alone decides it. -/
def clausesBeyondStem (clauses : List Clause) : List Clause :=
  clauses.filter testsBeyondStem ++
    clauses.filter (fun clause => (globPattern? clause).isNone)

/-- The number of rows a query can give: its cap, and the limit in its statement
unless that is negative. -/
def bound (query : Query) : Nat :=
  if query.signedLimit < 0 then query.cap.toNat
  else min query.signedLimit.toNat query.cap.toNat

/-- The symbols that a query finds among rows. -/
def run (query : Query) (rows : List Row) : Except StoreError (List Symbol) :=
  match query.stem? with
  | none => scan query.clauses query.bound rows
  | some stem =>
    scan (clausesBeyondStem query.clauses) query.bound
      ((rows.filter fun row => stem.isPrefixOf row.filePath.toList).mergeSort Row.sourceOrder)

end Query

/-- The symbols of rows, or the report of the first whose kind cannot be read. -/
def symbolsOf : List Row → Except StoreError (List Symbol)
  | [] => .ok []
  | row :: rest =>
    match row.symbol with
    | .error unknown => .error (unreadableKind unknown)
    | .ok symbol =>
      match symbolsOf rest with
      | .error error => .error error
      | .ok symbols => .ok (symbol :: symbols)

/-- The rows whose stored kind is the name of one of these kinds, or all rows when
there are none. -/
def rowsOfKinds (kinds : List Kind) (rows : List Row) : List Row :=
  if kinds.isEmpty then rows
  else rows.filter fun row => kinds.any fun kind => kind.text == row.kindText

/-- The symbols of the chosen kinds in source order. -/
def listing (kinds : List Kind) (rows : List Row) : Except StoreError (List Symbol) :=
  symbolsOf ((rowsOfKinds kinds rows).mergeSort Row.sourceOrder)

/-- The greatest number of values that one statement takes. -/
def valueLimit : Nat := 32766

/-- The report of a listing of more kinds than a statement takes values. It shows the
statement, and the byte in it at which the first question mark too many stands. -/
def excessKinds (kinds : List Kind) : StoreError :=
  .query ("too many SQL variables in " ++ Query.listingSql kinds ++ " at offset " ++
    toString ((Query.selection ++ " WHERE kind IN (").utf8ByteSize +
      "?, ".utf8ByteSize * valueLimit))

namespace Database

/-- The symbols that a query finds in a database. -/
def answer (database : Database) (query : Query) : Except StoreError (List Symbol) :=
  match database.table with
  | .error error => .error error
  | .ok rows =>
    if database.indexed then query.run rows else scan query.clauses query.bound rows

/-- The symbols of the chosen kinds in a database. Every kind of the list is a value of
the statement, a repeated one too, and a statement with too many values is refused
before the table is looked for. -/
def list (database : Database) (kinds : List Kind) : Except StoreError (List Symbol) :=
  if valueLimit < kinds.length then .error (excessKinds kinds)
  else match database.table with
    | .error error => .error error
    | .ok rows => listing kinds rows

end Database

end SymbolAtlas
