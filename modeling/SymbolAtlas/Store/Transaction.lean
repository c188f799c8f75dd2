import SymbolAtlas.Store.Row

/-!
# Transactions

A batch of rows is written inside one transaction on a connection. Every call on
the connection may fail, and a failing call may at the same time have ended the
transaction. Whatever happens, the writer leaves the connection outside a
transaction unless taking the transaction back fails as often as it is tried.

The engine behind the connection is any answer to the calls in their order, so
the rules here hold however the calls turn out.
-/

namespace SymbolAtlas

/-- A call on a connection. -/
inductive Call where
  | start
  | insert (row : Row)
  | commit
  | rollback
  deriving DecidableEq, Repr

/-- How a call turned out. -/
inductive Outcome where
  | done
  /-- An insertion that was accepted and left no row. -/
  | skipped
  /-- A failure; it may have ended the transaction with nothing kept. -/
  | failed (cause : String) (ended : Bool)
  deriving DecidableEq, Repr

/-- An engine answers each call, given its number. -/
abbrev Engine := Nat → Call → Outcome

/-- A connection: the rows that are there for everyone, the rows of the open
transaction if there is one, and the calls made so far, the latest first. -/
structure Connection where
  committed : List Row
  pending : Option (List Row) := none
  log : List (Call × Outcome) := []
  deriving DecidableEq, Repr

namespace Connection

/-- A connection outside a transaction with these rows. -/
def idle (rows : List Row) : Connection where
  committed := rows

/-- The rows after a call that turned out in some way. A failing commit keeps
nothing and a failing start begins nothing. -/
def after (connection : Connection) : Call → Outcome → Connection
  | _, .failed _ true => { connection with pending := none }
  | _, .failed _ false => connection
  | .start, _ => { connection with pending := some [] }
  | .insert _, .skipped => connection
  | .insert row, .done => { connection with pending := connection.pending.map (· ++ [row]) }
  | .commit, _ =>
    { connection with
      committed := connection.committed ++ connection.pending.getD []
      pending := none }
  | .rollback, _ => { connection with pending := none }

/-- Make a call. -/
def issue (engine : Engine) (connection : Connection) (call : Call) : Outcome × Connection :=
  let outcome := engine connection.log.length call
  (outcome, { connection.after call outcome with log := (call, outcome) :: connection.log })

/-- Insert rows one after another up to the first failure, whose cause is given. -/
def insertRows (engine : Engine) (connection : Connection) :
    List Row → Option String × Connection
  | [] => (none, connection)
  | row :: rest =>
    match connection.issue engine (.insert row) with
    | (.failed cause _, left) => (some cause, left)
    | (_, left) => insertRows engine left rest

/-- Insert chunks of rows one after another up to the first failure. -/
def insertChunks (engine : Engine) (connection : Connection) :
    List (List Row) → Option String × Connection
  | [] => (none, connection)
  | chunk :: rest =>
    match connection.insertRows engine chunk with
    | (some cause, left) => (some cause, left)
    | (none, left) => insertChunks engine left rest

/-- Let go of a transaction. Where it is not over, or still has to be taken back, a
rollback is tried once more and its outcome ignored. -/
def release (engine : Engine) (connection : Connection) (finished : Bool) : Connection :=
  if finished && connection.pending.isNone then connection
  else (connection.issue engine .rollback).2

/-- Take back the open transaction, if the failure has not ended it already; the
cause is given when that fails. -/
def takeBack (engine : Engine) (connection : Connection) : Option String × Connection :=
  if connection.pending.isNone then (none, connection)
  else match connection.issue engine .rollback with
    | (.failed cause _, left) => (some cause, left)
    | (_, left) => (none, left)

/-- Why a batch was not written, and why taking it back failed, if it did. -/
structure WriteFailure where
  cause : String
  rollback : Option String
  deriving DecidableEq, Repr

/-- Give up a transaction after a failure. -/
def abandon (engine : Engine) (connection : Connection) (cause : String) :
    Except WriteFailure Unit × Connection :=
  let (second, left) := connection.takeBack engine
  (.error ⟨cause, second⟩, left.release engine true)

/-- Write chunks of rows in one transaction. -/
def write (engine : Engine) (connection : Connection) (chunks : List (List Row)) :
    Except WriteFailure Unit × Connection :=
  match connection.issue engine .start with
  | (.failed cause _, left) => (.error ⟨cause, none⟩, left)
  | (_, begun) =>
    match begun.insertChunks engine chunks with
    | (some cause, left) => left.abandon engine cause
    | (none, filled) =>
      match filled.issue engine .commit with
      | (.failed cause _, left) => left.abandon engine cause
      | (_, left) => (.ok (), left.release engine true)

end Connection

/-- A list cut into pieces of a given size, the last one possibly shorter; a size of
zero counts as one. -/
def chunked {α : Type} (size : Nat) (items : List α) : List (List α) :=
  match items with
  | [] => []
  | item :: rest =>
    (item :: rest.take (size - 1)) :: chunked size (rest.drop (size - 1))
termination_by items.length
decreasing_by simp only [List.length_drop, List.length_cons]; omega

end SymbolAtlas
