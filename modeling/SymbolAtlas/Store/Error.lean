import SymbolAtlas.Symbol.Basic

/-!
# What can go wrong with a store
-/

namespace SymbolAtlas

/-- Why a store could not do what it was asked. -/
inductive StoreError where
  /-- The database could not be opened. -/
  | opening (cause : String)
  /-- The database was opened and could not be configured. -/
  | configuration (cause : String)
  /-- The tables could not be created. -/
  | schema (cause : String)
  /-- A symbol of the batch may not be stored; the first such one is named. -/
  | unsound (index : Nat) (defect : Defect)
  /-- Writing failed and was undone; undoing may have failed as well. -/
  | write (cause : String) (rollback : Option String)
  /-- Reading failed. -/
  | query (cause : String)
  /-- The store has been closed. -/
  | closed
  /-- The directory of the database could not be made. -/
  | directory (cause : String)
  deriving DecidableEq, Repr

namespace StoreError

/-- How an error is reported. -/
def message : StoreError → String
  | opening cause => "failed to open symbol store: " ++ cause
  | configuration cause => "failed to configure symbol store: " ++ cause
  | schema cause => "failed to initialize schema: " ++ cause
  | unsound index defect =>
    "symbol #" ++ toString index ++ " rejected: " ++ defect.message
  | write cause none => "failed to save symbols: " ++ cause
  | write cause (some second) =>
    "failed to save symbols: " ++ cause ++ " (rollback also failed: " ++ second ++ ")"
  | query cause => "query failed: " ++ cause
  | closed => "symbol store is closed"
  | directory cause => "IO error: " ++ cause

/-- The report of the error beneath, if there is one. -/
def cause? : StoreError → Option String
  | opening cause => some cause
  | configuration cause => some cause
  | schema cause => some cause
  | unsound _ defect => some defect.message
  | write cause _ => some cause
  | query cause => some cause
  | closed => none
  | directory cause => some cause

end StoreError

end SymbolAtlas
