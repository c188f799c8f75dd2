import SymbolAtlas.Command.Arguments
import SymbolAtlas.Index.Run
import SymbolAtlas.Symbol.Line
import SymbolAtlas.Symbol.Record

/-!
# Running commands

Each command turns a workspace into another one and says what it prints. Lines
that were printed before a failure stay printed, and what was done before it
stays done. Searching and exporting refuse a database that is not there, since
opening it would make one.
-/

namespace SymbolAtlas

/-- Why a command failed. -/
inductive CommandError where
  /-- There is no database at the path. -/
  | noIndex (path : String)
  /-- A step failed; it is named before the cause. -/
  | during (step cause : String)
  /-- The store failed. -/
  | store (error : StoreError)
  deriving DecidableEq, Repr

/-- How a failed command is reported: the outermost message, and the one beneath it
where there is one. -/
def CommandError.message : CommandError → String
  | noIndex path => "No index at " ++ path ++ " (run `codeindex index` first)"
  | during step cause => step ++ ": " ++ cause
  | store error =>
    match error.cause? with
    | some cause => error.message ++ ": " ++ cause
    | none => error.message

/-- What a command leaves behind. -/
structure CommandOutcome (α : Type) where
  workspace : Workspace
  printed : String
  result : Except CommandError α

/-- Take away a database file and the files beside it, as far as they are there. -/
def removeAll (files : Files) : List String → Files × Except CommandError Unit
  | [] => (files, .ok ())
  | path :: rest =>
    if files.holds path then
      match files.removeFile path with
      | .ok left => removeAll left rest
      | .error error => (files, .error (.during ("Failed to remove " ++ path) error.message))
    else removeAll files rest

/-- The database file and the files beside it. -/
def databaseFiles (database : String) : List String :=
  [database, database ++ "-wal", database ++ "-shm"]

/-- The line that announces an indexing run. -/
def announcement (fresh : Bool) : String :=
  if fresh then "🔄 Rebuilding index from scratch...\n" else "📇 Indexing project...\n"

/-- The lines that sum up an indexing run of some duration. -/
def summary (report : Report) (elapsed : String) : String :=
  String.join (report.failures.map fun failure =>
    "⚠️  Skipped " ++ failure.path ++ ": " ++ failure.reason ++ "\n") ++
  "✅ Indexed " ++ toString report.saved ++ " symbols from " ++ toString report.indexed ++
    " files in " ++ elapsed ++ "s (" ++ toString report.failed ++ " failed)\n"

/-- Index a project, on request after taking the old database away. -/
def runIndex (workspace : Workspace) (project database : String) (classpath : List String)
    (fresh : Bool) (elapsed : String) : CommandOutcome Report :=
  let printed := announcement fresh
  let (files, removed) :=
    if fresh then removeAll workspace.files (databaseFiles database)
    else (workspace.files, .ok ())
  let ready := workspace.withFiles files
  match removed with
  | .error error => ⟨ready, printed, .error error⟩
  | .ok () =>
    let indexer : Indexer := { database := database, registry := Registry.standard }
    match indexer.index ready project classpath with
    | (left, _, .error error) =>
      ⟨left, printed, .error (.during ("Failed to index " ++ project) error.message)⟩
    | (left, _, .ok (report, _)) => ⟨left, printed ++ summary report elapsed, .ok report⟩

/-- The lines that show what a search has found. -/
def matchLines (found : List Symbol) (json : Bool) : String :=
  if json then prettyList found ++ "\n"
  else if found.isEmpty then "❌ No symbols found\n"
  else
    "Found " ++ toString found.length ++ " matches:\n" ++
      String.join (found.map fun symbol => "  " ++ symbol.listing ++ "\n")

/-- Open a database, read from it, and close it again. -/
def withStore {α : Type} (workspace : Workspace) (database : String)
    (read : Workspace → Store → Except StoreError α) : Workspace × Except CommandError α :=
  match Store.openAt workspace database usualChunkSize with
  | (left, .error error) =>
    (left, .error (.during ("Failed to open index " ++ database) error.message))
  | (opened, .ok store) =>
    let closed := (store.close opened).1
    match read opened store with
    | .ok value => (closed, .ok value)
    | .error error => (closed, .error (.store error))

/-- Search a database and show what is found. -/
def runSearch (workspace : Workspace) (database : String) (request : Request) (json : Bool) :
    CommandOutcome (List Symbol) :=
  if workspace.files.isFile database then
    match withStore workspace database fun workspace store => store.search workspace request with
    | (left, .error error) => ⟨left, "", .error error⟩
    | (left, .ok found) => ⟨left, matchLines found json, .ok found⟩
  else ⟨workspace, "", .error (.noIndex database)⟩

/-- Write the symbols of a database to a file, giving their number. -/
def exportSymbols (workspace : Workspace) (database output : String) (format : Format)
    (kinds : List Kind) : Workspace × Except CommandError Nat :=
  match withStore workspace database fun workspace store => store.getAll workspace kinds with
  | (left, .error error) => (left, .error error)
  | (left, .ok symbols) =>
    match left.files.write output (.text (format.render symbols) none) with
    | .ok files => (left.withFiles files, .ok symbols.length)
    | .error error =>
      (left, .error (.during ("Failed to write " ++ output) error.message))

/-- Export a database that is there. -/
def runExport (workspace : Workspace) (database output : String) (format : Format)
    (kinds : List Kind) : CommandOutcome Nat :=
  if workspace.files.isFile database then
    let printed := "📤 Exporting to " ++ output ++ "...\n"
    match exportSymbols workspace database output format kinds with
    | (left, .error error) => ⟨left, printed, .error error⟩
    | (left, .ok count) =>
      ⟨left, printed ++ "✅ Exported " ++ toString count ++ " symbols\n", .ok count⟩
  else ⟨workspace, "", .error (.noIndex database)⟩

/-- Run a command; `elapsed` is how the duration of an indexing run is shown. -/
def Command.run (workspace : Workspace) (elapsed : String) : Command → CommandOutcome Unit
  | .index project database classpath fresh _ =>
    let outcome := runIndex workspace project database classpath fresh elapsed
    ⟨outcome.workspace, outcome.printed, outcome.result.map fun _ => ()⟩
  | .search database request json =>
    let outcome := runSearch workspace database request json
    ⟨outcome.workspace, outcome.printed, outcome.result.map fun _ => ()⟩
  | .exportTo database output format kinds =>
    let outcome := runExport workspace database output format kinds
    ⟨outcome.workspace, outcome.printed, outcome.result.map fun _ => ()⟩

end SymbolAtlas
