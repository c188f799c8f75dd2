import SymbolAtlas.Index.Normal
import SymbolAtlas.Index.Parser
import SymbolAtlas.Store.Opening

/-!
# Indexing runs

An indexer takes the files of a project to a database. A run sets up the
parsers, crawls the root, opens the store, and then handles one file after
another: parse, bring the paths to their stored form, save. A file that fails at
one of these stages is put down in the report and leaves no row; the run goes on
with the next file. Only the root and the opening of the store can fail the run
as a whole, and then no row has been touched.
-/

namespace SymbolAtlas

/-- How far a run has come. -/
inductive Phase where
  | notStarted
  | crawling
  | parsing
  | saving
  | complete
  deriving DecidableEq, Repr

/-- How a phase is shown. -/
def Phase.text : Phase → String
  | notStarted => "not started"
  | crawling => "crawling"
  | parsing => "parsing"
  | saving => "saving"
  | complete => "complete"

/-- The stage at which a file was dropped. -/
inductive Stage where
  | parse
  | normalize
  | save
  deriving DecidableEq, Repr

/-- A file that was dropped, with the stage and the reason. -/
structure FileFailure where
  path : String
  stage : Stage
  reason : String
  deriving DecidableEq, Repr

/-- What a run has done. -/
structure Report where
  discovered : Nat := 0
  indexed : Nat := 0
  skipped : Nat := 0
  failed : Nat := 0
  saved : Nat := 0
  failures : List FileFailure := []
  deriving DecidableEq, Repr

/-- Whether no file was dropped. -/
def Report.isClean (report : Report) : Bool :=
  report.failures.isEmpty

/-- What an observer of a run is told. -/
structure Progress where
  phase : Phase
  processed : Nat
  total : Nat
  file : Option String
  deriving DecidableEq, Repr

/-- Why a run failed as a whole. -/
inductive IndexError where
  | crawl (error : CrawlError)
  | store (error : StoreError)
  deriving DecidableEq, Repr

/-- How a failed run is reported. -/
def IndexError.message : IndexError → String
  | crawl error => error.message
  | store error => error.message

/-- What takes a project to a database. -/
structure Indexer where
  /-- The path of the database. -/
  database : String
  registry : Registry
  followLinks : Bool := false
  /-- The phase that the latest run has reached. -/
  phase : Phase := .notStarted

/-- What became of one file. -/
inductive FileOutcome where
  /-- No parser claims it. -/
  | skipped
  | failed (stage : Stage) (reason : String)
  | indexed (saved : Nat)
  deriving DecidableEq, Repr

namespace FileOutcome

/-- The phase a run is in after a file. A file that no parser claims leaves the
phase; one that is dropped before saving ends in parsing. -/
def phase (before : Phase) : FileOutcome → Phase
  | skipped => before
  | failed .save _ => .saving
  | failed _ _ => .parsing
  | indexed _ => .saving

/-- The report with one more file. -/
def record (path : String) (report : Report) : FileOutcome → Report
  | skipped => { report with skipped := report.skipped + 1 }
  | failed stage reason =>
    { report with
      failed := report.failed + 1
      failures := report.failures ++ [⟨path, stage, reason⟩] }
  | indexed saved =>
    { report with indexed := report.indexed + 1, saved := report.saved + saved }

end FileOutcome

/-- The symbols of a file in the form that is stored, or the stage that failed. -/
def Registry.extract (registry : Registry) (files : Files) (root path : String) :
    Option (Except (Stage × String) (List Symbol)) :=
  (registry.parserFor? path).map fun parser =>
    match parser.parse files path root with
    | .error error => .error (.parse, error.message)
    | .ok found =>
      match normalSymbols root (files.realPath? root) found with
      | .error error => .error (.normalize, error.message)
      | .ok symbols => .ok symbols

/-- Take one file to the store. -/
def Registry.indexFile (registry : Registry) (store : Store) (root : String)
    (workspace : Workspace) (path : String) : Workspace × FileOutcome :=
  match registry.extract workspace.files root path with
  | none => (workspace, .skipped)
  | some (.error (stage, reason)) => (workspace, .failed stage reason)
  | some (.ok symbols) =>
    match store.save workspace symbols with
    | (after, .ok saved) => (after, .indexed saved)
    | (after, .error error) => (after, .failed .save error.message)

/-- The state of a run between two files. -/
structure Run where
  workspace : Workspace
  phase : Phase
  report : Report
  /-- What observers have been told so far. -/
  progress : List Progress := []

/-- The run after one more file. -/
def Run.step (registry : Registry) (store : Store) (root : String) (total : Nat) (run : Run)
    (path : String) : Run :=
  let (workspace, outcome) := registry.indexFile store root run.workspace path
  let phase := outcome.phase run.phase
  { workspace := workspace
    phase := phase
    report := outcome.record path run.report
    progress := run.progress ++ [⟨phase, run.progress.length + 1, total, some path⟩] }

/-- Index the files below a root. Given are the workspace and the indexer afterwards,
and the report with everything that observers were told. -/
def Indexer.index (indexer : Indexer) (workspace : Workspace) (root : String)
    (classpath : List String) :
    Workspace × Indexer × Except IndexError (Report × List Progress) :=
  let extensions := indexer.registry.extensions
  let (registry, _) := indexer.registry.setUp workspace.files root classpath
  let crawling := { indexer with registry := registry, phase := .crawling }
  match workspace.files.crawl indexer.followLinks root extensions with
  | .error error => (workspace, crawling, .error (.crawl error))
  | .ok paths =>
    match Store.openAt workspace indexer.database usualChunkSize with
    | (left, .error error) => (left, crawling, .error (.store error))
    | (opened, .ok store) =>
      let start : Run :=
        { workspace := opened, phase := .crawling, report := { discovered := paths.length } }
      let run := paths.foldl (Run.step registry store root paths.length) start
      let (closed, _) := store.close run.workspace
      (closed, { crawling with phase := .complete },
        .ok (run.report, run.progress ++ [⟨.complete, paths.length, paths.length, none⟩]))

/-- Search the database of an indexer. The store is opened for this search only. -/
def Indexer.search (indexer : Indexer) (workspace : Workspace) (request : Request) :
    Workspace × Except StoreError (List Symbol) :=
  match Store.openAt workspace indexer.database usualChunkSize with
  | (left, .error error) => (left, .error error)
  | (opened, .ok store) =>
    let results := store.search opened request
    ((store.close opened).1, results)

end SymbolAtlas
