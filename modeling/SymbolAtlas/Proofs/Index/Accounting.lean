import Mathlib.Control.Monad.Basic
import SymbolAtlas.Index.Run
import SymbolAtlas.Proofs.Store.Batch
import SymbolAtlas.Proofs.Store.Tables

/-!
# What an indexing run accounts for

A run takes the files that were found one after another, and every file comes to
one of three ends: no parser claims it, one of the stages drops it, or all of its
symbols are saved. `Registry.fate` reads this end off the workspace as it was when
the store had been opened: what earlier files have left in the table has no say
in it, since a save is refused for its symbols or for the state of the database
and never for the rows that are there.

`Run.Accounts` is the state of a run between two files in terms of these ends:
the rows added, the counts and the list of failures. One file preserves it, so
does a run over any list of files, and `Indexer.index_accounts` reads it off at
the end.
-/

namespace SymbolAtlas

/-- What a file comes to in a run. -/
inductive Fate where
  /-- No parser claims it. -/
  | skipped
  /-- It is dropped at a stage. -/
  | failed (stage : Stage) (reason : String)
  /-- All of its symbols are saved. -/
  | indexed (symbols : List Symbol)
  deriving DecidableEq, Repr

namespace Fate

/-- What is reported of a file with this fate. -/
def outcome : Fate → FileOutcome
  | skipped => .skipped
  | failed stage reason => .failed stage reason
  | indexed symbols => .indexed symbols.length

/-- Whether no parser claims the file. -/
def isSkipped : Fate → Bool
  | skipped => true
  | _ => false

/-- Whether the file has gone through every stage. -/
def isIndexed : Fate → Bool
  | indexed _ => true
  | _ => false

/-- The entry for a file that is dropped. -/
def failure? (path : String) : Fate → Option FileFailure
  | failed stage reason => some ⟨path, stage, reason⟩
  | _ => none

/-- The symbols that a file leaves in the table. -/
def symbols : Fate → List Symbol
  | indexed symbols => symbols
  | _ => []

end Fate

namespace Registry

/-- The fate of a file: it is dropped at the first of the three stages that fails,
and only a file without a parser comes to none of them. -/
def fate (registry : Registry) (store : Store) (root : String) (workspace : Workspace)
    (path : String) : Fate :=
  match registry.parserFor? path with
  | none => .skipped
  | some parser =>
    match parser.parse workspace.files path root with
    | .error error => .failed .parse error.message
    | .ok found =>
      match normalSymbols root (workspace.files.realPath? root) found with
      | .error error => .failed .normalize error.message
      | .ok symbols =>
        match (store.save workspace symbols).2 with
        | .error error => .failed .save error.message
        | .ok _ => .indexed symbols

/-- The failures among files, in the order of the files. -/
def failures (registry : Registry) (store : Store) (root : String) (workspace : Workspace)
    (paths : List String) : List FileFailure :=
  paths.filterMap fun path => (registry.fate store root workspace path).failure? path

/-- The rows that files leave, in the order of the files. -/
def rows (registry : Registry) (store : Store) (root : String) (workspace : Workspace)
    (paths : List String) : List Row :=
  paths.flatMap fun path => (registry.fate store root workspace path).symbols.map Row.ofSymbol

/-- What there is to report of files, out of a number discovered. -/
def account (registry : Registry) (store : Store) (root : String) (workspace : Workspace)
    (discovered : Nat) (paths : List String) : Report where
  discovered := discovered
  indexed := paths.countP fun path => (registry.fate store root workspace path).isIndexed
  skipped := paths.countP fun path => (registry.fate store root workspace path).isSkipped
  failed := (registry.failures store root workspace paths).length
  saved := (registry.rows store root workspace paths).length
  failures := registry.failures store root workspace paths

variable {registry : Registry} {store : Store} {root : String} {opened : Workspace}

/-- Taking a file to a store that has grown since it was opened: the file meets the
fate that it had at the opening, and its rows come behind. -/
theorem indexFile_appendRows (skipsNone : (opened.database store.number).SkipsNone)
    (before : List Row) (path : String) :
    registry.indexFile store root (opened.appendRows store.number before) path =
      (opened.appendRows store.number
          (before ++ registry.rows store root opened [path]),
        (registry.fate store root opened path).outcome) := by
  have files : (opened.appendRows store.number before).files = opened.files := rfl
  simp only [rows, List.flatMap_singleton]
  unfold indexFile extract fate
  rw [files]
  cases registry.parserFor? path with
  | none => simp [Fate.symbols, Fate.outcome]
  | some parser =>
    simp only [Option.map_some]
    cases parser.parse opened.files path root with
    | error error => simp [Fate.symbols, Fate.outcome]
    | ok found =>
      dsimp only
      cases normalSymbols root (opened.files.realPath? root) found with
      | error error => simp [Fate.symbols, Fate.outcome]
      | ok symbols =>
        dsimp only
        have reply := store.save_appendRows before symbols skipsNone
        have grown := Workspace.skipsNone_appendRows before skipsNone
        rcases Store.save_cases symbols grown with saved | ⟨error, failed⟩
        · rw [saved] at reply
          rw [saved, ← reply, Workspace.appendRows_append]
          rfl
        · rw [failed] at reply
          rw [failed, ← reply]
          simp [Fate.symbols, Fate.outcome]

/-- Recording what became of one more file brings the account up to that file. -/
theorem record_account (discovered : Nat) (done : List String) (path : String) :
    (registry.fate store root opened path).outcome.record path
        (registry.account store root opened discovered done) =
      registry.account store root opened discovered (done ++ [path]) := by
  cases met : registry.fate store root opened path <;>
    simp [account, failures, rows, FileOutcome.record, Fate.outcome, Fate.failure?,
      Fate.symbols, Fate.isIndexed, Fate.isSkipped, met]

/-- Every file is counted once. -/
theorem account_total (discovered : Nat) (paths : List String) :
    (registry.account store root opened discovered paths).indexed +
        (registry.account store root opened discovered paths).skipped +
        (registry.account store root opened discovered paths).failed = paths.length := by
  induction paths with
  | nil => rfl
  | cons path rest hypothesis =>
    simp only [account, failures] at hypothesis ⊢
    cases met : registry.fate store root opened path <;>
      simp [Fate.failure?, Fate.isIndexed, Fate.isSkipped, met, ← hypothesis] <;> omega

/-- Without a table a file leaves nothing: only an empty batch can be saved. -/
theorem fate_symbols_of_missing (skipsNone : (opened.database store.number).SkipsNone)
    (missing : (opened.database store.number).rows = none) (path : String) :
    (registry.fate store root opened path).symbols = [] := by
  unfold fate
  split
  · rfl
  · split
    · rfl
    · split
      · rfl
      · rename_i symbols normal
        rcases Store.save_cases symbols skipsNone with saved | ⟨error, failed⟩
        · have accepted := (Store.save_eq_ok_iff symbols skipsNone).1 (by rw [saved])
          rw [saved]
          simpa [Fate.symbols, missing] using accepted
        · rw [failed]
          rfl

/-- The table of a workspace that rows of files were added to is the table before with
these rows behind it, whether or not there was one. -/
theorem getD_rows_appendRows (skipsNone : (opened.database store.number).SkipsNone)
    (paths : List String) :
    (((opened.appendRows store.number (registry.rows store root opened paths)).database
        store.number).rows.getD []) =
      (opened.database store.number).rows.getD [] ++ registry.rows store root opened paths := by
  rw [Workspace.rows_appendRows]
  cases present : (opened.database store.number).rows with
  | some rows => rfl
  | none =>
    have nothing : registry.rows store root opened paths = [] := by
      simp [rows, fate_symbols_of_missing skipsNone present]
    rw [nothing]
    rfl

end Registry

namespace Run

variable {registry : Registry} {store : Store} {root : String} {opened : Workspace}
  {discovered : Nat} {done : List String} {run : Run}

/-- The state of a run over files of which some are done, since the store was opened:
the table has grown by the rows of these files, and they are in the report. -/
structure Accounts (registry : Registry) (store : Store) (root : String) (opened : Workspace)
    (discovered : Nat) (done : List String) (run : Run) : Prop where
  workspace : run.workspace =
    opened.appendRows store.number (registry.rows store root opened done)
  report : run.report = registry.account store root opened discovered done

/-- One more file is accounted for. -/
theorem Accounts.step (skipsNone : (opened.database store.number).SkipsNone)
    (accounts : run.Accounts registry store root opened discovered done) (path : String) :
    (run.step registry store root discovered path).Accounts registry store root opened
      discovered (done ++ [path]) := by
  have handled : registry.indexFile store root run.workspace path =
      (opened.appendRows store.number
          (registry.rows store root opened done ++ registry.rows store root opened [path]),
        (registry.fate store root opened path).outcome) := by
    rw [accounts.workspace]
    exact Registry.indexFile_appendRows skipsNone _ path
  refine ⟨?_, ?_⟩
  · simp [Run.step, handled, Registry.rows]
  · simp only [Run.step, handled, accounts.report]
    exact Registry.record_account discovered done path

/-- However many files follow, all of them are accounted for. -/
theorem Accounts.foldl (skipsNone : (opened.database store.number).SkipsNone)
    (accounts : run.Accounts registry store root opened discovered done)
    (paths : List String) :
    (paths.foldl (Run.step registry store root discovered) run).Accounts registry store root
      opened discovered (done ++ paths) := by
  induction paths generalizing done run with
  | nil => simpa using accounts
  | cons path rest hypothesis =>
    have next := hypothesis (accounts.step skipsNone path)
    simpa using next

/-- A run in which no file is done yet. -/
theorem accounts_start (registry : Registry) (store : Store) (root : String)
    (opened : Workspace) (discovered : Nat) (phase : Phase) :
    Accounts registry store root opened discovered []
      { workspace := opened, phase := phase, report := { discovered := discovered } } :=
  ⟨(opened.appendRows_nil store.number).symm, rfl⟩

/-- Closing the store leaves the table with the rows of the files that are done. -/
theorem Accounts.table (skipsNone : (opened.database store.number).SkipsNone)
    (accounts : run.Accounts registry store root opened discovered done) :
    ((store.close run.workspace).1.database store.number).rows.getD [] =
      (opened.database store.number).rows.getD [] ++ registry.rows store root opened done := by
  have closing := (store.keeps_close run.workspace).tables store.number
  rw [closing.getD_rows, accounts.workspace, Registry.getD_rows_appendRows skipsNone]

/-- No other table is touched. -/
theorem Accounts.others (accounts : run.Accounts registry store root opened discovered done)
    {other : Nat} (different : other ≠ store.number) :
    ((store.close run.workspace).1.database other).rows.getD [] =
      (opened.database other).rows.getD [] := by
  have closing := (store.keeps_close run.workspace).tables other
  rw [closing.getD_rows, accounts.workspace, Workspace.database_appendRows_ne _ _ different]

end Run

namespace Indexer

/-- A root that cannot be crawled fails the run before anything is opened. -/
theorem index_of_uncrawled {indexer : Indexer} {workspace : Workspace} {root : String}
    {cause : CrawlError} (classpath : List String)
    (uncrawled : workspace.files.crawl indexer.followLinks root indexer.registry.extensions =
      .error cause) :
    (indexer.index workspace root classpath).1 = workspace ∧
      (indexer.index workspace root classpath).2.2 = .error (.crawl cause) := by
  simp only [index, uncrawled, and_self]

/-- A store that cannot be opened fails the run before any file is read, and leaves what
the opening has left. -/
theorem index_of_unopened {indexer : Indexer} {workspace left : Workspace} {root : String}
    {paths : List String} {cause : StoreError} (classpath : List String)
    (crawled : workspace.files.crawl indexer.followLinks root indexer.registry.extensions =
      .ok paths)
    (unopened : Store.openAt workspace indexer.database usualChunkSize = (left, .error cause)) :
    (indexer.index workspace root classpath).1 = left ∧
      (indexer.index workspace root classpath).2.2 = .error (.store cause) := by
  simp only [index, crawled, unopened, and_self]

/-- Once its root is crawled and its store is open, a run succeeds whatever becomes of
the files, and ends by closing the store on an accounted state. -/
theorem index_of_opened {indexer : Indexer} {workspace opened : Workspace} {root : String}
    {paths : List String} {store : Store} (classpath : List String)
    (skipsNone : (opened.database store.number).SkipsNone)
    (crawled : workspace.files.crawl indexer.followLinks root indexer.registry.extensions =
      .ok paths)
    (opening : Store.openAt workspace indexer.database usualChunkSize = (opened, .ok store)) :
    ∃ run : Run,
      run.Accounts (indexer.registry.setUp workspace.files root classpath).1 store root opened
        paths.length paths ∧
      (indexer.index workspace root classpath).1 = (store.close run.workspace).1 ∧
      ∃ progress, (indexer.index workspace root classpath).2.2 = .ok (run.report, progress) := by
  have accounts := (Run.accounts_start (indexer.registry.setUp workspace.files root classpath).1
    store root opened paths.length .crawling).foldl skipsNone paths
  refine ⟨_, accounts, ?_, ?_⟩
  · simp only [index, crawled, opening]
  · simp only [index, crawled, opening]
    exact ⟨_, rfl⟩

/-- A run that succeeds accounts for every file that was crawled. Each is counted once
as indexed, skipped or failed; the failures stand in the order of the crawl, each
with the first stage that failed; and the table is the one before with the symbols of
the indexed files behind it, all of them, in the order of the crawl. The other
databases keep their rows. A run that fails has changed no row, and it has failed at
the crawl or at the opening of the store. -/
theorem index_accounts (indexer : Indexer) (workspace : Workspace) (root : String)
    (classpath : List String)
    (skipsNone : ∀ store, (Store.openAt workspace indexer.database usualChunkSize).2 = .ok store →
      (workspace.database store.number).SkipsNone) :
    let after := (indexer.index workspace root classpath).1
    let crawled := workspace.files.crawl indexer.followLinks root indexer.registry.extensions
    let registry := (indexer.registry.setUp workspace.files root classpath).1
    match (indexer.index workspace root classpath).2.2 with
    | .ok (report, _) =>
      ∃ paths opened store, crawled = .ok paths ∧
        Store.openAt workspace indexer.database usualChunkSize = (opened, .ok store) ∧
        report.discovered = paths.length ∧
        report.discovered = report.indexed + report.skipped + report.failed ∧
        report.indexed = paths.countP (fun path =>
          (registry.fate store root opened path).isIndexed) ∧
        report.failures = paths.filterMap (fun path =>
          (registry.fate store root opened path).failure? path) ∧
        report.failed = report.failures.length ∧
        (after.database store.number).rows.getD [] =
          (workspace.database store.number).rows.getD [] ++
            paths.flatMap (fun path =>
              (registry.fate store root opened path).symbols.map Row.ofSymbol) ∧
        ((after.database store.number).rows.getD []).length =
          ((workspace.database store.number).rows.getD []).length + report.saved ∧
        ∀ other, other ≠ store.number →
          (after.database other).rows.getD [] = (workspace.database other).rows.getD []
    | .error (.crawl cause) =>
      crawled = .error cause ∧ after = workspace
    | .error (.store cause) =>
      (∃ paths, crawled = .ok paths) ∧
        (Store.openAt workspace indexer.database usualChunkSize).2 = .error cause ∧
        ∀ number,
          (after.database number).rows.getD [] = (workspace.database number).rows.getD [] := by
  intro after crawled registry
  have opens := Store.opens_openAt workspace indexer.database usualChunkSize
  cases found : workspace.files.crawl indexer.followLinks root indexer.registry.extensions with
  | error cause =>
    obtain ⟨unchanged, reported⟩ := index_of_uncrawled classpath found
    rw [reported]
    exact ⟨found, unchanged⟩
  | ok paths =>
    cases opening : Store.openAt workspace indexer.database usualChunkSize with
    | mk opened result =>
      rw [opening] at opens skipsNone
      cases result with
      | error cause =>
        obtain ⟨left, reported⟩ := index_of_unopened classpath found opening
        rw [reported]
        refine ⟨⟨paths, found⟩, rfl, ?_⟩
        intro number
        simp only [after, left]
        exact (opens.keeps.tables number).getD_rows
      | ok store =>
        have kept := (opens.keeps.tables store.number).guards
        have unskipped : (opened.database store.number).SkipsNone := by
          rw [Database.SkipsNone, kept]
          exact skipsNone store rfl
        obtain ⟨run, accounts, closed, progress, reported⟩ :=
          index_of_opened classpath unskipped found opening
        have table : (after.database store.number).rows.getD [] =
            (workspace.database store.number).rows.getD [] ++
              registry.rows store root opened paths := by
          simp only [after]
          rw [closed, accounts.table unskipped, (opens.keeps.tables store.number).getD_rows]
        rw [reported]
        refine ⟨paths, opened, store, found, rfl, ?_, ?_, ?_, ?_, ?_, table, ?_, ?_⟩
        · rw [accounts.report]
          rfl
        · rw [accounts.report, Registry.account_total]
          rfl
        · rw [accounts.report]
          rfl
        · rw [accounts.report]
          rfl
        · rw [accounts.report]
          rfl
        · rw [table, List.length_append, accounts.report]
          rfl
        · intro other different
          simp only [after]
          rw [closed, accounts.others different, (opens.keeps.tables other).getD_rows]

/-- Four files, of which one is indexed and each of the others is dropped at another
stage: the table of one row grows by the two symbols of the first. -/
theorem index_accounts_mixed :
    let symbol : Symbol := { name := "a", kind := .field, filePath := "a.x", line := 1 }
    let entries := ["a.x", "b.x", "c.x", "d.x"].map fun name => (name, Entry.file (.bytes []))
    let parser := Parser.scripted "x" ["x"] none
      [ ("a.x", .symbols [symbol, { symbol with filePath := "/p/b.x" }])
      , ("b.x", .broken 3)
      , ("c.x", .symbols [{ symbol with filePath := "../c.x" }])
      , ("d.x", .symbols [symbol, { symbol with name := "boom" }]) ]
    let indexer : Indexer := { database := "/t.db", registry := [parser] }
    let workspace : Workspace :=
      { files := { entries := [("t.db", .file (.database 0)), ("p", .directory entries)] }
        databases :=
          [ { rows := some [.ofSymbol symbol]
              guards := [⟨"boom", .failsAndEnds, "no"⟩]
              home := some ["t.db"] } ] }
    let outcome := indexer.index workspace "/p" []
    (∀ store, (Store.openAt workspace indexer.database usualChunkSize).2 = .ok store →
      (workspace.database store.number).SkipsNone) ∧
      ∃ report progress, outcome.2.2 = .ok (report, progress) ∧ report.discovered = 4 ∧
        report.failures.map FileFailure.stage = [.parse, .normalize, .save] ∧
        report.saved = 2 := by
  intro symbol entries parser indexer workspace outcome
  have crawled : workspace.files.crawl indexer.followLinks "/p" indexer.registry.extensions =
      .ok ["/p/a.x", "/p/b.x", "/p/c.x", "/p/d.x"] := by
    have place : workspace.files.place "/p" = .present ["p"] (.directory entries) := rfl
    have sorted : (filesAmong entries).mergeSort nameOrder = filesAmong entries :=
      List.mergeSort_of_pairwise (by decide +kernel)
    simp only [Files.crawl, place, indexer, Bool.false_eq_true, if_false, Entry.filesBelow,
      sorted]
    decide +kernel
  have opening : (Store.openAt workspace indexer.database usualChunkSize).2 =
      .ok { number := 0 , chunkSize := usualChunkSize, path := some "/t.db" } := by
    decide +kernel
  have skipsNone : ∀ store,
      (Store.openAt workspace indexer.database usualChunkSize).2 = .ok store →
        (workspace.database store.number).SkipsNone := by
    intro store opened
    obtain rfl := Except.ok.inj (opening.symm.trans opened)
    decide
  have accounts := index_accounts indexer workspace "/p" [] skipsNone
  refine ⟨skipsNone, ?_⟩
  dsimp only at accounts
  cases result : outcome.2.2 with
  | error cause =>
    rw [result] at accounts
    cases cause with
    | crawl cause => simp [crawled] at accounts
    | store cause => simp [opening] at accounts
  | ok reported =>
    obtain ⟨report, progress⟩ := reported
    rw [result] at accounts
    obtain ⟨paths, opened, store, found, made, discovered, -, -, failures, -, table, grown, -⟩ :=
      accounts
    obtain rfl := Except.ok.inj (crawled.symm.trans found)
    rw [made] at opening
    obtain rfl := Except.ok.inj opening
    obtain rfl : (Store.openAt workspace indexer.database usualChunkSize).1 = opened := by
      rw [made]
    refine ⟨report, progress, rfl, discovered, ?_, ?_⟩
    · rw [failures]
      decide +kernel
    · rw [table, List.length_append, Nat.add_right_inj] at grown
      rw [← grown]
      decide +kernel

end Indexer

end SymbolAtlas
