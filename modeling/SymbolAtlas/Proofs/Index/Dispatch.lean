import Mathlib.Data.List.Forall2
import SymbolAtlas.Proofs.Index.Accounting
import SymbolAtlas.Proofs.Index.Claiming
import SymbolAtlas.Proofs.Index.Isolation

/-!
# Which parser gets a file

A run hands every file of its crawl to a parser, and this parser is known from the registry as it
was registered: it stands where the first registered parser does that claims the extension of the
file. Setting up may exchange a parser for another that claims the same, and leaves it in its place.

So a run is one of jobs, each a file with its parser. What a parser does with a file never counts as
passed over, and no file of a crawl is.
-/

namespace SymbolAtlas

namespace Parser

/-- Take one file to the store. -/
def indexFile (parser : Parser) (store : Store) (root : String) (workspace : Workspace)
    (path : String) : Workspace × FileOutcome :=
  match parser.parse workspace.files path root with
  | .error error => (workspace, .failed .parse error.message)
  | .ok found =>
    match normalSymbols root (workspace.files.realPath? root) found with
    | .error error => (workspace, .failed .normalize error.message)
    | .ok symbols =>
      match store.save workspace symbols with
      | (after, .ok saved) => (after, .indexed saved)
      | (after, .error error) => (after, .failed .save error.message)

/-- A parser passes over no file. -/
theorem indexFile_ne_skipped (parser : Parser) (store : Store) (root : String)
    (workspace : Workspace) (path : String) :
    (parser.indexFile store root workspace path).2 ≠ .skipped := by
  unfold indexFile
  split
  · simp
  · split
    · simp
    · split <;> simp

end Parser

namespace Registry

variable {registry readied : Registry} {files : Files} {root path : String}
  {classpath paths : List String} {store : Store} {workspace : Workspace} {parser : Parser}

/-- A registry takes a file to the store by its parser for it. -/
theorem indexFile_of_parserFor? (found : registry.parserFor? path = some parser) :
    registry.indexFile store root workspace path = parser.indexFile store root workspace path := by
  simp only [indexFile, extract, found, Option.map_some, Parser.indexFile]
  cases parser.parse workspace.files path root with
  | error error => rfl
  | ok found =>
    dsimp only
    cases normalSymbols root (workspace.files.realPath? root) found <;> rfl

/-- The first parser of a registry that claims the extension of a file, and those before it. -/
structure ClaimsFirst (registry : Registry) (path : String) (before : List Parser)
    (registered : Parser) : Prop where
  stands : ∃ behind, registry = before ++ registered :: behind
  claims : ∃ extension, Path.extension? path = some extension ∧
    registered.claims extension = true ∧ ∀ other ∈ before, other.claims extension = false

/-- The parser for a file is the first that claims its extension. -/
theorem parserFor?_eq_some_iff :
    registry.parserFor? path = some parser ↔ ∃ before, registry.ClaimsFirst path before parser := by
  unfold parserFor?
  cases written : Path.extension? path with
  | none =>
    refine iff_of_false (by simp) ?_
    rintro ⟨before, first⟩
    obtain ⟨extension, same, -⟩ := first.claims
    rw [written] at same
    cases same
  | some extension =>
    simp only [List.find?_eq_some_iff_append, Bool.not_eq_eq_eq_not, Bool.not_true]
    constructor
    · rintro ⟨claimed, before, behind, same, unclaimed⟩
      exact ⟨before, ⟨behind, same⟩, extension, written, claimed, unclaimed⟩
    · rintro ⟨before, ⟨behind, same⟩, _, written', claimed, unclaimed⟩
      obtain rfl := Option.some.inj (written.symm.trans written')
      exact ⟨claimed, before, behind, same, unclaimed⟩

/-- What setting up makes of a parser: it leaves it as it is, or readies it. -/
def Readies (files : Files) (root : String) (classpath : List String)
    (registered ready : Parser) : Prop :=
  ready = registered ∨ registered.setUp files root classpath = .ok ready

/-- Setting up goes through the registry parser by parser, and keeps each in its place. -/
theorem forall₂_setUp (files : Files) (root : String) (classpath : List String)
    (registry : Registry) :
    List.Forall₂ (Readies files root classpath) registry
      (registry.setUp files root classpath).1 := by
  induction registry with
  | nil => exact .nil
  | cons parser rest hypothesis =>
    unfold setUp
    split
    · exact .cons (.inl rfl) (List.forall₂_same.2 fun _ _ => .inl rfl)
    · rename_i ready done
      exact .cons (.inr done) hypothesis

/-- A parser claims what it claimed before it was set up. -/
theorem Readies.claims_eq {registered ready : Parser}
    (readied : Readies files root classpath registered ready) (extension : String) :
    ready.claims extension = registered.claims extension := by
  rcases readied with rfl | done
  · rfl
  · rw [Parser.claims, Parser.claims, extensions_of_setUp done]

/-- The first parser that claims a file is still the first when all are set up. -/
theorem ClaimsFirst.exists_ready {before : List Parser} {registered : Parser}
    (first : registry.ClaimsFirst path before registered)
    (places : List.Forall₂ (Readies files root classpath) registry readied) :
    ∃ ready, Readies files root classpath registered ready ∧
      readied[before.length]? = some ready ∧ readied.parserFor? path = some ready := by
  obtain ⟨⟨behind, rfl⟩, extension, written, claimed, unclaimed⟩ := first
  induction before generalizing readied with
  | nil =>
    obtain ⟨ready, rest, here, -, rfl⟩ := List.forall₂_cons_left_iff.1 places
    exact ⟨ready, here, rfl, by simp [parserFor?, written, here.claims_eq, claimed]⟩
  | cons other before hypothesis =>
    obtain ⟨ready, rest, here, below, rfl⟩ := List.forall₂_cons_left_iff.1 places
    obtain ⟨found, readies, position, chosen⟩ := hypothesis below fun later inside =>
      unclaimed later (List.mem_cons_of_mem other inside)
    refine ⟨found, readies, position, ?_⟩
    simpa [parserFor?, written, here.claims_eq, unclaimed other List.mem_cons_self] using chosen

/-- A file goes to this parser once the registry is set up: to the one in the place of the first
that claims the extension of the file. -/
def HandsTo (registry : Registry) (files : Files) (root : String) (classpath : List String)
    (path : String) (parser : Parser) : Prop :=
  ∃ before registered, registry.ClaimsFirst path before registered ∧
    (registry.setUp files root classpath).1[before.length]? = some parser ∧
    Readies files root classpath registered parser

/-- The files with their parsers. A file without a parser is left out. -/
def jobs (registry : Registry) (paths : List String) : List (String × Parser) :=
  paths.filterMap fun path => (registry.parserFor? path).map (path, ·)

/-- No file of a crawl is left out. -/
theorem map_jobs (claimed : ∀ path ∈ paths, (registry.parserFor? path).isSome = true) :
    (registry.jobs paths).map Prod.fst = paths := by
  induction paths with
  | nil => rfl
  | cons path rest hypothesis =>
    obtain ⟨here, later⟩ := List.forall_mem_cons.1 claimed
    obtain ⟨parser, found⟩ := Option.isSome_iff_exists.1 here
    have below := hypothesis later
    rw [jobs] at below ⊢
    rw [List.filterMap_cons, found, Option.map_some, List.map_cons, below]

/-- Every job of a registry that is set up is one of the parsers as they were registered. -/
theorem handsTo_of_mem_jobs {job : String × Parser}
    (inside : job ∈ (registry.setUp files root classpath).1.jobs paths) :
    registry.HandsTo files root classpath job.1 job.2 := by
  obtain ⟨path, -, found⟩ := List.mem_filterMap.1 inside
  obtain ⟨ready, chosen, rfl⟩ := Option.map_eq_some_iff.1 found
  have claimed : (registry.parserFor? path).isSome = true := by
    rw [← isSome_parserFor?_congr (map_extensions_setUp files root classpath registry), chosen]
    rfl
  obtain ⟨registered, first⟩ := Option.isSome_iff_exists.1 claimed
  obtain ⟨before, claimsFirst⟩ := parserFor?_eq_some_iff.1 first
  obtain ⟨other, readies, position, same⟩ :=
    claimsFirst.exists_ready (forall₂_setUp files root classpath registry)
  obtain rfl := Option.some.inj (same.symm.trans chosen)
  exact ⟨before, registered, claimsFirst, position, readies⟩

end Registry

namespace Run

/-- The run after one more file, given what became of it. -/
def after (total : Nat) (path : String) (run : Run) (done : Workspace × FileOutcome) : Run where
  workspace := done.1
  phase := done.2.phase run.phase
  report := done.2.record path run.report
  progress := run.progress ++ [⟨done.2.phase run.phase, run.progress.length + 1, total, some path⟩]

/-- The run after one more job. -/
def handle (store : Store) (root : String) (total : Nat) (run : Run) (job : String × Parser) :
    Run :=
  run.after total job.1 (job.2.indexFile store root run.workspace job.1)

variable {store : Store} {root : String} {total : Nat}

/-- A run over files that all have parsers is one over their jobs. -/
theorem foldl_step_eq_foldl_handle {registry : Registry} {paths : List String}
    (claimed : ∀ path ∈ paths, (registry.parserFor? path).isSome = true) (run : Run) :
    paths.foldl (step registry store root total) run =
      (registry.jobs paths).foldl (handle store root total) run := by
  induction paths generalizing run with
  | nil => rfl
  | cons path rest hypothesis =>
    obtain ⟨here, later⟩ := List.forall_mem_cons.1 claimed
    obtain ⟨parser, found⟩ := Option.isSome_iff_exists.1 here
    have one : step registry store root total run path =
        handle store root total run (path, parser) := by
      rw [handle, ← Registry.indexFile_of_parserFor? found]
      rfl
    rw [List.foldl_cons, one, hypothesis later, Registry.jobs, Registry.jobs, List.filterMap_cons,
      found]
    rfl

/-- Jobs are not counted as passed over. -/
theorem skipped_foldl_handle (jobs : List (String × Parser)) (run : Run) :
    (jobs.foldl (handle store root total) run).report.skipped = run.report.skipped := by
  induction jobs generalizing run with
  | nil => rfl
  | cons job rest hypothesis =>
    rw [List.foldl_cons, hypothesis, handle, after]
    have taken := job.2.indexFile_ne_skipped store root run.workspace job.1
    cases outcome : (job.2.indexFile store root run.workspace job.1).2 with
    | skipped => exact absurd outcome taken
    | failed stage reason => simp [FileOutcome.record]
    | indexed saved => simp [FileOutcome.record]

end Run

namespace Indexer

variable {indexer : Indexer} {workspace opened : Workspace} {root : String}
  {classpath paths : List String} {store : Store}

/-- A run over the files of a crawl is one over jobs, each of a file with the parser that it goes
to. -/
theorem exists_jobs_of_crawled (classpath : List String) (store : Store) (opened : Workspace)
    (crawled : workspace.files.crawl indexer.followLinks root indexer.registry.extensions =
      .ok paths) :
    ∃ jobs : List (String × Parser), jobs.map Prod.fst = paths ∧
      (∀ job ∈ jobs, indexer.registry.HandsTo workspace.files root classpath job.1 job.2) ∧
      runOver (indexer.registry.setUp workspace.files root classpath).1 store root opened paths =
        jobs.foldl (Run.handle store root paths.length)
          { workspace := opened, phase := .crawling, report := { discovered := paths.length } } := by
  have claimed : ∀ path ∈ paths, ((indexer.registry.setUp workspace.files root
      classpath).1.parserFor? path).isSome = true :=
    fun path inside => Registry.isSome_parserFor?_of_crawled crawled inside
  exact ⟨_, Registry.map_jobs claimed, fun job inside => Registry.handsTo_of_mem_jobs inside,
    Run.foldl_step_eq_foldl_handle claimed _⟩

/-- The crawl keeps a file just when the registry has a parser for it. So a run that succeeds has
passed over no file: each file of its crawl has gone to the first registered parser that claims its
extension, in the order of the crawl, and this is all that the run has done between opening and
closing the store. A run that fails has failed before any file. -/
theorem index_hands_to_first_claiming (indexer : Indexer) (workspace : Workspace) (root : String)
    (classpath : List String) :
    (∀ path, hasExtension indexer.registry.extensions path =
      (indexer.registry.parserFor? path).isSome) ∧
    let crawled := workspace.files.crawl indexer.followLinks root indexer.registry.extensions
    let opening := Store.openAt workspace indexer.database usualChunkSize
    match (indexer.index workspace root classpath).2.2 with
    | .error error =>
      (∃ cause, crawled = .error cause ∧ error = .crawl cause) ∨
        ∃ paths cause, crawled = .ok paths ∧ opening.2 = .error cause ∧ error = .store cause
    | .ok (report, _) =>
      report.skipped = 0 ∧
      ∃ paths opened store, ∃ jobs : List (String × Parser), crawled = .ok paths ∧
        opening = (opened, .ok store) ∧ jobs.map Prod.fst = paths ∧
        (∀ job ∈ jobs, indexer.registry.HandsTo workspace.files root classpath job.1 job.2) ∧
        let run := jobs.foldl (Run.handle store root paths.length)
          { workspace := opened, phase := .crawling, report := { discovered := paths.length } }
        report = run.report ∧
          (indexer.index workspace root classpath).1 = (store.close run.workspace).1 := by
  refine ⟨Registry.hasExtension_extensions indexer.registry, ?_⟩
  dsimp only
  cases crawled : workspace.files.crawl indexer.followLinks root indexer.registry.extensions with
  | error cause =>
    rw [(index_of_uncrawled classpath crawled).2]
    exact .inl ⟨cause, rfl, rfl⟩
  | ok paths =>
    rcases opening : Store.openAt workspace indexer.database usualChunkSize with ⟨opened, result⟩
    cases result with
    | error cause =>
      rw [(index_of_unopened classpath crawled opening).2]
      exact .inr ⟨paths, cause, rfl, rfl, rfl⟩
    | ok store =>
      obtain ⟨jobs, files, handed, ran⟩ := exists_jobs_of_crawled classpath store opened crawled
      obtain ⟨closed, progress, reported⟩ := index_of_started classpath crawled opening
      rw [ran] at closed reported
      rw [reported, closed]
      exact ⟨Run.skipped_foldl_handle jobs _, paths, opened, store, jobs, rfl, rfl, files, handed,
        rfl, rfl⟩

end Indexer

end SymbolAtlas
