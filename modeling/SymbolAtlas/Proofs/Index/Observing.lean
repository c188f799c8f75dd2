import SymbolAtlas.Proofs.Index.Abreast
import SymbolAtlas.Proofs.Index.Claiming

/-!
# What an observer sees of an indexing run

A run enters one phase after another and calls its observer once for each file and once at
its end. `Indexer.events` writes both down in the order in which they happen, from the
stages that each file passes and from nothing that the run itself keeps about its phase.
What the run has told its observer, and the phase it ends in, are read off the events.

A file that no parser claims would leave the run in the phase of the file before it. There
is none: the crawl only finds files that some parser claims. So every file begins by being
parsed, and ends either there or in being saved, and the events of a run are known from
which files pass.
-/

namespace SymbolAtlas

/-- What happens in a run as far as its phases and its observer are concerned. -/
inductive Event where
  /-- A phase is entered. -/
  | enters (phase : Phase)
  /-- The observer is called. -/
  | tells (progress : Progress)
  deriving DecidableEq, Repr

namespace Event

/-- The phase that is entered. -/
def phase? : Event → Option Phase
  | enters phase => some phase
  | tells _ => none

/-- What the observer is told. -/
def progress? : Event → Option Progress
  | enters _ => none
  | tells progress => some progress

end Event

namespace Registry

/-- A file passes when it is parsed and its symbols can be brought to their stored form. -/
def Passes (registry : Registry) (files : Files) (root path : String) : Prop :=
  ∃ parser found symbols, registry.parserFor? path = some parser ∧
    parser.parse files path root = .ok found ∧
    normalSymbols root (files.realPath? root) found = .ok symbols

/-- The phases that a run enters with a file: parsing, once there is a parser, and saving,
once there is something to save. -/
def phases (registry : Registry) (files : Files) (root path : String) : List Phase :=
  match registry.parserFor? path with
  | none => []
  | some parser =>
    match parser.parse files path root with
    | .error _ => [.parsing]
    | .ok found =>
      match normalSymbols root (files.realPath? root) found with
      | .error _ => [.parsing]
      | .ok _ => [.parsing, .saving]

/-- The events of files that are taken to a store one after another, given the phase and
the number of files before them, out of a total. -/
def events (registry : Registry) (store : Store) (root : String) (total : Nat) :
    Workspace → Phase → Nat → List String → List Event
  | _, _, _, [] => []
  | workspace, phase, done, path :: rest =>
    let entered := registry.phases workspace.files root path
    let now := entered.getLastD phase
    entered.map .enters ++ .tells ⟨now, done + 1, total, some path⟩ ::
      registry.events store root total (registry.indexFile store root workspace path).1 now
        (done + 1) rest

variable {registry : Registry} {store : Store} {root path : String}

/-- A file that a parser claims is parsed, and goes on to be saved just when it passes. -/
theorem phases_of_claimed (files : Files) (root : String)
    (claimed : (registry.parserFor? path).isSome = true) :
    registry.Passes files root path ∧ registry.phases files root path = [.parsing, .saving] ∨
      ¬ registry.Passes files root path ∧ registry.phases files root path = [.parsing] := by
  obtain ⟨parser, chosen⟩ := Option.isSome_iff_exists.1 claimed
  simp only [phases, Passes, chosen, Option.some.injEq, exists_and_left, exists_eq_left']
  cases parsed : parser.parse files path root with
  | error error => simp
  | ok found =>
    cases normal : normalSymbols root (files.realPath? root) found with
    | error error => simp [normal]
    | ok symbols => simp [normal]

/-- The phase in which a file leaves a run is the last that was entered with it, whether
or not its symbols were saved. -/
theorem phase_indexFile (registry : Registry) (store : Store) (root : String)
    (workspace : Workspace) (path : String) (before : Phase) :
    (registry.indexFile store root workspace path).2.phase before =
      (registry.phases workspace.files root path).getLastD before := by
  unfold indexFile extract phases
  cases registry.parserFor? path with
  | none => rfl
  | some parser =>
    dsimp only [Option.map_some]
    cases parser.parse workspace.files path root with
    | error error => rfl
    | ok found =>
      dsimp only
      cases normalSymbols root (workspace.files.realPath? root) found with
      | error error => rfl
      | ok symbols =>
        dsimp only
        split <;> rfl

/-- The phases entered with files are those entered with each of them: what is saved
changes no file that is read later. -/
theorem filterMap_phase?_events (registry : Registry) (store : Store) (root : String)
    (total : Nat) (workspace : Workspace) (phase : Phase) (done : Nat) (paths : List String) :
    (registry.events store root total workspace phase done paths).filterMap Event.phase? =
      paths.flatMap (registry.phases workspace.files root) := by
  have entering (phases : List Phase) :
      (phases.map Event.enters).filterMap Event.phase? = phases := by
    rw [List.filterMap_map]
    exact List.filterMap_some
  induction paths generalizing workspace phase done with
  | nil => rfl
  | cons path rest hypothesis =>
    rw [events, List.filterMap_append, entering, List.filterMap_cons_none rfl, hypothesis,
      registry.files_indexFile, List.flatMap_cons]

/-- What is told of files that parsers claim: each with its number and the last of its own
phases. -/
theorem filterMap_progress?_events {total : Nat} {workspace : Workspace} {paths : List String}
    (claimed : ∀ path ∈ paths, (registry.parserFor? path).isSome = true) (phase : Phase)
    (done : Nat) :
    (registry.events store root total workspace phase done paths).filterMap Event.progress? =
      (paths.zipIdx (done + 1)).map fun (path, number) =>
        ⟨(registry.phases workspace.files root path).getLastD .parsing, number, total,
          some path⟩ := by
  have silent (phases : List Phase) : (phases.map Event.enters).filterMap Event.progress? = [] := by
    simp [Event.progress?]
  induction paths generalizing workspace phase done with
  | nil => rfl
  | cons path rest hypothesis =>
    obtain ⟨first, others⟩ := List.forall_mem_cons.1 claimed
    have last : (registry.phases workspace.files root path).getLastD phase =
        (registry.phases workspace.files root path).getLastD .parsing := by
      rcases phases_of_claimed workspace.files root first with ⟨-, entered⟩ | ⟨-, entered⟩ <;>
        rw [entered] <;> rfl
    rw [events, List.filterMap_append, silent, List.nil_append, List.filterMap_cons,
      hypothesis others, registry.files_indexFile, last, List.zipIdx_cons, List.map_cons]
    rfl

end Registry

/-- A run over files tells what the events of these files tell, in the same order. -/
theorem Run.progress_foldl (registry : Registry) (store : Store) (root : String) (total : Nat)
    (run : Run) (paths : List String) :
    (paths.foldl (Run.step registry store root total) run).progress =
      run.progress ++ (registry.events store root total run.workspace run.phase
        run.progress.length paths).filterMap Event.progress? := by
  induction paths generalizing run with
  | nil => simp [Registry.events]
  | cons path rest hypothesis =>
    have phase := registry.phase_indexFile store root run.workspace path run.phase
    rw [List.foldl_cons, hypothesis, Registry.events]
    simp [Run.step, phase, List.filterMap_append, List.filterMap_map, Event.progress?,
      Function.comp_def]

namespace Indexer

/-- The events of a run: it starts and crawls, goes over the files it has found once its
store is open, and is complete. A run that fails has stopped before the first file. -/
def events (indexer : Indexer) (workspace : Workspace) (root : String)
    (classpath : List String) : List Event :=
  let (registry, _) := indexer.registry.setUp workspace.files root classpath
  [.enters .notStarted, .enters .crawling] ++
    match workspace.files.crawl indexer.followLinks root indexer.registry.extensions with
    | .error _ => []
    | .ok paths =>
      match Store.openAt workspace indexer.database usualChunkSize with
      | (_, .error _) => []
      | (opened, .ok store) =>
        registry.events store root paths.length opened .crawling 0 paths ++
          [.enters .complete, .tells ⟨.complete, paths.length, paths.length, none⟩]

/-- What observers are told of a run that comes through: one file after another, each with
its number and the phase that it has reached, and that the run is complete. -/
structure Tells (registry : Registry) (files : Files) (root : String) (paths : List String)
    (progress : List Progress) : Prop where
  calls : progress.length = paths.length + 1
  each : ∀ (index : Nat) (path : String), paths[index]? = some path → ∃ phase : Phase,
    progress[index]? = some ⟨phase, index + 1, paths.length, some path⟩ ∧
    (phase = .saving ↔ registry.Passes files root path) ∧ (phase = .saving ∨ phase = .parsing)
  last : progress[paths.length]? = some ⟨.complete, paths.length, paths.length, none⟩

/-- The phases that a run enters which comes through: that of each file is parsing, and then
saving if the file passes. -/
structure Enters (registry : Registry) (files : Files) (root : String) (paths : List String)
    (entered : List Phase) : Prop where
  whole : entered =
    [.notStarted, .crawling] ++ paths.flatMap (registry.phases files root) ++ [.complete]
  each : ∀ path ∈ paths,
    registry.Passes files root path ∧ registry.phases files root path = [.parsing, .saving] ∨
      ¬ registry.Passes files root path ∧ registry.phases files root path = [.parsing]

variable {registry : Registry} {files : Files} {root : String} {paths : List String}

/-- The calls for the files and the call at the end, put together. -/
theorem tells_of_claimed (claimed : ∀ path ∈ paths, (registry.parserFor? path).isSome = true) :
    Tells registry files root paths
      ((paths.zipIdx 1).map (fun (path, number) =>
          ⟨(registry.phases files root path).getLastD .parsing, number, paths.length, some path⟩) ++
        [⟨.complete, paths.length, paths.length, none⟩]) := by
  refine ⟨by simp, ?_, by simp⟩
  intro index path listed
  obtain ⟨bound, -⟩ := List.getElem?_eq_some_iff.1 listed
  refine ⟨(registry.phases files root path).getLastD .parsing, ?_, ?_⟩
  · rw [List.getElem?_append_left (by simpa using bound), List.getElem?_map,
      List.getElem?_zipIdx, listed, Nat.add_comm index 1]
    rfl
  · have inside := List.mem_of_getElem? listed
    rcases Registry.phases_of_claimed files root (claimed path inside) with
      ⟨passes, entered⟩ | ⟨stops, entered⟩
    · rw [entered]
      simp [passes]
    · rw [entered]
      simp [stops]

section Started

variable {indexer : Indexer} {workspace opened : Workspace} {store : Store}

/-- A run that is started tells of its files and of its end. -/
theorem told_of_started (classpath : List String)
    (crawled : workspace.files.crawl indexer.followLinks root indexer.registry.extensions =
      .ok paths)
    (opening : Store.openAt workspace indexer.database usualChunkSize = (opened, .ok store)) :
    (indexer.events workspace root classpath).filterMap Event.progress? =
      (((indexer.registry.setUp workspace.files root classpath).1.events store root paths.length
        opened .crawling 0 paths).filterMap Event.progress?) ++
        [⟨.complete, paths.length, paths.length, none⟩] := by
  simp only [events, crawled, opening]
  rw [List.filterMap_append, List.filterMap_append]
  rfl

/-- A run that is started enters the phases of its files between those of its start and of its
end. -/
theorem entered_of_started (classpath : List String)
    (crawled : workspace.files.crawl indexer.followLinks root indexer.registry.extensions =
      .ok paths)
    (opening : Store.openAt workspace indexer.database usualChunkSize = (opened, .ok store)) :
    (indexer.events workspace root classpath).filterMap Event.phase? =
      [.notStarted, .crawling] ++ paths.flatMap
        ((indexer.registry.setUp workspace.files root classpath).1.phases opened.files root) ++
        [.complete] := by
  simp only [events, crawled, opening]
  rw [List.filterMap_append, List.filterMap_append, Registry.filterMap_phase?_events,
    List.append_assoc]
  rfl

end Started

/-- Observers of a run that comes through are called once for each file, in the order of the
crawl, and once at the end; whether a file is said to be saving or parsing tells whether it
passed. The phases follow the same files. A run that fails has told nothing and stays in the
phase of crawling. In both cases the phase that is left is the last that was entered, and
none of it depends on the phase that an earlier run has left. -/
theorem index_observed (indexer : Indexer) (workspace : Workspace) (root : String)
    (classpath : List String) :
    let (_, after, result) := indexer.index workspace root classpath
    let events := indexer.events workspace root classpath
    let told := events.filterMap Event.progress?
    let entered := events.filterMap Event.phase?
    entered.getLast? = some after.phase ∧
    match result with
    | .error _ => after.phase = .crawling ∧ told = [] ∧ entered = [.notStarted, .crawling]
    | .ok (report, progress) =>
      after.phase = .complete ∧ told = progress ∧
      ∃ paths opened store,
        workspace.files.crawl indexer.followLinks root indexer.registry.extensions = .ok paths ∧
        Store.openAt workspace indexer.database usualChunkSize = (opened, .ok store) ∧
        report.discovered = paths.length ∧
        Tells after.registry opened.files root paths progress ∧
        Enters after.registry opened.files root paths entered := by
  cases crawled : workspace.files.crawl indexer.followLinks root indexer.registry.extensions with
  | error cause => simp [index, events, crawled, Event.phase?, Event.progress?]
  | ok paths =>
    rcases opening : Store.openAt workspace indexer.database usualChunkSize with ⟨opened, result⟩
    cases result with
    | error cause => simp [index, events, crawled, opening, Event.phase?, Event.progress?]
    | ok store =>
      -- Every crawled file has a parser, so none of them leaves the phase as it was.
      have claimed : ∀ path ∈ paths, ((indexer.registry.setUp workspace.files root
          classpath).1.parserFor? path).isSome = true := by
        intro path inside
        exact Registry.isSome_parserFor?_of_crawled crawled inside
      have told := told_of_started classpath crawled opening
      have entered := entered_of_started classpath crawled opening
      simp only [index, crawled, opening, told, entered]
      generalize (indexer.registry.setUp workspace.files root classpath).1 = registry at claimed ⊢
      have progress := Run.progress_foldl registry store root paths.length
        { workspace := opened, phase := .crawling, report := { discovered := paths.length } } paths
      dsimp only [List.length_nil, List.nil_append] at progress
      rw [progress]
      refine ⟨List.getLast?_concat, trivial, rfl, paths, opened, store, rfl, rfl,
        Run.discovered_foldl registry store root paths paths.length _, ?_, ?_⟩
      · rw [Registry.filterMap_progress?_events claimed]
        exact tells_of_claimed claimed
      · refine ⟨rfl, ?_⟩
        intro path inside
        exact Registry.phases_of_claimed opened.files root (claimed path inside)

end Indexer

end SymbolAtlas
