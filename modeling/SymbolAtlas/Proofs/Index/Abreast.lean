import SymbolAtlas.Index.Run
import SymbolAtlas.Proofs.Extract.Located
import SymbolAtlas.Proofs.Store.Apart

/-!
# Two runs abreast

A run over a project, and the run over the project without one of its files. What
the other files come to depends on the parsers, and of these only the one for Java
looks beyond the file it is given: it has seen the types of the whole project. A file
that cannot be loaded declares none, so it makes no difference there; and where the
types make a difference, files can be loaded.

`Run.Abreast` relates the states of the two runs between two files. Both take the
same file and stay abreast; one takes the file that the other lacks, drops it, and
they are abreast with one failure more in the first report.
-/

namespace SymbolAtlas

namespace Java.TypeIndex

open Files (writtenBelow)

variable {gone : List String} {content : Content} {full lacking : Files} {root : String}

/-- A file that cannot be loaded adds no types. -/
theorem addPath_of_error {path : String} {error : ParseError}
    (fails : Source.load full path root = .error error) (index : TypeIndex) :
    addPath full root index path = index := by
  rw [addPath, fails]

/-- A path adds the same types without a file that cannot be loaded. -/
theorem addPath_lacking (lacks : Files.Lacks gone content full lacking)
    (unloadable : content.isLoadable = false) (index : TypeIndex) (path : String) :
    addPath lacking root index path = addPath full root index path := by
  rcases lacks.read_cases path with same | ⟨⟨error, unread⟩, before⟩
  · rw [addPath, addPath, Source.load_congr same]
  · rw [addPath_of_error (Source.load_of_unread unread)]
    rcases before with ⟨cause, unreadable⟩ | reads
    · rw [addPath_of_error (Source.load_of_unread unreadable)]
    · obtain ⟨cause, fails⟩ := Source.load_of_unloadable reads unloadable root
      rw [addPath_of_error fails]

/-- The file itself adds no types by the path that a crawl gives it. -/
theorem addPath_of_unloadable {names below : List String} (start : full.CrawlsFrom root names)
    (held : entryAt (names ++ below) full.entries = some (.file content))
    (usable : ∀ name ∈ below, isUsableName name = true)
    (unloadable : content.isLoadable = false) (index : TypeIndex) :
    addPath full root index (writtenBelow root below) = index := by
  cases sound : Files.textError? (writtenBelow root below) with
  | some error => exact addPath_of_error (Source.load_of_unread (Files.read_of_textError sound)) _
  | none =>
    have leads := start.leads_written (sightAt_eq_file.2 ⟨content, held⟩) usable .target
    have reads := Files.read_of_leads_entry sound leads held
    obtain ⟨error, fails⟩ := Source.load_of_unloadable reads unloadable root
    exact addPath_of_error fails _

/-- A root adds the same types without a file that cannot be loaded. -/
theorem addRoot_lacking (lacks : Files.Lacks gone content full lacking)
    (tidy : full.isTidy = true) (unloadable : content.isLoadable = false) (index : TypeIndex)
    (root : String) : addRoot lacking index root = addRoot full index root := by
  unfold addRoot
  cases crawled : full.crawl false root ["java"] with
  | error error =>
    obtain ⟨other, failed⟩ := lacks.crawl_eq_error crawled
    rw [failed]
  | ok paths =>
    obtain ⟨names, start, rfl⟩ := Files.crawl_eq_ok_iff.1 crawled
    rw [lacks.crawl_eq_ok start]
    dsimp only
    rw [List.foldl_map, List.foldl_map]
    have found : ∀ below ∈ full.wantedBelow root ["java"] names,
        ∀ name ∈ below, isUsableName name = true :=
      fun below inside => (Files.of_mem_wantedBelow tidy start.directory inside).2
    -- The induction is on what is found; the file is passed over by both.
    generalize full.wantedBelow root ["java"] names = belows at found
    induction belows generalizing index with
    | nil => rfl
    | cons below rest hypothesis =>
      have later := fun index => hypothesis index
        fun other inside => found other (List.mem_cons_of_mem _ inside)
      by_cases same : names ++ below = gone
      · have held : entryAt (names ++ below) full.entries = some (.file content) := by
          rw [same]
          exact lacks.held
        rw [List.filter_cons_of_neg (by simpa using same), later, List.foldl_cons,
          addPath_of_unloadable start held (found below (by simp)) unloadable]
      · rw [List.filter_cons_of_pos (by simpa using same), List.foldl_cons, List.foldl_cons,
          later, addPath_lacking lacks unloadable]

/-- The types of a project are the same without a file that cannot be loaded. -/
theorem ofRoots_lacking (lacks : Files.Lacks gone content full lacking)
    (tidy : full.isTidy = true) (unloadable : content.isLoadable = false)
    (roots : List String) : ofRoots lacking roots = ofRoots full roots := by
  have same : addRoot lacking = addRoot full := by
    funext index root
    exact addRoot_lacking lacks tidy unloadable index root
  rw [ofRoots, ofRoots, same]

end Java.TypeIndex

namespace Registry

variable {types otherTypes : Java.TypeIndex} {files otherFiles : Files} {root path : String}

/-- The built-in parsers, when the one for Java has seen some types. -/
def standardWith (types : Java.TypeIndex) : Registry :=
  [.python, .rust, .java types]

/-- Setting the built-in parsers up gives that for Java the types of the project. -/
theorem setUp_standardWith (files : Files) (root : String) (classpath : List String) :
    ((standardWith types).setUp files root classpath).1 =
      standardWith (Java.TypeIndex.ofRoots files (root :: classpath)) :=
  rfl

/-- What becomes of a file once its symbols are found or not. -/
def afterParsing (root : String) (realRoot : Option String) :
    Except ParseError (List Symbol) → Except (Stage × String) (List Symbol)
  | .error error => .error (.parse, error.message)
  | .ok found =>
    match normalSymbols root realRoot found with
    | .error error => .error (.normalize, error.message)
    | .ok symbols => .ok symbols

/-- The built-in parsers take a file by its extension, and find its symbols in what is loaded
of it and in the types that the one for Java has seen. -/
theorem extract_standardWith (path : String) :
    (∀ types files root, (standardWith types).extract files root path = none) ∨
      ∃ symbols : Java.TypeIndex → Source → List Symbol, ∀ types files root,
        (standardWith types).extract files root path =
          some (afterParsing root (files.realPath? root)
            ((Source.load files path root).map (symbols types))) := by
  cases extended : Path.extension? path with
  | none =>
    left
    intro types files root
    rw [extract, parserFor?, extended]
    rfl
  | some extension =>
    have chosen : ∀ types, (standardWith types).parserFor? path =
        if Parser.claims extension .python then some .python
        else if Parser.claims extension .rust then some .rust
        else if Parser.claims extension (.java []) then some (.java types) else none := by
      intro types
      rw [parserFor?, extended]
      dsimp only [standardWith]
      have claims : Parser.claims extension (.java types) =
        Parser.claims extension (.java []) := rfl
      rw [List.find?_cons, List.find?_cons, List.find?_cons, claims]
      cases Parser.claims extension .python <;> cases Parser.claims extension .rust <;>
        cases Parser.claims extension (.java []) <;> rfl
    by_cases python : Parser.claims extension .python = true
    · right
      refine ⟨fun _ => Python.symbols, fun types files root => ?_⟩
      rw [extract, chosen, if_pos python]
      rfl
    · by_cases rust : Parser.claims extension .rust = true
      · right
        refine ⟨fun _ => Rust.symbols, fun types files root => ?_⟩
        rw [extract, chosen, if_neg python, if_pos rust]
        rfl
      · by_cases java : Parser.claims extension (.java []) = true
        · right
          refine ⟨Java.symbols, fun types files root => ?_⟩
          rw [extract, chosen, if_neg python, if_neg rust, if_pos java]
          rfl
        · left
          intro types files root
          rw [extract, chosen, if_neg python, if_neg rust, if_neg java]
          rfl

/-- The same is extracted from a file that is loaded alike, provided that types and root are
the same or nothing is loaded. -/
theorem extract_congr
    (loads : Source.load otherFiles path root = Source.load files path root)
    (alike : (∃ error, Source.load files path root = .error error) ∨
      otherTypes = types ∧ otherFiles.realPath? root = files.realPath? root) :
    (standardWith otherTypes).extract otherFiles root path =
      (standardWith types).extract files root path := by
  rcases extract_standardWith path with unclaimed | ⟨symbols, extracted⟩
  · rw [unclaimed, unclaimed]
  · rw [extracted, extracted, loads]
    rcases alike with ⟨error, fails⟩ | ⟨rfl, sameRoot⟩
    · rw [fails]
      rfl
    · rw [sameRoot]

/-- A file at whose parsing a built-in parser fails cannot be loaded. -/
theorem load_of_extract {reason : String}
    (fails : (standardWith types).extract files root path = some (.error (.parse, reason))) :
    ∃ error, Source.load files path root = .error error := by
  rcases extract_standardWith path with unclaimed | ⟨symbols, extracted⟩
  · simp [unclaimed] at fails
  · rw [extracted] at fails
    cases loaded : Source.load files path root with
    | error error => exact ⟨error, rfl⟩
    | ok source =>
      rw [loaded] at fails
      dsimp only [Except.map, afterParsing] at fails
      split at fails <;> simp at fails

end Registry

/-- The same report but for some failures, out of numbers discovered that are not compared. -/
structure Report.Omits (omitted : List FileFailure) (report other : Report) : Prop where
  indexed : other.indexed = report.indexed
  skipped : other.skipped = report.skipped
  saved : other.saved = report.saved
  failed : other.failed + omitted.length = report.failed
  failures : ∃ before after, report.failures = before ++ omitted ++ after ∧
    other.failures = before ++ after

namespace Report.Omits

variable {omitted : List FileFailure} {report other : Report}

/-- Recording the same file in both keeps what is omitted. -/
theorem record (omits : report.Omits omitted other) (path : String) (outcome : FileOutcome) :
    (outcome.record path report).Omits omitted (outcome.record path other) := by
  obtain ⟨before, after, whole, without⟩ := omits.failures
  cases outcome with
  | skipped => exact ⟨omits.indexed, by simp [FileOutcome.record, omits.skipped], omits.saved,
      omits.failed, omits.failures⟩
  | indexed saved => exact ⟨by simp [FileOutcome.record, omits.indexed], omits.skipped,
      by simp [FileOutcome.record, omits.saved], omits.failed, omits.failures⟩
  | failed stage reason =>
    refine ⟨omits.indexed, omits.skipped, omits.saved, ?_, before, after ++ [⟨path, stage, reason⟩],
      ?_, ?_⟩
    · have failed := omits.failed
      simp only [FileOutcome.record]
      omega
    · simp [FileOutcome.record, whole]
    · simp [FileOutcome.record, without]

/-- Recording a failure in one of two equal reports omits it from the other. -/
theorem record_failed (omits : report.Omits [] other) (path : String) (stage : Stage)
    (reason : String) :
    ((FileOutcome.failed stage reason).record path report).Omits [⟨path, stage, reason⟩] other := by
  obtain ⟨before, after, whole, without⟩ := omits.failures
  refine ⟨omits.indexed, omits.skipped, omits.saved, ?_, before ++ after, [], ?_, ?_⟩
  · have failed := omits.failed
    simp only [List.length_nil] at failed
    simp [FileOutcome.record, ← failed]
  · simp [FileOutcome.record, whole]
  · simp [without]

end Report.Omits

/-- Saving changes no file. -/
theorem Store.files_save (store : Store) (workspace : Workspace) (symbols : List Symbol) :
    (store.save workspace symbols).1.files = workspace.files := by
  unfold Store.save
  split
  · rfl
  · split
    · rfl
    · split
      · dsimp only
        split <;> rfl
      · rfl

/-- Taking a file to the store changes no file. -/
theorem Registry.files_indexFile (registry : Registry) (store : Store) (root : String)
    (workspace : Workspace) (path : String) :
    (registry.indexFile store root workspace path).1.files = workspace.files := by
  unfold Registry.indexFile
  split
  · rfl
  · rfl
  · rename_i symbols extracted
    have saved := store.files_save workspace symbols
    split
    · rename_i after count outcome
      rwa [outcome] at saved
    · rename_i after error outcome
      rwa [outcome] at saved

/-- A run counts what it has discovered once and for all. -/
theorem Run.discovered_foldl (registry : Registry) (store : Store) (root : String)
    (paths : List String) (total : Nat) (run : Run) :
    (paths.foldl (Run.step registry store root total) run).report.discovered =
      run.report.discovered := by
  induction paths generalizing run with
  | nil => rfl
  | cons path rest hypothesis =>
    rw [List.foldl_cons, hypothesis]
    unfold Run.step
    dsimp only
    cases (registry.indexFile store root run.workspace path).2 <;> rfl

namespace Run

variable {gone : List String} {content : Content} {made files otherFiles : Files} {store : Store}
  {registry otherRegistry : Registry} {root : String} {omitted : List FileFailure}
  {run other : Run}

/-- Two runs of which one lacks a file: their workspaces differ in the file, the files are
what they were when the store was opened, and one report has some failures more. -/
structure Abreast (gone : List String) (content : Content) (made : Files) (store : Store)
    (files otherFiles : Files) (omitted : List FileFailure) (run other : Run) : Prop where
  opened : Store.Opened gone content made store run.workspace other.workspace
  files : run.workspace.files = files
  otherFiles : other.workspace.files = otherFiles
  omits : run.report.Omits omitted other.report

/-- Both take a file from which the same is extracted. -/
theorem Abreast.step (abreast : Abreast gone content made store files otherFiles omitted run other)
    {path : String}
    (same : otherRegistry.extract otherFiles root path = registry.extract files root path)
    (total otherTotal : Nat) :
    Abreast gone content made store files otherFiles omitted
      (run.step registry store root total path)
      (other.step otherRegistry store root otherTotal path) := by
  have outcomes : (otherRegistry.indexFile store root other.workspace path).2 =
        (registry.indexFile store root run.workspace path).2 ∧
      Store.Opened gone content made store
        (registry.indexFile store root run.workspace path).1
        (otherRegistry.indexFile store root other.workspace path).1 := by
    unfold Registry.indexFile
    rw [abreast.files, abreast.otherFiles, same]
    split
    · exact ⟨rfl, abreast.opened⟩
    · exact ⟨rfl, abreast.opened⟩
    · rename_i symbols extracted
      obtain ⟨answers, opened⟩ := abreast.opened.save symbols
      rcases first : store.save run.workspace symbols with ⟨after, result⟩
      rcases second : store.save other.workspace symbols with ⟨otherAfter, otherResult⟩
      rw [first, second] at answers opened
      obtain rfl : otherResult = result := answers
      cases otherResult with
      | ok saved => exact ⟨rfl, opened⟩
      | error error => exact ⟨rfl, opened⟩
  obtain ⟨outcome, opened⟩ := outcomes
  refine ⟨opened, ?_, ?_, ?_⟩
  · exact (registry.files_indexFile store root run.workspace path).trans abreast.files
  · exact (otherRegistry.files_indexFile store root other.workspace path).trans abreast.otherFiles
  · have recorded := abreast.omits.record path (registry.indexFile store root run.workspace path).2
    unfold Run.step
    dsimp only
    rw [outcome]
    exact recorded

/-- Both take several such files. -/
theorem Abreast.foldl
    (abreast : Abreast gone content made store files otherFiles omitted run other)
    {paths : List String}
    (same : ∀ path ∈ paths,
      otherRegistry.extract otherFiles root path = registry.extract files root path)
    (total otherTotal : Nat) :
    Abreast gone content made store files otherFiles omitted
      (paths.foldl (Run.step registry store root total) run)
      (paths.foldl (Run.step otherRegistry store root otherTotal) other) := by
  induction paths generalizing run other with
  | nil => exact abreast
  | cons path rest hypothesis =>
    have next := abreast.step (same path (by simp)) total otherTotal
    exact hypothesis next fun later inside => same later (by simp [inside])

/-- One takes a file that it drops before saving. -/
theorem Abreast.drop (abreast : Abreast gone content made store files otherFiles [] run other)
    {path reason : String} {stage : Stage}
    (fails : registry.extract files root path = some (.error (stage, reason))) (total : Nat) :
    Abreast gone content made store files otherFiles [⟨path, stage, reason⟩]
      (run.step registry store root total path) other := by
  have handled : registry.indexFile store root run.workspace path =
      (run.workspace, .failed stage reason) := by
    rw [Registry.indexFile, abreast.files, fails]
  unfold Run.step
  rw [handled]
  exact ⟨abreast.opened, abreast.files, abreast.otherFiles,
    abreast.omits.record_failed path stage reason⟩

/-- A file is dropped at its parsing only for what is extracted from it. -/
theorem mem_failures_step {failure : FileFailure} {path : String} {total : Nat}
    (fails : failure ∈ (run.step registry store root total path).report.failures)
    (parsing : failure.stage = .parse) :
    failure ∈ run.report.failures ∨ failure.path = path ∧
      registry.extract run.workspace.files root path =
        some (.error (.parse, failure.reason)) := by
  have recorded : ∀ stage reason,
      failure ∈ ((FileOutcome.failed stage reason).record path run.report).failures →
      failure ∈ run.report.failures ∨ failure = ⟨path, stage, reason⟩ := by
    intro stage reason inside
    simpa [FileOutcome.record] using inside
  unfold Run.step Registry.indexFile at fails
  dsimp only at fails
  cases extracted : registry.extract run.workspace.files root path with
  | none =>
    rw [extracted] at fails
    exact .inl fails
  | some result =>
    rw [extracted] at fails
    cases result with
    | error cause =>
      obtain ⟨stage, reason⟩ := cause
      rcases recorded stage reason fails with earlier | rfl
      · exact .inl earlier
      · obtain rfl : stage = .parse := parsing
        exact .inr ⟨rfl, rfl⟩
    | ok symbols =>
      dsimp only at fails
      rcases saved : store.save run.workspace symbols with ⟨after, answer⟩
      rw [saved] at fails
      cases answer with
      | ok count => exact .inl fails
      | error error =>
        rcases recorded .save error.message fails with earlier | rfl
        · exact .inl earlier
        · simp at parsing

/-- The same over several files. -/
theorem mem_failures_foldl {failure : FileFailure} {paths : List String} {total : Nat}
    (fails : failure ∈ (paths.foldl (Run.step registry store root total) run).report.failures)
    (parsing : failure.stage = .parse) :
    failure ∈ run.report.failures ∨ failure.path ∈ paths ∧
      registry.extract run.workspace.files root failure.path =
        some (.error (.parse, failure.reason)) := by
  induction paths generalizing run with
  | nil => exact .inl fails
  | cons path rest hypothesis =>
    rw [List.foldl_cons] at fails
    rcases hypothesis fails with earlier | ⟨listed, extracted⟩
    · rcases mem_failures_step earlier parsing with before | ⟨same, extracted⟩
      · exact .inl before
      · rw [← same] at extracted
        exact .inr ⟨by simp [same], extracted⟩
    · have same : (run.step registry store root total path).workspace.files =
          run.workspace.files := registry.files_indexFile store root run.workspace path
      rw [same] at extracted
      exact .inr ⟨List.mem_cons_of_mem _ listed, extracted⟩

end Run

end SymbolAtlas
