import SymbolAtlas.Proofs.Index.Abreast
import SymbolAtlas.Proofs.Index.Claiming
import SymbolAtlas.Proofs.Index.Relative

/-!
# A broken file makes no difference to the others

If a file is dropped because it cannot be parsed, the run over the project without the
file leaves the same databases and reports the same, but for the file. The file could
reach the others by three ways, and all are closed. In the crawl its path is missing
and the other paths stand as before. The store neither is the file nor leads to it, so
it is opened alike. And the types that Java files share are the same: either the file
could not be loaded for what it holds, and then it has no types for anyone; or the path
of the root no longer leads to its directory once the store is open, and then no file
is loaded and no types are used.

The path of the file may not be too long to be followed. By such a path the file cannot
be read, although a shorter path through a source directory may read it.
-/

namespace SymbolAtlas

/-- A view since directories were made and files shed has kept its directories, and has
nothing or a file where a link or a file is gone. -/
theorem Files.settles_of_sheds {files after : Files} {path : String}
    (sheds : (files.makeParent path).1.Sheds after) : Settles files.sight after.sight := by
  obtain ⟨shows, -⟩ := files.sight_makeParent path
  have linked : ∀ names target, after.sight names = some (.link target) →
      (files.makeParent path).1.sight names = some (.link target) := sheds.link
  refine ⟨?_, ?_, ?_⟩
  · intro names directory
    exact (sheds.directory names).2 (shows names _ directory)
  · intro names target link
    have before := shows names _ link
    cases look : after.sight names with
    | none => exact .inr (.inl rfl)
    | some what =>
      cases what with
      | file => exact .inr (.inr rfl)
      | directory =>
        rw [(sheds.directory names).1 look] at before
        simp at before
      | link other =>
        rw [linked names other look] at before
        exact .inl before
  · intro names isFile
    have before := shows names _ isFile
    cases look : after.sight names with
    | none => exact .inl rfl
    | some what =>
      cases what with
      | file => exact .inr rfl
      | directory =>
        rw [(sheds.directory names).1 look] at before
        simp at before
      | link other =>
        rw [linked names other look] at before
        simp at before

/-- A database that shares no file with a path has nothing to do with the file that the path
leads to. -/
theorem Workspace.spares_of_unshared {workspace : Workspace} {database path : String}
    {gone names : List String} (unshared : workspace.sharesFile database path = false)
    (leads : Leads workspace.files.sight .target Files.linkLimit workspace.files.current
      (Files.steps path) (.arrived gone))
    (isFile : workspace.files.sight gone = some .file)
    (short : ∀ name ∈ gone, name.utf8ByteSize ≤ Files.nameLimit)
    (known : workspace.databaseNames? database = some names) :
    (workspace.files.makeParent database).1.Spares gone names := by
  obtain ⟨shows, -⟩ := workspace.files.sight_makeParent database
  have held := shows gone _ isFile
  have filled : gone ≠ [] := by
    rintro rfl
    simp at isFile
  -- Making directories does not change where the path leads.
  have arrived : ((workspace.files.makeParent database).1.placeOf .target
      (Files.steps path)).verdict = .arrived gone := by
    rw [← Files.leads_iff (by simp), Files.current_makeParent]
    exact leads.arrived_before (isRooted_steps path) (fun names => shows names _)
      (fun names target => shows names _) fun _ => held
  have unled : ∀ ending ∈ databaseEndings, ((workspace.files.makeParent database).1.placeOf
      .target (wholeSteps (besideNames names ending))).verdict ≠ .arrived gone := by
    intro ending listed same
    simp only [sharesFile, known] at unshared
    rw [List.any_eq_false] at unshared
    have different := unshared ending listed
    rw [same, arrived] at different
    simp at different
  refine ⟨held, ?_, unled⟩
  rintro ending listed rfl
  apply unled ending listed
  rw [← Files.leads_iff (by simp)]
  exact .root (Files.leads_down filled short (.inl held))

namespace Indexer

variable {indexer : Indexer} {workspace opened : Workspace} {root : String}
  {classpath paths : List String} {store : Store}

/-- The state of a run after its files. -/
def runOver (registry : Registry) (store : Store) (root : String) (opened : Workspace)
    (paths : List String) : Run :=
  paths.foldl (Run.step registry store root paths.length)
    { workspace := opened, phase := .crawling, report := { discovered := paths.length } }

/-- A run whose root is crawled and whose store is open takes the files one after another and
closes the store. -/
theorem index_of_started (classpath : List String)
    (crawled : workspace.files.crawl indexer.followLinks root indexer.registry.extensions =
      .ok paths)
    (opening : Store.openAt workspace indexer.database usualChunkSize = (opened, .ok store)) :
    let run := runOver (indexer.registry.setUp workspace.files root classpath).1 store root
      opened paths
    (indexer.index workspace root classpath).1 = (store.close run.workspace).1 ∧
      ∃ progress, (indexer.index workspace root classpath).2.2 = .ok (run.report, progress) := by
  intro run
  simp only [index, crawled, opening]
  exact ⟨rfl, _, rfl⟩

/-- A run that succeeds has crawled its root and opened its store. -/
theorem started_of_ok {reported : Report × List Progress}
    (ran : (indexer.index workspace root classpath).2.2 = .ok reported) :
    ∃ paths opened store,
      workspace.files.crawl indexer.followLinks root indexer.registry.extensions = .ok paths ∧
      Store.openAt workspace indexer.database usualChunkSize = (opened, .ok store) := by
  cases crawled : workspace.files.crawl indexer.followLinks root indexer.registry.extensions with
  | error cause => simp [index, crawled] at ran
  | ok paths =>
    rcases opening : Store.openAt workspace indexer.database usualChunkSize with ⟨opened, result⟩
    cases result with
    | error cause => simp [index, crawled, opening] at ran
    | ok store => exact ⟨paths, opened, store, rfl, rfl⟩

/-- A run that drops a file stays abreast of the run that lacks it. -/
theorem runOver_abreast {registry otherRegistry : Registry} {other : Workspace}
    {gone : List String} {content : Content} {made : Files} {first second : List String}
    {path reason : String} {stage : Stage}
    (isOpened : Store.Opened gone content made store opened other)
    (fails : registry.extract opened.files root path = some (.error (stage, reason)))
    (same : ∀ next ∈ first ++ second,
      otherRegistry.extract other.files root next = registry.extract opened.files root next) :
    Run.Abreast gone content made store opened.files other.files [⟨path, stage, reason⟩]
      (runOver registry store root opened (first ++ path :: second))
      (runOver otherRegistry store root other (first ++ second)) := by
  unfold runOver
  rw [List.foldl_append, List.foldl_append, List.foldl_cons]
  refine Run.Abreast.foldl (Run.Abreast.drop (Run.Abreast.foldl ?_ ?_ _ _) fails _) ?_ _ _
  · exact ⟨isOpened, rfl, rfl, rfl, rfl, rfl, rfl, [], [], rfl, rfl⟩
  · exact fun next inside => same next (by simp [inside])
  · exact fun next inside => same next (by simp [inside])

/-- A run has discovered the files that it is over. -/
theorem discovered_runOver (registry : Registry) (store : Store) (root : String)
    (opened : Workspace) (paths : List String) :
    (runOver registry store root opened paths).report.discovered = paths.length :=
  Run.discovered_foldl registry store root paths paths.length _

end Indexer

section Isolation

open Files (writtenBelow)

variable {workspace opened other : Workspace} {root reason : String}
  {classpath extensions names below : List String} {content : Content} {lacking : Files}

/-- From every other file that was crawled the same is extracted, when a file that cannot be
parsed is missing. -/
theorem extract_of_other
    (lacks : Files.Lacks (names ++ below) content workspace.files lacking)
    (later : Files.Later (names ++ below) content workspace.files opened.files other.files)
    (tidy : workspace.files.isTidy = true) (start : workspace.files.CrawlsFrom root names)
    (usable : ∀ name ∈ below, isUsableName name = true)
    (short : (writtenBelow root below).utf8ByteSize ≤ Files.pathLimit)
    (fails : (Registry.standardWith
        (Java.TypeIndex.ofRoots workspace.files (root :: classpath))).extract opened.files root
          (writtenBelow root below) = some (.error (.parse, reason)))
    {next : List String} (found : next ∈ workspace.files.wantedBelow root extensions names)
    (different : names ++ next ≠ names ++ below) :
    (Registry.standardWith (Java.TypeIndex.ofRoots lacking (root :: classpath))).extract
        other.files root (writtenBelow root next) =
      (Registry.standardWith
        (Java.TypeIndex.ofRoots workspace.files (root :: classpath))).extract opened.files root
          (writtenBelow root next) := by
  obtain ⟨nextFile, nextUsable⟩ := Files.of_mem_wantedBelow tidy start.directory found
  have reads := later.read_eq start nextFile nextUsable different
  refine Registry.extract_congr (Source.load_congr reads root) ?_
  rcases later.intact_or_unreadable start with ⟨sameRoot, readsFile⟩ | unreadable
  · -- The file is read as it is, so it is dropped for what it holds.
    have sound := start.textError?_written usable
    rw [if_neg (Nat.not_lt.2 short)] at sound
    have held := readsFile below rfl usable sound
    have located := relativePath_writtenBelow start.nonempty (Path.isName_of_usable usable)
      (start.filled later.held)
    obtain ⟨error, unloaded⟩ := Registry.load_of_extract fails
    have unloadable := Source.unloadable_of_load held located unloaded
    exact .inr ⟨Java.TypeIndex.ofRoots_lacking lacks tidy unloadable _, sameRoot⟩
  · obtain ⟨error, unread⟩ := unreadable next nextFile nextUsable
    exact .inl ⟨_, Source.load_of_unread unread⟩

/-- One of several distinct things is left out at one place. -/
theorem exists_split_filter {belows : List (List String)} (nodup : belows.Nodup)
    (found : below ∈ belows) :
    ∃ first second, belows = first ++ below :: second ∧
      belows.filter (fun next => names ++ next ≠ names ++ below) = first ++ second := by
  obtain ⟨first, second, rfl⟩ := List.append_of_mem found
  refine ⟨first, second, rfl, ?_⟩
  rw [List.nodup_append, List.nodup_cons] at nodup
  obtain ⟨-, ⟨behind, -⟩, apart⟩ := nodup
  rw [List.filter_append, List.filter_cons_of_neg (by simp), List.filter_eq_self.2,
    List.filter_eq_self.2]
  · intro next inside
    have different : next ≠ below := by
      rintro rfl
      exact behind inside
    simpa using different
  · intro next inside
    simpa using apart next inside below (by simp)

/-- A store that shares no file with a crawled file is opened alike without the file. -/
theorem opened_without {database : String} {store : Store}
    (lacks : Files.Lacks (names ++ below) content workspace.files lacking)
    (tidy : workspace.files.isTidy = true) (start : workspace.files.CrawlsFrom root names)
    (usable : ∀ name ∈ below, isUsableName name = true)
    (housed : workspace.isHoused database = true)
    (unshared : workspace.sharesFile database (writtenBelow root below) = false)
    (opening : Store.openAt workspace database usualChunkSize = (opened, .ok store)) :
    ∃ other, Store.openAt (workspace.withFiles lacking) database usualChunkSize =
        (other, .ok store) ∧
      Store.Opened (names ++ below) content (workspace.files.makeParent database).1 store opened
        other ∧
      Files.Later (names ++ below) content workspace.files opened.files other.files := by
  have isFile := lacks.sight_gone
  have spared : ∀ home, workspace.databaseNames? database = some home →
      (workspace.files.makeParent database).1.Spares (names ++ below) home := by
    intro home known
    refine Workspace.spares_of_unshared unshared (start.leads_written isFile usable .target) isFile
      ?_ known
    intro name inside
    simp only [Files.isTidy, Bool.and_eq_true] at tidy
    exact Files.short_of_usable (isUsableName_of_entryAt tidy.2 lacks.held inside)
  have apart : Workspace.Lacks (names ++ below) content workspace (workspace.withFiles lacking) :=
    ⟨lacks, rfl, rfl⟩
  obtain ⟨reopened, isOpened⟩ := Store.opened_openAt apart housed spared (by rw [opening])
  rcases otherOpening : Store.openAt (workspace.withFiles lacking) database usualChunkSize with
    ⟨other, result⟩
  rw [otherOpening] at reopened isOpened
  rw [opening] at isOpened
  obtain rfl : result = .ok store := reopened
  refine ⟨other, rfl, isOpened, ?_, Files.settles_of_sheds isOpened.sheds, isFile,
    isOpened.lacks.files⟩
  exact isOpened.sheds.current.trans (Files.current_makeParent _ _)

/-- A file that is dropped at its parsing makes no difference to the others. It can be taken
away; and the run without it succeeds, leaves every database and every other file as the
run with it does, and reports the same except that one file less is discovered, one less
has failed, and the entry of the file is gone from the failures. -/
theorem Indexer.index_without_unparsed (indexer : Indexer) (workspace : Workspace)
    (root : String) (classpath : List String) (types : Java.TypeIndex) {report : Report}
    {progress : List Progress} {path reason : String}
    (standard : indexer.registry = Registry.standardWith types)
    (unfollowed : indexer.followLinks = false) (tidy : workspace.files.isTidy = true)
    (housed : workspace.isHoused indexer.database = true)
    (unshared : workspace.sharesFile indexer.database path = false)
    (short : path.utf8ByteSize ≤ Files.pathLimit)
    (ran : (indexer.index workspace root classpath).2.2 = .ok (report, progress))
    (dropped : ⟨path, .parse, reason⟩ ∈ report.failures) :
    ∃ names, workspace.files.removeFile path = .ok (workspace.files.bind names none) ∧
      let run := indexer.index workspace root classpath
      let rerun := indexer.index (workspace.bind names none) root classpath
      ∃ other otherProgress, rerun.2.2 = .ok (other, otherProgress) ∧
        other.discovered + 1 = report.discovered ∧
        report.Omits [⟨path, .parse, reason⟩] other ∧
        rerun.1.databases = run.1.databases ∧
        rerun.1.files = run.1.files.bind names none := by
  obtain ⟨paths, opened, store, crawled, opening⟩ := started_of_ok ran
  obtain ⟨closed, told, reported⟩ := index_of_started classpath crawled opening
  rw [standard, Registry.setUp_standardWith] at closed reported
  obtain ⟨rfl, -⟩ := Prod.mk.inj (Except.ok.inj (ran.symm.trans reported))
  rw [unfollowed] at crawled
  obtain ⟨names, start, rfl⟩ := Files.crawl_eq_ok_iff.1 crawled
  -- The file is one of those that were crawled, and what is extracted from it fails.
  obtain ⟨listed, fails⟩ : path ∈ (workspace.files.wantedBelow root
        indexer.registry.extensions names).map (writtenBelow root) ∧
      (Registry.standardWith (Java.TypeIndex.ofRoots workspace.files (root :: classpath))).extract
        opened.files root path = some (.error (.parse, reason)) := by
    rcases Run.mem_failures_foldl dropped rfl with none | found
    · simp at none
    · exact found
  obtain ⟨below, found, rfl⟩ := List.mem_map.1 listed
  obtain ⟨isFile, usable⟩ := Files.of_mem_wantedBelow tidy start.directory found
  obtain ⟨content, held⟩ := sightAt_eq_file.1 isFile
  have distinct : isDistinctAmong workspace.files.entries = true := by
    simp only [Files.isTidy, Bool.and_eq_true] at tidy
    exact tidy.1
  have lacks : Files.Lacks (names ++ below) content workspace.files
      (workspace.files.bind (names ++ below) none) := ⟨held, distinct, rfl⟩
  refine ⟨names ++ below, start.removeFile_written isFile usable short, ?_⟩
  obtain ⟨other, otherOpening, isOpened, later⟩ :=
    opened_without lacks tidy start usable housed unshared opening
  -- The other files are crawled alike, and the same is extracted from them.
  have others := lacks.crawl_eq_ok start indexer.registry.extensions
  obtain ⟨first, second, split, kept⟩ := @exists_split_filter names _ _
    (Files.nodup_wantedBelow tidy start.directory) found
  have same : ∀ next ∈ first.map (writtenBelow root) ++ second.map (writtenBelow root),
      (Registry.standardWith (Java.TypeIndex.ofRoots
        (workspace.files.bind (names ++ below) none) (root :: classpath))).extract other.files
          root next =
      (Registry.standardWith (Java.TypeIndex.ofRoots workspace.files
        (root :: classpath))).extract opened.files root next := by
    intro next inside
    rw [← List.map_append, ← kept] at inside
    obtain ⟨further, remains, rfl⟩ := List.mem_map.1 inside
    obtain ⟨wanted, different⟩ := List.mem_filter.1 remains
    exact extract_of_other lacks later tidy start usable short fails wanted
      (of_decide_eq_true different)
  rw [kept, List.map_append, ← unfollowed] at others
  obtain ⟨otherClosed, otherTold, otherReported⟩ := index_of_started classpath others otherOpening
  rw [standard, Registry.setUp_standardWith] at otherClosed otherReported
  have abreast := runOver_abreast isOpened fails same
  have apart := abreast.opened.close
  dsimp only
  rw [closed, split, List.map_append, List.map_cons]
  refine ⟨_, otherTold, otherReported, ?_, abreast.omits, ?_, ?_⟩
  · rw [discovered_runOver, discovered_runOver]
    simp only [List.length_append, List.length_cons]
    omega
  · exact (congrArg Workspace.databases otherClosed).trans apart.databases
  · exact (congrArg Workspace.files otherClosed).trans apart.files.same

end Isolation

/-- The syntax tree of a class that extends another one and sets a field to a field of it. -/
def subclassTree : Tree :=
  let node := fun rule fields start stop children =>
    Tree.node { rule := rule, fields := fields, start := start, stop := stop } children
  let token := fun rule start stop =>
    Tree.node { rule := rule, named := false, start := start, stop := stop } []
  node "program" [] 0 27
    [ node "class_declaration" [] 0 27
        [ token "class" 0 5
        , node "identifier" ["name"] 6 7 []
        , node "superclass" ["superclass"] 8 17
            [token "extends" 8 15, node "type_identifier" [] 16 17 []]
        , node "class_body" ["body"] 17 27
            [ token "\x7b" 17 18
            , node "field_declaration" [] 18 26
                [ node "integral_type" ["type"] 18 21 [token "int" 18 21]
                , node "variable_declarator" [] 22 25
                    [ node "identifier" ["name"] 22 23 []
                    , token "=" 23 24
                    , node "identifier" ["value"] 24 25 [] ]
                , token ";" 25 26 ]
            , token "\x7d" 26 27 ] ] ]

/-- A project in which the file of the class that is extended is broken, with the project
itself as a source directory and with a database that has a row: without the file only
its failure is missing. -/
theorem Indexer.index_without_unparsed_superclass :
    let symbol : Symbol := { name := "a", kind := .field, filePath := "a.py", line := 1 }
    let broken := Tree.node { rule := "program", hasError := true } []
    let files : Files :=
      { entries :=
          [ ("p", .directory
              [ ("AA.java", .file (.text "class A\x7b" (some broken)))
              , ("B.java", .file (.text "class B extends A\x7bint j=i;\x7d" (some subclassTree))) ])
          , ("t.db", .file (.database 0)) ] }
    let workspace : Workspace :=
      { files := files
        databases := [{ rows := some [.ofSymbol symbol], home := some ["t.db"] }] }
    let indexer : Indexer := { database := "t.db", registry := Registry.standard }
    let run := indexer.index workspace "p" ["p"]
    let rerun := indexer.index (workspace.bind ["p", "AA.java"] none) "p" ["p"]
    ∃ report progress other otherProgress,
      run.2.2 = .ok (report, progress) ∧ rerun.2.2 = .ok (other, otherProgress) ∧
      report.failures = [⟨"p/AA.java", .parse, "syntax error in p/AA.java at line 1"⟩] ∧
      report.discovered = 2 ∧ report.saved = 2 ∧
      other.failures = [] ∧ other.discovered = 1 ∧ other.saved = 2 ∧
      rerun.1.databases = run.1.databases := by
  intro symbol broken files workspace indexer run rerun
  have crawled : workspace.files.crawl false "p" indexer.registry.extensions =
      .ok ["p/AA.java", "p/B.java"] := by
    rw [show indexer.registry.extensions = _ from Registry.extensions_standard]
    exact Files.crawl_of_ordered rfl rfl (by decide +kernel) (by decide +kernel)
  have java : files.crawl false "p" ["java"] = .ok ["p/AA.java", "p/B.java"] :=
    Files.crawl_of_ordered rfl rfl (by decide +kernel) (by decide +kernel)
  have types : Java.TypeIndex.ofRoots files ["p", "p"] =
      ["p/AA.java", "p/B.java", "p/AA.java", "p/B.java"].foldl
        (Java.TypeIndex.addPath files "p") [] := by
    simp only [Java.TypeIndex.ofRoots, List.foldl_cons, List.foldl_nil, Java.TypeIndex.addRoot,
      java]
  let store : Store := { number := 0, path := some "t.db" }
  have opening : Store.openAt workspace "t.db" usualChunkSize =
    ((Store.openAt workspace "t.db" usualChunkSize).1, .ok store) := rfl
  obtain ⟨-, progress, ran⟩ := @index_of_started indexer workspace _ "p" _ store ["p"] crawled
    opening
  have registry : (indexer.registry.setUp workspace.files "p" ["p"]).1 =
      Registry.standardWith (["p/AA.java", "p/B.java", "p/AA.java", "p/B.java"].foldl
        (Java.TypeIndex.addPath files "p") []) := by
    rw [← types]
    rfl
  rw [registry] at ran
  obtain ⟨report, made⟩ : ∃ report, report = (runOver (Registry.standardWith
      (["p/AA.java", "p/B.java", "p/AA.java", "p/B.java"].foldl
        (Java.TypeIndex.addPath files "p") [])) store "p"
      (Store.openAt workspace "t.db" usualChunkSize).1 ["p/AA.java", "p/B.java"]).report :=
    ⟨_, rfl⟩
  rw [← made] at ran
  have facts : report.failures = [⟨"p/AA.java", .parse, "syntax error in p/AA.java at line 1"⟩] ∧
      report.discovered = 2 ∧ report.saved = 2 := by
    rw [made]
    decide +kernel
  obtain ⟨failures, found, saved⟩ := facts
  obtain ⟨names, removed, other, otherProgress, reran, discovered, omits, databases, -⟩ :=
    @index_without_unparsed indexer workspace "p" ["p"] [] _ _ "p/AA.java"
      "syntax error in p/AA.java at line 1" rfl rfl (by decide +kernel) (by decide +kernel)
      (by decide +kernel) (by decide) ran (by simp [failures])
  have same : workspace.bind names none = workspace.bind ["p", "AA.java"] none := by
    have here : workspace.files.removeFile "p/AA.java" =
      .ok (workspace.files.bind ["p", "AA.java"] none) := rfl
    rw [Workspace.bind, Workspace.bind, Except.ok.inj (removed.symm.trans here)]
  rw [same] at reran databases
  refine ⟨report, progress, other, otherProgress, ran, reran, failures, found, saved, ?_, ?_, ?_,
    databases⟩
  · obtain ⟨before, after, whole, rest⟩ := omits.failures
    have one := congrArg List.length whole
    rw [failures] at one
    simp only [List.length_append, List.length_singleton] at one
    rw [rest]
    apply List.eq_nil_of_length_eq_zero
    rw [List.length_append]
    omega
  · omega
  · rw [omits.saved, saved]

open Files (writtenBelow)

/-- A file with the extension of Java is taken by the parser for Java. -/
theorem Registry.extract_of_java {types : Java.TypeIndex} {files : Files} {root path : String}
    (extended : Path.extension? path = some "java") :
    (standardWith types).extract files root path =
      some (afterParsing root (files.realPath? root)
        ((Source.load files path root).map (Java.symbols types))) := by
  have chosen : (standardWith types).parserFor? path = some (.java types) := by
    rw [parserFor?, extended]
    rfl
  rw [extract, chosen]
  rfl

/-- A Java file whose symbols have paths in the form that is stored is indexed with as many as
are saved. -/
theorem Registry.indexFile_of_java {types : Java.TypeIndex} {workspace : Workspace}
    {store : Store} {root path : String} {source : Source} {count : Nat}
    (extended : Path.extension? path = some "java")
    (loaded : Source.load workspace.files path root = .ok source)
    (normal : (Java.symbols types source).all (fun symbol => isNormalPath symbol.filePath) = true)
    (saved : (store.save workspace (Java.symbols types source)).2 = .ok count) :
    ((standardWith types).indexFile store root workspace path).2 = .indexed count := by
  have extracted : (standardWith types).extract workspace.files root path =
      some (.ok (Java.symbols types source)) := by
    rw [extract_of_java extended, loaded]
    simp [Except.map, afterParsing, normalSymbols_of_normal normal]
  rw [indexFile, extracted]
  dsimp only
  rcases outcome : store.save workspace (Java.symbols types source) with ⟨after, result⟩
  rw [outcome] at saved
  obtain rfl : result = .ok count := saved
  rfl

/-- The syntax tree of the class that is extended. -/
def superclassTree : Tree :=
  let node := fun rule fields start stop children =>
    Tree.node { rule := rule, fields := fields, start := start, stop := stop } children
  let token := fun rule start stop =>
    Tree.node { rule := rule, named := false, start := start, stop := stop } []
  node "program" [] 0 15
    [ node "class_declaration" [] 0 15
        [ token "class" 0 5
        , node "identifier" ["name"] 6 7 []
        , node "class_body" ["body"] 7 15
            [ token "\x7b" 7 8
            , node "field_declaration" [] 8 14
                [ node "integral_type" ["type"] 8 11 [token "int" 8 11]
                , node "variable_declarator" [] 12 13 [node "identifier" ["name"] 12 13 []]
                , token ";" 13 14 ]
            , token "\x7d" 14 15 ] ] ]

/-- A project with the class, and with the class that it extends or without it. -/
def classProject (whole : Bool) : Workspace :=
  let subclass :=
    ("B.java", Entry.file (.text "class B extends A\x7bint j=i;\x7d" (some subclassTree)))
  let superclass := ("AA.java", Entry.file (.text "class A\x7bint i;\x7d" (some superclassTree)))
  { files :=
      { entries := [("p", .directory (if whole then [superclass, subclass] else [subclass]))] } }

/-- The class as it is loaded. -/
def subclassSource : Source where
  relative := "B.java"
  text := "class B extends A\x7bint j=i;\x7d".toList
  tree := subclassTree

/-- The types that are seen when the class has been seen and the project is gone through by
its plain path. -/
def classTypes (whole : Bool) : Java.TypeIndex :=
  (if whole then ["p/AA.java", "p/B.java"] else ["p/B.java"]).foldl
    (Java.TypeIndex.addPath (classProject whole).files "p")
    (Java.TypeIndex.addFile [] subclassSource)

/-- What indexes the project into memory. -/
def classIndexer : Indexer := { database := ":memory:", registry := Registry.standard }

section ClassProject

variable {root : String} {whole : Bool}

/-- What is crawled in the project. -/
theorem crawl_classProject (start : (classProject whole).files.CrawlsFrom root ["p"])
    {extensions : List String}
    (java : extensions = ["java"] ∨ extensions = ["java", "py", "rs"]) :
    (classProject whole).files.crawl false root extensions =
      .ok ((if whole then [["AA.java"], ["B.java"]] else [["B.java"]]).map
        (writtenBelow root)) := by
  have tidy : (classProject whole).files.isTidy = true := by
    cases whole <;> decide +kernel
  have plain : (classProject whole).files.CrawlsFrom "p" ["p"] := by
    cases whole <;> exact ⟨rfl, (Files.place_eq_present_iff.1 rfl).2.1, rfl, List.not_mem_nil⟩
  obtain ⟨entry, there, listed⟩ : ∃ entry,
      entryAt ["p"] (classProject whole).files.entries = some entry ∧
      entry.filesBelow = if whole then [["AA.java"], ["B.java"]] else [["B.java"]] := by
    cases whole <;>
      exact ⟨_, rfl, (filesBelow_directory_of_ordered (by decide +kernel)).trans rfl⟩
  have alike : ∀ other, entryAt ["p"] (classProject whole).files.entries = some other →
      ∀ below ∈ other.filesBelow, Files.isReached root below = Files.isReached "p" below := by
    intro other same below inside
    obtain rfl := Option.some.inj (there.symm.trans same)
    obtain ⟨name, rfl⟩ : ∃ name, below = [name] := by
      rw [listed] at inside
      cases whole with
      | false => exact ⟨_, List.mem_singleton.1 inside⟩
      | true =>
        rcases List.mem_cons.1 inside with same | later
        · exact ⟨_, same⟩
        · exact ⟨_, List.mem_singleton.1 later⟩
    rw [start.isReached_singleton, plain.isReached_singleton]
  refine Files.crawl_eq_ok_iff.2 ⟨["p"], start, ?_⟩
  rw [@Files.wantedBelow_congr _ _ "p" _ tidy start.directory start.nonempty (by decide) alike]
  congr 1
  rw [Files.wantedBelow, there]
  dsimp only
  rw [listed]
  cases whole <;> rcases java with rfl | rfl <;> decide +kernel

/-- The class can be loaded by a root that leaves room for its name. -/
theorem load_subclass (start : (classProject whole).files.CrawlsFrom root ["p"])
    (fits : (writtenBelow root ["B.java"]).utf8ByteSize ≤ Files.pathLimit) :
    Source.load (classProject whole).files (writtenBelow root ["B.java"]) root =
      .ok subclassSource := by
  refine Source.load_written start ?_ (by decide) fits rfl
  cases whole <;> rfl

/-- The class that it extends cannot be loaded by a root that leaves no room for its name. -/
theorem load_superclass (start : (classProject whole).files.CrawlsFrom root ["p"])
    (exceeds : Files.pathLimit < (writtenBelow root ["AA.java"]).utf8ByteSize) :
    Source.load (classProject whole).files (writtenBelow root ["AA.java"]) root =
      .error (.unreadable (writtenBelow root ["AA.java"]) FileError.nameTooLong.message) := by
  have usable : ∀ name ∈ ["AA.java"], isUsableName name = true := by decide
  have long := start.textError?_written usable
  rw [if_pos exceeds] at long
  exact Source.load_of_unread (Files.read_of_textError long)

/-- By such a root only the class is seen; the other comes with the plain path. -/
theorem ofRoots_classProject (start : (classProject whole).files.CrawlsFrom root ["p"])
    (fits : (writtenBelow root ["B.java"]).utf8ByteSize ≤ Files.pathLimit)
    (exceeds : Files.pathLimit < (writtenBelow root ["AA.java"]).utf8ByteSize) :
    Java.TypeIndex.ofRoots (classProject whole).files [root, "p"] = classTypes whole := by
  have first : Java.TypeIndex.addRoot (classProject whole).files [] root =
      Java.TypeIndex.addFile [] subclassSource := by
    have loaded := load_subclass start fits
    have unloaded := load_superclass start exceeds
    rw [Java.TypeIndex.addRoot, crawl_classProject start (.inl rfl)]
    cases whole <;> simp [Java.TypeIndex.addPath, loaded, unloaded]
  have second : (classProject whole).files.crawl false "p" ["java"] =
      .ok (if whole then ["p/AA.java", "p/B.java"] else ["p/B.java"]) := by
    cases whole <;> exact Files.crawl_of_ordered rfl rfl (by decide +kernel) (by decide +kernel)
  rw [Java.TypeIndex.ofRoots, List.foldl_cons, List.foldl_cons, List.foldl_nil, first,
    Java.TypeIndex.addRoot, second]
  rfl

/-- A run over the project by such a root saves one symbol less without the class that is
extended, although it has dropped the file of that class. -/
theorem index_classProject (start : (classProject whole).files.CrawlsFrom root ["p"])
    (fits : (writtenBelow root ["B.java"]).utf8ByteSize ≤ Files.pathLimit)
    (exceeds : Files.pathLimit < (writtenBelow root ["AA.java"]).utf8ByteSize) :
    ∃ report progress,
      (classIndexer.index (classProject whole) root ["p"]).2.2 = .ok (report, progress) ∧
      report.saved = (if whole then 3 else 2) ∧
      report.failures = if whole then [⟨writtenBelow root ["AA.java"], .parse,
        (ParseError.unreadable (writtenBelow root ["AA.java"])
          FileError.nameTooLong.message).message⟩] else [] := by
  have crawled := crawl_classProject start (.inr Registry.extensions_standard)
  let store : Store := { number := 0, path := some ":memory:", recalls := true }
  let opened := (Store.openAt (classProject whole) ":memory:" usualChunkSize).1
  have opening : Store.openAt (classProject whole) classIndexer.database usualChunkSize =
      (opened, .ok store) := by
    cases whole <;> rfl
  have sameFiles : opened.files = (classProject whole).files := by
    cases whole <;> rfl
  obtain ⟨-, progress, reported⟩ :=
    @Indexer.index_of_started classIndexer _ _ _ _ _ ["p"] crawled opening
  have registry : (classIndexer.registry.setUp (classProject whole).files root ["p"]).1 =
      Registry.standardWith (classTypes whole) := by
    rw [← ofRoots_classProject start fits exceeds]
    rfl
  rw [registry] at reported
  have extension : ∀ name, Path.IsName name →
      Path.fileName? (writtenBelow root [name]) = some name := by
    intro name isName
    exact Path.fileName?_writtenBelow start.nonempty (by simpa using isName) (by simp)
  have loaded := load_subclass start fits
  rw [← sameFiles] at loaded
  have indexed : ((Registry.standardWith (classTypes whole)).indexFile store root opened
      (writtenBelow root ["B.java"])).2 = .indexed (if whole then 3 else 2) := by
    refine Registry.indexFile_of_java ?_ loaded ?_ ?_
    · rw [Path.extension?, extension _ (by decide)]
      rfl
    · cases whole <;> decide +kernel
    · cases whole <;> decide +kernel
  refine ⟨_, progress, reported, ?_⟩
  cases whole with
  | false =>
    simp [Indexer.runOver, Run.step, indexed, FileOutcome.record]
  | true =>
    have dropped : (Registry.standardWith (classTypes true)).indexFile store root opened
        (writtenBelow root ["AA.java"]) = (opened, .failed .parse
          (ParseError.unreadable (writtenBelow root ["AA.java"])
            FileError.nameTooLong.message).message) := by
      have extended : Path.extension? (writtenBelow root ["AA.java"]) = some "java" := by
        rw [Path.extension?, extension _ (by decide)]
        rfl
      rw [Registry.indexFile, sameFiles, Registry.extract_of_java extended,
        load_superclass start exceeds]
      rfl
    simp [Indexer.runOver, Run.step, dropped, indexed, FileOutcome.record]

end ClassProject

/-- A crawl that follows links lists what is below its root once the links are replaced. Two
steps down are always made. -/
theorem Files.crawl_of_expanded {files : Files} {root : String} {names : List String}
    {entries : List (String × Entry)} {walked : Entry} {extensions : List String}
    (there : files.place root = .present names (.directory entries))
    (listed : files.unlisted.contains names = false)
    (expanded : ∀ depth, files.expand (depth + 2) [] names root (.directory entries) = walked) :
    files.crawl true root extensions =
      .ok (((walked.filesBelow.filter (isReached root)).map (writtenBelow root)).filter
        (hasExtension extensions)) := by
  obtain ⟨depth, deep⟩ : ∃ depth,
      2 * (sizeAmong files.entries + 1) * (sizeAmong files.entries + 1) = depth + 2 := by
    refine Nat.exists_eq_add_of_le' ?_
    rw [Nat.mul_assoc]
    exact Nat.le_mul_of_pos_right 2 (Nat.mul_pos (Nat.succ_pos _) (Nat.succ_pos _))
  rw [crawl, there]
  dsimp only
  rw [listed, if_neg Bool.false_ne_true, if_pos rfl, deep, expanded]
  rfl

/-- A dropped file can make a difference in two ways. A root may be written so long that one
file below it cannot be read by its path, and yet is read through a source directory that
is written shorter: then its types are seen, and without the file a use of them is no longer
saved. And where links are followed, a file is crawled again by every link to it: then more
than one file less is discovered without it. -/
theorem Indexer.index_needs_dropped_file :
    (let root := Files.separated "p" 4088
      let path := writtenBelow root ["AA.java"]
      ∃ report progress other otherProgress,
        (classIndexer.index (classProject true) root ["p"]).2.2 = .ok (report, progress) ∧
        ⟨path, .parse, (ParseError.unreadable path FileError.nameTooLong.message).message⟩ ∈
          report.failures ∧
        (classProject true).files.removeFile "p/AA.java" = .ok (classProject false).files ∧
        (classIndexer.index (classProject false) root ["p"]).2.2 = .ok (other, otherProgress) ∧
        other.saved ≠ report.saved) ∧
    (let indexer := { classIndexer with followLinks := true }
      let workspace : Workspace :=
        { files := { entries :=
            [("p", .directory [("a.py", .file (.bytes [255])), ("b.py", .link "a.py")])] } }
      let without := workspace.bind ["p", "a.py"] none
      ∃ report progress other otherProgress,
        (indexer.index workspace "p" []).2.2 = .ok (report, progress) ∧
        ⟨"p/a.py", .parse, (ParseError.unreadable "p/a.py" FileError.invalidText.message).message⟩ ∈
          report.failures ∧
        workspace.files.removeFile "p/a.py" = .ok without.files ∧
        (indexer.index without "p" []).2.2 = .ok (other, otherProgress) ∧
        other.discovered + 1 ≠ report.discovered) := by
  refine ⟨?_, ?_⟩
  · intro root path
    have start : ∀ whole, (classProject whole).files.CrawlsFrom root ["p"] := by
      intro whole
      have plain : (classProject whole).files.CrawlsFrom "p" ["p"] := by
        cases whole <;> exact ⟨rfl, (Files.place_eq_present_iff.1 rfl).2.1, rfl, List.not_mem_nil⟩
      exact plain.separated (by decide)
    have size : ∀ name, (writtenBelow root [name]).utf8ByteSize = 4089 + name.utf8ByteSize := by
      intro name
      have one : "p".utf8ByteSize = 1 := rfl
      rw [writtenBelow, List.foldl_cons, List.foldl_nil, Files.utf8ByteSize_join_separated, one]
    have fits : (writtenBelow root ["B.java"]).utf8ByteSize ≤ Files.pathLimit := by
      rw [size]
      decide
    have exceeds : Files.pathLimit < (writtenBelow root ["AA.java"]).utf8ByteSize := by
      rw [size]
      decide
    obtain ⟨report, progress, reported, saved, failures⟩ :=
      index_classProject (start true) fits exceeds
    obtain ⟨other, otherProgress, otherReported, otherSaved, -⟩ :=
      index_classProject (start false) fits exceeds
    refine ⟨report, progress, other, otherProgress, reported, ?_, rfl, otherReported, ?_⟩
    · rw [failures]
      simp [path]
    · rw [saved, otherSaved]
      decide
  · intro indexer workspace without
    let store : Store := { number := 0, path := some ":memory:", recalls := true }
    have joined : Path.join "p" "b.py" = "p/b.py" := by decide +kernel
    have crawled : workspace.files.crawl true "p" indexer.registry.extensions =
        .ok ["p/a.py", "p/b.py"] := by
      have leads : workspace.files.place "p/b.py" =
        .present ["p", "a.py"] (.file (.bytes [255])) := rfl
      have expanded : ∀ depth, workspace.files.expand (depth + 2) [] ["p"] "p"
            (.directory [("a.py", .file (.bytes [255])), ("b.py", .link "a.py")]) =
          .directory [("a.py", .file (.bytes [255])), ("b.py", .file (.bytes [255]))] := by
        intro depth
        have listed : workspace.files.unlisted.contains ["p"] = false := rfl
        simp only [Files.expand, listed, Bool.false_eq_true, if_false, List.map_cons,
          List.map_nil, joined, leads]
      rw [Files.crawl_of_expanded rfl rfl expanded,
        show indexer.registry.extensions = _ from Registry.extensions_standard,
        filesBelow_directory_of_ordered (by decide +kernel)]
      exact congrArg Except.ok (by decide +kernel)
    have otherCrawled : without.files.crawl true "p" indexer.registry.extensions = .ok [] := by
      have missing : without.files.place "p/b.py" = .absent ["p"] "a.py" := rfl
      have expanded : ∀ depth, without.files.expand (depth + 2) [] ["p"] "p"
            (.directory [("b.py", .link "a.py")]) = .directory [("b.py", .link "a.py")] := by
        intro depth
        have listed : without.files.unlisted.contains ["p"] = false := rfl
        simp only [Files.expand, listed, Bool.false_eq_true, if_false, List.map_cons,
          List.map_nil, joined, missing]
      rw [Files.crawl_of_expanded rfl rfl expanded,
        filesBelow_directory_of_ordered (by decide +kernel)]
      rfl
    have opening : Store.openAt workspace ":memory:" usualChunkSize =
      ((Store.openAt workspace ":memory:" usualChunkSize).1, .ok store) := rfl
    have otherOpening : Store.openAt without ":memory:" usualChunkSize =
      ((Store.openAt without ":memory:" usualChunkSize).1, .ok store) := rfl
    obtain ⟨-, progress, reported⟩ :=
      @index_of_started indexer workspace _ "p" _ store [] crawled opening
    obtain ⟨-, otherProgress, otherReported⟩ :=
      @index_of_started indexer without _ "p" _ store [] otherCrawled otherOpening
    refine ⟨_, progress, _, otherProgress, reported, ?_, rfl, otherReported, ?_⟩
    · decide +kernel
    · rw [discovered_runOver, discovered_runOver]
      decide

end SymbolAtlas
