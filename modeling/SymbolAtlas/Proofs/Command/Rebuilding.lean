import SymbolAtlas.Proofs.Command.InvalidRoot
import SymbolAtlas.Proofs.Index.Isolation
import SymbolAtlas.Proofs.Index.Sources
import SymbolAtlas.Proofs.Store.Housing

/-!
# Rebuilding an index and adding to it

Indexing adds rows and never takes any away, so every further run over a project adds
the rows of the project once more. A fresh run takes the old database away before it
starts, and what it leaves does not depend on what was there: the rows of the project,
as a run into a database that was not there leaves them.

This needs that the old database is taken away. The file system is asked for the files
to be taken away by the text of the database path, and the store reads the same text by
other rules: as an address with options, with double dots that need no directory, with
separators at the end that count for nothing. Where the file system does not find what
the store finds, nothing is taken away and the old rows stay.
-/

namespace SymbolAtlas

/-- Whether the tree of a root is around some names. -/
def Files.surrounds (files : Files) (root : String) (names : List String) : Bool :=
  match files.treeAt? root with
  | some (around, _) => around.isPrefixOf names
  | none => false

/-- A tree that surrounds nothing of some names does not begin them. -/
theorem Files.not_isPrefix_of_surrounds {files : Files} {root : String} {names : List String}
    {tree : List String × List (String × Entry) × List (List String)}
    (outside : files.surrounds root names = false)
    (there : files.treeAt? root = some tree) : ¬ tree.1 <+: names := by
  intro begins
  rw [surrounds, there] at outside
  simp only at outside
  rw [List.isPrefixOf_iff_prefix.2 begins] at outside
  simp at outside

/-- Whether a path leads to something, and to the file system names what is at some names. -/
def Files.namesAt (files : Files) (path : String) (names : List String) : Bool :=
  files.holds path &&
    match (files.findEntry path).1 with
    | .present found _ => found == names
    | _ => false

/-- Nothing is at some names once a path and further ones have been taken away, if the path named
what was there. -/
theorem removeAll_vacates {files left : Files} {path : String} {rest names : List String}
    (distinct : isDistinctAmong files.entries = true)
    (removed : removeAll files (path :: rest) = (left, .ok ()))
    (named : files.sight names ≠ none → files.namesAt path names = true) :
    left.sight names = none := by
  by_contra seen
  obtain ⟨look, there⟩ := Option.ne_none_iff_exists'.1 seen
  have before := (removeAll_thins distinct removed).1.seen names look there
  have reached := named (by simp [before])
  rw [Files.namesAt, Bool.and_eq_true] at reached
  obtain ⟨held, found⟩ := reached
  rw [removeAll, if_pos held] at removed
  cases first : files.removeFile path with
  | error error => simp [first] at removed
  | ok middle =>
    rw [first] at removed
    obtain ⟨place, entry, arrival, -, admits, rfl⟩ := Files.removeFile_cases first
    obtain rfl : place = names := by simpa [arrival] using found
    -- The first removal takes the entry away, and the others put nothing there.
    have gone : (files.bind place none).sight place = none := by
      rw [Files.sight_bind distinct admits (by simp), if_pos rfl]
      rfl
    have distinctLater : isDistinctAmong (files.bind place none).entries = true :=
      Files.isDistinctAmong_bind_plain distinct (.inl rfl)
    have still := (removeAll_thins distinctLater removed).1.seen place look there
    rw [gone] at still
    simp at still

namespace Workspace

variable {home : List String} {origin workspace : Workspace} {number : Nat} {rows : List Row}
  {root : String}

/-- The rows in the table of the database that the file at some names holds. -/
def tableAt? (workspace : Workspace) (names : List String) : Option (List Row) :=
  match workspace.entry? names with
  | some (.file content) =>
    (workspace.numberIn? content).bind fun number => (workspace.database number).rows
  | _ => none

/-- A housed database has its rows there. -/
theorem Houses.tableAt? (houses : Houses home origin number rows workspace) :
    workspace.tableAt? home = some rows := by
  have there : workspace.entry? home = some (.file (.database number)) := houses.held
  simp [Workspace.tableAt?, there, numberIn?, houses.rows]

/-- While a database is housed outside of a tree, the tree stays as it is. -/
theorem Houses.treeAt? (houses : Houses home origin number rows workspace)
    (outside : origin.files.surrounds root home = false) :
    workspace.files.treeAt? root = origin.files.treeAt? root := by
  apply houses.site.refiles.treeAt? houses.unlinked
  intro ⟨names, entries, hidden⟩ there place listed
  obtain ⟨start, -⟩ := Files.treeAt?_eq_some_iff.1 there
  apply not_isPrefix_of_mem_databasePlaces houses.site.nonempty listed
  · exact Files.not_isPrefix_of_surrounds outside there
  · rintro rfl
    exact houses.free names listed ((houses.site.refiles.directory names).2 start.directory)

/-- The workspace that a database is made in: its path has a directory, and no link stands in the
place of one of its files. -/
def readied (workspace : Workspace) (database : String) (home : List String) : Workspace :=
  (workspace.withFiles (workspace.files.makeParent database).1).withoutLinks home

/-- A path stands for a database that is apart from the trees of some roots: where the database
is made, the path has its directory and leads there still, and the trees are as they were and
not around it. -/
structure SetsApart (database : String) (home : List String) (roots : List String)
    (workspace : Workspace) : Prop where
  named : workspace.databaseNames? database = some home
  parent : (workspace.readied database home).files.makeParent database =
    ((workspace.readied database home).files, .ok ())
  still : (workspace.readied database home).databaseNames? database = some home
  trees : ∀ root ∈ roots,
    (workspace.readied database home).files.treeAt? root = workspace.files.treeAt? root
  outside : ∀ root ∈ roots, (workspace.readied database home).files.surrounds root home = false

/-- A path of a single name stands for a database that is apart, when no link stands in the place
of one of its files and no tree is around it. -/
theorem setsApart_of_single {database : String} {roots : List String}
    (single : Path.parent? database = some [])
    (named : workspace.databaseNames? database = some home)
    (unlinked : ∀ place ∈ databasePlaces home, ¬ workspace.hasLink place = true)
    (outside : ∀ root ∈ roots, workspace.files.surrounds root home = false) :
    workspace.SetsApart database home roots := by
  have kept : workspace.files.makeParent database = (workspace.files, .ok ()) := by
    rw [Files.makeParent, single]
    rfl
  have same : workspace.readied database home = workspace := by
    have bare : workspace.files.unlink (databasePlaces home) = workspace.files :=
      Files.unlink_of_unlinked fun place listed => Store.sight_ne_link (unlinked place listed)
    rw [readied, kept]
    exact congrArg workspace.withFiles bare
  constructor
  · exact named
  · rw [same]
    exact kept
  · rw [same]
    exact named
  · intro root _
    rw [same]
  · rw [same]
    exact outside

end Workspace

section Runs

variable {project database : String} {classpath : List String} {files : Files}
  {home : List String} {origin workspace : Workspace} {number : Nat} {before rows : List Row}

/-- The indexer of a command. -/
def standardIndexer (database : String) : Indexer where
  database := database
  registry := Registry.standard

/-- A run adds the rows of the project behind those that are there, provided that it finds the
trees of some files, and still does so once its store is open. -/
theorem houses_index_of_serves {opened : Workspace} {store : Store} {paths : List String}
    (tidy : files.isTidy = true)
    (same : ∀ root ∈ project :: classpath, workspace.files.treeAt? root = files.treeAt? root)
    (still : opened.files.treeAt? project = files.treeAt? project)
    (crawled : workspace.files.crawl (standardIndexer database).followLinks project
      (standardIndexer database).registry.extensions = .ok paths)
    (opening : Store.openAt workspace (standardIndexer database).database usualChunkSize =
      (opened, .ok store))
    (serves : Store.Serves home origin before store opened) :
    ∃ rows, projectRows? files project classpath = some rows ∧
      Workspace.Houses home origin store.number (before ++ rows)
        ((standardIndexer database).index workspace project classpath).1 := by
  have houses := serves.houses
  have skipsNone : (opened.database store.number).SkipsNone := by
    simp [Database.SkipsNone, houses.guards]
  obtain ⟨run, accounts, closed, -⟩ :=
    Indexer.index_of_opened classpath skipsNone crawled opening
  have types : ((standardIndexer database).registry.setUp workspace.files project classpath).1 =
      Registry.standardWith (Java.TypeIndex.ofRoots files (project :: classpath)) := by
    rw [← Java.TypeIndex.ofRoots_congr tidy same]
    exact Registry.setUp_standardWith workspace.files project classpath
  have crawledFiles : files.crawl false project Registry.standard.extensions = .ok paths := by
    refine Files.crawl_of_same_tree (same project (by simp)).symm ?_
    exact crawled
  have present : (opened.database store.number).rows.isSome = true := by simp [houses.rows]
  rw [closed, accounts.workspace, types, Registry.rows_eq_soundRows serves.isOpen serves.writable
    present houses.unlocked houses.guards, soundRows_crawled tidy still crawledFiles]
  refine ⟨_, ?_, (houses.appendRows _).close⟩
  simp only [projectRows?, crawledFiles]

/-- A run into a database that is not there leaves the rows of the project, and its path goes on
to lead there. -/
theorem houses_index_vacant (tidy : files.isTidy = true)
    (same : ∀ root ∈ project :: classpath, workspace.files.treeAt? root = files.treeAt? root)
    (apart : workspace.SetsApart database home (project :: classpath))
    (unseen : workspace.files.sight home = none)
    (distinct : isDistinctAmong workspace.files.entries = true)
    {reported : Report × List Progress}
    (ran : ((standardIndexer database).index workspace project classpath).2.2 = .ok reported) :
    ∃ rows number file access, projectRows? files project classpath = some rows ∧
      Workspace.Houses home (workspace.readied database home) number rows
        ((standardIndexer database).index workspace project classpath).1 ∧
      Store.FoundBy database file access home (workspace.readied database home) := by
  obtain ⟨paths, opened, store, crawled, opening⟩ := Indexer.started_of_ok ran
  have succeeds : (Store.openAt workspace database usualChunkSize).2 = .ok store :=
    congrArg Prod.snd opening
  obtain ⟨serves, file, access, found⟩ :=
    Store.serves_openAt_vacant apart.named unseen distinct succeeds apart.parent apart.still
  have served : Store.Serves home (workspace.readied database home) [] store opened := by
    rw [show (Store.openAt workspace database usualChunkSize).1 = opened from
      congrArg Prod.fst opening] at serves
    exact serves
  have own : project ∈ project :: classpath := by simp
  have still : opened.files.treeAt? project = files.treeAt? project := by
    rw [served.houses.treeAt? (apart.outside project own)]
    exact (apart.trees project own).trans (same project own)
  obtain ⟨rows, projected, houses⟩ :=
    houses_index_of_serves tidy same still crawled opening served
  exact ⟨rows, store.number, file, access, projected, houses, found⟩

/-- Another run into that database adds the same rows once more. -/
theorem houses_index_again (tidy : files.isTidy = true)
    (same : ∀ root ∈ project :: classpath, origin.files.treeAt? root = files.treeAt? root)
    (outside : ∀ root ∈ project :: classpath, origin.files.surrounds root home = false)
    {file : String} {access : Access} (found : Store.FoundBy database file access home origin)
    (houses : Workspace.Houses home origin number before workspace)
    {reported : Report × List Progress}
    (ran : ((standardIndexer database).index workspace project classpath).2.2 = .ok reported) :
    ∃ rows, projectRows? files project classpath = some rows ∧
      Workspace.Houses home origin number (before ++ rows)
        ((standardIndexer database).index workspace project classpath).1 := by
  obtain ⟨paths, opened, store, crawled, opening⟩ := Indexer.started_of_ok ran
  have succeeds : (Store.openAt workspace database usualChunkSize).2 = .ok store :=
    congrArg Prod.snd opening
  obtain ⟨serves, rfl⟩ := Store.serves_openAt_again found houses succeeds
  have served : Store.Serves home origin before store opened := by
    rw [show (Store.openAt workspace database usualChunkSize).1 = opened from
      congrArg Prod.fst opening] at serves
    exact serves
  have own : project ∈ project :: classpath := by simp
  apply houses_index_of_serves tidy _ _ crawled opening served
  · intro root inside
    rw [houses.treeAt? (outside root inside), same root inside]
  · rw [served.houses.treeAt? (outside project own), same project own]

end Runs

/-- The workspace after several commands, each with the duration that it shows, if all of them
succeed. -/
def Command.runAll? (workspace : Workspace) : List (String × Command) → Option Workspace
  | [] => some workspace
  | (elapsed, command) :: rest =>
    match command.run workspace elapsed with
    | ⟨left, _, .ok ()⟩ => runAll? left rest
    | _ => none

/-- Indexing commands that add to a database, given what each shows. -/
def indexingAgain (project database : String) (classpath : List String)
    (shown : List (String × Bool)) : List (String × Command) :=
  shown.map fun (elapsed, progress) => (elapsed, .index project database classpath false progress)

section Commands

variable {project database elapsed : String} {classpath : List String} {fresh progress : Bool}
  {files : Files} {home : List String} {origin workspace after : Workspace} {number : Nat}
  {before rows : List Row}

/-- Commands that all succeed begin with one that does. -/
theorem Command.runAll?_cons {command : Command} {rest : List (String × Command)}
    (done : runAll? workspace ((elapsed, command) :: rest) = some after) :
    (command.run workspace elapsed).result = .ok () ∧
      runAll? (command.run workspace elapsed).workspace rest = some after := by
  rw [runAll?] at done
  split at done
  · rename_i left printed ran
    rw [ran]
    exact ⟨rfl, done⟩
  · simp at done

/-- An indexing command that succeeds has taken away what it had to, and leaves what its run
leaves. -/
theorem Command.run_index_ok
    (done : (Command.run workspace elapsed
      (.index project database classpath fresh progress)).result = .ok ()) :
    ∃ left reported, filesBeforeIndexing workspace.files database fresh = (left, .ok ()) ∧
      ((standardIndexer database).index (workspace.withFiles left) project classpath).2.2 =
        .ok reported ∧
      (Command.run workspace elapsed
        (.index project database classpath fresh progress)).workspace =
        ((standardIndexer database).index (workspace.withFiles left) project classpath).1 := by
  simp only [Command.run, runIndex] at done ⊢
  rw [← filesBeforeIndexing] at done ⊢
  rcases taken : filesBeforeIndexing workspace.files database fresh with ⟨left, removed⟩
  rw [taken] at done
  cases removed with
  | error error => simp [Except.map] at done
  | ok =>
    rw [← standardIndexer] at done ⊢
    rcases outcome : (standardIndexer database).index (workspace.withFiles left) project
      classpath with ⟨closed, later, result⟩
    rw [outcome] at done
    cases result with
    | error error => simp [Except.map] at done
    | ok reported => exact ⟨left, reported, rfl, by rw [outcome], by rw [outcome]⟩

/-- Commands that add to a housed database add the rows of the project as often as they are
given. -/
theorem houses_indexingAgain (tidy : files.isTidy = true)
    (same : ∀ root ∈ project :: classpath, origin.files.treeAt? root = files.treeAt? root)
    (outside : ∀ root ∈ project :: classpath, origin.files.surrounds root home = false)
    {file : String} {access : Access} (found : Store.FoundBy database file access home origin)
    (projected : projectRows? files project classpath = some rows)
    {shown : List (String × Bool)}
    (houses : Workspace.Houses home origin number before workspace)
    (done : Command.runAll? workspace (indexingAgain project database classpath shown) =
      some after) :
    Workspace.Houses home origin number
      (before ++ (List.replicate shown.length rows).flatten) after := by
  induction shown generalizing workspace before with
  | nil =>
    obtain rfl := Option.some.inj done
    simpa using houses
  | cons first rest hypothesis =>
    obtain ⟨ok, onward⟩ := Command.runAll?_cons done
    obtain ⟨left, reported, untouched, ran, leaves⟩ := Command.run_index_ok ok
    obtain rfl : workspace.files = left := (Prod.mk.inj untouched).1
    obtain ⟨others, again, housed⟩ := houses_index_again tidy same outside found houses ran
    obtain rfl : rows = others := Option.some.inj (projected.symm.trans again)
    rw [leaves] at onward
    have all := hypothesis housed onward
    rw [List.append_assoc] at all
    simpa [List.replicate_succ] using all

/-- A single command into a database that is not there leaves the rows of the project. -/
theorem houses_run_index_vacant (tidy : files.isTidy = true)
    (same : ∀ root ∈ project :: classpath, workspace.files.treeAt? root = files.treeAt? root)
    (apart : workspace.SetsApart database home (project :: classpath))
    (unseen : workspace.files.sight home = none)
    (distinct : isDistinctAmong workspace.files.entries = true)
    (done : Command.runAll? workspace
      [(elapsed, .index project database classpath false progress)] = some after) :
    ∃ rows, projectRows? files project classpath = some rows ∧ after.tableAt? home = some rows := by
  obtain ⟨ok, onward⟩ := Command.runAll?_cons done
  obtain ⟨left, reported, untouched, ran, leaves⟩ := Command.run_index_ok ok
  obtain rfl : workspace.files = left := (Prod.mk.inj untouched).1
  obtain rfl := Option.some.inj onward
  obtain ⟨rows, number, file, access, projected, houses, -⟩ :=
    houses_index_vacant tidy same apart unseen distinct ran
  rw [leaves]
  exact ⟨rows, projected, houses.tableAt?⟩

end Commands

/-- A fresh run and so many runs that add to the database leave the rows of the project so many
times and once more, one copy behind the other, whatever the database held before: the rows
that a single run leaves in any database that was not there. The trees of the project and of
the source directories are the same for both, and the databases are apart from them. What is at
the place of the database in the beginning has to be what its path names to the file system:
otherwise it is not taken away. -/
theorem Command.index_fresh_then_again (workspace other after otherAfter : Workspace)
    (project database elsewhere : String) (classpath : List String)
    (elapsed otherElapsed : String) (progress otherProgress : Bool)
    (shown : List (String × Bool)) (home place : List String)
    (distinct : isDistinctAmong workspace.files.entries = true)
    (tidy : other.files.isTidy = true) :
    let cleared := workspace.withFiles (removeAll workspace.files (databaseFiles database)).1
    (∀ root ∈ project :: classpath, cleared.files.treeAt? root = other.files.treeAt? root) →
    cleared.SetsApart database home (project :: classpath) →
    other.SetsApart elsewhere place (project :: classpath) →
    (workspace.files.sight home ≠ none → workspace.files.namesAt database home = true) →
    other.files.sight place = none →
    Command.runAll? workspace ((elapsed, .index project database classpath true progress) ::
      indexingAgain project database classpath shown) = some after →
    Command.runAll? other
      [(otherElapsed, .index project elsewhere classpath false otherProgress)] =
        some otherAfter →
    ∃ rows, otherAfter.tableAt? place = some rows ∧
      after.tableAt? home = some (List.replicate (shown.length + 1) rows).flatten := by
  intro cleared same apart otherApart reaches unseen done single
  have otherDistinct : isDistinctAmong other.files.entries = true := by
    rw [Files.isTidy, Bool.and_eq_true] at tidy
    exact tidy.1
  obtain ⟨rows, projected, table⟩ :=
    houses_run_index_vacant tidy (fun _ _ => rfl) otherApart unseen otherDistinct single
  refine ⟨rows, table, ?_⟩
  obtain ⟨ok, onward⟩ := Command.runAll?_cons done
  obtain ⟨left, reported, taken, ran, leaves⟩ := Command.run_index_ok ok
  have removed : removeAll workspace.files (databaseFiles database) = (left, .ok ()) := taken
  have thinned := (removeAll_thins distinct removed).1
  have vacant : (workspace.withFiles left).files.sight home = none :=
    removeAll_vacates distinct removed reaches
  have start : cleared = workspace.withFiles left := by simp only [cleared, removed]
  rw [start] at same apart
  obtain ⟨first, number, file, access, again, houses, found⟩ :=
    houses_index_vacant tidy same apart vacant thinned.distinct ran
  obtain rfl : rows = first := Option.some.inj (projected.symm.trans again)
  have trees : ∀ root ∈ project :: classpath,
      ((workspace.withFiles left).readied database home).files.treeAt? root =
        other.files.treeAt? root :=
    fun root inside => (apart.trees root inside).trans (same root inside)
  rw [leaves] at onward
  have all := houses_indexingAgain tidy trees apart.outside found projected houses onward
  rw [all.tableAt?, List.replicate_succ, List.flatten_cons]

/-- The syntax tree of an assignment to a variable. -/
def assignmentTree : Tree :=
  let node := fun rule fields start stop children =>
    Tree.node { rule := rule, fields := fields, start := start, stop := stop } children
  node "module" [] 0 6
    [ node "expression_statement" [] 0 5
        [ node "assignment" [] 0 5
            [ node "identifier" ["left"] 0 1 []
            , Tree.node { rule := "=", named := false, start := 2, stop := 3 } []
            , node "integer" ["right"] 4 5 [] ] ] ]

/-- A project of one file with an assignment. -/
def assignmentFiles : Files where
  entries := [("p", .directory [("a.py", .file (.text "x = 1\n" (some assignmentTree)))])]

/-- What a run leaves of that project where its store can be opened. -/
def assigned (database : String) (workspace : Workspace) : Workspace :=
  match Store.openAt workspace database usualChunkSize with
  | (opened, .ok store) =>
    (store.close (Indexer.runOver (Registry.standardWith []) store "p" opened
      ["p/a.py"]).workspace).1
  | (left, .error _) => left

/-- A command over that project leaves this. -/
theorem Command.runAll?_assigned {workspace : Workspace} {database elapsed : String}
    {fresh progress : Bool} {left : Files} {store : Store}
    (taken : filesBeforeIndexing workspace.files database fresh = (left, .ok ()))
    (crawled : (workspace.withFiles left).files.crawl false "p" ["java", "py", "rs"] =
      .ok ["p/a.py"])
    (java : (workspace.withFiles left).files.crawl false "p" ["java"] = .ok [])
    (opens : (Store.openAt (workspace.withFiles left) database usualChunkSize).2 = .ok store)
    (rest : List (String × Command)) :
    runAll? workspace ((elapsed, .index "p" database [] fresh progress) :: rest) =
      runAll? (assigned database (workspace.withFiles left)) rest := by
  rw [← Registry.extensions_standard] at crawled
  have registry : (Registry.standard.setUp (workspace.withFiles left).files "p" []).1 =
      Registry.standardWith [] := by
    rw [show Registry.standard = Registry.standardWith [] from rfl, Registry.setUp_standardWith]
    simp [Java.TypeIndex.ofRoots, Java.TypeIndex.addRoot, java]
  rcases opening : Store.openAt (workspace.withFiles left) database usualChunkSize with
    ⟨opened, result⟩
  rw [opening] at opens
  obtain rfl : result = .ok store := opens
  obtain ⟨leaves, told, reported⟩ := @Indexer.index_of_started (standardIndexer database)
    (workspace.withFiles left) opened "p" ["p/a.py"] store [] crawled opening
  have made : ((standardIndexer database).index (workspace.withFiles left) "p" []).1 =
      assigned database (workspace.withFiles left) := by
    rw [leaves, assigned, opening, ← registry]
    rfl
  rw [← made]
  rcases outcome : (standardIndexer database).index (workspace.withFiles left) "p" [] with
    ⟨closed, later, result⟩
  rw [outcome] at reported
  obtain rfl : result = .ok _ := reported
  simp only [runAll?, Command.run, runIndex]
  rw [← filesBeforeIndexing, taken]
  dsimp only
  rw [← standardIndexer, outcome]
  rfl

/-- A command that takes nothing away leaves this. -/
theorem Command.runAll?_assigned_again {workspace : Workspace} {database elapsed : String}
    {progress : Bool} {store : Store}
    (crawled : workspace.files.crawl false "p" ["java", "py", "rs"] = .ok ["p/a.py"])
    (java : workspace.files.crawl false "p" ["java"] = .ok [])
    (opens : (Store.openAt workspace database usualChunkSize).2 = .ok store)
    (rest : List (String × Command)) :
    runAll? workspace ((elapsed, .index "p" database [] false progress) :: rest) =
      runAll? (assigned database workspace) rest :=
  runAll?_assigned rfl crawled java opens rest

/-- The project beside a database with a row of a file that is gone, a log and a journal. -/
def assignmentBeside : Workspace where
  files :=
    { entries := assignmentFiles.entries ++
        [ ("t.db", .file (.database 0)), ("t.db-wal", .file (.side .log 0))
        , ("t.db-journal", .file (.text "left" none)) ] }
  databases :=
    let symbol : Symbol := { name := "old", kind := .classLike, filePath := "old.py", line := 1 }
    [{ rows := some [.ofSymbol symbol], home := some ["t.db"], settled := true }]

/-- The files that are left when the database has been taken away. -/
def assignmentCleared : Files :=
  (removeAll assignmentBeside.files (databaseFiles "t.db")).1

/-- An old database with a log and a journal beside it is taken away, and two runs leave the row of
the project twice. -/
theorem Command.index_fresh_then_again_twice :
    let start := assignmentBeside.withFiles assignmentCleared
    ∃ after otherAfter rows,
      Command.runAll? assignmentBeside (("0.01", .index "p" "t.db" [] true false) ::
        indexingAgain "p" "t.db" [] [("0.02", true)]) = some after ∧
      Command.runAll? start [("0.04", .index "p" "u.db" [] false true)] = some otherAfter ∧
      rows.map Row.name = ["x"] ∧ otherAfter.tableAt? ["u.db"] = some rows ∧
      after.tableAt? ["t.db"] = some (rows ++ rows) := by
  intro start
  have taken : filesBeforeIndexing assignmentBeside.files "t.db" true =
      (assignmentCleared, .ok ()) := by
    apply Prod.ext
    · simp only [filesBeforeIndexing, if_true, assignmentCleared]
    · decide +kernel
  have crawled : start.files.crawl false "p" ["java", "py", "rs"] = .ok ["p/a.py"] := by
    decide +kernel
  have java : start.files.crawl false "p" ["java"] = .ok [] := by
    decide +kernel
  have opens : (Store.openAt start "t.db" usualChunkSize).2 =
      .ok { number := 1, path := "t.db", recalls := true } := by
    decide +kernel
  have otherOpens : (Store.openAt start "u.db" usualChunkSize).2 =
      .ok { number := 1, path := "u.db", recalls := true } := by
    decide +kernel
  have crawledAgain : (assigned "t.db" start).files.crawl false "p" ["java", "py", "rs"] =
      .ok ["p/a.py"] := by
    decide +kernel
  have javaAgain : (assigned "t.db" start).files.crawl false "p" ["java"] = .ok [] := by
    decide +kernel
  have opensAgain : (Store.openAt (assigned "t.db" start) "t.db" usualChunkSize).2 =
      .ok { number := 1, path := "t.db" } := by
    decide +kernel
  have ran : Command.runAll? assignmentBeside (("0.01", .index "p" "t.db" [] true false) ::
        indexingAgain "p" "t.db" [] [("0.02", true)]) =
      some (assigned "t.db" (assigned "t.db" start)) := by
    rw [Command.runAll?_assigned taken crawled java opens, indexingAgain, List.map_cons,
      Command.runAll?_assigned_again crawledAgain javaAgain opensAgain, List.map_nil,
      Command.runAll?]
  have otherRan : Command.runAll? start [("0.04", .index "p" "u.db" [] false true)] =
      some (assigned "u.db" start) := by
    rw [Command.runAll?_assigned_again crawled java otherOpens, Command.runAll?]
  have apart : start.SetsApart "t.db" ["t.db"] ["p"] := by
    apply Workspace.setsApart_of_single <;> decide +kernel
  have otherApart : start.SetsApart "u.db" ["u.db"] ["p"] := by
    apply Workspace.setsApart_of_single <;> decide +kernel
  obtain ⟨rows, table, tables⟩ := Command.index_fresh_then_again assignmentBeside start
    (assigned "t.db" (assigned "t.db" start)) (assigned "u.db" start) "p" "t.db" "u.db" []
    "0.01" "0.04" false true [("0.02", true)] ["t.db"] ["u.db"] (by decide +kernel)
    (by decide +kernel) (fun _ _ => rfl) apart otherApart (by decide +kernel)
    (by decide +kernel) ran otherRan
  refine ⟨_, _, rows, ran, otherRan, ?_, table, ?_⟩
  · have names : ((assigned "u.db" start).tableAt? ["u.db"]).map (List.map Row.name) =
        some ["x"] := by
      decide +kernel
    rw [table] at names
    exact Option.some.inj names
  · simpa using tables

/-- An address leads the store to the old database, and the file system to nothing: a fresh run
takes nothing away, and its row is behind the old one. -/
theorem Command.index_fresh_keeps_old_row :
    assignmentBeside.SetsApart "file:t.db" ["t.db"] ["p"] ∧
    ∃ after otherAfter rows otherRows,
      Command.runAll? assignmentBeside [("0.01", .index "p" "file:t.db" [] true false)] =
        some after ∧
      Command.runAll? { files := assignmentFiles }
        [("0.02", .index "p" "file:t.db" [] false false)] = some otherAfter ∧
      after.tableAt? ["t.db"] = some rows ∧ otherAfter.tableAt? ["t.db"] = some otherRows ∧
      rows.map Row.name = ["old", "x"] ∧ otherRows.map Row.name = ["x"] := by
  have taken : filesBeforeIndexing assignmentBeside.files "file:t.db" true =
      (assignmentBeside.files, .ok ()) := rfl
  have ran : Command.runAll? assignmentBeside
      [("0.01", .index "p" "file:t.db" [] true false)] =
        some (assigned "file:t.db" assignmentBeside) := by
    rw [@Command.runAll?_assigned _ _ _ _ _ _ { number := 0, path := "file:t.db" } taken
      (by decide +kernel) (by decide +kernel) (by decide +kernel), Command.runAll?]
    rfl
  have otherRan : Command.runAll? { files := assignmentFiles }
      [("0.02", .index "p" "file:t.db" [] false false)] =
        some (assigned "file:t.db" { files := assignmentFiles }) := by
    rw [@Command.runAll?_assigned_again _ _ _ _
      { number := 0, path := "file:t.db", recalls := true } (by decide +kernel)
      (by decide +kernel) (by decide +kernel), Command.runAll?]
  constructor
  · apply Workspace.setsApart_of_single <;> decide +kernel
  · have names : ((assigned "file:t.db" assignmentBeside).tableAt? ["t.db"]).map
        (List.map Row.name) = some ["old", "x"] := by
      decide +kernel
    have otherNames : ((assigned "file:t.db" { files := assignmentFiles }).tableAt? ["t.db"]).map
        (List.map Row.name) = some ["x"] := by
      decide +kernel
    obtain ⟨rows, table, named⟩ := Option.map_eq_some_iff.1 names
    obtain ⟨otherRows, otherTable, otherNamed⟩ := Option.map_eq_some_iff.1 otherNames
    exact ⟨_, _, rows, otherRows, ran, otherRan, table, otherTable, named, otherNamed⟩

end SymbolAtlas
