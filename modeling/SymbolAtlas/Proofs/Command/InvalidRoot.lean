import SymbolAtlas.Command.Run
import SymbolAtlas.Proofs.Files.Upkeep
import SymbolAtlas.Proofs.Index.Accounting

/-!
# Indexing a root that cannot be crawled

An indexing run looks at its root before it opens the database, so a root that is
missing or no directory costs nothing but the run. On request the command takes the
old database away first, and it does so before the root is looked at: a mistyped
root then costs the index. Either way nothing is made, no row is touched, and no
file is lost but those that were to be taken away.

`Files.Thinned` is the relation between the files before and after such a removal:
nothing is seen that was not seen before, and every file is still there or was named
by one of the paths.
-/

namespace SymbolAtlas

namespace Files

/-- A file system from which nothing is missing but entries that some paths name. -/
structure Thinned (origin : Files) (paths : List String) (files : Files) : Prop where
  current : files.current = origin.current
  distinct : isDistinctAmong files.entries = true
  seen : ∀ names look, files.sight names = some look → origin.sight names = some look
  kept : ∀ names content, entryAt names origin.entries = some (.file content) →
    entryAt names files.entries = some (.file content) ∨
      ∃ path ∈ paths, (origin.findEntry path).1 = .present names (.file content)

variable {origin files left : Files} {paths others : List String} {path : String}
  {names : List String}

/-- Taking nothing away thins nothing. -/
theorem Thinned.refl (distinct : isDistinctAmong files.entries = true) (paths : List String) :
    files.Thinned paths files :=
  ⟨rfl, distinct, fun _ _ => id, fun _ _ => .inl⟩

/-- A path that is followed to an entry was followed to the same names before. -/
theorem Thinned.arrived {purpose : Purpose} {links : Nat} {start : List String}
    {path : List PathStep} (thinned : origin.Thinned paths files) (rooted : IsRooted path)
    (leads : Leads files.sight purpose links start path (.arrived names)) :
    Leads origin.sight purpose links start path (.arrived names) :=
  leads.arrived_before rooted (fun _ => thinned.seen _ _) (fun _ _ => thinned.seen _ _)
    (thinned.seen _ _)

/-- Every path that is held was held before. -/
theorem Thinned.holds (thinned : origin.Thinned paths files) (held : files.holds path = true) :
    origin.holds path = true := by
  rw [holds_eq_true_iff] at held ⊢
  obtain ⟨sound, found, leads⟩ := held
  rw [thinned.current] at leads
  exact ⟨sound, found, thinned.arrived (isRooted_steps path) leads⟩

/-- Taking away more thins further. -/
theorem Thinned.trans (first : origin.Thinned paths files) (second : files.Thinned others left) :
    origin.Thinned (paths ++ others) left where
  current := second.current.trans first.current
  distinct := second.distinct
  seen names look there := first.seen names look (second.seen names look there)
  kept names content there := by
    rcases first.kept names content there with still | ⟨path, named, found⟩
    · rcases second.kept names content still with stays | ⟨path, named, found⟩
      · exact .inl stays
      · -- What a path names later on it named in the beginning.
        refine .inr ⟨path, List.mem_append_right _ named, ?_⟩
        rw [findEntry_eq_present_iff] at found ⊢
        obtain ⟨sound, leads, -⟩ := found
        rw [first.current] at leads
        exact ⟨sound, first.arrived ((isRooted_steps path).filter _) leads, there⟩
    · exact .inr ⟨path, List.mem_append_left _ named, found⟩

/-- Taking away what a path names thins the files by it. -/
theorem thinned_removeFile (distinct : isDistinctAmong files.entries = true)
    (removed : files.removeFile path = .ok left) : files.Thinned [path] left := by
  obtain ⟨found, entry, named, -, admits, rfl⟩ := removeFile_cases removed
  have view : ∀ names, (files.bind found none).sight names =
      if names = found then none else files.sight names :=
    sight_bind distinct admits (by simp)
  refine ⟨rfl, isDistinctAmong_bindAt distinct (by simp), ?_, ?_⟩
  · intro names look there
    rw [view] at there
    split at there
    · simp at there
    · exact there
  · intro names content there
    by_cases same : names = found
    · subst same
      have isFile : entry = .file content := by
        have read := (findEntry_eq_present_iff.1 named).2.2
        exact Option.some.inj (read.symm.trans there)
      exact .inr ⟨path, List.mem_singleton_self path, by rw [named, isFile]⟩
    · refine .inl ((entryAt_bindAt_eq_file_iff ?_).2 there)
      rintro ⟨rest, rfl⟩
      have further : rest ≠ [] := by
        rintro rfl
        simp at same
      have nothing := sightAt_append_eq_none further admits.closed
      rw [sightAt_eq_none, there] at nothing
      simp at nothing

end Files

/-- Once several paths have been taken away, none of them leads to anything, and nothing
else is missing. -/
theorem removeAll_thins {files left : Files} {paths : List String}
    (distinct : isDistinctAmong files.entries = true)
    (removed : removeAll files paths = (left, .ok ())) :
    files.Thinned paths left ∧ ∀ path ∈ paths, left.holds path = false := by
  induction paths generalizing files with
  | nil =>
    obtain rfl : files = left := by simpa [removeAll] using removed
    exact ⟨.refl distinct [], by simp⟩
  | cons path rest hypothesis =>
    -- The files before the rest is taken away, from which the path is gone.
    have step : ∃ middle, files.Thinned [path] middle ∧ middle.holds path = false ∧
        removeAll middle rest = (left, .ok ()) := by
      rw [removeAll] at removed
      split at removed
      · cases first : files.removeFile path with
        | error error => simp [first] at removed
        | ok middle =>
          rw [first] at removed
          exact ⟨middle, Files.thinned_removeFile distinct first,
            Files.holds_removeFile distinct first, removed⟩
      · rename_i absent
        exact ⟨files, .refl distinct _, by simpa using absent, removed⟩
    obtain ⟨middle, thinned, absent, further⟩ := step
    obtain ⟨thinner, gone⟩ := hypothesis thinned.distinct further
    refine ⟨thinned.trans thinner, ?_⟩
    intro other inside
    rcases List.mem_cons.1 inside with rfl | later
    · rw [← Bool.not_eq_true]
      intro held
      rw [thinner.holds held] at absent
      exact absurd absent (by simp)
    · exact gone other later

/-- A text begins as its first part does. -/
theorem head?_toList_append {first : Char} {text : String}
    (starts : text.toList.head? = some first) (rest : String) :
    (text ++ rest).toList.head? = some first := by
  rw [String.toList_append, List.head?_append, starts, Option.some_or]

/-- No failure of the store is reported in the words for an invalid root. -/
theorem StoreError.message_ne_invalidRoot (error : StoreError) (root : String) :
    error.message ≠ (CrawlError.invalidRoot root).message := by
  have rootStarts : ("invalid root path: " ++ root).toList.head? = some 'i' :=
    head?_toList_append (by decide +kernel) root
  -- Every report of a store begins with another letter.
  have starts : ∃ first, error.message.toList.head? = some first ∧ first ≠ 'i' := by
    cases error with
    | opening cause => exact ⟨'f', head?_toList_append (by decide +kernel) _, by decide⟩
    | configuration cause => exact ⟨'f', head?_toList_append (by decide +kernel) _, by decide⟩
    | schema cause => exact ⟨'f', head?_toList_append (by decide +kernel) _, by decide⟩
    | query cause => exact ⟨'q', head?_toList_append (by decide +kernel) _, by decide⟩
    | directory cause => exact ⟨'I', head?_toList_append (by decide +kernel) _, by decide⟩
    | closed => exact ⟨'s', by decide +kernel, by decide⟩
    | unsound index defect =>
      exact ⟨'s', head?_toList_append (head?_toList_append
        (head?_toList_append (by decide +kernel) _) _) _, by decide⟩
    | write cause rollback =>
      cases rollback with
      | none => exact ⟨'f', head?_toList_append (by decide +kernel) _, by decide⟩
      | some second =>
        exact ⟨'f', head?_toList_append (head?_toList_append (head?_toList_append
          (head?_toList_append (by decide +kernel) _) _) _) _, by decide⟩
  intro same
  obtain ⟨first, begins, different⟩ := starts
  rw [same] at begins
  exact different (Option.some.inj (begins.symm.trans rootStarts))

/-- A run that is reported to have failed for its root has failed before anything was
opened, and has left the workspace as it was. -/
theorem Indexer.index_of_invalidRoot {indexer : Indexer} {workspace : Workspace} {root : String}
    {classpath : List String} {error : IndexError}
    (failed : (indexer.index workspace root classpath).2.2 = .error error)
    (reported : error.message = (CrawlError.invalidRoot root).message) :
    (indexer.index workspace root classpath).1 = workspace := by
  cases crawled : workspace.files.crawl indexer.followLinks root indexer.registry.extensions with
  | error cause => exact (index_of_uncrawled classpath crawled).1
  | ok paths =>
    cases opening : Store.openAt workspace indexer.database usualChunkSize with
    | mk left result =>
      cases result with
      | error cause =>
        have unopened := (index_of_unopened classpath crawled opening).2
        obtain rfl := Except.error.inj (unopened.symm.trans failed)
        exact absurd reported (StoreError.message_ne_invalidRoot cause root)
      | ok store => simp [index, crawled, opening] at failed

/-- The two steps of indexing are reported in different words. -/
theorem remove_step_ne_index_step (path project : String) :
    "Failed to remove " ++ path ≠ "Failed to index " ++ project := by
  intro same
  have texts := congrArg String.toList same
  simp at texts

/-- A failed removal is reported as such. -/
theorem removeAll_error {files left : Files} {paths : List String} {error : CommandError}
    (failed : removeAll files paths = (left, .error error)) :
    ∃ path cause, error = .during ("Failed to remove " ++ path) cause := by
  induction paths generalizing files with
  | nil => simp [removeAll] at failed
  | cons path rest hypothesis =>
    rw [removeAll] at failed
    split at failed
    · cases first : files.removeFile path with
      | ok middle =>
        rw [first] at failed
        exact hypothesis failed
      | error cause =>
        rw [first] at failed
        exact ⟨path, cause.message, (Except.error.inj (Prod.mk.inj failed).2).symm⟩
    · exact hypothesis failed

/-- The files that an indexing command starts from. -/
def filesBeforeIndexing (files : Files) (database : String) (fresh : Bool) :
    Files × Except CommandError Unit :=
  if fresh then removeAll files (databaseFiles database) else (files, .ok ())

/-- A command that failed for its root has taken the database away if asked to, and has
done nothing else. -/
theorem runIndex_of_invalidRoot {workspace : Workspace} {project database elapsed : String}
    {classpath : List String} {fresh : Bool}
    (failed : (runIndex workspace project database classpath fresh elapsed).result =
      .error (.during ("Failed to index " ++ project) (CrawlError.invalidRoot project).message)) :
    ∃ left, filesBeforeIndexing workspace.files database fresh = (left, .ok ()) ∧
      (runIndex workspace project database classpath fresh elapsed).workspace =
        workspace.withFiles left := by
  unfold runIndex at failed ⊢
  rw [← filesBeforeIndexing] at failed ⊢
  rcases taken : filesBeforeIndexing workspace.files database fresh with ⟨left, removed⟩
  rw [taken] at failed
  cases removed with
  | error error =>
    -- The command has failed at the removal, in other words than these.
    obtain rfl := Except.error.inj failed
    unfold filesBeforeIndexing at taken
    split at taken
    · obtain ⟨path, cause, named⟩ := removeAll_error taken
      exact absurd (CommandError.during.inj named).1.symm (remove_step_ne_index_step path project)
    · simp at taken
  | ok =>
    refine ⟨left, rfl, ?_⟩
    dsimp only at failed ⊢
    rcases outcome : Indexer.index { database := database, registry := Registry.standard }
      (workspace.withFiles left) project classpath with ⟨after, later, result⟩
    rw [outcome] at failed
    cases result with
    | ok reported => simp at failed
    | error error =>
      have reported := (CommandError.during.inj (Except.error.inj failed)).2
      have unchanged := Indexer.index_of_invalidRoot (by rw [outcome]) reported
      rw [outcome] at unchanged
      exact unchanged

/-- If indexing fails because its root is missing or no directory, no row has changed and
nothing has been made: what a path leads to afterwards it led to before. Unless the old
database was to be taken away first, nothing at all has changed; and if it was, the
database file and the files beside it are gone and every other file is still there. -/
theorem Command.index_of_invalid_root (workspace : Workspace) (project database : String)
    (classpath : List String) (fresh progress : Bool) (elapsed : String)
    (distinct : isDistinctAmong workspace.files.entries = true)
    (fails : (Command.run workspace elapsed
        (.index project database classpath fresh progress)).result =
      .error (.during ("Failed to index " ++ project) (CrawlError.invalidRoot project).message)) :
    let after := (Command.run workspace elapsed
      (.index project database classpath fresh progress)).workspace
    after.databases = workspace.databases ∧
      (∀ path, after.files.holds path = true → workspace.files.holds path = true) ∧
      (fresh = false → after = workspace) ∧
      (fresh = true → (∀ path ∈ databaseFiles database, after.files.holds path = false) ∧
        ∀ names content, workspace.entry? names = some (.file content) →
          after.entry? names = some (.file content) ∨ ∃ path ∈ databaseFiles database,
            (workspace.files.findEntry path).1 = .present names (.file content)) := by
  intro after
  have failed : (runIndex workspace project database classpath fresh elapsed).result =
      .error (.during ("Failed to index " ++ project)
        (CrawlError.invalidRoot project).message) := by
    rw [Command.run] at fails
    cases result : (runIndex workspace project database classpath fresh elapsed).result with
    | ok report => simp [result, Except.map] at fails
    | error error => simpa [result, Except.map] using fails
  obtain ⟨left, taken, unchanged⟩ := runIndex_of_invalidRoot failed
  have same : after = workspace.withFiles left := unchanged
  cases fresh with
  | false =>
    obtain ⟨rfl, -⟩ := Prod.mk.inj taken
    have whole : after = workspace := same
    rw [whole]
    exact ⟨rfl, fun _ => id, fun _ => rfl, by simp⟩
  | true =>
    obtain ⟨thinned, gone⟩ := removeAll_thins distinct taken
    rw [same]
    exact ⟨rfl, fun _ => thinned.holds, by simp, fun _ => ⟨gone, thinned.kept⟩⟩

/-- A fresh run over a root that is missing, with a database that has one row and a log
beside it, and with a link to a file in the place of the index into the log. -/
theorem Command.index_of_invalid_root_linked :
    let symbol : Symbol := { name := "a", kind := .field, filePath := "a.py", line := 1 }
    let workspace : Workspace :=
      { files :=
          { entries :=
              [ ("t.db", .file (.database 0)), ("t.db-wal", .file (.side .log 0))
              , ("t.db-shm", .link "a.py"), ("a.py", .file (.text "x" none)) ] }
        databases := [{ rows := some [.ofSymbol symbol], home := some ["t.db"] }] }
    let outcome := Command.run workspace "0.00" (.index "missing" "t.db" ["lib"] true false)
    outcome.result = .error (.during "Failed to index missing" "invalid root path: missing") ∧
      outcome.workspace.databases = workspace.databases ∧
      outcome.workspace.files.holds "t.db" = false ∧
      outcome.workspace.files.holds "t.db-shm" = false ∧
      outcome.workspace.entry? ["a.py"] = some (.file (.text "x" none)) := by
  intro symbol workspace outcome
  have fails : outcome.result =
      .error (.during ("Failed to index " ++ "missing")
        (CrawlError.invalidRoot "missing").message) := by
    decide +kernel
  have settled := index_of_invalid_root workspace "missing" "t.db" ["lib"] true false "0.00"
    (by decide +kernel) fails
  obtain ⟨databases, -, -, emptied⟩ := settled
  obtain ⟨gone, kept⟩ := emptied rfl
  refine ⟨fails, databases, gone "t.db" (by decide), gone "t.db-shm" (by decide +kernel), ?_⟩
  rcases kept ["a.py"] (.text "x" none) rfl with still | ⟨path, named, found⟩
  · exact still
  · -- The link is taken away, not the file that it leads to.
    exfalso
    have places : ∀ path ∈ databaseFiles "t.db",
        (workspace.files.findEntry path).1.verdict ≠ .arrived ["a.py"] := by
      decide +kernel
    exact places path named (by rw [found]; rfl)

/-- A mistyped root costs a fresh run its index: the command fails for its root, and the
database that was there is gone. -/
theorem Command.index_fresh_loses_database :
    let symbol : Symbol := { name := "a", kind := .field, filePath := "a.py", line := 1 }
    let workspace : Workspace :=
      { files := { entries := [("t.db", .file (.database 0))] }
        databases := [{ rows := some [.ofSymbol symbol], home := some ["t.db"] }] }
    let outcome := Command.run workspace "0.00" (.index "missing" "t.db" [] true false)
    outcome.result = .error (.during "Failed to index missing" "invalid root path: missing") ∧
      workspace.files.holds "t.db" = true ∧ outcome.workspace.files.holds "t.db" = false := by
  decide +kernel

end SymbolAtlas
