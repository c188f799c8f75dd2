import Mathlib.Data.List.Basic
import SymbolAtlas.Proofs.Files.Trees
import SymbolAtlas.Proofs.Index.Abreast
import SymbolAtlas.Proofs.Index.Accounting

/-!
# The rows of a project

A run reads the tree of the project and those of further source directories, and of the
file system nothing else. So two file systems that show the same trees give the same
rows. `projectRows?` says which: those of every file, in the order of the crawl, whose
symbols can be extracted and are all sound.

A store hides nothing of this as long as its database refuses no row: then what is saved
of a file depends on its symbols alone, whatever was saved before.
-/

namespace SymbolAtlas

namespace Files

variable {files other : Files} {root path : String} {paths extensions : List String}

/-- A crawl that follows no links sees the tree of its root and nothing else. -/
theorem crawl_of_same_tree (same : other.treeAt? root = files.treeAt? root)
    (crawled : files.crawl false root extensions = .ok paths) :
    other.crawl false root extensions = .ok paths := by
  obtain ⟨names, start, rfl⟩ := crawl_eq_ok_iff.1 crawled
  obtain ⟨entries, held⟩ := sightAt_eq_directory.1 start.directory
  obtain ⟨otherStart, otherHeld, hidden⟩ :=
    treeAt?_eq_some_iff.1 (same.trans (treeAt?_eq_some_iff.2 ⟨start, held, rfl⟩))
  refine crawl_eq_ok_iff.2 ⟨names, otherStart, congrArg (List.map (writtenBelow root)) ?_⟩
  -- What a listing hides from some names on decides what is shown of the files below them.
  have shows (below : List String) : files.showsAll names below = other.showsAll names below := by
    rw [Bool.eq_iff_iff, showsAll_eq_true_iff, showsAll_eq_true_iff]
    have alike (around : List String) :
        names ++ around ∈ files.unlisted ↔ names ++ around ∈ other.unlisted := by
      have filtered := congrArg (names ++ around ∈ ·) hidden
      simpa using filtered.to_iff.symm
    simp only [alike]
  simp only [wantedBelow, held, otherHeld, shows]

/-- So where the tree is the same, the same crawls succeed and give the same. -/
theorem crawl_congr (same : other.treeAt? root = files.treeAt? root) (extensions : List String) :
    (other.crawl false root extensions).toOption =
      (files.crawl false root extensions).toOption := by
  cases crawled : files.crawl false root extensions with
  | ok paths => rw [crawl_of_same_tree same crawled]
  | error error =>
    cases otherCrawled : other.crawl false root extensions with
    | error => rfl
    | ok paths =>
      rw [crawl_of_same_tree same.symm otherCrawled] at crawled
      cases crawled

/-- A root that can be crawled has a tree. -/
theorem exists_treeAt?_of_crawl (crawled : files.crawl false root extensions = .ok paths) :
    ∃ tree, files.treeAt? root = some tree := by
  obtain ⟨names, start, -⟩ := crawl_eq_ok_iff.1 crawled
  obtain ⟨entries, held⟩ := sightAt_eq_directory.1 start.directory
  exact ⟨_, treeAt?_eq_some_iff.2 ⟨start, held, rfl⟩⟩

/-- Where a path leads to the same tree, it has the same real path. -/
theorem realPath?_congr {tree : List String × List (String × Entry) × List (List String)}
    (there : files.treeAt? root = some tree) (same : other.treeAt? root = files.treeAt? root) :
    other.realPath? root = files.realPath? root := by
  have real : ∀ files : Files, files.treeAt? root = some tree →
      files.realPath? root = some ("/" ++ "/".intercalate tree.1) := by
    intro files there
    obtain ⟨start, held, -⟩ := treeAt?_eq_some_iff.1 there
    rw [realPath?, place_eq_present_iff.2 ⟨start.sound, start.leads, held⟩]
  rw [real files there, real other (same.trans there)]

/-- A file that was crawled is read alike wherever the tree is the same. -/
theorem read_crawled (tidy : files.isTidy = true)
    (same : other.treeAt? root = files.treeAt? root)
    (crawled : files.crawl false root extensions = .ok paths) (inside : path ∈ paths) :
    other.read path = files.read path := by
  obtain ⟨names, start, rfl⟩ := crawl_eq_ok_iff.1 crawled
  obtain ⟨below, wanted, rfl⟩ := List.mem_map.1 inside
  obtain ⟨isFile, usable⟩ := of_mem_wantedBelow tidy start.directory wanted
  obtain ⟨entries, held⟩ := sightAt_eq_directory.1 start.directory
  obtain ⟨otherStart, otherHeld, -⟩ :=
    treeAt?_eq_some_iff.1 (same.trans (treeAt?_eq_some_iff.2 ⟨start, held, rfl⟩))
  have entry : entryAt (names ++ below) other.entries = entryAt (names ++ below) files.entries := by
    rw [entryAt_append otherHeld, entryAt_append held]
  obtain ⟨content, there⟩ := sightAt_eq_file.1 isFile
  have otherThere := entry.trans there
  cases refused : textError? (writtenBelow root below) with
  | some error => rw [read_of_textError refused, read_of_textError refused]
  | none =>
    have leads := start.leads_written isFile usable .target
    have otherLeads := otherStart.leads_written (sightAt_eq_file.2 ⟨content, otherThere⟩)
      usable .target
    rw [read_of_leads_entry refused leads there,
      read_of_leads_entry refused otherLeads otherThere]

end Files

namespace Java.TypeIndex

variable {files other : Files}

/-- A root adds the same types wherever its tree is the same. -/
theorem addRoot_congr (tidy : files.isTidy = true) {root : String}
    (same : other.treeAt? root = files.treeAt? root) (index : TypeIndex) :
    addRoot other index root = addRoot files index root := by
  unfold addRoot
  have alike := Files.crawl_congr same ["java"]
  cases crawled : files.crawl false root ["java"] with
  | error error =>
    rw [crawled] at alike
    cases otherCrawled : other.crawl false root ["java"] with
    | error => rfl
    | ok => simp [otherCrawled, Except.toOption] at alike
  | ok paths =>
    rw [Files.crawl_of_same_tree same crawled]
    refine List.foldl_ext _ _ _ fun index path inside => ?_
    unfold addPath
    rw [Source.load_congr (Files.read_crawled tidy same crawled inside)]

/-- Several roots have the same types wherever their trees are the same. -/
theorem ofRoots_congr (tidy : files.isTidy = true) {roots : List String}
    (same : ∀ root ∈ roots, other.treeAt? root = files.treeAt? root) :
    ofRoots other roots = ofRoots files roots :=
  List.foldl_ext _ _ _ fun index _ inside => addRoot_congr tidy (same _ inside) index

end Java.TypeIndex

namespace Registry

variable {registry : Registry} {store : Store} {root : String} {opened : Workspace}

/-- The rows of files that a store takes which refuses none: those of the files whose symbols
can be extracted and are all sound. -/
def soundRows (registry : Registry) (files : Files) (root : String) (paths : List String) :
    List Row :=
  paths.flatMap fun path =>
    match registry.extract files root path with
    | some (.ok symbols) =>
      if ∀ symbol ∈ symbols, symbol.IsSound then symbols.map Row.ofSymbol else []
    | _ => []

/-- Files leave these rows in a store whose database refuses nothing. -/
theorem rows_eq_soundRows (isOpen : store.isOpen = true) (writable : store.writable = true)
    (present : (opened.database store.number).rows.isSome = true)
    (unlocked : (opened.database store.number).locked = false)
    (unguarded : (opened.database store.number).guards = []) (paths : List String) :
    registry.rows store root opened paths = registry.soundRows opened.files root paths := by
  have skipsNone : (opened.database store.number).SkipsNone := by
    simp [Database.SkipsNone, unguarded]
  have accepted : ∀ symbols : List Symbol,
      (store.save opened symbols).2 = .ok symbols.length ↔ ∀ symbol ∈ symbols, symbol.IsSound := by
    intro symbols
    rw [Store.save_eq_ok_iff symbols skipsNone]
    simp only [isOpen, writable, present, unlocked, unguarded, and_true,
      List.not_mem_nil, false_implies, implies_true]
    constructor
    · rintro (rfl | sound)
      · simp
      · exact sound
    · exact .inr
  unfold rows soundRows
  congr 1
  funext path
  unfold fate extract
  cases registry.parserFor? path with
  | none => rfl
  | some parser =>
    dsimp only [Option.map_some]
    cases parser.parse opened.files path root with
    | error error => rfl
    | ok found =>
      dsimp only
      cases normalSymbols root (opened.files.realPath? root) found with
      | error error => rfl
      | ok symbols =>
        dsimp only
        rcases Store.save_cases symbols skipsNone with saved | ⟨error, failed⟩
        · rw [if_pos ((accepted symbols).1 (by rw [saved])), saved]
          rfl
        · rw [if_neg, failed]
          · rfl
          · intro sound
            have saved := (accepted symbols).2 sound
            rw [failed] at saved
            simp at saved

end Registry

/-- The rows of a project with further source directories, unless its root cannot be
crawled. -/
def projectRows? (files : Files) (project : String) (classpath : List String) :
    Option (List Row) :=
  match files.crawl false project Registry.standard.extensions with
  | .ok paths =>
    some ((Registry.standardWith (Java.TypeIndex.ofRoots files (project :: classpath))).soundRows
      files project paths)
  | .error _ => none

section Alike

variable {files other : Files} {project : String} {classpath paths : List String}

/-- What was crawled gives the same rows wherever the trees are the same. -/
theorem soundRows_crawled (tidy : files.isTidy = true)
    (same : other.treeAt? project = files.treeAt? project)
    (crawled : files.crawl false project Registry.standard.extensions = .ok paths)
    (types : Java.TypeIndex) :
    (Registry.standardWith types).soundRows other project paths =
      (Registry.standardWith types).soundRows files project paths := by
  obtain ⟨tree, there⟩ := Files.exists_treeAt?_of_crawl crawled
  unfold Registry.soundRows
  refine List.flatMap_congr fun path inside => ?_
  have loads := Source.load_congr (Files.read_crawled tidy same crawled inside) project
  rw [Registry.extract_congr loads (.inr ⟨rfl, Files.realPath?_congr there same⟩)]

/-- A project has the same rows wherever the trees are the same. -/
theorem projectRows?_congr (tidy : files.isTidy = true)
    (same : ∀ root ∈ project :: classpath, other.treeAt? root = files.treeAt? root) :
    projectRows? other project classpath = projectRows? files project classpath := by
  have own := same project (by simp)
  unfold projectRows?
  have alike := Files.crawl_congr own Registry.standard.extensions
  cases crawled : files.crawl false project Registry.standard.extensions with
  | error error =>
    rw [crawled] at alike
    cases otherCrawled : other.crawl false project Registry.standard.extensions with
    | error => rfl
    | ok => simp [otherCrawled, Except.toOption] at alike
  | ok paths =>
    rw [Files.crawl_of_same_tree own crawled]
    dsimp only
    rw [Java.TypeIndex.ofRoots_congr tidy same, soundRows_crawled tidy own crawled]

end Alike

end SymbolAtlas
