import SymbolAtlas.Proofs.Extract.JavaStops
import SymbolAtlas.Proofs.Extract.Located
import SymbolAtlas.Proofs.Extract.SourceOrder
import SymbolAtlas.Proofs.Index.Relative

/-!
# The path under which a file is stored

A path is made relative twice: once over components, on the way from the root to the file, and
once over the text, before symbols are saved. The walk over components can give up, climb, or go
on below the root. From a root that does not climb it never gives up, and what it gives climbs
unless the path goes on from the root; so a file is refused just when it lies elsewhere. For a
file whose path is the root with names behind it the walk gives the names, however the root is
written, since the two lists of components have the root in common.

The second step then has nothing to do. Names joined by separators do not begin with a separator,
with a segment for the current directory or with one that climbs; what is left to exclude is a
backslash, which both steps turn, and a drive at the front, which the second takes for a root.
-/

namespace SymbolAtlas

namespace Path

/-- From below the path, every step of the base that is left goes up. -/
theorem walkFrom_nil (found base : List Component) :
    walkFrom found [] base = some (found ++ base.map fun _ => .parent) := by
  induction base generalizing found with
  | nil => simp [walkFrom]
  | cons step rest hypothesis => simp [walkFrom, hypothesis]

/-- From a base that neither stays nor climbs there is a way to every path. It is what the path
goes on by, or else it climbs; and it takes no other steps than those of the path. -/
theorem walkFrom_cases (path : List Component) {base : List Component}
    (straight : ∀ step ∈ base, step ≠ .current ∧ step ≠ .parent) :
    ∃ way, walkFrom [] path base = some way ∧
      (path = base ++ way ∨ .parent ∈ way) ∧ ∀ step ∈ way, step = .parent ∨ step ∈ path := by
  induction base generalizing path with
  | nil =>
    refine ⟨path, ?_, .inl rfl, fun step inside => .inr inside⟩
    cases path <;> simp [walkFrom]
  | cons other rest hypothesis =>
    obtain ⟨notCurrent, notParent⟩ := straight other (by simp)
    cases path with
    | nil => exact ⟨_, walkFrom_nil [] (other :: rest), .inr (by simp), by simp⟩
    | cons step further =>
      by_cases same : step = other
      · subst same
        obtain ⟨way, walked, lies, steps⟩ :=
          hypothesis further fun step inside => straight step (by simp [inside])
        refine ⟨way, by simpa [walkFrom] using walked, ?_, ?_⟩
        · rcases lies with rfl | climbs
          · exact .inl rfl
          · exact .inr climbs
        · intro other inside
          rcases steps other inside with up | among
          · exact .inl up
          · exact .inr (by simp [among])
      · refine ⟨.parent :: rest.map (fun _ => .parent) ++ step :: further, ?_, .inr (by simp), ?_⟩
        · simp [walkFrom, same, notCurrent, notParent]
        · intro other inside
          simp only [List.cons_append, List.mem_cons, List.mem_append, List.mem_map] at inside
          rcases inside with up | ⟨-, -, up⟩ | here | later
          · exact .inl up
          · exact .inl up.symm
          · exact .inr (by simp [here])
          · exact .inr (by simp [later])

/-- A path that starts at the root has inner components behind it. -/
theorem components_of_isAbsolute {path : String} (absolute : isAbsolute path = true) :
    ∃ inner, components path = .root :: inner ∧ ∀ step ∈ inner, IsInner step := by
  obtain ⟨rest, text⟩ := List.head?_eq_some_iff.1 (of_decide_eq_true absolute)
  refine ⟨bodyComponents rest, ?_, fun step inside => isInner_of_mem_bodyComponents inside⟩
  simp [components, text]

end Path

/-- Of two paths that start at the root, the second without climbing, the first lies below the
second just when its components go on from there without climbing. -/
theorem relativePath_eq_ok_iff {path root : String} (absolute : Path.isAbsolute path = true)
    (absoluteRoot : Path.isAbsolute root = true)
    (unclimbing : Component.parent ∉ Path.components root) :
    (∃ relative, relativePath path root = .ok relative) ↔
      ∃ below, Path.components path = Path.components root ++ below ∧
        Component.parent ∉ below := by
  obtain ⟨steps, pathSteps, inner⟩ := Path.components_of_isAbsolute absolute
  obtain ⟨base, rootSteps, innerBase⟩ := Path.components_of_isAbsolute absoluteRoot
  have straight : ∀ step ∈ base, step ≠ .current ∧ step ≠ .parent := by
    intro step inside
    refine ⟨?_, ?_⟩
    · rintro rfl
      exact innerBase .current inside
    · rintro rfl
      exact unclimbing (by simp [rootSteps, inside])
  obtain ⟨way, walked, lies, taken⟩ := Path.walkFrom_cases steps straight
  have innerWay : ∀ step ∈ way, Path.IsInner step := by
    intro step inside
    rcases taken step inside with rfl | among
    · trivial
    · exact inner step among
  have relative : Path.relative? path root = some (Path.ofComponents way) := by
    simp [Path.relative?, absolute, absoluteRoot, pathSteps, rootSteps, Path.walkFrom, walked]
  rw [relativePath_of_way relative innerWay, pathSteps, rootSteps]
  constructor
  · rintro ⟨result, passed⟩
    split at passed
    next => cases passed
    next down =>
      rcases lies with rfl | climbs
      · exact ⟨way, rfl, down⟩
      · exact absurd climbs down
  · rintro ⟨below, goesOn, down⟩
    obtain rfl : steps = base ++ below := (List.cons.inj goesOn).2
    obtain rfl : way = below := Option.some.inj (walked.symm.trans (Path.walkFrom_append base below))
    rw [if_neg down]
    exact ⟨_, rfl⟩

open Files (writtenBelow)

/-- Names behind a root, however it is written, are the way from the root. -/
theorem relativePath_of_names (root : String) {below : List String} (filled : below ≠ [])
    (names : ∀ name ∈ below, Path.IsName name) :
    relativePath (writtenBelow root below) root =
      .ok (Text.forwardSlashes ("/".intercalate below)) := by
  by_cases nonempty : root ≠ ""
  · exact relativePath_writtenBelow nonempty names filled
  -- Behind the empty path the first name begins the path.
  obtain rfl := not_not.1 nonempty
  obtain ⟨name, rest, rfl⟩ := List.exists_cons_of_ne_nil filled
  have isName := names name (by simp)
  have joined : writtenBelow "" (name :: rest) = writtenBelow name rest := by
    simp [writtenBelow, Path.join]
  have first : Path.components name = [.name name] := by
    have inner : ∀ step ∈ [Component.name name], Path.IsInner step := by
      intro step listed
      obtain rfl := List.mem_singleton.1 listed
      exact isName
    simpa [Path.ofComponents, Component.text] using Path.components_ofComponents inner
  have steps : Path.components (writtenBelow name rest) = (name :: rest).map .name := by
    rw [Path.components_writtenBelow isName.filled fun other inside => names other (by simp [inside]),
      first]
    rfl
  have relative : Path.relative? (writtenBelow name rest) "" =
      some (Path.ofComponents ((name :: rest).map .name)) := by
    rw [Path.relative?, Path.isAbsolute_eq, steps]
    rfl
  have inner : ∀ step ∈ (name :: rest).map Component.name, Path.IsInner step := by
    intro step listed
    obtain ⟨other, inside, rfl⟩ := List.mem_map.1 listed
    exact names other inside
  rw [joined, relativePath_of_way relative inner, if_neg (by simp), Path.ofComponents_names filled]

/-- Names without a backslash are joined to a text without one. -/
theorem backslash_not_mem_intercalate {names : List String}
    (forward : ∀ name ∈ names, '\\' ∉ name.toList) : '\\' ∉ ("/".intercalate names).toList := by
  induction names with
  | nil => simp
  | cons name rest hypothesis =>
    have first := forward name (by simp)
    have later := hypothesis fun other inside => forward other (by simp [inside])
    cases rest with
    | nil => simpa using first
    | cons next others => simpa [String.intercalate_cons_cons, first] using later

/-- Where there is no backslash none is turned. -/
theorem Text.forwardSlashes_of_straight {text : String} (straight : '\\' ∉ text.toList) :
    forwardSlashes text = text := by
  have kept : ∀ c ∈ text.toList, (if c = '\\' then '/' else c) = c := by
    intro c inside
    rw [if_neg]
    rintro rfl
    exact straight inside
  rw [forwardSlashes, List.map_congr_left kept, List.map_id', String.ofList_toList]

/-- Joined names without a backslash have the form that is stored, unless they begin with a
drive. -/
theorem isNormalPath_of_names {below : List String} (filled : below ≠ [])
    (names : ∀ name ∈ below, Path.IsName name) (forward : ∀ name ∈ below, '\\' ∉ name.toList)
    (driveless : ∀ letter rest, ("/".intercalate below).toList = letter :: ':' :: rest →
      Text.isAsciiLetter letter = false) :
    isNormalPath ("/".intercalate below) = true := by
  have cut := Path.splitWhen_intercalate filled fun name inside => (names name inside).whole
  have straight := backslash_not_mem_intercalate forward
  generalize text : "/".intercalate below = joined at *
  obtain ⟨first, rest, rfl⟩ := List.exists_cons_of_ne_nil filled
  have isName := names first (by simp)
  -- The first segment is a name: so no separator comes first, and no current directory.
  have inner : joined.toList.head? ≠ some '/' := by
    intro begins
    obtain ⟨behind, whole⟩ := List.head?_eq_some_iff.1 begins
    rw [whole, Text.splitWhen, if_pos (by simp)] at cut
    simp only [List.map_cons, List.cons.injEq] at cut
    exact isName.filled (String.toList_inj.1 cut.1.symm)
  have skipped : skipCurrent joined.toList = joined.toList := by
    unfold skipCurrent
    split
    next behind whole =>
      have begins : ['.'] = first.toList := by
        rw [whole] at cut
        exact (List.cons.inj cut).1
      exact absurd (String.toList_inj.1 begins.symm) isName.notCurrent
    next => rfl
  have relative : isRooted joined = false := by
    rw [← Bool.not_eq_true, isRooted_eq_true_iff]
    rintro (slash | backslash | ⟨letter, behind, begins, drive⟩)
    · exact inner slash
    · exact straight (List.mem_of_mem_head? backslash)
    · simp [driveless letter behind begins] at drive
  have turned : Text.forwardSlashes joined = joined := Text.forwardSlashes_of_straight straight
  have unclimbing : hasParentSegment joined = false := by
    have agree : ∀ c ∈ joined.toList,
        (fun c => decide (c = '/') || decide (c = '\\')) c = decide (c = '/') := by
      intro c inside
      have different : c ≠ '\\' := fun same => straight (same ▸ inside)
      simp [different]
    rw [hasParentSegment, Text.splitWhen_congr agree, cut, List.contains_eq_mem,
      decide_eq_false_iff_not]
    intro climbs
    obtain ⟨name, inside, same⟩ := List.mem_map.1 climbs
    exact (names name inside).notParent (String.toList_inj.1 same)
  simp [isNormalPath, relative, unclimbing, turned, skipped]

/-- Every symbol of a Java file is one of the file. -/
theorem Java.filePath_symbols (elsewhere : TypeIndex) (source : Source) :
    ∀ symbol ∈ symbols elsewhere source, symbol.filePath = source.relative := by
  intro symbol member
  rw [← map_made, List.mem_map] at member
  obtain ⟨⟨stop, made⟩, emitted, rfl⟩ := member
  have here := (mem_made.1 emitted).2
  obtain ⟨role, above, scope, node⟩ := stop
  cases role with
  | call => exact (place_callSymbols _ _ _ _ _ here).1
  | use => exact (place_useSymbols _ _ _ _ _ here).1
  | _ =>
    obtain rfl := List.mem_singleton.1 here
    rfl

/-- A source that has been loaded knows its path below the root. -/
theorem Source.relative_of_load {files : Files} {path root : String} {source : Source}
    (loaded : load files path root = .ok source) :
    relativePath path root = .ok source.relative := by
  unfold load at loaded
  split at loaded
  next => cases loaded
  next =>
    split at loaded
    next => cases loaded
    next relative located =>
      split at loaded
      next => cases loaded
      next =>
        split at loaded
        next => cases loaded
        next =>
          obtain rfl := Except.ok.inj loaded
          exact located

/-- Every symbol that a parser which is built in finds is one of the file that was loaded. -/
theorem Parser.filePath_parse {parser : Parser} (builtIn : parser.isBuiltIn = true)
    {files : Files} {path root : String} {symbols : List Symbol}
    (parsed : parser.parse files path root = .ok symbols) :
    ∃ relative, relativePath path root = .ok relative ∧
      ∀ symbol ∈ symbols, symbol.filePath = relative := by
  have fromSource {made : Source → List Symbol}
      (file : ∀ source, ∀ symbol ∈ made source, symbol.filePath = source.relative)
      (parsed : (Source.load files path root).map made = .ok symbols) :
      ∃ relative, relativePath path root = .ok relative ∧
        ∀ symbol ∈ symbols, symbol.filePath = relative := by
    cases loaded : Source.load files path root with
    | error error => simp [loaded, Except.map] at parsed
    | ok source =>
      rw [loaded] at parsed
      obtain rfl := Except.ok.inj parsed
      exact ⟨source.relative, Source.relative_of_load loaded, file source⟩
  cases parser with
  | python =>
    exact fromSource (fun source symbol member =>
      ((Python.along_symbols source).exists_node symbol member).1) parsed
  | rust =>
    exact fromSource (fun source symbol member =>
      ((Rust.along_symbols source).exists_node symbol member).1) parsed
  | java types => exact fromSource (Java.filePath_symbols types) parsed
  | custom name extensions setupError parse => simp [isBuiltIn] at builtIn

/-- The names of several entries are usable just when those of each of them are. -/
theorem isNamedAmong_iff (entries : List (String × Entry)) :
    isNamedAmong entries = true ↔
      ∀ binding ∈ entries, isUsableName binding.1 = true ∧ binding.2.isNamed = true := by
  induction entries with
  | nil => simp [isNamedAmong]
  | cons binding rest hypothesis => simp [isNamedAmong, hypothesis]

/-- What lies somewhere in files with usable names has usable names. -/
theorem isNamed_of_entryAt {entries : List (String × Entry)} {names : List String} {entry : Entry}
    (named : isNamedAmong entries = true) (found : entryAt names entries = some entry) :
    entry.isNamed = true := by
  induction names generalizing entries with
  | nil =>
    obtain rfl := Option.some.inj found
    exact named
  | cons first rest hypothesis =>
    unfold entryAt at found
    cases looked : entries.lookup first with
    | none => simp [looked] at found
    | some below =>
      obtain ⟨-, belowNamed⟩ := isNamedAmong_lookup named looked
      cases below with
      | directory inner => exact hypothesis belowNamed (by simpa [looked] using found)
      | file content | link target =>
        simp only [looked, Option.ite_none_right_eq_some, Option.some.injEq] at found
        exact found.2 ▸ belowNamed

/-- Following links brings no other names in than those of the files. -/
theorem Files.isNamed_expand {files : Files} (named : isNamedAmong files.entries = true)
    (depth : Nat) (around : List (List String)) (names : List String) (path : String)
    (entry : Entry) (entryNamed : entry.isNamed = true) :
    (files.expand depth around names path entry).isNamed = true := by
  fun_induction Files.expand files depth around names path entry with
  | case1 => exact entryNamed
  | case2 => rfl
  | case3 depth around names path entries _ hypothesis =>
    refine (isNamedAmong_iff _).2 ?_
    intro binding member
    obtain ⟨⟨name, inner⟩, inside, rfl⟩ := List.mem_map.1 member
    obtain ⟨usable, innerNamed⟩ := (isNamedAmong_iff entries).1 entryNamed _ inside
    exact ⟨usable, hypothesis name inner innerNamed⟩
  | case4 => rfl
  | case5 depth around names path target real entries arrival _ hypothesis =>
    exact hypothesis (isNamed_of_entryAt named (place_eq_present_iff.1 arrival).2.2)
  | case6 => rfl
  | case7 => rfl
  | case8 => rfl

/-- The names on the way to a file below an entry with usable names are usable. -/
theorem isUsableName_of_mem_filesBelow {below : List String} {entry : Entry}
    (named : entry.isNamed = true) (listed : below ∈ entry.filesBelow) :
    ∀ name ∈ below, isUsableName name = true := by
  induction below generalizing entry with
  | nil => simp
  | cons name rest hypothesis =>
    cases entry with
    | file content => simp [Entry.filesBelow] at listed
    | link target => simp [Entry.filesBelow] at listed
    | directory entries =>
      rw [Entry.filesBelow, List.mem_flatMap] at listed
      obtain ⟨⟨first, belows⟩, among, deeper⟩ := listed
      rw [List.mem_mergeSort, filesAmong_eq_map] at among
      obtain ⟨⟨other, inner⟩, inside, group⟩ := List.mem_map.1 among
      obtain ⟨rfl, rfl⟩ := Prod.mk.inj group
      obtain ⟨names, further, same⟩ := List.mem_map.1 deeper
      obtain ⟨rfl, rfl⟩ := List.cons.inj same
      obtain ⟨usable, innerNamed⟩ := (isNamedAmong_iff entries).1 named _ inside
      intro entryName listed
      rcases List.mem_cons.1 listed with rfl | later
      · exact usable
      · exact hypothesis innerNamed further entryName later

/-- Every file of a crawl has the path of the root with names behind it, whether links are
followed or not. -/
theorem Files.exists_names_of_crawled {files : Files} {followLinks : Bool} {root : String}
    {extensions paths : List String} (named : isNamedAmong files.entries = true)
    (crawled : files.crawl followLinks root extensions = .ok paths) {path : String}
    (inside : path ∈ paths) :
    ∃ below, below ≠ [] ∧ (∀ name ∈ below, Path.IsName name) ∧
      path = writtenBelow root below := by
  obtain ⟨-, names, entries, depth, arrival, below, rfl, listed⟩ := of_mem_crawled crawled inside
  have directory : (Entry.directory entries).isNamed = true :=
    isNamed_of_entryAt named (place_eq_present_iff.1 arrival).2.2
  refine ⟨below, ?_, Path.isName_of_usable ?_, rfl⟩
  · rintro rfl
    revert listed
    split
    · cases depth with
      | zero => simp [expand, Entry.filesBelow]
      | succ depth =>
        rw [expand]
        split <;> simp [Entry.filesBelow]
    · simp [Entry.filesBelow]
  · refine isUsableName_of_mem_filesBelow ?_ listed
    split
    · exact isNamed_expand named depth [] names root _ directory
    · exact directory

/-- A path below a root, whatever the root, is relative to it by its names, with backslashes
turned. Where the names hold no backslash and do not begin with a drive, the joined names are
the normal path. The files of a crawl have such paths, and every parser that is built in reports
them; so a crawled file is stored under its path below the root. A rooted path is relative to a
rooted path without climbing steps just when its components go on from there without climbing. -/
theorem stored_under_path_below_root :
    (∀ (root : String) (below : List String), below ≠ [] → (∀ name ∈ below, Path.IsName name) →
      relativePath (writtenBelow root below) root =
          .ok (Text.forwardSlashes ("/".intercalate below)) ∧
      ((∀ name ∈ below, '\\' ∉ name.toList) →
        (∀ letter rest, ("/".intercalate below).toList = letter :: ':' :: rest →
          Text.isAsciiLetter letter = false) →
        (∀ realRoot, normalPath root realRoot (Text.forwardSlashes ("/".intercalate below)) =
          .ok ("/".intercalate below)) ∧
        ∀ (parser : Parser) (files : Files) (symbols : List Symbol), parser.isBuiltIn = true →
          parser.parse files (writtenBelow root below) root = .ok symbols →
          (∀ symbol ∈ symbols, symbol.filePath = "/".intercalate below) ∧
            normalSymbols root (files.realPath? root) symbols = .ok symbols)) ∧
    (∀ (files : Files) (followLinks : Bool) (root : String) (extensions paths : List String),
      isNamedAmong files.entries = true →
      files.crawl followLinks root extensions = .ok paths → ∀ path ∈ paths,
        ∃ below, below ≠ [] ∧ (∀ name ∈ below, Path.IsName name) ∧
          path = writtenBelow root below) ∧
    ∀ path root : String, Path.isAbsolute path = true → Path.isAbsolute root = true →
      Component.parent ∉ Path.components root →
      ((∃ relative, relativePath path root = .ok relative) ↔
        ∃ below, Path.components path = Path.components root ++ below ∧
          Component.parent ∉ below) := by
  refine ⟨?_, ?_, fun path root => relativePath_eq_ok_iff⟩
  · intro root below filled names
    have relative := relativePath_of_names root filled names
    refine ⟨relative, ?_⟩
    intro forward driveless
    have normal := isNormalPath_of_names filled names forward driveless
    have turned : Text.forwardSlashes ("/".intercalate below) = "/".intercalate below :=
      Text.forwardSlashes_of_straight (backslash_not_mem_intercalate forward)
    rw [turned] at relative ⊢
    refine ⟨fun realRoot => normalPath_of_normal normal root realRoot, ?_⟩
    intro parser files symbols builtIn parsed
    obtain ⟨path, found, file⟩ := parser.filePath_parse builtIn parsed
    obtain rfl := Except.ok.inj (found.symm.trans relative)
    refine ⟨file, normalSymbols_of_normal ?_⟩
    rw [List.all_eq_true]
    intro symbol member
    rw [file symbol member]
    exact normal
  · intro files followLinks root extensions paths named crawled path inside
    exact Files.exists_names_of_crawled named crawled inside

/-- Below a root that climbs and is written with a doubled separator and a dot, a name with a
backslash is turned, and a file further down, behind a name like a drive, is crawled and stored
under its path from the root. A file in a directory whose name goes on from that of the root is
not below it. -/
theorem stored_under_path_below_root_climbing :
    let node := fun (rule field : String) (stop : Nat) children =>
      Tree.node { rule := rule, fields := [field], stop := stop } children
    let tree := node "module" "" 3 [node "call" "" 3 [node "identifier" "function" 1 []]]
    let files : Files :=
      { entries :=
          [ ("a", .directory [("b", .directory [("C:", .directory
              [("d.py", .file (.text "f()" (some tree)))])])])
          , ("w", .directory []) ]
        current := ["w"] }
    relativePath "../a//./b\\c" "../a//." = .ok "b/c" ∧
      files.crawl false "../a//." ["py"] = .ok ["../a//./b/C:/d.py"] ∧
      (∃ below, (∀ name ∈ below, Path.IsName name) ∧
        "../a//./b/C:/d.py" = writtenBelow "../a//." below) ∧
      (∃ symbols, Parser.python.parse files "../a//./b/C:/d.py" "../a//." = .ok symbols ∧
        symbols.map Symbol.name = ["f"] ∧ (∀ symbol ∈ symbols, symbol.filePath = "b/C:/d.py") ∧
        normalSymbols "../a//." (files.realPath? "../a//.") symbols = .ok symbols) ∧
      ¬ ∃ relative, relativePath "/work/project-old/a.py" "/work/project" = .ok relative := by
  intro node tree files
  have turned := (stored_under_path_below_root.1 "../a//." ["b\\c"] (by decide) (by decide)).1
  have crawled : files.crawl false "../a//." ["py"] = .ok ["../a//./b/C:/d.py"] := by
    decide +kernel
  obtain ⟨below, -, names, written⟩ := stored_under_path_below_root.2.1 files false "../a//."
    ["py"] _ (by decide +kernel) crawled _ (List.mem_singleton_self _)
  have driveless : ∀ letter rest, ("/".intercalate ["b", "C:", "d.py"]).toList =
      letter :: ':' :: rest → Text.isAsciiLetter letter = false := by
    intro letter rest begins
    exact absurd (List.cons.inj (List.cons.inj begins).2).1 (by decide)
  obtain ⟨symbols, parsed, called⟩ : ∃ symbols,
      Parser.python.parse files "../a//./b/C:/d.py" "../a//." = .ok symbols ∧
        symbols.map Symbol.name = ["f"] := ⟨_, rfl, by decide +kernel⟩
  have stored := ((stored_under_path_below_root.1 "../a//." ["b", "C:", "d.py"] (by decide)
    (by decide)).2 (by decide) driveless).2 .python files symbols rfl parsed
  have outside := stored_under_path_below_root.2.2 "/work/project-old/a.py" "/work/project"
    (by decide) (by decide) (by decide)
  refine ⟨turned, crawled, ⟨below, names, written⟩, ⟨symbols, parsed, called, stored⟩, ?_⟩
  have steps : Path.components "/work/project-old/a.py" =
      [.root, .name "work", .name "project-old", .name "a.py"] := by decide +kernel
  have base : Path.components "/work/project" = [.root, .name "work", .name "project"] := by
    decide +kernel
  rw [outside, steps, base]
  rintro ⟨below, goesOn, -⟩
  simp at goesOn

end SymbolAtlas
