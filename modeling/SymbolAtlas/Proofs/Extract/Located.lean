import Mathlib.Data.List.Basic
import SymbolAtlas.Extract.Source
import SymbolAtlas.Proofs.Files.Reading

/-!
# Loading what was crawled

A path as a crawl writes it has the components of the root and then the names below
it, so it lies below the root in every sense that loading asks for. Whether such a
file can be loaded is therefore a matter of what it holds, and `Content.isLoadable`
says what that has to be: a text whose syntax tree holds no error. A content that is
not loadable cannot be loaded by any path and below any root.
-/

namespace SymbolAtlas

/-- The first piece of a text is empty only if the text is, or is cut at once. -/
theorem Text.head_splitWhen_eq_nil {cut : Char → Bool} {text : List Char}
    (empty : (splitWhen cut text).head? = some []) :
    text = [] ∨ ∃ c rest, text = c :: rest ∧ cut c = true := by
  cases text with
  | nil => exact .inl rfl
  | cons c rest =>
    by_cases cuts : cut c = true
    · exact .inr ⟨c, rest, rfl, cuts⟩
    · rw [splitWhen, if_neg cuts] at empty
      split at empty <;> simp at empty

namespace Path

open Files (writtenBelow)

/-- What a path begins with before its names: the root, or the current directory if that is
written first. -/
def leadingComponents (text : List Char) : List Component :=
  if text.head? = some '/' then [.root]
  else if (Text.splitWhen (· = '/') text).head? = some ['.'] then [.current]
  else []

/-- Only a current directory that is written first is kept. -/
theorem leadingComponents_eq_nil {text : List Char} (inner : text.head? ≠ some '/')
    (alone : text ≠ ['.']) (unled : ∀ rest, text ≠ '.' :: '/' :: rest) :
    leadingComponents text = [] := by
  rw [leadingComponents, if_neg inner, if_neg]
  intro first
  cases text with
  | nil => simp [Text.splitWhen] at first
  | cons c rest =>
    have uncut : c ≠ '/' := by simpa using inner
    obtain ⟨piece, pieces, pieced⟩ := List.exists_cons_of_ne_nil
      (Text.splitWhen_ne_nil (· = '/') rest)
    simp only [Text.splitWhen, uncut, decide_false, Bool.false_eq_true, if_false, pieced,
      List.head?_cons, Option.some.injEq, List.cons.injEq] at first
    obtain ⟨rfl, rfl⟩ := first
    rcases Text.head_splitWhen_eq_nil (by rw [pieced]; rfl) with rfl | ⟨d, others, rfl, cuts⟩
    · exact alone rfl
    · obtain rfl : d = '/' := by simpa using cuts
      exact unled others rfl

/-- The components of a path are these and those of its segments. -/
theorem components_eq (path : String) :
    components path = leadingComponents path.toList ++ bodyComponents path.toList := by
  unfold components
  split
  · rename_i rest text
    simp [leadingComponents, bodyComponents, text, Text.splitWhen, segment?]
  · rename_i text
    simp [leadingComponents, bodyComponents, text, Text.splitWhen, segment?]
  · rename_i rest text
    simp [leadingComponents, bodyComponents, text, Text.splitWhen, segment?]
  · rename_i text rooted alone unled
    rw [leadingComponents_eq_nil ?_ alone unled, List.nil_append]
    intro first
    obtain ⟨rest, begins⟩ := List.head?_eq_some_iff.1 first
    exact rooted rest begins

/-- A text that is a name in a path: it is one segment and means neither the directory at hand
nor the one above. -/
structure IsName (name : String) : Prop where
  filled : name ≠ ""
  notCurrent : name ≠ "."
  notParent : name ≠ ".."
  whole : '/' ∉ name.toList

instance (name : String) : Decidable (IsName name) :=
  decidable_of_iff (name ≠ "" ∧ name ≠ "." ∧ name ≠ ".." ∧ '/' ∉ name.toList)
    ⟨fun ⟨filled, current, parent, whole⟩ => ⟨filled, current, parent, whole⟩,
      fun ⟨filled, current, parent, whole⟩ => ⟨filled, current, parent, whole⟩⟩

/-- Usable names are names. -/
theorem isName_of_usable {names : List String}
    (usable : ∀ name ∈ names, isUsableName name = true) : ∀ name ∈ names, IsName name := by
  intro name inside
  have every := usable name inside
  simp only [isUsableName, Bool.and_eq_true, decide_eq_true_eq] at every
  obtain ⟨⟨⟨⟨⟨filled, current⟩, parent⟩, -⟩, -⟩, -⟩ := every
  exact ⟨filled, current, parent, Files.slash_not_mem_of_usable (usable name inside)⟩

/-- A name is one component. -/
theorem segment?_of_isName {name : String} (isName : IsName name) :
    segment? name.toList = some (.name name) := by
  have texts : ∀ {text : String}, name ≠ text → name.toList ≠ text.toList :=
    fun different same => different (String.toList_inj.1 same)
  have filled : name.toList ≠ [] := texts isName.filled
  have current : name.toList ≠ ['.'] := texts isName.notCurrent
  have parent : name.toList ≠ ['.', '.'] := texts isName.notParent
  simp [segment?, filled, current, parent]

/-- The segments of two texts with a separator between them. -/
theorem bodyComponents_append (front back : List Char) :
    bodyComponents (front ++ '/' :: back) = bodyComponents front ++ bodyComponents back := by
  rw [bodyComponents, Text.splitWhen_append (by simp), List.filterMap_append]
  rfl

/-- What stands behind a separator does not change what a path begins with. -/
theorem leadingComponents_append {front : List Char} (nonempty : front ≠ []) (back : List Char) :
    leadingComponents (front ++ '/' :: back) = leadingComponents front := by
  obtain ⟨piece, pieces, pieced⟩ := List.exists_cons_of_ne_nil
    (Text.splitWhen_ne_nil (· = '/') front)
  obtain ⟨c, rest, rfl⟩ := List.exists_cons_of_ne_nil nonempty
  rw [leadingComponents, leadingComponents, Text.splitWhen_append (by simp), pieced]
  rfl

/-- A name has itself as its only segment. -/
theorem bodyComponents_of_isName {name : String} (isName : IsName name) :
    bodyComponents name.toList = [.name name] := by
  rw [bodyComponents, Files.splitWhen_of_whole isName.whole]
  simp [segment?_of_isName isName]

/-- A name joined to a path is one component more. -/
theorem components_join {directory name : String} (nonempty : directory ≠ "")
    (isName : IsName name) :
    components (join directory name) = components directory ++ [.name name] := by
  obtain ⟨base, joined, text⟩ := Files.toList_join directory name nonempty
  rw [components_eq, components_eq, joined, bodyComponents_append,
    bodyComponents_of_isName isName, ← List.append_assoc]
  congr 1
  rcases text with ⟨same, filled⟩ | ended
  · rw [same, leadingComponents_append filled]
  · rw [ended, bodyComponents_append]
    by_cases empty : base = []
    · subst empty
      rfl
    · rw [leadingComponents_append empty, leadingComponents_append empty]
      simp [bodyComponents, Text.splitWhen, segment?]

/-- A path as a crawl writes it has the components of the root and the names. -/
theorem components_writtenBelow {root : String} {below : List String} (nonempty : root ≠ "")
    (names : ∀ name ∈ below, IsName name) :
    components (writtenBelow root below) = components root ++ below.map .name := by
  unfold writtenBelow
  induction below generalizing root with
  | nil => simp
  | cons name rest hypothesis =>
    have joined : join root name ≠ "" := by
      obtain ⟨base, text, -⟩ := Files.toList_join root name nonempty
      intro empty
      simp [empty] at text
    rw [List.foldl_cons, hypothesis joined fun other inside => names other (by simp [inside]),
      components_join nonempty (names name (by simp)), List.append_assoc]
    rfl

/-- What can stand in a path behind its beginning: a step up, or a name. -/
def IsInner : Component → Prop
  | .parent => True
  | .name text => IsName text
  | _ => False

/-- Behind its beginning a path has inner components only. -/
theorem isInner_of_mem_bodyComponents {text : List Char} {step : Component}
    (member : step ∈ bodyComponents text) : IsInner step := by
  obtain ⟨segment, cut, stands⟩ := List.mem_filterMap.1 member
  unfold segment? at stands
  split at stands
  next => cases stands
  next filled =>
    obtain ⟨nonempty, notCurrent⟩ := not_or.1 filled
    split at stands
    next =>
      obtain rfl := Option.some.inj stands
      trivial
    next notParent =>
      obtain rfl := Option.some.inj stands
      have differs {other : List Char} (different : segment ≠ other) :
          String.ofList segment ≠ String.ofList other :=
        fun same => different (String.ofList_inj.1 same)
      refine ⟨differs nonempty, differs notCurrent, differs notParent, ?_⟩
      rw [String.toList_ofList]
      intro inside
      simpa using Text.not_cut_of_mem_splitWhen cut '/' inside

/-- A path starts at the root exactly when that is its first component. -/
theorem isAbsolute_eq (path : String) :
    isAbsolute path = decide ((components path).head? = some .root) := by
  rw [components_eq, isAbsolute]
  by_cases rooted : path.toList.head? = some '/'
  · simp [rooted, leadingComponents]
  · have behind : (bodyComponents path.toList).head? ≠ some .root :=
      fun first => isInner_of_mem_bodyComponents (List.mem_of_head? first)
    simp only [rooted, decide_false, leadingComponents, if_false]
    split
    · simp
    · simpa using behind

/-- From a path to one that goes on from it, the way is what it goes on by. -/
theorem walkFrom_append (base rest : List Component) :
    walkFrom [] (base ++ rest) base = some rest := by
  induction base with
  | nil => cases rest <;> simp [walkFrom]
  | cons step further hypothesis => simpa [walkFrom] using hypothesis

/-- Names are written one after another. -/
theorem ofComponents_names {below : List String} (filled : below ≠ []) :
    ofComponents (below.map .name) = "/".intercalate below := by
  obtain ⟨name, rest, rfl⟩ := List.exists_cons_of_ne_nil filled
  have texts : (name :: rest).map (Component.text ∘ Component.name) = name :: rest := by
    simp [Function.comp_def, Component.text]
  rw [List.map_cons, ofComponents, ← List.map_cons, List.map_map, texts]
  simp

/-- From the root to a path that a crawl has written, the way is the names below it. -/
theorem relative?_writtenBelow {root : String} {below : List String} (nonempty : root ≠ "")
    (names : ∀ name ∈ below, IsName name) (filled : below ≠ []) :
    relative? (writtenBelow root below) root = some (ofComponents (below.map .name)) := by
  have components := components_writtenBelow nonempty names
  have absolute : isAbsolute (writtenBelow root below) = isAbsolute root := by
    obtain ⟨name, rest, rfl⟩ := List.exists_cons_of_ne_nil filled
    rw [isAbsolute_eq, isAbsolute_eq, components]
    cases Path.components root <;> simp
  rw [relative?, absolute, bne_self_eq_false, if_neg (by simp), components, walkFrom_append,
    Option.map_some]

/-- Texts without a separator, written one after another, are cut into the texts again. -/
theorem splitWhen_intercalate {names : List String} (filled : names ≠ [])
    (whole : ∀ name ∈ names, '/' ∉ name.toList) :
    Text.splitWhen (· = '/') ("/".intercalate names).toList = names.map String.toList := by
  induction names with
  | nil => exact absurd rfl filled
  | cons name rest hypothesis =>
    have one := Files.splitWhen_of_whole (whole name (by simp))
    by_cases last : rest = []
    · subst last
      simpa using one
    · obtain ⟨next, others, rfl⟩ := List.exists_cons_of_ne_nil last
      have further := hypothesis last fun other inside => whole other (by simp [inside])
      have text : ("/".intercalate (name :: next :: others)).toList =
          name.toList ++ '/' :: ("/".intercalate (next :: others)).toList := by
        simp [String.intercalate_cons_cons]
      rw [text, Text.splitWhen_append (by simp), one, further]
      rfl

/-- Inner components have a text, which is one segment and not that of the directory at hand. -/
theorem IsInner.text {step : Component} (inner : IsInner step) :
    '/' ∉ step.text.toList ∧ step.text.toList ≠ [] ∧ step.text.toList ≠ ['.'] ∧
      segment? step.text.toList = some step := by
  cases step with
  | root | current => exact inner.elim
  | parent => decide
  | name text =>
    have isName : IsName text := inner
    refine ⟨isName.whole, ?_, ?_, segment?_of_isName isName⟩
    · intro empty
      exact isName.filled (String.toList_inj.1 empty)
    · intro current
      exact isName.notCurrent (String.toList_inj.1 current)

/-- Inner components that are written one after another are read back. -/
theorem components_ofComponents {steps : List Component} (inner : ∀ step ∈ steps, IsInner step) :
    components (ofComponents steps) = steps := by
  cases steps with
  | nil => decide
  | cons first rest =>
    have notRoot : first ≠ .root := by
      rintro rfl
      exact inner .root (by simp)
    have written : ofComponents (first :: rest) =
        "/".intercalate ((first :: rest).map Component.text) := by
      cases first <;> first | rfl | exact absurd rfl notRoot
    have whole : ∀ text ∈ (first :: rest).map Component.text, '/' ∉ text.toList := by
      intro text listed
      obtain ⟨step, inside, rfl⟩ := List.mem_map.1 listed
      exact (inner step inside).text.1
    have cut := splitWhen_intercalate (by simp) whole
    rw [← written] at cut
    obtain ⟨-, filled, notCurrent, -⟩ := (inner first (by simp)).text
    have leading : leadingComponents (ofComponents (first :: rest)).toList = [] := by
      rw [leadingComponents, if_neg, if_neg]
      · simpa [cut] using notCurrent
      · intro begins
        obtain ⟨behind, text⟩ := List.head?_eq_some_iff.1 begins
        rw [text, Text.splitWhen, if_pos (by simp)] at cut
        simp only [List.map_cons, List.cons.injEq] at cut
        exact filled cut.1.symm
    rw [components_eq, leading, List.nil_append, bodyComponents, cut, List.filterMap_map,
      List.filterMap_map]
    have read : ∀ step ∈ first :: rest,
        ((segment? ∘ String.toList) ∘ Component.text) step = some step :=
      fun step inside => (inner step inside).text.2.2.2
    rw [List.filterMap_congr read, List.filterMap_some]

/-- The last name of a path that a crawl has written is the last of its names. -/
theorem fileName?_writtenBelow {root : String} {below : List String} (nonempty : root ≠ "")
    (names : ∀ name ∈ below, IsName name) (filled : below ≠ []) :
    fileName? (writtenBelow root below) = some (below.getLast filled) := by
  rw [fileName?, components_writtenBelow nonempty names, List.getLast?_append,
    List.getLast?_map, List.getLast?_eq_some_getLast filled]
  rfl

end Path

open Files (writtenBelow)

/-- Which files a crawl wants does not depend on how its root is written, as long as the
walk comes to the same files. -/
theorem Files.wantedBelow_congr {files : Files} {root other : String} {names : List String}
    (tidy : files.isTidy = true) (directory : files.sight names = some .directory)
    (nonempty : root ≠ "") (otherNonempty : other ≠ "")
    (alike : ∀ entry, entryAt names files.entries = some entry →
      ∀ below ∈ entry.filesBelow, isReached root below = isReached other below)
    (extensions : List String) :
    files.wantedBelow root extensions names = files.wantedBelow other extensions names := by
  obtain ⟨inner, there⟩ := sightAt_eq_directory.1 directory
  simp only [Files.isTidy, Bool.and_eq_true] at tidy
  have distinct := isDistinct_of_entryAt tidy.1 there
  simp only [Entry.isDistinct] at distinct
  rw [wantedBelow, wantedBelow, there]
  apply List.filter_congr
  intro below inside
  obtain ⟨content, found⟩ := sightAt_eq_file.1 ((mem_filesBelow_iff distinct).1 inside)
  have filled : below ≠ [] := by
    rintro rfl
    simp [entryAt] at found
  have whole : entryAt (names ++ below) files.entries = some (.file content) := by
    rw [entryAt_append there, found]
  have names : ∀ name ∈ below, Path.IsName name := Path.isName_of_usable fun name listed =>
    isUsableName_of_entryAt tidy.2 whole (by simp [listed])
  simp only [hasExtension, Path.extension?, Path.fileName?_writtenBelow nonempty names filled,
    Path.fileName?_writtenBelow otherNonempty names filled, alike _ there below inside]

/-- A path lies below the root just when the way to it from there does not climb. -/
theorem relativePath_of_way {path root : String} {way : List Component}
    (walked : Path.relative? path root = some (Path.ofComponents way))
    (inner : ∀ step ∈ way, Path.IsInner step) :
    relativePath path root =
      if .parent ∈ way then .error (.outsideRoot path root)
      else .ok (Text.forwardSlashes (Path.ofComponents way)) := by
  simp [relativePath, walked, Path.components_ofComponents inner]

/-- A path that a crawl has written lies below its root, by its names. -/
theorem relativePath_writtenBelow {root : String} {below : List String} (nonempty : root ≠ "")
    (names : ∀ name ∈ below, Path.IsName name) (filled : below ≠ []) :
    relativePath (writtenBelow root below) root =
      .ok (Text.forwardSlashes ("/".intercalate below)) := by
  have inner : ∀ step ∈ below.map Component.name, Path.IsInner step := by
    intro step listed
    obtain ⟨name, inside, rfl⟩ := List.mem_map.1 listed
    exact names name inside
  rw [relativePath_of_way (Path.relative?_writtenBelow nonempty names filled) inner,
    if_neg (by simp), Path.ofComponents_names filled]

/-- Whether a source can be loaded from a file with this content. -/
def Content.isLoadable (content : Content) : Bool :=
  match content.surface with
  | .text _ (some tree) => !tree.mark.hasError
  | _ => false

namespace Source

variable {files other : Files} {path root : String} {content : Content}

/-- Loading depends on what is read of the file, and on nothing else of the files. -/
theorem load_congr (same : other.read path = files.read path) (root : String) :
    load other path root = load files path root := by
  rw [load, load, same]

/-- A file that cannot be read cannot be loaded. -/
theorem load_of_unread {error : FileError} (unread : files.read path = .error error) :
    load files path root = .error (.unreadable path error.message) := by
  rw [load, unread]

/-- A path that reads as a content which is not loadable cannot be loaded. -/
theorem load_of_unloadable (reads : files.read path = content.reading)
    (unloadable : content.isLoadable = false) (root : String) :
    ∃ error, load files path root = .error error := by
  unfold Content.isLoadable at unloadable
  rw [load, reads, Content.reading]
  cases surface : content.surface with
  | bytes raw => exact ⟨_, rfl⟩
  | database number => exact ⟨_, rfl⟩
  | side side number => exact ⟨_, rfl⟩
  | overwritten number inner => exact ⟨_, rfl⟩
  | text text tree =>
    dsimp only
    cases relativePath path root with
    | error error => exact ⟨error, rfl⟩
    | ok relative =>
      cases tree with
      | none => exact ⟨_, rfl⟩
      | some tree =>
        simp only [surface, Bool.not_eq_false'] at unloadable
        simp [unloadable]

/-- A path below the root that cannot be loaded reads as a content which is not loadable. -/
theorem unloadable_of_load {error : ParseError} {relative : String}
    (reads : files.read path = content.reading) (below : relativePath path root = .ok relative)
    (fails : load files path root = .error error) : content.isLoadable = false := by
  rw [load, reads, Content.reading] at fails
  unfold Content.isLoadable
  cases surface : content.surface with
  | bytes raw => rfl
  | database number => rfl
  | side side number => rfl
  | overwritten number inner => rfl
  | text text tree =>
    cases tree with
    | none => rfl
    | some tree =>
      cases broken : tree.mark.hasError with
      | true => simp [broken]
      | false => simp [surface, below, broken] at fails

/-- A crawled file with a sound syntax tree is loaded as what it holds. -/
theorem load_written {files : Files} {root text : String} {names below : List String}
    {tree : Tree} (start : files.CrawlsFrom root names)
    (held : entryAt (names ++ below) files.entries = some (.file (.text text (some tree))))
    (usable : ∀ name ∈ below, isUsableName name = true)
    (short : (writtenBelow root below).utf8ByteSize ≤ Files.pathLimit)
    (sound : tree.mark.hasError = false) :
    load files (writtenBelow root below) root =
      .ok { relative := Text.forwardSlashes ("/".intercalate below), text := text.toList
            tree := tree } := by
  have isFile : files.sight (names ++ below) = some .file := sightAt_eq_file.2 ⟨_, held⟩
  have followed := start.textError?_written usable
  rw [if_neg (Nat.not_lt.2 short)] at followed
  have reads := Files.read_of_leads_entry followed (start.leads_written isFile usable .target) held
  rw [load, reads, relativePath_writtenBelow start.nonempty (Path.isName_of_usable usable)
    (start.filled isFile)]
  simp [Entry.reading, Content.reading, Content.surface, sound]

end Source

end SymbolAtlas
