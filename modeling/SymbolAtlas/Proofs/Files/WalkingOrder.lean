import SymbolAtlas.Proofs.Extract.Located
import SymbolAtlas.Proofs.Text.ByteOrder

/-!
# The order of a walk

A walk goes through the names of a directory in the order of their bytes, and through
what lies below a name before it goes on to the next. So the files that it lists stand
in the order of their names from the root, compared one name after the other. This is
not the order of their paths as texts: the files of a directory `a` come before a file
`a-b`, although the hyphen sorts before the separator.

The order is strict, so a list in it is known by its members. What a crawl gives is
therefore fixed by which names lead to files, and not by the order in which the entries
of a directory came to be. The main result is `Files.crawl_in_order`.
-/

namespace SymbolAtlas

/-- Names from a root come before others: at the first place where the two differ they
have the name with the smaller bytes, or they end there. -/
def NamesBefore (left right : List String) : Prop :=
  left.map Text.bytes < right.map Text.bytes

instance (left right : List String) : Decidable (NamesBefore left right) :=
  inferInstanceAs (Decidable (_ < _))

/-- The first names decide where they differ. -/
theorem namesBefore_of_lt {name other : String} (less : name < other)
    (rest others : List String) : NamesBefore (name :: rest) (other :: others) := by
  rw [NamesBefore, List.map_cons, List.map_cons, List.cons_lt_cons_iff]
  exact .inl ((Text.lt_iff_bytes_lt name other).1 less)

/-- A name in front of both changes nothing. -/
theorem NamesBefore.cons {left right : List String} (before : NamesBefore left right)
    (name : String) : NamesBefore (name :: left) (name :: right) := by
  rw [NamesBefore, List.map_cons, List.map_cons, List.cons_lt_cons_iff]
  exact .inr ⟨rfl, before⟩

/-- No names come both before and behind others. -/
theorem NamesBefore.asymm {left right : List String} (before : NamesBefore left right) :
    ¬ NamesBefore right left :=
  List.lt_asymm before

/-- Two lists in strict order that have the same members are the same. -/
theorem eq_of_ascending {left right : List (List String)} (first : left.Pairwise NamesBefore)
    (second : right.Pairwise NamesBefore) (same : ∀ names, names ∈ left ↔ names ∈ right) :
    left = right := by
  have distinct {list : List (List String)} (ascending : list.Pairwise NamesBefore) :
      list.Nodup := by
    refine ascending.imp ?_
    rintro names others before rfl
    exact before.asymm before
  refine ((List.perm_ext_iff_of_nodup (distinct first) (distinct second)).2 same).eq_of_pairwise
    ?_ first second
  intro names others _ _ before behind
  exact absurd behind before.asymm

/-- Entries with distinct names give groups with distinct names. -/
theorem nodup_map_filesAmong {entries : List (String × Entry)}
    (distinct : isDistinctAmong entries = true) :
    ((filesAmong entries).map Prod.fst).Nodup := by
  induction entries with
  | nil => simp [filesAmong]
  | cons binding rest hypothesis =>
    obtain ⟨name, entry⟩ := binding
    simp only [isDistinctAmong, Bool.and_eq_true, Option.isNone_iff_eq_none] at distinct
    rw [filesAmong, List.map_cons, List.nodup_cons]
    refine ⟨?_, hypothesis distinct.2⟩
    intro listed
    obtain ⟨group, inside, rfl⟩ := List.mem_map.1 listed
    obtain ⟨other, found, -⟩ := exists_of_mem_filesAmong distinct.2 inside
    simp [found] at distinct

/-- Sorted by name, the groups of a directory stand in strict order. -/
theorem mergeSort_filesAmong_ascends {entries : List (String × Entry)}
    (distinct : isDistinctAmong entries = true) :
    ((filesAmong entries).mergeSort nameOrder).Pairwise fun left right => left.1 < right.1 := by
  have sorted : ((filesAmong entries).mergeSort nameOrder).Pairwise
      fun left right => nameOrder left right = true :=
    List.pairwise_mergeSort nameOrder_trans nameOrder_total _
  have apart : ((filesAmong entries).mergeSort nameOrder).Pairwise
      fun left right => left.1 ≠ right.1 := by
    rw [← List.pairwise_map]
    exact ((List.mergeSort_perm _ _).map Prod.fst).nodup_iff.2 (nodup_map_filesAmong distinct)
  refine sorted.imp₂ ?_ apart
  intro left right ordered different
  simp only [nameOrder, decide_eq_true_eq] at ordered
  exact Std.lt_of_le_of_ne ordered different

mutual

/-- The files below an entry are listed in strict order. -/
theorem Entry.filesBelow_ascends : (entry : Entry) → entry.isDistinct = true →
    entry.filesBelow.Pairwise NamesBefore
  | .file _, _ => by simp [Entry.filesBelow]
  | .link _, _ => by simp [Entry.filesBelow]
  | .directory entries, distinct => by
    rw [Entry.isDistinct] at distinct
    rw [filesBelow_directory, List.pairwise_flatMap]
    constructor
    · intro group inside
      have ascending := filesAmong_ascends entries distinct group
        ((List.mergeSort_perm _ _).mem_iff.1 inside)
      exact List.pairwise_map.2 (ascending.imp fun before => before.cons group.1)
    · refine (mergeSort_filesAmong_ascends distinct).imp ?_
      intro left right less names inLeft others inRight
      obtain ⟨rest, -, rfl⟩ := List.mem_map.1 inLeft
      obtain ⟨further, -, rfl⟩ := List.mem_map.1 inRight
      exact namesBefore_of_lt less rest further

/-- So are those below each of several entries. -/
theorem filesAmong_ascends : (entries : List (String × Entry)) →
    isDistinctAmong entries = true →
      ∀ group ∈ filesAmong entries, group.2.Pairwise NamesBefore
  | [], _ => by simp [filesAmong]
  | (name, entry) :: rest, distinct => by
    simp only [isDistinctAmong, Bool.and_eq_true] at distinct
    intro group inside
    rw [filesAmong] at inside
    rcases List.mem_cons.1 inside with rfl | later
    · exact entry.filesBelow_ascends distinct.1.2
    · exact filesAmong_ascends rest distinct.2 group later

end

/-- A name ends in one of these extensions, up to the case of ASCII letters. The extension
of a name is what stands behind its last dot, where something stands before the dot. -/
def EndsIn (extensions : List String) (name : String) : Prop :=
  ∃ stem extension, stem ≠ [] ∧ name.toList = stem ++ '.' :: extension ∧ '.' ∉ extension ∧
    ∃ wanted ∈ extensions, extension.map Char.toLower = wanted.toList.map Char.toLower

/-- The last dot decides. -/
theorem endsIn_iff {extensions : List String} {name : String} :
    EndsIn extensions name ↔
      (Text.splitLast '.' name.toList).any (fun cut => !cut.1.isEmpty &&
        extensions.any (Text.sameIgnoringCase (String.ofList cut.2))) = true := by
  have alike (extension : List Char) :
      extensions.any (Text.sameIgnoringCase (String.ofList extension)) = true ↔
        ∃ wanted ∈ extensions, extension.map Char.toLower = wanted.toList.map Char.toLower := by
    simp [Text.sameIgnoringCase]
  rw [Option.any_eq_true]
  constructor
  · rintro ⟨stem, extension, filled, whole, last, wanted⟩
    refine ⟨(stem, extension), Text.splitLast_eq_some_iff.2 ⟨whole, last⟩, ?_⟩
    simpa [filled] using (alike extension).2 wanted
  · rintro ⟨⟨stem, extension⟩, cut, matched⟩
    obtain ⟨whole, last⟩ := Text.splitLast_eq_some_iff.1 cut
    simp only [Bool.and_eq_true, Bool.not_eq_true', List.isEmpty_eq_false_iff] at matched
    exact ⟨stem, extension, matched.1, whole, last, (alike extension).1 matched.2⟩

instance (extensions : List String) (name : String) : Decidable (EndsIn extensions name) :=
  decidable_of_iff' _ endsIn_iff

namespace Files

variable {files : Files} {root : String} {extensions names below other : List String}
  {entries : List (String × Entry)}

/-- A crawl can start from a path that leads to a directory which may be listed. -/
theorem crawlsFrom_of_place (arrival : files.place root = .present names (.directory entries))
    (listed : names ∉ files.unlisted) :
    files.CrawlsFrom root names ∧ entryAt names files.entries = some (.directory entries) := by
  obtain ⟨sound, leads, there⟩ := place_eq_present_iff.1 arrival
  exact ⟨⟨sound, leads, sightAt_eq_directory.2 ⟨entries, there⟩, listed⟩, there⟩

/-- A crawl wants a path for its last name. -/
theorem hasExtension_writtenBelow_iff (nonempty : root ≠ "")
    (usable : ∀ name ∈ below, isUsableName name = true) (filled : below ≠ []) :
    hasExtension extensions (writtenBelow root below) = true ↔
      EndsIn extensions (below.getLast filled) := by
  rw [hasExtension, Path.extension?,
    Path.fileName?_writtenBelow nonempty (Path.isName_of_usable usable) filled, Option.bind_some,
    endsIn_iff]
  cases Text.splitLast '.' (below.getLast filled).toList with
  | none => simp
  | some cut =>
    obtain ⟨stem, extension⟩ := cut
    cases stem <;> simp

/-- Different names give different paths. -/
theorem writtenBelow_inj (nonempty : root ≠ "")
    (usable : ∀ name ∈ below, isUsableName name = true)
    (otherUsable : ∀ name ∈ other, isUsableName name = true)
    (same : writtenBelow root below = writtenBelow root other) : below = other := by
  have components := congrArg Path.components same
  rw [Path.components_writtenBelow nonempty (Path.isName_of_usable usable),
    Path.components_writtenBelow nonempty (Path.isName_of_usable otherUsable)] at components
  exact (List.map_inj_right fun _ _ => Component.name.inj).1
    (List.append_cancel_left components)

/-- What is listed below a root, of which the names and the entries are given: a regular file,
not a link to one, whose name ends in a wanted extension, and which lies in a directory whose
path can be followed, behind none that may not be listed. -/
structure IsListed (files : Files) (root : String) (extensions names : List String)
    (entries : List (String × Entry)) (below : List String) : Prop where
  isFile : sightAt below entries = some .file
  isWanted : ∃ name, below.getLast? = some name ∧ EndsIn extensions name
  isReached : (writtenBelow root below.dropLast).utf8ByteSize ≤ pathLimit
  isShown : ∀ around, around <+: below → around ≠ below → names ++ around ∉ files.unlisted

/-- A crawl finds just what is listed. -/
theorem mem_wantedBelow_iff (tidy : files.isTidy = true) (nonempty : root ≠ "")
    (there : entryAt names files.entries = some (.directory entries)) :
    below ∈ files.wantedBelow root extensions names ↔
      files.IsListed root extensions names entries below := by
  simp only [isTidy, Bool.and_eq_true] at tidy
  have distinct := isDistinct_of_entryAt tidy.1 there
  simp only [Entry.isDistinct] at distinct
  rw [wantedBelow, there, List.mem_filter, mem_filesBelow_iff distinct]
  -- A file has a last name, which is wanted or not, since all names that lead to it are usable.
  have wanted (isFile : sightAt below entries = some .file) :
      hasExtension extensions (writtenBelow root below) = true ↔
        ∃ name, below.getLast? = some name ∧ EndsIn extensions name := by
    obtain ⟨content, held⟩ := sightAt_eq_file.1 isFile
    have filled : below ≠ [] := by
      rintro rfl
      simp [entryAt] at held
    have whole : entryAt (names ++ below) files.entries = some (.file content) := by
      rw [entryAt_append there, held]
    rw [hasExtension_writtenBelow_iff nonempty
      (fun name inside => isUsableName_of_entryAt tidy.2 whole (by simp [inside])) filled]
    simp [List.getLast?_eq_some_getLast filled]
  constructor
  · rintro ⟨isFile, kept⟩
    rw [Bool.and_eq_true, Bool.and_eq_true, wanted isFile] at kept
    exact ⟨isFile, kept.1, of_decide_eq_true kept.2.1, showsAll_eq_true_iff.1 kept.2.2⟩
  · rintro ⟨isFile, ends, reached, shown⟩
    rw [Bool.and_eq_true, Bool.and_eq_true, wanted isFile]
    exact ⟨isFile, ends, decide_eq_true reached, showsAll_eq_true_iff.2 shown⟩

/-- The files that a crawl finds stand in strict order. -/
theorem wantedBelow_ascends (tidy : files.isTidy = true)
    (directory : files.sight names = some .directory) :
    (files.wantedBelow root extensions names).Pairwise NamesBefore := by
  obtain ⟨inner, there⟩ := sightAt_eq_directory.1 directory
  simp only [isTidy, Bool.and_eq_true] at tidy
  rw [wantedBelow, there]
  exact ((Entry.directory inner).filesBelow_ascends (isDistinct_of_entryAt tidy.1 there)).filter _

/-- No two of them have the same path. -/
theorem nodup_map_writtenBelow (tidy : files.isTidy = true)
    (start : files.CrawlsFrom root names) :
    ((files.wantedBelow root extensions names).map (writtenBelow root)).Nodup := by
  refine List.pairwise_map.2 ((wantedBelow_ascends tidy start.directory).imp_of_mem ?_)
  intro below other inside otherInside before same
  obtain rfl := writtenBelow_inj start.nonempty
    (of_mem_wantedBelow tidy start.directory inside).2
    (of_mem_wantedBelow tidy start.directory otherInside).2 same
  exact before.asymm before

/-- A crawl that follows no links gives just the files that are listed below its root, each
once, in strict order of their names from the root. Any other files that have the same
regular files below that root, and the same directories there that may not be listed, are
crawled alike, in whatever order their entries came to be. A root that may not be listed is
reported, and so is one that is missing or is no directory. -/
theorem crawl_in_order (files : Files) (tidy : files.isTidy = true) (root : String)
    (extensions : List String) :
    (∀ names entries, files.place root = .present names (.directory entries) →
      names ∉ files.unlisted →
      ∃ found : List (List String),
        files.crawl false root extensions = .ok (found.map (writtenBelow root)) ∧
        (found.map (writtenBelow root)).Nodup ∧
        found.Pairwise NamesBefore ∧
        (∀ below, below ∈ found ↔ files.IsListed root extensions names entries below) ∧
        ∀ (other : Files) (otherNames : List String) (otherEntries : List (String × Entry)),
          other.isTidy = true →
          other.place root = .present otherNames (.directory otherEntries) →
          (∀ below, sightAt below otherEntries = some .file ↔
            sightAt below entries = some .file) →
          (∀ below, otherNames ++ below ∈ other.unlisted ↔ names ++ below ∈ files.unlisted) →
          other.crawl false root extensions = files.crawl false root extensions) ∧
    (∀ names entries, files.place root = .present names (.directory entries) →
      names ∈ files.unlisted →
      files.crawl false root extensions = .error (.walk root .denied)) ∧
    (files.isDirectory root = false →
      files.crawl false root extensions = .error (.invalidRoot root)) := by
  refine ⟨?_, ?_, ?_⟩
  · intro names entries arrival showable
    obtain ⟨start, there⟩ := crawlsFrom_of_place arrival showable
    have crawled : files.crawl false root extensions =
        .ok ((files.wantedBelow root extensions names).map (writtenBelow root)) :=
      crawl_eq_ok_iff.2 ⟨names, start, rfl⟩
    have ascends : (files.wantedBelow root extensions names).Pairwise NamesBefore :=
      wantedBelow_ascends tidy start.directory
    have listed : ∀ below, below ∈ files.wantedBelow root extensions names ↔
        files.IsListed root extensions names entries below :=
      fun below => mem_wantedBelow_iff tidy start.nonempty there
    refine ⟨_, crawled, nodup_map_writtenBelow tidy start, ascends, listed, ?_⟩
    intro other otherNames otherEntries otherTidy otherArrival same hidden
    have otherShowable : otherNames ∉ other.unlisted := by
      have here := hidden []
      simp only [List.append_nil] at here
      rwa [here]
    obtain ⟨otherStart, otherThere⟩ := crawlsFrom_of_place otherArrival otherShowable
    rw [crawled]
    refine crawl_eq_ok_iff.2 ⟨otherNames, otherStart, congrArg (List.map (writtenBelow root)) ?_⟩
    refine eq_of_ascending ascends (wantedBelow_ascends otherTidy otherStart.directory) ?_
    intro below
    rw [listed, mem_wantedBelow_iff otherTidy otherStart.nonempty otherThere]
    constructor
    · rintro ⟨isFile, wanted, reached, shown⟩
      refine ⟨(same below).2 isFile, wanted, reached, fun around begins proper => ?_⟩
      rw [hidden]
      exact shown around begins proper
    · rintro ⟨isFile, wanted, reached, shown⟩
      refine ⟨(same below).1 isFile, wanted, reached, fun around begins proper => ?_⟩
      rw [← hidden]
      exact shown around begins proper
  · intro names entries arrival unlisted
    simp [crawl, arrival, unlisted]
  · intro missing
    cases arrival : files.place root with
    | present names entry =>
      cases entry with
      | directory entries => simp [isDirectory, arrival] at missing
      | file content => rw [crawl, arrival]
      | link target => rw [crawl, arrival]
    | absent names name => rw [crawl, arrival]
    | failed error => rw [crawl, arrival]

/-- A directory whose name begins that of a file, a link, a name that is all extension and
one in capitals, and a directory that may not be listed; and a directory of the same files,
made in another order. -/
theorem crawl_in_order_mixed :
    let entry : Entry := .file (.text "" none)
    let entries : List (String × Entry) :=
      [ ("a.py", entry), (".py", entry), ("l.py", .link "a.py"), ("s", .directory [("y.py", entry)])
      , ("a", .directory [("x.PY", entry)]) ]
    let otherEntries : List (String × Entry) :=
      [ ("a", .directory [("x.PY", entry)]), ("s", .directory [("y.py", entry)]), (".py", entry)
      , ("a.py", entry) ]
    let files : Files := { entries := [("p", .directory entries)], unlisted := [["p", "s"]] }
    let other : Files := { entries := [("p", .directory otherEntries)], unlisted := [["p", "s"]] }
    (files.isTidy = true ∧ files.place "p" = .present ["p"] (.directory entries) ∧
      other.isTidy = true ∧ other.place "p" = .present ["p"] (.directory otherEntries)) ∧
      (∃ found : List (List String),
        files.crawl false "p" ["py"] = .ok (found.map (writtenBelow "p")) ∧
        other.crawl false "p" ["py"] = .ok (found.map (writtenBelow "p")) ∧
        found = [["a", "x.PY"], ["a.py"]]) ∧
      files.crawl false "p/s" ["py"] = .error (.walk "p/s" .denied) := by
  intro entry entries otherEntries files other
  have tidy : files.isTidy = true := by decide +kernel
  have otherTidy : other.isTidy = true := by decide +kernel
  refine ⟨⟨tidy, rfl, otherTidy, rfl⟩, ?_, ?_⟩
  rotate_left
  · exact (crawl_in_order files tidy "p/s" ["py"]).2.1 ["p", "s"] [("y.py", entry)] rfl
      (by decide)
  obtain ⟨found, crawled, -, ascends, listed, alike⟩ :=
    (crawl_in_order files tidy "p" ["py"]).1 ["p"] entries rfl (by decide)
  -- Both directories have the same four files, by whatever names one asks.
  have held : ∀ below, sightAt below entries = some .file ↔
      below ∈ [[".py"], ["a", "x.PY"], ["a.py"], ["s", "y.py"]] := by
    intro below
    have listing : ((filesAmong entries).flatMap behind).Perm
        [[".py"], ["a", "x.PY"], ["a.py"], ["s", "y.py"]] := by
      decide +kernel
    rw [← mem_filesBelow_iff (by decide +kernel), mem_filesBelow_directory, listing.mem_iff]
  have otherHeld : ∀ below, sightAt below otherEntries = some .file ↔
      below ∈ [[".py"], ["a", "x.PY"], ["a.py"], ["s", "y.py"]] := by
    intro below
    have listing : ((filesAmong otherEntries).flatMap behind).Perm
        [[".py"], ["a", "x.PY"], ["a.py"], ["s", "y.py"]] := by
      decide +kernel
    rw [← mem_filesBelow_iff (by decide +kernel), mem_filesBelow_directory, listing.mem_iff]
  have same := fun below => (otherHeld below).trans (held below).symm
  refine ⟨found, crawled,
    (alike other ["p"] otherEntries otherTidy rfl same fun _ => Iff.rfl).trans crawled, ?_⟩
  refine eq_of_ascending ascends (by decide +kernel) ?_
  intro below
  rw [listed]
  constructor
  · rintro ⟨isFile, ⟨name, last, ends⟩, -, shown⟩
    have among := (held below).1 isFile
    simp only [List.mem_cons, List.not_mem_nil, or_false] at among ⊢
    rcases among with rfl | rfl | rfl | rfl
    · obtain rfl := Option.some.inj last
      exact absurd ends (by decide +kernel)
    · exact .inl rfl
    · exact .inr rfl
    · exact absurd List.mem_cons_self (shown ["s"] (by decide) (by decide))
  · intro inside
    have isFile : sightAt below entries = some .file := by
      refine (held below).2 ?_
      simp only [List.mem_cons, List.not_mem_nil, or_false] at inside ⊢
      exact .inr (inside.elim .inl fun last => .inr (.inl last))
    have shown : files.showsAll ["p"] below = true := by
      rcases List.mem_cons.1 inside with rfl | last
      · decide +kernel
      · obtain rfl := List.mem_singleton.1 last
        decide +kernel
    refine ⟨isFile, ?_, ?_, showsAll_eq_true_iff.1 shown⟩
    all_goals
      rcases List.mem_cons.1 inside with rfl | last
      · first | exact ⟨_, rfl, by decide +kernel⟩ | decide +kernel
      · obtain rfl := List.mem_singleton.1 last
        first | exact ⟨_, rfl, by decide +kernel⟩ | decide +kernel

section DeepFile

/-- A project with one file, in a directory below its root. -/
def deepProject : Files where
  entries := [("p", .directory [("s", .directory [("a.py", .file (.text "" none))])])]

variable {root : String}

/-- The file is missed by a root that leaves no room for the directory that it lies in. -/
theorem crawl_deepProject (start : deepProject.CrawlsFrom root ["p"])
    (exceeds : pathLimit < (Path.join root "s").utf8ByteSize) (extensions : List String) :
    deepProject.crawl false root extensions = .ok [] := by
  have unreached : isReached root ["s", "a.py"] = false :=
    decide_eq_false (Nat.not_le.2 exceeds)
  have there : entryAt ["p"] deepProject.entries =
    some (.directory [("s", .directory [("a.py", .file (.text "" none))])]) := rfl
  have listing : (Entry.directory
      [("s", .directory [("a.py", .file (.text "" none))])]).filesBelow = [["s", "a.py"]] := by
    decide +kernel
  refine crawl_eq_ok_iff.2 ⟨["p"], start, ?_⟩
  simp [wantedBelow, there, listing, unreached]

/-- By a path that is as long as it may be, a file in a directory below it is missed: it is
there, has a wanted extension, and is not in the list. -/
theorem crawl_misses_deep_file :
    let root := separated "p" 4094
    let entries := [("s", Entry.directory [("a.py", .file (.text "" none))])]
    deepProject.isTidy = true ∧
      deepProject.place root = .present ["p"] (.directory entries) ∧
      sightAt ["s", "a.py"] entries = some .file ∧ EndsIn ["py"] "a.py" ∧
      deepProject.crawl false root ["py"] = .ok [] := by
  intro root entries
  have plain : deepProject.CrawlsFrom "p" ["p"] :=
    ⟨rfl, (place_eq_present_iff.1 rfl).2.1, rfl, by decide⟩
  have start : deepProject.CrawlsFrom root ["p"] := plain.separated (by decide)
  have exceeds : pathLimit < (Path.join root "s").utf8ByteSize := by
    have size : (Path.join root "s").utf8ByteSize = 4096 :=
      utf8ByteSize_join_separated "p" "s" 4093
    rw [size]
    decide
  have arrival : deepProject.place root = .present ["p"] (.directory entries) :=
    place_eq_present_iff.2 ⟨start.sound, start.leads, rfl⟩
  exact ⟨by decide +kernel, arrival, rfl, by decide +kernel, crawl_deepProject start exceeds _⟩

end DeepFile

end Files

end SymbolAtlas
