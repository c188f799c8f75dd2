import SymbolAtlas.Files.Crawl
import SymbolAtlas.Proofs.Files.Resuming

/-!
# What a crawl finds

A crawl that follows no links lists the regular files below a directory, each once,
and writes each as the root followed by the names below it. So each path that is
found leads to one file, and to a file leads one path at most.

Taking one file away takes its path out of the crawl and leaves the others in their
order; and where a root cannot be crawled, it cannot be without the file either.
-/

namespace SymbolAtlas

/-- The names of files below an entry of a directory, with the name of the entry before
them. -/
def behind (group : String × List (List String)) : List (List String) :=
  group.2.map fun names => group.1 :: names

/-- The files below a directory are those of its entries in the order of their names. -/
theorem filesBelow_directory (entries : List (String × Entry)) :
    (Entry.directory entries).filesBelow =
      ((filesAmong entries).mergeSort nameOrder).flatMap behind := by
  rw [Entry.filesBelow]
  rfl

/-- Entries that stand in the order of their names are gone through as they stand. -/
theorem filesBelow_directory_of_ordered {entries : List (String × Entry)}
    (ordered : (filesAmong entries).Pairwise fun left right => nameOrder left right = true) :
    (Entry.directory entries).filesBelow = (filesAmong entries).flatMap behind := by
  rw [filesBelow_directory, List.mergeSort_of_pairwise ordered]

/-- Names that do not begin with the name of an entry are not below it. -/
theorem count_behind (name other : String) (rest : List String) (below : List (List String)) :
    (behind (other, below)).count (name :: rest) =
      if other = name then below.count rest else 0 := by
  unfold behind
  induction below with
  | nil => simp
  | cons first others hypothesis =>
    dsimp only at hypothesis ⊢
    rw [List.map_cons, List.count_cons, hypothesis, List.count_cons]
    by_cases same : other = name
    · simp [same]
    · simp [same]

/-- Below several entries with distinct names, names are listed as often as below the entry
that the first of them leads to. -/
theorem count_filesAmong {entries : List (String × Entry)}
    (distinct : isDistinctAmong entries = true) (name : String) (rest : List String) :
    ((filesAmong entries).flatMap behind).count (name :: rest) =
      match entries.lookup name with
      | some entry => entry.filesBelow.count rest
      | none => 0 := by
  induction entries with
  | nil => simp [filesAmong]
  | cons binding others hypothesis =>
    obtain ⟨other, old⟩ := binding
    simp only [isDistinctAmong, Bool.and_eq_true] at distinct
    rw [filesAmong, List.flatMap_cons, List.count_append, count_behind,
      hypothesis distinct.2]
    by_cases same : other = name
    · subst same
      have alone : others.lookup other = none := by simpa using distinct.1.1
      simp [alone]
    · rw [List.lookup_cons, beq_eq_false_iff_ne.2 (Ne.symm same), if_neg same, Nat.zero_add]

/-- The order of the entries does not matter for how often names are listed. -/
theorem count_filesBelow_directory (entries : List (String × Entry)) (below : List String) :
    (Entry.directory entries).filesBelow.count below =
      ((filesAmong entries).flatMap behind).count below := by
  have sorted := (List.mergeSort_perm (filesAmong entries) nameOrder).flatMap_right behind
  rw [filesBelow_directory, sorted.count_eq]

/-- Nor does it matter for which are listed. -/
theorem mem_filesBelow_directory {entries : List (String × Entry)} {below : List String} :
    below ∈ (Entry.directory entries).filesBelow ↔
      below ∈ (filesAmong entries).flatMap behind := by
  rw [← List.count_pos_iff, count_filesBelow_directory, List.count_pos_iff]

/-- Every file below a directory is listed once, and nothing else is. -/
theorem count_filesBelow {entries : List (String × Entry)}
    (distinct : isDistinctAmong entries = true) (below : List String) :
    (Entry.directory entries).filesBelow.count below =
      if sightAt below entries = some .file then 1 else 0 := by
  induction below generalizing entries with
  | nil =>
    have absent : [] ∉ (filesAmong entries).flatMap behind := by
      intro inside
      obtain ⟨group, -, listed⟩ := List.mem_flatMap.1 inside
      simp [behind] at listed
    rw [count_filesBelow_directory, List.count_eq_zero.2 absent]
    simp [sightAt, entryAt, Entry.sight]
  | cons name rest hypothesis =>
    rw [count_filesBelow_directory, count_filesAmong distinct]
    unfold sightAt entryAt
    cases looked : entries.lookup name with
    | none => simp
    | some entry =>
      cases entry with
      | link target =>
        by_cases last : rest = [] <;> simp [Entry.filesBelow, last, Entry.sight]
      | file content =>
        cases rest with
        | nil => simp [Entry.filesBelow, Entry.sight]
        | cons next further => simp [Entry.filesBelow]
      | directory inner =>
        have innerDistinct := isDistinct_of_lookup distinct looked
        simp only [Entry.isDistinct] at innerDistinct
        exact hypothesis innerDistinct

/-- Names are listed exactly when they lead to a file. -/
theorem mem_filesBelow_iff {entries : List (String × Entry)}
    (distinct : isDistinctAmong entries = true) {below : List String} :
    below ∈ (Entry.directory entries).filesBelow ↔ sightAt below entries = some .file := by
  rw [← List.count_pos_iff, count_filesBelow distinct]
  split
  · simp [*]
  · simp [*]

/-- An entry is found by its name where names are distinct. -/
theorem lookup_of_mem {entries : List (String × Entry)} {name : String} {entry : Entry}
    (distinct : isDistinctAmong entries = true) (inside : (name, entry) ∈ entries) :
    entries.lookup name = some entry := by
  induction entries with
  | nil => simp at inside
  | cons binding rest hypothesis =>
    obtain ⟨other, old⟩ := binding
    simp only [isDistinctAmong, Bool.and_eq_true] at distinct
    rcases List.mem_cons.1 inside with same | later
    · obtain ⟨rfl, rfl⟩ := Prod.mk.inj same
      simp
    · have found := hypothesis distinct.2 later
      have different : name ≠ other := by
        rintro rfl
        simp [found] at distinct
      rw [List.lookup_cons, beq_eq_false_iff_ne.2 different, found]

/-- There is one group for each entry. -/
theorem filesAmong_eq_map (entries : List (String × Entry)) :
    filesAmong entries = entries.map fun binding => (binding.1, binding.2.filesBelow) := by
  induction entries with
  | nil => rfl
  | cons binding rest hypothesis => rw [filesAmong, hypothesis, List.map_cons]

/-- The group of a name comes from the entry of that name. -/
theorem exists_of_mem_filesAmong {entries : List (String × Entry)}
    {group : String × List (List String)} (distinct : isDistinctAmong entries = true)
    (inside : group ∈ filesAmong entries) :
    ∃ entry, entries.lookup group.1 = some entry ∧ group.2 = entry.filesBelow := by
  rw [filesAmong_eq_map] at inside
  obtain ⟨⟨name, entry⟩, listed, rfl⟩ := List.mem_map.1 inside
  exact ⟨entry, lookup_of_mem distinct listed, rfl⟩

/-- The order of names is transitive. -/
theorem nameOrder_trans {α : Type} (a b c : String × α) (first : nameOrder a b = true)
    (second : nameOrder b c = true) : nameOrder a c = true := by
  simp only [nameOrder, decide_eq_true_eq] at first second ⊢
  exact String.le_trans first second

/-- Of two names one comes first. -/
theorem nameOrder_total {α : Type} (a b : String × α) :
    (nameOrder a b || nameOrder b a) = true := by
  simpa [nameOrder] using String.le_total a.1 b.1

/-- Sorting by distinct names and leaving groups out can be done in either order. -/
theorem mergeSort_filter {entries : List (String × Entry)}
    (distinct : isDistinctAmong entries = true) (keep : String × List (List String) → Bool) :
    ((filesAmong entries).filter keep).mergeSort nameOrder =
      ((filesAmong entries).mergeSort nameOrder).filter keep := by
  -- Two groups with one name come from one entry.
  have antisymm : ∀ a b, a ∈ filesAmong entries → b ∈ filesAmong entries →
      nameOrder a b = true → nameOrder b a = true → a = b := by
    intro a b insideA insideB first second
    simp only [nameOrder, decide_eq_true_eq] at first second
    have same := String.le_antisymm first second
    obtain ⟨entryA, foundA, belowA⟩ := exists_of_mem_filesAmong distinct insideA
    obtain ⟨entryB, foundB, belowB⟩ := exists_of_mem_filesAmong distinct insideB
    rw [same, foundB] at foundA
    obtain rfl := Option.some.inj foundA
    exact Prod.ext same (belowA.trans belowB.symm)
  refine @List.Perm.eq_of_pairwise _ (fun a b => nameOrder a b = true) _ _ ?_ ?_ ?_ ?_
  · intro a b insideA insideB
    have listedA := (List.mem_filter.1 ((List.mergeSort_perm _ _).mem_iff.1 insideA)).1
    have listedB := (List.mergeSort_perm _ _).mem_iff.1 (List.mem_filter.1 insideB).1
    exact antisymm a b listedA listedB
  · exact List.pairwise_mergeSort nameOrder_trans nameOrder_total _
  · exact (List.pairwise_mergeSort nameOrder_trans nameOrder_total _).filter keep
  · exact (List.mergeSort_perm _ _).trans ((List.mergeSort_perm _ _).filter keep).symm

/-- The names behind an entry, with some names left out. -/
theorem filter_behind (name : String) (rest : List String)
    (group : String × List (List String)) :
    (behind group).filter (· ≠ name :: rest) =
      if group.1 = name then behind (group.1, group.2.filter (· ≠ rest)) else behind group := by
  unfold behind
  rw [List.filter_map]
  by_cases same : group.1 = name
  · rw [if_pos same]
    congr 1
    apply List.filter_congr
    intro names _
    simp [same]
  · rw [if_neg same]
    congr 1
    rw [List.filter_eq_self]
    intro names _
    simp [same]

/-- Taking a name away takes its group away. -/
theorem filesAmong_bindName_none {entries : List (String × Entry)} {name : String}
    (distinct : isDistinctAmong entries = true) :
    filesAmong (bindName name none entries) =
      (filesAmong entries).filter fun group => group.1 ≠ name := by
  induction entries with
  | nil => rfl
  | cons binding rest hypothesis =>
    obtain ⟨other, old⟩ := binding
    simp only [isDistinctAmong, Bool.and_eq_true] at distinct
    by_cases same : other = name
    · subst same
      have others : (filesAmong rest).filter (fun group => group.1 ≠ other) = filesAmong rest := by
        rw [List.filter_eq_self]
        intro group inside
        obtain ⟨entry, found, -⟩ := exists_of_mem_filesAmong distinct.2 inside
        have different : group.1 ≠ other := by
          intro same
          rw [same] at found
          simp [found] at distinct
        simpa using different
      rw [bindName, if_pos rfl, filesAmong, List.filter_cons_of_neg (by simp), others]
    · rw [bindName, if_neg same, filesAmong, filesAmong,
        List.filter_cons_of_pos (by simpa using same), hypothesis distinct.2]

/-- Groups that hold nothing can be left out. -/
theorem flatMap_filter_of_empty {α β : Type} {items : List α} {keep : α → Bool}
    {kept all : α → List β} (same : ∀ item ∈ items, keep item = true → all item = kept item)
    (empty : ∀ item ∈ items, keep item = false → all item = []) :
    (items.filter keep).flatMap kept = items.flatMap all := by
  induction items with
  | nil => rfl
  | cons item rest hypothesis =>
    have further := hypothesis (fun other inside => same other (by simp [inside]))
      fun other inside => empty other (by simp [inside])
    cases held : keep item with
    | true => simp [held, same item (by simp) held, further]
    | false => simp [held, empty item (by simp) held, further]

/-- A file that is taken away is taken out of the list, and nothing else is. -/
theorem filesBelow_bindAt_none {entries : List (String × Entry)} {below : List String}
    (distinct : isDistinctAmong entries = true)
    (isFile : sightAt below entries = some .file) :
    (Entry.directory (bindAt below none entries)).filesBelow =
      (Entry.directory entries).filesBelow.filter (· ≠ below) := by
  induction below generalizing entries with
  | nil => simp [sightAt, entryAt, Entry.sight] at isFile
  | cons name rest hypothesis =>
    rw [filesBelow_directory, filesBelow_directory, List.filter_flatMap]
    simp only [filter_behind]
    by_cases last : rest = []
    · subst last
      obtain ⟨content, found⟩ := sightAt_eq_file.1 isFile
      rw [entryAt_singleton] at found
      rw [bindAt, filesAmong_bindName_none distinct, mergeSort_filter distinct]
      apply flatMap_filter_of_empty
      · intro group _ kept
        rw [if_neg (by simpa using kept)]
      · intro group inside dropped
        have same : group.1 = name := by simpa using dropped
        obtain ⟨entry, looked, below⟩ :=
          exists_of_mem_filesAmong distinct ((List.mergeSort_perm _ _).mem_iff.1 inside)
        rw [same, found] at looked
        obtain rfl := Option.some.inj looked
        rw [if_pos same, below]
        simp [behind, Entry.filesBelow]
    · -- The entry of the name is a directory that the file lies in.
      obtain ⟨inner, found, innerFile⟩ : ∃ inner, entries.lookup name = some (.directory inner) ∧
          sightAt rest inner = some .file := by
        obtain ⟨content, there⟩ := sightAt_eq_file.1 isFile
        obtain ⟨inner, found, below⟩ := @entryAt_of_append [name] _ _ _ there last
        rw [entryAt_singleton] at found
        exact ⟨inner, found, sightAt_eq_file.2 ⟨content, below⟩⟩
      have innerDistinct := isDistinct_of_lookup distinct found
      simp only [Entry.isDistinct] at innerDistinct
      have changed : filesAmong (bindAt (name :: rest) none entries) =
          (filesAmong entries).map fun group =>
            (group.1, if group.1 = name then group.2.filter (· ≠ rest) else group.2) := by
        rw [bindAt_cons last, filesAmong_eq_map, filesAmong_eq_map, List.map_map, List.map_map]
        apply List.map_congr_left
        rintro ⟨other, old⟩ inside
        by_cases same : other = name
        · subst same
          have looked := lookup_of_mem distinct inside
          rw [found] at looked
          obtain rfl := Option.some.inj looked
          simp [Entry.rebound, hypothesis innerDistinct innerFile]
        · simp [same]
      rw [changed, ← @List.map_mergeSort _ _ nameOrder nameOrder _ _ (by simp [nameOrder]),
        List.flatMap_map]
      congr 1
      funext group
      by_cases same : group.1 = name <;> simp [same]

namespace Files

variable {files before after other full lacking : Files} {root : String}
  {extensions paths : List String} {names below gone : List String} {content : Content}

/-- A path from which a crawl can start: it leads to a directory at some names, which may be
listed. -/
structure CrawlsFrom (files : Files) (root : String) (names : List String) : Prop where
  sound : textError? root = none
  leads : Leads files.sight .target linkLimit files.current (steps root) (.arrived names)
  directory : files.sight names = some .directory
  listed : names ∉ files.unlisted

/-- A path written as a crawl writes it. -/
def writtenBelow (root : String) (below : List String) : String :=
  below.foldl Path.join root

/-- The files below the directory at some names that a walk comes to and whose paths have a
wanted extension, in walking order. -/
def wantedBelow (files : Files) (root : String) (extensions names : List String) :
    List (List String) :=
  match entryAt names files.entries with
  | some entry =>
    entry.filesBelow.filter fun below =>
      hasExtension extensions (writtenBelow root below) &&
        (isReached root below && files.showsAll names below)
  | none => []

/-- Files that are first shown, then reached and then wanted by their paths are all of it. -/
theorem filter_map_filter_isReached (belows : List (List String)) :
    (((belows.filter (files.showsAll names)).filter (isReached root)).map
        (writtenBelow root)).filter (hasExtension extensions) =
      (belows.filter fun below =>
        hasExtension extensions (writtenBelow root below) &&
          (isReached root below && files.showsAll names below)).map (writtenBelow root) := by
  rw [List.filter_map, List.filter_filter, List.filter_filter]
  simp only [Function.comp_def, Bool.and_assoc]

/-- What is crawled below a directory whose entries stand in the order of their names. -/
theorem crawl_of_ordered {entries : List (String × Entry)}
    (there : files.place root = .present names (.directory entries))
    (listed : files.unlisted.contains names = false)
    (ordered : (filesAmong entries).Pairwise fun left right => nameOrder left right = true)
    (found : (((filesAmong entries).flatMap behind).filter fun below =>
      hasExtension extensions (writtenBelow root below) &&
        (isReached root below && files.showsAll names below)).map (writtenBelow root) = paths) :
    files.crawl false root extensions = .ok paths := by
  rw [crawl, there]
  dsimp only
  rw [listed, if_neg Bool.false_ne_true, if_neg Bool.false_ne_true,
    filesBelow_directory_of_ordered ordered, ← found, ← filter_map_filter_isReached]
  rfl

/-- A file is shown when no directory on the way to it is hidden from a listing. -/
theorem showsAll_eq_true_iff : files.showsAll names below = true ↔
    ∀ around, around <+: below → around ≠ below → names ++ around ∉ files.unlisted := by
  induction below generalizing names with
  | nil => simp [showsAll]
  | cons name rest hypothesis =>
    rw [showsAll, Bool.and_eq_true, hypothesis]
    simp only [List.append_assoc, List.singleton_append]
    constructor
    · rintro ⟨here, further⟩ around begins proper
      cases around with
      | nil => simpa using here
      | cons first around =>
        obtain ⟨rfl, deeper⟩ := List.cons_prefix_cons.1 begins
        exact further around deeper (by simpa using proper)
    · intro shown
      refine ⟨by simpa using shown [] List.nil_prefix (by simp), fun around begins proper => ?_⟩
      exact shown (name :: around) (List.cons_prefix_cons.2 ⟨rfl, begins⟩) (by simpa using proper)

/-- Which files are shown depends on the hidden directories alone. -/
theorem showsAll_congr (same : other.unlisted = files.unlisted) :
    other.showsAll names below = files.showsAll names below := by
  rw [Bool.eq_iff_iff, showsAll_eq_true_iff, showsAll_eq_true_iff, same]

/-- What a crawl gives that follows no links. -/
theorem crawl_eq_ok_iff :
    files.crawl false root extensions = .ok paths ↔
      ∃ names, files.CrawlsFrom root names ∧
        paths = (files.wantedBelow root extensions names).map (writtenBelow root) := by
  unfold crawl
  constructor
  · intro crawled
    split at crawled
    · rename_i names inner arrival
      obtain ⟨sound, leads, there⟩ := place_eq_present_iff.1 arrival
      split at crawled
      · simp at crawled
      · rename_i listed
        refine ⟨names, ⟨sound, leads, sightAt_eq_directory.2 ⟨inner, there⟩,
          by simpa using listed⟩, ?_⟩
        rw [wantedBelow, there]
        obtain rfl := Except.ok.inj crawled
        exact filter_map_filter_isReached _
    · simp at crawled
  · rintro ⟨names, start, rfl⟩
    obtain ⟨inner, there⟩ := sightAt_eq_directory.1 start.directory
    have arrival := place_eq_present_iff.2 ⟨start.sound, start.leads, there⟩
    rw [arrival, wantedBelow, there]
    dsimp only
    rw [if_neg (by simpa using start.listed)]
    exact congrArg Except.ok (filter_map_filter_isReached _)

/-- Every path that a crawl gives has a wanted extension and is that of a file below the
directory of the root, or below what this becomes when links are followed. -/
theorem of_mem_crawled {followLinks : Bool} {path : String}
    (crawled : files.crawl followLinks root extensions = .ok paths) (inside : path ∈ paths) :
    hasExtension extensions path = true ∧
      ∃ names entries depth, files.place root = .present names (.directory entries) ∧
        ∃ below, path = writtenBelow root below ∧
          below ∈ (if followLinks then files.expand depth [] names root (.directory entries)
            else .directory entries).filesBelow := by
  unfold crawl at crawled
  split at crawled
  · rename_i names entries arrival
    split at crawled
    · cases crawled
    · obtain rfl := Except.ok.inj crawled
      obtain ⟨written, wanted⟩ := List.mem_filter.1 inside
      obtain ⟨below, reached, rfl⟩ := List.mem_map.1 written
      have shown := (List.mem_filter.1 reached).1
      refine ⟨wanted, names, entries,
        2 * (sizeAmong files.entries + 1) * (sizeAmong files.entries + 1), arrival, below, rfl, ?_⟩
      cases followLinks with
      | true => exact shown
      | false => exact (List.mem_filter.1 shown).1
  · cases crawled

/-- Each file is found once. -/
theorem nodup_wantedBelow (tidy : files.isTidy = true) (directory : files.sight names =
    some .directory) : (files.wantedBelow root extensions names).Nodup := by
  obtain ⟨inner, there⟩ := sightAt_eq_directory.1 directory
  simp only [isTidy, Bool.and_eq_true] at tidy
  have distinct := isDistinct_of_entryAt tidy.1 there
  simp only [Entry.isDistinct] at distinct
  rw [wantedBelow, there]
  refine List.Pairwise.filter _ (List.nodup_iff_count.2 ?_)
  intro below
  rw [count_filesBelow distinct]
  split <;> simp

/-- What is found is a file, and its names are usable. -/
theorem of_mem_wantedBelow (tidy : files.isTidy = true)
    (directory : files.sight names = some .directory)
    (inside : below ∈ files.wantedBelow root extensions names) :
    files.sight (names ++ below) = some .file ∧ ∀ name ∈ below, isUsableName name = true := by
  obtain ⟨inner, there⟩ := sightAt_eq_directory.1 directory
  simp only [isTidy, Bool.and_eq_true] at tidy
  have distinct := isDistinct_of_entryAt tidy.1 there
  simp only [Entry.isDistinct] at distinct
  rw [wantedBelow, there] at inside
  have seen := (mem_filesBelow_iff distinct).1 (List.mem_filter.1 inside).1
  have isFile : files.sight (names ++ below) = some .file := by
    rw [sight, sightAt, entryAt_append there]
    exact seen
  obtain ⟨content, found⟩ := sightAt_eq_file.1 isFile
  exact ⟨isFile, fun name listed => isUsableName_of_entryAt tidy.2 found (by simp [listed])⟩

/-- A path as a crawl writes it is written, and holds no null character. -/
theorem toList_writtenBelow (usable : ∀ name ∈ below, isUsableName name = true)
    (plain : '\x00' ∉ root.toList) (nonempty : root ≠ "") :
    '\x00' ∉ (writtenBelow root below).toList ∧ writtenBelow root below ≠ "" := by
  unfold writtenBelow
  induction below generalizing root with
  | nil => exact ⟨plain, nonempty⟩
  | cons name rest hypothesis =>
    obtain ⟨base, joined, directory⟩ := toList_join root name nonempty
    have namePlain : '\x00' ∉ name.toList := by
      have named := usable name (by simp)
      simp only [isUsableName, Bool.and_eq_true, Bool.not_eq_true'] at named
      simpa using named.1.2
    refine hypothesis (fun other inside => usable other (by simp [inside])) ?_ ?_
    · rw [joined]
      rcases directory with ⟨same, -⟩ | same <;> simp_all
    · intro empty
      simp [empty] at joined

namespace CrawlsFrom

/-- A path that leads somewhere is written. -/
theorem nonempty (start : files.CrawlsFrom root names) : root ≠ "" := by
  rintro rfl
  have sound := start.sound
  simp [textError?] at sound

/-- A path that can be followed is not too long, so a walk comes to every file of its
directory. -/
theorem isReached_singleton (start : files.CrawlsFrom root names) (name : String) :
    isReached root [name] = true := by
  have sound := start.sound
  unfold textError? at sound
  split at sound
  · simp at sound
  · split at sound
    · simp at sound
    · split at sound
      · simp at sound
      · rename_i short
        simpa [isReached] using short

/-- A file below the directory has a name. -/
theorem filled (start : files.CrawlsFrom root names)
    (isFile : files.sight (names ++ below) = some .file) : below ≠ [] := by
  rintro rfl
  rw [List.append_nil, start.directory] at isFile
  simp at isFile

/-- The path of a directory is followed later on as before, or fails for a link that is
gone. -/
theorem resumes (start : before.CrawlsFrom root names)
    (settles : Settles before.sight after.sight)
    (still : ∀ names, before.sight names = some .directory → other.sight names = some .directory)
    (alike : ∀ names target, before.sight names = some (.link target) →
      other.sight names = after.sight names) :
    Resumes before.sight after.sight other.sight linkLimit before.current (entrySteps root)
      names := by
  obtain ⟨last, written, ending⟩ := exists_steps_eq root
  have leads := start.leads
  rw [written] at leads
  exact leads.resume (written ▸ isRooted_steps root) ending start.directory settles still alike

/-- Behind the path of a directory, steps lead where they lead from the directory. -/
theorem continues (start : files.CrawlsFrom root names) :
    ∃ left, Continues files.sight linkLimit files.current (entrySteps root) left names := by
  have settles : Settles files.sight files.sight :=
    ⟨fun _ => id, fun _ _ => .inl, fun _ => .inr⟩
  cases start.resumes settles (fun _ => id) (fun _ _ _ => rfl) with
  | intact left continues => exact ⟨left, continues⟩
  | broken error _ _ shed =>
    obtain ⟨names, target, link, gone⟩ := shed
    exact absurd link gone

/-- A file below a directory is found by the path that a crawl gives it, whatever the path
is followed for. -/
theorem leads_written (start : files.CrawlsFrom root names)
    (isFile : files.sight (names ++ below) = some .file)
    (usable : ∀ name ∈ below, isUsableName name = true) (purpose : Purpose) :
    Leads files.sight purpose linkLimit files.current (steps (writtenBelow root below))
      (.arrived (names ++ below)) := by
  have filled := start.filled isFile
  obtain ⟨left, continues⟩ := start.continues
  rw [writtenBelow, steps_foldl_join start.nonempty filled usable]
  refine continues purpose (downSteps below) _ ?_ (leads_down filled ?_ (.inl isFile))
  · intro empty
    simp [downSteps, filled] at empty
  · intro name inside
    exact short_of_usable (usable name inside)

/-- The path that a crawl gives to a file can be followed, unless it is too long. -/
theorem textError?_written (start : files.CrawlsFrom root names)
    (usable : ∀ name ∈ below, isUsableName name = true) :
    textError? (writtenBelow root below) =
      if pathLimit < (writtenBelow root below).utf8ByteSize then some .nameTooLong else none := by
  have sound := start.sound
  have rootPlain : '\x00' ∉ root.toList := by
    intro null
    simp [textError?, null] at sound
  obtain ⟨plain, filled⟩ := toList_writtenBelow usable rootPlain start.nonempty
  simp [textError?, plain, filled]

/-- A file below a directory can be taken away by the path that a crawl gives it. -/
theorem removeFile_written (start : files.CrawlsFrom root names)
    (isFile : files.sight (names ++ below) = some .file)
    (usable : ∀ name ∈ below, isUsableName name = true)
    (short : (writtenBelow root below).utf8ByteSize ≤ pathLimit) :
    files.removeFile (writtenBelow root below) = .ok (files.bind (names ++ below) none) := by
  have leads := start.leads_written isFile usable .entry
  obtain ⟨content, there⟩ := sightAt_eq_file.1 isFile
  have filled := start.filled isFile
  have steps := steps_foldl_join start.nonempty filled usable
  rw [← writtenBelow] at steps
  have slashless : .slash ∉ Files.steps (writtenBelow root below) := by
    rw [steps]
    simp [entrySteps, downSteps]
  have plain : (Files.steps (writtenBelow root below)).filter (· ≠ .slash) =
      Files.steps (writtenBelow root below) := by
    rw [List.filter_eq_self]
    intro step inside
    have different : step ≠ .slash := by
      rintro rfl
      exact slashless inside
    simpa using different
  unfold removeFile findEntry
  rw [start.textError?_written usable, if_neg (Nat.not_lt.2 short)]
  dsimp only
  rw [plain, (placeOf_eq_present_iff (by simp)).2 ⟨leads, there⟩,
    List.contains_eq_mem, decide_eq_false slashless]

end CrawlsFrom

/-- A path with so many separators more at its end. -/
def separated (path : String) (count : Nat) : String :=
  path ++ String.ofList (List.replicate count '/')

/-- Separators at the end of a path add no step to its entry. -/
theorem leadingSteps_separated {text : List Char} (nonempty : text ≠ []) (count : Nat) :
    leadingSteps (text ++ List.replicate count '/') = leadingSteps text := by
  induction count generalizing text with
  | zero => simp
  | succ count hypothesis =>
    rw [List.replicate_succ, List.append_cons, hypothesis (by simp), leadingSteps, leadingSteps,
      Text.splitWhen_append (by simp), List.filterMap_append]
    obtain ⟨first, rest, rfl⟩ := List.exists_cons_of_ne_nil nonempty
    simp [Text.splitWhen, segmentStep?]

/-- Each separator is one byte. -/
theorem utf8ByteSize_separated (path : String) (count : Nat) :
    (separated path count).utf8ByteSize = path.utf8ByteSize + count := by
  have separators : (String.ofList (List.replicate count '/')).utf8ByteSize = count := by
    induction count with
    | zero => rfl
    | succ count hypothesis =>
      rw [List.replicate_succ, ← List.singleton_append, String.ofList_append,
        String.utf8ByteSize_append, hypothesis, Nat.add_comm]
      rfl
  rw [separated, String.utf8ByteSize_append, separators]

/-- A name behind a separator needs no other one. -/
theorem utf8ByteSize_join_separated (path name : String) (count : Nat) :
    (Path.join (separated path (count + 1)) name).utf8ByteSize =
      path.utf8ByteSize + (count + 1) + name.utf8ByteSize := by
  have ended : (separated path (count + 1)).toList.getLast? = some '/' := by
    simp [separated, List.getLast?_append, List.getLast?_replicate]
  rw [Path.join, if_pos (.inr ended), String.utf8ByteSize_append, utf8ByteSize_separated]

/-- A directory can be crawled by a path with separators at its end, unless the path gets too
long. -/
theorem CrawlsFrom.separated (start : files.CrawlsFrom root names) {count : Nat}
    (fits : root.utf8ByteSize + count ≤ pathLimit) :
    files.CrawlsFrom (separated root count) names := by
  have written : (Files.separated root count).toList =
      root.toList ++ List.replicate count '/' := by
    simp [Files.separated]
  have filled : root.toList ≠ [] := by simpa using start.nonempty
  refine ⟨?_, ?_, start.directory, start.listed⟩
  · have sound := start.sound
    have plain : '\x00' ∉ root.toList := by
      intro null
      simp [textError?, null] at sound
    have size : ¬ pathLimit < (Files.separated root count).utf8ByteSize := by
      rw [utf8ByteSize_separated]
      omega
    have nonempty : Files.separated root count ≠ "" := by
      intro empty
      simp [empty, start.nonempty] at written
    simp [textError?, written, plain, size, nonempty]
  · obtain ⟨left, continues⟩ := start.continues
    obtain ⟨last, steps, ending⟩ := exists_steps_eq (Files.separated root count)
    have leads := continues .target last _ (by simp) (leads_ending start.directory ending)
    rw [entrySteps_eq, written, leadingSteps_separated filled, ← entrySteps_eq] at steps
    rwa [← steps] at leads

namespace Lacks

/-- Without the file, the same paths lead to directories. -/
theorem crawlsFrom_iff (lacks : Lacks gone content full lacking) :
    lacking.CrawlsFrom root names ↔ full.CrawlsFrom root names := by
  have directory : lacking.sight names = some .directory ↔ full.sight names = some .directory := by
    rw [lacks.sight]
    by_cases same : names = gone
    · rw [if_pos same, same, lacks.sight_gone]
      simp
    · rw [if_neg same]
  have parts := lacks.parts (by simp : Purpose.target ≠ .creation) (isRooted_steps root)
  constructor
  · rintro ⟨sound, leads, there, listed⟩
    refine ⟨sound, ?_, directory.1 there, lacks.unlisted ▸ listed⟩
    rw [leads_iff (by simp)] at leads ⊢
    rw [leads] at parts
    generalize (full.placeOf .target (steps root)).verdict = verdict at parts
    cases parts with
    | same => rfl
    | lost _ nowhere => simp at nowhere
  · rintro ⟨sound, leads, there, listed⟩
    refine ⟨sound, ?_, directory.2 there, lacks.unlisted.symm ▸ listed⟩
    rw [leads_iff (by simp)] at leads ⊢
    rw [leads] at parts
    generalize (lacking.placeOf .target (steps root)).verdict = verdict at parts
    cases parts with
    | same => rfl
    | lost needed =>
      have here : names = gone := by simpa using needed
      rw [here, lacks.sight_gone] at there
      simp at there

/-- Without the file, the same files are found but for the file. -/
theorem wantedBelow (lacks : Lacks gone content full lacking)
    (directory : full.sight names = some .directory) :
    lacking.wantedBelow root extensions names =
      (full.wantedBelow root extensions names).filter fun below => names ++ below ≠ gone := by
  obtain ⟨inner, there⟩ := sightAt_eq_directory.1 directory
  by_cases above : names <+: gone
  · obtain ⟨rest, rfl⟩ := above
    have deeper : rest ≠ [] := by
      rintro rfl
      have isFile := lacks.sight_gone
      rw [List.append_nil, directory] at isFile
      simp at isFile
    have distinct := isDistinct_of_entryAt lacks.distinct there
    simp only [Entry.isDistinct] at distinct
    have isFile : sightAt rest inner = some .file := by
      rw [sightAt, ← entryAt_append there]
      exact lacks.sight_gone
    rw [Files.wantedBelow, Files.wantedBelow, lacks.entryAt_above deeper there, there]
    dsimp only
    rw [filesBelow_bindAt_none distinct isFile, List.filter_filter, List.filter_filter]
    apply List.filter_congr
    intro below _
    simp [Bool.and_comm, showsAll_congr lacks.unlisted]
  · have aside : ∀ below, names ++ below ≠ gone := by
      rintro below rfl
      exact above (List.prefix_append names below)
    rw [Files.wantedBelow, Files.wantedBelow, lacks.entryAt_of_aside above, there,
      List.filter_eq_self.2 fun below _ => decide_eq_true (aside below)]
    simp only [showsAll_congr lacks.unlisted]

/-- Without the file, a crawl gives the same paths but for that of the file. -/
theorem crawl_eq_ok (lacks : Lacks gone content full lacking)
    (start : full.CrawlsFrom root names) (extensions : List String) :
    lacking.crawl false root extensions =
      .ok (((full.wantedBelow root extensions names).filter fun below =>
        names ++ below ≠ gone).map (writtenBelow root)) :=
  crawl_eq_ok_iff.2 ⟨names, lacks.crawlsFrom_iff.2 start, by rw [lacks.wantedBelow start.directory]⟩

/-- What cannot be crawled with the file cannot be without it. -/
theorem crawl_eq_error (lacks : Lacks gone content full lacking) {error : CrawlError}
    (failed : full.crawl false root extensions = .error error) :
    ∃ other, lacking.crawl false root extensions = .error other := by
  cases outcome : lacking.crawl false root extensions with
  | error other => exact ⟨other, rfl⟩
  | ok paths =>
    obtain ⟨names, start, -⟩ := crawl_eq_ok_iff.1 outcome
    rw [crawl_eq_ok_iff.2 ⟨names, lacks.crawlsFrom_iff.1 start, rfl⟩] at failed
    simp at failed

end Lacks

end Files

end SymbolAtlas
