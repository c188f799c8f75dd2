import SymbolAtlas.Files.Basic

/-!
# What binding a name changes

Binding an entry at some names changes nothing that is not at or below these
names. Two consequences are used: every content that is in the tree afterwards was
there before or came with the entry, and a file whose names do not begin with the
names bound is still there. Making directories only adds empty ones, so it loses
no file and brings no content.

Contents are counted over the whole tree, not only where names lead, since a name
that is bound twice in one directory hides an entry that a removal can uncover.
-/

namespace SymbolAtlas

mutual

/-- The contents of all files at or below an entry. -/
def Entry.contents : Entry → List Content
  | .file content => [content]
  | .link _ => []
  | .directory entries => contentsAmong entries

/-- The contents of all files at or below several entries. -/
def contentsAmong : List (String × Entry) → List Content
  | [] => []
  | (_, entry) :: rest => entry.contents ++ contentsAmong rest

end

/-- What lies below one of the entries lies below them together. -/
theorem mem_contentsAmong_of_lookup {name : String} {entry : Entry} {content : Content}
    {entries : List (String × Entry)} (found : entries.lookup name = some entry)
    (inside : content ∈ entry.contents) : content ∈ contentsAmong entries := by
  induction entries with
  | nil => simp at found
  | cons binding rest hypothesis =>
    obtain ⟨other, old⟩ := binding
    rw [contentsAmong, List.mem_append]
    by_cases same : name = other
    · have first : old = entry := by simpa [List.lookup_cons, same] using found
      exact .inl (first ▸ inside)
    · rw [List.lookup_cons, beq_eq_false_iff_ne.2 same] at found
      exact .inr (hypothesis found)

/-- What lies below the entry at some names lies in the tree. -/
theorem mem_contentsAmong_of_entryAt {names : List String} {entry : Entry} {content : Content}
    {entries : List (String × Entry)} (found : entryAt names entries = some entry)
    (inside : content ∈ entry.contents) : content ∈ contentsAmong entries := by
  induction names generalizing entries with
  | nil =>
    have whole : Entry.directory entries = entry := by simpa [entryAt] using found
    simpa [← whole, Entry.contents] using inside
  | cons name rest hypothesis =>
    unfold entryAt at found
    cases looked : entries.lookup name with
    | none => simp [looked] at found
    | some below =>
      cases below with
      | directory inner =>
        simp only [looked] at found
        exact mem_contentsAmong_of_lookup looked (by simpa [Entry.contents] using hypothesis found)
      | file old =>
        simp only [looked, Option.ite_none_right_eq_some, Option.some.injEq] at found
        exact mem_contentsAmong_of_lookup looked (found.2 ▸ inside)
      | link target =>
        simp only [looked, Option.ite_none_right_eq_some, Option.some.injEq] at found
        exact mem_contentsAmong_of_lookup looked (found.2 ▸ inside)

/-- Binding one name brings no content but that of the entry. -/
theorem mem_contentsAmong_bindName {name : String} {entry : Option Entry} {content : Content}
    {entries : List (String × Entry)}
    (inside : content ∈ contentsAmong (bindName name entry entries)) :
    content ∈ contentsAmong entries ∨ ∃ new, entry = some new ∧ content ∈ new.contents := by
  induction entries with
  | nil =>
    cases entry with
    | none => simp [bindName, contentsAmong] at inside
    | some new => exact .inr ⟨new, rfl, by simpa [bindName, contentsAmong] using inside⟩
  | cons binding rest hypothesis =>
    obtain ⟨other, old⟩ := binding
    by_cases same : other = name
    · cases entry with
      | none =>
        simp only [bindName, same, if_true] at inside
        exact .inl (by simp [contentsAmong, inside])
      | some new =>
        simp only [bindName, same, if_true, contentsAmong, List.mem_append] at inside
        rcases inside with new' | later
        · exact .inr ⟨new, rfl, new'⟩
        · exact .inl (by simp [contentsAmong, later])
    · simp only [bindName, same, if_false, contentsAmong, List.mem_append] at inside
      rcases inside with first | later
      · exact .inl (by simp [contentsAmong, first])
      · rcases hypothesis later with old' | new'
        · exact .inl (by simp [contentsAmong, old'])
        · exact .inr new'

/-- The change that a binding below a name makes to the entry of that name. Only a
directory can be changed below. -/
def Entry.rebound (rest : List String) (entry : Option Entry) : Entry → Entry
  | .directory inner => .directory (bindAt rest entry inner)
  | old => old

/-- A binding below a name, entry by entry. -/
theorem bindAt_cons {name : String} {rest : List String} {entry : Option Entry}
    (deeper : rest ≠ []) (entries : List (String × Entry)) :
    bindAt (name :: rest) entry entries =
      entries.map fun binding =>
        (binding.1, if binding.1 = name then binding.2.rebound rest entry else binding.2) := by
  obtain ⟨next, further, rfl⟩ := List.exists_cons_of_ne_nil deeper
  unfold bindAt
  apply List.map_congr_left
  rintro ⟨other, old⟩ -
  by_cases same : other = name
  · cases old <;> simp [same, Entry.rebound]
  · simp [same]

/-- Binding at some names brings no content but that of the entry. The induction is
on the names, and within it on the entries of the directory they pass through. -/
theorem mem_contentsAmong_bindAt {names : List String} {entry : Option Entry}
    {content : Content} {entries : List (String × Entry)}
    (inside : content ∈ contentsAmong (bindAt names entry entries)) :
    content ∈ contentsAmong entries ∨ ∃ new, entry = some new ∧ content ∈ new.contents := by
  induction names generalizing entries with
  | nil => exact .inl (by simpa [bindAt] using inside)
  | cons name rest hypothesis =>
    by_cases last : rest = []
    · subst last
      exact mem_contentsAmong_bindName (by simpa [bindAt] using inside)
    · rw [bindAt_cons last] at inside
      induction entries with
      | nil => simp [contentsAmong] at inside
      | cons binding others further =>
        obtain ⟨other, old⟩ := binding
        simp only [List.map_cons, contentsAmong, List.mem_append] at inside ⊢
        rcases inside with here | there
        · by_cases same : other = name
          · cases old with
            | directory inner =>
              simp only [same, if_true, Entry.rebound, Entry.contents] at here ⊢
              rcases hypothesis here with before | new
              · exact .inl (.inl before)
              · exact .inr new
            | file => exact .inl (.inl (by simpa [same, Entry.rebound] using here))
            | link => exact .inl (.inl (by simpa [same, Entry.rebound] using here))
          · exact .inl (.inl (by simpa [same] using here))
        · rcases further there with before | new
          · exact .inl (.inr before)
          · exact .inr new

/-- A name that is bound reads as its entry, and every other name as before. -/
theorem lookup_bindName (name other : String) (entry : Entry) (entries : List (String × Entry)) :
    (bindName name (some entry) entries).lookup other =
      if other = name then some entry else entries.lookup other := by
  induction entries with
  | nil =>
    by_cases same : other = name
    · simp [bindName, same]
    · simp [bindName, same, List.lookup_cons, beq_eq_false_iff_ne.2 same]
  | cons binding rest hypothesis =>
    obtain ⟨first, old⟩ := binding
    by_cases replaced : first = name
    · by_cases same : other = name
      · simp [bindName, replaced, same]
      · simp [bindName, replaced, same, List.lookup_cons, beq_eq_false_iff_ne.2 same]
    · by_cases found : other = first
      · simp [bindName, replaced, found]
      · simp [bindName, replaced, List.lookup_cons, beq_eq_false_iff_ne.2 found, hypothesis]

/-- Taking a name away leaves every other name. -/
theorem lookup_bindName_none {name other : String} (different : other ≠ name)
    (entries : List (String × Entry)) :
    (bindName name none entries).lookup other = entries.lookup other := by
  induction entries with
  | nil => rfl
  | cons binding rest hypothesis =>
    obtain ⟨first, old⟩ := binding
    by_cases removed : first = name
    · simp [bindName, removed, List.lookup_cons, beq_eq_false_iff_ne.2 different]
    · by_cases found : other = first
      · simp [bindName, removed, found]
      · simp [bindName, removed, List.lookup_cons, beq_eq_false_iff_ne.2 found, hypothesis]

/-- A name reads as before after another one has been bound or taken away. -/
theorem lookup_bindName_of_ne {name other : String} (different : other ≠ name)
    (entry : Option Entry) (entries : List (String × Entry)) :
    (bindName name entry entries).lookup other = entries.lookup other := by
  cases entry with
  | none => exact lookup_bindName_none different entries
  | some entry => rw [lookup_bindName, if_neg different]

/-- A binding below a name changes what that name reads as, and no other. -/
theorem lookup_bindAt_cons {name other : String} {rest : List String} {entry : Option Entry}
    (deeper : rest ≠ []) (entries : List (String × Entry)) :
    (bindAt (name :: rest) entry entries).lookup other =
      if other = name then (entries.lookup name).map (Entry.rebound rest entry)
      else entries.lookup other := by
  rw [bindAt_cons deeper]
  induction entries with
  | nil => simp
  | cons binding others hypothesis =>
    obtain ⟨first, old⟩ := binding
    rw [List.map_cons]
    by_cases found : other = first
    · by_cases same : other = name
      · simp [← found, same]
      · simp [← found, same]
    · rw [List.lookup_cons, beq_eq_false_iff_ne.2 found, hypothesis]
      by_cases same : other = name
      · have differs : name ≠ first := same ▸ found
        simp [same, List.lookup_cons, beq_eq_false_iff_ne.2 differs]
      · simp [same, List.lookup_cons, beq_eq_false_iff_ne.2 found]

/-- A file is where it was before, and nowhere else, unless its own names or those of
a directory around it are bound anew. -/
theorem entryAt_bindAt_eq_file_iff {names other : List String} {entry : Option Entry}
    {content : Content} {entries : List (String × Entry)} (outside : ¬ names <+: other) :
    entryAt other (bindAt names entry entries) = some (.file content) ↔
      entryAt other entries = some (.file content) := by
  induction names generalizing other entries with
  | nil => exact absurd (List.nil_prefix) outside
  | cons name rest hypothesis =>
    cases other with
    | nil => simp [entryAt]
    | cons head further =>
      by_cases last : rest = []
      · subst last
        have different : head ≠ name := by
          intro same
          exact outside (by simp [same, List.cons_prefix_cons])
        simp [bindAt, entryAt, lookup_bindName_of_ne different]
      · unfold entryAt
        rw [lookup_bindAt_cons last]
        by_cases same : head = name
        · subst same
          have below : ¬ rest <+: further := by
            intro within
            exact outside (by simpa [List.cons_prefix_cons] using within)
          cases looked : entries.lookup head with
          | none => simp
          | some old =>
            cases old with
            | directory inner => simpa [Entry.rebound] using hypothesis below
            | file old => simp [Entry.rebound]
            | link target => simp [Entry.rebound]
        · rw [if_neg same]

/-- An entry reads back where it was bound, provided the directory for it is there. -/
theorem entryAt_bindAt_self {directory : List String} {name : String} {entry : Entry}
    {entries inner : List (String × Entry)}
    (there : entryAt directory entries = some (.directory inner)) :
    entryAt (directory ++ [name]) (bindAt (directory ++ [name]) (some entry) entries) =
      some entry := by
  induction directory generalizing entries with
  | nil => cases entry <;> simp [bindAt, entryAt, lookup_bindName]
  | cons head rest hypothesis =>
    have deeper : rest ++ [name] ≠ [] := by simp
    rw [List.cons_append, entryAt, lookup_bindAt_cons deeper, if_pos rfl]
    unfold entryAt at there
    cases looked : entries.lookup head with
    | none => simp [looked] at there
    | some old =>
      cases old with
      | directory below =>
        simp only [looked] at there
        simpa [Entry.rebound] using hypothesis there
      | file content => simp [looked] at there
      | link target => simp [looked] at there

/-- On the way to an entry there are only entries. -/
theorem entryAt_of_append {first second : List String} {entry : Entry}
    {entries : List (String × Entry)} (found : entryAt (first ++ second) entries = some entry)
    (further : second ≠ []) : ∃ inner, entryAt first entries = some (.directory inner) ∧
      entryAt second inner = some entry := by
  induction first generalizing entries with
  | nil => exact ⟨entries, by simp [entryAt], found⟩
  | cons head rest hypothesis =>
    rw [List.cons_append, entryAt] at found
    cases looked : entries.lookup head with
    | none => simp [looked] at found
    | some old =>
      cases old with
      | directory below =>
        simp only [looked] at found
        simpa [entryAt, looked] using hypothesis found
      | file content => simp [looked, further] at found
      | link target => simp [looked, further] at found

/-- An entry bound in the place of a file reads back. -/
theorem entryAt_bindAt_over_file {names : List String} {content : Content}
    {entries : List (String × Entry)} (found : entryAt names entries = some (.file content))
    (entry : Entry) : entryAt names (bindAt names (some entry) entries) = some entry := by
  rcases List.eq_nil_or_concat names with rfl | ⟨directory, name, rfl⟩
  · simp [entryAt] at found
  · rw [List.concat_eq_append] at found ⊢
    obtain ⟨inner, there, -⟩ := entryAt_of_append found (by simp)
    exact entryAt_bindAt_self there

/-- Where nothing was, a new entry is there after binding it, or still nothing because
its directory is missing. -/
theorem entryAt_bindAt_of_vacant {names : List String} {entries : List (String × Entry)}
    (vacant : entryAt names entries = none) (entry : Entry) :
    entryAt names (bindAt names (some entry) entries) = none ∨
      entryAt names (bindAt names (some entry) entries) = some entry := by
  induction names generalizing entries with
  | nil => simp [entryAt] at vacant
  | cons name rest hypothesis =>
    by_cases last : rest = []
    · subst last
      cases entry <;> simp [bindAt, entryAt, lookup_bindName]
    · unfold entryAt at vacant ⊢
      rw [lookup_bindAt_cons last, if_pos rfl]
      cases looked : entries.lookup name with
      | none => simp
      | some old =>
        cases old with
        | directory inner =>
          simp only [looked] at vacant
          simpa [Entry.rebound] using hypothesis vacant
        | file content => simp [Entry.rebound, last]
        | link target => simp [Entry.rebound, last]

/-- An empty directory bound where nothing was brings no file. -/
theorem entryAt_bindAt_empty_ne_file {names : List String} {entries : List (String × Entry)}
    (vacant : entryAt names entries = none) (rest : List String) (content : Content) :
    entryAt (names ++ rest) (bindAt names (some (.directory [])) entries) ≠
      some (.file content) := by
  intro found
  have bound := entryAt_bindAt_of_vacant vacant (.directory [])
  by_cases last : rest = []
  · rw [last, List.append_nil] at found
    simp [found] at bound
  · obtain ⟨inner, read, below⟩ := entryAt_of_append found last
    have empty : inner = [] := by simpa [read] using bound
    obtain ⟨head, further, rfl⟩ := List.exists_cons_of_ne_nil last
    simp [empty, entryAt] at below

namespace Files

/-- Where a path leads to a missing name, nothing is at that name. -/
theorem follow_absent {files : Files} {jump : List String → List PathStep → Place}
    {purpose : Purpose} {names directory : List String} {path : List PathStep} {name : String}
    (jumped : ∀ names path, jump names path = .absent directory name →
      entryAt (directory ++ [name]) files.entries = none)
    (absent : files.follow jump purpose names path = .absent directory name) :
    entryAt (directory ++ [name]) files.entries = none := by
  fun_induction follow files jump purpose names path with
  | case3 _ _ hypothesis => exact hypothesis absent
  | case4 _ _ _ _ hypothesis => exact hypothesis absent
  | case8 names missing _ inner there _ _ unbound =>
    -- The one place where a missing name is reported: its directory has just been read.
    obtain ⟨rfl, rfl⟩ := Place.absent.inj absent
    rw [Option.eq_none_iff_forall_ne_some]
    intro entry found
    obtain ⟨inside, read, bound⟩ := entryAt_of_append found (by simp)
    obtain ⟨rfl⟩ : inner = inside := by simpa [there] using read
    simp [entryAt, unbound] at bound
  | case11 => exact jumped _ _ absent
  | case12 _ _ _ _ _ _ _ _ _ _ hypothesis => exact hypothesis absent
  | case14 _ _ _ _ _ _ _ _ hypothesis => exact hypothesis absent
  | _ => simp at absent

/-- The same through any number of links. -/
theorem followLinks_absent {files : Files} {purpose : Purpose} {directory : List String}
    {name : String} (links : Nat) (names : List String) (path : List PathStep)
    (absent : files.followLinks purpose links names path = .absent directory name) :
    entryAt (directory ++ [name]) files.entries = none := by
  induction links generalizing names path with
  | zero => simp [followLinks] at absent
  | succ links hypothesis => exact follow_absent hypothesis absent

/-- A directory is made only where nothing is. -/
theorem makeDirectory_cases {files made : Files} {path : String}
    (done : files.makeDirectory path = .ok made) :
    ∃ names, entryAt names files.entries = none ∧
      made = files.bind names (some (.directory [])) := by
  unfold makeDirectory findEntry at done
  cases refused : textError? path with
  | some error => simp [refused] at done
  | none =>
    simp only [refused] at done
    cases found : files.placeOf .entry ((steps path).filter (· ≠ .slash)) with
    | present names entry => simp only [found, reduceCtorEq] at done
    | failed error => simp only [found, reduceCtorEq] at done
    | absent names name =>
      simp only [found, Except.ok.injEq] at done
      exact ⟨names ++ [name], followLinks_absent _ _ _ found, done.symm⟩

/-- What making directories cannot undo: a property of file systems that every new
empty directory keeps holds still when a whole chain of them has been made. -/
theorem makeDirectories_induction (holds : Files → Prop)
    (step : ∀ files names, holds files → entryAt names files.entries = none →
      holds (files.bind names (some (.directory []))))
    {files : Files} (path : String) (components : List Component) (start : holds files) :
    holds (files.makeDirectories path components).1 := by
  have made : ∀ {files result : Files} {path : String}, holds files →
      files.makeDirectory path = .ok result → holds result := by
    intro files result path before done
    obtain ⟨names, vacant, rfl⟩ := makeDirectory_cases done
    exact step files names before vacant
  induction components generalizing path with
  | nil => exact start
  | cons last before hypothesis =>
    unfold makeDirectories
    cases first : files.makeDirectory path with
    | ok result => exact made start first
    | error error =>
      cases error with
      | notFound =>
        have above := hypothesis (Path.ofComponents before.reverse)
        cases parents : files.makeDirectories (Path.ofComponents before.reverse) before with
        | mk left result =>
          rw [parents] at above
          cases result with
          | error error => exact above
          | ok =>
            cases second : left.makeDirectory path with
            | ok all => simpa [second] using made above second
            | error error => by_cases there : left.isDirectory path <;> simpa [second, there]
      | _ => by_cases there : files.isDirectory path <;> simpa [there] using start

/-- Making the directory of a path keeps what every new empty directory keeps. -/
theorem makeParent_induction (holds : Files → Prop)
    (step : ∀ files names, holds files → entryAt names files.entries = none →
      holds (files.bind names (some (.directory []))))
    {files : Files} (path : String) (start : holds files) : holds (files.makeParent path).1 := by
  unfold makeParent
  cases Path.parent? path with
  | none => exact start
  | some components => exact makeDirectories_induction holds step _ _ start

/-- Making the directory of a path brings no content. -/
theorem mem_contents_makeParent {files : Files} {path : String} {content : Content}
    (inside : content ∈ contentsAmong (files.makeParent path).1.entries) :
    content ∈ contentsAmong files.entries := by
  refine makeParent_induction
    (fun later => content ∈ contentsAmong later.entries →
      content ∈ contentsAmong files.entries) ?_ path id inside
  intro later names before _ after
  rcases mem_contentsAmong_bindAt after with old | ⟨new, same, none⟩
  · exact before old
  · obtain rfl := Option.some.inj same
    simp [Entry.contents, contentsAmong] at none

/-- Making the directory of a path neither loses nor makes a file. -/
theorem entryAt_makeParent_eq_file_iff {files : Files} {path : String} {names : List String}
    {content : Content} :
    entryAt names (files.makeParent path).1.entries = some (.file content) ↔
      entryAt names files.entries = some (.file content) := by
  refine makeParent_induction
    (fun later => entryAt names later.entries = some (.file content) ↔
      entryAt names files.entries = some (.file content)) ?_ path Iff.rfl
  intro later new same vacant
  refine Iff.trans ?_ same
  by_cases outside : new <+: names
  · -- Nothing was at or below the new directory, and only the directory is there now.
    obtain ⟨rest, rfl⟩ := outside
    constructor
    · intro found
      exact absurd found (entryAt_bindAt_empty_ne_file vacant rest content)
    · intro found
      by_cases last : rest = []
      · simp [last, vacant] at found
      · obtain ⟨inner, read, -⟩ := entryAt_of_append found last
        simp [vacant] at read
  · exact entryAt_bindAt_eq_file_iff outside

end Files

end SymbolAtlas
