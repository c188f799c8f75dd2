import Mathlib.Data.List.Induction
import SymbolAtlas.Proofs.Export.Groups

/-!
# The groups of an export as a stable partition

The groups are made by adding one symbol after another, wherever in the growing list its
file and its enclosing type are found. What they are can be said from the symbols alone: the
files come in the order in which the symbols name them first, the types of a file in the order
in which its symbols do, and a group holds the symbols of its file and type in their order.
`InClasses` and `InFiles` say so of the groups made from the symbols so far. One more symbol
keeps both, and so does a whole list of them.
-/

namespace SymbolAtlas

/-- The keys of a list in the order of their first appearance: every key stands before those
that the list names later for the first time. -/
structure FirstSeen {α : Type} [DecidableEq α] (keys list : List α) : Prop where
  ordered : keys.Pairwise fun first second => list.idxOf first < list.idxOf second
  complete : ∀ key, key ∈ keys ↔ key ∈ list

section FirstSeen

variable {α : Type} [DecidableEq α] {keys list : List α}

/-- No key appears twice. -/
theorem FirstSeen.nodup (seen : FirstSeen keys list) : keys.Nodup := by
  apply seen.ordered.imp
  intro first second before same
  exact Nat.lt_irrefl _ (same ▸ before)

/-- A longer list names the keys of its beginning in the same order. -/
theorem FirstSeen.ordered_append (seen : FirstSeen keys list) (more : List α) :
    keys.Pairwise fun first second =>
      (list ++ more).idxOf first < (list ++ more).idxOf second := by
  apply seen.ordered.imp_of_mem
  intro first second firstKey secondKey before
  rw [List.idxOf_append_of_mem ((seen.complete first).1 firstKey),
    List.idxOf_append_of_mem ((seen.complete second).1 secondKey)]
  exact before

/-- One more entry of the list is one more key, unless it is a key already. -/
theorem FirstSeen.snoc (seen : FirstSeen keys list) (key : α) :
    FirstSeen (if key ∈ keys then keys else keys ++ [key]) (list ++ [key]) := by
  split
  case isTrue known =>
    refine ⟨seen.ordered_append [key], ?_⟩
    intro other
    rw [seen.complete, List.mem_append, List.mem_singleton]
    constructor
    · exact Or.inl
    · rintro (old | rfl)
      · exact old
      · exact (seen.complete other).1 known
  case isFalse new =>
    constructor
    · apply List.pairwise_append.2
      refine ⟨seen.ordered_append [key], List.pairwise_singleton _ _, ?_⟩
      intro first firstKey second secondKey
      obtain rfl := List.mem_singleton.1 secondKey
      have earlier : first ∈ list := (seen.complete first).1 firstKey
      have absent : second ∉ list := fun old => new ((seen.complete second).2 old)
      have bounded := List.idxOf_lt_length_of_mem earlier
      rw [List.idxOf_append_of_mem earlier, List.idxOf_append_of_notMem absent]
      omega
    · intro other
      rw [List.mem_append, List.mem_append, seen.complete]

end FirstSeen

/-- The groups of symbols by their enclosing type. -/
structure InClasses (symbols : List Symbol) (classes : List ClassGroup) : Prop where
  names : FirstSeen (classes.map ClassGroup.className) (symbols.map Symbol.className)
  members : ∀ group ∈ classes,
    group.members = symbols.filter fun symbol => symbol.className = group.className

/-- The groups of symbols by their file, and within a file by their enclosing type. -/
structure InFiles (symbols : List Symbol) (files : List FileGroup) : Prop where
  paths : FirstSeen (files.map FileGroup.path) (symbols.map Symbol.filePath)
  classes : ∀ file ∈ files,
    InClasses (symbols.filter fun symbol => symbol.filePath = file.path) file.classes

section GrowAt

variable {γ κ : Type} [DecidableEq κ]

/-- Change the first group of a key, or put a new group at the end: what adding a symbol does
to the groups of a file, and to the files. -/
def growAt (key : γ → κ) (value : κ) (grow : γ → γ) (new : γ) : List γ → List γ
  | [] => [new]
  | group :: rest =>
    if key group = value then grow group :: rest else group :: growAt key value grow new rest

/-- A symbol changes the group of its type. -/
theorem addToClasses_eq_growAt (symbol : Symbol) (classes : List ClassGroup) :
    addToClasses symbol classes =
      growAt ClassGroup.className symbol.className
        (fun group => ⟨group.className, group.members ++ [symbol]⟩)
        ⟨symbol.className, [symbol]⟩ classes := by
  induction classes with
  | nil => rfl
  | cons group rest hypothesis => simp only [addToClasses, growAt, hypothesis]

/-- A symbol changes the groups of its file. -/
theorem addToFiles_eq_growAt (symbol : Symbol) (files : List FileGroup) :
    addToFiles symbol files =
      growAt FileGroup.path symbol.filePath
        (fun file => ⟨file.path, addToClasses symbol file.classes⟩)
        ⟨symbol.filePath, addToClasses symbol []⟩ files := by
  induction files with
  | nil => rfl
  | cons file rest hypothesis => simp only [addToFiles, growAt, hypothesis]

variable {key : γ → κ} {value : κ} {grow : γ → γ} {new : γ}

/-- A key is added at the end, unless there is a group of it. -/
theorem map_growAt (kept : ∀ group, key (grow group) = key group) (named : key new = value)
    (groups : List γ) :
    (growAt key value grow new groups).map key =
      if value ∈ groups.map key then groups.map key else groups.map key ++ [value] := by
  induction groups with
  | nil => simp [growAt, named]
  | cons group rest hypothesis =>
    unfold growAt
    split
    next same => simp [same, kept]
    next different =>
      simp only [List.map_cons, hypothesis, List.mem_cons, Ne.symm different, false_or]
      split <;> rfl

/-- A group afterwards: it was there with another key, it is the changed group of the key, or
it is new, when there was no group of the key. -/
theorem mem_growAt {groups : List γ} {group : γ} (distinct : (groups.map key).Nodup)
    (member : group ∈ growAt key value grow new groups) :
    (group ∈ groups ∧ key group ≠ value) ∨
    (∃ old ∈ groups, key old = value ∧ group = grow old) ∨
    (value ∉ groups.map key ∧ group = new) := by
  induction groups with
  | nil => exact .inr (.inr ⟨List.not_mem_nil, List.mem_singleton.1 member⟩)
  | cons first rest hypothesis =>
    obtain ⟨fresh, others⟩ := List.nodup_cons.1 distinct
    unfold growAt at member
    split at member
    next same =>
      rcases List.mem_cons.1 member with rfl | later
      · exact .inr (.inl ⟨first, List.mem_cons_self, same, rfl⟩)
      · refine .inl ⟨List.mem_cons_of_mem _ later, ?_⟩
        intro again
        exact fresh (List.mem_map.2 ⟨group, later, again.trans same.symm⟩)
    next different =>
      rcases List.mem_cons.1 member with rfl | later
      · exact .inl ⟨List.mem_cons_self, different⟩
      · rcases hypothesis others later with ⟨old, other⟩ | ⟨old, known, named, rfl⟩ | ⟨absent, rfl⟩
        · exact .inl ⟨List.mem_cons_of_mem _ old, other⟩
        · exact .inr (.inl ⟨old, List.mem_cons_of_mem _ known, named, rfl⟩)
        · refine .inr (.inr ⟨?_, rfl⟩)
          simp only [List.map_cons, List.mem_cons, not_or]
          exact ⟨Ne.symm different, absent⟩

end GrowAt

/-- The symbols that share a key with the last symbol. -/
theorem filter_snoc_same {κ : Type} [DecidableEq κ] (key : Symbol → κ) {value : κ}
    (symbols : List Symbol) {symbol : Symbol} (same : key symbol = value) :
    (symbols ++ [symbol]).filter (fun other => key other = value) =
      symbols.filter (fun other => key other = value) ++ [symbol] := by
  simp [List.filter_append, same]

/-- The symbols that do not share a key with the last symbol. -/
theorem filter_snoc_other {κ : Type} [DecidableEq κ] (key : Symbol → κ) {value : κ}
    (symbols : List Symbol) {symbol : Symbol} (other : key symbol ≠ value) :
    (symbols ++ [symbol]).filter (fun other => key other = value) =
      symbols.filter (fun other => key other = value) := by
  simp [List.filter_append, other]

/-- No symbol has a key that was never seen. -/
theorem filter_eq_nil_of_unseen {κ : Type} [DecidableEq κ] {key : Symbol → κ}
    {keys : List κ} {symbols : List Symbol} (seen : FirstSeen keys (symbols.map key)) {value : κ}
    (unseen : value ∉ keys) : symbols.filter (fun symbol => key symbol = value) = [] := by
  apply List.filter_eq_nil_iff.2
  intro symbol member same
  apply unseen
  rw [seen.complete, List.mem_map]
  exact ⟨symbol, member, of_decide_eq_true same⟩

/-- One more symbol in the groups of a file. -/
theorem InClasses.snoc {symbols : List Symbol} {classes : List ClassGroup}
    (placed : InClasses symbols classes) (symbol : Symbol) :
    InClasses (symbols ++ [symbol]) (addToClasses symbol classes) := by
  constructor
  · rw [addToClasses_eq_growAt, map_growAt, List.map_append]
    · exact placed.names.snoc symbol.className
    · intro group
      rfl
    · rfl
  · intro group member
    rw [addToClasses_eq_growAt] at member
    rcases mem_growAt placed.names.nodup member with
      ⟨old, other⟩ | ⟨old, known, named, rfl⟩ | ⟨new, rfl⟩
    · rw [filter_snoc_other Symbol.className symbols (Ne.symm other)]
      exact placed.members group old
    · rw [filter_snoc_same Symbol.className symbols named.symm, placed.members old known]
    · rw [filter_snoc_same Symbol.className symbols rfl,
        filter_eq_nil_of_unseen placed.names new, List.nil_append]

/-- Without symbols there are no groups. -/
theorem InClasses.nil : InClasses [] [] :=
  ⟨⟨List.Pairwise.nil, fun _ => Iff.rfl⟩, by simp⟩

/-- One more symbol in the groups of all files. -/
theorem InFiles.snoc {symbols : List Symbol} {files : List FileGroup}
    (placed : InFiles symbols files) (symbol : Symbol) :
    InFiles (symbols ++ [symbol]) (addToFiles symbol files) := by
  constructor
  · rw [addToFiles_eq_growAt, map_growAt, List.map_append]
    · exact placed.paths.snoc symbol.filePath
    · intro file
      rfl
    · rfl
  · intro file member
    rw [addToFiles_eq_growAt] at member
    rcases mem_growAt placed.paths.nodup member with
      ⟨old, other⟩ | ⟨old, known, named, rfl⟩ | ⟨new, rfl⟩
    · rw [filter_snoc_other Symbol.filePath symbols (Ne.symm other)]
      exact placed.classes file old
    · rw [filter_snoc_same Symbol.filePath symbols named.symm]
      exact (placed.classes old known).snoc symbol
    · rw [filter_snoc_same Symbol.filePath symbols rfl,
        filter_eq_nil_of_unseen placed.paths new]
      exact InClasses.nil.snoc symbol

/-- The groups of an export, symbol after symbol. -/
theorem inFiles_groupByFile (symbols : List Symbol) : InFiles symbols (groupByFile symbols) := by
  induction symbols using List.reverseRecOn with
  | nil => exact ⟨⟨List.Pairwise.nil, fun _ => Iff.rfl⟩, by simp [groupByFile]⟩
  | append_singleton symbols symbol hypothesis =>
    have step : groupByFile (symbols ++ [symbol]) = addToFiles symbol (groupByFile symbols) := by
      simp [groupByFile, List.foldl_append]
    rw [step]
    exact hypothesis.snoc symbol

/-- The groups of an export are a stable partition of its symbols. The files are the files of
the symbols, each once and in the order of their first appearance; the groups of a file are
the enclosing types of its symbols, and the lack of one, each once and in the order of their
first appearance in that file. No group is empty, a group holds the symbols of its file and
type in the order of the input, and all groups together hold every symbol as often as the
input does. -/
theorem groupByFile_stable_partition (symbols : List Symbol) :
    ((groupByFile symbols).map FileGroup.path).Nodup ∧
    FirstSeen ((groupByFile symbols).map FileGroup.path) (symbols.map Symbol.filePath) ∧
    (∀ file ∈ groupByFile symbols,
      file.classes ≠ [] ∧
      (file.classes.map ClassGroup.className).Nodup ∧
      FirstSeen (file.classes.map ClassGroup.className)
        ((symbols.filter fun symbol => symbol.filePath = file.path).map Symbol.className) ∧
      ∀ group ∈ file.classes,
        group.members ≠ [] ∧
        group.members = symbols.filter fun symbol =>
          symbol.filePath = file.path ∧ symbol.className = group.className) ∧
    (FileGroup.allMembers (groupByFile symbols)).Perm symbols := by
  have placed := inFiles_groupByFile symbols
  refine ⟨placed.paths.nodup, placed.paths, ?_, perm_groupByFile symbols⟩
  intro file fileMember
  have inside := placed.classes file fileMember
  refine ⟨(fits_groupByFile symbols file fileMember).nonempty, inside.names.nodup, inside.names, ?_⟩
  intro group member
  refine ⟨(grouped_groupByFile symbols file fileMember).nonempty group member, ?_⟩
  rw [inside.members group member, List.filter_filter]
  congr 1
  funext symbol
  simp [Bool.and_comm]

/-- Symbols of one file and type need not stand together, and a type with an empty name is not
the lack of a type. -/
example :
    let symbol (path : String) (type : Option String) (name : String) : Symbol :=
      { filePath := path, className := type, kind := .method, name := name, line := 1,
        signature := none, referenceTo := none }
    (groupByFile [symbol "b" none "p", symbol "a" none "q", symbol "b" (some "") "r",
        symbol "b" none "s"]).map
        (fun file => (file.path,
          file.classes.map fun group => (group.className, group.members.map Symbol.name))) =
      [("b", [(none, ["p", "s"]), (some "", ["r"])]), ("a", [(none, ["q"])])] := by
  decide +kernel

end SymbolAtlas
