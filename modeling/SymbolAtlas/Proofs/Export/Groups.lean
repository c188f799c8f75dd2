import Mathlib.Data.List.Basic
import SymbolAtlas.Export.Group

/-!
# What the groups of an export hold

An export shows four fields of a symbol below its file and its enclosing type. The groups
it goes through are never empty, and within a file no two of them have the same enclosing
type, so each type of a file, and the lack of one, stands for one group. Together they
hold every symbol just as often as it was given, below its own file and its own type.
-/

namespace SymbolAtlas

/-- What an export shows of a symbol below its file and type. -/
def Symbol.shown (symbol : Symbol) : Kind × String × Int × Option String :=
  (symbol.kind, symbol.name, symbol.line, symbol.signature)

/-- What an export shows of the symbols of a type. -/
def ClassGroup.shown (group : ClassGroup) :
    Option String × List (Kind × String × Int × Option String) :=
  (group.className, group.members.map Symbol.shown)

/-- What an export shows of the symbols of a file. -/
def FileGroup.shown (group : FileGroup) :
    String × List (Option String × List (Kind × String × Int × Option String)) :=
  (group.path, group.classes.map ClassGroup.shown)

/-- The groups of a file: none is empty, and no two are of the same type. -/
structure Grouped (classes : List ClassGroup) : Prop where
  distinct : (classes.map ClassGroup.className).Nodup
  nonempty : ∀ group ∈ classes, group.members ≠ []

/-- The first group is of no type of the others, is not empty, and can be left out. -/
theorem grouped_cons {group : ClassGroup} {rest : List ClassGroup} :
    Grouped (group :: rest) ↔
      group.className ∉ rest.map ClassGroup.className ∧ group.members ≠ [] ∧ Grouped rest := by
  constructor
  · intro ⟨distinct, nonempty⟩
    obtain ⟨fresh, others⟩ := List.nodup_cons.1 distinct
    obtain ⟨first, later⟩ := List.forall_mem_cons.1 nonempty
    exact ⟨fresh, first, others, later⟩
  · intro ⟨fresh, first, others, later⟩
    exact ⟨List.nodup_cons.2 ⟨fresh, others⟩, List.forall_mem_cons.2 ⟨first, later⟩⟩

/-- The types of a file stay the same or get the type of a new symbol. -/
theorem mem_className_addToClasses {symbol : Symbol} {classes : List ClassGroup}
    {name : Option String}
    (member : name ∈ (addToClasses symbol classes).map ClassGroup.className) :
    name ∈ classes.map ClassGroup.className ∨ name = symbol.className := by
  induction classes with
  | nil => exact .inr (by simpa [addToClasses] using member)
  | cons group rest hypothesis =>
    unfold addToClasses at member
    split at member
    next => exact .inl (by simpa using member)
    next =>
      rcases List.mem_cons.1 member with rfl | later
      · exact .inl List.mem_cons_self
      · exact (hypothesis later).imp_left (List.mem_cons_of_mem _)

/-- One more symbol in the groups of a file. -/
theorem Grouped.addToClasses (symbol : Symbol) {classes : List ClassGroup}
    (grouped : Grouped classes) : Grouped (addToClasses symbol classes) := by
  induction classes with
  | nil => exact ⟨by simp [SymbolAtlas.addToClasses], by simp [SymbolAtlas.addToClasses]⟩
  | cons group rest hypothesis =>
    obtain ⟨fresh, nonempty, others⟩ := grouped_cons.1 grouped
    unfold SymbolAtlas.addToClasses
    split
    next => exact grouped_cons.2 ⟨fresh, by simp, others⟩
    next different =>
      exact grouped_cons.2 ⟨fun again => (mem_className_addToClasses again).elim fresh different,
        nonempty, hypothesis others⟩

/-- One more symbol in the groups of all files. -/
theorem grouped_addToFiles (symbol : Symbol) {files : List FileGroup}
    (grouped : ∀ file ∈ files, Grouped file.classes) :
    ∀ file ∈ addToFiles symbol files, Grouped file.classes := by
  induction files with
  | nil =>
    intro file member
    obtain rfl := List.mem_singleton.1 member
    exact Grouped.addToClasses symbol ⟨List.nodup_nil, by simp⟩
  | cons group rest hypothesis =>
    obtain ⟨first, others⟩ := List.forall_mem_cons.1 grouped
    unfold addToFiles
    split
    next => exact List.forall_mem_cons.2 ⟨first.addToClasses symbol, others⟩
    next => exact List.forall_mem_cons.2 ⟨first, hypothesis others⟩

/-- The groups of the files of an export. -/
theorem grouped_groupByFile (symbols : List Symbol) :
    ∀ file ∈ groupByFile symbols, Grouped file.classes :=
  List.foldlRecOn (motive := fun files : List FileGroup => ∀ file ∈ files, Grouped file.classes)
    symbols _
    (by simp) fun _ grouped symbol _ => grouped_addToFiles symbol grouped

/-- The symbols of the groups of a file, group by group. -/
def ClassGroup.allMembers (classes : List ClassGroup) : List Symbol :=
  classes.flatMap ClassGroup.members

/-- The symbols of the files of an export, file by file. -/
def FileGroup.allMembers (files : List FileGroup) : List Symbol :=
  files.flatMap fun file => ClassGroup.allMembers file.classes

/-- A symbol that is added to the groups of a file is in them once more. -/
theorem perm_addToClasses (symbol : Symbol) (classes : List ClassGroup) :
    (ClassGroup.allMembers (addToClasses symbol classes)).Perm
      (symbol :: ClassGroup.allMembers classes) := by
  induction classes with
  | nil => simp [addToClasses, ClassGroup.allMembers]
  | cons group rest hypothesis =>
    unfold addToClasses
    split
    next =>
      simp only [ClassGroup.allMembers, List.flatMap_cons, List.append_assoc, List.cons_append,
        List.nil_append]
      exact List.perm_middle
    next =>
      simp only [ClassGroup.allMembers, List.flatMap_cons] at hypothesis ⊢
      exact (hypothesis.append_left _).trans List.perm_middle

/-- A symbol that is added to the groups of all files is in them once more. -/
theorem perm_addToFiles (symbol : Symbol) (files : List FileGroup) :
    (FileGroup.allMembers (addToFiles symbol files)).Perm
      (symbol :: FileGroup.allMembers files) := by
  induction files with
  | nil => simp [addToFiles, addToClasses, FileGroup.allMembers, ClassGroup.allMembers]
  | cons group rest hypothesis =>
    unfold addToFiles
    simp only [FileGroup.allMembers] at hypothesis ⊢
    split
    next =>
      simp only [List.flatMap_cons]
      exact (perm_addToClasses symbol group.classes).append_right _
    next =>
      simp only [List.flatMap_cons]
      exact (hypothesis.append_left _).trans List.perm_middle

/-- Every symbol is in the groups of an export as often as it was given. -/
theorem perm_groupByFile (symbols : List Symbol) :
    (FileGroup.allMembers (groupByFile symbols)).Perm symbols := by
  have further (files : List FileGroup) :
      (FileGroup.allMembers
        (symbols.foldl (fun groups symbol => addToFiles symbol groups) files)).Perm
        (symbols ++ FileGroup.allMembers files) := by
    induction symbols generalizing files with
    | nil => exact .refl _
    | cons symbol rest hypothesis =>
      exact (hypothesis _).trans
        (((perm_addToFiles symbol files).append_left rest).trans List.perm_middle)
  simpa [groupByFile, FileGroup.allMembers] using further []

/-- The groups of a file hold symbols of that file, each in the group of its type. -/
structure FileGroup.Fits (file : FileGroup) : Prop where
  nonempty : file.classes ≠ []
  members : ∀ group ∈ file.classes, ∀ symbol ∈ group.members,
    symbol.filePath = file.path ∧ symbol.className = group.className

/-- A symbol goes to the group of its type. -/
theorem className_of_mem_addToClasses {symbol : Symbol} {classes : List ClassGroup}
    {property : Symbol → Prop} (own : property symbol)
    (before : ∀ group ∈ classes, ∀ member ∈ group.members,
      property member ∧ member.className = group.className) :
    ∀ group ∈ addToClasses symbol classes, ∀ member ∈ group.members,
      property member ∧ member.className = group.className := by
  induction classes with
  | nil => simpa [addToClasses] using own
  | cons group rest hypothesis =>
    obtain ⟨first, others⟩ := List.forall_mem_cons.1 before
    unfold addToClasses
    split
    next same =>
      refine List.forall_mem_cons.2 ⟨fun member inside => ?_, others⟩
      rcases List.mem_append.1 inside with old | new
      · exact first member old
      · obtain rfl := List.mem_singleton.1 new
        exact ⟨own, same.symm⟩
    next => exact List.forall_mem_cons.2 ⟨first, hypothesis others⟩

/-- A symbol goes to the groups of its file. -/
theorem fits_addToFiles (symbol : Symbol) {files : List FileGroup}
    (fits : ∀ file ∈ files, file.Fits) : ∀ file ∈ addToFiles symbol files, file.Fits := by
  have filled (classes : List ClassGroup) : addToClasses symbol classes ≠ [] := by
    cases classes with
    | nil => simp [addToClasses]
    | cons group rest => rw [addToClasses]; split <;> simp
  induction files with
  | nil =>
    intro file member
    obtain rfl := List.mem_singleton.1 member
    exact ⟨filled [], className_of_mem_addToClasses rfl (by simp)⟩
  | cons group rest hypothesis =>
    obtain ⟨first, others⟩ := List.forall_mem_cons.1 fits
    unfold addToFiles
    split
    next same =>
      exact List.forall_mem_cons.2
        ⟨⟨filled _, className_of_mem_addToClasses same.symm first.members⟩, others⟩
    next => exact List.forall_mem_cons.2 ⟨first, hypothesis others⟩

/-- The symbols of an export stand below their files and types. -/
theorem fits_groupByFile (symbols : List Symbol) : ∀ file ∈ groupByFile symbols, file.Fits :=
  List.foldlRecOn (motive := fun files : List FileGroup => ∀ file ∈ files, file.Fits)
    symbols _
    (by simp) fun _ fits symbol _ => fits_addToFiles symbol fits

end SymbolAtlas
