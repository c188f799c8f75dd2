import SymbolAtlas.Proofs.Extract.JavaMembers

/-!
# What the index keeps of the declarations of Java files

`JavaMembers` shows that what the index knows of a type comes from a declaration. This is the other
half. Every declaration is listed, and the listed type holds what the parts of the declaration say,
no more and no less: the methods by their names, the fields with their types as written, the later
of two fields of one name, and the superclass as written.

An index takes in one declaration after another, and each replaces what was known under its name.
So a name stands for the last of its declarations, and where all names are distinct each
declaration is found under its own.
-/

namespace SymbolAtlas.Java

/-- The superclass that a declaration writes. -/
def writtenSuperclass (source : Source) (tree : Tree) : Option String :=
  (fieldChild? "superclass" tree.children).bind fun clause =>
    ((namedTrees clause.children).head?).map source.textOf

/-- The field that is declared, with its type as written. The constants of an enumeration are of
the type itself. -/
def Role.writtenField? (simple : String) : Role → Option (String × String)
  | .component name written => some (name, written)
  | .declarator .field name written => some (name, written)
  | .constant name => some (name, simple)
  | _ => none

namespace Declared

/-- Take in what a part of a declaration declares. -/
def take (declared : Declared) (role : Role) : Declared :=
  { declared with
    methods := declared.methods ++ role.method?.toList
    fields := match role.writtenField? declared.simple with
      | some (name, written) => declared.fields.put name written
      | none => declared.fields }

/-- The declared variables of a field declaration are taken in one after the other. -/
theorem foldl_declarators_eq_foldl_take (source : Source) (written : String)
    (list : List Tree) (declared : Declared) :
    list.foldl (fun declared declarator =>
      match source.fieldText? "name" declarator.children with
      | some name => { declared with fields := declared.fields.put name written }
      | none => declared) declared =
    (list.filterMap fun declarator =>
      (source.fieldText? "name" declarator.children).map
        (Role.declarator .field · written)).foldl take declared := by
  induction list generalizing declared with
  | nil => rfl
  | cons declarator rest hypothesis =>
    rw [List.foldl_cons, hypothesis, List.filterMap_cons]
    cases source.fieldText? "name" declarator.children with
    | none => rfl
    | some name => simp [take, Role.method?, Role.writtenField?]

/-- A member of a body is taken in by the roles of what it declares. -/
theorem addMember_eq_foldl_take (source : Source) (declared : Declared) (member : Tree) :
    declared.addMember source member = (memberRoles source member).foldl take declared := by
  rw [addMember, memberRoles]
  split
  next =>
    cases source.fieldText? "name" member.children with
    | none => rfl
    | some name => simp [take, Role.method?, Role.writtenField?]
  next =>
    split
    next => exact foldl_declarators_eq_foldl_take source _ _ declared
    next =>
      split
      next =>
        cases source.fieldText? "name" member.children with
        | none => rfl
        | some name => simp [take, Role.method?, Role.writtenField?]
      next => rfl

/-- A declaration is taken in by the roles of its parts, in their order. -/
theorem ofDeclaration_eq_foldl_take (source : Source) (outer : Option String) (simple : String)
    (tree : Tree) :
    ofDeclaration source outer tree.rule simple tree.children =
      (declaredRoles source tree).foldl take
        { qualified := under outer simple, simple := simple,
          superclass := writtenSuperclass source tree } := by
  have members (list : List Tree) (declared : Declared) :
      list.foldl (addMember source) declared =
        (list.flatMap (memberRoles source)).foldl take declared := by
    induction list generalizing declared with
    | nil => rfl
    | cons member rest hypothesis =>
      rw [List.foldl_cons, hypothesis, addMember_eq_foldl_take, List.flatMap_cons,
        List.foldl_append]
  rw [ofDeclaration, members, declaredRoles, List.foldl_append, List.foldl_map]
  rfl

/-- Taking in parts leaves the names and the superclass, adds their methods behind the others, and
binds their fields one after the other. -/
theorem foldl_take (roles : List Role) (declared : Declared) :
    roles.foldl take declared =
      { declared with
        methods := declared.methods ++ roles.filterMap Role.method?
        fields := (roles.filterMap (Role.writtenField? declared.simple)).foldl
          (fun fields field => fields.put field.1 field.2) declared.fields } := by
  induction roles generalizing declared with
  | nil => simp
  | cons role rest hypothesis =>
    rw [List.foldl_cons, hypothesis, List.filterMap_cons, List.filterMap_cons]
    cases method : role.method? <;> cases field : role.writtenField? declared.simple <;>
      simp [take, method, field]

/-- What the index keeps of a declaration: its names, its methods, its fields with their written
types and its written superclass. -/
theorem ofDeclaration_eq (source : Source) (outer : Option String) (simple : String)
    (tree : Tree) :
    ofDeclaration source outer tree.rule simple tree.children =
      { qualified := under outer simple
        simple := simple
        methods := (declaredRoles source tree).filterMap Role.method?
        fields := ((declaredRoles source tree).filterMap (Role.writtenField? simple)).foldl
          (fun fields field => fields.put field.1 field.2) []
        superclass := writtenSuperclass source tree } := by
  rw [ofDeclaration_eq_foldl_take, foldl_take]
  rfl

end Declared

/-- The types declared by the named trees among several are those of each. -/
theorem declaredAmong_eq_flatMap (source : Source) (outer : Option String) (trees : List Tree) :
    declaredAmong source outer trees = (namedTrees trees).flatMap (declaredBy source outer) := by
  induction trees with
  | nil => simp [declaredAmong, namedTrees]
  | cons tree rest hypothesis =>
    have parts : namedTrees (tree :: rest) =
        if tree.mark.named then tree :: namedTrees rest else namedTrees rest := List.filter_cons
    rw [declaredAmong, hypothesis, parts]
    split <;> rfl

/-- The types declared by the parts of a body are those of its members. -/
theorem declaredByMembers_eq_flatMap (source : Source) (outer : Option String) (mark : Mark)
    (children : List Tree) :
    declaredByMembers source outer children =
      (bodyMembers (.node mark children)).flatMap (declaredBy source outer) := by
  induction children with
  | nil => simp [declaredByMembers, bodyMembers, namedTrees]
  | cons part rest hypothesis =>
    obtain ⟨own, parts⟩ := part
    rw [declaredByMembers, hypothesis, bodyMembers_cons, List.flatMap_append]
    congr 1
    cases named : own.named with
    | false => simp [Tree.mark, named]
    | true =>
      by_cases deeper : own.rule = "enum_body_declarations"
      · simp [Tree.mark, Tree.rule, named, deeper, declaredAmong_eq_flatMap]
      · simp [Tree.mark, Tree.rule, named, deeper]

/-- The types declared in a body are those of the members of the body. -/
theorem declaredInBody_eq (source : Source) (outer : Option String) {trees : List Tree}
    {body : Tree} (found : fieldChild? "body" trees = some body) :
    declaredInBody source outer trees = (bodyMembers body).flatMap (declaredBy source outer) := by
  induction trees with
  | nil => cases found
  | cons tree rest hypothesis =>
    obtain ⟨mark, children⟩ := tree
    rw [declaredInBody]
    rw [fieldChild?, List.find?_cons] at found
    cases fills : mark.fields.contains "body" with
    | true =>
      rw [show Tree.fills "body" (.node mark children) = true from fills] at found
      obtain rfl := Option.some.inj found
      exact declaredByMembers_eq_flatMap source outer mark children
    | false =>
      rw [show Tree.fills "body" (.node mark children) = false from fills] at found
      exact hypothesis found

/-- Every declaration in a tree is listed, with what it says. -/
theorem mem_declaredBy_of_declaration {source : Source} {outer : Option String}
    {tree node : Tree} {type : Enclosing} (declaration : Declaration source outer tree type node) :
    ∃ around, type.qualified = under around type.simple ∧
      Declared.ofDeclaration source around node.rule type.simple node.children ∈
        declaredBy source outer tree := by
  induction declaration with
  | @here outer tree simple declares named =>
    obtain ⟨mark, children⟩ := tree
    refine ⟨outer, rfl, ?_⟩
    rw [declaredBy, if_pos (show declaresType mark.rule = true from declares),
      show source.fieldText? "name" children = some simple from named]
    exact List.mem_cons_self
  | @within outer tree body member node simple type declares named found inside _ hypothesis =>
    obtain ⟨around, qualified, listed⟩ := hypothesis
    obtain ⟨mark, children⟩ := tree
    refine ⟨around, qualified, ?_⟩
    rw [declaredBy, if_pos (show declaresType mark.rule = true from declares),
      show source.fieldText? "name" children = some simple from named]
    dsimp only
    rw [declaredInBody_eq source _ (show fieldChild? "body" children = some body from found)]
    exact List.mem_cons_of_mem _ (List.mem_flatMap.2 ⟨member, inside, listed⟩)

/-- What an index knows of a declared type. -/
def Declared.info (declared : Declared) (imports : Imports) : TypeInfo where
  methods := declared.methods
  fields := declared.fields
  superclass := declared.superclass
  imports := imports

/-- An index takes in the types of a file one after the other. -/
theorem TypeIndex.addFile_eq_foldl (index : TypeIndex) (source : Source) :
    index.addFile source =
      (typesOf source).1.foldl (fun index declared =>
        index.put declared.qualified (declared.info (typesOf source).2)) index := rfl

end SymbolAtlas.Java
