import Mathlib.Data.List.Nodup
import SymbolAtlas.Proofs.Extract.JavaDeclarations
import SymbolAtlas.Proofs.Extract.JavaInheritance

/-!
# Calls of the methods of the type around them

A type gets its full name twice: where the index gathers the members of bodies, and where the visit
carries the innermost type through bodies, enumerations, lambdas and initializers down to a call.
`MemberPath` gives a third account that both are held against, the nodes from the declaration of a
member type up to the file with nothing but bodies between them, and the name that they spell.

Where the names of the member types are distinct, the two agree at every depth. So a call without a
receiver, or one on `this`, refers to the method of the member type around it just when that type
declares it, whatever other files say of the type or of its superclasses.
-/

namespace SymbolAtlas.Java

/-- The nodes from the declaration of a member type up to the file, and the type by its names: one
that stands in the file itself, or directly in the body of a member type. -/
inductive MemberPath (source : Source) : List Tree → Enclosing → Prop where
  | top {tree : Tree} {simple : String} (inside : tree ∈ namedTrees source.tree.children)
      (declares : declaresType tree.rule = true)
      (named : source.fieldText? "name" tree.children = some simple) :
      MemberPath source [tree, source.tree]
        ⟨simple, under (Imports.ofSource source).package simple⟩
  | member {tree body outer : Tree} {path : List Tree} {type : Enclosing} {simple : String}
      (around : MemberPath source (outer :: path) type)
      (found : fieldChild? "body" outer.children = some body)
      (inside : tree ∈ namedTrees body.children) (declares : declaresType tree.rule = true)
      (named : source.fieldText? "name" tree.children = some simple) :
      MemberPath source (tree :: body :: outer :: path)
        ⟨simple, under (some type.qualified) simple⟩
  /-- An enumeration keeps its members one level deeper. -/
  | enumMember {tree part body outer : Tree} {path : List Tree} {type : Enclosing}
      {simple : String} (around : MemberPath source (outer :: path) type)
      (found : fieldChild? "body" outer.children = some body)
      (deeper : part ∈ namedTrees body.children) (rule : part.rule = "enum_body_declarations")
      (inside : tree ∈ namedTrees part.children) (declares : declaresType tree.rule = true)
      (named : source.fieldText? "name" tree.children = some simple) :
      MemberPath source (tree :: part :: body :: outer :: path)
        ⟨simple, under (some type.qualified) simple⟩

/-- A member of the body of a declared type that declares a type is declared too. -/
theorem Declaration.extend {source : Source} {outer : Option String} {tree node body member : Tree}
    {type : Enclosing} {simple : String} (declaration : Declaration source outer tree type node)
    (found : fieldChild? "body" node.children = some body) (inside : member ∈ bodyMembers body)
    (declares : declaresType member.rule = true)
    (named : source.fieldText? "name" member.children = some simple) :
    Declaration source outer tree ⟨simple, under (some type.qualified) simple⟩ member := by
  induction declaration with
  | here outerDeclares outerNamed =>
    exact .within outerDeclares outerNamed found inside (.here declares named)
  | within outerDeclares outerNamed outerFound outerInside _ hypothesis =>
    exact .within outerDeclares outerNamed outerFound outerInside (hypothesis found)

/-- A part of a body is a member, unless it holds the members of an enumeration. -/
theorem mem_bodyMembers_of_declaresType {body tree : Tree}
    (inside : tree ∈ namedTrees body.children) (declares : declaresType tree.rule = true) :
    tree ∈ bodyMembers body := by
  have other : tree.rule ≠ "enum_body_declarations" := by
    intro same
    rw [same] at declares
    exact absurd declares (by decide)
  refine List.mem_flatMap.2 ⟨tree, inside, ?_⟩
  rw [if_neg other]
  exact List.mem_singleton_self tree

/-- The members of an enumeration are those one level deeper. -/
theorem mem_bodyMembers_of_deeper {body part tree : Tree}
    (deeper : part ∈ namedTrees body.children) (rule : part.rule = "enum_body_declarations")
    (inside : tree ∈ namedTrees part.children) : tree ∈ bodyMembers body := by
  refine List.mem_flatMap.2 ⟨part, deeper, ?_⟩
  rw [if_pos rule]
  exact inside

namespace MemberPath

variable {source : Source} {tree : Tree} {path : List Tree} {type : Enclosing}

/-- The path begins with the declaration of the type. -/
theorem declaration (member : MemberPath source (tree :: path) type) :
    ∃ part ∈ namedTrees source.tree.children,
      Declaration source (Imports.ofSource source).package part type tree := by
  generalize whole : tree :: path = nodes at member
  induction member generalizing tree path with
  | top inside declares named =>
    obtain ⟨rfl, -⟩ := List.cons.inj whole
    exact ⟨_, inside, .here declares named⟩
  | member _ found inside declares named hypothesis =>
    obtain ⟨rfl, -⟩ := List.cons.inj whole
    obtain ⟨part, among, outer⟩ := hypothesis rfl
    exact ⟨part, among,
      outer.extend found (mem_bodyMembers_of_declaresType inside declares) declares named⟩
  | enumMember _ found deeper rule inside declares named hypothesis =>
    obtain ⟨rfl, -⟩ := List.cons.inj whole
    obtain ⟨part, among, outer⟩ := hypothesis rfl
    exact ⟨part, among,
      outer.extend found (mem_bodyMembers_of_deeper deeper rule inside) declares named⟩

/-- In an orderly file the declaration is orderly. -/
theorem orderly (member : MemberPath source (tree :: path) type)
    (whole : isOrderly source.tree = true) : isOrderly tree = true := by
  generalize same : tree :: path = nodes at member
  induction member generalizing tree path with
  | top inside =>
    obtain ⟨rfl, -⟩ := List.cons.inj same
    exact isOrderly_of_mem_children whole (List.mem_of_mem_filter inside)
  | member _ found inside declares _ hypothesis =>
    obtain ⟨rfl, -⟩ := List.cons.inj same
    have body := isOrderly_of_mem_children (hypothesis rfl) (List.mem_of_find?_eq_some found)
    exact isOrderly_of_mem_children body (List.mem_of_mem_filter inside)
  | enumMember _ found deeper _ inside _ _ hypothesis =>
    obtain ⟨rfl, -⟩ := List.cons.inj same
    have body := isOrderly_of_mem_children (hypothesis rfl) (List.mem_of_find?_eq_some found)
    have part := isOrderly_of_mem_children body (List.mem_of_mem_filter deeper)
    exact isOrderly_of_mem_children part (List.mem_of_mem_filter inside)

/-- The path begins with the declaration of a type of that name. -/
theorem head (member : MemberPath source (tree :: path) type) :
    declaresType tree.rule = true ∧ source.fieldText? "name" tree.children = some type.simple := by
  cases member with
  | top inside declares named => exact ⟨declares, named⟩
  | member around found inside declares named => exact ⟨declares, named⟩
  | enumMember around found deeper rule inside declares named => exact ⟨declares, named⟩

end MemberPath

/-- A node that declares no type is not the innermost type. -/
theorem innermost_cons_of_other (source : Source) (package : Option String) {tree : Tree}
    (plain : declaresType tree.rule = false) (path : List Tree) :
    innermost source package (tree :: path) = innermost source package path := by
  rw [innermost, plain]

/-- Nodes that declare no type are passed over. -/
theorem innermost_append_of_others (source : Source) (package : Option String) {front : List Tree}
    (plain : ∀ node ∈ front, declaresType node.rule = false) (path : List Tree) :
    innermost source package (front ++ path) = innermost source package path := by
  induction front with
  | nil => rfl
  | cons tree rest hypothesis =>
    rw [List.cons_append, innermost_cons_of_other source package (plain tree List.mem_cons_self)]
    exact hypothesis fun node inside => plain node (List.mem_cons_of_mem _ inside)

/-- A node that declares a type is the innermost type. -/
theorem innermost_cons_of_declares (source : Source) (package : Option String) {tree : Tree}
    {simple : String} (declares : declaresType tree.rule = true)
    (named : source.fieldText? "name" tree.children = some simple) (path : List Tree) :
    innermost source package (tree :: path) =
      some ⟨simple,
        under ((innermost source package path).map Enclosing.qualified <|> package) simple⟩ := by
  rw [innermost, declares, named]

/-- Nodes that are passed through declare no type. -/
theorem declaresType_of_other {rule : String} (form : Form.ofRule rule = .other) :
    declaresType rule = false := by
  rw [← Bool.not_eq_true]
  intro declares
  rw [ofRule_of_declaresType declares] at form
  cases form

/-- In a file of the right shape the type of a member path is the innermost one on it: nothing
between two member types is taken for a type. -/
theorem MemberPath.innermost_eq {source : Source} (shaped : isShaped source.tree = true)
    {path : List Tree} {type : Enclosing} (member : MemberPath source path type) :
    innermost source (Imports.ofSource source).package path = some type := by
  obtain ⟨program, orderly⟩ := Bool.and_eq_true_iff.1 shaped
  induction member with
  | top inside declares named =>
    have file : declaresType source.tree.rule = false := by
      rw [of_decide_eq_true program]
      decide
    rw [innermost_cons_of_declares source _ declares named,
      innermost_cons_of_other source _ file]
    rfl
  | member around found inside declares named hypothesis =>
    have body := declaresType_of_other
      (ofRule_body (around.orderly orderly) around.head.1 found)
    rw [innermost_cons_of_declares source _ declares named,
      innermost_cons_of_other source _ body, hypothesis]
    rfl
  | enumMember around found deeper rule inside declares named hypothesis =>
    have body := declaresType_of_other
      (ofRule_body (around.orderly orderly) around.head.1 found)
    rw [innermost_cons_of_declares source _ declares named,
      innermost_cons_of_other source _ (by rw [rule]; decide),
      innermost_cons_of_other source _ body, hypothesis]
    rfl

/-- Where the types of a file have distinct names, the index of the file knows each listed type
under its name. -/
theorem get?_addFile_of_distinct {source : Source}
    (distinct : ((typesOf source).1.map Declared.qualified).Nodup) {declared : Declared}
    (listed : declared ∈ (typesOf source).1) :
    (TypeIndex.addFile [] source).get? declared.qualified =
      some (declared.info (typesOf source).2) := by
  rw [TypeIndex.addFile_eq_foldl, Dict.get?_foldl_put]
  cases found : (typesOf source).1.reverse.find? fun other =>
      other.qualified = declared.qualified with
  | none =>
    have missing := List.find?_eq_none.1 found declared (List.mem_reverse.2 listed)
    exact absurd (decide_eq_true rfl) missing
  | some other =>
    have inside : other ∈ (typesOf source).1 := List.mem_reverse.1 (List.mem_of_find?_eq_some found)
    have same : other.qualified = declared.qualified :=
      of_decide_eq_true (List.find?_some found :)
    rw [List.inj_on_of_nodup_map distinct inside listed same]

/-- The methods that a declaration declares: those of its body, and the components of a record that
take one value each. -/
def declaredMethods (source : Source) (tree : Tree) : List String :=
  (declaredRoles source tree).filterMap Role.method?

/-- Where the types of a file have distinct names, what is known of a member type is what it
declares itself, whatever other files say. -/
theorem MemberPath.knows {source : Source} {tree : Tree} {path : List Tree} {type : Enclosing}
    (member : MemberPath source (tree :: path) type)
    (distinct : ((typesOf source).1.map Declared.qualified).Nodup) (elsewhere : TypeIndex) :
    ∃ info, (Context.ofSource elsewhere source).resolver.Knows type.qualified info ∧
      info.methods = declaredMethods source tree := by
  obtain ⟨part, among, declaration⟩ := member.declaration
  obtain ⟨around, qualified, listed⟩ := mem_declaredBy_of_declaration declaration
  have inside : Declared.ofDeclaration source around tree.rule type.simple tree.children ∈
      (typesOf source).1 := by
    have all : (typesOf source).1 =
        declaredAmong source (Imports.ofSource source).package source.tree.children := rfl
    rw [all, declaredAmong_eq_flatMap]
    exact List.mem_flatMap.2 ⟨part, among, listed⟩
  have known := get?_addFile_of_distinct distinct inside
  rw [Declared.ofDeclaration_eq] at known
  dsimp only at known
  rw [← qualified] at known
  exact ⟨_, .inl known, rfl⟩

/-- A lookup that starts at a known type finds a method there just when the type has it. -/
theorem Resolver.method?_eq_own_iff {resolver : Resolver} {owner name : String} {info : TypeInfo}
    (known : resolver.Knows owner info) :
    resolver.method? owner name = some (owner ++ "." ++ name) ↔ name ∈ info.methods := by
  rw [method?_eq_some_iff]
  constructor
  · rintro ⟨last, -, types, infos, ascent, same⟩
    have there : types last = owner := by
      rw [String.append_assoc, String.append_assoc] at same
      exact ((String.append_left_inj _).1 same).symm
    have knows := ascent.known last (Nat.le_refl last)
    rw [there, ← get?_eq_some_iff, (get?_eq_some_iff owner info).2 known] at knows
    rw [Option.some.inj knows]
    exact ascent.found
  · intro has
    exact ⟨0, by omega, _, _, .here known has, rfl⟩

/-- Whether a call has no receiver or is one on `this`. -/
def Stop.callsOwn (stop : Stop) : Bool :=
  match fieldChild? "object" stop.node.children with
  | none => true
  | some receiver => receiver.rule = "this"

/-- Such a call looks for its method in the type around it. -/
theorem Stop.callsOn_of_callsOwn {stop : Stop} (own : stop.callsOwn = true) (context : Context)
    (type : Enclosing) (isOfType : String → String → Prop) :
    context.CallsOn (some type) isOfType stop.node type.qualified := by
  rw [callsOwn] at own
  rw [Context.CallsOn]
  cases receiver : fieldChild? "object" stop.node.children with
  | none => exact ⟨type, rfl, rfl⟩
  | some object =>
    rw [receiver] at own
    obtain ⟨mark, children⟩ := object
    exact .thisObject (of_decide_eq_true own) rfl

/-- In a file of the right shape whose member types have distinct names, with whatever types known
from other files: a call without a receiver, or one on `this`, whose innermost type declaration is
a member type refers to that type's own method just when the type declares it, as a method or as a
component of a record. -/
theorem own_method_referenced (elsewhere : TypeIndex) (source : Source)
    (shaped : isShaped source.tree = true)
    (distinct : ((typesOf source).1.map Declared.qualified).Nodup) :
    (made elsewhere source).map Prod.snd = symbols elsewhere source ∧
      ∀ stop reference, (stop, reference) ∈ made elsewhere source → stop.role = .call →
        stop.callsOwn = true →
        ∀ front tree path type, stop.above = front ++ tree :: path →
          (∀ node ∈ front, declaresType node.rule = false) →
          MemberPath source (tree :: path) type →
          (reference.referenceTo = some (type.qualified ++ "." ++ reference.name) ↔
            reference.name ∈ declaredMethods source tree) := by
  refine ⟨map_made elsewhere source, ?_⟩
  intro stop reference emitted call own front tree path type above plain member
  obtain ⟨path, come, upward⟩ := (isOn_of_mem_made emitted).exists_comesTo call
  have around : innermost source (Imports.ofSource source).package stop.above = some type := by
    rw [above, innermost_append_of_others source _ plain]
    exact member.innermost_eq shaped
  have within : stop.scope.enclosing = some type := by
    rw [upward] at around
    exact come.liesIn.trans around
  have leads := leadsFrom_of_call come.agrees call (mem_made.1 emitted).2
  rw [within] at leads
  have target := leads.found type.qualified (Stop.callsOn_of_callsOwn own _ type _)
  obtain ⟨info, known, methods⟩ := member.knows distinct elsewhere
  rw [target, Resolver.method?_eq_own_iff known, methods]

/-- A class in an enumeration, one of whose methods calls itself on `this`, where other files know
the class as one without methods. -/
theorem own_method_referenced_in_enumeration :
    let node := fun (rule field : String) (start stop : Nat) children =>
      Tree.node { rule := rule, fields := [field], start := start, stop := stop } children
    let call := node "method_invocation" "" 35 43
      [ node "this" "object" 35 39 []
      , node "identifier" "name" 40 41 []
      , node "argument_list" "arguments" 41 43 [] ]
    let statement := node "expression_statement" "" 35 44 [call]
    let block := node "block" "body" 34 45 [statement]
    let method := node "method_declaration" "" 26 45
      [ node "void_type" "type" 26 30 []
      , node "identifier" "name" 31 32 []
      , node "formal_parameters" "parameters" 32 34 []
      , block ]
    let classBody := node "class_body" "body" 25 46 [method]
    let inner := node "class_declaration" "" 18 46 [node "identifier" "name" 24 25 [], classBody]
    let part := node "enum_body_declarations" "" 17 46 [inner]
    let enumBody := node "enum_body" "body" 16 47 [part]
    let outer := node "enum_declaration" "" 10 47 [node "identifier" "name" 15 16 [], enumBody]
    let package := node "package_declaration" "" 0 10 [node "identifier" "" 8 9 []]
    let source : Source :=
      { relative := "p/E.java"
        text := ("package p;enum E\x7b;class N\x7bvoid m()\x7b" ++ "this.m();\x7d\x7d\x7d").toList
        tree := node "program" "" 0 47 [package, outer] }
    let elsewhere : TypeIndex :=
      [("p.E.N", { methods := [], fields := [], superclass := some "q.S", imports := {} })]
    isShaped source.tree = true ∧ ((typesOf source).1.map Declared.qualified).Nodup ∧
      MemberPath source [inner, part, enumBody, outer, source.tree] ⟨"N", "p.E.N"⟩ ∧
        ∃ stop reference, (stop, reference) ∈ made elsewhere source ∧ stop.role = .call ∧
          stop.callsOwn = true ∧ reference.referenceTo = some "p.E.N.m" := by
  intro node call statement block method classBody inner part enumBody outer package source
    elsewhere
  have shaped : isShaped source.tree = true := by decide +kernel
  have distinct : ((typesOf source).1.map Declared.qualified).Nodup := by decide +kernel
  have top : MemberPath source [outer, source.tree] ⟨"E", "p.E"⟩ :=
    .top (.tail _ (.head _)) (by decide +kernel) (by decide +kernel)
  have member : MemberPath source [inner, part, enumBody, outer, source.tree] ⟨"N", "p.E.N"⟩ :=
    .enumMember top rfl (.head _) rfl (.head _) (by decide +kernel) (by decide +kernel)
  refine ⟨shaped, distinct, member, ?_⟩
  let above := [statement, block, method, classBody, inner, part, enumBody, outer, source.tree]
  have listed : ∃ scope reference, (⟨.call, above, scope, call⟩, reference) ∈
      made elsewhere source ∧ reference.name = "m" :=
    ⟨_, _, .tail _ (.tail _ (.tail _ (.head _))), by decide +kernel⟩
  obtain ⟨scope, reference, emitted, name⟩ := listed
  have own : Stop.callsOwn ⟨.call, above, scope, call⟩ = true := rfl
  refine ⟨⟨.call, above, scope, call⟩, reference, emitted, rfl, own, ?_⟩
  have law := (own_method_referenced elsewhere source shaped distinct).2 _ reference emitted rfl own
    [statement, block, method, classBody] inner _ _ rfl (by decide +kernel) member
  rw [name] at law
  exact law.2 (by decide +kernel)

/-- A component of a record that takes any number of values is called by its own name in the
record, and the call refers to nothing. -/
theorem variable_component_not_referenced :
    let node := fun (rule field : String) (start stop : Nat) children =>
      Tree.node { rule := rule, fields := [field], start := start, stop := stop } children
    let component := node "spread_parameter" "" 9 18
      [ node "integral_type" "" 9 12 []
      , node "variable_declarator" "" 16 18 [node "identifier" "name" 16 18 []] ]
    let call := node "method_invocation" "" 37 41
      [node "identifier" "name" 37 39 [], node "argument_list" "arguments" 39 41 []]
    let method := node "method_declaration" "" 20 43
      [ node "array_type" "type" 20 25 []
      , node "identifier" "name" 26 27 []
      , node "formal_parameters" "parameters" 27 29 []
      , node "block" "body" 29 43 [node "return_statement" "" 30 42 [call]] ]
    let record := node "record_declaration" "" 0 44
      [ node "identifier" "name" 7 8 []
      , node "formal_parameters" "parameters" 8 19 [component]
      , node "class_body" "body" 19 44 [method] ]
    let source : Source :=
      { relative := "R.java"
        text := "record R(int... xs)\x7bint[] g()\x7breturn xs();\x7d\x7d".toList
        tree := node "program" "" 0 44 [record] }
    isShaped source.tree = true ∧ ((typesOf source).1.map Declared.qualified).Nodup ∧
      (declarators component.children).filterMap
          (fun declarator => source.fieldText? "name" declarator.children) = ["xs"] ∧
        ((symbols [] source).filter fun symbol => symbol.kind = .reference).map
          (fun symbol => (symbol.name, symbol.className, symbol.referenceTo)) =
            [("xs", some "R", none)] := by
  decide +kernel

end SymbolAtlas.Java
