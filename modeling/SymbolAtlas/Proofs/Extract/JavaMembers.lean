import SymbolAtlas.Proofs.Dict
import SymbolAtlas.Proofs.Extract.JavaPlaces

/-!
# References in Java files lead to members that the file declares

Names are resolved in the index of the types of a file, which one recursion gathers from
the members of their bodies. The symbols come from another, which visits all nodes. The
two meet in the roles that the parts of a declaration play: `declaredRoles` are those of
the members that the index takes in, and each of them is the role of a stop of the visit,
inside the type that is declared.

The visit knows no bodies of types, only nodes it passes through. So the two agree in
trees in which these bodies have the rules that belong to them, see `isShaped`.
-/

namespace SymbolAtlas.Java

/-- The rules of the bodies of types. -/
def typeBodies : List String :=
  ["class_body", "interface_body", "enum_body", "annotation_type_body"]

/-- Whether a node of this rule may have these children: a type has a body of a type. -/
def admits (rule : String) (children : List Tree) : Bool :=
  !declaresType rule ||
    (fieldChild? "body" children).all fun body => typeBodies.contains body.rule

mutual

/-- Whether every node at or below this one may have the children it has. -/
def isOrderly : Tree → Bool
  | .node mark children => admits mark.rule children && isOrderlyAmong children

/-- Whether every node at or below several ones may have the children it has. -/
def isOrderlyAmong : List Tree → Bool
  | [] => true
  | tree :: rest => isOrderly tree && isOrderlyAmong rest

end

/-- Whether a tree is one of a whole file. -/
def isShaped (tree : Tree) : Bool :=
  tree.rule = "program" && isOrderly tree

/-- The trees of an orderly list are orderly. -/
theorem isOrderly_of_mem {trees : List Tree} (orderly : isOrderlyAmong trees = true)
    {tree : Tree} (member : tree ∈ trees) : isOrderly tree = true := by
  induction trees with
  | nil => cases member
  | cons first rest hypothesis =>
    obtain ⟨head, tail⟩ := Bool.and_eq_true_iff.1 orderly
    rcases List.mem_cons.1 member with rfl | later
    · exact head
    · exact hypothesis tail later

/-- The children of an orderly tree are orderly. -/
theorem isOrderly_of_mem_children {tree child : Tree} (orderly : isOrderly tree = true)
    (member : child ∈ tree.children) : isOrderly child = true := by
  obtain ⟨mark, children⟩ := tree
  exact isOrderly_of_mem (Bool.and_eq_true_iff.1 orderly).2 member

/-- The members of an orderly body are orderly. -/
theorem isOrderly_of_mem_bodyMembers {body member : Tree} (orderly : isOrderly body = true)
    (inside : member ∈ bodyMembers body) : isOrderly member = true := by
  obtain ⟨part, among, within⟩ := List.mem_flatMap.1 inside
  have whole := isOrderly_of_mem_children orderly (List.mem_of_mem_filter among)
  split at within
  · exact isOrderly_of_mem_children whole (List.mem_of_mem_filter within)
  · exact List.mem_singleton.1 within ▸ whole

/-- The body of a type is passed through. -/
theorem ofRule_body {tree body : Tree} (orderly : isOrderly tree = true)
    (declares : declaresType tree.rule = true)
    (inside : fieldChild? "body" tree.children = some body) :
    Form.ofRule body.rule = .other := by
  obtain ⟨mark, children⟩ := tree
  have fits : admits mark.rule children = true := (Bool.and_eq_true_iff.1 orderly).1
  have declared : declaresType mark.rule = true := declares
  have found : fieldChild? "body" children = some body := inside
  rw [admits, declared, found] at fits
  have ruled : body.rule ∈ typeBodies := by simpa using fits
  have plain : ∀ rule ∈ typeBodies, Form.ofRule rule = .other := by decide
  exact plain _ ruled

/-- What a member of a body declares in the type of the body. -/
def memberRoles (source : Source) (member : Tree) : List Role :=
  let name? := source.fieldText? "name" member.children
  if member.rule = "method_declaration" then name?.toList.map .callable
  else if member.rule = "field_declaration" || member.rule = "constant_declaration" then
    let written := (source.fieldText? "type" member.children).getD ""
    (declarators member.children).filterMap fun declarator =>
      (source.fieldText? "name" declarator.children).map (.declarator .field · written)
  else if member.rule = "enum_constant" then name?.toList.map .constant
  else []

/-- What a declaration declares in its type: the components of a record and the members
of the body. -/
def declaredRoles (source : Source) (tree : Tree) : List Role :=
  let components :=
    if tree.rule = "record_declaration" then parameters source tree.children else []
  let members := match fieldChild? "body" tree.children with
    | some body => bodyMembers body
    | none => []
  components.map (fun (name, written) => .component name written) ++
    members.flatMap (memberRoles source)

namespace Role

/-- The method that is declared; the component of a record is one too. -/
def method? : Role → Option String
  | .callable name => some name
  | .component name _ => some name
  | _ => none

/-- The field that is declared. -/
def field? : Role → Option String
  | .component name _ => some name
  | .declarator .field name _ => some name
  | .constant name => some name
  | _ => none

end Role

/-- The declaration is that of a type, and its methods and fields have these roles. -/
structure Declared.Describes (declared : Declared) (type : Enclosing) (roles : List Role) :
    Prop where
  qualified : declared.qualified = type.qualified
  method : ∀ name ∈ declared.methods, ∃ role ∈ roles, role.method? = some name
  field : ∀ name, declared.fields.has name = true → ∃ role ∈ roles, role.field? = some name

namespace Declared.Describes

variable {declared : Declared} {type : Enclosing} {roles : List Role} {role : Role}
  {name : String}

/-- One more method. -/
theorem addMethod (described : declared.Describes type roles) (listed : role ∈ roles)
    (gives : role.method? = some name) :
    { declared with methods := declared.methods ++ [name] : Declared }.Describes type roles where
  qualified := described.qualified
  method other member := by
    rcases List.mem_append.1 member with before | now
    · exact described.method other before
    · exact ⟨role, listed, List.mem_singleton.1 now ▸ gives⟩
  field := described.field

/-- One more field. -/
theorem putField (described : declared.Describes type roles) (listed : role ∈ roles)
    (gives : role.field? = some name) (written : String) :
    { declared with fields := declared.fields.put name written : Declared }.Describes
      type roles where
  qualified := described.qualified
  method := described.method
  field other bound := by
    rw [Dict.has_put, Bool.or_eq_true, decide_eq_true_eq] at bound
    rcases bound with now | before
    · exact ⟨role, listed, now ▸ gives⟩
    · exact described.field other before

/-- One more component of a record. -/
theorem addComponent (described : declared.Describes type roles) {component : String × String}
    (listed : .component component.1 component.2 ∈ roles) :
    (declared.addComponent component).Describes type roles :=
  (described.putField listed rfl component.2).addMethod listed rfl

/-- One more member of the body. -/
theorem addMember {source : Source} {member : Tree} (described : declared.Describes type roles)
    (listed : memberRoles source member ⊆ roles) :
    (declared.addMember source member).Describes type roles := by
  unfold Declared.addMember
  unfold memberRoles at listed
  dsimp only at listed
  split
  next method =>
    rw [if_pos method] at listed
    cases named : source.fieldText? "name" member.children with
    | none => exact described
    | some name =>
      exact described.addMethod (listed (List.mem_map_of_mem (Option.mem_toList.2 named))) rfl
  next noMethod =>
    rw [if_neg noMethod] at listed
    split
    next field =>
      rw [if_pos field] at listed
      refine List.foldlRecOn (motive := (Declared.Describes · type roles)) _ _ described
        fun before still declarator inside => ?_
      cases named : source.fieldText? "name" declarator.children with
      | none => exact still
      | some name =>
        have given : .declarator .field name _ ∈ roles :=
          listed (List.mem_filterMap.2 ⟨declarator, inside, by rw [named]; rfl⟩)
        exact still.putField given rfl _
    next noField =>
      rw [if_neg noField] at listed
      split
      next constant =>
        rw [if_pos constant] at listed
        cases named : source.fieldText? "name" member.children with
        | none => exact described
        | some name =>
          exact described.putField (listed (List.mem_map_of_mem (Option.mem_toList.2 named))) rfl _
      next => exact described

end Declared.Describes

/-- What the index takes in of a declaration has the roles of its parts. -/
theorem describes_ofDeclaration (source : Source) (outer : Option String) (simple : String)
    (tree : Tree) :
    (Declared.ofDeclaration source outer tree.rule simple tree.children).Describes
      ⟨simple, under outer simple⟩ (declaredRoles source tree) := by
  unfold Declared.ofDeclaration
  let motive := (Declared.Describes · ⟨simple, under outer simple⟩ (declaredRoles source tree))
  refine List.foldlRecOn (motive := motive) _ _ (List.foldlRecOn (motive := motive) _ _ ?_ ?_) ?_
  · exact ⟨rfl, by simp, by simp [Dict.has, Dict.get?]⟩
  · intro declared described component inside
    exact described.addComponent
      (List.mem_append_left _ (List.mem_map.2 ⟨component, inside, rfl⟩))
  · intro declared described member inside
    exact described.addMember fun role given =>
      List.mem_append_right _ (List.mem_flatMap.2 ⟨member, inside, given⟩)

/-- A stop in a list at which something with a role is made inside a type. -/
def HasStop (list : List Stop) (role : Role) (enclosing : Option Enclosing) : Prop :=
  ∃ stop ∈ list, stop.role = role ∧ stop.scope.enclosing = enclosing

/-- A longer list has the stops of a shorter one. -/
theorem HasStop.mono {list others : List Stop} {role : Role} {enclosing : Option Enclosing}
    (found : HasStop list role enclosing) (longer : list ⊆ others) :
    HasStop others role enclosing :=
  let ⟨stop, listed, same⟩ := found
  ⟨stop, longer listed, same⟩

/-- The declared variables among several trees, one tree after the other. -/
theorem declarators_cons (tree : Tree) (rest : List Tree) :
    declarators (tree :: rest) =
      if tree.mark.named && tree.rule = "variable_declarator" then tree :: declarators rest
      else declarators rest := by
  rw [declarators, namedTrees, List.filter_filter, List.filter_cons, Bool.and_comm,
    ← List.filter_filter]
  rfl

/-- Every declared variable has a stop, whatever the values of those before it do to the
local variables. -/
theorem hasStop_stopsOfDeclarators (context : Context) (above : List Tree) (kind : Kind)
    (written : String) (scope : Scope) {trees : List Tree} {declarator : Tree} {name : String}
    (inside : declarator ∈ declarators trees)
    (named : context.source.fieldText? "name" declarator.children = some name) :
    HasStop (stopsOfDeclarators context above kind written scope trees)
      (.declarator kind name written) scope.enclosing := by
  induction trees generalizing scope with
  | nil => cases inside
  | cons first rest hypothesis =>
    rw [declarators_cons] at inside
    obtain ⟨mark, children⟩ := first
    rw [stopsOfDeclarators]
    split at inside
    next declares =>
      rw [if_pos (show (mark.named && mark.rule = "variable_declarator") = true from declares)]
      rcases List.mem_cons.1 inside with rfl | later
      · have here : context.source.fieldText? "name" children = some name := named
        rw [here]
        exact ⟨_, List.mem_cons_self, rfl, rfl⟩
      · cases context.source.fieldText? "name" children with
        | none => exact hypothesis scope later
        | some other =>
          dsimp only
          generalize between : (visitIn context mark.rule "value" _ children).1 = after
          have same : after.enclosing = scope.enclosing := by
            rw [← between, enclosing_visitIn]
            split <;> rfl
          exact same ▸ (hypothesis after later).mono (List.subset_append_right _ _)
    next otherwise =>
      rw [if_neg (show ¬(mark.named && mark.rule = "variable_declarator") = true from otherwise)]
      exact hypothesis scope inside

/-- What a member of a body declares has a stop in the visit of the member. -/
theorem hasStop_of_memberRoles (context : Context) (above : List Tree) (scope : Scope)
    {member : Tree} {role : Role} (declared : role ∈ memberRoles context.source member) :
    HasStop (stops context above scope member) role scope.enclosing := by
  unfold memberRoles at declared
  split at declared
  next method =>
    obtain ⟨name, named, rfl⟩ := List.mem_map.1 declared
    have form : Form.ofRule member.rule = .callable := by rw [method]; decide
    obtain ⟨mark, children⟩ := member
    rw [stops, ← Tree.rule_node mark children, form]
    dsimp only
    rw [show context.source.fieldText? "name" children = _ from Option.mem_toList.1 named]
    exact ⟨_, List.mem_cons_self, rfl, rfl⟩
  split at declared
  next field =>
    obtain ⟨declarator, inside, given⟩ := List.mem_filterMap.1 declared
    obtain ⟨name, named, rfl⟩ := Option.map_eq_some_iff.1 given
    have form : Form.ofRule member.rule = .fieldDeclaration := by
      rcases Bool.or_eq_true_iff.1 field with rule | rule <;>
        rw [of_decide_eq_true rule] <;> decide
    obtain ⟨mark, children⟩ := member
    rw [stops, ← Tree.rule_node mark children, form]
    exact hasStop_stopsOfDeclarators context _ .field _ scope inside named
  split at declared
  next constant =>
    obtain ⟨name, named, rfl⟩ := List.mem_map.1 declared
    have form : Form.ofRule member.rule = .enumConstant := by rw [constant]; decide
    obtain ⟨mark, children⟩ := member
    rw [stops, ← Tree.rule_node mark children, form]
    dsimp only
    rw [show context.source.fieldText? "name" children = _ from Option.mem_toList.1 named]
    exact ⟨_, List.mem_cons_self, rfl, rfl⟩
  · cases declared

/-- The visit of a type comes to the type, its components and its body. -/
theorem stops_of_declaresType (context : Context) (above : List Tree) (scope : Scope)
    {tree : Tree} {simple : String} (declares : declaresType tree.rule = true)
    (named : context.source.fieldText? "name" tree.children = some simple) :
    stops context above scope tree =
      ⟨.type simple, above, scope, tree⟩ ::
        componentStops context (tree :: above) (context.inside scope simple) tree.mark
            tree.children ++
          stopsIn context (tree :: above) "body" (context.inside scope simple) tree.children := by
  obtain ⟨mark, children⟩ := tree
  have form : Form.ofRule mark.rule = .typeDeclaration := ofRule_of_declaresType declares
  have here : context.source.fieldText? "name" children = some simple := named
  rw [stops, form, here]
  rfl

/-- The members of the body of a type are come to inside the type. -/
theorem exists_stops_subset_of_member (context : Context) (above : List Tree) (scope : Scope)
    {tree body member : Tree} {simple : String} (orderly : isOrderly tree = true)
    (declares : declaresType tree.rule = true)
    (named : context.source.fieldText? "name" tree.children = some simple)
    (found : fieldChild? "body" tree.children = some body) (inside : member ∈ bodyMembers body) :
    ∃ around there, there.enclosing = (context.inside scope simple).enclosing ∧
      stops context around there member ⊆ stops context above scope tree := by
  obtain ⟨around, there, same, within⟩ :=
    exists_stops_subset_of_bodyMembers context (tree :: above) (context.inside scope simple)
      (ofRule_body orderly declares found) inside
  refine ⟨around, there, same, List.Subset.trans within ?_⟩
  rw [stops_of_declaresType context above scope declares named, stopsIn_eq, found]
  exact List.subset_append_right _ _

/-- What a declaration declares in its type has a stop in its visit. -/
theorem hasStop_of_declaredRoles (context : Context) (above : List Tree) (scope : Scope)
    {tree : Tree} {simple : String} {role : Role} (orderly : isOrderly tree = true)
    (declares : declaresType tree.rule = true)
    (named : context.source.fieldText? "name" tree.children = some simple)
    (declared : role ∈ declaredRoles context.source tree) :
    HasStop (stops context above scope tree) role (context.inside scope simple).enclosing := by
  rcases List.mem_append.1 declared with component | member
  · obtain ⟨⟨name, written⟩, inside, rfl⟩ := List.mem_map.1 component
    have listed : HasStop (componentStops context (tree :: above) (context.inside scope simple)
        tree.mark tree.children) (.component name written)
        (context.inside scope simple).enclosing := by
      unfold componentStops
      split at inside
      next record =>
        rw [if_pos (show tree.mark.rule = "record_declaration" from record)]
        unfold parameters at inside
        cases list : fieldChild? "parameters" tree.children with
        | none => simp [list] at inside
        | some parts =>
          rw [list] at inside
          obtain ⟨part, among, given⟩ := List.mem_filterMap.1 inside
          exact ⟨⟨.component name written, parts :: tree :: above, _, part⟩,
            List.mem_filterMap.2 ⟨part, among, by rw [given]; rfl⟩, rfl, rfl⟩
      next => cases inside
    rw [stops_of_declaresType context above scope declares named]
    exact listed.mono fun stop inside =>
      List.mem_append_left _ (List.mem_cons_of_mem _ inside)
  · obtain ⟨part, inside, given⟩ := List.mem_flatMap.1 member
    cases found : fieldChild? "body" tree.children with
    | none => simp [found] at inside
    | some body =>
      rw [found] at inside
      obtain ⟨around, there, same, within⟩ :=
        exists_stops_subset_of_member context above scope orderly declares named found inside
      exact same ▸ (hasStop_of_memberRoles context around there given).mono within

/-- A node is the declaration of a type, in a tree that lies in a type or package: the
tree itself, or one among the members of its body. -/
inductive Declaration (source : Source) : Option String → Tree → Enclosing → Tree → Prop where
  | here {outer : Option String} {tree : Tree} {simple : String}
      (declares : declaresType tree.rule = true)
      (named : source.fieldText? "name" tree.children = some simple) :
      Declaration source outer tree ⟨simple, under outer simple⟩ tree
  | within {outer : Option String} {tree body member node : Tree} {simple : String}
      {type : Enclosing} (declares : declaresType tree.rule = true)
      (named : source.fieldText? "name" tree.children = some simple)
      (found : fieldChild? "body" tree.children = some body) (inside : member ∈ bodyMembers body)
      (deeper : Declaration source (some (under outer simple)) member type node) :
      Declaration source outer tree type node

/-- A file declares a type. -/
def Declares (source : Source) (type : Enclosing) : Prop :=
  ∃ part ∈ namedTrees source.tree.children, ∃ node,
    Declaration source (Imports.ofSource source).package part type node

/-- What is declared in a type has a stop inside that type. -/
theorem hasStop_of_declaration {context : Context} {outer : Option String} {tree node : Tree}
    {type : Enclosing} (declaration : Declaration context.source outer tree type node)
    (orderly : isOrderly tree = true) (above : List Tree) (scope : Scope)
    (around : (scope.qualified <|> context.imports.package) = outer) {role : Role}
    (declared : role ∈ declaredRoles context.source node) :
    HasStop (stops context above scope tree) role (some type) := by
  induction declaration generalizing above scope with
  | here declares named =>
    subst around
    exact hasStop_of_declaredRoles context above scope orderly declares named declared
  | @within outer tree _ _ _ simple _ declares named found inside deeper hypothesis =>
    obtain ⟨beyond, there, same, covered⟩ :=
      exists_stops_subset_of_member context above scope orderly declares named found inside
    have member := isOrderly_of_mem_bodyMembers
      (isOrderly_of_mem_children orderly (List.mem_of_find?_eq_some found)) inside
    have inner : (there.qualified <|> context.imports.package) =
        some (under outer simple) := by
      rw [Scope.qualified, same, ← around]
      rfl
    exact (hypothesis member beyond there inner declared).mono covered

/-- The members of a body, one part after the other. -/
theorem bodyMembers_cons (mark : Mark) (part : Tree) (rest : List Tree) :
    bodyMembers (.node mark (part :: rest)) =
      (if part.mark.named then
        if part.rule = "enum_body_declarations" then namedTrees part.children else [part]
      else []) ++ bodyMembers (.node mark rest) := by
  cases named : part.mark.named <;> simp [bodyMembers, namedTrees, named]

mutual

/-- A type that the index knows of a tree has a declaration there, whose parts are what
the index knows of the type. -/
theorem exists_declaration_of_declaredBy {source : Source} {outer : Option String}
    {tree : Tree} {declared : Declared} (listed : declared ∈ declaredBy source outer tree) :
    ∃ type node, Declaration source outer tree type node ∧
      declared.Describes type (declaredRoles source node) := by
  match tree with
  | .node mark children =>
    rw [declaredBy] at listed
    split at listed
    next declares =>
      cases named : source.fieldText? "name" children with
      | none => simp [named] at listed
      | some simple =>
        rw [named] at listed
        rcases List.mem_cons.1 listed with rfl | nested
        · exact ⟨_, _, .here declares named,
            describes_ofDeclaration source outer simple (.node mark children)⟩
        · obtain ⟨body, found, member, inside, type, node, deeper, described⟩ :=
            exists_declaration_of_declaredInBody nested
          exact ⟨type, node, .within declares named found inside deeper, described⟩
    next => cases listed

/-- The types that the index knows of a body have declarations among its members. -/
theorem exists_declaration_of_declaredInBody {source : Source} {outer : Option String}
    {trees : List Tree} {declared : Declared}
    (listed : declared ∈ declaredInBody source outer trees) :
    ∃ body, fieldChild? "body" trees = some body ∧ ∃ member ∈ bodyMembers body, ∃ type node,
      Declaration source outer member type node ∧
        declared.Describes type (declaredRoles source node) := by
  match trees with
  | [] => cases listed
  | .node mark children :: rest =>
    rw [declaredInBody] at listed
    split at listed
    next fills =>
      exact ⟨.node mark children, List.find?_cons_of_pos fills,
        exists_declaration_of_declaredByMembers mark listed⟩
    next fillsNot =>
      obtain ⟨body, found, nested⟩ := exists_declaration_of_declaredInBody listed
      have skip : fieldChild? "body" (.node mark children :: rest) = fieldChild? "body" rest :=
        List.find?_cons_of_neg fillsNot
      exact ⟨body, skip.trans found, nested⟩

/-- The types that the index knows of the parts of a body have declarations among its
members. -/
theorem exists_declaration_of_declaredByMembers {source : Source} {outer : Option String}
    {trees : List Tree} {declared : Declared} (mark : Mark)
    (listed : declared ∈ declaredByMembers source outer trees) :
    ∃ member ∈ bodyMembers (.node mark trees), ∃ type node,
      Declaration source outer member type node ∧
        declared.Describes type (declaredRoles source node) := by
  match trees with
  | [] => cases listed
  | .node part children :: rest =>
    rw [bodyMembers_cons]
    rw [declaredByMembers] at listed
    rcases List.mem_append.1 listed with first | later
    · cases named : part.named with
      | false => simp [named] at first
      | true =>
        rw [named] at first
        rw [if_pos (show (Tree.node part children).mark.named = true from named)]
        by_cases deeper : part.rule = "enum_body_declarations"
        · rw [if_pos (show (Tree.node part children).rule = _ from deeper)]
          obtain ⟨member, inside, nested⟩ :=
            exists_declaration_of_declaredAmong (by simpa [deeper] using first)
          exact ⟨member, List.mem_append_left _ inside, nested⟩
        · rw [if_neg (show ¬(Tree.node part children).rule = _ from deeper)]
          exact ⟨_, List.mem_append_left _ List.mem_cons_self,
            exists_declaration_of_declaredBy (by simpa [deeper] using first)⟩
    · obtain ⟨member, inside, nested⟩ := exists_declaration_of_declaredByMembers mark later
      exact ⟨member, List.mem_append_right _ inside, nested⟩

/-- The types that the index knows of several trees have declarations in the named ones. -/
theorem exists_declaration_of_declaredAmong {source : Source} {outer : Option String}
    {trees : List Tree} {declared : Declared}
    (listed : declared ∈ declaredAmong source outer trees) :
    ∃ part ∈ namedTrees trees, ∃ type node, Declaration source outer part type node ∧
      declared.Describes type (declaredRoles source node) := by
  match trees with
  | [] => cases listed
  | tree :: rest =>
    rw [declaredAmong] at listed
    rw [namedTrees, List.filter_cons]
    split at listed
    next named =>
      rw [if_pos named]
      rcases List.mem_append.1 listed with first | later
      · exact ⟨tree, List.mem_cons_self, exists_declaration_of_declaredBy first⟩
      · obtain ⟨part, inside, nested⟩ := exists_declaration_of_declaredAmong later
        exact ⟨part, List.mem_cons_of_mem _ inside, nested⟩
    next unnamed =>
      rw [if_neg unnamed]
      exact exists_declaration_of_declaredAmong listed

end

/-- What the index of a file knows under a name comes from a declaration of that name. -/
theorem exists_declared_of_addFile {source : Source} {qualified : String} {info : TypeInfo}
    (known : (TypeIndex.addFile [] source).get? qualified = some info) :
    ∃ declared ∈ (typesOf source).1, declared.qualified = qualified ∧
      info.methods = declared.methods ∧ info.fields = declared.fields := by
  revert known
  unfold TypeIndex.addFile
  refine List.foldlRecOn (motive := fun index : TypeIndex => index.get? qualified = some info → _)
    _ _ (by simp [Dict.get?]) fun index hypothesis declared inside known => ?_
  rw [Dict.get?_put] at known
  split at known
  next same =>
    obtain rfl := Option.some.inj known
    exact ⟨declared, inside, same.symm, rfl, rfl⟩
  next => exact hypothesis known

/-- A climb ends at a known type that has the member. -/
theorem Resolver.get?_of_climb? {resolver : Resolver} {has : TypeInfo → Bool} {steps : Nat}
    {current declaring : String} {info : TypeInfo}
    (reached : resolver.climb? has steps current = some (declaring, info)) :
    resolver.get? declaring = some info ∧ has info = true := by
  induction steps generalizing current with
  | zero => cases reached
  | succ steps hypothesis =>
    rw [Resolver.climb?] at reached
    cases known : resolver.get? current with
    | none => simp [known] at reached
    | some found =>
      simp only [known] at reached
      split at reached
      next has =>
        obtain ⟨rfl, rfl⟩ := Prod.mk.inj (Option.some.inj reached)
        exact ⟨known, has⟩
      next =>
        cases next : resolver.superclassOf? found with
        | none => simp [next] at reached
        | some superclass => exact hypothesis (by simpa [next] using reached)

/-- In a file that stands alone, what is known of a type comes from its declaration there,
and what it declares has stops. -/
theorem exists_declares_of_get? {source : Source} (shaped : isShaped source.tree = true)
    {qualified : String} {info : TypeInfo}
    (known : (Context.ofSource [] source).resolver.get? qualified = some info) :
    ∃ type, ∃ roles : List Role, type.qualified = qualified ∧ Declares source type ∧
      (∀ role ∈ roles, HasStop (stops (Context.ofSource [] source) [] {} source.tree) role
        (some type)) ∧
      (∀ name ∈ info.methods, ∃ role ∈ roles, role.method? = some name) ∧
      ∀ name, info.fields.has name = true → ∃ role ∈ roles, role.field? = some name := by
  obtain ⟨program, orderly⟩ := Bool.and_eq_true_iff.1 shaped
  have here : (TypeIndex.addFile [] source).get? qualified = some info := by
    unfold Resolver.get? at known
    split at known
    next found => exact known ▸ found
    next => cases known
  obtain ⟨declared, listed, same, methods, fields⟩ := exists_declared_of_addFile here
  obtain ⟨part, inside, type, node, declaration, described⟩ :=
    exists_declaration_of_declaredAmong listed
  refine ⟨type, declaredRoles source node, described.qualified.symm.trans same,
    ⟨part, inside, node, declaration⟩, ?_, methods ▸ described.method, fields ▸ described.field⟩
  intro role given
  have form : Form.ofRule source.tree.rule = .other := by
    rw [of_decide_eq_true program]
    decide
  rw [stops_of_other _ [] {} form]
  obtain ⟨there, outside, within⟩ :=
    exists_stops_subset_stopsAmong (Context.ofSource [] source) [source.tree] {} inside
  have around : (there.qualified <|> (Context.ofSource [] source).imports.package) =
      (Imports.ofSource source).package := by
    rw [Scope.qualified, outside]
    rfl
  have covered := isOrderly_of_mem_children orderly (List.mem_of_mem_filter inside)
  exact (hasStop_of_declaration declaration covered _ there around given).mono within

/-- What is made at the declaration of a method. -/
theorem Stop.symbols_of_method? (context : Context) {stop : Stop} {name : String}
    (declares : stop.role.method? = some name) :
    ∃ symbol ∈ stop.symbols context, symbol.name = name ∧
      symbol.className = stop.scope.owner ∧
        (symbol.kind = .method ∨
          symbol.kind = .field ∧ ∃ written, stop.role = .component name written) := by
  obtain ⟨role, above, scope, node⟩ := stop
  cases role with
  | callable own =>
    obtain rfl := Option.some.inj declares
    exact ⟨_, List.mem_singleton_self _, rfl, rfl, .inl rfl⟩
  | component own written =>
    obtain rfl := Option.some.inj declares
    exact ⟨_, List.mem_singleton_self _, rfl, rfl, .inr ⟨rfl, written, rfl⟩⟩
  | _ => cases declares

/-- What is made at the declaration of a field. -/
theorem Stop.symbols_of_field? (context : Context) {stop : Stop} {name : String}
    (declares : stop.role.field? = some name) :
    ∃ symbol ∈ stop.symbols context, symbol.name = name ∧
      symbol.className = stop.scope.owner ∧ symbol.kind = .field := by
  obtain ⟨role, above, scope, node⟩ := stop
  cases role with
  | component own written =>
    obtain rfl := Option.some.inj declares
    exact ⟨_, List.mem_singleton_self _, rfl, rfl, rfl⟩
  | declarator kind own written =>
    cases kind with
    | field =>
      obtain rfl := Option.some.inj declares
      exact ⟨_, List.mem_singleton_self _, rfl, rfl, rfl⟩
    | _ => cases declares
  | constant own =>
    obtain rfl := Option.some.inj declares
    exact ⟨_, List.mem_singleton_self _, rfl, rfl, rfl⟩
  | _ => cases declares

/-- A call refers to a method that was found. -/
theorem Context.method?_of_mem_callSymbols {context : Context} {scope : Scope} {mark : Mark}
    {children : List Tree} {reference : Symbol}
    (emitted : reference ∈ context.callSymbols scope mark children) {target : String}
    (resolved : reference.referenceTo = some target) :
    ∃ owner, context.resolver.method? owner reference.name = some target := by
  unfold callSymbols at emitted
  split at emitted
  next => cases emitted
  next name _ =>
    obtain rfl := List.mem_singleton.1 emitted
    obtain ⟨owner, -, found⟩ := Option.bind_eq_some_iff.1 resolved
    exact ⟨owner, found⟩

/-- A use refers to what its name stands for. -/
theorem Context.nameTarget?_of_mem_useSymbols {context : Context} {scope : Scope}
    {parent : Option String} {mark : Mark} {reference : Symbol}
    (emitted : reference ∈ context.useSymbols scope parent mark) :
    context.nameTarget? scope reference.name = reference.referenceTo := by
  unfold useSymbols at emitted
  split at emitted
  next => cases emitted
  next =>
    split at emitted
    next => cases emitted
    next =>
      dsimp only at emitted
      split at emitted
      next => cases emitted
      next target found =>
        obtain rfl := List.mem_singleton.1 emitted
        exact found

/-- In a file that stands alone, a method that is found belongs to a type of the file and
has a symbol there. -/
theorem exists_made_of_method? {source : Source} (shaped : isShaped source.tree = true)
    {owner name target : String}
    (found : (Context.ofSource [] source).resolver.method? owner name = some target) :
    ∃ type, Declares source type ∧ target = type.qualified ++ "." ++ name ∧
      ∃ place symbol, (place, symbol) ∈ made [] source ∧ symbol.name = name ∧
        symbol.className = some type.simple ∧
          (symbol.kind = .method ∨
            symbol.kind = .field ∧ ∃ written, place.role = .component name written) := by
  obtain ⟨⟨declaring, info⟩, reached, rfl⟩ := Option.map_eq_some_iff.1 found
  obtain ⟨known, has⟩ := Resolver.get?_of_climb? reached
  obtain ⟨type, roles, rfl, declares, stopped, methods, -⟩ := exists_declares_of_get? shaped known
  obtain ⟨role, given, method⟩ := methods name (List.contains_iff_mem.1 has)
  obtain ⟨place, visited, rfl, inside⟩ := stopped role given
  obtain ⟨symbol, listed, named, owned, kind⟩ := place.symbols_of_method? _ method
  refine ⟨type, declares, rfl, place, symbol, mem_made.2 ⟨visited, listed⟩, named, ?_, kind⟩
  rw [owned, Scope.owner, inside]
  rfl

/-- In a file that stands alone, a field that is found belongs to a type of the file and
has a symbol there. -/
theorem exists_symbol_of_fieldOwner? {source : Source} (shaped : isShaped source.tree = true)
    {owner name declaring : String} {info : TypeInfo}
    (found : (Context.ofSource [] source).resolver.fieldOwner? owner name =
      some (declaring, info)) :
    ∃ type, Declares source type ∧ declaring = type.qualified ∧
      ∃ symbol ∈ symbols [] source, symbol.name = name ∧
        symbol.className = some type.simple ∧ symbol.kind = .field := by
  obtain ⟨known, has⟩ := Resolver.get?_of_climb? found
  obtain ⟨type, roles, same, declares, stopped, -, fields⟩ := exists_declares_of_get? shaped known
  obtain ⟨role, given, field⟩ := fields name has
  obtain ⟨place, visited, rfl, inside⟩ := stopped role given
  obtain ⟨symbol, listed, named, owned, kind⟩ := place.symbols_of_field? _ field
  refine ⟨type, declares, same.symm, symbol, ?_, named, ?_, kind⟩
  · rw [← map_made]
    exact List.mem_map_of_mem (mem_made.2 ⟨visited, listed⟩)
  · rw [owned, Scope.owner, inside]
    rfl

/-- In a file that stands alone, a call that is resolved refers to a method, by the full
name of a type that the file declares and the name of the call, and the method, or the
component of a record that stands for one, has a symbol in that type. A use of a name
refers to a variable in scope, or in the same way to a field with a symbol. -/
theorem reference_declared (source : Source) (shaped : isShaped source.tree = true) :
    (made [] source).map Prod.snd = symbols [] source ∧
      ∀ stop reference target, (stop, reference) ∈ made [] source →
        reference.referenceTo = some target →
          (stop.role = .call ∧
            ∃ type, Declares source type ∧ target = type.qualified ++ "." ++ reference.name ∧
              ∃ place symbol, (place, symbol) ∈ made [] source ∧
                symbol.name = reference.name ∧ symbol.className = some type.simple ∧
                  (symbol.kind = .method ∨ symbol.kind = .field ∧
                    ∃ written, place.role = .component reference.name written)) ∨
          (stop.role = .use ∧
            (stop.scope.locals.has reference.name = true ∧ target = reference.name ∨
              ∃ type, Declares source type ∧ target = type.qualified ++ "." ++ reference.name ∧
                ∃ symbol ∈ symbols [] source, symbol.name = reference.name ∧
                  symbol.className = some type.simple ∧ symbol.kind = .field)) := by
  refine ⟨map_made [] source, fun stop reference target emitted resolved => ?_⟩
  obtain ⟨-, here⟩ := mem_made.1 emitted
  obtain ⟨role, above, scope, node⟩ := stop
  cases role with
  | call =>
    obtain ⟨owner, found⟩ := Context.method?_of_mem_callSymbols here resolved
    exact .inl ⟨rfl, exists_made_of_method? shaped found⟩
  | use =>
    refine .inr ⟨rfl, ?_⟩
    have stands := (Context.nameTarget?_of_mem_useSymbols here).trans resolved
    unfold Context.nameTarget? at stands
    split at stands
    next bound => exact .inl ⟨bound, (Option.some.inj stands).symm⟩
    next =>
      obtain ⟨⟨declaring, info⟩, found, rfl⟩ := Option.map_eq_some_iff.1 stands
      obtain ⟨owner, -, reached⟩ := Option.bind_eq_some_iff.1 found
      obtain ⟨type, declares, rfl, listed⟩ := exists_symbol_of_fieldOwner? shaped reached
      exact .inr ⟨type, declares, rfl, listed⟩
  | _ =>
    -- a declaration refers to nothing
    obtain rfl := List.mem_singleton.1 here
    cases resolved

/-- An enumeration, whose method lies one level deeper than its constant, and a record: a
method calls itself with the constant, and another calls what a component stands for. -/
theorem reference_declared_members :
    let node := fun (rule field : String) (start stop : Nat) children =>
      Tree.node { rule := rule, fields := [field], start := start, stop := stop } children
    let package := node "package_declaration" "" 0 10 [node "identifier" "" 8 9 []]
    let inner := node "method_invocation" "" 34 38
      [ node "identifier" "name" 34 35 []
      , node "argument_list" "arguments" 35 38 [node "identifier" "" 36 37 []] ]
    let first := node "method_declaration" "" 19 40
      [ node "identifier" "name" 23 24 []
      , node "block" "body" 26 40 [node "return_statement" "" 27 39 [inner]] ]
    let enumeration := node "enum_declaration" "" 10 41
      [ node "identifier" "name" 15 16 []
      , node "enum_body" "body" 16 41
          [ node "enum_constant" "" 17 18 [node "identifier" "name" 17 18 []]
          , node "enum_body_declarations" "" 18 40 [first] ] ]
    let call := node "method_invocation" "" 72 75
      [node "identifier" "name" 72 73 [], node "argument_list" "arguments" 73 75 []]
    let second := node "method_declaration" "" 57 77
      [ node "identifier" "name" 61 62 []
      , node "block" "body" 64 77 [node "return_statement" "" 65 76 [call]] ]
    let component := node "formal_parameter" "" 50 55
      [node "integral_type" "type" 50 53 [], node "identifier" "name" 54 55 []]
    let record := node "record_declaration" "" 41 78
      [ node "identifier" "name" 48 49 []
      , node "formal_parameters" "parameters" 49 56 [component]
      , node "class_body" "body" 56 78 [second] ]
    let source : Source :=
      { relative := "p/E.java"
        text := ("package p;enum E\x7bA;int f()\x7breturn f(A);\x7d\x7d" ++
          "record R(int x)\x7bint g()\x7breturn x();\x7d\x7d").toList
        tree := node "program" "" 0 78 [package, enumeration, record] }
    isShaped source.tree = true ∧
      ∀ target ∈ ["p.E.f", "p.E.A", "p.R.x"], ∃ type, Declares source type ∧
        ∃ reference ∈ symbols [] source, reference.referenceTo = some target ∧
          target = type.qualified ++ "." ++ reference.name ∧
            ∃ symbol ∈ symbols [] source, symbol.name = reference.name ∧
              symbol.className = some type.simple := by
  intro node package inner first enumeration call second component record source
  have shaped : isShaped source.tree = true := by decide +kernel
  have emitted : ∀ target ∈ ["p.E.f", "p.E.A", "p.R.x"], ∃ entry ∈ made [] source,
      entry.2.referenceTo = some target ∧ entry.2.name ≠ target := by decide +kernel
  refine ⟨shaped, fun target listed => ?_⟩
  obtain ⟨⟨stop, reference⟩, inside, resolved, other⟩ := emitted target listed
  obtain ⟨same, declared⟩ := reference_declared source shaped
  have among : reference ∈ symbols [] source := same ▸ List.mem_map_of_mem inside
  rcases declared stop reference target inside resolved with
    ⟨-, type, declares, named, place, symbol, made, called, owned, -⟩ | ⟨-, ⟨-, bound⟩ | field⟩
  · exact ⟨type, declares, reference, among, resolved, named, symbol,
      same ▸ List.mem_map_of_mem made, called, owned⟩
  · exact absurd bound.symm other
  · obtain ⟨type, declares, named, symbol, listed, called, owned, -⟩ := field
    exact ⟨type, declares, reference, among, resolved, named, symbol, listed, called, owned⟩

end SymbolAtlas.Java
