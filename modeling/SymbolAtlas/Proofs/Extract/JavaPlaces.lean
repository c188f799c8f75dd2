import SymbolAtlas.Proofs.Extract.JavaStops
import SymbolAtlas.Proofs.Tree

/-!
# The ways to the stops of a Java file

A `Place` is a node with the way to it from the root: at every step the node that is left and the
children of it that stand in front. `ComesTo` says which places the visit of a file comes to, and in
which scope, with one constructor for each way to go on: into the body of a type or of a method,
into the initial value of a variable, and into the named parts of other nodes. It is the induction
principle for stops. Every stop is at a visited place, or below one as a declarator or as a
component, so what is kept by each of the ways to go on holds at all stops.

Kept in this way are the way itself, which leads up to the root, and the innermost type around.
-/

namespace SymbolAtlas.Java

/-- A step down a tree, from a node to one of its children, which stands behind others. -/
structure Step where
  parent : Tree
  before : List Tree

/-- A node in a tree, with the way to it from the root. The last step comes first. -/
structure Place where
  node : Tree
  path : List Step

/-- The nodes around a place, the innermost first. -/
def Place.above (place : Place) : List Tree :=
  place.path.map Step.parent

mutual

/-- The places of a tree to which a path leads, the root in front of what is below it. -/
def places (path : List Step) : Tree → List Place
  | .node mark children =>
    ⟨.node mark children, path⟩ :: placesAmong path (.node mark children) [] children

/-- The places of the last children of a node, behind others. -/
def placesAmong (path : List Step) (parent : Tree) (before : List Tree) : List Tree → List Place
  | [] => []
  | tree :: rest =>
    places (⟨parent, before⟩ :: path) tree ++ placesAmong path parent (before ++ [tree]) rest

end

/-- A tree is a place of its own. -/
theorem self_mem_places (path : List Step) (tree : Tree) : ⟨tree, path⟩ ∈ places path tree := by
  obtain ⟨mark, children⟩ := tree
  exact List.mem_cons_self

mutual

/-- The places of a place are places of the tree. -/
theorem places_subset_of_mem {path : List Step} {tree : Tree} {place : Place}
    (inside : place ∈ places path tree) : places place.path place.node ⊆ places path tree := by
  match tree with
  | .node mark children =>
    rcases List.mem_cons.1 inside with rfl | below
    · exact List.Subset.refl _
    · exact List.subset_cons_of_subset _ (places_subset_of_mem_placesAmong below)
termination_by structural tree

/-- The places of a place among several trees are places of theirs. -/
theorem places_subset_of_mem_placesAmong {path : List Step} {parent : Tree}
    {before trees : List Tree} {place : Place}
    (inside : place ∈ placesAmong path parent before trees) :
    places place.path place.node ⊆ placesAmong path parent before trees := by
  match trees with
  | [] => cases inside
  | tree :: rest =>
    rcases List.mem_append.1 inside with here | later
    · exact List.subset_append_of_subset_left _ (places_subset_of_mem here)
    · exact List.subset_append_of_subset_right _ (places_subset_of_mem_placesAmong later)
termination_by structural trees

end

/-- A child is a place of its parent. -/
theorem child_mem_places {path : List Step} {parent child : Tree} {before after : List Tree}
    (split : parent.children = before ++ child :: after) :
    ⟨child, ⟨parent, before⟩ :: path⟩ ∈ places path parent := by
  have among (ahead : List Tree) : ⟨child, ⟨parent, ahead ++ before⟩ :: path⟩ ∈
      placesAmong path parent ahead (before ++ child :: after) := by
    clear split
    induction before generalizing ahead with
    | nil =>
      rw [List.append_nil]
      exact List.mem_append_left _ (self_mem_places _ child)
    | cons first rest hypothesis =>
      have further := hypothesis (ahead ++ [first])
      rw [List.append_assoc] at further
      exact List.mem_append_right _ further
  obtain ⟨mark, children⟩ := parent
  have inside := among []
  rw [← split] at inside
  exact List.mem_cons_of_mem _ inside

/-- What the declarators below a node of a rule declare, if they do. -/
def variableKind? (rule : String) : Option Kind :=
  match Form.ofRule rule with
  | .fieldDeclaration => some .field
  | .localDeclaration => some .binding
  | _ => none

/-- What a node declares as a declarator, given the path to it. -/
def kindAbove? (path : List Step) : Option Kind :=
  path.head?.bind fun step => variableKind? step.parent.rule

/-- The declarations of variables are those of fields and of local variables. -/
theorem variableKind?_eq_some {rule : String} {kind : Kind}
    (declares : variableKind? rule = some kind) :
    Form.ofRule rule = .fieldDeclaration ∧ kind = .field ∨
      Form.ofRule rule = .localDeclaration ∧ kind = .binding := by
  rw [variableKind?] at declares
  split at declares
  next form => exact .inl ⟨form, (Option.some.inj declares).symm⟩
  next form => exact .inr ⟨form, (Option.some.inj declares).symm⟩
  next => cases declares

/-- Whether names are looked for in all named parts of nodes of a form. -/
def isOpen : Form → Bool
  | .loopOrResource | .enumConstant | .invocation | .other => true
  | _ => false

/-- The scope at the start of a node of which all named parts are come to. -/
def Context.openScope (context : Context) (scope : Scope) (tree : Tree) : Scope :=
  if Form.ofRule tree.rule = .loopOrResource then context.loopScope scope tree.children else scope

/-- The scope at the initial value of a variable. -/
def Scope.declareIf (scope : Scope) (kind : Kind) (name written : String) : Scope :=
  if kind = .binding then scope.declare name written else scope

/-- A variable changes nothing of the enclosing type. -/
@[simp] theorem Scope.enclosing_declareIf (scope : Scope) (kind : Kind) (name written : String) :
    (scope.declareIf kind name written).enclosing = scope.enclosing := by
  unfold declareIf
  split <;> rfl

/-- The written type of a declaration. -/
def writtenType (source : Source) (declaration : Tree) : String :=
  (source.fieldText? "type" declaration.children).getD ""

/-- The visit of a file comes to a node by a path, in a scope. -/
inductive ComesTo (context : Context) (root : Tree) : List Step → Scope → Tree → Prop
  | root : ComesTo context root [] {} root
  | typeBody {path : List Step} {scope : Scope} {parent body : Tree} {before after : List Tree}
      {simple : String} (outer : ComesTo context root path scope parent)
      (form : Form.ofRule parent.rule = .typeDeclaration)
      (named : context.source.fieldText? "name" parent.children = some simple)
      (split : parent.children = before ++ body :: after) :
      ComesTo context root (⟨parent, before⟩ :: path) (context.inside scope simple) body
  | callableBody {path : List Step} {scope : Scope} {parent body : Tree} {before after : List Tree}
      (outer : ComesTo context root path scope parent)
      (form : Form.ofRule parent.rule = .callable)
      (split : parent.children = before ++ body :: after) :
      ComesTo context root (⟨parent, before⟩ :: path)
        (context.callableScope scope parent.children) body
  | part {path : List Step} {scope : Scope} {parent child : Tree} {before after : List Tree}
      (outer : ComesTo context root path scope parent)
      (form : isOpen (Form.ofRule parent.rule) = true)
      (split : parent.children = before ++ child :: after) :
      ComesTo context root (⟨parent, before⟩ :: path)
        (visitAmong context parent.rule (context.openScope scope parent) before).1 child
  | value {path : List Step} {scope : Scope} {declaration declarator value : Tree}
      {ahead behind before after : List Tree} {kind : Kind} {name : String}
      (outer : ComesTo context root path scope declaration)
      (declares : variableKind? declaration.rule = some kind)
      (among : declaration.children = ahead ++ declarator :: behind)
      (rule : declarator.rule = "variable_declarator")
      (named : context.source.fieldText? "name" declarator.children = some name)
      (split : declarator.children = before ++ value :: after) :
      ComesTo context root (⟨declarator, before⟩ :: ⟨declaration, ahead⟩ :: path)
        ((visitDeclarators context kind (writtenType context.source declaration) scope ahead).1
          |>.declareIf kind name (writtenType context.source declaration)) value

/-- Whether something with this role is made at nodes of a rule: types, methods and constructors at
their own rules, declared variables as fields or local variables. -/
def Role.suits (rule : String) : Role → Bool
  | .type _ => Form.ofRule rule = .typeDeclaration
  | .callable _ => Form.ofRule rule = .callable
  | .declarator kind _ _ => kind = .field || kind = .binding
  | _ => true

/-- A stop is made on a visit: at a place that is come to, or below one, as a declarator of a
declaration or as a component of a record. -/
inductive Stop.IsOn (context : Context) (root : Tree) : Stop → Prop
  | place {role : Role} {path : List Step} {scope : Scope} {node : Tree}
      (come : ComesTo context root path scope node) (suits : role.suits node.rule = true) :
      IsOn context root ⟨role, path.map Step.parent, scope, node⟩
  | declarator {path : List Step} {scope inner : Scope} {declaration node : Tree} {kind : Kind}
      {name written : String} (come : ComesTo context root path scope declaration)
      (declares : kind = .field ∨ kind = .binding) (inside : node ∈ declaration.children) :
      IsOn context root
        ⟨.declarator kind name written, declaration :: path.map Step.parent, inner, node⟩
  | component {path : List Step} {scope inner : Scope} {type list node : Tree}
      {name written : String} (come : ComesTo context root path scope type)
      (listed : list ∈ type.children) (inside : node ∈ list.children) :
      IsOn context root
        ⟨.component name written, list :: type :: path.map Step.parent, inner, node⟩

/-- The scope behind some trees and one more. -/
theorem visitAmong_concat (context : Context) (parent : String) (scope : Scope)
    (before : List Tree) (tree : Tree) :
    (visitAmong context parent scope (before ++ [tree])).1 =
      if tree.mark.named then
        (visit context (some parent) (visitAmong context parent scope before).1 tree).1
      else (visitAmong context parent scope before).1 := by
  induction before generalizing scope with
  | nil =>
    rw [List.nil_append, visitAmong, visitAmong]
    split <;> rfl
  | cons first rest hypothesis =>
    rw [List.cons_append, visitAmong, visitAmong]
    split
    · exact hypothesis _
    · exact hypothesis scope

/-- The scope behind several declarators is that behind all but the first, from behind the first. -/
theorem visitDeclarators_cons (context : Context) (kind : Kind) (written : String) (scope : Scope)
    (first : Tree) (rest : List Tree) :
    (visitDeclarators context kind written scope (first :: rest)).1 =
      (visitDeclarators context kind written
        (visitDeclarators context kind written scope [first]).1 rest).1 := by
  obtain ⟨mark, children⟩ := first
  simp only [visitDeclarators]
  split
  · split <;> rfl
  · rfl

/-- The scope behind some declarators and one more. -/
theorem visitDeclarators_concat (context : Context) (kind : Kind) (written : String)
    (scope : Scope) (before : List Tree) (tree : Tree) :
    (visitDeclarators context kind written scope (before ++ [tree])).1 =
      (visitDeclarators context kind written
        (visitDeclarators context kind written scope before).1 [tree]).1 := by
  induction before generalizing scope with
  | nil => rfl
  | cons first rest hypothesis =>
    rw [List.cons_append, visitDeclarators_cons, hypothesis, ← visitDeclarators_cons]

section Stops

variable {context : Context} {root : Tree}

/-- The components of a record are below it. -/
theorem isOn_of_mem_componentStops {path : List Step} {scope inner : Scope} {mark : Mark}
    {children : List Tree} (come : ComesTo context root path scope (.node mark children)) :
    ∀ stop ∈ componentStops context (.node mark children :: path.map Step.parent) inner mark
      children, stop.IsOn context root := by
  intro stop member
  unfold componentStops at member
  split at member
  next =>
    split at member
    next list filled =>
      obtain ⟨component, among, found⟩ := List.mem_filterMap.1 member
      obtain ⟨⟨name, written⟩, -, rfl⟩ := Option.map_eq_some_iff.1 found
      exact .component come (List.mem_of_find?_eq_some filled) (List.mem_of_mem_filter among)
    next => cases member
  next => cases member

mutual

/-- The stops of a node that is come to are on the visit. -/
theorem isOn_of_mem_stops {path : List Step} {scope : Scope} (tree : Tree)
    (come : ComesTo context root path scope tree) :
    ∀ stop ∈ stops context (path.map Step.parent) scope tree, stop.IsOn context root := by
  match tree with
  | .node mark children =>
    intro stop member
    have whole : (Tree.node mark children).children = [] ++ children := rfl
    unfold stops at member
    dsimp only at member
    generalize form : Form.ofRule mark.rule = part at member
    have among (opened : isOpen part = true) {start : Scope}
        (starts : context.openScope scope (.node mark children) = start)
        (below : stop ∈ stopsAmong context (.node mark children :: path.map Step.parent) start
          children) : stop.IsOn context root := by
      refine isOn_of_mem_stopsAmong children come (by rw [Tree.rule_node, form, opened]) whole stop ?_
      rw [starts]
      exact below
    have plain (other : part ≠ .loopOrResource) :
        context.openScope scope (.node mark children) = scope :=
      if_neg fun loop => other (form.symm.trans loop)
    cases part with
    | preamble | catchParameter => cases member
    | typeDeclaration =>
      dsimp only at member
      split at member
      next => cases member
      next simple named =>
        rw [List.cons_append] at member
        rcases List.mem_cons.1 member with rfl | member
        · exact .place come (decide_eq_true form)
        rcases List.mem_append.1 member with component | later
        · exact isOn_of_mem_componentStops come stop component
        · exact isOn_of_mem_stopsIn "body" children
            (fun before body after split => .typeBody come form named split) whole stop later
    | callable =>
      dsimp only at member
      split at member
      next => cases member
      next =>
        rcases List.mem_cons.1 member with rfl | later
        · exact .place come (decide_eq_true form)
        · exact isOn_of_mem_stopsIn "body" children
            (fun before body after split => .callableBody come form split) whole stop later
    | fieldDeclaration =>
      exact isOn_of_mem_stopsOfDeclarators .field children come
        (by rw [variableKind?, Tree.rule_node, form]) whole stop member
    | localDeclaration =>
      exact isOn_of_mem_stopsOfDeclarators .binding children come
        (by rw [variableKind?, Tree.rule_node, form]) whole stop member
    | enumConstant =>
      rcases List.mem_append.1 member with constant | later
      · split at constant
        next =>
          obtain rfl := List.mem_singleton.1 constant
          exact .place come rfl
        next => cases constant
      · exact among rfl (plain (by simp)) later
    | loopOrResource => exact among rfl (if_pos form) member
    | invocation =>
      rcases List.mem_cons.1 member with rfl | later
      · exact .place come rfl
      · exact among rfl (plain (by simp)) later
    | identifier =>
      obtain rfl := List.mem_singleton.1 member
      exact .place come rfl
    | other => exact among rfl (plain (by simp)) member
termination_by structural tree

/-- The stops of the named parts of a node that is come to are on the visit. -/
theorem isOn_of_mem_stopsAmong {path : List Step} {scope : Scope} {parent : Tree}
    {before : List Tree} (trees : List Tree) (come : ComesTo context root path scope parent)
    (form : isOpen (Form.ofRule parent.rule) = true) (split : parent.children = before ++ trees) :
    ∀ stop ∈ stopsAmong context (parent :: path.map Step.parent)
        (visitAmong context parent.rule (context.openScope scope parent) before).1 trees,
      stop.IsOn context root := by
  match trees with
  | [] =>
    intro stop member
    cases member
  | tree :: rest =>
    have behind : parent.children = (before ++ [tree]) ++ rest := by
      rw [split, List.append_assoc]
      rfl
    have later := isOn_of_mem_stopsAmong rest come form behind
    rw [visitAmong_concat] at later
    intro stop member
    unfold stopsAmong at member
    split at member
    next named =>
      rw [if_pos named] at later
      rcases List.mem_append.1 member with here | after
      · exact isOn_of_mem_stops tree (.part come form split) stop here
      · exact later stop after
    next unnamed =>
      rw [if_neg unnamed] at later
      exact later stop member
termination_by structural trees

/-- The stops of the tree in a field are on the visit, if what stands in the field is come to. -/
theorem isOn_of_mem_stopsIn {path : List Step} {inner : Scope} {parent : Tree}
    {before : List Tree} (field : String) (trees : List Tree)
    (come : ∀ before child after, parent.children = before ++ child :: after →
      ComesTo context root (⟨parent, before⟩ :: path) inner child)
    (split : parent.children = before ++ trees) :
    ∀ stop ∈ stopsIn context (parent :: path.map Step.parent) field inner trees,
      stop.IsOn context root := by
  match trees with
  | [] =>
    intro stop member
    cases member
  | tree :: rest =>
    intro stop member
    unfold stopsIn at member
    split at member
    next => exact isOn_of_mem_stops tree (come before tree rest split) stop member
    next =>
      have behind : parent.children = (before ++ [tree]) ++ rest := by
        rw [split, List.append_assoc]
        rfl
      exact isOn_of_mem_stopsIn field rest come behind stop member
termination_by structural trees

/-- The stops of the declarators of a declaration that is come to are on the visit. -/
theorem isOn_of_mem_stopsOfDeclarators {path : List Step} {scope : Scope} {declaration : Tree}
    {before : List Tree} (kind : Kind) (trees : List Tree)
    (come : ComesTo context root path scope declaration)
    (declares : variableKind? declaration.rule = some kind)
    (split : declaration.children = before ++ trees) :
    ∀ stop ∈ stopsOfDeclarators context (declaration :: path.map Step.parent) kind
        (writtenType context.source declaration)
        (visitDeclarators context kind (writtenType context.source declaration) scope before).1
        trees,
      stop.IsOn context root := by
  match trees with
  | [] =>
    intro stop member
    cases member
  | .node mark children :: rest =>
    have behind : declaration.children = (before ++ [.node mark children]) ++ rest := by
      rw [split, List.append_assoc]
      rfl
    have later := isOn_of_mem_stopsOfDeclarators kind rest come declares behind
    rw [visitDeclarators_concat, visitDeclarators, visitDeclarators] at later
    intro stop member
    unfold stopsOfDeclarators at member
    split at member
    next declarator =>
      rw [if_pos declarator] at later
      split at member
      next unnamed =>
        rw [unnamed] at later
        exact later stop member
      next name named =>
        rw [named] at later
        rw [List.cons_append] at member
        rcases List.mem_cons.1 member with rfl | member
        · refine .declarator come ?_ (by rw [split]; simp)
          rcases variableKind?_eq_some declares with ⟨-, same⟩ | ⟨-, same⟩
          · exact .inl same
          · exact .inr same
        rcases List.mem_append.1 member with value | after
        · have rule : mark.rule = "variable_declarator" :=
            of_decide_eq_true (Bool.and_eq_true_iff.1 declarator).2
          have parts : (Tree.node mark children).children = [] ++ children := rfl
          have further : ∀ front value after,
              (Tree.node mark children).children = front ++ value :: after →
              ComesTo context root (⟨.node mark children, front⟩ :: ⟨declaration, before⟩ :: path)
                _ value :=
            fun _ _ _ inside => .value come declares split rule named inside
          exact isOn_of_mem_stopsIn "value" children further parts stop value
        · exact later stop after
    next other =>
      rw [if_neg other] at later
      exact later stop member
termination_by structural trees

end

end Stops

/-- A path of nodes up a tree, the innermost first. -/
def IsPath (path : List Tree) : Prop :=
  List.IsChain (fun inner outer => inner ∈ outer.children) path

/-- A path goes on with a child of its first node. -/
theorem IsPath.child {tree child : Tree} {path : List Tree} (nested : IsPath (tree :: path))
    (inside : child ∈ tree.children) : IsPath (child :: tree :: path) :=
  List.isChain_cons_cons.2 ⟨inside, nested⟩

/-- The innermost type declared around a node, read off the nodes around it, the innermost
first. -/
def innermost (source : Source) (package : Option String) : List Tree → Option Enclosing
  | [] => none
  | tree :: around =>
    match declaresType tree.rule, source.fieldText? "name" tree.children with
    | true, some simple =>
      some ⟨simple,
        under ((innermost source package around).map Enclosing.qualified <|> package) simple⟩
    | _, _ => innermost source package around

/-- A scope lies inside the innermost type around a node. -/
def Scope.LiesIn (scope : Scope) (context : Context) (above : List Tree) : Prop :=
  scope.enclosing = innermost context.source context.imports.package above

/-- A type declaration plays the part of one. -/
theorem ofRule_of_declaresType {rule : String} (declares : declaresType rule = true) :
    Form.ofRule rule = .typeDeclaration := by
  simp only [declaresType, Bool.or_eq_true, decide_eq_true_eq] at declares
  rcases declares with (((rule | rule) | rule) | rule) | rule <;> rw [rule] <;> decide

/-- The visit enters types at their declarations only. -/
theorem declaresType_of_ofRule {rule : String} (form : Form.ofRule rule = .typeDeclaration) :
    declaresType rule = true := by
  unfold Form.ofRule at form
  split at form
  next => cases form
  split at form
  next declares => exact declares
  next =>
    -- every later rule plays another part
    exfalso
    revert form
    repeat' split
    all_goals simp

section Ways

variable {context : Context} {root : Tree} {path : List Step} {scope : Scope} {tree : Tree}
  {above : List Tree}

/-- A node that declares no type leaves the innermost type. -/
theorem Scope.LiesIn.pass (inside : scope.LiesIn context above)
    (plain : Form.ofRule tree.rule ≠ .typeDeclaration) : scope.LiesIn context (tree :: above) := by
  have typeless : declaresType tree.rule = false := by
    rw [← Bool.not_eq_true]
    intro declares
    exact plain (ofRule_of_declaresType declares)
  unfold LiesIn innermost
  rw [typeless]
  exact inside

/-- The scope inside a type lies in it. -/
theorem Context.inside_liesIn (inside : scope.LiesIn context above)
    (form : Form.ofRule tree.rule = .typeDeclaration) {simple : String}
    (named : context.source.fieldText? "name" tree.children = some simple) :
    (context.inside scope simple).LiesIn context (tree :: above) := by
  unfold Scope.LiesIn innermost
  rw [declaresType_of_ofRule form, named]
  dsimp only
  rw [← inside]
  rfl

/-- Nodes of which all named parts are come to declare no variables in declarators. -/
theorem variableKind?_of_isOpen {rule : String} (opened : isOpen (Form.ofRule rule) = true) :
    variableKind? rule = none := by
  rw [variableKind?]
  generalize Form.ofRule rule = form at opened ⊢
  cases form with
  | loopOrResource | enumConstant | invocation | other => rfl
  | preamble | typeDeclaration | callable | catchParameter | identifier => rfl
  | fieldDeclaration | localDeclaration => cases opened

/-- A node that is come to is no declarator of a declaration. -/
theorem ComesTo.kindAbove?_eq_none (come : ComesTo context root path scope tree) :
    kindAbove? path = none := by
  cases come with
  | root => rfl
  | typeBody _ form | callableBody _ form =>
    rw [kindAbove?, List.head?_cons, Option.bind_some, variableKind?, form]
  | part _ form => exact variableKind?_of_isOpen form
  | value _ _ _ rule =>
    rw [kindAbove?, List.head?_cons, Option.bind_some, rule]
    rfl

/-- The way to a node that is come to is a path. -/
theorem ComesTo.isPath (come : ComesTo context root path scope tree) :
    IsPath (tree :: path.map Step.parent) := by
  induction come with
  | root => exact List.IsChain.singleton _
  | typeBody _ _ _ split nested | callableBody _ _ split nested | part _ _ split nested =>
    exact nested.child (by simp [split])
  | value _ _ among _ _ split nested =>
    exact (nested.child (by simp [among])).child (by simp [split])

/-- A node that is come to is a place of the tree. -/
theorem ComesTo.mem_places (come : ComesTo context root path scope tree) :
    (⟨tree, path⟩ : Place) ∈ places [] root := by
  induction come with
  | root => exact self_mem_places [] root
  | typeBody _ _ _ split inside | callableBody _ _ split inside | part _ _ split inside =>
    exact places_subset_of_mem inside (child_mem_places split)
  | value _ _ among _ _ split inside =>
    exact places_subset_of_mem (places_subset_of_mem inside (child_mem_places among))
      (child_mem_places split)

/-- The way to a node that is come to leads up to the root. -/
theorem ComesTo.behind (come : ComesTo context root path scope tree) :
    [root] <:+ tree :: path.map Step.parent := by
  induction come with
  | root => exact List.suffix_rfl
  | typeBody _ _ _ _ upper | callableBody _ _ _ upper | part _ _ _ upper =>
    exact upper.trans (List.suffix_cons _ _)
  | value _ _ _ _ _ _ upper =>
    exact upper.trans ((List.suffix_cons _ _).trans (List.suffix_cons _ _))

/-- The scope of a node that is come to lies in the innermost type around it. -/
theorem ComesTo.liesIn (come : ComesTo context root path scope tree) :
    scope.LiesIn context (path.map Step.parent) := by
  induction come with
  | root => rfl
  | typeBody _ form named _ outer => exact Context.inside_liesIn outer form named
  | callableBody _ form _ outer =>
    exact (context.enclosing_callableScope _ _).trans (outer.pass (by simp [form]))
  | @part path scope parent child before after _ form _ outer =>
    have start : (context.openScope scope parent).enclosing = scope.enclosing := by
      unfold Context.openScope
      split
      · exact context.enclosing_loopScope scope parent.children
      · rfl
    refine ((enclosing_visitAmong ..).trans start).trans (outer.pass ?_)
    intro type
    rw [type] at form
    cases form
  | @value path scope declaration declarator value ahead behind before after kind name _ declares _
      rule _ _ outer =>
    have ofVariables : Form.ofRule declaration.rule ≠ .typeDeclaration := by
      rcases variableKind?_eq_some declares with ⟨form, -⟩ | ⟨form, -⟩ <;> simp [form]
    have ofVariable : Form.ofRule declarator.rule ≠ .typeDeclaration := by
      rw [rule]
      decide
    rw [Scope.LiesIn, Scope.enclosing_declareIf, enclosing_visitDeclarators]
    exact (outer.pass ofVariables).pass ofVariable

/-- A stop is placed in a tree: the nodes around it lead up to the root. -/
structure Stop.IsPlaced (stop : Stop) (root : Tree) : Prop where
  nested : IsPath (stop.node :: stop.above)
  behind : [root] <:+ stop.node :: stop.above

/-- What is on the visit is placed. -/
theorem Stop.IsOn.isPlaced {stop : Stop} (on : stop.IsOn context root) : stop.IsPlaced root := by
  cases on with
  | place come _ => exact ⟨come.isPath, come.behind⟩
  | declarator come _ inside =>
    exact ⟨come.isPath.child inside, come.behind.trans (List.suffix_cons _ _)⟩
  | component come listed inside =>
    refine ⟨(come.isPath.child listed).child inside, ?_⟩
    exact come.behind.trans ((List.suffix_cons _ _).trans (List.suffix_cons _ _))

end Ways

/-- The stops of a file are on its visit. -/
theorem isOn_of_mem_made {elsewhere : TypeIndex} {source : Source} {stop : Stop} {symbol : Symbol}
    (emitted : (stop, symbol) ∈ made elsewhere source) :
    stop.IsOn (Context.ofSource elsewhere source) source.tree :=
  isOn_of_mem_stops source.tree .root stop (mem_made.1 emitted).1

end SymbolAtlas.Java
