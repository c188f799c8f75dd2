import Mathlib.Data.List.Flatten
import SymbolAtlas.Proofs.Extract.PythonCalls
import SymbolAtlas.Proofs.Extract.Sites

/-!
# What encloses the symbols of Python files

The visit carries two things down the tree, the innermost class and whether a function has been
entered since. Here both are read off the nodes around a node: `scopeAt` is the innermost class
definition among them, and whether the innermost definition of either sort is a function. So
`symbolsAt` gives the symbols of a node from the node and what is around it, and the symbols of a
file are those of its sites, one after another.

What is around a node is told by the rules of the grammar, and so is what an assignment assigns to.
Its left side is one target or a list of targets, in brackets or not, whose elements may be lists
again or stand behind a star. `targets` are the places in it that are no lists, each with whether a
star is in front of it, and `targetEntries` says what the definitions around make of one. The visit
does not look behind stars: the starred names of an assignment are left out, and no others.
-/

namespace SymbolAtlas.Python

/-- Whether a node defines a class. -/
def isClass (tree : Tree) : Bool :=
  tree.rule = "class_definition"

/-- Whether a node defines a function. -/
def isFunction (tree : Tree) : Bool :=
  tree.rule = "function_definition"

/-- Whether a node is an assignment. -/
def isAssignment (tree : Tree) : Bool :=
  tree.rule = "assignment"

/-- The innermost class around. -/
def innermostClass? (above : List Tree) : Option Tree :=
  above.find? isClass

/-- The innermost class or function around. -/
def innermostDefinition? (above : List Tree) : Option Tree :=
  above.find? fun tree => isClass tree || isFunction tree

/-- The name of the innermost class around. -/
def classAround? (source : Source) (above : List Tree) : Option String :=
  (innermostClass? above).bind fun type => source.fieldText? "name" type.children

/-- Whether the innermost class or function around is a class. -/
def isDirectlyInClass (above : List Tree) : Bool :=
  (innermostDefinition? above).any isClass

/-- Whether the innermost class or function around is a function. -/
def isDirectlyInFunction (above : List Tree) : Bool :=
  (innermostDefinition? above).any isFunction

/-- The scope that the nodes around come to. -/
def scopeAt (source : Source) (above : List Tree) : Scope where
  owner := classAround? source above
  inFunction := isDirectlyInFunction above

section Forms

variable {rule : String}

/-- Classes are the nodes of one rule of the grammar. -/
@[simp] theorem Form.ofRule_eq_classDefinition :
    Form.ofRule rule = .classDefinition ↔ rule = "class_definition" := by
  grind [Form.ofRule]

/-- Functions are the nodes of one rule of the grammar. -/
@[simp] theorem Form.ofRule_eq_functionDefinition :
    Form.ofRule rule = .functionDefinition ↔ rule = "function_definition" := by
  grind [Form.ofRule]

/-- Assignments are the nodes of one rule of the grammar. -/
@[simp] theorem Form.ofRule_eq_assignment :
    Form.ofRule rule = .assignment ↔ rule = "assignment" := by
  grind [Form.ofRule]

/-- Definitions are the nodes of two rules of the grammar. -/
theorem Form.isDefinition_ofRule : (Form.ofRule rule).isDefinition =
    (decide (rule = "class_definition") || decide (rule = "function_definition")) := by
  grind [Form.ofRule, Form.isDefinition]

end Forms

section Scopes

variable {source : Source} {mark : Mark} {children : List Tree}

/-- Inside a class. -/
theorem scopeAt_cons_class {name : String} (rule : mark.rule = "class_definition")
    (named : source.fieldText? "name" children = some name) (above : List Tree) :
    scopeAt source (.node mark children :: above) = ⟨some name, false⟩ := by
  simp [scopeAt, classAround?, innermostClass?, isDirectlyInFunction, innermostDefinition?,
    isClass, isFunction, rule, named]

/-- Inside a function. -/
theorem scopeAt_cons_function (rule : mark.rule = "function_definition") (above : List Tree) :
    scopeAt source (.node mark children :: above) = ⟨(scopeAt source above).owner, true⟩ := by
  simp [scopeAt, classAround?, innermostClass?, isDirectlyInFunction, innermostDefinition?,
    isClass, isFunction, rule]

/-- Inside anything else. -/
theorem scopeAt_cons_other (form : (Form.ofRule mark.rule).isDefinition = false)
    (above : List Tree) :
    scopeAt source (.node mark children :: above) = scopeAt source above := by
  rw [Form.isDefinition_ofRule, Bool.or_eq_false_iff] at form
  have noClass : isClass (.node mark children) = false := form.1
  have noFunction : isFunction (.node mark children) = false := form.2
  simp [scopeAt, classAround?, innermostClass?, isDirectlyInFunction, innermostDefinition?,
    noClass, noFunction]

end Scopes

/-- A place that an assignment assigns to, and whether a star is in front of it. -/
structure Target where
  tree : Tree
  starred : Bool

/-- Whether nodes of a rule are lists of targets: without brackets, in round or in square ones. -/
def isTargetList (rule : String) : Bool :=
  rule = "pattern_list" || rule = "tuple_pattern" || rule = "list_pattern"

mutual

/-- The targets in the left side of an assignment, to any depth of lists and stars. -/
def targets (starred : Bool) : Tree → List Target
  | .node mark children =>
    if isTargetList mark.rule then targetsAmong starred children
    else if mark.rule = "list_splat_pattern" then targetsAmong true children
    else [⟨.node mark children, starred⟩]

/-- The targets in the named trees among several. -/
def targetsAmong (starred : Bool) : List Tree → List Target
  | [] => []
  | tree :: rest =>
    if tree.mark.named then targets starred tree ++ targetsAmong starred rest
    else targetsAmong starred rest

end

/-- The targets of an assignment. -/
def assignedTo (assignment : Tree) : List Target :=
  (fieldChild? "left" assignment.children).toList.flatMap (targets false)

/-- The symbols of a node, from the node and what is around it. -/
def symbolsAt (context : Context) (site : Site) : List Symbol :=
  let scope := scopeAt context.source site.above
  let own := fun kind => (context.source.fieldText? "name" site.node.children).toList.map
    (context.symbol scope site.node.mark kind)
  match Form.ofRule site.node.rule with
  | .classDefinition => own .classLike
  | .functionDefinition => own .method
  | .assignment => (fieldChild? "left" site.node.children).toList.flatMap
    (targetSymbols context scope site.node.mark)
  | .call => context.callSymbols scope site.node.mark site.node.children
  | _ => []

mutual

/-- The symbols of a tree in the scope of what is around it are those of its sites. -/
theorem visit_eq_flatMap (context : Context) (above : List Tree) (tree : Tree) :
    visit context (scopeAt context.source above) tree =
      (tree.sites (route context.source) above).flatMap (symbolsAt context) := by
  match tree with
  | .node mark children =>
    rw [visit, Tree.sites, List.flatMap_cons, symbolsAt, route]
    have among (form : (Form.ofRule mark.rule).isDefinition = false) :
        visitAmong context (scopeAt context.source above) children =
          (Tree.sitesAmong (route context.source) (.node mark children :: above) children).flatMap
            (symbolsAt context) := by
      rw [← visitAmong_eq_flatMap context (.node mark children :: above) children,
        scopeAt_cons_other form]
    cases form : Form.ofRule mark.rule with
    | classDefinition =>
      simp only [Tree.rule_node, Tree.children_node, form]
      cases named : context.source.fieldText? "name" children with
      | none => rfl
      | some name =>
        have body := visitIn_eq_flatMap context "body" (.node mark children :: above) children
        rw [scopeAt_cons_class (Form.ofRule_eq_classDefinition.1 form) named] at body
        exact congrArg
          (context.symbol (scopeAt context.source above) mark .classLike name :: ·) body
    | functionDefinition =>
      have body := visitIn_eq_flatMap context "body" (.node mark children :: above) children
      rw [scopeAt_cons_function (Form.ofRule_eq_functionDefinition.1 form)] at body
      simp only [Tree.rule_node, Tree.children_node, form]
      rw [body]
      cases context.source.fieldText? "name" children <;> rfl
    | assignment =>
      have value := visitIn_eq_flatMap context "right" (.node mark children :: above) children
      rw [scopeAt_cons_other (by rw [form]; rfl)] at value
      simp only [Tree.rule_node, Tree.children_node, form]
      rw [value]
      refine congrArg (· ++ _) ?_
      cases fieldChild? "left" children with
      | none => rfl
      | some left => exact (List.flatMap_singleton _ left).symm
    | call =>
      simp only [Tree.rule_node, Tree.children_node, form]
      rw [among (by rw [form]; rfl)]
      rfl
    | _ =>
      simp only [Tree.rule_node, form, List.nil_append]
      exact among (by rw [form]; rfl)

/-- The symbols of several trees are those of their sites. -/
theorem visitAmong_eq_flatMap (context : Context) (above trees : List Tree) :
    visitAmong context (scopeAt context.source above) trees =
      (Tree.sitesAmong (route context.source) above trees).flatMap (symbolsAt context) := by
  match trees with
  | [] => rfl
  | tree :: rest =>
    unfold visitAmong Tree.sitesAmong
    split
    · rw [List.flatMap_append, visit_eq_flatMap, visitAmong_eq_flatMap]
    · exact visitAmong_eq_flatMap context above rest

/-- The symbols of the tree in a field are those of its sites. -/
theorem visitIn_eq_flatMap (context : Context) (field : String) (above trees : List Tree) :
    visitIn context field (scopeAt context.source above) trees =
      (Tree.sitesIn (route context.source) field above trees).flatMap (symbolsAt context) := by
  match trees with
  | [] => rfl
  | tree :: rest =>
    unfold visitIn Tree.sitesIn
    split
    · exact visit_eq_flatMap context above tree
    · exact visitIn_eq_flatMap context field above rest

end

section Targets

variable {source : Source} {above : List Tree}

/-- On the route every class around has a name. -/
theorem exists_name_of_passes {type : Tree} (passed : Tree.Passes (route source) (type :: above))
    (isType : isClass type = true) :
    ∃ name, source.fieldText? "name" type.children = some name := by
  rw [← Option.isSome_iff_exists, ← Bool.not_eq_false]
  intro nameless
  refine passed type List.mem_cons_self ?_
  have form : Form.ofRule type.mark.rule = .classDefinition :=
    Form.ofRule_eq_classDefinition.2 (of_decide_eq_true isType)
  rw [route, form, nameless]
  rfl

/-- There is an owner just when some class is around. -/
theorem isSome_owner_scopeAt (passed : Tree.Passes (route source) above) :
    (scopeAt source above).owner.isSome = (innermostClass? above).isSome := by
  induction above with
  | nil => rfl
  | cons tree rest hypothesis =>
    cases type : isClass tree with
    | true =>
      obtain ⟨name, named⟩ := exists_name_of_passes passed type
      simp [scopeAt, classAround?, innermostClass?, type, named]
    | false =>
      simpa [scopeAt, classAround?, innermostClass?, type] using
        hypothesis (List.forall_mem_cons.1 passed).2

/-- A class is the innermost definition around just when there is an owner and no function has been
entered since. -/
theorem isDirectlyInClass_eq (passed : Tree.Passes (route source) above) :
    isDirectlyInClass above =
      ((scopeAt source above).owner.isSome && !(scopeAt source above).inFunction) := by
  rw [isSome_owner_scopeAt passed]
  induction above with
  | nil => rfl
  | cons tree rest hypothesis =>
    have outer := hypothesis (List.forall_mem_cons.1 passed).2
    have apart : isFunction tree = true → isClass tree = false := by
      simp only [isFunction, isClass, decide_eq_true_eq, decide_eq_false_iff_not]
      intro function
      simp [function]
    cases type : isClass tree <;> cases function : isFunction tree <;>
      simp_all [isDirectlyInClass, innermostDefinition?, innermostClass?, scopeAt,
        isDirectlyInFunction]

/-- Whether a target is an attribute of `self` in a function that a class is around. -/
def isOwnAttribute (source : Source) (above : List Tree) (target : Tree) : Bool :=
  target.rule = "attribute" && source.fieldText? "object" target.children = some "self" &&
    isDirectlyInFunction above && (innermostClass? above).isSome

/-- What an assignment inside these nodes makes of a target, as kinds with names. A plain name is a
field directly in a class and a variable elsewhere, and an own attribute is a field. -/
def targetEntries (source : Source) (above : List Tree) (target : Tree) : List (Kind × String) :=
  if target.rule = "identifier" then
    [(if isDirectlyInClass above then .field else .binding, source.textOf target)]
  else if isOwnAttribute source above target then
    (source.fieldText? "attribute" target.children).toList.map (Kind.field, ·)
  else []

mutual

/-- Behind a star all targets are starred. -/
theorem starred_of_mem_targets (tree : Tree) :
    ∀ target ∈ targets true tree, target.starred = true := by
  match tree with
  | .node mark children =>
    unfold targets
    split
    · exact starred_of_mem_targetsAmong children
    · split
      · exact starred_of_mem_targetsAmong children
      · simp

/-- The same of several trees. -/
theorem starred_of_mem_targetsAmong (trees : List Tree) :
    ∀ target ∈ targetsAmong true trees, target.starred = true := by
  match trees with
  | [] => simp [targetsAmong]
  | tree :: rest =>
    unfold targetsAmong
    split
    · exact List.forall_mem_append.2
        ⟨starred_of_mem_targets tree, starred_of_mem_targetsAmong rest⟩
    · exact starred_of_mem_targetsAmong rest

end

/-- What some targets come to, those behind stars left out. -/
def plainEntries (source : Source) (above : List Tree) (among : List Target) :
    List (Kind × String) :=
  (among.filter fun target => !target.starred).flatMap fun target =>
    targetEntries source above target.tree

/-- The symbols of a target that is neither a list nor starred are the entries that it has inside
these nodes. -/
theorem map_targetSymbols_single {context : Context}
    (passed : Tree.Passes (route context.source) above) (assignment : Mark) {mark : Mark}
    (single : isTargetList mark.rule = false) (children : List Tree) :
    (targetSymbols context (scopeAt context.source above) assignment (.node mark children)).map
        (fun symbol => (symbol.kind, symbol.name)) =
      targetEntries context.source above (.node mark children) := by
  have directly := isDirectlyInClass_eq passed
  have owned := isSome_owner_scopeAt passed
  unfold targetSymbols targetEntries
  by_cases name : mark.rule = "identifier"
  · have form : Form.ofRule mark.rule = .identifier := by rw [name]; decide
    rw [Tree.rule_node, if_pos name]
    simp only [form, ← directly]
    rfl
  by_cases dotted : mark.rule = "attribute"
  · have form : Form.ofRule mark.rule = .attribute := by rw [dotted]; decide
    have own : isOwnAttribute context.source above (.node mark children) =
        ((scopeAt context.source above).inFunction && (scopeAt context.source above).owner.isSome &&
          decide (context.source.fieldText? "object" children = some "self")) := by
      rw [owned, Bool.and_comm, ← Bool.and_assoc, isOwnAttribute, Tree.rule_node,
        decide_eq_true dotted, Bool.true_and]
      rfl
    simp only [form, own, Tree.rule_node, if_neg name, Tree.children_node]
    split
    · cases context.source.fieldText? "attribute" children <;> rfl
    · rfl
  · have foreign : isOwnAttribute context.source above (.node mark children) = false := by
      simp [isOwnAttribute, dotted]
    rw [foreign, Tree.rule_node, if_neg name]
    cases form : Form.ofRule mark.rule with
    | identifier => exact absurd form (by grind [Form.ofRule])
    | «attribute» => exact absurd form (by grind [Form.ofRule])
    | targetList => exact absurd form (by grind [Form.ofRule, isTargetList])
    | _ => rfl

mutual

/-- The symbols of a left side are the entries of the targets in it, those behind stars left out. -/
theorem map_targetSymbols {context : Context} (passed : Tree.Passes (route context.source) above)
    (assignment : Mark) (tree : Tree) :
    (targetSymbols context (scopeAt context.source above) assignment tree).map
        (fun symbol => (symbol.kind, symbol.name)) =
      plainEntries context.source above (targets false tree) := by
  match tree with
  | .node mark children =>
    cases list : isTargetList mark.rule with
    | true =>
      have form : Form.ofRule mark.rule = .targetList := by grind [Form.ofRule, isTargetList]
      rw [targetSymbols, targets, form, if_pos list]
      exact map_targetSymbolsAmong passed assignment children
    | false =>
      rw [targets, list, if_neg Bool.false_ne_true]
      split
      · rename_i starred
        -- The visit stops at a star, and all targets behind it are starred.
        have form : Form.ofRule mark.rule = .other := by rw [starred]; decide
        have none : (targetsAmong true children).filter (fun target => !target.starred) = [] := by
          simpa using starred_of_mem_targetsAmong children
        rw [targetSymbols, form, plainEntries, none]
        rfl
      · rw [map_targetSymbols_single passed assignment list children]
        simp [plainEntries]

/-- The same of the named trees among several. -/
theorem map_targetSymbolsAmong {context : Context}
    (passed : Tree.Passes (route context.source) above) (assignment : Mark) (trees : List Tree) :
    (targetSymbolsAmong context (scopeAt context.source above) assignment trees).map
        (fun symbol => (symbol.kind, symbol.name)) =
      plainEntries context.source above (targetsAmong false trees) := by
  match trees with
  | [] => rfl
  | tree :: rest =>
    unfold targetSymbolsAmong targetsAmong
    have later := map_targetSymbolsAmong passed assignment rest
    split
    · rw [List.map_append, map_targetSymbols passed assignment tree, later]
      simp [plainEntries]
    · exact later

end

end Targets

/-- A symbol stands where a site is in a file: in the innermost class around, if any, in the
package, and on the line of the node. -/
structure StandsAt (source : Source) (package : Option String) (site : Site) (symbol : Symbol) :
    Prop where
  className : symbol.className = classAround? source site.above
  packageName : symbol.packageName = package
  filePath : symbol.filePath = source.relative
  line : symbol.line = site.node.lineNumber

/-- A symbol made for a node in the scope of what is around it stands there. -/
theorem standsAt_symbol (context : Context) (site : Site) (kind : Kind) (name : String)
    (target : Option String) :
    StandsAt context.source context.package site
      { context.symbol (scopeAt context.source site.above) site.node.mark kind name with
        referenceTo := target } :=
  ⟨rfl, rfl, rfl, rfl⟩

mutual

/-- The symbols of a target stand where the assignment is. -/
theorem standsAt_of_mem_targetSymbols {context : Context} {site : Site} (tree : Tree) :
    ∀ symbol ∈ targetSymbols context (scopeAt context.source site.above) site.node.mark tree,
      StandsAt context.source context.package site symbol := by
  match tree with
  | .node mark children =>
    unfold targetSymbols
    split
    · exact List.forall_mem_singleton.2 (standsAt_symbol context site _ _ none)
    · split
      · cases context.source.fieldText? "attribute" children with
        | none => exact List.forall_mem_nil _
        | some name => exact List.forall_mem_singleton.2 (standsAt_symbol context site _ name none)
      · exact List.forall_mem_nil _
    · exact standsAt_of_mem_targetSymbolsAmong children
    · exact List.forall_mem_nil _

/-- The same of the named targets among several trees. -/
theorem standsAt_of_mem_targetSymbolsAmong {context : Context} {site : Site} (trees : List Tree) :
    ∀ symbol ∈ targetSymbolsAmong context (scopeAt context.source site.above) site.node.mark trees,
      StandsAt context.source context.package site symbol := by
  match trees with
  | [] => exact List.forall_mem_nil _
  | tree :: rest =>
    unfold targetSymbolsAmong
    split
    · exact List.forall_mem_append.2
        ⟨standsAt_of_mem_targetSymbols tree, standsAt_of_mem_targetSymbolsAmong rest⟩
    · exact standsAt_of_mem_targetSymbolsAmong rest

end

/-- The symbols of a node stand there. -/
theorem standsAt_of_mem_symbolsAt {context : Context} {site : Site} {symbol : Symbol}
    (found : symbol ∈ symbolsAt context site) :
    StandsAt context.source context.package site symbol := by
  unfold symbolsAt at found
  split at found
  · obtain ⟨name, -, rfl⟩ := List.mem_map.1 found
    exact standsAt_symbol context site _ name none
  · obtain ⟨name, -, rfl⟩ := List.mem_map.1 found
    exact standsAt_symbol context site _ name none
  · obtain ⟨left, -, inLeft⟩ := List.mem_flatMap.1 found
    exact standsAt_of_mem_targetSymbols left symbol inLeft
  · dsimp only [Context.callSymbols] at found
    split at found
    · obtain rfl := List.mem_singleton.1 found
      exact standsAt_symbol context site _ _ _
    · cases found
  · cases found

/-- The kinds and names of the symbols of an assignment are the entries of its targets, those behind
stars left out. -/
theorem map_symbolsAt {context : Context} {site : Site}
    (passed : Tree.Passes (route context.source) site.above)
    (assigns : isAssignment site.node = true) :
    (symbolsAt context site).map (fun symbol => (symbol.kind, symbol.name)) =
      plainEntries context.source site.above (assignedTo site.node) := by
  have form : Form.ofRule site.node.rule = .assignment :=
    Form.ofRule_eq_assignment.2 (of_decide_eq_true assigns)
  rw [symbolsAt, assignedTo]
  simp only [form]
  cases fieldChild? "left" site.node.children with
  | none => rfl
  | some left =>
    simp only [Option.toList_some, List.flatMap_singleton]
    exact map_targetSymbols passed site.node.mark left

/-- Leaving out some elements changes nothing just when nothing is made of any of them. -/
theorem flatMap_filter_eq_iff {α β : Type} (kept : α → Bool) (made : α → List β) (items : List α) :
    (items.filter kept).flatMap made = items.flatMap made ↔
      ∀ item ∈ items, kept item = false → made item = [] := by
  induction items with
  | nil => simp
  | cons first rest hypothesis =>
    cases keep : kept first with
    | true => simp [keep, hypothesis]
    | false =>
      have fewer : ((rest.filter kept).flatMap made).length ≤ (rest.flatMap made).length :=
        (List.filter_sublist.flatMap made).length_le
      rw [List.filter_cons_of_neg (by simp [keep]), List.flatMap_cons, List.forall_mem_cons,
        ← hypothesis]
      constructor
      · intro same
        have nothing : made first = [] := by
          rw [← List.length_eq_zero_iff]
          have lengths := congrArg List.length same
          rw [List.length_append] at lengths
          omega
        exact ⟨fun _ => nothing, by simpa [nothing] using same⟩
      · rintro ⟨nothing, same⟩
        rw [nothing keep, same, List.nil_append]

/-- What stays the same during the extraction from this file. -/
def Context.ofSource (source : Source) : Context where
  source := source
  package := moduleName? source.relative
  definitions := Python.definitions source none false source.tree

/-- The symbols of a Python file belong to the sites of its tree, each in the place of its site.
Those of an assignment are the entries of its targets, but for the starred ones. So nothing of it is
missing just when no starred target has an entry. -/
structure ListsBySite (source : Source) (sites : List Site) (listed : Site → List Symbol) :
    Prop where
  isIn : ∀ site ∈ sites, site.IsIn source.tree
  symbols_eq : symbols source = sites.flatMap listed
  standing : ∀ site ∈ sites, ∀ symbol ∈ listed site,
    StandsAt source (moduleName? source.relative) site symbol
  targets : ∀ site ∈ sites, isAssignment site.node = true →
    (listed site).map (fun symbol => (symbol.kind, symbol.name)) =
      plainEntries source site.above (assignedTo site.node)
  whole : ∀ site ∈ sites, isAssignment site.node = true →
    ((listed site).map (fun symbol => (symbol.kind, symbol.name)) =
        (assignedTo site.node).flatMap (fun target => targetEntries source site.above target.tree) ↔
      ∀ target ∈ assignedTo site.node, target.starred = true →
        targetEntries source site.above target.tree = [])
  complete : (sites.map Site.node).filter isAssignment = source.tree.subtrees.filter isAssignment ↔
    ∀ part ∈ source.tree.skipped (route source), ∀ node ∈ part.subtrees, isAssignment node = false

/-- Every symbol of a Python file has the name of the innermost class around its node and the module
of the file. A plain name that is assigned to is a field directly in a class and a variable
elsewhere, and an attribute is listed, as a field, just when it is one of `self` in a function that
a class is around. Targets behind stars are not listed. Assignments are missing just when one stands
in a part that the route leaves out, such as a default value or a base class, where the grammar has
expressions and no statements. -/
theorem symbols_by_enclosing_definitions (source : Source) :
    ListsBySite source (source.tree.sites (route source) [])
      (symbolsAt (Context.ofSource source)) := by
  have listed : ∀ site ∈ source.tree.sites (route source) [], isAssignment site.node = true →
      (symbolsAt (Context.ofSource source) site).map (fun symbol => (symbol.kind, symbol.name)) =
        plainEntries source site.above (assignedTo site.node) :=
    fun _ found => map_symbolsAt (Tree.passes_of_mem_sites (by simp [Tree.Passes]) found)
  refine
    { isIn := fun _ found => Tree.isIn_of_mem_sites .root found
      symbols_eq := visit_eq_flatMap (Context.ofSource source) [] source.tree
      standing := fun _ _ _ found => standsAt_of_mem_symbolsAt found
      targets := listed
      whole := fun site found assigns => ?_
      complete := ?_ }
  · rw [listed site found assigns]
    refine (flatMap_filter_eq_iff _ _ _).trans ?_
    simp only [Bool.not_eq_eq_eq_not, Bool.not_false]
  · rw [Tree.map_node_sites, Tree.filter_reached_eq_iff]

/-- A class with a list of targets, a method that assigns to an attribute and holds a class, and a
function and an assignment outside of it. -/
theorem symbols_by_enclosing_definitions_nested :
    let node := fun (rule field : String) (row start stop : Nat) children =>
      Tree.node { rule, fields := [field], row, start, stop } children
    let statement := fun (row start stop : Nat) left right =>
      node "expression_statement" "" row start stop [node "assignment" "" row start stop [left, right]]
    let list := node "pattern_list" "left" 1 10 21
      [ node "identifier" "" 1 10 11 []
      , node "tuple_pattern" "" 1 13 21
          [ node "identifier" "" 1 14 15 []
          , node "list_pattern" "" 1 17 20 [node "identifier" "" 1 18 19 []] ] ]
    let call := node "call" "right" 1 24 27
      [node "identifier" "function" 1 24 25 [], node "argument_list" "arguments" 1 25 27 []]
    let own := node "attribute" "left" 3 44 50
      [node "identifier" "object" 3 44 48 [], node "identifier" "attribute" 3 49 50 []]
    let chained := node "assignment" "right" 3 53 58
      [node "identifier" "left" 3 53 54 [], node "integer" "right" 3 57 58 []]
    let foreign := node "attribute" "left" 4 61 68
      [node "identifier" "object" 4 61 66 [], node "identifier" "attribute" 4 67 68 []]
    let inner := node "class_definition" "" 5 75 92
      [ node "identifier" "name" 5 81 82 []
      , node "block" "body" 6 87 92
          [ statement 6 87 92 (node "identifier" "left" 6 87 88 [])
              (node "integer" "right" 6 91 92 []) ] ]
    let method := node "function_definition" "" 2 29 92
      [ node "identifier" "name" 2 33 34 []
      , node "parameters" "parameters" 2 34 40 [node "identifier" "" 2 35 39 []]
      , node "block" "body" 3 44 92
          [ statement 3 44 58 own chained
          , statement 4 61 72 foreign (node "integer" "right" 4 71 72 []), inner ] ]
    let outer := node "class_definition" "" 0 0 92
      [ node "identifier" "name" 0 6 7 []
      , node "block" "body" 1 10 92 [statement 1 10 27 list call, method] ]
    let function := node "function_definition" "" 7 93 108
      [ node "identifier" "name" 7 97 98 []
      , node "parameters" "parameters" 7 98 100 []
      , node "block" "body" 8 103 108
          [ statement 8 103 108 (node "identifier" "left" 8 103 104 [])
              (node "integer" "right" 8 107 108 []) ] ]
    let source : Source :=
      { relative := "pkg/m.py"
        text := "class A:
 u, (v, [w]) = f()
 def g(self):
  self.x = y = 1
  other.z = 2
  class B:
   k = 3
def h():
 m = 4
n = 5
".toList
        tree := node "module" "" 0 0 115
          [ outer, function, statement 9 109 114 (node "identifier" "left" 9 109 110 [])
              (node "integer" "right" 9 113 114 []) ] }
    ListsBySite source (source.tree.sites (route source) []) (symbolsAt (Context.ofSource source)) ∧
      (∀ symbol ∈ symbols source, symbol.packageName = some "pkg.m") ∧
      (symbols source).map
          (fun symbol => (symbol.kind, symbol.name, symbol.className, symbol.line)) =
        [ (.classLike, "A", none, 1), (.field, "u", some "A", 2), (.field, "v", some "A", 2)
        , (.field, "w", some "A", 2), (.reference, "f", some "A", 2), (.method, "g", some "A", 3)
        , (.field, "x", some "A", 4), (.binding, "y", some "A", 4), (.classLike, "B", some "A", 6)
        , (.field, "k", some "B", 7), (.method, "h", none, 8), (.binding, "m", none, 9)
        , (.binding, "n", none, 10) ] := by
  intro node statement list call own chained foreign inner method outer function source
  exact ⟨symbols_by_enclosing_definitions source, by decide +kernel, by decide +kernel⟩

/-- The second name in `a, *b = f()` is a variable and is not listed. -/
theorem symbols_leave_out_starred :
    let node := fun (rule field : String) (start stop : Nat) children =>
      Tree.node { rule, fields := [field], start, stop } children
    let list := node "pattern_list" "left" 0 5
      [ node "identifier" "" 0 1 []
      , node "list_splat_pattern" "" 3 5 [node "identifier" "" 4 5 []] ]
    let call := node "call" "right" 8 11
      [node "identifier" "function" 8 9 [], node "argument_list" "arguments" 9 11 []]
    let assignment := node "assignment" "" 0 11 [list, call]
    let statement := node "expression_statement" "" 0 11 [assignment]
    let source : Source :=
      { relative := "a.py"
        text := "a, *b = f()\n".toList
        tree := node "module" "" 0 12 [statement] }
    ((assignedTo assignment).flatMap fun target =>
        targetEntries source [statement, source.tree] target.tree) =
        [(.binding, "a"), (.binding, "b")] ∧
      (symbols source).map (fun symbol => (symbol.kind, symbol.name)) =
        [(.binding, "a"), (.reference, "f")] := by
  decide +kernel

end SymbolAtlas.Python
