import SymbolAtlas.Proofs.Extract.JavaLocals

/-!
# Names that are used in Java files

An identifier is recorded as a use when it names a variable that has been declared so far, or else a
field of the type around it. Whether it is a use at all is judged from the rule of its parent. Below
a lambda every identifier is taken for a parameter, and below a method reference for the name of the
method. So a lambda whose body is a plain name, and a plain name in front of a method reference, are
not recorded, although both are expressions.

What is known at a place is computed from the way to it alone: which types and bodies it has gone
into, and what the nodes in front of it have declared. Over all places of a file the main result
says which have a reference: each place of a used name has one, in the order of the places, unless
it stands directly below a lambda or method reference.
-/

namespace SymbolAtlas.Java

namespace Step

/-- Whether a step leads to the child in a field. -/
def isFirstIn (field : String) (step : Step) (child : Tree) : Bool :=
  child.fills field && step.before.all fun tree => !tree.fills field

/-- Whether a step leads to a part in which names are used: the body of a type, method or
constructor, the initial value of a variable, and any named part of another node. What stands in
front of a body or value, and the whole parameter of a catch clause, has declared names, types and
annotations. -/
def enters (source : Source) (above : List Step) (step : Step) (child : Tree) : Bool :=
  if (kindAbove? above).isSome then step.isFirstIn "value" child
  else match Form.ofRule step.parent.rule with
    | .preamble | .catchParameter | .identifier => false
    | .typeDeclaration | .callable =>
      (source.fieldText? "name" step.parent.children).isSome && step.isFirstIn "body" child
    | .fieldDeclaration | .localDeclaration =>
      child.mark.named && child.rule = "variable_declarator" &&
        (source.fieldText? "name" child.children).isSome
    | .loopOrResource | .enumConstant | .invocation | .other => child.mark.named

end Step

/-- Whether every step on the way to a node leads to a part in which names are used. -/
def isEntered (source : Source) : Tree → List Step → Bool
  | _, [] => true
  | tree, step :: above => isEntered source step.parent above && step.enters source above tree

namespace Bound

/-- What is known behind the named trees among several. -/
def afterAmong (source : Source) (bound : Bound) (trees : List Tree) : Bound :=
  (namedTrees trees).foldl (after source) bound

/-- What is known behind a name that is declared. -/
def declareIf (bound : Bound) (kind : Kind) (names : List String) : Bound :=
  if kind = .binding then bound.declare names else bound

/-- What is known behind a declarator, if a tree is one. -/
def afterDeclarator (source : Source) (kind : Kind) (bound : Bound) (tree : Tree) : Bound :=
  if tree.mark.named && tree.rule = "variable_declarator" then
    match source.fieldText? "name" tree.children with
    | none => bound
    | some name => (bound.declareIf kind [name]).afterValue source tree.children
  else bound

/-- What is known where a step leads, given the path to the node that it leaves and what is known at
the start of that node. -/
def behindStep (context : Context) (above : List Step) (bound : Bound) (step : Step) : Bound :=
  match kindAbove? above with
  | some kind =>
    bound.declareIf kind (context.source.fieldText? "name" step.parent.children).toList
  | none =>
    match Form.ofRule step.parent.rule with
    | .typeDeclaration =>
      bound.inside context ((context.source.fieldText? "name" step.parent.children).getD "")
    | .callable => bound.insideCallable context.source step.parent.children
    | .fieldDeclaration => step.before.foldl (afterDeclarator context.source .field) bound
    | .localDeclaration => step.before.foldl (afterDeclarator context.source .binding) bound
    | .loopOrResource =>
      (bound.declare (loopNames context.source step.parent.children)).afterAmong context.source
        step.before
    | .preamble | .catchParameter | .identifier | .enumConstant | .invocation | .other =>
      bound.afterAmong context.source step.before

/-- Where nothing is declared nothing is in scope. -/
theorem nil_within : ([] : List String) ⊆ [] :=
  List.Subset.refl _

/-- What is known outside of all types. -/
def outermost : Bound where
  within := nil_within

end Bound

/-- What is known where a path leads. -/
def boundAt (context : Context) : List Step → Bound
  | [] => .outermost
  | step :: above => (boundAt context above).behindStep context above step

namespace Place

/-- Whether an identifier is an expression. It is none as the name of a declaration or of a called
method, as a parameter of a lambda, as a label, as the method of a method reference, or as the
member that is selected from another expression. -/
def isExpression (place : Place) : Bool :=
  match place.path with
  | [] => false
  | step :: _ =>
    let parent := step.parent.rule
    if parent = "lambda_expression" then !place.node.fills "parameters"
    else if parent = "method_reference" then step.before.isEmpty
    else if ["inferred_parameters", "labeled_statement", "break_statement",
      "continue_statement"].contains parent then false
    else if parent = "field_access" then !place.node.fills "field"
    else !place.node.fills "name"

/-- Whether a place is directly below a lambda or a method reference. -/
def isHidden (place : Place) : Bool :=
  place.path.head?.any fun step =>
    ["lambda_expression", "method_reference"].contains step.parent.rule

/-- The name at a place as a use of what is known there. -/
def use (context : Context) (place : Place) : Use :=
  ⟨place.node.mark, boundAt context place.path⟩

/-- What the name at a place refers to: a variable that is declared, or else a field of the
innermost type or of its superclasses. -/
def target? (context : Context) (place : Place) : Option String :=
  (place.use context).target? context (boundAt context place.path).declared

/-- Whether a name is used at a place: an identifier that is an expression, in a part where names
are used, and that refers to something. -/
def isUsedName (context : Context) (place : Place) : Bool :=
  place.node.rule = "identifier" && isEntered context.source place.node place.path &&
    place.isExpression && (place.target? context).isSome

/-- The reference for the name at a place, on the line of the name. -/
def reference (context : Context) (place : Place) : Symbol :=
  let name := (place.use context).name context
  { context.symbol ((boundAt context place.path).enclosing.map Enclosing.simple) place.node.mark
      .reference name name with referenceTo := place.target? context }

/-- Whether the name at a place is taken for a use. -/
def isTaken (context : Context) (place : Place) : Bool :=
  place.node.rule = "identifier" && isEntered context.source place.node place.path &&
    (place.isExpression && !place.isHidden)

/-- The use that is recorded at a place, if there is one. -/
def use? (context : Context) (place : Place) : Option Use :=
  if place.isTaken context then some (place.use context) else none

end Place

mutual

/-- A way that is entered to the end is entered up to any node on it. -/
theorem isEntered_of_mem_places {source : Source} {path : List Step} {tree : Tree} {place : Place}
    (inside : place ∈ places path tree)
    (entered : isEntered source place.node place.path = true) :
    isEntered source tree path = true := by
  match tree with
  | .node mark children =>
    rcases List.mem_cons.1 inside with rfl | below
    · exact entered
    · obtain ⟨front, child, behind, -, reached⟩ := exists_child_of_mem_placesAmong below entered
      exact (Bool.and_eq_true_iff.1 reached).1
termination_by structural tree

/-- Among several children one is entered on the way to a place. -/
theorem exists_child_of_mem_placesAmong {source : Source} {path : List Step} {parent : Tree}
    {before trees : List Tree} {place : Place}
    (inside : place ∈ placesAmong path parent before trees)
    (entered : isEntered source place.node place.path = true) :
    ∃ front child behind, trees = front ++ child :: behind ∧
      isEntered source child (⟨parent, before ++ front⟩ :: path) = true := by
  match trees with
  | [] => cases inside
  | tree :: rest =>
    rcases List.mem_append.1 inside with here | later
    · refine ⟨[], tree, rest, rfl, ?_⟩
      rw [List.append_nil]
      exact isEntered_of_mem_places here entered
    · obtain ⟨front, child, behind, split, reached⟩ :=
        exists_child_of_mem_placesAmong later entered
      refine ⟨tree :: front, child, behind, by rw [split]; rfl, ?_⟩
      simpa using reached
termination_by structural trees

end

section Nothing

variable {context : Context} {path : List Step} {parent tree : Tree} {before trees : List Tree}

/-- Where no name is looked for, none is recorded. -/
theorem use?_eq_none {place : Place}
    (outside : isEntered context.source place.node place.path = false) :
    place.use? context = none := by
  rw [Place.use?, Place.isTaken, outside, Bool.and_false, Bool.false_and,
    if_neg Bool.false_ne_true]

/-- In a tree that is not entered no name is recorded. -/
theorem filterMap_places_eq_nil (outside : isEntered context.source tree path = false) :
    (places path tree).filterMap (Place.use? context) = [] := by
  rw [List.filterMap_eq_nil_iff]
  intro place inside
  apply use?_eq_none
  rw [← Bool.not_eq_true]
  intro entered
  rw [isEntered_of_mem_places inside entered] at outside
  cases outside

/-- In children none of which is entered no name is recorded. -/
theorem filterMap_placesAmong_eq_nil
    (outside : ∀ front child behind, trees = front ++ child :: behind →
      Step.enters context.source path ⟨parent, before ++ front⟩ child = false) :
    (placesAmong path parent before trees).filterMap (Place.use? context) = [] := by
  rw [List.filterMap_eq_nil_iff]
  intro place inside
  apply use?_eq_none
  rw [← Bool.not_eq_true]
  intro entered
  obtain ⟨front, child, behind, split, reached⟩ := exists_child_of_mem_placesAmong inside entered
  rw [isEntered, outside front child behind split, Bool.and_false] at reached
  cases reached

/-- No name is recorded at a node that is no identifier. -/
theorem use?_of_other {place : Place} (other : place.node.rule ≠ "identifier") :
    place.use? context = none := by
  rw [Place.use?, Place.isTaken, decide_eq_false other, Bool.false_and, Bool.false_and,
    if_neg Bool.false_ne_true]

end Nothing

/-- Identifiers are of their own rule. -/
theorem rule_of_identifier {rule : String} (form : Form.ofRule rule = .identifier) :
    rule = "identifier" := by
  rw [Form.ofRule] at form
  repeat' split at form
  all_goals first
    | assumption
    | cases form

/-- The parents of which every identifier counts as declared are lambdas, method references, and
those of parameters and labels. -/
theorem contains_declaring (rule : String) :
    ["lambda_expression", "inferred_parameters", "labeled_statement", "break_statement",
        "continue_statement", "method_reference"].contains rule =
      (decide (rule = "lambda_expression") || decide (rule = "method_reference") ||
        ["inferred_parameters", "labeled_statement", "break_statement",
          "continue_statement"].contains rule) := by
  rw [Bool.eq_iff_iff]
  simp only [List.contains_iff_mem, List.mem_cons, List.not_mem_nil, or_false, Bool.or_eq_true,
    decide_eq_true_eq]
  tauto

/-- An identifier is taken for a use just when it is an expression that is not directly below a
lambda or method reference. -/
theorem isDeclaredName_eq (step : Step) (path : List Step) (tree : Tree) :
    (!isDeclaredName step.parent.rule tree.mark) =
      (Place.isExpression ⟨tree, step :: path⟩ && !Place.isHidden ⟨tree, step :: path⟩) := by
  rw [Place.isExpression, Place.isHidden, isDeclaredName, contains_declaring, List.head?_cons,
    Option.any_some]
  dsimp only
  by_cases lambda : step.parent.rule = "lambda_expression"
  · simp [lambda]
  by_cases method : step.parent.rule = "method_reference"
  · simp [method]
  cases ["inferred_parameters", "labeled_statement", "break_statement",
    "continue_statement"].contains step.parent.rule with
  | true => simp [lambda, method]
  | false =>
    by_cases selected : step.parent.rule = "field_access" <;>
      simp [selected, lambda, method, Tree.fills]

/-- The use that is recorded of an identifier is the one at its place. -/
theorem usesOfIdentifier_eq (context : Context) (path : List Step) {tree : Tree}
    (entered : isEntered context.source tree path = true) (rule : tree.rule = "identifier") :
    usesOfIdentifier (path.head?.map fun step => step.parent.rule) (boundAt context path)
        tree.mark = (Place.use? context ⟨tree, path⟩).toList := by
  cases path with
  | nil => simp [usesOfIdentifier, Place.use?, Place.isTaken, Place.isExpression]
  | cons step path =>
    have taken := isDeclaredName_eq step path tree
    rw [Place.use?, Place.isTaken, ← taken, entered, decide_eq_true rule]
    cases declared : isDeclaredName step.parent.rule tree.mark <;>
      simp [usesOfIdentifier, declared, Place.use]

section Steps

variable {context : Context} {path : List Step} {parent tree : Tree} {before : List Tree}
  {kind : Kind}

/-- All named parts of a node of such a form are entered. -/
theorem enters_of_isOpen (plain : kindAbove? path = none)
    (opened : isOpen (Form.ofRule parent.rule) = true) :
    Step.enters context.source path ⟨parent, before⟩ tree = tree.mark.named := by
  rw [Step.enters, plain, if_neg (by simp)]
  dsimp only
  generalize Form.ofRule parent.rule = form at opened ⊢
  cases form with
  | loopOrResource | enumConstant | invocation | other => rfl
  | preamble | typeDeclaration | callable | fieldDeclaration | localDeclaration |
    catchParameter | identifier => cases opened

/-- Behind a part of such a node is known what its named parts have left. -/
theorem boundAt_of_isOpen (plain : kindAbove? path = none)
    (opened : isOpen (Form.ofRule parent.rule) = true) :
    boundAt context (⟨parent, before ++ [tree]⟩ :: path) =
      if tree.mark.named then
        (boundAt context (⟨parent, before⟩ :: path)).after context.source tree
      else boundAt context (⟨parent, before⟩ :: path) := by
  have behind (start : Bound) : start.afterAmong context.source (before ++ [tree]) =
      if tree.mark.named then (start.afterAmong context.source before).after context.source tree
      else start.afterAmong context.source before := by
    cases named : tree.mark.named <;> simp [Bound.afterAmong, namedTrees, named]
  rw [boundAt, boundAt, Bound.behindStep, Bound.behindStep, plain]
  dsimp only
  generalize Form.ofRule parent.rule = form at opened ⊢
  cases form with
  | loopOrResource | enumConstant | invocation | other => exact behind _
  | preamble | typeDeclaration | callable | fieldDeclaration | localDeclaration |
    catchParameter | identifier => cases opened

/-- Of a declaration of variables the declarators are entered. -/
theorem enters_of_variableKind? (plain : kindAbove? path = none)
    (declares : variableKind? parent.rule = some kind) :
    Step.enters context.source path ⟨parent, before⟩ tree =
      (tree.mark.named && tree.rule = "variable_declarator" &&
        (context.source.fieldText? "name" tree.children).isSome) := by
  rw [Step.enters, plain, if_neg (by simp)]
  rcases variableKind?_eq_some declares with ⟨form, -⟩ | ⟨form, -⟩ <;> simp only [form]

/-- Behind a declarator is known what it declares. -/
theorem boundAt_of_variableKind? (plain : kindAbove? path = none)
    (declares : variableKind? parent.rule = some kind) :
    boundAt context (⟨parent, before ++ [tree]⟩ :: path) =
      (boundAt context (⟨parent, before⟩ :: path)).afterDeclarator context.source kind tree := by
  rw [boundAt, boundAt, Bound.behindStep, Bound.behindStep, plain]
  rcases variableKind?_eq_some declares with ⟨form, rfl⟩ | ⟨form, rfl⟩ <;>
    simp only [form, List.foldl_append, List.foldl_cons, List.foldl_nil]

/-- Of a type, method or constructor with a name the body is entered. -/
theorem enters_of_body (plain : kindAbove? path = none)
    (form : Form.ofRule parent.rule = .typeDeclaration ∨ Form.ofRule parent.rule = .callable) :
    Step.enters context.source path ⟨parent, before⟩ tree =
      ((context.source.fieldText? "name" parent.children).isSome &&
        Step.isFirstIn "body" ⟨parent, before⟩ tree) := by
  rw [Step.enters, plain, if_neg (by simp)]
  rcases form with form | form <;> simp only [form]

/-- Of a declarator the initial value is entered. -/
theorem enters_of_declarator (declarator : kindAbove? path = some kind) :
    Step.enters context.source path ⟨parent, before⟩ tree =
      Step.isFirstIn "value" ⟨parent, before⟩ tree := by
  rw [Step.enters, declarator, Option.isSome_some, if_pos rfl]

/-- Its initial value is behind its name. -/
theorem boundAt_of_declarator (declarator : kindAbove? path = some kind) :
    boundAt context (⟨parent, before⟩ :: path) =
      (boundAt context path).declareIf kind
        (context.source.fieldText? "name" parent.children).toList := by
  rw [boundAt, Bound.behindStep, declarator]

end Steps

mutual

/-- The used names of a tree are those at its places. -/
theorem uses_eq_filterMap (context : Context) (path : List Step) (tree : Tree)
    (entered : isEntered context.source tree path = true) (plain : kindAbove? path = none) :
    uses context (path.head?.map fun step => step.parent.rule) (boundAt context path) tree =
      (places path tree).filterMap (Place.use? context) := by
  match tree with
  | .node mark children =>
    have here (other : Form.ofRule mark.rule ≠ .identifier) :
        (places path (.node mark children)).filterMap (Place.use? context) =
          (placesAmong path (.node mark children) [] children).filterMap
            (Place.use? context) := by
      rw [places, List.filterMap_cons, use?_of_other]
      rintro same
      exact other (by rw [show mark.rule = "identifier" from same]; rfl)
    rw [uses]
    generalize form : Form.ofRule mark.rule = part at here
    have whole : Form.ofRule (Tree.node mark children).rule = part := form
    cases part with
    | preamble | catchParameter =>
      rw [here (by simp), filterMap_placesAmong_eq_nil]
      intro front child behind _
      rw [Step.enters, plain, if_neg (by simp)]
      simp only [whole]
    | typeDeclaration =>
      rw [here (by simp)]
      dsimp only
      cases named : context.source.fieldText? "name" children with
      | none =>
        rw [filterMap_placesAmong_eq_nil]
        intro front child behind _
        rw [enters_of_body plain (.inl whole), Tree.children_node, named]
        rfl
      | some simple =>
        apply usesIn_eq_filterMap context path (.node mark children) "body" _ [] children entered
        · intro before child
          rw [enters_of_body plain (.inl whole), Tree.children_node, named]
          rfl
        · intro before
          rw [boundAt, Bound.behindStep, plain]
          simp only [whole, Tree.children_node, named, Option.getD_some]
        · rw [variableKind?, whole]
        · rfl
    | callable =>
      rw [here (by simp)]
      dsimp only
      cases named : context.source.fieldText? "name" children with
      | none =>
        rw [filterMap_placesAmong_eq_nil]
        intro front child behind _
        rw [enters_of_body plain (.inr whole), Tree.children_node, named]
        rfl
      | some name =>
        apply usesIn_eq_filterMap context path (.node mark children) "body" _ [] children entered
        · intro before child
          rw [enters_of_body plain (.inr whole), Tree.children_node, named]
          rfl
        · intro before
          rw [boundAt, Bound.behindStep, plain]
          simp only [whole, Tree.children_node]
        · rw [variableKind?, whole]
        · rfl
    | fieldDeclaration =>
      have known : boundAt context (⟨.node mark children, []⟩ :: path) = boundAt context path := by
        rw [boundAt, Bound.behindStep, plain]
        simp only [whole, List.foldl_nil]
      rw [here (by simp), ← usesOfDeclarators_eq_filterMap context path (.node mark children)
        .field [] children entered plain (by rw [variableKind?, whole]), known]
    | localDeclaration =>
      have known : boundAt context (⟨.node mark children, []⟩ :: path) = boundAt context path := by
        rw [boundAt, Bound.behindStep, plain]
        simp only [whole, List.foldl_nil]
      rw [here (by simp), ← usesOfDeclarators_eq_filterMap context path (.node mark children)
        .binding [] children entered plain (by rw [variableKind?, whole]), known]
    | identifier =>
      have below : (placesAmong path (.node mark children) [] children).filterMap
          (Place.use? context) = [] := by
        apply filterMap_placesAmong_eq_nil
        intro front child behind _
        rw [Step.enters, plain, if_neg (by simp)]
        simp only [whole]
      have own := usesOfIdentifier_eq context path entered (rule_of_identifier whole)
      rw [places, List.filterMap_cons, below]
      refine own.trans ?_
      cases Place.use? context ⟨.node mark children, path⟩ <;> rfl
    | loopOrResource =>
      have known : boundAt context (⟨.node mark children, []⟩ :: path) =
          (boundAt context path).declare (loopNames context.source children) := by
        rw [boundAt, Bound.behindStep, plain]
        simp only [whole, Tree.children_node]
        rfl
      rw [here (by simp), ← usesAmong_eq_filterMap context path (.node mark children) [] children
        entered plain (by rw [whole]; rfl), known, Tree.rule_node]
    | enumConstant | invocation | other =>
      have known : boundAt context (⟨.node mark children, []⟩ :: path) = boundAt context path := by
        rw [boundAt, Bound.behindStep, plain]
        simp only [whole]
        rfl
      rw [here (by simp), ← usesAmong_eq_filterMap context path (.node mark children) [] children
        entered plain (by rw [whole]; rfl), known, Tree.rule_node]
termination_by structural tree

/-- The used names of several children are those at their places. -/
theorem usesAmong_eq_filterMap (context : Context) (path : List Step) (parent : Tree)
    (before trees : List Tree) (entered : isEntered context.source parent path = true)
    (plain : kindAbove? path = none) (opened : isOpen (Form.ofRule parent.rule) = true) :
    usesAmong context parent.rule (boundAt context (⟨parent, before⟩ :: path)) trees =
      (placesAmong path parent before trees).filterMap (Place.use? context) := by
  match trees with
  | [] => rfl
  | tree :: rest =>
    have later := usesAmong_eq_filterMap context path parent (before ++ [tree]) rest entered plain
      opened
    have enters : Step.enters context.source path ⟨parent, before⟩ tree = tree.mark.named :=
      enters_of_isOpen plain opened
    rw [boundAt_of_isOpen plain opened] at later
    rw [usesAmong, placesAmong, List.filterMap_append, ← later]
    split
    next named =>
      have here := uses_eq_filterMap context (⟨parent, before⟩ :: path) tree
        (by rw [isEntered, entered, enters, named]; rfl) (variableKind?_of_isOpen opened)
      rw [← here]
      rfl
    next unnamed =>
      rw [filterMap_places_eq_nil (by rw [isEntered, enters]; simp [unnamed]), List.nil_append]
termination_by structural trees

/-- The used names of the child in a field are those at its places. -/
theorem usesIn_eq_filterMap (context : Context) (path : List Step) (parent : Tree)
    (field : String) (bound : Bound) (before trees : List Tree)
    (entered : isEntered context.source parent path = true)
    (enters : ∀ before child, Step.enters context.source path ⟨parent, before⟩ child =
      Step.isFirstIn field ⟨parent, before⟩ child)
    (known : ∀ before, boundAt context (⟨parent, before⟩ :: path) = bound)
    (plain : variableKind? parent.rule = none)
    (unfilled : (before.all fun tree => !tree.fills field) = true) :
    usesIn context parent.rule field bound trees =
      (placesAmong path parent before trees).filterMap (Place.use? context) := by
  match trees with
  | [] => rfl
  | tree :: rest =>
    rw [usesIn, placesAmong, List.filterMap_append]
    split
    next fills =>
      have here := uses_eq_filterMap context (⟨parent, before⟩ :: path) tree
        (by rw [isEntered, entered, enters, Step.isFirstIn, fills, unfilled]; rfl) plain
      rw [known] at here
      -- behind the first child in the field no other is entered
      rw [← here, filterMap_placesAmong_eq_nil, List.append_nil]
      · rfl
      · intro front child behind _
        rw [enters, Step.isFirstIn]
        simp [fills]
    next other =>
      rw [filterMap_places_eq_nil (by rw [isEntered, enters, Step.isFirstIn]; simp [other]),
        List.nil_append]
      apply usesIn_eq_filterMap context path parent field bound (before ++ [tree]) rest entered
        enters known plain
      simp [unfilled, other]
termination_by structural trees

/-- The used names of declarators are those at their places. -/
theorem usesOfDeclarators_eq_filterMap (context : Context) (path : List Step) (parent : Tree)
    (kind : Kind) (before trees : List Tree)
    (entered : isEntered context.source parent path = true) (plain : kindAbove? path = none)
    (declares : variableKind? parent.rule = some kind) :
    usesOfDeclarators context kind (boundAt context (⟨parent, before⟩ :: path)) trees =
      (placesAmong path parent before trees).filterMap (Place.use? context) := by
  match trees with
  | [] => rfl
  | .node mark children :: rest =>
    have later := usesOfDeclarators_eq_filterMap context path parent kind
      (before ++ [.node mark children]) rest entered plain declares
    have enters : Step.enters context.source path ⟨parent, before⟩ (.node mark children) =
        (mark.named && mark.rule = "variable_declarator" &&
          (context.source.fieldText? "name" children).isSome) :=
      enters_of_variableKind? plain declares
    rw [boundAt_of_variableKind? plain declares, Bound.afterDeclarator] at later
    rw [usesOfDeclarators, placesAmong, List.filterMap_append, ← later]
    cases shape : mark.named && mark.rule = "variable_declarator" with
    | false =>
      rw [shape, Bool.false_and] at enters
      have other : ¬((Tree.node mark children).mark.named &&
          (Tree.node mark children).rule = "variable_declarator") = true :=
        Bool.eq_false_iff.1 shape
      rw [if_neg Bool.false_ne_true, if_neg other, filterMap_places_eq_nil, List.nil_append]
      rw [isEntered, enters, Bool.and_false]
    | true =>
      rw [shape, Bool.true_and] at enters
      have declarator : ((Tree.node mark children).mark.named &&
          (Tree.node mark children).rule = "variable_declarator") = true := shape
      rw [if_pos rfl, if_pos declarator]
      cases named : context.source.fieldText? "name" children with
      | none =>
        rw [filterMap_places_eq_nil (by rw [isEntered, enters, named]; simp), List.nil_append,
          Tree.children_node, named]
      | some name =>
        have rule : mark.rule = "variable_declarator" :=
          of_decide_eq_true (Bool.and_eq_true_iff.1 shape).2
        have own : kindAbove? (⟨parent, before⟩ :: path) = some kind := declares
        have inner : isEntered context.source (.node mark children) (⟨parent, before⟩ :: path) =
            true := by
          rw [isEntered, entered, enters, named]
          rfl
        have value := usesIn_eq_filterMap context (⟨parent, before⟩ :: path)
          (.node mark children) "value" _ [] children inner (fun _ _ => enters_of_declarator own)
          (fun _ => boundAt_of_declarator own) (by rw [Tree.rule_node, rule]; rfl) rfl
        rw [Tree.children_node, named] at value ⊢
        rw [places, List.filterMap_cons, use?_of_other (by simp [rule]), ← value]
        rfl
termination_by structural trees

end

/-- A used name that is not directly below a lambda or method reference is one that is taken for a
use and refers to something. -/
theorem isUsedName_and_not_isHidden (context : Context) (place : Place) :
    (place.isUsedName context && !place.isHidden) =
      (place.isTaken context && (place.target? context).isSome) := by
  rw [Place.isUsedName, Place.isTaken, Bool.and_right_comm, ← Bool.and_assoc]

/-- The symbols of a name are its reference, if it refers to something. -/
theorem symbols_use (context : Context) (place : Place) :
    (place.use context).symbols context (place.use context).bound.declared =
      if (place.target? context).isSome then [place.reference context] else [] := by
  rw [Use.symbols, show (place.use context).target? context (place.use context).bound.declared =
    place.target? context from rfl]
  cases target : place.target? context with
  | none => rfl
  | some name =>
    rw [Place.reference, target]
    rfl

/-- The symbols of the uses at places are the references for their names. -/
theorem madeOf_filterMap_use? (context : Context) (list : List Place) :
    madeOf context (list.filterMap (Place.use? context)) =
      (list.filter fun place => place.isUsedName context && !place.isHidden).map
        (Place.reference context) := by
  induction list with
  | nil => rfl
  | cons place rest hypothesis =>
    rw [List.filterMap_cons, List.filter_cons, isUsedName_and_not_isHidden, Place.use?]
    cases place.isTaken context with
    | false => exact hypothesis
    | true =>
      rw [if_pos rfl, Bool.true_and]
      dsimp only
      rw [madeOf, List.flatMap_cons, symbols_use, ← madeOf, hypothesis]
      split <;> rfl

/-- The symbols made where names are used in a file are, in the order of the file, one reference for
each place of a used name that is not directly below a lambda or method reference. So each used name
has its reference just when none of them is directly below a lambda or method reference. -/
theorem references_of_used_names (elsewhere : TypeIndex) (source : Source) :
    let context := Context.ofSource elsewhere source
    let recorded := ((made elsewhere source).filter fun entry => entry.1.isUse).map Prod.snd
    let found := (places [] source.tree).filter (Place.isUsedName context)
    (made elsewhere source).map Prod.snd = symbols elsewhere source ∧
      recorded = (found.filter fun place => !place.isHidden).map (Place.reference context) ∧
      (recorded = found.map (Place.reference context) ↔
        ∀ place ∈ found, place.isHidden = false) := by
  intro context recorded found
  have start : ({} : Bound).Agrees {} := ⟨rfl, by simp [Dict.has, Dict.get?]⟩
  have listed : recorded =
      (found.filter fun place => !place.isHidden).map (Place.reference context) := by
    calc recorded
        = madeOf context (uses context none {} source.tree) :=
          (madeAtUses_eq_map_filter context _).trans
            (madeAtUses_stops context [] start source.tree)
      _ = madeOf context ((places [] source.tree).filterMap (Place.use? context)) :=
          congrArg (madeOf context) (uses_eq_filterMap context [] source.tree rfl rfl)
      _ = (found.filter fun place => !place.isHidden).map (Place.reference context) := by
          rw [madeOf_filterMap_use?, List.filter_filter]
          simp only [Bool.and_comm]
  refine ⟨map_made elsewhere source, listed, ?_⟩
  rw [listed]
  constructor
  · intro same place inside
    have lengths := congrArg List.length same
    rw [List.length_map, List.length_map, List.length_filter_eq_length_iff] at lengths
    simpa using lengths place inside
  · intro plain
    rw [List.filter_eq_self.2 fun place inside => by simp [plain place inside]]

/-- A class with a field, and a method that passes on a lambda with the field as its body, a method
reference on the field, and the field itself. -/
def fieldPassedOn : Source :=
  let node := fun (rule field : String) (start stop : Nat) children =>
    Tree.node { rule := rule, fields := [field], start := start, stop := stop } children
  let name := fun (field : String) (start : Nat) => node "identifier" field start (start + 1) []
  let declaration := node "field_declaration" "" 8 14
    [ node "integral_type" "type" 8 11 []
    , node "variable_declarator" "" 12 13 [name "name" 12] ]
  let lambda := node "lambda_expression" "" 25 30
    [node "formal_parameters" "parameters" 25 27 [], name "body" 29]
  let reference := node "method_reference" "" 31 35 [name "" 31, name "" 34]
  let call := node "method_invocation" "" 23 38
    [name "name" 23, node "argument_list" "" 24 38 [lambda, reference, name "" 36]]
  let method := node "method_declaration" "" 14 40
    [ node "void_type" "type" 14 18 []
    , name "name" 19
    , node "formal_parameters" "parameters" 20 22 []
    , node "block" "body" 22 40 [node "expression_statement" "" 23 39 [call]] ]
  { relative := "A.java"
    text := "class A\x7bint p;void m()\x7bf(()->p,p::g,p);\x7d\x7d".toList
    tree := node "program" "" 0 41
      [ node "class_declaration" "" 0 41
          [name "name" 6, node "class_body" "body" 7 41 [declaration, method]] ] }

/-- The field is used three times, and only the last use is recorded: the body of the lambda and the
left side of the method reference are missing. -/
theorem lambda_body_and_method_reference_not_recorded :
    let context := Context.ofSource [] fieldPassedOn
    ((places [] fieldPassedOn.tree).filter (Place.isUsedName context)).map
        (fun place => (place.node.mark.start, place.target? context, place.isHidden)) =
      [(29, some "A.p", true), (31, some "A.p", true), (36, some "A.p", false)] ∧
      ((symbols [] fieldPassedOn).filter fun symbol => symbol.kind = .reference).map
        (fun symbol => (symbol.name, symbol.referenceTo)) = [("f", none), ("p", some "A.p")] := by
  decide +kernel

end SymbolAtlas.Java
