import SymbolAtlas.Proofs.Dict
import SymbolAtlas.Proofs.Extract.JavaPlaces

/-!
# Variables in Java files

The visit keeps one dictionary of variables for a whole body. Every declaration extends it and
nothing shrinks it. The language ends the scope of a variable with the block, loop or handler that
declares it.

`leftBy` gives the variables that a tree leaves declared for what follows it, when nodes of some
rules end those declared inside them. With no such rule it is what the visit keeps; with the rules
of `endsScope` it is what the language keeps. Both are followed along the way to a place by
`knownAt`, by the rules of the grammar: `declared` are the variables declared so far in the same
body, which are those of the visit, and `inScope` are those that a name at the place can stand for.

A name in scope may have no type that its declaration tells at the place. The parameters of a lambda
need none and `var` is none, a variable number of arguments is an array, a pattern binds its
variables only where it has matched, and what a class inside a body finds around it may be hidden by
members of the class.
-/

namespace SymbolAtlas.Java

/-- Whether the scope of the variables declared inside a node of a rule ends with the node. -/
def endsScope (rule : String) : Bool :=
  ["block", "constructor_body", "switch_block", "for_statement", "enhanced_for_statement",
    "try_statement", "try_with_resources_statement", "catch_clause"].contains rule

/-- The rules by which nothing ends. -/
def endsNothing (_ : String) : Bool :=
  false

/-- Whether a node of a rule is a method or constructor. -/
def isCallable (rule : String) : Bool :=
  rule = "method_declaration" || rule = "constructor_declaration"

/-- Whether a node of a rule declares no variables for what follows it, whatever it holds. -/
def isClosed (rule : String) : Bool :=
  declaresType rule || isCallable rule || rule = "package_declaration" ||
    rule = "import_declaration" || rule = "identifier"

/-- Whether a node of a rule declares fields. -/
def declaresFields (rule : String) : Bool :=
  rule = "field_declaration" || rule = "constant_declaration"

/-- Whether a node of a rule declares variables in declarators. -/
def declaresVariables (rule : String) : Bool :=
  rule = "local_variable_declaration" || declaresFields rule

/-- Whether a node of a rule declares one variable for its parts. -/
def declaresForParts (rule : String) : Bool :=
  rule = "enhanced_for_statement" || rule = "resource"

/-- The variable that a loop over a collection or a resource declares. -/
def loopVariables (source : Source) (children : List Tree) : Dict String :=
  match source.fieldText? "name" children, source.fieldText? "type" children with
  | some name, some written => [(name, written)]
  | _, _ => []

/-- The variable that the parameter of a catch clause declares. -/
def catchVariables (source : Source) (children : List Tree) : Dict String :=
  match source.fieldText? "name" children,
    (namedTrees children).find? fun child => child.rule = "catch_type" with
  | some name, some written => [(name, source.textOf written)]
  | _, _ => []

mutual

/-- The variables with their written types that a tree leaves declared for what follows it, where
nodes of some rules end those declared inside them. The last one comes first. -/
def leftBy (source : Source) (ends : String → Bool) : Tree → Dict String
  | .node mark children =>
    if ends mark.rule || isClosed mark.rule then []
    else if mark.rule = "local_variable_declaration" then
      leftByDeclarators source ends (some ((source.fieldText? "type" children).getD "")) children
    else if declaresFields mark.rule then leftByDeclarators source ends none children
    else if declaresForParts mark.rule then
      leftByAmong source ends children ++ loopVariables source children
    else if mark.rule = "catch_formal_parameter" then catchVariables source children
    else leftByAmong source ends children
termination_by structural tree => tree

/-- The variables that the named trees among several leave declared. -/
def leftByAmong (source : Source) (ends : String → Bool) : List Tree → Dict String
  | [] => []
  | tree :: rest =>
    if tree.mark.named then leftByAmong source ends rest ++ leftBy source ends tree
    else leftByAmong source ends rest
termination_by structural trees => trees

/-- The variables that the tree in a field leaves declared. -/
def leftByIn (source : Source) (ends : String → Bool) (field : String) :
    List Tree → Dict String
  | [] => []
  | tree :: rest =>
    if tree.fills field then leftBy source ends tree else leftByIn source ends field rest
termination_by structural trees => trees

/-- The variables that the declarators among several trees leave declared: their own, if they are
local variables of a written type, and those left by their initial values. -/
def leftByDeclarators (source : Source) (ends : String → Bool) (written? : Option String) :
    List Tree → Dict String
  | [] => []
  | .node mark children :: rest =>
    if mark.named && mark.rule = "variable_declarator" then
      match source.fieldText? "name" children with
      | none => leftByDeclarators source ends written? rest
      | some name =>
        leftByDeclarators source ends written? rest ++
          (leftByIn source ends "value" children ++ (written?.map (name, ·)).toList)
    else leftByDeclarators source ends written? rest
termination_by structural trees => trees

end

section Forms

variable {rule : String}

/-- Methods and constructors are nodes of two rules. -/
theorem ofRule_eq_callable_iff : Form.ofRule rule = .callable ↔ isCallable rule = true := by
  grind [Form.ofRule, declaresType, isCallable]

/-- Types are declared by nodes of five rules. -/
theorem ofRule_eq_typeDeclaration_iff :
    Form.ofRule rule = .typeDeclaration ↔ declaresType rule = true :=
  ⟨declaresType_of_ofRule, ofRule_of_declaresType⟩

/-- Closed nodes are those that the visit leaves as it came, or does not enter. -/
theorem isClosed_iff : isClosed rule = true ↔
    Form.ofRule rule = .preamble ∨ Form.ofRule rule = .typeDeclaration ∨
      Form.ofRule rule = .callable ∨ Form.ofRule rule = .identifier := by
  constructor
  · intro closed
    simp only [isClosed, Bool.or_eq_true, decide_eq_true_eq] at closed
    rcases closed with (((type | callable) | rule) | rule) | rule
    · exact .inr (.inl (ofRule_of_declaresType type))
    · exact .inr (.inr (.inl (ofRule_eq_callable_iff.2 callable)))
    all_goals
      rw [rule]
      decide
  · rintro (form | form | form | form) <;> grind [isClosed, isCallable, Form.ofRule]

/-- Local variables are declared by nodes of one rule. -/
theorem ofRule_eq_localDeclaration_iff :
    Form.ofRule rule = .localDeclaration ↔ rule = "local_variable_declaration" := by
  grind [Form.ofRule, declaresType]

/-- Fields are declared by nodes of two rules. -/
theorem ofRule_eq_fieldDeclaration_iff :
    Form.ofRule rule = .fieldDeclaration ↔ declaresFields rule = true := by
  grind [Form.ofRule, declaresType, declaresFields]

/-- Variables for their parts are declared by nodes of two rules. -/
theorem ofRule_eq_loopOrResource_iff :
    Form.ofRule rule = .loopOrResource ↔ declaresForParts rule = true := by
  grind [Form.ofRule, declaresType, declaresForParts]

/-- The parameters of catch clauses are nodes of one rule. -/
theorem ofRule_eq_catchParameter_iff :
    Form.ofRule rule = .catchParameter ↔ rule = "catch_formal_parameter" := by
  grind [Form.ofRule, declaresType]

end Forms

section Visit

variable (context : Context)

/-- The variable of a loop or resource counts in front of the others. -/
theorem get?_loopScope (scope : Scope) (children : List Tree) (name : String) :
    (context.loopScope scope children).locals.get? name =
      ((loopVariables context.source children).get? name).or (scope.locals.get? name) := by
  unfold Context.loopScope loopVariables
  cases context.source.fieldText? "name" children with
  | none => rfl
  | some own =>
    cases context.source.fieldText? "type" children with
    | none => rfl
    | some written => exact Dict.get?_put_eq_or ..

/-- The parameter of a catch clause counts in front of the others. -/
theorem get?_catchScope (scope : Scope) (children : List Tree) (name : String) :
    (context.catchScope scope children).locals.get? name =
      ((catchVariables context.source children).get? name).or (scope.locals.get? name) := by
  unfold Context.catchScope catchVariables
  cases context.source.fieldText? "name" children with
  | none => rfl
  | some own =>
    cases (namedTrees children).find? fun child => child.rule = "catch_type" with
    | none => rfl
    | some written => exact Dict.get?_put_eq_or ..

/-- The parameters of a method or constructor are all that is declared where it begins. -/
theorem get?_callableScope (scope : Scope) (children : List Tree) (name : String) :
    (context.callableScope scope children).locals.get? name =
      Dict.get? (parameters context.source children).reverse name := by
  have fold (list : List (String × String)) (start : Scope) :
      (list.foldl (fun scope parameter => scope.declare parameter.1 parameter.2) start).locals.get?
        name = (Dict.get? list.reverse name).or (start.locals.get? name) := by
    induction list generalizing start with
    | nil => rfl
    | cons first rest hypothesis =>
      rw [List.foldl_cons, hypothesis, List.reverse_cons, Dict.get?_append, Option.or_assoc]
      exact congrArg _ (Dict.get?_put_eq_or ..)
  exact (fold (parameters context.source children) { scope with locals := [] }).trans
    (Option.or_none)

/-- The variable of a declarator counts in front of the others, if it is a local one. -/
theorem get?_declareIf (scope : Scope) (kind : Kind) (own written name : String) :
    (scope.declareIf kind own written).locals.get? name =
      (Dict.get? (if kind = .binding then [(own, written)] else []) name).or
        (scope.locals.get? name) := by
  unfold Scope.declareIf
  split
  · exact Dict.get?_put_eq_or ..
  · rfl

mutual

/-- The visit of a tree puts the variables that the tree leaves declared in front of the others. -/
theorem get?_visit (parent : Option String) (scope : Scope) (tree : Tree) (name : String) :
    (visit context parent scope tree).1.locals.get? name =
      ((leftBy context.source endsNothing tree).get? name).or (scope.locals.get? name) := by
  match tree with
  | .node mark children =>
    unfold visit leftBy
    by_cases closed : isClosed mark.rule = true
    · rw [if_pos (by simp [closed])]
      rcases isClosed_iff.1 closed with form | form | form | form <;> rw [form]
      · rfl
      · cases context.source.fieldText? "name" children <;> rfl
      · cases context.source.fieldText? "name" children <;> rfl
      · rfl
    rw [if_neg (by simp [closed, endsNothing])]
    by_cases ofLocals : mark.rule = "local_variable_declaration"
    · rw [if_pos ofLocals, ofRule_eq_localDeclaration_iff.2 ofLocals]
      exact get?_visitDeclarators .binding _ scope children name
    rw [if_neg ofLocals]
    by_cases ofFields : declaresFields mark.rule = true
    · rw [if_pos ofFields, ofRule_eq_fieldDeclaration_iff.2 ofFields]
      exact get?_visitDeclarators .field _ scope children name
    rw [if_neg ofFields]
    by_cases forParts : declaresForParts mark.rule = true
    · rw [if_pos forParts, ofRule_eq_loopOrResource_iff.2 forParts]
      exact (get?_visitAmong mark.rule _ children name).trans
        (by rw [get?_loopScope, Dict.get?_append, Option.or_assoc])
    rw [if_neg forParts]
    by_cases caught : mark.rule = "catch_formal_parameter"
    · rw [if_pos caught, ofRule_eq_catchParameter_iff.2 caught]
      exact get?_catchScope context scope children name
    rw [if_neg caught]
    have others := get?_visitAmong mark.rule scope children name
    rw [isClosed_iff] at closed
    rw [← ofRule_eq_localDeclaration_iff] at ofLocals
    rw [← ofRule_eq_fieldDeclaration_iff] at ofFields
    rw [← ofRule_eq_loopOrResource_iff] at forParts
    rw [← ofRule_eq_catchParameter_iff] at caught
    cases form : Form.ofRule mark.rule with
    | enumConstant | invocation | other => exact others
    | preamble | typeDeclaration | callable | identifier => simp [form] at closed
    | fieldDeclaration => exact absurd form ofFields
    | localDeclaration => exact absurd form ofLocals
    | loopOrResource => exact absurd form forParts
    | catchParameter => exact absurd form caught

/-- The visit of several trees puts the variables that they leave declared in front. -/
theorem get?_visitAmong (parent : String) (scope : Scope) (trees : List Tree) (name : String) :
    (visitAmong context parent scope trees).1.locals.get? name =
      ((leftByAmong context.source endsNothing trees).get? name).or
        (scope.locals.get? name) := by
  match trees with
  | [] => rfl
  | tree :: rest =>
    unfold visitAmong leftByAmong
    split
    · rw [Dict.get?_append, Option.or_assoc, ← get?_visit (some parent) scope tree]
      exact get?_visitAmong parent _ rest name
    · exact get?_visitAmong parent scope rest name

/-- The visit of the tree in a field puts the variables that it leaves declared in front. -/
theorem get?_visitIn (parent field : String) (scope : Scope) (trees : List Tree) (name : String) :
    (visitIn context parent field scope trees).1.locals.get? name =
      ((leftByIn context.source endsNothing field trees).get? name).or
        (scope.locals.get? name) := by
  match trees with
  | [] => rfl
  | tree :: rest =>
    unfold visitIn leftByIn
    split
    · exact get?_visit (some parent) scope tree name
    · exact get?_visitIn parent field scope rest name

/-- The visit of declarators puts the local variables among them, and what their values leave, in
front. -/
theorem get?_visitDeclarators (kind : Kind) (written : String) (scope : Scope)
    (trees : List Tree) (name : String) :
    (visitDeclarators context kind written scope trees).1.locals.get? name =
      ((leftByDeclarators context.source endsNothing
        (if kind = .binding then some written else none) trees).get? name).or
          (scope.locals.get? name) := by
  match trees with
  | [] => rfl
  | .node mark children :: rest =>
    unfold visitDeclarators leftByDeclarators
    split
    · cases context.source.fieldText? "name" children with
      | none => exact get?_visitDeclarators kind written scope rest name
      | some own =>
        have value := get?_visitIn mark.rule "value" (scope.declareIf kind own written) children name
        refine (get?_visitDeclarators kind written _ rest name).trans ?_
        rw [Dict.get?_append, Dict.get?_append, Option.or_assoc, Option.or_assoc]
        refine congrArg _ (value.trans (congrArg _ ?_))
        rw [get?_declareIf]
        split <;> rfl
    · exact get?_visitDeclarators kind written scope rest name

end

end Visit

/-- Variables, each with its type, if the declaration tells one. The last one comes first. -/
abbrev Variables := Dict (Option String)

/-- Variables that have their written types. -/
def withTypes (bindings : Dict String) : Variables :=
  bindings.map fun (name, written) => (name, some written)

/-- Variables that have the types that are written, which `var` is not. -/
def withToldTypes (bindings : Dict String) : Variables :=
  bindings.map fun (name, written) => (name, if written = "var" then none else some written)

/-- The same variables without types. -/
def withoutTypes (bindings : Variables) : Variables :=
  bindings.map fun (name, _) => (name, none)

/-- The variables that parameters in a list declare. -/
def parameterVariables (source : Source) (list : Tree) : Variables :=
  (namedTrees list.children).reverse.flatMap fun parameter =>
    if parameter.rule = "identifier" then [(source.textOf parameter, none)]
    else if parameter.rule = "spread_parameter" then
      (declarators parameter.children).filterMap fun declarator =>
        (source.fieldText? "name" declarator.children).map (·, none)
    else withToldTypes (parameter? source parameter).toList

/-- The variables that the parameters of a method, a constructor or a lambda declare. A lambda may
have a single name in place of a list. -/
def bodyVariables (source : Source) (children : List Tree) : Variables :=
  (fieldChild? "parameters" children).toList.flatMap fun list =>
    if list.rule = "identifier" then [(source.textOf list, none)]
    else parameterVariables source list

/-- The names that a node binds as a pattern or as part of one. -/
def patternNames (source : Source) (node : Tree) : List String :=
  if node.rule = "instanceof_expression" then (source.fieldText? "name" node.children).toList
  else if node.rule = "type_pattern" || node.rule = "record_pattern_component" then
    (node.children.filter fun child => child.rule = "identifier").map source.textOf
  else []

/-- The variables that patterns anywhere in a member of a type bind. -/
def patternVariables (source : Source) (member : Tree) : Variables :=
  (places [] member).flatMap fun place => (patternNames source place.node).map (·, none)

/-- Whether the children of a node of a rule are members of a type. -/
def holdsMembers (rule : String) : Bool :=
  ["class_body", "interface_body", "annotation_type_body", "enum_body",
    "enum_body_declarations"].contains rule

/-- The variable that a declarator of a local declaration declares. -/
def declaratorVariables (source : Source) (declaration declarator : Tree) : Dict String :=
  if declaration.rule = "local_variable_declaration" then
    ((source.fieldText? "name" declarator.children).map (·, writtenType source declaration)).toList
  else []

/-- The declaration that a node is a declarator of, given the way to it. -/
def declarationOf? (above : List Step) (node : Tree) : Option Tree :=
  if node.rule = "variable_declarator" then
    (above.head?.map Step.parent).filter fun declaration => declaresVariables declaration.rule
  else none

/-- What is known of variables at a place. -/
structure Known where
  /-- The variables declared so far in the same body. -/
  declared : Variables := []
  /-- The variables that a name can stand for. -/
  inScope : Variables := []
  deriving DecidableEq, Repr

namespace Known

/-- What is known behind something that leaves variables declared. -/
def behind (known : Known) (left : (String → Bool) → Dict String) : Known where
  declared := withTypes (left endsNothing) ++ known.declared
  inScope := withToldTypes (left endsScope) ++ known.inScope

/-- What is known behind variables that are declared. -/
def declare (known : Known) (bindings : Dict String) : Known :=
  known.behind fun _ => bindings

/-- What is known in a class inside a body: the variables around it can be hidden by members. -/
def captured (known : Known) : Variables :=
  withoutTypes known.inScope

/-- What is known at a part of a node, but for what the parts in front of it declare. -/
def atPart (source : Source) (known : Known) (tree part : Tree) : Known :=
  if declaresForParts tree.rule then known.declare (loopVariables source tree.children)
  else if tree.rule = "lambda_expression" then
    { known with inScope := bodyVariables source tree.children ++ known.inScope }
  else if holdsMembers tree.rule then
    { known with inScope := patternVariables source part ++ known.captured }
  else known

/-- Whether a part of a statement is outside the scope of the variables that the statement
declares: the collection that a loop runs over, and the handlers of a statement whose resources end
with its block. -/
def isOutside (statement part : Tree) : Bool :=
  statement.rule = "enhanced_for_statement" && !part.fills "body" ||
    statement.rule = "try_with_resources_statement" &&
      (part.rule = "catch_clause" || part.rule = "finally_clause")

/-- What is known where a step leads, given the way to the node that it leaves and what is known
there. -/
def below (source : Source) (above : List Step) (known : Known) (step : Step) (child : Tree) :
    Known :=
  let parent := step.parent
  if declaresType parent.rule then { inScope := known.captured }
  else if isCallable parent.rule then
    { declared := withTypes (parameters source parent.children).reverse
      inScope := bodyVariables source parent.children ++ known.captured }
  else if parent.rule = "local_variable_declaration" then
    known.behind fun ends =>
      leftByDeclarators source ends (some (writtenType source parent)) step.before
  else if declaresFields parent.rule then
    known.behind fun ends => leftByDeclarators source ends none step.before
  else match declarationOf? above parent with
    | some declaration => known.declare (declaratorVariables source declaration parent)
    | none =>
      let reached := (known.atPart source parent child).behind fun ends =>
        leftByAmong source ends step.before
      { reached with
        inScope := if isOutside parent child then known.inScope else reached.inScope }

end Known

/-- What is known of variables at a node, by the way to it. -/
def knownAt (source : Source) : Tree → List Step → Known
  | _, [] => {}
  | node, step :: above => (knownAt source step.parent above).below source above step node

/-- The declared variables are those of a scope. -/
def Known.Agrees (known : Known) (scope : Scope) : Prop :=
  ∀ name, known.declared.get? name = (scope.locals.get? name).map some

/-- A name among variables that have their types. -/
theorem get?_withTypes (bindings : Dict String) (name : String) :
    (withTypes bindings).get? name = (bindings.get? name).map some := by
  unfold withTypes Dict.get?
  induction bindings with
  | nil => rfl
  | cons first rest hypothesis =>
    rw [List.map_cons, List.lookup_cons, List.lookup_cons, hypothesis]
    split <;> rfl

namespace Known.Agrees

variable {source : Source} {known : Known} {scope later : Scope}

/-- Variables that are left on both sides keep the agreement. -/
theorem behind (agrees : known.Agrees scope) {left : (String → Bool) → Dict String}
    (left_eq : ∀ name, later.locals.get? name =
      ((left endsNothing).get? name).or (scope.locals.get? name)) :
    (known.behind left).Agrees later := by
  intro name
  rw [Known.behind, Dict.get?_append, get?_withTypes, agrees name, left_eq, Option.map_or]

end Known.Agrees

section Visit

variable {context : Context} {root : Tree} {path : List Step} {scope : Scope} {tree : Tree}

/-- Nodes all of whose parts are come to declare nothing themselves, unless it is a variable for
their parts. -/
theorem not_declares_of_isOpen {rule : String} (form : isOpen (Form.ofRule rule) = true) :
    declaresType rule = false ∧ isCallable rule = false ∧
      rule ≠ "local_variable_declaration" ∧ declaresFields rule = false := by
  rw [← Bool.not_eq_true, ← Bool.not_eq_true, ← Bool.not_eq_true,
    ← ofRule_eq_typeDeclaration_iff, ← ofRule_eq_callable_iff, ← ofRule_eq_fieldDeclaration_iff,
    Ne, ← ofRule_eq_localDeclaration_iff]
  refine ⟨?_, ?_, ?_, ?_⟩ <;>
    · intro same
      rw [same] at form
      cases form

/-- The variables in declarators are those of fields and of local variables. -/
theorem isSome_variableKind? (rule : String) :
    (variableKind? rule).isSome = declaresVariables rule := by
  rw [Bool.eq_iff_iff, declaresVariables, Bool.or_eq_true, decide_eq_true_iff,
    ← ofRule_eq_localDeclaration_iff, ← ofRule_eq_fieldDeclaration_iff]
  unfold variableKind?
  cases Form.ofRule rule <;> simp

/-- What is come to is no declarator of a declaration. -/
theorem ComesTo.declarationOf?_eq_none (come : ComesTo context root path scope tree) :
    declarationOf? path tree = none := by
  unfold declarationOf?
  split
  · rw [Option.filter_eq_none_iff]
    intro declaration around
    obtain ⟨step, first, rfl⟩ := Option.map_eq_some_iff.1 around
    have free := come.kindAbove?_eq_none
    rw [kindAbove?, first, Option.bind_some] at free
    rw [← isSome_variableKind?, free]
    simp
  · rfl

/-- What is declared at a part of a node is what was left in front of it. -/
theorem agrees_below_of_isOpen {known : Known} (agrees : known.Agrees scope) {parent child : Tree}
    (form : isOpen (Form.ofRule parent.rule) = true) (free : declarationOf? path parent = none)
    (before : List Tree) :
    (known.below context.source path ⟨parent, before⟩ child).Agrees
      (visitAmong context parent.rule (context.openScope scope parent) before).1 := by
  obtain ⟨noType, noCallable, noLocals, noFields⟩ := not_declares_of_isOpen form
  have start : (known.atPart context.source parent child).Agrees (context.openScope scope parent) := by
    unfold Known.atPart Context.openScope
    by_cases forParts : declaresForParts parent.rule = true
    · rw [if_pos forParts, if_pos (ofRule_eq_loopOrResource_iff.2 forParts)]
      exact agrees.behind (get?_loopScope context scope parent.children)
    · rw [if_neg forParts, if_neg (mt ofRule_eq_loopOrResource_iff.1 forParts)]
      split
      · exact agrees
      · split <;> exact agrees
  have reached : ((known.atPart context.source parent child).behind fun ends =>
      leftByAmong context.source ends before).Agrees
        (visitAmong context parent.rule (context.openScope scope parent) before).1 :=
    start.behind (get?_visitAmong context parent.rule _ before)
  unfold Known.below
  rw [if_neg (by simp [noType]), if_neg (by simp [noCallable]), if_neg noLocals,
    if_neg (by simp [noFields]), free]
  exact reached

/-- What is declared at a declarator of a declaration is what was left in front of it. -/
theorem agrees_below_of_declares {known : Known} (agrees : known.Agrees scope)
    {declaration declarator : Tree} {kind : Kind}
    (declares : variableKind? declaration.rule = some kind) (before : List Tree) :
    (known.below context.source path ⟨declaration, before⟩ declarator).Agrees
      (visitDeclarators context kind (writtenType context.source declaration) scope before).1 := by
  have left := get?_visitDeclarators context kind (writtenType context.source declaration) scope
    before
  have noType : declaresType declaration.rule = false := by
    rw [← Bool.not_eq_true, ← ofRule_eq_typeDeclaration_iff]
    rcases variableKind?_eq_some declares with ⟨form, -⟩ | ⟨form, -⟩ <;> simp [form]
  have noCallable : isCallable declaration.rule = false := by
    rw [← Bool.not_eq_true, ← ofRule_eq_callable_iff]
    rcases variableKind?_eq_some declares with ⟨form, -⟩ | ⟨form, -⟩ <;> simp [form]
  unfold Known.below
  rw [if_neg (by simp [noType]), if_neg (by simp [noCallable])]
  rcases variableKind?_eq_some declares with ⟨form, rfl⟩ | ⟨form, rfl⟩
  · have noLocals : declaration.rule ≠ "local_variable_declaration" := by
      rw [Ne, ← ofRule_eq_localDeclaration_iff, form]
      simp
    rw [if_neg noLocals, if_pos (ofRule_eq_fieldDeclaration_iff.1 form)]
    exact agrees.behind left
  · rw [if_pos (ofRule_eq_localDeclaration_iff.1 form)]
    exact agrees.behind left

/-- What is declared at the initial value of a variable is the variable and what was left in front
of its declarator. -/
theorem agrees_below_of_declarator {known : Known} (agrees : known.Agrees scope)
    {declaration declarator value : Tree} {ahead before : List Tree} {kind : Kind} {name : String}
    (declares : variableKind? declaration.rule = some kind)
    (rule : declarator.rule = "variable_declarator")
    (named : context.source.fieldText? "name" declarator.children = some name) :
    (known.below context.source (⟨declaration, ahead⟩ :: path) ⟨declarator, before⟩ value).Agrees
      (scope.declareIf kind name (writtenType context.source declaration)) := by
  have around : declarationOf? (⟨declaration, ahead⟩ :: path) declarator = some declaration := by
    rw [declarationOf?, if_pos rule]
    refine Option.filter_eq_some_iff.2 ⟨rfl, ?_⟩
    rw [← isSome_variableKind?, declares]
    rfl
  have own : declaratorVariables context.source declaration declarator =
      if kind = .binding then [(name, writtenType context.source declaration)] else [] := by
    unfold declaratorVariables
    rw [named]
    rcases variableKind?_eq_some declares with ⟨form, rfl⟩ | ⟨form, rfl⟩
    · rw [if_neg, if_neg (by simp)]
      rw [← ofRule_eq_localDeclaration_iff, form]
      simp
    · rw [if_pos (ofRule_eq_localDeclaration_iff.1 form), if_pos rfl]
      rfl
  unfold Known.below
  dsimp only
  rw [rule, if_neg (by decide), if_neg (by decide), if_neg (by decide), if_neg (by decide), around]
  dsimp only
  rw [own]
  exact agrees.behind (get?_declareIf scope kind name _)

/-- The variables of the visit are those declared so far in the same body. -/
theorem ComesTo.agrees (come : ComesTo context root path scope tree) :
    (knownAt context.source tree path).Agrees scope := by
  induction come with
  | root => exact fun _ => rfl
  | typeBody _ form =>
    rw [knownAt, Known.below, if_pos (ofRule_eq_typeDeclaration_iff.1 form)]
    exact fun _ => rfl
  | callableBody _ form =>
    rw [knownAt, Known.below, if_neg, if_pos (ofRule_eq_callable_iff.1 form)]
    · intro name
      rw [get?_callableScope]
      exact get?_withTypes _ name
    · rw [← ofRule_eq_typeDeclaration_iff, form]
      simp
  | part come form _ hypothesis =>
    exact agrees_below_of_isOpen hypothesis form come.declarationOf?_eq_none _
  | value _ declares _ rule named _ hypothesis =>
    exact agrees_below_of_declarator (agrees_below_of_declares hypothesis declares _) declares rule
      named

end Visit

end SymbolAtlas.Java
