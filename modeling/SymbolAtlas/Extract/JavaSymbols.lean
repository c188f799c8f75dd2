import SymbolAtlas.Extract.JavaResolver

/-!
# Symbols of Java files

Types, members, local variables, calls, and uses of variables and fields. The
package of every symbol is that of the file's package declaration.

The tree is visited in source order. Down the tree go the innermost enclosing
type and the rule of the parent node; along the visit goes the dictionary of
parameters and local variables, which starts empty in every type and afresh in
every method, and which every declaration of a variable extends for all that
follows in the same method.
-/

namespace SymbolAtlas.Java

/-- The part a node plays for the extraction. -/
inductive Form where
  /-- Package and import declarations, which hold no symbols. -/
  | preamble
  | typeDeclaration
  /-- A method or constructor. -/
  | callable
  | fieldDeclaration
  | enumConstant
  | localDeclaration
  /-- A loop over a collection or a resource, which declares one variable. -/
  | loopOrResource
  | catchParameter
  | invocation
  | identifier
  | other
  deriving DecidableEq, Repr

/-- The part that nodes of a grammar rule play. -/
def Form.ofRule (rule : String) : Form :=
  if rule = "package_declaration" || rule = "import_declaration" then .preamble
  else if declaresType rule then .typeDeclaration
  else if rule = "method_declaration" || rule = "constructor_declaration" then .callable
  else if rule = "field_declaration" || rule = "constant_declaration" then .fieldDeclaration
  else if rule = "enum_constant" then .enumConstant
  else if rule = "local_variable_declaration" then .localDeclaration
  else if rule = "enhanced_for_statement" || rule = "resource" then .loopOrResource
  else if rule = "catch_formal_parameter" then .catchParameter
  else if rule = "method_invocation" then .invocation
  else if rule = "identifier" then .identifier
  else .other

/-- The words of a text with single blanks between them, without the semicolons at
its end. -/
def collapsed (text : List Char) : String :=
  String.ofList (Text.trimEnd
    (Text.trimEndWhile (· = ';') (Text.joinWith [' '] (Text.words text))))

/-- Whether a rule is that of an annotation. -/
def annotates (rule : String) : Bool :=
  rule = "marker_annotation" || rule = "annotation"

/-- Where the header of a declaration starts: behind the annotations that come first
among its modifiers. -/
def headerStart (mark : Mark) (children : List Tree) : Nat :=
  match (namedTrees children).find? fun child => child.rule = "modifiers" with
  | none => mark.start
  | some modifiers =>
    match modifiers.children.find? fun child => !annotates child.rule with
    | some keyword => keyword.mark.start
    | none => modifiers.mark.stop

/-- Where the header of a declaration ends: before its body. -/
def headerStop (mark : Mark) (children : List Tree) : Nat :=
  match fieldChild? "body" children with
  | some body => body.mark.start
  | none => mark.stop

/-- The header of a declaration on one line. -/
def header (source : Source) (mark : Mark) (children : List Tree) : String :=
  collapsed (Text.slice (headerStart mark children) (headerStop mark children) source.text)

/-- Whether an identifier below a parent is no use of a variable: it names a
declaration or a label, or is selected from another expression. -/
def isDeclaredName (parent : String) (mark : Mark) : Bool :=
  if ["lambda_expression", "inferred_parameters", "labeled_statement", "break_statement",
      "continue_statement", "method_reference"].contains parent then true
  else if parent = "field_access" then mark.fields.contains "field"
  else mark.fields.contains "name"

/-- What stays the same during the extraction from one file. -/
structure Context where
  source : Source
  imports : Imports
  resolver : Resolver

/-- A type around a node. -/
structure Enclosing where
  simple : String
  qualified : String
  deriving DecidableEq, Repr

/-- Where in the file a node stands: the innermost type around it and the parameters
and local variables with their written types. -/
structure Scope where
  enclosing : Option Enclosing := none
  locals : Dict String := []
  deriving DecidableEq, Repr

namespace Scope

/-- The simple name of the innermost type. -/
def owner (scope : Scope) : Option String :=
  scope.enclosing.map Enclosing.simple

/-- The full name of the innermost type. -/
def qualified (scope : Scope) : Option String :=
  scope.enclosing.map Enclosing.qualified

/-- The scope with one more variable. -/
def declare (scope : Scope) (name written : String) : Scope :=
  { scope with locals := scope.locals.put name written }

end Scope

namespace Context

/-- A symbol for a node. -/
def symbol (context : Context) (owner : Option String) (mark : Mark) (kind : Kind)
    (name signature : String) : Symbol where
  name := name
  kind := kind
  className := owner
  packageName := context.imports.package
  filePath := context.source.relative
  line := mark.row + 1
  signature := some signature

/-- The scope inside a type. -/
def inside (context : Context) (scope : Scope) (simple : String) : Scope where
  enclosing := some
    ⟨simple, under (scope.qualified <|> context.imports.package) simple⟩

/-- The type that a name in an expression stands for: that of a variable, else that
of a field, else the type of that name. -/
def nameType? (context : Context) (scope : Scope) (name : String) : Option String :=
  match scope.locals.get? name with
  | some written => context.resolver.resolve? context.imports written
  | none =>
    match scope.qualified.bind fun owner => context.resolver.fieldType? owner name with
    | some found => some found
    | none => context.resolver.resolve? context.imports name

mutual

/-- The full name of the type of an expression, as far as declarations tell. -/
def typeOf? (context : Context) (scope : Scope) : Tree → Option String
  | .node mark children =>
    let whole := String.ofList (context.source.charsOf mark)
    if mark.rule = "this" then scope.qualified
    else if mark.rule = "super" then scope.qualified.bind context.resolver.superclass?
    else if mark.rule = "identifier" then context.nameType? scope whole
    else if mark.rule = "field_access" then
      match typeOfField? context scope "object" children,
        context.source.fieldText? "field" children with
      | some owner, some field => context.resolver.fieldType? owner field
      | _, _ => none
    else if mark.rule = "object_creation_expression" || mark.rule = "cast_expression" then
      (context.source.fieldText? "type" children).bind
        (context.resolver.resolve? context.imports)
    else if mark.rule = "parenthesized_expression" then typeOfFirst? context scope children
    else if mark.rule = "scoped_identifier" || mark.rule = "type_identifier" then
      context.resolver.resolve? context.imports whole
    else none

/-- The type of the expression that fills a field. -/
def typeOfField? (context : Context) (scope : Scope) (field : String) :
    List Tree → Option String
  | [] => none
  | tree :: rest =>
    if tree.fills field then typeOf? context scope tree
    else typeOfField? context scope field rest

/-- The type of the first named expression among several trees. -/
def typeOfFirst? (context : Context) (scope : Scope) : List Tree → Option String
  | [] => none
  | tree :: rest =>
    if tree.mark.named then typeOf? context scope tree else typeOfFirst? context scope rest

end

/-- The symbol of a call. Without a receiver the method is looked for in the
innermost type. -/
def callSymbols (context : Context) (scope : Scope) (mark : Mark) (children : List Tree) :
    List Symbol :=
  match context.source.fieldText? "name" children with
  | none => []
  | some name =>
    let owner := match fieldChild? "object" children with
      | some object => context.typeOf? scope object
      | none => scope.qualified
    let target := owner.bind fun owner => context.resolver.method? owner name
    [{ context.symbol scope.owner mark .reference name
        (collapsed (context.source.charsOf mark)) with referenceTo := target }]

/-- What a plain name refers to: a variable, or else a field of the innermost type
or of its superclasses. -/
def nameTarget? (context : Context) (scope : Scope) (name : String) : Option String :=
  if scope.locals.has name then some name
  else (scope.qualified.bind fun owner => context.resolver.fieldOwner? owner name).map
    fun (declaring, _) => under (some declaring) name

/-- The symbol of an identifier that uses a variable or field. -/
def useSymbols (context : Context) (scope : Scope) (parent : Option String) (mark : Mark) :
    List Symbol :=
  match parent with
  | none => []
  | some parent =>
    if isDeclaredName parent mark then []
    else
      let name := String.ofList (context.source.charsOf mark)
      match context.nameTarget? scope name with
      | none => []
      | some target =>
        [{ context.symbol scope.owner mark .reference name name with
            referenceTo := some target }]

/-- The kind of a declared type. -/
def typeKind (rule : String) : Kind :=
  if rule = "interface_declaration" || rule = "annotation_type_declaration" then .interface
  else .classLike

/-- The symbols of a type and of its record components. -/
def typeSymbols (context : Context) (scope : Scope) (simple : String) (mark : Mark)
    (children : List Tree) : List Symbol :=
  let components :=
    if mark.rule = "record_declaration" then
      match fieldChild? "parameters" children with
      | some list => (namedTrees list.children).filterMap fun component =>
        (parameter? context.source component).map fun (name, written) =>
          context.symbol (some simple) component.mark .field name (written ++ " " ++ name)
      | none => []
    else []
  context.symbol scope.owner mark (typeKind mark.rule) simple
    (header context.source mark children) :: components

/-- The scope inside a method or constructor. -/
def callableScope (context : Context) (scope : Scope) (children : List Tree) : Scope :=
  (parameters context.source children).foldl
    (fun scope (name, written) => scope.declare name written) { scope with locals := [] }

/-- The scope after the variable of a loop or resource. -/
def loopScope (context : Context) (scope : Scope) (children : List Tree) : Scope :=
  match context.source.fieldText? "name" children, context.source.fieldText? "type" children with
  | some name, some written => scope.declare name written
  | _, _ => scope

/-- The scope after the parameter of a catch clause. -/
def catchScope (context : Context) (scope : Scope) (children : List Tree) : Scope :=
  match context.source.fieldText? "name" children,
    (namedTrees children).find? fun child => child.rule = "catch_type" with
  | some name, some written => scope.declare name (context.source.textOf written)
  | _, _ => scope

end Context

/-- A visit gives the scope for what follows and the symbols found. -/
abbrev Visited := Scope × List Symbol

mutual

/-- Visit a tree below a parent. -/
def visit (context : Context) (parent : Option String) (scope : Scope) : Tree → Visited
  | .node mark children =>
    let name? := context.source.fieldText? "name" children
    match Form.ofRule mark.rule with
    | .preamble => (scope, [])
    | .typeDeclaration =>
      match name? with
      | none => (scope, [])
      | some simple =>
        let (_, members) := visitIn context mark.rule "body" (context.inside scope simple) children
        (scope, context.typeSymbols scope simple mark children ++ members)
    | .callable =>
      match name? with
      | none => (scope, [])
      | some name =>
        let (_, body) :=
          visitIn context mark.rule "body" (context.callableScope scope children) children
        (scope, context.symbol scope.owner mark .method name
          (header context.source mark children) :: body)
    | .fieldDeclaration =>
      let written := (context.source.fieldText? "type" children).getD ""
      visitDeclarators context .field written scope children
    | .enumConstant =>
      let own := match name? with
        | some name => [context.symbol scope.owner mark .field name (collapsed name.toList)]
        | none => []
      let (after, parts) := visitAmong context mark.rule scope children
      (after, own ++ parts)
    | .localDeclaration =>
      let written := (context.source.fieldText? "type" children).getD ""
      visitDeclarators context .binding written scope children
    | .loopOrResource =>
      visitAmong context mark.rule (context.loopScope scope children) children
    | .catchParameter => (context.catchScope scope children, [])
    | .invocation =>
      let (after, parts) := visitAmong context mark.rule scope children
      (after, context.callSymbols scope mark children ++ parts)
    | .identifier => (scope, context.useSymbols scope parent mark)
    | .other => visitAmong context mark.rule scope children

/-- Visit the named trees among several below a parent. -/
def visitAmong (context : Context) (parent : String) (scope : Scope) : List Tree → Visited
  | [] => (scope, [])
  | tree :: rest =>
    if tree.mark.named then
      let (between, first) := visit context (some parent) scope tree
      let (after, others) := visitAmong context parent between rest
      (after, first ++ others)
    else visitAmong context parent scope rest

/-- Visit the tree that fills a field of a parent. -/
def visitIn (context : Context) (parent field : String) (scope : Scope) : List Tree → Visited
  | [] => (scope, [])
  | tree :: rest =>
    if tree.fills field then visit context (some parent) scope tree
    else visitIn context parent field scope rest

/-- Visit the declared variables among several trees. Each is in scope, if it is a
local variable, from its own initial value on. -/
def visitDeclarators (context : Context) (kind : Kind) (written : String) (scope : Scope) :
    List Tree → Visited
  | [] => (scope, [])
  | .node mark children :: rest =>
    if mark.named && mark.rule = "variable_declarator" then
      match context.source.fieldText? "name" children with
      | none => visitDeclarators context kind written scope rest
      | some name =>
        let declared := if kind = .binding then scope.declare name written else scope
        let (between, value) := visitIn context mark.rule "value" declared children
        let (after, others) := visitDeclarators context kind written between rest
        (after,
          context.symbol scope.owner mark kind name (written ++ " " ++ name) :: value ++ others)
    else visitDeclarators context kind written scope rest

end

/-- The symbols of a file, when the types of other files are known. -/
def symbols (elsewhere : TypeIndex) (source : Source) : List Symbol :=
  (visit
    { source := source
      imports := (typesOf source).2
      resolver := { here := TypeIndex.addFile [] source, elsewhere := elsewhere } }
    none {} source.tree).2

end SymbolAtlas.Java
