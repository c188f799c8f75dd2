import SymbolAtlas.Extract.Source
import SymbolAtlas.Text.Ascii

/-!
# Symbols of Python files

Classes, functions, assignments and calls. The package of every symbol is the
dotted name of the file's module. A call refers to a definition when the file
defines what is called: a function or class by its name, a method by its class
and name.

Two passes run over the tree. `definitions` gathers what the file defines, and
`visit` lists the symbols in source order; both carry the innermost class and
whether a function has been entered since.
-/

namespace SymbolAtlas.Python

/-- The part a node plays for the extraction. -/
inductive Form where
  | classDefinition
  | functionDefinition
  | assignment
  | call
  | identifier
  | attribute
  | targetList
  | other
  deriving DecidableEq, Repr

/-- The part that nodes of a grammar rule play. -/
def Form.ofRule (rule : String) : Form :=
  if rule = "class_definition" then .classDefinition
  else if rule = "function_definition" then .functionDefinition
  else if rule = "assignment" then .assignment
  else if rule = "call" then .call
  else if rule = "identifier" then .identifier
  else if rule = "attribute" then .attribute
  else if rule = "pattern_list" || rule = "tuple_pattern" || rule = "list_pattern" then .targetList
  else .other

/-- The dotted module name of a file; none for the package file at the root. -/
def moduleName? (relative : String) : Option String :=
  let chars := relative.toList
  let stem := match Text.splitLast '.' chars with
    | some (stem, extension) =>
      if Text.sameIgnoringCase (String.ofList extension) "py" && !stem.isEmpty then stem else chars
    | none => chars
  let parts := (Text.splitWhen (· = '/') stem).filter fun part => !part.isEmpty && part != ['.']
  let kept := if parts.getLast? = some "__init__".toList then parts.dropLast else parts
  if kept.isEmpty then none else some (String.ofList (Text.joinWith ['.'] kept))

/-- Something that a file defines. -/
inductive Definition where
  | function (name : String)
  | type (name : String)
  | method (owner name : String)
  deriving DecidableEq, Repr

mutual

/-- What a tree defines, inside a class or not, inside a function or not. -/
def definitions (source : Source) (owner : Option String) (inFunction : Bool) :
    Tree → List Definition
  | .node mark children =>
    match Form.ofRule mark.rule with
    | .classDefinition =>
      match source.fieldText? "name" children with
      | none => []
      | some name => .type name :: definitionsIn source "body" (some name) false children
    | .functionDefinition =>
      let own := match inFunction, source.fieldText? "name" children, owner with
        | false, some name, some owner => [.method owner name]
        | false, some name, none => [.function name]
        | _, _, _ => []
      own ++ definitionsIn source "body" owner true children
    | _ => definitionsAmong source owner inFunction children

/-- What the named trees among several define. -/
def definitionsAmong (source : Source) (owner : Option String) (inFunction : Bool) :
    List Tree → List Definition
  | [] => []
  | tree :: rest =>
    if tree.mark.named then
      definitions source owner inFunction tree ++ definitionsAmong source owner inFunction rest
    else definitionsAmong source owner inFunction rest

/-- What the tree that fills a field defines. -/
def definitionsIn (source : Source) (field : String) (owner : Option String)
    (inFunction : Bool) : List Tree → List Definition
  | [] => []
  | tree :: rest =>
    if tree.fills field then definitions source owner inFunction tree
    else definitionsIn source field owner inFunction rest

end

/-- What stays the same during the extraction from one file. -/
structure Context where
  source : Source
  package : Option String
  definitions : List Definition

/-- Where in the file a node stands. -/
structure Scope where
  /-- The innermost enclosing class. -/
  owner : Option String := none
  /-- Whether a function encloses the node inside that class. -/
  inFunction : Bool := false
  deriving DecidableEq, Repr

namespace Context

/-- A name behind the package. -/
def qualify (context : Context) (name : String) : String :=
  match context.package with
  | some package => package ++ "." ++ name
  | none => name

/-- A symbol for a node. -/
def symbol (context : Context) (scope : Scope) (mark : Mark) (kind : Kind) (name : String) :
    Symbol where
  name := name
  kind := kind
  className := scope.owner
  packageName := context.package
  filePath := context.source.relative
  line := mark.row + 1
  signature := some (context.source.signature ':' mark)

/-- The definition that a call by plain name refers to. -/
def functionTarget? (context : Context) (name : String) : Option String :=
  if context.definitions.contains (.function name) || context.definitions.contains (.type name)
  then some (context.qualify name) else none

/-- The definition that a call of a method on a receiver refers to. Of receivers
only plain names count; `self` stands for the enclosing class. -/
def methodTarget? (context : Context) (scope : Scope) (receiver : Option Tree)
    (name : String) : Option String :=
  let receiverName := match receiver with
    | some tree =>
      if Form.ofRule tree.rule = .identifier then some (context.source.textOf tree) else none
    | none => none
  let owner := if receiverName = some "self" then scope.owner else receiverName
  match owner with
  | some owner =>
    if context.definitions.contains (.method owner name) then
      some (context.qualify (owner ++ "." ++ name))
    else none
  | none => none

/-- The name that is called and the definition it refers to, where the callee is a
plain name or an attribute. -/
def callee? (context : Context) (scope : Scope) (callee : Tree) :
    Option (String × Option String) :=
  match Form.ofRule callee.rule with
  | .identifier =>
    let name := context.source.textOf callee
    some (name, context.functionTarget? name)
  | .attribute =>
    match context.source.fieldText? "attribute" callee.children with
    | some name =>
      some (name, context.methodTarget? scope (fieldChild? "object" callee.children) name)
    | none => none
  | _ => none

/-- The symbol of a call, if its callee can be named. -/
def callSymbols (context : Context) (scope : Scope) (mark : Mark) (children : List Tree) :
    List Symbol :=
  match (fieldChild? "function" children).bind (context.callee? scope) with
  | some (name, target) =>
    [{ context.symbol scope mark .reference name with referenceTo := target }]
  | none => []

end Context

mutual

/-- The symbols of an assignment's target. A plain name is a field directly inside a
class and a variable elsewhere; an attribute of `self` is a field inside a method. -/
def targetSymbols (context : Context) (scope : Scope) (assignment : Mark) : Tree → List Symbol
  | .node mark children =>
    match Form.ofRule mark.rule with
    | .identifier =>
      let kind := if scope.owner.isSome && !scope.inFunction then Kind.field else .binding
      [context.symbol scope assignment kind (String.ofList (context.source.charsOf mark))]
    | .attribute =>
      if scope.inFunction && scope.owner.isSome &&
          context.source.fieldText? "object" children = some "self" then
        match context.source.fieldText? "attribute" children with
        | some name => [context.symbol scope assignment .field name]
        | none => []
      else []
    | .targetList => targetSymbolsAmong context scope assignment children
    | _ => []

/-- The symbols of the named targets among several trees. -/
def targetSymbolsAmong (context : Context) (scope : Scope) (assignment : Mark) :
    List Tree → List Symbol
  | [] => []
  | tree :: rest =>
    if tree.mark.named then
      targetSymbols context scope assignment tree ++
        targetSymbolsAmong context scope assignment rest
    else targetSymbolsAmong context scope assignment rest

end

mutual

/-- The symbols of a tree in source order. -/
def visit (context : Context) (scope : Scope) : Tree → List Symbol
  | .node mark children =>
    match Form.ofRule mark.rule with
    | .classDefinition =>
      match context.source.fieldText? "name" children with
      | none => []
      | some name =>
        context.symbol scope mark .classLike name ::
          visitIn context "body" ⟨some name, false⟩ children
    | .functionDefinition =>
      let own := match context.source.fieldText? "name" children with
        | some name => [context.symbol scope mark .method name]
        | none => []
      own ++ visitIn context "body" ⟨scope.owner, true⟩ children
    | .assignment =>
      let targets := match fieldChild? "left" children with
        | some left => targetSymbols context scope mark left
        | none => []
      targets ++ visitIn context "right" scope children
    | .call => context.callSymbols scope mark children ++ visitAmong context scope children
    | _ => visitAmong context scope children

/-- The symbols of the named trees among several. -/
def visitAmong (context : Context) (scope : Scope) : List Tree → List Symbol
  | [] => []
  | tree :: rest =>
    if tree.mark.named then visit context scope tree ++ visitAmong context scope rest
    else visitAmong context scope rest

/-- The symbols of the tree that fills a field. -/
def visitIn (context : Context) (field : String) (scope : Scope) : List Tree → List Symbol
  | [] => []
  | tree :: rest =>
    if tree.fills field then visit context scope tree else visitIn context field scope rest

end

/-- The symbols of a file. -/
def symbols (source : Source) : List Symbol :=
  visit
    { source := source
      package := moduleName? source.relative
      definitions := definitions source none false source.tree }
    {} source.tree

end SymbolAtlas.Python
