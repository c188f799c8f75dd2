import SymbolAtlas.Extract.Source
import SymbolAtlas.Text.Ascii

/-!
# Symbols of Rust files

Types, traits, functions, `let` bindings and calls. The package of a symbol is
the path of its module: that of the file, followed by the inline modules around
the node. Functions inside an `impl` block or a trait belong to its type; a
module starts afresh without one.

Two passes run over the tree. `definitions` gathers the functions and methods by
their full paths, and `visit` lists the symbols in source order.
-/

namespace SymbolAtlas.Rust

/-- The part a node plays for the extraction. -/
inductive Form where
  | inlineModule
  | structType
  | enumeration
  | trait
  | implementation
  | function
  | letBinding
  | call
  | other
  deriving DecidableEq, Repr

/-- The part that nodes of a grammar rule play. -/
def Form.ofRule (rule : String) : Form :=
  if rule = "mod_item" then .inlineModule
  else if rule = "struct_item" then .structType
  else if rule = "enum_item" then .enumeration
  else if rule = "trait_item" then .trait
  else if rule = "impl_item" then .implementation
  else if rule = "function_item" || rule = "function_signature_item" then .function
  else if rule = "let_declaration" then .letBinding
  else if rule = "call_expression" then .call
  else .other

/-- A name behind a path. -/
def under (path : Option String) (name : String) : String :=
  match path with
  | some path => path ++ "::" ++ name
  | none => name

/-- The parts of a module path that a file stands for: its directories and its stem
without a leading source directory and without the name of a root or index file. -/
def moduleParts (stem : List Char) : List (List Char) :=
  let parts := (Text.splitWhen (· = '/') stem).filter fun part => !part.isEmpty && part != ['.']
  let parts := if parts.head? = some "src".toList then parts.drop 1 else parts
  if parts.getLast? = some "mod".toList then parts.dropLast
  else if parts = ["lib".toList] || parts = ["main".toList] then []
  else parts

/-- The module path of a file; none for the root of the crate. -/
def modulePath? (relative : String) : Option String :=
  let chars := relative.toList
  let stem := match Text.splitLast '.' chars with
    | some (stem, extension) =>
      if Text.sameIgnoringCase (String.ofList extension) "rs" && !stem.isEmpty then stem else chars
    | none => chars
  let parts := moduleParts stem
  if parts.isEmpty then none else some (String.ofList (Text.joinWith [':', ':'] parts))

/-- The field in which a written type keeps the type it is built on. -/
def innerField? (rule : String) : Option String :=
  if rule = "generic_type" || rule = "reference_type" then some "type"
  else if rule = "scoped_type_identifier" then some "name"
  else none

mutual

/-- The name of a written type without its arguments, references and path. -/
def typeName (source : Source) : Tree → String
  | .node mark children =>
    let whole := String.ofList (source.charsOf mark)
    match innerField? mark.rule with
    | none => whole
    | some field => (typeNameIn source field children).getD whole

/-- The name of the type that fills a field. -/
def typeNameIn (source : Source) (field : String) : List Tree → Option String
  | [] => none
  | tree :: rest =>
    if tree.fills field then some (typeName source tree) else typeNameIn source field rest

end

/-- Where in the file a node stands. -/
structure Scope where
  module : Option String := none
  /-- The innermost enclosing `impl` type or trait. -/
  owner : Option String := none
  deriving DecidableEq, Repr

namespace Scope

/-- The scope inside an inline module. -/
def enter (scope : Scope) (name : String) : Scope where
  module := some (under scope.module name)

/-- The scope inside an `impl` block or trait. -/
def within (scope : Scope) (owner : String) : Scope :=
  { scope with owner := some owner }

end Scope

/-- Something that a file defines, by its full path. -/
inductive Definition where
  | function (path : String)
  | method (owner name : String)
  deriving DecidableEq, Repr

/-- The definition of a function in a scope. -/
def Definition.of (scope : Scope) (name : String) : Definition :=
  match scope.owner with
  | some owner => .method (under scope.module owner) name
  | none => .function (under scope.module name)

mutual

/-- What a tree defines. -/
def definitions (source : Source) (scope : Scope) : Tree → List Definition
  | .node mark children =>
    match Form.ofRule mark.rule with
    | .inlineModule =>
      match source.fieldText? "name" children with
      | some name => definitionsIn source "body" (scope.enter name) children
      | none => []
    | .implementation =>
      match fieldChild? "type" children with
      | some target => definitionsIn source "body" (scope.within (typeName source target)) children
      | none => []
    | .trait =>
      match fieldChild? "name" children with
      | some target => definitionsIn source "body" (scope.within (typeName source target)) children
      | none => []
    | .function =>
      match source.fieldText? "name" children with
      | some name => [.of scope name]
      | none => []
    | _ => definitionsAmong source scope children

/-- What the named trees among several define. -/
def definitionsAmong (source : Source) (scope : Scope) : List Tree → List Definition
  | [] => []
  | tree :: rest =>
    if tree.mark.named then
      definitions source scope tree ++ definitionsAmong source scope rest
    else definitionsAmong source scope rest

/-- What the tree that fills a field defines. -/
def definitionsIn (source : Source) (field : String) (scope : Scope) :
    List Tree → List Definition
  | [] => []
  | tree :: rest =>
    if tree.fills field then definitions source scope tree
    else definitionsIn source field scope rest

end

/-- What stays the same during the extraction from one file. -/
structure Context where
  source : Source
  definitions : List Definition

namespace Context

/-- A symbol for a node that belongs to some type or to none. -/
def symbol (context : Context) (scope : Scope) (mark : Mark) (kind : Kind)
    (owner : Option String) (name : String) : Symbol where
  name := name
  kind := kind
  className := owner
  packageName := scope.module
  filePath := context.source.relative
  line := mark.row + 1
  signature := some (context.source.signature '\x7b' mark)

/-- The full path of a method of a type in a module, if the file defines it. -/
def method? (context : Context) (module : Option String) (owner name : String) :
    Option String :=
  let path := under module owner
  if context.definitions.contains (.method path name) then some (under (some path) name) else none

/-- The full path of a function in a module, if the file defines it. -/
def function? (context : Context) (module : Option String) (name : String) : Option String :=
  let path := under module name
  if context.definitions.contains (.function path) then some path else none

/-- The definition that a call through a path refers to: a method of the type that
the path names, or else a function of the module that it names. -/
def scopedTarget? (context : Context) (scope : Scope) (path : Option String) (name : String) :
    Option String :=
  let owner := if path = some "Self" then scope.owner else path
  match owner with
  | none => none
  | some owner =>
    match context.method? scope.module owner name with
    | some target => some target
    | none => context.function? (some (under scope.module owner)) name

/-- The definition that a call of a method on a value refers to. Only a call on
`self` inside a type is known. -/
def selfTarget? (context : Context) (scope : Scope) (value : Option String) (name : String) :
    Option String :=
  match scope.owner with
  | some owner =>
    if value = some "self" then context.method? scope.module owner name else none
  | none => none

mutual

/-- The name that is called and the definition it refers to. -/
def callee? (context : Context) (scope : Scope) : Tree → Option (String × Option String)
  | .node mark children =>
    if mark.rule = "identifier" then
      let name := String.ofList (context.source.charsOf mark)
      some (name, context.function? scope.module name)
    else if mark.rule = "scoped_identifier" then
      (context.source.fieldText? "name" children).map fun name =>
        (name, context.scopedTarget? scope (context.source.fieldText? "path" children) name)
    else if mark.rule = "field_expression" then
      (context.source.fieldText? "field" children).map fun name =>
        (name, context.selfTarget? scope (context.source.fieldText? "value" children) name)
    else if mark.rule = "generic_function" then calleeIn? context scope children
    else none

/-- The name called by the tree that stands in the place of the function. -/
def calleeIn? (context : Context) (scope : Scope) :
    List Tree → Option (String × Option String)
  | [] => none
  | tree :: rest =>
    if tree.fills "function" then callee? context scope tree else calleeIn? context scope rest

end

/-- The symbol of a call, if its callee can be named. -/
def callSymbols (context : Context) (scope : Scope) (mark : Mark) (children : List Tree) :
    List Symbol :=
  match context.calleeIn? scope children with
  | some (name, target) =>
    [{ context.symbol scope mark .reference scope.owner name with referenceTo := target }]
  | none => []

/-- The symbols of the fields in the body of a structure. -/
def fieldSymbols (context : Context) (scope : Scope) (owner : String) (body : Tree) :
    List Symbol :=
  (namedTrees body.children).filterMap fun field =>
    if field.rule = "field_declaration" then
      (context.source.fieldText? "name" field.children).map
        (context.symbol scope field.mark .field (some owner))
    else none

/-- The symbol of a binding, if it binds a plain name. -/
def letSymbols (context : Context) (scope : Scope) (mark : Mark) (children : List Tree) :
    List Symbol :=
  match fieldChild? "pattern" children with
  | some pattern =>
    if pattern.rule = "identifier" then
      [context.symbol scope mark .binding scope.owner (context.source.textOf pattern)]
    else []
  | none => []

end Context

mutual

/-- The symbols of a tree in source order. -/
def visit (context : Context) (scope : Scope) : Tree → List Symbol
  | .node mark children =>
    let name? := context.source.fieldText? "name" children
    match Form.ofRule mark.rule with
    | .inlineModule =>
      match name? with
      | some name => visitIn context "body" (scope.enter name) children
      | none => []
    | .structType =>
      match name? with
      | some name =>
        let fields := match fieldChild? "body" children with
          | some body => context.fieldSymbols scope name body
          | none => []
        context.symbol scope mark .classLike none name :: fields
      | none => []
    | .enumeration =>
      match name? with
      | some name => [context.symbol scope mark .classLike none name]
      | none => []
    | .trait =>
      match name? with
      | some name =>
        context.symbol scope mark .interface none name ::
          visitIn context "body" (scope.within name) children
      | none => []
    | .implementation =>
      match fieldChild? "type" children with
      | some target =>
        visitIn context "body" (scope.within (typeName context.source target)) children
      | none => []
    | .function =>
      let own := match name? with
        | some name => [context.symbol scope mark .method scope.owner name]
        | none => []
      own ++ visitIn context "body" scope children
    | .letBinding => context.letSymbols scope mark children ++ visitIn context "value" scope children
    | .call => context.callSymbols scope mark children ++ visitAmong context scope children
    | .other => visitAmong context scope children

/-- The symbols of the named trees among several. -/
def visitAmong (context : Context) (scope : Scope) : List Tree → List Symbol
  | [] => []
  | tree :: rest =>
    if tree.mark.named then visit context scope tree ++ visitAmong context scope rest
    else visitAmong context scope rest

/-- The symbols of the tree that fills a field. -/
def visitIn (context : Context) (field : String) (scope : Scope) : List Tree → List Symbol
  | [] => []
  | tree :: rest =>
    if tree.fills field then visit context scope tree else visitIn context field scope rest

end

/-- The symbols of a file. -/
def symbols (source : Source) : List Symbol :=
  let scope : Scope := { module := modulePath? source.relative }
  visit { source := source, definitions := definitions source scope source.tree } scope source.tree

end SymbolAtlas.Rust
