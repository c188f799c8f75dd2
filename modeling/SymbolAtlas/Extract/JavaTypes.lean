import SymbolAtlas.Dict
import SymbolAtlas.Extract.Source

/-!
# Types declared in Java files

What a file says about types: its package and imports, and for every type it
declares, at any depth of nesting, the methods, the fields with their types as
written, and the superclass as written. Written types only mean something
together with the imports of the file they stand in, so each type keeps them.

Members of a type are the named parts of its body; an enumeration keeps its
methods and fields one level deeper. The components of a record are fields with
methods of the same name.
-/

namespace SymbolAtlas.Java

/-- A name behind a package or an outer type. -/
def under (outer : Option String) (name : String) : String :=
  match outer with
  | some outer => outer ++ "." ++ name
  | none => name

/-- The rules of type declarations. -/
def declaresType (rule : String) : Bool :=
  rule = "class_declaration" || rule = "interface_declaration" || rule = "enum_declaration" ||
    rule = "record_declaration" || rule = "annotation_type_declaration"

/-- The names that a file can use for types. -/
structure Imports where
  package : Option String := none
  /-- Simple names imported one by one, with their full names. -/
  single : Dict String := []
  /-- Packages imported as a whole, in order. -/
  wildcard : List String := []
  /-- Simple names of the types declared in the file, with their full names; the
  first declaration of a name counts. -/
  declared : Dict String := []
  deriving DecidableEq, Repr

namespace Imports

/-- Add the import that a declaration makes. Static imports name no type. -/
def add (imports : Imports) (declaration : List Char) : Imports :=
  let words := Text.words (Text.trimEndWhile (· = ';') (Text.trim declaration))
  match words with
  | [] => imports
  | first :: rest =>
    if first ≠ "import".toList ∨ rest.head? = some "static".toList then imports
    else
      let path := rest.flatten
      if ['.', '*'].isSuffixOf path then
        { imports with
          wildcard := imports.wildcard ++ [String.ofList (path.take (path.length - 2))] }
      else match Text.splitLast '.' path with
        | some (_, simple) =>
          { imports with
            single := imports.single.put (String.ofList simple) (String.ofList path) }
        | none => imports

/-- The package that a declaration names. -/
def packageOf (source : Source) (children : List Tree) : Option String :=
  ((namedTrees children).find? fun child =>
    child.rule = "scoped_identifier" || child.rule = "identifier").map source.textOf

/-- Take in one top-level part of a file. -/
def step (source : Source) (imports : Imports) (part : Tree) : Imports :=
  if part.rule = "package_declaration" then
    { imports with package := packageOf source part.children }
  else if part.rule = "import_declaration" then imports.add (source.charsOf part.mark)
  else imports

/-- The package and imports of a file. -/
def ofSource (source : Source) : Imports :=
  (namedTrees source.tree.children).foldl (step source) {}

end Imports

/-- What is known of a declared type. -/
structure TypeInfo where
  methods : List String
  /-- Fields with their types as written. -/
  fields : Dict String
  superclass : Option String
  /-- The names usable in the file of the declaration. -/
  imports : Imports
  deriving DecidableEq, Repr

/-- Types by their full names. -/
abbrev TypeIndex := Dict TypeInfo

/-- The members of a type body. -/
def bodyMembers (body : Tree) : List Tree :=
  (namedTrees body.children).flatMap fun child =>
    if child.rule = "enum_body_declarations" then namedTrees child.children else [child]

/-- The declared variables of a field or local declaration. -/
def declarators (children : List Tree) : List Tree :=
  (namedTrees children).filter fun child => child.rule = "variable_declarator"

/-- The name and written type of a formal parameter. -/
def parameter? (source : Source) (tree : Tree) : Option (String × String) :=
  if tree.rule = "formal_parameter" then
    match source.fieldText? "name" tree.children, source.fieldText? "type" tree.children with
    | some name, some written => some (name, written)
    | _, _ => none
  else none

/-- The parameters of a declaration with their written types. -/
def parameters (source : Source) (children : List Tree) : List (String × String) :=
  match fieldChild? "parameters" children with
  | some list => (namedTrees list.children).filterMap (parameter? source)
  | none => []

/-- A type as its declaration describes it, in the context of its file. -/
structure Declared where
  qualified : String
  simple : String
  methods : List String := []
  fields : Dict String := []
  superclass : Option String := none
  deriving DecidableEq, Repr

namespace Declared

/-- Take in a component of a record. -/
def addComponent (declared : Declared) (component : String × String) : Declared :=
  { declared with
    fields := declared.fields.put component.1 component.2
    methods := declared.methods ++ [component.1] }

/-- Take in a member of the body. -/
def addMember (source : Source) (declared : Declared) (member : Tree) : Declared :=
  if member.rule = "method_declaration" then
    match source.fieldText? "name" member.children with
    | some name => { declared with methods := declared.methods ++ [name] }
    | none => declared
  else if member.rule = "field_declaration" || member.rule = "constant_declaration" then
    let written := (source.fieldText? "type" member.children).getD ""
    (declarators member.children).foldl (fun declared declarator =>
      match source.fieldText? "name" declarator.children with
      | some name => { declared with fields := declared.fields.put name written }
      | none => declared) declared
  else if member.rule = "enum_constant" then
    match source.fieldText? "name" member.children with
    | some name => { declared with fields := declared.fields.put name declared.simple }
    | none => declared
  else declared

/-- The type that a declaration describes, given what it lies in. -/
def ofDeclaration (source : Source) (outer : Option String) (rule simple : String)
    (children : List Tree) : Declared :=
  let superclass := (fieldChild? "superclass" children).bind fun clause =>
    ((namedTrees clause.children).head?).map source.textOf
  let components := if rule = "record_declaration" then parameters source children else []
  let members := match fieldChild? "body" children with
    | some body => bodyMembers body
    | none => []
  members.foldl (addMember source)
    (components.foldl addComponent
      { qualified := under outer simple, simple := simple, superclass := superclass })

end Declared

mutual

/-- The types that a tree declares: its own and those nested in its body, the outer
one first. -/
def declaredBy (source : Source) (outer : Option String) : Tree → List Declared
  | .node mark children =>
    if declaresType mark.rule then
      match source.fieldText? "name" children with
      | none => []
      | some simple =>
        Declared.ofDeclaration source outer mark.rule simple children ::
          declaredInBody source (some (under outer simple)) children
    else []

/-- The types declared by the members of the body among several trees. -/
def declaredInBody (source : Source) (outer : Option String) : List Tree → List Declared
  | [] => []
  | .node mark children :: rest =>
    if mark.fields.contains "body" then declaredByMembers source outer children
    else declaredInBody source outer rest

/-- The types declared by the parts of a body. -/
def declaredByMembers (source : Source) (outer : Option String) : List Tree → List Declared
  | [] => []
  | .node mark children :: rest =>
    let first :=
      if !mark.named then []
      else if mark.rule = "enum_body_declarations" then declaredAmong source outer children
      else declaredBy source outer (.node mark children)
    first ++ declaredByMembers source outer rest

/-- The types declared by the named trees among several. -/
def declaredAmong (source : Source) (outer : Option String) : List Tree → List Declared
  | [] => []
  | tree :: rest =>
    if tree.mark.named then declaredBy source outer tree ++ declaredAmong source outer rest
    else declaredAmong source outer rest

end

/-- The types of a file in order of declaration, and the names usable in it. -/
def typesOf (source : Source) : List Declared × Imports :=
  let imports := Imports.ofSource source
  let types := declaredAmong source imports.package source.tree.children
  (types, { imports with
    declared := types.foldl (fun names declared =>
      names.putIfAbsent declared.simple declared.qualified) imports.declared })

/-- The index with the types of a file; a later declaration of a name replaces an
earlier one. -/
def TypeIndex.addFile (index : TypeIndex) (source : Source) : TypeIndex :=
  let (types, imports) := typesOf source
  types.foldl (fun index declared =>
    index.put declared.qualified
      { methods := declared.methods
        fields := declared.fields
        superclass := declared.superclass
        imports := imports }) index

end SymbolAtlas.Java
