import SymbolAtlas.Extract.JavaTypes

/-!
# What Java names refer to

A written type is resolved in the context of its file: first against the types
the file declares, then its single imports, then its package, then its wildcard
imports, and last as a full name. A member is looked for in a type and then up
the chain of superclasses, each resolved in the file that declares it. The types
of the file at hand come before those of the other files.
-/

namespace SymbolAtlas.Java

/-- The types that lookups can see. -/
structure Resolver where
  /-- The types of the file at hand. -/
  here : TypeIndex
  /-- The types known from other files. -/
  elsewhere : TypeIndex

/-- How many types a chain of superclasses may visit, so that a cycle ends. -/
def chainLimit : Nat := 16

namespace Resolver

/-- The type of a full name. -/
def get? (resolver : Resolver) (qualified : String) : Option TypeInfo :=
  match resolver.here.get? qualified with
  | some info => some info
  | none => resolver.elsewhere.get? qualified

/-- Whether a full name is that of a type. -/
def knows (resolver : Resolver) (qualified : String) : Bool :=
  (resolver.get? qualified).isSome

/-- The full name of the type that a first segment names. -/
def base? (resolver : Resolver) (imports : Imports) (head : String) : Option String :=
  match imports.declared.get? head with
  | some found => some found
  | none =>
    match imports.single.get? head with
    | some found => some found
    | none =>
      if resolver.knows (under imports.package head) then some (under imports.package head)
      else (imports.wildcard.map fun package => under (some package) head).find? resolver.knows

/-- The full name of a written type. What stands behind the first angle bracket is
left out; arrays have none. -/
def resolve? (resolver : Resolver) (imports : Imports) (written : String) : Option String :=
  let plain := Text.trim (written.toList.takeWhile (· ≠ '<'))
  if plain.isEmpty || plain.getLast? = some ']' then none
  else
    let whole := String.ofList plain
    match Text.splitFirst ['.'] plain with
    | some (head, rest) =>
      match resolver.base? imports (String.ofList head) with
      | some base => some (under (some base) (String.ofList rest))
      | none => if resolver.knows whole then some whole else none
    | none =>
      match resolver.base? imports whole with
      | some base => some base
      | none => if resolver.knows whole then some whole else none

/-- The superclass of a type as its declaration names it. -/
def superclassOf? (resolver : Resolver) (info : TypeInfo) : Option String :=
  match info.superclass with
  | some written => resolver.resolve? info.imports written
  | none => none

/-- The superclass of the type of a full name. -/
def superclass? (resolver : Resolver) (qualified : String) : Option String :=
  match resolver.get? qualified with
  | some info => resolver.superclassOf? info
  | none => none

/-- The first type on the chain of superclasses that has a member, looking at no
more than so many types. -/
def climb? (resolver : Resolver) (has : TypeInfo → Bool) : Nat → String → Option (String × TypeInfo)
  | 0, _ => none
  | steps + 1, current =>
    match resolver.get? current with
    | none => none
    | some info =>
      if has info then some (current, info)
      else match resolver.superclassOf? info with
        | none => none
        | some next => resolver.climb? has steps next

/-- The full name of a method of a type, its own or inherited. -/
def method? (resolver : Resolver) (owner name : String) : Option String :=
  (resolver.climb? (fun info => info.methods.contains name) chainLimit owner).map
    fun (declaring, _) => under (some declaring) name

/-- The type that declares a field of a type, its own or inherited. -/
def fieldOwner? (resolver : Resolver) (owner name : String) : Option (String × TypeInfo) :=
  resolver.climb? (fun info => info.fields.has name) chainLimit owner

/-- The full name of the type of a field. -/
def fieldType? (resolver : Resolver) (owner name : String) : Option String :=
  match resolver.fieldOwner? owner name with
  | none => none
  | some (_, info) =>
    match info.fields.get? name with
    | some written => resolver.resolve? info.imports written
    | none => none

end Resolver

end SymbolAtlas.Java
