import SymbolAtlas.Proofs.Extract.JavaScopes

/-!
# Which inherited member a Java name refers to

A member is looked for up the superclasses, over declarations that any two indexes give: a
superclass may be missing, may be named in another file under other imports, and may lead back
to where the climb began. `Resolver.Ascent` says what a climb is without climbing: the types it
passes, each known and each the written superclass of the one before as that one's own file
reads it, of which only the last has the member. A lookup gives a member just where there is an
ascent of at most `chainLimit` types to it.

A call looks its method up in the type of its receiver, or in the innermost type around it.
`Context.HasType` gives the types of receivers by rules, one for each form of expression, from the
types of plain names. For these there are two accounts. `NameHasType` goes by the variables in
scope, then by the fields of the type around, and then by the types of the file. `IsTakenFor` is
what the extraction does: it goes by all variables declared so far in the body, and takes a field of
unknown type for a type of its name. A receiver rests on one name at most, and where the accounts
agree on that name they agree on the call.
-/

namespace SymbolAtlas.Java

namespace Resolver

variable {resolver : Resolver}

/-- What is known of a type: its declaration in the file at hand, or else that of another file. -/
def Knows (resolver : Resolver) (type : String) (info : TypeInfo) : Prop :=
  resolver.here.get? type = some info ∨
    (resolver.here.get? type = none ∧ resolver.elsewhere.get? type = some info)

/-- The superclass that a declaration writes leads to a type, read with the imports of the
declaration's own file. -/
def Extends (resolver : Resolver) (info : TypeInfo) (next : String) : Prop :=
  ∃ written, info.superclass = some written ∧
    resolver.resolve? info.imports written = some next

/-- A climb from a type to the first type that has a member: the types `0` to `last`. -/
structure Ascent (resolver : Resolver) (has : TypeInfo → Prop) (owner : String) (last : Nat)
    (types : Nat → String) (infos : Nat → TypeInfo) : Prop where
  start : types 0 = owner
  known : ∀ i ≤ last, resolver.Knows (types i) (infos i)
  linked : ∀ i < last, resolver.Extends (infos i) (types (i + 1))
  found : has (infos last)
  passed : ∀ i < last, ¬ has (infos i)

/-- The type of a full name, by precedence. -/
theorem get?_eq_some_iff (type : String) (info : TypeInfo) :
    resolver.get? type = some info ↔ resolver.Knows type info := by
  unfold get? Knows
  cases resolver.here.get? type with
  | none => simp
  | some own => simp

/-- A superclass as its declaration names it. -/
theorem superclassOf?_eq_some_iff (info : TypeInfo) (next : String) :
    resolver.superclassOf? info = some next ↔ resolver.Extends info next := by
  unfold superclassOf? Extends
  cases info.superclass with
  | none => simp
  | some written => simp

/-- A climb that ends where it starts. -/
theorem Ascent.here {has : TypeInfo → Prop} {owner : String} {info : TypeInfo}
    (known : resolver.Knows owner info) (found : has info) :
    resolver.Ascent has owner 0 (fun _ => owner) (fun _ => info) := by
  refine ⟨rfl, ?_, ?_, found, ?_⟩
  · intro i _
    exact known
  · intro i below
    omega
  · intro i below
    omega

/-- A climb with one more type at its start. -/
theorem Ascent.above {has : TypeInfo → Prop} {owner next : String} {info : TypeInfo} {last : Nat}
    {types : Nat → String} {infos : Nat → TypeInfo} (known : resolver.Knows owner info)
    (passed : ¬ has info) (linked : resolver.Extends info next)
    (ascent : resolver.Ascent has next last types infos) :
    resolver.Ascent has owner (last + 1) (fun i => Nat.casesOn i owner types)
      (fun i => Nat.casesOn i info infos) := by
  obtain rfl := ascent.start
  refine ⟨rfl, ?_, ?_, ascent.found, ?_⟩
  · intro i inside
    cases i with
    | zero => exact known
    | succ i => exact ascent.known i (by omega)
  · intro i below
    cases i with
    | zero => exact linked
    | succ i => exact ascent.linked i (by omega)
  · intro i below
    cases i with
    | zero => exact passed
    | succ i => exact ascent.passed i (by omega)

/-- What remains of a climb behind its first type. -/
theorem Ascent.tail {has : TypeInfo → Prop} {owner : String} {last : Nat}
    {types : Nat → String} {infos : Nat → TypeInfo}
    (ascent : resolver.Ascent has owner (last + 1) types infos) :
    resolver.Ascent has (types 1) last (fun i => types (i + 1)) (fun i => infos (i + 1)) := by
  refine ⟨rfl, ?_, ?_, ascent.found, ?_⟩
  · intro i inside
    exact ascent.known (i + 1) (by omega)
  · intro i below
    exact ascent.linked (i + 1) (by omega)
  · intro i below
    exact ascent.passed (i + 1) (by omega)

/-- A climb of so many types finds what an ascent of so many types leads to. -/
theorem climb?_eq_some_iff (has : TypeInfo → Bool) (steps : Nat) (owner declaring : String)
    (info : TypeInfo) :
    resolver.climb? has steps owner = some (declaring, info) ↔
      ∃ last < steps, ∃ types infos,
        resolver.Ascent (fun info => has info = true) owner last types infos ∧
          types last = declaring ∧ infos last = info := by
  induction steps generalizing owner with
  | zero =>
    constructor
    · intro found
      cases found
    · rintro ⟨last, below, -⟩
      omega
  | succ steps hypothesis =>
    rw [climb?]
    constructor
    · intro climbed
      cases known : resolver.get? owner with
      | none => simp [known] at climbed
      | some own =>
        simp only [known] at climbed
        have knows := (get?_eq_some_iff owner own).1 known
        split at climbed
        next found =>
          obtain ⟨rfl, rfl⟩ := Prod.mk.inj (Option.some.inj climbed)
          exact ⟨0, by omega, _, _, .here knows found, rfl, rfl⟩
        next passed =>
          cases next : resolver.superclassOf? own with
          | none => simp [next] at climbed
          | some parent =>
            simp only [next] at climbed
            obtain ⟨last, below, types, infos, ascent, rfl, rfl⟩ := (hypothesis parent).1 climbed
            have above := (superclassOf?_eq_some_iff own parent).1 next
            exact ⟨last + 1, by omega, _, _, .above knows passed above ascent, rfl, rfl⟩
    · rintro ⟨last, below, types, infos, ascent, rfl, rfl⟩
      obtain rfl := ascent.start
      rw [(get?_eq_some_iff _ _).2 (ascent.known 0 (by omega))]
      cases last with
      | zero => simp [ascent.found]
      | succ last =>
        have above := (superclassOf?_eq_some_iff _ _).2 (ascent.linked 0 (by omega))
        simp only [ascent.passed 0 (by omega), above]
        exact (hypothesis (types 1)).2 ⟨last, by omega, _, _, ascent.tail, rfl, rfl⟩

/-- A method is that of the first type, among the first sixteen, that declares it. -/
theorem method?_eq_some_iff (owner name target : String) :
    resolver.method? owner name = some target ↔
      ∃ last ≤ 15, ∃ types infos,
        resolver.Ascent (fun info => name ∈ info.methods) owner last types infos ∧
          target = types last ++ "." ++ name := by
  unfold method?
  rw [Option.map_eq_some_iff]
  constructor
  · rintro ⟨⟨declaring, info⟩, climbed, rfl⟩
    obtain ⟨last, below, types, infos, ascent, rfl, -⟩ := (climb?_eq_some_iff ..).1 climbed
    simp only [List.contains_iff_mem] at ascent
    exact ⟨last, Nat.le_of_lt_succ below, types, infos, ascent, rfl⟩
  · rintro ⟨last, within, types, infos, ascent, rfl⟩
    refine ⟨(types last, infos last), (climb?_eq_some_iff ..).2 ?_, rfl⟩
    simp only [List.contains_iff_mem]
    exact ⟨last, Nat.lt_succ_of_le within, types, infos, ascent, rfl, rfl⟩

/-- A field is that of the first type, among the first sixteen, that declares it. -/
theorem fieldOwner?_eq_some_iff (owner name declaring : String) (info : TypeInfo) :
    resolver.fieldOwner? owner name = some (declaring, info) ↔
      ∃ last ≤ 15, ∃ types infos,
        resolver.Ascent (fun info => info.fields.has name = true) owner last types infos ∧
          declaring = types last ∧ info = infos last := by
  unfold fieldOwner?
  rw [climb?_eq_some_iff]
  constructor
  · rintro ⟨last, below, types, infos, ascent, rfl, rfl⟩
    exact ⟨last, Nat.le_of_lt_succ below, types, infos, ascent, rfl, rfl⟩
  · rintro ⟨last, within, types, infos, ascent, rfl, rfl⟩
    exact ⟨last, Nat.lt_succ_of_le within, types, infos, ascent, rfl, rfl⟩

/-- The type of a field, its own or inherited, as the file of its declaration reads it. -/
def FieldHasType (resolver : Resolver) (owner name type : String) : Prop :=
  ∃ declaring info written, resolver.fieldOwner? owner name = some (declaring, info) ∧
    info.fields.get? name = some written ∧ resolver.resolve? info.imports written = some type

/-- The type that a lookup gives for a field. -/
theorem fieldType?_eq_some_iff (owner name type : String) :
    resolver.fieldType? owner name = some type ↔ resolver.FieldHasType owner name type := by
  unfold fieldType? FieldHasType
  cases resolver.fieldOwner? owner name with
  | none => simp
  | some found =>
    obtain ⟨declaring, info⟩ := found
    cases declared : info.fields.get? name with
    | none => simp [declared]
    | some written => simp [declared]

end Resolver

namespace Context

/-- Whether a name is that of a field of the type around, its own or an inherited one. -/
def IsField (context : Context) (enclosing : Option Enclosing) (name : String) : Prop :=
  ∃ around found, enclosing = some around ∧
    context.resolver.fieldOwner? around.qualified name = some found

/-- The type of the field of a name, in the type around. -/
def IsFieldOfType (context : Context) (enclosing : Option Enclosing) (name type : String) : Prop :=
  ∃ around, enclosing = some around ∧ context.resolver.FieldHasType around.qualified name type

/-- The type of a plain name in an expression, by what the name stands for: one of the variables,
or else a field of the type around, or else a type. -/
inductive NameHasType (context : Context) (enclosing : Option Enclosing) (bindings : Variables)
    (name : String) : String → Prop where
  | ofVariable {written type : String} (bound : bindings.get? name = some (some written))
      (resolved : context.resolver.resolve? context.imports written = some type) :
      NameHasType context enclosing bindings name type
  | ofField {type : String} (free : bindings.get? name = none)
      (declared : context.IsFieldOfType enclosing name type) :
      NameHasType context enclosing bindings name type
  | ofType {type : String} (free : bindings.get? name = none)
      (fieldless : ¬ context.IsField enclosing name)
      (resolved : context.resolver.resolve? context.imports name = some type) :
      NameHasType context enclosing bindings name type

/-- A name of a field whose type is not known. -/
def IsUntypedField (context : Context) (enclosing : Option Enclosing) (name : String) : Prop :=
  context.IsField enclosing name ∧ ∀ type, ¬ context.IsFieldOfType enclosing name type

/-- The type for which a name is taken: its type, or for a field of unknown type the type of that
name. -/
def IsTakenFor (context : Context) (enclosing : Option Enclosing) (bindings : Variables)
    (name type : String) : Prop :=
  context.NameHasType enclosing bindings name type ∨
    (bindings.get? name = none ∧ context.IsUntypedField enclosing name ∧
      context.resolver.resolve? context.imports name = some type)

/-- The static type of an expression, as far as declarations tell: one rule for each form of
expression that has one. -/
inductive HasType (context : Context) (enclosing : Option Enclosing)
    (isOfType : String → String → Prop) : Tree → String → Prop where
  | thisObject {mark : Mark} {children : List Tree} {type : Enclosing} (form : mark.rule = "this")
      (around : enclosing = some type) :
      HasType context enclosing isOfType (.node mark children) type.qualified
  | superObject {mark : Mark} {children : List Tree} {type : Enclosing} {info : TypeInfo}
      {parent : String} (form : mark.rule = "super") (around : enclosing = some type)
      (known : context.resolver.Knows type.qualified info)
      (above : context.resolver.Extends info parent) :
      HasType context enclosing isOfType (.node mark children) parent
  | name {mark : Mark} {children : List Tree} {type : String} (form : mark.rule = "identifier")
      (typed : isOfType (context.source.textOf (.node mark children)) type) :
      HasType context enclosing isOfType (.node mark children) type
  | fieldAccess {mark : Mark} {children : List Tree} {object : Tree} {owner name type : String}
      (form : mark.rule = "field_access") (filled : fieldChild? "object" children = some object)
      (typed : HasType context enclosing isOfType object owner)
      (named : context.source.fieldText? "field" children = some name)
      (declared : context.resolver.FieldHasType owner name type) :
      HasType context enclosing isOfType (.node mark children) type
  | creation {mark : Mark} {children : List Tree} {written type : String}
      (form : mark.rule = "object_creation_expression" ∨ mark.rule = "cast_expression")
      (named : context.source.fieldText? "type" children = some written)
      (resolved : context.resolver.resolve? context.imports written = some type) :
      HasType context enclosing isOfType (.node mark children) type
  | parenthesized {mark : Mark} {children : List Tree} {inner : Tree} {type : String}
      (form : mark.rule = "parenthesized_expression")
      (first : (namedTrees children).head? = some inner)
      (typed : HasType context enclosing isOfType inner type) :
      HasType context enclosing isOfType (.node mark children) type
  | qualifiedName {mark : Mark} {children : List Tree} {type : String}
      (form : mark.rule = "scoped_identifier" ∨ mark.rule = "type_identifier")
      (resolved : context.resolver.resolve? context.imports
        (context.source.textOf (.node mark children)) = some type) :
      HasType context enclosing isOfType (.node mark children) type

/-- The type in which a call looks for its method: the static type of its receiver, or without
a receiver the type around it. -/
def CallsOn (context : Context) (enclosing : Option Enclosing) (isOfType : String → String → Prop)
    (call : Tree) (owner : String) : Prop :=
  match fieldChild? "object" call.children with
  | some receiver => context.HasType enclosing isOfType receiver owner
  | none => ∃ type, enclosing = some type ∧ type.qualified = owner

end Context

/-- The type of an expression rests on that of a name in it. -/
inductive RestsOn (source : Source) : Tree → String → Prop where
  | name {mark : Mark} {children : List Tree} (form : mark.rule = "identifier") :
      RestsOn source (.node mark children) (source.textOf (.node mark children))
  | fieldAccess {mark : Mark} {children : List Tree} {object : Tree} {name : String}
      (form : mark.rule = "field_access") (filled : fieldChild? "object" children = some object)
      (rests : RestsOn source object name) : RestsOn source (.node mark children) name
  | parenthesized {mark : Mark} {children : List Tree} {inner : Tree} {name : String}
      (form : mark.rule = "parenthesized_expression")
      (first : (namedTrees children).head? = some inner) (rests : RestsOn source inner name) :
      RestsOn source (.node mark children) name

/-- The type of a plain name rests on that of the name. -/
theorem RestsOn.eq_textOf {source : Source} {tree : Tree} {name : String}
    (rests : RestsOn source tree name) (identifier : tree.rule = "identifier") :
    name = source.textOf tree := by
  cases rests with
  | name => rfl
  | fieldAccess form | parenthesized form =>
    rw [Tree.rule_node, form] at identifier
    exact absurd identifier (by decide)

/-- The type of the receiver of a call rests on that of a name. -/
def CallRestsOn (source : Source) (call : Tree) (name : String) : Prop :=
  ∃ receiver, fieldChild? "object" call.children = some receiver ∧ RestsOn source receiver name

/-- A name is taken for what it stands for: what was declared last in the body under this name, if
anything, is still in scope, and a field of this name has a known type. -/
structure Context.IsClear (context : Context) (enclosing : Option Enclosing) (known : Known)
    (name : String) : Prop where
  standing : known.declared.get? name = known.inScope.get? name
  typed : known.inScope.get? name = none → ¬ context.IsUntypedField enclosing name

/-- A reference leads to the method that is found in the type on which it is called, and to nothing
where the method is not found or the call is on no known type. -/
structure LeadsFrom (resolver : Resolver) (isCalledOn : String → Prop) (reference : Symbol) :
    Prop where
  found : ∀ owner, isCalledOn owner →
    reference.referenceTo = resolver.method? owner reference.name
  absent : (∀ owner, ¬ isCalledOn owner) → reference.referenceTo = none

/-- Whether a place with these nodes around it is in the body of a class without a name, nearer than
any declared type. -/
def isInNamelessClass : List Tree → Bool
  | [] => false
  | tree :: around =>
    if declaresType tree.rule then false
    else tree.rule = "class_body" && !(around.head?.any fun outer => declaresType outer.rule) ||
      isInNamelessClass around

/-- The type of `this`, if it has been declared under a name. -/
def thisType? (source : Source) (package : Option String) (above : List Tree) : Option Enclosing :=
  if isInNamelessClass above then none else innermost source package above

namespace Context

variable {context : Context} {scope : Scope} {enclosing : Option Enclosing} {bindings : Variables}

/-- The type of a name is the same by any variables that say the same of it. -/
theorem NameHasType.of_get?_eq {other : Variables} {name type : String}
    (typed : context.NameHasType enclosing bindings name type)
    (same : bindings.get? name = other.get? name) :
    context.NameHasType enclosing other name type := by
  cases typed with
  | ofVariable bound resolved => exact .ofVariable (same.symm.trans bound) resolved
  | ofField free declared => exact .ofField (same.symm.trans free) declared
  | ofType free fieldless resolved => exact .ofType (same.symm.trans free) fieldless resolved

/-- A clear name is taken for its type. -/
theorem IsClear.isTakenFor_iff {known : Known} {name : String}
    (clear : context.IsClear enclosing known name) (type : String) :
    context.IsTakenFor enclosing known.declared name type ↔
      context.NameHasType enclosing known.inScope name type := by
  constructor
  · rintro (typed | ⟨free, untyped, -⟩)
    · exact typed.of_get?_eq clear.standing
    · exact absurd untyped (clear.typed (clear.standing.symm.trans free))
  · exact fun typed => .inl (typed.of_get?_eq clear.standing.symm)

/-- The type of an expression depends on that of the name on which it rests. -/
theorem HasType.of_names {one two : String → String → Prop} {tree : Tree} {type : String}
    (typed : context.HasType enclosing one tree type)
    (same : ∀ name type, RestsOn context.source tree name → one name type → two name type) :
    context.HasType enclosing two tree type := by
  induction typed with
  | thisObject form around => exact .thisObject form around
  | superObject form around known above => exact .superObject form around known above
  | name form typed => exact .name form (same _ _ (.name form) typed)
  | fieldAccess form filled _ named declared hypothesis =>
    exact .fieldAccess form filled
      (hypothesis fun name type rests => same name type (.fieldAccess form filled rests)) named
      declared
  | creation form named resolved => exact .creation form named resolved
  | parenthesized form first _ hypothesis =>
    exact .parenthesized form first
      (hypothesis fun name type rests => same name type (.parenthesized form first rests))
  | qualifiedName form resolved => exact .qualifiedName form resolved

/-- The type that a call is on depends on that of the name on which it rests. -/
theorem callsOn_congr {one two : String → String → Prop} {call : Tree}
    (same : ∀ name type, CallRestsOn context.source call name → (one name type ↔ two name type))
    (owner : String) :
    context.CallsOn enclosing one call owner ↔ context.CallsOn enclosing two call owner := by
  unfold CallsOn
  cases filled : fieldChild? "object" call.children with
  | none => exact Iff.rfl
  | some receiver =>
    constructor
    · exact fun typed => typed.of_names fun name type rests =>
        (same name type ⟨receiver, filled, rests⟩).1
    · exact fun typed => typed.of_names fun name type rests =>
        (same name type ⟨receiver, filled, rests⟩).2

/-- The expression in a field is the first tree that fills it. -/
theorem typeOfField?_eq (field : String) (trees : List Tree) :
    typeOfField? context scope field trees =
      (fieldChild? field trees).bind (typeOf? context scope) := by
  induction trees with
  | nil => rfl
  | cons tree rest hypothesis =>
    rw [typeOfField?, fieldChild?, List.find?_cons]
    cases tree.fills field with
    | true => rfl
    | false => exact hypothesis

/-- The first named expression among several trees. -/
theorem typeOfFirst?_eq (trees : List Tree) :
    typeOfFirst? context scope trees = (namedTrees trees).head?.bind (typeOf? context scope) := by
  induction trees with
  | nil => rfl
  | cons tree rest hypothesis =>
    rw [typeOfFirst?, namedTrees, List.filter_cons]
    cases tree.mark.named with
    | true => rfl
    | false => exact hypothesis

/-- A field of some type is a field. -/
theorem IsFieldOfType.isField {name type : String}
    (declared : context.IsFieldOfType enclosing name type) : context.IsField enclosing name := by
  obtain ⟨around, inside, declaring, info, _, owner, -⟩ := declared
  exact ⟨around, (declaring, info), inside, owner⟩

/-- A name of a variable is taken for the type of the variable. -/
theorem isTakenFor_of_variable {name written type : String}
    (bound : bindings.get? name = some (some written)) :
    context.IsTakenFor enclosing bindings name type ↔
      context.resolver.resolve? context.imports written = some type := by
  constructor
  · rintro (typed | ⟨free, -⟩)
    · cases typed with
      | ofVariable other resolved =>
        obtain rfl := Option.some.inj (Option.some.inj (bound.symm.trans other))
        exact resolved
      | ofField free | ofType free => cases bound.symm.trans free
    · cases bound.symm.trans free
  · exact fun resolved => .inl (.ofVariable bound resolved)

/-- A name of a field of known type, and of no variable, is taken for the type of the field. -/
theorem isTakenFor_of_field {name found type : String} (free : bindings.get? name = none)
    (declared : context.IsFieldOfType enclosing name found) :
    context.IsTakenFor enclosing bindings name type ↔
      context.IsFieldOfType enclosing name type := by
  constructor
  · rintro (typed | ⟨-, untyped, -⟩)
    · cases typed with
      | ofVariable bound => cases free.symm.trans bound
      | ofField _ again => exact again
      | ofType _ fieldless => exact absurd declared.isField fieldless
    · exact absurd declared (untyped.2 found)
  · exact fun again => .inl (.ofField free again)

/-- Any other name is taken for the type of the name. -/
theorem isTakenFor_of_untold {name type : String} (free : bindings.get? name = none)
    (untold : ∀ found, ¬ context.IsFieldOfType enclosing name found) :
    context.IsTakenFor enclosing bindings name type ↔
      context.resolver.resolve? context.imports name = some type := by
  constructor
  · rintro (typed | ⟨-, -, resolved⟩)
    · cases typed with
      | ofVariable bound => cases free.symm.trans bound
      | ofField _ declared => exact absurd declared (untold type)
      | ofType _ _ resolved => exact resolved
    · exact resolved
  · intro resolved
    by_cases isField : context.IsField enclosing name
    · exact .inr ⟨free, ⟨isField, untold⟩, resolved⟩
    · exact .inl (.ofType free isField resolved)

/-- The type that the extraction finds for a field of the type around. -/
theorem bind_fieldType?_eq_some_iff (name type : String) :
    (scope.qualified.bind fun owner => context.resolver.fieldType? owner name) = some type ↔
      context.IsFieldOfType scope.enclosing name type := by
  unfold Scope.qualified IsFieldOfType
  cases scope.enclosing with
  | none => simp
  | some around => simp [Resolver.fieldType?_eq_some_iff]

section Typing

variable {known : Known} (agrees : known.Agrees scope)
include agrees

/-- What the extraction gives a name for a type is what it is taken for. -/
theorem nameType?_eq_some_iff (name type : String) :
    context.nameType? scope name = some type ↔
      context.IsTakenFor scope.enclosing known.declared name type := by
  have same := agrees name
  unfold nameType?
  cases bound : scope.locals.get? name with
  | some written =>
    rw [bound, Option.map_some] at same
    exact (isTakenFor_of_variable same).symm
  | none =>
    rw [bound, Option.map_none] at same
    dsimp only
    cases declared : scope.qualified.bind fun owner => context.resolver.fieldType? owner name with
    | some found =>
      rw [isTakenFor_of_field same ((bind_fieldType?_eq_some_iff name found).1 declared),
        ← bind_fieldType?_eq_some_iff, declared]
    | none =>
      refine (isTakenFor_of_untold same fun found => ?_).symm
      rw [← bind_fieldType?_eq_some_iff, declared]
      simp

/-- The type that the extraction gives an expression follows from the rules. -/
theorem hasType_of_typeOf? (tree : Tree) {type : String}
    (typed : context.typeOf? scope tree = some type) :
    context.HasType scope.enclosing (context.IsTakenFor scope.enclosing known.declared) tree
      type := by
  match tree with
  | .node mark children =>
    rw [typeOf?, typeOfField?_eq, typeOfFirst?_eq] at typed
    split at typed
    next form =>
      obtain ⟨around, inside, rfl⟩ := Option.map_eq_some_iff.1 typed
      exact .thisObject form inside
    split at typed
    next form =>
      obtain ⟨owner, found, above⟩ := Option.bind_eq_some_iff.1 typed
      obtain ⟨around, inside, rfl⟩ := Option.map_eq_some_iff.1 found
      unfold Resolver.superclass? at above
      split at above
      next info known =>
        exact .superObject form inside ((Resolver.get?_eq_some_iff _ _).1 known)
          ((Resolver.superclassOf?_eq_some_iff _ _).1 above)
      next => cases above
    split at typed
    next form => exact .name form ((nameType?_eq_some_iff agrees _ type).1 typed)
    split at typed
    next form =>
      split at typed
      next owner name receiver named =>
        obtain ⟨object, filled, below⟩ := Option.bind_eq_some_iff.1 receiver
        have inside : object ∈ children := List.mem_of_find?_eq_some filled
        exact .fieldAccess form filled (hasType_of_typeOf? object below) named
          ((Resolver.fieldType?_eq_some_iff _ _ _).1 typed)
      next => cases typed
    split at typed
    next form =>
      obtain ⟨written, named, resolved⟩ := Option.bind_eq_some_iff.1 typed
      exact .creation (by simpa using form) named resolved
    split at typed
    next form =>
      obtain ⟨inner, first, below⟩ := Option.bind_eq_some_iff.1 typed
      have inside : inner ∈ children := List.mem_of_mem_filter (List.mem_of_mem_head? first)
      exact .parenthesized form first (hasType_of_typeOf? inner below)
    split at typed
    next form => exact .qualifiedName (by simpa using form) typed
    next => cases typed

/-- The type that the extraction gives an expression is its static type, names being what they are
taken for. -/
theorem typeOf?_eq_some_iff (tree : Tree) (type : String) :
    context.typeOf? scope tree = some type ↔
      context.HasType scope.enclosing (context.IsTakenFor scope.enclosing known.declared) tree
        type := by
  constructor
  · exact hasType_of_typeOf? agrees tree
  · intro typed
    induction typed with
    | thisObject form around => simp [typeOf?, form, Scope.qualified, around]
    | superObject form around known above =>
      simp [typeOf?, form, Scope.qualified, around, Resolver.superclass?,
        (Resolver.get?_eq_some_iff _ _).2 known, (Resolver.superclassOf?_eq_some_iff _ _).2 above]
    | name form typed =>
      simp only [typeOf?, form]
      exact (nameType?_eq_some_iff agrees _ _).2 typed
    | fieldAccess form filled _ named declared hypothesis =>
      simp [typeOf?, typeOfField?_eq, form, filled, hypothesis, named,
        (Resolver.fieldType?_eq_some_iff _ _ _).2 declared]
    | creation form named resolved =>
      rcases form with form | form <;> simp [typeOf?, form, named, resolved]
    | parenthesized form first _ hypothesis =>
      simp [typeOf?, typeOfFirst?_eq, form, first, hypothesis]
    | qualifiedName form resolved =>
      rcases form with form | form <;>
        simpa [typeOf?, form, Source.textOf, Tree.mark] using resolved

end Typing

end Context

/-- A reference leads from a type that is looked up, where it has been looked up for it. -/
theorem leadsFrom_of_owner? {resolver : Resolver} {isCalledOn : String → Prop} {reference : Symbol}
    {owner? : Option String} (typed : ∀ owner, owner? = some owner ↔ isCalledOn owner)
    (target : reference.referenceTo =
      owner?.bind fun owner => resolver.method? owner reference.name) :
    LeadsFrom resolver isCalledOn reference where
  found owner calls := by rw [target, (typed owner).2 calls, Option.bind_some]
  absent untyped := by
    have missing : owner? = none :=
      Option.eq_none_iff_forall_ne_some.2 fun owner found => untyped owner ((typed owner).1 found)
    rw [target, missing, Option.bind_none]

/-- A call leads to the method that is found in its type, names being what they are taken for. -/
theorem leadsFrom_of_call {context : Context} {stop : Stop} {reference : Symbol} {known : Known}
    (agrees : known.Agrees stop.scope) (call : stop.role = .call)
    (emitted : reference ∈ stop.symbols context) :
    LeadsFrom context.resolver (context.CallsOn stop.scope.enclosing
      (context.IsTakenFor stop.scope.enclosing known.declared) stop.node) reference := by
  obtain ⟨role, above, scope, node⟩ := stop
  obtain rfl : role = .call := call
  simp only [Stop.symbols] at emitted
  unfold Context.callSymbols at emitted
  split at emitted
  next => cases emitted
  next name named =>
    obtain rfl := List.mem_singleton.1 emitted
    unfold Context.CallsOn
    dsimp only at agrees ⊢
    cases fieldChild? "object" node.children with
    | some receiver => exact leadsFrom_of_owner? (Context.typeOf?_eq_some_iff agrees receiver) rfl
    | none => exact leadsFrom_of_owner? (fun _ => Option.map_eq_some_iff) rfl

/-- A type that an index knows after a file was taken in was known before, or is declared by the
file and keeps the imports of the file. -/
theorem imports_of_addFile {index : TypeIndex} {source : Source} {type : String} {info : TypeInfo}
    (known : (index.addFile source).get? type = some info) :
    index.get? type = some info ∨
      (info.imports = (typesOf source).2 ∧
        ∃ declared ∈ (typesOf source).1, declared.qualified = type) := by
  revert known
  unfold TypeIndex.addFile
  refine List.foldlRecOn (motive := fun index' : TypeIndex => index'.get? type = some info → _)
    _ _ Or.inl ?_
  intro reached hypothesis declared inside known
  rw [Dict.get?_put] at known
  split at known
  next same =>
    obtain rfl := Option.some.inj known
    exact .inr ⟨rfl, declared, inside, same.symm⟩
  next => exact hypothesis known

/-- A call is made at a place that is come to. -/
theorem Stop.IsOn.exists_comesTo {context : Context} {root : Tree} {stop : Stop}
    (on : stop.IsOn context root) (call : stop.role = .call) :
    ∃ path, ComesTo context root path stop.scope stop.node ∧
      stop.above = path.map Step.parent := by
  cases on with
  | place come _ => exact ⟨_, come, rfl⟩
  | declarator | component => cases call

/-- Whatever two indexes know of types: a method, and in the same way a field, is found just
where a climb of at most sixteen types leads to it, from the owner over written superclasses,
each read with the imports of the file that declares the type, to the first type that declares
the member. In a file, with whatever types known from others, every call refers to the method
that is found so in the static type of its receiver, or without a receiver in the innermost type
around it, and to nothing where there is none, a name in the receiver being the last variable of
this name that has been declared in the body. That is so for the variables in scope as well, if the
name on which the receiver rests is clear. -/
theorem inherited_members (resolver : Resolver) (elsewhere : TypeIndex) (source : Source) :
    (∀ owner name target, resolver.method? owner name = some target ↔
      ∃ last ≤ 15, ∃ types infos,
        resolver.Ascent (fun info => name ∈ info.methods) owner last types infos ∧
          target = types last ++ "." ++ name) ∧
    (∀ owner name declaring info, resolver.fieldOwner? owner name = some (declaring, info) ↔
      ∃ last ≤ 15, ∃ types infos,
        resolver.Ascent (fun info => info.fields.has name = true) owner last types infos ∧
          declaring = types last ∧ info = infos last) ∧
    (∀ index type info, (TypeIndex.addFile index source).get? type = some info →
      index.get? type = some info ∨
        (info.imports = (typesOf source).2 ∧
          ∃ declared ∈ (typesOf source).1, declared.qualified = type)) ∧
    (made elsewhere source).map Prod.snd = symbols elsewhere source ∧
    ∀ stop reference, (stop, reference) ∈ made elsewhere source → stop.role = .call →
      ∃ path, ⟨stop.node, path⟩ ∈ places [] source.tree ∧ stop.above = path.map Step.parent ∧
        let context := Context.ofSource elsewhere source
        let around := innermost source context.imports.package stop.above
        let known := knownAt source stop.node path
        LeadsFrom context.resolver
          (context.CallsOn around (context.IsTakenFor around known.declared) stop.node)
          reference ∧
        (isInNamelessClass stop.above = false →
          (∀ name, CallRestsOn source stop.node name → context.IsClear around known name) →
          let this := thisType? source context.imports.package stop.above
          LeadsFrom context.resolver
            (context.CallsOn this (context.NameHasType this known.inScope) stop.node)
            reference) := by
  refine ⟨Resolver.method?_eq_some_iff, Resolver.fieldOwner?_eq_some_iff,
    fun index type info => imports_of_addFile, map_made elsewhere source, ?_⟩
  intro stop reference emitted call
  obtain ⟨path, come, above⟩ := (isOn_of_mem_made emitted).exists_comesTo call
  refine ⟨path, come.mem_places, above, ?_⟩
  intro context around known
  have within : stop.scope.enclosing = around := by
    have inside := come.liesIn
    rw [← above] at inside
    exact inside
  have taken := leadsFrom_of_call come.agrees call (mem_made.1 emitted).2
  rw [within] at taken
  refine ⟨taken, ?_⟩
  intro named clear this
  have same : this = around := if_neg (by simp [named])
  rw [same]
  have agree (owner : String) :
      context.CallsOn around (context.IsTakenFor around known.declared) stop.node owner ↔
        context.CallsOn around (context.NameHasType around known.inScope) stop.node owner :=
    Context.callsOn_congr (fun name type rests => (clear name rests).isTakenFor_iff type) owner
  constructor
  · exact fun owner calls => taken.found owner ((agree owner).2 calls)
  · exact fun free => taken.absent fun owner calls => free owner ((agree owner).1 calls)

/-- A call on a parameter, whose class inherits the method from one that another file declares. -/
theorem inherited_members_superclass :
    let node := fun (rule field : String) (start stop : Nat) children =>
      Tree.node { rule := rule, fields := [field], start := start, stop := stop } children
    let package := node "package_declaration" "" 0 10 [node "identifier" "" 8 9 []]
    let receiver := node "identifier" "object" 46 47 []
    let call := node "method_invocation" "" 46 51
      [receiver, node "identifier" "name" 48 49 [], node "argument_list" "arguments" 49 51 []]
    let statement := node "return_statement" "" 39 52 [call]
    let block := node "block" "body" 38 53 [statement]
    let parameter := node "formal_parameter" "" 34 37
      [node "type_identifier" "type" 34 35 [], node "identifier" "name" 36 37 []]
    let method := node "method_declaration" "" 28 53
      [ node "integral_type" "type" 28 31 []
      , node "identifier" "name" 32 33 []
      , node "formal_parameters" "parameters" 33 38 [parameter]
      , block ]
    let body := node "class_body" "body" 27 54 [method]
    let type := node "class_declaration" "" 10 54
      [ node "identifier" "name" 16 17 []
      , node "superclass" "superclass" 18 27 [node "type_identifier" "" 26 27 []]
      , body ]
    let source : Source :=
      { relative := "p/B.java"
        text := "package p;class B extends A\x7bint g(B x)\x7breturn x.f();\x7d\x7d".toList
        tree := node "program" "" 0 54 [package, type] }
    let elsewhere : TypeIndex :=
      [("p.A", { methods := ["f"], fields := [], superclass := none, imports := {} })]
    let context := Context.ofSource elsewhere source
    let above := [statement, block, method, body, type, source.tree]
    isInNamelessClass above = false ∧
      ∃ scope reference path, (⟨.call, above, scope, call⟩, reference) ∈ made elsewhere source ∧
        ⟨call, path⟩ ∈ places [] source.tree ∧ CallRestsOn source call "x" ∧
        context.IsClear (some ⟨"B", "p.B"⟩) (knownAt source call path) "x" ∧
        context.CallsOn (some ⟨"B", "p.B"⟩)
          (context.NameHasType (some ⟨"B", "p.B"⟩) (knownAt source call path).inScope) call "p.B" ∧
        reference.referenceTo = some "p.A.f" := by
  intro node package receiver call statement block parameter method body type source elsewhere
    context above
  have named : isInNamelessClass above = false := by decide +kernel
  have around : innermost source context.imports.package above = some ⟨"B", "p.B"⟩ := by
    decide +kernel
  have this : thisType? source context.imports.package above = some ⟨"B", "p.B"⟩ := by
    decide +kernel
  have parameters : ∀ place ∈ places [] source.tree, place.node.rule = "method_invocation" →
      knownAt source place.node place.path =
        { declared := [("x", some "B")], inScope := [("x", some "B")] } := by decide +kernel
  have listed : ∃ scope reference, (⟨.call, above, scope, call⟩, reference) ∈
      made elsewhere source ∧ reference.name = "f" :=
    ⟨_, _, .tail _ (.tail _ (.head _)), by decide +kernel⟩
  obtain ⟨scope, reference, emitted, name⟩ := listed
  obtain ⟨-, -, -, -, law⟩ := inherited_members context.resolver elsewhere source
  obtain ⟨path, inside, -, -, strict⟩ := law _ reference emitted rfl
  have known := parameters _ inside rfl
  have clear : context.IsClear (some ⟨"B", "p.B"⟩) (knownAt source call path) "x" := by
    constructor
    · rw [known]
    · rw [known]
      intro free
      cases free
  have calls : context.CallsOn (some ⟨"B", "p.B"⟩)
      (context.NameHasType (some ⟨"B", "p.B"⟩) (knownAt source call path).inScope) call "p.B" := by
    have bound : (knownAt source call path).inScope.get? (source.textOf receiver) =
        some (some "B") := by
      rw [known]
      decide +kernel
    exact .name rfl (.ofVariable bound (by decide +kernel))
  refine ⟨named, scope, reference, path, emitted, inside, ⟨receiver, rfl, .name rfl⟩, clear, calls,
    ?_⟩
  rw [around, this] at strict
  rw [(strict named ?_).found "p.B" calls, name]
  · decide +kernel
  · rintro other ⟨object, filled, rests⟩
    obtain rfl := Option.some.inj filled
    rw [rests.eq_textOf rfl]
    exact clear

/-- A class with a field and a method that declares a variable of its name and of another class in
a block, and then calls a method on the name behind the block. -/
def receiverBehindBlock : Source :=
  let node := fun (rule field : String) (start stop : Nat) children =>
    Tree.node { rule := rule, fields := [field], start := start, stop := stop } children
  let method := fun (name block : Nat) (stop : Nat) (children : List Tree) =>
    node "method_declaration" "" (name - 5) stop
      [ node "void_type" "type" (name - 5) (name - 1) []
      , node "identifier" "name" name (name + 1) []
      , node "formal_parameters" "parameters" (name + 1) block []
      , node "block" "body" block stop children ]
  let type := fun (start stop : Nat) (members : List Tree) =>
    node "class_declaration" "" start stop
      [ node "identifier" "name" (start + 6) (start + 7) []
      , node "class_body" "body" (start + 7) stop members ]
  let declaration := fun (rule : String) (start : Nat) =>
    node rule "" start (start + 4)
      [ node "type_identifier" "type" start (start + 1) []
      , node "variable_declarator" "declarator" (start + 2) (start + 3)
          [node "identifier" "name" (start + 2) (start + 3) []] ]
  let call := node "method_invocation" "" 65 70
    [ node "identifier" "object" 65 66 []
    , node "identifier" "name" 67 68 []
    , node "argument_list" "arguments" 68 70 [] ]
  { relative := "A.java"
    text := ("class B\x7bvoid f()\x7b\x7d\x7dclass C\x7bvoid f()\x7b\x7d\x7d" ++
      "class A\x7bB x;void m()\x7b\x7bC x;\x7dx.f();\x7d\x7d").toList
    tree := node "program" "" 0 73
      [ type 0 19 [method 13 16 18 []]
      , type 19 38 [method 32 35 37 []]
      , type 38 73
          [ declaration "field_declaration" 46
          , method 55 58 72
              [ node "block" "" 59 65 [declaration "local_variable_declaration" 60]
              , node "expression_statement" "" 65 71 [call] ] ] ] }

/-- The static type of the receiver behind the block is that of the field, and the call refers to
the method of the other class. -/
theorem receiver_taken_for_left_variable :
    let context := Context.ofSource [] receiverBehindBlock
    ((symbols [] receiverBehindBlock).filter fun symbol => symbol.name = "f" &&
        symbol.kind = .reference).map (fun symbol => (symbol.line, symbol.referenceTo)) =
      [(1, some "C.f")] ∧
    ∃ place ∈ places [] receiverBehindBlock.tree, place.node.rule = "method_invocation" ∧
      isInNamelessClass place.above = false ∧
      context.CallsOn (some ⟨"A", "A"⟩) (context.NameHasType (some ⟨"A", "A"⟩)
        (knownAt receiverBehindBlock place.node place.path).inScope) place.node "B" ∧
      thisType? receiverBehindBlock none place.above = some ⟨"A", "A"⟩ ∧
      context.resolver.method? "B" "f" = some "B.f" := by
  intro context
  refine ⟨by decide +kernel, ?_⟩
  have placed : ∃ place ∈ places [] receiverBehindBlock.tree,
      place.node.rule = "method_invocation" ∧ isInNamelessClass place.above = false ∧
      thisType? receiverBehindBlock none place.above = some ⟨"A", "A"⟩ ∧
      (knownAt receiverBehindBlock place.node place.path).inScope.get? "x" = none ∧
      (fieldChild? "object" place.node.children).map
          (fun object => (object.rule, receiverBehindBlock.textOf object)) =
        some ("identifier", "x") := by decide +kernel
  obtain ⟨place, inside, rule, named, this, free, receiver⟩ := placed
  refine ⟨place, inside, rule, named, ?_, this, by decide +kernel⟩
  obtain ⟨⟨mark, children⟩, filled, same⟩ := Option.map_eq_some_iff.1 receiver
  obtain ⟨form, text⟩ := Prod.mk.inj same
  have declared : context.IsFieldOfType (some ⟨"A", "A"⟩) "x" "B" :=
    ⟨_, rfl, (Resolver.fieldType?_eq_some_iff ..).1 (by decide +kernel)⟩
  unfold Context.CallsOn
  rw [filled]
  refine .name form ?_
  rw [show context.source.textOf (.node mark children) = "x" from text]
  exact .ofField free declared

end SymbolAtlas.Java
