import SymbolAtlas.Extract.RustSymbols

/-!
# Calls in Rust files refer to definitions of the file

Two recursions run over a tree. One gathers the definitions that calls are
resolved against, the other lists the symbols. They pass through different
children: the first enters structures, enumerations and all parts of a binding,
the second enters the bodies of functions. So a definition may be known without
being listed, and a call could then refer to nothing in the index.

`isOrderly` says where this cannot happen: no item stands where only the first
recursion looks, and the name of a trait is written plainly, since one recursion
takes the name apart and the other takes it as written. In such a tree every
definition is listed as a method under the same full path, and so every resolved
call refers to a method in the same list.
-/

namespace SymbolAtlas.Rust

/-- Whether nodes of this form are definitions or open a scope for them. -/
def Form.isItem : Form → Bool
  | .inlineModule | .trait | .implementation | .function => true
  | _ => false

mutual

/-- Whether an item stands at or below a node. -/
def hasItem : Tree → Bool
  | .node mark children => (Form.ofRule mark.rule).isItem || hasItemAmong children

/-- Whether an item stands at or below one of several nodes. -/
def hasItemAmong : List Tree → Bool
  | [] => false
  | tree :: rest => hasItem tree || hasItemAmong rest

end

/-- Whether a node of this form may have these children: no item below a structure or
an enumeration, none in a binding outside its value, and a plain name of a trait. -/
def Form.admits (children : List Tree) : Form → Bool
  | .structType | .enumeration => !hasItemAmong children
  | .letBinding => !hasItemAmong (children.eraseP (Tree.fills "value"))
  | .trait => (fieldChild? "name" children).all fun name => name.rule == "type_identifier"
  | _ => true

mutual

/-- Whether every node at or below this one may have the children it has. -/
def isOrderly : Tree → Bool
  | .node mark children => (Form.ofRule mark.rule).admits children && isOrderlyAmong children

/-- Whether every node at or below several ones may have the children it has. -/
def isOrderlyAmong : List Tree → Bool
  | [] => true
  | tree :: rest => isOrderly tree && isOrderlyAmong rest

end

/-- The full path of a symbol: its package, its type and its name, as far as there are
such. -/
def fullPath (symbol : Symbol) : String :=
  "::".intercalate (symbol.packageName.toList ++ symbol.className.toList ++ [symbol.name])

/-- The full path of a definition. -/
def Definition.path : Definition → String
  | .function path => path
  | .method owner name => under (some owner) name

/-- What a symbol stands for, were it the symbol of a function. -/
def Definition.ofSymbol (symbol : Symbol) : Definition :=
  .of ⟨symbol.packageName, symbol.className⟩ symbol.name

/-- What a symbol stands for has the full path of the symbol. -/
theorem Definition.path_ofSymbol (symbol : Symbol) :
    (Definition.ofSymbol symbol).path = fullPath symbol := by
  unfold ofSymbol Definition.of fullPath
  cases symbol.className <;> cases symbol.packageName <;>
    simp [path, under, String.intercalate_cons_cons, String.append_assoc]

/-- A definition is listed among symbols. -/
def Lists (symbols : List Symbol) (definition : Definition) : Prop :=
  ∃ symbol ∈ symbols, symbol.kind = .method ∧ Definition.ofSymbol symbol = definition

namespace Lists

variable {symbols others : List Symbol} {definition : Definition}

/-- More symbols list no less. -/
theorem mono (listed : Lists symbols definition) (within : symbols ⊆ others) :
    Lists others definition := by
  obtain ⟨symbol, member, rest⟩ := listed
  exact ⟨symbol, within member, rest⟩

theorem append_left (listed : Lists symbols definition) : Lists (symbols ++ others) definition :=
  listed.mono (List.subset_append_left symbols others)

theorem append_right (listed : Lists others definition) : Lists (symbols ++ others) definition :=
  listed.mono (List.subset_append_right symbols others)

end Lists

section Definitions

variable (source : Source)

mutual

/-- A tree without items defines nothing. -/
theorem definitions_of_hasItem_eq_false (scope : Scope) (tree : Tree)
    (free : hasItem tree = false) : definitions source scope tree = [] := by
  match tree with
  | .node mark children =>
    simp only [hasItem, Bool.or_eq_false_iff] at free
    have below := definitionsAmong_of_hasItemAmong_eq_false scope children free.2
    cases form : Form.ofRule mark.rule <;> simp_all [definitions, Form.isItem]

/-- Several trees without items define nothing. -/
theorem definitionsAmong_of_hasItemAmong_eq_false (scope : Scope) (trees : List Tree)
    (free : hasItemAmong trees = false) : definitionsAmong source scope trees = [] := by
  match trees with
  | [] => rfl
  | tree :: rest =>
    simp only [hasItemAmong, Bool.or_eq_false_iff] at free
    have first := definitions_of_hasItem_eq_false scope tree free.1
    have others := definitionsAmong_of_hasItemAmong_eq_false scope rest free.2
    simp [definitionsAmong, first, others]

end

/-- What several trees define is defined by the one that fills a field or by the
others. -/
theorem mem_definitionsAmong_cases {scope : Scope} {trees : List Tree} (field : String)
    {definition : Definition} (defined : definition ∈ definitionsAmong source scope trees) :
    definition ∈ definitionsIn source field scope trees ∨
      definition ∈ definitionsAmong source scope (trees.eraseP (Tree.fills field)) := by
  induction trees with
  | nil => simp [definitionsAmong] at defined
  | cons tree rest hypothesis =>
    by_cases filled : tree.fills field = true
    · by_cases named : tree.mark.named = true
      · simpa [definitionsAmong, definitionsIn, filled, named] using defined
      · simp only [definitionsAmong, named, Bool.false_eq_true, if_false] at defined
        exact .inr (by simpa [List.eraseP_cons_of_pos filled] using defined)
    · rw [List.eraseP_cons_of_neg filled]
      by_cases named : tree.mark.named = true
      · simp only [definitionsAmong, named, if_true, List.mem_append] at defined
        rcases defined with first | later
        · exact .inr (by simp [definitionsAmong, named, first])
        · rcases hypothesis later with inField | outside
          · exact .inl (by simpa [definitionsIn, filled] using inField)
          · exact .inr (by simp [definitionsAmong, named, outside])
      · simp only [definitionsAmong, named, Bool.false_eq_true, if_false] at defined
        rcases hypothesis defined with inField | outside
        · exact .inl (by simpa [definitionsIn, filled] using inField)
        · exact .inr (by simpa [definitionsAmong, named] using outside)

end Definitions

/-- A type that is written as a plain name has that name. -/
theorem typeName_of_plain (source : Source) (target : Tree)
    (plain : target.rule = "type_identifier") : typeName source target = source.textOf target := by
  obtain ⟨mark, children⟩ := target
  have rule : mark.rule = "type_identifier" := plain
  simp [typeName, rule, innerField?, Source.textOf, Tree.mark]

mutual

/-- What an orderly tree defines is listed among its symbols. -/
theorem lists_visit (context : Context) (scope : Scope) (tree : Tree)
    (orderly : isOrderly tree = true) {definition : Definition}
    (defined : definition ∈ definitions context.source scope tree) :
    Lists (visit context scope tree) definition := by
  match tree with
  | .node mark children =>
    simp only [isOrderly, Bool.and_eq_true] at orderly
    obtain ⟨admitted, below⟩ := orderly
    unfold definitions at defined
    unfold visit
    cases form : Form.ofRule mark.rule with
    | inlineModule =>
      simp only [form] at defined ⊢
      cases name : context.source.fieldText? "name" children with
      | none => simp [name] at defined
      | some name' =>
        simp only [name] at defined
        exact lists_visitIn context "body" _ children below defined
    | structType =>
      have free : hasItemAmong children = false := by simpa [form, Form.admits] using admitted
      simp [form, definitionsAmong_of_hasItemAmong_eq_false _ scope children free] at defined
    | enumeration =>
      have free : hasItemAmong children = false := by simpa [form, Form.admits] using admitted
      simp [form, definitionsAmong_of_hasItemAmong_eq_false _ scope children free] at defined
    | trait =>
      simp only [form] at defined ⊢
      cases target : fieldChild? "name" children with
      | none => simp [target] at defined
      | some name =>
        -- The two recursions enter the body under one owner, since the name is plain.
        have plain : name.rule = "type_identifier" := by
          simpa [form, Form.admits, target] using admitted
        simp only [target, typeName_of_plain context.source name plain] at defined
        simp only [Source.fieldText?, target, Option.map_some]
        exact (lists_visitIn context "body" _ children below defined).mono
          (List.subset_cons_self _ _)
    | implementation =>
      simp only [form] at defined ⊢
      cases target : fieldChild? "type" children with
      | none => simp [target] at defined
      | some type =>
        simp only [target] at defined
        exact lists_visitIn context "body" _ children below defined
    | function =>
      simp only [form] at defined ⊢
      cases name : context.source.fieldText? "name" children with
      | none => simp [name] at defined
      | some name' =>
        simp only [name, List.mem_singleton] at defined
        exact .append_left ⟨_, List.mem_singleton_self _, rfl, defined.symm⟩
    | letBinding =>
      have free : hasItemAmong (children.eraseP (Tree.fills "value")) = false := by
        simpa [form, Form.admits] using admitted
      simp only [form] at defined ⊢
      rcases mem_definitionsAmong_cases _ "value" defined with inValue | outside
      · exact .append_right (lists_visitIn context "value" scope children below inValue)
      · simp [definitionsAmong_of_hasItemAmong_eq_false _ scope _ free] at outside
    | call =>
      simp only [form] at defined ⊢
      exact .append_right (lists_visitAmong context scope children below defined)
    | other =>
      simp only [form] at defined ⊢
      exact lists_visitAmong context scope children below defined

/-- What several orderly trees define is listed among their symbols. -/
theorem lists_visitAmong (context : Context) (scope : Scope) (trees : List Tree)
    (orderly : isOrderlyAmong trees = true) {definition : Definition}
    (defined : definition ∈ definitionsAmong context.source scope trees) :
    Lists (visitAmong context scope trees) definition := by
  match trees with
  | [] => simp [definitionsAmong] at defined
  | tree :: rest =>
    simp only [isOrderlyAmong, Bool.and_eq_true] at orderly
    unfold definitionsAmong at defined
    unfold visitAmong
    split at defined
    · rename_i named
      rw [if_pos named]
      rcases List.mem_append.1 defined with first | later
      · exact .append_left (lists_visit context scope tree orderly.1 first)
      · exact .append_right (lists_visitAmong context scope rest orderly.2 later)
    · rename_i unnamed
      rw [if_neg unnamed]
      exact lists_visitAmong context scope rest orderly.2 defined

/-- What the orderly tree in a field defines is listed among its symbols. -/
theorem lists_visitIn (context : Context) (field : String) (scope : Scope) (trees : List Tree)
    (orderly : isOrderlyAmong trees = true) {definition : Definition}
    (defined : definition ∈ definitionsIn context.source field scope trees) :
    Lists (visitIn context field scope trees) definition := by
  match trees with
  | [] => simp [definitionsIn] at defined
  | tree :: rest =>
    simp only [isOrderlyAmong, Bool.and_eq_true] at orderly
    unfold definitionsIn at defined
    unfold visitIn
    split at defined
    · rename_i filled
      rw [if_pos filled]
      exact lists_visit context scope tree orderly.1 defined
    · rename_i unfilled
      rw [if_neg unfilled]
      exact lists_visitIn context field scope rest orderly.2 defined

end

namespace Context

variable (context : Context)

/-- A text is the full path of a definition that calls are resolved against. -/
def Knows (target : String) : Prop :=
  ∃ definition ∈ context.definitions, definition.path = target

variable {context}

/-- The method that a name is resolved to is known. -/
theorem knows_of_method? {module : Option String} {owner name target : String}
    (resolved : context.method? module owner name = some target) : context.Knows target := by
  simp only [method?, Option.ite_none_right_eq_some, Option.some.injEq] at resolved
  exact ⟨.method (under module owner) name, by simpa using resolved.1, resolved.2⟩

/-- The function that a name is resolved to is known. -/
theorem knows_of_function? {module : Option String} {name target : String}
    (resolved : context.function? module name = some target) : context.Knows target := by
  simp only [function?, Option.ite_none_right_eq_some, Option.some.injEq] at resolved
  exact ⟨.function (under module name), by simpa using resolved.1, resolved.2⟩

/-- What a call through a path is resolved to is known. -/
theorem knows_of_scopedTarget? {scope : Scope} {path : Option String} {name target : String}
    (resolved : context.scopedTarget? scope path name = some target) : context.Knows target := by
  unfold scopedTarget? at resolved
  dsimp only at resolved
  cases owner : if path = some "Self" then scope.owner else path with
  | none => simp [owner] at resolved
  | some owner' =>
    simp only [owner] at resolved
    cases found : context.method? scope.module owner' name with
    | some method =>
      simp only [found, Option.some.injEq] at resolved
      exact knows_of_method? (resolved ▸ found)
    | none =>
      simp only [found] at resolved
      exact knows_of_function? resolved

/-- What a call on a value is resolved to is known. -/
theorem knows_of_selfTarget? {scope : Scope} {value : Option String} {name target : String}
    (resolved : context.selfTarget? scope value name = some target) : context.Knows target := by
  unfold selfTarget? at resolved
  cases owner : scope.owner with
  | none => simp [owner] at resolved
  | some owner' =>
    simp only [owner, Option.ite_none_right_eq_some] at resolved
    exact knows_of_method? resolved.2

variable (context)

mutual

/-- What a callee is resolved to is known, through any number of type arguments. -/
theorem knows_of_callee? (scope : Scope) (tree : Tree) {name target : String}
    (called : context.callee? scope tree = some (name, some target)) : context.Knows target := by
  match tree with
  | .node mark children =>
    unfold callee? at called
    split at called
    · simp only [Option.some.injEq, Prod.mk.injEq] at called
      exact knows_of_function? called.2
    · split at called
      · simp only [Option.map_eq_some_iff, Prod.mk.injEq] at called
        obtain ⟨_, _, _, resolved⟩ := called
        exact knows_of_scopedTarget? resolved
      · split at called
        · simp only [Option.map_eq_some_iff, Prod.mk.injEq] at called
          obtain ⟨_, _, _, resolved⟩ := called
          exact knows_of_selfTarget? resolved
        · split at called
          · exact knows_of_calleeIn? scope children called
          · simp at called

/-- What the callee among several trees is resolved to is known. -/
theorem knows_of_calleeIn? (scope : Scope) (trees : List Tree) {name target : String}
    (called : context.calleeIn? scope trees = some (name, some target)) :
    context.Knows target := by
  match trees with
  | [] => simp [calleeIn?] at called
  | tree :: rest =>
    unfold calleeIn? at called
    split at called
    · exact knows_of_callee? scope tree called
    · exact knows_of_calleeIn? scope rest called

end

/-- Every reference among symbols is to a known definition. -/
def Refers (symbols : List Symbol) : Prop :=
  ∀ symbol ∈ symbols, ∀ target, symbol.referenceTo = some target → context.Knows target

variable {context} {symbols others : List Symbol}

/-- Two lists of symbols refer as each of them does. -/
theorem Refers.append (first : context.Refers symbols) (second : context.Refers others) :
    context.Refers (symbols ++ others) := by
  intro symbol member
  rcases List.mem_append.1 member with left | right
  · exact first symbol left
  · exact second symbol right

/-- Symbols without references refer to nothing. -/
theorem refers_of_none (plain : ∀ symbol ∈ symbols, symbol.referenceTo = none) :
    context.Refers symbols := by
  intro symbol member target resolved
  simp [plain symbol member] at resolved

/-- The symbol of a call refers to a known definition. -/
theorem refers_callSymbols (scope : Scope) (mark : Mark) (children : List Tree) :
    context.Refers (context.callSymbols scope mark children) := by
  unfold callSymbols
  cases called : context.calleeIn? scope children with
  | none => exact refers_of_none (by simp)
  | some callee =>
    obtain ⟨name, resolution⟩ := callee
    intro symbol member target resolved
    obtain rfl := List.mem_singleton.1 member
    have found : resolution = some target := resolved
    exact knows_of_calleeIn? context scope children (found ▸ called)

/-- The symbols of fields refer to nothing. -/
theorem refers_fieldSymbols (scope : Scope) (owner : String) (body : Tree) :
    context.Refers (context.fieldSymbols scope owner body) := by
  apply refers_of_none
  intro symbol member
  obtain ⟨field, -, made⟩ := List.mem_filterMap.1 member
  simp only [Option.ite_none_right_eq_some, Option.map_eq_some_iff] at made
  obtain ⟨-, name, -, rfl⟩ := made
  rfl

/-- The symbol of a binding refers to nothing. -/
theorem refers_letSymbols (scope : Scope) (mark : Mark) (children : List Tree) :
    context.Refers (context.letSymbols scope mark children) := by
  apply refers_of_none
  intro symbol member
  unfold letSymbols at member
  split at member
  · split at member
    · obtain rfl := List.mem_singleton.1 member
      rfl
    · simp at member
  · simp at member

end Context

mutual

/-- The symbols of a tree refer to known definitions, whatever the tree. -/
theorem refers_visit (context : Context) (scope : Scope) (tree : Tree) :
    context.Refers (visit context scope tree) := by
  have single : ∀ mark kind owner name,
      context.Refers [context.symbol scope mark kind owner name] := by
    intro mark kind owner name
    exact Context.refers_of_none (by simp [Context.symbol])
  have nothing : context.Refers [] := Context.refers_of_none (by simp)
  match tree with
  | .node mark children =>
    unfold visit
    cases Form.ofRule mark.rule with
    | inlineModule =>
      cases context.source.fieldText? "name" children with
      | none => exact nothing
      | some name => exact refers_visitIn context "body" (scope.enter name) children
    | structType =>
      cases context.source.fieldText? "name" children with
      | none => exact nothing
      | some name =>
        refine (single mark .classLike none name).append ?_
        cases fieldChild? "body" children with
        | none => exact nothing
        | some body => exact Context.refers_fieldSymbols scope name body
    | enumeration =>
      cases context.source.fieldText? "name" children with
      | none => exact nothing
      | some name => exact single mark .classLike none name
    | trait =>
      cases context.source.fieldText? "name" children with
      | none => exact nothing
      | some name =>
        exact (single mark .interface none name).append
          (refers_visitIn context "body" (scope.within name) children)
    | implementation =>
      cases fieldChild? "type" children with
      | none => exact nothing
      | some target => exact refers_visitIn context "body" _ children
    | function =>
      refine Context.Refers.append ?_ (refers_visitIn context "body" scope children)
      cases context.source.fieldText? "name" children with
      | none => exact nothing
      | some name => exact single mark .method scope.owner name
    | letBinding =>
      exact (Context.refers_letSymbols scope mark children).append
        (refers_visitIn context "value" scope children)
    | call =>
      exact (Context.refers_callSymbols scope mark children).append
        (refers_visitAmong context scope children)
    | other => exact refers_visitAmong context scope children

/-- The symbols of several trees refer to known definitions. -/
theorem refers_visitAmong (context : Context) (scope : Scope) (trees : List Tree) :
    context.Refers (visitAmong context scope trees) := by
  match trees with
  | [] => exact Context.refers_of_none (by simp [visitAmong])
  | tree :: rest =>
    unfold visitAmong
    split
    · exact (refers_visit context scope tree).append (refers_visitAmong context scope rest)
    · exact refers_visitAmong context scope rest

/-- The symbols of the tree in a field refer to known definitions. -/
theorem refers_visitIn (context : Context) (field : String) (scope : Scope)
    (trees : List Tree) : context.Refers (visitIn context field scope trees) := by
  match trees with
  | [] => exact Context.refers_of_none (by simp [visitIn])
  | tree :: rest =>
    unfold visitIn
    split
    · exact refers_visit context scope tree
    · exact refers_visitIn context field scope rest

end

/-- In a file whose tree is orderly, whatever a symbol refers to is the full path of a
method among the symbols of the same file. -/
theorem referenceTo_listed (source : Source) (orderly : isOrderly source.tree = true)
    {reference : Symbol} (emitted : reference ∈ symbols source) {target : String}
    (resolved : reference.referenceTo = some target) :
    ∃ method ∈ symbols source, method.kind = .method ∧ fullPath method = target := by
  let scope : Scope := { module := modulePath? source.relative }
  let context : Context := ⟨source, definitions source scope source.tree⟩
  obtain ⟨definition, known, path⟩ :=
    refers_visit context scope source.tree reference emitted target resolved
  obtain ⟨method, listed, isMethod, same⟩ :=
    lists_visit context scope source.tree orderly known
  refine ⟨method, listed, isMethod, ?_⟩
  rw [← Definition.path_ofSymbol, same, path]

/-- A call through `Self` in a binding, inside a generic implementation inside an inline
module of a file in a module: four parts of a path, each found by both recursions. -/
theorem referenceTo_listed_nested :
    let node := fun (rule : String) (field : String) (start stop : Nat) children =>
      Tree.node { rule := rule, fields := [field], start := start, stop := stop } children
    let call := node "call_expression" "value" 32 41
      [ node "scoped_identifier" "function" 32 39
          [node "identifier" "path" 32 36 [], node "identifier" "name" 38 39 []]
      , node "arguments" "arguments" 39 41 [] ]
    let function := node "function_item" "" 19 43
      [ node "identifier" "name" 22 23 []
      , node "block" "body" 25 43
          [node "let_declaration" "" 26 42 [node "identifier" "pattern" 30 31 [], call]] ]
    let implementation := node "impl_item" "" 6 44
      [ node "generic_type" "type" 14 18
          [node "type_identifier" "type" 14 15 [], node "type_arguments" "" 15 18 []]
      , node "declaration_list" "body" 18 44 [function] ]
    let module := node "mod_item" "" 0 45
      [node "identifier" "name" 4 5 [], node "declaration_list" "body" 5 45 [implementation]]
    let source : Source :=
      { relative := "src/geometry.rs"
        text := "mod m{impl<T> A<T>{fn f(){let x=Self::f();}}}".toList
        tree := node "source_file" "" 0 45 [module] }
    isOrderly source.tree = true ∧
      ∃ reference ∈ symbols source, reference.referenceTo = some "geometry::m::A::f" ∧
        ∃ method ∈ symbols source, method.kind = .method ∧
          fullPath method = "geometry::m::A::f" := by
  intro node call function implementation module source
  have orderly : isOrderly source.tree = true := by decide +kernel
  obtain ⟨reference, emitted, resolved⟩ :
      ∃ reference ∈ symbols source, reference.referenceTo = some "geometry::m::A::f" := by
    decide +kernel
  exact ⟨orderly, reference, emitted, resolved,
    referenceTo_listed source orderly emitted resolved⟩

end SymbolAtlas.Rust
