import SymbolAtlas.Extract.PythonSymbols

/-!
# Calls in Python files refer to definitions of the file

Two recursions run over a tree. One gathers the definitions that calls are resolved
against, the other lists the symbols. Each threads the innermost class and whether a
function has been entered since on its own, and they part at assignments: the first
enters all parts of one, the second only the target, which is no place for symbols of
definitions, and the value. A definition beside the value would be known without being
listed, and a call could then refer to nothing in the index.

`isOrderly` says that no definition stands there. In such a tree whatever is defined is
listed as a class, function or method, so every resolved call refers to a symbol of the
same list.
-/

namespace SymbolAtlas.Python

/-- Whether nodes of this form define something. -/
def Form.isDefinition : Form → Bool
  | .classDefinition | .functionDefinition => true
  | _ => false

mutual

/-- Whether a definition stands at or below a node. -/
def hasDefinition : Tree → Bool
  | .node mark children => (Form.ofRule mark.rule).isDefinition || hasDefinitionAmong children

/-- Whether a definition stands at or below one of several nodes. -/
def hasDefinitionAmong : List Tree → Bool
  | [] => false
  | tree :: rest => hasDefinition tree || hasDefinitionAmong rest

end

/-- Whether a node of this form may have these children: an assignment has definitions
in its value only. -/
def Form.admits (children : List Tree) : Form → Bool
  | .assignment => !hasDefinitionAmong (children.eraseP (Tree.fills "right"))
  | _ => true

mutual

/-- Whether every node at or below this one may have the children it has. -/
def isOrderly : Tree → Bool
  | .node mark children => (Form.ofRule mark.rule).admits children && isOrderlyAmong children

/-- Whether every node at or below several ones may have the children it has. -/
def isOrderlyAmong : List Tree → Bool
  | [] => true
  | tree :: rest => isOrderly tree && isOrderlyAmong rest

end

/-- The names by which a call reaches a definition, behind the package of the file. -/
def Definition.path : Definition → List String
  | .function name => [name]
  | .type name => [name]
  | .method owner name => [owner, name]

/-- A symbol is that of a definition: a class whatever it lies in, a function outside of
all classes, or a method of its innermost class. -/
inductive Introduces (symbol : Symbol) : Definition → Prop where
  | type (kind : symbol.kind = .classLike) : Introduces symbol (.type symbol.name)
  | function (kind : symbol.kind = .method) (free : symbol.className = none) :
      Introduces symbol (.function symbol.name)
  | method {owner : String} (kind : symbol.kind = .method)
      (owned : symbol.className = some owner) : Introduces symbol (.method owner symbol.name)

/-- A definition is listed among symbols. -/
def Lists (symbols : List Symbol) (definition : Definition) : Prop :=
  ∃ symbol ∈ symbols, Introduces symbol definition

namespace Lists

variable {symbols others : List Symbol} {definition : Definition}

/-- More symbols list no less. -/
theorem mono (listed : Lists symbols definition) (within : symbols ⊆ others) :
    Lists others definition := by
  obtain ⟨symbol, member, introduces⟩ := listed
  exact ⟨symbol, within member, introduces⟩

theorem append_left (listed : Lists symbols definition) : Lists (symbols ++ others) definition :=
  listed.mono (List.subset_append_left symbols others)

theorem append_right (listed : Lists others definition) : Lists (symbols ++ others) definition :=
  listed.mono (List.subset_append_right symbols others)

end Lists

section Definitions

variable (source : Source) (owner : Option String) (inFunction : Bool)

mutual

/-- A tree without definitions defines nothing. -/
theorem definitions_of_hasDefinition_eq_false (tree : Tree)
    (free : hasDefinition tree = false) : definitions source owner inFunction tree = [] := by
  match tree with
  | .node mark children =>
    simp only [hasDefinition, Bool.or_eq_false_iff] at free
    have below := definitionsAmong_of_hasDefinitionAmong_eq_false children free.2
    cases form : Form.ofRule mark.rule <;> simp_all [definitions, Form.isDefinition]

/-- Several trees without definitions define nothing. -/
theorem definitionsAmong_of_hasDefinitionAmong_eq_false (trees : List Tree)
    (free : hasDefinitionAmong trees = false) :
    definitionsAmong source owner inFunction trees = [] := by
  match trees with
  | [] => rfl
  | tree :: rest =>
    simp only [hasDefinitionAmong, Bool.or_eq_false_iff] at free
    have first := definitions_of_hasDefinition_eq_false tree free.1
    have others := definitionsAmong_of_hasDefinitionAmong_eq_false rest free.2
    simp [definitionsAmong, first, others]

end

/-- What several trees define is defined by the one that fills a field or by the
others. -/
theorem mem_definitionsAmong_cases {trees : List Tree} (field : String)
    {definition : Definition}
    (defined : definition ∈ definitionsAmong source owner inFunction trees) :
    definition ∈ definitionsIn source field owner inFunction trees ∨
      definition ∈ definitionsAmong source owner inFunction
        (trees.eraseP (Tree.fills field)) := by
  induction trees with
  | nil => simp [definitionsAmong] at defined
  | cons tree rest hypothesis =>
    by_cases filled : tree.fills field = true
    · by_cases named : tree.mark.named = true
      · simpa [definitionsAmong, definitionsIn, filled, named] using defined
      · simp only [definitionsAmong, named, Bool.false_eq_true, if_false] at defined
        exact .inr (by simpa [List.eraseP_cons_of_pos filled] using defined)
    · rw [List.eraseP_cons_of_neg filled]
      by_cases named : tree.mark.named = true
      · simp only [definitionsAmong, named, if_true, List.mem_append] at defined
        rcases defined with first | later
        · exact .inr (by simp [definitionsAmong, named, first])
        · rcases hypothesis later with inField | outside
          · exact .inl (by simpa [definitionsIn, filled] using inField)
          · exact .inr (by simp [definitionsAmong, named, outside])
      · simp only [definitionsAmong, named, Bool.false_eq_true, if_false] at defined
        rcases hypothesis defined with inField | outside
        · exact .inl (by simpa [definitionsIn, filled] using inField)
        · exact .inr (by simpa [definitionsAmong, named] using outside)

end Definitions

mutual

/-- What an orderly tree defines is listed among its symbols. -/
theorem lists_visit (context : Context) (scope : Scope) (tree : Tree)
    (orderly : isOrderly tree = true) {definition : Definition}
    (defined : definition ∈ definitions context.source scope.owner scope.inFunction tree) :
    Lists (visit context scope tree) definition := by
  match tree with
  | .node mark children =>
    simp only [isOrderly, Bool.and_eq_true] at orderly
    obtain ⟨admitted, below⟩ := orderly
    unfold definitions at defined
    unfold visit
    cases form : Form.ofRule mark.rule with
    | classDefinition =>
      simp only [form] at defined ⊢
      cases name : context.source.fieldText? "name" children with
      | none => simp [name] at defined
      | some name' =>
        simp only [name, List.mem_cons] at defined
        rcases defined with rfl | inBody
        · exact ⟨_, List.mem_cons_self, .type rfl⟩
        · exact (lists_visitIn context "body" ⟨some name', false⟩ children below inBody).mono
            (List.subset_cons_self _ _)
    | functionDefinition =>
      simp only [form, List.mem_append] at defined ⊢
      rcases defined with own | inBody
      · -- Only a function outside of functions is defined, and every function is listed.
        refine .append_left ?_
        cases inside : scope.inFunction with
        | true => simp [inside] at own
        | false =>
          cases name : context.source.fieldText? "name" children with
          | none => simp [inside, name] at own
          | some name' =>
            cases around : scope.owner with
            | none =>
              simp only [inside, name, around, List.mem_singleton] at own
              exact own ▸ ⟨_, List.mem_singleton_self _, .function rfl around⟩
            | some owner =>
              simp only [inside, name, around, List.mem_singleton] at own
              exact own ▸ ⟨_, List.mem_singleton_self _, .method rfl around⟩
      · exact .append_right (lists_visitIn context "body" ⟨scope.owner, true⟩ children below inBody)
    | assignment =>
      have free : hasDefinitionAmong (children.eraseP (Tree.fills "right")) = false := by
        simpa [form, Form.admits] using admitted
      simp only [form] at defined ⊢
      rcases mem_definitionsAmong_cases _ _ _ "right" defined with inValue | outside
      · exact .append_right (lists_visitIn context "right" scope children below inValue)
      · simp [definitionsAmong_of_hasDefinitionAmong_eq_false _ _ _ _ free] at outside
    | call =>
      simp only [form] at defined ⊢
      exact .append_right (lists_visitAmong context scope children below defined)
    | _ =>
      simp only [form] at defined ⊢
      exact lists_visitAmong context scope children below defined

/-- What several orderly trees define is listed among their symbols. -/
theorem lists_visitAmong (context : Context) (scope : Scope) (trees : List Tree)
    (orderly : isOrderlyAmong trees = true) {definition : Definition}
    (defined : definition ∈
      definitionsAmong context.source scope.owner scope.inFunction trees) :
    Lists (visitAmong context scope trees) definition := by
  match trees with
  | [] => simp [definitionsAmong] at defined
  | tree :: rest =>
    simp only [isOrderlyAmong, Bool.and_eq_true] at orderly
    unfold definitionsAmong at defined
    unfold visitAmong
    split at defined
    · rename_i named
      rw [if_pos named]
      rcases List.mem_append.1 defined with first | later
      · exact .append_left (lists_visit context scope tree orderly.1 first)
      · exact .append_right (lists_visitAmong context scope rest orderly.2 later)
    · rename_i unnamed
      rw [if_neg unnamed]
      exact lists_visitAmong context scope rest orderly.2 defined

/-- What the orderly tree in a field defines is listed among its symbols. -/
theorem lists_visitIn (context : Context) (field : String) (scope : Scope) (trees : List Tree)
    (orderly : isOrderlyAmong trees = true) {definition : Definition}
    (defined : definition ∈
      definitionsIn context.source field scope.owner scope.inFunction trees) :
    Lists (visitIn context field scope trees) definition := by
  match trees with
  | [] => simp [definitionsIn] at defined
  | tree :: rest =>
    simp only [isOrderlyAmong, Bool.and_eq_true] at orderly
    unfold definitionsIn at defined
    unfold visitIn
    split at defined
    · rename_i filled
      rw [if_pos filled]
      exact lists_visit context scope tree orderly.1 defined
    · rename_i unfilled
      rw [if_neg unfilled]
      exact lists_visitIn context field scope rest orderly.2 defined

end

namespace Context

variable (context : Context)

/-- A text is the full name of a definition that calls are resolved against. -/
def Knows (target : String) : Prop :=
  ∃ definition ∈ context.definitions,
    target = ".".intercalate (context.package.toList ++ definition.path)

variable {context}

/-- A name behind the package, and an owner where there is one, is the full name of what
it stands for. -/
theorem knows_qualify {definition : Definition} (defined : definition ∈ context.definitions)
    {name : String} (named : ".".intercalate definition.path = name) :
    context.Knows (context.qualify name) := by
  refine ⟨definition, defined, ?_⟩
  subst named
  unfold qualify
  cases context.package <;> cases definition <;>
    simp [Definition.path, String.intercalate_cons_cons, String.append_assoc]

/-- What a call by plain name is resolved to is known. -/
theorem knows_of_functionTarget? {name target : String}
    (resolved : context.functionTarget? name = some target) : context.Knows target := by
  simp only [functionTarget?, Option.ite_none_right_eq_some, Option.some.injEq,
    Bool.or_eq_true, List.contains_iff_mem] at resolved
  obtain ⟨isFunction | isType, rfl⟩ := resolved
  · exact knows_qualify isFunction (by simp [Definition.path])
  · exact knows_qualify isType (by simp [Definition.path])

/-- What a call of a method on a receiver is resolved to is known. -/
theorem knows_of_methodTarget? {scope : Scope} {receiver : Option Tree} {name target : String}
    (resolved : context.methodTarget? scope receiver name = some target) :
    context.Knows target := by
  unfold methodTarget? at resolved
  dsimp only at resolved
  split at resolved
  · rename_i owner _
    simp only [Option.ite_none_right_eq_some, Option.some.injEq, List.contains_iff_mem]
      at resolved
    obtain ⟨isMethod, rfl⟩ := resolved
    exact knows_qualify isMethod
      (by simp [Definition.path, String.intercalate_cons_cons, String.append_assoc])
  · simp at resolved

/-- What a callee is resolved to is known. -/
theorem knows_of_callee? {scope : Scope} {callee : Tree} {name target : String}
    (called : context.callee? scope callee = some (name, some target)) :
    context.Knows target := by
  unfold callee? at called
  split at called
  · simp only [Option.some.injEq, Prod.mk.injEq] at called
    exact knows_of_functionTarget? called.2
  · split at called
    · simp only [Option.some.injEq, Prod.mk.injEq] at called
      exact knows_of_methodTarget? called.2
    · simp at called
  · simp at called

variable (context)

/-- Every reference among symbols is to a known definition. -/
def Refers (symbols : List Symbol) : Prop :=
  ∀ symbol ∈ symbols, ∀ target, symbol.referenceTo = some target → context.Knows target

variable {context} {symbols others : List Symbol}

/-- Two lists of symbols refer as each of them does. -/
theorem Refers.append (first : context.Refers symbols) (second : context.Refers others) :
    context.Refers (symbols ++ others) := by
  intro symbol member
  rcases List.mem_append.1 member with left | right
  · exact first symbol left
  · exact second symbol right

/-- Symbols without references refer to nothing. -/
theorem refers_of_none (plain : ∀ symbol ∈ symbols, symbol.referenceTo = none) :
    context.Refers symbols := by
  intro symbol member target resolved
  simp [plain symbol member] at resolved

/-- The symbol of a call refers to a known definition. -/
theorem refers_callSymbols (scope : Scope) (mark : Mark) (children : List Tree) :
    context.Refers (context.callSymbols scope mark children) := by
  unfold callSymbols
  cases called : (fieldChild? "function" children).bind (context.callee? scope) with
  | none => exact refers_of_none (by simp)
  | some callee =>
    obtain ⟨name, resolution⟩ := callee
    obtain ⟨tree, -, found⟩ := Option.bind_eq_some_iff.1 called
    intro symbol member target resolved
    obtain rfl := List.mem_singleton.1 member
    have same : resolution = some target := resolved
    exact knows_of_callee? (same ▸ found)

end Context

mutual

/-- The symbols of a target refer to nothing. -/
theorem referenceTo_targetSymbols (context : Context) (scope : Scope) (assignment : Mark)
    (tree : Tree) : ∀ symbol ∈ targetSymbols context scope assignment tree,
      symbol.referenceTo = none := by
  match tree with
  | .node mark children =>
    intro symbol member
    unfold targetSymbols at member
    split at member
    · obtain rfl := List.mem_singleton.1 member
      rfl
    · split at member
      · split at member
        · obtain rfl := List.mem_singleton.1 member
          rfl
        · simp at member
      · simp at member
    · exact referenceTo_targetSymbolsAmong context scope assignment children symbol member
    · simp at member

/-- The symbols of several targets refer to nothing. -/
theorem referenceTo_targetSymbolsAmong (context : Context) (scope : Scope) (assignment : Mark)
    (trees : List Tree) : ∀ symbol ∈ targetSymbolsAmong context scope assignment trees,
      symbol.referenceTo = none := by
  match trees with
  | [] => simp [targetSymbolsAmong]
  | tree :: rest =>
    intro symbol member
    unfold targetSymbolsAmong at member
    split at member
    · rcases List.mem_append.1 member with first | later
      · exact referenceTo_targetSymbols context scope assignment tree symbol first
      · exact referenceTo_targetSymbolsAmong context scope assignment rest symbol later
    · exact referenceTo_targetSymbolsAmong context scope assignment rest symbol member

end

mutual

/-- The symbols of a tree refer to known definitions, whatever the tree. -/
theorem refers_visit (context : Context) (scope : Scope) (tree : Tree) :
    context.Refers (visit context scope tree) := by
  have single : ∀ mark kind name, context.Refers [context.symbol scope mark kind name] := by
    intro mark kind name
    exact Context.refers_of_none (by simp [Context.symbol])
  have nothing : context.Refers [] := Context.refers_of_none (by simp)
  match tree with
  | .node mark children =>
    unfold visit
    cases Form.ofRule mark.rule with
    | classDefinition =>
      cases context.source.fieldText? "name" children with
      | none => exact nothing
      | some name =>
        exact (single mark .classLike name).append
          (refers_visitIn context "body" ⟨some name, false⟩ children)
    | functionDefinition =>
      refine Context.Refers.append ?_ (refers_visitIn context "body" ⟨scope.owner, true⟩ children)
      cases context.source.fieldText? "name" children with
      | none => exact nothing
      | some name => exact single mark .method name
    | assignment =>
      refine Context.Refers.append ?_ (refers_visitIn context "right" scope children)
      cases fieldChild? "left" children with
      | none => exact nothing
      | some left =>
        exact Context.refers_of_none (referenceTo_targetSymbols context scope mark left)
    | call =>
      exact (Context.refers_callSymbols scope mark children).append
        (refers_visitAmong context scope children)
    | _ =>
      exact refers_visitAmong context scope children

/-- The symbols of several trees refer to known definitions. -/
theorem refers_visitAmong (context : Context) (scope : Scope) (trees : List Tree) :
    context.Refers (visitAmong context scope trees) := by
  match trees with
  | [] => exact Context.refers_of_none (by simp [visitAmong])
  | tree :: rest =>
    unfold visitAmong
    split
    · exact (refers_visit context scope tree).append (refers_visitAmong context scope rest)
    · exact refers_visitAmong context scope rest

/-- The symbols of the tree in a field refer to known definitions. -/
theorem refers_visitIn (context : Context) (field : String) (scope : Scope)
    (trees : List Tree) : context.Refers (visitIn context field scope trees) := by
  match trees with
  | [] => exact Context.refers_of_none (by simp [visitIn])
  | tree :: rest =>
    unfold visitIn
    split
    · exact refers_visit context scope tree
    · exact refers_visitIn context field scope rest

end

/-- In a file whose tree is orderly, whatever a symbol refers to is, behind the package of
the file, the name of a class or of a function outside of classes, or the class and name
of a method, with a symbol in the same list. -/
theorem referenceTo_introduced (source : Source) (orderly : isOrderly source.tree = true)
    {reference : Symbol} (emitted : reference ∈ symbols source) {target : String}
    (resolved : reference.referenceTo = some target) :
    ∃ symbol ∈ symbols source, ∃ definition, Introduces symbol definition ∧
      target = ".".intercalate ((moduleName? source.relative).toList ++ definition.path) := by
  let context : Context :=
    ⟨source, moduleName? source.relative, definitions source none false source.tree⟩
  obtain ⟨definition, known, named⟩ :=
    refers_visit context {} source.tree reference emitted target resolved
  obtain ⟨symbol, listed, introduces⟩ := lists_visit context {} source.tree orderly known
  exact ⟨symbol, listed, definition, introduces, named⟩

/-- A call on `self` in a function inside a method of a class inside a function: the class
is found through all of them, and its method is listed although a function is around. -/
theorem referenceTo_introduced_nested :
    let node := fun (rule field : String) (start stop : Nat) children =>
      Tree.node { rule := rule, fields := [field], start := start, stop := stop } children
    let call := node "call" "" 46 54
      [ node "attribute" "function" 46 52
          [node "identifier" "object" 46 50 [], node "identifier" "attribute" 51 52 []]
      , node "argument_list" "arguments" 52 54 [] ]
    let inner := node "function_definition" "" 37 54
      [ node "identifier" "name" 41 42 []
      , node "block" "body" 46 54 [node "expression_statement" "" 46 54 [call]] ]
    let method := node "function_definition" "" 21 54
      [node "identifier" "name" 25 26 [], node "block" "body" 37 54 [inner]]
    let type := node "class_definition" "" 10 54
      [node "identifier" "name" 16 17 [], node "block" "body" 21 54 [method]]
    let outer := node "function_definition" "" 0 54
      [node "identifier" "name" 4 5 [], node "block" "body" 10 54 [type]]
    let source : Source :=
      { relative := "shapes/area.py"
        text := "def f():\n class A:\n  def g(self):\n   def h(): self.g()".toList
        tree := node "module" "" 0 54 [outer] }
    isOrderly source.tree = true ∧
      ∃ reference ∈ symbols source, reference.referenceTo = some "shapes.area.A.g" ∧
        ∃ symbol ∈ symbols source, ∃ definition, Introduces symbol definition ∧
          "shapes.area.A.g" =
            ".".intercalate ((moduleName? source.relative).toList ++ definition.path) := by
  intro node call inner method type outer source
  have orderly : isOrderly source.tree = true := by decide +kernel
  obtain ⟨reference, emitted, resolved⟩ :
      ∃ reference ∈ symbols source, reference.referenceTo = some "shapes.area.A.g" := by
    decide +kernel
  exact ⟨orderly, reference, emitted, resolved,
    referenceTo_introduced source orderly emitted resolved⟩

end SymbolAtlas.Python
