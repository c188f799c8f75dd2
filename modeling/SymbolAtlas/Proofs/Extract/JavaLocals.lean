import SymbolAtlas.Proofs.Extract.JavaScopes

/-!
# Variables that outlive their blocks in Java files

A variable stays known behind the block, loop or handler that declares it, and a later use of a
field of the same name is taken for the variable.

`uses` goes the same way as the visit and gives at each used name the variables declared so far, and
those of them whose scope is still open. The symbols of the file follow the first, and a use has the
symbols that the second would give it just when no variable of its name has been left behind.
-/

namespace SymbolAtlas.Java

/-- The variable that a loop over a collection or a resource declares. -/
def loopNames (source : Source) (children : List Tree) : List String :=
  (loopVariables source children).map Prod.fst

/-- Appending keeps inclusion on both sides. -/
theorem append_subset_append {α : Type} {front behind front' behind' : List α}
    (first : front ⊆ front') (second : behind ⊆ behind') : front ++ behind ⊆ front' ++ behind' :=
  List.append_subset.2
    ⟨List.subset_append_of_subset_left _ first, List.subset_append_of_subset_right _ second⟩

mutual

/-- What is left where scopes end is left where they do not. -/
theorem leftBy_subset (source : Source) (ends : String → Bool) (tree : Tree) :
    leftBy source ends tree ⊆ leftBy source endsNothing tree := by
  match tree with
  | .node mark children =>
    unfold leftBy
    by_cases closed : (ends mark.rule || isClosed mark.rule) = true
    · rw [if_pos closed]
      exact List.nil_subset _
    have kept : ¬(endsNothing mark.rule || isClosed mark.rule) = true :=
      fun none => closed (by simp_all [endsNothing])
    rw [if_neg closed, if_neg kept]
    split
    · exact leftByDeclarators_subset source ends _ children
    split
    · exact leftByDeclarators_subset source ends _ children
    split
    · exact append_subset_append (leftByAmong_subset source ends children) (List.Subset.refl _)
    split
    · exact List.Subset.refl _
    · exact leftByAmong_subset source ends children
termination_by structural tree

/-- What several trees leave where scopes end is left where they do not. -/
theorem leftByAmong_subset (source : Source) (ends : String → Bool) (trees : List Tree) :
    leftByAmong source ends trees ⊆ leftByAmong source endsNothing trees := by
  match trees with
  | [] => exact List.Subset.refl _
  | tree :: rest =>
    unfold leftByAmong
    split
    · exact append_subset_append (leftByAmong_subset source ends rest)
        (leftBy_subset source ends tree)
    · exact leftByAmong_subset source ends rest
termination_by structural trees

/-- What the tree in a field leaves where scopes end is left where they do not. -/
theorem leftByIn_subset (source : Source) (ends : String → Bool) (field : String)
    (trees : List Tree) :
    leftByIn source ends field trees ⊆ leftByIn source endsNothing field trees := by
  match trees with
  | [] => exact List.Subset.refl _
  | tree :: rest =>
    unfold leftByIn
    split
    · exact leftBy_subset source ends tree
    · exact leftByIn_subset source ends field rest
termination_by structural trees

/-- What declarators leave where scopes end is left where they do not. -/
theorem leftByDeclarators_subset (source : Source) (ends : String → Bool)
    (written? : Option String) (trees : List Tree) :
    leftByDeclarators source ends written? trees ⊆
      leftByDeclarators source endsNothing written? trees := by
  match trees with
  | [] => exact List.Subset.refl _
  | .node mark children :: rest =>
    unfold leftByDeclarators
    split
    · split
      · exact leftByDeclarators_subset source ends written? rest
      · exact append_subset_append (leftByDeclarators_subset source ends written? rest)
          (append_subset_append (leftByIn_subset source ends "value" children)
            (List.Subset.refl _))
    · exact leftByDeclarators_subset source ends written? rest
termination_by structural trees

end

/-- What is known where a name is used: the innermost type, the variables declared so far, and
those of them whose scope is still open. -/
structure Bound where
  enclosing : Option Enclosing := none
  declared : List String := []
  inScope : List String := []
  within : inScope ⊆ declared := by exact List.Subset.refl _

namespace Bound

/-- More variables have been declared, and some of them are in scope. -/
def extend (bound : Bound) (declared inScope : List String) (within : inScope ⊆ declared) :
    Bound where
  enclosing := bound.enclosing
  declared := declared ++ bound.declared
  inScope := inScope ++ bound.inScope
  within := append_subset_append within bound.within

/-- More variables are in scope. -/
def declare (bound : Bound) (names : List String) : Bound :=
  bound.extend names names (List.Subset.refl _)

/-- What is known behind a tree. -/
def after (source : Source) (bound : Bound) (tree : Tree) : Bound :=
  bound.extend ((leftBy source endsNothing tree).map Prod.fst)
    ((leftBy source endsScope tree).map Prod.fst)
    (List.map_subset _ (leftBy_subset source endsScope tree))

/-- What is known behind the initial value of a variable. -/
def afterValue (source : Source) (bound : Bound) (children : List Tree) : Bound :=
  bound.extend ((leftByIn source endsNothing "value" children).map Prod.fst)
    ((leftByIn source endsScope "value" children).map Prod.fst)
    (List.map_subset _ (leftByIn_subset source endsScope "value" children))

/-- What is known at the start of a type. -/
def inside (context : Context) (bound : Bound) (simple : String) : Bound where
  enclosing := some ⟨simple,
    under (bound.enclosing.map Enclosing.qualified <|> context.imports.package) simple⟩

/-- What is known at the start of a method or constructor. -/
def insideCallable (source : Source) (bound : Bound) (children : List Tree) : Bound :=
  let names := (parameters source children).map Prod.fst
  { enclosing := bound.enclosing, declared := names, inScope := names }

end Bound

/-- An identifier that uses a variable or field. -/
structure Use where
  mark : Mark
  bound : Bound

/-- The use that an identifier below a parent is, if it is one. -/
def usesOfIdentifier (parent : Option String) (bound : Bound) (mark : Mark) : List Use :=
  match parent with
  | none => []
  | some parent => if isDeclaredName parent mark then [] else [⟨mark, bound⟩]

mutual

/-- The used names of a tree below a parent. -/
def uses (context : Context) (parent : Option String) (bound : Bound) : Tree → List Use
  | .node mark children =>
    match Form.ofRule mark.rule with
    | .preamble | .catchParameter => []
    | .typeDeclaration =>
      match context.source.fieldText? "name" children with
      | none => []
      | some simple => usesIn context mark.rule "body" (bound.inside context simple) children
    | .callable =>
      match context.source.fieldText? "name" children with
      | none => []
      | some _ =>
        usesIn context mark.rule "body" (bound.insideCallable context.source children) children
    | .fieldDeclaration => usesOfDeclarators context .field bound children
    | .localDeclaration => usesOfDeclarators context .binding bound children
    | .loopOrResource =>
      usesAmong context mark.rule (bound.declare (loopNames context.source children)) children
    | .identifier => usesOfIdentifier parent bound mark
    | .enumConstant | .invocation | .other => usesAmong context mark.rule bound children
termination_by structural tree => tree

/-- The used names of the named trees among several. -/
def usesAmong (context : Context) (parent : String) (bound : Bound) : List Tree → List Use
  | [] => []
  | tree :: rest =>
    if tree.mark.named then
      uses context (some parent) bound tree ++
        usesAmong context parent (bound.after context.source tree) rest
    else usesAmong context parent bound rest
termination_by structural trees => trees

/-- The used names of the tree in a field. -/
def usesIn (context : Context) (parent field : String) (bound : Bound) : List Tree → List Use
  | [] => []
  | tree :: rest =>
    if tree.fills field then uses context (some parent) bound tree
    else usesIn context parent field bound rest
termination_by structural trees => trees

/-- The used names of the initial values among several declarators. -/
def usesOfDeclarators (context : Context) (kind : Kind) (bound : Bound) : List Tree → List Use
  | [] => []
  | .node mark children :: rest =>
    if mark.named && mark.rule = "variable_declarator" then
      match context.source.fieldText? "name" children with
      | none => usesOfDeclarators context kind bound rest
      | some name =>
        let declared := if kind = .binding then bound.declare [name] else bound
        usesIn context mark.rule "value" declared children ++
          usesOfDeclarators context kind (declared.afterValue context.source children) rest
    else usesOfDeclarators context kind bound rest
termination_by structural trees => trees

end

namespace Use

/-- The used name. -/
def name (context : Context) (use : Use) : String :=
  String.ofList (context.source.charsOf use.mark)

/-- What the name refers to when these are the variables: a variable, or else a field of the
innermost type or of its superclasses. -/
def target? (context : Context) (use : Use) (names : List String) : Option String :=
  if use.name context ∈ names then some (use.name context)
  else (use.bound.enclosing.bind fun type =>
      context.resolver.fieldOwner? type.qualified (use.name context)).map
    fun (declaring, _) => under (some declaring) (use.name context)

/-- The symbols of the use when these are the variables. -/
def symbols (context : Context) (use : Use) (names : List String) : List Symbol :=
  match use.target? context names with
  | none => []
  | some target =>
    [{ context.symbol (use.bound.enclosing.map Enclosing.simple) use.mark .reference
        (use.name context) (use.name context) with referenceTo := some target }]

end Use

/-- A known scope and the variables declared so far in it. -/
structure Bound.Agrees (bound : Bound) (scope : Scope) : Prop where
  enclosing : scope.enclosing = bound.enclosing
  has (name : String) : scope.locals.has name = true ↔ name ∈ bound.declared

namespace Bound.Agrees

variable {bound : Bound} {scope : Scope} {context : Context}

/-- Variables that are declared on both sides keep the agreement. -/
theorem extend (agrees : bound.Agrees scope) {later : Scope} {declared : Dict String}
    {inScope : List String} (within : inScope ⊆ declared.map Prod.fst)
    (same : later.enclosing = scope.enclosing)
    (left : ∀ name, later.locals.get? name =
      (declared.get? name).or (scope.locals.get? name)) :
    (bound.extend (declared.map Prod.fst) inScope within).Agrees later where
  enclosing := same.trans agrees.enclosing
  has name := by
    rw [Bound.extend, List.mem_append, ← agrees.has, ← Dict.has_iff_mem_keys]
    simp only [Dict.has, left, Option.isSome_or, Bool.or_eq_true]

/-- Behind a tree. -/
theorem after (agrees : bound.Agrees scope) (parent : Option String) (tree : Tree) :
    (bound.after context.source tree).Agrees (visit context parent scope tree).1 :=
  agrees.extend _ (enclosing_visit context parent scope tree)
    (get?_visit context parent scope tree)

/-- Behind the initial value of a variable. -/
theorem afterValue (agrees : bound.Agrees scope) (parent : String) (children : List Tree) :
    (bound.afterValue context.source children).Agrees
      (visitIn context parent "value" scope children).1 :=
  agrees.extend _ (enclosing_visitIn context parent "value" scope children)
    (get?_visitIn context parent "value" scope children)

/-- Behind the variable of a loop or resource. -/
theorem loop (agrees : bound.Agrees scope) (children : List Tree) :
    (bound.declare (loopNames context.source children)).Agrees
      (context.loopScope scope children) :=
  agrees.extend _ (context.enclosing_loopScope scope children)
    (get?_loopScope context scope children)

/-- Behind the name of a declared variable, which is in scope if it is a local one. -/
theorem declarator (agrees : bound.Agrees scope) (kind : Kind) (name written : String) :
    (if kind = .binding then bound.declare [name] else bound).Agrees
      (if kind = .binding then scope.declare name written else scope) := by
  split
  · have own (other : String) : (scope.declare name written).locals.get? other =
        (Dict.get? [(name, written)] other).or (scope.locals.get? other) :=
      Dict.get?_put_eq_or ..
    exact Bound.Agrees.extend agrees (List.Subset.refl ([(name, written)].map Prod.fst)) rfl own
  · exact agrees

/-- At the start of a type. -/
theorem inside (agrees : bound.Agrees scope) (simple : String) :
    (bound.inside context simple).Agrees (context.inside scope simple) where
  enclosing := by rw [Context.inside, Bound.inside, Scope.qualified, agrees.enclosing]
  has name := by simp [Context.inside, Bound.inside, Dict.has, Dict.get?]

/-- At the start of a method or constructor. -/
theorem insideCallable (agrees : bound.Agrees scope) (children : List Tree) :
    (bound.insideCallable context.source children).Agrees
      (context.callableScope scope children) where
  enclosing := (context.enclosing_callableScope scope children).trans agrees.enclosing
  has name := by
    rw [Dict.has, get?_callableScope, ← Dict.has, Dict.has_iff_mem_keys, List.map_reverse,
      List.mem_reverse]
    rfl

end Bound.Agrees

/-- Whether a name is used at a stop. -/
def Stop.isUse (stop : Stop) : Bool :=
  stop.role = .use

/-- The symbols made at those of some stops where a name is used. -/
def madeAtUses (context : Context) (stops : List Stop) : List Symbol :=
  (stops.filter Stop.isUse).flatMap (Stop.symbols context)

/-- The symbols of uses, each taken for one of the variables declared so far. -/
def madeOf (context : Context) (uses : List Use) : List Symbol :=
  uses.flatMap fun use => use.symbols context use.bound.declared

@[simp] theorem madeAtUses_append (context : Context) (front behind : List Stop) :
    madeAtUses context (front ++ behind) =
      madeAtUses context front ++ madeAtUses context behind := by
  simp [madeAtUses]

@[simp] theorem madeOf_append (context : Context) (front behind : List Use) :
    madeOf context (front ++ behind) = madeOf context front ++ madeOf context behind := by
  simp [madeOf]

/-- Those symbols are picked out of all by the stops at which they are made. -/
theorem madeAtUses_eq_map_filter (context : Context) (stops : List Stop) :
    ((stops.flatMap fun stop => (stop.symbols context).map (stop, ·)).filter
      fun entry => entry.1.isUse).map Prod.snd = madeAtUses context stops := by
  induction stops with
  | nil => rfl
  | cons stop rest hypothesis =>
    rw [List.flatMap_cons, List.filter_append, List.map_append, hypothesis]
    cases use : stop.isUse <;>
      simp [madeAtUses, use, List.filter_map, Function.comp_def]

/-- At the components of a record no name is used. -/
theorem madeAtUses_componentStops (context : Context) (above : List Tree) (inner : Scope)
    (mark : Mark) (children : List Tree) :
    madeAtUses context (componentStops context above inner mark children) = [] := by
  have others : (componentStops context above inner mark children).filter Stop.isUse = [] := by
    rw [List.filter_eq_nil_iff]
    intro stop member
    unfold componentStops at member
    split at member
    · split at member
      · simp only [List.mem_filterMap, Option.map_eq_some_iff] at member
        obtain ⟨_, _, _, _, rfl⟩ := member
        simp [Stop.isUse]
      · simp at member
    · simp at member
  rw [madeAtUses, others, List.flatMap_nil]

/-- The symbols of an identifier are those of a use of the variables declared so far. -/
theorem useSymbols_eq (context : Context) {bound : Bound} {scope : Scope}
    (agrees : bound.Agrees scope) (parent : Option String) (mark : Mark) :
    context.useSymbols scope parent mark =
      madeOf context (usesOfIdentifier parent bound mark) := by
  cases parent with
  | none => rfl
  | some parent =>
    unfold Context.useSymbols usesOfIdentifier
    dsimp only
    split
    · rfl
    · have target : context.nameTarget? scope (String.ofList (context.source.charsOf mark)) =
          Use.target? context ⟨mark, bound⟩ bound.declared := by
        unfold Context.nameTarget? Use.target? Use.name Scope.qualified
        simp only [agrees.has, agrees.enclosing, Option.bind_map]
        rfl
      rw [madeOf, List.flatMap_singleton, Use.symbols, target, Scope.owner, agrees.enclosing]
      rfl

/-- Where no name is used, nothing is made of one. -/
theorem madeAtUses_cons_of_other (context : Context) {stop : Stop} (other : stop.isUse = false)
    (rest : List Stop) : madeAtUses context (stop :: rest) = madeAtUses context rest := by
  rw [madeAtUses, List.filter_cons_of_neg (by simp [other]), madeAtUses]

mutual

/-- The symbols made where names are used in a tree are those of its uses. -/
theorem madeAtUses_stops (context : Context) (above : List Tree) {bound : Bound} {scope : Scope}
    (agrees : bound.Agrees scope) (tree : Tree) :
    madeAtUses context (stops context above scope tree) =
      madeOf context (uses context (parentRule above) bound tree) := by
  match tree with
  | .node mark children =>
    unfold stops uses
    dsimp only
    cases Form.ofRule mark.rule with
    | preamble | catchParameter => rfl
    | typeDeclaration =>
      cases context.source.fieldText? "name" children with
      | none => rfl
      | some simple =>
        dsimp only
        rw [List.cons_append, madeAtUses_cons_of_other context rfl, madeAtUses_append,
          madeAtUses_componentStops, List.nil_append]
        exact madeAtUses_stopsIn context (.node mark children :: above) rfl "body"
          (agrees.inside simple) children
    | callable =>
      cases context.source.fieldText? "name" children with
      | none => rfl
      | some name =>
        dsimp only
        rw [madeAtUses_cons_of_other context rfl]
        exact madeAtUses_stopsIn context (.node mark children :: above) rfl "body"
          (agrees.insideCallable children) children
    | fieldDeclaration | localDeclaration =>
      exact madeAtUses_stopsOfDeclarators context _ _ _ agrees children
    | enumConstant =>
      dsimp only
      rw [madeAtUses_append,
        madeAtUses_stopsAmong context (.node mark children :: above) rfl agrees children]
      cases context.source.fieldText? "name" children <;> rfl
    | loopOrResource =>
      exact madeAtUses_stopsAmong context (.node mark children :: above) rfl
        (agrees.loop children) children
    | invocation =>
      dsimp only
      rw [madeAtUses_cons_of_other context rfl]
      exact madeAtUses_stopsAmong context (.node mark children :: above) rfl agrees children
    | identifier =>
      rw [← useSymbols_eq context agrees]
      exact List.flatMap_singleton _ _
    | other =>
      exact madeAtUses_stopsAmong context (.node mark children :: above) rfl agrees children
termination_by structural tree

/-- The symbols made where names are used in several trees are those of their uses. -/
theorem madeAtUses_stopsAmong (context : Context) (above : List Tree) {parent : String}
    (below : parentRule above = some parent) {bound : Bound} {scope : Scope}
    (agrees : bound.Agrees scope) (trees : List Tree) :
    madeAtUses context (stopsAmong context above scope trees) =
      madeOf context (usesAmong context parent bound trees) := by
  match trees with
  | [] => rfl
  | tree :: rest =>
    unfold stopsAmong usesAmong
    split
    · rw [madeAtUses_append, madeOf_append, madeAtUses_stops context above agrees, below,
        madeAtUses_stopsAmong context above below (agrees.after (some parent) tree)]
    · exact madeAtUses_stopsAmong context above below agrees rest
termination_by structural trees

/-- The symbols made where names are used in the tree in a field are those of its uses. -/
theorem madeAtUses_stopsIn (context : Context) (above : List Tree) {parent : String}
    (below : parentRule above = some parent) (field : String) {bound : Bound} {scope : Scope}
    (agrees : bound.Agrees scope) (trees : List Tree) :
    madeAtUses context (stopsIn context above field scope trees) =
      madeOf context (usesIn context parent field bound trees) := by
  match trees with
  | [] => rfl
  | tree :: rest =>
    unfold stopsIn usesIn
    split
    · rw [← below]
      exact madeAtUses_stops context above agrees tree
    · exact madeAtUses_stopsIn context above below field agrees rest
termination_by structural trees

/-- The symbols made where names are used in declarators are those of their uses. -/
theorem madeAtUses_stopsOfDeclarators (context : Context) (above : List Tree) (kind : Kind)
    (written : String) {bound : Bound} {scope : Scope} (agrees : bound.Agrees scope)
    (trees : List Tree) :
    madeAtUses context (stopsOfDeclarators context above kind written scope trees) =
      madeOf context (usesOfDeclarators context kind bound trees) := by
  match trees with
  | [] => rfl
  | .node mark children :: rest =>
    unfold stopsOfDeclarators usesOfDeclarators
    split
    · cases context.source.fieldText? "name" children with
      | none => exact madeAtUses_stopsOfDeclarators context above kind written agrees rest
      | some name =>
        dsimp only
        have declared := agrees.declarator kind name written
        rw [List.cons_append, madeAtUses_cons_of_other context rfl, madeAtUses_append,
          madeOf_append,
          madeAtUses_stopsIn context (.node mark children :: above) rfl "value" declared children,
          madeAtUses_stopsOfDeclarators context above kind written
            (declared.afterValue mark.rule children) rest]
        rfl
    · exact madeAtUses_stopsOfDeclarators context above kind written agrees rest
termination_by structural trees

end

/-- A field is not referred to by its bare name. -/
theorem under_ne (declaring name : String) : under (some declaring) name ≠ name := by
  intro same
  have lengths := congrArg String.length same
  have point : ".".length = 1 := rfl
  simp only [under, String.length_append] at lengths
  omega

/-- What the used name refers to is all in the symbols of a use that depends on the variables. -/
theorem Use.symbols_eq_iff (context : Context) (use : Use) (one two : List String) :
    use.symbols context one = use.symbols context two ↔
      use.target? context one = use.target? context two := by
  unfold symbols
  cases use.target? context one <;> cases use.target? context two <;> simp

/-- Two sets of variables give a used name one meaning just when it is in both or in neither. -/
theorem Use.target?_eq_iff (context : Context) (use : Use) (one two : List String) :
    use.target? context one = use.target? context two ↔
      (use.name context ∈ one ↔ use.name context ∈ two) := by
  have field (found : Option (String × TypeInfo)) :
      (found.map fun (declaring, _) => under (some declaring) (use.name context)) ≠
        some (use.name context) := by
    cases found with
    | none => simp
    | some owner => simpa using under_ne owner.1 (use.name context)
  unfold target?
  by_cases first : use.name context ∈ one <;> by_cases second : use.name context ∈ two
  · simp [first, second]
  · rw [if_pos first, if_neg second]
    exact iff_of_false (Ne.symm (field _)) (by simp [first, second])
  · rw [if_neg first, if_pos second]
    exact iff_of_false (field _) (by simp [first, second])
  · simp [first, second]

/-- The symbols of the names used in a file are made by the variables declared so far in the same
body. Such a use has the symbols that the variables in scope would give it just when no variable of
its name has been left behind in a block, loop or handler that has ended. -/
theorem uses_follow_declared_variables (elsewhere : TypeIndex) (source : Source) :
    let context := Context.ofSource elsewhere source
    let found := uses context none {} source.tree
    (made elsewhere source).map Prod.snd = symbols elsewhere source ∧
      ((made elsewhere source).filter fun entry => entry.1.isUse).map Prod.snd =
        found.flatMap (fun use => use.symbols context use.bound.declared) ∧
      ∀ use ∈ found,
        (use.symbols context use.bound.declared = use.symbols context use.bound.inScope ↔
          (use.name context ∈ use.bound.declared → use.name context ∈ use.bound.inScope)) := by
  intro context found
  refine ⟨map_made elsewhere source, ?_, ?_⟩
  · have start : ({} : Bound).Agrees {} := ⟨rfl, by simp [Dict.has, Dict.get?]⟩
    exact (madeAtUses_eq_map_filter context _).trans
      (madeAtUses_stops context [] start source.tree)
  · intro use _
    rw [use.symbols_eq_iff, use.target?_eq_iff]
    exact ⟨Iff.mp, fun kept => ⟨kept, fun opened => use.bound.within opened⟩⟩

/-- A class with a field and a method that declares a variable of its name in a block, and then
uses the name behind the block. -/
def fieldBehindBlock : Source :=
  let node := fun (rule field : String) (start stop : Nat) children =>
    Tree.node { rule := rule, fields := [field], start := start, stop := stop } children
  let declaration := fun (rule : String) (start : Nat) =>
    node rule "" start (start + 6)
      [ node "integral_type" "type" start (start + 3) []
      , node "variable_declarator" "" (start + 4) (start + 5)
          [node "identifier" "name" (start + 4) (start + 5) []] ]
  let assignment := node "expression_statement" "" 31 35
    [ node "assignment_expression" "" 31 34
        [node "identifier" "left" 31 32 [], node "decimal_integer_literal" "right" 33 34 []] ]
  let method := node "method_declaration" "" 14 36
    [ node "void_type" "type" 14 18 []
    , node "identifier" "name" 19 20 []
    , node "formal_parameters" "parameters" 20 22 []
    , node "block" "body" 22 36
        [node "block" "" 23 31 [declaration "local_variable_declaration" 24], assignment] ]
  { relative := "A.java"
    text := "class A{int x;void m(){{int x;}x=1;}}".toList
    tree := node "program" "" 0 37
      [ node "class_declaration" "" 0 37
          [ node "identifier" "name" 6 7 []
          , node "class_body" "body" 7 37 [declaration "field_declaration" 8, method] ] ] }

/-- The use behind the block is one of the uses of that file: the variable has been declared and
is not in scope. -/
theorem uses_follow_declared_variables_behind_block :
    let context := Context.ofSource [] fieldBehindBlock
    let found := uses context none {} fieldBehindBlock.tree
    ∃ use ∈ found, use.name context = "x" ∧ use.bound.declared = ["x"] ∧
      use.bound.inScope = [] ∧
      (use.symbols context use.bound.declared = use.symbols context use.bound.inScope ↔
        (use.name context ∈ use.bound.declared → use.name context ∈ use.bound.inScope)) := by
  intro context found
  have listed : ∃ use ∈ found, use.name context = "x" ∧ use.bound.declared = ["x"] ∧
      use.bound.inScope = [] :=
    ⟨_, List.mem_singleton.2 rfl, by decide +kernel, by decide +kernel, by decide +kernel⟩
  obtain ⟨use, member, name, declared, inScope⟩ := listed
  exact ⟨use, member, name, declared, inScope,
    (uses_follow_declared_variables [] fieldBehindBlock).2.2 use member⟩

/-- The name behind the block is recorded as a use of the variable, where the field is meant. -/
theorem field_behind_block_taken_for_variable :
    let context := Context.ofSource [] fieldBehindBlock
    ((symbols [] fieldBehindBlock).filter fun symbol => symbol.kind = .reference).map
        (fun symbol => (symbol.name, symbol.referenceTo)) = [("x", some "x")] ∧
      (uses context none {} fieldBehindBlock.tree).map
        (fun use => (use.name context, use.target? context use.bound.inScope)) =
          [("x", some "A.x")] := by
  decide +kernel

end SymbolAtlas.Java
