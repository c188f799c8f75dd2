import Mathlib.Data.List.Basic
import SymbolAtlas.Extract.JavaSymbols

/-!
# Where the symbols of Java files are made

The visit of a tree mixes two things: which nodes it comes to, in which scope, and what
it makes there. `stops` is the way alone, a list of nodes with the nodes around them and
the scope in which they are come to, and `Stop.symbols` is what is made at one of them.
`symbols_eq_flatMap_stops` puts the two together again, so a fact about the symbols of a
file is one about single stops and the way between them.

A visit changes the local variables for what follows, never the enclosing type. So the
members of a body are all come to inside the type of the body.
-/

namespace SymbolAtlas.Java

/-- What is made at a stop, by the names and types written there. -/
inductive Role where
  | type (simple : String)
  | component (name written : String)
  | callable (name : String)
  | declarator (kind : Kind) (name written : String)
  | constant (name : String)
  | call
  | use
  deriving DecidableEq, Repr

/-- A node at which symbols are made. -/
structure Stop where
  role : Role
  /-- The nodes around it, the innermost first. -/
  above : List Tree
  /-- The scope in which it is come to. -/
  scope : Scope
  node : Tree

/-- The rule of the innermost of the nodes around a node. -/
def parentRule (above : List Tree) : Option String :=
  above.head?.map Tree.rule

/-- The symbols made at a stop. -/
def Stop.symbols (context : Context) (stop : Stop) : List Symbol :=
  let mark := stop.node.mark
  let children := stop.node.children
  let made := context.symbol stop.scope.owner mark
  match stop.role with
  | .type simple =>
    [made (Context.typeKind mark.rule) simple (header context.source mark children)]
  | .component name written => [made .field name (written ++ " " ++ name)]
  | .callable name => [made .method name (header context.source mark children)]
  | .declarator kind name written => [made kind name (written ++ " " ++ name)]
  | .constant name => [made .field name (collapsed name.toList)]
  | .call => context.callSymbols stop.scope mark children
  | .use => context.useSymbols stop.scope (parentRule stop.above) mark

/-- The stops at the components of a record, inside its type. -/
def componentStops (context : Context) (above : List Tree) (inner : Scope) (mark : Mark)
    (children : List Tree) : List Stop :=
  if mark.rule = "record_declaration" then
    match fieldChild? "parameters" children with
    | some list => (namedTrees list.children).filterMap fun component =>
      (parameter? context.source component).map fun (name, written) =>
        ⟨.component name written, list :: above, inner, component⟩
    | none => []
  else []

mutual

/-- The stops of the visit of a tree below other nodes. -/
def stops (context : Context) (above : List Tree) (scope : Scope) : Tree → List Stop
  | .node mark children =>
    let here := Tree.node mark children
    let name? := context.source.fieldText? "name" children
    let written := (context.source.fieldText? "type" children).getD ""
    match Form.ofRule mark.rule with
    | .preamble => []
    | .typeDeclaration =>
      match name? with
      | none => []
      | some simple =>
        let inner := context.inside scope simple
        ⟨.type simple, above, scope, here⟩ ::
          componentStops context (here :: above) inner mark children ++
            stopsIn context (here :: above) "body" inner children
    | .callable =>
      match name? with
      | none => []
      | some name =>
        ⟨.callable name, above, scope, here⟩ ::
          stopsIn context (here :: above) "body" (context.callableScope scope children) children
    | .fieldDeclaration => stopsOfDeclarators context (here :: above) .field written scope children
    | .enumConstant =>
      let own := match name? with
        | some name => [⟨.constant name, above, scope, here⟩]
        | none => []
      own ++ stopsAmong context (here :: above) scope children
    | .localDeclaration =>
      stopsOfDeclarators context (here :: above) .binding written scope children
    | .loopOrResource =>
      stopsAmong context (here :: above) (context.loopScope scope children) children
    | .catchParameter => []
    | .invocation =>
      ⟨.call, above, scope, here⟩ :: stopsAmong context (here :: above) scope children
    | .identifier => [⟨.use, above, scope, here⟩]
    | .other => stopsAmong context (here :: above) scope children
termination_by structural tree => tree

/-- The stops of the visit of the named trees among several. -/
def stopsAmong (context : Context) (above : List Tree) (scope : Scope) : List Tree → List Stop
  | [] => []
  | tree :: rest =>
    if tree.mark.named then
      stops context above scope tree ++
        stopsAmong context above (visit context (parentRule above) scope tree).1 rest
    else stopsAmong context above scope rest
termination_by structural trees => trees

/-- The stops of the visit of the tree that fills a field. -/
def stopsIn (context : Context) (above : List Tree) (field : String) (scope : Scope) :
    List Tree → List Stop
  | [] => []
  | tree :: rest =>
    if tree.fills field then stops context above scope tree
    else stopsIn context above field scope rest
termination_by structural trees => trees

/-- The stops of the visit of the declared variables among several trees. -/
def stopsOfDeclarators (context : Context) (above : List Tree) (kind : Kind) (written : String)
    (scope : Scope) : List Tree → List Stop
  | [] => []
  | .node mark children :: rest =>
    if mark.named && mark.rule = "variable_declarator" then
      match context.source.fieldText? "name" children with
      | none => stopsOfDeclarators context above kind written scope rest
      | some name =>
        let here := Tree.node mark children
        let declared := if kind = .binding then scope.declare name written else scope
        let between := (visitIn context mark.rule "value" declared children).1
        ⟨.declarator kind name written, above, scope, here⟩ ::
          stopsIn context (here :: above) "value" declared children ++
            stopsOfDeclarators context above kind written between rest
    else stopsOfDeclarators context above kind written scope rest
termination_by structural trees => trees

end

/-- What is made at the components of a record. -/
theorem flatMap_componentStops (context : Context) (above : List Tree) (inner : Scope)
    (mark : Mark) (children : List Tree) :
    (componentStops context above inner mark children).flatMap (Stop.symbols context) =
      if mark.rule = "record_declaration" then
        match fieldChild? "parameters" children with
        | some list => (namedTrees list.children).filterMap fun component =>
          (parameter? context.source component).map fun (name, written) =>
            context.symbol inner.owner component.mark .field name (written ++ " " ++ name)
        | none => []
      else [] := by
  unfold componentStops
  by_cases record : mark.rule = "record_declaration"
  · rw [if_pos record, if_pos record]
    cases fieldChild? "parameters" children with
    | none => rfl
    | some list =>
      simp only [List.filterMap_eq_flatMap_toList, List.flatMap_assoc]
      congr 1
      funext component
      cases parameter? context.source component <;> rfl
  · rw [if_neg record, if_neg record]
    rfl

mutual

/-- What a visit makes of a tree is what is made at its stops. -/
theorem visit_eq_flatMap_stops (context : Context) (above : List Tree) (scope : Scope)
    (tree : Tree) :
    (visit context (parentRule above) scope tree).2 =
      (stops context above scope tree).flatMap (Stop.symbols context) := by
  match tree with
  | .node mark children =>
    unfold visit stops
    dsimp only
    cases Form.ofRule mark.rule with
    | preamble | catchParameter => rfl
    | typeDeclaration =>
      cases context.source.fieldText? "name" children with
      | none => rfl
      | some simple =>
        dsimp only
        rw [List.flatMap_append, List.flatMap_cons, flatMap_componentStops,
          ← visitIn_eq_flatMap_stopsIn context (.node mark children :: above) rfl]
        rfl
    | callable =>
      cases context.source.fieldText? "name" children with
      | none => rfl
      | some name =>
        dsimp only
        rw [List.flatMap_cons,
          ← visitIn_eq_flatMap_stopsIn context (.node mark children :: above) rfl]
        rfl
    | fieldDeclaration | localDeclaration =>
      exact visitDeclarators_eq_flatMap_stopsOfDeclarators context _ _ _ scope children
    | enumConstant =>
      dsimp only
      rw [List.flatMap_append,
        ← visitAmong_eq_flatMap_stopsAmong context (.node mark children :: above) rfl]
      cases context.source.fieldText? "name" children <;> rfl
    | loopOrResource | other =>
      exact visitAmong_eq_flatMap_stopsAmong context (.node mark children :: above) rfl _ children
    | invocation =>
      dsimp only
      rw [List.flatMap_cons,
        ← visitAmong_eq_flatMap_stopsAmong context (.node mark children :: above) rfl]
      rfl
    | identifier => exact (List.flatMap_singleton _ _).symm
termination_by structural tree

/-- What a visit makes of several trees is what is made at their stops. -/
theorem visitAmong_eq_flatMap_stopsAmong (context : Context) (above : List Tree)
    {parent : String} (below : parentRule above = some parent) (scope : Scope)
    (trees : List Tree) :
    (visitAmong context parent scope trees).2 =
      (stopsAmong context above scope trees).flatMap (Stop.symbols context) := by
  match trees with
  | [] => rfl
  | tree :: rest =>
    unfold visitAmong stopsAmong
    split
    · rw [List.flatMap_append, ← visit_eq_flatMap_stops, ← below,
        ← visitAmong_eq_flatMap_stopsAmong context above below]
    · exact visitAmong_eq_flatMap_stopsAmong context above below scope rest
termination_by structural trees

/-- What a visit makes of the tree in a field is what is made at its stops. -/
theorem visitIn_eq_flatMap_stopsIn (context : Context) (above : List Tree)
    {parent : String} (below : parentRule above = some parent) (field : String)
    (scope : Scope) (trees : List Tree) :
    (visitIn context parent field scope trees).2 =
      (stopsIn context above field scope trees).flatMap (Stop.symbols context) := by
  match trees with
  | [] => rfl
  | tree :: rest =>
    unfold visitIn stopsIn
    split
    · rw [← below]
      exact visit_eq_flatMap_stops context above scope tree
    · exact visitIn_eq_flatMap_stopsIn context above below field scope rest
termination_by structural trees

/-- What a visit makes of declared variables is what is made at their stops. -/
theorem visitDeclarators_eq_flatMap_stopsOfDeclarators (context : Context) (above : List Tree)
    (kind : Kind) (written : String) (scope : Scope) (trees : List Tree) :
    (visitDeclarators context kind written scope trees).2 =
      (stopsOfDeclarators context above kind written scope trees).flatMap
        (Stop.symbols context) := by
  match trees with
  | [] => rfl
  | .node mark children :: rest =>
    unfold visitDeclarators stopsOfDeclarators
    split
    · cases context.source.fieldText? "name" children with
      | none => exact visitDeclarators_eq_flatMap_stopsOfDeclarators context above _ _ scope rest
      | some name =>
        dsimp only
        rw [List.flatMap_append, List.flatMap_cons,
          ← visitIn_eq_flatMap_stopsIn context (.node mark children :: above) rfl,
          ← visitDeclarators_eq_flatMap_stopsOfDeclarators]
        rfl
    · exact visitDeclarators_eq_flatMap_stopsOfDeclarators context above kind written scope rest
termination_by structural trees

end

/-- Parameters change nothing of the enclosing type. -/
theorem Context.enclosing_callableScope (context : Context) (scope : Scope)
    (children : List Tree) :
    (context.callableScope scope children).enclosing = scope.enclosing := by
  unfold callableScope
  exact List.foldlRecOn (motive := fun reached : Scope => reached.enclosing = scope.enclosing)
    _ _ rfl fun _ kept _ _ => kept

/-- The variable of a loop changes nothing of the enclosing type. -/
theorem Context.enclosing_loopScope (context : Context) (scope : Scope) (children : List Tree) :
    (context.loopScope scope children).enclosing = scope.enclosing := by
  unfold loopScope
  split <;> rfl

/-- The parameter of a catch clause changes nothing of the enclosing type. -/
theorem Context.enclosing_catchScope (context : Context) (scope : Scope) (children : List Tree) :
    (context.catchScope scope children).enclosing = scope.enclosing := by
  unfold catchScope
  split <;> rfl

mutual

/-- The visit of a tree leaves the enclosing type. -/
theorem enclosing_visit (context : Context) (parent : Option String) (scope : Scope)
    (tree : Tree) : (visit context parent scope tree).1.enclosing = scope.enclosing := by
  match tree with
  | .node mark children =>
    unfold visit
    cases Form.ofRule mark.rule with
    | preamble | identifier => rfl
    | typeDeclaration | callable => cases context.source.fieldText? "name" children <;> rfl
    | fieldDeclaration => exact enclosing_visitDeclarators context .field _ scope children
    | localDeclaration => exact enclosing_visitDeclarators context .binding _ scope children
    | enumConstant | invocation | other =>
      exact enclosing_visitAmong context mark.rule scope children
    | loopOrResource =>
      exact (enclosing_visitAmong context mark.rule _ children).trans
        (context.enclosing_loopScope scope children)
    | catchParameter => exact context.enclosing_catchScope scope children

/-- The visit of several trees leaves the enclosing type. -/
theorem enclosing_visitAmong (context : Context) (parent : String) (scope : Scope)
    (trees : List Tree) :
    (visitAmong context parent scope trees).1.enclosing = scope.enclosing := by
  match trees with
  | [] => rfl
  | tree :: rest =>
    unfold visitAmong
    split
    · exact (enclosing_visitAmong context parent _ rest).trans
        (enclosing_visit context (some parent) scope tree)
    · exact enclosing_visitAmong context parent scope rest

/-- The visit of the tree in a field leaves the enclosing type. -/
theorem enclosing_visitIn (context : Context) (parent field : String) (scope : Scope)
    (trees : List Tree) :
    (visitIn context parent field scope trees).1.enclosing = scope.enclosing := by
  match trees with
  | [] => rfl
  | tree :: rest =>
    unfold visitIn
    split
    · exact enclosing_visit context (some parent) scope tree
    · exact enclosing_visitIn context parent field scope rest

/-- The visit of declared variables leaves the enclosing type. -/
theorem enclosing_visitDeclarators (context : Context) (kind : Kind) (written : String)
    (scope : Scope) (trees : List Tree) :
    (visitDeclarators context kind written scope trees).1.enclosing = scope.enclosing := by
  match trees with
  | [] => rfl
  | .node mark children :: rest =>
    unfold visitDeclarators
    split
    · split
      · exact enclosing_visitDeclarators context kind written scope rest
      · refine (enclosing_visitDeclarators context kind written _ rest).trans
          ((enclosing_visitIn context mark.rule "value" _ children).trans ?_)
        split <;> rfl
    · exact enclosing_visitDeclarators context kind written scope rest

end

/-- A named tree among several is come to inside the same type. -/
theorem exists_stops_subset_stopsAmong (context : Context) (above : List Tree) (scope : Scope)
    {trees : List Tree} {tree : Tree} (member : tree ∈ namedTrees trees) :
    ∃ there : Scope, there.enclosing = scope.enclosing ∧
      stops context above there tree ⊆ stopsAmong context above scope trees := by
  obtain ⟨inside, named⟩ := List.mem_filter.1 member
  clear member
  induction trees generalizing scope with
  | nil => simp at inside
  | cons first rest hypothesis =>
    unfold stopsAmong
    rcases List.mem_cons.1 inside with rfl | later
    · rw [if_pos named]
      exact ⟨scope, rfl, List.subset_append_left _ _⟩
    · split
      · obtain ⟨there, same, within⟩ := hypothesis _ later
        exact ⟨there, same.trans (enclosing_visit ..),
          List.Subset.trans within (List.subset_append_right _ _)⟩
      · exact hypothesis scope later

/-- A node without a part of its own to play is passed through. -/
theorem stops_of_other (context : Context) (above : List Tree) (scope : Scope) {tree : Tree}
    (form : Form.ofRule tree.rule = .other) :
    stops context above scope tree = stopsAmong context (tree :: above) scope tree.children := by
  obtain ⟨mark, children⟩ := tree
  have plain : Form.ofRule mark.rule = .other := form
  rw [stops, plain]
  rfl

/-- The members of a body are come to inside the type of the body, also those one level
deeper in an enumeration. -/
theorem exists_stops_subset_of_bodyMembers (context : Context) (above : List Tree)
    (scope : Scope) {body member : Tree} (form : Form.ofRule body.rule = .other)
    (inside : member ∈ bodyMembers body) :
    ∃ around there, there.enclosing = scope.enclosing ∧
      stops context around there member ⊆ stops context above scope body := by
  rw [stops_of_other context above scope form]
  obtain ⟨part, among, within⟩ := List.mem_flatMap.1 inside
  obtain ⟨there, same, covers⟩ :=
    exists_stops_subset_stopsAmong context (body :: above) scope among
  by_cases deeper : part.rule = "enum_body_declarations"
  · rw [if_pos deeper] at within
    rw [stops_of_other context _ there (by rw [deeper]; decide)] at covers
    obtain ⟨last, still, covered⟩ :=
      exists_stops_subset_stopsAmong context (part :: body :: above) there within
    exact ⟨_, last, still.trans same, List.Subset.trans covered covers⟩
  · rw [if_neg deeper, List.mem_singleton] at within
    exact ⟨_, there, same, within ▸ covers⟩

/-- The tree in a field is come to, and nothing where there is none. -/
theorem stopsIn_eq (context : Context) (above : List Tree) (field : String) (scope : Scope)
    (trees : List Tree) :
    stopsIn context above field scope trees =
      match fieldChild? field trees with
      | some tree => stops context above scope tree
      | none => [] := by
  induction trees with
  | nil => rfl
  | cons tree rest hypothesis =>
    rw [stopsIn, fieldChild?, List.find?_cons]
    cases tree.fills field with
    | true => rfl
    | false => exact hypothesis

/-- What stays the same during the extraction from a file, when the types of other files
are known. -/
def Context.ofSource (elsewhere : TypeIndex) (source : Source) : Context where
  source := source
  imports := (typesOf source).2
  resolver := ⟨TypeIndex.addFile [] source, elsewhere⟩

/-- The symbols that are made in a file, each with the stop at which it is made. -/
def made (elsewhere : TypeIndex) (source : Source) : List (Stop × Symbol) :=
  let context := Context.ofSource elsewhere source
  (stops context [] {} source.tree).flatMap fun stop => (stop.symbols context).map (stop, ·)

/-- They are the symbols of the file, in their order. -/
theorem map_made (elsewhere : TypeIndex) (source : Source) :
    (made elsewhere source).map Prod.snd = symbols elsewhere source := by
  unfold made symbols
  rw [List.map_flatMap]
  simp only [List.map_map, Function.comp_def, List.map_id']
  exact (visit_eq_flatMap_stops (Context.ofSource elsewhere source) [] {} source.tree).symm

/-- What is made at a stop of a file is made in the file. -/
theorem mem_made {elsewhere : TypeIndex} {source : Source} {stop : Stop} {symbol : Symbol} :
    (stop, symbol) ∈ made elsewhere source ↔
      stop ∈ stops (Context.ofSource elsewhere source) [] {} source.tree ∧
        symbol ∈ stop.symbols (Context.ofSource elsewhere source) := by
  simp [made]

end SymbolAtlas.Java
