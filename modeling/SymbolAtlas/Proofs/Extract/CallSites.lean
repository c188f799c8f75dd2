import Mathlib.Data.List.Perm.Basic
import SymbolAtlas.Extract.PythonSymbols
import SymbolAtlas.Extract.RustSymbols
import SymbolAtlas.Proofs.Tree

/-!
# Which calls of a file are listed

A visit does not come to every node. At some it goes on into all named children, at others into
one child only or into none, and the calls that stand in the other children are lost: those in
default values, annotations, base classes and assigned places of Python files, and those in types,
discriminants and the branch of a failed match of Rust files.

`Way` says how a visit goes on below a node. A way for every node splits a tree into the nodes that
are `reached`, in pre-order, and the subtrees that are `skipped`. Each extraction takes its own way
and lists just the calls that are reached, each once and in order. So all calls of a file are those
listed and those in skipped parts, and none is missing just when no skipped part holds one.
-/

namespace SymbolAtlas

/-- How a visit goes on below a node. -/
inductive Way where
  | nowhere
  /-- Into all children that stand for something. -/
  | named
  /-- Into the child that fills a field. -/
  | only (field : String)
  deriving DecidableEq, Repr

/-- How a visit goes on below each node. -/
abbrev Route := Mark → List Tree → Way

namespace Tree

variable (route : Route)

mutual

/-- The subtrees at the nodes that are come to, in pre-order. -/
def reached : Tree → List Tree
  | .node mark children =>
    .node mark children :: match route mark children with
      | .nowhere => []
      | .named => reachedAmong children
      | .only field => reachedIn field children
termination_by structural tree => tree

/-- The subtrees that are come to below the named trees among several. -/
def reachedAmong : List Tree → List Tree
  | [] => []
  | tree :: rest =>
    if tree.mark.named then reached tree ++ reachedAmong rest else reachedAmong rest
termination_by structural trees => trees

/-- The subtrees that are come to below the tree that fills a field. -/
def reachedIn (field : String) : List Tree → List Tree
  | [] => []
  | tree :: rest => if tree.fills field then reached tree else reachedIn field rest
termination_by structural trees => trees

end

mutual

/-- The subtrees that a visit leaves out, each below a node that is come to. -/
def skipped : Tree → List Tree
  | .node mark children =>
    match route mark children with
    | .nowhere => children
    | .named => skippedAmong children
    | .only field => skippedIn field children
termination_by structural tree => tree

/-- The subtrees left out where the named trees among several are come to. -/
def skippedAmong : List Tree → List Tree
  | [] => []
  | tree :: rest => (if tree.mark.named then skipped tree else [tree]) ++ skippedAmong rest
termination_by structural trees => trees

/-- The subtrees left out where the tree that fills a field is come to. -/
def skippedIn (field : String) : List Tree → List Tree
  | [] => []
  | tree :: rest => if tree.fills field then skipped tree ++ rest else tree :: skippedIn field rest
termination_by structural trees => trees

end

mutual

/-- What is come to keeps its order. -/
theorem reached_sublist (tree : Tree) : (reached route tree).Sublist (subtrees tree) := by
  match tree with
  | .node mark children =>
    unfold reached subtrees
    refine List.Sublist.cons_cons _ ?_
    cases route mark children with
    | nowhere => exact List.nil_sublist _
    | named => exact reachedAmong_sublist children
    | only field => exact reachedIn_sublist field children
termination_by structural tree

/-- What is come to among several trees keeps its order. -/
theorem reachedAmong_sublist (trees : List Tree) :
    (reachedAmong route trees).Sublist (subtreesAmong trees) := by
  match trees with
  | [] => exact List.nil_sublist _
  | tree :: rest =>
    unfold reachedAmong subtreesAmong
    split
    · exact (reached_sublist tree).append (reachedAmong_sublist rest)
    · exact (reachedAmong_sublist rest).trans (List.sublist_append_right _ _)
termination_by structural trees

/-- What is come to in the tree that fills a field keeps its order. -/
theorem reachedIn_sublist (field : String) (trees : List Tree) :
    (reachedIn route field trees).Sublist (subtreesAmong trees) := by
  match trees with
  | [] => exact List.nil_sublist _
  | tree :: rest =>
    unfold reachedIn subtreesAmong
    split
    · exact (reached_sublist tree).trans (List.sublist_append_left _ _)
    · exact (reachedIn_sublist field rest).trans (List.sublist_append_right _ _)
termination_by structural trees

end

mutual

/-- A subtree is come to or lies in a part that is left out, and not both. -/
theorem subtrees_perm (tree : Tree) :
    (subtrees tree).Perm (reached route tree ++ (skipped route tree).flatMap subtrees) := by
  match tree with
  | .node mark children =>
    unfold reached subtrees skipped
    refine List.Perm.cons _ ?_
    cases route mark children with
    | nowhere => exact .of_eq (subtreesAmong_eq_flatMap children)
    | named => exact subtreesAmong_perm children
    | only field => exact subtreesAmong_perm_in field children
termination_by structural tree

/-- The same of the named trees among several. -/
theorem subtreesAmong_perm (trees : List Tree) :
    (subtreesAmong trees).Perm
      (reachedAmong route trees ++ (skippedAmong route trees).flatMap subtrees) := by
  match trees with
  | [] => exact List.Perm.refl _
  | tree :: rest =>
    unfold reachedAmong subtreesAmong skippedAmong
    have later := subtreesAmong_perm rest
    rw [List.flatMap_append]
    split
    · refine ((subtrees_perm tree).append later).trans ?_
      simp only [List.append_assoc]
      exact (List.perm_append_comm_assoc _ _ _).append_left _
    · rw [List.flatMap_singleton]
      exact (later.append_left _).trans (List.perm_append_comm_assoc _ _ _)
termination_by structural trees

/-- The same of the tree that fills a field. -/
theorem subtreesAmong_perm_in (field : String) (trees : List Tree) :
    (subtreesAmong trees).Perm
      (reachedIn route field trees ++ (skippedIn route field trees).flatMap subtrees) := by
  match trees with
  | [] => exact List.Perm.refl _
  | tree :: rest =>
    unfold reachedIn subtreesAmong skippedIn
    split
    · rw [List.flatMap_append, subtreesAmong_eq_flatMap, ← List.append_assoc]
      exact (subtrees_perm tree).append_right _
    · rw [List.flatMap_cons]
      exact ((subtreesAmong_perm_in field rest).append_left _).trans
        (List.perm_append_comm_assoc _ _ _)
termination_by structural trees

end

end Tree

/-- What a partial function makes of a list, with what it makes of the first element in front. -/
theorem filterMap_cons_eq_append {α β : Type} (f : α → Option β) (first : α) (rest : List α) :
    (first :: rest).filterMap f = (f first).toList ++ rest.filterMap f := by
  cases made : f first <;> simp [made]

/-- The lines and names of the calls among symbols. -/
def references (symbols : List Symbol) : List (Int × String) :=
  (symbols.filter fun symbol => symbol.kind = .reference).map
    fun symbol => (symbol.line, symbol.name)

@[simp] theorem references_append (symbols others : List Symbol) :
    references (symbols ++ others) = references symbols ++ references others := by
  simp [references]

/-- Symbols of other kinds are no calls. -/
theorem references_of_kinds {symbols : List Symbol}
    (others : ∀ symbol ∈ symbols, symbol.kind ≠ .reference) : references symbols = [] := by
  rw [references, List.filter_eq_nil_iff.2 (by simpa using others), List.map_nil]

/-- The symbols of a file list the calls that are come to on a route, each once and in order. All
calls of the file are those and the ones in the parts left out, so none is missing just when none
stands there. -/
structure ListsReached (route : Route) (call? : Tree → Option (Int × String)) (tree : Tree)
    (symbols : List Symbol) : Prop where
  listed : references symbols = (tree.reached route).filterMap call?
  total : (tree.subtrees.filterMap call?).Perm
    (references symbols ++ (tree.skipped route).flatMap fun part => part.subtrees.filterMap call?)
  complete : references symbols = tree.subtrees.filterMap call? ↔
    ∀ part ∈ tree.skipped route, ∀ place ∈ part.subtrees, call? place = none

/-- It is enough that the calls that are come to are listed. -/
theorem ListsReached.of_listed {route : Route} {call? : Tree → Option (Int × String)} {tree : Tree}
    {symbols : List Symbol} (listed : references symbols = (tree.reached route).filterMap call?) :
    ListsReached route call? tree symbols := by
  have total : (tree.subtrees.filterMap call?).Perm
      (references symbols ++
        (tree.skipped route).flatMap fun part => part.subtrees.filterMap call?) := by
    have split := (tree.subtrees_perm route).filterMap call?
    rwa [List.filterMap_append, List.filterMap_flatMap, ← listed] at split
  refine ⟨listed, total, ?_⟩
  have none : ((tree.skipped route).flatMap fun part => part.subtrees.filterMap call?) = [] ↔
      ∀ part ∈ tree.skipped route, ∀ place ∈ part.subtrees, call? place = none := by
    simp [List.flatMap_eq_nil_iff, List.filterMap_eq_nil_iff]
  rw [← none]
  constructor
  · intro whole
    rw [whole] at total
    have lengths := total.length_eq
    rw [List.length_append] at lengths
    exact List.length_eq_zero_iff.1 (by omega)
  · intro nothing
    rw [nothing, List.append_nil] at total
    have ordered := (tree.reached_sublist route).filterMap call?
    rw [← listed] at ordered
    exact ordered.eq_of_length total.length_eq.symm

namespace Python

/-- The extraction enters classes and functions by their bodies and assignments by their values. -/
def route (source : Source) : Route := fun mark children =>
  match Form.ofRule mark.rule with
  | .classDefinition => if (source.fieldText? "name" children).isSome then .only "body" else .nowhere
  | .functionDefinition => .only "body"
  | .assignment => .only "right"
  | _ => .named

/-- The name by which something is called: a plain name or an attribute. -/
def calleeName? (source : Source) (callee : Tree) : Option String :=
  match Form.ofRule callee.rule with
  | .identifier => some (source.textOf callee)
  | .attribute => source.fieldText? "attribute" callee.children
  | _ => none

/-- The line and name of a call, if the callee can be named. -/
def call? (source : Source) (tree : Tree) : Option (Int × String) :=
  if Form.ofRule tree.rule = .call then
    ((fieldChild? "function" tree.children).bind (calleeName? source)).map (tree.lineNumber, ·)
  else none

/-- The name that is called is found without regard to what it refers to. -/
theorem map_callee? (context : Context) (scope : Scope) (callee : Tree) :
    (context.callee? scope callee).map Prod.fst = calleeName? context.source callee := by
  unfold Context.callee? calleeName?
  cases context.source.fieldText? "attribute" callee.children <;>
    cases Form.ofRule callee.rule <;> rfl

/-- A call has one symbol if its callee can be named, and else none. -/
theorem references_callSymbols (context : Context) (scope : Scope) {mark : Mark}
    (form : Form.ofRule mark.rule = .call) (children : List Tree) :
    references (context.callSymbols scope mark children) =
      (call? context.source (.node mark children)).toList := by
  have form' : Form.ofRule (Tree.node mark children).rule = .call := form
  rw [call?, if_pos form', Tree.children_node, Context.callSymbols]
  cases fieldChild? "function" children with
  | none => rfl
  | some callee =>
    rw [Option.bind_some, Option.bind_some, ← map_callee? context scope callee]
    cases context.callee? scope callee with
    | none => rfl
    | some found => simp [references, Context.symbol, Tree.lineNumber, Tree.mark]

mutual

/-- The target of an assignment gives no calls. -/
theorem kind_targetSymbols (context : Context) (scope : Scope) (assignment : Mark) (tree : Tree) :
    ∀ symbol ∈ targetSymbols context scope assignment tree, symbol.kind ≠ .reference := by
  match tree with
  | .node mark children =>
    unfold targetSymbols
    split
    · rw [List.forall_mem_singleton]
      dsimp only [Context.symbol]
      split <;> simp
    · split
      · cases context.source.fieldText? "attribute" children <;> simp [Context.symbol]
      · exact List.forall_mem_nil _
    · exact kind_targetSymbolsAmong context scope assignment children
    · exact List.forall_mem_nil _

/-- The targets among several trees give no calls. -/
theorem kind_targetSymbolsAmong (context : Context) (scope : Scope) (assignment : Mark)
    (trees : List Tree) :
    ∀ symbol ∈ targetSymbolsAmong context scope assignment trees, symbol.kind ≠ .reference := by
  match trees with
  | [] => simp [targetSymbolsAmong]
  | tree :: rest =>
    unfold targetSymbolsAmong
    have later := kind_targetSymbolsAmong context scope assignment rest
    split
    · exact List.forall_mem_append.2 ⟨kind_targetSymbols context scope assignment tree, later⟩
    · exact later

end

mutual

/-- The calls that are listed for a tree are those that are come to. -/
theorem references_visit (context : Context) (scope : Scope) (tree : Tree) :
    references (visit context scope tree) =
      (tree.reached (route context.source)).filterMap (call? context.source) := by
  match tree with
  | .node mark children =>
    rw [visit, Tree.reached, filterMap_cons_eq_append]
    by_cases form : Form.ofRule mark.rule = .call
    · rw [form, route, form, references_append, references_callSymbols context scope form]
      exact congrArg _ (references_visitAmong context scope children)
    · have free : call? context.source (.node mark children) = none := if_neg form
      rw [free, Option.toList_none, List.nil_append, route]
      cases part : Form.ofRule mark.rule with
      | classDefinition =>
        cases context.source.fieldText? "name" children with
        | none => rfl
        | some name => exact references_visitIn context "body" _ children
      | functionDefinition =>
        cases context.source.fieldText? "name" children with
        | none => exact references_visitIn context "body" _ children
        | some name => exact references_visitIn context "body" _ children
      | assignment =>
        dsimp only
        rw [references_append, references_visitIn]
        cases fieldChild? "left" children with
        | none => rfl
        | some left =>
          rw [references_of_kinds (kind_targetSymbols context scope mark left), List.nil_append]
      | call => exact absurd part form
      | _ => exact references_visitAmong context scope children

/-- The calls that are listed for several trees are those that are come to. -/
theorem references_visitAmong (context : Context) (scope : Scope) (trees : List Tree) :
    references (visitAmong context scope trees) =
      (Tree.reachedAmong (route context.source) trees).filterMap (call? context.source) := by
  match trees with
  | [] => rfl
  | tree :: rest =>
    unfold visitAmong Tree.reachedAmong
    split
    · rw [references_append, List.filterMap_append, references_visit, references_visitAmong]
    · exact references_visitAmong context scope rest

/-- The calls that are listed for the tree in a field are those that are come to. -/
theorem references_visitIn (context : Context) (field : String) (scope : Scope)
    (trees : List Tree) :
    references (visitIn context field scope trees) =
      (Tree.reachedIn (route context.source) field trees).filterMap (call? context.source) := by
  match trees with
  | [] => rfl
  | tree :: rest =>
    unfold visitIn Tree.reachedIn
    split
    · exact references_visit context scope tree
    · exact references_visitIn context field scope rest

end

end Python

namespace Rust

/-- The extraction enters modules, traits, implementations and functions by their bodies and
bindings by their values; structures and enumerations are not entered. -/
def route (source : Source) : Route := fun mark children =>
  match Form.ofRule mark.rule with
  | .structType | .enumeration => .nowhere
  | .inlineModule | .trait =>
    if (source.fieldText? "name" children).isSome then .only "body" else .nowhere
  | .implementation => if (fieldChild? "type" children).isSome then .only "body" else .nowhere
  | .function => .only "body"
  | .letBinding => .only "value"
  | .call | .other => .named

mutual

/-- The name by which something is called: a plain name, the last part of a path, a field, or one
of these with type arguments. -/
def calleeName? (source : Source) : Tree → Option String
  | .node mark children =>
    if mark.rule = "identifier" then some (String.ofList (source.charsOf mark))
    else if mark.rule = "scoped_identifier" then source.fieldText? "name" children
    else if mark.rule = "field_expression" then source.fieldText? "field" children
    else if mark.rule = "generic_function" then calleeNameIn? source children
    else none

/-- The name of the tree that stands in the place of the function. -/
def calleeNameIn? (source : Source) : List Tree → Option String
  | [] => none
  | tree :: rest =>
    if tree.fills "function" then calleeName? source tree else calleeNameIn? source rest

end

/-- The line and name of a call, if the callee can be named. -/
def call? (source : Source) (tree : Tree) : Option (Int × String) :=
  if Form.ofRule tree.rule = .call then
    (calleeNameIn? source tree.children).map (tree.lineNumber, ·)
  else none

mutual

/-- The name that is called is found without regard to what it refers to. -/
theorem map_callee? (context : Context) (scope : Scope) (callee : Tree) :
    (context.callee? scope callee).map Prod.fst = calleeName? context.source callee := by
  match callee with
  | .node mark children =>
    unfold Context.callee? calleeName?
    split
    · rfl
    split
    · cases context.source.fieldText? "name" children <;> rfl
    split
    · cases context.source.fieldText? "field" children <;> rfl
    split
    · exact map_calleeIn? context scope children
    · rfl

/-- The same of the tree that stands in the place of the function. -/
theorem map_calleeIn? (context : Context) (scope : Scope) (trees : List Tree) :
    (context.calleeIn? scope trees).map Prod.fst = calleeNameIn? context.source trees := by
  match trees with
  | [] => rfl
  | tree :: rest =>
    unfold Context.calleeIn? calleeNameIn?
    split
    · exact map_callee? context scope tree
    · exact map_calleeIn? context scope rest

end

/-- A call has one symbol if its callee can be named, and else none. -/
theorem references_callSymbols (context : Context) (scope : Scope) {mark : Mark}
    (form : Form.ofRule mark.rule = .call) (children : List Tree) :
    references (context.callSymbols scope mark children) =
      (call? context.source (.node mark children)).toList := by
  have form' : Form.ofRule (Tree.node mark children).rule = .call := form
  rw [call?, if_pos form', Tree.children_node, Context.callSymbols,
    ← map_calleeIn? context scope children]
  cases context.calleeIn? scope children with
  | none => rfl
  | some found => simp [references, Context.symbol, Tree.lineNumber, Tree.mark]

/-- The fields of a structure are no calls. -/
theorem references_fieldSymbols (context : Context) (scope : Scope) (owner : String)
    (body : Tree) : references (context.fieldSymbols scope owner body) = [] := by
  refine references_of_kinds fun symbol member => ?_
  obtain ⟨field, -, made⟩ := List.mem_filterMap.1 member
  split at made
  · obtain ⟨name, -, rfl⟩ := Option.map_eq_some_iff.1 made
    simp [Context.symbol]
  · simp at made

/-- A binding is no call. -/
theorem references_letSymbols (context : Context) (scope : Scope) (mark : Mark)
    (children : List Tree) : references (context.letSymbols scope mark children) = [] := by
  unfold Context.letSymbols
  split
  · split <;> rfl
  · rfl

mutual

/-- The calls that are listed for a tree are those that are come to. -/
theorem references_visit (context : Context) (scope : Scope) (tree : Tree) :
    references (visit context scope tree) =
      (tree.reached (route context.source)).filterMap (call? context.source) := by
  match tree with
  | .node mark children =>
    rw [visit, Tree.reached, filterMap_cons_eq_append]
    by_cases form : Form.ofRule mark.rule = .call
    · rw [form, route, form, references_append, references_callSymbols context scope form]
      exact congrArg _ (references_visitAmong context scope children)
    · have free : call? context.source (.node mark children) = none := if_neg form
      rw [free, Option.toList_none, List.nil_append, route]
      cases part : Form.ofRule mark.rule with
      | inlineModule | trait =>
        cases context.source.fieldText? "name" children with
        | none => rfl
        | some name => exact references_visitIn context "body" _ children
      | structType =>
        cases context.source.fieldText? "name" children with
        | none => rfl
        | some name =>
          cases fieldChild? "body" children with
          | none => rfl
          | some body => exact references_fieldSymbols context scope name body
      | enumeration => cases context.source.fieldText? "name" children <;> rfl
      | implementation =>
        cases fieldChild? "type" children with
        | none => rfl
        | some target => exact references_visitIn context "body" _ children
      | function =>
        cases context.source.fieldText? "name" children with
        | none => exact references_visitIn context "body" _ children
        | some name => exact references_visitIn context "body" _ children
      | letBinding =>
        dsimp only
        rw [references_append, references_letSymbols, List.nil_append, references_visitIn]
      | call => exact absurd part form
      | other => exact references_visitAmong context scope children

/-- The calls that are listed for several trees are those that are come to. -/
theorem references_visitAmong (context : Context) (scope : Scope) (trees : List Tree) :
    references (visitAmong context scope trees) =
      (Tree.reachedAmong (route context.source) trees).filterMap (call? context.source) := by
  match trees with
  | [] => rfl
  | tree :: rest =>
    unfold visitAmong Tree.reachedAmong
    split
    · rw [references_append, List.filterMap_append, references_visit, references_visitAmong]
    · exact references_visitAmong context scope rest

/-- The calls that are listed for the tree in a field are those that are come to. -/
theorem references_visitIn (context : Context) (field : String) (scope : Scope)
    (trees : List Tree) :
    references (visitIn context field scope trees) =
      (Tree.reachedIn (route context.source) field trees).filterMap (call? context.source) := by
  match trees with
  | [] => rfl
  | tree :: rest =>
    unfold visitIn Tree.reachedIn
    split
    · exact references_visit context scope tree
    · exact references_visitIn context field scope rest

end

end Rust

/-- The calls that the symbols of a Python or Rust file list, each once and in order, are those on
the route of the extraction. Calls are missing just when one stands in a part that the route leaves
out. -/
theorem calls_listed_on_route (source : Source) :
    ListsReached (Python.route source) (Python.call? source) source.tree
        (Python.symbols source) ∧
      ListsReached (Rust.route source) (Rust.call? source) source.tree (Rust.symbols source) :=
  ⟨.of_listed (Python.references_visit _ _ source.tree),
    .of_listed (Rust.references_visit _ _ source.tree)⟩

/-- A call in the default value of a parameter is lost from a Python file, and one in the branch of
a failed match from a Rust file. -/
theorem calls_lost_off_route :
    let node := fun (rule field : String) (start stop : Nat) children =>
      Tree.node { rule := rule, fields := [field], start := start, stop := stop } children
    let python : Source :=
      { relative := "a.py"
        text := "def f(x=g()):
    pass
".toList
        tree := node "module" "" 0 23
          [ node "function_definition" "" 0 22
              [ node "identifier" "name" 4 5 []
              , node "parameters" "parameters" 5 12
                  [ node "default_parameter" "" 6 11
                      [ node "identifier" "name" 6 7 []
                      , node "call" "value" 8 11
                          [node "identifier" "function" 8 9 [], node "argument_list" "" 9 11 []] ] ]
              , node "block" "body" 18 22 [node "pass_statement" "" 18 22 []] ] ] }
    let rust : Source :=
      { relative := "a.rs"
        text := "fn f(){let 1=x else{g()};}".toList
        tree := node "source_file" "" 0 26
          [ node "function_item" "" 0 26
              [ node "identifier" "name" 3 4 []
              , node "parameters" "parameters" 4 6 []
              , node "block" "body" 6 26
                  [ node "let_declaration" "" 7 25
                      [ node "integer_literal" "pattern" 11 12 []
                      , node "identifier" "value" 13 14 []
                      , node "block" "" 19 24
                          [ node "call_expression" "" 20 23
                              [ node "identifier" "function" 20 21 []
                              , node "arguments" "" 21 23 [] ] ] ] ] ] ] }
    (python.tree.subtrees.filterMap (Python.call? python) = [(1, "g")] ∧
        references (Python.symbols python) = []) ∧
      rust.tree.subtrees.filterMap (Rust.call? rust) = [(1, "g")] ∧
        references (Rust.symbols rust) = [] := by
  decide +kernel

end SymbolAtlas
