import SymbolAtlas.Index.Parser
import SymbolAtlas.Proofs.Store.Batch
import SymbolAtlas.Proofs.Store.Listing
import SymbolAtlas.Proofs.Tree
import SymbolAtlas.Store.Fault

/-!
# Symbols come in source order

Every extraction walks down a tree from left to right and makes the symbols of a node
when it comes to it, before it goes on to what lies below. It may leave out nodes and
make several symbols at one. `Along` says just this of a list of symbols beside the
nodes of a tree in pre-order; it is kept under concatenation, and each of the three
extractions has it by induction over the tree. A record of Java makes the symbols of
its components before it enters the body, so they have to be written in front of it.

Where the lines of the nodes do not go back, neither do those of the symbols. A store
sorts stably by path and line, and all symbols of a file have the path of the file, so
the store lists them in the order in which they were extracted.
-/

namespace SymbolAtlas

/-- Symbols of the file at a path, made one after another along nodes: each at the node
that has been come to, any number of them at one node, and none at nodes passed by. -/
inductive Along (path : String) : List Symbol → List Mark → Prop where
  | nil : Along path [] []
  | pass {symbols : List Symbol} {mark : Mark} {marks : List Mark}
      (rest : Along path symbols marks) : Along path symbols (mark :: marks)
  | make {symbol : Symbol} {symbols : List Symbol} {mark : Mark} {marks : List Mark}
      (file : symbol.filePath = path) (line : symbol.line = mark.row + 1)
      (rest : Along path symbols (mark :: marks)) :
      Along path (symbol :: symbols) (mark :: marks)

namespace Along

variable {path : String} {symbols others : List Symbol} {marks later : List Mark}

/-- Nodes at which nothing is made. -/
theorem nothing (path : String) (marks : List Mark) : Along path [] marks := by
  induction marks with
  | nil => exact .nil
  | cons mark rest hypothesis => exact .pass hypothesis

/-- What is made along some nodes and then along others. -/
theorem append (first : Along path symbols marks) (second : Along path others later) :
    Along path (symbols ++ others) (marks ++ later) := by
  induction first with
  | nil => exact second
  | pass _ hypothesis => exact .pass hypothesis
  | make file line _ hypothesis => exact .make file line hypothesis

/-- More nodes may stand in front. -/
theorem behind (along : Along path symbols later) (marks : List Mark) :
    Along path symbols (marks ++ later) :=
  (nothing path marks).append along

/-- More nodes may follow. -/
theorem before (along : Along path symbols marks) (later : List Mark) :
    Along path symbols (marks ++ later) := by
  simpa using along.append (nothing path later)

/-- Symbols at one node stand in front of what is made behind it. -/
theorem at_node {mark : Mark}
    (here : ∀ symbol ∈ symbols, symbol.filePath = path ∧ symbol.line = mark.row + 1)
    (rest : Along path others marks) : Along path (symbols ++ others) (mark :: marks) := by
  induction symbols with
  | nil => exact .pass rest
  | cons symbol more hypothesis =>
    obtain ⟨file, line⟩ := here symbol List.mem_cons_self
    exact .make file line (hypothesis fun other member => here other (.tail symbol member))

/-- Every symbol is one of the file, on the line of one of the nodes. -/
theorem exists_node (along : Along path symbols marks) :
    ∀ symbol ∈ symbols, symbol.filePath = path ∧ ∃ mark ∈ marks, symbol.line = mark.row + 1 := by
  induction along with
  | nil => simp
  | pass _ hypothesis =>
    intro symbol member
    obtain ⟨file, mark, inside, line⟩ := hypothesis symbol member
    exact ⟨file, mark, .tail _ inside, line⟩
  | make file line _ hypothesis =>
    intro symbol member
    rcases List.mem_cons.1 member with rfl | further
    · exact ⟨file, _, List.mem_cons_self, line⟩
    · exact hypothesis symbol further

/-- Where the lines of the nodes do not go back, those of the symbols do not. -/
theorem lines_ascend (along : Along path symbols marks)
    (ascend : (marks.map Mark.row).Pairwise (· ≤ ·)) :
    symbols.Pairwise fun earlier later => earlier.line ≤ later.line := by
  induction along with
  | nil => exact .nil
  | pass _ hypothesis => exact hypothesis (List.pairwise_cons.1 ascend).2
  | @make symbol symbols mark marks file line rest hypothesis =>
    refine .cons (fun other member => ?_) (hypothesis ascend)
    obtain ⟨-, node, inside, place⟩ := rest.exists_node other member
    have order : mark.row ≤ node.row := by
      rcases List.mem_cons.1 inside with rfl | further
      · exact Nat.le_refl _
      · exact (List.pairwise_cons.1 ascend).1 _ (List.mem_map_of_mem further)
    rw [line, place]
    omega

/-- Symbols made at most once at each of several trees, at their roots. -/
theorem filterMap_namedTrees {make : Tree → Option Symbol}
    (here : ∀ tree symbol, make tree = some symbol →
      symbol.filePath = path ∧ symbol.line = tree.mark.row + 1) (trees : List Tree) :
    Along path ((namedTrees trees).filterMap make) (Tree.preorderAmong trees) := by
  induction trees with
  | nil => exact .nil
  | cons tree rest hypothesis =>
    obtain ⟨mark, children⟩ := tree
    rw [Tree.preorderAmong, Tree.preorder]
    by_cases named : mark.named = true
    · have first : namedTrees (.node mark children :: rest) =
          .node mark children :: namedTrees rest := by
        simp [namedTrees, Tree.mark, named]
      rw [first, List.filterMap_cons]
      cases made : make (.node mark children) with
      | none => exact hypothesis.behind _
      | some symbol =>
        obtain ⟨file, line⟩ := here _ symbol made
        exact .make file line (hypothesis.behind (mark :: _))
    · have skipped : namedTrees (.node mark children :: rest) = namedTrees rest := by
        simp [namedTrees, Tree.mark, named]
      rw [skipped]
      exact hypothesis.behind _

/-- What is made along the tree in a field is made along the trees it stands among. -/
theorem fieldChild {field : String} {children : List Tree} {child : Tree}
    (found : fieldChild? field children = some child)
    (along : Along path symbols child.preorder) :
    Along path symbols (Tree.preorderAmong children) := by
  obtain ⟨front, back, rfl, -⟩ := exists_append_of_fieldChild? found
  rw [Tree.preorderAmong_append, Tree.preorderAmong]
  exact (along.before _).behind _

/-- The same where there may be no such tree, and nothing is made then. -/
theorem of_field {field : String} {children : List Tree}
    (inField : match fieldChild? field children with
      | some child => Along path symbols child.preorder
      | none => symbols = []) :
    Along path symbols (Tree.preorderAmong children) := by
  cases found : SymbolAtlas.fieldChild? field children with
  | none =>
    simp only [found] at inField
    exact inField ▸ nothing path _
  | some child =>
    simp only [found] at inField
    exact fieldChild found inField

end Along

namespace Python

mutual

/-- All symbols of a target are on the line of the assignment. -/
theorem place_targetSymbols (context : Context) (scope : Scope) (assignment : Mark)
    (tree : Tree) : ∀ symbol ∈ targetSymbols context scope assignment tree,
      symbol.filePath = context.source.relative ∧ symbol.line = assignment.row + 1 := by
  match tree with
  | .node mark children =>
    intro symbol member
    unfold targetSymbols at member
    split at member
    · obtain rfl := List.mem_singleton.1 member
      exact ⟨rfl, rfl⟩
    · split at member
      · split at member
        · obtain rfl := List.mem_singleton.1 member
          exact ⟨rfl, rfl⟩
        · simp at member
      · simp at member
    · exact place_targetSymbolsAmong context scope assignment children symbol member
    · simp at member

/-- All symbols of several targets are on the line of the assignment. -/
theorem place_targetSymbolsAmong (context : Context) (scope : Scope) (assignment : Mark)
    (trees : List Tree) : ∀ symbol ∈ targetSymbolsAmong context scope assignment trees,
      symbol.filePath = context.source.relative ∧ symbol.line = assignment.row + 1 := by
  match trees with
  | [] => simp [targetSymbolsAmong]
  | tree :: rest =>
    intro symbol member
    unfold targetSymbolsAmong at member
    split at member
    · rcases List.mem_append.1 member with first | later
      · exact place_targetSymbols context scope assignment tree symbol first
      · exact place_targetSymbolsAmong context scope assignment rest symbol later
    · exact place_targetSymbolsAmong context scope assignment rest symbol member

end

/-- The symbol of a call is on the line of the call. -/
theorem place_callSymbols (context : Context) (scope : Scope) (mark : Mark)
    (children : List Tree) : ∀ symbol ∈ context.callSymbols scope mark children,
      symbol.filePath = context.source.relative ∧ symbol.line = mark.row + 1 := by
  intro symbol member
  unfold Context.callSymbols at member
  split at member
  · obtain rfl := List.mem_singleton.1 member
    exact ⟨rfl, rfl⟩
  · simp at member

mutual

/-- The symbols of a tree are made along its nodes. -/
theorem along_visit (context : Context) (scope : Scope) (tree : Tree) :
    Along context.source.relative (visit context scope tree) tree.preorder := by
  match tree with
  | .node mark children =>
    have single : ∀ kind name, ∀ symbol ∈ [context.symbol scope mark kind name],
        symbol.filePath = context.source.relative ∧ symbol.line = mark.row + 1 := by
      intro kind name symbol member
      obtain rfl := List.mem_singleton.1 member
      exact ⟨rfl, rfl⟩
    unfold visit
    rw [Tree.preorder]
    cases Form.ofRule mark.rule with
    | classDefinition =>
      cases context.source.fieldText? "name" children with
      | none => exact .nothing _ _
      | some name =>
        exact .at_node (single .classLike name)
          (along_visitIn context "body" ⟨some name, false⟩ children)
    | functionDefinition =>
      refine .at_node ?_ (along_visitIn context "body" ⟨scope.owner, true⟩ children)
      cases context.source.fieldText? "name" children with
      | none => simp
      | some name => exact single .method name
    | assignment =>
      refine .at_node ?_ (along_visitIn context "right" scope children)
      cases fieldChild? "left" children with
      | none => simp
      | some left => exact place_targetSymbols context scope mark left
    | call =>
      exact .at_node (place_callSymbols context scope mark children)
        (along_visitAmong context scope children)
    | _ => exact .pass (along_visitAmong context scope children)

/-- The symbols of several trees are made along their nodes. -/
theorem along_visitAmong (context : Context) (scope : Scope) (trees : List Tree) :
    Along context.source.relative (visitAmong context scope trees)
      (Tree.preorderAmong trees) := by
  match trees with
  | [] => exact .nil
  | tree :: rest =>
    have others := along_visitAmong context scope rest
    unfold visitAmong
    rw [Tree.preorderAmong]
    split
    · exact (along_visit context scope tree).append others
    · exact others.behind _

/-- The symbols of the tree in a field are made along the trees it stands among. -/
theorem along_visitIn (context : Context) (field : String) (scope : Scope)
    (trees : List Tree) :
    Along context.source.relative (visitIn context field scope trees)
      (Tree.preorderAmong trees) := by
  match trees with
  | [] => exact .nil
  | tree :: rest =>
    unfold visitIn
    rw [Tree.preorderAmong]
    split
    · exact (along_visit context scope tree).before _
    · exact (along_visitIn context field scope rest).behind _

end

/-- The symbols of a file are made along its tree. -/
theorem along_symbols (source : Source) :
    Along source.relative (symbols source) source.tree.preorder :=
  along_visit ⟨source, moduleName? source.relative, definitions source none false source.tree⟩
    {} source.tree

end Python

namespace Rust

/-- The symbol of a call is on the line of the call. -/
theorem place_callSymbols (context : Context) (scope : Scope) (mark : Mark)
    (children : List Tree) : ∀ symbol ∈ context.callSymbols scope mark children,
      symbol.filePath = context.source.relative ∧ symbol.line = mark.row + 1 := by
  intro symbol member
  unfold Context.callSymbols at member
  split at member
  · obtain rfl := List.mem_singleton.1 member
    exact ⟨rfl, rfl⟩
  · simp at member

/-- The symbol of a binding is on the line of the binding. -/
theorem place_letSymbols (context : Context) (scope : Scope) (mark : Mark)
    (children : List Tree) : ∀ symbol ∈ context.letSymbols scope mark children,
      symbol.filePath = context.source.relative ∧ symbol.line = mark.row + 1 := by
  intro symbol member
  unfold Context.letSymbols at member
  split at member
  · split at member
    · obtain rfl := List.mem_singleton.1 member
      exact ⟨rfl, rfl⟩
    · simp at member
  · simp at member

/-- The symbols of fields are made along the body they stand in. -/
theorem along_fieldSymbols (context : Context) (scope : Scope) (owner : String) (body : Tree) :
    Along context.source.relative (context.fieldSymbols scope owner body) body.preorder := by
  obtain ⟨mark, children⟩ := body
  rw [Tree.preorder]
  refine .pass (.filterMap_namedTrees ?_ children)
  intro field symbol made
  simp only [Option.ite_none_right_eq_some, Option.map_eq_some_iff] at made
  obtain ⟨-, name, -, rfl⟩ := made
  exact ⟨rfl, rfl⟩

mutual

/-- The symbols of a tree are made along its nodes. -/
theorem along_visit (context : Context) (scope : Scope) (tree : Tree) :
    Along context.source.relative (visit context scope tree) tree.preorder := by
  match tree with
  | .node mark children =>
    have single : ∀ kind owner name, ∀ symbol ∈ [context.symbol scope mark kind owner name],
        symbol.filePath = context.source.relative ∧ symbol.line = mark.row + 1 := by
      intro kind owner name symbol member
      obtain rfl := List.mem_singleton.1 member
      exact ⟨rfl, rfl⟩
    unfold visit
    rw [Tree.preorder]
    cases Form.ofRule mark.rule with
    | inlineModule =>
      cases context.source.fieldText? "name" children with
      | none => exact .nothing _ _
      | some name => exact .pass (along_visitIn context "body" (scope.enter name) children)
    | structType =>
      cases context.source.fieldText? "name" children with
      | none => exact .nothing _ _
      | some name =>
        refine .at_node (single .classLike none name) ?_
        cases body : fieldChild? "body" children with
        | none => exact .nothing _ _
        | some fields => exact .fieldChild body (along_fieldSymbols context scope name fields)
    | enumeration =>
      cases context.source.fieldText? "name" children with
      | none => exact .nothing _ _
      | some name => exact .at_node (single .classLike none name) (.nothing _ _)
    | trait =>
      cases context.source.fieldText? "name" children with
      | none => exact .nothing _ _
      | some name =>
        exact .at_node (single .interface none name)
          (along_visitIn context "body" (scope.within name) children)
    | implementation =>
      cases fieldChild? "type" children with
      | none => exact .nothing _ _
      | some target => exact .pass (along_visitIn context "body" _ children)
    | function =>
      refine .at_node ?_ (along_visitIn context "body" scope children)
      cases context.source.fieldText? "name" children with
      | none => simp
      | some name => exact single .method scope.owner name
    | letBinding =>
      exact .at_node (place_letSymbols context scope mark children)
        (along_visitIn context "value" scope children)
    | call =>
      exact .at_node (place_callSymbols context scope mark children)
        (along_visitAmong context scope children)
    | other => exact .pass (along_visitAmong context scope children)

/-- The symbols of several trees are made along their nodes. -/
theorem along_visitAmong (context : Context) (scope : Scope) (trees : List Tree) :
    Along context.source.relative (visitAmong context scope trees)
      (Tree.preorderAmong trees) := by
  match trees with
  | [] => exact .nil
  | tree :: rest =>
    have others := along_visitAmong context scope rest
    unfold visitAmong
    rw [Tree.preorderAmong]
    split
    · exact (along_visit context scope tree).append others
    · exact others.behind _

/-- The symbols of the tree in a field are made along the trees it stands among. -/
theorem along_visitIn (context : Context) (field : String) (scope : Scope)
    (trees : List Tree) :
    Along context.source.relative (visitIn context field scope trees)
      (Tree.preorderAmong trees) := by
  match trees with
  | [] => exact .nil
  | tree :: rest =>
    unfold visitIn
    rw [Tree.preorderAmong]
    split
    · exact (along_visit context scope tree).before _
    · exact (along_visitIn context field scope rest).behind _

end

/-- The symbols of a file are made along its tree. -/
theorem along_symbols (source : Source) :
    Along source.relative (symbols source) source.tree.preorder :=
  along_visit ⟨source, definitions source { module := modulePath? source.relative } source.tree⟩
    { module := modulePath? source.relative } source.tree

end Rust

namespace Java

/-- Whether the parameters among the parts of a declaration, if there are any, stand in
front of the body. -/
def parametersLead (children : List Tree) : Bool :=
  (fieldChild? "parameters" children).isNone ||
    (children.takeWhile fun child => !child.fills "body").any (Tree.fills "parameters")

mutual

/-- Whether the parameters of every record at or below a node stand in front of its
body. -/
def recordsLead : Tree → Bool
  | .node mark children =>
    (mark.rule != "record_declaration" || parametersLead children) && recordsLeadAmong children

/-- Whether the parameters of every record at or below several nodes stand in front of
its body. -/
def recordsLeadAmong : List Tree → Bool
  | [] => true
  | tree :: rest => recordsLead tree && recordsLeadAmong rest

end

/-- Parameters that stand in front of the body are found among the parts in front of it. -/
theorem exists_append_of_parametersLead {children : List Tree} {list body : Tree}
    (lead : parametersLead children = true)
    (parameters : fieldChild? "parameters" children = some list)
    (found : fieldChild? "body" children = some body) :
    ∃ before after, children = before ++ body :: after ∧
      fieldChild? "parameters" before = some list := by
  obtain ⟨before, after, rfl, fills, others⟩ := exists_append_of_fieldChild? found
  refine ⟨before, after, rfl, ?_⟩
  have front : (before ++ body :: after).takeWhile (fun child => !child.fills "body") =
      before := by
    rw [List.takeWhile_append_of_pos (by simpa using others)]
    simp [fills]
  rw [parametersLead, front, parameters] at lead
  simp only [Option.isNone_some, Bool.false_or, List.any_eq_true] at lead
  obtain ⟨first, inside, isList⟩ := lead
  cases searched : fieldChild? "parameters" before with
  | none => exact absurd isList (by simpa using List.find?_eq_none.1 searched first inside)
  | some other =>
    have same : fieldChild? "parameters" (before ++ body :: after) = some other := by
      rw [fieldChild?, List.find?_append, ← fieldChild?, searched, Option.some_or]
    rw [← same, parameters]

/-- The symbol of a call is on the line of the call. -/
theorem place_callSymbols (context : Context) (scope : Scope) (mark : Mark)
    (children : List Tree) : ∀ symbol ∈ context.callSymbols scope mark children,
      symbol.filePath = context.source.relative ∧ symbol.line = mark.row + 1 := by
  intro symbol member
  unfold Context.callSymbols at member
  split at member
  · simp at member
  · obtain rfl := List.mem_singleton.1 member
    exact ⟨rfl, rfl⟩

/-- The symbol of a used name is on the line of the name. -/
theorem place_useSymbols (context : Context) (scope : Scope) (parent : Option String)
    (mark : Mark) : ∀ symbol ∈ context.useSymbols scope parent mark,
      symbol.filePath = context.source.relative ∧ symbol.line = mark.row + 1 := by
  intro symbol member
  unfold Context.useSymbols at member
  split at member
  · simp at member
  · split at member
    · simp at member
    · dsimp only at member
      split at member
      · simp at member
      · obtain rfl := List.mem_singleton.1 member
        exact ⟨rfl, rfl⟩

/-- The symbols of record components are made along the list of parameters. -/
theorem along_components (context : Context) (simple : String) (list : Tree) :
    Along context.source.relative
      ((namedTrees list.children).filterMap fun component =>
        (parameter? context.source component).map fun (name, written) =>
          context.symbol (some simple) component.mark .field name (written ++ " " ++ name))
      list.preorder := by
  obtain ⟨mark, components⟩ := list
  rw [Tree.preorder]
  refine .pass (.filterMap_namedTrees ?_ components)
  intro component symbol made
  obtain ⟨parameter, -, rfl⟩ := Option.map_eq_some_iff.1 made
  exact ⟨rfl, rfl⟩

/-- The symbol of a type and those of its components stand in front of what is made along
its body. -/
theorem along_typeSymbols (context : Context) (scope : Scope) (simple : String) (mark : Mark)
    (children : List Tree)
    (lead : mark.rule = "record_declaration" → parametersLead children = true)
    {members : List Symbol}
    (inBody : match fieldChild? "body" children with
      | some body => Along context.source.relative members body.preorder
      | none => members = []) :
    Along context.source.relative (context.typeSymbols scope simple mark children ++ members)
      (mark :: Tree.preorderAmong children) := by
  unfold Context.typeSymbols
  refine .make rfl rfl (.pass ?_)
  by_cases record : mark.rule = "record_declaration"
  · rw [if_pos record]
    cases parameters : fieldChild? "parameters" children with
    | none => exact .of_field inBody
    | some list =>
      have components := along_components context simple list
      cases found : fieldChild? "body" children with
      | none =>
        simp only [found] at inBody
        simpa [inBody] using Along.fieldChild parameters components
      | some body =>
        simp only [found] at inBody
        obtain ⟨before, after, rfl, front⟩ :=
          exists_append_of_parametersLead (lead record) parameters found
        rw [Tree.preorderAmong_append, Tree.preorderAmong]
        exact (Along.fieldChild front components).append (inBody.before _)
  · rw [if_neg record]
    exact .of_field inBody

mutual

/-- The symbols of a tree are made along its nodes. -/
theorem along_visit (context : Context) (parent : Option String) (scope : Scope) (tree : Tree)
    (lead : recordsLead tree = true) :
    Along context.source.relative (visit context parent scope tree).2 tree.preorder := by
  match tree with
  | .node mark children =>
    simp only [recordsLead, Bool.and_eq_true, Bool.or_eq_true, bne_iff_ne, ne_eq] at lead
    obtain ⟨own, below⟩ := lead
    unfold visit
    rw [Tree.preorder]
    dsimp only
    cases Form.ofRule mark.rule with
    | preamble => exact .nothing _ _
    | typeDeclaration =>
      cases context.source.fieldText? "name" children with
      | none => exact .nothing _ _
      | some simple =>
        exact along_typeSymbols context scope simple mark children
          (fun record => own.resolve_left (not_not_intro record))
          (along_visitIn context mark.rule "body" _ children below)
    | callable =>
      cases context.source.fieldText? "name" children with
      | none => exact .nothing _ _
      | some name =>
        exact .make rfl rfl (.pass (.of_field
          (along_visitIn context mark.rule "body" _ children below)))
    | fieldDeclaration =>
      exact .pass (along_visitDeclarators context .field _ scope children below)
    | enumConstant =>
      refine .at_node ?_ (along_visitAmong context mark.rule scope children below)
      cases context.source.fieldText? "name" children with
      | none => simp
      | some name => simp [Context.symbol]
    | localDeclaration =>
      exact .pass (along_visitDeclarators context .binding _ scope children below)
    | loopOrResource => exact .pass (along_visitAmong context mark.rule _ children below)
    | catchParameter => exact .nothing _ _
    | invocation =>
      exact .at_node (place_callSymbols context scope mark children)
        (along_visitAmong context mark.rule scope children below)
    | identifier =>
      simpa using Along.at_node (place_useSymbols context scope parent mark) (.nothing _ _)
    | other => exact .pass (along_visitAmong context mark.rule scope children below)

/-- The symbols of several trees are made along their nodes. -/
theorem along_visitAmong (context : Context) (parent : String) (scope : Scope)
    (trees : List Tree) (lead : recordsLeadAmong trees = true) :
    Along context.source.relative (visitAmong context parent scope trees).2
      (Tree.preorderAmong trees) := by
  match trees with
  | [] => exact .nil
  | tree :: rest =>
    simp only [recordsLeadAmong, Bool.and_eq_true] at lead
    unfold visitAmong
    rw [Tree.preorderAmong]
    split
    · exact (along_visit context (some parent) scope tree lead.1).append
        (along_visitAmong context parent _ rest lead.2)
    · exact (along_visitAmong context parent scope rest lead.2).behind _

/-- The symbols of the tree in a field are made along its nodes. -/
theorem along_visitIn (context : Context) (parent field : String) (scope : Scope)
    (trees : List Tree) (lead : recordsLeadAmong trees = true) :
    match fieldChild? field trees with
    | some tree =>
      Along context.source.relative (visitIn context parent field scope trees).2 tree.preorder
    | none => (visitIn context parent field scope trees).2 = [] := by
  match trees with
  | [] => rfl
  | tree :: rest =>
    simp only [recordsLeadAmong, Bool.and_eq_true] at lead
    rw [visitIn, fieldChild?, List.find?_cons]
    cases filled : tree.fills field with
    | true => exact along_visit context (some parent) scope tree lead.1
    | false => exact along_visitIn context parent field scope rest lead.2

/-- The symbols of declared variables are made along the trees they stand among. -/
theorem along_visitDeclarators (context : Context) (kind : Kind) (written : String)
    (scope : Scope) (trees : List Tree) (lead : recordsLeadAmong trees = true) :
    Along context.source.relative (visitDeclarators context kind written scope trees).2
      (Tree.preorderAmong trees) := by
  match trees with
  | [] => exact .nil
  | .node mark children :: rest =>
    simp only [recordsLeadAmong, recordsLead, Bool.and_eq_true] at lead
    unfold visitDeclarators
    rw [Tree.preorderAmong, Tree.preorder]
    split
    · split
      · exact (along_visitDeclarators context kind written scope rest lead.2).behind _
      · refine .make rfl rfl (.pass (.append ?_ ?_))
        · exact .of_field (along_visitIn context mark.rule "value" _ children lead.1.2)
        · exact along_visitDeclarators context kind written _ rest lead.2
    · exact (along_visitDeclarators context kind written scope rest lead.2).behind _

end

/-- The symbols of a file are made along its tree, whatever is known of other files. -/
theorem along_symbols (elsewhere : TypeIndex) (source : Source)
    (lead : recordsLead source.tree = true) :
    Along source.relative (symbols elsewhere source) source.tree.preorder :=
  along_visit ⟨source, (typesOf source).2, ⟨TypeIndex.addFile [] source, elsewhere⟩⟩
    none {} source.tree lead

end Java

/-- Whether a parser is one of those that are built in. -/
def Parser.isBuiltIn : Parser → Bool
  | python | rust | java _ => true
  | custom .. => false

/-- The symbols that a parser that is built in finds in a file are made along its tree. -/
theorem Parser.along_parse {parser : Parser} (builtIn : parser.isBuiltIn = true)
    {files : Files} {path root : String} {source : Source}
    (loaded : Source.load files path root = .ok source)
    (lead : ∀ types, parser = .java types → Java.recordsLead source.tree = true) :
    ∃ symbols, parser.parse files path root = .ok symbols ∧
      Along source.relative symbols source.tree.preorder := by
  cases parser with
  | python =>
    exact ⟨_, by rw [parse, loaded]; rfl, Python.along_symbols source⟩
  | rust =>
    exact ⟨_, by rw [parse, loaded]; rfl, Rust.along_symbols source⟩
  | java types =>
    exact ⟨_, by rw [parse, loaded]; rfl, Java.along_symbols types source (lead types rfl)⟩
  | custom name extensions setupError parse => simp [isBuiltIn] at builtIn

/-- Symbols of one file in the order of their lines are listed as they are. -/
theorem Symbol.selected_of_ascending {path : String} {symbols : List Symbol}
    (file : ∀ symbol ∈ symbols, symbol.filePath = path)
    (ascend : symbols.Pairwise fun earlier later => earlier.line ≤ later.line) :
    Symbol.selected [] symbols = symbols := by
  have all : symbols.filter (fun symbol => ([] : List Kind).isEmpty ||
      decide (symbol.kind ∈ ([] : List Kind))) = symbols := by simp
  rw [selected, all]
  apply List.mergeSort_of_pairwise
  refine ascend.imp_of_mem ?_
  intro earlier later first second order
  simp [sourceOrder, file earlier first, file later second, order]

/-- A store that counts no symbols is open on a table without rows. -/
theorem Store.of_count_eq_zero {workspace : Workspace} {store : Store}
    (empty : store.count workspace = .ok 0) :
    store.isOpen = true ∧ (workspace.database store.number).rows = some [] := by
  unfold count rows at empty
  cases isOpen : store.isOpen with
  | false => simp [isOpen] at empty
  | true =>
    cases present : (workspace.database store.number).rows with
    | none => simp [isOpen, Database.table, present] at empty
    | some rows =>
      simp only [isOpen, Database.table, present, if_true, Except.ok.injEq,
        List.length_eq_zero_iff] at empty
      exact ⟨rfl, by rw [empty]⟩

/-- A batch saved in an empty store is what the store holds, unless it leaves rows out. -/
theorem Store.rows_of_saved {workspace saved : Workspace} {store : Store} {symbols : List Symbol}
    {count : Nat} (empty : (workspace.database store.number).rows = some [])
    (skipsNone : (workspace.database store.number).SkipsNone)
    (granted : store.save workspace symbols = (saved, .ok count)) :
    (saved.database store.number).rows = some (symbols.map Row.ofSymbol) := by
  rcases save_cases symbols skipsNone with whole | ⟨error, failed⟩
  · rw [whole, Prod.mk.injEq] at granted
    rw [← granted.1, Workspace.rows_appendRows, empty]
    rfl
  · simp [failed] at granted

/-- The symbols that a parser which is built in finds in a file come in the order of their
lines, where the lines of the nodes of its tree do not go back; and where they have been
saved as one batch in an empty store that leaves no rows out, the store lists exactly them
in the order in which they were found. -/
theorem Parser.parse_in_source_order {parser : Parser} (builtIn : parser.isBuiltIn = true)
    {files : Files} {path root : String} {source : Source}
    (loaded : Source.load files path root = .ok source) (ascend : source.tree.RowsAscend)
    (lead : ∀ types, parser = .java types → Java.recordsLead source.tree = true) :
    ∃ symbols, parser.parse files path root = .ok symbols ∧
      (symbols.Pairwise fun earlier later => earlier.line ≤ later.line) ∧
      ∀ workspace store, Store.count workspace store = .ok 0 →
        (workspace.database store.number).SkipsNone →
        ∀ saved count, store.save workspace symbols = (saved, .ok count) →
          store.getAll saved [] = .ok symbols := by
  obtain ⟨symbols, parsed, along⟩ := along_parse builtIn loaded lead
  have lines := along.lines_ascend ascend
  refine ⟨symbols, parsed, lines, ?_⟩
  intro workspace store empty skipsNone saved count granted
  obtain ⟨isOpen, table⟩ := Store.of_count_eq_zero empty
  have filled := Store.rows_of_saved table skipsNone granted
  rw [Store.getAll_of_rows isOpen filled (Nat.zero_le _), Symbol.selected_of_ascending
    (fun symbol member => (along.exists_node symbol member).1) lines]

/-- A record over three lines, whose components, method and used name follow its own
symbol on the lines they stand on, also once they have been saved in a fresh store. -/
theorem Parser.parse_in_source_order_record :
    let node := fun (rule field : String) (start stop row : Nat) children =>
      Tree.node { rule := rule, fields := [field], start := start, stop := stop, row := row }
        children
    let component := fun (start row : Nat) =>
      node "formal_parameter" "" start (start + 5) row
        [ node "integral_type" "type" start (start + 3) row []
        , node "identifier" "name" (start + 4) (start + 5) row [] ]
    let method := node "method_declaration" "" 24 42 2
      [ node "integral_type" "type" 24 27 2 [], node "identifier" "name" 28 29 2 []
      , node "formal_parameters" "parameters" 29 31 2 []
      , node "block" "body" 31 42 2
          [node "return_statement" "" 32 41 2 [node "identifier" "" 39 40 2 []]] ]
    let record := node "record_declaration" "" 0 43 0
      [ node "identifier" "name" 7 8 0 []
      , node "formal_parameters" "parameters" 8 23 0 [component 10 1, component 17 2]
      , node "class_body" "body" 23 43 2 [method] ]
    let source : Source :=
      { relative := "R.java"
        text := "record R(\nint a,\nint b)\x7bint c()\x7breturn a;\x7d\x7d".toList
        tree := node "program" "" 0 43 0 [record] }
    let files : Files :=
      { entries := [("R.java", .file (.text (String.ofList source.text) (some source.tree)))] }
    let workspace : Workspace := { databases := [{ rows := some [] }] }
    let store : Store := { number := 0 }
    source.tree.RowsAscend ∧ Java.recordsLead source.tree = true ∧
      ∃ symbols, Parser.parse (.java []) files "R.java" "." = .ok symbols ∧
        symbols.map Symbol.line = [1, 2, 3, 3, 3] ∧
        store.getAll (store.save workspace symbols).1 [] = .ok symbols := by
  intro node component method record source files workspace store
  have loaded : Source.load files "R.java" "." = .ok source := rfl
  have ascend : source.tree.RowsAscend := by decide +kernel
  have lead : Java.recordsLead source.tree = true := by decide +kernel
  obtain ⟨symbols, parsed, -, listed⟩ :=
    @Parser.parse_in_source_order (.java []) rfl _ _ _ _ loaded ascend fun _ _ => lead
  have found : symbols = Java.symbols [] source := by
    rw [Parser.parse, loaded] at parsed
    exact (Except.ok.inj parsed).symm
  have granted : (store.save workspace symbols).2 = .ok 5 := by
    rw [found]
    decide +kernel
  refine ⟨ascend, lead, symbols, parsed, ?_, ?_⟩
  · rw [found]
    decide +kernel
  · exact listed workspace store rfl (by decide) _ _ (Prod.ext rfl granted)

/-- A refusal that leaves rows out silently lets a save succeed without its rows: the one
symbol of a file goes into an empty store and is not listed. -/
theorem Store.lists_less_where_rows_skipped :
    let node := fun (rule field : String) (start stop : Nat) children =>
      Tree.node { rule := rule, fields := [field], start := start, stop := stop } children
    let source : Source :=
      { relative := "x.py"
        text := "x = 1".toList
        tree := node "module" "" 0 5
          [ node "expression_statement" "" 0 5
              [ node "assignment" "" 0 5
                  [node "identifier" "left" 0 1 [], node "integer" "right" 4 5 []] ] ] }
    let session := ({} : Session).performAll [("main", .openAt (some "t.db") 1000)]
    source.tree.RowsAscend ∧ (Python.symbols source).length = 1 ∧
      (session.stores.get? "main").any (fun store =>
        let workspace := store.guardName session.workspace ⟨"x", .skips, ""⟩
        store.count workspace = .ok 0 &&
          (store.save workspace (Python.symbols source)).2 = .ok 1 &&
          store.getAll (store.save workspace (Python.symbols source)).1 [] = .ok []) = true := by
  decide +kernel

end SymbolAtlas
