import SymbolAtlas.Proofs.Extract.Sites

/-!
# What encloses the symbols of Rust files

The visit carries a module path and an owner down the tree, and an inline module starts without an
owner. Here both are read off the nodes around a node: `packageAt` is the module of the file
followed by the names of all inline modules around, and `ownerAt` is the name of the innermost trait
or implementation that is nearer than any of these modules. An implementation is named by the base
of its type, which `BuiltOn` reaches step by step.

The fields of a structure are listed with the structure, although the route does not go on below it.
So `entriesAt` gives the symbols of a site each with the site of its own node. A structure keeps its
fields in a body that is no item itself; this is said of a tree by `hasPlainBody`, and holds of
every tree that the grammar gives. Items are told by the rules of the grammar.
-/

namespace SymbolAtlas.Rust

/-- Whether a node is an inline module. -/
def isModule (tree : Tree) : Bool :=
  tree.rule = "mod_item"

/-- Whether the functions in a node belong to it. -/
def isOwner (tree : Tree) : Bool :=
  tree.rule = "trait_item" || tree.rule = "impl_item"

/-- Whether a node is a structure. -/
def isStruct (tree : Tree) : Bool :=
  tree.rule = "struct_item"

/-- The names of the inline modules around, the outermost first. -/
def moduleNames (source : Source) (above : List Tree) : List String :=
  (above.filter isModule).reverse.filterMap fun tree => source.fieldText? "name" tree.children

/-- The parts of a path as one text; none if there are no parts. -/
def joinPath (parts : List String) : Option String :=
  if parts.isEmpty then none else some ("::".intercalate parts)

/-- The module inside these nodes. -/
def packageAt (source : Source) (above : List Tree) : Option String :=
  joinPath ((modulePath? source.relative).toList ++ moduleNames source above)

/-- The name of the type that a trait or implementation is of. -/
def ownerName? (source : Source) (tree : Tree) : Option String :=
  if tree.rule = "trait_item" then source.fieldText? "name" tree.children
  else if tree.rule = "impl_item" then (fieldChild? "type" tree.children).map (typeName source)
  else none

/-- The name of the innermost trait or implementation around, up to the innermost inline module. -/
def ownerAt (source : Source) (above : List Tree) : Option String :=
  ((above.takeWhile fun tree => !isModule tree).find? isOwner).bind (ownerName? source)

/-- The name of the innermost structure around. -/
def structAt (source : Source) (above : List Tree) : Option String :=
  (above.find? isStruct).bind fun tree => source.fieldText? "name" tree.children

/-- The scope that the nodes around come to. -/
def scopeAt (source : Source) (above : List Tree) : Scope where
  module := packageAt source above
  owner := ownerAt source above

/-- A further part of a path stands behind a separator, if anything stands in front of it. -/
theorem joinPath_concat (parts : List String) (name : String) :
    joinPath (parts ++ [name]) = some (under (joinPath parts) name) := by
  cases parts with
  | nil => simp [joinPath, under]
  | cons first rest =>
    have joined : "::".intercalate (first :: rest ++ [name]) =
        "::".intercalate (first :: rest) ++ "::" ++ name := by
      rw [String.intercalate_append_of_ne_nil (by simp) (by simp), String.intercalate_singleton]
    simp [joinPath, under, ← joined]

section Scopes

variable {source : Source} {tree : Tree}

/-- Inline modules are of one form. -/
theorem isModule_iff : isModule tree = true ↔ Form.ofRule tree.rule = .inlineModule := by
  grind [isModule, Form.ofRule]

/-- Structures are of one form. -/
theorem isStruct_iff : isStruct tree = true ↔ Form.ofRule tree.rule = .structType := by
  grind [isStruct, Form.ofRule]

/-- Owners are of two forms. -/
theorem isOwner_iff : isOwner tree = true ↔
    Form.ofRule tree.rule = .trait ∨ Form.ofRule tree.rule = .implementation := by
  grind [isOwner, Form.ofRule]

/-- Inside an inline module. -/
theorem scopeAt_cons_module {name : String} (module : isModule tree = true)
    (named : source.fieldText? "name" tree.children = some name) (above : List Tree) :
    scopeAt source (tree :: above) = (scopeAt source above).enter name := by
  have names : moduleNames source (tree :: above) = moduleNames source above ++ [name] := by
    simp [moduleNames, module, named]
  have package : packageAt source (tree :: above) = some (under (packageAt source above) name) := by
    rw [packageAt, packageAt, names, ← List.append_assoc, joinPath_concat]
  simp [scopeAt, package, ownerAt, module, Scope.enter]

/-- Inside a trait or an implementation. -/
theorem scopeAt_cons_owner {name : String} (owner : isOwner tree = true)
    (named : ownerName? source tree = some name) (above : List Tree) :
    scopeAt source (tree :: above) = (scopeAt source above).within name := by
  have module : isModule tree = false := by
    grind [isModule, isOwner]
  simp [scopeAt, packageAt, moduleNames, ownerAt, module, owner, named, Scope.within]

/-- Inside anything else. -/
theorem scopeAt_cons_other (module : isModule tree = false) (owner : isOwner tree = false)
    (above : List Tree) : scopeAt source (tree :: above) = scopeAt source above := by
  simp [scopeAt, packageAt, moduleNames, ownerAt, module, owner]

/-- Inside a node of another form. -/
theorem scopeAt_cons_of_form (module : Form.ofRule tree.rule ≠ .inlineModule)
    (trait : Form.ofRule tree.rule ≠ .trait)
    (implementation : Form.ofRule tree.rule ≠ .implementation) (above : List Tree) :
    scopeAt source (tree :: above) = scopeAt source above := by
  refine scopeAt_cons_other ?_ ?_ above
  · rwa [← Bool.not_eq_true, isModule_iff]
  · rw [← Bool.not_eq_true, isOwner_iff, not_or]
    exact ⟨trait, implementation⟩

end Scopes

/-- The symbols of a node itself, from the node and what is around it. -/
def ownSymbols (context : Context) (site : Site) : List Symbol :=
  let scope := scopeAt context.source site.above
  let named := fun kind owner => (context.source.fieldText? "name" site.node.children).toList.map
    (context.symbol scope site.node.mark kind owner)
  match Form.ofRule site.node.rule with
  | .structType | .enumeration => named .classLike none
  | .trait => named .interface none
  | .function => named .method scope.owner
  | .letBinding => context.letSymbols scope site.node.mark site.node.children
  | .call => context.callSymbols scope site.node.mark site.node.children
  | .inlineModule | .implementation | .other => []

/-- The entry of a declaration in the body of a structure, if it is one of a named field. -/
def entryOfField? (context : Context) (site : Site) (owner : String) (body field : Tree) :
    Option (Site × Symbol) :=
  if field.rule = "field_declaration" then
    (context.source.fieldText? "name" field.children).map fun name =>
      (⟨field, body :: site.node :: site.above⟩,
        context.symbol (scopeAt context.source site.above) field.mark .field (some owner) name)
  else none

/-- The entries of the fields of a structure. -/
def fieldEntries (context : Context) (site : Site) : List (Site × Symbol) :=
  if isStruct site.node then
    match context.source.fieldText? "name" site.node.children,
      fieldChild? "body" site.node.children with
    | some owner, some body =>
      (namedTrees body.children).filterMap (entryOfField? context site owner body)
    | _, _ => []
  else []

/-- The symbols of a site and of its fields, each with the site of its own node. -/
def entriesAt (context : Context) (site : Site) : List (Site × Symbol) :=
  (ownSymbols context site).map (site, ·) ++ fieldEntries context site

/-- The symbols of several sites and of their fields. -/
def symbolsAt (context : Context) (sites : List Site) : List Symbol :=
  (sites.flatMap (entriesAt context)).map Prod.snd

/-- The entries of the fields hold their symbols. -/
theorem map_entryOfField? (context : Context) (site : Site) (owner : String) (body : Tree) :
    ((namedTrees body.children).filterMap (entryOfField? context site owner body)).map Prod.snd =
      context.fieldSymbols (scopeAt context.source site.above) owner body := by
  rw [List.map_filterMap, Context.fieldSymbols]
  refine List.filterMap_congr fun field _ => ?_
  unfold entryOfField?
  split
  · rw [Option.map_map]
    rfl
  · rfl

/-- The symbols of a site in front of others. -/
theorem symbolsAt_cons (context : Context) (site : Site) (sites : List Site) :
    symbolsAt context (site :: sites) =
      ownSymbols context site ++ (fieldEntries context site).map Prod.snd ++
        symbolsAt context sites := by
  simp [symbolsAt, entriesAt, Function.comp_def]

/-- A site that is no structure has its own symbols only. -/
theorem symbolsAt_cons_plain (context : Context) {site : Site} (plain : isStruct site.node = false)
    (sites : List Site) :
    symbolsAt context (site :: sites) = ownSymbols context site ++ symbolsAt context sites := by
  rw [symbolsAt_cons, fieldEntries, plain]
  simp

/-- The symbols of some sites and of others. -/
theorem symbolsAt_append (context : Context) (sites others : List Site) :
    symbolsAt context (sites ++ others) = symbolsAt context sites ++ symbolsAt context others := by
  simp [symbolsAt]

mutual

/-- The symbols of a tree in the scope of what is around it are those of its sites. -/
theorem visit_eq_symbolsAt (context : Context) (above : List Tree) (tree : Tree) :
    visit context (scopeAt context.source above) tree =
      symbolsAt context (tree.sites (route context.source) above) := by
  match tree with
  | .node mark children =>
    have among := visitAmong_eq_symbolsAt context (.node mark children :: above) children
    have inside (field : String) :=
      visitIn_eq_symbolsAt context field (.node mark children :: above) children
    rw [visit, Tree.sites, route]
    by_cases struct : Form.ofRule mark.rule = .structType
    · have struct' : isStruct (.node mark children) = true := isStruct_iff.2 struct
      rw [symbolsAt_cons, ownSymbols, fieldEntries]
      simp only [Tree.rule_node, Tree.children_node, struct, struct', if_true]
      cases context.source.fieldText? "name" children with
      | none => rfl
      | some name =>
        cases fieldChild? "body" children with
        | none => rfl
        | some body =>
          simp only [map_entryOfField?]
          exact (List.append_nil _).symm
    have plain : isStruct (.node mark children) = false := by
      rwa [← Bool.not_eq_true, isStruct_iff]
    rw [symbolsAt_cons_plain context plain, ownSymbols]
    simp only [Tree.rule_node, Tree.children_node]
    cases form : Form.ofRule mark.rule with
    | structType => exact absurd form struct
    | inlineModule =>
      cases named : context.source.fieldText? "name" children with
      | none => rfl
      | some name =>
        have module : isModule (.node mark children) = true := isModule_iff.2 form
        have within := inside "body"
        rw [scopeAt_cons_module module named] at within
        exact within
    | enumeration => cases context.source.fieldText? "name" children <;> rfl
    | trait =>
      cases named : context.source.fieldText? "name" children with
      | none => rfl
      | some name =>
        have owner : ownerName? context.source (.node mark children) = some name := by
          rw [ownerName?, if_pos (by grind [Form.ofRule, Tree.rule_node])]
          exact named
        have owning : isOwner (.node mark children) = true := isOwner_iff.2 (.inl form)
        have within := inside "body"
        rw [scopeAt_cons_owner owning owner] at within
        exact congrArg _ within
    | implementation =>
      cases target : fieldChild? "type" children with
      | none => rfl
      | some type =>
        have owner : ownerName? context.source (.node mark children) =
            some (typeName context.source type) := by
          rw [ownerName?, if_neg (by grind [Form.ofRule, Tree.rule_node]),
            if_pos (by grind [Form.ofRule, Tree.rule_node]), Tree.children_node, target]
          rfl
        have owning : isOwner (.node mark children) = true := isOwner_iff.2 (.inr form)
        have within := inside "body"
        rw [scopeAt_cons_owner owning owner] at within
        exact within
    | function =>
      have within := inside "body"
      rw [scopeAt_cons_of_form (by simp [form]) (by simp [form]) (by simp [form])] at within
      dsimp only
      rw [within]
      cases context.source.fieldText? "name" children <;> rfl
    | letBinding =>
      have within := inside "value"
      rw [scopeAt_cons_of_form (by simp [form]) (by simp [form]) (by simp [form])] at within
      exact congrArg _ within
    | call =>
      rw [scopeAt_cons_of_form (by simp [form]) (by simp [form]) (by simp [form])] at among
      exact congrArg _ among
    | other =>
      rw [scopeAt_cons_of_form (by simp [form]) (by simp [form]) (by simp [form])] at among
      exact among

/-- The symbols of several trees are those of their sites. -/
theorem visitAmong_eq_symbolsAt (context : Context) (above trees : List Tree) :
    visitAmong context (scopeAt context.source above) trees =
      symbolsAt context (Tree.sitesAmong (route context.source) above trees) := by
  match trees with
  | [] => rfl
  | tree :: rest =>
    unfold visitAmong Tree.sitesAmong
    split
    · rw [symbolsAt_append, visit_eq_symbolsAt, visitAmong_eq_symbolsAt]
    · exact visitAmong_eq_symbolsAt context above rest

/-- The symbols of the tree in a field are those of its sites. -/
theorem visitIn_eq_symbolsAt (context : Context) (field : String) (above trees : List Tree) :
    visitIn context field (scopeAt context.source above) trees =
      symbolsAt context (Tree.sitesIn (route context.source) field above trees) := by
  match trees with
  | [] => rfl
  | tree :: rest =>
    unfold visitIn Tree.sitesIn
    split
    · exact visit_eq_symbolsAt context above tree
    · exact visitIn_eq_symbolsAt context field above rest

end

/-- The type that a written type is built on directly: without its arguments, its reference or its
path. -/
def innerType? (tree : Tree) : Option Tree :=
  if tree.rule = "generic_type" || tree.rule = "reference_type" then
    fieldChild? "type" tree.children
  else if tree.rule = "scoped_type_identifier" then fieldChild? "name" tree.children
  else none

/-- A written type comes to a base without arguments, references and path, by any number of steps.
-/
inductive BuiltOn : Tree → Tree → Prop
  | itself {tree : Tree} (bare : innerType? tree = none) : BuiltOn tree tree
  | inner {tree inner base : Tree} (step : innerType? tree = some inner)
      (rest : BuiltOn inner base) : BuiltOn tree base

/-- The type that a written type is built on is in the field of its rule. -/
theorem innerType?_eq (tree : Tree) : innerType? tree =
    (innerField? tree.rule).bind fun field => fieldChild? field tree.children := by
  unfold innerType? innerField?
  split
  · rfl
  · split <;> rfl

mutual

/-- Every written type is built on some base. -/
theorem exists_builtOn (tree : Tree) : ∃ base, BuiltOn tree base := by
  match tree with
  | .node mark children =>
    cases step : innerType? (.node mark children) with
    | none => exact ⟨_, .itself step⟩
    | some inner =>
      rw [innerType?_eq] at step
      obtain ⟨field, -, found⟩ := Option.bind_eq_some_iff.1 step
      obtain ⟨base, rest⟩ := exists_builtOn_of_fieldChild? field children inner found
      exact ⟨base, .inner ((innerType?_eq _).trans step) rest⟩
termination_by structural tree

/-- So is the type that fills a field. -/
theorem exists_builtOn_of_fieldChild? (field : String) (trees : List Tree) :
    ∀ inner, fieldChild? field trees = some inner → ∃ base, BuiltOn inner base := by
  match trees with
  | [] => simp [fieldChild?]
  | tree :: rest =>
    intro inner found
    rw [fieldChild?, List.find?_cons] at found
    split at found
    · obtain rfl := Option.some.inj found
      exact exists_builtOn tree
    · exact exists_builtOn_of_fieldChild? field rest inner found
termination_by structural trees

end

/-- The name of the type that fills a field. -/
theorem typeNameIn_eq (source : Source) (field : String) (trees : List Tree) :
    typeNameIn source field trees = (fieldChild? field trees).map (typeName source) := by
  induction trees with
  | nil => rfl
  | cons tree rest hypothesis =>
    rw [typeNameIn, fieldChild?, List.find?_cons]
    split <;> simp_all [fieldChild?]

/-- The name of a written type is the text of its base. -/
theorem typeName_of_builtOn {source : Source} {target base : Tree} (built : BuiltOn target base) :
    typeName source target = source.textOf base := by
  induction built with
  | @itself tree bare =>
    obtain ⟨mark, children⟩ := tree
    rw [typeName]
    cases field : innerField? mark.rule with
    | none => rfl
    | some field' =>
      have none : fieldChild? field' children = none := by
        simpa [innerType?_eq, Tree.rule_node, field] using bare
      dsimp only
      rw [typeNameIn_eq, none]
      rfl
  | @inner tree inner base step rest hypothesis =>
    obtain ⟨mark, children⟩ := tree
    rw [innerType?_eq] at step
    obtain ⟨field, of, found⟩ := Option.bind_eq_some_iff.1 step
    have found : fieldChild? field children = some inner := found
    have of : innerField? mark.rule = some field := of
    rw [typeName, of]
    dsimp only
    rw [typeNameIn_eq, found, ← hypothesis]
    rfl

/-- The name of the type that a symbol of some kind belongs to. -/
def classNameAt (source : Source) (above : List Tree) : Kind → Option String
  | .method | .binding | .reference => ownerAt source above
  | .field => structAt source above
  | .classLike | .interface => none

/-- A symbol stands where a site is in a file: in the module and the type around the site, and on
the line of the node. -/
structure StandsAt (source : Source) (site : Site) (symbol : Symbol) : Prop where
  packageName : symbol.packageName = packageAt source site.above
  className : symbol.className = classNameAt source site.above symbol.kind
  line : symbol.line = site.node.lineNumber

/-- The body of a structure, if the node is one, is no module, no owner and no structure itself. -/
def hasPlainBody (tree : Tree) : Bool :=
  !isStruct tree || (fieldChild? "body" tree.children).all fun body =>
    !isModule body && !isOwner body && !isStruct body

/-- A symbol made for a node in the scope of what is around it stands there. -/
theorem standsAt_symbol (context : Context) (site : Site) (kind : Kind) (name : String)
    (target : Option String) :
    StandsAt context.source site
      { context.symbol (scopeAt context.source site.above) site.node.mark kind
          (classNameAt context.source site.above kind) name with referenceTo := target } :=
  ⟨rfl, rfl, rfl⟩

/-- The own symbols of a site stand there. -/
theorem standsAt_of_mem_ownSymbols {context : Context} {site : Site} {symbol : Symbol}
    (found : symbol ∈ ownSymbols context site) : StandsAt context.source site symbol := by
  have made := standsAt_symbol context site
  unfold ownSymbols at found
  split at found
  · obtain ⟨name, -, rfl⟩ := List.mem_map.1 found
    exact made .classLike name none
  · obtain ⟨name, -, rfl⟩ := List.mem_map.1 found
    exact made .classLike name none
  · obtain ⟨name, -, rfl⟩ := List.mem_map.1 found
    exact made .interface name none
  · obtain ⟨name, -, rfl⟩ := List.mem_map.1 found
    exact made .method name none
  · dsimp only [Context.letSymbols] at found
    split at found
    · split at found
      · obtain rfl := List.mem_singleton.1 found
        exact made .binding _ none
      · cases found
    · cases found
  · dsimp only [Context.callSymbols] at found
    split at found
    · obtain rfl := List.mem_singleton.1 found
      exact made .reference _ _
    · cases found
  all_goals cases found

/-- An entry of a field is that of a site in the tree, and its symbol stands there. -/
theorem isIn_and_standsAt_of_mem_fieldEntries {context : Context} {site : Site} {root : Tree}
    (inside : site.IsIn root) (plain : hasPlainBody site.node = true) {entry : Site × Symbol}
    (found : entry ∈ fieldEntries context site) :
    entry.1.IsIn root ∧ StandsAt context.source entry.1 entry.2 := by
  unfold fieldEntries at found
  split at found
  · rename_i struct
    split at found
    · rename_i owner body named holds
      have form : Form.ofRule site.node.rule = .structType := isStruct_iff.1 struct
      obtain ⟨⟨module, owned⟩, nested⟩ :
          (isModule body = false ∧ isOwner body = false) ∧ isStruct body = false := by
        simpa [hasPlainBody, struct, holds] using plain
      have scope : scopeAt context.source (body :: site.node :: site.above) =
          scopeAt context.source site.above := by
        rw [scopeAt_cons_other module owned,
          scopeAt_cons_of_form (by simp [form]) (by simp [form]) (by simp [form])]
      have holder : structAt context.source (body :: site.node :: site.above) = some owner := by
        simp [structAt, struct, nested, named]
      obtain ⟨field, among, made⟩ := List.mem_filterMap.1 found
      unfold entryOfField? at made
      split at made
      · obtain ⟨name, -, rfl⟩ := Option.map_eq_some_iff.1 made
        exact ⟨.child (.child inside (List.mem_of_find?_eq_some holds))
          (List.mem_of_mem_filter among), congrArg Scope.module scope.symm, holder.symm, rfl⟩
      · cases made
    · cases found
  · cases found

/-- What stays the same during the extraction from this file. -/
def Context.ofSource (source : Source) : Context where
  source := source
  definitions := Rust.definitions source { module := modulePath? source.relative } source.tree

/-- The symbols of a Rust file belong to sites of its tree, each to one where it stands. -/
structure ListsBySite (source : Source) (entries : List (Site × Symbol)) : Prop where
  symbols_eq : symbols source = entries.map Prod.snd
  isIn : ∀ entry ∈ entries, entry.1.IsIn source.tree
  standing : ∀ entry ∈ entries, StandsAt source entry.1 entry.2

/-- Outside of all modules a file has its own module, and nothing has an owner. -/
theorem scopeAt_nil (source : Source) :
    scopeAt source [] = { module := modulePath? source.relative } := by
  have package : packageAt source [] = modulePath? source.relative := by
    cases found : modulePath? source.relative <;> simp [packageAt, moduleNames, joinPath, found]
  rw [scopeAt, package]
  rfl

/-- Every symbol of a Rust file has the module of the file, followed by the inline modules around
its node. Methods, variables and references have the type of the innermost trait or implementation
that is around them in the innermost of these modules, fields have their structure, and types
nothing. The type that an implementation is of is named by the base that it is built on, and there
is always one. -/
theorem symbols_by_enclosing_items (source : Source)
    (plain : ∀ tree ∈ source.tree.subtrees, hasPlainBody tree = true) :
    ListsBySite source
        ((source.tree.sites (route source) []).flatMap (entriesAt (Context.ofSource source))) ∧
      (∀ target, ∃ base, BuiltOn target base) ∧
      ∀ target base, BuiltOn target base → typeName source target = source.textOf base := by
  have entered (entry : Site × Symbol) (found : entry ∈
      (source.tree.sites (route source) []).flatMap (entriesAt (Context.ofSource source))) :
      entry.1.IsIn source.tree ∧ StandsAt source entry.1 entry.2 := by
    obtain ⟨site, reached, here⟩ := List.mem_flatMap.1 found
    have inside := Tree.isIn_of_mem_sites .root reached
    rcases List.mem_append.1 here with own | below
    · obtain ⟨symbol, listed, rfl⟩ := List.mem_map.1 own
      exact ⟨inside, standsAt_of_mem_ownSymbols listed⟩
    · exact isIn_and_standsAt_of_mem_fieldEntries inside
        (plain site.node (Tree.mem_subtrees_of_mem_sites (route source) reached)) below
  refine ⟨⟨?_, fun entry found => (entered entry found).1,
    fun entry found => (entered entry found).2⟩,
    exists_builtOn, fun target base built => typeName_of_builtOn built⟩
  have outside := visit_eq_symbolsAt (Context.ofSource source) [] source.tree
  rw [show scopeAt (Context.ofSource source).source [] = _ from scopeAt_nil source] at outside
  exact outside

/-- A function that holds a structure and a call, in an implementation of a generic type behind a
path, in an inline module. -/
theorem symbols_by_enclosing_items_nested :
    let node := fun (rule field : String) (start stop : Nat) children =>
      Tree.node { rule := rule, fields := [field], start := start, stop := stop } children
    let struct := node "struct_item" "" 26 39
      [ node "type_identifier" "name" 33 34 []
      , node "field_declaration_list" "body" 34 39
          [ node "field_declaration" "" 35 38
              [node "field_identifier" "name" 35 36 [], node "type_identifier" "type" 37 38 []] ] ]
    let binding := node "let_declaration" "" 39 49
      [ node "identifier" "pattern" 43 44 []
      , node "call_expression" "value" 45 48
          [node "identifier" "function" 45 46 [], node "arguments" "arguments" 46 48 []] ]
    let target := node "generic_type" "type" 11 18
      [ node "scoped_type_identifier" "type" 11 15
          [node "identifier" "path" 11 12 [], node "type_identifier" "name" 14 15 []]
      , node "type_arguments" "type_arguments" 15 18 [node "type_identifier" "" 16 17 []] ]
    let function := node "function_item" "" 19 50
      [ node "identifier" "name" 22 23 []
      , node "parameters" "parameters" 23 25 []
      , node "block" "body" 25 50 [struct, binding] ]
    let source : Source :=
      { relative := "src/m.rs"
        text := "mod a{impl p::Q<T>{fn f(){struct S{x:T}let y=g();}}}".toList
        tree := node "source_file" "" 0 52
          [ node "mod_item" "" 0 52
              [ node "identifier" "name" 4 5 []
              , node "declaration_list" "body" 5 52
                  [ node "impl_item" "" 6 51
                      [target, node "declaration_list" "body" 18 51 [function]] ] ] ] }
    (∀ tree ∈ source.tree.subtrees, hasPlainBody tree = true) ∧
      ListsBySite source
        ((source.tree.sites (route source) []).flatMap (entriesAt (Context.ofSource source))) ∧
      (symbols source).map (fun symbol => (symbol.name, symbol.packageName, symbol.className)) =
        [ ("f", some "m::a", some "Q"), ("S", some "m::a", none), ("x", some "m::a", some "S")
        , ("y", some "m::a", some "Q"), ("g", some "m::a", some "Q") ] := by
  intro node struct binding target function source
  have plain : ∀ tree ∈ source.tree.subtrees, hasPlainBody tree = true := by decide +kernel
  exact ⟨plain, (symbols_by_enclosing_items source plain).1, by decide +kernel⟩

end SymbolAtlas.Rust
