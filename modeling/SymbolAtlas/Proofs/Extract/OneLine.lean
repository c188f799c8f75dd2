import Mathlib.Data.List.Infix
import Mathlib.Data.List.TakeWhile
import SymbolAtlas.Index.Parser
import SymbolAtlas.Proofs.Extract.JavaStops
import SymbolAtlas.Proofs.Text.Split

/-!
# Signatures on one line

A signature is cut from the text of a file. Python and Rust files give the first line of a
node, and the headers and calls of Java files are brought to one line word by word, so
neither holds a line feed however the file is broken over lines. The type of a variable, a
field or a component of a record stands in front of its name as it was written: a type that
goes over several lines takes its line feeds into the signature.

What is written out is the same for every symbol of Python and of Rust, whichever node it
is made at. `makes_visit` says so by induction over the tree. For Java it is a matter of
the single stops.
-/

namespace SymbolAtlas

/-- The signature of a symbol, where it has one, holds no line feed. -/
def Symbol.IsOneLine (symbol : Symbol) : Prop :=
  '\n' ∉ (symbol.signature.getD "").toList

instance (symbol : Symbol) : Decidable symbol.IsOneLine :=
  inferInstanceAs (Decidable ('\n' ∉ (symbol.signature.getD "").toList))

/-- The first line of a node is one line. -/
theorem Source.not_mem_signature (source : Source) (opener : Char) (mark : Mark) :
    '\n' ∉ (source.signature opener mark).toList := by
  have first : '\n' ∉ Text.trim (Text.firstLine (source.charsOf mark)) := by
    intro inside
    have kept := List.mem_takeWhile_imp (Text.mem_of_mem_trim inside)
    simp at kept
  unfold signature
  dsimp only
  split
  · rw [String.toList_ofList]
    intro inside
    exact first (List.mem_of_mem_dropLast (Text.mem_of_mem_trimEndWhile inside))
  · rwa [String.toList_ofList]

/-- The words of a text on one line are one line. -/
theorem Java.not_mem_collapsed (text : List Char) : '\n' ∉ (Java.collapsed text).toList := by
  intro inside
  rw [collapsed, String.toList_ofList] at inside
  have joined := Text.mem_of_mem_trimEndWhile (Text.mem_of_mem_trimEndWhile inside)
  rcases Text.mem_joinWith joined with between | ⟨word, listed, within⟩
  · simp at between
  · have unbroken := Text.not_cut_of_mem_splitWhen (List.mem_filter.1 listed).1 _ within
    exact absurd unbroken (by decide)

namespace Python

/-- A symbol is made from a node, whatever it refers to. -/
def Context.Makes (context : Context) (symbol : Symbol) : Prop :=
  ∃ scope mark kind name target,
    symbol = { context.symbol scope mark kind name with referenceTo := target }

namespace Context

variable {context : Context}

/-- Such a symbol shows the first line of its node. -/
theorem Makes.isOneLine {symbol : Symbol} (makes : context.Makes symbol) :
    symbol.IsOneLine := by
  obtain ⟨scope, mark, kind, name, target, rfl⟩ := makes
  exact context.source.not_mem_signature ':' mark

/-- A symbol that refers to nothing is made so. -/
theorem makes_symbol (scope : Scope) (mark : Mark) (kind : Kind) (name : String) :
    context.Makes (context.symbol scope mark kind name) :=
  ⟨scope, mark, kind, name, none, rfl⟩

/-- The symbol of a call is made from the call. -/
theorem makes_callSymbols (scope : Scope) (mark : Mark) (children : List Tree) :
    ∀ symbol ∈ context.callSymbols scope mark children, context.Makes symbol := by
  unfold callSymbols
  split
  · exact List.forall_mem_singleton.2 ⟨scope, mark, .reference, _, _, rfl⟩
  · exact List.forall_mem_nil _

end Context

mutual

/-- The symbols of a target are made from the assignment. -/
theorem makes_targetSymbols (context : Context) (scope : Scope) (assignment : Mark)
    (tree : Tree) : ∀ symbol ∈ targetSymbols context scope assignment tree,
      context.Makes symbol := by
  match tree with
  | .node mark children =>
    unfold targetSymbols
    split
    · exact List.forall_mem_singleton.2 (Context.makes_symbol ..)
    · split
      · split
        · exact List.forall_mem_singleton.2 (Context.makes_symbol ..)
        · exact List.forall_mem_nil _
      · exact List.forall_mem_nil _
    · exact makes_targetSymbolsAmong context scope assignment children
    · exact List.forall_mem_nil _

/-- The symbols of several targets are made from the assignment. -/
theorem makes_targetSymbolsAmong (context : Context) (scope : Scope) (assignment : Mark)
    (trees : List Tree) : ∀ symbol ∈ targetSymbolsAmong context scope assignment trees,
      context.Makes symbol := by
  match trees with
  | [] => exact List.forall_mem_nil _
  | tree :: rest =>
    have others := makes_targetSymbolsAmong context scope assignment rest
    unfold targetSymbolsAmong
    split
    · exact List.forall_mem_append.2
        ⟨makes_targetSymbols context scope assignment tree, others⟩
    · exact others

end

mutual

/-- Every symbol of a tree is made from a node. -/
theorem makes_visit (context : Context) (scope : Scope) (tree : Tree) :
    ∀ symbol ∈ visit context scope tree, context.Makes symbol := by
  match tree with
  | .node mark children =>
    unfold visit
    cases Form.ofRule mark.rule with
    | classDefinition =>
      cases context.source.fieldText? "name" children with
      | none => exact List.forall_mem_nil _
      | some name =>
        exact List.forall_mem_cons.2
          ⟨Context.makes_symbol .., makes_visitIn context "body" _ children⟩
    | functionDefinition =>
      refine List.forall_mem_append.2 ⟨?_, makes_visitIn context "body" _ children⟩
      cases context.source.fieldText? "name" children with
      | none => exact List.forall_mem_nil _
      | some name => exact List.forall_mem_singleton.2 (Context.makes_symbol ..)
    | assignment =>
      refine List.forall_mem_append.2 ⟨?_, makes_visitIn context "right" scope children⟩
      cases fieldChild? "left" children with
      | none => exact List.forall_mem_nil _
      | some left => exact makes_targetSymbols context scope mark left
    | call =>
      exact List.forall_mem_append.2
        ⟨Context.makes_callSymbols scope mark children, makes_visitAmong context scope children⟩
    | _ => exact makes_visitAmong context scope children

/-- Every symbol of several trees is made from a node. -/
theorem makes_visitAmong (context : Context) (scope : Scope) (trees : List Tree) :
    ∀ symbol ∈ visitAmong context scope trees, context.Makes symbol := by
  match trees with
  | [] => exact List.forall_mem_nil _
  | tree :: rest =>
    have others := makes_visitAmong context scope rest
    unfold visitAmong
    split
    · exact List.forall_mem_append.2 ⟨makes_visit context scope tree, others⟩
    · exact others

/-- Every symbol of the tree in a field is made from a node. -/
theorem makes_visitIn (context : Context) (field : String) (scope : Scope) (trees : List Tree) :
    ∀ symbol ∈ visitIn context field scope trees, context.Makes symbol := by
  match trees with
  | [] => exact List.forall_mem_nil _
  | tree :: rest =>
    unfold visitIn
    split
    · exact makes_visit context scope tree
    · exact makes_visitIn context field scope rest

end

end Python

namespace Rust

/-- A symbol is made from a node, whatever it refers to. -/
def Context.Makes (context : Context) (symbol : Symbol) : Prop :=
  ∃ scope mark kind owner name target,
    symbol = { context.symbol scope mark kind owner name with referenceTo := target }

namespace Context

variable {context : Context}

/-- Such a symbol shows the first line of its node. -/
theorem Makes.isOneLine {symbol : Symbol} (makes : context.Makes symbol) :
    symbol.IsOneLine := by
  obtain ⟨scope, mark, kind, owner, name, target, rfl⟩ := makes
  exact context.source.not_mem_signature '\x7b' mark

/-- A symbol that refers to nothing is made so. -/
theorem makes_symbol (scope : Scope) (mark : Mark) (kind : Kind) (owner : Option String)
    (name : String) : context.Makes (context.symbol scope mark kind owner name) :=
  ⟨scope, mark, kind, owner, name, none, rfl⟩

/-- The symbol of a call is made from the call. -/
theorem makes_callSymbols (scope : Scope) (mark : Mark) (children : List Tree) :
    ∀ symbol ∈ context.callSymbols scope mark children, context.Makes symbol := by
  unfold callSymbols
  split
  · exact List.forall_mem_singleton.2 ⟨scope, mark, .reference, scope.owner, _, _, rfl⟩
  · exact List.forall_mem_nil _

/-- The symbol of a binding is made from the binding. -/
theorem makes_letSymbols (scope : Scope) (mark : Mark) (children : List Tree) :
    ∀ symbol ∈ context.letSymbols scope mark children, context.Makes symbol := by
  unfold letSymbols
  split
  · split
    · exact List.forall_mem_singleton.2 (makes_symbol ..)
    · exact List.forall_mem_nil _
  · exact List.forall_mem_nil _

/-- The symbols of fields are made from their declarations. -/
theorem makes_fieldSymbols (scope : Scope) (owner : String) (body : Tree) :
    ∀ symbol ∈ context.fieldSymbols scope owner body, context.Makes symbol := by
  intro symbol member
  obtain ⟨field, -, made⟩ := List.mem_filterMap.1 member
  simp only [Option.ite_none_right_eq_some, Option.map_eq_some_iff] at made
  obtain ⟨-, name, -, rfl⟩ := made
  exact makes_symbol ..

end Context

mutual

/-- Every symbol of a tree is made from a node. -/
theorem makes_visit (context : Context) (scope : Scope) (tree : Tree) :
    ∀ symbol ∈ visit context scope tree, context.Makes symbol := by
  match tree with
  | .node mark children =>
    unfold visit
    cases Form.ofRule mark.rule with
    | inlineModule =>
      cases context.source.fieldText? "name" children with
      | none => exact List.forall_mem_nil _
      | some name => exact makes_visitIn context "body" (scope.enter name) children
    | structType =>
      cases context.source.fieldText? "name" children with
      | none => exact List.forall_mem_nil _
      | some name =>
        refine List.forall_mem_cons.2 ⟨Context.makes_symbol .., ?_⟩
        cases fieldChild? "body" children with
        | none => exact List.forall_mem_nil _
        | some body => exact Context.makes_fieldSymbols scope name body
    | enumeration =>
      cases context.source.fieldText? "name" children with
      | none => exact List.forall_mem_nil _
      | some name => exact List.forall_mem_singleton.2 (Context.makes_symbol ..)
    | trait =>
      cases context.source.fieldText? "name" children with
      | none => exact List.forall_mem_nil _
      | some name =>
        exact List.forall_mem_cons.2
          ⟨Context.makes_symbol .., makes_visitIn context "body" (scope.within name) children⟩
    | implementation =>
      cases fieldChild? "type" children with
      | none => exact List.forall_mem_nil _
      | some target => exact makes_visitIn context "body" _ children
    | function =>
      refine List.forall_mem_append.2 ⟨?_, makes_visitIn context "body" scope children⟩
      cases context.source.fieldText? "name" children with
      | none => exact List.forall_mem_nil _
      | some name => exact List.forall_mem_singleton.2 (Context.makes_symbol ..)
    | letBinding =>
      exact List.forall_mem_append.2
        ⟨Context.makes_letSymbols scope mark children, makes_visitIn context "value" scope children⟩
    | call =>
      exact List.forall_mem_append.2
        ⟨Context.makes_callSymbols scope mark children, makes_visitAmong context scope children⟩
    | other => exact makes_visitAmong context scope children

/-- Every symbol of several trees is made from a node. -/
theorem makes_visitAmong (context : Context) (scope : Scope) (trees : List Tree) :
    ∀ symbol ∈ visitAmong context scope trees, context.Makes symbol := by
  match trees with
  | [] => exact List.forall_mem_nil _
  | tree :: rest =>
    have others := makes_visitAmong context scope rest
    unfold visitAmong
    split
    · exact List.forall_mem_append.2 ⟨makes_visit context scope tree, others⟩
    · exact others

/-- Every symbol of the tree in a field is made from a node. -/
theorem makes_visitIn (context : Context) (field : String) (scope : Scope) (trees : List Tree) :
    ∀ symbol ∈ visitIn context field scope trees, context.Makes symbol := by
  match trees with
  | [] => exact List.forall_mem_nil _
  | tree :: rest =>
    unfold visitIn
    split
    · exact makes_visit context scope tree
    · exact makes_visitIn context field scope rest

end

end Rust

namespace Java

/-- What is taken into a signature at a stop as it stands in the text. -/
def Stop.verbatim (source : Source) (stop : Stop) : String :=
  match stop.role with
  | .component name written => written ++ name
  | .declarator _ name written => written ++ name
  | .use => source.textOf stop.node
  | _ => ""

/-- A symbol has a signature of one line just when what is taken into it as it stands goes
over no line. Everything else is brought to one line. -/
theorem Stop.isOneLine_iff {context : Context} {stop : Stop} {symbol : Symbol}
    (member : symbol ∈ stop.symbols context) :
    symbol.IsOneLine ↔ '\n' ∉ (stop.verbatim context.source).toList := by
  obtain ⟨role, above, scope, node⟩ := stop
  unfold Stop.symbols at member
  unfold Stop.verbatim
  cases role with
  | type | callable | constant =>
    obtain rfl := List.mem_singleton.1 member
    exact iff_of_true (not_mem_collapsed _) (by simp)
  | component | declarator =>
    obtain rfl := List.mem_singleton.1 member
    simp [Symbol.IsOneLine, Context.symbol]
  | call =>
    dsimp only at member
    unfold Context.callSymbols at member
    split at member
    · simp at member
    · obtain rfl := List.mem_singleton.1 member
      exact iff_of_true (not_mem_collapsed _) (by simp)
  | use =>
    dsimp only at member
    unfold Context.useSymbols at member
    split at member
    · simp at member
    · split at member
      · simp at member
      · dsimp only at member
        split at member
        · simp at member
        · obtain rfl := List.mem_singleton.1 member
          rfl

end Java

/-- The signatures of all symbols of Python and Rust files are on one line. Those of Java files
are so just where the type and name of a variable, field or component, and the name that is
used, are on one line as they are written. -/
theorem signatures_on_one_line (types : Java.TypeIndex) (source : Source) :
    (∀ symbol ∈ Python.symbols source, symbol.IsOneLine) ∧
      (∀ symbol ∈ Rust.symbols source, symbol.IsOneLine) ∧
      (Java.made types source).map Prod.snd = Java.symbols types source ∧
      ∀ stop symbol, (stop, symbol) ∈ Java.made types source →
        (symbol.IsOneLine ↔ '\n' ∉ (stop.verbatim source).toList) := by
  refine ⟨?_, ?_, Java.map_made types source, ?_⟩
  · intro symbol member
    exact (Python.makes_visit _ _ source.tree symbol member).isOneLine
  · intro symbol member
    exact (Rust.makes_visit _ _ source.tree symbol member).isOneLine
  · intro stop symbol inside
    exact @Java.Stop.isOneLine_iff (.ofSource types source) stop symbol
      (Java.mem_made.1 inside).2

/-- A field of a class whose type goes over two lines: the file is read without an error, and
the line feed is in the signature of the field. -/
theorem Java.signature_of_wrapped_type :
    let node := fun (rule field : String) (start stop row : Nat) children =>
      Tree.node { rule := rule, fields := [field], start := start, stop := stop, row := row }
        children
    let type := node "generic_type" "type" 8 29 0
      [ node "type_identifier" "" 8 11 0 []
      , node "type_arguments" "" 11 29 0
          [node "type_identifier" "" 12 18 0 [], node "type_identifier" "" 21 28 1 []] ]
    let declaration := node "field_declaration" "" 8 32 0
      [type, node "variable_declarator" "" 30 31 1 [node "identifier" "name" 30 31 1 []]]
    let tree := node "program" "" 0 33 0
      [ node "class_declaration" "" 0 33 0
          [node "identifier" "name" 6 7 0 [], node "class_body" "body" 7 33 0 [declaration]] ]
    let files : Files :=
      { entries :=
          [("A.java", .file (.text "class A\x7bMap<String,\n Integer> m;\x7d" (some tree)))] }
    ∃ symbols, Parser.parse (.java []) files "A.java" "." = .ok symbols ∧
      symbols.map Symbol.signature = [some "class A", some "Map<String,\n Integer> m"] ∧
      ∃ symbol ∈ symbols, ¬ symbol.IsOneLine := by
  intro node type declaration tree files
  let source : Source :=
    { relative := "A.java"
      text := "class A\x7bMap<String,\n Integer> m;\x7d".toList
      tree := tree }
  have parsed : Parser.parse (.java []) files "A.java" "." = .ok (Java.symbols [] source) := rfl
  refine ⟨Java.symbols [] source, parsed, ?_, ?_⟩
  · decide +kernel
  · decide +kernel

end SymbolAtlas
