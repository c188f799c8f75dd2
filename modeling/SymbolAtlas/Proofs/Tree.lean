import SymbolAtlas.Tree

/-!
# Nodes in pre-order

A tree lists its nodes with every node in front of those below it, and the nodes of
earlier children in front of those of later ones; its subtrees are listed in the same
order. `RowsAscend` says that the lines on which the nodes begin never go back along
this list, as is the case for a tree of a text.
-/

namespace SymbolAtlas

namespace Tree

@[simp] theorem children_node (mark : Mark) (children : List Tree) :
    (node mark children).children = children := rfl

@[simp] theorem rule_node (mark : Mark) (children : List Tree) :
    (node mark children).rule = mark.rule := rfl

mutual

/-- The nodes of a tree in pre-order. -/
def preorder : Tree → List Mark
  | node mark children => mark :: preorderAmong children

/-- The nodes of several trees in pre-order. -/
def preorderAmong : List Tree → List Mark
  | [] => []
  | tree :: rest => preorder tree ++ preorderAmong rest

end

mutual

/-- The subtrees of a tree in pre-order, itself first. -/
def subtrees : Tree → List Tree
  | .node mark children => .node mark children :: subtreesAmong children

/-- The subtrees of several trees in pre-order. -/
def subtreesAmong : List Tree → List Tree
  | [] => []
  | tree :: rest => subtrees tree ++ subtreesAmong rest

end

/-- The subtrees of several trees are those of each. -/
theorem subtreesAmong_eq_flatMap (trees : List Tree) :
    subtreesAmong trees = trees.flatMap subtrees := by
  induction trees with
  | nil => rfl
  | cons tree rest hypothesis => rw [subtreesAmong, hypothesis, List.flatMap_cons]

/-- No node begins on an earlier line than one in front of it. -/
def RowsAscend (tree : Tree) : Prop :=
  (tree.preorder.map Mark.row).Pairwise (· ≤ ·)

instance (tree : Tree) : Decidable tree.RowsAscend :=
  inferInstanceAs (Decidable ((tree.preorder.map Mark.row).Pairwise (· ≤ ·)))

/-- The nodes of two lists of trees follow each other. -/
@[simp] theorem preorderAmong_append (trees others : List Tree) :
    preorderAmong (trees ++ others) = preorderAmong trees ++ preorderAmong others := by
  induction trees with
  | nil => rfl
  | cons tree rest hypothesis => simp [preorderAmong, hypothesis]

end Tree

/-- The tree that fills a field stands behind trees that do not. -/
theorem exists_append_of_fieldChild? {field : String} {children : List Tree} {child : Tree}
    (found : fieldChild? field children = some child) :
    ∃ before after, children = before ++ child :: after ∧
      child.fills field = true ∧ ∀ tree ∈ before, tree.fills field = false := by
  obtain ⟨fills, before, after, split, others⟩ := List.find?_eq_some_iff_append.1 found
  exact ⟨before, after, split, fills, fun tree member => by simpa using others tree member⟩

end SymbolAtlas
