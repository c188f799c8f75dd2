/-!
# Syntax trees

The finished syntax tree of a source file. A node carries the name of its
grammar rule, the field names under which its parent finds it, its place in the
encoded text and the flags of the recovery from errors; the punctuation between
named nodes is in the tree too.

A tree is written down as its nodes in pre-order with their depths, and read
back by `ofPreorder?`: a node's children are the run of deeper nodes behind it.
-/

namespace SymbolAtlas

/-- What is known of one node besides its children. -/
structure Mark where
  /-- The grammar rule, or the token itself for punctuation. -/
  rule : String
  /-- The fields of the parent that this node fills. -/
  fields : List String := []
  named : Bool := true
  /-- A token the reader supplied because the text lacks it. -/
  missing : Bool := false
  /-- Whether an error or a missing token lies in or below the node. -/
  hasError : Bool := false
  isError : Bool := false
  /-- Byte offsets of the first byte and of the byte behind the last. -/
  start : Nat := 0
  stop : Nat := 0
  /-- The line of the first byte, counted from zero. -/
  row : Nat := 0
  deriving DecidableEq, Repr

/-- Whether the reading of the text went wrong at the node itself. -/
def Mark.isBroken (mark : Mark) : Bool :=
  mark.isError || mark.missing

/-- A syntax tree. -/
inductive Tree where
  | node (mark : Mark) (children : List Tree)

namespace Tree

/-- The mark of a tree's root. -/
def mark : Tree → Mark
  | node mark _ => mark

/-- The trees directly below the root, punctuation included. -/
def children : Tree → List Tree
  | node _ children => children

/-- The grammar rule of the root. -/
def rule (tree : Tree) : String :=
  tree.mark.rule

/-- Whether the node fills a field of its parent. -/
def fills (field : String) (tree : Tree) : Bool :=
  tree.mark.fields.contains field

/-- The line of a node's first byte, counted from one. -/
def lineNumber (tree : Tree) : Int :=
  tree.mark.row + 1

/-- Add a node in front of the trees that follow it in pre-order, each given with
its depth; the deeper ones directly behind it become its children. -/
def attach (entry : Nat × Mark) (following : List (Nat × Tree)) : List (Nat × Tree) :=
  let deeper := fun (later : Nat × Tree) => decide (entry.1 < later.1)
  (entry.1, node entry.2 ((following.takeWhile deeper).map Prod.snd)) ::
    following.dropWhile deeper

/-- The tree whose nodes in pre-order, with their depths, are these. -/
def ofPreorder? (entries : List (Nat × Mark)) : Option Tree :=
  ((entries.foldr attach []).head?).map Prod.snd

/-- Trees put in front of pending ones, the last one first, so that the leftmost comes
next. -/
def putInFront (children pending : List Tree) : List Tree :=
  children.foldr List.cons pending

/-- Trees put in front of others follow each other. -/
@[simp] theorem putInFront_eq_append (children pending : List Tree) :
    putInFront children pending = children ++ pending :=
  List.foldr_cons_eq_append'

/-- The sizes of trees put in front of others and of these add up. -/
theorem sizeOf_putInFront (children pending : List Tree) :
    sizeOf (putInFront children pending) + 1 = sizeOf children + sizeOf pending := by
  induction children with
  | nil => simp [putInFront]; omega
  | cons child rest hypothesis =>
    simp only [putInFront, List.foldr_cons, List.cons.sizeOf_spec] at hypothesis ⊢
    omega

/-- The row of the first broken node on a walk over pending trees, of which the first
one is taken up next. A node that reports an error below it has its children put in
front of the pending trees; one that reports none is passed over with all below it. -/
def brokenRow? : List Tree → Option Nat
  | [] => none
  | node mark children :: pending =>
    if mark.isBroken then some mark.row
    else if mark.hasError then brokenRow? (putInFront children pending)
    else brokenRow? pending
termination_by pending => sizeOf pending
decreasing_by
  · have sizes := sizeOf_putInFront children pending
    simp only [List.cons.sizeOf_spec, node.sizeOf_spec]
    omega
  · simp only [List.cons.sizeOf_spec]
    omega

/-- The line reported for a tree with an error: that of the first broken node, or
its own first line where no node is found broken. -/
def errorLine (tree : Tree) : Nat :=
  (brokenRow? [tree]).getD tree.mark.row + 1

end Tree

/-- The first of several trees that fills a field. -/
def fieldChild? (field : String) (children : List Tree) : Option Tree :=
  children.find? (Tree.fills field)

/-- The trees that stand for something, without the punctuation between them. -/
def namedTrees (children : List Tree) : List Tree :=
  children.filter fun child => child.mark.named

end SymbolAtlas
