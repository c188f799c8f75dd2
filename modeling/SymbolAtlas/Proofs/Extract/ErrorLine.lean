import SymbolAtlas.Extract.Source
import SymbolAtlas.Proofs.Tree

/-!
# The line of the first error

The search for an error keeps a list of pending trees and passes over every node that reports
none below it. Where all nodes tell the truth about what is below them, nothing is missed: the
walk over pending trees finds the first broken node of their pre-order, and that is the leftmost
of the broken nodes that have no broken node around them. So the line of a file's syntax error is
the one on which that node begins.

`Tree.ReportsErrors` is asked of the nodes above a broken one only. What the broken node says of
itself, and what sound nodes say that have nothing broken below them, makes no difference.
-/

namespace SymbolAtlas

namespace Tree

/-- Every node with a broken node below it reports an error. -/
def ReportsErrors (tree : Tree) : Prop :=
  ∀ outer ∈ tree.subtrees, ∀ mark ∈ preorderAmong outer.children,
    mark.isBroken = true → outer.mark.hasError = true

instance (tree : Tree) : Decidable tree.ReportsErrors :=
  inferInstanceAs (Decidable (∀ outer ∈ tree.subtrees, ∀ mark ∈ preorderAmong outer.children,
    mark.isBroken = true → outer.mark.hasError = true))

/-- What holds of all subtrees holds of those of a child. -/
theorem ReportsErrors.child {mark : Mark} {children : List Tree} {tree : Tree}
    (reports : (node mark children).ReportsErrors) (below : tree ∈ children) :
    tree.ReportsErrors := by
  intro outer inside
  refine reports outer ?_
  rw [subtrees, subtreesAmong_eq_flatMap]
  exact List.mem_cons_of_mem _ (List.mem_flatMap_of_mem below inside)

/-- A node that reports no error has no broken node below it. -/
theorem ReportsErrors.find?_below {mark : Mark} {children : List Tree}
    (reports : (node mark children).ReportsErrors) (silent : mark.hasError = false) :
    (preorderAmong children).find? Mark.isBroken = none := by
  rw [List.find?_eq_none]
  intro inner below broken
  have reported : mark.hasError = true :=
    reports (node mark children) (by simp [subtrees]) inner below broken
  simp [silent] at reported

/-- The walk over pending trees finds the first broken node of their pre-order. -/
theorem brokenRow?_eq_find? (pending : List Tree)
    (reports : ∀ tree ∈ pending, tree.ReportsErrors) :
    brokenRow? pending = ((preorderAmong pending).find? Mark.isBroken).map Mark.row := by
  fun_induction brokenRow? pending with
  | case1 => rfl
  | case2 mark children pending broken => simp [preorderAmong, preorder, broken]
  | case3 mark children pending sound reported hypothesis =>
    have later : ∀ tree ∈ putInFront children pending, tree.ReportsErrors := by
      intro tree member
      rw [putInFront_eq_append, List.mem_append] at member
      rcases member with below | behind
      · exact (reports _ List.mem_cons_self).child below
      · exact reports tree (List.mem_cons_of_mem _ behind)
    rw [hypothesis later, putInFront_eq_append, preorderAmong_append]
    simp [preorderAmong, preorder, sound]
  | case4 mark children pending sound silent hypothesis =>
    -- The children are passed over, which is right since none of their nodes is broken.
    have none := (reports _ List.mem_cons_self).find?_below (Bool.eq_false_iff.2 silent)
    rw [hypothesis fun tree behind => reports tree (List.mem_cons_of_mem _ behind)]
    simp [preorderAmong, preorder, sound, List.find?_append, none]

mutual

/-- The broken nodes with no broken node around them, from left to right. -/
def outermostBroken : Tree → List Mark
  | node mark children => if mark.isBroken then [mark] else outermostBrokenAmong children

/-- The outermost broken nodes of several trees. -/
def outermostBrokenAmong : List Tree → List Mark
  | [] => []
  | tree :: rest => outermostBroken tree ++ outermostBrokenAmong rest

end

mutual

/-- The leftmost outermost broken node is the first broken one in pre-order. -/
theorem head?_outermostBroken (tree : Tree) :
    tree.outermostBroken.head? = tree.preorder.find? Mark.isBroken := by
  match tree with
  | node mark children =>
    unfold outermostBroken preorder
    cases broken : mark.isBroken with
    | true => simp [broken]
    | false => simpa [broken] using head?_outermostBrokenAmong children
termination_by structural tree

/-- The same of several trees. -/
theorem head?_outermostBrokenAmong (trees : List Tree) :
    (outermostBrokenAmong trees).head? = (preorderAmong trees).find? Mark.isBroken := by
  match trees with
  | [] => rfl
  | tree :: rest =>
    rw [outermostBrokenAmong, preorderAmong, List.head?_append, List.find?_append,
      head?_outermostBroken tree, head?_outermostBrokenAmong rest]
termination_by structural trees

end

end Tree

namespace Source

/-- A file that reads as a text with a tree is refused for its syntax just when its path lies
below the root and the tree reports an error; the line is the tree's error line. -/
theorem load_eq_broken_iff {files : Files} {path root text : String} {tree : Tree}
    (reads : files.read path = .ok (text, some tree)) (line : Nat) :
    load files path root = .error (.broken path line) ↔
      (∃ relative, relativePath path root = .ok relative) ∧ tree.mark.hasError = true ∧
        line = tree.errorLine := by
  rw [load, reads]
  cases way : relativePath path root with
  | error error =>
    have outside : error = .outsideRoot path root := by
      simp only [relativePath] at way
      split at way
      · exact (Except.error.inj way).symm
      · cases way
    simp [outside]
  | ok relative =>
    cases reported : tree.mark.hasError with
    | false => simp [reported]
    | true => simp [reported, eq_comm]

end Source

/-- Where every node above a broken one reports an error, the error line of a tree is the line of
the first broken node in pre-order, and that of the root where no node is broken. The first one in
pre-order is the leftmost of the outermost, and its line is the one that a file is refused with. -/
theorem Tree.errorLine_of_first_broken (tree : Tree) (reports : tree.ReportsErrors) :
    tree.errorLine = ((tree.preorder.find? Mark.isBroken).getD tree.mark).row + 1 ∧
      tree.outermostBroken.head? = tree.preorder.find? Mark.isBroken ∧
      ∀ files path root text, Files.read files path = .ok (text, some tree) → ∀ line,
        (Source.load files path root = .error (.broken path line) ↔
          (∃ relative, relativePath path root = .ok relative) ∧ tree.mark.hasError = true ∧
            line = (tree.outermostBroken.head?.getD tree.mark).row + 1) := by
  have outermost := head?_outermostBroken tree
  have first : tree.errorLine =
      ((tree.preorder.find? Mark.isBroken).getD tree.mark).row + 1 := by
    rw [errorLine, brokenRow?_eq_find? [tree] (by simpa using reports)]
    cases found : tree.preorder.find? Mark.isBroken <;> simp [preorderAmong, found]
  refine ⟨first, outermost, ?_⟩
  intro files path root text reads line
  rw [Source.load_eq_broken_iff reads, first, outermost]

/-- A parenthesis is missing on the third line, two levels down and behind a statement without
errors, and what the fifth line holds is an error. The third line is reported. -/
theorem Tree.errorLine_of_first_broken_missing :
    let tree : Tree := node { rule := "module", hasError := true }
      [ node { rule := "expression_statement" } [node { rule := "identifier" } []]
      , node { rule := "function_definition", hasError := true, row := 2 }
          [ node { rule := "parameters", hasError := true, row := 2 }
              [node { rule := ")", missing := true, row := 2 } []] ]
      , node { rule := "ERROR", isError := true, hasError := true, row := 4 }
          [node { rule := "ERROR", isError := true, row := 4 } []] ]
    let files : Files := { entries := [("bad.py", .file (.text "x\n\ndef f(:\n\n??" (some tree)))] }
    tree.ReportsErrors ∧ files.read "bad.py" = .ok ("x\n\ndef f(:\n\n??", some tree) ∧
      tree.errorLine = 3 ∧ Source.load files "bad.py" "." = .error (.broken "bad.py" 3) := by
  intro tree files
  have reports : tree.ReportsErrors := by decide
  have reads : files.read "bad.py" = .ok ("x\n\ndef f(:\n\n??", some tree) := by rfl
  have below : relativePath "bad.py" "." = .ok "bad.py" := by rfl
  obtain ⟨line, -, loading⟩ := errorLine_of_first_broken tree reports
  exact ⟨reports, reads, line, (loading files "bad.py" "." _ reads 3).2 ⟨⟨_, below⟩, rfl, rfl⟩⟩

end SymbolAtlas
