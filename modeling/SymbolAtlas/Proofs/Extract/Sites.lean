import SymbolAtlas.Proofs.Extract.CallSites

/-!
# Nodes with what is around them

A visit carries a scope down from node to node, and every symbol is made in the scope of its node.
What the scopes come to is said without them: a `Site` is a node with the nodes around it, and
`Tree.sites` lists the sites on a route. A visit whose scopes say no more than the nodes around
lists the symbols of one site after another.

The nodes around a site are those that the route has passed on its way, so the route goes on below
each of them. Whether all nodes of some kind are on the route is known from the parts that it leaves
out.
-/

namespace SymbolAtlas

/-- A node with the nodes around it, the innermost first. -/
structure Site where
  node : Tree
  above : List Tree

/-- A site is one of a tree: the node is there, and these nodes and no others are around it. -/
inductive Site.IsIn (tree : Tree) : Site → Prop
  | root : IsIn tree ⟨tree, []⟩
  | child {parent child : Tree} {above : List Tree} (outer : IsIn tree ⟨parent, above⟩)
      (below : child ∈ parent.children) : IsIn tree ⟨child, parent :: above⟩

namespace Tree

variable (route : Route)

mutual

/-- The sites of the nodes that are come to in a tree, in pre-order, given what is around it. -/
def sites (above : List Tree) : Tree → List Site
  | .node mark children =>
    ⟨.node mark children, above⟩ :: match route mark children with
      | .nowhere => []
      | .named => sitesAmong (.node mark children :: above) children
      | .only field => sitesIn field (.node mark children :: above) children
termination_by structural tree => tree

/-- The sites below the named trees among several. -/
def sitesAmong (above : List Tree) : List Tree → List Site
  | [] => []
  | tree :: rest =>
    if tree.mark.named then sites above tree ++ sitesAmong above rest else sitesAmong above rest
termination_by structural trees => trees

/-- The sites below the tree that fills a field. -/
def sitesIn (field : String) (above : List Tree) : List Tree → List Site
  | [] => []
  | tree :: rest => if tree.fills field then sites above tree else sitesIn field above rest
termination_by structural trees => trees

end

mutual

/-- The nodes of the sites are the nodes that are come to. -/
theorem map_node_sites (above : List Tree) (tree : Tree) :
    (sites route above tree).map Site.node = reached route tree := by
  match tree with
  | .node mark children =>
    unfold sites reached
    rw [List.map_cons]
    refine congrArg _ ?_
    cases route mark children with
    | nowhere => rfl
    | named => exact map_node_sitesAmong _ children
    | only field => exact map_node_sitesIn field _ children
termination_by structural tree

/-- The same of the named trees among several. -/
theorem map_node_sitesAmong (above trees : List Tree) :
    (sitesAmong route above trees).map Site.node = reachedAmong route trees := by
  match trees with
  | [] => rfl
  | tree :: rest =>
    unfold sitesAmong reachedAmong
    split
    · rw [List.map_append, map_node_sites, map_node_sitesAmong]
    · exact map_node_sitesAmong above rest
termination_by structural trees

/-- The same of the tree that fills a field. -/
theorem map_node_sitesIn (field : String) (above trees : List Tree) :
    (sitesIn route field above trees).map Site.node = reachedIn route field trees := by
  match trees with
  | [] => rfl
  | tree :: rest =>
    unfold sitesIn reachedIn
    split
    · exact map_node_sites above tree
    · exact map_node_sitesIn field above rest
termination_by structural trees

end

/-- A site is that of a subtree. -/
theorem mem_subtrees_of_mem_sites {above : List Tree} {tree : Tree} {site : Site}
    (found : site ∈ sites route above tree) : site.node ∈ subtrees tree := by
  refine (reached_sublist route tree).subset ?_
  rw [← map_node_sites route above]
  exact List.mem_map_of_mem found

/-- The route goes on below each of these nodes. -/
def Passes (above : List Tree) : Prop :=
  ∀ tree ∈ above, route tree.mark tree.children ≠ .nowhere

variable {route}

mutual

/-- The sites on a route are sites of the tree. -/
theorem isIn_of_mem_sites {root tree : Tree} {above : List Tree}
    (inside : Site.IsIn root ⟨tree, above⟩) {site : Site} (found : site ∈ sites route above tree) :
    site.IsIn root := by
  match tree with
  | .node mark children =>
    unfold sites at found
    rcases List.mem_cons.1 found with rfl | below
    · exact inside
    · cases way : route mark children with
      | nowhere => rw [way] at below; cases below
      | named =>
        rw [way] at below
        exact isIn_of_mem_sitesAmong inside (List.Subset.refl children) below
      | only field =>
        rw [way] at below
        exact isIn_of_mem_sitesIn inside (List.Subset.refl children) below
termination_by structural tree

/-- The same of the named trees among several. -/
theorem isIn_of_mem_sitesAmong {root parent : Tree} {above trees : List Tree}
    (inside : Site.IsIn root ⟨parent, above⟩) (within : trees ⊆ parent.children) {site : Site}
    (found : site ∈ sitesAmong route (parent :: above) trees) : site.IsIn root := by
  match trees with
  | [] => cases found
  | tree :: rest =>
    have here := within List.mem_cons_self
    have later := List.Subset.trans (List.subset_cons_self tree rest) within
    unfold sitesAmong at found
    split at found
    · rcases List.mem_append.1 found with first | behind
      · exact isIn_of_mem_sites (.child inside here) first
      · exact isIn_of_mem_sitesAmong inside later behind
    · exact isIn_of_mem_sitesAmong inside later found
termination_by structural trees

/-- The same of the tree that fills a field. -/
theorem isIn_of_mem_sitesIn {root parent : Tree} {field : String} {above trees : List Tree}
    (inside : Site.IsIn root ⟨parent, above⟩) (within : trees ⊆ parent.children) {site : Site}
    (found : site ∈ sitesIn route field (parent :: above) trees) : site.IsIn root := by
  match trees with
  | [] => cases found
  | tree :: rest =>
    unfold sitesIn at found
    split at found
    · exact isIn_of_mem_sites (.child inside (within List.mem_cons_self)) found
    · exact isIn_of_mem_sitesIn inside (List.Subset.trans (List.subset_cons_self tree rest) within)
        found
termination_by structural trees

end

mutual

/-- The nodes around a site are such that the route goes on below them. -/
theorem passes_of_mem_sites {above : List Tree} (passed : Passes route above) {tree : Tree}
    {site : Site} (found : site ∈ sites route above tree) : Passes route site.above := by
  match tree with
  | .node mark children =>
    unfold sites at found
    rcases List.mem_cons.1 found with rfl | below
    · exact passed
    · have goesOn : route mark children ≠ .nowhere := by
        intro stops
        rw [stops] at below
        cases below
      have around : Passes route (.node mark children :: above) :=
        List.forall_mem_cons.2 ⟨goesOn, passed⟩
      cases way : route mark children with
      | nowhere => exact absurd way goesOn
      | named =>
        rw [way] at below
        exact passes_of_mem_sitesAmong around below
      | only field =>
        rw [way] at below
        exact passes_of_mem_sitesIn around below
termination_by structural tree

/-- The same of the named trees among several. -/
theorem passes_of_mem_sitesAmong {above : List Tree} (passed : Passes route above)
    {trees : List Tree} {site : Site} (found : site ∈ sitesAmong route above trees) :
    Passes route site.above := by
  match trees with
  | [] => cases found
  | tree :: rest =>
    unfold sitesAmong at found
    split at found
    · rcases List.mem_append.1 found with first | later
      · exact passes_of_mem_sites passed first
      · exact passes_of_mem_sitesAmong passed later
    · exact passes_of_mem_sitesAmong passed found
termination_by structural trees

/-- The same of the tree that fills a field. -/
theorem passes_of_mem_sitesIn {field : String} {above : List Tree} (passed : Passes route above)
    {trees : List Tree} {site : Site} (found : site ∈ sitesIn route field above trees) :
    Passes route site.above := by
  match trees with
  | [] => cases found
  | tree :: rest =>
    unfold sitesIn at found
    split at found
    · exact passes_of_mem_sites passed found
    · exact passes_of_mem_sitesIn passed found
termination_by structural trees

end

/-- The nodes of some kind are all come to just when no part that is left out holds one. -/
theorem filter_reached_eq_iff (route : Route) (chosen : Tree → Bool) (tree : Tree) :
    (reached route tree).filter chosen = (subtrees tree).filter chosen ↔
      ∀ part ∈ skipped route tree, ∀ place ∈ part.subtrees, chosen place = false := by
  have split := (subtrees_perm route tree).filter chosen
  rw [List.filter_append] at split
  have lengths := split.length_eq
  rw [List.length_append] at lengths
  have none : ((skipped route tree).flatMap subtrees).filter chosen = [] ↔
      ∀ part ∈ skipped route tree, ∀ place ∈ part.subtrees, chosen place = false := by
    simp only [List.filter_eq_nil_iff, List.mem_flatMap, Bool.not_eq_true]
    exact ⟨fun all part left place inside => all place ⟨part, left, inside⟩,
      fun all place ⟨part, left, inside⟩ => all part left place inside⟩
  rw [← none, ← List.length_eq_zero_iff]
  constructor
  · intro whole
    rw [whole] at lengths
    omega
  · intro nothing
    exact ((reached_sublist route tree).filter chosen).eq_of_length (by omega)

end Tree

end SymbolAtlas
