import ParserConformance.ParseTree.Basic

/-!
# Nodes

The nodes of a parse tree, each given with all that is below it, in the order in which a text of the
tree has them: a node before its children.
-/

namespace ParserConformance.ParseTree

mutual

/-- A node and all nodes below it. -/
def nodes : ParseTree → List ParseTree
  | ⟨kind, named, field, isError, isMissing, start, stop, children⟩ =>
    ⟨kind, named, field, isError, isMissing, start, stop, children⟩ :: nodesAll children

/-- All nodes of the trees. -/
def nodesAll : List ParseTree → List ParseTree
  | [] => []
  | t :: ts => nodes t ++ nodesAll ts

end

theorem self_mem_nodes (t : ParseTree) : t ∈ nodes t := by
  cases t
  rw [nodes]
  exact List.mem_cons_self

theorem nodes_eq (t : ParseTree) : nodes t = t :: nodesAll t.children := by
  cases t
  rfl

mutual

/-- What is below a node of a tree is below the tree's root. -/
theorem mem_nodes_trans {n k : ParseTree} (hk : k ∈ nodes n) : ∀ t : ParseTree, n ∈ nodes t → k ∈ nodes t
  | ⟨kind, named, field, isError, isMissing, start, stop, children⟩, hn => by
    rw [nodes_eq] at hn
    rcases List.mem_cons.1 hn with rfl | hn
    · exact hk
    · rw [nodes_eq]
      exact List.mem_cons_of_mem _ (mem_nodesAll_trans hk children hn)

theorem mem_nodesAll_trans {n k : ParseTree} (hk : k ∈ nodes n) :
    ∀ ts : List ParseTree, n ∈ nodesAll ts → k ∈ nodesAll ts
  | t :: ts, hn => (List.mem_append.1 hn).elim
    (fun hn => List.mem_append_left _ (mem_nodes_trans hk t hn))
    (fun hn => List.mem_append_right _ (mem_nodesAll_trans hk ts hn))

end

mutual

theorem height_le_of_mem_nodes {n : ParseTree} : ∀ t : ParseTree, n ∈ nodes t → n.height ≤ t.height
  | ⟨kind, named, field, isError, isMissing, start, stop, children⟩, hn => by
    rw [nodes_eq] at hn
    rcases List.mem_cons.1 hn with rfl | hn
    · exact Nat.le_refl _
    · exact Nat.le_succ_of_le (height_le_of_mem_nodesAll children hn)

theorem height_le_of_mem_nodesAll {n : ParseTree} :
    ∀ ts : List ParseTree, n ∈ nodesAll ts → n.height ≤ heightAll ts
  | t :: ts, hn => (List.mem_append.1 hn).elim
    (fun hn => Nat.le_trans (height_le_of_mem_nodes t hn) (Nat.le_max_left _ _))
    (fun hn => Nat.le_trans (height_le_of_mem_nodesAll ts hn) (Nat.le_max_right _ _))

end

end ParserConformance.ParseTree
