import Mathlib.Tactic.Common
import StreamLint.Proofs.Syntax.Arena
/-!
# Walks that come to an end

A walk over a syntax tree keeps a stack of the nodes still to be visited and takes at most as many
steps as there are nodes. Over a tree whose nodes are linked that is no restriction: the nodes
visited so far and those on the stack are all different, because a node gets on the stack only by
way of its parent, and a parent is visited once. So the stack is empty when every node has had its
turn, and further steps would change nothing (`StreamLint.SyntaxTree.Linked.walk_eq_preorder`).
-/

namespace StreamLint

namespace SyntaxTree

variable {tree : SyntaxTree}

/-- The state of a walk: the nodes visited so far and those on the stack are all different nodes of
the tree, and each of them but the root has a parent that was visited. -/
structure IsFront (tree : SyntaxTree) (visited stack : List NodeId) : Prop where
  /-- No node is there twice. -/
  nodup : (visited ++ stack).Nodup
  /-- The nodes are in the tree. -/
  inside : ∀ node ∈ visited ++ stack, node < tree.size
  /-- Nodes come after their parents. -/
  reached : ∀ node ∈ visited ++ stack, node ≠ root →
    ∃ parent ∈ visited, tree.parent? node = some parent

theorem lt_size_of_parent?_eq_some {node parent : NodeId} (h : tree.parent? node = some parent) :
    node < tree.size := by
  simp only [parent?, Option.bind_eq_some_iff] at h
  obtain ⟨inner, hinner, -⟩ := h
  exact (Array.getElem?_eq_some_iff.mp hinner).1

theorem IsFront.start (hlinked : tree.Linked) : IsFront tree [] [root] where
  nodup := by simp
  inside := by simpa [root] using hlinked.nonempty
  reached := by simp

/-- **One step of a walk**: the node on top is visited, and its children take its place. -/
theorem IsFront.step (hlinked : tree.Linked) {visited stack : List NodeId} {node : NodeId}
    (h : IsFront tree visited (node :: stack)) :
    IsFront tree (visited ++ [node]) (tree.children node ++ stack) := by
  have hparent := hlinked.parent_of_mem_children node
  have hsplit : visited ++ node :: stack = (visited ++ [node]) ++ stack := by simp
  -- the parent of a child is the node, which is only visited now
  have hfresh : ∀ child ∈ tree.children node, child ∉ visited ++ node :: stack := by
    intro child hchild hmem
    have hne : child ≠ root := by
      rintro rfl
      have := hlinked.parent_root
      rw [hparent _ hchild] at this
      simp at this
    obtain ⟨above, habove, heq⟩ := h.reached child hmem hne
    obtain rfl : node = above := by simpa [hparent child hchild] using heq
    have hnodup := h.nodup
    rw [List.nodup_append] at hnodup
    exact hnodup.2.2 node habove node (by simp) rfl
  refine ⟨?_, ?_, ?_⟩
  · have hnodup := h.nodup
    rw [hsplit, List.nodup_append] at hnodup
    obtain ⟨hvisited, hstack, hapart⟩ := hnodup
    have hchildren : (tree.children node).Nodup :=
      (hlinked.children_sorted node).imp fun hlt => Nat.ne_of_lt hlt
    have hchildrenStack : (tree.children node ++ stack).Nodup := by
      refine List.nodup_append.mpr ⟨hchildren, hstack, ?_⟩
      rintro child hchild _ hmem rfl
      exact hfresh child hchild (by simp [hmem])
    refine List.nodup_append.mpr ⟨hvisited, hchildrenStack, ?_⟩
    rintro other hother _ hmem rfl
    rcases List.mem_append.mp hmem with hchild | hstack
    · exact hfresh other hchild (by rw [hsplit]; exact List.mem_append_left _ hother)
    · exact hapart other hother other hstack rfl
  · intro other hother
    simp only [List.mem_append, List.mem_singleton] at hother
    rcases hother with (hvisited | rfl) | hchild | hstack
    · exact h.inside other (by simp [hvisited])
    · exact h.inside other (by simp)
    · exact lt_size_of_parent?_eq_some (hparent other hchild)
    · exact h.inside other (by simp [hstack])
  · intro other hother hne
    simp only [List.mem_append, List.mem_singleton] at hother
    rcases hother with (hvisited | rfl) | hchild | hstack
    · obtain ⟨parent, hmem, heq⟩ := h.reached other (by simp [hvisited]) hne
      exact ⟨parent, by simp [hmem], heq⟩
    · obtain ⟨parent, hmem, heq⟩ := h.reached other (by simp) hne
      exact ⟨parent, by simp [hmem], heq⟩
    · exact ⟨node, by simp, hparent other hchild⟩
    · obtain ⟨parent, hmem, heq⟩ := h.reached other (by simp [hstack]) hne
      exact ⟨parent, by simp [hmem], heq⟩

/-- Visited nodes and nodes on the stack are no more than there are nodes. -/
theorem IsFront.length_le {visited stack : List NodeId} (h : IsFront tree visited stack) :
    visited.length + stack.length ≤ tree.size := by
  have hsub : visited ++ stack ⊆ List.range tree.size := fun node hnode =>
    List.mem_range.mpr (h.inside node hnode)
  simpa using h.nodup.length_le_of_subset hsub

/-- Steps after the last node change nothing. -/
theorem IsFront.walk_eq (hlinked : tree.Linked) {visited stack : List NodeId}
    (h : IsFront tree visited stack) {steps more : Nat}
    (hsteps : tree.size ≤ visited.length + steps) (hmore : steps ≤ more) :
    tree.walk more stack = tree.walk steps stack := by
  induction steps generalizing visited stack more with
  | zero =>
    have hle := h.length_le
    -- all nodes are visited, so none of them is left on the stack
    obtain rfl : stack = [] := List.length_eq_zero_iff.mp (by omega)
    cases more <;> rfl
  | succ steps ih =>
    obtain ⟨more, rfl⟩ : ∃ n, more = n + 1 := ⟨more - 1, by omega⟩
    cases stack with
    | nil => rfl
    | cons node stack =>
      have hnext := ih (h.step hlinked) (by simp; omega) (show steps ≤ more by omega)
      simp only [walk]
      rw [hnext]

/-- **The walk over a tree is complete**: however many more steps it may take, it visits the same
nodes. -/
theorem Linked.walk_eq_preorder (hlinked : tree.Linked) {steps : Nat} (h : tree.size ≤ steps) :
    tree.walk steps [root] = tree.preorder := by
  rw [preorder, if_neg (Nat.ne_of_gt hlinked.nonempty)]
  exact (IsFront.start hlinked).walk_eq hlinked (by simp) h

end SyntaxTree

end StreamLint
