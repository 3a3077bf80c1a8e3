import Mathlib.Logic.Relation
import StreamLint.Proofs.Syntax.Reach
/-!
# The nodes below a node

A node is *below* another one if there is a way down to it, from child to child
(`StreamLint.SyntaxTree.IsBelow`). The order of the text puts the nodes of a tree one after the
other: a node, then the nodes below it, then what follows. `StreamLint.SyntaxTree.Lists` says that
of a list of nodes by rules and knows nothing of stacks and steps.

A walk with a number of steps visits so many nodes of the list and no others, whatever the tree
(`StreamLint.SyntaxTree.Lists.walk_eq`), and the pre-order of a linked tree is the whole list
(`StreamLint.SyntaxTree.Linked.lists_preorder`). In a linked tree there is such a list for every node, and it
is shorter than the tree has nodes (`StreamLint.SyntaxTree.Linked.exists_lists_children`,
`StreamLint.SyntaxTree.Linked.length_lt_of_lists`). That holds also of nodes which are not reached
from the root: the way up from a node and the stack of its children are a front of the tree.
-/

namespace StreamLint

namespace SyntaxTree

/-- **The order of the text**: the second list holds the nodes of the first one, each followed by
the nodes below it. -/
inductive Lists (tree : SyntaxTree) : List NodeId → List NodeId → Prop where
  /-- No nodes. -/
  | nil : Lists tree [] []
  /-- A node, the nodes below it, and what comes after them. -/
  | cons {node : NodeId} {rest inner after : List NodeId}
    (hinner : Lists tree (tree.children node) inner) (hafter : Lists tree rest after) :
    Lists tree (node :: rest) (node :: (inner ++ after))

/-- There is a way down from the first node to the second one. -/
def IsBelow (tree : SyntaxTree) : NodeId → NodeId → Prop :=
  Relation.TransGen fun above below => below ∈ tree.children above

/-- The second node is among the first so many nodes below the first one, in the order of the
text. -/
def IsAmongFirst (tree : SyntaxTree) (count : Nat) (node other : NodeId) : Prop :=
  ∃ below, tree.Lists (tree.children node) below ∧ other ∈ below.take count

variable {tree : SyntaxTree} {node other : NodeId} {stack nodes below : List NodeId}

theorem isBelow_iff : tree.IsBelow node other ↔
    ∃ child ∈ tree.children node, child = other ∨ tree.IsBelow child other := by
  unfold IsBelow
  rw [Relation.TransGen.head'_iff]
  constructor
  · rintro ⟨child, hchild, hway⟩
    exact ⟨child, hchild, (Relation.reflTransGen_iff_eq_or_transGen.mp hway).imp_left Eq.symm⟩
  · rintro ⟨child, hchild, hway⟩
    exact ⟨child, hchild, Relation.reflTransGen_iff_eq_or_transGen.mpr (hway.imp_left Eq.symm)⟩

namespace Lists

/-- What is listed is in the first list or below something in it. -/
theorem mem_iff (h : tree.Lists stack nodes) :
    other ∈ nodes ↔ ∃ top ∈ stack, top = other ∨ tree.IsBelow top other := by
  induction h with
  | nil => simp
  | @cons node rest inner after _ _ ihinner ihafter =>
    rw [List.mem_cons, List.mem_append, ihinner, ihafter, ← isBelow_iff]
    simp only [List.mem_cons, exists_eq_or_imp, eq_comm (a := other), or_assoc]

/-- What is below a node is what is listed for its children. -/
theorem mem_iff_isBelow (h : tree.Lists (tree.children node) below) :
    other ∈ below ↔ tree.IsBelow node other := by
  rw [h.mem_iff, isBelow_iff]

/-- **A walk goes through the list**, and with the steps that are left it goes on with what is
further down on the stack. -/
theorem walk_append (h : tree.Lists stack nodes) (steps : Nat) (more : List NodeId) :
    tree.walk steps (stack ++ more) =
      nodes.take steps ++ tree.walk (steps - nodes.length) more := by
  induction h generalizing steps more with
  | nil => simp
  | @cons node rest inner after _ _ ihinner ihafter =>
    cases steps with
    | zero => simp [walk]
    | succ steps =>
      have hlength : steps + 1 - (node :: (inner ++ after)).length =
          steps - inner.length - after.length := by
        rw [List.length_cons, List.length_append]
        omega
      rw [List.cons_append, walk, ihinner, ihafter, hlength, List.take_succ_cons, List.take_append,
        List.cons_append, List.append_assoc]

/-- A walk visits as many nodes of the list as it has steps. -/
theorem walk_eq (h : tree.Lists stack nodes) (steps : Nat) :
    tree.walk steps stack = nodes.take steps := by
  have happend := h.walk_append steps []
  rw [List.append_nil] at happend
  rw [happend]
  cases steps - nodes.length <;> simp [walk]

/-- There is a list for several nodes if there is one for each of them. -/
theorem exists_of_forall (h : ∀ node ∈ stack, ∃ inner, tree.Lists (tree.children node) inner) :
    ∃ nodes, tree.Lists stack nodes := by
  induction stack with
  | nil => exact ⟨[], .nil⟩
  | cons node rest ih =>
    obtain ⟨hnode, hrest⟩ := List.forall_mem_cons.mp h
    obtain ⟨inner, hinner⟩ := hnode
    obtain ⟨after, hafter⟩ := ih hrest
    exact ⟨_, hinner.cons hafter⟩

end Lists

/-! ### Linked trees -/

namespace Linked

/-- **The nodes below a node can be listed.** -/
theorem exists_lists_children (hlinked : tree.Linked) (node : Nat) :
    ∃ below, tree.Lists (tree.children node) below := by
  -- children have places further on, and there is an end to the places
  induction hleft : tree.size - node using Nat.strongRecOn generalizing node with
  | _ left ih =>
    refine Lists.exists_of_forall fun (child : Nat) hchild => ?_
    have hparent := hlinked.parent_of_mem_children node child hchild
    have hlt : node < child := hlinked.parent_lt child node hparent
    have hsize : child < tree.size := lt_size_of_parent?_eq_some hparent
    exact ih (tree.size - child) (by omega) child rfl

/-- The way up from a node: the nodes on it have descending places, and the parent of a node on it
is on it too. -/
theorem selfAndAncestors_descends (hlinked : tree.Linked) (node : Nat) :
    (tree.selfAndAncestors node).Pairwise (· > ·) ∧ (∀ above ∈ tree.selfAndAncestors node,
      above ≤ node ∧ ∀ parent, tree.parent? above = some parent →
        parent ∈ tree.selfAndAncestors node) := by
  induction node using Nat.strongRecOn with
  | _ node ih =>
    cases hparent : tree.parent? node with
    | none =>
      have hself : tree.selfAndAncestors node = [node] := by
        unfold selfAndAncestors ancestors
        cases tree.size <;> simp [ancestorsWithin, hparent]
      rw [hself]
      refine ⟨List.pairwise_singleton _ _, fun above habove => ?_⟩
      obtain rfl := List.mem_singleton.mp habove
      exact ⟨Nat.le_refl _, fun parent h => absurd (hparent.symm.trans h) (by simp)⟩
    | some parent =>
      have hlt : parent < node := hlinked.parent_lt node parent hparent
      obtain ⟨hsorted, hup⟩ := ih parent hlt
      rw [hlinked.selfAndAncestors_eq_cons hparent]
      refine ⟨List.pairwise_cons.mpr ⟨fun above habove => ?_, hsorted⟩, fun above habove => ?_⟩
      · exact Nat.lt_of_le_of_lt (hup above habove).1 hlt
      · rcases List.mem_cons.mp habove with rfl | habove
        · refine ⟨Nat.le_refl _, fun other hother => ?_⟩
          obtain rfl := Option.some.inj (hparent.symm.trans hother)
          exact List.mem_cons_of_mem _ List.mem_cons_self
        · obtain ⟨hle, hparents⟩ := hup above habove
          exact ⟨Nat.le_trans hle (Nat.le_of_lt hlt),
            fun other hother => List.mem_cons_of_mem _ (hparents other hother)⟩

/-- **The way up from a node and its children are a front of the tree**, also if the node is not
reached from the root. -/
theorem isFront_children (hlinked : tree.Linked) {node : Nat} (hnode : node < tree.size) :
    IsFront tree (tree.selfAndAncestors node) (tree.children node) := by
  obtain ⟨hsorted, hup⟩ := hlinked.selfAndAncestors_descends node
  have hparent := hlinked.parent_of_mem_children node
  have hself : node ∈ tree.selfAndAncestors node := List.mem_cons_self
  refine ⟨List.nodup_append.mpr ⟨?_, ?_, ?_⟩, fun other hother => ?_, fun other hother hne => ?_⟩
  · exact hsorted.imp fun hlt => Nat.ne_of_gt hlt
  · exact (hlinked.children_sorted node).imp fun hlt => Nat.ne_of_lt hlt
  · rintro above habove child hchild rfl
    have hlt : node < above := hlinked.parent_lt above node (hparent above hchild)
    exact absurd hlt (Nat.not_lt_of_le (hup above habove).1)
  · rcases List.mem_append.mp hother with habove | hchild
    · exact Nat.lt_of_le_of_lt (hup other habove).1 hnode
    · exact lt_size_of_parent?_eq_some (hparent other hchild)
  · rcases List.mem_append.mp hother with habove | hchild
    · obtain ⟨hle, hparents⟩ := hup other habove
      obtain ⟨above, h⟩ := hlinked.exists_parent other hne (Nat.lt_of_le_of_lt hle hnode)
      exact ⟨above, hparents above h, h⟩
    · exact ⟨node, hself, hparent other hchild⟩

end Linked

/-- A walk from a front visits no more nodes than the tree has left. -/
theorem IsFront.length_walk_le (hlinked : tree.Linked) {visited : List NodeId}
    (h : IsFront tree visited stack) (steps : Nat) :
    visited.length + (tree.walk steps stack).length ≤ tree.size := by
  induction steps generalizing visited stack with
  | zero =>
    have hle := h.length_le
    rw [walk, List.length_nil]
    omega
  | succ steps ih =>
    cases stack with
    | nil => simpa [walk] using h.length_le
    | cons first rest =>
      have hle := ih (h.step hlinked)
      rw [List.length_append, List.length_singleton] at hle
      rw [walk, List.length_cons]
      omega

namespace Linked

/-- **There are fewer nodes below a node than in the tree.** -/
theorem length_lt_of_lists (hlinked : tree.Linked) (h : tree.Lists (tree.children node) below) :
    below.length < tree.size := by
  rcases Nat.lt_or_ge node tree.size with hnode | hnode
  · have hle := (hlinked.isFront_children hnode).length_walk_le hlinked below.length
    rw [h.walk_eq, List.take_length, selfAndAncestors, List.length_cons] at hle
    omega
  · -- there is no node at this place
    have hnone : tree.children node = [] := by
      simp [children, construct?, Array.getElem?_eq_none (show tree.nodes.size ≤ node from hnode)]
    rw [hnone] at h
    cases h
    exact hlinked.nonempty

/-- The walk over a tree goes through all its nodes in the order of the text. -/
theorem lists_preorder (hlinked : tree.Linked) : tree.Lists [root] tree.preorder := by
  obtain ⟨below, hbelow⟩ := hlinked.exists_lists_children root
  have hlists : tree.Lists [root] (root :: (below ++ [])) := hbelow.cons .nil
  have hlt := hlinked.length_lt_of_lists hbelow
  rw [preorder, if_neg (Nat.ne_of_gt hlinked.nonempty), hlists.walk_eq,
    List.take_of_length_le (by rw [List.append_nil, List.length_cons]; omega)]
  exact hlists

/-- **A walk with a number of steps below a node** visits the first so many nodes below it. -/
theorem mem_walk_children_iff (hlinked : tree.Linked) {count : Nat} :
    other ∈ tree.walk count (tree.children node) ↔ tree.IsAmongFirst count node other := by
  constructor
  · intro hother
    obtain ⟨below, hbelow⟩ := hlinked.exists_lists_children node
    exact ⟨below, hbelow, by rwa [hbelow.walk_eq] at hother⟩
  · rintro ⟨below, hbelow, hother⟩
    rwa [hbelow.walk_eq]

/-- As many nodes as the tree has are all nodes below. -/
theorem isAmongFirst_iff_isBelow (hlinked : tree.Linked) {count : Nat} (h : tree.size ≤ count) :
    tree.IsAmongFirst count node other ↔ tree.IsBelow node other := by
  have htake : ∀ below, tree.Lists (tree.children node) below → below.take count = below := by
    intro below hbelow
    have hlt := hlinked.length_lt_of_lists hbelow
    exact List.take_of_length_le (by omega)
  constructor
  · rintro ⟨below, hbelow, hother⟩
    rw [htake below hbelow] at hother
    exact hbelow.mem_iff_isBelow.mp hother
  · intro hother
    obtain ⟨below, hbelow⟩ := hlinked.exists_lists_children node
    exact ⟨below, hbelow, by rw [htake below hbelow]; exact hbelow.mem_iff_isBelow.mpr hother⟩

end Linked

namespace IsAmongFirst

variable {count : Nat}

/-- What is among the first so many nodes is among the first nodes of any larger number. -/
theorem mono (h : tree.IsAmongFirst count node other) {more : Nat} (hle : count ≤ more) :
    tree.IsAmongFirst more node other := by
  obtain ⟨below, hbelow, hother⟩ := h
  exact ⟨below, hbelow, List.take_subset_take_left below hle hother⟩

theorem isBelow (h : tree.IsAmongFirst count node other) : tree.IsBelow node other := by
  obtain ⟨below, hbelow, hother⟩ := h
  exact hbelow.mem_iff_isBelow.mp (List.mem_of_mem_take hother)

end IsAmongFirst

end SyntaxTree

end StreamLint
