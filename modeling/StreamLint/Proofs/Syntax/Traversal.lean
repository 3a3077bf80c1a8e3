import Mathlib.Data.List.Perm.Basic
import StreamLint.Proofs.Syntax.Below
import StreamLint.Proofs.Syntax.Returns
/-!
# The two orders of a tree

The orders in which a tree is walked are told by recursion: a node and then what is below each of
its children (`StreamLint.SyntaxTree.preorderFrom`), or what is below each of the children and then
the node (`StreamLint.SyntaxTree.postorderFrom`). In a linked tree children have places further on, so
that the recursion comes to an end.

The walks themselves are loops over a stack. What such a loop visits, if nothing but an empty stack
ends it, is told by rules, a rule for every turn that it can take (`StreamLint.SyntaxTree.Walks`,
`StreamLint.SyntaxTree.Climbs`). The top of the stack is worked off before what lies under it is
touched, which is the whole point: a node on top of a stack gives what the recursion gives for that
node, and then the loop goes on with the rest (`StreamLint.SyntaxTree.Linked.climbs_cons`).

Every node takes one turn in pre-order and two in post-order, no more than are allowed for. So both
walks are the recursions (`StreamLint.SyntaxTree.orders_ofDocument`).
-/

namespace StreamLint

namespace SyntaxTree

variable {tree : SyntaxTree} {node : NodeId}

/-! ### The orders by recursion -/

/-- There are fewer places after a child than after its parent. -/
theorem Linked.size_sub_lt (hlinked : tree.Linked) {node child : Nat}
    (hchild : child ∈ tree.children node) : tree.size - child < tree.size - node := by
  have hparent := hlinked.parent_of_mem_children node child hchild
  have hlt : node < child := hlinked.parent_lt child node hparent
  have hsize : child < tree.size := lt_size_of_parent?_eq_some hparent
  omega

/-- A node, and then what there is from each of its children on. -/
def preorderFrom (hlinked : tree.Linked) (node : NodeId) : List NodeId :=
  node :: (tree.children node).attach.flatMap fun ⟨child, _⟩ => preorderFrom hlinked child
  termination_by tree.size - node
  decreasing_by exact hlinked.size_sub_lt (by assumption)

/-- What there is from each of the children of a node on, and then the node. -/
def postorderFrom (hlinked : tree.Linked) (node : NodeId) : List NodeId :=
  ((tree.children node).attach.flatMap fun ⟨child, _⟩ => postorderFrom hlinked child) ++ [node]
  termination_by tree.size - node
  decreasing_by exact hlinked.size_sub_lt (by assumption)

theorem preorderFrom_eq (hlinked : tree.Linked) (node : NodeId) :
    preorderFrom hlinked node =
      node :: (tree.children node).flatMap fun child => preorderFrom hlinked child := by
  rw [preorderFrom]
  simp only [List.flatMap_subtype, List.unattach_attach]

theorem postorderFrom_eq (hlinked : tree.Linked) (node : NodeId) :
    postorderFrom hlinked node =
      ((tree.children node).flatMap fun child => postorderFrom hlinked child) ++ [node] := by
  rw [postorderFrom]
  simp only [List.flatMap_subtype, List.unattach_attach]

/-- **Both orders hold the same nodes**, each as often. -/
theorem Linked.postorderFrom_perm (hlinked : tree.Linked) (node : NodeId) :
    (postorderFrom hlinked node).Perm (preorderFrom hlinked node) := by
  induction hleft : tree.size - node using Nat.strongRecOn generalizing node with
  | _ left ih =>
    have hchildren : ((tree.children node).flatMap fun child => postorderFrom hlinked child).Perm
        ((tree.children node).flatMap fun child => preorderFrom hlinked child) :=
      List.Perm.flatMap_left _ fun child hchild =>
        ih (tree.size - child) (hleft ▸ hlinked.size_sub_lt hchild) child rfl
    rw [postorderFrom_eq, preorderFrom_eq]
    exact (List.perm_append_singleton node _).trans (hchildren.cons node)

/-- The order of the text is what the recursion gives for one node after the other. -/
theorem Lists.eq_flatMap (hlinked : tree.Linked) {stack nodes : List NodeId}
    (h : tree.Lists stack nodes) :
    nodes = stack.flatMap fun node => preorderFrom hlinked node := by
  induction h with
  | nil => rfl
  | cons _ _ ihinner ihafter => rw [List.flatMap_cons, preorderFrom_eq, ihinner, ihafter]; rfl

/-! ### The loops without a bound on their turns -/

/-- **The loop of a walk in pre-order** comes to an empty stack, and has visited the nodes by
then. -/
inductive Walks (tree : SyntaxTree) : List NodeId → List NodeId → Prop where
  /-- Nothing is left on the stack. -/
  | done : Walks tree [] []
  /-- The top node is visited, and its children take its place. -/
  | visit {node : NodeId} {stack nodes : List NodeId}
    (h : Walks tree (tree.children node ++ stack) nodes) :
    Walks tree (node :: stack) (node :: nodes)

/-- **The loop of a walk in post-order** comes to an empty stack, and has visited the nodes by
then. -/
inductive Climbs (tree : SyntaxTree) : List (NodeId × Bool) → List NodeId → Prop where
  /-- Nothing is left on the stack. -/
  | done : Climbs tree [] []
  /-- The top node is met for the first time: it is marked, and its children are put on top of
  it. -/
  | expand {node : NodeId} {stack : List (NodeId × Bool)} {nodes : List NodeId}
    (h : Climbs tree ((tree.children node).map (·, false) ++ (node, true) :: stack) nodes) :
    Climbs tree ((node, false) :: stack) nodes
  /-- The top node is met again, and is visited. -/
  | visit {node : NodeId} {stack : List (NodeId × Bool)} {nodes : List NodeId}
    (h : Climbs tree stack nodes) : Climbs tree ((node, true) :: stack) (node :: nodes)

/-- A list in the order of the text is visited before what lies under it on the stack. -/
theorem Lists.walks_append {stack nodes more rest : List NodeId} (h : tree.Lists stack nodes)
    (hmore : tree.Walks more rest) : tree.Walks (stack ++ more) (nodes ++ rest) := by
  induction h generalizing more rest with
  | nil => exact hmore
  | @cons node others inner after _ _ ihinner ihafter =>
    rw [List.cons_append, List.cons_append, List.append_assoc]
    exact .visit (ihinner (ihafter hmore))

/-- Nodes that are met one after the other give what they give one by one. -/
theorem Climbs.append_children {order : NodeId → List NodeId} {children : List NodeId}
    (hchildren : ∀ child ∈ children, ∀ stack nodes, tree.Climbs stack nodes →
      tree.Climbs ((child, false) :: stack) (order child ++ nodes))
    {stack : List (NodeId × Bool)} {nodes : List NodeId} (h : tree.Climbs stack nodes) :
    tree.Climbs (children.map (·, false) ++ stack) (children.flatMap order ++ nodes) := by
  induction children with
  | nil => exact h
  | cons child children ih =>
    obtain ⟨hchild, hchildren⟩ := List.forall_mem_cons.mp hchildren
    rw [List.flatMap_cons, List.append_assoc]
    exact hchild _ _ (ih hchildren)

/-- **What a node on top of the stack gives**: the recursion from that node on, before anything
under it is touched. -/
theorem Linked.climbs_cons (hlinked : tree.Linked) (node : NodeId) {stack : List (NodeId × Bool)}
    {nodes : List NodeId} (h : tree.Climbs stack nodes) :
    tree.Climbs ((node, false) :: stack) (postorderFrom hlinked node ++ nodes) := by
  induction hleft : tree.size - node using Nat.strongRecOn generalizing node stack nodes with
  | _ left ih =>
    have hchildren : tree.Climbs ((tree.children node).map (·, false) ++ (node, true) :: stack)
        ((tree.children node).flatMap (postorderFrom hlinked) ++ node :: nodes) :=
      .append_children (fun child hchild _ _ hstack =>
        ih _ (hleft ▸ hlinked.size_sub_lt hchild) child hstack rfl) (.visit h)
    rw [postorderFrom_eq, List.append_assoc]
    exact .expand hchildren

/-- Everything on the stack is visited. -/
theorem Climbs.length_le {stack : List (NodeId × Bool)} {nodes : List NodeId}
    (h : tree.Climbs stack nodes) : stack.length ≤ nodes.length := by
  induction h with
  | done => exact Nat.le_refl 0
  | expand h ih =>
    rw [List.length_append, List.length_cons] at ih
    rw [List.length_cons]
    omega
  | visit h ih => exact Nat.succ_le_succ ih

/-- **The climb with enough steps is the loop.** Every node takes two turns, those that wait already
only one. -/
theorem Climbs.climb_eq {stack : List (NodeId × Bool)} {nodes : List NodeId}
    (h : tree.Climbs stack nodes) {steps : Nat}
    (hsteps : 2 * nodes.length ≤ steps + (waiting stack).length) :
    tree.climb steps stack = nodes := by
  have hwaiting : ∀ stack : List (NodeId × Bool), (waiting stack).length ≤ stack.length :=
    fun stack => by simpa [waiting] using List.length_filter_le _ stack
  induction h generalizing steps with
  | done => cases steps <;> rfl
  | @expand node stack nodes h ih =>
    have hle := h.length_le
    have hfew := hwaiting stack
    rw [waiting_cons_false] at hsteps
    rw [List.length_append, List.length_cons] at hle
    obtain ⟨steps, rfl⟩ : ∃ n, steps = n + 1 := ⟨steps - 1, by omega⟩
    rw [climb]
    refine ih ?_
    rw [waiting_append_children, waiting_cons_true, List.length_cons]
    omega
  | @visit node stack nodes h ih =>
    have hle := h.length_le
    have hfew := hwaiting stack
    rw [waiting_cons_true, List.length_cons, List.length_cons] at hsteps
    obtain ⟨steps, rfl⟩ : ∃ n, steps = n + 1 := ⟨steps - 1, by omega⟩
    rw [climb, ih (by omega)]

/-! ### The walks over a tree -/

/-- **The walk in pre-order is the recursion.** -/
theorem Linked.preorder_eq (hlinked : tree.Linked) :
    tree.preorder = preorderFrom hlinked root := by
  rw [hlinked.lists_preorder.eq_flatMap hlinked, List.flatMap_singleton]

theorem Linked.length_preorder_le (hlinked : tree.Linked) : tree.preorder.length ≤ tree.size := by
  have hle := (IsFront.start hlinked).length_walk_le hlinked tree.size
  rw [preorder, if_neg (Nat.ne_of_gt hlinked.nonempty)]
  simpa using hle

theorem Linked.climbs_postorderFrom (hlinked : tree.Linked) :
    tree.Climbs [(root, false)] (postorderFrom hlinked root) := by
  simpa using hlinked.climbs_cons root .done

/-- **The walk in post-order is the recursion.** -/
theorem Linked.postorder_eq (hlinked : tree.Linked) :
    tree.postorder = postorderFrom hlinked root := by
  have hlength := (hlinked.postorderFrom_perm root).length_eq
  have hle := hlinked.length_preorder_le
  rw [hlinked.preorder_eq] at hle
  exact hlinked.climbs_postorderFrom.climb_eq (by omega)

/-- **In post-order everything below a node comes before it.** -/
theorem IsBelow.mem_before {below : NodeId} (h : tree.IsBelow node below)
    {before after : List NodeId} (horder : tree.postorder = before ++ node :: after) :
    below ∈ before := by
  induction h with
  | single hchild => exact mem_before_of_postorder_eq horder hchild
  | @tail between below _ hchild ih =>
    obtain ⟨first, second, rfl⟩ := List.append_of_mem ih
    rw [List.append_assoc, List.cons_append] at horder
    exact List.mem_append_left _ (mem_before_of_postorder_eq horder hchild)

/-- **The orders of the tree of a document.** Both walks are the recursions from the root, and their
loops come to an empty stack by themselves. Each of them lists every node that is reached from the
root once, and no other node; so one is the other in another order. In post-order all that is below
a node stands before it. -/
theorem orders_ofDocument (document : Concrete.Document) :
    let tree := ofDocument document
    let hlinked : tree.Linked := linked_ofDocument document
    (tree.preorder = preorderFrom hlinked root ∧ tree.postorder = postorderFrom hlinked root) ∧
      (tree.Walks [root] tree.preorder ∧ tree.Climbs [(root, false)] tree.postorder) ∧
      (tree.preorder.Nodup ∧ ∀ node, node ∈ tree.preorder ↔ tree.IsReached node) ∧
      (tree.postorder.Nodup ∧ ∀ node, node ∈ tree.postorder ↔ tree.IsReached node) ∧
      tree.postorder.Perm tree.preorder ∧
      ∀ before node after, tree.postorder = before ++ node :: after →
        ∀ below, tree.IsBelow node below → below ∈ before := by
  intro tree hlinked
  have hpre := hlinked.preorder_eq
  have hpost := hlinked.postorder_eq
  have hperm : tree.postorder.Perm tree.preorder := by
    rw [hpre, hpost]
    exact hlinked.postorderFrom_perm root
  refine ⟨⟨hpre, hpost⟩, ⟨?_, hpost ▸ hlinked.climbs_postorderFrom⟩,
    ⟨hlinked.nodup_preorder, fun node => ⟨IsReached.of_mem_preorder, hlinked.mem_preorder⟩⟩,
    ⟨hperm.nodup_iff.mpr hlinked.nodup_preorder,
      fun node => ⟨IsReached.of_mem_postorder, hlinked.mem_postorder⟩⟩,
    hperm, fun before node after horder below hbelow => hbelow.mem_before horder⟩
  simpa using hlinked.lists_preorder.walks_append .done

end SyntaxTree

end StreamLint
