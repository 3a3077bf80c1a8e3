import StreamLint.Model.Inference
import StreamLint.Proofs.Syntax.Order
/-!
# Nodes that are reached from the root

The array of a syntax tree may hold nodes that are nobody's children. What is said of a file is said
of the nodes that are *reached* from its root (`StreamLint.SyntaxTree.IsReached`). Both walks over a
tree visit reached nodes only, and over a linked tree they visit all of them
(`StreamLint.SyntaxTree.Linked.mem_preorder`, `StreamLint.SyntaxTree.Linked.mem_postorder`). The
way up from a node ends at the root, and takes no more steps than there are nodes before it
(`StreamLint.SyntaxTree.Linked.getLast?_ancestorsWithin`).

Post-order meets a node twice, once to put its children on the stack and once to visit it. The nodes
met for the first time and those that still wait for that are a front of the tree
(`StreamLint.SyntaxTree.IsFront`), so there are at most as many as there are nodes; a node that has
been met waits on the stack for its second turn. Two steps for every node are therefore enough.

What waits on the stack has its children above it
(`StreamLint.SyntaxTree.ChildrenFirst`), so that they are visited before it
(`StreamLint.SyntaxTree.mem_before_of_postorder_eq`).
-/

namespace StreamLint

namespace SyntaxTree

variable {tree : SyntaxTree}

/-- The node is the root, or a child of a node that is reached. -/
inductive IsReached (tree : SyntaxTree) : NodeId → Prop where
  /-- The root is reached. -/
  | root : IsReached tree root
  /-- A child of a reached node is reached. -/
  | child {node child : NodeId} (h : IsReached tree node) (hchild : child ∈ tree.children node) :
    IsReached tree child

/-- The parts of a reached construct are reached. -/
theorem IsReached.part {node : NodeId} {construct : Construct} (h : tree.IsReached node)
    (hconstruct : tree.construct? node = some construct) {part : NodeId}
    (hpart : part ∈ construct.children) : tree.IsReached part := by
  refine h.child ?_
  simpa only [children, hconstruct] using hpart

/-- A node that is reached, other than the root, is a child of its parent. -/
theorem IsReached.mem_children (hlinked : tree.Linked) {node parent : NodeId}
    (h : tree.IsReached node) (hparent : tree.parent? node = some parent) :
    node ∈ tree.children parent := by
  cases h with
  | root => simp [hlinked.parent_root] at hparent
  | child h hchild =>
    obtain rfl := Option.some.inj ((hlinked.parent_of_mem_children _ _ hchild).symm.trans hparent)
    exact hchild

/-! ### The way up -/

/-- In a tree whose parents stand before their children, more steps than a node has nodes before it
change nothing about the way up. -/
theorem Linked.ancestorsWithin_eq (hlinked : tree.Linked) (node : Nat) {steps more : Nat}
    (hsteps : node ≤ steps) (hmore : steps ≤ more) :
    tree.ancestorsWithin more node = tree.ancestorsWithin steps node := by
  induction steps generalizing node more with
  | zero =>
    obtain rfl : node = root := Nat.le_zero.mp hsteps
    cases more <;> simp [ancestorsWithin, hlinked.parent_root]
  | succ steps ih =>
    obtain ⟨more, rfl⟩ : ∃ n, more = n + 1 := ⟨more - 1, by omega⟩
    simp only [ancestorsWithin]
    split
    next => rfl
    next parent hparent =>
      have hlt := hlinked.parent_lt node parent hparent
      rw [ih parent (Nat.le_of_lt_succ (Nat.lt_of_lt_of_le hlt hsteps))
        (Nat.le_of_succ_le_succ hmore)]

/-- The way up from a node ends at the root. -/
theorem Linked.getLast?_ancestorsWithin (hlinked : tree.Linked) (node : Nat) {steps : Nat}
    (hsteps : node ≤ steps) (hsize : node < tree.size) :
    (node :: tree.ancestorsWithin steps node).getLast? = some root := by
  induction steps generalizing node with
  | zero => simp_all [ancestorsWithin, root]
  | succ steps ih =>
    simp only [ancestorsWithin]
    split
    next hnone =>
      -- only the root has no parent
      by_contra hne
      obtain ⟨parent, hparent⟩ := hlinked.exists_parent node (by simpa using hne) hsize
      simp [hnone] at hparent
    next parent hparent =>
      have hlt := hlinked.parent_lt node parent hparent
      rw [List.getLast?_cons_cons]
      exact ih parent (Nat.le_of_lt_succ (Nat.lt_of_lt_of_le hlt hsteps)) (Nat.lt_trans hlt hsize)

/-- The way up from a node goes on at its parent. -/
theorem Linked.selfAndAncestors_eq_cons (hlinked : tree.Linked) {node parent : Nat}
    (h : tree.parent? node = some parent) :
    tree.selfAndAncestors node = node :: tree.selfAndAncestors parent := by
  obtain ⟨size, hsize⟩ : ∃ size, tree.size = size + 1 :=
    ⟨tree.size - 1, (Nat.succ_pred_eq_of_pos hlinked.nonempty).symm⟩
  have hnode : node < size + 1 := hsize ▸ lt_size_of_parent?_eq_some h
  have hparent : parent < node := hlinked.parent_lt node parent h
  have habove : tree.ancestorsWithin (size + 1) parent = tree.ancestorsWithin size parent :=
    hlinked.ancestorsWithin_eq parent (by omega) (Nat.le_succ size)
  simp [selfAndAncestors, ancestors, hsize, ancestorsWithin, h, habove]

/-! ### Walks over reached nodes -/

theorem IsReached.of_mem_walk {steps : Nat} {stack : List NodeId}
    (hstack : ∀ node ∈ stack, tree.IsReached node) :
    ∀ node ∈ tree.walk steps stack, tree.IsReached node := by
  induction steps generalizing stack with
  | zero => simp [walk]
  | succ steps ih =>
    cases stack with
    | nil => simp [walk]
    | cons first rest =>
      obtain ⟨hfirst, hrest⟩ := List.forall_mem_cons.mp hstack
      refine List.forall_mem_cons.mpr ⟨hfirst, ih fun node hnode => ?_⟩
      rcases List.mem_append.mp hnode with hchild | hnode
      · exact hfirst.child hchild
      · exact hrest node hnode

theorem IsReached.of_mem_preorder {node : NodeId} (h : node ∈ tree.preorder) :
    tree.IsReached node := by
  unfold preorder at h
  split at h
  · cases h
  · exact IsReached.of_mem_walk (by simp [IsReached.root]) node h

/-- **A walk with enough steps** visits what is on the stack, and the children of what it visits. -/
theorem IsFront.mem_walk (hlinked : tree.Linked) {steps : Nat} {visited stack : List NodeId}
    (h : IsFront tree visited stack) (hsteps : tree.size ≤ visited.length + steps) :
    (∀ node ∈ stack, node ∈ tree.walk steps stack) ∧
      ∀ node ∈ tree.walk steps stack, ∀ child ∈ tree.children node,
        child ∈ tree.walk steps stack := by
  induction steps generalizing visited stack with
  | zero =>
    have hle := h.length_le
    -- all nodes are visited, so none of them is left on the stack
    obtain rfl : stack = [] := List.length_eq_zero_iff.mp (by omega)
    simp [walk]
  | succ steps ih =>
    cases stack with
    | nil => simp [walk]
    | cons first rest =>
      obtain ⟨hstack, hchildren⟩ := ih (h.step hlinked) (by simp; omega)
      simp only [walk, List.mem_cons]
      refine ⟨?_, ?_⟩
      · rintro node (rfl | hnode)
        · exact .inl rfl
        · exact .inr (hstack node (List.mem_append_right _ hnode))
      · rintro node (rfl | hnode) child hchild
        · exact .inr (hstack child (List.mem_append_left _ hchild))
        · exact .inr (hchildren node hnode child hchild)

/-- **The walk over a tree visits every node that is reached.** -/
theorem Linked.mem_preorder (hlinked : tree.Linked) {node : NodeId} (h : tree.IsReached node) :
    node ∈ tree.preorder := by
  rw [preorder, if_neg (Nat.ne_of_gt hlinked.nonempty)]
  have hsteps : tree.size ≤ ([] : List NodeId).length + tree.size := by simp
  obtain ⟨hstack, hchildren⟩ := (IsFront.start hlinked).mem_walk hlinked hsteps
  induction h with
  | root => exact hstack root (by simp)
  | child h hchild ih => exact hchildren _ ih _ hchild

theorem IsReached.of_mem_climb {steps : Nat} {stack : List (NodeId × Bool)}
    (hstack : ∀ entry ∈ stack, tree.IsReached entry.1) :
    ∀ node ∈ tree.climb steps stack, tree.IsReached node := by
  induction steps generalizing stack with
  | zero => simp [climb]
  | succ steps ih =>
    match stack with
    | [] => simp [climb]
    | (first, true) :: rest =>
      obtain ⟨hfirst, hrest⟩ := List.forall_mem_cons.mp hstack
      exact List.forall_mem_cons.mpr ⟨hfirst, ih hrest⟩
    | (first, false) :: rest =>
      obtain ⟨hfirst, hrest⟩ := List.forall_mem_cons.mp hstack
      refine ih fun entry hentry => ?_
      rcases List.mem_append.mp hentry with hchild | hentry
      · obtain ⟨child, hmem, rfl⟩ := List.mem_map.mp hchild
        exact hfirst.child hmem
      · rcases List.mem_cons.mp hentry with rfl | hentry
        · exact hfirst
        · exact hrest entry hentry

theorem IsReached.of_mem_postorder {node : NodeId} (h : node ∈ tree.postorder) :
    tree.IsReached node :=
  IsReached.of_mem_climb (by simp [IsReached.root]) node h

theorem IsReached.of_mem_returnsWithin {steps : Nat} {stack : List NodeId}
    (hstack : ∀ node ∈ stack, tree.IsReached node) :
    ∀ node ∈ tree.returnsWithin steps stack, tree.IsReached node := by
  induction steps generalizing stack with
  | zero => simp [returnsWithin]
  | succ steps ih =>
    cases stack with
    | nil => simp [returnsWithin]
    | cons first rest =>
      obtain ⟨hfirst, hrest⟩ := List.forall_mem_cons.mp hstack
      simp only [returnsWithin]
      split
      next argument hconstruct =>
        have hargument : tree.IsReached argument :=
          hfirst.part hconstruct (by simp [Construct.children])
        exact List.forall_mem_cons.mpr ⟨hargument, ih hrest⟩
      next construct _ hconstruct =>
        split
        · exact ih hrest
        · refine ih fun node hnode => ?_
          rcases List.mem_append.mp hnode with hchild | hnode
          · exact hfirst.part hconstruct hchild
          · exact hrest node hnode
      next => exact ih hrest

/-- What a reached block returns is reached. -/
theorem IsReached.of_mem_returnedValues {block node : NodeId} (h : tree.IsReached block)
    (hnode : node ∈ tree.returnedValues block) : tree.IsReached node :=
  IsReached.of_mem_returnsWithin (by simpa using h) node hnode

/-! ### Post-order -/

/-- The nodes of a stack that have not been met yet. -/
def unmet (stack : List (NodeId × Bool)) : List NodeId :=
  (stack.filter fun entry => !entry.2).map (·.1)

/-- The nodes of a stack that have been met and not visited. -/
def waiting (stack : List (NodeId × Bool)) : List NodeId :=
  (stack.filter fun entry => entry.2).map (·.1)

@[simp]
theorem unmet_cons_true (node : NodeId) (stack : List (NodeId × Bool)) :
    unmet ((node, true) :: stack) = unmet stack := by
  simp [unmet]

@[simp]
theorem unmet_cons_false (node : NodeId) (stack : List (NodeId × Bool)) :
    unmet ((node, false) :: stack) = node :: unmet stack := by
  simp [unmet]

@[simp]
theorem waiting_cons_true (node : NodeId) (stack : List (NodeId × Bool)) :
    waiting ((node, true) :: stack) = node :: waiting stack := by
  simp [waiting]

@[simp]
theorem waiting_cons_false (node : NodeId) (stack : List (NodeId × Bool)) :
    waiting ((node, false) :: stack) = waiting stack := by
  simp [waiting]

@[simp]
theorem unmet_append_children (children : List NodeId) (stack : List (NodeId × Bool)) :
    unmet (children.map (·, false) ++ stack) = children ++ unmet stack := by
  induction children with
  | nil => rfl
  | cons first rest ih => simp [ih]

@[simp]
theorem waiting_append_children (children : List NodeId) (stack : List (NodeId × Bool)) :
    waiting (children.map (·, false) ++ stack) = waiting stack := by
  induction children with
  | nil => rfl
  | cons first rest ih => simp [ih]

/-- **A climb with enough steps** visits what is on the stack, and the children of what it visits
unless they have been met before it began. -/
theorem IsFront.mem_climb (hlinked : tree.Linked) {steps : Nat} {met : List NodeId}
    {stack : List (NodeId × Bool)} (h : IsFront tree met (unmet stack))
    (hsteps : 2 * tree.size + (waiting stack).length ≤ steps + 2 * met.length) :
    (∀ entry ∈ stack, entry.1 ∈ tree.climb steps stack) ∧
      ∀ node ∈ tree.climb steps stack, node ∉ waiting stack →
        ∀ child ∈ tree.children node, child ∈ tree.climb steps stack := by
  induction steps generalizing met stack with
  | zero =>
    have hle := h.length_le
    -- every node has been met and visited, so that the stack is empty
    cases stack with
    | nil => simp [climb]
    | cons entry rest => obtain ⟨node, _ | _⟩ := entry <;> simp at hle hsteps <;> omega
  | succ steps ih =>
    match stack with
    | [] => simp [climb]
    | (node, true) :: rest =>
      rw [unmet_cons_true] at h
      rw [waiting_cons_true, List.length_cons] at hsteps
      obtain ⟨hstack, hchildren⟩ := ih h (by omega)
      simp only [climb, waiting_cons_true, List.mem_cons, not_or]
      refine ⟨?_, ?_⟩
      · rintro entry (rfl | hentry)
        · exact .inl rfl
        · exact .inr (hstack entry hentry)
      · rintro other (rfl | hother) ⟨hne, hwaiting⟩ child hchild
        · exact absurd rfl hne
        · exact .inr (hchildren other hother hwaiting child hchild)
    | (node, false) :: rest =>
      rw [unmet_cons_false] at h
      rw [waiting_cons_false] at hsteps
      have hnext : IsFront tree (met ++ [node])
          (unmet ((tree.children node).map (·, false) ++ (node, true) :: rest)) := by
        simpa using h.step hlinked
      obtain ⟨hstack, hchildren⟩ := ih hnext (by simp; omega)
      simp only [climb, waiting_cons_false]
      refine ⟨fun entry hentry => ?_, fun other hother hwaiting child hchild => ?_⟩
      · rcases List.mem_cons.mp hentry with rfl | hentry
        · exact hstack (node, true) (by simp)
        · exact hstack entry (by simp [hentry])
      · by_cases heq : other = node
        · subst heq
          exact hstack (child, false) (by simp [hchild])
        · exact hchildren other hother (by simpa [heq] using hwaiting) child hchild

/-- **The walk in post-order visits every node that is reached.** -/
theorem Linked.mem_postorder (hlinked : tree.Linked) {node : NodeId} (h : tree.IsReached node) :
    node ∈ tree.postorder := by
  have hfront : IsFront tree [] (unmet [(root, false)]) := IsFront.start hlinked
  have hsteps : 2 * tree.size + (waiting [(root, false)]).length ≤
      2 * tree.size + 2 * ([] : List NodeId).length := by simp [waiting]
  obtain ⟨hstack, hchildren⟩ := hfront.mem_climb hlinked hsteps
  induction h with
  | root => exact hstack (root, false) (by simp)
  | child h hchild ih => exact hchildren _ ih (by simp [waiting]) _ hchild

/-- What waits on the stack has its children before it there, or they have been visited. -/
def ChildrenFirst (tree : SyntaxTree) (visited : List NodeId) (stack : List (NodeId × Bool)) :
    Prop :=
  ∀ above node below, stack = above ++ (node, true) :: below → ∀ child ∈ tree.children node,
    child ∈ visited ∨ child ∈ above.map (·.1)

theorem ChildrenFirst.visit {visited : List NodeId} {node : NodeId} {stack : List (NodeId × Bool)}
    (h : tree.ChildrenFirst visited ((node, true) :: stack)) :
    tree.ChildrenFirst (visited ++ [node]) stack := by
  rintro above other below rfl child hchild
  have hbefore := h ((node, true) :: above) other below rfl child hchild
  simpa [or_assoc] using hbefore

theorem ChildrenFirst.expand {visited : List NodeId} {node : NodeId} {stack : List (NodeId × Bool)}
    (h : tree.ChildrenFirst visited ((node, false) :: stack)) :
    tree.ChildrenFirst visited ((tree.children node).map (·, false) ++ (node, true) :: stack) := by
  intro above other below heq child hchild
  rcases List.append_eq_append_iff.mp heq with ⟨between, rfl, hrest⟩ | ⟨between, hmap, hrest⟩
  · cases between with
    | nil =>
      -- the node that has just been met: its children are what is above
      obtain ⟨⟨rfl, -⟩, -⟩ := List.cons.inj hrest |>.imp_left Prod.mk.inj
      exact .inr (by simpa using hchild)
    | cons entry between =>
      obtain ⟨rfl, hbelow⟩ := List.cons.inj hrest
      have hbefore := h ((node, false) :: between) other below (by rw [hbelow]; rfl) child hchild
      refine hbefore.imp_right fun hmem => ?_
      rw [List.map_append]
      exact List.mem_append_right _ hmem
  · -- the children do not wait
    cases between with
    | nil =>
      obtain ⟨⟨rfl, -⟩, -⟩ := List.cons.inj hrest |>.imp_left Prod.mk.inj
      rw [List.append_nil] at hmap
      exact .inr (by rw [← hmap]; simpa using hchild)
    | cons entry between =>
      obtain ⟨rfl, -⟩ := List.cons.inj hrest
      have hmem : (other, true) ∈ (tree.children node).map (·, false) := by rw [hmap]; simp
      simp at hmem

/-- **A climb visits the children of a node before the node.** -/
theorem ChildrenFirst.mem_before {visited : List NodeId} {stack : List (NodeId × Bool)}
    (h : tree.ChildrenFirst visited stack) {steps : Nat} {before after : List NodeId}
    {node : NodeId} (hclimb : tree.climb steps stack = before ++ node :: after) :
    ∀ child ∈ tree.children node, child ∈ visited ∨ child ∈ before := by
  induction steps generalizing visited stack before with
  | zero => simp [climb] at hclimb
  | succ steps ih =>
    match stack with
    | [] => simp [climb] at hclimb
    | (first, true) :: rest =>
      simp only [climb] at hclimb
      cases before with
      | nil =>
        obtain ⟨rfl, -⟩ := List.cons.inj hclimb
        exact fun child hchild => .inl (by simpa using h [] first rest rfl child hchild)
      | cons other before =>
        obtain ⟨rfl, hrest⟩ := List.cons.inj hclimb
        intro child hchild
        have hbefore := ih h.visit hrest child hchild
        simpa [or_assoc] using hbefore
    | (first, false) :: rest =>
      simp only [climb] at hclimb
      exact ih h.expand hclimb

/-- **In post-order the children of a node come before it.** -/
theorem mem_before_of_postorder_eq {before after : List NodeId} {node : NodeId}
    (h : tree.postorder = before ++ node :: after) {child : NodeId}
    (hchild : child ∈ tree.children node) : child ∈ before := by
  have hstart : tree.ChildrenFirst [] [(root, false)] := by
    intro above other below heq
    have hmem : (other, true) ∈ [(root, false)] := by rw [heq]; simp
    simp at hmem
  exact (hstart.mem_before h child hchild).resolve_left (by simp)

end SyntaxTree

end StreamLint
