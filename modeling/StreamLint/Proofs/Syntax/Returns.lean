import Mathlib.Data.List.Nodup
import StreamLint.Proofs.Syntax.Reach
/-!
# What is returned from a block

The values of the `return` statements of a block are found by a walk that stays out of functions, of
classes, and of values that are returned. It is to find what the function around the block returns,
and nothing else: the values of those statements below the block that have this function as the
nearest one around them (`StreamLint.SyntaxTree.IsReturnOf`).

It finds the statements for which the block is the nearest node that keeps returns to itself, where
the block counts as such a node (`StreamLint.SyntaxTree.IsCollected`), each of them once and in the
order of the text (`StreamLint.SyntaxTree.returnedValues_eq`). The two conditions are not the same.
A method keeps nothing to itself. That does no harm to the methods of a class, because the class
does, but there is none around the methods and accessors of an object literal, so that what these
return is taken for what the function around them returns.
-/

namespace StreamLint

/-- Whether a kind of node is that of a function with a body. -/
def SyntaxKind.isFunction : SyntaxKind → Bool
  | .functionDeclaration | .functionExpression | .methodDefinition => true
  | _ => false

namespace SyntaxTree

variable (tree : SyntaxTree)

/-! ### Statements and what they return from -/

/-- The value of a `return` statement that has one. -/
def returnedValue? (node : NodeId) : Option NodeId :=
  match tree.construct? node with
  | some (.returnStatement value) => value
  | _ => none

/-- Whether a node keeps to itself what is returned below it. -/
def keepsReturns (node : NodeId) : Bool :=
  ((tree.kind? node).map (·.ownsReturns)).getD false || (tree.returnedValue? node).isSome

/-- The nearest function around a node. -/
def functionAround? (node : NodeId) : Option NodeId :=
  (tree.ancestors node).find? fun above => ((tree.kind? above).map (·.isFunction)).getD false

/-- **The statement belongs to the function**: it stands in the block, and there is no other
function in between. -/
def IsReturnOf (function block node : NodeId) : Prop :=
  block ∈ tree.ancestors node ∧ tree.functionAround? node = some function

/-- **The statement is one of those that are found**: of the nodes above it that keep returns to
themselves, and the block, the block is the nearest. -/
def IsCollected (block node : NodeId) : Prop :=
  (tree.ancestors node).find? (fun above => above == block || tree.keepsReturns above) = some block

instance (function block node : NodeId) : Decidable (tree.IsReturnOf function block node) :=
  inferInstanceAs (Decidable (_ ∧ _))

instance (block node : NodeId) : Decidable (tree.IsCollected block node) :=
  inferInstanceAs (Decidable (_ = _))

/-- The values of the `return` statements of a function with a block, in the order of the text. -/
def ownReturns (function block : NodeId) : List NodeId :=
  (tree.preorder.filter fun node => tree.IsReturnOf function block node).filterMap
    tree.returnedValue?

/-- The walk for what is returned from the block comes to the node. -/
def isMet (block node : NodeId) : Bool :=
  node == block || decide (tree.IsCollected block node)

variable {tree} {block node : NodeId}

/-! ### The way up -/

/-- The way up from a node goes on at its parent. -/
theorem Linked.ancestors_eq_cons (hlinked : tree.Linked) {parent : NodeId}
    (h : tree.parent? node = some parent) :
    tree.ancestors node = parent :: tree.ancestors parent := by
  have hself := hlinked.selfAndAncestors_eq_cons h
  simpa [selfAndAncestors] using hself

theorem isCollected_of_parent (hlinked : tree.Linked) {parent : NodeId}
    (hparent : tree.parent? node = some parent) (hne : parent ≠ block) :
    tree.IsCollected block node ↔ tree.keepsReturns parent = false ∧ tree.IsCollected block parent := by
  unfold IsCollected
  rw [hlinked.ancestors_eq_cons hparent, List.find?_cons, beq_eq_false_iff_ne.mpr hne]
  cases tree.keepsReturns parent <;> simp [hne]

/-- **The walk comes to a node from its parent**, if that is met and lets it pass. -/
theorem isMet_of_parent (hlinked : tree.Linked) (hblock : tree.keepsReturns block = false)
    {parent : NodeId} (hparent : tree.parent? node = some parent) (hne : node ≠ block) :
    tree.isMet block node = (!tree.keepsReturns parent && tree.isMet block parent) := by
  by_cases heq : parent = block
  · subst heq
    have hcollected : tree.IsCollected parent node := by
      simp [IsCollected, hlinked.ancestors_eq_cons hparent]
    simp [isMet, hcollected, hblock]
  · rw [Bool.eq_iff_iff]
    simp [isMet, hne, heq, isCollected_of_parent hlinked hparent heq]

theorem isMet_root (hlinked : tree.Linked) (hne : root ≠ block) :
    tree.isMet block root = false := by
  have hnone : tree.ancestors root = [] := by
    unfold ancestors
    cases tree.size <;> simp [ancestorsWithin, hlinked.parent_root]
  simp [isMet, IsCollected, hnone, hne]

/-- Before the block is visited, the walk has come to no other node. -/
theorem IsFront.isMet_eq_false (hlinked : tree.Linked) (hblock : tree.keepsReturns block = false)
    {visited stack : List NodeId} (h : IsFront tree visited stack) (hfresh : block ∉ visited) :
    ∀ node ∈ visited ++ stack, node ≠ block → tree.isMet block node = false := by
  intro node
  induction node using Nat.strongRecOn with
  | _ node ih =>
    intro hnode hne
    by_cases hroot : node = root
    · subst hroot
      exact isMet_root hlinked hne
    · obtain ⟨parent, hvisited, hparent⟩ := h.reached node hnode hroot
      have hother : parent ≠ block := fun heq => hfresh (heq ▸ hvisited)
      rw [isMet_of_parent hlinked hblock hparent hne, ih parent (hlinked.parent_lt _ _ hparent)
        (List.mem_append_left _ hvisited) hother, Bool.and_false]

/-! ### The walk -/

/-- One step of the walk. -/
theorem returnsWithin_succ (steps : Nat) (stack : List NodeId) :
    tree.returnsWithin (steps + 1) (node :: stack) =
      (tree.returnedValue? node).toList ++ tree.returnsWithin steps
        ((if tree.keepsReturns node then [] else tree.children node) ++ stack) := by
  simp only [returnsWithin]
  split
  next value hconstruct => simp [keepsReturns, returnedValue?, hconstruct]
  next construct hother hconstruct =>
    have hnone : tree.returnedValue? node = none := by
      unfold returnedValue?
      split
      next value heq =>
        obtain rfl := Option.some.inj (hconstruct.symm.trans heq)
        cases value with
        | none => rfl
        | some value => exact (hother value rfl).elim
      next => rfl
    simp only [keepsReturns, kind?, children, hconstruct, hnone, Option.map_some, Option.getD_some,
      Option.isSome_none, Bool.or_false, Option.toList_none, List.nil_append]
    split <;> rfl
  next hconstruct => simp [returnedValue?, keepsReturns, kind?, children, hconstruct]

/-- The children of a node that the walk comes to, if it goes on to them. -/
theorem filter_isMet_children (hlinked : tree.Linked) (hblock : tree.keepsReturns block = false)
    (hfresh : block ∉ tree.children node) :
    (tree.children node).filter (tree.isMet block) =
      if tree.isMet block node then (if tree.keepsReturns node then [] else tree.children node)
      else [] := by
  have hchild : ∀ child ∈ tree.children node,
      tree.isMet block child = (!tree.keepsReturns node && tree.isMet block node) :=
    fun child hchild => isMet_of_parent hlinked hblock
      (hlinked.parent_of_mem_children node child hchild) fun heq => hfresh (heq ▸ hchild)
  rw [List.filter_congr hchild]
  cases tree.isMet block node <;> cases tree.keepsReturns node <;> simp

/-- **The walk for returned values goes along with the full walk**, once that has come to the block:
its stack holds those nodes of the full stack that it comes to. -/
theorem IsFront.returnsWithin_eq (hlinked : tree.Linked)
    (hblock : tree.keepsReturns block = false) {visited stack : List NodeId} {steps more : Nat}
    (h : IsFront tree visited stack) (hmet : block ∈ visited ++ stack)
    (hsteps : tree.size ≤ visited.length + steps) (hmore : steps ≤ more) :
    tree.returnsWithin more (stack.filter (tree.isMet block)) =
      ((tree.walk steps stack).filter (tree.isMet block)).filterMap tree.returnedValue? := by
  induction steps generalizing visited stack more with
  | zero =>
    have hle := h.length_le
    -- all nodes are visited, so none of them is left on the stack
    obtain rfl : stack = [] := List.length_eq_zero_iff.mp (by omega)
    cases more <;> rfl
  | succ steps ih =>
    cases stack with
    | nil => cases more <;> rfl
    | cons node stack =>
      have hnext := h.step hlinked
      have hfresh : block ∉ tree.children node := by
        have hapart := (List.nodup_append.mp hnext.nodup).2.2
        have hnodup := (List.nodup_append.mp hnext.nodup).2.1
        intro hchild
        simp only [List.mem_append, List.mem_cons] at hmet
        rcases hmet with hvisited | rfl | hstack
        · exact hapart block (by simp [hvisited]) block (by simp [hchild]) rfl
        · exact hapart block (by simp) block (by simp [hchild]) rfl
        · exact (List.nodup_append.mp hnodup).2.2 block hchild block hstack rfl
      have hgoes := fun more => @ih _ _ more hnext (by simp at hmet ⊢; tauto) (by simp; omega)
      simp only [List.filter_append, filter_isMet_children hlinked hblock hfresh] at hgoes
      simp only [walk]
      cases hnode : tree.isMet block node with
      | false =>
        simp only [hnode, Bool.false_eq_true, if_false, List.nil_append] at hgoes
        rw [List.filter_cons_of_neg (by simp [hnode]), List.filter_cons_of_neg (by simp [hnode])]
        exact hgoes more (by omega)
      | true =>
        obtain ⟨more, rfl⟩ : ∃ n, more = n + 1 := ⟨more - 1, by omega⟩
        simp only [hnode, if_true] at hgoes
        rw [List.filter_cons_of_pos (by simp [hnode]), List.filter_cons_of_pos (by simp [hnode]),
          returnsWithin_succ, hgoes more (by omega)]
        cases hvalue : tree.returnedValue? node <;> simp [hvalue]

/-- Before the full walk has come to the block, the other walk finds nothing. -/
theorem IsFront.returnsWithin_block_eq (hlinked : tree.Linked)
    (hblock : tree.keepsReturns block = false) {visited stack : List NodeId} {steps more : Nat}
    (h : IsFront tree visited stack) (hfresh : block ∉ visited)
    (hmem : block ∈ tree.walk steps stack) (hsteps : tree.size ≤ visited.length + steps)
    (hmore : steps ≤ more) :
    tree.returnsWithin more [block] =
      ((tree.walk steps stack).filter (tree.isMet block)).filterMap tree.returnedValue? := by
  induction steps generalizing visited stack with
  | zero => simp [walk] at hmem
  | succ steps ih =>
    have hother := h.isMet_eq_false hlinked hblock hfresh
    by_cases hstack : block ∈ stack
    · rw [← h.returnsWithin_eq hlinked hblock (List.mem_append_right _ hstack) hsteps hmore]
      -- the block is the only node on the stack that the walk comes to
      obtain ⟨before, after, rfl⟩ := List.append_of_mem hstack
      have hnodup := (List.nodup_append.mp h.nodup).2.1
      have hnone : ∀ part : List NodeId, (∀ node ∈ part, node ∈ before ++ block :: after) →
          block ∉ part → part.filter (tree.isMet block) = [] := by
        intro part hsub hnot
        refine List.filter_eq_nil_iff.mpr fun node hnode => ?_
        rw [hother node (List.mem_append_right _ (hsub node hnode)) fun heq => hnot (heq ▸ hnode)]
        exact Bool.false_ne_true
      obtain ⟨-, hafter, hapart⟩ := List.nodup_append.mp hnodup
      have hself : tree.isMet block block = true := by simp [isMet]
      rw [List.filter_append, List.filter_cons_of_pos hself,
        hnone before (fun _ hnode => List.mem_append_left _ hnode)
          fun hnode => hapart block hnode block List.mem_cons_self rfl,
        hnone after (fun _ hnode => List.mem_append_right _ (List.mem_cons_of_mem _ hnode))
          (List.nodup_cons.mp hafter).1]
      rfl
    · cases stack with
      | nil => simp [walk] at hmem
      | cons node stack =>
        have hne : node ≠ block := fun heq => hstack (heq ▸ List.mem_cons_self)
        simp only [walk, List.mem_cons] at hmem ⊢
        rw [List.filter_cons_of_neg (by simp [hother node (by simp) hne])]
        refine ih (h.step hlinked) ?_ (hmem.resolve_left hne.symm) (by simp; omega) (by omega)
        simpa [hne.symm] using hfresh

/-! ### What is found -/

/-- **The nodes of a tree are visited once each.** -/
theorem IsFront.nodup_walk (hlinked : tree.Linked) {visited stack : List NodeId}
    (h : IsFront tree visited stack) (steps : Nat) : (visited ++ tree.walk steps stack).Nodup := by
  induction steps generalizing visited stack with
  | zero => simpa [walk] using (List.nodup_append.mp h.nodup).1
  | succ steps ih =>
    cases stack with
    | nil => simpa [walk] using (List.nodup_append.mp h.nodup).1
    | cons node stack => simpa [walk] using ih (h.step hlinked)

theorem Linked.nodup_preorder (hlinked : tree.Linked) : tree.preorder.Nodup := by
  rw [preorder, if_neg (Nat.ne_of_gt hlinked.nonempty)]
  exact (IsFront.start hlinked).nodup_walk hlinked tree.size

/-- A value is returned by its parent only. -/
theorem parent?_of_returnedValue? (hlinked : tree.Linked) {value : NodeId}
    (h : tree.returnedValue? node = some value) : tree.parent? value = some node := by
  refine hlinked.parent_of_mem_children node value ?_
  unfold returnedValue? at h
  split at h
  next argument hconstruct =>
    subst h
    simp [children, hconstruct, Construct.children]
  next => cases h

theorem eq_of_returnedValue? (hlinked : tree.Linked) {other value : NodeId}
    (h : tree.returnedValue? node = some value) (hother : tree.returnedValue? other = some value) :
    node = other :=
  Option.some.inj ((parent?_of_returnedValue? hlinked h).symm.trans
    (parent?_of_returnedValue? hlinked hother))

/-- **What is returned from a block**, as it is found: the values of the statements that have the
block as the nearest node around them that keeps returns to itself, in the order of the text. -/
theorem returnedValues_eq (hlinked : tree.Linked) (hreached : tree.IsReached block)
    (hblock : tree.kind? block = some .blockStatement) :
    tree.returnedValues block =
      (tree.preorder.filter fun node => tree.IsCollected block node).filterMap
        tree.returnedValue? := by
  have hvalue : tree.returnedValue? block = none := by
    unfold returnedValue?
    split
    next hconstruct => simp [kind?, hconstruct, Construct.kind] at hblock
    next => rfl
  have hkeeps : tree.keepsReturns block = false := by
    simp [keepsReturns, hblock, hvalue, SyntaxKind.ownsReturns]
  have hmem := hlinked.mem_preorder hreached
  unfold returnedValues
  rw [preorder, if_neg (Nat.ne_of_gt hlinked.nonempty)] at hmem ⊢
  rw [(IsFront.start hlinked).returnsWithin_block_eq hlinked hkeeps (by simp) hmem (by simp)
    (Nat.le_refl _), List.filterMap_filter, List.filterMap_filter]
  -- the block is met, and it is no statement with a value
  refine List.filterMap_congr fun node _ => ?_
  by_cases heq : node = block
  · subst heq
    simp [hvalue]
  · simp [isMet, heq]

/-- Values of different statements are different. -/
theorem nodup_filterMap_returnedValue? (hlinked : tree.Linked) {nodes : List NodeId}
    (h : nodes.Nodup) : (nodes.filterMap tree.returnedValue?).Nodup :=
  h.filterMap fun _ _ _ hvalue hother => eq_of_returnedValue? hlinked hvalue hother

/-- A statement that is reached gives its value, if it is one of those that are looked for. -/
theorem mem_returned_iff (hlinked : tree.Linked) (test : NodeId → Prop) [DecidablePred test]
    {value : NodeId} (hreached : tree.IsReached node) (hvalue : tree.returnedValue? node = some value) :
    value ∈ (tree.preorder.filter fun node => test node).filterMap tree.returnedValue? ↔
      test node := by
  simp only [List.mem_filterMap, List.mem_filter, decide_eq_true_eq]
  constructor
  · rintro ⟨other, ⟨-, hother⟩, hother'⟩
    exact eq_of_returnedValue? hlinked hother' hvalue ▸ hother
  · exact fun htest => ⟨node, ⟨hlinked.mem_preorder hreached, htest⟩, hvalue⟩

/-- **What is found is what the function returns** if and only if the two conditions agree on all
statements with a value. -/
theorem returnedValues_eq_ownReturns_iff (hlinked : tree.Linked) {function : NodeId}
    (hreached : tree.IsReached block) (hblock : tree.kind? block = some .blockStatement) :
    tree.returnedValues block = tree.ownReturns function block ↔
      ∀ node, tree.IsReached node → (tree.returnedValue? node).isSome = true →
        (tree.IsCollected block node ↔ tree.IsReturnOf function block node) := by
  rw [returnedValues_eq hlinked hreached hblock, ownReturns]
  constructor
  · intro hsame node hnode hsome
    obtain ⟨value, hvalue⟩ := Option.isSome_iff_exists.mp hsome
    rw [← mem_returned_iff hlinked (tree.IsCollected block) hnode hvalue, hsame,
      mem_returned_iff hlinked (tree.IsReturnOf function block) hnode hvalue]
  · intro hagree
    rw [List.filterMap_filter, List.filterMap_filter]
    refine List.filterMap_congr fun node hnode => ?_
    cases hvalue : tree.returnedValue? node with
    | none => simp
    | some value =>
      have hreached := IsReached.of_mem_preorder hnode
      simp only [hagree node hreached (by simp [hvalue])]

end SyntaxTree

end StreamLint
