import Mathlib.Tactic.Common
import StreamLint.Syntax.Lowering
/-!
# How the nodes of a syntax tree lie in its array

The nodes of an outline are placed one after the other, a node before the nodes in its slots. This
file says what that makes of the array: parents stand before their children, the children of a node
stand in ascending order and know their parent, and the root has none
(`StreamLint.SyntaxTree.Linked`). The syntax tree of a document is always linked,
`StreamLint.SyntaxTree.linked_ofDocument`.

Placing only ever adds to an array. Once a node is complete nothing that is placed later touches it,
which is what `StreamLint.Extends` records, and the children of a node are among the places that its
slots were given (`StreamLint.Shape.sublist_children_assemble`).
-/

namespace StreamLint

/-! ### Names, children and slots -/

theorem SyntaxTree.construct?_of_nameAt? {tree : SyntaxTree} {place : NodeId} {name : String}
    (h : tree.nameAt? place = some name) : tree.construct? place = some (.identifier name) := by
  unfold nameAt? at h
  split at h
  next _ hconstruct =>
    obtain rfl := Option.some.inj h
    exact hconstruct
  next => cases h

/-- What stands in a named place of a construct is one of its children. -/
theorem Construct.mem_children_of_field? {construct : Construct} {field : Field} {child : NodeId}
    (h : construct.field? field = some child) : child ∈ construct.children := by
  cases construct <;> cases field <;> simp_all [Construct.field?, Construct.children]

theorem toList_firstSlot_sublist (slots : List (Option NodeId)) :
    (firstSlot slots).toList.Sublist (slots.filterMap id) := by
  rcases slots with _ | ⟨_ | first, rest⟩ <;> simp [firstSlot]

/-- A number of slots and the slot after them. -/
theorem take_drop_sublist (slots : List (Option NodeId)) (count : Nat) :
    ((slots.take count).filterMap id ++ (firstSlot (slots.drop count)).toList).Sublist
      (slots.filterMap id) := by
  conv_rhs => rw [← List.take_append_drop count slots, List.filterMap_append]
  exact (List.Sublist.refl _).append (toList_firstSlot_sublist _)

/-- The slot at the front and those after it. -/
theorem firstSlot_append_sublist {slots : List (Option NodeId)} {rest : List NodeId}
    (h : rest.Sublist (slots.tail.filterMap id)) :
    ((firstSlot slots).toList ++ rest).Sublist (slots.filterMap id) := by
  rcases slots with _ | ⟨_ | first, others⟩
  · simpa [firstSlot] using h
  · simpa [firstSlot] using h
  · simpa [firstSlot] using h

theorem getLast?_sublist {present : List NodeId} {last : NodeId}
    (h : present.getLast? = some last) : [last].Sublist present :=
  List.singleton_sublist.mpr (List.mem_of_getLast? h)

/-- The children of a construct are among the places in its slots, in their order. -/
theorem Shape.sublist_children_assemble (label : String) (shape : Shape)
    (slots : List (Option NodeId)) :
    (shape.assemble label slots).children.Sublist (slots.filterMap id) := by
  have hfirst := toList_firstSlot_sublist
  cases shape with
  | returnStatement => exact hfirst slots
  | function typeParameters params returnType =>
    simp only [assemble, Construct.children, List.append_assoc]
    exact firstSlot_append_sublist (take_drop_sublist slots.tail params)
  | functionExpression params returnType => exact take_drop_sublist slots params
  | classDeclaration typeParameters base interfaces =>
    exact firstSlot_append_sublist (List.Sublist.refl _)
  | assertion declared =>
    simp only [assemble]
    split
    next h => exact getLast?_sublist h
    next h => exact getLast?_sublist h
    next => simp [Construct.children]
  | parameter declared isProperty =>
    rcases slots with _ | ⟨_ | name, rest⟩
    · simp [assemble, Construct.children]
    · simp [assemble, Construct.children]
    · simpa [assemble, Construct.children] using hfirst rest
  | declarator declared =>
    rcases slots with _ | ⟨_ | name, rest⟩
    · simp [assemble, Construct.children]
    · simp [assemble, Construct.children]
    · simpa [assemble, Construct.children] using hfirst rest
  | property declared =>
    rcases slots with _ | ⟨_ | name, rest⟩
    · simp [assemble, Construct.children]
    · simp [assemble, Construct.children]
    · simpa [assemble, Construct.children] using hfirst rest
  | method params returnType =>
    rcases slots with _ | ⟨_ | name, rest⟩
    · simp [assemble, Construct.children]
    · simp [assemble, Construct.children]
    · simpa [assemble, Construct.children] using take_drop_sublist rest params
  | member =>
    rcases slots with _ | ⟨_ | first, _ | ⟨_ | second, rest⟩⟩ <;>
      simp [assemble, Construct.children]
  | index =>
    rcases slots with _ | ⟨_ | first, _ | ⟨_ | second, rest⟩⟩ <;>
      simp [assemble, Construct.children]
  | assignment =>
    rcases slots with _ | ⟨_ | first, _ | ⟨_ | second, rest⟩⟩ <;>
      simp [assemble, Construct.children]
  | _ => rcases slots with _ | ⟨_ | first, rest⟩ <;> simp [assemble, Construct.children]

/-! ### Arrays that grow -/

/-- Every node of the first array is in the second one, at the same place. -/
def Extends (old new : Array SyntaxNode) : Prop :=
  ∀ (id : NodeId) (node : SyntaxNode), old[id]? = some node → new[id]? = some node

/-- The node at a place has children in ascending order after it, and they know it. -/
def IsPlaced (nodes : Array SyntaxNode) (id : Nat) : Prop :=
  ∀ node : SyntaxNode, nodes[id]? = some node →
    node.construct.children.Pairwise (· < ·) ∧
      ∀ child ∈ node.construct.children,
        id < child ∧ ∃ inner, nodes[child]? = some inner ∧ inner.parent = some id

/-- The node at a place has a parent among the places from `first` on, or that parent is `top`, and
its parent stands before it. -/
def HasParent (nodes : Array SyntaxNode) (top first id : Nat) : Prop :=
  ∀ node : SyntaxNode, nodes[id]? = some node →
    ∃ parent : Nat, node.parent = some parent ∧ (parent = top ∨ first ≤ parent) ∧ parent < id

namespace Extends

variable {a b c : Array SyntaxNode}

theorem refl (a : Array SyntaxNode) : Extends a a :=
  fun _ _ h => h

theorem trans (hab : Extends a b) (hbc : Extends b c) : Extends a c :=
  fun id node h => hbc id node (hab id node h)

theorem push (a : Array SyntaxNode) (node : SyntaxNode) : Extends a (a.push node) := by
  intro id old h
  have hlt : id < a.size := (Array.getElem?_eq_some_iff.mp h).1
  rw [Array.getElem?_push_lt hlt, ← h, Array.getElem?_eq_getElem hlt]

theorem size_le (h : Extends a b) : a.size ≤ b.size := by
  by_contra hlt
  have hlast : b.size < a.size := by omega
  have := (Array.getElem?_eq_some_iff.mp (h b.size _ (Array.getElem?_eq_getElem hlast))).1
  omega

/-- What stands before the end of the old array stands in the new one as it was. -/
theorem getElem?_eq (h : Extends a b) {id : NodeId} (hlt : id < a.size) : b[id]? = a[id]? := by
  rw [Array.getElem?_eq_getElem hlt]
  exact h id _ (Array.getElem?_eq_getElem hlt)

/-- A node that is placed stays so. -/
theorem isPlaced (h : Extends a b) {id : NodeId} (hlt : id < a.size) (hid : IsPlaced a id) :
    IsPlaced b id := by
  intro node hnode
  rw [h.getElem?_eq hlt] at hnode
  obtain ⟨hsorted, hchildren⟩ := hid node hnode
  refine ⟨hsorted, fun child hchild => ?_⟩
  obtain ⟨hgt, inner, hinner, hparent⟩ := hchildren child hchild
  exact ⟨hgt, inner, h child inner hinner, hparent⟩

theorem hasParent (h : Extends a b) {top first id : NodeId} (hlt : id < a.size)
    (hid : HasParent a top first id) : HasParent b top first id := by
  intro node hnode
  rw [h.getElem?_eq hlt] at hnode
  exact hid node hnode

end Extends

/-! ### Placing outlines -/

namespace Outline

/-- What comes of placing an outline below a parent: the array has grown, its root is at the next
place, and everything new is complete. -/
structure Placing (parent : Option NodeId) (old new : Array SyntaxNode) : Prop where
  /-- Nothing old is lost. -/
  grown : Extends old new
  /-- The root of the outline is at the next place. -/
  root : ∃ node, new[old.size]? = some node ∧ node.parent = parent
  /-- The new nodes are complete. -/
  placed : ∀ id, old.size ≤ id → id < new.size → IsPlaced new id
  /-- The new nodes below the root have their parents among the new nodes. -/
  parents : ∀ id, old.size < id → id < new.size → HasParent new old.size old.size id

/-- What comes of placing the outlines in the slots of a node. -/
structure SlotPlacing (parent : NodeId) (old new : Array SyntaxNode) (slots : List (Option NodeId)) :
    Prop where
  /-- Nothing old is lost. -/
  grown : Extends old new
  /-- The places of the slots are in ascending order. -/
  sorted : (slots.filterMap id).Pairwise (· < ·)
  /-- The places of the slots are new, and they have the parent. -/
  slots : ∀ place ∈ slots.filterMap id,
    old.size ≤ place ∧ ∃ node, new[place]? = some node ∧ node.parent = some parent
  /-- The new nodes are complete. -/
  placed : ∀ id, old.size ≤ id → id < new.size → IsPlaced new id
  /-- The new nodes have the parent, or one among the new nodes. -/
  parents : ∀ id, old.size ≤ id → id < new.size → HasParent new parent old.size id

theorem SlotPlacing.nil (parent : NodeId) (nodes : Array SyntaxNode) :
    SlotPlacing parent nodes nodes [] where
  grown := .refl nodes
  sorted := by simp
  slots := by simp
  placed := fun id hle hlt => by omega
  parents := fun id hle hlt => by omega

/-- An empty slot takes no place. -/
theorem SlotPlacing.absent {parent : NodeId} {old new : Array SyntaxNode}
    {slots : List (Option NodeId)} (h : SlotPlacing parent old new slots) :
    SlotPlacing parent old new (none :: slots) where
  grown := h.grown
  sorted := by simpa using h.sorted
  slots := by simpa using h.slots
  placed := h.placed
  parents := h.parents

/-- A filled slot takes its places before the other slots. -/
theorem SlotPlacing.filled {parent : NodeId} {old middle new : Array SyntaxNode}
    {slots : List (Option NodeId)} (hparent : parent < old.size)
    (hfirst : Placing (some parent) old middle) (hrest : SlotPlacing parent middle new slots) :
    SlotPlacing parent old new (some old.size :: slots) := by
  -- the first outline takes the places up to `middle`, the others those from there on
  have hroom : old.size < middle.size := by
    obtain ⟨node, hnode, -⟩ := hfirst.root
    exact (Array.getElem?_eq_some_iff.mp hnode).1
  have hsize := hrest.grown.size_le
  obtain ⟨first, hat, hparentOf⟩ := hfirst.root
  refine ⟨hfirst.grown.trans hrest.grown, ?_, ?_, ?_, ?_⟩
  · simp only [List.filterMap_cons, id_eq, List.pairwise_cons]
    refine ⟨fun place hplace => ?_, hrest.sorted⟩
    exact Nat.lt_of_lt_of_le hroom (hrest.slots place hplace).1
  · intro place hplace
    simp only [List.filterMap_cons, id_eq, List.mem_cons] at hplace
    rcases hplace with rfl | hplace
    · exact ⟨Nat.le_refl _, first, hrest.grown _ _ hat, hparentOf⟩
    · obtain ⟨hle, hnode⟩ := hrest.slots place hplace
      exact ⟨by omega, hnode⟩
  · intro id hle hlt
    rcases Nat.lt_or_ge id middle.size with hbefore | hafter
    · exact hrest.grown.isPlaced hbefore (hfirst.placed id hle hbefore)
    · exact hrest.placed id hafter hlt
  · intro id hle hlt
    rcases Nat.lt_or_ge id middle.size with hbefore | hafter
    · refine hrest.grown.hasParent hbefore fun node hnode => ?_
      rcases Nat.eq_or_lt_of_le hle with rfl | hgt
      -- the root of the first outline has the parent, the nodes below it have one among themselves
      · obtain rfl : first = node := by simpa [hat] using hnode
        exact ⟨parent, hparentOf, .inl rfl, hparent⟩
      · obtain ⟨above, habove, hor, hbelow⟩ := hfirst.parents id hgt hbefore node hnode
        exact ⟨above, habove, .inr (by rcases hor with rfl | h <;> omega), hbelow⟩
    · intro node hnode
      obtain ⟨above, habove, hor, hbelow⟩ := hrest.parents id hafter hlt node hnode
      exact ⟨above, habove, hor.imp_right fun h => by omega, hbelow⟩

/-- A node is completed once its slots have their places. -/
theorem Placing.complete {parent : Option NodeId} {old new : Array SyntaxNode}
    {slots : List (Option NodeId)} {blank done : SyntaxNode}
    (h : SlotPlacing old.size (old.push blank) new slots) (hdone : done.parent = parent)
    (hchildren : done.construct.children.Sublist (slots.filterMap id)) :
    Placing parent old (new.setIfInBounds old.size done) := by
  have hsize : old.size < new.size := by
    have := h.grown.size_le
    rw [Array.size_push] at this
    omega
  -- completing a node changes its own place only
  have hself : (new.setIfInBounds old.size done)[old.size]? = some done := by
    simp [Array.getElem?_setIfInBounds_self_of_lt hsize]
  have hother : ∀ id : Nat, id ≠ old.size →
      (new.setIfInBounds old.size done)[id]? = new[id]? := fun id hne =>
    Array.getElem?_setIfInBounds_ne (Ne.symm hne)
  have hpush : (old.push blank).size = old.size + 1 := Array.size_push ..
  refine ⟨?_, ⟨done, hself, hdone⟩, ?_, ?_⟩
  · intro id node hnode
    have hlt : id < old.size := (Array.getElem?_eq_some_iff.mp hnode).1
    rw [hother id (Nat.ne_of_lt hlt)]
    exact h.grown id node (Extends.push old blank id node hnode)
  · intro id hle hlt node hnode
    rw [Array.size_setIfInBounds] at hlt
    rcases Nat.eq_or_lt_of_le hle with rfl | hgt
    · -- the node itself: its children are places of its slots
      obtain rfl : done = node := by simpa [hself] using hnode
      refine ⟨h.sorted.sublist hchildren, fun child hchild => ?_⟩
      obtain ⟨hafter, inner, hinner, hparent⟩ := h.slots child (hchildren.subset hchild)
      rw [hpush] at hafter
      exact ⟨hafter, inner, by rw [hother child (by omega)]; exact hinner, hparent⟩
    · rw [hother id (by omega)] at hnode
      obtain ⟨hsorted, hinside⟩ := h.placed id (by omega) hlt node hnode
      refine ⟨hsorted, fun child hchild => ?_⟩
      obtain ⟨hafter, inner, hinner, hparent⟩ := hinside child hchild
      exact ⟨hafter, inner, by rw [hother child (by omega)]; exact hinner, hparent⟩
  · intro id hgt hlt node hnode
    rw [Array.size_setIfInBounds] at hlt
    rw [hother id (by omega)] at hnode
    obtain ⟨above, habove, hor, hbelow⟩ := h.parents id (by omega) hlt node hnode
    exact ⟨above, habove, .inr (by rcases hor with rfl | h <;> omega), hbelow⟩

-- The recursion is that of outlines: a node is placed, then its slots, and then it is completed.
mutual

/-- **Placing an outline** puts its root at the next place, and completes all its nodes. -/
theorem placing_place (parent : Option NodeId) (nodes : Array SyntaxNode) :
    (outline : Outline) → Placing parent nodes (place parent nodes outline)
  | .mk label span shape slots => by
    have h := placing_placeSlots nodes.size (nodes.push ⟨.other label [], span, parent⟩)
      (by simp) slots
    exact .complete h rfl (shape.sublist_children_assemble label _)

/-- Placing the outlines in the slots of a node. -/
theorem placing_placeSlots (parent : Nat) (nodes : Array SyntaxNode)
    (hparent : parent < nodes.size) :
    (slots : List (Option Outline)) →
      SlotPlacing parent nodes (placeSlots parent nodes slots).1 (placeSlots parent nodes slots).2
  | [] => .nil parent nodes
  | none :: rest => (placing_placeSlots parent nodes hparent rest).absent
  | some outline :: rest => by
    have hfirst := placing_place (some parent) nodes outline
    have hroom := hfirst.grown.size_le
    exact .filled hparent hfirst (placing_placeSlots parent _ (by omega) rest)

end

end Outline

/-! ### The tree of a document -/

/-- The nodes of a tree point to each other as they should: children stand after their parent, in
ascending order, and know it, and every node but the root has a parent before it. -/
structure SyntaxTree.Linked (tree : SyntaxTree) : Prop where
  /-- There is a root. -/
  nonempty : 0 < tree.size
  /-- The root has no parent. -/
  parent_root : tree.parent? root = none
  /-- Children stand in ascending order. -/
  children_sorted : ∀ node, (tree.children node).Pairwise (· < ·)
  /-- Children know their parent. -/
  parent_of_mem_children : ∀ node, ∀ child ∈ tree.children node, tree.parent? child = some node
  /-- Parents stand before their children. -/
  parent_lt : ∀ node parent, tree.parent? node = some parent → parent < node
  /-- Every node but the root has a parent. -/
  exists_parent : ∀ node, node ≠ root → node < tree.size → ∃ parent, tree.parent? node = some parent

/-- The nodes of an outline, placed in an empty array, are linked. -/
theorem Outline.Placing.linked {tree : SyntaxTree}
    (h : Outline.Placing none #[] tree.nodes) : tree.Linked := by
  obtain ⟨top, htop, hnone⟩ := h.root
  have htop : tree.nodes[0]? = some top := htop
  have hlt : ∀ {id : Nat} {node : SyntaxNode}, tree.nodes[id]? = some node → id < tree.nodes.size :=
    fun h => (Array.getElem?_eq_some_iff.mp h).1
  have hplaced : ∀ {id : Nat} {node : SyntaxNode}, tree.nodes[id]? = some node →
      node.construct.children.Pairwise (· < ·) ∧ ∀ child ∈ node.construct.children,
        id < child ∧ ∃ inner, tree.nodes[child]? = some inner ∧ inner.parent = some id :=
    fun {id node} hnode => h.placed id (Nat.zero_le _) (hlt hnode) node hnode
  refine ⟨hlt htop, ?_, ?_, ?_, ?_, ?_⟩
  · simp [SyntaxTree.parent?, SyntaxTree.root, htop, hnone]
  · intro id
    cases hnode : tree.nodes[id]? with
    | none => simp [SyntaxTree.children, SyntaxTree.construct?, hnode]
    | some node =>
      simpa [SyntaxTree.children, SyntaxTree.construct?, hnode] using (hplaced hnode).1
  · intro id child hchild
    cases hnode : tree.nodes[id]? with
    | none => simp [SyntaxTree.children, SyntaxTree.construct?, hnode] at hchild
    | some node =>
      simp only [SyntaxTree.children, SyntaxTree.construct?, hnode, Option.map_some] at hchild
      obtain ⟨-, inner, hinner, hparent⟩ := (hplaced hnode).2 child hchild
      simp [SyntaxTree.parent?, hinner, hparent]
  -- the root has no parent, and that of any other node was placed before it
  · intro id parent hparent
    simp only [SyntaxTree.parent?, Option.bind_eq_some_iff] at hparent
    obtain ⟨node, hnode, hparent⟩ := hparent
    rcases Nat.eq_zero_or_pos id with rfl | hpos
    · obtain rfl : top = node := by simpa [htop] using hnode
      simp [hnone] at hparent
    · obtain ⟨above, habove, -, hbelow⟩ := h.parents id hpos (hlt hnode) node hnode
      obtain rfl : above = parent := by simpa [habove] using hparent
      exact hbelow
  · intro id hne hsize
    obtain ⟨node, hnode⟩ : ∃ node, tree.nodes[id]? = some node :=
      ⟨_, Array.getElem?_eq_getElem hsize⟩
    obtain ⟨above, habove, -⟩ := h.parents id (Nat.pos_of_ne_zero hne) hsize node hnode
    exact ⟨above, by simp [SyntaxTree.parent?, hnode, habove]⟩

/-- **The syntax tree of a document is linked.** -/
theorem SyntaxTree.linked_ofDocument (document : Concrete.Document) :
    (SyntaxTree.ofDocument document).Linked :=
  (Outline.placing_place none #[] (Outline.ofDocument document)).linked

end StreamLint
