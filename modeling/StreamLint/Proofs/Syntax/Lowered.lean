import StreamLint.Proofs.Syntax.Layout
import StreamLint.Proofs.Syntax.Reach
/-!
# The nodes of a document that are lowered

A plan fills the slots that its shape expects (`StreamLint.Plan.suits_ofNode`), so that the nodes of
a concrete tree keep what is in their slots. The one exception is a type assertion written with
angle brackets around which the parser has put several expressions: all of them are lowered, and
the last one becomes the operand (`StreamLint.Plan.keepsSlots_ofNode`). Which nodes become type
assertions, identifiers and member expressions can be told by what the grammar calls them
(`StreamLint.Plan.fits_ofNode`).

Hence the arena of a document: the nodes are linked, every way up ends at the root, and the walk
from the root meets the places in their order exactly if no type assertion that is lowered has
several operands, `StreamLint.SyntaxTree.preorder_ofDocument_iff`.
-/

namespace StreamLint

open Concrete (Node Document)

/-- Whether a slot is to be filled. -/
def Slot.isFilled (slot : Slot) : Bool :=
  slot.node?.isSome

/-- The parts of a node that are no type arguments: the operands of a type assertion. -/
def Concrete.Node.operands (node : Node) : List Node :=
  node.namedParts.filter (·.kind != "type_arguments")

/-! ### What plans fill -/

namespace Plan

/-- The plan fills the slots that its shape expects. -/
def Suits (plan : Plan) : Prop :=
  plan.shape.Suits (plan.slots.map (·.isFilled))

/-- The plan has at most one operand if it is that of a type assertion. -/
def KeepsSlots (plan : Plan) : Prop :=
  plan.shape.KeepsSlots (plan.slots.map (·.isFilled))

section

variable {node : Node} {shape : Shape}

theorem suits_wrap (h : shape.Suits [true]) : (wrap node shape).Suits := by
  unfold wrap
  split
  · exact h
  · exact trivial

theorem suits_withPart {part : String} {rest : List Slot}
    (h : shape.Suits (true :: rest.map (·.isFilled))) :
    (withPart node part shape rest).Suits := by
  unfold withPart
  split
  · exact h
  · exact trivial

theorem suits_pair {first second : String} (h : shape.Suits [true, true]) :
    (pair node first second shape).Suits := by
  unfold pair
  split
  · exact h
  · exact trivial

/-- A member expression is one of no particular kind unless its property is a name. -/
theorem suits_member (isNamed : Bool) :
    (if isNamed then Shape.member else Shape.other).Suits [true, true] := by
  cases isNamed
  · exact trivial
  · rfl

/-- A `return` statement has room for one part. -/
theorem suits_return : (mk .returnStatement ((Slot.ofAll node).take 1)).Suits := by
  have hlength : ((Slot.ofAll node).take 1).length ≤ 1 := List.length_take_le 1 _
  simpa only [Suits, Shape.Suits, List.length_map] using hlength

end

/-- **Plans fill the slots that their shapes expect.** -/
theorem suits_ofNode (source : String) (node : Node) : (ofNode source node).Suits := by
  unfold ofNode
  split <;> first
    | exact trivial
    | exact suits_wrap rfl
    | exact suits_withPart rfl
    | exact suits_withPart ⟨_, rfl⟩
    | exact suits_withPart ⟨_, rfl, by simp⟩
    | exact suits_pair rfl
    | exact suits_pair (suits_member _)
    | exact suits_return
    | simp [Suits, Shape.Suits, leaf]

/-! ### What shapes tell of nodes -/

section

variable {node : Node} {shape : Shape} (fact : Shape → Prop)

/-- A plan around a part has the shape that was asked for, or none in particular. -/
theorem shape_wrap (h : fact shape) (hother : fact .other) : fact (wrap node shape).shape := by
  unfold wrap
  split
  · exact h
  · exact hother

theorem shape_withPart {part : String} {rest : List Slot} (h : fact shape) (hother : fact .other) :
    fact (withPart node part shape rest).shape := by
  unfold withPart
  split
  · exact h
  · exact hother

theorem shape_pair {first second : String} (h : fact shape) (hother : fact .other) :
    fact (pair node first second shape).shape := by
  unfold pair
  split
  · exact h
  · exact hother

theorem shape_member (isNamed : Bool) (h : fact .member) (hother : fact .other) :
    fact (if isNamed then .member else .other) := by
  cases isNamed
  · exact hother
  · exact h

end

/-- Whether a shape is that of a type assertion. -/
def isAssertion : Shape → Bool
  | .assertion _ => true
  | _ => false

/-- The name that a shape is that of. -/
def name? : Shape → Option String
  | .identifier name => some name
  | _ => none

/-- Whether a shape is that of a member expression. -/
def isMember : Shape → Bool
  | .member => true
  | _ => false

/-- **What a shape tells of the node** that it is made for. -/
structure Fits (source : String) (node : Node) (shape : Shape) : Prop where
  /-- The nodes that become type assertions are those that the grammar calls so. -/
  isAssertion_eq : isAssertion shape = ["as_expression", "type_assertion"].contains node.kind
  /-- Those that become identifiers are the names, and hold their text. -/
  name?_eq : name? shape = if isName node.kind then some (node.text source) else none
  /-- Those that become member expressions are among those that the grammar calls so. -/
  kind_of_isMember : isMember shape = true → node.kind = "member_expression"

/-- **Plans have shapes that fit.** -/
theorem fits_ofNode (source : String) (node : Node) :
    Fits source node (ofNode source node).shape := by
  by_cases hassertion : ["as_expression", "type_assertion"].contains node.kind
  · have hplan : ofNode source node = assertion source node ∧ isName node.kind = false := by
      rcases (show node.kind = "as_expression" ∨ node.kind = "type_assertion" by
        simpa using hassertion) with hkind | hkind <;> simp [ofNode, hkind, isName]
    rw [hplan.1]
    exact ⟨hassertion.symm, by rw [hplan.2]; rfl, nofun⟩
  rw [Bool.not_eq_true] at hassertion
  by_cases hname : isName node.kind
  · have hplan : ofNode source node = leaf (.identifier (node.text source)) := by
      simp only [isName, List.contains_iff_mem, List.mem_cons, List.not_mem_nil, or_false] at hname
      rcases hname with hkind | hkind | hkind | hkind | hkind | hkind | hkind <;>
        simp only [ofNode, hkind]
    rw [hplan]
    exact ⟨hassertion.symm, by rw [hname]; rfl, nofun⟩
  -- all other shapes say nothing, but that of a member expression
  have hplain : ∀ shape, isAssertion shape = false → name? shape = none →
      (isMember shape = true → node.kind = "member_expression") → Fits source node shape :=
    fun shape h hnone hmember => ⟨h.trans hassertion.symm, by rw [hnone, if_neg hname], hmember⟩
  have hother : Fits source node .other := hplain _ rfl rfl nofun
  unfold ofNode
  split <;> first
    | exact hplain _ rfl rfl nofun
    | exact shape_wrap (Fits source node) (hplain _ rfl rfl nofun) hother
    | exact shape_withPart (Fits source node) (hplain _ rfl rfl nofun) hother
    | exact shape_pair (Fits source node) (hplain _ rfl rfl nofun) hother
    | exact shape_pair (Fits source node)
        (shape_member (Fits source node) _ (hplain _ rfl rfl fun _ => ‹_›) hother) hother
    | exact absurd hassertion (by rw [‹node.kind = _›]; decide)
    | exact absurd (by rw [‹node.kind = _›]; decide) hname

/-! ### Operands of type assertions -/

/-- Once an assertion with `as` has its operand, what follows is the type. -/
theorem assertionParts_found {source : String} (nodes : List Node) {found : List Node}
    (type : Option TypeExpr) (h : found ≠ []) :
    (assertionParts source true nodes found type).1 = found.reverse := by
  induction nodes generalizing type with
  | nil => rfl
  | cons node rest ih =>
    unfold assertionParts
    split
    · exact ih _
    · simp [h, ih]

/-- The operand of an assertion with `as` is the first part that is no type argument. -/
theorem assertionParts_as {source : String} (nodes : List Node) (type : Option TypeExpr) :
    (assertionParts source true nodes [] type).1 =
      (nodes.filter (·.kind != "type_arguments")).take 1 := by
  induction nodes generalizing type with
  | nil => rfl
  | cons node rest ih =>
    unfold assertionParts
    split
    next hkind => rw [ih, List.filter_cons_of_neg (by simpa using hkind)]
    next hkind =>
      rw [List.filter_cons_of_pos (by simpa using hkind)]
      simp [assertionParts_found rest type (List.cons_ne_nil node [])]

/-- The operands of an assertion with angle brackets are all that is no type argument. -/
theorem assertionParts_angle {source : String} (nodes found : List Node)
    (type : Option TypeExpr) :
    (assertionParts source false nodes found type).1 =
      found.reverse ++ nodes.filter (·.kind != "type_arguments") := by
  induction nodes generalizing found type with
  | nil => simp [assertionParts]
  | cons node rest ih =>
    unfold assertionParts
    split
    next hkind => simp_all
    next hkind => simp_all

theorem map_isFilled_filled (nodes : List Node) :
    ((nodes.map Slot.filled).map (·.isFilled)).count true = nodes.length := by
  induction nodes with
  | nil => rfl
  | cons node rest ih => simp_all [Slot.isFilled, Slot.node?]

/-- **Slots that are not kept** are those of type assertions with several operands. -/
theorem keepsSlots_ofNode (source : String) (node : Node) :
    (ofNode source node).KeepsSlots ↔
      (node.kind = "type_assertion" → node.operands.length < 2) := by
  by_cases hangle : node.kind = "type_assertion"
  · have hplan : ofNode source node = assertion source node := by simp [ofNode, hangle]
    have hcount : ((assertion source node).slots.map (·.isFilled)).count true =
        node.operands.length := by
      simp [assertion, hangle, assertionParts_angle, map_isFilled_filled, Node.operands,
        -List.map_map]
    rw [hplan]
    refine ⟨fun h _ => hcount ▸ h _ rfl, fun h _ _ => hcount ▸ h hangle⟩
  · refine ⟨fun _ h => absurd h hangle, fun _ declared hshape => ?_⟩
    have hkind := (fits_ofNode source node).isAssertion_eq
    rw [hshape] at hkind
    have has : node.kind = "as_expression" := by simpa [isAssertion, hangle] using hkind
    have hplan : ofNode source node = assertion source node := by simp [ofNode, has]
    simp only [hplan, assertion, has, beq_self_eq_true, map_isFilled_filled, assertionParts_as,
      List.length_take]
    omega

end Plan

/-- A construct is an identifier only if its shape is that of one. -/
theorem Shape.name?_of_assemble {label name : String} {shape : Shape} {ids : List (Option NodeId)}
    (h : shape.assemble label ids = .identifier name) : Plan.name? shape = some name := by
  unfold assemble at h
  simp only at h
  split at h <;> first
    | exact congrArg some (Construct.identifier.inj h)
    | cases h
    | (split at h <;> cases h)

/-! ### Lowered nodes -/

/-- The nodes of a document below its root that get a place in the syntax tree: the named parts of
the root, and what is in the slots of nodes that get one. -/
inductive Concrete.Document.IsLowered (document : Document) : Node → Prop where
  /-- A named part of the root. -/
  | part {node : Node} (h : node ∈ document.root.namedParts) : IsLowered document node
  /-- A node in a slot. -/
  | slot {node child : Node} {slot : Slot} (h : IsLowered document node)
    (hslot : slot ∈ (Plan.ofNode document.text node).slots) (hchild : slot.node? = some child) :
    IsLowered document child

namespace Outline

@[simp]
theorem shape_ofNode (source : String) (node : Node) :
    (ofNode source node).shape = (Plan.ofNode source node).shape := by
  rw [ofNode_eq, shape]

@[simp]
theorem slots_ofNode (source : String) (node : Node) :
    (ofNode source node).slots = (Plan.ofNode source node).slots.map (ofSlot? source) := by
  rw [ofNode_eq, slots]

@[simp]
theorem isSome_ofSlot? (source : String) (slot : Slot) :
    (ofSlot? source slot).isSome = slot.isFilled := by
  cases slot <;> rfl

/-- What a part of the outline of a document is the outline of. -/
inductive IsPartOf (document : Document) : Outline → Prop where
  /-- The document itself. -/
  | root : IsPartOf document (ofDocument document)
  /-- A lowered node. -/
  | node {node : Node} (h : document.IsLowered node) :
    IsPartOf document (ofNode document.text node)
  /-- A parameter made up around a lowered node. -/
  | bareParameter {name : Node} (h : document.IsLowered name) :
    IsPartOf document (bareParameter document.text name)

variable {document : Document}

theorem IsPartOf.slot {outer inner : Outline} (h : IsPartOf document outer)
    (hslot : some inner ∈ outer.slots) : IsPartOf document inner := by
  cases h with
  | root =>
    obtain ⟨node, hnode, hinner⟩ := List.mem_map.mp hslot
    obtain rfl := Option.some.inj hinner
    exact .node (.part hnode)
  | node h =>
    rw [slots_ofNode] at hslot
    obtain ⟨slot, hmem, hinner⟩ := List.mem_map.mp hslot
    cases slot with
    | absent => simp [ofSlot?] at hinner
    | filled child =>
      obtain rfl := Option.some.inj hinner
      exact .node (h.slot hmem rfl)
    | bareParameter name =>
      obtain rfl := Option.some.inj hinner
      exact .bareParameter (h.slot hmem rfl)
  | bareParameter h =>
    obtain rfl := Option.some.inj (List.mem_singleton.mp hslot)
    exact .node h

/-- **Every part of a document's outline** is its root, the outline of a lowered node or a parameter
made up around one. -/
theorem IsAt.isPartOf {place : Nat} {part : Outline}
    (h : (ofDocument document).IsAt place part) : IsPartOf document part := by
  induction h with
  | self => exact .root
  | slot h hslot ih => exact ih.slot (List.of_mem_zip hslot).2

theorem IsAt.exists_slot {whole outer inner : Outline} {place : Nat} (h : whole.IsAt place outer)
    (hslot : some inner ∈ outer.slots) : ∃ next, whole.IsAt next inner := by
  obtain ⟨next, hnext⟩ := exists_mem_zip_slotPlaces hslot
  exact ⟨next, h.slot hnext⟩

/-- **Lowered nodes** are parts of the outline of the document. -/
theorem exists_isAt_of_isLowered {node : Node} (h : document.IsLowered node) :
    ∃ place, (ofDocument document).IsAt place (ofNode document.text node) := by
  induction h with
  | part h => exact IsAt.self.exists_slot (List.mem_map.mpr ⟨_, h, rfl⟩)
  | @slot node child slot h hslot hchild ih =>
    obtain ⟨above, hat⟩ := ih
    have hmem : ofSlot? document.text slot ∈ (ofNode document.text node).slots := by
      rw [slots_ofNode]
      exact List.mem_map.mpr ⟨slot, hslot, rfl⟩
    cases slot with
    | absent => simp [Slot.node?] at hchild
    | filled inner =>
      obtain rfl : inner = child := by simpa [Slot.node?] using hchild
      exact hat.exists_slot hmem
    | bareParameter name =>
      -- the name is in the only slot of the parameter made up around it
      obtain rfl : name = child := by simpa [Slot.node?] using hchild
      obtain ⟨outer, houter⟩ := hat.exists_slot hmem
      exact houter.exists_slot (List.mem_singleton_self _)

/-- The parts of the outline of a document have the slots that they should. -/
theorem IsPartOf.suits {part : Outline} (h : IsPartOf document part) : part.Suits := by
  cases h with
  | root => exact trivial
  | node h =>
    have hsuits := Plan.suits_ofNode document.text ‹Node›
    simpa [Suits, Plan.Suits, Function.comp_def] using hsuits
  | bareParameter h => exact ⟨_, rfl, by simp⟩

theorem keepsSlots_ofNode {source : String} {node : Node} :
    (ofNode source node).KeepsSlots ↔ (Plan.ofNode source node).KeepsSlots := by
  simp [KeepsSlots, Plan.KeepsSlots, Function.comp_def]

/-- Parts keep their slots unless they are type assertions with several operands. -/
theorem IsPartOf.keepsSlots {part : Outline} (h : IsPartOf document part)
    (hfew : ∀ node, document.IsLowered node → node.kind = "type_assertion" →
      node.operands.length < 2) : part.KeepsSlots := by
  cases h with
  | root => exact fun _ h => by cases h
  | node h => exact keepsSlots_ofNode.mpr ((Plan.keepsSlots_ofNode _ _).mpr (hfew _ h))
  | bareParameter h => exact fun _ h => by cases h

end Outline

/-! ### The arena of a document -/

namespace SyntaxTree

variable {tree : SyntaxTree}

/-- The places of slots are free ones. -/
theorem le_of_mem_slotPlaces {next place : Nat} {slots : List (Option Outline)}
    (h : place ∈ (Outline.slotPlaces next slots).filterMap id) : next ≤ place := by
  induction slots generalizing next with
  | nil => simp [Outline.slotPlaces] at h
  | cons slot rest ih =>
    cases slot with
    | none => exact ih (by simpa [Outline.slotPlaces] using h)
    | some outline =>
      simp only [Outline.slotPlaces, List.filterMap_cons, id_eq, List.mem_cons] at h
      rcases h with rfl | h
      · exact Nat.le_refl _
      · have := ih h
        omega

/-- A type assertion keeps the last of its slots. -/
theorem children_assemble_assertion (label : String) (declared : Option TypeExpr)
    (slots : List (Option NodeId)) :
    ((Shape.assertion declared).assemble label slots).children =
      (slots.filterMap id).getLast?.toList := by
  simp only [Shape.assemble]
  cases (slots.filterMap id).getLast? <;> cases declared <;> rfl

/-- **The first of several operands** of a type assertion is not met on a walk. -/
theorem exists_not_mem_preorder (hlinked : tree.Linked) {place : Nat} {label : String}
    {span : Span} {declared : Option TypeExpr} {first second : Outline}
    {rest : List (Option Outline)} {above : Option NodeId}
    (h : HoldsFrom tree.node? place ((Outline.mk label span (.assertion declared)
      (some first :: some second :: rest)).entries above place)) :
    ∃ node < tree.size, node ∉ tree.preorder := by
  obtain ⟨node, hnode, hparent⟩ : ∃ node, tree.nodes[place + 1]? = some node ∧
      node.parent = some place := by
    cases first
    exact ⟨_, h.tail.head, rfl⟩
  refine ⟨place + 1, (Array.getElem?_eq_some_iff.mp hnode).1, fun hmem => ?_⟩
  have hchild := (IsReached.of_mem_preorder hmem).mem_children hlinked
    (show tree.parent? (place + 1) = some place by simp [parent?, hnode, hparent])
  -- the child that is kept is the last operand, which stands after the second one
  obtain ⟨last, hchildren, hle⟩ :
      ∃ last : Nat, tree.children place = [last] ∧ place + 1 + first.size ≤ last := by
    have hpresent : (Outline.slotPlaces (place + 1 + first.size) (some second :: rest)).filterMap
        id ≠ [] := by simp [Outline.slotPlaces]
    refine ⟨_, ?_, le_of_mem_slotPlaces (List.getLast_mem hpresent)⟩
    have hhead : tree.nodes[place]? = some _ := h.head
    simp only [children, construct?, hhead, Option.map_some, children_assemble_assertion]
    rw [Outline.slotPlaces, List.filterMap_cons_some (f := id) rfl,
      List.getLast?_cons_of_ne_nil hpresent, List.getLast?_eq_some_getLast hpresent]
    rfl
  have hpos := first.size_pos
  have heq : place + 1 = last := by simpa [hchildren] using hchild
  omega

/-- The nodes of the tree of a document are those of its outline. -/
theorem nodes_ofDocument (document : Document) :
    (ofDocument document).nodes =
      ((Outline.ofDocument document).entries none 0).toArray := by
  simp [ofDocument, Outline.place_eq]

theorem size_ofDocument (document : Document) :
    (ofDocument document).size = (Outline.ofDocument document).size := by
  simp [size, nodes_ofDocument]

theorem holdsFrom_ofDocument (document : Document) :
    HoldsFrom (ofDocument document).node? 0 ((Outline.ofDocument document).entries none 0) := by
  intro count node hnode
  simpa [node?, nodes_ofDocument] using hnode

/-- **The walk over the tree of a document** meets the places in their order, one by one, if and
only if no type assertion that is lowered has several operands. -/
theorem preorder_ofDocument_iff (document : Document) :
    (ofDocument document).preorder = List.range (ofDocument document).size ↔
      ∀ node, document.IsLowered node → node.kind = "type_assertion" →
        node.operands.length < 2 := by
  have hlinked := linked_ofDocument document
  constructor
  · intro hwalk node hnode hkind
    by_contra hmany
    obtain ⟨first, second, rest, hoperands⟩ :
        ∃ first second rest, node.operands = first :: second :: rest := by
      match hlist : node.operands, hmany with
      | first :: second :: rest, _ => exact ⟨first, second, rest, rfl⟩
      | [], hmany | [_], hmany => simp at hmany
    obtain ⟨place, hat⟩ := Outline.exists_isAt_of_isLowered hnode
    obtain ⟨above, hholds⟩ := hat.exists_holdsFrom (holdsFrom_ofDocument document)
    have hslots : (Plan.ofNode document.text node).slots.map (Outline.ofSlot? document.text) =
        node.operands.map fun child => some (Outline.ofNode document.text child) := by
      simp [Plan.ofNode, hkind, Plan.assertion, Plan.assertionParts_angle, Node.operands,
        Outline.ofSlot?, Function.comp_def]
    have hshape : ∃ declared, (Plan.ofNode document.text node).shape = .assertion declared := by
      simp [Plan.ofNode, hkind, Plan.assertion]
    obtain ⟨declared, hshape⟩ := hshape
    rw [Outline.ofNode_eq, hslots, hshape, hoperands] at hholds
    obtain ⟨missed, hsize, hmissed⟩ := exists_not_mem_preorder hlinked hholds
    exact hmissed (hwalk ▸ List.mem_range.mpr hsize)
  · intro hfew
    have hwalk := walk_entries
      (fun place part hat => ⟨hat.isPartOf.suits, hat.isPartOf.keepsSlots hfew⟩)
      none 0 0 [] _ .self (holdsFrom_ofDocument document)
    rw [preorder, if_neg (Nat.ne_of_gt hlinked.nonempty), size_ofDocument]
    simpa [walk, List.range_eq_range', root] using hwalk

/-- **The arena of a document** is that of a tree. The root is at place zero and has no parent, and
every other node has one before it. Children stand after their parent in ascending order and know
it, and what is in a named place of a node is one of its children. Every way up ends at the root,
and looking for more nodes above a node finds no more of them. The walk from the root meets the
places in their order, one by one, exactly if no type assertion that is lowered has several
operands. -/
theorem arena_ofDocument (document : Document) :
    let tree := ofDocument document
    (root < tree.size ∧ tree.parent? root = none) ∧
      (∀ node < tree.size, node ≠ root →
        ∃ parent < node, tree.parent? node = some parent) ∧
      (∀ node, (tree.children node).Pairwise (· < ·) ∧
        ∀ child ∈ tree.children node,
          node < child ∧ child < tree.size ∧ tree.parent? child = some node) ∧
      (∀ node field child, tree.field? node field = some child → child ∈ tree.children node) ∧
      (∀ node < tree.size, (tree.selfAndAncestors node).getLast? = some root ∧
        ∀ steps ≥ tree.size, tree.ancestorsWithin steps node = tree.ancestors node) ∧
      (tree.preorder = List.range tree.size ↔
        ∀ node, document.IsLowered node → node.kind = "type_assertion" →
          node.operands.length < 2) := by
  intro tree
  have hlinked : tree.Linked := linked_ofDocument document
  refine ⟨⟨hlinked.nonempty, hlinked.parent_root⟩, fun node hsize hne => ?_, fun node => ?_,
    fun node field child hfield => ?_, fun node hsize => ?_, preorder_ofDocument_iff document⟩
  · obtain ⟨parent, hparent⟩ := hlinked.exists_parent node hne hsize
    exact ⟨parent, hlinked.parent_lt node parent hparent, hparent⟩
  · refine ⟨hlinked.children_sorted node, fun child hchild => ?_⟩
    have hparent := hlinked.parent_of_mem_children node child hchild
    exact ⟨hlinked.parent_lt child node hparent, lt_size_of_parent?_eq_some hparent, hparent⟩
  · simp only [field?, Option.bind_eq_some_iff] at hfield
    obtain ⟨construct, hconstruct, hfield⟩ := hfield
    rw [children, hconstruct]
    exact Construct.mem_children_of_field? hfield
  · have hle := Nat.le_of_lt hsize
    exact ⟨hlinked.getLast?_ancestorsWithin node hle hsize,
      fun steps hsteps => hlinked.ancestorsWithin_eq node hle hsteps⟩

end SyntaxTree

end StreamLint
