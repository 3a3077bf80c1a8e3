import StreamLint.Proofs.Syntax.Lowered
import StreamLint.Syntax.Frames
/-!
# The loop with the stack does what the recursion does

Lowering is told by a recursion, and done by a loop that keeps a stack of frames. What the recursion
makes of the frames that are left is the *outcome* of a state of the loop
(`StreamLint.Lowerer.outcome`): the slots of the frame on top are filled, its node is completed, and
then the same is done with the frame below. No turn of the loop changes the outcome
(`StreamLint.Lowerer.outcome_of_turn`), and there are finitely many turns. So the loop comes to the
outcome of its first state, the nodes of the syntax tree (`StreamLint.Lowerer.lower_eq`).

Where a turn only gives a node its place, the recursion places all that is below it. The two agree
because a node is not touched between the turn that gives it its place and the one that completes
it; and the node that a property has become by then is an identifier just if the grammar calls the
property a name (`StreamLint.Outline.isIdentifierAt_place`).
-/

namespace StreamLint

open Concrete (Node Document)

/-! ### Member expressions -/

/-- A construct is a member expression only if its shape is that of one. -/
theorem Shape.isMember_of_assemble {label : String} {shape : Shape} {ids : List (Option NodeId)}
    {object property : NodeId} (h : shape.assemble label ids = .memberExpression object property) :
    Plan.isMember shape = true := by
  unfold assemble at h
  simp only at h
  split at h <;> first
    | rfl
    | cases h
    | (split at h <;> cases h)

/-- A node that is no member expression gets what its shape and its slots make. -/
theorem Frame.construct_eq {nodes : Array SyntaxNode} {frame : Frame}
    (h : Plan.isMember frame.shape = false) :
    frame.construct nodes = frame.shape.assemble frame.label frame.lowered := by
  unfold construct
  split
  next hmember => exact absurd (h.symm.trans (Shape.isMember_of_assemble hmember)) nofun
  next => rfl

/-! ### Placing by steps -/

/-- Changing what stands at a place. -/
theorem modify_eq_setIfInBounds {nodes : Array SyntaxNode} {place : Nat} {node : SyntaxNode}
    {change : SyntaxNode → SyntaxNode} (h : nodes[place]? = some node) :
    nodes.modify place change = nodes.setIfInBounds place (change node) := by
  refine Array.ext_getElem? fun id => ?_
  rw [Array.getElem?_modify, Array.getElem?_setIfInBounds]
  split
  next heq =>
    obtain rfl := heq
    have hlt := (Array.getElem?_eq_some_iff.mp h).1
    rw [if_pos hlt, h]
    rfl
  next => rfl

namespace Outline

variable {source : String}

/-- **What a node becomes is an identifier** just if the grammar calls the node a name. -/
theorem isIdentifierAt_place (parent : Option NodeId) (nodes : Array SyntaxNode) (node : Node) :
    isIdentifierAt (place parent nodes (ofNode source node)) nodes.size =
      Plan.isName node.kind := by
  have hroot : (place parent nodes (ofNode source node))[nodes.size]? =
      some ⟨(Plan.ofNode source node).shape.assemble node.kind
        (slotPlaces (nodes.size + 1) ((Plan.ofNode source node).slots.map (ofSlot? source))),
        node.span, parent⟩ := by
    rw [place_eq, ofNode_eq, entries]
    simp
  have hname := (Plan.fits_ofNode source node).name?_eq
  rw [isIdentifierAt, hroot]
  cases hisName : Plan.isName node.kind with
  | true =>
    rw [hisName, if_pos rfl] at hname
    cases hshape : (Plan.ofNode source node).shape with
    | identifier name => rfl
    | _ => simp [hshape, Plan.name?] at hname
  | false =>
    rw [hisName, if_neg nofun] at hname
    split
    next hsome =>
      simp only [Option.some.injEq, SyntaxNode.mk.injEq] at hsome
      exact absurd ((Shape.name?_of_assemble hsome.1).symm.trans hname) nofun
    next => rfl

/-- Looking at a property when it has been lowered tells whether the grammar calls it a name. -/
theorem construct_beforehand {parent : Nat} {nodes placed : Array SyntaxNode} {node : Node}
    {ids : List (Option NodeId)}
    (h : placeSlots parent nodes ((Plan.ofNode source node).slots.map (ofSlot? source)) =
      (placed, ids)) :
    Frame.construct placed ⟨parent, node.kind, (Plan.beforehand source node).shape, [], ids⟩ =
      (Plan.ofNode source node).shape.assemble node.kind ids := by
  by_cases hkind : node.kind = "member_expression"
  · obtain ⟨isNamed, hnamed, hplan⟩ := Plan.exists_ofNode_member source hkind
    have hbeforehand : Plan.beforehand source node =
        Plan.pair node "object" "property" .member := if_pos (beq_iff_eq.mpr hkind)
    rw [hplan] at h
    rw [hbeforehand, hplan]
    cases hobject : node.field? "object" with
    | none =>
      simp only [Plan.pair, hobject]
      rfl
    | some object =>
      cases hproperty : node.field? "property" with
      | none =>
        simp only [Plan.pair, hobject, hproperty]
        rfl
      | some property =>
        simp only [Plan.pair, hobject, hproperty, List.map_cons, List.map_nil, ofSlot?, placeSlots,
          Prod.mk.injEq] at h
        obtain ⟨rfl, rfl⟩ := h
        have hidentifier : isIdentifierAt (place (some parent)
            (place (some parent) nodes (ofNode source object)) (ofNode source property))
            (place (some parent) nodes (ofNode source object)).size = isNamed := by
          rw [isIdentifierAt_place, hnamed property hproperty]
        simp only [Plan.pair, hobject, hproperty, Frame.construct, Shape.assemble, hidentifier]
        cases isNamed <;> rfl
  · have hbeforehand : Plan.beforehand source node = Plan.ofNode source node :=
      if_neg (by simpa using hkind)
    rw [hbeforehand]
    exact Frame.construct_eq (Bool.eq_false_iff.mpr fun hmember =>
      hkind ((Plan.fits_ofNode source node).kind_of_isMember hmember))

/-- A node that is placed is not touched until it is completed. -/
theorem place_eq_modify (parent : Option NodeId) (nodes : Array SyntaxNode) (label : String)
    (span : Span) (shape : Shape) (slots : List (Option Outline)) :
    let placed := placeSlots nodes.size (nodes.push ⟨.other label [], span, parent⟩) slots
    place parent nodes (.mk label span shape slots) =
      placed.1.modify nodes.size fun node =>
        { node with construct := shape.assemble label placed.2 } := by
  intro placed
  have hgrown : Extends (nodes.push ⟨.other label [], span, parent⟩) placed.1 :=
    (placing_placeSlots nodes.size _ (by simp) slots).grown
  have hnode : placed.1[nodes.size]? = some ⟨.other label [], span, parent⟩ :=
    hgrown nodes.size _ (by simp)
  rw [place, modify_eq_setIfInBounds hnode]

end Outline

/-! ### The loop -/

namespace Lowerer

open Outline (placeSlots place ofSlot? ofNode)

variable {source : String}

theorem length_fill (place : NodeId) (stack : List Frame) :
    (fill place stack).length = stack.length := by
  cases stack <;> rfl

/-- **The outcome of a state**, as the recursion makes it of the frames that are left. -/
def outcome (source : String) : Lowerer → Array SyntaxNode
  | ⟨nodes, []⟩ => nodes
  | ⟨nodes, frame :: stack⟩ =>
    let placed := placeSlots frame.place nodes (frame.pending.map (ofSlot? source))
    let done : Frame := { frame with pending := [], lowered := frame.lowered ++ placed.2 }
    outcome source (leave placed.1 done stack)
  termination_by lowerer => lowerer.stack.length
  decreasing_by
    simp only [leave, length_fill, List.length_cons]
    omega

/-- Filling a slot of the frame on top with an outline, before the loop or in it. -/
theorem outcome_fill (nodes : Array SyntaxNode) (frame : Frame) (stack : List Frame)
    {slot : Slot} {pending : List Slot} {outline : Outline}
    (hpending : frame.pending = slot :: pending) (hslot : ofSlot? source slot = some outline) :
    outcome source ⟨place (some frame.place) nodes outline,
        fill nodes.size ({ frame with pending } :: stack)⟩ =
      outcome source ⟨nodes, frame :: stack⟩ := by
  rw [fill, outcome, outcome, hpending, List.map_cons, hslot, placeSlots]
  simp only [List.append_assoc, List.singleton_append]

/-- **Entering a node** comes to placing its outline. -/
theorem outcome_enter (lowerer : Lowerer) (label : String) (span : Span) (plan : Plan)
    (shape : Shape)
    (h : ∀ nodes placed ids,
      placeSlots lowerer.nodes.size nodes (plan.slots.map (ofSlot? source)) = (placed, ids) →
      Frame.construct placed ⟨lowerer.nodes.size, label, plan.shape, [], ids⟩ =
        shape.assemble label ids) :
    outcome source (lowerer.enter label span plan) =
      outcome source ⟨place (lowerer.stack.head?.map (·.place)) lowerer.nodes
        (.mk label span shape (plan.slots.map (ofSlot? source))),
        fill lowerer.nodes.size lowerer.stack⟩ := by
  rw [enter, outcome, Outline.place_eq_modify]
  simp only [leave, List.nil_append, h _ _ _ rfl]

/-- **No turn changes the outcome.** -/
theorem outcome_of_turn {lowerer next : Lowerer} (h : lowerer.turn source = some next) :
    next.outcome source = lowerer.outcome source := by
  obtain ⟨nodes, _ | ⟨⟨place, label, shape, pending, lowered⟩, stack⟩⟩ := lowerer
  · exact absurd h nofun
  cases pending with
  | nil =>
    obtain rfl := Option.some.inj h
    conv_rhs => rw [outcome]
    simp only [List.map_nil, placeSlots, List.append_nil]
  | cons slot pending =>
    cases slot with
    | absent =>
      obtain rfl := Option.some.inj h
      rw [outcome, outcome]
      simp only [List.map_cons, ofSlot?, placeSlots, List.append_assoc, List.singleton_append]
    | filled child =>
      obtain rfl := Option.some.inj h
      rw [outcome_enter _ _ _ _ (Plan.ofNode source child).shape, Plan.slots_beforehand,
        ← Outline.ofNode_eq]
      · exact outcome_fill nodes ⟨place, label, shape, .filled child :: pending, lowered⟩ stack
          rfl rfl
      · intro nodes placed ids hplaced
        rw [Plan.slots_beforehand] at hplaced
        exact Outline.construct_beforehand hplaced
    | bareParameter name =>
      obtain rfl := Option.some.inj h
      rw [outcome_enter _ _ _ _ (.parameter none false)]
      · exact outcome_fill nodes ⟨place, label, shape, .bareParameter name :: pending, lowered⟩
          stack rfl rfl
      · exact fun _ _ _ _ => Frame.construct_eq rfl

/-- **The loop comes to the outcome** of the state it begins with. -/
theorem run_eq_outcome (lowerer : Lowerer) : lowerer.run source = lowerer.outcome source := by
  fun_induction run source lowerer with
  | case1 lowerer h =>
    obtain ⟨nodes, _ | ⟨frame, stack⟩⟩ := lowerer
    · rw [outcome]
    · rw [turn] at h
      split at h <;> simp at h
  | case2 lowerer next h ih => rw [ih, outcome_of_turn h]

/-- **Lowering a document with a stack** gives the nodes of its syntax tree. -/
theorem lower_eq (document : Document) :
    lower document = (SyntaxTree.ofDocument document).nodes := by
  rw [lower, run_eq_outcome, outcome_enter _ _ _ _ .program]
  · rw [fill, outcome, SyntaxTree.ofDocument, Outline.ofDocument, Slot.ofAll, List.map_map]
    rfl
  · exact fun _ _ _ _ => Frame.construct_eq rfl

end Lowerer

end StreamLint
