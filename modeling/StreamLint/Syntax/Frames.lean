import StreamLint.Syntax.Lowering
/-!
# Lowering with a stack

However deep a document is nested, its nodes are lowered by a loop that keeps a stack of *frames*
(`StreamLint.Frame`): the nodes whose slots are still being filled, the innermost first. A turn of
the loop (`StreamLint.Lowerer.turn`) looks at what is to fill the next slot of the frame on top.

* A node gets the next place, as one of no particular kind, and a frame on top of the others.
* If there is no slot left, the frame is taken off. The node gets the construct that its shape and
  the places in its slots make, and its own place goes into a slot of the frame below.

Whether the property of a member expression is a name is only asked when its frame is taken off, of
the node that has been made of the property by then (`StreamLint.Frame.construct`). So the plan of a
member expression is the same for any property (`StreamLint.Plan.beforehand`).

The loop takes two turns for every node and one for every empty slot, and comes to an end
(`StreamLint.Lowerer.left_of_turn`).
-/

namespace StreamLint

open Concrete (Node Document)

/-- The plan of a node before anything is known of the nodes in its slots. -/
def Plan.beforehand (source : String) (node : Node) : Plan :=
  if node.kind == "member_expression" then pair node "object" "property" .member
  else ofNode source node

/-- The plan of a member expression: one of no particular kind unless its property is a name. -/
theorem Plan.exists_ofNode_member (source : String) {node : Node}
    (hkind : node.kind = "member_expression") :
    ∃ isNamed,
      (∀ property, node.field? "property" = some property → isNamed = isName property.kind) ∧
      ofNode source node =
        pair node "object" "property" (if isNamed then .member else .other) := by
  simp only [ofNode, hkind]
  cases node.field? "property" with
  | none => exact ⟨false, by simp, rfl⟩
  | some property => exact ⟨isName property.kind, fun _ h => Option.some.inj h ▸ rfl, rfl⟩

/-- The slots of a plan do not depend on what comes of the nodes in them. -/
theorem Plan.slots_beforehand (source : String) (node : Node) :
    (beforehand source node).slots = (ofNode source node).slots := by
  rw [beforehand]
  split
  next hkind =>
    obtain ⟨isNamed, -, hplan⟩ := exists_ofNode_member source (beq_iff_eq.mp hkind)
    rw [hplan, pair, pair]
    split <;> rfl
  next => rfl

/-- A node whose slots are being filled. -/
structure Frame where
  /-- The place of the node. -/
  place : NodeId
  /-- The grammar's name for it. -/
  label : String
  /-- Its shape. -/
  shape : Shape
  /-- What is still to fill slots. -/
  pending : List Slot
  /-- The places in the slots before those. -/
  lowered : List (Option NodeId)

/-- Whether the node at a place is an identifier. -/
def isIdentifierAt (nodes : Array SyntaxNode) (place : NodeId) : Bool :=
  match nodes[place]? with
  | some ⟨.identifier _, _, _⟩ => true
  | _ => false

/-- The construct of a node once its slots are filled. The property of a member expression has to be
an identifier. -/
def Frame.construct (nodes : Array SyntaxNode) (frame : Frame) : Construct :=
  match frame.shape.assemble frame.label frame.lowered with
  | .memberExpression object property =>
    if isIdentifierAt nodes property then .memberExpression object property
    else .other frame.label [object, property]
  | construct => construct

/-- The nodes that have places so far, and the frames of those that are not complete, the innermost
first. -/
structure Lowerer where
  /-- The nodes. -/
  nodes : Array SyntaxNode
  /-- The frames. -/
  stack : List Frame

namespace Lowerer

/-- A node gets the next place, below the node of the frame on top, and a frame of its own. -/
def enter (lowerer : Lowerer) (label : String) (span : Span) (plan : Plan) : Lowerer where
  nodes := lowerer.nodes.push ⟨.other label [], span, lowerer.stack.head?.map (·.place)⟩
  stack := ⟨lowerer.nodes.size, label, plan.shape, plan.slots, []⟩ :: lowerer.stack

/-- A slot of the frame on top is filled with the node at a place. -/
def fill (place : NodeId) : List Frame → List Frame
  | [] => []
  | frame :: stack => { frame with lowered := frame.lowered ++ [some place] } :: stack

/-- The node of a frame that has been taken off gets its construct, and fills a slot of the frame
below. -/
def leave (nodes : Array SyntaxNode) (frame : Frame) (stack : List Frame) : Lowerer where
  nodes := nodes.modify frame.place fun node => { node with construct := frame.construct nodes }
  stack := fill frame.place stack

/-- One turn of the loop, if there is a frame. -/
def turn (source : String) : Lowerer → Option Lowerer
  | ⟨_, []⟩ => none
  | ⟨nodes, frame :: stack⟩ =>
    match frame.pending with
    | [] => some (leave nodes frame stack)
    | .absent :: pending =>
      some ⟨nodes, { frame with pending, lowered := frame.lowered ++ [none] } :: stack⟩
    | .filled child :: pending =>
      some (enter ⟨nodes, { frame with pending } :: stack⟩ child.kind child.span
        (Plan.beforehand source child))
    | .bareParameter name :: pending =>
      some (enter ⟨nodes, { frame with pending } :: stack⟩ "required_parameter" name.span
        ⟨.parameter none false, [.filled name]⟩)

end Lowerer

/-! ### The loop comes to an end -/

namespace Outline

mutual

/-- The turns that the nodes of an outline take. -/
def turns : Outline → Nat
  | .mk _ _ _ slots => slotsTurns slots + 2

/-- The turns that several slots take. -/
def slotsTurns : List (Option Outline) → Nat
  | [] => 0
  | none :: rest => slotsTurns rest + 1
  | some outline :: rest => turns outline + slotsTurns rest

end

end Outline

namespace Lowerer

/-- The turns that a frame still takes. -/
def frameTurns (source : String) (frame : Frame) : Nat :=
  Outline.slotsTurns (frame.pending.map (Outline.ofSlot? source)) + 1

/-- The turns that the frames of a stack still take. -/
def stackTurns (source : String) : List Frame → Nat
  | [] => 0
  | frame :: stack => frameTurns source frame + stackTurns source stack

/-- The turns that are left. -/
def left (source : String) (lowerer : Lowerer) : Nat :=
  stackTurns source lowerer.stack

/-- What is in the slots of a frame does not change the turns that it takes. -/
theorem stackTurns_fill (source : String) (place : NodeId) (stack : List Frame) :
    stackTurns source (fill place stack) = stackTurns source stack := by
  cases stack <;> rfl

/-- **Every turn is one less.** -/
theorem left_of_turn {source : String} {lowerer next : Lowerer}
    (h : lowerer.turn source = some next) : next.left source + 1 = lowerer.left source := by
  obtain ⟨nodes, _ | ⟨⟨place, label, shape, pending, lowered⟩, stack⟩⟩ := lowerer
  · exact absurd h nofun
  cases pending with
  | nil =>
    obtain rfl := Option.some.inj h
    simp only [left, leave, stackTurns, stackTurns_fill, frameTurns, List.map_nil,
      Outline.slotsTurns]
    omega
  | cons slot pending =>
    cases slot with
    | absent =>
      obtain rfl := Option.some.inj h
      simp only [left, stackTurns, frameTurns, List.map_cons, Outline.ofSlot?, Outline.slotsTurns]
      omega
    | filled child =>
      obtain rfl := Option.some.inj h
      simp only [left, stackTurns, frameTurns, enter, Plan.slots_beforehand, List.map_cons,
        Outline.ofSlot?, Outline.ofNode_eq, Outline.slotsTurns, Outline.turns]
      omega
    | bareParameter name =>
      obtain rfl := Option.some.inj h
      simp only [left, stackTurns, frameTurns, enter, List.map_cons, List.map_nil,
        Outline.ofSlot?, Outline.bareParameter, Outline.slotsTurns, Outline.turns]
      omega

/-- The nodes that there are when no frame is left. -/
def run (source : String) (lowerer : Lowerer) : Array SyntaxNode :=
  match _ : lowerer.turn source with
  | none => lowerer.nodes
  | some next => run source next
  termination_by lowerer.left source
  decreasing_by
    have hleft := left_of_turn (by assumption)
    omega

/-- The nodes of a document, whose root is a program whatever the grammar calls it. -/
def lower (document : Document) : Array SyntaxNode :=
  run document.text (enter ⟨#[], []⟩ document.root.kind document.root.span
    ⟨.program, Slot.ofAll document.root⟩)

end Lowerer

end StreamLint
