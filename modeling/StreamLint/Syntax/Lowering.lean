import StreamLint.Concrete.Issue
import StreamLint.Syntax.Plan
/-!
# From concrete trees to syntax trees

A document becomes a syntax tree in two steps. First the plans of all nodes that are reached from
the root make up an *outline*, a tree of shapes: `StreamLint.Outline.ofNode`. Then the nodes of the
outline are given their places, `StreamLint.Outline.place`: a node gets the next free place, and
after it the nodes in its slots, one slot after the other. So parents stand before their children,
and all nodes in the order of a walk from the root. The loop that comes to the same nodes with a
stack of its own is `StreamLint.Lowerer.lower`.

The parameter made up for an arrow function without parentheses covers the same text as the name in
it.
-/

namespace StreamLint

open Concrete (Node Document)

/-- The nodes that a syntax tree is to have, before they have places. -/
inductive Outline where
  /-- A node: the grammar's name for it, its text, its shape and its slots. -/
  | mk (label : String) (span : Span) (shape : Shape) (slots : List (Option Outline))
  deriving Repr, Inhabited

namespace Outline

/-- The outline of a node: its plan, and the outlines of the nodes that fill its slots. -/
def ofNode (source : String) (node : Node) : Outline :=
  let plan := Plan.ofNode source node
  .mk node.kind node.span plan.shape
    (plan.slots.attach.map fun ⟨slot, _⟩ =>
      match slot with
      | .absent => none
      | .filled child => some (ofNode source child)
      | .bareParameter name =>
        some (.mk "required_parameter" name.span (.parameter none false)
          [some (ofNode source name)]))
  termination_by sizeOf node
  decreasing_by
    all_goals exact Plan.inward_ofNode source node _ (by assumption) _ rfl

/-- The outline of the parameter made up around a name. -/
def bareParameter (source : String) (name : Node) : Outline :=
  .mk "required_parameter" name.span (.parameter none false) [some (ofNode source name)]

/-- The outline of what is to fill a slot. -/
def ofSlot? (source : String) : Slot → Option Outline
  | .absent => none
  | .filled node => some (ofNode source node)
  | .bareParameter name => some (bareParameter source name)

/-- The outline of a node, from its plan. -/
theorem ofNode_eq (source : String) (node : Node) :
    ofNode source node =
      .mk node.kind node.span (Plan.ofNode source node).shape
        ((Plan.ofNode source node).slots.map (ofSlot? source)) := by
  rw [ofNode, List.map_subtype (g := ofSlot? source), List.unattach_attach]
  intro slot hslot
  cases slot <;> rfl

/-- The outline of a document, whose root is a program whatever the grammar calls it. -/
def ofDocument (document : Document) : Outline :=
  let root := document.root
  .mk root.kind root.span .program
    (root.namedParts.map fun child => some (ofNode document.text child))

mutual

/-- Places the nodes of an outline after those that have places already, the root first. -/
def place (parent : Option NodeId) (nodes : Array SyntaxNode) : Outline → Array SyntaxNode
  | .mk label span shape slots =>
    let id := nodes.size
    let (nodes, ids) := placeSlots id (nodes.push ⟨.other label [], span, parent⟩) slots
    nodes.setIfInBounds id ⟨shape.assemble label ids, span, parent⟩

/-- Places the nodes in the slots of a node, and says where the node of each slot has been put. -/
def placeSlots (parent : NodeId) (nodes : Array SyntaxNode) :
    List (Option Outline) → Array SyntaxNode × List (Option NodeId)
  | [] => (nodes, [])
  | none :: rest =>
    let (nodes, ids) := placeSlots parent nodes rest
    (nodes, none :: ids)
  | some outline :: rest =>
    let id := nodes.size
    let (nodes, ids) := placeSlots parent (place (some parent) nodes outline) rest
    (nodes, some id :: ids)

end

end Outline

namespace Concrete

mutual

/-- The comments of a tree, in the order of the text. -/
def Node.commentNodes : Node → List Node
  | .mk mark children =>
    (if (Node.mk mark children).isComment then [.mk mark children] else [])
      ++ commentNodesOfList children

/-- The comments of several trees. -/
def commentNodesOfList : List Node → List Node
  | [] => []
  | node :: rest => node.commentNodes ++ commentNodesOfList rest

end

end Concrete

/-- The comments of a document. -/
def Concrete.Document.comments (document : Document) : List Comment :=
  document.root.commentNodes.map fun node => ⟨node.text document.text, node.span⟩

/-- The syntax tree of a document. -/
def SyntaxTree.ofDocument (document : Document) : SyntaxTree :=
  { nodes := (Outline.ofDocument document).place none #[]
    comments := document.comments
    source := document.text
    dialect := document.dialect
    hasErrors := document.hasIssues }

end StreamLint
