import StreamLint.Text.Span
import StreamLint.Dialect
/-!
# Concrete trees

What a parser of TypeScript makes of a text: a tree with a node for every construct and every token,
named by the grammar. A node that stands in a named place of its parent knows the name of that
place, its *field*. Parsers go on after errors, so a tree may hold nodes for text that fits nowhere
and for tokens that are not there.

A tree is handed over as the list of its nodes in pre-order, each with its depth:
`StreamLint.Concrete.forest` builds the trees of such a list, and `StreamLint.Concrete.Node.rows`
writes one down.
-/

namespace StreamLint

namespace Concrete

/-- What is known about a node apart from its children. -/
structure Mark where
  /-- The grammar's name of the construct, or the text of a token. -/
  kind : String
  /-- Whether the grammar names the node; tokens such as brackets have no name. -/
  isNamed : Bool
  /-- Whether the text of the node fits nowhere. -/
  isError : Bool
  /-- Whether the node stands for a token that is not in the text. -/
  isMissing : Bool
  /-- Whether the node, or a node below it, is one of those two. -/
  hasError : Bool
  /-- The text covered. -/
  span : Span
  /-- The place of the node in its parent, if it has a name. -/
  field : Option String
  deriving DecidableEq, Repr, Inhabited

/-- A concrete tree. -/
inductive Node where
  /-- A node above its children. -/
  | mk (mark : Mark) (children : List Node)
  deriving Repr, Inhabited

namespace Node

/-- What is known about the root. -/
def mark : Node → Mark
  | mk mark _ => mark

/-- The children of the root, in the order of the text. -/
def children : Node → List Node
  | mk _ children => children

/-- The grammar's name of the root. -/
def kind (node : Node) : String :=
  node.mark.kind

/-- The text covered by the root. -/
def span (node : Node) : Span :=
  node.mark.span

/-- Whether the node is a comment; comments may stand anywhere in a tree. -/
def isComment (node : Node) : Bool :=
  node.kind == "comment"

/-- The named children other than comments. -/
def namedParts (node : Node) : List Node :=
  node.children.filter fun child => child.mark.isNamed && !child.isComment

/-- The first child in the place called `name`. -/
def field? (node : Node) (name : String) : Option Node :=
  node.children.find? fun child => child.mark.field == some name

/-- The part of `text` that the node covers. -/
def text (node : Node) (text : String) : String :=
  slice text node.span.startByte node.span.endByte

/-- A child is smaller than its parent. -/
theorem sizeOf_lt_of_mem_children {child node : Node} (h : child ∈ node.children) :
    sizeOf child < sizeOf node := by
  cases node with
  | mk mark children =>
    have := List.sizeOf_lt_of_mem (show child ∈ children from h)
    simp only [mk.sizeOf_spec]
    omega

/-- Named children are children. -/
theorem mem_children_of_mem_namedParts {child node : Node} (h : child ∈ node.namedParts) :
    child ∈ node.children :=
  (List.mem_filter.1 h).1

/-- The node in a named place is a child. -/
theorem mem_children_of_field? {child node : Node} {name : String}
    (h : node.field? name = some child) : child ∈ node.children :=
  List.mem_of_find?_eq_some h

/-- A named child is smaller than its parent. -/
theorem sizeOf_lt_of_mem_namedParts {child node : Node} (h : child ∈ node.namedParts) :
    sizeOf child < sizeOf node :=
  sizeOf_lt_of_mem_children (mem_children_of_mem_namedParts h)

/-- The node in a named place is smaller than its parent. -/
theorem sizeOf_lt_of_field? {child node : Node} {name : String}
    (h : node.field? name = some child) : sizeOf child < sizeOf node :=
  sizeOf_lt_of_mem_children (mem_children_of_field? h)

end Node

/-! ### Trees of one line -/

/-- A named node of a text without line breaks. The text of the node is no issue. -/
def Node.named (kind : String) (start stop : Nat) (field : Option String) (children : List Node) :
    Node :=
  .mk ⟨kind, true, false, false, false, ⟨start, stop, ⟨0, start⟩, ⟨0, stop⟩⟩, field⟩ children

/-- A token of a text without line breaks, in no named place. -/
def Node.token (kind : String) (start stop : Nat) : Node :=
  .mk ⟨kind, false, false, false, false, ⟨start, stop, ⟨0, start⟩, ⟨0, stop⟩⟩, none⟩ []

/-- A statement of a text without line breaks that reads a property of a name of one letter. -/
def Node.propertyRead (start stop : Nat) : Node :=
  .named "expression_statement" start (stop + 1) none
    [.named "member_expression" start stop none
      [.named "identifier" start (start + 1) (some "object") [],
        .named "property_identifier" (start + 2) stop (some "property") []]]

/-! ### Trees as lists -/

/-- A node in a list of nodes: its depth, and what is known about it. -/
structure Row where
  /-- Edges between the node and its root. -/
  depth : Nat
  /-- What is known about the node. -/
  mark : Mark
  deriving DecidableEq, Repr, Inhabited

/-- The trees that a list of nodes in pre-order stands for, each with the depth of its root. A node
takes as its children the trees right after it that are deeper. -/
def forest (rows : List Row) : List (Nat × Node) :=
  rows.foldr
    (fun row trees =>
      (row.depth, .mk row.mark ((trees.takeWhile (row.depth < ·.1)).map (·.2)))
        :: trees.dropWhile (row.depth < ·.1))
    []

mutual

/-- The nodes of a tree in pre-order, its root at depth `depth`. -/
def Node.rows (depth : Nat) : Node → List Row
  | .mk mark children => ⟨depth, mark⟩ :: rowsOfList (depth + 1) children

/-- The nodes of several trees in pre-order, their roots at depth `depth`. -/
def rowsOfList (depth : Nat) : List Node → List Row
  | [] => []
  | node :: rest => node.rows depth ++ rowsOfList depth rest

end

/-- A text in a dialect with its concrete tree. -/
structure Document where
  /-- The text. -/
  text : String
  /-- The dialect it was read as. -/
  dialect : Dialect
  /-- The concrete tree. -/
  root : Node
  deriving Repr, Inhabited

end Concrete

end StreamLint
