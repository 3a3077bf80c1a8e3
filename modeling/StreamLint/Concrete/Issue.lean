import StreamLint.Concrete.Tree
/-!
# Syntax errors of a document

Every node for text that fits nowhere, and every node for a token that is not there, is an issue.
The issues of a document are found by a search with a stack of the nodes that are still to be looked
at; subtrees that say they hold none are left out.
-/

namespace StreamLint

namespace Concrete

/-- One place that could not be parsed. -/
structure Issue where
  /-- First byte of the place. -/
  startByte : Nat
  /-- First byte past the place. -/
  endByte : Nat
  /-- Line of its start, from one. -/
  line : Nat
  /-- Column of its start, from one. -/
  column : Nat
  /-- The text there, cut short when it is long. -/
  context : String
  /-- What is wrong. -/
  message : String
  deriving DecidableEq, Repr, Inhabited

/-- The longest context, in characters. -/
def contextLimit : Nat := 48

/-- A text of at most `contextLimit` characters as it is, and of a longer one the beginning with
three dots. -/
def excerpt (text : String) : String :=
  let chars := text.toList
  if contextLimit < chars.length then String.ofList (chars.take (contextLimit - 3)) ++ "..."
  else text

/-- Whether a node is an issue. -/
def Node.isIssue (node : Node) : Bool :=
  node.mark.isError || node.mark.isMissing

/-- The issue that a node stands for in a text. -/
def Issue.ofNode (text : String) (node : Node) : Issue :=
  let (line, column) := node.span.start.fromOne
  { startByte := node.span.startByte
    endByte := node.span.endByte
    line, column
    context := excerpt (node.text text)
    message := if node.mark.isMissing then s!"missing {node.kind}" else "syntax error" }

/-- The size of two lists of nodes together. -/
theorem sizeOf_append (first second : List Node) :
    sizeOf (first ++ second) + 1 = sizeOf first + sizeOf second := by
  induction first with
  | nil =>
    rw [List.nil_append, List.nil.sizeOf_spec]
    omega
  | cons node rest ih =>
    rw [List.cons_append, List.cons.sizeOf_spec, List.cons.sizeOf_spec]
    omega

/-- A stack gets smaller when the node on top gives place to its children. -/
theorem sizeOf_children_append_lt (node : Node) (stack : List Node) :
    sizeOf (node.children ++ stack) < sizeOf (node :: stack) := by
  have happend := sizeOf_append node.children stack
  cases node with
  | mk mark children =>
    rw [List.cons.sizeOf_spec, Node.mk.sizeOf_spec]
    simp only [Node.children] at happend ⊢
    omega

/-- The issues among the nodes of a stack and the nodes below them. The node on top is looked at,
and then its children take its place, unless it says that there is nothing to be found in it. -/
def issuesOnStack : List Node → List Node
  | [] => []
  | node :: stack =>
    (if node.isIssue then [node] else [])
      ++ issuesOnStack ((if node.mark.hasError then node.children else []) ++ stack)
  termination_by stack => sizeOf stack
  decreasing_by
    split
    · exact sizeOf_children_append_lt node stack
    · rw [List.nil_append, List.cons.sizeOf_spec]
      omega

/-- The issues of a document, in the order of the text. -/
def Document.issues (document : Document) : List Issue :=
  (issuesOnStack [document.root]).map (Issue.ofNode document.text)

/-- Whether the document has any issue. -/
def Document.hasIssues (document : Document) : Bool :=
  document.root.mark.hasError

end Concrete

end StreamLint
