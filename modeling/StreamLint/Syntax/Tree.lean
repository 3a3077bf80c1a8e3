import StreamLint.Syntax.Kind
import StreamLint.Syntax.TypeExpr
import StreamLint.Text.Span
import StreamLint.Dialect
/-!
# Syntax trees

The nodes of a file that the analysis works on lie in one array, and a `StreamLint.NodeId` is a
place in it; the root is at place zero. A node knows its parent, and its construct names its
children, so both directions are one look-up away.

* `StreamLint.Construct` – what a node is, with its children and its written types;
* `StreamLint.SyntaxTree` – the nodes of a file, its comments and its text;
* `StreamLint.SyntaxTree.preorder`, `StreamLint.SyntaxTree.postorder` – the nodes in the two orders
  of a walk, by means of a stack of nodes still to be visited.

A walk takes at most one step for every node (two in post-order, down and up), and stops there even
if the array were no tree.
-/

namespace StreamLint

/-- The place of a node in the array of a tree. -/
abbrev NodeId := Nat

/-- What a node is. -/
inductive Construct where
  /-- The root of a file. -/
  | program (body : List NodeId)
  /-- An expression evaluated for its effect. -/
  | expressionStatement (expression : NodeId)
  /-- Statements between braces. -/
  | blockStatement (body : List NodeId)
  /-- `return` with an optional value. -/
  | returnStatement (argument : Option NodeId)
  /-- A `const`, `let` or `var` declaration. -/
  | variableDeclaration (declarators : List NodeId)
  /-- One binding, with its name or pattern. -/
  | variableDeclarator (name : NodeId) (declared : Option TypeExpr) (init : Option NodeId)
  /-- A named function declaration or signature. -/
  | functionDeclaration (name : Option NodeId) (typeParameters : List TypeParameter)
      (params : List NodeId) (returnType : Option TypeExpr) (body : Option NodeId)
  /-- An arrow function or function expression. -/
  | functionExpression (params : List NodeId) (returnType : Option TypeExpr)
      (body : Option NodeId)
  /-- A formal parameter, with its name or pattern and its default value. -/
  | parameter (name : NodeId) (declared : Option TypeExpr) (default : Option NodeId)
      (isProperty : Bool)
  /-- A class declaration or class expression. -/
  | classDeclaration (name : Option NodeId) (typeParameters : List TypeParameter)
      (base : Option TypeExpr) (interfaces : List TypeExpr) (members : List NodeId)
  /-- A class field or interface property. -/
  | propertyDefinition (name : NodeId) (declared : Option TypeExpr) (value : Option NodeId)
  /-- A class method, constructor or method signature. -/
  | methodDefinition (name : NodeId) (params : List NodeId) (returnType : Option TypeExpr)
      (body : Option NodeId)
  /-- An interface declaration. -/
  | interfaceDeclaration (name : NodeId) (typeParameters : List TypeParameter)
      (bases : List TypeExpr) (members : List NodeId)
  /-- A type alias declaration. -/
  | typeAliasDeclaration (name : NodeId) (typeParameters : List TypeParameter) (value : TypeExpr)
  /-- A call. -/
  | callExpression (callee : NodeId) (arguments : List NodeId)
  /-- A `new` expression. -/
  | newExpression (callee : NodeId) (typeArguments : List TypeExpr) (arguments : List NodeId)
  /-- A property access with a dot. -/
  | memberExpression (object property : NodeId)
  /-- A property access with brackets. -/
  | indexExpression (object index : NodeId)
  /-- A name. -/
  | identifier (name : String)
  /-- `this`. -/
  | thisExpression
  /-- A literal value. -/
  | literal (kind : LiteralKind)
  /-- An array literal. -/
  | arrayExpression (elements : List NodeId)
  /-- An object literal. -/
  | objectExpression (properties : List NodeId)
  /-- A type assertion. -/
  | typeAssertion (expression : NodeId) (declared : TypeExpr)
  /-- `await` applied to an expression. -/
  | awaitExpression (argument : NodeId)
  /-- An expression in parentheses, or one with `satisfies`. -/
  | parenthesizedExpression (expression : NodeId)
  /-- An assertion that an expression is not null. -/
  | nonNullExpression (expression : NodeId)
  /-- An assignment. -/
  | assignmentExpression (left right : NodeId)
  /-- A spread element. -/
  | spreadElement (argument : NodeId)
  /-- Any other construct, with the grammar's name for it. -/
  | other (label : String) (children : List NodeId)
  deriving Repr, Inhabited

namespace Construct

/-- The kind of a construct. -/
def kind : Construct → SyntaxKind
  | program .. => .program
  | expressionStatement .. => .expressionStatement
  | blockStatement .. => .blockStatement
  | returnStatement .. => .returnStatement
  | variableDeclaration .. => .variableDeclaration
  | variableDeclarator .. => .variableDeclarator
  | functionDeclaration .. => .functionDeclaration
  | functionExpression .. => .functionExpression
  | parameter .. => .parameter
  | classDeclaration .. => .classDeclaration
  | propertyDefinition .. => .propertyDefinition
  | methodDefinition .. => .methodDefinition
  | interfaceDeclaration .. => .interfaceDeclaration
  | typeAliasDeclaration .. => .typeAliasDeclaration
  | callExpression .. => .callExpression
  | newExpression .. => .newExpression
  | memberExpression .. => .memberExpression
  | indexExpression .. => .indexExpression
  | identifier .. => .identifier
  | thisExpression => .thisExpression
  | literal .. => .literal
  | arrayExpression .. => .arrayExpression
  | objectExpression .. => .objectExpression
  | typeAssertion .. => .typeAssertion
  | awaitExpression .. => .awaitExpression
  | parenthesizedExpression .. => .parenthesizedExpression
  | nonNullExpression .. => .nonNullExpression
  | assignmentExpression .. => .assignmentExpression
  | spreadElement .. => .spreadElement
  | other .. => .other

/-- The children of a construct, in the order of the text. -/
def children : Construct → List NodeId
  | program body | blockStatement body => body
  | expressionStatement e | parenthesizedExpression e | nonNullExpression e
  | typeAssertion e _ => [e]
  | returnStatement argument => argument.toList
  | variableDeclaration declarators => declarators
  | variableDeclarator name _ init => name :: init.toList
  | functionDeclaration name _ params _ body => name.toList ++ params ++ body.toList
  | functionExpression params _ body => params ++ body.toList
  | parameter name _ default _ => name :: default.toList
  | classDeclaration name _ _ _ members => name.toList ++ members
  | propertyDefinition name _ value => name :: value.toList
  | methodDefinition name params _ body => name :: (params ++ body.toList)
  | interfaceDeclaration name _ _ members => name :: members
  | typeAliasDeclaration name _ _ => [name]
  | callExpression callee arguments | newExpression callee _ arguments => callee :: arguments
  | memberExpression object property => [object, property]
  | indexExpression object index => [object, index]
  | identifier _ | thisExpression | literal _ => []
  | arrayExpression elements => elements
  | objectExpression properties => properties
  | awaitExpression argument | spreadElement argument => [argument]
  | assignmentExpression left right => [left, right]
  | other _ children => children

/-- The child in a named place. -/
def field? : Field → Construct → Option NodeId
  | .callee, callExpression callee _ | .callee, newExpression callee _ _ => some callee
  | .object, memberExpression object _ | .object, indexExpression object _ => some object
  | .property, memberExpression _ property => some property
  | .expression, expressionStatement e | .expression, parenthesizedExpression e
  | .expression, nonNullExpression e | .expression, typeAssertion e _ => some e
  | .argument, awaitExpression argument | .argument, spreadElement argument => some argument
  | .argument, returnStatement argument => argument
  | .name, variableDeclarator name _ _ | .name, parameter name _ _ _
  | .name, propertyDefinition name _ _ | .name, methodDefinition name _ _ _
  | .name, interfaceDeclaration name _ _ _ | .name, typeAliasDeclaration name _ _ => some name
  | .name, functionDeclaration name _ _ _ _ | .name, classDeclaration name _ _ _ _ => name
  | .init, variableDeclarator _ _ value | .init, parameter _ _ value _
  | .init, propertyDefinition _ _ value => value
  | .body, functionDeclaration _ _ _ _ body | .body, functionExpression _ _ body
  | .body, methodDefinition _ _ _ body => body
  | _, _ => none

end Construct

/-- A node of a tree. -/
structure SyntaxNode where
  /-- What the node is. -/
  construct : Construct
  /-- The text covered. -/
  span : Span
  /-- The parent; only the root has none. -/
  parent : Option NodeId
  deriving Repr, Inhabited

/-- A comment with its delimiters. -/
structure Comment where
  /-- The text. -/
  text : String
  /-- Where it stands. -/
  span : Span
  deriving DecidableEq, Repr, Inhabited

/-- The nodes of a file. -/
structure SyntaxTree where
  /-- The nodes, the root first. -/
  nodes : Array SyntaxNode
  /-- The comments, in the order of the text. -/
  comments : List Comment
  /-- The text of the file. -/
  source : String
  /-- The dialect of the file. -/
  dialect : Dialect
  /-- Whether the parser had to go on after an error. -/
  hasErrors : Bool
  deriving Repr, Inhabited

namespace SyntaxTree

variable (tree : SyntaxTree)

/-- The place of the root. -/
def root : NodeId := 0

/-- The number of nodes. -/
def size : Nat :=
  tree.nodes.size

/-- The construct at a place. -/
def construct? (id : NodeId) : Option Construct :=
  (tree.nodes[id]?).map (·.construct)

/-- The kind of the node at a place. -/
def kind? (id : NodeId) : Option SyntaxKind :=
  (tree.construct? id).map (·.kind)

/-- The text range of the node at a place. -/
def span? (id : NodeId) : Option Span :=
  (tree.nodes[id]?).map (·.span)

/-- The parent of the node at a place. -/
def parent? (id : NodeId) : Option NodeId :=
  (tree.nodes[id]?).bind (·.parent)

/-- The children of the node at a place, in the order of the text. -/
def children (id : NodeId) : List NodeId :=
  match tree.construct? id with
  | some construct => construct.children
  | none => []

/-- The child in a named place of a node. -/
def field? (id : NodeId) (field : Field) : Option NodeId :=
  (tree.construct? id).bind (·.field? field)

/-- The name at a place, if it is an identifier. -/
def nameAt? (id : NodeId) : Option String :=
  match tree.construct? id with
  | some (.identifier name) => some name
  | _ => none

/-- The arguments of the call or `new` expression at a place. -/
def arguments? (id : NodeId) : Option (List NodeId) :=
  match tree.construct? id with
  | some (.callExpression _ arguments) | some (.newExpression _ _ arguments) => some arguments
  | _ => none

/-- The text of the node at a place. -/
def text (id : NodeId) : String :=
  match tree.span? id with
  | some span => slice tree.source span.startByte span.endByte
  | none => ""

/-- The nodes above a place, the nearest first, at most `steps` of them. -/
def ancestorsWithin : Nat → NodeId → List NodeId
  | 0, _ => []
  | steps + 1, id =>
    match tree.parent? id with
    | none => []
    | some parent => parent :: ancestorsWithin steps parent

/-- The nodes above a place, the nearest first. -/
def ancestors (id : NodeId) : List NodeId :=
  tree.ancestorsWithin tree.size id

/-- A place and the nodes above it, the nearest first. -/
def selfAndAncestors (id : NodeId) : List NodeId :=
  id :: tree.ancestors id

/-- Visits the nodes of a stack, each followed by the nodes below it, in at most `steps` steps. -/
def walk : Nat → List NodeId → List NodeId
  | 0, _ | _, [] => []
  | steps + 1, id :: stack => id :: walk steps (tree.children id ++ stack)

/-- All nodes, every node before the nodes below it. -/
def preorder : List NodeId :=
  if tree.size = 0 then [] else tree.walk tree.size [root]

/-- Visits the nodes of a stack in at most `steps` steps. A node is met twice: on the way down, when
its children are put in front of it, and on the way up (marked `true`), when it is visited. -/
def climb : Nat → List (NodeId × Bool) → List NodeId
  | 0, _ | _, [] => []
  | steps + 1, (id, true) :: stack => id :: climb steps stack
  | steps + 1, (id, false) :: stack =>
    climb steps ((tree.children id).map (·, false) ++ (id, true) :: stack)

/-- All nodes, every node after the nodes below it. -/
def postorder : List NodeId :=
  tree.climb (2 * tree.size) [(root, false)]

end SyntaxTree

end StreamLint
