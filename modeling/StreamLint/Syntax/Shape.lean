import StreamLint.Syntax.Tree
/-!
# Constructs before their children have places

A `StreamLint.Shape` is what is known about a construct before the places of its children are: which
construct it is, and the written types it holds. The children then come as a list of *slots*, in the
order in which the shape expects them, with an empty slot for every optional child that is absent;
`StreamLint.Shape.assemble` puts the two together. A construct whose first slot must not be empty
becomes a construct of no particular kind if it is.
-/

namespace StreamLint

/-- A construct without its children. -/
inductive Shape where
  /-- The root of a file: all slots are statements. -/
  | program
  /-- A block: all slots are statements. -/
  | block
  /-- An expression statement: one slot. -/
  | expressionStatement
  /-- A `return` statement: at most one slot. -/
  | returnStatement
  /-- A variable declaration: all slots are bindings. -/
  | declarations
  /-- A binding: its name and its initial value. -/
  | declarator (declared : Option TypeExpr)
  /-- A function declaration: its name, its parameters and its body. -/
  | function (typeParameters : List TypeParameter) (params : Nat) (returnType : Option TypeExpr)
  /-- A function expression: its parameters and its body. -/
  | functionExpression (params : Nat) (returnType : Option TypeExpr)
  /-- A parameter: its name and its default value. -/
  | parameter (declared : Option TypeExpr) (isProperty : Bool)
  /-- A class: its name and its members. -/
  | classDeclaration (typeParameters : List TypeParameter) (base : Option TypeExpr)
      (interfaces : List TypeExpr)
  /-- A field or property: its name and its value. -/
  | property (declared : Option TypeExpr)
  /-- A method: its name, its parameters and its body. -/
  | method (params : Nat) (returnType : Option TypeExpr)
  /-- An interface: its name and its members. -/
  | interfaceDeclaration (typeParameters : List TypeParameter) (bases : List TypeExpr)
  /-- A type alias: its name. -/
  | typeAlias (typeParameters : List TypeParameter) (value : TypeExpr)
  /-- A call: what is called, and the arguments. -/
  | call
  /-- A `new` expression: what is constructed, and the arguments. -/
  | newExpression (typeArguments : List TypeExpr)
  /-- A property access with a dot: receiver and name. -/
  | member
  /-- A property access with brackets: receiver and index. -/
  | index
  /-- An assignment: target and value. -/
  | assignment
  /-- A type assertion: the expression is in the last slot. -/
  | assertion (declared : Option TypeExpr)
  /-- Parentheses: one slot. -/
  | parenthesized
  /-- A non-null assertion: one slot. -/
  | nonNull
  /-- `await`: one slot. -/
  | await
  /-- A spread element: one slot. -/
  | spread
  /-- An array literal: all slots are elements. -/
  | array
  /-- An object literal: all slots are properties. -/
  | object
  /-- A name. -/
  | identifier (name : String)
  /-- `this`. -/
  | this
  /-- A literal value. -/
  | literal (kind : LiteralKind)
  /-- Any other construct. -/
  | other
  deriving Repr, Inhabited

/-- The child in the first slot. -/
def firstSlot (slots : List (Option NodeId)) : Option NodeId :=
  slots.head?.join

/-- The construct of a given shape with its children. The grammar's name `label` is used for
constructs of no particular kind. -/
def Shape.assemble (label : String) (shape : Shape) (slots : List (Option NodeId)) : Construct :=
  let present := slots.filterMap id
  match shape, slots with
  | .program, _ => .program present
  | .block, _ => .blockStatement present
  | .declarations, _ => .variableDeclaration present
  | .array, _ => .arrayExpression present
  | .object, _ => .objectExpression present
  | .returnStatement, slots => .returnStatement (firstSlot slots)
  | .function typeParameters params returnType, slots =>
    .functionDeclaration (firstSlot slots) typeParameters
      ((slots.tail.take params).filterMap id) returnType (firstSlot (slots.tail.drop params))
  | .functionExpression params returnType, slots =>
    .functionExpression ((slots.take params).filterMap id) returnType
      (firstSlot (slots.drop params))
  | .classDeclaration typeParameters base interfaces, slots =>
    .classDeclaration (firstSlot slots) typeParameters base interfaces
      (slots.tail.filterMap id)
  | .identifier name, _ => .identifier name
  | .this, _ => .thisExpression
  | .literal kind, _ => .literal kind
  | .expressionStatement, some inner :: _ => .expressionStatement inner
  | .parenthesized, some inner :: _ => .parenthesizedExpression inner
  | .nonNull, some inner :: _ => .nonNullExpression inner
  | .await, some inner :: _ => .awaitExpression inner
  | .spread, some inner :: _ => .spreadElement inner
  | .declarator declared, some name :: rest =>
    .variableDeclarator name declared (firstSlot rest)
  | .parameter declared isProperty, some name :: rest =>
    .parameter name declared (firstSlot rest) isProperty
  | .property declared, some name :: rest =>
    .propertyDefinition name declared (firstSlot rest)
  | .method params returnType, some name :: rest =>
    .methodDefinition name ((rest.take params).filterMap id) returnType
      (firstSlot (rest.drop params))
  | .interfaceDeclaration typeParameters bases, some name :: rest =>
    .interfaceDeclaration name typeParameters bases (rest.filterMap id)
  | .typeAlias typeParameters value, some name :: _ =>
    .typeAliasDeclaration name typeParameters value
  | .call, some callee :: rest => .callExpression callee (rest.filterMap id)
  | .newExpression typeArguments, some callee :: rest =>
    .newExpression callee typeArguments (rest.filterMap id)
  | .member, some receiver :: some accessed :: _ => .memberExpression receiver accessed
  | .index, some receiver :: some accessed :: _ => .indexExpression receiver accessed
  | .assignment, some left :: some right :: _ => .assignmentExpression left right
  | .assertion declared, _ =>
    match present.getLast?, declared with
    | some expression, some type => .typeAssertion expression type
    | some expression, none => .parenthesizedExpression expression
    | none, _ => .other label []
  | _, _ => .other label present

end StreamLint
