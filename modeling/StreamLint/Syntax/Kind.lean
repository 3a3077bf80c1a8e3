/-!
# Kinds of nodes

The kinds of node that checks can tell apart, and the named places of nodes. For every place it is
recorded which kinds of node have it, `StreamLint.Field.owners`, and, where that is restricted,
which kinds can stand in it, `StreamLint.Field.occupants?`.
-/

namespace StreamLint

/-- The kind of a node. -/
inductive SyntaxKind where
  /-- The root of a file. -/
  | program
  /-- An expression evaluated as a statement. -/
  | expressionStatement
  /-- Statements between braces. -/
  | blockStatement
  /-- `return` with an optional value. -/
  | returnStatement
  /-- A `const`, `let` or `var` declaration. -/
  | variableDeclaration
  /-- One binding inside a variable declaration. -/
  | variableDeclarator
  /-- A named function declaration or signature. -/
  | functionDeclaration
  /-- An arrow function or function expression. -/
  | functionExpression
  /-- A formal parameter. -/
  | parameter
  /-- A class declaration or class expression. -/
  | classDeclaration
  /-- A class field or interface property. -/
  | propertyDefinition
  /-- A class method or interface method. -/
  | methodDefinition
  /-- An interface declaration. -/
  | interfaceDeclaration
  /-- A type alias declaration. -/
  | typeAliasDeclaration
  /-- A call. -/
  | callExpression
  /-- A `new` expression. -/
  | newExpression
  /-- A property access with a dot. -/
  | memberExpression
  /-- A property access with brackets. -/
  | indexExpression
  /-- A name. -/
  | identifier
  /-- `this`. -/
  | thisExpression
  /-- A literal value. -/
  | literal
  /-- An array literal. -/
  | arrayExpression
  /-- An object literal. -/
  | objectExpression
  /-- A type assertion with `as` or with angle brackets. -/
  | typeAssertion
  /-- `await` applied to an expression. -/
  | awaitExpression
  /-- An expression in parentheses, or one with `satisfies`. -/
  | parenthesizedExpression
  /-- An assertion that an expression is not null. -/
  | nonNullExpression
  /-- An assignment. -/
  | assignmentExpression
  /-- A spread element. -/
  | spreadElement
  /-- Any other construct. -/
  | other
  deriving DecidableEq, Repr, Inhabited

namespace SyntaxKind

/-- Every kind, in the order of their declaration. -/
def all : List SyntaxKind :=
  [program, expressionStatement, blockStatement, returnStatement, variableDeclaration,
   variableDeclarator, functionDeclaration, functionExpression, parameter, classDeclaration,
   propertyDefinition, methodDefinition, interfaceDeclaration, typeAliasDeclaration,
   callExpression, newExpression, memberExpression, indexExpression, identifier, thisExpression,
   literal, arrayExpression, objectExpression, typeAssertion, awaitExpression,
   parenthesizedExpression, nonNullExpression, assignmentExpression, spreadElement, other]

/-- The position of a kind among all kinds. -/
def ordinal (kind : SyntaxKind) : Nat :=
  kind.ctorIdx

/-- The name of a kind. -/
def name : SyntaxKind → String
  | program => "Program"
  | expressionStatement => "ExpressionStatement"
  | blockStatement => "BlockStatement"
  | returnStatement => "ReturnStatement"
  | variableDeclaration => "VariableDeclaration"
  | variableDeclarator => "VariableDeclarator"
  | functionDeclaration => "FunctionDeclaration"
  | functionExpression => "FunctionExpression"
  | parameter => "Parameter"
  | classDeclaration => "ClassDeclaration"
  | propertyDefinition => "PropertyDefinition"
  | methodDefinition => "MethodDefinition"
  | interfaceDeclaration => "InterfaceDeclaration"
  | typeAliasDeclaration => "TypeAliasDeclaration"
  | callExpression => "CallExpression"
  | newExpression => "NewExpression"
  | memberExpression => "MemberExpression"
  | indexExpression => "IndexExpression"
  | identifier => "Identifier"
  | thisExpression => "ThisExpression"
  | literal => "Literal"
  | arrayExpression => "ArrayExpression"
  | objectExpression => "ObjectExpression"
  | typeAssertion => "TypeAssertion"
  | awaitExpression => "AwaitExpression"
  | parenthesizedExpression => "ParenthesizedExpression"
  | nonNullExpression => "NonNullExpression"
  | assignmentExpression => "AssignmentExpression"
  | spreadElement => "SpreadElement"
  | other => "Other"

/-- The kind with a given name. -/
def ofName? (text : String) : Option SyntaxKind :=
  all.find? (·.name == text)

/-- Every kind is in the list of all kinds. -/
theorem mem_all (kind : SyntaxKind) : kind ∈ all := by
  cases kind <;> decide

end SyntaxKind

/-- A named place in a node. -/
inductive Field where
  /-- What is called by a call or a `new` expression. -/
  | callee
  /-- The receiver of a property access. -/
  | object
  /-- The accessed name after a dot. -/
  | property
  /-- The expression inside a statement, parentheses or an assertion. -/
  | expression
  /-- The operand of `await`, a spread or `return`. -/
  | argument
  /-- The declared name. -/
  | name
  /-- The initial value of a binding, parameter or class field. -/
  | init
  /-- The body of a function or method. -/
  | body
  deriving DecidableEq, Repr, Inhabited

namespace Field

/-- Every place, in the order of their declaration. -/
def all : List Field :=
  [callee, object, property, expression, argument, name, init, body]

/-- The name of a place. -/
def label : Field → String
  | callee => "Callee"
  | object => "Object"
  | property => "Property"
  | expression => "Expression"
  | argument => "Argument"
  | name => "Name"
  | init => "Init"
  | body => "Body"

/-- The place with a given name. -/
def ofLabel? (text : String) : Option Field :=
  all.find? (·.label == text)

/-- The kinds of node that have the place. -/
def owners : Field → List SyntaxKind
  | callee => [.callExpression, .newExpression]
  | object => [.memberExpression, .indexExpression]
  | property => [.memberExpression]
  | expression =>
    [.expressionStatement, .parenthesizedExpression, .nonNullExpression, .typeAssertion]
  | argument => [.awaitExpression, .spreadElement, .returnStatement]
  | name =>
    [.variableDeclarator, .functionDeclaration, .parameter, .classDeclaration,
     .propertyDefinition, .methodDefinition, .interfaceDeclaration, .typeAliasDeclaration]
  | init => [.variableDeclarator, .parameter, .propertyDefinition]
  | body => [.functionDeclaration, .functionExpression, .methodDefinition]

/-- The kinds of node that can stand in the place, where that is restricted. -/
def occupants? : Field → Option (List SyntaxKind)
  | property => some [.identifier]
  | name => some [.identifier, .other]
  | body =>
    some
      [.blockStatement, .callExpression, .newExpression, .memberExpression, .indexExpression,
       .identifier, .thisExpression, .literal, .arrayExpression, .objectExpression,
       .typeAssertion, .awaitExpression, .parenthesizedExpression, .nonNullExpression,
       .assignmentExpression, .functionExpression, .classDeclaration, .other]
  | _ => none

end Field

end StreamLint
