import StreamLint.Model.Members
/-!
# Types of expressions

An expression is typed from its parts, once: the answer is noted, also when there is none. While an
expression is being typed, a question for its own type has no answer, and neither has a question
without budget; such an answer is not noted. What calls return is given from outside.
-/

namespace StreamLint

variable {n : Type → Type} [Monad n] [MonadStateOf Draft n]

/-- What calling a value of a type returns, within a budget. -/
abbrev Calling (n : Type → Type) :=
  Question n → Nat → TypeId → n (Option TypeId)

/-- The type of a literal value. -/
def LiteralKind.typeId : LiteralKind → TypeId
  | .string | .template => .string
  | .number => .number
  | .bigInt => .bigInt
  | .boolean => .boolean
  | .null => .null
  | .undefined => .undefined
  | .regex => .unknown

/-- Whether a kind of node is an expression that may have a type. -/
def SyntaxKind.mayHaveType : SyntaxKind → Bool
  | .callExpression | .newExpression | .memberExpression | .indexExpression | .identifier
  | .thisExpression | .literal | .arrayExpression | .objectExpression | .typeAssertion
  | .awaitExpression | .parenthesizedExpression | .nonNullExpression | .assignmentExpression
  | .functionExpression => true
  | _ => false

namespace Background

variable (background : Background) (ask : Question n)

/-- Whether a node is the property that its parent reads. -/
def isProperty (node : NodeId) : Bool :=
  match background.tree.parent? node with
  | some parent => background.tree.field? parent .property == some node
  | none => false

/-- The type of a name: that of the symbol it refers to, or else of the value of the prelude. The
symbol is noted. -/
def typeOfName (budget : Nat) (node : NodeId) (name : String) : n (Option TypeId) := do
  if background.isProperty node then return none
  match background.symbolNamed? (← get) name node with
  | some symbol =>
    modify fun draft => { draft with nodeSymbols := draft.nodeSymbols.insert node symbol }
    match (← get).symbols[symbol]? with
    | some type =>
      background.settle ask budget type
      return some type
    | none => return none
  | none =>
    match background.prelude.values[name]? with
    | some type => return some type
    | none => return if name == "undefined" then some .undefined else none

/-- The type of the class around a node. -/
def typeOfThis (node : NodeId) : n (Option TypeId) := do
  let draft ← get
  return (background.tree.ancestors node).findSome? fun id => draft.classes[id]?

/-- The type of what `new` makes: the class or interface that the callee, or its property, is named
after. -/
def typeOfNew (node callee : NodeId) (written : List TypeExpr) : StateM Draft (Option TypeId) := do
  let name? := background.tree.nameAt?
    ((background.tree.field? callee .property).getD callee)
  match name? with
  | none => return none
  | some name =>
    let arguments ← background.resolveEach node written
    match background.typeNamed? (← get) name with
    | some target =>
      if arguments.isEmpty then return some target
      else
        let id ← Draft.push (.reference target arguments)
        return some id
    | none =>
      let id ← Draft.push (.foreign name arguments)
      return some id

/-- The type of a function expression. What its body returns is found out later. -/
def typeOfFunction (node : NodeId) (returnType : Option TypeExpr) (body : Option NodeId) :
    StateM Draft (Option TypeId) := do
  let result ← background.resolveOrDefer returnType (body.map .body) node
  let id ← Draft.push (.function result)
  return some id

/-- The type of the elements of an array. -/
def elementType (budget : Nat) (object : TypeId) : n (Option TypeId) := do
  let shape ← background.shapeOf ask budget object
  match (← get).table.get? shape with
  | some (.array element) => return some element
  | _ => return none

/-- What comes of the type of a part of an expression, if it has one. -/
def ofPart (budget : Nat) (part : NodeId) (follow : TypeId → n (Option TypeId)) :
    n (Option TypeId) := do
  match ← ask budget part with
  | some type => follow type
  | none => return none

/-- The type of an expression from the types of its parts, unless it has been noted before. -/
def typeOfExpression (resultOf : Nat → TypeId → n (Option TypeId)) (budget : Nat)
    (node : NodeId) : n (Option TypeId) := do
  match background.tree.construct? node with
  | some (.identifier name) => background.typeOfName ask budget node name
  | some .thisExpression => background.typeOfThis node
  | some (.literal kind) => return some kind.typeId
  | some (.arrayExpression elements) =>
    let element ← match elements with
      | [] => pure none
      | first :: _ => ask budget first
    let id ← Draft.push (.array (element.getD .unknown))
    return some id
  | some (.objectExpression _) =>
    let id ← Draft.push (.object [])
    return some id
  | some (.callExpression callee _) =>
    ofPart ask budget callee fun type => resultOf budget type
  | some (.newExpression callee written _) => background.typeOfNew node callee written
  | some (.memberExpression object property) =>
    ofPart ask budget object fun type =>
      match background.tree.nameAt? property with
      | some name => background.typeOfMember ask name budget type
      | none => return none
  | some (.indexExpression object _) =>
    ofPart ask budget object fun type => background.elementType ask budget type
  | some (.typeAssertion expression (.unsupported _)) => ask budget expression
  | some (.typeAssertion _ written) =>
    let id ← background.resolve node written
    return some id
  | some (.awaitExpression argument) =>
    ofPart ask budget argument fun type => do
      let awaited ← background.awaitedType ask budget type
      return some awaited
  | some (.parenthesizedExpression expression) => ask budget expression
  | some (.nonNullExpression expression) =>
    ofPart ask budget expression fun type => do
      let stripped ← background.presentPart ask budget type
      return some stripped
  | some (.assignmentExpression _ right) => ask budget right
  | some (.functionExpression _ returnType body) =>
    background.typeOfFunction node returnType body
  | _ => return none

/-- The type of an expression. The first number is one of the budgets that may be asked with, or a
larger one. -/
def infer (call : Calling n) : Nat → Question n
  | fuel, budget, node => do
    let draft ← get
    match draft.inferred[node]? with
    | some known => return known
    | none =>
      match fuel with
      | 0 => return none
      | fuel + 1 =>
        if budget == 0 || draft.inProgress.contains node then return none
        modify fun draft => { draft with inProgress := node :: draft.inProgress }
        let ask := infer call fuel
        let type ← background.typeOfExpression ask (call ask) (budget - 1) node
        modify fun draft =>
          { draft with
            inProgress := draft.inProgress.erase node
            inferred := draft.inferred.insert node type }
        return type

end Background

end StreamLint
