import StreamLint.Model.Binding
/-!
# Settling types

A deferred type is *settled* when it is needed: its place becomes a nameless alias of the type of
the expression that it comes from, or the unknown type if there is none. Settling asks for the types
of expressions, and the type of an expression may need deferred types, so the functions below take
the question for the type of an expression as an argument; `StreamLint.Background.infer` closes the
circle.

A question is asked with a *budget*, the number of further steps that an answer may take. Nothing
here fails by itself. What a computation may come to besides an end, and what else it keeps beside
the draft, is left open: it is one in any monad with a draft.
-/

namespace StreamLint

/-- What extends a draft, and may come to something else than an end. -/
abbrev Inference (m : Type → Type) := StateT Draft m

/-- The question for the type of an expression, within a budget. -/
abbrev Question (n : Type → Type) := Nat → NodeId → n (Option TypeId)

section

variable {n : Type → Type} [Monad n] [MonadStateOf Draft n]

/-- A step on a draft is one wherever there is a draft. -/
instance : MonadLift (StateM Draft) n where
  monadLift action := modifyGet action.run

/-! ### Unions -/

/-- The union of types: none of no types, the type itself of one, and a new type of several. A type
that repeats the one before it counts once. -/
def joinTypes (types : List TypeId) : StateM Draft (Option TypeId) :=
  match types.eraseReps with
  | [] => return none
  | [only] => return some only
  | several => do
    let id ← Draft.push (.union several)
    return some id

/-! ### Results of functions -/

/-- Whether a construct keeps its `return` statements to itself. -/
def SyntaxKind.ownsReturns : SyntaxKind → Bool
  | .functionDeclaration | .functionExpression | .classDeclaration => true
  | _ => false

/-- The values of the `return` statements in and below the nodes of a stack, in the order of the
text, after at most `steps` steps. -/
def SyntaxTree.returnsWithin (tree : SyntaxTree) : Nat → List NodeId → List NodeId
  | 0, _ | _, [] => []
  | steps + 1, node :: stack =>
    match tree.construct? node with
    | some (.returnStatement (some argument)) => argument :: returnsWithin tree steps stack
    | some construct =>
      if construct.kind.ownsReturns then returnsWithin tree steps stack
      else returnsWithin tree steps (construct.children ++ stack)
    | none => returnsWithin tree steps stack

/-- The values that a block returns, in the order of the text. -/
def SyntaxTree.returnedValues (tree : SyntaxTree) (block : NodeId) : List NodeId :=
  tree.returnsWithin tree.size [block]

namespace Background

variable (background : Background) (ask : Question n)

/-- The types of those expressions that have one, asked for in order. -/
def typesOf (budget : Nat) : List NodeId → n (List TypeId)
  | [] => return []
  | node :: rest => do
    let first ← ask budget node
    let others ← typesOf budget rest
    return first.toList ++ others

/-- The type that a function with the given body returns: the type of an expression; or, of a block,
nothing if it returns no value and the union of what it returns otherwise. -/
def typeOfBody (budget : Nat) (body : NodeId) : n (Option TypeId) :=
  if background.tree.kind? body == some .blockStatement then
    match background.tree.returnedValues body with
    | [] => return some .void
    | several => do
      let types ← typesOf ask budget several
      joinTypes types
  else
    ask budget body

/-! ### Settling -/

/-- The type that a deferred type is to stand for. -/
def typeOfDeferred (budget : Nat) : Deferred → n (Option TypeId)
  | .expression node => ask budget node
  | .body node => background.typeOfBody ask budget node

/-- Finds out a deferred type; any other type is left as it is. -/
def settle (budget : Nat) (type : TypeId) : n Unit := do
  match (← get).deferred[type]? with
  | none => return
  | some source =>
    modify fun draft => { draft with deferred := draft.deferred.erase type }
    match ← background.typeOfDeferred ask budget source with
    | some target =>
      if target == type then Draft.define type .unknown
      else Draft.define type (.alias "" [] target)
    | none => Draft.define type .unknown

end Background

/-! ### Shapes -/

/-- The type that a type stands for: the target of an alias or of a reference to an alias, and the
bound of a generic parameter. -/
def TypeTable.standsFor? (table : TypeTable) (type : TypeId) : Option TypeId :=
  match table.get? type with
  | some (.alias _ _ target) => some target
  | some (.parameter _ bound) => bound
  | some (.reference target _) =>
    match table.get? target with
    | some (.alias _ _ aliased) => some aliased
    | _ => none
  | _ => none

namespace Background

variable (background : Background) (ask : Question n)

/-- The type that a type stands for in the end, followed for at most `steps` steps. Every type on
the way is settled. -/
def shapeWithin (budget : Nat) : Nat → TypeId → n TypeId
  | 0, type => return type
  | steps + 1, type => do
    background.settle ask budget type
    match (← get).table.standsFor? type with
    | some next => if next == type then return type else shapeWithin budget steps next
    | none => return type

/-- The type that a type stands for in the end. -/
def shapeOf (budget : Nat) (type : TypeId) : n TypeId :=
  background.shapeWithin ask budget (background.maxDepth + 1) type

end Background

end

end StreamLint
