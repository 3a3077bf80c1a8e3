import StreamLint.Limits
import StreamLint.Model.Inference
/-!
# Building the model of a file

The model of a file is made in order: declarations of types, bindings of names, types of
expressions, and the types that are still deferred then. Parts of expressions are typed before the
expressions around them, so that a long chain needs no deep walk; declared names are typed after all
other expressions, since they settle what they are initialised with.

How a model is made, `StreamLint.SyntaxTree.modelBy`, leaves open what calls return.
`StreamLint.SyntaxTree.model?` fills that in with `StreamLint.Background.resultOfCall`, so that
there is no model of a file if that comes to no end.
-/

namespace StreamLint

variable {m : Type → Type} [Monad m] {n : Type → Type} [Monad n] [MonadStateOf Draft n]

namespace Background

variable (background : Background)

/-- The draft before the file is looked at. -/
def start : Draft :=
  { table := background.prelude.table }

/-- Declares the types of a file and binds its names. -/
def bindFile : StateM Draft Unit := do
  let nodes := background.tree.preorder
  let declarations ← background.declareAll nodes
  background.defineAllBounds nodes
  background.defineAll declarations
  background.bindAll nodes

/-- Whether a node is the name that its parent declares. -/
def isDeclaredHere (node : NodeId) : Bool :=
  match background.tree.parent? node with
  | some parent => background.tree.field? parent .name == some node
  | none => false

/-- The expressions of a file in the order in which they are typed. -/
def expressions : List NodeId :=
  let all := background.tree.postorder.filter fun node =>
    ((background.tree.kind? node).map (·.mayHaveType)).getD false
  let (names, operands) := all.partition background.isDeclaredHere
  operands ++ names

/-- The largest budget, for a question that no other question led to. -/
def budget : Nat :=
  background.maxDepth + 1

variable (call : Calling n)

/-- The question for the type of an expression. -/
def question : Question n :=
  background.infer call background.budget

/-- Types the expressions of a file. -/
def inferAll : List NodeId → n Unit
  | [] => return
  | node :: rest => do
    let _ ← background.question call background.budget node
    inferAll rest

/-- Settles deferred types. -/
def settleEach : List TypeId → n Unit
  | [] => return
  | type :: rest => do
    background.settle (background.question call) background.budget type
    settleEach rest

/-- Makes the model of a file. -/
def buildFile : n Unit := do
  background.bindFile
  background.inferAll call background.expressions
  background.settleEach call (← get).deferred.keys

/-- The finished draft of a file. -/
def finish (call : Calling (Inference m)) : m Draft := do
  let (_, draft) ← (background.buildFile call).run background.start
  return draft

end Background

/-- The answers that a finished draft holds. -/
def Draft.bindings (draft : Draft) : Bindings where
  table := draft.table
  nodeTypes := draft.inferred.filterMap fun _ type => type
  nodeSymbols := draft.nodeSymbols
  symbols := draft.symbols

/-- The model of a file, where it is given what calls return. -/
def SyntaxTree.modelBy (tree : SyntaxTree) (prelude : Prelude) (limits : Limits)
    (call : Background → Calling (Inference m)) : m Bindings := do
  let background := Background.mk tree prelude limits.resolutionDepth
  return (← background.finish (call background)).bindings

/-- The model of a file, if making it comes to an end. -/
def SyntaxTree.model? (tree : SyntaxTree) (prelude : Prelude) (limits : Limits) :
    Option Bindings :=
  tree.modelBy prelude limits Background.resultOfCall

/-- The prelude that a finished draft declares: its types, and the values bound in the outermost
scope. -/
def Draft.prelude (draft : Draft) : Prelude where
  table := draft.table
  types := draft.typeNames
  values := ((draft.scopes[SyntaxTree.root]?).getD {}).filterMap fun _ symbol =>
    draft.symbols[symbol]?

/-- The prelude that a file of declarations makes, where it is given what calls return. The file is
seen with the usual limits. -/
def Prelude.ofTreeBy (tree : SyntaxTree) (call : Background → Calling (Inference m)) : m Prelude := do
  let background := Background.mk tree .empty ({} : Limits).resolutionDepth
  return (← background.finish (call background)).prelude

/-- The prelude that a file of declarations makes, if making it comes to an end. -/
def Prelude.ofTree? (tree : SyntaxTree) : Option Prelude :=
  Prelude.ofTreeBy tree Background.resultOfCall

end StreamLint
