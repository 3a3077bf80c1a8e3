import StreamLint.Model.Basic
/-!
# Models in the making

While the model of a file is made, the types and scopes found so far are kept in a
`StreamLint.Draft`. A type that is not written down anywhere gets a place in the table at once, and
what it is to be found out from is noted as *deferred*.

Names of values are looked up in the scopes around the place of use, the nearest first; generic
parameters are looked up in the declarations around it; names of types are looked up in the file and
then in the prelude.
-/

namespace StreamLint

/-- What a type without an annotation is to be found out from. -/
inductive Deferred where
  /-- An expression, such as an initial value. -/
  | expression (node : NodeId)
  /-- The body of a function, for the type that it returns. -/
  | body (node : NodeId)
  deriving DecidableEq, Repr, Inhabited

/-- What does not change while a model is made. -/
structure Background where
  /-- The file. -/
  tree : SyntaxTree
  /-- The types and values declared outside of it. -/
  prelude : Prelude
  /-- How many steps a type is followed. -/
  maxDepth : Nat

/-- A model in the making. -/
structure Draft where
  /-- The types found so far. -/
  table : TypeTable
  /-- The types declared in the file, by their names. -/
  typeNames : Std.TreeMap String TypeId compare := {}
  /-- The generic parameters of declarations. -/
  typeParams : Std.TreeMap NodeId (List (String × TypeId)) compare := {}
  /-- The names bound in each scope. -/
  scopes : Std.TreeMap NodeId (Std.TreeMap String SymbolId compare) compare := {}
  /-- The types of the symbols, by their numbers. -/
  symbols : Array TypeId := #[]
  /-- The symbols that names refer to. -/
  nodeSymbols : Std.TreeMap NodeId SymbolId compare := {}
  /-- The types of the classes of the file. -/
  classes : Std.TreeMap NodeId TypeId compare := {}
  /-- The types that are still to be found out. -/
  deferred : Std.TreeMap TypeId Deferred compare := {}
  /-- The expressions that have been dealt with, and the types of those that have one. -/
  inferred : Std.TreeMap NodeId (Option TypeId) compare := {}
  /-- The expressions that are being dealt with, the latest first. -/
  inProgress : List NodeId := []

namespace Draft

/-- Puts a type at the end of the table. -/
def push (data : TypeEntry) : StateM Draft TypeId :=
  modifyGet fun draft =>
    let (id, table) := draft.table.push data
    (id, { draft with table })

/-- Takes a place for a type that is defined later. -/
def reserve : StateM Draft TypeId :=
  push .unknown

/-- Defines the type at a place. -/
def define (id : TypeId) (data : TypeEntry) : StateM Draft Unit :=
  modify fun draft => { draft with table := draft.table.define id data }

/-- Takes a place for a type that is to be found out later. -/
def defer (source : Deferred) : StateM Draft TypeId := do
  let id ← reserve
  modify fun draft => { draft with deferred := draft.deferred.insert id source }
  return id

end Draft

/-! ### Scopes -/

/-- Whether a kind of node opens a scope for the names of values. -/
def SyntaxKind.opensScope : SyntaxKind → Bool
  | .program | .blockStatement | .functionDeclaration | .functionExpression
  | .methodDefinition => true
  | _ => false

/-- The nearest scope at or above a node. -/
def SyntaxTree.scopeAt? (tree : SyntaxTree) (node : NodeId) : Option NodeId :=
  (tree.selfAndAncestors node).find? fun id => ((tree.kind? id).map (·.opensScope)).getD false

/-- The scope that the declared name at a node belongs to. The name of a function belongs to the
scope around the function. -/
def SyntaxTree.scopeOfName? (tree : SyntaxTree) (name : NodeId) : Option NodeId := do
  let declaration ← tree.parent? name
  if tree.kind? declaration == some .functionDeclaration then
    tree.scopeAt? (← tree.parent? declaration)
  else
    tree.scopeAt? declaration

namespace Background

variable (background : Background)

/-- The symbol that a name refers to at a node: that of the nearest scope which binds the name. -/
def symbolNamed? (draft : Draft) (name : String) (node : NodeId) : Option SymbolId :=
  (background.tree.selfAndAncestors node).findSome? fun id =>
    (draft.scopes[id]?).bind fun scope => scope[name]?

/-- The generic parameter that a name refers to at a node. -/
def parameterNamed? (draft : Draft) (name : String) (node : NodeId) : Option TypeId :=
  (background.tree.selfAndAncestors node).findSome? fun id =>
    (draft.typeParams[id]?).bind fun params => (params.find? (·.1 == name)).map (·.2)

/-- The declared type that a name refers to. -/
def typeNamed? (draft : Draft) (name : String) : Option TypeId :=
  match draft.typeNames[name]? with
  | some id => some id
  | none => background.prelude.types[name]?

end Background

end StreamLint
