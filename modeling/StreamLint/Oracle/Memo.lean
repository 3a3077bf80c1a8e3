import StreamLint.Oracle.Reference
/-!
# The oracle

An oracle answers questions about the types of the nodes of one file and remembers its answers:
those about nodes, and those about types where a walk started. A remembered answer about a type is
taken by later walks as well, wherever they meet the type outside of an instantiation.
-/

namespace StreamLint

/-- The type of a node, or else of the symbol that it refers to. -/
def FileModel.typeAt? (model : FileModel) (node : NodeId) : Option TypeId :=
  match model.typeOf? node with
  | some type => some type
  | none => (model.symbolOf? node).bind model.symbolType?

/-- Questions and remembered answers about the types of a file. -/
structure Oracle where
  /-- What is known about the types. -/
  model : FileModel
  /-- How many steps a type is followed. -/
  maxDepth : Nat
  /-- Which nodes could be observable. -/
  observableNodes : Std.TreeMap NodeId Bool compare := {}
  /-- Which nodes have reference types. -/
  referenceNodes : Std.TreeMap NodeId Bool compare := {}
  /-- Which types could be observable. -/
  observableTypes : Std.TreeMap TypeId Bool compare := {}

namespace Oracle

/-- Whether a type could be observable. -/
def typeMayBeObservable (type : TypeId) : StateM Oracle Bool := do
  let oracle ← get
  let known (id : TypeId) : Option Bool := oracle.observableTypes[id]?
  match known type with
  | some answer => return answer
  | none =>
    let answer := oracle.model.types.observableWithin known (oracle.maxDepth + 1) [] type
    set { oracle with observableTypes := oracle.observableTypes.insert type answer }
    return answer

/-- Whether the type of a node could be observable. A node without a type could not. -/
def mayBeObservable (node : NodeId) : StateM Oracle Bool := do
  let oracle ← get
  match oracle.observableNodes[node]? with
  | some answer => return answer
  | none =>
    let answer ← match oracle.model.typeAt? node with
      | some type => typeMayBeObservable type
      | none => pure false
    modify fun oracle =>
      { oracle with observableNodes := oracle.observableNodes.insert node answer }
    return answer

/-- Whether a node has a reference type. A node without a type has not. -/
def isReference (node : NodeId) : StateM Oracle Bool := do
  let oracle ← get
  match oracle.referenceNodes[node]? with
  | some answer => return answer
  | none =>
    let answer := match oracle.model.typeAt? node with
      | some type => oracle.model.types.isReference oracle.maxDepth type
      | none => false
    set { oracle with referenceNodes := oracle.referenceNodes.insert node answer }
    return answer

end Oracle

end StreamLint
