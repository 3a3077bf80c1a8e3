import StreamLint.Model.Resolution
/-!
# Declarations of types

The types that a file declares are hoisted: first every class, interface and alias gets a place in
the table, then the bounds of generic parameters are resolved, and then the declarations are
defined, in the order of the text. Declarations of one name share a place. An interface adds its
supertypes and members to what an earlier class or interface of that name declared; a class and an
alias stand for themselves.

An alias that stands for its own place has an unknown type.
-/

namespace StreamLint

/-- The declared name of a construct if it may declare a type, and its generic parameters; none for
constructs that have no generic parameters. -/
def SyntaxTree.genericDeclaration? (tree : SyntaxTree) :
    Construct → Option (Option String × List TypeParameter)
  | .classDeclaration (some name) params _ _ _ | .interfaceDeclaration name params _ _
  | .typeAliasDeclaration name params _ => some (tree.nameAt? name, params)
  | .classDeclaration none params _ _ _ | .functionDeclaration _ params _ _ _ =>
    some (none, params)
  | _ => none

namespace Background

variable (background : Background)

/-! ### Places for declarations -/

/-- Gives a place to every generic parameter, with its bound still open. -/
def declareParams : List TypeParameter → StateM Draft (List (String × TypeId))
  | [] => return []
  | param :: rest => do
    let id ← Draft.push (.parameter param.name none)
    let ids ← declareParams rest
    return (param.name, id) :: ids

/-- The place for a declaration: the one that its name has already, or a new one. -/
def declareName (name : String) : StateM Draft TypeId := do
  match (← get).typeNames[name]? with
  | some id => return id
  | none =>
    let id ← Draft.reserve
    modify fun draft => { draft with typeNames := draft.typeNames.insert name id }
    return id

/-- Notes the generic parameters of a node, if it has any. -/
def noteParams (node : NodeId) (ids : List (String × TypeId)) : StateM Draft Unit :=
  modify fun draft =>
    if ids.isEmpty then draft
    else { draft with typeParams := draft.typeParams.insert node ids }

/-- Notes the place of a class. -/
def noteClass (node : NodeId) (id : TypeId) : StateM Draft Unit :=
  modify fun draft => { draft with classes := draft.classes.insert node id }

/-- Gives a place to the type that a node declares: to what has a name, and to a class without
one. -/
def declareType (node : NodeId) (isClass : Bool) (name : Option String) :
    StateM Draft (Option TypeId) := do
  match name with
  | some name =>
    let id ← declareName name
    if isClass then noteClass node id
    return some id
  | none =>
    if isClass then
      let id ← Draft.reserve
      noteClass node id
      return some id
    else return none

/-- Gives places to the generic parameters of a node and to the type that it declares, if it
declares one. -/
def declareNode (node : NodeId) : StateM Draft (Option TypeId) := do
  let some construct := background.tree.construct? node | return none
  let some (name, params) := background.tree.genericDeclaration? construct | return none
  let ids ← declareParams params
  noteParams node ids
  declareType node (construct.kind == .classDeclaration) name

/-- Gives places to all declarations among the nodes, and lists the declarations. -/
def declareAll : List NodeId → StateM Draft (List (NodeId × TypeId))
  | [] => return []
  | node :: rest => do
    match ← background.declareNode node with
    | some id =>
      let declarations ← declareAll rest
      return (node, id) :: declarations
    | none => declareAll rest

/-! ### Bounds of generic parameters -/

/-- Resolves the bounds of the generic parameters of a node. -/
def defineBounds (site : NodeId) :
    List ((String × TypeId) × TypeParameter) → StateM Draft Unit
  | [] => return
  | ((name, id), param) :: rest => do
    if let some written := param.bound then
      let bound ← background.resolve site written
      Draft.define id (.parameter name (some bound))
    defineBounds site rest

/-- Resolves the bounds of all generic parameters that the nodes declare. -/
def defineAllBounds : List NodeId → StateM Draft Unit
  | [] => return
  | node :: rest => do
    let params := ((← get).typeParams[node]?).getD []
    match (background.tree.construct? node).bind background.tree.genericDeclaration? with
    | some (_, declared) => background.defineBounds node (params.zip declared)
    | none => pure ()
    defineAllBounds rest

/-! ### Members -/

/-- The property that a parameter of a constructor declares, if it declares one. -/
def parameterProperty (param : NodeId) : StateM Draft (Option (Member TypeId)) := do
  match background.tree.construct? param with
  | some (.parameter name written default true) =>
    match background.tree.nameAt? name with
    | some memberName =>
      let type ← background.resolveOrDefer written (default.map .expression) param
      return some ⟨memberName, .property, type⟩
    | none => return none
  | _ => return none

/-- The properties that the parameters of a constructor declare. -/
def propertiesOfParameters : List NodeId → StateM Draft (List (Member TypeId))
  | [] => return []
  | param :: rest => do
    let member ← background.parameterProperty param
    let members ← propertiesOfParameters rest
    return member.toList ++ members

/-- The members that a node in the body of a class or interface declares. -/
def membersOf (node : NodeId) : StateM Draft (List (Member TypeId)) := do
  match background.tree.construct? node with
  | some (.propertyDefinition name written value) =>
    match background.tree.nameAt? name with
    | some memberName =>
      let type ← background.resolveOrDefer written (value.map .expression) node
      return [⟨memberName, .property, type⟩]
    | none => return []
  | some (.methodDefinition name params returnType body) =>
    match background.tree.nameAt? name with
    | some memberName =>
      if memberName == "constructor" then background.propertiesOfParameters params
      else
        let type ← background.resolveOrDefer returnType (body.map .body) node
        return [⟨memberName, .method, type⟩]
    | none => return []
  | _ => return []

/-- The members that the nodes in the body of a class or interface declare. -/
def membersOfAll : List NodeId → StateM Draft (List (Member TypeId))
  | [] => return []
  | node :: rest => do
    let first ← background.membersOf node
    let others ← membersOfAll rest
    return first ++ others

/-! ### Definitions -/

/-- What a declaration at the place `id` declares. -/
def declaredData (node : NodeId) (id : TypeId) : StateM Draft (Option TypeEntry) := do
  let params := (((← get).typeParams[node]?).getD []).map (·.2)
  let nameOf (name : NodeId) : String := (background.tree.nameAt? name).getD ""
  match background.tree.construct? node with
  | some (.classDeclaration name _ base interfaces members) =>
    let supertypes ← background.resolveEach node (base.toList ++ interfaces)
    let own ← background.membersOfAll members
    return some (.declared ⟨(name.map nameOf).getD "", .classType, params, supertypes, own⟩)
  | some (.interfaceDeclaration name _ bases members) =>
    let supertypes ← background.resolveEach node bases
    let own ← background.membersOfAll members
    match (← get).table.get? id with
    | some (.declared earlier) =>
      return some (.declared { earlier with
        supertypes := earlier.supertypes ++ supertypes, members := earlier.members ++ own })
    | _ => return some (.declared ⟨nameOf name, .interfaceType, params, supertypes, own⟩)
  | some (.typeAliasDeclaration name _ value) =>
    let target ← background.resolve node value
    if target == id then return some .unknown
    else return some (.alias (nameOf name) params target)
  | _ => return none

/-- Defines all declarations, one after the other. -/
def defineAll : List (NodeId × TypeId) → StateM Draft Unit
  | [] => return
  | (node, id) :: rest => do
    if let some data ← background.declaredData node id then
      Draft.define id data
    defineAll rest

end Background

end StreamLint
