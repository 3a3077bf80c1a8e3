import StreamLint.Model.Settling
/-!
# Members and results

What can be read from the shape of a type: the type of a member, what a call returns, what a promise
holds, and what is left of a type without the absent values. Members of a generic declaration are
seen through the arguments given to it.

A member is looked for within a budget. What a call returns is not: a union that is one of its own
members, possibly by way of aliases, has no result, and the search for it comes to no end.
-/

namespace StreamLint

variable {n : Type → Type} [Monad n] [MonadStateOf Draft n]

/-! ### Generic parameters -/

/-- A type with arguments in place of generic parameters, to a depth of `budget`. References,
unions, intersections, arrays and functions are looked into; a type without any of the parameters
stays the same one. -/
def substitute (params arguments : List TypeId) : Nat → TypeId → StateM Draft TypeId
  | 0, type => return type
  | budget + 1, type => do
    if params.isEmpty || arguments.isEmpty then return type
    match params.idxOf? type with
    | some index => return arguments[index]?.getD type
    | none =>
      let renewed (data : TypeEntry) : StateM Draft TypeId := do
        if (← get).table.get? type == some data then return type else Draft.push data
      match (← get).table.get? type with
      | some (.reference target inner) =>
        let types ← inner.mapM (substitute params arguments budget)
        renewed (.reference target types)
      | some (.union members) =>
        let types ← members.mapM (substitute params arguments budget)
        renewed (.union types)
      | some (.intersection members) =>
        let types ← members.mapM (substitute params arguments budget)
        renewed (.intersection types)
      | some (.array element) =>
        let inner ← substitute params arguments budget element
        renewed (.array inner)
      | some (.function result) =>
        let inner ← substitute params arguments budget result
        renewed (.function inner)
      | _ => return type

namespace Background

variable (background : Background) (ask : Question n)

/-! ### Members -/

/-- The type of a member as a value, from its own type or from what it returns. -/
def valueOfMember (budget : Nat) (kind : MemberKind) (type : TypeId) : n TypeId := do
  background.settle ask budget type
  match kind with
  | .property => return type
  | .method => Draft.push (.function type)

/-- The type of a member of a class or interface with arguments: its own member, or else that of the
first supertype which has one. `memberOf` answers for the supertypes. -/
def memberOfDeclared (budget : Nat) (memberOf : TypeId → n (Option TypeId))
    (declaration : NominalType) (arguments : List TypeId) (name : String) :
    n (Option TypeId) :=
  match declaration.members.find? (·.name == name) with
  | some member => do
    background.settle ask budget member.type
    let type ← substitute declaration.params arguments budget member.type
    let value ← background.valueOfMember ask budget member.kind type
    return some value
  | none =>
    declaration.supertypes.findSomeM? fun supertype => do
      let type ← substitute declaration.params arguments budget supertype
      memberOf type

/-- The type of a member of a type. -/
def typeOfMember (name : String) : Nat → TypeId → n (Option TypeId)
  | 0, _ => return none
  | budget + 1, object => do
    let shape ← background.shapeOf ask (budget + 1) object
    match (← get).table.get? shape with
    | some (.declared declaration) =>
      background.memberOfDeclared ask (budget + 1) (typeOfMember name budget) declaration [] name
    | some (.reference target arguments) =>
      let base ← background.shapeOf ask (budget + 1) target
      match (← get).table.get? base with
      | some (.declared declaration) =>
        background.memberOfDeclared ask (budget + 1) (typeOfMember name budget) declaration
          arguments name
      | some _ => typeOfMember name budget base
      | none => return none
    | some (.object members) =>
      match members.find? (·.name == name) with
      | some member =>
        let value ← background.valueOfMember ask (budget + 1) member.kind member.type
        return some value
      | none => return none
    | some (.union members) =>
      let types ← members.filterMapM (typeOfMember name budget)
      joinTypes types
    | some (.intersection members) => members.findSomeM? (typeOfMember name budget)
    | some (.array _) | some (.tuple _) =>
      return if name == "length" then some .number else none
    | _ => return none

/-! ### Promises and absent values -/

/-- What a promise holds; any other type is what it is. -/
def awaitedType (budget : Nat) (type : TypeId) : n TypeId := do
  let shape ← background.shapeOf ask budget type
  let table := (← get).table
  match table.get? shape with
  | some (.reference target arguments) =>
    match table.get? target with
    | some (.declared declaration) =>
      return if declaration.name == "Promise" then arguments.head?.getD .unknown else type
    | _ => return type
  | _ => return type

/-- A union without those members that stand for the absence of a value; any other type is what it
is. -/
def presentPart (budget : Nat) (type : TypeId) : n TypeId := do
  let shape ← background.shapeOf ask budget type
  let table := (← get).table
  match table.get? shape with
  | some (.union members) =>
    let union? ← joinTypes (members.filter fun member => !table.isNullish member)
    return union?.getD .never
  | _ => return type

/-! ### Calls -/

/-- What calling a value of a type returns, and what is kept after that. A union returns what its
members return. -/
def resultOfCall {σ : Type} [MonadStateOf Draft (StateT σ Option)] (background : Background)
    (ask : Question (StateT σ Option)) (budget : Nat) (callee : TypeId) (kept : σ) :
    Option (Option TypeId × σ) :=
  let result : StateT σ Option (Option TypeId) := do
    let shape ← background.shapeOf ask budget callee
    match (← getThe Draft).table.get? shape with
    | some (.function result) =>
      background.settle ask budget result
      return some result
    | some (.union members) =>
      let results ← members.mapM (background |>.resultOfCall ask (budget - 1))
      joinTypes (results.filterMap id)
    | _ => return none
  result.run kept
partial_fixpoint

end Background

end StreamLint
