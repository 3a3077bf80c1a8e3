import StreamLint.Model.Basic
/-!
# Types that could be observable

A type could be observable if one of the types that it is made of has the name of a known stream
type or a method `subscribe`. The walk follows aliases, references, supertypes, unions,
intersections and the bounds of generic parameters, and gives up after a number of steps. Inside a
generic declaration a generic parameter stands for the argument it was given.
-/

namespace StreamLint

/-! ### Instantiations -/

/-- What generic parameters stand for; the first entry of a parameter counts. -/
abbrev Instantiation := List (TypeId × TypeId)

namespace Instantiation

/-- What a generic parameter stands for, if anything. -/
def argument? (instantiation : Instantiation) (param : TypeId) : Option TypeId :=
  (instantiation.find? (·.1 == param)).map (·.2)

/-- The instantiation of a declaration or alias with arguments, written inside of `outer`. An
argument that is a parameter of `outer` is replaced by what it stands for there. -/
def ofReference (table : TypeTable) (target : TypeId) (arguments : List TypeId)
    (outer : Instantiation) : Instantiation :=
  let params := match table.get? target with
    | some (.declared declaration) => declaration.params
    | some (.alias _ params _) => params
    | _ => []
  params.zip (arguments.map fun argument => (outer.argument? argument).getD argument)

end Instantiation

/-! ### Witnesses -/

/-- The names of the stream types. -/
def observableNames : List String :=
  ["Observable", "Subject", "BehaviorSubject", "ReplaySubject", "AsyncSubject",
    "ConnectableObservable", "GroupedObservable"]

/-- Whether a name is that of a stream type. -/
def isStreamName (name : String) : Bool :=
  observableNames.contains name

/-- Whether there is a method `subscribe`. -/
def hasSubscribe (members : List (Member TypeId)) : Bool :=
  members.any fun member => member.name == "subscribe" && member.kind == .method

/-- Whether a declaration is a stream type by itself, without its supertypes. -/
def NominalType.isObservable (declaration : NominalType) : Bool :=
  isStreamName declaration.name || hasSubscribe declaration.members

/-! ### The walk -/

/-- Whether a declaration or one of its supertypes could be observable. -/
def NominalType.mayBeObservable (visit : TypeId → Bool) (declaration : NominalType) : Bool :=
  declaration.isObservable || declaration.supertypes.any visit

/-- Whether a type could be observable, as far as that many steps show. Where no parameter is
instantiated an answer that is `known` is taken. -/
def TypeTable.observableWithin (table : TypeTable) (known : TypeId → Option Bool) :
    Nat → Instantiation → TypeId → Bool
  | 0, _, _ => false
  | steps + 1, instantiation, type =>
    match if instantiation.isEmpty then known type else none with
    | some answer => answer
    | none =>
      match table.get? type with
      | some (.declared declaration) =>
        declaration.mayBeObservable (observableWithin table known steps [])
      | some (.foreign name _) => isStreamName name
      | some (.reference target arguments) =>
        let inner := Instantiation.ofReference table target arguments instantiation
        match table.get? target with
        | some (.declared declaration) =>
          declaration.mayBeObservable (observableWithin table known steps inner)
        | some (.alias _ _ aliased) => observableWithin table known steps inner aliased
        | _ => observableWithin table known steps instantiation target
      | some (.alias _ _ target) => observableWithin table known steps instantiation target
      | some (.union members) | some (.intersection members) =>
        members.any (observableWithin table known steps instantiation)
      | some (.object members) => hasSubscribe members
      | some (.parameter _ bound) =>
        match instantiation.argument? type, bound with
        | some argument, _ => observableWithin table known steps [] argument
        | none, some bound => observableWithin table known steps instantiation bound
        | none, none => false
      | _ => false

/-- Whether a type could be observable, as far as types that are at most `maxDepth` steps away
show. -/
def TypeTable.mayBeObservable (table : TypeTable) (maxDepth : Nat) (type : TypeId) : Bool :=
  table.observableWithin (fun _ => none) (maxDepth + 1) [] type

end StreamLint
