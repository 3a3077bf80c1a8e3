import StreamLint.Oracle.Observable
/-!
# Reference types

A type is a reference type if its values are objects. A union is one if some member does not stand
for the absence of a value and every such member is a reference type; an intersection is one if any
member is. The walk gives up after a number of steps, and what it gives up on is no reference type.
-/

namespace StreamLint

namespace TypeTable

/-- Whether a type is a reference type, as far as that many steps show. -/
def referenceWithin (table : TypeTable) : Nat → Instantiation → TypeId → Bool
  | 0, _, _ => false
  | steps + 1, instantiation, type =>
    match table.get? type with
    | some (.declared _) | some (.array _) | some (.tuple _) | some (.function _)
    | some (.object _) | some (.foreign _ _) => true
    | some (.reference target arguments) =>
      match table.get? target with
      | some (.alias _ _ aliased) =>
        let inner := Instantiation.ofReference table target arguments instantiation
        referenceWithin table steps inner aliased
      | _ => true
    | some (.alias _ _ target) => referenceWithin table steps instantiation target
    | some (.union members) =>
      let present := members.filter fun member => !table.isNullish member
      !present.isEmpty && present.all (referenceWithin table steps instantiation)
    | some (.intersection members) => members.any (referenceWithin table steps instantiation)
    | some (.parameter _ bound) =>
      match instantiation.argument? type, bound with
      | some argument, _ => referenceWithin table steps [] argument
      | none, some bound => referenceWithin table steps instantiation bound
      | none, none => false
    | _ => false

/-- Whether a type is a reference type, as far as types that are at most `maxDepth` steps away
show. -/
def isReference (table : TypeTable) (maxDepth : Nat) (type : TypeId) : Bool :=
  table.referenceWithin (maxDepth + 1) [] type

end TypeTable

end StreamLint
