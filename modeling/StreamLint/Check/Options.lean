import StreamLint.Check.Profile
import StreamLint.Check.Problem
/-!
# Options records

The options of a check are a record with some of the keys that the check declares. `null` is an
empty record. If several keys are unknown, the first of them in ascending order is named.
-/

namespace StreamLint

/-- The smallest of the keys. -/
def firstKey? : List String → Option String
  | [] => none
  | key :: rest =>
    match firstKey? rest with
    | some other => if other < key then some other else some key
    | none => some key

namespace CheckProfile

/-- The options record of a check. -/
def optionsRecord (profile : CheckProfile) (options : Json) :
    Except ConfigError (List (String × Json)) :=
  match options with
  | .null => .ok []
  | .object fields =>
    match firstKey? ((fields.map (·.1)).filter fun key => (profile.option? key).isNone) with
    | some unknown => .error (.invalidOption profile.id s!"unknown option `{unknown}`")
    | none => .ok fields
  | other =>
    .error (.invalidOption profile.id s!"expected an object, found {other.kindName}")

/-- An option that is a string if it is given. -/
def textOption? (profile : CheckProfile) (fields : List (String × Json)) (name : String) :
    Except ConfigError (Option String) :=
  match (Json.object fields).get? name with
  | none | some .null => .ok none
  | some (.string value) => .ok (some value)
  | some other =>
    .error (.invalidOption profile.id
      s!"option `{name}` must be a string, found {other.kindName}")

end CheckProfile

end StreamLint
