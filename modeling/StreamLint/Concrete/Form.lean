import StreamLint.Concrete.Tree
import StreamLint.Json.Value
/-!
# Concrete trees as JSON

A concrete tree is handed over as the JSON list of its nodes in pre-order. A node is itself a list:
its depth, its kind, its flags as a sum of powers of two, the bytes where it begins and ends and,
where it has one, its field. Lines and columns are not handed over; they follow from the text.

* `StreamLint.Concrete.Row.ofJson?` – a node of such a list;
* `StreamLint.Concrete.Document.ofRows` – the document of a text and the nodes of its tree.
-/

namespace StreamLint

namespace Concrete

namespace Row

/-- Whether the flags hold the one with a given weight. -/
def hasFlag (weight flags : Nat) : Bool :=
  flags / weight % 2 == 1

/-- The node with given depth, kind, flags, ends and field in a text whose bytes have these
places. -/
def ofParts (places : Array Position) (depth : Nat) (kind : String) (flags startByte endByte : Nat)
    (field : Option String) : Row where
  depth := depth
  mark := {
    kind, field
    isNamed := hasFlag 1 flags
    isError := hasFlag 2 flags
    isMissing := hasFlag 4 flags
    hasError := hasFlag 8 flags
    span := ⟨startByte, endByte, (places[startByte]?).getD default,
      (places[endByte]?).getD default⟩ }

/-- A node as it is handed over. -/
def ofJson? (places : Array Position) : Json → Option Row
  | .array (.number (.integer depth) :: .string kind :: .number (.integer flags) ::
      .number (.integer startByte) :: .number (.integer endByte) :: rest) =>
    let field := match rest with
      | .string field :: _ => some field
      | _ => none
    some (ofParts places depth.toNat kind flags.toNat startByte.toNat endByte.toNat field)
  | _ => none

/-- The nodes of the tree of a text as they are handed over; what is no node is left out. -/
def listOfJson (text : String) : Json → List Row
  | .array items => items.filterMap (ofJson? (positions text))
  | _ => []

end Row

/-- The document of a text and the nodes of its tree. Without nodes the tree is an empty one. -/
def Document.ofRows (text : String) (dialect : Dialect) (rows : List Row) : Document where
  text := text
  dialect := dialect
  root :=
    match forest rows with
    | (_, root) :: _ => root
    | [] => default

end Concrete

end StreamLint
