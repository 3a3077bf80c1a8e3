/-!
# JSON values

The values that settings hold and that reports are written as. Whole numbers of 64 bits are kept
exactly, all other numbers as doubles. The fields of an object have an order: values that were read
have theirs in ascending order of the keys, values that are built for writing in the order in which
they are to be written.
-/

namespace StreamLint

/-- A number in a JSON text. -/
inductive Json.Number where
  /-- A whole number, at least `-2 ^ 63` and less than `2 ^ 64`. -/
  | integer (value : Int)
  /-- Any other number. -/
  | float (value : Float)
  deriving Repr, Inhabited

/-- A JSON value. -/
inductive Json where
  /-- The word `null`. -/
  | null
  /-- One of the words `true` and `false`. -/
  | bool (value : Bool)
  /-- A number. -/
  | number (value : Json.Number)
  /-- A string. -/
  | string (value : String)
  /-- A list of values. -/
  | array (items : List Json)
  /-- Values under keys. -/
  | object (fields : List (String × Json))
  deriving Repr, Inhabited

namespace Json

/-- A whole number as a value. -/
def ofInt (n : Int) : Json :=
  .number (.integer n)

/-- A count as a value. -/
def ofNat (n : Nat) : Json :=
  ofInt n

/-- The value if there is one, and `null` otherwise. -/
def ofOption {α : Type} (encode : α → Json) : Option α → Json
  | some a => encode a
  | none => null

/-- The value under `key`, the last one where a key is repeated. -/
def get? : Json → String → Option Json
  | object fields, key => (fields.reverse.find? (·.1 == key)).map (·.2)
  | _, _ => none

/-- What kind of value this is, with its article. -/
def kindName : Json → String
  | null => "null"
  | bool _ => "a boolean"
  | number _ => "a number"
  | string _ => "a string"
  | array _ => "an array"
  | object _ => "an object"

/-- Puts a value under a key into fields that are in ascending order of their keys; a value that is
there already under that key is replaced. -/
def insertField {α : Type} (key : String) (value : α) : List (String × α) → List (String × α)
  | [] => [(key, value)]
  | (k, v) :: rest =>
    if key == k then (key, value) :: rest
    else if key < k then (key, value) :: (k, v) :: rest
    else (k, v) :: insertField key value rest

end Json

end StreamLint
