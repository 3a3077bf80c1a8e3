import StreamLint.Json.Value
import StreamLint.Text.Decimal
/-!
# Writing JSON

A value is written either on one line without blanks, `StreamLint.Json.compress`, or with every
item and field on a line of its own, two blanks deeper than the bracket that holds it,
`StreamLint.Json.pretty`. An empty array or object is written as its two brackets. In strings the
quote, the backslash and the control characters are escaped and nothing else.
-/

namespace StreamLint

namespace Json

/-- The four hexadecimal digits of a code point below 256. -/
private def escapeDigits (n : Nat) : String :=
  let digits := Nat.toDigits 16 n
  String.ofList (List.replicate (4 - digits.length) '0' ++ digits)

/-- One character as it stands in a JSON string. -/
def escapeChar (c : Char) : String :=
  match c with
  | '"' => "\\\""
  | '\\' => "\\\\"
  | '\n' => "\\n"
  | '\r' => "\\r"
  | '\t' => "\\t"
  | '\x08' => "\\b"
  | '\x0c' => "\\f"
  | c => if c.toNat < 32 then "\\u" ++ escapeDigits c.toNat else c.toString

/-- A string with its quotes. -/
def escapeString (text : String) : String :=
  "\"" ++ text.foldl (fun acc c => acc ++ escapeChar c) "" ++ "\""

/-- The text of a number. -/
def Number.text : Number → String
  | .integer n => toString n
  | .float x => floatText x

mutual

/-- A value on one line. -/
def compress : Json → String
  | null => "null"
  | bool true => "true"
  | bool false => "false"
  | number n => n.text
  | string s => escapeString s
  | array items => "[" ++ compressItems items ++ "]"
  | object fields => "\x7b" ++ compressFields fields ++ "\x7d"

/-- The items of an array, separated by commas. -/
def compressItems : List Json → String
  | [] => ""
  | [item] => compress item
  | item :: rest => compress item ++ "," ++ compressItems rest

/-- The fields of an object, separated by commas. -/
def compressFields : List (String × Json) → String
  | [] => ""
  | [(key, value)] => escapeString key ++ ":" ++ compress value
  | (key, value) :: rest =>
    escapeString key ++ ":" ++ compress value ++ "," ++ compressFields rest

end

/-- The start of a line at a given depth. -/
def newLine (depth : Nat) : String :=
  "\n" ++ String.ofList (List.replicate (2 * depth) ' ')

mutual

/-- A value on lines of its own, at a given depth. -/
def prettyAt (depth : Nat) : Json → String
  | null => "null"
  | bool true => "true"
  | bool false => "false"
  | number n => n.text
  | string s => escapeString s
  | array [] => "[]"
  | array (item :: rest) =>
    "[" ++ newLine (depth + 1) ++ prettyAt (depth + 1) item ++ prettyItems (depth + 1) rest
      ++ newLine depth ++ "]"
  | object [] => "\x7b\x7d"
  | object ((key, value) :: rest) =>
    "\x7b" ++ newLine (depth + 1) ++ escapeString key ++ ": " ++ prettyAt (depth + 1) value
      ++ prettyFields (depth + 1) rest ++ newLine depth ++ "\x7d"

/-- The items after the first one, each on a line of its own. -/
def prettyItems (depth : Nat) : List Json → String
  | [] => ""
  | item :: rest => "," ++ newLine depth ++ prettyAt depth item ++ prettyItems depth rest

/-- The fields after the first one, each on a line of its own. -/
def prettyFields (depth : Nat) : List (String × Json) → String
  | [] => ""
  | (key, value) :: rest =>
    "," ++ newLine depth ++ escapeString key ++ ": " ++ prettyAt depth value
      ++ prettyFields depth rest

end

/-- A value over several lines. -/
def pretty (value : Json) : String :=
  prettyAt 0 value

end Json

end StreamLint
