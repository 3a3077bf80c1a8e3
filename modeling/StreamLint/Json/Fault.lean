import StreamLint.Json.Reader
import StreamLint.Text.Span
/-!
# Faults of JSON texts in words

Reading goes from left to right and stops at the first fault. So a misfit stands at the end of the
shortest beginning of the text that has it, and a text that ends early is told by the bracket or
quote that is still open at its end.
-/

namespace StreamLint

namespace Json

/-- The place of the end of a text: its line from one, and the bytes since the start of the line. -/
def endPlace (text : String) : String :=
  let place := ((positions text).back?).getD default
  s!" at line {place.line + 1} column {place.column}"

/-- The shortest beginning of a text with a certain misfit, tried from `count` characters on. -/
def beginningWith {α : Type} (reader : Reader α) (why : Misfit) (text : List Char) :
    Nat → Nat → String
  | 0, _ => String.ofList text
  | steps + 1, count =>
    let front := String.ofList (text.take count)
    match reader.run front with
    | .error (.misfit other) =>
      if other = why then front else beginningWith reader why text steps (count + 1)
    | _ => beginningWith reader why text steps (count + 1)

/-- What can stand open in a text. -/
inductive Opening where
  | string | list | object
  deriving DecidableEq, Repr

/-- What is open at the end of a text, the innermost first, if `outer` is open at its beginning. -/
def openAtEnd : List Opening → List Char → List Opening
  | outer, [] => outer
  | .string :: outer, '\\' :: _ :: rest => openAtEnd (.string :: outer) rest
  | .string :: outer, c :: rest => openAtEnd (if c == '"' then outer else .string :: outer) rest
  | outer, c :: rest =>
    match c with
    | '"' => openAtEnd (.string :: outer) rest
    | '[' => openAtEnd (.list :: outer) rest
    | '\x7b' => openAtEnd (.object :: outer) rest
    | ']' | '\x7d' => openAtEnd (outer.drop 1) rest
    | _ => openAtEnd outer rest

/-- What a text was about to hold when it ended. -/
def earlyEnd (text : List Char) : String :=
  match openAtEnd [] text with
  | .string :: _ => "EOF while parsing a string"
  | .list :: _ => "EOF while parsing a list"
  | .object :: _ => "EOF while parsing an object"
  | [] => if (skipBlanks text).isEmpty then "EOF while parsing a value" else "expected value"

/-- The error of a reader in words, with its place. -/
def ReadError.describe {α : Type} (reader : Reader α) (text : String) : ReadError → String
  | malformed => earlyEnd text.toList ++ endPlace text
  | misfit why =>
    why.message ++ endPlace (beginningWith reader why text.toList (text.toList.length + 1) 0)

end Json

end StreamLint
