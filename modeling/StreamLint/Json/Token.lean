import StreamLint.Json.Value
import StreamLint.Text.Decimal
import StreamLint.Text.Quoted
/-!
# The words of a JSON text

Blanks, strings and numbers, read off the front of a list of characters. A reader is either content,
and says what is left, or finds that the text is no JSON (`StreamLint.Json.ReadError.malformed`), or
that it is JSON so far but not of the type asked for (`StreamLint.Json.ReadError.misfit`).

A number whose digits do not fit 64 bits keeps the digits that do and counts the others in its
exponent; its double is then computed by multiplying or dividing once by a power of ten, which is
exact for all numbers of moderate size.
-/

namespace StreamLint

namespace Json

/-- How well-formed JSON fails to be of the type asked for. -/
inductive Misfit where
  /-- A value of another kind. -/
  | wrongType (found expected : String)
  /-- A value of the right kind that is out of range. -/
  | wrongValue (found expected : String)
  /-- A field that the record does not have. -/
  | unknownField (name : String) (known : List String)
  /-- A name that is none of those allowed. -/
  | unknownVariant (name : String) (known : List String)
  /-- A field that is not there. -/
  | missingField (name : String)
  /-- A field that is there twice. -/
  | duplicateField (name : String)
  /-- An array that is too short for the record it stands for. -/
  | wrongLength (length : Nat) (expected : String)
  deriving DecidableEq, Repr, Inhabited

/-- The names allowed, as an error message lists them. -/
def listNames (names : List String) : String :=
  match names.map fun name => s!"`{name}`" with
  | [] => "there are no fields"
  | [a] => s!"expected {a}"
  | [a, b] => s!"expected {a} or {b}"
  | many => "expected one of " ++ ", ".intercalate many

/-- The misfit in words. -/
def Misfit.message : Misfit → String
  | wrongType found expected => s!"invalid type: {found}, expected {expected}"
  | wrongValue found expected => s!"invalid value: {found}, expected {expected}"
  | unknownField name known => s!"unknown field `{name}`, {listNames known}"
  | unknownVariant name known => s!"unknown variant `{name}`, {listNames known}"
  | missingField name => s!"missing field `{name}`"
  | duplicateField name => s!"duplicate field `{name}`"
  | wrongLength length expected => s!"invalid length {length}, expected {expected}"

/-- Why a text could not be read. -/
inductive ReadError where
  /-- The text is no JSON, or ends early. -/
  | malformed
  /-- The text is JSON so far, but does not fit the type asked for. -/
  | misfit (why : Misfit)
  deriving DecidableEq, Repr, Inhabited

/-! ### Blanks and words -/

/-- The four characters that may stand between the words of a text. -/
def isJsonBlank (c : Char) : Bool :=
  c == ' ' || c == '\n' || c == '\t' || c == '\r'

/-- The text without the blanks at its front. -/
def skipBlanks (text : List Char) : List Char :=
  text.dropWhile isJsonBlank

/-- The text after `word`, which must stand at its front. -/
def expectWord : List Char → List Char → Except ReadError (List Char)
  | [], text => .ok text
  | c :: word, d :: text => if c == d then expectWord word text else .error .malformed
  | _ :: _, [] => .error .malformed

/-! ### Strings -/

/-- The value of a hexadecimal digit. -/
def hexValue? (c : Char) : Option Nat :=
  if c.isDigit then some (c.toNat - '0'.toNat)
  else if 'a' ≤ c && c ≤ 'f' then some (c.toNat - 'a'.toNat + 10)
  else if 'A' ≤ c && c ≤ 'F' then some (c.toNat - 'A'.toNat + 10)
  else none

/-- The value of four hexadecimal digits. -/
def hexUnit? (a b c d : Char) : Option Nat := do
  let a ← hexValue? a
  let b ← hexValue? b
  let c ← hexValue? c
  let d ← hexValue? d
  return ((a * 16 + b) * 16 + c) * 16 + d

/-- The character that a one-letter escape stands for. -/
def escaped? : Char → Option Char
  | '"' => some '"'
  | '\\' => some '\\'
  | '/' => some '/'
  | 'b' => some '\x08'
  | 'f' => some '\x0c'
  | 'n' => some '\n'
  | 'r' => some '\r'
  | 't' => some '\t'
  | _ => none

/-- Reads a string whose opening quote has been taken; `taken` holds its characters so far, the last
one first. Two escaped halves of a surrogate pair make one character; a half on its own is an
error. -/
def readChars (taken : List Char) : List Char → Except ReadError (String × List Char)
  | '"' :: rest => .ok (String.ofList taken.reverse, rest)
  | '\\' :: 'u' :: a :: b :: c :: d :: rest =>
    match hexUnit? a b c d with
    | none => .error .malformed
    | some unit =>
      if unit < 0xD800 || 0xE000 ≤ unit then readChars (Char.ofNat unit :: taken) rest
      else if 0xDC00 ≤ unit then .error .malformed
      else
        match rest with
        | '\\' :: 'u' :: e :: f :: g :: h :: rest =>
          match hexUnit? e f g h with
          | some low =>
            if 0xDC00 ≤ low && low < 0xE000 then
              readChars (Char.ofNat (0x10000 + (unit - 0xD800) * 0x400 + (low - 0xDC00)) :: taken)
                rest
            else .error .malformed
          | none => .error .malformed
        | _ => .error .malformed
  | '\\' :: c :: rest =>
    match escaped? c with
    | some character => readChars (character :: taken) rest
    | none => .error .malformed
  | c :: rest =>
    if c.toNat < 32 || c == '\\' then .error .malformed else readChars (c :: taken) rest
  | [] => .error .malformed

/-- Passes over a string whose opening quote has been taken. Halves of surrogate pairs are not
paired up. -/
def skipChars : List Char → Except ReadError (List Char)
  | '"' :: rest => .ok rest
  | '\\' :: 'u' :: a :: b :: c :: d :: rest =>
    if (hexUnit? a b c d).isSome then skipChars rest else .error .malformed
  | '\\' :: c :: rest => if (escaped? c).isSome then skipChars rest else .error .malformed
  | c :: rest => if c.toNat < 32 || c == '\\' then .error .malformed else skipChars rest
  | [] => .error .malformed

/-! ### Numbers -/

/-- The largest whole number of 64 bits. -/
def maxWhole : Nat := 18446744073709551615

/-- Adds the leading digits to a number while it fits 64 bits, and says how many digits were
added. -/
def takeDigits (sum count : Nat) : List Char → Nat × Nat × List Char
  | c :: rest =>
    if c.isDigit && sum * 10 + (c.toNat - '0'.toNat) ≤ maxWhole then
      takeDigits (sum * 10 + (c.toNat - '0'.toNat)) (count + 1) rest
    else (sum, count, c :: rest)
  | [] => (sum, count, [])

/-- `x` times a power of ten, in steps that a double can hold; an error when the result is too
large. -/
def scaleFloat : Nat → Float → Int → Except ReadError Float
  | 0, _, _ => .ok 0.0
  | steps + 1, x, exponent =>
    if exponent.natAbs ≤ 308 then
      let power := Float.ofScientific 1 false exponent.natAbs
      if 0 ≤ exponent then
        let scaled := x * power
        if scaled.isInf then .error .malformed else .ok scaled
      else .ok (x / power)
    else if x == 0.0 then .ok x
    else if 0 ≤ exponent then .error .malformed
    else scaleFloat steps (x / Float.ofScientific 1 false 308) (exponent + 308)

/-- The double with the given digits and exponent. -/
def floatOfParts (negative : Bool) (digits : Nat) (exponent : Int) : Except ReadError Float :=
  (scaleFloat 4 digits.toUInt64.toFloat exponent).map fun x => if negative then -x else x

/-- The largest exponent that is read digit by digit. -/
def maxExponent : Nat := 2147483647

/-- Reads what follows the `e` of a number whose digits before it are known. -/
def readExponent (negative : Bool) (digits : Nat) (exponent : Int) (text : List Char) :
    Except ReadError (Number × List Char) :=
  let (down, text) := match text with
    | '+' :: rest => (false, rest)
    | '-' :: rest => (true, rest)
    | text => (false, text)
  match text.takeWhile Char.isDigit with
  | [] => .error .malformed
  | written =>
    let rest := text.dropWhile Char.isDigit
    let power := written.foldl (fun n c => 10 * n + (c.toNat - '0'.toNat)) 0
    if maxExponent < power then
      if digits = 0 || down then .ok (.float (if negative then -0.0 else 0.0), rest)
      else .error .malformed
    else do
      let x ← floatOfParts negative digits (if down then exponent - power else exponent + power)
      return (.float x, rest)

/-- Reads an exponent if there is one. -/
def readTail (negative : Bool) (digits : Nat) (exponent : Int) (text : List Char) :
    Except ReadError (Number × List Char) :=
  match text with
  | 'e' :: rest | 'E' :: rest => readExponent negative digits exponent rest
  | rest => do
    let x ← floatOfParts negative digits exponent
    return (.float x, rest)

/-- Reads what follows the point of a number. -/
def readFraction (negative : Bool) (digits : Nat) (exponent : Int) (text : List Char) :
    Except ReadError (Number × List Char) :=
  let (digits, count, rest) := takeDigits digits 0 text
  let excess := rest.dropWhile Char.isDigit
  if count = 0 && excess.length = rest.length then .error .malformed
  else readTail negative digits (exponent - count) excess

/-- Reads a number whose sign has been taken. -/
def readNumber (negative : Bool) (text : List Char) : Except ReadError (Number × List Char) :=
  match text with
  | [] => .error .malformed
  | first :: after =>
    if !first.isDigit then .error .malformed
    else if first == '0' && (after.head?.map Char.isDigit).getD false then .error .malformed
    else
      let (digits, _, rest) := takeDigits 0 0 text
      let excess := rest.takeWhile Char.isDigit
      match rest.dropWhile Char.isDigit with
      | '.' :: rest => readFraction negative digits excess.length rest
      | 'e' :: rest | 'E' :: rest => readExponent negative digits excess.length rest
      | rest =>
        if !excess.isEmpty then readTail negative digits excess.length rest
        else if !negative then .ok (.integer digits, rest)
        else if digits = 0 || 9223372036854775808 < digits then
          .ok (.float (-digits.toUInt64.toFloat), rest)
        else .ok (.integer (-digits), rest)

/-- Passes over a number whose sign has been taken, whatever its size. -/
def skipNumber (text : List Char) : Except ReadError (List Char) :=
  match text with
  | [] => .error .malformed
  | first :: after =>
    if !first.isDigit then .error .malformed
    else if first == '0' && (after.head?.map Char.isDigit).getD false then .error .malformed
    else do
      let rest := text.dropWhile Char.isDigit
      let rest ← match rest with
        | '.' :: fraction =>
          match fraction.head?.map Char.isDigit with
          | some true => .ok (fraction.dropWhile Char.isDigit)
          | _ => .error .malformed
        | rest => .ok rest
      match rest with
      | 'e' :: power | 'E' :: power =>
        let power := match power with
          | '+' :: power => power
          | '-' :: power => power
          | power => power
        match power.head?.map Char.isDigit with
        | some true => .ok (power.dropWhile Char.isDigit)
        | _ => .error .malformed
      | rest => .ok rest

/-! ### What was found -/

/-- A number as an error message names it. -/
def Number.found : Number → String
  | .integer n => s!"integer `{n}`"
  | .float x => s!"floating point `{floatText x}`"

/-- The error for a text whose next value is not of the type `expected`. Words, numbers and strings
are read to their end, so that a malformed one is the error instead. -/
def wrongType (expected : String) (text : List Char) : ReadError :=
  let found (result : Except ReadError String) : ReadError :=
    match result with
    | .ok found => .misfit (.wrongType found expected)
    | .error error => error
  match text with
  | 'n' :: rest => found ((expectWord ['u', 'l', 'l'] rest).map fun _ => "null")
  | 't' :: rest => found ((expectWord ['r', 'u', 'e'] rest).map fun _ => "boolean `true`")
  | 'f' :: rest => found ((expectWord ['a', 'l', 's', 'e'] rest).map fun _ => "boolean `false`")
  | '-' :: rest => found ((readNumber true rest).map fun (n, _) => n.found)
  | '"' :: rest => found ((readChars [] rest).map fun (s, _) => s!"string {quoted s}")
  | '[' :: _ => .misfit (.wrongType "sequence" expected)
  | '\x7b' :: _ => .misfit (.wrongType "map" expected)
  | c :: rest =>
    if c.isDigit then found ((readNumber false (c :: rest)).map fun (n, _) => n.found)
    else .malformed
  | [] => .malformed

end Json

end StreamLint
