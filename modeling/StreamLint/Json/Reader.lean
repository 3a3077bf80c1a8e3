import StreamLint.Json.Token
/-!
# Reading JSON as a given type

A text is read for a type: a whole number, a string, a list of something, a record. The reading
goes from left to right and stops at the first fault, so a value that does not fit is reported even
where the text after it is no JSON at all.

A reader is given the number of brackets that may still be opened inside one another. Records are
read from objects, whose fields may come in any order, or from arrays that hold the fields in their
order.

* `StreamLint.Json.Reader` – readers of a type, with the readers of numbers, strings and lists;
* `StreamLint.Json.Reader.value` – the reader of any value;
* `StreamLint.Json.Reader.record` – the reader of a record from the readers of its fields;
* `StreamLint.Json.Reader.run` – reading a whole text.
-/

namespace StreamLint

namespace Json

/-- A reader of values of a type. It is given how many brackets may still be opened inside one
another, and the text. -/
def Reader (α : Type) := Nat → List Char → Except ReadError (α × List Char)

/-- How many brackets may be open at once. -/
def nestingLimit : Nat := 127

/-! ### Items and fields -/

/-- Where a list of items stands: at its closing bracket, or at its next item. -/
inductive Place where
  /-- At the closing bracket, which has not been taken. -/
  | closed (text : List Char)
  /-- At an item. -/
  | item (text : List Char)

/-- The next item of an array, past the comma that must stand before all items but the first. -/
def nextItem (first : Bool) (text : List Char) : Except ReadError Place :=
  match skipBlanks text with
  | [] => .error .malformed
  | ']' :: rest => .ok (.closed (']' :: rest))
  | c :: rest =>
    if first then .ok (.item (c :: rest))
    else if c != ',' then .error .malformed
    else
      match skipBlanks rest with
      | [] | ']' :: _ => .error .malformed
      | text => .ok (.item text)

/-- The next key of an object, past the comma that must stand before all keys but the first, and
past its opening quote. -/
def nextKey (first : Bool) (text : List Char) : Except ReadError Place :=
  match skipBlanks text with
  | [] => .error .malformed
  | '\x7d' :: rest => .ok (.closed ('\x7d' :: rest))
  | c :: rest =>
    if first then
      if c == '"' then .ok (.item rest) else .error .malformed
    else if c != ',' then .error .malformed
    else
      match skipBlanks rest with
      | '"' :: rest => .ok (.item rest)
      | _ => .error .malformed

/-- The text after a closing bracket, which must come next. -/
def closeWith (bracket : Char) (text : List Char) : Except ReadError (List Char) :=
  match skipBlanks text with
  | c :: rest => if c == bracket then .ok rest else .error .malformed
  | [] => .error .malformed

/-- The text after a colon, which must come next. -/
def pastColon (text : List Char) : Except ReadError (List Char) :=
  closeWith ':' text

/-- Reads the items of an array up to its closing bracket, at most one for every character of
`bound`; `taken` holds those already read, the last one first. The text itself is bound enough,
since every item takes a character off it. -/
def readItems {α : Type} (item : List Char → Except ReadError (α × List Char)) :
    List Char → Bool → List α → List Char → Except ReadError (List α × List Char)
  | [], _, _, _ => .error .malformed
  | _ :: bound, first, taken, text => do
    match ← nextItem first text with
    | .closed text => return (taken.reverse, text)
    | .item text =>
      let (a, text) ← item text
      readItems item bound false (a :: taken) text

/-- Reads the keys and values of an object up to its closing bracket, at most one for every
character of `bound`, for which the text itself is enough. How a value is read, from the colon on,
may depend on its key and on what was read before it. -/
def readFields {σ : Type} (field : String → σ → List Char → Except ReadError (σ × List Char)) :
    List Char → Bool → σ → List Char → Except ReadError (σ × List Char)
  | [], _, _, _ => .error .malformed
  | _ :: bound, first, state, text => do
    match ← nextKey first text with
    | .closed text => return (state, text)
    | .item text =>
      let (key, text) ← readChars [] text
      let (state, text) ← field key state text
      readFields field bound false state text

/-! ### Any value -/

/-- Reads any value. -/
def readValue : Nat → List Char → Except ReadError (Json × List Char)
  | levels, text =>
    match skipBlanks text with
    | [] => .error .malformed
    | 'n' :: rest => (expectWord ['u', 'l', 'l'] rest).map fun rest => (.null, rest)
    | 't' :: rest => (expectWord ['r', 'u', 'e'] rest).map fun rest => (.bool true, rest)
    | 'f' :: rest => (expectWord ['a', 'l', 's', 'e'] rest).map fun rest => (.bool false, rest)
    | '-' :: rest => (readNumber true rest).map fun (n, rest) => (.number n, rest)
    | '"' :: rest => (readChars [] rest).map fun (s, rest) => (.string s, rest)
    | '[' :: rest =>
      match levels with
      | 0 => .error .malformed
      | levels + 1 => do
        let (items, rest) ← readItems (readValue levels) rest true [] rest
        let rest ← closeWith ']' rest
        return (.array items, rest)
    | '\x7b' :: rest =>
      match levels with
      | 0 => .error .malformed
      | levels + 1 => do
        let field (key : String) (fields : List (String × Json)) (text : List Char) :
            Except ReadError (List (String × Json) × List Char) := do
          let text ← pastColon text
          let (value, text) ← readValue levels text
          return (insertField key value fields, text)
        let (fields, rest) ← readFields field rest true [] rest
        let rest ← closeWith '\x7d' rest
        return (.object fields, rest)
    | c :: rest =>
      if c.isDigit then (readNumber false (c :: rest)).map fun (n, rest) => (.number n, rest)
      else .error .malformed

/-- After a value: closes brackets, of which `brackets` holds those still open, the innermost first,
until another item or field follows, and passes over the key of a field. -/
def closeBrackets : List Char → List Char → Except ReadError (List Char × List Char)
  | [], text => .ok ([], text)
  | bracket :: outer, text =>
    match skipBlanks text with
    | ',' :: rest =>
      if bracket == ']' then .ok (bracket :: outer, rest)
      else
        match skipBlanks rest with
        | '"' :: rest => do
          let rest ← skipChars rest
          let rest ← pastColon rest
          return (bracket :: outer, rest)
        | _ => .error .malformed
    | c :: rest => if c == bracket then closeBrackets outer rest else .error .malformed
    | [] => .error .malformed

/-- Passes over any value, however deep its brackets are; `brackets` holds those that are to be
closed, the innermost first. At most one word is passed for every character of `bound`, for which
the text itself is enough. -/
def skipWords : List Char → List Char → List Char → Except ReadError (List Char)
  | [], _, _ => .error .malformed
  | _ :: bound, brackets, text =>
    let goOn (brackets text : List Char) : Except ReadError (List Char) := do
      let (brackets, text) ← closeBrackets brackets text
      if brackets.isEmpty then return text else skipWords bound brackets text
    match skipBlanks text with
    | [] => .error .malformed
    | 'n' :: rest => do goOn brackets (← expectWord ['u', 'l', 'l'] rest)
    | 't' :: rest => do goOn brackets (← expectWord ['r', 'u', 'e'] rest)
    | 'f' :: rest => do goOn brackets (← expectWord ['a', 'l', 's', 'e'] rest)
    | '-' :: rest => do goOn brackets (← skipNumber rest)
    | '"' :: rest => do goOn brackets (← skipChars rest)
    | '[' :: rest =>
      match skipBlanks rest with
      | ']' :: rest => goOn brackets rest
      | rest => skipWords bound (']' :: brackets) rest
    | '\x7b' :: rest =>
      match skipBlanks rest with
      | '\x7d' :: rest => goOn brackets rest
      | '"' :: rest => do
        let rest ← skipChars rest
        let rest ← pastColon rest
        skipWords bound ('\x7d' :: brackets) rest
      | _ => .error .malformed
    | c :: rest =>
      if c.isDigit then do goOn brackets (← skipNumber (c :: rest)) else .error .malformed

namespace Reader

/-- The reader of any value. -/
def value : Reader Json :=
  readValue

/-- The reader that passes over any value. -/
def skipped : Reader Unit :=
  fun _ text => (skipWords text [] text).map fun rest => ((), rest)

/-! ### Numbers, strings and lists -/

/-- The reader of whole numbers of 64 bits. -/
def whole : Reader Nat := fun _ text => do
  let text := skipBlanks text
  let (n, rest) ← match text with
    | [] => .error .malformed
    | '-' :: rest => readNumber true rest
    | c :: rest =>
      if c.isDigit then readNumber false (c :: rest) else .error (wrongType "usize" text)
  match n with
  | .integer i =>
    if i < 0 then .error (.misfit (.wrongValue n.found "usize")) else return (i.toNat, rest)
  | .float _ => .error (.misfit (.wrongType n.found "usize"))

/-- The reader of strings, which an error message calls `expected`. -/
def stringAs (expected : String) : Reader String := fun _ text =>
  match skipBlanks text with
  | [] => .error .malformed
  | '"' :: rest => readChars [] rest
  | text => .error (wrongType expected text)

/-- The reader of strings. -/
def string : Reader String :=
  stringAs "a string"

/-- The reader of truth values. -/
def boolean : Reader Bool := fun _ text =>
  match skipBlanks text with
  | [] => .error .malformed
  | 't' :: rest => (expectWord ['r', 'u', 'e'] rest).map fun rest => (true, rest)
  | 'f' :: rest => (expectWord ['a', 'l', 's', 'e'] rest).map fun rest => (false, rest)
  | text => .error (wrongType "a boolean" text)

/-- The reader of `null`, or of something else. -/
def optional {α : Type} (inner : Reader α) : Reader (Option α) := fun levels text =>
  match skipBlanks text with
  | [] => .error .malformed
  | 'n' :: rest => (expectWord ['u', 'l', 'l'] rest).map fun rest => (none, rest)
  | text => (inner levels text).map fun (a, rest) => (some a, rest)

/-- The reader of lists. -/
def list {α : Type} (item : Reader α) : Reader (List α) := fun levels text =>
  match skipBlanks text, levels with
  | [], _ => .error .malformed
  | '[' :: _, 0 => .error .malformed
  | '[' :: rest, levels + 1 => do
    let (items, rest) ← readItems (item levels) rest true [] rest
    let rest ← closeWith ']' rest
    return (items, rest)
  | text, _ => .error (wrongType "a sequence" text)

/-- The reader of maps, whose entries are in ascending order of their keys; the last value of a
repeated key counts. -/
def map {α : Type} (item : Reader α) : Reader (List (String × α)) := fun levels text =>
  match skipBlanks text, levels with
  | [], _ => .error .malformed
  | '\x7b' :: _, 0 => .error .malformed
  | '\x7b' :: rest, levels + 1 => do
    let field (key : String) (entries : List (String × α)) (text : List Char) :
        Except ReadError (List (String × α) × List Char) := do
      let text ← pastColon text
      let (a, text) ← item levels text
      return (insertField key a entries, text)
    let (entries, rest) ← readFields field rest true [] rest
    let rest ← closeWith '\x7d' rest
    return (entries, rest)
  | text, _ => .error (wrongType "a map" text)

/-- The reader of a name out of a list. The name may stand alone, or as the only key of an object
with the value `null`. -/
def variant {α : Type} (names : List String) (ofName? : String → Option α) : Reader α :=
  fun levels text =>
    let pick (name : String) : Except ReadError α :=
      match ofName? name with
      | some a => .ok a
      | none => .error (.misfit (.unknownVariant name names))
    match skipBlanks text with
    | '"' :: rest => do
      let (name, rest) ← readChars [] rest
      let a ← pick name
      return (a, rest)
    | '\x7b' :: rest =>
      if levels = 0 then .error .malformed
      else do
        let (name, rest) ← stringAs "variant identifier" 0 rest
        let a ← pick name
        let rest ← pastColon rest
        let rest ← match skipBlanks rest with
          | [] => .error .malformed
          | 'n' :: rest => expectWord ['u', 'l', 'l'] rest
          | text => .error (wrongType "unit" text)
        let rest ← closeWith '\x7d' rest
        return (a, rest)
    | _ => .error .malformed

/-! ### Records -/

/-- A field of a record that is read into a draft. -/
structure Field (σ : Type) where
  /-- The key. -/
  name : String
  /-- Reads the value and says how it changes the draft. -/
  read : Reader (σ → σ)
  /-- Whether the draft has the field already. -/
  isSet : σ → Bool
  /-- Whether the field may not be left out. -/
  required : Bool

/-- Reads the fields of a record from the items of an array. -/
def recordItems {σ : Type} (expected : String) (levels : Nat) :
    List (Field σ) → Nat → σ → List Char → Except ReadError (σ × List Char)
  | [], _, draft, text => .ok (draft, text)
  | field :: fields, index, draft, text => do
    match ← nextItem (index == 0) text with
    | .closed text =>
      if field.required then .error (.misfit (.wrongLength index expected))
      else recordItems expected levels fields (index + 1) draft text
    | .item text =>
      let (change, text) ← field.read levels text
      recordItems expected levels fields (index + 1) (change draft) text

/-- The reader of records named `name`. Fields that the record does not have are an error if it is
`strict` and passed over otherwise; a field that comes twice is an error. -/
def record {σ : Type} (name : String) (strict : Bool) (fields : List (Field σ)) (empty : σ) :
    Reader σ := fun levels text =>
  match skipBlanks text, levels with
  | [], _ => .error .malformed
  | '[' :: _, 0 | '\x7b' :: _, 0 => .error .malformed
  | '[' :: rest, levels + 1 => do
    let count := fields.length
    let plural := if count = 1 then "" else "s"
    let expected := s!"struct {name} with {count} element{plural}"
    let (draft, rest) ← recordItems expected levels fields 0 empty rest
    let rest ← closeWith ']' rest
    return (draft, rest)
  | '\x7b' :: rest, levels + 1 => do
    let readField (key : String) (draft : σ) (text : List Char) :
        Except ReadError (σ × List Char) :=
      match fields.find? (·.name == key) with
      | none =>
        if strict then .error (.misfit (.unknownField key (fields.map (·.name))))
        else do
          let text ← pastColon text
          let (_, text) ← skipped levels text
          return (draft, text)
      | some field =>
        if field.isSet draft then .error (.misfit (.duplicateField key))
        else do
          let text ← pastColon text
          let (change, text) ← field.read levels text
          return (change draft, text)
    let (draft, rest) ← readFields readField rest true empty rest
    match fields.find? fun field => field.required && !field.isSet draft with
    | some field => .error (.misfit (.missingField field.name))
    | none =>
      let rest ← closeWith '\x7d' rest
      return (draft, rest)
  | text, _ => .error (wrongType s!"struct {name}" text)

/-! ### Whole texts -/

/-- Reads a whole text: nothing but blanks may follow the value. -/
def run {α : Type} (reader : Reader α) (text : String) : Except ReadError α := do
  let (a, rest) ← reader nestingLimit text.toList
  if (skipBlanks rest).isEmpty then return a else .error .malformed

end Reader

/-- Reads a whole text as a value. -/
def parse (text : String) : Except ReadError Json :=
  Reader.value.run text

end Json

end StreamLint
