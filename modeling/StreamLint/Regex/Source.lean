import StreamLint.Regex.Basic
import StreamLint.Regex.Property
import StreamLint.Regex.Term
/-!
# Regular expressions as they are written

This is the engine that the program runs with. A regular expression is read from left to right. The
options in force – whether case counts, whether blanks do, and so on – hold up to the end of the
group in which they were set, so each part is turned into a term at once, with the options of its
place. `StreamLint.Regex.ofSource` says what a text means.

Groups and classes may lie in one another at most `StreamLint.Regex.maxNesting` deep, and a term may
take at most `StreamLint.Regex.maxCost` states. Of the properties of characters the engine knows the
general categories, the scripts and a few more.
-/

namespace StreamLint

namespace Regex

/-! ### Reading -/

/-- How deep parts may lie in one another. -/
def maxNesting : Nat := 250

/-- What holds for the rest of a group. -/
structure Options where
  /-- Case does not count. -/
  anyCase : Bool := false
  /-- Assertions about the ends of the text are about the ends of lines. -/
  multiLine : Bool := false
  /-- A dot stands for line ends as well. -/
  dotAll : Bool := false
  /-- Carriage returns end lines. -/
  carriage : Bool := false
  /-- Blanks and comments are left out. -/
  extended : Bool := false
  /-- Classes are about all characters and not about those of ASCII only. -/
  unicode : Bool := true
  deriving DecidableEq, Repr, Inhabited

/-- A place in the text of a regular expression. -/
structure Cursor where
  /-- The text from here on. -/
  rest : List Char
  /-- The options in force. -/
  options : Options := {}
  /-- The names of groups met so far. -/
  names : List String := []

/-- Reading may fail, which gives no result. -/
abbrev Scan := StateT Cursor Option

/-- The text without the blanks and comments in front of it, if they are to be left out. -/
def withoutBlanks (inComment : Bool) : List Char → List Char
  | [] => []
  | c :: rest =>
    if inComment then withoutBlanks (c != '\n') rest
    else if isBlank c then withoutBlanks false rest
    else if c == '#' then withoutBlanks true rest
    else c :: rest

namespace Scan

/-- The rest of the text. -/
def rest : Scan (List Char) :=
  return (← get).rest

/-- The next character. -/
def peek : Scan (Option Char) :=
  return (← get).rest.head?

/-- The options in force. -/
def options : Scan Options :=
  return (← get).options

/-- Goes on to another place. -/
def goTo (rest : List Char) : Scan Unit :=
  modify fun cursor => { cursor with rest }

/-- Skips what is left out here. -/
def skipBlanks : Scan Unit :=
  modify fun cursor =>
    if cursor.options.extended then { cursor with rest := withoutBlanks false cursor.rest }
    else cursor

/-- Skips a character and nothing else. -/
def drop : Scan Unit :=
  modify fun cursor => { cursor with rest := cursor.rest.drop 1 }

/-- Skips a character and what is left out after it. -/
def next : Scan Unit := do
  drop
  skipBlanks

/-- Skips a character, after which the text must go on. -/
def nextOpen : Scan Unit := do
  next
  if (← peek).isNone then failure

/-- Skips a text if it stands here. -/
def dropText? (text : List Char) : Scan Bool := do
  let rest ← rest
  if text.isPrefixOf rest then
    goTo (rest.drop text.length)
    return true
  else return false

/-- Collects the characters up to one that does not fit, and skips what is left out between them. -/
def collect (fits : Char → Bool) : Nat → Scan (List Char)
  | 0 => return []
  | steps + 1 => do
    match ← peek with
    | some c =>
      if fits c then
        next
        let others ← collect fits steps
        return c :: others
      else return []
    | none => return []

/-- Collects as many fitting characters as there are. -/
def collectAll (fits : Char → Bool) : Scan (List Char) := do
  collect fits (← rest).length

end Scan

/-! ### Parts -/

/-- A term with the number of levels that its text has. -/
structure Part where
  /-- The term. -/
  term : Term
  /-- The levels. -/
  levels : Nat
  deriving Inhabited

/-- A set of characters with the number of levels that its text has. -/
structure ClassPart where
  /-- The characters. -/
  chars : CharSet
  /-- The levels. -/
  levels : Nat
  deriving Inhabited

/-- One of the things that follow one another: options for what comes after, or a part. -/
inductive Item where
  /-- A change of options. -/
  | options
  /-- A part. -/
  | part (p : Part)
  deriving Inhabited

/-- What a single character or an escape stands for. -/
inductive Primitive where
  /-- A character. -/
  | literal (c : Char)
  /-- A class. -/
  | chars (s : CharSet)
  /-- An assertion. -/
  | look (l : Look)

/-- One more level, if there may be one. -/
def deeper (levels : Nat) : Scan Nat :=
  if levels + 1 ≤ maxNesting then return levels + 1 else failure

/-- Items one after the other. -/
def sequence (items : List Item) : Scan Part := do
  let parts := items.map fun
    | .options => ⟨.empty, 0⟩
    | .part p => p
  match parts with
  | [] => return ⟨.empty, 0⟩
  | [only] => return only
  | several =>
    let levels ← deeper (several.foldl (fun n p => max n p.levels) 0)
    return ⟨several.foldr (fun p term => p.term.followedBy term) .empty, levels⟩

/-- Several parts of which one has to match. -/
def choice (first : Part) : List Part → Scan Part
  | [] => return first
  | others => do
    let levels ← deeper ((first :: others).foldl (fun n p => max n p.levels) 0)
    return ⟨others.foldl (fun term p => .alt term p.term) first.term, levels⟩

/-- A set that has to be told apart by case or not. -/
def folded (options : Options) (s : CharSet) : CharSet :=
  if !options.anyCase then s
  else if options.unicode then .anyCase s
  else .anyAsciiCase s

/-- A set or what is outside of it. Without all of Unicode the outside would have parts of
characters. -/
def negatedIf (negated : Bool) (s : CharSet) : Scan CharSet := do
  if !negated then return s
  else if (← Scan.options).unicode then return .complement s
  else failure

/-- The term of a character. -/
def literalTerm (c : Char) : Scan Term := do
  let options ← Scan.options
  if !options.unicode && c.toNat ≥ 128 then failure
  return .set (folded options (.single c))

/-! ### Escapes -/

/-- Whether a character is a hexadecimal digit. -/
def isHexDigit (c : Char) : Bool :=
  c.isDigit || ('a' ≤ c && c ≤ 'f') || ('A' ≤ c && c ≤ 'F')

/-- The character with a hexadecimal number, if there is one. -/
def charOfHex (digits : List Char) : Scan Char := do
  let digit (c : Char) : Nat :=
    if c.isDigit then c.toNat - '0'.toNat else c.toLower.toNat - 'a'.toNat + 10
  let n := digits.foldl (fun n c => 16 * n + digit c) 0
  if digits.isEmpty || !digits.all isHexDigit then failure
  else if n < 0xD800 || (0xE000 ≤ n && n < 0x110000) then return Char.ofNat n
  else failure

/-- Takes a number of characters, each followed by what is left out. -/
def takeChars : Nat → Scan (List Char)
  | 0 => return []
  | n + 1 => do
    match ← Scan.peek with
    | some c =>
      Scan.next
      let others ← takeChars n
      return c :: others
    | none => failure

/-- The character of an escape with a number, from the first digit or brace on. -/
def hexEscape (digits : Nat) : Scan Char := do
  if (← Scan.peek) == some '\x7b' then
    Scan.next
    let number ← Scan.collectAll (· != '\x7d')
    if (← Scan.peek).isNone then failure
    Scan.next
    charOfHex number
  else
    charOfHex (← takeChars digits)

/-- The characters of an escape with a property, from the name or brace on. -/
def propertyEscape (negated : Bool) : Scan CharSet := do
  let options ← Scan.options
  if !options.unicode then failure
  let found? ← match ← Scan.peek with
    | some '\x7b' => do
      Scan.next
      let name ← Scan.collectAll (· != '\x7d')
      if (← Scan.peek).isNone then failure
      Scan.drop
      pure (CharProperty.setOfText? name)
    | some '\\' | none => failure
    | some c => do
      Scan.next
      pure (CharProperty.setOfName? (String.singleton c))
  match found? with
  | some s => negatedIf negated (folded options s)
  | none => failure

/-- The characters of ASCII among the words, digits or blanks. -/
def asciiOf : Char → CharSet
  | 'd' => .range '0' '9'
  | 'w' => .ofRanges [('0', '9'), ('A', 'Z'), ('_', '_'), ('a', 'z')]
  | _ => .ofRanges [('\t', '\r'), (' ', ' ')]

/-- The digits, word characters or blanks. -/
def shorthand (letter : Char) : Scan CharSet := do
  let lower := letter.toLower
  let s := if (← Scan.options).unicode then
      match lower with
      | 'd' => CharSet.digit
      | 'w' => .word
      | _ => .property .blank
    else asciiOf lower
  negatedIf (letter != lower) s

/-- Characters that mean something else than themselves. -/
def metaCharacters : List Char :=
  ['\\', '.', '+', '*', '?', '(', ')', '|', '[', ']', '\x7b', '\x7d', '^', '$', '#', '&', '-', '~']

/-- Whether a character stands for itself after a backslash. -/
def standsForItself (c : Char) : Bool :=
  metaCharacters.contains c || (c.toNat < 128 && !c.isAlphanum && c != '<' && c != '>')

/-- The assertion of an escape `\b` with a name in braces, from the brace on; none if the braces
hold something else. -/
def namedBoundary? (ascii : Bool) : Scan (Option Look) := do
  let isNameChar (c : Char) : Bool := c.isAlpha || c == '-'
  let start ← Scan.rest
  Scan.nextOpen
  if !((← Scan.peek).map isNameChar).getD false then
    Scan.goTo start
    return none
  let name ← Scan.collectAll isNameChar
  if (← Scan.peek) != some '\x7d' then failure
  Scan.drop
  match String.ofList name with
  | "start" => return some (.wordStart ascii)
  | "end" => return some (.wordEnd ascii)
  | "start-half" => return some (.noWordBefore ascii)
  | "end-half" => return some (.noWordAfter ascii)
  | _ => failure

/-- What an escape stands for, from the backslash on. -/
def escape : Scan Primitive := do
  Scan.drop
  let some c ← Scan.peek | failure
  let ascii := !(← Scan.options).unicode
  let hex (digits : Nat) : Scan Primitive := do
    Scan.nextOpen
    return .literal (← hexEscape digits)
  match c with
  | 'x' => hex 2
  | 'u' => hex 4
  | 'U' => hex 8
  | 'p' | 'P' =>
    Scan.nextOpen
    return .chars (← propertyEscape (c == 'P'))
  | 'd' | 's' | 'w' | 'D' | 'S' | 'W' =>
    Scan.drop
    return .chars (← shorthand c)
  | _ =>
    Scan.drop
    if standsForItself c then return .literal c
    match c with
    | 'a' => return .literal '\x07'
    | 'f' => return .literal '\x0c'
    | 't' => return .literal '\t'
    | 'n' => return .literal '\n'
    | 'r' => return .literal '\r'
    | 'v' => return .literal '\x0b'
    | 'A' => return .look .textStart
    | 'z' => return .look .textEnd
    | 'b' =>
      if (← Scan.peek) == some '\x7b' then
        return .look ((← namedBoundary? ascii).getD (.boundary ascii))
      else return .look (.boundary ascii)
    | 'B' => return .look (.noBoundary ascii)
    | '<' => return .look (.wordStart ascii)
    | '>' => return .look (.wordEnd ascii)
    | _ => failure

/-! ### Classes -/

/-- The classes with names, without their negations. -/
def namedClasses : List (String × List (Char × Char)) :=
  [("alnum", [('0', '9'), ('A', 'Z'), ('a', 'z')]), ("alpha", [('A', 'Z'), ('a', 'z')]),
   ("ascii", [('\x00', '\x7f')]), ("blank", [('\t', '\t'), (' ', ' ')]),
   ("cntrl", [('\x00', '\x1f'), ('\x7f', '\x7f')]), ("digit", [('0', '9')]),
   ("graph", [('!', '~')]), ("lower", [('a', 'z')]), ("print", [(' ', '~')]),
   ("punct", [('!', '/'), (':', '@'), ('[', '\x60'), ('\x7b', '~')]),
   ("space", [('\t', '\r'), (' ', ' ')]), ("upper", [('A', 'Z')]),
   ("word", [('0', '9'), ('A', 'Z'), ('_', '_'), ('a', 'z')]),
   ("xdigit", [('0', '9'), ('A', 'F'), ('a', 'f')])]

/-- A class with a name, such as `[:alpha:]`, if one stands here. -/
def namedClass? : Scan (Option ClassPart) := do
  match ← Scan.rest with
  | '[' :: ':' :: text =>
    let (negated, text) := match text with
      | '^' :: text => (true, text)
      | text => (false, text)
    let name := text.takeWhile (· != ':')
    match text.drop name.length, namedClasses.lookup (String.ofList name) with
    | ':' :: ']' :: rest, some ranges =>
      Scan.goTo rest
      let chars ← negatedIf negated (folded (← Scan.options) (.ofRanges ranges))
      return some ⟨chars, 0⟩
    | _, _ => return none
  | _ => return none

/-- What a character or escape inside of a class stands for. -/
def classPrimitive : Scan Primitive := do
  match ← Scan.peek with
  | none => failure
  | some '\\' => escape
  | some c =>
    Scan.drop
    return .literal c

/-- A character at the end of a range. -/
def rangeEnd (p : Primitive) : Scan Char := do
  match p with
  | .literal c => if !(← Scan.options).unicode && c.toNat ≥ 128 then failure else return c
  | _ => failure

/-- A range, or what a single character or escape inside of a class stands for. -/
def classRange : Scan ClassPart := do
  let first ← classPrimitive
  Scan.skipBlanks
  let some c ← Scan.peek | failure
  let afterwards := (← Scan.rest).drop 1
  let visible := if (← Scan.options).extended then withoutBlanks false afterwards else afterwards
  if c != '-' || visible.head? == some ']' || visible.head? == some '-' then
    match first with
    | .literal _ => return ⟨.single (← rangeEnd first), 0⟩
    | .chars s => return ⟨s, 0⟩
    | .look _ => failure
  else
    Scan.nextOpen
    let last ← classPrimitive
    let low ← rangeEnd first
    let high ← rangeEnd last
    if low ≤ high then return ⟨.range low high, 0⟩ else failure

/-- An operation on sets. -/
inductive SetOperation where
  | intersection | difference | symmetricDifference

/-- The operation that a doubled character stands for. -/
def setOperation? : List Char → Option SetOperation
  | '&' :: '&' :: _ => some .intersection
  | '-' :: '-' :: _ => some .difference
  | '~' :: '~' :: _ => some .symmetricDifference
  | _ => none

/-- The union of what stands side by side in a class. -/
def unite (items : List ClassPart) : Scan ClassPart := do
  match items with
  | [] => return ⟨.none, 0⟩
  | [only] => return only
  | several =>
    let levels ← deeper (several.foldl (fun n p => max n p.levels) 0)
    return ⟨several.foldr (fun p s => .union p.chars s) .none, levels⟩

/-- The right-hand side of an operation together with what stands to the left of it. -/
def operate (left : Option (ClassPart × SetOperation)) (right : ClassPart) : Scan ClassPart := do
  match left with
  | none => return right
  | some (left, operation) =>
    let options ← Scan.options
    let levels ← deeper (max left.levels right.levels)
    let a := folded options left.chars
    let b := folded options right.chars
    return ⟨match operation with
      | .intersection => .intersection a b
      | .difference => .difference a b
      | .symmetricDifference => .symmetricDifference a b, levels⟩

/-- Hyphens at the beginning of a class, which stand for themselves. -/
def leadingHyphens : Nat → Scan (List ClassPart)
  | 0 => return []
  | steps + 1 => do
    if (← Scan.peek) == some '-' then
      Scan.nextOpen
      let others ← leadingHyphens steps
      return ⟨.single '-', 0⟩ :: others
    else return []

/-- The beginning of a class, from the bracket on: whether it is negated, and the characters that
stand for themselves there. -/
def openClass : Scan (Bool × List ClassPart) := do
  Scan.nextOpen
  let negated := (← Scan.peek) == some '^'
  if negated then Scan.nextOpen
  let hyphens ← leadingHyphens (← Scan.rest).length
  if hyphens.isEmpty && (← Scan.peek) == some ']' then
    Scan.nextOpen
    return (negated, [⟨.single ']', 0⟩])
  else return (negated, hyphens)

/-- The rest of a class, behind `items` (the latest first) and what stands to the left of an
operation. -/
def classBody (negated : Bool) :
    Nat → Option (ClassPart × SetOperation) → List ClassPart → Scan ClassPart
  | 0, _, _ => failure
  | steps + 1, left, items => do
    Scan.skipBlanks
    let rest ← Scan.rest
    match rest with
    | [] => failure
    | '[' :: _ =>
      match ← namedClass? with
      | some part => classBody negated steps left (part :: items)
      | none =>
        let (innerNegated, first) ← openClass
        let inner ← classBody innerNegated steps none first.reverse
        classBody negated steps left (inner :: items)
    | ']' :: _ =>
      let whole ← operate left (← unite items.reverse)
      Scan.drop
      let levels ← deeper whole.levels
      let chars ← negatedIf negated (folded (← Scan.options) whole.chars)
      return ⟨chars, levels⟩
    | _ =>
      match setOperation? rest with
      | some operation =>
        Scan.drop
        Scan.drop
        let whole ← operate left (← unite items.reverse)
        classBody negated steps (some (whole, operation)) []
      | none =>
        let part ← classRange
        classBody negated steps left (part :: items)

/-- A class, from the bracket on. -/
def bracketed : Scan Part := do
  let steps := (← Scan.rest).length
  let (negated, first) ← openClass
  let part ← classBody negated (steps + 1) none first.reverse
  return ⟨.set part.chars, part.levels⟩

/-! ### Options and groups -/

/-- The options with one of them switched. -/
def Options.switch (options : Options) (on : Bool) : Char → Option Options
  | 'i' => some { options with anyCase := on }
  | 'm' => some { options with multiLine := on }
  | 's' => some { options with dotAll := on }
  | 'R' => some { options with carriage := on }
  | 'x' => some { options with extended := on }
  | 'u' => some { options with unicode := on }
  | 'U' => some options
  | _ => none

/-- The options with the changes that letters make; letters after a hyphen switch off. No letter may
stand there twice, and a hyphen is followed by a letter. -/
def changeOptions (on : Bool) (seen : List Char) (options : Options) : List Char → Option Options
  | [] => if seen.head? == some '-' then none else some options
  | c :: rest =>
    if seen.contains c then none
    else if c == '-' then changeOptions false (c :: seen) options rest
    else
      match options.switch on c with
      | some changed => changeOptions on (c :: seen) changed rest
      | none => none

/-- Whether a character may stand in the name of a group. -/
def isNameCharacter (isFirst : Bool) (c : Char) : Bool :=
  c == '_' || CharProperty.isAlphabetic c ||
    (!isFirst && (c == '.' || c == '[' || c == ']' || (Category.of c).inGroup "N"))

/-- The name of a group, up to the angle bracket after it. -/
def groupName : Scan Unit := do
  let rest ← Scan.rest
  let name := rest.takeWhile (· != '>')
  let isName := match name with
    | [] => false
    | first :: others => isNameCharacter true first && others.all (isNameCharacter false)
  let text := String.ofList name
  if name.length == rest.length || !isName || (← get).names.contains text then failure
  Scan.goTo (rest.drop (name.length + 1))
  modify fun cursor => { cursor with names := text :: cursor.names }

/-- The rest of a group, read by `body`, after which the options are what they were. -/
def groupRest (outer : Options) (body : Scan Part) : Scan Item := do
  let inner ← body
  modify fun cursor => { cursor with options := outer }
  let levels ← deeper inner.levels
  return .part ⟨inner.term, levels⟩

/-- A group, or a change of options, from the parenthesis on. -/
def group (body : Scan Part) : Scan Item := do
  Scan.next
  let outer ← Scan.options
  match ← Scan.rest with
  | '?' :: '=' :: _ | '?' :: '!' :: _ | '?' :: '<' :: '=' :: _ | '?' :: '<' :: '!' :: _ => failure
  | '?' :: 'P' :: '<' :: rest | '?' :: '<' :: rest =>
    Scan.goTo rest
    groupName
    groupRest outer body
  | '?' :: rest =>
    let letters := rest.takeWhile fun c => c != ':' && c != ')'
    match changeOptions true [] outer letters, rest.drop letters.length with
    | some changed, ')' :: rest =>
      if letters.isEmpty then failure
      Scan.goTo rest
      modify fun cursor => { cursor with options := changed }
      return .options
    | some changed, ':' :: rest =>
      Scan.goTo rest
      modify fun cursor => { cursor with options := changed }
      groupRest outer body
    | _, _ => failure
  | _ => groupRest outer body

/-! ### Repetition -/

/-- Skips the question mark after a repetition, which only changes what is tried first. -/
def skipLazy : Scan Unit := do
  if (← Scan.peek) == some '?' then Scan.drop

/-- The first number that is too large for a count of repetitions. -/
def countBound : Nat := 4294967296

/-- A number in braces, with blanks around it. -/
def count : Scan Nat := do
  let rest ← Scan.rest
  Scan.goTo (rest.dropWhile isBlank)
  let digits ← Scan.collectAll Char.isDigit
  let _ ← Scan.collectAll isBlank
  let n := digits.foldl (fun n c => 10 * n + (c.toNat - '0'.toNat)) 0
  if digits.isEmpty || n ≥ countBound then failure else return n

/-- How often something is repeated, from the brace on. -/
def counts : Scan (Nat × Option Nat) := do
  Scan.nextOpen
  let least ← count
  let range ← match ← Scan.peek with
    | some ',' => do
      Scan.nextOpen
      if (← Scan.peek) == some '\x7d' then pure (least, none)
      else
        let most ← count
        if least ≤ most then pure (least, some most) else failure
    | _ => pure (least, some least)
  if (← Scan.peek) != some '\x7d' then failure
  Scan.next
  skipLazy
  return range

/-- The latest item, repeated. -/
def repeated (least : Nat) (most : Option Nat) : List Item → Scan (List Item)
  | .part p :: others => do
    let levels ← deeper p.levels
    return .part ⟨.times p.term least most, levels⟩ :: others
  | _ => failure

/-! ### The whole -/

/-- What stands for itself, for any character, or for an end of a line. -/
def primitivePart : Scan Part := do
  let options ← Scan.options
  let some c ← Scan.peek | failure
  let term ← match c with
    | '\\' => do
      match ← escape with
      | .literal c => literalTerm c
      | .chars s => pure (.set s)
      | .look l => pure (.look l)
    | '.' => do
      Scan.drop
      if !options.unicode then failure
      else if options.dotAll then pure (.set .any)
      else if options.carriage then
        pure (.set (.complement (.ofRanges [('\n', '\n'), ('\r', '\r')])))
      else pure (.set (.complement (.single '\n')))
    | '^' => do
      Scan.drop
      pure (.look (if options.multiLine then .lineStart options.carriage else .textStart))
    | '$' => do
      Scan.drop
      pure (.look (if options.multiLine then .lineEnd options.carriage else .textEnd))
    | c => do
      Scan.drop
      literalTerm c
  return ⟨term, 0⟩

/-- The parts up to the end of the text or of a group, behind `items` (the latest first) and the
alternatives before them. -/
def body (inGroup : Bool) : Nat → List Part → List Item → Scan Part
  | 0, _, _ => failure
  | steps + 1, alternatives, items => do
    let finish : Scan Part := do
      let last ← sequence items.reverse
      match alternatives.reverse with
      | [] => return last
      | first :: others => choice first (others ++ [last])
    Scan.skipBlanks
    match ← Scan.peek with
    | none => if inGroup then failure else finish
    | some ')' =>
      if inGroup then
        Scan.drop
        finish
      else failure
    | some '|' =>
      Scan.drop
      let alternative ← sequence items.reverse
      body inGroup steps (alternative :: alternatives) []
    | some '(' =>
      let item ← group (body true steps [] [])
      body inGroup steps alternatives (item :: items)
    | some '[' =>
      let part ← bracketed
      body inGroup steps alternatives (.part part :: items)
    | some '\x7b' =>
      let (least, most) ← counts
      let items ← repeated least most items
      body inGroup steps alternatives items
    | some c =>
      if c == '?' || c == '*' || c == '+' then
        Scan.drop
        skipLazy
        let items ← repeated (if c == '+' then 1 else 0) (if c == '?' then some 1 else none) items
        body inGroup steps alternatives items
      else
        let part ← primitivePart
        body inGroup steps alternatives (.part part :: items)

/-- The number of states that a regular expression may take. -/
def maxCost : Nat := 327680

/-- The text has no meaning. -/
def malformed : Fault :=
  ⟨"regex parse error:"⟩

/-- The term takes too many states. -/
def tooLarge : Fault :=
  ⟨"Compiled regex exceeds size limit of 10485760 bytes."⟩

/-- The regular expression that a text means. -/
def ofSource : Engine := fun source =>
  let cs := source.toList
  match (body false (cs.length + 1) [] []).run { rest := cs } with
  | none => .error malformed
  | some (part, _) =>
    if part.term.cost ≤ maxCost then
      .ok ⟨source, fun text => part.term.search text.toList⟩
    else .error tooLarge

end Regex

end StreamLint
