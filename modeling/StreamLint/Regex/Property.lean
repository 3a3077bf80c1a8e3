import StreamLint.Regex.CharSet
/-!
# Names of character properties

A property in a regular expression is given by its name, or by the name of a family and of a member
with `=`, `:` or `!=` between them. Case, spaces, underscores and hyphens do not count, and neither
does a leading `is`. The known properties are the general categories and their groups, the scripts,
and whether a character is alphabetic, of lower or upper case, or white space.
-/

namespace StreamLint

namespace CharProperty

/-- A name of a property in the form in which names are compared. -/
def canonicalName (name : String) : String :=
  let kept (cs : List Char) : List Char :=
    cs.filterMap fun c =>
      if c == ' ' || c == '_' || c == '-' || c.toNat ≥ 128 then none else some c.toLower
  let (isMarked, rest) := match name.toList with
    | i :: s :: rest =>
      if i.toLower == 'i' && s.toLower == 's' then (true, rest) else (false, i :: s :: rest)
    | cs => (false, cs)
  let text := String.ofList (kept rest)
  if isMarked && text == "c" then "isc" else text

/-- The names of the groups of general categories, with their abbreviations. -/
def groupNames : List (String × String) :=
  [("l", "L"), ("letter", "L"), ("lc", "LC"), ("casedletter", "LC"), ("m", "M"), ("mark", "M"),
   ("combiningmark", "M"), ("n", "N"), ("number", "N"), ("p", "P"), ("punctuation", "P"),
   ("punct", "P"), ("s", "S"), ("symbol", "S"), ("z", "Z"), ("separator", "Z"), ("c", "C"),
   ("other", "C"), ("cntrl", "Cc")]

/-- The general category or group with a given name. -/
def categoryOfName? (name : String) : Option CharProperty :=
  if name == "assigned" then some .assigned
  else
    match groupNames.find? (·.1 == name) with
    | some (_, abbreviation) => some (.category abbreviation)
    | none =>
      (Category.names.find? fun (_, short, long) => long == name || asciiLower short == name).map
        fun (_, short, _) => .category short

/-- The property that is no category and no script with a given name. -/
def binaryOfName? (name : String) : Option CharProperty :=
  if ["alpha", "alphabetic"].contains name then some .alphabetic
  else if ["lower", "lowercase"].contains name then some .lowercase
  else if ["upper", "uppercase"].contains name then some .uppercase
  else if ["wspace", "whitespace", "space"].contains name then some .blank
  else none

/-- The characters with the property that a single name stands for. -/
def setOfName? (name : String) : Option CharSet :=
  let canonical := canonicalName name
  if canonical == "any" then some .any
  else if canonical == "ascii" then some (.range '\x00' '\x7f')
  else
    ((binaryOfName? canonical).orElse fun _ =>
      (categoryOfName? canonical).orElse fun _ =>
        (Script.codeOfName? canonical).map .script).map .property

/-- The characters with a member of a family of properties. -/
def setOfMember? (family name : String) : Option CharSet :=
  let canonical := canonicalName name
  match canonicalName family with
  | "gc" | "generalcategory" =>
    if canonical == "any" then some .any
    else if canonical == "ascii" then some (.range '\x00' '\x7f')
    else (categoryOfName? canonical).map .property
  | "sc" | "script" => (Script.codeOfName? canonical).map fun code => .property (.script code)
  | _ => none

/-- The characters that the text of a property stands for. -/
def setOfText? (text : List Char) : Option CharSet :=
  let part (cs : List Char) : String := String.ofList cs
  let before (mark : Char) : List Char := text.takeWhile (· != mark)
  let after (mark : Char) : List Char := (text.dropWhile (· != mark)).drop 1
  let unequal := before '!'
  if unequal.length < text.length && (after '!').head? == some '=' then
    (setOfMember? (part unequal) (part ((after '!').drop 1))).map .complement
  else if text.contains ':' then setOfMember? (part (before ':')) (part (after ':'))
  else if text.contains '=' then setOfMember? (part (before '=')) (part (after '='))
  else setOfName? (part text)

end CharProperty

end StreamLint
