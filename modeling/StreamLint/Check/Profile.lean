import StreamLint.Json.Value
/-!
# Profiles of checks

What a check is called, what it says, and which options it takes. A profile is data only; it is
listed for people and looked up by the check itself.
-/

namespace StreamLint

/-- Whether a check is about likely mistakes or about style. -/
inductive CheckConcern where
  /-- Code that is probably wrong. -/
  | problem
  /-- Code that could be better. -/
  | suggestion
  deriving DecidableEq, Repr, Inhabited

/-- The name of what a check is about. -/
def CheckConcern.name : CheckConcern → String
  | problem => "problem"
  | suggestion => "suggestion"

/-- One option of a check. -/
structure OptionProfile where
  /-- The key in the options record. -/
  name : String
  /-- The type of the value. -/
  valueType : String
  /-- What the option is for. -/
  description : String
  /-- The value if none is given, as text. -/
  default : Option String
  deriving DecidableEq, Repr, Inhabited

/-- An option as an object. -/
def OptionProfile.toJson (option : OptionProfile) : Json :=
  .object [("name", .string option.name), ("value_type", .string option.valueType),
    ("description", .string option.description),
    ("default", .ofOption .string option.default)]

/-- The profile of a check. -/
structure CheckProfile where
  /-- The stable identifier. -/
  id : String
  /-- What the check is about, in one line. -/
  description : String
  /-- The group that the check belongs to. -/
  category : String
  /-- Whether the check is recommended. -/
  recommended : Bool := false
  /-- Mistakes or style. -/
  kind : CheckConcern := .problem
  /-- The messages by their keys. -/
  messages : List (String × String)
  /-- The options. -/
  options : List OptionProfile := []
  deriving DecidableEq, Repr, Inhabited

namespace CheckProfile

/-- The message under a key. -/
def message? (profile : CheckProfile) (key : String) : Option String :=
  (profile.messages.find? (·.1 == key)).map (·.2)

/-- The option with a given name. -/
def option? (profile : CheckProfile) (name : String) : Option OptionProfile :=
  profile.options.find? (·.name == name)

/-- A profile as an object. -/
def toJson (profile : CheckProfile) : Json :=
  .object [("id", .string profile.id), ("description", .string profile.description),
    ("category", .string profile.category), ("recommended", .bool profile.recommended),
    ("kind", .string profile.kind.name),
    ("messages", .array (profile.messages.map fun (key, text) =>
      .array [.string key, .string text])),
    ("options", .array (profile.options.map OptionProfile.toJson))]

end CheckProfile

end StreamLint
