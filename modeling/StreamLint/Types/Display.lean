import StreamLint.Types.Table
/-!
# Types as text

A type of a table is shown by following the places in it. Since types may refer to themselves, the
text goes at most eleven types deep and continues with three dots. A declared type is shown in full
only when it is what was asked for, and by its name inside other types.
-/

namespace StreamLint

namespace TypeTable

/-- Texts with a separator between them. -/
def joined (separator : String) (texts : List String) : String :=
  separator.intercalate texts

/-- A list of parameters or arguments between angle brackets. -/
def bracketed (texts : List String) : String :=
  "<" ++ joined ", " texts ++ ">"

/-- How deep the text of a type goes. -/
def displayDepth : Nat := 11

/-- The type at a place as text, at most `levels` types deep. -/
def displayAt (table : TypeTable) (levels : Nat) (id : TypeId) : String :=
  match levels with
  | 0 => "..."
  | levels + 1 =>
    let inner := displayAt table levels
    let texts (ids : List TypeId) : List String := ids.map inner
    let memberTexts (members : List (Member TypeId)) : String :=
      String.join (members.map fun member =>
        let call := match member.kind with
          | .property => ""
          | .method => "()"
        member.name ++ call ++ ": " ++ inner member.type ++ "; ")
    match table.get? id with
    | none => "<missing>"
    | some data =>
      match data with
      | .any => "any"
      | .unknown => "unknown"
      | .never => "never"
      | .primitive type => type.name
      | .declared type =>
        if levels + 1 < displayDepth then type.name
        else
          type.kind.name ++ " " ++ type.name ++ bracketed (texts type.params) ++ " extends ("
            ++ joined ", " (texts type.supertypes) ++ ") \x7b " ++ memberTexts type.members
            ++ "\x7d"
      | .reference target arguments =>
        let name := match table.get? target with
          | some (.declared type) => type.name
          | some (.alias name _ _) => "alias " ++ name
          | _ => inner target
        name ++ bracketed (texts arguments)
      | .alias name params target =>
        if name == "" then inner target
        else "alias " ++ name ++ bracketed (texts params) ++ " = (" ++ inner target ++ ")"
      | .union members => "(" ++ joined " | " (texts members) ++ ")"
      | .intersection members => "(" ++ joined " & " (texts members) ++ ")"
      | .array element => inner element ++ "[]"
      | .tuple elements => "[" ++ joined ", " (texts elements) ++ "]"
      | .function returnType => "() => " ++ inner returnType
      | .object members => "\x7b " ++ memberTexts members ++ "\x7d"
      | .parameter name none => "$" ++ name
      | .parameter name (some bound) => "$" ++ name ++ " extends " ++ inner bound
      | .foreign name arguments => "?" ++ name ++ bracketed (texts arguments)

/-- The type at a place as text. -/
def display (table : TypeTable) (id : TypeId) : String :=
  table.displayAt displayDepth id

end TypeTable

end StreamLint
