import StreamLint.Text.Path
import StreamLint.Text.Character
/-!
# Dialects of TypeScript

Plain TypeScript and TypeScript with JSX have different grammars. Which of them a file is written in
is told from its extension, whatever the case of its letters.
-/

namespace StreamLint

/-- A dialect of TypeScript. -/
inductive Dialect where
  /-- Plain TypeScript. -/
  | typeScript
  /-- TypeScript with JSX. -/
  | tsx
  deriving DecidableEq, Repr, Inhabited

/-- Why a path has no dialect. -/
inductive DialectError where
  /-- The extension is none of those known. -/
  | unsupportedExtension (extension : String)
  /-- There is no extension. -/
  | missingExtension (path : String)
  deriving DecidableEq, Repr, Inhabited

/-- The problem in words. -/
def DialectError.message : DialectError → String
  | unsupportedExtension extension => s!"unsupported file extension: {extension}"
  | missingExtension path => s!"{path} has no extension to select a grammar from"

namespace Dialect

/-- The name of a dialect. -/
def name : Dialect → String
  | typeScript => "typescript"
  | tsx => "tsx"

/-- The dialect that an extension, without its dot, stands for. -/
def ofExtension? (extension : String) : Option Dialect :=
  match asciiLower extension with
  | "ts" | "mts" | "cts" => some typeScript
  | "tsx" => some tsx
  | _ => none

/-- The dialect of a file, or why it has none. -/
def detect (path : String) : Except DialectError Dialect :=
  match Path.extension? path with
  | none => .error (.missingExtension path)
  | some extension =>
    match ofExtension? extension with
    | some dialect => .ok dialect
    | none => .error (.unsupportedExtension extension)

/-- The dialect with a given name, white space around it and the case of its letters aside; the name
that was looked for if there is none. -/
def ofName (text : String) : Except String Dialect :=
  match asciiLower (trim text) with
  | "typescript" | "ts" => .ok typeScript
  | "tsx" => .ok tsx
  | other => .error other

/-- What is said of a name that no dialect has. -/
def unknownMessage (name : String) : String :=
  s!"unknown TypeScript dialect '{name}'"

end Dialect

end StreamLint
