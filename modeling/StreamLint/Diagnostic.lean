/-!
# Configuration problems

Whatever stops a check from running at all is reported once per session, as a
`StreamLint.Diagnostic` with a stable `StreamLint.Diagnostic.Code`. Problems are kept in the order
in which they were found; a `StreamLint.Diagnostics` is shown by its first one.

Findings about the analysed program are another type, `StreamLint.Finding`.
-/

namespace StreamLint

/-- What kind of configuration problem was found. -/
inductive Diagnostic.Code where
  /-- The settings could not be read. -/
  | settingsParse
  /-- The settings name a check that does not exist. -/
  | unknownCheck
  /-- An options record has the wrong shape. -/
  | invalidOption
  /-- An option is not a regular expression. -/
  | invalidRegex
  /-- A check declared a pattern that no kind of node can satisfy. -/
  | unsatisfiablePattern
  deriving DecidableEq, Repr, Inhabited

namespace Diagnostic.Code

/-- Every code, in the order of their declaration. -/
def all : List Diagnostic.Code :=
  [settingsParse, unknownCheck, invalidOption, invalidRegex, unsatisfiablePattern]

/-- The stable spelling, `E_RXLINT_` and the problem in capitals. -/
def spelling : Diagnostic.Code → String
  | settingsParse => "E_RXLINT_SETTINGS_PARSE"
  | unknownCheck => "E_RXLINT_UNKNOWN_CHECK"
  | invalidOption => "E_RXLINT_INVALID_OPTION"
  | invalidRegex => "E_RXLINT_INVALID_REGEX"
  | unsatisfiablePattern => "E_RXLINT_UNSATISFIABLE_PATTERN"

/-- The name by which the code is written in a serialised report. -/
def name : Diagnostic.Code → String
  | settingsParse => "SettingsParse"
  | unknownCheck => "UnknownCheck"
  | invalidOption => "InvalidOption"
  | invalidRegex => "InvalidRegex"
  | unsatisfiablePattern => "UnsatisfiablePattern"

/-- The code with a given spelling. -/
def ofSpelling? (text : String) : Option Diagnostic.Code :=
  all.find? (·.spelling == text)

/-- The code with a given serialised name. -/
def ofName? (text : String) : Option Diagnostic.Code :=
  all.find? (·.name == text)

/-- What is said of a spelling that no code has. -/
def unknownMessage (text : String) : String :=
  s!"unknown diagnostic code `{text}`"

end Diagnostic.Code

/-- One configuration problem. -/
structure Diagnostic where
  /-- The kind of problem. -/
  code : Diagnostic.Code
  /-- What is wrong, for people. -/
  message : String
  /-- The check or settings file concerned, when known. -/
  origin : Option String := none
  /-- Hints for mending the problem. -/
  notes : List String := []
  deriving DecidableEq, Repr, Inhabited

/-- The problem on one line: code, origin if known, message. -/
def Diagnostic.display (problem : Diagnostic) : String :=
  let origin := match problem.origin with
    | some name => s!"{name}: "
    | none => ""
  s!"{problem.code.spelling}: {origin}{problem.message}"

/-- All the problems found while checks are set up, in the order in which they were found. -/
structure Diagnostics where
  /-- The problems. -/
  diagnostics : List Diagnostic := []
  deriving DecidableEq, Repr, Inhabited

namespace Diagnostics

/-- The report of one problem. -/
def single (code : Diagnostic.Code) (message : String) (origin : Option String) :
    Diagnostics :=
  ⟨[{ code, message, origin }]⟩

/-- The report with one problem more at its end. -/
def push (report : Diagnostics) (problem : Diagnostic) : Diagnostics :=
  ⟨report.diagnostics ++ [problem]⟩

/-- The problems of `report`, then those of `other`. -/
def append (report other : Diagnostics) : Diagnostics :=
  ⟨report.diagnostics ++ other.diagnostics⟩

/-- Whether nothing was wrong. -/
def isEmpty (report : Diagnostics) : Bool :=
  report.diagnostics.isEmpty

/-- The first problem, for a report shown as a whole. -/
def display (report : Diagnostics) : String :=
  match report.diagnostics with
  | [] => "no diagnostics"
  | problem :: _ => problem.display

end Diagnostics

end StreamLint
