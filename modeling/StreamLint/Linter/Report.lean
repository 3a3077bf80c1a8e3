import StreamLint.Check.Finding
import StreamLint.Concrete.Issue
/-!
# Reports about files

Everything that was found in one file, and what kept checks from finding more.
-/

namespace StreamLint

/-- A check that stopped in the middle of a file. -/
structure StoppedCheck where
  /-- The check. -/
  checkId : String
  /-- What went wrong. -/
  message : String
  /-- Where it stopped. -/
  span : Option Span
  deriving DecidableEq, Repr, Inhabited

/-- A failure as an object. -/
def StoppedCheck.toJson (failure : StoppedCheck) : Json :=
  .object [("check_id", .string failure.checkId), ("message", .string failure.message),
    ("span", .ofOption Span.toJson failure.span)]

/-- A place that could not be parsed. -/
structure SyntaxWarning where
  /-- The line, from one. -/
  line : Nat
  /-- The column, from one. -/
  column : Nat
  /-- What is wrong. -/
  message : String
  deriving DecidableEq, Repr, Inhabited

namespace SyntaxWarning

/-- An issue of a document, without its text. -/
def ofIssue (issue : Concrete.Issue) : SyntaxWarning :=
  ⟨issue.line, issue.column, issue.message⟩

/-- An issue as an object. -/
def toJson (issue : SyntaxWarning) : Json :=
  .object [("line", .ofNat issue.line), ("column", .ofNat issue.column),
    ("message", .string issue.message)]

end SyntaxWarning

/-- What was found in a file. -/
structure DocumentReport where
  /-- The name of the file. -/
  uri : String
  /-- The findings in the order in which they were found, without the silenced ones. -/
  findings : List Finding
  /-- The checks that stopped early. -/
  failures : List StoppedCheck
  /-- The places that could not be parsed. -/
  syntaxErrors : List SyntaxWarning
  /-- How many findings were silenced. -/
  suppressed : Nat
  deriving DecidableEq, Repr, Inhabited

namespace DocumentReport

/-- Whether anything was found. -/
def isFlagged (report : DocumentReport) : Bool :=
  !report.findings.isEmpty

/-- A report as an object. -/
def toJson (report : DocumentReport) : Json :=
  .object [("uri", .string report.uri), ("findings", .array (report.findings.map Finding.toJson)),
    ("failures", .array (report.failures.map StoppedCheck.toJson)),
    ("syntax_errors", .array (report.syntaxErrors.map SyntaxWarning.toJson)),
    ("suppressed", .ofNat report.suppressed)]

end DocumentReport

end StreamLint
