import StreamLint.Check.Profile
import StreamLint.Json.Printer
import StreamLint.Linter.Report
/-!
# Writing reports

Reports are written for people, a line for every finding, or as JSON. Syntax errors and stopped
checks are warnings, which go elsewhere.
-/

namespace StreamLint

/-- The output that was asked for. -/
inductive OutputFormat where
  /-- For people at a terminal, and JSON otherwise. -/
  | auto
  /-- A line for every finding. -/
  | human
  /-- The reports as JSON. -/
  | json
  deriving DecidableEq, Repr, Inhabited

/-- The output that is written. -/
inductive ResolvedFormat where
  /-- A line for every finding. -/
  | human
  /-- The reports as JSON. -/
  | json
  deriving DecidableEq, Repr, Inhabited

/-- The output that is written, at a terminal or not. -/
def OutputFormat.resolve (terminal : Bool) : OutputFormat → ResolvedFormat
  | auto => if terminal then .human else .json
  | human => .human
  | json => .json

namespace DocumentReport

/-- A finding on a line: the file, the place, the check and the message. -/
def findingLine (uri : String) (finding : Finding) : String :=
  s!"{uri}:{finding.mainSpan.start.display}: {finding.checkId}: {finding.message}\n"

/-- The findings of a file, a line for each. -/
def human (report : DocumentReport) : String :=
  String.join (report.findings.map (findingLine report.uri))

/-- A syntax error on a line. -/
def issueLine (uri : String) (issue : SyntaxWarning) : String :=
  s!"{uri}:{issue.line}:{issue.column}: warning: syntax error: {issue.message}\n"

/-- A stopped check on a line. -/
def failureLine (uri : String) (failure : StoppedCheck) : String :=
  let place := match failure.span with
    | some span => ":" ++ span.start.display
    | none => ""
  s!"{uri}{place}: warning: check {failure.checkId} stopped: {failure.message}\n"

/-- The syntax errors and the stopped checks of a file, a line for each. -/
def warnings (report : DocumentReport) : String :=
  String.join (report.syntaxErrors.map (issueLine report.uri)) ++
    String.join (report.failures.map (failureLine report.uri))

end DocumentReport

/-- Reports for people. -/
def findingText (reports : List DocumentReport) : String :=
  String.join (reports.map DocumentReport.human)

/-- The warnings in reports. -/
def warningText (reports : List DocumentReport) : String :=
  String.join (reports.map DocumentReport.warnings)

/-- Reports as JSON, and a line feed. -/
def jsonText (reports : List DocumentReport) : String :=
  (Json.array (reports.map DocumentReport.toJson)).pretty ++ "\n"

/-- A text filled up with blanks to a number of characters. -/
def padded (width : Nat) (text : String) : String :=
  text ++ String.ofList (List.replicate (width - text.length) ' ')

/-- The checks with their descriptions. The descriptions stand below one another. -/
def checkListing (format : ResolvedFormat) (checks : List CheckProfile) : String :=
  match format with
  | .json => (Json.array (checks.map CheckProfile.toJson)).pretty ++ "\n"
  | .human =>
    let width := checks.foldl (fun width check => max width check.id.utf8ByteSize) 0
    String.join (checks.map fun check => s!"{padded width check.id}  {check.description}\n")

end StreamLint
