import Std.Data.TreeMap
import StreamLint.Json.Forms
import StreamLint.Syntax.Tree
/-!
# Findings

What checks say about a file. A log keeps findings in the order in which they come, and of one
check at most so many.
-/

namespace StreamLint

/-- One problem in a file. -/
structure Finding where
  /-- The check that found it. -/
  checkId : String
  /-- The key of the message. -/
  messageKey : String
  /-- The message. -/
  message : String
  /-- The node it is about. -/
  node : NodeId
  /-- Where the node stands. -/
  span : Span
  /-- A narrower place to point at. -/
  location : Option Span
  deriving DecidableEq, Repr, Inhabited

namespace Finding

/-- The place to point at. -/
def mainSpan (finding : Finding) : Span :=
  finding.location.getD finding.span

/-- A finding as an object. -/
def toJson (finding : Finding) : Json :=
  .object [("check_id", .string finding.checkId), ("message_key", .string finding.messageKey),
    ("message", .string finding.message), ("span", finding.span.toJson),
    ("location", .ofOption Span.toJson finding.location)]

end Finding

/-- Findings with a bound on those of each check. -/
structure FindingLog where
  /-- How many findings of a check are kept; all, if there is no bound. -/
  limit : Option Nat
  /-- What was kept. -/
  findings : Array Finding := #[]
  /-- How many findings of each check were kept. -/
  kept : Std.TreeMap String Nat compare := {}
  /-- How many findings were not kept. -/
  dropped : Nat := 0

namespace FindingLog

/-- How many findings of a check were kept. -/
def count (log : FindingLog) (checkId : String) : Nat :=
  (log.kept[checkId]?).getD 0

/-- Whether the bound of a check has been reached. -/
def isFull (log : FindingLog) (checkId : String) : Bool :=
  match log.limit with
  | some limit => limit ≤ log.count checkId
  | none => false

/-- Takes a finding, unless its check has reached the bound. -/
def add (log : FindingLog) (finding : Finding) : FindingLog :=
  if log.isFull finding.checkId then
    { log with dropped := log.dropped + 1 }
  else
    { log with
      findings := log.findings.push finding
      kept := log.kept.insert finding.checkId (log.count finding.checkId + 1) }

/-- Takes findings, one after the other. -/
def addAll (log : FindingLog) (findings : List Finding) : FindingLog :=
  findings.foldl add log

end FindingLog

end StreamLint
