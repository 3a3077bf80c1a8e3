import StreamLint.Json.Reader
import StreamLint.Text.Span
import StreamLint.Limits
import StreamLint.Diagnostic
/-!
# Serialised forms of the basic types

Limits, spans and configuration problems as JSON. A problem without an origin or without hints is
written without these fields, and reading puts the missing ones back: `StreamLint.Limits.reader`
and `StreamLint.Diagnostics.reader` undo `StreamLint.Limits.toJson` and
`StreamLint.Diagnostics.toJson`.
-/

namespace StreamLint

open Json (Reader)

/-! ### Places -/

/-- A place as an object. -/
def Position.toJson (place : Position) : Json :=
  .object [("line", .ofNat place.line), ("column", .ofNat place.column)]

/-- A span as an object. -/
def Span.toJson (span : Span) : Json :=
  .object [("start_byte", .ofNat span.startByte), ("end_byte", .ofNat span.endByte),
    ("start", span.start.toJson), ("end", span.stop.toJson)]

/-! ### Limits -/

namespace Limits

/-- Limits as an object. -/
def toJson (limits : Limits) : Json :=
  .object [("max_resolution_depth", .ofNat limits.resolutionDepth),
    ("max_findings_per_check", .ofNat limits.findingsPerCheck),
    ("max_descendant_search_nodes", .ofNat limits.descendantNodes)]

/-- Limits of which some are still missing. -/
structure Draft where
  /-- The resolution depth, once it is known. -/
  resolutionDepth : Option Nat := none
  /-- The bound on findings, once it is known. -/
  findingsPerCheck : Option Nat := none
  /-- The bound on searches, once it is known. -/
  descendantNodes : Option Nat := none

/-- Reads limits, all of which must be given. -/
def reader : Reader Limits := fun levels text => do
  let number (set : Nat → Draft → Draft) : Reader (Draft → Draft) := fun levels text =>
    (Reader.whole levels text).map fun (n, rest) => (set n, rest)
  let fields : List (Reader.Field Draft) :=
    [{ name := "max_resolution_depth", read := number fun n d => { d with resolutionDepth := n },
       isSet := (·.resolutionDepth.isSome), required := true },
     { name := "max_findings_per_check", read := number fun n d => { d with findingsPerCheck := n },
       isSet := (·.findingsPerCheck.isSome), required := true },
     { name := "max_descendant_search_nodes",
       read := number fun n d => { d with descendantNodes := n },
       isSet := (·.descendantNodes.isSome), required := true }]
  let (draft, rest) ← Reader.record "AnalysisLimits" false fields {} levels text
  return (⟨draft.resolutionDepth.getD 0, draft.findingsPerCheck.getD 0,
    draft.descendantNodes.getD 0⟩, rest)

end Limits

/-! ### Configuration problems -/

namespace Diagnostic

/-- A problem as an object. -/
def toJson (problem : Diagnostic) : Json :=
  .object (
    [("code", .string problem.code.name), ("message", .string problem.message)]
      ++ (problem.origin.map fun origin => ("origin", Json.string origin)).toList
      ++ if problem.notes.isEmpty then []
        else [("notes", .array (problem.notes.map .string))])

/-- A problem of which some parts are still missing. -/
structure Draft where
  /-- The code, once it is known. -/
  code : Option Diagnostic.Code := none
  /-- The message, once it is known. -/
  message : Option String := none
  /-- The origin, once it is known whether there is one. -/
  origin : Option (Option String) := none
  /-- The hints, once they are known. -/
  notes : Option (List String) := none

/-- Reads a problem; its origin and its hints may be left out. -/
def reader : Reader Diagnostic := fun levels text => do
  let into {α : Type} (inner : Reader α) (set : α → Draft → Draft) : Reader (Draft → Draft) :=
    fun levels text => (inner levels text).map fun (a, rest) => (set a, rest)
  let fields : List (Reader.Field Draft) :=
    [{ name := "code",
       read := into (Reader.variant (Diagnostic.Code.all.map (·.name)) Diagnostic.Code.ofName?)
         fun code d => { d with code := code },
       isSet := (·.code.isSome), required := true },
     { name := "message", read := into Reader.string fun message d => { d with message := message },
       isSet := (·.message.isSome), required := true },
     { name := "origin",
       read := into (Reader.optional Reader.string) fun origin d =>
         { d with origin := some origin },
       isSet := (·.origin.isSome), required := false },
     { name := "notes",
       read := into (Reader.list Reader.string) fun notes d => { d with notes := some notes },
       isSet := (·.notes.isSome), required := false }]
  let (draft, rest) ← Reader.record "Diagnostic" false fields {} levels text
  return ({ code := draft.code.getD default, message := draft.message.getD "",
            origin := draft.origin.getD none, notes := draft.notes.getD [] }, rest)

end Diagnostic

namespace Diagnostics

/-- A report as the list of its problems. -/
def toJson (report : Diagnostics) : Json :=
  .array (report.diagnostics.map Diagnostic.toJson)

/-- Reads a report. -/
def reader : Reader Diagnostics := fun levels text =>
  (Reader.list Diagnostic.reader levels text).map fun (problems, rest) => (⟨problems⟩, rest)

end Diagnostics

end StreamLint
