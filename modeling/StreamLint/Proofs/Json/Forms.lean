import StreamLint.Json.Forms
import StreamLint.Proofs.Json.Nesting
/-!
# Limits and reports are read back

The readers of limits and of reports take what is written for them
(`StreamLint.Limits.takes_reader`, `StreamLint.Diagnostics.takes_reader`). Limits are whole numbers,
which have to fit 64 bits. Nothing is asked of a report: its messages, origins and hints are any
strings, and a problem without an origin or without hints is written without these fields, which
come back empty.

The fields of a record are listed here once more, since they stand inside the definitions of the
readers; that they are the same is seen when the two are compared.
-/

namespace StreamLint

open Json (Reader Takes TakesFields readField takes_record maxWhole)

/-! ### Limits -/

namespace Limits

/-- The fields of limits. -/
def fields : List (Reader.Field Draft) :=
  [{ name := "max_resolution_depth",
     read := Json.into Reader.whole fun n d => { d with resolutionDepth := n },
     isSet := (·.resolutionDepth.isSome), required := true },
   { name := "max_findings_per_check",
     read := Json.into Reader.whole fun n d => { d with findingsPerCheck := n },
     isSet := (·.findingsPerCheck.isSome), required := true },
   { name := "max_descendant_search_nodes",
     read := Json.into Reader.whole fun n d => { d with descendantNodes := n },
     isSet := (·.descendantNodes.isSome), required := true }]

/-- The limits of a draft, once none is missing. -/
def Draft.limits (draft : Draft) : Limits :=
  ⟨draft.resolutionDepth.getD 0, draft.findingsPerCheck.getD 0, draft.descendantNodes.getD 0⟩

/-- The limits are whole numbers of 64 bits. -/
def Fits (limits : Limits) : Prop :=
  limits.resolutionDepth ≤ maxWhole ∧ limits.findingsPerCheck ≤ maxWhole ∧
    limits.descendantNodes ≤ maxWhole

/-- **Limits are taken as they are.** -/
theorem takes_reader {limits : Limits} (h : limits.Fits) (levels : Nat) :
    Takes (Limits.reader (levels + 1)) limits.toJson limits := by
  obtain ⟨hdepth, hfindings, hnodes⟩ := h
  have hfields : TakesFields (readField false fields levels)
      [("max_resolution_depth", .ofNat limits.resolutionDepth),
        ("max_findings_per_check", .ofNat limits.findingsPerCheck),
        ("max_descendant_search_nodes", .ofNat limits.descendantNodes)] ({} : Draft)
      ⟨limits.resolutionDepth, limits.findingsPerCheck, limits.descendantNodes⟩ :=
    .into rfl rfl (Json.takes_whole levels hdepth) <|
    .into rfl rfl (Json.takes_whole levels hfindings) <|
    .into rfl rfl (Json.takes_whole levels hnodes) <| .nil _
  have hrecord := takes_record "AnalysisLimits" hfields (by simp [fields])
  exact hrecord.returned Draft.limits

theorem isFloatFree_toJson (limits : Limits) : limits.toJson.IsFloatFree := by
  simp [toJson, Json.isFloatFree_object]

end Limits

/-! ### Reports -/

namespace Diagnostic

/-- The fields of a problem. -/
def fields : List (Reader.Field Draft) :=
  [{ name := "code",
     read := Json.into (Reader.variant (Code.all.map (·.name)) Code.ofName?)
       fun code d => { d with code := code },
     isSet := (·.code.isSome), required := true },
   { name := "message",
     read := Json.into Reader.string fun message d => { d with message := message },
     isSet := (·.message.isSome), required := true },
   { name := "origin",
     read := Json.into (Reader.optional Reader.string)
       fun origin d => { d with origin := some origin },
     isSet := (·.origin.isSome), required := false },
   { name := "notes",
     read := Json.into (Reader.list Reader.string) fun notes d => { d with notes := some notes },
     isSet := (·.notes.isSome), required := false }]

/-- Every code is found again by its name. -/
theorem Code.ofName?_name (code : Code) : Code.ofName? code.name = some code := by
  cases code <;> decide

/-- The problem of a draft; what may be left out counts as empty. -/
def Draft.problem (draft : Draft) : Diagnostic :=
  { code := draft.code.getD default, message := draft.message.getD "",
    origin := draft.origin.getD none, notes := draft.notes.getD [] }

/-- The draft of a problem when all that was written has been read. -/
def Draft.ofProblem (problem : Diagnostic) : Draft :=
  { code := problem.code, message := problem.message, origin := problem.origin.map some,
    notes := if problem.notes.isEmpty then none else some problem.notes }

theorem Draft.problem_ofProblem (problem : Diagnostic) : (ofProblem problem).problem = problem := by
  obtain ⟨code, message, origin, notes⟩ := problem
  cases origin <;> cases notes <;> rfl

/-- The origin is taken if there is one. -/
theorem takesFields_origin (levels : Nat) (origin : Option String) {draft : Draft}
    (h : draft.origin = none) :
    TakesFields (readField false fields levels)
      (origin.map fun origin => ("origin", Json.string origin)).toList draft
      { draft with origin := origin.map some } := by
  cases origin with
  | none =>
    obtain ⟨code, message, _, notes⟩ := draft
    obtain rfl : _ = none := h
    exact .nil _
  | some origin =>
    have hstring := Json.takes_optional (Json.takes_string levels origin) (by simp)
    exact .into rfl (by rw [h]; rfl) hstring (.nil _)

/-- The hints are taken if there are any. -/
theorem takesFields_notes (levels : Nat) (notes : List String) {draft : Draft}
    (h : draft.notes = none) :
    TakesFields (readField false fields (levels + 1))
      (if notes.isEmpty then [] else [("notes", .array (notes.map .string))]) draft
      { draft with notes := if notes.isEmpty then none else some notes } := by
  cases notes with
  | nil =>
    obtain ⟨code, message, origin, _⟩ := draft
    obtain rfl : _ = none := h
    exact .nil _
  | cons note notes =>
    have hnotes := Json.forall₂_takes_map fun text (_ : text ∈ note :: notes) =>
      Json.takes_string levels text
    exact .into rfl (by rw [h]; rfl) (Json.takes_list hnotes) (.nil _)

/-- **A problem is taken as it is**: what was left out comes back empty. -/
theorem takes_reader (problem : Diagnostic) (levels : Nat) :
    Takes (Diagnostic.reader (levels + 2)) problem.toJson problem := by
  have hcode : Takes (Reader.variant (Code.all.map (·.name)) Code.ofName? (levels + 1))
      (.string problem.code.name) problem.code :=
    Json.takes_variant (Code.ofName?_name problem.code)
  have hgiven : TakesFields (readField false fields (levels + 1))
      [("code", .string problem.code.name), ("message", .string problem.message)] ({} : Draft)
      { code := problem.code, message := problem.message } :=
    .into rfl rfl hcode <| .into rfl rfl (Json.takes_string _ problem.message) <| .nil _
  have hfields := (hgiven.append (takesFields_origin (levels + 1) problem.origin rfl)).append
    (takesFields_notes levels problem.notes rfl)
  have hrecord := takes_record "Diagnostic" hfields (by simp [fields])
  have hread : Takes (Diagnostic.reader (levels + 2)) problem.toJson
      (Draft.ofProblem problem).problem := hrecord.returned Draft.problem
  rwa [Draft.problem_ofProblem] at hread

theorem isFloatFree_toJson (problem : Diagnostic) : problem.toJson.IsFloatFree := by
  obtain ⟨code, message, origin, notes⟩ := problem
  cases origin <;> cases notes <;>
    simp [toJson, Json.isFloatFree_object, Json.isFloatFree_array]

/-- **An origin that is not known and hints that are not there are left out.** -/
theorem get?_toJson_eq_none_iff (problem : Diagnostic) :
    (problem.toJson.get? "origin" = none ↔ problem.origin = none) ∧
      (problem.toJson.get? "notes" = none ↔ problem.notes = []) := by
  obtain ⟨code, message, origin, notes⟩ := problem
  cases origin <;> cases notes <;> simp [toJson, Json.get?]

end Diagnostic

namespace Diagnostics

/-- **A report is taken as it is.** -/
theorem takes_reader (report : Diagnostics) (levels : Nat) :
    Takes (Diagnostics.reader (levels + 3)) report.toJson report := by
  have hproblems := Json.forall₂_takes_map fun problem (_ : problem ∈ report.diagnostics) =>
    problem.takes_reader levels
  exact (Json.takes_list hproblems).map Diagnostics.mk

theorem isFloatFree_toJson (report : Diagnostics) : report.toJson.IsFloatFree := by
  rw [toJson, Json.isFloatFree_array, List.forall_mem_map]
  exact fun problem _ => problem.isFloatFree_toJson

end Diagnostics

end StreamLint
