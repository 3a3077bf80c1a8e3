import Mathlib.Data.List.Induction
import StreamLint.Linter.Setup
import StreamLint.Proofs.Pattern.Index
/-!
# Active checks

The settings say which checks of a catalogue are active and with which listeners
(`StreamLint.Setup.active`). The linter that is set up has these checks and no others, and its index
holds the patterns of their listeners, check after check, each with the place of its check
(`StreamLint.Setup.setUp_linter`, `StreamLint.Linter.ofActive_eq`). A catalogue to which checks were
added one after the other never has two with the same identifier.
-/

namespace StreamLint

namespace Linter

/-! ### Setting up -/

/-- The linter with checks that are active with these listeners, in their order. -/
def ofActive (limits : Limits) (prelude : Prelude)
    (active : List (CheckProfile × List Listener)) : Linter :=
  active.foldl (fun linter check => linter.addCheck check.1 check.2) (.empty limits prelude)

/-- The patterns of active checks with their handlers and the places of the checks. -/
def patternsOf (active : List (CheckProfile × List Listener)) : List (Pattern × OwnedHandler) :=
  active.zipIdx.flatMap fun (check, place) =>
    check.2.map fun listener => (listener.pattern, ⟨place, listener.handler⟩)

variable {limits : Limits} {prelude : Prelude} {active : List (CheckProfile × List Listener)}

theorem patternsOf_concat (profile : CheckProfile) (listeners : List Listener) :
    patternsOf (active ++ [(profile, listeners)]) =
      patternsOf active ++ listeners.map fun listener =>
        (listener.pattern, ⟨active.length, listener.handler⟩) := by
  simp [patternsOf, List.zipIdx_append]

theorem ofActive_concat (profile : CheckProfile) (listeners : List Listener) :
    ofActive limits prelude (active ++ [(profile, listeners)]) =
      (ofActive limits prelude active).addCheck profile listeners := by
  rw [ofActive, List.foldl_concat, ← ofActive]

/-- The checks of a linter, and what it puts into its index. -/
theorem ofActive_eq (limits : Limits) (prelude : Prelude)
    (active : List (CheckProfile × List Listener)) :
    ofActive limits prelude active =
      { patterns := (PatternIndex.empty limits.descendantNodes).addAll (patternsOf active)
        checks := (active.map (·.1)).toArray
        prelude := prelude
        limits := limits } := by
  induction active using List.reverseRecOn with
  | nil => rfl
  | append_singleton active check ih =>
    obtain ⟨profile, listeners⟩ := check
    rw [ofActive_concat, ih, addCheck, patternsOf_concat]
    simp [PatternIndex.addAll, List.foldl_append, List.foldl_map]

/-- The patterns of the check at a place. -/
theorem filter_patternsOf (active : List (CheckProfile × List Listener)) (place : Nat) :
    (patternsOf active).filter (·.2.check == place) =
      (active[place]?.elim [] (·.2)).map fun listener =>
        (listener.pattern, ⟨place, listener.handler⟩) := by
  induction active using List.reverseRecOn with
  | nil => rfl
  | append_singleton active check ih =>
    obtain ⟨profile, listeners⟩ := check
    rw [patternsOf_concat, List.filter_append, ih]
    rcases Nat.lt_trichotomy place active.length with hlt | rfl | hgt
    · have hnew : (listeners.map fun listener => (listener.pattern,
          (⟨active.length, listener.handler⟩ : OwnedHandler))).filter (·.2.check == place) = [] := by
        simp [List.filter_eq_nil_iff, Nat.ne_of_gt hlt]
      rw [hnew, List.append_nil, List.getElem?_append_left hlt]
    · simp [List.filter_eq_self]
    · have hnew : (listeners.map fun listener => (listener.pattern,
          (⟨active.length, listener.handler⟩ : OwnedHandler))).filter (·.2.check == place) = [] := by
        simp [List.filter_eq_nil_iff, Nat.ne_of_lt hgt]
      simp [hnew, List.getElem?_eq_none (Nat.le_of_lt hgt),
        List.getElem?_eq_none (show (active ++ [(profile, listeners)]).length ≤ place by simp; omega)]

/-- The identifiers of the active checks. -/
theorem activeIds_ofActive : (ofActive limits prelude active).activeIds = active.map (·.1.id) := by
  simp [activeIds, ofActive_eq, Function.comp_def]

/-- What is to be handled is handled by listeners of the active checks. -/
theorem exists_of_mem_dispatches {item : NodeId × OwnedHandler}
    (h : item ∈ (ofActive limits prelude active).patterns.dispatches tree) :
    ∃ check ∈ active.zipIdx, ∃ listener ∈ check.1.2,
      item.2 = ⟨check.2, listener.handler⟩ := by
  have hpatterns : (ofActive limits prelude active).patterns =
      (PatternIndex.empty limits.descendantNodes).addAll (patternsOf active) := by
    rw [ofActive_eq]
  rw [hpatterns, PatternIndex.dispatches_eq, PatternIndex.flatMap_handlersAt_addAll] at h
  simp only [List.mem_flatMap, List.mem_map, List.mem_filter, patternsOf] at h
  obtain ⟨node, -, entry, ⟨⟨check, hcheck, listener, hlistener, rfl⟩, -⟩, rfl⟩ := h
  exact ⟨check, hcheck, listener, hlistener, rfl⟩

end Linter

/-! ### Checks of a catalogue -/

namespace Setup

/-- The listeners with which a check is active, if it is. -/
def listeners? (settings : Settings) (check : Check) : Option (List Listener) :=
  let configured := (settings.check? check.profile.id).getD {}
  if configured.enabled then (check.configure configured.options).toOption else none

/-- The active checks of a catalogue, with their listeners. -/
def active (catalogue : Catalogue) (settings : Settings) : List (CheckProfile × List Listener) :=
  catalogue.checks.filterMap fun check => (listeners? settings check).map (check.profile, ·)

theorem mem_active_iff {catalogue : Catalogue} {settings : Settings} {profile : CheckProfile}
    {listeners : List Listener} :
    (profile, listeners) ∈ active catalogue settings ↔
      ∃ check ∈ catalogue.checks, check.profile = profile ∧
        listeners? settings check = some listeners := by
  simp only [active, List.mem_filterMap, Option.map_eq_some_iff, Prod.mk.injEq]
  grind

/-- An active check was configured with its options. -/
theorem configure_eq_ok {settings : Settings} {check : Check} {listeners : List Listener}
    (h : listeners? settings check = some listeners) :
    check.configure ((settings.check? check.profile.id).getD {}).options = .ok listeners := by
  rw [listeners?] at h
  split at h
  · cases hconfigure : check.configure ((settings.check? check.profile.id).getD {}).options with
    | error error => rw [hconfigure] at h; cases h
    | ok configured => rw [hconfigure] at h; exact congrArg Except.ok (Option.some.inj h)
  · cases h

theorem addCheck_linter (settings : Settings) (setup : Setup) (check : Check) :
    (addCheck settings setup check).linter =
      (listeners? settings check).elim setup.linter (setup.linter.addCheck check.profile) := by
  rw [addCheck, listeners?]
  split
  · cases check.configure ((settings.check? check.profile.id).getD {}).options <;> rfl
  · rfl

/-- The linter that is set up is the one with the active checks. -/
theorem setUp_linter (catalogue : Catalogue) (settings : Settings) (limits : Limits)
    (prelude : Prelude) :
    (Linter.setUp catalogue settings limits prelude).linter =
      .ofActive limits prelude (active catalogue settings) := by
  rw [Linter.setUp, Linter.ofActive, active]
  generalize hempty : Linter.empty limits prelude = linter
  have hfold : ∀ setup : Setup, (catalogue.checks.foldl (addCheck settings) setup).linter =
      (catalogue.checks.filterMap fun check =>
        (listeners? settings check).map (check.profile, ·)).foldl
          (fun linter check => linter.addCheck check.1 check.2) setup.linter := by
    induction catalogue.checks with
    | nil => intro setup; rfl
    | cons check rest ih =>
      intro setup
      rw [List.foldl_cons, ih, addCheck_linter, List.filterMap_cons]
      cases listeners? settings check <;> rfl
  exact hfold _

end Setup

/-! ### Catalogues -/

namespace Catalogue

/-- The catalogue that comes of adding checks one after the other. -/
def ofList (checks : List Check) : Catalogue :=
  checks.foldl add {}

theorem ofList_concat (checks : List Check) (check : Check) :
    ofList (checks ++ [check]) = (ofList checks).add check := by
  rw [ofList, List.foldl_concat, ← ofList]

theorem isNone_get? (catalogue : Catalogue) (id : String) :
    (catalogue.get? id).isNone = decide (id ∉ catalogue.ids) := by
  rw [Bool.eq_iff_iff]
  simp [get?, ids]

theorem add_eq (catalogue : Catalogue) (check : Check) :
    catalogue.add check =
      if check.profile.id ∈ catalogue.ids then catalogue else ⟨catalogue.checks ++ [check]⟩ := by
  have hknown := catalogue.isNone_get? check.profile.id
  rw [add]
  cases hget : catalogue.get? check.profile.id with
  | none => rw [if_neg (by simpa [hget] using hknown)]
  | some other => rw [if_pos (by simpa [hget] using hknown)]

/-- The checks of a catalogue have different identifiers. -/
theorem nodup_ids_ofList (checks : List Check) : (ofList checks).ids.Nodup := by
  induction checks using List.reverseRecOn with
  | nil => exact List.nodup_nil
  | append_singleton checks check ih =>
    rw [ofList_concat, add_eq]
    split
    next => exact ih
    next hnew => simpa [ids, List.nodup_append] using ⟨ih, by simpa [ids] using hnew⟩

end Catalogue

/-- Active checks have different identifiers. -/
theorem Setup.nodup_active (checks : List Check) (settings : Settings) :
    ((active (.ofList checks) settings).map (·.1.id)).Nodup := by
  have hsub : ∀ checks : List Check,
      ((checks.filterMap fun check => (listeners? settings check).map (check.profile, ·)).map
        (·.1.id)).Sublist (checks.map (·.profile.id)) := by
    intro checks
    induction checks with
    | nil => exact .slnil
    | cons check rest ih =>
      rw [List.filterMap_cons]
      cases listeners? settings check with
      | none => exact ih.cons _
      | some listeners => exact ih.cons_cons _
  exact (hsub _).nodup (Catalogue.nodup_ids_ofList checks)

end StreamLint
