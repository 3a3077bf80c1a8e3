import Mathlib.Data.List.Forall2
import StreamLint.Proofs.Linter.Active
/-!
# What becomes of a check

Setting up a linter sorts the checks of a catalogue: the settings turn a check off, or the check
refuses its options, or it is active (`StreamLint.Setup.Standing`). Three orders meet in this. The
checks come in the order in which they were added, the settings in that of their keys, and the
active checks are numbered among themselves, so that the number of a check depends on what has
become of the checks before it.

The main statement, `StreamLint.Setup.setUp_sorts`, says that nothing gets mixed up. Every check has
one standing; the index holds the listeners of the active checks, each under the number of its own
check; the problems are those of the settings that name no check, and then those of the checks that
refused, one for each. A check that is turned off is not configured, and the settings of a check
matter to that check alone.
-/

namespace StreamLint

/-! ### Catalogues -/

namespace Catalogue

/-- Of checks with the same identifier the first one counts. -/
theorem get?_ofList (checks : List Check) (id : String) :
    (ofList checks).get? id = checks.find? (·.profile.id == id) := by
  induction checks using List.reverseRecOn with
  | nil => rfl
  | append_singleton checks check ih =>
    rw [ofList_concat, add, List.find?_append, ← ih]
    cases hknown : (ofList checks).get? check.profile.id with
    | none => exact List.find?_append
    | some other =>
      by_cases heq : check.profile.id = id
      · simp [← heq, hknown]
      · simp [heq]

/-- The identifiers come in the order in which they were first added. -/
theorem ids_ofList (checks : List Check) :
    (ofList checks).ids = (checks.map (·.profile.id)).eraseDups := by
  induction checks using List.reverseRecOn with
  | nil => rfl
  | append_singleton checks check ih =>
    have hids : ((ofList checks).add check).ids =
        if check.profile.id ∈ (ofList checks).ids then (ofList checks).ids
        else (ofList checks).ids ++ [check.profile.id] := by
      rw [add_eq]
      split
      · rfl
      · simp [ids]
    rw [ofList_concat, hids, ih, List.map_append, List.eraseDups_append]
    generalize checks.map (·.profile.id) = known
    simp only [List.mem_eraseDups]
    split <;> simp [List.removeAll, List.eraseDups_cons, *]

theorem map_id_eq_of_forall₂ {relation : Check → Check → Prop}
    (hprofile : ∀ check other, relation check other → other.profile = check.profile)
    {checks others : List Check} (h : List.Forall₂ relation checks others) :
    others.map (·.profile.id) = checks.map (·.profile.id) := by
  induction h with
  | nil => rfl
  | @cons check other _ _ hhead _ ih =>
    rw [List.map_cons, List.map_cons, ih, hprofile check other hhead]

/-- Adding checks one after the other only looks at their identifiers. -/
theorem forall₂_ofList {relation : Check → Check → Prop}
    (hprofile : ∀ check other, relation check other → other.profile = check.profile)
    {checks others : List Check} (h : List.Forall₂ relation checks others) :
    List.Forall₂ relation (ofList checks).checks (ofList others).checks := by
  have hfold : ∀ {catalogue other : Catalogue},
      List.Forall₂ relation catalogue.checks other.checks →
      List.Forall₂ relation (checks.foldl add catalogue).checks
        (others.foldl add other).checks := by
    induction h with
    | nil => exact id
    | @cons check replaced _ _ hhead _ ih =>
      intro catalogue other hstart
      have hids : other.ids = catalogue.ids := map_id_eq_of_forall₂ hprofile hstart
      refine ih ?_
      rw [add_eq, add_eq, hids, hprofile check replaced hhead]
      split
      · exact hstart
      · exact List.rel_append hstart (.cons hhead .nil)
  exact hfold .nil

end Catalogue

/-! ### Standings -/

namespace Setup

/-- What becomes of a check. -/
inductive Standing where
  /-- Its settings turn it off. -/
  | disabled
  /-- It has refused its options. -/
  | rejected (error : ConfigError)
  /-- It is active with these listeners. -/
  | active (listeners : List Listener)

/-- The standing that the settings give to a check. -/
def standing (settings : Settings) (check : Check) : Standing :=
  let configured := (settings.check? check.profile.id).getD {}
  if configured.enabled then
    match check.configure configured.options with
    | .ok listeners => .active listeners
    | .error error => .rejected error
  else .disabled

/-- The standing of the check with an identifier, if there is one. -/
def standing? (catalogue : Catalogue) (settings : Settings) (id : String) : Option Standing :=
  (catalogue.get? id).map (standing settings)

/-- The checks of a catalogue with their standings. -/
def standings (catalogue : Catalogue) (settings : Settings) : List (CheckProfile × Standing) :=
  catalogue.checks.map fun check => (check.profile, standing settings check)

namespace Standing

/-- Whether the check is active. -/
def isActive : Standing → Bool
  | active _ => true
  | disabled | rejected _ => false

/-- The listeners of the check, if it is active. -/
def listeners : Standing → List Listener
  | active listeners => listeners
  | disabled | rejected _ => []

/-- What is said of the check, if it has refused its options. -/
def problems : Standing → List Diagnostic
  | rejected error => [{ code := error.code, message := error.message, origin := some error.check }]
  | disabled | active _ => []

end Standing

variable {settings : Settings} {check : Check}

theorem listeners?_eq (settings : Settings) (check : Check) :
    listeners? settings check =
      if (standing settings check).isActive then some (standing settings check).listeners
      else none := by
  rw [listeners?, standing]
  split
  · cases check.configure ((settings.check? check.profile.id).getD {}).options <;> rfl
  · rfl

/-- The active checks are those that are said to be active. -/
theorem active_eq (catalogue : Catalogue) (settings : Settings) :
    active catalogue settings =
      ((standings catalogue settings).filter (·.2.isActive)).map fun check =>
        (check.1, check.2.listeners) := by
  rw [active, standings]
  induction catalogue.checks with
  | nil => rfl
  | cons check rest ih =>
    rw [List.filterMap_cons, List.map_cons, List.filter_cons, listeners?_eq, ih]
    cases (standing settings check).isActive <;> rfl

/-- Other checks than the active ones have no listeners. -/
theorem flatMap_filter_isActive {α : Type} (all : List (CheckProfile × Standing))
    (make : CheckProfile → Listener → α) :
    ((all.filter (·.2.isActive)).flatMap fun check => check.2.listeners.map (make check.1)) =
      all.flatMap fun check => check.2.listeners.map (make check.1) := by
  induction all with
  | nil => rfl
  | cons check rest ih =>
    obtain ⟨profile, standing⟩ := check
    rw [List.filter_cons, List.flatMap_cons, ← ih]
    cases standing <;> rfl

theorem addCheck_errors (settings : Settings) (setup : Setup) (check : Check) :
    (addCheck settings setup check).errors.diagnostics =
      setup.errors.diagnostics ++ (standing settings check).problems := by
  rw [addCheck, standing]
  split
  · cases check.configure ((settings.check? check.profile.id).getD {}).options with
    | ok listeners => simp [Standing.problems]
    | error error => rfl
  · simp [Standing.problems]

/-- **The problems**: first those of settings that name no check, then one for each check that has
refused its options. -/
theorem setUp_errors (catalogue : Catalogue) (settings : Settings) (limits : Limits)
    (prelude : Prelude) :
    (Linter.setUp catalogue settings limits prelude).errors.diagnostics =
      (unknownChecks catalogue settings).diagnostics ++
        (standings catalogue settings).flatMap (·.2.problems) := by
  have hfold : ∀ (checks : List Check) (setup : Setup),
      (checks.foldl (addCheck settings) setup).errors.diagnostics =
        setup.errors.diagnostics ++
          checks.flatMap fun check => (standing settings check).problems := by
    intro checks
    induction checks with
    | nil => intro setup; simp
    | cons check rest ih =>
      intro setup
      rw [List.foldl_cons, ih, addCheck_errors, List.flatMap_cons, List.append_assoc]
  rw [Linter.setUp, hfold, standings, List.flatMap_map]

/-! ### Unknown checks -/

theorem keys_pairwise (settings : Settings) : settings.checks.keys.Pairwise (· < ·) := by
  have hordered : settings.checks.keys.Pairwise fun id other => compare id other = .lt :=
    Std.TreeMap.ordered_keys
  exact hordered.imp fun h => compareOfLessAndEq_eq_lt.mp h

/-- The settings that name no check are gone through in ascending order. -/
theorem exists_unknownChecks (catalogue : Catalogue) (settings : Settings) :
    ∃ unknown : List String, unknown.Pairwise (· < ·) ∧
      (∀ id, id ∈ unknown ↔ (settings.check? id).isSome = true ∧ id ∉ catalogue.ids) ∧
      (unknownChecks catalogue settings).diagnostics = unknown.map unknownCheck := by
  refine ⟨settings.checks.keys.filter fun id => (catalogue.get? id).isNone,
    (keys_pairwise settings).filter _, fun id => ?_, rfl⟩
  rw [List.mem_filter, Std.TreeMap.mem_keys, ← Std.TreeMap.isSome_getElem?_iff_mem,
    catalogue.isNone_get?, decide_eq_true_iff, Settings.check?]

/-! ### Checks that are turned off -/

theorem standing_eq_disabled_iff :
    standing settings check = .disabled ↔
      ((settings.check? check.profile.id).getD {}).enabled = false := by
  rw [standing]
  split
  next h => cases check.configure ((settings.check? check.profile.id).getD {}).options <;> simp [h]
  next h => simpa using h

theorem addCheck_of_disabled (setup : Setup) (h : standing settings check = .disabled) :
    addCheck settings setup check = setup := by
  rw [standing_eq_disabled_iff] at h
  simp [addCheck, h]

/-- **A check that is turned off is not configured**: whatever it would do with its options, the
outcome is the same. -/
theorem setUp_congr {checks others : List Check} (limits : Limits) (prelude : Prelude)
    (h : List.Forall₂ (fun check other => other.profile = check.profile ∧
      (standing settings check = .disabled ∨ other.configure = check.configure)) checks others) :
    Linter.setUp (.ofList others) settings limits prelude =
      Linter.setUp (.ofList checks) settings limits prelude := by
  have hids := Catalogue.map_id_eq_of_forall₂ (fun _ _ hrelated => hrelated.1) h
  have hunknown : unknownChecks (.ofList others) settings =
      unknownChecks (.ofList checks) settings := by
    simp only [unknownChecks, Catalogue.isNone_get?, Catalogue.ids_ofList, hids]
  rw [Linter.setUp, Linter.setUp, hunknown]
  have hall := Catalogue.forall₂_ofList (fun _ _ hrelated => hrelated.1) h
  generalize ({ linter := .empty limits prelude, errors := _ } : Setup) = setup
  generalize (Catalogue.ofList checks).checks = kept, (Catalogue.ofList others).checks = replaced
    at hall ⊢
  induction hall generalizing setup with
  | nil => rfl
  | @cons check other _ _ hhead _ ih =>
    have hsame : addCheck settings setup other = addCheck settings setup check := by
      obtain ⟨hprofile, hdisabled | hconfigure⟩ := hhead
      · have hother : standing settings other = .disabled := by
          rw [standing_eq_disabled_iff, hprofile, ← standing_eq_disabled_iff, hdisabled]
        rw [addCheck_of_disabled setup hdisabled, addCheck_of_disabled setup hother]
      · rw [addCheck, addCheck, hprofile, hconfigure]
    rw [List.foldl_cons, List.foldl_cons, hsame, ih]

end Setup

/-! ### The index -/

theorem PatternIndex.toList_entries_addAll {α : Type} (patterns : PatternIndex α)
    (added : List (Pattern × α)) :
    (patterns.addAll added).entries.toList = patterns.entries.toList ++ added := by
  induction added generalizing patterns with
  | nil => simp [addAll]
  | cons entry rest ih =>
    change ((patterns.add entry.1 entry.2).addAll rest).entries.toList = _
    rw [ih]
    simp [add]

namespace Linter

/-- The listener of an entry of the index, with the check under whose number it stands there. -/
def owned (linter : Linter) (entry : Pattern × OwnedHandler) : Option CheckProfile × Listener :=
  (linter.checks[entry.2.check]?, ⟨entry.1, entry.2.handler⟩)

/-- The listeners in the index, each with its check. -/
def ownedListeners (linter : Linter) : List (Option CheckProfile × Listener) :=
  linter.patterns.entries.toList.map linter.owned

/-- The listeners in the index that stand there under the number of the check with an identifier. -/
def listenersOf (linter : Linter) (id : String) : List Listener :=
  (linter.ownedListeners.filter fun owned => owned.1.any (·.id == id)).map (·.2)

variable {limits : Limits} {prelude : Prelude} {active : List (CheckProfile × List Listener)}

theorem entries_ofActive :
    (ofActive limits prelude active).patterns.entries.toList = patternsOf active := by
  rw [ofActive_eq, PatternIndex.toList_entries_addAll]
  rfl

/-- **The index holds the listeners of the active checks**, each under the number of its own. -/
theorem ownedListeners_ofActive :
    (ofActive limits prelude active).ownedListeners =
      active.flatMap fun check => check.2.map (some check.1, ·) := by
  have hchecks : (ofActive limits prelude active).checks = (active.map (·.1)).toArray := by
    rw [ofActive_eq]
  have hplace : ∀ check ∈ active.zipIdx,
      (check.1.2.map fun listener => (listener.pattern, ⟨check.2, listener.handler⟩)).map
        (ofActive limits prelude active).owned = check.1.2.map (some check.1.1, ·) := by
    rintro ⟨check, place⟩ hmem
    have hget := List.mem_zipIdx_iff_getElem?.mp hmem
    simp [owned, hchecks, hget, Function.comp_def]
  rw [ownedListeners, entries_ofActive, patternsOf, List.map_flatMap, List.flatMap_congr hplace]
  conv_rhs => rw [← List.zipIdx_map_fst 0 active, List.flatMap_map]

end Linter

namespace Setup

/-- **The index holds the listeners of the active checks**, each under the number of its own. -/
theorem ownedListeners_setUp (catalogue : Catalogue) (settings : Settings) (limits : Limits)
    (prelude : Prelude) :
    (Linter.setUp catalogue settings limits prelude).linter.ownedListeners =
      (standings catalogue settings).flatMap fun check =>
        check.2.listeners.map (some check.1, ·) := by
  rw [setUp_linter, Linter.ownedListeners_ofActive, active_eq, List.flatMap_map]
  exact flatMap_filter_isActive _ fun profile listener => (some profile, listener)

/-- The listeners of a check in the index are those with which it is active, if it is. -/
theorem listenersOf_setUp (checks : List Check) (settings : Settings) (limits : Limits)
    (prelude : Prelude) (id : String) :
    (Linter.setUp (.ofList checks) settings limits prelude).linter.listenersOf id =
      (standing? (.ofList checks) settings id).elim [] Standing.listeners := by
  have hnodup := Catalogue.nodup_ids_ofList checks
  rw [Linter.listenersOf, ownedListeners_setUp, standing?, standings, List.flatMap_map,
    Catalogue.get?]
  rw [Catalogue.ids] at hnodup
  generalize (Catalogue.ofList checks).checks = kept at hnodup ⊢
  induction kept with
  | nil => rfl
  | cons check rest ih =>
    rw [List.map_cons, List.nodup_cons] at hnodup
    specialize ih hnodup.2
    rw [List.flatMap_cons, List.filter_append, List.map_append, ih]
    by_cases heq : check.profile.id = id
    · -- no other check has the identifier
      have hnone : rest.find? (·.profile.id == id) = none := by
        simpa [← heq] using hnodup.1
      simp [heq, hnone, List.filter_map, Function.comp_def]
    · simp [heq, List.filter_map, Function.comp_def]

/-! ### How checks are sorted -/

/-- How the checks that are added one after the other are sorted when they are set up. -/
structure Sorts (checks : List Check) (settings : Settings) (limits : Limits) (setup : Setup) :
    Prop where
  /-- Every identifier has one standing, in the order in which the identifiers were first added. -/
  ids : ((standings (.ofList checks) settings).map (·.1.id)).Nodup ∧
    (standings (.ofList checks) settings).map (·.1.id) = (checks.map (·.profile.id)).eraseDups
  /-- It is the standing of the first check that was added with the identifier. -/
  first : ∀ id, standing? (.ofList checks) settings id =
    (checks.find? (·.profile.id == id)).map (standing settings)
  /-- The active checks are those that are said to be active. -/
  activeIds : setup.linter.activeIds =
    ((standings (.ofList checks) settings).filter (·.2.isActive)).map (·.1.id)
  /-- The index holds the listeners of the active checks, each under the number of its own check. -/
  listeners : setup.linter.ownedListeners =
    (standings (.ofList checks) settings).flatMap fun check =>
      check.2.listeners.map (some check.1, ·)
  /-- The index is the one that comes of adding them. -/
  index : setup.linter.patterns =
    (PatternIndex.empty limits.descendantNodes).addAll setup.linter.patterns.entries.toList
  /-- The problems are those of the settings that name no check, in ascending order, and then those
  of the checks that have refused their options. -/
  errors : ∃ unknown : List String, unknown.Pairwise (· < ·) ∧
    (∀ id, id ∈ unknown ↔ (settings.check? id).isSome = true ∧ id ∉ checks.map (·.profile.id)) ∧
    setup.errors.diagnostics = unknown.map unknownCheck ++
      (standings (.ofList checks) settings).flatMap (·.2.problems)

/-- **Setting up sorts the checks.** Whatever checks have been added, and whatever the settings say,
every identifier has one standing, and the linter and the problems are what the standings say. A
check that is turned off is not configured: whatever it would do with its options, the outcome is
the same. And if two settings agree but for those of one check, then all other checks have the same
standings and the same listeners. -/
theorem setUp_sorts (checks : List Check) (settings : Settings) (limits : Limits)
    (prelude : Prelude) :
    Sorts checks settings limits (Linter.setUp (.ofList checks) settings limits prelude) ∧
      (∀ others : List Check, List.Forall₂ (fun check other => other.profile = check.profile ∧
          (standing settings check = .disabled ∨ other.configure = check.configure))
          checks others →
        Linter.setUp (.ofList others) settings limits prelude =
          Linter.setUp (.ofList checks) settings limits prelude) ∧
      ∀ (other : Settings) (changed : String),
        (∀ id, id ≠ changed → other.check? id = settings.check? id) → ∀ id, id ≠ changed →
          standing? (.ofList checks) other id = standing? (.ofList checks) settings id ∧
          (Linter.setUp (.ofList checks) other limits prelude).linter.listenersOf id =
            (Linter.setUp (.ofList checks) settings limits prelude).linter.listenersOf id := by
  have hids : (standings (.ofList checks) settings).map (·.1.id) =
      (Catalogue.ofList checks).ids := by
    simp [standings, Catalogue.ids]
  refine ⟨⟨?_, fun id => ?_, ?_, ?_, ?_, ?_⟩, fun others => setUp_congr limits prelude,
    fun other changed hsame id hne => ?_⟩
  · rw [hids]
    exact ⟨Catalogue.nodup_ids_ofList checks, Catalogue.ids_ofList checks⟩
  · rw [standing?, Catalogue.get?_ofList]
  · rw [setUp_linter, Linter.activeIds_ofActive, active_eq, List.map_map]
    rfl
  · exact ownedListeners_setUp ..
  · rw [setUp_linter, Linter.entries_ofActive, Linter.ofActive_eq]
  · obtain ⟨unknown, hascending, hmem, hunknown⟩ :=
      exists_unknownChecks (Catalogue.ofList checks) settings
    refine ⟨unknown, hascending, fun id => ?_, by rw [setUp_errors, hunknown]⟩
    rw [hmem, Catalogue.ids_ofList, List.mem_eraseDups]
  · have hstanding : standing? (.ofList checks) other id =
        standing? (.ofList checks) settings id := by
      refine Option.map_congr fun check hcheck => ?_
      obtain rfl : check.profile.id = id := by simpa using List.find?_some hcheck
      rw [standing, standing, hsame _ hne]
    exact ⟨hstanding, by rw [listenersOf_setUp, listenersOf_setUp, hstanding]⟩

/-- A check whose configuration comes to the same with all options. -/
def fixedCheck (id : String) (outcome : Except ConfigError (List Listener)) : Check where
  profile := { id, description := "", category := "", messages := [] }
  configure _ := outcome

/-- A check that refuses its options, one with a listener for calls, a second one with the same
identifier, and one more with the listener. -/
def mixed : List Check :=
  let calls : Listener := ⟨⟨.kind .callExpression, .all⟩, fun _ _ _ => return {}⟩
  let refusal (id : String) : ConfigError := .invalidOption id "there are no good ones"
  [fixedCheck "picky" (.error (refusal "picky")), fixedCheck "calls" (.ok [calls]),
    fixedCheck "calls" (.error (refusal "calls")), fixedCheck "late" (.ok [calls])]

/-- With the check for calls turned off the last check has another number, but still its own
listener. -/
theorem setUp_sorts_mixed :
    let settings := ({} : Settings).withEntry "ghost" {}
    let other := settings.withEntry "calls" .disabled
    let before := Linter.setUp (.ofList mixed) settings {} {}
    let after := Linter.setUp (.ofList mixed) other {} {}
    (before.linter.activeIds = ["calls", "late"] ∧ after.linter.activeIds = ["late"]) ∧
      (before.errors.diagnostics.map (·.origin) = [some "ghost", some "picky"] ∧
        after.errors.diagnostics = before.errors.diagnostics) ∧
      (before.linter.listenersOf "late").length = 1 ∧
      after.linter.listenersOf "late" = before.linter.listenersOf "late" := by
  intro settings other before after
  have hsame : ∀ id, id ≠ "calls" → other.check? id = settings.check? id := by
    intro id hne
    simp [other, Settings.check?, Settings.withEntry, Std.TreeMap.getElem?_insert, Ne.symm hne]
  obtain ⟨-, -, hothers⟩ := setUp_sorts mixed settings {} {}
  exact ⟨⟨by decide, by decide⟩, ⟨by decide, by decide⟩, by decide,
    (hothers other "calls" hsame "late" (by decide)).2⟩

end Setup

end StreamLint
