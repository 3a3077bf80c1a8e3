import StreamLint.Proofs.Linter.Active
import StreamLint.Proofs.Linter.Kept
import StreamLint.Proofs.Linter.Steady
/-!
# Checks do not get in each other's way

The handlers of all active checks share one pass over a tree: one oracle, one log of findings with a
count for every check, and one list of the checks that have failed. This file says what the pass
tells of a single check. Its outcomes are those of its own listeners at the nodes that they match,
up to the first one that fails (`StreamLint.Listener.saidIn`); its findings are the first ones among
these outcomes, as many as the limit allows; and it stops once or not at all. No other check occurs
in this, so it is what a linter tells in which the check alone is active
(`StreamLint.Linter.separate`).

Handlers share the oracle too, whose answers may depend on what it was asked before. So the handlers
have to be steady: they may depend on fixed answers only.
-/

namespace StreamLint

/-! ### Up to the first failure -/

/-- The outcomes up to the first one that fails, and that one. -/
def untilFailure : List (NodeId × Outcome) → List (NodeId × Outcome)
  | [] => []
  | said :: rest => if said.2.failure.isSome then [said] else said :: untilFailure rest

/-- A later outcome counts only if none before it has failed. -/
theorem untilFailure_concat (said : List (NodeId × Outcome)) (next : NodeId × Outcome) :
    untilFailure (said ++ [next]) =
      untilFailure said ++
        if (untilFailure said).any (·.2.failure.isSome) then [] else [next] := by
  induction said with
  | nil => cases h : next.2.failure <;> simp [untilFailure, h]
  | cons first rest ih =>
    rw [List.cons_append, untilFailure, untilFailure]
    split
    next hfails => simp [hfails]
    next hgoes =>
      have hnone : first.2.failure.isSome = false := by simpa using hgoes
      rw [ih, List.cons_append, List.any_cons, hnone, Bool.false_or]

/-- What is reported of a check that fails at a node. -/
def CheckProfile.stop? (profile : CheckProfile) (tree : SyntaxTree) (said : NodeId × Outcome) :
    Option StoppedCheck :=
  said.2.failure.map fun error => ⟨profile.id, error.message, tree.span? said.1⟩

/-- **A check stops at most once**, with the last of its outcomes. -/
theorem filterMap_stop?_untilFailure (profile : CheckProfile) (tree : SyntaxTree)
    (said : List (NodeId × Outcome)) :
    (untilFailure said).filterMap (profile.stop? tree) =
      ((untilFailure said).getLast?.bind (profile.stop? tree)).toList := by
  induction said with
  | nil => rfl
  | cons first rest ih =>
    rw [untilFailure]
    split
    next hfails =>
      rw [List.getLast?_singleton, Option.bind_some]
      cases hstop : profile.stop? tree first <;> simp [hstop]
    next hgoes =>
      have hnone : profile.stop? tree first = none := by
        simpa [CheckProfile.stop?] using hgoes
      rw [List.filterMap_cons, hnone, ih]
      -- the first outcome does not fail, and it is not the last one unless it is the only one
      cases hrest : untilFailure rest with
      | nil => simp [hnone]
      | cons second others => simp [List.getLast?_cons_cons]

/-- What the listeners of a check come to in a tree, at the nodes that they match, up to the first
failure. All their questions are put to the same oracle. -/
def Listener.saidIn (listeners : List Listener) (profile : CheckProfile) (tree : SyntaxTree)
    (budget : Nat) (oracle : Oracle) : List (NodeId × Outcome) :=
  untilFailure <| tree.preorder.flatMap fun node =>
    (listeners.filter fun listener => listener.pattern.matchesAt tree budget node).map
      fun listener => (node, ((listener.handler tree profile node).run oracle).1)

namespace Linter

/-! ### One pass -/

/-- The outcome of a handler with a given oracle; none for a handler of no check. -/
def outcomeOf (linter : Linter) (tree : SyntaxTree) (oracle : Oracle)
    (item : NodeId × OwnedHandler) : NodeId × Outcome :=
  match linter.checks[item.2.check]? with
  | some profile => (item.1, ((item.2.handler tree profile item.1).run oracle).1)
  | none => (item.1, {})

/-- What the check at a place says, of all that there is to be handled. -/
def saidBy (linter : Linter) (tree : SyntaxTree) (oracle : Oracle)
    (items : List (NodeId × OwnedHandler)) (place : Nat) : List (NodeId × Outcome) :=
  untilFailure ((items.filter (·.2.check == place)).map (linter.outcomeOf tree oracle))

/-- What is to be handled belongs to an active check, and its handler depends on fixed answers. -/
def IsSteadyAt (linter : Linter) (tree : SyntaxTree) (fixed : Oracle.Query → Option Bool)
    (item : NodeId × OwnedHandler) : Prop :=
  ∃ profile, linter.checks[item.2.check]? = some profile ∧
    item.2.handler.IsSteady tree profile fixed

/-- **What a pass tells of each check** in its middle: of the check at a place it has the findings
and the failure that the check says, whatever the other checks say. -/
structure Pass.Tells (linter : Linter) (tree : SyntaxTree) (fixed : Oracle.Query → Option Bool)
    (oracle : Oracle) (items : List (NodeId × OwnedHandler)) (pass : Pass) : Prop where
  /-- The oracle gives the fixed answers. -/
  gives : pass.oracle.Gives fixed
  /-- The log has kept the first findings of each check. -/
  found : ∃ found, FindingLog.Keeps linter.limits.findingsPerCheck found pass.log ∧
    (∀ finding ∈ found, finding.checkId ∈ linter.activeIds) ∧
    ∀ place profile, linter.checks[place]? = some profile →
      found.filter (·.checkId == profile.id) =
        (linter.saidBy tree oracle items place).flatMap (·.2.findings)
  /-- The checks that have failed are noted. -/
  failed : ∀ place, pass.failed.contains place =
    (linter.saidBy tree oracle items place).any (·.2.failure.isSome)
  /-- Only active checks fail. -/
  stopped : ∀ failure ∈ pass.failures, failure.checkId ∈ linter.activeIds
  /-- The failures are noted. -/
  failures : ∀ place profile, linter.checks[place]? = some profile →
    pass.failures.filter (·.checkId == profile.id) =
      (linter.saidBy tree oracle items place).filterMap (profile.stop? tree)

variable {linter : Linter} {tree : SyntaxTree} {fixed : Oracle.Query → Option Bool}
  {oracle : Oracle} {items : List (NodeId × OwnedHandler)} {pass : Pass}

/-- What a check says when there is one thing more to be handled. -/
theorem saidBy_concat (item : NodeId × OwnedHandler) (place : Nat) :
    linter.saidBy tree oracle (items ++ [item]) place =
      linter.saidBy tree oracle items place ++
        if item.2.check = place ∧
            (linter.saidBy tree oracle items place).any (·.2.failure.isSome) = false then
          [linter.outcomeOf tree oracle item] else [] := by
  unfold saidBy
  rw [List.filter_append, List.map_append]
  by_cases hplace : item.2.check = place
  · have hone : [item].filter (·.2.check == place) = [item] := by simp [hplace]
    rw [hone, List.map_singleton, untilFailure_concat]
    simp only [hplace, true_and]
    cases (untilFailure ((items.filter (·.2.check == place)).map
      (linter.outcomeOf tree oracle))).any (·.2.failure.isSome) <;> rfl
  · have hnone : [item].filter (·.2.check == place) = [] := by simp [hplace]
    simp [hnone, hplace]

/-- The identifier of the check at a place. -/
theorem activeIds_getElem? {place : Nat} {profile : CheckProfile}
    (h : linter.checks[place]? = some profile) : linter.activeIds[place]? = some profile.id := by
  simp [activeIds, h]

/-- Of what bears the identifier of one check, another check has nothing. -/
theorem filter_id_eq {α : Type} {idOf : α → String} (hids : linter.activeIds.Nodup)
    {first second : Nat} {profile other : CheckProfile}
    (hfirst : linter.checks[first]? = some profile)
    (hsecond : linter.checks[second]? = some other) {own : List α}
    (hown : ∀ a ∈ own, idOf a = profile.id) :
    own.filter (idOf · == other.id) = if first = second then own else [] := by
  split
  next heq =>
    subst heq
    obtain rfl : profile = other := Option.some.inj (hfirst.symm.trans hsecond)
    exact List.filter_eq_self.mpr fun a ha => by simp [hown a ha]
  next hne =>
    refine List.filter_eq_nil_iff.mpr fun a ha => ?_
    rw [hown a ha, beq_iff_eq]
    intro hid
    have hlt := (List.getElem?_eq_some_iff.mp (activeIds_getElem? hfirst)).1
    exact hne ((List.getElem?_inj hlt hids).mp
      ((activeIds_getElem? hfirst).trans (hid ▸ (activeIds_getElem? hsecond).symm)))

/-- A handler whose check has failed is not run. -/
theorem handle_of_failed {item : NodeId × OwnedHandler}
    (hfailed : pass.failed.contains item.2.check = true) : linter.handle tree pass item = pass := by
  rw [handle, if_pos hfailed]

/-- What a handler whose check has not failed does to a pass. -/
theorem handle_of_open {item : NodeId × OwnedHandler} {profile : CheckProfile} {outcome : Outcome}
    {after : Oracle} (hprofile : linter.checks[item.2.check]? = some profile)
    (hopen : pass.failed.contains item.2.check = false)
    (hrun : (item.2.handler tree profile item.1).run pass.oracle = (outcome, after)) :
    linter.handle tree pass item =
      { oracle := after
        log := pass.log.addAll outcome.findings
        failed := if outcome.failure.isSome then item.2.check :: pass.failed else pass.failed
        failures := pass.failures ++ (profile.stop? tree (item.1, outcome)).toList } := by
  obtain ⟨node, active⟩ := item
  rw [handle, if_neg (by simpa using hopen)]
  simp only [hprofile, hrun]
  cases hfailure : outcome.failure <;> simp [CheckProfile.stop?, hfailure]

/-- **One handler**: the pass tells of its check what the handler says, unless the check has failed,
and of every other check what it told before. -/
theorem Pass.Tells.handle (hids : linter.activeIds.Nodup) (horacle : oracle.Gives fixed)
    (h : pass.Tells linter tree fixed oracle items) {item : NodeId × OwnedHandler}
    (hitem : linter.IsSteadyAt tree fixed item) :
    (linter.handle tree pass item).Tells linter tree fixed oracle (items ++ [item]) := by
  obtain ⟨profile, hprofile, hsteady⟩ := hitem
  by_cases hfailed : pass.failed.contains item.2.check = true
  -- the check has failed before, so it says nothing more, and neither does any other check
  · have hsame : ∀ place, linter.saidBy tree oracle (items ++ [item]) place =
        linter.saidBy tree oracle items place := by
      intro place
      rw [saidBy_concat, if_neg, List.append_nil]
      rintro ⟨rfl, hopen⟩
      rw [h.failed, hopen] at hfailed
      cases hfailed
    rw [handle_of_failed hfailed]
    exact ⟨h.gives, by simpa only [hsame] using h.found, by simpa only [hsame] using h.failed,
      h.stopped, by simpa only [hsame] using h.failures⟩
  · have hopen : pass.failed.contains item.2.check = false := by simpa using hfailed
    obtain ⟨outcome, hown, hcomes⟩ := hsteady item.1
    obtain ⟨hhere, hgives⟩ := hcomes pass.oracle h.gives
    have hmore : ∀ place, linter.saidBy tree oracle (items ++ [item]) place =
        linter.saidBy tree oracle items place ++
          if item.2.check = place then [(item.1, outcome)] else [] := by
      intro place
      have houtcome : linter.outcomeOf tree oracle item = (item.1, outcome) := by
        simp only [outcomeOf, hprofile, (hcomes oracle horacle).1]
      rw [saidBy_concat, houtcome]
      by_cases hplace : item.2.check = place
      · subst hplace
        rw [← h.failed, hopen]
        simp
      · simp [hplace]
    rw [handle_of_open hprofile hopen (Prod.ext hhere rfl)]
    obtain ⟨found, hkeeps, howned, hfound⟩ := h.found
    have hid : profile.id ∈ linter.activeIds := List.mem_of_getElem? (activeIds_getElem? hprofile)
    have hstop : ∀ stopped ∈ (profile.stop? tree (item.1, outcome)).toList,
        stopped.checkId = profile.id := by
      simp [CheckProfile.stop?]
    refine ⟨hgives, ⟨_, hkeeps.addAll outcome.findings, fun finding hfinding => ?_,
      fun place other hat => ?_⟩, fun place => ?_, fun stopped hstopped => ?_,
      fun place other hat => ?_⟩
    · rcases List.mem_append.mp hfinding with hold | hnew
      · exact howned finding hold
      · rwa [hown finding hnew]
    · rw [List.filter_append, hfound place other hat, filter_id_eq hids hprofile hat hown, hmore,
        List.flatMap_append]
      split <;> simp
    · rw [hmore, List.any_append, ← h.failed]
      cases hfails : outcome.failure.isSome with
      | false =>
        rw [if_neg Bool.false_ne_true]
        split <;> simp [hfails]
      | true =>
        rw [if_pos rfl, List.contains_cons]
        split
        next hplace => simp [hplace, hfails]
        next hplace => simp [Ne.symm hplace]
    · rcases List.mem_append.mp hstopped with hold | hnew
      · exact h.stopped stopped hold
      · rwa [hstop stopped hnew]
    · rw [List.filter_append, h.failures place other hat, filter_id_eq hids hprofile hat hstop,
        hmore, List.filterMap_append]
      by_cases hplace : item.2.check = place
      · subst hplace
        obtain rfl : profile = other := Option.some.inj (hprofile.symm.trans hat)
        cases hcase : profile.stop? tree (item.1, outcome) <;> simp [hcase]
      · simp [hplace]

/-- **A pass over many handlers** tells of each check what the check says. -/
theorem Pass.Tells.foldl_handle (hids : linter.activeIds.Nodup) (horacle : oracle.Gives fixed)
    (h : pass.Tells linter tree fixed oracle items) {further : List (NodeId × OwnedHandler)}
    (hfurther : ∀ item ∈ further, linter.IsSteadyAt tree fixed item) :
    (further.foldl (linter.handle tree) pass).Tells linter tree fixed oracle (items ++ further) := by
  induction further generalizing items pass with
  | nil => simpa using h
  | cons item rest ih =>
    have hfirst := h.handle hids horacle (hfurther item (by simp))
    have hrest := ih hfirst fun other hother => hfurther other (by simp [hother])
    rwa [List.append_assoc, List.singleton_append] at hrest

/-- A pass that has not begun tells nothing. -/
theorem Pass.tells_nil (horacle : oracle.Gives fixed) :
    Pass.Tells linter tree fixed oracle []
      { oracle := oracle, log := { limit := some linter.limits.findingsPerCheck } } where
  gives := horacle
  found := ⟨[], FindingLog.keeps_nil _, by simp, fun _ _ _ => rfl⟩
  failed _ := rfl
  stopped := by simp
  failures _ _ _ := rfl

/-- A check that has failed goes on being one. -/
theorem contains_failed_handle {check : Nat} (hfailed : pass.failed.contains check = true)
    (item : NodeId × OwnedHandler) :
    (linter.handle tree pass item).failed.contains check = true := by
  cases hopen : pass.failed.contains item.2.check with
  | true => rwa [handle_of_failed hopen]
  | false =>
    cases hprofile : linter.checks[item.2.check]? with
    | none => rwa [handle, if_neg (by simpa using hopen), hprofile]
    | some profile =>
      rw [handle_of_open hprofile hopen rfl]
      dsimp only
      split
      · rw [List.contains_cons, hfailed, Bool.or_true]
      · exact hfailed

/-- A check that fails is noted. -/
theorem contains_failed_handle_of_fails {item : NodeId × OwnedHandler} {profile : CheckProfile}
    (hprofile : linter.checks[item.2.check]? = some profile)
    (hfails : ((item.2.handler tree profile item.1).run pass.oracle).1.failure.isSome = true) :
    (linter.handle tree pass item).failed.contains item.2.check = true := by
  cases hopen : pass.failed.contains item.2.check with
  | true => rwa [handle_of_failed hopen]
  | false =>
    rcases hrun : (item.2.handler tree profile item.1).run pass.oracle with ⟨outcome, after⟩
    rw [hrun] at hfails
    simp [handle_of_open hprofile hopen hrun, hfails]

/-- Once a check has failed, it is as if none of its handlers were there. -/
theorem foldl_handle_of_failed {check : Nat} (hfailed : pass.failed.contains check = true)
    (further : List (NodeId × OwnedHandler)) :
    further.foldl (linter.handle tree) pass =
      (further.filter (·.2.check != check)).foldl (linter.handle tree) pass := by
  induction further generalizing pass with
  | nil => rfl
  | cons item rest ih =>
    rw [List.foldl_cons, List.filter_cons]
    by_cases hplace : item.2.check = check
    · subst hplace
      rw [handle_of_failed hfailed, ih hfailed]
      simp
    · rw [ih (contains_failed_handle hfailed item)]
      simp [hplace]

/-! ### The pass over a tree -/

variable {limits : Limits} (prelude : Prelude) {active : List (CheckProfile × List Listener)}
  {tree : SyntaxTree} {model : FileModel} {fixed : Oracle.Query → Option Bool}

/-- **What the check at a place says** is what its own listeners come to in the tree. -/
theorem saidBy_ofActive {place : Nat} {profile : CheckProfile} {listeners : List Listener}
    (h : active[place]? = some (profile, listeners)) (tree : SyntaxTree) (oracle : Oracle) :
    (ofActive limits prelude active).saidBy tree oracle
        ((ofActive limits prelude active).patterns.dispatches tree) place =
      Listener.saidIn listeners profile tree limits.descendantNodes oracle := by
  have hprofile : (ofActive limits prelude active).checks[place]? = some profile := by
    simp [ofActive_eq, h]
  have hpatterns : (ofActive limits prelude active).patterns =
      (PatternIndex.empty limits.descendantNodes).addAll (patternsOf active) := by
    rw [ofActive_eq]
  rw [saidBy, Listener.saidIn, hpatterns, PatternIndex.dispatches_eq,
    PatternIndex.flatMap_handlersAt_addAll, List.filter_flatMap, List.map_flatMap]
  congr 1
  refine List.flatMap_congr fun node _ => ?_
  -- at one node, the handlers of the check are those of its own listeners
  have hown : ((patternsOf active).filter fun entry =>
      entry.1.matchesAt tree limits.descendantNodes node).filter (·.2.check == place) =
      ((listeners.map fun listener => (listener.pattern, ⟨place, listener.handler⟩)).filter
        fun entry : Pattern × OwnedHandler =>
          entry.1.matchesAt tree limits.descendantNodes node) := by
    rw [List.filter_comm, filter_patternsOf, h, Option.elim_some]
  rw [List.filter_map]
  simp only [Function.comp_def]
  rw [hown]
  simp only [List.filter_map, List.map_map, Function.comp_def, outcomeOf, hprofile]

/-- **The whole pass** tells of each active check what its own listeners come to. -/
theorem tells_run (hids : (active.map (·.1.id)).Nodup)
    (hfixed : (Oracle.fresh model limits.resolutionDepth).Gives fixed)
    (hsteady : ∀ check ∈ active, ∀ listener ∈ check.2,
      listener.handler.IsSteady tree check.1 fixed) :
    ((ofActive limits prelude active).run tree model).Tells (ofActive limits prelude active) tree
      fixed (.fresh model limits.resolutionDepth)
      ((ofActive limits prelude active).patterns.dispatches tree) := by
  have hlimits : (ofActive limits prelude active).limits = limits := by rw [ofActive_eq]
  have hitems : ∀ item ∈ (ofActive limits prelude active).patterns.dispatches tree,
      (ofActive limits prelude active).IsSteadyAt tree fixed item := by
    intro item hitem
    obtain ⟨check, hcheck, listener, hlistener, howner⟩ := exists_of_mem_dispatches hitem
    have hat := List.mem_zipIdx_iff_getElem?.mp hcheck
    refine ⟨check.1.1, ?_, ?_⟩
    · simp [ofActive_eq, howner, hat]
    · rw [howner]
      exact hsteady check.1 (List.mem_of_getElem? hat) listener hlistener
  have hpass := (Pass.tells_nil hfixed).foldl_handle (by rwa [activeIds_ofActive]) hfixed hitems
  rw [run]
  simp only [hlimits, List.nil_append] at hpass ⊢
  exact hpass

/-- **What one check contributes** to a pass: the first findings of its listeners, and at most one
failure. -/
theorem filter_run_ofActive (hids : (active.map (·.1.id)).Nodup)
    (hfixed : (Oracle.fresh model limits.resolutionDepth).Gives fixed)
    (hsteady : ∀ check ∈ active, ∀ listener ∈ check.2,
      listener.handler.IsSteady tree check.1 fixed)
    {profile : CheckProfile} {listeners : List Listener} (hactive : (profile, listeners) ∈ active) :
    let pass := (ofActive limits prelude active).run tree model
    let said := Listener.saidIn listeners profile tree limits.descendantNodes
      (.fresh model limits.resolutionDepth)
    pass.log.findings.toList.filter (·.checkId == profile.id) =
        (said.flatMap (·.2.findings)).take limits.findingsPerCheck ∧
      pass.failures.filter (·.checkId == profile.id) =
        (said.getLast?.bind (profile.stop? tree)).toList := by
  intro pass said
  have htells := tells_run prelude hids hfixed hsteady
  obtain ⟨place, hplace⟩ := List.mem_iff_getElem?.mp hactive
  have hprofile : (ofActive limits prelude active).checks[place]? = some profile := by
    simp [ofActive_eq, hplace]
  have hlimits : (ofActive limits prelude active).limits = limits := by rw [ofActive_eq]
  have hsaid : (ofActive limits prelude active).saidBy tree (.fresh model limits.resolutionDepth)
      ((ofActive limits prelude active).patterns.dispatches tree) place = said :=
    saidBy_ofActive prelude hplace tree _
  obtain ⟨found, hkeeps, -, hfound⟩ := htells.found
  refine ⟨?_, ?_⟩
  · rw [hkeeps.findings_eq, filter_keepFirst, hfound place profile hprofile, hsaid, hlimits]
  · rw [htells.failures place profile hprofile, hsaid]
    exact filterMap_stop?_untilFailure profile tree _

/-- Where one check is active alone, all findings and failures are its own. -/
theorem run_ofActive_singleton (hfixed : (Oracle.fresh model limits.resolutionDepth).Gives fixed)
    {profile : CheckProfile} {listeners : List Listener}
    (hsteady : ∀ listener ∈ listeners, listener.handler.IsSteady tree profile fixed) :
    let pass := (ofActive limits prelude [(profile, listeners)]).run tree model
    pass.log.findings.toList.filter (·.checkId == profile.id) = pass.log.findings.toList ∧
      pass.failures.filter (·.checkId == profile.id) = pass.failures := by
  intro pass
  have hsingle : ∀ check ∈ [(profile, listeners)],
      ∀ listener ∈ check.2, listener.handler.IsSteady tree check.1 fixed := by
    simpa using hsteady
  have hnodup : ([(profile, listeners)].map (·.1.id)).Nodup := List.pairwise_singleton _ _
  have htells := tells_run prelude hnodup hfixed hsingle
  have hids : (ofActive limits prelude [(profile, listeners)]).activeIds = [profile.id] := by
    simp [activeIds_ofActive]
  obtain ⟨found, hkeeps, howned, -⟩ := htells.found
  refine ⟨List.filter_eq_self.mpr fun finding hfinding => ?_,
    List.filter_eq_self.mpr fun failure hfailure => ?_⟩
  · rw [hkeeps.findings_eq] at hfinding
    simpa [hids] using howned finding (mem_of_mem_keepFirst hfinding)
  · simpa [hids] using htells.stopped failure hfailure

/-- **Checks do not interfere.** Take any checks and settings, and any tree and model, where the
handlers of the active checks depend on the tree, the node and fixed answers of the oracle only. A
check that is active in one linter, and is the only one in another with the same settings for it,
has in both the same findings in the same order, before and after silencing, and the same failures.

They are what its own listeners come to at the nodes that these match, up to the first failure: the
findings made until then are kept as far as the limit allows, that failure is the only one, and once
a check has failed the pass goes on as if none of its handlers were there. -/
theorem separate (checks : List Check) (settings : Settings) (limits : Limits) (prelude : Prelude)
    (uri : String) (tree : SyntaxTree) (model : FileModel) (fixed : Oracle.Query → Option Bool)
    (hfixed : (Oracle.fresh model limits.resolutionDepth).Gives fixed)
    (hsteady : ∀ check ∈ (Catalogue.ofList checks).checks, ∀ listeners,
      Setup.listeners? settings check = some listeners →
        ∀ listener ∈ listeners, listener.handler.IsSteady tree check.profile fixed)
    (check : Check) (hcheck : check ∈ (Catalogue.ofList checks).checks) (listeners : List Listener)
    (hactive : Setup.listeners? settings check = some listeners)
    (others : List Check) (alone : Settings) (hother : check ∈ (Catalogue.ofList others).checks)
    (hsame : alone.check? check.profile.id = settings.check? check.profile.id)
    (honly : (setUp (.ofList others) alone limits prelude).linter.activeIds = [check.profile.id]) :
    let together := (setUp (.ofList checks) settings limits prelude).linter
    let apart := (setUp (.ofList others) alone limits prelude).linter
    let said := Listener.saidIn listeners check.profile tree limits.descendantNodes
      (.fresh model limits.resolutionDepth)
    (together.run tree model).log.findings.toList.filter (·.checkId == check.profile.id) =
        (apart.run tree model).log.findings.toList ∧
      (together.reportTree uri tree model).findings.filter (·.checkId == check.profile.id) =
        (apart.reportTree uri tree model).findings ∧
      (together.reportTree uri tree model).failures.filter (·.checkId == check.profile.id) =
        (apart.reportTree uri tree model).failures ∧
      (apart.run tree model).log.findings.toList =
        (said.flatMap (·.2.findings)).take limits.findingsPerCheck ∧
      (apart.reportTree uri tree model).failures =
        (said.getLast?.bind (check.profile.stop? tree)).toList ∧
      ∀ (pass : Pass) (item : NodeId × OwnedHandler) (profile : CheckProfile),
        together.checks[item.2.check]? = some profile →
        ((item.2.handler tree profile item.1).run pass.oracle).1.failure.isSome →
        ∀ further : List (NodeId × OwnedHandler),
          (item :: further).foldl (together.handle tree) pass =
            (item :: further.filter (·.2.check != item.2.check)).foldl
              (together.handle tree) pass := by
  intro together apart said
  have hmine : (check.profile, listeners) ∈ Setup.active (.ofList checks) settings :=
    Setup.mem_active_iff.mpr ⟨check, hcheck, rfl, hactive⟩
  have hsteadyAll : ∀ active ∈ Setup.active (.ofList checks) settings,
      ∀ listener ∈ active.2, listener.handler.IsSteady tree active.1 fixed := by
    rintro ⟨_, taken⟩ hmem
    obtain ⟨other, hother, rfl, htaken⟩ := Setup.mem_active_iff.mp hmem
    exact hsteady other hother taken htaken
  have hone : Setup.active (.ofList others) alone = [(check.profile, listeners)] := by
    have hmem : (check.profile, listeners) ∈ Setup.active (.ofList others) alone :=
      Setup.mem_active_iff.mpr ⟨check, hother, rfl, by rw [← hactive, Setup.listeners?,
        Setup.listeners?, hsame]⟩
    rw [Setup.setUp_linter, activeIds_ofActive] at honly
    obtain ⟨only, honly, -⟩ := List.map_eq_singleton_iff.mp honly
    rw [honly, List.mem_singleton] at hmem
    rw [honly, hmem]
  have htogether : together = ofActive limits prelude (Setup.active (.ofList checks) settings) :=
    Setup.setUp_linter ..
  have hapart : apart = ofActive limits prelude [(check.profile, listeners)] :=
    (Setup.setUp_linter ..).trans (by rw [hone])
  have hsteadyOne : ∀ listener ∈ listeners, listener.handler.IsSteady tree check.profile fixed :=
    hsteady check hcheck listeners hactive
  -- both linters come to what the listeners of the check come to
  have hsteadySingle : ∀ active ∈ [(check.profile, listeners)],
      ∀ listener ∈ active.2, listener.handler.IsSteady tree active.1 fixed := by
    simpa using hsteadyOne
  have hnodup : ([(check.profile, listeners)].map (·.1.id)).Nodup := List.pairwise_singleton _ _
  obtain ⟨hfound, hfailed⟩ := filter_run_ofActive prelude (Setup.nodup_active checks settings)
    hfixed hsteadyAll hmine
  obtain ⟨hfoundOne, hfailedOne⟩ := filter_run_ofActive prelude hnodup hfixed hsteadySingle
    (List.mem_singleton_self _)
  obtain ⟨hownFound, hownFailed⟩ := run_ofActive_singleton prelude hfixed hsteadyOne
  rw [← htogether] at hfound hfailed
  rw [← hapart] at hfoundOne hfailedOne hownFound hownFailed
  rw [hownFound] at hfoundOne
  rw [hownFailed] at hfailedOne
  have hequal := hfound.trans hfoundOne.symm
  refine ⟨hequal, ?_, hfailed.trans hfailedOne.symm, hfoundOne, hfailedOne, ?_⟩
  · simp only [reportTree, List.partition_eq_filter_filter]
    rw [List.filter_comm, hequal]
  · intro pass item profile hprofile hfails further
    exact foldl_handle_of_failed (contains_failed_handle_of_fails hprofile hfails) further

/-- Reports a call with a message that there is not. -/
def faultyHandler : Handler := fun tree profile call =>
  return .ofReports [profile.finding tree call "missing" none]

/-- A check that fails at every call, for want of a message. -/
def faulty : Check where
  profile := { id := "faulty", description := "Has no message.", category := "None", messages := [] }
  configure _ := do
    let listener ← Listener.ofSelector "faulty" (.kind .callExpression) faultyHandler
    return [listener]

/-- Where no step is taken beyond the first type, no type is masked. -/
theorem unmasked_zero (table : TypeTable) : table.Unmasked 0 := by
  rintro type met ⟨k, hk, hwalk⟩ hmet
  obtain rfl := Nat.le_zero.mp hk
  cases hwalk
  exact hmet

/-- The document `s.subscribe();`. -/
def bareSubscription : Concrete.Document where
  text := "s.subscribe();"
  dialect := .typeScript
  root :=
    .named "program" 0 14 none
      [.named "expression_statement" 0 14 none
        [.named "call_expression" 0 13 none
          [.named "member_expression" 0 11 (some "function")
            [.named "identifier" 0 1 (some "object") [],
              .named "property_identifier" 2 11 (some "property") []],
            .named "arguments" 11 13 (some "arguments") []]]]

/-- A model in which the name at the fifth node is that of a stream. -/
def bareSubscriptionModel : FileModel where
  types := ⟨TypeTable.intrinsics ++ #[.foreign "Observable" []]⟩
  typeOf? node := if node = 4 then some 11 else none
  symbolOf? _ := none
  symbolType? _ := none

/-- A check that fails at the first call stops there, and what is found beside it is what is found
without it. -/
theorem separate_faulty :
    let checks := faulty :: (Catalogue.ofEngine actionEngine).checks
    let limits : Limits := { resolutionDepth := 0 }
    let tree := SyntaxTree.ofDocument bareSubscription
    let together := (setUp (.ofList checks) {} limits {}).linter
    let apart := (setUp (.ofList [IgnoredSubscribe.check]) {} limits {}).linter
    (together.reportTree "s.ts" tree bareSubscriptionModel).failures.map (·.checkId) = ["faulty"] ∧
      (together.reportTree "s.ts" tree bareSubscriptionModel).findings.filter
          (·.checkId == IgnoredSubscribe.profile.id) =
        (apart.reportTree "s.ts" tree bareSubscriptionModel).findings ∧
      (apart.reportTree "s.ts" tree bareSubscriptionModel).findings.length = 1 := by
  intro checks limits tree together apart
  have hfaulty : Setup.listeners? {} faulty =
      some [⟨⟨.kind .callExpression, (Selector.kind .callExpression).matchKinds⟩,
        faultyHandler⟩] := rfl
  have hchecks : (Catalogue.ofList checks).checks = checks := rfl
  have hsteady : ∀ check ∈ (Catalogue.ofList checks).checks, ∀ listeners,
      Setup.listeners? {} check = some listeners →
        ∀ listener ∈ listeners, listener.handler.IsSteady tree check.profile
          fun query => some (bareSubscriptionModel.answer 0 query) := by
    rw [hchecks]
    refine List.forall_mem_cons.mpr
      ⟨fun listeners hlisteners => ?_, Setup.isSteady_ofEngine (fun _ => rfl) fun _ => rfl⟩
    obtain rfl := Option.some.inj (hfaulty.symm.trans hlisteners)
    rw [List.forall_mem_singleton]
    exact fun call => ⟨_, Outcome.checkId_ofReports faulty.profile tree fun report hreport =>
      ⟨call, "missing", none, List.mem_singleton.mp hreport⟩, Oracle.fixes_pure _⟩
  have hmem : IgnoredSubscribe.check ∈ (Catalogue.ofList checks).checks :=
    .tail _ (.tail _ (.head _))
  obtain ⟨-, hreport, -⟩ := separate checks {} limits {} "s.ts" tree bareSubscriptionModel _
    (Oracle.gives_fresh (unmasked_zero _)) hsteady IgnoredSubscribe.check hmem
    [⟨IgnoredSubscribe.pattern, IgnoredSubscribe.handler⟩] rfl [IgnoredSubscribe.check] {}
    (List.mem_singleton_self _) rfl rfl
  exact ⟨by decide +kernel, hreport, by decide +kernel⟩

end Linter

end StreamLint
