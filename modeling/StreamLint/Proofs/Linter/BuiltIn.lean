import StreamLint.Linter.Run
import StreamLint.Proofs.Linter.Kept
import StreamLint.Proofs.Linter.Sites
import StreamLint.Proofs.Oracle.History
import StreamLint.Proofs.Pattern.Index
/-!
# What the checks of the catalogue find

A linter that runs the checks of the catalogue goes through selectors, an index of patterns,
handlers and a log before a finding is reported. `StreamLint.foundIn` says without any of these what
is to be found in a tree, node by node, in terms of the constructs of the tree and the answers to
the questions about types.

The whole point is `StreamLint.Linter.reportTree_setUp`: whatever the settings are, as long as the
three checks are active, the report about the tree of a document lists these findings, without those
beyond the limit of their check and those that a comment silences, and no check stops early. Which
names are those of streams of actions is for the engine to say, which may be any. The questions are
put to one oracle, in the order of the nodes; where no type is masked, the answers are those of the
model alone.
-/

namespace StreamLint

/-! ### What is to be found -/

/-- How the questions about the nodes of a file are answered. -/
structure NodeAnswers (m : Type → Type) where
  /-- Whether a node could be observable. -/
  observable : NodeId → m Bool
  /-- Whether a node has a reference type. -/
  reference : NodeId → m Bool

/-- The answers of the oracle of a file, which remembers what it was asked. -/
def Oracle.nodeAnswers : NodeAnswers (StateM Oracle) :=
  ⟨mayBeObservable, isReference⟩

/-- The answers that a model gives by itself. -/
def FileModel.nodeAnswers (model : FileModel) (maxDepth : Nat) : NodeAnswers Id :=
  ⟨fun node => model.answer maxDepth (.observable node),
    fun node => model.answer maxDepth (.reference node)⟩

/-- The finding of a check about a node, with a narrower place to point at. -/
def CheckProfile.about (profile : CheckProfile) (tree : SyntaxTree) (node : NodeId)
    (location : Option NodeId) : Finding where
  checkId := profile.id
  messageKey := "forbidden"
  message := (profile.message? "forbidden").getD ""
  node := node
  span := (tree.span? node).getD default
  location := location.bind tree.span?

section Found

variable {m : Type → Type} [Monad m] (answers : NodeAnswers m) (tree : SyntaxTree)
  (names : String → Bool)

/-- The ignored observable at a node: a call that stands alone and could be observable. -/
def ignoredObservableAt (node : NodeId) : m (List Finding) :=
  if tree.IsLoneCall node then do
    if ← answers.observable node then return [IgnoredObservable.profile.about tree node none]
    else return []
  else return []

/-- The ignored subscription at a node: a member `subscribe` that is called without arguments and
whose object could be observable. -/
def ignoredSubscribeAt (node : NodeId) : m (List Finding) :=
  match tree.bareSubscribe? node with
  | some (object, property) => do
    if ← answers.observable object then
      return [IgnoredSubscribe.profile.about tree node (some property)]
    else return []
  | none => return []

/-- The truncating stages of the pipeline at a node: its receiver has a name of the right form and a
reference type, and could be observable. -/
def unsafeFirstAt (node : NodeId) : m (List Finding) :=
  match tree.pipeline? names node with
  | some (receiver, stages) => do
    if !(← answers.reference receiver) then return []
    else if !(← answers.observable receiver) then return []
    else
      return stages.filterMap fun stage =>
        (tree.truncating? stage).map fun callee =>
          UnsafeFirst.profile.about tree stage (some callee)
  | none => return []

/-- What is to be found at a node, check by check. -/
def foundAt (node : NodeId) : m (List Finding) := do
  let ignored ← ignoredObservableAt answers tree node
  let subscribed ← ignoredSubscribeAt answers tree node
  let truncated ← unsafeFirstAt answers tree names node
  return ignored ++ (subscribed ++ truncated)

/-- What is to be found at nodes, one after the other. -/
def foundAmong : List NodeId → m (List Finding)
  | [] => return []
  | node :: rest => do
    let here ← foundAt answers tree names node
    let further ← foundAmong rest
    return here ++ further

/-- What is to be found in a tree. -/
def foundIn : m (List Finding) :=
  foundAmong answers tree names tree.preorder

end Found

/-- Whether a comment of the file silences a finding. -/
def SyntaxTree.silences (tree : SyntaxTree) (finding : Finding) : Bool :=
  tree.comments.any (·.silences finding.checkId finding.mainSpan.start.line)

/-! ### The handlers -/

/-- A finding can be made about every node of the tree. -/
theorem CheckProfile.finding_eq_about {profile : CheckProfile} {tree : SyntaxTree} {node : NodeId}
    (hmessage : (profile.message? "forbidden").isSome = true)
    (hnode : (tree.construct? node).isSome = true) (location : Option NodeId) :
    profile.finding tree node "forbidden" location = .ok (profile.about tree node location) := by
  obtain ⟨text, htext⟩ := Option.isSome_iff_exists.mp hmessage
  obtain ⟨inner, hinner⟩ : ∃ inner, tree.nodes[node]? = some inner := by
    cases hinner : tree.nodes[node]? with
    | none => simp [SyntaxTree.construct?, hinner] at hnode
    | some inner => exact ⟨inner, rfl⟩
  have hspan : tree.span? node = some inner.span := by simp [SyntaxTree.span?, hinner]
  simp only [finding, about, htext, hspan, Option.getD_some]

/-- The outcome of a handler that does not fail. -/
def Outcome.found (findings : List Finding) : Outcome where
  findings := findings

/-- Where a call stands alone, the handler reports what is to be found. -/
theorem IgnoredObservable.handler_eq {tree : SyntaxTree} {node : NodeId}
    (hsite : tree.IsLoneCall node) :
    handler tree profile node =
      Outcome.found <$> ignoredObservableAt Oracle.nodeAnswers tree node := by
  obtain ⟨callee, stages, hconstruct⟩ := SyntaxTree.kind?_eq_callExpression_iff.mp hsite.1
  have hfinding : profile.finding tree node "forbidden" none =
      .ok (profile.about tree node none) :=
    CheckProfile.finding_eq_about rfl (by simp [hconstruct]) none
  simp only [handler, ignoredObservableAt, if_pos hsite, map_bind, hfinding]
  refine bind_congr fun answer => ?_
  cases answer <;> rfl

/-- Where `subscribe` is called without arguments, the handler reports what is to be found. -/
theorem IgnoredSubscribe.handler_eq {tree : SyntaxTree} {node : NodeId}
    (hsite : (tree.bareSubscribe? node).isSome = true) :
    handler tree profile node =
      Outcome.found <$> ignoredSubscribeAt Oracle.nodeAnswers tree node := by
  obtain ⟨object, property, hconstruct, hboth⟩ := SyntaxTree.isSome_bareSubscribe?_iff.mp hsite
  have hfinding : profile.finding tree node "forbidden" (some property) =
      .ok (profile.about tree node (some property)) :=
    CheckProfile.finding_eq_about rfl (by simp [hconstruct]) _
  have hat : tree.bareSubscribe? node = some (object, property) := by
    simp only [SyntaxTree.bareSubscribe?, hconstruct, if_pos hboth]
  have hobject : tree.field? node .object = some object := by
    simp [SyntaxTree.field?, hconstruct, Construct.field?]
  have hproperty : tree.field? node .property = some property := by
    simp [SyntaxTree.field?, hconstruct, Construct.field?]
  simp only [handler, ignoredSubscribeAt, hat, hobject, hproperty, map_bind, hfinding]
  refine bind_congr fun answer => ?_
  cases answer <;> rfl

/-- The report about a stage is the finding about it. -/
theorem UnsafeFirst.stageReport?_eq (tree : SyntaxTree) (stage : NodeId) :
    stageReport? tree profile stage =
      (tree.truncating? stage).map fun callee => .ok (profile.about tree stage (some callee)) := by
  rw [stageReport?, SyntaxTree.truncating?]
  cases hconstruct : tree.construct? stage with
  | none => rfl
  | some construct =>
    cases construct with
    | callExpression callee stages =>
      have hfinding : profile.finding tree stage "forbidden" (some callee) =
          .ok (profile.about tree stage (some callee)) :=
        CheckProfile.finding_eq_about rfl (by simp [hconstruct]) _
      cases hname : tree.nameAt? callee with
      | none => simp [hname]
      | some name =>
        -- a stage is reported for either name
        by_cases htake : name = "take" <;> by_cases hfirst : name = "first" <;>
          simp [hname, isTruncating, htake, hfirst, hfinding]
    | _ => rfl

/-- Reports that do not fail are all there is to the outcome. -/
theorem Outcome.ofReports_map_ok (findings : List Finding) :
    ofReports (findings.map .ok) = found findings := by
  induction findings with
  | nil => rfl
  | cons finding rest ih => simp [ofReports, ih, found]

/-- Where a pipeline begins at a stream with a name of the right form, the handler reports what is
to be found. -/
theorem UnsafeFirst.handler_eq {tree : SyntaxTree} {names : String → Bool} {node : NodeId}
    (hsite : (tree.pipeline? names node).isSome = true) :
    handler tree profile node =
      Outcome.found <$> unsafeFirstAt Oracle.nodeAnswers tree names node := by
  obtain ⟨callee, stages, receiver, property, hcall, hmember, hboth⟩ :=
    SyntaxTree.isSome_pipeline?_iff.mp hsite
  have hat : tree.pipeline? names node = some (receiver, stages) := by
    simp only [SyntaxTree.pipeline?, hcall, hmember, if_pos hboth]
  have hobject : (tree.field? node .callee).bind (tree.field? · .object) = some receiver := by
    simp [SyntaxTree.field?, hcall, hmember, Construct.field?]
  have hstages : tree.arguments? node = some stages := by
    simp [SyntaxTree.arguments?, hcall]
  have hreports : stages.filterMap (stageReport? tree profile) =
      (stages.filterMap fun stage => (tree.truncating? stage).map fun callee =>
        profile.about tree stage (some callee)).map .ok := by
    rw [List.map_filterMap]
    refine List.filterMap_congr fun stage _ => ?_
    rw [stageReport?_eq, Option.map_map]
    rfl
  simp only [handler, unsafeFirstAt, hat, hobject, hstages, Option.getD_some, hreports,
    Outcome.ofReports_map_ok, map_bind]
  refine bind_congr fun reference => ?_
  cases reference with
  | false => rfl
  | true =>
    simp only [Bool.not_true, Bool.false_eq_true, if_false, map_bind]
    refine bind_congr fun observable => ?_
    cases observable <;> rfl

/-! ### The pass over a tree -/

namespace Linter

/-- The patterns of the catalogue with their handlers. -/
def standardPatterns (names : Regex) : List (Pattern × OwnedHandler) :=
  [(IgnoredObservable.pattern, ⟨0, IgnoredObservable.handler⟩),
    (IgnoredSubscribe.pattern, ⟨1, IgnoredSubscribe.handler⟩),
    (UnsafeFirst.pattern names, ⟨2, UnsafeFirst.handler⟩)]

/-- The linter in which all checks of the catalogue are active. -/
def standard (names : Regex) (limits : Limits) (prelude : Prelude) : Linter where
  patterns := (PatternIndex.empty limits.descendantNodes).addAll (standardPatterns names)
  checks := #[IgnoredObservable.profile, IgnoredSubscribe.profile, UnsafeFirst.profile]
  prelude := prelude
  limits := limits

/-- A pass that takes what an action finds, with the oracle that the action leaves. -/
def Pass.find (pass : Pass) (action : StateM Oracle (List Finding)) : Pass :=
  { pass with
    oracle := (action.run pass.oracle).2
    log := pass.log.addAll (action.run pass.oracle).1 }

theorem Pass.failed_find (pass : Pass) (action : StateM Oracle (List Finding)) :
    (pass.find action).failed = pass.failed := rfl

/-- Taking what two actions find is taking what they find one after the other. -/
theorem Pass.find_find (pass : Pass) (first second : StateM Oracle (List Finding)) :
    (pass.find first).find second = pass.find do return (← first) ++ (← second) := by
  simp only [find, FindingLog.addAll_addAll]
  rfl

/-- **One handler**: as long as no check has failed, what a handler finds is added to the log. -/
theorem handle_eq {linter : Linter} {tree : SyntaxTree} {pass : Pass} {node : NodeId}
    {active : OwnedHandler} {profile : CheckProfile} {action : StateM Oracle (List Finding)}
    (hfailed : pass.failed = []) (hprofile : linter.checks[active.check]? = some profile)
    (haction : active.handler tree profile node = Outcome.found <$> action) :
    linter.handle tree pass (node, active) = pass.find action := by
  have hrun : (active.handler tree profile node).run pass.oracle =
      (.found (action.run pass.oracle).1, (action.run pass.oracle).2) := by
    rw [haction]
    rfl
  -- no check has failed, so none is skipped
  have hopen : pass.failed.contains active.check = false := by simp [hfailed]
  simp only [handle, hopen, hprofile, hrun]
  rfl

variable {names : Regex} {limits : Limits} {prelude : Prelude} {tree : SyntaxTree} {pass : Pass}

/-- The handlers at a node are those of the checks for which there is something to look at. -/
theorem handlersAt_standard (hlinked : tree.Linked) (node : NodeId) :
    (standard names limits prelude).patterns.handlersAt tree node =
      (if tree.IsLoneCall node then [⟨0, IgnoredObservable.handler⟩] else []) ++
        ((if (tree.bareSubscribe? node).isSome then [⟨1, IgnoredSubscribe.handler⟩] else []) ++
          if (tree.pipeline? names.matchesIn node).isSome then [⟨2, UnsafeFirst.handler⟩]
          else []) := by
  rw [standard, (PatternIndex.isFilled_empty _).handlersAt_addAll, PatternIndex.handlersAt_empty,
    List.nil_append, standardPatterns]
  simp only [List.filter_cons, List.filter_nil, IgnoredObservable.matchesAt_pattern hlinked,
    IgnoredSubscribe.matchesAt_pattern hlinked, UnsafeFirst.matchesAt_pattern, decide_eq_true_iff]
  split <;> split <;> split <;> rfl

/-- Handling what there is for one check at a node. -/
theorem foldl_handle_ite {linter : Linter} {node : NodeId} {site : Prop} [Decidable site]
    {active : OwnedHandler} {profile : CheckProfile} {action : StateM Oracle (List Finding)}
    (hfailed : pass.failed = []) (hprofile : linter.checks[active.check]? = some profile)
    (haction : site → active.handler tree profile node = Outcome.found <$> action)
    (hnothing : ¬site → action = pure []) :
    ((if site then [active] else []).map (node, ·)).foldl (linter.handle tree) pass =
      pass.find action := by
  by_cases hsite : site
  · rw [if_pos hsite]
    exact handle_eq hfailed hprofile (haction hsite)
  · rw [if_neg hsite, hnothing hsite]
    rfl

/-- **One node**: the pass takes what is to be found at the node. -/
theorem foldl_handle_handlersAt (hlinked : tree.Linked) (hfailed : pass.failed = [])
    (node : NodeId) :
    (((standard names limits prelude).patterns.handlersAt tree node).map (node, ·)).foldl
        ((standard names limits prelude).handle tree) pass =
      pass.find (foundAt Oracle.nodeAnswers tree names.matchesIn node) := by
  have hignored : ∀ pass : Pass, pass.failed = [] →
      ((if tree.IsLoneCall node then [⟨0, IgnoredObservable.handler⟩] else []).map
        (node, ·)).foldl ((standard names limits prelude).handle tree) pass =
        pass.find (ignoredObservableAt Oracle.nodeAnswers tree node) :=
    fun pass hfailed => foldl_handle_ite hfailed rfl IgnoredObservable.handler_eq
      fun hnot => if_neg hnot
  have hsubscribed : ∀ pass : Pass, pass.failed = [] →
      ((if (tree.bareSubscribe? node).isSome then [⟨1, IgnoredSubscribe.handler⟩] else []).map
        (node, ·)).foldl ((standard names limits prelude).handle tree) pass =
        pass.find (ignoredSubscribeAt Oracle.nodeAnswers tree node) :=
    fun pass hfailed => foldl_handle_ite hfailed rfl IgnoredSubscribe.handler_eq fun hnot => by
      rw [ignoredSubscribeAt, Option.not_isSome_iff_eq_none.mp hnot]
  have htruncated : ∀ pass : Pass, pass.failed = [] →
      ((if (tree.pipeline? names.matchesIn node).isSome then [⟨2, UnsafeFirst.handler⟩]
        else []).map (node, ·)).foldl ((standard names limits prelude).handle tree) pass =
        pass.find (unsafeFirstAt Oracle.nodeAnswers tree names.matchesIn node) :=
    fun pass hfailed => foldl_handle_ite hfailed rfl UnsafeFirst.handler_eq fun hnot => by
      rw [unsafeFirstAt, Option.not_isSome_iff_eq_none.mp hnot]
  -- the three checks take their turns, each with the oracle that the one before leaves
  rw [handlersAt_standard hlinked, List.map_append, List.map_append, List.foldl_append,
    List.foldl_append, hignored pass hfailed,
    hsubscribed (pass.find _) ((pass.failed_find _).trans hfailed),
    htruncated ((pass.find _).find _) hfailed, Pass.find_find, Pass.find_find]
  rfl

/-- **Many nodes**: the pass takes what is to be found at them, one after the other. -/
theorem foldl_handle_flatMap (hlinked : tree.Linked) (nodes : List NodeId)
    (hfailed : pass.failed = []) :
    (nodes.flatMap fun node =>
      ((standard names limits prelude).patterns.handlersAt tree node).map (node, ·)).foldl
        ((standard names limits prelude).handle tree) pass =
      pass.find (foundAmong Oracle.nodeAnswers tree names.matchesIn nodes) := by
  induction nodes generalizing pass with
  | nil => rfl
  | cons node rest ih =>
    rw [List.flatMap_cons, List.foldl_append, foldl_handle_handlersAt hlinked hfailed,
      ih ((pass.failed_find _).trans hfailed), Pass.find_find]
    rfl

/-- **The pass over a tree**: it takes what is to be found in the tree, and no check fails. -/
theorem run_standard (hlinked : tree.Linked) (model : FileModel) :
    (standard names limits prelude).run tree model =
      Pass.find
        { oracle := .fresh model limits.resolutionDepth
          log := { limit := some limits.findingsPerCheck } }
        (foundIn Oracle.nodeAnswers tree names.matchesIn) := by
  rw [run, PatternIndex.dispatches_eq]
  exact foldl_handle_flatMap hlinked tree.preorder rfl

end Linter

/-! ### Setting up -/

namespace Setup

variable {settings : Settings} {setup : Setup} {check : Check}

/-- A check is taken with the listeners that it is configured with, or left out. -/
theorem addCheck_linter_cases (settings : Settings) (setup : Setup) (check : Check) :
    (addCheck settings setup check).linter = setup.linter ∨
      ∃ listeners,
        check.configure ((settings.check? check.profile.id).getD {}).options = .ok listeners ∧
        (addCheck settings setup check).linter =
          setup.linter.addCheck check.profile listeners := by
  rw [addCheck]
  split
  · split
    next listeners hconfigure => exact .inr ⟨listeners, hconfigure, rfl⟩
    next => exact .inl rfl
  · exact .inl rfl

theorem size_addCheck_le (settings : Settings) (setup : Setup) (check : Check) :
    (addCheck settings setup check).linter.checks.size ≤ setup.linter.checks.size + 1 := by
  rcases addCheck_linter_cases settings setup check with hsame | ⟨listeners, -, hmore⟩
  · rw [hsame]
    omega
  · simp [hmore, Linter.addCheck]

/-- A check that is active afterwards was configured. -/
theorem addCheck_of_size_lt
    (h : setup.linter.checks.size < (addCheck settings setup check).linter.checks.size) :
    ∃ listeners,
      check.configure ((settings.check? check.profile.id).getD {}).options = .ok listeners ∧
      (addCheck settings setup check).linter = setup.linter.addCheck check.profile listeners := by
  rcases addCheck_linter_cases settings setup check with hsame | hmore
  · rw [hsame] at h
    exact absurd h (Nat.lt_irrefl _)
  · exact hmore

end Setup

theorem IgnoredObservable.listeners_eq {options : Json} {listeners : List Listener}
    (h : check.configure options = .ok listeners) : listeners = [⟨pattern, handler⟩] := by
  simp only [check, listener_eq] at h
  cases hrecord : profile.optionsRecord options with
  | error error => rw [hrecord] at h; cases h
  | ok fields =>
    rw [hrecord] at h
    cases h
    rfl

theorem IgnoredSubscribe.listeners_eq {options : Json} {listeners : List Listener}
    (h : check.configure options = .ok listeners) : listeners = [⟨pattern, handler⟩] := by
  simp only [check, listener_eq] at h
  cases hrecord : profile.optionsRecord options with
  | error error => rw [hrecord] at h; cases h
  | ok fields =>
    rw [hrecord] at h
    cases h
    rfl

theorem UnsafeFirst.listeners_eq {engine : Regex.Engine} {options : Json}
    {listeners : List Listener} (h : (check engine).configure options = .ok listeners) :
    ∃ names, namesOf engine options = .ok names ∧ listeners = [⟨pattern names, handler⟩] := by
  simp only [check, listener_eq] at h
  cases hnames : namesOf engine options with
  | error error => rw [hnames] at h; cases h
  | ok names =>
    rw [hnames] at h
    cases h
    exact ⟨names, rfl, rfl⟩

/-- Where all checks of the catalogue are active, the linter is the standard one. -/
theorem Linter.setUp_eq_standard {engine : Regex.Engine} {settings : Settings} {limits : Limits}
    {prelude : Prelude}
    (hactive : (setUp (.ofEngine engine) settings limits prelude).linter.activeIds =
      (Catalogue.ofEngine engine).ids) :
    ∃ names,
      UnsafeFirst.namesOf engine
          ((settings.check? UnsafeFirst.profile.id).getD {}).options = .ok names ∧
        (setUp (.ofEngine engine) settings limits prelude).linter =
          standard names limits prelude := by
  have hthree : (setUp (.ofEngine engine) settings limits prelude).linter.checks.size = 3 := by
    simpa [activeIds, Catalogue.ids, Catalogue.checks_ofEngine] using
      congrArg List.length hactive
  let start : Setup :=
    { linter := .empty limits prelude
      errors := Setup.unknownChecks (.ofEngine engine) settings }
  let first := Setup.addCheck settings start IgnoredObservable.check
  let second := Setup.addCheck settings first IgnoredSubscribe.check
  have hsetUp : setUp (.ofEngine engine) settings limits prelude =
      Setup.addCheck settings second (UnsafeFirst.check engine) := rfl
  rw [hsetUp] at hthree ⊢
  -- three checks are active in the end, so each step has made one more of them active
  have hzero : start.linter.checks.size = 0 := rfl
  have hfirst : first.linter.checks.size ≤ start.linter.checks.size + 1 :=
    Setup.size_addCheck_le settings start IgnoredObservable.check
  have hsecond : second.linter.checks.size ≤ first.linter.checks.size + 1 :=
    Setup.size_addCheck_le settings first IgnoredSubscribe.check
  have hthird := Setup.size_addCheck_le settings second (UnsafeFirst.check engine)
  obtain ⟨_, hconfigured, hignored⟩ :=
    Setup.addCheck_of_size_lt (show start.linter.checks.size < first.linter.checks.size by omega)
  obtain rfl := IgnoredObservable.listeners_eq hconfigured
  obtain ⟨_, hconfigured, hsubscribed⟩ :=
    Setup.addCheck_of_size_lt (show first.linter.checks.size < second.linter.checks.size by omega)
  obtain rfl := IgnoredSubscribe.listeners_eq hconfigured
  obtain ⟨_, hconfigured, htruncated⟩ := Setup.addCheck_of_size_lt
    (show second.linter.checks.size <
      (Setup.addCheck settings second (UnsafeFirst.check engine)).linter.checks.size by omega)
  obtain ⟨names, hnames, rfl⟩ := UnsafeFirst.listeners_eq hconfigured
  refine ⟨names, hnames, ?_⟩
  rw [htruncated, hsubscribed, hignored]
  simp only [addCheck, start, empty, standard, standardPatterns, PatternIndex.addAll,
    List.foldl_cons, List.foldl_nil]
  rfl

/-! ### Answers of the model -/

namespace Oracle

variable {model : FileModel} {maxDepth : Nat} {α β : Type}

/-- An action that comes to a value and keeps what is remembered right, whenever it is right. -/
def ComesTo (model : FileModel) (maxDepth : Nat) (action : StateM Oracle α) (value : α) : Prop :=
  ∀ oracle, Truthful model maxDepth oracle →
    (action.run oracle).1 = value ∧ Truthful model maxDepth (action.run oracle).2

theorem ComesTo.pure (value : α) : ComesTo model maxDepth (pure value) value :=
  fun _ h => ⟨rfl, h⟩

theorem ComesTo.bind {action : StateM Oracle α} {value : α} {next : α → StateM Oracle β}
    {result : β} (h : ComesTo model maxDepth action value)
    (hnext : ComesTo model maxDepth (next value) result) :
    ComesTo model maxDepth (action >>= next) result := by
  intro oracle horacle
  obtain ⟨hvalue, hafter⟩ := h oracle horacle
  rw [StateT.run_bind]
  have hresult := hnext _ hafter
  rw [← hvalue] at hresult
  exact hresult

variable (hunmasked : model.types.Unmasked maxDepth) (tree : SyntaxTree) (names : String → Bool)

include hunmasked

/-- Where no type is masked, the findings at a node are those that the model gives. -/
theorem comesTo_foundAt (node : NodeId) :
    ComesTo model maxDepth (foundAt nodeAnswers tree names node)
      (foundAt (model.nodeAnswers maxDepth) tree names node).run := by
  have hobservable : ∀ node, ComesTo model maxDepth (nodeAnswers.observable node)
      ((model.nodeAnswers maxDepth).observable node).run :=
    fun node oracle h => h.mayBeObservable hunmasked node
  have hreference : ∀ node, ComesTo model maxDepth (nodeAnswers.reference node)
      ((model.nodeAnswers maxDepth).reference node).run :=
    fun node oracle h => h.isReference node
  have hignored : ComesTo model maxDepth (ignoredObservableAt nodeAnswers tree node)
      (ignoredObservableAt (model.nodeAnswers maxDepth) tree node).run := by
    rw [ignoredObservableAt, ignoredObservableAt]
    split
    · refine (hobservable node).bind ?_
      rw [Id.run_bind]
      split <;> exact .pure _
    · exact .pure _
  have hsubscribed : ComesTo model maxDepth (ignoredSubscribeAt nodeAnswers tree node)
      (ignoredSubscribeAt (model.nodeAnswers maxDepth) tree node).run := by
    rw [ignoredSubscribeAt, ignoredSubscribeAt]
    split
    next object property _ =>
      refine (hobservable object).bind ?_
      rw [Id.run_bind]
      split <;> exact .pure _
    next => exact .pure _
  have htruncated : ComesTo model maxDepth (unsafeFirstAt nodeAnswers tree names node)
      (unsafeFirstAt (model.nodeAnswers maxDepth) tree names node).run := by
    rw [unsafeFirstAt, unsafeFirstAt]
    split
    next receiver stages _ =>
      refine (hreference receiver).bind ?_
      rw [Id.run_bind]
      split
      · exact .pure _
      · refine (hobservable receiver).bind ?_
        rw [Id.run_bind]
        split <;> exact .pure _
    next => exact .pure _
  exact hignored.bind (hsubscribed.bind (htruncated.bind (.pure _)))

/-- Where no type is masked, the findings in a tree are those that the model gives. -/
theorem comesTo_foundIn :
    ComesTo model maxDepth (foundIn nodeAnswers tree names)
      (foundIn (model.nodeAnswers maxDepth) tree names).run := by
  suffices h : ∀ nodes, ComesTo model maxDepth (foundAmong nodeAnswers tree names nodes)
      (foundAmong (model.nodeAnswers maxDepth) tree names nodes).run from h tree.preorder
  intro nodes
  induction nodes with
  | nil => exact .pure _
  | cons node rest ih => exact (comesTo_foundAt hunmasked tree names node).bind (ih.bind (.pure _))

end Oracle

/-! ### The report -/

namespace Linter

/-- **What is reported about a document** by a linter in which all checks of the catalogue are
active, whatever the engine makes of the regular expression in the settings: nothing but what is to
be found in its tree, without what is beyond the limit of its check or silenced by a comment; no
check stops early. Where no type is masked, the answers about types that this depends on are those of
the model. -/
theorem reportTree_setUp (engine : Regex.Engine) (settings : Settings) (limits : Limits)
    (prelude : Prelude)
    (hactive : (setUp (.ofEngine engine) settings limits prelude).linter.activeIds =
      (Catalogue.ofEngine engine).ids)
    (uri : String) (document : Concrete.Document) (model : FileModel) :
    ∃ names,
      UnsafeFirst.namesOf engine
          ((settings.check? UnsafeFirst.profile.id).getD {}).options = .ok names ∧
        let tree := SyntaxTree.ofDocument document
        let found := ((foundIn Oracle.nodeAnswers tree names.matchesIn).run
          (.fresh model limits.resolutionDepth)).1
        let kept := keepFirst limits.findingsPerCheck found
        (setUp (.ofEngine engine) settings limits prelude).linter.reportTree uri tree model =
            { uri := uri
              findings := kept.filter fun finding => !tree.silences finding
              failures := []
              syntaxErrors := []
              suppressed := kept.countP tree.silences } ∧
          (model.types.Unmasked limits.resolutionDepth →
            found = (foundIn (model.nodeAnswers limits.resolutionDepth) tree
              names.matchesIn).run) := by
  obtain ⟨names, hnames, hlinter⟩ := setUp_eq_standard hactive
  refine ⟨names, hnames, ?_⟩
  intro tree found kept
  refine ⟨?_, fun hunmasked => ?_⟩
  · have hlinked : tree.Linked := SyntaxTree.linked_ofDocument document
    have hkept : (FindingLog.addAll { limit := some limits.findingsPerCheck }
        found).findings.toList = kept :=
      ((FindingLog.keeps_nil limits.findingsPerCheck).addAll found).findings_eq
    have hsilences : (Silencing.ofComments tree.comments).silencesFinding = tree.silences :=
      funext fun finding => Silencing.silences_ofComments ..
    rw [hlinter, reportTree, run_standard hlinked, hsilences]
    simp only [Pass.find]
    rw [hkept, List.partition_eq_filter_filter, List.countP_eq_length_filter]
    simp only [Function.comp_def]
  · exact (Oracle.comesTo_foundIn hunmasked tree names.matchesIn _
      (Oracle.truthful_fresh model limits.resolutionDepth)).1

/-- An engine that takes one regular expression, the default one for names of streams of actions. -/
def actionEngine : Regex.Engine := fun source =>
  if source = UnsafeFirst.defaultPattern then
    .ok ⟨source, fun name => ["Action", "action"].any fun word => ["s", "s$", "$"].any fun ending =>
      (word ++ ending).toList.isSuffixOf name.toList⟩
  else .error ⟨"regex parse error:"⟩

/-- The document `actions$.pipe(take(1)); s.subscribe();`. -/
def truncatedActions : Concrete.Document where
  text := "actions$.pipe(take(1)); s.subscribe();"
  dialect := .typeScript
  root :=
    .named "program" 0 38 none
      [.named "expression_statement" 0 23 none
        [.named "call_expression" 0 22 none
          [.named "member_expression" 0 13 (some "function")
            [.named "identifier" 0 8 (some "object") [],
              .named "property_identifier" 9 13 (some "property") []],
            .named "arguments" 13 22 (some "arguments")
              [.named "call_expression" 14 21 none
                [.named "identifier" 14 18 (some "function") [],
                  .named "arguments" 18 21 (some "arguments") [.named "number" 19 20 none []]]]]],
        .named "expression_statement" 24 38 none
          [.named "call_expression" 24 37 none
            [.named "member_expression" 24 35 (some "function")
              [.named "identifier" 24 25 (some "object") [],
                .named "property_identifier" 26 35 (some "property") []],
              .named "arguments" 35 37 (some "arguments") []]]]

/-- A model in which both objects are streams. -/
def truncatedActionsModel : FileModel where
  types := ⟨TypeTable.intrinsics ++ #[.foreign "Observable" []]⟩
  typeOf? node := if node = 4 ∨ node = 12 then some 11 else none
  symbolOf? _ := none
  symbolType? _ := none

/-- With default settings all checks are active. One of them finds the truncating stage, because the
name of the first stream is one of a stream of actions, and another one the subscription. -/
theorem reportTree_setUp_truncatedActions :
    let catalogue := Catalogue.ofEngine actionEngine
    let report := (setUp catalogue {} {} {}).linter.reportTree "s.ts"
      (SyntaxTree.ofDocument truncatedActions) truncatedActionsModel
    (setUp catalogue {} {} {}).linter.activeIds = catalogue.ids ∧ report.failures = [] ∧
      report.findings.map (·.checkId) = ["no-unsafe-first", "no-ignored-subscribe"] := by
  intro catalogue report
  have hactive : (setUp catalogue {} {} {}).linter.activeIds = catalogue.ids := rfl
  refine ⟨hactive, ?_, by decide +kernel⟩
  obtain ⟨names, -, hreport, -⟩ := reportTree_setUp actionEngine {} {} {} hactive "s.ts"
    truncatedActions truncatedActionsModel
  exact congrArg (·.failures) hreport

end Linter

end StreamLint
