import StreamLint.Proofs.Linter.Active
import StreamLint.Proofs.Linter.BuiltIn
/-!
# Handlers that depend on fixed answers

Handlers may ask the oracle, and what an oracle answers may depend on what it was asked before. A
handler is *steady* if this cannot be told from its outcomes: some questions have fixed answers, and
with every oracle that gives them the handler comes to the same at a node
(`StreamLint.Handler.IsSteady`).

The handlers of the catalogue ask about nodes only, so they are steady wherever the answers about
nodes are fixed (`StreamLint.Setup.isSteady_standard`). Where no type is masked all answers are
fixed, namely those of the model (`StreamLint.Oracle.gives_fresh`).
-/

namespace StreamLint

/-! ### Fixed answers -/

namespace Oracle

/-- An oracle gives the fixed answers: to questions whose answers are fixed, in whichever order and
however often they are asked. -/
def Gives (fixed : Query → Option Bool) (oracle : Oracle) : Prop :=
  ∀ queries, (∀ query ∈ queries, (fixed query).isSome) →
    (oracle.answers queries).map some = queries.map fixed

/-- Where no type is masked, all answers of a fresh oracle are fixed. -/
theorem gives_fresh {model : FileModel} {maxDepth : Nat} (hunmasked : model.types.Unmasked maxDepth) :
    (fresh model maxDepth).Gives fun query => some (model.answer maxDepth query) := by
  intro queries _
  rw [(truthful_fresh model maxDepth).answers hunmasked, List.map_map]
  rfl

/-- The fixed answers fix what an action comes to: with every oracle that gives them it comes to the
same value, and it leaves an oracle that gives them. -/
def Fixes {α : Type} (fixed : Query → Option Bool) (action : StateM Oracle α) (value : α) : Prop :=
  ∀ oracle : Oracle, oracle.Gives fixed →
    (action.run oracle).1 = value ∧ (action.run oracle).2.Gives fixed

section Fixes

variable {α β : Type} {fixed : Query → Option Bool}

theorem fixes_pure (value : α) : Fixes fixed (pure value) value :=
  fun _ h => ⟨rfl, h⟩

theorem Fixes.bind {action : StateM Oracle α} {value : α} {next : α → StateM Oracle β} {result : β}
    (h : Fixes fixed action value) (hnext : Fixes fixed (next value) result) :
    Fixes fixed (action >>= next) result := by
  intro oracle horacle
  obtain ⟨hvalue, hafter⟩ := h oracle horacle
  have hresult := hnext _ hafter
  rw [← hvalue] at hresult
  exact hresult

/-- A question whose answer is fixed. -/
theorem fixes_ask {query : Query} {answer : Bool} (hquery : fixed query = some answer) :
    Fixes fixed (ask query) answer := by
  intro oracle h
  refine ⟨?_, fun queries hqueries => ?_⟩
  · have hone := h [query] (by simp [hquery])
    simpa [answers, hquery] using hone
  · have hmore := h (query :: queries) (by simpa [hquery] using hqueries)
    exact (List.cons.inj hmore).2

end Fixes

end Oracle

/-- A handler depends on the tree, the node and the fixed answers only, and what it finds bears the
identifier of its check. -/
def Handler.IsSteady (handler : Handler) (tree : SyntaxTree) (profile : CheckProfile)
    (fixed : Oracle.Query → Option Bool) : Prop :=
  ∀ node, ∃ outcome : Outcome,
    (∀ finding ∈ outcome.findings, finding.checkId = profile.id) ∧
      Oracle.Fixes fixed (handler tree profile node) outcome

/-- What is reported with a profile bears the identifier of the check. -/
theorem CheckProfile.checkId_of_finding_eq_ok {profile : CheckProfile} {tree : SyntaxTree}
    {node : NodeId} {key : String} {location : Option NodeId} {finding : Finding}
    (h : profile.finding tree node key location = .ok finding) : finding.checkId = profile.id := by
  unfold CheckProfile.finding at h
  split at h
  · cases h
  · cases h
  · cases h
    rfl

/-- Reports with a profile are findings of the check, as far as they go. -/
theorem Outcome.checkId_ofReports (profile : CheckProfile) (tree : SyntaxTree)
    {reports : List (Except CheckFault Finding)}
    (h : ∀ report ∈ reports, ∃ node key location,
      report = profile.finding tree node key location) :
    ∀ finding ∈ (ofReports reports).findings, finding.checkId = profile.id := by
  induction reports with
  | nil => simp [ofReports]
  | cons report rest ih =>
    obtain ⟨⟨node, key, location, hreport⟩, hrest⟩ := List.forall_mem_cons.mp h
    cases report with
    | error error => simp [ofReports]
    | ok first =>
      simp only [ofReports, List.forall_mem_cons]
      exact ⟨CheckProfile.checkId_of_finding_eq_ok hreport.symm, ih hrest⟩

section BuiltIn

variable {tree : SyntaxTree} {profile : CheckProfile} {fixed : Oracle.Query → Option Bool}

/-- The handler for ignored observables asks one question at most. -/
theorem IgnoredObservable.isSteady_handler
    (hobservable : ∀ node, (fixed (.observable node)).isSome = true) :
    handler.IsSteady tree profile fixed := by
  intro call
  obtain ⟨answer, hanswer⟩ := Option.isSome_iff_exists.mp (hobservable call)
  cases answer with
  | false => exact ⟨{}, by simp, (Oracle.fixes_ask hanswer).bind (Oracle.fixes_pure _)⟩
  | true =>
    have hown := Outcome.checkId_ofReports profile tree fun report hreport =>
      ⟨call, "forbidden", none, List.mem_singleton.mp hreport⟩
    exact ⟨_, hown, (Oracle.fixes_ask hanswer).bind (Oracle.fixes_pure _)⟩

/-- The handler for ignored subscriptions asks one question at most. -/
theorem IgnoredSubscribe.isSteady_handler
    (hobservable : ∀ node, (fixed (.observable node)).isSome = true) :
    handler.IsSteady tree profile fixed := by
  intro member
  unfold handler
  split
  next object property _ _ =>
    obtain ⟨answer, hanswer⟩ := Option.isSome_iff_exists.mp (hobservable object)
    cases answer with
    | false => exact ⟨{}, by simp, (Oracle.fixes_ask hanswer).bind (Oracle.fixes_pure _)⟩
    | true =>
      have hown := Outcome.checkId_ofReports profile tree fun report hreport =>
        ⟨member, "forbidden", some property, List.mem_singleton.mp hreport⟩
      exact ⟨_, hown, (Oracle.fixes_ask hanswer).bind (Oracle.fixes_pure _)⟩
  next => exact ⟨{}, by simp, Oracle.fixes_pure _⟩

/-- The report about a stage is made with the profile of the check. -/
theorem UnsafeFirst.exists_eq_of_stageReport?_eq_some {stage : NodeId}
    {report : Except CheckFault Finding} (h : stageReport? tree profile stage = some report) :
    ∃ location, report = profile.finding tree stage "forbidden" location := by
  unfold stageReport? at h
  split at h
  next callee _ _ =>
    split at h
    · split at h
      · exact ⟨some callee, (Option.some.inj h).symm⟩
      · cases h
    · cases h
  next => cases h

/-- The handler for truncating stages asks two questions at most. -/
theorem UnsafeFirst.isSteady_handler
    (hobservable : ∀ node, (fixed (.observable node)).isSome = true)
    (hreference : ∀ node, (fixed (.reference node)).isSome = true) :
    handler.IsSteady tree profile fixed := by
  intro call
  unfold handler
  split
  next => exact ⟨{}, by simp, Oracle.fixes_pure _⟩
  next object _ =>
    obtain ⟨reference, hasked⟩ := Option.isSome_iff_exists.mp (hreference object)
    obtain ⟨observable, hanswer⟩ := Option.isSome_iff_exists.mp (hobservable object)
    cases reference with
    | false => exact ⟨{}, by simp, (Oracle.fixes_ask hasked).bind (Oracle.fixes_pure _)⟩
    | true =>
      cases observable with
      | false =>
        exact ⟨{}, by simp,
          (Oracle.fixes_ask hasked).bind ((Oracle.fixes_ask hanswer).bind (Oracle.fixes_pure _))⟩
      | true =>
        have hreports : ∀ report ∈ ((tree.arguments? call).getD []).filterMap
            (stageReport? tree profile), ∃ node key location,
              report = profile.finding tree node key location := by
          intro report hreport
          obtain ⟨stage, -, hstage⟩ := List.mem_filterMap.mp hreport
          exact ⟨stage, "forbidden", exists_eq_of_stageReport?_eq_some hstage⟩
        exact ⟨_, Outcome.checkId_ofReports profile tree hreports,
          (Oracle.fixes_ask hasked).bind ((Oracle.fixes_ask hanswer).bind (Oracle.fixes_pure _))⟩

end BuiltIn

/-- **The handlers of the catalogue are steady**, whatever the settings, if the answers about nodes
are fixed. -/
theorem Setup.isSteady_ofEngine {engine : Regex.Engine} {settings : Settings} {tree : SyntaxTree}
    {fixed : Oracle.Query → Option Bool}
    (hobservable : ∀ node, (fixed (.observable node)).isSome = true)
    (hreference : ∀ node, (fixed (.reference node)).isSome = true) :
    ∀ check ∈ (Catalogue.ofEngine engine).checks, ∀ listeners,
      listeners? settings check = some listeners →
        ∀ listener ∈ listeners, listener.handler.IsSteady tree check.profile fixed := by
  rw [Catalogue.checks_ofEngine]
  simp only [List.forall_mem_cons]
  refine ⟨fun listeners h => ?_, fun listeners h => ?_, fun listeners h => ?_, by simp⟩
  · obtain rfl := IgnoredObservable.listeners_eq (configure_eq_ok h)
    simpa using IgnoredObservable.isSteady_handler hobservable
  · obtain rfl := IgnoredSubscribe.listeners_eq (configure_eq_ok h)
    simpa using IgnoredSubscribe.isSteady_handler hobservable
  · obtain ⟨_, -, rfl⟩ := UnsafeFirst.listeners_eq (configure_eq_ok h)
    simpa using UnsafeFirst.isSteady_handler hobservable hreference

end StreamLint
