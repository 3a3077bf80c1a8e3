import StreamLint.Proofs.Model.Search
import StreamLint.Syntax.Lowering
/-!
# When making a model comes to an end

Everything that is done while a model is made takes budget, the search for what a call returns
apart: a step into a union goes on without any. So making a model comes to no end exactly if a value
is called whose type stands for a union that lies in itself
(`StreamLint.SyntaxTree.model?_eq_none_iff`). The model that is made with a guard
(`StreamLint.Background.guardedResult`) says whether that happens: it always comes to an end, with
the same model or with the first such union that is met.
-/

namespace StreamLint

namespace Background

open Draft

variable {background : Background} {draft : Draft}

/-! ### Questions -/

theorem recalls_infer {m : Type → Type} [Monad m] [LawfulMonad m] (call : Calling (Inference m))
    (fuel : Nat) : (background.infer call fuel).Recalls := by
  intro node draft
  unfold infer
  simp only [StateT.run_bind, StateT.run_get, pure_bind]
  rcases hknown : draft.inferred[node]? with _ | known
  -- neither without fuel nor without budget is an expression typed
  · cases fuel with
    | zero => rfl
    | succ fuel => rfl
  · rfl

/-- Noting the type of an expression. -/
theorem grows_note (h : draft.IsClosed background.prelude) (node : NodeId)
    {type? : Option TypeId} (htype : ∀ type ∈ type?, draft.table.Has type) :
    draft.Grows background.prelude
      { draft with
        inProgress := draft.inProgress.erase node
        inferred := draft.inferred.insert node type? } := by
  have hinferred : ∀ (other : NodeId) (id : TypeId),
      (draft.inferred.insert node type?)[other]? = some (some id) → draft.table.Has id := by
    intro other id hid
    rw [Std.TreeMap.getElem?_insert] at hid
    split at hid
    · exact htype id (Option.some.inj hid)
    · exact h.inferred other id hid
  exact ⟨⟨{ h with inferred := hinferred }, Nat.le_refl _, fun _ hid => hid⟩, fun _ _ => rfl⟩

/-- **Typing expressions agrees**, whatever the fuel. -/
theorem questionsAgree_infer (background : Background) (fuel : Nat) :
    background.QuestionsAgree (background.infer background.guardedResult fuel)
      (background.infer background.resultOfCall fuel) := by
  induction fuel with
  | zero =>
    refine ⟨fun draft hdraft budget node => ?_, recalls_infer _ _, recalls_infer _ _⟩
    unfold infer
    refine Agrees.get ?_
    split
    next known hknown =>
      refine Agrees.pure ⟨hdraft.refl, ?_⟩
      rintro type ⟨⟩
      exact hdraft.inferred node type hknown
    next => exact Agrees.pure ⟨hdraft.refl, by simp⟩
  | succ fuel ih =>
    refine ⟨fun draft hdraft budget node => ?_, recalls_infer _ _, recalls_infer _ _⟩
    unfold infer
    refine Agrees.get ?_
    split
    next known hknown =>
      refine Agrees.pure ⟨hdraft.refl, ?_⟩
      rintro type ⟨⟩
      exact hdraft.inferred node type hknown
    next =>
      dsimp only
      split
      · exact Agrees.pure ⟨hdraft.refl, by simp⟩
      have hbegun : draft.Grows background.prelude
          { draft with inProgress := node :: draft.inProgress } :=
        ⟨⟨{ hdraft with }, Nat.le_refl _, fun _ hid => hid⟩, fun _ _ => rfl⟩
      refine Agrees.modify ?_
      refine (ih.typeOfExpression (fun now hnow budget callee hcallee =>
        ih.guardedResult_agrees hnow budget hcallee) hbegun.closed (budget - 1) node).bind ?_
      rintro type? new ⟨hnew, htype⟩
      have hnoted := grows_note hnew.closed node htype
      exact Agrees.modify (Agrees.pure ⟨hbegun.trans (hnew.trans hnoted), htype⟩)

/-! ### Files -/

theorem inferAll_agrees (hdraft : draft.IsClosed background.prelude) (nodes : List NodeId) :
    Agrees background.steps (background.inferAll background.guardedResult nodes)
      (background.inferAll background.resultOfCall nodes) draft fun _ new =>
        draft.Grows background.prelude new := by
  have hquestion := questionsAgree_infer background background.budget
  induction nodes generalizing draft with
  | nil => exact Agrees.pure hdraft.refl
  | cons node rest ih =>
    unfold inferAll
    refine (hquestion.agrees draft hdraft background.budget node).bind ?_
    rintro _ new ⟨hnew, _⟩
    exact (ih hnew.closed).imp fun _ _ hlast => hnew.trans hlast

theorem settleEach_agrees (hdraft : draft.IsClosed background.prelude) (types : List TypeId) :
    Agrees background.steps (background.settleEach background.guardedResult types)
      (background.settleEach background.resultOfCall types) draft fun _ new =>
        draft.Grows background.prelude new := by
  have hquestion := questionsAgree_infer background background.budget
  induction types generalizing draft with
  | nil => exact Agrees.pure hdraft.refl
  | cons type rest ih =>
    unfold settleEach
    refine (hquestion.settle hdraft background.budget type).bind ?_
    rintro _ new ⟨hnew, _⟩
    exact (ih hnew.closed).imp fun _ _ hlast => hnew.trans hlast

theorem buildFile_agrees (hprelude : background.prelude.IsClosed) :
    Agrees background.steps (background.buildFile background.guardedResult)
      (background.buildFile background.resultOfCall) background.start fun _ new =>
        new.IsClosed background.prelude := by
  unfold buildFile
  refine (Agrees.lift (after_bindFile hprelude)).bind fun _ bound hbound => ?_
  refine (inferAll_agrees hbound background.expressions).bind fun _ typed htyped => Agrees.get ?_
  exact (settleEach_agrees htyped.closed _).imp fun _ _ hlast => hlast.closed

/-- **Making the model of a file agrees**: with a guard it comes to an end, with the same finished
draft or with a union that lies in itself. -/
theorem finish_eq (hprelude : background.prelude.IsClosed) :
    match background.finish background.guardedResult with
    | .ok draft =>
      background.finish background.resultOfCall = some draft ∧ draft.IsClosed background.prelude
    | .error loop =>
      background.finish background.resultOfCall = none ∧ loop.LiesInItself background.steps := by
  have hbuild := buildFile_agrees hprelude
  unfold Agrees at hbuild
  unfold finish
  rcases hrun : (background.buildFile background.guardedResult).run background.start with
    loop | ⟨⟨⟩, draft⟩
  · rw [hrun] at hbuild
    rw [hbuild.1]
    exact ⟨rfl, hbuild.2⟩
  · rw [hrun] at hbuild
    rw [hbuild.1]
    exact ⟨rfl, hbuild.2⟩

end Background

/-! ### Models -/

/-- A prelude that a file may be seen with: the one that declares nothing, or one that a file of
declarations makes. -/
def Prelude.IsBuilt (prelude : Prelude) : Prop :=
  prelude = .empty ∨ ∃ tree, Prelude.ofTree? tree = some prelude

theorem Prelude.IsBuilt.isClosed {prelude : Prelude} (h : prelude.IsBuilt) : prelude.IsClosed := by
  rcases h with rfl | ⟨tree, htree⟩
  · exact isClosed_empty
  · obtain ⟨draft, hdraft, hprelude⟩ := Option.bind_eq_some_iff.mp htree
    obtain rfl := Option.some.inj hprelude
    have hfinish := @Background.finish_eq
      ⟨tree, .empty, ({} : Limits).resolutionDepth⟩ isClosed_empty
    split at hfinish
    next =>
      obtain rfl := Option.some.inj (hfinish.1.symm.trans hdraft)
      exact hfinish.2.prelude
    next => exact absurd (hfinish.1.symm.trans hdraft) (by simp)

/-- The model of a file, made with a guard. -/
def SyntaxTree.guardedModel (tree : SyntaxTree) (prelude : Prelude) (limits : Limits) :
    Except Loop Bindings :=
  tree.modelBy prelude limits Background.guardedResult

/-- With a guard, making a model comes to an end with the model that is made without one, or with a
union that lies in itself; then making it without a guard comes to no end. -/
theorem SyntaxTree.guardedModel_agrees (tree : SyntaxTree) {prelude : Prelude}
    (hprelude : prelude.IsClosed) (limits : Limits) :
    match tree.guardedModel prelude limits with
    | .ok bindings => tree.model? prelude limits = some bindings
    | .error loop =>
      tree.model? prelude limits = none ∧ loop.LiesInItself (limits.resolutionDepth + 1) := by
  have hfinish := @Background.finish_eq ⟨tree, prelude, limits.resolutionDepth⟩ hprelude
  unfold guardedModel model? modelBy
  dsimp only
  split at hfinish
  next draft hrun =>
    rw [hrun, hfinish.1]
    rfl
  next loop hrun =>
    rw [hrun, hfinish.1]
    exact ⟨rfl, hfinish.2⟩

/-- There is a model of which a check holds, if the model that is made with a guard passes it. -/
theorem SyntaxTree.exists_model?_of_guarded (tree : SyntaxTree) {prelude : Prelude}
    (hprelude : prelude.IsClosed) {limits : Limits} {check : Bindings → Bool}
    (hcheck : (tree.guardedModel prelude limits).toOption.any check = true) :
    ∃ bindings, tree.model? prelude limits = some bindings ∧ check bindings = true := by
  have hagrees := tree.guardedModel_agrees hprelude limits
  rcases hguarded : tree.guardedModel prelude limits with loop | bindings
  · rw [hguarded] at hcheck
    cases hcheck
  · rw [hguarded] at hagrees hcheck
    exact ⟨bindings, hagrees, hcheck⟩

/-- **Making the model of a file comes to no end exactly if a guard would stop it**, at a union that
is what a member of a member … of itself stands for. Otherwise the model is the one that is made
with a guard, in which the search for what a call returns goes through no more unions than there is
budget, places in the table and types to be found out. -/
theorem SyntaxTree.model?_eq_none_iff (tree : SyntaxTree) {prelude : Prelude}
    (hprelude : prelude.IsBuilt) (limits : Limits) :
    (tree.model? prelude limits = none ↔ ∃ loop,
      tree.guardedModel prelude limits = .error loop ∧
        loop.LiesInItself (limits.resolutionDepth + 1)) ∧
    ∀ bindings, tree.model? prelude limits = some bindings ↔
      tree.guardedModel prelude limits = .ok bindings := by
  have hagrees := tree.guardedModel_agrees hprelude.isClosed limits
  rcases hguarded : tree.guardedModel prelude limits with loop | bindings
  · rw [hguarded] at hagrees
    simp [hagrees.1, hagrees.2]
  · rw [hguarded] at hagrees
    simp [hagrees]

/-- The document `type F = F | (() => number); declare const f: F; f();`. -/
def selfCalled : Concrete.Document where
  text := "type F = F | (() => number); declare const f: F; f();"
  dialect := .typeScript
  root :=
    .named "program" 0 53 none
      [.named "type_alias_declaration" 0 28 none
        [.named "type_identifier" 5 6 (some "name") [],
          .named "union_type" 9 27 (some "value")
            [.named "type_identifier" 9 10 none [],
              .named "parenthesized_type" 13 27 none
                [.named "function_type" 14 26 none
                  [.named "formal_parameters" 14 16 (some "parameters") [],
                    .named "predefined_type" 20 26 (some "return_type") []]]]],
        .named "ambient_declaration" 29 48 none
          [.named "lexical_declaration" 37 48 none
            [.named "variable_declarator" 43 47 none
              [.named "identifier" 43 44 (some "name") [],
                .named "type_annotation" 44 47 (some "type")
                  [.named "type_identifier" 46 47 none []]]]],
        .named "expression_statement" 49 53 none
          [.named "call_expression" 49 52 none
            [.named "identifier" 49 50 (some "function") [],
              .named "arguments" 50 52 (some "arguments") []]]]

/-- The guard stops at the union that the called value is declared to be. -/
theorem exists_guardedModel_selfCalled :
    ∃ loop, (SyntaxTree.ofDocument selfCalled).guardedModel .empty {} = .error loop ∧
      loop.LiesInItself (({} : Limits).resolutionDepth + 1) := by
  have hstops : ((SyntaxTree.ofDocument selfCalled).guardedModel .empty {}).isOk = false := by
    decide +kernel
  have hagrees := (SyntaxTree.ofDocument selfCalled).guardedModel_agrees Prelude.isClosed_empty {}
  rcases hguarded : (SyntaxTree.ofDocument selfCalled).guardedModel .empty {} with loop | bindings
  · rw [hguarded] at hagrees
    exact ⟨loop, rfl, hagrees.2⟩
  · rw [hguarded] at hstops
    cases hstops

/-- Making the model of that document comes to no end. -/
theorem model?_selfCalled : Prelude.empty.IsBuilt ∧
    (SyntaxTree.ofDocument selfCalled).model? .empty {} = none :=
  ⟨.inl rfl, ((SyntaxTree.ofDocument selfCalled).model?_eq_none_iff (.inl rfl) {}).1.mpr
    exists_guardedModel_selfCalled⟩

/-- Not every file has a model. -/
theorem not_forall_isSome_model? :
    ¬∀ (document : Concrete.Document) (prelude : Prelude) (limits : Limits), prelude.IsBuilt →
      ((SyntaxTree.ofDocument document).model? prelude limits).isSome := by
  intro h
  have hsome := h selfCalled .empty {} (.inl rfl)
  have hagrees := (SyntaxTree.ofDocument selfCalled).guardedModel_agrees Prelude.isClosed_empty {}
  obtain ⟨loop, hloop, -⟩ := exists_guardedModel_selfCalled
  rw [hloop] at hagrees
  rw [hagrees.1] at hsome
  cases hsome

end StreamLint
