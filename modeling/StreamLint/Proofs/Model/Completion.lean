import StreamLint.Proofs.Model.Finished
import StreamLint.Proofs.Model.Reserved
import StreamLint.Proofs.Model.Telling
/-!
# What has been done when a model is finished

The chronicle of a model (`StreamLint.SyntaxTree.chronicle?`) holds all drafts from the first to the
finished one. In the finished draft nothing is left to be done, and going through the drafts shows
that nothing has been done twice (`StreamLint.Chronicle.Completes`):

* no type is deferred and no expression is in progress;
* every expression that is reached from the root was answered once, and the answer stayed;
* every initialiser, default and body for which no type is written was deferred, and every type that
  was ever deferred was taken up once and is unknown or an alias of another place;
* every place taken for a declaration holds what is declared there.

While the deferred types are settled, more expressions might be typed, and a function expression
would defer another type. This does not happen because all expressions are answered by then.
-/

namespace StreamLint

namespace Chronicle

/-- **The expression is answered once**: up to some point there is no answer, and from then on there
is the same one. -/
def AnswersOnce (chronicle : Chronicle) (node : NodeId) : Prop :=
  ∃ before after answer, chronicle.drafts = before ++ after ∧ after ≠ [] ∧
    (∀ draft ∈ before, draft.inferred[node]? = none) ∧
      ∀ draft ∈ after, draft.inferred[node]? = some answer

/-- **The type is taken up once**: up to some point its place is not in use, then it is deferred,
and from some point on it is settled. -/
def TakesOnce (chronicle : Chronicle) (id : TypeId) : Prop :=
  ∃ before during after, chronicle.drafts = before ++ (during ++ after) ∧ during ≠ [] ∧ after ≠ [] ∧
    (∀ draft ∈ before, ¬draft.table.Has id ∧ draft.deferred[id]? = none) ∧
      (∀ draft ∈ during, draft.deferred[id]? ≠ none) ∧
        ∀ draft ∈ after, draft.IsSettled id

/-- **Everything has been done, and nothing twice.** -/
structure Completes (background : Background) (chronicle : Chronicle) : Prop where
  /-- No type is deferred. -/
  deferred : chronicle.draft.deferred.isEmpty = true
  /-- No expression is in progress. -/
  inProgress : chronicle.draft.inProgress = []
  /-- Every expression was answered once. -/
  answers : ∀ node, background.tree.IsReached node → background.isExpression node = true →
    chronicle.AnswersOnce node
  /-- All that the file leaves open was deferred. -/
  opens : ∀ source, background.LeavesOpen source → ∃ draft ∈ chronicle.drafts, draft.Defers source
  /-- What a function expression returns was deferred, unless it is written. -/
  opensBody : ∀ node params body, background.tree.IsReached node →
    background.tree.construct? node = some (.functionExpression params none (some body)) →
      ∃ draft ∈ chronicle.drafts, draft.Defers (.body body)
  /-- Every deferred type was taken up once. -/
  takes : ∀ draft ∈ chronicle.drafts, ∀ id : TypeId, draft.deferred[id]? ≠ none →
    chronicle.TakesOnce id
  /-- Every deferred type is unknown or an alias of another place. -/
  found : ∀ draft ∈ chronicle.drafts, ∀ id : TypeId, draft.deferred[id]? ≠ none →
    chronicle.draft.table.get? id = some .unknown ∨
      ∃ target, chronicle.draft.table.get? id = some (.alias "" [] target) ∧ target ≠ id
  /-- Every place for a declaration holds what is declared there. -/
  declared : ∀ declaration ∈ background.declarations,
    background.HoldsDeclared background.declarations chronicle.draft declaration.2

end Chronicle

namespace Background

open Draft

variable {background : Background} {draft : Draft}

/-! ### Expressions -/

theorem mem_expressions_iff {node : NodeId} : node ∈ background.expressions ↔
    node ∈ background.tree.postorder ∧ background.isExpression node = true := by
  unfold isExpression
  simp only [expressions, List.partition_eq_filter_filter, List.mem_append, List.mem_filter]
  by_cases hdeclared : background.isDeclaredHere node = true <;> simp [hdeclared]

theorem isReached_of_mem_expressions {node : NodeId} (h : node ∈ background.expressions) :
    background.tree.IsReached node :=
  SyntaxTree.IsReached.of_mem_postorder (mem_expressions_iff.mp h).1

/-- **A question that is put while nothing is in progress**: the answer is there, or the expression
is begun, typed and answered. -/
theorem yields_question {call : Calling (Inference Option)} {node : NodeId}
    (hidle : draft.inProgress = []) {post : Draft → Prop}
    (hanswered : draft.inferred[node]? ≠ none → post draft)
    (hunanswered : draft.inferred[node]? = none →
      Yields (background.typeOfExpression (background.infer call background.maxDepth)
          (call (background.infer call background.maxDepth)) background.maxDepth node)
        { draft with inProgress := node :: draft.inProgress } fun type? new =>
          post { new with
            inProgress := new.inProgress.erase node
            inferred := new.inferred.insert node type? }) :
    Yields (background.question call background.budget node) draft fun _ new => post new := by
  unfold question budget infer
  refine Yields.get ?_
  split
  next known hknown => exact Yields.pure (hanswered (by simp [hknown]))
  next hunknown =>
    dsimp only
    split
    next hnot => simp [hidle] at hnot
    next =>
      have hbegin : Yields
          (modify fun draft => { draft with inProgress := node :: draft.inProgress }) draft
          fun _ new => new = { draft with inProgress := node :: draft.inProgress } := by
        rintro _ _ ⟨⟩
        rfl
      refine hbegin.bind ?_
      rintro _ _ rfl
      refine (hunanswered hunknown).bind ?_
      rintro type? new hpost _ _ ⟨⟩
      exact hpost

/-- It leads to an answer. -/
theorem yields_question_answer (call : Calling (Inference Option)) (node : NodeId)
    (hidle : draft.inProgress = []) :
    Yields (background.question call background.budget node) draft fun _ new =>
      new.inferred[node]? ≠ none :=
  yields_question hidle id fun _ _ _ _ => by simp

theorem Tracks.and_yields {α : Type} {told : Told α} {plain : Inference Option α}
    {post post' : α → Draft → Prop} (h : background.Tracks told plain draft post)
    (h' : Yields plain draft post') :
    background.Tracks told plain draft fun value new => post value new ∧ post' value new := by
  intro hsound value new hrun
  obtain ⟨through, htold, hpasses, hpost⟩ := h hsound value new hrun
  exact ⟨through, htold, hpasses, hpost, h' value new hrun⟩

/-- **Typing the expressions of a file** leaves each of them with an answer. -/
theorem tracks_inferAll (hidle : draft.inProgress = []) {nodes : List NodeId}
    (hnodes : ∀ node ∈ nodes, background.tree.IsReached node) :
    background.Tracks (background.inferAll background.resultOfCall nodes)
      (background.inferAll background.resultOfCall nodes) draft fun _ new =>
        ∀ node ∈ nodes, new.inferred[node]? ≠ none := by
  induction nodes generalizing draft with
  | nil => exact .pure (by simp)
  | cons node rest ih =>
    obtain ⟨hnode, hrest⟩ := List.forall_mem_cons.mp hnodes
    unfold inferAll
    have hquestion := ((questionsTold_infer background background.budget).tracks draft
      background.budget node (fun _ => rfl) hnode).and_yields (yields_question_answer _ node hidle)
    refine hquestion.bind ?_
    rintro _ new hsame ⟨-, hanswer⟩
    refine (ih (hsame.trans hidle) hrest).imp fun through _ last _ hpasses hanswers => ?_
    refine List.forall_mem_cons.mpr ⟨?_, hanswers⟩
    -- the answer stays while the other expressions are typed
    obtain ⟨answer, hat⟩ := Option.ne_none_iff_exists'.mp hanswer
    simp [hpasses.course.inferred_eq_some hat]

/-- **Settling types** leaves each of them settled. -/
theorem tracks_settleEach (hidle : draft.inProgress = []) {types : List TypeId}
    (htypes : ∀ type ∈ types, draft.table.Has type) :
    background.Tracks (background.settleEach background.resultOfCall types)
      (background.settleEach background.resultOfCall types) draft fun _ new =>
        ∀ type ∈ types, new.IsSettled type := by
  induction types generalizing draft with
  | nil => exact .pure (by simp)
  | cons type rest ih =>
    obtain ⟨htype, hrest⟩ := List.forall_mem_cons.mp htypes
    unfold settleEach
    have hsettle : background.Tracks
        (background.settle (background.question background.resultOfCall) background.budget type)
        (background.settle (background.question background.resultOfCall) background.budget type)
        draft fun _ new => new.IsSettled type ∧ ∀ type ∈ rest, new.table.Has type := by
      refine ((questionsTold_infer background background.budget).settle (fun _ => rfl) type).imp ?_
      intro through _ new _ hpasses hsettled
      exact ⟨⟨hpasses.has htype, hsettled⟩, fun other hother => hpasses.has (hrest other hother)⟩
    refine hsettle.bind ?_
    rintro _ new hsame ⟨hsettled, hrest⟩
    refine (ih (hsame.trans hidle) hrest).imp fun through _ last _ hpasses hlast => ?_
    exact List.forall_mem_cons.mpr ⟨hpasses.isSettled hsettled, hlast⟩

/-! ### Files -/

/-- All expressions that are reached from the root are answered. -/
def IsAnswered (background : Background) (draft : Draft) : Prop :=
  ∀ node, background.tree.IsReached node → background.isExpression node = true →
    draft.inferred[node]? ≠ none

theorem Passes.isAnswered {new : Draft} {through : List Draft}
    (h : background.Passes draft through new) (hold : background.IsAnswered draft) :
    background.IsAnswered new := by
  intro node hreached hexpression
  obtain ⟨answer, hanswer⟩ := Option.ne_none_iff_exists'.mp (hold node hreached hexpression)
  simp [h.course.inferred_eq_some hanswer]

theorem mem_keys_deferred_iff {id : TypeId} :
    id ∈ draft.deferred.keys ↔ ∃ source, draft.deferred[id]? = some source := by
  rw [Std.TreeMap.mem_keys, Std.TreeMap.mem_iff_isSome_getElem?, Option.isSome_iff_exists]

/-- Settling what is deferred leaves each of those types settled. -/
theorem tracks_settleKeys (hidle : draft.inProgress = []) :
    background.Tracks (background.settleEach background.resultOfCall draft.deferred.keys)
      (background.settleEach background.resultOfCall draft.deferred.keys) draft fun _ new =>
        ∀ type ∈ draft.deferred.keys, new.IsSettled type := by
  intro hsound
  refine tracks_settleEach hidle (fun id hid => ?_) hsound
  obtain ⟨source, hsource⟩ := mem_keys_deferred_iff.mp hid
  exact TypeTable.has_of_get? (hsound.unknown id source hsource)

/-- **Settling what is deferred when all expressions are answered** leaves nothing deferred. -/
theorem tracks_settleDeferred (hidle : draft.inProgress = [])
    (hanswered : background.IsAnswered draft) :
    background.Tracks (background.settleEach background.resultOfCall draft.deferred.keys)
      (background.settleEach background.resultOfCall draft.deferred.keys) draft fun _ new =>
        background.IsAnswered new ∧ new.deferred.isEmpty = true := by
  refine (tracks_settleKeys hidle).imp ?_
  intro through _ new hsound hpasses hsettled
  refine ⟨hpasses.isAnswered hanswered, ?_⟩
  have hfunctions : ∀ node params returnType body, background.tree.IsReached node →
      background.tree.construct? node = some (.functionExpression params returnType body) →
        draft.inferred[node]? ≠ none := by
    intro node params returnType body hreached hconstruct
    exact hanswered node hreached (isExpression_eq_mayHaveType hconstruct)
  -- no function expression is left to defer a type, and what was deferred has been settled
  refine Std.TreeMap.isEmpty_iff_forall_not_mem.mpr fun id hid => ?_
  obtain ⟨source, hsource⟩ := mem_keys_deferred_iff.mp (Std.TreeMap.mem_keys.mpr hid)
  have hold := hpasses.course.deferred_eq_some hsound hfunctions hsource
  have hnone := (hsettled id (mem_keys_deferred_iff.mpr ⟨source, hold⟩)).2
  exact absurd (hnone.symm.trans hsource) (by simp)

/-- **Making the model of a file is told of**: after the groundwork it passes on, answers all
expressions, and leaves nothing deferred. -/
theorem tells_buildFile (hprelude : background.prelude.IsClosed)
    (hlinked : background.tree.Linked) :
    Tells (background.buildFile background.resultOfCall)
      (background.buildFile background.resultOfCall) background.start fun through _ final =>
        ∃ rest, through = background.start :: rest ∧ background.Passes background.bound rest final ∧
          background.IsAnswered final ∧ final.deferred.isEmpty = true := by
  have hbound := isBound_bound hprelude
  have hidle : background.bound.inProgress = [] := hbound.ground.inProgress
  have hbind : Tells (liftM background.bindFile) (liftM background.bindFile) background.start
      fun through _ new => through = [background.start] ∧ new = background.bound :=
    Tells.lift ⟨rfl, rfl⟩
  have hrest : background.Tracks
      (do
        background.inferAll background.resultOfCall background.expressions
        background.settleEach background.resultOfCall (← get).deferred.keys)
      (do
        background.inferAll background.resultOfCall background.expressions
        background.settleEach background.resultOfCall (← get).deferred.keys)
      background.bound fun _ final =>
        background.IsAnswered final ∧ final.deferred.isEmpty = true := by
    refine (tracks_inferAll hidle fun _ => isReached_of_mem_expressions).bind ?_
    intro _ typed hsame hanswers
    have hanswered : background.IsAnswered typed := by
      intro node hreached hexpression
      exact hanswers node (mem_expressions_iff.mpr ⟨hlinked.mem_postorder hreached, hexpression⟩)
    exact Tracks.get (tracks_settleDeferred (hsame.trans hidle) hanswered)
  unfold buildFile
  refine hbind.bind ?_
  rintro _ _ _ ⟨rfl, rfl⟩
  exact (hrest hbound.isSound).imp fun through _ final hfinal => ⟨through, rfl, hfinal⟩

/-! ### Nothing is done twice -/

namespace Course

variable {first old new : Draft} {through : List Draft}

/-- An expression that is answered in the end has been answered once. -/
theorem answersOnce (h : background.Course old through new) {node : NodeId}
    (hfirst : first.inferred[node]? = none) (hold : old.inferred[node]? = none)
    (hnew : new.inferred[node]? ≠ none) :
    (Chronicle.mk new (first :: through)).AnswersOnce node := by
  obtain ⟨answer, hanswer⟩ := Option.ne_none_iff_exists'.mp hnew
  obtain ⟨before, last, after, hdrafts, hbefore, hafter, -⟩ := h.exists_answer hold hanswer
  have hsplit : through ++ [new] = (before ++ [last]) ++ after := by simp [hdrafts]
  refine ⟨first :: (before ++ [last]), after, answer, ?_, ?_, ?_, hafter⟩
  · simp [Chronicle.drafts, hdrafts]
  · -- the last draft is not among those without an answer
    rintro rfl
    have hlast : new ∈ (before ++ [last]) ++ [] := hsplit ▸ by simp
    exact hnew (hbefore new (by simpa using hlast))
  · exact List.forall_mem_cons.mpr ⟨hfirst, hbefore⟩

/-- A function expression that is answered in the end has had its body deferred. -/
theorem exists_defers (h : background.Course old through new) (hold : background.IsSound old)
    {node body : NodeId} {params : List NodeId}
    (hconstruct : background.tree.construct? node =
      some (.functionExpression params none (some body)))
    (hunanswered : old.inferred[node]? = none) (hnew : new.inferred[node]? ≠ none) :
    ∃ draft ∈ through ++ [new], draft.Defers (.body body) := by
  obtain ⟨answer, hanswer⟩ := Option.ne_none_iff_exists'.mp hnew
  obtain ⟨before, last, after, hdrafts, -, -, hfits⟩ := h.exists_answer hunanswered hanswer
  obtain ⟨_, result, -, -, hsource⟩ := hfits.function params body hconstruct
  have hlast : last ∈ through ++ [new] := hdrafts ▸ by simp
  have hsound := h.forall_mem (fun hmove => hmove.isSound) hold last hlast
  exact ⟨last, hlast, result, TypeTable.has_of_get? (hsound.unknown result _ hsource), hsource⟩

/-- A type that was deferred, and is not in the end, has been taken up once. -/
theorem takesOnce (h : background.Course old through new) (hold : background.IsSound old)
    {id : TypeId} (hfirst : ¬first.table.Has id ∧ first.deferred[id]? = none)
    (hnew : new.deferred.isEmpty = true) {draft : Draft} (hdraft : draft ∈ through ++ [new])
    (hid : draft.deferred[id]? ≠ none) :
    (Chronicle.mk new (first :: through)).TakesOnce id := by
  have hsound : ∀ draft ∈ through ++ [new], background.IsSound draft :=
    h.forall_mem (fun hmove => hmove.isSound) hold
  have hhas : ∀ draft ∈ through ++ [new], draft.deferred[id]? ≠ none → draft.table.Has id := by
    intro draft hdraft hid
    obtain ⟨source, hsource⟩ := Option.ne_none_iff_exists'.mp hid
    exact TypeTable.has_of_get? ((hsound draft hdraft).unknown id source hsource)
  obtain ⟨before, during, after, hdrafts, hbefore, hduring, hafter⟩ :=
    h.exists_split_two (·.table.Has id) (·.IsSettled id)
      (fun hmove => hmove.has) (fun hmove => hmove.isSettled)
  rw [hdrafts] at hdraft hsound hhas
  refine ⟨first :: before, during, after, by simp [Chronicle.drafts, hdrafts], ?_, ?_, ?_, ?_,
    hafter⟩
  · -- the draft where the type is deferred is among those in the middle
    rintro rfl
    rcases List.mem_append.mp hdraft with hmem | hmem
    · exact hbefore draft hmem (hhas draft (List.mem_append_left _ hmem) hid)
    · exact hid (hafter draft hmem).2
  · -- in the last draft the type is settled
    rintro rfl
    have hlast : new ∈ before ++ (during ++ []) := hdrafts ▸ by simp
    have hlasthas : new.table.Has id := h.keeps_of_mem (fun hmove => hmove.has) (hdrafts ▸ hdraft)
      (hhas draft hdraft hid)
    have hsettled : new.IsSettled id := ⟨hlasthas, Std.TreeMap.getElem?_of_isEmpty hnew⟩
    rcases List.mem_append.mp hlast with hmem | hmem
    · exact hbefore new hmem hlasthas
    · exact (hduring new (by simpa using hmem)).2 hsettled
  · refine List.forall_mem_cons.mpr ⟨hfirst, fun draft hdraft => ⟨hbefore draft hdraft, ?_⟩⟩
    by_contra hsome
    exact hbefore draft hdraft (hhas draft (List.mem_append_left _ hdraft) hsome)
  · intro draft hdraft hnone
    exact (hduring draft hdraft).2 ⟨(hduring draft hdraft).1, hnone⟩

end Course

/-! ### Finished drafts -/

/-- The chronicle of making the model of a file, if that comes to an end. -/
def chronicle? (background : Background) : Option Chronicle := do
  let told : Told Unit := background.buildFile background.resultOfCall
  let (_, chronicle) ← told.run ⟨background.start, []⟩
  return chronicle

/-- **The chronicle of a finished draft**: the moves after the groundwork have answered all
expressions and left nothing deferred. -/
theorem exists_chronicle (hprelude : background.prelude.IsClosed) (hlinked : background.tree.Linked)
    (h : background.finish background.resultOfCall = some draft) :
    ∃ rest, background.chronicle? = some ⟨draft, background.start :: rest⟩ ∧
      background.Passes background.bound rest draft ∧ background.IsAnswered draft ∧
        draft.deferred.isEmpty = true := by
  obtain ⟨⟨⟨⟩, new⟩, hrun, hnew⟩ := Option.bind_eq_some_iff.mp h
  obtain rfl := Option.some.inj hnew
  obtain ⟨_, htold, rest, rfl, hfinal⟩ := tells_buildFile hprelude hlinked () new hrun
  refine ⟨rest, ?_, hfinal⟩
  rw [chronicle?, htold]
  rfl

/-- **Everything has been done, and nothing twice**, when the draft of a file is finished. -/
theorem completes_of_finish (hprelude : background.prelude.IsClosed)
    (hlinked : background.tree.Linked)
    (h : background.finish background.resultOfCall = some draft) :
    ∃ chronicle, background.chronicle? = some chronicle ∧ chronicle.draft = draft ∧
      chronicle.Completes background := by
  obtain ⟨rest, hchronicle, hpasses, hanswered, hnone⟩ := exists_chronicle hprelude hlinked h
  have hbound := isBound_bound hprelude
  have hsound := hbound.isSound
  -- nothing is deferred at the start, so it is one of the drafts after the groundwork
  have hdeferred : ∀ now ∈ (Chronicle.mk draft (background.start :: rest)).drafts, ∀ id : TypeId,
      now.deferred[id]? ≠ none → now ∈ rest ++ [draft] := by
    intro now hnow id hid
    rcases List.mem_cons.mp hnow with rfl | hnow
    · exact absurd rfl hid
    · exact hnow
  have hallsound : ∀ now ∈ rest ++ [draft], background.IsSound now :=
    hpasses.course.forall_mem (fun hmove => hmove.isSound) hsound
  refine ⟨_, hchronicle, rfl, hnone, hpasses.inProgress_eq.trans hbound.ground.inProgress,
    fun node hreached hexpression => ?_, fun source hopen => ?_,
    fun node params body hreached hconstruct => ?_, fun now hnow id hid => ?_,
    fun now hnow id hid => ?_, fun declaration hdeclaration => ?_⟩
  · exact hpasses.course.answersOnce rfl (hbound.ground.inferred node)
      (hanswered node hreached hexpression)
  · -- it was deferred when the first expression was typed
    exact ⟨background.bound, List.mem_cons_of_mem _ hpasses.course.mem_first,
      defers_bound hlinked hopen⟩
  · have hexpression : background.isExpression node = true := isExpression_eq_mayHaveType hconstruct
    obtain ⟨now, hnow, hdefers⟩ := hpasses.course.exists_defers hsound hconstruct
      (hbound.ground.inferred node) (hanswered node hreached hexpression)
    exact ⟨now, List.mem_cons_of_mem _ hnow, hdefers⟩
  · have hnow := hdeferred now hnow id hid
    refine hpasses.course.takesOnce hsound ⟨fun hhas => ?_, rfl⟩ hnone hnow hid
    -- the types of the prelude are settled throughout
    have hsettled := hpasses.course.forall_mem (fun hmove => hmove.isSettled)
      (hbound.closed.kept id hhas) now hnow
    exact hid hsettled.2
  · have hnow := hdeferred now hnow id hid
    obtain ⟨source, hsource⟩ := Option.ne_none_iff_exists'.mp hid
    exact hpasses.course.keeps_of_mem (fun hmove => hmove.isFound) hnow
      (.inl ((hallsound now hnow).unknown id source hsource))
  · exact (hbound.declared declaration hdeclaration).mono hpasses.course.sameNames
      (hpasses.get?_eq _ (hbound.settled declaration hdeclaration))

end Background

/-! ### Models -/

/-- The type of a node, as its expression was answered. -/
theorem Draft.getElem?_nodeTypes (draft : Draft) (node : NodeId) :
    draft.bindings.nodeTypes[node]? = (draft.inferred[node]?).getD none := by
  simp only [bindings, Std.TreeMap.getElem?_filterMap]
  cases draft.inferred[node]? <;> simp

namespace SyntaxTree

/-- What a file is seen against when its model is made. -/
def background (tree : SyntaxTree) (prelude : Prelude) (limits : Limits) : Background :=
  ⟨tree, prelude, limits.resolutionDepth⟩

/-- **When the model of a document is finished, everything has been done, and nothing twice**: the
model is made by a course of drafts in which every expression is answered once, all that is left
open is deferred, and every deferred type is taken up once; at its end nothing is left deferred or in
progress, and every declared type is defined. -/
theorem completes_of_model? (document : Concrete.Document) {prelude : Prelude}
    (hprelude : prelude.IsBuilt) (limits : Limits) {bindings : Bindings}
    (h : (ofDocument document).model? prelude limits = some bindings) :
    ∃ chronicle, ((ofDocument document).background prelude limits).chronicle? = some chronicle ∧
      chronicle.draft.bindings = bindings ∧
        chronicle.Completes ((ofDocument document).background prelude limits) := by
  obtain ⟨draft, hdraft, hbindings⟩ := Option.bind_eq_some_iff.mp h
  obtain rfl := Option.some.inj hbindings
  obtain ⟨chronicle, hchronicle, rfl, hcompletes⟩ :=
    Background.completes_of_finish hprelude.isClosed (linked_ofDocument document) hdraft
  exact ⟨chronicle, hchronicle, rfl, hcompletes⟩

end SyntaxTree

/-- The model of `class C { v = 1; } const f = () => new C().v; f();` is made so: there the type
of the field is deferred, and that of the function. -/
theorem completes_of_model?_fieldCalled : ∃ prelude bindings, prelude.IsBuilt ∧
    (SyntaxTree.ofDocument fieldCalled).model? prelude {} = some bindings ∧
      ∃ chronicle,
        ((SyntaxTree.ofDocument fieldCalled).background prelude {}).chronicle? = some chronicle ∧
          chronicle.draft.bindings = bindings ∧
            chronicle.Completes ((SyntaxTree.ofDocument fieldCalled).background prelude {}) := by
  obtain ⟨prelude, bindings, hprelude, hbindings⟩ := exists_model?_fieldCalled
  have hbuilt : prelude.IsBuilt := .inr ⟨_, hprelude⟩
  exact ⟨prelude, bindings, hbuilt, hbindings,
    SyntaxTree.completes_of_model? fieldCalled hbuilt {} hbindings⟩

end StreamLint
