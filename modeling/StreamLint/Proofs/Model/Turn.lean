import StreamLint.Proofs.Model.Completion
/-!
# Expressions that are typed in their turn

The expressions of a file are typed one after the other, the parts of an expression before the
expression (`StreamLint.Background.mem_before_of_expressions_eq`). But an expression may have been
asked for before its turn: a name that is used before it is declared asks for what it is initialised
with, and a call for what the body of the function returns. Such a question is put while others are
being dealt with, and possibly with little budget left.

An expression that nobody has asked for before its turn is *answered in its turn*
(`StreamLint.Background.AnswersInTurn`). Then its parts are answered, nothing is in progress, and
there is the full budget (`StreamLint.Background.Turn`); so its type is made of those of its parts
(`StreamLint.Background.TypedFrom`), and stays so to the end
(`StreamLint.Background.typedFrom_of_finish`).
-/

namespace StreamLint

/-- A construct with a type made of that of its first part declares no name. -/
theorem Construct.field?_name_eq_none {construct : Construct} (h : construct.followsPart = true) :
    construct.field? .name = none := by
  cases construct with
  | parenthesizedExpression | assignmentExpression | callExpression | memberExpression => rfl
  | _ => simp [followsPart] at h

namespace Background

open Draft

variable {background : Background} {draft : Draft}

/-! ### Parts come first -/

/-- The operands, and after them the declared names, both in post-order. -/
theorem expressions_eq : background.expressions =
    background.tree.postorder.filter
        (fun node => !background.isDeclaredHere node && background.isExpression node) ++
      background.tree.postorder.filter
        (fun node => background.isDeclaredHere node && background.isExpression node) := by
  simp only [expressions, List.partition_eq_filter_filter, List.filter_filter]
  rfl

/-- Among the nodes of one kind, too, children come before their parent. -/
theorem exists_before_of_filter_eq {test : NodeId → Bool} {before after : List NodeId}
    {node part : NodeId} (h : background.tree.postorder.filter test = before ++ node :: after)
    (hpart : part ∈ background.tree.children node) :
    ∃ earlier, part ∈ earlier ∧ earlier ⊆ background.tree.postorder ∧
      earlier.filter test = before := by
  obtain ⟨first, rest, hsplit, hbefore, hrest⟩ := List.filter_eq_append_iff.mp h
  obtain ⟨between, later, rfl, hbetween, -, -⟩ := List.filter_eq_cons_iff.mp hrest
  rw [← List.append_assoc] at hsplit
  refine ⟨first ++ between, SyntaxTree.mem_before_of_postorder_eq hsplit hpart, ?_, ?_⟩
  · rw [hsplit]
    exact List.subset_append_left ..
  · rw [List.filter_append, hbefore, List.filter_eq_nil_iff.mpr hbetween, List.append_nil]

/-- **The parts of an expression have their turn before it.** -/
theorem mem_before_of_expressions_eq (hlinked : background.tree.Linked) {before after : List NodeId}
    {node : NodeId} (h : background.expressions = before ++ node :: after) {construct : Construct}
    (hconstruct : background.tree.construct? node = some construct)
    (hname : construct.field? .name = none) {part : NodeId} (hpart : part ∈ construct.children)
    (hexpression : background.isExpression part = true) : part ∈ before := by
  have hchild : part ∈ background.tree.children node := by
    simpa only [SyntaxTree.children, hconstruct] using hpart
  -- the part is not declared by the expression, so it does not wait for the other expressions
  have hnot : background.isDeclaredHere part = false := by
    have hparent := hlinked.parent_of_mem_children node part hchild
    simp [isDeclaredHere, hparent, SyntaxTree.field?, hconstruct, hname]
  have hoperand : (!background.isDeclaredHere part && background.isExpression part) = true := by
    simp [hnot, hexpression]
  rw [expressions_eq] at h
  rcases List.append_eq_append_iff.mp h with ⟨between, rfl, hnames⟩ | ⟨between, hoperands, hrest⟩
  · -- the expression is a declared name, and all operands come before it
    obtain ⟨earlier, hmem, hsub, -⟩ := exists_before_of_filter_eq hnames hchild
    exact List.mem_append_left _ (List.mem_filter.mpr ⟨hsub hmem, hoperand⟩)
  cases between with
  | nil =>
    -- so it is here, where it is the first one of them
    rw [List.append_nil] at hoperands
    rw [List.nil_append, eq_comm, ← List.nil_append (node :: after)] at hrest
    obtain ⟨earlier, hmem, hsub, -⟩ := exists_before_of_filter_eq hrest hchild
    exact hoperands ▸ List.mem_filter.mpr ⟨hsub hmem, hoperand⟩
  | cons first between =>
    obtain ⟨rfl, -⟩ := List.cons.inj hrest
    obtain ⟨earlier, hmem, -, rfl⟩ := exists_before_of_filter_eq hoperands hchild
    exact List.mem_filter.mpr ⟨hmem, hoperand⟩

/-! ### Following types to what they stand for -/

/-- Following a type over settled types changes nothing. -/
theorem run_shapeWithin_eq (ask : Question (Inference Option)) (budget : Nat) {steps : Nat}
    {type shape : TypeId} (h : draft.settledShape? steps type = some shape) :
    (background.shapeWithin ask budget steps type).run draft = some (shape, draft) := by
  induction steps generalizing type with
  | zero => exact congrArg (fun shape => some (shape, draft)) (Option.some.inj h)
  | succ steps ih =>
    rcases hdeferred : draft.deferred[type]? with _ | source
    · have hsettle : (background.settle ask budget type).run draft = some ((), draft) := by
        unfold settle
        simp only [StateT.run_bind, StateT.run_get, pure_bind, hdeferred]
        rfl
      rcases hnext : draft.table.standsFor? type with _ | next <;>
        simp only [settledShape?, hdeferred, hnext] at h <;>
        simp only [shapeWithin, StateT.run_bind, hsettle, Option.bind_eq_bind, Option.bind_some,
          StateT.run_get, pure_bind, hnext]
      · obtain rfl := Option.some.inj h
        rfl
      · split at h
        next heq =>
          obtain rfl := Option.some.inj h
          rw [if_pos heq]
          rfl
        next hne =>
          rw [if_neg hne]
          exact ih h
    · simp only [settledShape?, hdeferred] at h
      cases h

/-- The type has been followed to what it stands for, over settled types only. -/
def LeadsTo (background : Background) (draft : Draft) (type shape : TypeId) : Prop :=
  draft.settledShape? (background.maxDepth + 1) type = some shape ∧ draft.table.Has shape

/-- **What begins with following a type** and only adds to what there is has followed it when it
comes to an end. -/
theorem QuestionsAgree.yields_leadsTo {guarded : Question (Inference (Except Loop))}
    {plain : Question (Inference Option)} (h : background.QuestionsAgree guarded plain)
    (hdraft : draft.IsClosed background.prelude) {α : Type} {budget : Nat} {type : TypeId}
    (htype : draft.table.Has type) {rest : TypeId → Inference Option α}
    (hgrows : ∀ now : Draft, now.IsClosed background.prelude → now.table.Has type →
      Yields (background.shapeOf plain budget type >>= rest) now fun _ new =>
        now.Grows background.prelude new) :
    Yields (background.shapeOf plain budget type >>= rest) draft fun _ new =>
      ∃ shape, background.LeadsTo new type shape := by
  refine (Yields.ofAgrees (h.shapeOf hdraft budget htype)).bind ?_
  rintro shape now ⟨hnow, hhas, hshape⟩ value new hrun
  have hfollow : (background.shapeOf plain budget type).run now = some (shape, now) :=
    run_shapeWithin_eq plain budget hshape
  have hagain : (background.shapeOf plain budget type >>= rest).run now = some (value, new) := by
    rw [StateT.run_bind, hfollow]
    exact hrun
  -- to follow the type again changes nothing, so that the rest, too, only adds
  have hnew := hgrows now hnow.closed (hnow.has htype) value new hagain
  exact ⟨shape, hnew.settledShape?_eq_some hnow.closed (hnow.has htype) hshape, hnew.has hhas⟩

/-! ### Calls and members of what has been typed -/

/-- An answer that has been noted is given again. -/
theorem run_infer_eq {call : Calling (Inference Option)} {fuel budget : Nat} {node : NodeId}
    {answer : Option TypeId} (h : draft.inferred[node]? = some answer) :
    (background.infer call fuel budget node).run draft = some (answer, draft) := by
  unfold infer
  simp only [StateT.run_bind, StateT.run_get, pure_bind, h]
  rfl

/-- What comes of a part whose type has been noted. -/
theorem run_ofPart_eq {call : Calling (Inference Option)} {fuel budget : Nat} {part : NodeId}
    {type : TypeId} (h : draft.inferred[part]? = some (some type))
    (follow : TypeId → Inference Option (Option TypeId)) :
    (ofPart (background.infer call fuel) budget part follow).run draft =
      (follow type).run draft := by
  unfold ofPart
  rw [StateT.run_bind, run_infer_eq h]
  rfl

/-- **Calling a value of a type.** If the type stands for a function, the call returns what that is
declared to. -/
theorem yields_call (hsound : background.IsSound draft) (hdraft : draft.IsClosed background.prelude)
    (hbusy : draft.inProgress ≠ []) (fuel budget : Nat) {type : TypeId}
    (htype : draft.table.Has type) :
    Yields (background.resultOfCall (background.infer background.resultOfCall fuel) budget type)
      draft fun value? new => ∃ shape, background.LeadsTo new type shape ∧
        ∀ result, new.table.get? shape = some (.function result) → value? = some result := by
  have hagree := questionsAgree_infer background fuel
  intro value? new hrun
  have htells := (questionsTold_infer background fuel).resultOfCall hbusy budget type
  obtain ⟨-, -, -, hresult⟩ := htells hsound value? new hrun
  have hleads : Yields
      (background.resultOfCall (background.infer background.resultOfCall fuel) budget type)
      draft fun _ new => ∃ shape, background.LeadsTo new type shape := by
    have hgrows : ∀ now : Draft, now.IsClosed background.prelude → now.table.Has type → Yields
        (background.resultOfCall (background.infer background.resultOfCall fuel) budget type) now
        fun _ new => now.Grows background.prelude new :=
      fun now hnow hhas => (hagree.yields_resultOfCall hnow budget hhas).imp
        fun _ _ hnew => hnew.1.grows
    rw [QuestionsTold.resultOfCall_eq] at hgrows ⊢
    unfold resultBy at hgrows ⊢
    exact hagree.yields_leadsTo hdraft htype hgrows
  obtain ⟨shape, hshape⟩ := hleads value? new hrun
  exact ⟨shape, hshape, fun result => hresult shape result hshape.1⟩

/-- **Looking for a member in a type**, with budget. A member of its own is found. -/
theorem yields_member (hsound : background.IsSound draft)
    (hdraft : draft.IsClosed background.prelude) (hbusy : draft.inProgress ≠ []) (fuel : Nat)
    {budget : Nat} (hbudget : 0 < budget) (name : String) {type : TypeId}
    (htype : draft.table.Has type) :
    Yields
      (background.typeOfMember (background.infer background.resultOfCall fuel) name budget type)
      draft fun value? new => ∃ shape, background.LeadsTo new type shape ∧
        (new.table.hasOwnMember shape name = true → value?.isSome = true) := by
  have hagree := questionsAgree_infer background fuel
  intro value? new hrun
  have htells := (questionsTold_infer background fuel).typeOfMember hbusy name budget type
  obtain ⟨-, -, -, hfound⟩ := htells hsound value? new hrun
  have hleads : Yields
      (background.typeOfMember (background.infer background.resultOfCall fuel) name budget type)
      draft fun _ new => ∃ shape, background.LeadsTo new type shape := by
    obtain ⟨budget, rfl⟩ := Nat.exists_eq_add_of_lt hbudget
    have hgrows : ∀ now : Draft, now.IsClosed background.prelude → now.table.Has type → Yields
        (background.typeOfMember (background.infer background.resultOfCall fuel) name (budget + 1)
          type) now fun _ new => now.Grows background.prelude new :=
      fun now hnow hhas => (Yields.ofAgrees (hagree.typeOfMember hnow name _ hhas)).imp
        fun _ _ hnew => hnew.grows
    rw [Nat.zero_add]
    simp only [typeOfMember] at hgrows ⊢
    exact hagree.yields_leadsTo hdraft htype hgrows
  obtain ⟨shape, hshape⟩ := hleads value? new hrun
  exact ⟨shape, hshape, hfound hbudget shape hshape.1⟩

/-- **The type of the expression was made of the answers of `old`**, and of what types stand for in
`new`. -/
structure TypedFrom (background : Background) (old new : Draft) (node : NodeId)
    (type? : Option TypeId) : Prop where
  /-- Parentheses and assignments. -/
  same : ∀ part type, (background.tree.construct? node = some (.parenthesizedExpression part) ∨
      ∃ left, background.tree.construct? node = some (.assignmentExpression left part)) →
    old.inferred[part]? = some (some type) → type? = some type
  /-- Calls. -/
  call : ∀ callee arguments type,
    background.tree.construct? node = some (.callExpression callee arguments) →
    old.inferred[callee]? = some (some type) → ∃ shape, background.LeadsTo new type shape ∧
      ∀ result, new.table.get? shape = some (.function result) → type? = some result
  /-- Members. -/
  member : 0 < background.maxDepth → ∀ object property name type,
    background.tree.construct? node = some (.memberExpression object property) →
    background.tree.nameAt? property = some name →
    old.inferred[object]? = some (some type) → ∃ shape, background.LeadsTo new type shape ∧
      (new.table.hasOwnMember shape name = true → type?.isSome = true)

/-- **Typing an expression** that nothing else is in progress with, from answers to its parts. -/
theorem yields_typedFrom (hsound : background.IsSound draft)
    (hdraft : draft.IsClosed background.prelude) (hbusy : draft.inProgress ≠ []) (fuel : Nat)
    (node : NodeId) :
    Yields (background.typeOfExpression (background.infer background.resultOfCall fuel)
        (background.resultOfCall (background.infer background.resultOfCall fuel))
        background.maxDepth node) draft fun type? new => background.TypedFrom draft new node type? := by
  intro type? new hrun
  unfold typeOfExpression at hrun
  refine ⟨fun part type hconstruct hanswer => ?_,
    fun callee arguments type hconstruct hanswer => ?_,
    fun hdepth object property name type hconstruct hname hanswer => ?_⟩
  · rcases hconstruct with hconstruct | ⟨_, hconstruct⟩ <;> rw [hconstruct] at hrun <;>
      exact (Prod.mk.inj (Option.some.inj (hrun.symm.trans (run_infer_eq hanswer)))).1
  · rw [hconstruct] at hrun
    exact yields_call hsound hdraft hbusy fuel _ (hdraft.inferred callee type hanswer) type? new
      ((run_ofPart_eq hanswer _).symm.trans hrun)
  · rw [hconstruct] at hrun
    dsimp only at hrun
    rw [hname] at hrun
    exact yields_member hsound hdraft hbusy fuel hdepth name (hdraft.inferred object type hanswer)
      type? new ((run_ofPart_eq hanswer _).symm.trans hrun)

/-! ### To the end -/

/-- What types stand for has nothing to do with the answers that are noted. -/
theorem settledShape?_note (draft : Draft) (node : NodeId) (type? : Option TypeId) (steps : Nat)
    (type : TypeId) :
    { draft with
        inProgress := draft.inProgress.erase node
        inferred := draft.inferred.insert node type? : Draft }.settledShape? steps type =
      draft.settledShape? steps type := by
  induction steps generalizing type with
  | zero => rfl
  | succ steps ih => simp only [settledShape?, ih]

/-- A type that has been followed, leads to the same one later on. -/
theorem Passes.leadsTo {old new : Draft} {through : List Draft}
    (h : background.Passes old through new) (hold : background.IsSound old) {type shape : TypeId}
    (hleads : background.LeadsTo old type shape) : background.LeadsTo new type shape :=
  ⟨h.settledShape?_eq_some hold hleads.1 hleads.2, h.has hleads.2⟩

/-- What is neither unknown nor an alias in the end has been so before, from when its place was
taken. -/
theorem Passes.get?_eq_some_of_known {old new : Draft} {through : List Draft}
    (h : background.Passes old through new) (hold : background.IsSound old) {id : TypeId}
    (hid : old.table.Has id) {entry : TypeEntry} (hentry : new.table.get? id = some entry)
    (hknown : entry ≠ .unknown) (hother : ∀ target, entry ≠ .alias "" [] target) :
    old.table.get? id = some entry := by
  rcases hsource : old.deferred[id]? with _ | source
  · exact (h.get?_eq id ⟨hid, hsource⟩).symm.trans hentry
  · -- what was deferred is unknown in the end, or an alias
    have hfound := h.course.keeps (fun hmove => hmove.isFound)
      (.inl (hold.unknown id source hsource))
    rcases hfound with hunknown | ⟨target, halias, -⟩
    · exact absurd (Option.some.inj (hentry.symm.trans hunknown)) hknown
    · exact absurd (Option.some.inj (hentry.symm.trans halias)) (hother target)

theorem Passes.hasOwnMember {old new : Draft} {through : List Draft}
    (h : background.Passes old through new) (hold : background.IsSound old) {shape : TypeId}
    (hshape : old.table.Has shape) {name : String}
    (hown : new.table.hasOwnMember shape name = true) :
    old.table.hasOwnMember shape name = true := by
  obtain ⟨entry, hentry, hown⟩ := (Option.any_eq_true _ _).mp hown
  have hold := h.get?_eq_some_of_known hold hshape hentry
    (by rintro rfl; cases hown) (by rintro _ rfl; cases hown)
  simpa [TypeTable.hasOwnMember, hold] using hown

namespace TypedFrom

variable {old new : Draft} {node : NodeId} {type? : Option TypeId}

/-- What the type of an expression was made of goes on leading to it, as long as no other function
comes to be there and no other member. -/
theorem mono (h : background.TypedFrom old new node type?) {last : Draft}
    (hleads : ∀ {type shape : TypeId}, background.LeadsTo new type shape →
      background.LeadsTo last type shape)
    (hfunction : ∀ {shape result : TypeId}, new.table.Has shape →
      last.table.get? shape = some (.function result) →
        new.table.get? shape = some (.function result))
    (hmember : ∀ {shape : TypeId} {name : String}, new.table.Has shape →
      last.table.hasOwnMember shape name = true → new.table.hasOwnMember shape name = true) :
    background.TypedFrom old last node type? := by
  refine ⟨h.same, fun callee arguments type hconstruct hanswer => ?_,
    fun hdepth object property name type hconstruct hname hanswer => ?_⟩
  · obtain ⟨shape, hshape, hresult⟩ := h.call callee arguments type hconstruct hanswer
    exact ⟨shape, hleads hshape, fun result hentry => hresult result (hfunction hshape.2 hentry)⟩
  · obtain ⟨shape, hshape, hfound⟩ :=
      h.member hdepth object property name type hconstruct hname hanswer
    exact ⟨shape, hleads hshape, fun hown => hfound (hmember hshape.2 hown)⟩

theorem passes (h : background.TypedFrom old new node type?) (hnew : background.IsSound new)
    {last : Draft} {through : List Draft} (hpasses : background.Passes new through last) :
    background.TypedFrom old last node type? :=
  h.mono (hpasses.leadsTo hnew)
    (fun hhas hentry => hpasses.get?_eq_some_of_known hnew hhas hentry (by simp) (by simp))
    (fun hhas hown => hpasses.hasOwnMember hnew hhas hown)

/-- Only the answers to the parts matter. -/
theorem of_answers (h : background.TypedFrom old new node type?) {other : Draft}
    (hanswers : ∀ construct, background.tree.construct? node = some construct →
      construct.followsPart = true → ∀ part ∈ construct.children, ∀ type,
        other.inferred[part]? = some (some type) → old.inferred[part]? = some (some type)) :
    background.TypedFrom other new node type? := by
  refine ⟨fun part type hconstruct hanswer => h.same part type hconstruct ?_,
    fun callee arguments type hconstruct hanswer => h.call callee arguments type hconstruct ?_,
    fun hdepth object property name type hconstruct hname hanswer =>
      h.member hdepth object property name type hconstruct hname ?_⟩
  · rcases hconstruct with hconstruct | ⟨_, hconstruct⟩ <;>
      exact hanswers _ hconstruct rfl part (by simp [Construct.children]) type hanswer
  · exact hanswers _ hconstruct rfl callee (by simp [Construct.children]) type hanswer
  · exact hanswers _ hconstruct rfl object (by simp [Construct.children]) type hanswer

end TypedFrom

/-- **A question that is put in turn**, for an expression without an answer, is answered from the
answers to the parts. -/
theorem yields_question_typedFrom (hsound : background.IsSound draft)
    (hdraft : draft.IsClosed background.prelude) (hidle : draft.inProgress = []) {node : NodeId}
    (hreached : background.tree.IsReached node) (hunanswered : draft.inferred[node]? = none) :
    Yields (background.question background.resultOfCall background.budget node) draft fun _ new =>
      ∃ type?, new.inferred[node]? = some type? ∧ background.TypedFrom draft new node type? := by
  refine yields_question hidle (absurd hunanswered) fun _ => ?_
  have hbegun : background.IsSound { draft with inProgress := node :: draft.inProgress } :=
    (Move.begins hreached hunanswered (by simp [hidle])).isSound hsound
  refine (yields_typedFrom hbegun { hdraft with } (by simp) _ node).imp fun type? new htyped => ?_
  have hold : background.TypedFrom draft new node type? :=
    ⟨htyped.same, htyped.call, htyped.member⟩
  refine ⟨type?, by simp, hold.mono (fun hleads => ?_) (fun _ => id) (fun _ => id)⟩
  exact ⟨(settledShape?_note new node type? _ _).trans hleads.1, hleads.2⟩

/-- What comes of typing some expressions first. -/
theorem inferAll_append (nodes others : List NodeId) :
    (background.inferAll background.resultOfCall (nodes ++ others) : Inference Option Unit) = (do
      background.inferAll background.resultOfCall nodes
      background.inferAll background.resultOfCall others) := by
  induction nodes with
  | nil => simp [inferAll]
  | cons node rest ih => simp only [List.cons_append, inferAll, ih, bind_assoc]

/-- **The expression is answered in its turn**: once all expressions before it have been typed, it
has no answer yet, so none of them has asked for it. -/
def AnswersInTurn (background : Background) (node : NodeId) : Prop :=
  ∃ before after now, background.expressions = before ++ node :: after ∧
    (background.inferAll background.resultOfCall before : Inference Option Unit).run
      background.bound = some ((), now) ∧ now.inferred[node]? = none

/-- Those of some expressions that have no answer yet when they are asked for, if this is done one
after another, with a guard, from a draft on. -/
def turnsFrom (background : Background) : List NodeId → Draft → List NodeId
  | [], _ => []
  | node :: rest, draft =>
    (if (draft.inferred[node]?).isNone then [node] else []) ++
      match (background.question background.guardedResult background.budget node).run draft with
      | .ok (_, new) => background.turnsFrom rest new
      | .error _ => []

/-- The expressions of a file that are found to be answered in their turns. -/
def turns (background : Background) : List NodeId :=
  background.turnsFrom background.expressions background.bound

/-- What is found is not answered by those before it when they are typed without a guard, either. -/
theorem exists_of_mem_turnsFrom {draft : Draft} (hdraft : draft.IsClosed background.prelude)
    {nodes : List NodeId} {node : NodeId} (h : node ∈ background.turnsFrom nodes draft) :
    ∃ before after now, nodes = before ++ node :: after ∧
      (background.inferAll background.resultOfCall before : Inference Option Unit).run draft =
        some ((), now) ∧ now.inferred[node]? = none := by
  induction nodes generalizing draft with
  | nil => simp [turnsFrom] at h
  | cons first rest ih =>
    simp only [turnsFrom, question, List.mem_append] at h
    obtain hown | hlater := h
    · split at hown
      next hnone =>
        obtain rfl := List.mem_singleton.mp hown
        exact ⟨[], rest, draft, rfl, rfl, Option.isNone_iff_eq_none.mp hnone⟩
      next => cases hown
    · have hagrees := (questionsAgree_infer background background.budget).agrees draft hdraft
        background.budget first
      unfold Agrees at hagrees
      split at hlater
      next new hrun =>
        rw [hrun] at hagrees
        obtain ⟨hplain, hgrows, -⟩ := hagrees
        obtain ⟨before, after, now, rfl, hbefore, hnone⟩ := ih hgrows.closed hlater
        refine ⟨first :: before, after, now, rfl, ?_, hnone⟩
        simpa only [inferAll, question, StateT.run_bind, hplain, Option.bind_eq_bind,
          Option.bind_some] using hbefore
      next => cases hlater

/-- Whether expressions are answered in their turns can be found out by typing all of them with a
guard. -/
theorem AnswersInTurn.of_mem_turns (hprelude : background.prelude.IsClosed) {node : NodeId}
    (h : node ∈ background.turns) : background.AnswersInTurn node :=
  exists_of_mem_turnsFrom (isBound_bound hprelude).closed h

/-- What has a type is an expression. -/
theorem Passes.isExpression_of_inferred {old new : Draft} {through : List Draft}
    (h : background.Passes old through new) {node : NodeId} (hold : old.inferred[node]? = none)
    {type : TypeId} (hnew : new.inferred[node]? = some (some type)) :
    background.isExpression node = true := by
  obtain ⟨_, _, _, _, _, _, hfits⟩ := h.course.exists_answer hold hnew
  by_contra hnot
  cases hfits.ofOther (by simpa using hnot)

/-- Typing expressions while nothing is in progress. -/
theorem exists_passes_of_inferAll {start new : Draft} (hsound : background.IsSound start)
    (hclosed : start.IsClosed background.prelude) (hidle : start.inProgress = [])
    {nodes : List NodeId} (hnodes : ∀ node ∈ nodes, background.tree.IsReached node)
    (hrun : (background.inferAll background.resultOfCall nodes : Inference Option Unit).run start =
      some ((), new)) :
    ∃ through, background.Passes start through new ∧ new.IsClosed background.prelude ∧
      ∀ node ∈ nodes, new.inferred[node]? ≠ none := by
  obtain ⟨through, -, hpasses, hanswered⟩ := tracks_inferAll hidle hnodes hsound () new hrun
  have hgrows := (inferAll_agrees hclosed nodes).post_of_eq_some hrun
  exact ⟨through, hpasses, hgrows.closed, hanswered⟩

/-- **The turn of an expression**: when it comes to it, nothing is in progress and the parts have
been answered; it is asked for, and everything that has been settled by then stays. -/
structure Turn (background : Background) (node : NodeId) (now new last : Draft) : Prop where
  /-- The expression is reached from the root. -/
  reached : background.tree.IsReached node
  /-- The draft when it comes to the expression is sound. -/
  sound : background.IsSound now
  /-- It is closed. -/
  closed : now.IsClosed background.prelude
  /-- Nothing is in progress. -/
  idle : now.inProgress = []
  /-- The expression has not been asked for before. -/
  unanswered : now.inferred[node]? = none
  /-- It is asked for. -/
  asked : ∃ answer, (background.question background.resultOfCall background.budget node :
    Inference Option (Option TypeId)).run now = some (answer, new)
  /-- It is typed. -/
  typed : ∃ through, background.Passes now through new
  /-- The other expressions are typed, and what is deferred is settled. -/
  rest : ∃ through, background.Passes new through last
  /-- The answers to the parts are there when it comes to the expression, unless one of the parts is
  a name that is declared. -/
  parts : ∀ construct, background.tree.construct? node = some construct →
    construct.field? .name = none → ∀ part ∈ construct.children, ∀ type,
      last.inferred[part]? = some (some type) → now.inferred[part]? = some (some type)

/-- **An expression that is answered in its turn** has one. -/
theorem exists_turn_of_finish (hprelude : background.prelude.IsClosed)
    (hlinked : background.tree.Linked)
    (h : background.finish background.resultOfCall = some draft) {node : NodeId}
    (hturn : background.AnswersInTurn node) : ∃ now new, background.Turn node now new draft := by
  obtain ⟨before, after, now, hexpressions, hnow, hunanswered⟩ := hturn
  obtain ⟨⟨⟨⟩, last⟩, hrun, hlast⟩ := Option.bind_eq_some_iff.mp h
  obtain rfl := Option.some.inj hlast
  have hrest : (do
      background.inferAll background.resultOfCall background.expressions
      background.settleEach background.resultOfCall (← get).deferred.keys :
        Inference Option Unit).run background.bound = some ((), last) := hrun
  rw [hexpressions, inferAll_append] at hrest
  simp only [inferAll, bind_assoc, StateT.run_bind, hnow, Option.bind_eq_bind, Option.bind_some,
    Option.bind_eq_some_iff] at hrest
  obtain ⟨⟨answer, new⟩, hquestion, ⟨⟨⟩, typed⟩, hafter, _, ⟨⟩, hsettle⟩ := hrest
  have hbound := isBound_bound hprelude
  have hreached : ∀ other ∈ before ++ node :: after, background.tree.IsReached other :=
    fun other hmem => isReached_of_mem_expressions (hexpressions ▸ hmem)
  obtain ⟨hbefore, hnode, hothers⟩ := List.forall_mem_append.mp hreached |>.imp_right
    List.forall_mem_cons.mp
  have hidle := hbound.ground.inProgress
  -- up to its turn, the parts of the expression are answered
  obtain ⟨_, hearlier, hclosed, hanswered⟩ :=
    exists_passes_of_inferAll hbound.isSound hbound.closed hidle hbefore hnow
  have hsound := hearlier.isSound hbound.isSound
  have hidle := hearlier.inProgress_eq.trans hidle
  have hask := (questionsTold_infer background background.budget).tracks now background.budget node
    (fun _ => rfl) hnode
  obtain ⟨_, -, hturn, -⟩ := hask hsound answer new hquestion
  -- after it, all that has been settled stays
  have hidlenew := hturn.inProgress_eq.trans hidle
  have hsoundnew := hturn.isSound hsound
  obtain ⟨_, -, hlater, -⟩ := tracks_inferAll hidlenew hothers hsoundnew () typed hafter
  obtain ⟨_, -, hend, -⟩ := tracks_settleKeys (hlater.inProgress_eq.trans hidlenew)
    (hlater.isSound hsoundnew) () last hsettle
  have hrest := hlater.trans hend
  refine ⟨now, new, hnode, hsound, hclosed, hidle, hunanswered, ⟨answer, hquestion⟩, ⟨_, hturn⟩,
    ⟨_, hrest⟩, fun construct hconstruct hname part hpart type htype => ?_⟩
  have hall := (hearlier.trans hturn).trans hrest
  have hexpression := hall.isExpression_of_inferred (hbound.ground.inferred part) htype
  have hmem :=
    mem_before_of_expressions_eq hlinked hexpressions hconstruct hname hpart hexpression
  obtain ⟨known, hknown⟩ := Option.ne_none_iff_exists'.mp (hanswered part hmem)
  have hkept := (hturn.trans hrest).course.inferred_eq_some hknown
  rw [hknown, Option.some.inj (hkept.symm.trans htype)]

/-- **An expression that is answered in its turn** has, in the finished draft, a type that is made
of the answers to its parts. -/
theorem typedFrom_of_finish (hprelude : background.prelude.IsClosed)
    (hlinked : background.tree.Linked)
    (h : background.finish background.resultOfCall = some draft) {node : NodeId}
    (hturn : background.AnswersInTurn node) :
    ∃ type?, draft.inferred[node]? = some type? ∧
      background.TypedFrom draft draft node type? := by
  obtain ⟨now, new, hturn⟩ := exists_turn_of_finish hprelude hlinked h hturn
  obtain ⟨answer, hquestion⟩ := hturn.asked
  obtain ⟨type?, hanswer, htyped⟩ := yields_question_typedFrom hturn.sound hturn.closed hturn.idle
    hturn.reached hturn.unanswered answer new hquestion
  obtain ⟨_, htypednow⟩ := hturn.typed
  obtain ⟨_, hrest⟩ := hturn.rest
  exact ⟨type?, hrest.course.inferred_eq_some hanswer,
    (htyped.passes (htypednow.isSound hturn.sound) hrest).of_answers fun construct hconstruct hfollows =>
      hturn.parts construct hconstruct (Construct.field?_name_eq_none hfollows)⟩

end Background

end StreamLint
