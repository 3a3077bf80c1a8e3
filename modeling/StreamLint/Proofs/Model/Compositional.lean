import StreamLint.Proofs.Model.Turn
/-!
# What the type of an expression is made of

One would like the types of a finished model to fit together
(`StreamLint.Bindings.IsCompositional`): parentheses and assignments have the type of what is in
them, a call has a type if what is called is a function, and a member has one if the object is of a
type with such a member. They do where an expression is answered in its turn. But an answer is noted
once and for all, also where it has come too early: while a call is being looked at, parentheses
around it have no type, and this is noted although the call itself is given a type later.

What holds in general is that an answer fits those to the parts *at the time when it is given*
(`StreamLint.SyntaxTree.fits_of_model?`).
-/

namespace StreamLint

/-! ### What types stand for in a table -/

namespace TypeTable

/-- The type that a type stands for after at most `steps` steps. -/
def shapeWithin (table : TypeTable) : Nat → TypeId → TypeId
  | 0, type => type
  | steps + 1, type =>
    match table.standsFor? type with
    | some next => shapeWithin table steps next
    | none => type

/-- The type stands for one that is not unknown. -/
def IsKnown (table : TypeTable) (type : TypeId) : Prop :=
  ∃ steps entry, table.get? (table.shapeWithin steps type) = some entry ∧
    table.standsFor? (table.shapeWithin steps type) = none ∧ entry ≠ .unknown

variable {table : TypeTable} {type : TypeId}

theorem shapeWithin_eq_self (h : table.standsFor? type = some type) (steps : Nat) :
    table.shapeWithin steps type = type := by
  induction steps with
  | zero => rfl
  | succ steps ih => simp only [shapeWithin, h, ih]

/-- At the end of the way, more steps lead no further. -/
theorem shapeWithin_succ_eq {steps : Nat}
    (h : table.standsFor? (table.shapeWithin steps type) = none) :
    table.shapeWithin (steps + 1) type = table.shapeWithin steps type := by
  induction steps generalizing type with
  | zero =>
    have hnone : table.standsFor? type = none := h
    simp only [shapeWithin, hnone]
  | succ steps ih =>
    unfold shapeWithin at h ⊢
    split
    next next hnext =>
      rw [hnext] at h
      exact ih h
    next => rfl

end TypeTable

/-- A type with a member of its own does not stand for another one. -/
theorem TypeTable.standsFor?_eq_none_of_hasOwnMember {table : TypeTable} {type : TypeId}
    {name : String} (h : table.hasOwnMember type name = true) : table.standsFor? type = none := by
  obtain ⟨entry, hentry, hown⟩ := (Option.any_eq_true _ _).mp h
  unfold standsFor?
  rw [hentry]
  cases entry with
  | declared | object => rfl
  | _ => cases hown

/-- Where nothing is deferred, what a type stands for is found in the table. -/
theorem Draft.settledShape?_eq_shapeWithin {draft : Draft} (h : draft.deferred.isEmpty = true)
    (steps : Nat) (type : TypeId) :
    draft.settledShape? steps type = some (draft.table.shapeWithin steps type) := by
  induction steps generalizing type with
  | zero => rfl
  | succ steps ih =>
    rcases hnext : draft.table.standsFor? type with _ | next <;>
      simp only [settledShape?, TypeTable.shapeWithin, Std.TreeMap.getElem?_of_isEmpty h, hnext]
    split
    next heq =>
      obtain rfl := eq_of_beq heq
      rw [TypeTable.shapeWithin_eq_self hnext]
    next => exact ih next

/-! ### Types that fit together -/

namespace Bindings

/-- **Parentheses and assignments** have the type of their part, if that is known. -/
def FollowsPart (bindings : Bindings) (tree : SyntaxTree) (node : NodeId) : Prop :=
  ∀ part type, (tree.construct? node = some (.parenthesizedExpression part) ∨
      ∃ left, tree.construct? node = some (.assignmentExpression left part)) →
    bindings.nodeTypes[part]? = some type → bindings.table.IsKnown type →
      bindings.nodeTypes[node]? = some type

/-- **A call** has a type, if that of what is called stands for a function that returns something
known. -/
def FollowsCallee (bindings : Bindings) (tree : SyntaxTree) (limits : Limits) (node : NodeId) :
    Prop :=
  ∀ callee arguments type result, tree.construct? node = some (.callExpression callee arguments) →
    bindings.nodeTypes[callee]? = some type →
    bindings.table.get? (bindings.table.shapeWithin limits.resolutionDepth type) =
      some (.function result) →
    bindings.table.get? result ≠ some .unknown → (bindings.nodeTypes[node]?).isSome = true

/-- **A member** has a type, if that of the object stands for one with such a member of its own. -/
def FollowsObject (bindings : Bindings) (tree : SyntaxTree) (limits : Limits) (node : NodeId) :
    Prop :=
  ∀ object property name type, tree.construct? node = some (.memberExpression object property) →
    tree.nameAt? property = some name → bindings.nodeTypes[object]? = some type →
    bindings.table.hasOwnMember (bindings.table.shapeWithin limits.resolutionDepth type) name =
      true → (bindings.nodeTypes[node]?).isSome = true

/-- **The types of the expressions fit together.** -/
structure IsCompositional (bindings : Bindings) (tree : SyntaxTree) (limits : Limits) : Prop where
  /-- Parentheses and assignments. -/
  part : ∀ node, tree.IsReached node → bindings.FollowsPart tree node
  /-- Calls. -/
  callee : ∀ node, tree.IsReached node → bindings.FollowsCallee tree limits node
  /-- Members. -/
  object : ∀ node, tree.IsReached node → bindings.FollowsObject tree limits node

end Bindings

namespace Background.TypedFrom

variable {background : Background} {draft : Draft} {node : NodeId} {type? : Option TypeId}

/-- A known type is found by its answer. -/
theorem inferred_eq_some {type : TypeId} (h : draft.bindings.nodeTypes[node]? = some type) :
    draft.inferred[node]? = some (some type) := by
  rw [draft.getElem?_nodeTypes] at h
  rcases hanswer : draft.inferred[node]? with _ | answer
  · simp [hanswer] at h
  · simpa [hanswer] using h

/-- In a finished draft, what a type leads to is found in the table. -/
theorem eq_shapeWithin (hdeferred : draft.deferred.isEmpty = true) {type shape : TypeId}
    (hleads : background.LeadsTo draft type shape)
    (hend : draft.table.standsFor? (draft.table.shapeWithin background.maxDepth type) = none) :
    shape = draft.table.shapeWithin background.maxDepth type := by
  have hshape := hleads.1
  rw [Draft.settledShape?_eq_shapeWithin hdeferred, TypeTable.shapeWithin_succ_eq hend] at hshape
  exact (Option.some.inj hshape).symm

/-- The type of parentheses and of an assignment. -/
theorem followsPart (h : background.TypedFrom draft draft node type?)
    (hanswer : draft.inferred[node]? = some type?) :
    draft.bindings.FollowsPart background.tree node := by
  intro part type hconstruct hpart _
  rw [draft.getElem?_nodeTypes, hanswer, Option.getD_some]
  exact h.same part type hconstruct (inferred_eq_some hpart)

/-- The type of a call. -/
theorem followsCallee (h : background.TypedFrom draft draft node type?)
    (hanswer : draft.inferred[node]? = some type?) (hdeferred : draft.deferred.isEmpty = true)
    {limits : Limits} (hlimits : background.maxDepth = limits.resolutionDepth) :
    draft.bindings.FollowsCallee background.tree limits node := by
  intro callee arguments type result hconstruct hcallee hat _
  have hentry : draft.table.get? (draft.table.shapeWithin background.maxDepth type) =
      some (.function result) := hlimits ▸ hat
  obtain ⟨shape, hleads, hresult⟩ :=
    h.call callee arguments type hconstruct (inferred_eq_some hcallee)
  obtain rfl := eq_shapeWithin hdeferred hleads (by simp only [TypeTable.standsFor?]; rw [hentry])
  rw [draft.getElem?_nodeTypes, hanswer, hresult result hentry]
  rfl

/-- The type of a member. -/
theorem followsObject (h : background.TypedFrom draft draft node type?)
    (hanswer : draft.inferred[node]? = some type?) (hdeferred : draft.deferred.isEmpty = true)
    {limits : Limits} (hlimits : background.maxDepth = limits.resolutionDepth)
    (hdepth : 0 < background.maxDepth) :
    draft.bindings.FollowsObject background.tree limits node := by
  intro object property name type hconstruct hname hobject hown
  rw [← hlimits] at hown
  obtain ⟨shape, hleads, hfound⟩ :=
    h.member hdepth object property name type hconstruct hname (inferred_eq_some hobject)
  obtain rfl := eq_shapeWithin hdeferred hleads (TypeTable.standsFor?_eq_none_of_hasOwnMember hown)
  rw [draft.getElem?_nodeTypes, hanswer, Option.getD_some]
  exact hfound hown

end Background.TypedFrom

/-! ### Models -/

namespace SyntaxTree

/-- **The type of an expression fits those of its parts as they were when it was answered.** The
model of a document is made by a course of drafts, and each expression is answered once: up to some
draft it has no answer, from then on it has that of the model, and this fits the answers to the
parts in that draft. If nobody has asked for the expression before its turn, then it fits those of
the model. -/
theorem fits_of_model? (document : Concrete.Document) {prelude : Prelude}
    (hprelude : prelude.IsBuilt) (limits : Limits) {bindings : Bindings}
    (h : (ofDocument document).model? prelude limits = some bindings) :
    ∃ chronicle, ((ofDocument document).background prelude limits).chronicle? = some chronicle ∧
      chronicle.draft.bindings = bindings ∧
      ∀ node, (ofDocument document).IsReached node →
        ((ofDocument document).background prelude limits).isExpression node = true →
        (∃ before last after, chronicle.drafts = before ++ last :: after ∧ after ≠ [] ∧
          (∀ draft ∈ before ++ [last], draft.inferred[node]? = none) ∧
          (∀ draft ∈ after, draft.inferred[node]? = some bindings.nodeTypes[node]?) ∧
          ((ofDocument document).background prelude limits).Fits
            (last.inProgress = [node] ∧ 0 < limits.resolutionDepth) last node
            bindings.nodeTypes[node]?) ∧
        (((ofDocument document).background prelude limits).AnswersInTurn node →
          bindings.FollowsPart (ofDocument document) node ∧
          bindings.FollowsCallee (ofDocument document) limits node ∧
          (0 < limits.resolutionDepth →
            bindings.FollowsObject (ofDocument document) limits node)) := by
  obtain ⟨draft, hdraft, hbindings⟩ := Option.bind_eq_some_iff.mp h
  obtain rfl := Option.some.inj hbindings
  let background := (ofDocument document).background prelude limits
  have hlinked : background.tree.Linked := linked_ofDocument document
  obtain ⟨rest, hchronicle, hpasses, hanswered, hdeferred⟩ :=
    background.exists_chronicle hprelude.isClosed hlinked hdraft
  refine ⟨_, hchronicle, rfl, fun node hreached hexpression => ⟨?_, fun hturn => ?_⟩⟩
  · obtain ⟨type?, hanswer⟩ := Option.ne_none_iff_exists'.mp (hanswered node hreached hexpression)
    have htype : draft.bindings.nodeTypes[node]? = type? := by
      rw [draft.getElem?_nodeTypes, hanswer, Option.getD_some]
    have hbound := background.isBound_bound hprelude.isClosed
    obtain ⟨before, last, after, hdrafts, hbefore, hafter, hfits⟩ :=
      hpasses.course.exists_answer (hbound.ground.inferred node) hanswer
    rw [htype]
    refine ⟨background.start :: before, last, after, ?_, ?_, ?_, hafter, hfits⟩
    · simp [Chronicle.drafts, hdrafts]
    · -- the last draft is not among those without an answer
      rintro rfl
      have hmem : draft ∈ before ++ [last] := hdrafts ▸ by simp
      cases (hbefore draft hmem).symm.trans hanswer
    · exact List.forall_mem_cons.mpr ⟨rfl, hbefore⟩
  · obtain ⟨type?, hanswer, htyped⟩ :=
      Background.typedFrom_of_finish hprelude.isClosed hlinked hdraft hturn
    exact ⟨htyped.followsPart hanswer, htyped.followsCallee hanswer hdeferred rfl,
      fun hdepth => htyped.followsObject hanswer hdeferred rfl hdepth⟩

end SyntaxTree

/-- The document `function f() { return (f()); return 1; }`. -/
def returnsItself : Concrete.Document where
  text := "function f() \x7b return (f()); return 1; \x7d"
  dialect := .typeScript
  root :=
    .named "program" 0 40 none
      [.named "function_declaration" 0 40 none
        [.named "identifier" 9 10 (some "name") [],
          .named "formal_parameters" 10 12 (some "parameters") [],
          .named "statement_block" 13 40 (some "body")
            [.named "return_statement" 15 28 none
              [.named "parenthesized_expression" 22 27 none
                [.named "call_expression" 23 26 none
                  [.named "identifier" 23 24 (some "function") [],
                    .named "arguments" 24 26 (some "arguments") []]]],
              .named "return_statement" 29 38 none
                [.named "number" 36 37 none []]]]]

/-- The call in parentheses comes to return a number, and the parentheses have no type. -/
theorem exists_model?_returnsItself : ∃ bindings,
    (SyntaxTree.ofDocument returnsItself).model? .empty {} = some bindings ∧
      bindings.nodeTypes[5]? = none ∧ bindings.nodeTypes[6]? = some 11 ∧
        bindings.table.get? (bindings.table.shapeWithin 1 11) = some (.primitive .number) ∧
          bindings.table.standsFor? (bindings.table.shapeWithin 1 11) = none := by
  have hends : ((SyntaxTree.ofDocument returnsItself).guardedModel .empty {}).toOption.any
      (fun bindings => decide (bindings.nodeTypes[5]? = none ∧ bindings.nodeTypes[6]? = some 11 ∧
        bindings.table.get? (bindings.table.shapeWithin 1 11) = some (.primitive .number) ∧
          bindings.table.standsFor? (bindings.table.shapeWithin 1 11) = none)) = true := by
    decide +kernel
  obtain ⟨bindings, hbindings, htypes⟩ :=
    (SyntaxTree.ofDocument returnsItself).exists_model?_of_guarded Prelude.isClosed_empty hends
  exact ⟨bindings, hbindings, of_decide_eq_true htypes⟩

/-- Its parentheses hold the call of `f`. -/
theorem construct?_returnsItself :
    (SyntaxTree.ofDocument returnsItself).construct? 5 = some (.parenthesizedExpression 6) := by
  have hnode : ((SyntaxTree.ofDocument returnsItself).construct? 5).map
      (fun construct => (construct.kind, construct.children)) =
        some (.parenthesizedExpression, [6]) := by
    decide +kernel
  obtain ⟨construct, hconstruct, hshape⟩ := Option.map_eq_some_iff.mp hnode
  obtain ⟨hkind, hchildren⟩ := Prod.mk.inj hshape
  cases construct with
  | parenthesizedExpression part =>
    obtain rfl : part = 6 := (List.cons.inj hchildren).1
    exact hconstruct
  | _ => cases hkind

/-- Its types do not fit together. -/
theorem not_isCompositional_returnsItself : ∃ bindings,
    (SyntaxTree.ofDocument returnsItself).model? .empty {} = some bindings ∧
      ¬bindings.IsCompositional (SyntaxTree.ofDocument returnsItself) {} := by
  obtain ⟨bindings, hbindings, hnone, hcall, hnumber, hend⟩ := exists_model?_returnsItself
  refine ⟨bindings, hbindings, fun hall => ?_⟩
  have hreached : (SyntaxTree.ofDocument returnsItself).IsReached 5 :=
    SyntaxTree.IsReached.of_mem_preorder (by decide +kernel)
  have htype := hall.part 5 hreached 6 11 (.inl construct?_returnsItself) hcall
    ⟨1, _, hnumber, hend, by simp⟩
  cases hnone.symm.trans htype

/-- The call of `f` is answered in its turn, after the name `f` and before the parentheses, which it
asks for. -/
theorem answersInTurn_returnsItself :
    ((SyntaxTree.ofDocument returnsItself).background .empty {}).AnswersInTurn 6 :=
  .of_mem_turns Prelude.isClosed_empty (by decide +kernel)

/-- There the type of the call follows that of what is called, whereas the answer to the parentheses
only fits the answers that there were when it was given. -/
theorem fits_of_model?_returnsItself :
    let tree := SyntaxTree.ofDocument returnsItself
    let background := tree.background .empty {}
    ∃ bindings chronicle, tree.model? .empty {} = some bindings ∧
      background.chronicle? = some chronicle ∧ chronicle.draft.bindings = bindings ∧
      (background.AnswersInTurn 6 ∧ bindings.FollowsCallee tree {} 6) ∧
      ∃ before last after, chronicle.drafts = before ++ last :: after ∧
        last.inferred[5]? = none ∧ (∀ draft ∈ after, draft.inferred[5]? = some none) ∧
        background.Fits (last.inProgress = [5] ∧ 0 < background.maxDepth) last 5 none := by
  intro tree background
  obtain ⟨bindings, hbindings, hnone, -⟩ := exists_model?_returnsItself
  obtain ⟨chronicle, hchronicle, hend, hfits⟩ :=
    SyntaxTree.fits_of_model? returnsItself (.inl rfl) {} hbindings
  have hcall :=
    hfits 6 (SyntaxTree.IsReached.of_mem_preorder (by decide +kernel)) (by decide +kernel)
  have hparentheses :=
    hfits 5 (SyntaxTree.IsReached.of_mem_preorder (by decide +kernel)) (by decide +kernel)
  obtain ⟨before, last, after, hdrafts, -, hbefore, hafter, hfit⟩ := hparentheses.1
  rw [hnone] at hafter hfit
  exact ⟨bindings, chronicle, hbindings, hchronicle, hend,
    ⟨answersInTurn_returnsItself, (hcall.2 answersInTurn_returnsItself).2.1⟩,
    before, last, after, hdrafts, hbefore last (by simp), hafter, hfit⟩

end StreamLint
