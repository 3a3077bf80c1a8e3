import StreamLint.Proofs.Model.Compositional
import StreamLint.Proofs.Oracle.Overlooked
import StreamLint.Proofs.Syntax.Comparison
/-!
# Non-null assertions and streams

The type of `x!` is what is left of the type of `x` without the absent values. One would like it to
be taken for a stream whenever that of `x` is, because what is left out is no stream.

The types are made in one place and looked through in another one, and the two disagree about what a
generic alias with arguments stands for. The oracle goes into the alias with the arguments in mind.
What is left of the union is put together of its members as they are written, so that in
`type Maybe<T> = T | undefined` it is the parameter `T`, whatever the argument is. What is left shows
a stream if its members show one by themselves (`StreamLint.TypeTable.ShowsMembers`); for aliases
without parameters, types that were found out and bounds they do
(`StreamLint.TypeTable.showsMembers_of_plain`).
-/

namespace StreamLint

/-! ### What is left shows the stream -/

/-- **What is left of a type could be observable if the type could.** -/
theorem TypeTable.IsPresentPart.mayBeObservable {table : TypeTable} {type seen : TypeId}
    (h : table.IsPresentPart type seen) (hshows : table.ShowsMembers type) {maxDepth : Nat}
    (hstream : table.mayBeObservable maxDepth type = true) :
    table.mayBeObservable maxDepth seen = true := by
  cases h with
  | same => exact hstream
  | @joined union members kept join? hstands hunion hkept hpresent hjoin =>
    obtain ⟨member, hmember, hnot, steps, hlt, goal, hwalk, hgoal⟩ :=
      exists_member_of_mayBeObservable hshows hstands hunion hstream
    have hmem : member ∈ kept := hpresent member hmember hnot
    refine mayBeObservable_eq_true_iff.mpr ?_
    cases join? with
    | none => rw [hjoin.eq_nil] at hmem; cases hmem
    | some join =>
      rcases hjoin.cases_some with ⟨hall, -⟩ | ⟨others, hentry, hothers⟩
      · -- there is one member only
        obtain rfl := hall member hmem
        exact ⟨steps, by omega, goal, hwalk, hgoal⟩
      · have hafter : ([], member) ∈ table.placesAfter ([], join) := by
          simpa [placesAfter, hentry] using (hothers member).mpr hmem
        exact ⟨steps + 1, by omega, goal, .next hafter hwalk, hgoal⟩

/-- The answer about a node that has a type. -/
theorem Oracle.freshAnswer_observable {model : FileModel} {maxDepth : Nat} {node : NodeId}
    {type : TypeId} (h : model.typeOf? node = some type) :
    freshAnswer model maxDepth (.observable node) = model.types.mayBeObservable maxDepth type := by
  simp [freshAnswer_eq, FileModel.answer, FileModel.typeAt?, h]

namespace Background

open Draft

variable {background : Background} {old draft : Draft} {through : List Draft}

/-! ### Types of non-null assertions -/

/-- What is known in a draft of a course stays known. -/
theorem Course.keepsKnown_of_mem (h : background.Course old through draft) {now : Draft}
    (hnow : now ∈ through ++ [draft]) : now.table.KeepsKnown draft.table := fun _ _ hentry hknown =>
  h.keeps_of_mem (fun hmove hat => hmove.get?_eq_some hat hknown) hnow hentry

/-- **A non-null assertion with a type** has the present part of the type of its part. -/
theorem Course.isPresentPart (h : background.Course old through draft) {node inner : NodeId}
    (hold : old.inferred[node]? = none)
    (hconstruct : background.tree.construct? node = some (.nonNullExpression inner))
    {type seen : TypeId} (hinner : draft.inferred[inner]? = some (some type))
    (hseen : draft.inferred[node]? = some (some seen)) :
    draft.table.IsPresentPart type seen := by
  obtain ⟨before, last, after, hdrafts, -, -, -, htyping⟩ := h.exists_typed_answer hold hseen
  obtain ⟨begun, fuel, budget, hsound, hbegun, hrun⟩ := htyping
  have hlast : last ∈ through ++ [draft] := hdrafts ▸ by simp
  have hbusy : begun.inProgress ≠ [] := List.ne_nil_of_mem hbegun
  have htold := questionsTold_infer background fuel
  have hreached : background.tree.IsReached inner :=
    (hsound.reached node hbegun).part hconstruct (List.mem_singleton_self inner)
  simp only [typeOfExpression, hconstruct] at hrun
  have hpart := htold.ofPart hbusy budget hreached fun now hnow type =>
    show background.Tracks _ _ now fun value? new =>
        ∃ part, value? = some part ∧ new.table.IsPresentPart type part from
      (htold.presentPart hnow budget type).bind fun part _ _ hpart => Tracks.pure ⟨part, rfl, hpart⟩
  obtain ⟨-, -, -, ⟨-, hnone⟩ | ⟨other, hother, part, hvalue, hpart⟩⟩ := hpart hsound _ _ hrun
  · cases hnone
  · obtain rfl := Option.some.inj hvalue
    have hlater := h.keeps_of_mem (fun hmove => hmove.inferred_eq_some) hlast hother
    obtain rfl : other = type := Option.some.inj (Option.some.inj (hlater.symm.trans hinner))
    exact hpart.mono (h.keepsKnown_of_mem hlast)

/-- **A non-null assertion that is answered in its turn** has a type if its part has one. -/
theorem isSome_of_nonNull (hprelude : background.prelude.IsClosed)
    (hlinked : background.tree.Linked)
    (h : background.finish background.resultOfCall = some draft) {node inner : NodeId}
    (hconstruct : background.tree.construct? node = some (.nonNullExpression inner))
    (hturn : background.AnswersInTurn node) {type : TypeId}
    (hinner : draft.inferred[inner]? = some (some type)) :
    ∃ seen, draft.inferred[node]? = some (some seen) := by
  obtain ⟨now, new, hturn⟩ := exists_turn_of_finish hprelude hlinked h hturn
  have hpart : now.inferred[inner]? = some (some type) :=
    hturn.parts _ hconstruct rfl inner (List.mem_singleton_self inner) type hinner
  obtain ⟨answer, hquestion⟩ := hturn.asked
  obtain ⟨_, hrest⟩ := hturn.rest
  have hanswer : Yields (background.question background.resultOfCall background.budget node) now
      fun _ new => ∃ seen, new.inferred[node]? = some (some seen) := by
    refine yields_question hturn.idle (absurd hturn.unanswered) fun _ type? typed hrun => ?_
    simp only [typeOfExpression, hconstruct] at hrun
    rw [run_ofPart_eq (by exact hpart), StateT.run_bind] at hrun
    obtain ⟨⟨seen, last⟩, -, hvalue⟩ := Option.bind_eq_some_iff.mp hrun
    obtain ⟨rfl, -⟩ := Prod.mk.inj (Option.some.inj hvalue)
    exact ⟨seen, by simp⟩
  obtain ⟨seen, hseen⟩ := hanswer answer new hquestion
  exact ⟨seen, hrest.course.inferred_eq_some hseen⟩

end Background

namespace SyntaxTree

/-- **A non-null assertion hides no stream** where the members of the union that the type of its part
stands for show a stream by themselves. It has a type, if it is answered in its turn, and that is
what is left of the type of its part. -/
theorem present_of_model? (document : Concrete.Document) {prelude : Prelude}
    (hprelude : prelude.IsBuilt) (limits : Limits) {bindings : Bindings}
    (h : (ofDocument document).model? prelude limits = some bindings) {node inner : NodeId}
    (hconstruct : (ofDocument document).construct? node = some (.nonNullExpression inner))
    {type : TypeId} (hinner : bindings.nodeTypes[inner]? = some type) :
    (((ofDocument document).background prelude limits).AnswersInTurn node →
        (bindings.nodeTypes[node]?).isSome = true) ∧
      ∀ seen, bindings.nodeTypes[node]? = some seen →
        bindings.table.IsPresentPart type seen ∧
          (bindings.table.ShowsMembers type → ∀ maxDepth,
            Oracle.freshAnswer bindings.model maxDepth (.observable inner) = true →
              Oracle.freshAnswer bindings.model maxDepth (.observable node) = true) := by
  obtain ⟨draft, hdraft, hbindings⟩ := Option.bind_eq_some_iff.mp h
  obtain rfl := Option.some.inj hbindings
  let background := (ofDocument document).background prelude limits
  have hlinked : background.tree.Linked := linked_ofDocument document
  have hanswer := Background.TypedFrom.inferred_eq_some hinner
  refine ⟨fun hturn => ?_, fun seen hseen => ?_⟩
  · obtain ⟨seen, hseen⟩ := Background.isSome_of_nonNull
      (show background.prelude.IsClosed from hprelude.isClosed) hlinked hdraft hconstruct hturn
      hanswer
    rw [draft.getElem?_nodeTypes, hseen]
    rfl
  · obtain ⟨rest, -, hpasses, -⟩ := background.exists_chronicle hprelude.isClosed hlinked hdraft
    have hbound := background.isBound_bound hprelude.isClosed
    have hpart := hpasses.course.isPresentPart (hbound.ground.inferred node) hconstruct hanswer
      (Background.TypedFrom.inferred_eq_some hseen)
    refine ⟨hpart, fun hshows maxDepth hstream => ?_⟩
    rw [Oracle.freshAnswer_observable hinner] at hstream
    rw [Oracle.freshAnswer_observable hseen]
    exact hpart.mayBeObservable hshows hstream

end SyntaxTree

/-- The document `type Maybe<T> = Observable<T> | undefined; declare const x: Maybe<string>; x!;`. -/
def maybeStream : Concrete.Document where
  text := "type Maybe<T> = Observable<T> | undefined; declare const x: Maybe<string>; x!;"
  dialect := .typeScript
  root :=
    .named "program" 0 78 none
      [.named "type_alias_declaration" 0 42 none
        [.named "type_identifier" 5 10 (some "name") [],
          .named "type_parameters" 10 13 (some "type_parameters")
            [.named "type_parameter" 11 12 none [.named "type_identifier" 11 12 (some "name") []]],
          .named "union_type" 16 41 (some "value")
            [.named "generic_type" 16 29 none
              [.named "type_identifier" 16 26 (some "name") [],
                .named "type_arguments" 26 29 (some "type_arguments")
                  [.named "type_identifier" 27 28 none []]],
              .named "literal_type" 32 41 none [.named "undefined" 32 41 none []]]],
        .named "ambient_declaration" 43 74 none
          [.named "lexical_declaration" 51 74 none
            [.named "variable_declarator" 57 73 none
              [.named "identifier" 57 58 (some "name") [],
                .named "type_annotation" 58 73 (some "type")
                  [.named "generic_type" 60 73 none
                    [.named "type_identifier" 60 65 (some "name") [],
                      .named "type_arguments" 65 73 (some "type_arguments")
                        [.named "predefined_type" 66 72 none []]]]]]],
        .named "expression_statement" 75 78 none
          [.named "non_null_expression" 75 77 none [.named "identifier" 75 76 none []]]]

/-- The assertion is node 8, and `x` in it is node 9. -/
theorem construct?_maybeStream : (SyntaxTree.ofDocument maybeStream).construct? 8 =
    some (.nonNullExpression 9) := by
  decide +kernel

/-- There `x!` is taken for a stream because `x` is. -/
theorem present_of_model?_maybeStream :
    let tree := SyntaxTree.ofDocument maybeStream
    (tree.background .empty {}).AnswersInTurn 8 ∧
      ∃ bindings, tree.model? .empty {} = some bindings ∧ bindings.nodeTypes[9]? = some 15 ∧
        (bindings.nodeTypes[8]?).isSome = true ∧ bindings.table.ShowsMembers 15 ∧
        Oracle.freshAnswer bindings.model 32 (.observable 9) = true ∧
        Oracle.freshAnswer bindings.model 32 (.observable 8) = true := by
  intro tree
  have hturn : (tree.background .empty {}).AnswersInTurn 8 :=
    .of_mem_turns Prelude.isClosed_empty (by decide +kernel)
  have hends : (tree.guardedModel .empty {}).toOption.any (fun bindings =>
      decide (bindings.nodeTypes[9]? = some 15 ∧
        Oracle.freshAnswer bindings.model 32 (.observable 9) = true ∧
        bindings.table.get? 12 = some (.alias "Maybe" [11] 14) ∧
        bindings.table.get? 13 = some (.foreign "Observable" [11]) ∧
        bindings.table.get? 14 = some (.union [13, .undefined]) ∧
        bindings.table.get? 15 = some (.reference 12 [.string]) ∧
        bindings.table.isNullish .undefined = true)) = true := by
    decide +kernel
  obtain ⟨bindings, hbindings, hfacts⟩ :=
    tree.exists_model?_of_guarded Prelude.isClosed_empty hends
  obtain ⟨hinner, hstream, halias, hforeign, hunion, hreference, hnullish⟩ :=
    of_decide_eq_true hfacts
  have hshows : bindings.table.ShowsMembers 15 := by
    have hnext : bindings.table.standsFor? 15 = some 14 := by
      simp only [TypeTable.standsFor?, hreference, halias]
    have hgoes : ([(11, .string)], 14) ∈ bindings.table.placesAfter ([], 15) := by
      simp [TypeTable.placesAfter, hreference, halias, Instantiation.ofReference,
        Instantiation.argument?]
    refine TypeTable.showsMembers_of_standsFor? hnext hunion hgoes ?_
    -- `Observable<T>` is a stream, whatever `T` stands for
    have hplain : bindings.table.Overlooks [(11, .string)] 13 := by
      intro part hcarried
      rcases hcarried.cases_head with rfl | ⟨next, hnext, -⟩
      · exact .inl (by simp [TypeTable.isStreamAt, hforeign, isStreamName, observableNames])
      · simp [TypeTable.carriedTo, hforeign] at hnext
    intro member hmember hpresent
    rcases List.mem_cons.mp hmember with rfl | hmember
    · exact hplain
    · obtain rfl := List.mem_singleton.mp hmember
      exact absurd (hnullish.symm.trans hpresent) (by simp)
  obtain ⟨htyped, hnode⟩ :=
    SyntaxTree.present_of_model? maybeStream (.inl rfl) {} hbindings construct?_maybeStream hinner
  obtain ⟨seen, hseen⟩ := Option.isSome_iff_exists.mp (htyped hturn)
  exact ⟨hturn, bindings, hbindings, hinner, htyped hturn, hshows, hstream,
    (hnode seen hseen).2 hshows 32 hstream⟩

/-- The document `type Maybe<T> = T | undefined; declare const x: Maybe<Observable<number>>; x!;`. -/
def maybeGiven : Concrete.Document where
  text := "type Maybe<T> = T | undefined; declare const x: Maybe<Observable<number>>; x!;"
  dialect := .typeScript
  root :=
    .named "program" 0 78 none
      [.named "type_alias_declaration" 0 30 none
        [.named "type_identifier" 5 10 (some "name") [],
          .named "type_parameters" 10 13 (some "type_parameters")
            [.named "type_parameter" 11 12 none [.named "type_identifier" 11 12 (some "name") []]],
          .named "union_type" 16 29 (some "value")
            [.named "type_identifier" 16 17 none [],
              .named "literal_type" 20 29 none [.named "undefined" 20 29 none []]]],
        .named "ambient_declaration" 31 74 none
          [.named "lexical_declaration" 39 74 none
            [.named "variable_declarator" 45 73 none
              [.named "identifier" 45 46 (some "name") [],
                .named "type_annotation" 46 73 (some "type")
                  [.named "generic_type" 48 73 none
                    [.named "type_identifier" 48 53 (some "name") [],
                      .named "type_arguments" 53 73 (some "type_arguments")
                        [.named "generic_type" 54 72 none
                          [.named "type_identifier" 54 64 (some "name") [],
                            .named "type_arguments" 64 72 (some "type_arguments")
                              [.named "predefined_type" 65 71 none []]]]]]]]],
        .named "expression_statement" 75 78 none
          [.named "non_null_expression" 75 77 none [.named "identifier" 75 76 none []]]]

/-- **What is given for a parameter is lost**: `x` is a stream there, and `x!` is not. -/
theorem not_present_maybeGiven :
    let tree := SyntaxTree.ofDocument maybeGiven
    (tree.kind? 8 = some .nonNullExpression ∧ tree.field? 8 .expression = some 9) ∧
      ∃ bindings, tree.model? .empty {} = some bindings ∧
        (bindings.nodeTypes[9]?).isSome = true ∧
        Oracle.freshAnswer bindings.model 32 (.observable 9) = true ∧
        Oracle.freshAnswer bindings.model 32 (.observable 8) = false := by
  intro tree
  have hends : (tree.guardedModel .empty {}).toOption.any (fun bindings =>
      decide ((bindings.nodeTypes[9]?).isSome = true ∧
        Oracle.freshAnswer bindings.model 32 (.observable 9) = true ∧
        Oracle.freshAnswer bindings.model 32 (.observable 8) = false)) = true := by
    decide +kernel
  obtain ⟨bindings, hbindings, hanswers⟩ :=
    tree.exists_model?_of_guarded Prelude.isClosed_empty hends
  exact ⟨by decide +kernel, bindings, hbindings, of_decide_eq_true hanswers⟩

end StreamLint
