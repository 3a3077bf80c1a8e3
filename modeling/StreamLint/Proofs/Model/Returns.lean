import StreamLint.Proofs.Model.Compositional
import StreamLint.Proofs.Syntax.Returns
import StreamLint.Proofs.Syntax.Comparison
/-!
# What functions return

A function without a written result is to have the type of what its own `return` statements give. It
has the type of what is found in its body (`StreamLint.SyntaxTree.returnedValues_eq`), and where
nothing is found, nothing: from the first draft in which the body is deferred it goes on waiting, and
when it is looked at, its place becomes an alias of `void` (`StreamLint.Background.FindsVoid`).

So `const f = () => { class C { m() { return 1; } } };` is a function that returns nothing. But
`function f() { const o = { m() { return 1; } }; }` is taken for one that returns a number, because
the method of the object literal does not keep to itself what it returns.
-/

namespace StreamLint

namespace Background

open Draft

variable {background : Background} {draft : Draft}

/-- **What a block without values returns is void in the end**, wherever it has been deferred. -/
theorem get?_eq_void_of_finish (hprelude : background.prelude.IsClosed)
    (hvoid : background.prelude.table.Has TypeId.void) {rest : List Draft}
    (hpasses : background.Passes background.bound rest draft)
    (hdeferred : draft.deferred.isEmpty = true) {block : NodeId}
    (hblock : background.tree.ReturnsNothing block) {now : Draft}
    (hnow : now ∈ background.start :: rest ++ [draft]) {id : TypeId}
    (hsource : now.deferred[id]? = some (.body block)) :
    draft.table.get? id = some (.alias "" [] .void) := by
  have hbound := isBound_bound hprelude
  rcases List.mem_cons.mp hnow with rfl | hnow
  · -- nothing is deferred at the start
    cases hsource
  have hsound := hpasses.course.forall_mem (fun hmove => hmove.isSound) hbound.isSound now hnow
  have hne : id ≠ .void := by
    rintro rfl
    -- the types of the prelude are settled throughout
    have hsettled := hpasses.course.forall_mem (fun hmove => hmove.isSettled)
      (hbound.closed.kept _ hvoid) now hnow
    exact absurd (hsettled.2.symm.trans hsource) (by simp)
  have hhas : now.table.Has id := TypeTable.has_of_get? (hsound.unknown id _ hsource)
  obtain ⟨-, hwaits | hfound⟩ := hpasses.void now hnow id block hblock hne hhas hsource
  · exact absurd ((Std.TreeMap.getElem?_of_isEmpty hdeferred).symm.trans hwaits) (by simp)
  · exact hfound

/-- **A function expression whose block has no values** is a function that returns nothing. -/
theorem functionVoid_of_finish (hprelude : background.prelude.IsClosed)
    (hvoid : background.prelude.table.Has TypeId.void) {rest : List Draft}
    (hpasses : background.Passes background.bound rest draft)
    (hanswered : background.IsAnswered draft) (hdeferred : draft.deferred.isEmpty = true)
    {function block : NodeId} {params : List NodeId} (hfunction : background.tree.IsReached function)
    (hconstruct : background.tree.construct? function =
      some (.functionExpression params none (some block)))
    (hblock : background.tree.ReturnsNothing block) :
    ∃ type result, draft.bindings.nodeTypes[function]? = some type ∧
      draft.table.get? type = some (.function result) ∧
      draft.table.get? result = some (.alias "" [] .void) := by
  obtain ⟨type?, hanswer⟩ := Option.ne_none_iff_exists'.mp
    (hanswered function hfunction (isExpression_eq_mayHaveType hconstruct))
  have hbound := isBound_bound hprelude
  -- when it was answered, what it returns was deferred
  obtain ⟨before, last, after, hdrafts, -, -, hfits⟩ :=
    hpasses.course.exists_answer (hbound.ground.inferred function) hanswer
  obtain ⟨type, result, rfl, hentry, hsource⟩ := hfits.function params block hconstruct
  have hlast : last ∈ rest ++ [draft] := hdrafts ▸ by simp
  refine ⟨type, result, ?_, ?_, ?_⟩
  · rw [draft.getElem?_nodeTypes, hanswer, Option.getD_some]
  · exact hpasses.course.keeps_of_mem (fun hmove hat => hmove.get?_eq_some hat (by simp)) hlast
      hentry
  · exact get?_eq_void_of_finish hprelude hvoid hpasses hdeferred hblock
      (List.mem_cons_of_mem _ hlast) hsource

end Background

namespace SyntaxTree

/-- **A body is typed from the statements that are found in it**: those that have it as the nearest
node around them which keeps returns to itself, each once and in the order of the text. These are
the statements of the function itself if and only if the two conditions agree on all statements with
a value. Where none is found, the function returns nothing in the model. -/
theorem returns_of_model? (document : Concrete.Document) {prelude : Prelude}
    (hprelude : prelude.IsBuilt) (limits : Limits) {bindings : Bindings}
    (h : (ofDocument document).model? prelude limits = some bindings) :
    let tree := ofDocument document
    ∃ chronicle, (tree.background prelude limits).chronicle? = some chronicle ∧
      chronicle.draft.bindings = bindings ∧
      ∀ function block, tree.IsReached function → tree.field? function .body = some block →
        tree.kind? block = some .blockStatement →
        tree.returnedValues block =
            (tree.preorder.filter fun node => tree.IsCollected block node).filterMap
              tree.returnedValue? ∧
          (tree.returnedValues block).Nodup ∧
          (tree.returnedValues block = tree.ownReturns function block ↔
            ∀ node, tree.IsReached node → (tree.returnedValue? node).isSome = true →
              (tree.IsCollected block node ↔ tree.IsReturnOf function block node)) ∧
          (tree.returnedValues block = [] →
            (∀ draft ∈ chronicle.drafts, ∀ id, draft.deferred[id]? = some (.body block) →
              bindings.table.get? id = some (.alias "" [] .void)) ∧
            ∀ params, tree.construct? function = some (.functionExpression params none (some block)) →
              ∃ type result, bindings.nodeTypes[function]? = some type ∧
                bindings.table.get? type = some (.function result) ∧
                bindings.table.get? result = some (.alias "" [] .void)) := by
  intro tree
  obtain ⟨draft, hdraft, hbindings⟩ := Option.bind_eq_some_iff.mp h
  obtain rfl := Option.some.inj hbindings
  let background := tree.background prelude limits
  have hlinked : background.tree.Linked := linked_ofDocument document
  obtain ⟨rest, hchronicle, hpasses, hanswered, hdeferred⟩ :=
    background.exists_chronicle hprelude.isClosed hlinked hdraft
  have hvoid : background.prelude.table.Has TypeId.void := by
    have hplace : TypeTable.initial.Has TypeId.void := (by decide : TypeId.void < 11)
    exact hplace.mono hprelude.continues.size_le
  refine ⟨_, hchronicle, rfl, fun function block hfunction hbody hblock => ?_⟩
  have hreached : tree.IsReached block := by
    obtain ⟨construct, hconstruct, hfield⟩ := Option.bind_eq_some_iff.mp hbody
    exact hfunction.part hconstruct (Construct.mem_children_of_field? hfield)
  have heq := returnedValues_eq hlinked hreached hblock
  refine ⟨heq, ?_, returnedValues_eq_ownReturns_iff hlinked hreached hblock, fun hnone => ?_⟩
  · exact heq ▸ nodup_filterMap_returnedValue? hlinked (hlinked.nodup_preorder.filter _)
  · have hfound : ∀ now ∈ background.start :: rest ++ [draft], ∀ id,
        now.deferred[id]? = some (.body block) →
          draft.table.get? id = some (.alias "" [] .void) := fun now hnow id =>
      Background.get?_eq_void_of_finish hprelude.isClosed hvoid hpasses hdeferred ⟨hblock, hnone⟩
        hnow
    exact ⟨hfound, fun params hconstruct => Background.functionVoid_of_finish hprelude.isClosed hvoid
      hpasses hanswered hdeferred hfunction hconstruct ⟨hblock, hnone⟩⟩

end SyntaxTree

/-- The document `const f = () => { class C { m() { return 1; } } };`. -/
def classInFunction : Concrete.Document where
  text := "const f = () => \x7b class C \x7b m() \x7b return 1; \x7d \x7d \x7d;"
  dialect := .typeScript
  root :=
    .named "program" 0 50 none
      [.named "lexical_declaration" 0 50 none
        [.named "variable_declarator" 6 49 none
          [.named "identifier" 6 7 (some "name") [],
            .named "arrow_function" 10 49 (some "value")
              [.named "formal_parameters" 10 12 (some "parameters") [],
                .named "statement_block" 16 49 (some "body")
                  [.named "class_declaration" 18 47 none
                    [.named "type_identifier" 24 25 (some "name") [],
                      .named "class_body" 26 47 (some "body")
                        [.named "method_definition" 28 45 none
                          [.named "property_identifier" 28 29 (some "name") [],
                            .named "formal_parameters" 29 31 (some "parameters") [],
                            .named "statement_block" 32 45 (some "body")
                              [.named "return_statement" 34 43 none
                                [.named "number" 41 42 none []]]]]]]]]]]

/-- It has a model. -/
theorem exists_model?_classInFunction : ∃ bindings,
    (SyntaxTree.ofDocument classInFunction).model? .empty {} = some bindings := by
  have hends : ((SyntaxTree.ofDocument classInFunction).guardedModel .empty {}).toOption.any
      (fun _ => true) = true := by
    decide +kernel
  obtain ⟨bindings, hbindings, -⟩ :=
    (SyntaxTree.ofDocument classInFunction).exists_model?_of_guarded Prelude.isClosed_empty hends
  exact ⟨bindings, hbindings⟩

/-- The arrow function is node 4. -/
theorem construct?_classInFunction : (SyntaxTree.ofDocument classInFunction).construct? 4 =
    some (.functionExpression [] none (some 5)) := by
  decide +kernel

/-- There the arrow function returns nothing, and the method of the class returns its value. -/
theorem returns_of_model?_classInFunction :
    let tree := SyntaxTree.ofDocument classInFunction
    ∃ bindings, tree.model? .empty {} = some bindings ∧
      (tree.returnedValues 5 = [] ∧ tree.ownReturns 4 5 = [] ∧
        ∃ type result, bindings.nodeTypes[4]? = some type ∧
          bindings.table.get? type = some (.function result) ∧
          bindings.table.get? result = some (.alias "" [] .void)) ∧
      tree.returnedValues 10 = [12] ∧ tree.ownReturns 8 10 = [12] ∧
        ∀ node, tree.IsReached node → (tree.returnedValue? node).isSome = true →
          (tree.IsCollected 10 node ↔ tree.IsReturnOf 8 10 node) := by
  intro tree
  obtain ⟨bindings, hbindings⟩ := exists_model?_classInFunction
  obtain ⟨chronicle, -, -, hreturns⟩ :=
    SyntaxTree.returns_of_model? classInFunction (.inl rfl) {} hbindings
  obtain ⟨-, -, -, hvoid⟩ :=
    hreturns 4 5 (.of_mem_preorder (by decide +kernel)) (by decide +kernel) (by decide +kernel)
  obtain ⟨-, -, hagree, -⟩ :=
    hreturns 8 10 (.of_mem_preorder (by decide +kernel)) (by decide +kernel) (by decide +kernel)
  have hnone : tree.returnedValues 5 = [] := by decide +kernel
  have hvalue : tree.returnedValues 10 = [12] := by decide +kernel
  have hown : tree.ownReturns 8 10 = [12] := by decide +kernel
  exact ⟨bindings, hbindings,
    ⟨hnone, by decide +kernel, (hvoid hnone).2 [] construct?_classInFunction⟩, hvalue, hown, hagree.mp (hvalue.trans hown.symm)⟩

/-- The document `function f() { const o = { m() { return 1; } }; }`. -/
def methodInLiteral : Concrete.Document where
  text := "function f() \x7b const o = \x7b m() \x7b return 1; \x7d \x7d; \x7d"
  dialect := .typeScript
  root :=
    .named "program" 0 49 none
      [.named "function_declaration" 0 49 none
        [.named "identifier" 9 10 (some "name") [],
          .named "formal_parameters" 10 12 (some "parameters") [],
          .named "statement_block" 13 49 (some "body")
            [.named "lexical_declaration" 15 47 none
              [.named "variable_declarator" 21 46 none
                [.named "identifier" 21 22 (some "name") [],
                  .named "object" 25 46 (some "value")
                    [.named "method_definition" 27 44 none
                      [.named "property_identifier" 27 28 (some "name") [],
                        .named "formal_parameters" 28 30 (some "parameters") [],
                        .named "statement_block" 31 44 (some "body")
                          [.named "return_statement" 33 42 none
                            [.named "number" 40 41 none []]]]]]]]]]

/-- **What the method of an object literal returns is taken for what the function returns**, which
has no `return` statement of its own. -/
theorem not_returns_methodInLiteral :
    let tree := SyntaxTree.ofDocument methodInLiteral
    (tree.field? 1 .body = some 3 ∧ tree.ownReturns 1 3 = [] ∧ tree.returnedValues 3 = [12]) ∧
      ∃ bindings type result, tree.model? .empty {} = some bindings ∧
        bindings.nodeTypes[2]? = some type ∧
        bindings.table.get? type = some (.function result) ∧
        bindings.table.get? result = some (.alias "" [] .number) := by
  intro tree
  have hends : (tree.guardedModel .empty {}).toOption.any (fun bindings =>
      decide (bindings.nodeTypes[2]? = some 12 ∧
        bindings.table.get? 12 = some (.function 11) ∧
        bindings.table.get? 11 = some (.alias "" [] .number))) = true := by
    decide +kernel
  obtain ⟨bindings, hbindings, htypes⟩ :=
    tree.exists_model?_of_guarded Prelude.isClosed_empty hends
  exact ⟨by decide +kernel, bindings, 12, 11, hbindings, of_decide_eq_true htypes⟩

end StreamLint
