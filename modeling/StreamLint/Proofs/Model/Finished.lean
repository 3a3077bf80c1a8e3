import StreamLint.Proofs.Model.Groundwork
import StreamLint.Proofs.Model.Termination
/-!
# The table of a finished model

The finished draft of a file has grown out of its groundwork
(`StreamLint.Background.grows_of_finish`). So its table is closed, and it goes on from the
table of the prelude: no step of making a model, be it a declaration or a type that is found out,
defines a place that the prelude has taken. For models this is
`StreamLint.SyntaxTree.continues_of_model?`.
-/

namespace StreamLint

/-! ### Finished drafts -/

namespace Background

open Draft

variable {background : Background}

theorem buildFile_agrees_grows (hprelude : background.prelude.IsClosed) :
    Agrees background.steps (background.buildFile background.guardedResult)
      (background.buildFile background.resultOfCall) background.start fun _ new =>
        background.bound.Grows background.prelude new := by
  have hbind : After background.bindFile background.start fun _ new => new = background.bound := rfl
  have hbound := (isBound_bound hprelude).closed
  unfold buildFile
  refine (Agrees.lift hbind).bind ?_
  rintro _ _ rfl
  refine (inferAll_agrees hbound background.expressions).bind fun _ typed htyped => ?_
  exact Agrees.get ((settleEach_agrees htyped.closed _).imp fun _ _ hlast => htyped.trans hlast)

/-- **A finished draft has grown out of the groundwork** of its file. -/
theorem grows_of_finish (hprelude : background.prelude.IsClosed) {draft : Draft}
    (h : background.finish background.resultOfCall = some draft) :
    background.bound.Grows background.prelude draft := by
  obtain ⟨⟨⟨⟩, new⟩, hrun, hnew⟩ := Option.bind_eq_some_iff.mp h
  obtain rfl := Option.some.inj hnew
  exact (buildFile_agrees_grows hprelude).post_of_eq_some hrun

end Background

/-! ### Tables that go on from others -/

/-- The table begins with the entries of another one. -/
structure TypeTable.Continues (table first : TypeTable) : Prop where
  /-- There are no fewer entries. -/
  size_le : first.size ≤ table.size
  /-- An entry of the other table is the same here. -/
  get?_eq : ∀ id : Nat, first.Has id → table.get? id = first.get? id

theorem TypeTable.Continues.trans {a b c : TypeTable} (hba : b.Continues a) (hcb : c.Continues b) :
    c.Continues a where
  size_le := Nat.le_trans hba.size_le hcb.size_le
  get?_eq id hid := (hcb.get?_eq id (hid.mono hba.size_le)).trans (hba.get?_eq id hid)

/-- The finished draft of a file goes on from the prelude. -/
theorem Background.continues_of_finish {background : Background}
    (hprelude : background.prelude.IsClosed) {draft : Draft}
    (h : background.finish background.resultOfCall = some draft) :
    draft.table.Continues background.prelude.table := by
  have hbound := isBound_bound hprelude
  have hgrows := grows_of_finish hprelude h
  refine ⟨Nat.le_trans hbound.ground.size_le hgrows.size_le, fun id hid => ?_⟩
  -- the types of the prelude are settled, so that growing leaves them as they are
  rw [hgrows.get?_eq id (hbound.closed.kept id hid), hbound.ground.kept id hid]

/-- The table of a prelude begins with the types that need no declaration. -/
theorem Prelude.IsBuilt.continues {prelude : Prelude} (h : prelude.IsBuilt) :
    prelude.table.Continues .initial := by
  rcases h with rfl | ⟨tree, htree⟩
  · exact ⟨Nat.le_refl _, fun _ _ => rfl⟩
  · obtain ⟨draft, hdraft, hprelude⟩ := Option.bind_eq_some_iff.mp htree
    obtain rfl := Option.some.inj hprelude
    exact @Background.continues_of_finish ⟨tree, .empty, _⟩ isClosed_empty draft hdraft

/-! ### Models -/

/-- The prelude that is made with a guard is the one that is made without. -/
theorem Prelude.ofTree?_eq_some {tree : SyntaxTree} {prelude : Prelude}
    (h : Prelude.ofTreeBy tree Background.guardedResult = .ok prelude) :
    Prelude.ofTree? tree = some prelude := by
  have hfinish := @Background.finish_eq
    ⟨tree, .empty, ({} : Limits).resolutionDepth⟩ isClosed_empty
  unfold ofTreeBy at h
  unfold ofTree? ofTreeBy
  dsimp only at h ⊢
  split at hfinish
  next draft hrun =>
    rw [hrun] at h
    rw [hfinish.1]
    obtain rfl := Except.ok.inj h
    rfl
  next loop hrun =>
    rw [hrun] at h
    cases h

/-- The answers mention only places of their own table. -/
structure Bindings.IsClosed (bindings : Bindings) : Prop where
  /-- What an entry of the table mentions is in use. -/
  entries : ∀ (id : TypeId) (entry : TypeEntry), bindings.table.get? id = some entry →
    ∀ place ∈ entry.places, bindings.table.Has place
  /-- The types of nodes are in the table. -/
  nodeTypes : ∀ (node : NodeId) (id : TypeId), bindings.nodeTypes[node]? = some id →
    bindings.table.Has id
  /-- The types of symbols are in the table. -/
  symbols : ∀ (symbol : SymbolId) (id : TypeId), bindings.symbols[symbol]? = some id →
    bindings.table.Has id

/-- The answers of a closed draft are closed. -/
theorem Draft.IsClosed.bindings {prelude : Prelude} {draft : Draft} (h : draft.IsClosed prelude) :
    draft.bindings.IsClosed where
  entries id entry hentry := h.has_places hentry
  nodeTypes node id hid := by
    simp only [Draft.bindings, Std.TreeMap.getElem?_filterMap] at hid
    obtain ⟨known, hknown, rfl⟩ := Option.pbind_eq_some_iff.mp hid
    exact h.inferred node id hknown
  symbols := h.symbols

/-- **The table of a model is closed and goes on from the table of the prelude**, which begins with
the types that need no declaration: whatever the file, every place that the model mentions is in
use, and no type of the prelude has been defined anew. -/
theorem SyntaxTree.continues_of_model? (tree : SyntaxTree) {prelude : Prelude}
    (hprelude : prelude.IsBuilt) (limits : Limits) {bindings : Bindings}
    (h : tree.model? prelude limits = some bindings) :
    bindings.IsClosed ∧ bindings.table.Continues prelude.table ∧
      bindings.table.Continues .initial := by
  obtain ⟨draft, hdraft, hbindings⟩ := Option.bind_eq_some_iff.mp h
  obtain rfl := Option.some.inj hbindings
  have hgrows := Background.grows_of_finish hprelude.isClosed hdraft
  have hcontinues : draft.table.Continues prelude.table :=
    Background.continues_of_finish hprelude.isClosed hdraft
  exact ⟨hgrows.closed.bindings, hcontinues, hprelude.continues.trans hcontinues⟩

/-- The document `class C { v = 1; } const f = () => new C().v; f();`. -/
def fieldCalled : Concrete.Document where
  text := "class C \x7b v = 1; \x7d const f = () => new C().v; f();"
  dialect := .typeScript
  root :=
    .named "program" 0 50 none
      [.named "class_declaration" 0 18 none
        [.named "type_identifier" 6 7 (some "name") [],
          .named "class_body" 8 18 (some "body")
            [.named "public_field_definition" 10 15 none
              [.named "property_identifier" 10 11 (some "name") [],
                .named "number" 14 15 (some "value") []]]],
        .named "lexical_declaration" 19 45 none
          [.named "variable_declarator" 25 44 none
            [.named "identifier" 25 26 (some "name") [],
              .named "arrow_function" 29 44 (some "value")
                [.named "formal_parameters" 29 31 (some "parameters") [],
                  .named "member_expression" 35 44 (some "body")
                    [.named "new_expression" 35 42 (some "object")
                      [.named "identifier" 39 40 (some "constructor") [],
                        .named "arguments" 40 42 (some "arguments") []],
                      .named "property_identifier" 43 44 (some "property") []]]]],
        .named "expression_statement" 46 50 none
          [.named "call_expression" 46 49 none
            [.named "identifier" 46 47 (some "function") [],
              .named "arguments" 47 49 (some "arguments") []]]]

/-- The document `interface C { v: string; }`. -/
def fieldDeclared : Concrete.Document where
  text := "interface C \x7b v: string; \x7d"
  dialect := .typeScript
  root :=
    .named "program" 0 26 none
      [.named "interface_declaration" 0 26 none
        [.named "type_identifier" 10 11 (some "name") [],
          .named "interface_body" 12 26 (some "body")
            [.named "property_signature" 14 23 none
              [.named "property_identifier" 14 15 (some "name") [],
                .named "type_annotation" 15 23 (some "type")
                  [.named "predefined_type" 17 23 none []]]]]]

/-- A file that declares a class of the same name as an interface of the prelude has a model. -/
theorem exists_model?_fieldCalled : ∃ prelude bindings,
    Prelude.ofTree? (SyntaxTree.ofDocument fieldDeclared) = some prelude ∧
      (SyntaxTree.ofDocument fieldCalled).model? prelude {} = some bindings := by
  have hends : (match Prelude.ofTreeBy (SyntaxTree.ofDocument fieldDeclared)
        Background.guardedResult with
      | .ok prelude => ((SyntaxTree.ofDocument fieldCalled).guardedModel prelude {}).isOk
      | .error _ => false) = true := by
    decide +kernel
  split at hends
  next prelude hprelude =>
    have htree := Prelude.ofTree?_eq_some hprelude
    have hbuilt : prelude.IsBuilt := .inr ⟨_, htree⟩
    have hagrees := (SyntaxTree.ofDocument fieldCalled).guardedModel_agrees hbuilt.isClosed {}
    rcases hguarded : (SyntaxTree.ofDocument fieldCalled).guardedModel prelude {} with loop | bindings
    · rw [hguarded] at hends
      cases hends
    · rw [hguarded] at hagrees
      exact ⟨prelude, bindings, htree, hagrees⟩
  next => cases hends

/-- The class `C` of that file leaves the interface `C` of the prelude as it is. -/
theorem continues_of_model?_fieldCalled : ∃ prelude bindings, prelude.IsBuilt ∧
    (SyntaxTree.ofDocument fieldCalled).model? prelude {} = some bindings ∧
      bindings.IsClosed ∧ bindings.table.Continues prelude.table ∧
        bindings.table.Continues .initial := by
  obtain ⟨prelude, bindings, hprelude, hbindings⟩ := exists_model?_fieldCalled
  have hbuilt : prelude.IsBuilt := .inr ⟨_, hprelude⟩
  exact ⟨prelude, bindings, hbuilt, hbindings,
    (SyntaxTree.ofDocument fieldCalled).continues_of_model? hbuilt {} hbindings⟩

end StreamLint
