import StreamLint.Proofs.Model.Finished
import StreamLint.Proofs.Model.Scoping
/-!
# What shadows the prelude

A variable or a parameter is declared with a *target*, which is an identifier or a pattern that
takes a value apart. Either introduces names: the identifier its own, and the pattern those of the
identifiers in it that stand for parts of the value (`StreamLint.SyntaxTree.Introduces`). A use of
such a name in the scope of the declaration (`StreamLint.SyntaxTree.Covers`) has nothing to do with
a value of the prelude that happens to have the name.

That is what happens if the target is an identifier: the use refers to a symbol of the file. But
patterns are skipped when names are bound (`StreamLint.SyntaxTree.Covers.boundName?_eq_none`), and
what is bound nowhere around it is looked up in the prelude. So names that only patterns introduce
take the values of the prelude, and exactly when they do is to be seen from the tree:
`StreamLint.SyntaxTree.shadows_of_model?`.
-/

namespace StreamLint

/-! ### Names of a declaration -/

namespace SyntaxTree

variable {tree : SyntaxTree}

/-- The parts of a pattern that names are introduced in. Keys are not among them, and neither are
the values that stand in for missing ones. -/
def patternParts (tree : SyntaxTree) (node : NodeId) : List NodeId :=
  match tree.construct? node with
  | some (.other label children) =>
    match label with
    | "object_pattern" | "array_pattern" | "rest_pattern" => children
    | "pair_pattern" => children.drop 1
    | "assignment_pattern" | "object_assignment_pattern" => children.take 1
    | _ => []
  | _ => []

/-- **The name is introduced** by what a declaration has for a target, however deep in a pattern. -/
inductive Introduces (tree : SyntaxTree) (name : String) : NodeId → Prop
  /-- An identifier introduces its name. -/
  | identifier {node : NodeId} (hname : tree.nameAt? node = some name) : Introduces tree name node
  /-- A pattern introduces the names of its parts. -/
  | part {node part : NodeId} (hpart : part ∈ tree.patternParts node)
      (h : Introduces tree name part) : Introduces tree name node

/-- **The declaration covers the use**: it is a variable or a parameter whose target introduces the
name, and the use lies in its scope. -/
structure Covers (tree : SyntaxTree) (declaration target use : NodeId) (name : String) : Prop where
  /-- The declaration is a node of the file. -/
  isReached : tree.IsReached declaration
  /-- It is a variable or a parameter. -/
  kind : tree.kind? declaration = some .variableDeclarator ∨
    tree.kind? declaration = some .parameter
  /-- Its target stands in the place of the name. -/
  field?_eq : tree.field? declaration .name = some target
  /-- The target introduces the name. -/
  introduces : tree.Introduces name target
  /-- The scope that the declaration stands in is around the use. -/
  around : ∃ scope, tree.scopeAt? declaration = some scope ∧ scope ∈ tree.selfAndAncestors use

namespace Covers

variable {declaration target use : NodeId} {name : String}

theorem binds (h : tree.Covers declaration target use name) : tree.Binds declaration target := by
  have hfield := h.field?_eq
  rcases hconstruct : tree.construct? declaration with _ | construct
  · simp [field?, hconstruct] at hfield
  · have hkind := h.kind
    simp only [kind?, hconstruct, Option.map_some, Option.some.injEq] at hkind
    simp only [field?, hconstruct, Option.bind_some] at hfield
    cases construct <;> simp_all [Construct.kind, Construct.field?]
    · exact .ofVariable hconstruct
    · exact .ofParameter hconstruct

/-- What a declaration binds: the name of its target, if that is an identifier, in the scope that
the declaration stands in. -/
theorem boundName?_eq (h : tree.Covers declaration target use name) :
    tree.boundName? declaration = do
      return ⟨← tree.scopeAt? declaration, ← tree.nameAt? target⟩ := by
  have hkind := h.kind
  cases h.binds with
  | ofVariable hconstruct => simp only [boundName?, hconstruct]
  | ofParameter hconstruct => simp only [boundName?, hconstruct]
  | ofFunction hconstruct => simp [kind?, hconstruct, Construct.kind] at hkind

/-- **A pattern binds nothing**, whatever names it introduces. -/
theorem boundName?_eq_none (h : tree.Covers declaration target use name)
    (hpattern : tree.nameAt? target = none) : tree.boundName? declaration = none := by
  rw [h.boundName?_eq, hpattern]
  cases tree.scopeAt? declaration <;> rfl

/-- An identifier is bound around the use. -/
theorem isSome_scopeOf? (h : tree.Covers declaration target use name) (hlinked : tree.Linked)
    (hname : tree.nameAt? target = some name) : (tree.scopeOf? name use).isSome = true := by
  obtain ⟨scope, hscope, haround⟩ := h.around
  have hbound : (⟨scope, name⟩ : BoundName) ∈ tree.boundNames := by
    refine List.mem_filterMap.mpr ⟨declaration, hlinked.mem_preorder h.isReached, ?_⟩
    rw [h.boundName?_eq, hscope, hname]
    rfl
  exact List.find?_isSome.mpr ⟨scope, haround, by simpa using hbound⟩

end Covers

theorem scopeOf?_eq_none_iff {name : String} {use : NodeId} :
    tree.scopeOf? name use = none ↔
      ∀ scope ∈ tree.selfAndAncestors use, ⟨scope, name⟩ ∉ tree.boundNames := by
  simp [scopeOf?]

end SyntaxTree

/-! ### Uses -/

/-- **The use takes the value of the prelude**: it refers to no symbol of the file, and its type is
that of the value. -/
def Bindings.TakesPrelude (bindings : Bindings) (prelude : Prelude) (use : NodeId) (name : String) :
    Prop :=
  bindings.model.symbolOf? use = none ∧
    ∃ type, prelude.values[name]? = some type ∧ bindings.model.typeOf? use = some type

/-- A use takes the value of the prelude if there is one, and nothing around it binds the name. -/
theorem Bindings.ResolvesName.takesPrelude_iff {bindings : Bindings} {tree : SyntaxTree}
    {prelude : Prelude} {use : NodeId} {name : String}
    (h : bindings.ResolvesName tree prelude use name) :
    bindings.TakesPrelude prelude use name ↔
      ¬tree.IsPropertyOfParent use ∧ (prelude.values[name]?).isSome = true ∧
        tree.scopeOf? name use = none := by
  constructor
  -- Properties have no type, and names that are bound around the use have a symbol.
  · rintro ⟨hsymbol, type, hvalue, htype⟩
    have hnot : ¬tree.IsPropertyOfParent use := by
      intro hproperty
      rw [(h.property hproperty).1] at htype
      cases htype
    refine ⟨hnot, by rw [hvalue, Option.isSome_some], ?_⟩
    rcases hscope : tree.scopeOf? name use with _ | scope
    · rfl
    · obtain ⟨symbol, -, -, hsome, -⟩ := h.bound hnot scope hscope
      rw [hsome] at hsymbol
      cases hsymbol
  · rintro ⟨hnot, hvalue, hscope⟩
    obtain ⟨type, hvalue⟩ := Option.isSome_iff_exists.mp hvalue
    obtain ⟨hsymbol, htype⟩ := h.free hnot hscope
    refine ⟨hsymbol, type, hvalue, ?_⟩
    rw [htype, Prelude.typeOfValue?, hvalue]

/-- The names of a document are resolved in its model. -/
theorem SyntaxTree.resolvesName (document : Concrete.Document) {prelude : Prelude}
    (hprelude : prelude.IsBuilt) {limits : Limits} {bindings : Bindings}
    (h : (ofDocument document).model? prelude limits = some bindings) {node : NodeId} {name : String}
    (hnode : (ofDocument document).IsReached node)
    (hname : (ofDocument document).nameAt? node = some name) :
    bindings.ResolvesName (ofDocument document) prelude node name := by
  obtain ⟨draft, hdraft, hbindings⟩ := Option.bind_eq_some_iff.mp h
  obtain rfl := Option.some.inj hbindings
  let background := (ofDocument document).background prelude limits
  have hlinked : background.tree.Linked := linked_ofDocument document
  obtain ⟨rest, -, hpasses, hanswered, -⟩ :=
    background.exists_chronicle hprelude.isClosed hlinked hdraft
  have hnamed : background.IsNamed draft :=
    hpasses.course.keeps (fun hmove hold => hold.move hmove)
      (background.isNamed_bound hlinked hprelude.isClosed)
  obtain ⟨type?, hanswer⟩ := hanswered.exists_of_nameAt? hnode hname
  exact hnamed.resolvesName hname hanswer

/-- **Which declarations shadow the prelude.** If a use is covered by a declaration whose target is
an identifier, it refers to a symbol of the file, and has the type of that. Whatever covers it, it
takes the value of the prelude exactly if there is one of the name and no scope around the use binds
the name; a pattern leaves the scopes as they are. -/
theorem SyntaxTree.shadows_of_model? (document : Concrete.Document) {prelude : Prelude}
    (hprelude : prelude.IsBuilt) (limits : Limits) {bindings : Bindings}
    (h : (ofDocument document).model? prelude limits = some bindings) :
    let tree := ofDocument document
    ∀ declaration target use name, tree.Covers declaration target use name →
      tree.IsReached use → tree.nameAt? use = some name →
        (tree.nameAt? target = some name →
          ¬bindings.TakesPrelude prelude use name ∧
            (¬tree.IsPropertyOfParent use → ∃ scope ∈ tree.selfAndAncestors use, ∃ symbol type,
              tree.symbols[symbol]? = some ⟨scope, name⟩ ∧
                bindings.model.symbolOf? use = some symbol ∧
                  bindings.model.symbolType? symbol = some type ∧
                    bindings.model.typeOf? use = some type)) ∧
        (tree.nameAt? target = none → tree.boundName? declaration = none) ∧
        (bindings.TakesPrelude prelude use name ↔
          ¬tree.IsPropertyOfParent use ∧ (prelude.values[name]?).isSome = true ∧
            ∀ scope ∈ tree.selfAndAncestors use, ⟨scope, name⟩ ∉ tree.boundNames) := by
  intro tree declaration target use name hcovers huse hname
  have hresolves := resolvesName document hprelude h huse hname
  refine ⟨fun hplain => ?_, hcovers.boundName?_eq_none, ?_⟩
  · obtain ⟨scope, hscope⟩ := Option.isSome_iff_exists.mp <|
      hcovers.isSome_scopeOf? (linked_ofDocument document) hplain
    constructor
    · rw [hresolves.takesPrelude_iff]
      rintro ⟨-, -, hnone⟩
      exact absurd (hscope.symm.trans hnone) (by simp)
    · intro hnot
      obtain ⟨symbol, type, hnumber, hsymbol, hat, htype⟩ := hresolves.bound hnot scope hscope
      exact ⟨scope, List.mem_of_find?_eq_some hscope, symbol, type, hnumber, hsymbol, hat, htype⟩
  · rw [hresolves.takesPrelude_iff, scopeOf?_eq_none_iff]

/-- The document `declare function of(): Observable;`. -/
def ofDeclared : Concrete.Document where
  text := "declare function of(): Observable;"
  dialect := .typeScript
  root :=
    .named "program" 0 34 none
      [.named "ambient_declaration" 0 34 none
        [.named "function_signature" 8 34 none
          [.named "identifier" 17 19 (some "name") [],
            .named "formal_parameters" 19 21 (some "parameters") [],
            .named "type_annotation" 21 33 (some "return_type")
              [.named "type_identifier" 23 33 none []]]]]

/-- The document `const { all: [of] } = ops; function f(of) { return of; } of(1);`. -/
def destructured : Concrete.Document where
  text := "const \x7b all: [of] \x7d = ops; function f(of) \x7b return of; \x7d of(1);"
  dialect := .typeScript
  root :=
    .named "program" 0 63 none
      [.named "lexical_declaration" 0 26 none
        [.named "variable_declarator" 6 25 none
          [.named "object_pattern" 6 19 (some "name")
            [.named "pair_pattern" 8 17 none
              [.named "property_identifier" 8 11 (some "key") [],
                .named "array_pattern" 13 17 (some "value") [.named "identifier" 14 16 none []]]],
            .named "identifier" 22 25 (some "value") []]],
        .named "function_declaration" 27 56 none
          [.named "identifier" 36 37 (some "name") [],
            .named "formal_parameters" 37 41 (some "parameters")
              [.named "required_parameter" 38 40 none
                [.named "identifier" 38 40 (some "pattern") []]],
            .named "statement_block" 42 56 (some "body")
              [.named "return_statement" 44 54 none [.named "identifier" 51 53 none []]]],
        .named "expression_statement" 57 63 none
          [.named "call_expression" 57 62 none
            [.named "identifier" 57 59 (some "function") [],
              .named "arguments" 59 62 (some "arguments") [.named "number" 60 61 none []]]]]

/-- There is a model of the document with that prelude, and in it the name that is called, node 18,
has the type of the value of the prelude. -/
theorem exists_model?_destructured : ∃ prelude bindings, prelude.IsBuilt ∧
    (SyntaxTree.ofDocument destructured).model? prelude {} = some bindings ∧
      bindings.TakesPrelude prelude 18 "of" := by
  have hends : (match Prelude.ofTreeBy (SyntaxTree.ofDocument ofDeclared)
        Background.guardedResult with
      | .ok prelude =>
        (prelude.values["of"]?).isSome &&
          ((SyntaxTree.ofDocument destructured).guardedModel prelude {}).toOption.any
            fun bindings => decide (bindings.nodeSymbols[18]? = none ∧
              bindings.nodeTypes[18]? = prelude.values["of"]?)
      | .error _ => false) = true := by
    decide +kernel
  split at hends
  next prelude hprelude =>
    have hbuilt : prelude.IsBuilt := .inr ⟨_, Prelude.ofTree?_eq_some hprelude⟩
    obtain ⟨hvalue, hends⟩ := Bool.and_eq_true_iff.mp hends
    obtain ⟨type, hvalue⟩ := Option.isSome_iff_exists.mp hvalue
    obtain ⟨bindings, hbindings, hfacts⟩ :=
      (SyntaxTree.ofDocument destructured).exists_model?_of_guarded hbuilt.isClosed hends
    obtain ⟨hsymbol, htype⟩ := of_decide_eq_true hfacts
    exact ⟨prelude, bindings, hbuilt, hbindings, hsymbol, type, hvalue, htype.trans hvalue⟩
  next => cases hends

/-- What there is to be seen in the tree: a variable (node 2) with a pattern for a target, and a
parameter (node 11) with an identifier for one, each around a use of the name. -/
theorem nodes_destructured :
    let tree := SyntaxTree.ofDocument destructured
    (∀ node ∈ [2, 11, 15, 18], node ∈ tree.preorder) ∧
      (∀ node ∈ [7, 12, 15, 18], tree.nameAt? node = some "of") ∧
      (tree.kind? 2 = some .variableDeclarator ∧ tree.field? 2 .name = some 3 ∧
        tree.nameAt? 3 = none ∧ tree.patternParts 3 = [4] ∧ tree.patternParts 4 = [6] ∧
        tree.patternParts 6 = [7] ∧ tree.scopeAt? 2 = some 0 ∧ 0 ∈ tree.selfAndAncestors 18) ∧
      (tree.kind? 11 = some .parameter ∧ tree.field? 11 .name = some 12 ∧
        tree.scopeAt? 11 = some 9 ∧ 9 ∈ tree.selfAndAncestors 15) := by
  decide +kernel

/-- The variable covers the name that is called, by its pattern. -/
theorem covers_destructured : (SyntaxTree.ofDocument destructured).Covers 2 3 18 "of" := by
  obtain ⟨hreached, hname, ⟨hkind, hfield, -, houter, hpair, hinner, hscope, haround⟩, -⟩ :=
    nodes_destructured
  refine ⟨.of_mem_preorder (hreached 2 (by decide)), .inl hkind, hfield, ?_, 0, hscope, haround⟩
  have hidentifier : (SyntaxTree.ofDocument destructured).Introduces "of" 7 :=
    .identifier (hname 7 (by decide))
  exact .part (houter ▸ List.mem_singleton_self 4) (.part (hpair ▸ List.mem_singleton_self 6)
    (.part (hinner ▸ List.mem_singleton_self 7) hidentifier))

/-- The parameter of that name covers the name that is returned. -/
theorem covers_destructured_parameter :
    (SyntaxTree.ofDocument destructured).Covers 11 12 15 "of" := by
  obtain ⟨hreached, hname, -, hkind, hfield, hscope, haround⟩ := nodes_destructured
  exact ⟨.of_mem_preorder (hreached 11 (by decide)), .inr hkind, hfield,
    .identifier (hname 12 (by decide)), 9, hscope, haround⟩

/-- **A name that a pattern introduces is taken for that of the prelude.** -/
theorem not_shadows_destructured :
    ¬∀ (document : Concrete.Document) (prelude : Prelude) (limits : Limits) (bindings : Bindings),
      prelude.IsBuilt → (SyntaxTree.ofDocument document).model? prelude limits = some bindings →
        ∀ declaration target use name,
          (SyntaxTree.ofDocument document).Covers declaration target use name →
            (SyntaxTree.ofDocument document).IsReached use →
              (SyntaxTree.ofDocument document).nameAt? use = some name →
                ¬bindings.TakesPrelude prelude use name := by
  intro hclaim
  obtain ⟨prelude, bindings, hprelude, hbindings, htakes⟩ := exists_model?_destructured
  obtain ⟨hreached, hname, -⟩ := nodes_destructured
  exact hclaim destructured prelude {} bindings hprelude hbindings 2 3 18 "of" covers_destructured
    (.of_mem_preorder (hreached 18 (by decide))) (hname 18 (by decide)) htakes

/-- In that model the name that is returned has the symbol of the parameter, and the name that is
called has none, as no scope around it binds the name. -/
theorem shadows_of_model?_destructured :
    let tree := SyntaxTree.ofDocument destructured
    ∃ prelude bindings, prelude.IsBuilt ∧ tree.model? prelude {} = some bindings ∧
      (tree.Covers 11 12 15 "of" ∧ tree.nameAt? 12 = some "of" ∧
        ¬bindings.TakesPrelude prelude 15 "of") ∧
      (tree.Covers 2 3 18 "of" ∧ tree.nameAt? 3 = none ∧ tree.boundName? 2 = none ∧
        bindings.TakesPrelude prelude 18 "of" ∧
        ∀ scope ∈ tree.selfAndAncestors 18, ⟨scope, "of"⟩ ∉ tree.boundNames) := by
  intro tree
  obtain ⟨prelude, bindings, hprelude, hbindings, htakes⟩ := exists_model?_destructured
  obtain ⟨hreached, hname, ⟨-, -, hnone, -⟩, -⟩ := nodes_destructured
  have hshadows := SyntaxTree.shadows_of_model? destructured hprelude {} hbindings
  obtain ⟨hplain, -, -⟩ := hshadows 11 12 15 "of" covers_destructured_parameter
    (.of_mem_preorder (hreached 15 (by decide))) (hname 15 (by decide))
  obtain ⟨-, hpattern, htaken⟩ := hshadows 2 3 18 "of" covers_destructured
    (.of_mem_preorder (hreached 18 (by decide))) (hname 18 (by decide))
  have hidentifier : tree.nameAt? 12 = some "of" := hname 12 (by decide)
  exact ⟨prelude, bindings, hprelude, hbindings,
    ⟨covers_destructured_parameter, hidentifier, (hplain hidentifier).1⟩,
    covers_destructured, hnone, hpattern hnone, htakes, (htaken.mp htakes).2.2⟩

end StreamLint
