import StreamLint.Proofs.Model.Counting
import StreamLint.Proofs.Model.Reading
/-!
# Declarations of one name

One would like the declarations of a class or interface to lose nothing: whatever the kinds of the
declarations of a name, and in whatever order they come, the declared type has the supertypes and
the members of all of them (`StreamLint.Background.Merges`). It does if each declaration after the
first one is that of an interface (`StreamLint.SyntaxTree.AddsUp`). But a class takes the place of
what has been declared under its name: `interface M { y: string } class M { x: number }` leaves `M`
without `y`, whereas both members are there if the class comes first.

What holds in general is that the place of a name holds what the declarations that count declare
together, with the generic parameters of the first of them, and that a member is read with the
arguments in place of these (`StreamLint.SyntaxTree.merges_of_model?`). The parameters of a later
interface are different ones, even where they have the same names, and stay as they are.
-/

namespace StreamLint

namespace SyntaxTree

/-- **The declarations add up**: each one after the first is that of an interface, and the first one
is no alias. -/
def AddsUp (tree : SyntaxTree) : List NodeId → Prop
  | [] => True
  | first :: rest => tree.kind? first ≠ some .typeAliasDeclaration ∧
      ∀ node ∈ rest, tree.kind? node = some .interfaceDeclaration

/-- **Where the declarations add up, all of them count.** -/
theorem counting_eq_self {tree : SyntaxTree} {nodes : List NodeId} (h : tree.AddsUp nodes) :
    tree.counting nodes = nodes := by
  cases nodes with
  | nil => rfl
  | cons first rest =>
    obtain ⟨hfirst, hrest⟩ := h
    have hadds : ∀ before, rest.foldl tree.countNext (first :: before) = first :: before ++ rest := by
      intro before
      induction rest generalizing before with
      | nil => simp
      | cons node rest ih =>
        obtain ⟨hnode, hrest⟩ := List.forall_mem_cons.mp hrest
        have hnext : tree.countNext (first :: before) node = first :: (before ++ [node]) :=
          if_pos ⟨hnode, by simpa using hfirst⟩
        rw [List.foldl_cons, hnext, ih hrest]
        simp
    have hstart : tree.countNext [] first = [first] := by simp [countNext]
    rw [counting, List.foldl_cons, hstart, hadds []]
    rfl

end SyntaxTree

namespace Background

variable {background : Background} {draft : Draft} {awaited : TypeId → Deferred → Prop}

/-- **The declared type has all that the nodes declare**, in the order of the text. -/
structure HasAll (background : Background) (draft : Draft) (awaited : TypeId → Deferred → Prop)
    (nodes : List NodeId) (type : NominalType) : Prop where
  /-- The supertypes. -/
  supertypes : ∃ ids, ids.Sublist type.supertypes ∧
    List.Forall₂ (fun written id => background.Denotes draft written.1 written.2 id)
      (nodes.flatMap background.tree.ownSupertypes) ids
  /-- The members. -/
  members : ∃ own, own.Sublist type.members ∧
    List.Forall₂ (background.Declares draft awaited) (nodes.flatMap background.tree.ownMembers) own

/-- **Nothing is lost** of what the declarations of a name declare: at the place of the declaration
`node` there is a class or interface that has all of it. -/
def Merges (background : Background) (draft : Draft) (awaited : TypeId → Deferred → Prop)
    (node : NodeId) (name : String) : Prop :=
  ∃ id type, (node, id) ∈ background.declarations ∧ draft.table.get? id = some (.declared type) ∧
    background.HasAll draft awaited (background.tree.declarationsOf name) type

theorem IsMerged.hasAll {first : NodeId} {nodes : List NodeId} {type : NominalType}
    (h : background.IsMerged draft awaited first nodes type) :
    background.HasAll draft awaited nodes type :=
  ⟨⟨_, List.Sublist.refl _, h.supertypes⟩, ⟨_, List.Sublist.refl _, h.members⟩⟩

/-- What counts is a class or interface, if the first of the declarations that count is. -/
theorem HoldsCounting.exists_isMerged {id : TypeId} {first : NodeId} {rest : List NodeId}
    {entry : TypeEntry} (h : background.HoldsCounting draft awaited id (first :: rest) entry)
    (hfirst : background.tree.kind? first ≠ some .typeAliasDeclaration) :
    ∃ type, entry = .declared type ∧
      background.IsMerged draft awaited first (first :: rest) type := by
  cases h with
  | ofAlias hconstruct =>
    exact absurd (by simp [SyntaxTree.kind?, hconstruct, Construct.kind]) hfirst
  | ofMerged h => exact ⟨_, rfl, h⟩

/-- **Where the declarations of a name add up, nothing is lost.** -/
theorem IsCounted.merges (h : background.IsCounted draft awaited)
    (hlinked : background.tree.Linked) {node : NodeId} {name : String}
    (hnode : background.tree.IsReached node) (hname : background.tree.typeName? node = some name)
    (hadds : background.tree.AddsUp (background.tree.declarationsOf name)) :
    background.Merges draft awaited node name := by
  obtain ⟨id, entry, hdeclared, -, hentry, hholds⟩ := h node name hnode hname
  rw [SyntaxTree.counting_eq_self hadds] at hholds
  have hmem : node ∈ background.tree.declarationsOf name :=
    List.mem_filter.mpr ⟨hlinked.mem_preorder hnode, by simpa using hname⟩
  rcases hnodes : background.tree.declarationsOf name with _ | ⟨first, rest⟩
  · simp [hnodes] at hmem
  · rw [hnodes] at hadds hholds
    obtain ⟨type, rfl, hmerged⟩ := hholds.exists_isMerged hadds.1
    exact ⟨id, type, hdeclared, hentry, hnodes ▸ hmerged.hasAll⟩

end Background

/-! ### Models -/

/-- **What the declarations of a name come to in the model of a document.** At the place of the name
there is what the declarations that count declare together; where the declarations add up, that is
all of them, so that nothing is lost. A member expression that is answered in its turn has the type
of the member, with the arguments in place of the generic parameters of the declared type. -/
theorem SyntaxTree.merges_of_model? (document : Concrete.Document) {prelude : Prelude}
    (hprelude : prelude.IsBuilt) (limits : Limits) {bindings : Bindings}
    (h : (ofDocument document).model? prelude limits = some bindings) :
    ∃ chronicle, ((ofDocument document).background prelude limits).chronicle? = some chronicle ∧
      chronicle.draft.bindings = bindings ∧
      let background := (ofDocument document).background prelude limits
      background.IsCounted chronicle.draft background.bound.Awaits ∧
      (∀ node name, (ofDocument document).IsReached node →
        (ofDocument document).typeName? node = some name →
        (ofDocument document).AddsUp ((ofDocument document).declarationsOf name) →
          background.Merges chronicle.draft background.bound.Awaits node name) ∧
      (0 < limits.resolutionDepth → ∀ node, background.AnswersInTurn node →
        bindings.ReadsMember (ofDocument document) limits node) := by
  obtain ⟨draft, hdraft, hbindings⟩ := Option.bind_eq_some_iff.mp h
  obtain rfl := Option.some.inj hbindings
  let background := (ofDocument document).background prelude limits
  have hlinked : background.tree.Linked := linked_ofDocument document
  obtain ⟨rest, hchronicle, hpasses, -, hdeferred⟩ :=
    background.exists_chronicle hprelude.isClosed hlinked hdraft
  have hcounted : background.IsCounted draft background.bound.Awaits :=
    (Background.isCounted_bound hprelude.isClosed hlinked).passes
      (Background.isBound_bound hprelude.isClosed) hpasses
  refine ⟨_, hchronicle, rfl, hcounted, fun node name => hcounted.merges hlinked, ?_⟩
  exact fun hdepth node hturn => Background.readsMember_of_finish hprelude.isClosed hlinked hdraft
    hdeferred rfl hdepth hturn

/-! ### Two interfaces -/

/-- The document
`interface B<T> { a: T } interface B<T> { b: T } declare const i: B<string>; i.a; i.b;`. -/
def twoInterfaces : Concrete.Document where
  text := "interface B<T> \x7b a: T \x7d interface B<T> \x7b b: T \x7d declare const i: B<string>; " ++
    "i.a; i.b;"
  dialect := .typeScript
  root :=
    let interface (start : Nat) : Concrete.Node :=
      .named "interface_declaration" start (start + 23) none
        [.named "type_identifier" (start + 10) (start + 11) (some "name") [],
          .named "type_parameters" (start + 11) (start + 14) (some "type_parameters")
            [.named "type_parameter" (start + 12) (start + 13) none
              [.named "type_identifier" (start + 12) (start + 13) (some "name") []]],
          .named "interface_body" (start + 15) (start + 23) (some "body")
            [.named "property_signature" (start + 17) (start + 21) none
              [.named "property_identifier" (start + 17) (start + 18) (some "name") [],
                .named "type_annotation" (start + 18) (start + 21) (some "type")
                  [.named "type_identifier" (start + 20) (start + 21) none []]]]]
    .named "program" 0 85 none
      [interface 0, interface 24,
        .named "ambient_declaration" 48 75 none
          [.named "lexical_declaration" 56 75 none
            [.named "variable_declarator" 62 74 none
              [.named "identifier" 62 63 (some "name") [],
                .named "type_annotation" 63 74 (some "type")
                  [.named "generic_type" 65 74 none
                    [.named "type_identifier" 65 66 (some "name") [],
                      .named "type_arguments" 66 74 (some "type_arguments")
                        [.named "predefined_type" 67 73 none []]]]]]],
        .propertyRead 76 79, .propertyRead 81 84]

/-- Its two members are read differently: `i.a` is a string, and `i.b` is of a type that is a
generic parameter. -/
theorem exists_model?_twoInterfaces : ∃ bindings,
    (SyntaxTree.ofDocument twoInterfaces).model? .empty {} = some bindings ∧
      bindings.nodeTypes[14]? = some .string ∧ bindings.nodeTypes[18]? = some 13 ∧
        bindings.table.get? 13 = some (.parameter "T" none) := by
  have hends : ((SyntaxTree.ofDocument twoInterfaces).guardedModel .empty {}).toOption.any
      (fun bindings => decide (bindings.nodeTypes[14]? = some .string ∧
        bindings.nodeTypes[18]? = some 13 ∧
          bindings.table.get? 13 = some (.parameter "T" none))) = true := by
    decide +kernel
  obtain ⟨bindings, hbindings, htypes⟩ :=
    (SyntaxTree.ofDocument twoInterfaces).exists_model?_of_guarded Prelude.isClosed_empty hends
  exact ⟨bindings, hbindings, of_decide_eq_true htypes⟩

/-- Both are answered in their turns. -/
theorem answersInTurn_twoInterfaces :
    let background := (SyntaxTree.ofDocument twoInterfaces).background .empty {}
    background.AnswersInTurn 14 ∧ background.AnswersInTurn 18 := by
  intro background
  have hturns : [14, 18].Sublist background.turns := by decide +kernel
  exact ⟨.of_mem_turns Prelude.isClosed_empty (hturns.subset (by simp)),
    .of_mem_turns Prelude.isClosed_empty (hturns.subset (by simp))⟩

/-- There the declarations add up, and both members are there; `i.a` is read with the argument in
place of the parameter. The parameter of the second interface is none of those of `B`, so that `i.b`
is read as it is. -/
theorem merges_of_model?_twoInterfaces :
    let tree := SyntaxTree.ofDocument twoInterfaces
    let background := tree.background .empty {}
    ∃ bindings chronicle, tree.model? .empty {} = some bindings ∧
      background.chronicle? = some chronicle ∧ chronicle.draft.bindings = bindings ∧
      (tree.declarationsOf "B" = [1, 5] ∧ tree.AddsUp [1, 5] ∧
        background.Merges chronicle.draft background.bound.Awaits 5 "B") ∧
      (background.AnswersInTurn 14 ∧ bindings.ReadsMember tree {} 14 ∧
        bindings.nodeTypes[14]? = some .string) ∧
      background.AnswersInTurn 18 ∧ bindings.ReadsMember tree {} 18 ∧
        bindings.nodeTypes[18]? = some 13 ∧
        bindings.table.get? 13 = some (.parameter "T" none) := by
  intro tree background
  obtain ⟨bindings, hbindings, hfirst, hsecond, hparameter⟩ := exists_model?_twoInterfaces
  obtain ⟨chronicle, hchronicle, hend, -, hmerges, hreads⟩ :=
    SyntaxTree.merges_of_model? twoInterfaces (.inl rfl) {} hbindings
  obtain ⟨hturn, hturn'⟩ := answersInTurn_twoInterfaces
  have hnodes : tree.declarationsOf "B" = [1, 5] := by decide +kernel
  have hadds : tree.AddsUp [1, 5] := by
    simp only [SyntaxTree.AddsUp, List.mem_singleton, forall_eq]
    decide +kernel
  refine ⟨bindings, chronicle, hbindings, hchronicle, hend, ⟨hnodes, hadds, ?_⟩,
    ⟨hturn, hreads (by decide) 14 hturn, hfirst⟩, hturn', hreads (by decide) 18 hturn', hsecond,
    hparameter⟩
  exact hmerges 5 "B" (.of_mem_preorder (by decide +kernel)) (by decide +kernel) (hnodes ▸ hadds)

/-! ### A class after an interface -/

/-- The document
`interface M { y: string } class M { x: number } declare const m: M; m.x; m.y;`. -/
def classAfterInterface : Concrete.Document where
  text := "interface M \x7b y: string \x7d class M \x7b x: number \x7d declare const m: M; m.x; m.y;"
  dialect := .typeScript
  root :=
    let property (kind : String) (start : Nat) : Concrete.Node :=
      .named kind start (start + 9) none
        [.named "property_identifier" start (start + 1) (some "name") [],
          .named "type_annotation" (start + 1) (start + 9) (some "type")
            [.named "predefined_type" (start + 3) (start + 9) none []]]
    .named "program" 0 77 none
      [.named "interface_declaration" 0 25 none
          [.named "type_identifier" 10 11 (some "name") [],
            .named "interface_body" 12 25 (some "body") [property "property_signature" 14]],
        .named "class_declaration" 26 47 none
          [.named "type_identifier" 32 33 (some "name") [],
            .named "class_body" 34 47 (some "body") [property "public_field_definition" 36]],
        .named "ambient_declaration" 48 67 none
          [.named "lexical_declaration" 56 67 none
            [.named "variable_declarator" 62 66 none
              [.named "identifier" 62 63 (some "name") [],
                .named "type_annotation" 63 66 (some "type")
                  [.named "type_identifier" 65 66 none []]]]],
        .propertyRead 68 71, .propertyRead 73 76]

/-- The declared type has one member. -/
theorem exists_model?_classAfterInterface : ∃ bindings type,
    (SyntaxTree.ofDocument classAfterInterface).model? .empty {} = some bindings ∧
      bindings.table.get? 11 = some (.declared type) ∧ type.members.length = 1 := by
  have hends : ((SyntaxTree.ofDocument classAfterInterface).guardedModel .empty {}).toOption.any
      (fun bindings => bindings.table.get? 11 ==
        some (.declared ⟨"M", .classType, [], [], [⟨"x", .property, .number⟩]⟩)) = true := by
    decide +kernel
  obtain ⟨bindings, hbindings, hentry⟩ :=
    (SyntaxTree.ofDocument classAfterInterface).exists_model?_of_guarded Prelude.isClosed_empty
      hends
  exact ⟨bindings, _, hbindings, eq_of_beq hentry, rfl⟩

/-- **What the interface declares is lost.** -/
theorem not_merges_classAfterInterface :
    let tree := SyntaxTree.ofDocument classAfterInterface
    let background := tree.background .empty {}
    ∃ bindings chronicle, tree.model? .empty {} = some bindings ∧
      background.chronicle? = some chronicle ∧ chronicle.draft.bindings = bindings ∧
      ∀ awaited, ¬∀ node name, tree.IsReached node → (tree.nominal? node).isSome = true →
        tree.typeName? node = some name → background.Merges chronicle.draft awaited node name := by
  intro tree background
  obtain ⟨bindings, type, hbindings, hentry, hlength⟩ := exists_model?_classAfterInterface
  obtain ⟨draft, hdraft, hend⟩ := Option.bind_eq_some_iff.mp hbindings
  obtain rfl := Option.some.inj hend
  obtain ⟨rest, hchronicle, -⟩ := background.exists_chronicle Prelude.isClosed_empty
    (SyntaxTree.linked_ofDocument classAfterInterface) hdraft
  refine ⟨_, _, hbindings, hchronicle, rfl, fun awaited hall => ?_⟩
  obtain ⟨id, type', hdeclared, hat, -, own, hsub, hown⟩ := hall 1 "M"
    (.of_mem_preorder (by decide +kernel)) (by decide +kernel) (by decide +kernel)
  have hplaces : background.declarations = [(1, 11), (5, 11)] := by decide +kernel
  obtain rfl : id = 11 := by simpa [hplaces] using hdeclared
  obtain rfl := TypeEntry.declared.inj (Option.some.inj (hentry.symm.trans hat))
  -- both declarations have a member, and there is one only
  have hwritten : ((tree.declarationsOf "M").flatMap tree.ownMembers).length = 2 := by
    decide +kernel
  have hmany : ((tree.declarationsOf "M").flatMap tree.ownMembers).length ≤ 1 :=
    Nat.le_trans (Nat.le_of_eq hown.length_eq) (hlength ▸ hsub.length_le)
  rw [hwritten] at hmany
  exact absurd hmany (by decide)

end StreamLint
