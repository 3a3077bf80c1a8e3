import StreamLint.Proofs.Model.Given
import StreamLint.Proofs.Model.Lookup
import StreamLint.Proofs.Model.Merging
import StreamLint.Proofs.Syntax.Comparison
/-!
# Members of generic classes and interfaces

The members of a class or interface are written in terms of its generic parameters. What an
expression of the type `G<A>` exposes as a member should be what has been written, with the argument
wherever the parameter has been written. So it is with members that are inherited: these are seen
through the arguments that a class gives to the class it extends, and then through its own.

The arguments do not get everywhere, though. They are put into references, unions, intersections,
arrays and the results of functions, and nowhere else: with `class Box<T> { pair: [T] }`, the `pair`
of a `Box<string>` is a tuple of the parameter, and not of a string. The same goes for object types
and for the arguments of a name without a declaration. Everything else is as one would expect
(`StreamLint.Background.Exposes`): what is exposed is what has been written, with the arguments in
place of the parameters, exactly if every parameter in one of those places stands for itself.

The main statement is `StreamLint.SyntaxTree.exposes_of_model?`.
-/

namespace StreamLint

namespace Background

variable {background : Background} {draft : Draft}

/-- **What is written is seen with the arguments in place of the parameters** if it is not nested too
deep, but for those parameters in it that are left as they are. -/
def SeenWith (background : Background) (draft : Draft) (params arguments : List TypeId)
    (depth : Nat) (site : NodeId) (written : TypeExpr) (seen : TypeId) : Prop :=
  written.nesting < depth →
    (background.DenotesWith draft (givenFor params arguments) site written seen ↔
      ∀ param ∈ background.parametersIn draft site false written,
        givenFor params arguments param = param)

/-- **The type is a class or interface that is declared once**, by the node, with arguments. -/
def Applies (background : Background) (draft : Draft) (node : NodeId) (arguments : List TypeId)
    (type : TypeId) : Prop :=
  ∃ name id, background.tree.typeName? node = some name ∧
    background.tree.declarationsOf name = [node] ∧ (background.tree.nominal? node).isSome = true ∧
      draft.typeNames[name]? = some id ∧
        (type = id ∧ arguments = [] ∨ draft.table.get? type = some (.reference id arguments))

/-- **What a type exposes** as the member of a name. -/
def Exposes (background : Background) (draft : Draft) (name : String) :
    Nat → TypeId → Option TypeId → Prop
  | 0, _, _ => True
  | budget + 1, object, value? => ∀ node arguments, background.Applies draft node arguments
      (draft.table.shapeWithin (background.maxDepth + 1) object) →
    match (background.tree.ownMembers node).find? (·.name == name) with
    | some member => ∀ written, member.written = some written → ∃ result value,
        value? = some value ∧ draft.table.IsGiven member.kind result value ∧
          background.SeenWith draft (draft.paramsOf node) arguments (budget + 1) member.site written
            result
    | none => FirstOf (fun supertype answer? => ∃ seen,
        background.SeenWith draft (draft.paramsOf node) arguments (budget + 1) supertype.1
          supertype.2 seen ∧ Exposes background draft name budget seen answer?)
        (background.tree.ownSupertypes node) value?

variable {node : NodeId} {arguments : List TypeId} {type : TypeId}
  {awaited : TypeId → Deferred → Prop}

/-- **A class or interface that is declared once** is at its place what the node declares. -/
theorem Applies.exists_isMerged (h : background.Applies draft node arguments type)
    (hcounted : background.IsCounted draft awaited) : ∃ declaration,
      draft.table.IsApplied type declaration arguments ∧
        background.IsMerged draft awaited node [node] declaration := by
  obtain ⟨name, id, hname, honce, hnominal, hid, htype⟩ := h
  have hmem : node ∈ background.tree.preorder :=
    (List.mem_filter.mp (honce ▸ List.mem_singleton_self node)).1
  obtain ⟨place, entry, -, hplace, hentry, hholds⟩ :=
    hcounted node name (.of_mem_preorder hmem) hname
  obtain rfl := Option.some.inj (hid.symm.trans hplace)
  have hone : background.tree.counting [node] = [node] := by
    simp [SyntaxTree.counting, SyntaxTree.countNext]
  have hkind : background.tree.kind? node ≠ some .typeAliasDeclaration := by
    intro halias
    unfold SyntaxTree.nominal? at hnominal
    split at hnominal
    next hconstruct => simp [SyntaxTree.kind?, hconstruct, Construct.kind] at halias
    next hconstruct => simp [SyntaxTree.kind?, hconstruct, Construct.kind] at halias
    next => cases hnominal
  rw [honce, hone] at hholds
  obtain ⟨declaration, rfl, hmerged⟩ := hholds.exists_isMerged hkind
  refine ⟨declaration, ?_, hmerged⟩
  rcases htype with ⟨rfl, rfl⟩ | hreference
  · exact .inl ⟨hentry, rfl⟩
  · exact .inr ⟨id, hreference, hentry⟩

/-- A member of what the node declares is found where the node has written it. -/
theorem find?_declares {written : List WrittenMember} {members : List (Member TypeId)}
    (h : List.Forall₂ (background.Declares draft awaited) written members) (name : String) :
    (written.find? (·.name == name) = none ∧ members.find? (·.name == name) = none) ∨
      ∃ own member, written.find? (·.name == name) = some own ∧
        members.find? (·.name == name) = some member ∧
          background.Declares draft awaited own member := by
  induction h with
  | nil => exact .inl ⟨rfl, rfl⟩
  | @cons own member _ _ hfirst _ ih =>
    have hname : (member.name == name) = (own.name == name) := by rw [hfirst.name]
    by_cases hown : own.name == name
    · refine .inr ⟨own, member, ?_, ?_, hfirst⟩
      · exact List.find?_cons_of_pos hown
      · exact List.find?_cons_of_pos (hname.trans hown)
    · rw [List.find?_cons_of_neg (by exact hown),
        List.find?_cons_of_neg (by simpa [hname] using hown)]
      exact ih

theorem areParameters_paramsOf (hsorts : background.Sorts draft) (node : NodeId) :
    draft.table.AreParameters (draft.paramsOf node) := by
  intro param hmem
  obtain ⟨named, hnamed, rfl⟩ := List.mem_map.mp hmem
  cases hparams : draft.typeParams[node]? with
  | none => simp [hparams] at hnamed
  | some params =>
    rw [hparams, Option.getD_some] at hnamed
    exact hsorts.params node params hparams named hnamed

section Tuples

variable {given : TypeId → TypeId} {site : NodeId} {name : String} {param : TypeId}

theorem parametersIn_tuple (hparam : background.parameterNamed? draft name site = some param)
    {inside : Bool} :
    background.parametersIn draft site inside (.tuple [.named name []]) = [param] := by
  simp [parametersIn, parametersInEach, hparam]

/-- A tuple of a parameter is not the tuple of what is given for it. -/
theorem not_denotesWith_tuple (hparam : background.parameterNamed? draft name site = some param)
    {id : TypeId} (hid : draft.table.get? id = some (.tuple [param]))
    (hgiven : param ≠ given param) :
    ¬background.DenotesWith draft given site (.tuple [.named name []]) id := by
  rintro ⟨ids, ⟨inner, others, rfl, hinner, -⟩, htuple⟩
  obtain ⟨rfl, -⟩ := List.cons.inj (TypeEntry.tuple.inj (Option.some.inj (hid.symm.trans htuple)))
  simp only [DenotesWith, hparam] at hinner
  exact hgiven hinner

end Tuples

/-- **What the search for a member finds is what the type exposes.** -/
theorem exposes_of_memberOf (hsorts : background.Sorts draft)
    (hcounted : background.IsCounted draft awaited) {name : String} {budget : Nat} {object : TypeId}
    {value? : Option TypeId}
    (h : draft.table.MemberOf (background.maxDepth + 1) name budget object value?) :
    background.Exposes draft name budget object value? := by
  induction budget generalizing object value? with
  | zero => trivial
  | succ budget ih =>
    intro node arguments happlies
    obtain ⟨declaration, happlied, hmerged⟩ := happlies.exists_isMerged hcounted
    have hparams : declaration.params = draft.paramsOf node := hmerged.params
    have hplaces := areParameters_paramsOf hsorts node
    have hdeclared := h.declaredMember happlied
    have hmembers := hmerged.members
    have hsupertypes := hmerged.supertypes
    simp only [List.flatMap_cons, List.flatMap_nil, List.append_nil] at hmembers hsupertypes
    unfold TypeTable.DeclaredMember at hdeclared
    rw [hparams] at hdeclared
    rcases find?_declares hmembers name with
      ⟨hown, hmember⟩ | ⟨own, member, hown, hmember, hdeclares⟩
    · simp only [hmember] at hdeclared
      simp only [hown]
      refine hdeclared.transport hsupertypes fun supertype written hdenotes answer? hanswer => ?_
      obtain ⟨seen, hinstance, hseen⟩ := hanswer
      exact ⟨seen, fun hdepth =>
        denotesWith_iff_of_instance hsorts hplaces hdepth hdenotes hinstance, ih hseen⟩
    · simp only [hmember] at hdeclared
      simp only [hown]
      intro written hwritten
      obtain ⟨result, value, hvalue, hinstance, hgiven⟩ := hdeclared
      have hdenotes := hdeclares.type
      simp only [hwritten, Provides] at hdenotes
      exact ⟨result, value, hvalue, hdeclares.kind ▸ hgiven, fun hdepth =>
        denotesWith_iff_of_instance hsorts hplaces hdepth hdenotes hinstance⟩

end Background

/-! ### Models -/

/-- **Members of generic classes and interfaces.** In a model, a member expression that is answered in
its turn has the type that the type of its object exposes. -/
theorem SyntaxTree.exposes_of_model? (document : Concrete.Document) {prelude : Prelude}
    (hprelude : prelude.IsBuilt) (limits : Limits) {bindings : Bindings}
    (h : (ofDocument document).model? prelude limits = some bindings) :
    ∃ chronicle, ((ofDocument document).background prelude limits).chronicle? = some chronicle ∧
      chronicle.draft.bindings = bindings ∧
      let background := (ofDocument document).background prelude limits
      ∀ node object property name type,
        (ofDocument document).construct? node = some (.memberExpression object property) →
        (ofDocument document).nameAt? property = some name →
        bindings.nodeTypes[object]? = some type → background.AnswersInTurn node →
          background.Exposes chronicle.draft name limits.resolutionDepth type
            (bindings.nodeTypes[node]?) := by
  obtain ⟨draft, hdraft, hbindings⟩ := Option.bind_eq_some_iff.mp h
  obtain rfl := Option.some.inj hbindings
  let background := (ofDocument document).background prelude limits
  have hlinked : background.tree.Linked := linked_ofDocument document
  obtain ⟨rest, hchronicle, hpasses, -, hdeferred⟩ :=
    background.exists_chronicle hprelude.isClosed hlinked hdraft
  refine ⟨_, hchronicle, rfl, fun node object property name type hconstruct hname hobject
    hturn => ?_⟩
  have hcounted := (Background.isCounted_bound hprelude.isClosed hlinked).passes
    (Background.isBound_bound hprelude.isClosed) hpasses
  have haccess : background.tree.access? node = some (.member name, object) := by
    simp only [access?, show background.tree.construct? node = _ from hconstruct,
      show background.tree.nameAt? property = _ from hname, Option.map_some]
  refine Background.exposes_of_memberOf (Background.sorts_of_finish hprelude hdraft) hcounted ?_
  exact Background.reads_of_finish hprelude.isClosed hlinked hdraft hdeferred haccess hturn
    (Background.TypedFrom.inferred_eq_some hobject)

/-! ### A box of pairs -/

/-- The document `class Base<U> { item: U | null } class Box<T> extends Base<T[]> { pair: [T] }
declare const b: Box<string>; b.item; b.pair;`. -/
def boxOfPairs : Concrete.Document where
  text := "class Base<U> \x7b item: U | null \x7d class Box<T> extends Base<T[]> \x7b " ++
    "pair: [T] \x7d declare const b: Box<string>; b.item; b.pair;"
  dialect := .typeScript
  root :=
    let parameter (start : Nat) : Concrete.Node :=
      .named "type_parameters" start (start + 3) (some "type_parameters")
        [.named "type_parameter" (start + 1) (start + 2) none
          [.named "type_identifier" (start + 1) (start + 2) (some "name") []]]
    let body (start stop : Nat) (written : Concrete.Node) : Concrete.Node :=
      .named "class_body" start stop (some "body")
        [.named "public_field_definition" (start + 2) (stop - 2) none
          [.named "property_identifier" (start + 2) (start + 6) (some "name") [],
            .named "type_annotation" (start + 6) (stop - 2) (some "type") [written]]]
    .named "program" 0 123 none
      [.named "class_declaration" 0 32 none
          [.named "type_identifier" 6 10 (some "name") [], parameter 10,
            body 14 32 (.named "union_type" 22 30 none
              [.named "type_identifier" 22 23 none [],
                .named "literal_type" 26 30 none [.named "null" 26 30 none []]])],
        .named "class_declaration" 33 77 none
          [.named "type_identifier" 39 42 (some "name") [], parameter 42,
            .named "class_heritage" 46 63 none
              [.named "extends_clause" 46 63 none
                [.named "identifier" 54 58 (some "value") [],
                  .named "type_arguments" 58 63 (some "type_arguments")
                    [.named "array_type" 59 62 none [.named "type_identifier" 59 60 none []]]]],
            body 64 77 (.named "tuple_type" 72 75 none [.named "type_identifier" 73 74 none []])],
        .named "ambient_declaration" 78 107 none
          [.named "lexical_declaration" 86 107 none
            [.named "variable_declarator" 92 106 none
              [.named "identifier" 92 93 (some "name") [],
                .named "type_annotation" 93 106 (some "type")
                  [.named "generic_type" 95 106 none
                    [.named "type_identifier" 95 98 (some "name") [],
                      .named "type_arguments" 98 106 (some "type_arguments")
                        [.named "predefined_type" 99 105 none []]]]]]],
        .propertyRead 108 114, .propertyRead 116 122]

/-- The member expressions are nodes 14 and 18. -/
theorem construct?_boxOfPairs :
    (SyntaxTree.ofDocument boxOfPairs).construct? 14 = some (.memberExpression 15 16) ∧
      (SyntaxTree.ofDocument boxOfPairs).construct? 18 = some (.memberExpression 19 20) := by
  decide +kernel

/-- In the model, `b` is a box of strings; `b.item` is a list of strings or null, and `b.pair` is a
tuple of the generic parameter. -/
theorem exists_finish_boxOfPairs :
    let background := (SyntaxTree.ofDocument boxOfPairs).background .empty {}
    ∃ draft, background.finish background.resultOfCall = some draft ∧
      background.Applies draft 5 [.string] (draft.table.shapeWithin 33 19) ∧ draft.paramsOf 5 = [13] ∧
      background.parameterNamed? draft "T" 7 = some 13 ∧
      (draft.bindings.nodeTypes[15]? = some 19 ∧ draft.bindings.nodeTypes[14]? = some 22 ∧
        draft.table.get? 22 = some (.union [20, .null]) ∧
        draft.table.get? 20 = some (.array .string)) ∧
      draft.bindings.nodeTypes[19]? = some 19 ∧ draft.bindings.nodeTypes[18]? = some 18 ∧
        draft.table.get? 18 = some (.tuple [13]) := by
  intro background
  have hends : ((SyntaxTree.ofDocument boxOfPairs).guardedModel .empty {}).toOption.any
      (fun bindings => decide ((bindings.nodeTypes[15]? = some 19 ∧
        bindings.nodeTypes[14]? = some 22 ∧ bindings.table.get? 22 = some (.union [20, .null]) ∧
        bindings.table.get? 20 = some (.array .string)) ∧
        (bindings.nodeTypes[19]? = some 19 ∧ bindings.nodeTypes[18]? = some 18 ∧
          bindings.table.get? 18 = some (.tuple [13])) ∧
        bindings.table.get? 19 = some (.reference 14 [.string]) ∧ bindings.table.get? 14 =
          some (.declared ⟨"Box", .classType, [13], [17], [⟨"pair", .property, 18⟩]⟩))) = true := by
    decide +kernel
  obtain ⟨bindings, hbindings, hfacts⟩ :=
    (SyntaxTree.ofDocument boxOfPairs).exists_model?_of_guarded Prelude.isClosed_empty hends
  obtain ⟨draft, hdraft, hend⟩ := Option.bind_eq_some_iff.mp hbindings
  obtain rfl := Option.some.inj hend
  obtain ⟨hitem, hpair, hbox, hdeclared⟩ := of_decide_eq_true hfacts
  -- what the names refer to has been so since they were bound
  have hbound : background.bound.typeNames["Box"]? = some 14 ∧
      background.bound.typeParams[(5 : NodeId)]? = some [("T", 13)] ∧
        background.parameterNamed? background.bound "T" 7 = some 13 := by
    decide +kernel
  obtain ⟨_, hpasses⟩ := Background.exists_passes_of_finish Prelude.isClosed_empty hdraft
  have hnames := hpasses.course.sameNames
  have hleaf : draft.table.standsFor? 19 = none := by
    simp only [TypeTable.standsFor?, show draft.table.get? 19 = _ from hbox,
      show draft.table.get? 14 = _ from hdeclared]
  refine ⟨draft, hdraft, ⟨"Box", 14, by decide +kernel, by decide +kernel, by decide +kernel,
    hnames.typeNames ▸ hbound.1, .inr ?_⟩, ?_, ?_, hitem, hpair⟩
  · rw [TypeTable.shapeWithin_eq_of_leaf hleaf]
    exact hbox
  · rw [Draft.paramsOf, hnames.typeParams]
    exact congrArg (fun params => (params.getD []).map (·.2)) hbound.2.1
  · rw [Background.parameterNamed?_congr hnames]
    exact hbound.2.2

/-- Both member expressions are answered in their turns. -/
theorem answersInTurn_boxOfPairs :
    let background := (SyntaxTree.ofDocument boxOfPairs).background .empty {}
    background.AnswersInTurn 14 ∧ background.AnswersInTurn 18 := by
  intro background
  have hturns : [14, 18].Sublist background.turns := by decide +kernel
  exact ⟨.of_mem_turns Prelude.isClosed_empty (hturns.subset (by simp)),
    .of_mem_turns Prelude.isClosed_empty (hturns.subset (by simp))⟩

/-- There `b.item` is what the base class declares, seen through both classes. -/
theorem exposes_of_model?_boxOfPairs :
    let tree := SyntaxTree.ofDocument boxOfPairs
    let background := tree.background .empty {}
    ∃ bindings chronicle, tree.model? .empty {} = some bindings ∧
      background.chronicle? = some chronicle ∧ chronicle.draft.bindings = bindings ∧
      background.AnswersInTurn 14 ∧ bindings.nodeTypes[15]? = some 19 ∧
      background.Applies chronicle.draft 5 [.string] (bindings.table.shapeWithin 33 19) ∧
      background.Exposes chronicle.draft "item" 32 19 (some 22) ∧
      bindings.nodeTypes[14]? = some 22 ∧ bindings.table.get? 22 = some (.union [20, .null]) ∧
        bindings.table.get? 20 = some (.array .string) := by
  intro tree background
  obtain ⟨draft, hdraft, happlies, -, -, ⟨hobject, hnode, hitem⟩, -⟩ := exists_finish_boxOfPairs
  have hbindings : tree.model? .empty {} = some draft.bindings :=
    Option.bind_eq_some_iff.mpr ⟨draft, hdraft, rfl⟩
  obtain ⟨chronicle, hchronicle, hend, hexposes⟩ :=
    SyntaxTree.exposes_of_model? boxOfPairs (.inl rfl) {} hbindings
  obtain ⟨rest, hsame, -⟩ := background.exists_chronicle Prelude.isClosed_empty
    (SyntaxTree.linked_ofDocument boxOfPairs) hdraft
  obtain rfl := Option.some.inj (hchronicle.symm.trans hsame)
  have hitemExposes := hexposes 14 15 16 "item" 19 construct?_boxOfPairs.1 (by decide +kernel)
    hobject answersInTurn_boxOfPairs.1
  rw [hnode] at hitemExposes
  exact ⟨_, _, hbindings, hchronicle, rfl, answersInTurn_boxOfPairs.1, hobject, happlies,
    hitemExposes, hnode, hitem⟩

/-- **The parameter in a tuple is left as it is**: the type of `b.pair` is not what `Box` declares,
with the argument in place of the parameter. -/
theorem not_denotesWith_boxOfPairs :
    let tree := SyntaxTree.ofDocument boxOfPairs
    let background := tree.background .empty {}
    ∃ bindings chronicle member written type, tree.model? .empty {} = some bindings ∧
      background.chronicle? = some chronicle ∧ chronicle.draft.bindings = bindings ∧
      background.AnswersInTurn 18 ∧ bindings.nodeTypes[19]? = some 19 ∧
      background.Applies chronicle.draft 5 [.string] (bindings.table.shapeWithin 33 19) ∧
      (tree.ownMembers 5).find? (·.name == "pair") = some member ∧ member.kind = .property ∧
      member.written = some written ∧ written.nesting < 32 ∧
      background.parametersIn chronicle.draft member.site true written ⊆ chronicle.draft.paramsOf 5 ∧
      bindings.nodeTypes[18]? = some type ∧
        ¬background.DenotesWith chronicle.draft (givenFor (chronicle.draft.paramsOf 5) [.string])
          member.site written type := by
  intro tree background
  obtain ⟨draft, hdraft, happlies, hparams, hparam, -, hobject, hnode, hpair⟩ :=
    exists_finish_boxOfPairs
  have hbindings : tree.model? .empty {} = some draft.bindings :=
    Option.bind_eq_some_iff.mpr ⟨draft, hdraft, rfl⟩
  obtain ⟨rest, hchronicle, -⟩ := background.exists_chronicle Prelude.isClosed_empty
    (SyntaxTree.linked_ofDocument boxOfPairs) hdraft
  have hfound : ((tree.ownMembers 5).find? (·.name == "pair")).map
      (fun member => (member.kind, member.site, member.written)) =
        some (.property, 7, some (.tuple [.named "T" []])) := by
    decide +kernel
  obtain ⟨⟨name, kind, site, written, source⟩, hfound, hmember⟩ := Option.map_eq_some_iff.mp hfound
  simp only [Prod.mk.injEq] at hmember
  obtain ⟨rfl, rfl, rfl⟩ := hmember
  refine ⟨_, _, _, _, _, hbindings, hchronicle, rfl, answersInTurn_boxOfPairs.2, hobject, happlies,
    hfound, rfl, rfl, by simp [TypeExpr.nesting, TypeExpr.nestingEach], ?_, hnode, ?_⟩
  · rw [hparams, Background.parametersIn_tuple hparam]
    exact List.Subset.refl _
  · rw [hparams]
    exact Background.not_denotesWith_tuple hparam hpair (by decide)

end StreamLint
