import StreamLint.Proofs.Model.Scoping
/-!
# Values with a written type

A name that refers to a variable or a parameter with a written type has the type that is written
(`StreamLint.Background.TypesSymbols.exists_typeOf?`). If the written type is the name of a declared
type, this is the declared type, unless it is the name of a generic parameter at the place where it
is written (`StreamLint.SyntaxTree.IsAnnotated`).

Which names are those of generic parameters can be seen in the file: what is noted for a declaration
when it gets its place is called as it has been written (`StreamLint.Background.notesParams_bound`).
-/

namespace StreamLint

namespace SyntaxTree

variable (tree : SyntaxTree)

/-- The generic parameters that a node declares. -/
def genericsOf (node : NodeId) : List TypeParameter :=
  match (tree.construct? node).bind tree.genericDeclaration? with
  | some (_, params) => params
  | none => []

/-- Seen from a node, the name is that of a generic parameter. -/
def IsGenericAt (site : NodeId) (name : String) : Prop :=
  ∃ node ∈ tree.selfAndAncestors site, ∃ param ∈ tree.genericsOf node, param.name = name

instance (site : NodeId) (name : String) : Decidable (tree.IsGenericAt site name) :=
  inferInstanceAs (Decidable
    (∃ node ∈ tree.selfAndAncestors site, ∃ param ∈ tree.genericsOf node, param.name = name))

/-- The written type of a variable or a parameter. -/
def annotation? (binding : NodeId) : Option TypeExpr :=
  match tree.construct? binding with
  | some (.variableDeclarator _ written _) | some (.parameter _ written _ _) => written
  | _ => none

/-- **The node is a value that is annotated with the name of a type**: a name, other than that of a
property that is read, which refers to a variable or a parameter with that written type. The name of
the type is none of a generic parameter there. -/
structure IsAnnotated (type : String) (node : NodeId) : Prop where
  /-- The node is reached from the root. -/
  reached : tree.IsReached node
  /-- The node is not the property that its parent reads. -/
  not_property : ¬tree.IsPropertyOfParent node
  /-- What the node refers to has the written type. -/
  written : ∃ name scope binding, tree.nameAt? node = some name ∧
    tree.scopeOf? name node = some scope ∧ tree.firstBinding? ⟨scope, name⟩ = some binding ∧
      tree.annotation? binding = some (.named type []) ∧ ¬tree.IsGenericAt binding type

end SyntaxTree

namespace Background

open Draft

variable {background : Background} {draft new : Draft}

/-! ### Generic parameters -/

/-- **Generic parameters are noted by their names**, for the nodes that declare them. -/
def NotesParams (background : Background) (draft : Draft) : Prop :=
  ∀ (node : NodeId) (params : List (String × TypeId)), draft.typeParams[node]? = some params →
    params.map (·.1) = (background.tree.genericsOf node).map (·.name)

theorem NotesParams.congr (h : background.NotesParams draft)
    (hnew : new.typeParams = draft.typeParams) : background.NotesParams new := by
  intro node params hparams
  exact h node params (hnew ▸ hparams)

/-- What is no generic parameter at a node is looked up among the declared types. -/
theorem NotesParams.parameterNamed?_eq_none (h : background.NotesParams draft) {site : NodeId}
    {name : String} (hnot : ¬background.tree.IsGenericAt site name) :
    background.parameterNamed? draft name site = none := by
  refine List.findSome?_eq_none_iff.mpr fun node hnode => ?_
  cases hparams : draft.typeParams[node]? with
  | none => rfl
  | some params =>
    have hfind : params.find? (·.1 == name) = none := by
      refine List.find?_eq_none.mpr fun param hparam => ?_
      have hmem : param.1 ∈ (background.tree.genericsOf node).map (·.name) :=
        h node params hparams ▸ List.mem_map_of_mem hparam
      obtain ⟨written, hwritten, hname⟩ := List.mem_map.mp hmem
      exact fun heq => hnot ⟨node, hnode, written, hwritten, hname.trans (eq_of_beq heq)⟩
    simp [hfind]

theorem after_declareParams_names (draft : Draft) (params : List TypeParameter) :
    After (declareParams params) draft fun ids new =>
      new.typeParams = draft.typeParams ∧ ids.map (·.1) = params.map (·.name) := by
  induction params generalizing draft with
  | nil => exact After.pure ⟨rfl, rfl⟩
  | cons param rest ih =>
    have hpush : After (Draft.push (.parameter param.name none)) draft fun _ new =>
        new.typeParams = draft.typeParams := rfl
    refine hpush.bind fun id new hnew => (ih new).bind ?_
    rintro ids last ⟨hlast, hids⟩
    exact After.pure ⟨hlast.trans hnew, by simp [hids]⟩

theorem after_declareType_typeParams (draft : Draft) (node : NodeId) (isClass : Bool)
    (name? : Option String) :
    After (declareType node isClass name?) draft fun _ new =>
      new.typeParams = draft.typeParams := by
  have hnote : ∀ (id : TypeId) (now : Draft), now.typeParams = draft.typeParams →
      After (do noteClass node id; return some id) now fun _ new =>
        new.typeParams = draft.typeParams :=
    fun id now hnow => hnow
  cases name? with
  | some name =>
    have hdeclare : After (declareName name) draft fun _ new =>
        new.typeParams = draft.typeParams := by
      unfold declareName
      refine After.get ?_
      split
      next => exact After.pure rfl
      next => exact rfl
    refine hdeclare.bind fun id new hnew => ?_
    cases isClass with
    | true => exact hnote id new hnew
    | false => exact hnew
  | none =>
    cases isClass with
    | true => exact hnote _ _ rfl
    | false => exact After.pure rfl

theorem NotesParams.after_declareNode (h : background.NotesParams draft) (node : NodeId) :
    After (background.declareNode node) draft fun _ new => background.NotesParams new := by
  simp only [declareNode]
  split
  next construct hconstruct =>
    split
    next name? params hgeneric =>
      refine (after_declareParams_names draft params).bind ?_
      rintro ids new ⟨hnew, hids⟩
      have hold := h.congr hnew
      have hinsert : ∀ (other : NodeId) (noted : List (String × TypeId)),
          (new.typeParams.insert node ids)[other]? = some noted →
            noted.map (·.1) = (background.tree.genericsOf other).map (·.name) := by
        intro other noted hnoted
        rw [Std.TreeMap.getElem?_insert] at hnoted
        split at hnoted
        next heq =>
          obtain rfl := Std.LawfulEqCmp.compare_eq_iff_eq.mp heq
          obtain rfl := Option.some.inj hnoted
          simpa [SyntaxTree.genericsOf, hconstruct, hgeneric] using hids
        next => exact hold other noted hnoted
      have hnote : After (noteParams node ids) new fun _ noted => background.NotesParams noted := by
        simp only [noteParams]
        split
        · exact hold
        · exact hinsert
      refine hnote.bind fun _ noted hnoted => ?_
      exact (after_declareType_typeParams noted node _ name?).imp fun _ last hlast =>
        hnoted.congr hlast
    next => exact After.pure h
  next => exact After.pure h

theorem NotesParams.after_declareAll (h : background.NotesParams draft) (nodes : List NodeId) :
    After (background.declareAll nodes) draft fun _ new => background.NotesParams new := by
  induction nodes generalizing draft with
  | nil => exact After.pure h
  | cons node rest ih =>
    simp only [declareAll]
    refine (h.after_declareNode node).bind fun id? new hnew => ?_
    cases id? with
    | some id => exact (ih hnew).bind fun _ last hlast => After.pure hlast
    | none => exact ih hnew

/-- **The generic parameters of a file** are noted when the first expression is typed. -/
theorem notesParams_bound (hprelude : background.prelude.IsClosed) :
    background.NotesParams background.bound := by
  have hstart : background.NotesParams background.start := by
    intro node params hparams
    simp [start] at hparams
  have hplaced : background.NotesParams background.placed :=
    hstart.after_declareAll background.tree.preorder
  exact hplaced.congr (sameNames_bound hprelude).typeParams

/-! ### Annotated values -/

/-- **A value that is annotated with the name of a type** has a type that the name denotes where it
is written. -/
theorem TypesSymbols.exists_typeOf? {awaited : TypeId → Deferred → Prop}
    (h : background.TypesSymbols draft awaited) (hnotes : background.NotesParams draft)
    {type : String} {node : NodeId} (hannotated : background.tree.IsAnnotated type node)
    (hnames : ∀ name, background.tree.nameAt? node = some name →
      draft.bindings.ResolvesName background.tree background.prelude node name) :
    ∃ id, draft.bindings.model.typeOf? node = some id ∧
      background.NameDenotes draft type [] id := by
  obtain ⟨name, scope, binding, hname, hscope, hbinding, hwritten, hgeneric⟩ := hannotated.written
  obtain ⟨symbol, id, hsymbol, -, hid, htype⟩ :=
    (hnames name hname).bound hannotated.not_property scope hscope
  obtain ⟨first, other, hfirst, hother, hgives⟩ := h symbol _ hsymbol
  obtain rfl : first = binding := Option.some.inj (hfirst.symm.trans hbinding)
  obtain rfl : other = id := Option.some.inj (hother.symm.trans hid)
  refine ⟨other, htype, ?_⟩
  have hdenotes : background.Denotes draft first (.named type []) other := by
    cases hgives with
    | ofVariable hconstruct hprovides | ofParameter hconstruct hprovides =>
      simp only [SyntaxTree.annotation?, hconstruct] at hwritten
      simpa only [hwritten, Provides] using hprovides
    | ofFunction hconstruct => simp [SyntaxTree.annotation?, hconstruct] at hwritten
  simp only [Denotes, hnotes.parameterNamed?_eq_none hgeneric] at hdenotes
  obtain ⟨ids, hids, hnamed⟩ := hdenotes
  obtain rfl : ids = [] := hids
  exact hnamed

end Background

end StreamLint
