import StreamLint.Proofs.Model.Groundwork
/-!
# The places of declared types

Before a declaration is defined, all of them get places. Declarations of one name share a place, and
no other declaration has it (`StreamLint.Background.IsPlaced`); until it is defined, it reads as
unknown. Generic parameters have places of their own. Their bounds are resolved before the first
declaration is defined, which leaves the places of the declarations as they are.
-/

namespace StreamLint

namespace SyntaxTree

/-- The name that a node declares a type by. A class may have none. -/
def typeName? (tree : SyntaxTree) (node : NodeId) : Option String := do
  let construct ← tree.construct? node
  let (name, _) ← tree.genericDeclaration? construct
  name

/-- The declarations of a name, in the order of the text. -/
def declarationsOf (tree : SyntaxTree) (name : String) : List NodeId :=
  tree.preorder.filter fun node => tree.typeName? node = some name

end SyntaxTree

namespace Background

open Draft

/-- The nodes that have the place. -/
def nodesAt (declarations : List (NodeId × TypeId)) (id : TypeId) : List NodeId :=
  (declarations.filter fun declaration => declaration.2 = id).map (·.1)

theorem nodesAt_append (declarations others : List (NodeId × TypeId)) (id : TypeId) :
    nodesAt (declarations ++ others) id = nodesAt declarations id ++ nodesAt others id := by
  simp [nodesAt]

theorem mem_nodesAt {declarations : List (NodeId × TypeId)} {id : TypeId} {node : NodeId} :
    node ∈ nodesAt declarations id ↔ (node, id) ∈ declarations := by
  simp [nodesAt]

/-- **The places that have been taken** for the declarations among some nodes: those of one name
share a place, which reads as unknown. -/
structure IsPlaced (background : Background) (draft : Draft) (nodes : List NodeId)
    (declarations : List (NodeId × TypeId)) : Prop where
  /-- A declared type is unknown. -/
  unknown : ∀ declaration ∈ declarations, draft.table.get? declaration.2 = some .unknown
  /-- So is a type that has a name. -/
  unknown_name : ∀ (name : String) (id : TypeId), draft.typeNames[name]? = some id →
    draft.table.get? id = some .unknown
  /-- The declarations at the place of a name are those of the name. -/
  at_name : ∀ (name : String) (id : TypeId), draft.typeNames[name]? = some id →
    nodesAt declarations id = nodes.filter fun node => background.tree.typeName? node = some name
  /-- Different names have different places. -/
  unique : ∀ (name name' : String) (id : TypeId), draft.typeNames[name]? = some id →
    draft.typeNames[name']? = some id → name = name'
  /-- What has been declared has a place. -/
  named : ∀ node ∈ nodes, ∀ name, background.tree.typeName? node = some name →
    draft.typeNames[name]? ≠ none
  /-- Generic parameters are at the places that have been noted for them. -/
  params : ∀ (node : NodeId) (params : List (String × TypeId)),
    draft.typeParams[node]? = some params → ∀ param ∈ params,
      ∃ name bound, draft.table.get? param.2 = some (.parameter name bound)

variable {background : Background} {draft new : Draft} {nodes : List NodeId}
  {declarations : List (NodeId × TypeId)}

namespace IsPlaced

theorem start : background.IsPlaced background.start [] [] := by
  constructor <;> simp [Background.start]

theorem extend {sources : Deferred → Prop} (h : background.IsPlaced draft nodes declarations)
    (hnew : background.Extends sources draft new) :
    background.IsPlaced new nodes declarations where
  unknown declaration hmem := hnew.get?_eq_some (h.unknown declaration hmem)
  unknown_name name id hid :=
    hnew.get?_eq_some (h.unknown_name name id (hnew.typeNames_eq ▸ hid))
  at_name name id hid := h.at_name name id (hnew.typeNames_eq ▸ hid)
  unique name name' id hid hid' :=
    h.unique name name' id (hnew.typeNames_eq ▸ hid) (hnew.typeNames_eq ▸ hid')
  named node hnode name hname := by
    rw [hnew.typeNames_eq]
    exact h.named node hnode name hname
  params node params hparams param hparam := by
    rw [hnew.typeParams_eq] at hparams
    obtain ⟨name, bound, hat⟩ := h.params node params hparams param hparam
    exact ⟨name, bound, hnew.get?_eq_some hat⟩

/-! ### Places for declarations -/

/-- A node that declares no name, with a place of its own or without one. -/
theorem concat_unnamed (h : background.IsPlaced draft nodes declarations) {node : NodeId}
    (hname : background.tree.typeName? node = none) (id? : Option TypeId)
    (hid : ∀ id ∈ id?, draft.table.get? id = some .unknown ∧
      ∀ name : String, draft.typeNames[name]? ≠ some id) :
    background.IsPlaced draft (nodes ++ [node]) (declarations ++ (id?.map (node, ·)).toList) := by
  refine { h with unknown := ?_, at_name := fun name id hat => ?_, named := ?_ }
  · intro declaration hmem
    rcases List.mem_append.mp hmem with hmem | hmem
    · exact h.unknown declaration hmem
    · obtain ⟨id, hid?, rfl⟩ := Option.map_eq_some_iff.mp (Option.mem_toList.mp hmem)
      exact (hid id hid?).1
  · have hother : nodesAt (id?.map (node, ·)).toList id = [] := by
      cases id? with
      | none => rfl
      | some own =>
        have hne : own ≠ id := fun heq => (hid own rfl).2 name (heq ▸ hat)
        simp [nodesAt, hne]
    simp [nodesAt_append, List.filter_append, hother, h.at_name name id hat, hname]
  · intro other hmem name hother
    rcases List.mem_append.mp hmem with hmem | hmem
    · exact h.named other hmem name hother
    · rw [List.mem_singleton.mp hmem, hname] at hother
      cases hother

/-- A node that declares a name which has a place. -/
theorem concat_named (h : background.IsPlaced draft nodes declarations) {node : NodeId}
    {name : String} (hname : background.tree.typeName? node = some name) {id : TypeId}
    (hid : draft.typeNames[name]? = some id) :
    background.IsPlaced draft (nodes ++ [node]) (declarations ++ [(node, id)]) := by
  refine { h with unknown := ?_, at_name := fun name' id' hat => ?_, named := ?_ }
  · intro declaration hmem
    rcases List.mem_append.mp hmem with hmem | hmem
    · exact h.unknown declaration hmem
    · rw [List.mem_singleton.mp hmem]
      exact h.unknown_name name id hid
  · have hsame : id = id' ↔ name = name' := by
      refine ⟨?_, ?_⟩
      · rintro rfl
        exact h.unique name name' id hid hat
      · rintro rfl
        exact Option.some.inj (hid.symm.trans hat)
    rw [nodesAt_append, List.filter_append, h.at_name name' id' hat]
    by_cases heq : name = name' <;> simp [nodesAt, hname, hsame, heq]
  · intro other hmem name' hother
    rcases List.mem_append.mp hmem with hmem | hmem
    · exact h.named other hmem name' hother
    · rw [List.mem_singleton.mp hmem, hname] at hother
      obtain rfl := Option.some.inj hother
      simp [hid]

/-- A new place, for a name that has none. -/
theorem after_declareName (h : background.IsPlaced draft nodes declarations) (name : String) :
    After (declareName name) draft fun id new =>
      background.IsPlaced new nodes declarations ∧ new.typeNames[name]? = some id := by
  unfold declareName
  refine After.get ?_
  split
  next id hid => exact After.pure ⟨h, hid⟩
  next hnone =>
    have hpush : background.Extends (fun _ => True) draft ((Draft.push .unknown).run draft).2 :=
      .push_other (by simp)
    have hunknown : ((Draft.push .unknown).run draft).2.table.get? draft.table.size =
        some .unknown := TypeTable.get?_push ..
    have hfree : ∀ id : Nat, draft.table.get? id = some .unknown → id ≠ draft.table.size :=
      fun id hid => Nat.ne_of_lt (TypeTable.has_of_get? hid)
    -- the names that are there keep their places, and the new one has the place at the end
    have hcases : ∀ (other : String) (id : TypeId),
        (draft.typeNames.insert name draft.table.size)[other]? = some id →
          other = name ∧ id = draft.table.size ∨ other ≠ name ∧ draft.typeNames[other]? = some id := by
      intro other id hid
      rw [Std.TreeMap.getElem?_insert] at hid
      split at hid
      next heq =>
        exact .inl ⟨(Std.LawfulEqCmp.compare_eq_iff_eq.mp heq).symm, (Option.some.inj hid).symm⟩
      next hne =>
        refine .inr ⟨?_, hid⟩
        rintro rfl
        exact hne Std.ReflCmp.compare_self
    refine ⟨?_, Std.TreeMap.getElem?_insert_self⟩
    refine { h.extend hpush with unknown_name := ?_, at_name := ?_, unique := ?_, named := ?_ }
    · intro other id hid
      rcases hcases other id hid with ⟨-, rfl⟩ | ⟨-, hid⟩
      · exact hunknown
      · exact (h.extend hpush).unknown_name other id hid
    · intro other id hid
      rcases hcases other id hid with ⟨rfl, rfl⟩ | ⟨-, hid⟩
      · -- neither is there a declaration at the new place, nor one of the name
        rw [nodesAt, List.filter_eq_nil_iff.mpr, List.filter_eq_nil_iff.mpr, List.map_nil]
        · intro node hnode
          simpa using fun hname => absurd hnone (h.named node hnode _ hname)
        · intro declaration hmem
          simpa using hfree _ (h.unknown declaration hmem)
      · exact h.at_name other id hid
    · intro other other' id hid hid'
      rcases hcases other id hid with ⟨rfl, rfl⟩ | ⟨-, hold⟩ <;>
        rcases hcases other' _ hid' with ⟨rfl, heq⟩ | ⟨-, hold'⟩
      · rfl
      · exact absurd rfl (hfree _ (h.unknown_name other' _ hold'))
      · exact absurd heq (hfree _ (h.unknown_name other _ hold))
      · exact h.unique other other' id hold hold'
    · intro node hnode other hother hnot
      have hnot : (draft.typeNames.insert name draft.table.size)[other]? = none := hnot
      rw [Std.TreeMap.getElem?_insert] at hnot
      split at hnot
      · cases hnot
      · exact h.named node hnode other hother hnot

theorem after_declareType (h : background.IsPlaced draft nodes declarations) {node : NodeId}
    {isClass : Bool} {name : Option String} (hname : background.tree.typeName? node = name) :
    After (declareType node isClass name) draft fun id? new =>
      background.IsPlaced new (nodes ++ [node]) (declarations ++ (id?.map (node, ·)).toList) := by
  have hnote : ∀ (id : TypeId) (now : Draft),
      background.IsPlaced now (nodes ++ [node]) (declarations ++ [(node, id)]) →
        After (do noteClass node id; return some id) now fun id? new =>
          background.IsPlaced new (nodes ++ [node]) (declarations ++ (id?.map (node, ·)).toList) :=
    fun id now hnow => { hnow with }
  cases name with
  | some name =>
    refine (h.after_declareName name).bind ?_
    rintro id new ⟨hnew, hid⟩
    have hplaced := hnew.concat_named hname hid
    cases isClass with
    | true => exact hnote id new hplaced
    | false => exact hplaced
  | none =>
    cases isClass with
    | true =>
      have hpush : background.Extends (fun _ => True) draft ((Draft.push .unknown).run draft).2 :=
        .push_other (by simp)
      refine hnote _ _ ((h.extend hpush).concat_unnamed hname (some draft.table.size) ?_)
      rintro _ ⟨⟩
      refine ⟨TypeTable.get?_push .., fun name hat => ?_⟩
      rw [hpush.typeNames_eq] at hat
      exact Nat.lt_irrefl _ (TypeTable.has_of_get? (h.unknown_name name _ hat))
    | false => exact h.concat_unnamed hname none (by simp)

theorem after_declareParams (draft : Draft) (params : List TypeParameter) :
    After (declareParams params) draft fun ids new =>
      background.Extends (fun _ => True) draft new ∧
        ∀ id ∈ ids, ∃ name bound, new.table.get? id.2 = some (.parameter name bound) := by
  induction params generalizing draft with
  | nil => exact After.pure ⟨.refl draft, by simp⟩
  | cons param rest ih =>
    have hpush : After (Draft.push (.parameter param.name none)) draft fun id new =>
        background.Extends (fun _ => True) draft new ∧
          new.table.get? id = some (.parameter param.name none) :=
      ⟨.push_other (by simp), TypeTable.get?_push ..⟩
    refine hpush.bind ?_
    rintro id new ⟨hnew, hid⟩
    refine (ih new).bind ?_
    rintro ids last ⟨hlast, hids⟩
    refine After.pure ⟨hnew.trans hlast, List.forall_mem_cons.mpr ⟨?_, hids⟩⟩
    exact ⟨_, _, hlast.get?_eq_some hid⟩

theorem after_noteParams (h : background.IsPlaced draft nodes declarations) (node : NodeId)
    {ids : List (String × TypeId)}
    (hids : ∀ id ∈ ids, ∃ name bound, draft.table.get? id.2 = some (.parameter name bound)) :
    After (noteParams node ids) draft fun _ new =>
      background.IsPlaced new nodes declarations := by
  have hparams : ∀ (other : NodeId) (params : List (String × TypeId)),
      (draft.typeParams.insert node ids)[other]? = some params → ∀ param ∈ params,
        ∃ name bound, draft.table.get? param.2 = some (.parameter name bound) := by
    intro other params hparams
    rw [Std.TreeMap.getElem?_insert] at hparams
    split at hparams
    · exact Option.some.inj hparams ▸ hids
    · exact h.params other params hparams
  simp only [noteParams]
  split
  · exact h
  · exact { h with params := hparams }

theorem after_declareNode (h : background.IsPlaced draft nodes declarations) (node : NodeId) :
    After (background.declareNode node) draft fun id? new =>
      background.IsPlaced new (nodes ++ [node]) (declarations ++ (id?.map (node, ·)).toList) := by
  have hnothing : background.tree.typeName? node = none →
      background.IsPlaced draft (nodes ++ [node])
        (declarations ++ ((none : Option TypeId).map (node, ·)).toList) :=
    fun hname => h.concat_unnamed hname none (by simp)
  simp only [declareNode]
  split
  next construct hconstruct =>
    split
    next name params hgeneric =>
      have hname : background.tree.typeName? node = name := by
        simp [SyntaxTree.typeName?, hconstruct, hgeneric]
      have hparams : After (declareParams params) draft fun ids new =>
          background.Extends (fun _ => True) draft new ∧
            ∀ id ∈ ids, ∃ name bound, new.table.get? id.2 = some (.parameter name bound) :=
        after_declareParams draft params
      refine hparams.bind ?_
      rintro ids new ⟨hnew, hids⟩
      refine ((h.extend hnew).after_noteParams node hids).bind fun _ noted hnoted => ?_
      exact hnoted.after_declareType hname
    next hnone =>
      refine After.pure (hnothing ?_)
      rcases hgeneric : background.tree.genericDeclaration? construct with _ | ⟨name, params⟩
      · simp [SyntaxTree.typeName?, hconstruct, hgeneric]
      · exact (hnone _ _ hgeneric).elim
  next hnone =>
    refine After.pure (hnothing ?_)
    rcases hconstruct : background.tree.construct? node with _ | construct
    · simp [SyntaxTree.typeName?, hconstruct]
    · exact (hnone _ hconstruct).elim

/-- **Taking places for the declarations** among the nodes. -/
theorem after_declareAll (h : background.IsPlaced draft nodes declarations) (more : List NodeId) :
    After (background.declareAll more) draft fun others new =>
      background.IsPlaced new (nodes ++ more) (declarations ++ others) := by
  induction more generalizing draft nodes declarations with
  | nil => exact After.pure (by simpa using h)
  | cons node rest ih =>
    simp only [declareAll]
    refine (h.after_declareNode node).bind fun id? new hnew => ?_
    have hrest := ih hnew
    rw [List.append_assoc, List.singleton_append] at hrest
    cases id? with
    | some id =>
      refine hrest.bind fun others last hlast => After.pure ?_
      simpa using hlast
    | none =>
      refine hrest.imp fun others last hlast => ?_
      simpa using hlast

/-! ### Bounds of generic parameters -/

/-- Defining the place of a generic parameter. -/
theorem define_parameter (h : background.IsPlaced draft nodes declarations) {id : TypeId}
    (hid : ∃ name bound, draft.table.get? id = some (.parameter name bound)) (name : String)
    (bound : Option TypeId) :
    background.IsPlaced ((Draft.define id (.parameter name bound)).run draft).2 nodes
      declarations := by
  obtain ⟨old, oldBound, hid⟩ := hid
  have hunknown : ∀ other : TypeId, draft.table.get? other = some .unknown →
      (draft.table.define id (.parameter name bound)).get? other = some .unknown := by
    intro other hother
    refine (TypeTable.get?_define_of_ne ?_).trans hother
    rintro rfl
    cases hid.symm.trans hother
  refine { h with unknown := ?_, unknown_name := ?_, params := ?_ }
  · exact fun declaration hmem => hunknown _ (h.unknown declaration hmem)
  · exact fun name id hat => hunknown _ (h.unknown_name name id hat)
  · intro node params hparams param hparam
    by_cases heq : id = param.2
    · exact ⟨name, bound, heq ▸ Array.getElem?_setIfInBounds_self_of_lt (TypeTable.has_of_get? hid)⟩
    · obtain ⟨other, otherBound, hat⟩ := h.params node params hparams param hparam
      exact ⟨other, otherBound, (TypeTable.get?_define_of_ne heq).trans hat⟩

theorem after_defineBounds (h : background.IsPlaced draft nodes declarations) (site : NodeId)
    {params : List ((String × TypeId) × TypeParameter)}
    (hparams : ∀ param ∈ params, ∃ (node : NodeId) (noted : List (String × TypeId)),
      draft.typeParams[node]? = some noted ∧ param.1 ∈ noted) :
    After (background.defineBounds site params) draft fun _ new =>
      background.IsPlaced new nodes declarations ∧ draft.SameNames new := by
  induction params generalizing draft with
  | nil => exact ⟨h, .refl draft⟩
  | cons param rest ih =>
    obtain ⟨⟨name, id⟩, param⟩ := param
    obtain ⟨hid, hrest⟩ := List.forall_mem_cons.mp hparams
    simp only [defineBounds]
    split
    next written _ =>
      have hresolve : background.Adds (fun _ => True) (background.resolve site written) :=
        adds_resolve site written
      refine (hresolve.after draft).bind fun bound new hnew => ?_
      have hextended := h.extend hnew
      have hplace : ∃ name bound, new.table.get? id = some (.parameter name bound) := by
        obtain ⟨node, noted, hnoted, hmem⟩ := hid
        exact hextended.params node noted (hnew.typeParams_eq ▸ hnoted) _ hmem
      have hdefine : After (Draft.define id (.parameter name (some bound))) new fun _ now =>
          background.IsPlaced now nodes declarations ∧ draft.SameNames now :=
        ⟨hextended.define_parameter hplace name (some bound), hnew.sameNames.trans ⟨rfl, rfl⟩⟩
      refine hdefine.bind ?_
      rintro _ now ⟨hnow, hnames⟩
      refine (ih hnow fun param hmem => ?_).imp fun _ _ hlast => ⟨hlast.1, hnames.trans hlast.2⟩
      rw [hnames.typeParams]
      exact hrest param hmem
    next => exact ih h hrest

/-- **Resolving the bounds of generic parameters** leaves the places of the declarations as they
are. -/
theorem after_defineAllBounds (h : background.IsPlaced draft nodes declarations)
    (sites : List NodeId) :
    After (background.defineAllBounds sites) draft fun _ new =>
      background.IsPlaced new nodes declarations ∧ draft.SameNames new := by
  induction sites generalizing draft with
  | nil => exact ⟨h, .refl draft⟩
  | cons node rest ih =>
    simp only [defineAllBounds]
    refine After.get ?_
    split
    next declared _ =>
      refine (h.after_defineBounds node fun param hparam => ?_).bind ?_
      · obtain ⟨hmem, -⟩ := List.of_mem_zip hparam
        rcases hat : draft.typeParams[node]? with _ | params
        · simp [hat] at hmem
        · exact ⟨node, params, hat, by simpa [hat] using hmem⟩
      · rintro _ new ⟨hnew, hnames⟩
        exact (ih hnew).imp fun _ _ hlast => ⟨hlast.1, hnames.trans hlast.2⟩
    next => exact ih h

end IsPlaced

end Background

end StreamLint
