import StreamLint.Proofs.Model.Declared
import StreamLint.Proofs.Model.Extension
import StreamLint.Proofs.Syntax.Reach
/-!
# The groundwork of a model

Before the first expression is typed, the types of a file are declared and its names are bound. This
file says what is there at that point, besides a closed draft:

* the types of the prelude are as they were, because a place is defined only if the file took it
  (`StreamLint.Background.IsGround`);
* nothing has been found out about expressions, and what is to be found out later comes from nodes
  that are reached from the root;
* each place taken for a class, an interface or an alias holds what a declaration of the file
  declares there (`StreamLint.Background.HoldsDeclared`).
-/

namespace StreamLint

/-- The node that a deferred type is to be found out from. -/
def Deferred.node : Deferred → NodeId
  | .expression node | .body node => node

/-- The source is at a node that is reached from the root. -/
def SyntaxTree.ReachesSource (tree : SyntaxTree) (source : Deferred) : Prop :=
  tree.IsReached source.node

/-- The construct declares a type of its own. -/
def Construct.declaresType : Construct → Bool
  | .classDeclaration .. | .interfaceDeclaration .. | .typeAliasDeclaration .. => true
  | _ => false

namespace Draft

/-- The declared types and the generic parameters have the same names in both drafts. -/
structure SameNames (old new : Draft) : Prop where
  /-- The declared types. -/
  typeNames : new.typeNames = old.typeNames
  /-- The generic parameters. -/
  typeParams : new.typeParams = old.typeParams

theorem SameNames.refl (draft : Draft) : draft.SameNames draft := ⟨rfl, rfl⟩

theorem SameNames.trans {a b c : Draft} (hab : a.SameNames b) (hbc : b.SameNames c) :
    a.SameNames c :=
  ⟨hbc.typeNames.trans hab.typeNames, hbc.typeParams.trans hab.typeParams⟩

end Draft

namespace Background

open Draft

theorem Extends.sameNames {background : Background} {sources : Deferred → Prop} {old new : Draft}
    (h : background.Extends sources old new) : old.SameNames new :=
  ⟨h.typeNames_eq, h.typeParams_eq⟩

/-- **The groundwork**: the types of the prelude are as they were, the file has names for places of
its own only, and no expression has been looked at. -/
structure IsGround (background : Background) (draft : Draft) : Prop where
  /-- A type of the prelude is as it was. -/
  kept : ∀ id : Nat, background.prelude.table.Has id →
    draft.table.get? id = background.prelude.table.get? id
  /-- The declared types have places of the file. -/
  typeNames : ∀ (name : String) (id : TypeId), draft.typeNames[name]? = some id →
    ¬background.prelude.table.Has id
  /-- The generic parameters have places of the file. -/
  typeParams : ∀ (node : NodeId) (params : List (String × TypeId)),
    draft.typeParams[node]? = some params → ∀ param ∈ params, ¬background.prelude.table.Has param.2
  /-- What is to be found out later comes from reached nodes. -/
  deferred : ∀ (id : TypeId) (source : Deferred), draft.deferred[id]? = some source →
    background.tree.ReachesSource source
  /-- Nothing has been found out about expressions. -/
  inferred : ∀ node : NodeId, draft.inferred[node]? = none
  /-- No expression is being dealt with. -/
  inProgress : draft.inProgress = []

variable {background : Background} {draft new : Draft}

namespace IsGround

theorem start : background.IsGround background.start := by
  refine ⟨fun _ _ => rfl, ?_, ?_, ?_, ?_, rfl⟩ <;> simp [Background.start]

theorem size_le (h : background.IsGround draft) :
    background.prelude.table.size ≤ draft.table.size := by
  by_contra hlt
  have hhas : background.prelude.table.Has draft.table.size := Nat.lt_of_not_le hlt
  have hkept := h.kept _ hhas
  -- the place after the last one would be in use
  rw [TypeTable.get?, TypeTable.get?, Array.getElem?_eq_getElem hhas] at hkept
  exact Nat.lt_irrefl _ (TypeTable.has_of_get? hkept)

theorem has (h : background.IsGround draft) {id : Nat} (hid : background.prelude.table.Has id) :
    draft.table.Has id :=
  hid.mono h.size_le

/-- A place that is not in use is none of the prelude. -/
theorem not_has_of_not_has (h : background.IsGround draft) {id : Nat}
    (hid : ¬draft.table.Has id) : ¬background.prelude.table.Has id :=
  fun hprelude => hid (h.has hprelude)

theorem extend (h : background.IsGround draft)
    (hnew : background.Extends background.tree.ReachesSource draft new) :
    background.IsGround new where
  kept id hid := (hnew.get?_eq id (h.has hid)).trans (h.kept id hid)
  typeNames name id hid := h.typeNames name id (hnew.typeNames_eq ▸ hid)
  typeParams node params hparams := h.typeParams node params (hnew.typeParams_eq ▸ hparams)
  deferred id source hsource := by
    rcases hnew.deferred id source hsource with hold | ⟨-, -, hreached⟩
    · exact h.deferred id source hold
    · exact hreached
  inferred node := by rw [hnew.inferred_eq, h.inferred node]
  inProgress := hnew.inProgress_eq.trans h.inProgress

/-- Defining a place of the file. -/
theorem after_define (h : background.IsGround draft) {id : TypeId} (data : TypeEntry)
    (hid : ¬background.prelude.table.Has id) :
    After (Draft.define id data) draft fun _ new =>
      background.IsGround new ∧ draft.SameNames new ∧ new.table.size = draft.table.size ∧
        (∀ other : Nat, other ≠ id → new.table.get? other = draft.table.get? other) ∧
          (draft.table.Has id → new.table.get? id = some data) := by
  refine ⟨{ h with kept := fun other hother => ?_ }, ⟨rfl, rfl⟩, TypeTable.size_define ..,
    fun other hne => TypeTable.get?_define_of_ne (Ne.symm hne),
    fun hhas => Array.getElem?_setIfInBounds_self_of_lt hhas⟩
  have hne : id ≠ other := by
    rintro rfl
    exact hid hother
  exact (TypeTable.get?_define_of_ne hne).trans (h.kept other hother)

/-- A new place is one of the file. -/
theorem push (h : background.IsGround draft) {data : TypeEntry}
    (hdata : ∀ target arguments, data ≠ .reference target arguments) :
    After (Draft.push data) draft fun id new =>
      background.IsGround new ∧ ¬background.prelude.table.Has id :=
  ⟨h.extend (.push_other hdata), h.not_has_of_not_has (Nat.lt_irrefl _)⟩

/-! ### Places for declarations -/

theorem after_declareParams (h : background.IsGround draft) (params : List TypeParameter) :
    After (declareParams params) draft fun ids new =>
      background.IsGround new ∧ ∀ id ∈ ids, ¬background.prelude.table.Has id.2 := by
  induction params generalizing draft with
  | nil => exact After.pure ⟨h, by simp⟩
  | cons param rest ih =>
    refine (h.push (by simp)).bind ?_
    rintro id new ⟨hnew, hid⟩
    refine (ih hnew).bind ?_
    rintro ids last ⟨hlast, hids⟩
    exact After.pure ⟨hlast, List.forall_mem_cons.mpr ⟨hid, hids⟩⟩

theorem after_declareName (h : background.IsGround draft) (name : String) :
    After (declareName name) draft fun id new =>
      background.IsGround new ∧ ¬background.prelude.table.Has id := by
  unfold declareName
  refine After.get ?_
  split
  next id hid => exact After.pure ⟨h, h.typeNames name id hid⟩
  next =>
    refine (h.push (by simp)).bind ?_
    rintro id new ⟨hnew, hid⟩
    refine ⟨{ hnew with typeNames := fun other id' hid' => ?_ }, hid⟩
    have hid' : (new.typeNames.insert name id)[other]? = some id' := hid'
    rw [Std.TreeMap.getElem?_insert] at hid'
    split at hid'
    · exact Option.some.inj hid' ▸ hid
    · exact hnew.typeNames other id' hid'

theorem after_noteParams (h : background.IsGround draft) (node : NodeId)
    {ids : List (String × TypeId)} (hids : ∀ id ∈ ids, ¬background.prelude.table.Has id.2) :
    After (noteParams node ids) draft fun _ new => background.IsGround new := by
  have hparams : ∀ (other : NodeId) (params : List (String × TypeId)),
      (draft.typeParams.insert node ids)[other]? = some params →
        ∀ param ∈ params, ¬background.prelude.table.Has param.2 := by
    intro other params hparams
    rw [Std.TreeMap.getElem?_insert] at hparams
    split at hparams
    · exact Option.some.inj hparams ▸ hids
    · exact h.typeParams other params hparams
  simp only [noteParams]
  split
  · exact h
  · exact { h with typeParams := hparams }

theorem after_noteClass (h : background.IsGround draft) (node : NodeId) (id : TypeId) :
    After (noteClass node id) draft fun _ new => background.IsGround new :=
  { h with }

theorem after_declareType (h : background.IsGround draft) (node : NodeId) (isClass : Bool)
    (name : Option String) :
    After (declareType node isClass name) draft fun id? new => background.IsGround new ∧
      ∀ id ∈ id?, ¬background.prelude.table.Has id ∧ (name.isSome ∨ isClass = true) := by
  have hgiven : ∀ (id : TypeId) (now : Draft), background.IsGround now →
      ¬background.prelude.table.Has id → (name.isSome ∨ isClass = true) →
      After (pure (some id)) now fun id? new => background.IsGround new ∧
        ∀ id ∈ id?, ¬background.prelude.table.Has id ∧ (name.isSome ∨ isClass = true) := by
    intro id now hnow hid hdeclared
    refine After.pure ⟨hnow, ?_⟩
    rintro _ ⟨⟩
    exact ⟨hid, hdeclared⟩
  simp only [declareType]
  split
  next name =>
    refine (h.after_declareName name).bind ?_
    rintro id new ⟨hnew, hid⟩
    split
    · exact (hnew.after_noteClass node id).bind fun _ last hlast =>
        hgiven id last hlast hid (by simp)
    · exact hgiven id new hnew hid (by simp)
  next =>
    split
    next hclass =>
      refine (h.push (by simp)).bind ?_
      rintro id new ⟨hnew, hid⟩
      exact (hnew.after_noteClass node id).bind fun _ last hlast =>
        hgiven id last hlast hid (.inr hclass)
    next => exact After.pure ⟨h, by simp⟩

/-- A construct for which a place is taken declares a type: it has a name of its own or is a
class. -/
theorem declaresType_of_genericDeclaration? {construct : Construct} {name : Option String}
    {params : List TypeParameter}
    (h : background.tree.genericDeclaration? construct = some (name, params))
    (hdeclared : name.isSome ∨ (construct.kind == .classDeclaration) = true) :
    construct.declaresType = true := by
  cases construct with
  | functionDeclaration =>
    obtain ⟨rfl, -⟩ := Prod.mk.inj (Option.some.inj h)
    simp [Construct.kind] at hdeclared
  | classDeclaration => rfl
  | interfaceDeclaration => rfl
  | typeAliasDeclaration => rfl
  | _ => cases h

theorem after_declareNode (h : background.IsGround draft) (node : NodeId) :
    After (background.declareNode node) draft fun id? new => background.IsGround new ∧
      ∀ id ∈ id?, ¬background.prelude.table.Has id ∧
        ((background.tree.construct? node).any (·.declaresType)) = true := by
  simp only [declareNode]
  split
  next construct hconstruct =>
    split
    next name params hgeneric =>
      refine (h.after_declareParams params).bind ?_
      rintro ids new ⟨hnew, hids⟩
      refine (hnew.after_noteParams node hids).bind fun _ noted hnoted => ?_
      refine (hnoted.after_declareType node _ name).imp ?_
      rintro id? last ⟨hlast, hid⟩
      refine ⟨hlast, fun id hmem => ⟨(hid id hmem).1, ?_⟩⟩
      rw [hconstruct]
      exact declaresType_of_genericDeclaration? hgeneric (hid id hmem).2
    next => exact After.pure ⟨h, by simp⟩
  next => exact After.pure ⟨h, by simp⟩

/-- **The declarations of a file** are at given nodes that declare types, and have places of the
file. -/
theorem after_declareAll (h : background.IsGround draft) (nodes : List NodeId) :
    After (background.declareAll nodes) draft fun declarations new => background.IsGround new ∧
      ∀ declaration ∈ declarations, declaration.1 ∈ nodes ∧
        ¬background.prelude.table.Has declaration.2 ∧
          ((background.tree.construct? declaration.1).any (·.declaresType)) = true := by
  induction nodes generalizing draft with
  | nil => exact After.pure ⟨h, by simp⟩
  | cons node rest ih =>
    simp only [declareAll]
    refine (h.after_declareNode node).bind ?_
    rintro id? new ⟨hnew, hid⟩
    cases id? with
    | some id =>
      refine (ih hnew).bind ?_
      rintro declarations last ⟨hlast, hdeclarations⟩
      refine After.pure ⟨hlast, fun declaration hdeclaration => ?_⟩
      rcases List.mem_cons.mp hdeclaration with rfl | hrest
      · exact ⟨List.mem_cons_self, hid id rfl⟩
      · exact (hdeclarations declaration hrest).imp_left (List.mem_cons_of_mem _)
    | none =>
      refine (ih hnew).imp ?_
      rintro declarations last ⟨hlast, hdeclarations⟩
      exact ⟨hlast, fun declaration hmem =>
        (hdeclarations declaration hmem).imp_left (List.mem_cons_of_mem _)⟩

/-! ### Bounds of generic parameters -/

theorem after_defineBounds (h : background.IsGround draft) (site : NodeId)
    {params : List ((String × TypeId) × TypeParameter)}
    (hparams : ∀ param ∈ params, ¬background.prelude.table.Has param.1.2) :
    After (background.defineBounds site params) draft fun _ new =>
      background.IsGround new ∧ draft.SameNames new := by
  induction params generalizing draft with
  | nil => exact ⟨h, .refl draft⟩
  | cons param rest ih =>
    obtain ⟨⟨name, id⟩, param⟩ := param
    obtain ⟨hid, hrest⟩ := List.forall_mem_cons.mp hparams
    simp only [defineBounds]
    split
    next written _ =>
      have hresolve : background.Adds background.tree.ReachesSource
        (background.resolve site written) := adds_resolve site written
      refine (hresolve.after draft).bind fun bound new hnew => ?_
      refine ((h.extend hnew).after_define _ hid).bind ?_
      rintro _ defined ⟨hdefined, hnames, -⟩
      refine (ih hdefined hrest).imp ?_
      rintro _ last ⟨hlast, hlastnames⟩
      exact ⟨hlast, (hnew.sameNames.trans hnames).trans hlastnames⟩
    next => exact ih h hrest

theorem after_defineAllBounds (h : background.IsGround draft) (nodes : List NodeId) :
    After (background.defineAllBounds nodes) draft fun _ new =>
      background.IsGround new ∧ draft.SameNames new := by
  induction nodes generalizing draft with
  | nil => exact ⟨h, .refl draft⟩
  | cons node rest ih =>
    have hparams : ∀ param ∈ (draft.typeParams[node]?).getD [],
        ¬background.prelude.table.Has param.2 := by
      intro param hparam
      rcases hat : draft.typeParams[node]? with _ | params
      · rw [hat] at hparam
        cases hparam
      · rw [hat] at hparam
        exact h.typeParams node params hat param hparam
    simp only [defineAllBounds]
    refine After.get ?_
    split
    next declared _ =>
      refine (h.after_defineBounds node fun param hparam => ?_).bind ?_
      · exact hparams param.1 (List.of_mem_zip hparam).1
      · rintro _ new ⟨hnew, hnames⟩
        exact (ih hnew).imp fun _ _ hlast => ⟨hlast.1, hnames.trans hlast.2⟩
    next => exact ih h

end IsGround

/-! ### Members -/

theorem reachesSource_of_mem_map {tree : SyntaxTree} {make : NodeId → Deferred}
    (hmake : ∀ node, (make node).node = node) {node? : Option NodeId}
    (hnode : ∀ node ∈ node?, tree.IsReached node) :
    ∀ source ∈ node?.map make, tree.ReachesSource source := by
  intro source hsource
  obtain ⟨node, hmem, rfl⟩ := Option.map_eq_some_iff.mp (Option.mem_def.mp hsource)
  rw [SyntaxTree.ReachesSource, hmake]
  exact hnode node hmem

theorem adds_parameterProperty {param : NodeId} (hparam : background.tree.IsReached param) :
    background.Adds background.tree.ReachesSource (background.parameterProperty param) := by
  simp only [parameterProperty]
  split
  next name written default hconstruct =>
    split
    · have hdefault : ∀ node ∈ default, background.tree.IsReached node := fun node hnode =>
        hparam.part hconstruct (by simp [Construct.children, Option.mem_def.mp hnode])
      exact (adds_resolveOrDefer (reachesSource_of_mem_map (fun _ => rfl) hdefault) written
        param).bind fun _ => .pure _
    · exact .pure _
  next => exact .pure _

theorem adds_propertiesOfParameters {params : List NodeId}
    (hparams : ∀ param ∈ params, background.tree.IsReached param) :
    background.Adds background.tree.ReachesSource (background.propertiesOfParameters params) := by
  induction params with
  | nil => exact .pure _
  | cons param rest ih =>
    obtain ⟨hparam, hrest⟩ := List.forall_mem_cons.mp hparams
    exact (adds_parameterProperty hparam).bind fun _ => (ih hrest).bind fun _ => .pure _

theorem adds_membersOf {node : NodeId} (hnode : background.tree.IsReached node) :
    background.Adds background.tree.ReachesSource (background.membersOf node) := by
  simp only [membersOf]
  split
  next name written value hconstruct =>
    split
    · have hvalue : ∀ inner ∈ value, background.tree.IsReached inner := fun inner hinner =>
        hnode.part hconstruct (by simp [Construct.children, Option.mem_def.mp hinner])
      exact (adds_resolveOrDefer (reachesSource_of_mem_map (fun _ => rfl) hvalue) written
        node).bind fun _ => .pure _
    · exact .pure _
  next name params returnType body hconstruct =>
    split
    · split
      · refine adds_propertiesOfParameters fun param hparam => ?_
        exact hnode.part hconstruct (by simp [Construct.children, hparam])
      · have hbody : ∀ inner ∈ body, background.tree.IsReached inner := fun inner hinner =>
          hnode.part hconstruct (by simp [Construct.children, Option.mem_def.mp hinner])
        exact (adds_resolveOrDefer (reachesSource_of_mem_map (fun _ => rfl) hbody) returnType
          node).bind fun _ => .pure _
    · exact .pure _
  next => exact .pure _

theorem adds_membersOfAll {nodes : List NodeId}
    (hnodes : ∀ node ∈ nodes, background.tree.IsReached node) :
    background.Adds background.tree.ReachesSource (background.membersOfAll nodes) := by
  induction nodes with
  | nil => exact .pure _
  | cons node rest ih =>
    obtain ⟨hnode, hrest⟩ := List.forall_mem_cons.mp hnodes
    exact (adds_membersOf hnode).bind fun _ => (ih hrest).bind fun _ => .pure _

/-! ### What a declaration declares -/

/-- **The entry is what the declaration at a node declares at the place `id`.** An alias is one of
another place, or an unknown type if it stands for its own place. -/
inductive DeclaredBy (background : Background) (draft : Draft) (node : NodeId) (id : TypeId) :
    TypeEntry → Prop where
  /-- A class. -/
  | ofClass {name : Option NodeId} {written : List TypeParameter} {base : Option TypeExpr}
    {interfaces : List TypeExpr} {members : List NodeId}
    (hconstruct : background.tree.construct? node =
      some (.classDeclaration name written base interfaces members))
    {type : NominalType} (hkind : type.kind = .classType) :
    DeclaredBy background draft node id (.declared type)
  /-- An interface, or a class or interface to which it adds. -/
  | ofInterface {name : NodeId} {written : List TypeParameter} {bases : List TypeExpr}
    {members : List NodeId}
    (hconstruct : background.tree.construct? node =
      some (.interfaceDeclaration name written bases members)) (type : NominalType) :
    DeclaredBy background draft node id (.declared type)
  /-- An alias of another place. -/
  | ofAlias {name : NodeId} {written : List TypeParameter} {value : TypeExpr}
    (hconstruct : background.tree.construct? node =
      some (.typeAliasDeclaration name written value))
    {params : List TypeId} {target : TypeId} (hother : target ≠ id) :
    DeclaredBy background draft node id
      (.alias ((background.tree.nameAt? name).getD "") params target)
  /-- An alias that stands for its own place. -/
  | ofItself {name : NodeId} {written : List TypeParameter} {value : TypeExpr}
    (hconstruct : background.tree.construct? node =
      some (.typeAliasDeclaration name written value))
    (hself : ((background.resolve node value).run draft).1 = id) :
    DeclaredBy background draft node id .unknown

/-- The parts of a class or interface: supertypes, and members of its own. -/
theorem after_parts {members : List NodeId}
    (hmembers : ∀ member ∈ members, background.tree.IsReached member) (node : NodeId)
    (supertypes : List TypeExpr)
    {next : List TypeId → List (Member TypeId) → StateM Draft (Option TypeEntry)}
    {post : Option TypeEntry → Draft → Prop}
    (hnext : ∀ types own new, background.Extends background.tree.ReachesSource draft new →
      After (next types own) new post) :
    After (do
      let types ← background.resolveEach node supertypes
      let own ← background.membersOfAll members
      next types own) draft post := by
  have htypes : background.Adds background.tree.ReachesSource
    (background.resolveEach node supertypes) := adds_resolveEach node supertypes
  refine (htypes.after draft).bind fun types new hnew => ?_
  refine ((adds_membersOfAll hmembers).after new).bind fun own last hlast => ?_
  exact hnext types own last (hnew.trans hlast)

/-- **What a declaration declares** is found by extending the draft. -/
theorem after_declaredData_declaredBy {node : NodeId} (hnode : background.tree.IsReached node)
    (hdeclares : ((background.tree.construct? node).any (·.declaresType)) = true) (id : TypeId) :
    After (background.declaredData node id) draft fun data? new =>
      background.Extends background.tree.ReachesSource draft new ∧
        ∃ data, data? = some data ∧ background.DeclaredBy draft node id data := by
  simp only [declaredData]
  refine After.get ?_
  split
  next hconstruct =>
    refine after_parts (fun member hmember => ?_) node _ fun types own new hnew => ?_
    · exact hnode.part hconstruct (by simp [Construct.children, hmember])
    · exact After.pure ⟨hnew, _, rfl, .ofClass hconstruct rfl⟩
  next hconstruct =>
    refine after_parts (fun member hmember => ?_) node _ fun types own new hnew => After.get ?_
    · exact hnode.part hconstruct (by simp [Construct.children, hmember])
    · split
      · exact After.pure ⟨hnew, _, rfl, .ofInterface hconstruct _⟩
      · exact After.pure ⟨hnew, _, rfl, .ofInterface hconstruct _⟩
  next value hconstruct =>
    have hresolve : After (background.resolve node value) draft fun target new =>
        background.Extends background.tree.ReachesSource draft new ∧
          target = ((background.resolve node value).run draft).1 :=
      ⟨adds_resolve node value draft, rfl⟩
    refine hresolve.bind ?_
    rintro target new ⟨hnew, htarget⟩
    split
    next hself =>
      exact After.pure ⟨hnew, _, rfl, .ofItself hconstruct (htarget ▸ eq_of_beq hself)⟩
    next hother =>
      exact After.pure ⟨hnew, _, rfl, .ofAlias hconstruct fun heq => hother (beq_iff_eq.mpr heq)⟩
  next hclass hinterface halias =>
    -- no other construct declares a type
    exfalso
    rcases hconstruct : background.tree.construct? node with _ | construct
    · simp [hconstruct] at hdeclares
    · cases construct with
      | classDeclaration => exact hclass _ _ _ _ _ hconstruct
      | interfaceDeclaration => exact hinterface _ _ _ _ hconstruct
      | typeAliasDeclaration => exact halias _ _ _ hconstruct
      | _ => simp [hconstruct, Construct.declaresType] at hdeclares

/-- A name that is resolved to a place that was in use before is one without arguments, of a
declared type. -/
theorem eq_some_of_run_resolveName {name : String} {arguments : List TypeId} {id : TypeId}
    (h : ((background.resolveName name arguments).run draft).1 = id) (hhas : draft.table.Has id) :
    arguments = [] ∧ ¬(name == "Array" || name == "ReadonlyArray") = true ∧
      background.typeNamed? draft name = some id := by
  have hne : draft.table.size ≠ id := Nat.ne_of_gt hhas
  simp only [resolveName] at h
  split at h
  next => exact absurd h hne
  next harray =>
    simp only [StateT.run_bind, StateT.run_get, pure_bind] at h
    split at h
    next target htarget =>
      split at h
      next hempty => exact ⟨List.isEmpty_iff.mp hempty, harray, htarget.trans (congrArg some h)⟩
      next => exact absurd h hne
    next => exact absurd h hne

/-- What is resolved to a place that was in use before is found by its name, so it is resolved to
the same place wherever the names are the same. -/
theorem run_resolve_eq_of_has {site : NodeId} {written : TypeExpr} {id : TypeId}
    (h : ((background.resolve site written).run draft).1 = id) (hhas : draft.table.Has id)
    (hnames : draft.SameNames new) : ((background.resolve site written).run new).1 = id := by
  -- any other type that is resolved gets a new place
  have hpushed : ∀ {α : Type} {action : StateM Draft α} {entry : α → TypeEntry},
      background.Adds (fun _ => True) action →
        ((action >>= fun value => Draft.push (entry value)).run draft).1 ≠ id := by
    intro α action entry hadds heq
    have hsize : draft.table.size ≤ id := heq ▸ (hadds draft).size_le
    exact Nat.lt_irrefl _ (Nat.lt_of_le_of_lt hsize hhas)
  cases written with
  | keyword k =>
    simp only [resolve] at h ⊢
    split at h
    · exact h
    next => exact absurd h (Nat.ne_of_gt hhas)
  | literal kind => exact h
  | named name arguments =>
    have hparameter : background.parameterNamed? new name site =
        background.parameterNamed? draft name site := by
      simp only [parameterNamed?, hnames.typeParams]
    have htype : background.typeNamed? new name = background.typeNamed? draft name := by
      simp only [typeNamed?, hnames.typeNames]
    simp only [resolve, StateT.run_bind, StateT.run_get, pure_bind, hparameter] at h ⊢
    split at h
    next => exact h
    next =>
      cases arguments with
      | nil =>
        obtain ⟨-, harray, htarget⟩ := eq_some_of_run_resolveName h hhas
        simp only [resolveEach, pure_bind, resolveName, if_neg harray, StateT.run_bind,
          StateT.run_get, htype, htarget, List.isEmpty_nil, if_true]
        rfl
      | cons first rest =>
        have harguments : background.Adds (fun _ => True)
          (background.resolveEach site (first :: rest)) := adds_resolveEach site _
        obtain ⟨hnil, -⟩ := eq_some_of_run_resolveName h ((harguments draft).has hhas)
        cases hnil
  | union members => exact absurd h (hpushed (adds_resolveEach site members))
  | intersection members => exact absurd h (hpushed (adds_resolveEach site members))
  | array element => exact absurd h (hpushed (adds_resolve site element))
  | tuple elements => exact absurd h (hpushed (adds_resolveEach site elements))
  | function returnType => exact absurd h (hpushed (adds_resolve site returnType))
  | object members => exact absurd h (hpushed (adds_resolveMembers site members))
  | unsupported text => exact h

theorem DeclaredBy.mono {node : NodeId} {id : TypeId} {entry : TypeEntry}
    (h : background.DeclaredBy draft node id entry) (hhas : draft.table.Has id)
    (hnames : draft.SameNames new) : background.DeclaredBy new node id entry := by
  cases h with
  | ofClass hconstruct hkind => exact .ofClass hconstruct hkind
  | ofInterface hconstruct type => exact .ofInterface hconstruct type
  | ofAlias hconstruct hother => exact .ofAlias hconstruct hother
  | ofItself hconstruct hself =>
    exact .ofItself hconstruct (run_resolve_eq_of_has hself hhas hnames)

/-- **The place holds what one of the declarations declares there.** -/
def HoldsDeclared (background : Background) (declarations : List (NodeId × TypeId)) (draft : Draft)
    (id : TypeId) : Prop :=
  ∃ node entry, (node, id) ∈ declarations ∧ draft.table.get? id = some entry ∧
    background.DeclaredBy draft node id entry

theorem HoldsDeclared.mono {declarations : List (NodeId × TypeId)} {id : TypeId}
    (h : background.HoldsDeclared declarations draft id) (hnames : draft.SameNames new)
    (hget : new.table.get? id = draft.table.get? id) :
    background.HoldsDeclared declarations new id := by
  obtain ⟨node, entry, hmem, hentry, hdeclared⟩ := h
  exact ⟨node, entry, hmem, hget.trans hentry,
    hdeclared.mono (TypeTable.has_of_get? hentry) hnames⟩

theorem HoldsDeclared.has {declarations : List (NodeId × TypeId)} {id : TypeId}
    (h : background.HoldsDeclared declarations draft id) : draft.table.Has id := by
  obtain ⟨_, _, _, hentry, _⟩ := h
  exact TypeTable.has_of_get? hentry

/-- A declaration that a place of the file has been taken for. -/
structure IsDeclaration (background : Background) (draft : Draft) (declaration : NodeId × TypeId) :
    Prop where
  /-- The node is reached from the root. -/
  reached : background.tree.IsReached declaration.1
  /-- The node declares a type. -/
  declares : ((background.tree.construct? declaration.1).any (·.declaresType)) = true
  /-- The place is in use. -/
  has : draft.table.Has declaration.2
  /-- The place is none of the prelude. -/
  own : ¬background.prelude.table.Has declaration.2

namespace IsGround

/-- **Defining the declarations of a file** leaves each place with what one of them declares. -/
theorem after_defineAll (h : background.IsGround draft) {all declarations : List (NodeId × TypeId)}
    (hsub : declarations ⊆ all)
    (hdeclarations : ∀ declaration ∈ declarations, background.IsDeclaration draft declaration) :
    After (background.defineAll declarations) draft fun _ new =>
      background.IsGround new ∧ draft.SameNames new ∧ ∀ id : TypeId,
        (∃ node, (node, id) ∈ declarations) ∨ background.HoldsDeclared all draft id →
          background.HoldsDeclared all new id := by
  induction declarations generalizing draft with
  | nil => exact ⟨h, .refl draft, fun id hid => hid.resolve_left (by simp)⟩
  | cons declaration rest ih =>
    obtain ⟨node, id⟩ := declaration
    obtain ⟨hmem, hsub⟩ := List.cons_subset.mp hsub
    obtain ⟨hfirst, hrest⟩ := List.forall_mem_cons.mp hdeclarations
    simp only [defineAll]
    refine (after_declaredData_declaredBy hfirst.reached hfirst.declares id).bind ?_
    rintro _ new ⟨hnew, data, rfl, hdata⟩
    refine ((h.extend hnew).after_define data hfirst.own).bind ?_
    rintro _ defined ⟨hdefined, hnames, hsize, hother, hself⟩
    have hnames := hnew.sameNames.trans hnames
    have hkept : ∀ id' : Nat, id' ≠ id → draft.table.Has id' →
        defined.table.get? id' = draft.table.get? id' :=
      fun id' hne hid' => (hother id' hne).trans (hnew.get?_eq id' hid')
    have hrest' : ∀ declaration ∈ rest, background.IsDeclaration defined declaration := by
      intro declaration hdeclaration
      have hold := hrest declaration hdeclaration
      refine { hold with has := ?_ }
      rw [TypeTable.Has, hsize]
      exact hnew.has hold.has
    refine (ih hdefined hsub hrest').imp ?_
    rintro _ last ⟨hlast, hlastnames, hholds⟩
    refine ⟨hlast, hnames.trans hlastnames, fun id' hid' => hholds id' ?_⟩
    -- the place that has just been defined holds what was declared; the others are as they were
    by_cases heq : id' = id
    · subst heq
      exact .inr ⟨node, data, hmem, hself (hnew.has hfirst.has), hdata.mono hfirst.has hnames⟩
    · rcases hid' with ⟨node', hmem'⟩ | hid'
      · refine .inl ⟨node', (List.mem_cons.mp hmem').resolve_left ?_⟩
        rintro ⟨⟩
        exact heq rfl
      · have hhas := hid'.has
        exact .inr (hid'.mono hnames (hkept id' heq hhas))

/-! ### Names of values -/

theorem after_bind (h : background.IsGround draft) (name : NodeId) (type : TypeId) :
    After (background.bind name type) draft fun _ new =>
      background.IsGround new ∧ draft.SameNames new := by
  simp only [Background.bind]
  split
  · simp only [After, StateT.run, modify, modifyGet, MonadStateOf.modifyGet, StateT.modifyGet]
    simp only [pure]
    split
    · exact ⟨h, .refl draft⟩
    · exact ⟨{ h with }, rfl, rfl⟩
  · exact ⟨h, .refl draft⟩

theorem after_bindNode (h : background.IsGround draft) {node : NodeId}
    (hnode : background.tree.IsReached node) :
    After (background.bindNode node) draft fun _ new =>
      background.IsGround new ∧ draft.SameNames new := by
  have hbind : ∀ {action : StateM Draft TypeId} (name : NodeId),
      background.Adds background.tree.ReachesSource action →
        After (action >>= fun type => background.bind name type) draft fun _ new =>
          background.IsGround new ∧ draft.SameNames new := by
    intro action name haction
    refine (haction.after draft).bind fun type new hnew => ?_
    refine ((h.extend hnew).after_bind name type).imp ?_
    rintro _ last ⟨hlast, hnames⟩
    exact ⟨hlast, hnew.sameNames.trans hnames⟩
  simp only [bindNode]
  split
  next name written value hconstruct =>
    have hvalue : ∀ inner ∈ value, background.tree.IsReached inner := fun inner hinner =>
      hnode.part hconstruct (by simp [Construct.children, Option.mem_def.mp hinner])
    exact hbind name (adds_resolveOrDefer (reachesSource_of_mem_map (fun _ => rfl) hvalue) _ _)
  next name written value _ hconstruct =>
    have hvalue : ∀ inner ∈ value, background.tree.IsReached inner := fun inner hinner =>
      hnode.part hconstruct (by simp [Construct.children, Option.mem_def.mp hinner])
    exact hbind name (adds_resolveOrDefer (reachesSource_of_mem_map (fun _ => rfl) hvalue) _ _)
  next name _ _ returnType body hconstruct =>
    have hbody : ∀ inner ∈ body, background.tree.IsReached inner := fun inner hinner =>
      hnode.part hconstruct (by simp [Construct.children, Option.mem_def.mp hinner])
    have hsource : ∀ source ∈ body.map Deferred.body, background.tree.ReachesSource source :=
      reachesSource_of_mem_map (fun _ => rfl) hbody
    -- the type of the function is put after that of its result
    simp only [← bind_assoc]
    exact hbind name ((adds_resolveOrDefer hsource returnType node).push_bind (by simp))
  next => exact ⟨h, .refl draft⟩

theorem after_bindAll (h : background.IsGround draft) {nodes : List NodeId}
    (hnodes : ∀ node ∈ nodes, background.tree.IsReached node) :
    After (background.bindAll nodes) draft fun _ new =>
      background.IsGround new ∧ draft.SameNames new := by
  induction nodes generalizing draft with
  | nil => exact ⟨h, .refl draft⟩
  | cons node rest ih =>
    obtain ⟨hnode, hrest⟩ := List.forall_mem_cons.mp hnodes
    simp only [bindAll]
    refine (h.after_bindNode hnode).bind ?_
    rintro _ new ⟨hnew, hnames⟩
    refine (ih hnew hrest).imp ?_
    rintro _ last ⟨hlast, hlastnames⟩
    exact ⟨hlast, hnames.trans hlastnames⟩

end IsGround

/-! ### The whole groundwork -/

/-- The declarations of a file, with the places taken for them. -/
def declarations (background : Background) : List (NodeId × TypeId) :=
  ((background.declareAll background.tree.preorder).run background.start).1

/-- **The draft once the types of a file are declared and its names are bound**: it is closed, it is
the groundwork, and every place taken for a declaration holds what is declared there. -/
structure IsBound (background : Background) (draft : Draft) : Prop where
  /-- The draft is closed. -/
  closed : draft.IsClosed background.prelude
  /-- The prelude is as it was, and no expression has been looked at. -/
  ground : background.IsGround draft
  /-- A declared type is settled. -/
  settled : ∀ declaration ∈ background.declarations, draft.IsSettled declaration.2
  /-- A declared type is what one of its declarations declares. -/
  declared : ∀ declaration ∈ background.declarations,
    background.HoldsDeclared background.declarations draft declaration.2

/-- The draft before the first expression is typed. -/
def bound (background : Background) : Draft :=
  (background.bindFile.run background.start).2

/-! ### The stages of a file -/

/-- The draft when the declarations of the file have places. -/
def placed (background : Background) : Draft :=
  ((background.declareAll background.tree.preorder).run background.start).2

/-- The draft when the bounds of generic parameters have been resolved. -/
def bounded (background : Background) : Draft :=
  ((background.defineAllBounds background.tree.preorder).run background.placed).2

/-- The draft when the declarations have been defined. At last the names of values are bound. -/
def defined (background : Background) : Draft :=
  ((background.defineAll background.declarations).run background.bounded).2

theorem declares_of_mem_declarations :
    ∀ declaration ∈ background.declarations, background.tree.IsReached declaration.1 ∧
      ((background.tree.construct? declaration.1).any (·.declaresType)) = true := by
  intro declaration hmem
  obtain ⟨hnode, -, hdeclares⟩ :=
    (IsGround.start.after_declareAll background.tree.preorder).2 declaration hmem
  exact ⟨.of_mem_preorder hnode, hdeclares⟩

theorem isGround_placed : background.IsGround background.placed :=
  (IsGround.start.after_declareAll background.tree.preorder).1

theorem isGround_bounded :
    background.IsGround background.bounded ∧ background.placed.SameNames background.bounded :=
  isGround_placed.after_defineAllBounds background.tree.preorder

section

variable (h : background.prelude.IsClosed)
include h

theorem keeps_placed : background.start.Keeps background.prelude background.placed ∧
    ∀ declaration ∈ background.declarations, background.placed.IsSettled declaration.2 :=
  after_declareAll (isClosed_start h) background.tree.preorder

theorem keeps_bounded : background.placed.Keeps background.prelude background.bounded :=
  after_defineAllBounds (keeps_placed h).1.closed background.tree.preorder

theorem isSettled_bounded :
    ∀ declaration ∈ background.declarations, background.bounded.IsSettled declaration.2 :=
  fun declaration hmem => (keeps_bounded h).settled _ ((keeps_placed h).2 declaration hmem)

theorem isDeclaration_bounded : ∀ declaration ∈ background.declarations,
    background.IsDeclaration background.bounded declaration := by
  intro declaration hmem
  obtain ⟨hreached, hdeclares⟩ := declares_of_mem_declarations declaration hmem
  exact ⟨hreached, hdeclares, (isSettled_bounded h declaration hmem).1,
    ((IsGround.start.after_declareAll background.tree.preorder).2 declaration hmem).2.1⟩

theorem keeps_defined : background.bounded.Keeps background.prelude background.defined :=
  after_defineAll (keeps_bounded h).closed (isSettled_bounded h)

theorem isSettled_defined :
    ∀ declaration ∈ background.declarations, background.defined.IsSettled declaration.2 :=
  fun declaration hmem => (keeps_defined h).settled _ (isSettled_bounded h declaration hmem)

theorem isGround_defined :
    background.IsGround background.defined ∧ background.bounded.SameNames background.defined ∧
      ∀ declaration ∈ background.declarations,
        background.HoldsDeclared background.declarations background.defined declaration.2 := by
  obtain ⟨hground, hnames, hholds⟩ := (@isGround_bounded background).1.after_defineAll
    (List.Subset.refl background.declarations) (isDeclaration_bounded h)
  exact ⟨hground, hnames, fun declaration hmem => hholds declaration.2 (.inl ⟨declaration.1, hmem⟩)⟩

theorem grows_bound : background.defined.Grows background.prelude background.bound :=
  after_bindAll (keeps_defined h).closed background.tree.preorder

theorem isGround_bound :
    background.IsGround background.bound ∧ background.defined.SameNames background.bound :=
  (isGround_defined h).1.after_bindAll fun _ => SyntaxTree.IsReached.of_mem_preorder

/-- **Names have their places** as soon as the declarations have them. -/
theorem sameNames_bound : background.placed.SameNames background.bound :=
  (isGround_bounded.2.trans (isGround_defined h).2.1).trans (isGround_bound h).2

/-- **The groundwork of a file.** -/
theorem isBound_bound : background.IsBound background.bound where
  closed := (grows_bound h).closed
  ground := (isGround_bound h).1
  settled declaration hmem := (grows_bound h).settled _ (isSettled_defined h declaration hmem)
  declared declaration hmem := ((isGround_defined h).2.2 declaration hmem).mono
    (isGround_bound h).2 ((grows_bound h).get?_eq _ (isSettled_defined h declaration hmem))

end

end Background

end StreamLint
