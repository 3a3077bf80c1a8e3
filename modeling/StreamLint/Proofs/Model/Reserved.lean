import StreamLint.Proofs.Model.Groundwork
/-!
# What a file leaves to be found out later

Where a type is not written, a place is taken for what is to be found out later: for a variable, a
parameter or a field from its value, for a function or a method from its body. This is done while
the classes of a file are declared and while its names are bound, and nothing is taken up in the
meantime (`StreamLint.Draft.Stays`). So all of it is deferred when the first expression is typed
(`StreamLint.Background.defers_bound`).
-/

namespace StreamLint

namespace Draft

/-- A place is taken for what is to be found out from the source. -/
def Defers (draft : Draft) (source : Deferred) : Prop :=
  ∃ id, draft.table.Has id ∧ draft.deferred[id]? = some source

/-- **Nothing is taken up**: of the types in use the same ones are deferred. -/
structure Stays (old new : Draft) : Prop where
  /-- No place is given up. -/
  size_le : old.table.size ≤ new.table.size
  /-- A type in use is still to be found out, or still settled. -/
  deferred_eq : ∀ id : Nat, old.table.Has id → new.deferred[id]? = old.deferred[id]?

variable {a b c old new : Draft}

theorem Stays.refl (draft : Draft) : draft.Stays draft :=
  ⟨Nat.le_refl _, fun _ _ => rfl⟩

theorem Stays.trans (hab : a.Stays b) (hbc : b.Stays c) : a.Stays c where
  size_le := Nat.le_trans hab.size_le hbc.size_le
  deferred_eq id hid := (hbc.deferred_eq id (hid.mono hab.size_le)).trans (hab.deferred_eq id hid)

theorem Defers.mono {source : Deferred} (h : old.Defers source) (hnew : old.Stays new) :
    new.Defers source := by
  obtain ⟨id, hid, hsource⟩ := h
  exact ⟨id, hid.mono hnew.size_le, (hnew.deferred_eq id hid).trans hsource⟩

theorem after_define_stays (draft : Draft) (id : TypeId) (data : TypeEntry) :
    After (Draft.define id data) draft fun _ new => draft.Stays new :=
  ⟨Nat.le_of_eq (TypeTable.size_define ..).symm, fun _ _ => rfl⟩

end Draft

namespace Background

open Draft

variable {background : Background} {draft : Draft}

theorem Extends.stays {sources : Deferred → Prop} {old new : Draft}
    (h : background.Extends sources old new) : old.Stays new :=
  ⟨h.size_le, h.deferred_eq⟩

/-- What has no written type is deferred. -/
theorem after_resolveOrDefer_defers (draft : Draft) (written : Option TypeExpr)
    (source? : Option Deferred) (site : NodeId) :
    After (background.resolveOrDefer written source? site) draft fun _ new =>
      draft.Stays new ∧ (written = none → ∀ source ∈ source?, new.Defers source) := by
  have hadds : background.Adds (fun _ => True) (background.resolveOrDefer written source? site) :=
    adds_resolveOrDefer (by simp) written site
  refine ⟨(hadds draft).stays, ?_⟩
  rintro rfl source hsource
  obtain rfl := Option.mem_def.mp hsource
  refine ⟨draft.table.size, ?_, Std.TreeMap.getElem?_insert_self⟩
  exact Nat.lt_of_lt_of_eq (Nat.lt_succ_self _) (TypeTable.size_push ..).symm

/-! ### Names -/

/-- **What is to be found out later of the name that a node binds**: of a variable or a parameter
the type of its value, of a function what its body returns. -/
inductive BindsOpen (background : Background) (node : NodeId) : Deferred → Prop where
  /-- A variable. -/
  | ofVariable {name value : NodeId}
    (hconstruct : background.tree.construct? node =
      some (.variableDeclarator name none (some value))) :
    BindsOpen background node (.expression value)
  /-- A parameter with a default. -/
  | ofParameter {name default : NodeId} {isProperty : Bool}
    (hconstruct : background.tree.construct? node =
      some (.parameter name none (some default) isProperty)) :
    BindsOpen background node (.expression default)
  /-- A function. -/
  | ofFunction {name body : NodeId} {written : List TypeParameter} {params : List NodeId}
    (hconstruct : background.tree.construct? node =
      some (.functionDeclaration (some name) written params none (some body))) :
    BindsOpen background node (.body body)

theorem after_bind_stays (draft : Draft) (name : NodeId) (type : TypeId) :
    After (background.bind name type) draft fun _ new => draft.Stays new := by
  simp only [Background.bind]
  split
  · simp only [After, StateT.run, modify, modifyGet, MonadStateOf.modifyGet, StateT.modifyGet]
    simp only [pure]
    split
    · exact .refl draft
    · exact ⟨Nat.le_refl _, fun _ _ => rfl⟩
  · exact .refl draft

theorem after_bindNode_stays (draft : Draft) (node : NodeId) :
    After (background.bindNode node) draft fun _ new => draft.Stays new := by
  have hbind : ∀ {action : StateM Draft TypeId} (name : NodeId),
      background.Adds (fun _ => True) action →
        After (action >>= fun type => background.bind name type) draft fun _ new =>
          draft.Stays new := by
    intro action name hadds
    refine (hadds.after draft).bind fun type new hnew => ?_
    exact (after_bind_stays new name type).imp fun _ _ hlast => hnew.stays.trans hlast
  simp only [bindNode]
  split
  next name written value _ => exact hbind name (adds_resolveOrDefer (by simp) written node)
  next name written value _ _ => exact hbind name (adds_resolveOrDefer (by simp) written node)
  next name _ _ returnType body _ =>
    -- the type of the function is put after that of its result
    simp only [← bind_assoc]
    exact hbind name ((adds_resolveOrDefer (by simp) returnType node).push_bind (by simp))
  next => exact .refl draft

theorem after_bindNode_defers (draft : Draft) {node : NodeId} {source : Deferred}
    (h : background.BindsOpen node source) :
    After (background.bindNode node) draft fun _ new => new.Defers source := by
  have hvalue : ∀ (name value : NodeId), After (do
      let type ← background.resolveOrDefer none (some (.expression value)) node
      background.bind name type) draft fun _ new => new.Defers (.expression value) := by
    intro name value
    refine (after_resolveOrDefer_defers draft none _ node).bind fun type new hnew => ?_
    exact (after_bind_stays new name type).imp fun _ _ hlast => (hnew.2 rfl _ rfl).mono hlast
  cases h with
  | ofVariable hconstruct =>
    simp only [bindNode, hconstruct]
    exact hvalue _ _
  | ofParameter hconstruct =>
    simp only [bindNode, hconstruct]
    exact hvalue _ _
  | @ofFunction name body _ _ hconstruct =>
    simp only [bindNode, hconstruct]
    refine (after_resolveOrDefer_defers draft none _ node).bind fun result new hnew => ?_
    have hpush : background.Adds (fun _ => True) (Draft.push (.function result)) :=
      Adds.push (by simp)
    refine (hpush.after new).bind fun type now hnow => ?_
    refine (after_bind_stays now name type).imp fun _ _ hlast => ?_
    exact (hnew.2 rfl _ rfl).mono (hnow.stays.trans hlast)

theorem after_bindAll_defers (draft : Draft) (nodes : List NodeId) :
    After (background.bindAll nodes) draft fun _ new => draft.Stays new ∧
      ∀ node ∈ nodes, ∀ source, background.BindsOpen node source → new.Defers source := by
  induction nodes generalizing draft with
  | nil => exact ⟨.refl draft, by simp⟩
  | cons node rest ih =>
    simp only [bindAll]
    have hnode : After (background.bindNode node) draft fun _ new => draft.Stays new ∧
        ∀ source, background.BindsOpen node source → new.Defers source :=
      ⟨after_bindNode_stays draft node, fun _ hsource => after_bindNode_defers draft hsource⟩
    refine hnode.bind ?_
    rintro _ new ⟨hnew, hdefers⟩
    refine (ih new).imp ?_
    rintro _ last ⟨hlast, hrest⟩
    exact ⟨hnew.trans hlast, List.forall_mem_cons.mpr
      ⟨fun source hsource => (hdefers source hsource).mono hlast, hrest⟩⟩

/-! ### Members of classes -/

/-- **What is to be found out later of a property that a parameter declares**: the type of its
default. -/
def PropertyOpen (background : Background) (param : NodeId) (source : Deferred) : Prop :=
  ∃ name default, background.tree.construct? param =
      some (.parameter name none (some default) true) ∧
    (background.tree.nameAt? name).isSome = true ∧ source = .expression default

/-- **What is to be found out later of a member of a class**: of a field the type of its value, of a
method what its body returns, and of a constructor the properties that its parameters declare. -/
inductive MemberOpen (background : Background) (member : NodeId) : Deferred → Prop where
  /-- A field. -/
  | ofField {name value : NodeId} {text : String}
    (hconstruct : background.tree.construct? member =
      some (.propertyDefinition name none (some value)))
    (hname : background.tree.nameAt? name = some text) :
    MemberOpen background member (.expression value)
  /-- A method. -/
  | ofMethod {name body : NodeId} {params : List NodeId} {text : String}
    (hconstruct : background.tree.construct? member =
      some (.methodDefinition name params none (some body)))
    (hname : background.tree.nameAt? name = some text) (hmethod : text ≠ "constructor") :
    MemberOpen background member (.body body)
  /-- A property that a parameter of a constructor declares. -/
  | ofProperty {name param : NodeId} {params : List NodeId} {returnType : Option TypeExpr}
    {body : Option NodeId} {source : Deferred}
    (hconstruct : background.tree.construct? member =
      some (.methodDefinition name params returnType body))
    (hname : background.tree.nameAt? name = some "constructor") (hparam : param ∈ params)
    (hsource : background.PropertyOpen param source) :
    MemberOpen background member source

theorem after_parameterProperty_defers (draft : Draft) {param : NodeId} {source : Deferred}
    (h : background.PropertyOpen param source) :
    After (background.parameterProperty param) draft fun _ new => new.Defers source := by
  obtain ⟨name, default, hconstruct, hname, rfl⟩ := h
  obtain ⟨text, hname⟩ := Option.isSome_iff_exists.mp hname
  simp only [parameterProperty, hconstruct, hname]
  refine (after_resolveOrDefer_defers draft none _ param).bind fun _ _ hnew => ?_
  exact After.pure (hnew.2 rfl _ rfl)

theorem after_propertiesOfParameters_defers (draft : Draft) {params : List NodeId}
    (hparams : ∀ param ∈ params, background.tree.IsReached param) {param : NodeId}
    (hparam : param ∈ params) {source : Deferred} (h : background.PropertyOpen param source) :
    After (background.propertiesOfParameters params) draft fun _ new => new.Defers source := by
  induction params generalizing draft with
  | nil => cases hparam
  | cons first rest ih =>
    obtain ⟨hfirst, hrest⟩ := List.forall_mem_cons.mp hparams
    simp only [propertiesOfParameters]
    rcases List.mem_cons.mp hparam with rfl | hmem
    · refine (after_parameterProperty_defers draft h).bind fun _ new hnew => ?_
      refine ((adds_propertiesOfParameters hrest).after new).bind fun _ last hlast => ?_
      exact After.pure (hnew.mono hlast.stays)
    · refine ((adds_parameterProperty hfirst).after draft).bind fun _ new _ => ?_
      exact (ih new hrest hmem).bind fun _ _ hlast => After.pure hlast

theorem after_membersOf_defers (draft : Draft) {member : NodeId}
    (hmember : background.tree.IsReached member) {source : Deferred}
    (h : background.MemberOpen member source) :
    After (background.membersOf member) draft fun _ new => new.Defers source := by
  have hdefers : ∀ source : Deferred, After (background.resolveOrDefer none (some source) member)
      draft fun _ new => new.Defers source :=
    fun source => (after_resolveOrDefer_defers draft none (some source) member).imp
      fun _ _ hnew => hnew.2 rfl source rfl
  cases h with
  | ofField hconstruct hname =>
    simp only [membersOf, hconstruct, hname]
    exact (hdefers _).bind fun _ _ hnew => After.pure hnew
  | ofMethod hconstruct hname hmethod =>
    simp only [membersOf, hconstruct, hname, beq_iff_eq, if_neg hmethod]
    exact (hdefers _).bind fun _ _ hnew => After.pure hnew
  | ofProperty hconstruct hname hparam hsource =>
    simp only [membersOf, hconstruct, hname, beq_self_eq_true, if_true]
    refine after_propertiesOfParameters_defers draft (fun param hparam => ?_) hparam hsource
    exact hmember.part hconstruct (by simp [Construct.children, hparam])

theorem after_membersOfAll_defers (draft : Draft) {members : List NodeId}
    (hmembers : ∀ member ∈ members, background.tree.IsReached member) {member : NodeId}
    (hmember : member ∈ members) {source : Deferred} (h : background.MemberOpen member source) :
    After (background.membersOfAll members) draft fun _ new => new.Defers source := by
  induction members generalizing draft with
  | nil => cases hmember
  | cons first rest ih =>
    obtain ⟨hfirst, hrest⟩ := List.forall_mem_cons.mp hmembers
    simp only [membersOfAll]
    rcases List.mem_cons.mp hmember with rfl | hmem
    · refine (after_membersOf_defers draft hfirst h).bind fun _ new hnew => ?_
      refine ((adds_membersOfAll hrest).after new).bind fun _ last hlast => ?_
      exact After.pure (hnew.mono hlast.stays)
    · refine ((adds_membersOf hfirst).after draft).bind fun _ new _ => ?_
      exact (ih new hrest hmem).bind fun _ _ hlast => After.pure hlast

/-! ### Classes -/

/-- The node is a class with that member. -/
def IsClassMember (background : Background) (node member : NodeId) : Prop :=
  ∃ name written base interfaces members, background.tree.construct? node =
    some (.classDeclaration name written base interfaces members) ∧ member ∈ members

theorem after_declareType_isSome (draft : Draft) (node : NodeId) (name : Option String) :
    After (declareType node true name) draft fun id? _ => id?.isSome = true := by
  have hgiven : ∀ (id : TypeId) (now : Draft), After
      (do noteClass node id; return some id) now fun id? _ => id?.isSome = true :=
    fun _ _ => rfl
  have hany : ∀ action : StateM Draft TypeId, After action draft fun _ _ => True :=
    fun _ => trivial
  cases name with
  | some name => exact (hany (declareName name)).bind fun id new _ => hgiven id new
  | none => exact (hany Draft.reserve).bind fun id new _ => hgiven id new

/-- Every class gets a place. -/
theorem after_declareNode_isSome (draft : Draft) {node member : NodeId}
    (h : background.IsClassMember node member) :
    After (background.declareNode node) draft fun id? _ => id?.isSome = true := by
  obtain ⟨name, written, base, interfaces, members, hconstruct, -⟩ := h
  have hany : ∀ {α : Type} (action : StateM Draft α) (now : Draft),
      After action now fun _ _ => True :=
    fun _ _ => trivial
  have hrest : ∀ name : Option String, After (do
      let ids ← declareParams written
      noteParams node ids
      declareType node true name) draft fun id? _ => id?.isSome = true := fun name =>
    (hany (declareParams written) draft).bind fun ids new _ =>
      (hany (noteParams node ids) new).bind fun _ now _ => after_declareType_isSome now node name
  simp only [declareNode, hconstruct]
  cases name with
  | some name => exact hrest _
  | none => exact hrest _

theorem after_declareAll_mem (draft : Draft) (nodes : List NodeId) :
    After (background.declareAll nodes) draft fun declarations _ =>
      ∀ node ∈ nodes, ∀ member, background.IsClassMember node member →
        ∃ id, (node, id) ∈ declarations := by
  induction nodes generalizing draft with
  | nil => exact After.pure (by simp)
  | cons node rest ih =>
    simp only [declareAll]
    have hnode : After (background.declareNode node) draft fun id? _ =>
        ∀ member, background.IsClassMember node member → id?.isSome = true :=
      fun member hmember => after_declareNode_isSome draft hmember
    refine hnode.bind fun id? new hid => ?_
    cases id? with
    | some id =>
      refine (ih new).bind fun declarations last hlast => After.pure ?_
      refine List.forall_mem_cons.mpr ⟨fun _ _ => ⟨id, List.mem_cons_self⟩, ?_⟩
      intro other hother member hmember
      obtain ⟨id', hmem⟩ := hlast other hother member hmember
      exact ⟨id', List.mem_cons_of_mem _ hmem⟩
    | none =>
      refine (ih new).imp fun declarations last hlast => List.forall_mem_cons.mpr ⟨?_, hlast⟩
      intro member hmember
      cases hid member hmember

theorem after_declaredData_defers (draft : Draft) {node member : NodeId}
    (hnode : background.tree.IsReached node) (hmember : background.IsClassMember node member)
    {source : Deferred} (h : background.MemberOpen member source) (id : TypeId) :
    After (background.declaredData node id) draft fun _ new => new.Defers source := by
  obtain ⟨name, written, base, interfaces, members, hconstruct, hmember⟩ := hmember
  simp only [declaredData, hconstruct]
  have htypes : background.Adds background.tree.ReachesSource
    (background.resolveEach node (base.toList ++ interfaces)) := adds_resolveEach node _
  refine After.get ((htypes.after draft).bind fun types new _ => ?_)
  have hmembers : ∀ member ∈ members, background.tree.IsReached member := fun member hmember =>
    hnode.part hconstruct (by simp [Construct.children, hmember])
  exact (after_membersOfAll_defers new hmembers hmember h).bind fun _ _ hlast => After.pure hlast

theorem after_defineAll_defers (draft : Draft) {declarations : List (NodeId × TypeId)}
    (hdeclarations : ∀ declaration ∈ declarations, background.tree.IsReached declaration.1 ∧
      ((background.tree.construct? declaration.1).any (·.declaresType)) = true) :
    After (background.defineAll declarations) draft fun _ new => draft.Stays new ∧
      ∀ declaration ∈ declarations, ∀ member, background.IsClassMember declaration.1 member →
        ∀ source, background.MemberOpen member source → new.Defers source := by
  induction declarations generalizing draft with
  | nil => exact ⟨.refl draft, by simp⟩
  | cons declaration rest ih =>
    obtain ⟨node, id⟩ := declaration
    obtain ⟨⟨hnode, hdeclares⟩, hrest⟩ := List.forall_mem_cons.mp hdeclarations
    simp only [defineAll]
    have hdata : After (background.declaredData node id) draft fun data? new =>
        draft.Stays new ∧ (∃ data, data? = some data) ∧ ∀ member,
          background.IsClassMember node member → ∀ source, background.MemberOpen member source →
            new.Defers source := by
      obtain ⟨hnew, data, hdata, -⟩ := after_declaredData_declaredBy hnode hdeclares id
      exact ⟨hnew.stays, ⟨data, hdata⟩, fun member hmember source h =>
        after_declaredData_defers draft hnode hmember h id⟩
    refine hdata.bind ?_
    rintro _ new ⟨hnew, ⟨data, rfl⟩, hdefers⟩
    refine (after_define_stays new id data).bind fun _ defined hdefined => ?_
    refine (ih defined hrest).imp ?_
    rintro _ last ⟨hlast, hothers⟩
    have hstays := hdefined.trans hlast
    exact ⟨hnew.trans hstays, List.forall_mem_cons.mpr
      ⟨fun member hmember source h => (hdefers member hmember source h).mono hstays, hothers⟩⟩

/-! ### Files -/

/-- **What a file leaves to be found out later**, before an expression is typed. -/
inductive LeavesOpen (background : Background) : Deferred → Prop where
  /-- Of the name that a node binds. -/
  | ofName {node : NodeId} {source : Deferred} (hnode : background.tree.IsReached node)
    (h : background.BindsOpen node source) : LeavesOpen background source
  /-- Of a member of a class. -/
  | ofMember {node member : NodeId} {source : Deferred} (hnode : background.tree.IsReached node)
    (hmember : background.IsClassMember node member) (h : background.MemberOpen member source) :
    LeavesOpen background source

/-- **All that a file leaves open is deferred** when the first expression is typed. -/
theorem defers_bound (hlinked : background.tree.Linked) {source : Deferred}
    (h : background.LeavesOpen source) : background.bound.Defers source := by
  have hclasses : ∀ node ∈ background.tree.preorder, ∀ member,
      background.IsClassMember node member → ∃ id, (node, id) ∈ background.declarations :=
    after_declareAll_mem background.start background.tree.preorder
  obtain ⟨-, hmembers⟩ := after_defineAll_defers background.bounded
    (@declares_of_mem_declarations background)
  obtain ⟨hlast, hnames⟩ : background.defined.Stays background.bound ∧ _ :=
    after_bindAll_defers background.defined background.tree.preorder
  cases h with
  | ofName hnode h => exact hnames _ (hlinked.mem_preorder hnode) _ h
  | ofMember hnode hmember h =>
    obtain ⟨id, hmem⟩ := hclasses _ (hlinked.mem_preorder hnode) _ hmember
    exact (hmembers _ hmem _ hmember _ h).mono hlast

end Background

end StreamLint
