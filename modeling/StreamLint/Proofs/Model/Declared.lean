import StreamLint.Model.Build
import StreamLint.Proofs.Model.Resolved
/-!
# Drafts after the declarations of a file

Declaring the types of a file and binding its names starts from the prelude and ends in a closed
draft (`StreamLint.Background.after_bindFile`), if the prelude is closed. Declared types are defined
after they got their places, so these steps keep what there is but do not merely add to it
(`StreamLint.Draft.Keeps`): the whole point is that only settled places are defined, so that what is
deferred meanwhile still reads as unknown.

A finished draft makes a closed prelude in turn (`StreamLint.Draft.IsClosed.prelude`).
-/

namespace StreamLint

namespace Background

open Draft

variable {background : Background} {draft : Draft}

/-! ### Places for declarations -/

theorem after_declareParams (h : draft.IsClosed background.prelude) (params : List TypeParameter) :
    After (declareParams params) draft fun ids new =>
      draft.Keeps background.prelude new ∧ ∀ id ∈ ids, new.IsSettled id.2 := by
  induction params generalizing draft with
  | nil => exact After.pure ⟨h.refl.toKeeps, by simp⟩
  | cons param rest ih =>
    have hentry : draft.Admits (.parameter param.name none) :=
      admits_of_places (by simp [TypeEntry.places]) (by simp)
    refine (h.push hentry).bind ?_
    rintro id new ⟨hnew, hat, _⟩
    refine (ih hnew.closed).bind ?_
    rintro ids last ⟨hlast, hids⟩
    refine After.pure ⟨hnew.toKeeps.trans hlast, fun other hother => ?_⟩
    rcases List.mem_cons.mp hother with rfl | hother
    · exact hlast.settled id (hnew.closed.isSettled hat (by simp))
    · exact hids other hother

theorem after_declareName (h : draft.IsClosed background.prelude) (name : String) :
    After (declareName name) draft fun id new =>
      draft.Keeps background.prelude new ∧ new.IsSettled id := by
  unfold declareName
  refine After.get ?_
  split
  -- a name that is declared again keeps its place
  next id hid => exact After.pure ⟨h.refl.toKeeps, h.typeNames name id hid⟩
  next =>
    refine h.reserve.bind ?_
    rintro id new ⟨hnew, hid⟩
    have htypes : ∀ (other : String) (id' : TypeId),
        (new.typeNames.insert name id)[other]? = some id' → new.IsSettled id' := by
      intro other id' hid'
      rw [Std.TreeMap.getElem?_insert] at hid'
      split at hid'
      · exact Option.some.inj hid' ▸ hid
      · exact hnew.closed.typeNames other id' hid'
    exact ⟨⟨{ hnew.closed with typeNames := htypes }, hnew.size_le, hnew.settled⟩, hid⟩

theorem after_noteParams (h : draft.IsClosed background.prelude) (node : NodeId)
    {ids : List (String × TypeId)} (hids : ∀ id ∈ ids, draft.IsSettled id.2) :
    After (noteParams node ids) draft fun _ new => draft.Keeps background.prelude new := by
  have hparams : ∀ (other : NodeId) (params : List (String × TypeId)),
      (draft.typeParams.insert node ids)[other]? = some params →
        ∀ param ∈ params, draft.IsSettled param.2 := by
    intro other params hparams
    rw [Std.TreeMap.getElem?_insert] at hparams
    split at hparams
    · exact Option.some.inj hparams ▸ hids
    · exact h.typeParams other params hparams
  simp only [noteParams]
  split
  · exact h.refl.toKeeps
  · exact ⟨{ h with typeParams := hparams }, Nat.le_refl _, fun _ hid => hid⟩

theorem after_noteClass (h : draft.IsClosed background.prelude) (node : NodeId) {id : TypeId}
    (hid : draft.table.Has id) :
    After (noteClass node id) draft fun _ new => draft.Keeps background.prelude new := by
  have hclasses : ∀ (other : NodeId) (id' : TypeId),
      (draft.classes.insert node id)[other]? = some id' → draft.table.Has id' := by
    intro other id' hid'
    rw [Std.TreeMap.getElem?_insert] at hid'
    split at hid'
    · exact Option.some.inj hid' ▸ hid
    · exact h.classes other id' hid'
  exact ⟨{ h with classes := hclasses }, Nat.le_refl _, fun _ hid => hid⟩

theorem after_declareType (h : draft.IsClosed background.prelude) (node : NodeId) (isClass : Bool)
    (name : Option String) :
    After (declareType node isClass name) draft fun id? new =>
      draft.Keeps background.prelude new ∧ ∀ id ∈ id?, new.IsSettled id := by
  simp only [declareType]
  split
  next name =>
    refine (after_declareName h name).bind ?_
    rintro id new ⟨hnew, hid⟩
    split
    · refine (after_noteClass hnew.closed node hid.1).bind fun _ last hlast => ?_
      refine After.pure ⟨hnew.trans hlast, ?_⟩
      rintro _ ⟨⟩
      exact hlast.settled id hid
    · refine After.pure ⟨hnew, ?_⟩
      rintro _ ⟨⟩
      exact hid
  next =>
    split
    · refine h.reserve.bind ?_
      rintro id new ⟨hnew, hid⟩
      refine (after_noteClass hnew.closed node hid.1).bind fun _ last hlast => ?_
      refine After.pure ⟨hnew.toKeeps.trans hlast, ?_⟩
      rintro _ ⟨⟩
      exact hlast.settled id hid
    · exact After.pure ⟨h.refl.toKeeps, by simp⟩

theorem after_declareNode (h : draft.IsClosed background.prelude) (node : NodeId) :
    After (background.declareNode node) draft fun id? new =>
      draft.Keeps background.prelude new ∧ ∀ id ∈ id?, new.IsSettled id := by
  simp only [declareNode]
  split
  next construct _ =>
    split
    next name params _ =>
      refine (after_declareParams h params).bind ?_
      rintro ids new ⟨hnew, hids⟩
      refine (after_noteParams hnew.closed node hids).bind fun _ noted hnoted => ?_
      refine (after_declareType hnoted.closed node _ name).imp ?_
      rintro id? last ⟨hlast, hid⟩
      exact ⟨hnew.trans (hnoted.trans hlast), hid⟩
    next => exact After.pure ⟨h.refl.toKeeps, by simp⟩
  next => exact After.pure ⟨h.refl.toKeeps, by simp⟩

/-- **Declaring the types of a file** gives them places that are settled. -/
theorem after_declareAll (h : draft.IsClosed background.prelude) (nodes : List NodeId) :
    After (background.declareAll nodes) draft fun declarations new =>
      draft.Keeps background.prelude new ∧
        ∀ declaration ∈ declarations, new.IsSettled declaration.2 := by
  induction nodes generalizing draft with
  | nil => exact After.pure ⟨h.refl.toKeeps, by simp⟩
  | cons node rest ih =>
    simp only [declareAll]
    refine (after_declareNode h node).bind ?_
    rintro id? new ⟨hnew, hid⟩
    cases id? with
    | some id =>
      refine (ih hnew.closed).bind ?_
      rintro declarations last ⟨hlast, hdeclarations⟩
      refine After.pure ⟨hnew.trans hlast, fun declaration hdeclaration => ?_⟩
      rcases List.mem_cons.mp hdeclaration with rfl | hrest
      · exact hlast.settled id (hid id rfl)
      · exact hdeclarations declaration hrest
    | none =>
      refine (ih hnew.closed).imp ?_
      rintro declarations last ⟨hlast, hdeclarations⟩
      exact ⟨hnew.trans hlast, hdeclarations⟩

/-! ### Bounds of generic parameters -/

theorem after_defineBounds (h : draft.IsClosed background.prelude) (site : NodeId)
    {params : List ((String × TypeId) × TypeParameter)}
    (hparams : ∀ param ∈ params, draft.IsSettled param.1.2) :
    After (background.defineBounds site params) draft fun _ new =>
      draft.Keeps background.prelude new := by
  induction params generalizing draft with
  | nil => exact h.refl.toKeeps
  | cons param rest ih =>
    obtain ⟨⟨name, id⟩, param⟩ := param
    have hid : draft.IsSettled id := hparams _ List.mem_cons_self
    have hrest : ∀ new : Draft, draft.Keeps background.prelude new →
        After (background.defineBounds site rest) new fun _ last =>
          draft.Keeps background.prelude last := by
      intro new hnew
      have hsettled : ∀ param ∈ rest, new.IsSettled param.1.2 :=
        fun param hparam => hnew.settled _ (hparams param (List.mem_cons_of_mem _ hparam))
      exact (ih hnew.closed hsettled).imp fun _ _ hlast => hnew.trans hlast
    simp only [defineBounds]
    split
    next written _ =>
      refine (after_resolve h site written).bind ?_
      rintro bound new ⟨hnew, hbound⟩
      have hentry : new.Admits (.parameter name (some bound)) :=
        admits_of_places (by simpa [TypeEntry.places] using hbound) (by simp)
      -- the place of the parameter is still settled after its bound is resolved
      refine (hnew.closed.define hentry (hnew.settled id hid).2).bind fun _ defined hdefined => ?_
      exact hrest defined (hnew.toKeeps.trans hdefined.1)
    next => exact hrest draft h.refl.toKeeps

theorem after_defineAllBounds (h : draft.IsClosed background.prelude) (nodes : List NodeId) :
    After (background.defineAllBounds nodes) draft fun _ new =>
      draft.Keeps background.prelude new := by
  induction nodes generalizing draft with
  | nil => exact h.refl.toKeeps
  | cons node rest ih =>
    have hparams : ∀ param ∈ (draft.typeParams[node]?).getD [], draft.IsSettled param.2 := by
      intro param hparam
      rcases hat : draft.typeParams[node]? with _ | params
      · rw [hat] at hparam
        cases hparam
      · rw [hat] at hparam
        exact h.typeParams node params hat param hparam
    simp only [defineAllBounds]
    refine After.get ?_
    split
    next declared _ =>
      refine (after_defineBounds h node fun param hparam => ?_).bind fun _ new hnew => ?_
      · exact hparams param.1 (List.of_mem_zip hparam).1
      · exact (ih hnew.closed).imp fun _ last hlast => hnew.trans hlast
    next => exact ih h

/-! ### Members -/

theorem after_parameterProperty (h : draft.IsClosed background.prelude) (param : NodeId) :
    After (background.parameterProperty param) draft fun members new =>
      draft.Grows background.prelude new ∧ ∀ member ∈ members, new.table.Has member.type := by
  simp only [parameterProperty]
  split
  next written default _ =>
    split
    next memberName _ =>
      refine (after_resolveOrDefer h written _ param).bind ?_
      rintro type new ⟨hnew, htype⟩
      refine After.pure ⟨hnew, ?_⟩
      rintro _ ⟨⟩
      exact htype
    next => exact After.pure ⟨h.refl, by simp⟩
  next => exact After.pure ⟨h.refl, by simp⟩

theorem after_propertiesOfParameters (h : draft.IsClosed background.prelude)
    (params : List NodeId) :
    After (background.propertiesOfParameters params) draft fun members new =>
      draft.Grows background.prelude new ∧ ∀ member ∈ members, new.table.Has member.type := by
  induction params generalizing draft with
  | nil => exact After.pure ⟨h.refl, by simp⟩
  | cons param rest ih =>
    simp only [propertiesOfParameters]
    refine (after_parameterProperty h param).bind ?_
    rintro first new ⟨hnew, hfirst⟩
    refine (ih hnew.closed).bind ?_
    rintro others last ⟨hlast, hothers⟩
    refine After.pure ⟨hnew.trans hlast, fun member hmember => ?_⟩
    rcases List.mem_append.mp hmember with hmember | hmember
    · exact hlast.has (hfirst member (Option.mem_toList.mp hmember))
    · exact hothers member hmember

theorem after_membersOf (h : draft.IsClosed background.prelude) (node : NodeId) :
    After (background.membersOf node) draft fun members new =>
      draft.Grows background.prelude new ∧ ∀ member ∈ members, new.table.Has member.type := by
  have hwritten : ∀ (name : String) (kind : MemberKind) (written : Option TypeExpr)
      (source : Option Deferred),
      After (do
        let type ← background.resolveOrDefer written source node
        return [(⟨name, kind, type⟩ : Member TypeId)]) draft fun members new =>
      draft.Grows background.prelude new ∧ ∀ member ∈ members, new.table.Has member.type := by
    intro name kind written source
    refine (after_resolveOrDefer h written source node).bind ?_
    rintro type new ⟨hnew, htype⟩
    refine After.pure ⟨hnew, fun member hmember => ?_⟩
    obtain rfl := List.mem_singleton.mp hmember
    exact htype
  simp only [membersOf]
  split
  · split
    · exact hwritten ..
    · exact After.pure ⟨h.refl, by simp⟩
  · split
    · split
      · exact after_propertiesOfParameters h _
      · exact hwritten ..
    · exact After.pure ⟨h.refl, by simp⟩
  · exact After.pure ⟨h.refl, by simp⟩

/-- **The members of a class or interface** have types in the table. -/
theorem after_membersOfAll (h : draft.IsClosed background.prelude) (nodes : List NodeId) :
    After (background.membersOfAll nodes) draft fun members new =>
      draft.Grows background.prelude new ∧ ∀ member ∈ members, new.table.Has member.type := by
  induction nodes generalizing draft with
  | nil => exact After.pure ⟨h.refl, by simp⟩
  | cons node rest ih =>
    simp only [membersOfAll]
    refine (after_membersOf h node).bind ?_
    rintro first new ⟨hnew, hfirst⟩
    refine (ih hnew.closed).bind ?_
    rintro others last ⟨hlast, hothers⟩
    refine After.pure ⟨hnew.trans hlast, fun member hmember => ?_⟩
    rcases List.mem_append.mp hmember with hmember | hmember
    · exact hlast.has (hfirst member hmember)
    · exact hothers member hmember

/-! ### Definitions -/

theorem admits_declared {type : NominalType} (hparams : ∀ id ∈ type.params, draft.table.Has id)
    (hsupertypes : ∀ id ∈ type.supertypes, draft.table.Has id)
    (hmembers : ∀ member ∈ type.members, draft.table.Has member.type) :
    draft.Admits (.declared type) := by
  refine admits_of_places (fun place hplace => ?_) (by simp)
  simp only [TypeEntry.places, List.mem_append, List.mem_map] at hplace
  rcases hplace with (hplace | hplace) | ⟨member, hmember, rfl⟩
  · exact hparams place hplace
  · exact hsupertypes place hplace
  · exact hmembers member hmember

/-- What a class or interface declares: supertypes, and members of its own. -/
theorem after_declaredParts (h : draft.IsClosed background.prelude) (node : NodeId)
    (supertypes : List TypeExpr) (members : List NodeId)
    {next : List TypeId → List (Member TypeId) → StateM Draft (Option TypeEntry)}
    (hnext : ∀ (types : List TypeId) (own : List (Member TypeId)) (new : Draft),
      draft.Grows background.prelude new → (∀ id ∈ types, new.table.Has id) →
        (∀ member ∈ own, new.table.Has member.type) →
          After (next types own) new fun data? last =>
            draft.Grows background.prelude last ∧ ∀ data ∈ data?, last.Admits data) :
    After (do
      let types ← background.resolveEach node supertypes
      let own ← background.membersOfAll members
      next types own) draft fun data? new =>
        draft.Grows background.prelude new ∧ ∀ data ∈ data?, new.Admits data := by
  refine (after_resolveEach h node supertypes).bind ?_
  rintro types new ⟨hnew, htypes⟩
  refine (after_membersOfAll hnew.closed members).bind ?_
  rintro own last ⟨hlast, hown⟩
  exact hnext types own last (hnew.trans hlast) (hlast.has_all htypes) hown

theorem after_declaredData (h : draft.IsClosed background.prelude) (node : NodeId) (id : TypeId) :
    After (background.declaredData node id) draft fun data? new =>
      draft.Grows background.prelude new ∧ ∀ data ∈ data?, new.Admits data := by
  have hparams : ∀ id ∈ ((draft.typeParams[node]?).getD []).map (·.2), draft.table.Has id := by
    intro id hid
    obtain ⟨param, hparam, rfl⟩ := List.mem_map.mp hid
    rcases hat : draft.typeParams[node]? with _ | params
    · rw [hat] at hparam
      cases hparam
    · rw [hat] at hparam
      exact (h.typeParams node params hat param hparam).1
  have hdeclared : ∀ (new : Draft) (type : NominalType), draft.Grows background.prelude new →
      new.Admits (.declared type) →
        After (pure (some (.declared type))) new fun data? last =>
          draft.Grows background.prelude last ∧ ∀ data ∈ data?, last.Admits data := by
    intro new type hnew htype
    refine After.pure ⟨hnew, ?_⟩
    rintro _ ⟨⟩
    exact htype
  simp only [declaredData]
  refine After.get ?_
  split
  -- a class
  · refine after_declaredParts h node _ _ fun types own new hnew htypes hown => ?_
    exact hdeclared new _ hnew (admits_declared (hnew.has_all hparams) htypes hown)
  -- an interface, which adds to what an earlier declaration of the name declared
  · refine after_declaredParts h node _ _ fun types own new hnew htypes hown => ?_
    refine After.get ?_
    split
    next earlier hearlier =>
      have hplaces := hnew.closed.has_places hearlier
      simp only [TypeEntry.places, List.mem_append, List.mem_map] at hplaces
      refine hdeclared new _ hnew (admits_declared (fun place hplace => ?_) (fun place hplace => ?_)
        fun member hmember => ?_)
      · exact hplaces place (.inl (.inl hplace))
      · rcases List.mem_append.mp hplace with hplace | hplace
        · exact hplaces place (.inl (.inr hplace))
        · exact htypes place hplace
      · rcases List.mem_append.mp hmember with hmember | hmember
        · exact hplaces member.type (.inr ⟨member, hmember, rfl⟩)
        · exact hown member hmember
    next => exact hdeclared new _ hnew (admits_declared (hnew.has_all hparams) htypes hown)
  -- an alias, unless it is one of itself
  · refine (after_resolve h node _).bind ?_
    rintro target new ⟨hnew, htarget⟩
    split
    · refine After.pure ⟨hnew, ?_⟩
      rintro _ ⟨⟩
      exact admits_unknown
    · refine After.pure ⟨hnew, ?_⟩
      rintro _ ⟨⟩
      refine admits_of_places (fun place hplace => ?_) (by simp)
      rcases List.mem_cons.mp hplace with rfl | hplace
      · exact htarget
      · exact hnew.has (hparams place hplace)
  · exact After.pure ⟨h.refl, by simp⟩

/-- **Defining the declarations of a file** at places that are settled. -/
theorem after_defineAll (h : draft.IsClosed background.prelude)
    {declarations : List (NodeId × TypeId)}
    (hdeclarations : ∀ declaration ∈ declarations, draft.IsSettled declaration.2) :
    After (background.defineAll declarations) draft fun _ new =>
      draft.Keeps background.prelude new := by
  induction declarations generalizing draft with
  | nil => exact h.refl.toKeeps
  | cons declaration rest ih =>
    obtain ⟨node, id⟩ := declaration
    have hid : draft.IsSettled id := hdeclarations _ List.mem_cons_self
    have hrest : ∀ new : Draft, draft.Keeps background.prelude new →
        After (background.defineAll rest) new fun _ last =>
          draft.Keeps background.prelude last := by
      intro new hnew
      have hsettled : ∀ declaration ∈ rest, new.IsSettled declaration.2 :=
        fun other hother => hnew.settled _ (hdeclarations other (List.mem_cons_of_mem _ hother))
      exact (ih hnew.closed hsettled).imp fun _ _ hlast => hnew.trans hlast
    simp only [defineAll]
    refine (after_declaredData h node id).bind ?_
    rintro data? new ⟨hnew, hdata⟩
    cases data? with
    | some data =>
      -- the place is settled, so nothing that is deferred gets defined
      refine (hnew.closed.define (hdata data rfl) (hnew.settled id hid).2).bind ?_
      rintro _ defined ⟨hdefined, -⟩
      exact hrest defined (hnew.toKeeps.trans hdefined)
    | none => exact hrest new hnew.toKeeps

/-! ### Names of values -/

theorem after_bind (h : draft.IsClosed background.prelude) (name : NodeId) {type : TypeId}
    (htype : draft.table.Has type) :
    After (background.bind name type) draft fun _ new => draft.Grows background.prelude new := by
  have hsymbols : ∀ (symbol : SymbolId) (id : TypeId),
      (draft.symbols.push type)[symbol]? = some id → draft.table.Has id := by
    intro symbol id hid
    rw [Array.getElem?_push] at hid
    split at hid
    · exact Option.some.inj hid ▸ htype
    · exact h.symbols symbol id hid
  simp only [Background.bind]
  split
  · simp only [After, StateT.run, modify, modifyGet, MonadStateOf.modifyGet, StateT.modifyGet]
    simp only [pure]
    split
    · exact h.refl
    · exact ⟨⟨{ h with symbols := hsymbols }, Nat.le_refl _, fun _ hid => hid⟩, fun _ _ => rfl⟩
  · exact h.refl

theorem after_bindNode (h : draft.IsClosed background.prelude) (node : NodeId) :
    After (background.bindNode node) draft fun _ new => draft.Grows background.prelude new := by
  simp only [bindNode]
  have hbind : ∀ (name : NodeId) (written : Option TypeExpr) (source : Option Deferred),
      After (do
        let type ← background.resolveOrDefer written source node
        background.bind name type) draft fun _ new => draft.Grows background.prelude new := by
    intro name written source
    refine (after_resolveOrDefer h written source node).bind ?_
    rintro type new ⟨hnew, htype⟩
    exact (after_bind hnew.closed name htype).imp fun _ _ hlast => hnew.trans hlast
  split
  · exact hbind ..
  · exact hbind ..
  · refine (after_resolveOrDefer h _ _ node).bind ?_
    rintro result new ⟨hnew, hresult⟩
    have hentry : new.Admits (.function result) :=
      admits_of_places (by simpa [TypeEntry.places] using hresult) (by simp)
    refine (hnew.trans_push hentry).bind ?_
    rintro type pushed ⟨hpushed, htype⟩
    exact (after_bind hpushed.closed _ htype).imp fun _ _ hlast => hpushed.trans hlast
  · exact h.refl

theorem after_bindAll (h : draft.IsClosed background.prelude) (nodes : List NodeId) :
    After (background.bindAll nodes) draft fun _ new => draft.Grows background.prelude new := by
  induction nodes generalizing draft with
  | nil => exact h.refl
  | cons node rest ih =>
    simp only [bindAll]
    refine (after_bindNode h node).bind fun _ new hnew => ?_
    exact (ih hnew.closed).imp fun _ _ hlast => hnew.trans hlast

/-! ### From the prelude to the prelude -/

/-- The draft before the file is looked at is closed. -/
theorem isClosed_start (h : background.prelude.IsClosed) :
    background.start.IsClosed background.prelude := by
  have hsettled : ∀ id : Nat, background.prelude.table.Has id → background.start.IsSettled id :=
    fun id hid => ⟨hid, by simp [start]⟩
  refine ⟨h, hsettled, fun id entry hentry => ⟨h.entries id entry hentry, ?_⟩, by simp [start],
    by simp [start], by simp [start], by simp [start], by simp [start], by simp [start]⟩
  rintro target arguments rfl
  exact hsettled target (h.entries id _ hentry target List.mem_cons_self)

/-- **After the declarations of a file the draft is closed.** -/
theorem after_bindFile (h : background.prelude.IsClosed) :
    After background.bindFile background.start fun _ new => new.IsClosed background.prelude := by
  simp only [bindFile]
  -- places for the declarations, definitions at these places, and then the names of values
  refine (after_declareAll (isClosed_start h) _).bind fun declarations places hplaces => ?_
  obtain ⟨hplaces, hdeclarations⟩ := hplaces
  refine (after_defineAllBounds hplaces.closed _).bind fun _ bounds hbounds => ?_
  refine (after_defineAll hbounds.closed fun declaration hdeclaration => ?_).bind ?_
  · exact hbounds.settled _ (hdeclarations declaration hdeclaration)
  · intro _ defined hdefined
    exact (after_bindAll hdefined.closed _).imp fun _ _ hlast => hlast.closed

end Background

/-- The prelude that declares nothing is closed. -/
theorem Prelude.isClosed_empty : Prelude.empty.IsClosed := by
  have hplaces : ∀ entry ∈ TypeTable.intrinsics.toList, entry.places = [] := by decide
  refine ⟨fun id entry hentry place hplace => ?_, Nat.le_refl _, by simp [empty], by simp [empty]⟩
  rw [hplaces entry (Array.mem_toList_iff.mpr (Array.mem_of_getElem? hentry))] at hplace
  cases hplace

/-- **A finished draft makes a closed prelude.** -/
theorem Draft.IsClosed.prelude {prelude : Prelude} {draft : Draft} (h : draft.IsClosed prelude) :
    draft.prelude.IsClosed := by
  refine ⟨fun id entry hentry => (h.entries id entry hentry).1, ?_,
    fun name id hid => (h.typeNames name id hid).1, fun name id hid => ?_⟩
  · exact (h.intrinsic (show TypeId.null < _ by decide)).1
  · simp only [Draft.prelude, Std.TreeMap.getElem?_filterMap] at hid
    obtain ⟨symbol, -, hsymbol⟩ := Option.pbind_eq_some_iff.mp hid
    exact h.symbols symbol id hsymbol

end StreamLint
