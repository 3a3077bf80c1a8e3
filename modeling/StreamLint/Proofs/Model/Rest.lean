import StreamLint.Proofs.Model.Agreement
/-!
# Settling without budget

Once no budget is left, nothing is found out about expressions any more; a deferred type becomes an
alias of what is known about its source, and at most one union is made for it. So from a draft
`root` on, only finitely many places can be met by following types: those of `root` itself, and what
its deferred types have become aliases of (`StreamLint.Draft.met`). They are at most as many as
there are places in `root` and types deferred in it (`StreamLint.Draft.length_met_le`), however many
places have been added since.

The whole point is that the members of a union met in this way are places of `root` again
(`StreamLint.Draft.RestsFrom.has_members`).
-/

namespace StreamLint

namespace Draft

variable {prelude : Prelude} {root draft new : Draft}

/-! ### Places that can be met -/

/-- A place of `root`, or a union of places of `root`. -/
def IsPart (root draft : Draft) (type : TypeId) : Prop :=
  root.table.Has type ∨ ∃ members, draft.table.get? type = some (.union members) ∧
    ∀ member ∈ members, root.table.Has member

/-- **What has become of a draft `root` without budget**: it only grew, nothing has been found out
about expressions, and what was deferred and is not any more is unknown or an alias. -/
structure RestsFrom (prelude : Prelude) (root draft : Draft) : Prop where
  /-- The draft only grew. -/
  grows : root.Grows prelude draft
  /-- Nothing has been found out about expressions. -/
  inferred : draft.inferred = root.inferred
  /-- Nothing has been deferred. -/
  deferred : ∀ id : TypeId, root.deferred[id]? = none → draft.deferred[id]? = none
  /-- A type that is not deferred any more is unknown or an alias. -/
  found : ∀ id : TypeId, root.deferred[id]? ≠ none → draft.table.get? id = some .unknown ∨
    ∃ target, draft.table.get? id = some (.alias "" [] target) ∧ IsPart root draft target

/-- The target of an alias. -/
def aliased? (draft : Draft) (id : TypeId) : Option TypeId :=
  match draft.table.get? id with
  | some (.alias _ _ target) => some target
  | _ => none

/-- The places of `root`, and what its deferred types have become aliases of. -/
def met (root draft : Draft) : List TypeId :=
  List.range root.table.size ++ root.deferred.keys.filterMap draft.aliased?

theorem length_met_le : (met root draft).length ≤ root.table.size + root.deferred.size := by
  have hfound := List.length_filterMap_le draft.aliased? root.deferred.keys
  rw [Std.TreeMap.length_keys] at hfound
  simp only [met, List.length_append, List.length_range]
  omega

theorem mem_met_iff {type : TypeId} : type ∈ met root draft ↔ root.table.Has type ∨
    ∃ id : TypeId, root.deferred[id]? ≠ none ∧ draft.aliased? id = some type := by
  have hkeys : ∀ id : TypeId, id ∈ root.deferred.keys ↔ root.deferred[id]? ≠ none := by
    intro id
    rw [Std.TreeMap.mem_keys, Std.TreeMap.mem_iff_isSome_getElem?, Option.isSome_iff_ne_none]
  simp only [met, List.mem_append, List.mem_range, List.mem_filterMap, hkeys, TypeTable.Has]

theorem aliased?_eq_some_iff {id target : TypeId} : draft.aliased? id = some target ↔
    ∃ name params, draft.table.get? id = some (.alias name params target) := by
  unfold aliased?
  split
  next hentry => simp [hentry]
  next hentry =>
    constructor
    · intro h
      cases h
    · rintro ⟨name, params, h⟩
      exact absurd h (hentry name params target)

/-- A draft rests from itself. -/
theorem IsClosed.restsFrom (h : draft.IsClosed prelude) : RestsFrom prelude draft draft := by
  refine ⟨h.refl, rfl, fun _ => id, fun id hid => .inl ?_⟩
  obtain ⟨source, hsource⟩ := Option.ne_none_iff_exists'.mp hid
  exact h.deferred id source hsource

/-- What can be met, can be met after a step that only adds. -/
theorem RestsFrom.met_mono (h : RestsFrom prelude root draft) (hnew : draft.Grows prelude new)
    {type : TypeId} (htype : type ∈ met root draft) : type ∈ met root new := by
  rw [mem_met_iff] at htype ⊢
  refine htype.imp_right ?_
  rintro ⟨id, hid, halias⟩
  refine ⟨id, hid, ?_⟩
  obtain ⟨name, params, hentry⟩ := aliased?_eq_some_iff.mp halias
  exact aliased?_eq_some_iff.mpr
    ⟨name, params, hnew.get?_eq_some h.grows.closed hentry (by simp)⟩

/-- What can be met is a place of `root`, or a union of such places. -/
theorem RestsFrom.isPart (h : RestsFrom prelude root draft) {type : TypeId}
    (hmet : type ∈ met root draft) : IsPart root draft type := by
  rcases mem_met_iff.mp hmet with hhas | ⟨id, hid, halias⟩
  · exact .inl hhas
  · obtain ⟨name, params, halias⟩ := aliased?_eq_some_iff.mp halias
    rcases h.found id hid with hentry | ⟨target, hentry, hpart⟩
    · rw [hentry] at halias
      cases halias
    · rw [hentry] at halias
      obtain ⟨-, -, rfl⟩ := TypeEntry.alias.inj (Option.some.inj halias)
      exact hpart

/-- **A union that can be met has members that were there from the start.** -/
theorem RestsFrom.has_members (hroot : root.IsClosed prelude) (h : RestsFrom prelude root draft)
    {union : TypeId} {members : List TypeId} (hmet : union ∈ met root draft)
    (hunion : draft.table.get? union = some (.union members)) :
    ∀ member ∈ members, root.table.Has member := by
  rcases h.isPart hmet with hhas | ⟨members', hunion', hmembers⟩
  -- what was settled in `root` is as it was there
  · by_cases hdeferred : root.deferred[union]? = none
    · rw [h.grows.get?_eq union ⟨hhas, hdeferred⟩] at hunion
      exact hroot.has_places hunion
    · -- what was deferred is no union
      rcases h.found union hdeferred with hentry | ⟨target, hentry, -⟩
      · simp [hentry] at hunion
      · simp [hentry] at hunion
  · rw [hunion'] at hunion
    obtain rfl := TypeEntry.union.inj (Option.some.inj hunion)
    exact hmembers

/-- **What a type that can be met stands for can be met.** -/
theorem RestsFrom.mem_met_of_standsFor? (hroot : root.IsClosed prelude)
    (h : RestsFrom prelude root draft) {type next : TypeId} (hmet : type ∈ met root draft)
    (hnext : draft.table.standsFor? type = some next) : next ∈ met root draft := by
  rcases h.isPart hmet with hhas | ⟨members, hunion, -⟩
  -- what was settled in `root` stands for what it stood for there
  · by_cases hdeferred : root.deferred[type]? = none
    · rw [h.grows.standsFor?_eq hroot ⟨hhas, hdeferred⟩] at hnext
      exact mem_met_iff.mpr (.inl (hroot.has_standsFor? hnext))
    · rcases h.found type hdeferred with hentry | ⟨target, hentry, -⟩
      · simp [TypeTable.standsFor?, hentry] at hnext
      -- what was deferred has become an alias, whose target can be met
      · obtain rfl : target = next := by simpa [TypeTable.standsFor?, hentry] using hnext
        have halias : draft.aliased? type = some target :=
          aliased?_eq_some_iff.mpr ⟨_, _, hentry⟩
        exact mem_met_iff.mpr (.inr ⟨type, hdeferred, halias⟩)
  · simp [TypeTable.standsFor?, hunion] at hnext

/-! ### Steps without budget -/

/-- A step that finds out nothing, and leaves every place in use as it is. -/
structure Appends (prelude : Prelude) (draft new : Draft) : Prop where
  /-- The draft only grew. -/
  grows : draft.Grows prelude new
  /-- Nothing has been found out about expressions. -/
  inferred : new.inferred = draft.inferred
  /-- The same types are deferred. -/
  deferred : new.deferred = draft.deferred
  /-- A place in use is as it was. -/
  get?_eq : ∀ id : Nat, draft.table.Has id → new.table.get? id = draft.table.get? id

theorem IsClosed.appends (h : draft.IsClosed prelude) : draft.Appends prelude draft :=
  ⟨h.refl, rfl, rfl, fun _ _ => rfl⟩

theorem IsPart.mono {type : TypeId} (h : IsPart root draft type)
    (hget : ∀ id : Nat, draft.table.Has id → new.table.get? id = draft.table.get? id) :
    IsPart root new type := by
  refine h.imp_right ?_
  rintro ⟨members, hunion, hmembers⟩
  refine ⟨members, ?_, hmembers⟩
  rw [hget type (TypeTable.has_of_get? hunion), hunion]

theorem IsPart.has {type : TypeId} (h : IsPart root draft type)
    (hdraft : RestsFrom prelude root draft) : draft.table.Has type := by
  rcases h with hhas | ⟨members, hunion, -⟩
  · exact hdraft.grows.has hhas
  · exact TypeTable.has_of_get? hunion

theorem RestsFrom.appends (h : RestsFrom prelude root draft) (hnew : draft.Appends prelude new) :
    RestsFrom prelude root new := by
  refine ⟨h.grows.trans hnew.grows, hnew.inferred.trans h.inferred,
    fun id hid => hnew.deferred ▸ h.deferred id hid, fun id hid => ?_⟩
  rcases h.found id hid with hentry | ⟨target, hentry, hpart⟩
  · exact .inl ((hnew.get?_eq id (TypeTable.has_of_get? hentry)).trans hentry)
  · exact .inr ⟨target, (hnew.get?_eq id (TypeTable.has_of_get? hentry)).trans hentry,
      hpart.mono hnew.get?_eq⟩

/-- Joined types are one of the types, or a union of them. -/
theorem IsClosed.after_joinTypes_appends (h : draft.IsClosed prelude) {types : List TypeId}
    (htypes : ∀ type ∈ types, draft.table.Has type) :
    After (joinTypes types) draft fun type? new => draft.Appends prelude new ∧
      ∀ type ∈ type?, type ∈ types ∨ ∃ members, new.table.get? type = some (.union members) ∧
        ∀ member ∈ members, member ∈ types := by
  have hreps : ∀ type ∈ types.eraseReps, draft.table.Has type :=
    fun type htype => htypes type (mem_of_mem_eraseRepsBy htype)
  unfold joinTypes
  split
  · exact After.pure ⟨h.appends, by simp⟩
  next only honly =>
    refine After.pure ⟨h.appends, ?_⟩
    rintro _ ⟨⟩
    exact .inl (mem_of_mem_eraseRepsBy (honly ▸ List.mem_singleton_self only))
  next =>
    have hunion : draft.Admits (.union types.eraseReps) := admits_of_places hreps (by simp)
    refine (h.push hunion).bind fun id new hnew => ?_
    obtain ⟨hgrows, hat, hdeferred, hinferred, hget⟩ := hnew
    refine After.pure ⟨⟨hgrows, hinferred, hdeferred, hget⟩, ?_⟩
    rintro _ ⟨⟩
    exact .inr ⟨_, hat, fun member => mem_of_mem_eraseRepsBy⟩

end Draft

namespace Background

open Draft

namespace QuestionsAgree

variable {background : Background} {guarded : Question (Inference (Except Loop))}
  {plain : Question (Inference Option)} {root draft : Draft}

/-- Without budget a question only recalls. -/
theorem ask_zero (h : background.QuestionsAgree guarded plain) (node : NodeId) :
    Agrees background.steps (guarded 0 node) (plain 0 node) draft fun type? new =>
      new = draft ∧ type? = (draft.inferred[node]?).getD none := by
  unfold Agrees
  rw [h.guarded_recalls, h.plain_recalls]
  exact ⟨rfl, rfl, rfl⟩

/-- What is recalled is a place of `root`. -/
theorem ask_zero_has (h : background.QuestionsAgree guarded plain)
    (hroot : root.IsClosed background.prelude) (hinferred : draft.inferred = root.inferred)
    (node : NodeId) :
    Agrees background.steps (guarded 0 node) (plain 0 node) draft fun type? new =>
      new = draft ∧ ∀ type ∈ type?, root.table.Has type := by
  refine (h.ask_zero node).imp ?_
  rintro type? new ⟨hnew, heq⟩
  refine ⟨hnew, fun type htype => ?_⟩
  rcases hfound : draft.inferred[node]? with _ | known
  · simp [heq, hfound] at htype
  · obtain rfl : known = some type := by simpa [heq, hfound] using htype
    exact hroot.inferred node type (hinferred ▸ hfound)

theorem typesOf_zero (h : background.QuestionsAgree guarded plain)
    (hroot : root.IsClosed background.prelude) (hinferred : draft.inferred = root.inferred)
    (nodes : List NodeId) :
    Agrees background.steps (Background.typesOf guarded 0 nodes) (Background.typesOf plain 0 nodes)
      draft fun types new => new = draft ∧ ∀ type ∈ types, root.table.Has type := by
  induction nodes with
  | nil => exact Agrees.pure ⟨rfl, by simp⟩
  | cons node rest ih =>
    simp only [Background.typesOf]
    refine (h.ask_zero_has hroot hinferred node).bind ?_
    rintro first _ ⟨rfl, hfirst⟩
    refine ih.bind ?_
    rintro others _ ⟨rfl, hothers⟩
    refine Agrees.pure ⟨rfl, fun type htype => ?_⟩
    rcases List.mem_append.mp htype with htype | htype
    · exact hfirst type (Option.mem_toList.mp htype)
    · exact hothers type htype

theorem typeOfBody_zero (h : background.QuestionsAgree guarded plain)
    (hroot : root.IsClosed background.prelude) (hdraft : root.Grows background.prelude draft)
    (hinferred : draft.inferred = root.inferred) (body : NodeId) :
    Agrees background.steps (background.typeOfBody guarded 0 body)
      (background.typeOfBody plain 0 body) draft fun type? new =>
        draft.Appends background.prelude new ∧ ∀ type ∈ type?, IsPart root new type := by
  simp only [Background.typeOfBody]
  split
  · split
    · refine Agrees.pure ⟨hdraft.closed.appends, ?_⟩
      rintro _ ⟨⟩
      exact .inl (hroot.intrinsic (show TypeId.void < _ by decide)).1
    · refine (h.typesOf_zero hroot hinferred _).bind ?_
      rintro types _ ⟨rfl, htypes⟩
      -- what the body returns is of types that were known in `root`, joined by at most one union
      refine (Agrees.lift (hdraft.closed.after_joinTypes_appends (hdraft.has_all htypes))).imp ?_
      rintro type? new ⟨hnew, hjoined⟩
      refine ⟨hnew, fun type htype => ?_⟩
      rcases hjoined type htype with hmem | ⟨members, hunion, hmembers⟩
      · exact .inl (htypes type hmem)
      · exact .inr ⟨members, hunion, fun member hmember => htypes member (hmembers member hmember)⟩
  · refine (h.ask_zero_has hroot hinferred body).imp ?_
    rintro type? _ ⟨rfl, htype⟩
    exact ⟨hdraft.closed.appends, fun type hmem => .inl (htype type hmem)⟩

theorem typeOfDeferred_zero (h : background.QuestionsAgree guarded plain)
    (hroot : root.IsClosed background.prelude) (hdraft : root.Grows background.prelude draft)
    (hinferred : draft.inferred = root.inferred) (source : Deferred) :
    Agrees background.steps (background.typeOfDeferred guarded 0 source)
      (background.typeOfDeferred plain 0 source) draft fun type? new =>
        draft.Appends background.prelude new ∧ ∀ type ∈ type?, IsPart root new type := by
  cases source with
  | expression node =>
    refine (h.ask_zero_has hroot hinferred node).imp ?_
    rintro type? _ ⟨rfl, htype⟩
    exact ⟨hdraft.closed.appends, fun type hmem => .inl (htype type hmem)⟩
  | body node => exact h.typeOfBody_zero hroot hdraft hinferred node

/-- Defining a type that was deferred in `root`, as unknown or as an alias. -/
theorem restsFrom_define (hdraft : RestsFrom background.prelude root draft) {type : TypeId}
    (hopen : root.deferred[type]? ≠ none) (hsettled : draft.IsSettled type)
    (hunknown : draft.table.get? type = some .unknown) {data : TypeEntry}
    (hdata : draft.Admits data)
    (hfound : data = .unknown ∨ ∃ target, data = .alias "" [] target ∧ IsPart root draft target) :
    After (Draft.define type data) draft fun _ new => RestsFrom background.prelude root new := by
  obtain ⟨-, hdeferred, hinferred, hother, hself⟩ := hdraft.grows.closed.define hdata hsettled.2
  have hgrows := (hdraft.grows.trans_define hdata hsettled.2 hopen).1
  -- a union is not at the place that is defined
  have hpart : ∀ target, IsPart root draft target →
      IsPart root ((Draft.define type data).run draft).2 target := by
    intro target htarget
    refine htarget.imp_right ?_
    rintro ⟨members, hunion, hmembers⟩
    refine ⟨members, ?_, hmembers⟩
    have hne : target ≠ type := by
      rintro rfl
      rw [hunknown] at hunion
      cases hunion
    rw [hother target hne, hunion]
  refine ⟨hgrows, hinferred.trans hdraft.inferred,
    fun id hid => hdeferred ▸ hdraft.deferred id hid, fun id hid => ?_⟩
  by_cases heq : id = type
  · subst heq
    rw [hself hsettled.1]
    rcases hfound with rfl | ⟨target, rfl, htarget⟩
    · exact .inl rfl
    · exact .inr ⟨target, rfl, hpart target htarget⟩
  · rw [hother id heq]
    refine (hdraft.found id hid).imp_right ?_
    rintro ⟨target, hentry, htarget⟩
    exact ⟨target, hentry, hpart target htarget⟩

/-- **Settling a type without budget.** -/
theorem settle_zero (h : background.QuestionsAgree guarded plain)
    (hroot : root.IsClosed background.prelude) (hdraft : RestsFrom background.prelude root draft)
    (type : TypeId) :
    Agrees background.steps (background.settle guarded 0 type) (background.settle plain 0 type)
      draft fun _ new => RestsFrom background.prelude root new := by
  simp only [Background.settle]
  refine Agrees.get ?_
  split
  next => exact Agrees.pure hdraft
  next source hsource =>
    -- what is deferred now was deferred in `root`, and nothing has been found out about it
    have hopen : root.deferred[type]? ≠ none := by
      intro hnone
      rw [hdraft.deferred type hnone] at hsource
      cases hsource
    have hunknown := hdraft.grows.closed.deferred type source hsource
    have herased : RestsFrom background.prelude root
        { draft with deferred := draft.deferred.erase type } := by
      refine ⟨hdraft.grows.trans (hdraft.grows.closed.grows_erase type), hdraft.inferred,
        fun id hid => ?_, hdraft.found⟩
      rw [Std.TreeMap.getElem?_erase, hdraft.deferred id hid, ite_self]
    refine Agrees.modify ?_
    refine (h.typeOfDeferred_zero hroot herased.grows herased.inferred source).bind ?_
    rintro target? new ⟨hnew, htarget⟩
    have hrests := herased.appends hnew
    have hhas := TypeTable.has_of_get? hunknown
    have hsettled : new.IsSettled type :=
      hnew.grows.settled type ⟨hhas, by simp⟩
    have hentry : new.table.get? type = some .unknown := (hnew.get?_eq type hhas).trans hunknown
    have hdefine : ∀ data : TypeEntry, new.Admits data →
        (data = .unknown ∨ ∃ target, data = .alias "" [] target ∧ IsPart root new target) →
        Agrees background.steps (liftM (Draft.define type data)) (liftM (Draft.define type data))
          new fun _ last => RestsFrom background.prelude root last :=
      fun data hdata hfound =>
        Agrees.lift (restsFrom_define hrests hopen hsettled hentry hdata hfound)
    cases target? with
    | some target =>
      dsimp only
      split
      · exact hdefine _ admits_unknown (.inl rfl)
      · have hpart := htarget target rfl
        refine hdefine _ (admits_of_places ?_ (by simp)) (.inr ⟨target, rfl, hpart⟩)
        rintro place hplace
        obtain rfl := List.mem_singleton.mp hplace
        exact hpart.has hrests
    | none => exact hdefine _ admits_unknown (.inl rfl)

/-- **Following a type without budget** meets only what can be met. -/
theorem shapeWithin_zero (h : background.QuestionsAgree guarded plain)
    (hroot : root.IsClosed background.prelude) (hdraft : RestsFrom background.prelude root draft)
    (steps : Nat) {type : TypeId} (hmet : type ∈ met root draft) :
    Agrees background.steps (background.shapeWithin guarded 0 steps type)
      (background.shapeWithin plain 0 steps type) draft fun shape new =>
        RestsFrom background.prelude root new ∧ shape ∈ met root new := by
  induction steps generalizing draft type with
  | zero => exact Agrees.pure ⟨hdraft, hmet⟩
  | succ steps ih =>
    simp only [Background.shapeWithin]
    refine ((h.settle hdraft.grows.closed 0 type).and (h.settle_zero hroot hdraft type)).bind ?_
    rintro _ new ⟨⟨hnew, -⟩, hrests⟩
    have htype := hdraft.met_mono hnew hmet
    refine Agrees.get ?_
    split
    next next hnext =>
      split
      · exact Agrees.pure ⟨hrests, htype⟩
      · exact ih hrests (hrests.mem_met_of_standsFor? hroot htype hnext)
    next => exact Agrees.pure ⟨hrests, htype⟩

end QuestionsAgree

end Background

end StreamLint
