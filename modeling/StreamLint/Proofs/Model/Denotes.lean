import StreamLint.Proofs.Model.Reserved
/-!
# What written types denote

A written type is resolved to a place, and the table says at that place, and at the places of its
parts, what has been written (`StreamLint.Background.Denotes`). Names stand for what they refer to
when they are resolved: for a generic parameter around the node, for a declared type, or for nothing
that is visible.

The types that are put together from others stay as they are while declarations are defined, while
names are bound and while expressions are typed. So a place goes on denoting what has been written
(`StreamLint.Background.Denotes.mono`), whatever becomes of the declared types meanwhile.
-/

namespace StreamLint

/-- The type is put together from others, or a name without a visible declaration. -/
def TypeEntry.isComposed : TypeEntry → Bool
  | .reference .. | .union .. | .intersection .. | .array .. | .tuple .. | .function .. | .object ..
  | .foreign .. => true
  | _ => false

/-- **What is written is carried over**: names stay, and types that are put together from others stay
as they are. -/
structure Draft.Carries (old new : Draft) : Prop where
  /-- Names stay. -/
  names : old.SameNames new
  /-- Composed types stay. -/
  composed : ∀ (id : TypeId) (entry : TypeEntry), entry.isComposed = true →
    old.table.get? id = some entry → new.table.get? id = some entry

theorem Draft.Carries.refl (draft : Draft) : draft.Carries draft :=
  ⟨.refl draft, fun _ _ _ => id⟩

theorem Draft.Carries.trans {a b c : Draft} (hab : a.Carries b) (hbc : b.Carries c) : a.Carries c :=
  ⟨hab.names.trans hbc.names, fun id entry hentry hat =>
    hbc.composed id entry hentry (hab.composed id entry hentry hat)⟩

namespace Background

open Draft

/-- The place is that of a name with the given arguments, unless it is a generic parameter. -/
def NameDenotes (background : Background) (draft : Draft) (name : String) (arguments : List TypeId)
    (id : TypeId) : Prop :=
  if name == "Array" || name == "ReadonlyArray" then
    draft.table.get? id = some (.array (arguments.head?.getD .unknown))
  else
    match background.typeNamed? draft name with
    | some target =>
      if arguments.isEmpty then id = target
      else draft.table.get? id = some (.reference target arguments)
    | none => draft.table.get? id = some (.foreign name arguments)

mutual

/-- **The place is that of the written type**, seen from the node `site`. -/
def Denotes (background : Background) (draft : Draft) (site : NodeId) : TypeExpr → TypeId → Prop
  | .keyword k, id =>
    match k.id? with
    | some place => id = place
    | none => draft.table.get? id = some (.object [])
  | .literal kind, id => id = kind.writtenId
  | .named name arguments, id =>
    match background.parameterNamed? draft name site with
    | some param => id = param
    | none => ∃ ids, DenotesEach background draft site arguments ids ∧
        background.NameDenotes draft name ids id
  | .union members, id => ∃ ids, DenotesEach background draft site members ids ∧
      draft.table.get? id = some (.union ids)
  | .intersection members, id => ∃ ids, DenotesEach background draft site members ids ∧
      draft.table.get? id = some (.intersection ids)
  | .array element, id => ∃ inner, Denotes background draft site element inner ∧
      draft.table.get? id = some (.array inner)
  | .tuple elements, id => ∃ ids, DenotesEach background draft site elements ids ∧
      draft.table.get? id = some (.tuple ids)
  | .function returnType, id => ∃ inner, Denotes background draft site returnType inner ∧
      draft.table.get? id = some (.function inner)
  | .object members, id => ∃ own, DenotesMembers background draft site members own ∧
      draft.table.get? id = some (.object own)
  | .unsupported _, id => id = .unknown

/-- The places are those of the written types. -/
def DenotesEach (background : Background) (draft : Draft) (site : NodeId) :
    List TypeExpr → List TypeId → Prop
  | [], ids => ids = []
  | type :: rest, ids => ∃ id others, ids = id :: others ∧ Denotes background draft site type id ∧
      DenotesEach background draft site rest others

/-- The members are the written ones. -/
def DenotesMembers (background : Background) (draft : Draft) (site : NodeId) :
    List (Member TypeExpr) → List (Member TypeId) → Prop
  | [], members => members = []
  | ⟨name, kind, type⟩ :: rest, members => ∃ id others, members = ⟨name, kind, id⟩ :: others ∧
      Denotes background draft site type id ∧ DenotesMembers background draft site rest others

end

variable {background : Background} {draft old new : Draft} {site : NodeId}

/-! ### What is carried over -/

theorem Extends.carries {sources : Deferred → Prop} (h : background.Extends sources old new) :
    old.Carries new :=
  ⟨h.sameNames, fun _ _ _ hat => h.get?_eq_some hat⟩

theorem parameterNamed?_congr (h : old.SameNames new) (name : String) (site : NodeId) :
    background.parameterNamed? new name site = background.parameterNamed? old name site := by
  simp only [parameterNamed?, h.typeParams]

theorem typeNamed?_congr (h : old.SameNames new) (name : String) :
    background.typeNamed? new name = background.typeNamed? old name := by
  simp only [typeNamed?, h.typeNames]

theorem NameDenotes.mono {name : String} {arguments : List TypeId} {id : TypeId}
    (hnew : old.Carries new) (h : background.NameDenotes old name arguments id) :
    background.NameDenotes new name arguments id := by
  unfold NameDenotes at h ⊢
  rw [typeNamed?_congr hnew.names]
  split at h
  next harray =>
    rw [if_pos harray]
    exact hnew.composed _ _ rfl h
  next harray =>
    rw [if_neg harray]
    split at h
    next target htarget =>
      split at h
      next hempty => simpa only [htarget, if_pos hempty] using h
      next hempty => simpa only [htarget, if_neg hempty] using hnew.composed _ _ rfl h
    next hnone => simpa only [hnone] using hnew.composed _ _ rfl h

mutual

/-- **A place goes on denoting what has been written.** -/
theorem Denotes.mono (hnew : old.Carries new) {type : TypeExpr} {id : TypeId}
    (h : background.Denotes old site type id) : background.Denotes new site type id := by
  cases type with
  | keyword k =>
    simp only [Denotes] at h ⊢
    split at h
    next => exact h
    next => exact hnew.composed _ _ rfl h
  | literal kind => exact h
  | named name arguments =>
    simp only [Denotes, parameterNamed?_congr hnew.names] at h ⊢
    split at h
    next => exact h
    next =>
      obtain ⟨ids, hids, hid⟩ := h
      exact ⟨ids, DenotesEach.mono hnew hids, hid.mono hnew⟩
  | union members =>
    obtain ⟨ids, hids, hid⟩ := h
    exact ⟨ids, DenotesEach.mono hnew hids, hnew.composed _ _ rfl hid⟩
  | intersection members =>
    obtain ⟨ids, hids, hid⟩ := h
    exact ⟨ids, DenotesEach.mono hnew hids, hnew.composed _ _ rfl hid⟩
  | array element =>
    obtain ⟨inner, hinner, hid⟩ := h
    exact ⟨inner, Denotes.mono hnew hinner, hnew.composed _ _ rfl hid⟩
  | tuple elements =>
    obtain ⟨ids, hids, hid⟩ := h
    exact ⟨ids, DenotesEach.mono hnew hids, hnew.composed _ _ rfl hid⟩
  | function returnType =>
    obtain ⟨inner, hinner, hid⟩ := h
    exact ⟨inner, Denotes.mono hnew hinner, hnew.composed _ _ rfl hid⟩
  | object members =>
    obtain ⟨own, hown, hid⟩ := h
    exact ⟨own, DenotesMembers.mono hnew hown, hnew.composed _ _ rfl hid⟩
  | unsupported text => exact h

theorem DenotesEach.mono (hnew : old.Carries new) {types : List TypeExpr} {ids : List TypeId}
    (h : background.DenotesEach old site types ids) : background.DenotesEach new site types ids := by
  cases types with
  | nil => exact h
  | cons type rest =>
    obtain ⟨id, others, rfl, hid, hothers⟩ := h
    exact ⟨id, others, rfl, Denotes.mono hnew hid, DenotesEach.mono hnew hothers⟩

theorem DenotesMembers.mono (hnew : old.Carries new) {written : List (Member TypeExpr)}
    {members : List (Member TypeId)} (h : background.DenotesMembers old site written members) :
    background.DenotesMembers new site written members := by
  cases written with
  | nil => exact h
  | cons member rest =>
    obtain ⟨id, others, rfl, hid, hothers⟩ := h
    exact ⟨id, others, rfl, Denotes.mono hnew hid, DenotesMembers.mono hnew hothers⟩

end

/-! ### Resolving -/

theorem after_push_carries (draft : Draft) {data : TypeEntry} :
    After (Draft.push data) draft fun id new =>
      draft.Carries new ∧ new.table.get? id = some data := by
  refine ⟨⟨⟨rfl, rfl⟩, fun id entry _ hat => ?_⟩, TypeTable.get?_push ..⟩
  exact (TypeTable.get?_push_of_lt (TypeTable.has_of_get? hat)).trans hat

theorem after_resolveName_denotes (draft : Draft) (name : String) (arguments : List TypeId) :
    After (background.resolveName name arguments) draft fun id new =>
      draft.Carries new ∧ background.NameDenotes new name arguments id := by
  unfold resolveName NameDenotes
  split
  next => exact after_push_carries draft
  next =>
    refine After.get ?_
    split
    next target htarget =>
      split
      next hempty => exact After.pure ⟨.refl draft, by simp only [htarget]⟩
      next hempty =>
        refine (after_push_carries draft).imp fun id new hnew => ⟨hnew.1, ?_⟩
        simpa only [typeNamed?_congr hnew.1.names, htarget, if_neg hempty] using hnew.2
    next hnone =>
      refine (after_push_carries draft).imp fun id new hnew => ⟨hnew.1, ?_⟩
      simpa only [typeNamed?_congr hnew.1.names, hnone] using hnew.2

/-- What is put at the end of the table after its parts. -/
theorem after_push_parts {α : Type} {action : StateM Draft α} {entry : α → TypeEntry}
    {post : α → Draft → Prop}
    (h : After action draft fun value new => draft.Carries new ∧ post value new)
    (hpost : ∀ {value old new}, old.Carries new → post value old → post value new) :
    After (action >>= fun value => Draft.push (entry value)) draft fun id new =>
      draft.Carries new ∧ ∃ value, post value new ∧ new.table.get? id = some (entry value) := by
  refine h.bind fun value new hnew => (after_push_carries new).imp fun id last hlast => ?_
  exact ⟨hnew.1.trans hlast.1, value, hpost hlast.1 hnew.2, hlast.2⟩

mutual

/-- **A written type is resolved to a place that denotes it.** -/
theorem after_resolve_denotes (draft : Draft) (site : NodeId) (type : TypeExpr) :
    After (background.resolve site type) draft fun id new =>
      draft.Carries new ∧ background.Denotes new site type id := by
  cases type with
  | keyword k =>
    rcases hid : k.id? with _ | place
    · simp only [resolve, Denotes, hid]
      exact after_push_carries draft
    · simp only [resolve, Denotes, hid]
      exact After.pure ⟨.refl draft, rfl⟩
  | literal kind => exact After.pure ⟨.refl draft, rfl⟩
  | named name arguments =>
    simp only [resolve, Denotes]
    refine After.get ?_
    split
    next param hparam => exact After.pure ⟨.refl draft, by simp only [hparam]⟩
    next hnone =>
      refine (after_resolveEach_denotes draft site arguments).bind fun ids new hnew => ?_
      refine (after_resolveName_denotes new name ids).imp fun id last hlast => ?_
      have hcarries := hnew.1.trans hlast.1
      refine ⟨hcarries, ?_⟩
      simp only [parameterNamed?_congr hcarries.names, hnone]
      exact ⟨ids, hnew.2.mono hlast.1, hlast.2⟩
  | union members =>
    exact after_push_parts (after_resolveEach_denotes draft site members) fun hnew h => h.mono hnew
  | intersection members =>
    exact after_push_parts (after_resolveEach_denotes draft site members) fun hnew h => h.mono hnew
  | array element =>
    exact after_push_parts (after_resolve_denotes draft site element) fun hnew h => h.mono hnew
  | tuple elements =>
    exact after_push_parts (after_resolveEach_denotes draft site elements) fun hnew h => h.mono hnew
  | function returnType =>
    exact after_push_parts (after_resolve_denotes draft site returnType) fun hnew h => h.mono hnew
  | object members =>
    exact after_push_parts (after_resolveMembers_denotes draft site members)
      fun hnew h => h.mono hnew
  | unsupported text => exact After.pure ⟨.refl draft, rfl⟩

theorem after_resolveEach_denotes (draft : Draft) (site : NodeId) (types : List TypeExpr) :
    After (background.resolveEach site types) draft fun ids new =>
      draft.Carries new ∧ background.DenotesEach new site types ids := by
  cases types with
  | nil => exact After.pure ⟨.refl draft, rfl⟩
  | cons type rest =>
    refine (after_resolve_denotes draft site type).bind fun id new hnew => ?_
    refine (after_resolveEach_denotes new site rest).bind fun ids last hlast => ?_
    exact After.pure ⟨hnew.1.trans hlast.1, id, ids, rfl, hnew.2.mono hlast.1, hlast.2⟩

theorem after_resolveMembers_denotes (draft : Draft) (site : NodeId)
    (members : List (Member TypeExpr)) :
    After (background.resolveMembers site members) draft fun own new =>
      draft.Carries new ∧ background.DenotesMembers new site members own := by
  cases members with
  | nil => exact After.pure ⟨.refl draft, rfl⟩
  | cons member rest =>
    obtain ⟨name, kind, type⟩ := member
    refine (after_resolve_denotes draft site type).bind fun id new hnew => ?_
    refine (after_resolveMembers_denotes new site rest).bind fun own last hlast => ?_
    exact After.pure ⟨hnew.1.trans hlast.1, id, own, rfl, hnew.2.mono hlast.1, hlast.2⟩

end

end Background

end StreamLint
