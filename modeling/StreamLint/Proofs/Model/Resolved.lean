import StreamLint.Model.Inference
import StreamLint.Proofs.Model.Closed
import StreamLint.Proofs.Repetitions
/-!
# Places that are handed out

What resolving a written type, joining types, and seeing a type through arguments give: places of a
closed draft that is at least what it was before. None of these steps settles anything, so none of
them asks for the type of an expression.
-/

namespace StreamLint

/-! ### Keywords and literals -/

theorem KeywordType.lt_intrinsics {keyword : KeywordType} {id : Nat}
    (h : keyword.id? = some id) : id < TypeTable.intrinsics.size := by
  cases keyword <;> cases h <;> decide

theorem LiteralKind.writtenId_lt (kind : LiteralKind) :
    kind.writtenId < TypeTable.intrinsics.size := by
  cases kind <;> decide

namespace Background

open Draft

variable {background : Background} {draft : Draft}

/-! ### Names -/

theorem isSettled_of_typeNamed? (h : draft.IsClosed background.prelude) {name : String}
    {id : TypeId} (hid : background.typeNamed? draft name = some id) : draft.IsSettled id := by
  unfold typeNamed? at hid
  split at hid
  next found hfound =>
    obtain rfl := Option.some.inj hid
    exact h.typeNames name found hfound
  next => exact h.kept id (h.outside.types name id hid)

theorem isSettled_of_parameterNamed? (h : draft.IsClosed background.prelude) {name : String}
    {node : NodeId} {id : TypeId} (hid : background.parameterNamed? draft name node = some id) :
    draft.IsSettled id := by
  obtain ⟨owner, -, howner⟩ := List.exists_of_findSome?_eq_some hid
  obtain ⟨params, hparams, hfound⟩ := Option.bind_eq_some_iff.mp howner
  obtain ⟨param, hparam, rfl⟩ := Option.map_eq_some_iff.mp hfound
  exact h.typeParams owner params hparams param (List.mem_of_find?_eq_some hparam)

/-! ### Written types -/

/-- A name gives a place. -/
theorem after_resolveName (h : draft.IsClosed background.prelude) (name : String)
    {arguments : List TypeId} (harguments : ∀ id ∈ arguments, draft.table.Has id) :
    After (background.resolveName name arguments) draft fun id new =>
      draft.Grows background.prelude new ∧ new.table.Has id := by
  unfold resolveName
  split
  -- an array, of elements of unknown type if no argument says of which
  · refine h.grows_push (admits_of_places (fun place hplace => ?_) (by simp))
    obtain rfl := List.mem_singleton.mp hplace
    cases arguments with
    | nil => exact (h.intrinsic (by decide)).1
    | cons first rest => exact harguments first List.mem_cons_self
  · refine After.get ?_
    split
    -- a name that is declared; any other one is foreign
    next target htarget =>
      have hsettled := isSettled_of_typeNamed? h htarget
      split
      · exact ⟨h.refl, hsettled.1⟩
      · exact h.grows_push (admits_reference hsettled harguments)
    next => exact h.grows_push (admits_of_places harguments (by simp))

-- The recursion is that of written types: a type is put into the table after its parts, so that its
-- places are in use by then.
mutual

/-- **A written type gives a place.** -/
theorem after_resolve {draft : Draft} (h : draft.IsClosed background.prelude) (site : NodeId)
    (type : TypeExpr) :
    After (background.resolve site type) draft fun id new =>
      draft.Grows background.prelude new ∧ new.table.Has id := by
  cases type with
  | keyword k =>
    simp only [resolve]
    split
    next id hid => exact ⟨h.refl, (h.intrinsic (KeywordType.lt_intrinsics hid)).1⟩
    next => exact h.grows_push (admits_of_places (by simp [TypeEntry.places]) (by simp))
  | literal kind =>
    simp only [resolve]
    exact ⟨h.refl, (h.intrinsic kind.writtenId_lt).1⟩
  | named name arguments =>
    simp only [resolve]
    refine After.get ?_
    split
    next param hparam => exact ⟨h.refl, (isSettled_of_parameterNamed? h hparam).1⟩
    next =>
      refine (after_resolveEach h site arguments).bind ?_
      rintro resolved new ⟨hnew, hresolved⟩
      refine (after_resolveName hnew.closed name hresolved).imp ?_
      rintro id last ⟨hlast, hid⟩
      exact ⟨hnew.trans hlast, hid⟩
  | union members =>
    simp only [resolve]
    refine After.push ((after_resolveEach h site members).imp ?_)
    rintro resolved new ⟨hnew, hresolved⟩
    exact ⟨hnew, admits_of_places hresolved (by simp)⟩
  | intersection members =>
    simp only [resolve]
    refine After.push ((after_resolveEach h site members).imp ?_)
    rintro resolved new ⟨hnew, hresolved⟩
    exact ⟨hnew, admits_of_places hresolved (by simp)⟩
  | array element =>
    simp only [resolve]
    refine After.push ((after_resolve h site element).imp ?_)
    rintro resolved new ⟨hnew, hresolved⟩
    exact ⟨hnew, admits_of_places (by simpa [TypeEntry.places]) (by simp)⟩
  | tuple elements =>
    simp only [resolve]
    refine After.push ((after_resolveEach h site elements).imp ?_)
    rintro resolved new ⟨hnew, hresolved⟩
    exact ⟨hnew, admits_of_places hresolved (by simp)⟩
  | function returnType =>
    simp only [resolve]
    refine After.push ((after_resolve h site returnType).imp ?_)
    rintro resolved new ⟨hnew, hresolved⟩
    exact ⟨hnew, admits_of_places (by simpa [TypeEntry.places]) (by simp)⟩
  | object members =>
    simp only [resolve]
    refine After.push ((after_resolveMembers h site members).imp ?_)
    rintro resolved new ⟨hnew, hresolved⟩
    exact ⟨hnew, admits_of_places (by simpa [TypeEntry.places]) (by simp)⟩
  | unsupported text =>
    simp only [resolve]
    exact ⟨h.refl, (h.intrinsic (show TypeId.unknown < _ by decide)).1⟩

theorem after_resolveEach {draft : Draft} (h : draft.IsClosed background.prelude) (site : NodeId)
    (types : List TypeExpr) :
    After (background.resolveEach site types) draft (draft.Gives background.prelude) := by
  cases types with
  | nil =>
    simp only [resolveEach]
    exact After.pure ⟨h.refl, by simp⟩
  | cons type rest =>
    simp only [resolveEach]
    refine (after_resolve h site type).bind ?_
    rintro id new ⟨hnew, hid⟩
    refine (after_resolveEach hnew.closed site rest).bind ?_
    rintro ids last hlast
    exact After.pure (hnew.gives (hlast.cons hid))

theorem after_resolveMembers {draft : Draft} (h : draft.IsClosed background.prelude) (site : NodeId)
    (members : List (Member TypeExpr)) :
    After (background.resolveMembers site members) draft fun members new =>
      draft.Grows background.prelude new ∧ ∀ member ∈ members, new.table.Has member.type := by
  cases members with
  | nil =>
    simp only [resolveMembers]
    exact After.pure ⟨h.refl, by simp⟩
  | cons member rest =>
    obtain ⟨name, kind, type⟩ := member
    simp only [resolveMembers]
    refine (after_resolve h site type).bind ?_
    rintro id new ⟨hnew, hid⟩
    refine (after_resolveMembers hnew.closed site rest).bind ?_
    rintro ids last ⟨hlast, hids⟩
    refine ⟨hnew.trans hlast, fun other hother => ?_⟩
    rcases List.mem_cons.mp hother with rfl | hother
    · exact hlast.has hid
    · exact hids other hother

end

/-- What is written, or found out later, has a place. -/
theorem after_resolveOrDefer (h : draft.IsClosed background.prelude) (written : Option TypeExpr)
    (source : Option Deferred) (site : NodeId) :
    After (background.resolveOrDefer written source site) draft fun id new =>
      draft.Grows background.prelude new ∧ new.table.Has id := by
  match written, source with
  | some type, _ => exact after_resolve h site type
  | none, some source => exact h.defer source
  | none, none => exact ⟨h.refl, (h.intrinsic (show TypeId.unknown < _ by decide)).1⟩

/-- What `new` makes has a place. -/
theorem after_typeOfNew (h : draft.IsClosed background.prelude) (node callee : NodeId)
    (written : List TypeExpr) :
    After (background.typeOfNew node callee written) draft (draft.Gives background.prelude) := by
  simp only [typeOfNew]
  split
  · exact After.pure ⟨h.refl, by simp⟩
  next name _ =>
    refine (after_resolveEach h node written).bind ?_
    rintro arguments new ⟨hnew, harguments⟩
    refine After.get ?_
    split
    next target htarget =>
      have hsettled := isSettled_of_typeNamed? hnew.closed htarget
      split
      · exact After.pure (hnew.gives_some hsettled.1)
      · exact After.answer (hnew.trans_push (admits_reference hsettled harguments))
    next => exact After.answer (hnew.trans_push (admits_of_places harguments (by simp)))

/-- A function expression has a place. -/
theorem after_typeOfFunction (h : draft.IsClosed background.prelude) (node : NodeId)
    (returnType : Option TypeExpr) (body : Option NodeId) :
    After (background.typeOfFunction node returnType body) draft
      (draft.Gives background.prelude) := by
  unfold typeOfFunction
  refine (after_resolveOrDefer h returnType (body.map .body) node).bind fun result new hnew => ?_
  obtain ⟨hnew, hresult⟩ := hnew
  refine After.answer (hnew.trans_push (admits_of_places ?_ (by simp)))
  simpa [TypeEntry.places] using hresult

end Background

namespace Draft

variable {prelude : Prelude} {draft : Draft}

/-! ### Joined types -/

/-- **Types joined have a place.** -/
theorem IsClosed.after_joinTypes (h : draft.IsClosed prelude) {types : List TypeId}
    (htypes : ∀ id ∈ types, draft.table.Has id) :
    After (joinTypes types) draft (draft.Gives prelude) := by
  have hreps : ∀ id ∈ types.eraseReps, draft.table.Has id :=
    fun id hid => htypes id (mem_of_mem_eraseRepsBy hid)
  unfold joinTypes
  split
  · exact After.pure ⟨h.refl, by simp⟩
  next only honly =>
    exact After.pure (h.refl.gives_some (hreps only (honly ▸ List.mem_singleton_self only)))
  next => exact After.answer (h.grows_push (admits_of_places hreps (by simp)))

/-! ### Types seen through arguments -/

/-- Steps for every member of a list, each of which gives a place. -/
theorem After.mapM {step : TypeId → StateM Draft TypeId} (h : draft.IsClosed prelude)
    {ids : List TypeId} (hids : ∀ id ∈ ids, draft.table.Has id)
    (hstep : ∀ now : Draft, draft.Grows prelude now → ∀ id ∈ ids, now.table.Has id →
      After (step id) now fun id' new => now.Grows prelude new ∧ new.table.Has id') :
    After (ids.mapM step) draft (draft.Gives prelude) := by
  induction ids generalizing draft with
  | nil =>
    rw [List.mapM_nil]
    exact After.pure ⟨h.refl, by simp⟩
  | cons first rest ih =>
    rw [List.mapM_cons]
    refine (hstep draft h.refl first List.mem_cons_self (hids first List.mem_cons_self)).bind ?_
    rintro id new ⟨hnew, hid⟩
    have hrest : ∀ id ∈ rest, new.table.Has id :=
      fun id hid => hnew.has (hids id (List.mem_cons_of_mem _ hid))
    refine (ih hnew.closed hrest fun now hnow id hid =>
      hstep now (hnew.trans hnow) id (List.mem_cons_of_mem _ hid)).bind ?_
    rintro ids last hlast
    exact After.pure (hnew.gives (hlast.cons hid))

/-- Steps that are followed by putting what they give at the end of the table, unless that is what
stands at a place in use. -/
theorem after_renewed {α : Type} {action : StateM Draft α} {entry : α → TypeEntry} {type : TypeId}
    (htype : draft.table.Has type)
    (h : After action draft fun value new => draft.Grows prelude new ∧ new.Admits (entry value)) :
    After (do
      let value ← action
      if (← get).table.get? type == some (entry value) then pure type
      else Draft.push (entry value)) draft fun id new =>
        draft.Grows prelude new ∧ new.table.Has id := by
  refine h.bind ?_
  rintro value new ⟨hnew, hentry⟩
  refine After.get ?_
  split
  · exact ⟨hnew, hnew.has htype⟩
  · exact hnew.trans_push hentry

/-- **A type seen through arguments has a place.** -/
theorem IsClosed.after_substitute (h : draft.IsClosed prelude) (params : List TypeId)
    {arguments : List TypeId} (harguments : ∀ id ∈ arguments, draft.table.Has id) (budget : Nat)
    {type : TypeId} (htype : draft.table.Has type) :
    After (substitute params arguments budget type) draft fun id new =>
      draft.Grows prelude new ∧ new.table.Has id := by
  induction budget generalizing draft type with
  | zero => exact ⟨h.refl, htype⟩
  | succ budget ih =>
    have hinner : ∀ ids : List TypeId, (∀ id ∈ ids, draft.table.Has id) →
        After (ids.mapM (substitute params arguments budget)) draft (draft.Gives prelude) := by
      intro ids hids
      exact After.mapM h hids fun now hnow id _ hid => ih hnow.closed (hnow.has_all harguments) hid
    simp only [substitute]
    split
    · exact ⟨h.refl, htype⟩
    split
    -- a parameter, which stays where there are too few arguments
    next index _ =>
      refine After.pure ⟨h.refl, ?_⟩
      rcases hat : arguments[index]? with _ | argument
      · exact htype
      · exact harguments argument (List.mem_of_getElem? hat)
    next =>
      refine After.get ?_
      split
      -- the target of a reference is no part that is seen through the arguments: it stays settled
      next target inner hentry =>
        obtain ⟨hplaces, htarget⟩ := h.entries type _ hentry
        refine after_renewed htype ((hinner inner ?_).imp ?_)
        · exact fun id hid => hplaces id (List.mem_cons_of_mem _ hid)
        · rintro types new ⟨hnew, htypes⟩
          exact ⟨hnew, admits_reference (hnew.settled target (htarget target inner rfl)) htypes⟩
      next members hentry =>
        refine after_renewed htype ((hinner members ?_).imp ?_)
        · exact h.has_places hentry
        · rintro types new ⟨hnew, htypes⟩
          exact ⟨hnew, admits_of_places htypes (by simp)⟩
      next members hentry =>
        refine after_renewed htype ((hinner members ?_).imp ?_)
        · exact h.has_places hentry
        · rintro types new ⟨hnew, htypes⟩
          exact ⟨hnew, admits_of_places htypes (by simp)⟩
      next element hentry =>
        refine after_renewed htype ((ih h harguments ?_).imp ?_)
        · exact h.has_places hentry element (List.mem_singleton_self element)
        · rintro inner new ⟨hnew, hinner⟩
          exact ⟨hnew, admits_of_places (by simpa [TypeEntry.places] using hinner) (by simp)⟩
      next result hentry =>
        refine after_renewed htype ((ih h harguments ?_).imp ?_)
        · exact h.has_result hentry
        · rintro inner new ⟨hnew, hinner⟩
          exact ⟨hnew, admits_of_places (by simpa [TypeEntry.places] using hinner) (by simp)⟩
      · exact ⟨h.refl, htype⟩

end Draft

end StreamLint
