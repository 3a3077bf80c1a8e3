import Mathlib.Data.List.Perm.Subperm
import StreamLint.Proofs.Model.Rest
/-!
# The search for what a call returns

The plain search comes to no end at a union that lies in itself
(`StreamLint.Background.QuestionsAgree.yields_resultOfCall`), and the guarded one stops at such a
union only (`StreamLint.Background.QuestionsAgree.guardedResult_agrees`). Both together say that
they agree.

Two things carry the second part. As long as there is budget, every step into a union takes some of
it. Without budget the unions that the search is in are pairwise different, and each of them
encloses the type that is looked at (`StreamLint.Draft.Encloses`); they can all be met from the
draft in which the budget ran out, so they are not more than that draft has places and deferred
types.
-/

namespace StreamLint

/-! ### Unions around a type -/

namespace Draft

variable {prelude : Prelude} {draft old new : Draft} {steps : Nat}

/-- The type is a member of the union, or of a union that a member of a member of it stands for. -/
def Encloses (draft : Draft) (steps : Nat) (union type : TypeId) : Prop :=
  ∃ inner members, Relation.ReflTransGen (draft.Holds steps) union inner ∧
    draft.table.get? inner = some (.union members) ∧ type ∈ members

theorem Encloses.transGen {union type shape : TypeId} (h : draft.Encloses steps union type)
    (hshape : draft.settledShape? steps type = some shape) :
    Relation.TransGen (draft.Holds steps) union shape := by
  obtain ⟨inner, members, hinner, hunion, hmember⟩ := h
  exact Relation.TransGen.tail' hinner ⟨members, hunion, type, hmember, hshape⟩

/-- A union that lies in itself has a member that stands for such a union. -/
theorem exists_member_liesInItself {union : TypeId} {members : List TypeId}
    (hunion : draft.table.get? union = some (.union members))
    (hloop : (Loop.mk draft union).LiesInItself steps) :
    ∃ member ∈ members, ∃ inner, draft.settledShape? steps member = some inner ∧
      (Loop.mk draft inner).LiesInItself steps := by
  obtain ⟨inner, hfirst, hback⟩ := Relation.TransGen.head'_iff.mp hloop
  obtain ⟨members', hat, member, hmember, hinner⟩ := id hfirst
  rw [hunion] at hat
  obtain rfl := TypeEntry.union.inj (Option.some.inj hat)
  exact ⟨member, hmember, inner, hinner, Relation.TransGen.tail' hback hfirst⟩

theorem Grows.encloses (hold : old.IsClosed prelude) (h : old.Grows prelude new)
    {union type : TypeId} (hencloses : old.Encloses steps union type) :
    new.Encloses steps union type := by
  obtain ⟨inner, members, hinner, hunion, hmember⟩ := hencloses
  refine ⟨inner, members, ?_, h.get?_eq_some hold hunion (by simp), hmember⟩
  exact hinner.lift id fun _ _ => h.holds hold

end Draft

/-! ### What holds if the plain computation comes to an end -/

/-- What holds after a computation, if it comes to an end. -/
def Yields {α : Type} (plain : Inference Option α) (draft : Draft) (post : α → Draft → Prop) :
    Prop :=
  ∀ value new, plain.run draft = some (value, new) → post value new

namespace Yields

variable {α β : Type} {draft : Draft}

theorem pure {value : α} {post : α → Draft → Prop} (h : post value draft) :
    Yields (pure value) draft post := by
  rintro _ _ ⟨⟩
  exact h

theorem bind {plain : Inference Option α} {next : α → Inference Option β}
    {middle : α → Draft → Prop} {post : β → Draft → Prop} (h : Yields plain draft middle)
    (hnext : ∀ value new, middle value new → Yields (next value) new post) :
    Yields (plain >>= next) draft post := by
  intro value new hrun
  rw [StateT.run_bind] at hrun
  obtain ⟨⟨first, mid⟩, hfirst, hrest⟩ := Option.bind_eq_some_iff.mp hrun
  exact hnext first mid (h first mid hfirst) value new hrest

theorem lift {action : StateM Draft α} {post : α → Draft → Prop}
    (h : Draft.After action draft post) : Yields (liftM action) draft post := by
  intro value new hrun
  obtain ⟨rfl, rfl⟩ := Prod.mk.inj (Option.some.inj hrun)
  exact h

theorem imp {plain : Inference Option α} {post post' : α → Draft → Prop}
    (h : Yields plain draft post) (himp : ∀ value new, post value new → post' value new) :
    Yields plain draft post' :=
  fun value new hrun => himp value new (h value new hrun)

theorem get {next : Draft → Inference Option β} {post : β → Draft → Prop}
    (h : Yields (next draft) draft post) : Yields (get >>= next) draft post :=
  h

/-- What holds after a guarded computation, holds after the plain one that it agrees with. -/
theorem ofAgrees {steps : Nat} {guarded : Inference (Except Loop) α} {plain : Inference Option α}
    {post : α → Draft → Prop} (h : Agrees steps guarded plain draft post) :
    Yields plain draft post :=
  fun _ _ hrun => h.post_of_eq_some hrun

/-- Joining what calling each of the types returns comes to an end only if each call does. -/
theorem joinResults {prelude : Prelude} {again : TypeId → Inference Option (Option TypeId)}
    (hdraft : draft.IsClosed prelude) {members : List TypeId} {fact : TypeId → Prop}
    (hstep : ∀ now : Draft, draft.Grows prelude now → ∀ member ∈ members,
      Yields (again member) now fun type? new => now.Gives prelude type? new ∧ fact member) :
    Yields (joinResults again members) draft fun type? new =>
      draft.Gives prelude type? new ∧ ∀ member ∈ members, fact member := by
  have hresults : ∀ now : Draft, draft.Grows prelude now →
      Yields (members.mapM again) now fun results new =>
        now.Grows prelude new ∧ (∀ type? ∈ results, ∀ type ∈ type?, new.table.Has type) ∧
          ∀ member ∈ members, fact member := by
    induction members with
    | nil => exact fun now hnow => Yields.pure ⟨hnow.closed.refl, by simp, by simp⟩
    | cons first rest ih =>
      intro now hnow
      rw [List.mapM_cons]
      refine (hstep now hnow first List.mem_cons_self).bind ?_
      rintro type? new ⟨⟨hnew, htype⟩, hfirst⟩
      -- the other members are called from a draft that has grown
      refine (ih (fun now hnow member hmember => hstep now hnow member
        (List.mem_cons_of_mem _ hmember)) new (hnow.trans hnew)).bind ?_
      rintro results last ⟨hlast, hresults, hrest⟩
      refine Yields.pure ⟨hnew.trans hlast, ?_, ?_⟩
      · exact List.forall_mem_cons.mpr ⟨hlast.has_all htype, hresults⟩
      · exact List.forall_mem_cons.mpr ⟨hfirst, hrest⟩
  refine (hresults draft hdraft.refl).bind ?_
  rintro results new ⟨hnew, hresults, hfacts⟩
  refine (Yields.lift (hnew.closed.after_joinTypes fun type htype => ?_)).imp ?_
  · obtain ⟨type?, htype?, heq⟩ := List.mem_filterMap.mp htype
    exact hresults type? htype? type heq
  · exact fun _ _ hlast => ⟨hnew.gives hlast, hfacts⟩

end Yields

namespace Background

open Draft

/-! ### The search comes to no end in a loop -/

/-- What holds after calling a value of the type `callee`, if that comes to an end: the draft only
grew, what is returned has a place, and the type does not stand for a union that lies in itself. -/
def Ends (background : Background) (callee : TypeId) (draft : Draft) (type? : Option TypeId)
    (new : Draft) : Prop :=
  draft.Gives background.prelude type? new ∧
    ∀ shape, draft.settledShape? background.steps callee = some shape →
      ¬(Loop.mk draft shape).LiesInItself background.steps

namespace QuestionsAgree

variable {background : Background} {guarded : Question (Inference (Except Loop))}
  {plain : Question (Inference Option)} {draft : Draft}

/-- The members of a union, if calling each of them comes to an end only where it should. -/
theorem yields_joinResults {again : TypeId → Inference Option (Option TypeId)}
    (hagain : ∀ now : Draft, now.IsClosed background.prelude → ∀ member, now.table.Has member →
      Yields (again member) now (background.Ends member now))
    (hdraft : draft.IsClosed background.prelude) {members : List TypeId}
    (hmembers : ∀ member ∈ members, draft.table.Has member) :
    Yields (joinResults again members) draft fun type? new =>
      draft.Gives background.prelude type? new ∧
        ∀ member ∈ members, ∀ inner, draft.settledShape? background.steps member = some inner →
          ¬(Loop.mk draft inner).LiesInItself background.steps := by
  refine Yields.joinResults hdraft fun now hnow member hmember => ?_
  have hhas := hmembers member hmember
  refine (hagain now hnow.closed member (hnow.has hhas)).imp ?_
  -- that a member lies in itself is still so once the members before it are called
  rintro type? last ⟨hlast, hends⟩
  refine ⟨hlast, fun inner hinner hloop => ?_⟩
  exact hends inner (hnow.settledShape?_eq_some hdraft hhas hinner) (hnow.liesInItself hdraft hloop)

/-- One step of the search, if the steps below it come to an end only where they should. -/
theorem yields_resultBy (h : background.QuestionsAgree guarded plain)
    {again : TypeId → Inference Option (Option TypeId)}
    (hagain : ∀ now : Draft, now.IsClosed background.prelude → ∀ member, now.table.Has member →
      Yields (again member) now (background.Ends member now))
    (hdraft : draft.IsClosed background.prelude) (budget : Nat) {callee : TypeId}
    (hcallee : draft.table.Has callee) :
    Yields (background.resultBy plain (fun _ members => joinResults again members) budget callee)
      draft (background.Ends callee draft) := by
  unfold resultBy
  refine (Yields.ofAgrees (h.shapeOf hdraft budget hcallee)).bind ?_
  rintro shape now ⟨hnow, hshapehas, hshape⟩
  refine Yields.get ?_
  -- a type that stands for a union in `draft` stands for it in `now`
  have heq : ∀ union, draft.settledShape? background.steps callee = some union → union = shape :=
    fun union hunion => Option.some.inj
      ((hnow.settledShape?_eq_some hdraft hcallee hunion).symm.trans hshape)
  have hother : (∀ members, now.table.get? shape ≠ some (.union members)) →
      ∀ union, draft.settledShape? background.steps callee = some union →
        ¬(Loop.mk draft union).LiesInItself background.steps := by
    intro hne union hunion hloop
    obtain rfl := heq union hunion
    obtain ⟨inner, ⟨members, hat, -⟩, -⟩ :=
      Relation.TransGen.head'_iff.mp (hnow.liesInItself hdraft hloop)
    exact hne members hat
  split
  next result hentry =>
    have hresult := hnow.closed.has_result hentry
    refine (Yields.ofAgrees (h.settle hnow.closed budget result)).bind ?_
    rintro _ new ⟨hnew, -⟩
    exact Yields.pure ⟨(hnow.trans hnew).gives_some (hnew.has hresult), hother (by simp [hentry])⟩
  next members hentry =>
    have hmembers := hnow.closed.has_places hentry
    refine (yields_joinResults hagain hnow.closed hmembers).imp ?_
    rintro type? new ⟨hnew, hends⟩
    refine ⟨hnow.gives hnew, fun union hunion hloop => ?_⟩
    obtain rfl := heq union hunion
    obtain ⟨member, hmember, inner, hinner, hagain⟩ :=
      exists_member_liesInItself hentry (hnow.liesInItself hdraft hloop)
    exact hends member hmember inner hinner hagain
  next hnone hfunction hunion =>
    exact Yields.pure ⟨⟨hnow, by simp⟩, hother fun members hentry => hunion members hentry⟩

/-- **The search comes to an end only where the type does not stand for a union that lies in
itself.** -/
theorem yields_resultOfCall (h : background.QuestionsAgree guarded plain)
    (hdraft : draft.IsClosed background.prelude) (budget : Nat) {callee : TypeId}
    (hcallee : draft.table.Has callee) :
    Yields (background.resultOfCall plain budget callee) draft (background.Ends callee draft) := by
  -- a search that comes to an end does so after finitely many steps: induction over these
  have hpartial := resultOfCall.partial_correctness background plain
    fun _ callee draft result => draft.IsClosed background.prelude → draft.table.Has callee →
      background.Ends callee draft result.1 result.2
  intro value new hrun
  refine hpartial (fun again hagain budget callee draft result hrun hdraft hcallee => ?_)
    budget callee draft (value, new) hrun hdraft hcallee
  refine h.yields_resultBy ?_ hdraft budget hcallee result.1 result.2 hrun
  exact fun now hnow member hmember type? last hlast =>
    hagain (budget - 1) member now (type?, last) hlast hnow hmember

/-- **A union that lies in itself**: going on with its members comes to no end. -/
theorem run_joinResults_eq_none (h : background.QuestionsAgree guarded plain)
    (hdraft : draft.IsClosed background.prelude) (budget : Nat) {union : TypeId}
    {members : List TypeId} (hunion : draft.table.get? union = some (.union members))
    (hloop : (Loop.mk draft union).LiesInItself background.steps) :
    (joinResults (background.resultOfCall plain budget) members : Inference Option _).run draft =
      none := by
  obtain ⟨member, hmember, inner, hinner, hagain⟩ := exists_member_liesInItself hunion hloop
  have hmembers : ∀ member ∈ members, draft.table.Has member := hdraft.has_places hunion
  have hends := yields_joinResults
    (fun now hnow member hmember => h.yields_resultOfCall hnow budget hmember) hdraft hmembers
  rw [Option.eq_none_iff_forall_ne_some]
  rintro ⟨type?, new⟩ hrun
  exact (hends type? new hrun).2 member hmember inner hinner hagain

/-! ### The search with a guard agrees -/

/-- One step of the search agrees if settling does, and what is done with unions. -/
theorem resultBy_agrees {budget : Nat} {callee : TypeId}
    {guardedUnion : TypeId → List TypeId → Inference (Except Loop) (Option TypeId)}
    {plainUnion : TypeId → List TypeId → Inference Option (Option TypeId)}
    {middle : TypeId → Draft → Prop} {post : Option TypeId → Draft → Prop}
    (hshape : Agrees background.steps (background.shapeOf guarded budget callee)
      (background.shapeOf plain budget callee) draft middle)
    (hfunction : ∀ shape now result, middle shape now →
      now.table.get? shape = some (.function result) →
      Agrees background.steps (background.settle guarded budget result)
        (background.settle plain budget result) now fun _ new => post (some result) new)
    (hunion : ∀ shape now members, middle shape now →
      now.table.get? shape = some (.union members) →
      Agrees background.steps (guardedUnion shape members) (plainUnion shape members) now post)
    (hother : ∀ shape now, middle shape now → post none now) :
    Agrees background.steps (background.resultBy guarded guardedUnion budget callee)
      (background.resultBy plain plainUnion budget callee) draft post := by
  unfold resultBy
  refine hshape.bind fun shape now hnow => Agrees.get ?_
  split
  next result hentry =>
    exact (hfunction shape now result hnow hentry).bind fun _ _ hnew => Agrees.pure hnew
  next members hentry => exact hunion shape now members hnow hentry
  next => exact Agrees.pure (hother shape now hnow)

/-- Joining what calling each of the types returns agrees if each call does. What is to hold
throughout has to survive the union that is made in the end. -/
theorem joinResults_agrees {prelude : Prelude} {steps : Nat}
    {guardedStep : TypeId → Inference (Except Loop) (Option TypeId)}
    {plainStep : TypeId → Inference Option (Option TypeId)} (inv : Draft → Prop)
    (hdraft : draft.IsClosed prelude) (hinv : inv draft) {members : List TypeId}
    (hstep : ∀ now : Draft, draft.Grows prelude now → inv now → ∀ member ∈ members,
      Agrees steps (guardedStep member) (plainStep member) now fun type? new =>
        now.Gives prelude type? new ∧ inv new)
    (happends : ∀ now new : Draft, inv now → now.Appends prelude new → inv new) :
    Agrees steps (joinResults guardedStep members) (joinResults plainStep members) draft
      fun type? new => draft.Gives prelude type? new ∧ inv new := by
  have hresults : ∀ now : Draft, draft.Grows prelude now → inv now →
      Agrees steps (members.mapM guardedStep) (members.mapM plainStep) now fun results new =>
        now.Grows prelude new ∧ (∀ type? ∈ results, ∀ type ∈ type?, new.table.Has type) ∧
          inv new := by
    induction members with
    | nil => exact fun now hnow hinv => Agrees.pure ⟨hnow.closed.refl, by simp, hinv⟩
    | cons first rest ih =>
      intro now hnow hinv
      rw [List.mapM_cons, List.mapM_cons]
      refine (hstep now hnow hinv first List.mem_cons_self).bind ?_
      rintro type? new ⟨⟨hnew, htype⟩, hinv⟩
      refine (ih (fun now hnow hinv member hmember => hstep now hnow hinv member
        (List.mem_cons_of_mem _ hmember)) new (hnow.trans hnew) hinv).bind ?_
      rintro results last ⟨hlast, hresults, hinv⟩
      refine Agrees.pure ⟨hnew.trans hlast, ?_, hinv⟩
      exact List.forall_mem_cons.mpr ⟨hlast.has_all htype, hresults⟩
  refine (hresults draft hdraft.refl hinv).bind ?_
  rintro results new ⟨hnew, hresults, hinv⟩
  have htypes : ∀ type ∈ results.filterMap id, new.table.Has type := by
    intro type htype
    obtain ⟨type?, htype?, heq⟩ := List.mem_filterMap.mp htype
    exact hresults type? htype? type heq
  -- making the union puts it at the end of the table, and `inv` survives that
  refine Agrees.lift ⟨hnew.gives (hnew.closed.after_joinTypes htypes), ?_⟩
  exact happends new _ hinv (hnew.closed.after_joinTypes_appends htypes).1

/-- **Without budget** the search with a guard agrees with the plain one, if there is fuel for as
many unions as can be met. -/
theorem resultAtRest_agrees (h : background.QuestionsAgree guarded plain) {root : Draft}
    (hroot : root.IsClosed background.prelude) (fuel : Nat) {path : List TypeId} {callee : TypeId}
    (hdraft : RestsFrom background.prelude root draft) (hcallee : root.table.Has callee)
    (hnodup : path.Nodup) (hmet : ∀ union ∈ path, union ∈ met root draft)
    (hencloses : ∀ union ∈ path, draft.Encloses background.steps union callee)
    (hfuel : root.table.size + root.deferred.size < fuel + path.length) :
    Agrees background.steps (background.resultAtRest guarded fuel path callee)
      (background.resultOfCall plain 0 callee) draft fun type? new =>
        draft.Gives background.prelude type? new ∧ RestsFrom background.prelude root new := by
  induction fuel generalizing draft path callee with
  | zero =>
    -- the path has met more unions than there are, so there is no such path
    have hlength := (List.subperm_of_subset hnodup hmet).length_le
    have hbound : (met root draft).length ≤ _ := length_met_le
    omega
  | succ fuel ih =>
    rw [resultOfCall_eq]
    unfold Background.resultAtRest
    have hhas := hdraft.grows.has hcallee
    have hcalleemet : callee ∈ met root draft := mem_met_iff.mpr (.inl hcallee)
    refine resultBy_agrees ((h.shapeOf hdraft.grows.closed 0 hhas).and
      (h.shapeWithin_zero hroot hdraft _ hcalleemet)) ?_ ?_ ?_
    · rintro shape now result ⟨⟨hnow, -, -⟩, hrests, -⟩ hentry
      have hresult := hnow.closed.has_result hentry
      refine ((h.settle hnow.closed 0 result).and (h.settle_zero hroot hrests result)).imp ?_
      rintro _ new ⟨⟨hnew, -⟩, hrests⟩
      exact ⟨(hnow.trans hnew).gives_some (hnew.has hresult), hrests⟩
    · rintro shape now members ⟨⟨hnow, -, hshape⟩, hrests, hshapemet⟩ hentry
      have htransgen : ∀ union ∈ path,
          Relation.TransGen (now.Holds background.steps) union shape :=
        fun union hmem =>
          (hnow.encloses hdraft.grows.closed (hencloses union hmem)).transGen hshape
      split
      next hmem =>
        -- the union is met for the second time
        have hloop : (Loop.mk now shape).LiesInItself background.steps :=
          htransgen shape (by simpa using hmem)
        exact ⟨h.run_joinResults_eq_none hnow.closed _ hentry hloop, hloop⟩
      next hmem =>
        have hmembers := hrests.has_members hroot hshapemet hentry
        have hnodup' : (shape :: path).Nodup :=
          List.nodup_cons.mpr ⟨by simpa using hmem, hnodup⟩
        have hmet' : ∀ union ∈ shape :: path, union ∈ met root now := List.forall_mem_cons.mpr
          ⟨hshapemet, fun union hunion => hdraft.met_mono hnow (hmet union hunion)⟩
        have hencloses' : ∀ member ∈ members, ∀ union ∈ shape :: path,
            now.Encloses background.steps union member := by
          intro member hmember
          refine List.forall_mem_cons.mpr ⟨?_, fun union hunion => ?_⟩
          · exact ⟨shape, members, .refl, hentry, hmember⟩
          · exact ⟨shape, members, (htransgen union hunion).to_reflTransGen, hentry, hmember⟩
        refine (joinResults_agrees (RestsFrom background.prelude root) hnow.closed hrests
          (fun new hnew hrests' member hmember => ?_)
          fun _ _ hrests' hlast => hrests'.appends hlast).imp ?_
        · -- a member is called below a path that is longer by one, with fuel that is less by one
          refine ih hrests' (hmembers member hmember) hnodup'
            (fun union hunion => hrests.met_mono hnew (hmet' union hunion))
            (fun union hunion => hnew.encloses hnow.closed (hencloses' member hmember union hunion))
            ?_
          rw [List.length_cons]
          omega
        · exact fun _ _ hlast => ⟨hnow.gives hlast.1, hlast.2⟩
    · rintro shape now ⟨⟨hnow, -, -⟩, hrests, -⟩
      exact ⟨⟨hnow, by simp⟩, hrests⟩

/-- **The search with a guard agrees with the plain one.** -/
theorem guardedResult_agrees (h : background.QuestionsAgree guarded plain)
    (hdraft : draft.IsClosed background.prelude) (budget : Nat) {callee : TypeId}
    (hcallee : draft.table.Has callee) :
    Agrees background.steps (background.guardedResult guarded budget callee)
      (background.resultOfCall plain budget callee) draft (draft.Gives background.prelude) := by
  induction budget generalizing draft callee with
  | zero =>
    have hrest := h.resultAtRest_agrees hdraft (draft.table.size + draft.deferred.size + 1)
      hdraft.restsFrom hcallee List.nodup_nil (by simp) (by simp) (by simp)
    exact hrest.imp fun _ _ hnew => hnew.1
  | succ budget ih =>
    rw [resultOfCall_eq]
    unfold Background.guardedResult
    refine resultBy_agrees (h.shapeOf hdraft (budget + 1) hcallee) ?_ ?_ ?_
    · rintro shape now result ⟨hnow, -, -⟩ hentry
      have hresult := hnow.closed.has_result hentry
      refine (h.settle hnow.closed (budget + 1) result).imp ?_
      rintro _ new ⟨hnew, -⟩
      exact (hnow.trans hnew).gives_some (hnew.has hresult)
    · rintro shape now members ⟨hnow, -, -⟩ hentry
      have hmembers := hnow.closed.has_places hentry
      refine (joinResults_agrees (fun _ => True) hnow.closed trivial
        (fun new hnew _ member hmember => ?_) fun _ _ _ _ => trivial).imp ?_
      · refine (ih hnew.closed (hnew.has (hmembers member hmember))).imp ?_
        exact fun _ _ hlast => ⟨hlast, trivial⟩
      · exact fun _ _ hlast => hnow.gives hlast.1
    · exact fun shape now hnow => ⟨hnow.1, by simp⟩

end QuestionsAgree

end Background

end StreamLint
