import Mathlib.Data.List.Forall2
import StreamLint.Proofs.Model.Course
import StreamLint.Proofs.Model.Resolved
/-!
# Types seen through arguments

A member of a generic declaration is seen through the arguments given to the declaration: the first
argument stands for the first parameter, and so on. This goes into references, unions,
intersections, arrays and functions, to a depth; all other types stay the same
(`StreamLint.TypeTable.Instance`).

What is looked into stays as it is while a model is made, and so does what is not: a type that is
found out later is an alias then, and aliases are not looked into. So an instance, once made, goes
on being one (`StreamLint.TypeTable.Instance.mono`).
-/

namespace StreamLint

/-- The types at the same places of two types that are put together in the same way are related. -/
inductive TypeEntry.Alike (rel : TypeId → TypeId → Prop) : TypeEntry → TypeEntry → Prop where
  /-- References to the same target. -/
  | reference {target : TypeId} {inner types : List TypeId} (h : List.Forall₂ rel inner types) :
    Alike rel (.reference target inner) (.reference target types)
  /-- Unions. -/
  | union {members types : List TypeId} (h : List.Forall₂ rel members types) :
    Alike rel (.union members) (.union types)
  /-- Intersections. -/
  | intersection {members types : List TypeId} (h : List.Forall₂ rel members types) :
    Alike rel (.intersection members) (.intersection types)
  /-- Arrays. -/
  | array {element inner : TypeId} (h : rel element inner) : Alike rel (.array element) (.array inner)
  /-- Functions. -/
  | function {result inner : TypeId} (h : rel result inner) :
    Alike rel (.function result) (.function inner)

/-- The type is looked into when it is seen through arguments. -/
def TypeEntry.isOpen : TypeEntry → Bool
  | .reference .. | .union .. | .intersection .. | .array .. | .function .. => true
  | _ => false

theorem TypeEntry.Alike.isOpen {rel : TypeId → TypeId → Prop} {entry data : TypeEntry}
    (h : entry.Alike rel data) : entry.isOpen = true ∧ data.isOpen = true := by
  cases h <;> exact ⟨rfl, rfl⟩

theorem TypeEntry.Alike.imp {rel rel' : TypeId → TypeId → Prop} {entry data : TypeEntry}
    (h : entry.Alike rel data) (himp : ∀ part ∈ entry.places, ∀ seen, rel part seen → rel' part seen) :
    entry.Alike rel' data := by
  have hall : ∀ {parts types : List TypeId}, parts ⊆ entry.places → List.Forall₂ rel parts types →
      List.Forall₂ rel' parts types := by
    intro parts types hsub hrel
    exact ((List.forall₂_and_left _ _).mpr ⟨fun part hpart => hsub hpart, hrel⟩).imp
      fun part seen ⟨hmem, hpart⟩ => himp part hmem seen hpart
  cases h with
  | reference h => exact .reference (hall (List.subset_cons_self ..) h)
  | union h => exact .union (hall (List.Subset.refl _) h)
  | intersection h => exact .intersection (hall (List.Subset.refl _) h)
  | array h => exact .array (himp _ (List.mem_singleton_self _) _ h)
  | function h => exact .function (himp _ (List.mem_singleton_self _) _ h)

namespace TypeTable

/-- **The place is that of the type, seen through the arguments** in place of the parameters, to a
depth. A parameter stays where there are too few arguments. -/
def Instance (table : TypeTable) (params arguments : List TypeId) : Nat → TypeId → TypeId → Prop
  | 0, type, seen => seen = type
  | depth + 1, type, seen =>
    match params.idxOf? type with
    | some index => seen = arguments[index]?.getD type
    | none =>
      (∃ entry data, table.get? type = some entry ∧
        entry.Alike (Instance table params arguments depth) data ∧ table.get? seen = some data) ∨
      seen = type ∧ ∀ entry, table.get? type = some entry → entry.isOpen = false

/-- What is looked into stays as it is, and nothing that has a place comes to be looked into. -/
def KeepsOpen (old new : TypeTable) : Prop :=
  ∀ (id : TypeId) (entry : TypeEntry), old.get? id = some entry →
    new.get? id = some entry ∨
      entry.isOpen = false ∧ ∃ later, new.get? id = some later ∧ later.isOpen = false

variable {table old new : TypeTable} {params arguments : List TypeId} {depth : Nat}
  {type seen : TypeId}

theorem KeepsOpen.get?_eq_some (h : old.KeepsOpen new) {id : TypeId} {entry : TypeEntry}
    (hopen : entry.isOpen = true) (hentry : old.get? id = some entry) :
    new.get? id = some entry :=
  (h id entry hentry).resolve_right fun hother => absurd (hopen.symm.trans hother.1) (by simp)

/-- **An instance goes on being one.** -/
theorem Instance.mono (hnew : old.KeepsOpen new)
    (hold : ∀ (id : TypeId) (entry : TypeEntry), old.get? id = some entry →
      ∀ place ∈ entry.places, old.Has place)
    (htype : old.Has type) (h : old.Instance params arguments depth type seen) :
    new.Instance params arguments depth type seen := by
  induction depth generalizing type seen with
  | zero => exact h
  | succ depth ih =>
    unfold Instance at h ⊢
    split at h
    next => exact h
    next =>
      rcases h with ⟨entry, data, hentry, halike, hdata⟩ | ⟨rfl, hclosed⟩
      · refine .inl ⟨entry, data, hnew.get?_eq_some halike.isOpen.1 hentry, ?_,
          hnew.get?_eq_some halike.isOpen.2 hdata⟩
        exact halike.imp fun part hpart _ => ih (hold type entry hentry part hpart)
      · refine .inr ⟨rfl, fun later hlater => ?_⟩
        obtain ⟨entry, hentry⟩ : ∃ entry, old.get? seen = some entry :=
          ⟨_, Array.getElem?_eq_getElem htype⟩
        rcases hnew seen entry hentry with hsame | ⟨-, other, hother, hnot⟩
        · obtain rfl := Option.some.inj (hsame.symm.trans hlater)
          exact hclosed _ hentry
        · obtain rfl := Option.some.inj (hother.symm.trans hlater)
          exact hnot

/-- Without parameters or arguments, a type is seen as it is. -/
theorem Instance.of_isEmpty (h : (params.isEmpty || arguments.isEmpty) = true) (depth : Nat)
    (type : TypeId) : table.Instance params arguments depth type type := by
  induction depth generalizing type with
  | zero => rfl
  | succ depth ih =>
    unfold Instance
    have hall : ∀ types : List TypeId,
        List.Forall₂ (table.Instance params arguments depth) types types := by
      intro types
      exact List.forall₂_same.mpr fun type _ => ih type
    split
    next index hindex =>
      -- there is a parameter, so there are no arguments
      have hnone : arguments = [] := by
        rcases params with _ | ⟨param, rest⟩
        · cases hindex
        · simpa using h
      simp [hnone]
    next =>
      rcases hentry : table.get? type with _ | entry
      · exact .inr ⟨rfl, nofun⟩
      · cases entry with
        | reference => exact .inl ⟨_, _, rfl, .reference (hall _), rfl⟩
        | union => exact .inl ⟨_, _, rfl, .union (hall _), rfl⟩
        | intersection => exact .inl ⟨_, _, rfl, .intersection (hall _), rfl⟩
        | array => exact .inl ⟨_, _, rfl, .array (ih _), rfl⟩
        | function => exact .inl ⟨_, _, rfl, .function (ih _), rfl⟩
        | _ => exact .inr ⟨rfl, by rintro _ ⟨⟩; rfl⟩

end TypeTable

namespace Background

variable {background : Background} {sources : Deferred → Prop} {old new : Draft}

theorem Extends.keepsOpen (h : background.Extends sources old new) :
    old.table.KeepsOpen new.table :=
  fun _ _ hentry => .inl (h.get?_eq_some hentry)

/-- A type that is found out is unknown or an alias, which are not looked into. -/
theorem Course.keepsOpen {through : List Draft} (h : background.Course old through new) :
    old.table.KeepsOpen new.table := by
  intro id entry hentry
  by_cases hknown : entry = .unknown
  · subst hknown
    have hfound : new.table.get? id = some .unknown ∨
        ∃ target, new.table.get? id = some (.alias "" [] target) ∧ target ≠ id :=
      h.keeps (fun hmove => hmove.isFound) (.inl hentry)
    rcases hfound with hunknown | ⟨target, halias, -⟩
    · exact .inl hunknown
    · exact .inr ⟨rfl, _, halias, rfl⟩
  · have hkept : new.table.get? id = some entry :=
      h.keeps (fun hmove hid => hmove.get?_eq_some hid hknown) hentry
    exact .inl hkept

end Background

namespace Draft

/-! ### Replacing parameters -/

variable {background : Background} {draft : Draft} {params arguments : List TypeId} {depth : Nat}

/-- **The type is seen through the arguments** after a step that only puts types at the end of the
table. -/
structure Sees (background : Background) (old : Draft) (params arguments : List TypeId)
    (depth : Nat) (type seen : TypeId) (new : Draft) : Prop where
  /-- The step. -/
  adds : background.Extends (fun _ => True) old new
  /-- The new draft is closed. -/
  closed : new.IsClosed background.prelude
  /-- The type as it is seen. -/
  isInstance : new.table.Instance params arguments depth type seen

theorem Sees.extend {old new : Draft} {type seen : TypeId}
    (h : Sees background old params arguments depth type seen draft) (htype : old.table.Has type)
    (hnew : background.Extends (fun _ => True) draft new) :
    new.table.Instance params arguments depth type seen :=
  h.isInstance.mono hnew.keepsOpen (fun _ _ hentry => h.closed.has_places hentry) (h.adds.has htype)

/-- Seeing the types of a list one after the other. -/
theorem after_mapM_sees {step : TypeId → StateM Draft TypeId}
    (h : draft.IsClosed background.prelude) {types : List TypeId}
    (htypes : ∀ type ∈ types, draft.table.Has type)
    (hstep : ∀ now : Draft, background.Extends (fun _ => True) draft now →
      now.IsClosed background.prelude → ∀ type, now.table.Has type →
        After (step type) now (Sees background now params arguments depth type)) :
    After (types.mapM step) draft fun seen new => background.Extends (fun _ => True) draft new ∧
      new.IsClosed background.prelude ∧
        List.Forall₂ (new.table.Instance params arguments depth) types seen := by
  induction types generalizing draft with
  | nil =>
    rw [List.mapM_nil]
    exact After.pure ⟨.refl draft, h, .nil⟩
  | cons first rest ih =>
    obtain ⟨hfirst, hrest⟩ := List.forall_mem_cons.mp htypes
    rw [List.mapM_cons]
    refine (hstep draft (.refl draft) h first hfirst).bind fun seen new hnew => ?_
    refine (ih hnew.closed (fun type hmem => hnew.adds.has (hrest type hmem))
      fun now hnow => hstep now (hnew.adds.trans hnow)).bind ?_
    rintro others last ⟨hlast, hclosed, hothers⟩
    exact After.pure ⟨hnew.adds.trans hlast, hclosed, .cons (hnew.extend hfirst hlast) hothers⟩

/-- **A type that is put together anew** from its parts as they are seen, unless it is the same. -/
theorem after_renewed_instance {type : TypeId} (hnone : params.idxOf? type = none)
    {current : TypeEntry} (hcurrent : draft.table.get? type = some current) {α : Type}
    {action : StateM Draft α} {entry : α → TypeEntry}
    (h : After action draft fun value middle => background.Extends (fun _ => True) draft middle ∧
      middle.IsClosed background.prelude ∧
        current.Alike (middle.table.Instance params arguments depth) (entry value)) :
    After (do
      let value ← action
      if (← get).table.get? type == some (entry value) then pure type
      else Draft.push (entry value)) draft fun seen new =>
        new.table.Instance params arguments (depth + 1) type seen := by
  refine h.bind ?_
  rintro value middle ⟨hmiddle, hclosed, halike⟩
  have hkept := hmiddle.get?_eq_some hcurrent
  have hmake : ∀ {new : Draft} {seen : TypeId}, middle.table.KeepsOpen new.table →
      new.table.get? seen = some (entry value) →
        new.table.Instance params arguments (depth + 1) type seen := by
    intro new seen hnew hseen
    simp only [TypeTable.Instance, hnone]
    refine .inl ⟨current, entry value, hnew.get?_eq_some halike.isOpen.1 hkept, ?_, hseen⟩
    exact halike.imp fun part hpart _ hinstance => hinstance.mono hnew
      (fun _ _ hentry => hclosed.has_places hentry) (hclosed.has_places hkept part hpart)
  refine After.get ?_
  split
  next hsame => exact After.pure (hmake (fun _ _ hentry => .inl hentry) (eq_of_beq hsame))
  next =>
    refine hmake (fun id data hdata => .inl ?_) (TypeTable.get?_push ..)
    exact (TypeTable.get?_push_of_lt (TypeTable.has_of_get? hdata)).trans hdata

/-- **Replacing parameters** gives the type as it is seen through the arguments. -/
theorem IsClosed.after_substitute_sees (h : draft.IsClosed background.prelude)
    (params : List TypeId) {arguments : List TypeId}
    (harguments : ∀ id ∈ arguments, draft.table.Has id) (depth : Nat) {type : TypeId}
    (htype : draft.table.Has type) :
    After (substitute params arguments depth type) draft
      (Sees background draft params arguments depth type) := by
  have hsees : ∀ {draft : Draft} {depth : Nat} {type : TypeId}, draft.IsClosed background.prelude →
      (∀ id ∈ arguments, draft.table.Has id) → draft.table.Has type →
        After (substitute params arguments depth type) draft (fun seen new =>
          new.table.Instance params arguments depth type seen) →
            After (substitute params arguments depth type) draft
              (Sees background draft params arguments depth type) := by
    intro draft depth type h harguments htype hinstance
    have hadds : background.Adds (fun _ => True) (substitute params arguments depth type) :=
      Background.adds_substitute params arguments depth type
    exact ⟨hadds draft, (h.after_substitute params harguments depth htype).1.closed, hinstance⟩
  refine hsees h harguments htype ?_
  induction depth generalizing draft type with
  | zero => exact After.pure rfl
  | succ depth ih =>
    have hstep : ∀ now : Draft, background.Extends (fun _ => True) draft now →
        now.IsClosed background.prelude → ∀ part, now.table.Has part →
          After (substitute params arguments depth part) now
            (Sees background now params arguments depth part) := by
      intro now hnow hclosed part hpart
      have harguments := fun id hid => hnow.has (harguments id hid)
      exact hsees hclosed harguments hpart (ih hclosed harguments hpart)
    simp only [substitute]
    split
    next hempty => exact After.pure (.of_isEmpty hempty _ _)
    split
    next index hindex => exact After.pure (by simp only [TypeTable.Instance, hindex])
    next hnone =>
      refine After.get ?_
      split
      next target inner hentry =>
        have hinner := fun part hpart => h.has_places hentry part (List.mem_cons_of_mem _ hpart)
        exact after_renewed_instance hnone hentry <| (after_mapM_sees h hinner hstep).imp
          fun types middle hmiddle => hmiddle.imp_right (.imp_right .reference)
      next members hentry =>
        exact after_renewed_instance hnone hentry <|
          (after_mapM_sees h (h.has_places hentry) hstep).imp
            fun types middle hmiddle => hmiddle.imp_right (.imp_right .union)
      next members hentry =>
        exact after_renewed_instance hnone hentry <|
          (after_mapM_sees h (h.has_places hentry) hstep).imp
            fun types middle hmiddle => hmiddle.imp_right (.imp_right .intersection)
      next element hentry =>
        have helement := h.has_places hentry element (List.mem_singleton_self _)
        exact after_renewed_instance hnone hentry <| (hstep draft (.refl draft) h element helement).imp
          fun inner middle hinner => ⟨hinner.adds, hinner.closed, .array hinner.isInstance⟩
      next result hentry =>
        have hresult := h.has_result hentry
        exact after_renewed_instance hnone hentry <| (hstep draft (.refl draft) h result hresult).imp
          fun inner middle hinner => ⟨hinner.adds, hinner.closed, .function hinner.isInstance⟩
      next hreference hunion hintersection harray hfunction =>
        refine After.pure ?_
        simp only [TypeTable.Instance, hnone]
        refine .inr ⟨trivial, fun entry hentry => ?_⟩
        cases entry with
        | reference => exact (hreference _ _ hentry).elim
        | union => exact (hunion _ hentry).elim
        | intersection => exact (hintersection _ hentry).elim
        | array => exact (harray _ hentry).elim
        | function => exact (hfunction _ hentry).elim
        | _ => rfl

end Draft

end StreamLint
