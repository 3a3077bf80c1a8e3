import Mathlib.Logic.Relation
import StreamLint.Proofs.Model.Resolved
/-!
# Joined types

Types that come of different sources are joined into one: nothing if there are none, the type itself
if there is one, and a union otherwise. A type counts once where it comes several times in a row, so
that a join may have fewer members than there were types
(`StreamLint.TypeTable.JoinOf`), but no other ones.

So what is left of a union without the absent values is joined of those of its members that are
present (`StreamLint.TypeTable.IsPresentPart`). The union need not be there at once: a type may stand
for it by way of aliases and bounds (`StreamLint.TypeTable.StandsFor`).
-/

namespace StreamLint

open Relation (ReflTransGen)

/-! ### Repeated types -/

theorem eraseReps_cons_cons (first second : TypeId) (rest : List TypeId) :
    (first :: second :: rest).eraseReps =
      if first = second then (second :: rest).eraseReps
      else first :: (second :: rest).eraseReps := by
  rw [List.eraseReps, eraseRepsBy_cons_cons]
  by_cases heq : first = second
  · simp [heq, List.eraseReps]
  · simp [heq, List.eraseReps]

@[simp] theorem eraseReps_singleton (type : TypeId) : [type].eraseReps = [type] := rfl

/-- Every type is still there when repetitions are left out. -/
@[simp] theorem mem_eraseReps_iff {types : List TypeId} {id : TypeId} :
    id ∈ types.eraseReps ↔ id ∈ types := by
  induction types with
  | nil => rfl
  | cons first rest ih =>
    cases rest with
    | nil => simp
    | cons second rest =>
      rw [eraseReps_cons_cons]
      split
      next heq => simp [ih, heq]
      next => simp [ih]

theorem eraseReps_eq_nil_iff {types : List TypeId} : types.eraseReps = [] ↔ types = [] := by
  simp only [List.eq_nil_iff_forall_not_mem, mem_eraseReps_iff]

/-! ### Joins -/

namespace TypeTable

/-- **What the types are joined to**: nothing, one of them, or a union of them. -/
def JoinOf (table : TypeTable) (types : List TypeId) (join? : Option TypeId) : Prop :=
  match types.eraseReps with
  | [] => join? = none
  | [only] => join? = some only
  | several => ∃ join, join? = some join ∧ table.get? join = some (.union several)

variable {table old new : TypeTable} {types : List TypeId} {join? : Option TypeId}

theorem JoinOf.eq_nil (h : table.JoinOf types none) : types = [] := by
  unfold JoinOf at h
  split at h
  next heq => exact eraseReps_eq_nil_iff.mp heq
  next => cases h
  next => obtain ⟨_, hjoin, -⟩ := h; cases hjoin

/-- **A join is one of the types, or a union of them.** -/
theorem JoinOf.cases_some {join : TypeId} (h : table.JoinOf types (some join)) :
    (∀ type ∈ types, type = join) ∧ join ∈ types ∨
      ∃ members, table.get? join = some (.union members) ∧ ∀ type, type ∈ members ↔ type ∈ types := by
  unfold JoinOf at h
  split at h
  next => cases h
  next only heq =>
    obtain rfl := Option.some.inj h
    have hmem : ∀ type, type ∈ types ↔ type = join := fun type => by
      rw [← mem_eraseReps_iff, heq, List.mem_singleton]
    exact .inl ⟨fun type => (hmem type).mp, (hmem join).mpr rfl⟩
  next =>
    obtain ⟨_, hjoin, hentry⟩ := h
    obtain rfl := Option.some.inj hjoin
    exact .inr ⟨_, hentry, fun _ => mem_eraseReps_iff⟩

theorem JoinOf.mono (h : old.JoinOf types join?)
    (hnew : ∀ (id : TypeId) (members : List TypeId), old.get? id = some (.union members) →
      new.get? id = some (.union members)) : new.JoinOf types join? := by
  unfold JoinOf at h ⊢
  split at h
  next => exact h
  next => exact h
  next =>
    obtain ⟨join, hjoin, hentry⟩ := h
    exact ⟨join, hjoin, hnew join _ hentry⟩

/-! ### Present parts -/

/-- The type stands for the other one, possibly by way of further types. -/
abbrev StandsFor (table : TypeTable) : TypeId → TypeId → Prop :=
  ReflTransGen fun type next => table.standsFor? type = some next

/-- **What is left of a type without the absent values**: the type itself, or what members of the
union that it stands for are joined to. None is missing that is present. -/
inductive IsPresentPart (table : TypeTable) (type : TypeId) : TypeId → Prop where
  /-- The type itself. -/
  | same : IsPresentPart table type type
  /-- Members of a union. -/
  | joined {union : TypeId} {members kept : List TypeId} {join? : Option TypeId}
    (hstands : table.StandsFor type union) (hunion : table.get? union = some (.union members))
    (hkept : kept ⊆ members)
    (hpresent : ∀ member ∈ members, table.isNullish member = false → member ∈ kept)
    (hjoin : table.JoinOf kept join?) : IsPresentPart table type (join?.getD .never)

/-- What is known stays. -/
def KeepsKnown (old new : TypeTable) : Prop :=
  ∀ (id : TypeId) (entry : TypeEntry), old.get? id = some entry → entry ≠ .unknown →
    new.get? id = some entry

/-- What stands for another type goes on standing for it. -/
theorem StandsFor.mono {type target : TypeId} (h : old.StandsFor type target)
    (hnew : old.KeepsKnown new) : new.StandsFor type target := by
  refine ReflTransGen.mono (fun type next hnext => ?_) _ _ h
  unfold standsFor? at hnext ⊢
  split at hnext
  next hentry => rwa [hnew _ _ hentry (by simp)]
  next hentry => rwa [hnew _ _ hentry (by simp)]
  next hentry =>
    split at hnext
    next halias => simpa [hnew _ _ hentry (by simp), hnew _ _ halias (by simp)] using hnext
    next => cases hnext
  next => cases hnext

/-- What is absent is so for good. -/
theorem isNullish_mono {id : TypeId} (hnew : old.KeepsKnown new) (h : old.isNullish id = true) :
    new.isNullish id = true := by
  unfold isNullish at h ⊢
  split at h
  next primitive hentry => rwa [hnew _ _ hentry (by simp)]
  next => cases h

theorem IsPresentPart.mono {type seen : TypeId} (h : old.IsPresentPart type seen)
    (hnew : old.KeepsKnown new) : new.IsPresentPart type seen := by
  cases h with
  | same => exact .same
  | joined hstands hunion hkept hpresent hjoin =>
    refine .joined (hstands.mono hnew) (hnew _ _ hunion (by simp)) hkept
      (fun member hmember hnot => hpresent member hmember ?_)
      (hjoin.mono fun id _ hentry => hnew id _ hentry (by simp))
    exact Bool.eq_false_iff.mpr fun hnullish =>
      Bool.false_ne_true (hnot.symm.trans (isNullish_mono hnew hnullish))

end TypeTable

/-- **Joining types** gives their join. -/
theorem after_joinTypes_joinOf (draft : Draft) (types : List TypeId) :
    Draft.After (joinTypes types) draft fun join? new => new.table.JoinOf types join? := by
  unfold joinTypes TypeTable.JoinOf
  rcases types.eraseReps with _ | ⟨only, _ | ⟨second, rest⟩⟩
  · exact Draft.After.pure rfl
  · exact Draft.After.pure rfl
  · exact ⟨_, rfl, TypeTable.get?_push ..⟩

end StreamLint
