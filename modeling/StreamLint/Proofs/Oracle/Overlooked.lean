import StreamLint.Proofs.Model.Joined
import StreamLint.Proofs.Oracle.Substitution
/-!
# Members of a union by themselves

A type may stand for a union: an alias does, a generic alias with arguments, a type that was found
out, and a generic parameter by way of its bound. An oracle that is asked about the type comes to
the members of the union with an instantiation, which says what the parameters of the aliases on the
way stand for. Asked about a member by itself, it has none.

It is not to be taken for granted that the answer is the same. It is where the walk through the
member *overlooks* the instantiation (`StreamLint.TypeTable.Overlooks`): it meets none of the
parameters, nor passes one on as an argument, except below something that is a stream anyway. Then a
stream that is found from the type is found, no later, from a member that is not absent
(`StreamLint.TypeTable.mayBeObservable_of_overlooks`).
-/

namespace StreamLint

open Relation (ReflTransGen)

namespace TypeTable

variable (table : TypeTable)

/-- The walk goes on to what the type stands for. -/
def GoesAlong (place next : WalkPlace) : Prop :=
  next ∈ table.placesAfter place ∧ table.standsFor? place.2 = some next.2

/-- **The walk through the type overlooks the instantiation**: wherever it comes to with it, the type
is a stream by itself, or no parameter that is instantiated, nor a reference with one as an
argument. -/
def Overlooks (instantiation : Instantiation) (type : TypeId) : Prop :=
  ∀ part, table.IsCarriedTo instantiation type part → table.isStreamAt part = true ∨
    instantiation.argument? part = none ∧
      ∀ target arguments, table.get? part = some (.reference target arguments) →
        ∀ argument ∈ arguments, instantiation.argument? argument = none

/-- **The members of the union that the type stands for can be seen by themselves**, if it stands for
one: the walk comes to the union, and overlooks what it comes with in the members that are not
absent. -/
def ShowsMembers (type : TypeId) : Prop :=
  ∀ union members, table.StandsFor type union → table.get? union = some (.union members) →
    ∃ instantiation, ReflTransGen table.GoesAlong ([], type) (instantiation, union) ∧
      ∀ member ∈ members, table.isNullish member = false → table.Overlooks instantiation member

variable {table} {instantiation : Instantiation} {type : TypeId} {place next after goal : WalkPlace}
  {steps : Nat}

/-! ### Going along -/

/-- What stands for another type is no stream by itself, and a walk has no choice there. -/
theorem exists_placesAfter_eq_singleton (instantiation : Instantiation) {target : TypeId}
    (h : table.standsFor? type = some target) :
    table.isStreamAt type = false ∧ ∃ after, table.placesAfter (instantiation, type) = [after] := by
  unfold standsFor? at h
  split at h
  next name params aliased hentry => simp [isStreamAt, placesAfter, hentry]
  next name bound hentry =>
    cases hgiven : instantiation.argument? type <;> simp [isStreamAt, placesAfter, hentry, hgiven, h]
  next aim arguments hentry =>
    split at h
    next name params aliased halias => simp [isStreamAt, placesAfter, hentry, halias]
    next => cases h
  next => cases h

/-- **A walk to a stream goes along** with what a type stands for. -/
theorem GoesAlong.walksIn (h : table.GoesAlong place next) (hwalk : table.WalksIn steps place goal)
    (hgoal : table.isStreamAt goal.2 = true) :
    ∃ fewer, steps = fewer + 1 ∧ table.WalksIn fewer next goal := by
  obtain ⟨hplain, only, honly⟩ := exists_placesAfter_eq_singleton place.1 h.2
  obtain rfl : next = only := List.mem_singleton.mp (honly ▸ h.1)
  cases hwalk with
  | here => exact absurd (hgoal.symm.trans hplain) (by simp)
  | next hmem hrest =>
    obtain rfl := List.mem_singleton.mp (honly ▸ hmem)
    exact ⟨_, rfl, hrest⟩

theorem walksIn_of_goesAlong (h : ReflTransGen table.GoesAlong place next)
    (hwalk : table.WalksIn steps place goal) (hgoal : table.isStreamAt goal.2 = true) :
    ∃ fewer ≤ steps, table.WalksIn fewer next goal := by
  induction h with
  | refl => exact ⟨steps, le_refl steps, hwalk⟩
  | tail _ hlast ih =>
    obtain ⟨fewer, hle, hrest⟩ := ih
    obtain ⟨last, rfl, hlast⟩ := hlast.walksIn hrest hgoal
    exact ⟨last, by omega, hlast⟩

/-! ### What is overlooked -/

theorem Overlooks.carried {part : TypeId} (h : table.Overlooks instantiation type)
    (hmem : part ∈ table.carriedTo instantiation type) : table.Overlooks instantiation part :=
  fun inner hinner => h inner (.head hmem hinner)

/-- There is nothing to overlook where nothing is instantiated. -/
theorem overlooks_nil (type : TypeId) : table.Overlooks [] type :=
  fun _ _ => .inr ⟨rfl, fun _ _ _ _ _ => rfl⟩

/-- A reference passes on the same arguments with the instantiation and without it. -/
theorem ofReference_of_overlooks {target : TypeId} {arguments : List TypeId}
    (h : ∀ argument ∈ arguments, instantiation.argument? argument = none) :
    Instantiation.ofReference table target arguments instantiation =
      Instantiation.ofReference table target arguments [] := by
  have hsame : (arguments.map fun argument => (instantiation.argument? argument).getD argument) =
      arguments.map fun argument => (Instantiation.argument? [] argument).getD argument :=
    List.map_congr_left fun argument hargument => by rw [h argument hargument]; rfl
  simp only [Instantiation.ofReference, hsame]

/-- **One step of a walk that overlooks the instantiation**: it goes on to a place to which it goes
on without the instantiation as well, or with it to a part of the type. -/
theorem Overlooks.placesAfter (h : table.Overlooks instantiation type)
    (hplain : table.isStreamAt type = false)
    (hafter : after ∈ table.placesAfter (instantiation, type)) :
    after ∈ table.placesAfter ([], type) ∨ ∃ part ∈ table.carriedTo instantiation type,
      after = (instantiation, part) ∧ ([], part) ∈ table.placesAfter ([], type) := by
  obtain ⟨hnone, harguments⟩ := (h type .refl).resolve_left (by simp [hplain])
  have hnil : Instantiation.argument? [] type = none := rfl
  cases hentry : table.get? type with
  | none => simp [TypeTable.placesAfter, hentry] at hafter
  | some entry =>
    cases entry with
    | declared declaration =>
      left
      simpa [TypeTable.placesAfter, hentry] using hafter
    | reference target arguments =>
      cases hnamed : table.isNamed target with
      | true =>
        left
        have hsame : Instantiation.ofReference table target arguments instantiation =
            Instantiation.ofReference table target arguments [] :=
          ofReference_of_overlooks (harguments target arguments hentry)
        unfold isNamed at hnamed
        split at hnamed
        next haim => simpa [TypeTable.placesAfter, hentry, haim, hsame] using hafter
        next haim => simpa [TypeTable.placesAfter, hentry, haim, hsame] using hafter
        next => cases hnamed
      | false =>
        rw [placesAfter_of_not_isNamed hentry hnamed, List.mem_singleton] at hafter
        refine .inr ⟨target, by simp [carriedTo, hentry, hnone, hnamed], hafter, ?_⟩
        simp [placesAfter_of_not_isNamed hentry hnamed]
    | «alias» | union | intersection =>
      right
      simpa [TypeTable.placesAfter, carriedTo, hentry, hnone, eq_comm, and_comm, and_left_comm]
        using hafter
    | parameter name bound =>
      cases bound with
      | none => simp [TypeTable.placesAfter, hentry, hnone] at hafter
      | some bound =>
        right
        simpa [TypeTable.placesAfter, carriedTo, hentry, hnone, hnil] using hafter
    | _ => simp [TypeTable.placesAfter, hentry] at hafter

/-- **What is overlooked is not needed**: a stream that a walk with the instantiation finds is found
without it, no later. -/
theorem Overlooks.exists_walksIn (h : table.Overlooks instantiation type)
    (hwalk : table.WalksIn steps (instantiation, type) goal)
    (hgoal : table.isStreamAt goal.2 = true) :
    ∃ fewer ≤ steps, ∃ goal', table.WalksIn fewer ([], type) goal' ∧
      table.isStreamAt goal'.2 = true := by
  induction steps generalizing type with
  | zero =>
    cases hwalk
    exact ⟨0, le_refl 0, _, .here _, hgoal⟩
  | succ steps ih =>
    by_cases hstream : table.isStreamAt type = true
    · exact ⟨0, Nat.zero_le _, _, .here _, hstream⟩
    cases hwalk with
    | next hafter hrest =>
      rcases h.placesAfter (Bool.eq_false_iff.mpr hstream) hafter with
        hsame | ⟨part, hpart, rfl, hnext⟩
      · exact ⟨steps + 1, le_refl _, goal, .next hsame hrest, hgoal⟩
      · obtain ⟨fewer, hle, goal', hwalk', hgoal'⟩ := ih (h.carried hpart) hrest
        exact ⟨fewer + 1, by omega, goal', .next hnext hwalk', hgoal'⟩

/-! ### Members of a union -/

/-- What stands for the absence of a value is never taken for a stream. -/
theorem not_isStreamAt_of_isNullish (h : table.isNullish type = true)
    (hwalk : table.WalksIn steps (instantiation, type) goal) : table.isStreamAt goal.2 = false := by
  unfold isNullish at h
  split at h
  next primitive hentry =>
    cases hwalk with
    | here => simp [isStreamAt, hentry]
    | next hmem => simp [placesAfter, hentry] at hmem
  next => cases h

/-- A type may be observable if a walk finds a stream in few enough steps. -/
theorem mayBeObservable_eq_true_iff {maxDepth : Nat} :
    table.mayBeObservable maxDepth type = true ↔ ∃ steps < maxDepth + 1, ∃ goal,
      table.WalksIn steps ([], type) goal ∧ table.isStreamAt goal.2 = true :=
  @observableWithin_eq_true_iff table (maxDepth + 1) ([], type)

/-- **A stream that is found from a type is found from a present member** of the union that it stands
for, at least one step earlier. -/
theorem exists_member_of_mayBeObservable (h : table.ShowsMembers type) {union : TypeId}
    {members : List TypeId} (hstands : table.StandsFor type union)
    (hunion : table.get? union = some (.union members)) {maxDepth : Nat}
    (hstream : table.mayBeObservable maxDepth type = true) :
    ∃ member ∈ members, table.isNullish member = false ∧
      ∃ steps < maxDepth, ∃ goal, table.WalksIn steps ([], member) goal ∧
        table.isStreamAt goal.2 = true := by
  obtain ⟨instantiation, halong, hoverlooks⟩ := h union members hstands hunion
  obtain ⟨steps, hlt, goal, hwalk, hgoal⟩ := mayBeObservable_eq_true_iff.mp hstream
  obtain ⟨fewer, hle, hwalk⟩ := walksIn_of_goesAlong halong hwalk hgoal
  cases hwalk with
  | here => simp [isStreamAt, hunion] at hgoal
  | next hmem hrest =>
    simp only [placesAfter, hunion, List.mem_map] at hmem
    obtain ⟨member, hmember, rfl⟩ := hmem
    have hpresent : table.isNullish member = false := by
      by_contra hnullish
      have hnot := not_isStreamAt_of_isNullish (by simpa using hnullish) hrest
      exact absurd (hgoal.symm.trans hnot) (by simp)
    obtain ⟨last, hlast, goal', hwalk', hgoal'⟩ :=
      (hoverlooks member hmember hpresent).exists_walksIn hrest hgoal
    exact ⟨member, hmember, hpresent, last, by omega, goal', hwalk', hgoal'⟩

/-! ### Types that stand for a union by themselves -/

/-- Without generic aliases on the way, a walk goes along with nothing instantiated. -/
theorem goesAlong_of_plain {union : TypeId} (hstands : table.StandsFor type union)
    (hplain : ∀ part, table.StandsFor type part → ∀ target arguments name params aliased,
      table.get? part = some (.reference target arguments) →
        table.get? target = some (.alias name params aliased) → params = []) :
    ReflTransGen table.GoesAlong ([], type) ([], union) := by
  induction hstands with
  | refl => exact .refl
  | @tail part next hpart hnext ih =>
    refine .tail ih ⟨?_, hnext⟩
    unfold standsFor? at hnext
    split at hnext
    next name params aliased hentry =>
      obtain rfl := Option.some.inj hnext
      simp [placesAfter, hentry]
    next name bound hentry =>
      subst hnext
      simp [placesAfter, hentry, Instantiation.argument?]
    next target arguments hentry =>
      split at hnext
      next name params aliased halias =>
        obtain rfl := Option.some.inj hnext
        obtain rfl := hplain part hpart target arguments name params aliased hentry halias
        simp [placesAfter, hentry, halias, Instantiation.ofReference]
      next => cases hnext
    next => cases hnext

/-- A type that stands for a union at once. -/
theorem showsMembers_of_standsFor? {union : TypeId} {members : List TypeId}
    (hnext : table.standsFor? type = some union) (hunion : table.get? union = some (.union members))
    (hgoes : (instantiation, union) ∈ table.placesAfter ([], type))
    (h : ∀ member ∈ members, table.isNullish member = false → table.Overlooks instantiation member) :
    table.ShowsMembers type := by
  intro other others hstands hother
  have hend : table.standsFor? union = none := by simp only [standsFor?, hunion]
  have heq : other = union := by
    rcases hstands.cases_head with rfl | ⟨first, hfirst, hrest⟩
    · exact absurd hnext (by simp [standsFor?, hother])
    · obtain rfl := Option.some.inj (hnext.symm.trans hfirst)
      rcases hrest.cases_head with rfl | ⟨next, hnot, -⟩
      · rfl
      · exact absurd (hend.symm.trans hnot) (by simp)
  subst heq
  obtain rfl := TypeEntry.union.inj (Option.some.inj (hunion.symm.trans hother))
  exact ⟨instantiation, .single ⟨hgoes, hnext⟩, h⟩

/-- **Without generic aliases on the way the members can be seen by themselves**, so this goes for
aliases without parameters, for types that were found out, and for bounds. -/
theorem showsMembers_of_plain
    (h : ∀ part, table.StandsFor type part → ∀ target arguments name params aliased,
      table.get? part = some (.reference target arguments) →
        table.get? target = some (.alias name params aliased) → params = []) :
    table.ShowsMembers type := fun _ _ hstands _ =>
  ⟨[], goesAlong_of_plain hstands h, fun member _ _ => overlooks_nil member⟩

end TypeTable

end StreamLint
