import Mathlib.Data.Finset.Card
import StreamLint.Proofs.Oracle.Depth
/-!
# Walks that come to an end

An oracle gives up after a number of steps, and what it gives up on counts as a negative answer. An
answer means what it says only if nothing was given up on: if every walk from the place ends within
the depth (`StreamLint.TypeTable.EndsWithin`). Then further steps change nothing
(`StreamLint.TypeTable.searchWithin_settled`), and the answer at a place is made of the answers at
the places after it without any of them being one step short
(`StreamLint.TypeTable.searchWithin_fixed`).

Where no type leads back to itself there is such a depth for all types at once
(`StreamLint.TypeTable.IsAcyclic.exists_endsWithin`). It is not the length of the longest path
through the entries: a walk that enters what a parameter stands for goes back up, to an argument of
a reference that it has left behind. What keeps it from going on for ever is that the arguments of a
reference lie below the reference, so that the next argument to be entered lies below the one
before.
-/

namespace StreamLint

namespace TypeTable

/-! ### Ends -/

/-- Every walk from the place ends after at most so many steps. -/
def EndsWithin (table : TypeTable) (depth : Nat) (place : WalkPlace) : Prop :=
  ∀ steps goal, table.WalksIn steps place goal → steps ≤ depth

variable {table : TypeTable} {depth : Nat} {place : WalkPlace}

theorem endsWithin_zero_iff : table.EndsWithin 0 place ↔ table.placesAfter place = [] := by
  constructor
  · intro h
    refine List.eq_nil_iff_forall_not_mem.mpr fun after hmem => ?_
    have := h 1 after (.next hmem (.here after))
    omega
  · rintro hempty steps goal (_ | ⟨hmem, -⟩)
    · exact Nat.le_refl 0
    · simp [hempty] at hmem

theorem endsWithin_succ_iff :
    table.EndsWithin (depth + 1) place ↔
      ∀ after ∈ table.placesAfter place, table.EndsWithin depth after := by
  constructor
  · intro h after hmem steps goal hwalk
    have := h (steps + 1) goal (.next hmem hwalk)
    omega
  · rintro h steps goal (_ | ⟨hmem, hwalk⟩)
    · exact Nat.zero_le _
    · exact Nat.succ_le_succ (h _ hmem _ goal hwalk)

/-- Whether all walks end is found out by going them. -/
instance decidableEndsWithin (table : TypeTable) :
    (depth : Nat) → (place : WalkPlace) → Decidable (table.EndsWithin depth place)
  | 0, _ => decidable_of_iff _ endsWithin_zero_iff.symm
  | depth + 1, _ =>
    have := decidableEndsWithin table depth
    decidable_of_iff _ endsWithin_succ_iff.symm

theorem EndsWithin.mono {more : Nat} (h : table.EndsWithin depth place) (hle : depth ≤ more) :
    table.EndsWithin more place :=
  fun steps goal hwalk => (h steps goal hwalk).trans hle

theorem EndsWithin.step (h : table.EndsWithin depth place) {after : WalkPlace}
    (hmem : after ∈ table.placesAfter place) : table.EndsWithin depth after :=
  endsWithin_succ_iff.mp (h.mono (Nat.le_succ depth)) after hmem

/-! ### Answers at the end -/

/-- **Nothing is given up on**: where all walks end, further steps change no answer. -/
theorem searchWithin_settled {rule : TypeId → AnswerRule} (h : table.EndsWithin depth place)
    {steps : Nat} (hlt : depth < steps) :
    table.searchWithin rule steps place = table.searchWithin rule (depth + 1) place := by
  induction depth generalizing place steps with
  | zero =>
    obtain ⟨steps, rfl⟩ : ∃ n, steps = n + 1 := ⟨steps - 1, by omega⟩
    simp [searchWithin, endsWithin_zero_iff.mp h]
  | succ depth ih =>
    obtain ⟨steps, rfl⟩ : ∃ n, steps = n + 1 := ⟨steps - 1, by omega⟩
    rw [searchWithin, searchWithin]
    refine congrArg _ (List.map_congr_left fun after hmem => ?_)
    exact ih (endsWithin_succ_iff.mp h after hmem) (by omega)

/-- **An answer is made of answers** of the same depth. -/
theorem searchWithin_fixed (rule : TypeId → AnswerRule) (h : table.EndsWithin depth place) :
    table.searchWithin rule (depth + 1) place =
      (rule place.2).judge
        ((table.placesAfter place).map (table.searchWithin rule (depth + 1))) := by
  rw [← searchWithin_settled h (show depth < depth + 2 by omega), searchWithin]

/-! ### Tables without rings -/

/-- No type leads back to itself. -/
def IsAcyclic (table : TypeTable) : Prop :=
  ∀ type, ¬Relation.TransGen table.LeadsTo type type

/-- Only types that are in use lead to others. -/
theorem LeadsTo.lt_size {type next : TypeId} (h : table.LeadsTo type next) : type < table.size := by
  cases h with
  | aliased h | target h | argument h | supertype h | unionMember h | intersectionMember h
  | bound h => exact (Array.getElem?_eq_some_iff.mp h).1

/-- Types can be ranked so that each leads to types of smaller rank. -/
theorem IsAcyclic.exists_rank (h : table.IsAcyclic) :
    ∃ rank : TypeId → Nat, (∀ type, rank type ≤ table.size) ∧
      ∀ type next, Relation.TransGen table.LeadsTo type next → rank next < rank type := by
  classical
  -- the rank counts the types in use that are reached, the type itself included
  let reached (type : TypeId) : Finset TypeId :=
    (Finset.range table.size).filter (table.Reaches type)
  refine ⟨fun type => (reached type).card, fun type => ?_, fun type next hleads => ?_⟩
  · exact (Finset.card_filter_le _ _).trans (Finset.card_range _).le
  · refine Finset.card_lt_card ⟨fun met hmet => ?_, fun hsub => ?_⟩
    · rw [Finset.mem_filter] at hmet ⊢
      exact ⟨hmet.1, hleads.to_reflTransGen.trans hmet.2⟩
    · have hlt : type < table.size := by
        obtain ⟨first, hfirst, -⟩ := Relation.TransGen.head'_iff.mp hleads
        exact hfirst.lt_size
      have hself : type ∈ reached type :=
        Finset.mem_filter.mpr ⟨Finset.mem_range.mpr hlt, .refl⟩
      exact h type (hleads.trans_left (Finset.mem_filter.mp (hsub hself)).2)

/-- **Walks end by their rank**: what parameters stand for lies below `top`, and what they will come
to stand for does so too, as it lies below the type. -/
theorem endsWithin_of_rank {rank : TypeId → Nat}
    (hrank : ∀ type next, Relation.TransGen table.LeadsTo type next → rank next < rank type)
    {top : Nat} (htype : rank place.2 ≤ top) (hgiven : ∀ entry ∈ place.1, rank entry.2 < top) :
    table.EndsWithin (top * top + rank place.2) place := by
  induction top generalizing place with
  | zero =>
    rw [Nat.le_zero.mp htype]
    refine endsWithin_zero_iff.mpr (List.eq_nil_iff_forall_not_mem.mpr fun after hmem => ?_)
    rcases leadsTo_or_enters hmem with ⟨hleads, -⟩ | ⟨-, given, hmem, -⟩
    · have := hrank _ _ hleads
      omega
    · exact absurd (hgiven given hmem) (Nat.not_lt_zero _)
  | succ top ihtop =>
    have hsquare : (top + 1) * (top + 1) = top * top + top + top + 1 := Nat.succ_mul_succ top top
    -- within one instantiation the rank of the type goes down
    induction hheight : rank place.2 using Nat.strong_induction_on generalizing place with
    | _ height ih =>
      subst hheight
      rw [show (top + 1) * (top + 1) + rank place.2 =
        (top * top + top + top + rank place.2) + 1 by omega]
      refine endsWithin_succ_iff.mpr fun after hmem => ?_
      rcases leadsTo_or_enters hmem with ⟨hleads, hentries⟩ | ⟨hempty, given, hmem, heq⟩
      · have hlt := hrank _ _ hleads
        refine (ih _ hlt (by omega) (fun entry hentry => ?_) rfl).mono (by omega)
        rcases hentries entry hentry with hargument | ⟨given, hmem, heq⟩
        · have := hrank _ _ (.single hargument)
          omega
        · exact heq ▸ hgiven given hmem
      · have hlt := heq ▸ hgiven given hmem
        exact (ihtop (by omega) (by simp [hempty])).mono (by omega)

/-- **Without rings all walks end**, and one depth will do for all of them. -/
theorem IsAcyclic.exists_endsWithin (h : table.IsAcyclic) :
    ∃ depth, ∀ type, table.EndsWithin depth ([], type) := by
  obtain ⟨rank, hsize, hrank⟩ := h.exists_rank
  exact ⟨table.size * table.size + table.size, fun type =>
    (endsWithin_of_rank hrank (hsize type) (by simp)).mono (Nat.add_le_add_left (hsize type) _)⟩

end TypeTable

end StreamLint
