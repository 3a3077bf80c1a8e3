import Mathlib.Order.Compare
import Mathlib.Data.List.Sort
/-!
# Leaving out repetitions

Of equal elements in a row the first is kept. In a list that is in order equal elements stand in a
row, so that none is left twice (`StreamLint.pairwise_lt_eraseRepsBy`); and what is left out is equal
to something that is kept (`StreamLint.exists_mem_eraseRepsBy`).
-/

namespace StreamLint

variable {α : Type}

/-- How repetitions are left out, element by element. -/
theorem eraseRepsBy_cons_cons (same : α → α → Bool) (first second : α) (rest : List α) :
    (first :: second :: rest).eraseRepsBy same =
      if same first second then (first :: rest).eraseRepsBy same
      else first :: (second :: rest).eraseRepsBy same := by
  have hloop : ∀ (rest : List α) (last : α) (seen : List α),
      List.eraseRepsBy.loop same last rest seen =
        seen.reverse ++ List.eraseRepsBy.loop same last rest [] := by
    intro rest
    induction rest with
    | nil => simp [List.eraseRepsBy.loop]
    | cons next rest ih =>
      intro last seen
      simp only [List.eraseRepsBy.loop]
      split
      · exact ih last seen
      · rw [ih next (last :: seen), ih next [last]]
        simp
  simp only [List.eraseRepsBy, List.eraseRepsBy.loop]
  cases same first second
  · simp only [Bool.false_eq_true, if_false]
    rw [hloop]
    rfl
  · rfl

@[simp] theorem eraseRepsBy_singleton (same : α → α → Bool) (a : α) :
    [a].eraseRepsBy same = [a] := rfl

theorem mem_of_mem_eraseRepsBy {same : α → α → Bool} {a : α} {l : List α}
    (h : a ∈ l.eraseRepsBy same) : a ∈ l := by
  cases l with
  | nil => exact h
  | cons first rest =>
    induction rest generalizing first with
    | nil => simpa using h
    | cons second rest ih =>
      rw [eraseRepsBy_cons_cons] at h
      split at h
      · rcases List.mem_cons.mp (ih first h) with heq | hmem
        · exact heq ▸ List.mem_cons_self
        · exact .tail _ (.tail _ hmem)
      · rcases List.mem_cons.mp h with heq | hmem
        · exact heq ▸ List.mem_cons_self
        · exact .tail _ (ih second hmem)

variable (cmp : α → α → Ordering) [Std.TransCmp cmp]

/-- **What is left out is equal to something that is kept.** -/
theorem exists_mem_eraseRepsBy {a : α} {l : List α} (h : a ∈ l) :
    ∃ b ∈ l.eraseRepsBy fun a b => cmp a b == .eq, cmp b a = .eq := by
  cases l with
  | nil => exact absurd h List.not_mem_nil
  | cons first rest =>
    induction rest generalizing first a with
    | nil =>
      obtain rfl := List.mem_singleton.mp h
      exact ⟨a, by simp, Std.ReflCmp.compare_self⟩
    | cons second rest ih =>
      rw [eraseRepsBy_cons_cons]
      split
      next hsame =>
        rcases List.mem_cons.mp h with rfl | h
        · exact ih a List.mem_cons_self
        rcases List.mem_cons.mp h with rfl | hmem
        · obtain ⟨b, hb, heq⟩ := ih first List.mem_cons_self
          exact ⟨b, hb, Std.TransCmp.eq_trans heq (eq_of_beq hsame)⟩
        · exact ih first (.tail _ hmem)
      next =>
        rcases List.mem_cons.mp h with rfl | h
        · exact ⟨a, List.mem_cons_self, Std.ReflCmp.compare_self⟩
        · obtain ⟨b, hb, heq⟩ := ih second h
          exact ⟨b, .tail _ hb, heq⟩

/-- **In a list that is in order nothing is left twice.** -/
theorem pairwise_lt_eraseRepsBy {l : List α} (h : l.Pairwise fun a b => (cmp a b).isLE) :
    (l.eraseRepsBy fun a b => cmp a b == .eq).Pairwise fun a b => cmp a b = .lt := by
  cases l with
  | nil => exact .nil
  | cons first rest =>
    induction rest generalizing first with
    | nil => simp
    | cons second rest ih =>
      have htail := (List.pairwise_cons.mp h).2
      rw [eraseRepsBy_cons_cons]
      split
      next => exact ih first (h.sublist (.cons_cons first (List.sublist_cons_self second rest)))
      next hsame =>
        have hlt : cmp first second = .lt := by
          have hle := (List.pairwise_cons.mp h).1 second List.mem_cons_self
          cases hcmp : cmp first second <;> simp_all
        refine List.pairwise_cons.mpr ⟨fun c hc => ?_, ih second htail⟩
        rcases List.mem_cons.mp (mem_of_mem_eraseRepsBy hc) with rfl | hmem
        · exact hlt
        · exact Std.TransCmp.lt_of_lt_of_isLE hlt ((List.pairwise_cons.mp htail).1 c hmem)

/-- A list is put in order, and repetitions are left out. -/
theorem pairwise_lt_eraseRepsBy_mergeSort (l : List α) :
    ((l.mergeSort fun a b => cmp a b != .gt).eraseRepsBy fun a b => cmp a b == .eq).Pairwise
      fun a b => cmp a b = .lt := by
  have hle : (fun a b => cmp a b != .gt) = fun a b => (cmp a b).isLE := by
    funext a b
    cases cmp a b <;> rfl
  rw [hle]
  refine pairwise_lt_eraseRepsBy cmp (List.pairwise_mergeSort ?_ ?_ l)
  · exact fun a b c => Std.TransCmp.isLE_trans
  · intro a b
    rw [@Std.OrientedCmp.eq_swap _ cmp _ b]
    cases cmp a b <;> rfl

end StreamLint
