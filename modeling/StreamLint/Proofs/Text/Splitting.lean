import Mathlib.Data.List.Chain
import Mathlib.Data.List.DropRight
import Mathlib.Data.List.Infix
import StreamLint.Text.Character
import StreamLint.Text.Split
/-!
# Splitting, cutting and trimming

What the functions on lists of characters come to, said without them. A list is split exactly at its
separators (`StreamLint.splitWhen_append_cons`). A text that is cut at a mark ends where the mark
occurs for the first time (`StreamLint.EndsAt`), and a text that is trimmed neither begins nor ends
with white space (`StreamLint.Trims`); both descriptions fit one text only, so that they may be read
as definitions.
-/

namespace StreamLint

/-! ### Splitting -/

section

variable {α : Type} {separates : α → Bool}

/-- The parts on the two sides of a separator. -/
theorem splitWhen_append_cons {a : α} (h : separates a = true) (l rest : List α) :
    splitWhen separates (l ++ a :: rest) = splitWhen separates l ++ splitWhen separates rest := by
  induction l with
  | nil => simp [splitWhen, h]
  | cons b l ih =>
    simp only [List.cons_append, splitWhen, ih]
    split
    · rfl
    · rcases hparts : splitWhen separates l with _ | ⟨part, parts⟩
      · exact absurd hparts (splitWhen_ne_nil separates l)
      · rfl

/-- Without separators there is one part. -/
theorem splitWhen_of_forall_not {l : List α} (h : ∀ a ∈ l, separates a = false) :
    splitWhen separates l = [l] := by
  induction l with
  | nil => rfl
  | cons a l ih =>
    obtain ⟨ha, hl⟩ := List.forall_mem_cons.mp h
    simp [splitWhen, ha, ih hl]

end

/-! ### Cutting -/

section

variable {α : Type} [BEq α] [LawfulBEq α]

/-- What is left after the start of a text. -/
theorem afterStart?_eq_some_iff {start text rest : List α} :
    afterStart? start text = some rest ↔ text = start ++ rest := by
  induction start generalizing text with
  | nil => simp [afterStart?]
  | cons a start ih =>
    cases text with
    | nil => simp [afterStart?]
    | cons b text =>
      by_cases hab : a = b
      · simp [afterStart?, hab, ih]
      · simpa [afterStart?, hab] using fun hba => absurd hba.symm hab

theorem isSome_afterStart?_iff {start text : List α} :
    (afterStart? start text).isSome = true ↔ start <+: text := by
  rw [Option.isSome_iff_exists, List.IsPrefix]
  exact exists_congr fun rest => afterStart?_eq_some_iff.trans eq_comm

/-- A text that does not begin like that. -/
theorem afterStart?_eq_none_iff {start text : List α} :
    afterStart? start text = none ↔ ¬ start <+: text := by
  rw [← isSome_afterStart?_iff, Option.not_isSome_iff_eq_none]

end

section

variable {α : Type}

/-- **The text ends at the mark**: `front` is what stands before the first place where `mark` occurs
in `text`, or the whole text if it does not occur. -/
inductive EndsAt (mark text front : List α) : Prop where
  /-- The mark occurs, and no earlier than after `front`. -/
  | cut (rest : List α) (htext : text = front ++ mark ++ rest)
    (hfirst : ¬ mark <:+: front ++ mark.dropLast)
  /-- The mark does not occur. -/
  | whole (htext : text = front) (hmark : ¬ mark <:+: text)

variable {mark text front : List α}

theorem EndsAt.cons {a : α} (h : EndsAt mark text front) (hmark : ¬ mark <+: a :: text) :
    EndsAt mark (a :: text) (a :: front) := by
  cases h with
  | cut rest htext hfirst =>
    refine .cut rest (by simp [htext]) fun hoccurs => ?_
    rcases List.infix_cons_iff.mp hoccurs with hbegins | hoccurs
    · refine hmark (hbegins.trans ⟨mark.drop (mark.length - 1) ++ rest, ?_⟩)
      have hwhole := List.take_append_drop (mark.length - 1) mark
      simp only [htext, List.dropLast_eq_take, List.append_eq, List.cons_append, List.append_assoc]
      rw [← List.append_assoc (List.take _ _), hwhole]
    · exact hfirst hoccurs
  | whole htext hnone =>
    refine .whole (by rw [htext]) fun hoccurs => ?_
    rcases List.infix_cons_iff.mp hoccurs with hbegins | hoccurs
    · exact hmark hbegins
    · exact hnone hoccurs

/-- The mark does not stand before the place where it stands first. -/
theorem EndsAt.length_le {front' rest' : List α} (h : EndsAt mark text front)
    (htext' : text = front' ++ mark ++ rest') : front.length ≤ front'.length := by
  cases h with
  | whole htext hmark => exact absurd ⟨front', rest', htext'.symm⟩ hmark
  | cut rest htext hfirst =>
    refine Nat.le_of_not_lt fun hlt => hfirst ?_
    have hbegins : front' ++ mark <+: front ++ mark.dropLast := by
      refine List.prefix_of_prefix_length_le ⟨rest', htext'.symm⟩ ?_ ?_
      · rw [htext, List.append_assoc]
        exact (List.prefix_append_right_inj front).mpr
          ((List.dropLast_prefix mark).trans (List.prefix_append mark rest))
      · simp only [List.length_append, List.length_dropLast]
        omega
    exact (List.suffix_append front' mark).isInfix.trans hbegins.isInfix

/-- **A text ends in one place.** -/
theorem EndsAt.unique {front' : List α} (h : EndsAt mark text front)
    (h' : EndsAt mark text front') : front = front' := by
  cases h with
  | whole htext hmark =>
    cases h' with
    | whole htext' => exact htext.symm.trans htext'
    | cut rest' htext' => exact absurd ⟨front', rest', htext'.symm⟩ hmark
  | cut rest htext hfirst =>
    cases h' with
    | whole _ hmark => exact absurd ⟨front, rest, htext.symm⟩ hmark
    | cut rest' htext' hfirst' =>
      have hle := (EndsAt.cut rest htext hfirst).length_le htext'
      have hge := (EndsAt.cut rest' htext' hfirst').length_le htext
      simp only [List.append_assoc] at htext htext'
      exact List.append_inj_left (htext.symm.trans htext') (Nat.le_antisymm hle hge)

variable [BEq α] [LawfulBEq α]

theorem endsAt_untilMark (hmark : mark ≠ []) (text : List α) :
    EndsAt mark text (untilMark mark text) := by
  induction text with
  | nil => exact .whole rfl fun hoccurs => hmark (List.infix_nil.mp hoccurs)
  | cons a text ih =>
    rw [untilMark]
    split
    next hstart =>
      obtain ⟨rest, hrest⟩ := isSome_afterStart?_iff.mp hstart
      -- the mark does not fit into what is shorter than the mark
      refine .cut rest (by simp [hrest]) fun hoccurs => ?_
      have hlength := hoccurs.length_le
      have := List.length_pos_iff.mpr hmark
      simp only [List.nil_append, List.length_dropLast] at hlength
      omega
    next hstart => exact ih.cons fun hbegins => hstart (isSome_afterStart?_iff.mpr hbegins)

/-- **Where a text is cut is told by the mark alone.** -/
theorem untilMark_eq_iff (hmark : mark ≠ []) :
    untilMark mark text = front ↔ EndsAt mark text front :=
  ⟨fun h => h ▸ endsAt_untilMark hmark text, (endsAt_untilMark hmark text).unique⟩

end

/-! ### Trimming -/

/-- **The text is trimmed**: `part` is `text` without the white space around it, and has none at
either end itself. -/
structure Trims (text part : List Char) : Prop where
  /-- There is nothing but white space around it. -/
  around : ∃ before after, text = before ++ part ++ after ∧ (∀ c ∈ before, isBlank c = true) ∧
    ∀ c ∈ after, isBlank c = true
  /-- It does not begin with white space. -/
  head : ∀ c ∈ part.head?, isBlank c = false
  /-- It does not end with white space. -/
  last : ∀ c ∈ part.getLast?, isBlank c = false

theorem trimBlank_eq (text : List Char) :
    trimBlank text = (text.dropWhile isBlank).rdropWhile isBlank :=
  rfl

theorem trims_trimBlank (text : List Char) : Trims text (trimBlank text) := by
  rw [trimBlank_eq]
  refine ⟨⟨text.takeWhile isBlank, (text.dropWhile isBlank).rtakeWhile isBlank, ?_, ?_, ?_⟩, ?_, ?_⟩
  · rw [List.append_assoc, List.rdropWhile_append_rtakeWhile, List.takeWhile_append_dropWhile]
  · exact fun c => List.mem_takeWhile_imp
  · exact fun c => List.mem_rtakeWhile_imp
  · intro c hc
    have hhead : (text.dropWhile isBlank).head? = some c :=
      (List.head?_eq_some_iff.mp hc).elim fun rest hrest => by
        obtain ⟨after, hafter⟩ := List.rdropWhile_prefix isBlank (text.dropWhile isBlank)
        rw [← hafter, hrest, List.cons_append, List.head?_cons]
    simpa [hhead] using List.head?_dropWhile_not isBlank text
  · intro c hc
    have hne : (text.dropWhile isBlank).rdropWhile isBlank ≠ [] := by
      rintro hnil
      simp [hnil] at hc
    rw [List.getLast?_eq_getLast_of_ne_nil hne, Option.mem_some_iff] at hc
    simpa [hc] using List.rdropWhile_last_not isBlank _ hne

/-- Nothing is left of white space. -/
theorem trimBlank_eq_nil {text : List Char} (h : ∀ c ∈ text, isBlank c = true) :
    trimBlank text = [] := by
  rw [trimBlank_eq, List.dropWhile_eq_nil_iff.mpr h, List.rdropWhile_nil]

/-- **What a text is trimmed to** is told by its two ends. -/
theorem trimBlank_eq_iff {text part : List Char} : trimBlank text = part ↔ Trims text part := by
  refine ⟨fun h => h ▸ trims_trimBlank text, fun h => ?_⟩
  obtain ⟨before, after, rfl, hbefore, hafter⟩ := h.around
  rcases List.eq_nil_or_concat' part with rfl | ⟨front, z, rfl⟩
  · refine trimBlank_eq_nil fun c hc => ?_
    simp only [List.append_nil, List.mem_append] at hc
    exact hc.elim (hbefore c) (hafter c)
  have hfront : ((front ++ [z]) ++ after).dropWhile isBlank = (front ++ [z]) ++ after := by
    refine List.dropWhile_eq_self_iff.mpr fun hl => Bool.not_eq_true _ ▸ h.head _ ?_
    cases front <;> simp
  rw [trimBlank_eq, List.append_assoc, List.dropWhile_append_of_pos hbefore, hfront,
    List.rdropWhile, List.reverse_append, List.dropWhile_append_of_pos (by simpa using hafter),
    List.reverse_append, List.reverse_singleton, List.singleton_append,
    List.dropWhile_cons_of_neg (by simp [h.last z]), List.reverse_cons, List.reverse_reverse]

end StreamLint
