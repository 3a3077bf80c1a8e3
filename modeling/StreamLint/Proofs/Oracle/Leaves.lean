import StreamLint.Proofs.Oracle.Ending
/-!
# Unions and their leaves

A union can be written in many ways: its members can be aliases, or unions themselves. What stays
the same are its leaves, which come of writing out aliases without parameters and unions
(`StreamLint.TypeTable.IsLeafOf`). One would expect that whether a union is a reference type depends
on its leaves alone: some leaf does not stand for the absence of a value, and every such leaf is a
reference type.

That is so unless absence is *veiled*: unless a constituent, written out, is nothing but `null`,
`undefined` and `void` (`StreamLint.TypeTable.IsVeiled`). The walk leaves out members that stand for
absence before it writes them out, so that an alias of `null` is judged like any other member, and
is no reference type. Then the union is none either, whatever its leaves are.

The main statement is `StreamLint.Oracle.freshAnswer_union_iff_leaves`; it is an induction on how
far walks go, with a step for a type that is written out
(`StreamLint.TypeTable.isReference_iff_of_opened`, `StreamLint.TypeTable.isSound_iff_of_opened`).
-/

namespace StreamLint

open Relation (ReflTransGen TransGen EqvGen)

namespace TypeTable

variable (table : TypeTable)

/-! ### Leaves -/

/-- The part stands in the type where that is written out: an alias without parameters as what it is
a name for, a union as its members. -/
def Opens (type part : TypeId) : Prop :=
  match table.get? type with
  | some (.alias _ [] target) => part = target
  | some (.union members) => part ∈ members
  | _ => False

/-- Whether a type is left as it is when types are written out. -/
def isLeaf (type : TypeId) : Bool :=
  match table.get? type with
  | some (.alias _ [] _) | some (.union _) => false
  | _ => true

/-- The leaves that come of writing the type out all the way. -/
def IsLeafOf (type leaf : TypeId) : Prop :=
  ReflTransGen table.Opens type leaf ∧ table.isLeaf leaf = true

/-- Some leaf does not stand for the absence of a value. -/
def HasPresentLeaf (type : TypeId) : Prop :=
  ∃ leaf, table.IsLeafOf type leaf ∧ table.isNullish leaf = false

/-- The type is written out, and all its leaves stand for the absence of a value. -/
def IsVeiled (type : TypeId) : Prop :=
  table.isLeaf type = false ∧ ¬table.HasPresentLeaf type

/-- No constituent of the type is a veiled absence. -/
def IsUnveiled (type : TypeId) : Prop :=
  ∀ part, TransGen table.Opens type part → ¬table.IsVeiled part

/-- Leaves that do not stand for the absence of a value are reference types. -/
def HasReferenceLeaves (maxDepth : Nat) (type : TypeId) : Prop :=
  ∀ leaf, table.IsLeafOf type leaf → table.isNullish leaf = false →
    table.isReference maxDepth leaf = true

/-- One way of writing the members of a union turned into another one. -/
inductive Regrouped : List TypeId → List TypeId → Prop where
  /-- An alias stands for what it is a name for. -/
  | renamed {before rest : List TypeId} {type other : TypeId} {name : String}
    (h : table.get? other = some (.alias name [] type)) :
    Regrouped (before ++ type :: rest) (before ++ other :: rest)
  /-- Some members are put together in a union of their own. -/
  | grouped {before group rest : List TypeId} {union : TypeId}
    (h : table.get? union = some (.union group)) :
    Regrouped (before ++ group ++ rest) (before ++ union :: rest)
  /-- The members change their places. -/
  | moved {members others : List TypeId} (h : members.Perm others) : Regrouped members others

variable {table} {type leaf : TypeId} {maxDepth : Nat}

theorem opens_alias {target part : TypeId} {name : String}
    (h : table.get? type = some (.alias name [] target)) :
    table.Opens type part ↔ part = target := by
  simp [Opens, h]

theorem opens_union {members : List TypeId} {part : TypeId}
    (h : table.get? type = some (.union members)) :
    table.Opens type part ↔ part ∈ members := by
  simp [Opens, h]

theorem not_opens_of_isLeaf (h : table.isLeaf type = true) (part : TypeId) :
    ¬table.Opens type part := by
  intro hopens
  unfold isLeaf at h
  unfold Opens at hopens
  split at hopens <;> simp_all

theorem eq_of_isLeaf {part : TypeId} (h : table.isLeaf type = true)
    (hreach : ReflTransGen table.Opens type part) : part = type := by
  rcases ReflTransGen.cases_head hreach with rfl | ⟨next, hopens, -⟩
  · rfl
  · exact absurd hopens (not_opens_of_isLeaf h next)

theorem isLeaf_of_isNullish (h : table.isNullish type = true) : table.isLeaf type = true := by
  unfold isNullish at h
  unfold isLeaf
  split <;> simp_all

/-- A leaf is its only leaf. -/
theorem isLeafOf_iff_of_isLeaf (h : table.isLeaf type = true) :
    table.IsLeafOf type leaf ↔ leaf = type :=
  ⟨fun hleaf => eq_of_isLeaf h hleaf.1, by rintro rfl; exact ⟨.refl, h⟩⟩

/-- The leaves of a type that is written out are those of its parts. -/
theorem isLeafOf_iff_of_opened (h : table.isLeaf type = false) :
    table.IsLeafOf type leaf ↔ ∃ part, table.Opens type part ∧ table.IsLeafOf part leaf := by
  constructor
  · rintro ⟨hreach, hleaf⟩
    rcases ReflTransGen.cases_head hreach with rfl | ⟨part, hopens, hreach⟩
    · simp [h] at hleaf
    · exact ⟨part, hopens, hreach, hleaf⟩
  · rintro ⟨part, hopens, hreach, hleaf⟩
    exact ⟨.head hopens hreach, hleaf⟩

theorem hasPresentLeaf_iff_of_isLeaf (h : table.isLeaf type = true) :
    table.HasPresentLeaf type ↔ table.isNullish type = false := by
  simp [HasPresentLeaf, isLeafOf_iff_of_isLeaf h]

theorem hasPresentLeaf_iff_of_opened (h : table.isLeaf type = false) :
    table.HasPresentLeaf type ↔ ∃ part, table.Opens type part ∧ table.HasPresentLeaf part := by
  simp only [HasPresentLeaf, isLeafOf_iff_of_opened h]
  grind

/-- What stands for the absence of a value by its own entry has no present leaf. -/
theorem HasPresentLeaf.isNullish_eq_false (h : table.HasPresentLeaf type) :
    table.isNullish type = false := by
  cases hnullish : table.isNullish type with
  | false => rfl
  | true =>
    have := (hasPresentLeaf_iff_of_isLeaf (isLeaf_of_isNullish hnullish)).mp h
    simp [hnullish] at this

/-! ### What is judged -/

theorem mem_placesAfter_of_opens {part : TypeId} (h : table.Opens type part) :
    ([], part) ∈ table.placesAfter ([], type) := by
  unfold Opens at h
  split at h <;> simp_all [placesAfter]

theorem EndsWithin.opens {part : TypeId} (hends : table.EndsWithin maxDepth ([], type))
    (h : table.Opens type part) : table.EndsWithin maxDepth ([], part) :=
  hends.step (mem_placesAfter_of_opens h)

theorem isReference_of_isNullish (h : table.isNullish type = true) :
    table.isReference maxDepth type = false := by
  unfold isNullish at h
  rw [isReference, referenceWithin]
  split at h <;> simp_all

/-- **One step of the judgement**: a type that is written out is a reference type if some of its
parts do not stand for the absence of a value, by their own entries, and all those are reference
types. -/
theorem isReference_iff_of_opened (hends : table.EndsWithin maxDepth ([], type))
    (h : table.isLeaf type = false) :
    table.isReference maxDepth type = true ↔
      (∃ part, table.Opens type part ∧ table.isNullish part = false) ∧
        ∀ part, table.Opens type part → table.isNullish part = false →
          table.isReference maxDepth part = true := by
  have hfixed := searchWithin_fixed table.referenceRule hends
  rw [← isReference_eq_search] at hfixed
  unfold isLeaf at h
  split at h
  next name target hentry =>
    -- absence behind an alias is judged, and is no reference type
    have hsame : table.isReference maxDepth type = table.isReference maxDepth target := by
      simpa [placesAfter, referenceRule, hentry, AnswerRule.judge, ← isReference_eq_search]
        using hfixed
    simp only [hsame, opens_alias hentry, exists_eq_left, forall_eq]
    cases hnullish : table.isNullish target with
    | false => simp
    | true => simp [isReference_of_isNullish hnullish]
  next members hentry =>
    have hjudge : table.isReference maxDepth type =
        (AnswerRule.allPresent (members.map table.isNullish)).judge
          (members.map (table.isReference maxDepth)) := by
      simpa [placesAfter, referenceRule, hentry, Function.comp_def, ← isReference_eq_search]
        using hfixed
    simp only [hjudge, AnswerRule.judge_allPresent_iff, opens_union hentry]
  next => simp at h

/-! ### Judged by the leaves -/

/-- What the leaves have to be, and that nothing is veiled. -/
structure IsSound (table : TypeTable) (maxDepth : Nat) (type : TypeId) : Prop where
  /-- Some leaf does not stand for the absence of a value. -/
  present : table.HasPresentLeaf type
  /-- All such leaves are reference types. -/
  references : table.HasReferenceLeaves maxDepth type
  /-- No constituent is a veiled absence. -/
  unveiled : table.IsUnveiled type

/-- A part that does not stand for the absence of a value by its own entry is sound. -/
theorem IsSound.part {part : TypeId} (h : table.IsSound maxDepth type)
    (hopens : table.Opens type part) (hpresent : table.isNullish part = false) :
    table.IsSound maxDepth part where
  present := by
    cases hleaf : table.isLeaf part with
    | true => exact (hasPresentLeaf_iff_of_isLeaf hleaf).mpr hpresent
    | false => exact not_not.mp fun hnone => h.unveiled part (.single hopens) ⟨hleaf, hnone⟩
  references leaf hleaf := h.references leaf ⟨.head hopens hleaf.1, hleaf.2⟩
  unveiled inner hinner := h.unveiled inner (.head hopens hinner)

/-- **The same step for soundness.** -/
theorem isSound_iff_of_opened (hopened : table.isLeaf type = false) :
    table.IsSound maxDepth type ↔
      (∃ part, table.Opens type part ∧ table.isNullish part = false) ∧
        ∀ part, table.Opens type part → table.isNullish part = false →
          table.IsSound maxDepth part := by
  constructor
  · intro h
    obtain ⟨part, hopens, hpresent⟩ := (hasPresentLeaf_iff_of_opened hopened).mp h.present
    exact ⟨⟨part, hopens, hpresent.isNullish_eq_false⟩, fun part => h.part⟩
  · rintro ⟨⟨part, hopens, hpresent⟩, hparts⟩
    refine ⟨?_, fun leaf hleaf hnullish => ?_, fun inner hinner => ?_⟩
    · exact (hasPresentLeaf_iff_of_opened hopened).mpr
        ⟨part, hopens, (hparts part hopens hpresent).present⟩
    · obtain ⟨part, hopens, hleaf⟩ := (isLeafOf_iff_of_opened hopened).mp hleaf
      cases habsent : table.isNullish part with
      | false => exact (hparts part hopens habsent).references leaf hleaf hnullish
      | true =>
        obtain rfl := (isLeafOf_iff_of_isLeaf (isLeaf_of_isNullish habsent)).mp hleaf
        simp [habsent] at hnullish
    · obtain ⟨part, hopens, hinner⟩ := TransGen.head'_iff.mp hinner
      rintro ⟨hwritten, hnone⟩
      cases habsent : table.isNullish part with
      | true =>
        -- a bare absence is a leaf, and no leaf is veiled
        have hleaf := isLeaf_of_isNullish habsent
        obtain rfl := eq_of_isLeaf hleaf hinner
        simp [hleaf] at hwritten
      | false =>
        have hsound := hparts part hopens habsent
        rcases Relation.reflTransGen_iff_eq_or_transGen.mp hinner with rfl | hbelow
        · exact hnone hsound.present
        · exact hsound.unveiled inner hbelow ⟨hwritten, hnone⟩

/-- A leaf is sound if it is a reference type; then it does not stand for the absence of a value. -/
theorem isReference_iff_isSound_of_isLeaf (hleaf : table.isLeaf type = true) :
    table.isReference maxDepth type = true ↔ table.IsSound maxDepth type := by
  constructor
  · intro h
    refine ⟨?_, fun leaf hmem _ => ?_, fun part hpart => ?_⟩
    · rw [hasPresentLeaf_iff_of_isLeaf hleaf, ← Bool.not_eq_true]
      intro hnullish
      simp [isReference_of_isNullish hnullish] at h
    · exact (isLeafOf_iff_of_isLeaf hleaf).mp hmem ▸ h
    · obtain ⟨next, hopens, -⟩ := TransGen.head'_iff.mp hpart
      exact absurd hopens (not_opens_of_isLeaf hleaf next)
  · intro h
    exact h.references type ((isLeafOf_iff_of_isLeaf hleaf).mpr rfl) h.present.isNullish_eq_false

/-- **Reference types by their leaves**, where nothing is given up on. -/
theorem isReference_iff_isSound {depth : Nat} (hle : depth ≤ maxDepth)
    (hends : table.EndsWithin depth ([], type)) :
    table.isReference maxDepth type = true ↔ table.IsSound maxDepth type := by
  induction depth generalizing type with
  | zero =>
    cases hleaf : table.isLeaf type with
    | true => exact isReference_iff_isSound_of_isLeaf hleaf
    | false =>
      -- an alias goes on, so that this can only be the union of no types
      have hnone : ∀ part, ¬table.Opens type part := fun part hopens => by
        simpa [endsWithin_zero_iff.mp hends] using mem_placesAfter_of_opens hopens
      rw [isReference_iff_of_opened (hends.mono hle) hleaf, isSound_iff_of_opened hleaf]
      simp [hnone]
  | succ depth ih =>
    cases hleaf : table.isLeaf type with
    | true => exact isReference_iff_isSound_of_isLeaf hleaf
    | false =>
      rw [isReference_iff_of_opened (hends.mono hle) hleaf, isSound_iff_of_opened hleaf]
      refine and_congr_right fun _ => forall₂_congr fun part hopens => imp_congr_right fun _ => ?_
      exact ih (by omega) (endsWithin_succ_iff.mp hends _ (mem_placesAfter_of_opens hopens))

/-! ### Ways of writing a union -/

/-- The leaves of a union are those of its members. -/
theorem isLeafOf_union {members : List TypeId} (h : table.get? type = some (.union members)) :
    table.IsLeafOf type leaf ↔ ∃ member ∈ members, table.IsLeafOf member leaf := by
  rw [isLeafOf_iff_of_opened (by simp [isLeaf, h])]
  simp only [opens_union h]

/-- **Writing a union differently** keeps its leaves. -/
theorem Regrouped.exists_isLeafOf_iff {members others : List TypeId}
    (h : table.Regrouped members others) (leaf : TypeId) :
    (∃ member ∈ members, table.IsLeafOf member leaf) ↔
      ∃ member ∈ others, table.IsLeafOf member leaf := by
  cases h with
  | @renamed before rest type other name h =>
    have hsame : table.IsLeafOf other leaf ↔ table.IsLeafOf type leaf := by
      rw [isLeafOf_iff_of_opened (by simp [isLeaf, h])]
      simp only [opens_alias h, exists_eq_left]
    simp [hsame, or_and_right, exists_or]
  | @grouped before group rest union h =>
    simp [isLeafOf_union h, or_and_right, exists_or]
  | moved h => simp only [h.mem_iff]

/-- The same for any number of changes. -/
theorem isLeafOf_iff_of_eqvGen {members others : List TypeId} {other : TypeId}
    (htype : table.get? type = some (.union members))
    (hother : table.get? other = some (.union others))
    (h : EqvGen table.Regrouped members others) (leaf : TypeId) :
    table.IsLeafOf type leaf ↔ table.IsLeafOf other leaf := by
  rw [isLeafOf_union htype, isLeafOf_union hother]
  clear htype hother
  induction h with
  | rel _ _ hchange => exact hchange.exists_isLeafOf_iff leaf
  | refl => rfl
  | symm _ _ _ ih => exact ih.symm
  | trans _ _ _ _ _ ihfirst ihsecond => exact ihfirst.trans ihsecond

end TypeTable

/-! ### Fresh oracles -/

namespace Oracle

/-- **Unions are judged by their leaves**, unless absence is veiled. Where nothing is given up on, a
fresh oracle says that a node whose type is a union has a reference type if and only if some leaf of
the union does not stand for the absence of a value, all such leaves are reference types, and no
constituent is a veiled absence. So it gives the same answer however the union is written, as long
as absence is veiled in neither way. -/
theorem freshAnswer_union_iff_leaves (model : FileModel) (maxDepth : Nat) (node : NodeId)
    {union : TypeId} {members : List TypeId} (htype : model.typeAt? node = some union)
    (hunion : model.types.get? union = some (.union members))
    (hends : model.types.EndsWithin maxDepth ([], union)) :
    (freshAnswer model maxDepth (.reference node) = true ↔
      model.types.HasPresentLeaf union ∧ model.types.HasReferenceLeaves maxDepth union ∧
        model.types.IsUnveiled union) ∧
      ∀ (other : NodeId) (rewritten : TypeId) (others : List TypeId),
        model.typeAt? other = some rewritten →
        model.types.get? rewritten = some (.union others) →
        model.types.EndsWithin maxDepth ([], rewritten) →
        EqvGen model.types.Regrouped members others →
        model.types.IsUnveiled union → model.types.IsUnveiled rewritten →
          freshAnswer model maxDepth (.reference other) =
            freshAnswer model maxDepth (.reference node) := by
  have hsound : ∀ {type : TypeId}, model.types.EndsWithin maxDepth ([], type) →
      (model.types.isReference maxDepth type = true ↔
        model.types.HasPresentLeaf type ∧ model.types.HasReferenceLeaves maxDepth type ∧
          model.types.IsUnveiled type) := fun hends =>
    (TypeTable.isReference_iff_isSound (Nat.le_refl maxDepth) hends).trans
      ⟨fun h => ⟨h.present, h.references, h.unveiled⟩, fun h => ⟨h.1, h.2.1, h.2.2⟩⟩
  refine ⟨?_, fun other rewritten others hother hothers hotherEnds hchange hplain hotherPlain => ?_⟩
  · rw [freshAnswer_reference htype]
    exact hsound hends
  · have hleaves := TypeTable.isLeafOf_iff_of_eqvGen hunion hothers hchange
    rw [freshAnswer_reference htype, freshAnswer_reference hother, Bool.eq_iff_iff, hsound hends,
      hsound hotherEnds]
    simp only [TypeTable.HasPresentLeaf, TypeTable.HasReferenceLeaves, hleaves, hplain,
      hotherPlain]

/-- Two ways of writing a union of an object, `undefined` and an array: node 0 has the type
`Maybe | number[]`, with `type Maybe = {} | undefined`, and all other nodes have the union of the
three. -/
def optional : FileModel where
  types := ⟨TypeTable.intrinsics ++
    #[.object [], .array 3, .union [11, 9], .alias "Maybe" [] 13, .union [14, 12],
      .union [11, 9, 12]]⟩
  typeOf? node := some (if node = 0 then 15 else 16)
  symbolOf? _ := none
  symbolType? _ := none

theorem isUnveiled_optional (type : TypeId) : optional.types.IsUnveiled type := by
  have hobject : ∀ {type}, Relation.ReflTransGen optional.types.Opens type 11 →
      optional.types.HasPresentLeaf type := fun hreach => ⟨11, ⟨hreach, by decide⟩, by decide⟩
  have hmaybe : Relation.ReflTransGen optional.types.Opens 13 11 :=
    .single ((TypeTable.opens_union rfl).mpr (by decide))
  have halias : Relation.ReflTransGen optional.types.Opens 14 11 :=
    .head ((TypeTable.opens_alias rfl).mpr rfl) hmaybe
  rintro part - ⟨hwritten, hnone⟩
  have hlt : part < 17 := by
    by_contra hge
    have hentry : optional.types.get? part = none :=
      Array.getElem?_eq_none (Nat.le_of_not_lt hge)
    simp [TypeTable.isLeaf, hentry] at hwritten
  have hmem : ∀ part < 17, optional.types.isLeaf part = false → part ∈ [13, 14, 15, 16] := by decide
  -- whatever is written out in this table has the object among its leaves
  refine hnone (hobject ?_)
  rcases List.mem_cons.mp (hmem part hlt hwritten) with rfl | hmem
  · exact hmaybe
  rcases List.mem_cons.mp hmem with rfl | hmem
  · exact halias
  rcases List.mem_cons.mp hmem with rfl | hmem
  · exact .head ((TypeTable.opens_union rfl).mpr (by decide)) halias
  · obtain rfl := List.mem_singleton.mp hmem
    exact .single ((TypeTable.opens_union rfl).mpr (by decide))

/-- Both ways of writing the union give a reference type. -/
theorem freshAnswer_union_iff_leaves_optional :
    (optional.types.EndsWithin 3 ([], 15) ∧ optional.types.EndsWithin 3 ([], 16)) ∧
      (freshAnswer optional 3 (.reference 0) = true ∧ optional.types.HasReferenceLeaves 3 15) ∧
      freshAnswer optional 3 (.reference 1) = freshAnswer optional 3 (.reference 0) := by
  have hends : optional.types.EndsWithin 3 ([], 15) := by decide
  have hotherEnds : optional.types.EndsWithin 3 ([], 16) := by decide
  have hgrouped : optional.types.Regrouped [11, 9, 12] [13, 12] :=
    @TypeTable.Regrouped.grouped _ [] [11, 9] [12] 13 rfl
  have hrenamed : optional.types.Regrouped [13, 12] [14, 12] :=
    @TypeTable.Regrouped.renamed _ [] [12] 13 14 "Maybe" rfl
  obtain ⟨hiff, hsame⟩ := freshAnswer_union_iff_leaves optional 3 0 rfl rfl hends
  have hanswer : freshAnswer optional 3 (.reference 0) = true := by decide
  exact ⟨⟨hends, hotherEnds⟩, ⟨hanswer, (hiff.mp hanswer).2.1⟩, hsame 1 16 _ rfl rfl hotherEnds
    (.symm _ _ (.trans _ _ _ (.rel _ _ hgrouped) (.rel _ _ hrenamed)))
    (isUnveiled_optional 15) (isUnveiled_optional 16)⟩

/-- `{} | Nothing`, where `type Nothing = null`, is the type of all nodes. -/
def veiledNull : FileModel where
  types := ⟨TypeTable.intrinsics ++ #[.object [], .alias "Nothing" [] 10, .union [11, 12]]⟩
  typeOf? _ := some 13
  symbolOf? _ := none
  symbolType? _ := none

/-- **An alias of `null` hides a reference type**: the leaves of `{} | Nothing` are an object type
and `null`, and yet it is found to be no reference type. -/
theorem not_freshAnswer_union_iff_leaves :
    ¬ ∀ (model : FileModel) (maxDepth : Nat) (node : NodeId) (union : TypeId)
      (members : List TypeId), model.typeAt? node = some union →
      model.types.get? union = some (.union members) →
      model.types.EndsWithin maxDepth ([], union) →
      (freshAnswer model maxDepth (.reference node) = true ↔
        model.types.HasPresentLeaf union ∧ model.types.HasReferenceLeaves maxDepth union) := by
  intro hall
  have hiff := hall veiledNull 32 0 13 [11, 12] rfl rfl (by decide)
  have hanswer : freshAnswer veiledNull 32 (.reference 0) = false := by decide
  rw [hanswer] at hiff
  refine Bool.false_ne_true (hiff.mpr ⟨⟨11, ⟨.single ?_, by decide⟩, by decide⟩, ?_⟩)
  · exact (TypeTable.opens_union rfl).mpr (by decide)
  -- the leaves are the object type, and `null` behind the alias
  · intro leaf hleaf hpresent
    obtain ⟨member, hmember, hleaf⟩ := (TypeTable.isLeafOf_union rfl).mp hleaf
    rcases List.mem_pair.mp hmember with rfl | rfl
    · obtain rfl := (TypeTable.isLeafOf_iff_of_isLeaf (by decide)).mp hleaf
      decide
    · obtain ⟨target, hopens, hleaf⟩ := (TypeTable.isLeafOf_iff_of_opened (by decide)).mp hleaf
      obtain rfl := (TypeTable.opens_alias rfl).mp hopens
      obtain rfl := (TypeTable.isLeafOf_iff_of_isLeaf (by decide)).mp hleaf
      exact absurd hpresent (by decide)

end Oracle

end StreamLint
