import Mathlib.Data.List.Forall2
import StreamLint.Proofs.Oracle.Witness
/-!
# More depth, no fewer answers

The two walks of an oracle, the one for streams and the one for reference types, go the same ways
and differ in how they put answers together. The walk for streams takes any positive answer; the
one for reference types takes all answers about the members of a union that do not stand for the
absence of a value. This file writes both as one search (`StreamLint.TypeTable.searchWithin`) with a
rule for every type (`StreamLint.AnswerRule`).

What a rule makes of answers can only get better with the answers
(`StreamLint.AnswerRule.judge_mono`). This is not to be taken for granted of the rule for unions,
which filters; but what it filters by are the entries of the members, not the answers about them.
So more depth never costs an answer, whatever the table holds
(`StreamLint.Oracle.freshAnswer_mono`).
-/

namespace StreamLint

/-! ### Rules -/

/-- How the answers about the types after a type make the answer about it. -/
inductive AnswerRule where
  /-- The answer is positive in any case. -/
  | always
  /-- The answer is negative in any case. -/
  | never
  /-- One of the answers has to be positive. -/
  | anyOf
  /-- All answers count but those that are marked as absent; they have to be positive, and there has
  to be one. -/
  | allPresent (absent : List Bool)
  deriving DecidableEq

/-- The answer that the rule makes of answers. -/
def AnswerRule.judge : AnswerRule → List Bool → Bool
  | always, _ => true
  | never, _ => false
  | anyOf, answers => answers.any id
  | allPresent absent, answers =>
    absent.any (!·) && (absent.zip answers).all fun (gone, answer) => gone || answer

/-- **Better answers are judged no worse.** -/
theorem AnswerRule.judge_mono {answers better : List Bool}
    (h : List.Forall₂ (fun answer other => answer = true → other = true) answers better)
    {rule : AnswerRule} (hjudge : rule.judge answers = true) : rule.judge better = true := by
  cases rule with
  | always => rfl
  | never => exact hjudge
  | anyOf =>
    simp only [judge] at hjudge ⊢
    induction h with
    | nil => exact hjudge
    | cons hfirst _ ih =>
      simp only [List.any_cons, id_eq, Bool.or_eq_true] at hjudge ⊢
      exact hjudge.imp hfirst ih
  | allPresent absent =>
    simp only [judge, Bool.and_eq_true] at hjudge ⊢
    refine ⟨hjudge.1, ?_⟩
    -- who is absent is settled before the answers are looked at
    have hall := hjudge.2
    clear hjudge
    induction h generalizing absent with
    | nil => exact hall
    | cons hfirst _ ih =>
      cases absent with
      | nil => rfl
      | cons gone absent =>
        simp only [List.zip_cons_cons, List.all_cons, Bool.and_eq_true, Bool.or_eq_true]
          at hall ⊢
        exact ⟨hall.1.imp_right hfirst, ih absent hall.2⟩

/-- The same for the answers about places. -/
theorem AnswerRule.judge_map_mono {α β : Type} {first : α → Bool} {second : β → Bool}
    {places : List α} {others : List β}
    (h : List.Forall₂ (fun place other => first place = true → second other = true) places others)
    {rule : AnswerRule} (hjudge : rule.judge (places.map first) = true) :
    rule.judge (others.map second) = true := by
  refine judge_mono ?_ hjudge
  rw [List.forall₂_map_left_iff, List.forall₂_map_right_iff]
  exact h

/-- The members that are not absent are judged, and there has to be one. -/
theorem AnswerRule.judge_allPresent_iff {α : Type} {members : List α} {absent answer : α → Bool} :
    (allPresent (members.map absent)).judge (members.map answer) = true ↔
      (∃ member ∈ members, absent member = false) ∧
        ∀ member ∈ members, absent member = false → answer member = true := by
  simp only [judge, List.zip_map', Bool.and_eq_true, List.any_map, List.all_map, List.any_eq_true,
    List.all_eq_true, Function.comp_apply, Bool.not_eq_true', Bool.or_eq_true]
  refine and_congr_right fun _ => forall₂_congr fun member _ => ?_
  cases absent member <;> simp

/-! ### The walks as searches -/

namespace TypeTable

variable (table : TypeTable)

/-- The search from a place, in so many steps: the answers about the places after it, judged by the
rule for its type. -/
def searchWithin (rule : TypeId → AnswerRule) : Nat → WalkPlace → Bool
  | 0, _ => false
  | steps + 1, place =>
    (rule place.2).judge ((table.placesAfter place).map (searchWithin rule steps))

/-- The rule of the walk for streams. -/
def streamRule (type : TypeId) : AnswerRule :=
  if table.isStreamAt type then .always else .anyOf

/-- The rule of the walk for reference types. -/
def referenceRule (type : TypeId) : AnswerRule :=
  match table.get? type with
  | some (.declared _) | some (.array _) | some (.tuple _) | some (.function _)
  | some (.object _) | some (.foreign _ _) => .always
  | some (.reference target _) =>
    match table.get? target with
    | some (.alias ..) => .anyOf
    | _ => .always
  | some (.alias ..) | some (.intersection _) | some (.parameter ..) => .anyOf
  | some (.union members) => .allPresent (members.map table.isNullish)
  | _ => .never

variable {table}

/-- The walk for streams is a search. -/
theorem observableWithin_eq_search (steps : Nat) (place : WalkPlace) :
    table.observableWithin (fun _ => none) steps place.1 place.2 =
      table.searchWithin table.streamRule steps place := by
  induction steps generalizing place with
  | zero => rfl
  | succ steps ih =>
    have hnone : knownAt (fun _ => none) place = none := by simp [knownAt]
    rw [observableWithin_succ, hnone, Option.getD_none, searchWithin, streamRule]
    split
    next hstream => simp [hstream, AnswerRule.judge]
    next hstream => simp [hstream, AnswerRule.judge, List.any_map, ih]

/-- The walk for reference types is a search. -/
theorem referenceWithin_eq_search (steps : Nat) (place : WalkPlace) :
    table.referenceWithin steps place.1 place.2 =
      table.searchWithin table.referenceRule steps place := by
  induction steps generalizing place with
  | zero => rfl
  | succ steps ih =>
    obtain ⟨instantiation, type⟩ := place
    have hnext : ∀ inner, table.referenceWithin steps inner =
        fun next => table.searchWithin table.referenceRule steps (inner, next) := fun inner =>
      funext fun next => ih (inner, next)
    rw [referenceWithin, searchWithin]
    simp only [referenceRule, placesAfter]
    cases hentry : table.get? type with
    | none => rfl
    | some entry =>
      cases entry with
      | reference target arguments =>
        cases haim : table.get? target with
        | none => simp [haim, AnswerRule.judge]
        | some aim => cases aim <;> simp [haim, AnswerRule.judge, hnext]
      | parameter name bound =>
        cases instantiation.argument? type <;> cases bound <;> simp [AnswerRule.judge, hnext]
      | union members =>
        rw [Bool.eq_iff_iff, List.map_map, AnswerRule.judge_allPresent_iff]
        simp [hnext, List.filter_eq_nil_iff, or_iff_not_imp_left]
      | _ => simp [AnswerRule.judge, hnext, Function.comp_def]

/-- **More steps answer no less.** -/
theorem searchWithin_mono {rule : TypeId → AnswerRule} {steps more : Nat} (hle : steps ≤ more)
    (place : WalkPlace) (h : table.searchWithin rule steps place = true) :
    table.searchWithin rule more place = true := by
  induction steps generalizing more place with
  | zero => cases h
  | succ steps ih =>
    obtain ⟨more, rfl⟩ : ∃ m, more = m + 1 := ⟨more - 1, by omega⟩
    rw [searchWithin] at h ⊢
    refine AnswerRule.judge_map_mono (List.forall₂_same.mpr fun after _ => ?_) h
    exact ih (by omega) after

/-- The answer about streams, as a search. -/
theorem mayBeObservable_eq_search (maxDepth : Nat) (type : TypeId) :
    table.mayBeObservable maxDepth type =
      table.searchWithin table.streamRule (maxDepth + 1) ([], type) :=
  observableWithin_eq_search (maxDepth + 1) ([], type)

/-- The answer about reference types, as a search. -/
theorem isReference_eq_search (maxDepth : Nat) (type : TypeId) :
    table.isReference maxDepth type =
      table.searchWithin table.referenceRule (maxDepth + 1) ([], type) :=
  referenceWithin_eq_search (maxDepth + 1) ([], type)

end TypeTable

/-! ### Fresh oracles -/

namespace Oracle

/-- The answer about reference types, at a node that has a type. -/
theorem freshAnswer_reference {model : FileModel} {maxDepth : Nat} {node : NodeId} {type : TypeId}
    (h : model.typeAt? node = some type) :
    freshAnswer model maxDepth (.reference node) = model.types.isReference maxDepth type := by
  simp [freshAnswer_eq, FileModel.answer, h]

/-- **No answer is lost with more depth**: what a fresh oracle answers with yes, a fresh oracle of
greater depth answers with yes, whether it is asked about streams or about reference types. -/
theorem freshAnswer_mono (model : FileModel) {maxDepth more : Nat} (hle : maxDepth ≤ more)
    (query : Query) (h : freshAnswer model maxDepth query = true) :
    freshAnswer model more query = true := by
  have hsteps : maxDepth + 1 ≤ more + 1 := Nat.succ_le_succ hle
  have hstream : ∀ type, model.types.mayBeObservable maxDepth type = true →
      model.types.mayBeObservable more type = true := by
    intro type
    rw [TypeTable.mayBeObservable_eq_search, TypeTable.mayBeObservable_eq_search]
    exact TypeTable.searchWithin_mono hsteps ([], type)
  have hreference : ∀ type, model.types.isReference maxDepth type = true →
      model.types.isReference more type = true := by
    intro type
    rw [TypeTable.isReference_eq_search, TypeTable.isReference_eq_search]
    exact TypeTable.searchWithin_mono hsteps ([], type)
  rw [freshAnswer_eq] at h ⊢
  cases query with
  | observableType type => exact hstream type h
  | observable node =>
    simp only [FileModel.answer] at h ⊢
    cases htype : model.typeAt? node with
    | none => simp [htype] at h
    | some type => exact hstream type (by simpa [htype] using h)
  | reference node =>
    simp only [FileModel.answer] at h ⊢
    cases htype : model.typeAt? node with
    | none => simp [htype] at h
    | some type => exact hreference type (by simpa [htype] using h)

/-- An alias that leads back to itself, `type Ring<T> = (T | undefined) & Ring<T> & …`, where the
last part is a place that is not in use, and `Ring<Observable>`, which is the type of all nodes. -/
def ring : FileModel where
  types := ⟨TypeTable.intrinsics ++
    #[.foreign "Observable" [], .parameter "T" none, .union [12, 9], .intersection [13, 16, 99],
      .alias "Ring" [12] 14, .reference 15 [12], .reference 15 [11]]⟩
  typeOf? _ := some 17
  symbolOf? _ := none
  symbolType? _ := none

/-- The stream in the ring is four steps away; further depth, spent on going round, takes nothing
back. -/
theorem freshAnswer_mono_ring :
    (freshAnswer ring 3 (.observable 0) = false ∧ freshAnswer ring 3 (.reference 0) = false) ∧
      4 ≤ 9 ∧
      (freshAnswer ring 4 (.observable 0) = true ∧ freshAnswer ring 9 (.observable 0) = true) ∧
      freshAnswer ring 4 (.reference 0) = true ∧ freshAnswer ring 9 (.reference 0) = true := by
  have hobservable : freshAnswer ring 4 (.observable 0) = true := by decide
  have hreference : freshAnswer ring 4 (.reference 0) = true := by decide
  exact ⟨by decide, by decide,
    ⟨hobservable, freshAnswer_mono ring (by decide) (.observable 0) hobservable⟩,
    hreference, freshAnswer_mono ring (by decide) (.reference 0) hreference⟩

end Oracle

end StreamLint
