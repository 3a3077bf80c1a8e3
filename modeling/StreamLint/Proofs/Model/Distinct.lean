import Mathlib.Data.List.Chain
import StreamLint.Proofs.Model.Joined
import StreamLint.Proofs.Model.Termination
/-!
# Unions of distinct types

Types that come of the `return` statements of a function, of the members of a union or of what calls
return are joined (`StreamLint.joinTypes`). Nothing is joined of no types, and types that are all
the same are joined to that type. A union of different types has all of them and no others, in their
order, and no type stands in it twice in a row.

It has each of them only once exactly if equal types come in a row
(`StreamLint.ComeInRows`), because a type is left out only after itself: a function that returns a
number, a truth value and a number again returns a union with `number` in it twice
(`StreamLint.not_nodup_thirdReturn`).
-/

namespace StreamLint

/-! ### Types in a row -/

/-- **Equal types come in a row**: between two that are equal there is no other one. -/
def ComeInRows (types : List TypeId) : Prop :=
  ∀ type other, [type, other, type].Sublist types → other = type

theorem ComeInRows.sublist {types others : List TypeId} (h : ComeInRows types)
    (hsub : others.Sublist types) : ComeInRows others :=
  fun type other hthree => h type other (hthree.trans hsub)

/-- The first type stays the first one. -/
theorem exists_eraseReps_eq_cons (first : TypeId) (rest : List TypeId) :
    ∃ tail, (first :: rest).eraseReps = first :: tail := by
  induction rest generalizing first with
  | nil => exact ⟨[], rfl⟩
  | cons second rest ih =>
    rw [eraseReps_cons_cons]
    split
    next heq => exact heq ▸ ih second
    next => exact ⟨_, rfl⟩

theorem eraseReps_sublist (types : List TypeId) : types.eraseReps.Sublist types := by
  cases types with
  | nil => exact .slnil
  | cons first rest =>
    induction rest generalizing first with
    | nil => exact List.Sublist.refl _
    | cons second rest ih =>
      rw [eraseReps_cons_cons]
      split
      next => exact (ih second).cons first
      next => exact (ih second).cons_cons first

/-- Neighbours are different when repetitions are left out. -/
theorem isChain_eraseReps (types : List TypeId) : types.eraseReps.IsChain (· ≠ ·) := by
  cases types with
  | nil => exact .nil
  | cons first rest =>
    induction rest generalizing first with
    | nil => exact .singleton first
    | cons second rest ih =>
      have hrest := ih second
      rw [eraseReps_cons_cons]
      split
      next => exact hrest
      next hne =>
        obtain ⟨tail, htail⟩ := exists_eraseReps_eq_cons second rest
        rw [htail] at hrest ⊢
        exact .cons_cons hne hrest

/-- **Types whose neighbours are different are all kept.** -/
theorem sublist_eraseReps {chain types : List TypeId} (hchain : chain.IsChain (· ≠ ·))
    (h : chain.Sublist types) : chain.Sublist types.eraseReps := by
  cases types with
  | nil => exact h
  | cons first rest =>
    induction rest generalizing chain first with
    | nil => exact h
    | cons second rest ih =>
      rw [eraseReps_cons_cons]
      split
      next heq =>
        subst heq
        -- of two equal types in a row the chain takes one at most
        refine ih hchain first ?_
        cases h with
        | cons _ h => exact h
        | @cons_cons tail _ _ h =>
          cases h with
          | cons _ h => exact h.cons_cons first
          | cons_cons _ h => exact absurd rfl (List.isChain_cons_cons.mp hchain).1
      next =>
        cases h with
        | cons _ h => exact (ih hchain second h).cons first
        | cons_cons _ h => exact (ih hchain.tail second h).cons_cons first

/-- In a list whose neighbours are different, a type that is there twice has another one between. -/
theorem exists_between_of_isChain {chain : List TypeId} {type : TypeId}
    (hchain : chain.IsChain (· ≠ ·)) (h : [type, type].Sublist chain) :
    ∃ other, other ≠ type ∧ [type, other, type].Sublist chain := by
  induction chain with
  | nil => cases h
  | cons first rest ih =>
    cases h with
    | cons _ h =>
      obtain ⟨other, hne, hthree⟩ := ih hchain.tail h
      exact ⟨other, hne, hthree.cons first⟩
    | cons_cons _ h =>
      cases rest with
      | nil => cases h
      | cons second rest =>
        have hne := (List.isChain_cons_cons.mp hchain).1
        cases h with
        | cons _ h => exact ⟨second, hne.symm, (h.cons_cons second).cons_cons type⟩
        | cons_cons _ h => exact absurd rfl hne

/-- **Each type is kept once** if and only if equal types come in a row. -/
theorem nodup_eraseReps_iff {types : List TypeId} :
    types.eraseReps.Nodup ↔ ComeInRows types := by
  rw [List.nodup_iff_sublist]
  constructor
  · intro hnodup type other hthree
    by_contra hne
    have hchain : [type, other, type].IsChain (· ≠ ·) :=
      .cons_cons (Ne.symm hne) (.cons_cons hne (.singleton type))
    have hkept := sublist_eraseReps hchain hthree
    have htwo : [type, type].Sublist [type, other, type] :=
      ((List.Sublist.refl [type]).cons other).cons_cons type
    exact hnodup type (htwo.trans hkept)
  · intro hrows type htwo
    obtain ⟨other, hne, hthree⟩ := exists_between_of_isChain (isChain_eraseReps types) htwo
    exact hne (hrows type other (hthree.trans (eraseReps_sublist types)))

theorem nodup_eraseDups : (types : List TypeId) → types.eraseDups.Nodup
  | [] => .nil
  | first :: rest => by
    rw [List.eraseDups_cons]
    exact List.nodup_cons.mpr ⟨by simp [List.mem_eraseDups], nodup_eraseDups _⟩
  termination_by types => types.length
  decreasing_by exact Nat.lt_succ_of_le (List.length_filter_le ..)

/-- **What is kept is every type where it first comes** if and only if equal types come in a row. -/
theorem eraseReps_eq_eraseDups_iff {types : List TypeId} :
    types.eraseReps = types.eraseDups ↔ ComeInRows types := by
  constructor
  · intro heq
    rw [← nodup_eraseReps_iff, heq]
    exact nodup_eraseDups types
  · intro hrows
    cases types with
    | nil => rfl
    | cons first rest =>
      induction rest generalizing first with
      | nil => rfl
      | cons second rest ih =>
        have hrest := ih second (hrows.sublist (List.sublist_cons_self first _))
        rw [eraseReps_cons_cons]
        split
        next heq =>
          subst heq
          rw [hrest, List.eraseDups_cons, List.eraseDups_cons, List.filter_cons_of_neg (by simp)]
        next hne =>
          -- the first type does not come again
          have hfresh : first ∉ second :: rest := by
            intro hmem
            refine hne (hrows first second ?_).symm
            have hlater : first ∈ rest := (List.mem_cons.mp hmem).resolve_left hne
            exact ((List.singleton_sublist.mpr hlater).cons_cons second).cons_cons first
          have hkeep : (second :: rest).filter (fun type => !type == first) = second :: rest :=
            List.filter_eq_self.mpr fun type hmem => by
              simpa using fun heq : type = first => hfresh (heq ▸ hmem)
          rw [hrest, List.eraseDups_cons (a := first), hkeep]

/-! ### Joining -/

/-- **What types are joined to.** There is nothing if and only if there are no types; types that are
all the same are joined to that type; and different types are joined to a union of them, in their
order and without any others. Each of them is in the union once, where it first comes, if and only
if equal types come in a row. -/
theorem joinTypes_describes (draft : Draft) (types : List TypeId) :
    Draft.After (joinTypes types) draft fun join? new =>
      (join? = none ↔ types = []) ∧
      (∀ type ∈ types, (∀ other ∈ types, other = type) → join? = some type) ∧
      ∀ first ∈ types, ∀ second ∈ types, first ≠ second → ∃ join members,
        join? = some join ∧ new.table.get? join = some (.union members) ∧
        (∀ type, type ∈ members ↔ type ∈ types) ∧ members.Sublist types ∧
        (members.Nodup ↔ ComeInRows types) ∧ (members = types.eraseDups ↔ ComeInRows types) := by
  refine (after_joinTypes_joinOf draft types).imp fun join? new hjoin => ?_
  have hmem : ∀ type, type ∈ types.eraseReps ↔ type ∈ types := fun _ => mem_eraseReps_iff
  have hchain := isChain_eraseReps types
  rw [← eraseReps_eq_nil_iff]
  unfold TypeTable.JoinOf at hjoin
  rcases hreps : types.eraseReps with _ | ⟨only, _ | ⟨another, rest⟩⟩
  · -- no types
    rw [hreps] at hjoin hmem
    refine ⟨by simpa using hjoin, fun type htype => ?_, fun first hfirst => ?_⟩
    · exact absurd ((hmem type).mpr htype) List.not_mem_nil
    · exact absurd ((hmem first).mpr hfirst) List.not_mem_nil
  · -- one type, any number of times
    rw [hreps] at hjoin hmem
    have honly : ∀ type ∈ types, type = only :=
      fun type htype => List.mem_singleton.mp ((hmem type).mpr htype)
    refine ⟨by simp [hjoin], fun type htype _ => ?_, fun first hfirst second hsecond hne => ?_⟩
    · rw [hjoin, honly type htype]
    · exact absurd ((honly first hfirst).trans (honly second hsecond).symm) hne
  · -- different types, the first two of which are neighbours
    have hne : only ≠ another := (List.isChain_cons_cons.mp (hreps ▸ hchain)).1
    have hfirst : only ∈ types := (hmem only).mp (by simp [hreps])
    have hsecond : another ∈ types := (hmem another).mp (by simp [hreps])
    rw [hreps] at hjoin
    obtain ⟨join, rfl, hunion⟩ := hjoin
    refine ⟨by simp, fun type _ hsame => ?_, fun _ _ _ _ _ => ⟨join, _, rfl, hunion, ?_⟩⟩
    · exact absurd ((hsame only hfirst).trans (hsame another hsecond).symm) hne
    · rw [← hreps]
      exact ⟨hmem, eraseReps_sublist types, nodup_eraseReps_iff, eraseReps_eq_eraseDups_iff⟩

/-- The document `function f() { return 1; return true; return 2; }`. -/
def thirdReturn : Concrete.Document where
  text := "function f() \x7b return 1; return true; return 2; \x7d"
  dialect := .typeScript
  root :=
    .named "program" 0 49 none
      [.named "function_declaration" 0 49 none
        [.named "identifier" 9 10 (some "name") [],
          .named "formal_parameters" 10 12 (some "parameters") [],
          .named "statement_block" 13 49 (some "body")
            [.named "return_statement" 15 24 none [.named "number" 22 23 none []],
              .named "return_statement" 25 37 none [.named "true" 32 36 none []],
              .named "return_statement" 38 47 none [.named "number" 45 46 none []]]]]

/-- **A function that returns a number, a truth value and a number again** returns a union in which
the type of numbers stands twice. -/
theorem not_nodup_thirdReturn :
    let tree := SyntaxTree.ofDocument thirdReturn
    let types : List TypeId := [.number, .boolean, .number]
    (tree.field? 1 .body = some 3 ∧ tree.returnedValues 3 = [5, 7, 9]) ∧
      ∃ bindings type result union, tree.model? .empty {} = some bindings ∧
        [5, 7, 9].filterMap (bindings.nodeTypes[·]?) = types ∧
        bindings.nodeTypes[2]? = some type ∧
        bindings.table.get? type = some (.function result) ∧
        bindings.table.get? result = some (.alias "" [] union) ∧
        bindings.table.get? union = some (.union types) ∧
        ¬types.Nodup ∧ types ≠ types.eraseDups := by
  intro tree types
  have hends : (tree.guardedModel .empty {}).toOption.any (fun bindings =>
      decide ([5, 7, 9].filterMap (bindings.nodeTypes[·]?) = types ∧
        bindings.nodeTypes[2]? = some 12 ∧
        bindings.table.get? 12 = some (.function 11) ∧
        bindings.table.get? 11 = some (.alias "" [] 13) ∧
        bindings.table.get? 13 = some (.union types))) = true := by
    decide +kernel
  obtain ⟨bindings, hbindings, htypes⟩ :=
    tree.exists_model?_of_guarded Prelude.isClosed_empty hends
  obtain ⟨hvalues, hname, hfunction, halias, hunion⟩ := of_decide_eq_true htypes
  exact ⟨by decide +kernel, bindings, 12, 11, 13, hbindings, hvalues, hname, hfunction, halias,
    hunion, by decide, by decide⟩

end StreamLint
