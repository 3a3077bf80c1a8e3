import StreamLint.Oracle.Memo
/-!
# Where the walk for streams goes

`StreamLint.TypeTable.observableWithin` answers at a type from the type alone, or else from the
types it goes on to. This file takes the two parts of an answer apart:
`StreamLint.TypeTable.isStreamAt` is what is seen at a type, and `StreamLint.TypeTable.placesAfter`
lists the places to which the walk goes on. A place is a type together with what generic parameters
stand for there.

The whole point is `StreamLint.TypeTable.observableWithin_succ`: an answer with one step more is
what is seen at the place, or an answer with one step less at some place after it. So without
remembered answers the walk is a bounded search along `StreamLint.TypeTable.WalksIn`, and it finds a
stream exactly if one can be reached in fewer steps than there are
(`StreamLint.TypeTable.observableWithin_eq_true_iff`).
-/

namespace StreamLint

/-- A place in the walk: what generic parameters stand for there, and a type. -/
abbrev WalkPlace := Instantiation × TypeId

namespace TypeTable

variable (table : TypeTable)

/-- Whether a type is seen to be a stream without going on to other types. -/
def isStreamAt (type : TypeId) : Bool :=
  match table.get? type with
  | some (.declared declaration) => declaration.isObservable
  | some (.foreign name _) => isStreamName name
  | some (.object members) => hasSubscribe members
  | some (.reference target _) =>
    match table.get? target with
    | some (.declared declaration) => declaration.isObservable
    | _ => false
  | _ => false

/-- The places to which the walk goes on from a place. -/
def placesAfter : WalkPlace → List WalkPlace
  | (instantiation, type) =>
    match table.get? type with
    | some (.declared declaration) => declaration.supertypes.map ([], ·)
    | some (.reference target arguments) =>
      let inner := Instantiation.ofReference table target arguments instantiation
      match table.get? target with
      | some (.declared declaration) => declaration.supertypes.map (inner, ·)
      | some (.alias _ _ aliased) => [(inner, aliased)]
      | _ => [(instantiation, target)]
    | some (.alias _ _ target) => [(instantiation, target)]
    | some (.union members) | some (.intersection members) => members.map (instantiation, ·)
    | some (.parameter _ bound) =>
      match instantiation.argument? type, bound with
      | some argument, _ => [([], argument)]
      | none, some bound => [(instantiation, bound)]
      | none, none => []
    | _ => []

/-- The answer that is known at a place; where a parameter is instantiated none is. -/
def knownAt (known : TypeId → Option Bool) (place : WalkPlace) : Option Bool :=
  if place.1.isEmpty then known place.2 else none

/-- The places that are a number of steps away from a place. -/
inductive WalksIn : Nat → WalkPlace → WalkPlace → Prop where
  /-- No step leads to the place itself. -/
  | here (place : WalkPlace) : WalksIn 0 place place
  /-- One step leads to a place after it. -/
  | next {steps : Nat} {place after goal : WalkPlace} (hmem : after ∈ table.placesAfter place)
      (hwalk : WalksIn steps after goal) : WalksIn (steps + 1) place goal

variable {table} {known : TypeId → Option Bool}

/-- **One step of the walk**: where nothing is known, the answer is what is seen at the place or an
answer with one step less at a place after it. -/
theorem observableWithin_succ (steps : Nat) (place : WalkPlace) :
    table.observableWithin known (steps + 1) place.1 place.2 =
      (knownAt known place).getD (table.isStreamAt place.2 ||
        (table.placesAfter place).any fun after =>
          table.observableWithin known steps after.1 after.2) := by
  obtain ⟨instantiation, type⟩ := place
  rw [observableWithin]
  simp only [knownAt]
  cases hknown : (if instantiation.isEmpty then known type else none) with
  | some answer => rfl
  | none =>
    simp only [isStreamAt, placesAfter, NominalType.mayBeObservable, Option.getD_none]
    cases hentry : table.get? type with
    | none => rfl
    | some entry =>
      -- where a reference goes depends on its target, and a parameter on what is given for it
      cases entry with
      | reference target arguments =>
        cases htarget : table.get? target with
        | none => simp [htarget]
        | some aim => cases aim <;> simp [htarget, List.any_map, Function.comp_def]
      | parameter name bound =>
        cases instantiation.argument? type <;> cases bound <;> simp
      | _ => simp [List.any_map, Function.comp_def]

/-- Without remembered answers, more steps find no fewer streams. -/
theorem observableWithin_mono {steps more : Nat} (hle : steps ≤ more) (place : WalkPlace)
    (h : table.observableWithin (fun _ => none) steps place.1 place.2 = true) :
    table.observableWithin (fun _ => none) more place.1 place.2 = true := by
  induction steps generalizing more place with
  | zero => simp [observableWithin] at h
  | succ steps ih =>
    obtain ⟨more, rfl⟩ : ∃ m, more = m + 1 := ⟨more - 1, by omega⟩
    rw [observableWithin_succ] at h ⊢
    have hnone : knownAt (fun _ => none) place = none := by simp [knownAt]
    simp only [hnone, Option.getD_none, Bool.or_eq_true, List.any_eq_true] at h ⊢
    refine h.imp_right ?_
    rintro ⟨after, hmem, hafter⟩
    exact ⟨after, hmem, ih (by omega) after hafter⟩

/-- **The walk is a bounded search**: without remembered answers it finds a stream exactly if one
is fewer steps away than it may take. -/
theorem observableWithin_eq_true_iff {steps : Nat} {place : WalkPlace} :
    table.observableWithin (fun _ => none) steps place.1 place.2 = true ↔
      ∃ k < steps, ∃ goal, table.WalksIn k place goal ∧ table.isStreamAt goal.2 = true := by
  have hnone : ∀ place, knownAt (fun _ => none) place = none := fun place => by simp [knownAt]
  induction steps generalizing place with
  | zero => simp [observableWithin]
  | succ steps ih =>
    rw [observableWithin_succ, hnone, Option.getD_none, Bool.or_eq_true, List.any_eq_true]
    constructor
    · rintro (hhere | ⟨after, hmem, hafter⟩)
      · exact ⟨0, by omega, place, .here place, hhere⟩
      · obtain ⟨k, hk, goal, hwalk, hgoal⟩ := ih.mp hafter
        exact ⟨k + 1, by omega, goal, .next hmem hwalk, hgoal⟩
    · rintro ⟨k, hk, goal, hwalk, hgoal⟩
      cases hwalk with
      | here => exact .inl hgoal
      | next hmem hwalk => exact .inr ⟨_, hmem, ih.mpr ⟨_, by omega, goal, hwalk, hgoal⟩⟩

end TypeTable

end StreamLint
