import StreamLint.Proofs.Oracle.Witness
/-!
# How far away a stream may be

Where a table holds no generic parameters, instantiations play no part, and the walk is a search in
a plain graph of types. This file gives the graph (`StreamLint.TypeTable.StepsTo`) and the measure
of its paths, and shows that the walk of a fresh oracle finds a stream exactly if a witness is no
more steps away than the depth.

What makes the measure delicate is that a reference to a declaration or an alias costs nothing: it
counts as what it refers to (`StreamLint.TypeTable.counterpart`), so that the step from there on is
the one that is counted. A reference to anything else is a step of its own.

The main statement is `StreamLint.Oracle.freshAnswer_eq_true_iff_path`.
-/

namespace StreamLint

namespace TypeTable

variable (table : TypeTable)

/-! ### Steps and paths -/

/-- What a type counts as: a reference to a declaration or an alias counts as its target. -/
def counterpart (type : TypeId) : TypeId :=
  match table.get? type with
  | some (.reference target _) =>
    match table.get? target with
    | some (.declared _) | some (.alias ..) => target
    | _ => type
  | _ => type

/-- One step from what a type counts as. -/
inductive StepsTo (type : TypeId) : TypeId → Prop where
  /-- From an alias to what it is a name for. -/
  | aliased {target : TypeId} {name : String} {params : List TypeId}
    (h : table.get? (table.counterpart type) = some (.alias name params target)) :
    StepsTo type target
  /-- From a declaration to a supertype. -/
  | supertype {supertype : TypeId} {declaration : NominalType}
    (h : table.get? (table.counterpart type) = some (.declared declaration))
    (hmem : supertype ∈ declaration.supertypes) : StepsTo type supertype
  /-- From a union to a member. -/
  | unionMember {member : TypeId} {members : List TypeId}
    (h : table.get? (table.counterpart type) = some (.union members)) (hmem : member ∈ members) :
    StepsTo type member
  /-- From an intersection to a member. -/
  | intersectionMember {member : TypeId} {members : List TypeId}
    (h : table.get? (table.counterpart type) = some (.intersection members))
    (hmem : member ∈ members) : StepsTo type member
  /-- From a reference to a type that is neither a declaration nor an alias. -/
  | target {target : TypeId} {arguments : List TypeId}
    (h : table.get? (table.counterpart type) = some (.reference target arguments)) :
    StepsTo type target

/-- A path of so many steps. -/
inductive PathIn : Nat → TypeId → TypeId → Prop where
  /-- The path without steps. -/
  | here (type : TypeId) : PathIn 0 type type
  /-- One step, and a path from there. -/
  | next {steps : Nat} {type after goal : TypeId} (hstep : table.StepsTo type after)
      (hpath : PathIn steps after goal) : PathIn (steps + 1) type goal

/-- The table holds no generic parameters. -/
def IsMonomorphic : Prop :=
  ∀ type name bound, table.get? type ≠ some (.parameter name bound)

variable {table}

/-! ### What a type counts as -/

/-- What is seen at a type is what is seen at its counterpart. -/
theorem isStreamAt_eq_isWitness (type : TypeId) :
    table.isStreamAt type = table.isWitness (table.counterpart type) := by
  unfold isStreamAt counterpart
  cases hentry : table.get? type with
  | none => simp [isWitness, hentry]
  | some entry =>
    cases entry with
    | reference target arguments =>
      cases haim : table.get? target with
      | none => simp [isWitness, hentry, haim]
      | some aim => cases aim <;> simp [isWitness, hentry, haim]
    | _ => simp [isWitness, hentry]

/-- Where a step leads, by the entry of what the type counts as. -/
theorem stepsTo_iff {type next : TypeId} :
    table.StepsTo type next ↔
      match table.get? (table.counterpart type) with
      | some (.alias _ _ target) | some (.reference target _) => next = target
      | some (.declared declaration) => next ∈ declaration.supertypes
      | some (.union members) | some (.intersection members) => next ∈ members
      | _ => False := by
  constructor
  · rintro (h | ⟨h, hmem⟩ | ⟨h, hmem⟩ | ⟨h, hmem⟩ | h) <;> simp [*]
  · intro h
    split at h
    next hentry => exact h ▸ .aliased hentry
    next hentry => exact h ▸ .target hentry
    next hentry => exact .supertype hentry h
    next hentry => exact .unionMember hentry h
    next hentry => exact .intersectionMember hentry h
    next => exact h.elim

/-- **Steps of the walk are steps of the graph**, and the other way round: without generic
parameters an instantiation does not matter. -/
theorem stepsTo_iff_mem_placesAfter (hmono : table.IsMonomorphic) (instantiation : Instantiation)
    (type next : TypeId) :
    table.StepsTo type next ↔
      ∃ inner, (inner, next) ∈ table.placesAfter (instantiation, type) := by
  rw [stepsTo_iff]
  simp only [counterpart, placesAfter]
  cases hentry : table.get? type with
  | none => simp [hentry]
  | some entry =>
    cases entry with
    | parameter name bound => exact absurd hentry (hmono type name bound)
    | reference target arguments =>
      cases haim : table.get? target with
      | none => simp [hentry, haim]
      | some aim => cases aim <;> simp [hentry, haim]
    | _ => simp [hentry]

/-- Walks follow the paths of the graph, whatever parameters stand for. -/
theorem exists_walksIn_iff_pathIn (hmono : table.IsMonomorphic) {steps : Nat} {type goal : TypeId}
    (instantiation : Instantiation) :
    (∃ inner, table.WalksIn steps (instantiation, type) (inner, goal)) ↔
      table.PathIn steps type goal := by
  constructor
  · rintro ⟨inner, hwalk⟩
    generalize hstart : (instantiation, type) = start at hwalk
    generalize hend : (inner, goal) = last at hwalk
    induction hwalk generalizing instantiation type with
    | here =>
      obtain ⟨-, rfl⟩ := Prod.mk.inj (hstart.trans hend.symm)
      exact .here type
    | @next steps _ after _ hmem _ ih =>
      subst hstart
      exact .next ((stepsTo_iff_mem_placesAfter hmono instantiation type after.2).mpr
        ⟨after.1, hmem⟩) (ih after.1 rfl hend)
  · intro hpath
    induction hpath generalizing instantiation with
    | here => exact ⟨instantiation, .here _⟩
    | next hstep _ ih =>
      obtain ⟨between, hmem⟩ :=
        (stepsTo_iff_mem_placesAfter hmono instantiation _ _).mp hstep
      obtain ⟨inner, hwalk⟩ := ih between
      exact ⟨inner, .next hmem hwalk⟩

/-- **The walk measures the distance** to what counts as a witness. -/
theorem mayBeObservable_eq_true_iff_path (hmono : table.IsMonomorphic) (maxDepth : Nat)
    (type : TypeId) :
    table.mayBeObservable maxDepth type = true ↔
      ∃ steps ≤ maxDepth, ∃ goal, table.PathIn steps type goal ∧
        table.isWitness (table.counterpart goal) = true := by
  have hwalk := @observableWithin_eq_true_iff table (maxDepth + 1) ([], type)
  refine hwalk.trans ⟨?_, ?_⟩
  · rintro ⟨steps, hlt, ⟨inner, goal⟩, hwalks, hstream⟩
    exact ⟨steps, by omega, goal, (exists_walksIn_iff_pathIn hmono []).mp ⟨inner, hwalks⟩,
      isStreamAt_eq_isWitness goal ▸ hstream⟩
  · rintro ⟨steps, hle, goal, hpath, hwitness⟩
    obtain ⟨inner, hwalks⟩ := (exists_walksIn_iff_pathIn hmono []).mpr hpath
    exact ⟨steps, by omega, (inner, goal), hwalks, isStreamAt_eq_isWitness goal ▸ hwitness⟩

end TypeTable

namespace Oracle

/-- **The walk is exact**: where the table holds no generic parameters, a fresh oracle says that a
type could be a stream if and only if a path of no more steps than the depth leads from the type to
a witness, or to what counts as one. -/
theorem freshAnswer_eq_true_iff_path (model : FileModel) (maxDepth : Nat) (type : TypeId)
    (hmono : model.types.IsMonomorphic) :
    freshAnswer model maxDepth (.observableType type) = true ↔
      ∃ steps ≤ maxDepth, ∃ goal, model.types.PathIn steps type goal ∧
        model.types.isWitness (model.types.counterpart goal) = true := by
  rw [freshAnswer_eq]
  exact TypeTable.mayBeObservable_eq_true_iff_path hmono maxDepth type

/-- A class `Feed extends Observable`, and an alias `type Source = Feed | undefined`. The class is
referred to from the union, and the foreign type from the class. -/
def feed : FileModel where
  types := ⟨TypeTable.intrinsics ++
    #[.foreign "Observable" [], .reference 11 [], .declared ⟨"Feed", .classType, [], [12], []⟩,
      .reference 13 [], .union [14, 9], .alias "Source" [] 15]⟩
  typeOf? _ := none
  symbolOf? _ := none
  symbolType? _ := none

/-- From the alias to the union, to the class that the reference there counts as, to the reference
to the foreign type, and to that type: four steps, which the depth four allows and the depth three
does not. -/
theorem freshAnswer_eq_true_iff_path_feed :
    feed.types.IsMonomorphic ∧
      freshAnswer feed 3 (.observableType 16) = false ∧
      freshAnswer feed 4 (.observableType 16) = true ∧
      ∃ steps ≤ 4, ∃ goal, feed.types.PathIn steps 16 goal ∧
        feed.types.isWitness (feed.types.counterpart goal) = true := by
  have hmono : feed.types.IsMonomorphic := by
    intro type name bound hentry
    have hmem := Array.mem_of_getElem? hentry
    simp [feed, TypeTable.intrinsics] at hmem
  have hanswer : freshAnswer feed 4 (.observableType 16) = true := by decide
  exact ⟨hmono, by decide, hanswer,
    (freshAnswer_eq_true_iff_path feed 4 16 hmono).mp hanswer⟩

end Oracle

end StreamLint
