import StreamLint.Proofs.Oracle.Walk
/-!
# Answers and what was asked before

An oracle remembers its answers, and a walk takes a remembered answer about a type wherever it meets
the type outside of an instantiation. A walk that begins at a type may take more steps from there
than one that meets the type on its way, so a remembered answer can be better than what the walk
would have found out by itself: then the answer depends on what was asked before.

The main statement, `StreamLint.Oracle.answers_eq_fresh_iff`, says exactly when it does not. The
answers to all sequences of questions are those of fresh oracles if and only if no type is *masked*:
a walk from a type that is found to be no stream never meets, within its depth, a type that is found
to be one when the walk begins there.

What is remembered never costs an answer (`StreamLint.TypeTable.observableWithin_of_fresh`), so only
answers that are positive too early have to be excluded; those that come from a remembered type
reach it on the way (`StreamLint.TypeTable.fresh_or_meets_of_observableWithin`).
-/

namespace StreamLint

/-! ### Questions -/

/-- A question that an oracle answers. -/
inductive Oracle.Query where
  /-- Whether a node could be observable. -/
  | observable (node : NodeId)
  /-- Whether a node has a reference type. -/
  | reference (node : NodeId)
  /-- Whether a type could be observable. -/
  | observableType (type : TypeId)
  deriving DecidableEq, Repr

namespace Oracle

/-- Asks a question. -/
def ask : Query → StateM Oracle Bool
  | .observable node => mayBeObservable node
  | .reference node => isReference node
  | .observableType type => typeMayBeObservable type

/-- The oracle that has not been asked anything. -/
def fresh (model : FileModel) (maxDepth : Nat) : Oracle where
  model := model
  maxDepth := maxDepth

/-- The answers of an oracle to questions that are asked one after the other. -/
def answers : Oracle → List Query → List Bool
  | _, [] => []
  | oracle, query :: rest =>
    ((ask query).run oracle).1 :: answers ((ask query).run oracle).2 rest

/-- The answer of a fresh oracle. -/
def freshAnswer (model : FileModel) (maxDepth : Nat) (query : Query) : Bool :=
  ((ask query).run (fresh model maxDepth)).1

end Oracle

/-! ### Masked types -/

namespace TypeTable

variable (table : TypeTable)

/-- A walk that begins at `type` meets `met`, outside of every instantiation, after at most `depth`
steps. -/
def Meets (depth : Nat) (type met : TypeId) : Prop :=
  ∃ k ≤ depth, table.WalksIn k ([], type) ([], met)

/-- No type that is found to be a stream is met by a walk that begins at a type which is not found
to be one. -/
def Unmasked (depth : Nat) : Prop :=
  ∀ type met, table.Meets depth type met → table.mayBeObservable depth met = true →
    table.mayBeObservable depth type = true

/-- Answers that a fresh walk gives too. -/
def Remembers (depth : Nat) (known : TypeId → Option Bool) : Prop :=
  ∀ type answer, known type = some answer → answer = table.mayBeObservable depth type

variable {table} {depth : Nat} {known : TypeId → Option Bool}

/-- **Remembered answers cost nothing**: a stream that is found without them is found with them. -/
theorem observableWithin_of_fresh (hknown : table.Remembers depth known) {steps : Nat}
    (hsteps : steps ≤ depth + 1) (place : WalkPlace)
    (h : table.observableWithin (fun _ => none) steps place.1 place.2 = true) :
    table.observableWithin known steps place.1 place.2 = true := by
  induction steps generalizing place with
  | zero => simp [observableWithin] at h
  | succ steps ih =>
    have hmono := observableWithin_mono hsteps place h
    rw [observableWithin_succ] at h ⊢
    cases hat : knownAt known place with
    | some answer =>
      -- a remembered answer was given with all the steps, so it is no worse
      simp only [knownAt, List.isEmpty_iff] at hat
      split at hat
      next hempty =>
        rw [hempty] at hmono
        exact (hknown _ _ hat).trans hmono
      next => simp at hat
    | none =>
      have hnone : knownAt (fun _ => none) place = none := by simp [knownAt]
      simp only [hnone, Option.getD_none, Bool.or_eq_true, List.any_eq_true] at h ⊢
      refine h.imp_right ?_
      rintro ⟨after, hmem, hafter⟩
      exact ⟨after, hmem, ih (by omega) after hafter⟩

/-- A stream that is found with remembered answers is found without them, or a remembered stream is
met on the way. -/
theorem fresh_or_meets_of_observableWithin {steps : Nat} (place : WalkPlace)
    (h : table.observableWithin known steps place.1 place.2 = true) :
    table.observableWithin (fun _ => none) steps place.1 place.2 = true ∨
      ∃ k < steps, ∃ met, table.WalksIn k place ([], met) ∧ known met = some true := by
  induction steps generalizing place with
  | zero => simp [observableWithin] at h
  | succ steps ih =>
    rw [observableWithin_succ] at h
    rw [observableWithin_succ, show knownAt (fun _ => none) place = none by simp [knownAt]]
    cases hat : knownAt known place with
    | some answer =>
      rw [hat, Option.getD_some] at h
      subst h
      obtain ⟨instantiation, type⟩ := place
      simp only [knownAt, List.isEmpty_iff] at hat
      split at hat
      next hempty =>
        subst hempty
        exact .inr ⟨0, by omega, type, .here _, hat⟩
      next => simp at hat
    | none =>
      rw [hat] at h
      simp only [Option.getD_none, Bool.or_eq_true, List.any_eq_true] at h ⊢
      rcases h with hhere | ⟨after, hmem, hafter⟩
      · exact .inl (.inl hhere)
      -- what is met below a place after this one is met one step later from here
      · rcases ih after hafter with hfresh | ⟨k, hk, met, hwalk, hmet⟩
        · exact .inl (.inr ⟨after, hmem, hfresh⟩)
        · exact .inr ⟨k + 1, by omega, met, .next hmem hwalk, hmet⟩

/-- A walk that meets a remembered stream finds it, if nothing but streams is remembered. -/
theorem observableWithin_of_meets (hknown : ∀ type, known type ≠ some false) {k steps : Nat}
    (hk : k < steps) (place : WalkPlace) {met : TypeId}
    (hwalk : table.WalksIn k place ([], met)) (hmet : known met = some true) :
    table.observableWithin known steps place.1 place.2 = true := by
  induction k generalizing steps place with
  | zero =>
    obtain ⟨steps, rfl⟩ : ∃ n, steps = n + 1 := ⟨steps - 1, by omega⟩
    cases hwalk
    rw [observableWithin_succ]
    simp [knownAt, hmet]
  | succ k ih =>
    obtain ⟨steps, rfl⟩ : ∃ n, steps = n + 1 := ⟨steps - 1, by omega⟩
    cases hwalk with
    | next hmem hwalk =>
      rw [observableWithin_succ]
      cases hat : knownAt known place with
      | some answer =>
        have hne : answer ≠ false := by
          rintro rfl
          simp only [knownAt] at hat
          split at hat
          · exact hknown _ hat
          · simp at hat
        simpa using hne
      | none =>
        simp only [Option.getD_none, Bool.or_eq_true, List.any_eq_true]
        exact .inr ⟨_, hmem, ih (by omega) _ hwalk⟩

/-- Where no type is masked, a walk with remembered answers finds what a fresh walk finds. -/
theorem Unmasked.observableWithin_eq (hunmasked : table.Unmasked depth)
    (hknown : table.Remembers depth known) (type : TypeId) :
    table.observableWithin known (depth + 1) [] type = table.mayBeObservable depth type := by
  refine Bool.eq_iff_iff.mpr ⟨fun h => ?_, fun h => ?_⟩
  · rcases fresh_or_meets_of_observableWithin ([], type) h with
      hfresh | ⟨k, hk, met, hwalk, hmet⟩
    · exact hfresh
    · exact hunmasked type met ⟨k, by omega, hwalk⟩ (hknown met true hmet).symm
  · exact observableWithin_of_fresh hknown (Nat.le_refl _) ([], type) h

end TypeTable

/-! ### What an oracle remembers -/

/-- The answer to a question, from the model alone. -/
def FileModel.answer (model : FileModel) (maxDepth : Nat) : Oracle.Query → Bool
  | .observable node =>
    match model.typeAt? node with
    | some type => model.types.mayBeObservable maxDepth type
    | none => false
  | .reference node =>
    match model.typeAt? node with
    | some type => model.types.isReference maxDepth type
    | none => false
  | .observableType type => model.types.mayBeObservable maxDepth type

namespace Oracle

variable {model : FileModel} {maxDepth : Nat} {oracle : Oracle}

/-- What an oracle remembers are the answers that the model gives. -/
structure Truthful (model : FileModel) (maxDepth : Nat) (oracle : Oracle) : Prop where
  /-- The oracle is about the model. -/
  model_eq : oracle.model = model
  /-- The oracle has the depth. -/
  maxDepth_eq : oracle.maxDepth = maxDepth
  /-- Answers about types. -/
  types : model.types.Remembers maxDepth fun type => oracle.observableTypes[type]?
  /-- Answers about observable nodes. -/
  nodes : ∀ node answer, oracle.observableNodes[node]? = some answer →
    answer = model.answer maxDepth (.observable node)
  /-- Answers about reference types of nodes. -/
  references : ∀ node answer, oracle.referenceNodes[node]? = some answer →
    answer = model.answer maxDepth (.reference node)

theorem truthful_fresh (model : FileModel) (maxDepth : Nat) :
    Truthful model maxDepth (fresh model maxDepth) where
  model_eq := rfl
  maxDepth_eq := rfl
  types := by simp [TypeTable.Remembers, fresh]
  nodes := by simp [fresh]
  references := by simp [fresh]

/-- A map of right answers stays one with one more of them. -/
theorem right_insert {map : Std.TreeMap Nat Bool compare} {right : Nat → Bool}
    (hmap : ∀ key answer, map[key]? = some answer → answer = right key) (new : Nat)
    (key : Nat) (answer : Bool) (h : (map.insert new (right new))[key]? = some answer) :
    answer = right key := by
  rw [Std.TreeMap.getElem?_insert] at h
  split at h
  next heq =>
    obtain rfl : new = key := by simpa using heq
    simpa using h.symm
  next => exact hmap key answer h

/-! ### Questions one by one -/

theorem run_typeMayBeObservable (oracle : Oracle) (type : TypeId) :
    (typeMayBeObservable type).run oracle =
      match oracle.observableTypes[type]? with
      | some answer => (answer, oracle)
      | none =>
        let answer := oracle.model.types.observableWithin (fun id => oracle.observableTypes[id]?)
          (oracle.maxDepth + 1) [] type
        (answer, { oracle with observableTypes := oracle.observableTypes.insert type answer }) := by
  cases h : oracle.observableTypes[type]? <;>
    simp only [typeMayBeObservable, h, StateT.run_bind, StateT.run_get, pure_bind] <;> rfl

theorem run_mayBeObservable (oracle : Oracle) (node : NodeId) :
    (mayBeObservable node).run oracle =
      match oracle.observableNodes[node]? with
      | some answer => (answer, oracle)
      | none =>
        let found := match oracle.model.typeAt? node with
          | some type => (typeMayBeObservable type).run oracle
          | none => (false, oracle)
        (found.1, { found.2 with
          observableNodes := found.2.observableNodes.insert node found.1 }) := by
  cases h : oracle.observableNodes[node]? with
  | some answer =>
    simp only [mayBeObservable, h, StateT.run_bind, StateT.run_get, pure_bind]
    rfl
  | none =>
    cases htype : oracle.model.typeAt? node <;>
      simp only [mayBeObservable, h, htype, StateT.run_bind, StateT.run_get, pure_bind] <;> rfl

theorem run_isReference (oracle : Oracle) (node : NodeId) :
    (isReference node).run oracle =
      match oracle.referenceNodes[node]? with
      | some answer => (answer, oracle)
      | none =>
        let answer := match oracle.model.typeAt? node with
          | some type => oracle.model.types.isReference oracle.maxDepth type
          | none => false
        (answer, { oracle with referenceNodes := oracle.referenceNodes.insert node answer }) := by
  cases h : oracle.referenceNodes[node]? <;>
    simp only [isReference, h, StateT.run_bind, StateT.run_get, pure_bind] <;> rfl

/-- The question about a type, where no type is masked. -/
theorem Truthful.typeMayBeObservable (hunmasked : model.types.Unmasked maxDepth)
    (h : Truthful model maxDepth oracle) (type : TypeId) :
    ((typeMayBeObservable type).run oracle).1 = model.types.mayBeObservable maxDepth type ∧
      Truthful model maxDepth ((typeMayBeObservable type).run oracle).2 := by
  rw [run_typeMayBeObservable]
  cases hknown : oracle.observableTypes[type]? with
  | some answer => exact ⟨h.types type answer hknown, h⟩
  | none =>
    have hanswer : oracle.model.types.observableWithin (fun id => oracle.observableTypes[id]?)
        (oracle.maxDepth + 1) [] type = model.types.mayBeObservable maxDepth type := by
      rw [h.model_eq, h.maxDepth_eq]
      exact hunmasked.observableWithin_eq h.types type
    simp only [hanswer]
    exact ⟨trivial, { h with types := right_insert h.types type }⟩

/-- The question about a node, where no type is masked. -/
theorem Truthful.mayBeObservable (hunmasked : model.types.Unmasked maxDepth)
    (h : Truthful model maxDepth oracle) (node : NodeId) :
    ((mayBeObservable node).run oracle).1 = model.answer maxDepth (.observable node) ∧
      Truthful model maxDepth ((mayBeObservable node).run oracle).2 := by
  rw [run_mayBeObservable]
  cases hknown : oracle.observableNodes[node]? with
  | some answer => exact ⟨h.nodes node answer hknown, h⟩
  | none =>
    rw [h.model_eq]
    cases htype : model.typeAt? node with
    | none =>
      have hanswer : model.answer maxDepth (.observable node) = false := by
        simp [FileModel.answer, htype]
      exact ⟨hanswer.symm, { h with nodes := hanswer ▸ right_insert h.nodes node }⟩
    | some type =>
      -- the question about the node becomes one about its type, which may change what is remembered
      obtain ⟨hfirst, hafter⟩ := h.typeMayBeObservable hunmasked type
      have hanswer : model.answer maxDepth (.observable node) =
          model.types.mayBeObservable maxDepth type := by
        simp [FileModel.answer, htype]
      rw [← hanswer] at hfirst
      simp only [hfirst]
      exact ⟨trivial, { hafter with nodes := right_insert hafter.nodes node }⟩

/-- The question whether a node has a reference type needs no memory of types. -/
theorem Truthful.isReference (h : Truthful model maxDepth oracle) (node : NodeId) :
    ((isReference node).run oracle).1 = model.answer maxDepth (.reference node) ∧
      Truthful model maxDepth ((isReference node).run oracle).2 := by
  rw [run_isReference]
  cases hknown : oracle.referenceNodes[node]? with
  | some answer => exact ⟨h.references node answer hknown, h⟩
  | none =>
    have hanswer : (match oracle.model.typeAt? node with
        | some type => oracle.model.types.isReference oracle.maxDepth type
        | none => false) = model.answer maxDepth (.reference node) := by
      rw [h.model_eq, h.maxDepth_eq]
      rfl
    simp only [hanswer]
    exact ⟨trivial, { h with references := right_insert h.references node }⟩

/-- **One question**: where no type is masked, an oracle that remembers right answers gives the
right answer and remembers right answers afterwards. -/
theorem Truthful.ask (hunmasked : model.types.Unmasked maxDepth)
    (h : Truthful model maxDepth oracle) (query : Query) :
    ((ask query).run oracle).1 = model.answer maxDepth query ∧
      Truthful model maxDepth ((ask query).run oracle).2 := by
  cases query with
  | observableType type => exact h.typeMayBeObservable hunmasked type
  | observable node => exact h.mayBeObservable hunmasked node
  | reference node => exact h.isReference node

/-- **All questions**: where no type is masked, an oracle that remembers right answers gives right
answers only. -/
theorem Truthful.answers (hunmasked : model.types.Unmasked maxDepth)
    (h : Truthful model maxDepth oracle) (queries : List Query) :
    oracle.answers queries = queries.map (model.answer maxDepth) := by
  induction queries generalizing oracle with
  | nil => rfl
  | cons query rest ih =>
    obtain ⟨hfirst, hafter⟩ := h.ask hunmasked query
    simp only [Oracle.answers, List.map_cons]
    rw [hfirst, ih hafter]

/-- The walk of a fresh oracle has nothing to remember. -/
theorem observableWithin_fresh (model : FileModel) (maxDepth : Nat) (type : TypeId) :
    model.types.observableWithin (fun id => (fresh model maxDepth).observableTypes[id]?)
      (maxDepth + 1) [] type = model.types.mayBeObservable maxDepth type := by
  simp [fresh, TypeTable.mayBeObservable]

/-- A fresh oracle answers from the model alone. -/
theorem freshAnswer_eq (model : FileModel) (maxDepth : Nat) (query : Query) :
    freshAnswer model maxDepth query = model.answer maxDepth query := by
  have htype : ∀ type, ((typeMayBeObservable type).run (fresh model maxDepth)).1 =
      model.types.mayBeObservable maxDepth type := by
    intro type
    rw [run_typeMayBeObservable]
    exact observableWithin_fresh model maxDepth type
  cases query with
  | observableType type => exact htype type
  | observable node =>
    simp only [freshAnswer, ask, run_mayBeObservable, FileModel.answer]
    have hnew : (fresh model maxDepth).observableNodes[node]? = none := by simp [fresh]
    rw [hnew]
    simp only [show (fresh model maxDepth).model = model from rfl]
    cases model.typeAt? node with
    | none => rfl
    | some type => exact htype type
  | reference node => exact ((truthful_fresh model maxDepth).isReference node).1

/-- A remembered stream is taken by the next walk that meets it. -/
theorem answers_of_meets {model : FileModel} {maxDepth : Nat} {type met : TypeId}
    (hne : met ≠ type) (hmeets : model.types.Meets maxDepth type met)
    (hmet : model.types.mayBeObservable maxDepth met = true) :
    (fresh model maxDepth).answers [.observableType met, .observableType type] =
      [true, true] := by
  obtain ⟨k, hk, hwalk⟩ := hmeets
  let known : TypeId → Option Bool := fun id =>
    ((fresh model maxDepth).observableTypes.insert met true)[id]?
  have hknown : ∀ id, known id = if met = id then some true else none := by
    intro id
    simp [known, fresh, Std.TreeMap.getElem?_insert]
  -- the first question makes the oracle remember one type, and the walk of the second meets it
  have hfirst : (typeMayBeObservable met).run (fresh model maxDepth) =
      (true, { fresh model maxDepth with
        observableTypes := (fresh model maxDepth).observableTypes.insert met true }) := by
    rw [run_typeMayBeObservable]
    have hwalk := (observableWithin_fresh model maxDepth met).trans hmet
    simp only [show (fresh model maxDepth).observableTypes[met]? = none by simp [fresh]]
    simp only [show (fresh model maxDepth).model = model from rfl,
      show (fresh model maxDepth).maxDepth = maxDepth from rfl, hwalk]
  have hsecond : model.types.observableWithin known (maxDepth + 1) [] type = true :=
    TypeTable.observableWithin_of_meets (fun id => by rw [hknown]; split <;> simp)
      (Nat.lt_succ_of_le hk) ([], type) hwalk (by simp [hknown])
  simp only [answers, ask, hfirst, run_typeMayBeObservable]
  have hnew : ((fresh model maxDepth).observableTypes.insert met true)[type]? = none := by
    rw [show ((fresh model maxDepth).observableTypes.insert met true)[type]? = known type from rfl,
      hknown, if_neg hne]
  rw [hnew]
  exact congrArg (fun answer => [true, answer]) hsecond

/-- **When answers do not depend on what was asked before**: the answers of an oracle to all
sequences of questions are those of fresh oracles, each asked one question only, if and only if no
type is masked. -/
theorem answers_eq_fresh_iff (model : FileModel) (maxDepth : Nat) :
    (∀ queries, (fresh model maxDepth).answers queries =
      queries.map (freshAnswer model maxDepth)) ↔ model.types.Unmasked maxDepth := by
  have hfresh : freshAnswer model maxDepth = model.answer maxDepth :=
    funext (freshAnswer_eq model maxDepth)
  rw [hfresh]
  constructor
  · -- ask about the type that is met first, and then about the type where the walk begins
    intro hall type met hmeets hmet
    by_cases heq : met = type
    · exact heq ▸ hmet
    have hpair := hall [.observableType met, .observableType type]
    rw [answers_of_meets heq hmeets hmet] at hpair
    exact (List.cons.inj (List.cons.inj hpair).2).1.symm
  · exact fun hunmasked queries => (truthful_fresh model maxDepth).answers hunmasked queries

/-- A stream behind two aliases, seen from depth one: the outer alias is found to be no stream, and
the inner one is. -/
def aliasedTwice : FileModel where
  types := ⟨TypeTable.intrinsics ++
    #[.foreign "Observable" [], .alias "Inner" [] 11, .alias "Outer" [] 12]⟩
  typeOf? _ := none
  symbolOf? _ := none
  symbolType? _ := none

/-- **Answers may depend on what was asked before**: the outer alias is found to be a stream once
the question about the inner one has been answered. -/
theorem answers_ne_fresh_aliasedTwice :
    ¬ ∀ (model : FileModel) (maxDepth : Nat) (queries : List Query),
      (fresh model maxDepth).answers queries = queries.map (freshAnswer model maxDepth) := by
  intro hall
  have hpair := hall aliasedTwice 1 [.observableType 12, .observableType 13]
  revert hpair
  decide

end Oracle

end StreamLint
