import Mathlib.Logic.Relation
import StreamLint.Proofs.Oracle.History
/-!
# No stream without a witness

An oracle may say that a node could be observable for three reasons: a walk has found it out, a walk
has met a type of which an earlier one had found it out, or the node itself was asked about before.
None of them makes a stream up. Behind every such answer there is a *witness*, a type that is seen
to be a stream by its own entry (`StreamLint.TypeTable.isWitness`), and the type of the node reaches
it along what the entries themselves say (`StreamLint.TypeTable.LeadsTo`): the target of an alias,
the target and the arguments of a reference, supertypes, members of unions and intersections, and
bounds.

The walk does not follow these edges one by one. It replaces generic parameters by what they stand
for, and what they stand for was an argument of a reference somewhere on the way. So the invariant
says of a place that its type, and everything that a parameter stands for there, is reached from the
type where the walk began (`StreamLint.TypeTable.IsReachedFrom`).

The main statement is `StreamLint.Oracle.exists_witness_of_answer`.
-/

namespace StreamLint

/-- What a parameter stands for is in the instantiation. -/
theorem Instantiation.mem_of_argument?_eq_some {instantiation : Instantiation}
    {param argument : TypeId} (h : instantiation.argument? param = some argument) :
    (param, argument) ∈ instantiation := by
  obtain ⟨entry, hfind, rfl⟩ := Option.map_eq_some_iff.mp h
  obtain rfl : entry.1 = param := by simpa using List.find?_some hfind
  exact List.mem_of_find?_eq_some hfind

namespace TypeTable

variable (table : TypeTable)

/-! ### Witnesses and what leads to them -/

/-- Whether a type is seen to be a stream by its own entry: it has the name of one, or a method
`subscribe`. -/
def isWitness (type : TypeId) : Bool :=
  match table.get? type with
  | some (.declared declaration) => declaration.isObservable
  | some (.foreign name _) => isStreamName name
  | some (.object members) => hasSubscribe members
  | _ => false

/-- The entry of the first type mentions the second one. -/
inductive LeadsTo : TypeId → TypeId → Prop where
  /-- From an alias to what it is a name for. -/
  | aliased {type target : TypeId} {name : String} {params : List TypeId}
    (h : table.get? type = some (.alias name params target)) : LeadsTo type target
  /-- From a reference to what it refers to. -/
  | target {type target : TypeId} {arguments : List TypeId}
    (h : table.get? type = some (.reference target arguments)) : LeadsTo type target
  /-- From a reference to its arguments. -/
  | argument {type target argument : TypeId} {arguments : List TypeId}
    (h : table.get? type = some (.reference target arguments)) (hmem : argument ∈ arguments) :
    LeadsTo type argument
  /-- From a declaration to its supertypes. -/
  | supertype {type supertype : TypeId} {declaration : NominalType}
    (h : table.get? type = some (.declared declaration))
    (hmem : supertype ∈ declaration.supertypes) : LeadsTo type supertype
  /-- From a union to its members. -/
  | unionMember {type member : TypeId} {members : List TypeId}
    (h : table.get? type = some (.union members)) (hmem : member ∈ members) : LeadsTo type member
  /-- From an intersection to its members. -/
  | intersectionMember {type member : TypeId} {members : List TypeId}
    (h : table.get? type = some (.intersection members)) (hmem : member ∈ members) :
    LeadsTo type member
  /-- From a generic parameter to its bound. -/
  | bound {type bound : TypeId} {name : String}
    (h : table.get? type = some (.parameter name (some bound))) : LeadsTo type bound

/-- The first type reaches the second one. -/
abbrev Reaches : TypeId → TypeId → Prop :=
  Relation.ReflTransGen table.LeadsTo

/-- The type reaches a witness. -/
def ReachesWitness (type : TypeId) : Prop :=
  ∃ witness, table.Reaches type witness ∧ table.isWitness witness = true

/-- The types are plain: each of them is `any`, `unknown`, `never`, a primitive type, an array, a
tuple or a function, or another name for one of them. A ring of aliases is plain. -/
def ArePlain (plain : TypeId → Prop) : Prop :=
  ∀ type, plain type → match table.get? type with
    | some .any | some .unknown | some .never | some (.primitive _) | some (.array _)
    | some (.tuple _) | some (.function _) => True
    | some (.alias _ _ target) => plain target
    | _ => False

variable {table}

theorem ReachesWitness.of_reaches {type met : TypeId} (h : table.ReachesWitness met)
    (hreaches : table.Reaches type met) : table.ReachesWitness type := by
  obtain ⟨witness, hmet, hwitness⟩ := h
  exact ⟨witness, hreaches.trans hmet, hwitness⟩

/-- Plain types lead to plain types only. -/
theorem ArePlain.leadsTo {plain : TypeId → Prop} (h : table.ArePlain plain) {type next : TypeId}
    (hplain : plain type) (hleads : table.LeadsTo type next) : plain next := by
  have hentry := h type hplain
  cases hleads with
  | aliased hat => simpa [hat] using hentry
  | target hat | argument hat | supertype hat | unionMember hat | intersectionMember hat
  | bound hat => simp [hat] at hentry

theorem ArePlain.isWitness_eq_false {plain : TypeId → Prop} (h : table.ArePlain plain)
    {type : TypeId} (hplain : plain type) : table.isWitness type = false := by
  have hentry := h type hplain
  unfold isWitness
  split <;> simp_all

/-- **Plain types reach no witness.** -/
theorem ReachesWitness.not_plain {type : TypeId} (h : table.ReachesWitness type)
    {plain : TypeId → Prop} (hplain : table.ArePlain plain) : ¬plain type := by
  obtain ⟨witness, hreaches, hwitness⟩ := h
  intro htype
  have hlast : plain witness := by
    clear hwitness
    induction hreaches with
    | refl => exact htype
    | tail _ hleads ih => exact hplain.leadsTo ih hleads
  simp [hplain.isWitness_eq_false hlast] at hwitness

/-! ### Where one step of a walk goes -/

/-- What a parameter stands for in an instantiation is an argument, or something that a parameter
stood for before. -/
theorem mem_or_exists_given_of_mem_ofReference {target : TypeId} {arguments : List TypeId}
    {outer : Instantiation} {entry : TypeId × TypeId}
    (hmem : entry ∈ Instantiation.ofReference table target arguments outer) :
    entry.2 ∈ arguments ∨ ∃ given ∈ outer, given.2 = entry.2 := by
  obtain ⟨argument, hargument, heq⟩ := List.mem_map.mp (List.of_mem_zip hmem).2
  cases hgiven : outer.argument? argument with
  | none => exact .inl (heq ▸ by simpa [hgiven] using hargument)
  | some given =>
    rw [hgiven, Option.getD_some] at heq
    exact .inr ⟨_, Instantiation.mem_of_argument?_eq_some hgiven, heq⟩

/-- **One step of a walk** goes on to what the type leads to, where parameters stand for arguments
that the type leads to or for what they stood for before; or it enters what a parameter stands
for. -/
theorem leadsTo_or_enters {place after : WalkPlace} (hmem : after ∈ table.placesAfter place) :
    (Relation.TransGen table.LeadsTo place.2 after.2 ∧ ∀ entry ∈ after.1,
        table.LeadsTo place.2 entry.2 ∨ ∃ given ∈ place.1, given.2 = entry.2) ∨
      after.1 = [] ∧ ∃ given ∈ place.1, given.2 = after.2 := by
  obtain ⟨instantiation, type⟩ := place
  have hnext : ∀ {next : TypeId}, table.LeadsTo type next →
      (Relation.TransGen table.LeadsTo type next ∧ ∀ entry ∈ instantiation,
        table.LeadsTo type entry.2 ∨ ∃ given ∈ instantiation, given.2 = entry.2) :=
    fun hleads => ⟨.single hleads, fun entry hentry => .inr ⟨entry, hentry, rfl⟩⟩
  simp only [placesAfter] at hmem
  split at hmem
  next declaration hentry =>
    obtain ⟨supertype, hsupertype, rfl⟩ := List.mem_map.mp hmem
    exact .inl ⟨.single (.supertype hentry hsupertype), by simp⟩
  next target arguments hentry =>
    have htarget : Relation.TransGen table.LeadsTo type target := .single (.target hentry)
    have hinner : ∀ entry ∈ Instantiation.ofReference table target arguments instantiation,
        table.LeadsTo type entry.2 ∨ ∃ given ∈ instantiation, given.2 = entry.2 :=
      fun entry hmem => (mem_or_exists_given_of_mem_ofReference hmem).imp_left (.argument hentry)
    split at hmem
    next declaration haim =>
      obtain ⟨supertype, hsupertype, rfl⟩ := List.mem_map.mp hmem
      exact .inl ⟨htarget.tail (.supertype haim hsupertype), hinner⟩
    next name params aliased haim =>
      obtain rfl := List.mem_singleton.mp hmem
      exact .inl ⟨htarget.tail (.aliased haim), hinner⟩
    next =>
      obtain rfl := List.mem_singleton.mp hmem
      exact .inl (hnext (.target hentry))
  next name params target hentry =>
    obtain rfl := List.mem_singleton.mp hmem
    exact .inl (hnext (.aliased hentry))
  next members hentry =>
    obtain ⟨member, hmember, rfl⟩ := List.mem_map.mp hmem
    exact .inl (hnext (.unionMember hentry hmember))
  next members hentry =>
    obtain ⟨member, hmember, rfl⟩ := List.mem_map.mp hmem
    exact .inl (hnext (.intersectionMember hentry hmember))
  next name bound hentry =>
    -- a parameter goes on to what it stands for, or else to its bound
    split at hmem
    next argument hargument =>
      obtain rfl := List.mem_singleton.mp hmem
      exact .inr ⟨rfl, _, Instantiation.mem_of_argument?_eq_some hargument, rfl⟩
    next bound =>
      obtain rfl := List.mem_singleton.mp hmem
      exact .inl (hnext (.bound hentry))
    next => simp at hmem
  next => simp at hmem

/-! ### Walks stay within what is reached -/

/-- The type of a place, and everything that a generic parameter stands for there, is reached from
the type where the walk began. -/
def IsReachedFrom (table : TypeTable) (start : TypeId) (place : WalkPlace) : Prop :=
  table.Reaches start place.2 ∧ ∀ entry ∈ place.1, table.Reaches start entry.2

theorem IsReachedFrom.self (table : TypeTable) (start : TypeId) :
    table.IsReachedFrom start ([], start) :=
  ⟨.refl, by simp⟩

section

variable {start : TypeId}

/-- **One step of the walk** goes to what is reached. -/
theorem IsReachedFrom.step {place after : WalkPlace} (h : table.IsReachedFrom start place)
    (hmem : after ∈ table.placesAfter place) : table.IsReachedFrom start after := by
  rcases leadsTo_or_enters hmem with ⟨hleads, hentries⟩ | ⟨hempty, given, hgiven, heq⟩
  · refine ⟨h.1.trans hleads.to_reflTransGen, fun entry hentry => ?_⟩
    rcases hentries entry hentry with hargument | ⟨given, hgiven, heq⟩
    · exact h.1.tail hargument
    · exact heq ▸ h.2 given hgiven
  · exact ⟨heq ▸ h.2 given hgiven, by simp [hempty]⟩

/-- **The whole walk** stays within what is reached. -/
theorem IsReachedFrom.walk {steps : Nat} {place goal : WalkPlace}
    (h : table.IsReachedFrom start place) (hwalk : table.WalksIn steps place goal) :
    table.IsReachedFrom start goal := by
  induction hwalk with
  | here => exact h
  | next hmem _ ih => exact ih (h.step hmem)

end

/-- What is seen to be a stream is a witness, or refers to one. -/
theorem reachesWitness_of_isStreamAt {type : TypeId} (h : table.isStreamAt type = true) :
    table.ReachesWitness type := by
  unfold isStreamAt at h
  split at h
  next declaration hentry => exact ⟨type, .refl, by simpa [isWitness, hentry] using h⟩
  next name arguments hentry => exact ⟨type, .refl, by simpa [isWitness, hentry] using h⟩
  next members hentry => exact ⟨type, .refl, by simpa [isWitness, hentry] using h⟩
  next target arguments hentry =>
    split at h
    next declaration haim =>
      exact ⟨target, .single (.target hentry), by simpa [isWitness, haim] using h⟩
    next => simp at h
  next => simp at h

/-- **A walk finds only what is reached**, whatever it has been told, as long as there is a witness
behind everything that it has been told to be a stream. -/
theorem reachesWitness_of_observableWithin {known : TypeId → Option Bool}
    (hknown : ∀ type, known type = some true → table.ReachesWitness type) {steps : Nat}
    {type : TypeId} (h : table.observableWithin known steps [] type = true) :
    table.ReachesWitness type := by
  have hself := IsReachedFrom.self table type
  rcases fresh_or_meets_of_observableWithin ([], type) h with hfresh | ⟨k, -, met, hwalk, hmet⟩
  · obtain ⟨k, -, goal, hwalk, hgoal⟩ := observableWithin_eq_true_iff.mp hfresh
    exact (reachesWitness_of_isStreamAt hgoal).of_reaches (hself.walk hwalk).1
  · exact (hknown met hmet).of_reaches (hself.walk hwalk).1

end TypeTable

/-! ### What an oracle remembers has a witness -/

/-- The type of a node reaches a witness. -/
def FileModel.HasWitness (model : FileModel) (node : NodeId) : Prop :=
  ∃ type, model.typeAt? node = some type ∧ model.types.ReachesWitness type

namespace Oracle

variable {model : FileModel} {oracle : Oracle}

/-- There is a witness behind every stream that an oracle remembers. -/
structure Founded (model : FileModel) (oracle : Oracle) : Prop where
  /-- The oracle is about the model. -/
  model_eq : oracle.model = model
  /-- Types that are remembered to be streams. -/
  types : ∀ type, oracle.observableTypes[type]? = some true → model.types.ReachesWitness type
  /-- Nodes that are remembered to be streams. -/
  nodes : ∀ node, oracle.observableNodes[node]? = some true → model.HasWitness node

theorem founded_fresh (model : FileModel) (maxDepth : Nat) :
    Founded model (fresh model maxDepth) where
  model_eq := rfl
  types := by simp [fresh]
  nodes := by simp [fresh]

/-- What holds of all keys that are true goes on to do so with one more answer. -/
theorem holds_insert {map : Std.TreeMap Nat Bool compare} {fact : Nat → Prop} {new : Nat}
    {answer : Bool} (hmap : ∀ key, map[key]? = some true → fact key)
    (hnew : answer = true → fact new) (key : Nat)
    (h : (map.insert new answer)[key]? = some true) : fact key := by
  rw [Std.TreeMap.getElem?_insert] at h
  split at h
  next heq =>
    obtain rfl : new = key := by simpa using heq
    exact hnew (by simpa using h)
  next => exact hmap key h

/-- The question about a type. -/
theorem Founded.typeMayBeObservable (h : Founded model oracle) (type : TypeId) :
    (((typeMayBeObservable type).run oracle).1 = true → model.types.ReachesWitness type) ∧
      Founded model ((typeMayBeObservable type).run oracle).2 := by
  rw [run_typeMayBeObservable]
  cases hknown : oracle.observableTypes[type]? with
  | some answer => exact ⟨fun htrue => h.types type (htrue ▸ hknown), h⟩
  | none =>
    have hanswer : oracle.model.types.observableWithin (fun id => oracle.observableTypes[id]?)
        (oracle.maxDepth + 1) [] type = true → model.types.ReachesWitness type := by
      rw [h.model_eq]
      exact TypeTable.reachesWitness_of_observableWithin h.types
    exact ⟨hanswer, { h with types := holds_insert h.types hanswer }⟩

/-- The question about a node. -/
theorem Founded.mayBeObservable (h : Founded model oracle) (node : NodeId) :
    (((mayBeObservable node).run oracle).1 = true → model.HasWitness node) ∧
      Founded model ((mayBeObservable node).run oracle).2 := by
  rw [run_mayBeObservable]
  cases hknown : oracle.observableNodes[node]? with
  | some answer => exact ⟨fun htrue => h.nodes node (htrue ▸ hknown), h⟩
  | none =>
    rw [h.model_eq]
    cases htype : model.typeAt? node with
    | none =>
      have hanswer : false = true → model.HasWitness node := by simp
      exact ⟨hanswer, { h with nodes := holds_insert h.nodes hanswer }⟩
    | some type =>
      obtain ⟨hfirst, hafter⟩ := h.typeMayBeObservable type
      have hanswer : ((Oracle.typeMayBeObservable type).run oracle).1 = true →
          model.HasWitness node := fun htrue => ⟨type, htype, hfirst htrue⟩
      exact ⟨hanswer, { hafter with nodes := holds_insert hafter.nodes hanswer }⟩

/-- The question whether a node has a reference type leaves streams alone. -/
theorem Founded.isReference (h : Founded model oracle) (node : NodeId) :
    Founded model ((isReference node).run oracle).2 := by
  rw [run_isReference]
  cases oracle.referenceNodes[node]? with
  | some answer => exact h
  | none => exact { h with }

/-- **One question**: an oracle that remembers no stream without a witness answers and remembers
none. -/
theorem Founded.ask (h : Founded model oracle) (query : Query) :
    (∀ node, query = .observable node → ((ask query).run oracle).1 = true →
      model.HasWitness node) ∧ Founded model ((ask query).run oracle).2 := by
  cases query with
  | observable node =>
    obtain ⟨hanswer, hafter⟩ := h.mayBeObservable node
    exact ⟨fun _ heq => Query.observable.inj heq ▸ hanswer, hafter⟩
  | reference node => exact ⟨by simp, h.isReference node⟩
  | observableType type => exact ⟨by simp, (h.typeMayBeObservable type).2⟩

/-- **All questions**: no answer of an oracle that remembers no stream without a witness makes a
stream up. -/
theorem Founded.hasWitness_of_answers (h : Founded model oracle) {queries : List Query}
    {index : Nat} {node : NodeId} (hquery : queries[index]? = some (.observable node))
    (hanswer : (oracle.answers queries)[index]? = some true) : model.HasWitness node := by
  induction queries generalizing oracle index with
  | nil => simp at hquery
  | cons query rest ih =>
    obtain ⟨hfirst, hafter⟩ := h.ask query
    cases index with
    | zero => exact hfirst node (by simpa using hquery) (by simpa [answers] using hanswer)
    | succ index =>
      exact ih hafter (by simpa using hquery) (by simpa [answers] using hanswer)

/-- **No stream is made up**: whatever an oracle has been asked before, and whatever its depth, if
it says that a node could be observable then the type of the node, or else that of its symbol,
reaches a witness; so it is none of a set of plain types. -/
theorem exists_witness_of_answer (model : FileModel) (maxDepth : Nat) (queries : List Query)
    (index : Nat) (node : NodeId) (hquery : queries[index]? = some (.observable node))
    (hanswer : ((fresh model maxDepth).answers queries)[index]? = some true) :
    ∃ type, model.typeAt? node = some type ∧
      (∃ witness, Relation.ReflTransGen model.types.LeadsTo type witness ∧
        model.types.isWitness witness = true) ∧
      ∀ plain, model.types.ArePlain plain → ¬plain type := by
  obtain ⟨type, htype, hwitness⟩ :=
    (founded_fresh model maxDepth).hasWitness_of_answers hquery hanswer
  exact ⟨type, htype, hwitness, fun _ hplain => hwitness.not_plain hplain⟩

/-- A generic alias, `type Maybe<T> = T | undefined`, the reference `Maybe<Observable>` to it, and
another name for that, which is the type of the only symbol. -/
def maybeStream : FileModel where
  types := ⟨TypeTable.intrinsics ++
    #[.foreign "Observable" [], .parameter "T" none, .union [12, 9], .alias "Maybe" [12] 13,
      .reference 14 [11], .alias "Source" [] 15]⟩
  typeOf? _ := none
  symbolOf? _ := some 0
  symbolType? _ := some 16

/-- With depth three the stream in `Maybe<Observable>` is seen from the reference itself, but not
from the other name for it. That one is found to be a stream because the reference has been asked
about before, and there is a witness all the same. -/
theorem exists_witness_maybeStream :
    let queries : List Query := [.observableType 15, .reference 0, .observable 0]
    ((fresh maybeStream 3).answers queries = [true, false, true] ∧
      freshAnswer maybeStream 3 (.observable 0) = false) ∧
      ∃ type, maybeStream.typeAt? 0 = some type ∧
        (∃ witness, Relation.ReflTransGen maybeStream.types.LeadsTo type witness ∧
          maybeStream.types.isWitness witness = true) ∧
        ∀ plain, maybeStream.types.ArePlain plain → ¬plain type := by
  intro queries
  exact ⟨by decide, exists_witness_of_answer maybeStream 3 queries 2 0 rfl (by decide)⟩

end Oracle

end StreamLint
