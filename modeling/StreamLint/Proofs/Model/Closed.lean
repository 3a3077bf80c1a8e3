import Mathlib.Tactic.Common
import StreamLint.Model.Settling
/-!
# Drafts that mention only what they hold

While the model of a file is made, places of the type table are handed around: in the entries of the
table, in the names of types and values, in what has been deferred and in what has been found out.
A draft is *closed* if all of them are in use (`StreamLint.Draft.IsClosed`), and every step on a
draft keeps it so.

The whole point is what a step leaves alone. A place in use stays in use, and a type that is
*settled*, that is not deferred, stays settled: `StreamLint.Draft.Keeps`. Once the declarations of a
file are made, a settled type moreover stays as it is: `StreamLint.Draft.Grows`. Both are
transitive, so they hold of sequences of steps. What holds after a step is said by
`StreamLint.Draft.After`, which goes through sequences of steps by `StreamLint.Draft.After.bind`.
-/

namespace StreamLint

/-! ### Places in use -/

/-- The places that an entry of a table mentions. -/
def TypeEntry.places : TypeEntry → List TypeId
  | .declared type => type.params ++ type.supertypes ++ type.members.map (·.type)
  | .reference target arguments => target :: arguments
  | .alias _ params target => target :: params
  | .union members | .intersection members | .tuple members => members
  | .array element => [element]
  | .function returnType => [returnType]
  | .object members => members.map (·.type)
  | .parameter _ bound => bound.toList
  | .foreign _ arguments => arguments
  | .any | .unknown | .never | .primitive _ => []

namespace TypeTable

/-- The place is in use. -/
def Has (table : TypeTable) (id : Nat) : Prop :=
  id < table.size

theorem Has.mono {old new : TypeTable} (hsize : old.size ≤ new.size) {id : Nat}
    (h : old.Has id) : new.Has id :=
  Nat.lt_of_lt_of_le h hsize

theorem has_of_get? {table : TypeTable} {id : Nat} {entry : TypeEntry}
    (h : table.get? id = some entry) : table.Has id :=
  (Array.getElem?_eq_some_iff.mp h).1

theorem size_push (table : TypeTable) (data : TypeEntry) :
    (table.push data).2.size = table.size + 1 := by
  simp [push, size]

/-- What stands where after a type has been put at the end. -/
theorem get?_push_eq_some {table : TypeTable} {data entry : TypeEntry} {id : Nat}
    (h : (table.push data).2.get? id = some entry) :
    table.get? id = some entry ∨ entry = data := by
  by_cases hlt : id < table.size
  · rw [get?_push_of_lt hlt] at h
    exact .inl h
  · have hsize := has_of_get? h
    rw [Has, size_push] at hsize
    obtain rfl : id = table.size := by omega
    have hat : (table.push data).2.get? table.size = some data := get?_push table data
    rw [hat] at h
    exact .inr (Option.some.inj h).symm

/-- What stands where after a type has been defined. -/
theorem get?_define_eq_some {table : TypeTable} {site id : Nat} {data entry : TypeEntry}
    (h : (table.define site data).get? id = some entry) :
    table.get? id = some entry ∨ entry = data := by
  by_cases heq : site = id
  · subst heq
    have hhas : site < table.entries.size := by
      have := has_of_get? h
      rwa [Has, size_define] at this
    have hat : (table.define site data).get? site = some data :=
      Array.getElem?_setIfInBounds_self_of_lt hhas
    rw [hat] at h
    exact .inr (Option.some.inj h).symm
  · rw [get?_define_of_ne heq] at h
    exact .inl h

end TypeTable

/-- A prelude mentions only places of its own table, which begins with the types that need no
declaration. -/
structure Prelude.IsClosed (prelude : Prelude) : Prop where
  /-- The entries mention only places in use. -/
  entries : ∀ (id : TypeId) (entry : TypeEntry), prelude.table.get? id = some entry →
    ∀ place ∈ entry.places, prelude.table.Has place
  /-- There is room for the types that need no declaration. -/
  intrinsics : TypeTable.intrinsics.size ≤ prelude.table.size
  /-- The declared types are in the table. -/
  types : ∀ (name : String) (id : TypeId), prelude.types[name]? = some id → prelude.table.Has id
  /-- The types of the declared values are in the table. -/
  values : ∀ (name : String) (id : TypeId), prelude.values[name]? = some id → prelude.table.Has id

namespace Draft

/-! ### Closed drafts -/

/-- The place is in use, and its type is not deferred. -/
def IsSettled (draft : Draft) (id : Nat) : Prop :=
  draft.table.Has id ∧ draft.deferred[id]? = none

/-- An entry that the table of a draft may hold: the places it mentions are in use, and what it
refers to with arguments is settled. -/
def Admits (draft : Draft) (entry : TypeEntry) : Prop :=
  (∀ place ∈ entry.places, draft.table.Has place) ∧
    ∀ target arguments, entry = .reference target arguments → draft.IsSettled target

/-- **A closed draft** mentions only places of its own table, and what it has deferred is not
defined. Declared types are settled. -/
structure IsClosed (prelude : Prelude) (draft : Draft) : Prop where
  /-- The prelude is closed. -/
  outside : prelude.IsClosed
  /-- The types of the prelude are settled. -/
  kept : ∀ id : Nat, prelude.table.Has id → draft.IsSettled id
  /-- The table is closed. -/
  entries : ∀ (id : TypeId) (entry : TypeEntry), draft.table.get? id = some entry →
    draft.Admits entry
  /-- The declared types are settled. -/
  typeNames : ∀ (name : String) (id : TypeId), draft.typeNames[name]? = some id → draft.IsSettled id
  /-- The generic parameters are settled. -/
  typeParams : ∀ (node : NodeId) (params : List (String × TypeId)),
    draft.typeParams[node]? = some params → ∀ param ∈ params, draft.IsSettled param.2
  /-- The types of the symbols are in the table. -/
  symbols : ∀ (symbol : SymbolId) (id : TypeId), draft.symbols[symbol]? = some id →
    draft.table.Has id
  /-- The classes are in the table. -/
  classes : ∀ (node : NodeId) (id : TypeId), draft.classes[node]? = some id → draft.table.Has id
  /-- A deferred type is in the table, where it reads as the unknown type. -/
  deferred : ∀ (id : TypeId) (source : Deferred), draft.deferred[id]? = some source →
    draft.table.get? id = some .unknown
  /-- The types that were found out are in the table. -/
  inferred : ∀ (node : NodeId) (id : TypeId), draft.inferred[node]? = some (some id) →
    draft.table.Has id

/-- **A step that keeps what there is**: the new draft is closed, every place stays in use, and
what is settled stays settled. -/
structure Keeps (prelude : Prelude) (old new : Draft) : Prop where
  /-- The new draft is closed. -/
  closed : new.IsClosed prelude
  /-- No place is given up. -/
  size_le : old.table.size ≤ new.table.size
  /-- A settled type stays settled. -/
  settled : ∀ id : Nat, old.IsSettled id → new.IsSettled id

/-- **A step that only adds**: it keeps what there is, and a settled type stays as it is. -/
structure Grows (prelude : Prelude) (old new : Draft) : Prop extends Keeps prelude old new where
  /-- A settled type stays as it is. -/
  get?_eq : ∀ id : Nat, old.IsSettled id → new.table.get? id = old.table.get? id

/-- **A step that gives places**: it only adds, and the places that it gives are in use. -/
structure Gives {Ids : Type} [Membership TypeId Ids] (prelude : Prelude) (old : Draft) (ids : Ids)
    (new : Draft) : Prop where
  /-- Nothing settled has changed. -/
  grows : old.Grows prelude new
  /-- The places are in use. -/
  has : ∀ id ∈ ids, new.table.Has id

variable {prelude : Prelude} {draft old new a b c : Draft}

theorem Keeps.has (h : old.Keeps prelude new) {id : Nat} (hid : old.table.Has id) :
    new.table.Has id :=
  hid.mono h.size_le

theorem Keeps.has_all {Ids : Type} [Membership TypeId Ids] {ids : Ids} (h : old.Keeps prelude new)
    (hids : ∀ id ∈ ids, old.table.Has id) : ∀ id ∈ ids, new.table.Has id :=
  fun id hid => h.has (hids id hid)

theorem Keeps.trans (hab : a.Keeps prelude b) (hbc : b.Keeps prelude c) : a.Keeps prelude c where
  closed := hbc.closed
  size_le := Nat.le_trans hab.size_le hbc.size_le
  settled id hid := hbc.settled id (hab.settled id hid)

theorem Grows.trans (hab : a.Grows prelude b) (hbc : b.Grows prelude c) : a.Grows prelude c where
  toKeeps := hab.toKeeps.trans hbc.toKeeps
  get?_eq id hid := by rw [hbc.get?_eq id (hab.settled id hid), hab.get?_eq id hid]

theorem IsClosed.refl (h : draft.IsClosed prelude) : draft.Grows prelude draft :=
  ⟨⟨h, Nat.le_refl _, fun _ hid => hid⟩, fun _ _ => rfl⟩

/-- Steps before one that gives places. -/
theorem Grows.gives {Ids : Type} [Membership TypeId Ids] {ids : Ids} (h : old.Grows prelude draft)
    (hnew : draft.Gives prelude ids new) : old.Gives prelude ids new :=
  ⟨h.trans hnew.grows, hnew.has⟩

/-- A step that gives one place. -/
theorem Grows.gives_some {id : TypeId} (h : old.Grows prelude new) (hid : new.table.Has id) :
    old.Gives prelude (some id) new := by
  refine ⟨h, ?_⟩
  rintro _ ⟨⟩
  exact hid

/-- One place more than a step gives. -/
theorem Gives.cons {id : TypeId} {ids : List TypeId} (hid : draft.table.Has id)
    (h : draft.Gives prelude ids new) : draft.Gives prelude (id :: ids) new :=
  ⟨h.grows, List.forall_mem_cons.mpr ⟨h.grows.has hid, h.has⟩⟩

/-- A type that needs no declaration is settled. -/
theorem IsClosed.intrinsic (h : draft.IsClosed prelude) {id : Nat}
    (hid : id < TypeTable.intrinsics.size) : draft.IsSettled id :=
  h.kept id (Nat.lt_of_lt_of_le hid h.outside.intrinsics)

/-- What an entry mentions is in use. -/
theorem IsClosed.has_places (h : draft.IsClosed prelude) {id : TypeId} {entry : TypeEntry}
    (hentry : draft.table.get? id = some entry) : ∀ place ∈ entry.places, draft.table.Has place :=
  (h.entries id entry hentry).1

/-- What a function returns is in use. -/
theorem IsClosed.has_result (h : draft.IsClosed prelude) {id result : TypeId}
    (hentry : draft.table.get? id = some (.function result)) : draft.table.Has result :=
  h.has_places hentry result (List.mem_singleton_self result)

/-- A type that is defined is settled. -/
theorem IsClosed.isSettled (h : draft.IsClosed prelude) {id : Nat} {entry : TypeEntry}
    (hentry : draft.table.get? id = some entry) (hne : entry ≠ .unknown) : draft.IsSettled id := by
  refine ⟨TypeTable.has_of_get? hentry, ?_⟩
  by_contra hdeferred
  obtain ⟨source, hsource⟩ := Option.ne_none_iff_exists'.mp hdeferred
  -- what is deferred reads as unknown
  rw [h.deferred id source hsource] at hentry
  exact hne (Option.some.inj hentry).symm

/-- A type that is defined stays as it is. -/
theorem Grows.get?_eq_some (hold : old.IsClosed prelude) (h : old.Grows prelude new) {id : Nat}
    {entry : TypeEntry} (hentry : old.table.get? id = some entry) (hne : entry ≠ .unknown) :
    new.table.get? id = some entry := by
  rw [h.get?_eq id (hold.isSettled hentry hne), hentry]

/-- An entry is still admitted if what is in use stays in use and what is settled stays settled. -/
theorem Admits.mono {entry : TypeEntry} (h : old.Admits entry)
    (hsize : old.table.size ≤ new.table.size)
    (hsettled : ∀ id : Nat, old.IsSettled id → new.IsSettled id) : new.Admits entry :=
  ⟨fun place hplace => (h.1 place hplace).mono hsize,
    fun target arguments heq => hsettled target (h.2 target arguments heq)⟩

/-- An entry that refers to nothing with arguments is admitted if its places are in use. -/
theorem admits_of_places {entry : TypeEntry}
    (hplaces : ∀ place ∈ entry.places, draft.table.Has place)
    (hentry : ∀ target arguments, entry ≠ .reference target arguments) : draft.Admits entry :=
  ⟨hplaces, fun target arguments heq => absurd heq (hentry target arguments)⟩

theorem admits_reference {target : TypeId} {arguments : List TypeId}
    (htarget : draft.IsSettled target) (harguments : ∀ id ∈ arguments, draft.table.Has id) :
    draft.Admits (.reference target arguments) := by
  refine ⟨fun place hplace => ?_, fun other _ heq => ?_⟩
  · rcases List.mem_cons.mp hplace with rfl | hplace
    · exact htarget.1
    · exact harguments place hplace
  · obtain ⟨rfl, -⟩ := TypeEntry.reference.inj heq
    exact htarget

/-! ### What holds after a step -/

/-- What holds after a step on a draft. -/
def After {α : Type} (action : StateM Draft α) (draft : Draft) (post : α → Draft → Prop) : Prop :=
  post (action.run draft).1 (action.run draft).2

namespace After

variable {α β : Type}

theorem pure {value : α} {post : α → Draft → Prop} (h : post value draft) :
    After (pure value) draft post := h

/-- **Steps one after the other.** -/
theorem bind {action : StateM Draft α} {next : α → StateM Draft β} {middle : α → Draft → Prop}
    {post : β → Draft → Prop} (h : After action draft middle)
    (hnext : ∀ value new, middle value new → After (next value) new post) :
    After (action >>= next) draft post :=
  hnext _ _ h

theorem and {action : StateM Draft α} {post post' : α → Draft → Prop}
    (h : After action draft post) (h' : After action draft post') :
    After action draft fun value new => post value new ∧ post' value new :=
  ⟨h, h'⟩

/-- Looking at the draft. -/
theorem get {next : Draft → StateM Draft β} {post : β → Draft → Prop}
    (h : After (next draft) draft post) : After (get >>= next) draft post := h

theorem imp {action : StateM Draft α} {post post' : α → Draft → Prop}
    (h : After action draft post) (himp : ∀ value new, post value new → post' value new) :
    After action draft post' :=
  himp _ _ h

end After

/-! ### Steps on drafts -/

/-- **Steps that leave the names alone.** The new draft is closed if its new entries are admitted,
what is deferred there reads as unknown, and what has been found out is in the table. -/
theorem IsClosed.keeps (h : draft.IsClosed prelude)
    (hnames : new.typeNames = draft.typeNames ∧ new.typeParams = draft.typeParams ∧
      new.symbols = draft.symbols ∧ new.classes = draft.classes)
    (hsize : draft.table.size ≤ new.table.size)
    (hsettled : ∀ id : Nat, draft.IsSettled id → new.IsSettled id)
    (hentries : ∀ (id : TypeId) (entry : TypeEntry), new.table.get? id = some entry →
      draft.table.get? id = some entry ∨ new.Admits entry)
    (hdeferred : ∀ (id : TypeId) (source : Deferred), new.deferred[id]? = some source →
      new.table.get? id = some .unknown)
    (hinferred : ∀ (node : NodeId) (id : TypeId), new.inferred[node]? = some (some id) →
      draft.inferred[node]? = some (some id) ∨ new.table.Has id) : draft.Keeps prelude new := by
  obtain ⟨htypes, hparams, hsymbols, hclasses⟩ := hnames
  -- the names are the old ones, and they named what is still settled or in use
  refine ⟨?_, hsize, hsettled⟩
  refine ⟨h.outside, fun id hid => hsettled id (h.kept id hid), fun id entry hentry => ?_,
    fun name id hid => hsettled id (h.typeNames name id (htypes ▸ hid)),
    fun node params hnode param hparam =>
      hsettled param.2 (h.typeParams node params (hparams ▸ hnode) param hparam),
    fun symbol id hid => (h.symbols symbol id (hsymbols ▸ hid)).mono hsize,
    fun node id hid => (h.classes node id (hclasses ▸ hid)).mono hsize, hdeferred,
    fun node id hid => ?_⟩
  · rcases hentries id entry hentry with hold | hadmits
    · exact (h.entries id entry hold).mono hsize hsettled
    · exact hadmits
  · rcases hinferred node id hid with hold | hhas
    · exact (h.inferred node id hold).mono hsize
    · exact hhas

/-- Putting a type at the end of the table. -/
theorem IsClosed.push (h : draft.IsClosed prelude) {data : TypeEntry} (hdata : draft.Admits data) :
    After (push data) draft fun id new =>
      draft.Grows prelude new ∧ new.table.get? id = some data ∧ new.deferred = draft.deferred ∧
        new.inferred = draft.inferred ∧
          ∀ other : Nat, draft.table.Has other → new.table.get? other = draft.table.get? other := by
  let table := (draft.table.push data).2
  have hold : ∀ other : Nat, draft.table.Has other → table.get? other = draft.table.get? other :=
    fun other hother => TypeTable.get?_push_of_lt hother
  have hsize : draft.table.size ≤ table.size := by
    rw [TypeTable.size_push]
    exact Nat.le_succ _
  have hsettled : ∀ id : Nat, draft.IsSettled id → ({ draft with table } : Draft).IsSettled id :=
    fun id hid => ⟨hid.1.mono hsize, hid.2⟩
  -- an entry is an old one or the new one; what is deferred is at an old place
  refine ⟨⟨h.keeps ⟨rfl, rfl, rfl, rfl⟩ hsize hsettled (fun id entry hentry => ?_)
    (fun id source hsource => ?_) (fun _ _ => .inl), fun id hid => hold id hid.1⟩,
    TypeTable.get?_push .., rfl, rfl, hold⟩
  · refine (TypeTable.get?_push_eq_some hentry).imp_right ?_
    rintro rfl
    exact hdata.mono hsize hsettled
  · have hunknown := h.deferred id source hsource
    exact (hold id (TypeTable.has_of_get? hunknown)).trans hunknown

/-- Putting a type at the end of the table gives its place. -/
theorem IsClosed.grows_push (h : draft.IsClosed prelude) {data : TypeEntry}
    (hdata : draft.Admits data) :
    After (Draft.push data) draft fun id new => draft.Grows prelude new ∧ new.table.Has id :=
  (h.push hdata).imp fun _ _ hnew => ⟨hnew.1, TypeTable.has_of_get? hnew.2.1⟩

theorem Grows.trans_push (h : old.Grows prelude draft) {data : TypeEntry}
    (hdata : draft.Admits data) :
    After (Draft.push data) draft fun id new => old.Grows prelude new ∧ new.table.Has id :=
  (h.closed.grows_push hdata).imp fun _ _ hnew => ⟨h.trans hnew.1, hnew.2⟩

/-- Steps that are followed by putting what they give at the end of the table. -/
theorem After.push {α : Type} {action : StateM Draft α} {entry : α → TypeEntry}
    (h : After action draft fun value new => draft.Grows prelude new ∧ new.Admits (entry value)) :
    After (action >>= fun value => Draft.push (entry value)) draft fun id new =>
      draft.Grows prelude new ∧ new.table.Has id :=
  h.bind fun _ _ hnew => hnew.1.trans_push hnew.2

/-- Steps that give a place, as an answer that there is one. -/
theorem After.answer {action : StateM Draft TypeId}
    (h : After action draft fun id new => old.Grows prelude new ∧ new.table.Has id) :
    After (action >>= fun id => Pure.pure (some id)) draft (old.Gives prelude) := by
  refine h.bind ?_
  rintro id new ⟨hnew, hid⟩
  exact After.pure (hnew.gives_some hid)

/-- The place at the end of the table is not deferred. -/
theorem IsClosed.deferred_size (h : draft.IsClosed prelude) :
    draft.deferred[draft.table.size]? = none := by
  by_contra hne
  obtain ⟨source, hsource⟩ := Option.ne_none_iff_exists'.mp hne
  exact Nat.lt_irrefl _ (TypeTable.has_of_get? (h.deferred _ source hsource))

theorem admits_unknown : draft.Admits .unknown :=
  admits_of_places (by simp [TypeEntry.places]) (by simp)

/-- Taking a place for a type that is defined later. -/
theorem IsClosed.reserve (h : draft.IsClosed prelude) :
    After reserve draft fun id new => draft.Grows prelude new ∧ new.IsSettled id := by
  have hpush := h.push admits_unknown
  exact ⟨hpush.1, TypeTable.has_of_get? hpush.2.1, h.deferred_size⟩

/-- Taking a place for a type that is to be found out later. -/
theorem IsClosed.defer (h : draft.IsClosed prelude) (source : Deferred) :
    After (defer source) draft fun id new => draft.Grows prelude new ∧ new.table.Has id := by
  have hpush := h.push admits_unknown
  obtain ⟨hgrows, hat, -, -, hold⟩ := hpush
  -- only the new place is deferred in addition, and it was not settled
  have hkeys : ∀ id : Nat, id ≠ draft.table.size →
      (draft.deferred.insert draft.table.size source)[id]? = draft.deferred[id]? := by
    intro id hne
    rw [Std.TreeMap.getElem?_insert, if_neg (by simpa using Ne.symm hne)]
  have hsettled : ∀ id : Nat, draft.IsSettled id →
      ((Draft.defer source).run draft).2.IsSettled id := by
    intro id hid
    have hne : id ≠ draft.table.size := Nat.ne_of_lt hid.1
    exact ⟨hid.1.mono hgrows.size_le, (hkeys id hne).trans hid.2⟩
  refine ⟨⟨h.keeps ⟨rfl, rfl, rfl, rfl⟩ hgrows.size_le hsettled (fun id entry hentry => ?_)
    (fun id source' hsource => ?_) (fun _ _ => .inl), fun id hid => hold id hid.1⟩,
    TypeTable.has_of_get? hat⟩
  · refine (TypeTable.get?_push_eq_some hentry).imp_right ?_
    rintro rfl
    exact admits_unknown
  · by_cases heq : id = draft.table.size
    · rw [heq]
      exact hat
    · exact hgrows.closed.deferred id source' ((hkeys id heq).symm.trans hsource)

/-- Defining a settled type. -/
theorem IsClosed.define (h : draft.IsClosed prelude) {site : TypeId} {data : TypeEntry}
    (hdata : draft.Admits data) (hsite : draft.deferred[site]? = none) :
    After (define site data) draft fun _ new =>
      draft.Keeps prelude new ∧ new.deferred = draft.deferred ∧ new.inferred = draft.inferred ∧
        (∀ id : Nat, id ≠ site → new.table.get? id = draft.table.get? id) ∧
          (draft.table.Has site → new.table.get? site = some data) := by
  have hsize : (draft.table.define site data).size = draft.table.size := TypeTable.size_define ..
  have hsettled : ∀ id : Nat, draft.IsSettled id →
      ((Draft.define site data).run draft).2.IsSettled id :=
    fun id hid => ⟨hid.1.mono (Nat.le_of_eq hsize.symm), hid.2⟩
  refine ⟨h.keeps ⟨rfl, rfl, rfl, rfl⟩ (Nat.le_of_eq hsize.symm) hsettled
    (fun id entry hentry => ?_) (fun id source hsource => ?_) (fun _ _ => .inl), rfl, rfl,
    fun id hne => TypeTable.get?_define_of_ne (Ne.symm hne), fun hhas => ?_⟩
  · refine (TypeTable.get?_define_eq_some hentry).imp_right ?_
    rintro rfl
    exact hdata.mono (Nat.le_of_eq hsize.symm) hsettled
  -- what is deferred is not at the site, so it still reads as unknown
  · have hne : site ≠ id := by
      rintro rfl
      exact absurd (hsite.symm.trans hsource) (by simp)
    exact (TypeTable.get?_define_of_ne hne).trans (h.deferred id source hsource)
  · exact Array.getElem?_setIfInBounds_self_of_lt hhas

/-- Striking a type off the deferred ones. -/
theorem IsClosed.grows_erase (h : draft.IsClosed prelude) (type : TypeId) :
    draft.Grows prelude { draft with deferred := draft.deferred.erase type } := by
  have hkept : ∀ (id : TypeId) (source : Deferred),
      (draft.deferred.erase type)[id]? = some source → draft.deferred[id]? = some source := by
    intro id source hsource
    rw [Std.TreeMap.getElem?_erase] at hsource
    split at hsource
    · cases hsource
    · exact hsource
  have hsettled : ∀ id : Nat, draft.IsSettled id →
      ({ draft with deferred := draft.deferred.erase type } : Draft).IsSettled id := by
    intro id hid
    refine ⟨hid.1, ?_⟩
    rw [Std.TreeMap.getElem?_erase, hid.2, ite_self]
  refine ⟨h.keeps ⟨rfl, rfl, rfl, rfl⟩ (Nat.le_refl _) hsettled (fun _ _ => .inl)
    (fun id source hsource => h.deferred id source (hkept id source hsource)) (fun _ _ => .inl),
    fun _ _ => rfl⟩

/-- **Defining a type that was deferred** when the steps began, and is not any more. -/
theorem Grows.trans_define (h : old.Grows prelude draft) {site : TypeId} {data : TypeEntry}
    (hdata : draft.Admits data) (hsite : draft.deferred[site]? = none)
    (hopen : old.deferred[site]? ≠ none) :
    After (Draft.define site data) draft fun _ new =>
      old.Grows prelude new ∧ new.deferred[site]? = none := by
  refine (h.closed.define hdata hsite).imp ?_
  rintro _ new ⟨hnew, hdeferred, _, hother, _⟩
  refine ⟨⟨h.toKeeps.trans hnew, fun id hid => ?_⟩, by rw [hdeferred, hsite]⟩
  -- what was settled when the steps began was not deferred then
  have hne : id ≠ site := fun heq => hopen (heq ▸ hid.2)
  rw [hother id hne, h.get?_eq id hid]

end Draft

end StreamLint
