import StreamLint.Proofs.Model.Reading
/-!
# What is read from a type

From the type of its part, a member expression has that of a member, an index expression that of the
elements, a call that of a result, and `await` what a promise holds. While a model is made, all of
these are searches that change the draft: types are settled on the way and put at the end of the
table. This file says what they come to in the table in the end, with no draft in it
(`StreamLint.TypeTable.Reads`).

That the search and the table agree is not to be taken for granted, because a type that is just
being found out reads as unknown. But an expression that is answered in its turn is asked for while
nothing is being found out, so that whatever its search meets is settled for good
(`StreamLint.Background.reads_of_finish`).
-/

namespace StreamLint

/-! ### Searches in a table -/

/-- **The first answer** to a question that is put to the things of a list. -/
inductive FirstOf {α : Type} (answers : α → Option TypeId → Prop) :
    List α → Option TypeId → Prop where
  /-- There is nothing to ask. -/
  | nil : FirstOf answers [] none
  /-- The first thing has an answer. -/
  | found {first : α} {value : TypeId} {rest : List α} (h : answers first (some value)) :
    FirstOf answers (first :: rest) (some value)
  /-- It has none. -/
  | next {first : α} {rest : List α} {value? : Option TypeId} (h : answers first none)
    (hrest : FirstOf answers rest value?) : FirstOf answers (first :: rest) value?

/-- Answers to one question are answers to another one about things that are related to the first
ones. -/
theorem FirstOf.transport {α β : Type} {answers : α → Option TypeId → Prop}
    {answers' : β → Option TypeId → Prop} {things : List α} {others : List β}
    {value? : Option TypeId} (h : FirstOf answers things value?) {rel : β → α → Prop}
    (hrel : List.Forall₂ rel others things)
    (himp : ∀ thing other, rel other thing → ∀ value?, answers thing value? →
      answers' other value?) :
    FirstOf answers' others value? := by
  induction h generalizing others with
  | nil =>
    obtain rfl := List.forall₂_nil_right_iff.mp hrel
    exact .nil
  | found h =>
    obtain ⟨other, rest, hfirst, -, rfl⟩ := List.forall₂_cons_right_iff.mp hrel
    exact .found (himp _ other hfirst _ h)
  | next h _ ih =>
    obtain ⟨other, rest, hfirst, hrest, rfl⟩ := List.forall₂_cons_right_iff.mp hrel
    exact .next (himp _ other hfirst _ h) (ih hrest)

namespace TypeTable

variable (table : TypeTable)

/-- The value of a member that gives the type: that type for a property, and a function that returns
it for a method. -/
def IsGiven (kind : MemberKind) (result value : TypeId) : Prop :=
  match kind with
  | .property => value = result
  | .method => table.get? value = some (.function result)

/-- **The member of a class or interface** with arguments: its own, or that of the first supertype
with one. Both are seen through the arguments. -/
def DeclaredMember (memberOf : TypeId → Option TypeId → Prop) (depth : Nat)
    (declaration : NominalType) (arguments : List TypeId) (name : String)
    (value? : Option TypeId) : Prop :=
  match declaration.members.find? (·.name == name) with
  | some member => ∃ result value, value? = some value ∧
      table.Instance declaration.params arguments depth member.type result ∧
        table.IsGiven member.kind result value
  | none => FirstOf (fun supertype answer? => ∃ seen,
      table.Instance declaration.params arguments depth supertype seen ∧ memberOf seen answer?)
      declaration.supertypes value?

/-- The member of a type that does not stand for another one. -/
def ShapeMember (memberOf : TypeId → Option TypeId → Prop) (steps depth : Nat) (name : String)
    (shape : TypeId) (value? : Option TypeId) : Prop :=
  match table.get? shape with
  | some (.declared declaration) => table.DeclaredMember memberOf depth declaration [] name value?
  | some (.reference target arguments) =>
    match table.get? (table.shapeWithin steps target) with
    | some (.declared declaration) =>
      table.DeclaredMember memberOf depth declaration arguments name value?
    | _ => memberOf (table.shapeWithin steps target) value?
  | some (.object members) =>
    match members.find? (·.name == name) with
    | some member => ∃ value, value? = some value ∧ table.IsGiven member.kind member.type value
    | none => value? = none
  | some (.union members) => ∃ answers, List.Forall₂ memberOf members answers ∧
      table.JoinOf (answers.filterMap id) value?
  | some (.intersection members) => FirstOf memberOf members value?
  | some (.array _) | some (.tuple _) => value? = if name == "length" then some .number else none
  | _ => value? = none

/-- **The member of a type**, looked for within a budget. -/
def MemberOf (steps : Nat) (name : String) : Nat → TypeId → Option TypeId → Prop
  | 0, _, value? => value? = none
  | budget + 1, object, value? =>
    table.ShapeMember (MemberOf steps name budget) steps (budget + 1) name
      (table.shapeWithin steps object) value?

/-- A type that stands for no other one is its own shape. -/
theorem shapeWithin_eq_of_leaf {table : TypeTable} {type : TypeId}
    (h : table.standsFor? type = none) (steps : Nat) : table.shapeWithin steps type = type := by
  cases steps with
  | zero => rfl
  | succ steps => simp only [shapeWithin, h]

/-- **The member of a class or interface** is the one that it or a supertype declares. -/
theorem MemberOf.declaredMember {table : TypeTable} {steps budget : Nat} {name : String}
    {object : TypeId} {value? : Option TypeId}
    (h : table.MemberOf steps name (budget + 1) object value?) {declaration : NominalType}
    {arguments : List TypeId}
    (happlied : table.IsApplied (table.shapeWithin steps object) declaration arguments) :
    table.DeclaredMember (table.MemberOf steps name budget) (budget + 1) declaration arguments name
      value? := by
  rw [MemberOf] at h
  rcases happlied with ⟨hentry, rfl⟩ | ⟨target, hentry, htarget⟩
  · simpa only [ShapeMember, hentry] using h
  · have hself : table.shapeWithin steps target = target :=
      shapeWithin_eq_of_leaf (by simp only [standsFor?, htarget]) steps
    simpa only [ShapeMember, hentry, hself, htarget] using h

/-- **What calling a value of a type returns.** -/
inductive ResultOf (steps : Nat) : TypeId → Option TypeId → Prop where
  /-- A function returns what it is declared to. -/
  | function {callee result : TypeId}
    (h : table.get? (table.shapeWithin steps callee) = some (.function result)) :
    ResultOf steps callee (some result)
  /-- A union returns what its members return. -/
  | union {callee : TypeId} {members : List TypeId} {answers : List (Option TypeId)}
    {value? : Option TypeId}
    (h : table.get? (table.shapeWithin steps callee) = some (.union members))
    (hlength : answers.length = members.length)
    (hanswers : ∀ pair ∈ members.zip answers, ResultOf steps pair.1 pair.2)
    (hjoin : table.JoinOf (answers.filterMap id) value?) : ResultOf steps callee value?
  /-- Anything else cannot be called. -/
  | other {callee : TypeId}
    (hfunction : ∀ result, table.get? (table.shapeWithin steps callee) ≠ some (.function result))
    (hunion : ∀ members, table.get? (table.shapeWithin steps callee) ≠ some (.union members)) :
    ResultOf steps callee none

/-- The type of the elements of an array. -/
def elementOf? (steps : Nat) (object : TypeId) : Option TypeId :=
  match table.get? (table.shapeWithin steps object) with
  | some (.array element) => some element
  | _ => none

/-- What a promise holds; any other type is what it is. -/
def awaitedOf (steps : Nat) (type : TypeId) : TypeId :=
  match table.get? (table.shapeWithin steps type) with
  | some (.reference target arguments) =>
    match table.get? target with
    | some (.declared declaration) =>
      if declaration.name == "Promise" then arguments.head?.getD .unknown else type
    | _ => type
  | _ => type

end TypeTable

/-- What an expression reads from the type of its part. -/
inductive Access where
  /-- A member. -/
  | member (name : String)
  /-- An element of an array. -/
  | element
  /-- What a call returns. -/
  | result
  /-- What a promise holds. -/
  | awaited
  deriving DecidableEq, Repr

/-- **What is read from a type**, where types are followed, and members are looked for, to a
depth. -/
def TypeTable.Reads (table : TypeTable) (maxDepth : Nat) (type : TypeId) :
    Access → Option TypeId → Prop
  | .member name, value? => table.MemberOf (maxDepth + 1) name maxDepth type value?
  | .element, value? => value? = table.elementOf? (maxDepth + 1) type
  | .result, value? => table.ResultOf (maxDepth + 1) type value?
  | .awaited, value? => value? = some (table.awaitedOf (maxDepth + 1) type)

/-- What an expression reads, and the part from whose type it does. -/
def SyntaxTree.access? (tree : SyntaxTree) (node : NodeId) : Option (Access × NodeId) :=
  match tree.construct? node with
  | some (.memberExpression object property) =>
    (tree.nameAt? property).map fun name => (.member name, object)
  | some (.indexExpression object _) => some (.element, object)
  | some (.callExpression callee _) => some (.result, callee)
  | some (.awaitExpression argument) => some (.awaited, argument)
  | _ => none

/-- What an expression reads from is one of its children, and is no name that it declares. -/
theorem SyntaxTree.exists_construct_of_access? {tree : SyntaxTree} {node part : NodeId}
    {access : Access} (h : tree.access? node = some (access, part)) :
    ∃ construct, tree.construct? node = some construct ∧ construct.field? .name = none ∧
      part ∈ construct.children := by
  unfold access? at h
  split at h
  case h_1 object property hconstruct =>
    obtain ⟨name, -, haccess⟩ := Option.map_eq_some_iff.mp h
    obtain ⟨-, rfl⟩ := Prod.mk.inj haccess
    exact ⟨_, hconstruct, rfl, List.mem_cons_self⟩
  case h_5 => cases h
  all_goals
    obtain ⟨-, rfl⟩ := Prod.mk.inj (Option.some.inj h)
    exact ⟨_, ‹_›, rfl, List.mem_cons_self⟩

namespace Background

open Draft

variable {background : Background} {draft old new last : Draft}

/-! ### Drafts on the way to the end -/

/-- **What one draft has found out, another one still knows.** -/
structure Lasts (old last : Draft) : Prop where
  /-- Settled types are as they were. -/
  get?_eq : ∀ id : Nat, old.IsSettled id → last.table.get? id = old.table.get? id
  /-- A type that was unknown comes to stand for another one, if anything. -/
  found : ∀ id : TypeId, old.table.get? id = some .unknown → last.table.get? id = some .unknown ∨
    ∃ target, last.table.get? id = some (.alias "" [] target)
  /-- A type that was known is as it was. -/
  keepsKnown : old.table.KeepsKnown last.table
  /-- A type that has been followed still leads to where it did. -/
  shape : ∀ {steps : Nat} {type shape : TypeId}, old.settledShape? steps type = some shape →
    old.table.Has shape → last.settledShape? steps type = some shape
  /-- A settled type stays settled. -/
  isSettled : ∀ {id : TypeId}, old.IsSettled id → last.IsSettled id

/-- **One draft leads to another one.** -/
structure Goes (background : Background) (old new : Draft) : Prop where
  /-- The moves in between. -/
  passes : ∃ through, background.Passes old through new
  /-- The new draft is closed. -/
  closed : new.IsClosed background.prelude
  /-- What has been found out lasts. -/
  lasts : Lasts old new

/-- An expression is being dealt with. -/
structure IsBusy (background : Background) (draft : Draft) : Prop where
  /-- The draft is sound. -/
  sound : background.IsSound draft
  /-- It is closed. -/
  closed : draft.IsClosed background.prelude
  /-- An expression is in progress. -/
  busy : draft.inProgress ≠ []

/-- **What holds in the end**, whatever comes after the draft, once nothing is deferred any more. -/
def Finally (draft : Draft) (fact : TypeTable → Prop) : Prop :=
  ∀ last, Lasts draft last → last.deferred.isEmpty = true → fact last.table

namespace Lasts

theorem refl (draft : Draft) : Lasts draft draft where
  get?_eq _ _ := rfl
  found _ := .inl
  keepsKnown _ _ hentry _ := hentry
  shape hshape _ := hshape
  isSettled := id

/-- What is known, and what is found out later. -/
theorem get?_eq_some (h : Lasts old last) {id : TypeId} {entry : TypeEntry}
    (hentry : old.table.get? id = some entry) : last.table.get? id = some entry ∨
      entry = .unknown ∧ ∃ target, last.table.get? id = some (.alias "" [] target) := by
  by_cases hknown : entry = .unknown
  · subst hknown
    exact (h.found id hentry).imp_right fun halias => ⟨rfl, halias⟩
  · exact .inl (h.keepsKnown id entry hentry hknown)

theorem has (h : Lasts old last) {id : TypeId} (hid : old.table.Has id) : last.table.Has id := by
  rcases h.get?_eq_some (Array.getElem?_eq_getElem hid) with hentry | ⟨-, target, halias⟩
  · exact TypeTable.has_of_get? hentry
  · exact TypeTable.has_of_get? halias

theorem keepsOpen (h : Lasts old last) : old.table.KeepsOpen last.table := by
  intro id entry hentry
  rcases h.get?_eq_some hentry with hsame | ⟨rfl, target, halias⟩
  · exact .inl hsame
  · exact .inr ⟨rfl, _, halias, rfl⟩

theorem trans (h : Lasts old new) (h' : Lasts new last) : Lasts old last where
  get?_eq id hid := (h'.get?_eq id (h.isSettled hid)).trans (h.get?_eq id hid)
  found id hid := by
    rcases h.found id hid with hunknown | ⟨target, halias⟩
    · exact h'.found id hunknown
    · exact .inr ⟨target, h'.keepsKnown id _ halias (by simp)⟩
  keepsKnown id entry hentry hknown :=
    h'.keepsKnown id entry (h.keepsKnown id entry hentry hknown) hknown
  shape hshape hhas := h'.shape (h.shape hshape hhas) (h.has hhas)
  isSettled := h'.isSettled ∘ h.isSettled

/-- **A type that has been followed** stands for the same one in the end. -/
theorem shapeWithin_eq (h : Lasts old last) (hlast : last.deferred.isEmpty = true)
    {type shape : TypeId} (hleads : background.LeadsTo old type shape) :
    last.table.shapeWithin (background.maxDepth + 1) type = shape := by
  have hshape := h.shape hleads.1 hleads.2
  rw [Draft.settledShape?_eq_shapeWithin hlast] at hshape
  exact Option.some.inj hshape

/-- What a type that has been followed stands for is in the end what it was, if that is known, and
else neither a type that is declared nor one that is put together of others. -/
theorem get?_shape (h : Lasts old last) {shape : TypeId} (hhas : old.table.Has shape) :
    last.table.get? shape = old.table.get? shape ∨
      old.table.get? shape = some .unknown ∧
        ∃ target, last.table.get? shape = some (.alias "" [] target) := by
  have hentry : old.table.get? shape = some old.table.entries[shape] :=
    Array.getElem?_eq_getElem hhas
  rcases h.get?_eq_some hentry with hsame | ⟨hunknown, halias⟩
  · exact .inl (hsame.trans hentry.symm)
  · exact .inr ⟨hentry.trans (congrArg some hunknown), halias⟩

/-- What is neither unknown nor an alias in the end has been so before. -/
theorem get?_eq_some_of_known (h : Lasts old last) {id : TypeId} (hid : old.table.Has id)
    {entry : TypeEntry} (hentry : last.table.get? id = some entry)
    (hother : ∀ target, entry ≠ .alias "" [] target) : old.table.get? id = some entry := by
  rcases h.get?_shape hid with hsame | ⟨-, target, halias⟩
  · exact hsame.symm.trans hentry
  · exact absurd (Option.some.inj (hentry.symm.trans halias)) (hother target)

theorem «instance» (h : Lasts old last) (hold : background.IsBusy old)
    {params arguments : List TypeId} {depth : Nat} {type seen : TypeId}
    (htype : old.table.Has type) (hseen : old.table.Instance params arguments depth type seen) :
    last.table.Instance params arguments depth type seen :=
  hseen.mono h.keepsOpen (fun _ _ => hold.closed.has_places) htype

/-- What passes on keeps what is known. -/
theorem of_passes {through : List Draft} (h : background.Passes old through last)
    (hold : background.IsSound old) : Lasts old last where
  get?_eq := h.get?_eq
  found id hunknown := by
    rcases h.course.keeps (fun hmove => hmove.isFound) (.inl hunknown) with
      hunknown | ⟨target, halias, -⟩
    · exact .inl hunknown
    · exact .inr ⟨target, halias⟩
  keepsKnown _ _ := h.get?_eq_some
  shape := h.settledShape?_eq_some hold
  isSettled := h.isSettled

end Lasts

namespace Goes

theorem refl (h : draft.IsClosed background.prelude) : background.Goes draft draft :=
  ⟨⟨[], .refl draft⟩, h, .refl draft⟩

theorem trans (h : background.Goes old new) (h' : background.Goes new last) :
    background.Goes old last := by
  obtain ⟨_, hpasses⟩ := h.passes
  obtain ⟨_, hpasses'⟩ := h'.passes
  exact ⟨⟨_, hpasses.trans hpasses'⟩, h'.closed, h.lasts.trans h'.lasts⟩

theorem isBusy (h : background.Goes old new) (hold : background.IsBusy old) :
    background.IsBusy new := by
  obtain ⟨_, hpasses⟩ := h.passes
  exact ⟨hpasses.isSound hold.sound, h.closed, hpasses.inProgress_eq ▸ hold.busy⟩

theorem has (h : background.Goes old new) {id : TypeId} (hid : old.table.Has id) :
    new.table.Has id :=
  h.lasts.has hid

end Goes

theorem Finally.imp {fact fact' : TypeTable → Prop} (h : Finally draft fact)
    (himp : ∀ table, fact table → fact' table) : Finally draft fact' :=
  fun last hlast hempty => himp _ (h last hlast hempty)

/-- **A draft has come to something that holds in the end.** -/
structure Comes (background : Background) (old new : Draft) (fact : TypeTable → Prop) : Prop where
  /-- The way to the draft. -/
  goes : background.Goes old new
  /-- What holds in the end. -/
  inTheEnd : Finally new fact

theorem Comes.imp {fact fact' : TypeTable → Prop} (h : background.Comes old new fact)
    (himp : ∀ table, fact table → fact' table) : background.Comes old new fact' :=
  ⟨h.goes, h.inTheEnd.imp himp⟩

/-! ### Steps of a search -/

/-- A step that only puts types at the end of the table. -/
theorem goes_of_adds {α : Type} {action : StateM Draft α} (hsound : background.IsSound draft)
    (hadds : background.Adds (background.IsBodyInProgress draft) action)
    (hclosed : (action.run draft).2.IsClosed background.prelude) :
    background.Goes draft (action.run draft).2 :=
  ⟨⟨_, .adds (hadds draft)⟩, hclosed, .of_passes (.adds (hadds draft)) hsound⟩

theorem IsBusy.yields_settle (h : background.IsBusy draft) (fuel budget : Nat) (type : TypeId) :
    Yields (background.settle (background.infer background.resultOfCall fuel) budget type) draft
      fun _ new => background.Goes draft new := by
  intro value new hrun
  obtain ⟨hpasses, -⟩ :=
    ((questionsTold_infer background fuel).settle (absurd · h.busy) type).yields
    h.sound value new hrun
  obtain ⟨hgrows, -⟩ := Yields.ofAgrees
    ((questionsAgree_infer background fuel).settle h.closed budget type) value new hrun
  obtain ⟨_, hpasses⟩ := hpasses
  exact ⟨⟨_, hpasses⟩, hgrows.closed, .of_passes hpasses h.sound⟩

/-- Following a type leads to its shape. -/
theorem IsBusy.yields_shapeOf (h : background.IsBusy draft) (fuel budget : Nat) {type : TypeId}
    (htype : draft.table.Has type) :
    Yields (background.shapeOf (background.infer background.resultOfCall fuel) budget type) draft
      fun shape new => background.Goes draft new ∧ background.LeadsTo new type shape := by
  intro shape new hrun
  obtain ⟨hpasses, -⟩ :=
    ((questionsTold_infer background fuel).shapeOf (absurd · h.busy) type).yields
    h.sound shape new hrun
  obtain ⟨hgrows, hhas, hshape⟩ := Yields.ofAgrees
    ((questionsAgree_infer background fuel).shapeOf h.closed budget htype) shape new hrun
  obtain ⟨_, hpasses⟩ := hpasses
  exact ⟨⟨⟨_, hpasses⟩, hgrows.closed, .of_passes hpasses h.sound⟩, hshape, hhas⟩

/-- Replacing parameters. -/
theorem IsBusy.yields_substitute (h : background.IsBusy draft) (params : List TypeId)
    {arguments : List TypeId} (harguments : ∀ id ∈ arguments, draft.table.Has id) (depth : Nat)
    {type : TypeId} (htype : draft.table.Has type) :
    Yields (liftM (substitute params arguments depth type)) draft fun seen new =>
      background.Goes draft new ∧ new.table.Instance params arguments depth type seen ∧
        new.table.Has seen := by
  refine Yields.lift ?_
  have hsees := h.closed.after_substitute_sees params harguments depth htype
  have hgives := h.closed.after_substitute params harguments depth htype
  exact ⟨goes_of_adds h.sound (adds_substitute _ _ _ _) hsees.closed, hsees.isInstance, hgives.2⟩

/-- Joining types. -/
theorem IsBusy.yields_joinTypes (h : background.IsBusy draft) {types : List TypeId}
    (htypes : ∀ id ∈ types, draft.table.Has id) :
    Yields (liftM (joinTypes types)) draft fun join? new =>
      (background.Comes draft new fun table => table.JoinOf types join?) ∧
        ∀ join ∈ join?, new.table.Has join := by
  have hgives := h.closed.after_joinTypes htypes
  have hjoin := after_joinTypes_joinOf draft types
  have hgoes := goes_of_adds h.sound (adds_joinTypes types) hgives.grows.closed
  refine Yields.lift ⟨⟨hgoes, fun last hlast _ => ?_⟩, hgives.has⟩
  exact hjoin.mono fun id _ hentry => hlast.keepsKnown id _ hentry (by simp)

/-- **The value of a member.** -/
theorem IsBusy.yields_valueOfMember (h : background.IsBusy draft) (fuel budget : Nat)
    (kind : MemberKind) {type : TypeId} (htype : draft.table.Has type) :
    Yields
      (background.valueOfMember (background.infer background.resultOfCall fuel) budget kind type)
      draft fun value new =>
        background.Comes draft new fun table => table.IsGiven kind type value := by
  simp only [valueOfMember]
  refine (h.yields_settle fuel budget type).bind fun _ now hnow => ?_
  have hbusy := hnow.isBusy h
  cases kind with
  | property => exact Yields.pure ⟨hnow, fun _ _ _ => rfl⟩
  | method =>
    have hadmits : now.Admits (.function type) :=
      admits_of_places (by simpa [TypeEntry.places] using hnow.has htype) (by simp)
    obtain ⟨hgrows, hentry, -⟩ := hbusy.closed.push hadmits
    have hpush := goes_of_adds hbusy.sound (Adds.push (by simp)) hgrows.closed
    exact Yields.lift ⟨hnow.trans hpush, fun last hlast _ => hlast.keepsKnown _ _ hentry (by simp)⟩

section Lists

variable {step : TypeId → Inference Option (Option TypeId)}
  {answers : TypeTable → TypeId → Option TypeId → Prop} {types : List TypeId}

/-- **Looking for the first answer.** -/
theorem yields_findSomeM? (hgoes : background.Goes old draft)
    (htypes : ∀ id ∈ types, draft.table.Has id)
    (hstep : ∀ now, background.Goes old now → ∀ id, now.table.Has id → Yields (step id) now
      fun value? new => background.Comes now new fun table => answers table id value?) :
    Yields (types.findSomeM? step) draft fun value? new =>
      background.Comes draft new fun table => FirstOf (answers table) types value? := by
  induction types generalizing draft with
  | nil => exact Yields.pure ⟨.refl hgoes.closed, fun _ _ _ => .nil⟩
  | cons first rest ih =>
    obtain ⟨hfirst, hrest⟩ := List.forall_mem_cons.mp htypes
    simp only [List.findSomeM?]
    refine (hstep draft hgoes first hfirst).bind fun value? now hnow => ?_
    cases value? with
    | some value => exact Yields.pure (hnow.imp fun _ hvalue => .found hvalue)
    | none =>
      have hhas : ∀ id ∈ rest, now.table.Has id := fun id hid => hnow.goes.has (hrest id hid)
      refine (ih (hgoes.trans hnow.goes) hhas).imp fun value? new hnew => ?_
      exact ⟨hnow.goes.trans hnew.goes, fun last hlast hempty =>
        .next (hnow.inTheEnd last (hnew.goes.lasts.trans hlast) hempty)
          (hnew.inTheEnd last hlast hempty)⟩

/-- Collecting answers is asking for all of them and leaving out where there is none. -/
theorem filterMapM_eq_mapM (step : TypeId → Inference Option (Option TypeId))
    (types : List TypeId) :
    types.filterMapM step = (do
      let values ← types.mapM step
      return values.filterMap id) := by
  induction types with
  | nil => simp
  | cons first rest ih =>
    rw [List.filterMapM_cons, List.mapM_cons]
    simp only [ih, bind_assoc, pure_bind]
    refine bind_congr fun value? => ?_
    cases value? <;> simp

/-- **Asking for all answers.** -/
theorem yields_mapM (hgoes : background.Goes old draft)
    (htypes : ∀ id ∈ types, draft.table.Has id)
    (hstep : ∀ now, background.Goes old now → ∀ id, now.table.Has id → Yields (step id) now
      fun value? new => background.Comes now new (fun table => answers table id value?) ∧
        ∀ value ∈ value?, new.table.Has value) :
    Yields (types.mapM step) draft fun values new =>
      background.Comes draft new (fun table => List.Forall₂ (answers table) types values) ∧
        ∀ value ∈ values.filterMap id, new.table.Has value := by
  induction types generalizing draft with
  | nil =>
    rw [List.mapM_nil]
    exact Yields.pure ⟨⟨.refl hgoes.closed, fun _ _ _ => .nil⟩, by simp⟩
  | cons first rest ih =>
    obtain ⟨hfirst, hrest⟩ := List.forall_mem_cons.mp htypes
    rw [List.mapM_cons]
    refine (hstep draft hgoes first hfirst).bind ?_
    rintro value? now ⟨hnow, hvalue⟩
    have hhas : ∀ id ∈ rest, now.table.Has id := fun id hid => hnow.goes.has (hrest id hid)
    refine (ih (hgoes.trans hnow.goes) hhas).bind ?_
    rintro values new ⟨hnew, hvalues⟩
    refine Yields.pure ⟨⟨hnow.goes.trans hnew.goes, fun last hlast hempty => .cons
      (hnow.inTheEnd last (hnew.goes.lasts.trans hlast) hempty)
      (hnew.inTheEnd last hlast hempty)⟩, ?_⟩
    cases value? with
    | none => simpa using hvalues
    | some value =>
      refine List.forall_mem_cons.mpr ⟨hnew.goes.has (hvalue value rfl), hvalues⟩

/-- **Joining all answers.** -/
theorem IsBusy.yields_joinResults (h : background.IsBusy draft)
    (answers : TypeTable → TypeId → Option TypeId → Prop)
    (htypes : ∀ id ∈ types, draft.table.Has id)
    (hstep : ∀ now, background.IsBusy now → ∀ id, now.table.Has id → Yields (step id) now
      fun value? new => background.Comes now new (fun table => answers table id value?) ∧
        ∀ value ∈ value?, new.table.Has value) :
    Yields (joinResults step types) draft fun join? new =>
      (background.Comes draft new fun table =>
        ∃ values : List (Option TypeId), List.Forall₂ (answers table) types values ∧
          table.JoinOf (values.filterMap id) join?) ∧ ∀ join ∈ join?, new.table.Has join := by
  unfold joinResults
  refine (yields_mapM (.refl h.closed) htypes fun now hnow => hstep now (hnow.isBusy h)).bind ?_
  rintro values seen ⟨hseen, hvalues⟩
  refine ((hseen.goes.isBusy h).yields_joinTypes hvalues).imp ?_
  rintro join? new ⟨hnew, hhas⟩
  exact ⟨⟨hseen.goes.trans hnew.goes, fun last hlast hempty => ⟨values,
    hseen.inTheEnd last (hnew.goes.lasts.trans hlast) hempty,
    hnew.inTheEnd last hlast hempty⟩⟩, hhas⟩

end Lists

/-! ### Members -/

/-- **The member of a class or interface with arguments.** -/
theorem IsBusy.yields_memberOfDeclared (h : background.IsBusy draft) (fuel budget : Nat)
    {memberOf : TypeId → Inference Option (Option TypeId)}
    {answers : TypeTable → TypeId → Option TypeId → Prop}
    (hmember : ∀ now, background.IsBusy now → ∀ id, now.table.Has id → Yields (memberOf id) now
      fun value? new => background.Comes now new fun table => answers table id value?)
    {shape : TypeId} {declaration : NominalType}
    (hentry : draft.table.get? shape = some (.declared declaration)) {arguments : List TypeId}
    (harguments : ∀ id ∈ arguments, draft.table.Has id) (name : String) :
    Yields (background.memberOfDeclared (background.infer background.resultOfCall fuel) budget
      memberOf declaration arguments name) draft fun value? new =>
        background.Comes draft new fun table =>
          table.DeclaredMember (answers table) budget declaration arguments name value? := by
  rcases hfound : declaration.members.find? (·.name == name) with _ | member <;>
    simp only [memberOfDeclared, TypeTable.DeclaredMember, hfound]
  case some =>
    have htype := h.closed.has_member hentry hfound
    refine (h.yields_settle fuel budget member.type).bind fun _ now hnow => ?_
    have hbusy := hnow.isBusy h
    refine (hbusy.yields_substitute declaration.params (fun id hid => hnow.has (harguments id hid))
      budget (hnow.has htype)).bind ?_
    rintro result seen ⟨hseen, hinstance, hhas⟩
    refine ((hseen.isBusy hbusy).yields_valueOfMember fuel budget member.kind hhas).bind ?_
    intro value new hnew
    refine Yields.pure ⟨(hnow.trans hseen).trans hnew.goes, fun last hlast hempty => ?_⟩
    refine ⟨result, value, rfl, ?_, hnew.inTheEnd last hlast hempty⟩
    exact (hnew.goes.lasts.trans hlast).instance (hseen.isBusy hbusy) ((hnow.trans hseen).has htype)
      hinstance
  case none =>
    have hsupertypes : ∀ id ∈ declaration.supertypes, draft.table.Has id := fun id hid =>
      h.closed.has_places hentry id (by simp [TypeEntry.places, hid])
    refine yields_findSomeM? (.refl h.closed) hsupertypes fun now hnow supertype hhas => ?_
    have hbusy := hnow.isBusy h
    refine (hbusy.yields_substitute declaration.params (fun id hid => hnow.has (harguments id hid))
      budget hhas).bind ?_
    rintro result seen ⟨hseen, hinstance, hresult⟩
    refine (hmember seen (hseen.isBusy hbusy) result hresult).imp fun value? new hnew => ?_
    refine ⟨hseen.trans hnew.goes, fun last hlast hempty => ⟨result, ?_,
      hnew.inTheEnd last hlast hempty⟩⟩
    exact (hnew.goes.lasts.trans hlast).instance (hseen.isBusy hbusy) (hseen.has hhas) hinstance

/-- **Looking for a member** finds the member that the type has in the end. -/
theorem IsBusy.yields_typeOfMember (h : background.IsBusy draft) (fuel : Nat) (name : String)
    (budget : Nat) {object : TypeId} (hobject : draft.table.Has object) :
    Yields
      (background.typeOfMember (background.infer background.resultOfCall fuel) name budget object)
      draft fun value? new => background.Comes draft new fun table =>
        table.MemberOf (background.maxDepth + 1) name budget object value? := by
  induction budget generalizing draft object with
  | zero => exact Yields.pure ⟨.refl h.closed, fun _ _ _ => rfl⟩
  | succ budget ih =>
    simp only [typeOfMember]
    refine (h.yields_shapeOf fuel (budget + 1) hobject).bind ?_
    rintro shape now ⟨hnow, hleads⟩
    have hbusy := hnow.isBusy h
    -- what comes of the shape, comes of the type
    suffices hshape : Yields _ now fun value? new => background.Comes now new fun table =>
        table.ShapeMember (table.MemberOf (background.maxDepth + 1) name budget)
          (background.maxDepth + 1) (budget + 1) name shape value? by
      refine Yields.get (hshape.imp fun value? new hnew => ⟨hnow.trans hnew.goes, ?_⟩)
      intro last hlast hempty
      rw [TypeTable.MemberOf, (hnew.goes.lasts.trans hlast).shapeWithin_eq hempty hleads]
      exact hnew.inTheEnd last hlast hempty
    have hmember : ∀ now, background.IsBusy now → ∀ id, now.table.Has id → Yields
        (background.typeOfMember (background.infer background.resultOfCall fuel) name budget id)
          now fun value? new => background.Comes now new fun table =>
            table.MemberOf (background.maxDepth + 1) name budget id value? :=
      fun now hnow id hid => ih hnow hid
    have hgiven : ∀ now, background.IsBusy now → ∀ id, now.table.Has id → Yields
        (background.typeOfMember (background.infer background.resultOfCall fuel) name budget id)
          now fun value? new => (background.Comes now new fun table =>
            table.MemberOf (background.maxDepth + 1) name budget id value?) ∧
              ∀ value ∈ value?, new.table.Has value := fun now hnow id hid value? new hrun =>
      ⟨ih hnow hid value? new hrun, (Yields.ofAgrees ((questionsAgree_infer background
        fuel).typeOfMember hnow.closed name budget hid) value? new hrun).has⟩
    have hlater : ∀ {entry : TypeEntry} {new last : Draft}, now.table.get? shape = some entry →
        entry ≠ .unknown → background.Goes now new → Lasts new last →
          last.table.get? shape = some entry := fun hentry hknown hnew hlast =>
      (hnew.lasts.trans hlast).keepsKnown _ _ hentry hknown
    split
    next declaration hentry =>
      refine (hbusy.yields_memberOfDeclared fuel (budget + 1) hmember hentry (by simp) name).imp ?_
      refine fun value? new hnew => ⟨hnew.goes, fun last hlast hempty => ?_⟩
      simp only [TypeTable.ShapeMember, hlater hentry (by simp) hnew.goes hlast]
      exact hnew.inTheEnd last hlast hempty
    next target arguments hentry =>
      have hplaces := hbusy.closed.has_places hentry
      refine (hbusy.yields_shapeOf fuel (budget + 1) (hplaces target List.mem_cons_self)).bind ?_
      rintro base seen ⟨hseen, hbase⟩
      have hseenbusy := hseen.isBusy hbusy
      have hend : ∀ {new last : Draft}, background.Goes seen new → Lasts new last →
          last.deferred.isEmpty = true →
            last.table.get? shape = some (.reference target arguments) ∧
              last.table.shapeWithin (background.maxDepth + 1) target = base :=
        fun hnew hlast hempty => ⟨hlater hentry (by simp) (hseen.trans hnew) hlast,
          (hnew.lasts.trans hlast).shapeWithin_eq hempty hbase⟩
      refine Yields.get ?_
      split
      next declaration hdeclared =>
        refine (hseenbusy.yields_memberOfDeclared fuel (budget + 1) hmember hdeclared
          (fun id hid => hseen.has (hplaces id (List.mem_cons_of_mem _ hid))) name).imp ?_
        refine fun value? new hnew => ⟨hseen.trans hnew.goes, fun last hlast hempty => ?_⟩
        obtain ⟨hreference, hshape⟩ := hend hnew.goes hlast hempty
        have hlast' := (hnew.goes.lasts.trans hlast).keepsKnown _ _ hdeclared (by simp)
        simp only [TypeTable.ShapeMember, hreference, hshape, hlast']
        exact hnew.inTheEnd last hlast hempty
      next entry hother hat =>
        refine (hmember seen hseenbusy base hbase.2).imp ?_
        refine fun value? new hnew => ⟨hseen.trans hnew.goes, fun last hlast hempty => ?_⟩
        obtain ⟨hreference, hshape⟩ := hend hnew.goes hlast hempty
        simp only [TypeTable.ShapeMember, hreference, hshape]
        split
        next declaration hdeclared =>
          -- what is declared in the end has been so before
          have hbefore := (hnew.goes.lasts.trans hlast).get?_eq_some_of_known hbase.2 hdeclared
            (by simp)
          exact (hother declaration (Option.some.inj (hat.symm.trans hbefore))).elim
        next => exact hnew.inTheEnd last hlast hempty
      next hnone =>
        have hhas : base < seen.table.entries.size := hbase.2
        exact absurd hnone (by simp [TypeTable.get?, hhas])
    next members hentry =>
      have hplaces := hbusy.closed.has_places hentry
      rcases hfound : members.find? (·.name == name) with _ | member <;> simp only [hfound]
      · refine Yields.pure ⟨.refl hbusy.closed, fun last hlast _ => ?_⟩
        simp only [TypeTable.ShapeMember, hlast.keepsKnown _ _ hentry (by simp), hfound]
      · have hhas := hplaces _ (List.mem_map_of_mem (List.mem_of_find?_eq_some hfound))
        refine (hbusy.yields_valueOfMember fuel (budget + 1) member.kind hhas).bind ?_
        refine fun value new hnew => Yields.pure ⟨hnew.goes, fun last hlast hempty => ?_⟩
        simp only [TypeTable.ShapeMember, hlater hentry (by simp) hnew.goes hlast, hfound]
        exact ⟨value, rfl, hnew.inTheEnd last hlast hempty⟩
    next members hentry =>
      have hplaces : ∀ id ∈ members, now.table.Has id := hbusy.closed.has_places hentry
      rw [filterMapM_eq_mapM]
      simp only [bind_assoc, pure_bind]
      refine Yields.imp (hbusy.yields_joinResults
        (fun table => table.MemberOf (background.maxDepth + 1) name budget) hplaces hgiven) ?_
      refine fun value? new hnew => ⟨hnew.1.goes, fun last hlast hempty => ?_⟩
      simp only [TypeTable.ShapeMember, hlater hentry (by simp) hnew.1.goes hlast]
      exact hnew.1.inTheEnd last hlast hempty
    next members hentry =>
      have hplaces : ∀ id ∈ members, now.table.Has id := hbusy.closed.has_places hentry
      refine (yields_findSomeM? (.refl hbusy.closed) hplaces
        fun now' hgoes => hmember now' (hgoes.isBusy hbusy)).imp ?_
      refine fun value? new hnew => ⟨hnew.goes, fun last hlast hempty => ?_⟩
      simp only [TypeTable.ShapeMember, hlater hentry (by simp) hnew.goes hlast]
      exact hnew.inTheEnd last hlast hempty
    next hentry =>
      refine Yields.pure ⟨.refl hbusy.closed, fun last hlast _ => ?_⟩
      simp only [TypeTable.ShapeMember, hlast.keepsKnown _ _ hentry (by simp)]
    next hentry =>
      refine Yields.pure ⟨.refl hbusy.closed, fun last hlast _ => ?_⟩
      simp only [TypeTable.ShapeMember, hlast.keepsKnown _ _ hentry (by simp)]
    next hdeclared hreference hobject hunion hintersection harray htuple =>
      refine Yields.pure ⟨.refl hbusy.closed, fun last hlast _ => ?_⟩
      unfold TypeTable.ShapeMember
      rcases hlast.get?_shape hleads.2 with hsame | ⟨-, target, halias⟩
      · rw [hsame]
        split
        next h => exact (hdeclared _ h).elim
        next h => exact (hreference _ _ h).elim
        next h => exact (hobject _ h).elim
        next h => exact (hunion _ h).elim
        next h => exact (hintersection _ h).elim
        next h => exact (harray _ h).elim
        next h => exact (htuple _ h).elim
        next => rfl
      · rw [halias]

/-! ### Calls, elements and promises -/

/-- One step of the search for what a call returns. -/
theorem IsBusy.yields_resultBy (h : background.IsBusy draft) (fuel budget : Nat)
    {again : TypeId → Inference Option (Option TypeId)}
    (hagain : ∀ now, background.IsBusy now → ∀ id, now.table.Has id → Yields (again id) now
      fun value? new => background.Comes now new (fun table =>
        table.ResultOf (background.maxDepth + 1) id value?) ∧ ∀ value ∈ value?, new.table.Has value)
    {callee : TypeId} (hcallee : draft.table.Has callee) :
    Yields (background.resultBy (background.infer background.resultOfCall fuel)
      (fun _ members => joinResults again members) budget callee) draft fun value? new =>
        (background.Comes draft new fun table =>
          table.ResultOf (background.maxDepth + 1) callee value?) ∧
            ∀ value ∈ value?, new.table.Has value := by
  unfold resultBy
  refine (h.yields_shapeOf fuel budget hcallee).bind ?_
  rintro shape now ⟨hnow, hleads⟩
  have hbusy := hnow.isBusy h
  have hshape : ∀ {new last : Draft}, background.Goes now new → Lasts new last →
      last.deferred.isEmpty = true →
        last.table.shapeWithin (background.maxDepth + 1) callee = shape :=
    fun hnew hlast hempty => (hnew.lasts.trans hlast).shapeWithin_eq hempty hleads
  refine Yields.get ?_
  split
  next result hentry =>
    refine (hbusy.yields_settle fuel budget result).bind fun _ new hnew => ?_
    have hresult := hnew.has (hbusy.closed.has_result hentry)
    refine Yields.pure
      ⟨⟨hnow.trans hnew, fun last hlast hempty => .function ?_⟩, by simpa using hresult⟩
    rw [hshape hnew hlast hempty]
    exact (hnew.lasts.trans hlast).keepsKnown _ _ hentry (by simp)
  next members hentry =>
    have hplaces : ∀ id ∈ members, now.table.Has id := hbusy.closed.has_places hentry
    refine (hbusy.yields_joinResults (fun table => table.ResultOf (background.maxDepth + 1)) hplaces
      hagain).imp ?_
    rintro value? new ⟨hnew, hhas⟩
    refine ⟨⟨hnow.trans hnew.goes, fun last hlast hempty => ?_⟩, hhas⟩
    obtain ⟨answers, hanswers, hjoin⟩ := hnew.inTheEnd last hlast hempty
    obtain ⟨hlength, hall⟩ := List.forall₂_iff_zip.mp hanswers
    have hunion : last.table.get? (last.table.shapeWithin (background.maxDepth + 1) callee) =
        some (.union members) := by
      rw [hshape hnew.goes hlast hempty]
      exact (hnew.goes.lasts.trans hlast).keepsKnown _ _ hentry (by simp)
    exact .union hunion hlength.symm (fun pair hpair => hall hpair) hjoin
  next hfunction hunion =>
    refine Yields.pure ⟨⟨hnow, fun last hlast hempty => ?_⟩, by simp⟩
    have hend := hshape (.refl hbusy.closed) hlast hempty
    rcases hlast.get?_shape hleads.2 with hsame | ⟨-, target, halias⟩
    · exact .other (fun result => hend ▸ hsame ▸ hfunction result)
        fun members => hend ▸ hsame ▸ hunion members
    · exact .other (by simp [hend, halias]) (by simp [hend, halias])

/-- **Calling a value of a type** returns what the type returns in the end, if the search for it
comes to an end. -/
theorem IsBusy.yields_resultOfCall (h : background.IsBusy draft) (fuel budget : Nat)
    {callee : TypeId} (hcallee : draft.table.Has callee) :
    Yields (background.resultOfCall (background.infer background.resultOfCall fuel) budget callee)
      draft fun value? new => background.Comes draft new fun table =>
        table.ResultOf (background.maxDepth + 1) callee value? := by
  -- a search that comes to an end does so after finitely many steps: induction over these
  have hpartial := Background.resultOfCall.partial_correctness background
    (background.infer background.resultOfCall fuel)
    fun _ callee draft result => background.IsBusy draft → draft.table.Has callee →
      (background.Comes draft result.2 fun table =>
        table.ResultOf (background.maxDepth + 1) callee result.1) ∧
          ∀ value ∈ result.1, result.2.table.Has value
  intro value? new hrun
  refine (hpartial (fun again hagain budget callee draft result hrun hbusy hhas => ?_)
    budget callee draft (value?, new) hrun h hcallee).1
  refine hbusy.yields_resultBy fuel budget ?_ hhas result.1 result.2 hrun
  exact fun now hnow id hid type? last hlast =>
    hagain (budget - 1) id now (type?, last) hlast hnow hid

theorem IsBusy.yields_elementType (h : background.IsBusy draft) (fuel budget : Nat)
    {object : TypeId} (hobject : draft.table.Has object) :
    Yields (background.elementType (background.infer background.resultOfCall fuel) budget object)
      draft fun value? new => background.Comes draft new fun table =>
        value? = table.elementOf? (background.maxDepth + 1) object := by
  simp only [elementType]
  refine (h.yields_shapeOf fuel budget hobject).bind ?_
  rintro shape now ⟨hnow, hleads⟩
  refine Yields.get ?_
  split
  next element hentry =>
    refine Yields.pure ⟨hnow, fun last hlast hempty => ?_⟩
    simp only [TypeTable.elementOf?, hlast.shapeWithin_eq hempty hleads,
      hlast.keepsKnown _ _ hentry (by simp)]
  next hother =>
    refine Yields.pure ⟨hnow, fun last hlast hempty => ?_⟩
    simp only [TypeTable.elementOf?, hlast.shapeWithin_eq hempty hleads]
    rcases hlast.get?_shape hleads.2 with hsame | ⟨-, target, halias⟩
    · rw [hsame]
      split
      next element hentry => exact (hother element hentry).elim
      next => rfl
    · rw [halias]

theorem IsBusy.yields_awaitedType (h : background.IsBusy draft) (fuel budget : Nat) {type : TypeId}
    (htype : draft.table.Has type) :
    Yields (background.awaitedType (background.infer background.resultOfCall fuel) budget type)
      draft fun value new => background.Comes draft new fun table =>
        value = table.awaitedOf (background.maxDepth + 1) type := by
  simp only [awaitedType]
  refine (h.yields_shapeOf fuel budget htype).bind ?_
  rintro shape now ⟨hnow, hleads⟩
  have hbusy := hnow.isBusy h
  refine Yields.get ?_
  split
  next target arguments hentry =>
    -- the target of a reference is settled, so that it is in the end what it is now
    have htarget := (hbusy.closed.entries shape _ hentry).2 target arguments rfl
    have hend : ∀ {last : Draft}, Lasts now last → last.deferred.isEmpty = true →
        last.table.awaitedOf (background.maxDepth + 1) type =
          match now.table.get? target with
          | some (.declared declaration) =>
            if declaration.name == "Promise" then arguments.head?.getD .unknown else type
          | _ => type := fun hlast hempty => by
      simp only [TypeTable.awaitedOf, hlast.shapeWithin_eq hempty hleads,
        hlast.keepsKnown _ _ hentry (by simp), hlast.get?_eq target htarget]
    split
    next declaration hdeclared =>
      refine Yields.pure ⟨hnow, fun last hlast hempty => ?_⟩
      rw [hend hlast hempty, hdeclared]
    next hother =>
      refine Yields.pure ⟨hnow, fun last hlast hempty => ?_⟩
      rw [hend hlast hempty]
      split
      next declaration hdeclared => exact (hother declaration hdeclared).elim
      next => rfl
  next hother =>
    refine Yields.pure ⟨hnow, fun last hlast hempty => ?_⟩
    simp only [TypeTable.awaitedOf, hlast.shapeWithin_eq hempty hleads]
    rcases hlast.get?_shape hleads.2 with hsame | ⟨-, target, halias⟩
    · rw [hsame]
      split
      next target arguments hentry => exact (hother target arguments hentry).elim
      next => rfl
    · rw [halias]

/-! ### Expressions that are answered in their turn -/

/-- What is read from the type of a part. -/
def read (background : Background) (fuel : Nat) (type : TypeId) :
    Access → Inference Option (Option TypeId)
  | .member name =>
    background.typeOfMember (background.infer background.resultOfCall fuel) name background.maxDepth
      type
  | .element =>
    background.elementType (background.infer background.resultOfCall fuel) background.maxDepth type
  | .result =>
    background.resultOfCall (background.infer background.resultOfCall fuel) background.maxDepth type
  | .awaited =>
    some <$> background.awaitedType (background.infer background.resultOfCall fuel)
      background.maxDepth type

/-- **Reading from a type** gives what is read from it in the end. -/
theorem IsBusy.yields_read (h : background.IsBusy draft) (fuel : Nat) {type : TypeId}
    (htype : draft.table.Has type) (access : Access) :
    Yields (background.read fuel type access) draft fun value? new => background.Comes draft new
      fun table => table.Reads background.maxDepth type access value? := by
  cases access with
  | member name => exact h.yields_typeOfMember fuel name background.maxDepth htype
  | element => exact h.yields_elementType fuel background.maxDepth htype
  | result => exact h.yields_resultOfCall fuel background.maxDepth htype
  | awaited =>
    simp only [read, map_eq_pure_bind]
    refine (h.yields_awaitedType fuel background.maxDepth htype).bind fun value new hnew => ?_
    exact Yields.pure (hnew.imp fun _ hvalue => congrArg some hvalue)

/-- An expression that reads from the type of a part reads from the answer to it. -/
theorem run_typeOfExpression_of_access? {node part : NodeId} {access : Access}
    (haccess : background.tree.access? node = some (access, part)) {fuel : Nat} {type : TypeId}
    (hpart : draft.inferred[part]? = some (some type)) :
    (background.typeOfExpression (background.infer background.resultOfCall fuel)
      (background.resultOfCall (background.infer background.resultOfCall fuel)) background.maxDepth
      node).run draft = (background.read fuel type access).run draft := by
  unfold SyntaxTree.access? at haccess
  unfold typeOfExpression
  split at haccess
  next object property hconstruct =>
    obtain ⟨name, hname, haccess⟩ := Option.map_eq_some_iff.mp haccess
    obtain ⟨rfl, rfl⟩ := Prod.mk.inj haccess
    simp only [hconstruct, hname]
    exact run_ofPart_eq hpart _
  next object index hconstruct =>
    obtain ⟨rfl, rfl⟩ := Prod.mk.inj (Option.some.inj haccess)
    simp only [hconstruct]
    exact run_ofPart_eq hpart _
  next callee arguments hconstruct =>
    obtain ⟨rfl, rfl⟩ := Prod.mk.inj (Option.some.inj haccess)
    simp only [hconstruct]
    exact run_ofPart_eq hpart _
  next argument hconstruct =>
    obtain ⟨rfl, rfl⟩ := Prod.mk.inj (Option.some.inj haccess)
    simp only [hconstruct]
    rw [run_ofPart_eq hpart, read, map_eq_pure_bind]
  next => cases haccess

/-- Noting an answer takes nothing away. -/
theorem lasts_note (draft : Draft) (node : NodeId) (type? : Option TypeId) :
    Lasts draft { draft with
      inProgress := draft.inProgress.erase node
      inferred := draft.inferred.insert node type? } where
  get?_eq _ _ := rfl
  found _ := .inl
  keepsKnown _ _ hentry _ := hentry
  shape hshape _ := (settledShape?_note draft node type? _ _).trans hshape
  isSettled := id

/-- **In a finished draft, an expression that is answered in its turn** has the type that is read
from the type of its part. -/
theorem reads_of_finish (hprelude : background.prelude.IsClosed)
    (hlinked : background.tree.Linked)
    (h : background.finish background.resultOfCall = some draft)
    (hdeferred : draft.deferred.isEmpty = true) {node part : NodeId} {access : Access}
    (haccess : background.tree.access? node = some (access, part))
    (hturn : background.AnswersInTurn node) {type : TypeId}
    (hpart : draft.inferred[part]? = some (some type)) :
    draft.table.Reads background.maxDepth type access (draft.bindings.nodeTypes[node]?) := by
  obtain ⟨now, new, hturn⟩ := exists_turn_of_finish hprelude hlinked h hturn
  have hbefore : now.inferred[part]? = some (some type) := by
    obtain ⟨construct, hconstruct, hname, hmem⟩ := SyntaxTree.exists_construct_of_access? haccess
    exact hturn.parts construct hconstruct hname part hmem type hpart
  obtain ⟨answer, hquestion⟩ := hturn.asked
  obtain ⟨_, hrest⟩ := hturn.rest
  have hbegun : background.IsBusy { now with inProgress := node :: now.inProgress } :=
    ⟨(Move.begins hturn.reached hturn.unanswered (by simp [hturn.idle])).isSound hturn.sound,
      { hturn.closed with }, by simp⟩
  have hanswer : Yields (background.question background.resultOfCall background.budget node) now
      fun _ new => ∃ type?, new.inferred[node]? = some type? ∧ Finally new fun table =>
        table.Reads background.maxDepth type access type? := by
    refine yields_question hturn.idle (absurd hturn.unanswered) fun _ type? typed hrun => ?_
    rw [run_typeOfExpression_of_access? haccess (by exact hbefore)] at hrun
    have hcomes :=
      hbegun.yields_read _ (hturn.closed.inferred part type hbefore) access type? typed hrun
    exact ⟨type?, by simp,
      fun last hlast => hcomes.inTheEnd last ((lasts_note typed node type?).trans hlast)⟩
  obtain ⟨type?, hnoted, hreads⟩ := hanswer answer new hquestion
  obtain ⟨_, htyped⟩ := hturn.typed
  have hreads := hreads draft (.of_passes hrest (htyped.isSound hturn.sound)) hdeferred
  rwa [draft.getElem?_nodeTypes, hrest.course.inferred_eq_some hnoted, Option.getD_some]

end Background

end StreamLint
