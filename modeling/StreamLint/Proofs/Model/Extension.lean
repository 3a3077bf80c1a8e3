import StreamLint.Model.Inference
import StreamLint.Proofs.Model.Closed
/-!
# Steps that only put types at the end of the table

Resolving a written type, joining types, seeing a type through arguments and listing the members of
a class all do one thing to a draft: they put types at the end of its table, some of them to be
found out later. Whatever the draft, nothing that was there has changed after such a step
(`StreamLint.Background.Extends`), and no hypothesis on the draft is needed to say so; that is why
it is said of the step as such (`StreamLint.Background.Adds`), by one rule for steps one after the
other.

References are the one kind of type about which more has to be known: what they refer to is settled.
An extension keeps that up (`StreamLint.Background.Refers`), since a reference is made of a declared
name or of another reference.
-/

namespace StreamLint

namespace Background

/-- What the names of types and the references of a draft refer to is settled. -/
structure Refers (background : Background) (draft : Draft) : Prop where
  /-- The names refer to settled types. -/
  names : ∀ (name : String) (id : TypeId), background.typeNamed? draft name = some id →
    draft.IsSettled id
  /-- The references refer to settled types. -/
  references : ∀ (id target : TypeId) (arguments : List TypeId),
    draft.table.get? id = some (.reference target arguments) → draft.IsSettled target

/-- **A step that only puts types at the end of the table**, some of which are to be found out from
sources of the given kind. -/
structure Extends (background : Background) (sources : Deferred → Prop) (old new : Draft) :
    Prop where
  /-- No place is given up. -/
  size_le : old.table.size ≤ new.table.size
  /-- A type in use is as it was. -/
  get?_eq : ∀ id : Nat, old.table.Has id → new.table.get? id = old.table.get? id
  /-- A type in use is still to be found out, or still settled. -/
  deferred_eq : ∀ id : Nat, old.table.Has id → new.deferred[id]? = old.deferred[id]?
  /-- What is newly to be found out reads as unknown, at a new place. -/
  deferred : ∀ (id : TypeId) (source : Deferred), new.deferred[id]? = some source →
    old.deferred[id]? = some source ∨
      ¬old.table.Has id ∧ new.table.get? id = some .unknown ∧ sources source
  /-- Names and references go on referring to settled types. -/
  refers : background.Refers old → background.Refers new
  /-- All else is as it was. -/
  rest : new = { old with table := new.table, deferred := new.deferred }

/-- The step only puts types at the end of the table, whatever the draft. -/
def Adds (background : Background) (sources : Deferred → Prop) {α : Type}
    (action : StateM Draft α) : Prop :=
  ∀ draft, background.Extends sources draft (action.run draft).2

variable {background : Background} {sources : Deferred → Prop} {draft old new a b c : Draft}

/-! ### Extensions -/

namespace Extends

theorem refl (draft : Draft) : background.Extends sources draft draft where
  size_le := Nat.le_refl _
  get?_eq _ _ := rfl
  deferred_eq _ _ := rfl
  deferred _ _ := .inl
  refers := id
  rest := rfl

theorem has (h : background.Extends sources old new) {id : Nat} (hid : old.table.Has id) :
    new.table.Has id :=
  hid.mono h.size_le

theorem isSettled (h : background.Extends sources old new) {id : Nat} (hid : old.IsSettled id) :
    new.IsSettled id :=
  ⟨h.has hid.1, (h.deferred_eq id hid.1).trans hid.2⟩

theorem get?_eq_some (h : background.Extends sources old new) {id : Nat} {entry : TypeEntry}
    (hentry : old.table.get? id = some entry) : new.table.get? id = some entry :=
  (h.get?_eq id (TypeTable.has_of_get? hentry)).trans hentry

theorem trans (hab : background.Extends sources a b) (hbc : background.Extends sources b c) :
    background.Extends sources a c where
  size_le := Nat.le_trans hab.size_le hbc.size_le
  get?_eq id hid := (hbc.get?_eq id (hab.has hid)).trans (hab.get?_eq id hid)
  deferred_eq id hid := (hbc.deferred_eq id (hab.has hid)).trans (hab.deferred_eq id hid)
  deferred id source hsource := by
    rcases hbc.deferred id source hsource with hold | ⟨hnew, hunknown, hsources⟩
    · refine (hab.deferred id source hold).imp_right ?_
      rintro ⟨hnew, hunknown, hsources⟩
      exact ⟨hnew, hbc.get?_eq_some hunknown, hsources⟩
    · exact .inr ⟨fun hid => hnew (hab.has hid), hunknown, hsources⟩
  refers h := hbc.refers (hab.refers h)
  rest := by
    have ha := hab.rest
    have hb := hbc.rest
    rw [ha] at hb
    exact hb

theorem typeNames_eq (h : background.Extends sources old new) : new.typeNames = old.typeNames := by
  rw [h.rest]

theorem typeParams_eq (h : background.Extends sources old new) :
    new.typeParams = old.typeParams := by
  rw [h.rest]

theorem inferred_eq (h : background.Extends sources old new) : new.inferred = old.inferred := by
  rw [h.rest]

theorem inProgress_eq (h : background.Extends sources old new) :
    new.inProgress = old.inProgress := by
  rw [h.rest]

/-- Putting a type at the end of the table in the end; what it refers to, if it is a reference, is
settled then. -/
theorem push (h : background.Extends sources old draft) {data : TypeEntry}
    (hdata : ∀ target arguments, data = .reference target arguments →
      background.Refers old → draft.IsSettled target) :
    background.Extends sources old ((Draft.push data).run draft).2 := by
  let table := (draft.table.push data).2
  have hsize : draft.table.size ≤ table.size := by
    rw [TypeTable.size_push]
    exact Nat.le_succ _
  have hsettled : ∀ id : Nat, draft.IsSettled id → ({ draft with table } : Draft).IsSettled id :=
    fun id hid => ⟨hid.1.mono hsize, hid.2⟩
  have hget : ∀ id : Nat, draft.table.Has id → table.get? id = draft.table.get? id :=
    fun id hid => TypeTable.get?_push_of_lt hid
  refine ⟨Nat.le_trans h.size_le hsize,
    fun id hid => (hget id (h.has hid)).trans (h.get?_eq id hid), h.deferred_eq, fun id source hsource => ?_, fun hrefers =>
      ⟨fun name id hid => hsettled id ((h.refers hrefers).names name id hid),
        fun id target arguments hentry => ?_⟩, ?_⟩
  · refine (h.deferred id source hsource).imp_right ?_
    rintro ⟨hnew, hunknown, hsources⟩
    exact ⟨hnew, (hget id (TypeTable.has_of_get? hunknown)).trans hunknown, hsources⟩
  -- a reference was there before, or it is the new type
  · rcases TypeTable.get?_push_eq_some hentry with hold | heq
    · exact hsettled target ((h.refers hrefers).references id target arguments hold)
    · exact hsettled target (hdata target arguments heq.symm hrefers)
  · have hrest := h.rest
    exact congrArg (fun now : Draft => { now with table }) hrest

/-- Putting a type at the end of the table that is no reference. -/
theorem push_other {data : TypeEntry}
    (hdata : ∀ target arguments, data ≠ .reference target arguments) :
    background.Extends sources draft ((Draft.push data).run draft).2 :=
  (refl draft).push fun target arguments heq => absurd heq (hdata target arguments)

/-- Taking a place for a type that is to be found out later. -/
theorem defer {source : Deferred} (hsource : sources source) :
    background.Extends sources draft ((Draft.defer source).run draft).2 := by
  have hpush : background.Extends sources draft ((Draft.push .unknown).run draft).2 :=
    push_other (by simp)
  -- only the new place is to be found out in addition
  have hkeys : ∀ id : Nat, id ≠ draft.table.size →
      (draft.deferred.insert draft.table.size source)[id]? = draft.deferred[id]? := by
    intro id hne
    rw [Std.TreeMap.getElem?_insert, if_neg (by simpa using Ne.symm hne)]
  have hkept : ∀ id : Nat, draft.table.Has id →
      (draft.deferred.insert draft.table.size source)[id]? = draft.deferred[id]? :=
    fun id hid => hkeys id (Nat.ne_of_lt hid)
  have hsettled : ∀ id : Nat, draft.IsSettled id →
      ((Draft.defer source).run draft).2.IsSettled id :=
    fun id hid => ⟨hpush.has hid.1, (hkept id hid.1).trans hid.2⟩
  refine ⟨hpush.size_le, hpush.get?_eq, hkept, fun id source' hsource' => ?_,
    fun hrefers => ⟨fun name id hid => hsettled id (hrefers.names name id hid),
      fun id target arguments hentry => ?_⟩, rfl⟩
  · by_cases heq : id = draft.table.size
    · subst heq
      have hsame : source = source' := by
        have hat : (draft.deferred.insert draft.table.size source)[draft.table.size]? =
          some source' := hsource'
        simpa using hat
      exact .inr ⟨Nat.lt_irrefl _, TypeTable.get?_push .., hsame ▸ hsource⟩
    · exact .inl ((hkeys id heq).symm.trans hsource')
  · rcases TypeTable.get?_push_eq_some hentry with hold | heq
    · exact hsettled target (hrefers.references id target arguments hold)
    · cases heq

end Extends

/-! ### Steps that only add -/

namespace Adds

variable {α β : Type}

theorem pure (value : α) : background.Adds sources (pure value) :=
  fun draft => .refl draft

/-- **Steps one after the other.** -/
theorem bind {action : StateM Draft α} {next : α → StateM Draft β}
    (h : background.Adds sources action) (hnext : ∀ value, background.Adds sources (next value)) :
    background.Adds sources (action >>= next) :=
  fun draft => (h draft).trans (hnext _ _)

/-- What holds after a step that only adds. -/
theorem after {action : StateM Draft α} (h : background.Adds sources action) (draft : Draft) :
    Draft.After action draft fun _ new => background.Extends sources draft new :=
  h draft

/-- Looking at the draft. -/
theorem get {next : Draft → StateM Draft β} (hnext : ∀ now, background.Adds sources (next now)) :
    background.Adds sources (get >>= next) :=
  fun draft => hnext draft draft

/-- Putting a type at the end of the table that is no reference. -/
theorem push {data : TypeEntry} (hdata : ∀ target arguments, data ≠ .reference target arguments) :
    background.Adds sources (Draft.push data) :=
  fun _ => .push_other hdata

theorem defer {source : Deferred} (hsource : sources source) :
    background.Adds sources (Draft.defer source) :=
  fun _ => .defer hsource

/-- Steps that are followed by putting what they give at the end of the table. -/
theorem push_bind {action : StateM Draft α} {entry : α → TypeEntry}
    (h : background.Adds sources action)
    (hentry : ∀ value target arguments, entry value ≠ .reference target arguments) :
    background.Adds sources (action >>= fun value => Draft.push (entry value)) :=
  h.bind fun value => push (hentry value)

end Adds

/-! ### Written types -/

theorem adds_resolveName (name : String) (arguments : List TypeId) :
    background.Adds sources (background.resolveName name arguments) := by
  intro draft
  simp only [resolveName]
  split
  · exact .push_other (by simp)
  simp only [StateT.run_bind, StateT.run_get, pure_bind]
  split
  next target htarget =>
    split
    · exact .refl draft
    · refine (Extends.refl draft).push ?_
      -- what a name refers to is settled
      rintro _ _ ⟨⟩ hrefers
      exact hrefers.names name target htarget
  next => exact .push_other (by simp)

mutual

/-- **Resolving a written type.** -/
theorem adds_resolve (site : NodeId) (type : TypeExpr) :
    background.Adds sources (background.resolve site type) := by
  cases type with
  | keyword k =>
    simp only [resolve]
    split
    · exact .pure _
    · exact .push (by simp)
  | literal kind => exact .pure _
  | named name arguments =>
    simp only [resolve]
    refine .get fun now => ?_
    split
    · exact .pure _
    · exact (adds_resolveEach site arguments).bind (adds_resolveName name)
  | union members => exact (adds_resolveEach site members).push_bind (by simp)
  | intersection members => exact (adds_resolveEach site members).push_bind (by simp)
  | array element => exact (adds_resolve site element).push_bind (by simp)
  | tuple elements => exact (adds_resolveEach site elements).push_bind (by simp)
  | function returnType => exact (adds_resolve site returnType).push_bind (by simp)
  | object members => exact (adds_resolveMembers site members).push_bind (by simp)
  | unsupported text => exact .pure _

theorem adds_resolveEach (site : NodeId) (types : List TypeExpr) :
    background.Adds sources (background.resolveEach site types) := by
  cases types with
  | nil => exact .pure _
  | cons type rest =>
    exact (adds_resolve site type).bind fun id => (adds_resolveEach site rest).bind fun _ => .pure _

theorem adds_resolveMembers (site : NodeId) (members : List (Member TypeExpr)) :
    background.Adds sources (background.resolveMembers site members) := by
  cases members with
  | nil => exact .pure _
  | cons member rest =>
    obtain ⟨name, kind, type⟩ := member
    exact (adds_resolve site type).bind fun id =>
      (adds_resolveMembers site rest).bind fun _ => .pure _

end

/-- What is written is resolved; what is not is found out later from the source. -/
theorem adds_resolveOrDefer {source? : Option Deferred}
    (hsource : ∀ source ∈ source?, sources source) (written : Option TypeExpr) (site : NodeId) :
    background.Adds sources (background.resolveOrDefer written source? site) := by
  match written, source? with
  | some type, _ => exact adds_resolve site type
  | none, some source => exact .defer (hsource source rfl)
  | none, none => exact .pure _

theorem adds_typeOfNew (node callee : NodeId) (written : List TypeExpr) :
    background.Adds sources (background.typeOfNew node callee written) := by
  simp only [typeOfNew]
  split
  · exact .pure _
  next name _ =>
    refine (adds_resolveEach node written).bind fun arguments now => ?_
    simp only [StateT.run_bind, StateT.run_get, pure_bind]
    split
    next target htarget =>
      split
      · exact .refl now
      · refine (Extends.refl now).push ?_
        rintro _ _ ⟨⟩ hrefers
        exact hrefers.names name target htarget
    next => exact .push_other (by simp)

theorem adds_typeOfFunction {node : NodeId} {returnType : Option TypeExpr} {body : Option NodeId}
    (hbody : ∀ inner ∈ body, sources (.body inner)) :
    background.Adds sources (background.typeOfFunction node returnType body) := by
  have hsource : ∀ source ∈ body.map Deferred.body, sources source := by
    intro source hsource
    obtain ⟨inner, hinner, rfl⟩ := Option.map_eq_some_iff.mp (Option.mem_def.mp hsource)
    exact hbody inner hinner
  exact (adds_resolveOrDefer hsource returnType node).bind fun result =>
    (Adds.push (by simp)).bind fun _ => .pure _

/-! ### Joined types, and types seen through arguments -/

theorem adds_joinTypes (types : List TypeId) : background.Adds sources (joinTypes types) := by
  unfold joinTypes
  split
  · exact .pure _
  · exact .pure _
  · exact (Adds.push (by simp)).bind fun _ => .pure _

theorem Adds.mapM {step : TypeId → StateM Draft TypeId}
    (hstep : ∀ id, background.Adds sources (step id)) (ids : List TypeId) :
    background.Adds sources (ids.mapM step) := by
  induction ids with
  | nil => exact .pure _
  | cons first rest ih =>
    rw [List.mapM_cons]
    exact (hstep first).bind fun id => ih.bind fun _ => .pure _

/-- Steps that are followed by putting what they give at the end of the table, unless that is what
stands at a place. -/
theorem extends_renewed {α : Type} {action : StateM Draft α} {entry : α → TypeEntry} {type : TypeId}
    (h : background.Adds sources action)
    (hentry : ∀ value target arguments, entry value = .reference target arguments →
      background.Refers draft → draft.IsSettled target) :
    Draft.After (do
      let value ← action
      if (← get).table.get? type == some (entry value) then pure type
      else Draft.push (entry value)) draft fun _ new => background.Extends sources draft new := by
  have haction : Draft.After action draft fun _ now => background.Extends sources draft now :=
    h draft
  refine haction.bind fun value now hnow => Draft.After.get ?_
  split
  · exact hnow
  -- what is referred to in the end was settled from the start
  · exact hnow.push fun target arguments heq hrefers =>
      hnow.isSettled (hentry value target arguments heq hrefers)

theorem adds_substitute (params arguments : List TypeId) (budget : Nat) (type : TypeId) :
    background.Adds sources (substitute params arguments budget type) := by
  induction budget generalizing type with
  | zero => exact .pure _
  | succ budget ih =>
    simp only [substitute]
    split
    · exact .pure _
    split
    · exact .pure _
    intro draft
    simp only [StateT.run_bind, StateT.run_get, pure_bind]
    have hinner := Adds.mapM ih
    split
    next target inner hentry =>
      refine extends_renewed (hinner inner) ?_
      rintro types _ _ ⟨⟩ hrefers
      exact hrefers.references type target inner hentry
    next members _ => exact extends_renewed (hinner members) (by simp)
    next members _ => exact extends_renewed (hinner members) (by simp)
    next element _ => exact extends_renewed (ih element) (by simp)
    next result _ => exact extends_renewed (ih result) (by simp)
    next => exact .refl draft

end Background

end StreamLint
