import StreamLint.Proofs.Model.Loop
/-!
# Settling, members and expressions agree

Everything that is done while a model is made, the search for what a call returns apart, is made of
questions for the types of expressions and of steps on the draft. So if the questions of a guarded
computation and of the plain one agree (`StreamLint.Background.QuestionsAgree`), then so do settling
a type, following it, looking for a member, and typing an expression, one lemma for each.

What holds afterwards is that the draft only grew, and that the answer has a place in it. After
settling, the type is settled; after following a type, its shape is read off the draft by
`StreamLint.Draft.settledShape?`.
-/

namespace StreamLint

/-- A question without budget is answered by what has been found out before. -/
def Question.Recalls {m : Type → Type} [Monad m] (ask : Question (Inference m)) : Prop :=
  ∀ node draft, (ask 0 node).run draft = pure ((draft.inferred[node]?).getD none, draft)

namespace Background

open Draft

/-- How many steps are taken from a type to what it stands for in the end. -/
def steps (background : Background) : Nat :=
  background.maxDepth + 1

/-- The questions of a guarded computation agree with those of a plain one. -/
structure QuestionsAgree (background : Background) (guarded : Question (Inference (Except Loop)))
    (plain : Question (Inference Option)) : Prop where
  /-- The answers agree. -/
  agrees : ∀ (draft : Draft), draft.IsClosed background.prelude → ∀ budget node,
    Agrees background.steps (guarded budget node) (plain budget node) draft
      (draft.Gives background.prelude)
  /-- Without budget nothing is found out. -/
  guarded_recalls : guarded.Recalls
  /-- Without budget nothing is found out. -/
  plain_recalls : plain.Recalls

namespace QuestionsAgree

variable {background : Background} {guarded : Question (Inference (Except Loop))}
  {plain : Question (Inference Option)} {draft : Draft}

/-! ### Settling -/

theorem typesOf (h : background.QuestionsAgree guarded plain)
    (hdraft : draft.IsClosed background.prelude) (budget : Nat) (nodes : List NodeId) :
    Agrees background.steps (typesOf guarded budget nodes) (typesOf plain budget nodes) draft
      (draft.Gives background.prelude) := by
  induction nodes generalizing draft with
  | nil => exact Agrees.pure ⟨hdraft.refl, by simp⟩
  | cons node rest ih =>
    simp only [Background.typesOf]
    refine (h.agrees draft hdraft budget node).bind ?_
    rintro first new ⟨hnew, hfirst⟩
    refine (ih hnew.closed).bind ?_
    rintro others last ⟨hlast, hothers⟩
    refine Agrees.pure ⟨hnew.trans hlast, fun type htype => ?_⟩
    rcases List.mem_append.mp htype with htype | htype
    · exact hlast.has (hfirst type (Option.mem_toList.mp htype))
    · exact hothers type htype

theorem joinTypes {old : Draft} (hold : old.Grows background.prelude draft) {types : List TypeId}
    (htypes : ∀ type ∈ types, draft.table.Has type) :
    Agrees background.steps (liftM (joinTypes types)) (liftM (joinTypes types)) draft
      (old.Gives background.prelude) :=
  (Agrees.lift (hold.closed.after_joinTypes htypes)).imp
    fun _ _ => hold.gives

theorem typeOfBody (h : background.QuestionsAgree guarded plain)
    (hdraft : draft.IsClosed background.prelude) (budget : Nat) (body : NodeId) :
    Agrees background.steps (background.typeOfBody guarded budget body)
      (background.typeOfBody plain budget body) draft (draft.Gives background.prelude) := by
  simp only [Background.typeOfBody]
  split
  · split
    · have hvoid := hdraft.intrinsic (show TypeId.void < _ by decide)
      exact Agrees.pure (hdraft.refl.gives_some hvoid.1)
    · refine (h.typesOf hdraft budget _).bind ?_
      rintro types new ⟨hnew, htypes⟩
      exact joinTypes hnew htypes
  · exact h.agrees draft hdraft budget body

theorem typeOfDeferred (h : background.QuestionsAgree guarded plain)
    (hdraft : draft.IsClosed background.prelude) (budget : Nat) (source : Deferred) :
    Agrees background.steps (background.typeOfDeferred guarded budget source)
      (background.typeOfDeferred plain budget source) draft (draft.Gives background.prelude) := by
  cases source with
  | expression node => exact h.agrees draft hdraft budget node
  | body node => exact h.typeOfBody hdraft budget node

/-- **Settling a type** leaves it settled. -/
theorem settle (h : background.QuestionsAgree guarded plain)
    (hdraft : draft.IsClosed background.prelude) (budget : Nat) (type : TypeId) :
    Agrees background.steps (background.settle guarded budget type)
      (background.settle plain budget type) draft fun _ new =>
        draft.Grows background.prelude new ∧ new.deferred[type]? = none := by
  simp only [Background.settle]
  refine Agrees.get ?_
  split
  next hnone => exact Agrees.pure ⟨hdraft.refl, hnone⟩
  next source hsource =>
    -- the type is struck off, then found out, and defined in the end: between these it is settled
    -- but still unknown
    have hopen : draft.deferred[type]? ≠ none := by simp [hsource]
    have herased := hdraft.grows_erase type
    have htype : ({ draft with deferred := draft.deferred.erase type } : Draft).IsSettled type :=
      ⟨TypeTable.has_of_get? (hdraft.deferred type source hsource), by simp⟩
    refine Agrees.modify ?_
    refine (h.typeOfDeferred herased.closed budget source).bind fun target? new hnew => ?_
    obtain ⟨hnew, htarget⟩ := hnew
    have hdefine : ∀ data : TypeEntry, new.Admits data →
        Agrees background.steps (liftM (Draft.define type data)) (liftM (Draft.define type data))
          new fun _ last => draft.Grows background.prelude last ∧ last.deferred[type]? = none :=
      fun data hdata => Agrees.lift
        ((herased.trans hnew).trans_define hdata (hnew.settled type htype).2 hopen)
    split
    · split
      · exact hdefine _ admits_unknown
      · refine hdefine _ (admits_of_places ?_ (by simp))
        simpa [TypeEntry.places] using htarget _ rfl
    · exact hdefine _ admits_unknown

/-! ### Shapes -/

/-- Following a type leads to its shape, over settled types. -/
theorem shapeWithin (h : background.QuestionsAgree guarded plain)
    (hdraft : draft.IsClosed background.prelude) (budget : Nat) (steps : Nat) {type : TypeId}
    (htype : draft.table.Has type) :
    Agrees background.steps (background.shapeWithin guarded budget steps type)
      (background.shapeWithin plain budget steps type) draft fun shape new =>
        draft.Grows background.prelude new ∧ new.table.Has shape ∧
          new.settledShape? steps type = some shape := by
  induction steps generalizing draft type with
  | zero => exact Agrees.pure ⟨hdraft.refl, htype, rfl⟩
  | succ steps ih =>
    simp only [Background.shapeWithin]
    refine (h.settle hdraft budget type).bind ?_
    rintro _ new ⟨hnew, hsettled⟩
    refine Agrees.get ?_
    have hhas := hnew.has htype
    split
    next next hnext =>
      split
      next hself =>
        refine Agrees.pure ⟨hnew, hhas, ?_⟩
        simp only [settledShape?, hsettled, hnext, if_pos hself]
      next hother =>
        have hnexthas := hnew.closed.has_standsFor? hnext
        refine (ih hnew.closed hnexthas).imp ?_
        rintro shape last ⟨hlast, hshape, hlastshape⟩
        refine ⟨hnew.trans hlast, hshape, ?_⟩
        -- what is settled on the way leaves the first step as it was
        have hstands := hlast.standsFor?_eq hnew.closed ⟨hhas, hsettled⟩
        simp only [settledShape?, (hlast.settled type ⟨hhas, hsettled⟩).2, hstands, hnext,
          if_neg hother, hlastshape]
    next hnone =>
      refine Agrees.pure ⟨hnew, hhas, ?_⟩
      simp only [settledShape?, hsettled, hnone]

theorem shapeOf (h : background.QuestionsAgree guarded plain)
    (hdraft : draft.IsClosed background.prelude) (budget : Nat) {type : TypeId}
    (htype : draft.table.Has type) :
    Agrees background.steps (background.shapeOf guarded budget type)
      (background.shapeOf plain budget type) draft fun shape new =>
        draft.Grows background.prelude new ∧ new.table.Has shape ∧
          new.settledShape? background.steps type = some shape :=
  h.shapeWithin hdraft budget background.steps htype

/-! ### Members -/

theorem valueOfMember (h : background.QuestionsAgree guarded plain)
    (hdraft : draft.IsClosed background.prelude) (budget : Nat) (kind : MemberKind) {type : TypeId}
    (htype : draft.table.Has type) :
    Agrees background.steps (background.valueOfMember guarded budget kind type)
      (background.valueOfMember plain budget kind type) draft fun value new =>
        draft.Grows background.prelude new ∧ new.table.Has value := by
  simp only [Background.valueOfMember]
  refine (h.settle hdraft budget type).bind ?_
  rintro _ new ⟨hnew, _⟩
  split
  · exact Agrees.pure ⟨hnew, hnew.has htype⟩
  · refine Agrees.lift (hnew.trans_push (admits_of_places ?_ (by simp)))
    simpa [TypeEntry.places] using hnew.has htype

/-- The first answer to a question that is put to every member of a list. -/
theorem findSomeM? {guardedStep : TypeId → Inference (Except Loop) (Option TypeId)}
    {plainStep : TypeId → Inference Option (Option TypeId)} {prelude : Prelude} {steps : Nat}
    (hdraft : draft.IsClosed prelude) {ids : List TypeId} (hids : ∀ id ∈ ids, draft.table.Has id)
    (hstep : ∀ now : Draft, draft.Grows prelude now → ∀ id ∈ ids, now.table.Has id →
      Agrees steps (guardedStep id) (plainStep id) now (now.Gives prelude)) :
    Agrees steps (ids.findSomeM? guardedStep) (ids.findSomeM? plainStep) draft
      (draft.Gives prelude) := by
  induction ids generalizing draft with
  | nil => exact Agrees.pure ⟨hdraft.refl, by simp⟩
  | cons first rest ih =>
    simp only [List.findSomeM?]
    have hfirst := hids first List.mem_cons_self
    -- an answer ends the search; without one the draft has grown all the same
    refine (hstep draft hdraft.refl first List.mem_cons_self hfirst).bind ?_
    rintro type? new ⟨hnew, htype⟩
    cases type? with
    | some type => exact Agrees.pure ⟨hnew, htype⟩
    | none =>
      have hrest : ∀ id ∈ rest, new.table.Has id :=
        fun id hid => hnew.has (hids id (List.mem_cons_of_mem _ hid))
      refine (ih hnew.closed hrest ?_).imp ?_
      · intro now hnow id hid
        exact hstep now (hnew.trans hnow) id (List.mem_cons_of_mem _ hid)
      · exact fun _ _ => hnew.gives

theorem memberOfDeclared (h : background.QuestionsAgree guarded plain)
    (hdraft : draft.IsClosed background.prelude) (budget : Nat)
    {guardedMember : TypeId → Inference (Except Loop) (Option TypeId)}
    {plainMember : TypeId → Inference Option (Option TypeId)}
    (hmember : ∀ now : Draft, now.IsClosed background.prelude → ∀ type, now.table.Has type →
      Agrees background.steps (guardedMember type) (plainMember type) now
        (now.Gives background.prelude))
    {declaration : NominalType} (hdeclaration : draft.Admits (.declared declaration))
    {arguments : List TypeId} (harguments : ∀ id ∈ arguments, draft.table.Has id) (name : String) :
    Agrees background.steps
      (background.memberOfDeclared guarded budget guardedMember declaration arguments name)
      (background.memberOfDeclared plain budget plainMember declaration arguments name) draft
      (draft.Gives background.prelude) := by
  have hplaces := hdeclaration.1
  simp only [TypeEntry.places, List.mem_append, List.mem_map] at hplaces
  simp only [Background.memberOfDeclared]
  split
  next member hfound =>
    have htype : draft.table.Has member.type :=
      hplaces _ (.inr ⟨member, List.mem_of_find?_eq_some hfound, rfl⟩)
    refine (h.settle hdraft budget member.type).bind ?_
    rintro _ new ⟨hnew, _⟩
    refine (Agrees.lift (hnew.closed.after_substitute declaration.params
      (hnew.has_all harguments) budget (hnew.has htype))).bind ?_
    rintro type seen ⟨hseen, hhas⟩
    refine (h.valueOfMember hseen.closed budget member.kind hhas).bind fun value last hlast => ?_
    exact Agrees.pure ((hnew.trans (hseen.trans hlast.1)).gives_some hlast.2)
  next =>
    refine findSomeM? hdraft (fun id hid => hplaces id (.inl (.inr hid))) ?_
    intro now hnow id _ hid
    refine (Agrees.lift (hnow.closed.after_substitute declaration.params
      (hnow.has_all harguments) budget hid)).bind ?_
    rintro type seen ⟨hseen, hhas⟩
    refine (hmember seen hseen.closed type hhas).imp ?_
    rintro type? last ⟨hlast, htype⟩
    exact ⟨hseen.trans hlast, htype⟩

/-- The answers to a question that is put to every member of a list. -/
theorem filterMapM {guardedStep : TypeId → Inference (Except Loop) (Option TypeId)}
    {plainStep : TypeId → Inference Option (Option TypeId)} {prelude : Prelude} {steps : Nat}
    (hdraft : draft.IsClosed prelude) {ids : List TypeId} (hids : ∀ id ∈ ids, draft.table.Has id)
    (hstep : ∀ now : Draft, now.IsClosed prelude → ∀ id, now.table.Has id →
      Agrees steps (guardedStep id) (plainStep id) now (now.Gives prelude)) :
    Agrees steps (ids.filterMapM guardedStep) (ids.filterMapM plainStep) draft
      (draft.Gives prelude) := by
  induction ids generalizing draft with
  | nil => exact Agrees.pure ⟨hdraft.refl, by simp⟩
  | cons first rest ih =>
    rw [List.filterMapM_cons, List.filterMapM_cons]
    refine (hstep draft hdraft first (hids first List.mem_cons_self)).bind ?_
    rintro type? new ⟨hnew, htype⟩
    have hrest : ∀ id ∈ rest, new.table.Has id :=
      fun id hid => hnew.has (hids id (List.mem_cons_of_mem _ hid))
    cases type? with
    | none => exact (ih hnew.closed hrest).imp fun _ _ => hnew.gives
    | some type =>
      refine (ih hnew.closed hrest).bind ?_
      rintro types last hlast
      exact Agrees.pure (hnew.gives (hlast.cons (htype _ rfl)))

/-- **Looking for a member.** -/
theorem typeOfMember (h : background.QuestionsAgree guarded plain)
    (hdraft : draft.IsClosed background.prelude) (name : String) (budget : Nat) {object : TypeId}
    (hobject : draft.table.Has object) :
    Agrees background.steps (background.typeOfMember guarded name budget object)
      (background.typeOfMember plain name budget object) draft
      (draft.Gives background.prelude) := by
  induction budget generalizing draft object with
  | zero => exact Agrees.pure ⟨hdraft.refl, by simp⟩
  | succ budget ih =>
    have hmember : ∀ now : Draft, now.IsClosed background.prelude → ∀ type, now.table.Has type →
        Agrees background.steps (background.typeOfMember guarded name budget type)
          (background.typeOfMember plain name budget type) now (now.Gives background.prelude) :=
      fun now hnow type htype => ih hnow htype
    have hlength : ∀ now : Draft, draft.Grows background.prelude now →
        Agrees background.steps (pure (if name == "length" then some TypeId.number else none))
          (pure (if name == "length" then some TypeId.number else none)) now
          (draft.Gives background.prelude) := by
      intro now hnow
      refine Agrees.pure ⟨hnow, ?_⟩
      split
      · rintro _ ⟨⟩
        exact (hnow.closed.intrinsic (show TypeId.number < _ by decide)).1
      · simp
    simp only [Background.typeOfMember]
    refine (h.shapeOf hdraft (budget + 1) hobject).bind ?_
    rintro shape new ⟨hnew, _⟩
    refine Agrees.get ?_
    split
    next declaration hentry =>
      refine (h.memberOfDeclared hnew.closed (budget + 1) hmember
        (hnew.closed.entries shape _ hentry) (by simp) name).imp ?_
      exact fun _ _ => hnew.gives
    -- a reference, to a declaration or to what has members itself
    next target arguments hentry =>
      have hplaces := hnew.closed.has_places hentry
      have htarget : new.table.Has target := hplaces target List.mem_cons_self
      have harguments : ∀ id ∈ arguments, new.table.Has id :=
        fun id hid => hplaces id (List.mem_cons_of_mem _ hid)
      refine (h.shapeOf hnew.closed (budget + 1) htarget).bind fun base seen hseen => Agrees.get ?_
      obtain ⟨hseen, hbase, -⟩ := hseen
      split
      next declaration hdeclaration =>
        refine (h.memberOfDeclared hseen.closed (budget + 1) hmember
          (hseen.closed.entries base _ hdeclaration) (hseen.has_all harguments) name).imp ?_
        exact fun _ _ hlast => hnew.gives (hseen.gives hlast)
      next =>
        refine (ih hseen.closed hbase).imp ?_
        exact fun _ _ hlast => hnew.gives (hseen.gives hlast)
      next => exact Agrees.pure ⟨hnew.trans hseen, by simp⟩
    next members hentry =>
      have hplaces := hnew.closed.has_places hentry
      split
      next member hfound =>
        have htype : new.table.Has member.type :=
          hplaces _ (List.mem_map_of_mem (List.mem_of_find?_eq_some hfound))
        refine (h.valueOfMember hnew.closed (budget + 1) member.kind htype).bind ?_
        rintro value last ⟨hlast, hvalue⟩
        exact Agrees.pure ((hnew.trans hlast).gives_some hvalue)
      next => exact Agrees.pure ⟨hnew, by simp⟩
    -- a union has the members of all its parts, an intersection that of the first part that has it
    next members hentry =>
      have hplaces := hnew.closed.has_places hentry
      refine (filterMapM hnew.closed hplaces hmember).bind ?_
      rintro types seen ⟨hseen, htypes⟩
      exact joinTypes (hnew.trans hseen) htypes
    next members hentry =>
      have hplaces := hnew.closed.has_places hentry
      refine (findSomeM? hnew.closed hplaces fun now hnow id _ => hmember now hnow.closed id).imp ?_
      exact fun _ _ => hnew.gives
    · exact hlength new hnew
    · exact hlength new hnew
    · exact Agrees.pure ⟨hnew, by simp⟩

/-! ### Promises and absent values -/

theorem awaitedType (h : background.QuestionsAgree guarded plain)
    (hdraft : draft.IsClosed background.prelude) (budget : Nat) {type : TypeId}
    (htype : draft.table.Has type) :
    Agrees background.steps (background.awaitedType guarded budget type)
      (background.awaitedType plain budget type) draft fun value new =>
        draft.Grows background.prelude new ∧ new.table.Has value := by
  simp only [Background.awaitedType]
  refine (h.shapeOf hdraft budget htype).bind ?_
  rintro shape new ⟨hnew, _⟩
  refine Agrees.get ?_
  have hhas := hnew.has htype
  split
  next target arguments hentry =>
    have hplaces := hnew.closed.has_places hentry
    split
    · refine Agrees.pure ⟨hnew, ?_⟩
      split
      · cases arguments with
        | nil => exact (hnew.closed.intrinsic (show TypeId.unknown < _ by decide)).1
        | cons first rest => exact hplaces first (by simp [TypeEntry.places])
      · exact hhas
    · exact Agrees.pure ⟨hnew, hhas⟩
  next => exact Agrees.pure ⟨hnew, hhas⟩

theorem presentPart (h : background.QuestionsAgree guarded plain)
    (hdraft : draft.IsClosed background.prelude) (budget : Nat) {type : TypeId}
    (htype : draft.table.Has type) :
    Agrees background.steps (background.presentPart guarded budget type)
      (background.presentPart plain budget type) draft fun value new =>
        draft.Grows background.prelude new ∧ new.table.Has value := by
  simp only [Background.presentPart]
  refine (h.shapeOf hdraft budget htype).bind ?_
  rintro shape new ⟨hnew, _⟩
  refine Agrees.get ?_
  split
  next members hentry =>
    have hplaces := hnew.closed.has_places hentry
    have hkept : ∀ id ∈ members.filter fun member => !new.table.isNullish member,
        new.table.Has id := fun id hid => hplaces id (List.mem_filter.mp hid).1
    refine (joinTypes hnew hkept).bind ?_
    rintro union? last ⟨hlast, hunion⟩
    refine Agrees.pure ⟨hlast, ?_⟩
    cases union? with
    | none => exact (hlast.closed.intrinsic (show TypeId.never < _ by decide)).1
    | some union => exact hunion union rfl
  next => exact Agrees.pure ⟨hnew, hnew.has htype⟩

/-! ### Expressions -/

theorem typeOfName (h : background.QuestionsAgree guarded plain)
    (hdraft : draft.IsClosed background.prelude) (budget : Nat) (node : NodeId) (name : String) :
    Agrees background.steps (background.typeOfName guarded budget node name)
      (background.typeOfName plain budget node name) draft (draft.Gives background.prelude) := by
  simp only [Background.typeOfName]
  split
  · exact Agrees.pure ⟨hdraft.refl, by simp⟩
  refine Agrees.get ?_
  split
  next symbol _ =>
    -- that the name refers to the symbol is noted, which changes no type
    have hnoted : draft.Grows background.prelude
        { draft with nodeSymbols := draft.nodeSymbols.insert node symbol } :=
      ⟨⟨{ hdraft with }, Nat.le_refl _, fun _ hid => hid⟩, fun _ _ => rfl⟩
    refine Agrees.modify (Agrees.get ?_)
    split
    next type htype =>
      have hhas := hdraft.symbols symbol type htype
      refine (h.settle hnoted.closed budget type).bind ?_
      rintro _ last ⟨hlast, _⟩
      exact Agrees.pure ((hnoted.trans hlast).gives_some (hlast.has hhas))
    next => exact Agrees.pure ⟨hnoted, by simp⟩
  next =>
    split
    next type htype =>
      have hkept := hdraft.kept type (hdraft.outside.values name type htype)
      exact Agrees.pure (hdraft.refl.gives_some hkept.1)
    next =>
      refine Agrees.pure ⟨hdraft.refl, ?_⟩
      split
      · rintro _ ⟨⟩
        exact (hdraft.intrinsic (show TypeId.undefined < _ by decide)).1
      · simp

theorem typeOfThis (hdraft : draft.IsClosed background.prelude) (node : NodeId) :
    Agrees background.steps (background.typeOfThis node) (background.typeOfThis node) draft
      (draft.Gives background.prelude) := by
  simp only [Background.typeOfThis]
  refine Agrees.get (Agrees.pure ⟨hdraft.refl, fun type htype => ?_⟩)
  obtain ⟨owner, -, howner⟩ := List.exists_of_findSome?_eq_some (Option.mem_def.mp htype)
  exact hdraft.classes owner type howner

theorem elementType (h : background.QuestionsAgree guarded plain)
    (hdraft : draft.IsClosed background.prelude) (budget : Nat) {object : TypeId}
    (hobject : draft.table.Has object) :
    Agrees background.steps (background.elementType guarded budget object)
      (background.elementType plain budget object) draft (draft.Gives background.prelude) := by
  simp only [Background.elementType]
  refine (h.shapeOf hdraft budget hobject).bind ?_
  rintro shape new ⟨hnew, _⟩
  refine Agrees.get ?_
  split
  next element hentry =>
    have hplaces := hnew.closed.has_places hentry
    exact Agrees.pure (hnew.gives_some (hplaces element (List.mem_singleton_self element)))
  next => exact Agrees.pure ⟨hnew, by simp⟩

/-- What comes of the type of a part of an expression. -/
theorem ofPart (h : background.QuestionsAgree guarded plain)
    {guardedNext : TypeId → Inference (Except Loop) (Option TypeId)}
    {plainNext : TypeId → Inference Option (Option TypeId)}
    (hdraft : draft.IsClosed background.prelude) (budget : Nat) (part : NodeId)
    (hnext : ∀ now : Draft, now.IsClosed background.prelude → ∀ type, now.table.Has type →
      Agrees background.steps (guardedNext type) (plainNext type) now
        (now.Gives background.prelude)) :
    Agrees background.steps (ofPart guarded budget part guardedNext)
      (ofPart plain budget part plainNext) draft (draft.Gives background.prelude) := by
  unfold Background.ofPart
  refine (h.agrees draft hdraft budget part).bind ?_
  rintro type? new ⟨hnew, htype⟩
  cases type? with
  | some type =>
    refine (hnext new hnew.closed type (htype type rfl)).imp ?_
    exact fun _ _ => hnew.gives
  | none => exact Agrees.pure ⟨hnew, by simp⟩

/-- **Typing an expression**, if what calls return agrees. -/
theorem typeOfExpression (h : background.QuestionsAgree guarded plain)
    {guardedResult : Nat → TypeId → Inference (Except Loop) (Option TypeId)}
    {plainResult : Nat → TypeId → Inference Option (Option TypeId)}
    (hresult : ∀ now : Draft, now.IsClosed background.prelude → ∀ budget callee,
      now.table.Has callee →
      Agrees background.steps (guardedResult budget callee) (plainResult budget callee) now
        (now.Gives background.prelude))
    (hdraft : draft.IsClosed background.prelude) (budget : Nat) (node : NodeId) :
    Agrees background.steps (background.typeOfExpression guarded guardedResult budget node)
      (background.typeOfExpression plain plainResult budget node) draft
      (draft.Gives background.prelude) := by
  have hask := h.agrees draft hdraft budget
  simp only [Background.typeOfExpression]
  split
  next name _ => exact h.typeOfName hdraft budget node name
  next => exact typeOfThis hdraft node
  next kind _ =>
    exact Agrees.pure (hdraft.refl.gives_some ((hdraft.intrinsic (by cases kind <;> decide)).1))
  -- the elements of an array have the type of the first one
  next elements _ =>
    have harray : ∀ (element? : Option TypeId) (now : Draft), draft.Grows background.prelude now →
        (∀ element ∈ element?, now.table.Has element) →
          now.Admits (.array (element?.getD .unknown)) := by
      intro element? now hnow helement
      refine admits_of_places (fun place hplace => ?_) (by simp)
      obtain rfl := List.mem_singleton.mp hplace
      cases element? with
      | none => exact (hnow.closed.intrinsic (show TypeId.unknown < _ by decide)).1
      | some element => exact helement element rfl
    split
    · exact Agrees.lift (After.answer (hdraft.grows_push (harray none draft hdraft.refl (by simp))))
    next first _ _ =>
      refine (hask first).bind ?_
      rintro element? new ⟨hnew, helement⟩
      exact Agrees.lift (After.answer (hnew.trans_push (harray element? new hnew helement)))
  next =>
    exact Agrees.lift (After.answer (hdraft.grows_push
      (admits_of_places (by simp [TypeEntry.places]) (by simp))))
  next callee _ _ =>
    exact h.ofPart hdraft budget callee fun now hnow type htype =>
      hresult now hnow budget type htype
  next callee written _ _ => exact Agrees.lift (after_typeOfNew hdraft node callee written)
  next object property _ =>
    refine h.ofPart hdraft budget object fun now hnow type htype => ?_
    split
    next name _ => exact h.typeOfMember hnow name budget htype
    next => exact Agrees.pure ⟨hnow.refl, by simp⟩
  next object _ _ =>
    exact h.ofPart hdraft budget object fun now hnow type htype => h.elementType hnow budget htype
  next expression _ _ => exact hask expression
  next => exact Agrees.lift (After.answer (after_resolve hdraft node _))
  next argument _ =>
    exact h.ofPart hdraft budget argument fun now hnow type htype =>
      (h.awaitedType hnow budget htype).answer
  next expression _ => exact hask expression
  next expression _ =>
    exact h.ofPart hdraft budget expression fun now hnow type htype =>
      (h.presentPart hnow budget htype).answer
  next expression _ => exact hask expression
  next returnType body _ => exact Agrees.lift (after_typeOfFunction hdraft node returnType body)
  next => exact Agrees.pure ⟨hdraft.refl, by simp⟩

end QuestionsAgree

end Background

end StreamLint
