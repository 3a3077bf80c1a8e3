import StreamLint.Proofs.Model.Chronicle
import StreamLint.Proofs.Model.Joined
/-!
# Making a model with a chronicle

Everything that is done while a model is made is made of questions for the types of expressions and
of changes to the draft. So if the questions that are asked with a chronicle are told of
(`StreamLint.Background.QuestionsTold`), then so are settling a type, following it, looking for a
member, calling a value and typing an expression, one lemma for each; and typing expressions closes
the circle (`StreamLint.Background.questionsTold_infer`).

What the lemmas say of the results is what an answer has to do with the answers to its parts
(`StreamLint.Background.Fits`): a shape is read off the draft, a member of a type's own is found, a
function returns what it is declared to, and what a function expression returns is deferred.
-/

namespace StreamLint

namespace Background

open Draft

/-- Joining types only adds. -/
theorem tracks_joinTypes {background : Background} {draft : Draft} (types : List TypeId) :
    background.Tracks (liftM (joinTypes types)) (liftM (joinTypes types)) draft
      fun join? new => new.table.JoinOf types join? :=
  .adds_after (adds_joinTypes types) (after_joinTypes_joinOf draft types)

/-- The questions of a computation with a chronicle tell of those of the plain one: they pass on,
and the answer is what is noted afterwards. A question that no other question led to has the full
budget. -/
structure QuestionsTold (background : Background) (told : Question Told)
    (plain : Question (Inference Option)) : Prop where
  /-- The answers are told of. -/
  tracks : ∀ (draft : Draft) (budget : Nat) (node : NodeId),
    (draft.inProgress = [] → budget = background.budget) → background.tree.IsReached node →
      background.Tracks (told budget node) (plain budget node) draft fun type? new =>
        type? = (new.inferred[node]?).getD none

namespace QuestionsTold

variable {background : Background} {told : Question Told} {plain : Question (Inference Option)}
  {draft : Draft}

/-! ### Settling -/

theorem typesOf (h : background.QuestionsTold told plain) {budget : Nat} {nodes : List NodeId}
    (hfull : draft.inProgress = [] → budget = background.budget)
    (hnodes : ∀ node ∈ nodes, background.tree.IsReached node) :
    background.Tracks (Background.typesOf told budget nodes) (Background.typesOf plain budget nodes)
      draft fun _ _ => True := by
  induction nodes generalizing draft with
  | nil => exact .pure trivial
  | cons node rest ih =>
    obtain ⟨hnode, hrest⟩ := List.forall_mem_cons.mp hnodes
    refine (h.tracks draft budget node hfull hnode).bind fun first new hsame _ => ?_
    exact (ih (hsame ▸ hfull) hrest).bind fun _ _ _ _ => .pure trivial

/-- A block without values returns nothing. -/
theorem typeOfDeferred (h : background.QuestionsTold told plain) {budget : Nat} {source : Deferred}
    (hfull : draft.inProgress = [] → budget = background.budget)
    (hsource : background.tree.ReachesSource source) :
    background.Tracks (background.typeOfDeferred told budget source)
      (background.typeOfDeferred plain budget source) draft fun target? _ =>
        ∀ block, background.tree.ReturnsNothing block → source = .body block →
          target? = some .void := by
  cases source with
  | expression node =>
    exact (h.tracks draft budget node hfull hsource).imp fun _ _ _ _ _ _ _ _ heq => nomatch heq
  | body node =>
    simp only [Background.typeOfDeferred, Background.typeOfBody]
    split
    next =>
      split
      next => exact .pure fun _ _ _ => rfl
      next hvalues =>
        refine (h.typesOf hfull fun value hvalue => ?_).bind fun types new _ _ => ?_
        · exact SyntaxTree.IsReached.of_mem_returnedValues hsource hvalue
        · refine (tracks_joinTypes types).imp ?_
          rintro _ _ _ _ _ _ block ⟨-, hnone⟩ heq
          exact absurd (Deferred.body.inj heq ▸ hnone) hvalues
    next hblock =>
      refine (h.tracks draft budget node hfull hsource).imp ?_
      rintro _ _ _ _ _ _ block ⟨hkind, -⟩ heq
      exact absurd (beq_iff_eq.mpr (Deferred.body.inj heq ▸ hkind)) hblock

/-- **Settling a type** leaves it settled. -/
theorem settle (h : background.QuestionsTold told plain) {budget : Nat}
    (hfull : draft.inProgress = [] → budget = background.budget) (type : TypeId) :
    background.Tracks (background.settle told budget type) (background.settle plain budget type)
      draft fun _ new => new.deferred[type]? = none := by
  intro hsound
  simp only [Background.settle]
  refine Tells.get ?_
  split
  next hnone => exact Tells.pure ⟨.refl draft, hnone⟩
  next source hsource =>
    have htakes : Tells (modify fun draft => { draft with deferred := draft.deferred.erase type })
        (modify fun draft => { draft with deferred := draft.deferred.erase type }) draft
        fun through _ new =>
          through = [draft] ∧ new = { draft with deferred := draft.deferred.erase type } :=
      Tells.modify ⟨rfl, rfl⟩
    refine htakes.bind ?_
    rintro _ _ _ ⟨rfl, rfl⟩
    have hreached := hsound.source type source hsource
    let taken : Draft := { draft with deferred := draft.deferred.erase type }
    have htaken : background.IsSound taken := (Move.takes hsource).isSound hsound
    have hfull : taken.inProgress = [] → budget = background.budget := hfull
    refine (h.typeOfDeferred hfull hreached htaken).bind ?_
    rintro through target? new ⟨hpasses, hvoid⟩
    -- in the end the type is defined, as unknown or as an alias of another place
    have hsettled : new.deferred[type]? = none := by
      refine (hpasses.isSettled ⟨?_, by simp [taken]⟩).2
      exact TypeTable.has_of_get? (hsound.unknown type source hsource)
    have hdefine : ∀ data : TypeEntry,
        (data = .unknown ∨ ∃ target, data = .alias "" [] target ∧ target ≠ type) →
        (∀ block, background.tree.ReturnsNothing block → type ≠ .void → source = .body block →
          data = .alias "" [] .void) →
        Tells (liftM (Draft.define type data)) (liftM (Draft.define type data)) new
          fun through' _ last => background.Passes draft ([draft] ++ (through ++ through')) last ∧
            last.deferred[type]? = none :=
      fun data hdata hnothing =>
        Tells.lift ⟨hpasses.settles hsound hsource hdata hnothing, hsettled⟩
    split
    next target =>
      have htarget : ∀ block, background.tree.ReturnsNothing block → source = .body block →
          target = .void := fun block hblock heq => Option.some.inj (hvoid block hblock heq)
      split
      next hself =>
        refine hdefine _ (.inl rfl) fun block hblock hne heq => ?_
        exact absurd ((eq_of_beq hself).symm.trans (htarget block hblock heq)) hne
      next hother =>
        refine hdefine _ (.inr ⟨target, rfl, fun heq => hother (beq_iff_eq.mpr heq)⟩) ?_
        exact fun block hblock _ heq => htarget block hblock heq ▸ rfl
    next => exact hdefine _ (.inl rfl) fun block hblock _ heq => nomatch hvoid block hblock heq

/-! ### Shapes -/

/-- A type stands for its shape. -/
theorem standsFor_of_settledShape? {steps : Nat} {type shape : TypeId}
    (h : draft.settledShape? steps type = some shape) : draft.table.StandsFor type shape := by
  induction steps generalizing type with
  | zero => exact Option.some.inj h ▸ .refl
  | succ steps ih =>
    unfold settledShape? at h
    split at h
    next => cases h
    next =>
      split at h
      next next hnext =>
        split at h
        next => exact Option.some.inj h ▸ .refl
        next => exact .head hnext (ih h)
      next => exact Option.some.inj h ▸ .refl

/-- Following a type leads to its shape. -/
theorem shapeWithin (h : background.QuestionsTold told plain) {budget : Nat}
    (hfull : draft.inProgress = [] → budget = background.budget) (steps : Nat) (type : TypeId) :
    background.Tracks (background.shapeWithin told budget steps type)
      (background.shapeWithin plain budget steps type) draft fun shape new =>
        new.settledShape? steps type = some shape := by
  induction steps generalizing draft type with
  | zero => exact .pure rfl
  | succ steps ih =>
    simp only [Background.shapeWithin]
    refine (h.settle hfull type).bind fun _ new hsame hsettled => Tracks.get ?_
    split
    next next hnext =>
      split
      next hself =>
        refine .pure ?_
        simp only [settledShape?, hsettled, hnext, if_pos hself]
      next hother =>
        intro hsound
        refine (ih (hsame ▸ hfull) next hsound).imp ?_
        rintro through shape last ⟨hpasses, hshape⟩
        refine ⟨hpasses, ?_⟩
        -- the first step goes over a settled type, so it is the same one afterwards
        have htype : new.IsSettled type := ⟨Passes.has_of_standsFor? hnext, hsettled⟩
        simp only [settledShape?, (hpasses.isSettled htype).2, hpasses.standsFor?_eq hsound htype,
          hnext, if_neg hother, hshape]
    next hnone =>
      refine .pure ?_
      simp only [settledShape?, hsettled, hnone]

theorem shapeOf (h : background.QuestionsTold told plain) {budget : Nat}
    (hfull : draft.inProgress = [] → budget = background.budget) (type : TypeId) :
    background.Tracks (background.shapeOf told budget type) (background.shapeOf plain budget type)
      draft fun shape new => new.settledShape? (background.maxDepth + 1) type = some shape :=
  h.shapeWithin hfull _ type

/-! ### Members -/

theorem valueOfMember (h : background.QuestionsTold told plain) (hbusy : draft.inProgress ≠ [])
    (budget : Nat) (kind : MemberKind) (type : TypeId) :
    background.Tracks (background.valueOfMember told budget kind type)
      (background.valueOfMember plain budget kind type) draft fun _ _ => True := by
  simp only [Background.valueOfMember]
  refine (h.settle (absurd · hbusy) type).bind fun _ new _ _ => ?_
  split
  · exact .pure trivial
  · exact .adds (Adds.push (by simp))

/-- The first answer to a question that is put to every member of a list. -/
theorem findSomeM? {toldStep : TypeId → Told (Option TypeId)}
    {plainStep : TypeId → Inference Option (Option TypeId)} (hbusy : draft.inProgress ≠ [])
    (hstep : ∀ now : Draft, now.inProgress ≠ [] → ∀ id,
      background.Tracks (toldStep id) (plainStep id) now fun _ _ => True) (ids : List TypeId) :
    background.Tracks (ids.findSomeM? toldStep) (ids.findSomeM? plainStep) draft
      fun _ _ => True := by
  induction ids generalizing draft with
  | nil => exact .pure trivial
  | cons first rest ih =>
    simp only [List.findSomeM?]
    refine (hstep draft hbusy first).bind fun type? new hsame _ => ?_
    cases type? with
    | some type => exact .pure trivial
    | none => exact ih (hsame ▸ hbusy)

/-- The answers to a question that is put to every member of a list. -/
theorem filterMapM {toldStep : TypeId → Told (Option TypeId)}
    {plainStep : TypeId → Inference Option (Option TypeId)} (hbusy : draft.inProgress ≠ [])
    (hstep : ∀ now : Draft, now.inProgress ≠ [] → ∀ id,
      background.Tracks (toldStep id) (plainStep id) now fun _ _ => True) (ids : List TypeId) :
    background.Tracks (ids.filterMapM toldStep) (ids.filterMapM plainStep) draft
      fun _ _ => True := by
  induction ids generalizing draft with
  | nil => exact .pure trivial
  | cons first rest ih =>
    rw [List.filterMapM_cons, List.filterMapM_cons]
    refine (hstep draft hbusy first).bind fun type? new hsame _ => ?_
    cases type? with
    | none => exact ih (hsame ▸ hbusy)
    | some type => exact (ih (hsame ▸ hbusy)).bind fun _ _ _ _ => .pure trivial

/-- A declared type has a member of its own, or else one of its supertypes is asked for it. -/
theorem memberOfDeclared (h : background.QuestionsTold told plain) (hbusy : draft.inProgress ≠ [])
    (budget : Nat) {toldMember : TypeId → Told (Option TypeId)}
    {plainMember : TypeId → Inference Option (Option TypeId)}
    (hmember : ∀ now : Draft, now.inProgress ≠ [] → ∀ type,
      background.Tracks (toldMember type) (plainMember type) now fun _ _ => True)
    (declaration : NominalType) (arguments : List TypeId) (name : String) :
    background.Tracks
      (background.memberOfDeclared told budget toldMember declaration arguments name)
      (background.memberOfDeclared plain budget plainMember declaration arguments name) draft
      fun value? _ => (declaration.members.find? (·.name == name)).isSome = true →
        value?.isSome = true := by
  simp only [Background.memberOfDeclared]
  split
  next member hfound =>
    refine (h.settle (absurd · hbusy) member.type).bind fun _ new hsame _ => ?_
    refine (Tracks.adds (adds_substitute _ _ _ _)).bind fun type seen hseen _ => ?_
    refine (h.valueOfMember (hseen.trans hsame ▸ hbusy) budget member.kind type).bind ?_
    exact fun value last _ _ => .pure fun _ => rfl
  next hnone =>
    refine (findSomeM? hbusy (fun now hnow supertype => ?_) declaration.supertypes).imp ?_
    · refine (Tracks.adds (adds_substitute _ _ _ _)).bind fun type seen hseen _ => ?_
      exact hmember seen (hseen ▸ hnow) type
    · exact fun _ _ _ _ _ _ hfound => absurd hfound (by simp [hnone])

/-- **Looking for a member.** With budget left, a member of the type's own is found. -/
theorem typeOfMember (h : background.QuestionsTold told plain) (hbusy : draft.inProgress ≠ [])
    (name : String) (budget : Nat) (object : TypeId) :
    background.Tracks (background.typeOfMember told name budget object)
      (background.typeOfMember plain name budget object) draft fun value? new =>
        0 < budget → ∀ shape, new.settledShape? (background.maxDepth + 1) object = some shape →
          new.table.hasOwnMember shape name = true → value?.isSome = true := by
  induction budget generalizing draft object with
  | zero => exact .pure fun hbudget => absurd hbudget (Nat.lt_irrefl 0)
  | succ budget ih =>
    have hmember : ∀ now : Draft, now.inProgress ≠ [] → ∀ type,
        background.Tracks (background.typeOfMember told name budget type)
          (background.typeOfMember plain name budget type) now fun _ _ => True :=
      fun now hnow type => (ih hnow type).weaken
    simp only [Background.typeOfMember]
    refine (h.shapeOf (absurd · hbusy) object).bind fun shape new hsame hshape => Tracks.get ?_
    have hbusy : new.inProgress ≠ [] := hsame ▸ hbusy
    -- a type that is known at this point is the shape in the end
    have hkept : ∀ {entry : TypeEntry} {through last} {shape' : TypeId},
        new.table.get? shape = some entry → entry ≠ .unknown → background.IsSound new →
        background.Passes new through last →
        last.settledShape? (background.maxDepth + 1) object = some shape' →
        last.table.hasOwnMember shape' name = true → entry.hasOwnMember name = true := by
      intro entry through last shape' hentry hknown hsound hpasses hshape' hown
      have hat := (hpasses.shape_eq hsound hshape hentry hknown hshape').2
      simpa [TypeTable.hasOwnMember, hat] using hown
    have hother : ∀ {entry : TypeEntry} {toldRest : Told (Option TypeId)}
        {plainRest : Inference Option (Option TypeId)}, new.table.get? shape = some entry →
        entry ≠ .unknown → entry.hasOwnMember name = false →
        background.Tracks toldRest plainRest new (fun _ _ => True) →
        background.Tracks toldRest plainRest new fun value? last => 0 < budget + 1 →
          ∀ shape', last.settledShape? (background.maxDepth + 1) object = some shape' →
            last.table.hasOwnMember shape' name = true → value?.isSome = true := by
      intro entry toldRest plainRest hentry hknown hnone hrest
      refine hrest.imp fun through value? last hsound hpasses _ _ shape' hshape' hown => ?_
      exact absurd (hkept hentry hknown hsound hpasses hshape' hown) (by simp [hnone])
    split
    next declaration hentry =>
      refine (h.memberOfDeclared hbusy (budget + 1) hmember declaration [] name).imp ?_
      intro through value? last hsound hpasses hfound _ shape' hshape' hown
      exact hfound (hkept hentry (by simp) hsound hpasses hshape' hown)
    next target arguments hentry =>
      refine hother hentry (by simp) rfl ?_
      refine (h.shapeOf (absurd · hbusy) target).bind fun base seen hseen _ => Tracks.get ?_
      have hbusy : seen.inProgress ≠ [] := hseen ▸ hbusy
      split
      next declaration _ =>
        exact (h.memberOfDeclared hbusy (budget + 1) hmember declaration arguments name).weaken
      next => exact hmember seen hbusy base
      next => exact .pure trivial
    next members hentry =>
      split
      next member _ =>
        refine (h.valueOfMember hbusy (budget + 1) member.kind member.type).bind ?_
        exact fun value last _ _ => .pure fun _ _ _ _ => rfl
      next hnone =>
        exact hother hentry (by simp) (by simp [TypeEntry.hasOwnMember, hnone]) (.pure trivial)
    next members hentry =>
      refine hother hentry (by simp) rfl ?_
      exact (filterMapM hbusy hmember members).bind fun types _ _ _ => (tracks_joinTypes _).weaken
    next members hentry =>
      exact hother hentry (by simp) rfl (findSomeM? hbusy hmember members)
    next hentry => exact hother hentry (by simp) rfl (.pure trivial)
    next hentry => exact hother hentry (by simp) rfl (.pure trivial)
    next hdeclared _ hobject _ _ _ _ =>
      refine .pure fun _ shape' hshape' hown => ?_
      obtain rfl := Option.some.inj (hshape'.symm.trans hshape)
      obtain ⟨entry, hentry, hown⟩ := (Option.any_eq_true _ _).mp hown
      cases entry with
      | declared type => exact absurd hentry (hdeclared type)
      | object members => exact absurd hentry (hobject members)
      | _ => cases hown

/-! ### Promises, absent values and elements -/

theorem awaitedType (h : background.QuestionsTold told plain) (hbusy : draft.inProgress ≠ [])
    (budget : Nat) (type : TypeId) :
    background.Tracks (background.awaitedType told budget type)
      (background.awaitedType plain budget type) draft fun _ _ => True := by
  simp only [Background.awaitedType]
  refine (h.shapeOf (absurd · hbusy) type).bind fun shape new _ _ => Tracks.get ?_
  split
  · split
    · exact .pure trivial
    · exact .pure trivial
  · exact .pure trivial

/-- **What is left of a type** without the absent values is its present part. -/
theorem presentPart (h : background.QuestionsTold told plain) (hbusy : draft.inProgress ≠ [])
    (budget : Nat) (type : TypeId) :
    background.Tracks (background.presentPart told budget type)
      (background.presentPart plain budget type) draft fun seen new =>
        new.table.IsPresentPart type seen := by
  simp only [Background.presentPart]
  refine (h.shapeOf (absurd · hbusy) type).bind fun shape new _ hshape => Tracks.get ?_
  split
  next members hentry =>
    refine Tracks.bind ((tracks_joinTypes _).imp ?_) fun _ _ _ hlast => .pure hlast
    intro through join? last _ hpasses hjoined
    have hkept : new.table.KeepsKnown last.table := fun id entry => hpasses.get?_eq_some
    refine .joined ((standsFor_of_settledShape? hshape).mono hkept) (hkept _ _ hentry (by simp))
      List.filter_sublist.subset (fun member hmember hnot => List.mem_filter.mpr ⟨hmember, ?_⟩) hjoined
    -- what is present in the end has been so before
    simpa using fun hnullish =>
      Bool.false_ne_true (hnot.symm.trans (TypeTable.isNullish_mono hkept hnullish))
  next => exact .pure .same

theorem elementType (h : background.QuestionsTold told plain) (hbusy : draft.inProgress ≠ [])
    (budget : Nat) (object : TypeId) :
    background.Tracks (background.elementType told budget object)
      (background.elementType plain budget object) draft fun _ _ => True := by
  simp only [Background.elementType]
  refine (h.shapeOf (absurd · hbusy) object).bind fun shape new _ _ => Tracks.get ?_
  split
  · exact .pure trivial
  · exact .pure trivial

/-! ### Calls -/

/-- **Typing what a property holds.** It has a type if its name is that of an own member. -/
theorem typeOfProperty (h : background.QuestionsTold told plain) (hbusy : draft.inProgress ≠ [])
    (property : NodeId) (budget : Nat) (object : TypeId) :
    background.Tracks
      (match background.tree.nameAt? property with
        | some name => background.typeOfMember told name budget object
        | none => pure none)
      (match background.tree.nameAt? property with
        | some name => background.typeOfMember plain name budget object
        | none => pure none) draft fun value? new =>
          0 < budget → ∀ name shape, background.tree.nameAt? property = some name →
            new.settledShape? (background.maxDepth + 1) object = some shape →
              new.table.hasOwnMember shape name = true → value?.isSome = true := by
  split
  next name hname =>
    refine (h.typeOfMember hbusy name budget object).imp ?_
    intro through value? new _ _ hvalue hbudget name' shape hname'
    obtain rfl := Option.some.inj (hname.symm.trans hname')
    exact hvalue hbudget shape
  next hname =>
    refine .pure fun _ name shape hname' => ?_
    exact absurd (hname.symm.trans hname') (by simp)

/-- Joining what calling each of the types returns. -/
theorem joinResults {toldStep : TypeId → Told (Option TypeId)}
    {plainStep : TypeId → Inference Option (Option TypeId)} (hbusy : draft.inProgress ≠ [])
    (hstep : ∀ now : Draft, now.inProgress ≠ [] → ∀ id,
      background.Tracks (toldStep id) (plainStep id) now fun _ _ => True) (members : List TypeId) :
    background.Tracks (joinResults toldStep members) (joinResults plainStep members) draft
      fun _ _ => True := by
  have hresults : ∀ now : Draft, now.inProgress ≠ [] →
      background.Tracks (members.mapM toldStep) (members.mapM plainStep) now fun _ _ => True := by
    induction members with
    | nil => exact fun now _ => .pure trivial
    | cons first rest ih =>
      intro now hnow
      rw [List.mapM_cons, List.mapM_cons]
      refine (hstep now hnow first).bind fun _ new hsame _ => ?_
      exact (ih new (hsame ▸ hnow)).bind fun _ _ _ _ => .pure trivial
  exact (hresults draft hbusy).bind fun _ _ _ _ => (tracks_joinTypes _).weaken

/-- One step of the search for what a call returns. A function returns what it is declared to. -/
theorem resultBy (h : background.QuestionsTold told plain) (hbusy : draft.inProgress ≠ [])
    {toldUnion : TypeId → List TypeId → Told (Option TypeId)}
    {plainUnion : TypeId → List TypeId → Inference Option (Option TypeId)}
    (hunion : ∀ now : Draft, now.inProgress ≠ [] → ∀ shape members,
      background.Tracks (toldUnion shape members) (plainUnion shape members) now fun _ _ => True)
    (budget : Nat) (callee : TypeId) :
    background.Tracks (background.resultBy told toldUnion budget callee)
      (background.resultBy plain plainUnion budget callee) draft fun value? new =>
        ∀ shape result, new.settledShape? (background.maxDepth + 1) callee = some shape →
          new.table.get? shape = some (.function result) → value? = some result := by
  unfold Background.resultBy
  refine (h.shapeOf (absurd · hbusy) callee).bind fun shape new hsame hshape => Tracks.get ?_
  have hbusy : new.inProgress ≠ [] := hsame ▸ hbusy
  split
  next result hentry =>
    have hsettle : background.Tracks
        (do background.settle told budget result; return some result)
        (do background.settle plain budget result; return some result) new
        fun value? _ => value? = some result :=
      (h.settle (absurd · hbusy) result).bind fun _ _ _ _ => .pure rfl
    refine hsettle.imp ?_
    intro through value? last hsound hpasses hvalue shape' result' hshape' hentry'
    -- the function that was found is the shape in the end
    have hat := (hpasses.shape_eq hsound hshape hentry (by simp) hshape').2
    rw [hat] at hentry'
    rw [hvalue, TypeEntry.function.inj (Option.some.inj hentry')]
  next members hentry =>
    refine (hunion new hbusy shape members).imp ?_
    intro through value? last hsound hpasses _ shape' result hshape' hentry'
    have hat := (hpasses.shape_eq hsound hshape hentry (by simp) hshape').2
    rw [hat] at hentry'
    cases hentry'
  next hfunction _ =>
    refine .pure fun shape' result hshape' hentry' => ?_
    obtain rfl := Option.some.inj (hshape'.symm.trans hshape)
    exact absurd hentry' (hfunction result)

/-- The search for what a call returns, one step of it. -/
theorem resultOfCall_eq {σ : Type} [MonadStateOf Draft (StateT σ Option)]
    (ask : Question (StateT σ Option)) (budget : Nat) (callee : TypeId) :
    (background.resultOfCall ask budget callee : StateT σ Option (Option TypeId)) =
      background.resultBy ask
        (fun _ members => StreamLint.joinResults
          (background.resultOfCall ask (budget - 1) : TypeId → StateT σ Option (Option TypeId))
          members)
        budget callee := by
  funext kept
  rw [resultOfCall.eq_1]
  rfl

/-- **What a call returns** is told of, if it comes to an end. -/
theorem resultOfCall (h : background.QuestionsTold told plain) (hbusy : draft.inProgress ≠ [])
    (budget : Nat) (callee : TypeId) :
    background.Tracks (background.resultOfCall told budget callee : Told (Option TypeId))
      (background.resultOfCall plain budget callee) draft fun value? new =>
        ∀ shape result, new.settledShape? (background.maxDepth + 1) callee = some shape →
          new.table.get? shape = some (.function result) → value? = some result := by
  -- a search that comes to an end does so after finitely many steps: induction over these
  have hpartial := Background.resultOfCall.partial_correctness background plain
    fun budget callee draft result => draft.inProgress ≠ [] →
      background.Tracks (background.resultOfCall told budget callee : Told (Option TypeId))
        (fun _ => some result) draft fun value? new => ∀ shape result,
          new.settledShape? (background.maxDepth + 1) callee = some shape →
            new.table.get? shape = some (.function result) → value? = some result
  intro hsound value new hrun
  refine hpartial (fun again hagain budget callee draft result hrun hbusy => ?_)
    budget callee draft (value, new) hrun hbusy hsound value new rfl
  rw [resultOfCall_eq]
  have hunion : ∀ now : Draft, now.inProgress ≠ [] → ∀ (shape : TypeId) members,
      background.Tracks
        (StreamLint.joinResults (background.resultOfCall told (budget - 1)) members)
        (StreamLint.joinResults (again (budget - 1) : TypeId → Inference Option (Option TypeId))
          members) now fun _ _ => True := by
    intro now hnow _ members
    refine joinResults hnow (fun now hnow member => ?_) members
    intro hsound type? last hlast
    exact (hagain (budget - 1) member now (type?, last) hlast hnow).weaken hsound type? last rfl
  intro hsound value new hvalue
  obtain ⟨rfl, rfl⟩ := Prod.mk.inj (Option.some.inj hvalue)
  exact h.resultBy hbusy hunion budget callee hsound _ _ hrun

/-! ### Expressions -/

/-- **The answer to a name**: the symbol that it refers to is noted, and stays noted while the type
of the symbol is settled. -/
theorem typeOfName (h : background.QuestionsTold told plain) (hbusy : draft.inProgress ≠ [])
    (budget : Nat) {node : NodeId} {name : String}
    (hname : background.tree.nameAt? node = some name) :
    background.Tracks (background.typeOfName told budget node name)
      (background.typeOfName plain budget node name) draft fun type? new =>
        background.Names new node type? := by
  simp only [Background.typeOfName]
  split
  next hproperty => exact .pure (.of_isProperty hproperty)
  next hproperty =>
    have hlooks : background.LooksUp node name := ⟨hname, by simpa using hproperty⟩
    refine Tracks.get ?_
    split
    next symbol hsymbol =>
      refine (Tracks.notes ⟨name, hlooks, hsymbol⟩).bind fun _ new hsame hnew => Tracks.get ?_
      obtain ⟨hrefers, hnoted⟩ := hnew
      have hnames := Names.of_refersTo hrefers hnoted
      split
      next type htype =>
        rw [htype] at hnames
        have hsettle : background.Tracks (background.settle told budget type)
            (background.settle plain budget type) new fun _ last =>
              background.Names last node (some type) :=
          (h.settle (absurd · (hsame ▸ hbusy)) type).imp fun _ _ _ _ hpasses _ =>
            hpasses.course.names hnames
        exact hsettle.bind fun _ _ _ hlast => .pure hlast
      next hnone =>
        rw [hnone] at hnames
        exact .pure hnames
    next hnone =>
      have hnames := Names.of_free hlooks hnone
      unfold Prelude.typeOfValue? at hnames
      split
      next type htype => exact .pure (by simpa [htype] using hnames)
      next htype => exact .pure (by simpa [htype] using hnames)

/-- What comes of the type of a part of an expression: nothing if it has none. -/
theorem ofPart (h : background.QuestionsTold told plain) (hbusy : draft.inProgress ≠ [])
    (budget : Nat) {part : NodeId} (hpart : background.tree.IsReached part)
    {toldNext : TypeId → Told (Option TypeId)}
    {plainNext : TypeId → Inference Option (Option TypeId)}
    {post : TypeId → Option TypeId → Draft → Prop}
    (hnext : ∀ now : Draft, now.inProgress ≠ [] → ∀ type,
      background.Tracks (toldNext type) (plainNext type) now (post type)) :
    background.Tracks (ofPart told budget part toldNext) (ofPart plain budget part plainNext) draft
      fun value? new => ((new.inferred[part]?).getD none = none ∧ value? = none) ∨
        ∃ type, new.inferred[part]? = some (some type) ∧ post type value? new := by
  unfold Background.ofPart
  refine (h.tracks draft budget part (absurd · hbusy) hpart).bind fun type? now hsame hnow => ?_
  cases type? with
  | none => exact .pure (.inl ⟨hnow.symm, rfl⟩)
  | some type =>
    have hanswer : now.inferred[part]? = some (some type) := by
      rcases hat : now.inferred[part]? with _ | answer
      · simp [hat] at hnow
      · rw [hat] at hnow
        rw [hnow, Option.getD_some]
    -- the answer to the part stays while the expression goes on
    refine (hnext now (hsame ▸ hbusy) type).imp fun through value? new _ hpasses hpost => ?_
    exact .inr ⟨type, hpasses.course.inferred_eq_some hanswer, hpost⟩

/-- **Typing an expression** that has been begun, if calls are told of. -/
theorem typeOfExpression (h : background.QuestionsTold told plain)
    {toldResult : Nat → TypeId → Told (Option TypeId)}
    {plainResult : Nat → TypeId → Inference Option (Option TypeId)}
    (hresult : ∀ now : Draft, now.inProgress ≠ [] → ∀ budget callee,
      background.Tracks (toldResult budget callee) (plainResult budget callee) now
        fun value? new => ∀ shape result,
          new.settledShape? (background.maxDepth + 1) callee = some shape →
            new.table.get? shape = some (.function result) → value? = some result)
    {node : NodeId} (hbegun : node ∈ draft.inProgress) (hnode : background.tree.IsReached node)
    (budget : Nat) :
    background.Tracks (background.typeOfExpression told toldResult budget node)
      (background.typeOfExpression plain plainResult budget node) draft fun type? new =>
        background.Fits (0 < budget) new node type? := by
  have hbusy : draft.inProgress ≠ [] := List.ne_nil_of_mem hbegun
  have hask : ∀ part, background.tree.IsReached part → background.Tracks (told budget part)
      (plain budget part) draft fun type? new => type? = (new.inferred[part]?).getD none :=
    fun part => h.tracks draft budget part (absurd · hbusy)
  have hpart : ∀ {construct : Construct} {part : NodeId},
      background.tree.construct? node = some construct → part ∈ construct.children →
        background.tree.IsReached part :=
    fun hconstruct hpart => hnode.part hconstruct hpart
  have hofPart : ∀ {part : NodeId} {toldNext : TypeId → Told (Option TypeId)}
      {plainNext : TypeId → Inference Option (Option TypeId)}, background.tree.IsReached part →
      (∀ now : Draft, now.inProgress ≠ [] → ∀ type,
        background.Tracks (toldNext type) (plainNext type) now fun _ _ => True) →
      background.Tracks (Background.ofPart told budget part toldNext)
        (Background.ofPart plain budget part plainNext) draft fun _ _ => True :=
    fun hpart hnext => (h.ofPart hbusy budget hpart hnext).weaken
  -- what does not follow a part need only defer its body, if it is a function
  have hfits : ∀ {toldType : Told (Option TypeId)} {plainType : Inference Option (Option TypeId)}
      {construct : Construct}, background.tree.construct? node = some construct →
      construct.followsPart = false → construct.kind.mayHaveType = true →
      background.Tracks toldType plainType draft (fun type? new => ∀ params body,
        construct = .functionExpression params none (some body) → new.Opens body type?) →
      background.Tracks toldType plainType draft fun type? new =>
        background.Fits (0 < budget) new node type? := by
    intro toldType plainType construct hconstruct hfollows hmay htracks
    refine htracks.imp fun _ _ _ _ _ hopens => Fits.of_followsPart ?_ ?_ fun hnot => ?_
    · simp [hconstruct, hfollows]
    · exact fun params body hfound =>
        hopens params body (Option.some.inj (hconstruct.symm.trans hfound))
    · exact absurd (hmay.symm.trans ((isExpression_eq_mayHaveType hconstruct).symm.trans hnot))
        (by simp)
  -- most expressions are neither
  have hother : ∀ {toldType : Told (Option TypeId)} {plainType : Inference Option (Option TypeId)}
      {construct : Construct}, background.tree.construct? node = some construct →
      construct.followsPart = false → construct.kind.mayHaveType = true →
      (∀ params body, construct ≠ .functionExpression params none (some body)) →
      background.Tracks toldType plainType draft (fun _ _ => True) →
      background.Tracks toldType plainType draft fun type? new =>
        background.Fits (0 < budget) new node type? :=
    fun hconstruct hfollows hmay hfunction htracks => hfits hconstruct hfollows hmay <|
      htracks.imp fun _ _ _ _ _ _ params body heq => absurd heq (hfunction params body)
  simp only [Background.typeOfExpression]
  split
  next name hconstruct =>
    have hname : background.tree.nameAt? node = some name := by
      simp only [SyntaxTree.nameAt?, hconstruct]
    exact hother hconstruct rfl rfl (by simp) (h.typeOfName hbusy budget hname).weaken
  next hconstruct => exact hother hconstruct rfl rfl (by simp) (.get (.pure trivial))
  next kind hconstruct => exact hother hconstruct rfl rfl (by simp) (.pure trivial)
  next elements hconstruct =>
    have harray : ∀ (element? : Option TypeId) (now : Draft), background.Tracks
        (do let id ← Draft.push (.array (element?.getD .unknown)); return some id)
        (do let id ← Draft.push (.array (element?.getD .unknown)); return some id) now
        fun _ _ => True :=
      fun element? now => (Tracks.adds (Adds.push (by simp))).bind fun _ _ _ _ => .pure trivial
    refine hother hconstruct rfl rfl (by simp) ?_
    split
    · exact harray none draft
    next first rest =>
      have hfirst : first ∈ (Construct.arrayExpression (first :: rest)).children :=
        List.mem_cons_self
      exact (hask first (hpart hconstruct hfirst)).bind fun element? new _ _ => harray element? new
  next hconstruct =>
    refine hother hconstruct rfl rfl (by simp) ?_
    exact (Tracks.adds (Adds.push (by simp))).bind fun _ _ _ _ => .pure trivial
  next callee arguments hconstruct =>
    have hcallee := hpart hconstruct (List.mem_cons_self : callee ∈ callee :: arguments)
    refine (h.ofPart hbusy budget hcallee fun now hnow type => hresult now hnow budget type).imp ?_
    exact fun _ _ _ _ _ hcall => Fits.of_call hconstruct hcall
  next callee written arguments hconstruct =>
    exact hother hconstruct rfl rfl (by simp) (.adds (adds_typeOfNew node callee written))
  next object property hconstruct =>
    have hobject := hpart hconstruct (List.mem_cons_self : object ∈ [object, property])
    refine (h.ofPart hbusy budget hobject fun now hnow type =>
      h.typeOfProperty hnow property budget type).imp ?_
    exact fun _ _ _ _ _ hfound => Fits.of_member hconstruct hfound
  next object index hconstruct =>
    have hobject := hpart hconstruct (List.mem_cons_self : object ∈ [object, index])
    refine hother hconstruct rfl rfl (by simp) (hofPart hobject fun now hnow type => ?_)
    exact h.elementType hnow budget type
  next expression text hconstruct =>
    have hexpression := hpart hconstruct (List.mem_singleton_self expression)
    exact hother hconstruct rfl rfl (by simp) (hask expression hexpression).weaken
  next written _ hconstruct =>
    refine hother hconstruct rfl rfl (by simp) ?_
    exact (Tracks.adds (adds_resolve node written)).bind fun _ _ _ _ => .pure trivial
  next argument hconstruct =>
    have hargument := hpart hconstruct (List.mem_singleton_self argument)
    refine hother hconstruct rfl rfl (by simp) (hofPart hargument fun now hnow type => ?_)
    exact (h.awaitedType hnow budget type).bind fun _ _ _ _ => .pure trivial
  next expression hconstruct =>
    have hexpression := hpart hconstruct (List.mem_singleton_self expression)
    exact (hask expression hexpression).imp fun _ _ _ _ _ heq => Fits.of_same (.inl hconstruct) heq
  next expression hconstruct =>
    have hexpression := hpart hconstruct (List.mem_singleton_self expression)
    refine hother hconstruct rfl rfl (by simp) (hofPart hexpression fun now hnow type => ?_)
    exact (h.presentPart hnow budget type).bind fun _ _ _ _ => .pure trivial
  next left right hconstruct =>
    have hright := hpart hconstruct (by simp [Construct.children] : right ∈ _)
    exact (hask right hright).imp fun _ _ _ _ _ heq => Fits.of_same (.inr ⟨left, hconstruct⟩) heq
  next params returnType body hconstruct =>
    have hadds : background.Adds (background.IsBodyInProgress draft)
        (background.typeOfFunction node returnType body) := adds_typeOfFunction fun inner hinner =>
      ⟨node, hbegun, params, returnType, inner, Option.mem_def.mp hinner ▸ hconstruct, rfl⟩
    refine hfits hconstruct rfl rfl (.adds_after hadds fun _ inner heq => ?_)
    obtain ⟨rfl, rfl, rfl⟩ := Construct.functionExpression.inj heq
    exact background.after_typeOfFunction_opens draft node inner
  next hcall _ hmember _ _ _ _ hparenthesized _ hassignment hfunction =>
    refine .pure (Fits.of_followsPart ?_ (fun _ _ => (hfunction _ _ _ · |>.elim)) fun _ => rfl)
    rcases hconstruct : background.tree.construct? node with _ | construct
    · rfl
    · cases construct with
      | callExpression => exact (hcall _ _ hconstruct).elim
      | memberExpression => exact (hmember _ _ hconstruct).elim
      | parenthesizedExpression => exact (hparenthesized _ hconstruct).elim
      | assignmentExpression => exact (hassignment _ _ hconstruct).elim
      | _ => rfl

/-- **Typing an expression that is a name** gives the answer to that name. -/
theorem names_typeOfExpression (h : background.QuestionsTold told plain)
    {toldResult : Nat → TypeId → Told (Option TypeId)}
    {plainResult : Nat → TypeId → Inference Option (Option TypeId)} (hbusy : draft.inProgress ≠ [])
    (budget : Nat) {node : NodeId} {post : Option TypeId → Draft → Prop}
    (hexpression : background.Tracks (background.typeOfExpression told toldResult budget node)
      (background.typeOfExpression plain plainResult budget node) draft post) :
    background.Tracks (background.typeOfExpression told toldResult budget node)
      (background.typeOfExpression plain plainResult budget node) draft fun type? new =>
        post type? new ∧ background.Names new node type? := by
  refine hexpression.and ?_
  rcases hname : background.tree.nameAt? node with _ | name
  · exact hexpression.imp fun _ _ _ _ _ _ => .of_nameAt?_eq_none hname
  · simp only [Background.typeOfExpression, SyntaxTree.construct?_of_nameAt? hname]
    exact h.typeOfName hbusy budget hname

end QuestionsTold

/-- **Typing expressions is told of**, whatever the fuel. -/
theorem questionsTold_infer (background : Background) (fuel : Nat) :
    background.QuestionsTold (background.infer background.resultOfCall fuel)
      (background.infer background.resultOfCall fuel) := by
  induction fuel with
  | zero =>
    refine ⟨fun draft budget node hfull hnode => ?_⟩
    unfold infer
    refine Tracks.get ?_
    split
    next known hknown => exact .pure (by simp [hknown])
    next hunknown => exact .pure (by simp [hunknown])
  | succ fuel ih =>
    refine ⟨fun draft budget node hfull hnode => ?_⟩
    unfold infer
    refine Tracks.get ?_
    split
    next known hknown => exact .pure (by simp [hknown])
    next hunknown =>
      dsimp only
      split
      · exact .pure (by simp [hunknown])
      next hbegins =>
        intro hsound
        have hidle : node ∉ draft.inProgress := by
          intro hmem
          simp [hmem] at hbegins
        let begun : Draft := { draft with inProgress := node :: draft.inProgress }
        have hbegin : Tells
            (modify fun draft => { draft with inProgress := node :: draft.inProgress })
            (modify fun draft => { draft with inProgress := node :: draft.inProgress }) draft
            fun through _ new => through = [draft] ∧ new = begun := Tells.modify ⟨rfl, rfl⟩
        refine hbegin.bind ?_
        rintro _ _ _ ⟨rfl, rfl⟩
        have hbegun : background.IsSound begun :=
          (Move.begins hnode hunknown hidle).isSound hsound
        have hmem : node ∈ begun.inProgress := List.mem_cons_self
        have hexpression := ih.names_typeOfExpression (List.ne_nil_of_mem hmem) (budget - 1) <|
          ih.typeOfExpression (fun now hnow budget callee => ih.resultOfCall hnow budget callee)
            hmem hnode (budget - 1)
        refine (hexpression hbegun).with_run.bind ?_
        rintro through type? new ⟨⟨hpasses, hfits, hnames⟩, hrun⟩
        -- a question that no other one led to has the full budget
        have hallowed : new.inProgress = [node] ∧ 0 < background.maxDepth → 0 < budget - 1 := by
          rintro ⟨halone, hdepth⟩
          have hsame : node :: draft.inProgress = [node] := hpasses.inProgress_eq.symm.trans halone
          have hbudget := hfull (List.cons.inj hsame).2
          rw [Background.budget] at hbudget
          omega
        let answered : Draft := { new with
          inProgress := new.inProgress.erase node
          inferred := new.inferred.insert node type? }
        have hanswer : Tells
            (modify fun draft => { draft with
              inProgress := draft.inProgress.erase node
              inferred := draft.inferred.insert node type? })
            (modify fun draft => { draft with
              inProgress := draft.inProgress.erase node
              inferred := draft.inferred.insert node type? }) new
            fun through _ last => through = [new] ∧ last = answered := Tells.modify ⟨rfl, rfl⟩
        refine hanswer.bind ?_
        rintro _ _ _ ⟨rfl, rfl⟩
        refine Tells.pure ⟨?_, by simp [answered]⟩
        rw [List.append_nil]
        exact hpasses.answers hsound hnode hunknown hidle (hfits.imp hallowed) hnames
          ⟨begun, fuel, budget - 1, hbegun, hmem, hrun⟩

end Background

end StreamLint
