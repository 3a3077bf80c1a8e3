import StreamLint.Proofs.Model.Counting
import StreamLint.Proofs.Model.Finished
/-!
# Kinds of places

A place of the table belongs to a generic parameter, to a name that is declared, to a type that
needs no declaration, or to a type that is put together of others; and no place is of two kinds
(`StreamLint.Background.Sorts`). So what is written as one of them cannot be taken for another one:
in a type that is seen through arguments, for instance, the parameters are replaced where they have
been written, and nowhere else.

This holds of a finished draft (`StreamLint.Background.sorts_of_finish`), and it holds of the names
of the prelude because the prelude has been made of a finished draft, too.
-/

namespace StreamLint

/-- The entry is one that a declaration of a type leaves. -/
def TypeEntry.isDeclared : TypeEntry → Bool
  | .declared _ | .alias .. | .unknown => true
  | _ => false

namespace Background

open Draft

variable {background : Background} {draft old new : Draft}

/-- **The kinds of places.** -/
structure Sorts (background : Background) (draft : Draft) : Prop where
  /-- Generic parameters. -/
  params : ∀ (node : NodeId) (params : List (String × TypeId)),
    draft.typeParams[node]? = some params → ∀ param ∈ params,
      ∃ name bound, draft.table.get? param.2 = some (.parameter name bound)
  /-- Names that are declared. -/
  names : ∀ (name : String) (id : TypeId), background.typeNamed? draft name = some id →
    ∃ entry, draft.table.get? id = some entry ∧ entry.isDeclared = true
  /-- Types that need no declaration. -/
  initial : draft.table.Continues .initial

/-! ### Generic parameters -/

/-- Defining the declarations of a file leaves the other places as they are. -/
theorem after_defineAll_get?_eq {declarations : List (NodeId × TypeId)}
    (hdeclarations : ∀ declaration ∈ declarations, background.tree.IsReached declaration.1 ∧
      ((background.tree.construct? declaration.1).any (·.declaresType)) = true) :
    After (background.defineAll declarations) draft fun _ new => ∀ id : Nat, draft.table.Has id →
      (∀ declaration ∈ declarations, declaration.2 ≠ id) →
        new.table.get? id = draft.table.get? id := by
  induction declarations generalizing draft with
  | nil => exact After.pure fun _ _ _ => rfl
  | cons declaration rest ih =>
    obtain ⟨node, own⟩ := declaration
    obtain ⟨⟨hreached, hdeclares⟩, hrest⟩ := List.forall_mem_cons.mp hdeclarations
    simp only [defineAll]
    refine (after_declaredData_declaredBy hreached hdeclares own).bind ?_
    rintro _ new ⟨hnew, data, rfl, -⟩
    have hdefine : After (Draft.define own data) new fun _ defined =>
        defined.table.size = new.table.size ∧
          ∀ id : Nat, own ≠ id → defined.table.get? id = new.table.get? id :=
      ⟨TypeTable.size_define .., fun id hne => TypeTable.get?_define_of_ne hne⟩
    refine hdefine.bind ?_
    rintro _ defined ⟨hsize, hother⟩
    refine (ih hrest).imp fun _ last hlast id hid hnone => ?_
    obtain ⟨hne, hnone⟩ := List.forall_mem_cons.mp hnone
    have hdefined := (hother id hne).trans (hnew.get?_eq id hid)
    refine (hlast id ?_ hnone).trans hdefined
    rw [TypeTable.Has, hsize]
    exact hnew.has hid

/-! ### Names -/

theorem after_declareType_typeNames (draft : Draft) (node : NodeId) (isClass : Bool)
    (name? : Option String) :
    After (declareType node isClass name?) draft fun id? new => ∀ (name : String) (id : TypeId),
      new.typeNames[name]? = some id → draft.typeNames[name]? = some id ∨ id? = some id := by
  have hnote : ∀ (id : TypeId) (now : Draft),
      (∀ (name : String) (other : TypeId), now.typeNames[name]? = some other →
        draft.typeNames[name]? = some other ∨ id = other) →
      After (do noteClass node id; return some id) now fun id? new =>
        ∀ (name : String) (other : TypeId), new.typeNames[name]? = some other →
          draft.typeNames[name]? = some other ∨ id? = some other :=
    fun id now hnow name other hother => (hnow name other hother).imp_right (congrArg some)
  cases name? with
  | some own =>
    have hdeclare : After (declareName own) draft fun id new => ∀ (name : String) (other : TypeId),
        new.typeNames[name]? = some other → draft.typeNames[name]? = some other ∨ id = other := by
      unfold declareName
      refine After.get ?_
      split
      next => exact After.pure fun name other => .inl
      next =>
        intro name other hother
        have hother : (draft.typeNames.insert own draft.table.size)[name]? = some other := hother
        rw [Std.TreeMap.getElem?_insert] at hother
        split at hother
        · exact .inr (Option.some.inj hother)
        · exact .inl hother
    refine hdeclare.bind fun id new hnew => ?_
    cases isClass with
    | true => exact hnote id new hnew
    | false => exact fun name other hother => (hnew name other hother).imp_right (congrArg some)
  | none =>
    cases isClass with
    | true => exact hnote _ _ fun name other => .inl
    | false => exact After.pure fun name other => .inl

/-- The names that have places after a node has been looked at: those before, and the one that the
node declares. -/
theorem after_declareNode_typeNames (draft : Draft) (node : NodeId) :
    After (background.declareNode node) draft fun id? new => ∀ (name : String) (id : TypeId),
      new.typeNames[name]? = some id → draft.typeNames[name]? = some id ∨ id? = some id := by
  simp only [declareNode]
  split
  next construct hconstruct =>
    split
    next name? params hgeneric =>
      have hparams : After (declareParams params) draft fun _ new =>
          background.Extends (fun _ => True) draft new ∧ _ :=
        IsPlaced.after_declareParams draft params
      refine hparams.bind ?_
      rintro ids new ⟨hnew, -⟩
      have hnote : After (noteParams node ids) new
          fun _ noted => noted.typeNames = new.typeNames := by
        simp only [noteParams]
        split <;> rfl
      refine hnote.bind fun _ noted hnoted => ?_
      refine (after_declareType_typeNames noted node _ name?).imp
        fun id? last hlast name id hid => ?_
      rw [← hnew.typeNames_eq, ← hnoted]
      exact hlast name id hid
    next => exact After.pure fun _ _ => .inl
  next => exact After.pure fun _ _ => .inl

/-- **A name has a place only if it is declared.** -/
theorem after_declareAll_typeNames (draft : Draft) (nodes : List NodeId) :
    After (background.declareAll nodes) draft fun declarations new =>
      ∀ (name : String) (id : TypeId), new.typeNames[name]? = some id →
        draft.typeNames[name]? = some id ∨ ∃ node, (node, id) ∈ declarations := by
  induction nodes generalizing draft with
  | nil => exact After.pure fun _ _ => .inl
  | cons node rest ih =>
    simp only [declareAll]
    refine (after_declareNode_typeNames draft node).bind fun id? new hnew => ?_
    cases id? with
    | some own =>
      refine (ih new).bind fun declarations last hlast => After.pure fun name id hid => ?_
      rcases hlast name id hid with hid | ⟨other, hmem⟩
      · refine (hnew name id hid).imp_right ?_
        rintro ⟨⟩
        exact ⟨node, List.mem_cons_self⟩
      · exact .inr ⟨other, List.mem_cons_of_mem _ hmem⟩
    | none =>
      refine (ih new).imp fun declarations last hlast name id hid => ?_
      rcases hlast name id hid with hid | hdeclared
      · exact .inl ((hnew name id hid).resolve_right (by simp))
      · exact .inr hdeclared

/-! ### The whole file -/

/-- **Generic parameters have places of their own**, once the names of a file are bound. -/
theorem exists_parameter_bound (hprelude : background.prelude.IsClosed) {node : NodeId}
    {params : List (String × TypeId)} (hparams : background.bound.typeParams[node]? = some params) :
    ∀ param ∈ params, ∃ name bound,
      background.bound.table.get? param.2 = some (.parameter name bound) := by
  intro param hparam
  rw [(isGround_bound hprelude).2.typeParams] at hparams
  rw [(grows_bound hprelude).get?_eq _
    ((keeps_defined hprelude).closed.typeParams node params hparams param hparam)]
  rw [(isGround_defined hprelude).2.1.typeParams] at hparams
  -- the declared types have not been defined yet, so none of them is at the place
  have hplaced := @isPlaced_bounded background
  obtain ⟨name, bound, hentry⟩ := hplaced.params node params hparams param hparam
  have hkept : background.defined.table.get? param.2 = background.bounded.table.get? param.2 := by
    refine after_defineAll_get?_eq declares_of_mem_declarations param.2
      (TypeTable.has_of_get? hentry) fun declaration hmem heq => ?_
    have hunknown := hplaced.unknown declaration hmem
    rw [heq, hentry] at hunknown
    cases hunknown
  exact ⟨name, bound, hkept.trans hentry⟩

/-- **A name has the place of one of its declarations**, once the names of a file are bound. -/
theorem exists_declaration_bound (hprelude : background.prelude.IsClosed) {name : String}
    {id : TypeId} (hid : background.bound.typeNames[name]? = some id) :
    ∃ node, (node, id) ∈ background.declarations := by
  rw [(sameNames_bound hprelude).typeNames] at hid
  refine (after_declareAll_typeNames background.start background.tree.preorder name id
    hid).resolve_left ?_
  simp [start]

/-- To the end of a file, the draft passes on. -/
theorem exists_passes_of_finish (hprelude : background.prelude.IsClosed)
    (h : background.finish background.resultOfCall = some draft) :
    ∃ through, background.Passes background.bound through draft := by
  obtain ⟨⟨⟨⟩, last⟩, hrun, hlast⟩ := Option.bind_eq_some_iff.mp h
  obtain rfl := Option.some.inj hlast
  have hrest : (do
      background.inferAll background.resultOfCall background.expressions
      background.settleEach background.resultOfCall (← get).deferred.keys :
        Inference Option Unit).run background.bound = some ((), last) := hrun
  simp only [StateT.run_bind, Option.bind_eq_bind, Option.bind_eq_some_iff] at hrest
  obtain ⟨⟨⟨⟩, typed⟩, hinfer, _, ⟨⟩, hsettle⟩ := hrest
  have hbound := isBound_bound hprelude
  have hidle := hbound.ground.inProgress
  obtain ⟨_, -, htyped, -⟩ := tracks_inferAll hidle (fun _ => isReached_of_mem_expressions)
    hbound.isSound () typed hinfer
  obtain ⟨_, -, hend, -⟩ := tracks_settleKeys (htyped.inProgress_eq.trans hidle)
    (htyped.isSound hbound.isSound) () last hsettle
  exact ⟨_, htyped.trans hend⟩

/-- **A declared name of a file** is at a place of its kind. -/
theorem names_of_finish (hprelude : background.prelude.IsClosed)
    (h : background.finish background.resultOfCall = some draft) {name : String} {id : TypeId}
    (hid : draft.typeNames[name]? = some id) :
    ∃ entry, draft.table.get? id = some entry ∧ entry.isDeclared = true := by
  obtain ⟨_, hpasses⟩ := exists_passes_of_finish hprelude h
  rw [hpasses.course.sameNames.typeNames] at hid
  obtain ⟨node, hmem⟩ := exists_declaration_bound hprelude hid
  have hbound := isBound_bound hprelude
  obtain ⟨_, entry, -, hentry, hdeclared⟩ := hbound.declared _ hmem
  refine ⟨entry, (hpasses.get?_eq id (hbound.settled _ hmem)).trans hentry, ?_⟩
  cases hdeclared <;> rfl

/-- **The places of a finished draft are of different kinds.** -/
theorem sorts_of_finish (hprelude : background.prelude.IsBuilt)
    (h : background.finish background.resultOfCall = some draft) : background.Sorts draft := by
  have hclosed := hprelude.isClosed
  have hcontinues := continues_of_finish hclosed h
  refine ⟨fun node params hparams param hparam => ?_, fun name id hid => ?_,
    hprelude.continues.trans hcontinues⟩
  · obtain ⟨_, hpasses⟩ := exists_passes_of_finish hclosed h
    rw [hpasses.course.sameNames.typeParams] at hparams
    obtain ⟨name, bound, hentry⟩ := exists_parameter_bound hclosed hparams param hparam
    exact ⟨name, bound, hpasses.get?_eq_some hentry (by simp)⟩
  · unfold typeNamed? at hid
    split at hid
    next found hfound =>
      obtain rfl := Option.some.inj hid
      exact names_of_finish hclosed h hfound
    next =>
      -- the prelude is the finished draft of another file
      obtain ⟨entry, hentry, hdeclared⟩ : ∃ entry, background.prelude.table.get? id = some entry ∧
          entry.isDeclared = true := by
        rcases hprelude with hempty | ⟨tree, htree⟩
        · simp [hempty, Prelude.empty] at hid
        · obtain ⟨first, hfirst, hmade⟩ := Option.bind_eq_some_iff.mp htree
          rw [← Option.some.inj hmade] at hid ⊢
          refine names_of_finish ?_ hfirst hid
          exact Prelude.isClosed_empty
      exact ⟨entry, (hcontinues.get?_eq id (TypeTable.has_of_get? hentry)).trans hentry, hdeclared⟩

end Background

end StreamLint
