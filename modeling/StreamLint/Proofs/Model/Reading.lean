import StreamLint.Proofs.Model.Compositional
import StreamLint.Proofs.Model.Instances
/-!
# What is read from a declared type

A member that is read from a class or interface is seen through the arguments that have been given
to it (`StreamLint.Bindings.ReadsMember`). As with other types that are made of those of the parts,
this holds of an expression that is answered in its turn
(`StreamLint.Background.readsMember_of_finish`).
-/

namespace StreamLint

namespace TypeTable

/-- The type is the declared one, or a reference to it with arguments. -/
def IsApplied (table : TypeTable) (shape : TypeId) (declaration : NominalType)
    (arguments : List TypeId) : Prop :=
  table.get? shape = some (.declared declaration) ∧ arguments = [] ∨
    ∃ target, table.get? shape = some (.reference target arguments) ∧
      table.get? target = some (.declared declaration)

/-- **The value is that of the member, seen through the arguments**: a property has its type, and a
method is a function that returns it. -/
def IsValueOf (table : TypeTable) (params arguments : List TypeId) (depth : Nat)
    (member : Member TypeId) (value : TypeId) : Prop :=
  match member.kind with
  | .property => table.Instance params arguments depth member.type value
  | .method => ∃ result, table.get? value = some (.function result) ∧
      table.Instance params arguments depth member.type result

/-- A type that is declared, or a reference to a declared type, stands for itself. -/
theorem IsApplied.standsFor?_eq_none {table : TypeTable} {shape : TypeId}
    {declaration : NominalType} {arguments : List TypeId}
    (h : table.IsApplied shape declaration arguments) : table.standsFor? shape = none := by
  rcases h with ⟨hentry, -⟩ | ⟨target, hentry, htarget⟩
  · simp only [standsFor?, hentry]
  · simp only [standsFor?, hentry, htarget]

theorem IsValueOf.mono {old new : TypeTable} {params arguments : List TypeId} {depth : Nat}
    {member : Member TypeId} {value : TypeId} (hnew : old.KeepsOpen new)
    (hold : ∀ (id : TypeId) (entry : TypeEntry), old.get? id = some entry →
      ∀ place ∈ entry.places, old.Has place) (hmember : old.Has member.type)
    (h : old.IsValueOf params arguments depth member value) :
    new.IsValueOf params arguments depth member value := by
  obtain ⟨name, kind, type⟩ := member
  cases kind with
  | property => exact TypeTable.Instance.mono hnew hold hmember h
  | method =>
    obtain ⟨result, hvalue, hresult⟩ := h
    exact ⟨result, hnew.get?_eq_some rfl hvalue, hresult.mono hnew hold hmember⟩

end TypeTable

/-- **A member that is read from a declared type** is seen through the arguments given to it. -/
def Bindings.ReadsMember (bindings : Bindings) (tree : SyntaxTree) (limits : Limits)
    (node : NodeId) : Prop :=
  ∀ object property name type declaration arguments member,
    tree.construct? node = some (.memberExpression object property) →
    tree.nameAt? property = some name → bindings.nodeTypes[object]? = some type →
    bindings.table.IsApplied (bindings.table.shapeWithin limits.resolutionDepth type) declaration
      arguments →
    declaration.members.find? (·.name == name) = some member →
    ∃ value, bindings.nodeTypes[node]? = some value ∧
      bindings.table.IsValueOf declaration.params arguments limits.resolutionDepth member value

/-- A declared type stands for itself. -/
theorem Draft.IsClosed.settledShape?_eq_self {prelude : Prelude} {draft : Draft}
    (h : draft.IsClosed prelude) {type : TypeId} {declaration : NominalType}
    (hentry : draft.table.get? type = some (.declared declaration)) (steps : Nat) :
    draft.settledShape? steps type = some type := by
  cases steps with
  | zero => rfl
  | succ steps =>
    have hsettled := (h.isSettled hentry (by simp)).2
    simp only [settledShape?, hsettled, TypeTable.standsFor?, hentry]

/-- The type of a member of a declared type is in use. -/
theorem Draft.IsClosed.has_member {prelude : Prelude} {draft : Draft} (h : draft.IsClosed prelude)
    {type : TypeId} {declaration : NominalType}
    (hentry : draft.table.get? type = some (.declared declaration)) {test : Member TypeId → Bool}
    {member : Member TypeId} (hfound : declaration.members.find? test = some member) :
    draft.table.Has member.type := by
  refine h.has_places hentry member.type ?_
  simp only [TypeEntry.places, List.mem_append]
  exact .inr (List.mem_map_of_mem (List.mem_of_find?_eq_some hfound))

namespace Background

open Draft

variable {background : Background} {draft : Draft}

/-- What a computation is told of, it yields. -/
theorem Tracks.yields {α : Type} {told : Told α} {plain : Inference Option α}
    {post : α → Draft → Prop} (h : background.Tracks told plain draft post)
    (hsound : background.IsSound draft) :
    Yields plain draft fun value new =>
      (∃ through, background.Passes draft through new) ∧ post value new := by
  intro value new hrun
  obtain ⟨through, -, hpasses, hpost⟩ := h hsound value new hrun
  exact ⟨⟨through, hpasses⟩, hpost⟩

/-- **The value of a member**, where the type has been seen through the arguments. -/
theorem yields_valueOfMember (hsound : background.IsSound draft)
    (hdraft : draft.IsClosed background.prelude) (hbusy : draft.inProgress ≠ []) (fuel budget : Nat)
    {params arguments : List TypeId} {depth : Nat} {member : Member TypeId}
    (hmember : draft.table.Has member.type) {type : TypeId}
    (hinstance : draft.table.Instance params arguments depth member.type type) :
    Yields (background.valueOfMember (background.infer background.resultOfCall fuel) budget
      member.kind type) draft fun value new =>
        new.table.IsValueOf params arguments depth member value := by
  have htold := questionsTold_infer background fuel
  have hlater : ∀ {through : List Draft} {new : Draft}, background.Course draft through new →
      new.table.Instance params arguments depth member.type type := fun hcourse =>
    hinstance.mono hcourse.keepsOpen (fun _ _ => hdraft.has_places) hmember
  simp only [valueOfMember]
  refine ((htold.settle (absurd · hbusy) type).yields hsound).bind ?_
  rintro _ new ⟨⟨through, hpasses⟩, -⟩
  obtain ⟨name, kind, own⟩ := member
  cases kind with
  | property => exact Yields.pure (hlater hpasses.course)
  | method =>
    have hpush : background.Passes new [new] ((Draft.push (.function type)).run new).2 :=
      .adds (Adds.push (by simp) new)
    exact Yields.lift ⟨type, TypeTable.get?_push .., hlater (hpasses.trans hpush).course⟩

/-- **A member of a declared type's own**, seen through arguments. -/
theorem yields_memberOfDeclared (hsound : background.IsSound draft)
    (hdraft : draft.IsClosed background.prelude) (hbusy : draft.inProgress ≠ []) (fuel budget : Nat)
    {memberOf : TypeId → Inference Option (Option TypeId)} {declaration : NominalType}
    {arguments : List TypeId} (harguments : ∀ id ∈ arguments, draft.table.Has id) {name : String}
    {member : Member TypeId} (hfound : declaration.members.find? (·.name == name) = some member)
    (hmember : draft.table.Has member.type) :
    Yields (background.memberOfDeclared (background.infer background.resultOfCall fuel) budget
      memberOf declaration arguments name) draft fun value? new => ∃ value, value? = some value ∧
        new.table.IsValueOf declaration.params arguments budget member value := by
  have htold := questionsTold_infer background fuel
  have hagree := questionsAgree_infer background fuel
  simp only [memberOfDeclared, hfound]
  have hsettle : Yields (background.settle (background.infer background.resultOfCall fuel) budget
      member.type) draft fun _ new =>
        (∃ through, background.Passes draft through new) ∧ draft.Grows background.prelude new :=
    fun _ new hrun => ⟨((htold.settle (absurd · hbusy) member.type).yields hsound _ new hrun).1,
      (Yields.ofAgrees (hagree.settle hdraft budget member.type) _ new hrun).1⟩
  refine hsettle.bind ?_
  rintro _ new ⟨⟨_, hpasses⟩, hnew⟩
  have hadds : background.Adds (background.IsBodyInProgress new)
    (substitute declaration.params arguments budget member.type) := adds_substitute _ _ _ _
  have hsubstitute := (hadds.after new).and (hnew.closed.after_substitute_sees declaration.params
    (hnew.has_all harguments) budget (hnew.has hmember))
  refine (Yields.lift hsubstitute).bind ?_
  rintro type seen ⟨hadded, hseen⟩
  have hseensound := (Passes.adds hadded).isSound (hpasses.isSound hsound)
  have hseenbusy : seen.inProgress ≠ [] := by
    rw [hadded.inProgress_eq, hpasses.inProgress_eq]
    exact hbusy
  refine (yields_valueOfMember hseensound hseen.closed hseenbusy fuel budget
    (hadded.has (hnew.has hmember)) hseen.isInstance).bind fun value last hlast => ?_
  exact Yields.pure ⟨value, rfl, hlast⟩

/-- **Looking for a member of its own in a declared type**, with budget. -/
theorem yields_member_isValueOf (hsound : background.IsSound draft)
    (hdraft : draft.IsClosed background.prelude) (hbusy : draft.inProgress ≠ []) (fuel : Nat)
    {budget : Nat} (hbudget : 0 < budget) (name : String) {type : TypeId}
    (htype : draft.table.Has type) :
    Yields
      (background.typeOfMember (background.infer background.resultOfCall fuel) name budget type)
      draft fun value? new => ∃ shape, background.LeadsTo new type shape ∧
        ∀ declaration arguments member, new.table.IsApplied shape declaration arguments →
          declaration.members.find? (·.name == name) = some member →
            ∃ value, value? = some value ∧
              new.table.IsValueOf declaration.params arguments budget member value := by
  have htold := questionsTold_infer background fuel
  have hagree := questionsAgree_infer background fuel
  intro value? new hrun
  obtain ⟨budget, rfl⟩ := Nat.exists_eq_succ_of_ne_zero (Nat.ne_of_gt hbudget)
  simp only [typeOfMember, StateT.run_bind] at hrun
  obtain ⟨⟨shape, now⟩, hshape, hrest⟩ := Option.bind_eq_some_iff.mp hrun
  obtain ⟨⟨_, hpasses⟩, -⟩ := (htold.shapeOf (absurd · hbusy) type).yields hsound shape now hshape
  obtain ⟨hnow, hhas, hsettled⟩ :=
    Yields.ofAgrees (hagree.shapeOf hdraft (budget + 1) htype) shape now hshape
  have hnowsound := hpasses.isSound hsound
  have hnowbusy : now.inProgress ≠ [] := hpasses.inProgress_eq ▸ hbusy
  -- to follow the type again changes nothing, so that the rest, too, passes on
  have hagain : (background.typeOfMember (background.infer background.resultOfCall fuel) name
      (budget + 1) type).run now = some (value?, new) := by
    simp only [typeOfMember, StateT.run_bind]
    have hfollow : (background.shapeOf (background.infer background.resultOfCall fuel) (budget + 1)
        type).run now = some (shape, now) := run_shapeWithin_eq _ _ hsettled
    rw [hfollow]
    exact hrest
  obtain ⟨⟨_, hlater⟩, -⟩ :=
    (htold.typeOfMember hnowbusy name (budget + 1) type).yields hnowsound value? new hagain
  refine ⟨shape, hlater.leadsTo hnowsound ⟨hsettled, hhas⟩, ?_⟩
  intro declaration arguments member happlied hfound
  rcases happlied with ⟨hentry, rfl⟩ | ⟨target, hentry, htarget⟩
  · have hentry := hlater.get?_eq_some_of_known hnowsound hhas hentry (by simp) (by simp)
    simp only [StateT.run_get, pure_bind, hentry] at hrest
    exact yields_memberOfDeclared hnowsound hnow.closed hnowbusy fuel (budget + 1) (by simp) hfound
      (hnow.closed.has_member hentry hfound) value? new hrest
  · have hentry := hlater.get?_eq_some_of_known hnowsound hhas hentry (by simp) (by simp)
    have hplaces := hnow.closed.has_places hentry
    have htarget := hlater.get?_eq_some_of_known hnowsound (hplaces target List.mem_cons_self)
      htarget (by simp) (by simp)
    have hfollow : (background.shapeOf (background.infer background.resultOfCall fuel) (budget + 1)
        target).run now = some (target, now) :=
      run_shapeWithin_eq _ _ (hnow.closed.settledShape?_eq_self htarget _)
    simp only [StateT.run_bind, StateT.run_get, pure_bind, hentry, hfollow, Option.bind_eq_bind,
      Option.bind_some, htarget] at hrest
    exact yields_memberOfDeclared hnowsound hnow.closed hnowbusy fuel (budget + 1)
      (fun id hid => hplaces id (List.mem_cons_of_mem _ hid)) hfound
      (hnow.closed.has_member htarget hfound) value? new hrest

/-- **A member expression was answered from the answer to its object** in `old`, and from what types
stand for in `new`. -/
def ReadsFrom (background : Background) (old new : Draft) (node : NodeId) (type? : Option TypeId) :
    Prop :=
  ∀ object property name type,
    background.tree.construct? node = some (.memberExpression object property) →
    background.tree.nameAt? property = some name → old.inferred[object]? = some (some type) →
    ∃ shape, background.LeadsTo new type shape ∧ ∀ declaration arguments member,
      new.table.IsApplied shape declaration arguments →
        declaration.members.find? (·.name == name) = some member →
          ∃ value, type? = some value ∧
            new.table.IsValueOf declaration.params arguments background.maxDepth member value

/-- What has been read stays so. -/
theorem ReadsFrom.passes {old new last : Draft} {node : NodeId} {type? : Option TypeId}
    (h : background.ReadsFrom old new node type?) (hnew : background.IsSound new)
    (hclosed : new.IsClosed background.prelude) {through : List Draft}
    (hpasses : background.Passes new through last) : background.ReadsFrom old last node type? := by
  intro object property name type hconstruct hname hobject
  obtain ⟨shape, hleads, hread⟩ := h object property name type hconstruct hname hobject
  refine ⟨shape, hpasses.leadsTo hnew hleads, fun declaration arguments member happlied hfound => ?_⟩
  have hdeclared : ∀ {id : TypeId}, new.table.Has id →
      last.table.get? id = some (.declared declaration) →
        new.table.get? id = some (.declared declaration) := fun hid hentry =>
    hpasses.get?_eq_some_of_known hnew hid hentry (by simp) (by simp)
  have hbefore : new.table.IsApplied shape declaration arguments ∧ new.table.Has member.type := by
    rcases happlied with ⟨hentry, rfl⟩ | ⟨target, hentry, htarget⟩
    · have hentry := hdeclared hleads.2 hentry
      exact ⟨.inl ⟨hentry, rfl⟩, hclosed.has_member hentry hfound⟩
    · have hentry :=
        hpasses.get?_eq_some_of_known hnew hleads.2 hentry (by simp) (by simp)
      have htarget := hdeclared (hclosed.has_places hentry target List.mem_cons_self) htarget
      exact ⟨.inr ⟨target, hentry, htarget⟩, hclosed.has_member htarget hfound⟩
  obtain ⟨value, htype, hvalue⟩ := hread declaration arguments member hbefore.1 hfound
  exact ⟨value, htype, hvalue.mono hpasses.course.keepsOpen (fun _ _ => hclosed.has_places) hbefore.2⟩

/-- **A question that is put in turn**, for a member expression. -/
theorem yields_question_readsFrom (hdepth : 0 < background.maxDepth)
    (hsound : background.IsSound draft) (hdraft : draft.IsClosed background.prelude)
    (hidle : draft.inProgress = []) {node : NodeId} (hreached : background.tree.IsReached node)
    (hunanswered : draft.inferred[node]? = none) :
    Yields (background.question background.resultOfCall background.budget node) draft fun _ new =>
      ∃ type?, new.inferred[node]? = some type? ∧ background.ReadsFrom draft new node type? := by
  refine yields_question hidle (absurd hunanswered) fun _ => ?_
  have hbegun : background.IsSound { draft with inProgress := node :: draft.inProgress } :=
    (Move.begins hreached hunanswered (by simp [hidle])).isSound hsound
  intro type? new hrun
  refine ⟨type?, by simp, fun object property name type hconstruct hname hobject => ?_⟩
  unfold typeOfExpression at hrun
  rw [hconstruct] at hrun
  dsimp only at hrun
  rw [hname] at hrun
  obtain ⟨shape, hleads, hread⟩ := yields_member_isValueOf hbegun { hdraft with } (by simp) _ hdepth
    name (hdraft.inferred object type hobject) type? new
    ((run_ofPart_eq (by exact hobject) _).symm.trans hrun)
  exact ⟨shape, ⟨(settledShape?_note new node type? _ _).trans hleads.1, hleads.2⟩, hread⟩

/-- **In a finished draft, a member expression that is answered in its turn** has the type of the
member, seen through the arguments. -/
theorem readsMember_of_finish (hprelude : background.prelude.IsClosed)
    (hlinked : background.tree.Linked)
    (h : background.finish background.resultOfCall = some draft)
    (hdeferred : draft.deferred.isEmpty = true) {limits : Limits}
    (hlimits : background.maxDepth = limits.resolutionDepth) (hdepth : 0 < background.maxDepth)
    {node : NodeId} (hturn : background.AnswersInTurn node) :
    draft.bindings.ReadsMember background.tree limits node := by
  obtain ⟨now, new, hturn⟩ := exists_turn_of_finish hprelude hlinked h hturn
  obtain ⟨answer, hquestion⟩ := hturn.asked
  obtain ⟨type?, hanswer, hread⟩ := yields_question_readsFrom hdepth hturn.sound hturn.closed
    hturn.idle hturn.reached hturn.unanswered answer new hquestion
  obtain ⟨_, htyped⟩ := hturn.typed
  obtain ⟨_, hrest⟩ := hturn.rest
  have hclosed : new.IsClosed background.prelude :=
    (Yields.ofAgrees ((questionsAgree_infer background background.budget).agrees now hturn.closed
      background.budget node) answer new hquestion).grows.closed
  have hread := hread.passes (htyped.isSound hturn.sound) hclosed hrest
  intro object property name type declaration arguments member hconstruct hname hobject happlied
    hfound
  have hbefore := hturn.parts _ hconstruct rfl object List.mem_cons_self type
    (TypedFrom.inferred_eq_some hobject)
  obtain ⟨shape, hleads, hread⟩ := hread object property name type hconstruct hname hbefore
  rw [← hlimits] at happlied
  obtain rfl := TypedFrom.eq_shapeWithin hdeferred hleads happlied.standsFor?_eq_none
  obtain ⟨value, rfl, hvalue⟩ := hread declaration arguments member happlied hfound
  refine ⟨value, ?_, hlimits ▸ hvalue⟩
  rw [draft.getElem?_nodeTypes, hrest.course.inferred_eq_some hanswer, Option.getD_some]

end Background

end StreamLint
