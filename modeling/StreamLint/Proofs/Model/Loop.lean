import Mathlib.Logic.Relation
import StreamLint.Proofs.Model.Declared
/-!
# Unions that lie in themselves

What a call returns is looked for in the members of unions, however deep they lie. The search comes
to no end if it gets into a *loop*: a union that is what a member of a member … of itself stands for
(`StreamLint.Loop.LiesInItself`). `StreamLint.Background.guardedResult` is the same search with a
guard: it remembers the unions that it is in, and stops at one that it meets again, with the loop as
its result.

The whole point of `StreamLint.Agrees` is to compare the two searches, and everything built on them:
if the guarded computation gives a result, so does the plain one, and it is the same; if it stops at
a loop, then the loop is one, and the plain computation comes to no end.
-/

namespace StreamLint

/-! ### Loops -/

/-- What a type stands for in the end, if that is found in a number of steps over settled types. -/
def Draft.settledShape? (draft : Draft) : Nat → TypeId → Option TypeId
  | 0, type => some type
  | steps + 1, type =>
    match draft.deferred[type]? with
    | some _ => none
    | none =>
      match draft.table.standsFor? type with
      | some next => if next == type then some type else draft.settledShape? steps next
      | none => some type

/-- There is a union at `outer`, and one of its members stands for `inner`. -/
def Draft.Holds (draft : Draft) (steps : Nat) (outer inner : TypeId) : Prop :=
  ∃ members, draft.table.get? outer = some (.union members) ∧
    ∃ member ∈ members, draft.settledShape? steps member = some inner

/-- A union in a draft, met for the second time. -/
structure Loop where
  /-- The draft in which the union is met. -/
  draft : Draft
  /-- The place of the union. -/
  union : TypeId

/-- The union is what a member of a member … of itself stands for. -/
def Loop.LiesInItself (loop : Loop) (steps : Nat) : Prop :=
  Relation.TransGen (loop.draft.Holds steps) loop.union loop.union

/-! ### Loops stay

A step that only adds changes nothing that is settled, so a loop stays a loop. -/

namespace Draft

variable {prelude : Prelude} {draft old new : Draft}

/-- What a type stands for has a place. -/
theorem IsClosed.has_standsFor? (h : draft.IsClosed prelude) {type next : TypeId}
    (hnext : draft.table.standsFor? type = some next) : draft.table.Has next := by
  unfold TypeTable.standsFor? at hnext
  split at hnext
  next target hentry =>
    obtain rfl := Option.some.inj hnext
    exact h.has_places hentry target List.mem_cons_self
  next bound hentry =>
    exact h.has_places hentry next (Option.mem_toList.mpr hnext)
  next target _ _ =>
    split at hnext
    next aliased hentry =>
      obtain rfl := Option.some.inj hnext
      exact h.has_places hentry aliased List.mem_cons_self
    next => cases hnext
  next => cases hnext

theorem Grows.standsFor?_eq (hold : old.IsClosed prelude) (h : old.Grows prelude new)
    {type : TypeId} (htype : old.IsSettled type) :
    new.table.standsFor? type = old.table.standsFor? type := by
  -- the target of a reference is settled, so that the reference stays one to an alias or not
  have htarget : ∀ target arguments, old.table.get? type = some (.reference target arguments) →
      new.table.get? target = old.table.get? target :=
    fun target arguments hentry =>
      h.get?_eq target ((hold.entries type _ hentry).2 target arguments rfl)
  simp only [TypeTable.standsFor?, h.get?_eq type htype]
  split
  · rfl
  · rfl
  next target arguments hentry => rw [htarget target arguments hentry]
  · rfl

/-- What a type stands for in the end, it stands for after a step that only adds. -/
theorem Grows.settledShape?_eq_some (hold : old.IsClosed prelude) (h : old.Grows prelude new)
    {steps : Nat} {type shape : TypeId} (htype : old.table.Has type)
    (hshape : old.settledShape? steps type = some shape) :
    new.settledShape? steps type = some shape := by
  induction steps generalizing type with
  | zero => exact hshape
  | succ steps ih =>
    unfold settledShape? at hshape ⊢
    split at hshape
    next => cases hshape
    next hdeferred =>
      have hsettled : old.IsSettled type := ⟨htype, hdeferred⟩
      -- the first step goes over a settled type, so it is the same one in both drafts
      rw [(h.settled type hsettled).2, h.standsFor?_eq hold hsettled]
      dsimp only
      split at hshape
      next next hnext =>
        split at hshape
        next heq =>
          rw [if_pos heq]
          exact hshape
        next hne =>
          rw [if_neg hne]
          exact ih (hold.has_standsFor? hnext) hshape
      next => exact hshape

theorem Grows.holds (hold : old.IsClosed prelude) (h : old.Grows prelude new) {steps : Nat}
    {outer inner : TypeId} (hholds : old.Holds steps outer inner) :
    new.Holds steps outer inner := by
  obtain ⟨members, hunion, member, hmember, hshape⟩ := hholds
  have hhas : old.table.Has member := hold.has_places hunion member hmember
  exact ⟨members, h.get?_eq_some hold hunion (by simp), member, hmember,
    h.settledShape?_eq_some hold hhas hshape⟩

/-- **A union that lies in itself goes on doing so.** -/
theorem Grows.liesInItself (hold : old.IsClosed prelude) (h : old.Grows prelude new) {steps : Nat}
    {union : TypeId} (hloop : (Loop.mk old union).LiesInItself steps) :
    (Loop.mk new union).LiesInItself steps :=
  hloop.lift id fun _ _ => h.holds hold

end Draft

/-! ### The search with a guard -/

section

variable {n : Type → Type} [Monad n] [MonadStateOf Draft n]

/-- What calling returns for each of the types, joined. -/
def joinResults (again : TypeId → n (Option TypeId)) (members : List TypeId) :
    n (Option TypeId) := do
  let results ← members.mapM again
  joinTypes (results.filterMap id)

namespace Background

variable (background : Background)

/-- What calling a value of a type returns, where `ofUnion` answers for a union and its members. -/
def resultBy (ask : Question n) (ofUnion : TypeId → List TypeId → n (Option TypeId))
    (budget : Nat) (callee : TypeId) : n (Option TypeId) := do
  let shape ← background.shapeOf ask budget callee
  match (← get).table.get? shape with
  | some (.function result) =>
    background.settle ask budget result
    return some result
  | some (.union members) => ofUnion shape members
  | _ => return none

end Background

end

namespace Background

variable (background : Background) (ask : Question (Inference (Except Loop)))

/-- What calling a value returns once no budget is left, below the unions of `path`. -/
def resultAtRest : Nat → List TypeId → TypeId → Inference (Except Loop) (Option TypeId)
  | 0, _, _ => return none
  | fuel + 1, path, callee =>
    background.resultBy ask (fun shape members => do
      if path.contains shape then throw ⟨← get, shape⟩
      else joinResults (resultAtRest fuel (shape :: path)) members) 0 callee

/-- What calling a value returns, unless that is looked for in a loop. Without budget the search
meets no more unions than there are types in the table and types to be found out. -/
def guardedResult : Nat → TypeId → Inference (Except Loop) (Option TypeId)
  | 0, callee => do
    let draft ← get
    background.resultAtRest ask (draft.table.size + draft.deferred.size + 1) [] callee
  | budget + 1, callee =>
    background.resultBy ask (fun _ members => joinResults (guardedResult budget) members)
      (budget + 1) callee

/-- **The search without a guard**, one step of it. -/
theorem resultOfCall_eq (ask : Question (Inference Option)) (budget : Nat) (callee : TypeId) :
    background.resultOfCall ask budget callee =
      background.resultBy ask
        (fun _ members => joinResults (background.resultOfCall ask (budget - 1)) members)
        budget callee := by
  funext draft
  rw [resultOfCall.eq_1]
  rfl

end Background

/-! ### Agreement -/

/-- **The guarded computation agrees with the plain one**: a result is the result of both, and then
`post` holds; a loop lies in itself, and the plain computation comes to no end. -/
def Agrees {α : Type} (steps : Nat) (guarded : Inference (Except Loop) α)
    (plain : Inference Option α) (draft : Draft) (post : α → Draft → Prop) : Prop :=
  match guarded.run draft with
  | .ok (value, new) => plain.run draft = some (value, new) ∧ post value new
  | .error loop => plain.run draft = none ∧ loop.LiesInItself steps

namespace Agrees

variable {α β : Type} {steps : Nat} {draft : Draft}

theorem pure {value : α} {post : α → Draft → Prop} (h : post value draft) :
    Agrees steps (pure value) (pure value) draft post :=
  ⟨rfl, h⟩

/-- A step that comes to an end agrees with itself. -/
theorem lift {action : StateM Draft α} {post : α → Draft → Prop}
    (h : Draft.After action draft post) :
    Agrees steps (liftM action) (liftM action) draft post :=
  ⟨rfl, h⟩

/-- **One computation after the other.** -/
theorem bind {guarded : Inference (Except Loop) α} {plain : Inference Option α}
    {guardedNext : α → Inference (Except Loop) β} {plainNext : α → Inference Option β}
    {middle : α → Draft → Prop} {post : β → Draft → Prop}
    (h : Agrees steps guarded plain draft middle)
    (hnext : ∀ value new, middle value new →
      Agrees steps (guardedNext value) (plainNext value) new post) :
    Agrees steps (guarded >>= guardedNext) (plain >>= plainNext) draft post := by
  unfold Agrees at h ⊢
  simp only [StateT.run_bind]
  rcases hrun : guarded.run draft with loop | ⟨value, new⟩
  · rw [hrun] at h
    -- a loop in the first computation is one of both together
    obtain ⟨hplain, hloop⟩ := h
    rw [hplain]
    exact ⟨rfl, hloop⟩
  · rw [hrun] at h
    obtain ⟨hplain, hmiddle⟩ := h
    rw [hplain]
    exact hnext value new hmiddle

/-- Looking at the draft. -/
theorem get {guardedNext : Draft → Inference (Except Loop) β}
    {plainNext : Draft → Inference Option β} {post : β → Draft → Prop}
    (h : Agrees steps (guardedNext draft) (plainNext draft) draft post) :
    Agrees steps (get >>= guardedNext) (get >>= plainNext) draft post :=
  h

/-- Changing the draft. -/
theorem modify {change : Draft → Draft} {guardedNext : Unit → Inference (Except Loop) β}
    {plainNext : Unit → Inference Option β} {post : β → Draft → Prop}
    (h : Agrees steps (guardedNext ()) (plainNext ()) (change draft) post) :
    Agrees steps (modify change >>= guardedNext) (modify change >>= plainNext) draft post :=
  h

theorem imp {guarded : Inference (Except Loop) α} {plain : Inference Option α}
    {post post' : α → Draft → Prop} (h : Agrees steps guarded plain draft post)
    (himp : ∀ value new, post value new → post' value new) :
    Agrees steps guarded plain draft post' := by
  unfold Agrees at h ⊢
  split at h
  next value new _ => exact ⟨h.1, himp value new h.2⟩
  next => exact h

theorem and {guarded : Inference (Except Loop) α} {plain : Inference Option α}
    {post post' : α → Draft → Prop} (h : Agrees steps guarded plain draft post)
    (h' : Agrees steps guarded plain draft post') :
    Agrees steps guarded plain draft fun value new => post value new ∧ post' value new := by
  unfold Agrees at h h' ⊢
  split at h
  next hrun =>
    rw [hrun] at h'
    exact ⟨h.1, h.2, h'.2⟩
  next => exact h

/-- Computations that give a place, as an answer that there is one. -/
theorem answer {guarded : Inference (Except Loop) TypeId} {plain : Inference Option TypeId}
    {prelude : Prelude} {old : Draft}
    (h : Agrees steps guarded plain draft fun id new =>
      old.Grows prelude new ∧ new.table.Has id) :
    Agrees steps (guarded >>= fun id => Pure.pure (some id))
      (plain >>= fun id => Pure.pure (some id)) draft (old.Gives prelude) := by
  refine h.bind ?_
  rintro id new ⟨hnew, hid⟩
  exact Agrees.pure (hnew.gives_some hid)

/-- A plain computation that comes to an end has the result of the guarded one. -/
theorem post_of_eq_some {guarded : Inference (Except Loop) α} {plain : Inference Option α}
    {post : α → Draft → Prop} (h : Agrees steps guarded plain draft post) {value : α} {new : Draft}
    (hrun : plain.run draft = some (value, new)) : post value new := by
  unfold Agrees at h
  split at h
  next =>
    obtain ⟨rfl, rfl⟩ := Prod.mk.inj (Option.some.inj (h.1.symm.trans hrun))
    exact h.2
  next => exact absurd (h.1.symm.trans hrun) (by simp)

end Agrees

end StreamLint
