import StreamLint.Proofs.Model.Agreement
import StreamLint.Proofs.Model.Course
/-!
# Chronicles

What is kept beside the draft is left open by how the model of a file is made. Here it is a
chronicle: every change to the draft writes down the draft as it was before
(`StreamLint.Chronicle`). Making a model with a chronicle is the same computation; what is told of
it is that it comes to the same end and that the drafts it has written down are a course of moves
(`StreamLint.Tells`).

A computation that is told of and leaves alone what it finds *tracks* the plain one
(`StreamLint.Background.Tracks`). The rules for steps one after the other carry this along, so that
there is something to be shown about the moves themselves only where an expression is begun and
answered, and where a deferred type is taken up and defined.
-/

namespace StreamLint

/-- A draft, with the drafts that it has been before, the first one first. -/
structure Chronicle where
  /-- The draft as it is. -/
  draft : Draft
  /-- The draft as it was before each change. -/
  past : List Draft

namespace Chronicle

/-- All drafts, the latest one last. -/
def drafts (chronicle : Chronicle) : List Draft :=
  chronicle.past ++ [chronicle.draft]

/-- The chronicle after a change. -/
def record (chronicle : Chronicle) (new : Draft) : Chronicle :=
  ⟨new, chronicle.drafts⟩

end Chronicle

/-- Every change to the draft is written down. -/
instance {m : Type → Type} [Monad m] : MonadStateOf Draft (StateT Chronicle m) where
  get := fun chronicle => pure (chronicle.draft, chronicle)
  set draft := fun chronicle => pure ((), chronicle.record draft)
  modifyGet change := fun chronicle =>
    let (value, draft) := change chronicle.draft
    pure (value, chronicle.record draft)

/-- What extends a draft and keeps a chronicle of that, and may come to no end. -/
abbrev Told := StateT Chronicle Option

/-- **A computation with a chronicle tells of the one without**: if that comes to an end, so does
it, with the same result, whatever has been written down before; and what it writes down has to do
with the result as `post` says. -/
def Tells {α : Type} (told : Told α) (plain : Inference Option α) (draft : Draft)
    (post : List Draft → α → Draft → Prop) : Prop :=
  ∀ value new, plain.run draft = some (value, new) → ∃ through,
    (∀ past, told.run ⟨draft, past⟩ = some (value, ⟨new, past ++ through⟩)) ∧ post through value new

namespace Tells

variable {α β : Type} {draft : Draft}

theorem pure {value : α} {post : List Draft → α → Draft → Prop} (h : post [] value draft) :
    Tells (pure value) (pure value) draft post := by
  rintro _ _ ⟨⟩
  exact ⟨[], fun past => by rw [List.append_nil]; rfl, h⟩

/-- A step that comes to an end writes down the draft before it. -/
theorem lift {action : StateM Draft α} {post : List Draft → α → Draft → Prop}
    (h : post [draft] (action.run draft).1 (action.run draft).2) :
    Tells (liftM action) (liftM action) draft post := by
  intro value new hrun
  obtain ⟨rfl, rfl⟩ := Prod.mk.inj (Option.some.inj hrun)
  exact ⟨[draft], fun past => rfl, h⟩

theorem modify {change : Draft → Draft} {post : List Draft → Unit → Draft → Prop}
    (h : post [draft] () (change draft)) :
    Tells (modify change) (modify change) draft post := by
  rintro _ _ ⟨⟩
  exact ⟨[draft], fun past => rfl, h⟩

/-- Looking at the draft. -/
theorem get {toldNext : Draft → Told β} {plainNext : Draft → Inference Option β}
    {post : List Draft → β → Draft → Prop}
    (h : Tells (toldNext draft) (plainNext draft) draft post) :
    Tells ((get : Told Draft) >>= toldNext) (get >>= plainNext) draft post :=
  h

/-- **One computation after the other** writes down first what the one does and then the other. -/
theorem bind {told : Told α} {plain : Inference Option α} {toldNext : α → Told β}
    {plainNext : α → Inference Option β} {middle : List Draft → α → Draft → Prop}
    {post : List Draft → β → Draft → Prop} (h : Tells told plain draft middle)
    (hnext : ∀ through value new, middle through value new →
      Tells (toldNext value) (plainNext value) new fun through' => post (through ++ through')) :
    Tells (told >>= toldNext) (plain >>= plainNext) draft post := by
  intro value new hrun
  rw [StateT.run_bind] at hrun
  obtain ⟨⟨first, mid⟩, hfirst, hrest⟩ := Option.bind_eq_some_iff.mp hrun
  obtain ⟨through, htold, hmiddle⟩ := h first mid hfirst
  obtain ⟨through', htold', hpost⟩ := hnext through first mid hmiddle value new hrest
  refine ⟨through ++ through', fun past => ?_, hpost⟩
  rw [StateT.run_bind, htold]
  refine (htold' (past ++ through)).trans ?_
  rw [List.append_assoc]

/-- What is told of a computation twice holds together, because it writes down the same both
times. -/
theorem and {told : Told α} {plain : Inference Option α}
    {post post' : List Draft → α → Draft → Prop} (h : Tells told plain draft post)
    (h' : Tells told plain draft post') :
    Tells told plain draft fun through value new =>
      post through value new ∧ post' through value new := by
  intro value new hrun
  obtain ⟨through, htold, hpost⟩ := h value new hrun
  obtain ⟨through', htold', hpost'⟩ := h' value new hrun
  obtain rfl : through = through' := by
    have hsame := (htold []).symm.trans (htold' [])
    simpa using hsame
  exact ⟨through, htold, hpost, hpost'⟩

theorem imp {told : Told α} {plain : Inference Option α}
    {post post' : List Draft → α → Draft → Prop} (h : Tells told plain draft post)
    (himp : ∀ through value new, post through value new → post' through value new) :
    Tells told plain draft post' := by
  intro value new hrun
  obtain ⟨through, htold, hpost⟩ := h value new hrun
  exact ⟨through, htold, himp through value new hpost⟩

/-- What is told of a computation holds where that has come to its result. -/
theorem with_run {told : Told α} {plain : Inference Option α} {post : List Draft → α → Draft → Prop}
    (h : Tells told plain draft post) :
    Tells told plain draft fun through value new =>
      post through value new ∧ plain.run draft = some (value, new) := by
  intro value new hrun
  obtain ⟨through, htold, hpost⟩ := h value new hrun
  exact ⟨through, htold, hpost, hrun⟩

end Tells

namespace Background

open Draft

/-- **The computation passes on**: it tells of the plain one, and if the draft is sound, then it
leaves alone what it finds, and what is said of the result holds. -/
def Tracks {α : Type} (background : Background) (told : Told α) (plain : Inference Option α)
    (draft : Draft) (post : α → Draft → Prop) : Prop :=
  background.IsSound draft → Tells told plain draft fun through value new =>
    background.Passes draft through new ∧ post value new

namespace Tracks

variable {background : Background} {α β : Type} {draft : Draft}

theorem pure {value : α} {post : α → Draft → Prop} (h : post value draft) :
    background.Tracks (pure value) (pure value) draft post :=
  fun _ => Tells.pure ⟨.refl draft, h⟩

/-- A step that only puts types at the end of the table. -/
theorem adds_after {action : StateM Draft α} {post : α → Draft → Prop}
    (h : background.Adds (background.IsBodyInProgress draft) action)
    (hpost : After action draft post) :
    background.Tracks (liftM action) (liftM action) draft post :=
  fun _ => Tells.lift ⟨.adds (h draft), hpost⟩

theorem adds {action : StateM Draft α}
    (h : background.Adds (background.IsBodyInProgress draft) action) :
    background.Tracks (liftM action) (liftM action) draft fun _ _ => True :=
  adds_after h trivial

/-- Noting that a name refers to a symbol. -/
theorem notes {node : NodeId} {symbol : SymbolId} (h : background.RefersTo draft node symbol) :
    background.Tracks
      (modify fun draft => { draft with nodeSymbols := draft.nodeSymbols.insert node symbol })
      (modify fun draft => { draft with nodeSymbols := draft.nodeSymbols.insert node symbol })
      draft fun _ new =>
        background.RefersTo new node symbol ∧ new.nodeSymbols[node]? = some symbol :=
  fun _ => Tells.modify ⟨.notes h, h, Std.TreeMap.getElem?_insert_self⟩

/-- Looking at the draft. -/
theorem get {toldNext : Draft → Told β} {plainNext : Draft → Inference Option β}
    {post : β → Draft → Prop}
    (h : background.Tracks (toldNext draft) (plainNext draft) draft post) :
    background.Tracks ((get : Told Draft) >>= toldNext) (get >>= plainNext) draft post :=
  h

/-- **One computation after the other.** What comes after is told of a draft with the same
expressions in progress. -/
theorem bind {told : Told α} {plain : Inference Option α} {toldNext : α → Told β}
    {plainNext : α → Inference Option β} {middle : α → Draft → Prop} {post : β → Draft → Prop}
    (h : background.Tracks told plain draft middle)
    (hnext : ∀ value new, new.inProgress = draft.inProgress → middle value new →
      background.Tracks (toldNext value) (plainNext value) new post) :
    background.Tracks (told >>= toldNext) (plain >>= plainNext) draft post := by
  intro hsound
  refine (h hsound).bind ?_
  rintro through value new ⟨hpasses, hmiddle⟩
  refine (hnext value new hpasses.inProgress_eq hmiddle (hpasses.isSound hsound)).imp ?_
  rintro through' _ last ⟨hlast, hpost⟩
  exact ⟨hpasses.trans hlast, hpost⟩

theorem imp {told : Told α} {plain : Inference Option α} {post post' : α → Draft → Prop}
    (h : background.Tracks told plain draft post)
    (himp : ∀ through value new, background.IsSound draft → background.Passes draft through new →
      post value new → post' value new) : background.Tracks told plain draft post' :=
  fun hsound => (h hsound).imp fun through value new hnew =>
    ⟨hnew.1, himp through value new hsound hnew.1 hnew.2⟩

theorem and {told : Told α} {plain : Inference Option α} {post post' : α → Draft → Prop}
    (h : background.Tracks told plain draft post) (h' : background.Tracks told plain draft post') :
    background.Tracks told plain draft fun value new => post value new ∧ post' value new :=
  fun hsound => ((h hsound).and (h' hsound)).imp fun _ _ _ hboth =>
    ⟨hboth.1.1, hboth.1.2, hboth.2.2⟩

theorem weaken {told : Told α} {plain : Inference Option α} {post : α → Draft → Prop}
    (h : background.Tracks told plain draft post) :
    background.Tracks told plain draft fun _ _ => True :=
  h.imp fun _ _ _ _ _ _ => trivial

end Tracks

end Background

end StreamLint
