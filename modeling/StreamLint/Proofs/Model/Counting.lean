import StreamLint.Proofs.Model.Completion
import StreamLint.Proofs.Model.Merged
import StreamLint.Proofs.Model.Places
/-!
# What the declarations of a file come to

The declarations of a file are defined one after the other, in the order of the text. The invariant
is that each place holds what the declarations so far declare together, of those of its name that
count (`StreamLint.Background.CountsIn`): nothing at first, since no place is defined before all of
them have been taken, and one declaration more with every step.

Once the names of values are bound, what the declared types hold has come to stay
(`StreamLint.Background.isCounted_bound`).
-/

namespace StreamLint

/-- What is written is carried over while a draft only grows. -/
theorem Draft.Grows.carries {prelude : Prelude} {old new : Draft} (hold : old.IsClosed prelude)
    (h : old.Grows prelude new) (hnames : old.SameNames new) : old.Carries new := by
  refine ⟨hnames, fun id entry hcomposed hentry => h.get?_eq_some hold hentry ?_⟩
  rintro rfl
  cases hcomposed

namespace Background

open Draft

variable {background : Background} {draft new : Draft} {all done : List (NodeId × TypeId)}

/-- **The declarations so far are counted in**: each place holds what those of the declarations at
it that count declare together. -/
def CountsIn (background : Background) (draft : Draft) (all done : List (NodeId × TypeId)) : Prop :=
  ∀ declaration ∈ all, ∃ entry, draft.table.get? declaration.2 = some entry ∧
    background.HoldsCounting draft draft.Awaits declaration.2
      (background.tree.counting (nodesAt done declaration.2)) entry

namespace CountsIn

/-- Before the first declaration is defined. -/
theorem start {nodes : List NodeId} (h : background.IsPlaced draft nodes all) :
    background.CountsIn draft all [] :=
  fun declaration hmem => ⟨.unknown, h.unknown declaration hmem, .nothing⟩

theorem mono (h : background.CountsIn draft all done) (hnew : draft.Retains new)
    (hget : ∀ declaration ∈ all, new.table.get? declaration.2 = draft.table.get? declaration.2) :
    background.CountsIn new all done := by
  intro declaration hmem
  obtain ⟨entry, hentry, hholds⟩ := h declaration hmem
  refine ⟨entry, (hget declaration hmem).trans hentry, ?_⟩
  exact hholds.mono hnew.toCarries fun _ _ hawaits => hawaits.mono hnew.toStays

/-- **One declaration more** is defined at its place; the other places stay as they are. -/
theorem define (h : background.CountsIn draft all done) {node : NodeId} {id : TypeId}
    (hmem : (node, id) ∈ all) {data : TypeEntry}
    (hdata : background.HoldsCounting draft draft.Awaits id
      (background.tree.countNext (background.tree.counting (nodesAt done id)) node) data) :
    background.CountsIn ((Draft.define id data).run draft).2 all (done ++ [(node, id)]) := by
  obtain ⟨current, hcurrent, hholds⟩ := h _ hmem
  have hretains : draft.Retains ((Draft.define id data).run draft).2 := by
    refine ⟨⟨⟨rfl, rfl⟩, fun other entry hcomposed hentry => ?_⟩, after_define_stays draft id data⟩
    refine (TypeTable.get?_define_of_ne ?_).trans hentry
    -- what stands at the place is no composed type
    rintro rfl
    obtain rfl := Option.some.inj (hcurrent.symm.trans hentry)
    exact absurd (hholds.isComposed.symm.trans hcomposed) (by simp)
  intro declaration hdeclaration
  by_cases heq : declaration.2 = id
  · rw [heq, nodesAt_append, show nodesAt [(node, id)] id = [node] by simp [nodesAt],
      SyntaxTree.counting_concat]
    refine ⟨data, Array.getElem?_setIfInBounds_self_of_lt (TypeTable.has_of_get? hcurrent), ?_⟩
    exact hdata.mono hretains.toCarries fun _ _ hawaits => hawaits.mono hretains.toStays
  · obtain ⟨entry, hentry, hholds⟩ := h declaration hdeclaration
    rw [nodesAt_append, show nodesAt [(node, id)] declaration.2 = [] by simp [nodesAt, Ne.symm heq],
      List.append_nil]
    refine ⟨entry, (TypeTable.get?_define_of_ne (Ne.symm heq)).trans hentry, ?_⟩
    exact hholds.mono hretains.toCarries fun _ _ hawaits => hawaits.mono hretains.toStays

/-- **Defining the declarations of a file** counts them in, one after the other. -/
theorem after_defineAll (h : background.CountsIn draft all done)
    {declarations : List (NodeId × TypeId)} (hsub : declarations ⊆ all)
    (hdeclarations : ∀ declaration ∈ declarations, background.tree.IsReached declaration.1 ∧
      ((background.tree.construct? declaration.1).any (·.declaresType)) = true) :
    After (background.defineAll declarations) draft fun _ new =>
      background.CountsIn new all (done ++ declarations) := by
  induction declarations generalizing draft done with
  | nil => exact After.pure (by simpa using h)
  | cons declaration rest ih =>
    obtain ⟨node, id⟩ := declaration
    obtain ⟨hmem, hsub⟩ := List.cons_subset.mp hsub
    obtain ⟨⟨hnode, hdeclares⟩, hrest⟩ := List.forall_mem_cons.mp hdeclarations
    obtain ⟨current, hcurrent, hholds⟩ := h _ hmem
    simp only [defineAll]
    refine (after_declaredData_holdsCounting hnode hdeclares hcurrent hholds).bind ?_
    rintro _ new ⟨hnew, data, rfl, hdata⟩
    have hcounted : background.CountsIn new all done := h.mono hnew.retains fun declaration hother => by
      obtain ⟨entry, hentry, -⟩ := h declaration hother
      rw [hnew.get?_eq_some hentry, hentry]
    have hdefine : After (Draft.define id data) new fun _ defined =>
        background.CountsIn defined all (done ++ [(node, id)]) := hcounted.define hmem hdata
    refine hdefine.bind fun _ defined hdefined => (ih hdefined hsub hrest).imp fun _ _ hlast => ?_
    simpa using hlast

end CountsIn

/-! ### The whole file -/

/-- **The declared types of a draft**: at the place of a name there is what the declarations of that
name declare together, of those that count. -/
def IsCounted (background : Background) (draft : Draft) (awaited : TypeId → Deferred → Prop) :
    Prop :=
  ∀ (node : NodeId) (name : String), background.tree.IsReached node →
    background.tree.typeName? node = some name → ∃ id entry, (node, id) ∈ background.declarations ∧
      draft.typeNames[name]? = some id ∧ draft.table.get? id = some entry ∧
        background.HoldsCounting draft awaited id
          (background.tree.counting (background.tree.declarationsOf name)) entry

/-- When all declarations are counted in. -/
theorem CountsIn.isCounted (hlinked : background.tree.Linked)
    (h : background.CountsIn draft background.declarations background.declarations) {places : Draft}
    (hplaces : background.IsPlaced places background.tree.preorder background.declarations)
    (hnames : draft.typeNames = places.typeNames) :
    background.IsCounted draft draft.Awaits := by
  intro node name hnode hname
  have hmem := hlinked.mem_preorder hnode
  obtain ⟨id, hid⟩ := Option.ne_none_iff_exists'.mp (hplaces.named node hmem name hname)
  have hat : nodesAt background.declarations id = background.tree.declarationsOf name :=
    hplaces.at_name name id hid
  have hdeclared : (node, id) ∈ background.declarations := by
    rw [← mem_nodesAt, hat]
    exact List.mem_filter.mpr ⟨hmem, by simpa using hname⟩
  obtain ⟨entry, hentry, hholds⟩ := h _ hdeclared
  exact ⟨id, entry, hdeclared, hnames ▸ hid, hentry, hat ▸ hholds⟩

/-- The places of a file, when its declarations begin to be defined. -/
theorem isPlaced_bounded : background.IsPlaced background.bounded background.tree.preorder
    background.declarations := by
  have hplaced : background.IsPlaced background.placed background.tree.preorder
      background.declarations :=
    IsPlaced.start.after_declareAll background.tree.preorder
  exact (hplaced.after_defineAllBounds background.tree.preorder).1

/-- All declarations of a file are counted in when they have been defined. -/
theorem countsIn_defined :
    background.CountsIn background.defined background.declarations background.declarations :=
  (CountsIn.start isPlaced_bounded).after_defineAll (List.Subset.refl _)
    declares_of_mem_declarations

/-- **The declared types of a file**, once its names are bound. -/
theorem isCounted_bound (hprelude : background.prelude.IsClosed)
    (hlinked : background.tree.Linked) :
    background.IsCounted background.bound background.bound.Awaits := by
  have hgrows := grows_bound hprelude
  have hnames := (isGround_bound hprelude).2
  have hretains : background.defined.Retains background.bound :=
    ⟨hgrows.carries (keeps_defined hprelude).closed hnames,
      (after_bindAll_defers background.defined background.tree.preorder).1⟩
  have hcounted := countsIn_defined.mono hretains fun declaration hmem =>
    hgrows.get?_eq _ (isSettled_defined hprelude declaration hmem)
  exact hcounted.isCounted hlinked isPlaced_bounded
    ((isGround_defined hprelude).2.1.trans hnames).typeNames

/-- What is written is carried over while expressions are typed. -/
theorem Passes.carries {through : List Draft} (h : background.Passes draft through new) :
    draft.Carries new := by
  refine ⟨h.course.sameNames, fun id entry hcomposed hentry => h.get?_eq_some hentry ?_⟩
  rintro rfl
  cases hcomposed

/-- **What the declared types hold stays** while expressions are typed. -/
theorem IsCounted.passes (h : background.IsCounted draft draft.Awaits)
    (hdraft : background.IsBound draft) {through : List Draft}
    (hnew : background.Passes draft through new) : background.IsCounted new draft.Awaits := by
  have hcarries := hnew.carries
  intro node name hnode hname
  obtain ⟨id, entry, hdeclared, hid, hentry, hholds⟩ := h node name hnode hname
  refine ⟨id, entry, hdeclared, hnew.course.sameNames.typeNames ▸ hid, ?_,
    hholds.mono hcarries fun _ _ hawaits => hawaits⟩
  exact (hnew.get?_eq id (hdraft.settled _ hdeclared)).trans hentry

end Background

end StreamLint
