import Mathlib.Data.List.Basic
import StreamLint.Pattern.Index
import StreamLint.Proofs.Syntax.Order
/-!
# The index against trying all patterns

An index of patterns tries at a node only the patterns in the bucket of its kind. The main
statement, `StreamLint.PatternIndex.dispatches_addAll`, says that nothing is lost, repeated or moved
by it: whatever patterns were added, going over the tree of a document gives what comes of trying
all patterns at all nodes, `StreamLint.Pattern.allMatches`.

It comes in two parts. At one node, adding a pattern appends its handler to those of the node
exactly if the node matches (`StreamLint.PatternIndex.handlersAt_add`); this needs that buckets name
entries which exist, and that the new place goes once into the bucket of each kind of the pattern.
Over a tree, the stack of the index moves as that of `StreamLint.SyntaxTree.walk` does
(`StreamLint.PatternIndex.dispatchesWithin_eq`), so that the order of the nodes is the same.
-/

namespace StreamLint

/-- What comes of trying patterns at all nodes of a tree, in the order of the nodes and, at a node,
in the order of the patterns. -/
def Pattern.allMatches {α : Type} (added : List (Pattern × α)) (tree : SyntaxTree) (budget : Nat) :
    List (NodeId × α) :=
  tree.preorder.flatMap fun node =>
    (added.filter fun entry => entry.1.matchesAt tree budget node).map fun entry => (node, entry.2)

/-! ### Kinds -/

namespace KindSet

theorem mem_toList {set : KindSet} {kind : SyntaxKind} :
    kind ∈ set.toList ↔ set.contains kind = true := by
  simp [toList, SyntaxKind.mem_all]

theorem nodup_toList (set : KindSet) : set.toList.Nodup :=
  List.Pairwise.filter _ (by decide)

end KindSet

theorem SyntaxKind.ordinal_injective : Function.Injective SyntaxKind.ordinal := by
  intro first second h
  cases first <;> cases second <;> first | rfl | exact absurd h (by decide)

namespace PatternIndex

variable {α : Type}

/-! ### Buckets -/

/-- A place that is put into the buckets of different kinds is put once into each of them. -/
theorem getElem?_foldl_putInto (place : Nat) {kinds : List SyntaxKind} (hnodup : kinds.Nodup)
    (buckets : Array (Array Nat)) (kind : SyntaxKind) :
    (kinds.foldl (putInto place) buckets)[kind.ordinal]? =
      (buckets[kind.ordinal]?).map fun bucket =>
        if kind ∈ kinds then bucket.push place else bucket := by
  induction kinds generalizing buckets with
  | nil => simp
  | cons first rest ih =>
    obtain ⟨hfirst, hrest⟩ := List.nodup_cons.mp hnodup
    rw [List.foldl_cons, ih hrest, putInto, Array.getElem?_modify]
    -- different kinds have different buckets, and the rest does not name the first kind again
    by_cases heq : first = kind
    · subst heq
      simp [hfirst, Function.comp_def]
    · have hne : first.ordinal ≠ kind.ordinal := SyntaxKind.ordinal_injective.ne heq
      simp [hne, Ne.symm heq]

/-- An index has a bucket for every kind, and its buckets name entries that exist. -/
structure IsFilled (patterns : PatternIndex α) : Prop where
  /-- There is a bucket for every kind. -/
  exists_bucket : ∀ kind : SyntaxKind, ∃ bucket, patterns.buckets[kind.ordinal]? = some bucket
  /-- The places in a bucket are those of entries. -/
  lt_size : ∀ kind : SyntaxKind, ∀ place ∈ patterns.bucket kind, place < patterns.entries.size

theorem isFilled_empty (budget : Nat) : (empty budget : PatternIndex α).IsFilled where
  exists_bucket kind := ⟨#[], by
    have := kind.ordinal_lt
    simp [empty, show SyntaxKind.all.length = 30 from rfl, this]⟩
  lt_size kind place hplace := by
    have := kind.ordinal_lt
    simp [bucket, empty, show SyntaxKind.all.length = 30 from rfl, this] at hplace

/-- The new place comes last in the buckets of the kinds of the pattern. -/
theorem IsFilled.bucket_add {patterns : PatternIndex α} (h : patterns.IsFilled) (pattern : Pattern)
    (handler : α) (kind : SyntaxKind) :
    (patterns.add pattern handler).bucket kind =
      patterns.bucket kind ++
        if pattern.kinds.contains kind then [patterns.entries.size] else [] := by
  obtain ⟨places, hplaces⟩ := h.exists_bucket kind
  simp only [bucket, add, getElem?_foldl_putInto _ pattern.kinds.nodup_toList, hplaces,
    Option.map_some, KindSet.mem_toList]
  split <;> simp

theorem IsFilled.add {patterns : PatternIndex α} (h : patterns.IsFilled) (pattern : Pattern)
    (handler : α) : (patterns.add pattern handler).IsFilled where
  exists_bucket kind := by
    obtain ⟨places, hplaces⟩ := h.exists_bucket kind
    simp only [PatternIndex.add, getElem?_foldl_putInto _ pattern.kinds.nodup_toList, hplaces]
    exact ⟨_, rfl⟩
  lt_size kind place hplace := by
    have hsize : (patterns.add pattern handler).entries.size = patterns.entries.size + 1 := by
      simp [PatternIndex.add]
    rw [h.bucket_add, List.mem_append] at hplace
    rw [hsize]
    rcases hplace with hold | hnew
    · have := h.lt_size kind place hold
      omega
    · split at hnew
      · obtain rfl := List.mem_singleton.mp hnew
        omega
      · simp at hnew

/-! ### One node -/

/-- **Adding a pattern**: the handlers of a node stay as they are, and the new handler comes after
them if the node matches the pattern. -/
theorem IsFilled.handlersAt_add {patterns : PatternIndex α} (h : patterns.IsFilled)
    (pattern : Pattern) (handler : α) (tree : SyntaxTree) (node : NodeId) :
    (patterns.add pattern handler).handlersAt tree node =
      patterns.handlersAt tree node ++
        if pattern.matchesAt tree patterns.budget node then [handler] else [] := by
  cases hkind : tree.kind? node with
  | none => simp [handlersAt, Pattern.matchesAt, hkind]
  | some kind =>
    -- the old places name the old entries, and the new one names the new entry
    have hold : ∀ place ∈ patterns.bucket kind,
        (patterns.add pattern handler).entries[place]? = patterns.entries[place]? := by
      intro place hplace
      have hlt := h.lt_size kind place hplace
      simp [PatternIndex.add, Array.getElem?_push_lt hlt, Array.getElem?_eq_getElem hlt]
    have hnew : (patterns.add pattern handler).entries[patterns.entries.size]? =
        some (pattern, handler) := by
      simp [PatternIndex.add]
    have hbudget : (patterns.add pattern handler).budget = patterns.budget := rfl
    simp only [handlersAt, Pattern.matchesAt, hkind, h.bucket_add, List.filterMap_append, hbudget]
    congr 1
    · exact List.filterMap_congr fun place hplace => by rw [hold place hplace]
    · cases pattern.kinds.contains kind with
      | false => simp
      | true =>
        simp only [if_true, List.filterMap_cons, hnew, Bool.true_and, List.filterMap_nil]
        cases Selector.selects tree patterns.budget pattern.selector node <;> rfl

/-! ### Sequences of patterns -/

/-- The index with patterns added one after the other. -/
def addAll (patterns : PatternIndex α) (added : List (Pattern × α)) : PatternIndex α :=
  added.foldl (fun patterns entry => patterns.add entry.1 entry.2) patterns

/-- **Adding patterns**: the handlers of a node are those of the patterns that it matches, in the
order in which they were added. -/
theorem IsFilled.handlersAt_addAll {patterns : PatternIndex α} (h : patterns.IsFilled)
    (added : List (Pattern × α)) (tree : SyntaxTree) (node : NodeId) :
    (patterns.addAll added).handlersAt tree node =
      patterns.handlersAt tree node ++
        (added.filter fun entry => entry.1.matchesAt tree patterns.budget node).map (·.2) := by
  induction added generalizing patterns with
  | nil => simp [addAll]
  | cons entry rest ih =>
    have hbudget : (patterns.add entry.1 entry.2).budget = patterns.budget := rfl
    rw [addAll, List.foldl_cons, ← addAll, ih (h.add entry.1 entry.2), h.handlersAt_add, hbudget,
      List.append_assoc]
    congr 1
    cases hmatch : entry.1.matchesAt tree patterns.budget node <;> simp [hmatch]

theorem handlersAt_empty (budget : Nat) (tree : SyntaxTree) (node : NodeId) :
    (empty budget : PatternIndex α).handlersAt tree node = [] := by
  have hbucket : ∀ kind, (empty budget : PatternIndex α).bucket kind = [] := fun kind =>
    List.eq_nil_iff_forall_not_mem.mpr fun place hplace =>
      absurd ((isFilled_empty budget).lt_size kind place hplace) (by simp [empty])
  simp only [handlersAt, hbucket]
  split <;> rfl

/-! ### Trees -/

/-- The stack of an index moves as that of a walk. -/
theorem dispatchesWithin_eq (patterns : PatternIndex α) (tree : SyntaxTree) (steps : Nat)
    (stack : List NodeId) :
    patterns.dispatchesWithin tree steps stack =
      (tree.walk steps stack).flatMap fun node => (patterns.handlersAt tree node).map (node, ·) := by
  induction steps generalizing stack with
  | zero => simp [dispatchesWithin, SyntaxTree.walk]
  | succ steps ih =>
    cases stack with
    | nil => simp [dispatchesWithin, SyntaxTree.walk]
    | cons node stack => simp [dispatchesWithin, SyntaxTree.walk, ih]

/-- An index goes over the nodes in pre-order. -/
theorem dispatches_eq (patterns : PatternIndex α) (tree : SyntaxTree) :
    patterns.dispatches tree =
      tree.preorder.flatMap fun node => (patterns.handlersAt tree node).map (node, ·) := by
  rw [dispatches, SyntaxTree.preorder]
  split
  · rfl
  · exact dispatchesWithin_eq patterns tree tree.size [SyntaxTree.root]

/-- What is handled at the nodes of a list by an index that began empty. -/
theorem flatMap_handlersAt_addAll (added : List (Pattern × α)) (budget : Nat) (tree : SyntaxTree)
    (nodes : List NodeId) :
    (nodes.flatMap fun node =>
        (((empty budget).addAll added).handlersAt tree node).map (node, ·)) =
      nodes.flatMap fun node =>
        (added.filter fun entry => entry.1.matchesAt tree budget node).map
          fun entry => (node, entry.2) := by
  refine List.flatMap_congr fun node _ => ?_
  rw [(isFilled_empty budget).handlersAt_addAll, handlersAt_empty, List.nil_append, List.map_map]
  rfl

/-- **The index finds what trying all patterns finds**: whatever patterns were added, and however
many nodes a search below a node visits, going once over the tree of a document gives the matching
pairs of node and handler, node by node in pre-order and, at a node, in the order in which the
patterns were added. The stack is empty then, so that further steps give nothing more. -/
theorem dispatches_addAll (added : List (Pattern × α)) (budget : Nat)
    (document : Concrete.Document) :
    let tree := SyntaxTree.ofDocument document
    let patterns := (empty budget).addAll added
    patterns.dispatches tree = Pattern.allMatches added tree budget ∧
      ∀ further, patterns.dispatchesWithin tree (tree.size + further) [SyntaxTree.root] =
        Pattern.allMatches added tree budget := by
  intro tree patterns
  have hlinked : tree.Linked := SyntaxTree.linked_ofDocument document
  refine ⟨?_, fun further => ?_⟩
  · rw [dispatches_eq]
    exact flatMap_handlersAt_addAll added budget tree tree.preorder
  · rw [dispatchesWithin_eq, hlinked.walk_eq_preorder (Nat.le_add_right _ _)]
    exact flatMap_handlersAt_addAll added budget tree tree.preorder

end PatternIndex

end StreamLint
