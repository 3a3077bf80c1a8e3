import Mathlib.Tactic.Common
import StreamLint.Check.Catalogue
import StreamLint.Proofs.Syntax.Arena
/-!
# Where the checks look

Each check of the catalogue has one selector. This file says in terms of the tree alone which nodes
the selectors are meant for, and proves that in a linked tree these are the nodes that match:

* calls that stand alone (`StreamLint.SyntaxTree.IsLoneCall`);
* members `subscribe` that are called without arguments (`StreamLint.SyntaxTree.bareSubscribe?`);
* pipelines that begin at a stream with a certain name (`StreamLint.SyntaxTree.pipeline?`).

A selector looks at the surroundings of a node by way of its parent. The descriptions here ask
whether *some* node has the node in the place in question; the two agree because a node of a linked
tree is a child of its parent only (`StreamLint.SyntaxTree.Linked.parent?_of_field?`).
-/

namespace StreamLint

namespace SyntaxTree

variable (tree : SyntaxTree)

/-- The node is a call that is all there is in an expression statement. -/
def IsLoneCall (node : NodeId) : Prop :=
  tree.kind? node = some .callExpression ∧
    ∃ statement < tree.size, tree.kind? statement = some .expressionStatement ∧
      tree.field? statement .expression = some node

instance (node : NodeId) : Decidable (tree.IsLoneCall node) :=
  inferInstanceAs (Decidable (_ ∧ _))

/-- The node is what a call without arguments calls. -/
def IsCalledBare (node : NodeId) : Prop :=
  ∃ call < tree.size, tree.kind? call = some .callExpression ∧
    tree.field? call .callee = some node ∧ tree.arguments? call = some []

instance (node : NodeId) : Decidable (tree.IsCalledBare node) :=
  inferInstanceAs (Decidable (∃ _ < _, _))

/-- The object and the property of a member `subscribe` that is called without arguments. -/
def bareSubscribe? (node : NodeId) : Option (NodeId × NodeId) :=
  match tree.construct? node with
  | some (.memberExpression object property) =>
    if tree.nameAt? property = some "subscribe" ∧ tree.IsCalledBare node then
      some (object, property)
    else none
  | _ => none

/-- Whether a node is an identifier with such a name, or a member whose property is one. -/
def isNamed (names : String → Bool) (node : NodeId) : Bool :=
  (tree.nameAt? node).any names ||
    match tree.construct? node with
    | some (.memberExpression _ property) => (tree.nameAt? property).any names
    | _ => false

/-- The receiver and the stages of a call of `pipe` on a receiver with such a name. -/
def pipeline? (names : String → Bool) (node : NodeId) : Option (NodeId × List NodeId) :=
  match tree.construct? node with
  | some (.callExpression callee stages) =>
    match tree.construct? callee with
    | some (.memberExpression receiver property) =>
      if tree.nameAt? property = some "pipe" ∧ tree.isNamed names receiver then
        some (receiver, stages)
      else none
    | _ => none
  | _ => none

/-- What is called by a call of `take` or `first` by its name. -/
def truncating? (stage : NodeId) : Option NodeId :=
  match tree.construct? stage with
  | some (.callExpression callee _) =>
    if tree.nameAt? callee = some "take" ∨ tree.nameAt? callee = some "first" then some callee
    else none
  | _ => none

end SyntaxTree

/-! ### Parents -/

namespace SyntaxTree

variable {tree : SyntaxTree}

/-- In a linked tree a node is in a named place of its parent only. -/
theorem Linked.parent?_of_field? (hlinked : tree.Linked) {node child : NodeId} {field : Field}
    (h : tree.field? node field = some child) : tree.parent? child = some node := by
  simp only [field?, Option.bind_eq_some_iff] at h
  obtain ⟨construct, hconstruct, hfield⟩ := h
  refine hlinked.parent_of_mem_children node child ?_
  rw [children, hconstruct]
  exact Construct.mem_children_of_field? hfield

theorem lt_size_of_field? {node child : NodeId} {field : Field}
    (h : tree.field? node field = some child) : node < tree.size := by
  simp only [field?, construct?, Option.bind_eq_some_iff, Option.map_eq_some_iff] at h
  obtain ⟨_, ⟨inner, hinner, -⟩, -⟩ := h
  exact (Array.getElem?_eq_some_iff.mp hinner).1

/-- **A named place of the parent**: in a linked tree, a selector of the parent is one of some node
that has the node in that place. -/
theorem Linked.selects_fieldOf_iff (hlinked : tree.Linked) (budget : Nat) (field : Field)
    (outer : Selector) (node : NodeId) :
    Selector.selects tree budget (.fieldOf field outer) node = true ↔
      ∃ owner < tree.size, tree.field? owner field = some node ∧
        Selector.selects tree budget outer owner = true := by
  rw [Selector.selects]
  constructor
  · intro h
    cases hparent : tree.parent? node with
    | none => simp [hparent] at h
    -- the parent itself is the node that has it in that place
    | some owner =>
      simp only [hparent, Bool.and_eq_true, beq_iff_eq] at h
      exact ⟨owner, lt_size_of_field? h.1, h⟩
  · rintro ⟨owner, -, hfield, houter⟩
    -- no other node has it as a child, so the one that has it is the parent
    rw [hlinked.parent?_of_field? hfield]
    simp [hfield, houter]

end SyntaxTree

/-! ### What selectors say -/

namespace Selector

variable {tree : SyntaxTree} {budget : Nat} {node : NodeId}

theorem selects_kind_iff {kind : SyntaxKind} :
    (Selector.kind kind).selects tree budget node = true ↔ tree.kind? node = some kind := by
  simp [selects]

theorem selects_argumentCount_zero_iff :
    (argumentCount 0).selects tree budget node = true ↔ tree.arguments? node = some [] := by
  cases harguments : tree.arguments? node <;> simp [selects, harguments]

theorem selects_field_iff {field : Field} {inner : Selector} :
    (Selector.field field inner).selects tree budget node = true ↔
      ∃ child, tree.field? node field = some child ∧ inner.selects tree budget child = true := by
  cases hfield : tree.field? node field <;> simp [selects, hfield]

theorem selects_name_iff {text : String} :
    (name text).selects tree budget node = true ↔ tree.nameAt? node = some text := by
  simp [selects]

theorem selects_nameMatches_iff {names : Regex} :
    (nameMatches names).selects tree budget node = true ↔
      (tree.nameAt? node).any names.matchesIn = true := by
  cases hname : tree.nameAt? node <;> simp [selects, hname]

theorem matchKinds_field_of {field : Field} {inner : Selector} {kinds : KindSet}
    (h : inner.matchKinds = kinds) (hmeet : (field.occupantSet.inter kinds).isEmpty = false) :
    (Selector.field field inner).matchKinds = field.ownerSet := by
  rw [matchKinds, h, hmeet]
  rfl

end Selector

/-- Where all matching nodes have one kind, the kinds of a pattern are no further condition. -/
theorem Pattern.matchesAt_iff_selects {pattern : Pattern} {only : SyntaxKind}
    (hkinds : ∀ kind, pattern.kinds.contains kind = decide (kind = only)) {tree : SyntaxTree}
    {budget : Nat} {node : NodeId}
    (hkind : pattern.selector.selects tree budget node = true → tree.kind? node = some only) :
    pattern.matchesAt tree budget node = true ↔
      pattern.selector.selects tree budget node = true := by
  unfold matchesAt
  constructor
  · intro h
    split at h
    · exact (Bool.and_eq_true_iff.mp h).2
    · simp at h
  · intro h
    simp [hkind h, hkinds, h]

/-! ### Calls that stand alone -/

namespace IgnoredObservable

/-- The pattern of the check. -/
def pattern : Pattern :=
  ⟨selector, selector.matchKinds⟩

theorem listener_eq :
    Listener.ofSelector profile.id selector handler = .ok ⟨pattern, handler⟩ := rfl

/-- **Ignored observables are looked for at calls that stand alone.** -/
theorem matchesAt_pattern {tree : SyntaxTree} (hlinked : tree.Linked) (budget : Nat)
    (node : NodeId) : pattern.matchesAt tree budget node = decide (tree.IsLoneCall node) := by
  have hkinds : ∀ kind, pattern.kinds.contains kind = decide (kind = .callExpression) := by
    intro kind
    cases kind <;> rfl
  have hselects : pattern.selector.selects tree budget node = true ↔ tree.IsLoneCall node := by
    rw [show pattern.selector = .and [.kind .callExpression,
      .fieldOf .expression (.kind .expressionStatement)] from rfl, Selector.selects_and]
    simp only [List.all_cons, List.all_nil, Bool.and_true, Bool.and_eq_true,
      Selector.selects_kind_iff, hlinked.selects_fieldOf_iff, SyntaxTree.IsLoneCall]
    exact and_congr_right fun _ => exists_congr fun _ => and_congr_right fun _ => and_comm
  rw [Bool.eq_iff_iff, decide_eq_true_iff, ← hselects]
  exact Pattern.matchesAt_iff_selects hkinds fun h => (hselects.mp h).1

end IgnoredObservable

/-! ### Members called without arguments -/

namespace SyntaxTree

variable {tree : SyntaxTree} {node : NodeId}

theorem kind?_eq_memberExpression_iff : tree.kind? node = some .memberExpression ↔
    ∃ object property, tree.construct? node = some (.memberExpression object property) := by
  rw [kind?]
  cases tree.construct? node with
  | none => simp
  | some construct => cases construct <;> simp [Construct.kind]

theorem kind?_eq_callExpression_iff : tree.kind? node = some .callExpression ↔
    ∃ callee stages, tree.construct? node = some (.callExpression callee stages) := by
  rw [kind?]
  cases tree.construct? node with
  | none => simp
  | some construct => cases construct <;> simp [Construct.kind]

theorem isSome_bareSubscribe?_iff : (tree.bareSubscribe? node).isSome = true ↔
    ∃ object property, tree.construct? node = some (.memberExpression object property) ∧
      tree.nameAt? property = some "subscribe" ∧ tree.IsCalledBare node := by
  rw [bareSubscribe?]
  constructor
  · intro h
    split at h
    next object property hconstruct =>
      split at h
      next hboth => exact ⟨object, property, hconstruct, hboth⟩
      next => simp at h
    next => simp at h
  · rintro ⟨object, property, hconstruct, hboth⟩
    simp [hconstruct, hboth]

theorem isSome_pipeline?_iff {names : String → Bool} : (tree.pipeline? names node).isSome = true ↔
    ∃ callee stages receiver property,
      tree.construct? node = some (.callExpression callee stages) ∧
      tree.construct? callee = some (.memberExpression receiver property) ∧
      tree.nameAt? property = some "pipe" ∧ tree.isNamed names receiver = true := by
  rw [pipeline?]
  constructor
  · intro h
    split at h
    next callee stages hcall =>
      split at h
      next receiver property hmember =>
        split at h
        next hboth => exact ⟨callee, stages, receiver, property, hcall, hmember, hboth⟩
        next => simp at h
      next => simp at h
    next => simp at h
  · rintro ⟨callee, stages, receiver, property, hcall, hmember, hboth⟩
    simp [hcall, hmember, hboth]

end SyntaxTree

namespace IgnoredSubscribe

/-- The pattern of the check. -/
def pattern : Pattern :=
  ⟨selector, selector.matchKinds⟩

theorem listener_eq :
    Listener.ofSelector profile.id selector handler = .ok ⟨pattern, handler⟩ := rfl

/-- **Ignored subscriptions are looked for at members called without arguments.** -/
theorem matchesAt_pattern {tree : SyntaxTree} (hlinked : tree.Linked) (budget : Nat)
    (node : NodeId) :
    pattern.matchesAt tree budget node = (tree.bareSubscribe? node).isSome := by
  have hkinds : ∀ kind, pattern.kinds.contains kind = decide (kind = .memberExpression) := by
    intro kind
    cases kind <;> rfl
  have hselects : pattern.selector.selects tree budget node = true ↔
      tree.kind? node = some .memberExpression ∧
        (∃ child, tree.field? node .property = some child ∧
          tree.nameAt? child = some "subscribe") ∧ tree.IsCalledBare node := by
    rw [show pattern.selector = .and [.kind .memberExpression, .field .property (.name "subscribe"),
      .fieldOf .callee (.and [.kind .callExpression, .argumentCount 0])] from rfl,
      Selector.selects_and]
    simp only [List.all_cons, List.all_nil, Bool.and_true, Bool.and_eq_true,
      Selector.selects_kind_iff, Selector.selects_field_iff, Selector.selects_name_iff,
      hlinked.selects_fieldOf_iff, Selector.selects_and, Selector.selects_argumentCount_zero_iff,
      SyntaxTree.IsCalledBare]
    refine and_congr_right fun _ => and_congr_right fun _ => exists_congr fun _ => ?_
    exact and_congr_right fun _ => and_left_comm
  rw [Bool.eq_iff_iff, SyntaxTree.isSome_bareSubscribe?_iff,
    Pattern.matchesAt_iff_selects hkinds fun h => (hselects.mp h).1, hselects,
    SyntaxTree.kind?_eq_memberExpression_iff]
  constructor
  · rintro ⟨⟨object, property, hconstruct⟩, ⟨child, hfield, hname⟩, hcalled⟩
    obtain rfl : property = child := by
      simpa [SyntaxTree.field?, hconstruct, Construct.field?] using hfield
    exact ⟨object, property, hconstruct, hname, hcalled⟩
  · rintro ⟨object, property, hconstruct, hname, hcalled⟩
    refine ⟨⟨object, property, hconstruct⟩, ⟨property, ?_, hname⟩, hcalled⟩
    simp [SyntaxTree.field?, hconstruct, Construct.field?]

end IgnoredSubscribe

/-! ### Pipelines -/

namespace UnsafeFirst

open Selector (matchKinds_field_of matchKinds_and matchKinds_or)

/-- The pattern of the check for given names. -/
def pattern (names : Regex) : Pattern :=
  ⟨selector names, (selector names).matchKinds⟩

/-- Whatever the names are, only calls can match. -/
theorem matchKinds_selector (names : Regex) :
    (selector names).matchKinds = .ofList [.callExpression] := by
  have hname : (Selector.nameMatches names).matchKinds = .ofList [.identifier] := by
    rw [Selector.matchKinds]
  have hproperty : (Selector.field .property (.nameMatches names)).matchKinds =
      Field.property.ownerSet := matchKinds_field_of hname (by decide)
  -- a pattern of names matches identifiers whatever it is, so the kinds do not depend on it
  have hreceiver : (receiver names).matchKinds = .ofList [.identifier, .memberExpression] := by
    rw [show receiver names = .or [.nameMatches names, .and [.kind .memberExpression,
      .field .property (.nameMatches names)]] from rfl, matchKinds_or]
    simp only [List.foldr_cons, List.foldr_nil, matchKinds_and, hname, hproperty,
      show (Selector.kind .memberExpression).matchKinds = .ofList [.memberExpression] from rfl]
    decide
  have hobject : (Selector.field .object (receiver names)).matchKinds = Field.object.ownerSet :=
    matchKinds_field_of hreceiver (by decide)
  have hmember : (Selector.and [.kind .memberExpression, .field .property (.name "pipe"),
      .field .object (receiver names)]).matchKinds = .ofList [.memberExpression] := by
    simp only [List.foldr_cons, List.foldr_nil, matchKinds_and, hobject,
      show (Selector.kind .memberExpression).matchKinds = .ofList [.memberExpression] from rfl,
      show (Selector.field .property (.name "pipe")).matchKinds = Field.property.ownerSet from rfl]
    decide
  have hcallee := @matchKinds_field_of .callee _ _ hmember (by decide)
  rw [show selector names = .and [.kind .callExpression, .field .callee
      (.and [.kind .memberExpression, .field .property (.name "pipe"),
        .field .object (receiver names)])] from rfl, matchKinds_and]
  simp only [List.foldr_cons, List.foldr_nil, hcallee,
      show (Selector.kind .callExpression).matchKinds = .ofList [.callExpression] from rfl]
  decide

theorem listener_eq (names : Regex) : Listener.ofSelector profile.id (selector names) handler =
    .ok ⟨pattern names, handler⟩ := by
  have hsome : (KindSet.ofList [.callExpression]).isEmpty = false := by decide
  simp [Listener.ofSelector, Pattern.ofSelector, pattern, matchKinds_selector, hsome]

/-- The receiver of a pipeline has a name of the right form. -/
theorem selects_receiver_iff {tree : SyntaxTree} {budget : Nat} {names : Regex} {node : NodeId} :
    (receiver names).selects tree budget node = true ↔
      tree.isNamed names.matchesIn node = true := by
  rw [show receiver names = .or [.nameMatches names, .and [.kind .memberExpression,
    .field .property (.nameMatches names)]] from rfl, Selector.selects_or, SyntaxTree.isNamed]
  simp only [List.any_cons, List.any_nil, Bool.or_false, Bool.or_eq_true, Selector.selects_and,
    List.all_cons, List.all_nil, Bool.and_true, Bool.and_eq_true, Selector.selects_nameMatches_iff,
    Selector.selects_kind_iff, Selector.selects_field_iff]
  refine or_congr Iff.rfl ⟨?_, ?_⟩
  · rintro ⟨hkind, child, hfield, hname⟩
    obtain ⟨object, property, hconstruct⟩ := SyntaxTree.kind?_eq_memberExpression_iff.mp hkind
    obtain rfl : property = child := by
      simpa [SyntaxTree.field?, hconstruct, Construct.field?] using hfield
    simpa [hconstruct] using hname
  · intro h
    split at h
    next object property hconstruct =>
      refine ⟨SyntaxTree.kind?_eq_memberExpression_iff.mpr ⟨object, property, hconstruct⟩,
        property, ?_, h⟩
      simp [SyntaxTree.field?, hconstruct, Construct.field?]
    next => simp at h

/-- **Truncated streams are looked for at pipelines with a receiver of the right name.** -/
theorem matchesAt_pattern (names : Regex) (tree : SyntaxTree) (budget : Nat) (node : NodeId) :
    (pattern names).matchesAt tree budget node =
      (tree.pipeline? names.matchesIn node).isSome := by
  have hkinds : ∀ kind, (pattern names).kinds.contains kind = decide (kind = .callExpression) := by
    intro kind
    rw [pattern, matchKinds_selector, KindSet.contains_ofList]
    simp
  have hselects : (pattern names).selector.selects tree budget node = true ↔
      tree.kind? node = some .callExpression ∧
        ∃ callee, tree.field? node .callee = some callee ∧
          tree.kind? callee = some .memberExpression ∧
          (∃ property, tree.field? callee .property = some property ∧
            tree.nameAt? property = some "pipe") ∧
          ∃ object, tree.field? callee .object = some object ∧
            tree.isNamed names.matchesIn object = true := by
    rw [show (pattern names).selector = .and [.kind .callExpression, .field .callee
      (.and [.kind .memberExpression, .field .property (.name "pipe"),
        .field .object (receiver names)])] from rfl, Selector.selects_and]
    simp only [List.all_cons, List.all_nil, Bool.and_true, Bool.and_eq_true,
      Selector.selects_kind_iff, Selector.selects_field_iff, Selector.selects_name_iff,
      Selector.selects_and, selects_receiver_iff]
  rw [Bool.eq_iff_iff, SyntaxTree.isSome_pipeline?_iff,
    Pattern.matchesAt_iff_selects hkinds fun h => (hselects.mp h).1, hselects,
    SyntaxTree.kind?_eq_callExpression_iff]
  constructor
  · rintro ⟨⟨callee, stages, hcall⟩, member, hcallee, hmember, ⟨name, hproperty, hname⟩,
      receiver, hobject, hnamed⟩
    obtain rfl : callee = member := by
      simpa [SyntaxTree.field?, hcall, Construct.field?] using hcallee
    obtain ⟨object, property, hconstruct⟩ := SyntaxTree.kind?_eq_memberExpression_iff.mp hmember
    obtain rfl : property = name := by
      simpa [SyntaxTree.field?, hconstruct, Construct.field?] using hproperty
    obtain rfl : object = receiver := by
      simpa [SyntaxTree.field?, hconstruct, Construct.field?] using hobject
    exact ⟨callee, stages, object, property, hcall, hconstruct, hname, hnamed⟩
  · rintro ⟨callee, stages, receiver, property, hcall, hmember, hname, hnamed⟩
    refine ⟨⟨callee, stages, hcall⟩, callee, ?_, ?_, ⟨property, ?_, hname⟩, receiver, ?_, hnamed⟩
    · simp [SyntaxTree.field?, hcall, Construct.field?]
    · exact SyntaxTree.kind?_eq_memberExpression_iff.mpr ⟨receiver, property, hmember⟩
    · simp [SyntaxTree.field?, hmember, Construct.field?]
    · simp [SyntaxTree.field?, hmember, Construct.field?]

end UnsafeFirst

end StreamLint
