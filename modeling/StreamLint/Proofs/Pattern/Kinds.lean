import StreamLint.Pattern.Index
import StreamLint.Proofs.Linter.Sites
import StreamLint.Proofs.Syntax.Order
/-!
# What the kinds of a selector say

From a selector alone it is found out which kinds a matching node can have,
`StreamLint.Selector.matchKinds`, and a pattern is tried at nodes of these kinds only. The main
statement, `StreamLint.Pattern.selects_of_ofSelector`, says that nothing is missed by that, and that
a selector which makes no pattern matches nowhere.

A selector for a named place draws on the tables of the kinds that have the place and that can stand
in it. That only nodes of the listed kinds have a place is how places are looked up
(`StreamLint.Construct.kind_mem_owners`). What can stand in it is an assumption about the tree,
`StreamLint.SyntaxTree.HasListedOccupants`.

The kinds are computed along the selector, and they are justified along it too: a node of the tree
that matches has a kind in the set of the selector (`StreamLint.Selector.hasKindIn_matchKinds`). A
selector of the surroundings is given the empty set if no other node could match. When it does match,
the other node is in the tree as well and has a kind in its own set, which is thus not empty.
-/

namespace StreamLint

/-! ### Sets and places -/

theorem KindSet.isEmpty_eq_false {set : KindSet} {kind : SyntaxKind}
    (h : set.contains kind = true) : set.isEmpty = false := by
  cases hempty : set.isEmpty with
  | false => rfl
  | true =>
    have hbits : set.bits = 0 := by simpa [isEmpty] using hempty
    simp [contains, hbits] at h

/-- Only a construct of a listed kind has a named place. -/
theorem Construct.kind_mem_owners {construct : Construct} {field : Field} {child : NodeId}
    (h : construct.field? field = some child) : construct.kind ∈ field.owners := by
  cases construct <;> cases field <;> simp_all [Construct.field?, Construct.kind, Field.owners]

namespace SyntaxTree

variable (tree : SyntaxTree)

/-- There is a node at the place, and its kind is in the set. -/
def HasKindIn (node : NodeId) (kinds : KindSet) : Prop :=
  ∃ kind, tree.kind? node = some kind ∧ kinds.contains kind = true

/-- What stands in a named place has a kind that can stand there, wherever that is restricted. -/
def HasListedOccupants : Prop :=
  ∀ node field child kinds, tree.field? node field = some child → field.occupants? = some kinds →
    ∃ kind ∈ kinds, tree.kind? child = some kind

variable {tree} {node child : NodeId} {field : Field}

instance : Decidable tree.HasListedOccupants :=
  decidable_of_iff (∀ node < tree.size, ∀ field ∈ Field.all, ∀ child ∈ tree.field? node field,
      ∀ kinds ∈ field.occupants?, ∃ kind ∈ kinds, tree.kind? child = some kind) <| by
    constructor
    · intro h node field child kinds hfield hkinds
      exact h node (lt_size_of_field? hfield) field (by cases field <;> decide) child hfield kinds
        hkinds
    · exact fun h node _ field _ child hfield kinds hkinds => h node field child kinds hfield hkinds

theorem HasKindIn.inter {first second : KindSet} (hfirst : tree.HasKindIn node first)
    (hsecond : tree.HasKindIn node second) : tree.HasKindIn node (first.inter second) := by
  obtain ⟨kind, hkind, hin⟩ := hfirst
  obtain ⟨same, hsame, halso⟩ := hsecond
  obtain rfl : kind = same := Option.some.inj (hkind.symm.trans hsame)
  exact ⟨kind, hkind, by simp [hin, halso]⟩

theorem HasKindIn.isEmpty_eq_false {kinds : KindSet} (h : tree.HasKindIn node kinds) :
    kinds.isEmpty = false := by
  obtain ⟨_, _, hin⟩ := h
  exact KindSet.isEmpty_eq_false hin

theorem hasKindIn_all (h : node < tree.size) : tree.HasKindIn node .all :=
  ⟨tree.nodes[node].construct.kind, by simp [kind?, construct?, Array.getElem?_eq_getElem h],
    KindSet.contains_all _⟩

theorem hasKindIn_ofList {kinds : List SyntaxKind} {kind : SyntaxKind}
    (hkind : tree.kind? node = some kind) (hmem : kind ∈ kinds) :
    tree.HasKindIn node (.ofList kinds) :=
  ⟨kind, hkind, by simpa using hmem⟩

theorem hasKindIn_of_construct? {construct : Construct} {kinds : List SyntaxKind}
    (h : tree.construct? node = some construct) (hmem : construct.kind ∈ kinds) :
    tree.HasKindIn node (.ofList kinds) :=
  hasKindIn_ofList (by rw [kind?, h, Option.map_some]) hmem

theorem hasKindIn_of_nameAt? {name : String} (h : tree.nameAt? node = some name) :
    tree.HasKindIn node (.ofList [.identifier]) :=
  hasKindIn_of_construct? (construct?_of_nameAt? h) (by simp [Construct.kind])

theorem hasKindIn_of_arguments? {arguments : List NodeId}
    (h : tree.arguments? node = some arguments) :
    tree.HasKindIn node (.ofList [.callExpression, .newExpression]) := by
  unfold arguments? at h
  split at h
  next _ _ hconstruct => exact hasKindIn_of_construct? hconstruct (by simp [Construct.kind])
  next _ _ _ hconstruct => exact hasKindIn_of_construct? hconstruct (by simp [Construct.kind])
  next => cases h

/-- A node with a named place has one of the kinds that have it. -/
theorem hasKindIn_ownerSet (h : tree.field? node field = some child) :
    tree.HasKindIn node field.ownerSet := by
  simp only [field?, Option.bind_eq_some_iff] at h
  obtain ⟨construct, hconstruct, hfield⟩ := h
  exact hasKindIn_of_construct? hconstruct (Construct.kind_mem_owners hfield)

theorem Linked.lt_size_of_mem_children (hlinked : tree.Linked) (h : child ∈ tree.children node) :
    child < tree.size :=
  lt_size_of_parent?_eq_some (hlinked.parent_of_mem_children node child h)

/-- A node in a named place has one of the kinds that can stand there. -/
theorem HasListedOccupants.hasKindIn_occupantSet (hoccupants : tree.HasListedOccupants)
    (hlinked : tree.Linked) (h : tree.field? node field = some child) :
    tree.HasKindIn child field.occupantSet := by
  unfold Field.occupantSet
  cases hkinds : field.occupants? with
  | none => exact hasKindIn_all (lt_size_of_parent?_eq_some (hlinked.parent?_of_field? h))
  | some kinds =>
    obtain ⟨kind, hmem, hkind⟩ := hoccupants node field child kinds h hkinds
    exact hasKindIn_ofList hkind hmem

/-- A walk that begins in the tree stays in it. -/
theorem Linked.lt_size_of_mem_walk (hlinked : tree.Linked) {steps : Nat} {stack : List NodeId}
    (hstack : ∀ node ∈ stack, node < tree.size) :
    ∀ node ∈ tree.walk steps stack, node < tree.size := by
  induction steps generalizing stack with
  | zero => simp [walk]
  | succ steps ih =>
    cases stack with
    | nil => simp [walk]
    | cons first rest =>
      obtain ⟨hfirst, hrest⟩ := List.forall_mem_cons.mp hstack
      refine List.forall_mem_cons.mpr ⟨hfirst, ih fun node hnode => ?_⟩
      exact (List.mem_append.mp hnode).elim hlinked.lt_size_of_mem_children (hrest node)

end SyntaxTree

/-! ### Along a selector -/

namespace Selector

variable {tree : SyntaxTree} {budget : Nat} {node : NodeId}

theorem matchKinds_fieldOf_of {field : Field} {outer : Selector}
    (hmeet : (field.ownerSet.inter outer.matchKinds).isEmpty = false) :
    (fieldOf field outer).matchKinds = field.occupantSet := by
  rw [matchKinds, hmeet]
  rfl

/-- A node of any kind can be below one that can match. -/
theorem matchKinds_parent_of {inner : Selector} (h : inner.matchKinds.isEmpty = false) :
    (parent inner).matchKinds = .all := by
  rw [matchKinds, h]
  rfl

/-- A node of any kind can be above one that can match. -/
theorem matchKinds_has_of {inner : Selector} (h : inner.matchKinds.isEmpty = false) :
    (has inner).matchKinds = .all := by
  rw [matchKinds, h]
  rfl

mutual

/-- **The kind of a node that matches** is among the kinds of the selector. -/
theorem hasKindIn_matchKinds (hlinked : tree.Linked) (hoccupants : tree.HasListedOccupants) :
    ∀ (selector : Selector) (node : NodeId), node < tree.size →
    selector.selects tree budget node = true → tree.HasKindIn node selector.matchKinds
  | any, node, hlt, _ => by
    rw [matchKinds]
    exact SyntaxTree.hasKindIn_all hlt
  | kind k, node, _, h => by
    rw [matchKinds]
    exact SyntaxTree.hasKindIn_ofList (selects_kind_iff.mp h) (by simp)
  | name text, node, _, h => by
    rw [matchKinds]
    exact SyntaxTree.hasKindIn_of_nameAt? (selects_name_iff.mp h)
  | nameMatches pattern, node, _, h => by
    rw [matchKinds]
    cases hname : tree.nameAt? node with
    | none => simp [selects, hname] at h
    | some text => exact SyntaxTree.hasKindIn_of_nameAt? hname
  | argumentCount count, node, _, h => by
    rw [matchKinds]
    cases harguments : tree.arguments? node with
    | none => simp [selects, harguments] at h
    | some arguments => exact SyntaxTree.hasKindIn_of_arguments? harguments
  | field f inner, node, _, h => by
    obtain ⟨child, hfield, hinner⟩ := selects_field_iff.mp h
    have hlt : child < tree.size :=
      SyntaxTree.lt_size_of_parent?_eq_some (hlinked.parent?_of_field? hfield)
    have hmeet := (hoccupants.hasKindIn_occupantSet hlinked hfield).inter
      (hasKindIn_matchKinds hlinked hoccupants inner child hlt hinner)
    rw [matchKinds_field_of rfl hmeet.isEmpty_eq_false]
    exact SyntaxTree.hasKindIn_ownerSet hfield
  | fieldOf f outer, node, _, h => by
    obtain ⟨owner, hlt, hfield, houter⟩ := (hlinked.selects_fieldOf_iff budget f outer node).mp h
    have hmeet := (SyntaxTree.hasKindIn_ownerSet hfield).inter
      (hasKindIn_matchKinds hlinked hoccupants outer owner hlt houter)
    rw [matchKinds_fieldOf_of hmeet.isEmpty_eq_false]
    exact hoccupants.hasKindIn_occupantSet hlinked hfield
  | parent inner, node, hlt, h => by
    cases hparent : tree.parent? node with
    | none => simp [selects, hparent] at h
    | some owner =>
      have hinner : inner.selects tree budget owner = true := by simpa [selects, hparent] using h
      have habove := hlinked.parent_lt node owner hparent
      have howner := hasKindIn_matchKinds hlinked hoccupants inner owner
        (Nat.lt_trans habove hlt) hinner
      rw [matchKinds_parent_of howner.isEmpty_eq_false]
      exact SyntaxTree.hasKindIn_all hlt
  | has inner, node, hlt, h => by
    rw [selects, List.any_eq_true] at h
    obtain ⟨below, hbelow, hinner⟩ := h
    have hin : below < tree.size :=
      hlinked.lt_size_of_mem_walk (fun _ => hlinked.lt_size_of_mem_children) below hbelow
    have hkind := hasKindIn_matchKinds hlinked hoccupants inner below hin hinner
    rw [matchKinds_has_of hkind.isEmpty_eq_false]
    exact SyntaxTree.hasKindIn_all hlt
  | and parts, node, hlt, h => by
    rw [matchKinds]
    exact hasKindIn_kindsOfAll hlinked hoccupants parts node hlt (by rwa [selects] at h)
  | or parts, node, hlt, h => by
    rw [matchKinds]
    exact hasKindIn_kindsOfAny hlinked hoccupants parts node hlt (by rwa [selects] at h)

/-- The kind of a node that matches all selectors is among the kinds of each. -/
theorem hasKindIn_kindsOfAll (hlinked : tree.Linked) (hoccupants : tree.HasListedOccupants) :
    ∀ (parts : List Selector) (node : NodeId), node < tree.size →
    selectsAll tree budget parts node = true → tree.HasKindIn node (kindsOfAll parts)
  | [], node, hlt, _ => by
    rw [kindsOfAll]
    exact SyntaxTree.hasKindIn_all hlt
  | part :: rest, node, hlt, h => by
    rw [selectsAll, Bool.and_eq_true] at h
    rw [kindsOfAll]
    exact (hasKindIn_matchKinds hlinked hoccupants part node hlt h.1).inter
      (hasKindIn_kindsOfAll hlinked hoccupants rest node hlt h.2)

/-- The kind of a node that matches one of the selectors is among the kinds of that one. -/
theorem hasKindIn_kindsOfAny (hlinked : tree.Linked) (hoccupants : tree.HasListedOccupants) :
    ∀ (parts : List Selector) (node : NodeId), node < tree.size →
    selectsAny tree budget parts node = true → tree.HasKindIn node (kindsOfAny parts)
  | [], node, _, h => by simp [selectsAny] at h
  | part :: rest, node, hlt, h => by
    rw [selectsAny, Bool.or_eq_true] at h
    rw [kindsOfAny]
    rcases h with hpart | hrest
    · obtain ⟨kind, hkind, hin⟩ := hasKindIn_matchKinds hlinked hoccupants part node hlt hpart
      exact ⟨kind, hkind, by simp [hin]⟩
    · obtain ⟨kind, hkind, hin⟩ := hasKindIn_kindsOfAny hlinked hoccupants rest node hlt hrest
      exact ⟨kind, hkind, by simp [hin]⟩

end

end Selector

/-! ### Patterns -/

namespace Pattern

variable {tree : SyntaxTree} {node : NodeId} {selector : Selector}

/-- A pattern of a selector with a kind for every node that matches is tried at no node in vain, and
left out at none. -/
theorem matchesAt_of_ofSelector {pattern : Pattern} (hpattern : ofSelector selector = .ok pattern)
    {budget : Nat} (hkind : selector.selects tree budget node = true →
      tree.HasKindIn node selector.matchKinds) :
    pattern.matchesAt tree budget node = selector.selects tree budget node := by
  simp only [ofSelector] at hpattern
  split at hpattern
  next => cases hpattern
  next =>
    obtain rfl := Except.ok.inj hpattern
    cases hselects : selector.selects tree budget node with
    | false => unfold matchesAt; split <;> simp [hselects]
    | true =>
      obtain ⟨kind, hkind, hin⟩ := hkind hselects
      simp [matchesAt, hkind, hin, hselects]

/-- A selector that makes no pattern has no kinds. -/
theorem isEmpty_of_ofSelector {fault : PatternFault} (h : ofSelector selector = .error fault) :
    selector.matchKinds.isEmpty = true := by
  simp only [ofSelector] at h
  split at h
  next hempty => exact hempty
  next => cases h

/-- **The kinds of a selector miss nothing**: in the tree of a document where what stands in the
named places has a kind that can stand there, a node that matches a selector has one of its kinds, a
pattern matches exactly where its selector does, and a selector that makes no pattern matches
nowhere. -/
theorem selects_of_ofSelector (document : Concrete.Document)
    (hoccupants : (SyntaxTree.ofDocument document).HasListedOccupants) (budget : Nat)
    (selector : Selector) (node : NodeId) (hnode : node < (SyntaxTree.ofDocument document).size) :
    let tree := SyntaxTree.ofDocument document
    (selector.selects tree budget node = true →
        ∃ kind, tree.kind? node = some kind ∧ selector.matchKinds.contains kind = true) ∧
      (∀ pattern, ofSelector selector = .ok pattern →
        pattern.matchesAt tree budget node = selector.selects tree budget node) ∧
      ∀ fault, ofSelector selector = .error fault →
        selector.selects tree budget node = false := by
  intro tree
  have hkind : selector.selects tree budget node = true →
      tree.HasKindIn node selector.matchKinds :=
    selector.hasKindIn_matchKinds (SyntaxTree.linked_ofDocument document) hoccupants node hnode
  refine ⟨hkind, fun _ hpattern => matchesAt_of_ofSelector hpattern hkind, fun _ hfault => ?_⟩
  by_contra hselects
  have hempty := (hkind (eq_true_of_ne_false hselects)).isEmpty_eq_false
  rw [isEmpty_of_ofSelector hfault] at hempty
  cases hempty

/-- The document `let n = f(1);`. -/
def binding : Concrete.Document where
  text := "let n = f(1);"
  dialect := .typeScript
  root :=
    .named "program" 0 13 none
      [.named "lexical_declaration" 0 13 none
        [.named "variable_declarator" 4 12 none
          [.named "identifier" 4 5 (some "name") [],
            .named "call_expression" 8 12 (some "value")
              [.named "identifier" 8 9 (some "function") [],
                .named "arguments" 9 12 (some "arguments") [.named "number" 10 11 none []]]]]]

/-- The binding is found by the name of what is called for its value. No node is found by a literal
for a property. -/
theorem selects_of_ofSelector_binding :
    let tree := SyntaxTree.ofDocument binding
    let called := Selector.field .init (.field .callee (.name "f"))
    let literal := Selector.field .property (.kind .literal)
    tree.HasListedOccupants ∧ 2 < tree.size ∧ called.selects tree 0 2 = true ∧
      (∃ kind, tree.kind? 2 = some kind ∧ called.matchKinds.contains kind = true) ∧
      (∀ pattern, ofSelector called = .ok pattern → pattern.matchesAt tree 0 2 = true) ∧
      ofSelector literal = .error (.unsatisfiable "[Property: Literal]") ∧
      literal.selects tree 0 2 = false := by
  intro tree called literal
  have hoccupants : tree.HasListedOccupants := by decide +kernel
  have hnode : 2 < tree.size := by decide +kernel
  have hselects : called.selects tree 0 2 = true := by decide +kernel
  have hfault : ofSelector literal = .error (.unsatisfiable "[Property: Literal]") := rfl
  obtain ⟨hkind, hmatches, -⟩ := selects_of_ofSelector binding hoccupants 0 called 2 hnode
  obtain ⟨-, -, hnowhere⟩ := selects_of_ofSelector binding hoccupants 0 literal 2 hnode
  exact ⟨hoccupants, hnode, hselects, hkind hselects,
    fun pattern hpattern => (hmatches pattern hpattern).trans hselects, hfault, hnowhere _ hfault⟩

end Pattern

end StreamLint
