import StreamLint.Pattern.Index
import StreamLint.Proofs.Syntax.Below
/-!
# What selectors mean

What it is for a node to match a selector can be said by rules, one for each form of selector
(`StreamLint.Selector.Means`). The rules leave open which of the nodes below a node are seen from it.

* If the first `budget` nodes in the order of the text are seen, they say what is computed
  (`StreamLint.Selector.selects_iff_means`), for selectors within selectors too: a search that is
  begun from a node which another search has come to has the whole budget again.
* If all nodes below are seen, they say what a search without a budget would find.

There is no negation among the rules, so that whoever sees more finds more
(`StreamLint.Selector.Means.mono`). What a budget does follows from that:
`StreamLint.Selector.selects_bounded`.
-/

namespace StreamLint

namespace Selector

/-- **The node matches the selector**, if `sees node` are the nodes below it that are looked at. -/
inductive Means (tree : SyntaxTree) (sees : NodeId → NodeId → Prop) : Selector → NodeId → Prop where
  /-- Any node matches. -/
  | any {node : NodeId} : Means tree sees any node
  /-- The node is of the kind. -/
  | kind {k : SyntaxKind} {node : NodeId} (h : tree.kind? node = some k) :
    Means tree sees (kind k) node
  /-- The node is an identifier with the name. -/
  | name {text : String} {node : NodeId} (h : tree.nameAt? node = some text) :
    Means tree sees (name text) node
  /-- The node is an identifier, and its name matches. -/
  | nameMatches {pattern : Regex} {text : String} {node : NodeId}
    (hname : tree.nameAt? node = some text) (h : pattern.matchesIn text = true) :
    Means tree sees (nameMatches pattern) node
  /-- The node has so many arguments. -/
  | argumentCount {arguments : List NodeId} {node : NodeId}
    (h : tree.arguments? node = some arguments) :
    Means tree sees (argumentCount arguments.length) node
  /-- What stands in the place of the node matches. -/
  | field {f : Field} {inner : Selector} {node child : NodeId}
    (hfield : tree.field? node f = some child) (h : Means tree sees inner child) :
    Means tree sees (field f inner) node
  /-- The node stands in the place of its parent, which matches. -/
  | fieldOf {f : Field} {outer : Selector} {node owner : NodeId}
    (hparent : tree.parent? node = some owner) (hfield : tree.field? owner f = some node)
    (h : Means tree sees outer owner) : Means tree sees (fieldOf f outer) node
  /-- The parent of the node matches. -/
  | parent {inner : Selector} {node owner : NodeId} (hparent : tree.parent? node = some owner)
    (h : Means tree sees inner owner) : Means tree sees (parent inner) node
  /-- A node that is seen from the node matches. -/
  | has {inner : Selector} {node below : NodeId} (hsees : sees node below)
    (h : Means tree sees inner below) : Means tree sees (has inner) node
  /-- All parts match. -/
  | and {parts : List Selector} {node : NodeId} (h : ∀ part ∈ parts, Means tree sees part node) :
    Means tree sees (and parts) node
  /-- One of the parts matches. -/
  | or {parts : List Selector} {node : NodeId} {part : Selector} (hpart : part ∈ parts)
    (h : Means tree sees part node) : Means tree sees (or parts) node

variable {tree : SyntaxTree} {sees more : NodeId → NodeId → Prop} {selector : Selector}
  {node : NodeId} {budget : Nat}

/-- **Whoever sees more finds more.** -/
theorem Means.mono (h : selector.Means tree sees node)
    (hmore : ∀ above below, sees above below → more above below) : selector.Means tree more node := by
  induction h with
  | any => exact .any
  | kind h => exact .kind h
  | name h => exact .name h
  | nameMatches hname h => exact .nameMatches hname h
  | argumentCount h => exact .argumentCount h
  | field hfield _ ih => exact .field hfield ih
  | fieldOf hparent hfield _ ih => exact .fieldOf hparent hfield ih
  | parent hparent _ ih => exact .parent hparent ih
  | has hsees _ ih => exact .has (hmore _ _ hsees) ih
  | and _ ih => exact .and ih
  | or hpart _ ih => exact .or hpart ih

/-- Who sees the same finds the same. -/
theorem means_congr (h : ∀ above below, sees above below ↔ more above below) :
    selector.Means tree sees node ↔ selector.Means tree more node :=
  ⟨fun hmeans => hmeans.mono fun above below => (h above below).mp,
    fun hmeans => hmeans.mono fun above below => (h above below).mpr⟩

/-! ### What is computed -/

/-- What matches by the rules is found. -/
theorem Means.selects (h : selector.Means tree
    (fun above below => below ∈ tree.firstBelow budget above) node) :
    selector.selects tree budget node = true := by
  induction h with
  | any => rw [Selector.selects]
  | kind h => simp [Selector.selects, h]
  | name h => simp [Selector.selects, h]
  | nameMatches hname h => simp [Selector.selects, hname, h]
  | argumentCount h => simp [Selector.selects, h]
  | field hfield _ ih => simp [Selector.selects, hfield, ih]
  | fieldOf hparent hfield _ ih => simp [Selector.selects, hparent, hfield, ih]
  | parent hparent _ ih => simp [Selector.selects, hparent, ih]
  | has hsees _ ih =>
    rw [Selector.selects, List.any_eq_true]
    exact ⟨_, hsees, ih⟩
  | and _ ih =>
    rw [selects_and, List.all_eq_true]
    exact ih
  | or hpart _ ih =>
    rw [selects_or, List.any_eq_true]
    exact ⟨_, hpart, ih⟩

/-- What is found matches by the rules. -/
theorem means_of_selects (selector : Selector) (node : NodeId)
    (h : selector.selects tree budget node = true) :
    selector.Means tree (fun above below => below ∈ tree.firstBelow budget above) node := by
  cases selector with
  | any => exact .any
  | kind k => exact .kind (by simpa [selects] using h)
  | name text => exact .name (by simpa [selects] using h)
  | nameMatches pattern =>
    cases hname : tree.nameAt? node with
    | none => simp [selects, hname] at h
    | some text => exact .nameMatches hname (by simpa [selects, hname] using h)
  | argumentCount count =>
    cases harguments : tree.arguments? node with
    | none => simp [selects, harguments] at h
    | some arguments =>
      obtain rfl : arguments.length = count := by simpa [selects, harguments] using h
      exact .argumentCount harguments
  | field f inner =>
    cases hfield : tree.field? node f with
    | none => simp [selects, hfield] at h
    | some child =>
      exact .field hfield (means_of_selects inner child (by simpa [selects, hfield] using h))
  | fieldOf f outer =>
    cases hparent : tree.parent? node with
    | none => simp [selects, hparent] at h
    | some owner =>
      obtain ⟨hfield, houter⟩ : tree.field? owner f = some node ∧
          outer.selects tree budget owner = true := by simpa [selects, hparent] using h
      exact .fieldOf hparent hfield (means_of_selects outer owner houter)
  | parent inner =>
    cases hparent : tree.parent? node with
    | none => simp [selects, hparent] at h
    | some owner =>
      exact .parent hparent (means_of_selects inner owner (by simpa [selects, hparent] using h))
  | has inner =>
    rw [selects, List.any_eq_true] at h
    obtain ⟨below, hsees, hinner⟩ := h
    exact .has hsees (means_of_selects inner below hinner)
  | and parts =>
    rw [selects_and, List.all_eq_true] at h
    exact .and fun part hpart => means_of_selects part node (h part hpart)
  | or parts =>
    rw [selects_or, List.any_eq_true] at h
    obtain ⟨part, hpart, hselects⟩ := h
    exact .or hpart (means_of_selects part node hselects)
  termination_by selector

/-- **What is computed is what the rules say**, if the first `budget` nodes below each node are
seen. -/
theorem selects_iff_means (hlinked : tree.Linked) : selector.selects tree budget node = true ↔
    selector.Means tree (tree.IsAmongFirst budget) node := by
  have hsees : ∀ above below, below ∈ tree.firstBelow budget above ↔
      tree.IsAmongFirst budget above below := fun _ _ => hlinked.mem_walk_children_iff
  rw [← means_congr hsees]
  exact ⟨means_of_selects selector node, Means.selects⟩

/-- **A budget bounds what is found and does nothing else**: a node of a document matches a selector
if it does so by the rules, where from every node the first `budget` nodes below it are seen. With a
larger budget no match is lost, nothing is found that would not be found without a budget, and as
large a budget as the tree has nodes is as good as none. -/
theorem selects_bounded (document : Concrete.Document) (selector : Selector) (node : NodeId)
    (budget : Nat) :
    let tree := SyntaxTree.ofDocument document
    (selector.selects tree budget node = true ↔
        selector.Means tree (tree.IsAmongFirst budget) node) ∧
      (∀ more, budget ≤ more → selector.selects tree budget node = true →
        selector.selects tree more node = true) ∧
      (selector.selects tree budget node = true → selector.Means tree tree.IsBelow node) ∧
      (tree.size ≤ budget →
        (selector.selects tree budget node = true ↔ selector.Means tree tree.IsBelow node)) := by
  intro tree
  have hlinked : tree.Linked := SyntaxTree.linked_ofDocument document
  have hmeans : ∀ budget, selector.selects tree budget node = true ↔
      selector.Means tree (tree.IsAmongFirst budget) node := fun _ => selects_iff_means hlinked
  refine ⟨hmeans budget, fun more hle hselects => ?_, fun hselects => ?_, fun hsize => ?_⟩
  · rw [hmeans] at hselects ⊢
    exact hselects.mono fun _ _ hamong => hamong.mono hle
  · exact ((hmeans budget).mp hselects).mono fun _ _ hamong => hamong.isBelow
  · rw [hmeans]
    exact means_congr fun _ _ => hlinked.isAmongFirst_iff_isBelow hsize

/-- The document `f(g(x));`. -/
def nestedCalls : Concrete.Document where
  text := "f(g(x));"
  dialect := .typeScript
  root :=
    .named "program" 0 8 none
      [.named "expression_statement" 0 8 none
        [.named "call_expression" 0 7 none
          [.named "identifier" 0 1 (some "function") [],
            .named "arguments" 1 7 (some "arguments")
              [.named "call_expression" 2 6 none
                [.named "identifier" 2 3 (some "function") [],
                  .named "arguments" 3 6 (some "arguments") [.named "identifier" 4 5 none []]]]]]]

/-- The argument `x` is the sixth node below the root, so that five are not enough to see it from
there. From the outer call two nodes are enough to see a call with `x` in it, because the search
below the inner call has the whole budget again. -/
theorem selects_bounded_nestedCalls :
    let tree := SyntaxTree.ofDocument nestedCalls
    let direct := has (name "x")
    let nested := has (and [kind .callExpression, direct])
    (direct.selects tree 5 0 = false ∧ direct.selects tree 6 0 = true ∧
      direct.Means tree (tree.IsAmongFirst 6) 0 ∧ direct.Means tree tree.IsBelow 0 ∧ 6 ≤ 7 ∧
      direct.selects tree 7 0 = true) ∧
    (direct.selects tree 2 2 = false ∧ nested.selects tree 2 2 = true ∧
      nested.Means tree (tree.IsAmongFirst 2) 2 ∧ nested.Means tree tree.IsBelow 2) ∧
    tree.size ≤ 7 ∧ (direct.selects tree 7 0 = true ↔ direct.Means tree tree.IsBelow 0) := by
  intro tree direct nested
  obtain ⟨hmeans, hmore, hbelow, -⟩ := selects_bounded nestedCalls direct 0 6
  obtain ⟨hnested, -, hnestedBelow, -⟩ := selects_bounded nestedCalls nested 2 2
  obtain ⟨-, -, -, hall⟩ := selects_bounded nestedCalls direct 0 7
  have hdirect : direct.selects tree 6 0 = true := by decide +kernel
  have hselects : nested.selects tree 2 2 = true := by decide +kernel
  have hsize : tree.size ≤ 7 := by decide +kernel
  exact ⟨⟨by decide +kernel, hdirect, hmeans.mp hdirect, hbelow hdirect, by decide,
    hmore 7 (by decide) hdirect⟩, ⟨by decide +kernel, hselects, hnested.mp hselects,
    hnestedBelow hselects⟩, hsize, hall hsize⟩

end Selector

end StreamLint
