import StreamLint.Concrete.Issue
import StreamLint.Proofs.Syntax.Collected
import StreamLint.Proofs.Syntax.Grammar
/-!
# The issues of a document are complete

The search for issues goes through a tree with a stack, and leaves out the children of every node
that says there is nothing to be found below it. Where the flags of the tree lead to its issues
(`StreamLint.Concrete.Node.LeadsToIssues`) nothing is lost by that: what the search finds is what a
filter keeps of all the nodes (`StreamLint.Concrete.issuesOnStack_eq`).

The nodes of a tree that pass a test are collected from it, in the order of the text
(`StreamLint.Concrete.Node.exists_collects_nodes`). So the issues of a document are its nodes for
text that fits nowhere and for tokens that are not there, every one of them once, however deep they
lie in each other: `StreamLint.Concrete.Document.listsIssues`.
-/

namespace StreamLint

namespace Concrete

namespace Node

/-! ### The nodes of a tree -/

/-- The nodes of a tree are its root, and those of the trees below it. -/
theorem nodes_eq (node : Node) : node.nodes = node :: node.children.flatMap nodes := by
  have hlist : ∀ trees : List Node, nodesOfList trees = trees.flatMap nodes := by
    intro trees
    induction trees with
    | nil => rfl
    | cons first rest ih => rw [nodesOfList, ih, List.flatMap_cons]
  cases node with
  | mk mark below => rw [nodes, hlist, children]

/-- The nodes of a subtree are nodes of the tree. -/
theorem nodes_subset_of_mem_children {node child : Node} (h : child ∈ node.children) :
    child.nodes ⊆ node.nodes := by
  intro below hbelow
  rw [nodes_eq]
  exact List.mem_cons_of_mem _ (List.mem_flatMap.mpr ⟨child, h, hbelow⟩)

variable {node : Node}

/-- Below the root there is a node at an address if there is one on the way through a child. -/
theorem exists_at?_below_iff (test : Node → Prop) (site : Address) :
    (∃ base ∈ (List.range node.children.length).map ([·]), ∃ child rest,
      node.at? base = some child ∧ (∃ found, child.at? rest = some found ∧ test found) ∧
        site = base ++ rest) ↔
      site ≠ [] ∧ ∃ found, node.at? site = some found ∧ test found := by
  constructor
  · rintro ⟨base, hbase, child, rest, hchild, ⟨found, hfound, htest⟩, rfl⟩
    obtain ⟨index, -, rfl⟩ := List.mem_map.mp hbase
    refine ⟨by simp, found, ?_, htest⟩
    rw [at?_append, hchild, Option.bind_some, hfound]
  · rintro ⟨hsite, found, hfound, htest⟩
    cases site with
    | nil => exact absurd rfl hsite
    | cons index rest =>
      obtain ⟨child, hchild, hrest⟩ := Option.bind_eq_some_iff.mp hfound
      have hlt : index < node.children.length := (List.getElem?_eq_some_iff.mp hchild).1
      exact ⟨[index], List.mem_map_of_mem (List.mem_range.mpr hlt), child, rest, by simp [hchild],
        ⟨found, hrest, htest⟩, rfl⟩

/-- **The nodes that pass a test** are collected, in the order of the text. -/
theorem exists_collects_nodes {β : Type} (test : Node → Bool) (make : Node → β) (node : Node) :
    ∃ sites, node.Collects (fun site => ∃ found, node.at? site = some found ∧ test found = true)
      make sites ((node.nodes.filter test).map make) := by
  have hsites : ((List.range node.children.length).map ([·])).map node.at? =
      node.children.map some := by
    refine List.ext_getElem (by simp) fun index hindex _ => ?_
    simp only [List.length_map, List.length_range] at hindex
    simp [hindex]
  have hparting : ((List.range node.children.length).map ([·])).Pairwise
      (Address.Parts (· < ·)) := by
    rw [List.pairwise_map]
    exact List.pairwise_lt_range.imp fun hlt => .of_heads hlt [] []
  obtain ⟨sites, hsites⟩ := exists_collects_flatMap hsites hparting fun child hchild =>
    have := sizeOf_lt_of_mem_children hchild
    exists_collects_nodes test make child
  have hbelow := hsites.congr (exists_at?_below_iff (test · = true))
  rw [← List.map_flatMap, ← List.filter_flatMap] at hbelow
  rw [nodes_eq, List.filter_cons]
  -- The root comes before everything below it, if it passes at all.
  by_cases htest : test node = true
  · rw [if_pos htest, List.map_cons]
    refine ⟨_, (hbelow.cons_self (by simp)).congr fun site => ?_⟩
    by_cases hsite : site = [] <;> simp [hsite, htest]
  · rw [if_neg htest]
    refine ⟨_, hbelow.congr fun site => ?_⟩
    by_cases hsite : site = [] <;> simp [hsite, htest]
termination_by sizeOf node

/-! ### Flags -/

/-- **The flags of a tree lead to its issues**: a node with an issue below it says so. -/
def LeadsToIssues (root : Node) : Prop :=
  ∀ node ∈ root.nodes, ∀ child ∈ node.children, ∀ below ∈ child.nodes,
    below.isIssue = true → node.mark.hasError = true

/-- **The flags of a tree are those of its issues**: the nodes that say there is one are those that
are an issue, or have one below them. -/
def FlagsIssues (root : Node) : Prop :=
  ∀ node ∈ root.nodes, (node.mark.hasError = true ↔ ∃ below ∈ node.nodes, below.isIssue = true)

instance (root : Node) : Decidable root.FlagsIssues :=
  inferInstanceAs (Decidable (∀ _ ∈ _, _))

theorem FlagsIssues.leadsToIssues {root : Node} (h : root.FlagsIssues) : root.LeadsToIssues :=
  fun node hnode _ hchild below hbelow hissue =>
    (h node hnode).mpr ⟨below, nodes_subset_of_mem_children hchild hbelow, hissue⟩

theorem LeadsToIssues.of_mem_children {root child : Node} (h : root.LeadsToIssues)
    (hchild : child ∈ root.children) : child.LeadsToIssues :=
  fun node hnode => h node (nodes_subset_of_mem_children hchild hnode)

/-- Below a node that says there is nothing to be found, there is none. -/
theorem LeadsToIssues.filter_children {root : Node} (h : root.LeadsToIssues) :
    ((if root.mark.hasError then root.children else []).flatMap nodes).filter isIssue =
      (root.children.flatMap nodes).filter isIssue := by
  split
  next => rfl
  next hflag =>
    symm
    rw [List.flatMap_nil, List.filter_nil, List.filter_eq_nil_iff]
    intro below hbelow hissue
    obtain ⟨child, hchild, hbelow⟩ := List.mem_flatMap.mp hbelow
    exact hflag (h root root.mem_nodes_self child hchild below hbelow hissue)

end Node

/-! ### The search -/

/-- **Nothing is lost by leaving out subtrees without a flag**: the search finds the issues among
all the nodes of the trees on the stack. -/
theorem issuesOnStack_eq {stack : List Node} (h : ∀ node ∈ stack, node.LeadsToIssues) :
    issuesOnStack stack = (stack.flatMap Node.nodes).filter Node.isIssue := by
  -- The stack of the next step is made of trees with the same property, so nothing has to be known
  -- about where they come from.
  induction stack using issuesOnStack.induct with
  | case1 => rw [issuesOnStack, List.flatMap_nil, List.filter_nil]
  | case2 node stack ih =>
    obtain ⟨hnode, hstack⟩ := List.forall_mem_cons.mp h
    rw [dite_eq_ite] at ih
    have hpushed : ∀ next ∈ (if node.mark.hasError then node.children else []) ++ stack,
        next.LeadsToIssues := by
      intro next hnext
      rcases List.mem_append.mp hnext with hchild | hrest
      · refine hnode.of_mem_children ?_
        split at hchild
        next => exact hchild
        next => cases hchild
      · exact hstack next hrest
    rw [issuesOnStack, ih hpushed, List.flatMap_append, List.filter_append, hnode.filter_children,
      List.flatMap_cons, node.nodes_eq, List.cons_append, List.filter_cons, List.filter_append]
    split
    next => rw [List.singleton_append]
    next => rw [List.nil_append]

/-! ### Excerpts -/

theorem excerpt_cases (text : String) :
    (text.length ≤ 48 ∧ excerpt text = text) ∨
      (48 < text.length ∧ excerpt text = String.ofList (text.toList.take 45) ++ "...") := by
  simp only [excerpt, contextLimit, String.length_toList]
  split
  next hlong => exact .inr ⟨hlong, rfl⟩
  next hshort => exact .inl ⟨Nat.le_of_not_lt hshort, rfl⟩

theorem length_excerpt_le (text : String) : (excerpt text).length ≤ 48 := by
  rcases excerpt_cases text with ⟨hshort, heq⟩ | ⟨hlong, heq⟩
  · rw [heq]
    exact hshort
  · have hdots : "...".length = 3 := rfl
    rw [heq, String.length_append, String.length_ofList, List.length_take, hdots]
    omega

theorem Issue.context_ofNode (text : String) (node : Node) :
    (Issue.ofNode text node).context =
      excerpt (slice text (ofNode text node).startByte (ofNode text node).endByte) :=
  rfl

/-! ### The issues of a document -/

namespace Document

/-- **The issues of a document are listed in full.** -/
structure ListsIssues (document : Document) : Prop where
  /-- They are the nodes for text that fits nowhere and those for tokens that are not there, each
  once and in the order of the text. -/
  collected : ∃ sites, document.root.Collects
    (fun site => ∃ node, document.root.at? site = some node ∧
      (node.mark.isError = true ∨ node.mark.isMissing = true))
    (Issue.ofNode document.text) sites document.issues
  /-- There are none if the document says that it has none, and only then. -/
  issues_eq_nil_iff : document.issues = [] ↔ document.hasIssues = false
  /-- What they show of the text is no longer than 48 characters. -/
  length_context_le : ∀ issue ∈ document.issues, issue.context.length ≤ 48
  /-- It is the text of the place, or the first 45 characters of it with three dots. -/
  context_cases : ∀ issue ∈ document.issues,
    let place := slice document.text issue.startByte issue.endByte
    (place.length ≤ 48 ∧ issue.context = place) ∨
      (48 < place.length ∧ issue.context = String.ofList (place.toList.take 45) ++ "...")

/-- **The listing of issues is complete**, whatever the flags leave out. -/
theorem listsIssues {document : Document} (h : document.root.FlagsIssues) :
    document.ListsIssues := by
  have hfound : document.issues =
      (document.root.nodes.filter Node.isIssue).map (Issue.ofNode document.text) := by
    have hstack : ∀ node ∈ [document.root], node.LeadsToIssues :=
      List.forall_mem_singleton.mpr h.leadsToIssues
    rw [issues, issuesOnStack_eq hstack, List.flatMap_singleton]
  refine ⟨?_, ?_, ?_, ?_⟩
  · obtain ⟨sites, hsites⟩ := document.root.exists_collects_nodes Node.isIssue
      (Issue.ofNode document.text)
    rw [hfound]
    exact ⟨sites, hsites.congr fun site => by simp only [Node.isIssue, Bool.or_eq_true]⟩
  · have hroot := h document.root document.root.mem_nodes_self
    rw [hfound, List.map_eq_nil_iff, List.filter_eq_nil_iff, hasIssues, ← Bool.not_eq_true, hroot]
    simp
  · intro issue hissue
    obtain ⟨node, -, rfl⟩ := List.mem_map.mp hissue
    rw [Issue.context_ofNode]
    exact length_excerpt_le _
  · intro issue hissue
    obtain ⟨node, -, rfl⟩ := List.mem_map.mp hissue
    rw [Issue.context_ofNode]
    exact excerpt_cases _

/-- A document of two lines, an unfinished call with a semicolon in it that fits nowhere, and an
unfinished class. Its second issue is within its first. -/
def unfinished : Document where
  text := "f(;\nclass \x7b\n"
  dialect := .typeScript
  root :=
    .mk ⟨"program", true, false, false, true, ⟨0, 12, ⟨0, 0⟩, ⟨2, 0⟩⟩, none⟩
      [.mk ⟨"ERROR", true, true, false, true, ⟨0, 11, ⟨0, 0⟩, ⟨1, 7⟩⟩, none⟩
        [.named "identifier" 0 1 none [],
          .token "(" 1 2,
          .mk ⟨"ERROR", true, true, false, true, ⟨2, 3, ⟨0, 2⟩, ⟨0, 3⟩⟩, none⟩ [.token ";" 2 3],
          .mk ⟨"class", false, false, false, false, ⟨4, 9, ⟨1, 0⟩, ⟨1, 5⟩⟩, none⟩ [],
          .mk ⟨"\x7b", false, false, false, false, ⟨10, 11, ⟨1, 6⟩, ⟨1, 7⟩⟩, none⟩ []]]

theorem listsIssues_unfinished :
    unfinished.root.FlagsIssues ∧ unfinished.ListsIssues ∧
      unfinished.issues.map (·.context) = ["f(;\nclass \x7b", ";"] := by
  have hflags : unfinished.root.FlagsIssues := by decide +kernel
  have hissues : issuesOnStack [unfinished.root] =
      ([unfinished.root].flatMap Node.nodes).filter Node.isIssue :=
    issuesOnStack_eq (List.forall_mem_singleton.mpr hflags.leadsToIssues)
  refine ⟨hflags, listsIssues hflags, ?_⟩
  rw [issues, hissues]
  decide +kernel

end Document

end Concrete

end StreamLint
