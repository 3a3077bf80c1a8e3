import Mathlib.Data.List.Basic
import Mathlib.Data.List.Lex
import StreamLint.Concrete.Tree
/-!
# Addresses in concrete trees

The *address* of a node is the way from the root to it, the number of a child at every step
(`StreamLint.Concrete.Address`). An address is a prefix of another one if its node is above the
other one's, and the lexicographic order of addresses is the order of the text, every node before
the nodes below it.

Two addresses *part* if they lead to different children of one node
(`StreamLint.Concrete.Address.Parts`); then neither is a prefix of the other. The numbers of the two
children are compared with a relation, so that the same lemmas say that nodes are different and that
they come one after the other.

The named parts of a node and the node in a named place have addresses that start at the node:
`StreamLint.Concrete.Node.partSites`, `StreamLint.Concrete.Node.fieldSite?`,
`StreamLint.Concrete.Node.partSitesIn`.
-/

namespace StreamLint

namespace Concrete

/-- The way from a node to one in its tree: the number of a child at every step. -/
abbrev Address := List Nat

namespace Node

/-- The node at an address. -/
def at? : Node → Address → Option Node
  | node, [] => some node
  | node, index :: rest => (node.children[index]?).bind (·.at? rest)

@[simp]
theorem at?_nil (node : Node) : node.at? [] = some node :=
  rfl

@[simp]
theorem at?_cons (node : Node) (index : Nat) (rest : Address) :
    node.at? (index :: rest) = (node.children[index]?).bind (·.at? rest) :=
  rfl

/-- The way along two addresses is the way along the first, and from there along the second. -/
theorem at?_append (node : Node) (first second : Address) :
    node.at? (first ++ second) = (node.at? first).bind (·.at? second) := by
  induction first generalizing node with
  | nil => rfl
  | cons index rest ih =>
    rw [List.cons_append, at?_cons, at?_cons]
    cases node.children[index]? with
    | none => rfl
    | some child => exact ih child

end Node

/-! ### Addresses that part -/

namespace Address

/-- The addresses part: they lead to children of one node whose numbers are in the relation. -/
def Parts (r : Nat → Nat → Prop) (first second : Address) : Prop :=
  ∃ common i j rest more, first = common ++ i :: rest ∧ second = common ++ j :: more ∧ r i j

variable {r : Nat → Nat → Prop} {first second : Address}

theorem Parts.of_heads {i j : Nat} (h : r i j) (rest more : Address) :
    Parts r (i :: rest) (j :: more) :=
  ⟨[], i, j, rest, more, rfl, rfl, h⟩

/-- Addresses that part still do so further up. -/
theorem Parts.append (h : Parts r first second) (base : Address) :
    Parts r (base ++ first) (base ++ second) := by
  obtain ⟨common, i, j, rest, more, rfl, rfl, hr⟩ := h
  exact ⟨base ++ common, i, j, rest, more, by simp, by simp, hr⟩

/-- What is below addresses that part does so too. -/
theorem Parts.of_below {below under : Address} (h : Parts r first second)
    (hbelow : first <+: below) (hunder : second <+: under) : Parts r below under := by
  obtain ⟨common, i, j, rest, more, rfl, rfl, hr⟩ := h
  obtain ⟨tail, rfl⟩ := hbelow
  obtain ⟨end_, rfl⟩ := hunder
  exact ⟨common, i, j, rest ++ tail, more ++ end_, by simp, by simp, hr⟩

/-- Addresses that lead to different children are different. -/
theorem Parts.ne (h : Parts (· ≠ ·) first second) : first ≠ second := by
  obtain ⟨common, i, j, rest, more, rfl, rfl, hr⟩ := h
  simp [hr]

/-- An address that leads to an earlier child comes first in the order of the text. -/
theorem Parts.lt (h : Parts (· < ·) first second) : first < second := by
  obtain ⟨common, i, j, rest, more, rfl, rfl, hr⟩ := h
  exact List.Lex.append_left (· < ·) (List.Lex.rel hr) common

/-- A node comes before those below it. -/
theorem lt_of_above (h : first <+: second) (hne : first ≠ second) : first < second := by
  obtain ⟨rest, rfl⟩ := h
  cases rest with
  | nil => simp at hne
  | cons index rest =>
    simpa using List.Lex.append_left (· < ·) (List.Lex.nil (a := index) (l := rest)) first

end Address

/-! ### Sites -/

namespace Node

/-- Where the named parts of a node are. -/
def partSites (node : Node) : List Address :=
  (node.children.findIdxs fun child => child.mark.isNamed && !child.isComment).map ([·])

/-- The number of the child in the place called `name`. -/
def fieldIndex? (node : Node) (name : String) : Option Nat :=
  node.children.findIdx? fun child => child.mark.field == some name

/-- Where the node in the place called `name` is. -/
def fieldSite? (node : Node) (name : String) : Option Address :=
  (node.fieldIndex? name).map ([·])

/-- Where the named parts of the node in the place called `name` are. -/
def partSitesIn (node : Node) (name : String) : List Address :=
  match node.fieldSite? name, node.field? name with
  | some site, some list => list.partSites.map (site ++ ·)
  | _, _ => []

variable {node : Node}

/-- The nodes at the numbers that a search finds are those that a filter keeps. -/
theorem at?_findIdxs (node : Node) (wanted : Node → Bool) :
    ((node.children.findIdxs wanted).map ([·])).map node.at? =
      (node.children.filter wanted).map some := by
  refine List.ext_getElem (by simp [List.countP_eq_length_filter]) fun count h _ => ?_
  simp only [List.length_map] at h
  have hlength : count < (node.children.filter wanted).length := by
    simpa [List.countP_eq_length_filter] using h
  have hfound := List.getElem_filter_eq_getElem_getElem_findIdxs hlength
  have hlt := List.getElem_findIdxs_lt h
  simp [hfound, List.getElem?_eq_getElem (show _ < node.children.length by simpa using hlt)]

theorem at?_partSites (node : Node) : node.partSites.map node.at? = node.namedParts.map some :=
  node.at?_findIdxs _

/-- A named place is free, or a child is in it. -/
theorem fieldSite?_cases (node : Node) (name : String) :
    (node.field? name = none ∧ node.fieldSite? name = none) ∨
      ∃ index child, node.field? name = some child ∧ node.fieldSite? name = some [index] ∧
        node.fieldIndex? name = some index ∧ node.children[index]? = some child := by
  have hfind : node.field? name = (node.fieldIndex? name).bind (node.children[·]?) :=
    List.find?_eq_bind_findIdx?_getElem?
  cases hindex : node.fieldIndex? name with
  | none => exact .inl ⟨by simpa [hindex] using hfind, by simp [fieldSite?, hindex]⟩
  | some index =>
    have hlt : index < node.children.length := (List.findIdx?_eq_some_iff_getElem.mp hindex).1
    have hat := List.getElem?_eq_getElem hlt
    exact .inr ⟨index, node.children[index], by simp [hfind, hindex], by simp [fieldSite?, hindex],
      rfl, hat⟩

theorem at?_partSitesIn (node : Node) (name : String) :
    (node.partSitesIn name).map node.at? =
      ((node.field? name).map namedParts |>.getD []).map some := by
  unfold partSitesIn
  rcases node.fieldSite?_cases name with ⟨hfield, hsite⟩ | ⟨index, child, hfield, hsite, -, hat⟩
  · simp [hfield, hsite]
  · have hparts := child.at?_partSites
    simp only [hfield, hsite, List.map_map, Function.comp_def, at?_append]
    simpa [hat, Function.comp_def] using hparts

/-! ### Sites in the order of the text -/

/-- The site is in the named place, or below it. -/
def StartsIn (node : Node) (name : String) (site : Address) : Prop :=
  ∃ index rest, node.fieldIndex? name = some index ∧ site = index :: rest

/-- The numbers of the children in two named places are in the relation. -/
def Follows (r : Nat → Nat → Prop) (node : Node) (first second : String) : Prop :=
  ∀ i j, node.fieldIndex? first = some i → node.fieldIndex? second = some j → r i j

theorem startsIn_of_fieldSite? {name : String} {site : Address}
    (h : node.fieldSite? name = some site) : node.StartsIn name site := by
  obtain ⟨index, hindex, rfl⟩ := Option.map_eq_some_iff.mp h
  exact ⟨index, [], hindex, rfl⟩

theorem startsIn_of_mem_partSitesIn {name : String} {site : Address}
    (h : site ∈ node.partSitesIn name) : node.StartsIn name site := by
  unfold partSitesIn at h
  split at h
  next first list hsite hlist =>
    obtain ⟨inner, -, rfl⟩ := List.mem_map.mp h
    obtain ⟨index, rest, hindex, rfl⟩ := startsIn_of_fieldSite? hsite
    exact ⟨index, rest ++ inner, hindex, rfl⟩
  next => simp at h

/-- **Sites in different places part.** -/
theorem StartsIn.parts {r : Nat → Nat → Prop} {first second : String} {site other : Address}
    (hfirst : node.StartsIn first site) (hsecond : node.StartsIn second other)
    (h : node.Follows r first second) : site.Parts r other := by
  obtain ⟨i, rest, hi, rfl⟩ := hfirst
  obtain ⟨j, more, hj, rfl⟩ := hsecond
  exact .of_heads (h i j hi hj) rest more

/-- Different names are those of different children. -/
theorem follows_ne {first second : String} (h : first ≠ second) :
    node.Follows (· ≠ ·) first second := by
  rintro i j hi hj rfl
  obtain ⟨_, hfirst, -⟩ := List.findIdx?_eq_some_iff_getElem.mp hi
  obtain ⟨_, hsecond, -⟩ := List.findIdx?_eq_some_iff_getElem.mp hj
  simp only [beq_iff_eq] at hfirst hsecond
  exact h (Option.some.inj (hfirst.symm.trans hsecond))

section

variable {r : Nat → Nat → Prop} (hr : ∀ i j, i < j → r i j) (node : Node)
include hr

theorem pairwise_findIdxs (wanted : Node → Bool) :
    ((node.children.findIdxs wanted).map ([·])).Pairwise (Address.Parts r) :=
  List.pairwise_map.mpr
    (List.pairwise_findIdxs.imp fun {i j} hlt => Address.Parts.of_heads (hr i j hlt) [] [])

theorem pairwise_partSites : node.partSites.Pairwise (Address.Parts r) :=
  pairwise_findIdxs hr node _

theorem pairwise_partSitesIn (name : String) :
    (node.partSitesIn name).Pairwise (Address.Parts r) := by
  unfold partSitesIn
  split
  next site list hsite hlist =>
    exact List.pairwise_map.mpr ((pairwise_partSites hr list).imp fun h => h.append site)
  next => exact .nil

end

end Node

end Concrete

end StreamLint
