import StreamLint.Proofs.Syntax.Collected
import StreamLint.Syntax.TypeExpr.OfConcrete
/-!
# Unions and intersections are flat

A union in a union gives its members to it, and an intersection in an intersection likewise. That
happens in two ways: a nested node of the kind of the outer one is gone into on the spot, and an
operand whose type turns out to be a union (because there is one behind parentheses) is replaced by
the members of it. Both are the same here, because the second does for a node of the same kind what
the first does (`StreamLint.TypeExpr.flatten_eq`).

So no union that a concrete tree stands for has a union as a member, at any depth of the type
(`StreamLint.TypeExpr.IsFlat`), and nothing is lost on the way: the members are the types of the
*operands* of the node, those nodes below it that one comes to through nodes of its own kind and
through wrappers, and that are none of these themselves (`StreamLint.Concrete.Node.IsOperandAt`).
They come in the order of the text: `StreamLint.TypeExpr.flattens`.
-/

namespace StreamLint

open Concrete (Node Address)

/-! ### Operands in a concrete tree -/

namespace Concrete.Node

/-- The nodes that stand for the type of their first part. -/
def typeWrappers : List String :=
  ["type_annotation", "omitting_type_annotation", "adding_type_annotation",
    "opting_type_annotation", "parenthesized_type", "readonly_type", "constraint", "default_type"]

/-- **The addresses of the operands** of a node, with nodes of one kind and wrappers looked
through. -/
inductive IsOperandAt (kind : String) : Node → Address → Prop
  /-- A node that there is nothing to look through to. -/
  | self {node : Node} (hkind : node.kind ≠ kind)
      (hclosed : node.kind ∈ typeWrappers → node.namedParts = []) : IsOperandAt kind node []
  /-- The operands of a wrapper are those of its first part. -/
  | wrapped {node part : Node} {base rest : Address} (hkind : node.kind ∈ typeWrappers)
      (hbase : node.partSites.head? = some base) (hpart : node.at? base = some part)
      (h : IsOperandAt kind part rest) : IsOperandAt kind node (base ++ rest)
  /-- The operands of a node of the kind are those of its parts. -/
  | joined {node part : Node} {base rest : Address} (hkind : node.kind = kind)
      (hbase : base ∈ node.partSites) (hpart : node.at? base = some part)
      (h : IsOperandAt kind part rest) : IsOperandAt kind node (base ++ rest)

end Concrete.Node

namespace TypeExpr

/-! ### Flat types -/

/-- The kinds of node whose operands are joined to one type, and what they are joined to. -/
inductive Joins : String → (List TypeExpr → TypeExpr) → Prop
  /-- Operands of a union. -/
  | union : Joins "union_type" .union
  /-- Operands of an intersection. -/
  | intersection : Joins "intersection_type" .intersection

/-- The types that a type is directly made of. -/
def parts : TypeExpr → List TypeExpr
  | named _ arguments => arguments
  | union members => members
  | intersection members => members
  | array element => [element]
  | tuple elements => elements
  | function returnType => [returnType]
  | object members => members.map (·.type)
  | keyword _ | literal _ | unsupported _ => []

/-- A type stands in another one, at any depth. -/
inductive Inside (inner : TypeExpr) : TypeExpr → Prop
  /-- The type itself. -/
  | self : Inside inner inner
  /-- What stands in a part. -/
  | part {part type : TypeExpr} (hpart : part ∈ type.parts) (h : Inside inner part) :
      Inside inner type

/-- **The type is flat**: nowhere in it is a union a member of a union, or an intersection one of an
intersection. -/
def IsFlat (type : TypeExpr) : Prop :=
  ∀ kind join, Joins kind join → ∀ members nested, (join members).Inside type →
    join nested ∉ members

variable {kind source : String} {join : List TypeExpr → TypeExpr} {type part : TypeExpr}
  {node : Node}

/-- A type is flat if its parts are, and it is not nested directly. -/
theorem isFlat_of_parts (hparts : ∀ part ∈ type.parts, part.IsFlat)
    (htop : ∀ kind join, Joins kind join → ∀ members nested, type = join members →
      join nested ∉ members) : type.IsFlat := by
  intro kind join hjoins members nested hinside
  generalize houter : join members = outer at hinside
  cases hinside with
  | self => exact htop kind join hjoins members nested houter.symm
  | part hpart h =>
    subst houter
    exact hparts _ hpart kind join hjoins members nested h

theorem isFlat_of_parts_eq_nil (h : type.parts = []) : type.IsFlat := by
  refine isFlat_of_parts (by simp [h]) fun kind join hjoins members nested htype => ?_
  subst htype
  cases hjoins <;> simp_all [parts]

theorem IsFlat.of_mem_parts (h : type.IsFlat) (hpart : part ∈ type.parts) : part.IsFlat :=
  fun kind join hjoins members nested hinside =>
    h kind join hjoins members nested (.part hpart hinside)

namespace Joins

theorem parts_eq (hjoins : Joins kind join) (members : List TypeExpr) :
    (join members).parts = members := by
  cases hjoins <;> rfl

theorem notMem_typeWrappers (hjoins : Joins kind join) : kind ∉ Node.typeWrappers := by
  cases hjoins <;> decide

/-- A type is joined of its operands, or it is the only one. -/
theorem operands_cases (hjoins : Joins kind join) (type : TypeExpr) :
    (∃ members, type = join members ∧ operands kind type = members) ∨
      ((∀ members, type ≠ join members) ∧ operands kind type = [type]) := by
  cases hjoins <;> cases type <;> simp [operands]

theorem operands_join (hjoins : Joins kind join) (members : List TypeExpr) :
    operands kind (join members) = members := by
  cases hjoins <;> rfl

theorem operands_of_ne (hjoins : Joins kind join) (h : ∀ members, type ≠ join members) :
    operands kind type = [type] := by
  rcases hjoins.operands_cases type with ⟨members, htype, -⟩ | ⟨-, hself⟩
  · exact absurd htype (h members)
  · exact hself

/-- The operands of a flat type are flat, and none of them is to be taken apart again. -/
theorem isFlat_of_mem_operands (hjoins : Joins kind join) (h : type.IsFlat)
    (hpart : part ∈ operands kind type) : part.IsFlat ∧ ∀ nested, part ≠ join nested := by
  rcases hjoins.operands_cases type with ⟨members, rfl, hmembers⟩ | ⟨hne, hself⟩
  · rw [hmembers] at hpart
    refine ⟨h.of_mem_parts ((hjoins.parts_eq members).symm ▸ hpart), ?_⟩
    rintro nested rfl
    exact h kind join hjoins members nested .self hpart
  · rw [hself, List.mem_singleton] at hpart
    subst hpart
    exact ⟨h, hne⟩

end Joins

/-! ### What concrete nodes stand for -/

/-- A wrapper stands for its first part. -/
theorem ofConcrete_eq_ofFirst (hkind : node.kind ∈ Node.typeWrappers) :
    ofConcrete source node = ofFirst source node := by
  simp only [Node.typeWrappers, List.mem_cons, List.not_mem_nil, or_false] at hkind
  rcases hkind with h | h | h | h | h | h | h | h <;> rw [ofConcrete] <;> simp only [h]

theorem ofFirst_of_nil (hparts : node.namedParts = []) :
    ofFirst source node = .unsupported (node.text source) := by
  rw [ofFirst]
  split
  next => rfl
  next hsome => simp [hparts] at hsome

theorem ofFirst_of_cons {child : Node} {rest : List Node} (hparts : node.namedParts = child :: rest) :
    ofFirst source node = ofConcrete source child := by
  rw [ofFirst]
  split
  next hnone => simp [hparts] at hnone
  next hsome =>
    rw [hparts] at hsome
    rw [(List.cons.inj hsome).1]

theorem Joins.ofConcrete_eq (hjoins : Joins kind join) (hkind : node.kind = kind) :
    ofConcrete source node = join (flatten source kind node) := by
  cases hjoins <;> rw [ofConcrete] <;> simp only [hkind]

/-- **The two ways of flattening are one**: what an operand adds is to be seen from its type. -/
theorem Joins.flatten_eq (hjoins : Joins kind join) :
    flatten source kind node =
      node.namedParts.flatMap fun child => operands kind (ofConcrete source child) := by
  have hoperand : ∀ child : Node,
      (if child.kind == kind then flatten source kind child
        else operands kind (ofConcrete source child)) = operands kind (ofConcrete source child) := by
    intro child
    split
    next hkind => rw [hjoins.ofConcrete_eq (beq_iff_eq.mp hkind), hjoins.operands_join]
    next => rfl
  rw [flatten, List.flatMap_def]
  simp only [hoperand, List.map_attach_eq_pmap, List.pmap_eq_map]

/-- Whether a type is a union or an intersection. -/
def isJoined : TypeExpr → Bool
  | union _ | intersection _ => true
  | _ => false

theorem Joins.ne_of_isJoined_eq (hjoins : Joins kind join) (h : type.isJoined = false)
    (members : List TypeExpr) : type ≠ join members := by
  rintro rfl
  cases hjoins <;> cases h

/-- The type of a node is not joined, and it is made of types that other nodes below stand for, and
of types without parts. -/
structure IsComposed (source : String) (node : Node) (type : TypeExpr) : Prop where
  /-- It is neither a union nor an intersection. -/
  isJoined_eq : type.isJoined = false
  /-- What it is made of. -/
  parts_cases : ∀ part ∈ type.parts, part.parts = [] ∨
    ∃ child, sizeOf child < sizeOf node ∧ part = ofConcrete source child

theorem IsComposed.of_parts_eq_nil (hjoined : type.isJoined = false) (h : type.parts = []) :
    IsComposed source node type :=
  ⟨hjoined, by simp [h]⟩

theorem isComposed_ofKeywordText (text : String) :
    IsComposed source node (ofKeywordText text) := by
  unfold ofKeywordText
  split <;> exact .of_parts_eq_nil rfl rfl

theorem isComposed_ofLiteral : IsComposed source node (ofLiteral source node) := by
  unfold ofLiteral
  split
  next => exact isComposed_ofKeywordText _
  next => split <;> exact .of_parts_eq_nil rfl rfl

theorem ofFirst_cases (source : String) (node : Node) :
    (ofFirst source node).parts = [] ∨
      ∃ child, sizeOf child < sizeOf node ∧ ofFirst source node = ofConcrete source child := by
  cases hparts : node.namedParts with
  | nil => exact .inl (by rw [ofFirst_of_nil hparts, parts])
  | cons child rest =>
    exact .inr ⟨child, Node.sizeOf_lt_of_mem_namedParts (by simp [hparts]), ofFirst_of_cons hparts⟩

theorem ofArguments_cases (hpart : part ∈ ofArguments source node) :
    ∃ child, sizeOf child < sizeOf node ∧ part = ofConcrete source child := by
  rw [ofArguments] at hpart
  split at hpart
  next => cases hpart
  next list hlist =>
    obtain ⟨⟨child, hchild⟩, -, rfl⟩ := List.mem_map.mp hpart
    have hlt := Node.sizeOf_lt_of_mem_namedParts hchild
    exact ⟨child, hlt.trans (Node.sizeOf_lt_of_field? hlist), rfl⟩

theorem ofMember_cases {member : Member TypeExpr} (h : ofMember source node = some member) :
    member.type.parts = [] ∨
      ∃ child, sizeOf child < sizeOf node ∧ member.type = ofConcrete source child := by
  rw [ofMember] at h
  repeat' split at h
  all_goals cases h
  all_goals first
    | exact .inl rfl
    | exact .inr ⟨_, Node.sizeOf_lt_of_field? (by assumption), rfl⟩

/-- A node of any other kind stands for a type that is composed. -/
theorem isComposed_ofConcrete (source : String) (hwrapper : node.kind ∉ Node.typeWrappers)
    (hkind : ∀ join, ¬Joins node.kind join) :
    IsComposed source node (ofConcrete source node) := by
  have hfunction : ∀ type : TypeExpr, type.parts = [] ∨
      (∃ child, sizeOf child < sizeOf node ∧ type = ofConcrete source child) →
        IsComposed source node (.function type) := by
    intro type htype
    exact ⟨rfl, fun part hpart => List.mem_singleton.mp hpart ▸ htype⟩
  have hobject : IsComposed source node
      (.object (node.namedParts.attach.filterMap fun child => ofMember source child.1)) := by
    refine ⟨rfl, fun part hpart => ?_⟩
    obtain ⟨member, hmember, rfl⟩ := List.mem_map.mp hpart
    obtain ⟨⟨child, hchild⟩, -, hof⟩ := List.mem_filterMap.mp hmember
    rcases ofMember_cases hof with hnil | ⟨inner, hlt, htype⟩
    · exact .inl hnil
    · exact .inr ⟨inner, hlt.trans (Node.sizeOf_lt_of_mem_namedParts hchild), htype⟩
  simp only [Node.typeWrappers, List.mem_cons, List.not_mem_nil, or_false, not_or] at hwrapper
  unfold ofConcrete
  split
  -- Most kinds have types without parts, and eight of them are those of wrappers.
  any_goals exact .of_parts_eq_nil rfl rfl
  any_goals exact hobject
  any_goals simp_all only [not_true_eq_false, false_and, and_false]
  next => exact isComposed_ofKeywordText _
  next => exact ⟨rfl, fun part hpart => .inr (ofArguments_cases hpart)⟩
  next => exact absurd .union (hkind _)
  next => exact absurd .intersection (hkind _)
  next => exact ⟨rfl, fun part hpart => List.mem_singleton.mp hpart ▸ ofFirst_cases source node⟩
  next =>
    refine ⟨rfl, fun part hpart => ?_⟩
    obtain ⟨⟨child, hchild⟩, -, rfl⟩ := List.mem_map.mp hpart
    exact .inr ⟨child, Node.sizeOf_lt_of_mem_namedParts hchild, rfl⟩
  next => exact isComposed_ofLiteral
  all_goals
    split
    next type htype => exact hfunction _ (.inr ⟨type, sizeOf_lt_of_resultNode? htype, rfl⟩)
    next => exact hfunction _ (.inl rfl)

/-! ### Flatness -/

theorem Joins.join_inj {other : String} {join' : List TypeExpr → TypeExpr}
    {members others : List TypeExpr} (hjoins : Joins kind join) (hother : Joins other join')
    (h : join members = join' others) : kind = other ∧ join = join' ∧ members = others := by
  cases hjoins <;> cases hother <;> simp_all

/-- The operands of a node whose parts are flat are flat, and none of them is to be taken apart. -/
theorem Joins.isFlat_of_mem_flatten (hjoins : Joins kind join)
    (h : ∀ child ∈ node.namedParts, (ofConcrete source child).IsFlat)
    (hpart : part ∈ flatten source kind node) : part.IsFlat ∧ ∀ nested, part ≠ join nested := by
  rw [hjoins.flatten_eq] at hpart
  obtain ⟨child, hchild, hpart⟩ := List.mem_flatMap.mp hpart
  exact hjoins.isFlat_of_mem_operands (h child hchild) hpart

/-- **Whatever a node stands for is flat.** -/
theorem isFlat_ofConcrete (source : String) (node : Node) : (ofConcrete source node).IsFlat := by
  -- By the size of the node: what its type is made of is what smaller nodes stand for, but for a
  -- joined type, where it is the operands of that.
  by_cases hwrapper : node.kind ∈ Node.typeWrappers
  · rw [ofConcrete_eq_ofFirst hwrapper]
    rcases ofFirst_cases source node with hnil | ⟨child, hlt, hchild⟩
    · exact isFlat_of_parts_eq_nil hnil
    · rw [hchild]
      exact isFlat_ofConcrete source child
  by_cases hkind : ∃ join, Joins node.kind join
  · obtain ⟨join, hjoins⟩ := hkind
    have hmembers : ∀ member ∈ flatten source node.kind node,
        member.IsFlat ∧ ∀ nested, member ≠ join nested := by
      intro member hmember
      refine hjoins.isFlat_of_mem_flatten (fun child hchild => ?_) hmember
      have := Node.sizeOf_lt_of_mem_namedParts hchild
      exact isFlat_ofConcrete source child
    rw [hjoins.ofConcrete_eq rfl]
    refine isFlat_of_parts (fun part hpart => ?_) ?_
    · rw [hjoins.parts_eq] at hpart
      exact (hmembers part hpart).1
    · intro kind join' hother members nested heq hnested
      obtain ⟨-, rfl, rfl⟩ := hjoins.join_inj hother heq
      exact (hmembers _ hnested).2 nested rfl
  · have hcomposed := isComposed_ofConcrete source hwrapper (not_exists.mp hkind)
    refine isFlat_of_parts (fun part hpart => ?_) ?_
    · rcases hcomposed.parts_cases part hpart with hnil | ⟨child, hlt, rfl⟩
      · exact isFlat_of_parts_eq_nil hnil
      · exact isFlat_ofConcrete source child
    · intro kind join hjoins members nested heq
      exact absurd heq (hjoins.ne_of_isJoined_eq hcomposed.isJoined_eq members)
termination_by sizeOf node

/-! ### Operands -/

/-- A node that there is nothing to look through to does not stand for a joined type. -/
theorem Joins.ofConcrete_ne (hjoins : Joins kind join) (hkind : node.kind ≠ kind)
    (hclosed : node.kind ∈ Node.typeWrappers → node.namedParts = []) (members : List TypeExpr) :
    ofConcrete source node ≠ join members := by
  by_cases hwrapper : node.kind ∈ Node.typeWrappers
  · rw [ofConcrete_eq_ofFirst hwrapper, ofFirst_of_nil (hclosed hwrapper)]
    exact hjoins.ne_of_isJoined_eq rfl members
  by_cases hother : ∃ join, Joins node.kind join
  · obtain ⟨join', hother⟩ := hother
    rw [hother.ofConcrete_eq rfl]
    exact fun heq => hkind (hother.join_inj hjoins heq).1
  · have hcomposed := isComposed_ofConcrete source hwrapper (not_exists.mp hother)
    exact hjoins.ne_of_isJoined_eq hcomposed.isJoined_eq members

theorem partSites_eq_nil (hparts : node.namedParts = []) : node.partSites = [] := by
  have hsites := node.at?_partSites
  rw [hparts, List.map_nil, List.map_eq_nil_iff] at hsites
  exact hsites

/-- There is one operand where there is nothing to look through to. -/
theorem eq_nil_iff_isOperandAt (hkind : node.kind ≠ kind)
    (hclosed : node.kind ∈ Node.typeWrappers → node.namedParts = []) (site : Address) :
    site = [] ↔ node.IsOperandAt kind site := by
  constructor
  · rintro rfl
    exact .self hkind hclosed
  · intro h
    cases h with
    | self => rfl
    | wrapped hwrapper hbase =>
      rw [partSites_eq_nil (hclosed hwrapper)] at hbase
      cases hbase
    | joined hsame => exact absurd hsame hkind

/-- The operands of a wrapper are those of its first part. -/
theorem isOperandAt_wrapper_iff {child : Node} {base : Address} (hkind : node.kind ≠ kind)
    (hwrapper : node.kind ∈ Node.typeWrappers) (hbase : node.partSites.head? = some base)
    (hchild : node.at? base = some child) (site : Address) :
    (∃ rest, child.IsOperandAt kind rest ∧ site = base ++ rest) ↔ node.IsOperandAt kind site := by
  constructor
  · rintro ⟨rest, hrest, rfl⟩
    exact .wrapped hwrapper hbase hchild hrest
  · intro h
    cases h with
    | self _ hclosed =>
      rw [partSites_eq_nil (hclosed hwrapper)] at hbase
      cases hbase
    | wrapped _ hother hpart hrest =>
      obtain rfl := Option.some.inj (hbase.symm.trans hother)
      obtain rfl := Option.some.inj (hchild.symm.trans hpart)
      exact ⟨_, hrest, rfl⟩
    | joined hsame => exact absurd hsame hkind

/-- The operands of a node of the kind are those of its parts. -/
theorem isOperandAt_joined_iff (hjoins : Joins kind join) (hkind : node.kind = kind)
    (site : Address) :
    (∃ base ∈ node.partSites, ∃ child rest, node.at? base = some child ∧
      child.IsOperandAt kind rest ∧ site = base ++ rest) ↔ node.IsOperandAt kind site := by
  constructor
  · rintro ⟨base, hbase, child, rest, hchild, hrest, rfl⟩
    exact .joined hkind hbase hchild hrest
  · intro h
    cases h with
    | self hother => exact absurd hkind hother
    | wrapped hwrapper => exact absurd (hkind ▸ hwrapper) hjoins.notMem_typeWrappers
    | joined _ hbase hpart hrest => exact ⟨_, hbase, _, _, hpart, hrest, rfl⟩

/-- **What a node adds to a union or an intersection** is collected from its operands. -/
theorem Joins.exists_collects_operands (hjoins : Joins kind join) (source : String) (node : Node) :
    ∃ sites, node.Collects (node.IsOperandAt kind) (ofConcrete source) sites
      (operands kind (ofConcrete source node)) := by
  by_cases hkind : node.kind = kind
  · rw [hjoins.ofConcrete_eq hkind, hjoins.operands_join, hjoins.flatten_eq]
    obtain ⟨sites, hsites⟩ := Node.exists_collects_flatMap node.at?_partSites
      (Node.pairwise_partSites (fun _ _ => id) node) fun child hchild =>
        have := Node.sizeOf_lt_of_mem_namedParts hchild
        hjoins.exists_collects_operands source child
    exact ⟨sites, hsites.congr (isOperandAt_joined_iff hjoins hkind)⟩
  -- A wrapper without parts stands for its own text, and is an operand like any other node.
  by_cases hclosed : node.kind ∈ Node.typeWrappers → node.namedParts = []
  · rw [hjoins.operands_of_ne (hjoins.ofConcrete_ne hkind hclosed)]
    exact ⟨_, (Node.Collects.self node _).congr (eq_nil_iff_isOperandAt hkind hclosed)⟩
  · obtain ⟨hwrapper, hparts⟩ := Classical.not_imp.mp hclosed
    obtain ⟨child, rest, hparts⟩ := List.exists_cons_of_ne_nil hparts
    have hsites := node.at?_partSites
    rw [hparts, List.map_cons] at hsites
    obtain ⟨base, bases, hbases, hbase, -⟩ := List.map_eq_cons_iff.mp hsites
    have hlt : sizeOf child < sizeOf node := Node.sizeOf_lt_of_mem_namedParts (by simp [hparts])
    obtain ⟨sites, hchild⟩ := hjoins.exists_collects_operands source child
    rw [ofConcrete_eq_ofFirst hwrapper, ofFirst_of_cons hparts]
    exact ⟨_, (hchild.of_part hbase).congr
      (isOperandAt_wrapper_iff hkind hwrapper (by rw [hbases, List.head?_cons]) hbase)⟩
termination_by sizeOf node

/-- **Written types are flattened without loss.** What a node stands for is flat, and if the node is
a union or an intersection, the members are the types of its operands, each once and in the order of
the text. -/
theorem flattens (source : String) (node : Node) :
    (ofConcrete source node).IsFlat ∧
      ∀ kind join, Joins kind join → node.kind = kind → ∃ sites members,
        ofConcrete source node = join members ∧
          node.Collects (node.IsOperandAt kind) (ofConcrete source) sites members := by
  refine ⟨isFlat_ofConcrete source node, fun kind join hjoins hkind => ?_⟩
  obtain ⟨sites, hsites⟩ := hjoins.exists_collects_operands source node
  rw [hjoins.ofConcrete_eq hkind, hjoins.operands_join] at hsites
  exact ⟨sites, _, hjoins.ofConcrete_eq hkind, hsites⟩

/-- The type in `let a: string | (number | null) | A;`. -/
def nestedUnion : Node :=
  .named "union_type" 7 35 none
    [.named "union_type" 7 31 none
      [.named "predefined_type" 7 13 none [.token "string" 7 13], .token "|" 14 15,
        .named "parenthesized_type" 16 31 none
          [.token "(" 16 17,
            .named "union_type" 17 30 none
              [.named "predefined_type" 17 23 none [.token "number" 17 23], .token "|" 24 25,
                .named "literal_type" 26 30 none [.named "null" 26 30 none []]],
            .token ")" 30 31]],
      .token "|" 32 33, .named "type_identifier" 34 35 none []]

theorem flattens_nestedUnion :
    let source := "let a: string | (number | null) | A;"
    let type := ofConcrete source nestedUnion
    Joins "union_type" .union ∧ nestedUnion.kind = "union_type" ∧ type.IsFlat ∧
      (∃ sites members, type = .union members ∧
        nestedUnion.Collects (nestedUnion.IsOperandAt "union_type") (ofConcrete source) sites
          members) ∧
      type.display = "string | number | null | A" := by
  intro source type
  obtain ⟨hflat, hmembers⟩ := flattens source nestedUnion
  exact ⟨.union, rfl, hflat, hmembers "union_type" .union .union rfl, by decide +kernel⟩

end TypeExpr

end StreamLint
