import StreamLint.Proofs.Syntax.Origin
/-!
# Syntax trees are faithful to concrete trees

Lowering takes a concrete tree apart node by node and puts a syntax tree together slot by slot. What
holds the two together is a map from the places of the syntax tree to the addresses of the concrete
one (`StreamLint.Concrete.Document.originOf`). This file says in terms of the two trees alone what
every child of a construct is, `StreamLint.Construct.Reads`: the callee of a call comes from the
node in the place `function`, its arguments come from the named parts of the node in the place
`arguments`, and so on for all constructs; and a child is absent exactly if that node is.

The one node that comes from no node of its own is the parameter that is made up around the name of
an arrow function's only parameter (`StreamLint.Concrete.Document.IsMadeUp`).

`StreamLint.SyntaxTree.isFaithful_ofDocument` puts the parts together.
-/

namespace StreamLint

open Concrete (Node Address Document)

/-! ### What constructs read -/

section

variable (origin : NodeId → Address) (base : Address)

/-- The child comes from the site below `base`, and is absent if there is no such site. -/
def HoldsSite (child : Option NodeId) (site : Option Address) : Prop :=
  child.map origin = site.map (base ++ ·)

/-- The children come from the sites below `base`, one by one. -/
def HoldsSites (children : List NodeId) (sites : List Address) : Prop :=
  children.map origin = sites.map (base ++ ·)

/-- The places in the slots come from the sites below `base`, slot by slot. -/
abbrev FillsSites : List (Option NodeId) → List (Option Address) → Prop :=
  List.Forall₂ (HoldsSite origin base)

end

/-- The children of the construct come from the parts of the node at the address `base` that the
construct is to have as its children. -/
def Construct.Reads (origin : NodeId → Address) (base : Address) (node : Node) : Construct → Prop
  | program body | blockStatement body | variableDeclaration body | arrayExpression body
  | objectExpression body => HoldsSites origin base body node.partSites
  | expressionStatement inner | nonNullExpression inner | awaitExpression inner
  | spreadElement inner => HoldsSite origin base (some inner) node.partSites.head?
  | returnStatement argument => HoldsSite origin base argument node.partSites.head?
  | variableDeclarator name _ init =>
    HoldsSite origin base (some name) (node.fieldSite? "name") ∧
      HoldsSite origin base init (node.fieldSite? "value")
  | functionDeclaration name _ params _ body =>
    HoldsSite origin base name (node.fieldSite? "name") ∧
      HoldsSites origin base params node.parameterSites ∧
      HoldsSite origin base body (node.fieldSite? "body")
  | functionExpression params _ body =>
    HoldsSites origin base params node.parameterSites ∧
      HoldsSite origin base body (node.fieldSite? "body")
  | parameter name _ default _ =>
    HoldsSite origin base (some name) (node.fieldSite? "pattern") ∧
      HoldsSite origin base default (node.fieldSite? "value")
  | classDeclaration name _ _ _ members =>
    HoldsSite origin base name (node.fieldSite? "name") ∧
      HoldsSites origin base members (node.partSitesIn "body")
  | propertyDefinition name _ value =>
    HoldsSite origin base (some name) (node.fieldSite? "name") ∧
      HoldsSite origin base value (node.fieldSite? "value")
  | methodDefinition name params _ body =>
    HoldsSite origin base (some name) (node.fieldSite? "name") ∧
      HoldsSites origin base params node.parameterSites ∧
      HoldsSite origin base body (node.fieldSite? "body")
  | interfaceDeclaration name _ _ members =>
    HoldsSite origin base (some name) (node.fieldSite? "name") ∧
      HoldsSites origin base members (node.partSitesIn "body")
  | typeAliasDeclaration name _ _ =>
    HoldsSite origin base (some name) (node.fieldSite? "name")
  | callExpression callee arguments =>
    HoldsSite origin base (some callee) (node.fieldSite? "function") ∧
      HoldsSites origin base arguments node.argumentSites
  | newExpression callee _ arguments =>
    HoldsSite origin base (some callee) (node.fieldSite? "constructor") ∧
      HoldsSites origin base arguments (node.partSitesIn "arguments")
  | memberExpression object property =>
    HoldsSite origin base (some object) (node.fieldSite? "object") ∧
      HoldsSite origin base (some property) (node.fieldSite? "property")
  | indexExpression object index =>
    HoldsSite origin base (some object) (node.fieldSite? "object") ∧
      HoldsSite origin base (some index) (node.fieldSite? "index")
  | assignmentExpression left right =>
    HoldsSite origin base (some left) (node.fieldSite? "left") ∧
      HoldsSite origin base (some right) (node.fieldSite? "right")
  | typeAssertion expression _ =>
    HoldsSite origin base (some expression) node.operandSites.getLast?
  | parenthesizedExpression expression =>
    HoldsSite origin base (some expression)
      (if ["as_expression", "type_assertion"].contains node.kind then node.operandSites.getLast?
        else node.partSites.head?)
  | identifier _ | thisExpression | literal _ => True
  | other _ children =>
    HoldsSites origin base children
      (if ["as_expression", "type_assertion"].contains node.kind then []
        else node.otherSites.filterMap id)

section

variable {origin : NodeId → Address} {base : Address}

theorem FillsSites.filterMap_id {ids : List (Option NodeId)} {sites : List (Option Address)}
    (h : FillsSites origin base ids sites) :
    HoldsSites origin base (ids.filterMap id) (sites.filterMap id) := by
  induction h with
  | nil => rfl
  | @cons place site ids sites hslot hrest ih =>
    cases place <;> cases site <;> simp_all [HoldsSite, HoldsSites]

theorem FillsSites.all {ids : List (Option NodeId)} {sites : List Address}
    (h : FillsSites origin base ids (sites.map some)) :
    HoldsSites origin base (ids.filterMap id) sites := by
  simpa [List.filterMap_map] using h.filterMap_id

theorem FillsSites.map_isSome {ids : List (Option NodeId)} {sites : List (Option Address)}
    (h : FillsSites origin base ids sites) : ids.map (·.isSome) = sites.map (·.isSome) := by
  induction h with
  | nil => rfl
  | @cons place site ids sites hslot hrest ih =>
    cases place <;> cases site <;> simp_all [HoldsSite]

theorem FillsSites.firstSlot {ids : List (Option NodeId)} {site : Option Address}
    {sites : List (Option Address)} (h : FillsSites origin base ids (site :: sites)) :
    HoldsSite origin base (firstSlot ids) site := by
  cases h with
  | cons hslot hrest => simpa [StreamLint.firstSlot] using hslot

/-- The one slot of a construct around its first part. -/
theorem HoldsSites.head {place : NodeId} {sites : List Address}
    (h : HoldsSites origin base [place] (sites.take 1)) :
    HoldsSite origin base (some place) sites.head? := by
  cases sites with
  | nil => simp [HoldsSites] at h
  | cons site sites => simpa [HoldsSites, HoldsSite] using h

theorem FillsSites.first {ids : List (Option NodeId)} {sites : List Address}
    (h : FillsSites origin base ids ((sites.take 1).map some)) :
    HoldsSite origin base (StreamLint.firstSlot ids) sites.head? := by
  cases sites with
  | nil =>
    cases h
    rfl
  | cons site sites => exact FillsSites.firstSlot (by simpa using h)

/-- The last slot of a type assertion. -/
theorem HoldsSites.getLast? {children : List NodeId} {sites : List Address}
    (h : HoldsSites origin base children sites) :
    HoldsSite origin base children.getLast? sites.getLast? := by
  simpa [HoldsSite, List.getLast?_map] using congrArg List.getLast? h

/-- Some slots for a list of sites, and one slot after them. -/
theorem FillsSites.take_drop {ids : List (Option NodeId)} {sites : List Address}
    {last : Option Address} {count : Nat}
    (h : FillsSites origin base ids (sites.map some ++ [last]))
    (hlength : ids.length = count + 1) :
    HoldsSites origin base ((ids.take count).filterMap id) sites ∧
      HoldsSite origin base (StreamLint.firstSlot (ids.drop count)) last := by
  have hcount : count = (sites.map some).length := by
    have := h.length_eq
    simp_all
  have hfront := List.forall₂_take count h
  have hback := List.forall₂_drop count h
  rw [hcount, List.take_left] at hfront
  rw [hcount, List.drop_left] at hback
  rw [hcount]
  exact ⟨FillsSites.all hfront, FillsSites.firstSlot hback⟩

end

/-- **A construct reads its node**: if its slots are filled from the sites of its shape, its
children come from the parts that it is to have. -/
theorem Shape.reads_assemble {origin : NodeId → Address} {base : Address} {node : Node}
    {shape : Shape} {ids : List (Option NodeId)} (label : String)
    (h : FillsSites origin base ids (shape.sites node)) (hsuits : shape.Suits (ids.map (·.isSome)))
    (hkind : shape = .program ∨
      Plan.isAssertion shape = ["as_expression", "type_assertion"].contains node.kind) :
    (shape.assemble label ids).Reads origin base node := by
  cases shape with
  | program | block | declarations | array | object => exact FillsSites.all h
  | returnStatement => exact FillsSites.first h
  | expressionStatement | nonNull | await | spread =>
    obtain ⟨place, rfl⟩ := map_isSome_eq_singleton hsuits
    exact HoldsSites.head (FillsSites.all h)
  | parenthesized =>
    obtain ⟨place, rfl⟩ := map_isSome_eq_singleton hsuits
    have hread := HoldsSites.head (FillsSites.all h)
    have hangle : ["as_expression", "type_assertion"].contains node.kind = false :=
      (hkind.resolve_left (by simp)).symm
    simpa only [assemble, Construct.Reads, hangle, Bool.false_eq_true, if_false] using hread
  | declarator | property | parameter =>
    obtain ⟨filled, hfilled, hlength⟩ := hsuits
    obtain ⟨place, rest, rfl, rfl⟩ := map_isSome_eq_cons hfilled
    cases h with
    | cons hname hrest => exact ⟨hname, FillsSites.firstSlot hrest⟩
  | function typeParameters params returnType =>
    have hlength : ids.length = params + 2 := by simpa [Suits] using hsuits
    cases h with
    | cons hname hrest =>
      have hparams := FillsSites.take_drop hrest (show _ = params + 1 by simpa using hlength)
      exact ⟨hname, hparams⟩
  | functionExpression params returnType =>
    exact FillsSites.take_drop h (by simpa [Suits] using hsuits)
  | classDeclaration =>
    cases h with
    | cons hname hrest => exact ⟨hname, FillsSites.all hrest⟩
  | method params returnType =>
    obtain ⟨filled, hfilled, hlength⟩ := hsuits
    obtain ⟨place, rest, rfl, rfl⟩ := map_isSome_eq_cons hfilled
    cases h with
    | cons hname hrest => exact ⟨hname, FillsSites.take_drop hrest (by simpa using hlength)⟩
  | interfaceDeclaration | call | newExpression =>
    obtain ⟨filled, hfilled⟩ := hsuits
    obtain ⟨place, rest, rfl, rfl⟩ := map_isSome_eq_cons hfilled
    cases h with
    | cons hname hrest => exact ⟨hname, FillsSites.all hrest⟩
  | typeAlias =>
    obtain ⟨place, rfl⟩ := map_isSome_eq_singleton hsuits
    cases h with
    | cons hname hrest => exact hname
  | member | index | assignment =>
    obtain ⟨first, rest, rfl, hrest⟩ := map_isSome_eq_cons hsuits
    obtain ⟨second, rfl⟩ := map_isSome_eq_singleton hrest
    cases h with
    | cons hfirst hrest =>
      cases hrest with
      | cons hsecond => exact ⟨hfirst, hsecond⟩
  | assertion declared =>
    have hlast := (FillsSites.all h).getLast?
    have hangle : ["as_expression", "type_assertion"].contains node.kind = true :=
      (hkind.resolve_left (by simp)).symm
    simp only [assemble]
    cases hpresent : (ids.filterMap id).getLast? with
    | none => simp only [Construct.Reads, hangle, if_true, HoldsSites, List.map_nil]
    | some place =>
      rw [hpresent] at hlast
      cases declared with
      | none => simpa only [Construct.Reads, hangle, if_true] using hlast
      | some type => exact hlast
  | other =>
    have hangle : ["as_expression", "type_assertion"].contains node.kind = false :=
      (hkind.resolve_left (by simp)).symm
    simpa only [assemble, Construct.Reads, hangle, Bool.false_eq_true, if_false, sites] using
      h.filterMap_id
  | identifier | this | literal => exact trivial

/-! ### Places and addresses -/

namespace Concrete.Document

variable (document : Document)

/-- The address of the node that the node at a place comes from. -/
def originOf (place : NodeId) : Address :=
  (document.origins[place]?.map (·.address)).getD []

/-- What a part of the outline of a document is made from, with the origin of its root and those of
the nodes after it. -/
inductive Stems : Outline → Origin → List Origin → Prop where
  /-- A node that has a plan. -/
  | node {base : Address} {node : Node} {plan : Plan} (h : document.HasPlan base node plan) :
    Stems
      (.mk node.kind node.span plan.shape (plan.slots.map (Outline.ofSlot? document.text)))
      ⟨base, false⟩
      (Outline.slotsOrigins document.text base plan.slots (plan.shape.sites node))
  /-- A parameter made up around a name. -/
  | bareParameter {base : Address} {name : Node} (h : document.root.at? base = some name) :
    Stems (Outline.bareParameter document.text name) ⟨base, true⟩
      (Outline.originsOf document.text base name)

variable {document}

theorem Stems.ofNode {base : Address} {node : Node} (h : document.root.at? base = some node) :
    ∃ rest, document.Stems (Outline.ofNode document.text node) ⟨base, false⟩ rest ∧
      Outline.originsOf document.text base node = ⟨base, false⟩ :: rest := by
  rw [Outline.ofNode_eq, Outline.originsOf_eq]
  exact ⟨_, .node (.inner h), rfl⟩

/-- How the origin of a part leads to that of what is in one of its slots. -/
inductive Leads (document : Document) : Origin → Origin → Prop where
  /-- A node in a slot of another one. -/
  | below {base site : Address} (h : site ≠ []) : Leads document ⟨base, false⟩ ⟨base ++ site, false⟩
  /-- The parameter made up for an arrow function without parentheses. -/
  | bareParameter {base site : Address} {node : Node} (h : site ≠ [])
    (hat : document.root.at? base = some node) (hlist : node.field? "parameters" = none)
    (hsite : node.fieldSite? "parameter" = some site) :
    Leads document ⟨base, false⟩ ⟨base ++ site, true⟩
  /-- The name in the parameter made up around it. -/
  | name {base : Address} : Leads document ⟨base, true⟩ ⟨base, false⟩

end Concrete.Document

section

variable {look : Nat → Option Origin} {source : String} {base : Address} {node : Node}
  {slots : List Slot} {sites : List (Option Address)} {next : Nat}

/-- The origins of what is in a slot stand together, from its place on. -/
theorem exists_slotOrigins (h : SitsAt node slots sites)
    (hholds : HoldsFrom look next (Outline.slotsOrigins source base slots sites)) {place : Nat}
    {inner : Outline} (hslot : (some place, some inner) ∈ (Outline.slotPlaces next
      (slots.map (Outline.ofSlot? source))).zip (slots.map (Outline.ofSlot? source))) :
    ∃ slot site, slot.IsAt node site ∧ site ∈ sites ∧ Outline.ofSlot? source slot = some inner ∧
      HoldsFrom look place (Outline.slotOrigins source base slot site) := by
  induction h generalizing next with
  | nil => simp at hslot
  | @cons slot site slots sites hsits hrest ih =>
    rw [Outline.slotsOrigins_cons] at hholds
    simp only [List.map_cons, Outline.slotPlaces_cons, List.zip_cons_cons, List.mem_cons,
      Prod.mk.injEq] at hslot
    rcases hslot with ⟨hplace, hinner⟩ | hslot
    · obtain ⟨_, _, rfl⟩ := Option.map_eq_some_iff.mp hplace.symm
      exact ⟨slot, site, hsits, List.mem_cons_self, hinner.symm, hholds.left⟩
    · have hright := hholds.right
      rw [Outline.length_slotOrigins hsits] at hright
      obtain ⟨other, at_, hat, hmem, hother⟩ := ih hright hslot
      exact ⟨other, at_, hat, List.mem_cons_of_mem _ hmem, hother⟩

/-- **The places in the slots of a node come from the sites.** -/
theorem fillsSites (h : SitsAt node slots sites)
    (hholds : HoldsFrom look next (Outline.slotsOrigins source base slots sites))
    {origin : NodeId → Address} (horigin : ∀ place item, look place = some item →
      origin place = item.address) :
    FillsSites origin base (Outline.slotPlaces next (slots.map (Outline.ofSlot? source)))
      sites := by
  induction h generalizing next with
  | nil => exact .nil
  | cons hsits hrest ih =>
    rw [Outline.slotsOrigins_cons] at hholds
    have hright := hholds.right
    rw [Outline.length_slotOrigins hsits] at hright
    rw [List.map_cons, Outline.slotPlaces_cons]
    refine .cons ?_ (ih hright)
    cases hsits with
    | absent => rfl
    | filled h =>
      have hfirst := hholds.left
      rw [Outline.slotOrigins, Outline.originsOf_eq] at hfirst
      exact congrArg some (horigin _ _ hfirst.head)
    | bareParameter h => exact congrArg some (horigin _ _ hholds.left.head)

end

namespace Concrete.Document

variable {document : Document}

/-- **One step from a part to what is in one of its slots**, with the origins of both. -/
theorem Stems.step {look : Nat → Option Origin} {outer inner : Outline} {origin : Origin}
    {rest : List Origin} {place next : Nat} (h : document.Stems outer origin rest)
    (hholds : HoldsFrom look place (origin :: rest))
    (hslot : (some next, some inner) ∈
      (Outline.slotPlaces (place + 1) outer.slots).zip outer.slots) :
    ∃ later more, document.Stems inner later more ∧ HoldsFrom look next (later :: more) ∧
      document.Leads origin later := by
  cases h with
  | @node base node plan hplan =>
    obtain ⟨slot, site, hsits, hsite, hinner, hfrom⟩ :=
      exists_slotOrigins hplan.sits hholds.tail hslot
    have hne : ∀ site, some site ∈ plan.shape.sites node → site ≠ [] := fun _ hmem =>
      Outline.ne_nil_of_mem_sites hplan.sits hplan.inward hmem
    cases hsits with
    | absent => simp [Outline.ofSlot?] at hinner
    | @filled child site h =>
      obtain rfl := Option.some.inj hinner
      have hat : document.root.at? (base ++ site) = some child := by
        simp [Node.at?_append, hplan.at?_eq, h]
      obtain ⟨more, hstems, heq⟩ := Stems.ofNode hat
      rw [Outline.slotOrigins, heq] at hfrom
      exact ⟨_, more, hstems, hfrom, .below (hne site hsite)⟩
    | @bareParameter name site h hlist hfield =>
      obtain rfl := Option.some.inj hinner
      exact ⟨_, _, .bareParameter (by simp [Node.at?_append, hplan.at?_eq, h]), hfrom,
        .bareParameter (hne site hsite) hplan.at?_eq hlist hfield⟩
  | @bareParameter base name hat =>
    obtain ⟨more, hstems, heq⟩ := Stems.ofNode hat
    rw [heq] at hholds
    have hnext : next = place + 1 ∧ inner = Outline.ofNode document.text name := by
      simpa [Outline.bareParameter, Outline.slots, Outline.slotPlaces] using hslot
    obtain ⟨rfl, rfl⟩ := hnext
    exact ⟨_, more, hstems, hholds.tail, .name⟩

/-- What is known about the part at a place: what it is made from, and where its nodes and their
origins stand. -/
structure Founds (document : Document) (place : Nat) (part : Outline) (origin : Origin)
    (rest : List Origin) (above : Option NodeId) : Prop where
  /-- What the part is made from. -/
  stems : document.Stems part origin rest
  /-- The origins stand together. -/
  origins : HoldsFrom (document.origins[·]?) place (origin :: rest)
  /-- The nodes stand together. -/
  nodes : HoldsFrom (SyntaxTree.ofDocument document).node? place (part.entries above place)
  /-- The origin of the node above leads to that of the part. -/
  leads : ∀ parent, above = some parent →
    ∃ outer, document.origins[parent]? = some outer ∧ document.Leads outer origin

end Concrete.Document

/-- **Every part of a document's outline** is made from a node of the document. -/
theorem Outline.IsAt.exists_founds {document : Document} {place : Nat} {part : Outline}
    (h : (ofDocument document).IsAt place part) :
    ∃ origin rest above, document.Founds place part origin rest above := by
  induction h with
  | self =>
    obtain ⟨rest, hroot, heq⟩ : ∃ rest, document.Stems (ofDocument document) ⟨[], false⟩ rest ∧
        document.origins = ⟨[], false⟩ :: rest := by
      refine ⟨_, ?_, rfl⟩
      have hstems : document.Stems _ _ _ := .node .root
      simpa [ofDocument, Slot.ofAll, ofSlot?, Shape.sites, Function.comp_def] using hstems
    exact ⟨_, rest, none, hroot, fun count item hitem => by simpa [heq] using hitem,
      SyntaxTree.holdsFrom_ofDocument document, by simp⟩
  | @slot place next outer inner h hslot ih =>
    obtain ⟨origin, rest, above, hstems, horigins, hnodes, -⟩ := ih
    obtain ⟨later, more, hlater, hfrom, hleads⟩ := hstems.step horigins hslot
    refine ⟨later, more, some place, hlater, hfrom, ?_, ?_⟩
    · cases outer
      exact holdsFrom_of_slot hnodes.tail hslot
    · rintro parent ⟨⟩
      exact ⟨origin, horigins.head, hleads⟩

/-! ### Faithful trees -/

/-- The node at a place is a parameter that has been made up for an arrow function without
parentheses: it has no type and no default value, and it comes from the node in the function's place
`parameter`, like the node at the place `name`, its only child. -/
def Concrete.Document.IsMadeUp (document : Document) (place name : NodeId) : Prop :=
  (SyntaxTree.ofDocument document).construct? place = some (.parameter name none none false) ∧
    document.originOf name = document.originOf place ∧
    ∃ function node site, (SyntaxTree.ofDocument document).parent? place = some function ∧
      document.root.at? (document.originOf function) = some node ∧
      node.field? "parameters" = none ∧ node.fieldSite? "parameter" = some site ∧
      document.originOf place = document.originOf function ++ site

/-- The syntax tree of a document is faithful to its concrete tree. -/
structure Concrete.Document.IsFaithful (document : Document) : Prop where
  /-- Every node covers the text of the node that it comes from, and identifiers hold it. -/
  located : ∀ place < (SyntaxTree.ofDocument document).size,
    ∃ node, document.root.at? (document.originOf place) = some node ∧
      (SyntaxTree.ofDocument document).span? place = some node.span ∧
      ∀ name, (SyntaxTree.ofDocument document).nameAt? place = some name →
        name = node.text document.text
  /-- Different nodes come from different nodes. -/
  injective : ∀ first second, first < second → second < (SyntaxTree.ofDocument document).size →
    document.originOf first = document.originOf second → document.IsMadeUp first second
  /-- A node comes from one below that of its parent. -/
  below : ∀ parent place, (SyntaxTree.ofDocument document).parent? place = some parent →
    (document.originOf parent <+: document.originOf place ∧
      document.originOf parent ≠ document.originOf place) ∨ document.IsMadeUp parent place
  /-- If fields come in the order of the grammar, nodes come in the order of the text. -/
  ascending : document.InGrammarOrder → ∀ first second, first < second →
    second < (SyntaxTree.ofDocument document).size →
    document.originOf first < document.originOf second ∨ document.IsMadeUp first second
  /-- The children of a node come from the parts that its construct is to have. -/
  reads : ∀ place construct, (SyntaxTree.ofDocument document).construct? place = some construct →
    (∃ node, document.root.at? (document.originOf place) = some node ∧
      construct.Reads document.originOf (document.originOf place) node) ∨
    ∃ name, document.IsMadeUp place name

theorem SitsAt.map_isFilled {node : Node} {slots : List Slot} {sites : List (Option Address)}
    (h : SitsAt node slots sites) : slots.map (·.isFilled) = sites.map (·.isSome) := by
  induction h with
  | nil => rfl
  | cons hsits hrest ih =>
    rw [List.map_cons, List.map_cons, ih]
    cases hsits <;> rfl

namespace Concrete.Document

variable {document : Document}

theorem HasPlan.reads {base : Address} {node : Node} {plan : Plan} {origin : NodeId → Address}
    {ids : List (Option NodeId)} (h : document.HasPlan base node plan)
    (hids : FillsSites origin base ids (plan.shape.sites node)) (label : String) :
    (plan.shape.assemble label ids).Reads origin base node := by
  cases h with
  | root => exact Shape.reads_assemble label hids trivial (.inl rfl)
  | inner h =>
    refine Shape.reads_assemble label hids ?_
      (.inr (Plan.fits_ofNode document.text node).isAssertion_eq)
    rw [hids.map_isSome, ← SitsAt.map_isFilled (Plan.sits_ofNode document.text node)]
    exact Plan.suits_ofNode document.text node

/-- What is founded at a place, for every place. -/
theorem exists_founds {place : Nat} (h : place < (SyntaxTree.ofDocument document).size) :
    ∃ part origin rest above, document.Founds place part origin rest above := by
  rw [SyntaxTree.size_ofDocument] at h
  obtain ⟨part, hat⟩ := Outline.exists_isAt h
  exact ⟨part, hat.exists_founds⟩

section

variable {part : Outline} {origin : Origin} {rest : List Origin} {above : Option NodeId}
  {place : Nat}

theorem originOf_eq (h : document.origins[place]? = some origin) :
    document.originOf place = origin.address := by
  simp [originOf, h]

theorem Founds.originOf_eq (h : document.Founds place part origin rest above) :
    document.originOf place = origin.address :=
  Document.originOf_eq h.origins.head

theorem Founds.parent?_eq (h : document.Founds place part origin rest above) :
    (SyntaxTree.ofDocument document).parent? place = above := by
  obtain ⟨label, span, shape, slots⟩ := part
  have hnode : (SyntaxTree.ofDocument document).nodes[place]? = some _ := h.nodes.head
  simp [SyntaxTree.parent?, hnode]

/-- The node at a place covers the text of the node that it comes from. -/
theorem Founds.located (h : document.Founds place part origin rest above) :
    ∃ node, document.root.at? origin.address = some node ∧
      (SyntaxTree.ofDocument document).span? place = some node.span ∧
      ∀ name, (SyntaxTree.ofDocument document).nameAt? place = some name →
        name = node.text document.text := by
  obtain ⟨hstems, -, hnodes, -⟩ := h
  cases hstems with
  | @node base node plan hplan =>
    have hnode : (SyntaxTree.ofDocument document).nodes[place]? = some _ := hnodes.head
    refine ⟨node, hplan.at?_eq, by simp [SyntaxTree.span?, hnode], fun name hname => ?_⟩
    have hshape := Shape.name?_of_assemble (show plan.shape.assemble node.kind
      (Outline.slotPlaces (place + 1) (plan.slots.map (Outline.ofSlot? document.text))) =
        .identifier name by
      simpa [SyntaxTree.construct?, hnode] using SyntaxTree.construct?_of_nameAt? hname)
    cases hplan with
    | root => cases hshape
    | inner h =>
      rw [(Plan.fits_ofNode document.text node).name?_eq] at hshape
      split at hshape
      · exact (Option.some.inj hshape).symm
      · cases hshape
  | @bareParameter base name hat =>
    have hnode : (SyntaxTree.ofDocument document).nodes[place]? = some _ := hnodes.head
    refine ⟨name, hat, by simp [SyntaxTree.span?, hnode], fun other hother => ?_⟩
    simp [SyntaxTree.nameAt?, SyntaxTree.construct?, hnode, Shape.assemble,
      Outline.slotPlaces] at hother

/-- The node that is made up around a name comes right before it. -/
theorem Founds.isMadeUp (h : document.Founds place part origin rest above)
    (hbare : origin.isBare = true) : document.IsMadeUp place (place + 1) := by
  have hparent := h.parent?_eq
  have hself := h.originOf_eq
  obtain ⟨hstems, horigins, hnodes, hleads⟩ := h
  cases hstems with
  | node hplan => cases hbare
  | @bareParameter base name hat =>
    have hnode : (SyntaxTree.ofDocument document).nodes[place]? = some _ := hnodes.head
    rw [Outline.originsOf_eq] at horigins
    have hname := Document.originOf_eq horigins.tail.head
    -- the root comes from the root of the concrete tree, so this is not the root
    have hroot : place ≠ SyntaxTree.root := by
      rintro rfl
      cases horigins.head
    obtain ⟨function, hfunction⟩ := (SyntaxTree.linked_ofDocument document).exists_parent place
      hroot (Array.getElem?_eq_some_iff.mp hnode).1
    obtain rfl := hparent.symm.trans hfunction
    obtain ⟨outer, houter, hlead⟩ := hleads function rfl
    have hfunction := Document.originOf_eq houter
    generalize hlater : (⟨base, true⟩ : Origin) = later at hlead
    cases hlead with
    | below => cases hlater
    | name => cases hlater
    | @bareParameter above site node hne hnodeAt hlist hsite =>
      obtain ⟨rfl, -⟩ := Origin.mk.inj hlater
      refine ⟨?_, hname.trans hself.symm, function, node, site, hparent, ?_, hlist, hsite, ?_⟩
      · simp [SyntaxTree.construct?, hnode, Shape.assemble, Outline.slotPlaces, firstSlot]
      · rw [hfunction, hnodeAt]
      · rw [hself, hfunction]

/-- The children of the construct at a place come from the parts that it is to have. -/
theorem Founds.reads (h : document.Founds place part origin rest above) {construct : Construct}
    (hconstruct : (SyntaxTree.ofDocument document).construct? place = some construct)
    (hbare : origin.isBare = false) :
    ∃ node, document.root.at? origin.address = some node ∧
      construct.Reads document.originOf origin.address node := by
  obtain ⟨hstems, horigins, hnodes, -⟩ := h
  cases hstems with
  | bareParameter => cases hbare
  | @node base node plan hplan =>
    have hnode : (SyntaxTree.ofDocument document).nodes[place]? = some _ := hnodes.head
    have heq : plan.shape.assemble node.kind (Outline.slotPlaces (place + 1)
        (plan.slots.map (Outline.ofSlot? document.text))) = construct := by
      simpa [SyntaxTree.construct?, hnode] using hconstruct
    have hfills := fillsSites hplan.sits horigins.tail
      (fun place item hitem => Document.originOf_eq hitem)
    exact ⟨node, hplan.at?_eq, heq ▸ hplan.reads hfills node.kind⟩

end

/-- What comes before something else is not the same origin. -/
theorem not_before_self (origin : Origin) : ¬origin.Before (· ≠ ·) origin := by
  rintro (hparts | ⟨-, hsame⟩)
  · exact hparts.ne rfl
  · obtain ⟨htrue, hfalse⟩ := hsame rfl
    simp [htrue] at hfalse

theorem pairwise_origins_ne : document.origins.Pairwise (Origin.Before (· ≠ ·)) :=
  pairwise_origins (fun _ _ hlt => Nat.ne_of_lt hlt) fun _ _ _ =>
    (Shape.nodup_fields _ _).imp fun hne => Node.follows_ne hne

theorem before_of_lt {r : Nat → Nat → Prop} (h : document.origins.Pairwise (Origin.Before r))
    {first second : Nat} {origin later : Origin} (hfirst : document.origins[first]? = some origin)
    (hsecond : document.origins[second]? = some later) (hlt : first < second) :
    origin.Before r later := by
  obtain ⟨hfirstLt, rfl⟩ := List.getElem?_eq_some_iff.mp hfirst
  obtain ⟨hsecondLt, rfl⟩ := List.getElem?_eq_some_iff.mp hsecond
  exact List.pairwise_iff_getElem.mp h first second hfirstLt hsecondLt hlt

/-- Different places have different origins. -/
theorem eq_of_origins {first second : Nat} {origin : Origin}
    (hfirst : document.origins[first]? = some origin)
    (hsecond : document.origins[second]? = some origin) : first = second := by
  rcases Nat.lt_trichotomy first second with hlt | heq | hgt
  · exact absurd (before_of_lt pairwise_origins_ne hfirst hsecond hlt) (not_before_self origin)
  · exact heq
  · exact absurd (before_of_lt pairwise_origins_ne hsecond hfirst hgt) (not_before_self origin)

/-- What comes from the same node as a parameter that is made up is the name in it. -/
theorem Founds.isMadeUp_of_origins {part : Outline} {origin : Origin} {rest : List Origin}
    {above : Option NodeId} {place name : Nat}
    (h : document.Founds place part origin rest above) (hbare : origin.isBare = true)
    (hname : document.origins[name]? = some ⟨origin.address, false⟩) :
    document.IsMadeUp place name := by
  have hmade := h.isMadeUp hbare
  obtain ⟨hstems, horigins, -, -⟩ := h
  cases hstems with
  | node hplan => cases hbare
  | bareParameter hat =>
    rw [Outline.originsOf_eq] at horigins
    rwa [eq_of_origins hname horigins.tail.head]

/-- Nodes that come from the same node are a parameter that is made up and the name in it. -/
theorem isMadeUp_of_originOf_eq {first second : Nat} (hlt : first < second)
    (hsize : second < (SyntaxTree.ofDocument document).size)
    (heq : document.originOf first = document.originOf second) :
    document.IsMadeUp first second := by
  obtain ⟨_, origin, _, _, hfirst⟩ := exists_founds (Nat.lt_trans hlt hsize)
  obtain ⟨_, later, _, _, hsecond⟩ := exists_founds hsize
  rw [hfirst.originOf_eq, hsecond.originOf_eq] at heq
  rcases before_of_lt pairwise_origins_ne hfirst.origins.head hsecond.origins.head hlt with
    hparts | ⟨-, hsame⟩
  · exact absurd heq hparts.ne
  · obtain ⟨hbare, hname⟩ := hsame heq
    refine hfirst.isMadeUp_of_origins hbare ?_
    rw [hsecond.origins.head, heq, ← hname]

/-- **Syntax trees are faithful**: the syntax tree of a document has the nodes of its concrete tree,
each of them at most once, in their order and with the children that the grammar gives them. -/
theorem isFaithful (document : Document) : document.IsFaithful where
  located place hlt := by
    obtain ⟨part, origin, rest, above, hfounds⟩ := exists_founds hlt
    rw [hfounds.originOf_eq]
    exact hfounds.located
  injective first second hlt hsize heq := isMadeUp_of_originOf_eq hlt hsize heq
  below parent place hparent := by
    have hlinked := SyntaxTree.linked_ofDocument document
    have hsize := SyntaxTree.lt_size_of_parent?_eq_some hparent
    obtain ⟨_, origin, _, above, hfounds⟩ := exists_founds hsize
    obtain ⟨outer, houter, hlead⟩ := hfounds.leads parent
      (hfounds.parent?_eq.symm.trans hparent)
    rw [hfounds.originOf_eq, originOf_eq houter]
    have hself := hfounds.origins.head
    cases hlead with
    | below hne => exact .inl ⟨List.prefix_append _ _, by simpa using hne⟩
    | bareParameter hne => exact .inl ⟨List.prefix_append _ _, by simpa using hne⟩
    | @name base =>
      obtain ⟨_, other, _, _, hparentFounds⟩ :=
        exists_founds (Nat.lt_trans (hlinked.parent_lt place parent hparent) hsize)
      obtain rfl := Option.some.inj (houter.symm.trans hparentFounds.origins.head)
      exact .inr (hparentFounds.isMadeUp_of_origins rfl hself)
  ascending hordered first second hlt hsize := by
    obtain ⟨_, origin, _, _, hfirst⟩ := exists_founds (Nat.lt_trans hlt hsize)
    obtain ⟨_, later, _, _, hsecond⟩ := exists_founds hsize
    have hpairwise : document.origins.Pairwise (Origin.Before (· < ·)) :=
      pairwise_origins (fun _ _ hlt => hlt) hordered
    by_cases heq : document.originOf first = document.originOf second
    · exact .inr (isMadeUp_of_originOf_eq hlt hsize heq)
    rw [hfirst.originOf_eq, hsecond.originOf_eq] at heq ⊢
    rcases before_of_lt hpairwise hfirst.origins.head hsecond.origins.head hlt with
      hparts | ⟨habove, -⟩
    · exact .inl hparts.lt
    · exact .inl (Address.lt_of_above habove heq)
  reads place construct hconstruct := by
    have hlt : place < (SyntaxTree.ofDocument document).size := by
      obtain ⟨node, hnode, -⟩ := Option.map_eq_some_iff.mp hconstruct
      exact (Array.getElem?_eq_some_iff.mp hnode).1
    obtain ⟨part, origin, rest, above, hfounds⟩ := exists_founds hlt
    cases hbare : origin.isBare with
    | false =>
      rw [hfounds.originOf_eq]
      exact .inl (hfounds.reads hconstruct hbare)
    | true => exact .inr ⟨place + 1, hfounds.isMadeUp hbare⟩

end Concrete.Document

end StreamLint
