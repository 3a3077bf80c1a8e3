import StreamLint.Proofs.Syntax.Comments
import StreamLint.Proofs.Syntax.Faithful
import StreamLint.Proofs.Syntax.Grammar
/-!
# The members of interfaces and object types

The body of an interface and an object type are written alike, and lowered differently. The members
of an interface become nodes, each with a node for its name, and what they declare is found out when
the interface is declared. Those of an object type become members of a written type at once.

What both come to depends on what a member is called, `StreamLint.Concrete.Node.signature`. There is
one condition: an interface and an object type have signatures only, no methods that are defined or
abstract, and the name of a member is plain (`StreamLint.Concrete.Node.IsPlainMember`). For a name
in quotes makes a property of an object type, but none of an interface.

* `StreamLint.Concrete.Document.Lowers` – the place that a node is lowered to;
* `StreamLint.Concrete.Document.Lowers.exists_interface` – the members of an interface, one by one;
* `StreamLint.Concrete.Document.Lowers.isMethod_iff` – what becomes a method of an interface;
* `StreamLint.TypeExpr.ofMember_eq_method_iff` – what becomes a method of an object type.
-/

namespace StreamLint

open Concrete (Node Document Address)

/-! ### Members -/

namespace Concrete.Node

/-- **What a member is called**: the grammar's name for it, and the text of its name if it has
one. -/
def signature (source : String) (member : Node) : String × Option String :=
  (member.kind, (member.field? "name").map (·.text source))

/-- The signature of a method. -/
def methodSignature (name : String) : String × Option String :=
  ("method_signature", some name)

/-- A member as it stands in an interface or an object type. -/
structure IsPlainMember (member : Node) : Prop where
  /-- Methods are neither defined nor abstract. -/
  isSignature : member.kind ∉ ["method_definition", "abstract_method_signature"]
  /-- A name is neither quoted nor computed. -/
  isPlain : ∀ name ∈ member.field? "name", name.kind = "property_identifier"

/-- The node declares an interface that extends nothing, with these members. -/
structure IsInterface (node : Node) (members : List Node) : Prop where
  /-- What the grammar calls the node. -/
  kind : node.kind = "interface_declaration"
  /-- There is a name. -/
  name : (node.field? "name").isSome = true
  /-- There is no clause with `extends`. -/
  bases : ∀ part ∈ node.namedParts, part.kind ≠ "extends_type_clause"
  /-- The members stand in the body. -/
  body : ∃ body, node.field? "body" = some body ∧ body.namedParts = members

/-- The node declares an alias of an object type with these members. -/
structure IsObjectAlias (node : Node) (members : List Node) : Prop where
  /-- What the grammar calls the node. -/
  kind : node.kind = "type_alias_declaration"
  /-- There is a name. -/
  name : (node.field? "name").isSome = true
  /-- The members stand in the object type. -/
  value : ∃ value, node.field? "value" = some value ∧ value.kind = "object_type" ∧
    value.namedParts = members

variable {member : Node} {source : String}

theorem signature_eq_iff {text : String} : member.signature source = methodSignature text ↔
    member.kind = "method_signature" ∧
      ∃ name, member.field? "name" = some name ∧ name.text source = text := by
  simp [signature, methodSignature]

end Concrete.Node

/-! ### Members of object types -/

namespace TypeExpr

/-- **A method of an object type** is a member with the signature of a method. -/
theorem ofMember_eq_method_iff {source : String} {member : Node} {text : String} :
    (∃ type, ofMember source member = some ⟨text, .method, type⟩) ↔
      member.signature source = Node.methodSignature text := by
  rw [Node.signature_eq_iff, ofMember_eq]
  cases member.field? "name" with
  | none => simp
  | some name =>
    by_cases hproperty : member.kind = "property_signature"
    · simp [hproperty]
    · by_cases hmethod : member.kind = "method_signature" <;> simp [hmethod]

/-- An object type, from its parts. -/
theorem ofConcrete_object {source : String} {node : Node} (hkind : node.kind = "object_type") :
    ofConcrete source node = .object (node.namedParts.filterMap (ofMember source)) := by
  rw [ofConcrete]
  simp only [hkind]
  rw [← filterMap_attach_ofMember]

end TypeExpr

/-! ### Nodes and their places -/

/-- The parts in slots that are all filled have places one by one. -/
theorem Outline.forall₂_isAt {whole : Outline} {next : Nat} {parts : List Outline}
    (h : ∀ place inner, (some place, some inner) ∈
      (slotPlaces next (parts.map some)).zip (parts.map some) → whole.IsAt place inner) :
    List.Forall₂ whole.IsAt ((slotPlaces next (parts.map some)).filterMap id) parts := by
  induction parts generalizing next with
  | nil => exact .nil
  | cons part rest ih =>
    refine .cons (h next part (by simp [slotPlaces])) (ih fun place inner hmem => ?_)
    exact h place inner (List.mem_cons_of_mem _ hmem)

namespace Concrete.Document

variable {document : Document}

/-- **The node is lowered to the place.** -/
def Lowers (document : Document) (place : NodeId) (node : Node) : Prop :=
  (Outline.ofDocument document).IsAt place (Outline.ofNode document.text node)

/-- **The node that a place comes from is lowered to it**, unless there is the root or a
parameter. -/
theorem lowers_of_originOf {place : NodeId} {node : Node} {construct : Construct}
    (hconstruct : (SyntaxTree.ofDocument document).construct? place = some construct)
    (hprogram : construct.kind ≠ .program) (hparameter : construct.kind ≠ .parameter)
    (hat : document.root.at? (document.originOf place) = some node) :
    document.Lowers place node := by
  have hlt : place < (SyntaxTree.ofDocument document).size := by
    obtain ⟨_, hnode, -⟩ := Option.map_eq_some_iff.mp hconstruct
    exact (Array.getElem?_eq_some_iff.mp hnode).1
  rw [SyntaxTree.size_ofDocument] at hlt
  obtain ⟨part, hpart⟩ := Outline.exists_isAt hlt
  obtain ⟨origin, rest, above, hfounds⟩ := hpart.exists_founds
  rw [hfounds.originOf_eq] at hat
  obtain ⟨hstems, -, hnodes, -⟩ := hfounds
  cases hstems with
  | @node base other plan hplan =>
    obtain rfl : other = node := Option.some.inj (hplan.at?_eq.symm.trans hat)
    have hnode : (SyntaxTree.ofDocument document).nodes[place]? = some _ := hnodes.head
    cases hplan with
    | root =>
      simp only [SyntaxTree.construct?, hnode, Option.map_some, Option.some.injEq] at hconstruct
      exact absurd (hconstruct ▸ rfl) hprogram
    | inner => rwa [Lowers, Outline.ofNode_eq]
  | bareParameter =>
    have hnode : (SyntaxTree.ofDocument document).nodes[place]? = some _ := hnodes.head
    simp only [SyntaxTree.construct?, hnode, Option.map_some, Option.some.injEq] at hconstruct
    exact absurd (hconstruct ▸ rfl) hparameter

namespace Lowers

variable {place : NodeId} {node : Node}

/-- The construct at a place, from the plan of the node. -/
theorem construct?_eq (h : document.Lowers place node) :
    (SyntaxTree.ofDocument document).construct? place =
      some ((Plan.ofNode document.text node).shape.assemble node.kind
        (Outline.slotPlaces (place + 1)
          ((Plan.ofNode document.text node).slots.map (Outline.ofSlot? document.text)))) := by
  obtain ⟨above, hholds⟩ :=
    Outline.IsAt.exists_holdsFrom h (SyntaxTree.holdsFrom_ofDocument document)
  rw [Outline.ofNode_eq] at hholds
  have hnode : (SyntaxTree.ofDocument document).nodes[place]? = some _ := hholds.head
  simp [SyntaxTree.construct?, hnode]

/-- **A construct around a part**, which has the next place. -/
theorem of_withPart {part : String} {shape : Shape} {slots : List Slot} {child : Node}
    (h : document.Lowers place node)
    (hplan : Plan.ofNode document.text node = Plan.withPart node part shape slots)
    (hchild : node.field? part = some child) :
    (SyntaxTree.ofDocument document).construct? place = some (shape.assemble node.kind
      (some (place + 1) :: Outline.slotPlaces (place + 1 + (Outline.ofNode document.text child).size)
        (slots.map (Outline.ofSlot? document.text)))) ∧
    document.Lowers (place + 1) child ∧
    ∀ next inner, (some next, some inner) ∈ (Outline.slotPlaces
        (place + 1 + (Outline.ofNode document.text child).size)
        (slots.map (Outline.ofSlot? document.text))).zip (slots.map (Outline.ofSlot? document.text)) →
      (Outline.ofDocument document).IsAt next inner := by
  have hwith : Plan.ofNode document.text node = ⟨shape, .filled child :: slots⟩ := by
    simp only [hplan, Plan.withPart, hchild]
  have hslots : (Outline.ofNode document.text node).slots =
      some (Outline.ofNode document.text child) :: slots.map (Outline.ofSlot? document.text) := by
    rw [Outline.slots_ofNode, hwith]
    rfl
  refine ⟨?_, Outline.IsAt.slot h ?_, fun next inner hmem => Outline.IsAt.slot h ?_⟩
  · rw [h.construct?_eq, hwith]
    rfl
  · rw [hslots]
    exact List.mem_cons_self
  · rw [hslots]
    exact List.mem_cons_of_mem _ hmem

/-- A name. -/
theorem nameAt?_eq (h : document.Lowers place node) (hkind : node.kind = "property_identifier") :
    (SyntaxTree.ofDocument document).nameAt? place = some (node.text document.text) := by
  have hplan : (Plan.ofNode document.text node).shape = .identifier (node.text document.text) := by
    simp [Plan.ofNode, hkind, Plan.leaf]
  simp only [SyntaxTree.nameAt?, h.construct?_eq, hplan, Shape.assemble]

end Lowers

end Concrete.Document

/-! ### What becomes a method -/

namespace Plan

open Grammar (kindsOf constructs)

/-- A construct of no particular kind. -/
theorem kinds_subset_other (node : Node) : Shape.other.kinds ⊆ .other :: kindsOf node.kind := by
  simp [Shape.kinds]

/-- **A node becomes what the grammar has in mind**, or a construct of no particular kind. -/
theorem kinds_ofNode_subset (source : String) (node : Node) :
    (ofNode source node).shape.kinds ⊆ .other :: kindsOf node.kind := by
  let fact : Shape → Prop := fun shape => shape.kinds ⊆ .other :: kindsOf node.kind
  have hother : fact .other := kinds_subset_other node
  have hof : ∀ {shape : Shape}, shape.kinds ⊆ kindsOf node.kind → fact shape :=
    fun h => List.subset_cons_of_subset _ h
  change fact (ofNode source node).shape
  unfold ofNode
  split <;> rename_i hkind <;> first
    | exact hother
    | exact hof (kinds_of_eq hkind (List.Subset.refl _))
    | exact shape_wrap fact (hof (kinds_of_eq hkind (List.Subset.refl _))) hother
    | exact shape_withPart fact (hof (kinds_of_eq hkind (List.Subset.refl _))) hother
    | exact hof (kinds_parameter source hkind (by decide))
    | exact shape_pair fact (hof (kinds_of_eq hkind (List.Subset.refl _))) hother
    | exact shape_pair fact (shape_member fact _ (hof (kinds_of_eq hkind (List.Subset.refl _)))
        hother) hother

/-- The names that the grammar has for methods. -/
theorem mem_of_method_mem_kindsOf {construct : String}
    (h : SyntaxKind.methodDefinition ∈ kindsOf construct) :
    construct ∈ ["method_definition", "method_signature", "abstract_method_signature"] := by
  unfold kindsOf at h
  split at h
  next entry kinds hfind =>
    have hentry : ∀ entry ∈ constructs, SyntaxKind.methodDefinition ∈ entry.2 →
        entry.1 = ["method_definition", "method_signature", "abstract_method_signature"] := by
      decide
    rw [← hentry _ (List.mem_of_find?_eq_some hfind) h]
    simpa using List.find?_some hfind
  next => simp at h

end Plan

namespace Concrete.Document.Lowers

variable {document : Document} {place : NodeId} {node : Node}

/-- **What is lowered to a method** is one to the grammar. -/
theorem kind_mem_of_method (h : document.Lowers place node) {name : NodeId} {params : List NodeId}
    {returnType : Option TypeExpr} {body : Option NodeId}
    (hconstruct : (SyntaxTree.ofDocument document).construct? place =
      some (.methodDefinition name params returnType body)) :
    node.kind ∈ ["method_definition", "method_signature", "abstract_method_signature"] := by
  have hsuits := Outline.IsPartOf.suits (Outline.IsAt.isPartOf h)
  have hkind : ((Plan.ofNode document.text node).shape.assemble node.kind (Outline.slotPlaces
      (place + 1) ((Plan.ofNode document.text node).slots.map (Outline.ofSlot? document.text)))).kind
        ∈ (Plan.ofNode document.text node).shape.kinds :=
    Shape.kind_assemble_mem node.kind
      (by simpa [Outline.Suits, Outline.map_isSome_slotPlaces] using hsuits)
  rw [Option.some.inj (h.construct?_eq.symm.trans hconstruct)] at hkind
  have hmem := Plan.kinds_ofNode_subset document.text node hkind
  exact Plan.mem_of_method_mem_kindsOf (by simpa [Construct.kind] using hmem)

/-- The signature of a method with a name becomes a method. -/
theorem exists_method (h : document.Lowers place node) (hkind : node.kind = "method_signature")
    {name : Node} (hname : node.field? "name" = some name)
    (hplain : name.kind = "property_identifier") :
    (∃ params returnType body, (SyntaxTree.ofDocument document).construct? place =
      some (.methodDefinition (place + 1) params returnType body)) ∧
        (SyntaxTree.ofDocument document).nameAt? (place + 1) = some (name.text document.text) := by
  have hplan : Plan.ofNode document.text node = Plan.withPart node "name" (.method
      (Slot.ofParameters node).length (Plan.writtenType document.text node "return_type"))
      (Slot.ofParameters node ++ [Slot.ofField node "body"]) := by
    simp [Plan.ofNode, hkind]
  obtain ⟨hconstruct, hlowers, -⟩ := h.of_withPart hplan hname
  exact ⟨⟨_, _, _, hconstruct⟩, hlowers.nameAt?_eq hplain⟩

/-- **A method of an interface** is a member with the signature of a method. -/
theorem isMethod_iff (h : document.Lowers place node) (hplain : node.IsPlainMember)
    {text : String} :
    (∃ name params returnType body, (SyntaxTree.ofDocument document).construct? place =
      some (.methodDefinition name params returnType body) ∧
        (SyntaxTree.ofDocument document).nameAt? name = some text) ↔
      node.signature document.text = Node.methodSignature text := by
  rw [Node.signature_eq_iff]
  constructor
  · rintro ⟨name, params, returnType, body, hconstruct, hname⟩
    have hkind : node.kind = "method_signature" := by
      have hmem := h.kind_mem_of_method hconstruct
      have hnot := hplain.isSignature
      simp only [List.mem_cons, List.not_mem_nil, or_false, not_or] at hmem hnot
      exact (hmem.resolve_left hnot.1).resolve_right hnot.2
    cases hfield : node.field? "name" with
    | some written =>
      obtain ⟨⟨_, _, _, hmethod⟩, hnamed⟩ :=
        h.exists_method hkind hfield (hplain.isPlain _ hfield)
      cases hconstruct.symm.trans hmethod
      exact ⟨hkind, written, rfl, Option.some.inj (hnamed.symm.trans hname)⟩
    | none =>
      -- a method without a name is a construct of no particular kind
      have hshape : (Plan.ofNode document.text node).shape = .other := by
        simp [Plan.ofNode, hkind, Plan.withPart, hfield, Plan.other]
      rw [h.construct?_eq, hshape] at hconstruct
      cases hconstruct
  · rintro ⟨hkind, written, hfield, rfl⟩
    obtain ⟨⟨params, returnType, body, hmethod⟩, hnamed⟩ :=
      h.exists_method hkind hfield (hplain.isPlain _ hfield)
    exact ⟨_, _, _, _, hmethod, hnamed⟩

/-- **The members of an interface** are lowered one by one. -/
theorem exists_interface (h : document.Lowers place node) {body : List Node}
    (hnode : node.IsInterface body) :
    ∃ name params members, (SyntaxTree.ofDocument document).construct? place =
      some (.interfaceDeclaration name params [] members) ∧
        List.Forall₂ document.Lowers members body := by
  obtain ⟨hkind, hname, hbases, written, hbody, rfl⟩ := hnode
  obtain ⟨name, hname⟩ := Option.isSome_iff_exists.mp hname
  have hclauses : node.namedParts.filter (·.kind == "extends_type_clause") = [] :=
    List.filter_eq_nil_iff.mpr fun part hpart => by simpa using hbases part hpart
  have hplan : Plan.ofNode document.text node = Plan.withPart node "name"
      (.interfaceDeclaration (TypeExpr.parametersOf document.text node) [])
      (written.namedParts.map .filled) := by
    simp [Plan.ofNode, hkind, Plan.interfacePlan, hclauses, Slot.ofAllIn, hbody, Slot.ofAll]
  obtain ⟨hconstruct, -, hparts⟩ := h.of_withPart hplan hname
  have hslots : (written.namedParts.map Slot.filled).map (Outline.ofSlot? document.text) =
      (written.namedParts.map (Outline.ofNode document.text)).map some := by
    simp [Outline.ofSlot?, Function.comp_def]
  rw [hslots] at hconstruct hparts
  refine ⟨_, _, _, hconstruct, ?_⟩
  have hforall := Outline.forall₂_isAt hparts
  rwa [List.forall₂_map_right_iff] at hforall

/-- **An alias of an object type** stands for the members that are read off. -/
theorem exists_objectAlias (h : document.Lowers place node) {body : List Node}
    (hnode : node.IsObjectAlias body) :
    ∃ name params, (SyntaxTree.ofDocument document).construct? place =
      some (.typeAliasDeclaration name params
        (.object (body.filterMap (TypeExpr.ofMember document.text)))) := by
  obtain ⟨hkind, hname, value, hvalue, hobject, rfl⟩ := hnode
  obtain ⟨name, hname⟩ := Option.isSome_iff_exists.mp hname
  have hplan : Plan.ofNode document.text node = Plan.withPart node "name"
      (.typeAlias (TypeExpr.parametersOf document.text node)
        (.object (value.namedParts.filterMap (TypeExpr.ofMember document.text)))) [] := by
    simp [Plan.ofNode, hkind, Plan.writtenType, hvalue, TypeExpr.ofConcrete_object hobject]
  exact ⟨_, _, (h.of_withPart hplan hname).1⟩

end Concrete.Document.Lowers

end StreamLint
