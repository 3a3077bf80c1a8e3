import StreamLint.Proofs.Syntax.Sites
/-!
# What the grammar puts where

Concrete trees come from a parser, and lowering takes from it which constructs there are. This file
says how much of the grammar of TypeScript matters to the named places of a syntax tree, as tables:

* `StreamLint.Grammar.occupants` – what can stand where lowering looks for names, bodies and
  properties;
* `StreamLint.Grammar.demands`, `StreamLint.Grammar.wrappers` – the parts that are always there;
* `StreamLint.Grammar.constructs` – which kinds of node the constructs become.

A node that follows the grammar (`StreamLint.Concrete.Node.FollowsGrammar`) is planned as a node of
the kinds in the last table, `StreamLint.Plan.kinds_ofNode`, and the slots of its plan leave it no
other choice, `StreamLint.Shape.kind_assemble_mem`.
-/

namespace StreamLint

open Concrete (Node Document)

/-! ### Tables -/

namespace Grammar

/-- The expressions. -/
def expressions : List String :=
  ["identifier", "undefined", "this", "super", "number", "string", "template_string", "regex",
    "true", "false", "null", "object", "array", "function_expression", "function", "arrow_function",
    "generator_function", "class", "meta_property", "parenthesized_expression", "call_expression",
    "new_expression", "member_expression", "subscript_expression", "non_null_expression",
    "as_expression", "satisfies_expression", "type_assertion", "instantiation_expression",
    "internal_module", "await_expression", "yield_expression", "assignment_expression",
    "augmented_assignment_expression", "unary_expression", "binary_expression",
    "ternary_expression", "update_expression", "glimmer_template", "jsx_element", "jsx_fragment",
    "jsx_self_closing_element"]

/-- What can be bound by a parameter; a parameter can also be `this`. -/
def patterns : List String :=
  ["identifier", "undefined", "member_expression", "subscript_expression", "non_null_expression",
    "object_pattern", "array_pattern", "rest_pattern", "this"]

/-- What members of classes and interfaces are called by. -/
def memberNames : List String :=
  ["property_identifier", "private_property_identifier", "string", "number",
    "computed_property_name"]

/-- What can stand in a named place of certain nodes. -/
structure Occupancy where
  /-- The nodes that have the place. -/
  owners : List String
  /-- The name of the place. -/
  place : String
  /-- What can stand in it. -/
  allowed : List String
  deriving DecidableEq, Repr

/-- What can stand where names, bodies and properties are looked for. -/
def occupants : List Occupancy :=
  [⟨["variable_declarator"], "name", ["identifier", "object_pattern", "array_pattern"]⟩,
    ⟨["function_declaration", "generator_function_declaration", "function_signature"], "name",
      ["identifier"]⟩,
    ⟨["class_declaration", "abstract_class_declaration", "class", "interface_declaration",
      "type_alias_declaration"], "name", ["type_identifier"]⟩,
    ⟨["public_field_definition", "property_signature", "method_definition", "method_signature",
      "abstract_method_signature"], "name", memberNames⟩,
    ⟨["required_parameter", "optional_parameter"], "pattern", patterns⟩,
    ⟨["member_expression"], "property", ["property_identifier", "private_property_identifier"]⟩,
    ⟨["arrow_function"], "body", "statement_block" :: expressions⟩,
    ⟨["function_declaration", "generator_function_declaration", "function_signature",
      "function_expression", "function", "generator_function", "method_definition",
      "method_signature", "abstract_method_signature"], "body", ["statement_block"]⟩]

/-- What can stand in a place `parameter`: the only parameter of an arrow function, or what a
`catch` clause binds. -/
def bareParameters : List String :=
  ["identifier", "object_pattern", "array_pattern"]

/-- The places of certain nodes that are never free. -/
def demands : List (List String × List String) :=
  [(["variable_declarator", "public_field_definition", "property_signature", "method_definition",
      "method_signature", "abstract_method_signature", "interface_declaration",
      "type_alias_declaration"], ["name"]),
    (["call_expression"], ["function"]),
    (["new_expression"], ["constructor"]),
    (["member_expression"], ["object", "property"]),
    (["subscript_expression"], ["object", "index"]),
    (["assignment_expression", "augmented_assignment_expression"], ["left", "right"])]

/-- The place of such a node is never free. -/
abbrev Demands (construct place : String) : Prop :=
  ∃ demand ∈ demands, construct ∈ demand.1 ∧ place ∈ demand.2

/-- The nodes that are never without a named part. -/
def wrappers : List String :=
  ["expression_statement", "satisfies_expression", "parenthesized_expression",
    "non_null_expression", "await_expression", "spread_element"]

/-- The kinds of node that constructs become. Those that are not in the table are of no particular
kind. A parameter without a pattern is the member of a tuple type. -/
def constructs : List (List String × List SyntaxKind) :=
  [(["statement_block", "class_static_block"], [.blockStatement]),
    (["expression_statement"], [.expressionStatement]),
    (["return_statement"], [.returnStatement]),
    (["lexical_declaration", "variable_declaration"], [.variableDeclaration]),
    (["variable_declarator"], [.variableDeclarator]),
    (["function_declaration", "generator_function_declaration", "function_signature"],
      [.functionDeclaration]),
    (["arrow_function", "function_expression", "function", "generator_function"],
      [.functionExpression]),
    (["required_parameter", "optional_parameter"], [.parameter, .other]),
    (["class_declaration", "abstract_class_declaration", "class"], [.classDeclaration]),
    (["public_field_definition", "property_signature"], [.propertyDefinition]),
    (["method_definition", "method_signature", "abstract_method_signature"], [.methodDefinition]),
    (["interface_declaration"], [.interfaceDeclaration]),
    (["type_alias_declaration"], [.typeAliasDeclaration]),
    (["call_expression"], [.callExpression]),
    (["new_expression"], [.newExpression]),
    (["member_expression"], [.memberExpression]),
    (["subscript_expression"], [.indexExpression]),
    (["identifier", "property_identifier", "type_identifier", "shorthand_property_identifier",
      "shorthand_property_identifier_pattern", "private_property_identifier",
      "statement_identifier"], [.identifier]),
    (["this"], [.thisExpression]),
    (["string", "template_string", "number", "true", "false", "null", "undefined", "regex"],
      [.literal]),
    (["array"], [.arrayExpression]),
    (["object"], [.objectExpression]),
    (["as_expression", "type_assertion"], [.typeAssertion, .parenthesizedExpression, .other]),
    (["satisfies_expression", "parenthesized_expression"], [.parenthesizedExpression]),
    (["non_null_expression"], [.nonNullExpression]),
    (["await_expression"], [.awaitExpression]),
    (["spread_element"], [.spreadElement]),
    (["assignment_expression", "augmented_assignment_expression"], [.assignmentExpression])]

/-- The kinds of node that a construct becomes. -/
def kindsOf (construct : String) : List SyntaxKind :=
  match constructs.find? (·.1.contains construct) with
  | some (_, kinds) => kinds
  | none => [.other]

end Grammar

/-! ### Trees that follow the grammar -/

namespace Concrete

mutual

/-- The nodes of a tree, in the order of the text. -/
def Node.nodes : Node → List Node
  | .mk mark children => .mk mark children :: nodesOfList children

/-- The nodes of several trees. -/
def nodesOfList : List Node → List Node
  | [] => []
  | node :: rest => node.nodes ++ nodesOfList rest

end

/-- What stands in the places of a node can stand there, and the parts that are always there are. -/
structure Node.FollowsGrammar (node : Node) : Prop where
  /-- What stands where names, bodies and properties are looked for. -/
  occupied : ∀ rule ∈ Grammar.occupants, node.kind ∈ rule.owners →
    ∀ child ∈ node.field? rule.place, child.kind ∈ rule.allowed
  /-- What stands in the place of an only parameter. -/
  bareParameter : ∀ child ∈ node.field? "parameter", child.kind ∈ Grammar.bareParameters
  /-- Places that are not free. -/
  demanded : ∀ demand ∈ Grammar.demands, node.kind ∈ demand.1 →
    ∀ place ∈ demand.2, (node.field? place).isSome = true
  /-- Named parts. -/
  wraps : node.kind ∈ Grammar.wrappers → node.namedParts.isEmpty = false

instance (node : Node) : Decidable node.FollowsGrammar :=
  decidable_of_iff (_ ∧ _ ∧ _ ∧ _)
    ⟨fun ⟨hoccupied, hbare, hdemanded, hwraps⟩ => ⟨hoccupied, hbare, hdemanded, hwraps⟩,
      fun h => ⟨h.occupied, h.bareParameter, h.demanded, h.wraps⟩⟩

/-- All nodes of a document follow the grammar. -/
def Document.FollowsGrammar (document : Document) : Prop :=
  ∀ node ∈ document.root.nodes, node.FollowsGrammar

instance (document : Document) : Decidable document.FollowsGrammar :=
  inferInstanceAs (Decidable (∀ _ ∈ _, _))

theorem Node.FollowsGrammar.isSome_field? {node : Node} (h : node.FollowsGrammar) {place : String}
    (hdemand : Grammar.Demands node.kind place) : (node.field? place).isSome = true := by
  obtain ⟨demand, hmem, hkind, hplace⟩ := hdemand
  exact h.demanded demand hmem hkind place hplace

theorem Node.mem_nodes_self (node : Node) : node ∈ node.nodes := by
  cases node
  exact List.mem_cons_self

theorem mem_nodesOfList {node child : Node} {children : List Node} (hchild : child ∈ children)
    (h : node ∈ child.nodes) : node ∈ nodesOfList children := by
  induction children with
  | nil => cases hchild
  | cons first rest ih =>
    rcases List.mem_cons.mp hchild with rfl | hrest
    · exact List.mem_append_left _ h
    · exact List.mem_append_right _ (ih hrest)

/-- The node at an address is one of the nodes of the tree. -/
theorem Node.mem_nodes_of_at? {root node : Node} {base : Address} (h : root.at? base = some node) :
    node ∈ root.nodes := by
  induction base generalizing root with
  | nil =>
    obtain rfl := Option.some.inj h
    exact root.mem_nodes_self
  | cons index rest ih =>
    obtain ⟨child, hchild, hnode⟩ := Option.bind_eq_some_iff.mp h
    cases root
    exact List.mem_cons_of_mem _ (mem_nodesOfList (List.mem_of_getElem? hchild) (ih hnode))

theorem Document.FollowsGrammar.at? {document : Document} (h : document.FollowsGrammar)
    {base : Address} {node : Node} (hat : document.root.at? base = some node) :
    node.FollowsGrammar :=
  h node (Node.mem_nodes_of_at? hat)

end Concrete

/-! ### What shapes become -/

/-- The kinds of node that a construct of this shape can be, if its slots are filled. -/
def Shape.kinds : Shape → List SyntaxKind
  | program => [.program]
  | block => [.blockStatement]
  | expressionStatement => [.expressionStatement]
  | returnStatement => [.returnStatement]
  | declarations => [.variableDeclaration]
  | declarator _ => [.variableDeclarator]
  | function .. => [.functionDeclaration]
  | functionExpression .. => [.functionExpression]
  | parameter .. => [.parameter]
  | classDeclaration .. => [.classDeclaration]
  | property _ => [.propertyDefinition]
  | method .. => [.methodDefinition]
  | interfaceDeclaration .. => [.interfaceDeclaration]
  | typeAlias .. => [.typeAliasDeclaration]
  | call => [.callExpression]
  | newExpression _ => [.newExpression]
  | member => [.memberExpression]
  | index => [.indexExpression]
  | assignment => [.assignmentExpression]
  | assertion _ => [.typeAssertion, .parenthesizedExpression, .other]
  | parenthesized => [.parenthesizedExpression]
  | nonNull => [.nonNullExpression]
  | await => [.awaitExpression]
  | spread => [.spreadElement]
  | array => [.arrayExpression]
  | object => [.objectExpression]
  | identifier _ => [.identifier]
  | this => [.thisExpression]
  | literal _ => [.literal]
  | other => [.other]

/-- **A construct has a kind of its shape**, if the slots that the shape expects are filled. -/
theorem Shape.kind_assemble_mem {shape : Shape} {ids : List (Option NodeId)} (label : String)
    (h : shape.Suits (ids.map (·.isSome))) : (shape.assemble label ids).kind ∈ shape.kinds := by
  cases shape with
  | expressionStatement | parenthesized | nonNull | await | spread | typeAlias =>
    obtain ⟨place, rfl⟩ := map_isSome_eq_singleton h
    exact List.mem_singleton_self _
  | declarator | property | parameter | method =>
    obtain ⟨filled, hfilled, -⟩ := h
    obtain ⟨place, rest, rfl, -⟩ := map_isSome_eq_cons hfilled
    exact List.mem_singleton_self _
  | interfaceDeclaration | call | newExpression =>
    obtain ⟨filled, hfilled⟩ := h
    obtain ⟨place, rest, rfl, -⟩ := map_isSome_eq_cons hfilled
    exact List.mem_singleton_self _
  | member | index | assignment =>
    obtain ⟨first, rest, rfl, hrest⟩ := map_isSome_eq_cons h
    obtain ⟨second, rfl⟩ := map_isSome_eq_singleton hrest
    exact List.mem_singleton_self _
  | assertion declared =>
    simp only [assemble, kinds]
    split <;> simp [Construct.kind]
  | _ => exact List.mem_singleton_self _

/-! ### What constructs become -/

namespace Plan

open Grammar (kindsOf constructs wrappers)

section

variable {node : Node} {shape : Shape}

theorem shape_wrap_eq (h : node.namedParts.isEmpty = false) : (wrap node shape).shape = shape := by
  unfold wrap
  split
  next => rfl
  next hnone => simp [hnone] at h

theorem shape_withPart_eq {part : String} {rest : List Slot}
    (h : (node.field? part).isSome = true) : (withPart node part shape rest).shape = shape := by
  unfold withPart
  split
  next => rfl
  next hnone => simp [hnone] at h

theorem shape_pair_eq {first second : String} (hfirst : (node.field? first).isSome = true)
    (hsecond : (node.field? second).isSome = true) :
    (pair node first second shape).shape = shape := by
  unfold pair
  split
  next => rfl
  next hnone =>
    obtain ⟨a, ha⟩ := Option.isSome_iff_exists.mp hfirst
    obtain ⟨b, hb⟩ := Option.isSome_iff_exists.mp hsecond
    exact absurd hb (hnone a b ha)

theorem kinds_of_eq {construct : String} {kinds : List SyntaxKind} (hkind : node.kind = construct)
    (h : kinds ⊆ kindsOf construct) : kinds ⊆ kindsOf node.kind :=
  hkind ▸ h

/-- A node that is not in the table is of no particular kind. -/
theorem kinds_other (h : ∀ entry ∈ constructs, node.kind ∉ entry.1) :
    (other node).shape.kinds ⊆ kindsOf node.kind := by
  have hnone : constructs.find? (·.1.contains node.kind) = none :=
    List.find?_eq_none.mpr fun entry hentry => by simpa using h entry hentry
  rw [kindsOf, hnone]
  exact List.Subset.refl _

/-- A parameter has a pattern, or it is the member of a tuple type. -/
theorem kinds_parameter (source : String) {construct : String} (hkind : node.kind = construct)
    (h : kindsOf construct = [.parameter, .other]) :
    (parameter source node).shape.kinds ⊆ kindsOf node.kind := by
  rw [hkind, h]
  exact shape_withPart (·.kinds ⊆ [.parameter, .other]) (by simp [Shape.kinds])
    (by simp [Shape.kinds])

variable (h : node.FollowsGrammar)
include h

theorem kinds_wrap (hkind : node.kind ∈ wrappers) (hkinds : shape.kinds ⊆ kindsOf node.kind) :
    (wrap node shape).shape.kinds ⊆ kindsOf node.kind := by
  rwa [shape_wrap_eq (h.wraps hkind)]

theorem kinds_withPart {part : String} {rest : List Slot} (hpart : Grammar.Demands node.kind part)
    (hkinds : shape.kinds ⊆ kindsOf node.kind) :
    (withPart node part shape rest).shape.kinds ⊆ kindsOf node.kind := by
  rwa [shape_withPart_eq (h.isSome_field? hpart)]

theorem kinds_pair {first second : String} (hfirst : Grammar.Demands node.kind first)
    (hsecond : Grammar.Demands node.kind second) (hkinds : shape.kinds ⊆ kindsOf node.kind) :
    (pair node first second shape).shape.kinds ⊆ kindsOf node.kind := by
  rwa [shape_pair_eq (h.isSome_field? hfirst) (h.isSome_field? hsecond)]

/-- The property of a member expression is a name. -/
theorem isName_property (hkind : node.kind = "member_expression") :
    (match node.field? "property" with
      | some property => isName property.kind
      | none => false) = true := by
  have hdemand : Grammar.Demands node.kind "property" := by rw [hkind]; decide
  obtain ⟨property, hproperty⟩ := Option.isSome_iff_exists.mp (h.isSome_field? hdemand)
  have hallowed : property.kind ∈ ["property_identifier", "private_property_identifier"] :=
    h.occupied ⟨["member_expression"], "property", _⟩ (by decide) (by rw [hkind]; decide) property
      hproperty
  rw [hproperty]
  change isName property.kind = true
  rcases (show property.kind = "property_identifier" ∨
    property.kind = "private_property_identifier" by simpa using hallowed) with hname | hname <;>
    rw [hname] <;> decide

theorem kinds_member (hkind : node.kind = "member_expression") {isNamed : Bool}
    (hnamed : isNamed = true) :
    (pair node "object" "property" (if isNamed then .member else .other)).shape.kinds ⊆
      kindsOf node.kind := by
  rw [hnamed]
  refine kinds_pair h ?_ ?_ (kinds_of_eq hkind (List.Subset.refl _)) <;> rw [hkind] <;> decide

/-- **The plan of a node that follows the grammar** is of the kinds in the table. -/
theorem kinds_ofNode (source : String) : (ofNode source node).shape.kinds ⊆ kindsOf node.kind := by
  unfold ofNode
  split <;> rename_i hkind <;> first
    | exact kinds_of_eq hkind (List.Subset.refl _)
    | exact kinds_wrap h (hkind ▸ by decide) (kinds_of_eq hkind (List.Subset.refl _))
    | exact kinds_withPart h (hkind ▸ by decide) (kinds_of_eq hkind (List.Subset.refl _))
    | exact kinds_pair h (hkind ▸ by decide) (hkind ▸ by decide)
        (kinds_of_eq hkind (List.Subset.refl _))
    | exact kinds_parameter source hkind (by decide)
    | exact kinds_member h hkind (isName_property h hkind)
    | (refine kinds_other ?_
       simp only [constructs, List.mem_cons, List.not_mem_nil, or_false, forall_eq_or_imp, not_or,
         forall_eq]
       and_intros <;> assumption)

end

end Plan

end StreamLint
