import StreamLint.Syntax.Shape
import StreamLint.Syntax.TypeExpr.OfConcrete
/-!
# The plan of a construct

For every node of a concrete tree, its *plan* says which construct it becomes and which of the nodes
inside it become the children, slot by slot. Comments never do, and neither do the nodes of written
types, which the shape holds already. A grammar construct without its necessary parts, or one that
the analysis has no use for, becomes a construct of no particular kind whose children are its named
nodes.
-/

namespace StreamLint

open Concrete (Node)

/-- What is to fill a slot. -/
inductive Slot where
  /-- Nothing: an optional part that is absent. -/
  | absent
  /-- What the node becomes. -/
  | filled (node : Node)
  /-- A parameter, made up around the name of an arrow function's only parameter. -/
  | bareParameter (node : Node)
  deriving Repr, Inhabited

namespace Slot

/-- The node that a slot is filled from. -/
def node? : Slot → Option Node
  | absent => none
  | filled node | bareParameter node => some node

/-- The slot for a named place of a node. -/
def ofField (parent : Node) (name : String) : Slot :=
  match parent.field? name with
  | some child => filled child
  | none => absent

/-- A slot for every named node in a node. -/
def ofAll (parent : Node) : List Slot :=
  parent.namedParts.map filled

/-- A slot for every named node in the node in a named place. -/
def ofAllIn (parent : Node) (name : String) : List Slot :=
  match parent.field? name with
  | some list => ofAll list
  | none => []

/-- The slots for the parameters of a function. -/
def ofParameters (function : Node) : List Slot :=
  match function.field? "parameters" with
  | some list => ofAll list
  | none =>
    match function.field? "parameter" with
    | some name => [bareParameter name]
    | none => []

/-- Whether a slot is filled from inside a node. -/
def Inside (parent : Node) (slot : Slot) : Prop :=
  ∀ child, slot.node? = some child → sizeOf child < sizeOf parent

theorem inside_absent (parent : Node) : Inside parent absent := by
  intro child h
  simp [node?] at h

theorem inside_filled {parent child : Node} (h : sizeOf child < sizeOf parent) :
    Inside parent (filled child) := by
  intro _ h'
  simp only [node?, Option.some.injEq] at h'
  exact h' ▸ h

theorem inside_ofField (parent : Node) (name : String) : Inside parent (ofField parent name) := by
  unfold ofField
  split
  next h => exact inside_filled (Node.sizeOf_lt_of_field? h)
  next => exact inside_absent parent

theorem inside_of_mem_ofAll {parent : Node} {slot : Slot} (h : slot ∈ ofAll parent) :
    Inside parent slot := by
  obtain ⟨child, hmem, rfl⟩ := List.mem_map.1 h
  exact inside_filled (Node.sizeOf_lt_of_mem_namedParts hmem)

theorem Inside.trans {parent inner : Node} {slot : Slot} (h : Inside inner slot)
    (hlt : sizeOf inner < sizeOf parent) : Inside parent slot :=
  fun child hchild => Nat.lt_trans (h child hchild) hlt

theorem inside_of_mem_ofAllIn {parent : Node} {name : String} {slot : Slot}
    (h : slot ∈ ofAllIn parent name) : Inside parent slot := by
  unfold ofAllIn at h
  split at h
  next hfield => exact (inside_of_mem_ofAll h).trans (Node.sizeOf_lt_of_field? hfield)
  next => simp at h

theorem inside_of_mem_ofParameters {function : Node} {slot : Slot}
    (h : slot ∈ ofParameters function) : Inside function slot := by
  unfold ofParameters at h
  split at h
  next hfield => exact (inside_of_mem_ofAll h).trans (Node.sizeOf_lt_of_field? hfield)
  split at h
  next hfield =>
    obtain rfl := List.mem_singleton.1 h
    intro child hchild
    simp only [node?, Option.some.injEq] at hchild
    exact hchild ▸ Node.sizeOf_lt_of_field? hfield
  next => simp at h

end Slot

/-- The shape of a construct, and what fills its slots. -/
structure Plan where
  /-- The shape. -/
  shape : Shape
  /-- The slots, in the order in which the shape expects them. -/
  slots : List Slot
  deriving Repr, Inhabited

namespace Plan

/-- The plan of a construct of no particular kind. -/
def other (node : Node) : Plan :=
  ⟨.other, Slot.ofAll node⟩

/-- The plan of a construct around its first named node. -/
def wrap (node : Node) (shape : Shape) : Plan :=
  match node.namedParts with
  | inner :: _ => ⟨shape, [.filled inner]⟩
  | [] => other node

/-- The plan of a leaf. -/
def leaf (shape : Shape) : Plan :=
  ⟨shape, []⟩

/-- The plan of a construct that must have a named part in its first slot. -/
def withPart (node : Node) (part : String) (shape : Shape) (rest : List Slot) : Plan :=
  match node.field? part with
  | some child => ⟨shape, .filled child :: rest⟩
  | none => other node

/-- The plan of a construct with two parts, both of which it must have. -/
def pair (node : Node) (first second : String) (shape : Shape) : Plan :=
  match node.field? first, node.field? second with
  | some a, some b => ⟨shape, [.filled a, .filled b]⟩
  | _, _ => ⟨.other, [Slot.ofField node first, Slot.ofField node second]⟩

/-- Whether the grammar calls a node a name. -/
def isName (kind : String) : Bool :=
  ["identifier", "property_identifier", "type_identifier", "shorthand_property_identifier",
    "shorthand_property_identifier_pattern", "private_property_identifier",
    "statement_identifier"].contains kind

section

variable (source : String) (node : Node)

/-- The written type in a named place of a node. -/
def writtenType (field : String) : Option TypeExpr :=
  (node.field? field).map (TypeExpr.ofConcrete source)

/-- The plan of a parameter. It declares a property if it has an access modifier, `override` or
`readonly`. -/
def parameter : Plan :=
  let isProperty := node.children.any fun child =>
    ["accessibility_modifier", "override_modifier", "readonly"].contains child.kind
  withPart node "pattern" (.parameter (writtenType source node "type") isProperty)
    [Slot.ofField node "value"]

/-- The clauses of the heritage of a class. -/
def heritageClauses : List Node :=
  (node.namedParts.filter (·.kind == "class_heritage")).flatMap (·.namedParts)

/-- The base class that an `extends` clause names. -/
def baseOf (clause : Node) : Option TypeExpr :=
  (clause.field? "value").map fun value =>
    .named (lastName (value.text source)) (TypeExpr.ofArguments source clause)

/-- The base class of a class, named by its last `extends` clause. -/
def baseClass : Option TypeExpr :=
  match ((heritageClauses node).filter (·.kind == "extends_clause")).getLast? with
  | some clause => baseOf source clause
  | none => none

/-- The interfaces that a class implements. -/
def implemented : List TypeExpr :=
  ((heritageClauses node).filter (·.kind == "implements_clause")).flatMap fun clause =>
    clause.namedParts.map (TypeExpr.ofConcrete source)

/-- The plan of a class. -/
def classPlan : Plan :=
  ⟨.classDeclaration (TypeExpr.parametersOf source node) (baseClass source node)
      (implemented source node),
    Slot.ofField node "name" :: Slot.ofAllIn node "body"⟩

/-- The plan of an interface. -/
def interfacePlan : Plan :=
  let bases := ((node.namedParts.filter (·.kind == "extends_type_clause")).flatMap
    (·.namedParts)).map (TypeExpr.ofConcrete source)
  withPart node "name" (.interfaceDeclaration (TypeExpr.parametersOf source node) bases)
    (Slot.ofAllIn node "body")

/-- The plan of a call. The template of a tagged template is its only argument. -/
def call : Plan :=
  let arguments := match node.field? "arguments" with
    | some list =>
      if list.kind == "template_string" then [.filled list] else Slot.ofAll list
    | none => []
  withPart node "function" .call arguments

/-- The expressions and the type among the nodes of a type assertion: `found` are the expressions so
far, the last one first, and `type` is the type so far. -/
def assertionParts (isAs : Bool) :
    List Node → List Node → Option TypeExpr → List Node × Option TypeExpr
  | [], found, type => (found.reverse, type)
  | child :: rest, found, type =>
    if child.kind == "type_arguments" then
      assertionParts isAs rest found (child.namedParts.map (TypeExpr.ofConcrete source)).head?
    else if isAs && !found.isEmpty then
      assertionParts isAs rest found (some (TypeExpr.ofConcrete source child))
    else assertionParts isAs rest (child :: found) type

/-- The plan of a type assertion. -/
def assertion : Plan :=
  let (expressions, type) :=
    assertionParts source (node.kind == "as_expression") node.namedParts [] none
  ⟨.assertion type, expressions.map .filled⟩

end

end Plan

/-- The plan of a node. -/
def Plan.ofNode (source : String) (node : Node) : Plan :=
  match node.kind with
  | "statement_block" | "class_static_block" => ⟨.block, Slot.ofAll node⟩
  | "expression_statement" => wrap node .expressionStatement
  | "return_statement" => ⟨.returnStatement, (Slot.ofAll node).take 1⟩
  | "lexical_declaration" | "variable_declaration" => ⟨.declarations, Slot.ofAll node⟩
  | "variable_declarator" =>
    withPart node "name" (.declarator (writtenType source node "type"))
      [Slot.ofField node "value"]
  | "function_declaration" | "generator_function_declaration" | "function_signature" =>
    let params := Slot.ofParameters node
    ⟨.function (TypeExpr.parametersOf source node) params.length
        (writtenType source node "return_type"),
      Slot.ofField node "name" :: (params ++ [Slot.ofField node "body"])⟩
  | "arrow_function" | "function_expression" | "function" | "generator_function" =>
    let params := Slot.ofParameters node
    ⟨.functionExpression params.length (writtenType source node "return_type"),
      params ++ [Slot.ofField node "body"]⟩
  | "required_parameter" | "optional_parameter" => parameter source node
  | "class_declaration" | "abstract_class_declaration" | "class" => classPlan source node
  | "public_field_definition" | "property_signature" =>
    withPart node "name" (.property (writtenType source node "type"))
      [Slot.ofField node "value"]
  | "method_definition" | "method_signature" | "abstract_method_signature" =>
    let params := Slot.ofParameters node
    withPart node "name" (.method params.length (writtenType source node "return_type"))
      (params ++ [Slot.ofField node "body"])
  | "interface_declaration" => interfacePlan source node
  | "type_alias_declaration" =>
    withPart node "name"
      (.typeAlias (TypeExpr.parametersOf source node)
        ((writtenType source node "value").getD (.unsupported ""))) []
  | "call_expression" => call node
  | "new_expression" =>
    withPart node "constructor" (.newExpression (TypeExpr.ofArguments source node))
      (Slot.ofAllIn node "arguments")
  | "member_expression" =>
    let isNamed := match node.field? "property" with
      | some property => isName property.kind
      | none => false
    pair node "object" "property" (if isNamed then .member else .other)
  | "subscript_expression" => pair node "object" "index" .index
  | "identifier" | "property_identifier" | "type_identifier" | "shorthand_property_identifier"
  | "shorthand_property_identifier_pattern" | "private_property_identifier"
  | "statement_identifier" => leaf (.identifier (node.text source))
  | "this" => leaf .this
  | "string" => leaf (.literal .string)
  | "template_string" => leaf (.literal .template)
  | "number" =>
    leaf (.literal (if (node.text source).toList.getLast? == some 'n' then .bigInt else .number))
  | "true" | "false" => leaf (.literal .boolean)
  | "null" => leaf (.literal .null)
  | "undefined" => leaf (.literal .undefined)
  | "regex" => leaf (.literal .regex)
  | "array" => ⟨.array, Slot.ofAll node⟩
  | "object" => ⟨.object, Slot.ofAll node⟩
  | "as_expression" | "type_assertion" => assertion source node
  | "satisfies_expression" | "parenthesized_expression" => wrap node .parenthesized
  | "non_null_expression" => wrap node .nonNull
  | "await_expression" => wrap node .await
  | "spread_element" => wrap node .spread
  | "assignment_expression" | "augmented_assignment_expression" =>
    pair node "left" "right" .assignment
  | _ => other node

/-! ### Plans go inwards -/

namespace Plan

/-- Every slot of the plan is filled from inside the node. -/
def Inward (node : Node) (plan : Plan) : Prop :=
  ∀ slot ∈ plan.slots, slot.Inside node

theorem inward_ofAll (node : Node) (shape : Shape) : Inward node ⟨shape, Slot.ofAll node⟩ :=
  fun _ h => Slot.inside_of_mem_ofAll h

theorem inward_leaf (node : Node) (shape : Shape) : Inward node (leaf shape) := by
  simp [Inward, leaf]

theorem inward_wrap (node : Node) (shape : Shape) : Inward node (wrap node shape) := by
  unfold wrap
  split
  next inner rest h =>
    intro slot hslot
    obtain rfl := List.mem_singleton.1 hslot
    exact Slot.inside_filled (Node.sizeOf_lt_of_mem_namedParts (by simp [h]))
  next => exact inward_ofAll node _

theorem inward_withPart {node : Node} {part : String} {shape : Shape} {rest : List Slot}
    (h : ∀ slot ∈ rest, slot.Inside node) : Inward node (withPart node part shape rest) := by
  unfold withPart
  split
  next hfield =>
    intro slot hslot
    rcases List.mem_cons.1 hslot with rfl | hslot
    · exact Slot.inside_filled (Node.sizeOf_lt_of_field? hfield)
    · exact h slot hslot
  next => exact inward_ofAll node _

theorem inward_pair (node : Node) (first second : String) (shape : Shape) :
    Inward node (pair node first second shape) := by
  unfold pair
  split
  next ha hb =>
    intro slot hslot
    rcases List.mem_cons.1 hslot with rfl | hslot
    · exact Slot.inside_filled (Node.sizeOf_lt_of_field? ha)
    · obtain rfl := List.mem_singleton.1 hslot
      exact Slot.inside_filled (Node.sizeOf_lt_of_field? hb)
  next =>
    intro slot hslot
    rcases List.mem_cons.1 hslot with rfl | hslot
    · exact Slot.inside_ofField node first
    · obtain rfl := List.mem_singleton.1 hslot
      exact Slot.inside_ofField node second

theorem inside_single_ofField {node : Node} {name : String} :
    ∀ slot ∈ [Slot.ofField node name], slot.Inside node := by
  intro slot hslot
  obtain rfl := List.mem_singleton.1 hslot
  exact Slot.inside_ofField node name

theorem inside_parameters_body {node : Node} :
    ∀ slot ∈ Slot.ofParameters node ++ [Slot.ofField node "body"], slot.Inside node := by
  intro slot hslot
  rcases List.mem_append.1 hslot with hslot | hslot
  · exact Slot.inside_of_mem_ofParameters hslot
  · exact inside_single_ofField slot hslot

theorem inside_name_members {node : Node} :
    ∀ slot ∈ Slot.ofField node "name" :: Slot.ofAllIn node "body", slot.Inside node := by
  intro slot hslot
  rcases List.mem_cons.1 hslot with rfl | hslot
  · exact Slot.inside_ofField node "name"
  · exact Slot.inside_of_mem_ofAllIn hslot

theorem inside_name_parameters_body {node : Node} :
    ∀ slot ∈ Slot.ofField node "name" :: (Slot.ofParameters node ++ [Slot.ofField node "body"]),
      slot.Inside node := by
  intro slot hslot
  rcases List.mem_cons.1 hslot with rfl | hslot
  · exact Slot.inside_ofField node "name"
  · exact inside_parameters_body slot hslot

theorem inward_call (node : Node) : Inward node (call node) := by
  refine inward_withPart fun slot hslot => ?_
  split at hslot
  next list hfield =>
    split at hslot
    · obtain rfl := List.mem_singleton.1 hslot
      exact Slot.inside_filled (Node.sizeOf_lt_of_field? hfield)
    · exact (Slot.inside_of_mem_ofAll hslot).trans (Node.sizeOf_lt_of_field? hfield)
  next => simp at hslot

/-- The expressions of a type assertion are among the nodes it was given. -/
theorem mem_of_mem_assertionParts {source : String} {isAs : Bool} {child : Node}
    (nodes found : List Node) (type : Option TypeExpr)
    (h : child ∈ (assertionParts source isAs nodes found type).1) :
    child ∈ nodes ∨ child ∈ found := by
  induction nodes generalizing found type with
  | nil => exact .inr (List.mem_reverse.1 h)
  | cons node rest ih =>
    unfold assertionParts at h
    split at h
    · exact (ih _ _ h).imp_left (List.mem_cons_of_mem _)
    split at h
    · exact (ih _ _ h).imp_left (List.mem_cons_of_mem _)
    · rcases ih _ _ h with h | h
      · exact .inl (List.mem_cons_of_mem _ h)
      · rcases List.mem_cons.1 h with rfl | h
        · exact .inl List.mem_cons_self
        · exact .inr h

theorem inward_assertion (source : String) (node : Node) : Inward node (assertion source node) := by
  intro slot hslot
  obtain ⟨child, hchild, rfl⟩ := List.mem_map.1 hslot
  rcases mem_of_mem_assertionParts _ _ _ hchild with h | h
  · exact Slot.inside_filled (Node.sizeOf_lt_of_mem_namedParts h)
  · simp at h

/-- **Plans go inwards**: every slot of the plan of a node is filled from inside the node. -/
theorem inward_ofNode (source : String) (node : Node) : Inward node (ofNode source node) := by
  unfold ofNode
  split <;> first
    | exact inward_ofAll node _
    | exact inward_wrap node _
    | exact inward_leaf node _
    | exact inward_pair node _ _ _
    | exact inward_call node
    | exact inward_assertion source node
    | exact inside_name_parameters_body
    | exact inside_parameters_body
    | exact inside_name_members
    | exact inward_withPart inside_single_ofField
    | exact inward_withPart inside_parameters_body
    | exact inward_withPart fun _ h => Slot.inside_of_mem_ofAllIn h
    | exact inward_withPart (by simp)
    | exact fun _ h => Slot.inside_of_mem_ofAll (List.mem_of_mem_take h)

end Plan

end StreamLint
