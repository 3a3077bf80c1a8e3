import StreamLint.Concrete.Tree
import StreamLint.Syntax.TypeExpr
/-!
# Written types of a concrete tree

The type that a concrete node in the place of a type stands for. Wrappers such as parentheses and
`readonly` are looked through. Operands of a union that are unions themselves, nested directly or
inside a wrapper, give their members to it, and likewise for intersections.

The recursion goes down the concrete tree, from a node to nodes inside it.
-/

namespace StreamLint

open Concrete (Node)

/-- The last part of a dotted name, type arguments left out. -/
def lastName (text : String) : String :=
  let name := text.toList.takeWhile (· != '<')
  trim (String.ofList (name.reverse.takeWhile (· != '.')).reverse)

namespace TypeExpr

/-- The type that a keyword spells, or its text. -/
def ofKeywordText (text : String) : TypeExpr :=
  match KeywordType.ofSpelling? text with
  | some k => .keyword k
  | none => .unsupported text

/-- The type of a literal in the place of a type. -/
def ofLiteral (source : String) (node : Node) : TypeExpr :=
  match node.namedParts with
  | [] => ofKeywordText (node.text source)
  | inner :: _ =>
    match inner.kind with
    | "string" | "template_string" => .literal .string
    | "number" | "unary_expression" => .literal .number
    | "true" | "false" => .literal .boolean
    | "null" => .keyword .null
    | "undefined" => .keyword .undefined
    | _ => .unsupported (node.text source)

/-- What an operand adds to a union (`kind` is `union_type`) or to an intersection: its members if
it is of that kind itself, and otherwise itself. -/
def operands (kind : String) (type : TypeExpr) : List TypeExpr :=
  match kind, type with
  | "union_type", .union members => members
  | "intersection_type", .intersection members => members
  | _, type => [type]

/-- The node that holds the result type of a function type. -/
def resultNode? (node : Node) : Option Node :=
  match node.field? "return_type" with
  | some type => some type
  | none =>
    match node.field? "type" with
    | some type => some type
    | none => node.namedParts.getLast?

/-- The result type of a function type is inside it. -/
theorem sizeOf_lt_of_resultNode? {type node : Node} (h : resultNode? node = some type) :
    sizeOf type < sizeOf node := by
  unfold resultNode? at h
  split at h
  next h' => exact Option.some.inj h ▸ Node.sizeOf_lt_of_field? h'
  split at h
  next h' => exact Option.some.inj h ▸ Node.sizeOf_lt_of_field? h'
  exact Node.sizeOf_lt_of_mem_namedParts (List.mem_of_getLast? h)

/-- A type inside another one is left with less to look into, by whatever function. -/
theorem two_mul_sizeOf_lt {type node : Node} (h : sizeOf type < sizeOf node) :
    2 * sizeOf type + 1 < 2 * sizeOf node := by
  omega

mutual

/-- The type that a node stands for. -/
def ofConcrete (source : String) (node : Node) : TypeExpr :=
  match node.kind with
  | "type_annotation" | "omitting_type_annotation" | "adding_type_annotation"
  | "opting_type_annotation" | "parenthesized_type" | "readonly_type" | "constraint"
  | "default_type" => ofFirst source node
  | "asserts_annotation" => .keyword .void
  | "type_predicate_annotation" | "type_predicate" => .keyword .boolean
  | "predefined_type" => ofKeywordText (node.text source)
  | "undefined" => .keyword .undefined
  | "null" => .keyword .null
  | "type_identifier" | "identifier" => .named (node.text source) []
  | "nested_type_identifier" | "member_expression" =>
    .named (lastName (node.text source)) []
  | "generic_type" =>
    let name := match node.field? "name" with
      | some name => name.text source
      | none => node.text source
    .named (lastName name) (ofArguments source node)
  | "union_type" => .union (flatten source "union_type" node)
  | "intersection_type" => .intersection (flatten source "intersection_type" node)
  | "array_type" => .array (ofFirst source node)
  | "tuple_type" =>
    .tuple (node.namedParts.attach.map fun ⟨child, _⟩ => ofConcrete source child)
  | "literal_type" => ofLiteral source node
  | "function_type" | "constructor_type" =>
    match _h : resultNode? node with
    | some type => .function (ofConcrete source type)
    | none => .function (.keyword .unknown)
  | "object_type" | "interface_body" =>
    .object (node.namedParts.attach.filterMap fun ⟨child, _⟩ => ofMember source child)
  | _ => .unsupported (node.text source)
  termination_by 2 * sizeOf node + 1
  decreasing_by
    all_goals first
      | exact Nat.lt_succ_self _
      | exact Nat.lt_succ_of_lt (two_mul_sizeOf_lt (Node.sizeOf_lt_of_mem_namedParts (by assumption)))
      | exact Nat.lt_succ_of_lt (two_mul_sizeOf_lt (sizeOf_lt_of_resultNode? (by assumption)))
      | exact Nat.lt_succ_of_lt (Nat.lt_of_succ_lt
          (two_mul_sizeOf_lt (Node.sizeOf_lt_of_mem_namedParts (by assumption))))

/-- The type that the first named child of a node stands for, or the node as text. -/
def ofFirst (source : String) (node : Node) : TypeExpr :=
  match _h : node.namedParts with
  | [] => .unsupported (node.text source)
  | child :: _ => ofConcrete source child
  termination_by 2 * sizeOf node
  decreasing_by
    exact two_mul_sizeOf_lt (Node.sizeOf_lt_of_mem_namedParts (by simp [*]))

/-- The types in the type arguments of a node. -/
def ofArguments (source : String) (node : Node) : List TypeExpr :=
  match _h : node.field? "type_arguments" with
  | none => []
  | some list => list.namedParts.attach.map fun ⟨child, _⟩ => ofConcrete source child
  termination_by 2 * sizeOf node
  decreasing_by
    exact two_mul_sizeOf_lt (Nat.lt_trans (Node.sizeOf_lt_of_mem_namedParts (by assumption))
      (Node.sizeOf_lt_of_field? (by assumption)))

/-- The operands of a union (`kind` is `union_type`) or intersection, those of nested ones in their
places. -/
def flatten (source kind : String) (node : Node) : List TypeExpr :=
  (node.namedParts.attach.map fun ⟨child, _⟩ =>
    if child.kind == kind then flatten source kind child
    else operands kind (ofConcrete source child)).flatten
  termination_by 2 * sizeOf node
  decreasing_by
    all_goals first
      | exact two_mul_sizeOf_lt (Node.sizeOf_lt_of_mem_namedParts (by assumption))
      | exact Nat.lt_of_succ_lt
          (two_mul_sizeOf_lt (Node.sizeOf_lt_of_mem_namedParts (by assumption)))

/-- The member of an object type that a node stands for, if it is a property or a method with a
name. -/
def ofMember (source : String) (node : Node) : Option (Member TypeExpr) :=
  match node.field? "name" with
  | none => none
  | some name =>
    match node.kind with
    | "property_signature" =>
      match _h : node.field? "type" with
      | some type => some ⟨name.text source, .property, ofConcrete source type⟩
      | none => some ⟨name.text source, .property, .keyword .any⟩
    | "method_signature" =>
      match _h : node.field? "return_type" with
      | some type => some ⟨name.text source, .method, ofConcrete source type⟩
      | none => some ⟨name.text source, .method, .keyword .any⟩
    | _ => none
  termination_by 2 * sizeOf node
  decreasing_by
    all_goals exact two_mul_sizeOf_lt (Node.sizeOf_lt_of_field? (by assumption))

end

/-- The generic parameters that a node declares. -/
def parametersOf (source : String) (node : Node) : List TypeParameter :=
  match node.field? "type_parameters" with
  | none => []
  | some list =>
    (list.namedParts.filter (·.kind == "type_parameter")).filterMap fun child =>
      (child.field? "name").map fun name =>
        ⟨name.text source, (child.field? "constraint").map (ofConcrete source)⟩

end TypeExpr

end StreamLint
