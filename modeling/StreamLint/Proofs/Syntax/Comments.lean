import StreamLint.Syntax.Lowering
import StreamLint.Proofs.Syntax.Flattened
import StreamLint.Proofs.Syntax.Lowered
/-!
# Comments mean nothing

A comment may stand between any two parts of a construct or of a type, so what is said about parts
by their order has to be said about the parts other than comments. Where comments are taken out of a
tree (`StreamLint.Concrete.Thinned`), nothing else changes in the syntax tree of the document but
the list of its comments, and its syntax errors are the same
(`StreamLint.SyntaxTree.ofDocument_of_thinned`).

For the nodes, a tree is compared with what is left when all comments are taken out
(`StreamLint.Concrete.Node.uncommented`): a node has the same parts there, each of them uncommented,
and the same node in each named place. So a type is read from it as before, and the plan of a node is
the same up to that. Two trees that differ by comments are the same when they are uncommented.
-/

namespace StreamLint

namespace Concrete

/-- **A comment**, as a parser finds it between other nodes: it has no parts, it stands in no named
place, and its text is there and fits. -/
structure Node.IsRemark (node : Node) : Prop where
  /-- The grammar calls it a comment. -/
  isComment : node.isComment = true
  /-- It has no parts. -/
  children_eq : node.children = []
  /-- It stands in no named place. -/
  field_eq : node.mark.field = none
  /-- It is no syntax error. -/
  isIssue_eq : node.isIssue = false

/-- **Some comments are taken out**, anywhere in several trees. -/
inductive Thinned : List Node → List Node → Prop
  /-- There is nothing to be taken out. -/
  | nil : Thinned [] []
  /-- A comment is taken out. -/
  | drop {comment : Node} {rest rest' : List Node} (hcomment : comment.IsRemark)
      (hrest : Thinned rest rest') : Thinned (comment :: rest) rest'
  /-- A node stays, and comments are taken out among its children. -/
  | keep {mark : Mark} {children children' rest rest' : List Node}
      (hchildren : Thinned children children') (hrest : Thinned rest rest') :
      Thinned (.mk mark children :: rest) (.mk mark children' :: rest')

/-- Some comments are taken out of a document; its text stays as it is. -/
structure Document.Thinned (document document' : Document) : Prop where
  /-- The text is the same. -/
  text_eq : document'.text = document.text
  /-- The dialect is the same. -/
  dialect_eq : document'.dialect = document.dialect
  /-- The root is the same. -/
  mark_eq : document'.root.mark = document.root.mark
  /-- Comments are taken out below the root. -/
  children : Concrete.Thinned document.root.children document'.root.children

/-! ### Trees without comments -/

namespace Node

/-- A comment that stands in no named place. -/
def isAside (node : Node) : Bool :=
  node.isComment && node.mark.field.isNone

mutual

/-- The tree without the comments that stand in no named place. -/
def uncommented : Node → Node
  | .mk mark children => .mk mark (uncommentedList children)

/-- Trees without such comments. -/
def uncommentedList : List Node → List Node
  | [] => []
  | node :: rest =>
    if node.isAside then uncommentedList rest else node.uncommented :: uncommentedList rest

end

variable {node : Node}

@[simp] theorem mark_uncommented (node : Node) : node.uncommented.mark = node.mark := by
  cases node
  rw [uncommented, mark, mark]

@[simp] theorem kind_uncommented (node : Node) : node.uncommented.kind = node.kind := by
  rw [kind, kind, mark_uncommented]

@[simp] theorem span_uncommented (node : Node) : node.uncommented.span = node.span := by
  rw [span, span, mark_uncommented]

@[simp] theorem text_uncommented (node : Node) (source : String) :
    node.uncommented.text source = node.text source := by
  rw [text, text, span_uncommented]

@[simp] theorem isComment_uncommented (node : Node) :
    node.uncommented.isComment = node.isComment := by
  rw [isComment, isComment, kind_uncommented]

theorem uncommentedList_eq (nodes : List Node) :
    uncommentedList nodes = (nodes.filter fun node => !node.isAside).map uncommented := by
  induction nodes with
  | nil => rw [uncommentedList, List.filter_nil, List.map_nil]
  | cons node rest ih =>
    rw [uncommentedList, ih]
    cases haside : node.isAside <;> simp [haside]

theorem children_uncommented (node : Node) :
    node.uncommented.children =
      (node.children.filter fun child => !child.isAside).map uncommented := by
  cases node
  rw [uncommented, children, children, uncommentedList_eq]

/-- The named parts are what they were. -/
@[simp] theorem namedParts_uncommented (node : Node) :
    node.uncommented.namedParts = node.namedParts.map uncommented := by
  rw [namedParts, children_uncommented, List.filter_map, List.filter_filter, namedParts]
  congr 1
  refine List.filter_congr fun child _ => ?_
  simp only [Function.comp_apply, mark_uncommented, isComment_uncommented, isAside]
  cases child.isComment <;> simp

/-- The node in a named place is what it was. -/
@[simp] theorem field?_uncommented (node : Node) (name : String) :
    node.uncommented.field? name = (node.field? name).map uncommented := by
  rw [field?, children_uncommented, List.find?_map, List.find?_filter, field?]
  congr 1
  congr 1
  funext child
  simp only [Function.comp_apply, mark_uncommented, isAside]
  cases child.mark.field <;> simp [beq_eq_decide]

end Node

/-- Trees that differ by comments are the same without comments. -/
theorem Thinned.uncommentedList_eq {nodes nodes' : List Node} (h : Thinned nodes nodes') :
    Node.uncommentedList nodes = Node.uncommentedList nodes' := by
  induction h with
  | nil => rfl
  | drop hcomment _ ih =>
    rw [Node.uncommentedList, if_pos, ih]
    simp [Node.isAside, hcomment.isComment, hcomment.field_eq]
  | @keep mark children children' _ _ _ _ ihchildren ih =>
    have haside : (Node.mk mark children').isAside = (Node.mk mark children).isAside := rfl
    rw [Node.uncommentedList, Node.uncommentedList, ih, Node.uncommented, Node.uncommented,
      ihchildren, haside]

end Concrete

open Concrete (Node Document)

/-! ### Types -/

namespace TypeExpr

variable {source : String} {node : Node}

theorem ofFirst_uncommented
    (h : ∀ child ∈ node.namedParts, ofConcrete source child.uncommented = ofConcrete source child) :
    ofFirst source node.uncommented = ofFirst source node := by
  cases hparts : node.namedParts with
  | nil =>
    rw [ofFirst_of_nil hparts, ofFirst_of_nil (by simp [hparts]), Node.text_uncommented]
  | cons child rest =>
    have hparts' : node.uncommented.namedParts = child.uncommented :: rest.map Node.uncommented := by
      simp [hparts]
    rw [ofFirst_of_cons hparts, ofFirst_of_cons hparts', h child (by simp [hparts])]

theorem ofArguments_eq (source : String) (node : Node) : ofArguments source node =
    match node.field? "type_arguments" with
    | none => []
    | some list => list.namedParts.map (ofConcrete source) := by
  rw [ofArguments]
  split <;> simp_all

theorem ofMember_eq (source : String) (node : Node) : ofMember source node =
    (node.field? "name").bind fun name =>
      if node.kind = "property_signature" then
        some ⟨name.text source, .property,
          ((node.field? "type").map (ofConcrete source)).getD (.keyword .any)⟩
      else if node.kind = "method_signature" then
        some ⟨name.text source, .method,
          ((node.field? "return_type").map (ofConcrete source)).getD (.keyword .any)⟩
      else none := by
  rw [ofMember]
  cases node.field? "name" with
  | none => rfl
  | some name =>
    simp only [Option.bind_some]
    split
    next hkind => split <;> simp_all
    next hkind => split <;> simp_all
    next hproperty hmethod => rw [if_neg hproperty, if_neg hmethod]

theorem ofLiteral_uncommented (source : String) (node : Node) :
    ofLiteral source node.uncommented = ofLiteral source node := by
  unfold ofLiteral
  cases hparts : node.namedParts with
  | nil => simp [hparts]
  | cons inner rest => simp [hparts]

theorem resultNode?_uncommented (node : Node) :
    resultNode? node.uncommented = (resultNode? node).map Node.uncommented := by
  unfold resultNode?
  rw [Node.field?_uncommented, Node.field?_uncommented, Node.namedParts_uncommented,
    List.getLast?_map]
  cases node.field? "return_type" <;> cases node.field? "type" <;> rfl

/-- What a function type is, given the type of its result. -/
theorem function_of_resultNode? (source : String) (node : Node) :
    (match _h : resultNode? node with
      | some type => TypeExpr.function (ofConcrete source type)
      | none => .function (.keyword .unknown)) =
      .function (((resultNode? node).map (ofConcrete source)).getD (.keyword .unknown)) := by
  split <;> simp_all

theorem filterMap_attach_ofMember (source : String) (nodes : List Node) :
    (nodes.attach.filterMap fun child => ofMember source child.1) =
      nodes.filterMap (ofMember source) := by
  conv_rhs => rw [← List.attach_map_subtype_val nodes, List.filterMap_map]
  rfl

/-- **A type is read from the parts other than comments.** -/
@[simp] theorem ofConcrete_uncommented (source : String) (node : Node) :
    ofConcrete source node.uncommented = ofConcrete source node := by
  have hparts : ∀ child ∈ node.namedParts,
      ofConcrete source child.uncommented = ofConcrete source child := fun child hchild =>
    have := Node.sizeOf_lt_of_mem_namedParts hchild
    ofConcrete_uncommented source child
  have hfirst := ofFirst_uncommented hparts
  have hflatten : ∀ {kind join}, Joins kind join →
      flatten source kind node.uncommented = flatten source kind node := by
    intro kind join hjoins
    rw [hjoins.flatten_eq, hjoins.flatten_eq, Node.namedParts_uncommented, List.flatMap_map]
    exact List.flatMap_congr fun child hchild => by rw [hparts child hchild]
  have harguments : ofArguments source node.uncommented = ofArguments source node := by
    rw [ofArguments_eq, ofArguments_eq, Node.field?_uncommented]
    cases hlist : node.field? "type_arguments" with
    | none => rfl
    | some list =>
      simp only [Option.map_some, Node.namedParts_uncommented, List.map_map]
      refine List.map_congr_left fun child hchild => ?_
      have := (Node.sizeOf_lt_of_mem_namedParts hchild).trans (Node.sizeOf_lt_of_field? hlist)
      exact ofConcrete_uncommented source child
  have hmember : ∀ child ∈ node.namedParts,
      ofMember source child.uncommented = ofMember source child := by
    intro child hchild
    have hfield : ∀ name, ((child.field? name).map Node.uncommented).map (ofConcrete source) =
        (child.field? name).map (ofConcrete source) := by
      intro name
      rw [Option.map_map]
      refine Option.map_congr fun type htype => ?_
      have := (Node.sizeOf_lt_of_field? htype).trans (Node.sizeOf_lt_of_mem_namedParts hchild)
      exact ofConcrete_uncommented source type
    rw [ofMember_eq, ofMember_eq]
    simp only [Node.field?_uncommented, Node.kind_uncommented, hfield]
    cases child.field? "name" <;> simp
  have hresult : (resultNode? node.uncommented).map (ofConcrete source) =
      (resultNode? node).map (ofConcrete source) := by
    rw [resultNode?_uncommented, Option.map_map]
    refine Option.map_congr fun type htype => ?_
    have := sizeOf_lt_of_resultNode? htype
    exact ofConcrete_uncommented source type
  rw [ofConcrete.eq_def source node.uncommented, ofConcrete.eq_def source node]
  simp only [Node.kind_uncommented, Node.text_uncommented, hfirst, harguments, hflatten .union,
    hflatten .intersection, ofLiteral_uncommented, Node.field?_uncommented]
  split
  -- Most kinds have nothing to be read but what has been compared.
  all_goals try with_reducible rfl
  next => cases node.field? "name" <;> simp
  next =>
    simp only [List.map_attach_eq_pmap, List.pmap_eq_map, Node.namedParts_uncommented, List.map_map]
    exact congrArg tuple (List.map_congr_left hparts)
  iterate 2
    next =>
      calc
        _ = TypeExpr.function _ := function_of_resultNode? source node.uncommented
        _ = .function _ := by rw [hresult]
        _ = _ := (function_of_resultNode? source node).symm
  iterate 2
    next =>
      rw [filterMap_attach_ofMember, filterMap_attach_ofMember, Node.namedParts_uncommented,
        List.filterMap_map]
      exact congrArg object (List.filterMap_congr hmember)
termination_by sizeOf node

@[simp] theorem ofArguments_uncommented (source : String) (node : Node) :
    ofArguments source node.uncommented = ofArguments source node := by
  rw [ofArguments_eq, ofArguments_eq, Node.field?_uncommented]
  cases node.field? "type_arguments" <;> simp

@[simp] theorem parametersOf_uncommented (source : String) (node : Node) :
    parametersOf source node.uncommented = parametersOf source node := by
  unfold parametersOf
  rw [Node.field?_uncommented]
  cases node.field? "type_parameters" with
  | none => rfl
  | some list =>
    simp [List.filter_map, List.filterMap_map, Function.comp_def, Option.map_map]

end TypeExpr

/-! ### Plans -/

namespace Slot

/-- What fills a slot, without comments. -/
def uncommented : Slot → Slot
  | absent => absent
  | filled node => filled node.uncommented
  | bareParameter node => bareParameter node.uncommented

@[simp] theorem ofField_uncommented (node : Node) (name : String) :
    ofField node.uncommented name = (ofField node name).uncommented := by
  unfold ofField
  rw [Node.field?_uncommented]
  cases node.field? name <;> rfl

@[simp] theorem ofAll_uncommented (node : Node) :
    ofAll node.uncommented = (ofAll node).map uncommented := by
  simp only [ofAll, Node.namedParts_uncommented, List.map_map]
  rfl

@[simp] theorem ofAllIn_uncommented (node : Node) (name : String) :
    ofAllIn node.uncommented name = (ofAllIn node name).map uncommented := by
  unfold ofAllIn
  rw [Node.field?_uncommented]
  cases node.field? name <;> simp

@[simp] theorem ofParameters_uncommented (node : Node) :
    ofParameters node.uncommented = (ofParameters node).map uncommented := by
  unfold ofParameters
  rw [Node.field?_uncommented, Node.field?_uncommented]
  cases node.field? "parameters" <;> cases node.field? "parameter" <;> simp [uncommented]

end Slot

namespace Plan

/-- A plan, without comments. -/
def uncommented (plan : Plan) : Plan where
  shape := plan.shape
  slots := plan.slots.map Slot.uncommented

variable {source : String} {node : Node} {shape shape' : Shape}

theorem other_uncommented (node : Node) : other node.uncommented = (other node).uncommented := by
  simp [other, uncommented]

theorem leaf_uncommented (shape : Shape) : leaf shape = (leaf shape).uncommented := rfl

theorem of_slots_uncommented {slots slots' : List Slot} (hshape : shape' = shape)
    (hslots : slots' = slots.map Slot.uncommented) :
    Plan.mk shape' slots' = (Plan.mk shape slots).uncommented := by
  rw [hshape, hslots, uncommented]

theorem wrap_uncommented (node : Node) (shape : Shape) :
    wrap node.uncommented shape = (wrap node shape).uncommented := by
  unfold wrap
  rw [Node.namedParts_uncommented]
  cases node.namedParts with
  | nil => exact other_uncommented node
  | cons => rfl

theorem withPart_uncommented {part : String} {rest rest' : List Slot} (hshape : shape' = shape)
    (hrest : rest' = rest.map Slot.uncommented) :
    withPart node.uncommented part shape' rest' = (withPart node part shape rest).uncommented := by
  unfold withPart
  rw [Node.field?_uncommented, hshape, hrest]
  cases node.field? part with
  | none => exact other_uncommented node
  | some => rfl

theorem pair_uncommented (node : Node) (first second : String) (hshape : shape' = shape) :
    pair node.uncommented first second shape' = (pair node first second shape).uncommented := by
  unfold pair
  rw [Node.field?_uncommented, Node.field?_uncommented, hshape]
  cases hfirst : node.field? first <;> cases hsecond : node.field? second <;>
    simp [uncommented, Slot.uncommented, Slot.ofField, hfirst, hsecond]

@[simp] theorem writtenType_uncommented (source : String) (node : Node) (field : String) :
    writtenType source node.uncommented field = writtenType source node field := by
  simp [writtenType, Option.map_map, Function.comp_def]

/-- A comment is no modifier. -/
theorem parameter_uncommented (source : String) (node : Node) :
    parameter source node.uncommented = (parameter source node).uncommented := by
  have hmodifiers : (node.uncommented.children.any fun child =>
      ["accessibility_modifier", "override_modifier", "readonly"].contains child.kind) =
      node.children.any fun child =>
        ["accessibility_modifier", "override_modifier", "readonly"].contains child.kind := by
    rw [Node.children_uncommented, List.any_map, List.any_filter]
    refine List.any_congr rfl fun child => ?_
    simp only [Function.comp_apply, Node.kind_uncommented]
    cases haside : child.isAside with
    | false => rfl
    | true =>
      have hkind : child.kind = "comment" := by
        simpa [Node.isComment] using (Bool.and_eq_true_iff.mp haside).1
      rw [hkind]
      rfl
  unfold parameter
  rw [hmodifiers, writtenType_uncommented]
  exact withPart_uncommented rfl (by simp)

/-- The parts of a given kind are what they were. -/
theorem filter_kind_uncommented (nodes : List Node) (kind : String) :
    (nodes.map Node.uncommented).filter (·.kind == kind) =
      (nodes.filter (·.kind == kind)).map Node.uncommented := by
  simp [List.filter_map, Function.comp_def]

theorem flatMap_namedParts_uncommented (nodes : List Node) :
    (nodes.map Node.uncommented).flatMap Node.namedParts =
      (nodes.flatMap Node.namedParts).map Node.uncommented := by
  simp [List.flatMap_map, List.map_flatMap]

theorem heritageClauses_uncommented (node : Node) :
    heritageClauses node.uncommented = (heritageClauses node).map Node.uncommented := by
  rw [heritageClauses, Node.namedParts_uncommented, filter_kind_uncommented,
    flatMap_namedParts_uncommented, heritageClauses]

theorem classPlan_uncommented (source : String) (node : Node) :
    classPlan source node.uncommented = (classPlan source node).uncommented := by
  have hbase : baseClass source node.uncommented = baseClass source node := by
    unfold baseClass
    rw [heritageClauses_uncommented, filter_kind_uncommented, List.getLast?_map]
    cases ((heritageClauses node).filter (·.kind == "extends_clause")).getLast? with
    | none => rfl
    | some clause => simp [baseOf, Option.map_map, Function.comp_def]
  have himplemented : implemented source node.uncommented = implemented source node := by
    simp only [implemented, heritageClauses_uncommented, filter_kind_uncommented, List.flatMap_map,
      Node.namedParts_uncommented, List.map_map, Function.comp_def, TypeExpr.ofConcrete_uncommented]
  simp [classPlan, uncommented, hbase, himplemented]

theorem interfacePlan_uncommented (source : String) (node : Node) :
    interfacePlan source node.uncommented = (interfacePlan source node).uncommented := by
  unfold interfacePlan
  simp only [Node.namedParts_uncommented, filter_kind_uncommented, flatMap_namedParts_uncommented,
    List.map_map, Function.comp_def, TypeExpr.ofConcrete_uncommented,
    TypeExpr.parametersOf_uncommented]
  exact withPart_uncommented rfl (Slot.ofAllIn_uncommented node "body")

theorem call_uncommented (node : Node) : call node.uncommented = (call node).uncommented := by
  unfold call
  refine withPart_uncommented rfl ?_
  rw [Node.field?_uncommented]
  cases node.field? "arguments" with
  | none => rfl
  | some list =>
    simp only [Option.map_some, Node.kind_uncommented]
    split <;> simp [Slot.uncommented]

theorem assertionParts_uncommented (source : String) (isAs : Bool) (nodes found : List Node)
    (type : Option TypeExpr) :
    assertionParts source isAs (nodes.map Node.uncommented) (found.map Node.uncommented) type =
      ((assertionParts source isAs nodes found type).1.map Node.uncommented,
        (assertionParts source isAs nodes found type).2) := by
  induction nodes generalizing found type with
  | nil => simp [assertionParts]
  | cons node rest ih =>
    simp only [List.map_cons, assertionParts, Node.kind_uncommented, Node.namedParts_uncommented,
      List.map_map, Function.comp_def, TypeExpr.ofConcrete_uncommented, List.isEmpty_map]
    split
    · exact ih found _
    split
    · exact ih found _
    · exact ih (node :: found) type

theorem assertion_uncommented (source : String) (node : Node) :
    assertion source node.uncommented = (assertion source node).uncommented := by
  have hparts := assertionParts_uncommented source (node.kind == "as_expression") node.namedParts [] none
  unfold assertion
  rw [Node.kind_uncommented, Node.namedParts_uncommented]
  rw [List.map_nil] at hparts
  rw [hparts]
  simp only [uncommented, List.map_map]
  rfl

/-- **The plan of a node is what it was**, up to the comments in what fills the slots. -/
theorem ofNode_uncommented (source : String) (node : Node) :
    ofNode source node.uncommented = (ofNode source node).uncommented := by
  unfold ofNode
  rw [Node.kind_uncommented, Node.text_uncommented]
  split <;> with_reducible first
    | exact leaf_uncommented _
    | exact withPart_uncommented (by simp) (by simp)
    | exact wrap_uncommented node _
    | exact pair_uncommented node _ _ rfl
    -- The access to a property asks for the kind of its name.
    | exact pair_uncommented node _ _ (by cases h : node.field? "property" <;> simp [h])
    | exact parameter_uncommented source node
    | exact classPlan_uncommented source node
    | exact interfacePlan_uncommented source node
    | exact call_uncommented node
    | exact assertion_uncommented source node
    | exact other_uncommented node
    | exact of_slots_uncommented (by simp) (by simp)

end Plan

/-! ### Outlines -/

namespace Outline

/-- **The outline of a node is the same** without comments. -/
theorem ofNode_uncommented (source : String) (node : Node) :
    ofNode source node.uncommented = ofNode source node := by
  rw [ofNode_eq, ofNode_eq, Plan.ofNode_uncommented, Node.kind_uncommented, Node.span_uncommented]
  simp only [Plan.uncommented, List.map_map]
  congr 1
  refine List.map_congr_left fun slot hslot => ?_
  have hinside := Plan.inward_ofNode source node slot hslot
  cases slot with
  | absent => rfl
  | filled child =>
    have := hinside child rfl
    exact congrArg some (ofNode_uncommented source child)
  | bareParameter name =>
    have := hinside name rfl
    simp only [Function.comp_apply, Slot.uncommented, ofSlot?, bareParameter,
      ofNode_uncommented source name, Node.span_uncommented]
termination_by sizeOf node

/-- So are the outlines of the named parts of a node. -/
theorem map_ofNode_uncommented (source : String) (node : Node) :
    (node.uncommented.namedParts.map fun child => some (ofNode source child)) =
      node.namedParts.map fun child => some (ofNode source child) := by
  rw [Node.namedParts_uncommented, List.map_map]
  simp only [Function.comp_def, ofNode_uncommented]

end Outline

namespace Concrete

/-! ### Syntax errors -/

theorem Thinned.append {first first' second second' : List Node} (h : Thinned first first')
    (h' : Thinned second second') : Thinned (first ++ second) (first' ++ second') := by
  induction h with
  | nil => exact h'
  | drop hcomment _ ih => exact .drop hcomment ih
  | keep hchildren _ _ ih => exact .keep hchildren ih

/-- A comment is no syntax error, and it holds none. -/
theorem Thinned.map_issuesOnStack (text : String) {stack stack' : List Node}
    (h : Thinned stack stack') :
    (issuesOnStack stack').map (Issue.ofNode text) =
      (issuesOnStack stack).map (Issue.ofNode text) := by
  induction stack using issuesOnStack.induct generalizing stack' with
  | case1 =>
    cases h
    rfl
  | case2 node stack ih =>
    simp only [dite_eq_ite] at ih
    rw [issuesOnStack]
    cases h with
    | drop hcomment hrest =>
      simp only [hcomment.isIssue_eq, hcomment.children_eq, ite_self, Bool.false_eq_true, if_false,
        List.nil_append] at ih ⊢
      exact ih hrest
    | @keep mark children children' _ rest' hchildren hrest =>
      have hbelow : Thinned (if mark.hasError = true then children else [])
          (if mark.hasError = true then children' else []) := by
        split
        · exact hchildren
        · exact .nil
      have hself : (if (Node.mk mark children').isIssue then [Node.mk mark children'] else []).map
            (Issue.ofNode text) =
          (if (Node.mk mark children).isIssue then [Node.mk mark children] else []).map
            (Issue.ofNode text) := by
        rw [show (Node.mk mark children').isIssue = (Node.mk mark children).isIssue from rfl]
        split <;> rfl
      rw [issuesOnStack, List.map_append, List.map_append, hself]
      exact congrArg _ (ih (hbelow.append hrest))

/-! ### The list of comments -/

/-- Comments that are taken out are missing from the list, and nothing else is. -/
theorem Thinned.sublist_comments (text : String) {nodes nodes' : List Node}
    (h : Thinned nodes nodes') :
    ((commentNodesOfList nodes').map fun node => (⟨node.text text, node.span⟩ : Comment)).Sublist
      ((commentNodesOfList nodes).map fun node => ⟨node.text text, node.span⟩) := by
  induction h with
  | nil => exact .slnil
  | drop _ _ ih =>
    rw [commentNodesOfList, List.map_append]
    exact ih.trans (List.sublist_append_right _ _)
  | @keep mark children children' _ _ _ _ ihchildren ih =>
    have hself : (if (Node.mk mark children').isComment then [Node.mk mark children'] else []).map
          (fun node => (⟨node.text text, node.span⟩ : Comment)) =
        (if (Node.mk mark children).isComment then [Node.mk mark children] else []).map
          fun node => ⟨node.text text, node.span⟩ := by
      rw [show (Node.mk mark children').isComment = (Node.mk mark children).isComment from rfl]
      split <;> rfl
    simp only [commentNodesOfList, Node.commentNodes, List.map_append, hself]
    exact ((List.Sublist.refl _).append ihchildren).append ih

end Concrete

/-! ### Documents -/

/-- **Comments mean nothing.** Where comments are taken out of a document, anywhere between other
nodes, its syntax tree stays as it is but for the list of comments, from which they are missing; and
its syntax errors stay as they are. -/
theorem SyntaxTree.ofDocument_of_thinned {document document' : Document}
    (h : document.Thinned document') :
    ofDocument document' = { ofDocument document with comments := document'.comments } ∧
    document'.comments.Sublist document.comments ∧ document'.issues = document.issues := by
  obtain ⟨text, dialect, ⟨mark, children⟩⟩ := document
  obtain ⟨text', dialect', ⟨mark', children'⟩⟩ := document'
  obtain rfl : text' = text := h.text_eq
  obtain rfl : dialect' = dialect := h.dialect_eq
  obtain rfl : mark' = mark := h.mark_eq
  have hchildren : Concrete.Thinned children children' := h.children
  have hroot : Concrete.Thinned [Node.mk mark' children] [Node.mk mark' children'] :=
    .keep hchildren .nil
  have huncommented : (Node.mk mark' children').uncommented = (Node.mk mark' children).uncommented := by
    rw [Node.uncommented, Node.uncommented, hchildren.uncommentedList_eq]
  have hparts := Outline.map_ofNode_uncommented text' (.mk mark' children')
  rw [huncommented, Outline.map_ofNode_uncommented] at hparts
  have houtline : Outline.ofDocument ⟨text', dialect', .mk mark' children'⟩ =
      Outline.ofDocument ⟨text', dialect', .mk mark' children⟩ :=
    congrArg (Outline.mk _ _ _) hparts.symm
  refine ⟨?_, ?_, hroot.map_issuesOnStack text'⟩
  · rw [ofDocument, ofDocument, houtline]
    rfl
  · have hsublist := hroot.sublist_comments text'
    simp only [Concrete.commentNodesOfList, List.append_nil] at hsublist
    exact hsublist

/-- Comments stand in front of a binding, of its type, of the inside of the parentheses there, and
between the operands of a union. -/
theorem SyntaxTree.ofDocument_of_thinned_union :
    let document (remark : Nat → Nat → List Node) : Document := {
      text := "let /*1*/ a: /*2*/ (/*3*/ A /*4*/ | B)"
      dialect := .typeScript
      root := .named "program" 0 38 none [.named "lexical_declaration" 0 38 none (remark 4 9 ++
        [.named "variable_declarator" 10 38 none [.named "identifier" 10 11 (some "name") [],
          .named "type_annotation" 11 38 (some "type") (remark 13 18 ++
            [.named "parenthesized_type" 19 38 none (remark 20 25 ++
              [.named "union_type" 26 37 none (.named "type_identifier" 26 27 none [] ::
                (remark 28 33 ++ [.named "type_identifier" 36 37 none []]))])])]])] }
    let commented := document fun first last => [.named "comment" first last none []]
    let plain := document fun _ _ => []
    commented.Thinned plain ∧ commented.comments.length = 4 ∧
      SyntaxTree.ofDocument plain = { SyntaxTree.ofDocument commented with comments := [] } ∧
      plain.issues = commented.issues := by
  intro document commented plain
  have hremark : ∀ first last, (Node.named "comment" first last none []).IsRemark := fun _ _ =>
    ⟨rfl, rfl, rfl, rfl⟩
  have hthinned : commented.Thinned plain := by
    refine ⟨rfl, rfl, rfl, ?_⟩
    -- From the outside to the inside: the declaration, the binding, the type, the parentheses.
    refine .keep (.drop (hremark 4 9) (.keep (.keep .nil (.keep ?_ .nil)) .nil)) .nil
    refine .drop (hremark 13 18) (.keep (.drop (hremark 20 25) (.keep ?_ .nil)) .nil)
    exact .keep .nil (.drop (hremark 28 33) (.keep .nil .nil))
  obtain ⟨htree, -, hissues⟩ := SyntaxTree.ofDocument_of_thinned hthinned
  exact ⟨hthinned, rfl, htree, hissues⟩

end StreamLint
