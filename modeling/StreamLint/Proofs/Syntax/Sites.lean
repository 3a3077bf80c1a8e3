import Mathlib.Data.List.Forall2
import StreamLint.Proofs.Syntax.Address
import StreamLint.Proofs.Syntax.Lowered
/-!
# Where slots are filled from

A plan says of every slot which node is to fill it; this file says where in the concrete tree that
node is. The places go by the shape of the plan (`StreamLint.Shape.sites`): a slot for a named place
of the node is filled from that place, a list of slots from the named parts of the node, or of the
node in a named place. `StreamLint.Plan.sits_ofNode` is the agreement of the two, slot by slot, for
every node and whatever its plan.

No two slots of a node are filled from the same place, and none from a place inside that of another
one; and if the fields of the node stand in the order in which the grammar has them
(`StreamLint.Concrete.fieldsOf`), the slots are filled in the order of the text. Both are
`StreamLint.Plan.pairwise_sites`, for two ways to compare the numbers of children.
-/

namespace StreamLint

open Concrete (Node Address Document)

/-! ### Sites by construct -/

namespace Concrete

namespace Node

variable (node : Node)

/-- Where the parameters of a function are: in its list of parameters, or, in an arrow function
without parentheses, in the place of its only one. -/
def parameterSites : List Address :=
  match node.field? "parameters" with
  | some _ => node.partSitesIn "parameters"
  | none => (node.fieldSite? "parameter").toList

/-- Where the arguments of a call are. The template of a tagged template is its only argument. -/
def argumentSites : List Address :=
  match node.field? "arguments" with
  | some list =>
    if list.kind == "template_string" then (node.fieldSite? "arguments").toList
    else node.partSitesIn "arguments"
  | none => []

/-- Where the operands of a type assertion are: the parts that are no type arguments, and only the
first one of them if the type follows after `as`. -/
def operandSites : List Address :=
  let sites := (node.children.findIdxs fun child =>
    (child.mark.isNamed && !child.isComment) && child.kind != "type_arguments").map ([·])
  if node.kind == "as_expression" then sites.take 1 else sites

/-- The two parts that a construct of no particular kind has if it would have been a member
expression, a subscript or an assignment; they are kept in their order even if one is absent. -/
def otherFields : List String :=
  match node.kind with
  | "member_expression" => ["object", "property"]
  | "subscript_expression" => ["object", "index"]
  | "assignment_expression" | "augmented_assignment_expression" => ["left", "right"]
  | _ => []

/-- Where the children of a construct of no particular kind are. -/
def otherSites : List (Option Address) :=
  match node.otherFields with
  | [] => node.partSites.map some
  | fields => fields.map node.fieldSite?

theorem otherSites_eq {node : Node} (h : node.otherFields = []) :
    node.otherSites = node.partSites.map some := by
  rw [otherSites, h]

theorem otherSites_pair {node : Node} {first second : String}
    (h : node.otherFields = [first, second]) :
    node.otherSites = [node.fieldSite? first, node.fieldSite? second] := by
  rw [otherSites, h]
  rfl

end Node

end Concrete

/-- Where the slots of a construct of this shape are filled from. -/
def Shape.sites (node : Node) : Shape → List (Option Address)
  | .program | .block | .declarations | .array | .object => node.partSites.map some
  | .expressionStatement | .returnStatement | .parenthesized | .nonNull | .await | .spread =>
    (node.partSites.take 1).map some
  | .declarator _ | .property _ => [node.fieldSite? "name", node.fieldSite? "value"]
  | .parameter .. => [node.fieldSite? "pattern", node.fieldSite? "value"]
  | .function .. | .method .. =>
    node.fieldSite? "name" :: (node.parameterSites.map some ++ [node.fieldSite? "body"])
  | .functionExpression .. => node.parameterSites.map some ++ [node.fieldSite? "body"]
  | .classDeclaration .. | .interfaceDeclaration .. =>
    node.fieldSite? "name" :: (node.partSitesIn "body").map some
  | .typeAlias .. => [node.fieldSite? "name"]
  | .call => node.fieldSite? "function" :: node.argumentSites.map some
  | .newExpression _ => node.fieldSite? "constructor" :: (node.partSitesIn "arguments").map some
  | .member => [node.fieldSite? "object", node.fieldSite? "property"]
  | .index => [node.fieldSite? "object", node.fieldSite? "index"]
  | .assignment => [node.fieldSite? "left", node.fieldSite? "right"]
  | .assertion _ => node.operandSites.map some
  | .identifier _ | .this | .literal _ => []
  | .other => node.otherSites

/-! ### Slots and their sites -/

/-- A slot is filled from a site of a node, or it is empty and there is no site. -/
inductive Slot.IsAt (node : Node) : Slot → Option Address → Prop where
  /-- The slot is empty. -/
  | absent : IsAt node .absent none
  /-- The slot is filled from the site. -/
  | filled {child : Node} {site : Address} (h : node.at? site = some child) :
    IsAt node (.filled child) (some site)
  /-- The slot is for the only parameter of an arrow function without parentheses. -/
  | bareParameter {name : Node} {site : Address} (h : node.at? site = some name)
    (hlist : node.field? "parameters" = none) (hsite : node.fieldSite? "parameter" = some site) :
    IsAt node (.bareParameter name) (some site)

/-- The slots are filled from the sites, one by one. -/
abbrev SitsAt (node : Node) : List Slot → List (Option Address) → Prop :=
  List.Forall₂ (Slot.IsAt node)

/-- The slots of a plan are filled from the sites of its shape. -/
def Plan.Sits (node : Node) (plan : Plan) : Prop :=
  SitsAt node plan.slots (plan.shape.sites node)

namespace SitsAt

/-- Slots for the nodes at a list of sites. -/
theorem filled {node : Node} {nodes : List Node} {sites : List Address}
    (h : sites.map node.at? = nodes.map some) :
    SitsAt node (nodes.map .filled) (sites.map some) := by
  induction nodes generalizing sites with
  | nil =>
    obtain rfl := List.map_eq_nil_iff.mp h
    exact .nil
  | cons child rest ih =>
    obtain ⟨site, others, rfl, hsite, hothers⟩ := List.map_eq_cons_iff.mp h
    exact .cons (.filled hsite) (ih hothers)

variable (node : Node)

theorem ofField (name : String) : (Slot.ofField node name).IsAt node (node.fieldSite? name) := by
  unfold Slot.ofField
  rcases node.fieldSite?_cases name with ⟨hfield, hsite⟩ | ⟨index, child, hfield, hsite, -, hat⟩
  · rw [hfield, hsite]
    exact .absent
  · rw [hfield, hsite]
    exact .filled (by simp [hat])

theorem single (name : String) :
    SitsAt node [Slot.ofField node name] [node.fieldSite? name] :=
  .cons (ofField node name) .nil

theorem ofAll : SitsAt node (Slot.ofAll node) (node.partSites.map some) :=
  filled node.at?_partSites

theorem ofFirst : SitsAt node ((Slot.ofAll node).take 1) ((node.partSites.take 1).map some) := by
  have hfirst := List.forall₂_take 1 (ofAll node)
  rwa [← List.map_take] at hfirst

theorem ofAllIn (name : String) :
    SitsAt node (Slot.ofAllIn node name) ((node.partSitesIn name).map some) := by
  have hsites := node.at?_partSitesIn name
  unfold Slot.ofAllIn
  cases hfield : node.field? name with
  | none =>
    obtain hnone : node.partSitesIn name = [] := by simpa [hfield] using hsites
    rw [hnone]
    exact .nil
  | some list =>
    rw [hfield] at hsites
    exact filled hsites

theorem ofParameters : SitsAt node (Slot.ofParameters node) (node.parameterSites.map some) := by
  have hall := ofAllIn node "parameters"
  unfold Slot.ofParameters Node.parameterSites
  cases hlist : node.field? "parameters" with
  | some list => simpa [Slot.ofAllIn, hlist] using hall
  | none =>
    rcases node.fieldSite?_cases "parameter" with
      ⟨hfield, hsite⟩ | ⟨index, child, hfield, hsite, -, hat⟩
    · simp only [hfield, hsite]
      exact .nil
    · simp only [hfield, hsite]
      exact .cons (.bareParameter (by simp [hat]) hlist hsite) .nil

/-- The parameters and the body of a function. -/
theorem parametersBody :
    SitsAt node (Slot.ofParameters node ++ [Slot.ofField node "body"])
      (node.parameterSites.map some ++ [node.fieldSite? "body"]) :=
  List.rel_append (ofParameters node) (single node "body")

end SitsAt

namespace Plan

section

variable {node : Node} {shape : Shape}

theorem sits_other (hother : node.otherFields = []) :
    (other node).Sits node := by
  unfold Sits other
  simp only [Shape.sites, Node.otherSites_eq hother]
  exact SitsAt.ofAll node

theorem sits_wrap (hother : node.otherFields = [])
    (hshape : shape.sites node = (node.partSites.take 1).map some) :
    (wrap node shape).Sits node := by
  have hfirst := SitsAt.ofFirst node
  unfold wrap
  split
  next inner rest hparts => simpa [Sits, hshape, Slot.ofAll, hparts] using hfirst
  next => exact sits_other hother

theorem sits_withPart {part : String} {rest : List Slot} {sites : List (Option Address)}
    (hother : node.otherFields = [])
    (hshape : shape.sites node = node.fieldSite? part :: sites) (hrest : SitsAt node rest sites) :
    (withPart node part shape rest).Sits node := by
  have hsite := SitsAt.ofField node part
  unfold withPart
  split
  next child hfield =>
    simp only [Slot.ofField, hfield] at hsite
    simpa [Sits, hshape] using List.Forall₂.cons hsite hrest
  next => exact sits_other hother

theorem sits_pair {first second : String}
    (hother : node.otherFields = [first, second])
    (hshape : shape.sites node = [node.fieldSite? first, node.fieldSite? second]) :
    (pair node first second shape).Sits node := by
  have hslots : SitsAt node [Slot.ofField node first, Slot.ofField node second]
      [node.fieldSite? first, node.fieldSite? second] :=
    .cons (SitsAt.ofField node first) (SitsAt.single node second)
  unfold pair
  split
  next a b ha hb => simpa [Sits, hshape, Slot.ofField, ha, hb] using hslots
  next => simpa [Sits, Shape.sites, Node.otherSites_pair hother] using hslots

theorem sits_call (hother : node.otherFields = []) :
    (call node).Sits node := by
  refine sits_withPart hother rfl ?_
  have hall := SitsAt.ofAllIn node "arguments"
  have hsingle := SitsAt.ofField node "arguments"
  unfold Node.argumentSites
  cases hfield : node.field? "arguments" with
  | none => exact .nil
  | some list =>
    simp only [Slot.ofAllIn, hfield] at hall
    simp only
    split
    · simp only [Slot.ofField, hfield] at hsingle
      cases hsite : node.fieldSite? "arguments" with
      | none =>
        rw [hsite] at hsingle
        cases hsingle
      | some site =>
        rw [hsite] at hsingle
        exact .cons hsingle .nil
    · exact hall

theorem sits_assertion (source : String)
    (hkind : ["as_expression", "type_assertion"].contains node.kind) :
    (assertion source node).Sits node := by
  have hall := node.at?_findIdxs fun child =>
    (child.mark.isNamed && !child.isComment) && child.kind != "type_arguments"
  have hoperands : node.children.filter (fun child =>
      (child.mark.isNamed && !child.isComment) && child.kind != "type_arguments") =
        node.namedParts.filter (·.kind != "type_arguments") := by
    rw [Node.namedParts, List.filter_filter]
    simp only [Bool.and_comm]
  rw [hoperands] at hall
  refine SitsAt.filled ?_
  rcases (show node.kind = "as_expression" ∨ node.kind = "type_assertion" by simpa using hkind)
    with has | hangle
  · have hfirst := congrArg (List.take 1) hall
    simpa [Node.operandSites, has, assertionParts_as, List.map_take] using hfirst
  · simpa [Node.operandSites, hangle, assertionParts_angle] using hall

theorem sits_member (isNamed : Bool) (h : node.kind = "member_expression") :
    (pair node "object" "property" (if isNamed then .member else .other)).Sits node := by
  have hother : node.otherFields = ["object", "property"] := by simp [Node.otherFields, h]
  cases isNamed
  · exact sits_pair hother (Node.otherSites_pair hother)
  · exact sits_pair hother rfl

end

/-- **Slots are filled from their sites**, whatever the plan of a node. -/
theorem sits_ofNode (source : String) (node : Node) : (ofNode source node).Sits node := by
  unfold ofNode
  split <;> first
    | exact SitsAt.ofAll node
    | exact SitsAt.ofFirst node
    | exact List.Forall₂.nil
    | exact sits_wrap (by simp [Node.otherFields, *]) rfl
    | exact sits_withPart (by simp [Node.otherFields, *]) rfl .nil
    | exact sits_withPart (by simp [Node.otherFields, *]) rfl (SitsAt.single node _)
    | exact sits_withPart (by simp [Node.otherFields, *]) rfl (SitsAt.ofAllIn node _)
    | exact sits_withPart (by simp [Node.otherFields, *]) rfl (SitsAt.parametersBody node)
    | exact List.Forall₂.cons (SitsAt.ofField node _) (SitsAt.parametersBody node)
    | exact SitsAt.parametersBody node
    | exact List.Forall₂.cons (SitsAt.ofField node _) (SitsAt.ofAllIn node _)
    | exact sits_call (by simp [Node.otherFields, *])
    | exact sits_assertion source (by simp [*])
    | exact sits_member _ ‹_›
    | exact sits_pair (by simp [Node.otherFields, *]) rfl
    | exact sits_other (by simp_all [Node.otherFields])

end Plan

/-! ### The order of sites -/

/-- The fields that a construct of this shape has several slots for, in the order in which the
grammar has them. -/
def Shape.fields (node : Node) : Shape → List String
  | .declarator _ | .property _ => ["name", "value"]
  | .parameter .. => ["pattern", "value"]
  | .function .. | .method .. => ["name", "parameters", "parameter", "body"]
  | .functionExpression .. => ["parameters", "parameter", "body"]
  | .classDeclaration .. | .interfaceDeclaration .. => ["name", "body"]
  | .call => ["function", "arguments"]
  | .newExpression _ => ["constructor", "arguments"]
  | .member => ["object", "property"]
  | .index => ["object", "index"]
  | .assignment => ["left", "right"]
  | .other => node.otherFields
  | _ => []

theorem Concrete.Node.nodup_otherFields (node : Node) : node.otherFields.Nodup := by
  unfold otherFields
  split <;> simp

theorem Shape.nodup_fields (node : Node) (shape : Shape) : (shape.fields node).Nodup := by
  cases shape with
  | other => exact node.nodup_otherFields
  | _ => simp [fields]

namespace Concrete.Node

variable {r : Nat → Nat → Prop} {node : Node}

/-- The sites are in the named places, or below them. -/
def Within (node : Node) (names : List String) (sites : List Address) : Prop :=
  ∀ site ∈ sites, ∃ name ∈ names, node.StartsIn name site

theorem within_fieldSite? (node : Node) (name : String) :
    node.Within [name] (node.fieldSite? name).toList := fun _ h =>
  ⟨name, List.mem_singleton_self name, startsIn_of_fieldSite? (Option.mem_toList.mp h)⟩

theorem within_partSitesIn (node : Node) (name : String) : node.Within [name] (node.partSitesIn name) :=
  fun _ h => ⟨name, List.mem_singleton_self name, startsIn_of_mem_partSitesIn h⟩

theorem within_parameterSites (node : Node) :
    node.Within ["parameters", "parameter"] node.parameterSites := by
  intro site h
  unfold parameterSites at h
  split at h
  · exact ⟨_, List.mem_cons_self, startsIn_of_mem_partSitesIn h⟩
  · exact ⟨_, by simp, startsIn_of_fieldSite? (Option.mem_toList.mp h)⟩

theorem within_argumentSites (node : Node) : node.Within ["arguments"] node.argumentSites := by
  intro site h
  refine ⟨_, List.mem_singleton_self _, ?_⟩
  unfold argumentSites at h
  split at h
  next list _ =>
    split at h
    · exact startsIn_of_fieldSite? (Option.mem_toList.mp h)
    · exact startsIn_of_mem_partSitesIn h
  next => simp at h

theorem Within.append {names more : List String} {sites others : List Address}
    (h : node.Within names sites) (hmore : node.Within more others) :
    node.Within (names ++ more) (sites ++ others) := by
  intro site hsite
  rcases List.mem_append.mp hsite with hsite | hsite
  · obtain ⟨name, hname, hstart⟩ := h site hsite
    exact ⟨name, List.mem_append_left _ hname, hstart⟩
  · obtain ⟨name, hname, hstart⟩ := hmore site hsite
    exact ⟨name, List.mem_append_right _ hname, hstart⟩

/-- Sites in some places, and then sites in others. -/
theorem Within.pairwise_append {names more : List String} {sites others : List Address}
    (h : node.Within names sites) (hmore : node.Within more others)
    (hfields : (names ++ more).Pairwise (node.Follows r)) (hsites : sites.Pairwise (Address.Parts r))
    (hothers : others.Pairwise (Address.Parts r)) :
    (sites ++ others).Pairwise (Address.Parts r) := by
  refine List.pairwise_append.mpr ⟨hsites, hothers, fun site hsite other hother => ?_⟩
  obtain ⟨first, hfirst, hstart⟩ := h site hsite
  obtain ⟨second, hsecond, hafter⟩ := hmore other hother
  exact hstart.parts hafter ((List.pairwise_append.mp hfields).2.2 first hfirst second hsecond)

theorem pairwise_fieldSite? (node : Node) (name : String) :
    (node.fieldSite? name).toList.Pairwise (Address.Parts r) := by
  cases node.fieldSite? name <;> simp

theorem pairwise_fieldSites {first second : String}
    (h : [first, second].Pairwise (node.Follows r)) :
    ((node.fieldSite? first).toList ++ (node.fieldSite? second).toList).Pairwise
      (Address.Parts r) :=
  (node.within_fieldSite? first).pairwise_append (node.within_fieldSite? second) h
    (node.pairwise_fieldSite? first) (node.pairwise_fieldSite? second)

variable (hr : ∀ i j, i < j → r i j) (node : Node)
include hr

theorem pairwise_parameterSites : node.parameterSites.Pairwise (Address.Parts r) := by
  unfold parameterSites
  split
  · exact pairwise_partSitesIn hr node _
  · exact node.pairwise_fieldSite? _

theorem pairwise_argumentSites : node.argumentSites.Pairwise (Address.Parts r) := by
  unfold argumentSites
  split
  · split
    · exact node.pairwise_fieldSite? _
    · exact pairwise_partSitesIn hr node _
  · exact .nil

theorem pairwise_operandSites : node.operandSites.Pairwise (Address.Parts r) := by
  unfold operandSites
  split
  · exact (pairwise_findIdxs hr node _).sublist (List.take_sublist _ _)
  · exact pairwise_findIdxs hr node _

end Concrete.Node

theorem filterMap_id_cons (site : Option Address) (sites : List (Option Address)) :
    (site :: sites).filterMap id = site.toList ++ sites.filterMap id := by
  cases site <;> simp

theorem filterMap_id_map_some (sites : List Address) :
    (sites.map some).filterMap id = sites := by
  simp [List.filterMap_map]

theorem Concrete.Node.otherFields_cases (node : Node) :
    node.otherFields = [] ∨ ∃ first second, node.otherFields = [first, second] := by
  unfold otherFields
  split <;> simp

section

variable {r : Nat → Nat → Prop} {node : Node}

/-- **Sites part**, and their nodes compare as the fields of the construct do. -/
theorem Shape.pairwise_sites (hr : ∀ i j, i < j → r i j) {shape : Shape}
    (h : (shape.fields node).Pairwise (node.Follows r)) :
    ((shape.sites node).filterMap id).Pairwise (Address.Parts r) := by
  have hparts := Node.pairwise_partSites hr node
  have hname := node.within_fieldSite? "name"
  have hbody := node.within_fieldSite? "body"
  have hparams := node.within_parameterSites
  cases shape <;> simp only [sites, filterMap_id_cons, List.filterMap_append,
    filterMap_id_map_some, List.filterMap_nil, List.append_nil] <;> simp only [fields] at h
  case program | block | declarations | array | object => exact hparts
  case expressionStatement | returnStatement | parenthesized | nonNull | await | spread =>
    exact hparts.sublist (List.take_sublist 1 _)
  case declarator | property | parameter | member | index | assignment =>
    exact Node.pairwise_fieldSites h
  case function | method =>
    have hrest := hparams.pairwise_append hbody (List.pairwise_cons.mp h).2
      (Node.pairwise_parameterSites hr node) (node.pairwise_fieldSite? _)
    exact hname.pairwise_append (hparams.append hbody) h (node.pairwise_fieldSite? _) hrest
  case functionExpression =>
    exact hparams.pairwise_append hbody h (Node.pairwise_parameterSites hr node)
      (node.pairwise_fieldSite? _)
  case classDeclaration | interfaceDeclaration =>
    exact hname.pairwise_append (node.within_partSitesIn "body") h (node.pairwise_fieldSite? _)
      (Node.pairwise_partSitesIn hr node _)
  case typeAlias => exact node.pairwise_fieldSite? _
  case call =>
    exact (node.within_fieldSite? _).pairwise_append node.within_argumentSites h
      (node.pairwise_fieldSite? _) (Node.pairwise_argumentSites hr node)
  case newExpression =>
    exact (node.within_fieldSite? _).pairwise_append (node.within_partSitesIn _) h
      (node.pairwise_fieldSite? _) (Node.pairwise_partSitesIn hr node _)
  case assertion => exact Node.pairwise_operandSites hr node
  case other =>
    rcases node.otherFields_cases with hother | ⟨first, second, hother⟩
    · rw [Node.otherSites_eq hother, filterMap_id_map_some]
      exact hparts
    · rw [hother] at h
      rw [Node.otherSites_pair hother]
      simpa only [filterMap_id_cons, List.filterMap_nil, List.append_nil] using
        Node.pairwise_fieldSites h
  all_goals exact .nil

end

end StreamLint
