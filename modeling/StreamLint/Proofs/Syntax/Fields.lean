import StreamLint.Proofs.Pattern.Kinds
import StreamLint.Proofs.Syntax.Faithful
import StreamLint.Proofs.Syntax.Grammar
/-!
# Named places and the grammar

The tables of the named places say which kinds of node have a place and which can stand in it. They
are written down apart from lowering, so it is a question whether lowered trees keep to them. In the
syntax tree of a document that follows the grammar of TypeScript

* only nodes of the listed kinds have a place;
* a property is an identifier, and a body is of one of the listed kinds;
* a name is of one of the listed kinds unless the grammar has a string, a number, `this`,
  `undefined`, a member expression, a subscript or a non-null assertion there.

The last point is a gap in the table of names: the name of a method may be a string, and a parameter
may be `this`. The main statement, `StreamLint.SyntaxTree.listed_of_followsGrammar`, says that there
is no other gap.

The way there is by the concrete tree. What stands in a named place comes from what stands in the
place that the grammar has for it (`StreamLint.Field.part?`), so the grammar says what it can come
from, and that says what it can be. The name in a parameter that has been made up comes from no place
of the parameter, but from the place `parameter` of the function.
-/

namespace StreamLint

open Concrete (Node Address Document)

/-! ### Names of the places -/

/-- The grammar's name for a named place of a node of a kind, if what can stand there is
restricted. -/
def Field.part? (owner : SyntaxKind) : Field → Option String
  | .name => some (if owner = .parameter then "pattern" else "name")
  | .body => some "body"
  | .property => some "property"
  | _ => none

/-- The grammar's names for a named place, if what can stand there is restricted. -/
def Field.parts : Field → List String
  | .name => ["name", "pattern"]
  | .body => ["body"]
  | .property => ["property"]
  | _ => []

/-- What the grammar allows in a named place of some node. -/
def Field.allowed (field : Field) : List String :=
  (Grammar.occupants.filter fun rule => field.parts.contains rule.place).flatMap (·.allowed)

/-- The names that the table of names does not provide for. -/
def Grammar.unlistedNames : List String :=
  ["string", "number", "this", "undefined", "member_expression", "subscript_expression",
    "non_null_expression"]

/-! ### The tables agree -/

namespace Grammar

/-- The tables say what can stand in the restricted places that a construct has as a node of a
kind. -/
def Covers (construct : String) (kind : SyntaxKind) : Prop :=
  ∀ field ∈ Field.all, kind ∈ field.owners → ∀ part ∈ field.part? kind,
    ∃ rule ∈ occupants, construct ∈ rule.owners ∧ rule.place = part

instance (construct : String) (kind : SyntaxKind) : Decidable (Covers construct kind) :=
  inferInstanceAs (Decidable (∀ _ ∈ _, _))

theorem covers_constructs :
    ∀ entry ∈ constructs, ∀ construct ∈ entry.1, ∀ kind ∈ entry.2, Covers construct kind := by
  decide +kernel

/-- **What the grammar allows becomes what the tables list**, up to the names that they do not
provide for. -/
theorem listed_iff : ∀ field ∈ Field.all, ∀ kinds ∈ field.occupants?,
    ∀ construct ∈ field.allowed, ∀ kind ∈ kindsOf construct,
      (kind ∈ kinds ↔ ¬(field = .name ∧ construct ∈ unlistedNames)) := by
  decide +kernel

theorem bareParameter_mem_allowed :
    ∀ construct ∈ bareParameters, construct ∈ Field.name.allowed := by
  decide +kernel

/-- A node that becomes one with a restricted place is in the table of those. -/
theorem exists_rule {construct part : String} {kind : SyntaxKind} {field : Field}
    (hkind : kind ∈ kindsOf construct) (howner : kind ∈ field.owners)
    (hpart : field.part? kind = some part) :
    ∃ rule ∈ occupants, construct ∈ rule.owners ∧ rule.place = part := by
  have hall : field ∈ Field.all := by cases field <;> decide
  unfold kindsOf at hkind
  split at hkind
  next entry kinds hfind =>
    have hmem := List.mem_of_find?_eq_some hfind
    have hconstruct := List.find?_some hfind
    exact covers_constructs _ hmem construct (by simpa using hconstruct) kind hkind field hall
      howner part hpart
  next =>
    -- what is of no particular kind has no named places
    obtain rfl := List.mem_singleton.mp hkind
    cases field <;> simp [Field.owners] at howner

end Grammar

/-! ### Where named places are filled from -/

theorem Field.part?_mem_parts {field : Field} {owner : SyntaxKind} {part : String}
    (h : field.part? owner = some part) : part ∈ field.parts := by
  cases field with
  | name =>
    obtain rfl := Option.some.inj h
    by_cases howner : owner = .parameter <;> simp [parts, howner]
  | body | property =>
    obtain rfl := Option.some.inj h
    exact List.mem_singleton_self _
  | _ => cases h

/-- What stands in a restricted place of a construct comes from the place of the node that the
grammar calls so. -/
theorem Construct.Reads.holdsSite {origin : NodeId → Address} {base : Address} {node : Node}
    {construct : Construct} {field : Field} {child : NodeId} {part : String}
    (h : construct.Reads origin base node) (hfield : construct.field? field = some child)
    (hpart : field.part? construct.kind = some part) :
    HoldsSite origin base (some child) (node.fieldSite? part) := by
  cases field <;> cases construct <;>
    simp_all [Construct.field?, Construct.Reads, Field.part?, Construct.kind]

namespace SyntaxTree

theorem kind?_root (document : Document) : (ofDocument document).kind? root = some .program := by
  have hroot : (ofDocument document).nodes[root]? = some _ := (holdsFrom_ofDocument document).head
  simp [kind?, construct?, hroot, Shape.assemble, Construct.kind]

end SyntaxTree

namespace Concrete.Document

variable {document : Document} {part : Outline} {origin : Origin} {rest : List Origin}
  {above : Option NodeId} {place : Nat}

/-- A node has one of the kinds that the node it comes from can become, unless it is the root or has
been made up. -/
theorem Founds.exists_kind (h : document.Founds place part origin rest above)
    (hgrammar : document.FollowsGrammar) (hbare : origin.isBare = false)
    (hroot : place ≠ SyntaxTree.root) :
    ∃ node, document.root.at? (document.originOf place) = some node ∧
      ∃ kind ∈ Grammar.kindsOf node.kind,
        (SyntaxTree.ofDocument document).kind? place = some kind := by
  rw [h.originOf_eq]
  obtain ⟨hstems, horigins, hnodes, -⟩ := h
  cases hstems with
  | bareParameter => cases hbare
  | @node base node plan hplan =>
    have hnode : (SyntaxTree.ofDocument document).nodes[place]? = some _ := hnodes.head
    have hfills := fillsSites hplan.sits horigins.tail
      (fun place item hitem => Document.originOf_eq hitem)
    cases hplan with
    | root => exact absurd (eq_of_origins horigins.head rfl) hroot
    | inner hat =>
      have hsuits : (Plan.ofNode document.text node).shape.Suits ((Outline.slotPlaces (place + 1)
          ((Plan.ofNode document.text node).slots.map
            (Outline.ofSlot? document.text))).map (·.isSome)) := by
        rw [hfills.map_isSome, ← SitsAt.map_isFilled (Plan.sits_ofNode document.text node)]
        exact Plan.suits_ofNode document.text node
      exact ⟨node, hat, _, Plan.kinds_ofNode (hgrammar.at? hat) document.text
        (Shape.kind_assemble_mem node.kind hsuits),
        by simp [SyntaxTree.kind?, SyntaxTree.construct?, hnode]⟩

/-- A parameter is made up only around the node in the place `parameter`. -/
theorem Founds.isBare_eq_false (h : document.Founds place part origin rest above) {owner : NodeId}
    {node : Node} (hparent : (SyntaxTree.ofDocument document).parent? place = some owner)
    (hat : document.root.at? (document.originOf owner) = some node)
    (helse : ∀ site, node.fieldSite? "parameter" = some site →
      document.originOf place ≠ document.originOf owner ++ site) : origin.isBare = false := by
  cases hbare : origin.isBare with
  | false => rfl
  | true =>
    obtain ⟨-, -, function, inner, site, hfunction, hinner, -, hsite, hplace⟩ := h.isMadeUp hbare
    obtain rfl : owner = function := Option.some.inj (hparent.symm.trans hfunction)
    obtain rfl : node = inner := Option.some.inj (hat.symm.trans hinner)
    exact absurd hplace (helse site hsite)

end Concrete.Document

theorem Concrete.Node.fieldSite?_ne {node : Node} {first second : String} (hne : first ≠ second)
    {site other : Address} (hfirst : node.fieldSite? first = some site)
    (hsecond : node.fieldSite? second = some other) : site ≠ other :=
  ((Node.startsIn_of_fieldSite? hfirst).parts (Node.startsIn_of_fieldSite? hsecond)
    (Node.follows_ne hne)).ne

theorem Concrete.Node.exists_field? {node : Node} {name : String} {site : Address}
    (h : node.fieldSite? name = some site) :
    ∃ child, node.field? name = some child ∧ node.at? site = some child := by
  rcases node.fieldSite?_cases name with ⟨-, hnone⟩ | ⟨index, child, hfield, hsite, -, hat⟩
  · simp [hnone] at h
  · obtain rfl := Option.some.inj (hsite.symm.trans h)
    exact ⟨child, hfield, by simp [hat]⟩

/-- What stands in the place of a node that the grammar calls so can stand there. -/
theorem Concrete.Node.FollowsGrammar.kind_mem_allowed {node inner : Node} (h : node.FollowsGrammar)
    {field : Field} {kind : SyntaxKind} {part : String} (hkind : kind ∈ Grammar.kindsOf node.kind)
    (howner : kind ∈ field.owners) (hpart : field.part? kind = some part)
    (hinner : node.field? part = some inner) : inner.kind ∈ field.allowed := by
  obtain ⟨rule, hrule, hnode, rfl⟩ := Grammar.exists_rule hkind howner hpart
  have hparts : field.parts.contains rule.place = true := by
    simpa using Field.part?_mem_parts hpart
  exact List.mem_flatMap.mpr ⟨rule, List.mem_filter.mpr ⟨hrule, hparts⟩,
    h.occupied rule hrule hnode inner hinner⟩

namespace Concrete.Document

variable {document : Document}

/-- The node at the place `child` comes from one that the grammar allows in the field, and it has
not been made up for the node at the place `node`. -/
def Allows (document : Document) (node : NodeId) (field : Field) (child : NodeId) : Prop :=
  ∃ outer inner, document.root.at? (document.originOf node) = some outer ∧
    document.root.at? (document.originOf child) = some inner ∧ inner.kind ∈ field.allowed ∧
    ∀ site, outer.fieldSite? "parameter" = some site →
      document.originOf child ≠ document.originOf node ++ site

/-- The name in a parameter that has been made up is a name that can stand alone. -/
theorem IsMadeUp.allows {place name : NodeId} (h : document.IsMadeUp place name)
    (hgrammar : document.FollowsGrammar) : document.Allows place .name name := by
  obtain ⟨-, hsame, function, node, site, -, hat, -, hsite, horigin⟩ := h
  obtain ⟨inner, hinner, hatInner⟩ := Node.exists_field? hsite
  have hplace : document.root.at? (document.originOf place) = some inner := by
    simp [horigin, Node.at?_append, hat, hatInner]
  refine ⟨inner, inner, hplace, hsame ▸ hplace, Grammar.bareParameter_mem_allowed _
    ((hgrammar.at? hat).bareParameter inner hinner), fun other hother heq => ?_⟩
  -- the name comes from the same node as the parameter, not from one below it
  obtain ⟨index, -, rfl⟩ := Option.map_eq_some_iff.mp hother
  simp [hsame] at heq

/-- What stands in a restricted place of a node that has not been made up comes from the place of
its node. -/
theorem Founds.allows {part : Outline} {origin : Origin} {rest : List Origin}
    {above : Option NodeId} {node child : NodeId} {field : Field}
    (h : document.Founds node part origin rest above) (hgrammar : document.FollowsGrammar)
    (hbare : origin.isBare = false) {kinds : List SyntaxKind}
    (hfield : (SyntaxTree.ofDocument document).field? node field = some child)
    (hkinds : field.occupants? = some kinds) : document.Allows node field child := by
  obtain ⟨construct, hconstruct, hchild⟩ := Option.bind_eq_some_iff.mp hfield
  have howner := Construct.kind_mem_owners hchild
  have hkindAt : (SyntaxTree.ofDocument document).kind? node = some construct.kind := by
    simp [SyntaxTree.kind?, hconstruct]
  have hroot : node ≠ SyntaxTree.root := by
    rintro rfl
    rw [SyntaxTree.kind?_root] at hkindAt
    rw [← Option.some.inj hkindAt] at howner
    cases field <;> simp [Field.owners] at howner
  obtain ⟨name, hname⟩ : ∃ name, field.part? construct.kind = some name := by
    cases field <;> simp_all [Field.part?, Field.occupants?]
  obtain ⟨outer, hat, kind, hkind, hsame⟩ := h.exists_kind hgrammar hbare hroot
  obtain rfl := Option.some.inj (hkindAt.symm.trans hsame)
  obtain ⟨also, hatAlso, hreads⟩ := h.reads hconstruct hbare
  rw [← h.originOf_eq] at hatAlso hreads
  obtain rfl : outer = also := Option.some.inj (hat.symm.trans hatAlso)
  have hholds := hreads.holdsSite hchild hname
  cases hsite : outer.fieldSite? name with
  | none => simp [HoldsSite, hsite] at hholds
  | some site =>
    obtain ⟨inner, hinner, hatInner⟩ := Node.exists_field? hsite
    have horigin : document.originOf child = document.originOf node ++ site := by
      simpa [HoldsSite, hsite] using hholds
    refine ⟨outer, inner, hat, by simp [horigin, Node.at?_append, hat, hatInner],
      (hgrammar.at? hat).kind_mem_allowed hkind howner hname hinner, fun other hother heq => ?_⟩
    rw [horigin] at heq
    refine Node.fieldSite?_ne ?_ hsite hother (List.append_cancel_left heq)
    rintro rfl
    have := Field.part?_mem_parts hname
    cases field <;> simp [Field.parts] at this

end Concrete.Document

/-- **What stands in a restricted place** comes from a node that the grammar allows there, and has a
kind that such a node can become. -/
theorem SyntaxTree.exists_allowed {document : Document} (hgrammar : document.FollowsGrammar)
    {node child : NodeId} {field : Field} {kinds : List SyntaxKind}
    (hfield : (ofDocument document).field? node field = some child)
    (hkinds : field.occupants? = some kinds) :
    ∃ inner, document.root.at? (document.originOf child) = some inner ∧
      inner.kind ∈ field.allowed ∧
      ∃ kind ∈ Grammar.kindsOf inner.kind, (ofDocument document).kind? child = some kind := by
  have hlinked := linked_ofDocument document
  have hparent := hlinked.parent?_of_field? hfield
  have hroot : child ≠ root := by
    rintro rfl
    simp [hlinked.parent_root] at hparent
  obtain ⟨_, origin, _, _, hnode⟩ := Document.exists_founds (lt_size_of_field? hfield)
  obtain ⟨_, later, _, _, hchild⟩ := Document.exists_founds (lt_size_of_parent?_eq_some hparent)
  have hallows : document.Allows node field child := by
    cases hbare : origin.isBare with
    | false => exact hnode.allows hgrammar hbare hfield hkinds
    | true =>
      have hmade := hnode.isMadeUp hbare
      rw [field?, hmade.1, Option.bind_some] at hfield
      cases field with
      | name =>
        obtain rfl := Option.some.inj hfield
        exact hmade.allows hgrammar
      | _ => cases hfield
  obtain ⟨outer, inner, hat, hatInner, hallowed, helse⟩ := hallows
  obtain ⟨also, hatAlso, hkind⟩ :=
    hchild.exists_kind hgrammar (hchild.isBare_eq_false hparent hat helse) hroot
  obtain rfl : inner = also := Option.some.inj (hatInner.symm.trans hatAlso)
  exact ⟨inner, hatInner, hallowed, hkind⟩

namespace SyntaxTree

/-- **Named places keep to the tables but for some names**: in the syntax tree of a document that
follows the grammar, a node with a named place has one of the kinds that have it, and what stands
there has one of the kinds that can stand there, exactly if it is no name that the table of names
does not provide for. -/
theorem listed_of_followsGrammar (document : Document)
    (hgrammar : document.FollowsGrammar) (node : NodeId) (field : Field) (child : NodeId)
    (hfield : (ofDocument document).field? node field = some child) :
    (∃ kind ∈ field.owners, (ofDocument document).kind? node = some kind) ∧
      ∀ kinds, field.occupants? = some kinds →
        ∃ inner kind, document.root.at? (document.originOf child) = some inner ∧
          (ofDocument document).kind? child = some kind ∧
          (kind ∈ kinds ↔ ¬(field = .name ∧ inner.kind ∈ Grammar.unlistedNames)) := by
  constructor
  · obtain ⟨construct, hconstruct, hchild⟩ := Option.bind_eq_some_iff.mp hfield
    exact ⟨construct.kind, Construct.kind_mem_owners hchild, by simp [kind?, hconstruct]⟩
  · intro kinds hkinds
    obtain ⟨inner, hat, hallowed, kind, hkind, hkindAt⟩ := exists_allowed hgrammar hfield hkinds
    have hall : field ∈ Field.all := by cases field <;> decide
    exact ⟨inner, kind, hat, hkindAt,
      Grammar.listed_iff field hall kinds hkinds inner.kind hallowed kind hkind⟩

/-- The document `class A { 'x'() {} }`. -/
def stringNamed : Document where
  text := "class A \x7b \x27x\x27() \x7b\x7d \x7d"
  dialect := .typeScript
  root :=
    .named "program" 0 20 none
      [.named "class_declaration" 0 20 none
        [.token "class" 0 5, .named "type_identifier" 6 7 (some "name") [],
          .named "class_body" 8 20 (some "body")
            [.token "\x7b" 8 9,
              .named "method_definition" 10 18 none
                [.named "string" 10 13 (some "name")
                    [.token "\x27" 10 11, .named "string_fragment" 11 12 none [],
                      .token "\x27" 12 13],
                  .named "formal_parameters" 13 15 (some "parameters") [.token "(" 13 14,
                    .token ")" 14 15],
                  .named "statement_block" 16 18 (some "body") [.token "\x7b" 16 17,
                    .token "\x7d" 17 18]],
              .token "\x7d" 19 20]]]

/-- The name of the method comes from a node that the grammar allows there, and whether its kind is
listed depends on that node. -/
theorem listed_of_followsGrammar_stringNamed :
    let tree := ofDocument stringNamed
    stringNamed.FollowsGrammar ∧ tree.field? 3 .name = some 4 ∧
      (∃ kind ∈ Field.name.owners, tree.kind? 3 = some kind) ∧
      ∃ inner kind, stringNamed.root.at? (stringNamed.originOf 4) = some inner ∧
        tree.kind? 4 = some kind ∧
        (kind ∈ [SyntaxKind.identifier, .other] ↔
          ¬(Field.name = .name ∧ inner.kind ∈ Grammar.unlistedNames)) := by
  intro tree
  have hgrammar : stringNamed.FollowsGrammar := by decide +kernel
  have hfield : tree.field? 3 .name = some 4 := by decide +kernel
  obtain ⟨howner, hoccupant⟩ := listed_of_followsGrammar stringNamed hgrammar 3 .name 4 hfield
  exact ⟨hgrammar, hfield, howner, hoccupant _ rfl⟩

/-- **A name that is not listed.** The document follows the grammar, and the name of the method is a
literal. So a selector for such names matches the method, and still it makes no pattern. -/
theorem not_hasListedOccupants_stringNamed :
    let tree := ofDocument stringNamed
    let named := Selector.field .name (.kind .literal)
    stringNamed.FollowsGrammar ∧ tree.field? 3 .name = some 4 ∧ tree.kind? 4 = some .literal ∧
      ¬tree.HasListedOccupants ∧ named.selects tree 0 3 = true ∧
      Pattern.ofSelector named = .error (.unsatisfiable "[Name: Literal]") := by
  refine ⟨?_, ?_, ?_, ?_, ?_, rfl⟩ <;> decide +kernel

end SyntaxTree

end StreamLint
