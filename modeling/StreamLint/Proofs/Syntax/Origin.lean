import StreamLint.Proofs.Syntax.Sites
/-!
# Where the nodes of a syntax tree come from

Every node of a syntax tree comes from a node of the concrete tree, and the recursion that makes the
outline of a document also lists the addresses of those nodes, in the order of the places
(`StreamLint.Concrete.Document.origins`). A parameter that is made up around a name comes from the
node of the name; the list marks it.

* An origin that stands earlier in the list is above a later one, or the two part; so no two nodes
  come from the same one, the parameters that are made up apart (`StreamLint.pairwise_origins`).
* The list fits the places of the nodes: `StreamLint.Outline.IsAt.exists_stems`.
-/

namespace StreamLint

open Concrete (Node Address Document)

/-- Where a node of a syntax tree comes from. -/
structure Origin where
  /-- The address of its node. -/
  address : Address
  /-- Whether the node is a parameter made up around the one at the address. -/
  isBare : Bool
  deriving DecidableEq, Repr, Inhabited

/-! ### The list of origins -/

namespace Outline

/-- The origins of the nodes of the outline of a node, which is at the address `base`. -/
def originsOf (source : String) (base : Address) (node : Node) : List Origin :=
  let plan := Plan.ofNode source node
  ⟨base, false⟩ :: (plan.slots.attach.zip (plan.shape.sites node)).flatMap
    fun (⟨slot, _⟩, site) =>
      match slot, site with
      | .filled child, some site => originsOf source (base ++ site) child
      | .bareParameter name, some site =>
        ⟨base ++ site, true⟩ :: originsOf source (base ++ site) name
      | _, _ => []
  termination_by sizeOf node
  decreasing_by
    all_goals exact Plan.inward_ofNode source node _ (by assumption) _ rfl

/-- The origins of the nodes of what fills a slot. -/
def slotOrigins (source : String) (base : Address) : Slot → Option Address → List Origin
  | .filled child, some site => originsOf source (base ++ site) child
  | .bareParameter name, some site =>
    ⟨base ++ site, true⟩ :: originsOf source (base ++ site) name
  | _, _ => []

/-- The origins of the nodes of what fills several slots. -/
def slotsOrigins (source : String) (base : Address) (slots : List Slot)
    (sites : List (Option Address)) : List Origin :=
  (slots.zip sites).flatMap fun (slot, site) => slotOrigins source base slot site

theorem originsOf_eq (source : String) (base : Address) (node : Node) :
    originsOf source base node =
      ⟨base, false⟩ :: slotsOrigins source base (Plan.ofNode source node).slots
        ((Plan.ofNode source node).shape.sites node) := by
  rw [originsOf, slotsOrigins]
  congr 1
  conv_rhs => rw [← List.attach_map_subtype_val (Plan.ofNode source node).slots, List.zip_map_left,
    List.flatMap_map]
  refine List.flatMap_congr fun ⟨⟨slot, _⟩, site⟩ _ => ?_
  cases slot <;> cases site <;> rfl

@[simp]
theorem slotsOrigins_cons (source : String) (base : Address) (slot : Slot)
    (site : Option Address) (slots : List Slot) (sites : List (Option Address)) :
    slotsOrigins source base (slot :: slots) (site :: sites) =
      slotOrigins source base slot site ++ slotsOrigins source base slots sites :=
  rfl

/-- An outline has as many nodes as there are origins, given the same for what is in its slots. -/
theorem length_slotsOrigins (source : String) (base : Address) {node : Node} {slots : List Slot}
    {sites : List (Option Address)} (h : SitsAt node slots sites)
    (hinner : ∀ slot ∈ slots, ∀ child, slot.node? = some child → ∀ base,
      (originsOf source base child).length = (ofNode source child).size) :
    (slotsOrigins source base slots sites).length = slotsSize (slots.map (ofSlot? source)) := by
  induction h with
  | nil => rfl
  | cons hslot hrest ih =>
    rw [slotsOrigins_cons, List.length_append, ih fun slot hmem => hinner slot (by simp [hmem])]
    cases hslot with
    | absent => simp [slotOrigins, ofSlot?, slotsSize]
    | @filled child site h =>
      have hchild := hinner (.filled child) (by simp) child rfl (base ++ site)
      simp [slotOrigins, ofSlot?, slotsSize, hchild]
    | @bareParameter name site h =>
      have hname := hinner (.bareParameter name) (by simp) name rfl (base ++ site)
      simp [slotOrigins, ofSlot?, bareParameter, slotsSize, size, hname]

theorem length_originsOf (source : String) (base : Address) (node : Node) :
    (originsOf source base node).length = (ofNode source node).size := by
  have hslots := length_slotsOrigins source base (Plan.sits_ofNode source node)
    fun slot hslot child hchild inside =>
      have := Plan.inward_ofNode source node slot hslot child hchild
      length_originsOf source inside child
  rw [originsOf_eq, ofNode_eq, size, List.length_cons, hslots]
  termination_by sizeOf node

theorem length_slotOrigins {source : String} {base : Address} {node : Node} {slot : Slot}
    {site : Option Address} (h : slot.IsAt node site) :
    (slotOrigins source base slot site).length = ((ofSlot? source slot).map size).getD 0 := by
  cases h with
  | absent => rfl
  | filled h => simp [slotOrigins, ofSlot?, length_originsOf]
  | bareParameter h =>
    simp [slotOrigins, ofSlot?, bareParameter, size, slotsSize, length_originsOf]

end Outline

/-! ### Origins in the order of places -/

/-- The first origin is above the second one, or they part; a parameter that is made up around a
name comes before the name. -/
def Origin.Before (r : Nat → Nat → Prop) (first second : Origin) : Prop :=
  first.address.Parts r second.address ∨ first.address <+: second.address ∧
    (first.address = second.address → first.isBare = true ∧ second.isBare = false)

namespace Outline

variable (source : String) (base : Address)

theorem address_of_mem_slotsOrigins {node : Node} {slots : List Slot}
    {sites : List (Option Address)} (h : SitsAt node slots sites)
    (hinner : ∀ slot ∈ slots, ∀ child, slot.node? = some child → ∀ base,
      ∀ origin ∈ originsOf source base child, base <+: origin.address) :
    ∀ origin ∈ slotsOrigins source base slots sites,
      ∃ site, some site ∈ sites ∧ base ++ site <+: origin.address := by
  induction h with
  | nil => simp [slotsOrigins]
  | cons hslot hrest ih =>
    intro origin horigin
    rw [slotsOrigins_cons] at horigin
    rcases List.mem_append.mp horigin with hfirst | hmore
    · cases hslot with
      | absent => simp [slotOrigins] at hfirst
      | @filled child site h =>
        exact ⟨site, by simp, hinner (.filled child) (by simp) child rfl _ origin hfirst⟩
      | @bareParameter name site h =>
        rcases List.mem_cons.mp hfirst with rfl | hfirst
        · exact ⟨site, by simp, List.prefix_rfl⟩
        · exact ⟨site, by simp, hinner (.bareParameter name) (by simp) name rfl _ origin hfirst⟩
    · obtain ⟨site, hsite, habove⟩ := ih (fun slot hmem => hinner slot (by simp [hmem])) origin
        hmore
      exact ⟨site, by simp [hsite], habove⟩

/-- Origins are at the address of the outline, or below it. -/
theorem address_of_mem_originsOf (node : Node) :
    ∀ base, ∀ origin ∈ originsOf source base node, base <+: origin.address := by
  intro base origin horigin
  rw [originsOf_eq] at horigin
  rcases List.mem_cons.mp horigin with rfl | horigin
  · exact List.prefix_rfl
  · obtain ⟨site, -, habove⟩ := address_of_mem_slotsOrigins source base
      (Plan.sits_ofNode source node) (fun slot hslot child hchild =>
        have := Plan.inward_ofNode source node slot hslot child hchild
        address_of_mem_originsOf child) origin horigin
    exact (List.prefix_append base site).trans habove
  termination_by sizeOf node

variable {source} {base}

/-- A site is below the node: what fills a slot is smaller than the node. -/
theorem ne_nil_of_mem_sites {node : Node} {slots : List Slot} {sites : List (Option Address)}
    (h : SitsAt node slots sites) (hinward : ∀ slot ∈ slots, slot.Inside node) {site : Address}
    (hsite : some site ∈ sites) : site ≠ [] := by
  rintro rfl
  induction h with
  | nil => simp at hsite
  | cons hslot hrest ih =>
    rcases List.mem_cons.mp hsite with rfl | hsite
    · cases hslot with
      | filled h =>
        obtain rfl := Option.some.inj h
        exact Nat.lt_irrefl _ (hinward _ List.mem_cons_self _ rfl)
      | bareParameter h =>
        obtain rfl := Option.some.inj h
        exact Nat.lt_irrefl _ (hinward _ List.mem_cons_self _ rfl)
    · exact ih (fun slot hmem => hinward slot (List.mem_cons_of_mem _ hmem)) hsite

/-- Only the first origin of an outline is at its address. -/
theorem address_ne_of_mem_slotsOrigins {node : Node} {slots : List Slot}
    {sites : List (Option Address)} (h : SitsAt node slots sites)
    (hinward : ∀ slot ∈ slots, slot.Inside node) {origin : Origin}
    (horigin : origin ∈ slotsOrigins source base slots sites) :
    base <+: origin.address ∧ base ≠ origin.address := by
  obtain ⟨site, hsite, habove⟩ :=
    address_of_mem_slotsOrigins source base h (fun _ _ child _ => address_of_mem_originsOf source child) origin horigin
  refine ⟨(List.prefix_append base site).trans habove, fun heq => ?_⟩
  have hlength := habove.length_le
  rw [← heq, List.length_append] at hlength
  exact ne_nil_of_mem_sites h hinward hsite (List.length_eq_zero_iff.mp (by omega))

theorem eq_of_mem_originsOf {node : Node} {origin : Origin}
    (h : origin ∈ originsOf source base node) (haddress : base = origin.address) :
    origin = ⟨base, false⟩ := by
  rw [originsOf_eq] at h
  rcases List.mem_cons.mp h with rfl | h
  · rfl
  · exact absurd haddress (address_ne_of_mem_slotsOrigins (Plan.sits_ofNode source node)
      (Plan.inward_ofNode source node) h).2

section

variable {r : Nat → Nat → Prop}

/-- The node itself, and then what is in its slots. -/
theorem before_slotsOrigins {node : Node} {slots : List Slot} {sites : List (Option Address)}
    (h : SitsAt node slots sites) (hinward : ∀ slot ∈ slots, slot.Inside node) :
    ∀ origin ∈ slotsOrigins source base slots sites, Origin.Before r ⟨base, false⟩ origin := by
  intro origin horigin
  obtain ⟨habove, hne⟩ := address_ne_of_mem_slotsOrigins h hinward horigin
  exact .inr ⟨habove, fun heq => absurd heq hne⟩

/-- The origins in the slots of a node, given the same for every slot. -/
theorem pairwise_slotsOrigins {node : Node} {slots : List Slot} {sites : List (Option Address)}
    (h : SitsAt node slots sites) (hsites : (sites.filterMap id).Pairwise (Address.Parts r))
    (hinner : ∀ slot ∈ slots, ∀ child, slot.node? = some child → ∀ site,
      node.at? site = some child → (originsOf source (base ++ site) child).Pairwise
        (Origin.Before r)) :
    (slotsOrigins source base slots sites).Pairwise (Origin.Before r) := by
  induction h with
  | nil => exact .nil
  | cons hslot hrest ih =>
    have hmore := fun hsites => ih hsites fun slot hmem => hinner slot (List.mem_cons_of_mem _ hmem)
    -- what is in one slot parts from what is in those after it
    have hapart : ∀ site other, Address.Parts r site other → ∀ first later : Origin,
        base ++ site <+: first.address → base ++ other <+: later.address → first.Before r later :=
      fun site other hparts first later hfirst hlater =>
        .inl ((hparts.append base).of_below hfirst hlater)
    have hlater := address_of_mem_slotsOrigins source base hrest
      fun _ _ child _ => address_of_mem_originsOf source child
    rw [slotsOrigins_cons]
    cases hslot with
    | absent => exact hmore (by simpa using hsites)
    | @filled child site h =>
      obtain ⟨hfirst, hsites⟩ := List.pairwise_cons.mp hsites
      refine List.pairwise_append.mpr ⟨hinner _ List.mem_cons_self child rfl site h, hmore hsites,
        fun first hmem later hlate => ?_⟩
      obtain ⟨other, hother, habove⟩ := hlater later hlate
      exact hapart site other (hfirst other (by simpa using hother)) first later
        (address_of_mem_originsOf source child _ first hmem) habove
    | @bareParameter name site h =>
      obtain ⟨hfirst, hsites⟩ := List.pairwise_cons.mp hsites
      have hbelow := address_of_mem_originsOf source name (base ++ site)
      refine List.pairwise_append.mpr ⟨List.pairwise_cons.mpr ⟨fun origin horigin => ?_,
        hinner _ List.mem_cons_self name rfl site h⟩, hmore hsites, fun first hmem later hlate => ?_⟩
      · exact .inr ⟨hbelow origin horigin, fun heq =>
          ⟨rfl, by rw [eq_of_mem_originsOf horigin heq]⟩⟩
      · obtain ⟨other, hother, habove⟩ := hlater later hlate
        refine hapart site other (hfirst other (by simpa using hother)) first later ?_ habove
        rcases List.mem_cons.mp hmem with rfl | hmem
        · exact List.prefix_rfl
        · exact hbelow first hmem

/-- **The origins of the nodes of an outline** come one before the other. -/
theorem pairwise_originsOf (hr : ∀ i j, i < j → r i j) {root : Node}
    (hfields : ∀ base node, root.at? base = some node →
      ((Plan.ofNode source node).shape.fields node).Pairwise (node.Follows r)) (base : Address)
    (node : Node) (hat : root.at? base = some node) :
    (originsOf source base node).Pairwise (Origin.Before r) := by
  have hsits := Plan.sits_ofNode source node
  have hinward := Plan.inward_ofNode source node
  rw [originsOf_eq]
  refine List.pairwise_cons.mpr ⟨before_slotsOrigins hsits hinward, ?_⟩
  refine pairwise_slotsOrigins hsits (Shape.pairwise_sites hr (hfields base node hat))
    fun slot hslot child hchild site hsite => ?_
  have := hinward slot hslot child hchild
  exact pairwise_originsOf hr hfields (base ++ site) child (by simp [Node.at?_append, hat, hsite])
  termination_by sizeOf node

end

end Outline

/-! ### The origins of a document -/

namespace Concrete.Document

variable (document : Document)

/-- The plan of a node at an address: the root is a program whatever the grammar calls it. -/
inductive HasPlan : Address → Node → Plan → Prop where
  /-- The root. -/
  | root : HasPlan [] document.root ⟨.program, Slot.ofAll document.root⟩
  /-- A node below it. -/
  | inner {base : Address} {node : Node} (h : document.root.at? base = some node) :
    HasPlan base node (Plan.ofNode document.text node)

/-- Where the nodes of the syntax tree of a document come from, in the order of their places. -/
def origins : List Origin :=
  ⟨[], false⟩ :: Outline.slotsOrigins document.text [] (Slot.ofAll document.root)
    (document.root.partSites.map some)

/-- The fields of every node come in the order in which the grammar has them. -/
def InGrammarOrder : Prop :=
  ∀ base node, document.root.at? base = some node →
    ((Plan.ofNode document.text node).shape.fields node).Pairwise (node.Follows (· < ·))

variable {document}

theorem HasPlan.at?_eq {base : Address} {node : Node} {plan : Plan}
    (h : document.HasPlan base node plan) : document.root.at? base = some node := by
  cases h with
  | root => rfl
  | inner h => exact h

theorem HasPlan.sits {base : Address} {node : Node} {plan : Plan}
    (h : document.HasPlan base node plan) : plan.Sits node := by
  cases h with
  | root => exact SitsAt.ofAll document.root
  | inner h => exact Plan.sits_ofNode document.text node

theorem HasPlan.inward {base : Address} {node : Node} {plan : Plan}
    (h : document.HasPlan base node plan) : Plan.Inward node plan := by
  cases h with
  | root => exact Plan.inward_ofAll document.root .program
  | inner h => exact Plan.inward_ofNode document.text node

/-- **The origins of the nodes of a document** come one before the other. -/
theorem pairwise_origins {r : Nat → Nat → Prop} (hr : ∀ i j, i < j → r i j)
    (hfields : ∀ base node, document.root.at? base = some node →
      ((Plan.ofNode document.text node).shape.fields node).Pairwise (node.Follows r)) :
    document.origins.Pairwise (Origin.Before r) := by
  have hparts : ((document.root.partSites.map some).filterMap id).Pairwise (Address.Parts r) := by
    rw [filterMap_id_map_some]
    exact Node.pairwise_partSites hr document.root
  exact List.pairwise_cons.mpr
    ⟨Outline.before_slotsOrigins (SitsAt.ofAll document.root) (Plan.inward_ofAll document.root .program),
      Outline.pairwise_slotsOrigins (SitsAt.ofAll document.root) hparts fun _ _ child _ site hsite =>
        Outline.pairwise_originsOf hr hfields site child hsite⟩

end Concrete.Document

end StreamLint
