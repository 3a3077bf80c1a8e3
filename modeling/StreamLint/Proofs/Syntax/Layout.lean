import StreamLint.Proofs.Syntax.Order
/-!
# Where the nodes of an outline end up

Placing an outline threads an array through a recursion. This file says what comes out without the
array: the root of an outline gets the first free place, and the outlines in its slots get the
places after it, slot after slot (`StreamLint.Outline.entries`, `StreamLint.Outline.slotPlaces`).
So every part of an outline has a place of its own, `StreamLint.Outline.IsAt`, from which on its
nodes stand without a gap, and no place is left over (`StreamLint.Outline.exists_isAt`).

A construct keeps what is in its slots as its children, unless it is a type assertion with several
expressions (`StreamLint.Shape.children_assemble`). Where all parts keep their slots, the walk from
the root meets the places in their order, one by one (`StreamLint.SyntaxTree.walk_entries`).
-/

namespace StreamLint

/-- What is looked up from the place `first` on are the items of the list. -/
def HoldsFrom {α : Type} (look : Nat → Option α) (first : Nat) (items : List α) : Prop :=
  ∀ (count : Nat) (item : α), items[count]? = some item → look (first + count) = some item

namespace HoldsFrom

variable {α : Type} {look : Nat → Option α} {first : Nat} {items more : List α} {item : α}

theorem left (h : HoldsFrom look first (items ++ more)) : HoldsFrom look first items := by
  intro count item hitem
  have hlt : count < items.length := (List.getElem?_eq_some_iff.mp hitem).1
  exact h count item (by rwa [List.getElem?_append_left hlt])

theorem right (h : HoldsFrom look first (items ++ more)) :
    HoldsFrom look (first + items.length) more := by
  intro count item hitem
  rw [Nat.add_assoc]
  exact h _ item (by rwa [List.getElem?_append_right (by omega), Nat.add_sub_cancel_left])

theorem head (h : HoldsFrom look first (item :: more)) : look first = some item :=
  h 0 item rfl

theorem tail (h : HoldsFrom look first (item :: more)) : HoldsFrom look (first + 1) more := by
  rw [← List.singleton_append] at h
  exact h.right

end HoldsFrom

namespace Outline

/-- The shape of the root of an outline. -/
def shape : Outline → Shape
  | .mk _ _ shape _ => shape

/-- The slots of the root of an outline. -/
def slots : Outline → List (Option Outline)
  | .mk _ _ _ slots => slots

/-! ### Places in closed form -/

mutual

/-- The number of nodes of an outline. -/
def size : Outline → Nat
  | .mk _ _ _ slots => slotsSize slots + 1

/-- The number of nodes of the outlines in several slots. -/
def slotsSize : List (Option Outline) → Nat
  | [] => 0
  | none :: rest => slotsSize rest
  | some outline :: rest => size outline + slotsSize rest

end

/-- Where the nodes in the slots of a node are put if the first free place is `next`. -/
def slotPlaces (next : Nat) : List (Option Outline) → List (Option NodeId)
  | [] => []
  | none :: rest => none :: slotPlaces next rest
  | some outline :: rest => some next :: slotPlaces (next + outline.size) rest

/-- A slot takes as many places as what is in it has nodes. -/
theorem slotPlaces_cons (next : Nat) (slot : Option Outline) (rest : List (Option Outline)) :
    slotPlaces next (slot :: rest) =
      slot.map (fun _ => next) :: slotPlaces (next + (slot.map size).getD 0) rest := by
  cases slot <;> rfl

mutual

/-- The nodes that an outline becomes, from the place `first` on. -/
def entries (parent : Option NodeId) (first : Nat) : Outline → List SyntaxNode
  | .mk label span shape slots =>
    ⟨shape.assemble label (slotPlaces (first + 1) slots), span, parent⟩
      :: slotEntries first (first + 1) slots

/-- The nodes that the outlines in the slots of a node become, from the place `next` on. -/
def slotEntries (parent next : Nat) : List (Option Outline) → List SyntaxNode
  | [] => []
  | none :: rest => slotEntries parent next rest
  | some outline :: rest =>
    entries (some parent) next outline ++ slotEntries parent (next + outline.size) rest

end

mutual

@[simp]
theorem length_entries (parent : Option NodeId) (first : Nat) :
    (outline : Outline) → (outline.entries parent first).length = outline.size
  | .mk label span shape slots => by
    simp [entries, size, length_slotEntries first (first + 1) slots]

@[simp]
theorem length_slotEntries (parent next : Nat) :
    (slots : List (Option Outline)) →
      (slotEntries parent next slots).length = slotsSize slots
  | [] => rfl
  | none :: rest => length_slotEntries parent next rest
  | some outline :: rest => by
    simp [slotEntries, slotsSize, length_entries (some parent) next outline,
      length_slotEntries parent _ rest]

end

theorem size_pos : (outline : Outline) → 0 < outline.size
  | .mk .. => Nat.succ_pos _

@[simp]
theorem map_isSome_slotPlaces (next : Nat) (slots : List (Option Outline)) :
    (slotPlaces next slots).map (·.isSome) = slots.map (·.isSome) := by
  induction slots generalizing next with
  | nil => rfl
  | cons slot rest ih => cases slot <;> simp [slotPlaces, ih]

mutual

/-- **Placing an outline** appends its nodes. -/
theorem place_eq (parent : Option NodeId) (nodes : Array SyntaxNode) :
    (outline : Outline) →
      place parent nodes outline = nodes ++ (outline.entries parent nodes.size).toArray
  | .mk label span shape slots => by
    have hslots := placeSlots_eq nodes.size (nodes.push ⟨.other label [], span, parent⟩) slots
    rw [Array.size_push] at hslots
    simp only [place, hslots, entries]
    -- the place that was kept free is the one after the old nodes
    apply Array.toList_inj.mp
    simp

/-- Placing the outlines in the slots of a node appends their nodes. -/
theorem placeSlots_eq (parent : Nat) (nodes : Array SyntaxNode) :
    (slots : List (Option Outline)) →
      placeSlots parent nodes slots =
        (nodes ++ (slotEntries parent nodes.size slots).toArray, slotPlaces nodes.size slots)
  | [] => by simp [placeSlots, slotEntries, slotPlaces]
  | none :: rest => by
    simp [placeSlots, slotEntries, slotPlaces, placeSlots_eq parent nodes rest]
  | some outline :: rest => by
    have hfirst := place_eq (some parent) nodes outline
    have hrest := placeSlots_eq parent (place (some parent) nodes outline) rest
    rw [hfirst] at hrest
    simp only [placeSlots, hfirst, hrest, slotEntries, slotPlaces]
    simp

end

/-! ### Parts and their places -/

/-- A part of an outline that is placed from zero on, and the place of its root. -/
inductive IsAt (whole : Outline) : Nat → Outline → Prop where
  /-- The outline itself. -/
  | self : IsAt whole 0 whole
  /-- What is in a slot of a part. -/
  | slot {place next : Nat} {outer inner : Outline} (h : IsAt whole place outer)
    (hslot : (some next, some inner) ∈ (slotPlaces (place + 1) outer.slots).zip outer.slots) :
    IsAt whole next inner

/-- What is in a slot has a place. -/
theorem exists_mem_zip_slotPlaces {next : Nat} {slots : List (Option Outline)} {inner : Outline}
    (h : some inner ∈ slots) :
    ∃ place, (some place, some inner) ∈ (slotPlaces next slots).zip slots := by
  induction slots generalizing next with
  | nil => simp at h
  | cons slot rest ih =>
    rcases List.mem_cons.mp h with rfl | hrest
    · exact ⟨next, by simp [slotPlaces]⟩
    · cases slot with
      | none =>
        obtain ⟨place, hplace⟩ := ih hrest
        exact ⟨place, List.mem_cons_of_mem _ hplace⟩
      | some outline =>
        obtain ⟨place, hplace⟩ := ih hrest
        exact ⟨place, List.mem_cons_of_mem _ hplace⟩

/-- The nodes of what is in a slot stand together. -/
theorem holdsFrom_of_slot {look : Nat → Option SyntaxNode} {parent next place : Nat}
    {slots : List (Option Outline)} {inner : Outline}
    (h : HoldsFrom look next (slotEntries parent next slots))
    (hslot : (some place, some inner) ∈ (slotPlaces next slots).zip slots) :
    HoldsFrom look place (inner.entries (some parent) place) := by
  induction slots generalizing next with
  | nil => simp [slotPlaces] at hslot
  | cons slot rest ih =>
    cases slot with
    | none => exact ih h (by simpa [slotPlaces] using hslot)
    | some outline =>
      simp only [slotPlaces, List.zip_cons_cons, List.mem_cons, Prod.mk.injEq,
        Option.some.injEq] at hslot
      rcases hslot with ⟨rfl, rfl⟩ | hslot
      · exact h.left
      · exact ih (by simpa using h.right) hslot

/-- **The nodes of a part stand together**, from its place on. -/
theorem IsAt.exists_holdsFrom {look : Nat → Option SyntaxNode} {whole part : Outline} {place : Nat}
    (h : whole.IsAt place part) (hwhole : HoldsFrom look 0 (whole.entries none 0)) :
    ∃ above, HoldsFrom look place (part.entries above place) := by
  induction h with
  | self => exact ⟨none, hwhole⟩
  | @slot _ _ outer _ h hslot ih =>
    obtain ⟨above, ih⟩ := ih
    cases outer
    exact ⟨_, holdsFrom_of_slot ih.tail hslot⟩

-- The recursion finds the part: it is the outline itself, or lies in one of the slots.
mutual

theorem IsAt.exists_isAt {whole : Outline} {first place : Nat} (hle : first ≤ place) :
    (outline : Outline) → whole.IsAt first outline → place < first + outline.size →
      ∃ part, whole.IsAt place part
  | .mk label span shape slots, h, hlt => by
    rcases Nat.eq_or_lt_of_le hle with rfl | hgt
    · exact ⟨_, h⟩
    · exact exists_isAt_slots hgt slots (fun _ _ hslot => h.slot hslot)
        (by simp only [size] at hlt; omega)

theorem exists_isAt_slots {whole : Outline} {next place : Nat} (hle : next ≤ place) :
    (slots : List (Option Outline)) →
      (∀ first inner, (some first, some inner) ∈ (slotPlaces next slots).zip slots →
        whole.IsAt first inner) →
      place < next + slotsSize slots → ∃ part, whole.IsAt place part
  | [], _, hlt => by simp only [slotsSize] at hlt; omega
  | none :: rest, h, hlt =>
    exists_isAt_slots hle rest
      (fun first inner hslot => h first inner (List.mem_cons_of_mem _ hslot)) hlt
  | some outline :: rest, h, hlt => by
    rcases Nat.lt_or_ge place (next + outline.size) with hbefore | hafter
    · exact IsAt.exists_isAt hle outline (h next outline (by simp [slotPlaces])) hbefore
    · exact exists_isAt_slots hafter rest
        (fun first inner hslot => h first inner (List.mem_cons_of_mem _ hslot))
        (by simp only [slotsSize] at hlt; omega)

end

/-- **No place is left over**: every place has a part. -/
theorem exists_isAt {whole : Outline} {place : Nat} (h : place < whole.size) :
    ∃ part, whole.IsAt place part :=
  IsAt.exists_isAt (Nat.zero_le _) whole .self (by omega)

end Outline

/-! ### Slots that are kept -/

/-- The slots are as many as the shape expects, and those are filled that must not be empty; the
list says of every slot whether it is filled. -/
def Shape.Suits : Shape → List Bool → Prop
  | .returnStatement, filled => filled.length ≤ 1
  | .function _ params _, filled => filled.length = params + 2
  | .functionExpression params _, filled => filled.length = params + 1
  | .identifier _, filled | .this, filled | .literal _, filled => filled = []
  | .expressionStatement, filled | .parenthesized, filled | .nonNull, filled | .await, filled
  | .spread, filled | .typeAlias .., filled => filled = [true]
  | .declarator _, filled | .parameter .., filled | .property _, filled =>
    ∃ rest, filled = true :: rest ∧ rest.length ≤ 1
  | .method params _, filled => ∃ rest, filled = true :: rest ∧ rest.length = params + 1
  | .interfaceDeclaration .., filled | .call, filled | .newExpression _, filled =>
    ∃ rest, filled = true :: rest
  | .member, filled | .index, filled | .assignment, filled => filled = [true, true]
  | _, _ => True

/-- At most one of the slots is filled if the shape is that of a type assertion. -/
def Shape.KeepsSlots (shape : Shape) (filled : List Bool) : Prop :=
  ∀ declared, shape = .assertion declared → filled.count true < 2

theorem count_map_isSome {α : Type*} (slots : List (Option α)) :
    (slots.map (·.isSome)).count true = (slots.filterMap id).length := by
  induction slots with
  | nil => rfl
  | cons slot rest ih => cases slot <;> simp [ih]

theorem toList_firstSlot {slots : List (Option NodeId)} (h : slots.length ≤ 1) :
    (firstSlot slots).toList = slots.filterMap id := by
  match slots, h with
  | [], _ => rfl
  | [none], _ | [some _], _ => rfl

/-- A number of slots and the one slot after them. -/
theorem take_append_firstSlot {slots : List (Option NodeId)} {count : Nat}
    (h : slots.length = count + 1) :
    (slots.take count).filterMap id ++ (firstSlot (slots.drop count)).toList =
      slots.filterMap id := by
  rw [toList_firstSlot (by simp [h]), ← List.filterMap_append, List.take_append_drop]

theorem map_isSome_eq_nil {slots : List (Option NodeId)} (h : slots.map (·.isSome) = []) :
    slots = [] :=
  List.map_eq_nil_iff.mp h

theorem map_isSome_eq_cons {slots : List (Option NodeId)} {filled : List Bool}
    (h : slots.map (·.isSome) = true :: filled) :
    ∃ place rest, slots = some place :: rest ∧ rest.map (·.isSome) = filled := by
  obtain ⟨slot, rest, rfl, hslot, hrest⟩ := List.map_eq_cons_iff.mp h
  obtain ⟨place, rfl⟩ := Option.isSome_iff_exists.mp hslot
  exact ⟨place, rest, rfl, hrest⟩

theorem map_isSome_eq_singleton {slots : List (Option NodeId)}
    (h : slots.map (·.isSome) = [true]) : ∃ place, slots = [some place] := by
  obtain ⟨place, rest, rfl, hrest⟩ := map_isSome_eq_cons h
  exact ⟨place, by rw [map_isSome_eq_nil hrest]⟩

/-- **A construct keeps its slots**: its children are the places in all of them, unless it is a
type assertion with several expressions. -/
theorem Shape.children_assemble {label : String} {shape : Shape} {slots : List (Option NodeId)}
    (h : shape.Suits (slots.map (·.isSome))) (hkeeps : shape.KeepsSlots (slots.map (·.isSome))) :
    (shape.assemble label slots).children = slots.filterMap id := by
  cases shape with
  | returnStatement => exact toList_firstSlot (by simpa [Suits] using h)
  | function typeParameters params returnType =>
    have hlength : slots.length = params + 2 := by simpa [Suits] using h
    obtain ⟨name, rest, rfl⟩ := List.exists_cons_of_length_eq_add_one hlength
    have hrest : rest.length = params + 1 := by simpa using hlength
    have hkept := take_append_firstSlot hrest
    cases name <;> simp_all [assemble, Construct.children, firstSlot]
  | functionExpression params returnType =>
    exact take_append_firstSlot (by simpa [Suits] using h)
  | classDeclaration =>
    rcases slots with _ | ⟨_ | name, rest⟩ <;> simp [assemble, Construct.children, firstSlot]
  | assertion declared =>
    have hfew := hkeeps declared rfl
    rw [count_map_isSome] at hfew
    simp only [assemble]
    generalize slots.filterMap id = places at hfew ⊢
    rcases places with _ | ⟨place, _ | ⟨other, rest⟩⟩
    · cases declared <;> rfl
    · cases declared <;> rfl
    · simp only [List.length_cons] at hfew
      omega
  | expressionStatement | parenthesized | nonNull | await | spread | typeAlias =>
    obtain ⟨place, rfl⟩ := map_isSome_eq_singleton h
    rfl
  | declarator | parameter | property =>
    obtain ⟨filled, h, hlength⟩ := h
    obtain ⟨place, rest, rfl, rfl⟩ := map_isSome_eq_cons h
    have hlast : (firstSlot rest).toList = _ := toList_firstSlot (by simpa using hlength)
    simp [assemble, Construct.children, hlast]
  | method params returnType =>
    obtain ⟨filled, h, hlength⟩ := h
    obtain ⟨place, rest, rfl, rfl⟩ := map_isSome_eq_cons h
    have hkept : (rest.take params).filterMap id ++ _ = _ :=
      take_append_firstSlot (by simpa using hlength)
    simp_all [assemble, Construct.children]
  | interfaceDeclaration | call | newExpression =>
    obtain ⟨filled, h⟩ := h
    obtain ⟨place, rest, rfl, rfl⟩ := map_isSome_eq_cons h
    rfl
  | member | index | assignment =>
    obtain ⟨place, rest, rfl, hrest⟩ := map_isSome_eq_cons h
    obtain ⟨other, rfl⟩ := map_isSome_eq_singleton hrest
    rfl
  | identifier | this | literal =>
    obtain rfl := map_isSome_eq_nil h
    rfl
  | _ => rfl

/-! ### Walks over the nodes of an outline -/

/-- The slots of an outline's root suit its shape. -/
def Outline.Suits (outline : Outline) : Prop :=
  outline.shape.Suits (outline.slots.map (·.isSome))

/-- The root of an outline keeps its slots. -/
def Outline.KeepsSlots (outline : Outline) : Prop :=
  outline.shape.KeepsSlots (outline.slots.map (·.isSome))

namespace SyntaxTree

/-- The node at a place. -/
def node? (tree : SyntaxTree) (place : Nat) : Option SyntaxNode :=
  tree.nodes[place]?

variable {tree : SyntaxTree} {whole : Outline}

-- The recursion is that of outlines: a walk visits a node, and then what is in its slots.
mutual

/-- **A walk over the nodes of an outline** whose parts all keep their slots visits them in the
order of their places, and goes on with what else is on the stack. -/
theorem walk_entries
    (hkeeps : ∀ place part, whole.IsAt place part → part.Suits ∧ part.KeepsSlots)
    (parent : Option NodeId) (first more : Nat) (stack : List NodeId) :
    (outline : Outline) → whole.IsAt first outline →
      HoldsFrom tree.node? first (outline.entries parent first) →
      tree.walk (outline.size + more) (first :: stack) =
        List.range' first outline.size ++ tree.walk more stack
  | .mk label span shape slots, hat, hholds => by
    obtain ⟨hsuits, hfull⟩ := hkeeps _ _ hat
    have hchildren : tree.children first =
        (Outline.slotPlaces (first + 1) slots).filterMap id := by
      have hnode : tree.nodes[first]? = some _ := hholds.head
      simp only [children, construct?, hnode, Option.map_some]
      refine Shape.children_assemble ?_ ?_
      · simpa [Outline.Suits, Outline.shape, Outline.slots] using hsuits
      · simpa [Outline.KeepsSlots, Outline.shape, Outline.slots] using hfull
    have hrest := walk_slotEntries hkeeps first (first + 1) more stack slots
      (fun _ _ hslot => hat.slot hslot) hholds.tail
    rw [Outline.size, Nat.add_right_comm, walk, hchildren, hrest, List.range'_succ]
    rfl

/-- A walk over what is in the slots of a node. -/
theorem walk_slotEntries
    (hkeeps : ∀ place part, whole.IsAt place part → part.Suits ∧ part.KeepsSlots)
    (parent next more : Nat) (stack : List NodeId) :
    (slots : List (Option Outline)) →
      (∀ first inner, (some first, some inner) ∈ (Outline.slotPlaces next slots).zip slots →
        whole.IsAt first inner) →
      HoldsFrom tree.node? next (Outline.slotEntries parent next slots) →
      tree.walk (Outline.slotsSize slots + more)
          ((Outline.slotPlaces next slots).filterMap id ++ stack) =
        List.range' next (Outline.slotsSize slots) ++ tree.walk more stack
  | [], _, _ => by simp [Outline.slotsSize, Outline.slotPlaces]
  | none :: rest, hat, hholds => by
    simpa [Outline.slotsSize, Outline.slotPlaces] using
      walk_slotEntries hkeeps parent next more stack rest
        (fun first inner hslot => hat first inner (List.mem_cons_of_mem _ hslot)) hholds
  | some outline :: rest, hat, hholds => by
    have hfirst := walk_entries hkeeps (some parent) next (Outline.slotsSize rest + more)
      ((Outline.slotPlaces (next + outline.size) rest).filterMap id ++ stack) outline
      (hat next outline (by simp [Outline.slotPlaces])) hholds.left
    have hright := hholds.right
    rw [Outline.length_entries] at hright
    have hrest := walk_slotEntries hkeeps parent (next + outline.size) more stack rest
      (fun first inner hslot => hat first inner (List.mem_cons_of_mem _ hslot)) hright
    have hplaces : (Outline.slotPlaces next (some outline :: rest)).filterMap id =
        next :: (Outline.slotPlaces (next + outline.size) rest).filterMap id := rfl
    rw [hplaces, Outline.slotsSize, Nat.add_assoc, List.cons_append, hfirst, hrest,
      ← List.append_assoc, List.range'_append_1]

end

end SyntaxTree

end StreamLint
