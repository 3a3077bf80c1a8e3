import Mathlib.Tactic.Common
import StreamLint.Proofs.Syntax.Address
/-!
# What is collected from a concrete tree

Values are *collected* from a tree if they are what is made of the nodes at certain addresses, each
once and in the order of the text (`StreamLint.Concrete.Node.Collects`). As the addresses are sorted,
nothing else can be meant by that: a list of values says which nodes they come from.

A function that goes through a tree puts together what it has from the parts of a node, one part
after the other. If these stand at addresses that part from each other, and what it has from each of
them is collected there, then all of it is collected from the node
(`StreamLint.Concrete.Node.exists_collects_flatMap`).
-/

namespace StreamLint

namespace Concrete

/-- What is added to the way to a node leaves the order of addresses as it is. -/
theorem Address.append_lt_append {first second : Address} (base : Address) (h : first < second) :
    base ++ first < base ++ second :=
  List.Lex.append_left (· < ·) h base

namespace Node

variable {β : Type}

/-- **The values are collected from a tree**: they are what is made of the nodes at the wanted
addresses, each once and in the order of the text. -/
structure Collects (node : Node) (wanted : Address → Prop) (make : Node → β) (sites : List Address)
    (values : List β) : Prop where
  /-- The addresses are in the order of the text, and none is there twice. -/
  sorted : sites.Pairwise (· < ·)
  /-- They are the wanted ones. -/
  mem_iff : ∀ site, site ∈ sites ↔ wanted site
  /-- The values are made of the nodes there. -/
  values_eq : values.map some = sites.map fun site => (node.at? site).map make

variable {node : Node} {wanted other : Address → Prop} {make : Node → β} {sites : List Address}
  {values : List β}

namespace Collects

theorem congr (h : node.Collects wanted make sites values) (hwanted : ∀ site, wanted site ↔ other site) :
    node.Collects other make sites values :=
  ⟨h.sorted, fun site => (h.mem_iff site).trans (hwanted site), h.values_eq⟩

/-- Nothing is collected where nothing is wanted. -/
theorem nothing (node : Node) (make : Node → β) : node.Collects (fun _ => False) make [] [] :=
  ⟨.nil, by simp, rfl⟩

/-- The node itself. -/
theorem self (node : Node) (make : Node → β) : node.Collects (· = []) make [[]] [make node] :=
  ⟨List.pairwise_singleton _ _, by simp, rfl⟩

/-- The node itself, and what is collected below it. -/
theorem cons_self (h : node.Collects wanted make sites values) (hbelow : ¬wanted []) :
    node.Collects (fun site => site = [] ∨ wanted site) make ([] :: sites) (make node :: values) where
  sorted := by
    refine List.pairwise_cons.mpr ⟨fun site hsite => ?_, h.sorted⟩
    cases site with
    | nil => exact absurd ((h.mem_iff []).mp hsite) hbelow
    | cons index rest => exact List.nil_lt_cons index rest
  mem_iff site := by rw [List.mem_cons, h.mem_iff]
  values_eq := by rw [List.map_cons, List.map_cons, h.values_eq, at?_nil, Option.map_some]

/-- What is collected from a part is collected from the node that it is a part of. -/
theorem of_part {part : Node} {base : Address} (h : part.Collects wanted make sites values)
    (hat : node.at? base = some part) :
    node.Collects (fun site => ∃ rest, wanted rest ∧ site = base ++ rest) make
      (sites.map (base ++ ·)) values where
  sorted := by
    rw [List.pairwise_map]
    exact h.sorted.imp fun hlt => Address.append_lt_append base hlt
  mem_iff site := by simp only [List.mem_map, h.mem_iff, eq_comm (a := site)]
  values_eq := by
    rw [h.values_eq, List.map_map]
    refine List.map_congr_left fun site _ => ?_
    simp only [Function.comp_apply, at?_append, hat, Option.bind_some]

/-- What is collected at some addresses, and what is collected at later ones. -/
theorem append {later : List Address} {more : List β} (h : node.Collects wanted make sites values)
    (hlater : node.Collects other make later more)
    (hlt : ∀ site, wanted site → ∀ after, other after → site < after) :
    node.Collects (fun site => wanted site ∨ other site) make (sites ++ later) (values ++ more) where
  sorted := by
    refine List.pairwise_append.mpr ⟨h.sorted, hlater.sorted, fun site hsite after hafter => ?_⟩
    exact hlt site ((h.mem_iff site).mp hsite) after ((hlater.mem_iff after).mp hafter)
  mem_iff site := by rw [List.mem_append, h.mem_iff, hlater.mem_iff]
  values_eq := by rw [List.map_append, List.map_append, h.values_eq, hlater.values_eq]

end Collects

/-- **What is collected from parts** is collected from the node, part after part. -/
theorem exists_collects_flatMap {parts : List Node} {bases : List Address}
    {inside : Node → Address → Prop} {collect : Node → List β}
    (hparts : bases.map node.at? = parts.map some) (hbases : bases.Pairwise (Address.Parts (· < ·)))
    (h : ∀ part ∈ parts, ∃ sites, part.Collects (inside part) make sites (collect part)) :
    ∃ sites, node.Collects (fun site => ∃ base ∈ bases, ∃ part rest,
      node.at? base = some part ∧ inside part rest ∧ site = base ++ rest) make sites
        (parts.flatMap collect) := by
  induction bases generalizing parts with
  | nil =>
    obtain rfl : parts = [] := by simpa using hparts.symm
    exact ⟨[], (Collects.nothing node make).congr (by simp)⟩
  | cons base bases ih =>
    cases parts with
    | nil => simp at hparts
    | cons part parts =>
      obtain ⟨hat, hrest⟩ := List.cons.inj hparts
      obtain ⟨hbase, hbases⟩ := List.pairwise_cons.mp hbases
      obtain ⟨hpart, hothers⟩ := List.forall_mem_cons.mp h
      obtain ⟨sites, hsites⟩ := hpart
      obtain ⟨later, hlater⟩ := ih hrest hbases hothers
      refine ⟨_, ((hsites.of_part hat).append hlater ?_).congr fun site => ?_⟩
      · rintro _ ⟨rest, -, rfl⟩ _ ⟨after, hafter, _, more, -, -, rfl⟩
        exact ((hbase after hafter).of_below (List.prefix_append _ _) (List.prefix_append _ _)).lt
      · simp only [List.mem_cons, exists_eq_or_imp, hat, Option.some.injEq, exists_eq_left',
          exists_and_left]

end Node

end Concrete

end StreamLint
