import Mathlib.Data.List.Forall2
import StreamLint.Proofs.Oracle.Witness
/-!
# Types with arguments in place of parameters

What it means that one place of a table holds the type at another place with arguments put in for
generic parameters. A type is put together of parts (`StreamLint.TypeTable.partsOfEntry`), and two
entries have the same form if they differ in their parts at most (`StreamLint.TypeTable.SameForm`).
The arguments are put in wherever a parameter stands, however deep
(`StreamLint.TypeTable.Substituted`). A table may hold a type more than once, so that neither an
argument nor a part without parameters has to be found again at its own place: a copy of it will do,
which is a type with nothing put in.

Declarations, and aliases that are referred to with arguments, are called by their names. What they
are made of is not part of the type that refers to them.
-/

namespace StreamLint

open Relation (ReflTransGen)

namespace TypeTable

variable (table : TypeTable)

/-! ### Parts and forms -/

/-- Whether a reference to the type calls it by its name: it is a declaration or an alias. -/
def isNamed (type : TypeId) : Bool :=
  match table.get? type with
  | some (.declared _) | some (.alias ..) => true
  | _ => false

/-- The types that a type is put together of. -/
def partsOfEntry : TypeEntry → List TypeId
  | .reference target arguments => if table.isNamed target then arguments else target :: arguments
  | .foreign _ arguments => arguments
  | .alias _ _ target => [target]
  | .union members | .intersection members | .tuple members => members
  | .array element => [element]
  | .function result => [result]
  | .object members => members.map (·.type)
  | .parameter _ bound => bound.toList
  | .any | .unknown | .never | .primitive _ | .declared _ => []

/-- The entries differ in their parts at most. -/
inductive SameForm : TypeEntry → TypeEntry → Prop where
  | any : SameForm .any .any
  | unknown : SameForm .unknown .unknown
  | never : SameForm .never .never
  | primitive (type : PlainType) : SameForm (.primitive type) (.primitive type)
  | declared (declaration : NominalType) : SameForm (.declared declaration) (.declared declaration)
  /-- References that call the same declaration or alias by its name. -/
  | reference {target : TypeId} {arguments others : List TypeId}
    (hnamed : table.isNamed target = true) (h : arguments.length = others.length) :
    SameForm (.reference target arguments) (.reference target others)
  /-- References to something that has no name. -/
  | applied {target other : TypeId} {arguments others : List TypeId}
    (hnamed : table.isNamed target = false) (hother : table.isNamed other = false)
    (h : arguments.length = others.length) :
    SameForm (.reference target arguments) (.reference other others)
  | foreign {name : String} {arguments others : List TypeId}
    (h : arguments.length = others.length) :
    SameForm (.foreign name arguments) (.foreign name others)
  | alias {name : String} {params : List TypeId} {target other : TypeId} :
    SameForm (.alias name params target) (.alias name params other)
  | union {members others : List TypeId} (h : members.length = others.length) :
    SameForm (.union members) (.union others)
  | intersection {members others : List TypeId} (h : members.length = others.length) :
    SameForm (.intersection members) (.intersection others)
  | tuple {members others : List TypeId} (h : members.length = others.length) :
    SameForm (.tuple members) (.tuple others)
  | array {element other : TypeId} : SameForm (.array element) (.array other)
  | function {result other : TypeId} : SameForm (.function result) (.function other)
  | object {members others : List (Member TypeId)}
    (h : List.Forall₂ (fun member other => other.name = member.name ∧ other.kind = member.kind)
      members others) : SameForm (.object members) (.object others)
  | unbounded {name : String} : SameForm (.parameter name none) (.parameter name none)
  | bounded {name : String} {bound other : TypeId} :
    SameForm (.parameter name (some bound)) (.parameter name (some other))

/-- The part is one of those that the type is put together of. -/
def IsPartOf (type part : TypeId) : Prop :=
  ∃ entry, table.get? type = some entry ∧ part ∈ table.partsOfEntry entry

/-- No parameter that is instantiated stands anywhere in the type. -/
def IsFree (instantiation : Instantiation) (type : TypeId) : Prop :=
  ∀ entry ∈ instantiation, ¬ReflTransGen table.IsPartOf type entry.1

/-- **The second place holds the type at the first one, with arguments in place of parameters.** -/
inductive Substituted : Instantiation → TypeId → TypeId → Prop where
  /-- The argument stands where the parameter stood, or a copy of it. -/
  | given {instantiation : Instantiation} {param argument seen : TypeId}
    (h : instantiation.argument? param = some argument) (hseen : Substituted [] argument seen) :
    Substituted instantiation param seen
  /-- A type without parameters is left as it is. -/
  | kept {instantiation : Instantiation} {type : TypeId} (h : table.IsFree instantiation type) :
    Substituted instantiation type type
  /-- Other types are put together again of their parts. -/
  | rebuilt {instantiation : Instantiation} {type seen : TypeId} {entry data : TypeEntry}
    (h : instantiation.argument? type = none) (hentry : table.get? type = some entry)
    (hdata : table.get? seen = some data) (hform : table.SameForm entry data)
    (hparts : ∀ pair ∈ (table.partsOfEntry entry).zip (table.partsOfEntry data),
      Substituted instantiation pair.1 pair.2) :
    Substituted instantiation type seen

variable {table} {instantiation : Instantiation} {type seen : TypeId} {entry data : TypeEntry}

theorem SameForm.refl (entry : TypeEntry) : table.SameForm entry entry := by
  cases entry with
  | any => exact .any
  | unknown => exact .unknown
  | never => exact .never
  | primitive type => exact .primitive type
  | declared declaration => exact .declared declaration
  | reference target arguments =>
    cases hnamed : table.isNamed target with
    | true => exact .reference hnamed rfl
    | false => exact .applied hnamed hnamed rfl
  | «alias» name params target => exact .alias
  | union members => exact .union rfl
  | intersection members => exact .intersection rfl
  | array element => exact .array
  | tuple elements => exact .tuple rfl
  | function result => exact .function
  | object members => exact .object (List.forall₂_same.mpr fun _ _ => ⟨rfl, rfl⟩)
  | parameter name bound =>
    cases bound with
    | none => exact .unbounded
    | some bound => exact .bounded
  | foreign name arguments => exact .foreign rfl

theorem SameForm.length_parts (h : table.SameForm entry data) :
    (table.partsOfEntry entry).length = (table.partsOfEntry data).length := by
  cases h with
  | reference hnamed h => simp [partsOfEntry, hnamed, h]
  | applied hnamed hother h => simp [partsOfEntry, hnamed, hother, h]
  | object h => simp [partsOfEntry, h.length_eq]
  | foreign h | union h | intersection h | tuple h => exact h
  | _ => rfl

/-! ### Types without parameters -/

theorem isFree_nil (type : TypeId) : table.IsFree [] type := by
  simp [IsFree]

theorem IsFree.part {part : TypeId} (h : table.IsFree instantiation type)
    (hpart : table.IsPartOf type part) : table.IsFree instantiation part :=
  fun entry hentry hreach => h entry hentry (.head hpart hreach)

theorem IsFree.argument?_eq_none (h : table.IsFree instantiation type) :
    instantiation.argument? type = none := by
  cases hgiven : instantiation.argument? type with
  | none => rfl
  | some argument =>
    exact absurd .refl (h _ (Instantiation.mem_of_argument?_eq_some hgiven))

/-- Every type is a copy of itself. -/
theorem Substituted.refl (type : TypeId) : table.Substituted [] type type :=
  .kept (isFree_nil type)

/-- Where no parameter stands, nothing is put in. -/
theorem Substituted.of_isFree (h : table.Substituted instantiation type seen)
    (hfree : table.IsFree instantiation type) : table.Substituted [] type seen := by
  induction h with
  | given h => simp [hfree.argument?_eq_none] at h
  | kept => exact .refl _
  | rebuilt _ hentry hdata hform _ ih =>
    refine .rebuilt rfl hentry hdata hform fun pair hpair => ih pair hpair (hfree.part ?_)
    exact ⟨_, hentry, (List.of_mem_zip hpair).1⟩

/-- What is put in for a parameter is a copy of the argument. -/
theorem Substituted.of_given {argument : TypeId} (h : table.Substituted instantiation type seen)
    (hgiven : instantiation.argument? type = some argument) :
    table.Substituted [] argument seen := by
  cases h with
  | given h hseen => exact Option.some.inj (h.symm.trans hgiven) ▸ hseen
  | kept h => simp [h.argument?_eq_none] at hgiven
  | rebuilt h => simp [h] at hgiven

theorem Substituted.of_parts (h : instantiation.argument? type = none)
    (hentry : table.get? type = some entry) (hdata : table.get? seen = some data)
    (hform : table.SameForm entry data)
    (hparts : List.Forall₂ (table.Substituted instantiation) (table.partsOfEntry entry)
      (table.partsOfEntry data)) : table.Substituted instantiation type seen :=
  .rebuilt h hentry hdata hform fun _ hpair => (List.forall₂_iff_zip.mp hparts).2 hpair

/-- **Part by part**: where no parameter stands, either there is no type at both places, or the
types have the same form, and the arguments are put into their parts. -/
theorem Substituted.cases_parts (h : table.Substituted instantiation type seen)
    (hnone : instantiation.argument? type = none) :
    (table.get? type = none ∧ table.get? seen = none) ∨
      ∃ entry data, table.get? type = some entry ∧ table.get? seen = some data ∧
        table.SameForm entry data ∧ List.Forall₂ (table.Substituted instantiation)
          (table.partsOfEntry entry) (table.partsOfEntry data) := by
  cases h with
  | given h => simp [h] at hnone
  | kept h =>
    cases hentry : table.get? type with
    | none => exact .inl ⟨rfl, rfl⟩
    | some entry =>
      exact .inr ⟨entry, entry, rfl, rfl, .refl entry, List.forall₂_same.mpr fun part hpart =>
        .kept (h.part ⟨entry, hentry, hpart⟩)⟩
  | rebuilt _ hentry hdata hform hparts =>
    exact .inr ⟨_, _, hentry, hdata, hform, List.forall₂_iff_zip.mpr
      ⟨hform.length_parts, fun hpair => hparts _ hpair⟩⟩

end TypeTable

end StreamLint
