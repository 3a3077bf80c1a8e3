import StreamLint.Syntax.Kind
/-!
# Sets of kinds

A set of kinds of node is a word with one bit for every kind. The operations are those on words, and
`StreamLint.KindSet.contains` is the view: it turns them into the operations of sets.
-/

namespace StreamLint

/-- The position of a kind is one of thirty. -/
theorem SyntaxKind.ordinal_lt (kind : SyntaxKind) : kind.ordinal < 30 := by
  cases kind <;> decide

/-- A set of kinds. -/
structure KindSet where
  /-- One bit for every kind, by its position. -/
  bits : BitVec 30
  deriving DecidableEq, Repr

namespace KindSet

/-- The set without kinds. -/
def empty : KindSet :=
  ⟨0⟩

/-- The empty set. -/
instance : Inhabited KindSet := ⟨empty⟩

/-- The bit of a kind. -/
def bit (kind : SyntaxKind) : BitVec 30 :=
  BitVec.twoPow 30 kind.ordinal

/-- A set with one kind more. -/
def insert (set : KindSet) (kind : SyntaxKind) : KindSet :=
  ⟨set.bits ||| bit kind⟩

/-- The set of the kinds in a list. -/
def ofList (kinds : List SyntaxKind) : KindSet :=
  kinds.foldl insert empty

/-- The set of all kinds. -/
def all : KindSet :=
  ofList SyntaxKind.all

/-- Whether a kind is in a set. -/
def contains (set : KindSet) (kind : SyntaxKind) : Bool :=
  set.bits.getLsbD kind.ordinal

/-- The kinds in both sets. -/
def inter (a b : KindSet) : KindSet :=
  ⟨a.bits &&& b.bits⟩

/-- The kinds in either set. -/
def union (a b : KindSet) : KindSet :=
  ⟨a.bits ||| b.bits⟩

/-- Whether there is no kind in a set. -/
def isEmpty (set : KindSet) : Bool :=
  set.bits == 0

/-- The kinds in a set, in the order of their declaration. -/
def toList (set : KindSet) : List SyntaxKind :=
  SyntaxKind.all.filter set.contains

/-! ### The view -/

/-- No kind is in the empty set. -/
@[simp] theorem contains_empty (kind : SyntaxKind) : empty.contains kind = false := by
  simp [contains, empty]

/-- A kind is in both sets if it is in each of them. -/
@[simp] theorem contains_inter (a b : KindSet) (kind : SyntaxKind) :
    (a.inter b).contains kind = (a.contains kind && b.contains kind) := by
  simp [contains, inter]

/-- A kind is in either set if it is in one of them. -/
@[simp] theorem contains_union (a b : KindSet) (kind : SyntaxKind) :
    (a.union b).contains kind = (a.contains kind || b.contains kind) := by
  simp [contains, union]

/-- A set with one kind more holds that kind and what was in it. -/
@[simp] theorem contains_insert (set : KindSet) (kind probe : SyntaxKind) :
    (set.insert kind).contains probe = (set.contains probe || decide (kind = probe)) := by
  have inj : probe.ordinal = kind.ordinal ↔ kind = probe := by
    cases kind <;> cases probe <;> decide
  simp [contains, insert, bit, inj, SyntaxKind.ordinal_lt]

/-- The set of the kinds in a list holds the kinds in the list. -/
@[simp] theorem contains_ofList (kinds : List SyntaxKind) (kind : SyntaxKind) :
    (ofList kinds).contains kind = decide (kind ∈ kinds) := by
  suffices h : ∀ set : KindSet,
      (kinds.foldl insert set).contains kind = (set.contains kind || decide (kind ∈ kinds)) by
    simpa [ofList] using h empty
  induction kinds with
  | nil => simp
  | cons first rest ih =>
    intro set
    simp [ih, Bool.or_assoc, eq_comm (a := kind)]

/-- Every kind is in the set of all kinds. -/
@[simp] theorem contains_all (kind : SyntaxKind) : all.contains kind = true := by
  simp [all, SyntaxKind.mem_all]

end KindSet

end StreamLint
