import StreamLint.Syntax.Tree
/-!
# Comparing constructs

Whether two written types are the same can be decided, and with that whether two constructs are. A
written type is a tree whose nodes have lists of further ones, so both trees are gone through at
once, together with the lists in them.
-/

namespace StreamLint

namespace TypeExpr

mutual

/-- Whether the written types are the same. -/
def isSame : TypeExpr → TypeExpr → Bool
  | keyword k, keyword other => k == other
  | literal kind, literal other => kind == other
  | named name arguments, named other others => name == other && areSame arguments others
  | union members, union others => areSame members others
  | intersection members, intersection others => areSame members others
  | array element, array other => isSame element other
  | tuple elements, tuple others => areSame elements others
  | function returnType, function other => isSame returnType other
  | object members, object others => areSameMembers members others
  | unsupported text, unsupported other => text == other
  | _, _ => false

/-- Whether the written types are the same, one by one. -/
def areSame : List TypeExpr → List TypeExpr → Bool
  | [], [] => true
  | first :: rest, other :: others => isSame first other && areSame rest others
  | _, _ => false

/-- Whether the written members are the same, one by one. -/
def areSameMembers : List (Member TypeExpr) → List (Member TypeExpr) → Bool
  | [], [] => true
  | ⟨name, kind, type⟩ :: rest, other :: others =>
    name == other.name && kind == other.kind && isSame type other.type && areSameMembers rest others
  | _, _ => false

end

mutual

theorem isSame_iff (type other : TypeExpr) : type.isSame other = true ↔ type = other := by
  cases type with
  | keyword k => cases other <;> simp [isSame]
  | literal kind => cases other <;> simp [isSame]
  | unsupported text => cases other <;> simp [isSame]
  | named name arguments => cases other <;> simp [isSame, areSame_iff arguments]
  | union members => cases other <;> simp [isSame, areSame_iff members]
  | intersection members => cases other <;> simp [isSame, areSame_iff members]
  | tuple elements => cases other <;> simp [isSame, areSame_iff elements]
  | array element => cases other <;> simp [isSame, isSame_iff element]
  | function returnType => cases other <;> simp [isSame, isSame_iff returnType]
  | object members => cases other <;> simp [isSame, areSameMembers_iff members]

theorem areSame_iff (types others : List TypeExpr) : areSame types others = true ↔ types = others := by
  cases types with
  | nil => cases others <;> simp [areSame]
  | cons first rest =>
    cases others with
    | nil => simp [areSame]
    | cons other others => simp [areSame, isSame_iff first other, areSame_iff rest others]

theorem areSameMembers_iff (members others : List (Member TypeExpr)) :
    areSameMembers members others = true ↔ members = others := by
  cases members with
  | nil => cases others <;> simp [areSameMembers]
  | cons first rest =>
    cases others with
    | nil => obtain ⟨name, kind, type⟩ := first; simp [areSameMembers]
    | cons other others =>
      obtain ⟨name, kind, type⟩ := first
      obtain ⟨name', kind', type'⟩ := other
      simp [areSameMembers, isSame_iff type type', areSameMembers_iff rest others, and_assoc]

end

instance : DecidableEq TypeExpr := fun type other => decidable_of_iff _ (isSame_iff type other)

end TypeExpr

deriving instance DecidableEq for TypeParameter
deriving instance DecidableEq for Construct

end StreamLint
