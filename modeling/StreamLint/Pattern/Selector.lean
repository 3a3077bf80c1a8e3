import StreamLint.Pattern.KindSet
import StreamLint.Regex.Basic
import StreamLint.Syntax.Tree
import StreamLint.Text.Quoted
/-!
# Selectors

A selector says what a node and its surroundings look like. Whether a node matches is
`StreamLint.Selector.selects`; which kinds a matching node can have is found out from the selector
alone, by `StreamLint.Selector.matchKinds`. A search below a node visits only so many nodes.
-/

namespace StreamLint

/-- What a node and its surroundings look like. -/
inductive Selector where
  /-- Any node. -/
  | any
  /-- A node of a kind. -/
  | kind (kind : SyntaxKind)
  /-- An identifier with this name. -/
  | name (name : String)
  /-- An identifier whose name a regular expression matches. -/
  | nameMatches (pattern : Regex)
  /-- A call or `new` expression with so many arguments. -/
  | argumentCount (count : Nat)
  /-- A node with something in a named place. -/
  | field (field : Field) (inner : Selector)
  /-- A node in a named place of its parent. -/
  | fieldOf (field : Field) (parent : Selector)
  /-- A node with such a parent. -/
  | parent (parent : Selector)
  /-- A node with such a node below it. -/
  | has (inner : Selector)
  /-- A node that matches all of them. -/
  | and (parts : List Selector)
  /-- A node that matches one of them. -/
  | or (parts : List Selector)
  deriving Repr, Inhabited

namespace Selector

/-! ### Combinations -/

/-- Both selectors; a conjunction on the left is continued. -/
def both : Selector → Selector → Selector
  | and parts, other => and (parts ++ [other])
  | first, other => and [first, other]

/-- Either selector; a disjunction on the left is continued. -/
def either : Selector → Selector → Selector
  | or parts, other => or (parts ++ [other])
  | first, other => or [first, other]

/-! ### Kinds -/

end Selector

/-- The kinds of node that have a named place. -/
def Field.ownerSet (field : Field) : KindSet :=
  .ofList field.owners

/-- The kinds of node that can stand in a named place. -/
def Field.occupantSet (field : Field) : KindSet :=
  match field.occupants? with
  | some kinds => .ofList kinds
  | none => .all

namespace Selector

mutual

/-- The kinds that a matching node can have. -/
def matchKinds : Selector → KindSet
  | any => .all
  | kind k => .ofList [k]
  | name _ | nameMatches _ => .ofList [.identifier]
  | argumentCount _ => .ofList [.callExpression, .newExpression]
  | field f inner =>
    if (f.occupantSet.inter (matchKinds inner)).isEmpty then .empty else f.ownerSet
  | fieldOf f owner =>
    if (f.ownerSet.inter (matchKinds owner)).isEmpty then .empty else f.occupantSet
  | parent inner | has inner => if (matchKinds inner).isEmpty then .empty else .all
  | and parts => kindsOfAll parts
  | or parts => kindsOfAny parts

/-- The kinds that a node which matches all selectors can have. -/
def kindsOfAll : List Selector → KindSet
  | [] => .all
  | part :: rest => (matchKinds part).inter (kindsOfAll rest)

/-- The kinds that a node which matches one of the selectors can have. -/
def kindsOfAny : List Selector → KindSet
  | [] => .empty
  | part :: rest => (matchKinds part).union (kindsOfAny rest)

end

theorem matchKinds_and (parts : List Selector) :
    (and parts).matchKinds = parts.foldr (fun part kinds => part.matchKinds.inter kinds) .all := by
  rw [matchKinds]
  induction parts with
  | nil => rfl
  | cons part rest ih => rw [kindsOfAll, ih, List.foldr_cons]

theorem matchKinds_or (parts : List Selector) :
    (or parts).matchKinds =
      parts.foldr (fun part kinds => part.matchKinds.union kinds) .empty := by
  rw [matchKinds]
  induction parts with
  | nil => rfl
  | cons part rest ih => rw [kindsOfAny, ih, List.foldr_cons]

/-! ### Matching -/

end Selector

/-- The first `budget` nodes below a node. -/
def SyntaxTree.firstBelow (tree : SyntaxTree) (budget : Nat) (node : NodeId) : List NodeId :=
  tree.walk budget (tree.children node)

namespace Selector

mutual

/-- Whether a node matches. A search below a node visits `budget` nodes. -/
def selects (tree : SyntaxTree) (budget : Nat) : Selector → NodeId → Bool
  | any, _ => true
  | kind k, node => tree.kind? node == some k
  | name text, node => tree.nameAt? node == some text
  | nameMatches pattern, node => ((tree.nameAt? node).map pattern.matchesIn).getD false
  | argumentCount count, node =>
    ((tree.arguments? node).map fun arguments => arguments.length == count).getD false
  | field f inner, node => ((tree.field? node f).map (selects tree budget inner)).getD false
  | fieldOf f outer, node =>
    match tree.parent? node with
    | some owner => tree.field? owner f == some node && selects tree budget outer owner
    | none => false
  | parent inner, node => ((tree.parent? node).map (selects tree budget inner)).getD false
  | has inner, node => (tree.firstBelow budget node).any (selects tree budget inner)
  | and parts, node => selectsAll tree budget parts node
  | or parts, node => selectsAny tree budget parts node

/-- Whether a node matches all selectors. -/
def selectsAll (tree : SyntaxTree) (budget : Nat) : List Selector → NodeId → Bool
  | [], _ => true
  | part :: rest, node => selects tree budget part node && selectsAll tree budget rest node

/-- Whether a node matches one of the selectors. -/
def selectsAny (tree : SyntaxTree) (budget : Nat) : List Selector → NodeId → Bool
  | [], _ => false
  | part :: rest, node => selects tree budget part node || selectsAny tree budget rest node

end

variable {tree : SyntaxTree} {budget : Nat} {node : NodeId}

/-- A conjunction matches where all of its parts do. -/
theorem selects_and (parts : List Selector) :
    (and parts).selects tree budget node = parts.all (·.selects tree budget node) := by
  rw [selects]
  induction parts with
  | nil => rfl
  | cons part rest ih => rw [selectsAll, ih, List.all_cons]

/-- A disjunction matches where one of its parts does. -/
theorem selects_or (parts : List Selector) :
    (or parts).selects tree budget node = parts.any (·.selects tree budget node) := by
  rw [selects]
  induction parts with
  | nil => rfl
  | cons part rest ih => rw [selectsAny, ih, List.any_cons]

/-! ### Text -/

mutual

/-- A selector as text. -/
def display : Selector → String
  | any => "*"
  | kind k => k.name
  | name text => "[name=" ++ quoted text ++ "]"
  | nameMatches pattern => "[name=/" ++ pattern.source ++ "/]"
  | argumentCount count => "[arguments.length=" ++ toString count ++ "]"
  | field f inner => "[" ++ f.label ++ ": " ++ display inner ++ "]"
  | fieldOf f owner => display owner ++ " > " ++ f.label
  | parent inner => display inner ++ " > *"
  | has inner => ":has(" ++ display inner ++ ")"
  | and parts => String.join (displays parts)
  | or parts => ":is(" ++ ", ".intercalate (displays parts) ++ ")"

/-- Selectors as texts. -/
def displays : List Selector → List String
  | [] => []
  | part :: rest => display part :: displays rest

end

end Selector

end StreamLint
