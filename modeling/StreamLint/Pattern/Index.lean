import StreamLint.Pattern.Selector
/-!
# Patterns and their handlers

A pattern is a selector that some kind of node can match. An index holds patterns with their
handlers in the order in which they were added, and beside them one bucket for every kind with the
patterns that nodes of that kind can match, so that only these are tried at a node.
`StreamLint.PatternIndex.dispatches` goes over a tree once, with a stack of the nodes that are still
to be visited, and takes at most one step for every node.
-/

namespace StreamLint

/-- A selector together with the kinds that a matching node can have. -/
structure Pattern where
  /-- The selector. -/
  selector : Selector
  /-- The kinds. -/
  kinds : KindSet
  deriving Repr

/-- Why a selector makes no pattern. -/
inductive PatternFault where
  /-- No kind of node can match. -/
  | unsatisfiable (selector : String)
  deriving DecidableEq, Repr

/-- What is said of a selector that makes no pattern. -/
def PatternFault.message : PatternFault → String
  | unsatisfiable selector => "pattern \x60" ++ selector ++ "\x60 can never match"

namespace Pattern

/-- The pattern that a selector makes. -/
def ofSelector (selector : Selector) : Except PatternFault Pattern :=
  let kinds := selector.matchKinds
  if kinds.isEmpty then .error (.unsatisfiable selector.display) else .ok ⟨selector, kinds⟩

/-- Whether a node matches. The selector is tried only at nodes of the right kinds. -/
def matchesAt (pattern : Pattern) (tree : SyntaxTree) (budget : Nat) (node : NodeId) :
    Bool :=
  match tree.kind? node with
  | some kind => pattern.kinds.contains kind && pattern.selector.selects tree budget node
  | none => false

end Pattern

/-- Patterns with their handlers. -/
structure PatternIndex (α : Type) where
  /-- The patterns and handlers, in the order in which they were added. -/
  entries : Array (Pattern × α)
  /-- The places of the entries that nodes of a kind can match, by the position of the kind. -/
  buckets : Array (Array Nat)
  /-- How many nodes a search below a node visits. -/
  budget : Nat

namespace PatternIndex

variable {α : Type}

/-- The index without patterns, which has a bucket for every kind. -/
def empty (budget : Nat) : PatternIndex α :=
  ⟨#[], .replicate SyntaxKind.all.length #[], budget⟩

/-- The number of patterns. -/
def size (patterns : PatternIndex α) : Nat :=
  patterns.entries.size

/-- The handlers, in the order in which they were added. -/
def handlers (patterns : PatternIndex α) : List α :=
  patterns.entries.toList.map (·.2)

/-- Buckets with one place more in that of a kind. -/
def putInto (place : Nat) (buckets : Array (Array Nat)) (kind : SyntaxKind) : Array (Array Nat) :=
  buckets.modify kind.ordinal (·.push place)

/-- The index with one pattern more, whose place goes into the bucket of each of its kinds. -/
def add (patterns : PatternIndex α) (pattern : Pattern) (handler : α) : PatternIndex α :=
  { patterns with
    entries := patterns.entries.push (pattern, handler)
    buckets := pattern.kinds.toList.foldl (putInto patterns.entries.size) patterns.buckets }

/-- The places of the entries that nodes of a kind can match. -/
def bucket (patterns : PatternIndex α) (kind : SyntaxKind) : List Nat :=
  match patterns.buckets[kind.ordinal]? with
  | some places => places.toList
  | none => []

/-- The handlers of the patterns that a node matches. -/
def handlersAt (patterns : PatternIndex α) (tree : SyntaxTree) (node : NodeId) : List α :=
  match tree.kind? node with
  | some kind =>
    (patterns.bucket kind).filterMap fun place =>
      match patterns.entries[place]? with
      | some (pattern, handler) =>
        if pattern.selector.selects tree patterns.budget node then some handler else none
      | none => none
  | none => []

/-- What there is to be handled at the nodes of a stack and the nodes below them, in at most `steps`
steps. -/
def dispatchesWithin (patterns : PatternIndex α) (tree : SyntaxTree) :
    Nat → List NodeId → List (NodeId × α)
  | 0, _ | _, [] => []
  | steps + 1, node :: stack =>
    (patterns.handlersAt tree node).map (node, ·)
      ++ dispatchesWithin patterns tree steps (tree.children node ++ stack)

/-- What there is to be handled in a tree, node by node. -/
def dispatches (patterns : PatternIndex α) (tree : SyntaxTree) : List (NodeId × α) :=
  if tree.size = 0 then [] else patterns.dispatchesWithin tree tree.size [SyntaxTree.root]

end PatternIndex

end StreamLint
