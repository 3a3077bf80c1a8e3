import StreamLint.Check.Finding
import StreamLint.Check.Profile
import StreamLint.Check.Problem
import StreamLint.Oracle.Memo
/-!
# Checks

A check describes itself and turns its options into listeners. A listener is a pattern with a
handler, which is asked about every node that the pattern matches. A handler may ask the oracle, and
answers with findings and possibly a failure; what others have found is out of its reach.
-/

namespace StreamLint

/-- What came of handling a node. -/
structure Outcome where
  /-- What was found, in order. -/
  findings : List Finding := []
  /-- Why the check cannot go on, if it cannot. -/
  failure : Option CheckFault := none
  deriving Repr, Inhabited

/-- The outcome of reports made one after the other, of which the first that fails is the last. -/
def Outcome.ofReports : List (Except CheckFault Finding) → Outcome
  | [] => {}
  | .error error :: _ => { failure := some error }
  | .ok finding :: rest =>
    let outcome := ofReports rest
    { outcome with findings := finding :: outcome.findings }

/-- The finding about a node with the message under a key. Another node may be named to point at; it
counts only if it is in the tree. -/
def CheckProfile.finding (profile : CheckProfile) (tree : SyntaxTree) (node : NodeId)
    (key : String) (location : Option NodeId) : Except CheckFault Finding :=
  match profile.message? key, tree.span? node with
  | none, _ => .error (.unknownMessage profile.id key)
  | some _, none => .error (.failed profile.id "reported node is not in the tree")
  | some message, some span =>
    .ok { checkId := profile.id, messageKey := key, message, node, span,
          location := location.bind tree.span? }

/-- What is done at a node. -/
abbrev Handler := SyntaxTree → CheckProfile → NodeId → StateM Oracle Outcome

/-- A pattern with what is done where it matches. -/
structure Listener where
  /-- The pattern. -/
  pattern : Pattern
  /-- What is done. -/
  handler : Handler

/-- A listener for the nodes that a selector matches, on behalf of a check. -/
def Listener.ofSelector (check : String) (selector : Selector) (handler : Handler) :
    Except ConfigError Listener :=
  match Pattern.ofSelector selector with
  | .ok pattern => .ok ⟨pattern, handler⟩
  | .error why => .error (.pattern check why)

/-- A check. -/
structure Check where
  /-- Its description. -/
  profile : CheckProfile
  /-- Its listeners with given options; `null` stands for no options. -/
  configure : Json → Except ConfigError (List Listener)

end StreamLint
