import StreamLint.Linter.Setup
import StreamLint.Linter.Report
import StreamLint.Linter.Silencing
import StreamLint.Model.Build
import StreamLint.Syntax.Lowering
/-!
# Checking a file

The handlers of all active checks are run in one pass over the tree of a file. A check whose handler
fails is not run again in that file; what it found before stays. At the end the silenced findings
are taken out.
-/

namespace StreamLint

namespace Linter

/-- What is known in the middle of a pass. -/
structure Pass where
  /-- The oracle of the file. -/
  oracle : Oracle
  /-- What was found so far. -/
  log : FindingLog
  /-- The places of the checks that failed. -/
  failed : List Nat := []
  /-- The failures so far, in order. -/
  failures : List StoppedCheck := []

/-- Runs a handler at a node, unless its check has failed. -/
def handle (linter : Linter) (tree : SyntaxTree) (pass : Pass) (item : NodeId × OwnedHandler) :
    Pass :=
  let (node, active) := item
  if pass.failed.contains active.check then pass
  else
    match linter.checks[active.check]? with
    | none => pass
    | some profile =>
      let (outcome, oracle) := (active.handler tree profile node).run pass.oracle
      let pass := { pass with oracle, log := pass.log.addAll outcome.findings }
      match outcome.failure with
      | none => pass
      | some error =>
        { pass with
          failed := active.check :: pass.failed
          failures := pass.failures ++ [⟨profile.id, error.message, tree.span? node⟩] }

/-- Runs all handlers over a tree. -/
def run (linter : Linter) (tree : SyntaxTree) (model : FileModel) : Pass :=
  (linter.patterns.dispatches tree).foldl (linter.handle tree)
    { oracle := { model, maxDepth := linter.limits.resolutionDepth }
      log := { limit := some linter.limits.findingsPerCheck } }

/-- Checks a tree with a model of its types. -/
def reportTree (linter : Linter) (uri : String) (tree : SyntaxTree) (model : FileModel) :
    DocumentReport :=
  let pass := linter.run tree model
  let silencing := Silencing.ofComments tree.comments
  let (suppressed, findings) :=
    pass.log.findings.toList.partition silencing.silencesFinding
  { uri, findings, failures := pass.failures, syntaxErrors := [],
    suppressed := suppressed.length }

/-- Checks a document. A file that has no model is checked as one without types. -/
def checkDocument (linter : Linter) (uri : String) (document : Concrete.Document) :
    DocumentReport :=
  let tree := SyntaxTree.ofDocument document
  let bindings := (tree.model? linter.prelude linter.limits).getD {}
  { linter.reportTree uri tree bindings.model with
    syntaxErrors := document.issues.map SyntaxWarning.ofIssue }

end Linter

end StreamLint
