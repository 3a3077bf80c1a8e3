import StreamLint.Check.Catalogue
import StreamLint.Check.Finding
import StreamLint.Check.Handler
import StreamLint.Check.IgnoredObservable
import StreamLint.Check.IgnoredSubscribe
import StreamLint.Check.Options
import StreamLint.Check.Problem
import StreamLint.Check.Profile
import StreamLint.Check.UnsafeFirst
import StreamLint.CommandLine.Arguments
import StreamLint.CommandLine.FileTree
import StreamLint.CommandLine.Rendering
import StreamLint.CommandLine.Session
import StreamLint.CommandLine.Snapshot
import StreamLint.CommandLine.Target
import StreamLint.Concrete.Form
import StreamLint.Concrete.Issue
import StreamLint.Concrete.Tree
import StreamLint.Diagnostic
import StreamLint.Dialect
import StreamLint.Json.Fault
import StreamLint.Json.Forms
import StreamLint.Json.Printer
import StreamLint.Json.Reader
import StreamLint.Json.Token
import StreamLint.Json.Value
import StreamLint.Limits
import StreamLint.Linter.Report
import StreamLint.Linter.Run
import StreamLint.Linter.Settings
import StreamLint.Linter.Setup
import StreamLint.Linter.Silencing
import StreamLint.Main
import StreamLint.Model.Ambient
import StreamLint.Model.Basic
import StreamLint.Model.Binding
import StreamLint.Model.Build
import StreamLint.Model.Declaration
import StreamLint.Model.Draft
import StreamLint.Model.Inference
import StreamLint.Model.Members
import StreamLint.Model.Resolution
import StreamLint.Model.Settling
import StreamLint.Oracle.Memo
import StreamLint.Oracle.Observable
import StreamLint.Oracle.Reference
import StreamLint.Pattern.Index
import StreamLint.Pattern.KindSet
import StreamLint.Pattern.Selector
import StreamLint.Proofs.Oracle.History
import StreamLint.Proofs.Pattern.Index
import StreamLint.Proofs.Linter.Kept
import StreamLint.Proofs.Linter.Sites
import StreamLint.Regex.Basic
import StreamLint.Regex.CharSet
import StreamLint.Regex.Property
import StreamLint.Regex.Source
import StreamLint.Regex.Term
import StreamLint.Syntax.Frames
import StreamLint.Syntax.Kind
import StreamLint.Syntax.Lowering
import StreamLint.Syntax.Plan
import StreamLint.Syntax.Shape
import StreamLint.Syntax.Tree
import StreamLint.Syntax.TypeExpr
import StreamLint.Syntax.TypeExpr.OfConcrete
import StreamLint.Text.CaseFolding
import StreamLint.Text.Category
import StreamLint.Text.ChangeTable
import StreamLint.Text.Character
import StreamLint.Text.Decimal
import StreamLint.Text.Path
import StreamLint.Text.Quoted
import StreamLint.Text.Script
import StreamLint.Text.Span
import StreamLint.Text.Split
import StreamLint.Types.Display
import StreamLint.Types.Table
import StreamLint.Proofs.Oracle.Walk
import StreamLint.Proofs.Linter.BuiltIn
import StreamLint.Proofs.Model.Closed
import StreamLint.Proofs.Model.Declared
import StreamLint.Proofs.Model.Agreement
import StreamLint.Proofs.Model.Rest
import StreamLint.Proofs.Model.Search
import StreamLint.Proofs.Model.Termination
import StreamLint.Proofs.Model.Finished
import StreamLint.Proofs.Model.Completion
import StreamLint.Proofs.Model.Compositional
import StreamLint.Proofs.Model.Scoping
import StreamLint.Proofs.Model.Merging
import StreamLint.Proofs.Linter.Separation
import StreamLint.Proofs.Syntax.Faithful
import StreamLint.Proofs.Oracle.Distance
import StreamLint.Proofs.Pattern.Kinds
import StreamLint.Proofs.Syntax.Grammar
import StreamLint.Proofs.Syntax.Fields
import StreamLint.Proofs.Oracle.Leaves
import StreamLint.Proofs.Oracle.Substitution
import StreamLint.Proofs.Linter.Standing
import StreamLint.Proofs.Model.Returns
import StreamLint.Proofs.Model.Present
import StreamLint.Proofs.Model.Exposure
import StreamLint.Proofs.Model.Transparency
import StreamLint.Proofs.Model.Shadowing
import StreamLint.Proofs.Pattern.Meaning
import StreamLint.Proofs.Syntax.Flattened
import StreamLint.Proofs.Syntax.Issues
import StreamLint.Proofs.Linter.Directives
import StreamLint.Proofs.CommandLine.Discovery
import StreamLint.Proofs.Syntax.Comments
import StreamLint.Proofs.Model.Interfaces
import StreamLint.Proofs.Syntax.Traversal
import StreamLint.Proofs.Syntax.Frames
import StreamLint.Proofs.Model.Distinct
import StreamLint.Proofs.Linter.Settings
