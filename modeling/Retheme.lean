import Retheme.Cascade.Registry
import Retheme.EventLoop.Quiet
import Retheme.Studio
import Retheme.Main
import Retheme.Proofs.Text.Cut
import Retheme.Proofs.Text.Ends
import Retheme.Proofs.Text.Nesting
import Retheme.Proofs.Text.Blank
import Retheme.Proofs.Expression.Written
import Retheme.Proofs.Expression.RoundTrip
import Retheme.Proofs.Sheet.Comment
import Retheme.Proofs.Sheet.RuleName
import Retheme.Proofs.Sheet.CanonicalName
import Retheme.Proofs.Sheet.Block
import Retheme.Proofs.Sheet.Declaration
import Retheme.Proofs.Sheet.AtRule
import Retheme.Proofs.Override.Grouping
import Retheme.Proofs.Sheet.Marker
import Retheme.Proofs.Sheet.MarkerSearch
import Retheme.Proofs.Sheet.OneDeclaration
import Retheme.Proofs.Sheet.NamePart
import Retheme.Proofs.Sheet.SelectorComment
import Retheme.Proofs.Sheet.Reading
import Retheme.Proofs.Sheet.SelectorList
import Retheme.Proofs.Processor.Scan
import Retheme.Proofs.Flat.Basic
import Retheme.Proofs.Flat.Scan
import Retheme.Proofs.Flat.Published
import Retheme.Proofs.Function.Result
import Retheme.Proofs.Override.Rendering
import Retheme.Proofs.Override.Growth
import Retheme.Proofs.Expression.Agree
import Retheme.Proofs.Expression.Outcome
import Retheme.Proofs.Processor.Agree
import Retheme.Proofs.Processor.Registration
import Retheme.Proofs.Processor.Isolation
import Retheme.Proofs.Processor.Seam
import Retheme.Proofs.Theme.Readiness
import Retheme.Proofs.Text.Members
import Retheme.Proofs.Text.Balance
import Retheme.Proofs.Sheet.Braces
import Retheme.Proofs.Scope.Owner
import Retheme.Proofs.Expression.Frame
import Retheme.Proofs.Expression.Trace
import Retheme.Proofs.Expression.Pure
import Retheme.Proofs.Expression.Inlining
import Retheme.Proofs.Processor.Addition
import Retheme.Proofs.Processor.Keeping
import Retheme.Proofs.Processor.Balance
import Retheme.Proofs.Processor.Independence
import Retheme.Proofs.Processor.Publication
import Retheme.Proofs.Studio.LastWrite
import Retheme.Proofs.Number.Rounding
import Retheme.Proofs.Number.Shortest
import Retheme.Proofs.Json.RoundTrip
import Retheme.Proofs.Json.Plain
import Retheme.Proofs.File.Tree
import Retheme.Proofs.Settings.RoundTrip
import Retheme.Proofs.Settings.Loading
import Retheme.Proofs.CommandLine.Refusal
import Retheme.Proofs.CommandLine.Delivery
import Retheme.Proofs.Cascade.Filling
import Retheme.Proofs.Sheet.Importance
import Retheme.Proofs.Sheet.Property
import Retheme.Proofs.Processor.Identity
import Retheme.Proofs.Sheet.QuotedSelector
import Retheme.Proofs.Text.Words
import Retheme.Proofs.Scope.Spacing
import Retheme.Proofs.Scope.ClassToken
import Retheme.Proofs.Expression.Leaf
import Retheme.Proofs.Expression.Mention
import Retheme.Proofs.Sheet.MarkerComment
import Retheme.Proofs.Processor.CustomScope
import Retheme.Proofs.Studio.Confinement
import Retheme.Proofs.Processor.Relevance
import Retheme.Proofs.Processor.Namespace
import Retheme.Proofs.Expression.ArgumentList
import Retheme.Proofs.Expression.Parentheses
import Retheme.Proofs.Function.Template
import Retheme.Proofs.Number.Comparison
import Retheme.Proofs.Number.UnitText
import Retheme.Proofs.Color.Range
import Retheme.Proofs.Color.Functional
import Retheme.Proofs.Function.Inversion
import Retheme.Proofs.Text.Base64
import Retheme.Proofs.Text.HexDigit
import Retheme.Proofs.Function.Passes
import Retheme.Proofs.Function.InTurn
import Retheme.Proofs.Function.AtOnce
import Retheme.Proofs.Function.Recoloring
import Retheme.Proofs.Cascade.Independence
import Retheme.Proofs.Settings.Validity
import Retheme.Proofs.Processor.Formless
import Retheme.Proofs.Expression.Integers
import Retheme.Proofs.Sheet.CommentFree
import Retheme.Proofs.Sheet.CommentSearch
import Retheme.Proofs.Sheet.FixedName
import Retheme.Proofs.Expression.TopLevel
import Retheme.Proofs.File.Resolution
import Retheme.Proofs.File.Publisher
