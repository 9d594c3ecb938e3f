import CodeConventions.Analysis.File
import CodeConventions.CommandLine.Arguments
import CodeConventions.CommandLine.Command
import CodeConventions.CommandLine.Run
import CodeConventions.Console.Argument
import CodeConventions.Console.Argument.Token
import CodeConventions.Console.Color
import CodeConventions.Console.Markup
import CodeConventions.Console.Page
import CodeConventions.Console.Pictograph
import CodeConventions.Console.Pictograph.Flag
import CodeConventions.Console.Pictograph.Nature
import CodeConventions.Console.Pictograph.Person
import CodeConventions.Console.Pictograph.Symbol
import CodeConventions.Console.Style
import CodeConventions.Diagnostic.Basic
import CodeConventions.Diagnostic.Merge
import CodeConventions.Expression.Literal
import CodeConventions.Expression.Member
import CodeConventions.Expression.ObjectLiteral
import CodeConventions.Fixture.Expectation
import CodeConventions.Fixture.Layout
import CodeConventions.Fixture.Run
import CodeConventions.Function.Basic
import CodeConventions.Function.Component
import CodeConventions.Json.Basic
import CodeConventions.Json.Pairs
import CodeConventions.Json.Printer
import CodeConventions.Json.Reader
import CodeConventions.Json.Shown
import CodeConventions.Main
import CodeConventions.Markup.Basic
import CodeConventions.Number.Binary64
import CodeConventions.Number.Digits
import CodeConventions.Number.Literal
import CodeConventions.Options.Field
import CodeConventions.Options.Issue
import CodeConventions.Options.RuleFields
import CodeConventions.Options.Value
import CodeConventions.Pattern.Basic
import CodeConventions.Pattern.Reader
import CodeConventions.Proofs.Analysis.Comments
import CodeConventions.Proofs.Analysis.Fault
import CodeConventions.Proofs.Analysis.Independence
import CodeConventions.Proofs.Analysis.Translation
import CodeConventions.Proofs.CommandLine.Check
import CodeConventions.Proofs.CommandLine.Configuration
import CodeConventions.Proofs.CommandLine.Fixtures
import CodeConventions.Proofs.Diagnostic.Kept
import CodeConventions.Proofs.Diagnostic.Merge
import CodeConventions.Proofs.Edit.Analysis
import CodeConventions.Proofs.Edit.Expression
import CodeConventions.Proofs.Edit.Markup
import CodeConventions.Proofs.Edit.Rules.Attribute
import CodeConventions.Proofs.Edit.Rules.Component
import CodeConventions.Proofs.Edit.Rules.Functional
import CodeConventions.Proofs.Edit.Rules.Query
import CodeConventions.Proofs.Edit.Source
import CodeConventions.Proofs.Edit.Tree
import CodeConventions.Proofs.Except
import CodeConventions.Proofs.Expression.Literal
import CodeConventions.Proofs.Expression.PropertyOrder
import CodeConventions.Proofs.Fixture.Expectation
import CodeConventions.Proofs.Fixture.Grammar
import CodeConventions.Proofs.Fixture.Numbering
import CodeConventions.Proofs.Fixture.Region
import CodeConventions.Proofs.Json.Overlay
import CodeConventions.Proofs.Json.RoundTrip
import CodeConventions.Proofs.Json.Scalar
import CodeConventions.Proofs.Likeness.Basic
import CodeConventions.Proofs.Likeness.Reactivity
import CodeConventions.Proofs.Likeness.Scope
import CodeConventions.Proofs.Location.Attribute
import CodeConventions.Proofs.Location.Component
import CodeConventions.Proofs.Location.File
import CodeConventions.Proofs.Location.Finding
import CodeConventions.Proofs.Location.Functional
import CodeConventions.Proofs.Location.Remark
import CodeConventions.Proofs.Location.RoutePath
import CodeConventions.Proofs.Registry.Ledger
import CodeConventions.Proofs.Report.Agreement
import CodeConventions.Proofs.Report.Record
import CodeConventions.Proofs.Report.Rows
import CodeConventions.Proofs.Report.Tally
import CodeConventions.Proofs.Rules.Apart
import CodeConventions.Proofs.Rules.Attribute
import CodeConventions.Proofs.Rules.Binding
import CodeConventions.Proofs.Rules.Builtin
import CodeConventions.Proofs.Rules.Comparison
import CodeConventions.Proofs.Rules.Component
import CodeConventions.Proofs.Rules.Crash
import CodeConventions.Proofs.Rules.Functional
import CodeConventions.Proofs.Rules.Loss
import CodeConventions.Proofs.Rules.Markup
import CodeConventions.Proofs.Rules.Mutation
import CodeConventions.Proofs.Rules.OptionSpelling
import CodeConventions.Proofs.Rules.PathParameter
import CodeConventions.Proofs.Rules.Query
import CodeConventions.Proofs.Rules.QueryKey
import CodeConventions.Proofs.Rules.Reactivity.Read
import CodeConventions.Proofs.Rules.Reactivity.Use
import CodeConventions.Proofs.Rules.Reactivity.Variable
import CodeConventions.Proofs.Rules.Relaxation.Basic
import CodeConventions.Proofs.Rules.Relaxation.Finding
import CodeConventions.Proofs.Rules.Relaxation.Functional
import CodeConventions.Proofs.Rules.Relaxation.Markup
import CodeConventions.Proofs.Rules.RepeatedAttribute
import CodeConventions.Proofs.Rules.RoutePath
import CodeConventions.Proofs.Rules.ScriptAddress
import CodeConventions.Proofs.Rules.Suggestion
import CodeConventions.Proofs.Scope.BindingPattern
import CodeConventions.Proofs.Scope.Constant
import CodeConventions.Proofs.Scope.Declaration
import CodeConventions.Proofs.Scope.Hoisting
import CodeConventions.Proofs.Scope.Library
import CodeConventions.Proofs.Scope.Read
import CodeConventions.Proofs.Scope.Resolution
import CodeConventions.Proofs.Settings.Construction
import CodeConventions.Proofs.Settings.Entries
import CodeConventions.Proofs.Settings.Precedence
import CodeConventions.Proofs.Settings.Selection
import CodeConventions.Proofs.Source.Place
import CodeConventions.Proofs.Text.Joined
import CodeConventions.Proofs.Text.Rows
import CodeConventions.Proofs.Text.Spelling
import CodeConventions.Proofs.Tree.Argument
import CodeConventions.Proofs.Tree.Attribute
import CodeConventions.Proofs.Tree.Climb
import CodeConventions.Proofs.Tree.Descent
import CodeConventions.Proofs.Tree.Grammar
import CodeConventions.Proofs.Tree.Range
import CodeConventions.Proofs.Tree.Separated
import CodeConventions.Proofs.Tree.Walk
import CodeConventions.Proofs.Types.Mutability
import CodeConventions.Proofs.Workspace.Collection
import CodeConventions.Proofs.Workspace.Errors
import CodeConventions.Proofs.Wrapping.Reactivity
import CodeConventions.Proofs.Wrapping.Tree
import CodeConventions.Report.Format
import CodeConventions.Report.Record
import CodeConventions.Report.Summary
import CodeConventions.Rules.Attribute
import CodeConventions.Rules.Binding
import CodeConventions.Rules.Check
import CodeConventions.Rules.ComponentBody
import CodeConventions.Rules.EmptyElement
import CodeConventions.Rules.EventHandler
import CodeConventions.Rules.LibraryUse
import CodeConventions.Rules.Mutation
import CodeConventions.Rules.OptionOrder
import CodeConventions.Rules.QueryHook
import CodeConventions.Rules.Reactivity.Read
import CodeConventions.Rules.Reactivity.TrackedScope
import CodeConventions.Rules.Reactivity.Variable
import CodeConventions.Rules.Registry
import CodeConventions.Rules.Rejection
import CodeConventions.Rules.Remark
import CodeConventions.Rules.Rendering
import CodeConventions.Rules.RoutePath
import CodeConventions.Rules.Rule
import CodeConventions.Rules.StyleAttribute
import CodeConventions.Rules.TypeShape
import CodeConventions.Rules.Undefined
import CodeConventions.Scope.Basic
import CodeConventions.Scope.BindingPattern
import CodeConventions.Scope.Constant
import CodeConventions.Scope.Import
import CodeConventions.Scope.Library
import CodeConventions.Scope.Read
import CodeConventions.Settings.Basic
import CodeConventions.Settings.Registry
import CodeConventions.Settings.Source
import CodeConventions.Source.SourceText
import CodeConventions.Text.Blank
import CodeConventions.Text.Case
import CodeConventions.Text.Cased
import CodeConventions.Text.Columns
import CodeConventions.Text.Letters
import CodeConventions.Text.Lines
import CodeConventions.Text.Printable
import CodeConventions.Text.Quoted
import CodeConventions.Text.Surrogate
import CodeConventions.Text.Utf8
import CodeConventions.Text.Words
import CodeConventions.Tree.Basic
import CodeConventions.Tree.Document
import CodeConventions.Tree.Encoding
import CodeConventions.Tree.Wrapper
import CodeConventions.Types.Mutability
import CodeConventions.Vocabulary.DataFetching
import CodeConventions.Vocabulary.Functional
import CodeConventions.Vocabulary.Markup
import CodeConventions.Vocabulary.Reactive
import CodeConventions.Vocabulary.Style
import CodeConventions.Workspace.Access
import CodeConventions.Workspace.Analysis
import CodeConventions.Workspace.Encoding
import CodeConventions.Workspace.Entry
import CodeConventions.Workspace.FilePath
