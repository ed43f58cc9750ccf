import ReleaseAudit.Builtin
import ReleaseAudit.Check.Error
import ReleaseAudit.Check.File
import ReleaseAudit.Check.Run
import ReleaseAudit.Check.Status
import ReleaseAudit.Check.Tree
import ReleaseAudit.CommandLine
import ReleaseAudit.Component
import ReleaseAudit.Config
import ReleaseAudit.Decimal.Binary64
import ReleaseAudit.Decimal.Numeral
import ReleaseAudit.Decimal.Positional
import ReleaseAudit.Decimal.Power
import ReleaseAudit.Decimal.Whole
import ReleaseAudit.Diagnostic
import ReleaseAudit.Dict
import ReleaseAudit.Environment
import ReleaseAudit.Expr
import ReleaseAudit.Expr.Eval
import ReleaseAudit.Expr.Parse
import ReleaseAudit.Fault
import ReleaseAudit.FileError
import ReleaseAudit.FileTree
import ReleaseAudit.Gate
import ReleaseAudit.Git.Cache
import ReleaseAudit.Git.Credentials
import ReleaseAudit.Git.Program
import ReleaseAudit.Git.Repository
import ReleaseAudit.Git.Script
import ReleaseAudit.Glob
import ReleaseAudit.History.Error
import ReleaseAudit.History.Graph
import ReleaseAudit.History.Provenance
import ReleaseAudit.History.Reachability
import ReleaseAudit.History.Store
import ReleaseAudit.Json
import ReleaseAudit.Json.Number
import ReleaseAudit.Json.Parse
import ReleaseAudit.Json.Print
import ReleaseAudit.Load
import ReleaseAudit.LoadError
import ReleaseAudit.Main
import ReleaseAudit.Path
import ReleaseAudit.Pattern.Basic
import ReleaseAudit.Pattern.CaseFold
import ReleaseAudit.Pattern.Category
import ReleaseAudit.Pattern.CharClass
import ReleaseAudit.Pattern.Parse
import ReleaseAudit.Pattern.Property
import ReleaseAudit.Pattern.Script
import ReleaseAudit.Program
import ReleaseAudit.Proofs.Check.Clause
import ReleaseAudit.Proofs.Check.Cycle
import ReleaseAudit.Proofs.Check.Expansion
import ReleaseAudit.Proofs.Check.Import
import ReleaseAudit.Proofs.Check.Moment
import ReleaseAudit.Proofs.Check.Policy
import ReleaseAudit.Proofs.Check.StatusRule
import ReleaseAudit.Proofs.Component.Change
import ReleaseAudit.Proofs.Component.Name
import ReleaseAudit.Proofs.Component.Reference
import ReleaseAudit.Proofs.Config.Broken
import ReleaseAudit.Proofs.Config.Layers
import ReleaseAudit.Proofs.Config.Search
import ReleaseAudit.Proofs.Decimal.Distance
import ReleaseAudit.Proofs.Decimal.Integer
import ReleaseAudit.Proofs.Decimal.Order
import ReleaseAudit.Proofs.Decimal.Positional
import ReleaseAudit.Proofs.Diagnostic
import ReleaseAudit.Proofs.Dict
import ReleaseAudit.Proofs.Expr.Blame
import ReleaseAudit.Proofs.Expr.Caret
import ReleaseAudit.Proofs.Expr.Completeness
import ReleaseAudit.Proofs.Expr.Failure
import ReleaseAudit.Proofs.Expr.Fault
import ReleaseAudit.Proofs.Expr.FreeListing
import ReleaseAudit.Proofs.Expr.FreeNames
import ReleaseAudit.Proofs.Expr.Given
import ReleaseAudit.Proofs.Expr.Grammar
import ReleaseAudit.Proofs.Expr.Layout
import ReleaseAudit.Proofs.Expr.Locals
import ReleaseAudit.Proofs.Expr.Located
import ReleaseAudit.Proofs.Expr.Meaning
import ReleaseAudit.Proofs.Expr.Nodes
import ReleaseAudit.Proofs.Expr.Occurrence
import ReleaseAudit.Proofs.Expr.Ordered
import ReleaseAudit.Proofs.Expr.Outcome
import ReleaseAudit.Proofs.Expr.Parsing
import ReleaseAudit.Proofs.Expr.Placing
import ReleaseAudit.Proofs.Expr.Print
import ReleaseAudit.Proofs.Expr.Reached
import ReleaseAudit.Proofs.Expr.Reading
import ReleaseAudit.Proofs.Expr.Scope
import ReleaseAudit.Proofs.Expr.Selection
import ReleaseAudit.Proofs.FileTree
import ReleaseAudit.Proofs.Git.Commits
import ReleaseAudit.Proofs.Git.Records
import ReleaseAudit.Proofs.Git.Redaction
import ReleaseAudit.Proofs.History.Access
import ReleaseAudit.Proofs.History.Ancestry
import ReleaseAudit.Proofs.History.BestAncestors
import ReleaseAudit.Proofs.History.Branches
import ReleaseAudit.Proofs.History.Listing
import ReleaseAudit.Proofs.History.MergeBase
import ReleaseAudit.Proofs.History.Mirror
import ReleaseAudit.Proofs.History.Notes
import ReleaseAudit.Proofs.History.PlainWalk
import ReleaseAudit.Proofs.History.Provenance
import ReleaseAudit.Proofs.History.Range
import ReleaseAudit.Proofs.History.RangeOrder
import ReleaseAudit.Proofs.History.RangeRun
import ReleaseAudit.Proofs.History.Reachability
import ReleaseAudit.Proofs.History.Repository
import ReleaseAudit.Proofs.History.Revision
import ReleaseAudit.Proofs.History.Rounds
import ReleaseAudit.Proofs.Path
import ReleaseAudit.Proofs.Path.Upward
import ReleaseAudit.Proofs.Rule.Nesting
import ReleaseAudit.Proofs.Rule.Order
import ReleaseAudit.Proofs.Rule.Written
import ReleaseAudit.Proofs.Source.Assembly
import ReleaseAudit.Proofs.Source.Commits
import ReleaseAudit.Proofs.Text.Line
import ReleaseAudit.Proofs.Text.Replacement
import ReleaseAudit.Proofs.Text.Words
import ReleaseAudit.Proofs.Token.Gap
import ReleaseAudit.Proofs.Token.Lexeme
import ReleaseAudit.Proofs.Token.Lines
import ReleaseAudit.Proofs.Token.Merge
import ReleaseAudit.Proofs.Token.Place
import ReleaseAudit.Proofs.Token.Position
import ReleaseAudit.Proofs.Token.Refusal
import ReleaseAudit.Proofs.Token.Run
import ReleaseAudit.Proofs.Token.Tiling
import ReleaseAudit.Proofs.Token.Written
import ReleaseAudit.Proofs.Value.Call
import ReleaseAudit.Proofs.Value.Equality
import ReleaseAudit.Proofs.Value.Index
import ReleaseAudit.Proofs.Value.Pieces
import ReleaseAudit.Proofs.Value.Sorting
import ReleaseAudit.Release
import ReleaseAudit.Report
import ReleaseAudit.Rule
import ReleaseAudit.Source
import ReleaseAudit.Source.Commits
import ReleaseAudit.Source.File
import ReleaseAudit.Span
import ReleaseAudit.Terminal
import ReleaseAudit.Text.Alphabet
import ReleaseAudit.Text.Blank
import ReleaseAudit.Text.CharRange
import ReleaseAudit.Text.Cut
import ReleaseAudit.Text.LetterCase
import ReleaseAudit.Text.Percent
import ReleaseAudit.Text.Quoted
import ReleaseAudit.Text.Search
import ReleaseAudit.Token
import ReleaseAudit.Token.Scan
import ReleaseAudit.Toml
import ReleaseAudit.Toml.Parse
import ReleaseAudit.Toml.Text
import ReleaseAudit.Value
import ReleaseAudit.Value.Access
import ReleaseAudit.Value.Call
import ReleaseAudit.Value.Relation
import ReleaseAudit.Walk
import ReleaseAudit.Yaml.Decode
import ReleaseAudit.Yaml.Document
import ReleaseAudit.Yaml.Glyph
import ReleaseAudit.Yaml.Node
import ReleaseAudit.Yaml.Scalar
import ReleaseAudit.Yaml.Token
