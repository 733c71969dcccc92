import GraphSelect.Binding.Binder
import GraphSelect.Binding.Reader
import GraphSelect.Binding.Table
import GraphSelect.Binding.Target
import GraphSelect.CommandLine.Arguments
import GraphSelect.CommandLine.Command
import GraphSelect.CommandLine.Config
import GraphSelect.CommandLine.Level
import GraphSelect.CommandLine.Listing
import GraphSelect.CommandLine.Run
import GraphSelect.Data
import GraphSelect.Decimal.Binary64
import GraphSelect.Decimal.Layout
import GraphSelect.Decimal.Shortest
import GraphSelect.Document.Basic
import GraphSelect.Document.Build
import GraphSelect.Document.Format
import GraphSelect.Document.Outline
import GraphSelect.Error
import GraphSelect.Graph.Attributes
import GraphSelect.Graph.Basic
import GraphSelect.Graph.Edit
import GraphSelect.Graph.NodeId
import GraphSelect.Graph.View
import GraphSelect.Json.Number
import GraphSelect.Json.Printer
import GraphSelect.Json.Reader
import GraphSelect.Limits
import GraphSelect.Main
import GraphSelect.Proofs.Binding.Fillable
import GraphSelect.Proofs.Binding.Independence
import GraphSelect.Proofs.Binding.Nesting
import GraphSelect.Proofs.Binding.Outcome
import GraphSelect.Proofs.Binding.ReadBack
import GraphSelect.Proofs.Binding.Steady
import GraphSelect.Proofs.CommandLine.ConfigFile
import GraphSelect.Proofs.CommandLine.Settings
import GraphSelect.Proofs.CommandLine.Store
import GraphSelect.Proofs.Document.Attributes
import GraphSelect.Proofs.Document.Built
import GraphSelect.Proofs.Document.Graph
import GraphSelect.Proofs.Document.Tree
import GraphSelect.Proofs.Document.TreeReading
import GraphSelect.Proofs.Graph.Ancestry
import GraphSelect.Proofs.Graph.Built
import GraphSelect.Proofs.Graph.Edits
import GraphSelect.Proofs.Graph.Forest
import GraphSelect.Proofs.Graph.InPlace
import GraphSelect.Proofs.Graph.Labels
import GraphSelect.Proofs.Graph.LevelLoop
import GraphSelect.Proofs.Graph.Links
import GraphSelect.Proofs.Graph.Moved
import GraphSelect.Proofs.Graph.Path
import GraphSelect.Proofs.Graph.Rearrange
import GraphSelect.Proofs.Graph.Siblings
import GraphSelect.Proofs.Graph.Subtree
import GraphSelect.Proofs.Graph.Undo
import GraphSelect.Proofs.Json.Integer
import GraphSelect.Proofs.Regex.Anchored
import GraphSelect.Proofs.Regex.Extension
import GraphSelect.Proofs.Regex.Literal
import GraphSelect.Proofs.Regex.Pieces
import GraphSelect.Proofs.Regex.Reading
import GraphSelect.Proofs.Regex.Spans
import GraphSelect.Proofs.Regex.Step
import GraphSelect.Proofs.Selector.Acceptance
import GraphSelect.Proofs.Selector.Agreement
import GraphSelect.Proofs.Selector.AttributeClause
import GraphSelect.Proofs.Selector.Block
import GraphSelect.Proofs.Selector.Builtin
import GraphSelect.Proofs.Selector.Cache
import GraphSelect.Proofs.Selector.Call
import GraphSelect.Proofs.Selector.Cursor
import GraphSelect.Proofs.Selector.Evaluation
import GraphSelect.Proofs.Selector.Grammar
import GraphSelect.Proofs.Selector.IndexPath
import GraphSelect.Proofs.Selector.Limit
import GraphSelect.Proofs.Selector.Lookup
import GraphSelect.Proofs.Selector.Meaning
import GraphSelect.Proofs.Selector.Position
import GraphSelect.Proofs.Selector.Quotation
import GraphSelect.Proofs.Selector.Safety
import GraphSelect.Proofs.Selector.Segment
import GraphSelect.Proofs.Selector.SelectorAgreement
import GraphSelect.Proofs.Selector.Sequence
import GraphSelect.Proofs.Selector.Snippet
import GraphSelect.Proofs.Selector.Source
import GraphSelect.Proofs.Selector.Token
import GraphSelect.Proofs.Selector.Wider
import GraphSelect.Proofs.Steps
import GraphSelect.Proofs.Text.Scan
import GraphSelect.Proofs.Toml.Document
import GraphSelect.Proofs.Toml.Value
import GraphSelect.Proofs.Traversal.Component
import GraphSelect.Proofs.Traversal.Coverage
import GraphSelect.Proofs.Traversal.LeastOrder
import GraphSelect.Proofs.Traversal.Levels
import GraphSelect.Proofs.Traversal.PreOrder
import GraphSelect.Proofs.Traversal.Sortable
import GraphSelect.Proofs.Traversal.StackLoop
import GraphSelect.Regex.Basic
import GraphSelect.Regex.Bracket
import GraphSelect.Regex.CharSet
import GraphSelect.Regex.Expr
import GraphSelect.Regex.Flags
import GraphSelect.Regex.Match
import GraphSelect.Regex.Primitive
import GraphSelect.Regex.Property
import GraphSelect.Regex.Reader
import GraphSelect.Selector.Args
import GraphSelect.Selector.Builtin
import GraphSelect.Selector.Cache
import GraphSelect.Selector.Compile
import GraphSelect.Selector.Pattern
import GraphSelect.Selector.Query
import GraphSelect.Selector.Registry
import GraphSelect.Selector.Snippet
import GraphSelect.Selector.Token
import GraphSelect.Text.Blank
import GraphSelect.Text.Natural
import GraphSelect.Text.Quoted
import GraphSelect.Text.Scan
import GraphSelect.Text.Utf8
import GraphSelect.Toml.DateTime
import GraphSelect.Toml.Number
import GraphSelect.Toml.Reader
import GraphSelect.Toml.Table
import GraphSelect.Toml.Text
import GraphSelect.Toml.Writer
import GraphSelect.Traversal.BreadthFirst
import GraphSelect.Traversal.DependencyOrder
import GraphSelect.Traversal.DepthFirst
import GraphSelect.Traversal.Strategy
import GraphSelect.Traversal.Walk
import GraphSelect.Unicode.Age
import GraphSelect.Unicode.CaseClass
import GraphSelect.Unicode.Casing
import GraphSelect.Unicode.Category
import GraphSelect.Unicode.GraphemeBreak
import GraphSelect.Unicode.Property
import GraphSelect.Unicode.Ranges
import GraphSelect.Unicode.Script
import GraphSelect.Unicode.ScriptExtensions
import GraphSelect.Unicode.SentenceBreak
import GraphSelect.Unicode.WordBreak
