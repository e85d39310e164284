import SchemaLoom.Chain.Run
import SchemaLoom.Chain.Source
import SchemaLoom.CommandLine.Arguments
import SchemaLoom.CommandLine.Command
import SchemaLoom.CommandLine.Run
import SchemaLoom.Compiler
import SchemaLoom.Compiler.Command
import SchemaLoom.Declarations
import SchemaLoom.Failure
import SchemaLoom.FileTree.Basic
import SchemaLoom.FileTree.Path
import SchemaLoom.Ini.Document
import SchemaLoom.InputDefaults.Basic
import SchemaLoom.InputDefaults.Module
import SchemaLoom.Json.Basic
import SchemaLoom.Json.Fault
import SchemaLoom.Json.Lexeme
import SchemaLoom.Json.Punctuation
import SchemaLoom.Json.Reader
import SchemaLoom.Json.Skip
import SchemaLoom.Json.Writer
import SchemaLoom.Json5.Document
import SchemaLoom.Main
import SchemaLoom.Member.Basic
import SchemaLoom.Member.Document
import SchemaLoom.Member.Key
import SchemaLoom.Member.Scan
import SchemaLoom.Number.Binary64
import SchemaLoom.Number.Rounded
import SchemaLoom.Number.Shortest
import SchemaLoom.Number.Wide
import SchemaLoom.Proofs.Chain.Envelope
import SchemaLoom.Proofs.Chain.Steps
import SchemaLoom.Proofs.Chain.TypesImport
import SchemaLoom.Proofs.Chain.Written
import SchemaLoom.Proofs.Declarations.Layout
import SchemaLoom.Proofs.Declarations.Reread
import SchemaLoom.Proofs.Fields.Lookup
import SchemaLoom.Proofs.Fields.Once
import SchemaLoom.Proofs.Fields.Sequence
import SchemaLoom.Proofs.FileTree.Paths
import SchemaLoom.Proofs.FileTree.Writes
import SchemaLoom.Proofs.InputDefaults.Arms
import SchemaLoom.Proofs.InputDefaults.Filled
import SchemaLoom.Proofs.InputDefaults.FromSchema
import SchemaLoom.Proofs.InputDefaults.Imports
import SchemaLoom.Proofs.InputDefaults.ModuleLines
import SchemaLoom.Proofs.Json.Indented
import SchemaLoom.Proofs.Json.Numerals
import SchemaLoom.Proofs.Json.Quoted
import SchemaLoom.Proofs.Json.SameData
import SchemaLoom.Proofs.Json.Steps
import SchemaLoom.Proofs.Json.UniqueKeys
import SchemaLoom.Proofs.Json.Written
import SchemaLoom.Proofs.Member.Blocks
import SchemaLoom.Proofs.Member.Braces
import SchemaLoom.Proofs.Member.Comments
import SchemaLoom.Proofs.Member.Entries
import SchemaLoom.Proofs.Member.Indentation
import SchemaLoom.Proofs.Member.Keys
import SchemaLoom.Proofs.Member.OneLine
import SchemaLoom.Proofs.Member.Reread
import SchemaLoom.Proofs.Member.Selected
import SchemaLoom.Proofs.Schema.Faults
import SchemaLoom.Proofs.Schema.Kept
import SchemaLoom.Proofs.Schema.KeyOrder
import SchemaLoom.Proofs.Schema.Lifecycle
import SchemaLoom.Proofs.Schema.Merged
import SchemaLoom.Proofs.Schema.MergedNode
import SchemaLoom.Proofs.Schema.Nodes
import SchemaLoom.Proofs.Schema.Paths
import SchemaLoom.Proofs.Schema.Pointers
import SchemaLoom.Proofs.Schema.Positions
import SchemaLoom.Proofs.Schema.Reapplied
import SchemaLoom.Proofs.Schema.Stacked
import SchemaLoom.Proofs.Schema.Stored
import SchemaLoom.Proofs.Schema.Typed
import SchemaLoom.Proofs.Schema.Undeclared
import SchemaLoom.Proofs.Text.Blank
import SchemaLoom.Proofs.Text.Lines
import SchemaLoom.Proofs.Text.Pieces
import SchemaLoom.Proofs.TypeExpr.Named
import SchemaLoom.Proofs.TypeExpr.Names
import SchemaLoom.Proofs.TypeExpr.Sites
import SchemaLoom.Proofs.TypeExpr.Structure
import SchemaLoom.Proofs.TypeExpr.Unambiguous
import SchemaLoom.Proofs.TypeExpr.Written
import SchemaLoom.Ron.Document
import SchemaLoom.Schema.Allowlist
import SchemaLoom.Schema.Defaults
import SchemaLoom.Schema.Kind
import SchemaLoom.Schema.Merge
import SchemaLoom.Schema.Node
import SchemaLoom.Schema.Order
import SchemaLoom.Schema.Shape
import SchemaLoom.Settings.Basic
import SchemaLoom.Settings.Format
import SchemaLoom.Settings.FromJson
import SchemaLoom.Settings.Layer
import SchemaLoom.Settings.Load
import SchemaLoom.Settings.Value
import SchemaLoom.Shell.Arithmetic
import SchemaLoom.Shell.Builtin
import SchemaLoom.Shell.Builtin.Aliases
import SchemaLoom.Shell.Builtin.Arguments
import SchemaLoom.Shell.Builtin.Input
import SchemaLoom.Shell.Builtin.Jobs
import SchemaLoom.Shell.Builtin.Options
import SchemaLoom.Shell.Builtin.Permissions
import SchemaLoom.Shell.Builtin.Signals
import SchemaLoom.Shell.Builtin.Variables
import SchemaLoom.Shell.Command
import SchemaLoom.Shell.Condition
import SchemaLoom.Shell.Control
import SchemaLoom.Shell.Copy
import SchemaLoom.Shell.Copy.Quoted
import SchemaLoom.Shell.Descriptor
import SchemaLoom.Shell.Echo
import SchemaLoom.Shell.Expansion
import SchemaLoom.Shell.Fields
import SchemaLoom.Shell.Format
import SchemaLoom.Shell.Fraction
import SchemaLoom.Shell.Home
import SchemaLoom.Shell.Location
import SchemaLoom.Shell.Machine
import SchemaLoom.Shell.PathPattern
import SchemaLoom.Shell.Pattern
import SchemaLoom.Shell.Process
import SchemaLoom.Shell.Program
import SchemaLoom.Shell.Reader
import SchemaLoom.Shell.Run
import SchemaLoom.Shell.State
import SchemaLoom.Shell.Token
import SchemaLoom.Shell.Way
import SchemaLoom.Text.Blank
import SchemaLoom.Text.Lines
import SchemaLoom.Text.Printable
import SchemaLoom.Text.Quoted
import SchemaLoom.Text.Utf8
import SchemaLoom.Text.Word
import SchemaLoom.Toml.Date
import SchemaLoom.Toml.Document
import SchemaLoom.Toml.Scalar
import SchemaLoom.Toml.Text
import SchemaLoom.TypeExpr.Basic
import SchemaLoom.TypeExpr.Naming
import SchemaLoom.TypeExpr.OfSchema
import SchemaLoom.TypeExpr.Text
import SchemaLoom.Yaml.Cursor
import SchemaLoom.Yaml.Document
import SchemaLoom.Yaml.Scalar
import SchemaLoom.Yaml.Text
import SchemaLoom.Yaml.Token
