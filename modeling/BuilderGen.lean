import BuilderGen.Builder.Assembly
import BuilderGen.Builder.Default
import BuilderGen.Builder.Derivation
import BuilderGen.Builder.Fault
import BuilderGen.Builder.Shape
import BuilderGen.CommandLine.Arguments
import BuilderGen.CommandLine.Commands
import BuilderGen.Data.Node
import BuilderGen.Data.Value
import BuilderGen.Generation
import BuilderGen.Hierarchy.Basic
import BuilderGen.Hierarchy.Lineage
import BuilderGen.Hierarchy.Reference
import BuilderGen.Json.Printer
import BuilderGen.Json.Reader
import BuilderGen.Json.Token
import BuilderGen.Log.Event
import BuilderGen.Log.Filter
import BuilderGen.Log.Pattern
import BuilderGen.Log.Traced
import BuilderGen.Main
import BuilderGen.Name.Derived
import BuilderGen.Name.Identifier
import BuilderGen.Number.Digit
import BuilderGen.Number.Double
import BuilderGen.Number.Layout
import BuilderGen.Number.Scaled
import BuilderGen.Number.Shortest
import BuilderGen.Path
import BuilderGen.Run
import BuilderGen.Schema.Basic
import BuilderGen.Schema.Check
import BuilderGen.Schema.Error
import BuilderGen.Schema.Reader
import BuilderGen.Schema.Record
import BuilderGen.Schema.Writer
import BuilderGen.Source.ClassRef
import BuilderGen.Source.File
import BuilderGen.Source.Literal
import BuilderGen.Source.NameTable
import BuilderGen.Source.Printer
import BuilderGen.Storage.Basic
import BuilderGen.Storage.Error
import BuilderGen.Storage.FileTree
import BuilderGen.Text.Alphabetic
import BuilderGen.Text.Blank
import BuilderGen.Text.Case
import BuilderGen.Text.CaseMapping
import BuilderGen.Text.CaseProperty
import BuilderGen.Text.Numeric
import BuilderGen.Text.Segments
import BuilderGen.Text.Sorted
import BuilderGen.Text.Stride
import BuilderGen.Toml.Quoted
import BuilderGen.Toml.Reader
import BuilderGen.Toml.Scalar
import BuilderGen.Toml.Tree
import BuilderGen.Types.TypeExpression
import BuilderGen.Types.ValueType
import BuilderGen.Proofs.Hierarchy.Visit
import BuilderGen.Proofs.Hierarchy.Acceptance
import BuilderGen.Proofs.Hierarchy.Ancestry
import BuilderGen.Proofs.Hierarchy.Alike
import BuilderGen.Proofs.Hierarchy.Members
import BuilderGen.Proofs.Hierarchy.EntryPoint
import BuilderGen.Proofs.Revision.Hierarchy
import BuilderGen.Proofs.Revision.Derivation
import BuilderGen.Proofs.Revision.Report
import BuilderGen.Proofs.Hierarchy.Names
import BuilderGen.Proofs.Reordering.Hierarchy
import BuilderGen.Proofs.Generation.Report
import BuilderGen.Proofs.Generation.Accounting
import BuilderGen.Proofs.Reordering.Derivation
import BuilderGen.Proofs.Reordering.Report
import BuilderGen.Proofs.Source.Layout
import BuilderGen.Proofs.Source.Printed
import BuilderGen.Proofs.Source.Resolution
import BuilderGen.Proofs.Generation.Sources
import BuilderGen.Proofs.Generation.Closure
import BuilderGen.Proofs.Builder.Parameters
import BuilderGen.Proofs.Builder.Locals
import BuilderGen.Proofs.Builder.Attachment
import BuilderGen.Proofs.Path
import BuilderGen.Proofs.Builder.Conflicts
import BuilderGen.Proofs.Builder.Slots
import BuilderGen.Proofs.Builder.Usability
import BuilderGen.Proofs.Builder.Configuration
import BuilderGen.Proofs.Builder.Defaults
import BuilderGen.Proofs.Builder.Calls
import BuilderGen.Proofs.Builder.Targets
import BuilderGen.Proofs.Builder.Samples
import BuilderGen.Proofs.Generation.Artifacts
import BuilderGen.Proofs.Source.Coverage
import BuilderGen.Proofs.Source.Builtin
import BuilderGen.Proofs.Builder.References
import BuilderGen.Proofs.Generation.LambdaResult
import BuilderGen.Proofs.Run.Attempts
import BuilderGen.Proofs.CommandLine.Verdict
import BuilderGen.Proofs.Json.Tokens
import BuilderGen.Proofs.Json.Reading
import BuilderGen.Proofs.Json.Values
import BuilderGen.Proofs.Schema.RoundTrip
import BuilderGen.Proofs.Hierarchy.Overriding
import BuilderGen.Proofs.Builder.Nullability
import BuilderGen.Proofs.Hierarchy.References
import BuilderGen.Proofs.Types.Grammar
import BuilderGen.Proofs.Types.Parsing
import BuilderGen.Proofs.Generation.EntryPoint
import BuilderGen.Proofs.Builder.Texts
import BuilderGen.Proofs.Source.ClassRef
import BuilderGen.Proofs.Hierarchy.QualifiedNames
import BuilderGen.Proofs.Builder.Warnings
import BuilderGen.Proofs.Generation.Warnings
import BuilderGen.Proofs.Name.Letters
import BuilderGen.Proofs.Name.Acronym
import BuilderGen.Proofs.Name.Identifiers
import BuilderGen.Proofs.Builder.Collections
