import KotlinBackend.Command
import KotlinBackend.Compilation
import KotlinBackend.Config.Basic
import KotlinBackend.Config.Document
import KotlinBackend.Config.Json
import KotlinBackend.Data.Distinct
import KotlinBackend.Data.OrderedMap
import KotlinBackend.Data.Tally
import KotlinBackend.Decimal.Binary
import KotlinBackend.Decimal.Scientific
import KotlinBackend.Decimal.Shortest
import KotlinBackend.DefaultConstructor
import KotlinBackend.Diagnostic
import KotlinBackend.Expected
import KotlinBackend.Facade.Basic
import KotlinBackend.Facade.EntryPoint
import KotlinBackend.Facade.External
import KotlinBackend.Facade.File
import KotlinBackend.Folding.Arithmetic
import KotlinBackend.Folding.Fold
import KotlinBackend.Intrinsic
import KotlinBackend.Json.Decoder
import KotlinBackend.Json.Printer
import KotlinBackend.Json.Reader
import KotlinBackend.Json.Value
import KotlinBackend.Lowering
import KotlinBackend.Main
import KotlinBackend.Metadata.Assembly
import KotlinBackend.Metadata.Cache
import KotlinBackend.Metadata.Decoding
import KotlinBackend.Metadata.Encoding
import KotlinBackend.Metadata.Resolver
import KotlinBackend.Name.CallableId
import KotlinBackend.Name.ClassId
import KotlinBackend.Name.Qualified
import KotlinBackend.Name.WellKnown
import KotlinBackend.Output.Body
import KotlinBackend.Output.Code
import KotlinBackend.Output.Declaration
import KotlinBackend.Output.Dispatch
import KotlinBackend.Output.Escape
import KotlinBackend.Output.Layout
import KotlinBackend.Output.Literal
import KotlinBackend.Output.Tagged
import KotlinBackend.Output.TypeName
import KotlinBackend.Placeholder
import KotlinBackend.Program.Attribute
import KotlinBackend.Program.Constant
import KotlinBackend.Program.Declaration
import KotlinBackend.Program.Decoding
import KotlinBackend.Program.Encoding
import KotlinBackend.Program.Expression
import KotlinBackend.Program.Listing
import KotlinBackend.Program.Module
import KotlinBackend.Program.Node
import KotlinBackend.Program.Renaming
import KotlinBackend.Program.Revision
import KotlinBackend.Program.SourceType
import KotlinBackend.Proofs.Call.Accessor
import KotlinBackend.Proofs.Call.Moved
import KotlinBackend.Proofs.Call.Overload
import KotlinBackend.Proofs.Call.Site
import KotlinBackend.Proofs.ClassTree
import KotlinBackend.Proofs.ConfigMerge
import KotlinBackend.Proofs.Declared
import KotlinBackend.Proofs.DefaultConstructor
import KotlinBackend.Proofs.Document.Assembly
import KotlinBackend.Proofs.Document.Module
import KotlinBackend.Proofs.Document.Program
import KotlinBackend.Proofs.Enclosing
import KotlinBackend.Proofs.EntryPoint.Added
import KotlinBackend.Proofs.EntryPoint.Started
import KotlinBackend.Proofs.EntryPoint.Tracked
import KotlinBackend.Proofs.FacadeClass
import KotlinBackend.Proofs.FacadeName
import KotlinBackend.Proofs.FileName
import KotlinBackend.Proofs.Folding.Conversion
import KotlinBackend.Proofs.Folding.Meaning
import KotlinBackend.Proofs.Folding.Signature
import KotlinBackend.Proofs.Folding.Soundness
import KotlinBackend.Proofs.Identifier
import KotlinBackend.Proofs.Intrinsic.Counted
import KotlinBackend.Proofs.Intrinsic.Replaced
import KotlinBackend.Proofs.Marker.Body
import KotlinBackend.Proofs.Marker.Counted
import KotlinBackend.Proofs.Marker.Start
import KotlinBackend.Proofs.Mention.Basic
import KotlinBackend.Proofs.Mention.Occurrence
import KotlinBackend.Proofs.Mention.Renamed
import KotlinBackend.Proofs.Mention.Renaming
import KotlinBackend.Proofs.Mention.Revision
import KotlinBackend.Proofs.Metadata.Remembered
import KotlinBackend.Proofs.Metadata.Transparent
import KotlinBackend.Proofs.Moving.Conserved
import KotlinBackend.Proofs.Moving.Repointed
import KotlinBackend.Proofs.Output.ClassPath
import KotlinBackend.Proofs.Output.DefaultValue
import KotlinBackend.Proofs.Output.FirstCase
import KotlinBackend.Proofs.Output.Formula
import KotlinBackend.Proofs.Output.Indentation
import KotlinBackend.Proofs.Output.Layouts
import KotlinBackend.Proofs.Output.Markup
import KotlinBackend.Proofs.Output.Reader
import KotlinBackend.Proofs.Output.StringLiteral
import KotlinBackend.Proofs.Output.Structure
import KotlinBackend.Proofs.OutputPath
import KotlinBackend.Proofs.Placeholder
import KotlinBackend.Proofs.Relocation
import KotlinBackend.Proofs.Resolution.Closure
import KotlinBackend.Proofs.Resolution.Conserves
import KotlinBackend.Proofs.Resolution.FilePasses
import KotlinBackend.Proofs.Resolution.ModulePasses
import KotlinBackend.Proofs.Resolution.Unresolved
import KotlinBackend.Proofs.Settled.Context
import KotlinBackend.Proofs.Settled.Passes
import KotlinBackend.Proofs.Settled.Revision
import KotlinBackend.Proofs.Symbol.Accounted
import KotlinBackend.Proofs.Symbol.ArityMark
import KotlinBackend.Proofs.Symbol.Classes
import KotlinBackend.Proofs.Symbol.Closed
import KotlinBackend.Proofs.Symbol.Contribution
import KotlinBackend.Proofs.Symbol.Effect
import KotlinBackend.Proofs.Symbol.Exposed
import KotlinBackend.Proofs.Symbol.Layered
import KotlinBackend.Proofs.Symbol.Mentioned
import KotlinBackend.Proofs.Symbol.Placement
import KotlinBackend.Proofs.Symbol.Referable
import KotlinBackend.Proofs.Symbol.Refinement
import KotlinBackend.Proofs.Symbol.Skipped
import KotlinBackend.Proofs.Symbol.Trial
import KotlinBackend.Proofs.Symbol.TypeTree
import KotlinBackend.Proofs.Symbol.Variadic
import KotlinBackend.Proofs.TemplateNumber
import KotlinBackend.Reference
import KotlinBackend.Session
import KotlinBackend.Storage.Disk
import KotlinBackend.Storage.Path
import KotlinBackend.Symbol.Basic
import KotlinBackend.Symbol.Builtins
import KotlinBackend.Symbol.Decoding
import KotlinBackend.Symbol.Encoding
import KotlinBackend.Symbol.Foreign
import KotlinBackend.Symbol.Graph
import KotlinBackend.Symbol.Source
import KotlinBackend.Symbol.Synthesis
import KotlinBackend.Text.Blank
import KotlinBackend.Text.Case
import KotlinBackend.Text.Quoted
import KotlinBackend.Text.Split
import KotlinBackend.Text.Unprintable
import KotlinBackend.Toml.Basic
import KotlinBackend.Toml.Quoted
import KotlinBackend.Toml.Reader
import KotlinBackend.Toml.Scalar
import KotlinBackend.Toml.Table
