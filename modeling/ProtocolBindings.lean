import ProtocolBindings.Bindings.Annotation
import ProtocolBindings.Bindings.Description
import ProtocolBindings.Bindings.EnumClass
import ProtocolBindings.Bindings.Identifier
import ProtocolBindings.Bindings.Import
import ProtocolBindings.Bindings.Interface
import ProtocolBindings.Bindings.Module
import ProtocolBindings.Bindings.RecordClass
import ProtocolBindings.Bindings.RecordOrder
import ProtocolBindings.Bindings.Renderer
import ProtocolBindings.Command.Arguments
import ProtocolBindings.Command.Invocation
import ProtocolBindings.Command.Report
import ProtocolBindings.Command.Run
import ProtocolBindings.Command.Surroundings
import ProtocolBindings.Config
import ProtocolBindings.Decimal.Binary64
import ProtocolBindings.Decimal.Literal
import ProtocolBindings.Decimal.Shortest
import ProtocolBindings.Failure
import ProtocolBindings.Files.Commit
import ProtocolBindings.Files.Path
import ProtocolBindings.Files.Tree
import ProtocolBindings.Generation
import ProtocolBindings.Grammar.Escape
import ProtocolBindings.Grammar.Formatted
import ProtocolBindings.Grammar.Lexer
import ProtocolBindings.Grammar.Literal
import ProtocolBindings.Grammar.Number
import ProtocolBindings.Grammar.Pattern
import ProtocolBindings.Grammar.Rules
import ProtocolBindings.Grammar.Token
import ProtocolBindings.Json.Access
import ProtocolBindings.Json.Basic
import ProtocolBindings.Json.Literal
import ProtocolBindings.Json.Printer
import ProtocolBindings.Json.Reader
import ProtocolBindings.Judgement
import ProtocolBindings.Main
import ProtocolBindings.Model.Basic
import ProtocolBindings.Model.Query
import ProtocolBindings.Model.TypeDescriptor
import ProtocolBindings.Naming
import ProtocolBindings.Notice
import ProtocolBindings.Processing
import ProtocolBindings.Proofs.Bindings.ClassNames
import ProtocolBindings.Proofs.Bindings.ClassOrder
import ProtocolBindings.Proofs.Bindings.Descriptions
import ProtocolBindings.Proofs.Bindings.Homonyms
import ProtocolBindings.Proofs.Bindings.Identifier
import ProtocolBindings.Proofs.Bindings.Imports
import ProtocolBindings.Proofs.Bindings.Labels
import ProtocolBindings.Proofs.Bindings.Layout
import ProtocolBindings.Proofs.Bindings.Literals
import ProtocolBindings.Proofs.Bindings.MemberNames
import ProtocolBindings.Proofs.Bindings.ModuleNames
import ProtocolBindings.Proofs.Bindings.Needs
import ProtocolBindings.Proofs.Bindings.OptionalFields
import ProtocolBindings.Proofs.Bindings.RecordOrder
import ProtocolBindings.Proofs.Bindings.Remarks
import ProtocolBindings.Proofs.Bindings.Rendering
import ProtocolBindings.Proofs.Bindings.Unambiguity
import ProtocolBindings.Proofs.Bindings.Whole
import ProtocolBindings.Proofs.Bindings.WireNames
import ProtocolBindings.Proofs.Command.Independence
import ProtocolBindings.Proofs.Command.Overwriting
import ProtocolBindings.Proofs.Command.Transaction
import ProtocolBindings.Proofs.Config
import ProtocolBindings.Proofs.Config.Exchange
import ProtocolBindings.Proofs.Failure
import ProtocolBindings.Proofs.Files.Agreement
import ProtocolBindings.Proofs.Files.AllOrNothing
import ProtocolBindings.Proofs.Files.Commit
import ProtocolBindings.Proofs.Files.Likeness
import ProtocolBindings.Proofs.Files.Path
import ProtocolBindings.Proofs.Files.Tree
import ProtocolBindings.Proofs.FirstOccurrence
import ProtocolBindings.Proofs.Generation
import ProtocolBindings.Proofs.Grammar.TextLiteral
import ProtocolBindings.Proofs.Json
import ProtocolBindings.Proofs.Json.Reader
import ProtocolBindings.Proofs.Json.Whole
import ProtocolBindings.Proofs.Model.Descriptor
import ProtocolBindings.Proofs.Model.Occurrence
import ProtocolBindings.Proofs.Model.Reach
import ProtocolBindings.Proofs.Model.Renderable
import ProtocolBindings.Proofs.Model.Variant
import ProtocolBindings.Proofs.Model.Whole
import ProtocolBindings.Proofs.Naming.Spelling
import ProtocolBindings.Proofs.Reference
import ProtocolBindings.Proofs.Reference.Division
import ProtocolBindings.Proofs.Resolve.Analysis
import ProtocolBindings.Proofs.Resolve.Blame
import ProtocolBindings.Proofs.Resolve.Blocks
import ProtocolBindings.Proofs.Resolve.Classification
import ProtocolBindings.Proofs.Resolve.Closedness
import ProtocolBindings.Proofs.Resolve.Contribution
import ProtocolBindings.Proofs.Resolve.EntityNames
import ProtocolBindings.Proofs.Resolve.Enumerations
import ProtocolBindings.Proofs.Resolve.Failures
import ProtocolBindings.Proofs.Resolve.FixedNames
import ProtocolBindings.Proofs.Resolve.Ignoring
import ProtocolBindings.Proofs.Resolve.Inference
import ProtocolBindings.Proofs.Resolve.Lockstep
import ProtocolBindings.Proofs.Resolve.ModelTypes
import ProtocolBindings.Proofs.Resolve.NamePaths
import ProtocolBindings.Proofs.Resolve.Nullability
import ProtocolBindings.Proofs.Resolve.Options
import ProtocolBindings.Proofs.Resolve.Partition
import ProtocolBindings.Proofs.Resolve.Places
import ProtocolBindings.Proofs.Resolve.RecordObjects
import ProtocolBindings.Proofs.Resolve.Reordering
import ProtocolBindings.Proofs.Resolve.RequestPairs
import ProtocolBindings.Proofs.Resolve.Responses
import ProtocolBindings.Proofs.Resolve.SettledTypes
import ProtocolBindings.Proofs.Resolve.Strictness
import ProtocolBindings.Proofs.Resolve.Synthesis
import ProtocolBindings.Proofs.Resolve.TypeForms
import ProtocolBindings.Proofs.Resolve.TypeLists
import ProtocolBindings.Proofs.Resolve.Variants
import ProtocolBindings.Proofs.Resolve.Whole
import ProtocolBindings.Proofs.Schema.Definitions
import ProtocolBindings.Proofs.Schema.Fragment
import ProtocolBindings.Proofs.Schema.Notices
import ProtocolBindings.Proofs.Schema.Parts
import ProtocolBindings.Proofs.Schema.Places
import ProtocolBindings.Proofs.Schema.Reading
import ProtocolBindings.Proofs.Schema.Routes
import ProtocolBindings.Proofs.Schema.WellShaped
import ProtocolBindings.Proofs.Text.Match
import ProtocolBindings.Proofs.Text.PhysicalLine
import ProtocolBindings.Proofs.Traced
import ProtocolBindings.Reference
import ProtocolBindings.Resolve.Basic
import ProtocolBindings.Resolve.Inference
import ProtocolBindings.Resolve.Pairing
import ProtocolBindings.Resolve.Session
import ProtocolBindings.Resolve.TypeList
import ProtocolBindings.Schema.Fragment
import ProtocolBindings.Schema.Reader
import ProtocolBindings.Text.Basic
import ProtocolBindings.Text.CharacterName
import ProtocolBindings.Text.Identifier
import ProtocolBindings.Text.LineFeed
import ProtocolBindings.Text.Lines
import ProtocolBindings.Text.NameTable
import ProtocolBindings.Text.NormalForm
import ProtocolBindings.Text.NormalTable
import ProtocolBindings.Text.Printable
import ProtocolBindings.Text.Quoted
import ProtocolBindings.Text.UpperCase
import ProtocolBindings.Text.Word
import ProtocolBindings.Traced
