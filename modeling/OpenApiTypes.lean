import OpenApiTypes.Command.Basic
import OpenApiTypes.CommandLine
import OpenApiTypes.Document.Basic
import OpenApiTypes.Document.Pointer
import OpenApiTypes.Document.Reading
import OpenApiTypes.Document.Resolution
import OpenApiTypes.Document.SelfContained
import OpenApiTypes.Document.Source
import OpenApiTypes.Failure
import OpenApiTypes.Files.Difference
import OpenApiTypes.Files.Path
import OpenApiTypes.Files.Problem
import OpenApiTypes.Files.Tree
import OpenApiTypes.Inspection
import OpenApiTypes.Json.Basic
import OpenApiTypes.Json.Binary64
import OpenApiTypes.Main
import OpenApiTypes.Modules.Descriptor
import OpenApiTypes.Modules.EndpointTemplates
import OpenApiTypes.Modules.Endpoints
import OpenApiTypes.Modules.Generation
import OpenApiTypes.Modules.Kind
import OpenApiTypes.Modules.Params
import OpenApiTypes.Modules.PathType
import OpenApiTypes.Modules.Schemas
import OpenApiTypes.Naming
import OpenApiTypes.Project.Commands
import OpenApiTypes.Project.Config
import OpenApiTypes.Project.Failure
import OpenApiTypes.Project.Run
import OpenApiTypes.Project.Script
import OpenApiTypes.Project.World
import OpenApiTypes.Proofs.Document.Endpoints
import OpenApiTypes.Proofs.Document.ReferenceChain
import OpenApiTypes.Proofs.Document.SelfContained
import OpenApiTypes.Proofs.Modules.Closure
import OpenApiTypes.Proofs.Modules.ParamsNames
import OpenApiTypes.Proofs.Modules.References
import OpenApiTypes.Proofs.Modules.WrittenTypes
import OpenApiTypes.Proofs.Naming.PathWords
import OpenApiTypes.Proofs.Registry.Lookup
import OpenApiTypes.Proofs.Schema.References
import OpenApiTypes.Proofs.Text.Occurrence
import OpenApiTypes.Proofs.Text.Order
import OpenApiTypes.Proofs.TypeScript.References
import OpenApiTypes.Reading.Error
import OpenApiTypes.Reading.Reader
import OpenApiTypes.Registry
import OpenApiTypes.Schema.Basic
import OpenApiTypes.Schema.Keywords
import OpenApiTypes.Schema.Normal
import OpenApiTypes.Settings
import OpenApiTypes.Shell.Execution
import OpenApiTypes.Shell.Octets
import OpenApiTypes.Shell.Syntax
import OpenApiTypes.Shell.Tools
import OpenApiTypes.Template.Expr
import OpenApiTypes.Template.Render
import OpenApiTypes.Template.Scanner
import OpenApiTypes.Template.Source
import OpenApiTypes.Text.Blank
import OpenApiTypes.Text.Case
import OpenApiTypes.Text.CaseTable
import OpenApiTypes.Text.Lines
import OpenApiTypes.Text.Order
import OpenApiTypes.Text.Quoted
import OpenApiTypes.Text.Shapeless
import OpenApiTypes.Text.Utf8
import OpenApiTypes.Toml.Document
import OpenApiTypes.Toml.Reading
import OpenApiTypes.Toml.Scalar
import OpenApiTypes.Toml.Table
import OpenApiTypes.Toml.Text
import OpenApiTypes.TypeScript.Expr
import OpenApiTypes.TypeScript.Synthesis
import OpenApiTypes.TypeScript.Tidy
import OpenApiTypes.Yaml.Cursor
import OpenApiTypes.Yaml.Lexer
import OpenApiTypes.Yaml.Node
import OpenApiTypes.Yaml.Reading
import OpenApiTypes.Yaml.ScalarText
import OpenApiTypes.Yaml.Token
import OpenApiTypes.Yaml.Value
import OpenApiTypes.Proofs.Document.FixedPoint
import OpenApiTypes.Proofs.Text.Lines
import OpenApiTypes.Proofs.TypeScript.Tidy
import OpenApiTypes.Proofs.Reading.Places
import OpenApiTypes.Proofs.Document.EntryNames
import OpenApiTypes.Proofs.TypeScript.Grammar
import OpenApiTypes.Proofs.TypeScript.Lexing
import OpenApiTypes.Proofs.TypeScript.Numerals
import OpenApiTypes.Proofs.TypeScript.Phrases
import OpenApiTypes.Proofs.TypeScript.RoundTrip
import OpenApiTypes.Proofs.Naming.Quoted
import OpenApiTypes.Proofs.Naming.ParameterKeys
import OpenApiTypes.Proofs.Naming.TypeNames
import OpenApiTypes.Proofs.Modules.ParamsMembers
import OpenApiTypes.Proofs.Modules.RepeatedNames
import OpenApiTypes.Proofs.Inspection.Lines
import OpenApiTypes.Proofs.Inspection.Agreement
import OpenApiTypes.Proofs.Template.Variables
import OpenApiTypes.Proofs.Template.Plain
import OpenApiTypes.Proofs.TypeScript.Verbatim
import OpenApiTypes.Proofs.Modules.BuiltInTemplates
import OpenApiTypes.Proofs.Text.Shuffled
import OpenApiTypes.Proofs.Registry.Reordered
import OpenApiTypes.Proofs.Schema.Reordered
import OpenApiTypes.Proofs.Document.Reordered
import OpenApiTypes.Proofs.Modules.DeclarationOrder
import OpenApiTypes.Proofs.Text.Utf8
import OpenApiTypes.Proofs.Files.Paths
import OpenApiTypes.Proofs.Files.Places
import OpenApiTypes.Proofs.Files.Changes
import OpenApiTypes.Proofs.Files.Installation
import OpenApiTypes.Proofs.Files.Unobstructed
import OpenApiTypes.Proofs.Project.Course
import OpenApiTypes.Proofs.Project.Stages
import OpenApiTypes.Proofs.Project.Output
import OpenApiTypes.Proofs.Project.DryRun
import OpenApiTypes.Proofs.Document.ReferenceCycles
import OpenApiTypes.Proofs.Text.Pieces
import OpenApiTypes.Proofs.Document.PointerSegments
import OpenApiTypes.Proofs.Text.LossyReading
import OpenApiTypes.Proofs.Document.PointerDecoding
import OpenApiTypes.Proofs.Document.DecodingOrder
import OpenApiTypes.Proofs.Document.HiddenEscapes
import OpenApiTypes.Proofs.Document.PointerEncoding
import OpenApiTypes.Proofs.Modules.Addresses
import OpenApiTypes.Proofs.Document.FurtherEncoding
import OpenApiTypes.Proofs.Document.ForeignReferences
import OpenApiTypes.Proofs.Json.Members
import OpenApiTypes.Proofs.Schema.Respelling
import OpenApiTypes.Proofs.Document.NormalForm
import OpenApiTypes.Proofs.Schema.KeywordReading
import OpenApiTypes.Proofs.Document.NormalizedSchemas
import OpenApiTypes.Proofs.Schema.Nullability
import OpenApiTypes.Proofs.Reading.Agreement
import OpenApiTypes.Proofs.Document.Parts
import OpenApiTypes.Proofs.Document.NullKeywords
import OpenApiTypes.Proofs.Schema.ListedNull
import OpenApiTypes.Proofs.Yaml.DistinctNames
import OpenApiTypes.Proofs.Schema.Everywhere
import OpenApiTypes.Proofs.Schema.Sources
import OpenApiTypes.Proofs.Naming.PropertyKeys
import OpenApiTypes.Proofs.TypeScript.MemberNames
import OpenApiTypes.Proofs.TypeScript.Parts
import OpenApiTypes.Proofs.TypeScript.Tokens
import OpenApiTypes.Proofs.TypeScript.Groups
import OpenApiTypes.Proofs.Modules.AliasLines
import OpenApiTypes.Proofs.Modules.PathParts
import OpenApiTypes.Proofs.Modules.PathDeclarations
import OpenApiTypes.Proofs.Modules.PathText
import OpenApiTypes.Proofs.TypeScript.TidyShape
import OpenApiTypes.Proofs.TypeScript.TemplateLiterals
import OpenApiTypes.Proofs.TypeScript.TidyTemplates
import OpenApiTypes.Proofs.TypeScript.Qualification
import OpenApiTypes.Proofs.Modules.OptionalMembers
import OpenApiTypes.Proofs.Text.Pattern
import OpenApiTypes.Proofs.Naming.Patterns
import OpenApiTypes.Proofs.Modules.ValidNames
