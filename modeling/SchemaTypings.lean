import SchemaTypings.Main
import SchemaTypings.Declaration.Equality
import SchemaTypings.Files.Tree
import SchemaTypings.Proofs.Report.Reports
import SchemaTypings.Proofs.Typing.Diagnostics
import SchemaTypings.Proofs.Variants.Positions
import SchemaTypings.Proofs.Descriptor.Override
import SchemaTypings.Proofs.Functions.Hoisting
import SchemaTypings.Proofs.Functions.OverloadSet
import SchemaTypings.Proofs.Assembly.Body
import SchemaTypings.Proofs.Report.Outcomes
import SchemaTypings.Proofs.Typing.Named
import SchemaTypings.Proofs.Assembly.Entries
import SchemaTypings.Proofs.Assembly.Sharing
import SchemaTypings.Proofs.Assembly.HoistedTypes
import SchemaTypings.Proofs.Declaration.Mentions
import SchemaTypings.Proofs.Typing.Quiet
import SchemaTypings.Proofs.Typing.Mentions
import SchemaTypings.Proofs.Typing.Event
import SchemaTypings.Proofs.Typing.Visits
import SchemaTypings.Proofs.Functions.Visits
import SchemaTypings.Proofs.Assembly.Traces
import SchemaTypings.Proofs.Assembly.Quiet
import SchemaTypings.Proofs.Assembly.References
import SchemaTypings.Proofs.Assembly.Accounts
import SchemaTypings.Proofs.Assembly.Isolation
import SchemaTypings.Proofs.Catalog.Grouping
import SchemaTypings.Proofs.Assembly.Omission
import SchemaTypings.Proofs.Typing.Lookups
import SchemaTypings.Proofs.Assembly.Lookups
import SchemaTypings.Proofs.Report.Mirrors
import SchemaTypings.Proofs.Documentation.Descriptor
import SchemaTypings.Proofs.Documentation.Declaration
import SchemaTypings.Proofs.Documentation.Typing
import SchemaTypings.Proofs.Documentation.Assembly
import SchemaTypings.Proofs.Reading.Lexer
import SchemaTypings.Proofs.Reading.Normal
import SchemaTypings.Proofs.Reading.Parser
import SchemaTypings.Proofs.Reading.Comments
import SchemaTypings.Proofs.Reading.Tokens
import SchemaTypings.Proofs.Reading.Operands
import SchemaTypings.Proofs.Reading.Phrases
import SchemaTypings.Proofs.Reading.Roundtrip
import SchemaTypings.Proofs.Variants.Subsets
import SchemaTypings.Proofs.Functions.Order
import SchemaTypings.Proofs.Typing.EventOrder
import SchemaTypings.Proofs.CommandLine.Effects
import SchemaTypings.Proofs.Typing.Failures
import SchemaTypings.Proofs.Descriptor.Nodes
import SchemaTypings.Proofs.Typing.Danglings
import SchemaTypings.Proofs.Typing.Repeats
import SchemaTypings.Proofs.Functions.Danglings
import SchemaTypings.Proofs.Functions.Expansions
import SchemaTypings.Proofs.Catalog.Shape
import SchemaTypings.Proofs.Catalog.Containment
import SchemaTypings.Proofs.Json.Laws
import SchemaTypings.Proofs.Json.Trims
import SchemaTypings.Proofs.Json.ParserLaws
import SchemaTypings.Proofs.Json.CommentLines
import SchemaTypings.Proofs.Text.StringValue
import SchemaTypings.Proofs.Typing.Constants
import SchemaTypings.Proofs.Declaration.Confinement
import SchemaTypings.Proofs.Descriptor.Roundtrip
import SchemaTypings.Proofs.Catalog.Merging
import SchemaTypings.Proofs.Typing.Resolution
import SchemaTypings.Proofs.Descriptor.Rules
import SchemaTypings.Proofs.Typing.EventShapes
import SchemaTypings.Proofs.Typing.Levels
import SchemaTypings.Proofs.Typing.Members
import SchemaTypings.Proofs.Assembly.Termination
import SchemaTypings.Proofs.Declaration.Indentation
