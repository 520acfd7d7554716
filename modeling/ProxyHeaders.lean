import ProxyHeaders.Check.Balance
import ProxyHeaders.Check.Report
import ProxyHeaders.Code.Buffer
import ProxyHeaders.Code.Diagnostics
import ProxyHeaders.Code.Format
import ProxyHeaders.CommandLine.Arguments
import ProxyHeaders.CommandLine.Help
import ProxyHeaders.CommandLine.Session
import ProxyHeaders.Console.Figure
import ProxyHeaders.Console.Markup
import ProxyHeaders.Console.Wrap
import ProxyHeaders.Data.Access
import ProxyHeaders.Data.Base64
import ProxyHeaders.Data.Binary64
import ProxyHeaders.Data.Json
import ProxyHeaders.Data.JsonText
import ProxyHeaders.Data.Value
import ProxyHeaders.Exchange.DiskData
import ProxyHeaders.Exchange.GenerationData
import ProxyHeaders.Exchange.MappingData
import ProxyHeaders.Exchange.RunData
import ProxyHeaders.Exchange.RuntimeData
import ProxyHeaders.Exchange.SignatureData
import ProxyHeaders.Exchange.TableData
import ProxyHeaders.Exchange.TypeData
import ProxyHeaders.Files.Disk
import ProxyHeaders.Files.Output
import ProxyHeaders.Files.Path
import ProxyHeaders.Generate
import ProxyHeaders.Image.Bytes
import ProxyHeaders.Image.Executable
import ProxyHeaders.Image.Form
import ProxyHeaders.Image.Rows
import ProxyHeaders.Image.Streams
import ProxyHeaders.Layout.Arrange
import ProxyHeaders.Layout.Group
import ProxyHeaders.Layout.Sheet
import ProxyHeaders.Layout.UnitPath
import ProxyHeaders.Load.Assembly
import ProxyHeaders.Load.Backends
import ProxyHeaders.Load.Loader
import ProxyHeaders.Log
import ProxyHeaders.Main
import ProxyHeaders.Mapping.Base
import ProxyHeaders.Mapping.Known
import ProxyHeaders.Mapping.Outcome
import ProxyHeaders.Mapping.TypeMap
import ProxyHeaders.Metadata.Constant
import ProxyHeaders.Metadata.Element
import ProxyHeaders.Metadata.Fault
import ProxyHeaders.Metadata.Reader
import ProxyHeaders.Metadata.Resolve
import ProxyHeaders.Metadata.Signature
import ProxyHeaders.Metadata.Tables
import ProxyHeaders.Metadata.Types
import ProxyHeaders.Names.Claimed
import ProxyHeaders.Names.Sanitizer
import ProxyHeaders.Names.Unique
import ProxyHeaders.Names.Words
import ProxyHeaders.Proxy.Definition
import ProxyHeaders.Proxy.Draft
import ProxyHeaders.Proxy.Enumeration
import ProxyHeaders.Proxy.Locals
import ProxyHeaders.Proxy.Members
import ProxyHeaders.Reflection.Convert
import ProxyHeaders.Reflection.Runtime
import ProxyHeaders.Run
import ProxyHeaders.Selection
import ProxyHeaders.Settings.Basic
import ProxyHeaders.Settings.Data
import ProxyHeaders.Settings.Load
import ProxyHeaders.Template.Engine
import ProxyHeaders.Template.Fragment
import ProxyHeaders.Template.Headers
import ProxyHeaders.Template.Literal
import ProxyHeaders.Text.Blank
import ProxyHeaders.Text.Case
import ProxyHeaders.Text.CaseTable
import ProxyHeaders.Text.Digit
import ProxyHeaders.Text.Identifier
import ProxyHeaders.Text.IdentifierTable
import ProxyHeaders.Text.InvisibleTable
import ProxyHeaders.Text.Lines
import ProxyHeaders.Text.Quoted
import ProxyHeaders.Text.Ranges
import ProxyHeaders.Text.SigmaTable
import ProxyHeaders.Text.Utf8
import ProxyHeaders.Text.Width
import ProxyHeaders.Text.WidthTable
import ProxyHeaders.TypeDecl
import ProxyHeaders.TypeRef
import ProxyHeaders.Proofs.Metadata.Reading
import ProxyHeaders.Proofs.Metadata.SignatureTree
import ProxyHeaders.Proofs.Metadata.SignatureDecoding
import ProxyHeaders.Proofs.Check.Lines
import ProxyHeaders.Proofs.Code.Buffer
import ProxyHeaders.Proofs.Template.Brackets
import ProxyHeaders.Proofs.Template.Lookups
import ProxyHeaders.Proofs.Names.Words
import ProxyHeaders.Proofs.Mapping.Spelling
import ProxyHeaders.Proofs.Proxy.Brackets
import ProxyHeaders.Proofs.Layout.Brackets
import ProxyHeaders.Proofs.Layout.Groups
import ProxyHeaders.Proofs.Validity
import ProxyHeaders.Proofs.Layout.Bases
import ProxyHeaders.Proofs.Layout.Transcript
import ProxyHeaders.Proofs.Layout.Pages
import ProxyHeaders.Proofs.Proxy.Definition
import ProxyHeaders.Proofs.Layout.Scopes
import ProxyHeaders.Proofs.Layout.Inheritance
import ProxyHeaders.Proofs.Layout.Visibility
import ProxyHeaders.Proofs.Mapping.Provenance
import ProxyHeaders.Proofs.Mapping.Layers
import ProxyHeaders.Proofs.Layout.Coverage
import ProxyHeaders.Proofs.Names.Answers
import ProxyHeaders.Proofs.Names.Numbering
import ProxyHeaders.Proofs.Proxy.Transcript
import ProxyHeaders.Proofs.Proxy.MemberNames
import ProxyHeaders.Proofs.Names.Memory
import ProxyHeaders.Proofs.Mapping.Alike
import ProxyHeaders.Proofs.Proxy.Order
import ProxyHeaders.Proofs.Proxy.Alike
import ProxyHeaders.Proofs.Layout.Alike
import ProxyHeaders.Proofs.InputOrder
import ProxyHeaders.Proofs.Layout.Segments
import ProxyHeaders.Proofs.Proxy.Failure
import ProxyHeaders.Proofs.Layout.Emitted
import ProxyHeaders.Proofs.Layouts
import ProxyHeaders.Proofs.Isolation
import ProxyHeaders.Proofs.Layout.OwnScopes
import ProxyHeaders.Proofs.Metadata.Faults
import ProxyHeaders.Proofs.Metadata.SideBySide
import ProxyHeaders.Proofs.Metadata.Remembering
import ProxyHeaders.Proofs.Metadata.Containment
import ProxyHeaders.Proofs.Metadata.Consulting
import ProxyHeaders.Proofs.Metadata.Circles
import ProxyHeaders.Proofs.Metadata.References
import ProxyHeaders.Proofs.Metadata.Legend
import ProxyHeaders.Proofs.Metadata.Joined
import ProxyHeaders.Proofs.Metadata.Descriptions
import ProxyHeaders.Proofs.Files.Places
import ProxyHeaders.Proofs.Files.Writing
import ProxyHeaders.Proofs.Files.Cleaning
import ProxyHeaders.Proofs.Layout.UnitPaths
import ProxyHeaders.Proofs.Files.Reports
import ProxyHeaders.Proofs.Beneath
import ProxyHeaders.Proofs.Replacement
import ProxyHeaders.Proofs.Mapping.Reasons
import ProxyHeaders.Proofs.Code.Shown
import ProxyHeaders.Proofs.Proxy.Remarks
import ProxyHeaders.Proofs.Proxy.Passages
import ProxyHeaders.Proofs.Proxy.OneLine
import ProxyHeaders.Proofs.Proxy.Removals
import ProxyHeaders.Proofs.Proxy.Planned
import ProxyHeaders.Proofs.Proxy.Managed
import ProxyHeaders.Proofs.Proxy.AccessorPairs
import ProxyHeaders.Proofs.Proxy.Bodies
import ProxyHeaders.Proofs.Proxy.Captures
import ProxyHeaders.Proofs.Commented
import ProxyHeaders.Proofs.Lookups
import ProxyHeaders.Proofs.Names.Identifiers
import ProxyHeaders.Proofs.Names.Steady
import ProxyHeaders.Proofs.Mapping.ScopeNames
import ProxyHeaders.Proofs.Namespaces
import ProxyHeaders.Proofs.Entries
import ProxyHeaders.Proofs.Proxy.Constants
import ProxyHeaders.Proofs.EnumValues
import ProxyHeaders.Proofs.Metadata.Malformed
import ProxyHeaders.Proofs.Metadata.Depth
import ProxyHeaders.Proofs.Backends
import ProxyHeaders.Proofs.Files.Ways
import ProxyHeaders.Proofs.FailedRuns
import ProxyHeaders.Proofs.Layout.Grouping
import ProxyHeaders.Proofs.Layout.PathsApart
import ProxyHeaders.Proofs.Layout.Includes
import ProxyHeaders.Proofs.Proxy.EnumEntries
import ProxyHeaders.Proofs.Check.WellNested
import ProxyHeaders.Proofs.Check.Lexemes
import ProxyHeaders.Proofs.Check.LineNumbers
import ProxyHeaders.Proofs.Proxy.Guards
import ProxyHeaders.Proofs.Metadata.Enclosing
import ProxyHeaders.Proofs.ForeignEnums
import ProxyHeaders.Proofs.Settings.Records
import ProxyHeaders.Proofs.Settings.Loading
import ProxyHeaders.Proofs.Names.Transparency
import ProxyHeaders.Proofs.Gathering
import ProxyHeaders.Proofs.Code.Format
import ProxyHeaders.Proofs.Files.Sweeping
import ProxyHeaders.Proofs.Names.Parameters
import ProxyHeaders.Proofs.Metadata.CompressedNumbers
