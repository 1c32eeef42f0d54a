import ConnectRpc.Bytes
import ConnectRpc.Call.Address
import ConnectRpc.Call.Backend
import ConnectRpc.Call.BaseUrl
import ConnectRpc.Call.Client
import ConnectRpc.Call.Percent
import ConnectRpc.Call.Signal
import ConnectRpc.Call.Transport
import ConnectRpc.Command.Job
import ConnectRpc.Command.Readers
import ConnectRpc.Command.Run
import ConnectRpc.Command.Switch
import ConnectRpc.Descriptor.Basic
import ConnectRpc.Descriptor.Reading
import ConnectRpc.Descriptor.Resolution
import ConnectRpc.Failure
import ConnectRpc.Files.Storage
import ConnectRpc.Files.Tree
import ConnectRpc.Json.Reader
import ConnectRpc.Json.Token
import ConnectRpc.Json.Writer
import ConnectRpc.Main
import ConnectRpc.Notice
import ConnectRpc.Number.Binary64
import ConnectRpc.Number.Numeral
import ConnectRpc.Number.Shortest
import ConnectRpc.Plugin
import ConnectRpc.Protobuf.MessageType
import ConnectRpc.Protobuf.Record
import ConnectRpc.Protobuf.Varint
import ConnectRpc.Schema.Basic
import ConnectRpc.Schema.Document
import ConnectRpc.Schema.JsonName
import ConnectRpc.Schema.Source
import ConnectRpc.Stub.ClientUnit
import ConnectRpc.Stub.Kind
import ConnectRpc.Stub.Naming
import ConnectRpc.Stub.Profile
import ConnectRpc.Stub.ReservedNames
import ConnectRpc.Stub.RuntimeText
import ConnectRpc.Stub.UnitPath
import ConnectRpc.Stub.Units
import ConnectRpc.Stub.View
import ConnectRpc.Text.Blank
import ConnectRpc.Text.Breaks
import ConnectRpc.Text.Capitals
import ConnectRpc.Text.DigitChars
import ConnectRpc.Text.IdentifierChars
import ConnectRpc.Text.Pattern
import ConnectRpc.Text.Pieces
import ConnectRpc.Text.Point
import ConnectRpc.Text.PrintableChars
import ConnectRpc.Text.Quoted
import ConnectRpc.Text.Ranges
import ConnectRpc.Text.SlashPath
import ConnectRpc.Text.Utf8
import ConnectRpc.Text.WordChars
import ConnectRpc.Value.Basic
import ConnectRpc.Value.Display
import ConnectRpc.Wire.Decoder
import ConnectRpc.Wire.Frame
import ConnectRpc.Wire.Stream
import ConnectRpc.Yaml.Binary
import ConnectRpc.Yaml.BlockScalar
import ConnectRpc.Yaml.Construction
import ConnectRpc.Yaml.Cursor
import ConnectRpc.Yaml.Fault
import ConnectRpc.Yaml.Graph
import ConnectRpc.Yaml.ImplicitTag
import ConnectRpc.Yaml.Layout
import ConnectRpc.Yaml.Loader
import ConnectRpc.Yaml.Numeral
import ConnectRpc.Yaml.PlainScalar
import ConnectRpc.Yaml.Property
import ConnectRpc.Yaml.QuotedScalar
import ConnectRpc.Yaml.Timestamp
import ConnectRpc.Yaml.Token
import ConnectRpc.Proofs.Wire.Framing
import ConnectRpc.Proofs.Wire.Chunking
import ConnectRpc.Proofs.Wire.Events
import ConnectRpc.Proofs.Call.Script
import ConnectRpc.Proofs.Call.Run
import ConnectRpc.Proofs.Call.Streaming
import ConnectRpc.Proofs.Call.Steps
import ConnectRpc.Proofs.Call.Account
import ConnectRpc.Proofs.Call.Slots
import ConnectRpc.Proofs.Call.Reception
import ConnectRpc.Proofs.Call.Outcomes
import ConnectRpc.Proofs.Call.Exceptions
import ConnectRpc.Proofs.Call.Records
import ConnectRpc.Proofs.Call.Unary
import ConnectRpc.Proofs.Call.Untimed
import ConnectRpc.Proofs.Call.Interruption
import ConnectRpc.Proofs.Stub.Claiming
import ConnectRpc.Proofs.Stub.Identifiers
import ConnectRpc.Proofs.Stub.Members
import ConnectRpc.Proofs.Stub.Overriding
import ConnectRpc.Proofs.Stub.Parameters
import ConnectRpc.Proofs.Stub.UnitNames
import ConnectRpc.Proofs.Success
import ConnectRpc.Proofs.Descriptor.Index
import ConnectRpc.Proofs.Descriptor.Conversion
import ConnectRpc.Proofs.Plugin
import ConnectRpc.Proofs.Text.LineBreaks
import ConnectRpc.Proofs.Schema.Reading
import ConnectRpc.Proofs.Schema.Characters
import ConnectRpc.Proofs.Schema.Keys
import ConnectRpc.Proofs.Schema.Grammar
import ConnectRpc.Proofs.Json.LongNumerals
import ConnectRpc.Proofs.Stub.Shapes
import ConnectRpc.Proofs.Stub.TypeNames
import ConnectRpc.Proofs.Stub.ModuleScope
import ConnectRpc.Proofs.Stub.RawNames
import ConnectRpc.Proofs.Stub.UnitLines
import ConnectRpc.Proofs.Schema.Sources
import ConnectRpc.Proofs.Command.SchemaFaults
import ConnectRpc.Proofs.Command.Stages
import ConnectRpc.Proofs.Files.Places
import ConnectRpc.Proofs.Files.Writing
import ConnectRpc.Proofs.Command.Changes
import ConnectRpc.Proofs.Call.Percent
import ConnectRpc.Proofs.Call.Requests
import ConnectRpc.Proofs.Text.Utf8
import ConnectRpc.Proofs.Number.Digits
import ConnectRpc.Proofs.Json.Writing
import ConnectRpc.Proofs.Json.RoundTrip
import ConnectRpc.Proofs.Value
import ConnectRpc.Proofs.Call.Messages
import ConnectRpc.Proofs.Number.Shortest
import ConnectRpc.Proofs.Json.Grammar
import ConnectRpc.Proofs.Json.Conformance
import ConnectRpc.Proofs.Call.Documents
import ConnectRpc.Proofs.Wire.History
import ConnectRpc.Proofs.Call.Closing
import ConnectRpc.Proofs.Call.Forking
import ConnectRpc.Proofs.Call.SlotFailures
import ConnectRpc.Proofs.Stub.Signature
import ConnectRpc.Proofs.Stub.ModulePaths
import ConnectRpc.Proofs.Stub.Importable
import ConnectRpc.Proofs.Text.Literal
import ConnectRpc.Proofs.Stub.ProfileParameter
import ConnectRpc.Proofs.Call.Emission
import ConnectRpc.Proofs.Schema.DerivedKeys
