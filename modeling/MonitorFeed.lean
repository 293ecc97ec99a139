import MonitorFeed.Text.Alphanumeric
import MonitorFeed.Text.Blank
import MonitorFeed.Text.Name
import MonitorFeed.Text.Printable
import MonitorFeed.Text.Quoted
import MonitorFeed.Text.Ranges
import MonitorFeed.Text.Utf8
import MonitorFeed.Decimal.Double
import MonitorFeed.Decimal.Integer
import MonitorFeed.Decimal.Nearest
import MonitorFeed.Decimal.Shortest
import MonitorFeed.Table
import MonitorFeed.Timestamp
import MonitorFeed.Json.Basic
import MonitorFeed.Json.Fault
import MonitorFeed.Json.Number
import MonitorFeed.Json.Scanner
import MonitorFeed.Json.Sequence
import MonitorFeed.Json.Skip
import MonitorFeed.Json.Tree
import MonitorFeed.Json.Writer
import MonitorFeed.Schema.Basic
import MonitorFeed.Schema.Mismatch
import MonitorFeed.Schema.Reader
import MonitorFeed.Schema.Writer
import MonitorFeed.Payload.Context
import MonitorFeed.Payload.Credentials
import MonitorFeed.Payload.Descriptor
import MonitorFeed.Payload.Document
import MonitorFeed.Payload.File
import MonitorFeed.Payload.Inventory
import MonitorFeed.Payload.Resource
import MonitorFeed.Payload.Series
import MonitorFeed.Payload.Token
import MonitorFeed.Payload.Value
import MonitorFeed.Json5.Grammar
import MonitorFeed.Json5.Node
import MonitorFeed.Json5.Number
import MonitorFeed.Json5.Reader
import MonitorFeed.Path
import MonitorFeed.Storage
import MonitorFeed.FileTree
import MonitorFeed.Error
import MonitorFeed.Settings.Basic
import MonitorFeed.Settings.Describe
import MonitorFeed.Settings.Load
import MonitorFeed.Settings.LogFormat
import MonitorFeed.Log.Directive
import MonitorFeed.Log.Event
import MonitorFeed.Log.Filter
import MonitorFeed.Log.Layout
import MonitorFeed.Log.Pattern
import MonitorFeed.Backend.Basic
import MonitorFeed.Backend.Operation
import MonitorFeed.Backend.Rehearsal
import MonitorFeed.Backend.StandIn
import MonitorFeed.Library.Binding
import MonitorFeed.Library.Buffer
import MonitorFeed.Library.Loader
import MonitorFeed.Library.Scripted
import MonitorFeed.Client
import MonitorFeed.Feeder.Run
import MonitorFeed.Feeder.Schedule
import MonitorFeed.Feeder.Stats
import MonitorFeed.Command.Basic
import MonitorFeed.Command.Execute
import MonitorFeed.Command.Fault
import MonitorFeed.Command.Line
import MonitorFeed.Command.Outlet
import MonitorFeed.Command.Program
import MonitorFeed.Main
import MonitorFeed.Proofs.Decimal.Digits
import MonitorFeed.Proofs.Json.Text
import MonitorFeed.Proofs.Json.Number
import MonitorFeed.Proofs.Decimal.Numeral
import MonitorFeed.Proofs.Json.Compact
import MonitorFeed.Proofs.Schema.Written
import MonitorFeed.Proofs.Schema.Containers
import MonitorFeed.Proofs.Schema.RoundTrip
import MonitorFeed.Proofs.Client
import MonitorFeed.Proofs.Feeder.Attempts
import MonitorFeed.Proofs.Feeder.Course
import MonitorFeed.Proofs.Feeder.Cycles
import MonitorFeed.Proofs.Payload.File
import MonitorFeed.Proofs.Payload.RoundTrip
import MonitorFeed.Proofs.Feeder.Trace
import MonitorFeed.Proofs.Feeder.Deliveries
import MonitorFeed.Proofs.Handover
import MonitorFeed.Proofs.Command.Outlet
import MonitorFeed.Proofs.Command.Session
import MonitorFeed.Proofs.Text.Utf8
import MonitorFeed.Proofs.Json.Plain
import MonitorFeed.Proofs.Request
import MonitorFeed.Proofs.Library.Playbook
import MonitorFeed.Proofs.Schema.Tree
import MonitorFeed.Proofs.Payload.Finite
import MonitorFeed.Proofs.Backend.Echo
import MonitorFeed.Proofs.Backend.Moves
import MonitorFeed.Proofs.Json.Places
import MonitorFeed.Proofs.Schema.Omission
import MonitorFeed.Proofs.Payload.Omission
import MonitorFeed.Proofs.Json.Syntax
import MonitorFeed.Proofs.Json.Lexemes
import MonitorFeed.Proofs.Json.Loops
import MonitorFeed.Proofs.Json.Passage
import MonitorFeed.Proofs.Schema.Accept
import MonitorFeed.Proofs.Schema.Order
import MonitorFeed.Proofs.Schema.Verdict
import MonitorFeed.Proofs.Schema.Agreement
import MonitorFeed.Proofs.Payload.Acceptance
import MonitorFeed.Proofs.Schema.Insertion
import MonitorFeed.Proofs.Payload.Insertion
import MonitorFeed.Proofs.Decimal.Signed
import MonitorFeed.Proofs.Timestamp
import MonitorFeed.Proofs.Settings.Fitness
import MonitorFeed.Proofs.Feeder.Remainder
import MonitorFeed.Proofs.Library.Resident
import MonitorFeed.Proofs.Library.Interleaving
import MonitorFeed.Proofs.Decimal.Whole
import MonitorFeed.Proofs.Json5.Lexemes
import MonitorFeed.Proofs.Json5.Written
import MonitorFeed.Proofs.Json5.RoundTrip
import MonitorFeed.Proofs.Settings.RoundTrip
import MonitorFeed.Proofs.Backend.Pairing
import MonitorFeed.Proofs.Secrecy
import MonitorFeed.Proofs.Json.Extent
import MonitorFeed.Proofs.Json.Brackets
import MonitorFeed.Proofs.Library.Message
import MonitorFeed.Proofs.Library.Passing
import MonitorFeed.Proofs.Payload.Listing
import MonitorFeed.Proofs.Settings.Loading
import MonitorFeed.Proofs.Command.Printing
import MonitorFeed.Proofs.Payload.Building
import MonitorFeed.Proofs.Settings.Defaults
import MonitorFeed.Proofs.Timestamp.Shift
