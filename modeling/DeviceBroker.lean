import DeviceBroker.Bytes
import DeviceBroker.Command
import DeviceBroker.Connection
import DeviceBroker.Daemon
import DeviceBroker.Decimal.Binary64
import DeviceBroker.Decimal.Floating
import DeviceBroker.Decimal.Natural
import DeviceBroker.Decimal.Shortest
import DeviceBroker.Device
import DeviceBroker.FileTree
import DeviceBroker.FileTree.Ancestors
import DeviceBroker.FileTree.Listing
import DeviceBroker.Filter
import DeviceBroker.Filter.Directive
import DeviceBroker.Filter.Pattern
import DeviceBroker.Filter.Pattern.Atom
import DeviceBroker.Filter.Pattern.Set
import DeviceBroker.IoError
import DeviceBroker.Json.Quoted
import DeviceBroker.Json.Skip
import DeviceBroker.Json.Token
import DeviceBroker.Launch
import DeviceBroker.LaunchError
import DeviceBroker.LineBuffer
import DeviceBroker.Listener
import DeviceBroker.LogLine
import DeviceBroker.LogRecord
import DeviceBroker.Main
import DeviceBroker.Path
import DeviceBroker.Proofs.Claiming
import DeviceBroker.Proofs.Cleanup
import DeviceBroker.Proofs.Cue
import DeviceBroker.Proofs.Events
import DeviceBroker.Proofs.Executed
import DeviceBroker.Proofs.Lines
import DeviceBroker.Proofs.LiveOwner
import DeviceBroker.Proofs.Plan
import DeviceBroker.Proofs.Reference
import DeviceBroker.Proofs.Sending
import DeviceBroker.Proofs.Tenure
import DeviceBroker.Registry
import DeviceBroker.Reply
import DeviceBroker.ReplyStream
import DeviceBroker.Scenario
import DeviceBroker.Scenario.Fixture
import DeviceBroker.Service
import DeviceBroker.Session
import DeviceBroker.Session.Script
import DeviceBroker.Settings.Arguments
import DeviceBroker.Settings.Basic
import DeviceBroker.Settings.Document
import DeviceBroker.Settings.Environment
import DeviceBroker.Settings.File
import DeviceBroker.Settings.LoadError
import DeviceBroker.Settings.Loading
import DeviceBroker.Settings.Variable
import DeviceBroker.Shutdown
import DeviceBroker.SocketDirectory
import DeviceBroker.Telemetry
import DeviceBroker.Text.Alphanumeric
import DeviceBroker.Text.Blank
import DeviceBroker.Text.Cut
import DeviceBroker.Text.Hexadecimal
import DeviceBroker.Text.Printable
import DeviceBroker.Text.Quoted
import DeviceBroker.Text.Terminal
import DeviceBroker.Text.Utf8
import DeviceBroker.Toml.Document
import DeviceBroker.Toml.Reader
import DeviceBroker.Toml.Scalar
import DeviceBroker.Toml.Token
import DeviceBroker.Value
import DeviceBroker.Worker
import DeviceBroker.Proofs.Refusal
import DeviceBroker.Proofs.Contents
import DeviceBroker.Proofs.Onlooker
import DeviceBroker.Proofs.Rendering
import DeviceBroker.Proofs.Legible
import DeviceBroker.Proofs.Walking
import DeviceBroker.Proofs.Growing
import DeviceBroker.Proofs.Binding
import DeviceBroker.Proofs.Moves
import DeviceBroker.Proofs.Stages
import DeviceBroker.Proofs.Traceless
import DeviceBroker.Proofs.Starting
import DeviceBroker.Proofs.FirstRequest
import DeviceBroker.Proofs.Draining
import DeviceBroker.Proofs.Searching
import DeviceBroker.Proofs.Decoding
import DeviceBroker.Proofs.Grammar
import DeviceBroker.Proofs.Reading
import DeviceBroker.Proofs.Holding
import DeviceBroker.Proofs.LongLines
import DeviceBroker.Proofs.Keys
import DeviceBroker.Proofs.Typed
import DeviceBroker.Proofs.Layering
import DeviceBroker.Proofs.Replacing
import DeviceBroker.Proofs.Removing
import DeviceBroker.Proofs.Attempts
import DeviceBroker.Proofs.Exporting
import DeviceBroker.Proofs.Leaves
import DeviceBroker.Proofs.Nesting
import DeviceBroker.Proofs.Shown
import DeviceBroker.Proofs.Fieldwise
import DeviceBroker.Proofs.Upward
import DeviceBroker.Proofs.Providing
import DeviceBroker.Proofs.Repeating
import DeviceBroker.Proofs.Ends
import DeviceBroker.Proofs.Roster
import DeviceBroker.Proofs.Tracking
import DeviceBroker.Proofs.Accepting
import DeviceBroker.Proofs.Verbosity
import DeviceBroker.Proofs.Entries
import DeviceBroker.Proofs.Accounting
