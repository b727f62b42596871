import ConsoleLink.Channel
import ConsoleLink.Channel.Names
import ConsoleLink.Channel.Negotiation
import ConsoleLink.Channel.Shared
import ConsoleLink.Client
import ConsoleLink.CommandQueue
import ConsoleLink.Config
import ConsoleLink.Config.Reader
import ConsoleLink.Config.Writer
import ConsoleLink.CrashReport
import ConsoleLink.Decimal.Shortest
import ConsoleLink.Desk
import ConsoleLink.Envelope
import ConsoleLink.Envelope.Bytes
import ConsoleLink.Envelope.Layout
import ConsoleLink.Event
import ConsoleLink.Event.Json
import ConsoleLink.Exchange
import ConsoleLink.Fault
import ConsoleLink.Fault.Kind
import ConsoleLink.Handler
import ConsoleLink.Host
import ConsoleLink.Host.Environment
import ConsoleLink.Identity
import ConsoleLink.Json.Fault
import ConsoleLink.Json.Number
import ConsoleLink.Json.Reader
import ConsoleLink.Json.Skip
import ConsoleLink.Json.Text
import ConsoleLink.Json.Value
import ConsoleLink.Launch
import ConsoleLink.Log
import ConsoleLink.Main
import ConsoleLink.Objects.Holdings
import ConsoleLink.Objects.Region
import ConsoleLink.Objects.Registry
import ConsoleLink.Objects.System
import ConsoleLink.Output
import ConsoleLink.Path
import ConsoleLink.Process.Child
import ConsoleLink.Process.Group
import ConsoleLink.Process.Handle
import ConsoleLink.Process.Programs
import ConsoleLink.Process.Scripted
import ConsoleLink.Proofs.Config.RoundTrip
import ConsoleLink.Proofs.Conversation.Answers
import ConsoleLink.Proofs.Conversation.Bridge
import ConsoleLink.Proofs.Conversation.Ending
import ConsoleLink.Proofs.Conversation.Talk
import ConsoleLink.Proofs.Desk.Commands
import ConsoleLink.Proofs.Desk.Progress
import ConsoleLink.Proofs.Desk.Replies
import ConsoleLink.Proofs.Desk.Service
import ConsoleLink.Proofs.Desk.Shown
import ConsoleLink.Proofs.Envelope.Fields
import ConsoleLink.Proofs.Envelope.Parts
import ConsoleLink.Proofs.Envelope.Replies
import ConsoleLink.Proofs.Envelope.RoundTrip
import ConsoleLink.Proofs.Exchange.HalfDuplex
import ConsoleLink.Proofs.Exchange.Interleaving
import ConsoleLink.Proofs.Exchange.Stages
import ConsoleLink.Proofs.Exchange.Timeouts
import ConsoleLink.Proofs.Json.Records
import ConsoleLink.Proofs.Json.Scalars
import ConsoleLink.Proofs.Objects.Accounting
import ConsoleLink.Proofs.Objects.Names
import ConsoleLink.Proofs.Objects.Negotiated
import ConsoleLink.Proofs.Objects.Signals
import ConsoleLink.Proofs.Objects.Tables
import ConsoleLink.Proofs.Output.Terminal
import ConsoleLink.Proofs.Process.ExitCode
import ConsoleLink.Proofs.Process.Operations
import ConsoleLink.Proofs.Process.Released
import ConsoleLink.Proofs.Process.Rounds
import ConsoleLink.Proofs.Serving.Log
import ConsoleLink.Proofs.Serving.Refusals
import ConsoleLink.Proofs.Serving.Requests
import ConsoleLink.Proofs.Serving.Services
import ConsoleLink.Proofs.Serving.Works
import ConsoleLink.Proofs.Session.Executions
import ConsoleLink.Proofs.Session.Frames
import ConsoleLink.Proofs.Session.History
import ConsoleLink.Proofs.Session.LifeCycle
import ConsoleLink.Proofs.Session.Served
import ConsoleLink.Proofs.Session.Serving
import ConsoleLink.Proofs.Text.Mending
import ConsoleLink.Proofs.Text.Storing
import ConsoleLink.Proofs.Text.Wide
import ConsoleLink.Receivers
import ConsoleLink.SampleConsole
import ConsoleLink.SampleConsole.Run
import ConsoleLink.ServingLoop
import ConsoleLink.Session
import ConsoleLink.Session.Calls
import ConsoleLink.Session.Scene
import ConsoleLink.Session.Start
import ConsoleLink.Span
import ConsoleLink.Text.Blank
import ConsoleLink.Text.Hex
import ConsoleLink.Text.Printable
import ConsoleLink.Text.Quoted
import ConsoleLink.Text.Wide
import ConsoleLink.Transfer
import ConsoleLink.Turns
import ConsoleLink.Proofs.Envelope.Decoding
import ConsoleLink.Proofs.Envelope.Footprints
import ConsoleLink.Proofs.Envelope.Withdrawn
import ConsoleLink.Proofs.Exchange.Sends
import ConsoleLink.Proofs.Exchange.Refusals
import ConsoleLink.Proofs.Objects.Building
import ConsoleLink.Proofs.Objects.Decision
import ConsoleLink.Proofs.Desk.Admission
import ConsoleLink.Proofs.Objects.Counting
import ConsoleLink.Proofs.Session.Closing
import ConsoleLink.Proofs.Config.Given
import ConsoleLink.Proofs.Process.Launched
import ConsoleLink.Proofs.Desk.Choices
import ConsoleLink.Proofs.Conversation.Bars
import ConsoleLink.Proofs.Conversation.Returning
