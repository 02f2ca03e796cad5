import Sitewright.Asset.Image
import Sitewright.Asset.Inventory
import Sitewright.Asset.Url
import Sitewright.Build.Basic
import Sitewright.Build.Compiler
import Sitewright.Build.Snapshot
import Sitewright.Command.Invocation
import Sitewright.Command.Option
import Sitewright.Command.Run
import Sitewright.Event
import Sitewright.Files.Basic
import Sitewright.Files.Disk
import Sitewright.Files.Document
import Sitewright.Json.Display
import Sitewright.Json.Emitter
import Sitewright.Json.Error
import Sitewright.Json.Printer
import Sitewright.Json.Reader
import Sitewright.Json.Value
import Sitewright.Keyed
import Sitewright.Main
import Sitewright.Model.Chat
import Sitewright.Model.Client
import Sitewright.Model.Prompt
import Sitewright.Model.Reply
import Sitewright.Model.Status
import Sitewright.Number.Decimal
import Sitewright.Number.Double
import Sitewright.Number.Shortest
import Sitewright.Plan.Basic
import Sitewright.Plan.Store
import Sitewright.Platform
import Sitewright.Proofs.Asset.Identity
import Sitewright.Proofs.Asset.Signature
import Sitewright.Proofs.Asset.Url
import Sitewright.Proofs.Build.Cached
import Sitewright.Proofs.Build.Course
import Sitewright.Proofs.Build.Decision
import Sitewright.Proofs.Build.Failed
import Sitewright.Proofs.Build.Forced
import Sitewright.Proofs.Build.Report
import Sitewright.Proofs.Build.Result
import Sitewright.Proofs.Build.Run
import Sitewright.Proofs.Command.Listening
import Sitewright.Proofs.Command.Report
import Sitewright.Proofs.Except
import Sitewright.Proofs.Files.Contents
import Sitewright.Proofs.Files.Frame
import Sitewright.Proofs.Json.Acceptance
import Sitewright.Proofs.Json.Document
import Sitewright.Proofs.Json.Emitter
import Sitewright.Proofs.Json.Escape
import Sitewright.Proofs.Json.Grammar
import Sitewright.Proofs.Json.LineEnds
import Sitewright.Proofs.Json.Numeral
import Sitewright.Proofs.Json.Overfull
import Sitewright.Proofs.Json.Reading
import Sitewright.Proofs.Json.RoundTrip
import Sitewright.Proofs.Json.Truncated
import Sitewright.Proofs.Keyed
import Sitewright.Proofs.Model.Answer
import Sitewright.Proofs.Model.Exchange
import Sitewright.Proofs.Number.Rounding
import Sitewright.Proofs.Number.Shortest
import Sitewright.Proofs.Plan.Format
import Sitewright.Proofs.Plan.RoundTrip
import Sitewright.Proofs.Plan.Save
import Sitewright.Proofs.Plan.Saving
import Sitewright.Proofs.Service.Asset
import Sitewright.Proofs.Service.History
import Sitewright.Proofs.Service.Info
import Sitewright.Proofs.Service.Page
import Sitewright.Proofs.Service.Response
import Sitewright.Proofs.Service.Route
import Sitewright.Proofs.Service.Slash
import Sitewright.Proofs.Service.Target
import Sitewright.Proofs.Service.Telling
import Sitewright.Proofs.Settings.Environment
import Sitewright.Proofs.Settings.Priority
import Sitewright.Proofs.Site.OfEdits
import Sitewright.Proofs.Site.Rules
import Sitewright.Proofs.Site.WellFormed
import Sitewright.Proofs.Text.Blank
import Sitewright.Proofs.Text.Codec
import Sitewright.Proofs.Text.Digit
import Sitewright.Proofs.Text.Markup
import Sitewright.Proofs.Text.Plain
import Sitewright.Proofs.Text.Replace
import Sitewright.Proofs.Text.Utf8
import Sitewright.Proofs.Tool.ClosedForm
import Sitewright.Proofs.Tool.Fragment
import Sitewright.Proofs.Tool.Halt
import Sitewright.Proofs.Tool.Image
import Sitewright.Proofs.Tool.Replay
import Sitewright.Proofs.Tool.Schema
import Sitewright.Proofs.Tool.Skipped
import Sitewright.Proofs.Tool.WellFormed
import Sitewright.Proofs.Tool.Work
import Sitewright.Proofs.Tool.Written
import Sitewright.Service.Basic
import Sitewright.Service.Framework
import Sitewright.Service.Info
import Sitewright.Service.Response
import Sitewright.Service.Server
import Sitewright.Service.Target
import Sitewright.Service.Validation
import Sitewright.Settings.Basic
import Sitewright.Settings.Binding
import Sitewright.Settings.Environment
import Sitewright.Settings.Load
import Sitewright.Settings.Reference
import Sitewright.Site.Basic
import Sitewright.Site.Clock
import Sitewright.Site.Edit
import Sitewright.Site.Route
import Sitewright.Text.Blank
import Sitewright.Text.Codec
import Sitewright.Text.Digit
import Sitewright.Text.Encoding
import Sitewright.Text.Integer
import Sitewright.Text.Lines
import Sitewright.Text.Markup
import Sitewright.Text.Printable
import Sitewright.Text.Quoted
import Sitewright.Text.Replace
import Sitewright.Text.Unit
import Sitewright.Text.Utf16
import Sitewright.Text.Utf32
import Sitewright.Text.Utf8
import Sitewright.Tool.Arguments
import Sitewright.Tool.Basic
import Sitewright.Tool.Call
import Sitewright.Tool.Definition
import Sitewright.Tool.Registry
import Sitewright.Tool.Replay
