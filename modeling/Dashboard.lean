import Dashboard.Calendar
import Dashboard.CommandLine.Files
import Dashboard.CommandLine.Filter
import Dashboard.CommandLine.Help
import Dashboard.CommandLine.Journal
import Dashboard.CommandLine.Options
import Dashboard.CommandLine.Program
import Dashboard.CommandLine.Session
import Dashboard.Config.Basic
import Dashboard.Config.Document
import Dashboard.Config.Override
import Dashboard.Config.Validate
import Dashboard.Display
import Dashboard.Failure
import Dashboard.Fetch.Backend
import Dashboard.Fetch.Batch
import Dashboard.Fetch.Bootstrap
import Dashboard.Fetch.Cycle
import Dashboard.Fetch.Endpoint
import Dashboard.Fetch.Http
import Dashboard.Fetch.Message
import Dashboard.Fetch.Reply
import Dashboard.Fetch.Script
import Dashboard.Json.Compact
import Dashboard.Json.Decoder
import Dashboard.Json.Number
import Dashboard.Json.Value
import Dashboard.Main
import Dashboard.Network
import Dashboard.Number.Decimal
import Dashboard.Number.Double
import Dashboard.Number.Rounding
import Dashboard.Number.Shortest
import Dashboard.Panel.Benchmark
import Dashboard.Panel.Field
import Dashboard.Panel.Gauge
import Dashboard.Panel.Line
import Dashboard.Panel.Metrics
import Dashboard.Panel.Status
import Dashboard.Panel.Timeline
import Dashboard.Poller.Clock
import Dashboard.Poller.Session
import Dashboard.Poller.State
import Dashboard.Proofs.Config.Agreement
import Dashboard.Proofs.Config.Independence
import Dashboard.Proofs.Config.Precedence
import Dashboard.Proofs.Config.RoundTrip
import Dashboard.Proofs.Config.Setting
import Dashboard.Proofs.Config.Usable
import Dashboard.Proofs.Fetch.Addresses
import Dashboard.Proofs.Fetch.Batch
import Dashboard.Proofs.Fetch.Exchange
import Dashboard.Proofs.Fetch.Gauges
import Dashboard.Proofs.Fetch.Isolation
import Dashboard.Proofs.Fetch.Phase
import Dashboard.Proofs.Fetch.Policies
import Dashboard.Proofs.Fetch.StoreUrl
import Dashboard.Proofs.Fetch.Timing
import Dashboard.Proofs.Fetch.Verdict
import Dashboard.Proofs.Json.Accuracy
import Dashboard.Proofs.Json.Finite
import Dashboard.Proofs.Json.Number
import Dashboard.Proofs.Json.Object
import Dashboard.Proofs.Json.Printed
import Dashboard.Proofs.Json.Token
import Dashboard.Proofs.Json.Written
import Dashboard.Proofs.Number.Arithmetic
import Dashboard.Proofs.Number.Display
import Dashboard.Proofs.Number.Near
import Dashboard.Proofs.Number.Quotient
import Dashboard.Proofs.Number.Shortest
import Dashboard.Proofs.Number.Token
import Dashboard.Proofs.Number.Value
import Dashboard.Proofs.Panel.Benchmark
import Dashboard.Proofs.Panel.Field
import Dashboard.Proofs.Panel.Sample
import Dashboard.Proofs.Panel.Status
import Dashboard.Proofs.Panel.Timeline
import Dashboard.Proofs.Poller.Cadence
import Dashboard.Proofs.Poller.Calls
import Dashboard.Proofs.Poller.Change
import Dashboard.Proofs.Poller.Discipline
import Dashboard.Proofs.Poller.Display
import Dashboard.Proofs.Poller.History
import Dashboard.Proofs.Poller.Numbering
import Dashboard.Proofs.Poller.Origin
import Dashboard.Proofs.Poller.Overlap
import Dashboard.Proofs.Poller.Pace
import Dashboard.Proofs.Poller.Requests
import Dashboard.Proofs.Poller.Schedule
import Dashboard.Proofs.Poller.StandIn
import Dashboard.Proofs.Poller.Succession
import Dashboard.Proofs.Poller.Timeline
import Dashboard.Proofs.Poller.Unhurried
import Dashboard.Proofs.Report
import Dashboard.Proofs.Screen.Area
import Dashboard.Proofs.Screen.Keys
import Dashboard.Proofs.Screen.Scroll
import Dashboard.Proofs.Screen.Wrap
import Dashboard.Proofs.Text.Edges
import Dashboard.Proofs.Text.Numeral
import Dashboard.Proofs.Text.Order
import Dashboard.Proofs.Text.Percent
import Dashboard.Proofs.Text.Pieces
import Dashboard.Proofs.Toml.Document
import Dashboard.Proofs.Toml.Quoted
import Dashboard.Report
import Dashboard.Screen.Area
import Dashboard.Screen.Canvas
import Dashboard.Screen.Draw
import Dashboard.Screen.Glyph
import Dashboard.Screen.Style
import Dashboard.Screen.Wrap
import Dashboard.Snapshot
import Dashboard.Text.Blank
import Dashboard.Text.Composition
import Dashboard.Text.Composition.Pair
import Dashboard.Text.Composition.Weight
import Dashboard.Text.Letter
import Dashboard.Text.Mark
import Dashboard.Text.Natural
import Dashboard.Text.Pattern
import Dashboard.Text.Percent
import Dashboard.Text.Pieces
import Dashboard.Text.Quotation
import Dashboard.Text.Shown
import Dashboard.Text.Table
import Dashboard.Text.Utf8
import Dashboard.Toml.Document
import Dashboard.Toml.Moment
import Dashboard.Toml.Quoted
import Dashboard.Toml.Scalar
import Dashboard.Toml.Table
import Dashboard.Toml.Value
import Dashboard.Url.Basic
import Dashboard.Url.Host
import Dashboard.Url.Name
import Dashboard.Url.Name.Direction
import Dashboard.Url.Name.Joining
import Dashboard.Url.Name.Meaning
import Dashboard.Url.Punycode
import Dashboard.Viewer
