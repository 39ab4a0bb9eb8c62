import RiskBoard.App
import RiskBoard.Binary64.Arith
import RiskBoard.Binary64.Basic
import RiskBoard.Binary64.Decade
import RiskBoard.Chart.Axis
import RiskBoard.Chart.Basic
import RiskBoard.CommandLine
import RiskBoard.Dashboard.Basic
import RiskBoard.Dashboard.Log
import RiskBoard.Dashboard.Tile
import RiskBoard.Dataset.Exposure
import RiskBoard.Dataset.Figure
import RiskBoard.Dataset.Portfolio
import RiskBoard.Dataset.Push
import RiskBoard.Dataset.Record
import RiskBoard.Dataset.Risk
import RiskBoard.Dataset.Snapshot
import RiskBoard.Decimal.Fixed
import RiskBoard.Decimal.Literal
import RiskBoard.Decimal.Shortest
import RiskBoard.Display
import RiskBoard.Event
import RiskBoard.Failure
import RiskBoard.Json.Fault
import RiskBoard.Json.Node
import RiskBoard.Json.Numeral
import RiskBoard.Json.Record
import RiskBoard.Json.Token
import RiskBoard.Json.Value
import RiskBoard.Main
import RiskBoard.Navigation
import RiskBoard.Poll
import RiskBoard.Pull.Response
import RiskBoard.Pull.Source
import RiskBoard.Push.Channel
import RiskBoard.Push.Frame
import RiskBoard.Session
import RiskBoard.Settings.Basic
import RiskBoard.Settings.File
import RiskBoard.Store
import RiskBoard.Text.Blank
import RiskBoard.Text.Lowercase
import RiskBoard.Text.Quoted
import RiskBoard.Text.Ranges
import RiskBoard.Timeline
import RiskBoard.Toml.Document
import RiskBoard.Toml.Scalar
import RiskBoard.Toml.Scan
import RiskBoard.Toml.Value
import RiskBoard.Proofs.Session.Run
import RiskBoard.Proofs.Session.LastWriter
import RiskBoard.Proofs.Dashboard.Painting
import RiskBoard.Proofs.Dashboard.Legible
import RiskBoard.Proofs.Push.LifeCycle
import RiskBoard.Proofs.Push.Delivery
import RiskBoard.Proofs.Chart.InPlace
import RiskBoard.Proofs.Session.Charting
import RiskBoard.Proofs.App.Interleaving
import RiskBoard.Proofs.Json.Given
import RiskBoard.Proofs.Json.Kept
import RiskBoard.Proofs.Push.Decoding
import RiskBoard.Proofs.Push.Naming
import RiskBoard.Proofs.Session.Isolation
import RiskBoard.Proofs.Dashboard.Indicator
import RiskBoard.Proofs.Binary64.Rounding
import RiskBoard.Proofs.Binary64.Value
import RiskBoard.Proofs.Binary64.Operations
import RiskBoard.Proofs.Binary64.Whole
import RiskBoard.Proofs.Binary64.Decades
import RiskBoard.Proofs.Chart.RoundStep
import RiskBoard.Proofs.Chart.Ticks
import RiskBoard.Proofs.Chart.Scale
import RiskBoard.Proofs.Push.Unnoticed
import RiskBoard.Proofs.Binary64.Magnitude
import RiskBoard.Proofs.Display.Digits
import RiskBoard.Proofs.Timeline
import RiskBoard.Proofs.App.Following
import RiskBoard.Proofs.Dashboard.Mirror
import RiskBoard.Proofs.Store.Coalescing
import RiskBoard.Proofs.Push.Lifetime
import RiskBoard.Proofs.Push.Reconnect
import RiskBoard.Proofs.Binary64.Order
import RiskBoard.Proofs.Dataset.Offsets
import RiskBoard.Proofs.Pull.AllOrNothing
import RiskBoard.Proofs.Binary64.PowersOfTwo
import RiskBoard.Proofs.Display.Fixed
import RiskBoard.Proofs.Chart.ExactAxis
import RiskBoard.Proofs.Settings.Addresses
import RiskBoard.Proofs.Binary64.Monotone
import RiskBoard.Proofs.Display.Grouping
import RiskBoard.Proofs.Display.Ordered
import RiskBoard.Proofs.Decimal.Shortest
import RiskBoard.Proofs.Display.AxisTick
import RiskBoard.Proofs.Json.Grammar
import RiskBoard.Proofs.Json.Accepted
import RiskBoard.Proofs.Push.Recovery
import RiskBoard.Proofs.Settings.Files
import RiskBoard.Proofs.Settings.Precedence
import RiskBoard.Proofs.Dashboard.Report
import RiskBoard.Proofs.Poll.Clock
import RiskBoard.Proofs.Poll.Schedule
