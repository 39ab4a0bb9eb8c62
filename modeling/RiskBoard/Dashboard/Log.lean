import RiskBoard.Dashboard.Basic

/-!
# The log of the dashboard

What is logged of an event that the dashboard has taken in: every tile that it painted, and then
the change itself. The rows of a pulled portfolio are logged for debugging only.
-/

namespace RiskBoard

/-- How important a line is. -/
inductive LogLevel where
  | info
  | debug
deriving DecidableEq, Repr

def LogLevel.name : LogLevel → String
  | .info => "INFO"
  | .debug => "DEBUG"

/-- Whether lines of a level are shown at a log level of the settings, in any case of letters. -/
def LogLevel.isShownAt (level : LogLevel) (setting : String) : Bool :=
  match level with
  | .info => ["trace", "debug", "info"].contains (Text.lower setting)
  | .debug => ["trace", "debug"].contains (Text.lower setting)

/-- A line of the log: a message and the values that it tells, by name. -/
structure LogLine where
  level : LogLevel
  message : String
  fields : List (String × String)
deriving DecidableEq

/-- The name of a tone in a log. -/
def Tone.title : Tone → String
  | .positive => "Positive"
  | .negative => "Negative"
  | .neutral => "Neutral"

namespace LogLine

/-- A tile that was painted. -/
def ofTile (t : Tile) (shown : Shown) : LogLine :=
  ⟨.info, "Field updated", [("field", t.title), ("value", shown.text), ("tone", shown.tone.title)]⟩

/-- A row of a pulled portfolio. -/
def ofRow (row : TradeRow) : LogLine :=
  ⟨.debug, "Trade", [("id", row.id), ("instrument", row.instrument), ("notional", row.notional),
    ("pv", row.pv.text)]⟩

/-- A drawn chart: how many points it has, its first and last label, and its value axis. -/
def ofChart (update : ChartUpdate) : LogLine :=
  ⟨.info, "Exposure chart", [("action", update.action.title),
    ("points", toString update.labels.length),
    ("first", update.labels.head?.getD ""), ("last", update.labels.getLast?.getD ""),
    ("y_axis", " ".intercalate (update.ticks.map (·.label)))]⟩

/-- The lines about the change that an event is, given the dashboard after it. -/
def ofChange (dashboard : Dashboard) : Event → List LogLine
  | .status _ => [⟨.info, "Connection status", [("status", dashboard.statusText)]⟩]
  | .chart update => [ofChart update]
  | .activeView navigation =>
    [⟨.info, "Active view", [("from", navigation.previous.title), ("to", navigation.active.title)]⟩]
  | .dataset update =>
    match update.snapshot with
    | .portfolio _ => dashboard.trades.map ofRow
    | .risk _ | .exposure _ => []

/-- A line as text. -/
def text (line : LogLine) : String :=
  " ".intercalate (line.level.name :: line.message :: line.fields.map fun (k, v) => s!"{k}={v}")

/-- The lines about an event, given the dashboard after it. -/
def ofEvent (dashboard : Dashboard) (event : Event) : List LogLine :=
  (Dashboard.painted event).filterMap (fun t => (dashboard.panel.tile t).map (ofTile t)) ++
    ofChange dashboard event

end LogLine

/-- The lines about events that a dashboard takes in one after another. -/
def Dashboard.log (dashboard : Dashboard) : List Event → List LogLine
  | [] => []
  | event :: rest =>
    let dashboard := dashboard.apply event
    LogLine.ofEvent dashboard event ++ log dashboard rest

end RiskBoard
