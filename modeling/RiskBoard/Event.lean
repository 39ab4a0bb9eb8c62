import RiskBoard.Chart.Basic
import RiskBoard.Dataset.Record
import RiskBoard.Navigation

/-!
# Events

What the core tells the view layer: changed datasets, the connection indicator, a drawn chart, a
change of the active view. A boundary delivers events in order for as long as somebody listens;
afterwards they are lost, which nothing else notices.
-/

namespace RiskBoard

/-- The state of the connection indicator. -/
inductive ConnectionStatus where
  | connected
  | disconnected
  | error
deriving DecidableEq, Repr

namespace ConnectionStatus

/-- All states of the indicator. -/
def all : List ConnectionStatus := [.connected, .disconnected, .error]

def name : ConnectionStatus → String
  | connected => "connected"
  | disconnected => "disconnected"
  | error => "error"

/-- The text of the indicator. -/
def label : ConnectionStatus → String
  | connected => "Connected"
  | disconnected => "Disconnected"
  | error => "Connection Error"

end ConnectionStatus

/-- A change of a dataset. -/
inductive DatasetUpdate where
  /-- A new value in place of the old. -/
  | replaced (snapshot : Snapshot)
  /-- A patch, with the value after it was merged. -/
  | merged (risk : Risk) (patch : Patch)
deriving DecidableEq

/-- The value after the change. -/
def DatasetUpdate.snapshot : DatasetUpdate → Snapshot
  | .replaced snapshot => snapshot
  | .merged risk _ => .risk risk

inductive Event where
  | dataset (update : DatasetUpdate)
  | status (status : ConnectionStatus)
  | chart (update : ChartUpdate)
  | activeView (navigation : Navigation)
deriving DecidableEq

/-- The events that were delivered, and whether somebody still listens. -/
structure Boundary where
  delivered : List Event
  listening : Bool
deriving DecidableEq

namespace Boundary

/-- The boundary before the first event. -/
def fresh : Boundary := ⟨[], true⟩

/-- Delivers an event if somebody listens. -/
def emit (boundary : Boundary) (event : Event) : Boundary :=
  if boundary.listening then { boundary with delivered := boundary.delivered ++ [event] }
  else boundary

/-- Nobody listens any more. -/
def close (boundary : Boundary) : Boundary := { boundary with listening := false }

end Boundary

/-! ### Written form -/

open Json (Value)

namespace DatasetUpdate

def toValue : DatasetUpdate → Value
  | .replaced snapshot => .object [("update", .text "replaced"), ("snapshot", snapshot.toValue)]
  | .merged risk patch =>
    .object [("update", .text "merged"), ("snapshot", (Snapshot.risk risk).toValue),
      ("patch", .object [("kind", .text Kind.risk.name), ("value", patch.toValue)])]

end DatasetUpdate

namespace Event

/-- The name of an event's kind. -/
def name : Event → String
  | .dataset _ => "dataset"
  | .status _ => "status"
  | .chart _ => "chart"
  | .activeView _ => "active_view"

def data : Event → Value
  | .dataset update => update.toValue
  | .status s => .text s.name
  | .chart update => update.toValue
  | .activeView navigation =>
    .object [("previous", .text navigation.previous.name), ("active", .text navigation.active.name)]

def toValue (event : Event) : Value :=
  .object [("event", .text event.name), ("data", event.data)]

end Event

end RiskBoard
