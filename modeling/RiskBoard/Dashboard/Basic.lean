import RiskBoard.Dashboard.Tile
import RiskBoard.Event

/-!
# The dashboard

What the user sees, as a fold over events. A merge paints only the figures that its patch carries;
everything else keeps the value last shown. `Dashboard.strokes` says what an event paints, in
order, and applying the event paints exactly that.
-/

namespace RiskBoard

/-- A row of the trade table. -/
structure TradeRow where
  id : String
  instrument : String
  notional : String
  pv : Shown
  delta : String
  gamma : String
  vega : String
deriving DecidableEq

/-- A trade as it is shown. -/
def TradeRow.ofTrade (trade : Trade) : TradeRow where
  id := trade.id
  instrument := trade.instrument
  notional := Display.grouped 0 trade.notional
  pv := .currency trade.pv
  delta := Display.fixed 4 trade.delta
  gamma := Display.fixed 4 trade.gamma
  vega := Display.fixed 4 trade.vega

structure Dashboard where
  panel : Panel
  trades : List TradeRow
  status : Option ConnectionStatus
  active : View
  chart : Option ChartUpdate
deriving DecidableEq

namespace Dashboard

/-- The dashboard before the first event. -/
def initial : Dashboard := ⟨.blank, [], none, .dashboard, none⟩

/-- The text of the connection indicator, empty before the first connection settles. -/
def statusText (dashboard : Dashboard) : String :=
  match dashboard.status with
  | some status => status.label
  | none => ""

/-- What a portfolio paints. -/
def portfolioStrokes (p : Portfolio) : List (Tile × Shown) :=
  [(.figure .totalPv, .currency p.totalPv), (.tradeCount, .plain (toString p.tradeCount))]

/-- What a figure paints when it has a value. -/
def figureStroke (value : Figure → Option Binary64) (f : Figure) : Option (Tile × Shown) :=
  (value f).map fun x => (.figure f, f.show x)

/-- What a pulled risk snapshot paints: every figure but the total present value. -/
def riskStrokes (risk : Risk) : List (Tile × Shown) :=
  Figure.all.tail.filterMap (figureStroke risk.figure)

/-- What a patch paints: the figures that it carries. -/
def patchStrokes (patch : Patch) : List (Tile × Shown) :=
  Figure.all.filterMap (figureStroke patch.figure)

/-- What an event paints, in order. -/
def strokes : Event → List (Tile × Shown)
  | .dataset (.replaced (.portfolio p)) => portfolioStrokes p
  | .dataset (.replaced (.risk r)) => riskStrokes r
  | .dataset (.replaced (.exposure _)) => []
  | .dataset (.merged _ patch) => patchStrokes patch
  | .status _ | .chart _ | .activeView _ => []

/-- The dashboard after an event. -/
def apply (dashboard : Dashboard) (event : Event) : Dashboard :=
  let painted := { dashboard with panel := dashboard.panel.paintAll (strokes event) }
  match event with
  | .dataset (.replaced (.portfolio p)) => { painted with trades := p.trades.map .ofTrade }
  | .dataset _ => painted
  | .status status => { painted with status := some status }
  | .chart update => { painted with chart := some update }
  | .activeView navigation => { painted with active := navigation.active }

/-- The tiles that an event paints, in order. -/
def painted (event : Event) : List Tile := (strokes event).map (·.1)

/-- The dashboard after events. -/
def fold (dashboard : Dashboard) (events : List Event) : Dashboard := events.foldl apply dashboard

end Dashboard

end RiskBoard
