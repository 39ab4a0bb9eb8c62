import RiskBoard.Dataset.Push
import RiskBoard.Dataset.Snapshot
import RiskBoard.Json.Record
import RiskBoard.Json.Value

/-!
# Datasets as records

How the datasets are read from JSON and written to it. Fields are declared once per record, in the
order in which they are written and in which an array lists them.
-/

namespace RiskBoard

open Json (RecordField Shape Value)

/-! ### Portfolios -/

namespace Trade

def shape : Shape Trade :=
  ⟨"Trade",
    [.make "id" .required Json.text fun v t => { t with id := v },
      .make "instrument" .required Json.text fun v t => { t with instrument := v },
      .make "notional" .required Json.real fun v t => { t with notional := v },
      .make "pv" .required Json.real fun v t => { t with pv := v },
      .make "delta" .required Json.real fun v t => { t with delta := v },
      .make "gamma" .required Json.real fun v t => { t with gamma := v },
      .make "vega" .required Json.real fun v t => { t with vega := v }]⟩

def read : Json.Reader Trade := shape.read .blank

def toValue (t : Trade) : Value :=
  .object [("id", .text t.id), ("instrument", .text t.instrument), ("notional", .real t.notional),
    ("pv", .real t.pv), ("delta", .real t.delta), ("gamma", .real t.gamma), ("vega", .real t.vega)]

end Trade

namespace Portfolio

def shape : Shape Portfolio :=
  ⟨"PortfolioSnapshot",
    [.make "total_pv" .required Json.real fun v p => { p with totalPv := v },
      .make "trade_count" .required Json.natural fun v p => { p with tradeCount := v },
      .make "trades" .required (Json.list Trade.read) fun v p => { p with trades := v }]⟩

def read : Json.Reader Portfolio := shape.read .blank

def toValue (p : Portfolio) : Value :=
  .object [("total_pv", .real p.totalPv), ("trade_count", .natural p.tradeCount),
    ("trades", .list Trade.toValue p.trades)]

end Portfolio

/-! ### Risk -/

namespace Risk

def shape : Shape Risk :=
  ⟨"RiskSnapshot",
    [.make "total_pv" .defaulted (Json.nullable Json.real) fun v r => { r with totalPv := v },
      .make "cva" .required Json.real fun v r => { r with cva := v },
      .make "dva" .required Json.real fun v r => { r with dva := v },
      .make "fva" .required Json.real fun v r => { r with fva := v },
      .make "total_xva" .required Json.real fun v r => { r with totalXva := v },
      .make "ee" .required Json.real fun v r => { r with ee := v },
      .make "epe" .required Json.real fun v r => { r with epe := v },
      .make "pfe" .required Json.real fun v r => { r with pfe := v }]⟩

def read : Json.Reader Risk := shape.read .zero

def toValue (r : Risk) : Value :=
  .object (Figure.all.map fun f => (f.name, .optional .real (r.figure f)))

end Risk

/-- A field for one figure, which may be null or absent. -/
def Figure.field {σ : Type} (f : Figure) (set : Option Binary64 → σ → σ) : RecordField σ :=
  .make f.name .defaulted (Json.nullable Json.real) set

namespace Patch

def shape : Shape Patch := ⟨"RiskPatch", Figure.all.map fun f => f.field (Patch.set f)⟩

def read : Json.Reader Patch := shape.read .empty

/-- Only the figures that are carried are written. -/
def toValue (p : Patch) : Value :=
  .object (p.carried.map fun f => (f.name, .optional .real (p.figure f)))

end Patch

namespace ValuationPush

def shape : Shape ValuationPush :=
  ⟨"RiskPush",
    [Figure.totalPv.field fun v p => { p with totalPv := v },
      Figure.cva.field fun v p => { p with cva := v },
      Figure.dva.field fun v p => { p with dva := v },
      Figure.fva.field fun v p => { p with fva := v }]⟩

def read : Json.Reader ValuationPush := shape.read .empty

def toValue (p : ValuationPush) : Value :=
  .object (Figure.valuation.map fun f => (f.name, .optional .real (p.toPatch.figure f)))

end ValuationPush

namespace ExposurePush

def shape : Shape ExposurePush :=
  ⟨"ExposurePatch",
    [Figure.ee.field fun v p => { p with ee := v },
      Figure.epe.field fun v p => { p with epe := v },
      Figure.pfe.field fun v p => { p with pfe := v }]⟩

def read : Json.Reader ExposurePush := shape.read .empty

def toValue (p : ExposurePush) : Value :=
  .object (Figure.exposure.map fun f => (f.name, .optional .real (p.toPatch.figure f)))

end ExposurePush

/-! ### Forward exposure -/

namespace ExposurePoint

def shape : Shape ExposurePoint :=
  ⟨"TimePoint",
    [.make "time" .required Json.real fun v p => { p with time := v },
      .make "pfe" .required Json.real fun v p => { p with pfe := v },
      .make "ee" .required Json.real fun v p => { p with ee := v },
      .make "epe" .required Json.real fun v p => { p with epe := v },
      .make "ene" .required Json.real fun v p => { p with ene := v }]⟩

def read : Json.Reader ExposurePoint := shape.read .blank

def toValue (p : ExposurePoint) : Value :=
  .object [("time", .real p.time), ("pfe", .real p.pfe), ("ee", .real p.ee), ("epe", .real p.epe),
    ("ene", .real p.ene)]

end ExposurePoint

namespace ExposureSeries

/-- The backend's answer, whose points still have to be accepted as a series. -/
def pointsShape : Shape (List ExposurePoint) :=
  ⟨"ExposureResponse",
    [.make "time_series" .required (Json.list ExposurePoint.read) fun v _ => v]⟩

def readPoints : Json.Reader (List ExposurePoint) := pointsShape.read []

def toValue (s : ExposureSeries) : Value :=
  .object [("points", .list ExposurePoint.toValue s.points)]

end ExposureSeries

namespace Snapshot

def toValue (s : Snapshot) : Value :=
  let value := match s with
    | .portfolio p => p.toValue
    | .risk r => r.toValue
    | .exposure e => e.toValue
  .object [("kind", .text s.kind.name), ("value", value)]

end Snapshot

/-! ### Health -/

/-- What a backend says of itself. -/
structure Health where
  status : String
  version : String
deriving DecidableEq

namespace Health

def shape : Shape Health :=
  ⟨"HealthResponse",
    [.make "status" .required Json.text fun v h => { h with status := v },
      .make "version" .required Json.text fun v h => { h with version := v }]⟩

def read : Json.Reader Health := shape.read ⟨"", ""⟩

def toValue (h : Health) : Value :=
  .object [("status", .text h.status), ("version", .text h.version)]

end Health

end RiskBoard
