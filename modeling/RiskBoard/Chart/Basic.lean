import RiskBoard.Chart.Axis
import RiskBoard.Dataset.Exposure
import RiskBoard.Json.Value

/-!
# The exposure chart

Four plotted series over one axis of year labels, drawn from a forward exposure profile. The chart
is created by the first profile that has points and from then on updated in place, also by an empty
profile, so that what the plotting layer holds about it survives.
-/

namespace RiskBoard

/-- The fixed style of a plotted series. -/
structure SeriesStyle where
  label : String
  borderColor : String
  backgroundColor : String
  fill : Bool
  tension : Binary64
deriving DecidableEq

namespace SeriesStyle

/-- The tension of every curve. -/
def commonTension : Binary64 := .ofRatio false 4 10

def pfe : SeriesStyle := ⟨"PFE (95%)", "#f59e0b", "rgba(245, 158, 11, 0.1)", false, commonTension⟩

def ee : SeriesStyle := ⟨"EE", "#0ea5e9", "rgba(14, 165, 233, 0.1)", false, commonTension⟩

def epe : SeriesStyle := ⟨"EPE", "#22c55e", "rgba(34, 197, 94, 0.1)", false, commonTension⟩

def ene : SeriesStyle := ⟨"ENE", "#ef4444", "rgba(239, 68, 68, 0.1)", false, commonTension⟩

end SeriesStyle

/-- One thing for each of the four plotted series, in plotting order. -/
structure Curves (α : Type) where
  pfe : α
  ee : α
  epe : α
  ene : α
deriving DecidableEq

namespace Curves

variable {α β γ : Type}

def toList (curves : Curves α) : List α := [curves.pfe, curves.ee, curves.epe, curves.ene]

def map (f : α → β) (curves : Curves α) : Curves β :=
  ⟨f curves.pfe, f curves.ee, f curves.epe, f curves.ene⟩

/-- Combines what stands in the same place. -/
def zipWith (f : α → β → γ) (xs : Curves α) (ys : Curves β) : Curves γ :=
  ⟨f xs.pfe ys.pfe, f xs.ee ys.ee, f xs.epe ys.epe, f xs.ene ys.ene⟩

end Curves

/-- The styles of the plotted series. -/
def SeriesStyle.all : Curves SeriesStyle := ⟨.pfe, .ee, .epe, .ene⟩

/-- A plotted series. -/
structure ChartSeries where
  style : SeriesStyle
  values : List Binary64
deriving DecidableEq

/-- Four plotted series over one axis of year labels. -/
structure Chart where
  labels : List String
  curves : Curves ChartSeries
deriving DecidableEq

/-- What a profile gives to a chart: year labels and the values of each series. -/
structure ChartData where
  labels : List String
  values : Curves (List Binary64)
deriving DecidableEq

/-- The data of a profile. -/
def ChartData.ofSeries (series : ExposureSeries) : ChartData where
  labels := series.points.map fun p => Display.year p.time
  values :=
    { pfe := series.points.map (·.pfe)
      ee := series.points.map (·.ee)
      epe := series.points.map (·.epe)
      ene := series.points.map (·.ene) }

/-- A tick of the value axis. -/
structure ValueTick where
  value : Binary64
  label : String
deriving DecidableEq

/-- Whether a drawing created the chart or updated it. -/
inductive ChartAction where
  | created
  | updated
deriving DecidableEq, Repr

/-- What the plotting layer is told: the labels and values of the chart, with its value axis. -/
structure ChartUpdate where
  action : ChartAction
  labels : List String
  values : Curves (List Binary64)
  ticks : List ValueTick
deriving DecidableEq

namespace Chart

/-- A new chart, in the fixed styles. -/
def create (data : ChartData) : Chart := ⟨data.labels, SeriesStyle.all.zipWith .mk data.values⟩

/-- Puts data into a chart in place of what it plots; every series keeps its style. -/
def replaceData (chart : Chart) (data : ChartData) : Chart :=
  ⟨data.labels, chart.curves.zipWith (fun series values => { series with values }) data.values⟩

/-- All plotted values, series after series. -/
def values (chart : Chart) : List Binary64 := chart.curves.toList.flatMap (·.values)

/-- Widens a range to a value. -/
def widen (range : Option (Binary64 × Binary64)) (x : Binary64) : Option (Binary64 × Binary64) :=
  match range with
  | none => some (x, x)
  | some (low, high) => some (low.min x, high.max x)

/-- The lowest and the highest plotted value. -/
def range (chart : Chart) : Option (Binary64 × Binary64) := chart.values.foldl widen none

/-- The most ticks of the value axis that is drawn. -/
def maxValueTicks : Nat := 11

/-- The value axis within a budget of ticks; `none` when its ticks are more than can be held. -/
def valueAxis? (chart : Chart) (budget : Nat) : Option (List ValueTick) :=
  match chart.range with
  | none => some []
  | some (low, high) =>
    (Axis.ticks? low high budget).map (·.map fun x => ⟨x, Display.axisTick x⟩)

/-- What the plotting layer is told of a chart; `none` when its value axis cannot be held. -/
def update? (chart : Chart) (action : ChartAction) : Option ChartUpdate :=
  (chart.valueAxis? maxValueTicks).map (⟨action, chart.labels, chart.curves.map (·.values), ·⟩)

end Chart

/-- The one chart, once there is one, and how often it was drawn and created.

The counts have no upper limit here. Where they are numbers of 64 and 32 bits they cannot wrap
either: a chart is created at most once, and no session lives to draw it `2 ^ 64` times. -/
structure ChartModel where
  chart : Option Chart
  redraws : Nat
  creations : Nat
deriving DecidableEq

/-- What drawing a profile leads to. -/
inductive Drawing where
  /-- There is no chart yet, and an empty profile does not create one. -/
  | nothing
  | drawn (update : ChartUpdate)
  /-- The value axis has more ticks than can be held. -/
  | overflow
deriving DecidableEq

namespace ChartModel

/-- The model before the first profile. -/
def initial : ChartModel := ⟨none, 0, 0⟩

/-- What a profile would do to the chart. -/
def action (model : ChartModel) : ChartAction :=
  if model.chart.isSome then .updated else .created

/-- The model after a profile. -/
def next (model : ChartModel) (series : ExposureSeries) : ChartModel :=
  match model.chart with
  | some chart =>
    { model with
      chart := some (chart.replaceData (.ofSeries series))
      redraws := model.redraws + 1 }
  | none =>
    -- an empty profile empties a chart that is there, but creates none
    if series.points.isEmpty then model
    else
      { chart := some (.create (.ofSeries series))
        redraws := model.redraws + 1
        creations := model.creations + 1 }

/-- What the plotting layer is told of a profile. -/
def draw (model : ChartModel) (series : ExposureSeries) : Drawing :=
  match (model.next series).chart with
  | none => .nothing
  | some chart => (chart.update? model.action).elim .overflow .drawn

end ChartModel

/-! ### Written form -/

namespace ChartAction

def name : ChartAction → String
  | .created => "created"
  | .updated => "updated"

/-- The name of an action in a log. -/
def title : ChartAction → String
  | .created => "Created"
  | .updated => "Updated"

end ChartAction

namespace ChartUpdate

open Json (Value)

def tickValue (tick : ValueTick) : Value :=
  .object [("value", .real tick.value), ("label", .text tick.label)]

def toValue (update : ChartUpdate) : Value :=
  .object [("action", .text update.action.name), ("labels", .list .text update.labels),
    ("pfe", .list .real update.values.pfe), ("ee", .list .real update.values.ee),
    ("epe", .list .real update.values.epe), ("ene", .list .real update.values.ene),
    ("value_ticks", .list tickValue update.ticks)]

end ChartUpdate

end RiskBoard
