import RiskBoard.Binary64.Basic
import RiskBoard.Decimal.Shortest
import RiskBoard.Failure

/-!
# Forward exposure

The forward exposure profile: expected and potential exposures at increasing offsets from the
valuation date, in years. `ExposureSeries.ofPoints` accepts the points whose offsets are not
negative and strictly increase, and otherwise names the first point that breaks the rule.
-/

namespace RiskBoard

/-- One point of the forward exposure profile. -/
structure ExposurePoint where
  time : Binary64
  pfe : Binary64
  ee : Binary64
  epe : Binary64
  ene : Binary64
deriving DecidableEq

/-- The point from which reading starts. -/
def ExposurePoint.blank : ExposurePoint := ⟨.zero, .zero, .zero, .zero, .zero⟩

/-- What is wrong with the offsets of a profile. -/
inductive AxisFault where
  /-- An offset that is not at least zero. -/
  | negative (time : Binary64)
  /-- An offset that is not after the one before. -/
  | notIncreasing (time previous : Binary64)
deriving DecidableEq

/-- The wording of a fault. -/
def AxisFault.message : AxisFault → String
  | .negative t => s!"exposure time offset {Decimal.plain t} is negative"
  | .notIncreasing t p =>
    s!"exposure time offsets not strictly increasing: {Decimal.plain t} after {Decimal.plain p}"

/-- The failure that a fault amounts to. -/
def AxisFault.failure (fault : AxisFault) : Failure := .decode fault.message

/-- The first fault of offsets that follow a given one. At one offset, being negative comes
first. -/
def AxisFault.first? (previous : Option Binary64) : List Binary64 → Option AxisFault
  | [] => none
  | t :: rest =>
    if !Binary64.le .zero t then some (.negative t)
    else
      match previous with
      | some p => if t.le p then some (.notIncreasing t p) else first? (some t) rest
      | none => first? (some t) rest

/-- A forward exposure profile. -/
structure ExposureSeries where
  points : List ExposurePoint
  faultless : AxisFault.first? none (points.map (·.time)) = none
deriving DecidableEq

namespace ExposureSeries

/-- The profile without points. -/
def empty : ExposureSeries := ⟨[], rfl⟩

/-- A profile from its points. -/
def ofPoints (points : List ExposurePoint) : Except AxisFault ExposureSeries :=
  match h : AxisFault.first? none (points.map (·.time)) with
  | none => .ok ⟨points, h⟩
  | some fault => .error fault

end ExposureSeries

end RiskBoard
