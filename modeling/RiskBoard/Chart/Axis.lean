import RiskBoard.Binary64.Decade
import RiskBoard.Display

/-!
# Value axes

The ticks of a value axis lie on a round step, one, two or five times a power of ten, and enclose
the data. The step is the round number at or above the data's spread over the spaces that the tick
budget allows; when rounding the ends outwards takes more spaces than that, the step is chosen once
more.

The algorithm is written once over `AxisNumber`, the arithmetic that it needs. Doubles are the
arithmetic that runs; the rationals are the one in which it can be understood, where no operation
rounds and only the choice of the decade is a floor.
-/

namespace RiskBoard

/-- The arithmetic of an axis. -/
class AxisNumber (α : Type) extends Add α, Sub α, Mul α, Div α where
  ofInt : Int → α
  /-- The number 0.05. -/
  twentieth : α
  lt : α → α → Bool
  le : α → α → Bool
  same : α → α → Bool
  abs : α → α
  floor : α → α
  ceil : α → α
  /-- The nearest whole number, a half going away from zero. -/
  round : α → α
  /-- The greatest power of ten that is not above a number. -/
  decade : α → α
  /-- The least power of ten, not below one, by which a round step becomes whole. -/
  precision : α → α
  /-- The integer part of a number, as the index of a tick. -/
  index : α → Int

instance : AxisNumber Binary64 where
  ofInt := .ofInt
  twentieth := .ofRatio false 1 20
  lt := Binary64.lt
  le := Binary64.le
  same := Binary64.same
  abs := .abs
  floor := .floor
  ceil := .ceil
  round := .roundHalfAway
  decade x := x.floorLog10.tenToThe
  precision x := Binary64.power 10 (x.floorLog10.neg.max .zero).toInt32.toNat
  index := Binary64.toInt64

namespace Axis

variable {α : Type} [AxisNumber α]

open AxisNumber

/-- A spread that is within a thousandth of a whole number is taken for it. -/
def snapped (spread : α) : α :=
  let whole := round spread
  if le (abs (spread - whole)) (spread / ofInt 1000) then whole else spread

/-- The least of 1, 2, 5 and 10 that is not below a fraction of a decade. -/
def roundFraction (fraction : α) : α :=
  if le fraction (ofInt 1) then ofInt 1
  else if le fraction (ofInt 2) then ofInt 2
  else if le fraction (ofInt 5) then ofInt 5
  else ofInt 10

/-- The round step for a spread. -/
def niceStep (spread : α) : α :=
  let spread := snapped spread
  let magnitude := decade spread
  roundFraction (spread / magnitude) * magnitude

/-- The ends of an axis: a flat range is widened by a twentieth of its value, or by one at zero. -/
def ends (low high : α) : α × α :=
  if same low high then
    let margin := if same high (ofInt 0) then ofInt 1 else abs (high * twentieth)
    (low - margin, high + margin)
  else (low, high)

/-- The most spaces between the ticks of a budget, of which there are at least two. -/
def maxSpaces (budget : Nat) : α := ofInt (Max.max budget 2) - ofInt 1

/-- The spaces between the ticks that enclose a range on a step. -/
def spaces (step low high : α) : α := ceil (high / step) - floor (low / step)

/-- The step of an axis between two ends. -/
def step (low high : α) (budget : Nat) : α :=
  let first := niceStep ((high - low) / maxSpaces budget)
  let taken := spaces first low high
  if lt (maxSpaces budget) taken then niceStep (taken * first / maxSpaces budget) else first

/-- The value of the tick with an index, rounded to the places of the step: a multiple of a
fractional step would carry the noise of its representation. -/
def tickValue (step : α) (index : Int) : α :=
  let scale := precision step
  round (ofInt index * step * scale) / scale

/-- The most ticks that can be held: their values take eight bytes each. -/
def maxTicks : Nat := 9223372036854775807 / 8

/-- The indices from the first to the last; `none` when there are more than can be held. -/
def indices? (first last : Int) : Option (List Int) :=
  let count := (last + 1 - first).toNat
  if count ≤ maxTicks then some ((List.range count).map fun (i : Nat) => first + i) else none

/-- The values of the ticks that enclose a range within a budget; `none` when there are more than
can be held. -/
def ticks? (low high : α) (budget : Nat) : Option (List α) :=
  let (low, high) := ends low high
  let step := Axis.step low high budget
  (indices? (index (floor (low / step))) (index (ceil (high / step)))).map (·.map (tickValue step))

end Axis

end RiskBoard
