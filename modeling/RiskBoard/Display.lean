import RiskBoard.Binary64.Arith
import RiskBoard.Decimal.Shortest

/-!
# Display texts

How figures are shown. Two rules of rounding are in use, and both send a tie away from zero:

* `fixed` rounds the exact binary value, so `0.15` (which lies below the tie) is `0.1` at one place
  and `0.25` is `0.3`;
* `grouped` and `currency` first scale by the power of ten and round the product, so `0.125` and
  `1.005` are seen through a rounded multiplication.

Values that are not finite are shown by name. Negative zero has no sign except in `axisTick`, which
below a thousand shows a value by its shortest digits.
-/

namespace RiskBoard

/-- The colour of a shown value. -/
inductive Tone where
  | positive
  | negative
  | neutral
deriving DecidableEq, Repr

/-- The tone of a value's sign. -/
def Tone.of (x : Binary64) : Tone :=
  if Binary64.lt 0 x then .positive else if x.lt 0 then .negative else .neutral

/-- A text with its tone. -/
structure Shown where
  text : String
  tone : Tone
deriving DecidableEq, Repr

namespace Display

/-- The sign of a shown value: negative zero has none. -/
def isNegative (x : Binary64) : Bool := x.lt 0

/-- The most places that a value is shown with. -/
def maxPlaces : Nat := 65535

/-- Whether a value lies exactly between two neighbours on the grid of `places` fraction digits:
it is an odd multiple of `2^-(places + 1)`, the scaling being a rounded product. -/
def isTie (places : Nat) (x : Binary64) : Bool :=
  (x * Binary64.power 2 (places + 1)).isOdd

/-- The magnitude that is rounded: the next double in place of a tie, which moves it up. -/
def untied (places : Nat) (magnitude : Binary64) : Binary64 :=
  if isTie places magnitude then magnitude.awayFromZero else magnitude

/-- A value at fixed places, an exact tie going away from zero. -/
def fixedChars (places : Nat) (x : Binary64) : List Char :=
  Decimal.signed (isNegative x) (Decimal.fixed places (untied places x.abs))

/-- The magnitude that `grouped` shows: scaled by the power of ten, rounded, and scaled back. -/
def scaledMagnitude (places : Nat) (x : Binary64) : Binary64 :=
  let scale := Binary64.power 10 places
  (x.abs * scale).roundHalfAway / scale

/-- The ungrouped magnitude of a value. -/
def magnitudeChars (places : Nat) (x : Binary64) : List Char :=
  Decimal.fixed places (scaledMagnitude places x)

/-- Digits with a comma before every group of three but the first. -/
def groupThousands : List Char → List Char
  | [] => []
  | c :: rest =>
    if rest.length % 3 = 0 && !rest.isEmpty then c :: ',' :: groupThousands rest
    else c :: groupThousands rest

/-- A number with its part before the point grouped. -/
def groupedMagnitude (cs : List Char) : List Char :=
  groupThousands (cs.takeWhile (· != '.')) ++ cs.dropWhile (· != '.')

/-- A value with grouped digits at fixed places. -/
def groupedChars (places : Nat) (x : Binary64) : List Char :=
  Decimal.signed (isNegative x) (groupedMagnitude (magnitudeChars places x))

/-- An amount of money: the sign stands before the dollar. -/
def currencyChars (x : Binary64) : List Char :=
  Decimal.signed (isNegative x) ('$' :: groupedChars 2 x.abs)

def fixed (places : Nat) (x : Binary64) : String := .ofList (fixedChars places x)

def grouped (places : Nat) (x : Binary64) : String := .ofList (groupedChars places x)

def currency (x : Binary64) : String := .ofList (currencyChars x)

/-- `fixed`, refused when too many places are asked for. -/
def fixed? (places : Nat) (x : Binary64) : Option String :=
  if places ≤ maxPlaces then some (fixed places x) else none

/-- `grouped`, refused when too many places are asked for. -/
def grouped? (places : Nat) (x : Binary64) : Option String :=
  if places ≤ maxPlaces then some (grouped places x) else none

/-- The label of a tick on a value axis: millions at one place, thousands at none, and below a
thousand the value itself. -/
def axisTickChars (x : Binary64) : List Char :=
  if Binary64.le 1000000 x.abs then fixedChars 1 (x / 1000000) ++ ['M']
  else if Binary64.le 1000 x.abs then fixedChars 0 (x / 1000) ++ ['K']
  else Decimal.plainStyle.write x

def axisTick (x : Binary64) : String := .ofList (axisTickChars x)

/-- The label of a time offset in years. -/
def yearChars (x : Binary64) : List Char := fixedChars 1 x ++ ['Y']

def year (x : Binary64) : String := .ofList (yearChars x)

end Display

namespace Shown

/-- An amount of money in the tone of its sign. -/
def currency (x : Binary64) : Shown := ⟨Display.currency x, .of x⟩

/-- Text without a tone. -/
def plain (text : String) : Shown := ⟨text, .neutral⟩

/-- An amount of money without a tone. -/
def plainCurrency (x : Binary64) : Shown := .plain (Display.currency x)

end Shown

end RiskBoard
