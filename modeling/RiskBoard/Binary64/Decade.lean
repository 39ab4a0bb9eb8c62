import RiskBoard.Binary64.Arith

/-!
# Decades

The decimal logarithm of a double, rounded down to a whole number, and the power of ten it names.

The logarithm is itself a double before it is rounded down, so a number a hair below `10ᴷ` whose
logarithm rounds to `K` counts as having reached the decade `K`. `Rank.decade` is the exact
decade and `Rank.reachesDecade` says when the hair is too thin to see: for a small relative
distance `δ = (10ᴷ - x) / 10ᴷ` the logarithm lies `δ / ln 10` below `K`, and it rounds up to `K`
when that is at most half the gap between `K` and its lower neighbour.
-/

namespace RiskBoard

namespace Rank

/-- The greatest `k` with `10ᵏ ≤ n`, for an `n` other than zero of fewer than fifty thousand bits.
The logarithm of two is just above 0.30102, so the estimate is right or one too low. -/
def logTen (n : Nat) : Nat :=
  let estimate := n.log2 * 30102 / 100000
  if Nat.pow 10 (estimate + 1) ≤ n then estimate + 1 else estimate

/-- The greatest `k` with `10ᵏ` at most the magnitude of a rank other than zero. Multiplied by
`10¹⁰⁷⁴` every magnitude is a whole number. -/
def decade (rank : Nat) : Int := (logTen (units rank * Nat.pow 5 1074) : Int) - 1074

/-- The natural logarithm of ten, to forty places. -/
def lnTen : Rat :=
  23025850929940456840179914546843642076011 / 10000000000000000000000000000000000000000

/-- The distance from a whole number other than zero to the next double below it. -/
def gapBelow (k : Int) : Rat :=
  match Binary64.ofNat k.natAbs with
  | .finite _ r =>
    let lower := if 0 < k then r.val - 1 else r.val
    (units (lower + 1) - units lower : Rat) / unitsPerOne
  | _ => 0

/-- Whether the logarithm of a magnitude just below `10ᴷ` rounds to `K`. -/
def reachesDecade (k : Int) (rank : Nat) : Bool :=
  let power : Rat := (10 : Rat) ^ k
  k != 0 && decide (2 * (power - (units rank : Rat) / unitsPerOne) ≤ gapBelow k * lnTen * power)

end Rank

namespace Binary64

/-- The decimal logarithm rounded down: minus infinity at zero, not a number below it. -/
def floorLog10 : Binary64 → Binary64
  | .nan => .nan
  | .infinite m => if m then .nan else .infinite false
  | .finite m r =>
    if r.val = 0 then .infinite true
    else if m then .nan
    else
      let k := Rank.decade r
      ofInt (if Rank.reachesDecade (k + 1) r then k + 1 else k)

/-- Ten to the power of a whole number. The one such power that lies halfway between two doubles,
`10²³`, goes to the greater. -/
def tenToThe : Binary64 → Binary64
  | .nan => .nan
  | .infinite m => if m then zero else .infinite false
  | x =>
    let k := x.toInt64
    match tenTo k with
    | .finite m r =>
      let halfway := Rank.units r.val + Rank.units (r.val + 1)
      let isTie := 0 < k ∧ 2 * Nat.pow 10 k.natAbs * Rank.unitsPerOne = halfway
      if isTie then awayFromZero (.finite m r) else .finite m r
    | power => power

end Binary64

end RiskBoard
