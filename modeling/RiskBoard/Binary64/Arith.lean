import RiskBoard.Binary64.Basic

/-!
# Binary64 arithmetic

Each operation takes the exact result as an integer quotient in units of `2⁻¹⁰⁷⁴` and rounds it
once. Rounding to a whole number needs no second rounding: the floor, the ceiling and the nearest
whole number of a double are doubles.

`power` is repeated squaring with a rounding after every product, so it is *not* a correctly
rounded power; beyond `10²²` the difference shows.
-/

namespace RiskBoard.Binary64

/-! ### Sums, products and quotients -/

/-- The sum. Opposite magnitudes cancel to positive zero, and two negative zeros to a negative
one. -/
def add : Binary64 → Binary64 → Binary64
  | .nan, _ | _, .nan => .nan
  | .infinite m, .infinite n => if m = n then .infinite m else .nan
  | .infinite m, .finite .. => .infinite m
  | .finite .., .infinite n => .infinite n
  | .finite m r, .finite n s =>
    let total := signedUnits m r + signedUnits n s
    if total = 0 then round (m && n) 0 1 else round (decide (total < 0)) total.natAbs 1

def sub (x y : Binary64) : Binary64 := x.add y.neg

/-- The product; zero times an infinity is not a number. -/
def mul : Binary64 → Binary64 → Binary64
  | .nan, _ | _, .nan => .nan
  | .infinite m, .infinite n => .infinite (m ^^ n)
  | .infinite m, .finite n r | .finite n r, .infinite m =>
    if r.val = 0 then .nan else .infinite (m ^^ n)
  | .finite m r, .finite n s =>
    round (m ^^ n) (Rank.units r * Rank.units s) Rank.unitsPerOne

/-- The quotient. A number other than zero divided by zero is infinite, and `0 / 0` is not a
number. -/
def div : Binary64 → Binary64 → Binary64
  | .nan, _ | _, .nan => .nan
  | .infinite _, .infinite _ => .nan
  | .infinite m, .finite n _ => .infinite (m ^^ n)
  | .finite m _, .infinite n => round (m ^^ n) 0 1
  | .finite m r, .finite n s =>
    if s.val = 0 then
      if r.val = 0 then .nan else .infinite (m ^^ n)
    else round (m ^^ n) (Rank.units r * Rank.unitsPerOne) (Rank.units s)

instance : Add Binary64 := ⟨add⟩
instance : Sub Binary64 := ⟨sub⟩
instance : Mul Binary64 := ⟨mul⟩
instance : Div Binary64 := ⟨div⟩

/-! ### Whole numbers -/

/-- The double with a given sign and a whole magnitude. -/
def whole (negative : Bool) (n : Nat) : Binary64 := ofRatio negative n 1

/-- The greatest whole number not above `x`. -/
def floor : Binary64 → Binary64
  | .finite m r =>
    let u := Rank.units r
    whole m (if m then (u + Rank.unitsPerOne - 1) / Rank.unitsPerOne else u / Rank.unitsPerOne)
  | x => x

/-- The least whole number not below `x`. -/
def ceil : Binary64 → Binary64
  | .finite m r =>
    let u := Rank.units r
    whole m (if m then u / Rank.unitsPerOne else (u + Rank.unitsPerOne - 1) / Rank.unitsPerOne)
  | x => x

/-- The nearest whole number, a half going away from zero. -/
def roundHalfAway : Binary64 → Binary64
  | .finite m r => whole m ((2 * Rank.units r + Rank.unitsPerOne) / (2 * Rank.unitsPerOne))
  | x => x

/-- Whether `x` is a whole number that two does not divide. -/
def isOdd : Binary64 → Bool
  | .finite _ r =>
    Rank.units r % Rank.unitsPerOne == 0 && Rank.units r / Rank.unitsPerOne % 2 == 1
  | _ => false

/-- The integer part, held within `lo ≤ · ≤ hi`; "not a number" counts as zero. -/
def toIntWithin (lo hi : Int) : Binary64 → Int
  | .nan => 0
  | .infinite m => if m then lo else hi
  | .finite m r =>
    let n : Int := Rank.units r / Rank.unitsPerOne
    Max.max lo (Min.min hi (if m then -n else n))

/-- The integer part within the signed 64-bit range. -/
def toInt64 : Binary64 → Int := toIntWithin (-9223372036854775808) 9223372036854775807

/-- The integer part within the signed 32-bit range. -/
def toInt32 : Binary64 → Int := toIntWithin (-2147483648) 2147483647

/-! ### Powers -/

/-- Repeated squaring: `acc` times `base` to the `n`, one rounding per product. -/
def squaring : Nat → Binary64 → Nat → Binary64 → Binary64
  | 0, _, _, acc => acc
  | fuel + 1, base, n, acc =>
    let acc := if n % 2 = 1 then acc * base else acc
    if n / 2 = 0 then acc else squaring fuel (base * base) (n / 2) acc

/-- `base` to the `n` by repeated squaring. -/
def power (base : Binary64) (n : Nat) : Binary64 := squaring (n + 1) base n 1

/-- The double nearest to `10ᵏ`; far outside the range it is zero or infinite. -/
def tenTo (k : Int) : Binary64 :=
  if k < -400 then zero
  else if 400 < k then .infinite false
  else if k < 0 then ofRatio false 1 (Nat.pow 10 k.natAbs)
  else ofRatio false (Nat.pow 10 k.natAbs) 1

end RiskBoard.Binary64
