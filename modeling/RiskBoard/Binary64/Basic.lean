/-!
# Binary64 numbers

A double is "not a number", an infinity, or a sign together with the *rank* of its magnitude: the
place of that magnitude in the increasing list of all finite magnitudes, zero first. Ranks make
equality structural, turn the order of magnitudes into the order of `Nat`, and make "the next
double up" the next rank.

Every finite magnitude is a whole multiple of the smallest positive one, `2⁻¹⁰⁷⁴`. `Rank.units`
reads a rank as that multiple, and `Rank.nearest` rounds a quotient of naturals, also counted in
those units, to the rank of the nearest magnitude, an exact tie going to the even rank. All
arithmetic elsewhere is "compute the exact result in units, then round once".
-/

namespace RiskBoard

namespace Rank

/-- The number of finite magnitudes. The rank with this number would be `2¹⁰²⁴`. -/
abbrev limit : Nat := 9218868437227405312

/-- The rank of `1`. -/
abbrev one : Nat := 4607182418800017408

/-- How many units of `2⁻¹⁰⁷⁴` make up the number one. -/
abbrev unitsPerOne : Nat := Nat.pow 2 1074

/-- How many ranks a binade has: `2⁵²`. -/
abbrev binadeSize : Nat := 4503599627370496

/-- The binade of a rank: the power of two by which its units are spaced. -/
def binade (rank : Nat) : Nat := rank / binadeSize - 1

/-- The whole number that the binade's power of two multiplies. -/
def significand (rank : Nat) : Nat := rank - binade rank * binadeSize

/-- The magnitude of a rank in units of `2⁻¹⁰⁷⁴`. -/
def units (rank : Nat) : Nat := significand rank * Nat.pow 2 (binade rank)

/-- The whole number nearest to `n / d`, an exact half going to the even neighbour. -/
def halfEven (n d : Nat) : Nat :=
  let q := n / d
  let r := n % d
  if 2 * r < d then q else if d < 2 * r then q + 1 else q + q % 2

/-- The binade in which a magnitude of `n / d` units is rounded. -/
def binadeOf (n d : Nat) : Nat :=
  let q := n / d
  if q < 2 * binadeSize then 0 else q.log2 - 52

/-- The rank nearest to a magnitude of `n / d` units, an exact tie going to the even rank. A
rounding that carries into the next binade lands on that binade's first rank by itself. -/
def nearest (n d : Nat) : Nat :=
  let s := binadeOf n d
  s * binadeSize + halfEven n (d * Nat.pow 2 s)

end Rank

/-- A double. There is one "not a number", since no answer can tell two apart. -/
inductive Binary64 where
  | nan
  | infinite (negative : Bool)
  | finite (negative : Bool) (rank : Fin Rank.limit)
deriving DecidableEq, Inhabited

namespace Binary64

/-- Positive zero. -/
def zero : Binary64 := .finite false ⟨0, by decide⟩

/-- The number one. -/
def one : Binary64 := .finite false ⟨Rank.one, by decide⟩

/-- The double with a given sign nearest to a magnitude of `n / d` units; infinite when the
nearest rank is beyond the last. -/
def round (negative : Bool) (n d : Nat) : Binary64 :=
  let rank := Rank.nearest n d
  if h : rank < Rank.limit then .finite negative ⟨rank, h⟩ else .infinite negative

/-- The double nearest to `±n / d`. -/
def ofRatio (negative : Bool) (n d : Nat) : Binary64 :=
  round negative (n * Rank.unitsPerOne) d

/-- The double nearest to a natural number. -/
def ofNat (n : Nat) : Binary64 := ofRatio false n 1

/-- The double nearest to an integer; zero is positive. -/
def ofInt (i : Int) : Binary64 := ofRatio (decide (i < 0)) i.natAbs 1

instance (n : Nat) : OfNat Binary64 n := ⟨ofNat n⟩

/-- A finite double as a signed count of units; zero of either sign is `0`. -/
def signedUnits (negative : Bool) (rank : Nat) : Int :=
  if negative then -(Rank.units rank : Int) else Rank.units rank

/-- The exact value of a finite double. -/
def toRat? : Binary64 → Option Rat
  | .finite negative rank => some (signedUnits negative rank / Rank.unitsPerOne)
  | _ => none

def isNaN : Binary64 → Bool
  | .nan => true
  | _ => false

def isFinite : Binary64 → Bool
  | .finite .. => true
  | _ => false

/-! ### Order -/

/-- The numeric order: `none` when either side is not a number, and the two zeros are equal. -/
def compare? : Binary64 → Binary64 → Option Ordering
  | .nan, _ | _, .nan => none
  | .infinite m, .infinite n => some (if m = n then .eq else if m then .lt else .gt)
  | .infinite m, .finite .. => some (if m then .lt else .gt)
  | .finite .., .infinite n => some (if n then .gt else .lt)
  | .finite m r, .finite n s =>
    let signed (negative : Bool) (rank : Nat) : Int := if negative then -(rank : Int) else rank
    some (compare (signed m r) (signed n s))

/-- `x < y` as numbers; false when either is not a number. -/
def lt (x y : Binary64) : Bool := compare? x y == some .lt

/-- `x ≤ y` as numbers; false when either is not a number. -/
def le (x y : Binary64) : Bool := compare? x y == some .lt || compare? x y == some .eq

/-- `x = y` as numbers: the zeros are equal, and "not a number" equals nothing. -/
def same (x y : Binary64) : Bool := compare? x y == some .eq

/-- The lesser of two numbers, the second when they are equal; "not a number" gives way. -/
def min (x y : Binary64) : Binary64 :=
  if y.isNaN then x else if x.lt y then x else y

/-- The greater of two numbers, the second when they are equal; "not a number" gives way. -/
def max (x y : Binary64) : Binary64 :=
  if y.isNaN then x else if y.lt x then x else y

/-! ### Sign -/

def abs : Binary64 → Binary64
  | .nan => .nan
  | .infinite _ => .infinite false
  | .finite _ r => .finite false r

def neg : Binary64 → Binary64
  | .nan => .nan
  | .infinite m => .infinite !m
  | .finite m r => .finite (!m) r

instance : Neg Binary64 := ⟨neg⟩

/-- The next double away from zero; beyond the last finite magnitude it is infinite. -/
def awayFromZero : Binary64 → Binary64
  | .finite m r => if h : r.val + 1 < Rank.limit then .finite m ⟨r.val + 1, h⟩ else .infinite m
  | x => x

end Binary64

end RiskBoard
