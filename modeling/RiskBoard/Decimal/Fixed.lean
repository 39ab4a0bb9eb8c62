import RiskBoard.Binary64.Basic

/-!
# Fixed places

A double written with a given number of fraction digits. The exact binary value is rounded to that
many places, an exact half going to the even digit, whatever its magnitude: the digits are those
of one natural number, `Fixed.scaled`, with a point set before the last `places` of them.
-/

namespace RiskBoard.Decimal

/-- The digits of `n`, with leading zeros up to a width. -/
def padded (width n : Nat) : List Char :=
  let digits := Nat.toDigits 10 n
  List.replicate (width - digits.length) '0' ++ digits

/-- `n` counts of `10^-places`, with exactly that many fraction digits and a point only before
some. -/
def withPlaces (places n : Nat) : List Char :=
  if places = 0 then Nat.toDigits 10 n
  else Nat.toDigits 10 (n / Nat.pow 10 places) ++ '.' :: padded places (n % Nat.pow 10 places)

/-- The magnitude of a rank as a count of `10^-places`, an exact half going to the even count. -/
def Fixed.scaled (places rank : Nat) : Nat :=
  Rank.halfEven (Rank.units rank * Nat.pow 10 places) Rank.unitsPerOne

/-- The sign that is written before a magnitude. -/
def signed (negative : Bool) (magnitude : List Char) : List Char :=
  if negative then '-' :: magnitude else magnitude

/-- A double with a fixed number of places; negative zero keeps its sign. -/
def fixed (places : Nat) : Binary64 → List Char
  | .nan => ['N', 'a', 'N']
  | .infinite m => signed m ['i', 'n', 'f']
  | .finite m r => signed m (withPlaces places (Fixed.scaled places r))

end RiskBoard.Decimal
