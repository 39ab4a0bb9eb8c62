import RiskBoard.Binary64.Decade
import RiskBoard.Decimal.Fixed

/-!
# Shortest digits

The fewest decimal digits that read back to the same double, and of those the nearest to it.

A decimal reads back to a rank exactly when it lies between the two midpoints to the neighbouring
ranks, ends included when the rank is even. For one digit, two, and so on, the two neighbours of
the magnitude on that decimal grid are tried; the first grid with a hit wins. Which of two equally
near hits is taken, where positional notation ends and what marks an exponent are decisions of
the format that is written, held in a `Style`.
-/

namespace RiskBoard.Decimal

/-- The positive decimal `coefficient · 10^exponent`. -/
structure Scientific where
  coefficient : Nat
  exponent : Int
deriving DecidableEq, Repr

/-- Which of two equally near decimals is taken. -/
inductive Tie where
  | up
  | even
deriving DecidableEq, Repr

namespace Shortest

/-- The decimal on the grid `10^exponent` that reads back to a rank, the nearer of two. All
quantities are scaled to integers: `lower` and `upper` are twice the distances of the midpoints. -/
def onGrid? (tie : Tie) (rank : Nat) (exponent : Int) : Option Nat :=
  let up := Nat.pow 10 (-exponent).toNat
  let unit := Rank.unitsPerOne * Nat.pow 10 exponent.toNat
  let middle := Rank.units rank
  let lower := (Rank.units (rank - 1) + middle) * up
  let upper := (middle + Rank.units (rank + 1)) * up
  let inside (c : Nat) : Bool :=
    let twice := 2 * c * unit
    if rank % 2 = 0 then lower ≤ twice && twice ≤ upper else lower < twice && twice < upper
  let c := middle * up / unit
  let rest := middle * up % unit
  match inside c, inside (c + 1) with
  | false, false => none
  | true, false => some c
  | false, true => some (c + 1)
  | true, true =>
    if 2 * rest < unit then some c
    else if unit < 2 * rest then some (c + 1)
    else match tie with
      | .up => some (c + 1)
      | .even => some (c + c % 2)

/-- Tries grids of growing fineness, `fuel` of them. -/
def search (tie : Tie) (rank : Nat) : Nat → Int → Option Scientific
  | 0, _ => none
  | fuel + 1, exponent =>
    match onGrid? tie rank exponent with
    | some c => some ⟨c, exponent⟩
    | none => search tie rank fuel (exponent - 1)

/-- The magnitude of a rank written out in full. -/
def exact (rank : Nat) : Scientific := ⟨Rank.units rank * Nat.pow 5 1074, -1074⟩

/-- Moves the zeros at the end of a coefficient into the exponent. -/
def stripZeros : Nat → Scientific → Scientific
  | 0, x => x
  | fuel + 1, x =>
    if x.coefficient % 10 = 0 then stripZeros fuel ⟨x.coefficient / 10, x.exponent + 1⟩ else x

end Shortest

/-- The shortest decimal that reads back to a rank other than zero. Seventeen digits always
suffice. -/
def shortest (tie : Tie) (rank : Nat) : Scientific :=
  let found := (Shortest.search tie rank 17 (Rank.decade rank)).getD (Shortest.exact rank)
  Shortest.stripZeros 17 found

/-- How a format writes a double from its shortest digits. -/
structure Style where
  /-- Which of two equally near shortest decimals is taken. -/
  tie : Tie
  /-- Whether a number whose first digit stands for `10^exponent` is written without an
  exponent. -/
  positional : Int → Bool
  /-- What follows a number that has no fraction digits. -/
  wholeMark : List Char

/-- A positional number from its digits and the place of the last. -/
def positionalText (wholeMark digits : List Char) (exponent : Int) : List Char :=
  let point := digits.length + exponent
  if 0 ≤ exponent then digits ++ List.replicate exponent.toNat '0' ++ wholeMark
  else if point ≤ 0 then '0' :: '.' :: List.replicate (-point).toNat '0' ++ digits
  else digits.take point.toNat ++ '.' :: digits.drop point.toNat

/-- A number with one digit before the point and a signed exponent. -/
def exponentText (digits : List Char) (exponent : Int) : List Char :=
  let leading := digits.length + exponent - 1
  let mantissa := match digits with
    | d :: (e :: rest) => d :: '.' :: e :: rest
    | ds => ds
  mantissa ++ 'e' :: (if leading < 0 then '-' else '+') :: Nat.toDigits 10 leading.natAbs

/-- A double in a style's notation. -/
def Style.write (style : Style) : Binary64 → List Char
  | .nan => ['N', 'a', 'N']
  | .infinite m => signed m ['i', 'n', 'f']
  | .finite m r =>
    signed m <|
      if r.val = 0 then '0' :: style.wholeMark
      else
        let x := shortest style.tie r
        let digits := Nat.toDigits 10 x.coefficient
        if style.positional (digits.length + x.exponent - 1) then
          positionalText style.wholeMark digits x.exponent
        else exponentText digits x.exponent

/-- Plain text: never an exponent, no fraction digits on a whole number, a tie upwards. -/
def plainStyle : Style := ⟨.up, fun _ => true, []⟩

/-- A double in plain text. -/
def plain (x : Binary64) : String := String.ofList (plainStyle.write x)

end RiskBoard.Decimal
