import RiskBoard.Binary64.Arith

/-!
# Decimal literals

Reading a decimal literal as the nearest double. A literal is an optional sign and either digits
with an optional point and an optional exponent, or the name of an infinity or of "not a number"
in any case of letters. Exponents far beyond the range are decided without computing the power.
-/

namespace RiskBoard.Decimal

/-- The double nearest to `±digits · 10^exponent`. Fewer than 400 places of either sign separate
the range of doubles from zero and from infinity. -/
def nearest (negative : Bool) (digits : List Char) (exponent : Int) : Binary64 :=
  let n := Nat.ofDigitChars 10 digits 0
  let size := digits.length + exponent
  if n = 0 ∨ size < -400 then Binary64.round negative 0 1
  else if 400 < exponent then .infinite negative
  else if 0 ≤ exponent then Binary64.ofRatio negative (n * Nat.pow 10 exponent.toNat) 1
  else Binary64.ofRatio negative n (Nat.pow 10 exponent.natAbs)

/-- A sign and what follows it. -/
def takeSign : List Char → Bool × List Char
  | '-' :: rest => (true, rest)
  | '+' :: rest => (false, rest)
  | rest => (false, rest)

/-- The exponent part of a literal, which has to reach its end. -/
def exponent? : List Char → Option Int
  | [] => some 0
  | c :: rest =>
    if c = 'e' ∨ c = 'E' then
      let (negative, digits) := takeSign rest
      if digits.isEmpty || !digits.all Char.isDigit then none
      else
        let n : Int := Nat.ofDigitChars 10 digits 0
        some (if negative then -n else n)
    else none

/-- The fraction digits after a point, and what follows them. -/
def takeFraction : List Char → List Char × List Char
  | '.' :: rest => (rest.takeWhile Char.isDigit, rest.dropWhile Char.isDigit)
  | rest => ([], rest)

/-- The double nearest to a literal. -/
def read? (text : String) : Option Binary64 :=
  let (negative, body) := takeSign text.toList
  let name := String.ofList (body.map Char.toLower)
  if name = "nan" then some .nan
  else if name = "inf" ∨ name = "infinity" then some (.infinite negative)
  else
    let whole := body.takeWhile Char.isDigit
    let (fraction, rest) := takeFraction (body.dropWhile Char.isDigit)
    if whole.isEmpty && fraction.isEmpty then none
    else (exponent? rest).map fun e => nearest negative (whole ++ fraction) (e - fraction.length)

end RiskBoard.Decimal
