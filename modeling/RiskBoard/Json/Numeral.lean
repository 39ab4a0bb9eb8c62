import RiskBoard.Binary64.Arith

/-!
# JSON numerals

A numeral is read into a natural number of 64 bits, a negative integer of 64 bits, or a double.
Integers that fit are kept as they are. Everything else becomes a double in two steps, each with a
rounding of its own, so the result is *not* always the nearest double: the digits that fit into 64
bits make a whole number, and that number is multiplied or divided by a power of ten.
-/

namespace RiskBoard.Json

/-- What a numeral is read into. -/
inductive Number where
  | natural (n : Nat)
  | negative (magnitude : Nat)
  | real (x : Binary64)
deriving DecidableEq

/-- The double nearest to a number. -/
def Number.toReal : Number → Binary64
  | .natural n => .ofNat n
  | .negative n => .ofRatio true n 1
  | .real x => x

/-- The parts of a numeral as written. A numeral without a point has no fraction digits. -/
structure Numeral where
  negative : Bool
  whole : List Char
  fraction : List Char
  /-- The sign and the digits of the exponent. -/
  exponent : Option (Bool × List Char)
deriving DecidableEq

namespace Numeral

/-- The greatest natural number of 64 bits. -/
def maxNatural : Nat := 18446744073709551615

/-- The greatest exponent that is read as a number. -/
def maxExponent : Nat := 2147483647

/-- Takes digits into a significand for as long as it stays within 64 bits; returns it with the
count of digits taken. -/
def takeDigits : List Char → Nat → Nat × Nat
  | [], s => (s, 0)
  | d :: rest, s =>
    let next := s * 10 + (d.toNat - '0'.toNat)
    if next ≤ maxNatural then
      let (s, taken) := takeDigits rest next
      (s, taken + 1)
    else (s, 0)

/-- Scales a magnitude by `10^e` for a negative `e` of any size, at most 308 places at a time. -/
def scaleDown (x : Binary64) (places : Nat) : Binary64 :=
  if places ≤ 308 then x / Binary64.tenTo places
  else scaleDown (x / Binary64.tenTo 308) (places - 308)
termination_by places

/-- A significand times `10^e` as a double; `none` beyond the range. Three divisions by `10³⁰⁸`
reach zero from any significand. -/
def scale? (significand : Nat) (e : Int) : Option Binary64 :=
  let x := Binary64.ofNat significand
  if significand = 0 then some .zero
  else if e < 0 then some (if e < -1000 then .zero else scaleDown x e.natAbs)
  else if 308 < e then none
  else
    let y := x * Binary64.tenTo e
    if y.isFinite then some y else none

/-- The magnitude of a numeral that is not an integer within range. -/
def magnitude? (numeral : Numeral) : Option Binary64 :=
  let (s, takenWhole) := takeDigits numeral.whole 0
  let dropped := numeral.whole.length - takenWhole
  let (s, takenFraction) := takeDigits numeral.fraction s
  let shift : Int := dropped - takenFraction
  match numeral.exponent with
  | none => scale? s shift
  | some (negative, digits) =>
    let n := Nat.ofDigitChars 10 digits 0
    if n ≤ maxExponent then scale? s (if negative then shift - n else shift + n)
    else if s = 0 ∨ negative then some .zero
    else none

/-- Whether a numeral is written as an integer. -/
def isInteger (numeral : Numeral) : Bool := numeral.fraction.isEmpty && numeral.exponent.isNone

/-- The number that a numeral stands for; `none` when it is beyond the range of doubles. A
negative zero is a double. -/
def number? (numeral : Numeral) : Option Number :=
  let n := Nat.ofDigitChars 10 numeral.whole 0
  if numeral.isInteger && !numeral.negative && n ≤ maxNatural then some (.natural n)
  else if numeral.isInteger && numeral.negative && n != 0 && n ≤ 9223372036854775808 then
    some (.negative n)
  else numeral.magnitude?.map fun x => .real (if numeral.negative then x.neg else x)

/-- A point with the digits after it, if there is one, and what follows; `none` when the point has
no digits. -/
def scanFraction : List Char → Option (List Char × List Char)
  | '.' :: rest =>
    if (rest.takeWhile Char.isDigit).isEmpty then none
    else some (rest.takeWhile Char.isDigit, rest.dropWhile Char.isDigit)
  | rest => some ([], rest)

/-- The sign of an exponent and what follows it. -/
def scanSign : List Char → Bool × List Char
  | '-' :: rest => (true, rest)
  | '+' :: rest => (false, rest)
  | rest => (false, rest)

/-- An exponent, if there is one, and what follows; `none` when its mark has no digits. -/
def scanExponent : List Char → Option (Option (Bool × List Char) × List Char)
  | [] => some (none, [])
  | c :: rest =>
    if c = 'e' ∨ c = 'E' then
      let (negative, rest) := scanSign rest
      if (rest.takeWhile Char.isDigit).isEmpty then none
      else some (some (negative, rest.takeWhile Char.isDigit), rest.dropWhile Char.isDigit)
    else some (none, c :: rest)

/-- The numeral at the front of a text, after its sign, and what follows. A leading zero is the
whole of its integer part. -/
def scanUnsigned (negative : Bool) (cs : List Char) : Option (Numeral × List Char) :=
  let whole := cs.takeWhile Char.isDigit
  let rest := cs.dropWhile Char.isDigit
  if whole.isEmpty || (whole.head? == some '0' && 1 < whole.length) then none
  else do
    let (fraction, rest) ← scanFraction rest
    let (exponent, rest) ← scanExponent rest
    pure (⟨negative, whole, fraction, exponent⟩, rest)

theorem length_scanFraction {cs digits rest} (h : scanFraction cs = some (digits, rest)) :
    rest.length ≤ cs.length := by
  have drop (l : List Char) : (l.dropWhile Char.isDigit).length ≤ l.length :=
    (List.dropWhile_sublist _).length_le
  unfold scanFraction at h
  grind

theorem length_scanExponent {cs e rest} (h : scanExponent cs = some (e, rest)) :
    rest.length ≤ cs.length := by
  have drop (l : List Char) : (l.dropWhile Char.isDigit).length ≤ l.length :=
    (List.dropWhile_sublist _).length_le
  have sign (l : List Char) : (scanSign l).2.length ≤ l.length := by
    unfold scanSign; grind
  unfold scanExponent at h
  grind

/-- A numeral has at least one digit, so less is left after it. -/
theorem length_scanUnsigned {negative cs numeral rest}
    (h : scanUnsigned negative cs = some (numeral, rest)) : rest.length < cs.length := by
  have split : (cs.takeWhile Char.isDigit).length + (cs.dropWhile Char.isDigit).length
      = cs.length := by
    rw [← List.length_append, List.takeWhile_append_dropWhile]
  simp only [scanUnsigned, Bool.or_eq_true, Bool.and_eq_true, Option.bind_eq_bind] at h
  split at h
  · simp at h
  · rename_i hne
    simp only [Option.bind_eq_some_iff, Option.pure_def, Option.some.injEq, Prod.mk.injEq,
      Prod.exists] at h
    obtain ⟨_, r₁, h₁, _, r₂, h₂, -, rfl⟩ := h
    have := length_scanFraction h₁
    have := length_scanExponent h₂
    have : 0 < (cs.takeWhile Char.isDigit).length := by
      simp only [List.isEmpty_iff, not_or] at hne
      exact List.length_pos_iff.2 hne.1
    omega

end Numeral

end RiskBoard.Json
