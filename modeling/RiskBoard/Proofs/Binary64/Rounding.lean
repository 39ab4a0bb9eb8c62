import Mathlib.Algebra.Order.Field.Rat
import Mathlib.Algebra.Order.Ring.Abs
import Mathlib.Data.Nat.Log
import Mathlib.Tactic.FieldSimp
import Mathlib.Tactic.Linarith
import Mathlib.Tactic.Positivity
import Mathlib.Tactic.Ring
import RiskBoard.Binary64.Basic

/-!
# Magnitudes and their ranks

What `Rank.units` and `Rank.nearest` do, in the terms in which arithmetic is understood. A rank
splits into a binade and a significand, so the magnitudes of a binade are evenly spaced
(`Rank.units_split`, `Rank.units_succ`) and `Rank.units` is strictly increasing.

Rounding a quotient moves it by at most half the spacing of its binade
(`Rank.abs_units_nearest_sub_le`), hence by at most half a unit, or by at most a `2⁻⁵³`th of it once
it is not below `2⁵²` units (`Rank.abs_units_nearest_sub_le_mul`). What is a magnitude already stays
where it is (`Rank.nearest_units_mul`).
-/

namespace RiskBoard.Rank

variable {r s h n d : Nat}

theorem binadeSize_eq : binadeSize = 2 ^ 52 := rfl

/-- The definitions use `Nat.pow` by name, since it is what evaluates fast; here it is the usual
power. -/
theorem natPow_eq (a b : Nat) : Nat.pow a b = a ^ b := rfl

theorem unitsPerOne_eq : unitsPerOne = 2 ^ 1074 := by
  simp only [unitsPerOne, natPow_eq]

theorem unitsPerOne_pos : 0 < unitsPerOne := by
  rw [unitsPerOne_eq]
  positivity

/-! ### Binades -/

/-- The magnitudes of a binade are evenly spaced, up to and including the first one of the next. -/
theorem units_split (hs : s = 0 ∨ binadeSize ≤ h) (hh : h ≤ 2 * binadeSize) :
    units (s * binadeSize + h) = h * 2 ^ s := by
  rcases hh.lt_or_eq with hlt | rfl
  · -- the significand stays below that of the next binade
    have hb : binade (s * binadeSize + h) = s := by
      unfold binade
      unfold binadeSize at *
      omega
    have hsig : significand (s * binadeSize + h) = h := by
      rw [significand, hb]
      omega
    rw [units, hb, hsig, natPow_eq]
  · have hb : binade (s * binadeSize + 2 * binadeSize) = s + 1 := by
      unfold binade binadeSize
      omega
    have hsig : significand (s * binadeSize + 2 * binadeSize) = binadeSize := by
      rw [significand, hb]
      unfold binadeSize
      omega
    rw [units, hb, hsig, natPow_eq, pow_succ]
    ring

/-- A rank is its binade and its significand. -/
theorem binade_add_significand (r : Nat) : binade r * binadeSize + significand r = r := by
  unfold significand binade binadeSize
  omega

theorem significand_lt (r : Nat) : significand r < 2 * binadeSize := by
  unfold significand binade binadeSize
  omega

/-- Only in the first binade are there significands below the size of a binade. -/
theorem binade_eq_zero_or (r : Nat) : binade r = 0 ∨ binadeSize ≤ significand r := by
  unfold significand binade binadeSize
  omega

/-- From one rank to the next it is the spacing of the binade. -/
theorem units_succ (r : Nat) : units (r + 1) = units r + 2 ^ binade r := by
  have hr := binade_add_significand r
  have hsplit := units_split (s := binade r) (h := significand r + 1)
    ((binade_eq_zero_or r).imp id fun h => by omega) (significand_lt r)
  rw [← add_assoc, hr] at hsplit
  rw [hsplit, units, add_mul, one_mul]
  rfl

/-- Higher ranks have greater magnitudes. -/
theorem units_strictMono : StrictMono units :=
  strictMono_nat_of_lt_succ fun r => by
    rw [units_succ]
    exact Nat.lt_add_of_pos_right (by positivity)

theorem units_lt_units {r s : Nat} : units r < units s ↔ r < s := units_strictMono.lt_iff_lt

theorem units_zero : units 0 = 0 := rfl

/-- Only the first rank has no magnitude. -/
theorem units_eq_zero {r : Nat} : units r = 0 ↔ r = 0 :=
  units_strictMono.injective.eq_iff' units_zero

/-- The magnitude beyond the last. -/
theorem units_limit : units limit = 2 ^ 2098 := by
  have h := units_split (s := 2046) (h := binadeSize) (.inr le_rfl) (by unfold binadeSize; omega)
  have hlimit : limit = 2046 * binadeSize + binadeSize := rfl
  rw [hlimit, h, binadeSize_eq, ← pow_add]

/-! ### Rounding to a whole number -/

/-- Rounding gives the quotient rounded down or the next number. -/
theorem halfEven_cases (n d : Nat) : halfEven n d = n / d ∨ halfEven n d = n / d + 1 := by
  unfold halfEven
  simp only
  split
  · exact .inl rfl
  · split
    · exact .inr rfl
    · have := Nat.mod_two_eq_zero_or_one (n / d)
      omega

/-- The remainder of rounding is at most half of the divisor. -/
theorem halfEven_remainder (hd : 0 < d) :
    2 * (halfEven n d * d) ≤ 2 * n + d ∧ 2 * n ≤ 2 * (halfEven n d * d) + d := by
  have hsplit := Nat.div_add_mod n d
  have hr := Nat.mod_lt n hd
  have hup : (n / d + 1) * d = d * (n / d) + d := by ring
  have hdown : n / d * d = d * (n / d) := Nat.mul_comm _ _
  unfold halfEven
  simp only
  split
  · omega
  · split
    · omega
    · rcases Nat.mod_two_eq_zero_or_one (n / d) with heven | hodd
      · rw [heven, add_zero]
        omega
      · rw [hodd]
        omega

/-- Rounding to a whole number moves a quotient by at most a half. -/
theorem abs_halfEven_sub_le (n : Nat) (hd : 0 < d) : |(halfEven n d : ℚ) - n / d| ≤ 1 / 2 := by
  have hd' : (0 : ℚ) < d := by exact_mod_cast hd
  obtain ⟨hlow, hhigh⟩ := halfEven_remainder (n := n) hd
  have hlow' : 2 * ((halfEven n d : ℚ) * d) ≤ 2 * n + d := by exact_mod_cast hlow
  have hhigh' : 2 * (n : ℚ) ≤ 2 * (halfEven n d * d) + d := by exact_mod_cast hhigh
  have hquotient : (n : ℚ) / d * d = n := by field_simp
  rw [abs_le]
  constructor
  · refine le_of_mul_le_mul_right ?_ hd'
    rw [sub_mul, hquotient]
    linarith
  · refine le_of_mul_le_mul_right ?_ hd'
    rw [sub_mul, hquotient]
    linarith

/-! ### Rounding to a magnitude -/

/-- The quotient lies in the binade in which it is rounded, whose significands are whole numbers
between `2⁵²` and `2⁵³`; only the first binade has lesser ones. -/
theorem div_binadeOf (n d : Nat) :
    (binadeOf n d = 0 ∨ binadeSize ≤ n / (d * 2 ^ binadeOf n d)) ∧
      n / (d * 2 ^ binadeOf n d) < 2 * binadeSize := by
  rw [← Nat.div_div_eq_div_mul]
  unfold binadeOf
  simp only
  split
  case isTrue h => exact ⟨.inl rfl, by simpa using h⟩
  case isFalse h =>
    rw [binadeSize_eq] at h ⊢
    have hq : n / d ≠ 0 := by omega
    have hlog : 53 ≤ (n / d).log2 := (Nat.le_log2 hq).mpr (by omega)
    have hlow := Nat.log2_self_le hq
    have hhigh := Nat.lt_log2_self (n := n / d)
    generalize n / d = q at *
    have hsplit : 2 ^ 52 * 2 ^ (q.log2 - 52) = 2 ^ q.log2 := by
      rw [← pow_add]
      congr 1
      omega
    constructor
    · right
      rw [Nat.le_div_iff_mul_le (by positivity), hsplit]
      exact hlow
    · rw [Nat.div_lt_iff_lt_mul (by positivity), mul_assoc, hsplit, mul_comm, ← pow_succ]
      exact hhigh

/-- What a quotient is rounded to: it is measured in the spacing of its binade, and that is
rounded. -/
theorem units_nearest (n d : Nat) :
    units (nearest n d) = halfEven n (d * 2 ^ binadeOf n d) * 2 ^ binadeOf n d := by
  obtain ⟨hlow, hhigh⟩ := div_binadeOf n d
  have hcases := halfEven_cases n (d * 2 ^ binadeOf n d)
  have hnearest : nearest n d =
      binadeOf n d * binadeSize + halfEven n (d * 2 ^ binadeOf n d) := rfl
  rw [hnearest]
  exact units_split (hlow.imp id fun h => by omega) (by omega)

/-- Rounding moves a quotient by at most half the spacing of its binade. -/
theorem abs_units_nearest_sub_le (n : Nat) (hd : 0 < d) :
    |(units (nearest n d) : ℚ) - n / d| ≤ 2 ^ binadeOf n d / 2 := by
  have hround := abs_halfEven_sub_le n (d := d * 2 ^ binadeOf n d) (by positivity)
  have hpow : (0 : ℚ) < 2 ^ binadeOf n d := by positivity
  have hd' : (d : ℚ) ≠ 0 := by exact_mod_cast hd.ne'
  rw [units_nearest n d]
  push_cast at hround ⊢
  calc |(halfEven n (d * 2 ^ binadeOf n d) : ℚ) * 2 ^ binadeOf n d - n / d|
      = |((halfEven n (d * 2 ^ binadeOf n d) : ℚ) - n / (d * 2 ^ binadeOf n d)) *
          2 ^ binadeOf n d| := by
        congr 1
        field_simp
    _ = |(halfEven n (d * 2 ^ binadeOf n d) : ℚ) - n / (d * 2 ^ binadeOf n d)| *
          2 ^ binadeOf n d := by rw [abs_mul, abs_of_pos hpow]
    _ ≤ 1 / 2 * 2 ^ binadeOf n d := by gcongr
    _ = 2 ^ binadeOf n d / 2 := by ring

/-- The spacing of a binade is at most a `2⁻⁵²`th of what is rounded in it, but for the first
binade below `2⁵²`. -/
theorem two_pow_binadeOf_le (hd : 0 < d) (h : binadeOf n d ≠ 0 ∨ (2 ^ 52 : ℚ) ≤ n / d) :
    (2 : ℚ) ^ binadeOf n d ≤ n / d / 2 ^ 52 := by
  have hd' : (0 : ℚ) < d := by exact_mod_cast hd
  rcases eq_or_ne (binadeOf n d) 0 with hzero | hne
  · have hlarge := h.resolve_left (absurd hzero)
    rw [hzero, pow_zero, le_div_iff₀ (by positivity), one_mul]
    exact hlarge
  · have hlow := (div_binadeOf n d).1.resolve_left hne
    rw [Nat.le_div_iff_mul_le (by positivity), binadeSize_eq] at hlow
    have hcast : (2 ^ 52 : ℚ) * (d * 2 ^ binadeOf n d) ≤ n := by exact_mod_cast hlow
    rw [div_div, le_div_iff₀ (by positivity)]
    linarith

/-- Rounding moves a quotient that is not below `2⁵²` units by at most a `2⁻⁵³`th of it. -/
theorem abs_units_nearest_sub_le_mul (hd : 0 < d) (h : (2 ^ 52 : ℚ) ≤ n / d) :
    |(units (nearest n d) : ℚ) - n / d| ≤ n / d / 2 ^ 53 := by
  have hround := abs_units_nearest_sub_le n hd
  have hspacing := two_pow_binadeOf_le hd (.inr h)
  calc |(units (nearest n d) : ℚ) - n / d|
      ≤ 2 ^ binadeOf n d / 2 := hround
    _ ≤ n / d / 2 ^ 52 / 2 := by gcongr
    _ = n / d / 2 ^ 53 := by ring

/-- Rounding moves a quotient by at most half a unit and a `2⁻⁵³`th of it. -/
theorem abs_units_nearest_sub_le_add (n : Nat) (hd : 0 < d) :
    |(units (nearest n d) : ℚ) - n / d| ≤ n / d / 2 ^ 53 + 1 / 2 := by
  have hnonneg : (0 : ℚ) ≤ n / d := by positivity
  rcases le_or_gt (2 ^ 52 : ℚ) (n / d) with hlarge | hsmall
  · linarith [abs_units_nearest_sub_le_mul hd hlarge]
  · have hzero : binadeOf n d = 0 := by
      by_contra hne
      have hspacing := two_pow_binadeOf_le hd (.inl hne)
      have hone : (1 : ℚ) ≤ 2 ^ binadeOf n d := one_le_pow₀ (by norm_num)
      rw [le_div_iff₀ (by positivity)] at hspacing
      linarith
    have hround := abs_units_nearest_sub_le n hd
    rw [hzero, pow_zero] at hround
    have : (0 : ℚ) ≤ n / d / 2 ^ 53 := by positivity
    linarith

/-- A quotient that stays a factor of two below the magnitude beyond the last is rounded to a
magnitude. -/
theorem nearest_lt_limit (hd : 0 < d) (h : (n : ℚ) / d ≤ 2 ^ 2097) : nearest n d < limit := by
  rw [← units_lt_units, units_limit]
  have hround := (abs_le.mp (abs_units_nearest_sub_le_add n hd)).2
  have hbound : (units (nearest n d) : ℚ) < 2 ^ 2098 := by
    have hone : (1 : ℚ) ≤ 2 ^ 2097 := one_le_pow₀ (by norm_num)
    rw [pow_succ]
    generalize (2 : ℚ) ^ 2097 = bound at *
    linarith
  exact_mod_cast hbound

/-! ### Quotients that are magnitudes -/

/-- A quotient without remainder is not rounded. -/
theorem halfEven_mul_of_dvd (hd : 0 < d) (h : d ∣ n) : halfEven n d * d = n := by
  obtain ⟨q, rfl⟩ := h
  have hdiv : d * q / d = q := Nat.mul_div_cancel_left q hd
  unfold halfEven
  simp only [hdiv, Nat.mul_mod_right]
  rw [if_pos (by omega), Nat.mul_comm]

/-- A quotient that is a significand of its binade is not moved. -/
theorem units_nearest_mul_of_dvd (hd : 0 < d) (h : d * 2 ^ binadeOf n d ∣ n) :
    units (nearest n d) * d = n := by
  have hexact := halfEven_mul_of_dvd (by positivity) h
  rw [units_nearest n d]
  calc halfEven n (d * 2 ^ binadeOf n d) * 2 ^ binadeOf n d * d
      = halfEven n (d * 2 ^ binadeOf n d) * (d * 2 ^ binadeOf n d) := by ring
    _ = n := hexact

/-- A multiple of a magnitude by a power of two is rounded in a binade that is no further up. -/
theorem binadeOf_units_mul_le (r k : Nat) (hd : 0 < d) :
    binadeOf (units r * 2 ^ k * d) d ≤ binade r + k := by
  rcases eq_or_ne (binadeOf (units r * 2 ^ k * d) d) 0 with hzero | hne
  · omega
  · have hlow := (div_binadeOf (units r * 2 ^ k * d) d).1.resolve_left hne
    generalize binadeOf (units r * 2 ^ k * d) d = s at *
    rw [Nat.le_div_iff_mul_le (by positivity), mul_left_comm, Nat.mul_comm _ d] at hlow
    have hunder : binadeSize * 2 ^ s ≤ units r * 2 ^ k := Nat.le_of_mul_le_mul_left hlow hd
    have hlt : binadeSize * 2 ^ s < binadeSize * 2 ^ (binade r + k + 1) := by
      calc binadeSize * 2 ^ s
          ≤ significand r * 2 ^ binade r * 2 ^ k := hunder
        _ < 2 * binadeSize * 2 ^ binade r * 2 ^ k := by
          have := significand_lt r
          gcongr
        _ = binadeSize * 2 ^ (binade r + k + 1) := by ring
    have := (Nat.pow_lt_pow_iff_right (by decide)).mp (Nat.lt_of_mul_lt_mul_left hlt)
    omega

/-- Multiplying a magnitude by a power of two is exact. -/
theorem units_nearest_units_mul_two_pow (r k : Nat) (hd : 0 < d) :
    units (nearest (units r * 2 ^ k * d) d) = units r * 2 ^ k := by
  have hbinade := binadeOf_units_mul_le r k hd
  have hdvd : d * 2 ^ binadeOf (units r * 2 ^ k * d) d ∣ units r * 2 ^ k * d := by
    generalize binadeOf (units r * 2 ^ k * d) d = s at *
    have hunits : 2 ^ s ∣ units r * 2 ^ k := by
      rw [units, natPow_eq, mul_assoc, ← pow_add]
      exact (pow_dvd_pow 2 hbinade).mul_left _
    rw [Nat.mul_comm _ d]
    exact Nat.mul_dvd_mul_left d hunits
  exact Nat.eq_of_mul_eq_mul_right hd (units_nearest_mul_of_dvd hd hdvd)

/-- A magnitude stays where it is. -/
theorem nearest_units_mul (r : Nat) (hd : 0 < d) : nearest (units r * d) d = r := by
  have hunits := units_nearest_units_mul_two_pow r 0 hd
  rw [pow_zero, mul_one] at hunits
  exact units_strictMono.injective hunits

/-- Few units are a magnitude. -/
theorem units_nearest_one (h : n < 2 * binadeSize) : units (nearest n 1) = n := by
  have hzero : binadeOf n 1 = 0 := by
    unfold binadeOf
    simp only [Nat.div_one]
    rw [if_pos h]
  have hexact := units_nearest_mul_of_dvd (n := n) one_pos (by rw [hzero]; exact one_dvd n)
  rwa [mul_one] at hexact

/-- A whole number of at most 53 bits is a magnitude. -/
theorem units_nearest_whole {k : Nat} (hk : k ≤ 2 ^ 53) :
    units (nearest (k * unitsPerOne) 1) = k * unitsPerOne := by
  have hdvd : 2 ^ binadeOf (k * unitsPerOne) 1 ∣ k * unitsPerOne := by
    rcases eq_or_ne (binadeOf (k * unitsPerOne) 1) 0 with hzero | hne
    · rw [hzero]
      exact one_dvd _
    · have hlow := (div_binadeOf (k * unitsPerOne) 1).1.resolve_left hne
      rw [Nat.le_div_iff_mul_le (by positivity), binadeSize_eq, one_mul] at hlow
      generalize binadeOf (k * unitsPerOne) 1 = s at *
      rw [unitsPerOne_eq, ← pow_add] at *
      rcases hk.lt_or_eq with hlt | rfl
      · have hunder : 2 ^ (52 + s) < 2 ^ (53 + 1074) :=
          calc 2 ^ (52 + s)
              ≤ k * 2 ^ 1074 := hlow
            _ < 2 ^ 53 * 2 ^ 1074 := by gcongr
            _ = 2 ^ (53 + 1074) := (pow_add ..).symm
        have := (Nat.pow_lt_pow_iff_right (by decide)).mp hunder
        exact (pow_dvd_pow 2 (by omega : s ≤ 1074)).mul_left k
      · rw [← pow_add] at hlow ⊢
        have := (Nat.pow_le_pow_iff_right (by decide)).mp hlow
        exact pow_dvd_pow 2 (by omega)
  have hexact := units_nearest_mul_of_dvd (n := k * unitsPerOne) one_pos (by rwa [one_mul])
  rwa [mul_one] at hexact

end RiskBoard.Rank
