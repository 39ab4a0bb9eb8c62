import Mathlib.Algebra.Order.Floor.Ring
import RiskBoard.Proofs.Binary64.Value

/-!
# Arithmetic on doubles

A number is in range when it is zero or normal and not beyond the last double (`InRange`). The
double to which such a number is rounded has its value up to one factor (`Binary64.round_approx`),
and so has the double that an operation gives, if its exact result is in range. A sum or difference
is never too small (`add_approx`, `sub_approx`). A quotient may be; then it is off by very little
all the same (`div_error`).

`Binary64.IsNear x k q` says of a finite double `x` that it stands for `q` up to `k` factors. That
is kept by products and quotients, for which `IsModerate` leaves room on both sides of the range: a
number that is zero or within 305 powers of ten of one (`WithinTen`) is in range also after a
thousand factors.
-/

namespace RiskBoard.Binary64

variable {m : Bool} {n d : Nat} {x y : Binary64}

/-- The least normal double. -/
@[irreducible]
def least : ℚ := (2 ^ 1022)⁻¹

/-- Half of what is beyond the last double. -/
@[irreducible]
def greatest : ℚ := 2 ^ 1023

/-- The least normal double, in units. -/
theorem least_mul_perOne : least * Rank.perOne = 2 ^ 52 := by
  rw [least, Rank.perOne_eq, show 1074 = 1022 + 52 from rfl, pow_add,
    inv_mul_cancel_left₀ (pow_ne_zero _ two_ne_zero)]

/-- The bound on what is rounded, in units. -/
theorem greatest_mul_perOne : greatest * Rank.perOne = 2 ^ 2097 := by
  rw [greatest, Rank.perOne_eq, ← pow_add]

theorem greatest_pos : 0 < greatest := by
  rw [greatest]
  exact pow_pos two_pos _

/-- A number that is rounded to a double with a small relative error: it is zero or not below the
least normal double, and not much beyond the last. -/
structure InRange (q : ℚ) : Prop where
  normal : q = 0 ∨ least ≤ |q|
  bounded : |q| ≤ greatest

/-- Whether a number is in range does not depend on its sign. -/
theorem inRange_signed {q : ℚ} : InRange (signed m q) ↔ InRange q := by
  have hzero : signed m q = 0 ↔ q = 0 := by cases m <;> simp [signed]
  constructor
  · rintro ⟨hnormal, hbounded⟩
    rw [abs_signed, hzero] at hnormal
    exact ⟨hnormal, by rwa [abs_signed] at hbounded⟩
  · rintro ⟨hnormal, hbounded⟩
    exact ⟨by rwa [abs_signed, hzero], by rwa [abs_signed]⟩

/-! ### Orders of magnitude -/

/-- A positive number within some powers of ten of one. -/
structure WithinTen (e : Nat) (q : ℚ) : Prop where
  low : ((10 : ℚ) ^ e)⁻¹ ≤ q
  high : q ≤ 10 ^ e

namespace WithinTen

variable {e k : Nat} {p q : ℚ}

theorem pos (h : WithinTen e q) : 0 < q := (inv_pos.mpr (by positivity)).trans_le h.low

theorem mono (h : WithinTen e q) {f : Nat} (hef : e ≤ f) : WithinTen f q := by
  have hpower : (10 : ℚ) ^ e ≤ 10 ^ f := pow_le_pow_right₀ (by norm_num) hef
  exact ⟨(inv_anti₀ (by positivity) hpower).trans h.low, h.high.trans hpower⟩

/-- What is within some powers of ten of such a number. -/
theorem of_scaled (h : WithinTen e q) (n : Nat) (hlow : q ≤ p * 10 ^ n) (hhigh : p ≤ q * 10 ^ n) :
    WithinTen (e + n) p := by
  have hpower : (0 : ℚ) < 10 ^ n := by positivity
  constructor
  · rw [pow_add, mul_inv, ← div_eq_mul_inv, div_le_iff₀ hpower]
    exact h.low.trans hlow
  · rw [pow_add]
    exact hhigh.trans (mul_le_mul_of_nonneg_right h.high hpower.le)

/-- A number may exceed a bound by powers of ten that are then counted. -/
theorem of_le_mul (hlow : ((10 : ℚ) ^ e)⁻¹ ≤ q) (n : Nat) (hhigh : q ≤ 10 ^ e * 10 ^ n) :
    WithinTen (e + n) q := by
  refine ⟨le_trans ?_ hlow, by rwa [pow_add]⟩
  exact inv_anti₀ (by positivity) (pow_le_pow_right₀ (by norm_num) (Nat.le_add_right e n))

/-- Numbers that are not below one need only a bound from above. -/
theorem of_one_le (hlow : 1 ≤ q) (hhigh : q ≤ 10 ^ e) : WithinTen e q :=
  ⟨(inv_le_one_of_one_le₀ (one_le_pow₀ (by norm_num))).trans hlow, hhigh⟩

/-- A power of ten is as far from one as its exponent says. -/
theorem zpow (i : Int) : WithinTen i.natAbs ((10 : ℚ) ^ i) := by
  have hten : (1 : ℚ) ≤ 10 := by norm_num
  constructor
  · rw [← zpow_natCast, ← zpow_neg]
    exact zpow_le_zpow_right₀ hten (by omega)
  · rw [← zpow_natCast]
    exact zpow_le_zpow_right₀ hten (by omega)

/-- The powers of ten around such a number. -/
theorem natAbs_le (h : WithinTen e q) {i : Int} (hlow : (10 : ℚ) ^ i ≤ q * 10)
    (hhigh : q < 10 ^ (i + 1)) : i.natAbs ≤ e + 1 := by
  have hten : (1 : ℚ) < 10 := by norm_num
  have habove : i ≤ e + 1 := by
    rw [← zpow_le_zpow_iff_right₀ hten, zpow_add_one₀ (by norm_num), zpow_natCast]
    exact hlow.trans (mul_le_mul_of_nonneg_right h.high (by norm_num))
  have hbelow : -(e : Int) < i + 1 := by
    rw [← zpow_lt_zpow_iff_right₀ hten, zpow_neg, zpow_natCast]
    exact h.low.trans_lt hhigh
  omega

/-- Three decimal places fit into ten binary ones. -/
private theorem ten_pow_le_two_pow (n : Nat) : (10 : ℚ) ^ (3 * n) ≤ 2 ^ (10 * n) := by
  rw [pow_mul, pow_mul]
  exact pow_le_pow_left₀ (by norm_num) (by norm_num) n

/-- The greatest power of ten that is needed is within the bound. -/
theorem ten_pow_le_greatest : (10 : ℚ) ^ 306 ≤ greatest := by
  rw [greatest]
  exact (ten_pow_le_two_pow 102).trans (pow_le_pow_right₀ one_le_two (by norm_num))

/-- What is within 306 powers of ten of one is in range. -/
theorem inRange (h : WithinTen 306 |q|) : InRange q := by
  refine ⟨.inr (le_trans ?_ h.low), h.high.trans ten_pow_le_greatest⟩
  rw [least]
  exact inv_anti₀ (by positivity)
    ((ten_pow_le_two_pow 102).trans (pow_le_pow_right₀ one_le_two (by norm_num)))

end WithinTen

/-- A number that stays in range when it is rounded a few times: it is zero or within 305 powers of
ten of one. -/
def IsModerate (q : ℚ) : Prop := q = 0 ∨ WithinTen 305 |q|

namespace IsModerate

variable {k : Nat} {p q : ℚ}

/-- What is within 305 powers of ten of one is moderate: a rounding error leaves it in range. -/
theorem of_within {e : Nat} (h : WithinTen e q) (he : e ≤ 305) : IsModerate q :=
  .inr ((abs_of_pos h.pos).symm ▸ h.mono he)

/-- What is close to a moderate number is in range. -/
theorem inRange (hq : IsModerate q) (h : Approx k p q) (hk : k ≤ 1000) : InRange p := by
  rcases hq with rfl | hq
  · have herror := h.abs_sub_le_of_le hk
    obtain rfl : p = 0 := by simpa using herror
    exact ⟨.inl rfl, by simpa using greatest_pos.le⟩
  · obtain ⟨hlow, hhigh⟩ := h.abs.bounds hk (abs_nonneg q)
    have hpos := hq.pos
    exact (hq.of_scaled 1 (by linarith) (by linarith)).inRange

end IsModerate

/-! ### Rounding -/

/-- Rounding stays finite within the bound. -/
theorem round_eq_finite (hd : 0 < d) (h : (n : ℚ) / d / Rank.perOne ≤ greatest) :
    ∃ hr : Rank.nearest n d < Rank.limit, round m n d = finite m ⟨Rank.nearest n d, hr⟩ := by
  have hr : Rank.nearest n d < Rank.limit := by
    refine Rank.nearest_lt_limit hd ?_
    rwa [div_le_iff₀ Rank.perOne_pos, greatest_mul_perOne] at h
  exact ⟨hr, dif_pos hr⟩

/-- How far a magnitude is from the quotient that was rounded to it. -/
theorem abs_magnitude_sub (r : Nat) (q : ℚ) :
    |Rank.magnitude r - q / Rank.perOne| = |(Rank.units r : ℚ) - q| / Rank.perOne := by
  rw [Rank.magnitude, ← sub_div, abs_div, abs_of_pos Rank.perOne_pos]

/-- **One rounding.** What is rounded in range is off by one factor at most. -/
theorem round_approx (hd : 0 < d) (h : InRange ((n : ℚ) / d / Rank.perOne)) :
    (round m n d).isFinite = true ∧
      Approx 1 (round m n d).value (signed m (n / d / Rank.perOne)) := by
  have hU := Rank.perOne_pos
  have hquotient : 0 ≤ (n : ℚ) / d := by positivity
  have hnonneg : 0 ≤ (n : ℚ) / d / Rank.perOne := by positivity
  obtain ⟨hnormal, hbounded⟩ := h
  rw [abs_of_nonneg hnonneg] at hnormal hbounded
  obtain ⟨hr, hround⟩ := round_eq_finite (m := m) hd hbounded
  rw [hround]
  refine ⟨rfl, .of_abs_sub_le ?_⟩
  rw [value_finite, signed_sub_signed, abs_signed, abs_signed, abs_of_nonneg hnonneg,
    abs_magnitude_sub, div_div, mul_comm, ← div_div]
  refine div_le_div_of_nonneg_right ?_ hU.le
  rcases hnormal with hzero | hnormal
  · -- zero stays zero
    have hq : (n : ℚ) / d = 0 := (div_eq_zero_iff.mp hzero).resolve_right hU.ne'
    have hround := Rank.abs_units_nearest_sub_le_add n hd
    rw [hq, zero_div, zero_add, sub_zero, abs_of_nonneg (Nat.cast_nonneg _)] at hround
    have hunits : Rank.units (Rank.nearest n d) = 0 := by
      by_contra hne
      have : (1 : ℚ) ≤ Rank.units (Rank.nearest n d) := by
        exact_mod_cast Nat.one_le_iff_ne_zero.mpr hne
      linarith
    rw [hunits, hq]
    simp
  · have hlarge : (2 ^ 52 : ℚ) ≤ n / d := by
      rwa [le_div_iff₀ hU, least_mul_perOne] at hnormal
    exact Rank.abs_units_nearest_sub_le_mul hd hlarge

private theorem mul_div_div_cancel {U : Nat} {P : ℚ} (hU : (U : ℚ) = P) (hP : P ≠ 0) (n d : Nat) :
    ((n * U : ℕ) : ℚ) / d / P = n / d := by
  rw [Nat.cast_mul, hU]
  field_simp

/-- The double nearest to a quotient is off by one factor at most. -/
theorem ofRatio_approx (hd : 0 < d) (h : InRange ((n : ℚ) / d)) :
    (ofRatio m n d).isFinite = true ∧ Approx 1 (ofRatio m n d).value (signed m (n / d)) := by
  have hvalue := mul_div_div_cancel Rank.cast_unitsPerOne Rank.perOne_pos.ne' n d
  rw [← hvalue] at h ⊢
  exact round_approx hd h

/-- A whole number of units is rounded with one relative error however small it is. -/
theorem round_one_approx (h : (n : ℚ) / Rank.perOne ≤ greatest) :
    (round m n 1).isFinite = true ∧ Approx 1 (round m n 1).value (signed m (n / Rank.perOne)) := by
  have hbounded : (n : ℚ) / (1 : ℕ) / Rank.perOne ≤ greatest := by rwa [Nat.cast_one, div_one]
  obtain ⟨hr, hround⟩ := round_eq_finite (m := m) one_pos hbounded
  rcases lt_or_ge n (2 * Rank.binadeSize) with hsmall | hlarge
  · have hexact := Rank.units_nearest_one hsmall
    rw [hround]
    refine ⟨rfl, ?_⟩
    rw [value_finite]
    dsimp only
    rw [Rank.magnitude, hexact]
    exact (Approx.refl _).mono (Nat.zero_le 1)
  · have hn : (2 ^ 52 : ℚ) ≤ n := by
      rw [Rank.binadeSize_eq] at hlarge
      exact_mod_cast (by omega : 2 ^ 52 ≤ n)
    have hnonneg : 0 ≤ (n : ℚ) / (1 : ℕ) / Rank.perOne :=
      div_nonneg (div_nonneg n.cast_nonneg (Nat.cast_nonneg _)) Rank.perOne_pos.le
    have hnormal : least ≤ |(n : ℚ) / (1 : ℕ) / Rank.perOne| := by
      rwa [abs_of_nonneg hnonneg, Nat.cast_one, div_one, le_div_iff₀ Rank.perOne_pos,
        least_mul_perOne]
    have happrox := round_approx (m := m) one_pos ⟨.inr hnormal, by rwa [abs_of_nonneg hnonneg]⟩
    rwa [Nat.cast_one, div_one] at happrox

/-! ### Sums, products and quotients -/

/-- A value as a whole number of units. -/
theorem value_finite_eq_div (m : Bool) (r : Fin Rank.limit) :
    (finite m r).value = signedUnits m r / Rank.perOne := by
  rw [value_finite, signed, signedUnits, Rank.magnitude]
  cases m
  · simp
  · simp [neg_div]

/-- A sum is the exact sum of units, rounded; an exact zero has a sign only if both have it. -/
theorem finite_add_finite (m n : Bool) (r s : Fin Rank.limit) : finite m r + finite n s =
    if signedUnits m r + signedUnits n s = 0 then round (m && n) 0 1
    else round (decide (signedUnits m r + signedUnits n s < 0))
      (signedUnits m r + signedUnits n s).natAbs 1 := by
  change add _ _ = _
  rw [add]

/-- A sum is off by one factor at most; it is never too small, since it is a whole number of
units. -/
theorem add_approx (hx : x.isFinite = true) (hy : y.isFinite = true)
    (h : |x.value + y.value| ≤ greatest) :
    (x + y).isFinite = true ∧ Approx 1 (x + y).value (x.value + y.value) := by
  obtain ⟨m, r, rfl⟩ := exists_eq_finite hx
  obtain ⟨n, s, rfl⟩ := exists_eq_finite hy
  rw [value_finite_eq_div, value_finite_eq_div, ← add_div, ← Int.cast_add] at h ⊢
  rw [finite_add_finite]
  generalize signedUnits m r + signedUnits n s = total at *
  have hsigned :
      signed (decide (total < 0)) (total.natAbs / Rank.perOne) = total / Rank.perOne := by
    rw [← signed_div, signed_natAbs]
  split_ifs with hzero
  · have hround := round_one_approx (m := m && n) (n := 0) (by simpa using greatest_pos.le)
    simpa [hzero] using hround
  · rw [← hsigned] at h ⊢
    rw [abs_signed, abs_of_nonneg (div_nonneg (Nat.cast_nonneg _) Rank.perOne_pos.le)] at h
    exact round_one_approx h

/-- The same for a difference. -/
theorem sub_approx (hx : x.isFinite = true) (hy : y.isFinite = true)
    (h : |x.value - y.value| ≤ greatest) :
    (x - y).isFinite = true ∧ Approx 1 (x - y).value (x.value - y.value) := by
  have hsub : x - y = x + y.neg := rfl
  have hneg := value_neg y
  rw [hsub, sub_eq_add_neg, ← hneg]
  exact add_approx hx ((isFinite_neg y).trans hy) (by rwa [hneg, ← sub_eq_add_neg])

/-- A product is the exact product of units, rounded. -/
theorem finite_mul_finite (m n : Bool) (r s : Fin Rank.limit) : finite m r * finite n s =
    round (m ^^ n) (Rank.units r * Rank.units s) Rank.unitsPerOne := by
  change mul _ _ = _
  rw [mul]

/-- A product of doubles is rounded from the product of their values. -/
theorem exists_round_eq_mul (hx : x.isFinite = true) (hy : y.isFinite = true) :
    ∃ m n d, 0 < d ∧ x * y = round m n d ∧
      x.value * y.value = signed m ((n : ℚ) / d / Rank.perOne) := by
  obtain ⟨m, r, rfl⟩ := exists_eq_finite hx
  obtain ⟨n, s, rfl⟩ := exists_eq_finite hy
  refine ⟨m ^^ n, Rank.units r * Rank.units s, Rank.unitsPerOne, Rank.unitsPerOne_pos,
    finite_mul_finite m n r s, ?_⟩
  rw [value_finite, value_finite, signed_mul_signed, Nat.cast_mul, Rank.cast_unitsPerOne,
    mul_div_assoc, mul_div_assoc, Rank.magnitude, Rank.magnitude]
  ring_nf

/-- A product in range is off by one factor at most. -/
theorem mul_approx (hx : x.isFinite = true) (hy : y.isFinite = true)
    (h : InRange (x.value * y.value)) :
    (x * y).isFinite = true ∧ Approx 1 (x * y).value (x.value * y.value) := by
  obtain ⟨m, n, d, hd, hmul, hvalue⟩ := exists_round_eq_mul hx hy
  rw [hvalue] at h ⊢
  rw [hmul]
  exact round_approx hd (inRange_signed.mp h)

/-- A quotient is the exact quotient of units, rounded. -/
theorem finite_div_finite (m n : Bool) (r : Fin Rank.limit) {s : Fin Rank.limit} (hs : s.val ≠ 0) :
    finite m r / finite n s =
      round (m ^^ n) (Rank.units r * Rank.unitsPerOne) (Rank.units s) := by
  change div _ _ = _
  rw [div, if_neg hs]

/-- A quotient of doubles is rounded from the quotient of their values. -/
theorem exists_round_eq_div (hx : x.isFinite = true) (hy : y.isFinite = true) (hne : y.value ≠ 0) :
    ∃ m n d, 0 < d ∧ x / y = round m n d ∧
      x.value / y.value = signed m ((n : ℚ) / d / Rank.perOne) := by
  obtain ⟨m, r, rfl⟩ := exists_eq_finite hx
  obtain ⟨n, s, rfl⟩ := exists_eq_finite hy
  have hs : s.val ≠ 0 := fun hzero => hne (by rw [value_finite, hzero]; simp)
  have hunits : 0 < Rank.units s := Nat.pos_of_ne_zero (mt Rank.units_eq_zero.mp hs)
  refine ⟨m ^^ n, Rank.units r * Rank.unitsPerOne, Rank.units s, hunits,
    finite_div_finite m n r hs, ?_⟩
  · have hU := Rank.perOne_pos.ne'
    rw [value_finite, value_finite, signed_div_signed, Nat.cast_mul, Rank.cast_unitsPerOne,
      Rank.magnitude, Rank.magnitude]
    congr 1
    field_simp

/-- A quotient in range is off by one factor at most. -/
theorem div_approx (hx : x.isFinite = true) (hy : y.isFinite = true) (hne : y.value ≠ 0)
    (h : InRange (x.value / y.value)) :
    (x / y).isFinite = true ∧ Approx 1 (x / y).value (x.value / y.value) := by
  obtain ⟨m, n, d, hd, hdiv, hvalue⟩ := exists_round_eq_div hx hy hne
  rw [hvalue] at h ⊢
  rw [hdiv]
  exact round_approx hd (inRange_signed.mp h)

/-- However small a quotient is, rounding moves it by very little. -/
theorem div_error (hx : x.isFinite = true) (hy : y.isFinite = true) (hne : y.value ≠ 0)
    (hbound : |x.value / y.value| ≤ greatest) :
    (x / y).isFinite = true ∧
      |(x / y).value - x.value / y.value| ≤ |x.value / y.value| / 2 ^ 53 + 1 / 2 ^ 60 := by
  obtain ⟨m, n, d, hd, hdiv, hvalue⟩ := exists_round_eq_div hx hy hne
  have hU := Rank.perOne_pos
  have hnonneg : 0 ≤ (n : ℚ) / d / Rank.perOne := by positivity
  have hunit : 1 / 2 / Rank.perOne ≤ 1 / 2 ^ 60 := by
    rw [Rank.perOne_eq, div_div, ← pow_succ']
    exact one_div_le_one_div_of_le (by positivity) (pow_le_pow_right₀ one_le_two (by norm_num))
  rw [hvalue, abs_signed, abs_of_nonneg hnonneg] at hbound
  obtain ⟨hr, hround⟩ := round_eq_finite (m := m) hd hbound
  rw [hdiv, hround]
  refine ⟨rfl, ?_⟩
  rw [value_finite, hvalue, signed_sub_signed, abs_signed, abs_signed, abs_of_nonneg hnonneg,
    abs_magnitude_sub]
  calc |(Rank.units (Rank.nearest n d) : ℚ) - n / d| / Rank.perOne
      ≤ (n / d / 2 ^ 53 + 1 / 2) / Rank.perOne := by
        gcongr
        exact Rank.abs_units_nearest_sub_le_add n hd
    _ = n / d / Rank.perOne / 2 ^ 53 + 1 / 2 / Rank.perOne := by ring
    _ ≤ n / d / Rank.perOne / 2 ^ 53 + 1 / 2 ^ 60 := by gcongr

/-! ### Numbers that doubles stand for -/

/-- A double stands for a number: it is finite and has its value up to some factors. -/
structure IsNear (x : Binary64) (k : Nat) (q : ℚ) : Prop where
  finite : x.isFinite = true
  approx : Approx k x.value q

namespace IsNear

variable {a b : Nat} {p q : ℚ}

theorem of_value_eq (hx : x.isFinite = true) (hvalue : x.value = q) : x.IsNear 0 q :=
  ⟨hx, hvalue ▸ .refl _⟩

theorem value_eq (h : x.IsNear 0 q) : x.value = q := by
  obtain ⟨t, hlow, hhigh, hvalue⟩ := h.approx
  rw [pow_zero, inv_one] at hlow
  rw [pow_zero] at hhigh
  rw [hvalue, le_antisymm hhigh hlow, mul_one]

/-- The count of factors may be raised. -/
theorem mono (h : x.IsNear a q) (hab : a ≤ b) : x.IsNear b q := ⟨h.finite, h.approx.mono hab⟩

/-- A product adds the counts of its factors, and one for its own rounding. -/
theorem mul (hx : x.IsNear a p) (hy : y.IsNear b q) (hcount : a + b ≤ 1000)
    (hrange : IsModerate (p * q)) : (x * y).IsNear (a + b + 1) (p * q) := by
  have happrox := hx.approx.mul hy.approx
  obtain ⟨hfinite, hround⟩ := mul_approx hx.finite hy.finite (hrange.inRange happrox hcount)
  exact ⟨hfinite, (hround.trans happrox).mono (by omega)⟩

/-- So does a quotient. -/
theorem div (hx : x.IsNear a p) (hy : y.IsNear b q) (hq : q ≠ 0) (hcount : a + b ≤ 1000)
    (hrange : IsModerate (p / q)) : (x / y).IsNear (a + b + 1) (p / q) := by
  have hne : y.value ≠ 0 := by
    obtain ⟨t, hlow, -, hvalue⟩ := hy.approx
    have ht : 0 < t := (inv_pos.mpr (ulpFactor_pow_pos b)).trans_le hlow
    rw [hvalue]
    exact mul_ne_zero hq ht.ne'
  have happrox := hx.approx.div hy.approx
  obtain ⟨hfinite, hround⟩ := div_approx hx.finite hy.finite hne (hrange.inRange happrox hcount)
  exact ⟨hfinite, (hround.trans happrox).mono (by omega)⟩

theorem neg (hx : x.IsNear a p) : x.neg.IsNear a (-p) :=
  ⟨(isFinite_neg x).trans hx.finite, by rw [value_neg]; exact hx.approx.neg⟩

theorem abs (hx : x.IsNear a p) : x.abs.IsNear a |p| :=
  ⟨(isFinite_abs x).trans hx.finite, by rw [value_abs]; exact hx.approx.abs⟩

/-- A finite double is its own value, exactly. -/
theorem self (hx : x.isFinite = true) : x.IsNear 0 x.value := ⟨hx, .refl _⟩

/-- A difference stands for the difference of the values; what it loses of the numbers that they
stand for is not bounded by factors. -/
theorem sub_value (hx : x.isFinite = true) (hy : y.isFinite = true)
    (hbound : |x.value - y.value| ≤ greatest) : (x - y).IsNear 1 (x.value - y.value) :=
  have h := sub_approx hx hy hbound
  ⟨h.1, h.2⟩

/-- A sum of doubles is near to the sum of their values. -/
theorem add_value (hx : x.isFinite = true) (hy : y.isFinite = true)
    (hbound : |x.value + y.value| ≤ greatest) : (x + y).IsNear 1 (x.value + y.value) :=
  have h := add_approx hx hy hbound
  ⟨h.1, h.2⟩

end IsNear

end RiskBoard.Binary64
