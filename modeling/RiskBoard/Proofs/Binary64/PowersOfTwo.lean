import Mathlib.Data.Nat.Prime.Basic
import RiskBoard.Proofs.Binary64.Magnitude

/-!
# Powers of two

Multiplying a double by a power of two changes its binade and nothing else, so the product is exact
as long as it does not overflow (`Binary64.mul_two_pow`, `Binary64.isFinite_mul_two_pow_iff`). The
powers of two are doubles up to `2¹⁰²³`, and repeated squaring gives them exactly
(`Binary64.power_two`).

A magnitude has 53 bits, so what is an odd number after scaling is a small one, and no product with
an odd value has overflowed (`Binary64.isOdd_mul_two_pow_iff`).
-/

namespace RiskBoard.Binary64

variable {x y : Binary64} {k : ℕ}

/-! ### Products -/

/-- A power of two is a double without a sign. -/
private theorem exists_units_two_pow (hy : y.IsNear 0 (2 ^ k)) :
    ∃ s, y = finite false s ∧ Rank.units s = 2 ^ k * Rank.unitsPerOne := by
  have hvalue := hy.value_eq
  obtain ⟨s⟩ := isMagnitude_of_pos hy.finite (hvalue ▸ pow_pos two_pos k)
  refine ⟨s, rfl, magnitude_eq_natCast.mp ?_⟩
  rw [value_finite, signed, if_neg Bool.false_ne_true] at hvalue
  rw [hvalue, Nat.cast_pow, Nat.cast_ofNat]

/-- The product with a power of two has so many times the units, and overflows beyond the last
rank. -/
private theorem exists_mul_two_pow (m : Bool) (r : Fin Rank.limit) (hy : y.IsNear 0 (2 ^ k)) :
    ∃ t, Rank.units t = Rank.units r * 2 ^ k ∧
      finite m r * y = if h : t < Rank.limit then finite m ⟨t, h⟩ else .infinite m := by
  obtain ⟨s, rfl, hs⟩ := exists_units_two_pow hy
  refine ⟨_, Rank.units_nearest_units_mul_two_pow r.val k Rank.unitsPerOne_pos, ?_⟩
  rw [finite_mul_finite, hs, Bool.xor_false, ← mul_assoc]
  rfl

/-- A product with a power of two is exact if it does not overflow. -/
theorem mul_two_pow (hx : x.isFinite = true) (hy : y.IsNear 0 (2 ^ k))
    (h : (x * y).isFinite = true) : (x * y).IsNear 0 (x.value * 2 ^ k) := by
  obtain ⟨m, r, rfl⟩ := exists_eq_finite hx
  obtain ⟨t, hunits, hmul⟩ := exists_mul_two_pow m r hy
  refine .of_value_eq h ?_
  rw [hmul] at h ⊢
  split_ifs at h ⊢ with ht
  · have hmagnitude : Rank.magnitude t = Rank.magnitude r * 2 ^ k := by
      rw [Rank.magnitude, hunits, Nat.cast_mul, Nat.cast_pow, Nat.cast_ofNat, Rank.magnitude,
        div_mul_eq_mul_div]
    have hsigned : ∀ q p : ℚ, signed m (q * p) = signed m q * p := by
      intro q p
      cases m <;> simp [signed]
    rw [value_finite, value_finite, ← hsigned, ← hmagnitude]
  · cases h

/-- It does not overflow exactly if it is below `2¹⁰²⁴`. -/
theorem isFinite_mul_two_pow_iff (hx : x.isFinite = true) (hy : y.IsNear 0 (2 ^ k)) :
    (x * y).isFinite = true ↔ |x.value| * 2 ^ k < 2 * greatest := by
  obtain ⟨m, r, rfl⟩ := exists_eq_finite hx
  obtain ⟨t, hunits, hmul⟩ := exists_mul_two_pow m r hy
  have hlimit : t < Rank.limit ↔ Rank.magnitude r * 2 ^ k < 2 * greatest := by
    rw [← Rank.units_lt_units, Rank.units_limit, hunits, ← Nat.cast_lt (α := ℚ), Nat.cast_mul,
      Nat.cast_pow, Nat.cast_pow, Nat.cast_ofNat, Rank.magnitude, div_mul_eq_mul_div,
      div_lt_iff₀ Rank.perOne_pos, mul_assoc, greatest_mul_perOne, ← pow_succ']
  rw [abs_value_finite, ← hlimit, hmul]
  split_ifs with ht
  · exact iff_of_true rfl ht
  · exact iff_of_false Bool.false_ne_true ht

theorem IsNear.two_pow_mul {a b : ℕ} (hx : x.IsNear 0 (2 ^ a)) (hy : y.IsNear 0 (2 ^ b))
    (hab : a + b ≤ 1023) : (x * y).IsNear 0 (2 ^ (a + b)) := by
  have hvalue := hx.value_eq
  have hfinite : (x * y).isFinite = true := by
    rw [isFinite_mul_two_pow_iff hx.finite hy, hvalue, abs_of_pos (pow_pos two_pos a), ← pow_add,
      greatest, ← pow_succ']
    exact pow_lt_pow_right₀ one_lt_two (by omega)
  have hproduct := mul_two_pow hx.finite hy hfinite
  rwa [hvalue, ← pow_add] at hproduct

/-! ### Powers -/

/-- The powers of two that are doubles. -/
theorem power_two (hk : k ≤ 1023) : (power 2 k).IsNear 0 (2 ^ k) := by
  have hone : (1 : Binary64).IsNear 0 (2 ^ 0) := by
    have hnear := ofNat_isNear (n := 1) (by decide)
    rwa [Nat.cast_one] at hnear
  have htwo : (2 : Binary64).IsNear 0 (2 ^ 1) := by
    have hnear := ofNat_isNear (n := 2) (by decide)
    rwa [Nat.cast_ofNat, ← pow_one 2] at hnear
  have hbound : 0 + k * 1 ≤ 1023 := by omega
  have hpower := squaring_induction (P := fun e x => x.IsNear 0 (2 ^ e))
    (fun _ _ _ _ hx hy hle => hx.two_pow_mul hy hle) (Nat.lt_succ_self k) one_pos htwo hone hbound
  rwa [zero_add, mul_one] at hpower

/-! ### Odd numbers -/

theorem isOdd_iff (hx : x.isFinite = true) :
    x.isOdd = true ↔ ∃ w : ℕ, Odd w ∧ |x.value| = w := by
  obtain ⟨m, r, rfl⟩ := exists_eq_finite hx
  rw [abs_value_finite, isOdd, Bool.and_eq_true, beq_iff_eq, beq_iff_eq]
  constructor
  · rintro ⟨hwhole, hodd⟩
    refine ⟨_, Nat.odd_iff.mpr hodd, magnitude_eq_natCast.mpr ?_⟩
    exact (Nat.div_mul_cancel (Nat.dvd_of_mod_eq_zero hwhole)).symm
  · rintro ⟨w, hodd, hvalue⟩
    rw [magnitude_eq_natCast.mp hvalue, Nat.mul_mod_left, Nat.mul_div_cancel _ Rank.unitsPerOne_pos]
    exact ⟨rfl, Nat.odd_iff.mp hodd⟩

/-- An odd multiple of a power of two is no multiple of a higher one. -/
theorem le_of_odd_mul {u w e : ℕ} (hw : Odd w) (h : u * 2 ^ k = w * 2 ^ e) : k ≤ e := by
  have hcoprime : Nat.Coprime (2 ^ k) w := Nat.Coprime.pow_left k hw.coprime_two_left
  have hdvd : 2 ^ k ∣ 2 ^ e := hcoprime.dvd_of_dvd_mul_left (h ▸ Nat.dvd_mul_left _ _)
  exact (Nat.pow_dvd_pow_iff_le_right one_lt_two).mp hdvd

/-- A magnitude that a power of two makes odd is in a low binade, and is made a number of at most 53
bits. -/
theorem bounds_of_odd {r w : ℕ} (hw : Odd w) (h : Rank.magnitude r * 2 ^ k = w) :
    Rank.binade r + k ≤ 1074 ∧ w < 2 ^ 53 := by
  have hunits : Rank.significand r * 2 ^ (Rank.binade r + k) = w * 2 ^ 1074 := by
    rw [Rank.magnitude, div_mul_eq_mul_div, div_eq_iff Rank.perOne_pos.ne', Rank.perOne_eq,
      Rank.units, Rank.natPow_eq] at h
    rw [pow_add, ← mul_assoc]
    generalize 1074 = e at *
    exact_mod_cast h
  have hle := le_of_odd_mul hw hunits
  refine ⟨hle, ?_⟩
  generalize 1074 = e at *
  refine Nat.lt_of_mul_lt_mul_right (a := 2 ^ e) ?_
  calc w * 2 ^ e
      = Rank.significand r * 2 ^ (Rank.binade r + k) := hunits.symm
    _ ≤ Rank.significand r * 2 ^ e := Nat.mul_le_mul_left _ (Nat.pow_le_pow_right two_pos hle)
    _ < 2 ^ 53 * 2 ^ e := Nat.mul_lt_mul_of_pos_right (Rank.significand_lt r) (Nat.pow_pos two_pos)

/-- A product with a power of two tells whether it is odd. -/
theorem isOdd_mul_two_pow_iff (hx : x.isFinite = true) (hy : y.IsNear 0 (2 ^ k)) :
    (x * y).isOdd = true ↔ ∃ w : ℕ, Odd w ∧ |x.value| * 2 ^ k = w := by
  have hvalue : (x * y).isFinite = true → |(x * y).value| = |x.value| * 2 ^ k := by
    intro hfinite
    rw [(mul_two_pow hx hy hfinite).value_eq, abs_mul, abs_pow, abs_two]
  constructor
  · intro hodd
    have hfinite : (x * y).isFinite = true := by
      generalize x * y = product at *
      cases product with
      | nan | infinite => cases hodd
      | finite => rfl
    rw [← hvalue hfinite]
    exact (isOdd_iff hfinite).mp hodd
  · rintro ⟨w, hw, hscaled⟩
    have hfinite : (x * y).isFinite = true := by
      obtain ⟨m, r, rfl⟩ := exists_eq_finite hx
      rw [isFinite_mul_two_pow_iff rfl hy, hscaled, greatest, ← pow_succ']
      rw [abs_value_finite] at hscaled
      calc (w : ℚ) < 2 ^ 53 := by exact_mod_cast (bounds_of_odd hw hscaled).2
        _ ≤ 2 ^ 1024 := pow_le_pow_right₀ one_le_two (by decide)
    rw [isOdd_iff hfinite, hvalue hfinite]
    exact ⟨w, hw, hscaled⟩

end RiskBoard.Binary64
