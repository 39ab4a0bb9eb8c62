import Mathlib.Data.Rat.Floor
import RiskBoard.Proofs.Binary64.Operations

/-!
# Whole doubles

Whole numbers next to a double are doubles themselves, since from `2⁵³` on every double is whole
(`Binary64.round_whole`). So the floor, the ceiling and the nearest whole number of a finite double
are exact, and so are the integers of at most 53 bits.
-/

namespace RiskBoard.Binary64

variable {m : Bool} {r : Fin Rank.limit} {k : Nat} {x : Binary64}

/-! ### Whole magnitudes -/

/-- Magnitudes from a power of two on are multiples of a lesser one. -/
theorem two_pow_dvd_units {r e : Nat} (h : 2 ^ 53 * 2 ^ e ≤ Rank.units r) :
    2 ^ e ∣ Rank.units r := by
  have hunits : Rank.units r = Rank.significand r * 2 ^ Rank.binade r := rfl
  have hsig := Rank.significand_lt r
  rw [Rank.binadeSize_eq] at hsig
  have hbinade : e ≤ Rank.binade r := by
    by_contra hlt
    have hsmall : Rank.units r < 2 ^ 53 * 2 ^ e :=
      calc Rank.units r = Rank.significand r * 2 ^ Rank.binade r := hunits
        _ < 2 ^ 53 * 2 ^ Rank.binade r := by
          gcongr
          omega
        _ ≤ 2 ^ 53 * 2 ^ e :=
          Nat.mul_le_mul_left _ (Nat.pow_le_pow_right two_pos (by omega))
    exact absurd h (not_le.mpr hsmall)
  exact hunits ▸ (pow_dvd_pow 2 hbinade).mul_left _

/-- Multiples of a number that are less than it away from another number `u` are bounded like `u`,
and equal to `u` if it is a multiple. -/
private theorem multiple_near {u U k : Nat} (hlow : u < k * U + U) (hhigh : k * U < u + U) :
    (∀ b, u < b * U → k ≤ b) ∧ ∀ c, u = c * U → k = c := by
  constructor
  · intro b hb
    have hlt : k * U < (b + 1) * U := by
      rw [Nat.succ_mul]
      omega
    exact Nat.le_of_lt_succ (Nat.lt_of_mul_lt_mul_right hlt)
  · rintro c rfl
    rw [← Nat.succ_mul] at hlow hhigh
    have hck := Nat.lt_of_mul_lt_mul_right hlow
    have hkc := Nat.lt_of_mul_lt_mul_right hhigh
    omega

/-- A whole number of at most 53 bits is a double. -/
theorem round_eq_of_le (hk : k ≤ 2 ^ 53) :
    ∃ hr, round m (k * Rank.unitsPerOne) 1 =
      finite m ⟨Rank.nearest (k * Rank.unitsPerOne) 1, hr⟩ := by
  refine round_eq_finite one_pos ?_
  have hk' : (k : ℚ) ≤ 2 ^ 53 := by exact_mod_cast hk
  rw [Nat.cast_one, div_one, Nat.cast_mul, Rank.cast_unitsPerOne,
    mul_div_cancel_right₀ _ Rank.perOne_pos.ne', greatest]
  exact hk'.trans (pow_le_pow_right₀ one_le_two (by decide))

/-- Whole numbers of at most 53 bits are not rounded. -/
theorem round_of_le (hk : k ≤ 2 ^ 53) :
    (round m (k * Rank.unitsPerOne) 1).IsNear 0 (signed m k) := by
  obtain ⟨hr, hround⟩ := round_eq_of_le (m := m) hk
  rw [hround]
  refine .of_value_eq rfl ?_
  rw [value_finite]
  dsimp only
  rw [Rank.magnitude, Rank.units_nearest_whole hk, Nat.cast_mul, Rank.cast_unitsPerOne,
    mul_div_cancel_right₀ _ Rank.perOne_pos.ne']

/-- A double is what its magnitude is rounded to. -/
theorem round_units (m : Bool) (r : Fin Rank.limit) : round m (Rank.units r) 1 = finite m r := by
  have hnearest := Rank.nearest_units_mul r.val one_pos
  rw [mul_one] at hnearest
  rw [round, hnearest]
  exact dif_pos r.isLt

/-- Whole numbers less than one away from a magnitude are magnitudes. -/
theorem round_whole (hlow : Rank.units r < k * Rank.unitsPerOne + Rank.unitsPerOne)
    (hhigh : k * Rank.unitsPerOne < Rank.units r + Rank.unitsPerOne) :
    (round m (k * Rank.unitsPerOne) 1).IsNear 0 (signed m k) := by
  obtain ⟨hbounded, hmultiple⟩ := multiple_near hlow hhigh
  rcases lt_or_ge (Rank.units r) (2 ^ 53 * Rank.unitsPerOne) with hsmall | hlarge
  · exact round_of_le (hbounded _ hsmall)
  · rw [Rank.unitsPerOne_eq] at hlarge
    obtain ⟨c, hc⟩ := two_pow_dvd_units hlarge
    rw [← Rank.unitsPerOne_eq, Nat.mul_comm] at hc
    rw [hmultiple c hc, ← hc, round_units]
    refine .of_value_eq rfl ?_
    rw [value_finite, Rank.magnitude, hc, Nat.cast_mul, Rank.cast_unitsPerOne,
      mul_div_cancel_right₀ _ Rank.perOne_pos.ne']

/-! ### Integers -/

theorem abs_intCast_le {i : Int} {n : Nat} (h : i.natAbs ≤ n) : |(i : ℚ)| ≤ n := by
  rw [← Int.cast_abs, Int.abs_eq_natAbs]
  exact_mod_cast h

/-- An integer other than zero is at least one away from it. -/
theorem one_le_abs_intCast {i : Int} (h : i ≠ 0) : 1 ≤ |(i : ℚ)| := by
  rw [← Int.cast_abs]
  exact_mod_cast Int.one_le_abs h

theorem IsModerate.intCast {i : Int} {e : Nat} (hi : |(i : ℚ)| ≤ 10 ^ e) (he : e ≤ 305) :
    IsModerate i := by
  rcases eq_or_ne i 0 with rfl | hne
  · exact .inl Int.cast_zero
  · exact .inr ((WithinTen.of_one_le (one_le_abs_intCast hne) hi).mono he)

/-- The double of a natural number of at most 53 bits is exact. -/
theorem ofNat_isNear {n : Nat} (hn : n ≤ 2 ^ 53) : (ofNat n).IsNear 0 n := by
  exact round_of_le (m := false) hn

/-- So is that of an integer. -/
theorem ofInt_isNear {i : Int} (hi : i.natAbs ≤ 2 ^ 53) : (ofInt i).IsNear 0 i := by
  have hround := round_of_le (m := decide (i < 0)) hi
  rwa [signed_natAbs] at hround

/-- The units of a double whose value is an integer. -/
theorem signedUnits_of_value {i : Int} (h : (finite m r).value = i) :
    signedUnits m r = i * Rank.unitsPerOne := by
  rw [value_finite_eq_div, div_eq_iff Rank.perOne_pos.ne', ← Rank.cast_unitsPerOne] at h
  exact_mod_cast h

/-- The sum of integers is exact as long as it has at most 53 bits. -/
theorem IsNear.add_int {y : Binary64} {i j : Int} (hx : x.IsNear 0 i) (hy : y.IsNear 0 j)
    (hij : (i + j).natAbs ≤ 2 ^ 53) : (x + y).IsNear 0 (i + j : Int) := by
  have hxvalue := hx.value_eq
  have hyvalue := hy.value_eq
  obtain ⟨m, r, rfl⟩ := exists_eq_finite hx.finite
  obtain ⟨n, s, rfl⟩ := exists_eq_finite hy.finite
  have htotal : signedUnits m r + signedUnits n s = (i + j) * Rank.unitsPerOne := by
    rw [signedUnits_of_value hxvalue, signedUnits_of_value hyvalue, add_mul]
  rw [finite_add_finite, htotal]
  have hpos : (0 : Int) < Rank.unitsPerOne := by exact_mod_cast Rank.unitsPerOne_pos
  generalize i + j = k at *
  split_ifs with hzero
  · have hk : k = 0 := (mul_eq_zero.mp hzero).resolve_right hpos.ne'
    have hround := round_of_le (m := m && n) (k := 0) (Nat.zero_le _)
    rw [Nat.zero_mul, Nat.cast_zero, signed_zero] at hround
    rwa [hk, Int.cast_zero]
  · have hneg : decide (k * (Rank.unitsPerOne : Int) < 0) = decide (k < 0) := by
      rw [decide_eq_decide]
      exact ⟨fun h => neg_of_mul_neg_left h hpos.le, fun h => mul_neg_of_neg_of_pos h hpos⟩
    have hround := round_of_le (m := decide (k < 0)) hij
    rw [signed_natAbs] at hround
    rwa [hneg, Int.natAbs_mul, Int.natAbs_natCast]

/-- So is a difference of integers. -/
theorem IsNear.sub_int {y : Binary64} {i j : Int} (hx : x.IsNear 0 i) (hy : y.IsNear 0 j)
    (hij : (i - j).natAbs ≤ 2 ^ 53) : (x - y).IsNear 0 (i - j : Int) := by
  have hneg : y.neg.IsNear 0 (-j : Int) := by
    rw [Int.cast_neg]
    exact hy.neg
  exact hx.add_int hneg hij

/-! ### Rounding to whole numbers -/

/-- A natural number is compared with a magnitude in units. -/
theorem natCast_le_magnitude {r : Nat} :
    (k : ℚ) ≤ Rank.magnitude r ↔ k * Rank.unitsPerOne ≤ Rank.units r := by
  rw [Rank.magnitude, le_div_iff₀ Rank.perOne_pos, ← Rank.cast_unitsPerOne, ← Nat.cast_mul,
    Nat.cast_le]

theorem magnitude_le_natCast {r : Nat} :
    Rank.magnitude r ≤ k ↔ Rank.units r ≤ k * Rank.unitsPerOne := by
  rw [Rank.magnitude, div_le_iff₀ Rank.perOne_pos, ← Rank.cast_unitsPerOne, ← Nat.cast_mul,
    Nat.cast_le]

theorem magnitude_eq_natCast {r : Nat} :
    Rank.magnitude r = k ↔ Rank.units r = k * Rank.unitsPerOne := by
  rw [le_antisymm_iff, magnitude_le_natCast, natCast_le_magnitude, ← le_antisymm_iff]

/-- A double with the whole part of a magnitude. -/
theorem whole_down (m : Bool) (r : Fin Rank.limit) :
    (whole m (Rank.units r / Rank.unitsPerOne)).IsNear 0 (signed m ⌊Rank.magnitude r⌋) := by
  have hlow := Nat.div_mul_le_self (Rank.units r) Rank.unitsPerOne
  have hhigh := Nat.lt_div_mul_add (a := Rank.units r) Rank.unitsPerOne_pos
  have hfloor : ⌊Rank.magnitude r⌋ = (Rank.units r / Rank.unitsPerOne : ℕ) := by
    rw [Int.floor_eq_iff]
    generalize Rank.units r / Rank.unitsPerOne = k at *
    refine ⟨natCast_le_magnitude.mpr hlow, ?_⟩
    rw [Int.cast_natCast, ← Nat.cast_succ, ← not_le, natCast_le_magnitude, Nat.succ_mul, not_le]
    exact hhigh
  rw [hfloor]
  exact round_whole hhigh (hlow.trans_lt (Nat.lt_add_of_pos_right Rank.unitsPerOne_pos))

/-- A number divided and rounded up, multiplied again. -/
private theorem div_up {u U : Nat} (hU : 0 < U) :
    u ≤ (u + U - 1) / U * U ∧ (u + U - 1) / U * U < u + U := by
  have hlow := Nat.div_mul_le_self (u + U - 1) U
  have hhigh := Nat.lt_div_mul_add (a := u + U - 1) hU
  omega

/-- A double with a magnitude rounded up. -/
theorem whole_up (m : Bool) (r : Fin Rank.limit) :
    (whole m ((Rank.units r + Rank.unitsPerOne - 1) / Rank.unitsPerOne)).IsNear 0
      (signed m ⌈Rank.magnitude r⌉) := by
  obtain ⟨hlow, hhigh⟩ := div_up (u := Rank.units r) Rank.unitsPerOne_pos
  have hceil : ⌈Rank.magnitude r⌉ =
      ((Rank.units r + Rank.unitsPerOne - 1) / Rank.unitsPerOne : ℕ) := by
    rw [Int.ceil_eq_iff]
    generalize (Rank.units r + Rank.unitsPerOne - 1) / Rank.unitsPerOne = k at *
    refine ⟨?_, magnitude_le_natCast.mpr hlow⟩
    rw [Int.cast_natCast, Rank.magnitude, lt_div_iff₀ Rank.perOne_pos, sub_mul, one_mul,
      sub_lt_iff_lt_add, ← Rank.cast_unitsPerOne, ← Nat.cast_mul, ← Nat.cast_add, Nat.cast_lt]
    exact hhigh
  rw [hceil]
  exact round_whole (hlow.trans_lt (Nat.lt_add_of_pos_right Rank.unitsPerOne_pos)) hhigh

/-- Rounding down is exact. -/
theorem floor_isNear (hx : x.isFinite = true) : x.floor.IsNear 0 ⌊x.value⌋ := by
  obtain ⟨m, r, rfl⟩ := exists_eq_finite hx
  rw [floor, value_finite]
  cases m
  · rw [if_neg Bool.false_ne_true]
    exact whole_down false r
  · have hup := whole_up true r
    rw [if_pos rfl, signed, if_pos rfl, Int.floor_neg, Int.cast_neg]
    exact hup

/-- Rounding up is exact. -/
theorem ceil_isNear (hx : x.isFinite = true) : x.ceil.IsNear 0 ⌈x.value⌉ := by
  obtain ⟨m, r, rfl⟩ := exists_eq_finite hx
  rw [ceil, value_finite]
  cases m
  · rw [if_neg Bool.false_ne_true]
    exact whole_up false r
  · have hdown := whole_down true r
    rw [if_pos rfl, signed, if_pos rfl, Int.ceil_neg, Int.cast_neg]
    exact hdown

/-- A number divided and rounded half up, multiplied again. -/
private theorem div_half {u U : Nat} (hU : 0 < U) :
    2 * u < 2 * ((2 * u + U) / (2 * U) * U) + U ∧ 2 * ((2 * u + U) / (2 * U) * U) ≤ 2 * u + U := by
  have hlow := Nat.div_mul_le_self (2 * u + U) (2 * U)
  have hhigh := Nat.lt_div_mul_add (a := 2 * u + U) (b := 2 * U) (by omega)
  generalize (2 * u + U) / (2 * U) = k at *
  rw [mul_left_comm] at hlow hhigh
  omega

/-- Rounding to the nearest whole number gives an integer that is at most a half away. -/
theorem roundHalfAway_isNear (hx : x.isFinite = true) :
    ∃ i : Int, x.roundHalfAway.IsNear 0 i ∧ |(i : ℚ) - x.value| ≤ 1 / 2 := by
  obtain ⟨m, r, rfl⟩ := exists_eq_finite hx
  obtain ⟨hlow, hhigh⟩ := div_half (u := Rank.units r) Rank.unitsPerOne_pos
  rw [roundHalfAway, value_finite]
  generalize (2 * Rank.units r + Rank.unitsPerOne) / (2 * Rank.unitsPerOne) = k at *
  have hround := round_whole (m := m) (r := r) (k := k) (by omega) (by omega)
  have hP := Rank.perOne_pos
  have hlow' : 2 * (Rank.units r : ℚ) ≤ 2 * (k * Rank.perOne) + Rank.perOne := by
    rw [← Rank.cast_unitsPerOne]
    exact_mod_cast hlow.le
  have hhigh' : 2 * ((k : ℚ) * Rank.perOne) ≤ 2 * Rank.units r + Rank.perOne := by
    rw [← Rank.cast_unitsPerOne]
    exact_mod_cast hhigh
  have hnear : |(k : ℚ) - Rank.magnitude r| ≤ 1 / 2 := by
    have hunits : Rank.magnitude r * Rank.perOne = Rank.units r := by
      rw [Rank.magnitude, div_mul_cancel₀ _ hP.ne']
    rw [abs_le]
    constructor
    · refine le_of_mul_le_mul_right ?_ hP
      linarith
    · refine le_of_mul_le_mul_right ?_ hP
      linarith
  have hsigned : ((if m then -(k : Int) else k : Int) : ℚ) = signed m k := by
    cases m <;> simp [signed]
  refine ⟨if m then -(k : Int) else k, ?_, ?_⟩
  · rw [hsigned]
    exact hround
  · rwa [hsigned, signed_sub_signed, abs_signed]

/-- What stands for an integer that is not too great is rounded to it. -/
theorem IsNear.roundHalfAway_int {i : Int} (hx : x.IsNear k i) (hk : k ≤ 1000)
    (hi : i.natAbs ≤ 2 ^ 39) : x.roundHalfAway.IsNear 0 i := by
  obtain ⟨j, hround, hhalf⟩ := roundHalfAway_isNear hx.finite
  have herror := hx.approx.abs_sub_le_of_le hk
  have hi' : |(i : ℚ)| ≤ 2 ^ 39 := by exact_mod_cast abs_intCast_le hi
  have hclose : |(j : ℚ) - i| < 1 := by
    calc |(j : ℚ) - i| ≤ |j - x.value| + |x.value - i| := abs_sub_le ..
      _ ≤ 1 / 2 + 2 ^ 39 / 2 ^ 41 := by
        gcongr
        exact herror.trans (by gcongr)
      _ < 1 := by norm_num
  have hclose' : |j - i| < 1 := by exact_mod_cast hclose
  rw [Int.abs_lt_one_iff, sub_eq_zero] at hclose'
  exact hclose' ▸ hround

/-! ### Integer parts -/

/-- The integer part of a whole double that is within the bounds is its value. -/
theorem toIntWithin_eq {lo hi i : Int} (hx : x.isFinite = true) (hvalue : x.value = i)
    (hlo : lo ≤ i) (hhi : i ≤ hi) : toIntWithin lo hi x = i := by
  obtain ⟨m, r, rfl⟩ := exists_eq_finite hx
  rw [value_finite] at hvalue
  have hmagnitude : Rank.magnitude r = i.natAbs := by
    rw [Nat.cast_natAbs, Int.cast_abs, ← hvalue, abs_signed,
      abs_of_nonneg (Rank.magnitude_nonneg r)]
  have hunits : Rank.units r = i.natAbs * Rank.unitsPerOne := magnitude_eq_natCast.mp hmagnitude
  have hpart : ((Rank.units r : Int) / (Rank.unitsPerOne : Int)) = i.natAbs := by
    rw [hunits, ← Int.natCast_ediv, Nat.mul_div_cancel _ Rank.unitsPerOne_pos]
  have hsign : (if m then -(i.natAbs : Int) else i.natAbs) = i := by
    rw [hmagnitude, signed, Nat.cast_natAbs] at hvalue
    rw [Int.natCast_natAbs]
    cases m
    · rw [if_neg Bool.false_ne_true] at hvalue ⊢
      exact_mod_cast hvalue
    · rw [if_pos rfl] at hvalue ⊢
      exact_mod_cast hvalue
  rw [toIntWithin, hpart]
  simp only [hsign]
  omega

/-- A whole double of at most 53 bits is read back as an integer of 64 bits. -/
theorem toInt64_eq {i : Int} (hx : x.isFinite = true) (hvalue : x.value = i)
    (hi : i.natAbs ≤ 2 ^ 53) : x.toInt64 = i :=
  toIntWithin_eq hx hvalue (by omega) (by omega)

/-- With at most 30 bits it is read back as one of 32. -/
theorem toInt32_eq {i : Int} (hx : x.isFinite = true) (hvalue : x.value = i)
    (hi : i.natAbs ≤ 2 ^ 30) : x.toInt32 = i :=
  toIntWithin_eq hx hvalue (by omega) (by omega)

end RiskBoard.Binary64
