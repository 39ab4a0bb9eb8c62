import RiskBoard.Proofs.Binary64.Decades

/-!
# Doubles without a sign

Finite doubles without a sign are closed under rounding to a whole number, under division by one
and by what is at least two, and under products that do not overflow. A product that does overflow
is the infinity without a sign, and so is what is made of it.
-/

namespace RiskBoard.Binary64

variable {x y : Binary64}

/-- A finite double without a sign. -/
inductive IsMagnitude : Binary64 → Prop
  | intro (r : Fin Rank.limit) : IsMagnitude (finite false r)

theorem IsMagnitude.isFinite (h : IsMagnitude x) : x.isFinite = true := by
  obtain ⟨r⟩ := h
  rfl

theorem IsMagnitude.value_nonneg (h : IsMagnitude x) : 0 ≤ x.value := by
  obtain ⟨r⟩ := h
  rw [value_finite]
  exact Rank.magnitude_nonneg r

/-- A finite double without its sign is a magnitude. -/
theorem isMagnitude_abs (hx : x.isFinite = true) : IsMagnitude x.abs := by
  obtain ⟨m, r, rfl⟩ := exists_eq_finite hx
  exact .intro r

/-- What has a positive value carries no sign. -/
theorem isMagnitude_of_pos (hx : x.isFinite = true) (hpos : 0 < x.value) : IsMagnitude x := by
  obtain ⟨m, r, rfl⟩ := exists_eq_finite hx
  cases m with
  | false => exact .intro r
  | true =>
    have hneg : (finite true r).value = -Rank.magnitude r := value_finite true r
    rw [hneg] at hpos
    linarith [Rank.magnitude_nonneg r]

/-- Rounding overflows or stays finite, and keeps the sign. -/
theorem isMagnitude_round_or (n d : ℕ) :
    IsMagnitude (round false n d) ∨ round false n d = .infinite false := by
  rw [round]
  split_ifs with h
  · exact .inl (.intro _)
  · exact .inr rfl

/-- What is rounded without a sign has none. -/
theorem isMagnitude_round {n d : ℕ} (h : (round false n d).isFinite = true) :
    IsMagnitude (round false n d) := by
  rcases isMagnitude_round_or n d with hround | hround
  · exact hround
  · rw [hround] at h
    cases h

/-- A product of magnitudes is one, or overflows. -/
theorem IsMagnitude.mul_or (hx : IsMagnitude x) (hy : IsMagnitude y) :
    IsMagnitude (x * y) ∨ x * y = .infinite false := by
  obtain ⟨r⟩ := hx
  obtain ⟨s⟩ := hy
  rw [finite_mul_finite, Bool.xor_self]
  exact isMagnitude_round_or _ _

/-- Magnitudes are rounded to magnitudes. -/
theorem IsMagnitude.roundHalfAway (hx : IsMagnitude x) : IsMagnitude x.roundHalfAway := by
  obtain ⟨i, hnear, -⟩ := roundHalfAway_isNear hx.isFinite
  obtain ⟨r⟩ := hx
  exact isMagnitude_round hnear.finite

/-- The values of doubles stay below `2 ^ 1024`. -/
theorem abs_value_le (hx : x.isFinite = true) : |x.value| ≤ 2 * greatest := by
  obtain ⟨m, r, rfl⟩ := exists_eq_finite hx
  -- the first rank beyond the doubles has `2 ^ 2098` units
  have hunits : (Rank.units r : ℚ) ≤ 2 ^ 2098 := by
    have hlt := Rank.units_lt_units.mpr r.isLt
    rw [Rank.units_limit] at hlt
    exact_mod_cast hlt.le
  rw [abs_value_finite, Rank.magnitude,
    div_le_iff₀ Rank.perOne_pos, mul_assoc, greatest_mul_perOne, ← pow_succ']
  exact hunits

/-- What is within the bound is rounded to a finite double. -/
private theorem isFinite_round {m : Bool} {n d : ℕ} (hd : 0 < d)
    (h : |signed m ((n : ℚ) / d / Rank.perOne)| ≤ greatest) : (round m n d).isFinite = true := by
  have hnonneg : 0 ≤ (n : ℚ) / d / Rank.perOne := by
    have hperOne := Rank.perOne_pos
    positivity
  rw [abs_signed, abs_of_nonneg hnonneg] at h
  obtain ⟨hr, hround⟩ := round_eq_finite (m := m) hd h
  rw [hround]
  rfl

/-- A product within the bound does not overflow. -/
theorem isFinite_mul (hx : x.isFinite = true) (hy : y.isFinite = true)
    (h : |x.value * y.value| ≤ greatest) : (x * y).isFinite = true := by
  obtain ⟨m, n, d, hd, hmul, hvalue⟩ := exists_round_eq_mul hx hy
  rw [hvalue] at h
  rw [hmul]
  exact isFinite_round hd h

/-- What is divided by two or more does not overflow. -/
theorem isFinite_div (hx : x.isFinite = true) (hy : y.isFinite = true) (htwo : 2 ≤ y.value) :
    (x / y).isFinite = true := by
  have hpos : 0 < y.value := two_pos.trans_le htwo
  have hbound : |x.value / y.value| ≤ greatest := by
    rw [abs_div, abs_of_pos hpos, div_le_iff₀ hpos]
    calc |x.value| ≤ 2 * greatest := abs_value_le hx
      _ ≤ greatest * y.value := by
        rw [mul_comm]
        exact mul_le_mul_of_nonneg_left htwo greatest_pos.le
  obtain ⟨m, n, d, hd, hdiv, hvalue⟩ := exists_round_eq_div hx hy hpos.ne'
  rw [hvalue] at hbound
  rw [hdiv]
  exact isFinite_round hd hbound

/-- A magnitude divided by two or more is one. -/
theorem IsMagnitude.div (hx : IsMagnitude x) (hy : IsMagnitude y) (htwo : 2 ≤ y.value) :
    IsMagnitude (x / y) := by
  have hfinite := isFinite_div hx.isFinite hy.isFinite htwo
  obtain ⟨r⟩ := hx
  obtain ⟨s⟩ := hy
  -- division looks at whether the divisor is zero before it rounds
  have hs : s.val ≠ 0 := by
    intro hzero
    rw [value_finite, hzero, Rank.magnitude_zero, signed_zero] at htwo
    linarith
  rw [finite_div_finite false false r hs, Bool.xor_self] at hfinite ⊢
  exact isMagnitude_round hfinite

/-- Infinity divided by a magnitude stays infinity. -/
theorem IsMagnitude.infinite_div (hy : IsMagnitude y) :
    .infinite false / y = .infinite false := by
  obtain ⟨s⟩ := hy
  rfl

/-! ### One -/

/-- The magnitude of one. -/
theorem units_one : Rank.units Rank.one = Rank.unitsPerOne := by decide +kernel

theorem value_one : one.value = 1 := by
  rw [one, value_finite]
  change Rank.magnitude Rank.one = 1
  rw [Rank.magnitude, units_one, Rank.cast_unitsPerOne, div_self Rank.perOne_pos.ne']

/-- Nothing is rounded that is a whole number of units. -/
private theorem round_units_mul (m : Bool) (r : Fin Rank.limit) :
    round m (Rank.units r * Rank.unitsPerOne) Rank.unitsPerOne = finite m r := by
  rw [round, Rank.nearest_units_mul r.val Rank.unitsPerOne_pos]
  exact dif_pos r.isLt

/-- Multiplying by one changes nothing, not even a bit. -/
theorem mul_one_eq (hx : x.isFinite = true) : x * one = x := by
  obtain ⟨m, r, rfl⟩ := exists_eq_finite hx
  rw [one, finite_mul_finite, units_one, round_units_mul, Bool.xor_false]

/-- Dividing by one changes nothing either. -/
theorem div_one_eq (hx : x.isFinite = true) : x / one = x := by
  obtain ⟨m, r, rfl⟩ := exists_eq_finite hx
  rw [one, finite_div_finite m false r (by decide), units_one, round_units_mul, Bool.xor_false]

end RiskBoard.Binary64
