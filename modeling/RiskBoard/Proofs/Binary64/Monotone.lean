import RiskBoard.Proofs.Binary64.Magnitude

/-!
# Rounding keeps the order

A greater quotient is never rounded to a lesser magnitude (`Rank.nearest_le_nearest`): within a
binade that is so for rounding to whole numbers, and what is rounded in a lower binade goes no
further up than the first magnitude of the next. Operations that round once are monotone with it.
For doubles without a sign these are products, quotients and rounding to a whole number.
-/

namespace RiskBoard

namespace Rank

variable {n n' d d' q : ℕ}

/-- Quotients that are rounded down keep the order of fractions. -/
private theorem div_le_div_of_mul_le (hd : 0 < d) (hd' : 0 < d') (h : n * d' ≤ n' * d) :
    n / d ≤ n' / d' := by
  rw [Nat.le_div_iff_mul_le hd']
  refine Nat.le_of_mul_le_mul_right ?_ hd
  calc n / d * d' * d = n / d * d * d' := by ring
    _ ≤ n * d' := Nat.mul_le_mul_right _ (Nat.div_mul_le_self n d)
    _ ≤ n' * d := h

/-- Where a half goes depends on the whole number below it alone. -/
theorem halfEven_of_half (hd : 0 < d) (h : 2 * n = (2 * q + 1) * d) :
    halfEven n d = q + q % 2 := by
  have hsplit : (2 * q + 1) * d = 2 * (q * d) + d := by ring
  have hup : (q + 1) * d = q * d + d := by ring
  have hdiv : n / d = q := by
    rw [Nat.div_eq_iff hd]
    omega
  have hmod : 2 * (n % d) = d := by
    have hrest := Nat.div_add_mod n d
    rw [hdiv, Nat.mul_comm] at hrest
    omega
  unfold halfEven
  simp only [hdiv, hmod, lt_irrefl, if_false]

/-- Rounding to a whole number keeps the order of quotients. -/
theorem halfEven_le_halfEven (hd : 0 < d) (hd' : 0 < d') (h : n * d' ≤ n' * d) :
    halfEven n d ≤ halfEven n' d' := by
  by_contra! hlt
  obtain ⟨hlow, -⟩ := halfEven_remainder (n := n) hd
  obtain ⟨-, hhigh⟩ := halfEven_remainder (n := n') hd'
  generalize hk : halfEven n' d' = k at *
  -- both quotients lie on the half between two whole numbers, so they are rounded alike
  have hbelow : (2 * k + 1) * d ≤ 2 * n := by
    have hstep : (k + 1) * d ≤ halfEven n d * d := Nat.mul_le_mul_right _ hlt
    linarith
  have habove : 2 * n' ≤ (2 * k + 1) * d' := by linarith
  have hn : 2 * n = (2 * k + 1) * d := by
    refine le_antisymm (Nat.le_of_mul_le_mul_right ?_ hd') hbelow
    calc 2 * n * d' = 2 * (n * d') := by ring
      _ ≤ 2 * (n' * d) := by gcongr
      _ = 2 * n' * d := by ring
      _ ≤ (2 * k + 1) * d' * d := by gcongr
      _ = (2 * k + 1) * d * d' := by ring
  have hn' : 2 * n' = (2 * k + 1) * d' := by
    refine le_antisymm habove (Nat.le_of_mul_le_mul_right ?_ hd)
    calc (2 * k + 1) * d' * d = (2 * k + 1) * d * d' := by ring
      _ = 2 * (n * d') := by rw [← hn]; ring
      _ ≤ 2 * (n' * d) := by gcongr
      _ = 2 * n' * d := by ring
  rw [halfEven_of_half hd hn, ← halfEven_of_half hd' hn', hk] at hlt
  exact lt_irrefl k hlt

/-- The greater of two fractions is not in a lower binade. -/
theorem binadeOf_le_binadeOf (hd : 0 < d) (hd' : 0 < d') (h : n * d' ≤ n' * d) :
    binadeOf n d ≤ binadeOf n' d' := by
  have hq := div_le_div_of_mul_le hd hd' h
  unfold binadeOf
  generalize n / d = q, n' / d' = q' at *
  simp only
  by_cases hsmall : q < 2 * binadeSize
  · rw [if_pos hsmall]
    exact Nat.zero_le _
  · have hlarge : 2 * binadeSize ≤ q := not_lt.mp hsmall
    have hpos : 0 < 2 * binadeSize := by decide
    rw [if_neg hsmall, if_neg (not_lt.mpr (hlarge.trans hq))]
    have hlog : q.log2 ≤ q'.log2 :=
      (Nat.le_log2 (by omega)).mpr ((Nat.log2_self_le (by omega)).trans hq)
    exact Nat.sub_le_sub_right hlog 52

/-- **Rounding to a magnitude keeps the order of quotients.** -/
theorem nearest_le_nearest (hd : 0 < d) (hd' : 0 < d') (h : n * d' ≤ n' * d) :
    nearest n d ≤ nearest n' d' := by
  have hbinade := binadeOf_le_binadeOf hd hd' h
  have hhigh := (div_binadeOf n d).2
  have hlow' := (div_binadeOf n' d').1
  have hcases := halfEven_cases n (d * 2 ^ binadeOf n d)
  have hcases' := halfEven_cases n' (d' * 2 ^ binadeOf n' d')
  change binadeOf n d * binadeSize + halfEven n (d * 2 ^ binadeOf n d) ≤
    binadeOf n' d' * binadeSize + halfEven n' (d' * 2 ^ binadeOf n' d')
  rcases hbinade.eq_or_lt with heq | hlt
  · rw [heq]
    refine Nat.add_le_add_left (halfEven_le_halfEven (by positivity) (by positivity) ?_) _
    calc n * (d' * 2 ^ binadeOf n' d')
        = n * d' * 2 ^ binadeOf n' d' := by ring
      _ ≤ n' * d * 2 ^ binadeOf n' d' := Nat.mul_le_mul_right _ h
      _ = n' * (d * 2 ^ binadeOf n' d') := by ring
  · generalize binadeOf n d = s, binadeOf n' d' = s' at *
    have hfirst := hlow'.resolve_left (by omega)
    unfold binadeSize at *
    omega

end Rank

namespace Binary64

variable {x y s t : Binary64} {n n' d d' : ℕ}

/-- Magnitudes are ordered as their ranks are. -/
theorem value_le_value_iff {r q : Fin Rank.limit} :
    (finite false r).value ≤ (finite false q).value ↔ r.val ≤ q.val := by
  rw [value_finite, value_finite]
  exact Rank.magnitude_strictMono.le_iff_le

private theorem round_eq_of_isMagnitude (h : IsMagnitude (round false n d)) :
    (round false n d).value = Rank.magnitude (Rank.nearest n d) := by
  rw [round] at h ⊢
  split_ifs at h ⊢ with hlimit
  · exact value_finite _ _
  · cases h

/-- **Rounding keeps the order** of fractions. -/
theorem round_le_round (hd : 0 < d) (hd' : 0 < d') (h : n * d' ≤ n' * d)
    (hx : IsMagnitude (round false n d)) (hy : IsMagnitude (round false n' d')) :
    (round false n d).value ≤ (round false n' d').value := by
  rw [round_eq_of_isMagnitude hx, round_eq_of_isMagnitude hy]
  exact Rank.magnitude_strictMono.monotone (Rank.nearest_le_nearest hd hd' h)

namespace IsMagnitude

/-- Products of magnitudes keep the order, since they are rounded in order. -/
theorem mul_le_mul (hx : IsMagnitude x) (hy : IsMagnitude y) (hs : IsMagnitude s)
    (ht : IsMagnitude t) (hxy : x.value ≤ y.value) (hst : s.value ≤ t.value)
    (hxs : IsMagnitude (x * s)) (hyt : IsMagnitude (y * t)) : (x * s).value ≤ (y * t).value := by
  obtain ⟨⟨a⟩, ⟨b⟩, ⟨u⟩, ⟨v⟩⟩ := And.intro hx (And.intro hy (And.intro hs ht))
  have hab := Rank.units_strictMono.monotone (value_le_value_iff.mp hxy)
  have huv := Rank.units_strictMono.monotone (value_le_value_iff.mp hst)
  rw [finite_mul_finite, Bool.xor_self] at hxs hyt ⊢
  rw [finite_mul_finite, Bool.xor_self]
  exact round_le_round Rank.unitsPerOne_pos Rank.unitsPerOne_pos
    (Nat.mul_le_mul_right _ (Nat.mul_le_mul hab huv)) hxs hyt

/-- Quotients by the same divisor. -/
theorem div_le_div (hx : IsMagnitude x) (hy : IsMagnitude y) (hs : IsMagnitude s)
    (hxy : x.value ≤ y.value) (hpos : 0 < s.value) (hxs : IsMagnitude (x / s))
    (hys : IsMagnitude (y / s)) : (x / s).value ≤ (y / s).value := by
  obtain ⟨⟨a⟩, ⟨b⟩, ⟨u⟩⟩ := And.intro hx (And.intro hy hs)
  have hab := Rank.units_strictMono.monotone (value_le_value_iff.mp hxy)
  have hu : u.val ≠ 0 := by
    intro hzero
    rw [value_finite, hzero, Rank.magnitude_zero, signed_zero] at hpos
    exact lt_irrefl 0 hpos
  have hunits : 0 < Rank.units u := Nat.pos_of_ne_zero (mt Rank.units_eq_zero.mp hu)
  rw [finite_div_finite false false _ hu, Bool.xor_self] at hxs hys ⊢
  rw [finite_div_finite false false _ hu, Bool.xor_self]
  exact round_le_round hunits hunits
    (Nat.mul_le_mul_right _ (Nat.mul_le_mul_right _ hab)) hxs hys

/-- Rounding to whole numbers keeps the order. -/
theorem roundHalfAway_le (hx : IsMagnitude x) (hy : IsMagnitude y) (hxy : x.value ≤ y.value) :
    x.roundHalfAway.value ≤ y.roundHalfAway.value := by
  have hround := hx.roundHalfAway
  have hround' := hy.roundHalfAway
  obtain ⟨⟨a⟩, ⟨b⟩⟩ := And.intro hx hy
  have hab := Rank.units_strictMono.monotone (value_le_value_iff.mp hxy)
  refine round_le_round one_pos one_pos ?_ hround hround'
  gcongr

end IsMagnitude

/-! ### Powers -/

/-- A double without a sign that is not below a power of two. -/
inductive Reaches (e : ℕ) : Binary64 → Prop
  | magnitude {x : Binary64} (h : IsMagnitude x) (hlow : 2 ^ e ≤ x.value) : Reaches e x
  | infinite : Reaches e (.infinite false)

/-- Powers of two are doubles, so no rounding falls below them. -/
theorem Reaches.mul {a b : ℕ} (hx : Reaches a x) (hy : Reaches b y) : Reaches (a + b) (x * y) := by
  have hne : ∀ {e : ℕ} {r : Fin Rank.limit}, 2 ^ e ≤ (finite false r).value → r.val ≠ 0 := by
    intro e r hlow hzero
    rw [value_finite, hzero, Rank.magnitude_zero, signed_zero] at hlow
    exact absurd hlow (not_le.mpr (by positivity))
  cases hx with
  | infinite =>
    cases hy with
    | infinite => exact .infinite
    | magnitude h hlow =>
      obtain ⟨s⟩ := h
      have hproduct : Binary64.infinite false * finite false s = .infinite false :=
        if_neg (hne hlow)
      rw [hproduct]
      exact .infinite
  | magnitude hx hlow =>
    obtain ⟨r⟩ := hx
    cases hy with
    | infinite =>
      have hproduct : finite false r * Binary64.infinite false = .infinite false :=
        if_neg (hne hlow)
      rw [hproduct]
      exact .infinite
    | magnitude hy hlow' =>
      obtain ⟨s⟩ := hy
      rcases (IsMagnitude.intro r).mul_or (.intro s) with hproduct | hproduct
      · refine .magnitude hproduct ?_
        have hunits : ∀ {e : ℕ} {r : ℕ}, (2 : ℚ) ^ e ≤ Rank.magnitude r ↔
            2 ^ e * Rank.unitsPerOne ≤ Rank.units r := by
          intro e r
          rw [← natCast_le_magnitude, Nat.cast_pow, Nat.cast_ofNat]
        rw [value_finite, signed, if_neg Bool.false_ne_true, hunits] at hlow hlow'
        rw [finite_mul_finite, Bool.xor_self] at hproduct ⊢
        rw [round_eq_of_isMagnitude hproduct, hunits]
        have hpower := Rank.units_nearest_units_mul_two_pow Rank.one (a + b) Rank.unitsPerOne_pos
        rw [units_one, Nat.mul_comm Rank.unitsPerOne] at hpower
        rw [← hpower]
        refine Rank.units_strictMono.monotone (Rank.nearest_le_nearest Rank.unitsPerOne_pos
          Rank.unitsPerOne_pos (Nat.mul_le_mul_right _ ?_))
        calc 2 ^ (a + b) * Rank.unitsPerOne * Rank.unitsPerOne
            = 2 ^ a * Rank.unitsPerOne * (2 ^ b * Rank.unitsPerOne) := by rw [pow_add]; ring
          _ ≤ Rank.units r * Rank.units s := Nat.mul_le_mul hlow hlow'
      · rw [hproduct]
        exact .infinite

/-- However great the exponent is, a power of ten is not below the same power of eight. -/
theorem reaches_power_ten (n : ℕ) : Reaches (n * 3) (power 10 n) := by
  have hten := ofNat_isNear (n := 10) (by decide)
  have hone := ofNat_isNear (n := 1) (by decide)
  have hbase : Reaches 3 (10 : Binary64) := by
    have hvalue : (10 : Binary64).value = 10 := hten.value_eq
    exact .magnitude (isMagnitude_of_pos hten.finite (by rw [hvalue]; norm_num))
      (by rw [hvalue]; norm_num)
  have hacc : Reaches 0 (1 : Binary64) := by
    have hvalue : (1 : Binary64).value = 1 := hone.value_eq.trans Nat.cast_one
    exact .magnitude (isMagnitude_of_pos hone.finite (by rw [hvalue]; norm_num))
      (by rw [hvalue]; norm_num)
  have hpower := squaring_induction (fun _ _ _ _ hx hy _ => Reaches.mul hx hy)
    (Nat.lt_succ_self n) three_pos hbase hacc le_rfl
  rwa [Nat.zero_add] at hpower

end Binary64

end RiskBoard
