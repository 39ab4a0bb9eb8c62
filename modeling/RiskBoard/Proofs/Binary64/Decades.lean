import RiskBoard.Binary64.Decade
import RiskBoard.Proofs.Binary64.Whole

/-!
# Decades of doubles

The exponent that `Binary64.floorLog10` gives is that of the greatest power of ten which is not
above a number, or of a power that is above it by a hair: a `2⁻⁴²`th at most for numbers within 400
powers of ten of one (`Binary64.floorLog10_spec`). The double nearest to a power of ten stands for
it up to one factor, the one that `Binary64.tenToThe` gives up to two, and a power by repeated
squaring up to as many as its exponent (`tenTo_isNear`, `tenToThe_isNear`, `power_isNear`).
-/

namespace RiskBoard

namespace Rank

variable {n r : Nat} {k : Int}

/-! ### Decimal logarithms of naturals -/

/-- The estimate from the binary logarithm is right or one too low. -/
theorem logTen_spec (hn : n ≠ 0) (hlog : n.log2 ≤ 10000) :
    10 ^ logTen n ≤ n ∧ n < 10 ^ (logTen n + 1) := by
  have hlow := Nat.log2_self_le hn
  have hhigh := Nat.lt_log2_self (n := n)
  -- `59 / 196` and `28 / 93` enclose the logarithm of two
  have hunder : 10 ^ (n.log2 * 30102 / 100000) ≤ 2 ^ n.log2 := by
    rw [← Nat.pow_le_pow_iff_left (n := 196) (by decide), ← pow_mul, ← pow_mul]
    calc 10 ^ (n.log2 * 30102 / 100000 * 196)
        ≤ 10 ^ (59 * n.log2) := Nat.pow_le_pow_right (by decide) (by omega)
      _ = (10 ^ 59) ^ n.log2 := pow_mul ..
      _ ≤ (2 ^ 196) ^ n.log2 := Nat.pow_le_pow_left (by norm_num) _
      _ = 2 ^ (n.log2 * 196) := by rw [← pow_mul, Nat.mul_comm]
  have hover : 2 ^ (n.log2 + 1) ≤ 10 ^ (n.log2 * 30102 / 100000 + 2) := by
    rw [← Nat.pow_le_pow_iff_left (n := 93) (by decide), ← pow_mul, ← pow_mul]
    calc 2 ^ ((n.log2 + 1) * 93)
        = (2 ^ 93) ^ (n.log2 + 1) := by rw [← pow_mul, Nat.mul_comm]
      _ ≤ (10 ^ 28) ^ (n.log2 + 1) := Nat.pow_le_pow_left (by norm_num) _
      _ = 10 ^ (28 * (n.log2 + 1)) := (pow_mul ..).symm
      _ ≤ 10 ^ ((n.log2 * 30102 / 100000 + 2) * 93) :=
        Nat.pow_le_pow_right (by decide) (by omega)
  rw [logTen]
  simp only [natPow_eq]
  split
  case isTrue h => exact ⟨h, hhigh.trans_le hover⟩
  case isFalse h => exact ⟨hunder.trans hlow, not_le.mp h⟩

/-! ### The decade of a magnitude -/

/-- How many bits a power of five may add. -/
private theorem log2_mul_five_pow_lt {u p q : Nat} (hu : u ≠ 0) (h : u < 2 ^ p) :
    (u * 5 ^ q).log2 < p + 3 * q := by
  have hscaled : u * 5 ^ q ≠ 0 := Nat.mul_ne_zero hu (pow_ne_zero _ (by decide))
  refine (Nat.log2_lt hscaled).mpr ?_
  calc u * 5 ^ q
      < 2 ^ p * 5 ^ q := Nat.mul_lt_mul_of_pos_right h (pow_pos (by decide) _)
    _ ≤ 2 ^ p * (2 ^ 3) ^ q := Nat.mul_le_mul_left _ (Nat.pow_le_pow_left (by decide) _)
    _ = 2 ^ (p + 3 * q) := by rw [← pow_mul, ← pow_add]

/-- A power of ten is compared with a binary fraction by clearing its denominator. -/
private theorem ten_zpow_le_div_two_pow {u e q : Nat} :
    (10 : ℚ) ^ ((e : Int) - q) ≤ u / 2 ^ q ↔ 10 ^ e ≤ u * 5 ^ q := by
  have hten : (10 : ℚ) ^ q = 2 ^ q * 5 ^ q := by
    rw [← mul_pow]
    norm_num
  have htwo : (0 : ℚ) < 2 ^ q := by positivity
  rw [zpow_sub₀ (by norm_num), zpow_natCast, zpow_natCast, hten, mul_comm ((2 : ℚ) ^ q),
    ← div_div, div_le_div_iff_of_pos_right htwo, div_le_iff₀ (by positivity)]
  exact_mod_cast Iff.rfl

/-- The decimal logarithm of a binary fraction, from that of the whole number it is scaled to. -/
private theorem ten_zpow_logTen {u q : Nat} (hu : u ≠ 0) (hlog : (u * 5 ^ q).log2 ≤ 10000) :
    (10 : ℚ) ^ ((logTen (u * 5 ^ q) : Int) - q) ≤ u / 2 ^ q ∧
      (u : ℚ) / 2 ^ q < 10 ^ ((logTen (u * 5 ^ q) : Int) - q + 1) := by
  have hscaled : u * 5 ^ q ≠ 0 := Nat.mul_ne_zero hu (pow_ne_zero _ (by decide))
  obtain ⟨hlow, hhigh⟩ := logTen_spec hscaled hlog
  refine ⟨ten_zpow_le_div_two_pow.mpr hlow, ?_⟩
  generalize logTen (u * 5 ^ q) = e at *
  have hnext : (e : Int) - q + 1 = (e + 1 : ℕ) - q := by omega
  rw [hnext, ← not_le, ten_zpow_le_div_two_pow, not_le]
  exact hhigh

/-- The decade of a magnitude is the exponent of the greatest power of ten that is not above it. -/
theorem decade_spec (hr : r ≠ 0) (hlimit : r < limit) :
    (10 : ℚ) ^ decade r ≤ magnitude r ∧ magnitude r < 10 ^ (decade r + 1) := by
  have hunits : units r ≠ 0 := mt units_eq_zero.mp hr
  have hlog : (units r * 5 ^ 1074).log2 < 2098 + 3 * 1074 :=
    log2_mul_five_pow_lt hunits (units_limit ▸ units_strictMono hlimit)
  have hspec := ten_zpow_logTen hunits (hlog.le.trans (by norm_num))
  simp only [decade, natPow_eq, magnitude, perOne_eq]
  exact hspec

/-! ### How thin a hair is -/

/-- The spacing at a magnitude is at most a `2⁻⁵²`th of it, but for the first binade. -/
theorem two_pow_binade_le (r : Nat) : binade r = 0 ∨ 2 ^ 52 * 2 ^ binade r ≤ units r := by
  rcases binade_eq_zero_or r with hzero | hsig
  · exact .inl hzero
  · exact .inr (Nat.mul_le_mul_right _ hsig)

/-- The spacing at a number of at most so many bits before the point. -/
private theorem two_pow_binade_div_le {b p q u : Nat} (hb : b = 0 ∨ 2 ^ 52 * 2 ^ b ≤ u)
    (hu : u ≤ 2 ^ p * 2 ^ q) (hp : p ≤ 52) (hq : 52 ≤ p + q) :
    (2 : ℚ) ^ b / 2 ^ q ≤ 1 / 2 ^ (52 - p) := by
  have hexponent : b + (52 - p) ≤ q := by
    rcases hb with rfl | hb
    · omega
    · have hle := hb.trans hu
      rw [← pow_add, ← pow_add] at hle
      have := (Nat.pow_le_pow_iff_right (by decide)).mp hle
      omega
  rw [div_le_div_iff₀ (by positivity) (by positivity), ← pow_add, one_mul]
  exact pow_le_pow_right₀ one_le_two hexponent

/-- The gap below a whole number is the spacing of the binade under it. -/
theorem gapBelow_eq {r : Fin limit} (h : Binary64.ofNat k.natAbs = .finite false r) :
    gapBelow k = 2 ^ binade (if 0 < k then r.val - 1 else r.val) / perOne := by
  -- unfolded as a function: applied to an argument it would be evaluated
  have hfunction : ∀ g, gapBelow = g →
      g k = 2 ^ binade (if 0 < k then r.val - 1 else r.val) / perOne := by
    delta gapBelow
    rintro _ rfl
    beta_reduce
    rw [h]
    dsimp only
    rw [units_succ, Nat.cast_add, add_sub_cancel_left, Nat.cast_pow, Nat.cast_ofNat,
      cast_unitsPerOne]
  exact hfunction gapBelow rfl

/-- The doubles below a whole number of at most three digits are dense. -/
theorem gapBelow_le (hk : k.natAbs ≤ 2 ^ 9) : gapBelow k ≤ 1 / 2 ^ 43 := by
  have hsmall : k.natAbs ≤ 2 ^ 53 := hk.trans (by decide)
  obtain ⟨hr, hround⟩ := Binary64.round_eq_of_le (m := false) hsmall
  have hunits := units_nearest_whole hsmall
  rw [gapBelow_eq hround]
  dsimp only
  generalize nearest (k.natAbs * unitsPerOne) 1 = r at *
  generalize hlower : (if 0 < k then r - 1 else r) = lower
  have hle : units lower ≤ k.natAbs * unitsPerOne := by
    rw [← hunits]
    refine units_strictMono.monotone ?_
    split at hlower <;> omega
  rw [perOne_eq]
  refine two_pow_binade_div_le (p := 9) (two_pow_binade_le lower) ?_ (by decide) (by decide)
  exact hle.trans (by rw [unitsPerOne_eq]; exact Nat.mul_le_mul_right _ hk)

/-- A magnitude whose logarithm rounds up to a power of ten of at most three digits is close to
that power. -/
theorem le_of_reachesDecade (hk : k.natAbs ≤ 2 ^ 9) (h : reachesDecade k r = true) :
    (10 : ℚ) ^ k * (1 - 1 / 2 ^ 42) ≤ magnitude r := by
  have hpower : (0 : ℚ) < 10 ^ k := zpow_pos (by norm_num) k
  have hln : lnTen ≤ 4 := by
    unfold lnTen
    norm_num
  have hln' : 0 ≤ lnTen := by
    unfold lnTen
    norm_num
  rw [reachesDecade, Bool.and_eq_true, decide_eq_true_eq, cast_unitsPerOne, ← magnitude] at h
  have hgap : gapBelow k * lnTen ≤ 1 / 2 ^ 43 * 4 := by
    calc gapBelow k * lnTen
        ≤ 1 / 2 ^ 43 * lnTen := mul_le_mul_of_nonneg_right (gapBelow_le hk) hln'
      _ ≤ 1 / 2 ^ 43 * 4 := by gcongr
  have hdistance : 2 * ((10 : ℚ) ^ k - magnitude r) ≤ 1 / 2 ^ 43 * 4 * 10 ^ k :=
    h.2.trans (mul_le_mul_of_nonneg_right hgap hpower.le)
  linarith

end Rank

namespace Binary64

variable {x : Binary64} {k : Int}

/-- The logarithm of a number that is neither too small nor too great, rounded down, is the exponent
of a power of ten that is at most a hair above the number, and whose next power is above it. -/
theorem floorLog10_spec {e : Nat} (hx : x.isFinite = true) (hwithin : WithinTen e x.value)
    (he : e ≤ 400) :
    ∃ k : Int, x.floorLog10 = ofInt k ∧ k.natAbs ≤ e + 1 ∧
      (10 : ℚ) ^ k * (1 - 1 / 2 ^ 42) ≤ x.value ∧ x.value < 10 ^ (k + 1) := by
  have hten : (1 : ℚ) < 10 := by norm_num
  have hpos := hwithin.pos
  obtain ⟨m, r, rfl⟩ := exists_eq_finite hx
  have hr : r.val ≠ 0 := fun hzero => by
    rw [value_finite, hzero, Rank.magnitude_zero, signed_zero] at hpos
    exact lt_irrefl _ hpos
  have hm : m = false := by
    cases m
    · rfl
    · rw [value_finite, signed, if_pos rfl] at hpos
      linarith [Rank.magnitude_nonneg r]
  subst hm
  have hvalue : (finite false r).value = Rank.magnitude r := value_finite false r
  rw [hvalue] at hwithin hpos ⊢
  obtain ⟨hdecade, hnext⟩ := Rank.decade_spec hr r.isLt
  have hcount := hwithin.natAbs_le (by linarith) hnext
  rw [floorLog10, if_neg hr, if_neg Bool.false_ne_true]
  dsimp only
  split
  case isTrue hreaches =>
    have hnear := Rank.le_of_reachesDecade (by omega) hreaches
    have hafter : Rank.magnitude r < 10 ^ (Rank.decade r + 1 + 1) :=
      hnext.trans ((zpow_lt_zpow_iff_right₀ hten).mpr (by omega))
    have hpower : (0 : ℚ) < 10 ^ (Rank.decade r + 1) := zpow_pos (by norm_num) _
    exact ⟨_, rfl, hwithin.natAbs_le (by linarith) hafter, hnear, hafter⟩
  case isFalse =>
    have hpower : (0 : ℚ) < 10 ^ Rank.decade r := zpow_pos (by norm_num) _
    exact ⟨_, rfl, hcount, by linarith, hnext⟩

/-! ### Powers of ten -/

/-- The next magnitude after one that is not too small is less than twice as great, and within one
factor. -/
theorem magnitude_succ_approx {r : Nat} (h : (2 : ℚ) ^ 52 ≤ Rank.units r) :
    (Rank.units (r + 1) : ℚ) < Rank.units r * 2 ∧
      Approx 1 (Rank.magnitude (r + 1)) (Rank.magnitude r) := by
  have hpower : (0 : ℚ) < 2 ^ Rank.binade r := pow_pos two_pos _
  have hspacing : (2 : ℚ) ^ Rank.binade r ≤ Rank.units r / 2 ^ 52 := by
    rw [le_div_iff₀ (by positivity)]
    rcases Rank.two_pow_binade_le r with hzero | hle
    · rw [hzero, pow_zero, one_mul]
      exact h
    · rw [mul_comm]
      exact_mod_cast hle
  have hunits : (Rank.units (r + 1) : ℚ) = Rank.units r + 2 ^ Rank.binade r := by
    rw [Rank.units_succ]
    push_cast
    rfl
  have hpos : (0 : ℚ) < Rank.units r := lt_of_lt_of_le (by positivity) h
  refine ⟨by linarith, ?_⟩
  rw [Rank.magnitude, Rank.magnitude, hunits]
  have hP := Rank.perOne_pos
  refine .of_le_of_le (div_pos hpos hP) ?_ ?_
  · gcongr
    linarith
  · rw [div_mul_eq_mul_div, ulpFactor]
    gcongr
    linarith

/-- The next double away from zero is within one factor. -/
theorem awayFromZero_approx (hx : x.isFinite = true) (hnormal : least ≤ |x.value|)
    (hbounded : |x.value| ≤ greatest) :
    x.awayFromZero.isFinite = true ∧ Approx 1 x.awayFromZero.value x.value := by
  obtain ⟨m, r, rfl⟩ := exists_eq_finite hx
  rw [value_finite, abs_signed, abs_of_nonneg (Rank.magnitude_nonneg r), Rank.magnitude] at *
  rw [le_div_iff₀ Rank.perOne_pos, least_mul_perOne] at hnormal
  rw [div_le_iff₀ Rank.perOne_pos, greatest_mul_perOne] at hbounded
  obtain ⟨hdouble, happrox⟩ := magnitude_succ_approx hnormal
  have hlimit : r.val + 1 < Rank.limit := by
    rw [← Rank.units_lt_units, Rank.units_limit]
    have hlt : (Rank.units (r.val + 1) : ℚ) < 2 ^ 2098 := by
      refine hdouble.trans_le ?_
      rw [pow_succ]
      exact mul_le_mul_of_nonneg_right hbounded zero_le_two
    exact_mod_cast hlt
  rw [awayFromZero, dif_pos hlimit]
  refine ⟨rfl, ?_⟩
  rw [value_finite, ← Rank.magnitude]
  cases m
  · exact happrox
  · exact happrox.neg

/-- A power of ten is a quotient of naturals. -/
theorem ten_zpow_natAbs (k : Int) :
    (10 : ℚ) ^ k =
      if k < 0 then ((1 : ℕ) : ℚ) / (10 ^ k.natAbs : ℕ) else (10 ^ k.natAbs : ℕ) / (1 : ℕ) := by
  split_ifs with hneg
  · have hk : k = -(k.natAbs : Int) := by omega
    conv_lhs => rw [hk]
    rw [zpow_neg, zpow_natCast]
    push_cast
    rw [one_div]
  · have hk : k = (k.natAbs : Int) := by omega
    conv_lhs => rw [hk]
    rw [zpow_natCast]
    push_cast
    rw [div_one]

/-- A power of ten is rounded once. -/
theorem tenTo_isNear (hk : k.natAbs ≤ 305) : (tenTo k).IsNear 1 (10 ^ k) := by
  have hrange := (IsModerate.of_within (.zpow k) hk).inRange (.refl _) (by decide)
  have hpower := ten_zpow_natAbs k
  rw [tenTo, if_neg (by omega), if_neg (by omega), Rank.natPow_eq]
  split_ifs at hpower ⊢ with hneg
  · rw [hpower] at hrange ⊢
    obtain ⟨hfinite, happrox⟩ := ofRatio_approx (m := false) (Nat.pow_pos (by decide)) hrange
    exact ⟨hfinite, happrox⟩
  · rw [hpower] at hrange ⊢
    obtain ⟨hfinite, happrox⟩ := ofRatio_approx (m := false) one_pos hrange
    exact ⟨hfinite, happrox⟩

/-- With a whole double as the exponent it is within two factors. -/
theorem tenToThe_isNear (hx : x.IsNear 0 k) (hk : k.natAbs ≤ 305) :
    x.tenToThe.IsNear 2 (10 ^ k) := by
  have hten := tenTo_isNear hk
  have hindex : x.toInt64 = k := toInt64_eq hx.finite hx.value_eq (by omega)
  obtain ⟨n, s, hs⟩ := exists_eq_finite hten.finite
  have hthe : x.tenToThe = finite n s ∨ x.tenToThe = (finite n s).awayFromZero := by
    obtain ⟨m, r, rfl⟩ := exists_eq_finite hx.finite
    simp only [tenToThe, hindex, hs]
    split
    · exact .inr rfl
    · exact .inl rfl
  rw [hs] at hten
  rcases hthe with hthe | hthe
  · rw [hthe]
    exact hten.mono (by decide)
  · have hpower : (0 : ℚ) < 10 ^ k := zpow_pos (by norm_num) k
    have hrange := (IsModerate.of_within (.zpow k) hk).inRange hten.approx (by decide)
    have hpositive : 0 < (finite n s).value := by
      linarith [(hten.approx.bounds (by decide) hpower.le).1]
    have hnormal := hrange.normal.resolve_left hpositive.ne'
    obtain ⟨haway, happrox⟩ := awayFromZero_approx hten.finite hnormal hrange.bounded
    rw [hthe]
    exact ⟨haway, happrox.trans hten.approx⟩

/-! ### Powers by repeated squaring -/

/-- What products add up, repeated squaring multiplies by the exponent. -/
theorem squaring_induction {P : Nat → Binary64 → Prop} {bound fuel n a b : Nat}
    {base acc : Binary64}
    (hmul : ∀ ⦃a b x y⦄, P a x → P b y → a + b ≤ bound → P (a + b) (x * y))
    (hfuel : n < fuel) (hb : 0 < b) (hbase : P b base) (hacc : P a acc)
    (hbound : a + n * b ≤ bound) : P (a + n * b) (squaring fuel base n acc) := by
  induction fuel generalizing n a b base acc with
  | zero => omega
  | succ fuel ih =>
    have hsplit : n = 2 * (n / 2) + n % 2 := (Nat.div_add_mod n 2).symm
    have hexponent : a + n * b = a + n % 2 * b + n / 2 * (b + b) := by
      conv_lhs => rw [hsplit]
      ring
    rw [hexponent] at hbound ⊢
    -- the accumulator takes the base once if the exponent is odd
    have hnext : P (a + n % 2 * b) (if n % 2 = 1 then acc * base else acc) := by
      rcases Nat.mod_two_eq_zero_or_one n with heven | hodd
      · simpa [heven] using hacc
      · have hproduct := hmul hacc hbase (by rw [hodd] at hbound; omega)
        simpa [hodd] using hproduct
    rw [squaring]
    generalize (if n % 2 = 1 then acc * base else acc) = next at *
    split_ifs with hlast
    · rwa [hlast, zero_mul, add_zero]
    · have hle : 1 * (b + b) ≤ n / 2 * (b + b) := Nat.mul_le_mul_right _ (Nat.pos_of_ne_zero hlast)
      exact ih (by omega) (by omega) (hmul hbase hbase (by omega)) hnext hbound

/-- Repeated squaring adds a factor for each unit of the exponent, and one more for each factor of
the base; nothing on the way is greater than the result. -/
theorem squaring_isNear {fuel n a b : Nat} {base acc : Binary64} {B A : ℚ} (hfuel : n < fuel)
    (hbase : base.IsNear b B) (hB : 1 ≤ B) (hacc : acc.IsNear a A) (hA : 1 ≤ A)
    (hcount : a + n * (b + 1) ≤ 1000) (hbound : A * B ^ n ≤ 10 ^ 305) :
    (squaring fuel base n acc).IsNear (a + n * (b + 1)) (A * B ^ n) := by
  induction fuel generalizing n a b base acc B A with
  | zero => omega
  | succ fuel ih =>
    have hsplit : 2 * (n / 2) + n % 2 = n := Nat.div_add_mod n 2
    -- the accumulator takes the base once if the exponent is odd
    have hnext : (if n % 2 = 1 then acc * base else acc).IsNear (a + n % 2 * (b + 1))
        (A * B ^ (n % 2)) := by
      rcases Nat.mod_two_eq_zero_or_one n with heven | hodd
      · simpa [heven] using hacc
      · have hle : A * B ≤ A * B ^ n := by
          gcongr
          exact le_self_pow₀ hB (by omega)
        have hrange : IsModerate (A * B) :=
          .of_within (.of_one_le (one_le_mul_of_one_le_of_one_le hA hB) (hle.trans hbound)) le_rfl
        have hcount' : a + b ≤ 1000 := by
          have : 1 * (b + 1) ≤ n * (b + 1) := Nat.mul_le_mul_right _ (by omega)
          omega
        simpa [hodd, add_assoc] using hacc.mul hbase hcount' hrange
    rw [squaring]
    generalize (if n % 2 = 1 then acc * base else acc) = next at *
    split_ifs with hlast
    · have hn : n % 2 = n := by omega
      rwa [hn] at hnext
    · have hle : B * B ≤ A * B ^ n := by
        calc B * B = B ^ 2 := (sq B).symm
          _ ≤ B ^ n := pow_le_pow_right₀ hB (by omega)
          _ ≤ A * B ^ n := le_mul_of_one_le_left (by positivity) hA
      have hcount' : b + b ≤ 1000 := by
        have : 2 * (b + 1) ≤ n * (b + 1) := Nat.mul_le_mul_right _ (by omega)
        omega
      have hsquare := hbase.mul hbase hcount'
        (.of_within (.of_one_le (one_le_mul_of_one_le_of_one_le hB hB) (hle.trans hbound)) le_rfl)
      have hpower : A * B ^ (n % 2) * (B * B) ^ (n / 2) = A * B ^ n := by
        rw [mul_assoc, ← sq, ← pow_mul, ← pow_add, Nat.add_comm, hsplit]
      have hfactors : a + n % 2 * (b + 1) + n / 2 * (b + b + 1 + 1) = a + n * (b + 1) := by
        calc a + n % 2 * (b + 1) + n / 2 * (b + b + 1 + 1)
            = a + (2 * (n / 2) + n % 2) * (b + 1) := by ring
          _ = a + n * (b + 1) := by rw [hsplit]
      have hone : 1 ≤ A * B ^ (n % 2) := one_le_mul_of_one_le_of_one_le hA (one_le_pow₀ hB)
      have hrest := ih (n := n / 2) (by omega) hsquare (one_le_mul_of_one_le_of_one_le hB hB) hnext
        hone (hfactors ▸ hcount) (hpower ▸ hbound)
      rwa [hpower, hfactors] at hrest

/-- Ten to the power of `n` by repeated squaring is within `n` factors. -/
theorem power_isNear {n : Nat} (hn : n ≤ 305) : (power 10 n).IsNear n (10 ^ n) := by
  have hten : (10 : Binary64).IsNear 0 10 := by
    have h := ofNat_isNear (n := 10) (by decide)
    rwa [Nat.cast_ofNat] at h
  have hone : (1 : Binary64).IsNear 0 1 := by
    have h := ofNat_isNear (n := 1) (by decide)
    rwa [Nat.cast_one] at h
  have hbound : (1 : ℚ) * 10 ^ n ≤ 10 ^ 305 := by
    rw [one_mul]
    exact pow_le_pow_right₀ (by norm_num) hn
  have hpower := squaring_isNear (Nat.lt_succ_self n) hten (by norm_num) hone le_rfl (by omega)
    hbound
  rwa [one_mul, Nat.zero_add, Nat.zero_add, Nat.mul_one] at hpower

end Binary64

end RiskBoard
