import RiskBoard.Proofs.Binary64.PowersOfTwo
import RiskBoard.Proofs.Display.Digits

/-!
# Numbers at fixed places

A finite double is written as the multiple of `10^-places` nearest to its exact value, and a tie
should go to the greater magnitude. Digits alone would go to the even one, so in place of a tie
`Display.untied` takes the next double up.

That a tie is told apart is right throughout: scaling by a power of two is exact, and what lies
halfway between two multiples of `10^-places` is an odd multiple of `2^-(places + 1)`
(`Display.isTie_iff`). That the next double is rounded to the same multiple needs it to be less than
one multiple further up, and doubles of sixteen digits can be further apart than that. So what is
written is right unless the number is a tie and the doubles at it are that far apart
(`Display.fixedChars_isRounded_iff`): `562949953421312.25` at one place ends in `.4`.
-/

namespace RiskBoard

namespace Binary64

/-- The distance from a finite double to the next one away from zero. -/
def spacing : Binary64 → ℚ
  | .finite _ r => Rank.magnitude (r + 1) - Rank.magnitude r
  | _ => 0

/-- The spacing at a double is that of its binade. -/
theorem spacing_finite (m : Bool) (r : Fin Rank.limit) :
    (finite m r).spacing = 2 ^ Rank.binade r / Rank.perOne := by
  rw [spacing, Rank.magnitude, Rank.magnitude, Rank.units_succ, ← sub_div, Nat.cast_add,
    add_sub_cancel_left, Nat.cast_pow, Nat.cast_ofNat]

end Binary64

namespace Display

open Binary64

/-! ### What is read -/

section Reading

variable {cs fraction : List Char}

/-- The digits of a text as a number, with as many fraction digits as stand behind the point. -/
def reading (cs : List Char) : ℚ :=
  Nat.ofDigitChars 10 (cs.filter Char.isDigit) 0 / 10 ^ (cs.dropWhile (· != '.')).tail.length

theorem reading_whole (h : IsDigits cs) : reading cs = Nat.ofDigitChars 10 cs 0 := by
  rw [reading, List.filter_eq_self.mpr h.isDigit, List.dropWhile_eq_nil_iff.mpr h.ne_point,
    List.tail_nil, List.length_nil, pow_zero, div_one]

/-- Digits around a point are read as one number of units of the last place. -/
theorem reading_point (h : IsDigits cs) (hfraction : IsDigits fraction) :
    reading (cs ++ '.' :: fraction) =
      (10 ^ fraction.length * Nat.ofDigitChars 10 cs 0 + Nat.ofDigitChars 10 fraction 0 : ℕ) /
        10 ^ fraction.length := by
  rw [reading, List.filter_append, List.filter_cons_of_neg (by decide),
    List.filter_eq_self.mpr h.isDigit, List.filter_eq_self.mpr hfraction.isDigit,
    List.dropWhile_append_of_pos h.ne_point, List.dropWhile_cons_of_neg (by decide),
    List.tail_cons, Nat.ofDigitChars_append, Nat.ofDigitChars_eq_ofDigitChars_zero]

/-- Zeros in front do not change a number. -/
theorem ofDigitChars_padded (width n : ℕ) :
    Nat.ofDigitChars 10 (Decimal.padded width n) 0 = n := by
  rw [Decimal.padded, Nat.ofDigitChars_append, Nat.ofDigitChars_replicate_zero, mul_zero,
    Nat.ofDigitChars_toDigits (by decide) le_rfl]

/-- A count of multiples of `10^-places` is read back as that many. -/
theorem reading_withPlaces (places n : ℕ) :
    reading (Decimal.withPlaces places n) = n / 10 ^ places := by
  rw [Decimal.withPlaces]
  split_ifs with hzero
  · rw [reading_whole (isDigits_toDigits n), Nat.ofDigitChars_toDigits (by decide) le_rfl, hzero,
      pow_zero, div_one]
  · have hlength : (Decimal.padded places (n % Nat.pow 10 places)).length = places :=
      length_padded (Nat.pos_of_ne_zero hzero) (Nat.mod_lt _ (Nat.pow_pos (by decide)))
    rw [reading_point (isDigits_toDigits _) (isDigits_padded _ _), hlength, ofDigitChars_padded,
      Nat.ofDigitChars_toDigits (by decide) le_rfl, Rank.natPow_eq, Nat.div_add_mod]

end Reading

/-! ### Rounding -/

section Rounding

variable {places n : ℕ} {q p : ℚ}

/-- The multiple of `10^-places` nearest to a number, the greater of two. -/
structure IsRounded (places : ℕ) (q p : ℚ) : Prop where
  isMultiple : ∃ i : ℤ, p = i / 10 ^ places
  nearest : ∀ i : ℤ, |q - p| ≤ |q - i / 10 ^ places|
  greater : ∀ i : ℤ, |q - i / 10 ^ places| = |q - p| → i / 10 ^ places ≤ p

/-- A number in the middle between two multiples of `10^-places`. -/
def IsHalfway (places : ℕ) (q : ℚ) : Prop := ∃ n : ℕ, q * 10 ^ places = n + 1 / 2

/-- A number of units is rounded to if it is the nearest, and of two the upper one. -/
theorem isRounded_iff : IsRounded places q (n / 10 ^ places) ↔
    n - 1 / 2 ≤ q * 10 ^ places ∧ q * 10 ^ places < n + 1 / 2 := by
  have hten : (0 : ℚ) < 10 ^ places := by positivity
  -- in counts of `10^-places` the multiples are the integers
  have hscale : ∀ i : ℚ, |q - i / 10 ^ places| = |q * 10 ^ places - i| / 10 ^ places := by
    intro i
    have hdifference : q - i / 10 ^ places = (q * 10 ^ places - i) / 10 ^ places := by field_simp
    rw [hdifference, abs_div, abs_of_pos hten]
  generalize hs : q * 10 ^ places = s at *
  constructor
  · rintro ⟨-, hnearest, hgreater⟩
    simp only [hscale, div_le_div_iff_of_pos_right hten] at hnearest
    simp only [hscale, div_le_div_iff_of_pos_right hten, div_left_inj' hten.ne'] at hgreater
    have hbelow := hnearest (n - 1)
    have habove := hnearest (n + 1)
    have hnext := hgreater (n + 1)
    push_cast at hbelow habove hnext
    constructor
    · by_contra! hlow
      have hcloser : |s - (n - 1)| < |s - n| := by
        refine abs_lt.mpr ⟨?_, ?_⟩ <;> linarith [neg_le_abs (s - n)]
      exact absurd hbelow (not_le.mpr hcloser)
    · by_contra! hhigh
      have hcloser : |s - (n + 1)| ≤ |s - n| := by
        refine abs_le.mpr ⟨?_, ?_⟩ <;> linarith [le_abs_self (s - n)]
      linarith [hnext (le_antisymm hcloser habove)]
  · rintro ⟨hlow, hhigh⟩
    have hhalf : |s - n| ≤ 1 / 2 := abs_le.mpr ⟨by linarith, by linarith⟩
    refine ⟨⟨n, by rw [Int.cast_natCast]⟩, fun i => ?_, fun i hi => ?_⟩
    · rw [hscale, hscale, div_le_div_iff_of_pos_right hten]
      rcases eq_or_ne i n with rfl | hne
      · rw [Int.cast_natCast]
      · -- different integers are at least one apart
        have hstep : (1 : ℚ) ≤ |(i : ℚ) - n| := by
          exact_mod_cast Int.one_le_abs (sub_ne_zero.mpr hne)
        have htriangle := abs_sub_le (i : ℚ) s n
        rw [abs_sub_comm (i : ℚ) s] at htriangle
        linarith
    · rw [hscale, hscale, div_left_inj' hten.ne'] at hi
      rw [div_le_div_iff_of_pos_right hten]
      by_contra! hlt
      have hnext : (n : ℚ) + 1 ≤ i := by
        have : (n : ℤ) < i := by exact_mod_cast hlt
        exact_mod_cast this
      linarith [neg_le_abs (s - i)]

/-- A number that is moved up from a tie is rounded like the tie if it moves by less than one. -/
private theorem rounds_up_iff {s gap : ℚ} {j : ℕ} (hs : s = j + 1 / 2) (hgap : 0 < gap)
    (hne : gap ≠ 1) (hround : |(n : ℚ) - (s + gap)| ≤ 1 / 2) :
    (n - 1 / 2 ≤ s ∧ s < n + 1 / 2) ↔ gap < 1 := by
  obtain ⟨hlow, hhigh⟩ := abs_le.mp hround
  constructor
  · rintro ⟨hbelow, -⟩
    exact lt_of_le_of_ne (by linarith) hne
  · intro hlt
    have hnj : (n : ℚ) ≤ j + 1 := by
      have : (n : ℚ) < j + 2 := by linarith
      have : n < j + 2 := by exact_mod_cast this
      exact_mod_cast Nat.le_of_lt_succ this
    constructor <;> linarith

end Rounding

/-! ### Ties -/

section Ties

variable {places r : ℕ} {x : Binary64}

/-- Powers of five keep the odd multiples of a power of two, in either direction. -/
private theorem odd_five_pow_iff (p : ℕ) {u e : ℕ} :
    (∃ w, Odd w ∧ u * 5 ^ p = w * 2 ^ e) ↔ ∃ w, Odd w ∧ u = w * 2 ^ e := by
  have hfive : Odd (5 ^ p) := Odd.pow (by decide)
  constructor
  · rintro ⟨w, hw, hmul⟩
    have hcoprime : Nat.Coprime (5 ^ p) (2 ^ e) := Nat.Coprime.pow _ _ (by decide)
    obtain ⟨v, rfl⟩ := hcoprime.dvd_of_dvd_mul_right (hmul ▸ Nat.dvd_mul_left _ _)
    refine ⟨v, (Nat.odd_mul.mp hw).2, Nat.eq_of_mul_eq_mul_right hfive.pos ?_⟩
    rw [hmul]
    ring
  · rintro ⟨w, hw, rfl⟩
    exact ⟨w * 5 ^ p, hw.mul hfive, by ring⟩

/-- The ties are the odd multiples of `2^-(places + 1)`. -/
theorem isHalfway_magnitude : IsHalfway places (Rank.magnitude r) ↔
    ∃ w : ℕ, Odd w ∧ Rank.magnitude r * 2 ^ (places + 1) = w := by
  -- both sides are read in units, where halves are odd multiples
  have hunits : ∀ w : ℕ, Rank.magnitude r * 2 ^ (places + 1) = w ↔
      Rank.units r * 2 ^ (places + 1) = w * 2 ^ 1074 := by
    intro w
    rw [Rank.magnitude, div_mul_eq_mul_div, div_eq_iff Rank.perOne_pos.ne', Rank.perOne_eq]
    generalize 1074 = e
    exact_mod_cast Iff.rfl
  have hhalf : ∀ n : ℕ, Rank.magnitude r * 10 ^ places = n + 1 / 2 ↔
      Rank.units r * 2 ^ (places + 1) * 5 ^ places = (2 * n + 1) * 2 ^ 1074 := by
    intro n
    have hsplit : Rank.magnitude r * 10 ^ places = n + 1 / 2 ↔
        Rank.magnitude r * 2 ^ (places + 1) * 5 ^ places = 2 * n + 1 := by
      rw [show (10 : ℚ) = 2 * 5 by norm_num, mul_pow, pow_succ]
      constructor <;> intro h <;> linarith
    rw [hsplit, Rank.magnitude, div_mul_eq_mul_div, div_mul_eq_mul_div,
      div_eq_iff Rank.perOne_pos.ne', Rank.perOne_eq]
    generalize 1074 = e
    exact_mod_cast Iff.rfl
  rw [exists_congr fun w => and_congr_right fun _ => hunits w, ← odd_five_pow_iff places]
  constructor
  · rintro ⟨n, hn⟩
    exact ⟨2 * n + 1, odd_two_mul_add_one n, (hhalf n).mp hn⟩
  · rintro ⟨_, ⟨n, rfl⟩, hw⟩
    exact ⟨n, (hhalf n).mpr hw⟩

/-- **Ties are told apart.** -/
theorem isTie_iff (hx : x.isFinite = true) (hplaces : places ≤ 1022) :
    isTie places x = true ↔ IsHalfway places |x.value| := by
  rw [isTie, isOdd_mul_two_pow_iff hx (power_two (by omega))]
  obtain ⟨m, r, rfl⟩ := exists_eq_finite hx
  rw [abs_value_finite, isHalfway_magnitude]

/-- Doubles next to a tie are never exactly one multiple of `10^-places` apart. -/
private theorem spacing_ne_one {m : Bool} {r : Fin Rank.limit}
    (h : Rank.binade r + (places + 1) ≤ 1074) : (finite m r).spacing * 10 ^ places ≠ 1 := by
  rw [spacing_finite, div_mul_eq_mul_div, Ne, div_eq_iff Rank.perOne_pos.ne', one_mul,
    Rank.perOne_eq, show (10 : ℚ) = 2 * 5 by norm_num, mul_pow, ← mul_assoc, ← pow_add, mul_comm]
  intro hone
  have hunits : 1 * 2 ^ 1074 = 5 ^ places * 2 ^ (Rank.binade r + places) := by
    generalize 1074 = e at hone ⊢
    rw [one_mul]
    exact_mod_cast hone.symm
  have hle := le_of_odd_mul (Odd.pow (by decide)) hunits
  omega

/-- A tie is never the last double. -/
private theorem awayFromZero_of_tie {m : Bool} {r : Fin Rank.limit}
    (h : Rank.binade r + (places + 1) ≤ 1074) :
    ∃ hr, (finite m r).awayFromZero = finite m ⟨r + 1, hr⟩ := by
  have hlimit : r.val + 1 < Rank.limit := by
    rw [← Rank.units_lt_units, Rank.units_limit, Rank.units_succ, Rank.units, Rank.natPow_eq,
      ← add_one_mul]
    calc (Rank.significand r + 1) * 2 ^ Rank.binade r
        ≤ 2 ^ 53 * 2 ^ Rank.binade r := Nat.mul_le_mul_right _ (Rank.significand_lt r)
      _ = 2 ^ (53 + Rank.binade r) := (pow_add ..).symm
      _ < 2 ^ 2098 := pow_lt_pow_right₀ one_lt_two (by omega)
  exact ⟨hlimit, dif_pos hlimit⟩

/-- In place of a tie stands the next double, and every other magnitude stays. -/
theorem exists_untied (r : Fin Rank.limit) (hplaces : places ≤ 1022) :
    ∃ s : Fin Rank.limit, untied places (finite false r) = finite false s ∧
      (s = r ∨ s.val = r.val + 1) := by
  rw [untied]
  split_ifs with htie
  · have hhalf := (isTie_iff (x := finite false r) rfl hplaces).mp htie
    rw [abs_value_finite] at hhalf
    obtain ⟨w, hw, hscaled⟩ := isHalfway_magnitude.mp hhalf
    obtain ⟨hr, haway⟩ := awayFromZero_of_tie (m := false) (bounds_of_odd hw hscaled).1
    exact ⟨_, haway, .inr rfl⟩
  · exact ⟨r, rfl, .inl rfl⟩

end Ties

/-! ### What is written -/

section Written

variable {places : ℕ} {x : Binary64}

/-- The exact value is rounded to units by at most a half. -/
theorem abs_scaled_sub_le (places r : ℕ) :
    |(Decimal.Fixed.scaled places r : ℚ) - Rank.magnitude r * 10 ^ places| ≤ 1 / 2 := by
  have hround := Rank.abs_halfEven_sub_le (Rank.units r * Nat.pow 10 places) Rank.unitsPerOne_pos
  rw [Rank.natPow_eq, Nat.cast_mul, Rank.cast_unitsPerOne, mul_div_right_comm, Nat.cast_pow,
    Nat.cast_ofNat] at hround
  exact hround

/-- The count of `10^-places` that is written for a magnitude. -/
theorem exists_fixed_untied {r : Fin Rank.limit} (hplaces : places ≤ 1022) :
    ∃ n : ℕ, Decimal.fixed places (untied places (finite false r)) =
        Decimal.withPlaces places n ∧
      (IsRounded places (Rank.magnitude r) (n / 10 ^ places) ↔
        ¬ (IsHalfway places (Rank.magnitude r) ∧ 1 ≤ (finite false r).spacing * 10 ^ places)) := by
  have htie := isTie_iff (x := finite false r) rfl hplaces
  rw [abs_value_finite] at htie
  by_cases hhalf : IsHalfway places (Rank.magnitude r)
  · obtain ⟨w, hw, hscaled⟩ := isHalfway_magnitude.mp hhalf
    have hbinade := (bounds_of_odd hw hscaled).1
    obtain ⟨hr, haway⟩ := awayFromZero_of_tie (m := false) hbinade
    refine ⟨Decimal.Fixed.scaled places (r + 1), ?_, ?_⟩
    · rw [untied, if_pos (htie.mpr hhalf), haway, fixed_finite]
    obtain ⟨j, hj⟩ := hhalf
    have hspacing : (finite false r).spacing =
        Rank.magnitude (r + 1) - Rank.magnitude r := rfl
    have hgap : 0 < (finite false r).spacing * 10 ^ places := by
      rw [spacing_finite]
      have := Rank.perOne_pos
      positivity
    have hround := abs_scaled_sub_le places (r + 1)
    have hmoved : Rank.magnitude (r + 1) * 10 ^ places =
        Rank.magnitude r * 10 ^ places + (finite false r).spacing * 10 ^ places := by
      rw [hspacing]
      ring
    rw [hmoved] at hround
    rw [isRounded_iff, rounds_up_iff hj hgap (spacing_ne_one hbinade) hround, not_and, not_le]
    exact ⟨fun h _ => h, fun h => h ⟨j, hj⟩⟩
  · refine ⟨Decimal.Fixed.scaled places r, ?_, ?_⟩
    · rw [untied, if_neg (mt htie.mp hhalf), fixed_finite]
    obtain ⟨hlow, hhigh⟩ := abs_le.mp (abs_scaled_sub_le places r)
    refine iff_of_true (isRounded_iff.mpr ⟨by linarith, ?_⟩) fun h => hhalf h.1
    refine lt_of_le_of_ne (by linarith) fun heq => hhalf ⟨_, heq⟩

/-- **What is written is right but at a tie where doubles are far apart.** A finite double is
written with the given number of fraction digits, behind a minus exactly if it is negative. The
number written is the multiple of `10^-places` nearest to its exact magnitude, and the greater one
at a tie, unless it is a tie and the next double is a multiple or more away. -/
theorem fixedChars_isRounded_iff (hx : x.isFinite = true) (hplaces : places ≤ 1022) :
    ∃ cs, fixedChars places x = Decimal.signed (decide (x.value < 0)) cs ∧
      HasPlaces IsDigits places cs ∧
      (IsRounded places |x.value| (reading cs) ↔
        ¬ (IsHalfway places |x.value| ∧ 1 ≤ x.spacing * 10 ^ places)) := by
  rw [fixedChars, isNegative_eq hx]
  refine ⟨_, rfl, ?_⟩
  obtain ⟨m, r, rfl⟩ := exists_eq_finite hx
  obtain ⟨n, hfixed, hround⟩ := exists_fixed_untied (r := r) hplaces
  have hspacing : (finite m r).spacing = (finite false r).spacing := rfl
  have habs : (finite m r).abs = finite false r := rfl
  rw [abs_value_finite, hspacing, habs, hfixed,
    reading_withPlaces]
  exact ⟨hasPlaces_withPlaces places n, hround⟩

/-- A quarter. -/
def quarter : Binary64 := .finite false ⟨4598175219545276416, by decide⟩

/-- A quarter is a tie at one place, and is written as three tenths. -/
theorem fixedChars_isRounded_quarter : quarter.isFinite = true ∧ 1 ≤ 1022 ∧
    IsHalfway 1 |quarter.value| ∧ fixedChars 1 quarter = ['0', '.', '3'] ∧
    IsRounded 1 |quarter.value| (reading ['0', '.', '3']) := by
  have hvalue : quarter.value = 1 / 4 := by decide +kernel
  have hspacing : quarter.spacing < 1 / 10 := by decide +kernel
  have hwritten : fixedChars 1 quarter = ['0', '.', '3'] := by decide +kernel
  have hhalf : IsHalfway 1 |quarter.value| := ⟨2, by rw [hvalue]; norm_num [abs_of_pos]⟩
  obtain ⟨cs, hcs, -, hround⟩ := @fixedChars_isRounded_iff 1 quarter rfl (by decide)
  have hdigits : cs = ['0', '.', '3'] := by
    rw [hwritten, hvalue, Decimal.signed, if_neg (by norm_num)] at hcs
    exact hcs.symm
  refine ⟨rfl, by decide, hhalf, hwritten, ?_⟩
  rw [← hdigits]
  exact hround.mpr fun h => by linarith [h.2]

/-- A tie at one place, where doubles are an eighth apart: `562949953421312.25`. -/
def coarseTie : Binary64 := .finite false ⟨4827858800541171714, by decide⟩

/-- Its first fraction digit is one too high: three tenths are nearer than four. -/
theorem fixedChars_coarseTie : coarseTie.value = 562949953421312 + 1 / 4 ∧
    fixed 1 coarseTie = "562949953421312.4" ∧ year coarseTie = "562949953421312.4Y" ∧
    ¬ IsRounded 1 |coarseTie.value| (reading (fixedChars 1 coarseTie)) := by
  have hvalue : coarseTie.value = 562949953421312 + 1 / 4 := by decide +kernel
  have hreading : reading (fixedChars 1 coarseTie) = 5629499534213124 / 10 := by decide +kernel
  refine ⟨hvalue, by decide +kernel, by decide +kernel, fun h => ?_⟩
  have hnearest := h.nearest 5629499534213123
  rw [hvalue, hreading] at hnearest
  norm_num [abs_of_pos, abs_of_neg] at hnearest

end Written

end Display

end RiskBoard
