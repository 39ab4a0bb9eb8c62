import RiskBoard.Proofs.Chart.RoundStep

/-!
# The ticks of a value axis

A range is resolved when its spread is neither too small nor too great, also next to the values in
it (`Axis.IsResolved`). On a step not much less than the tenth of its spread, a resolved range takes
the spaces that it would take in exact arithmetic, or up to two more (`IsResolved.exists_isGrid`).
So the step that is tried first leaves at most two spaces too many. If it leaves any, then the next
step is at least twice as great, and leaves none (`IsResolved.step_spec`).

The tick with an index is within a quarter of a step of that multiple of the step
(`Axis.tickValue_spec`), so ticks increase. A flat range is widened, which makes a resolved range of
it unless its value is too small or too great (`isResolved_ends_of_flat`).
-/

namespace RiskBoard.Axis

open Binary64

variable {x low high step : Binary64} {q : ℚ} {i : Int}

/-! ### The arithmetic of doubles

The operations are named as functions, since an application of them would be evaluated. -/

/-- On doubles the algorithm uses their own operations, beginning with the one from integers. -/
theorem ofInt_eq : (AxisNumber.ofInt : Int → Binary64) = ofInt := rfl

theorem twentieth_eq : (AxisNumber.twentieth : Binary64) = ofRatio false 1 20 := rfl

theorem same_eq : (AxisNumber.same : Binary64 → Binary64 → Bool) = same := rfl

theorem abs_eq : (AxisNumber.abs : Binary64 → Binary64) = abs := rfl

theorem floor_eq : (AxisNumber.floor : Binary64 → Binary64) = floor := rfl

theorem ceil_eq : (AxisNumber.ceil : Binary64 → Binary64) = ceil := rfl

theorem round_eq : (AxisNumber.round : Binary64 → Binary64) = roundHalfAway := rfl

theorem index_eq : (AxisNumber.index : Binary64 → Int) = toInt64 := rfl

/-! ### Indices -/

/-- The quotient of a number by a step is off by very little, also where it is too small to be held
with full precision. -/
theorem quotient_error (hx : x.isFinite = true) (hstep : step.IsNear 3 q) (hq : 0 < q)
    (hbound : |x.value| ≤ q * 20000000000) :
    (x / step).isFinite = true ∧ |(x / step).value - x.value / q| ≤ 1 / 100 := by
  have hpositive : 0 < step.value := by
    linarith [(hstep.approx.bounds (by decide) hq.le).1]
  have hratio : |x.value / q| ≤ 20000000000 := by
    rw [abs_div, abs_of_pos hq, div_le_iff₀ hq, mul_comm]
    exact hbound
  have happrox := ((Approx.refl x.value).div hstep.approx).abs_sub_le_of_le (by decide)
  have hquotient : |x.value / step.value| ≤ 20000000001 := by
    have := abs_sub_abs_le_abs_sub (x.value / step.value) (x.value / q)
    linarith
  have hgreatest : (20000000001 : ℚ) ≤ greatest :=
    le_trans (by norm_num : _ ≤ (10 : ℚ) ^ 11)
      ((pow_le_pow_right₀ (by norm_num) (by decide)).trans WithinTen.ten_pow_le_greatest)
  obtain ⟨hfinite, herror⟩ := div_error hx hstep.finite hpositive.ne' (hquotient.trans hgreatest)
  refine ⟨hfinite, ?_⟩
  calc |(x / step).value - x.value / q|
      ≤ |(x / step).value - x.value / step.value| + |x.value / step.value - x.value / q| :=
        abs_sub_le ..
    _ ≤ 1 / 100 := by linarith

/-- A range whose spread is neither too small nor too great, also next to the values in it. -/
structure IsResolved (low high : Binary64) : Prop where
  low_isFinite : low.isFinite = true
  high_isFinite : high.isFinite = true
  spread : WithinTen 292 (high.value - low.value)
  low_le : |low.value| ≤ (high.value - low.value) * 1000000000
  high_le : |high.value| ≤ (high.value - low.value) * 1000000000

/-- On a step that stands for `q`, a range goes from the index `a` to the index `b`. -/
structure IsGrid (step low high : Binary64) (q : ℚ) (a b : Int) : Prop where
  step_isNear : step.IsNear 3 q
  first_isNear : (low / step).floor.IsNear 0 a
  last_isNear : (high / step).ceil.IsNear 0 b
  natAbs_first_le : a.natAbs ≤ 20000000000
  natAbs_last_le : b.natAbs ≤ 20000000000

/-- Indices are small: an integer next to a quotient that is close to a small number. -/
private theorem natAbs_le_of_near {v w : ℚ} (hw : |w| ≤ 12000000000) (hv : |v - w| ≤ 1 / 100)
    (hi : |(i : ℚ) - v| ≤ 1) : i.natAbs ≤ 20000000000 := by
  rw [abs_le] at hw hv hi
  have hbounds : (-12000000002 : ℚ) ≤ i ∧ (i : ℚ) ≤ 12000000002 := ⟨by linarith, by linarith⟩
  have hbounds' : -12000000002 ≤ i ∧ i ≤ 12000000002 := by exact_mod_cast hbounds
  omega

/-- On a step that is not much less than the tenth of its spread, a resolved range takes the spaces
that it would take in exact arithmetic, or up to two more. -/
theorem IsResolved.exists_isGrid (h : IsResolved low high) (hstep : step.IsNear 3 q) (hq : 0 < q)
    {l n : Int} (hn : n ≤ 10) (hleast : l * q ≤ high.value - low.value)
    (hmost : high.value - low.value ≤ (n + 9 / 10) * q) :
    ∃ a b : Int, IsGrid step low high q a b ∧ a + l ≤ b ∧ b ≤ a + n + 2 := by
  have hlow_le := h.low_le
  have hhigh_le := h.high_le
  have hn' : (n : ℚ) ≤ 10 := by exact_mod_cast hn
  have hspread : high.value - low.value ≤ 11 * q := by nlinarith
  obtain ⟨hlow, hlowerror⟩ := quotient_error h.low_isFinite hstep hq (by linarith)
  obtain ⟨hhigh, hhigherror⟩ := quotient_error h.high_isFinite hstep hq (by linarith)
  have hlowratio : |low.value / q| ≤ 12000000000 := by
    rw [abs_div, abs_of_pos hq, div_le_iff₀ hq]
    linarith
  have hhighratio : |high.value / q| ≤ 12000000000 := by
    rw [abs_div, abs_of_pos hq, div_le_iff₀ hq]
    linarith
  rw [← le_div_iff₀ hq, sub_div] at hleast
  rw [← div_le_iff₀ hq, sub_div] at hmost
  have hfloor := floor_isNear hlow
  have hceil := ceil_isNear hhigh
  have hfloorle := Int.floor_le (low / step).value
  have hltfloor := Int.lt_floor_add_one (low / step).value
  have hleceil := Int.le_ceil (high / step).value
  have hceillt := Int.ceil_lt_add_one (high / step).value
  generalize ⌊(low / step).value⌋ = a at *
  generalize ⌈(high / step).value⌉ = b at *
  have ha : a.natAbs ≤ 20000000000 :=
    natAbs_le_of_near hlowratio hlowerror (abs_le.mpr ⟨by linarith, by linarith⟩)
  have hb : b.natAbs ≤ 20000000000 :=
    natAbs_le_of_near hhighratio hhigherror (abs_le.mpr ⟨by linarith, by linarith⟩)
  rw [abs_le] at hlowerror hhigherror
  have hspaces : (a : ℚ) + l < b + 1 ∧ (b : ℚ) < a + n + 3 := ⟨by linarith, by linarith⟩
  have hspaces' : a + l < b + 1 ∧ b < a + n + 3 := by exact_mod_cast hspaces
  exact ⟨a, b, ⟨hstep, hfloor, hceil, ha, hb⟩, by omega, by omega⟩

/-! ### The step of an axis -/

/-- With the budget of a chart there are at most ten spaces. -/
theorem maxSpaces_isNear : (maxSpaces 11 : Binary64).IsNear 0 (10 : Int) :=
  (ofInt_isNear (i := 11) (by decide)).sub_int (ofInt_isNear (i := 1) (by decide)) (by decide)

/-- The step of an axis, with its two stages named. -/
theorem step_eq (low high : Binary64) (budget : Nat) : Axis.step low high budget =
    let first := niceStep ((high - low) / maxSpaces budget)
    if Binary64.lt (maxSpaces budget) (spaces first low high) then
      niceStep (spaces first low high * first / maxSpaces budget)
    else first := rfl

/-- The step that is tried first. -/
theorem IsResolved.firstStep (h : IsResolved low high) :
    ∃ q, IsRoundNumber q ∧ (niceStep ((high - low) / maxSpaces 11)).IsNear 3 q ∧
      (high.value - low.value) * (97 / 1000) ≤ q ∧ q ≤ (high.value - low.value) * (27 / 100) := by
  have hspread := h.spread
  have hpos := hspread.pos
  have hgreatest : high.value - low.value ≤ greatest :=
    hspread.high.trans
      ((pow_le_pow_right₀ (by norm_num) (by decide)).trans WithinTen.ten_pow_le_greatest)
  have hdifference : (high - low).IsNear 1 (high.value - low.value) :=
    .sub_value h.high_isFinite h.low_isFinite (by rwa [abs_of_pos hpos])
  generalize high.value - low.value = spread at *
  have htenth : WithinTen 293 (spread / (10 : Int)) :=
    hspread.of_scaled 1 (by norm_num) (by norm_num; linarith)
  have hquotient := hdifference.div maxSpaces_isNear (by norm_num) (by decide)
    (.of_within htenth (by decide))
  obtain ⟨hbelow, habove⟩ := hquotient.approx.bounds (by decide) htenth.pos.le
  push_cast at hbelow habove
  have hwithin : WithinTen 302 ((high - low) / maxSpaces 11).value :=
    (hspread.of_scaled 2 (by norm_num; linarith) (by norm_num; linarith)).mono (by decide)
  obtain ⟨q, hround, hnear, hlow, hhigh⟩ := niceStep_isNear hquotient.finite hwithin
  exact ⟨q, hround, hnear, by linarith, by linarith⟩

/-- The step that is tried next, when the first leaves one or two spaces too many. -/
theorem nextStep {first taken : Binary64} {t : Int} (hwithin : WithinTen 294 q)
    (hround : IsRoundNumber q) (hfirst : first.IsNear 3 q) (htaken : taken.IsNear 0 t)
    (hlow : 11 ≤ t) (hhigh : t ≤ 12) :
    ∃ p, IsRoundNumber p ∧ (niceStep (taken * first / maxSpaces 11)).IsNear 3 p ∧
      2 * q ≤ p ∧ p ≤ 313 / 100 * q := by
  have hpos := hwithin.pos
  have hlow' : (11 : ℚ) ≤ t := by exact_mod_cast hlow
  have hhigh' : (t : ℚ) ≤ 12 := by exact_mod_cast hhigh
  have hcovered : 11 * q ≤ t * q ∧ t * q ≤ 12 * q := ⟨by gcongr, by gcongr⟩
  have hproduct : WithinTen 296 (t * q) :=
    hwithin.of_scaled 2 (by norm_num; linarith) (by norm_num; linarith)
  have hmul := htaken.mul hfirst (by decide) (.of_within hproduct (by decide))
  generalize (t : ℚ) * q = covered at *
  have htenth : WithinTen 297 (covered / (10 : Int)) :=
    hproduct.of_scaled 1 (by norm_num) (by norm_num; linarith)
  have hquotient := hmul.div maxSpaces_isNear (by norm_num) (by decide)
    (.of_within htenth (by decide))
  obtain ⟨hbelow, habove⟩ := hquotient.approx.bounds (by decide) htenth.pos.le
  push_cast at hbelow habove
  have hspread : WithinTen 302 (taken * first / maxSpaces 11).value :=
    (hwithin.of_scaled 1 (by norm_num; linarith) (by norm_num; linarith)).mono (by decide)
  obtain ⟨p, hround', hnear, hplow, hphigh⟩ := niceStep_isNear hquotient.finite hspread
  -- the next round number is twice as great
  exact ⟨p, hround', hnear, hround.two_mul_le hround' (by linarith), by linarith⟩

/-- The step of an axis stands for a round number, on which a resolved range takes at most ten
spaces, and at least one. -/
theorem IsResolved.step_spec (h : IsResolved low high) :
    ∃ q a b, IsRoundNumber q ∧ WithinTen 294 q ∧ IsGrid (Axis.step low high 11) low high q a b ∧
      a < b ∧ b ≤ a + 10 := by
  have hspread := h.spread
  have hpos := hspread.pos
  obtain ⟨q, hround, hfirst, hqlow, hqhigh⟩ := h.firstStep
  obtain ⟨a, b, hgrid, hmin, hmax⟩ := h.exists_isGrid hfirst hround.pos (l := 3) (n := 10) le_rfl
    (by push_cast; linarith) (by push_cast; linarith)
  have hqwithin : WithinTen 294 q :=
    hspread.of_scaled 2 (by norm_num; linarith) (by norm_num; linarith)
  have ha := hgrid.natAbs_first_le
  have hb := hgrid.natAbs_last_le
  have htaken : (spaces (niceStep ((high - low) / maxSpaces 11)) low high).IsNear 0 (b - a : Int) :=
    hgrid.last_isNear.sub_int hgrid.first_isNear (by omega)
  have hmore : Binary64.lt (maxSpaces 11)
      (spaces (niceStep ((high - low) / maxSpaces 11)) low high) = true ↔ 10 < b - a := by
    rw [lt_iff maxSpaces_isNear.finite htaken.finite, maxSpaces_isNear.value_eq, htaken.value_eq,
      Int.cast_lt]
  rw [step_eq]
  dsimp only
  by_cases htoo : 10 < b - a
  · obtain ⟨p, hround', hnext, hplow, hphigh⟩ :=
      nextStep hqwithin hround hfirst htaken (by omega) (by omega)
    obtain ⟨a, b, hgrid, hmin, hmax⟩ := h.exists_isGrid hnext hround'.pos (l := 1) (n := 5)
      (by decide) (by push_cast; linarith) (by push_cast; linarith)
    have hpwithin : WithinTen 294 p :=
      hspread.of_scaled 2 (by norm_num; linarith) (by norm_num; linarith)
    rw [if_pos (hmore.mpr htoo)]
    exact ⟨p, a, b, hround', hpwithin, hgrid, by omega, by omega⟩
  · rw [if_neg (mt hmore.mp htoo)]
    exact ⟨q, a, b, hround, hqwithin, hgrid, by omega, by omega⟩

/-! ### The values of ticks -/

/-- The greater of an integer and zero is exact. -/
theorem max_zero_isNear (hx : x.IsNear 0 i) : (x.max .zero).IsNear 0 (Max.max i 0 : Int) := by
  have hlt := lt_iff (rfl : zero.isFinite = true) hx.finite
  rw [value_zero, hx.value_eq, ← Int.cast_zero, Int.cast_lt] at hlt
  have hmax : x.max .zero = if zero.lt x then x else .zero := rfl
  rw [hmax]
  by_cases hpos : 0 < i
  · rwa [if_pos (hlt.mpr hpos), max_eq_left hpos.le]
  · rw [if_neg (mt hlt.mp hpos), max_eq_right (not_lt.mp hpos)]
    exact .of_value_eq rfl (by rw [value_zero, Int.cast_zero])

/-- The precision of a tick is a power of ten, for steps below one. -/
theorem precision_eq (x : Binary64) :
    AxisNumber.precision x = Binary64.power 10 (x.floorLog10.neg.max .zero).toInt32.toNat := rfl

/-- A fractional step becomes whole at its precision; a greater step has precision one. -/
theorem precision_spec (hstep : step.IsNear 3 q) (hround : IsRoundNumber q)
    (hwithin : WithinTen 294 q) :
    (∃ n g : Nat, n ≤ 296 ∧ (AxisNumber.precision step).IsNear n (10 ^ n) ∧
      q * 10 ^ n = g ∧ (g : ℚ) ≤ 11) ∨ (AxisNumber.precision step).IsNear 0 1 ∧ 9 ≤ q := by
  obtain ⟨hbelow, habove⟩ := hstep.approx.bounds (by decide) hwithin.pos.le
  have hpos := hwithin.pos
  have hvalue : WithinTen 295 step.value :=
    hwithin.of_scaled 1 (by norm_num; linarith) (by norm_num; linarith)
  obtain ⟨k, hlog, hk, hdecade, hnext⟩ := floorLog10_spec hstep.finite hvalue (by decide)
  have hpower : (0 : ℚ) < 10 ^ k := zpow_pos (by norm_num) k
  rw [zpow_add_one₀ (by norm_num)] at hnext
  have hneg : step.floorLog10.neg.IsNear 0 (-k : Int) := by
    rw [hlog, Int.cast_neg]
    exact (ofInt_isNear (by omega)).neg
  have hplaces := max_zero_isNear hneg
  have hindex := toInt32_eq hplaces.finite hplaces.value_eq (by omega)
  rw [precision_eq, hindex]
  rcases le_or_gt k 0 with hfractional | hwhole
  · obtain ⟨g, hg⟩ := hround.exists_natCast_mul (l := k) (by linarith)
    have hn : (Max.max (-k) 0).toNat = k.natAbs := by omega
    have hcancel : (10 : ℚ) ^ k * 10 ^ k.natAbs = 1 := by
      rw [← zpow_natCast, ← zpow_add₀ (by norm_num), show k + k.natAbs = 0 by omega, zpow_zero]
    have hg' : q * 10 ^ k.natAbs = g := by rw [hg, mul_assoc, hcancel, mul_one]
    refine .inl ⟨k.natAbs, g, by omega, ?_, hg', ?_⟩
    · rw [hn]
      exact power_isNear (by omega)
    · refine le_of_mul_le_mul_right ?_ hpower
      rw [← hg]
      linarith
  · have hn : (Max.max (-k) 0).toNat = 0 := by omega
    have hten : (10 : ℚ) ≤ 10 ^ k := by
      conv_lhs => rw [← zpow_one (10 : ℚ)]
      exact zpow_le_zpow_right₀ (by norm_num) hwhole
    refine .inr ⟨?_, by linarith⟩
    rw [hn]
    exact power_isNear (Nat.zero_le _)

/-- Multiples of a step stay in range. -/
theorem isModerate_multiple (hi : i.natAbs ≤ 20000000000) (hq : WithinTen 294 q) :
    IsModerate (i * q) := by
  rcases eq_or_ne i 0 with rfl | hne
  · exact .inl (by rw [Int.cast_zero, zero_mul])
  · have hpos := hq.pos
    have hone := one_le_abs_intCast hne
    have hi' : |(i : ℚ)| ≤ 20000000000 := by exact_mod_cast abs_intCast_le hi
    refine .inr ?_
    rw [abs_mul, abs_of_pos hpos]
    refine hq.of_scaled 11 ?_ ?_
    · nlinarith
    · nlinarith

/-- The value of a tick is a multiple of the step, rounded to the precision. -/
theorem tickValue_eq (step : Binary64) (i : Int) : tickValue step i =
    (ofInt i * step * AxisNumber.precision step).roundHalfAway / AxisNumber.precision step := by
  rw [tickValue, round_eq, ofInt_eq]

section Tick

variable {multiple scale : Binary64}

/-- A multiple of a fractional step is a whole number of places, to which it is rounded. -/
theorem tick_of_fractional {n g : Nat} (hmultiple : multiple.IsNear 4 (i * q)) (hn : n ≤ 296)
    (hscale : scale.IsNear n (10 ^ n)) (hg : q * 10 ^ n = g) (hg' : (g : ℚ) ≤ 11)
    (hi : i.natAbs ≤ 20000000000) (hmoderate : IsModerate (i * q)) :
    ((multiple * scale).roundHalfAway / scale).IsNear (n + 1) (i * q) := by
  have hplaces : (i * q : ℚ) * 10 ^ n = (i * g : Int) := by
    rw [mul_assoc, hg]
    push_cast
    rfl
  have hbound : (i * g).natAbs ≤ 2 ^ 39 := by
    have hg'' : g ≤ 11 := by exact_mod_cast hg'
    rw [Int.natAbs_mul, Int.natAbs_natCast]
    exact (Nat.mul_le_mul hi hg'').trans (by decide)
  have hbound' : |((i * g : Int) : ℚ)| ≤ 10 ^ 12 :=
    (abs_intCast_le hbound).trans (by norm_num)
  have hscaled := hmultiple.mul hscale (by omega)
    (by rw [hplaces]; exact IsModerate.intCast hbound' (by decide))
  rw [hplaces] at hscaled
  have hrounded := hscaled.roundHalfAway_int (by omega) hbound
  have hcancel : ((i * g : Int) : ℚ) / 10 ^ n = i * q := by
    rw [← hplaces, mul_div_cancel_right₀ _ (by positivity)]
  have hvalue := hrounded.div hscale (by positivity) (by omega) (by rwa [hcancel])
  rw [hcancel] at hvalue
  exact hvalue.mono (by omega)

/-- A multiple of a greater step is rounded to a whole number, which moves it by little. -/
theorem tick_of_whole (hmultiple : multiple.IsNear 4 (i * q)) (hscale : scale.IsNear 0 1)
    (hq : 9 ≤ q) (hwithin : WithinTen 294 q) (hi : |i * q| ≤ 20000000000 * q)
    (hmoderate : IsModerate (i * q)) :
    ((multiple * scale).roundHalfAway / scale).isFinite = true ∧
      |((multiple * scale).roundHalfAway / scale).value - i * q| ≤ q / 4 := by
  have hpos := hwithin.pos
  have hscaled := hmultiple.mul hscale (by decide) (by rwa [mul_one])
  rw [mul_one] at hscaled
  generalize multiple * scale = scaled at *
  obtain ⟨j, hrounded, hhalf⟩ := roundHalfAway_isNear hscaled.finite
  have herror := hscaled.approx.abs_sub_le_of_le (by decide)
  have hj : |(j : ℚ) - i * q| ≤ 1 / 2 + |i * q| / 2 ^ 41 :=
    (abs_sub_le _ scaled.value _).trans (add_le_add hhalf herror)
  have hjsize : |(j : ℚ)| ≤ 20000000001 * q := by
    have := abs_sub_abs_le_abs_sub (j : ℚ) (i * q)
    linarith
  have hbound : |(j : ℚ)| ≤ 10 ^ 305 := by
    refine hjsize.trans ?_
    rw [show 305 = 11 + 294 from rfl, pow_add]
    exact mul_le_mul (by norm_num) hwithin.high hpos.le (by positivity)
  have hvalue := hrounded.div hscale one_ne_zero (by decide)
    (by rw [div_one]; exact IsModerate.intCast hbound le_rfl)
  rw [div_one] at hvalue
  refine ⟨hvalue.finite, ?_⟩
  have hdivision := hvalue.approx.abs_sub_le_of_le (by decide)
  generalize (scaled.roundHalfAway / scale).value = v at *
  calc |v - i * q| ≤ |v - j| + |j - i * q| := abs_sub_le ..
    _ ≤ q / 4 := by linarith

end Tick

/-- **Ticks.** The tick with an index is close to that multiple of the step. -/
theorem tickValue_spec (hstep : step.IsNear 3 q) (hround : IsRoundNumber q)
    (hwithin : WithinTen 294 q) (hi : i.natAbs ≤ 20000000000) :
    (tickValue step i).isFinite = true ∧ |(tickValue step i).value - i * q| ≤ q / 4 := by
  have hpos := hwithin.pos
  have hindex : (ofInt i).IsNear 0 i := ofInt_isNear (by omega)
  have hmoderate := isModerate_multiple hi hwithin
  have hmultiple := hindex.mul hstep (by decide) hmoderate
  have hsize : |i * q| ≤ 20000000000 * q := by
    have hi' : |(i : ℚ)| ≤ 20000000000 := by exact_mod_cast abs_intCast_le hi
    rw [abs_mul, abs_of_pos hpos]
    gcongr
  rw [tickValue_eq]
  rcases precision_spec hstep hround hwithin with ⟨n, g, hn, hscale, hg, hg'⟩ | ⟨hscale, hq⟩
  · have htick := tick_of_fractional hmultiple hn hscale hg hg' hi hmoderate
    have herror := htick.approx.abs_sub_le_of_le (by omega)
    exact ⟨htick.finite, by linarith⟩
  · exact tick_of_whole hmultiple hscale hq hwithin hsize hmoderate

/-! ### The ends of an axis -/

/-- Equal ends are moved apart, by one around zero and else by a twentieth. -/
theorem ends_eq (low high : Binary64) : ends low high =
    if low.same high then
      (low - (if high.same (ofInt 0) then ofInt 1 else (high * ofRatio false 1 20).abs),
        high + (if high.same (ofInt 0) then ofInt 1 else (high * ofRatio false 1 20).abs))
    else (low, high) := by
  rw [ends, same_eq, ofInt_eq, abs_eq, twentieth_eq]

/-- A resolved range keeps its ends. -/
theorem IsResolved.ends_eq_self (h : IsResolved low high) : ends low high = (low, high) := by
  rw [ends_eq, if_neg]
  rw [same_iff h.low_isFinite h.high_isFinite]
  exact (sub_pos.mp h.spread.pos).ne

/-- A twentieth is rounded once. -/
theorem twentieth_isNear : (ofRatio false 1 20).IsNear 1 (1 / 20) := by
  have hrange : InRange (((1 : ℕ) : ℚ) / (20 : ℕ)) := by
    have hwithin : WithinTen 2 (((1 : ℕ) : ℚ) / (20 : ℕ)) := ⟨by norm_num, by norm_num⟩
    exact (IsModerate.of_within hwithin (by decide)).inRange (.refl _) (by decide)
  obtain ⟨hfinite, happrox⟩ := ofRatio_approx (m := false) (by decide) hrange
  refine ⟨hfinite, ?_⟩
  simpa [signed] using happrox

/-- A range that is widened by a margin, which is neither too small nor too great and not very small
next to the value, is resolved. -/
theorem isResolved_widened {margin : Binary64} (hlow : low.isFinite = true)
    (hhigh : high.isFinite = true) (hmargin : margin.isFinite = true)
    (hflat : low.value = high.value) (hwithin : WithinTen 291 (4 * margin.value))
    (hbound : |high.value| ≤ margin.value * 100) :
    IsResolved (low - margin) (high + margin) := by
  have hpos := hwithin.pos
  obtain ⟨hleft, hright⟩ := abs_le.mp hbound
  have hgreatest : margin.value * 1000 ≤ greatest := by
    refine le_trans ?_ WithinTen.ten_pow_le_greatest
    have hthousand : WithinTen 294 (margin.value * 1000) :=
      hwithin.of_scaled 3 (by linarith) (by linarith)
    exact hthousand.high.trans (pow_le_pow_right₀ (by norm_num) (by decide))
  have hdown : (low - margin).IsNear 1 (low.value - margin.value) :=
    .sub_value hlow hmargin (abs_le.mpr ⟨by linarith, by linarith⟩)
  have hup : (high + margin).IsNear 1 (high.value + margin.value) :=
    .add_value hhigh hmargin (abs_le.mpr ⟨by linarith, by linarith⟩)
  have hdownsize : |low.value - margin.value| ≤ margin.value * 101 :=
    abs_le.mpr ⟨by linarith, by linarith⟩
  have hupsize : |high.value + margin.value| ≤ margin.value * 101 :=
    abs_le.mpr ⟨by linarith, by linarith⟩
  have hdownerror := abs_le.mp (hdown.approx.abs_sub_le_of_le (by decide))
  have huperror := abs_le.mp (hup.approx.abs_sub_le_of_le (by decide))
  refine ⟨hdown.finite, hup.finite, ?_, ?_, ?_⟩
  · exact hwithin.of_scaled 1 (by linarith) (by linarith)
  · exact abs_le.mpr ⟨by linarith, by linarith⟩
  · exact abs_le.mpr ⟨by linarith, by linarith⟩

/-- A flat range becomes a resolved one, unless its value is too small or too great. -/
theorem isResolved_ends_of_flat (hlow : low.isFinite = true) (hhigh : high.isFinite = true)
    (hflat : low.value = high.value) (hvalue : high.value = 0 ∨ WithinTen 290 |high.value|) :
    IsResolved (ends low high).1 (ends low high).2 := by
  have hone : (ofInt 1).IsNear 0 (1 : Int) := ofInt_isNear (by decide)
  have hzero : (ofInt 0).IsNear 0 (0 : Int) := ofInt_isNear (by decide)
  have hsame : high.same (ofInt 0) = true ↔ high.value = 0 := by
    rw [same_iff hhigh hzero.finite, hzero.value_eq, Int.cast_zero]
  rw [ends_eq, if_pos ((same_iff hlow hhigh).mpr hflat)]
  dsimp only
  rcases eq_or_ne high.value 0 with heq | hne
  · rw [if_pos (hsame.mpr heq)]
    refine isResolved_widened hlow hhigh hone.finite hflat ?_ ?_
    · rw [hone.value_eq, Int.cast_one]
      have hten : (10 : ℚ) ^ 1 ≤ 10 ^ 291 := pow_le_pow_right₀ (by norm_num) (by decide)
      exact .of_one_le (by norm_num) (le_trans (by norm_num) hten)
    · rw [heq, hone.value_eq]
      norm_num
  · have hwithin := hvalue.resolve_left hne
    rw [if_neg (mt hsame.mp hne)]
    have hmoderate : WithinTen 292 |high.value * (1 / 20)| := by
      rw [abs_mul, abs_of_pos (by norm_num : (0 : ℚ) < 1 / 20)]
      have hpos := hwithin.pos
      exact hwithin.of_scaled 2 (by norm_num; linarith) (by linarith)
    have hmargin := ((IsNear.self hhigh).mul twentieth_isNear (by decide)
      (.inr (hmoderate.mono (by decide)))).abs
    obtain ⟨hbelow, habove⟩ := hmargin.approx.bounds (by decide) (abs_nonneg _)
    rw [abs_mul, abs_of_pos (by norm_num : (0 : ℚ) < 1 / 20)] at hbelow habove
    have hpos := hwithin.pos
    refine isResolved_widened hlow hhigh hmargin.finite hflat ?_ (by linarith)
    exact hwithin.of_scaled 1 (by linarith) (by linarith)

/-! ### The ticks of an axis -/

/-- Ticks that can be drawn within a budget. -/
structure IsScale (budget : Nat) (ticks : List Binary64) : Prop where
  ne_nil : ticks ≠ []
  length_le : ticks.length ≤ budget
  isFinite : ∀ x ∈ ticks, x.isFinite = true
  increasing : ticks.Pairwise fun x y => x.lt y = true

/-- The ticks of an axis are those at its indices. -/
theorem ticks?_eq {first last : Binary64} (h : ends low high = (first, last)) (budget : Nat) :
    ticks? low high budget =
      (indices? (first / Axis.step first last budget).floor.toInt64
        (last / Axis.step first last budget).ceil.toInt64).map
          (·.map (tickValue (Axis.step first last budget))) := by
  rw [ticks?, h, floor_eq, ceil_eq, index_eq]

/-- The indices of an axis, if there are not too many, are all from the first to the last. -/
theorem indices?_eq {first last : Int} (h : (last + 1 - first).toNat ≤ maxTicks) :
    indices? first last =
      some ((List.range (last + 1 - first).toNat).map fun (i : Nat) => first + i) := if_pos h

/-- On a step that stands for a round number the ticks of a grid increase. -/
theorem isScale_tickValues {a b : Int} (hgrid : IsGrid step low high q a b)
    (hround : IsRoundNumber q) (hwithin : WithinTen 294 q) (hab : a < b) (hba : b ≤ a + 10) :
    IsScale 11 (((List.range (b + 1 - a).toNat).map fun (i : Nat) => a + i).map
      (tickValue step)) := by
  have hpos := hwithin.pos
  have ha := hgrid.natAbs_first_le
  have hb := hgrid.natAbs_last_le
  have htick : ∀ j ∈ (List.range (b + 1 - a).toNat).map fun (i : Nat) => a + i,
      (tickValue step j).isFinite = true ∧ |(tickValue step j).value - j * q| ≤ q / 4 := by
    intro j hj
    obtain ⟨i, hi, rfl⟩ := List.mem_map.mp hj
    have hi' := List.mem_range.mp hi
    exact tickValue_spec hgrid.step_isNear hround hwithin (by omega)
  refine ⟨?_, ?_, ?_, ?_⟩
  · rw [Ne, List.map_eq_nil_iff, List.map_eq_nil_iff, List.range_eq_nil]
    omega
  · rw [List.length_map, List.length_map, List.length_range]
    omega
  · intro x hx
    obtain ⟨j, hj, rfl⟩ := List.mem_map.mp hx
    exact (htick j hj).1
  · rw [List.pairwise_map]
    have hindices : ((List.range (b + 1 - a).toNat).map fun (i : Nat) => a + i).Pairwise
        (· < ·) := by
      rw [List.pairwise_map]
      exact List.pairwise_lt_range.imp fun hlt => by omega
    refine hindices.imp_of_mem fun {i j} hi hj hij => ?_
    -- each tick is within a quarter of a step of its multiple
    obtain ⟨hifinite, hierror⟩ := htick i hi
    obtain ⟨hjfinite, hjerror⟩ := htick j hj
    rw [lt_iff hifinite hjfinite]
    have hij' : (i : ℚ) + 1 ≤ j := by exact_mod_cast hij
    have hapart : (i : ℚ) * q + q ≤ j * q := by nlinarith
    linarith [(abs_le.mp hierror).2, (abs_le.mp hjerror).1]

/-- **The value axis.** The axis of a range whose ends are resolved has ticks, within the budget. -/
theorem exists_ticks (h : IsResolved (ends low high).1 (ends low high).2) :
    ∃ ticks, ticks? low high 11 = some ticks ∧ IsScale 11 ticks := by
  generalize hends : ends low high = range at h
  obtain ⟨first, last⟩ := range
  obtain ⟨q, a, b, hround, hwithin, hgrid, hab, hba⟩ := h.step_spec
  have ha := hgrid.natAbs_first_le
  have hb := hgrid.natAbs_last_le
  have hfirst := toInt64_eq hgrid.first_isNear.finite hgrid.first_isNear.value_eq (by omega)
  have hlast := toInt64_eq hgrid.last_isNear.finite hgrid.last_isNear.value_eq (by omega)
  rw [ticks?_eq hends, hfirst, hlast, indices?_eq (by rw [maxTicks]; omega), Option.map_some]
  exact ⟨_, rfl, isScale_tickValues hgrid hround hwithin hab hba⟩

end RiskBoard.Axis
