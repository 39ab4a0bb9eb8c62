import RiskBoard.Chart.Basic
import RiskBoard.Proofs.Dataset.Offsets
import RiskBoard.Proofs.Display.Fixed
import RiskBoard.Proofs.Display.Grouping

/-!
# Formatting keeps the order

The number that is written for a lesser value is never the greater one. For grouped numbers that is
so because scaling, rounding and scaling back are monotone. For numbers at fixed places the one step
that could go wrong is the next double in place of a tie: it does not pass any other double, so a
tie and the double after it are at worst written alike.

That is said of texts that are read as numbers (`Display.number?`), grouped ones without their
commas and year labels without their mark. The year labels of a profile are in order because its
offsets increase.
-/

namespace RiskBoard

open Binary64

namespace Display

/-! ### Reading numbers -/

section Reading

variable {places : ℕ} {cs : List Char}

/-- The number that digits stand for, of which some may be a fraction behind a point. -/
def magnitude? (cs : List Char) : Option ℚ :=
  let whole := cs.takeWhile Char.isDigit
  let rest := cs.dropWhile Char.isDigit
  let isFraction := rest.head? = some '.' ∧ rest.tail ≠ [] ∧ rest.tail.all Char.isDigit
  if whole ≠ [] ∧ (rest = [] ∨ isFraction) then some (reading cs) else none

/-- The number that a text stands for, which may have a minus. -/
def number? (cs : List Char) : Option ℚ :=
  if cs.head? = some '-' then (magnitude? cs.tail).map (- ·) else magnitude? cs

/-- The number that a text with commas stands for. -/
def groupedNumber? (cs : List Char) : Option ℚ := number? (cs.filter (· != ','))

/-- The number of years that a label stands for. -/
def yearNumber? (cs : List Char) : Option ℚ :=
  if cs.getLast? = some 'Y' then number? cs.dropLast else none

/-- Every number with places is read. -/
theorem magnitude?_eq (h : HasPlaces IsDigits places cs) : magnitude? cs = some (reading cs) := by
  obtain ⟨h⟩ | @⟨cs, fraction, h, hfraction⟩ := h
  · rw [magnitude?, List.takeWhile_eq_self_iff.mpr h.isDigit,
      List.dropWhile_eq_nil_iff.mpr h.isDigit]
    exact if_pos ⟨h.ne_nil, .inl rfl⟩
  · have hwhole : (cs ++ '.' :: fraction).takeWhile Char.isDigit = cs := by
      rw [List.takeWhile_append_of_pos h.isDigit, List.takeWhile_cons_of_neg (by decide),
        List.append_nil]
    have hrest : (cs ++ '.' :: fraction).dropWhile Char.isDigit = '.' :: fraction := by
      rw [List.dropWhile_append_of_pos h.isDigit, List.dropWhile_cons_of_neg (by decide)]
    rw [magnitude?, hwhole, hrest]
    exact if_pos ⟨h.ne_nil, .inr ⟨rfl, hfraction.ne_nil, List.all_eq_true.mpr hfraction.isDigit⟩⟩

/-- A number does not begin with a minus sign. -/
theorem HasPlaces.head?_ne (h : HasPlaces IsDigits places cs) : cs.head? ≠ some '-' := by
  have hdigits : ∀ {cs rest : List Char}, IsDigits cs → (cs ++ rest).head? ≠ some '-' := by
    intro cs rest h
    obtain ⟨c, cs, rfl⟩ := List.exists_cons_of_ne_nil h.ne_nil
    have hc := h.isDigit c List.mem_cons_self
    rintro ⟨⟩
    cases hc
  obtain ⟨h⟩ | ⟨h, -⟩ := h
  · rw [← List.append_nil cs]
    exact hdigits h
  · exact hdigits h

/-- A number is read with its sign. -/
theorem number?_signed (h : HasPlaces IsDigits places cs) (negative : Bool) :
    number? (Decimal.signed negative cs) = some (signed negative (reading cs)) := by
  cases negative with
  | false =>
    rw [Decimal.signed, if_neg Bool.false_ne_true, number?, if_neg h.head?_ne, magnitude?_eq h]
    rfl
  | true =>
    rw [Decimal.signed, if_pos rfl, number?, List.head?_cons, if_pos rfl, List.tail_cons,
      magnitude?_eq h]
    rfl

end Reading

/-! ### Numbers in order -/

section Ordered

variable {places : ℕ} {v w x y : Binary64}

/-- Two texts are read as numbers, the first of which is not the greater one. -/
def InOrder (read : List Char → Option ℚ) (cs ds : List Char) : Prop :=
  ∃ p q, read cs = some p ∧ read ds = some q ∧ p ≤ q

/-- Putting signs before magnitudes keeps the order if the magnitudes are in order. -/
theorem signed_le_signed {p q a b : ℚ} (hpq : p ≤ q) (ha : 0 ≤ a) (hb : 0 ≤ b)
    (hup : |p| ≤ |q| → a ≤ b) (hdown : |q| ≤ |p| → b ≤ a) :
    signed (decide (p < 0)) a ≤ signed (decide (q < 0)) b := by
  rcases lt_or_ge q 0 with hq | hq
  · have hp : p < 0 := hpq.trans_lt hq
    have habs : |q| ≤ |p| := by
      rw [abs_of_neg hq, abs_of_neg hp]
      exact neg_le_neg hpq
    rw [decide_eq_true hp, decide_eq_true hq]
    exact neg_le_neg (hdown habs)
  · rw [decide_eq_false hq.not_gt]
    rcases lt_or_ge p 0 with hp | hp
    · rw [decide_eq_true hp]
      exact (neg_nonpos.mpr ha).trans hb
    · rw [decide_eq_false hp.not_gt]
      refine hup ?_
      rwa [abs_of_nonneg hp, abs_of_nonneg hq]

/-- Digits do not stand for negative numbers. -/
theorem reading_nonneg (cs : List Char) : 0 ≤ reading cs := by
  rw [reading]
  positivity

/-- Fixed places keep the order of magnitudes. -/
theorem reading_fixed_le (hx : IsMagnitude x) (hy : IsMagnitude y) (h : x.value ≤ y.value)
    (places : ℕ) :
    reading (Decimal.fixed places x) ≤ reading (Decimal.fixed places y) := by
  obtain ⟨⟨r⟩, ⟨s⟩⟩ := And.intro hx hy
  have hunits := Rank.units_strictMono.monotone (value_le_value_iff.mp h)
  have hcount : Decimal.Fixed.scaled places r ≤ Decimal.Fixed.scaled places s :=
    Rank.halfEven_le_halfEven Rank.unitsPerOne_pos Rank.unitsPerOne_pos
      (Nat.mul_le_mul_right _ (Nat.mul_le_mul_right _ hunits))
  rw [fixed_finite, fixed_finite, reading_withPlaces, reading_withPlaces]
  gcongr

/-- The next double in place of a tie does not pass any other double. -/
theorem untied_le_untied (hplaces : places ≤ 1022) (hx : IsMagnitude x) (hy : IsMagnitude y)
    (h : x.value ≤ y.value) : IsMagnitude (untied places x) ∧ IsMagnitude (untied places y) ∧
      (untied places x).value ≤ (untied places y).value := by
  obtain ⟨⟨r⟩, ⟨s⟩⟩ := And.intro hx hy
  rw [value_le_value_iff] at h
  rcases h.eq_or_lt with heq | hlt
  · obtain rfl : r = s := Fin.ext heq
    obtain ⟨u, hu, -⟩ := exists_untied r hplaces
    rw [hu]
    exact ⟨.intro u, .intro u, le_rfl⟩
  · obtain ⟨u, hu, hru⟩ := exists_untied r hplaces
    obtain ⟨v, hv, hsv⟩ := exists_untied s hplaces
    rw [hu, hv, value_le_value_iff]
    refine ⟨.intro u, .intro v, ?_⟩
    have hur : u.val ≤ r.val + 1 := by
      rcases hru with rfl | hru
      · exact Nat.le_succ _
      · exact hru.le
    have hvs : s.val ≤ v.val := by
      rcases hsv with rfl | hsv
      · exact le_rfl
      · exact hsv ▸ Nat.le_succ _
    omega

/-- Scaling, rounding and scaling back keep the order of magnitudes. -/
theorem scaledMagnitude_le (hx : x.isFinite = true) (hy : y.isFinite = true)
    (hsx : ¬ Overflows places x) (hsy : ¬ Overflows places y) (h : |x.value| ≤ |y.value|) :
    (scaledMagnitude places x).value ≤ (scaledMagnitude places y).value := by
  obtain ⟨hpower, hlow, -⟩ := power_of_not_overflows hx hsx
  have hpos : 0 < (power 10 places).value := (pow_pos two_pos _).trans_le hlow
  rw [← value_abs, ← value_abs] at h
  have hproduct := (isMagnitude_abs hx).mul_le_mul (isMagnitude_abs hy) hpower hpower h le_rfl
    (isMagnitude_scaled hx hsx) (isMagnitude_scaled hy hsy)
  have hround := (isMagnitude_scaled hx hsx).roundHalfAway_le (isMagnitude_scaled hy hsy) hproduct
  exact (isMagnitude_scaled hx hsx).roundHalfAway.div_le_div
    (isMagnitude_scaled hy hsy).roundHalfAway hpower hround hpos
    (isMagnitude_scaledMagnitude hx hsx) (isMagnitude_scaledMagnitude hy hsy)

/-! ### Texts in order -/

theorem isMagnitude_untied (hplaces : places ≤ 1022) (hx : IsMagnitude x) :
    IsMagnitude (untied places x) := (untied_le_untied hplaces hx hx le_rfl).1

/-- What a number with fixed places stands for. -/
theorem number?_fixedChars (hx : x.isFinite = true) (hplaces : places ≤ 1022) :
    number? (fixedChars places x) = some (signed (decide (x.value < 0))
      (reading (Decimal.fixed places (untied places x.abs)))) := by
  rw [fixedChars, isNegative_eq hx]
  exact number?_signed
    (hasPlaces_fixed (isMagnitude_untied hplaces (isMagnitude_abs hx)) places) _

/-- What a grouped number stands for. -/
theorem groupedNumber?_groupedChars (hx : x.isFinite = true) (h : ¬ Overflows places x) :
    groupedNumber? (groupedChars places x) = some (signed (decide (x.value < 0))
      (reading (Decimal.fixed places (scaledMagnitude places x)))) := by
  rw [groupedNumber?, (isGroupingOf_groupedChars hx h).ungrouped]
  exact number?_signed (hasPlaces_fixed (isMagnitude_scaledMagnitude hx h) places) _

/-- What is written for magnitudes at fixed places is in order. -/
theorem reading_untied_le (hv : v.isFinite = true) (hw : w.isFinite = true)
    (hplaces : places ≤ 1022) (h : |v.value| ≤ |w.value|) :
    reading (Decimal.fixed places (untied places v.abs)) ≤
      reading (Decimal.fixed places (untied places w.abs)) := by
  rw [← value_abs, ← value_abs] at h
  obtain ⟨huv, huw, hle⟩ :=
    untied_le_untied hplaces (isMagnitude_abs hv) (isMagnitude_abs hw) h
  exact reading_fixed_le huv huw hle places

/-- Fixed places keep the order. -/
theorem inOrder_fixedChars (hv : v.isFinite = true) (hw : w.isFinite = true)
    (h : v.value ≤ w.value) (hplaces : places ≤ 1022) :
    InOrder number? (fixedChars places v) (fixedChars places w) :=
  ⟨_, _, number?_fixedChars hv hplaces, number?_fixedChars hw hplaces,
    signed_le_signed h (reading_nonneg _) (reading_nonneg _) (reading_untied_le hv hw hplaces)
      (reading_untied_le hw hv hplaces)⟩

/-- Grouped numbers do, as long as scaling does not overflow. -/
theorem inOrder_groupedChars (hv : v.isFinite = true) (hw : w.isFinite = true)
    (hsv : ¬ Overflows places v) (hsw : ¬ Overflows places w) (h : v.value ≤ w.value) :
    InOrder groupedNumber? (groupedChars places v) (groupedChars places w) := by
  have hmv := isMagnitude_scaledMagnitude hv hsv
  have hmw := isMagnitude_scaledMagnitude hw hsw
  refine ⟨_, _, groupedNumber?_groupedChars hv hsv, groupedNumber?_groupedChars hw hsw,
    signed_le_signed h (reading_nonneg _) (reading_nonneg _) (fun hup => ?_) fun hdown => ?_⟩
  · exact reading_fixed_le hmv hmw (scaledMagnitude_le hv hw hsv hsw hup) places
  · exact reading_fixed_le hmw hmv (scaledMagnitude_le hw hv hsw hsv hdown) places

/-- Labels of years do. -/
theorem inOrder_yearChars (hv : v.isFinite = true) (hw : w.isFinite = true)
    (h : v.value ≤ w.value) : InOrder yearNumber? (yearChars v) (yearChars w) := by
  have hyear : ∀ x, yearNumber? (yearChars x) = number? (fixedChars 1 x) := by
    intro x
    rw [yearNumber?, yearChars, if_pos List.getLast?_concat, List.dropLast_concat]
  rw [InOrder, hyear, hyear]
  exact inOrder_fixedChars hv hw h (by decide)

/-- **Formatting keeps the order.** For finite values and up to 22 places, the number written for
the lesser value at fixed places is not the greater one, nor is the grouped one if scaling does not
overflow. So the year labels of a profile with finite offsets do not go back along the axis. -/
theorem written_in_order :
    (∀ v w : Binary64, v.isFinite = true → w.isFinite = true → v.le w = true →
      ∀ places ≤ 22,
        (∃ s t, fixed? places v = some s ∧ fixed? places w = some t ∧
          InOrder number? s.toList t.toList) ∧
        (¬ Overflows places v → ¬ Overflows places w →
          ∃ s t, grouped? places v = some s ∧ grouped? places w = some t ∧
            InOrder groupedNumber? s.toList t.toList)) ∧
    ∀ series : ExposureSeries, (∀ point ∈ series.points, point.time.isFinite = true) →
      (ChartData.ofSeries series).labels.Pairwise
        fun s t => InOrder yearNumber? s.toList t.toList := by
  refine ⟨fun v w hv hw hle places hplaces => ?_, fun series hfinite => ?_⟩
  · rw [le_iff hv hw] at hle
    have hmax : places ≤ maxPlaces := hplaces.trans (by decide)
    refine ⟨⟨_, _, if_pos hmax, if_pos hmax, ?_⟩,
      fun hsv hsw => ⟨_, _, if_pos hmax, if_pos hmax, ?_⟩⟩
    · rw [fixed, fixed, String.toList_ofList, String.toList_ofList]
      exact inOrder_fixedChars hv hw hle (hplaces.trans (by decide))
    · rw [grouped, grouped, String.toList_ofList, String.toList_ofList]
      exact inOrder_groupedChars hv hw hsv hsw hle
  · rw [ChartData.ofSeries, List.pairwise_map]
    refine (List.pairwise_map.mp series.isAxis.increasing).imp_of_mem fun {p q} hp hq hlt => ?_
    rw [year, year, String.toList_ofList, String.toList_ofList]
    exact inOrder_yearChars (hfinite p hp) (hfinite q hq)
      ((lt_iff (hfinite p hp) (hfinite q hq)).mp hlt).le

/-- A profile at two offsets, a quarter of a year and a year. -/
def quarterAndYear : ExposureSeries :=
  ⟨[quarter, 1].map fun time => { ExposurePoint.blank with time }, by decide +kernel⟩

/-- A quarter and one at one place, and the labels of these offsets. -/
theorem written_in_order_quarter : quarter.isFinite = true ∧ (1 : Binary64).isFinite = true ∧
    quarter.le 1 = true ∧ 1 ≤ 22 ∧ ¬ Overflows 1 quarter ∧ ¬ Overflows 1 1 ∧
    InOrder number? "0.3".toList "1.0".toList ∧ InOrder groupedNumber? "0.3".toList "1.0".toList ∧
    (∀ point ∈ quarterAndYear.points, point.time.isFinite = true) ∧
    ["0.3Y", "1.0Y"].Pairwise fun s t => InOrder yearNumber? s.toList t.toList := by
  obtain ⟨hvalues, hlabels⟩ := written_in_order
  have hone : (1 : Binary64).isFinite = true := by decide +kernel
  have hle : quarter.le 1 = true := by decide +kernel
  have hscaled : ¬ Overflows 1 quarter ∧ ¬ Overflows 1 1 := by
    rw [Overflows, Overflows]
    decide +kernel
  have hoffsets : ∀ point ∈ quarterAndYear.points, point.time.isFinite = true := by decide +kernel
  have htexts : (ChartData.ofSeries quarterAndYear).labels = ["0.3Y", "1.0Y"] := by decide +kernel
  have hfixed : fixed? 1 quarter = some "0.3" ∧ fixed? 1 1 = some "1.0" := by decide +kernel
  have hgrouped : grouped? 1 quarter = some "0.3" ∧ grouped? 1 1 = some "1.0" := by decide +kernel
  obtain ⟨⟨s, t, hs, ht, horder⟩, hgroup⟩ := hvalues quarter 1 rfl hone hle 1 (by decide)
  obtain ⟨s', t', hs', ht', horder'⟩ := hgroup hscaled.1 hscaled.2
  obtain rfl : "0.3" = s := Option.some.inj (hfixed.1.symm.trans hs)
  obtain rfl : "1.0" = t := Option.some.inj (hfixed.2.symm.trans ht)
  obtain rfl : "0.3" = s' := Option.some.inj (hgrouped.1.symm.trans hs')
  obtain rfl : "1.0" = t' := Option.some.inj (hgrouped.2.symm.trans ht')
  exact ⟨rfl, hone, hle, by decide, hscaled.1, hscaled.2, horder, horder', hoffsets,
    htexts ▸ hlabels quarterAndYear hoffsets⟩

end Ordered

end Display

end RiskBoard
