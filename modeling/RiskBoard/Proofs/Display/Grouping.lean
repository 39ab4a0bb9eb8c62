import RiskBoard.Proofs.Display.Digits

/-!
# Grouped numbers

`Display.grouped` writes the digits of `Display.magnitudeChars` behind the sign of the value and
inserts commas, nothing else: the commas stand before groups of three digits, and without them the
text is what it was (`Display.IsGroupingOf`). An amount of money has the same digits behind a dollar
sign. Its sign is decided twice, once for the text and once for the tone, and both are the sign of
the value, also where the digits are all zero (`Display.IsAmountOf`).

All this is so for every number of places for which scaling does not overflow. That bounds the
places too: powers of ten beyond the doubles are infinite, and then zero has no digits either.
-/

namespace RiskBoard

open Binary64

namespace Display

variable {places : ℕ} {x : Binary64} {cs : List Char}

/-! ### Digits without commas -/

/-- A number consists of digits and points. -/
theorem HasPlaces.isDigit_or_eq_point (h : HasPlaces IsDigits places cs) :
    ∀ c ∈ cs, c.isDigit = true ∨ c = '.' := by
  obtain ⟨h⟩ | ⟨h, hfraction⟩ := h
  · exact fun c hc => .inl (h.isDigit c hc)
  · intro c hc
    rcases List.mem_append.mp hc with hc | hc
    · exact .inl (h.isDigit c hc)
    · rcases List.mem_cons.mp hc with hc | hc
      · exact .inr hc
      · exact .inl (hfraction.isDigit c hc)

/-- What stands besides digits in a number at fixed places, or in a name for what is none. -/
def marks : List Char := ['.', '-', 'N', 'a', 'i', 'n', 'f']

/-- What is written of a double has no comma, whether it is finite or not. -/
theorem isDigit_or_mem_of_mem_fixed (y : Binary64) :
    ∀ c ∈ Decimal.fixed places y, c.isDigit = true ∨ c ∈ marks := by
  have hsigned : ∀ (m : Bool) (cs : List Char), (∀ c ∈ cs, c.isDigit = true ∨ c ∈ marks) →
      ∀ c ∈ Decimal.signed m cs, c.isDigit = true ∨ c ∈ marks := by
    intro m cs hcs
    rw [Decimal.signed]
    split_ifs
    · exact List.forall_mem_cons.mpr ⟨by decide, hcs⟩
    · exact hcs
  cases y with
  | nan =>
    rw [Decimal.fixed]
    simp [marks]
  | infinite m =>
    rw [Decimal.fixed]
    exact hsigned m _ (by simp [marks])
  | finite m r =>
    rw [Decimal.fixed]
    refine hsigned m _ fun c hc => ?_
    rcases (hasPlaces_withPlaces _ _).isDigit_or_eq_point c hc with hdigit | rfl
    · exact .inl hdigit
    · exact .inr List.mem_cons_self

/-- Without its commas a grouped magnitude is the ungrouped one. -/
theorem filter_groupedMagnitude_magnitudeChars (places : ℕ) (x : Binary64) :
    (groupedMagnitude (magnitudeChars places x)).filter (· != ',') = magnitudeChars places x := by
  rw [filter_groupedMagnitude, List.filter_eq_self]
  rintro c hc
  rw [bne_iff_ne]
  rintro rfl
  exact absurd (isDigit_or_mem_of_mem_fixed _ _ hc) (by decide)

/-- A sign is no comma. -/
theorem filter_signed (negative : Bool) (cs : List Char) :
    (Decimal.signed negative cs).filter (· != ',') =
      Decimal.signed negative (cs.filter (· != ',')) := by
  cases negative
  · rfl
  · exact List.filter_cons_of_pos (by decide)

/-! ### Grouped numbers -/

/-- A text is a number with its digits in groups: a minus exactly before a number below zero, a
whole part in groups, so many fraction digits. Without its commas it is the ungrouped number. -/
structure IsGroupingOf (places : ℕ) (x : Binary64) (cs : List Char) : Prop where
  form : ∃ magnitude, cs = Decimal.signed (decide (x.value < 0)) magnitude ∧
    HasPlaces IsGrouped places magnitude
  ungrouped : cs.filter (· != ',') =
    Decimal.signed (decide (x.value < 0)) (magnitudeChars places x)

/-- What is written grouped is the number that would be written plainly, with commas. -/
theorem isGroupingOf_groupedChars (hx : x.isFinite = true) (h : ¬ Overflows places x) :
    IsGroupingOf places x (groupedChars places x) where
  form := ⟨_, by rw [groupedChars, isNegative_eq hx], hasPlaces_groupedChars hx h⟩
  ungrouped := by
    rw [groupedChars, isNegative_eq hx, filter_signed, filter_groupedMagnitude_magnitudeChars]

/-! ### Amounts of money -/

/-- How an amount of money is shown: a negative one as a minus before the opposite amount, the
dollar sign directly before a digit and nowhere else, and in the negative tone exactly behind a
minus. -/
structure IsAmountOf (x : Binary64) (shown : Shown) : Prop where
  opposite : x.value < 0 → shown.text = "-" ++ currency (-x)
  dollar : ∃ c cs, shown.text.toList = Decimal.signed (decide (x.value < 0)) ('$' :: c :: cs) ∧
    c.isDigit = true ∧ '$' ∉ cs
  tone : shown.tone = .negative ↔ shown.text.toList.head? = some '-'

/-- A grouped number begins with a digit. -/
theorem HasPlaces.exists_eq_cons (h : HasPlaces IsGrouped places cs) :
    ∃ c rest, cs = c :: rest ∧ c.isDigit = true := by
  have hgrouped : ∀ {cs : List Char}, IsGrouped cs →
      ∃ c rest, cs = c :: rest ∧ c.isDigit = true := by
    rintro _ ⟨hgroup, -, -⟩
    obtain ⟨c, group, rfl⟩ := List.exists_cons_of_ne_nil hgroup.ne_nil
    exact ⟨c, _, rfl, hgroup.isDigit c List.mem_cons_self⟩
  obtain ⟨h⟩ | ⟨h, -⟩ := h
  · exact hgrouped h
  · obtain ⟨c, rest, rfl, hc⟩ := hgrouped h
    exact ⟨c, _, rfl, hc⟩

/-- The tone is negative for values below zero. -/
theorem tone_of_eq_negative_iff (hx : x.isFinite = true) : Tone.of x = .negative ↔ x.value < 0 := by
  have hzero := ofNat_isNear (n := 0) (by decide)
  have hvalue : (0 : Binary64).value = 0 := hzero.value_eq.trans Nat.cast_zero
  have hpositive := lt_iff hzero.finite hx
  have hnegative := lt_iff hx hzero.finite
  change Binary64.lt 0 x = true ↔ _ at hpositive
  change x.lt 0 = true ↔ _ at hnegative
  change _ ↔ x.value < (0 : Binary64).value at hnegative
  change _ ↔ (0 : Binary64).value < x.value at hpositive
  rw [hvalue] at hpositive hnegative
  rw [Tone.of]
  split_ifs with hpos hneg
  · simp [(hpositive.mp hpos).le]
  · simpa using hnegative.mp hneg
  · simpa using mt hnegative.mpr hneg

/-- An amount is written with its dollar sign behind the sign of the value. -/
theorem isAmountOf_currency (hx : x.isFinite = true) (h : ¬ Overflows 2 x) :
    IsAmountOf x (.currency x) := by
  have htext : (Shown.currency x).text.toList = Decimal.signed (decide (x.value < 0))
      ('$' :: groupedMagnitude (magnitudeChars 2 x)) := by
    change (currency x).toList = _
    rw [currency, String.toList_ofList, currencyChars_eq hx, isNegative_eq hx]
  refine ⟨fun hneg => ?_, ?_, ?_⟩
  · -- the opposite amount has the same digits and no sign
    have hfinite : (-x).isFinite = true := (isFinite_neg x).trans hx
    have hvalue : (-x).value = -x.value := value_neg x
    have habs : (-x).abs = x.abs := by cases x <;> rfl
    have hdigits : magnitudeChars 2 (-x) = magnitudeChars 2 x := by
      rw [magnitudeChars, scaledMagnitude, habs]
      rfl
    have hopposite : isNegative (-x) = false := by
      rw [isNegative_eq hfinite, hvalue, decide_eq_false_iff_not, not_lt]
      linarith
    rw [← String.toList_inj, htext, decide_eq_true hneg, String.toList_append, currency,
      String.toList_ofList, currencyChars_eq hfinite, hopposite, hdigits, String.toList_ofList]
    rfl
  · obtain ⟨c, cs, hcs, hc⟩ := (hasPlaces_groupedChars hx h).exists_eq_cons
    refine ⟨c, cs, hcs ▸ htext, hc, fun hdollar => ?_⟩
    -- a dollar among the digits would be left when the commas are gone
    have hmem : '$' ∈ (groupedMagnitude (magnitudeChars 2 x)).filter (· != ',') := by
      rw [hcs]
      exact List.mem_filter.mpr ⟨List.mem_cons_of_mem c hdollar, by decide⟩
    rw [filter_groupedMagnitude_magnitudeChars] at hmem
    exact absurd (isDigit_or_mem_of_mem_fixed _ _ hmem) (by decide)
  · rw [htext, Shown.currency, tone_of_eq_negative_iff hx]
    by_cases hneg : x.value < 0 <;> simp [hneg, Decimal.signed]

/-- **Grouping only inserts commas, in the right places.** A finite value whose scaling to a number
of places does not overflow has a text at that many places, which is its number in groups. If that
is so for two places, its amount of money has a single sign, which text and tone agree on. -/
theorem grouped_inserts_commas (hx : x.isFinite = true) :
    (∀ places, ¬ Overflows places x →
      ∃ text, grouped? places x = some text ∧ IsGroupingOf places x text.toList) ∧
    (¬ Overflows 2 x → IsAmountOf x (.currency x)) := by
  refine ⟨fun places h => ?_, isAmountOf_currency hx⟩
  have hplaces : places ≤ maxPlaces := (power_of_not_overflows hx h).2.2.trans (by decide)
  refine ⟨grouped places x, if_pos hplaces, ?_⟩
  rw [grouped, String.toList_ofList]
  exact isGroupingOf_groupedChars hx h

/-- A negative amount of over a thousand. -/
def debt : Binary64 := .ofRatio true 12345 10

/-- It is written with one comma, as a number and as an amount. -/
theorem grouped_inserts_commas_debt : debt.isFinite = true ∧ ¬ Overflows 2 debt ∧
    grouped? 2 debt = some "-1,234.50" ∧ IsGroupingOf 2 debt "-1,234.50".toList ∧
    currency debt = "-$1,234.50" ∧ IsAmountOf debt (.currency debt) := by
  have hfinite : debt.isFinite = true := by decide +kernel
  have hscaled : ¬ Overflows 2 debt := by
    rw [Overflows]
    decide +kernel
  have htext : grouped? 2 debt = some "-1,234.50" := by decide +kernel
  obtain ⟨hgrouping, hamount⟩ := grouped_inserts_commas hfinite
  obtain ⟨text, hsome, hform⟩ := hgrouping 2 hscaled
  rw [htext] at hsome
  cases hsome
  exact ⟨hfinite, hscaled, htext, hform, by decide +kernel, hamount hscaled⟩

end Display

end RiskBoard
