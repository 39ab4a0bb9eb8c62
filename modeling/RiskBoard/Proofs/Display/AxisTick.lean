import RiskBoard.Proofs.Decimal.Shortest
import RiskBoard.Proofs.Display.Ordered

/-!
# Labels of axis ticks

A label stands for the number before its mark, times a thousand or a million if there is a mark. Of
a magnitude that is one of three functions, in the order of increasing magnitudes: the shortest
decimal, thousands without a fraction, and millions at one place. Each of them keeps the order, and
at the threshold between two of them both give the threshold itself, so labels do not go back at a
threshold either (`Display.tickMagnitude_le`). A sign is put before the label of the magnitude.
-/

namespace RiskBoard

open Binary64

namespace Display

section Labels

variable {places : ℕ} {cs fraction : List Char} {q : ℚ}

/-! ### Reading labels -/

/-- The number that the label of a tick stands for. -/
def tickNumber? (cs : List Char) : Option ℚ :=
  if cs.getLast? = some 'M' then (number? cs.dropLast).map (· * 1000000)
  else if cs.getLast? = some 'K' then (number? cs.dropLast).map (· * 1000)
  else number? cs

/-- The label of a magnitude and the number that it stands for. -/
inductive IsTick : List Char → ℚ → Prop
  | millions {places : ℕ} {cs : List Char} (h : HasPlaces IsDigits places cs) :
    IsTick (cs ++ ['M']) (reading cs * 1000000)
  | thousands {places : ℕ} {cs : List Char} (h : HasPlaces IsDigits places cs) :
    IsTick (cs ++ ['K']) (reading cs * 1000)
  | unmarked {places : ℕ} {cs : List Char} (h : HasPlaces IsDigits places cs) :
    IsTick cs (reading cs)

/-- The labels of magnitudes stand for numbers that are not negative. -/
theorem IsTick.nonneg (h : IsTick cs q) : 0 ≤ q := by
  cases h with
  | millions => exact mul_nonneg (reading_nonneg _) (by norm_num)
  | thousands => exact mul_nonneg (reading_nonneg _) (by norm_num)
  | unmarked => exact reading_nonneg _

theorem IsDigits.exists_getLast? (h : IsDigits cs) : ∃ c, cs.getLast? = some c ∧ c.isDigit = true :=
  ⟨cs.getLast h.ne_nil, List.getLast?_eq_some_getLast h.ne_nil, h.isDigit _ (List.getLast_mem _)⟩

/-- A number ends with a digit, so no letter at the end is part of it. -/
theorem HasPlaces.exists_getLast? (h : HasPlaces IsDigits places cs) :
    ∃ c, cs.getLast? = some c ∧ c.isDigit = true := by
  obtain ⟨h⟩ | @⟨cs, fraction, -, hfraction⟩ := h
  · exact h.exists_getLast?
  · obtain ⟨c, hlast, hc⟩ := hfraction.exists_getLast?
    refine ⟨c, ?_, hc⟩
    rw [List.getLast?_append, List.getLast?_cons, hlast]
    rfl

theorem signed_append (m : Bool) (cs ds : List Char) :
    Decimal.signed m (cs ++ ds) = Decimal.signed m cs ++ ds := by
  cases m <;> rfl

theorem signed_mul (m : Bool) (q p : ℚ) : signed m q * p = signed m (q * p) := by
  cases m
  · rfl
  · exact neg_mul q p

/-- A label is read with its sign. -/
theorem tickNumber?_signed (h : IsTick cs q) (m : Bool) :
    tickNumber? (Decimal.signed m cs) = some (signed m q) := by
  cases h with
  | millions h =>
    rw [signed_append, tickNumber?, if_pos List.getLast?_concat, List.dropLast_concat,
      number?_signed h, Option.map_some, signed_mul]
  | thousands h =>
    rw [signed_append, tickNumber?, if_neg (by rw [List.getLast?_concat]; decide),
      if_pos List.getLast?_concat, List.dropLast_concat, number?_signed h, Option.map_some,
      signed_mul]
  | unmarked h =>
    obtain ⟨c, hlast, hc⟩ := h.exists_getLast?
    have hsigned : (Decimal.signed m cs).getLast? = some c := by
      cases m
      · exact hlast
      · rw [Decimal.signed, if_pos rfl, List.getLast?_cons, hlast]
        rfl
    rw [tickNumber?, hsigned, if_neg, if_neg, number?_signed h]
    · rintro ⟨⟩
      cases hc
    · rintro ⟨⟩
      cases hc

/-! ### Unmarked labels -/

/-- Digits around a point are read as all the digits, divided by a power of ten. -/
theorem reading_point_append (h : IsDigits cs) (hfraction : IsDigits fraction) :
    reading (cs ++ '.' :: fraction) =
      Nat.ofDigitChars 10 (cs ++ fraction) 0 / 10 ^ fraction.length := by
  rw [reading_point h hfraction, Nat.ofDigitChars_append, ← Nat.ofDigitChars_eq_ofDigitChars_zero]

/-- Zeros behind digits. -/
theorem reading_append_zeros (h : IsDigits cs) (n : ℕ) :
    IsDigits (cs ++ List.replicate n '0') ∧
      reading (cs ++ List.replicate n '0') = Nat.ofDigitChars 10 cs 0 * 10 ^ n := by
  have hzeros : IsDigits (cs ++ List.replicate n '0') :=
    ⟨List.append_ne_nil_of_left_ne_nil h.ne_nil _,
      List.forall_mem_append.mpr ⟨h.isDigit, isDigit_zeros n⟩⟩
  refine ⟨hzeros, ?_⟩
  rw [reading_whole hzeros, Nat.ofDigitChars_append, Nat.ofDigitChars_replicate_zero]
  push_cast
  ring

/-- Zeros between a point and digits. -/
theorem reading_zeros_append (h : IsDigits cs) (n : ℕ) :
    HasPlaces IsDigits (n + cs.length) ('0' :: '.' :: (List.replicate n '0' ++ cs)) ∧
      reading ('0' :: '.' :: (List.replicate n '0' ++ cs)) =
        Nat.ofDigitChars 10 cs 0 / 10 ^ (n + cs.length) := by
  have hzero : IsDigits ['0'] := isDigits_singleton rfl
  have hlength : (List.replicate n '0' ++ cs).length = n + cs.length := by
    rw [List.length_append, List.length_replicate]
  have hvalue : Nat.ofDigitChars 10 (['0'] ++ (List.replicate n '0' ++ cs)) 0 =
      Nat.ofDigitChars 10 cs 0 := by
    rw [Nat.ofDigitChars_append, Nat.ofDigitChars_append, Nat.ofDigitChars_replicate_zero]
    rfl
  rw [← hlength]
  refine ⟨.point hzero (h.zeros_append n), ?_⟩
  exact (reading_point_append hzero (h.zeros_append n)).trans (by rw [hvalue])

/-- A point among digits. -/
theorem reading_take_drop (h : IsDigits cs) {n : ℕ} (hpos : 0 < n) (hlt : n < cs.length) :
    HasPlaces IsDigits (cs.length - n) (cs.take n ++ '.' :: cs.drop n) ∧
      reading (cs.take n ++ '.' :: cs.drop n) =
        Nat.ofDigitChars 10 cs 0 / 10 ^ (cs.length - n) := by
  have htake : IsDigits (cs.take n) := by
    refine ⟨?_, fun c hc => h.isDigit c (List.mem_of_mem_take hc)⟩
    rw [Ne, List.take_eq_nil_iff, not_or]
    exact ⟨hpos.ne', h.ne_nil⟩
  have hdrop : IsDigits (cs.drop n) := by
    refine ⟨?_, fun c hc => h.isDigit c (List.mem_of_mem_drop hc)⟩
    rw [Ne, List.drop_eq_nil_iff, not_le]
    exact hlt
  rw [← List.length_drop]
  refine ⟨.point htake hdrop, ?_⟩
  rw [reading_point_append htake hdrop, List.take_append_drop]

/-- Positional notation is read back. -/
theorem reading_positionalText (x : Decimal.Scientific) : ∃ places,
    HasPlaces IsDigits places
        (Decimal.positionalText [] (Nat.toDigits 10 x.coefficient) x.exponent) ∧
      reading (Decimal.positionalText [] (Nat.toDigits 10 x.coefficient) x.exponent) =
        x.value := by
  obtain ⟨c, e⟩ := x
  have hdigits := isDigits_toDigits c
  have hread : Nat.ofDigitChars 10 (Nat.toDigits 10 c) 0 = c :=
    Nat.ofDigitChars_toDigits (by decide) le_rfl
  rw [Decimal.positionalText, Decimal.Scientific.value]
  dsimp only
  generalize Nat.toDigits 10 c = digits at *
  rcases le_or_gt 0 e with hwhole | hneg
  · obtain ⟨n, rfl⟩ := Int.eq_ofNat_of_zero_le hwhole
    rw [if_pos hwhole, List.append_nil, Int.toNat_natCast, zpow_natCast, ← hread]
    exact ⟨0, (reading_append_zeros hdigits n).imp_left .whole⟩
  · obtain ⟨k, rfl⟩ : ∃ k : ℕ, e = -k := ⟨(-e).toNat, by omega⟩
    rw [if_neg hneg.not_ge, zpow_neg, zpow_natCast, ← div_eq_mul_inv, ← hread]
    split_ifs with hsmall
    · have hcount : (-(digits.length + -(k : ℤ))).toNat = k - digits.length := by omega
      have hplaces : k - digits.length + digits.length = k := by omega
      have hzeros := reading_zeros_append hdigits (k - digits.length)
      rw [hplaces] at hzeros
      rw [hcount]
      exact ⟨k, hzeros⟩
    · have hcount : (digits.length + -(k : ℤ)).toNat = digits.length - k := by omega
      have hplaces : digits.length - (digits.length - k) = k := by omega
      have hpoint : HasPlaces IsDigits _ _ ∧ _ :=
        reading_take_drop hdigits (n := digits.length - k) (by omega) (by omega)
      rw [hplaces] at hpoint
      rw [hcount]
      exact ⟨k, hpoint⟩

end Labels

/-! ### Labels of magnitudes -/

section Magnitudes

variable {places : ℕ} {x y s : Binary64} {r : Fin Rank.limit}

/-- The shortest decimal of a magnitude is read back from plain text. -/
theorem reading_write (r : Fin Rank.limit) : ∃ places,
    HasPlaces IsDigits places (Decimal.plainStyle.write (finite false r)) ∧
      reading (Decimal.plainStyle.write (finite false r)) =
        if r.val = 0 then 0 else (Decimal.shortest .up r).value := by
  rw [Decimal.Style.write, Decimal.signed, if_neg Bool.false_ne_true]
  split_ifs with hzero
  · have hdigits : IsDigits ['0'] := isDigits_singleton rfl
    exact ⟨0, .whole hdigits, by decide +kernel⟩
  · exact reading_positionalText (Decimal.shortest .up r)

/-- Plain labels keep the order, since each reads back to its double. -/
theorem reading_write_le (hx : IsMagnitude x) (hy : IsMagnitude y) (h : x.value ≤ y.value) :
    reading (Decimal.plainStyle.write x) ≤ reading (Decimal.plainStyle.write y) := by
  obtain ⟨⟨r⟩, ⟨s⟩⟩ := And.intro hx hy
  rw [value_le_value_iff] at h
  by_cases hr : r.val = 0
  · obtain ⟨-, -, hread⟩ := reading_write r
    rw [hread, if_pos hr]
    exact reading_nonneg _
  · obtain ⟨-, -, hread⟩ := reading_write r
    obtain ⟨-, -, hread'⟩ := reading_write s
    rw [hread, hread', if_neg hr, if_neg (by omega)]
    exact Decimal.value_shortest_le_value_shortest .up hr h

/-- What labels may count: more than one, of which there is one in itself. -/
structure IsTickUnit (s : Binary64) : Prop where
  isMagnitude : IsMagnitude s
  two_le : 2 ≤ s.value
  div_self : s / s = one

/-- Whole numbers of at most 53 bits can be the unit of a label. -/
theorem isTickUnit_ofNat {n : ℕ} (htwo : 2 ≤ n) (hn : n ≤ 2 ^ 53) (h : ofNat n / ofNat n = one) :
    IsTickUnit (ofNat n) ∧ (ofNat n).value = n := by
  have hnear := ofNat_isNear hn
  have hvalue := hnear.value_eq
  have hlow : (2 : ℚ) ≤ n := by exact_mod_cast htwo
  exact ⟨⟨isMagnitude_of_pos hnear.finite (by linarith), by linarith, h⟩, hvalue⟩

theorem isTickUnit_thousand : IsTickUnit 1000 ∧ (1000 : Binary64).value = 1000 :=
  isTickUnit_ofNat (n := 1000) (by decide) (by decide) (by decide +kernel)

theorem isTickUnit_million : IsTickUnit 1000000 ∧ (1000000 : Binary64).value = 1000000 :=
  isTickUnit_ofNat (n := 1000000) (by decide) (by decide) (by decide +kernel)

namespace IsTickUnit

/-- Dividing by a unit gives a magnitude. -/
theorem div (hs : IsTickUnit s) (hx : IsMagnitude x) : IsMagnitude (x / s) :=
  hx.div hs.isMagnitude hs.two_le

/-- It keeps the order. -/
theorem div_le_div (hs : IsTickUnit s) (hx : IsMagnitude x) (hy : IsMagnitude y)
    (h : x.value ≤ y.value) : (x / s).value ≤ (y / s).value :=
  hx.div_le_div hy hs.isMagnitude h (two_pos.trans_le hs.two_le) (hs.div hx) (hs.div hy)

/-- What is not below the unit is not rounded to zero. -/
theorem div_pos (hs : IsTickUnit s) (hx : IsMagnitude x) (h : s.value ≤ x.value) :
    0 < (x / s).value := by
  have hone := hs.div_le_div hs.isMagnitude hx h
  rw [hs.div_self, value_one] at hone
  exact one_pos.trans_le hone

/-- A quotient has the sign of what is divided. -/
theorem exists_div (hs : IsTickUnit s) (r : Fin Rank.limit) :
    ∃ q, ∀ m, finite m r / s = finite m q := by
  obtain ⟨q, hq⟩ : ∃ q, finite false r / s = finite false q := by
    have hquotient := hs.div (.intro r)
    generalize finite false r / s = quotient at hquotient ⊢
    obtain ⟨q⟩ := hquotient
    exact ⟨q, rfl⟩
  refine ⟨q, fun m => ?_⟩
  have htwo := hs.two_le
  obtain ⟨u⟩ := hs.isMagnitude
  have hu : u.val ≠ 0 := by
    intro hzero
    rw [value_finite, hzero, Rank.magnitude_zero, signed_zero] at htwo
    linarith
  rw [finite_div_finite _ _ _ hu, Bool.xor_false, Binary64.round] at hq ⊢
  split_ifs at hq ⊢
  cases hq
  rfl

end IsTickUnit

/-- The number written for a quotient at fixed places. -/
def quotientReading (places : ℕ) (s x : Binary64) : ℚ :=
  reading (Decimal.fixed places (untied places (x / s)))

/-- Labels in one unit keep the order. -/
theorem quotientReading_le (hplaces : places ≤ 1022) (hs : IsTickUnit s) (hx : IsMagnitude x)
    (hy : IsMagnitude y) (h : x.value ≤ y.value) :
    quotientReading places s x ≤ quotientReading places s y := by
  obtain ⟨hux, huy, hle⟩ :=
    untied_le_untied hplaces (hs.div hx) (hs.div hy) (hs.div_le_div hx hy h)
  exact reading_fixed_le hux huy hle places

/-- The number that the label of a magnitude stands for. -/
def tickMagnitude (x : Binary64) : ℚ :=
  if Binary64.le 1000000 x then quotientReading 1 1000000 x * 1000000
  else if Binary64.le 1000 x then quotientReading 0 1000 x * 1000
  else reading (Decimal.plainStyle.write x)

/-- A magnitude is written without a sign. -/
theorem fixedChars_of_isMagnitude (h : IsMagnitude x) :
    fixedChars places x = Decimal.fixed places (untied places x) := by
  have habs : x.abs = x := by
    obtain ⟨r⟩ := h
    rfl
  rw [fixedChars, isNegative_of_isMagnitude h, habs, Decimal.signed, if_neg Bool.false_ne_true]

/-- The label of a magnitude stands for the number that is read off it. -/
theorem isTick_axisTickChars (h : IsMagnitude x) : IsTick (axisTickChars x) (tickMagnitude x) := by
  have hmillions := isTickUnit_million.1.div h
  have hthousands := isTickUnit_thousand.1.div h
  have habs : x.abs = x := by
    obtain ⟨r⟩ := h
    rfl
  rw [axisTickChars, habs, tickMagnitude]
  split_ifs
  · rw [fixedChars_of_isMagnitude hmillions]
    exact .millions (hasPlaces_fixed (isMagnitude_untied (by decide) hmillions) 1)
  · rw [fixedChars_of_isMagnitude hthousands]
    exact .thousands (hasPlaces_fixed (isMagnitude_untied (by decide) hthousands) 0)
  · obtain ⟨r⟩ := h
    obtain ⟨places, hplaces, -⟩ := reading_write r
    exact .unmarked hplaces

/-- That number, by the thresholds of the value. -/
theorem tickMagnitude_eq (h : IsMagnitude x) : tickMagnitude x =
    if 1000000 ≤ x.value then quotientReading 1 1000000 x * 1000000
    else if 1000 ≤ x.value then quotientReading 0 1000 x * 1000
    else reading (Decimal.plainStyle.write x) := by
  obtain ⟨hthousand, hthousandValue⟩ := isTickUnit_thousand
  obtain ⟨hmillion, hmillionValue⟩ := isTickUnit_million
  rw [tickMagnitude]
  simp only [le_iff hthousand.isMagnitude.isFinite h.isFinite, hthousandValue,
    le_iff hmillion.isMagnitude.isFinite h.isFinite, hmillionValue]

/-- At a threshold both labels stand for the threshold, so it does not matter on which side of it a
magnitude is. -/
theorem tickMagnitude_le (hx : IsMagnitude x) (hy : IsMagnitude y) (h : x.value ≤ y.value) :
    tickMagnitude x ≤ tickMagnitude y := by
  obtain ⟨hthousand, hthousandValue⟩ := isTickUnit_thousand
  obtain ⟨hmillion, hmillionValue⟩ := isTickUnit_million
  have hplain : x.value ≤ 1000 → reading (Decimal.plainStyle.write x) ≤ 1000 := by
    intro hle
    have hwrite : reading (Decimal.plainStyle.write 1000) = 1000 := by decide +kernel
    rw [← hwrite]
    exact reading_write_le hx hthousand.isMagnitude (hle.trans_eq hthousandValue.symm)
  have hfew : 1000 ≤ y.value → 1 ≤ quotientReading 0 1000 y := by
    intro hle
    have hread : quotientReading 0 1000 1000 = 1 := by decide +kernel
    rw [← hread]
    exact quotientReading_le (by decide) hthousand hthousand.isMagnitude hy
      (hthousandValue.trans_le hle)
  have hmany : x.value ≤ 1000000 → quotientReading 0 1000 x ≤ 1000 := by
    intro hle
    have hread : quotientReading 0 1000 1000000 = 1000 := by decide +kernel
    rw [← hread]
    exact quotientReading_le (by decide) hthousand hx hmillion.isMagnitude
      (hle.trans_eq hmillionValue.symm)
  have hmillions : 1000000 ≤ y.value → 1 ≤ quotientReading 1 1000000 y := by
    intro hle
    have hread : quotientReading 1 1000000 1000000 = 1 := by decide +kernel
    rw [← hread]
    exact quotientReading_le (by decide) hmillion hmillion.isMagnitude hy
      (hmillionValue.trans_le hle)
  rw [tickMagnitude_eq hx, tickMagnitude_eq hy]
  split_ifs with hxM hyM hyK hxK hyM hyK hyM hyK
  · exact mul_le_mul_of_nonneg_right (quotientReading_le (by decide) hmillion hx hy h)
      (by norm_num)
  · linarith
  · linarith
  · linarith [hmany (not_le.mp hxM).le, hmillions hyM]
  · exact mul_le_mul_of_nonneg_right (quotientReading_le (by decide) hthousand hx hy h)
      (by norm_num)
  · linarith
  · linarith [hplain (not_le.mp hxK).le, hmillions hyM]
  · linarith [hplain (not_le.mp hxK).le, hfew hyK]
  · exact reading_write_le hx hy h

end Magnitudes

/-! ### Signs -/

section Signs

variable {places : ℕ} {v w : Binary64} {r : Fin Rank.limit}

/-- A positive number with a sign is negative exactly by the sign. -/
theorem decide_signed_lt_zero {q : ℚ} (h : 0 < q) (m : Bool) : decide (signed m q < 0) = m := by
  cases m
  · exact decide_eq_false h.le.not_gt
  · exact decide_eq_true (neg_neg_of_pos h)

/-- The sign of a number that is not zero stands before its digits. -/
theorem fixedChars_finite (m : Bool) (h : 0 < (finite false r).value) :
    fixedChars places (finite m r) = Decimal.signed m (fixedChars places (finite false r)) := by
  have hnegative : isNegative (finite m r) = m := by
    rw [value_finite] at h
    rw [isNegative_eq rfl, value_finite]
    exact decide_signed_lt_zero h m
  rw [fixedChars_of_isMagnitude (.intro r), fixedChars, hnegative]
  rfl

/-- A sign stands before the label of the magnitude. -/
theorem axisTickChars_finite (m : Bool) (r : Fin Rank.limit) :
    axisTickChars (finite m r) = Decimal.signed m (axisTickChars (finite false r)) := by
  have hlabel : ∀ {s : Binary64}, IsTickUnit s → Binary64.le s (finite false r) = true →
      ∀ places mark, fixedChars places (finite m r / s) ++ mark =
        Decimal.signed m (fixedChars places (finite false r / s) ++ mark) := by
    intro s hs hle places mark
    obtain ⟨q, hq⟩ := hs.exists_div r
    have hpos := hs.div_pos (.intro r) ((le_iff hs.isMagnitude.isFinite rfl).mp hle)
    rw [hq] at hpos
    rw [hq, hq, fixedChars_finite m hpos, signed_append]
  have habs : ∀ m, (finite m r).abs = finite false r := fun _ => rfl
  rw [axisTickChars, axisTickChars, habs, habs]
  split_ifs with hmillions hthousands
  · exact hlabel isTickUnit_million.1 hmillions 1 ['M']
  · exact hlabel isTickUnit_thousand.1 hthousands 0 ['K']
  · rfl

/-- What a label stands for: the number of the magnitude, with the sign of the value. -/
theorem tickNumber?_axisTickChars (hv : v.isFinite = true) : tickNumber? (axisTickChars v) =
    some (signed (decide (v.value < 0)) (tickMagnitude v.abs)) := by
  obtain ⟨m, r, rfl⟩ := exists_eq_finite hv
  have habs : (finite m r).abs = finite false r := rfl
  rw [axisTickChars_finite, tickNumber?_signed (isTick_axisTickChars (.intro r)), habs,
    value_finite]
  by_cases hzero : r.val = 0
  · -- the sign of zero is written and makes no difference
    obtain rfl : r = ⟨0, by decide⟩ := Fin.ext hzero
    have hread : tickMagnitude (finite false ⟨0, by decide⟩) = 0 := by decide +kernel
    rw [hread, signed_zero, signed_zero]
  · have hpos : 0 < Rank.magnitude r :=
      Rank.magnitude_zero ▸ Rank.magnitude_strictMono (Nat.pos_of_ne_zero hzero)
    rw [decide_signed_lt_zero hpos]

/-- **Labels of ticks do not go back.** For finite values, the number that the label of the lesser
one stands for is not the greater one, whichever units the labels count in and on whichever side of
zero the values are. The label of the opposite of a positive value is its label behind a minus. -/
theorem axisTick_in_order :
    (∀ v w : Binary64, v.isFinite = true → w.isFinite = true → v.le w = true →
      InOrder tickNumber? (axisTick v).toList (axisTick w).toList) ∧
    ∀ v : Binary64, Binary64.lt 0 v = true → axisTick (-v) = "-" ++ axisTick v := by
  refine ⟨fun v w hv hw hle => ?_, fun v hpos => ?_⟩
  · have hread : ∀ {x : Binary64}, x.isFinite = true → 0 ≤ tickMagnitude x.abs :=
      fun hx => (isTick_axisTickChars (isMagnitude_abs hx)).nonneg
    have hup : ∀ {x y : Binary64}, x.isFinite = true → y.isFinite = true →
        |x.value| ≤ |y.value| → tickMagnitude x.abs ≤ tickMagnitude y.abs := by
      intro x y hx hy h
      rw [← value_abs, ← value_abs] at h
      exact tickMagnitude_le (isMagnitude_abs hx) (isMagnitude_abs hy) h
    rw [axisTick, axisTick, String.toList_ofList, String.toList_ofList]
    exact ⟨_, _, tickNumber?_axisTickChars hv, tickNumber?_axisTickChars hw,
      signed_le_signed ((le_iff hv hw).mp hle) (hread hv) (hread hw) (hup hv hw) (hup hw hv)⟩
  · have hminus : "-".toList = ['-'] := rfl
    rw [← String.toList_inj, String.toList_append, hminus, axisTick, axisTick,
      String.toList_ofList, String.toList_ofList]
    have hzero : (0 : Binary64) = zero := by decide +kernel
    obtain ⟨-, hnumber, hplace⟩ := lt_iff_place.mp hpos
    rw [hzero] at hplace
    cases v with
    | nan => cases hnumber
    | infinite m =>
      cases m with
      | false => decide +kernel
      | true => exact absurd hplace (by decide)
    | finite m r =>
      cases m with
      | false =>
        have hneg : -finite false r = finite true r := rfl
        rw [hneg, axisTickChars_finite, Decimal.signed, if_pos rfl, List.singleton_append]
      | true =>
        refine absurd hplace (not_lt.mpr ?_)
        exact neg_nonpos.mpr (Int.natCast_nonneg r.val)

/-- A value just under a million, which is rounded to a thousand thousands. -/
def underMillion : Binary64 := .ofRatio false 1999999 2

/-- Its label and the label of a million stand for the same number. -/
theorem axisTick_in_order_underMillion : underMillion.isFinite = true ∧
    (1000000 : Binary64).isFinite = true ∧ underMillion.le 1000000 = true ∧
    InOrder tickNumber? "1000K".toList "1.0M".toList ∧ Binary64.lt 0 underMillion = true ∧
    axisTick (-underMillion) = "-1000K" := by
  obtain ⟨horder, hopposite⟩ := axisTick_in_order
  have hfinite : underMillion.isFinite = true := by decide +kernel
  have hmillion : (1000000 : Binary64).isFinite = true := by decide +kernel
  have hle : underMillion.le 1000000 = true := by decide +kernel
  have hpos : Binary64.lt 0 underMillion = true := by decide +kernel
  have hlabel : axisTick underMillion = "1000K" := by decide +kernel
  have hlabel' : axisTick 1000000 = "1.0M" := by decide +kernel
  have hread := horder underMillion 1000000 hfinite hmillion hle
  rw [hlabel, hlabel'] at hread
  refine ⟨hfinite, hmillion, hle, hread, hpos, ?_⟩
  rw [hopposite underMillion hpos, hlabel]
  rfl

end Signs

end Display

end RiskBoard
