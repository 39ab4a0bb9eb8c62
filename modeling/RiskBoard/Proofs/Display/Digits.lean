import Mathlib.Data.List.TakeWhile
import RiskBoard.Display
import RiskBoard.Proofs.Binary64.Monotone

/-!
# The form of shown numbers

A shown number is a whole part, which is digits or digits in groups, and behind a point so many
fraction digits (`Display.HasPlaces`); a minus may stand before it, and before an amount of money a
dollar sign. `Decimal.fixed` writes every finite double in this form, and grouping keeps it.

What can go wrong is an overflow on the way. `fixed` has none: a tie is never the last double
(`Display.untied_four`). `grouped` scales a value up before it rounds it, so at two places a finite
value whose hundredfold is beyond the last double is shown as an infinity
(`Display.isAmount_currencyChars_iff`).
-/

namespace RiskBoard

namespace Display

/-! ### Forms -/

/-- At least one character, all of them digits. -/
structure IsDigits (cs : List Char) : Prop where
  ne_nil : cs ≠ []
  isDigit : ∀ c ∈ cs, c.isDigit = true

/-- Groups of three digits, each behind a comma. -/
inductive IsGroups : List Char → Prop
  | nil : IsGroups []
  | cons {group rest : List Char} (hgroup : IsDigits group) (hlength : group.length = 3)
    (h : IsGroups rest) : IsGroups (',' :: (group ++ rest))

/-- Digits in groups of three with a comma between them, the first group having one to three. -/
inductive IsGrouped : List Char → Prop
  | intro {group rest : List Char} (hgroup : IsDigits group) (hlength : group.length ≤ 3)
    (h : IsGroups rest) : IsGrouped (group ++ rest)

/-- A number with so many fraction digits, which stand behind a point if there are some. -/
inductive HasPlaces (IsWhole : List Char → Prop) : ℕ → List Char → Prop
  | whole {cs : List Char} (h : IsWhole cs) : HasPlaces IsWhole 0 cs
  | point {cs fraction : List Char} (h : IsWhole cs) (hfraction : IsDigits fraction) :
    HasPlaces IsWhole fraction.length (cs ++ '.' :: fraction)

/-- A text of some form, perhaps behind a minus. -/
inductive IsSigned (IsMagnitude : List Char → Prop) : List Char → Prop
  | plain {cs : List Char} (h : IsMagnitude cs) : IsSigned IsMagnitude cs
  | minus {cs : List Char} (h : IsMagnitude cs) : IsSigned IsMagnitude ('-' :: cs)

/-- A dollar sign before a grouped number with two fraction digits. -/
inductive IsDollars : List Char → Prop
  | intro {cs : List Char} (h : HasPlaces IsGrouped 2 cs) : IsDollars ('$' :: cs)

/-- An amount of money. -/
def IsAmount (cs : List Char) : Prop := IsSigned IsDollars cs

/-- A sign in front of a magnitude. -/
theorem isSigned_signed {IsMagnitude : List Char → Prop} {cs : List Char} (h : IsMagnitude cs)
    (negative : Bool) : IsSigned IsMagnitude (Decimal.signed negative cs) := by
  rw [Decimal.signed]
  split_ifs
  · exact .minus h
  · exact .plain h

/-! ### Digits -/

section Digits

variable {cs : List Char}

theorem isDigits_singleton {c : Char} (hc : c.isDigit = true) : IsDigits [c] :=
  ⟨List.cons_ne_nil c [], fun d hd => by rwa [List.mem_singleton.mp hd]⟩

theorem IsDigits.cons {c : Char} (h : IsDigits cs) (hc : c.isDigit = true) : IsDigits (c :: cs) :=
  ⟨List.cons_ne_nil c cs, List.forall_mem_cons.mpr ⟨hc, h.isDigit⟩⟩

/-- A natural number is written in digits. -/
theorem isDigits_toDigits (n : ℕ) : IsDigits (Nat.toDigits 10 n) :=
  ⟨Nat.toDigits_ne_nil, fun _ h => Nat.isDigit_of_mem_toDigits (by decide) le_rfl h⟩

theorem isDigit_zeros (n : ℕ) : ∀ c ∈ List.replicate n '0', c.isDigit = true := by
  intro c hc
  rw [List.eq_of_mem_replicate hc]
  rfl

theorem IsDigits.zeros_append (h : IsDigits cs) (n : ℕ) :
    IsDigits (List.replicate n '0' ++ cs) :=
  ⟨List.append_ne_nil_of_right_ne_nil _ h.ne_nil,
    List.forall_mem_append.mpr ⟨isDigit_zeros n, h.isDigit⟩⟩

theorem isDigits_padded (width n : ℕ) : IsDigits (Decimal.padded width n) :=
  (isDigits_toDigits n).zeros_append _

/-- Padding fills up to the width and no further. -/
theorem length_padded {width n : ℕ} (hwidth : 0 < width) (h : n < 10 ^ width) :
    (Decimal.padded width n).length = width := by
  have hlength : (Nat.toDigits 10 n).length ≤ width :=
    (Nat.length_toDigits_le_iff (by decide) hwidth).mpr h
  rw [Decimal.padded, List.length_append, List.length_replicate, Nat.sub_add_cancel hlength]

/-- A number of units is written with its places. -/
theorem hasPlaces_withPlaces (places n : ℕ) :
    HasPlaces IsDigits places (Decimal.withPlaces places n) := by
  rw [Decimal.withPlaces]
  split_ifs with hzero
  · rw [hzero]
    exact .whole (isDigits_toDigits n)
  · have hlength : (Decimal.padded places (n % Nat.pow 10 places)).length = places :=
      length_padded (Nat.pos_of_ne_zero hzero) (Nat.mod_lt _ (Nat.pow_pos (by decide)))
    have hpoint := HasPlaces.point (isDigits_toDigits (n / Nat.pow 10 places))
      (isDigits_padded places (n % Nat.pow 10 places))
    rwa [hlength] at hpoint

/-! ### Groups -/

/-- What grouping makes of digits: a first group that holds what is over, and groups of three. -/
theorem exists_groups (h : IsDigits cs) : ∃ group rest, groupThousands cs = group ++ rest ∧
    IsDigits group ∧ group.length = (cs.length - 1) % 3 + 1 ∧ IsGroups rest := by
  induction cs with
  | nil => exact absurd rfl h.ne_nil
  | cons c cs ih =>
    have hc : c.isDigit = true := h.isDigit c List.mem_cons_self
    rw [groupThousands]
    rcases eq_or_ne cs [] with rfl | hne
    · exact ⟨[c], [], rfl, isDigits_singleton hc, rfl, .nil⟩
    obtain ⟨group, rest, hcs, hgroup, hlength, hrest⟩ :=
      ih ⟨hne, fun d hd => h.isDigit d (List.mem_cons_of_mem c hd)⟩
    have hpos : 0 < cs.length := List.length_pos_iff.mpr hne
    rw [hcs]
    by_cases hfull : cs.length % 3 = 0
    · -- what follows starts with a full group, so a comma stands before it
      refine ⟨[c], ',' :: (group ++ rest), ?_, isDigits_singleton hc, ?_, .cons hgroup ?_ hrest⟩
      · simp [hfull, hne]
      · rw [List.length_singleton, List.length_cons]
        omega
      · omega
    · refine ⟨c :: group, rest, ?_, hgroup.cons hc, ?_, hrest⟩
      · simp [hfull]
      · rw [List.length_cons, List.length_cons]
        omega

/-- Digits are grouped by threes from behind. -/
theorem isGrouped_groupThousands (h : IsDigits cs) : IsGrouped (groupThousands cs) := by
  obtain ⟨group, rest, hcs, hgroup, hlength, hrest⟩ := exists_groups h
  rw [hcs]
  exact .intro hgroup (by omega) hrest

/-- Taking all commas away undoes grouping. -/
theorem filter_groupThousands (cs : List Char) :
    (groupThousands cs).filter (· != ',') = cs.filter (· != ',') := by
  induction cs with
  | nil => rfl
  | cons c cs ih =>
    rw [groupThousands]
    split_ifs
    · rw [List.filter_cons, List.filter_cons_of_neg (by decide), ih, List.filter_cons]
    · rw [List.filter_cons, ih, List.filter_cons]

/-- Without its commas a grouped number is the number. -/
theorem filter_groupedMagnitude (cs : List Char) :
    (groupedMagnitude cs).filter (· != ',') = cs.filter (· != ',') := by
  rw [groupedMagnitude, List.filter_append, filter_groupThousands, ← List.filter_append,
    List.takeWhile_append_dropWhile]

theorem IsDigits.ne_point (h : IsDigits cs) : ∀ c ∈ cs, (c != '.') = true := by
  intro c hc
  have hdigit := h.isDigit c hc
  rw [bne_iff_ne]
  rintro rfl
  cases hdigit

/-- Grouping keeps the fraction. -/
theorem hasPlaces_groupedMagnitude {places : ℕ} (h : HasPlaces IsDigits places cs) :
    HasPlaces IsGrouped places (groupedMagnitude cs) := by
  rw [groupedMagnitude]
  obtain ⟨hcs⟩ | @⟨cs, fraction, hcs, hfraction⟩ := h
  · rw [List.takeWhile_eq_self_iff.mpr hcs.ne_point, List.dropWhile_eq_nil_iff.mpr hcs.ne_point,
      List.append_nil]
    exact .whole (isGrouped_groupThousands hcs)
  · rw [List.takeWhile_append_of_pos hcs.ne_point, List.dropWhile_append_of_pos hcs.ne_point]
    rw [List.takeWhile_cons_of_neg (by decide), List.dropWhile_cons_of_neg (by decide),
      List.append_nil]
    exact .point (isGrouped_groupThousands hcs) hfraction

end Digits

/-! ### Doubles -/

open Binary64

section Doubles

variable {x : Binary64} {places : ℕ}

/-- A magnitude is written as a number of units of the last place. -/
theorem fixed_finite (places : ℕ) (r : Fin Rank.limit) : Decimal.fixed places (finite false r) =
    Decimal.withPlaces places (Decimal.Fixed.scaled places r) := by
  rw [Decimal.fixed, Decimal.signed, if_neg Bool.false_ne_true]

/-- A magnitude is written in digits, with so many places. -/
theorem hasPlaces_fixed (h : IsMagnitude x) (places : ℕ) :
    HasPlaces IsDigits places (Decimal.fixed places x) := by
  obtain ⟨r⟩ := h
  rw [fixed_finite]
  exact hasPlaces_withPlaces places _

/-- Negative zero has no sign. -/
theorem isNegative_eq (hx : x.isFinite = true) : isNegative x = decide (x.value < 0) := by
  have hzero : (0 : Binary64).IsNear 0 0 := by
    have hnear := ofNat_isNear (n := 0) (by decide)
    rwa [Nat.cast_zero] at hnear
  rw [isNegative, Bool.eq_iff_iff, lt_iff hx hzero.finite, hzero.value_eq, decide_eq_true_eq]

/-- A magnitude is not written with a sign. -/
theorem isNegative_of_isMagnitude (h : IsMagnitude x) : isNegative x = false := by
  rw [isNegative_eq h.isFinite, decide_eq_false_iff_not, not_lt]
  exact h.value_nonneg

/-- The last double is no tie at four places, so the next one in place of a tie is finite. -/
theorem untied_four (h : IsMagnitude x) : IsMagnitude (untied 4 x) := by
  rw [untied]
  split_ifs with htie
  · obtain ⟨r⟩ := h
    have hlast : isTie 4 (finite false ⟨Rank.limit - 1, by decide⟩) = false := by decide +kernel
    -- a tie has a next double, for the last one is none
    have hnext : r.val + 1 < Rank.limit := by
      by_contra hge
      have hlt := r.isLt
      have hr : r = ⟨Rank.limit - 1, by decide⟩ :=
        Fin.ext (show r.val = Rank.limit - 1 by omega)
      rw [hr, hlast] at htie
      cases htie
    rw [awayFromZero, dif_pos hnext]
    exact .intro _
  · exact h

/-- Greeks are shown as digits, with four of them behind the point. -/
theorem isSigned_fixedChars_four (hx : x.isFinite = true) :
    IsSigned (HasPlaces IsDigits 4) (fixedChars 4 x) :=
  isSigned_signed (hasPlaces_fixed (untied_four (isMagnitude_abs hx)) 4) _

/-- Scaling a value to so many places overflows. A product that is no number counts too: it is that
of zero and a power of ten that is itself too large. -/
def Overflows (places : ℕ) (x : Binary64) : Prop := (x.abs * power 10 places).isFinite = false

/-- The scale is close to a power of ten. -/
private theorem power_spec (hplaces : places ≤ 305) : IsMagnitude (power 10 places) ∧
    (power 10 places).value ≤ 10 ^ places * 2 := by
  have hpower := power_isNear hplaces
  have hpos : (0 : ℚ) < 10 ^ places := by positivity
  obtain ⟨hlow, hhigh⟩ := hpower.approx.bounds (by omega) hpos.le
  exact ⟨isMagnitude_of_pos hpower.finite (by linarith), by linarith⟩

/-- What can be scaled with room for one more digit does not overflow. -/
theorem not_overflows (hx : x.isFinite = true) (hplaces : places ≤ 305)
    (h : |x.value| * 10 ^ (places + 1) ≤ 10 ^ 306) : ¬ Overflows places x := by
  obtain ⟨hpower, hhigh⟩ := power_spec hplaces
  -- the power is rounded, and one more digit makes up for its error
  have hbound : |x.abs.value * (power 10 places).value| ≤ greatest := by
    rw [abs_mul, abs_of_nonneg hpower.value_nonneg, value_abs, abs_abs]
    calc |x.value| * (power 10 places).value
        ≤ |x.value| * (10 ^ places * 2) := by gcongr
      _ ≤ |x.value| * 10 ^ (places + 1) := by
        rw [pow_succ]
        gcongr
        norm_num
      _ ≤ 10 ^ 306 := h
      _ ≤ greatest := WithinTen.ten_pow_le_greatest
  rw [Overflows, isFinite_mul ((isFinite_abs x).trans hx) hpower.isFinite hbound]
  decide

/-- A scale that a product takes without overflow is itself a double, and one of few places. -/
theorem power_of_not_overflows (hx : x.isFinite = true) (h : ¬ Overflows places x) :
    IsMagnitude (power 10 places) ∧ 2 ^ (places * 3) ≤ (power 10 places).value ∧
      places ≤ 341 := by
  have hreaches := reaches_power_ten places
  rw [Overflows] at h
  generalize power 10 places = scale at *
  cases hreaches with
  | infinite =>
    -- times an infinity, a magnitude is infinite or no number
    refine absurd ?_ h
    obtain ⟨m, r, rfl⟩ := exists_eq_finite hx
    change (if r.val = 0 then Binary64.nan else .infinite (false ^^ false)).isFinite = false
    split_ifs <;> rfl
  | magnitude hscale hlow =>
    refine ⟨hscale, hlow, ?_⟩
    have hhigh := abs_value_le hscale.isFinite
    rw [abs_of_nonneg hscale.value_nonneg, greatest, ← pow_succ'] at hhigh
    have := (pow_le_pow_iff_right₀ (one_lt_two (α := ℚ))).mp (hlow.trans hhigh)
    omega

/-- What does not overflow is scaled to a magnitude. -/
theorem isMagnitude_scaled (hx : x.isFinite = true) (h : ¬ Overflows places x) :
    IsMagnitude (x.abs * power 10 places) := by
  obtain ⟨hpower, -, -⟩ := power_of_not_overflows hx h
  rcases (isMagnitude_abs hx).mul_or hpower with hproduct | hinfinite
  · exact hproduct
  · exact absurd (congrArg isFinite hinfinite) h

/-- What is scaled up and rounded is scaled back to a finite double, unless scaling overflows. -/
theorem isMagnitude_scaledMagnitude (hx : x.isFinite = true) (h : ¬ Overflows places x) :
    IsMagnitude (scaledMagnitude places x) := by
  obtain ⟨hpower, hlow, -⟩ := power_of_not_overflows hx h
  have hscaled := (isMagnitude_scaled hx h).roundHalfAway
  rw [scaledMagnitude]
  -- the quotient is no larger than what is divided, which for no places needs its own argument
  rcases Nat.eq_zero_or_pos places with rfl | hpos
  · have hone : power 10 0 = one := by decide +kernel
    rw [hone] at hscaled ⊢
    rwa [div_one_eq hscaled.isFinite]
  · have htwo : (2 : ℚ) ≤ 2 ^ (places * 3) := le_self_pow₀ one_le_two (by omega)
    exact hscaled.div hpower (htwo.trans hlow)

/-- What overflows is infinite from there on. -/
theorem scaledMagnitude_of_overflows (hx : x.isFinite = true) (hplaces : places ≤ 305)
    (h : Overflows places x) : scaledMagnitude places x = .infinite false := by
  obtain ⟨hpower, -⟩ := power_spec hplaces
  rcases (isMagnitude_abs hx).mul_or hpower with hproduct | hinfinite
  · exact absurd (hproduct.isFinite.symm.trans h) (by decide)
  · rw [scaledMagnitude, hinfinite]
    exact hpower.infinite_div

/-- What does not overflow is shown as digits in groups. -/
theorem hasPlaces_groupedChars (hx : x.isFinite = true) (h : ¬ Overflows places x) :
    HasPlaces IsGrouped places (groupedMagnitude (magnitudeChars places x)) :=
  hasPlaces_groupedMagnitude (hasPlaces_fixed (isMagnitude_scaledMagnitude hx h) places)

/-- Notionals are shown as digits in groups. -/
theorem isSigned_groupedChars_zero (hx : x.isFinite = true) :
    IsSigned (HasPlaces IsGrouped 0) (groupedChars 0 x) := by
  refine isSigned_signed (hasPlaces_groupedChars hx ?_) _
  have hone : power 10 0 = one := by decide +kernel
  have habs : x.abs.isFinite = true := (isFinite_abs x).trans hx
  rw [Overflows, hone, mul_one_eq habs, habs]
  decide

/-! ### Amounts of money -/

/-- The text of an amount without its sign. -/
theorem currencyChars_eq (hx : x.isFinite = true) :
    currencyChars x =
      Decimal.signed (isNegative x) ('$' :: groupedMagnitude (magnitudeChars 2 x)) := by
  have habs : x.abs.abs = x.abs := by cases x <;> rfl
  rw [currencyChars, groupedChars, isNegative_of_isMagnitude (isMagnitude_abs hx), magnitudeChars,
    magnitudeChars, scaledMagnitude, scaledMagnitude, habs]
  rfl

/-- A finite value whose hundredfold overflows is shown as an infinity. -/
theorem currencyChars_of_overflows (hx : x.isFinite = true) (h : Overflows 2 x) :
    currencyChars x = Decimal.signed (isNegative x) ['$', 'i', 'n', 'f'] := by
  rw [currencyChars_eq hx, magnitudeChars, scaledMagnitude_of_overflows hx (by decide) h]
  rfl

/-- An amount has a point. -/
theorem IsAmount.point_mem {cs : List Char} (h : IsAmount cs) : '.' ∈ cs := by
  -- two places are not none, so there is a point
  have hdollars : ∀ {cs : List Char}, IsDollars cs → '.' ∈ cs := by
    rintro _ ⟨hnumber⟩
    generalize hplaces : 2 = places at hnumber
    obtain _ | ⟨-, -⟩ := hnumber
    · cases hplaces
    · simp
  obtain hplain | hminus := h
  · exact hdollars hplain
  · exact List.mem_cons_of_mem _ (hdollars hminus)

/-- Infinity is written without one, so it is no amount. -/
theorem not_isAmount_infinity (negative : Bool) :
    ¬ IsAmount (Decimal.signed negative ['$', 'i', 'n', 'f']) := by
  intro h
  have hpoint := h.point_mem
  cases negative
  · exact absurd hpoint (by decide)
  · exact absurd hpoint (by decide)

/-- A finite value is shown as an amount exactly if its hundredfold does not overflow. -/
theorem isAmount_currencyChars_iff (hx : x.isFinite = true) :
    IsAmount (currencyChars x) ↔ ¬ Overflows 2 x := by
  constructor
  · intro hamount hoverflow
    rw [currencyChars_of_overflows hx hoverflow] at hamount
    exact not_isAmount_infinity _ hamount
  · intro h
    rw [currencyChars_eq hx]
    exact isSigned_signed (.intro (hasPlaces_groupedChars hx h)) _

end Doubles

end Display

end RiskBoard
