import RiskBoard.Chart.Axis
import RiskBoard.Proofs.Binary64.Decades

/-!
# The step of a value axis

The step that is chosen for a spread stands for a round number, one, two or five times a power of
ten, which is hardly below the spread and at most a little more than two and a half times as great
(`Axis.niceStep_isNear`). Round numbers are sparse: the next one is at least twice as great
(`IsRoundNumber.two_mul_le`).
-/

namespace RiskBoard

/-! ### Round numbers -/

/-- One, two or five times a power of ten. -/
def IsRoundNumber (q : ℚ) : Prop :=
  ∃ (c : Nat) (k : Int), (c = 1 ∨ c = 2 ∨ c = 5) ∧ q = c * 10 ^ k

namespace IsRoundNumber

variable {p q : ℚ}

theorem pos (h : IsRoundNumber q) : 0 < q := by
  obtain ⟨c, k, hc, rfl⟩ := h
  have hc' : (0 : ℚ) < c := by
    rcases hc with rfl | rfl | rfl <;> norm_num
  exact mul_pos hc' (zpow_pos (by norm_num) k)

/-- A round number is at least twice a lesser one. -/
theorem two_mul_le (hp : IsRoundNumber p) (hq : IsRoundNumber q) (hlt : p < q) : 2 * p ≤ q := by
  obtain ⟨c, k, hc, rfl⟩ := hp
  obtain ⟨d, l, hd, rfl⟩ := hq
  have hk : (0 : ℚ) < 10 ^ k := zpow_pos (by norm_num) k
  have hc' : (1 : ℚ) ≤ c ∧ (c : ℚ) ≤ 5 := by
    rcases hc with rfl | rfl | rfl <;> norm_num
  have hd' : (1 : ℚ) ≤ d ∧ (d : ℚ) ≤ 5 := by
    rcases hd with rfl | rfl | rfl <;> norm_num
  rcases lt_trichotomy k l with hkl | rfl | hkl
  · -- a decade lies between them
    have hpower : (10 : ℚ) ^ k * 10 ≤ 10 ^ l := by
      rw [← zpow_add_one₀ (by norm_num)]
      exact zpow_le_zpow_right₀ (by norm_num) hkl
    nlinarith
  · have hcd : c < d := by exact_mod_cast lt_of_mul_lt_mul_right hlt hk.le
    have hdouble : 2 * (c : ℚ) ≤ d := by exact_mod_cast (by omega : 2 * c ≤ d)
    nlinarith
  · have hpower : (10 : ℚ) ^ l * 10 ≤ 10 ^ k := by
      rw [← zpow_add_one₀ (by norm_num)]
      exact zpow_le_zpow_right₀ (by norm_num) hkl
    have hl : (0 : ℚ) < 10 ^ l := zpow_pos (by norm_num) l
    nlinarith

/-- A round number is a whole multiple of a power of ten that is hardly above it. -/
theorem exists_natCast_mul (hq : IsRoundNumber q) {l : Int} (h : (10 : ℚ) ^ l * (99 / 100) ≤ q) :
    ∃ g : Nat, q = g * 10 ^ l := by
  obtain ⟨c, k, hc, rfl⟩ := hq
  have hlk : l ≤ k := by
    by_contra hkl
    have hpower : (10 : ℚ) ^ k * 10 ≤ 10 ^ l := by
      rw [← zpow_add_one₀ (by norm_num)]
      exact zpow_le_zpow_right₀ (by norm_num) (by omega)
    have hk : (0 : ℚ) < 10 ^ k := zpow_pos (by norm_num) k
    have hc' : (c : ℚ) ≤ 5 := by
      rcases hc with rfl | rfl | rfl <;> norm_num
    nlinarith
  refine ⟨c * 10 ^ (k - l).toNat, ?_⟩
  have hsplit : k = (k - l).toNat + l := by omega
  conv_lhs => rw [hsplit, zpow_add₀ (by norm_num), zpow_natCast]
  push_cast
  ring

end IsRoundNumber

namespace Axis

open Binary64

variable {x : Binary64}

/-- A spread that is close to a whole number becomes one. -/
theorem snapped_eq (x : Binary64) :
    snapped x = if (x - x.roundHalfAway).abs.le (x / ofInt 1000) then x.roundHalfAway else x := rfl

/-- A spread that is snapped to a whole number hardly changes. -/
theorem snapped_spec (hx : x.isFinite = true) (hwithin : WithinTen 302 x.value) :
    (snapped x).isFinite = true ∧ x.value * (99 / 100) ≤ (snapped x).value ∧
      (snapped x).value ≤ x.value * (101 / 100) := by
  have hpos := hwithin.pos
  obtain ⟨i, hwhole, hhalf⟩ := roundHalfAway_isNear hx
  rw [snapped_eq]
  split
  case isFalse => exact ⟨hx, by linarith, by linarith⟩
  case isTrue hsnap =>
    have hvalue := hwhole.value_eq
    rw [abs_sub_comm] at hhalf
    have hbound : (1 / 2 : ℚ) ≤ greatest :=
      le_trans (by norm_num) ((one_le_pow₀ (by norm_num)).trans WithinTen.ten_pow_le_greatest)
    have hdifference := (IsNear.sub_value hx hwhole.finite (hvalue ▸ hhalf.trans hbound)).abs
    have hthousand : (ofInt 1000).IsNear 0 (1000 : Int) := ofInt_isNear (by decide)
    have hrange : WithinTen 305 (x.value / (1000 : Int)) :=
      hwithin.of_scaled 3 (by norm_num) (by norm_num; linarith)
    have hquotient := (IsNear.self hx).div hthousand (by norm_num) (by decide)
      (.of_within hrange le_rfl)
    rw [le_iff hdifference.finite hquotient.finite] at hsnap
    have hbelow := (hdifference.approx.bounds (by decide) (abs_nonneg _)).1
    have habove := (hquotient.approx.bounds (by decide) hrange.pos.le).2
    rw [hvalue] at hbelow ⊢
    push_cast at habove
    have hclose : |x.value - i| ≤ x.value / 100 := by linarith
    obtain ⟨hleft, hright⟩ := abs_le.mp hclose
    exact ⟨hwhole.finite, by linarith, by linarith⟩

/-- A fraction of a decade is rounded up to 1, 2, 5 or 10, which is at most two and a half times as
great. -/
theorem roundFraction_spec (hx : x.isFinite = true) (hlow : 99 / 100 ≤ x.value)
    (hhigh : x.value ≤ 1001 / 100) :
    ∃ c : Nat, (c = 1 ∨ c = 2 ∨ c = 5 ∨ c = 10) ∧ (roundFraction x).IsNear 0 c ∧
      x.value ≤ c * (1001 / 1000) ∧ c ≤ x.value * (51 / 20) := by
  have hone : (ofInt 1).IsNear 0 (1 : Int) := ofInt_isNear (by decide)
  have htwo : (ofInt 2).IsNear 0 (2 : Int) := ofInt_isNear (by decide)
  have hfive : (ofInt 5).IsNear 0 (5 : Int) := ofInt_isNear (by decide)
  have hten : (ofInt 10).IsNear 0 (10 : Int) := ofInt_isNear (by decide)
  have heq : roundFraction x = if x.le (ofInt 1) then ofInt 1 else if x.le (ofInt 2) then ofInt 2
      else if x.le (ofInt 5) then ofInt 5 else ofInt 10 := rfl
  rw [heq]
  simp only [le_iff hx hone.finite, le_iff hx htwo.finite, le_iff hx hfive.finite, hone.value_eq,
    htwo.value_eq, hfive.value_eq]
  push_cast
  split_ifs with h1 h2 h5
  · exact ⟨1, .inl rfl, hone, by push_cast; linarith, by push_cast; linarith⟩
  · exact ⟨2, .inr (.inl rfl), htwo, by push_cast; linarith, by push_cast; linarith⟩
  · exact ⟨5, .inr (.inr (.inl rfl)), hfive, by push_cast; linarith, by push_cast; linarith⟩
  · exact ⟨10, .inr (.inr (.inr rfl)), hten, by push_cast; linarith, by push_cast; linarith⟩

/-- One, two, five and ten times a power of ten are round. -/
theorem isRoundNumber_mul_zpow {c : Nat} (hc : c = 1 ∨ c = 2 ∨ c = 5 ∨ c = 10) (k : Int) :
    IsRoundNumber (c * 10 ^ k) := by
  rcases hc with rfl | rfl | rfl | rfl
  · exact ⟨1, k, .inl rfl, rfl⟩
  · exact ⟨2, k, .inr (.inl rfl), rfl⟩
  · exact ⟨5, k, .inr (.inr rfl), rfl⟩
  · refine ⟨1, k + 1, .inl rfl, ?_⟩
    rw [zpow_add_one₀ (by norm_num)]
    push_cast
    ring

/-- A round step is a round fraction of the decade of the spread. -/
theorem niceStep_eq (x : Binary64) : niceStep x =
    roundFraction (snapped x / (snapped x).floorLog10.tenToThe) *
      (snapped x).floorLog10.tenToThe := rfl

/-- The decade of a number stands for a power of ten, of which the number is hardly less than one
and less than ten. -/
theorem exists_decade (hx : x.isFinite = true) (hwithin : WithinTen 303 x.value) :
    ∃ (k : Int) (f : ℚ), x.floorLog10.tenToThe.IsNear 2 (10 ^ k) ∧ x.value = f * 10 ^ k ∧
      995 / 1000 < f ∧ f < 10 := by
  obtain ⟨k, hlog, hk, hdecade, hnext⟩ := floorLog10_spec hx hwithin (by decide)
  have hpower : (0 : ℚ) < 10 ^ k := zpow_pos (by norm_num) k
  refine ⟨k, x.value / 10 ^ k, ?_, by rw [div_mul_cancel₀ _ hpower.ne'], ?_, ?_⟩
  · rw [hlog]
    exact tenToThe_isNear (ofInt_isNear (by omega)) (by omega)
  · rw [lt_div_iff₀ hpower]
    linarith
  · rw [div_lt_iff₀ hpower, mul_comm, ← zpow_add_one₀ (by norm_num)]
    exact hnext

/-- **Round steps.** The step for a spread stands for a round number that is hardly below it and at
most a little more than two and a half times as great. -/
theorem niceStep_isNear (hx : x.isFinite = true) (hwithin : WithinTen 302 x.value) :
    ∃ q, IsRoundNumber q ∧ (niceStep x).IsNear 3 q ∧ x.value * (98 / 100) ≤ q ∧
      q ≤ x.value * (26 / 10) := by
  have hpos := hwithin.pos
  obtain ⟨hfinite, hbelow, habove⟩ := snapped_spec hx hwithin
  rw [niceStep_eq]
  generalize snapped x = y at *
  obtain ⟨k, f, hmagnitude, hy, hflow, hfhigh⟩ :=
    exists_decade hfinite (hwithin.of_scaled 1 (by linarith) (by linarith))
  generalize y.floorLog10.tenToThe = magnitude at *
  have hpower : (0 : ℚ) < 10 ^ k := zpow_pos (by norm_num) k
  have hf : y.value / 10 ^ k = f := by rw [hy, mul_div_cancel_right₀ _ hpower.ne']
  have hfwithin : WithinTen 2 f := ⟨by norm_num; linarith, by norm_num; linarith⟩
  have hfraction := (IsNear.self hfinite).div hmagnitude hpower.ne' (by decide)
    (.of_within (hf ▸ hfwithin) (by decide))
  rw [hf] at hfraction
  obtain ⟨herrorlow, herrorhigh⟩ := hfraction.approx.bounds (by decide) hfwithin.pos.le
  obtain ⟨c, hc, hround, hclow, hchigh⟩ := roundFraction_spec hfraction.finite (by linarith)
    (by linarith)
  generalize roundFraction (y / magnitude) = fraction at *
  generalize (y / magnitude).value = g at *
  have hlow : f * (995 / 1000) * 10 ^ k ≤ c * 10 ^ k :=
    mul_le_mul_of_nonneg_right (by linarith) hpower.le
  have hhigh : c * 10 ^ k ≤ f * (256 / 100) * 10 ^ k :=
    mul_le_mul_of_nonneg_right (by linarith) hpower.le
  rw [mul_right_comm, ← hy] at hlow hhigh
  have hrange : WithinTen 303 (c * 10 ^ k) := hwithin.of_scaled 1 (by linarith) (by linarith)
  exact ⟨c * 10 ^ k, isRoundNumber_mul_zpow hc k,
    hround.mul hmagnitude (by decide) (.of_within hrange (by decide)), by linarith, by linarith⟩

end Axis

end RiskBoard
