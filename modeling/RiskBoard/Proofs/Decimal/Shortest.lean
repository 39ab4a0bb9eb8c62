import RiskBoard.Decimal.Shortest
import RiskBoard.Proofs.Binary64.Value

/-!
# Shortest digits read back

The shortest decimal of a rank lies between the midpoints to the neighbouring ranks, so it reads
back to that rank (`Decimal.readsBackTo_shortest`). This does not depend on where the search for
digits starts, nor on how many grids it tries: every decimal that it takes has passed the test, and
what is left when none passes is the exact magnitude. The intervals of two ranks have no more than
an end in common, so shortest decimals are in the order of their ranks
(`Decimal.value_shortest_le_value_shortest`).
-/

namespace RiskBoard.Decimal

/-- The number that a decimal stands for. -/
def Scientific.value (x : Scientific) : ℚ := x.coefficient * 10 ^ x.exponent

/-- The middle between a rank and the next. -/
def midpoint (rank : ℕ) : ℚ := (Rank.magnitude rank + Rank.magnitude (rank + 1)) / 2

/-- A number for which a rank is the nearest one, a tie going to the even rank. -/
def ReadsBackTo (rank : ℕ) (q : ℚ) : Prop :=
  if rank % 2 = 0 then midpoint (rank - 1) ≤ q ∧ q ≤ midpoint rank
  else midpoint (rank - 1) < q ∧ q < midpoint rank

variable {rank r s : ℕ} {q : ℚ}

/-- Higher ranks have higher middles. -/
theorem midpoint_mono : Monotone midpoint := by
  intro r s h
  have hlow := Rank.magnitude_strictMono.monotone h
  have hhigh := Rank.magnitude_strictMono.monotone (Nat.succ_le_succ h)
  rw [midpoint, midpoint]
  linarith

/-- What reads back to a rank is between the middles beside it. -/
theorem ReadsBackTo.bounds (h : ReadsBackTo rank q) :
    midpoint (rank - 1) ≤ q ∧ q ≤ midpoint rank := by
  rw [ReadsBackTo] at h
  split_ifs at h
  · exact h
  · exact h.imp le_of_lt le_of_lt

/-- A magnitude reads back to its own rank. -/
theorem readsBackTo_magnitude (h : rank ≠ 0) : ReadsBackTo rank (Rank.magnitude rank) := by
  have hbelow := Rank.magnitude_strictMono (Nat.sub_one_lt h)
  have habove := Rank.magnitude_strictMono (Nat.lt_succ_self rank)
  have hpred : rank - 1 + 1 = rank := Nat.succ_pred h
  have hstrict : midpoint (rank - 1) < Rank.magnitude rank ∧
      Rank.magnitude rank < midpoint rank := by
    rw [midpoint, midpoint, hpred]
    constructor <;> linarith
  rw [ReadsBackTo]
  split_ifs
  · exact hstrict.imp le_of_lt le_of_lt
  · exact hstrict

namespace Shortest

variable {tie : Tie} {exponent : ℤ} {c fuel : ℕ}

theorem ten_zpow_eq (e : ℤ) : (10 : ℚ) ^ e = 10 ^ e.toNat / 10 ^ (-e).toNat := by
  obtain ⟨n, rfl | rfl⟩ := e.eq_nat_or_neg
  · rw [zpow_natCast, Int.toNat_natCast, Int.toNat_neg_natCast, pow_zero, div_one]
  · rw [zpow_neg, zpow_natCast, Int.toNat_neg_natCast, neg_neg, Int.toNat_natCast, pow_zero,
      one_div]

/-- Twice a decimal, scaled to a whole number. -/
private theorem cast_twice (n : ℕ) (e : ℤ) :
    ((2 * n * (Rank.unitsPerOne * Nat.pow 10 e.toNat) : ℕ) : ℚ) =
      2 * Rank.perOne * (Nat.pow 10 (-e).toNat : ℕ) * Scientific.value ⟨n, e⟩ := by
  have hpower : (10 : ℚ) ^ e * 10 ^ (-e).toNat = 10 ^ e.toNat := by
    rw [ten_zpow_eq]
    exact div_mul_cancel₀ _ (pow_ne_zero _ (by norm_num))
  rw [Scientific.value, Rank.natPow_eq, Rank.natPow_eq]
  push_cast
  rw [Rank.cast_unitsPerOne, ← hpower]
  ring

/-- Twice the middle between two ranks, scaled to a whole number. -/
private theorem cast_middle (a b up : ℕ) : (((Rank.units a + Rank.units b) * up : ℕ) : ℚ) =
    2 * Rank.perOne * up * ((Rank.magnitude a + Rank.magnitude b) / 2) := by
  have hne := Rank.perOne_pos.ne'
  rw [Rank.magnitude, Rank.magnitude]
  push_cast
  field_simp

/-- A decimal that passes the test reads back to the rank. -/
theorem onGrid?_eq_some (hrank : rank ≠ 0) (h : onGrid? tie rank exponent = some c) :
    ReadsBackTo rank (Scientific.value ⟨c, exponent⟩) := by
  have hpred : rank - 1 + 1 = rank := Nat.succ_pred hrank
  unfold onGrid? at h
  extract_lets up unit middle lower upper inside floor rest at h
  have hinside : inside c = true := by
    split at h
    · cases h
    · next hlow _ => exact Option.some.inj h ▸ hlow
    · next _ hhigh => exact Option.some.inj h ▸ hhigh
    · next hlow hhigh =>
      -- the even one of two neighbours is one of them
      have hparity : floor + floor % 2 = floor ∨ floor + floor % 2 = floor + 1 := by omega
      split_ifs at h
      · exact Option.some.inj h ▸ hlow
      · exact Option.some.inj h ▸ hhigh
      · cases tie with
        | up => exact Option.some.inj h ▸ hhigh
        | even =>
          rw [← Option.some.inj h]
          rcases hparity with heq | heq
          · exact heq.symm ▸ hlow
          · exact heq.symm ▸ hhigh
  have hup : (0 : ℚ) < up := Nat.cast_pos.mpr (pow_pos (by decide) _)
  have hscale : 0 < 2 * Rank.perOne * up := mul_pos (mul_pos two_pos Rank.perOne_pos) hup
  have htwice : ((2 * c * unit : ℕ) : ℚ) =
      2 * Rank.perOne * up * Scientific.value ⟨c, exponent⟩ := cast_twice c exponent
  have hlower : (lower : ℚ) = 2 * Rank.perOne * up * midpoint (rank - 1) := by
    rw [midpoint, hpred]
    exact cast_middle _ _ _
  have hupper : (upper : ℚ) = 2 * Rank.perOne * up * midpoint rank := cast_middle _ _ _
  change (if rank % 2 = 0 then decide (lower ≤ 2 * c * unit) && decide (2 * c * unit ≤ upper)
    else decide (lower < 2 * c * unit) && decide (2 * c * unit < upper)) = true at hinside
  rw [ReadsBackTo]
  split_ifs at hinside ⊢ with heven
  · simpa only [Bool.and_eq_true, decide_eq_true_eq, ← Nat.cast_le (α := ℚ), htwice, hlower,
      hupper, mul_le_mul_iff_of_pos_left hscale] using hinside
  · simpa only [Bool.and_eq_true, decide_eq_true_eq, ← Nat.cast_lt (α := ℚ), htwice, hlower,
      hupper, mul_lt_mul_iff_of_pos_left hscale] using hinside

/-- What the search finds reads back. -/
theorem search_eq_some {x : Scientific} (hrank : rank ≠ 0)
    (h : search tie rank fuel exponent = some x) : ReadsBackTo rank x.value := by
  induction fuel generalizing exponent with
  | zero => cases h
  | succ fuel ih =>
    rw [search] at h
    split at h
    · rename_i c hc
      cases h
      exact onGrid?_eq_some hrank hc
    · exact ih h

theorem value_mul_five_pow (u n : ℕ) :
    Scientific.value ⟨u * Nat.pow 5 n, -n⟩ = u / 2 ^ n := by
  have hten : (10 : ℚ) ^ n = 5 ^ n * 2 ^ n := by
    rw [← mul_pow]
    norm_num
  rw [Scientific.value, Rank.natPow_eq, Nat.cast_mul, Nat.cast_pow, Nat.cast_ofNat, zpow_neg,
    zpow_natCast, hten, mul_inv, mul_assoc, mul_inv_cancel_left₀ (pow_ne_zero n (by norm_num)),
    div_eq_mul_inv]

/-- The exact digits have the exact value. -/
theorem value_exact (rank : ℕ) : (exact rank).value = Rank.magnitude rank := by
  have hexponent : (-1074 : ℤ) = -((1074 : ℕ) : ℤ) := rfl
  rw [exact, hexponent, Rank.magnitude, Rank.perOne_eq]
  -- powers this high are not to be computed
  generalize (1074 : ℕ) = n
  exact value_mul_five_pow _ n

/-- Zeros at the end do not change the value. -/
theorem value_stripZeros (fuel : ℕ) (x : Scientific) : (stripZeros fuel x).value = x.value := by
  induction fuel generalizing x with
  | zero => rfl
  | succ fuel ih =>
    rw [stripZeros]
    split_ifs with hzero
    · have hcoefficient : (x.coefficient : ℚ) = (x.coefficient / 10 : ℕ) * 10 := by
        exact_mod_cast (Nat.div_mul_cancel (Nat.dvd_of_mod_eq_zero hzero)).symm
      rw [ih, Scientific.value, Scientific.value, hcoefficient, zpow_add_one₀ (by norm_num)]
      ring
    · rfl

end Shortest

/-- **The shortest decimal reads back.** -/
theorem readsBackTo_shortest (tie : Tie) (h : rank ≠ 0) :
    ReadsBackTo rank (shortest tie rank).value := by
  rw [shortest, Shortest.value_stripZeros]
  cases hsearch : Shortest.search tie rank 17 (Rank.decade rank) with
  | none =>
    rw [Option.getD_none, Shortest.value_exact]
    exact readsBackTo_magnitude h
  | some x => exact Shortest.search_eq_some h hsearch

/-- Shortest decimals are in the order of their ranks. -/
theorem value_shortest_le_value_shortest (tie : Tie) (hr : r ≠ 0) (h : r ≤ s) :
    (shortest tie r).value ≤ (shortest tie s).value := by
  rcases h.eq_or_lt with rfl | hlt
  · exact le_rfl
  · have hs : s ≠ 0 := by omega
    calc (shortest tie r).value
        ≤ midpoint r := (readsBackTo_shortest tie hr).bounds.2
      _ ≤ midpoint (s - 1) := midpoint_mono (Nat.le_sub_one_of_lt hlt)
      _ ≤ (shortest tie s).value := (readsBackTo_shortest tie hs).bounds.1

end RiskBoard.Decimal
