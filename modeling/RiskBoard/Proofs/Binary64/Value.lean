import RiskBoard.Binary64.Arith
import RiskBoard.Proofs.Binary64.Rounding

/-!
# The values of doubles

Every finite double has a rational value, and arithmetic on doubles is arithmetic on values up to
one rounding. How far a value may be off is counted in factors of `1 + 2⁻⁵²`: `Approx k x y` says
that `x` is `y` up to `k` of them, either way. Factors add up along products and quotients
(`Approx.mul`, `Approx.div`), and every operation adds one, as long as its exact result is neither
too great nor too small (`Binary64.add_approx`, `sub_approx`, `mul_approx`, `div_approx`; a sum or
difference is never too small).
-/

namespace RiskBoard

/-! ### Relative error -/

/-- The factor by which one rounding may be off. -/
def ulpFactor : ℚ := 1 + 1 / 2 ^ 52

/-- A number is another one up to some factors of `1 + 2⁻⁵²`. -/
def Approx (k : Nat) (x y : ℚ) : Prop :=
  ∃ t, (ulpFactor ^ k)⁻¹ ≤ t ∧ t ≤ ulpFactor ^ k ∧ x = y * t

theorem one_le_ulpFactor : 1 ≤ ulpFactor := by
  unfold ulpFactor
  norm_num

/-- The factors that bound an error are positive. -/
theorem ulpFactor_pow_pos (k : Nat) : 0 < ulpFactor ^ k :=
  pow_pos (one_pos.trans_le one_le_ulpFactor) k

namespace Approx

variable {k l : Nat} {x y z a b : ℚ}

theorem refl (x : ℚ) : Approx 0 x x := ⟨1, by simp, by simp, (mul_one x).symm⟩

/-- A bound on an error may be loosened. -/
theorem mono (h : Approx k x y) (hkl : k ≤ l) : Approx l x y := by
  obtain ⟨t, hlow, hhigh, rfl⟩ := h
  have hpow : ulpFactor ^ k ≤ ulpFactor ^ l := pow_le_pow_right₀ one_le_ulpFactor hkl
  refine ⟨t, le_trans ?_ hlow, hhigh.trans hpow, rfl⟩
  exact inv_anti₀ (ulpFactor_pow_pos k) hpow

/-- The errors of two numbers add up in their product. -/
theorem mul (hx : Approx k x a) (hy : Approx l y b) : Approx (k + l) (x * y) (a * b) := by
  obtain ⟨t, htlow, hthigh, rfl⟩ := hx
  obtain ⟨u, hulow, huhigh, rfl⟩ := hy
  have ht : 0 < t := (inv_pos.mpr (ulpFactor_pow_pos k)).trans_le htlow
  have hu : 0 < u := (inv_pos.mpr (ulpFactor_pow_pos l)).trans_le hulow
  refine ⟨t * u, ?_, ?_, by ring⟩
  · rw [pow_add, mul_inv]
    exact mul_le_mul htlow hulow (inv_pos.mpr (ulpFactor_pow_pos l)).le ht.le
  · rw [pow_add]
    exact mul_le_mul hthigh huhigh hu.le (ulpFactor_pow_pos k).le

theorem neg (h : Approx k x a) : Approx k (-x) (-a) := by
  obtain ⟨t, hlow, hhigh, rfl⟩ := h
  exact ⟨t, hlow, hhigh, by ring⟩

theorem abs (h : Approx k x a) : Approx k |x| |a| := by
  obtain ⟨t, hlow, hhigh, rfl⟩ := h
  have ht : 0 < t := (inv_pos.mpr (ulpFactor_pow_pos k)).trans_le hlow
  exact ⟨t, hlow, hhigh, by rw [abs_mul, abs_of_pos ht]⟩

/-- The inverse is off by as many factors, the other way. -/
theorem inv (h : Approx k x a) : Approx k x⁻¹ a⁻¹ := by
  obtain ⟨t, hlow, hhigh, rfl⟩ := h
  have ht : 0 < t := (inv_pos.mpr (ulpFactor_pow_pos k)).trans_le hlow
  refine ⟨t⁻¹, inv_anti₀ ht hhigh, ?_, by rw [mul_inv]⟩
  exact (inv_le_comm₀ ht (ulpFactor_pow_pos k)).mpr hlow

/-- The errors of two numbers add up in their quotient. -/
theorem div (hx : Approx k x a) (hy : Approx l y b) : Approx (k + l) (x / y) (a / b) := by
  rw [div_eq_mul_inv, div_eq_mul_inv]
  exact hx.mul hy.inv

/-- An error on top of another adds to it. -/
theorem trans (hxy : Approx k x y) (hyz : Approx l y z) : Approx (k + l) x z := by
  obtain ⟨t, htlow, hthigh, rfl⟩ := hxy
  have h := hyz.mul (⟨t, htlow, hthigh, (one_mul t).symm⟩ : Approx k t 1)
  rwa [mul_one, add_comm l k] at h

/-- What is off by a `2⁻⁵³`th is off by one factor. -/
theorem of_abs_sub_le (h : |x - y| ≤ |y| / 2 ^ 53) : Approx 1 x y := by
  rcases eq_or_ne y 0 with rfl | hy
  · have hx : x = 0 := by simpa using h
    exact hx ▸ (refl 0).mono (Nat.zero_le 1)
  · have hy' : 0 < |y| := abs_pos.mpr hy
    have hratio : |x / y - 1| ≤ 1 / 2 ^ 53 := by
      rw [div_sub_one hy, abs_div, div_le_iff₀ hy']
      linarith
    obtain ⟨hlow, hhigh⟩ := abs_le.mp hratio
    refine ⟨x / y, ?_, ?_, by field_simp⟩
    · rw [pow_one]
      refine le_trans ?_ (by linarith : 1 - 1 / 2 ^ 53 ≤ x / y)
      unfold ulpFactor
      norm_num
    · rw [pow_one]
      refine le_trans (by linarith : x / y ≤ 1 + 1 / 2 ^ 53) ?_
      unfold ulpFactor
      norm_num

/-- A number that is too large by one factor at most. -/
theorem of_le_of_le (hy : 0 < y) (hlow : y ≤ x) (hhigh : x ≤ y * ulpFactor) : Approx 1 x y := by
  refine ⟨x / y, ?_, ?_, by field_simp⟩
  · rw [pow_one, le_div_iff₀ hy]
    refine le_trans ?_ hlow
    exact mul_le_of_le_one_left hy.le (inv_le_one_of_one_le₀ one_le_ulpFactor)
  · rw [pow_one, div_le_iff₀ hy, mul_comm]
    exact hhigh

end Approx

/-- Up to a thousand factors amount to less than twice as many `2⁻⁵²`ths. -/
theorem ulpFactor_pow_le {k : Nat} (hk : k ≤ 1000) : ulpFactor ^ k ≤ 1 + k / 2 ^ 51 := by
  induction k with
  | zero => simp
  | succ k ih =>
    have hih := ih (by omega)
    have hk' : (k : ℚ) ≤ 1000 := by exact_mod_cast (by omega : k ≤ 1000)
    have hpos : (0 : ℚ) ≤ k := k.cast_nonneg
    rw [pow_succ]
    calc ulpFactor ^ k * ulpFactor
        ≤ (1 + k / 2 ^ 51) * ulpFactor := by
          gcongr
          exact (one_pos.trans_le one_le_ulpFactor).le
      _ ≤ 1 + (k + 1 : ℕ) / 2 ^ 51 := by
          unfold ulpFactor
          push_cast
          linarith

namespace Approx

variable {k : Nat} {x y : ℚ}

/-- The absolute error that up to a thousand factors allow. -/
theorem abs_sub_le (h : Approx k x y) (hk : k ≤ 1000) : |x - y| ≤ |y| * (k / 2 ^ 51) := by
  obtain ⟨t, hlow, hhigh, rfl⟩ := h
  have hpow := ulpFactor_pow_le hk
  have hpos := ulpFactor_pow_pos k
  have hk0 : (0 : ℚ) ≤ k / 2 ^ 51 := by positivity
  have hinv : 1 - (k : ℚ) / 2 ^ 51 ≤ (ulpFactor ^ k)⁻¹ := by
    have hk' : (k : ℚ) ≤ 1000 := by exact_mod_cast hk
    have hsmall : (k : ℚ) / 2 ^ 51 ≤ 1 := by
      rw [div_le_one (by positivity)]
      linarith
    rw [inv_eq_one_div, le_div_iff₀ hpos]
    calc (1 - (k : ℚ) / 2 ^ 51) * ulpFactor ^ k
        ≤ (1 - k / 2 ^ 51) * (1 + k / 2 ^ 51) := by
          refine mul_le_mul_of_nonneg_left hpow ?_
          linarith
      _ ≤ 1 := by nlinarith
  have ht : |t - 1| ≤ k / 2 ^ 51 := abs_le.mpr ⟨by linarith, by linarith⟩
  calc |y * t - y| = |y| * |t - 1| := by rw [← abs_mul]; congr 1; ring
    _ ≤ |y| * (k / 2 ^ 51) := by gcongr

/-- The error that up to a thousand factors allow. -/
theorem abs_sub_le_of_le (h : Approx k x y) (hk : k ≤ 1000) : |x - y| ≤ |y| / 2 ^ 41 := by
  have hk' : (k : ℚ) / 2 ^ 51 ≤ 1 / 2 ^ 41 := by
    have : (k : ℚ) ≤ 1000 := by exact_mod_cast hk
    rw [div_le_div_iff₀ (by positivity) (by positivity)]
    linarith
  calc |x - y| ≤ |y| * (k / 2 ^ 51) := h.abs_sub_le hk
    _ ≤ |y| * (1 / 2 ^ 41) := by gcongr
    _ = |y| / 2 ^ 41 := by ring

/-- Up to a thousand factors leave more than forty bits right. -/
theorem bounds (h : Approx k x y) (hk : k ≤ 1000) (hy : 0 ≤ y) :
    y * (1 - 1 / 2 ^ 41) ≤ x ∧ x ≤ y * (1 + 1 / 2 ^ 41) := by
  have herror := h.abs_sub_le_of_le hk
  rw [abs_of_nonneg hy, abs_le] at herror
  constructor <;> linarith [herror.1, herror.2]

end Approx

/-! ### Values -/

namespace Rank

/-- How many units make up the number one, as a rational. -/
@[irreducible]
def perOne : ℚ := unitsPerOne

/-- The units in one, as a rational number. -/
theorem cast_unitsPerOne : (unitsPerOne : ℚ) = perOne := by rw [perOne]

theorem perOne_eq : perOne = 2 ^ 1074 := by
  rw [perOne, unitsPerOne_eq, Nat.cast_pow, Nat.cast_ofNat]

theorem perOne_pos : 0 < perOne := perOne_eq ▸ pow_pos two_pos _

/-- The magnitude of a rank. -/
def magnitude (r : Nat) : ℚ := units r / perOne

@[simp] theorem magnitude_zero : magnitude 0 = 0 := by
  rw [magnitude, units_zero, Nat.cast_zero, zero_div]

/-- Higher ranks have greater magnitudes. -/
theorem magnitude_strictMono : StrictMono magnitude := fun r s h => by
  have hunits : (units r : ℚ) < units s := by exact_mod_cast units_strictMono h
  exact div_lt_div_of_pos_right hunits perOne_pos

theorem magnitude_nonneg (r : Nat) : 0 ≤ magnitude r :=
  magnitude_zero ▸ magnitude_strictMono.monotone (Nat.zero_le r)

/-- The magnitude of a rank with a sign. -/
def signedMagnitude (i : Int) : ℚ := if i < 0 then -magnitude i.natAbs else magnitude i.natAbs

/-- Magnitudes with their signs keep the order of signed ranks. -/
theorem signedMagnitude_lt_signedMagnitude {i j : Int} (h : i < j) :
    signedMagnitude i < signedMagnitude j := by
  refine strictMono_int_of_lt_succ (fun k => ?_) h
  unfold signedMagnitude
  rcases lt_trichotomy k (-1) with hlt | rfl | hgt
  · have hrank : (k + 1).natAbs < k.natAbs := by omega
    rw [if_pos (by omega), if_pos (by omega), neg_lt_neg_iff]
    exact magnitude_strictMono hrank
  · have hone : (0 : ℚ) < magnitude 1 := magnitude_zero ▸ magnitude_strictMono one_pos
    simpa using hone
  · rw [if_neg (by omega), if_neg (by omega)]
    exact magnitude_strictMono (by omega)

end Rank

namespace Binary64

/-- The value of a double; it is zero for what is not finite. -/
def value (x : Binary64) : ℚ := x.toRat?.getD 0

/-- A magnitude with a sign. -/
def signed (negative : Bool) (q : ℚ) : ℚ := if negative then -q else q

variable {m n : Bool} {q p : ℚ} {x y : Binary64}

@[simp] theorem abs_signed : |signed m q| = |q| := by cases m <;> simp [signed]

@[simp] theorem signed_zero : signed m 0 = 0 := by cases m <;> simp [signed]

theorem signed_not : signed (!m) q = -signed m q := by cases m <;> simp [signed]

/-- The sign of a product. -/
theorem signed_mul_signed : signed m q * signed n p = signed (m ^^ n) (q * p) := by
  cases m <;> cases n <;> simp [signed]

/-- The sign of a quotient. -/
theorem signed_div_signed : signed m q / signed n p = signed (m ^^ n) (q / p) := by
  cases m <;> cases n <;> simp [signed, neg_div, div_neg]

theorem signed_div : signed m q / p = signed m (q / p) := by cases m <;> simp [signed, neg_div]

/-- An integer is its magnitude with its sign. -/
theorem signed_natAbs (i : Int) : signed (decide (i < 0)) (i.natAbs : ℚ) = i := by
  rw [Nat.cast_natAbs, signed, Int.cast_abs]
  rcases lt_or_ge i 0 with hneg | hnonneg
  · have : (i : ℚ) < 0 := by exact_mod_cast hneg
    rw [if_pos (by simpa using hneg), abs_of_neg this, neg_neg]
  · have : (0 : ℚ) ≤ i := by exact_mod_cast hnonneg
    rw [if_neg (by simpa using hnonneg), abs_of_nonneg this]

/-- A sign that two numbers share goes to their difference. -/
theorem signed_sub_signed : signed m q - signed m p = signed m (q - p) := by
  cases m
  · rfl
  · simp only [signed, if_true]
    ring

/-- The value of a finite double is the magnitude of its rank, with its sign. -/
theorem value_finite (m : Bool) (r : Fin Rank.limit) :
    (finite m r).value = signed m (Rank.magnitude r) := by
  cases m
  · simp only [value, toRat?, signedUnits, signed, Bool.false_eq_true, if_false, Option.getD_some,
      Rank.magnitude, Int.cast_natCast, Rank.cast_unitsPerOne]
  · simp only [value, toRat?, signedUnits, signed, if_true, Option.getD_some, Rank.magnitude,
      Int.cast_neg, Int.cast_natCast, neg_div, Rank.cast_unitsPerOne]

theorem abs_value_finite (m : Bool) (r : Fin Rank.limit) :
    |(finite m r).value| = Rank.magnitude r := by
  rw [value_finite, abs_signed, abs_of_nonneg (Rank.magnitude_nonneg r)]

@[simp] theorem value_zero : zero.value = 0 := by
  rw [zero, value_finite, Rank.magnitude_zero, signed_zero]

/-- Negation changes the sign of the value; what is not finite has the value zero. -/
@[simp] theorem value_neg (x : Binary64) : x.neg.value = -x.value := by
  cases x with
  | nan | infinite => rfl
  | finite m r => rw [neg, value_finite, value_finite, signed_not]

@[simp] theorem value_abs (x : Binary64) : x.abs.value = |x.value| := by
  cases x with
  | nan | infinite => rfl
  | finite m r =>
    rw [abs, value_finite, abs_value_finite]
    rfl

/-- The sign does not decide whether a double is finite. -/
@[simp] theorem isFinite_neg (x : Binary64) : x.neg.isFinite = x.isFinite := by cases x <;> rfl

@[simp] theorem isFinite_abs (x : Binary64) : x.abs.isFinite = x.isFinite := by cases x <;> rfl

/-- A finite double has a sign and a rank. -/
theorem exists_eq_finite (hx : x.isFinite = true) : ∃ m r, x = finite m r := by
  cases x with
  | nan | infinite => cases hx
  | finite m r => exact ⟨m, r, rfl⟩

/-! ### Order -/

/-- A value as the magnitude of a signed rank, the form in which doubles are compared. -/
theorem value_finite_eq_signedMagnitude (m : Bool) (r : Fin Rank.limit) :
    (finite m r).value = Rank.signedMagnitude (if m then -(r.val : Int) else r.val) := by
  rw [value_finite, Rank.signedMagnitude]
  cases m
  · simp [signed]
  · rcases Nat.eq_zero_or_pos r.val with hzero | hpos
    · simp [hzero]
    · simp [signed, hpos]

/-- The order of finite doubles is that of their values. -/
theorem compare?_eq (hx : x.isFinite = true) (hy : y.isFinite = true) :
    compare? x y = some (compare x.value y.value) := by
  obtain ⟨m, r, rfl⟩ := exists_eq_finite hx
  obtain ⟨n, s, rfl⟩ := exists_eq_finite hy
  rw [value_finite_eq_signedMagnitude, value_finite_eq_signedMagnitude]
  have hmono : StrictMono Rank.signedMagnitude := fun _ _ => Rank.signedMagnitude_lt_signedMagnitude
  have hmap := hmono.cmp_map_eq (if m then -(r.val : Int) else r.val)
    (if n then -(s.val : Int) else s.val)
  rw [cmp_eq_compare, cmp_eq_compare] at hmap
  rw [hmap]
  rfl

/-- Finite doubles are compared as their values are. -/
theorem lt_iff (hx : x.isFinite = true) (hy : y.isFinite = true) :
    x.lt y = true ↔ x.value < y.value := by
  rw [lt, compare?_eq hx hy]
  simp [compare_lt_iff_lt]

theorem le_iff (hx : x.isFinite = true) (hy : y.isFinite = true) :
    x.le y = true ↔ x.value ≤ y.value := by
  rw [le, compare?_eq hx hy, le_iff_lt_or_eq]
  simp [compare_lt_iff_lt]

/-- Finite doubles are the same number exactly if their values are equal; zeros are. -/
theorem same_iff (hx : x.isFinite = true) (hy : y.isFinite = true) :
    x.same y = true ↔ x.value = y.value := by
  rw [same, compare?_eq hx hy]
  simp

end Binary64

end RiskBoard
