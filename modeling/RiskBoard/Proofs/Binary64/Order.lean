import RiskBoard.Binary64.Basic

/-!
# The order of doubles

All doubles that are numbers, the infinities among them, have a place on one line of integers: the
rank of the magnitude with its sign, and beyond the last rank the infinities. Comparing numbers is
comparing their places (`Binary64.compare?_eq_place`), so `lt` is transitive, and of two numbers it
holds exactly if `le` does not hold the other way round. What is no number compares to nothing.
-/

namespace RiskBoard.Binary64

variable {x y z : Binary64}

/-- The place of a number in the order of all numbers; the two zeros have the same one. -/
def place : Binary64 → Int
  | .nan => 0
  | .infinite m => if m then -(Rank.limit : Int) else Rank.limit
  | .finite m r => if m then -(r.val : Int) else r.val

/-- Finite doubles stand between the infinities. -/
theorem place_finite_bounds (m : Bool) (r : Fin Rank.limit) :
    (infinite true).place < (finite m r).place ∧ (finite m r).place < (infinite false).place := by
  have hr := r.isLt
  cases m
  · simp only [place, if_true, Bool.false_eq_true, if_false]
    omega
  · simp only [place, if_true, Bool.false_eq_true, if_false]
    omega

/-- Numbers are compared by their places. -/
theorem compare?_eq_place (hx : x.isNaN = false) (hy : y.isNaN = false) :
    compare? x y = some (compare x.place y.place) := by
  cases x with
  | nan => cases hx
  | infinite m =>
    cases y with
    | nan => cases hy
    | infinite n => cases m <;> cases n <;> rfl
    | finite n s =>
      cases m
      · rw [Int.compare_eq_gt.mpr (place_finite_bounds n s).2]
        rfl
      · rw [Int.compare_eq_lt.mpr (place_finite_bounds n s).1]
        rfl
  | finite m r =>
    cases y with
    | nan => cases hy
    | infinite n =>
      cases n
      · rw [Int.compare_eq_lt.mpr (place_finite_bounds m r).2]
        rfl
      · rw [Int.compare_eq_gt.mpr (place_finite_bounds m r).1]
        rfl
    | finite n s => rfl

/-- What is no number compares with nothing. -/
theorem compare?_eq_none (h : x.isNaN = true ∨ y.isNaN = true) : compare? x y = none := by
  rcases h with h | h
  · cases x with
    | nan => rfl
    | infinite | finite => cases h
  · cases y with
    | nan => cases x <;> rfl
    | infinite | finite => cases h

theorem compare?_eq_some_iff {o : Ordering} : compare? x y = some o ↔
    x.isNaN = false ∧ y.isNaN = false ∧ compare x.place y.place = o := by
  cases hx : x.isNaN with
  | true => simp [compare?_eq_none (.inl hx)]
  | false =>
    cases hy : y.isNaN with
    | true => simp [compare?_eq_none (.inr hy)]
    | false => simp [compare?_eq_place hx hy]

/-- To be less is to be a number and to stand before another. -/
theorem lt_iff_place :
    x.lt y = true ↔ x.isNaN = false ∧ y.isNaN = false ∧ x.place < y.place := by
  rw [lt, beq_iff_eq, compare?_eq_some_iff, Int.compare_eq_lt]

theorem le_iff_place :
    x.le y = true ↔ x.isNaN = false ∧ y.isNaN = false ∧ x.place ≤ y.place := by
  rw [le, Bool.or_eq_true, beq_iff_eq, beq_iff_eq, compare?_eq_some_iff, compare?_eq_some_iff,
    Int.compare_eq_lt, Int.compare_eq_eq, ← and_or_left, ← and_or_left, ← Int.le_iff_lt_or_eq]

/-- The order of doubles is transitive, since no comparison with what is no number holds. -/
theorem lt_trans (hxy : x.lt y = true) (hyz : y.lt z = true) : x.lt z = true := by
  obtain ⟨hx, -, hlt⟩ := lt_iff_place.mp hxy
  obtain ⟨-, hz, hlt'⟩ := lt_iff_place.mp hyz
  exact lt_iff_place.mpr ⟨hx, hz, Int.lt_trans hlt hlt'⟩

/-- What something is at most is a number. -/
theorem isNaN_right_of_le (h : x.le y = true) : y.isNaN = false := (le_iff_place.mp h).2.1

/-- Of two numbers, one is before the other or not after it. -/
theorem le_eq_false_iff (hx : x.isNaN = false) (hy : y.isNaN = false) :
    x.le y = false ↔ y.lt x = true := by
  rw [← Bool.not_eq_true, le_iff_place, lt_iff_place]
  simp only [hx, hy, true_and, Int.not_le]

end RiskBoard.Binary64
