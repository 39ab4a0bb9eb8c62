import Mathlib.Data.List.Basic
import RiskBoard.Dataset.Exposure
import RiskBoard.Proofs.Binary64.Order

/-!
# Offsets of a profile

The offsets of a forward exposure profile are read once, each against the one before. Since the
order of doubles is transitive, that accepts exactly the offsets that are not negative and each
before all later ones (`AxisFault.first?_eq_none_iff`). So the points of every series have such
offsets, and all points with such offsets are a series (`ExposureSeries.ofPoints_eq_ok_iff`).

Other offsets are refused with the fault at the first index that has one
(`AxisFault.first?_eq_some_iff`). Whether an index has a fault can be read off the offset there and
the one before it (`AxisFault.IsAt`), so what follows the first fault does not matter.
-/

namespace RiskBoard

open Binary64

/-- Offsets that are not negative and strictly increase. -/
structure IsAxis (times : List Binary64) : Prop where
  nonneg : ∀ t ∈ times, Binary64.le .zero t = true
  increasing : times.Pairwise fun s t => s.lt t = true

namespace AxisFault

variable {times : List Binary64} {t p : Binary64}

/-- Offsets that follow one that is a number are accepted if they are not negative and strictly
increase from there. -/
theorem first?_some_eq_none_iff (hp : p.isNaN = false) :
    first? (some p) times = none ↔ (∀ t ∈ times, Binary64.le .zero t = true) ∧
      (p :: times).Pairwise fun s t => s.lt t = true := by
  induction times generalizing p with
  | nil => simp [first?]
  | cons t rest ih =>
    rw [first?, List.forall_mem_cons, List.pairwise_cons, List.forall_mem_cons]
    cases hnonneg : Binary64.le .zero t with
    | false => simp
    | true =>
      have ht := isNaN_right_of_le hnonneg
      cases hle : t.le p with
      | true =>
        have hlt : p.lt t ≠ true := by
          rw [ne_eq, ← le_eq_false_iff ht hp, hle]
          decide
        simp [hlt]
      | false =>
        have hlt := (le_eq_false_iff ht hp).mp hle
        simp only [Bool.not_true, Bool.false_eq_true, if_false, ih ht, true_and, hlt]
        -- what follows the later offset follows the earlier one too
        constructor
        · rintro ⟨hall, hpair⟩
          exact ⟨hall, fun s hs => lt_trans hlt (List.rel_of_pairwise_cons hpair hs), hpair⟩
        · rintro ⟨hall, -, hpair⟩
          exact ⟨hall, hpair⟩

theorem first?_eq_none_iff : first? none times = none ↔ IsAxis times := by
  cases times with
  | nil => exact iff_of_true rfl ⟨by simp, .nil⟩
  | cons t rest =>
    rw [first?]
    cases hnonneg : Binary64.le .zero t with
    | false =>
      refine iff_of_false (by simp) fun h => ?_
      rw [h.nonneg t List.mem_cons_self] at hnonneg
      cases hnonneg
    | true =>
      simp only [Bool.not_true, Bool.false_eq_true, if_false,
        first?_some_eq_none_iff (isNaN_right_of_le hnonneg)]
      constructor
      · rintro ⟨hall, hpair⟩
        exact ⟨List.forall_mem_cons.mpr ⟨hnonneg, hall⟩, hpair⟩
      · rintro ⟨hall, hpair⟩
        exact ⟨(List.forall_mem_cons.mp hall).2, hpair⟩

/-! ### The first fault -/

/-- What is wrong with the offset at an index, seen beside the one before it. -/
inductive IsAt (times : List Binary64) : ℕ → AxisFault → Prop
  | negative {i : ℕ} {t : Binary64} (ht : times[i]? = some t)
    (hneg : Binary64.le .zero t = false) : IsAt times i (.negative t)
  /-- An offset that is not negative is compared with the one before. -/
  | notIncreasing {i : ℕ} {t p : Binary64} (ht : times[i + 1]? = some t) (hp : times[i]? = some p)
    (hnonneg : Binary64.le .zero t = true) (hlt : p.lt t = false) :
    IsAt times (i + 1) (.notIncreasing t p)

/-- The fault at an index, where no index before has one. -/
structure IsFirst (times : List Binary64) (i : ℕ) (fault : AxisFault) : Prop where
  isAt : IsAt times i fault
  least : ∀ j < i, ∀ earlier, ¬ IsAt times j earlier

variable {i j : ℕ} {fault other : AxisFault} {rest : List Binary64}

/-- An index has at most one fault. -/
theorem IsAt.unique (h : IsAt times i fault) (h' : IsAt times i other) : fault = other := by
  cases h with
  | negative ht hneg =>
    cases h' with
    | negative ht' => rw [Option.some.inj (ht.symm.trans ht')]
    | notIncreasing ht' _ hnonneg =>
      rw [Option.some.inj (ht.symm.trans ht'), hnonneg] at hneg
      cases hneg
  | notIncreasing ht hp hnonneg =>
    cases h' with
    | negative ht' hneg =>
      rw [← Option.some.inj (ht.symm.trans ht'), hnonneg] at hneg
      cases hneg
    | notIncreasing ht' hp' =>
      rw [Option.some.inj (ht.symm.trans ht'), Option.some.inj (hp.symm.trans hp')]

theorem IsFirst.unique (h : IsFirst times i fault) (h' : IsFirst times j other) :
    fault = other := by
  have hij : i = j := by
    refine Nat.le_antisymm (Nat.le_of_not_lt fun hlt => ?_) (Nat.le_of_not_lt fun hlt => ?_)
    · exact h.least j hlt other h'.isAt
    · exact h'.least i hlt fault h.isAt
  subst hij
  exact h.isAt.unique h'.isAt

theorem IsAt.not_isAxis (h : IsAt times i fault) : ¬ IsAxis times := by
  intro haxis
  cases h with
  | negative ht hneg =>
    rw [haxis.nonneg _ (List.mem_of_getElem? ht)] at hneg
    cases hneg
  | notIncreasing ht hp _ hlt =>
    obtain ⟨hi, rfl⟩ := List.getElem?_eq_some_iff.mp hp
    obtain ⟨hi', rfl⟩ := List.getElem?_eq_some_iff.mp ht
    rw [List.pairwise_iff_getElem.mp haxis.increasing _ _ hi hi' (Nat.lt_succ_self _)] at hlt
    cases hlt

/-- An offset that is not negative has no fault at the head. -/
theorem not_isAt_zero (hp : Binary64.le .zero p = true) : ¬ IsAt (p :: rest) 0 fault := by
  intro hat
  cases hat with
  | negative ht hneg =>
    rw [← Option.some.inj ht, hp] at hneg
    cases hneg

/-- An offset before the others moves their faults by one, and adds none if they go on from it. -/
theorem isAt_cons_iff (hlt : p.lt t = true) :
    IsAt (p :: t :: rest) (i + 1) fault ↔ IsAt (t :: rest) i fault := by
  constructor
  · intro hat
    cases hat with
    | negative ht hneg => exact .negative ht hneg
    | notIncreasing ht hp hnonneg hle =>
      cases i with
      | zero =>
        rw [← Option.some.inj ht, ← Option.some.inj hp, hlt] at hle
        cases hle
      | succ i => exact .notIncreasing ht hp hnonneg hle
  · intro hat
    cases hat with
    | negative ht hneg => exact .negative ht hneg
    | notIncreasing ht hp hnonneg hle => exact .notIncreasing ht hp hnonneg hle

theorem IsFirst.cons (hp : Binary64.le .zero p = true) (hlt : p.lt t = true)
    (h : IsFirst (t :: rest) i fault) : IsFirst (p :: t :: rest) (i + 1) fault where
  isAt := (isAt_cons_iff hlt).mpr h.isAt
  least j hj earlier hat := by
    cases j with
    | zero => exact not_isAt_zero hp hat
    | succ j => exact h.least j (Nat.lt_of_succ_lt_succ hj) earlier ((isAt_cons_iff hlt).mp hat)

/-- What is found after an offset that is not negative is the first fault. -/
theorem exists_isFirst_of_first?_some (hp : Binary64.le .zero p = true)
    (h : first? (some p) rest = some fault) : ∃ i, IsFirst (p :: rest) i fault := by
  induction rest generalizing p with
  | nil => cases h
  | cons t rest ih =>
    have hleast : ∀ j < 1, ∀ earlier, ¬ IsAt (p :: t :: rest) j earlier := fun j hj earlier => by
      rw [Nat.lt_one_iff.mp hj]
      exact not_isAt_zero hp
    rw [first?] at h
    cases hnonneg : Binary64.le .zero t with
    | false =>
      rw [hnonneg] at h
      cases h
      exact ⟨1, .negative rfl hnonneg, hleast⟩
    | true =>
      have hpt := le_eq_false_iff (isNaN_right_of_le hnonneg) (isNaN_right_of_le hp)
      cases hle : t.le p with
      | true =>
        have hlt : p.lt t = false := by
          rw [← Bool.not_eq_true, ← hpt, hle]
          decide
        simp only [hnonneg, hle, Bool.not_true, Bool.false_eq_true, if_false, if_true] at h
        cases h
        exact ⟨1, .notIncreasing rfl rfl hnonneg hlt, hleast⟩
      | false =>
        simp only [hnonneg, hle, Bool.not_true, Bool.false_eq_true, if_false] at h
        obtain ⟨i, hi⟩ := ih hnonneg h
        exact ⟨i + 1, hi.cons hp (hpt.mp hle)⟩

theorem exists_isFirst (h : first? none times = some fault) : ∃ i, IsFirst times i fault := by
  cases times with
  | nil => cases h
  | cons t rest =>
    rw [first?] at h
    cases hnonneg : Binary64.le .zero t with
    | false =>
      rw [hnonneg] at h
      cases h
      exact ⟨0, .negative rfl hnonneg, fun j hj => absurd hj (Nat.not_lt_zero j)⟩
    | true =>
      rw [hnonneg] at h
      exact exists_isFirst_of_first?_some hnonneg h

theorem first?_eq_some_iff : first? none times = some fault ↔ ∃ i, IsFirst times i fault := by
  refine ⟨exists_isFirst, fun ⟨i, hi⟩ => ?_⟩
  cases hfound : first? none times with
  | none => exact absurd (first?_eq_none_iff.mp hfound) hi.isAt.not_isAxis
  | some found =>
    obtain ⟨j, hj⟩ := exists_isFirst hfound
    rw [hi.unique hj]

/-- A fault shows in the offsets up to its index. -/
theorem IsAt.congr {times' : List Binary64} (h : IsAt times i fault)
    (hget : ∀ k ≤ i, times[k]? = times'[k]?) : IsAt times' i fault := by
  cases h with
  | @negative i t ht hneg => exact .negative (hget i (Nat.le_refl i) ▸ ht) hneg
  | @notIncreasing i t p ht hp hnonneg hlt =>
    exact .notIncreasing (hget (i + 1) (Nat.le_refl _) ▸ ht) (hget i (Nat.le_succ i) ▸ hp) hnonneg
      hlt

theorem IsAt.lt_length (h : IsAt times i fault) : i < times.length := by
  cases h with
  | negative ht => exact (List.getElem?_eq_some_iff.mp ht).1
  | notIncreasing ht => exact (List.getElem?_eq_some_iff.mp ht).1

/-- What follows the first fault does not matter. -/
theorem IsFirst.take_append (h : IsFirst times i fault) (after : List Binary64) :
    IsFirst (times.take (i + 1) ++ after) i fault := by
  have hget : ∀ k ≤ i, times[k]? = (times.take (i + 1) ++ after)[k]? := fun k hk => by
    have hlength := h.isAt.lt_length
    rw [List.getElem?_append_left (by rw [List.length_take]; omega),
      List.getElem?_take_of_lt (Nat.lt_succ_of_le hk)]
  refine ⟨h.isAt.congr hget, fun j hj earlier hat => h.least j hj earlier (hat.congr ?_)⟩
  exact fun k hk => (hget k (Nat.le_trans hk (Nat.le_of_lt hj))).symm

end AxisFault

namespace ExposureSeries

variable {points : List ExposurePoint} {series : ExposureSeries}

theorem isAxis (series : ExposureSeries) : IsAxis (series.points.map (·.time)) :=
  AxisFault.first?_eq_none_iff.mp series.faultless

theorem ofPoints_eq_ok_iff : ofPoints points = .ok series ↔ series.points = points := by
  have hfault := series.faultless
  rw [ofPoints]
  constructor
  · intro h
    split at h
    · cases h
      rfl
    · cases h
  · rintro rfl
    split
    case h_1 => rfl
    case h_2 fault h => exact absurd (hfault.symm.trans h) (Option.some_ne_none fault).symm

theorem ofPoints_eq_error_iff {fault : AxisFault} : ofPoints points = .error fault ↔
    AxisFault.first? none (points.map (·.time)) = some fault := by
  rw [ofPoints]
  split
  case h_1 h => exact iff_of_false nofun fun hfault => nomatch h.symm.trans hfault
  case h_2 found h => simp [h]

theorem exists_ofPoints_eq_ok_iff :
    (∃ series, ofPoints points = .ok series) ↔ IsAxis (points.map (·.time)) := by
  constructor
  · rintro ⟨series, h⟩
    rw [← ofPoints_eq_ok_iff.mp h]
    exact series.isAxis
  · intro h
    exact ⟨⟨points, AxisFault.first?_eq_none_iff.mpr h⟩, ofPoints_eq_ok_iff.mpr rfl⟩

/-- The points up to the first fault are refused for it, whatever follows them. -/
theorem ofPoints_take_append {i : ℕ} {fault : AxisFault}
    (h : AxisFault.IsFirst (points.map (·.time)) i fault) (after : List ExposurePoint) :
    ofPoints (points.take (i + 1) ++ after) = .error fault := by
  rw [ofPoints_eq_error_iff, AxisFault.first?_eq_some_iff, List.map_append, List.map_take]
  exact ⟨i, h.take_append _⟩

/-- **Which offsets are accepted.** Points make a series exactly if no offset is negative or not a
number and each is before all later ones, and the series then has these points. Otherwise they are
refused, with the fault at the first index that has one. Whatever follows that index, they are told
to be undecodable: for an offset that is negative with that offset, and for one that is not after
the one before with both. -/
theorem ofPoints_first_fault (points : List ExposurePoint) :
    ((∃ series, ofPoints points = .ok series) ↔
      (∀ point ∈ points, Binary64.le .zero point.time = true) ∧
        points.Pairwise fun p q => p.time.lt q.time = true) ∧
    (∀ series, ofPoints points = .ok series → series.points = points) ∧
    (∀ fault, ofPoints points = .error fault ↔
      ∃ i, AxisFault.IsFirst (points.map (·.time)) i fault) ∧
    (∀ i t, AxisFault.IsFirst (points.map (·.time)) i (.negative t) → ∀ after,
      (ofPoints (points.take (i + 1) ++ after)).mapError AxisFault.failure =
        .error (.decode ("exposure time offset " ++ Decimal.plain t ++ " is negative"))) ∧
    ∀ i t p, AxisFault.IsFirst (points.map (·.time)) i (.notIncreasing t p) → ∀ after,
      (ofPoints (points.take (i + 1) ++ after)).mapError AxisFault.failure =
        .error (.decode ("exposure time offsets not strictly increasing: " ++ Decimal.plain t ++
          " after " ++ Decimal.plain p)) := by
  refine ⟨?_, fun series => ofPoints_eq_ok_iff.mp, fun fault => ?_, fun i t hfirst after => ?_,
    fun i t p hfirst after => ?_⟩
  · rw [exists_ofPoints_eq_ok_iff]
    constructor
    · rintro ⟨hnonneg, hincreasing⟩
      exact ⟨List.forall_mem_map.mp hnonneg, List.pairwise_map.mp hincreasing⟩
    · rintro ⟨hnonneg, hincreasing⟩
      exact ⟨List.forall_mem_map.mpr hnonneg, List.pairwise_map.mpr hincreasing⟩
  · rw [ofPoints_eq_error_iff, AxisFault.first?_eq_some_iff]
  · rw [ofPoints_take_append hfirst]
    rfl
  · rw [ofPoints_take_append hfirst]
    rfl

/-- Points whose offsets start at negative zero and stall at one; behind that stands no number. -/
def stalled : List ExposurePoint :=
  [Binary64.zero.neg, .one, .one, .nan].map fun t => { ExposurePoint.blank with time := t }

/-- That the offsets stall is what is said of the points, and would be whatever stood in the place
of the last one. -/
theorem ofPoints_first_fault_stalled :
    AxisFault.IsFirst (stalled.map (·.time)) 2 (.notIncreasing .one .one) ∧
    ofPoints stalled = .error (.notIncreasing .one .one) ∧
    ∀ after, (ofPoints (stalled.take 3 ++ after)).mapError AxisFault.failure =
      .error (.decode "exposure time offsets not strictly increasing: 1 after 1") := by
  have hfirst : AxisFault.IsFirst (stalled.map (·.time)) 2 (.notIncreasing .one .one) := by
    refine ⟨.notIncreasing rfl rfl (by decide) (by decide), fun j hj earlier hat => ?_⟩
    have haxis : IsAxis ((stalled.map (·.time)).take 2) :=
      AxisFault.first?_eq_none_iff.mp (by decide)
    refine (hat.congr fun k hk => ?_ : AxisFault.IsAt _ j earlier).not_isAxis haxis
    exact (List.getElem?_take_of_lt (Nat.lt_of_le_of_lt hk hj)).symm
  have hone : Decimal.plain .one = "1" := by decide +kernel
  obtain ⟨-, -, herror, -, htold⟩ := ofPoints_first_fault stalled
  refine ⟨hfirst, (herror _).mpr ⟨2, hfirst⟩, fun after => ?_⟩
  rw [htold 2 .one .one hfirst after, hone]
  rfl

end ExposureSeries

end RiskBoard
