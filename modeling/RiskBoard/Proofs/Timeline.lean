import Mathlib.Data.List.Basic
import RiskBoard.Timeline

/-!
# Sorted timelines

Sorting a timeline keeps what happens at one time in the order given (`Timed.filter_sort`), so
what is given first comes first at its time (`Timed.pairwise_sort_append`).
-/

namespace RiskBoard.Timed

variable {α β : Type} {xs ys : List (Timed α)}

/-- What happens does not change when it happens, so it may be changed before or after sorting. -/
theorem map_sort (f : α → β) (xs : List (Timed α)) :
    (sort xs).map (map f) = sort (xs.map (map f)) :=
  List.map_mergeSort fun _ _ _ _ => rfl

theorem map_upTo (f : α → β) (limit : ℕ) (xs : List (Timed α)) :
    (upTo limit xs).map (map f) = upTo limit (xs.map (map f)) := by
  rw [upTo, upTo, List.filter_map]
  rfl

theorem upTo_append (limit : ℕ) : upTo limit (xs ++ ys) = upTo limit xs ++ upTo limit ys :=
  List.filter_append _ _

/-- What is cut off at a time stays cut off there. -/
theorem upTo_self (limit : ℕ) (xs : List (Timed α)) :
    upTo limit (upTo limit xs) = upTo limit xs := by
  simp [upTo]

theorem upTo_sublist (limit : ℕ) (xs : List (Timed α)) : (upTo limit xs).Sublist xs :=
  List.filter_sublist

/-- The earlier of two times to cut off at is the one that counts. -/
theorem upTo_comm (limit limit' : ℕ) (xs : List (Timed α)) :
    upTo limit (upTo limit' xs) = upTo limit' (upTo limit xs) :=
  List.filter_comm _ _ _

/-- The same thing at a later time. -/
def later (delay : ℕ) (x : Timed α) : Timed α := ⟨delay + x.time, x.value⟩

/-- Moving everything moves the time to cut off at. -/
theorem upTo_later (delay limit : ℕ) (xs : List (Timed α)) :
    upTo (delay + limit) (xs.map (later delay)) = (upTo limit xs).map (later delay) := by
  rw [upTo, upTo, List.filter_map]
  simp [later, Function.comp_def]

theorem countP_upTo (p : Timed α → Bool) (limit : ℕ) (xs : List (Timed α)) :
    (upTo limit xs).countP p = xs.countP fun x => p x && decide (x.time ≤ limit) :=
  List.countP_filter

/-- How often something happens by a time can be counted on its times alone. -/
theorem countP_upTo_eq_times (p : Timed α → Bool) (limit : ℕ) (xs : List (Timed α)) :
    (upTo limit xs).countP p = ((xs.filter p).map (·.time)).countP (· ≤ limit) := by
  rw [countP_upTo, List.countP_map, List.countP_filter]
  simp [Bool.and_comm]

/-- Sorting neither adds nor drops anything. -/
theorem sort_perm (xs : List (Timed α)) : (sort xs).Perm xs := List.mergeSort_perm _ _

theorem upTo_perm (limit : ℕ) (h : xs.Perm ys) : (upTo limit xs).Perm (upTo limit ys) :=
  h.filter _

private theorem le_trans (x y z : Timed α) (hxy : decide (x.time ≤ y.time) = true)
    (hyz : decide (y.time ≤ z.time) = true) : decide (x.time ≤ z.time) = true := by
  rw [decide_eq_true_eq] at *
  omega

private theorem le_total (x y : Timed α) :
    (decide (x.time ≤ y.time) || decide (y.time ≤ x.time)) = true := by
  rw [Bool.or_eq_true, decide_eq_true_eq, decide_eq_true_eq]
  omega

/-- After sorting nothing comes before what is earlier. -/
theorem pairwise_sort (xs : List (Timed α)) : (sort xs).Pairwise fun x y => x.time ≤ y.time :=
  (List.pairwise_mergeSort le_trans le_total xs).imp of_decide_eq_true

/-- Sorting is stable. -/
theorem filter_sort (time : ℕ) (xs : List (Timed α)) :
    (sort xs).filter (·.time = time) = xs.filter (·.time = time) := by
  have hsorted : (xs.filter (·.time = time)).Pairwise fun x y =>
      decide (x.time ≤ y.time) = true := by
    refine List.pairwise_of_forall_mem_list fun x hx y hy => ?_
    simp only [List.mem_filter, decide_eq_true_eq] at hx hy ⊢
    omega
  have hkept : (xs.filter (·.time = time)).Sublist (sort xs) :=
    List.sublist_mergeSort le_trans le_total hsorted List.filter_sublist
  have hsublist : (xs.filter (·.time = time)).Sublist ((sort xs).filter (·.time = time)) := by
    simpa using hkept.filter (·.time = time)
  exact (hsublist.eq_of_length ((sort_perm xs).filter _).length_eq.symm).symm

/-- What is given first comes first at its time. -/
theorem pairwise_sort_append {p : Timed α → Prop} (hxs : ∀ x ∈ xs, p x) (hys : ∀ y ∈ ys, ¬ p y) :
    (sort (xs ++ ys)).Pairwise fun x y => ¬ p x → p y → x.time < y.time := by
  have hgiven : (xs ++ ys).Pairwise fun x y => ¬ p x → ¬ p y := by
    refine List.pairwise_append.mpr ⟨?_, ?_, fun x hx y hy _ => hys y hy⟩
    · exact List.pairwise_of_forall_mem_list fun x hx _ _ hnot => absurd (hxs x hx) hnot
    · exact List.pairwise_of_forall_mem_list fun _ _ y hy _ => hys y hy
  refine List.pairwise_iff_forall_sublist.mpr fun {x y} hxy hx hy => ?_
  refine Nat.lt_of_le_of_ne (List.pairwise_iff_forall_sublist.mp (pairwise_sort _) hxy)
    fun htime => ?_
  -- at one time the order is the one given
  have hsame := hxy.filter (·.time = x.time)
  rw [filter_sort, List.filter_eq_self.mpr (by simp [htime])] at hsame
  exact List.pairwise_iff_forall_sublist.mp hgiven (hsame.trans List.filter_sublist) hx hy

end RiskBoard.Timed
