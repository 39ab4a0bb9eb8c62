import Mathlib.Data.Int.Log
import RiskBoard.Proofs.Chart.Scale

/-!
# Value axes in exact arithmetic

The algorithm of the value axis over the rationals, where nothing is rounded but what the algorithm
itself rounds (`ExactAxis.arithmetic`). What a budget of ticks promises holds there without
conditions on the data (`ExactAxis.axis_encloses`).

The step is a round number, and the step for a spread is less than the spread by a thousandth at
most (`ExactAxis.niceStep_spec`). So the step that is tried first needs less than one space more
than the budget has, and with the ends rounded outwards three more. If it needs more than the
budget has, then the step that is tried next is greater, since a spread that is one part in 998
above a round number is not taken for that number (`ExactAxis.lt_snapped`). A greater round number
is at least twice as great, so half of the spaces are saved, and that makes up for the ends as soon
as there are three spaces (`ExactAxis.step_spec`).
-/

namespace RiskBoard.ExactAxis

variable {x q low high : ℚ} {spaces : ℕ}

/-! ### The algorithm over the rationals -/

/-- The nearest integer, a half going away from zero. -/
def nearest (x : ℚ) : ℤ := if 0 ≤ x then ⌊x + 1 / 2⌋ else ⌈x - 1 / 2⌉

/-- The arithmetic of an axis in which no operation rounds. It is no instance, for the rationals
have their operations already. -/
abbrev arithmetic : AxisNumber ℚ where
  ofInt i := i
  twentieth := 1 / 20
  lt x y := decide (x < y)
  le x y := decide (x ≤ y)
  same x y := decide (x = y)
  abs x := |x|
  floor x := ⌊x⌋
  ceil x := ⌈x⌉
  round x := nearest x
  decade x := 10 ^ Int.log 10 x
  precision x := 10 ^ (-Int.log 10 x).toNat
  index x := if 0 ≤ x then ⌊x⌋ else ⌈x⌉

def snapped (spread : ℚ) : ℚ := @Axis.snapped ℚ arithmetic spread

def roundFraction (fraction : ℚ) : ℚ := @Axis.roundFraction ℚ arithmetic fraction

def niceStep (spread : ℚ) : ℚ := @Axis.niceStep ℚ arithmetic spread

def ends (low high : ℚ) : ℚ × ℚ := @Axis.ends ℚ arithmetic low high

def step (low high : ℚ) (budget : ℕ) : ℚ := @Axis.step ℚ arithmetic low high budget

def tickValue (step : ℚ) (index : ℤ) : ℚ := @Axis.tickValue ℚ arithmetic step index

def ticks? (low high : ℚ) (budget : ℕ) : Option (List ℚ) :=
  @Axis.ticks? ℚ arithmetic low high budget

/-- A spread that is close to a whole number becomes one. -/
theorem snapped_eq (x : ℚ) :
    snapped x = if |x - nearest x| ≤ x / 1000 then ↑(nearest x) else x := by
  change (if decide (|x - nearest x| ≤ x / (1000 : ℤ)) = true then ((nearest x : ℤ) : ℚ) else x) = _
  simp only [decide_eq_true_eq, Int.cast_ofNat]

theorem roundFraction_eq (x : ℚ) :
    roundFraction x = if x ≤ 1 then 1 else if x ≤ 2 then 2 else if x ≤ 5 then 5 else 10 := by
  change (if decide (x ≤ (1 : ℤ)) = true then ((1 : ℤ) : ℚ)
    else if decide (x ≤ (2 : ℤ)) = true then ((2 : ℤ) : ℚ)
    else if decide (x ≤ (5 : ℤ)) = true then ((5 : ℤ) : ℚ) else ((10 : ℤ) : ℚ)) = _
  simp only [decide_eq_true_eq, Int.cast_ofNat, Int.cast_one]

/-- A round step is a round fraction of the decade of the spread. -/
theorem niceStep_eq (x : ℚ) : niceStep x =
    roundFraction (snapped x / 10 ^ Int.log 10 (snapped x)) * 10 ^ Int.log 10 (snapped x) := rfl

/-- Equal ends are moved apart, by one around zero and else by a twentieth. -/
theorem ends_eq (low high : ℚ) : ends low high =
    if low = high then
      (low - (if high = 0 then 1 else |high * (1 / 20)|),
        high + (if high = 0 then 1 else |high * (1 / 20)|))
    else (low, high) := by
  change (if decide (low = high) = true then
      (low - (if decide (high = (0 : ℤ)) = true then ((1 : ℤ) : ℚ) else |high * (1 / 20)|),
        high + (if decide (high = (0 : ℤ)) = true then ((1 : ℤ) : ℚ) else |high * (1 / 20)|))
    else (low, high)) = _
  simp only [decide_eq_true_eq, Int.cast_zero, Int.cast_one]

/-- The spaces between the multiples of a step that enclose a range. -/
def spacesOn (step low high : ℚ) : ℤ := ⌈high / step⌉ - ⌊low / step⌋

/-- There is one space less than ticks. -/
theorem maxSpaces_eq (h : 1 ≤ spaces) : @Axis.maxSpaces ℚ arithmetic (spaces + 1) = spaces := by
  change ((max (spaces + 1 : ℕ) 2 : ℤ) : ℚ) - ((1 : ℤ) : ℚ) = spaces
  rw [max_eq_left (by omega)]
  push_cast
  ring

theorem spaces_eq (q low high : ℚ) :
    @Axis.spaces ℚ arithmetic q low high = spacesOn q low high := (Int.cast_sub ..).symm

/-- The step of an axis: a round one, and one that is rounder if that gives too many spaces. -/
theorem step_eq (low high : ℚ) (hspaces : 1 ≤ spaces) : step low high (spaces + 1) =
    if (spaces : ℤ) < spacesOn (niceStep ((high - low) / spaces)) low high then
      niceStep (spacesOn (niceStep ((high - low) / spaces)) low high *
        niceStep ((high - low) / spaces) / spaces)
    else niceStep ((high - low) / spaces) := by
  have hunfold : step low high (spaces + 1) =
      if decide ((spaces : ℚ) < spacesOn (niceStep ((high - low) / spaces)) low high) = true then
        niceStep (spacesOn (niceStep ((high - low) / spaces)) low high *
          niceStep ((high - low) / spaces) / spaces)
      else niceStep ((high - low) / spaces) := by
    rw [← spaces_eq, ← maxSpaces_eq hspaces]
    rfl
  simp only [hunfold, decide_eq_true_eq]
  norm_cast

/-- The value of a tick is a multiple of the step, rounded to the precision. -/
theorem tickValue_eq (step : ℚ) (i : ℤ) : tickValue step i =
    nearest (i * step * 10 ^ (-Int.log 10 step).toNat) / 10 ^ (-Int.log 10 step).toNat := rfl

/-- The integer part of an integer is itself. -/
theorem index_intCast (i : ℤ) : arithmetic.index i = i := by
  change (if (0 : ℚ) ≤ i then ⌊(i : ℚ)⌋ else ⌈(i : ℚ)⌉) = i
  rw [Int.floor_intCast, Int.ceil_intCast, ite_self]

/-- The ticks of an axis are those at its indices. -/
theorem ticks?_eq {first last : ℚ} (h : ends low high = (first, last)) (budget : ℕ) :
    ticks? low high budget =
      (Axis.indices? ⌊first / step first last budget⌋ ⌈last / step first last budget⌉).map
        (·.map (tickValue (step first last budget))) := by
  have hunfold : ticks? low high budget = (Axis.indices?
      (arithmetic.index ⌊(ends low high).1 / step (ends low high).1 (ends low high).2 budget⌋)
      (arithmetic.index ⌈(ends low high).2 / step (ends low high).1 (ends low high).2 budget⌉)).map
        (·.map (tickValue (step (ends low high).1 (ends low high).2 budget))) := rfl
  rw [hunfold, h, index_intCast, index_intCast]

/-! ### Steps -/

/-- The nearest integer is at most a half away. -/
theorem abs_nearest_sub_le (x : ℚ) : |nearest x - x| ≤ 1 / 2 := by
  rw [nearest, abs_le]
  split_ifs
  · have hle := Int.floor_le (x + 1 / 2)
    have hlt := Int.lt_floor_add_one (x + 1 / 2)
    constructor <;> linarith
  · have hle := Int.le_ceil (x - 1 / 2)
    have hlt := Int.ceil_lt_add_one (x - 1 / 2)
    constructor <;> linarith

theorem nearest_intCast (i : ℤ) : nearest i = i := by
  have hclose : |(nearest i : ℚ) - i| < 1 := (abs_nearest_sub_le i).trans_lt (by norm_num)
  have hclose' : |nearest i - i| < 1 := by exact_mod_cast hclose
  exact sub_eq_zero.mp (Int.abs_lt_one_iff.mp hclose')

/-- A spread loses a thousandth at most when it is taken for a whole number. -/
theorem le_snapped (hx : 0 < x) : x * (999 / 1000) ≤ snapped x := by
  rw [snapped_eq]
  split_ifs with hsnap
  · linarith [(abs_le.mp hsnap).2]
  · linarith

/-- A round fraction is one, two, five or ten, and not below the fraction. -/
theorem roundFraction_spec (hx : x < 10) :
    ∃ c : ℕ, (c = 1 ∨ c = 2 ∨ c = 5 ∨ c = 10) ∧ roundFraction x = c ∧ x ≤ c := by
  rw [roundFraction_eq]
  split_ifs with hone htwo hfive
  · exact ⟨1, .inl rfl, by norm_num, by simpa using hone⟩
  · exact ⟨2, .inr (.inl rfl), by norm_num, by simpa using htwo⟩
  · exact ⟨5, .inr (.inr (.inl rfl)), by norm_num, by simpa using hfive⟩
  · exact ⟨10, .inr (.inr (.inr rfl)), by norm_num, by simpa using hx.le⟩

/-- The step for a spread is a round number, and hardly less than the spread. -/
theorem niceStep_spec (hx : 0 < x) :
    IsRoundNumber (niceStep x) ∧ x * (999 / 1000) ≤ niceStep x := by
  have hsnapped := le_snapped hx
  rw [niceStep_eq]
  generalize snapped x = y at *
  have hpower : (0 : ℚ) < 10 ^ Int.log 10 y := zpow_pos (by norm_num) _
  have hnext := Int.lt_zpow_succ_log_self (b := 10) (by norm_num) y
  obtain ⟨c, hc, hround, hle⟩ : ∃ c : ℕ, (c = 1 ∨ c = 2 ∨ c = 5 ∨ c = 10) ∧
      roundFraction (y / 10 ^ Int.log 10 y) = c ∧ y / 10 ^ Int.log 10 y ≤ c := by
    refine roundFraction_spec ?_
    rw [div_lt_iff₀ hpower, mul_comm, ← zpow_add_one₀ (by norm_num)]
    exact_mod_cast hnext
  rw [hround]
  refine ⟨Axis.isRoundNumber_mul_zpow hc _, hsnapped.trans ?_⟩
  rwa [div_le_iff₀ hpower] at hle

/-! ### Spaces -/

/-- Widening the ends to multiples of the step adds less than two spaces. -/
theorem spacesOn_lt (q low high : ℚ) : (spacesOn q low high : ℚ) < (high - low) / q + 2 := by
  have hfloor := Int.lt_floor_add_one (low / q)
  have hceil := Int.ceil_lt_add_one (high / q)
  rw [spacesOn, Int.cast_sub, sub_div]
  linarith

/-- Between different ends there is at least one space. -/
theorem spacesOn_pos (hq : 0 < q) (hlt : low < high) : 0 < spacesOn q low high := by
  have hratio : low / q < high / q := div_lt_div_of_pos_right hlt hq
  have hspaces : (⌊low / q⌋ : ℚ) < ⌈high / q⌉ :=
    (Int.floor_le _).trans_lt (hratio.trans_le (Int.le_ceil _))
  exact sub_pos.mpr (by exact_mod_cast hspaces)

/-- A step that needs too many spaces is followed by a step that is greater. -/
theorem lt_nextStep (hq : 0 < q) (hspaces : spaces ≤ 998) {taken : ℤ} (htaken : spaces < taken)
    (hpos : 0 < spaces) : q < niceStep (taken * q / spaces) := by
  have hspaces' : (spaces : ℚ) ≤ 998 := by exact_mod_cast hspaces
  have hpos' : (0 : ℚ) < spaces := by exact_mod_cast hpos
  have htaken' : (spaces : ℚ) + 1 ≤ taken := by exact_mod_cast htaken
  have hspread : q < taken * q / spaces * (999 / 1000) := by
    rw [div_mul_eq_mul_div, lt_div_iff₀ hpos']
    nlinarith
  have hspread' : 0 < taken * q / spaces := by linarith
  exact hspread.trans_le (niceStep_spec hspread').2

/-- **One correction suffices.** The step of an axis is a round number on which the range needs no
more spaces than there are. -/
theorem step_spec (hlt : low < high) (hthree : 3 ≤ spaces) (hspaces : spaces ≤ 998) :
    IsRoundNumber (step low high (spaces + 1)) ∧
      spacesOn (step low high (spaces + 1)) low high ≤ spaces := by
  have hthree' : (3 : ℚ) ≤ spaces := by exact_mod_cast hthree
  have hpos : (0 : ℚ) < spaces := by linarith
  have hspread : 0 < (high - low) / spaces := div_pos (sub_pos.mpr hlt) hpos
  obtain ⟨hround, hleast⟩ := niceStep_spec hspread
  rw [step_eq low high (by omega)]
  generalize niceStep ((high - low) / spaces) = first at *
  split_ifs with htaken
  · have hgreater := lt_nextStep hround.pos hspaces htaken (by omega)
    have hpositive : 0 < spacesOn first low high * first / (spaces : ℚ) := by
      have hcast : (0 : ℚ) < spacesOn first low high := by
        exact_mod_cast spacesOn_pos hround.pos hlt
      have hfirst := hround.pos
      positivity
    obtain ⟨hnext, -⟩ := niceStep_spec hpositive
    generalize niceStep (spacesOn first low high * first / spaces) = next at *
    refine ⟨hnext, ?_⟩
    -- the next step is twice the first, so it needs half of the spaces, and two for the ends
    have hdouble := hround.two_mul_le hnext hgreater
    have hhalf : (high - low) / next ≤ spaces * (500 / 999) := by
      rw [div_le_iff₀ hnext.pos]
      rw [div_mul_eq_mul_div, div_le_iff₀ hpos] at hleast
      nlinarith
    have hlast := spacesOn_lt next low high
    by_contra! hmore
    have hmore' : (spaces : ℚ) + 1 ≤ spacesOn next low high := by exact_mod_cast hmore
    linarith
  · exact ⟨hround, not_lt.mp htaken⟩

/-! ### Ticks -/

/-- On a round step, rounding a tick to the places of the step does not move it. -/
theorem tickValue_eq_mul (hq : IsRoundNumber q) (i : ℤ) : tickValue q i = i * q := by
  have hlog : (10 : ℚ) ^ Int.log 10 q ≤ q := by
    exact_mod_cast Int.zpow_log_le_self (b := 10) (by norm_num) hq.pos
  obtain ⟨g, hg⟩ := hq.exists_natCast_mul (l := Int.log 10 q) (by
    have hpower : (0 : ℚ) < 10 ^ Int.log 10 q := zpow_pos (by norm_num) _
    linarith)
  rw [tickValue_eq]
  generalize Int.log 10 q = l at *
  have hscale : (0 : ℚ) < 10 ^ (-l).toNat := by positivity
  -- the scale makes up for the places that the step has
  have hwhole : q * 10 ^ (-l).toNat = (g * 10 ^ (l + (-l).toNat).toNat : ℕ) := by
    have hexponent : l + ((-l).toNat : ℤ) = (l + (-l).toNat).toNat := by omega
    rw [hg, mul_assoc, ← zpow_natCast, ← zpow_add₀ (by norm_num), hexponent, zpow_natCast]
    push_cast
    rfl
  have hcast : (i : ℚ) * q * 10 ^ (-l).toNat = (i * (g * 10 ^ (l + (-l).toNat).toNat : ℕ) : ℤ) := by
    rw [mul_assoc, hwhole, Int.cast_mul, Int.cast_natCast]
  rw [hcast, nearest_intCast, ← hcast, mul_div_cancel_right₀ _ hscale.ne']

/-- The ends of an axis lie apart, with the data between them. -/
theorem ends_spec (h : low ≤ high) : ∃ first last, ends low high = (first, last) ∧
    first < last ∧ first ≤ low ∧ high ≤ last := by
  rw [ends_eq]
  split_ifs with hflat hzero
  · exact ⟨_, _, rfl, by linarith, by linarith, by linarith⟩
  · have hmargin : 0 < |high * (1 / 20)| := abs_pos.mpr (mul_ne_zero hzero (by norm_num))
    exact ⟨_, _, rfl, by linarith, by linarith, by linarith⟩
  · exact ⟨low, high, rfl, lt_of_le_of_ne h hflat, le_rfl, le_rfl⟩

/-! ### Charts -/

/-- All plotted values, series after series. -/
def plotted (curves : Curves (List ℚ)) : List ℚ := curves.toList.flatten

/-- The least and the greatest of some values. -/
def range (values : List ℚ) : Option (ℚ × ℚ) := do
  let low ← values.min?
  let high ← values.max?
  pure (low, high)

/-- The ticks of the value axis of four series within a budget. -/
def valueAxis? (curves : Curves (List ℚ)) (budget : ℕ) : Option (List ℚ) :=
  match range (plotted curves) with
  | none => some []
  | some (low, high) => ticks? low high budget

/-- Ticks enclose values within a budget: they are the multiples of a round number from one to
another, and no value is before the first or after the last of them. -/
structure Encloses (ticks values : List ℚ) (budget : ℕ) : Prop where
  two_le_length : 2 ≤ ticks.length
  length_le : ticks.length ≤ budget
  multiples : ∃ (q : ℚ) (first : ℤ), IsRoundNumber q ∧
    ticks = (List.range ticks.length).map fun (i : ℕ) => ((first + i : ℤ) : ℚ) * q
  head_le : ∀ tick ∈ ticks.head?, ∀ x ∈ values, tick ≤ x
  le_getLast : ∀ tick ∈ ticks.getLast?, ∀ x ∈ values, x ≤ tick
  zero_mem : (∃ x ∈ values, x ≤ 0) → (∃ x ∈ values, 0 ≤ x) → 0 ∈ ticks

/-- The range of values is given by the least and the greatest of them. -/
theorem range_eq_some_iff {values : List ℚ} : range values = some (low, high) ↔
    (low ∈ values ∧ ∀ x ∈ values, low ≤ x) ∧ high ∈ values ∧ ∀ x ∈ values, x ≤ high := by
  rw [← List.min?_eq_some_iff, ← List.max?_eq_some_iff, range]
  cases values.min? <;> cases values.max? <;> simp

/-- Some values have a range. -/
theorem exists_range {values : List ℚ} (h : values ≠ []) :
    ∃ low high, range values = some (low, high) := by
  obtain ⟨low, hlow⟩ := Option.isSome_iff_exists.mp (List.isSome_min?_of_ne_nil h)
  obtain ⟨high, hhigh⟩ := Option.isSome_iff_exists.mp (List.isSome_max?_of_ne_nil h)
  exact ⟨low, high, by rw [range, hlow, hhigh]; rfl⟩

/-- The range of a chart in doubles is that of the values of its doubles. -/
theorem range_values {chart : Chart} (h : ∀ x ∈ chart.values, x.isFinite = true) :
    range (chart.values.map Binary64.value) =
      chart.range.map fun (low, high) => (low.value, high.value) := by
  rcases eq_or_ne chart.values [] with hnil | hne
  · rw [Chart.range_eq_none hnil, hnil]
    rfl
  · obtain ⟨low, high, hrange, hspec⟩ := Chart.range_spec h hne
    rw [hrange, Option.map_some, range_eq_some_iff, List.forall_mem_map, List.forall_mem_map]
    exact ⟨⟨List.mem_map_of_mem hspec.low_mem, hspec.low_le⟩, List.mem_map_of_mem hspec.high_mem,
      hspec.le_high⟩

/-- The last of a sequence of values is the one at the last index. -/
theorem getLast?_map_range {α : Type} (f : ℕ → α) (n : ℕ) :
    ((List.range (n + 1)).map f).getLast? = some (f n) := by
  rw [List.range_succ, List.map_append, List.map_singleton, List.getLast?_concat]

/-- The multiples of a round step on which a range needs no more spaces than there are enclose
all that is in the range. -/
theorem encloses_multiples {values : List ℚ} {a b : ℤ} (hq : IsRoundNumber q) (hab : a < b)
    (hba : b - a ≤ spaces) (hlow : ∀ x ∈ values, a * q ≤ x) (hhigh : ∀ x ∈ values, x ≤ b * q) :
    Encloses ((List.range (b + 1 - a).toNat).map fun (i : ℕ) => ((a + i : ℤ) : ℚ) * q) values
      (spaces + 1) := by
  obtain ⟨n, hn⟩ : ∃ n : ℕ, b = a + (n + 1 : ℕ) := ⟨(b - a - 1).toNat, by omega⟩
  have hcount : (b + 1 - a).toNat = n + 1 + 1 := by omega
  rw [hcount]
  have hlength : ((List.range (n + 1 + 1)).map fun (i : ℕ) => ((a + i : ℤ) : ℚ) * q).length =
      n + 1 + 1 := by
    rw [List.length_map, List.length_range]
  refine ⟨by omega, by omega, ⟨q, a, hq, by rw [hlength]⟩, ?_, ?_, ?_⟩
  · rw [List.head?_map, List.head?_range, if_neg (by omega)]
    rintro tick ⟨⟩ x hx
    simpa using hlow x hx
  · rw [getLast?_map_range, ← hn]
    rintro tick ⟨⟩ x hx
    exact hhigh x hx
  · rintro ⟨x, hx, hxzero⟩ ⟨y, hy, hyzero⟩
    -- zero is the tick with the index zero, which is between the first and the last
    have ha : (a : ℚ) ≤ 0 := nonpos_of_mul_nonpos_left ((hlow x hx).trans hxzero) hq.pos
    have hb : (0 : ℚ) ≤ b := nonneg_of_mul_nonneg_left (hyzero.trans (hhigh y hy)) hq.pos
    have ha' : a ≤ 0 := by exact_mod_cast ha
    have hb' : 0 ≤ b := by exact_mod_cast hb
    refine List.mem_map.mpr ⟨(-a).toNat, List.mem_range.mpr (by omega), ?_⟩
    rw [(by omega : a + ((-a).toNat : ℤ) = 0), Int.cast_zero, zero_mul]

/-- **The value axis in exact arithmetic.** For four series that are not all empty, and a budget of
four to 999 ticks, there is a value axis. It has at least two ticks and no more than the budget,
they are multiples of a round number, one after the other, and they enclose all values; so zero is
among them if the values lie on both sides of it. The axis is made for the range of the values,
which is also the range of a chart that plots them as doubles. -/
theorem axis_encloses (curves : Curves (List ℚ)) (hne : plotted curves ≠ []) {budget : ℕ}
    (hfour : 4 ≤ budget) (hbudget : budget ≤ 999) :
    (∃ ticks, valueAxis? curves budget = some ticks ∧ Encloses ticks (plotted curves) budget) ∧
    ∀ chart : Chart, (∀ x ∈ chart.values, x.isFinite = true) →
      chart.curves.map (·.values.map Binary64.value) = curves →
      range (plotted curves) = chart.range.map fun (low, high) => (low.value, high.value) := by
  constructor
  · obtain ⟨spaces, rfl⟩ : ∃ spaces, budget = spaces + 1 := ⟨budget - 1, by omega⟩
    obtain ⟨low, high, hrange⟩ := exists_range hne
    obtain ⟨⟨hlow, hleast⟩, hhigh, hmost⟩ := range_eq_some_iff.mp hrange
    obtain ⟨first, last, hends, hlt, hfirst, hlast⟩ := ends_spec (hleast high hhigh)
    have hthree : 3 ≤ spaces := by omega
    obtain ⟨hround, hspaces⟩ := step_spec hlt hthree (by omega)
    have hpositive := spacesOn_pos hround.pos hlt
    rw [valueAxis?, hrange]
    dsimp only
    rw [ticks?_eq hends]
    generalize step first last (spaces + 1) = q at *
    rw [spacesOn] at hspaces hpositive
    rw [Axis.indices?_eq (by rw [Axis.maxTicks]; omega), Option.map_some, List.map_map]
    refine ⟨_, rfl, ?_⟩
    have htick : (tickValue q ∘ fun (i : ℕ) => ⌊first / q⌋ + (i : ℤ)) =
        fun (i : ℕ) => ((⌊first / q⌋ + i : ℤ) : ℚ) * q :=
      funext fun i => tickValue_eq_mul hround _
    rw [htick]
    refine encloses_multiples hround (by omega) hspaces (fun x hx => ?_) fun x hx => ?_
    · have hfloor := Int.floor_le (first / q)
      rw [le_div_iff₀ hround.pos] at hfloor
      exact hfloor.trans (hfirst.trans (hleast x hx))
    · have hceil := Int.le_ceil (last / q)
      rw [div_le_iff₀ hround.pos] at hceil
      exact ((hmost x hx).trans hlast).trans hceil
  · rintro chart hfinite rfl
    rw [← range_values hfinite]
    simp [plotted, Chart.values, Curves.toList, Curves.map]

/-- A series with a value that no double has, and three that are empty or on the other side of
zero. -/
def thirds : Curves (List ℚ) := ⟨[10 / 3, 1 / 7], [], [-1 / 3], []⟩

/-- Thirds and sevenths on both sides of zero get an axis of at most four ticks, with zero among
them. -/
theorem axis_encloses_thirds : plotted thirds ≠ [] ∧
    ∃ ticks, valueAxis? thirds 4 = some ticks ∧ Encloses ticks (plotted thirds) 4 ∧
      0 ∈ ticks := by
  have hne : plotted thirds ≠ [] := by simp [plotted, thirds, Curves.toList]
  obtain ⟨⟨ticks, haxis, hencloses⟩, -⟩ :=
    @axis_encloses thirds hne 4 (by decide) (by decide)
  refine ⟨hne, ticks, haxis, hencloses, hencloses.zero_mem ⟨-1 / 3, ?_, ?_⟩ ⟨10 / 3, ?_, ?_⟩⟩
  · simp [plotted, thirds, Curves.toList]
  · norm_num
  · simp [plotted, thirds, Curves.toList]
  · norm_num

end RiskBoard.ExactAxis
