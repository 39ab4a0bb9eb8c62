import RiskBoard.Proofs.Chart.InPlace
import RiskBoard.Proofs.Chart.Ticks

/-!
# The value axis of a drawing

The range of a chart starts at one of its values and ends at another, and all of them lie between
(`Chart.range_spec`). What is plotted is what the profile holds, whichever chart was there before
(`ChartModel.exists_chart_next`), so whether a value axis can be drawn depends on the profile alone.

It can be drawn for a profile that is resolved (`ExposureSeries.IsResolved`): the greatest and the
least figure differ by enough next to the figures themselves, or all figures are equal, and neither
the figures nor their difference come near the limits of doubles. That the figures are finite is not
enough. The step for a tenth of the least positive double is zero, and the ticks of an axis on a
step of zero have no end.
-/

namespace RiskBoard

/-! ### Figures -/

/-- The figures of a point that are plotted. -/
def ExposurePoint.figures (point : ExposurePoint) : List Binary64 :=
  [point.pfe, point.ee, point.epe, point.ene]

/-- The figures of a profile that are plotted. -/
def ExposureSeries.figures (series : ExposureSeries) : List Binary64 :=
  series.points.flatMap (·.figures)

/-- The figures of a profile are within 290 powers of ten, and so is the difference of the greatest
and the least of them, unless all of them are equal; and none of them is more than a billion times
as great as that difference. -/
structure ExposureSeries.IsResolved (series : ExposureSeries) : Prop where
  isFinite : ∀ x ∈ series.figures, x.isFinite = true
  bounded : ∀ x ∈ series.figures, |x.value| ≤ 10 ^ 290
  spread :
    (∀ x ∈ series.figures, (x.value = 0 ∨ (10 ^ 290)⁻¹ ≤ |x.value|) ∧
        ∀ y ∈ series.figures, x.value = y.value) ∨
      ∃ x ∈ series.figures, ∃ y ∈ series.figures, (10 ^ 290)⁻¹ ≤ y.value - x.value ∧
        ∀ z ∈ series.figures, |z.value| ≤ (y.value - x.value) * 10 ^ 9

/-! ### The range of a chart -/

namespace Binary64

variable {x y : Binary64}

/-- Of finite doubles the lesser is taken by value, and the second if they are equal. -/
theorem min_eq (hx : x.isFinite = true) (hy : y.isFinite = true) :
    x.min y = if x.value < y.value then x else y := by
  obtain ⟨m, r, rfl⟩ := exists_eq_finite hy
  rw [min]
  simp only [isNaN, Bool.false_eq_true, if_false, lt_iff hx hy]

theorem max_eq (hx : x.isFinite = true) (hy : y.isFinite = true) :
    x.max y = if y.value < x.value then x else y := by
  obtain ⟨m, r, rfl⟩ := exists_eq_finite hy
  rw [max]
  simp only [isNaN, Bool.false_eq_true, if_false, lt_iff hy hx]

end Binary64

namespace Chart

variable {low high x : Binary64} {values rest : List Binary64} {chart : Chart}

/-- A range goes from one of the values to another, and encloses them. -/
structure IsRangeOf (low high : Binary64) (values : List Binary64) : Prop where
  low_mem : low ∈ values
  high_mem : high ∈ values
  low_le : ∀ x ∈ values, low.value ≤ x.value
  le_high : ∀ x ∈ values, x.value ≤ high.value

theorem isRangeOf_singleton (x : Binary64) : IsRangeOf x x [x] where
  low_mem := List.mem_singleton_self x
  high_mem := List.mem_singleton_self x
  low_le _ hy := (List.mem_singleton.mp hy) ▸ le_rfl
  le_high _ hy := (List.mem_singleton.mp hy) ▸ le_rfl

/-- One more value widens the range to it. -/
theorem IsRangeOf.widen (h : IsRangeOf low high values) (hvalues : ∀ y ∈ values, y.isFinite = true)
    (hx : x.isFinite = true) :
    ∃ first last, Chart.widen (some (low, high)) x = some (first, last) ∧
      IsRangeOf first last (values ++ [x]) := by
  refine ⟨low.min x, high.max x, rfl, ?_⟩
  rw [Binary64.min_eq (hvalues _ h.low_mem) hx, Binary64.max_eq (hvalues _ h.high_mem) hx]
  constructor
  · split_ifs
    · exact List.mem_append_left _ h.low_mem
    · exact List.mem_append_right _ (List.mem_singleton_self x)
  · split_ifs
    · exact List.mem_append_left _ h.high_mem
    · exact List.mem_append_right _ (List.mem_singleton_self x)
  · intro y hy
    rcases List.mem_append.mp hy with hy | hy
    · have := h.low_le y hy
      split_ifs <;> linarith
    · rw [List.mem_singleton.mp hy]
      split_ifs <;> linarith
  · intro y hy
    rcases List.mem_append.mp hy with hy | hy
    · have := h.le_high y hy
      split_ifs <;> linarith
    · rw [List.mem_singleton.mp hy]
      split_ifs <;> linarith

/-- Widening by more values keeps a range one. -/
theorem IsRangeOf.foldl_widen (h : IsRangeOf low high values)
    (hvalues : ∀ y ∈ values, y.isFinite = true) (hrest : ∀ y ∈ rest, y.isFinite = true) :
    ∃ first last, rest.foldl Chart.widen (some (low, high)) = some (first, last) ∧
      IsRangeOf first last (values ++ rest) := by
  induction rest generalizing low high values with
  | nil => exact ⟨low, high, rfl, by rwa [List.append_nil]⟩
  | cons x rest ih =>
    rw [List.forall_mem_cons] at hrest
    obtain ⟨first, last, hwiden, hrange⟩ := h.widen hvalues hrest.1
    rw [List.foldl_cons, hwiden, List.append_cons]
    refine ih hrange (fun y hy => ?_) hrest.2
    rcases List.mem_append.mp hy with hy | hy
    · exact hvalues y hy
    · exact List.mem_singleton.mp hy ▸ hrest.1

/-- The range of a chart with finite values. -/
theorem range_spec (hfinite : ∀ x ∈ chart.values, x.isFinite = true) (hne : chart.values ≠ []) :
    ∃ low high, chart.range = some (low, high) ∧ IsRangeOf low high chart.values := by
  rw [range]
  obtain ⟨x, rest, heq⟩ := List.exists_cons_of_ne_nil hne
  rw [heq, List.forall_mem_cons] at hfinite
  rw [heq]
  exact (isRangeOf_singleton x).foldl_widen (by simpa using hfinite.1) hfinite.2

/-- No values have no range. -/
theorem range_eq_none (h : chart.values = []) : chart.range = none := by
  rw [range, h, List.foldl_nil]

end Chart

/-! ### The value axis -/

namespace ExposureSeries.IsResolved

variable {series : ExposureSeries} {low high : Binary64}

/-- The ends of the axis of a resolved profile are resolved. -/
theorem isResolved_ends (h : series.IsResolved) (hlow : low ∈ series.figures)
    (hhigh : high ∈ series.figures)
    (hbetween : ∀ x ∈ series.figures, low.value ≤ x.value ∧ x.value ≤ high.value) :
    Axis.IsResolved (Axis.ends low high).1 (Axis.ends low high).2 := by
  have hlowbound := h.bounded low hlow
  have hhighbound := h.bounded high hhigh
  rcases h.spread with hflat | ⟨x, hx, y, hy, hleast, hmost⟩
  · refine Axis.isResolved_ends_of_flat (h.isFinite low hlow) (h.isFinite high hhigh)
      ((hflat low hlow).2 high hhigh) ?_
    exact (hflat high hhigh).1.imp_right fun hleast => ⟨hleast, hhighbound⟩
  · have hspread : y.value - x.value ≤ high.value - low.value :=
      sub_le_sub (hbetween y hy).2 (hbetween x hx).1
    have hbillion : (y.value - x.value) * 10 ^ 9 ≤ (high.value - low.value) * 1000000000 := by
      linarith
    have hresolved : Axis.IsResolved low high := by
      refine ⟨h.isFinite low hlow, h.isFinite high hhigh, ?_, ?_, ?_⟩
      · refine .of_le_mul (e := 290) (hleast.trans hspread) 2 ?_
        rw [abs_le] at hlowbound hhighbound
        generalize (10 : ℚ) ^ 290 = bound at *
        linarith
      · exact (hmost low hlow).trans hbillion
      · exact (hmost high hhigh).trans hbillion
    rwa [hresolved.ends_eq_self]

/-- The value axis of a chart that plots a resolved profile. -/
theorem exists_valueAxis {chart : Chart} (h : series.IsResolved)
    (hmem : ∀ x, x ∈ chart.values ↔ x ∈ series.figures) :
    ∃ axis, chart.valueAxis? Chart.maxValueTicks = some axis ∧
      (series.points ≠ [] → Axis.IsScale Chart.maxValueTicks (axis.map (·.value))) := by
  rw [Chart.valueAxis?]
  rcases eq_or_ne chart.values [] with hempty | hne
  · -- nothing is plotted only if there are no points
    rw [Chart.range_eq_none hempty]
    refine ⟨[], rfl, fun hpoints => ?_⟩
    obtain ⟨p, rest, hp⟩ := List.exists_cons_of_ne_nil hpoints
    have hpfe : p.pfe ∈ chart.values := by
      rw [hmem, figures, hp]
      simp [ExposurePoint.figures]
    rw [hempty] at hpfe
    exact absurd hpfe List.not_mem_nil
  · obtain ⟨low, high, hrange, hspan⟩ := Chart.range_spec
      (fun x hx => h.isFinite x ((hmem x).mp hx)) hne
    obtain ⟨ticks, hticks, hscale⟩ := Axis.exists_ticks (h.isResolved_ends
      ((hmem low).mp hspan.low_mem) ((hmem high).mp hspan.high_mem)
      fun x hx => ⟨hspan.low_le x ((hmem x).mpr hx), hspan.le_high x ((hmem x).mpr hx)⟩)
    rw [hrange, Chart.maxValueTicks]
    dsimp only
    rw [hticks]
    refine ⟨_, rfl, fun _ => ?_⟩
    have hvalues : ((·.value) ∘ fun x => (⟨x, Display.axisTick x⟩ : ValueTick)) = id := rfl
    rwa [List.map_map, hvalues, List.map_id]

end ExposureSeries.IsResolved

/-- A profile of one point, at the valuation date. -/
def ExposureSeries.onePoint (pfe ee epe ene : Binary64) : ExposureSeries :=
  ⟨[⟨.zero, pfe, ee, epe, ene⟩], rfl⟩

namespace ChartModel

variable {model : ChartModel} {series : ExposureSeries}

/-- What is plotted of a profile are its figures. -/
theorem mem_figures {x : Binary64} :
    x ∈ (ChartData.ofSeries series).values.toList.flatten ↔ x ∈ series.figures := by
  simp only [ChartData.ofSeries, Curves.toList, ExposureSeries.figures, ExposurePoint.figures,
    List.mem_flatten, List.mem_flatMap, List.mem_cons, List.not_mem_nil, or_false]
  constructor
  · rintro ⟨l, rfl | rfl | rfl | rfl, hx⟩ <;> obtain ⟨p, hp, rfl⟩ := List.mem_map.mp hx <;>
      exact ⟨p, hp, by simp⟩
  · rintro ⟨p, hp, rfl | rfl | rfl | rfl⟩
    · exact ⟨_, .inl rfl, List.mem_map_of_mem hp⟩
    · exact ⟨_, .inr (.inl rfl), List.mem_map_of_mem hp⟩
    · exact ⟨_, .inr (.inr (.inl rfl)), List.mem_map_of_mem hp⟩
    · exact ⟨_, .inr (.inr (.inr rfl)), List.mem_map_of_mem hp⟩

/-- Whatever was plotted before, a profile that is not skipped is plotted. -/
theorem exists_chart_next (h : ¬model.Skips series) :
    ∃ chart, (model.next series).chart = some chart ∧
      chart.values = (ChartData.ofSeries series).values.toList.flatten := by
  unfold next
  cases hc : model.chart with
  | some chart => exact ⟨_, rfl, rfl⟩
  | none =>
    have hp : series.points.isEmpty = false := by
      simpa using fun hnil => h ⟨hc, hnil⟩
    rw [hp]
    exact ⟨_, rfl, rfl⟩

/-- **Drawing.** Whatever was plotted before, a resolved profile is drawn without overflow. If it
has points, its value axis has at least one and at most eleven ticks, finite and in increasing
order. -/
theorem draw_of_isResolved (model : ChartModel) (h : series.IsResolved) :
    model.draw series ≠ .overflow ∧
      (series.points ≠ [] → ∃ update, model.draw series = .drawn update ∧
        Axis.IsScale Chart.maxValueTicks (update.ticks.map (·.value))) := by
  by_cases hskip : model.Skips series
  · rw [draw_of_skips hskip]
    exact ⟨by simp, fun hpoints => absurd hskip.2 hpoints⟩
  · obtain ⟨chart, hnext, hvalues⟩ := exists_chart_next hskip
    have hmem : ∀ x, x ∈ chart.values ↔ x ∈ series.figures := fun x => by rw [hvalues, mem_figures]
    obtain ⟨axis, haxis, hscale⟩ := h.exists_valueAxis hmem
    have hdraw : model.draw series =
        .drawn ⟨model.action, chart.labels, chart.curves.map (·.values), axis⟩ := by
      rw [draw, hnext]
      dsimp only
      rw [Chart.update?, haxis]
      rfl
    rw [hdraw]
    exact ⟨by simp, fun hpoints => ⟨_, rfl, hscale hpoints⟩⟩

/-- A profile in the tens of thousands. -/
def tensOfThousands : ExposureSeries :=
  .onePoint (.ofInt 90000) (.ofInt 50000) (.ofInt 40000) (.ofInt (-10000))

/-- Figures of a usual book are resolved. -/
theorem isResolved_tensOfThousands : tensOfThousands.IsResolved := by
  have hpfe : (Binary64.ofInt 90000).IsNear 0 (90000 : Int) := Binary64.ofInt_isNear (by decide)
  have hee : (Binary64.ofInt 50000).IsNear 0 (50000 : Int) := Binary64.ofInt_isNear (by decide)
  have hepe : (Binary64.ofInt 40000).IsNear 0 (40000 : Int) := Binary64.ofInt_isNear (by decide)
  have hene : (Binary64.ofInt (-10000)).IsNear 0 (-10000 : Int) :=
    Binary64.ofInt_isNear (by decide)
  rw [tensOfThousands]
  generalize Binary64.ofInt 90000 = pfe at *
  generalize Binary64.ofInt 50000 = ee at *
  generalize Binary64.ofInt 40000 = epe at *
  generalize Binary64.ofInt (-10000) = ene at *
  have hfigures : (ExposureSeries.onePoint pfe ee epe ene).figures = [pfe, ee, epe, ene] := rfl
  have hbound : (10 : ℚ) ^ 5 ≤ 10 ^ 290 := pow_le_pow_right₀ (by norm_num) (by decide)
  constructor <;> rw [hfigures]
  · simp [hpfe.finite, hee.finite, hepe.finite, hene.finite]
  · simp only [List.forall_mem_cons, hpfe.value_eq, hee.value_eq, hepe.value_eq, hene.value_eq]
    generalize (10 : ℚ) ^ 290 = bound at *
    norm_num at hbound ⊢
    exact ⟨by linarith, by linarith, by linarith, by linarith⟩
  · refine .inr ⟨ene, by simp, pfe, by simp, ?_, ?_⟩
    · rw [hpfe.value_eq, hene.value_eq]
      refine (inv_le_one_of_one_le₀ (one_le_pow₀ (by norm_num))).trans ?_
      norm_num
    · simp only [List.forall_mem_cons, hpfe.value_eq, hee.value_eq, hepe.value_eq, hene.value_eq]
      norm_num

/-- Their axis is a scale. -/
theorem draw_of_isResolved_tensOfThousands : tensOfThousands.IsResolved ∧
    ∃ update, initial.draw tensOfThousands = .drawn update ∧
      Axis.IsScale Chart.maxValueTicks (update.ticks.map (·.value)) :=
  ⟨isResolved_tensOfThousands,
    (draw_of_isResolved initial isResolved_tensOfThousands).2 (List.cons_ne_nil _ _)⟩

/-- The least positive double beside zeros cannot be drawn. -/
theorem draw_leastSpread :
    initial.draw (.onePoint (.finite false ⟨1, by decide⟩) .zero .zero .zero) = .overflow := by
  decide +kernel

end ChartModel

end RiskBoard
