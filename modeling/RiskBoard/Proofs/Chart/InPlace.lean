import Mathlib.Data.Option.Basic
import RiskBoard.Chart.Basic

/-!
# The chart in place

There is one chart. It is created in the fixed styles and then takes the data of later profiles in
place of what it plots, series by series. A chart in the fixed styles that takes data is the chart
that would be created from it (`Chart.replaceData_create`), so nothing of an earlier profile
survives, whichever of the two profiles is longer.

`ChartModel.IsSound` is the invariant of the model: its chart was created, once, and a drawing was
counted exactly if there is one. A model `ChartModel.Skips` an empty profile before the first
chart; any other profile is drawn, and the chart is then that of the profile
(`ChartModel.IsSound.next_eq`). So after any profiles a model shows the last of them, unless all
were skipped (`ChartModel.Shows`).
-/

namespace RiskBoard

@[simp] theorem Chart.replaceData_create (old data : ChartData) :
    (Chart.create old).replaceData data = Chart.create data := rfl

/-- All that is plotted is as long as the profile. -/
theorem Chart.length_create_ofSeries (series : ExposureSeries) :
    (create (.ofSeries series)).labels.length = series.points.length ∧
      ∀ curve ∈ (create (.ofSeries series)).curves.toList,
        curve.values.length = series.points.length := by
  refine ⟨List.length_map _, fun curve hcurve => ?_⟩
  simp only [create, ChartData.ofSeries, Curves.zipWith, Curves.toList, List.mem_cons,
    List.not_mem_nil, or_false] at hcurve
  rcases hcurve with rfl | rfl | rfl | rfl <;> exact List.length_map _

namespace ChartModel

/-- The chart of a sound model was created, and once; something was drawn exactly if there is a
chart. -/
structure IsSound (model : ChartModel) : Prop where
  created : ∀ chart, model.chart = some chart → ∃ data, chart = .create data
  creations : model.creations = if model.chart.isSome then 1 else 0
  redraws : model.redraws = 0 ↔ model.chart = none

/-- A model skips an empty profile before the first chart. -/
def Skips (model : ChartModel) (series : ExposureSeries) : Prop :=
  model.chart = none ∧ series.points = []

variable {model : ChartModel} {series : ExposureSeries} {update : ChartUpdate}

/-- An empty profile creates no chart. -/
theorem next_of_skips (h : model.Skips series) : model.next series = model := by
  rw [next, h.1, h.2]
  rfl

/-- There is no chart at first, and nothing was drawn. -/
theorem isSound_initial : initial.IsSound where
  created _ h := by cases h
  creations := rfl
  redraws := iff_of_true rfl rfl

/-- **In place.** A profile that is not skipped leaves the chart that is created from it, drawn once
more and still created once. -/
theorem IsSound.next_eq (h : model.IsSound) (hs : ¬model.Skips series) :
    model.next series = ⟨some (.create (.ofSeries series)), model.redraws + 1, 1⟩ := by
  have hcreations := h.creations
  cases hc : model.chart with
  | some chart =>
    -- the chart was created, so it keeps the fixed styles when it takes the data
    obtain ⟨data, rfl⟩ := h.created chart hc
    rw [hc, Option.isSome_some, if_pos rfl] at hcreations
    simp only [next, hc, Chart.replaceData_create, hcreations]
  | none =>
    have hp : series.points.isEmpty = false := by
      simpa using fun hnil => hs ⟨hc, hnil⟩
    rw [hc, Option.isSome_none, if_neg Bool.false_ne_true] at hcreations
    simp only [next, hc, hp, hcreations, Bool.false_eq_true, if_false]

/-- A profile leaves a sound model sound. -/
theorem IsSound.next (h : model.IsSound) (series : ExposureSeries) :
    (model.next series).IsSound := by
  by_cases hs : model.Skips series
  · rwa [next_of_skips hs]
  · rw [h.next_eq hs]
    refine ⟨fun chart hc => ⟨_, (Option.some.inj hc).symm⟩, rfl, ?_⟩
    exact iff_of_false (Nat.succ_ne_zero _) (Option.some_ne_none _)

/-- After some profiles a model shows the last of them, or has no chart as long as none of them has
points. -/
def Shows (model : ChartModel) (profiles : List ExposureSeries) : Prop :=
  (model.chart = none ∧ ∀ series ∈ profiles, series.points = []) ∨
    ∃ last, profiles.getLast? = some last ∧
      model.chart = some (.create (.ofSeries last)) ∧ ∃ series ∈ profiles, series.points ≠ []

theorem shows_initial : initial.Shows [] := .inl ⟨rfl, fun _ hmem => absurd hmem List.not_mem_nil⟩

/-- After a profile the chart shows it, or still nothing. -/
theorem Shows.next {profiles : List ExposureSeries} (h : model.Shows profiles)
    (hsound : model.IsSound) (series : ExposureSeries) :
    (model.next series).Shows (profiles ++ [series]) := by
  by_cases hskip : model.Skips series
  · rw [next_of_skips hskip]
    rcases h with ⟨hnone, hempty⟩ | ⟨last, -, hsome, -⟩
    · -- one more empty profile before the first chart
      refine .inl ⟨hnone, fun s hs => ?_⟩
      rcases List.mem_append.mp hs with hs | hs
      · exact hempty s hs
      · rw [List.mem_singleton.mp hs, hskip.2]
    · rw [hskip.1] at hsome
      cases hsome
  · rw [hsound.next_eq hskip]
    refine .inr ⟨series, by simp, rfl, ?_⟩
    -- either this profile has points, or there was a chart and so a profile with points
    rcases h with ⟨hnone, -⟩ | ⟨last, -, -, s, hs, hpoints⟩
    · exact ⟨series, by simp, fun hnil => hskip ⟨hnone, hnil⟩⟩
    · exact ⟨s, List.mem_append_left _ hs, hpoints⟩

/-- A chart is created if there is none. -/
theorem action_eq_created_iff : model.action = .created ↔ model.chart = none := by
  cases hc : model.chart <;> simp [action, hc]

/-- Nothing is drawn of an empty profile before the first. -/
theorem draw_of_skips (h : model.Skips series) : model.draw series = .nothing := by
  rw [draw, next_of_skips h, h.1]

/-- What is drawn depends on the profile alone, but for the action. -/
theorem IsSound.draw_eq (h : model.IsSound) (hs : ¬model.Skips series) :
    model.draw series =
      ((Chart.create (.ofSeries series)).update? model.action).elim .overflow .drawn := by
  rw [draw, h.next_eq hs]

/-- Nothing is drawn of no other profile. -/
theorem IsSound.draw_eq_nothing_iff (h : model.IsSound) :
    model.draw series = .nothing ↔ model.Skips series := by
  refine ⟨fun hd => ?_, draw_of_skips⟩
  by_contra hs
  rw [h.draw_eq hs] at hd
  cases hu : (Chart.create (.ofSeries series)).update? model.action with
  | none => simp [hu] at hd
  | some update => simp [hu] at hd

/-- A drawing tells the data of the profile, and that the chart was created if it was the first. -/
theorem IsSound.of_draw_eq_drawn (h : model.IsSound) (hd : model.draw series = .drawn update) :
    ¬model.Skips series ∧ update.labels = (ChartData.ofSeries series).labels ∧
      update.values = (ChartData.ofSeries series).values ∧
      (update.action = .created ↔ model.chart = none) := by
  have hs : ¬model.Skips series := fun hs => by
    rw [draw_of_skips hs] at hd
    cases hd
  rw [h.draw_eq hs] at hd
  cases hu : (Chart.create (.ofSeries series)).update? model.action with
  | none => simp [hu] at hd
  | some told =>
    rw [hu] at hd
    obtain ⟨ticks, -, rfl⟩ := Option.map_eq_some_iff.mp hu
    cases hd
    exact ⟨hs, rfl, rfl, action_eq_created_iff⟩

end ChartModel

end RiskBoard
