import RiskBoard.Proofs.Chart.InPlace
import RiskBoard.Proofs.Session.LastWriter

/-!
# The chart shows the stored profile

The chart model and the store take a pulled profile separately, one in place and one as a whole.
After any run of a session the chart is the one that would be created from the stored profile, as
soon as a profile with points was pulled; before that there is none (`Session.shows_of_run?`).

The events of a run tell of each drawing, directly after the profile that was drawn is told
(`Session.drawing_of_run?`).
-/

namespace RiskBoard

/-- The drawing that an event tells of. -/
def Event.drawing? : Event → Option ChartUpdate
  | .chart update => some update
  | _ => none

/-- The drawings that some events tell of, in order. -/
def Event.drawings (events : List Event) : List ChartUpdate := events.filterMap Event.drawing?

/-- After some events a drawing comes in order if the profile that was drawn is told directly before
it, and if it is told as the creation exactly when nothing was drawn before. -/
def Event.DrawnInOrder (before : List Event) (update : ChartUpdate) : Prop :=
  ∃ earlier series, before = earlier ++ [.dataset (.replaced (.exposure series))] ∧
    update.labels = (ChartData.ofSeries series).labels ∧
    update.values = (ChartData.ofSeries series).values ∧
    (update.action = .created ↔ drawings before = [])

namespace Inbound

/-- The profiles that some messages pull, in order. -/
def profiles (messages : List Inbound) : List ExposureSeries := messages.filterMap series?

theorem profiles_concat (messages : List Inbound) (message : Inbound) :
    profiles (messages ++ [message]) = profiles messages ++ message.series?.toList := by
  rw [profiles, List.filterMap_append]
  cases h : message.series? <;> simp [profiles, h]

theorem mem_profiles {messages : List Inbound} {series : ExposureSeries} :
    series ∈ profiles messages ↔ .pulled (.exposure series) ∈ messages := by
  rw [profiles, List.mem_filterMap]
  constructor
  · rintro ⟨message, hmem, hseries⟩
    rcases message with (_ | _ | s) | _ | _ | _ <;> cases hseries
    exact hmem
  · exact fun hmem => ⟨_, hmem, rfl⟩

end Inbound

namespace Session

open Inbound Event

variable {session : Session} {message : Inbound} {messages : List Inbound} {r next : Reaction}

@[simp] theorem drawings_append (xs ys : List Event) :
    drawings (xs ++ ys) = drawings xs ++ drawings ys :=
  List.filterMap_append

/-! ### One message -/

/-- Only a profile is drawn, and what tells the drawing comes directly after what tells the
profile. -/
theorem events_of_step? (h : session.step? message = some next) :
    (drawings next.events = [] ∧
        ∀ series, message.series? = some series → session.chart.draw series = .nothing) ∨
      ∃ series update, message.series? = some series ∧
        session.chart.draw series = .drawn update ∧
        next.events = [.dataset (.replaced (.exposure series)), .chart update] := by
  cases step?_eq_some_iff.mp h with
  | drawn series update hd => exact .inr ⟨series, update, rfl, hd, rfl⟩
  | undrawn series hd =>
    refine .inl ⟨rfl, fun s hs => ?_⟩
    cases hs
    exact hd
  | replaced snapshot hk =>
    refine .inl ⟨rfl, fun s hs => ?_⟩
    cases snapshot <;> simp_all [Inbound.series?, Snapshot.kind]
  | told state => cases state <;> exact .inl ⟨rfl, fun _ hs => by cases hs⟩
  | merged | ignored | visited => exact .inl ⟨rfl, fun _ hs => by cases hs⟩

/-! ### Runs -/

theorem isSound_of_run? (h : Session.initial.run? messages = some r) :
    r.session.chart.IsSound := by
  refine run?_induction (motive := fun _ r => r.session.chart.IsSound) ?_ ?_ h
  · exact ChartModel.isSound_initial
  · intro _ message r next _ ih hs
    change next.session.chart.IsSound
    rw [chart_of_step? hs]
    cases message.series? with
    | none => exact ih
    | some series => exact ih.next series

theorem shows_of_run? (h : Session.initial.run? messages = some r) :
    r.session.chart.Shows (profiles messages) := by
  refine run?_induction (motive := fun messages r =>
    r.session.chart.Shows (profiles messages)) ?_ ?_ h
  · exact ChartModel.shows_initial
  · intro history message r next hr ih hstep
    change next.session.chart.Shows _
    rw [chart_of_step? hstep, profiles_concat]
    cases message.series? with
    | none => rwa [Option.toList_none, List.append_nil]
    | some series => exact ih.next (isSound_of_run? hr) series

theorem exposure_of_run? (h : Session.initial.run? messages = some r) :
    r.session.store.current .exposure = (profiles messages).getLast?.map .exposure := by
  rw [current_of_run? h (by decide), profiles, ← latest, ← latest_map]
  congr 1
  funext message
  rcases message with (_ | _ | _) | _ | _ | _ <;> rfl

/-- A drawing was counted for each that is told. -/
theorem redraws_of_run? (h : Session.initial.run? messages = some r) :
    r.session.chart.redraws = (drawings r.events).length := by
  refine run?_induction (motive := fun _ r =>
    r.session.chart.redraws = (drawings r.events).length) ?_ ?_ h
  · rfl
  · intro history message r next hr ih hstep
    have hsound := isSound_of_run? hr
    change next.session.chart.redraws = (drawings (r.events ++ next.events)).length
    rw [drawings_append, List.length_append, ← ih, chart_of_step? hstep]
    rcases events_of_step? hstep with ⟨hnil, hskip⟩ | ⟨series, update, hm, hd, hevents⟩
    · cases hm : message.series? with
      | none => rw [hnil]; rfl
      | some series =>
        have hs := hsound.draw_eq_nothing_iff.mp (hskip series hm)
        rw [hnil, Option.elim_some, ChartModel.next_of_skips hs]
        rfl
    · rw [hm, hevents, Option.elim_some, hsound.next_eq (hsound.of_draw_eq_drawn hd).1]
      rfl

theorem drawings_eq_nil_iff_of_run? (h : Session.initial.run? messages = some r) :
    drawings r.events = [] ↔ r.session.chart.chart = none := by
  rw [← (isSound_of_run? h).redraws, redraws_of_run? h, List.length_eq_zero_iff]

/-- A drawing that a message leads to comes in order after all that was told before it. -/
theorem drawing_of_step? (h : Session.initial.run? messages = some r)
    (hstep : r.session.step? message = some next) {new after : List Event} {update : ChartUpdate}
    (hnew : next.events = new ++ .chart update :: after) :
    DrawnInOrder (r.events ++ new) update := by
  rcases events_of_step? hstep with ⟨hnil, -⟩ | ⟨series, told, -, hd, hevents⟩
  · rw [hnew, drawings_append] at hnil
    cases (List.append_eq_nil_iff.mp hnil).2
  · -- the message tells the profile and then its drawing, so `new` is the profile
    obtain ⟨rfl, rfl⟩ : new = [.dataset (.replaced (.exposure series))] ∧ update = told := by
      rw [hevents] at hnew
      rcases new with _ | ⟨_, _ | ⟨_, _⟩⟩ <;> simp_all
    obtain ⟨-, hlabels, hvalues, hcreated⟩ := (isSound_of_run? h).of_draw_eq_drawn hd
    refine ⟨r.events, series, rfl, hlabels, hvalues, hcreated.trans ?_⟩
    rw [drawings_append, ← drawings_eq_nil_iff_of_run? h, List.append_eq_nil_iff]
    exact ⟨fun hnil => ⟨hnil, rfl⟩, And.left⟩

/-- Every drawing comes in order. -/
theorem drawing_of_run? (h : Session.initial.run? messages = some r) :
    ∀ before update after, r.events = before ++ .chart update :: after →
      DrawnInOrder before update := by
  refine run?_induction (motive := fun _ r => ∀ before update after,
    r.events = before ++ .chart update :: after → DrawnInOrder before update) ?_ ?_ h
  · intro before update after hnil
    simp [Reaction.idle] at hnil
  · intro history message r next hr ih hstep before update after hsplit
    change r.events ++ next.events = _ at hsplit
    rcases List.append_eq_append_iff.mp hsplit with ⟨new, rfl, hnew⟩ | ⟨rest, hold, hrest⟩
    · exact drawing_of_step? hr hstep hnew
    · cases rest with
      | nil =>
        have hlast : DrawnInOrder (r.events ++ []) update := drawing_of_step? hr hstep hrest.symm
        rwa [hold, List.append_nil, List.append_nil] at hlast
      | cons event rest =>
        obtain ⟨rfl, -⟩ := List.cons_eq_cons.mp hrest
        exact ih before update rest hold

/-- **The chart shows the stored profile.** After a run there is a chart exactly if a profile with
points was pulled. Before that the stored profile, if there is one, is empty; afterwards the chart
has the data of the stored profile in the fixed styles, and nothing else. The chart was created at
most once, a drawing was counted for each that is told, and every drawing comes in order. -/
theorem run_chart_mirrors_store (h : Session.initial.run? messages = some r) :
    (r.session.chart.chart = none ↔
      ∀ series, .pulled (.exposure series) ∈ messages → series.points = []) ∧
    (r.session.chart.chart = none → ∀ snapshot, r.session.store.current .exposure = some snapshot →
      ∃ series, snapshot = .exposure series ∧ series.points = []) ∧
    (∀ chart, r.session.chart.chart = some chart →
      ∃ series, r.session.store.current .exposure = some (.exposure series) ∧
        chart.labels = series.points.map (fun p => Display.year p.time) ∧
        chart.curves.toList =
          [⟨.pfe, series.points.map (·.pfe)⟩, ⟨.ee, series.points.map (·.ee)⟩,
            ⟨.epe, series.points.map (·.epe)⟩, ⟨.ene, series.points.map (·.ene)⟩] ∧
        chart.labels.length = series.points.length ∧
        ∀ curve ∈ chart.curves.toList, curve.values.length = series.points.length) ∧
    r.session.chart.creations = (if r.session.chart.chart.isSome then 1 else 0) ∧
    r.session.chart.redraws = (drawings r.events).length ∧
    ∀ before update after, r.events = before ++ .chart update :: after →
      DrawnInOrder before update := by
  refine ⟨?_, ?_, ?_, (isSound_of_run? h).creations, redraws_of_run? h, drawing_of_run? h⟩
  · simp only [← mem_profiles]
    rcases shows_of_run? h with ⟨hnone, hempty⟩ | ⟨last, -, hsome, series, hmem, hpoints⟩
    · exact iff_of_true hnone hempty
    · refine iff_of_false ?_ fun hempty => hpoints (hempty series hmem)
      rw [hsome]
      exact Option.some_ne_none _
  · intro hnone snapshot hs
    rw [exposure_of_run? h] at hs
    obtain ⟨series, hlast, rfl⟩ := Option.map_eq_some_iff.mp hs
    rcases shows_of_run? h with ⟨-, hempty⟩ | ⟨last, -, hsome, -⟩
    · exact ⟨series, rfl, hempty series (List.mem_of_getLast? hlast)⟩
    · rw [hnone] at hsome
      cases hsome
  · intro chart hc
    rcases shows_of_run? h with ⟨hnone, -⟩ | ⟨last, hlast, hsome, -⟩
    · rw [hc] at hnone
      cases hnone
    · obtain rfl : chart = .create (.ofSeries last) := Option.some.inj (hc.symm.trans hsome)
      have hstored : r.session.store.current .exposure = some (.exposure last) := by
        rw [exposure_of_run? h, hlast]
        rfl
      exact ⟨last, hstored, rfl, rfl, Chart.length_create_ofSeries last⟩

/-- An empty profile, one with two points, and a shorter one. -/
def shrinkingProfiles : List Inbound :=
  [.pulled (.exposure .empty),
    .pulled (.exposure ⟨[⟨.zero, .one, .one, .zero, .zero⟩, ⟨.one, .one, .zero, .zero, .zero⟩],
      rfl⟩),
    .pulled (.exposure ⟨[⟨.one, .one, .zero, .one, .zero⟩], rfl⟩)]

/-- The chart that the second profile creates shows the third one alone. -/
theorem run_chart_shrinkingProfiles : ∃ r chart,
    Session.initial.run? shrinkingProfiles = some r ∧ r.session.chart.chart = some chart ∧
    chart.curves.toList = [⟨.pfe, [.one]⟩, ⟨.ee, [.zero]⟩, ⟨.epe, [.one]⟩, ⟨.ene, [.zero]⟩] ∧
    r.session.chart.creations = 1 := by
  obtain ⟨r, h⟩ : ∃ r, Session.initial.run? shrinkingProfiles = some r :=
    Option.isSome_iff_exists.mp (by decide +kernel)
  obtain ⟨hnone, -, hchart, hcreations, -, -⟩ := run_chart_mirrors_store h
  have hne : r.session.chart.chart ≠ none := fun hc => by
    simpa using hnone.mp hc _ (List.mem_cons_of_mem _ List.mem_cons_self)
  obtain ⟨chart, hc⟩ := Option.ne_none_iff_exists'.mp hne
  obtain ⟨series, hstored, -, hcurves, -⟩ := hchart chart hc
  rw [exposure_of_run? h] at hstored
  cases hstored
  rw [hc, Option.isSome_some, if_pos rfl] at hcreations
  exact ⟨r, chart, h, hc, hcurves, hcreations⟩

end Session

end RiskBoard
