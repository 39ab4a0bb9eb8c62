import Mathlib.Data.List.Chain
import RiskBoard.Proofs.Dashboard.Painting
import RiskBoard.Proofs.Session.Charting

/-!
# The dashboard mirrors the session

Beside the figures, a dashboard that folds the events of a session shows four things that the
session holds itself: the active view, the trades, their number, and the chart. It rebuilds them
from the events alone, and after every message it has what the session has (`Dashboard.Mirrors`).

Of the views and the charts that are told only the last ones count (`Dashboard.active_fold`,
`Dashboard.chart_fold`), so these two are laws of the events: the changes of the active view are a
trail to the view of the session (`Navigation.IsTrail`), and the last drawing tells the chart as it
stands (`ChartUpdate.Tells`). Trades and their number come from the portfolio pulled last.
-/

namespace RiskBoard

namespace Navigation

/-- Changes of the active view that lead from one view to another, each of them from the view to
which the one before led. -/
structure IsTrail (start finish : View) (trail : List Navigation) : Prop where
  starts : ∀ first ∈ trail.head?, first.previous = start
  linked : trail.IsChain fun before after => after.previous = before.active
  ends : (trail.getLast?.map (·.active)).getD start = finish

theorem isTrail_nil (view : View) : IsTrail view view [] := ⟨fun _ h => (nomatch h), .nil, rfl⟩

theorem IsTrail.concat {start finish : View} {trail : List Navigation}
    (h : IsTrail start finish trail) (view : View) :
    IsTrail start view (trail ++ [⟨finish, view⟩]) where
  starts := by
    rcases trail with _ | ⟨first, rest⟩
    · rintro _ ⟨⟩
      exact h.ends.symm
    · exact h.starts
  linked := by
    refine List.isChain_append.mpr ⟨h.linked, .singleton _, fun last hlast next hnext => ?_⟩
    cases hnext
    rw [← h.ends, Option.mem_def.mp hlast]
    rfl
  ends := by rw [List.getLast?_concat]; rfl

end Navigation

namespace Event

/-- The change of the active view that an event tells of. -/
def navigation? : Event → Option Navigation
  | .activeView navigation => some navigation
  | _ => none

/-- The changes of the active view that some events tell of, in order. -/
def navigations (events : List Event) : List Navigation := events.filterMap navigation?

theorem navigations_append (xs ys : List Event) :
    navigations (xs ++ ys) = navigations xs ++ navigations ys :=
  List.filterMap_append

end Event

/-- A drawing tells a chart as it stands after some redraws. -/
structure ChartUpdate.Tells (update : ChartUpdate) (redraws : ℕ) (chart : Chart) : Prop where
  labels : update.labels = chart.labels
  values : update.values = chart.curves.map (·.values)
  ticks : chart.valueAxis? Chart.maxValueTicks = some update.ticks
  created : update.action = .created ↔ redraws = 1

/-- What is drawn is the chart that the profile leaves. -/
theorem ChartModel.IsSound.exists_tells {model : ChartModel} (h : model.IsSound)
    {series : ExposureSeries} {update : ChartUpdate} (hd : model.draw series = .drawn update) :
    ∃ chart, (model.next series).chart = some chart ∧
      update.Tells (model.next series).redraws chart := by
  obtain ⟨hskip, -, -, hcreated⟩ := h.of_draw_eq_drawn hd
  rw [draw] at hd
  cases hc : (model.next series).chart with
  | none => simp [hc] at hd
  | some chart =>
    rw [hc] at hd
    cases hu : chart.update? model.action with
    | none => simp [hu] at hd
    | some told =>
      obtain rfl : told = update := by simpa [hu] using hd
      obtain ⟨ticks, hticks, rfl⟩ := Option.map_eq_some_iff.mp hu
      refine ⟨chart, rfl, rfl, rfl, hticks, hcreated.trans ?_⟩
      -- the chart is new exactly if nothing was drawn before
      rw [← h.redraws, h.next_eq hskip]
      exact (Nat.succ_inj (a := model.redraws) (b := 0)).symm

namespace Inbound

/-- The portfolio that a message pulls. -/
def portfolio? : Inbound → Option Portfolio
  | .pulled (.portfolio p) => some p
  | _ => none

end Inbound

theorem Store.portfolio_after (store : Store) (message : Inbound) :
    (store.after message).portfolio = message.portfolio?.or store.portfolio := by
  rcases message with (_ | _ | _) | push | _ | _
  case pushed =>
    simp only [after, Inbound.write?, Inbound.portfolio?, Option.none_or]
    split_ifs <;> rfl
  all_goals rfl

namespace Dashboard

open Event

/-- What a session holds beside the figures of risk, as a dashboard shows it. -/
structure Mirrors (dashboard : Dashboard) (session : Session) : Prop where
  active : dashboard.active = session.active
  trades : dashboard.trades = (session.store.portfolio.elim [] (·.trades)).map .ofTrade
  tradeCount : dashboard.panel.tile .tradeCount =
    session.store.portfolio.map fun p => .plain (toString p.tradeCount)
  /-- There is a drawing exactly if there is a chart, and it tells the chart as it stands. -/
  chart : Option.Rel (fun update chart => update.Tells session.chart.redraws chart)
    dashboard.chart session.chart.chart

/-! ### Folding -/

/-- A dashboard is on the view that was activated last. -/
theorem active_fold (dashboard : Dashboard) (events : List Event) :
    (dashboard.fold events).active =
      ((navigations events).getLast?.map (·.active)).getD dashboard.active := by
  induction events using List.reverseRecOn with
  | nil => rfl
  | append_singleton events event ih =>
    rw [fold_append, navigations_append, List.getLast?_append]
    rcases event with ((_ | _ | _) | _) | _ | _ | _
    case activeView => rfl
    all_goals exact ih

/-- A dashboard shows the drawing that was told last. -/
theorem chart_fold (dashboard : Dashboard) (events : List Event) :
    (dashboard.fold events).chart = (drawings events).getLast?.or dashboard.chart := by
  induction events using List.reverseRecOn with
  | nil => rfl
  | append_singleton events event ih =>
    rw [fold_append, Session.drawings_append, List.getLast?_append]
    rcases event with ((_ | _ | _) | _) | _ | _ | _
    case chart => rfl
    all_goals exact ih

end Dashboard

namespace Session

open Inbound Event

variable {messages : List Inbound} {r : Reaction}

/-! ### What is told of the view and of the chart -/

theorem navigations_of_step? {session : Session} {message : Inbound}
    (h : session.step? message = some r) :
    navigations r.events = [] ∧ r.session.active = session.active ∨
      ∃ view, navigations r.events = [⟨session.active, view⟩] ∧ r.session.active = view := by
  cases step?_eq_some_iff.mp h with
  | visited view => exact .inr ⟨view, rfl, rfl⟩
  | told state => cases state <;> exact .inl ⟨rfl, rfl⟩
  | _ => exact .inl ⟨rfl, rfl⟩

/-- The changes of the active view that a run tells of lead from the dashboard to the view of the
session. -/
theorem isTrail_of_run? (h : Session.initial.run? messages = some r) :
    Navigation.IsTrail .dashboard r.session.active (navigations r.events) := by
  refine run?_induction (motive := fun _ r =>
    Navigation.IsTrail .dashboard r.session.active (navigations r.events)) ?_ ?_ h
  · exact Navigation.isTrail_nil .dashboard
  · intro history message r next _ ih hstep
    change Navigation.IsTrail _ next.session.active (navigations (r.events ++ next.events))
    rw [navigations_append]
    rcases navigations_of_step? hstep with ⟨hnil, hactive⟩ | ⟨view, hone, hactive⟩
    · rwa [hnil, hactive, List.append_nil]
    · rw [hone, hactive]
      exact ih.concat view

/-- The last drawing of a run tells the chart as it stands, and there is one if there is a chart. -/
theorem tells_of_run? (h : Session.initial.run? messages = some r) :
    Option.Rel (fun update chart => update.Tells r.session.chart.redraws chart)
      (drawings r.events).getLast? r.session.chart.chart := by
  refine run?_induction (motive := fun _ r => Option.Rel
    (fun update chart => update.Tells r.session.chart.redraws chart)
      (drawings r.events).getLast? r.session.chart.chart) ?_ ?_ h
  · exact .none
  · intro history message r next hr ih hstep
    have hsound := isSound_of_run? hr
    change Option.Rel (fun update chart => update.Tells next.session.chart.redraws chart)
      (drawings (r.events ++ next.events)).getLast? next.session.chart.chart
    rw [drawings_append, chart_of_step? hstep]
    rcases events_of_step? hstep with ⟨hnil, hskip⟩ | ⟨series, update, hm, hd, hevents⟩
    · -- nothing is drawn, and a profile that is skipped leaves the chart as it is
      have hkept : message.series?.elim r.session.chart r.session.chart.next = r.session.chart := by
        cases hm : message.series? with
        | none => rfl
        | some series =>
          exact ChartModel.next_of_skips (hsound.draw_eq_nothing_iff.mp (hskip series hm))
      rwa [hnil, List.append_nil, hkept]
    · obtain ⟨chart, hchart, htells⟩ := hsound.exists_tells hd
      have hlast : (drawings r.events ++ drawings next.events).getLast? = some update := by
        rw [hevents]
        exact List.getLast?_concat
      rw [hlast, hm, Option.elim_some, hchart]
      exact .some htells

/-! ### Trades -/

theorem portfolio_of_run? (h : Session.initial.run? messages = some r) :
    r.session.store.portfolio = latest portfolio? messages := by
  refine run?_induction (motive := fun messages r =>
    r.session.store.portfolio = latest portfolio? messages) rfl ?_ h
  intro history message r next _ ih hstep
  rw [latest_concat, ← ih, ← Store.portfolio_after, ← store_of_step? hstep]
  rfl

theorem painted?_tradeCount (message : Inbound) : message.painted? .tradeCount =
    message.portfolio?.map fun p => .plain (toString p.tradeCount) := by
  rcases message with (_ | _ | _) | _ | _ | _ <;> rfl

theorem rows?_eq (message : Inbound) :
    message.rows? = message.portfolio?.map fun p => p.trades.map .ofTrade := by
  rcases message with (_ | _ | _) | _ | _ | _ <;> rfl

/-! ### The whole mirror -/

theorem mirrors_of_run? (h : Session.initial.run? messages = some r) :
    (Dashboard.initial.fold r.events).Mirrors r.session where
  active := by
    rw [Dashboard.active_fold]
    exact (isTrail_of_run? h).ends
  trades := by
    rw [trades_of_run? h, funext rows?_eq, latest_map, ← portfolio_of_run? h]
    cases r.session.store.portfolio <;> rfl
  tradeCount := by
    rw [tile_of_run? h, funext painted?_tradeCount, latest_map, ← portfolio_of_run? h]
  chart := by
    rw [Dashboard.chart_fold, Dashboard.initial, Option.or_none]
    exact tells_of_run? h

/-- **The dashboard mirrors the session.** After every prefix of a run, the dashboard that folded
the events so far is on the view of the session, shows the trades of the stored portfolio in their
order and their number, and shows a chart exactly if the session has one, with its labels, its
values and the ticks of its axis, as created if it was drawn once. The changes of the active view
that were told are a trail from the dashboard to that view. -/
theorem run_dashboard_mirrors (h : Session.initial.run? messages = some r)
    (before after : List Inbound) (hm : messages = before ++ after) :
    ∃ first, Session.initial.run? before = some first ∧ first.events <+: r.events ∧
      (Dashboard.initial.fold first.events).Mirrors first.session ∧
      Navigation.IsTrail .dashboard first.session.active (navigations first.events) := by
  subst hm
  obtain ⟨first, rest, hfirst, -, rfl⟩ := run?_append_eq_some.mp h
  exact ⟨first, hfirst, List.prefix_append _ _, mirrors_of_run? hfirst, isTrail_of_run? hfirst⟩

/-- Two visits to one view, a profile, and a portfolio with fewer trades than the one before. -/
def shrinkingTrades : List Inbound :=
  [.navigate .exposure, .pulled (.portfolio ⟨.zero, 2, [.blank, .blank]⟩), .navigate .exposure,
    .pulled (.exposure ⟨[⟨.one, .one, .zero, .zero, .zero⟩], rfl⟩),
    .pulled (.portfolio ⟨.zero, 7, [.blank]⟩), .pulled (.exposure .empty)]

/-- Before the last profile the chart was drawn once and has its one point, one trade is left, and
the second visit was told as one from the exposure view to itself. -/
theorem run_dashboard_shrinkingTrades : ∃ first update,
    Session.initial.run? (shrinkingTrades.take 5) = some first ∧
    (Dashboard.initial.fold first.events).active = .exposure ∧
    (Dashboard.initial.fold first.events).trades = [.ofTrade .blank] ∧
    (Dashboard.initial.fold first.events).panel.tile .tradeCount = some (.plain "7") ∧
    (Dashboard.initial.fold first.events).chart = some update ∧ update.action = .created ∧
    update.values.pfe = [.one] ∧
    Navigation.IsTrail .dashboard .exposure
      [⟨.dashboard, .exposure⟩, ⟨.exposure, .exposure⟩] := by
  obtain ⟨r, h⟩ : ∃ r, Session.initial.run? shrinkingTrades = some r :=
    Option.isSome_iff_exists.mp (by decide +kernel)
  obtain ⟨first, hfirst, -, hmirrors, htrail⟩ :=
    run_dashboard_mirrors h (shrinkingTrades.take 5) (shrinkingTrades.drop 5) rfl
  have hdrawn : (Session.initial.run? (shrinkingTrades.take 5)).map (fun r =>
      (r.session.chart.chart.map (·.curves.pfe.values), r.session.chart.redraws)) =
      some (some [.one], 1) := by decide +kernel
  have hvisits : (Session.initial.run? (shrinkingTrades.take 5)).map (fun r =>
      (r.session.active, navigations r.events)) =
      some (.exposure, [⟨.dashboard, .exposure⟩, ⟨.exposure, .exposure⟩]) := by decide +kernel
  rw [hfirst] at hdrawn hvisits
  obtain ⟨hpfe, hredraws⟩ := Prod.mk.inj (Option.some.inj hdrawn)
  obtain ⟨hactive, hnavigations⟩ := Prod.mk.inj (Option.some.inj hvisits)
  have hportfolio : first.session.store.portfolio = some ⟨.zero, 7, [.blank]⟩ :=
    portfolio_of_run? hfirst
  obtain ⟨chart, hc, hpfe⟩ := Option.map_eq_some_iff.mp hpfe
  have hchart := hmirrors.chart
  rw [hc, hredraws] at hchart
  generalize hshown : (Dashboard.initial.fold first.events).chart = shown at hchart
  obtain @⟨update, _, htells⟩ | - := hchart
  rw [hactive, hnavigations] at htrail
  refine ⟨first, update, hfirst, hmirrors.active.trans hactive, ?_, ?_, hshown,
    htells.created.mpr rfl, ?_, htrail⟩
  · rw [hmirrors.trades, hportfolio]
    rfl
  · rw [hmirrors.tradeCount, hportfolio]
    rfl
  · rw [htells.values]
    exact hpfe

end Session

end RiskBoard
