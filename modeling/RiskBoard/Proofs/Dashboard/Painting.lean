import RiskBoard.Dashboard.Basic
import RiskBoard.Proofs.Session.LastWriter

/-!
# Painting

A dashboard that paints only what each event carries shows what a full repaint from the session
would show. `Inbound.painted?` says what a message makes the dashboard paint on a tile, and after a
run every tile shows the latest of these (`Session.tile_of_run?`). On the tile of a figure other
than the total present value that is the latest write to the figure, so it agrees with the store,
which merged the same writes on its own.

A merge onto an absent snapshot gives the store zeros that no message wrote; these are not painted.

The tile of the total present value has two sources, pulled portfolios and pushes about valuation,
and shows the later of them (`Session.run_totalPv_eq_latest`). So it may agree with neither of the
stored datasets that hold the figure.
-/

namespace RiskBoard

/-! ### Panels -/

namespace Panel

/-- Strokes are painted in order. -/
theorem paintAll_append (panel : Panel) (xs ys : List (Tile × Shown)) :
    panel.paintAll (xs ++ ys) = (panel.paintAll xs).paintAll ys := List.foldl_append

/-- A tile that no stroke is for stays as it is. -/
theorem tile_paintAll_of_notMem {panel : Panel} {strokes : List (Tile × Shown)} {t : Tile}
    (h : t ∉ strokes.map (·.1)) : (panel.paintAll strokes).tile t = panel.tile t := by
  induction strokes generalizing panel with
  | nil => rfl
  | cons stroke rest ih =>
    obtain ⟨hne, hrest⟩ := not_or.mp (mt List.mem_cons.mpr h)
    change ((panel.paint stroke.1 stroke.2).paintAll rest).tile t = _
    rw [ih hrest, tile_paint, if_neg hne]

/-- Painting the figures that have a value leaves the others as they are. -/
theorem tile_paintAll_figures (value : Figure → Option Binary64) (f : Figure)
    (figures : List Figure) (panel : Panel) :
    (panel.paintAll (figures.filterMap (Dashboard.figureStroke value))).tile (.figure f) =
      if f ∈ figures then ((value f).map f.show).or (panel.tile (.figure f))
      else panel.tile (.figure f) := by
  induction figures generalizing panel with
  | nil => rfl
  | cons g rest ih =>
    cases hg : value g with
    | none =>
      have hstroke : Dashboard.figureStroke value g = none := by simp [Dashboard.figureStroke, hg]
      rw [List.filterMap_cons_none hstroke, ih]
      by_cases hf : f = g
      · subst hf
        simp [hg]
      · simp [hf]
    | some x =>
      have hstroke : Dashboard.figureStroke value g = some (.figure g, g.show x) := by
        simp [Dashboard.figureStroke, hg]
      rw [List.filterMap_cons_some hstroke]
      -- `g` is painted first, and the rest paints it again only with the same value
      change ((panel.paint (.figure g) (g.show x)).paintAll _).tile _ = _
      rw [ih, tile_paint]
      by_cases hf : f = g
      · subst hf
        simp [hg]
      · simp [hf]

theorem tradeCount_paintAll_figures (value : Figure → Option Binary64) (figures : List Figure)
    (panel : Panel) : (panel.paintAll (figures.filterMap (Dashboard.figureStroke value))).tile
      .tradeCount = panel.tile .tradeCount := by
  refine tile_paintAll_of_notMem fun h => ?_
  obtain ⟨stroke, hmem, ht⟩ := List.mem_map.mp h
  obtain ⟨f, -, hf⟩ := List.mem_filterMap.mp hmem
  obtain ⟨x, -, rfl⟩ := Option.map_eq_some_iff.mp hf
  cases ht

end Panel

namespace Dashboard

variable (dashboard : Dashboard)

/-- An event changes the panel by its strokes alone. -/
theorem panel_apply (event : Event) :
    (dashboard.apply event).panel = dashboard.panel.paintAll (strokes event) := by
  rcases event with ((_ | _ | _) | _) | _ | _ | _ <;> rfl

theorem fold_append (xs ys : List Event) :
    dashboard.fold (xs ++ ys) = (dashboard.fold xs).fold ys := List.foldl_append

/-- A patch paints the figures that it carries. -/
theorem tile_patch (panel : Panel) (p : Patch) (f : Figure) :
    (panel.paintAll (patchStrokes p)).tile (.figure f) =
      ((p.figure f).map f.show).or (panel.tile (.figure f)) := by
  rw [patchStrokes, Panel.tile_paintAll_figures, if_pos f.mem_all]

/-- So do events one after the other. -/
theorem panel_fold (events : List Event) :
    (dashboard.fold events).panel = dashboard.panel.paintAll (events.flatMap strokes) := by
  induction events generalizing dashboard with
  | nil => rfl
  | cons event rest ih =>
    rw [List.flatMap_cons, Panel.paintAll_append, ← panel_apply]
    exact ih (dashboard.apply event)

end Dashboard

/-! ### What a message paints -/

/-- What a message makes the dashboard paint on a tile. Of a pulled risk snapshot the total present
value is not painted. -/
def Inbound.painted? : Tile → Inbound → Option Shown
  | .tradeCount, .pulled (.portfolio p) => some (.plain (toString p.tradeCount))
  | .figure f, .pulled (.portfolio p) => if f = .totalPv then some (.currency p.totalPv) else none
  | .figure f, .pulled (.risk risk) =>
    if f = .totalPv then none else (risk.figure f).map f.show
  | .figure f, .pushed push => (push.figure f).map f.show
  | _, _ => none

/-- The total present value that a message brings to its tile: a pulled portfolio brings its own,
and a push about valuation the one that it carries. -/
def Inbound.totalPv? : Inbound → Option Binary64
  | .pulled (.portfolio p) => some p.totalPv
  | .pushed (.risk patch) => patch.totalPv
  | _ => none

/-- The trade table that a message brings. -/
def Inbound.rows? : Inbound → Option (List TradeRow)
  | .pulled (.portfolio p) => some (p.trades.map .ofTrade)
  | _ => none

namespace Session

open Inbound

variable {messages : List Inbound} {r : Reaction}

theorem tile_portfolioStrokes (panel : Panel) (p : Portfolio) (t : Tile) :
    (panel.paintAll (Dashboard.portfolioStrokes p)).tile t =
      ((Inbound.pulled (.portfolio p)).painted? t).or (panel.tile t) := by
  simp only [Dashboard.portfolioStrokes, Panel.paintAll, List.foldl, Panel.tile_paint]
  rcases t with _ | f
  · rfl
  · by_cases hf : f = .totalPv <;> simp [painted?, hf]

theorem tile_riskStrokes (panel : Panel) (risk : Risk) (t : Tile) :
    (panel.paintAll (Dashboard.riskStrokes risk)).tile t =
      ((Inbound.pulled (.risk risk)).painted? t).or (panel.tile t) := by
  rcases t with _ | f
  · exact Panel.tradeCount_paintAll_figures _ _ _
  · have hmem : f ∈ Figure.all.tail ↔ f ≠ .totalPv := by cases f <;> decide
    rw [Dashboard.riskStrokes, Panel.tile_paintAll_figures]
    simp only [hmem]
    by_cases hf : f = .totalPv <;> simp [painted?, hf]

theorem tile_patchStrokes (panel : Panel) (push : PushMessage) (t : Tile) :
    (panel.paintAll (Dashboard.patchStrokes push.patch)).tile t =
      ((Inbound.pushed push).painted? t).or (panel.tile t) := by
  rcases t with _ | f
  · exact Panel.tradeCount_paintAll_figures _ _ _
  · rw [Dashboard.tile_patch, push.figure_patch]
    rfl

/-- The events of one message paint what the message paints, and nothing else. -/
theorem tile_of_step? {session : Session} {message : Inbound}
    (h : session.step? message = some r) (panel : Panel) (t : Tile) :
    (panel.paintAll (r.events.flatMap Dashboard.strokes)).tile t =
      (message.painted? t).or (panel.tile t) := by
  cases step?_eq_some_iff.mp h with
  | replaced snapshot hk =>
    have hstrokes : (session.write (.replace snapshot)).events.flatMap Dashboard.strokes =
        Dashboard.strokes (.dataset (.replaced snapshot)) := List.append_nil _
    rw [hstrokes]
    cases snapshot with
    | portfolio p => exact tile_portfolioStrokes panel p t
    | risk risk => exact tile_riskStrokes panel risk t
    | exposure series => exact absurd rfl hk
  | merged push he =>
    have hstrokes : (session.write (.merge push.patch)).events.flatMap Dashboard.strokes =
        Dashboard.patchStrokes push.patch := List.append_nil _
    rw [hstrokes]
    exact tile_patchStrokes panel push t
  | ignored push he =>
    have hnone : ∀ f, push.figure f = none := fun f => by
      rw [← push.figure_patch, Patch.isEmpty_iff.mp he f]
    cases t <;> simp [painted?, hnone, Reaction.idle, Panel.paintAll]
  | told state => cases state <;> cases t <;> rfl
  -- neither a profile nor a visit paints a tile
  | _ => cases t <;> rfl

/-- Every tile shows the latest of what the messages of a run paint on it. -/
theorem tile_of_run? (h : Session.initial.run? messages = some r) (t : Tile) :
    (Dashboard.initial.fold r.events).panel.tile t = latest (painted? t) messages := by
  refine run?_induction (motive := fun messages r =>
    (Dashboard.initial.fold r.events).panel.tile t = latest (painted? t) messages) ?_ ?_ h
  · rcases t with _ | f
    · rfl
    · cases f <;> rfl
  · intro history message r next _ ih hs
    have hevents : (r.andThen next).events = r.events ++ next.events := rfl
    rw [hevents, Dashboard.fold_append, Dashboard.panel_fold, tile_of_step? hs, ih, latest_concat]

/-! ### The trade table -/

/-- The trade table changes only by a pulled portfolio. -/
theorem trades_of_step? {session : Session} {message : Inbound}
    (h : session.step? message = some r) (dashboard : Dashboard) :
    (dashboard.fold r.events).trades = message.rows?.getD dashboard.trades := by
  obtain ⟨snapshot, hk⟩ | _ | _ | _ | _ | ⟨state⟩ | _ := step?_eq_some_iff.mp h
  · rcases snapshot with _ | _ | _
    · rfl
    · rfl
    · exact absurd rfl hk
  · rfl
  · rfl
  · rfl
  · rfl
  · rcases state with _ | _ | _ | _ <;> rfl
  · rfl

/-- The trade table shows the portfolio that was pulled last. -/
theorem trades_of_run? (h : Session.initial.run? messages = some r) :
    (Dashboard.initial.fold r.events).trades = (latest rows? messages).getD [] := by
  refine run?_induction (motive := fun messages r =>
    (Dashboard.initial.fold r.events).trades = (latest rows? messages).getD []) rfl ?_ h
  intro history message r next _ ih hs
  have hevents : (r.andThen next).events = r.events ++ next.events := rfl
  rw [hevents, Dashboard.fold_append, trades_of_step? hs, ih, latest_concat]
  rcases message.rows? with _ | rows
  · rfl
  · rfl

/-! ### The panel against the store -/

/-- Every figure but the total has a value as soon as there are figures. -/
theorem isSome_figure (risk : Risk) {f : Figure} (hf : f ≠ .totalPv) :
    (risk.figure f).isSome := by
  cases f
  case totalPv => exact absurd rfl hf
  all_goals rfl

/-- On the tile of a figure other than the total present value, messages paint what they write. -/
theorem painted?_figure {f : Figure} (hf : f ≠ .totalPv) (message : Inbound) :
    message.painted? (.figure f) =
      (message.written? f).map fun value => f.show (value.getD .zero) := by
  rcases message with (p | risk | _) | push | _ | _
  case pulled.portfolio => simp [painted?, written?, hf]
  case pulled.risk =>
    obtain ⟨x, hx⟩ := Option.isSome_iff_exists.mp (isSome_figure risk hf)
    simp [painted?, written?, hf, hx]
  case pushed => simp [painted?, written?, Function.comp_def]
  all_goals rfl

/-- A tile shows the value that was written last, and zero where it was left out. -/
theorem tile_figure_of_run? (h : Session.initial.run? messages = some r) {f : Figure}
    (hf : f ≠ .totalPv) : (Dashboard.initial.fold r.events).panel.tile (.figure f) =
      (latest (written? f) messages).map fun value => f.show (value.getD .zero) := by
  rw [tile_of_run? h, funext (painted?_figure hf), latest_map]

/-- **Incremental painting is a full repaint.** After every prefix of a run, and for every figure
but the total present value, the dashboard that folded the events so far shows the figure exactly
if a message wrote it, and then it shows the value that the store holds, exposures without a tone.
A figure that is not shown although there is a risk snapshot is zero in it. -/
theorem run_panel_eq_repaint (h : Session.initial.run? messages = some r) {f : Figure}
    (hf : f ≠ .totalPv) (before after : List Inbound) (hm : messages = before ++ after) :
    ∃ first, Session.initial.run? before = some first ∧ first.events <+: r.events ∧
      let shown := (Dashboard.initial.fold first.events).panel.tile (.figure f)
      (shown.isSome ↔ ∃ message ∈ before, message.Writes f) ∧
      (∀ text, shown = some text → ∃ risk x, first.session.store.risk = some risk ∧
        risk.figure f = some x ∧
        text = if f ∈ [.ee, .epe, .pfe] then .plainCurrency x else .currency x) ∧
      (shown = none → ∀ risk, first.session.store.risk = some risk →
        risk.figure f = some .zero) := by
  subst hm
  obtain ⟨first, rest, hfirst, -, rfl⟩ := run?_append_eq_some.mp h
  refine ⟨first, hfirst, List.prefix_append _ _, ?_⟩
  have htile := tile_figure_of_run? hfirst hf
  have hfigure := figure_of_run? hfirst f
  simp only [htile]
  refine ⟨?_, fun text ht => ?_, fun hnone risk hrisk => ?_⟩
  · rw [Option.isSome_map, isSome_latest]
    simp only [writes_iff]
  · -- the writer that is shown is also the one whose value the store holds
    obtain ⟨value, hvalue, rfl⟩ := Option.map_eq_some_iff.mp ht
    have hwriter : ∃ message ∈ before, ∃ g, message.Writes g := by
      obtain ⟨message, hmem, hw⟩ := (isSome_latest _).mp (Option.isSome_of_eq_some hvalue)
      exact ⟨message, hmem, f, writes_iff.mpr hw⟩
    obtain ⟨risk, hrisk⟩ := Option.isSome_iff_exists.mp
      ((isSome_risk_of_run? hfirst).mpr hwriter)
    obtain ⟨x, hx⟩ := Option.isSome_iff_exists.mp (isSome_figure risk hf)
    rw [hrisk, hvalue, Option.getD_some, Option.getD_some, hx] at hfigure
    exact ⟨risk, x, hrisk, hx, by rw [← hfigure]; rfl⟩
  · -- without a writer the snapshot has what the zero snapshot has
    rw [Option.map_eq_none_iff.mp hnone, hrisk, Option.getD_some, Option.getD_none] at hfigure
    rw [hfigure]
    cases f
    case totalPv => exact absurd rfl hf
    all_goals rfl

/-- The push at the head of `pushesAroundPull` paints what the store has merged onto zeros. -/
theorem run_panel_pushesAroundPull : ∃ first risk x,
    Session.initial.run? (pushesAroundPull.take 1) = some first ∧
    first.session.store.risk = some risk ∧ risk.figure .pfe = some x ∧
    (Dashboard.initial.fold first.events).panel.tile (.figure .pfe) =
      some (.plainCurrency x) := by
  obtain ⟨r, h⟩ : ∃ r, Session.initial.run? pushesAroundPull = some r := ⟨_, rfl⟩
  obtain ⟨first, hfirst, -, hshown, htext, -⟩ :=
    run_panel_eq_repaint h (by decide : Figure.pfe ≠ .totalPv) (pushesAroundPull.take 1)
      (pushesAroundPull.drop 1) rfl
  obtain ⟨text, ht⟩ := Option.isSome_iff_exists.mp
    (hshown.mpr ⟨_, List.mem_cons_self, .inr ⟨_, rfl, rfl⟩⟩)
  obtain ⟨risk, x, hrisk, hx, rfl⟩ := htext text ht
  rw [if_pos (by decide)] at ht
  exact ⟨first, risk, x, hfirst, hrisk, hx, ht⟩

/-! ### The total present value -/

/-- On the tile of the total present value, messages paint what they bring to it. -/
theorem painted?_totalPv (message : Inbound) :
    message.painted? (.figure .totalPv) = message.totalPv?.map .currency := by
  rcases message with (_ | _ | _) | (_ | _ | _) | _ | _ <;> rfl

/-- The total is shown as it was last given, by a pull or a push. -/
theorem tile_totalPv_of_run? (h : Session.initial.run? messages = some r) :
    (Dashboard.initial.fold r.events).panel.tile (.figure .totalPv) =
      (latest totalPv? messages).map .currency := by
  rw [tile_of_run? h, funext painted?_totalPv, latest_map]

/-- **The total present value has two sources.** After a run its tile shows nothing exactly if no
portfolio was pulled and no push about valuation carried the figure; otherwise it shows what the
latest of these messages brought. A pulled risk snapshot does not change the tile, although the
store then holds the snapshot with the figure that it carries, and neither does a push about
exposure. -/
theorem run_totalPv_eq_latest (h : Session.initial.run? messages = some r) :
    let shown (r : Reaction) := (Dashboard.initial.fold r.events).panel.tile (.figure .totalPv)
    (shown r = none ↔ (∀ p, .pulled (.portfolio p) ∉ messages) ∧
      ∀ patch, .pushed (.risk patch) ∈ messages → patch.totalPv = none) ∧
    (∀ before message after x, messages = before ++ message :: after →
      message.totalPv? = some x → (∀ later ∈ after, later.totalPv? = none) →
      shown r = some (.currency x)) ∧
    ∀ before message after, messages = before ++ message :: after →
      (∃ risk, message = .pulled (.risk risk)) ∨ (∃ push, message = .pushed (.exposure push)) →
      ∃ first second, Session.initial.run? before = some first ∧
        Session.initial.run? (before ++ [message]) = some second ∧ shown second = shown first ∧
        ∀ risk, message = .pulled (.risk risk) → second.session.store.risk = some risk := by
  intro shown
  have htile : ∀ {messages r}, Session.initial.run? messages = some r →
      shown r = (latest totalPv? messages).map .currency := tile_totalPv_of_run?
  refine ⟨?_, ?_, ?_⟩
  · rw [htile h, Option.map_eq_none_iff, latest_eq_none_iff]
    constructor
    · intro hnone
      refine ⟨fun p hp => ?_, fun patch hpatch => hnone _ hpatch⟩
      exact Option.some_ne_none _ (hnone _ hp)
    · rintro ⟨hportfolio, hpatch⟩ message hm
      rcases message with (p | _ | _) | (_ | patch | _) | _ | _
      case pulled.portfolio => exact absurd hm (hportfolio p)
      case pushed.risk => exact hpatch patch hm
      all_goals rfl
  · rintro before message after x rfl hx hafter
    rw [htile h, latest_of_last _ hx hafter, Option.map_some]
  · rintro before message after rfl hsource
    rw [List.append_cons] at h
    obtain ⟨second, -, hsecond, -, -⟩ := run?_append_eq_some.mp h
    obtain ⟨first, next, hfirst, hnext, hsplit⟩ := run?_append_eq_some.mp hsecond
    rw [run?_singleton] at hnext
    have hnone : message.totalPv? = none := by
      rcases hsource with ⟨risk, rfl⟩ | ⟨push, rfl⟩ <;> rfl
    refine ⟨first, second, hfirst, hsecond, ?_, ?_⟩
    · rw [htile hsecond, htile hfirst, latest_concat, hnone, Option.none_or]
    · rintro risk rfl
      rw [← hsplit]
      exact congrArg Store.risk (store_of_step? hnext)

/-- A pulled portfolio, a push about valuation, and a pulled risk snapshot with a figure of its
own. -/
def totalsFromThree : List Inbound :=
  [.pulled (.portfolio ⟨.zero, 0, []⟩), .pushed (.risk { Patch.empty with totalPv := some .one }),
    .pulled (.risk { Risk.zero with totalPv := some Binary64.one.neg })]

/-- The tile shows the figure of the push, the store holds that of the pulled risk snapshot, and the
portfolio has yet another one. -/
theorem run_totalPv_totalsFromThree : ∃ r, Session.initial.run? totalsFromThree = some r ∧
    (Dashboard.initial.fold r.events).panel.tile (.figure .totalPv) = some (.currency .one) ∧
    r.session.store.risk = some { Risk.zero with totalPv := some Binary64.one.neg } ∧
    r.session.store.portfolio = some ⟨.zero, 0, []⟩ := by
  obtain ⟨r, h⟩ : ∃ r, Session.initial.run? totalsFromThree = some r := ⟨_, rfl⟩
  obtain ⟨-, hlast, hkept⟩ := run_totalPv_eq_latest h
  have hshown := hlast (totalsFromThree.take 1) _ (totalsFromThree.drop 2) .one rfl rfl
    (fun later hlater => by cases List.mem_singleton.mp hlater; rfl)
  obtain ⟨-, second, -, hsecond, -, hrisk⟩ :=
    hkept (totalsFromThree.take 2) _ [] rfl (.inl ⟨_, rfl⟩)
  obtain rfl : second = r := Option.some.inj (hsecond.symm.trans h)
  refine ⟨second, h, hshown, hrisk _ rfl, ?_⟩
  cases h
  rfl

end Session

end RiskBoard
