import RiskBoard.Proofs.Dashboard.Painting
import RiskBoard.Proofs.Display.Digits
import RiskBoard.Proofs.Push.Decoding

/-!
# Finite figures on the dashboard

The dashboard shows the figures of the messages as texts: amounts of money on the tiles and in the
trade table, and the notional and the greeks of each trade (`Inbound.figures`). If all of them are
finite, then notionals and greeks are digits, and so are the amounts whose hundredfold does not
overflow (`Session.run_legible`). The others, beyond some `10 ^ 306`, are shown as an infinity
although they are finite (`Session.run_hugePush`): the scaled value is not looked at before it is
written.
-/

namespace RiskBoard

open Display

/-! ### Which figures are shown -/

/-- The figures of a trade. -/
def Trade.figures (trade : Trade) : List Binary64 :=
  [trade.notional, trade.pv, trade.delta, trade.gamma, trade.vega]

/-- The figures of a message that can be shown as text. A profile is only drawn. -/
def Inbound.figures : Inbound → List Binary64
  | .pulled (.portfolio p) => p.totalPv :: p.trades.flatMap Trade.figures
  | .pulled (.risk risk) => Figure.all.filterMap risk.figure
  | .pushed push => Figure.all.filterMap push.figure
  | .pulled (.exposure _) | .channel _ | .navigate _ => []

@[simp] theorem Figure.text_show (f : Figure) (x : Binary64) : (f.show x).text = currency x := by
  rw [Figure.show]
  split_ifs <;> rfl

/-- What a message paints on the tile of a figure is the text of one of its figures. -/
theorem Inbound.exists_of_painted? {message : Inbound} {f : Figure} {shown : Shown}
    (h : message.painted? (.figure f) = some shown) :
    ∃ x ∈ message.figures, shown.text = currency x := by
  have hcarried : ∀ {value : Figure → Option Binary64}, (value f).map f.show = some shown →
      ∃ x ∈ Figure.all.filterMap value, shown.text = currency x := by
    intro value hvalue
    obtain ⟨x, hx, rfl⟩ := Option.map_eq_some_iff.mp hvalue
    exact ⟨x, List.mem_filterMap.mpr ⟨f, f.mem_all, hx⟩, f.text_show x⟩
  rcases message with (p | risk | _) | push | _ | _
  case pulled.portfolio =>
    rw [painted?] at h
    split_ifs at h
    cases h
    exact ⟨p.totalPv, List.mem_cons_self, rfl⟩
  case pulled.risk =>
    rw [painted?] at h
    split_ifs at h
    exact hcarried h
  case pushed => exact hcarried h
  all_goals cases h

namespace Session

open Inbound

variable {messages : List Inbound} {r : Reaction}

/-! ### The trade table -/

theorem exists_trade_of_run? (h : Session.initial.run? messages = some r) {row : TradeRow}
    (hrow : row ∈ (Dashboard.initial.fold r.events).trades) :
    ∃ message ∈ messages, ∃ trade : Trade, (∀ x ∈ trade.figures, x ∈ message.figures) ∧
      row = .ofTrade trade := by
  rw [trades_of_run? h] at hrow
  rcases hlatest : latest rows? messages with _ | rows
  · rw [hlatest] at hrow
    exact absurd hrow List.not_mem_nil
  · rw [hlatest, Option.getD_some] at hrow
    obtain ⟨message, hmem, hrows⟩ := exists_of_latest rows? hlatest
    rcases message with (p | _ | _) | _ | _ | _ <;> cases hrows
    obtain ⟨trade, htrade, rfl⟩ := List.mem_map.mp hrow
    refine ⟨_, hmem, trade, fun x hx => ?_, rfl⟩
    exact List.mem_cons_of_mem _ (List.mem_flatMap.mpr ⟨trade, htrade, hx⟩)

/-! ### Legible texts -/

/-- A text shows a figure as an amount of money: in digits, unless the hundredfold of the figure
overflows, and then as an infinity. -/
structure ShowsAmount (x : Binary64) (text : String) : Prop where
  text_eq : text = currency x
  isAmount_iff : IsAmount text.toList ↔ ¬ Overflows 2 x
  infinite : Overflows 2 x → text = "$inf" ∨ text = "-$inf"

theorem showsAmount_currency {x : Binary64} (hx : x.isFinite = true) :
    ShowsAmount x (currency x) where
  text_eq := rfl
  isAmount_iff := by
    rw [currency, String.toList_ofList]
    exact isAmount_currencyChars_iff hx
  infinite := by
    intro h
    rw [currency, currencyChars_of_overflows hx h]
    cases isNegative x
    · exact .inl rfl
    · exact .inr rfl

theorem ShowsAmount.isAmount {x : Binary64} {text : String} (h : ShowsAmount x text)
    (hx : x.isFinite = true) (hbound : |x.value| ≤ 10 ^ 303) : IsAmount text.toList := by
  refine h.isAmount_iff.mpr (not_overflows hx (by decide) ?_)
  calc |x.value| * 10 ^ 3 ≤ 10 ^ 303 * 10 ^ 3 := mul_le_mul_of_nonneg_right hbound (by positivity)
    _ = 10 ^ 306 := (pow_add 10 303 3).symm

/-- The numbers of a row that are no amounts of money are digits. -/
structure HasDigits (row : TradeRow) : Prop where
  notional : IsSigned (HasPlaces IsGrouped 0) row.notional.toList
  delta : IsSigned (HasPlaces IsDigits 4) row.delta.toList
  gamma : IsSigned (HasPlaces IsDigits 4) row.gamma.toList
  vega : IsSigned (HasPlaces IsDigits 4) row.vega.toList

theorem hasDigits_ofTrade {trade : Trade} (h : ∀ x ∈ trade.figures, x.isFinite = true) :
    HasDigits (.ofTrade trade) := by
  have hgreek : ∀ {x : Binary64}, x.isFinite = true →
      IsSigned (HasPlaces IsDigits 4) (fixed 4 x).toList := by
    intro x hx
    rw [fixed, String.toList_ofList]
    exact isSigned_fixedChars_four hx
  simp only [Trade.figures, List.forall_mem_cons] at h
  obtain ⟨hnotional, -, hdelta, hgamma, hvega, -⟩ := h
  refine ⟨?_, hgreek hdelta, hgreek hgamma, hgreek hvega⟩
  rw [TradeRow.ofTrade, grouped, String.toList_ofList]
  exact isSigned_groupedChars_zero hnotional

/-- **Finite figures are shown as digits, unless they are beyond display.** After a run of messages
whose figures are finite, every tile of a figure and the present value of every trade show one of
these figures as an amount of money; notionals are shown as digits in groups, and greeks as digits
with four of them behind the point. If no figure exceeds `10 ^ 303`, all amounts are digits. -/
theorem run_legible (h : Session.initial.run? messages = some r)
    (hfinite : ∀ message ∈ messages, ∀ x ∈ message.figures, x.isFinite = true) :
    let dashboard := Dashboard.initial.fold r.events
    (∀ f shown, dashboard.panel.tile (.figure f) = some shown →
      ∃ message ∈ messages, ∃ x ∈ message.figures, ShowsAmount x shown.text) ∧
    (∀ row ∈ dashboard.trades, HasDigits row ∧
      ∃ message ∈ messages, ∃ x ∈ message.figures, ShowsAmount x row.pv.text) ∧
    ((∀ message ∈ messages, ∀ x ∈ message.figures, |x.value| ≤ 10 ^ 303) →
      (∀ f shown, dashboard.panel.tile (.figure f) = some shown → IsAmount shown.text.toList) ∧
      ∀ row ∈ dashboard.trades, IsAmount row.pv.text.toList) := by
  intro dashboard
  have htiles : ∀ f shown, dashboard.panel.tile (.figure f) = some shown →
      ∃ message ∈ messages, ∃ x ∈ message.figures, ShowsAmount x shown.text := by
    intro f shown hshown
    -- the tile shows what was painted last on it
    rw [tile_of_run? h] at hshown
    obtain ⟨message, hmem, hpainted⟩ := exists_of_latest _ hshown
    obtain ⟨x, hx, htext⟩ := exists_of_painted? hpainted
    exact ⟨message, hmem, x, hx, htext ▸ showsAmount_currency (hfinite message hmem x hx)⟩
  have hrows : ∀ row ∈ dashboard.trades, HasDigits row ∧
      ∃ message ∈ messages, ∃ x ∈ message.figures, ShowsAmount x row.pv.text := by
    intro row hrow
    -- the row comes from a trade of the portfolio that was pulled last
    obtain ⟨message, hmem, trade, hfigures, rfl⟩ := exists_trade_of_run? h hrow
    have htrade : ∀ x ∈ trade.figures, x.isFinite = true := fun x hx =>
      hfinite message hmem x (hfigures x hx)
    have hpv : trade.pv ∈ trade.figures := List.mem_cons_of_mem _ List.mem_cons_self
    exact ⟨hasDigits_ofTrade htrade, message, hmem, trade.pv, hfigures _ hpv,
      showsAmount_currency (htrade _ hpv)⟩
  refine ⟨htiles, hrows, fun hbound => ⟨fun f shown hshown => ?_, fun row hrow => ?_⟩⟩
  · obtain ⟨message, hmem, x, hx, hamount⟩ := htiles f shown hshown
    exact hamount.isAmount (hfinite message hmem x hx) (hbound message hmem x hx)
  · obtain ⟨-, message, hmem, x, hx, hamount⟩ := hrows row hrow
    exact hamount.isAmount (hfinite message hmem x hx) (hbound message hmem x hx)

/-- A portfolio with one trade, whose figures are zero or one. -/
def oneTrade : List Inbound :=
  [.pulled (.portfolio ⟨.one, 1, [⟨"T1", "FX", .one, .zero, .one, .zero, .zero⟩]⟩)]

theorem run_legible_oneTrade : ∃ r, Session.initial.run? oneTrade = some r ∧
    ∃ shown row, (Dashboard.initial.fold r.events).panel.tile (.figure .totalPv) = some shown ∧
      IsAmount shown.text.toList ∧ (Dashboard.initial.fold r.events).trades = [row] ∧
      HasDigits row ∧ IsAmount row.pv.text.toList := by
  obtain ⟨r, h⟩ : ∃ r, Session.initial.run? oneTrade = some r := ⟨_, rfl⟩
  have hfigure : ∀ message ∈ oneTrade, ∀ x ∈ message.figures, x = .zero ∨ x = .one := by
    simp [oneTrade, figures, Trade.figures]
  have hfinite : ∀ message ∈ oneTrade, ∀ x ∈ message.figures, x.isFinite = true := by
    intro message hmem x hx
    rcases hfigure message hmem x hx with rfl | rfl <;> rfl
  have hbound : ∀ message ∈ oneTrade, ∀ x ∈ message.figures, |x.value| ≤ 10 ^ 303 := by
    intro message hmem x hx
    rcases hfigure message hmem x hx with rfl | rfl
    · rw [Binary64.value_zero, abs_zero]
      positivity
    · rw [Binary64.value_one, abs_one]
      exact one_le_pow₀ (by norm_num)
  obtain ⟨-, hrows, hall⟩ := run_legible h hfinite
  obtain ⟨htiles, hamounts⟩ := hall hbound
  have htile : (Dashboard.initial.fold r.events).panel.tile (.figure .totalPv) =
      some (.currency .one) := tile_of_run? h _
  obtain ⟨row, htrades⟩ : ∃ row, (Dashboard.initial.fold r.events).trades = [row] :=
    ⟨_, trades_of_run? h⟩
  have hrow : row ∈ (Dashboard.initial.fold r.events).trades :=
    htrades ▸ List.mem_singleton_self row
  exact ⟨r, h, _, row, htile, htiles _ _ htile, htrades, (hrows row hrow).1, hamounts row hrow⟩

/-- A frame with a total present value that is finite, though its hundredfold is not. -/
def hugeFrame : String := "\x7b\"type\":\"risk\",\"data\":\x7b\"total_pv\":1e307\x7d\x7d"

/-- What it pushes. -/
def hugePush : PushMessage := .risk { Patch.empty with totalPv := some (.tenTo 307) }

/-- The frame brings one figure, which is finite, and its tile shows an infinity. -/
theorem run_hugePush : PushMessage.ofText? hugeFrame = .ok hugePush ∧
    (∀ x ∈ (Inbound.pushed hugePush).figures, x.isFinite = true) ∧
    ∃ r shown, Session.initial.run? [.pushed hugePush] = some r ∧
      (Dashboard.initial.fold r.events).panel.tile (.figure .totalPv) = some shown ∧
      shown.text = "$inf" ∧ ¬ IsAmount shown.text.toList := by
  refine ⟨PushMessage.ofText?_eq_ok_of_toOption (by decide +kernel), by decide +kernel, ?_⟩
  obtain ⟨r, h⟩ : ∃ r, Session.initial.run? [.pushed hugePush] = some r := ⟨_, rfl⟩
  have hinfinite : currency (.tenTo 307) = "$inf" := by decide +kernel
  refine ⟨r, .currency (.tenTo 307), h, tile_of_run? h _, hinfinite, ?_⟩
  change ¬ IsAmount (currency (.tenTo 307)).toList
  rw [hinfinite]
  exact not_isAmount_infinity false

end Session

end RiskBoard
