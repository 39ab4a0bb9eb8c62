import RiskBoard.Binary64.Basic

/-!
# Portfolios

The trades of a portfolio in the order in which the backend lists them, beside the totals that the
backend states. The totals are not computed from the trades.
-/

namespace RiskBoard

/-- One trade. -/
structure Trade where
  id : String
  instrument : String
  notional : Binary64
  pv : Binary64
  delta : Binary64
  gamma : Binary64
  vega : Binary64
deriving DecidableEq

/-- The valuation of a portfolio. -/
structure Portfolio where
  totalPv : Binary64
  tradeCount : Nat
  trades : List Trade
deriving DecidableEq

/-- The trade from which reading starts. -/
def Trade.blank : Trade := ⟨"", "", .zero, .zero, .zero, .zero, .zero⟩

/-- The portfolio from which reading starts. -/
def Portfolio.blank : Portfolio := ⟨.zero, 0, []⟩

end RiskBoard
