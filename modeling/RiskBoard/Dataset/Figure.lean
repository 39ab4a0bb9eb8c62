import RiskBoard.Binary64.Basic

/-!
# Risk figures

The eight figures of counterparty risk that are pulled whole and pushed in parts, in the order in
which records carry them.
-/

namespace RiskBoard

/-- A figure of counterparty risk. -/
inductive Figure where
  /-- Total present value. -/
  | totalPv
  /-- Credit valuation adjustment. -/
  | cva
  /-- Debit valuation adjustment. -/
  | dva
  /-- Funding valuation adjustment. -/
  | fva
  /-- The sum of the adjustments as the backend states it; it is never computed here. -/
  | totalXva
  /-- Current expected exposure. -/
  | ee
  /-- Current expected positive exposure. -/
  | epe
  /-- Current potential future exposure. -/
  | pfe
deriving DecidableEq, Repr

namespace Figure

/-- All figures, in the order of a record. -/
def all : List Figure := [.totalPv, .cva, .dva, .fva, .totalXva, .ee, .epe, .pfe]

theorem mem_all (f : Figure) : f ∈ all := by cases f <;> decide

/-- The name of a figure in records. -/
def name : Figure → String
  | totalPv => "total_pv"
  | cva => "cva"
  | dva => "dva"
  | fva => "fva"
  | totalXva => "total_xva"
  | ee => "ee"
  | epe => "epe"
  | pfe => "pfe"

/-- The figures that a push about valuation carries. -/
def valuation : List Figure := [.totalPv, .cva, .dva, .fva]

/-- The figures that a push about exposure carries. -/
def exposure : List Figure := [.ee, .epe, .pfe]

end Figure

end RiskBoard
