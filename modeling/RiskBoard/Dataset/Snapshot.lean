import RiskBoard.Dataset.Exposure
import RiskBoard.Dataset.Portfolio
import RiskBoard.Dataset.Risk

/-!
# Snapshots

The three kinds of datasets and their whole values, as a pull delivers them.
-/

namespace RiskBoard

/-- A kind of dataset. -/
inductive Kind where
  | portfolio
  | risk
  | exposure
deriving DecidableEq, Repr

namespace Kind

/-- All kinds. -/
def all : List Kind := [.portfolio, .risk, .exposure]

/-- The name of a kind, which is also the path from which it is pulled. -/
def name : Kind → String
  | portfolio => "portfolio"
  | risk => "risk"
  | exposure => "exposure"

end Kind

/-- The whole value of a dataset. -/
inductive Snapshot where
  | portfolio (value : Portfolio)
  | risk (value : Risk)
  | exposure (value : ExposureSeries)
deriving DecidableEq

/-- The kind of a snapshot. -/
def Snapshot.kind : Snapshot → Kind
  | .portfolio _ => .portfolio
  | .risk _ => .risk
  | .exposure _ => .exposure

end RiskBoard
