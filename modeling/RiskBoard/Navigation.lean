import RiskBoard.Text.Blank
import RiskBoard.Text.Lowercase

/-!
# Navigation

The views of the dashboard, of which one is active. Activating the exposure view asks for the
forward exposure profile, also when that view was active already, since pushes never carry it.
-/

namespace RiskBoard

/-- A view of the dashboard. -/
inductive View where
  | dashboard
  | portfolio
  | risk
  | exposure
deriving DecidableEq, Repr

namespace View

/-- All views. -/
def all : List View := [.dashboard, .portfolio, .risk, .exposure]

def name : View → String
  | dashboard => "dashboard"
  | portfolio => "portfolio"
  | risk => "risk"
  | exposure => "exposure"

def title : View → String
  | dashboard => "Dashboard"
  | portfolio => "Portfolio"
  | risk => "Risk"
  | exposure => "Exposure"

/-- A text as the name of a view is compared: without blanks around it and in lower case. -/
def normalize (text : String) : String := Text.lower (Text.trim text)

/-- The view that a text names. -/
def ofText? (text : String) : Option View := all.find? fun view => view.name = normalize text

/-- What is said of a text that names no view. -/
def unknownMessage (text : String) : String := s!"unknown view '{normalize text}'"

end View

/-- A change of the active view. -/
structure Navigation where
  previous : View
  active : View
deriving DecidableEq, Repr

/-- Whether a change asks for the forward exposure profile. -/
def Navigation.fetchesExposure (navigation : Navigation) : Bool := navigation.active = .exposure

end RiskBoard
