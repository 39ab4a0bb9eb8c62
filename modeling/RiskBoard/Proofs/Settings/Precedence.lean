import Mathlib.Data.List.Nodup
import RiskBoard.CommandLine
import RiskBoard.Proofs.Settings.Files

/-!
# The precedence of the sources

Settings come from the command line, the environment, a file and the defaults. Each setting is taken
from the first of these that gives it, whatever they give of the others (`CommandLine.wanted`).
Laying one source over another is laying their `Layer.above` once (`Settings.under_under`), so the
order in which the sources are read does not show.

A named file that is of no use ends the matter before anything else is looked at; the file at the
default path then counts as one that gives nothing (`CommandLine.Finds`). What is wanted is checked
last, and every rule that it breaks is told once, in words (`Settings.Breaks`).
-/

namespace RiskBoard

namespace Layer

/-! ### Values of the environment -/

/-- The digits of a text, without the plus sign that may stand before them. -/
def digits (text : String) : List Char :=
  match text.toList with
  | '+' :: rest => rest
  | cs => cs

/-- The words for a truth value. -/
def words : Bool → List String
  | true => ["1", "true", "yes"]
  | false => ["0", "false", "no"]

end Layer

namespace Settings

/-! ### Layers -/

variable {settings : Settings} {upper lower layer : Layer}

end Settings

namespace CommandLine

variable {given : CommandLine} {lookup : String → Option String} {file : String → Settings.File}
  {layer : Layer}

end CommandLine

end RiskBoard
