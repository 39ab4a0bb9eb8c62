import RiskBoard.Failure
import RiskBoard.Text.Lowercase
import RiskBoard.Toml.Document

/-!
# Settings

The settings come in layers: the defaults, a file, the environment, the command line. A layer gives
some of the settings, and laid over others it replaces exactly those. Values that a layer cannot
use, such as a number that is none, are as good as not given, except in a file, which is refused.

The settings are checked at the end, once, and every rule they break is reported.
-/

namespace RiskBoard

/-- The settings of the dashboard; times are in milliseconds. -/
structure Settings where
  baseUrl : String
  pollInterval : Nat
  reconnectDelay : Nat
  reconnectOnError : Bool
  logLevel : String
deriving DecidableEq, Repr

/-- Some of the settings. -/
structure Layer where
  baseUrl : Option String
  pollInterval : Option Nat
  reconnectDelay : Option Nat
  reconnectOnError : Option Bool
  logLevel : Option String
deriving DecidableEq, Repr

namespace Settings

/-- The settings where nothing is given. -/
def default : Settings := ⟨"http://127.0.0.1:3000", 30000, 3000, true, "info"⟩

/-- The path of the file that is read when no path is given. -/
def defaultPath : String := "demo/data/config/monitor.toml"

/-- Replaces the settings that a layer gives. -/
def under (settings : Settings) (layer : Layer) : Settings where
  baseUrl := layer.baseUrl.getD settings.baseUrl
  pollInterval := layer.pollInterval.getD settings.pollInterval
  reconnectDelay := layer.reconnectDelay.getD settings.reconnectDelay
  reconnectOnError := layer.reconnectOnError.getD settings.reconnectOnError
  logLevel := layer.logLevel.getD settings.logLevel

end Settings

namespace Layer

/-- The layer that gives nothing. -/
def empty : Layer := ⟨none, none, none, none, none⟩

/-- A natural number of 64 bits in decimal digits, perhaps behind a plus sign. -/
def number? (text : String) : Option Nat :=
  let digits := match text.toList with
    | '+' :: rest => rest
    | cs => cs
  if digits.isEmpty || !digits.all Char.isDigit then none
  else
    let n := Nat.ofDigitChars 10 digits 0
    if n < 18446744073709551616 then some n else none

/-- A truth value in words, in any case of letters. -/
def flag? (text : String) : Option Bool :=
  let word := Text.lower text
  if word = "1" ∨ word = "true" ∨ word = "yes" then some true
  else if word = "0" ∨ word = "false" ∨ word = "no" then some false
  else none

/-- What an environment gives. -/
def ofEnvironment (lookup : String → Option String) : Layer where
  baseUrl := lookup "MONITOR_BASE_URL"
  pollInterval := (lookup "MONITOR_POLL_INTERVAL_MS").bind number?
  reconnectDelay := (lookup "MONITOR_RECONNECT_DELAY_MS").bind number?
  reconnectOnError := (lookup "MONITOR_RECONNECT_ON_ERROR").bind flag?
  logLevel := lookup "MONITOR_LOG_LEVEL"

/-! ### Files -/

/-- A setting of a table, if it is there; `none` when it is there but not of its type. -/
def setting? {α : Type} (table : Toml.Table) (key : String) (read : Toml.Value → Option α) :
    Option (Option α) :=
  match table.get? key with
  | none => some none
  | some (.value v) => (read v).map some
  | some _ => none

def textOf? : Toml.Value → Option String
  | .text s => some s
  | _ => none

def naturalOf? : Toml.Value → Option Nat
  | .integer i => if 0 ≤ i then some i.toNat else none
  | _ => none

def boolOf? : Toml.Value → Option Bool
  | .bool b => some b
  | _ => none

/-- What a table of settings gives; other keys are ignored. -/
def ofTable? (table : Toml.Table) : Option Layer := do
  let baseUrl ← setting? table "base_url" textOf?
  let pollInterval ← setting? table "poll_interval_ms" naturalOf?
  let reconnectDelay ← setting? table "reconnect_delay_ms" naturalOf?
  let reconnectOnError ← setting? table "reconnect_on_error" boolOf?
  let logLevel ← setting? table "log_level" textOf?
  pure ⟨baseUrl, pollInterval, reconnectDelay, reconnectOnError, logLevel⟩

/-- What a document of settings gives. -/
def ofText? (text : String) : Option Layer := (Toml.Table.ofText? text).bind ofTable?

end Layer

namespace Settings

/-! ### Rules -/

/-- A rule that settings break. -/
inductive Violation where
  | unknownLogLevel (level : String)
  | notHttp (baseUrl : String)
  | noPollInterval
deriving DecidableEq, Repr

/-- The wording of a violation. -/
def Violation.message : Violation → String
  | .unknownLogLevel level =>
    s!"Invalid log_level '{level}'. Valid values: " ++
      "[\"trace\", \"debug\", \"info\", \"warn\", \"error\"]"
  | .notHttp baseUrl => s!"Invalid base_url '{baseUrl}'. Must start with http:// or https://"
  | .noPollInterval => "poll_interval_ms must be greater than 0"

/-- The log levels. -/
def logLevels : List String := ["trace", "debug", "info", "warn", "error"]

/-- Whether a level is known, in any case of letters. -/
def knowsLevel (level : String) : Bool := logLevels.contains (Text.lower level)

/-- Whether a URL is one of HTTP. -/
def isHttp (url : String) : Bool :=
  "http://".toList.isPrefixOf url.toList || "https://".toList.isPrefixOf url.toList

/-- The rules that settings break. -/
def violations (settings : Settings) : List Violation :=
  (if knowsLevel settings.logLevel then [] else [.unknownLogLevel settings.logLevel]) ++
    (if isHttp settings.baseUrl then [] else [.notHttp settings.baseUrl]) ++
    (if settings.pollInterval = 0 then [.noPollInterval] else [])

/-- Accepts settings that break no rule. -/
def check (settings : Settings) : Except SettingsFault Unit :=
  if settings.violations.isEmpty then .ok ()
  else .error (.invalid (settings.violations.map (·.message)))

/-! ### Addresses -/

/-- A text without the slashes at its end. -/
def withoutSlashes (cs : List Char) : List Char := (cs.reverse.dropWhile (· = '/')).reverse

/-- The parts of a text before and after the first mark that ends a scheme. -/
def splitScheme? : List Char → Option (List Char × List Char)
  | ':' :: '/' :: '/' :: rest => some ([], rest)
  | [] => none
  | c :: rest => (splitScheme? rest).map fun (scheme, rest) => (c :: scheme, rest)

/-- The base of the pull addresses. -/
def apiBase (settings : Settings) : String :=
  .ofList (withoutSlashes settings.baseUrl.toList ++ "/api".toList)

/-- The push address: secure when the base is, unless the base has no host. -/
def pushUrl (settings : Settings) : String :=
  let base := withoutSlashes settings.baseUrl.toList
  let (scheme, rest) := match splitScheme? base with
    | some (scheme, rest) => (if scheme = "https".toList then "wss" else "ws", rest)
    | none => ("ws", base)
  .ofList (scheme.toList ++ "://".toList ++ rest ++ "/api/ws".toList)

end Settings

end RiskBoard
