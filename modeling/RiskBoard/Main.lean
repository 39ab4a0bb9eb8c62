import RiskBoard.CommandLine
import RiskBoard.Dashboard.Log
import RiskBoard.Session

/-!
# The program

The outer layer: it reads the command line, the environment and the settings file, takes the names
of views from standard input, and prints what the dashboard logs. What any of it means is decided
elsewhere. No transport is attached here, so no fetch is answered and nothing is pushed.
-/

namespace RiskBoard.Program

/-- The variables of the environment that hold settings. -/
def settingVariables : List String :=
  ["MONITOR_BASE_URL", "MONITOR_POLL_INTERVAL_MS", "MONITOR_RECONNECT_DELAY_MS",
    "MONITOR_RECONNECT_ON_ERROR", "MONITOR_LOG_LEVEL"]

/-- The environment as a function. -/
def readEnvironment : IO (String → Option String) := do
  let found ← settingVariables.filterMapM fun name => do
    pure ((← IO.getEnv name).map fun value => (name, value))
  pure fun name => found.lookup name

/-- What is at the path of a settings file. -/
def readSettingsFile (path : String) : IO Settings.File := do
  try
    pure (.bytes (← IO.FS.readBinFile path))
  catch
    | .noFileOrDirectory .. => pure .missing
    | fault => pure (.unreadable (toString fault))

/-- Takes the names of views until the input ends, and logs what each of them changes. -/
partial def navigate (settings : Settings) (session : Session) (dashboard : Dashboard) :
    IO Unit := do
  let line ← (← IO.getStdin).getLine
  if line.isEmpty then return
  match View.ofText? line with
  | none =>
    if !(Text.trim line).isEmpty then IO.eprintln (View.unknownMessage line)
    navigate settings session dashboard
  | some view =>
    let reaction := session.takeNavigation view
    for entry in dashboard.log reaction.events do
      if entry.level.isShownAt settings.logLevel then IO.println entry.text
    navigate settings reaction.session (dashboard.fold reaction.events)

end RiskBoard.Program

open RiskBoard RiskBoard.Program

def main (arguments : List String) : IO UInt32 := do
  match CommandLine.ofArguments arguments with
  | .error refusal =>
    if refusal = .help ∨ refusal = .version then
      IO.print refusal.message
      return 0
    IO.eprintln refusal.message
    return 2
  | .ok given =>
    let lookup ← readEnvironment
    let given := given.orEnvironment lookup
    let file ← readSettingsFile (given.config.getD Settings.defaultPath)
    match given.settings lookup fun _ => file with
    | .error fault =>
      IO.eprintln (Failure.settings fault).message
      return 1
    | .ok settings =>
      navigate settings .initial .initial
      return 0
