import RiskBoard.Settings.File

/-!
# The command line

The options with which the dashboard is started. An option's value is attached to it or is the
argument that follows; switches of one letter may be run together, and an option may end such a
run. The first argument that cannot be used decides what is said about all of them, and so does a
request for help or for the version.

An option whose value stands apart is entered only when the next option comes, or the end: what is
wrong with it is passed over when that next argument is unknown.
-/

namespace RiskBoard

/-- What the command line gives. -/
structure CommandLine where
  config : Option String
  baseUrl : Option String
  logLevel : Option String
  verbose : Bool
deriving DecidableEq, Repr

namespace CommandLine

/-- What is printed on a request for help. -/
def usage : String :=
  "Live risk monitor for the dashboard API\n\n" ++
  "Usage: risk-board [OPTIONS]\n\n" ++
  "Options:\n" ++
  "  -c, --config <FILE>          Configuration file path (TOML format)\n" ++
  "      --base-url <BASE_URL>    Dashboard backend base URL [env: MONITOR_BASE_URL]\n" ++
  "      --log-level <LOG_LEVEL>  Log level (trace, debug, info, warn, error) " ++
  "[env: MONITOR_LOG_LEVEL]\n" ++
  "  -v, --verbose                Enable verbose output\n" ++
  "  -h, --help                   Print help\n" ++
  "  -V, --version                Print version\n"

/-- What is printed on a request for the version. -/
def versionText : String := "risk-board 0.1.0\n"

/-- Why there is nothing to run. -/
inductive Refusal where
  | unknownArgument
  /-- An option has no value, or an empty one where there has to be one. -/
  | noValue
  | givenTwice
  /-- A value is attached to a switch. -/
  | unwantedValue
  | help
  | version
deriving DecidableEq, Repr

/-- What is printed instead of a run. -/
def Refusal.message : Refusal → String
  | .unknownArgument => "unexpected argument"
  | .noValue => "a value is required for an option but none was supplied"
  | .givenTwice => "an option cannot be used multiple times"
  | .unwantedValue => "unexpected value for a switch"
  | .help => usage
  | .version => versionText

/-- The options that take a value. -/
inductive Setting where
  | config
  | baseUrl
  | logLevel
deriving DecidableEq, Repr

/-- The options that take none. -/
inductive Switch where
  | verbose
  | help
  | version
deriving DecidableEq, Repr

abbrev Item := Setting ⊕ Switch

/-- The option with a long name. -/
def ofLong? (name : String) : Option Item :=
  match name with
  | "config" => some (.inl .config)
  | "base-url" => some (.inl .baseUrl)
  | "log-level" => some (.inl .logLevel)
  | "verbose" => some (.inr .verbose)
  | "help" => some (.inr .help)
  | "version" => some (.inr .version)
  | _ => none

/-- The option with a letter. -/
def ofLetter? : Char → Option Item
  | 'c' => some (.inl .config)
  | 'v' => some (.inr .verbose)
  | 'h' => some (.inr .help)
  | 'V' => some (.inr .version)
  | _ => none

/-- The command line without options. -/
def empty : CommandLine := ⟨none, none, none, false⟩

/-- Enters the value of an option, once, and no empty path. -/
def enter (given : CommandLine) (setting : Setting) (value : String) :
    Except Refusal CommandLine :=
  match setting with
  | .config =>
    if given.config.isSome then .error .givenTwice
    else if value.isEmpty then .error .noValue
    else .ok { given with config := some value }
  | .baseUrl =>
    if given.baseUrl.isSome then .error .givenTwice else .ok { given with baseUrl := some value }
  | .logLevel =>
    if given.logLevel.isSome then .error .givenTwice else .ok { given with logLevel := some value }

/-- The options entered so far, and the one that may still be waiting for its value or to be
entered with it. -/
structure Progress where
  given : CommandLine
  waiting : Option (Setting × Option String)
deriving DecidableEq, Repr

namespace Progress

/-- Enters the option that is waiting. -/
def settle (p : Progress) : Except Refusal CommandLine :=
  match p.waiting with
  | none => .ok p.given
  | some (_, none) => .error .noValue
  | some (setting, some value) => p.given.enter setting value

/-- An option with an attached value. -/
def attach (p : Progress) (setting : Setting) (value : String) : Except Refusal Progress := do
  let given ← (← p.settle).enter setting value
  pure ⟨given, none⟩

/-- An option whose value is to follow. -/
def await (p : Progress) (setting : Setting) : Except Refusal Progress := do
  pure ⟨← p.settle, some (setting, none)⟩

/-- A switch. -/
def turnOn (p : Progress) (switch : Switch) : Except Refusal Progress := do
  let given ← p.settle
  match switch with
  | .verbose =>
    if given.verbose then throw .givenTwice else pure ⟨{ given with verbose := true }, none⟩
  | .help => throw .help
  | .version => throw .version

/-- An option by its long name, perhaps with a value behind an equals sign. -/
def long (p : Progress) (name : List Char) (value : Option (List Char)) :
    Except Refusal Progress :=
  match ofLong? (.ofList name), value with
  | none, _ => .error .unknownArgument
  | some (.inl setting), some value => p.attach setting (.ofList value)
  | some (.inl setting), none => p.await setting
  | some (.inr _), some _ => .error .unwantedValue
  | some (.inr switch), none => p.turnOn switch

/-- A run of letters, of which the first that takes a value takes what follows it. -/
def letters (p : Progress) : List Char → Except Refusal Progress
  | [] => .ok p
  | c :: rest =>
    match ofLetter? c with
    | none => .error .unknownArgument
    | some (.inr switch) => do letters (← p.turnOn switch) rest
    | some (.inl setting) =>
      match rest with
      | [] => p.await setting
      | '=' :: value => p.attach setting (.ofList value)
      | value => p.attach setting (.ofList value)

/-- An argument that is no option: the value that is waited for. -/
def plain (p : Progress) (text : List Char) : Except Refusal Progress :=
  match p.waiting with
  | some (setting, none) => .ok { p with waiting := some (setting, some (.ofList text)) }
  | _ => .error .unknownArgument

/-- One argument. -/
def argument (p : Progress) : List Char → Except Refusal Progress
  | '-' :: '-' :: rest =>
    let name := rest.takeWhile (· ≠ '=')
    p.long name (if name.length < rest.length then some (rest.drop (name.length + 1)) else none)
  | '-' :: c :: rest => p.letters (c :: rest)
  | text => p.plain text

/-- All arguments. Two dashes end the options, and nothing may follow them. -/
def arguments (p : Progress) : List String → Except Refusal Progress
  | [] => .ok p
  | "--" :: rest => if rest.isEmpty then .ok p else .error .unknownArgument
  | arg :: rest => do arguments (← p.argument arg.toList) rest

end Progress

/-- The command line that arguments make. -/
def ofArguments (arguments : List String) : Except Refusal CommandLine := do
  (← (Progress.mk empty none).arguments arguments).settle

/-- Options that are not given may be given by the environment. -/
def orEnvironment (given : CommandLine) (lookup : String → Option String) : CommandLine :=
  { given with
    baseUrl := given.baseUrl <|> lookup "MONITOR_BASE_URL"
    logLevel := given.logLevel <|> lookup "MONITOR_LOG_LEVEL" }

/-- The level of the log until the settings are known. -/
def bootstrapLevel (given : CommandLine) : String :=
  if given.verbose then "debug" else given.logLevel.getD "info"

/-- The layer of settings that the command line is. -/
def layer (given : CommandLine) : Layer where
  baseUrl := given.baseUrl
  pollInterval := none
  reconnectDelay := none
  reconnectOnError := none
  logLevel := if given.verbose then some "debug" else given.logLevel

/-- The settings to run with. A file that is named has to be usable; the file at the default path
counts as one that gives nothing if it is not. -/
def settings (given : CommandLine) (lookup : String → Option String)
    (file : String → Settings.File) : Except SettingsFault Settings := do
  let base ← match given.config with
    | some path => Settings.load (file path)
    | none => pure (Settings.loadOrDefault (file Settings.defaultPath))
  let settings := (base.under (.ofEnvironment lookup)).under given.layer
  settings.check
  pure settings

end CommandLine

end RiskBoard
