/-!
# Failures

The kinds of failure that the dashboard meets while it runs or starts, with their wording. What
went wrong in detail is decided where it happens; here it is a text.
-/

namespace RiskBoard

/-- Why there are no settings to start with. -/
inductive SettingsFault where
  /-- The file could not be read. -/
  | unreadable (reason : String)
  /-- The file is not a document of settings. -/
  | unparsable (reason : String)
  /-- Rules that the settings break, all of them. -/
  | invalid (violations : List String)
deriving DecidableEq, Repr

/-- The wording of a fault. -/
def SettingsFault.message : SettingsFault → String
  | .unreadable reason => s!"IO error: {reason}"
  | .unparsable reason => s!"Parse error: {reason}"
  | .invalid violations => "Validation errors: " ++ "; ".intercalate violations

/-- A failure of the dashboard. -/
inductive Failure where
  /-- A pull was rejected, or the backend could not be reached. -/
  | network (detail : String)
  /-- An answer or a push frame does not have the expected shape. -/
  | decode (detail : String)
  /-- The push transport was closed or failed. -/
  | connection (detail : String)
  /-- A push frame has a type that is unknown or missing. -/
  | unrecognized (detail : String)
  /-- There are no settings. -/
  | settings (fault : SettingsFault)
deriving DecidableEq, Repr

/-- The wording of a failure. -/
def Failure.message : Failure → String
  | .network detail => s!"Network failure: {detail}"
  | .decode detail => s!"Decode failure: {detail}"
  | .connection detail => s!"Connection failure: {detail}"
  | .unrecognized detail => s!"Unrecognized message: {detail}"
  | .settings fault => s!"Configuration error: {fault.message}"

end RiskBoard
