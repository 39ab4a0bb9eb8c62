import RiskBoard.Settings.Basic

/-!
# Settings files

A settings file is missing, cannot be read, or has bytes, which have to be UTF-8 and a document of
settings.
-/

namespace RiskBoard.Settings

/-- What is found at the path of a file. -/
inductive File where
  | missing
  | unreadable (reason : String)
  | bytes (content : ByteArray)

/-- What a file gives. -/
def File.layer : File → Except SettingsFault Layer
  | .missing => .error (.unreadable "No such file or directory (os error 2)")
  | .unreadable reason => .error (.unreadable reason)
  | .bytes content =>
    match String.fromUTF8? content with
    | none => .error (.unreadable "stream did not contain valid UTF-8")
    | some text =>
      match Layer.ofText? text with
      | some layer => .ok layer
      | none => .error (.unparsable "not a document of settings")

/-- The settings that a file gives, the defaults below it. -/
def load (file : File) : Except SettingsFault Settings := file.layer.map default.under

/-- The settings that a file gives; a file that cannot be used counts as one that gives nothing. -/
def loadOrDefault (file : File) : Settings :=
  match file.layer with
  | .ok layer => default.under layer
  | .error _ => default

end RiskBoard.Settings
