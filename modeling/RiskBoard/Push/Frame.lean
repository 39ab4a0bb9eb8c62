import RiskBoard.Dataset.Record
import RiskBoard.Failure

/-!
# Push frames

A push frame is a JSON record with a type, an optional message and optional data. The type decides
what the data is: nothing for a greeting, figures about valuation for `risk`, figures about
exposure for `exposure`.

The data is kept as a value before its own shape is known, so its members are read in the order of
their names, the last of a name counting, and whatever it holds besides has to be a value that can
be kept.
-/

namespace RiskBoard

/-- What a frame pushes. -/
inductive PushMessage where
  | connected (greeting : Option String)
  | risk (patch : Patch)
  | exposure (push : ExposurePush)
deriving DecidableEq

namespace PushMessage

/-- The figures that a push carries; a greeting carries none. -/
def patch : PushMessage → Patch
  | .connected _ => .empty
  | .risk patch => patch
  | .exposure push => push.toPatch

/-- Whether a message only says that the connection stands. -/
def isGreeting : PushMessage → Bool
  | .connected _ => true
  | _ => false

end PushMessage

/-- A frame before its type is looked at. -/
structure Frame where
  type : Option String
  message : Option String
  data : Option Json.Node

namespace Frame

/-- How deep the data of a frame may nest, the frame itself being one of 127 levels. -/
def dataDepth : Nat := 126

def shape : Json.Shape Frame :=
  ⟨"RawFrame",
    [.make "type" .defaulted (Json.nullable Json.text) fun v f => { f with type := v },
      .make "message" .defaulted (Json.nullable Json.text) fun v f => { f with message := v },
      .make "data" .defaulted (Json.nullable (Json.keep dataDepth)) fun v f =>
        { f with data := v }]⟩

def read : Json.Reader Frame := shape.read ⟨none, none, none⟩

end Frame

/-- Why a text is not a push message. -/
inductive FrameFault where
  /-- The text is not a frame. -/
  | frame (fault : Json.Fault)
  /-- The data of a frame of this type is not what it should be. -/
  | data (type : String) (fault : Json.Fault)
  /-- A frame of this type has no data. -/
  | noData (type : String)
  | unknownType (type : String)
  | noType

/-- The failure that a fault amounts to. -/
def FrameFault.failure : FrameFault → Failure
  | .frame fault => .decode s!"push frame: {fault.message}"
  | .data type fault => .decode s!"{type} frame: {fault.message}"
  | .noData type => .decode s!"{type} frame without data"
  | .unknownType type => .unrecognized s!"type '{type}'"
  | .noType => .unrecognized "frame without type"

namespace PushMessage

/-- The data of a frame, read as a record of its own. -/
def ofData? {α : Type} (type : String) (read : Json.Reader α) :
    Option Json.Node → Except FrameFault α
  | none => .error (.noData type)
  | some node =>
    match read .kept node with
    | .ok value => .ok value
    | .error fault => .error (.data type fault)

/-- The message of a frame. A greeting is one whatever its data. -/
def ofFrame? (frame : Frame) : Except FrameFault PushMessage :=
  match frame.type with
  | none => .error .noType
  | some type =>
    if type = "connected" then .ok (.connected frame.message)
    else if type = "risk" then
      (ofData? type ValuationPush.read frame.data).map fun push => .risk push.toPatch
    else if type = "exposure" then
      (ofData? type ExposurePush.read frame.data).map .exposure
    else .error (.unknownType type)

/-- The message that a text pushes. -/
def ofText? (text : String) : Except FrameFault PushMessage :=
  match Json.readText Frame.read text with
  | .ok frame => ofFrame? frame
  | .error fault => .error (.frame fault)

end PushMessage

end RiskBoard
