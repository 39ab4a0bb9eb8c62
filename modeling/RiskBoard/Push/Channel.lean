import RiskBoard.Push.Frame
import RiskBoard.Session
import RiskBoard.Timeline

/-!
# The push channel

The life cycle of the push connection. Every attempt begins with `connecting`; a handshake either
fails, which is an `error`, or makes the channel `connected`. While it is connected, the texts that
arrive are decoded and pushed on, greetings and texts that are no frame left out. A close, or the
end of the stream, makes the channel `disconnected`; a failure is an `error`.

After a close the next attempt follows when the reconnect delay has passed. An error is treated as
a close if the channel is told so; otherwise it is the end of the channel.
-/

namespace RiskBoard

/-- What a transport reports of an open connection. -/
inductive TransportEvent where
  | text (text : String)
  | closed
  | failed (reason : String)
deriving DecidableEq

/-- A report, and how long after the one before it comes. -/
structure Arrival where
  after : Nat
  event : TransportEvent
deriving DecidableEq

/-- What becomes of one attempt to connect. -/
inductive Attempt where
  /-- The handshake fails. -/
  | refused (latency : Nat)
  /-- A connection opens and reports; after its last report it ends, or stays open silently. -/
  | opened (latency : Nat) (arrivals : List Arrival) (silent : Bool)
deriving DecidableEq

/-- An attempt that connects at once and then hears nothing. -/
def Attempt.quiet : Attempt := .opened 0 [] true

/-- The delay before a reconnect, by the number of reconnects so far, from one. -/
abbrev ReconnectStrategy := Nat → Nat

namespace ReconnectStrategy

/-- The same delay before every attempt. -/
def fixed (delay : Nat) : ReconnectStrategy := fun _ => delay

/-- The delay that is used when none is given. -/
def defaultDelay : Nat := 3000

/-- Reconnects are counted up to this number, which then stands for all that follow. -/
def maxCount : Nat := 4294967295

/-- Delays attempt by attempt, the last of them repeating. -/
def listed (delays : List Nat) : ReconnectStrategy := fun attempt =>
  delays[min (attempt - 1) (delays.length - 1)]?.getD defaultDelay

end ReconnectStrategy

namespace PushChannel

/-- Something the channel does. -/
inductive Act where
  /-- It lets those who watch it see a state. -/
  | publish (state : ChannelState)
  /-- It sends a message to the session. -/
  | send (message : Inbound)
  /-- It asks the transport to connect. -/
  | connect
  /-- It lets go of the connection. -/
  | release
  /-- It stops for good. -/
  | stop
deriving DecidableEq

/-- Enters a state: those who watch see it first, then the session is told. -/
def enter (time : Nat) (state : ChannelState) : List (Timed Act) :=
  [⟨time, .publish state⟩, ⟨time, .send (.channel state)⟩]

/-- How an attempt ended. -/
inductive Ending where
  | closed
  | failed
  /-- The connection is still open, and nothing more is known of it. -/
  | none
deriving DecidableEq

/-- What the channel does with a text: it pushes on what a frame carries. -/
def dispatch (text : String) : Option PushMessage :=
  match PushMessage.ofText? text with
  | .ok message => if message.isGreeting then none else some message
  | .error _ => none

/-- Reads an open connection from a time on: what is done, and how and when it ended. Nothing after
the first close or failure is looked at. -/
def listen (silent : Bool) : Nat → List Arrival → List (Timed Act) × Ending × Nat
  | time, [] =>
    if silent then ([], .none, time)
    else (enter time .disconnected ++ [⟨time, .release⟩], .closed, time)
  | time, arrival :: rest =>
    let time := time + arrival.after
    match arrival.event with
    | .text text =>
      let (acts, ending) := listen silent time rest
      ((dispatch text).toList.map (fun message => ⟨time, .send (.pushed message)⟩) ++ acts, ending)
    -- the new state is told before the connection is let go
    | .closed => (enter time .disconnected ++ [⟨time, .release⟩], .closed, time)
    | .failed _ => (enter time .error ++ [⟨time, .release⟩], .failed, time)

/-- Makes one attempt at a time. -/
def attempt (time : Nat) : Attempt → List (Timed Act) × Ending × Nat
  | .refused latency =>
    (enter time .connecting ++ ⟨time, .connect⟩ :: enter (time + latency) .error, .failed,
      time + latency)
  | .opened latency arrivals silent =>
    let (acts, ending) := listen silent (time + latency) arrivals
    (enter time .connecting ++ ⟨time, .connect⟩ :: (enter (time + latency) .connected ++ acts),
      ending)

/-- What follows the end of an attempt, and whether the channel goes on. -/
def afterEnding (reconnectOnError : Bool) (time : Nat) : Ending → List (Timed Act) × Bool
  | .closed => ([], true)
  | .failed =>
    -- the attempt itself has entered `error`; going on from it is decided here
    if reconnectOnError then (enter time .disconnected, true) else ([⟨time, .stop⟩], false)
  | .none => ([], false)

/-- All that the channel does, given what becomes of its attempts. `count` reconnects were made
before. -/
def acts (strategy : ReconnectStrategy) (reconnectOnError : Bool) :
    Nat → Nat → List Attempt → List (Timed Act)
  | _, _, [] => []
  | count, time, a :: rest =>
    let (done, ending, time) := attempt time a
    let (following, goesOn) := afterEnding reconnectOnError time ending
    -- a count that has reached its bound stays there, and so does the delay
    let count := min (count + 1) ReconnectStrategy.maxCount
    done ++ following ++
      if goesOn then acts strategy reconnectOnError count (time + strategy count) rest else []

/-- What the channel does on a transport whose attempts beyond those given hear nothing. -/
def run (strategy : ReconnectStrategy) (reconnectOnError : Bool) (attempts : List Attempt) :
    List (Timed Act) :=
  acts strategy reconnectOnError 0 0 (attempts ++ [.quiet])

/-- The message that an act sends to the session. -/
def Act.inbound? : Act → Option Inbound
  | .send message => some message
  | _ => none

/-- The messages sent to the session. -/
def inbound (acts : List (Timed Act)) : List (Timed Inbound) :=
  acts.filterMap fun act => act.value.inbound?.map (⟨act.time, ·⟩)

/-- The times at which the transport is asked to connect. -/
def connects (acts : List (Timed Act)) : List Nat :=
  (acts.filter (·.value = .connect)).map (·.time)

/-- Whether the channel has stopped. -/
def stopped (acts : List (Timed Act)) : Bool := acts.any (·.value = .stop)

/-- The state that those who watch see after an act, given the one they saw before. -/
def Act.seen (state : ChannelState) : Act → ChannelState
  | .publish state => state
  | _ => state

/-- The state that those who watch see after some acts, which is `disconnected` before the first. -/
def state (acts : List (Timed Act)) : ChannelState :=
  acts.foldl (fun state act => act.value.seen state) .disconnected

end PushChannel

end RiskBoard
