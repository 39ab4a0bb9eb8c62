import RiskBoard.Push.Frame
import RiskBoard.Store

/-!
# Sessions

The state behind the dashboard and what it does with the messages that reach it: pulled snapshots,
pushes, states of the push channel, and requests to activate a view. Messages are applied one at a
time in the order of arrival, so whichever write arrives last is shown.

A step is a pure function to the next state, the events for the view layer and the datasets that
have to be fetched. It has no answer only when the chart's value axis would need more ticks than
can be held.
-/

namespace RiskBoard

/-- The state of the push channel. -/
inductive ChannelState where
  | disconnected
  | connecting
  | connected
  | error
deriving DecidableEq, Repr

namespace ChannelState

/-- All states, in the order of a life cycle. -/
def all : List ChannelState := [.connecting, .connected, .disconnected, .error]

def name : ChannelState → String
  | disconnected => "disconnected"
  | connecting => "connecting"
  | connected => "connected"
  | error => "error"

/-- What the connection indicator shows of a state; an attempt shows nothing. -/
def status? : ChannelState → Option ConnectionStatus
  | disconnected => some .disconnected
  | connecting => none
  | connected => some .connected
  | error => some .error

end ChannelState

/-- A message to the session. -/
inductive Inbound where
  | pulled (snapshot : Snapshot)
  | pushed (message : PushMessage)
  | channel (state : ChannelState)
  | navigate (view : View)
deriving DecidableEq

structure Session where
  store : Store
  chart : ChartModel
  active : View
deriving DecidableEq

/-- What messages led to: the next state, the events in order, and the fetches asked for. -/
structure Reaction where
  session : Session
  events : List Event
  fetches : List Kind
deriving DecidableEq

namespace Reaction

/-- What no message leads to. -/
def idle (session : Session) : Reaction := ⟨session, [], []⟩

/-- What two runs of messages led to, one after the other. -/
def andThen (first second : Reaction) : Reaction :=
  ⟨second.session, first.events ++ second.events, first.fetches ++ second.fetches⟩

end Reaction

namespace Session

/-- The session before the first message. -/
def initial : Session := ⟨.empty, .initial, .dashboard⟩

/-- Writes to the store. -/
def write (session : Session) (w : Write) : Reaction :=
  ⟨{ session with store := session.store.apply w }, [.dataset (session.store.update w)], []⟩

/-- Takes a forward exposure profile: the chart is drawn, the store is written, and the drawing is
told after the write. -/
def takeExposure? (session : Session) (series : ExposureSeries) : Option Reaction :=
  let written := session.write (.replace (.exposure series))
  -- the chart neither reads nor changes the store, so it may be drawn on what was written
  let session := { written.session with chart := session.chart.next series }
  match written.session.chart.draw series with
  | .nothing => some ⟨session, written.events, []⟩
  | .drawn update => some ⟨session, written.events ++ [.chart update], []⟩
  | .overflow => none

/-- Takes a push; one that carries no figure is ignored. -/
def takePush (session : Session) (message : PushMessage) : Reaction :=
  if message.patch.isEmpty then ⟨session, [], []⟩ else session.write (.merge message.patch)

/-- Takes a state of the push channel. -/
def takeChannel (session : Session) (state : ChannelState) : Reaction :=
  ⟨session, state.status?.toList.map .status, []⟩

/-- Activates a view; the exposure view asks for its profile on every visit. -/
def takeNavigation (session : Session) (view : View) : Reaction :=
  let navigation : Navigation := ⟨session.active, view⟩
  ⟨{ session with active := view }, [.activeView navigation],
    if navigation.fetchesExposure then [.exposure] else []⟩

/-- Applies one message. -/
def step? (session : Session) : Inbound → Option Reaction
  | .pulled (.exposure series) => session.takeExposure? series
  | .pulled snapshot => some (session.write (.replace snapshot))
  | .pushed message => some (session.takePush message)
  | .channel state => some (session.takeChannel state)
  | .navigate view => some (session.takeNavigation view)

/-- Applies messages in order. -/
def run? (session : Session) : List Inbound → Option Reaction
  | [] => some (.idle session)
  | message :: rest => do
    let first ← session.step? message
    let others ← run? first.session rest
    pure (first.andThen others)

end Session

end RiskBoard
