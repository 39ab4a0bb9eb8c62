import RiskBoard.Poll
import RiskBoard.Push.Channel
import RiskBoard.Settings.Basic

/-!
# The whole dashboard

Polling, the push channel, the fetches of forward exposure and the user's navigation, all on one
clock and all speaking to one session. None of them waits for the session, so what reaches it is
the merge of their own timelines: forward exposure is fetched at the start and on every visit to
its view, whatever else happens.
-/

namespace RiskBoard.App

/-- A visit to a view. -/
abbrev Visit := Timed View

/-- The times at which forward exposure is fetched. -/
def exposureTimes (visits : List Visit) (limit : Nat) : List Nat :=
  0 :: ((Timed.upTo limit (Timed.sort visits)).filter (·.value = .exposure)).map (·.time)

/-- All fetches up to a time. -/
def calls (settings : Settings) (visits : List Visit) (limit : Nat) : List (Timed Kind) :=
  Timed.sort ((exposureTimes visits limit).map (⟨·, .exposure⟩) ++
    Poll.calls settings.pollInterval limit)

/-- What the push channel of the settings does. -/
def pushActs (settings : Settings) (attempts : List Attempt) : List (Timed PushChannel.Act) :=
  PushChannel.run (.fixed settings.reconnectDelay) settings.reconnectOnError attempts

/-- What reaches the session up to a time, in order. -/
def inbound (settings : Settings) (source : Source) (attempts : List Attempt)
    (visits : List Visit) (limit : Nat) : List (Timed Inbound) :=
  let exposure := source.deliveries .exposure (exposureTimes visits limit)
  let polled := Poll.deliveries source settings.pollInterval limit
  -- visits come first, for a fetch that is asked for by a visit delivers nothing before it
  Timed.sort <| Timed.upTo limit <|
    visits.map (·.map .navigate) ++ (exposure.map (·.map .pulled) ++
      PushChannel.inbound (pushActs settings attempts) ++ polled.map (·.map .pulled))

/-- The events of timed messages, each with the time of its message. -/
def events? (session : Session) : List (Timed Inbound) → Option (List (Timed Event))
  | [] => some []
  | message :: rest => do
    let reaction ← session.step? message.value
    let others ← events? reaction.session rest
    pure (reaction.events.map (⟨message.time, ·⟩) ++ others)

/-- The events up to a time. -/
def run? (settings : Settings) (source : Source) (attempts : List Attempt) (visits : List Visit)
    (limit : Nat) : Option (List (Timed Event)) :=
  events? .initial (inbound settings source attempts visits limit)

end RiskBoard.App
