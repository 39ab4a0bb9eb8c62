import RiskBoard.Dataset.Snapshot
import RiskBoard.Session
import RiskBoard.Timeline

/-!
# Sources of snapshots

What a backend answers to pulls, fetch by fetch. A fetch that succeeds delivers its snapshot once,
when it completes; a fetch that fails delivers nothing. A backend may answer with a snapshot of
another kind than it was asked for.
-/

namespace RiskBoard

/-- The answer to one fetch. -/
structure Reply where
  latency : Nat
  /-- The snapshot, or nothing when the fetch fails. -/
  result : Option Snapshot
deriving DecidableEq

/-- A fetch that fails at once. -/
def Reply.failed : Reply := ⟨0, none⟩

/-- The answers to the fetches of each kind, in order. -/
structure Source where
  portfolio : List Reply
  risk : List Reply
  exposure : List Reply

namespace Source

/-- The answers to the fetches of a kind. -/
def replies (source : Source) : Kind → List Reply
  | .portfolio => source.portfolio
  | .risk => source.risk
  | .exposure => source.exposure

/-- The answer to the `n`-th fetch of a kind; fetches beyond the given answers fail at once. -/
def reply (source : Source) (kind : Kind) (n : Nat) : Reply :=
  (source.replies kind)[n]?.getD .failed

/-- The results of fetches in the order in which they are asked for, after those asked for
before. -/
def results (source : Source) (before : List Kind) : List Kind → List Snapshot
  | [] => []
  | kind :: rest =>
    (source.reply kind (before.count kind)).result.toList ++
      results source (before ++ [kind]) rest

/-- What the fetches of a kind at given times deliver, and when. -/
def deliveries (source : Source) (kind : Kind) (times : List Nat) : List (Timed Snapshot) :=
  (times.zipIdx.map fun (t, n) =>
    let reply := source.reply kind n
    reply.result.toList.map fun snapshot => ⟨t + reply.latency, snapshot⟩).flatten

end Source

/-- A session together with the fetches that it has asked for. -/
structure Exchange where
  session : Session
  asked : List Kind

/-- What messages led to, and what the fetches that they asked for led to. -/
structure Settlement where
  queued : List Event
  calls : List Kind
  fetched : List Event
  exchange : Exchange

/-- Applies messages, and then the results of the fetches asked for beside or by them. -/
def Exchange.settle? (exchange : Exchange) (source : Source) (beside : List Kind)
    (messages : List Inbound) : Option Settlement := do
  let first ← exchange.session.run? messages
  let calls := beside ++ first.fetches
  let second ← first.session.run? ((source.results exchange.asked calls).map .pulled)
  pure ⟨first.events, calls, second.events, ⟨second.session, exchange.asked ++ calls⟩⟩

end RiskBoard
