import RiskBoard.Pull.Source

/-!
# Polling

Portfolio and risk are fetched at the start and then once per interval, whatever becomes of the
fetches before. An interval of zero counts as one millisecond.
-/

namespace RiskBoard.Poll

/-- The kinds that are polled, in the order of their fetches. -/
def kinds : List Kind := [.portfolio, .risk]

/-- The interval that is used when none is given. -/
def defaultInterval : Nat := 30000

/-- The time between two ticks. -/
def period (interval : Nat) : Nat := max interval 1

/-- The times of the ticks up to a time. -/
def ticks (interval limit : Nat) : List Nat :=
  (List.range (limit / period interval + 1)).map (· * period interval)

/-- The fetches up to a time. -/
def calls (interval limit : Nat) : List (Timed Kind) :=
  (ticks interval limit).flatMap fun t => kinds.map fun kind => ⟨t, kind⟩

/-- What polling delivers up to a time. -/
def deliveries (source : Source) (interval limit : Nat) : List (Timed Snapshot) :=
  Timed.sort <| Timed.upTo limit <|
    kinds.flatMap fun kind => source.deliveries kind (ticks interval limit)

end RiskBoard.Poll
