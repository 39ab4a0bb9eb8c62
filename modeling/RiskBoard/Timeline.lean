/-!
# Timelines

Things that happen on a virtual clock, which counts milliseconds from the start. Code takes no
time; only waiting does.
-/

namespace RiskBoard

/-- Something that happens at a time. -/
structure Timed (α : Type) where
  time : Nat
  value : α
deriving DecidableEq

namespace Timed

variable {α β : Type}

def map (f : α → β) (x : Timed α) : Timed β := ⟨x.time, f x.value⟩

/-- What happens up to and including a time. -/
def upTo (limit : Nat) (xs : List (Timed α)) : List (Timed α) := xs.filter (·.time ≤ limit)

/-- Things in the order in which they happen; at one time they keep the order given. -/
def sort (xs : List (Timed α)) : List (Timed α) := xs.mergeSort fun x y => x.time ≤ y.time

end Timed

end RiskBoard
