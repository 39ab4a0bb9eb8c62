/-!
# Sets of characters as boundaries

A property of characters is written as the increasing list of the code points at which it begins
or ends to hold, so a character has it when an odd number of boundaries is at or below it.
-/

namespace RiskBoard.Text

/-- Whether a code point lies in the set with the given boundaries. -/
def withinBounds (bounds : List Nat) (code : Nat) : Bool :=
  (bounds.takeWhile (· ≤ code)).length % 2 == 1

end RiskBoard.Text
