import RiskBoard.Decimal.Shortest
import RiskBoard.Json.Node
import RiskBoard.Text.Quoted

/-!
# What can be wrong with a JSON text

A text that is not JSON, or holds a value that cannot be kept, is `malformed`, however it is so.
The other faults are about a text that is JSON so far but not of the shape that was asked for.
-/

namespace RiskBoard.Json

/-- A value of the wrong type, as a fault names it. -/
inductive Found where
  | null
  | bool (b : Bool)
  | number (n : Number)
  | text (s : String)
  | array
  | object

/-- How many items a record takes from an array. -/
inductive Capacity where
  /-- The array ended before the record had its fields. -/
  | record (name : String) (fields : Nat)
  /-- The array has more items than the record has fields. -/
  | fewer

inductive Fault where
  | malformed
  | missingField (name : String)
  | duplicateField (name : String)
  | invalidType (found : Found) (expected : String)
  | negativeInteger (magnitude : Nat) (expected : String)
  | invalidLength (length : Nat) (expected : Capacity)

/-- The notation of doubles in JSON: positional from `10⁻⁵` up to below `10¹⁶`, always with a
fraction digit there, and of two equally short and near texts the one with an even last digit. -/
def numberStyle : Decimal.Style :=
  ⟨.even, fun exponent => -5 ≤ exponent && exponent ≤ 15, ['.', '0']⟩

/-- A double in the notation of JSON. -/
def numberText (x : Binary64) : String := String.ofList (numberStyle.write x)

def Found.describe : Found → String
  | .null => "null"
  | .bool b => s!"boolean `{b}`"
  | .number (.natural n) => s!"integer `{n}`"
  | .number (.negative n) => s!"integer `-{n}`"
  | .number (.real x) => s!"floating point `{numberText x}`"
  | .text s => s!"string {Text.quoted s}"
  | .array => "sequence"
  | .object => "map"

def Capacity.describe : Capacity → String
  | .record name 1 => s!"struct {name} with 1 element"
  | .record name fields => s!"struct {name} with {fields} elements"
  | .fewer => "fewer elements in array"

/-- The wording of a fault. -/
def Fault.message : Fault → String
  | .malformed => "<syntax>"
  | .missingField name => s!"missing field `{name}`"
  | .duplicateField name => s!"duplicate field `{name}`"
  | .invalidType found expected => s!"invalid type: {found.describe}, expected {expected}"
  | .negativeInteger n expected => s!"invalid value: integer `-{n}`, expected {expected}"
  | .invalidLength n expected => s!"invalid length {n}, expected {expected.describe}"

end RiskBoard.Json
