import RiskBoard.Json.Fault

/-!
# JSON as it is written

Values to be written, with the members of an object in the order in which they are given. The
text has no blanks; a double that is not finite is written as null.
-/

namespace RiskBoard.Json

inductive Value where
  | null
  | bool (b : Bool)
  | natural (n : Nat)
  | real (x : Binary64)
  | text (s : String)
  | array (items : List Value)
  | object (members : List (String × Value))
deriving Inhabited

/-- A value that may be absent. -/
def Value.optional {α : Type} (write : α → Value) : Option α → Value
  | some a => write a
  | none => .null

/-- An array of values of one type. -/
def Value.list {α : Type} (write : α → Value) (items : List α) : Value := .array (items.map write)

/-- A character inside a string. -/
def escapedChar (c : Char) : List Char :=
  if c = '\x22' then ['\\', '\x22']
  else if c = '\\' then ['\\', '\\']
  else if c = '\x08' then ['\\', 'b']
  else if c = '\x0c' then ['\\', 'f']
  else if c = '\n' then ['\\', 'n']
  else if c = '\r' then ['\\', 'r']
  else if c = '\t' then ['\\', 't']
  else if c.toNat < 0x20 then
    ['\\', 'u', '0', '0', Nat.digitChar (c.toNat / 16), Nat.digitChar (c.toNat % 16)]
  else [c]

/-- A string with its quotes. -/
def stringChars (s : String) : List Char :=
  '\x22' :: s.toList.flatMap escapedChar ++ ['\x22']

/-- A double, null when it is not finite. -/
def realChars (x : Binary64) : List Char :=
  if x.isFinite then numberStyle.write x else ['n', 'u', 'l', 'l']

mutual

/-- The text of a value. -/
def Value.chars : Value → List Char
  | .null => ['n', 'u', 'l', 'l']
  | .bool b => if b then ['t', 'r', 'u', 'e'] else ['f', 'a', 'l', 's', 'e']
  | .natural n => Nat.toDigits 10 n
  | .real x => realChars x
  | .text s => stringChars s
  | .array items => '[' :: Value.itemChars true items
  | .object members => '\x7b' :: Value.memberChars true members

def Value.itemChars (first : Bool) : List Value → List Char
  | [] => [']']
  | item :: rest =>
    (if first then item.chars else ',' :: item.chars) ++ Value.itemChars false rest

def Value.memberChars (first : Bool) : List (String × Value) → List Char
  | [] => ['\x7d']
  | (name, value) :: rest =>
    let member := stringChars name ++ ':' :: value.chars
    (if first then member else ',' :: member) ++ Value.memberChars false rest

end

/-- The text of a value as a string. -/
def Value.compact (value : Value) : String := String.ofList value.chars

end RiskBoard.Json
