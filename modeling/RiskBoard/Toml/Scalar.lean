import RiskBoard.Decimal.Literal
import RiskBoard.Toml.Scan
import RiskBoard.Toml.Value

/-!
# TOML numbers and times

Integers are those of 64 bits, in base ten without leading zeros or in base two, eight or sixteen
behind a mark; single underscores may stand between digits. Dates have to exist, and a time of day
has hours below 24 and at most a leap second.
-/

namespace RiskBoard.Toml.Scalar

/-! ### Digits -/

/-- Digits of a base with single underscores between them, without those, and what follows. -/
def digitRun (isDigit : Char → Bool) : List Char → List Char × List Char
  | [] => ([], [])
  | c :: rest =>
    if isDigit c then
      match rest with
      | '_' :: d :: more =>
        if isDigit d then
          let (ds, rest) := digitRun isDigit (d :: more)
          (c :: ds, rest)
        else ([c], rest)
      | rest =>
        let (ds, rest) := digitRun isDigit rest
        (c :: ds, rest)
    else ([], c :: rest)

/-- At least one digit of a base. -/
def digits? (isDigit : Char → Bool) (cs : List Char) : Option (List Char × List Char) :=
  let (ds, rest) := digitRun isDigit cs
  if ds.isEmpty then none else some (ds, rest)

def isBinary (c : Char) : Bool := c = '0' || c = '1'

def isOctal (c : Char) : Bool := '0' ≤ c && c ≤ '7'

def isHex (c : Char) : Bool := (Json.Token.hexDigit? c).isSome

/-! ### Integers -/

/-- An integer within 64 bits. -/
def bounded? (i : Int) : Option Int :=
  if -9223372036854775808 ≤ i ∧ i < 9223372036854775808 then some i else none

/-- The value of digits in a base. -/
def valueOf (base : Nat) (ds : List Char) : Nat :=
  ds.foldl (fun n d => n * base + (Json.Token.hexDigit? d).getD 0) 0

/-- Decimal digits without a leading zero. -/
def wholePart? : List Char → Option (List Char × List Char)
  | '0' :: rest => some (['0'], rest)
  | cs => digits? Char.isDigit cs

/-- An integer behind the mark of its base. -/
def markedInteger? : List Char → Option (Option Int × List Char)
  | '0' :: 'x' :: rest =>
    (digits? isHex rest).map fun (ds, rest) => (bounded? (valueOf 16 ds), rest)
  | '0' :: 'o' :: rest =>
    (digits? isOctal rest).map fun (ds, rest) => (bounded? (valueOf 8 ds), rest)
  | '0' :: 'b' :: rest =>
    (digits? isBinary rest).map fun (ds, rest) => (bounded? (valueOf 2 ds), rest)
  | _ => none

/-! ### Numbers -/

/-- The digits after a point, if there is one; a point has to have some. -/
def fraction? : List Char → Option (Option (List Char) × List Char)
  | '.' :: rest => (digits? Char.isDigit rest).map fun (ds, rest) => (some ds, rest)
  | cs => some (none, cs)

/-- The exponent, if there is one; its mark has to have digits. -/
def exponent? : List Char → Option (Option Int × List Char)
  | [] => some (none, [])
  | c :: rest =>
    if c = 'e' ∨ c = 'E' then
      let (negative, rest) := Decimal.takeSign rest
      (digits? Char.isDigit rest).map fun (ds, rest) =>
        let n : Int := valueOf 10 ds
        (some (if negative then -n else n), rest)
    else some (none, c :: rest)

/-- A double that is not above the range; one below it is minus infinity. -/
def notAbove? (x : Binary64) : Option Value :=
  if x = .infinite false then none else some (.real x)

/-- The names of doubles without digits. -/
def named? (negative : Bool) : List Char → Option (Value × List Char)
  | 'i' :: 'n' :: 'f' :: rest => some (.real (.infinite negative), rest)
  | 'n' :: 'a' :: 'n' :: rest => some (.real .nan, rest)
  | _ => none

/-- A number in base ten after its sign. -/
def decimal? (negative : Bool) (cs : List Char) : Option (Value × List Char) := do
  let (whole, rest) ← wholePart? cs
  let (fraction, rest) ← fraction? rest
  let (exponent, rest) ← exponent? rest
  match fraction, exponent with
  | none, none =>
    let n : Int := valueOf 10 whole
    let i ← bounded? (if negative then -n else n)
    pure (.integer i, rest)
  | _, _ =>
    let ds := fraction.getD []
    let x := Decimal.nearest negative (whole ++ ds) (exponent.getD 0 - ds.length)
    pure (← notAbove? x, rest)

/-- A number that is not a date or a time. -/
def number? (cs : List Char) : Option (Value × List Char) :=
  match markedInteger? cs with
  | some (i, rest) => i.map fun i => (.integer i, rest)
  | none =>
    let (negative, rest) := Decimal.takeSign cs
    match named? negative rest with
    | some found => some found
    | none => decimal? negative rest

/-! ### Dates and times -/

/-- A number of exactly `n` digits within limits. -/
def fixedNumber? (n low high : Nat) (cs : List Char) : Option (Nat × List Char) := do
  let (ds, rest) ← Scan.exactly? n cs
  if ds.all Char.isDigit && low ≤ valueOf 10 ds && valueOf 10 ds ≤ high then
    some (valueOf 10 ds, rest)
  else none

/-- The text after a given character. -/
def after? (c : Char) : List Char → Option (List Char)
  | d :: rest => if d = c then some rest else none
  | [] => none

def isLeap (year : Nat) : Bool := year % 4 = 0 && (year % 100 != 0 || year % 400 = 0)

def daysIn (year month : Nat) : Nat :=
  if month = 2 then if isLeap year then 29 else 28
  else if month = 4 ∨ month = 6 ∨ month = 9 ∨ month = 11 then 30
  else 31

/-- The text after the date at its front. -/
def afterDate? (cs : List Char) : Option (List Char) := do
  let (year, rest) ← fixedNumber? 4 0 9999 cs
  let (month, rest) ← fixedNumber? 2 1 12 (← after? '-' rest)
  let (_, rest) ← fixedNumber? 2 1 (daysIn year month) (← after? '-' rest)
  pure rest

/-- The text after the time of day at its front. -/
def afterTime? (cs : List Char) : Option (List Char) := do
  let (_, rest) ← fixedNumber? 2 0 23 cs
  let (_, rest) ← fixedNumber? 2 0 59 (← after? ':' rest)
  let (_, rest) ← fixedNumber? 2 0 60 (← after? ':' rest)
  match rest with
  | '.' :: fraction =>
    if (fraction.takeWhile Char.isDigit).isEmpty then none
    else some (fraction.dropWhile Char.isDigit)
  | _ => some rest

/-- The text after an offset from universal time, if there is one; `none` when it is
ill-formed. -/
def afterOffset? : List Char → Option (List Char)
  | [] => some []
  | c :: rest =>
    if c = 'Z' ∨ c = 'z' then some rest
    else if c = '+' ∨ c = '-' then do
      let (_, rest) ← fixedNumber? 2 0 23 rest
      let (_, rest) ← fixedNumber? 2 0 59 (← after? ':' rest)
      pure rest
    else some (c :: rest)

/-- The text after a date and perhaps a time. A blank after a date begins a time only if one
follows it. -/
def afterMoment? (cs : List Char) : Option (List Char) :=
  match afterDate? cs with
  | none => afterTime? cs
  | some [] => some []
  | some (c :: rest) =>
    if c = 'T' ∨ c = 't' then (afterTime? rest).bind afterOffset?
    else if c = ' ' ∧ (fixedNumber? 2 0 23 rest).bind (after? ':' ·.2) ≠ none then
      (afterTime? rest).bind afterOffset?
    else some (c :: rest)

/-- Whether a text begins like a date or a time, and so has to be one. -/
def startsMoment (cs : List Char) : Bool :=
  ((Scan.exactly? 4 cs).any fun (ds, rest) => ds.all Char.isDigit && rest.head? == some '-') ||
    ((Scan.exactly? 2 cs).any fun (ds, rest) => ds.all Char.isDigit && rest.head? == some ':')

/-- A date, a time, or both. -/
def moment? (cs : List Char) : Option (Value × List Char) :=
  (afterMoment? cs).map fun rest => (.moment (.ofList (cs.take (cs.length - rest.length))), rest)

/-- A truth value. -/
def bool? : List Char → Option (Value × List Char)
  | 't' :: 'r' :: 'u' :: 'e' :: rest => some (.bool true, rest)
  | 'f' :: 'a' :: 'l' :: 's' :: 'e' :: rest => some (.bool false, rest)
  | _ => none

/-- A number, a date or time, or a truth value. -/
def scalar? (cs : List Char) : Option (Value × List Char) :=
  if startsMoment cs then moment? cs
  else
    match bool? cs with
    | some found => some found
    | none => number? cs

end RiskBoard.Toml.Scalar
