import RiskBoard.Json.Token

/-!
# TOML text

The lexical level of TOML: blanks and line ends, comments, the four kinds of strings, and keys.
Every scanner takes a part of the text from the front and returns it with what follows, or nothing
when the text does not begin with such a part.
-/

namespace RiskBoard.Toml

/-- Takes a part of a text from its front. -/
abbrev Scanner (α : Type) := List Char → Option (α × List Char)

namespace Scan

/-! ### Blanks, line ends and comments -/

/-- A blank within a line. -/
def isBlank (c : Char) : Bool := c = ' ' || c = '\t'

/-- The text after the blanks at its front. -/
def skipBlanks (cs : List Char) : List Char := cs.dropWhile isBlank

/-- The text after a line end. -/
def lineEnd? : List Char → Option (List Char)
  | '\n' :: rest => some rest
  | '\r' :: '\n' :: rest => some rest
  | _ => none

/-- A character that may stand in a comment or a string as it is: a tab, or none of the
controls. -/
def isPlain (c : Char) : Bool := c = '\t' || (0x20 ≤ c.toNat && c.toNat != 0x7f)

/-- The text after a comment, if there is one. -/
def skipComment : List Char → List Char
  | '#' :: rest => rest.dropWhile isPlain
  | cs => cs

/-- The text after what may follow an expression on its line, up to the next line. -/
def endOfLine? (cs : List Char) : Option (List Char) :=
  match skipComment (skipBlanks cs) with
  | [] => some []
  | rest => lineEnd? rest

/-- The text after blanks, comments and line ends, at most `fuel` of each. -/
def skipLines : Nat → List Char → List Char
  | 0, cs => cs
  | fuel + 1, cs =>
    let rest := skipComment (skipBlanks cs)
    match lineEnd? rest with
    | some rest => skipLines fuel rest
    | none => rest

/-! ### Strings -/

/-- The code point that digits in base sixteen stand for, if it is a character. -/
def charOfHex? (digits : List Char) : Option Char := do
  let values ← digits.mapM Json.Token.hexDigit?
  let code := values.foldl (fun n d => n * 16 + d) 0
  if code < 0xd800 ∨ (0xe000 ≤ code ∧ code < 0x110000) then some (Char.ofNat code) else none

/-- A given number of characters, and what follows. -/
def exactly? (n : Nat) (cs : List Char) : Option (List Char × List Char) :=
  if (cs.take n).length = n then some (cs.take n, cs.drop n) else none

/-- The character of an escape after its backslash, and how many characters it takes. -/
def escape? : List Char → Option (Char × Nat)
  | [] => none
  | c :: rest =>
    if c = 'b' then some ('\x08', 1)
    else if c = 't' then some ('\t', 1)
    else if c = 'n' then some ('\n', 1)
    else if c = 'f' then some ('\x0c', 1)
    else if c = 'r' then some ('\r', 1)
    else if c = '\x22' then some ('\x22', 1)
    else if c = '\\' then some ('\\', 1)
    else if c = 'u' then do
      let (digits, _) ← exactly? 4 rest
      pure (← charOfHex? digits, 5)
    else if c = 'U' then do
      let (digits, _) ← exactly? 8 rest
      pure (← charOfHex? digits, 9)
    else none

/-- The rest of a string on one line after its opening quote, in which a backslash escapes. -/
def basicRest : Nat → Scanner (List Char)
  | 0, _ => none
  | _ + 1, [] => none
  | fuel + 1, c :: rest =>
    if c = '\x22' then some ([], rest)
    else if c = '\\' then do
      let (e, taken) ← escape? rest
      let (cs, rest) ← basicRest fuel (rest.drop taken)
      pure (e :: cs, rest)
    else if isPlain c then do
      let (cs, rest) ← basicRest fuel rest
      pure (c :: cs, rest)
    else none

/-- The rest of a string on one line after its opening apostrophe, in which nothing is escaped. -/
def literalRest : Scanner (List Char)
  | [] => none
  | c :: rest =>
    if c = '\x27' then some ([], rest)
    else if isPlain c then do
      let (cs, rest) ← literalRest rest
      pure (c :: cs, rest)
    else none

/-- The quotes at the front of a text, as far as they may end a string over several lines: three
end it, and up to two before them belong to it. -/
def closing? (quote : Char) (cs : List Char) : Option (List Char × List Char) :=
  let run := (cs.takeWhile (· = quote)).length
  if run < 3 then none
  else
    let kept := min (run - 3) 2
    some (List.replicate kept quote, cs.drop (kept + 3))

/-- The text after blanks and line ends. -/
def skipBlankLines : List Char → List Char
  | '\r' :: '\n' :: rest => skipBlankLines rest
  | c :: rest => if isBlank c || c = '\n' then skipBlankLines rest else c :: rest
  | [] => []

/-- The text after a backslash at the end of a line and all blank lines that follow. -/
def continuation? (cs : List Char) : Option (List Char) :=
  (lineEnd? (skipBlanks cs)).map skipBlankLines

/-- The rest of a string over several lines. A line end is kept as a line feed. -/
def multilineRest (quote : Char) (escapes : Bool) : Nat → Scanner (List Char)
  | 0, _ => none
  | _ + 1, [] => none
  | fuel + 1, c :: rest =>
    match closing? quote (c :: rest) with
    | some closed => some closed
    | none =>
      match lineEnd? (c :: rest) with
      | some rest => do
        let (cs, rest) ← multilineRest quote escapes fuel rest
        pure ('\n' :: cs, rest)
      | none =>
        if c = '\\' ∧ escapes then
          match continuation? rest with
          | some rest => multilineRest quote escapes fuel rest
          | none => do
            let (e, taken) ← escape? rest
            let (cs, rest) ← multilineRest quote escapes fuel (rest.drop taken)
            pure (e :: cs, rest)
        else if isPlain c then do
          let (cs, rest) ← multilineRest quote escapes fuel rest
          pure (c :: cs, rest)
        else none

/-- The text after a line end at the very front of a string over several lines. -/
def afterFirstLineEnd (cs : List Char) : List Char := (lineEnd? cs).getD cs

/-- A string on one line. -/
def lineString? : Scanner (List Char)
  | '\x22' :: rest => basicRest (rest.length + 1) rest
  | '\x27' :: rest => literalRest rest
  | _ => none

/-- A string of any kind. -/
def string? : Scanner (List Char)
  | '\x22' :: '\x22' :: '\x22' :: rest =>
    multilineRest '\x22' true (rest.length + 1) (afterFirstLineEnd rest)
  | '\x27' :: '\x27' :: '\x27' :: rest =>
    multilineRest '\x27' false (rest.length + 1) (afterFirstLineEnd rest)
  | cs => lineString? cs

/-! ### Keys -/

/-- A character of a bare key. -/
def isBareKey (c : Char) : Bool := c.isAlphanum || c = '_' || c = '-'

/-- One part of a key. -/
def keyPart? (cs : List Char) : Option (String × List Char) :=
  match lineString? cs with
  | some (s, rest) => some (.ofList s, rest)
  | none =>
    if (cs.takeWhile isBareKey).isEmpty then none
    else some (.ofList (cs.takeWhile isBareKey), cs.dropWhile isBareKey)

/-- A key of at most `fuel` parts with dots between them, blanks around each part. -/
def key? : Nat → Scanner (List String)
  | 0, _ => none
  | fuel + 1, cs => do
    let (part, rest) ← keyPart? (skipBlanks cs)
    match skipBlanks rest with
    | '.' :: rest => do
      let (parts, rest) ← key? fuel rest
      pure (part :: parts, rest)
    | rest => pure ([part], rest)

end Scan

end RiskBoard.Toml
