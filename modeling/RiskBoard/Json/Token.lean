import RiskBoard.Json.Numeral

/-!
# JSON tokens

The lexical level of JSON: brackets, separators, and scalars. Scanning never fails as a whole. A
fault becomes the last token, so that whoever reads the tokens from the left meets the faults in
the order of the text.

A scalar is scanned without judging what it stands for: a numeral beyond the range of doubles and
a string with half a surrogate pair are tokens with no value, which matters only to a reader that
wants the value.
-/

namespace RiskBoard.Json

inductive Token where
  | openArray
  | closeArray
  | openObject
  | closeObject
  | comma
  | colon
  | null
  | bool (b : Bool)
  /-- A numeral; no value when it is beyond the range. -/
  | number (value : Option Number)
  /-- A string; no value when it holds half a surrogate pair. -/
  | text (value : Option String)
  /-- Nothing that JSON knows stands here. -/
  | fault
deriving DecidableEq

namespace Token

/-- The blanks of JSON, which are fewer than those of Unicode. -/
def isSpace (c : Char) : Bool := c = ' ' || c = '\t' || c = '\n' || c = '\r'

/-! ### Strings -/

/-- A piece of a string: a character, or one half of a surrogate pair. -/
inductive Piece where
  | char (c : Char)
  | half (code : Nat)

/-- The value of a digit in base sixteen. -/
def hexDigit? (c : Char) : Option Nat :=
  if '0' ≤ c ∧ c ≤ '9' then some (c.toNat - '0'.toNat)
  else if 'a' ≤ c ∧ c ≤ 'f' then some (c.toNat - 'a'.toNat + 10)
  else if 'A' ≤ c ∧ c ≤ 'F' then some (c.toNat - 'A'.toNat + 10)
  else none

/-- The value of four digits in base sixteen. -/
def hexCode? (a b c d : Char) : Option Nat := do
  pure ((← hexDigit? a) * 4096 + (← hexDigit? b) * 256 + (← hexDigit? c) * 16 + (← hexDigit? d))

/-- The piece of a string that an escaped code unit stands for. -/
def Piece.ofCode (code : Nat) : Piece :=
  if 0xd800 ≤ code ∧ code < 0xe000 then .half code else .char (Char.ofNat code)

/-- The character that a letter after a backslash stands for. -/
def escaped? (c : Char) : Option Char :=
  if c = '\x22' ∨ c = '\\' ∨ c = '/' then some c
  else if c = 'b' then some '\x08'
  else if c = 'f' then some '\x0c'
  else if c = 'n' then some '\n'
  else if c = 'r' then some '\r'
  else if c = 't' then some '\t'
  else none

/-- The pieces of a string after its opening quote, and what follows the closing one. -/
def scanPieces : List Char → Option (List Piece × List Char)
  | [] => none
  | c :: rest =>
    if c = '\x22' then some ([], rest)
    else if c = '\\' then
      match rest with
      | [] => none
      | e :: rest =>
        if e = 'u' then
          match rest with
          | h₁ :: h₂ :: h₃ :: h₄ :: rest => do
            let code ← hexCode? h₁ h₂ h₃ h₄
            let (pieces, rest) ← scanPieces rest
            pure (.ofCode code :: pieces, rest)
          | _ => none
        else do
          let c ← escaped? e
          let (pieces, rest) ← scanPieces rest
          pure (.char c :: pieces, rest)
    else if c.toNat < 0x20 then none
    else do
      let (pieces, rest) ← scanPieces rest
      pure (.char c :: pieces, rest)

/-- The characters of a string once the halves of surrogate pairs are joined; `none` when a half
stands alone. -/
def joinPieces? : List Piece → Option (List Char)
  | [] => some []
  | .char c :: rest => (joinPieces? rest).map (c :: ·)
  | .half high :: .half low :: rest =>
    if high < 0xdc00 ∧ 0xdc00 ≤ low then
      (joinPieces? rest).map
        (Char.ofNat (0x10000 + (high - 0xd800) * 0x400 + (low - 0xdc00)) :: ·)
    else none
  | .half _ :: _ => none

/-! ### Scanning -/

/-- The brackets and separators. -/
def symbol? (c : Char) : Option Token :=
  if c = '[' then some .openArray
  else if c = ']' then some .closeArray
  else if c = '\x7b' then some .openObject
  else if c = '\x7d' then some .closeObject
  else if c = ',' then some .comma
  else if c = ':' then some .colon
  else none

/-- The words. -/
def words : List (List Char × Token) :=
  [(['n', 'u', 'l', 'l'], .null), (['t', 'r', 'u', 'e'], .bool true),
    (['f', 'a', 'l', 's', 'e'], .bool false)]

/-- The word at the front of a text, and what follows it. -/
def word? (cs : List Char) : Option (Token × List Char) :=
  (words.find? fun word => word.1.isPrefixOf cs).map fun word => (word.2, cs.drop word.1.length)

/-- The string after an opening quote, and what follows it. -/
def string? (cs : List Char) : Option (Token × List Char) :=
  (scanPieces cs).map fun (pieces, rest) => (.text ((joinPieces? pieces).map .ofList), rest)

/-- The numeral after its sign, and what follows it. -/
def numeral? (negative : Bool) (cs : List Char) : Option (Token × List Char) :=
  (Numeral.scanUnsigned negative cs).map fun (n, rest) => (.number n.number?, rest)

/-- The token that begins with a character, and what follows it. -/
def scanOne? (c : Char) (rest : List Char) : Option (Token × List Char) :=
  match symbol? c with
  | some token => some (token, rest)
  | none =>
    if c = '\x22' then string? rest
    else if c = '-' then numeral? true rest
    else if c.isDigit then numeral? false (c :: rest)
    else word? (c :: rest)

private theorem length_scanPieces {cs pieces rest} (h : scanPieces cs = some (pieces, rest)) :
    rest.length ≤ cs.length := by
  fun_induction scanPieces cs generalizing pieces rest with
  | case1 => simp at h
  | case2 => grind
  | case3 => simp at h
  | case4 =>
    simp only [Option.bind_eq_bind, Option.bind_eq_some_iff, Option.pure_def, Option.some.injEq,
      Prod.mk.injEq, Prod.exists] at h
    grind
  | case5 => simp at h
  | case6 =>
    simp only [Option.bind_eq_bind, Option.bind_eq_some_iff, Option.pure_def, Option.some.injEq,
      Prod.mk.injEq, Prod.exists] at h
    grind
  | case7 => simp at h
  | case8 =>
    simp only [Option.bind_eq_bind, Option.bind_eq_some_iff, Option.pure_def, Option.some.injEq,
      Prod.mk.injEq, Prod.exists] at h
    grind

private theorem length_word {cs token rest} (h : word? cs = some (token, rest)) :
    rest.length < cs.length := by
  simp only [word?, Option.map_eq_some_iff, Prod.mk.injEq] at h
  obtain ⟨word, hw, -, rfl⟩ := h
  have hmem := List.mem_of_find?_eq_some hw
  have hprefix : word.1.isPrefixOf cs = true := by
    have := List.find?_some hw
    exact this
  have := (List.isPrefixOf_iff_prefix.1 hprefix).length_le
  have : 0 < word.1.length := by
    clear hprefix
    simp only [words, List.mem_cons, List.not_mem_nil, or_false] at hmem
    rcases hmem with rfl | rfl | rfl <;> decide
  simp only [List.length_drop]
  omega

private theorem length_string {cs token rest} (h : string? cs = some (token, rest)) :
    rest.length ≤ cs.length := by
  simp only [string?, Option.map_eq_some_iff, Prod.mk.injEq, Prod.exists] at h
  obtain ⟨_, _, h, -, rfl⟩ := h
  exact length_scanPieces h

private theorem length_numeral {negative cs token rest}
    (h : numeral? negative cs = some (token, rest)) : rest.length < cs.length := by
  simp only [numeral?, Option.map_eq_some_iff, Prod.mk.injEq, Prod.exists] at h
  obtain ⟨_, _, h, -, rfl⟩ := h
  exact Numeral.length_scanUnsigned h

private theorem length_scanOne {c cs token rest} (h : scanOne? c cs = some (token, rest)) :
    rest.length ≤ cs.length := by
  unfold scanOne? at h
  split at h
  · simp only [Option.some.injEq, Prod.mk.injEq] at h
    exact Nat.le_of_eq (by rw [h.2])
  · split at h
    · exact length_string h
    · split at h
      · exact Nat.le_of_lt (length_numeral h)
      · split at h
        · exact Nat.le_of_lt_succ (length_numeral h)
        · exact Nat.le_of_lt_succ (length_word h)

/-- The tokens of a text, up to the first fault. -/
def scan : List Char → List Token
  | [] => []
  | c :: rest =>
    if isSpace c then scan rest
    else
      match _h : scanOne? c rest with
      | none => [.fault]
      | some (token, rest) => token :: scan rest
termination_by cs => cs.length
decreasing_by
  · simp
  · have := length_scanOne _h
    simp only [List.length_cons]
    omega

end Token

end RiskBoard.Json
