import RiskBoard.Json.Node

/-!
# JSON texts

The grammar of JSON, as a relation between values and texts, and the proof that every text of it is
read as the value that it is a text of (`Json.ofText_of_isTextOf`).

A relation such as `ValueText node cs rest` says that `cs` begins with a text of the value and that
`rest` is what follows. The grammar says which characters stand where and leaves to the reader what
numerals and strings stand for. It does not say where a numeral ends either: that what follows one
does not go on with it is so because a comma, a bracket or the end follows every value
(`Json.Follows`).
-/

namespace RiskBoard.Json

open Token (Piece)

/-! ### The grammar -/

/-- Blanks, which may stand before and after every token. -/
inductive Blanks : List Char → List Char → Prop
  | none {rest : List Char} : Blanks rest rest
  | more {c : Char} {cs rest : List Char} (hc : c ∈ [' ', '\t', '\n', '\r'])
    (h : Blanks cs rest) : Blanks (c :: cs) rest

/-- The digits behind a point, if there is one. -/
inductive FractionText : List Char → List Char → Prop
  | none : FractionText [] []
  | point {digits : List Char} (hne : digits ≠ []) (h : ∀ c ∈ digits, c.isDigit = true) :
    FractionText digits ('.' :: digits)

/-- The signs of an exponent, and whether they make it negative. -/
def signs : List (Bool × List Char) := [(false, []), (false, ['+']), (true, ['-'])]

/-- An exponent, if there is one. -/
inductive ExponentText : Option (Bool × List Char) → List Char → Prop
  | none : ExponentText none []
  | mark {mark : Char} {negative : Bool} {sign digits : List Char} (hmark : mark ∈ ['e', 'E'])
    (hsign : (negative, sign) ∈ signs) (hne : digits ≠ []) (h : ∀ c ∈ digits, c.isDigit = true) :
    ExponentText (some (negative, digits)) (mark :: (sign ++ digits))

/-- A numeral after its sign. Only zero begins with a zero. -/
inductive UnsignedText (negative : Bool) : Numeral → List Char → Prop
  | intro {whole fraction cs ds : List Char} {exponent : Option (Bool × List Char)}
    (hne : whole ≠ []) (hwhole : ∀ c ∈ whole, c.isDigit = true)
    (hzero : whole.head? = some '0' → whole = ['0']) (hfraction : FractionText fraction cs)
    (hexponent : ExponentText exponent ds) :
    UnsignedText negative ⟨negative, whole, fraction, exponent⟩ (whole ++ (cs ++ ds))

/-- A numeral. -/
inductive NumeralText : Numeral → List Char → Prop
  | plain {numeral : Numeral} {cs : List Char} (h : UnsignedText false numeral cs) :
    NumeralText numeral cs
  | minus {numeral : Numeral} {cs : List Char} (h : UnsignedText true numeral cs) :
    NumeralText numeral ('-' :: cs)

/-- The letters behind a backslash and the characters that they stand for. -/
def escapes : List (Char × Char) :=
  [('\x22', '\x22'), ('\\', '\\'), ('/', '/'), ('b', '\x08'), ('f', '\x0c'), ('n', '\n'),
    ('r', '\r'), ('t', '\t')]

/-- The pieces of a string after its opening quote. -/
inductive PiecesText : List Piece → List Char → List Char → Prop
  | close {rest : List Char} : PiecesText [] ('\x22' :: rest) rest
  | plain {c : Char} {pieces : List Piece} {cs rest : List Char} (hquote : c ≠ '\x22')
    (hslash : c ≠ '\\') (hcontrol : 0x20 ≤ c.toNat) (h : PiecesText pieces cs rest) :
    PiecesText (.char c :: pieces) (c :: cs) rest
  | escaped {letter c : Char} {pieces : List Piece} {cs rest : List Char}
    (hletter : (letter, c) ∈ escapes) (h : PiecesText pieces cs rest) :
    PiecesText (.char c :: pieces) ('\\' :: letter :: cs) rest
  | code {h₁ h₂ h₃ h₄ : Char} {code : Nat} {pieces : List Piece} {cs rest : List Char}
    (hcode : Token.hexCode? h₁ h₂ h₃ h₄ = some code) (h : PiecesText pieces cs rest) :
    PiecesText (.ofCode code :: pieces) ('\\' :: 'u' :: h₁ :: h₂ :: h₃ :: h₄ :: cs) rest

/-- A string, which has a value unless half a surrogate pair stands alone in it. -/
inductive StringText : Option String → List Char → List Char → Prop
  | quoted {pieces : List Piece} {cs rest : List Char} (h : PiecesText pieces cs rest) :
    StringText ((Token.joinPieces? pieces).map .ofList) ('\x22' :: cs) rest

mutual

/-- A value. -/
inductive ValueText : Node → List Char → List Char → Prop
  | null {rest : List Char} : ValueText .null ('n' :: 'u' :: 'l' :: 'l' :: rest) rest
  | true {rest : List Char} : ValueText (.bool true) ('t' :: 'r' :: 'u' :: 'e' :: rest) rest
  | false {rest : List Char} :
    ValueText (.bool false) ('f' :: 'a' :: 'l' :: 's' :: 'e' :: rest) rest
  | number {numeral : Numeral} {cs rest : List Char} (h : NumeralText numeral cs) :
    ValueText (.number numeral.number?) (cs ++ rest) rest
  | text {s : Option String} {cs rest : List Char} (h : StringText s cs rest) :
    ValueText (.text s) cs rest
  | emptyArray {cs rest : List Char} (h : Blanks cs (']' :: rest)) :
    ValueText (.array [] true) ('[' :: cs) rest
  | array {items : List Node} {cs rest : List Char} (h : ItemsText items cs rest) :
    ValueText (.array items true) ('[' :: cs) rest
  | emptyObject {cs rest : List Char} (h : Blanks cs ('\x7d' :: rest)) :
    ValueText (.object [] true) ('\x7b' :: cs) rest
  | object {members : List (Option String × Node)} {cs rest : List Char}
    (h : MembersText members cs rest) : ValueText (.object members true) ('\x7b' :: cs) rest

/-- The items of an array with commas between them, up to the closing bracket. -/
inductive ItemsText : List Node → List Char → List Char → Prop
  | last {node : Node} {cs ds es rest : List Char} (hbefore : Blanks cs ds)
    (h : ValueText node ds es) (hafter : Blanks es (']' :: rest)) : ItemsText [node] cs rest
  | more {node : Node} {items : List Node} {cs ds es fs rest : List Char} (hbefore : Blanks cs ds)
    (h : ValueText node ds es) (hafter : Blanks es (',' :: fs)) (hmore : ItemsText items fs rest) :
    ItemsText (node :: items) cs rest

/-- A member of an object, with the blanks around it. -/
inductive MemberText : Option String × Node → List Char → List Char → Prop
  | intro {name : Option String} {node : Node} {cs ds es fs gs hs rest : List Char}
    (hbefore : Blanks cs ds) (hname : StringText name ds es) (hcolon : Blanks es (':' :: fs))
    (hblanks : Blanks fs gs) (h : ValueText node gs hs) (hafter : Blanks hs rest) :
    MemberText (name, node) cs rest

/-- The members of an object with commas between them, up to the closing bracket. -/
inductive MembersText : List (Option String × Node) → List Char → List Char → Prop
  | last {member : Option String × Node} {cs rest : List Char}
    (h : MemberText member cs ('\x7d' :: rest)) : MembersText [member] cs rest
  | more {member : Option String × Node} {members : List (Option String × Node)}
    {cs ds rest : List Char} (h : MemberText member cs (',' :: ds))
    (hmore : MembersText members ds rest) : MembersText (member :: members) cs rest

end

/-- A text of a value, with blanks around it and nothing else. -/
def IsTextOf (text : String) (node : Node) : Prop :=
  ∃ cs rest, Blanks text.toList cs ∧ ValueText node cs rest ∧ Blanks rest []

/-- Characters that need no escape stand for themselves. -/
theorem stringText_plain (cs : List Char) {rest : List Char}
    (h : ∀ c ∈ cs, c ≠ '\x22' ∧ c ≠ '\\' ∧ 0x20 ≤ c.toNat) :
    StringText (some (.ofList cs)) ('\x22' :: (cs ++ '\x22' :: rest)) rest := by
  have hpieces : PiecesText (cs.map .char) (cs ++ '\x22' :: rest) rest ∧
      Token.joinPieces? (cs.map .char) = some cs := by
    induction cs with
    | nil => exact ⟨.close, rfl⟩
    | cons c cs ih =>
      obtain ⟨⟨hquote, hslash, hcontrol⟩, hrest⟩ := List.forall_mem_cons.mp h
      obtain ⟨hpieces, hjoin⟩ := ih hrest
      refine ⟨.plain hquote hslash hcontrol hpieces, ?_⟩
      rw [List.map_cons, Token.joinPieces?, hjoin]
      rfl
  have htext := StringText.quoted hpieces.1
  rwa [hpieces.2] at htext

/-! ### Characters -/

section Characters

variable {c : Char} {cs digits rest : List Char}

/-- The blanks that are skipped are those of the grammar. -/
theorem isSpace_iff : Token.isSpace c = true ↔ c ∈ [' ', '\t', '\n', '\r'] := by
  simp [Token.isSpace, or_assoc]

/-- What follows a numeral does not go on with it. -/
def Follows (rest : List Char) : Prop :=
  ∀ c ∈ rest.head?, c.isDigit = false ∧ c ∉ ['.', 'e', 'E']

/-- A numeral does not go on with blanks, so they may stand in between. -/
theorem Follows.of_blanks (hrest : Follows rest) (h : Blanks cs rest) : Follows cs := by
  cases h with
  | none => exact hrest
  | @more c cs _ hc =>
    have hblank : ∀ c ∈ [' ', '\t', '\n', '\r'], c.isDigit = false ∧ c ∉ ['.', 'e', 'E'] := by
      simp
    rintro _ ⟨⟩
    exact hblank c hc

theorem follows_nil : Follows [] := by
  rintro c ⟨⟩

/-- Commas and closing brackets end a numeral. -/
theorem follows_cons (hc : c ∈ [',', ']', '\x7d']) : Follows (c :: rest) := by
  have hstop : ∀ c ∈ [',', ']', '\x7d'], c.isDigit = false ∧ c ∉ ['.', 'e', 'E'] := by simp
  rintro _ ⟨⟩
  exact hstop c hc

/-! ### Numerals -/

/-- Digits are taken as far as they go. -/
theorem span_digits (h : ∀ c ∈ digits, c.isDigit = true)
    (hrest : ∀ c ∈ rest.head?, c.isDigit = false) :
    (digits ++ rest).takeWhile Char.isDigit = digits ∧
      (digits ++ rest).dropWhile Char.isDigit = rest := by
  rw [List.takeWhile_append_of_pos h, List.dropWhile_append_of_pos h]
  cases rest with
  | nil => simp
  | cons c rest =>
    have hc : c.isDigit = false := hrest c rfl
    simp [hc]

theorem isEmpty_eq_false {cs : List Char} (h : cs ≠ []) : cs.isEmpty = false := by
  cases cs with
  | nil => exact absurd rfl h
  | cons => rfl

/-- A fraction is scanned up to what follows it. -/
theorem scanFraction_text {fraction : List Char} (h : FractionText fraction cs)
    (hrest : ∀ c ∈ rest.head?, c.isDigit = false ∧ c ≠ '.') :
    Numeral.scanFraction (cs ++ rest) = some (fraction, rest) := by
  cases h with
  | none =>
    cases rest with
    | nil => rfl
    | cons c rest =>
      have hpoint : c ≠ '.' := (hrest c rfl).2
      rw [List.nil_append, Numeral.scanFraction]
      rintro _ ⟨⟩
      exact hpoint rfl
  | point hne h =>
    obtain ⟨htake, hdrop⟩ := span_digits h fun c hc => (hrest c hc).1
    rw [List.cons_append, Numeral.scanFraction, htake, hdrop, isEmpty_eq_false hne]
    rfl

/-- The sign of an exponent is scanned up to its digits. -/
theorem scanSign_text {negative : Bool} {sign : List Char} (h : (negative, sign) ∈ signs)
    (hne : digits ≠ []) (hdigits : ∀ c ∈ digits, c.isDigit = true) :
    Numeral.scanSign (sign ++ (digits ++ rest)) = (negative, digits ++ rest) := by
  simp only [signs, List.mem_cons, Prod.mk.injEq, List.not_mem_nil, or_false] at h
  obtain ⟨rfl, rfl⟩ | ⟨rfl, rfl⟩ | ⟨rfl, rfl⟩ := h
  · obtain ⟨c, digits, rfl⟩ := List.exists_cons_of_ne_nil hne
    have hc := hdigits c List.mem_cons_self
    rw [List.nil_append, List.cons_append, Numeral.scanSign]
    · rintro _ ⟨⟩
      cases hc
    · rintro _ ⟨⟩
      cases hc
  · rfl
  · rfl

/-- An exponent is scanned up to what follows it. -/
theorem scanExponent_text {exponent : Option (Bool × List Char)} (h : ExponentText exponent cs)
    (hrest : Follows rest) : Numeral.scanExponent (cs ++ rest) = some (exponent, rest) := by
  cases h with
  | none =>
    cases rest with
    | nil => rfl
    | cons c rest =>
      have hmark := (hrest c rfl).2
      rw [List.nil_append, Numeral.scanExponent, if_neg]
      rintro (rfl | rfl) <;> exact hmark (by decide)
  | @mark mark negative sign digits hmark hsign hne h =>
    have hmark : mark = 'e' ∨ mark = 'E' := by simpa using hmark
    obtain ⟨htake, hdrop⟩ := span_digits h fun c hc => (hrest c hc).1
    rw [List.cons_append, List.append_assoc, Numeral.scanExponent, if_pos hmark,
      scanSign_text hsign hne h]
    simp only [htake, hdrop, isEmpty_eq_false hne, Bool.false_eq_true, if_false]

/-- What may follow a part of a numeral follows what is in front of it. -/
theorem ExponentText.head_ne {exponent : Option (Bool × List Char)} (h : ExponentText exponent cs)
    (hrest : Follows rest) : ∀ c ∈ (cs ++ rest).head?, c.isDigit = false ∧ c ≠ '.' := by
  cases h with
  | none =>
    intro c hc
    obtain ⟨hdigit, hmark⟩ := hrest c hc
    exact ⟨hdigit, fun heq => hmark (by simp [heq])⟩
  | mark hmark =>
    have hmarks : ∀ c ∈ ['e', 'E'], c.isDigit = false ∧ c ≠ '.' := by simp
    rintro _ ⟨⟩
    exact hmarks _ hmark

/-- A fraction begins with a point, so the digits in front of it end there. -/
theorem FractionText.head_ne {fraction ds : List Char} (h : FractionText fraction ds)
    (hrest : ∀ c ∈ rest.head?, c.isDigit = false ∧ c ≠ '.') :
    ∀ c ∈ (ds ++ rest).head?, c.isDigit = false := by
  cases h with
  | none => exact fun c hc => (hrest c hc).1
  | point =>
    rintro _ ⟨⟩
    decide

/-- A numeral after its sign is scanned as the grammar has it. -/
theorem scanUnsigned_text {negative : Bool} {numeral : Numeral}
    (h : UnsignedText negative numeral cs) (hrest : Follows rest) :
    Numeral.scanUnsigned negative (cs ++ rest) = some (numeral, rest) := by
  obtain ⟨hne, hwhole, hzero, hfraction, hexponent⟩ := h
  have hend := hexponent.head_ne hrest
  obtain ⟨htake, hdrop⟩ := span_digits hwhole (hfraction.head_ne hend)
  rw [List.append_assoc, List.append_assoc]
  unfold Numeral.scanUnsigned
  simp only [htake, hdrop]
  rw [if_neg, scanFraction_text hfraction hend]
  · change (Numeral.scanExponent _).bind _ = _
    rw [scanExponent_text hexponent hrest]
    rfl
  · rintro hfault
    rw [isEmpty_eq_false hne, Bool.false_or, Bool.and_eq_true, beq_iff_eq, decide_eq_true_eq]
      at hfault
    obtain ⟨hhead, hlength⟩ := hfault
    rw [hzero hhead] at hlength
    exact absurd hlength (by decide)

/-! ### Strings -/

/-- Every escape of the grammar is read as its character. -/
theorem escaped?_of_mem {letter : Char} (h : (letter, c) ∈ escapes) :
    letter ≠ 'u' ∧ Token.escaped? letter = some c := by
  have hall : ∀ pair ∈ escapes, pair.1 ≠ 'u' ∧ Token.escaped? pair.1 = some pair.2 := by decide
  exact hall _ h

/-- The pieces of a string are scanned in order, up to the closing quote. -/
theorem scanPieces_text {pieces : List Piece} (h : PiecesText pieces cs rest) :
    Token.scanPieces cs = some (pieces, rest) := by
  induction h with
  | close => rw [Token.scanPieces.eq_def]; rfl
  | plain hquote hslash hcontrol _ ih =>
    rw [Token.scanPieces.eq_def]
    simp only [if_neg hquote, if_neg hslash, if_neg (Nat.not_lt.mpr hcontrol), ih]
    rfl
  | escaped hletter _ ih =>
    obtain ⟨hne, hc⟩ := escaped?_of_mem hletter
    rw [Token.scanPieces.eq_def]
    simp only [if_neg (show '\\' ≠ '\x22' by decide), if_true, if_neg hne, hc, ih]
    rfl
  | code hcode _ ih =>
    rw [Token.scanPieces.eq_def]
    simp only [if_neg (show '\\' ≠ '\x22' by decide), if_true, hcode, ih]
    rfl

/-! ### Tokens -/

/-- Blanks are skipped. -/
theorem scan_of_blanks (h : Blanks cs rest) : Token.scan cs = Token.scan rest := by
  induction h with
  | none => rfl
  | more hc _ ih => rw [Token.scan, if_pos (isSpace_iff.mpr hc), ih]

/-- A token is taken from the front, if no blank stands there. -/
theorem scan_cons {token : Token} (hspace : Token.isSpace c = false)
    (h : Token.scanOne? c cs = some (token, rest)) :
    Token.scan (c :: cs) = token :: Token.scan rest := by
  rw [Token.scan, if_neg (by rw [hspace]; decide)]
  split
  · next hnone => rw [h] at hnone; cases hnone
  · next token' rest' hsome =>
    rw [h] at hsome
    cases hsome
    rfl

/-- A symbol is a token by itself. -/
theorem scan_symbol {token : Token} (h : Token.symbol? c = some token) :
    Token.scan (c :: cs) = token :: Token.scan cs := by
  refine scan_cons ?_ (by rw [Token.scanOne?, h])
  cases hspace : Token.isSpace c with
  | false => rfl
  | true =>
    have hblank : ∀ c ∈ [' ', '\t', '\n', '\r'], Token.symbol? c = none := by
      simp [Token.symbol?]
    rw [hblank c (isSpace_iff.mp hspace)] at h
    cases h

/-- A string of the grammar is one token. -/
theorem scan_string {value : Option String} (h : StringText value cs rest) :
    Token.scan cs = .text value :: Token.scan rest := by
  obtain ⟨h⟩ := h
  refine scan_cons (by decide) ?_
  rw [Token.scanOne?]
  change Token.string? _ = _
  rw [Token.string?, scanPieces_text h]
  rfl

theorem numeral?_text {negative : Bool} {numeral : Numeral}
    (h : UnsignedText negative numeral cs) (hrest : Follows rest) :
    Token.numeral? negative (cs ++ rest) = some (.number numeral.number?, rest) := by
  rw [Token.numeral?, scanUnsigned_text h hrest]
  rfl

/-- So is a numeral, whatever may follow one. -/
theorem scan_number {numeral : Numeral} (h : NumeralText numeral cs) (hrest : Follows rest) :
    Token.scan (cs ++ rest) = .number numeral.number? :: Token.scan rest := by
  cases h with
  | minus h =>
    refine scan_cons (by decide) ?_
    exact numeral?_text h hrest
  | plain h =>
    have hscan := numeral?_text h hrest
    obtain ⟨hne, hwhole, -, -, -⟩ := h
    obtain ⟨c, whole, rfl⟩ := List.exists_cons_of_ne_nil hne
    have hdigit := hwhole c List.mem_cons_self
    -- a digit is none of the characters that other tokens begin with
    have hother : ∀ d : Char, d.isDigit = false → c ≠ d := by
      rintro d hd rfl
      rw [hd] at hdigit
      cases hdigit
    have hsymbol : Token.symbol? c = none := by
      rw [Token.symbol?, if_neg (hother '[' rfl), if_neg (hother ']' rfl),
        if_neg (hother '\x7b' rfl), if_neg (hother '\x7d' rfl), if_neg (hother ',' rfl),
        if_neg (hother ':' rfl)]
    refine scan_cons ?_ ?_
    · simp [Token.isSpace, hother ' ' rfl, hother '\t' rfl, hother '\n' rfl, hother '\r' rfl]
    · rw [Token.scanOne?, hsymbol]
      dsimp only
      rw [if_neg (hother '\x22' rfl), if_neg (hother '-' rfl), if_pos hdigit]
      exact hscan

/-- An opening bracket is a token, and so are the other marks and the three words below. -/
theorem scan_openArray : Token.scan ('[' :: cs) = .openArray :: Token.scan cs := scan_symbol rfl

theorem scan_closeArray : Token.scan (']' :: cs) = .closeArray :: Token.scan cs := scan_symbol rfl

theorem scan_openObject : Token.scan ('\x7b' :: cs) = .openObject :: Token.scan cs :=
  scan_symbol rfl

theorem scan_closeObject : Token.scan ('\x7d' :: cs) = .closeObject :: Token.scan cs :=
  scan_symbol rfl

theorem scan_comma : Token.scan (',' :: cs) = .comma :: Token.scan cs := scan_symbol rfl

theorem scan_colon : Token.scan (':' :: cs) = .colon :: Token.scan cs := scan_symbol rfl

theorem scan_null : Token.scan ('n' :: 'u' :: 'l' :: 'l' :: rest) = .null :: Token.scan rest :=
  scan_cons (by decide) rfl

theorem scan_true :
    Token.scan ('t' :: 'r' :: 'u' :: 'e' :: rest) = .bool true :: Token.scan rest :=
  scan_cons (by decide) rfl

theorem scan_false :
    Token.scan ('f' :: 'a' :: 'l' :: 's' :: 'e' :: rest) = .bool false :: Token.scan rest :=
  scan_cons (by decide) rfl

end Characters

/-! ### Values -/

namespace Node

variable {stack : List Frame} {expect : Expect} {token : Token} {tokens : List Token}
  {node : Node} {name : Option String} {done : List Node}
  {doneMembers : List (Option String × Node)} {cs rest : List Char}

/-- What the machine makes of the tokens that are left. -/
def Progress.next (tokens : List Token) : Progress → Document
  | .reading stack expect => run tokens stack expect
  | .finished root => ⟨root, tokens.isEmpty⟩
  | .failed => ⟨.broken, false⟩

/-- A token that is taken leaves the rest to the machine. -/
theorem run_cons (h : step stack expect token ≠ .failed) :
    run (token :: tokens) stack expect = (step stack expect token).next tokens := by
  rw [run]
  cases hstep : step stack expect token with
  | reading => rfl
  | finished => rfl
  | failed => exact absurd hstep h

/-- A value may stand where the machine is. -/
def Ready (stack : List Frame) : Prop := ∀ node, Progress.ofValue node stack ≠ .failed

theorem ready_nil : Ready [] := fun _ h => by cases h

theorem ready_items : Ready (.items done :: stack) := fun _ h => by cases h

theorem ready_members : Ready (.members doneMembers (some name) :: stack) := fun _ h => by cases h

/-- A token that begins a value. -/
theorem run_start (hexpect : expect = .value ∨ expect = .valueOrEnd) (htoken : token ≠ .closeArray)
    (h : Progress.ofStart token stack ≠ .failed) :
    run (token :: tokens) stack expect = (Progress.ofStart token stack).next tokens := by
  have hstep : step stack expect token = Progress.ofStart token stack := by
    obtain rfl | rfl := hexpect
    · rfl
    · exact if_neg htoken
  rw [run_cons (hstep ▸ h), hstep]

/-- The bracket that closes an array. -/
theorem run_closeArray (hready : Ready stack)
    (hexpect : expect = .valueOrEnd ∨ expect = .separator) :
    run (.closeArray :: tokens) (.items done :: stack) expect =
      (Progress.ofValue (.array done.reverse true) stack).next tokens := by
  have hstep : step (.items done :: stack) expect .closeArray =
      Progress.ofValue (.array done.reverse true) stack := by
    obtain rfl | rfl := hexpect
    · rfl
    · rfl
  rw [run_cons (hstep ▸ hready _), hstep]

/-- The bracket that closes an object. -/
theorem run_closeObject (hready : Ready stack)
    (hexpect : expect = .nameOrEnd ∨ expect = .separator) :
    run (.closeObject :: tokens) (.members doneMembers none :: stack) expect =
      (Progress.ofValue (.object doneMembers.reverse true) stack).next tokens := by
  have hstep : step (.members doneMembers none :: stack) expect .closeObject =
      Progress.ofValue (.object doneMembers.reverse true) stack := by
    obtain rfl | rfl := hexpect
    · rfl
    · rfl
  rw [run_cons (hstep ▸ hready _), hstep]

/-- The name of a member and the colon after it. -/
theorem run_name (hexpect : expect = .name ∨ expect = .nameOrEnd) :
    run (.text name :: .colon :: tokens) (.members doneMembers none :: stack) expect =
      run tokens (.members doneMembers (some name) :: stack) .value := by
  obtain rfl | rfl := hexpect
  · rfl
  · rfl

mutual

/-- A text of a value is read as that value. -/
theorem run_value {node : Node} {cs rest : List Char} {stack : List Frame} {expect : Expect} :
    ValueText node cs rest → Follows rest → Ready stack →
      (expect = .value ∨ expect = .valueOrEnd) →
      run (Token.scan cs) stack expect = (Progress.ofValue node stack).next (Token.scan rest)
  | .null, _, hready, hexpect => by
    rw [scan_null]
    exact run_start hexpect (by decide) (hready _)
  | .true, _, hready, hexpect => by
    rw [scan_true]
    exact run_start hexpect (by decide) (hready _)
  | .false, _, hready, hexpect => by
    rw [scan_false]
    exact run_start hexpect (by decide) (hready _)
  | .number h, hrest, hready, hexpect => by
    rw [scan_number h hrest]
    exact run_start hexpect (by rintro ⟨⟩) (hready _)
  | .text h, _, hready, hexpect => by
    rw [scan_string h]
    exact run_start hexpect (by rintro ⟨⟩) (hready _)
  | .emptyArray h, _, hready, hexpect => by
    rw [scan_openArray, run_start hexpect (by decide) (by rintro ⟨⟩), scan_of_blanks h,
      scan_closeArray]
    exact run_closeArray hready (.inl rfl)
  | .array h, _, hready, hexpect => by
    rw [scan_openArray, run_start hexpect (by decide) (by rintro ⟨⟩)]
    exact run_items h hready (.inr rfl)
  | .emptyObject h, _, hready, hexpect => by
    rw [scan_openObject, run_start hexpect (by decide) (by rintro ⟨⟩), scan_of_blanks h,
      scan_closeObject]
    exact run_closeObject hready (.inl rfl)
  | .object h, _, hready, hexpect => by
    rw [scan_openObject, run_start hexpect (by decide) (by rintro ⟨⟩)]
    exact run_members h hready (.inr rfl)

/-- The items of an array are read one after the other, and then the array is a value. -/
theorem run_items {items done : List Node} {cs rest : List Char} {stack : List Frame}
    {expect : Expect} : ItemsText items cs rest → Ready stack →
      (expect = .value ∨ expect = .valueOrEnd) →
      run (Token.scan cs) (.items done :: stack) expect =
        (Progress.ofValue (.array (done.reverse ++ items) true) stack).next (Token.scan rest)
  | .last hbefore h hafter, hready, hexpect => by
    rw [scan_of_blanks hbefore,
      run_value h ((follows_cons (by decide)).of_blanks hafter) ready_items hexpect,
      scan_of_blanks hafter, scan_closeArray]
    refine (run_closeArray hready (.inr rfl)).trans ?_
    rw [List.reverse_cons]
  | .more hbefore h hafter hmore, hready, hexpect => by
    rw [scan_of_blanks hbefore,
      run_value h ((follows_cons (by decide)).of_blanks hafter) ready_items hexpect,
      scan_of_blanks hafter, scan_comma]
    refine (run_items hmore hready (.inl rfl)).trans ?_
    rw [List.reverse_cons, List.append_assoc, List.singleton_append]

/-- A member is read up to what separates it from the next. -/
theorem run_member {member : Option String × Node} {doneMembers : List (Option String × Node)}
    {cs rest : List Char} {stack : List Frame} {expect : Expect} :
    MemberText member cs rest → Follows rest → (expect = .name ∨ expect = .nameOrEnd) →
      run (Token.scan cs) (.members doneMembers none :: stack) expect =
        run (Token.scan rest) (.members (member :: doneMembers) none :: stack) .separator
  | .intro hbefore hname hcolon hblanks h hafter, hrest, hexpect => by
    rw [scan_of_blanks hbefore, scan_string hname, scan_of_blanks hcolon, scan_colon,
      run_name hexpect, scan_of_blanks hblanks,
      run_value h (hrest.of_blanks hafter) ready_members (.inl rfl), scan_of_blanks hafter]
    rfl

/-- The members of an object are read one after the other, and then the object is a value. -/
theorem run_members {members doneMembers : List (Option String × Node)} {cs rest : List Char}
    {stack : List Frame} {expect : Expect} : MembersText members cs rest → Ready stack →
      (expect = .name ∨ expect = .nameOrEnd) →
      run (Token.scan cs) (.members doneMembers none :: stack) expect =
        (Progress.ofValue (.object (doneMembers.reverse ++ members) true) stack).next
          (Token.scan rest)
  | .last h, hready, hexpect => by
    rw [run_member h (follows_cons (by decide)) hexpect, scan_closeObject,
      run_closeObject hready (.inr rfl), List.reverse_cons]
  | .more h hmore, hready, hexpect => by
    rw [run_member h (follows_cons (by decide)) hexpect, scan_comma]
    refine (run_members hmore hready (.inl rfl)).trans ?_
    rw [List.reverse_cons, List.append_assoc, List.singleton_append]

end

end Node

/-- **Texts are read.** A text of a value is read as that value, and nothing follows it. -/
theorem ofText_of_isTextOf {text : String} {node : Node} (h : IsTextOf text node) :
    Document.ofText text = ⟨node, true⟩ := by
  obtain ⟨cs, rest, hbefore, hvalue, hafter⟩ := h
  rw [Document.ofText, scan_of_blanks hbefore,
    Node.run_value hvalue (follows_nil.of_blanks hafter) Node.ready_nil (.inl rfl),
    scan_of_blanks hafter, Token.scan]
  rfl

mutual

/-- What has a text is well-formed. -/
theorem ValueText.isSound {node : Node} {cs rest : List Char} :
    ValueText node cs rest → node.isSound = true
  | .null | .true | .false | .number _ | .text _ | .emptyArray _ | .emptyObject _ => rfl
  | .array h => by
    rw [Node.isSound, h.areSound]
    rfl
  | .object h => by
    rw [Node.isSound, h.areSound]
    rfl

theorem ItemsText.areSound {items : List Node} {cs rest : List Char} :
    ItemsText items cs rest → Node.areSound items = true
  | .last _ h _ => by
    rw [Node.areSound, h.isSound]
    rfl
  | .more _ h _ hmore => by
    rw [Node.areSound, h.isSound, hmore.areSound]
    rfl

theorem MemberText.isSound {member : Option String × Node} {cs rest : List Char} :
    MemberText member cs rest → member.2.isSound = true
  | .intro _ _ _ _ h _ => h.isSound

/-- Values of the grammar are well-formed, and so are those inside them. -/
theorem MembersText.areSound {members : List (Option String × Node)} {cs rest : List Char} :
    MembersText members cs rest → Node.areSoundMembers members = true
  | .last h => by
    rw [Node.areSoundMembers, h.isSound]
    rfl
  | .more h hmore => by
    rw [Node.areSoundMembers, h.isSound, hmore.areSound]
    rfl

end

end RiskBoard.Json
