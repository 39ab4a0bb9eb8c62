import RiskBoard.Toml.Scalar

/-!
# TOML documents

A document is read line by line into its root table: a header opens a table or adds one to an
array of tables, and every other line sets a key of the table opened last. A document is read as a
whole or not at all.
-/

namespace RiskBoard.Toml

/-- How deep arrays and inline tables may nest, and how many parts a key may have. -/
def maxDepth : Nat := 79

namespace Reader

/-- The items of an array after its opening bracket, each read by `item`. A comma may follow the
last. -/
def arrayItems (item : Scanner Value) : Nat → Scanner (List Value)
  | 0, _ => none
  | fuel + 1, cs =>
    match Scan.skipLines (cs.length + 1) cs with
    | ']' :: rest => some ([], rest)
    | cs => do
      let (v, rest) ← item cs
      match Scan.skipLines (rest.length + 1) rest with
      | ',' :: rest => do
        let (vs, rest) ← arrayItems item fuel rest
        pure (v :: vs, rest)
      | ']' :: rest => pure ([v], rest)
      | _ => none

/-- A key, an equals sign and a value read by `item`. -/
def assignment? (item : Scanner Value) : Scanner (List String × String × Value) := fun cs => do
  let (parts, rest) ← Scan.key? maxDepth cs
  let key ← parts.getLast?
  let rest ← Scalar.after? '=' (Scan.skipBlanks rest)
  let (v, rest) ← item (Scan.skipBlanks rest)
  pure ((parts.dropLast, key, v), rest)

/-- The entries of an inline table after its opening brace, added to those before. No comma follows
the last, and a line may end only inside a value. -/
def inlineEntries (item : Scanner Value) : Nat → Table → Scanner Table
  | 0, _, _ => none
  | fuel + 1, t, cs => do
    let ((path, key, v), rest) ← assignment? item cs
    let t ← t.assign path key v
    match Scan.skipBlanks rest with
    | ',' :: rest => inlineEntries item fuel t rest
    | '\x7d' :: rest => pure (t, rest)
    | _ => none

/-- A value whose arrays and inline tables nest at most `depth` deep. -/
def value? : Nat → Scanner Value
  | depth, '[' :: rest =>
    match depth with
    | 0 => none
    | depth + 1 =>
      (arrayItems (value? depth) (rest.length + 1) rest).map fun (vs, rest) => (.array vs, rest)
  | depth, '\x7b' :: rest =>
    match depth with
    | 0 => none
    | depth + 1 =>
      match Scan.skipBlanks rest with
      | '\x7d' :: rest => some (.inline .explicit, rest)
      | rest =>
        (inlineEntries (value? depth) (rest.length + 1) .explicit rest).map fun (t, rest) =>
          (.inline t, rest)
  | _, '\x22' :: rest =>
    (Scan.string? ('\x22' :: rest)).map fun (s, rest) => (.text (.ofList s), rest)
  | _, '\x27' :: rest =>
    (Scan.string? ('\x27' :: rest)).map fun (s, rest) => (.text (.ofList s), rest)
  | _, cs => Scalar.scalar? cs

/-- The root table and the header whose table lines are added to. -/
structure State where
  root : Table
  header : List String

/-- Sets a key of the table opened last. -/
def State.assign (state : State) (path : List String) (key : String) (v : Value) : Option State :=
  (state.root.descend false state.header fun t => t.assign path key v).map fun root =>
    { state with root }

/-- A header after its opening brackets, with the brackets that close it, up to the next line. -/
def header? (close : List Char) (cs : List Char) : Option (List String × List Char) := do
  let (parts, rest) ← Scan.key? maxDepth cs
  if close.isPrefixOf rest then
    pure (parts, ← Scan.endOfLine? (rest.drop close.length))
  else none

/-- Opens the table of a header. -/
def State.open? (state : State) (element : Bool) (parts : List String) : Option State := do
  let key ← parts.getLast?
  let root ← if element then state.root.openElement parts.dropLast key
    else state.root.openTable parts.dropLast key
  pure ⟨root, parts⟩

/-- Reads one line: nothing, a header, or a key with its value. -/
def line? (state : State) (cs : List Char) : Option (State × List Char) :=
  match Scan.skipBlanks cs with
  | '[' :: '[' :: rest => do
    let (parts, rest) ← header? [']', ']'] rest
    pure (← state.open? true parts, rest)
  | '[' :: rest => do
    let (parts, rest) ← header? [']'] rest
    pure (← state.open? false parts, rest)
  | rest =>
    match Scan.endOfLine? rest with
    | some rest => some (state, rest)
    | none => do
      let ((path, key, v), rest) ← assignment? (value? maxDepth) rest
      pure (← state.assign path key v, ← Scan.endOfLine? rest)

/-- Reads at most `fuel` lines, which have to reach the end of the text. -/
def lines? : Nat → State → List Char → Option State
  | 0, _, _ => none
  | _ + 1, state, [] => some state
  | fuel + 1, state, cs => do
    let (state, rest) ← line? state cs
    lines? fuel state rest

end Reader

/-- The text after a byte order mark at its front. -/
def afterMark : List Char → List Char
  | '\ufeff' :: rest => rest
  | cs => cs

/-- The root table of a document. Every line takes at least one character. -/
def Table.ofText? (text : String) : Option Table :=
  let cs := afterMark text.toList
  (Reader.lines? (cs.length + 1) ⟨.explicit, []⟩ cs).map (·.root)

end RiskBoard.Toml
