import RiskBoard.Json.Token

/-!
# JSON as it was read

A text is read into a tree that keeps what is wrong with it in place: an array or object that was
not closed says so, and a value that could not be read is `broken`. A reader that walks the tree
from the left therefore meets the faults of a text, its own complaints included, in the order of
the text, and the first one wins.

The tree is built by a machine with one stack, so the nesting of a text costs no recursion.
Members of an object stay in the order of the text and may repeat.
-/

namespace RiskBoard.Json

/-- A value as read from a text. -/
inductive Node where
  | broken
  | null
  | bool (b : Bool)
  /-- A numeral; no value when it is beyond the range. -/
  | number (value : Option Number)
  /-- A string; no value when it holds half a surrogate pair. -/
  | text (value : Option String)
  | array (items : List Node) (closed : Bool)
  /-- The members, each with its name, which has no value when it holds half a surrogate pair. -/
  | object (members : List (Option String × Node)) (closed : Bool)
deriving Inhabited

/-- A text as one value. -/
structure Document where
  root : Node
  /-- Whether nothing follows the value. -/
  ended : Bool

namespace Node

/-! ### The machine -/

/-- An array or object that is being read, what it holds so far in reverse. -/
inductive Frame where
  | items (done : List Node)
  | members (done : List (Option String × Node)) (pending : Option (Option String))

/-- What may come next. -/
inductive Expect where
  | value
  | valueOrEnd
  | name
  | nameOrEnd
  | colon
  | separator
deriving DecidableEq

/-- Where the machine stands after a token. -/
inductive Progress where
  | reading (stack : List Frame) (expect : Expect)
  | finished (root : Node)
  | failed

/-- Puts a whole value where it belongs. -/
def Progress.ofValue (node : Node) : List Frame → Progress
  | [] => .finished node
  | .items done :: stack => .reading (.items (node :: done) :: stack) .separator
  | .members done (some name) :: stack =>
    .reading (.members ((name, node) :: done) none :: stack) .separator
  | .members _ none :: _ => .failed

/-- Closes the innermost array or object with the token that fits it. -/
def Progress.ofClose (token : Token) : List Frame → Progress
  | .items done :: stack =>
    if token = .closeArray then .ofValue (.array done.reverse true) stack else .failed
  | .members done none :: stack =>
    if token = .closeObject then .ofValue (.object done.reverse true) stack else .failed
  | _ => .failed

/-- Takes a token where a value may begin. -/
def Progress.ofStart (token : Token) (stack : List Frame) : Progress :=
  match token with
  | .null => .ofValue .null stack
  | .bool b => .ofValue (.bool b) stack
  | .number n => .ofValue (.number n) stack
  | .text s => .ofValue (.text s) stack
  | .openArray => .reading (.items [] :: stack) .valueOrEnd
  | .openObject => .reading (.members [] none :: stack) .nameOrEnd
  | _ => .failed

/-- Takes a token where the name of a member may stand. -/
def Progress.ofName (token : Token) (stack : List Frame) : Progress :=
  match token, stack with
  | .text name, .members done none :: stack => .reading (.members done (some name) :: stack) .colon
  | _, _ => .failed

/-- Takes a token after a whole value. -/
def Progress.ofSeparator (token : Token) (stack : List Frame) : Progress :=
  match token, stack with
  | .comma, .items _ :: _ => .reading stack .value
  | .comma, .members _ none :: _ => .reading stack .name
  | _, _ => .ofClose token stack

/-- Takes one token. -/
def step (stack : List Frame) (expect : Expect) (token : Token) : Progress :=
  match expect with
  | .value => .ofStart token stack
  | .valueOrEnd => if token = .closeArray then .ofClose token stack else .ofStart token stack
  | .name => .ofName token stack
  | .nameOrEnd => if token = .closeObject then .ofClose token stack else .ofName token stack
  | .colon => if token = .colon then .reading stack .value else .failed
  | .separator => .ofSeparator token stack

/-- The tree of what was read when reading cannot go on: everything open stays unclosed, and a
member whose name was read has a broken value. -/
def abandon : Node → List Frame → Node
  | node, [] => node
  | node, .items done :: stack => abandon (.array (done.reverse ++ [node]) false) stack
  | node, .members done (some name) :: stack =>
    abandon (.object (done.reverse ++ [(name, node)]) false) stack
  | _, .members done none :: stack => abandon (.object done.reverse false) stack

/-- Reads one value from the tokens of a text. -/
def run : List Token → List Frame → Expect → Document
  | [], stack, _ => ⟨abandon .broken stack, false⟩
  | token :: rest, stack, expect =>
    match step stack expect token with
    | .reading stack expect => run rest stack expect
    | .finished root => ⟨root, rest.isEmpty⟩
    | .failed => ⟨abandon .broken stack, false⟩

end Node

/-- A text read as one value. -/
def Document.ofText (text : String) : Document := Node.run (Token.scan text.toList) [] .value

/-! ### Values that are passed over and values that are kept -/

mutual

/-- Whether a value is well-formed, whatever its numerals and strings stand for. -/
def Node.isSound : Node → Bool
  | .broken => false
  | .array items closed => Node.areSound items && closed
  | .object members closed => Node.areSoundMembers members && closed
  | _ => true

def Node.areSound : List Node → Bool
  | [] => true
  | node :: rest => node.isSound && Node.areSound rest

def Node.areSoundMembers : List (Option String × Node) → Bool
  | [] => true
  | (_, node) :: rest => node.isSound && Node.areSoundMembers rest

end

/-- Adds a member to those sorted by name; a member of that name is replaced. -/
def Node.putMember (name : String) (node : Node) :
    List (Option String × Node) → List (Option String × Node)
  | [] => [(some name, node)]
  | (some other, old) :: rest =>
    if other < name then (some other, old) :: putMember name node rest
    else if name < other then (some name, node) :: (some other, old) :: rest
    else (some name, node) :: rest
  | (none, old) :: rest => (none, old) :: putMember name node rest

mutual

/-- A value to be kept: every numeral and string has its value, arrays and objects nest no deeper
than `depth`, and the members of an object are sorted by name, the last of a name counting. -/
def Node.keep? (depth : Nat) : Node → Option Node
  | .broken => none
  | .null => some .null
  | .bool b => some (.bool b)
  | .number n => n.map fun n => .number (some n)
  | .text s => s.map fun s => .text (some s)
  | .array items closed =>
    if depth = 0 then none
    else do
      let kept ← Node.keepItems? (depth - 1) items
      if closed then some (.array kept true) else none
  | .object members closed =>
    if depth = 0 then none
    else do
      let kept ← Node.keepMembers? (depth - 1) members []
      if closed then some (.object kept true) else none

def Node.keepItems? (depth : Nat) : List Node → Option (List Node)
  | [] => some []
  | node :: rest => do
    let kept ← node.keep? depth
    pure (kept :: (← Node.keepItems? depth rest))

def Node.keepMembers? (depth : Nat) :
    List (Option String × Node) → List (Option String × Node) →
      Option (List (Option String × Node))
  | [], kept => some kept
  | (none, _) :: _, _ => none
  | (some name, node) :: rest, kept => do
    Node.keepMembers? depth rest (Node.putMember name (← node.keep? depth) kept)

end

end RiskBoard.Json
