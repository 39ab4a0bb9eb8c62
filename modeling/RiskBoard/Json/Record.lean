import RiskBoard.Json.Fault

/-!
# Records read from JSON

A record is read from an object by the names of its fields, in whatever order they come, or from
an array that holds its fields in the order of declaration. Reading goes from left to right and
stops at the first fault: a field that occurs twice is noticed at its second name, a value of the
wrong type where it begins, and an absent field once the object has ended.

Members with names the record does not know are passed over; they only have to be well-formed.
-/

namespace RiskBoard.Json

/-- Whether a value is read from a text or from a value that was kept before. The two differ in
what is said about an array with more items than the record has fields. -/
inductive Source where
  | text
  | kept
deriving DecidableEq

/-- Reads a value of one type. -/
abbrev Reader (α : Type) := Source → Node → Except Fault α

/-- The fault of a value that is not of the type asked for. A scalar that has no value is
malformed before it is of the wrong type. -/
def mismatch {α : Type} (node : Node) (expected : String) : Except Fault α :=
  match node with
  | .null => .error (.invalidType .null expected)
  | .bool b => .error (.invalidType (.bool b) expected)
  | .number (some n) => .error (.invalidType (.number n) expected)
  | .text (some s) => .error (.invalidType (.text s) expected)
  | .array .. => .error (.invalidType .array expected)
  | .object .. => .error (.invalidType .object expected)
  | .broken | .number none | .text none => .error .malformed

/-- Reads a number as a double. -/
def real : Reader Binary64
  | _, .number (some n) => .ok n.toReal
  | _, node => mismatch node "f64"

/-- Reads a natural number of 64 bits. A double is of the wrong type even when it is whole. -/
def natural : Reader Nat
  | _, .number (some (.natural n)) => .ok n
  | _, .number (some (.negative n)) => .error (.negativeInteger n "u64")
  | _, node => mismatch node "u64"

/-- Reads a string. -/
def text : Reader String
  | _, .text (some s) => .ok s
  | _, node => mismatch node "a string"

/-- Reads a value where null means that there is none. -/
def nullable {α : Type} (read : Reader α) : Reader (Option α)
  | _, .null => .ok none
  | source, node => (read source node).map some

/-- Keeps a value as it is, nested no deeper than `depth`. -/
def keep (depth : Nat) : Reader Node
  | _, node =>
    match node.keep? depth with
    | some kept => .ok kept
    | none => .error .malformed

/-- Reads the items of an array. -/
def items {α : Type} (read : Reader α) (source : Source) : List Node → Except Fault (List α)
  | [] => .ok []
  | node :: rest => do
    let item ← read source node
    pure (item :: (← items read source rest))

/-- Reads an array of values of one type. -/
def list {α : Type} (read : Reader α) : Reader (List α)
  | source, .array nodes closed => do
    let values ← items read source nodes
    if closed then pure values else throw .malformed
  | _, node => mismatch node "a sequence"

/-- When a field may be absent. -/
inductive Presence where
  /-- Never. -/
  | required
  /-- From an object. -/
  | optional
  /-- From an object, and from the end of an array. -/
  | defaulted
deriving DecidableEq

/-- A field of a record that is read step by step. -/
structure RecordField (σ : Type) where
  name : String
  presence : Presence
  /-- Reads the field's value into the record. -/
  read : Source → Node → σ → Except Fault σ

/-- A field from a reader of its value and a way to set it. -/
def RecordField.make {σ α : Type} (name : String) (presence : Presence) (read : Reader α)
    (set : α → σ → σ) : RecordField σ :=
  ⟨name, presence, fun source node record => (read source node).map (set · record)⟩

/-- The shape of a record: its name and its fields in the order of declaration. -/
structure Shape (σ : Type) where
  name : String
  fields : List (RecordField σ)

namespace Shape

variable {σ : Type}

/-- The first required field that was not seen. -/
def missing? (shape : Shape σ) (seen : List String) : Option String :=
  (shape.fields.find? fun f => f.presence = .required && !seen.contains f.name).map (·.name)

/-- Reads the members of an object into a record, knowing which fields were seen. -/
def readMembers (shape : Shape σ) (source : Source) (closed : Bool) :
    List (Option String × Node) → List String → σ → Except Fault σ
  | [], seen, record =>
    if closed then
      match shape.missing? seen with
      | some name => .error (.missingField name)
      | none => .ok record
    else .error .malformed
  | (none, _) :: _, _, _ => .error .malformed
  | (some name, node) :: rest, seen, record =>
    match shape.fields.find? (·.name = name) with
    | none =>
      if node.isSound then readMembers shape source closed rest seen record else .error .malformed
    | some field =>
      if seen.contains name then .error (.duplicateField name)
      else do
        let record ← field.read source node record
        readMembers shape source closed rest (name :: seen) record

/-- Reads the items of an array into the fields that are left. -/
def readItems (shape : Shape σ) (source : Source) (length : Nat) (closed : Bool) :
    List (RecordField σ) → List Node → σ → Except Fault σ
  | [], [], record => if closed then .ok record else .error .malformed
  | [], _ :: _, _ =>
    match source with
    | .text => .error .malformed
    | .kept => .error (.invalidLength length .fewer)
  | field :: fields, [], record =>
    if !closed then .error .malformed
    else if field.presence = .defaulted then readItems shape source length closed fields [] record
    else
      let index := shape.fields.length - (fields.length + 1)
      .error (.invalidLength index (.record shape.name shape.fields.length))
  | field :: fields, node :: rest, record => do
    let record ← field.read source node record
    readItems shape source length closed fields rest record

/-- Reads a record, beginning with the values that absent fields have. -/
def read (shape : Shape σ) (blank : σ) : Reader σ
  | source, .object members closed => shape.readMembers source closed members [] blank
  | source, .array nodes closed =>
    shape.readItems source nodes.length closed shape.fields nodes blank
  | _, node => mismatch node s!"struct {shape.name}"

end Shape

/-- Reads a whole text, after which nothing may follow. -/
def readText {α : Type} (read : Reader α) (text : String) : Except Fault α :=
  let document := Document.ofText text
  match read .text document.root with
  | .ok value => if document.ended then .ok value else .error .malformed
  | .error fault => .error fault

end RiskBoard.Json
