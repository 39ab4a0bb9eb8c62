import RiskBoard.Binary64.Basic

/-!
# TOML values and tables

A document is a table. Besides its entries a table remembers how it came to be, since that decides
what may still be added to it:

* a table with a header of its own, or written inline, is *explicit*;
* a table that exists only because a longer path goes through it is *implicit*, and a header may
  still make it explicit;
* a table made by a *dotted* key may be extended by dotted keys, but not by a header.

`Table.descend` walks a path and makes the tables that are missing on the way.
-/

namespace RiskBoard.Toml

mutual

/-- A value that stands after an equals sign. -/
inductive Value where
  | text (s : String)
  | integer (i : Int)
  | real (x : Binary64)
  | bool (b : Bool)
  /-- A date, a time, or both, as written. -/
  | moment (written : String)
  | array (items : List Value)
  | inline (table : Table)

/-- What a key stands for in a table. -/
inductive Item where
  | value (v : Value)
  | table (t : Table)
  /-- The tables of an array of tables, in order. -/
  | tables (ts : List Table)

inductive Table where
  | mk (implicit dotted : Bool) (entries : List (String × Item))

end

namespace Table

/-- A table with a header or in a list of its own, without entries yet. -/
def explicit : Table := .mk false false []

/-- A table that a path goes through. -/
def passage (dotted : Bool) : Table := .mk true dotted []

def isImplicit : Table → Bool
  | .mk implicit _ _ => implicit

def isDotted : Table → Bool
  | .mk _ dotted _ => dotted

def entries : Table → List (String × Item)
  | .mk _ _ entries => entries

/-- What a key stands for. -/
def get? (t : Table) (key : String) : Option Item :=
  (t.entries.find? fun entry => entry.1 = key).map (·.2)

/-- Puts an item in the place of a key's item, at the end when there is none. -/
def putEntry (key : String) (item : Item) : List (String × Item) → List (String × Item)
  | [] => [(key, item)]
  | (other, old) :: rest =>
    if other = key then (key, item) :: rest else (other, old) :: putEntry key item rest

def put (t : Table) (key : String) (item : Item) : Table :=
  .mk t.isImplicit t.isDotted (putEntry key item t.entries)

/-- The same entries in a table that has a header. -/
def withHeader (t : Table) : Table := .mk false t.isDotted t.entries

/-- Changes the table at the end of a path, of an array of tables the last. A dotted path makes
dotted tables and may not go through an explicit one; no path goes through a value. -/
def descend (dotted : Bool) : List String → (Table → Option Table) → Table → Option Table
  | [], change, t => change t
  | key :: path, change, t =>
    match t.get? key with
    | none =>
      (descend dotted path change (passage dotted)).map fun s => t.put key (.table s)
    | some (.value _) => none
    | some (.table s) =>
      if dotted && !s.isImplicit then none
      else (descend dotted path change s).map fun s => t.put key (.table s)
    | some (.tables ts) =>
      match ts.getLast? with
      | none => none
      | some last =>
        (descend dotted path change last).map fun s => t.put key (.tables (ts.dropLast ++ [s]))

/-- Sets a key that is not there yet. A dotted key ends in a dotted table, a plain key in one that
is not. -/
def setNew (plain : Bool) (key : String) (value : Value) (t : Table) : Option Table :=
  if t.isDotted = plain then none
  else
    match t.get? key with
    | none => some (t.put key (.value value))
    | some _ => none

/-- Sets the value of a key that may be dotted. -/
def assign (t : Table) (path : List String) (key : String) (value : Value) : Option Table :=
  t.descend true path (setNew path.isEmpty key value)

/-- Opens the table of a header: a new one, or one that paths went through. -/
def openTable (t : Table) (path : List String) (key : String) : Option Table :=
  t.descend false path fun parent =>
    match parent.get? key with
    | none => some (parent.put key (.table explicit))
    | some (.table s) =>
      if s.isImplicit && !s.isDotted then some (parent.put key (.table s.withHeader)) else none
    | some _ => none

/-- Adds a table to an array of tables, which is begun if need be. -/
def openElement (t : Table) (path : List String) (key : String) : Option Table :=
  t.descend false path fun parent =>
    match parent.get? key with
    | none => some (parent.put key (.tables [explicit]))
    | some (.tables ts) => some (parent.put key (.tables (ts ++ [explicit])))
    | some _ => none

end Table

end RiskBoard.Toml
