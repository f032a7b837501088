import ReferencePage.Text.Binary

/-! Values and tables of TOML.  A table keeps the order in which its keys came.  Keys, values and
headers know where they stand in the source. -/
namespace ReferencePage.Toml

structure Key where
  name : Text
  passage : Passage

/-- Where a table comes from: braces or its own header, the header of a table in it, or a dotted
key. -/
inductive Origin where
  | own
  | implied
  | dotted
  deriving DecidableEq, Repr

mutual

inductive Value where
  | string (text : Text)
  | integer (number : Int)
  | float (number : Binary)
  | boolean (truth : Bool)
  | moment
  | array (items : List Value)
  | table (table : Table)

inductive Item where
  | value (value : Value) (passage : Passage)
  | table (table : Table)
  | tables (tables : List Table)

/- A header's passage goes on to the last value below it. -/
inductive Table where
  | mk (origin : Origin) (header : Option Passage) (entries : List (Key × Item))

end

namespace Table

def origin : Table → Origin
  | mk origin _ _ => origin

def header : Table → Option Passage
  | mk _ header _ => header

def entries : Table → List (Key × Item)
  | mk _ _ entries => entries

def empty (origin : Origin) : Table := mk origin none []

def item? (t : Table) (name : Text) : Option Item :=
  (t.entries.find? fun e => e.1.name = name).map Prod.snd

def append (t : Table) (key : Key) (item : Item) : Table :=
  mk t.origin t.header (t.entries ++ [(key, item)])

def erase (t : Table) (name : Text) : Table :=
  mk t.origin t.header (t.entries.filter fun e => e.1.name ≠ name)

def replace (t : Table) (name : Text) (item : Item) : Table :=
  mk t.origin t.header (t.entries.map fun e => if e.1.name = name then (e.1, item) else e)

/-- A table that a dotted key goes through must not have a header or braces of its own. -/
def isOpenTo (through : Origin) (t : Table) : Bool := through != .dotted || t.origin != .own

/-- Changes the table that a path leads to.  Tables that are missing on the way are made; a repeated
header leads to the last of its tables. -/
def update (through : Origin) : List Key → (Table → Option Table) → Table → Option Table
  | [], change, t => change t
  | key :: path, change, t =>
    match t.item? key.name with
    | none => (update through path change (empty through)).map fun s => t.append key (.table s)
    | some (.table s) =>
      if s.isOpenTo through then
        (update through path change s).map fun s => t.replace key.name (.table s)
      else none
    | some (.tables ts) =>
      ts.getLast?.bind fun last =>
        (update through path change last).map fun s =>
          t.replace key.name (.tables (ts.dropLast ++ [s]))
    | some (.value _ _) => none

def addOnce (key : Key) (item : Item) (t : Table) : Option Table :=
  if (t.item? key.name).isSome then none else some (t.append key item)

/-- Adds a value under a dotted key.  A table that a dotted key made takes no value by a plain key,
and only such a table takes one by a dotted key. -/
def assign (path : List Key) (item : Item) (t : Table) : Option Table :=
  path.getLast?.bind fun key =>
    t.update .dotted path.dropLast fun s =>
      if (s.origin == .dotted) == path.dropLast.isEmpty then none else s.addOnce key item

end Table
end ReferencePage.Toml
