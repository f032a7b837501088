import ReferencePage.Toml.Grammar

/-! The table that the statements of a source describe.  Values belong to the header above them.  A
table is written once, but it may be implied by the headers of tables in it before. -/
namespace ReferencePage.Toml

/- The header that is open, and the table below it, which is not in the root yet. -/
structure Section where
  path : List Key
  isRepeated : Bool
  table : Table

structure Progress where
  root : Table
  current : Option Section

namespace Progress

def addRepeated (key : Key) (table : Table) (parent : Table) : Option Table :=
  match parent.item? key.name with
  | none => some (parent.append key (.tables [table]))
  | some (.tables ts) => some (parent.replace key.name (.tables (ts ++ [table])))
  | some _ => none

def close (p : Progress) : Option Table :=
  match p.current with
  | none => some p.root
  | some s =>
    s.path.getLast?.bind fun key =>
      p.root.update .implied s.path.dropLast fun parent =>
        if s.isRepeated then addRepeated key s.table parent
        else parent.addOnce key (.table s.table)

/- The entries of a table that other headers imply; none where the name is taken. -/
def impliedEntries? (t : Table) (name : Text) : Option (List (Key × Item)) :=
  match t.item? name with
  | none => some []
  | some (.table s) => if s.origin = .implied then some s.entries else none
  | some _ => none

/-- The table that a path leads to, where each name on the way leads to a table; an empty table for
a path that leads nowhere yet. -/
def parent? : List Key → Table → Option Table
  | [], t => some t
  | key :: path, t =>
    match t.item? key.name with
    | none => some (.empty .implied)
    | some (.table s) => parent? path s
    | some (.tables ts) => ts.getLast?.bind (parent? path)
    | some (.value _ _) => none

/-- Opens a table under a header.  An implied table is taken out of the root; it comes back, with
its entries, behind the entries that are there. -/
def openTable (keys : List Key) (passage : Passage) (root : Table) : Option Progress :=
  keys.getLast?.bind fun key =>
    (parent? keys.dropLast root).bind fun parent =>
      (impliedEntries? parent key.name).bind fun entries =>
        (root.update .implied keys.dropLast fun t => some (t.erase key.name)).map fun root =>
          ⟨root, some ⟨keys, false, .mk .own (some passage) entries⟩⟩

def extend (header : Option Passage) : Item → Option Passage
  | .value _ passage => header.map fun h => .between h.whole passage.rest
  | _ => header

def step (p : Progress) : Statement → Option Progress
  | .assignment keys item =>
    match p.current with
    | none => (p.root.assign keys item).map fun root => ⟨root, none⟩
    | some s =>
      (s.table.assign keys item).map fun t =>
        ⟨p.root, some { s with table := .mk t.origin (extend t.header item) t.entries }⟩
  | .header keys passage => p.close.bind (openTable keys passage)
  | .repeated keys passage =>
    p.close.map fun root => ⟨root, some ⟨keys, true, .mk .own (some passage) []⟩⟩

end Progress

/-- The table of a source; none when the source is not TOML. -/
def parse? (source : Text) : Option Table :=
  (statements? source).bind fun statements =>
    (statements.foldlM Progress.step ⟨.empty .own, none⟩).bind Progress.close

end ReferencePage.Toml
