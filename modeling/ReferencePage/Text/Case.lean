import ReferencePage.Text.Basic
import ReferencePage.Text.Word
import ReferencePage.Text.CaseTable
import ReferencePage.Text.CasedTable

/-! Two notions of case.  Folding maps characters one by one and decides when two texts are the same
up to case.  Lowercasing maps whole texts: one capital becomes two characters, and a capital sigma
becomes the final small sigma where it ends a word. -/
namespace ReferencePage.Text

def caseTree (runs : List CaseRun) : RangeTree CaseRun :=
  .ofAscending CaseRun.first CaseRun.last runs

/-- The image of a code point; one that no run maps stays. -/
def image (tree : RangeTree CaseRun) (n : Nat) : Nat :=
  match tree.find? n with
  | none => n
  | some run => if (n - run.first) % run.step = 0 then (n + run.distance).toNat else n

def foldTree : RangeTree CaseRun := caseTree foldRuns

def lowerTree : RangeTree CaseRun := caseTree lowerRuns

def casedTree : RangeTree (Nat × Nat) := .ofPairs casedRanges

def caseIgnorableTree : RangeTree (Nat × Nat) := .ofPairs caseIgnorableRanges

def fold (c : Char) : Char := Char.ofNat (image foldTree c.toNat)

def isCased (c : Char) : Bool := casedTree.contains c.toNat

def isCaseIgnorable (c : Char) : Bool := caseIgnorableTree.contains c.toNat

def casedNext (t : Text) : Bool := (t.dropWhile isCaseIgnorable).head?.any isCased

/-- A sigma is final when a cased character comes before it and none after it. -/
def sigma (before after : Text) : Char :=
  if casedNext before && !casedNext after then 'ς' else 'σ'

def lowerChar (c : Char) : Text :=
  if c = 'İ' then ['i', '\u0307'] else [Char.ofNat (image lowerTree c.toNat)]

/- `before` holds what was read, the nearest character first. -/
def lowerFrom (before : Text) : Text → Text
  | [] => []
  | c :: t => (if c = 'Σ' then [sigma before t] else lowerChar c) ++ lowerFrom (c :: before) t

def lower (t : Text) : Text := lowerFrom [] t

end ReferencePage.Text
