import ReferencePage.Text.Blank

/-! Brackets nest to any depth.  The sign of an arrow, a hyphen and what would close an angle
bracket, closes nothing. -/
namespace ReferencePage

open Text

def isArrowHead (before : Option Char) (c : Char) : Bool := c == '>' && before == some '-'

/-- The text in front of the bracket that closes one opened earlier, and what follows that
bracket.  `depth` counts the brackets opened since. -/
def closing? (opener closer : Char) : Nat → Option Char → Text → Option Passage
  | _, _, [] => none
  | depth, before, c :: t =>
    let further (depth : Nat) :=
      (closing? opener closer depth (some c) t).map fun p => ⟨c :: p.text, p.rest⟩
    if c = opener then further (depth + 1)
    else if c = closer && !isArrowHead before c then
      if depth = 0 then some ⟨[], t⟩ else further (depth - 1)
    else further depth

def upToFirst? (mark : Char) : Text → Option Passage
  | [] => none
  | c :: t =>
    if c = mark then some ⟨[], t⟩
    else (upToFirst? mark t).map fun p => ⟨c :: p.text, p.rest⟩

/-- One count serves all three kinds of brackets, and it never falls below zero. -/
def depthAfter (depth : Nat) (before : Option Char) (c : Char) : Nat :=
  if c = '<' || c = '[' || c = '(' then depth + 1
  else if c = ']' || c = ')' || (c = '>' && !isArrowHead before c) then depth - 1
  else depth

def growFirst (c : Char) : List Text → List Text
  | [] => [[c]]
  | part :: parts => (c :: part) :: parts

/-- The parts between the commas that stand outside every bracket. -/
def splitAtCommas : Nat → Option Char → Text → List Text
  | _, _, [] => [[]]
  | depth, before, c :: t =>
    if c = ',' && depth = 0 then [] :: splitAtCommas depth (some c) t
    else growFirst c (splitAtCommas (depthAfter depth before c) (some c) t)

def segments (t : Text) : List Text := ((splitAtCommas 0 none t).map trim).filter (· ≠ [])

end ReferencePage
