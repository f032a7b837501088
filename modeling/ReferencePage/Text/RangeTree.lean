/-! Ranges of numbers in a search tree, so that the range of a number is found in few steps. -/
namespace ReferencePage.Text

inductive RangeTree (α : Type) where
  | leaf
  | node (first last : Nat) (value : α) (below above : RangeTree α)

namespace RangeTree

variable {α : Type}

def find? : RangeTree α → Nat → Option α
  | leaf, _ => none
  | node first last value below above, n =>
    if n < first then below.find? n
    else if last < n then above.find? n
    else some value

def contains (tree : RangeTree α) (n : Nat) : Bool := (tree.find? n).isSome

/- A tree of at most the given height from the first ranges of an ascending list, and those that are
left. -/
def grow (first last : α → Nat) : (height : Nat) → List α → RangeTree α × List α
  | 0, ranges => (leaf, ranges)
  | height + 1, ranges =>
    match grow first last height ranges with
    | (below, []) => (below, [])
    | (below, range :: ranges) =>
      let (above, ranges) := grow first last height ranges
      (node (first range) (last range) range below above, ranges)

/- High enough for a thousand ranges. -/
def height : Nat := 10

def ofAscending (first last : α → Nat) (ranges : List α) : RangeTree α :=
  (grow first last height ranges).1

def ofPairs (ranges : List (Nat × Nat)) : RangeTree (Nat × Nat) :=
  ofAscending Prod.fst Prod.snd ranges

end RangeTree
end ReferencePage.Text
