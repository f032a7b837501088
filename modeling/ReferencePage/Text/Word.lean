import ReferencePage.Text.Basic
import ReferencePage.Text.RangeTree
import ReferencePage.Text.WordTable

/-! Words are runs of word characters.  A border stands wherever a word character meets anything
else, the ends of the text included. -/
namespace ReferencePage.Text

def wordTree : RangeTree (Nat × Nat) := .ofPairs wordRanges

def isWord (c : Char) : Bool := wordTree.contains c.toNat

def border (before after : Option Char) : Bool := before.any isWord != after.any isWord

/-- A word character that comes next begins a word, as no word character stands before it. -/
def wordMayStart (before : Option Char) : Bool := !before.any isWord

def word? (t : Text) : Option Passage :=
  match t.takeWhile isWord with
  | [] => none
  | w => some ⟨w, t.dropWhile isWord⟩

theorem word?_eq_some {t : Text} {p : Passage} (found : word? t = some p) :
    p.text ≠ [] ∧ (∀ c ∈ p.text, isWord c) ∧ p.whole = t := by
  unfold word? at found
  split at found
  · simp at found
  · rename_i w nonempty
    obtain rfl := Option.some.inj found
    refine ⟨nonempty, fun c member => ?_, List.takeWhile_append_dropWhile⟩
    exact List.all_eq_true.mp List.all_takeWhile c member

end ReferencePage.Text
