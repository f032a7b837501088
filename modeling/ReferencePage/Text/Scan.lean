import ReferencePage.Text.Basic

/-! Every find of a recogniser in a text, from left to right: where it succeeds, the search goes on
behind what it found, so that no two finds share a character.  A recogniser sees the character
before the place it is tried at, and all that follows. -/
namespace ReferencePage.Text

abbrev Recogniser (α : Type) := Option Char → Text → Option α

/- `skip` counts the characters that still belong to the last find. -/
def scanFrom {α : Type} (recognise : Recogniser α) (size : α → Nat) :
    Nat → Option Char → Text → List α
  | _, _, [] => []
  | skip + 1, _, c :: t => scanFrom recognise size skip (some c) t
  | 0, before, c :: t =>
    match recognise before (c :: t) with
    | some found => found :: scanFrom recognise size (size found - 1) (some c) t
    | none => scanFrom recognise size 0 (some c) t

def scan {α : Type} (recognise : Recogniser α) (size : α → Nat) (t : Text) : List α :=
  scanFrom recognise size 0 none t

end ReferencePage.Text
