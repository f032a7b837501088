import ReferencePage.Text.Basic
import ReferencePage.Text.RangeTree
import ReferencePage.Text.HiddenTable

/-! Quoted text shows every character: what leaves no mark of its own is written as its code
point. -/
namespace ReferencePage.Text

def extendingTree : RangeTree (Nat × Nat) := .ofPairs extendingRanges

def unprintableTree : RangeTree (Nat × Nat) := .ofPairs unprintableRanges

def leavesMark (c : Char) : Bool :=
  !extendingTree.contains c.toNat && !unprintableTree.contains c.toNat

def codePoint (c : Char) : Text :=
  ['\\', 'u', '\x7b'] ++ Nat.toDigits 16 c.toNat ++ ['\x7d']

def quotedChar (c : Char) : Text :=
  if c = '\x00' then ['\\', '0']
  else if c = '\t' then ['\\', 't']
  else if c = '\r' then ['\\', 'r']
  else if c = '\n' then ['\\', 'n']
  else if c = '\\' || c = '"' then ['\\', c]
  else if leavesMark c then [c]
  else codePoint c

def quoted (t : Text) : Text := ['"'] ++ t.flatMap quotedChar ++ ['"']

end ReferencePage.Text
