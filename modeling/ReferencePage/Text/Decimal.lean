import ReferencePage.Text.Basic

/-! Whole numbers in decimal digits. -/
namespace ReferencePage.Text

def digits (n : Nat) : Text := Nat.toDigits 10 n

def padded (width n : Nat) : Text :=
  List.replicate (width - (digits n).length) '0' ++ digits n

def signed (n : Int) : Text := (if n < 0 then ['-'] else []) ++ digits n.natAbs

def isDigit (c : Char) : Bool := '0' ≤ c && c ≤ '9'

def digitValue (c : Char) : Nat := c.toNat - '0'.toNat

def digitsValue (t : Text) : Nat := t.foldl (fun n c => 10 * n + digitValue c) 0

def natural? (t : Text) : Option Nat :=
  if t ≠ [] && t.all isDigit then some (digitsValue t) else none

/-- One sign or none, then one digit or more. -/
def integer? : Text → Option Int
  | '-' :: t => (natural? t).map fun n => -(n : Int)
  | '+' :: t => (natural? t).map fun n => (n : Int)
  | t => (natural? t).map fun n => (n : Int)

def fitsWord (n : Int) : Bool := -9223372036854775808 ≤ n && n ≤ 9223372036854775807

end ReferencePage.Text
