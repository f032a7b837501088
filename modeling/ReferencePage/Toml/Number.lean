import ReferencePage.Toml.Quoted
import ReferencePage.Text.Binary

/-! Numbers in TOML.  An underscore may stand between two digits. -/
namespace ReferencePage.Toml

open Text

def digitsAnd? (isDigit : Char → Bool) : Text → Option (Text × Text)
  | [] => none
  | [c] => if isDigit c then some ([c], []) else none
  | c :: d :: t =>
    if isDigit c then
      match if d = '_' then digitsAnd? isDigit t else digitsAnd? isDigit (d :: t) with
      | some (digits, rest) => some (c :: digits, rest)
      | none => some ([c], d :: t)
    else none

/-- A whole number in decimal has no zero in front of it, so a zero stands alone. -/
def wholeDigits? : Text → Option (Text × Text)
  | '0' :: t => some (['0'], t)
  | t => digitsAnd? isDigit t

def readSign : Text → Bool × Text
  | '-' :: t => (true, t)
  | '+' :: t => (false, t)
  | t => (false, t)

def applySign (negative : Bool) (n : Nat) : Int := if negative then -(n : Int) else n

def inBase (base : Nat) (t : Text) : Nat :=
  t.foldl (fun n c => base * n + (hexValue? c).getD 0) 0

def isBasedDigit (base : Nat) (c : Char) : Bool := (hexValue? c).any (· < base)

def based? (base : Nat) (t : Text) : Option (Int × Text) :=
  (digitsAnd? (isBasedDigit base) t).map fun p => (inBase base p.1, p.2)

/-- An integer has to fit a signed word of 64 bits. -/
def integer? (t : Text) : Option (Int × Text) :=
  let number : Option (Int × Text) :=
    match t with
    | '0' :: 'x' :: u => based? 16 u
    | '0' :: 'o' :: u => based? 8 u
    | '0' :: 'b' :: u => based? 2 u
    | _ =>
      let (negative, u) := readSign t
      (wholeDigits? u).map fun p => (applySign negative (digitsValue p.1), p.2)
  number.filter fun p => fitsWord p.1

def fraction? : Text → Option (Text × Text)
  | '.' :: t => digitsAnd? isDigit t
  | _ => none

def exponent? : Text → Option (Int × Text)
  | 'e' :: t | 'E' :: t =>
    let (negative, u) := readSign t
    (digitsAnd? isDigit u).map fun p => (applySign negative (digitsValue p.1), p.2)
  | _ => none

def isPositiveInfinity : Binary → Bool
  | .infinite negative => !negative
  | _ => false

/-- A number with a fraction, an exponent or both.  One that is too great is refused. -/
def decimal? (t : Text) : Option (Binary × Text) :=
  let (negative, u) := readSign t
  (wholeDigits? u).bind fun (whole, rest) =>
    let number : Option (Binary × Text) :=
      match fraction? rest with
      | some (places, rest) =>
        let (power, rest) := (exponent? rest).getD (0, rest)
        some (Binary.ofDecimal negative (digitsValue (whole ++ places)) (power - places.length),
          rest)
      | none =>
        (exponent? rest).map fun (power, rest) =>
          (Binary.ofDecimal negative (digitsValue whole) power, rest)
    number.filter fun p => !isPositiveInfinity p.1

def special? (t : Text) : Option (Binary × Text) :=
  let (negative, u) := readSign t
  ((after? "inf".toList u).map fun rest => (Binary.infinite negative, rest)).orElse fun _ =>
    (after? "nan".toList u).map fun rest => (Binary.notANumber, rest)

def float? (t : Text) : Option (Binary × Text) := (decimal? t).orElse fun _ => special? t

end ReferencePage.Toml
