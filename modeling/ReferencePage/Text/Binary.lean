import ReferencePage.Text.Decimal

/-! Numbers with 53 significant bits.  A decimal is rounded to the nearest of them, and each is
written with the fewest digits that lead back to it. -/
namespace ReferencePage

open Text

/- A finite number is `mantissa * 2 ^ power`, negative or not. -/
inductive Binary where
  | finite (negative : Bool) (mantissa : Nat) (power : Int)
  | infinite (negative : Bool)
  | notANumber
  deriving DecidableEq, Repr

namespace Binary

def mantissaBits : Nat := 53

def limit : Nat := Nat.pow 2 mantissaBits

def leastPower : Int := -1074
def greatestPower : Int := 971

def roundQuotient (number divisor : Nat) : Nat :=
  let floor := number / divisor
  let twice := 2 * (number % divisor)
  if twice < divisor || (twice = divisor && floor % 2 = 0) then floor else floor + 1

def scale (base : Nat) (power : Int) (number divisor : Nat) : Nat × Nat :=
  if 0 ≤ power then (number * Nat.pow base power.toNat, divisor)
  else (number, divisor * Nat.pow base (-power).toNat)

/-- The power of two that leaves 53 bits in front of the point, or the least one there is. -/
def powerFor (number divisor : Nat) : Int :=
  let guess : Int := (Nat.log2 number : Int) - Nat.log2 divisor - mantissaBits
  let (n, d) := scale 2 (-guess) number divisor
  max leastPower (if n / d < limit then guess else guess + 1)

def ofQuotient (negative : Bool) (number divisor : Nat) : Binary :=
  let power := powerFor number divisor
  let (n, d) := scale 2 (-power) number divisor
  let rounded := roundQuotient n d
  let (mantissa, power) :=
    if rounded = limit then (limit / 2, power + 1) else (rounded, power)
  if greatestPower < power then .infinite negative else .finite negative mantissa power

/-- The number nearest to `number * 10 ^ power`.  Beyond the first two bounds every number is too
great or too small. -/
def ofDecimal (negative : Bool) (number : Nat) (power : Int) : Binary :=
  let magnitude := (digits number).length + power
  if number = 0 || magnitude < -330 then .finite negative 0 leastPower
  else if 310 < magnitude then .infinite negative
  else
    let (n, d) := scale 10 power number 1
    ofQuotient negative n d

/-- Twice the ends of the interval that rounds to a number, as quotients over one divisor, and
whether it holds its ends. -/
structure Neighbourhood where
  low : Nat
  value : Nat
  high : Nat
  divisor : Nat
  closed : Bool

/- The number below a power of two is nearer than the one above it. -/
def neighbourhood (mantissa : Nat) (power : Int) : Neighbourhood :=
  let below := if mantissa = limit / 2 && leastPower < power then 1 else 2
  let (unit, divisor) := scale 2 power 1 4
  ⟨(4 * mantissa - below) * unit, 4 * mantissa * unit, (4 * mantissa + 2) * unit, divisor,
    mantissa % 2 = 0⟩

def Neighbourhood.holds (n : Neighbourhood) (number : Nat) (power : Int) : Bool :=
  let (x, d) := scale 10 power number 1
  let left := n.low * d
  let right := n.high * d
  let middle := x * n.divisor
  if n.closed then left ≤ middle && middle ≤ right else left < middle && middle < right

/- The nearer of the two decimals around a number on the grid of `10 ^ power`, where one of them
rounds to it; of two that are equally near, the greater. -/
def Neighbourhood.onGrid? (n : Neighbourhood) (power : Int) : Option Nat :=
  let (v, d) := scale 10 (-power) n.value n.divisor
  let floor := v / d
  let upperIsNearer := d ≤ 2 * (v % d)
  let candidates := if upperIsNearer then [floor + 1, floor] else [floor, floor + 1]
  candidates.find? fun k => n.holds k power

def decimalMagnitude (n : Neighbourhood) : Int :=
  let guess : Int := (digits n.value).length - (digits n.divisor).length
  let (v, d) := scale 10 (-guess) n.value n.divisor
  if v < d then guess - 1 else guess

/- Seventeen digits always lead back.  A single digit may round up to ten. -/
def shortest (n : Neighbourhood) : Nat × Int :=
  let magnitude := decimalMagnitude n
  let grid := (List.range 17).findSome? fun (places : Nat) =>
    (n.onGrid? (magnitude - places)).map fun k =>
      if k = 10 then (1, magnitude - places + 1) else (k, magnitude - places)
  grid.getD (0, 0)

def positional (number : Nat) (power : Int) : Text :=
  if 0 ≤ power then digits number ++ List.replicate power.toNat '0' ++ ['.', '0']
  else
    let places := (-power).toNat
    let all := padded (places + 1) number
    all.take (all.length - places) ++ '.' :: all.drop (all.length - places)

def sign (negative : Bool) : Text := if negative then ['-'] else []

def text : Binary → Text
  | .finite negative mantissa power =>
    let (number, grid) :=
      if mantissa = 0 then (0, 0) else shortest (neighbourhood mantissa power)
    sign negative ++ positional number grid
  | .infinite negative => sign negative ++ "inf".toList
  | .notANumber => "NaN".toList

end Binary
end ReferencePage
