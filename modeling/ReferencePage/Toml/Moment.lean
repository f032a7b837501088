import ReferencePage.Instant
import ReferencePage.Toml.Blank

/-! Dates and times in TOML: a date, a time, or both with or without a distance from UTC. -/
namespace ReferencePage.Toml

open Text

def fixed? (width low high : Nat) (t : Text) : Option (Nat × Text) :=
  let digits := t.take width
  if digits.length = width && digits.all isDigit && low ≤ digitsValue digits
      && digitsValue digits ≤ high then
    some (digitsValue digits, t.drop width)
  else none

def afterDate? (t : Text) : Option Text := do
  let (year, t) ← fixed? 4 0 9999 t
  let t ← after? ['-'] t
  let (month, t) ← fixed? 2 1 12 t
  let t ← after? ['-'] t
  let (_, t) ← fixed? 2 1 (Date.monthLength year month) t
  return t

def afterSecondFraction : Text → Text
  | '.' :: t => if t.head?.any isDigit then t.dropWhile isDigit else '.' :: t
  | t => t

def afterHourAndMinute? (t : Text) : Option Text := do
  let (_, t) ← fixed? 2 0 23 t
  let t ← after? [':'] t
  let (_, t) ← fixed? 2 0 59 t
  return t

/-- A minute may have a leap second. -/
def afterTime? (t : Text) : Option Text := do
  let t ← afterHourAndMinute? t
  let t ← after? [':'] t
  let (_, t) ← fixed? 2 0 60 t
  return afterSecondFraction t

def afterOffset? : Text → Option Text
  | 'Z' :: t | 'z' :: t => some t
  | '+' :: t | '-' :: t => afterHourAndMinute? t
  | _ => none

/-- A letter or a space parts a date from the time on it. -/
def afterDelimiter? : Text → Option Text
  | 'T' :: t | 't' :: t | ' ' :: t => some t
  | _ => none

def afterMoment? (t : Text) : Option Text :=
  match afterDate? t with
  | none => afterTime? t
  | some date =>
    match (afterDelimiter? date).bind afterTime? with
    | none => some date
    | some time => some ((afterOffset? time).getD time)

end ReferencePage.Toml
