import ReferencePage.Text.Blank
import ReferencePage.Text.Decimal

/-! Instants, as seconds since the start of 1970 in UTC without leap seconds, and their dates in the
Gregorian calendar, which is taken to hold at all times. -/
namespace ReferencePage

open Text

structure Date where
  year : Int
  month : Nat
  day : Nat
  deriving DecidableEq, Repr

namespace Date

def isLeapYear (year : Int) : Bool := year % 4 = 0 && (year % 100 ≠ 0 || year % 400 = 0)

def monthLength (year : Int) (month : Nat) : Nat :=
  if month = 2 then if isLeapYear year then 29 else 28
  else if month = 4 || month = 6 || month = 9 || month = 11 then 30
  else 31

/- Whole periods of `length` days, at most `most` of them, and the days that remain. -/
def periods (length most days : Nat) : Nat × Nat :=
  let count := min most (days / length)
  (count, days - count * length)

/-- The months of a year that begins in March, so that the leap day is its last day. -/
def monthsFromMarch : List (Nat × Nat) :=
  [(3, 31), (4, 30), (5, 31), (6, 30), (7, 31), (8, 31), (9, 30), (10, 31), (11, 30), (12, 31),
    (1, 31), (2, 29)]

def monthAfter : List (Nat × Nat) → Nat → Nat × Nat
  | [], days => (0, days + 1)
  | (month, length) :: months, days =>
    if days < length then (month, days + 1) else monthAfter months (days - length)

def ofMarchDays (days : Int) : Date :=
  let cycle := days / 146097
  let (centuries, rest) := periods 36524 3 (days % 146097).toNat
  let (leaps, rest) := periods 1461 24 rest
  let (years, rest) := periods 365 3 rest
  let (month, day) := monthAfter monthsFromMarch rest
  let year := 400 * cycle + (100 * centuries + 4 * leaps + years : Nat)
  ⟨if month ≤ 2 then year + 1 else year, month, day⟩

/- From the first of March in the year 0 to the first of January in 1970. -/
def marchDaysToEpoch : Int := 719468

def ofDays (days : Int) : Date := ofMarchDays (days + marchDaysToEpoch)

def yearText (year : Int) : Text :=
  if 0 ≤ year && year ≤ 9999 then padded 4 year.natAbs
  else (if year < 0 then '-' else '+') :: padded 4 year.natAbs

def text (d : Date) : Text :=
  yearText d.year ++ '-' :: padded 2 d.month ++ '-' :: padded 2 d.day

end Date

structure Moment where
  date : Date
  hour : Nat
  minute : Nat
  second : Nat
  deriving DecidableEq, Repr

namespace Moment

def ofSeconds (seconds : Int) : Moment :=
  let time := (seconds % 86400).toNat
  ⟨.ofDays (seconds / 86400), time / 3600, time / 60 % 60, time % 60⟩

def text (m : Moment) : Text :=
  m.date.text ++ ' ' :: padded 2 m.hour ++ ':' :: padded 2 m.minute ++ ':' :: padded 2 m.second

def inRange (m : Moment) : Bool := -262143 ≤ m.date.year && m.date.year ≤ 262142

/-- The instant that a number of seconds names, where it is a number and in range. -/
def pinned? (t : Text) : Option Moment :=
  ((integer? (trim t)).filter fitsWord).map ofSeconds |>.filter inRange

end Moment
end ReferencePage
