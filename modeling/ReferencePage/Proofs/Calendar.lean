import Mathlib.Algebra.BigOperators.Group.List.Basic
import Mathlib.Data.Int.Range
import Mathlib.Data.List.Intervals
import Mathlib.Tactic.IntervalCases
import ReferencePage.Instant

/-! The days between dates, counted by the lengths of the years and months between them.  The date
of a day is found by periods of years that have the same number of days; it is the one valid date
that the count gives that day. -/
namespace ReferencePage.Date

structure Valid (d : Date) : Prop where
  month_pos : 0 < d.month
  month_le : d.month ≤ 12
  day_pos : 0 < d.day
  day_le : d.day ≤ monthLength d.year d.month

def yearLength (year : Int) : Int := if isLeapYear year then 366 else 365

def daysOfYears (first next : Int) : Int := ((Int.range first next).map yearLength).sum

def daysOfMonths (year : Int) (next : Nat) : Nat :=
  ((List.Ico 1 next).map (monthLength year)).sum

/-- The days from the first of January in 1970 to a date; negative where the date is earlier. -/
def number (d : Date) : Int :=
  daysOfYears 1970 d.year - daysOfYears d.year 1970 + daysOfMonths d.year d.month + (d.day - 1)

/-- The days from the first of March in the year 0 to the first of March in another year: every
year between them has 365, and the leap days are counted apart. -/
def marchDays (year : Int) : Int := 365 * year + year / 4 - year / 100 + year / 400

section Years

theorem yearLength_eq (year : Int) : yearLength year = marchDays year - marchDays (year - 1) := by
  unfold yearLength isLeapYear marchDays
  split
  · simp only [Bool.and_eq_true, Bool.or_eq_true, decide_eq_true_eq] at *
    omega
  · simp only [Bool.and_eq_true, Bool.or_eq_true, decide_eq_true_eq] at *
    omega

theorem daysOfYears_of_le {first next : Int} (ordered : first ≤ next) :
    daysOfYears first next = marchDays (next - 1) - marchDays (first - 1) := by
  unfold daysOfYears
  induction next, ordered using Int.leInduction with
  | base => simp [Int.range]
  | succ next ordered ih =>
    have last : Int.range first (next + 1) = Int.range first next ++ [next] := by
      have size : (next + 1 - first).toNat = (next - first).toNat + 1 := by omega
      rw [Int.range, size, List.range_succ, List.map_append, List.map_singleton, Int.range]
      congr
      omega
    rw [last, List.map_append, List.sum_append, ih, List.map_singleton, List.sum_singleton,
      yearLength_eq, Int.add_sub_cancel]
    omega

theorem number_eq (d : Date) :
    d.number = marchDays (d.year - 1) - 719162 + daysOfMonths d.year d.month + (d.day - 1) := by
  have start : marchDays (1970 - 1) = 719162 := by decide
  have before {first next : Int} (ordered : next ≤ first) : daysOfYears first next = 0 := by
    have size : (next - first).toNat = 0 := by omega
    rw [daysOfYears, Int.range, size]
    rfl
  unfold number
  rcases Int.le_total 1970 d.year with later | earlier
  · rw [daysOfYears_of_le later, before later, start]
    omega
  · rw [daysOfYears_of_le earlier, before earlier, start]
    omega

theorem marchDays_mono {year later : Int} (ordered : year ≤ later) :
    marchDays year ≤ marchDays later := by
  unfold marchDays
  omega

end Years

section Months

variable {year : Int} {month later : Nat}

theorem daysOfMonths_succ (pos : 0 < month) :
    daysOfMonths year (month + 1) = daysOfMonths year month + monthLength year month := by
  simp [daysOfMonths, List.Ico.succ_top pos]

theorem daysOfMonths_mono (pos : 0 < month) (ordered : month ≤ later) :
    daysOfMonths year month ≤ daysOfMonths year later := by
  rw [daysOfMonths, daysOfMonths, ← List.Ico.append_consecutive pos ordered, List.map_append,
    List.sum_append]
  exact Nat.le_add_right _ _

theorem daysOfMonths_all (year : Int) : (daysOfMonths year 13 : Int) = yearLength year := by
  simp only [daysOfMonths, List.Ico, yearLength]
  cases leap : isLeapYear year <;> simp [monthLength, List.range', leap]

end Months

theorem periods_cut {length most days count rest : Nat} (pos : 0 < length)
    (cut : periods length most days = (count, rest)) :
    days = count * length + rest ∧ count ≤ most ∧ (rest < length ∨ count = most) := by
  have whole := Nat.div_mul_le_self days length
  have fraction := Nat.lt_div_mul_add pos (a := days)
  cases cut
  rcases Nat.le_total most (days / length) with full | short
  · have bound := Nat.mul_le_mul_right length full
    rw [Nat.min_eq_left full]
    omega
  · rw [Nat.min_eq_right short]
    omega

theorem monthAfter_cut {months : List (Nat × Nat)} {days : Nat}
    (fits : days < (months.map Prod.snd).sum) :
    ∃ i, ∃ inside : i < months.length,
      (monthAfter months days).1 = months[i].1 ∧
      ((months.take i).map Prod.snd).sum + (monthAfter months days).2 = days + 1 ∧
      0 < (monthAfter months days).2 ∧ (monthAfter months days).2 ≤ months[i].2 := by
  induction months generalizing days with
  | nil => simp at fits
  | cons first months ih =>
    obtain ⟨month, length⟩ := first
    rw [List.map_cons, List.sum_cons] at fits
    unfold monthAfter
    split
    · rename_i here
      exact ⟨0, by simp, rfl, by simp, by simp, here⟩
    · rename_i later
      have fits' : days - length < (months.map Prod.snd).sum := by omega
      obtain ⟨i, inside, same, count, pos, within⟩ := ih fits'
      refine ⟨i + 1, by simpa using inside, same, ?_, pos, within⟩
      rw [List.take_succ_cons, List.map_cons, List.sum_cons]
      omega

/- Where the months of a year from March stand in the year from January. -/
theorem monthsFromMarch_at (year : Int) {i : Nat} (inside : i < monthsFromMarch.length) :
    0 < monthsFromMarch[i].1 ∧ monthsFromMarch[i].1 ≤ 12 ∧
      daysOfMonths year monthsFromMarch[i].1 + 306 =
        ((monthsFromMarch.take i).map Prod.snd).sum +
          (if monthsFromMarch[i].1 ≤ 2 then 0 else yearLength year) ∧
      (monthsFromMarch[i].1 ≠ 2 →
        monthLength year monthsFromMarch[i].1 = monthsFromMarch[i].2) := by
  have short : i < 12 := inside
  simp only [monthsFromMarch, daysOfMonths, yearLength]
  interval_cases i <;> cases leap : isLeapYear year <;>
    simp [monthLength, List.Ico, List.range', leap]

/-- A day lies in the year that begins with the last first of March before it.  The last day of such
a year, its day 365, is the last of a February with 29. -/
theorem ofMarchDays_cut (days : Int) : ∃ (year : Int) (rest : Nat),
    days = marchDays year + rest ∧ rest ≤ 365 ∧
      (rest = 365 → isLeapYear (year + 1) = true) ∧
      ofMarchDays days =
        ⟨if (monthAfter monthsFromMarch rest).1 ≤ 2 then year + 1 else year,
          (monthAfter monthsFromMarch rest).1, (monthAfter monthsFromMarch rest).2⟩ := by
  have cycle : days = 146097 * (days / 146097) + (days % 146097).toNat ∧
      (days % 146097).toNat < 146097 := by omega
  unfold ofMarchDays
  generalize days / 146097 = cycles at *
  generalize (days % 146097).toNat = inCycle at *
  rcases centuries_cut : periods 36524 3 inCycle with ⟨centuries, inCentury⟩
  rcases leaps_cut : periods 1461 24 inCentury with ⟨leaps, inLeap⟩
  rcases years_cut : periods 365 3 inLeap with ⟨years, inYear⟩
  have century := periods_cut (by decide) centuries_cut
  have leap := periods_cut (by decide) leaps_cut
  have single := periods_cut (by decide) years_cut
  simp only [leaps_cut, years_cut]
  refine ⟨400 * cycles + (100 * centuries + 4 * leaps + years : Nat), inYear, ?_, ?_, ?_, rfl⟩
  · unfold marchDays
    omega
  · omega
  · simp only [isLeapYear, Bool.and_eq_true, Bool.or_eq_true, decide_eq_true_eq]
    omega

theorem ofDays_exact (days : Int) : (ofDays days).Valid ∧ (ofDays days).number = days := by
  obtain ⟨year, rest, cut, short, long, date⟩ := ofMarchDays_cut (days + marchDaysToEpoch)
  have fits : rest < (monthsFromMarch.map Prod.snd).sum := Nat.lt_succ_of_le short
  obtain ⟨i, inside, month, count, pos, within⟩ := monthAfter_cut fits
  unfold marchDaysToEpoch at cut
  rw [ofDays, date, month]
  by_cases early : monthsFromMarch[i].1 ≤ 2
  · obtain ⟨month_pos, month_le, start, length⟩ := monthsFromMarch_at (year + 1) inside
    simp only [if_pos early] at start ⊢
    refine ⟨⟨month_pos, month_le, pos, ?_⟩, ?_⟩
    · by_cases february : monthsFromMarch[i].1 = 2
      · have january : daysOfMonths (year + 1) 2 = 31 := by
          simp [daysOfMonths, List.Ico, monthLength]
        rw [february] at start ⊢
        simp only [monthLength, if_true]
        split
        · omega
        · rename_i common
          have := mt long common
          omega
      · exact (length february).symm ▸ within
    · rw [number_eq, Int.add_sub_cancel]
      dsimp only
      omega
  · obtain ⟨month_pos, month_le, start, length⟩ := monthsFromMarch_at year inside
    simp only [if_neg early] at start ⊢
    refine ⟨⟨month_pos, month_le, pos, (length (by omega)).symm ▸ within⟩, ?_⟩
    have whole := yearLength_eq year
    rw [number_eq]
    dsimp only
    omega

/-- One date is earlier than another: by its year, in one year by its month, and in one month by its
day. -/
def Before (d e : Date) : Prop :=
  d.year < e.year ∨ d.year = e.year ∧ (d.month < e.month ∨ d.month = e.month ∧ d.day < e.day)

theorem before_or_eq_or_before (d e : Date) : d.Before e ∨ d = e ∨ e.Before d := by
  obtain ⟨year, month, day⟩ := d
  obtain ⟨year', month', day'⟩ := e
  simp only [Before, mk.injEq]
  omega

/-- Where one of two things comes before the other, a count that keeps this order shows it, and it
tells them apart. -/
theorem lt_iff_and_inj {α : Type} {Before : α → α → Prop} {count : α → Int} {a b : α}
    (total : Before a b ∨ a = b ∨ Before b a) (keeps : Before a b → count a < count b)
    (keeps' : Before b a → count b < count a) :
    (count a < count b ↔ Before a b) ∧ (count a = count b → a = b) := by
  rcases total with before | same | after
  · have less := keeps before
    exact ⟨⟨fun _ => before, fun _ => less⟩, fun same => by omega⟩
  · subst same
    exact ⟨⟨fun less => by omega, keeps⟩, fun _ => rfl⟩
  · have less := keeps' after
    exact ⟨⟨fun more => by omega, keeps⟩, fun same => by omega⟩

section Order

variable {d e : Date}

theorem Valid.day_lt (valid : d.Valid) : d.day < 32 := by
  have length := valid.day_le
  unfold monthLength at length
  split at length
  · split at length <;> omega
  · split at length <;> omega

theorem Valid.number_ge (valid : d.Valid) : marchDays (d.year - 1) ≤ d.number + 719162 := by
  have pos := valid.day_pos
  rw [number_eq]
  omega

theorem Valid.number_lt_of_month (valid : d.Valid) {month : Nat} (later : d.month < month) :
    d.number + 719162 < marchDays (d.year - 1) + daysOfMonths d.year month := by
  have all : daysOfMonths d.year (d.month + 1) ≤ daysOfMonths d.year month :=
    daysOfMonths_mono (Nat.succ_pos _) later
  have within := valid.day_le
  rw [daysOfMonths_succ valid.month_pos] at all
  rw [number_eq]
  omega

theorem Valid.number_lt_of_year (valid : d.Valid) : d.number + 719162 < marchDays d.year := by
  have last := valid.number_lt_of_month (Nat.lt_succ_of_le valid.month_le)
  rw [daysOfMonths_all, yearLength_eq] at last
  omega

theorem number_lt_of_before (valid : d.Valid) (valid' : e.Valid) (before : d.Before e) :
    d.number < e.number := by
  have pos := valid'.day_pos
  rcases before with years | ⟨year, months | ⟨month, days⟩⟩
  · have last := valid.number_lt_of_year
    have first := valid'.number_ge
    have between := marchDays_mono (Int.le_sub_one_of_lt years)
    omega
  · have last := valid.number_lt_of_month months
    rw [number_eq e, ← year]
    omega
  · rw [number_eq, number_eq, year, month]
    omega

theorem number_lt_iff (valid : d.Valid) (valid' : e.Valid) :
    d.number < e.number ↔ d.Before e :=
  (lt_iff_and_inj (before_or_eq_or_before d e) (number_lt_of_before valid valid')
    (number_lt_of_before valid' valid)).1

end Order

end ReferencePage.Date
