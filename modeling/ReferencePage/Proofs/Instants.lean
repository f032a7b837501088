import ReferencePage.Proofs.Calendar
import ReferencePage.Proofs.Numerals

/-! Instants and the texts that show them.  A text that gives a number of seconds between blanks
pins the instant that is as many seconds from the start of 1970, and what is shown of it is its date
and its time of day in fixed places. -/
namespace ReferencePage

open Text

namespace Date

/-- A year in four digits or more, with a sign where it comes before the year 0 or after 9999. -/
inductive ShowsYear : Text → Int → Prop where
  | plain {t : Text} {n : Nat} (digits : Fills 4 t n) (short : n ≤ 9999) : ShowsYear t n
  | early {t : Text} {n : Nat} (digits : Fills 4 t n) (pos : 0 < n) : ShowsYear ('-' :: t) (-n)
  | late {t : Text} {n : Nat} (digits : Fills 4 t n) (long : 9999 < n) : ShowsYear ('+' :: t) n

theorem ShowsYear.numeral {t : Text} {year : Int} (shows : ShowsYear t year) : Numeral t year := by
  cases shows with
  | plain digits => exact .bare digits.denotes
  | early digits => exact .minus digits.denotes
  | late digits => exact .plus digits.denotes

theorem yearText_eq {year : Int} (plain : 0 ≤ year ∧ year ≤ 9999) :
    yearText year = padded 4 year.natAbs := by
  simp [yearText, plain]

theorem showsYear_yearText (year : Int) : ShowsYear (yearText year) year := by
  unfold yearText
  split
  · rename_i plain
    simp only [Bool.and_eq_true, decide_eq_true_eq] at plain
    have shows := ShowsYear.plain (fills_padded (by decide) year.natAbs) (by omega)
    rwa [Int.natAbs_of_nonneg plain.1] at shows
  · rename_i other
    simp only [Bool.and_eq_true, decide_eq_true_eq] at other
    split
    · have shows := ShowsYear.early (fills_padded (by decide) year.natAbs) (by omega)
      rwa [show -((year.natAbs : Nat) : Int) = year by omega] at shows
    · have shows := ShowsYear.late (fills_padded (by decide) year.natAbs) (by omega)
      rwa [Int.natAbs_of_nonneg (by omega)] at shows

end Date

namespace Moment

structure Valid (m : Moment) : Prop where
  date : m.date.Valid
  hour : m.hour < 24
  minute : m.minute < 60
  second : m.second < 60

def instant (m : Moment) : Int := 86400 * m.date.number + 3600 * m.hour + 60 * m.minute + m.second

/-- The date and the time of day, from the year to the second. -/
def Shows (t : Text) (m : Moment) : Prop :=
  ∃ year month day hour minute second : Text,
    t = year ++ '-' :: (month ++ '-' :: (day ++
      ' ' :: (hour ++ ':' :: (minute ++ ':' :: second)))) ∧
    Date.ShowsYear year m.date.year ∧ TwoDigits month m.date.month ∧ TwoDigits day m.date.day ∧
    TwoDigits hour m.hour ∧ TwoDigits minute m.minute ∧ TwoDigits second m.second

def Before (m n : Moment) : Prop :=
  m.date.Before n.date ∨ m.date = n.date ∧ (m.hour < n.hour ∨ m.hour = n.hour ∧
    (m.minute < n.minute ∨ m.minute = n.minute ∧ m.second < n.second))

theorem text_eq (m : Moment) : m.text =
    Date.yearText m.date.year ++ '-' :: (padded 2 m.date.month ++ '-' :: (padded 2 m.date.day ++
      ' ' :: (padded 2 m.hour ++ ':' :: (padded 2 m.minute ++ ':' :: padded 2 m.second)))) := by
  simp [text, Date.text]

section

variable {m n : Moment}

theorem ofSeconds_exact (seconds : Int) :
    (ofSeconds seconds).Valid ∧ (ofSeconds seconds).instant = seconds := by
  obtain ⟨valid, number⟩ := Date.ofDays_exact (seconds / 86400)
  refine ⟨⟨valid, ?_, ?_, ?_⟩, ?_⟩
  all_goals simp only [ofSeconds, instant, number]
  all_goals omega

theorem Valid.shows (valid : m.Valid) : Shows m.text m := by
  obtain ⟨date, hour, minute, second⟩ := valid
  have month := date.month_le
  have day := date.day_lt
  exact ⟨_, _, _, _, _, _, text_eq m, Date.showsYear_yearText _, twoDigits_padded (by omega),
    twoDigits_padded (by omega), twoDigits_padded (by omega), twoDigits_padded (by omega),
    twoDigits_padded (by omega)⟩

theorem Shows.unique {t : Text} (shows : Shows t m) (shows' : Shows t n) : m = n := by
  obtain ⟨year, month, day, hour, minute, second, rfl, year_shown, two_month, two_day, two_hour,
    two_minute, two_second⟩ := shows
  obtain ⟨year', month', day', hour', minute', second', cut, year_shown', two_month', two_day',
    two_hour', two_minute', two_second'⟩ := shows'
  obtain ⟨rfl, behindYear⟩ := List.append_inj' cut (by
    simp [two_month.2, two_day.2, two_hour.2, two_minute.2, two_second.2, two_month'.2, two_day'.2,
      two_hour'.2, two_minute'.2, two_second'.2])
  obtain ⟨rfl, behindMonth⟩ := two_month.cut two_month' (List.cons.inj behindYear).2
  obtain ⟨rfl, behindDay⟩ := two_day.cut two_day' behindMonth
  obtain ⟨rfl, behindHour⟩ := two_hour.cut two_hour' behindDay
  obtain ⟨rfl, rfl⟩ := two_minute.cut two_minute' behindHour
  obtain ⟨⟨_, _, _⟩, _, _, _⟩ := m
  obtain ⟨⟨_, _, _⟩, _, _, _⟩ := n
  rw [mk.injEq, Date.mk.injEq]
  exact ⟨⟨year_shown.numeral.unique year_shown'.numeral, two_month.1.unique two_month'.1,
    two_day.1.unique two_day'.1⟩, two_hour.1.unique two_hour'.1, two_minute.1.unique two_minute'.1,
    two_second.1.unique two_second'.1⟩

theorem before_or_eq_or_before (m n : Moment) : m.Before n ∨ m = n ∨ n.Before m := by
  have dates := Date.before_or_eq_or_before m.date n.date
  obtain ⟨date, hour, minute, second⟩ := m
  obtain ⟨date', hour', minute', second'⟩ := n
  simp only [Before, mk.injEq] at *
  rcases dates with before | same | after
  · exact .inl (.inl before)
  · simp only [same, true_and]
    omega
  · exact .inr (.inr (.inl after))

theorem instant_lt_of_before (valid : m.Valid) (valid' : n.Valid) (before : m.Before n) :
    m.instant < n.instant := by
  obtain ⟨date, hour, minute, second⟩ := valid
  unfold instant
  rcases before with dates | ⟨same, times⟩
  · have days := (Date.number_lt_iff date valid'.date).mpr dates
    omega
  · rw [same]
    omega

theorem instant_lt_iff_and_inj (valid : m.Valid) (valid' : n.Valid) :
    (m.instant < n.instant ↔ m.Before n) ∧ (m.instant = n.instant → m = n) :=
  Date.lt_iff_and_inj (before_or_eq_or_before m n) (instant_lt_of_before valid valid')
    (instant_lt_of_before valid' valid)

theorem instant_lt_iff (valid : m.Valid) (valid' : n.Valid) :
    m.instant < n.instant ↔ m.Before n :=
  (instant_lt_iff_and_inj valid valid').1

/-- In the years that are shown without a sign, texts stand in the order of their moments. -/
theorem text_lt_iff (valid : m.Valid) (valid' : n.Valid)
    (plain : 0 ≤ m.date.year ∧ m.date.year ≤ 9999) (plain' : 0 ≤ n.date.year ∧ n.date.year ≤ 9999) :
    m.text < n.text ↔ m.Before n := by
  have month := valid.date.month_le
  have month' := valid'.date.month_le
  have day := valid.date.day_lt
  have day' := valid'.date.day_lt
  obtain ⟨-, hour, minute, second⟩ := valid
  obtain ⟨-, hour', minute', second'⟩ := valid'
  rw [text_eq, text_eq, Date.yearText_eq plain, Date.yearText_eq plain',
    padded_append_lt_iff (by decide) (by omega) (by omega),
    padded_append_lt_iff (by decide) (by omega) (by omega),
    padded_append_lt_iff (by decide) (by omega) (by omega),
    padded_append_lt_iff (by decide) (by omega) (by omega),
    padded_append_lt_iff (by decide) (by omega) (by omega),
    padded_lt_iff (by decide) (by omega) (by omega)]
  obtain ⟨⟨_, _, _⟩, _, _, _⟩ := m
  obtain ⟨⟨_, _, _⟩, _, _, _⟩ := n
  simp only [Before, Date.Before, Date.mk.injEq] at *
  omega

def earliest : Moment := ⟨⟨-262143, 1, 1⟩, 0, 0, 0⟩
def latest : Moment := ⟨⟨262142, 12, 31⟩, 23, 59, 59⟩

theorem valid_earliest : earliest.Valid :=
  ⟨⟨by decide, by decide, by decide, by decide⟩, by decide, by decide, by decide⟩

theorem valid_latest : latest.Valid :=
  ⟨⟨by decide, by decide, by decide, by decide⟩, by decide, by decide, by decide⟩

theorem inRange_iff (valid : m.Valid) :
    m.inRange = true ↔ earliest.instant ≤ m.instant ∧ m.instant ≤ latest.instant := by
  rw [← Int.not_lt, ← Int.not_lt, instant_lt_iff valid valid_earliest,
    instant_lt_iff valid_latest valid]
  have day := valid.date.day_lt
  obtain ⟨⟨month_pos, month_le, day_pos, day_le⟩, hour, minute, second⟩ := valid
  obtain ⟨⟨_, _, _⟩, _, _, _⟩ := m
  simp only [inRange, Before, Date.Before, earliest, latest, Date.mk.injEq, Bool.and_eq_true,
    decide_eq_true_eq] at *
  omega

/-- The text gives a number between blanks, and nothing else.  The number fits a signed word of 64
bits, and the instant that it names is in range. -/
structure Pins (t : Text) (n : Int) : Prop where
  written : ∃ before numeral after, t = before ++ (numeral ++ after) ∧
    (∀ c ∈ before, isBlank c = true) ∧ (∀ c ∈ after, isBlank c = true) ∧ Numeral numeral n
  word : -2 ^ 63 ≤ n ∧ n < 2 ^ 63
  range : earliest.instant ≤ n ∧ n ≤ latest.instant

theorem fitsWord_iff {n : Int} : fitsWord n = true ↔ -2 ^ 63 ≤ n ∧ n < 2 ^ 63 := by
  simp only [fitsWord, Bool.and_eq_true, decide_eq_true_eq]
  omega

theorem integer?_trim_eq_some {t : Text} {n : Int} : integer? (trim t) = some n ↔
    ∃ before numeral after, t = before ++ (numeral ++ after) ∧
      (∀ c ∈ before, isBlank c = true) ∧ (∀ c ∈ after, isBlank c = true) ∧ Numeral numeral n := by
  rw [integer?_eq_some]
  constructor
  · intro numeral
    obtain ⟨before, cut, blank⟩ := trimStart_cut t
    obtain ⟨after, cut', blank'⟩ := trimEnd_cut (trimStart t)
    exact ⟨before, trim t, after, by rw [trim, ← cut', ← cut], blank, blank', numeral⟩
  · rintro ⟨before, written, after, rfl, blank, blank', numeral⟩
    rwa [trim_between blank blank' numeral.nonempty numeral.solid]

theorem Pins.unique {t : Text} {n k : Int} (pins : Pins t n) (pins' : Pins t k) : n = k :=
  Option.some.inj ((integer?_trim_eq_some.mpr pins.written).symm.trans
    (integer?_trim_eq_some.mpr pins'.written))

theorem pinned?_eq_some {t : Text} : pinned? t = some m ↔ Pins t m.instant ∧ m.Valid := by
  simp only [pinned?, Option.filter_eq_some_iff, Option.map_eq_some_iff, fitsWord_iff,
    integer?_trim_eq_some]
  constructor
  · rintro ⟨⟨n, ⟨written, word⟩, rfl⟩, inRange⟩
    obtain ⟨valid, same⟩ := ofSeconds_exact n
    have range := (inRange_iff valid).mp inRange
    rw [same] at range ⊢
    exact ⟨⟨written, word, range⟩, valid⟩
  · rintro ⟨⟨written, word, range⟩, valid⟩
    obtain ⟨valid', same⟩ := ofSeconds_exact m.instant
    exact ⟨⟨m.instant, ⟨written, word⟩, (instant_lt_iff_and_inj valid' valid).2 same⟩,
      (inRange_iff valid).mpr range⟩

/-- A text pins an instant exactly when it gives a number in range, and what is shown is the date
and the time of day that are so many seconds from the start of 1970.  Different instants are shown
by different texts, and in the years that have no sign the texts stand in the order of the
instants. -/
theorem pinned?_exact :
    (∀ t, (pinned? t).isSome = true ↔ ∃ n, Pins t n) ∧
    (∀ t n m, Pins t n → pinned? t = some m → m.Valid ∧ m.instant = n ∧ Shows m.text m) ∧
    ∀ t t' m m', pinned? t = some m → pinned? t' = some m' →
      (m.text = m'.text → m.instant = m'.instant) ∧
      (0 ≤ m.date.year ∧ m.date.year ≤ 9999 → 0 ≤ m'.date.year ∧ m'.date.year ≤ 9999 →
        (m.text < m'.text ↔ m.instant < m'.instant)) := by
  refine ⟨fun t => ⟨?_, ?_⟩, ?_, ?_⟩
  · intro some
    obtain ⟨m, pinned⟩ := Option.isSome_iff_exists.mp some
    exact ⟨m.instant, (pinned?_eq_some.mp pinned).1⟩
  · rintro ⟨n, pins⟩
    obtain ⟨valid, same⟩ := ofSeconds_exact n
    exact Option.isSome_iff_exists.mpr ⟨_, pinned?_eq_some.mpr ⟨same.symm ▸ pins, valid⟩⟩
  · intro t n m pins pinned
    obtain ⟨pins', valid⟩ := pinned?_eq_some.mp pinned
    exact ⟨valid, pins'.unique pins, valid.shows⟩
  · intro t t' m m' pinned pinned'
    obtain ⟨-, valid⟩ := pinned?_eq_some.mp pinned
    obtain ⟨-, valid'⟩ := pinned?_eq_some.mp pinned'
    constructor
    · intro same
      have shows := valid.shows
      rw [same] at shows
      rw [shows.unique valid'.shows]
    · intro plain plain'
      rw [text_lt_iff valid valid' plain plain', instant_lt_iff valid valid']

/- The last second of a leap day, in blanks and with a sign, and the second before the count. -/
def leapSecond : Text := " +951868799\n".toList
def secondBefore : Text := "-1".toList

theorem pinned?_exact_leapSecond : Pins leapSecond 951868799 ∧
    pinned? leapSecond = some ⟨⟨2000, 2, 29⟩, 23, 59, 59⟩ ∧
    pinned? secondBefore = some ⟨⟨1969, 12, 31⟩, 23, 59, 59⟩ ∧
    instant ⟨⟨2000, 2, 29⟩, 23, 59, 59⟩ = 951868799 ∧
    Shows "2000-02-29 23:59:59".toList ⟨⟨2000, 2, 29⟩, 23, 59, 59⟩ ∧
    ("1969-12-31 23:59:59".toList < "2000-02-29 23:59:59".toList ↔
      instant ⟨⟨1969, 12, 31⟩, 23, 59, 59⟩ < instant ⟨⟨2000, 2, 29⟩, 23, 59, 59⟩) := by
  have pinned : pinned? leapSecond = some ⟨⟨2000, 2, 29⟩, 23, 59, 59⟩ := by decide
  have pinned' : pinned? secondBefore = some ⟨⟨1969, 12, 31⟩, 23, 59, 59⟩ := by decide
  have seconds : instant ⟨⟨2000, 2, 29⟩, 23, 59, 59⟩ = 951868799 := by
    rw [instant, Date.number_eq]
    decide
  obtain ⟨taken, shown, compared⟩ := pinned?_exact
  obtain ⟨n, pins⟩ := (taken leapSecond).mp (by rw [pinned]; rfl)
  obtain ⟨-, same, shows⟩ := shown leapSecond n _ pins pinned
  rw [← same, seconds] at pins
  exact ⟨pins, pinned, pinned', seconds, shows,
    (compared _ _ _ _ pinned' pinned).2 (by decide) (by decide)⟩

end

end Moment
end ReferencePage
