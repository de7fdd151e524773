/-
This file proves what the parser makes of dates: which values name a day, on which
day of the property's zone they fall, and that every event has a UID and two real
days in order.

The three forms that name a local date keep their date part. A UTC date-time is an
instant, and falls on the day its zone is at. A missing DTEND is the next day,
read through a constructor that takes the years 0 to 99 for 1900 to 1999.

The round trip of the parser through a date object is arithmetic on days, and
exactly the days of the calendar survive it. Of `Intl` one thing is assumed, in
`FixedOffset`: that the formatter tells the proleptic Gregorian date of an instant
on a clock a whole number of hours ahead. An event's two values are traced back to
lines of the body by an invariant of the scan, which is what makes a statement
about all events of any body possible.
-/

import Sambung.Calendar
import Sambung.System

namespace Sambung

/-! ### Trimmed texts -/

theorem trim_trim (text : Text) : trim (trim text) = trim text := by
  have front : (trim text).dropWhile isWhiteSpace = trim text := by
    cases shown : trim text with
    | nil => rfl
    | cons first rest =>
      have shorter : first :: rest <+: text.dropWhile isWhiteSpace :=
        shown ▸ List.rdropWhile_prefix isWhiteSpace _
      obtain ⟨more, whole⟩ := shorter
      have visible := List.head?_dropWhile_not isWhiteSpace text
      rw [← whole] at visible
      exact List.dropWhile_cons_of_neg (Bool.eq_false_iff.mp visible)
  show ((trim text).dropWhile isWhiteSpace).rdropWhile isWhiteSpace = trim text
  rw [front]
  exact List.rdropWhile_idempotent isWhiteSpace _

/-! ### Days -/

theorem daysInMonth_le (year month : Nat) : daysInMonth year month ≤ 31 := by
  unfold daysInMonth
  split
  · split
    · decide
    · decide
  all_goals decide

/-- The day a year, a month counted from 0 and a date make, where the month is one of a year. -/
theorem makeDay_eq (year : Int) {month : Nat} (first : 1 ≤ month) (last : month ≤ 12)
    (date : Int) : makeDay year (month - 1) date = daysFromCivil year month date := by
  rw [makeDay, daysFromCivil_day year month date]
  have quotient : ((month : Int) - 1) / 12 = 0 := by omega
  have remainder : ((month : Int) - 1) % 12 + 1 = month := by omega
  rw [quotient, remainder, add_zero]
  ring

/-- The round trip of the parser: exactly the days of the calendar come back. -/
theorem civilFromDays_makeDay_iff {year month day : Nat} (fits : year < 10 ^ 4) :
    civilFromDays (makeDay year (month - 1) day) = ⟨year, month, day⟩ ↔
      RealDate year month day := by
  constructor
  · intro same
    obtain ⟨monthFirst, monthLast, dayFirst, dayLast⟩ :=
      civilFromDays_valid (makeDay year (month - 1) day)
    rw [same] at monthFirst monthLast dayFirst dayLast
    dsimp only at monthFirst monthLast dayFirst dayLast
    have inMonth := dayLast (Int.natCast_nonneg year)
    simp only [Int.toNat_natCast] at inMonth
    exact ⟨by omega, by omega, by omega, by omega⟩
  · intro real
    rw [makeDay_eq year real.monthFirst real.monthLast]
    exact real.civilFromDays fits

/-- The last day a four-digit year has. -/
theorem civilFromDays_year_le {days : Int} (first : daysFromCivil 0 1 1 ≤ days)
    (last : days ≤ daysFromCivil 9999 12 31 + 1) :
    (civilFromDays days).year ≤ 9999 ↔ days ≤ daysFromCivil 9999 12 31 := by
  refine ⟨fun within => ?_, fun early => (civilFromDays_year first early).2⟩
  by_contra late
  have same : days = daysFromCivil 9999 12 31 + 1 := by omega
  rw [same] at within
  exact absurd within (by decide)

theorem isoParts_dateText {days : Int} (first : daysFromCivil 0 1 1 ≤ days)
    (last : days ≤ daysFromCivil 9999 12 31 + 1) :
    (isoParts (dateText days)).isSome ↔ days ≤ daysFromCivil 9999 12 31 := by
  constructor
  · intro shaped
    by_contra late
    have same : days = daysFromCivil 9999 12 31 + 1 := by omega
    rw [same] at shaped
    exact absurd shaped (by decide)
  · intro early
    obtain ⟨year, month, day, parts, -⟩ := isoDay_eq_some.mp (isoDay_dateText first early)
    rw [parts]
    rfl

/-! ### Values -/

/-- `YYYYMMDD`. -/
def dateDigits (year month day : Nat) : Text :=
  Decimal.padded 4 year ++ (Decimal.padded 2 month ++ Decimal.padded 2 day)

/-- `HHMMSS`. -/
def timeDigits (hours minutes seconds : Nat) : Text :=
  Decimal.padded 2 hours ++ (Decimal.padded 2 minutes ++ Decimal.padded 2 seconds)

theorem number_padded {width n : Nat} (positive : 0 < width) (fits : n < 10 ^ width) :
    number (Decimal.padded width n) = n := (Decimal.padded_spec positive fits).2.2

theorem leadingDigits_padded {width n : Nat} (positive : 0 < width) (fits : n < 10 ^ width)
    (rest : Text) :
    leadingDigits width (Decimal.padded width n ++ rest) = some (Decimal.padded width n, rest) := by
  obtain ⟨length, digits, -⟩ := Decimal.padded_spec positive fits
  have read := leadingDigits_append digits rest
  rwa [length] at read

theorem leadingDigits_some {count : Nat} (positive : 0 < count) {text digits rest : Text}
    (read : leadingDigits count text = some (digits, rest)) :
    text = digits ++ rest ∧ digits = Decimal.padded count (number digits) ∧
      number digits < 10 ^ count := by
  unfold leadingDigits at read
  split at read
  · rename_i run
    cases read
    have all : ∀ c ∈ text.take count, c.isDigit := List.all_eq_true.mp run.2
    have nonempty : text.take count ≠ [] := by
      intro empty
      rw [empty] at run
      exact absurd run.1 (Nat.ne_of_lt positive)
    have padded := Decimal.padded_value nonempty all
    have small := Decimal.value_lt all
    rw [run.1] at padded small
    exact ⟨(List.take_append_drop count text).symm, padded.symm, small⟩
  · cases read

theorem utcTime_digits {hours minutes seconds : Nat} (hoursFit : hours < 100)
    (minutesFit : minutes < 100) (secondsFit : seconds < 100) :
    utcTime ('T' :: (timeDigits hours minutes seconds ++ ['Z'])) =
      some (hours, minutes, seconds) := by
  rw [timeDigits, List.append_assoc, List.append_assoc]
  simp only [utcTime, show Char.toUpper 'T' = 'T' from by decide, if_true, Option.bind_eq_bind,
    leadingDigits_padded (show 0 < 2 by decide) hoursFit,
    leadingDigits_padded (show 0 < 2 by decide) minutesFit,
    leadingDigits_padded (show 0 < 2 by decide) secondsFit, Option.bind_some,
    number_padded (show 0 < 2 by decide) hoursFit, number_padded (show 0 < 2 by decide) minutesFit,
    number_padded (show 0 < 2 by decide) secondsFit]
  rfl

/-- A value without a final `Z` is no UTC date-time. -/
theorem utcTime_local {hours minutes seconds : Nat} (hoursFit : hours < 100)
    (minutesFit : minutes < 100) (secondsFit : seconds < 100) :
    utcTime ('T' :: timeDigits hours minutes seconds) = none := by
  have whole := leadingDigits_padded (show 0 < 2 by decide) secondsFit []
  rw [List.append_nil] at whole
  rw [timeDigits]
  simp only [utcTime, show Char.toUpper 'T' = 'T' from by decide, if_true, Option.bind_eq_bind,
    leadingDigits_padded (show 0 < 2 by decide) hoursFit,
    leadingDigits_padded (show 0 < 2 by decide) minutesFit, whole, Option.bind_some]

/-! ### Dates read -/

/-- A value that opens with the digits of a date, read up to the question whether the date is of
the calendar. -/
theorem toIsoDate_digits {value rest : Text} {year month day : Nat} (yearFits : year < 10 ^ 4)
    (monthFits : month < 10 ^ 2) (dayFits : day < 10 ^ 2)
    (reads : value.dropWhile isWhiteSpace = dateDigits year month day ++ rest)
    (zone : ZoneContext) :
    toIsoDate value zone =
      if civilFromDays (makeDay year (month - 1) day) ≠ ⟨year, month, day⟩ then none
      else match utcTime rest with
      | none => some (isoDigits year month day)
      | some (hours, minutes, seconds) =>
        if hours > 23 ∨ minutes > 59 ∨ seconds > 60 then none
        else
          let shown := zone.toLocalDate (makeDay year (month - 1) day * MS_PER_DAY +
            ((hours * 60 + minutes) * 60 + seconds : Nat) * 1000)
          if (isoParts shown).isSome then some shown else none := by
  rw [dateDigits, List.append_assoc, List.append_assoc] at reads
  unfold toIsoDate
  simp only [reads, Option.bind_eq_bind, leadingDigits_padded (show 0 < 4 by decide) yearFits,
    leadingDigits_padded (show 0 < 2 by decide) monthFits,
    leadingDigits_padded (show 0 < 2 by decide) dayFits, Option.bind_some,
    number_padded (show 0 < 4 by decide) yearFits, number_padded (show 0 < 2 by decide) monthFits,
    number_padded (show 0 < 2 by decide) dayFits]
  rfl

/-- A value whose date is of the calendar, read. -/
theorem toIsoDate_real {value rest : Text} {year month day : Nat} (yearFits : year < 10 ^ 4)
    (real : RealDate year month day)
    (reads : value.dropWhile isWhiteSpace = dateDigits year month day ++ rest)
    (zone : ZoneContext) :
    toIsoDate value zone =
      match utcTime rest with
      | none => some (isoDigits year month day)
      | some (hours, minutes, seconds) =>
        if hours > 23 ∨ minutes > 59 ∨ seconds > 60 then none
        else
          let shown := zone.toLocalDate (daysFromCivil year month day * MS_PER_DAY +
            ((hours * 60 + minutes) * 60 + seconds : Nat) * 1000)
          if (isoParts shown).isSome then some shown else none := by
  have monthFits : month < 10 ^ 2 := real.monthLast.trans_lt (by decide)
  have dayFits : day < 10 ^ 2 :=
    real.dayLast.trans_lt ((daysInMonth_le year month).trans_lt (by decide))
  rw [toIsoDate_digits yearFits monthFits dayFits reads zone,
    if_neg (not_not_intro ((civilFromDays_makeDay_iff yearFits).mpr real)),
    makeDay_eq year real.monthFirst real.monthLast]

/-- Where the date is none of the calendar, nothing is read. -/
theorem toIsoDate_unreal {value rest : Text} {year month day : Nat} (yearFits : year < 10 ^ 4)
    (monthFits : month < 10 ^ 2) (dayFits : day < 10 ^ 2) (unreal : ¬ RealDate year month day)
    (reads : value.dropWhile isWhiteSpace = dateDigits year month day ++ rest)
    (zone : ZoneContext) : toIsoDate value zone = none := by
  rw [toIsoDate_digits yearFits monthFits dayFits reads zone,
    if_pos (mt (civilFromDays_makeDay_iff yearFits).mp unreal)]

/-- What is read starts with the digits of a day of the calendar. -/
theorem toIsoDate_some {value text : Text} {zone : ZoneContext}
    (read : toIsoDate value zone = some text) :
    ∃ year month day rest, year < 10 ^ 4 ∧ RealDate year month day ∧
      value.dropWhile isWhiteSpace = dateDigits year month day ++ rest := by
  have read' := read
  unfold toIsoDate at read'
  obtain ⟨⟨y, first⟩, yearRead, read'⟩ := Option.bind_eq_some_iff.mp read'
  obtain ⟨⟨mo, second⟩, monthRead, read'⟩ := Option.bind_eq_some_iff.mp read'
  obtain ⟨⟨d, rest⟩, dayRead, -⟩ := Option.bind_eq_some_iff.mp read'
  obtain ⟨whole, yearPadded, yearFits⟩ := leadingDigits_some (by decide) yearRead
  obtain ⟨afterYear, monthPadded, monthFits⟩ := leadingDigits_some (by decide) monthRead
  obtain ⟨afterMonth, dayPadded, dayFits⟩ := leadingDigits_some (by decide) dayRead
  have reads : value.dropWhile isWhiteSpace =
      dateDigits (number y) (number mo) (number d) ++ rest := by
    rw [dateDigits, ← yearPadded, ← monthPadded, ← dayPadded, whole, afterYear, afterMonth,
      List.append_assoc, List.append_assoc]
  refine ⟨number y, number mo, number d, rest, yearFits, ?_, reads⟩
  by_contra unreal
  rw [toIsoDate_unreal yearFits monthFits dayFits unreal reads zone] at read
  cases read

/-! ### The zone's clock -/

/-- The day an instant falls on where the clock stands `hours` ahead of UTC. -/
def localDay (hours : Int) (instant : Instant) : Int := (instant + hours * 3600000) / MS_PER_DAY

/-- The instant of a UTC date-time. -/
def utcInstant (year month day hours minutes seconds : Nat) : Instant :=
  daysFromCivil year month day * MS_PER_DAY + ((hours * 60 + minutes) * 60 + seconds : Nat) * 1000

/-- The formatter gives each instant from year 0 on its proleptic Gregorian date on a clock `hours`
ahead of UTC. That is the one thing taken for granted of `Intl`, and it idealises year 0, for which
the real formatter prints the year of the era, 1 BC as `1`. -/
def FixedOffset (intl : DateTimeFormat) (timeZone : String) (hours : Int) : Prop :=
  ∃ formatToParts, intl timeZone = some formatToParts ∧
    ∀ instant, 0 ≤ (civilFromDays (localDay hours instant)).year →
      formatToParts instant = fixedOffsetParts hours instant

/-- The time of day is one of a clock, a leap second among them. -/
def RealTime (hours minutes seconds : Nat) : Prop := hours ≤ 23 ∧ minutes ≤ 59 ∧ seconds ≤ 60

section Zone

variable {intl : DateTimeFormat} {timeZone : String} {offset : Int} {zone : ZoneContext}

theorem FixedOffset.toLocalDate (fixed : FixedOffset intl timeZone offset)
    (made : zoneContext intl timeZone = some zone) {instant : Instant}
    (positive : 0 ≤ (civilFromDays (localDay offset instant)).year) :
    zone.toLocalDate instant = dateText (localDay offset instant) := by
  obtain ⟨formatToParts, known, parts⟩ := fixed
  rw [zoneContext, known] at made
  cases made
  dsimp only
  rw [parts instant positive]
  rfl

/-- An offset to the east takes a time of day to its day or to the next. -/
theorem localDay_utcInstant (eastward : 0 ≤ offset) (withinDay : offset < 24) (year month day : Nat)
    {hours minutes seconds : Nat} (real : RealTime hours minutes seconds) :
    daysFromCivil year month day ≤ localDay offset (utcInstant year month day hours minutes seconds)
      ∧ localDay offset (utcInstant year month day hours minutes seconds) ≤
        daysFromCivil year month day + 1 := by
  obtain ⟨hoursLe, minutesLe, secondsLe⟩ := real
  unfold localDay utcInstant MS_PER_DAY
  generalize daysFromCivil year month day = midnight
  push_cast
  omega

/-- A UTC date-time on the property's clock. -/
theorem toLocalDate_utcInstant (fixed : FixedOffset intl timeZone offset)
    (eastward : 0 ≤ offset) (withinDay : offset < 24)
    (made : zoneContext intl timeZone = some zone) {year month day hours minutes seconds : Nat}
    (yearFits : year < 10 ^ 4) (realDate : RealDate year month day)
    (realTime : RealTime hours minutes seconds) :
    let shown := localDay offset (utcInstant year month day hours minutes seconds)
    zone.toLocalDate (utcInstant year month day hours minutes seconds) = dateText shown ∧
      daysFromCivil 0 1 1 ≤ shown ∧ shown ≤ daysFromCivil 9999 12 31 + 1 := by
  intro shown
  obtain ⟨notBefore, notAfter⟩ := localDay_utcInstant eastward withinDay year month day realTime
  obtain ⟨first, last⟩ := realDate.between yearFits
  have early : daysFromCivil 0 1 1 ≤ shown := first.trans notBefore
  have late : shown ≤ daysFromCivil 9999 12 31 + 1 :=
    notAfter.trans (Int.add_le_add_right last 1)
  refine ⟨fixed.toLocalDate made ?_, early, late⟩
  by_cases within : shown ≤ daysFromCivil 9999 12 31
  · exact (civilFromDays_year early within).1
  · show 0 ≤ (civilFromDays shown).year
    rw [show shown = daysFromCivil 9999 12 31 + 1 by omega]
    decide

end Zone

/-! ### The next day -/

theorem isoDay_isoDigits {year month day : Nat} (yearFits : year < 10 ^ 4)
    (real : RealDate year month day) :
    isoDay (isoDigits year month day) = some (daysFromCivil year month day) := by
  have dayLast := real.dayLast
  have atMost := daysInMonth_le year month
  have monthLast := real.monthLast
  exact isoDay_eq_some.mpr
    ⟨year, month, day, isoParts_isoDigits yearFits (by omega) (by omega), real, rfl⟩

theorem toISOStringDay_within {days : Int} (first : daysFromCivil 0 1 1 ≤ days)
    (last : days ≤ daysFromCivil 9999 12 31) : toISOStringDay days = dateText days :=
  if_pos (civilFromDays_year first last)

/-- The day after the last is printed with a sign, before every text of the calendar. -/
theorem toISOStringDay_after {text : Text} {day : Int} (real : isoDay text = some day) :
    toISOStringDay (daysFromCivil 9999 12 31 + 1) < text := by
  obtain ⟨year, month, date, parts, -⟩ := isoDay_eq_some.mp real
  obtain ⟨rfl, yearFits, -⟩ := isoParts_some parts
  obtain ⟨length, digits, -⟩ := Decimal.padded_spec (show 0 < 4 by decide) yearFits
  rw [show toISOStringDay (daysFromCivil 9999 12 31 + 1) = "+010000-01".toList by decide +kernel,
    isoDigits]
  cases shown : Decimal.padded 4 year with
  | nil =>
    rw [shown] at length
    cases length
  | cons first rest =>
    rw [shown] at digits
    obtain ⟨low, -⟩ := Decimal.isDigit_bounds (digits first List.mem_cons_self)
    refine List.cons_lt_cons_iff.mpr (Or.inl ?_)
    exact Nat.lt_of_lt_of_le (by decide : '+'.toNat < 48) low

/-- The year a next day is reckoned in. -/
theorem dateUtcYear_nat {year : Nat} (fits : year < 10 ^ 4) :
    ∃ reckoned : Nat, dateUtcYear year = reckoned ∧ reckoned < 10 ^ 4 ∧
      (year < 100 → reckoned = 1900 + year) ∧ (100 ≤ year → reckoned = year) := by
  unfold dateUtcYear
  split
  · exact ⟨1900 + year, rfl, by omega, fun _ => rfl, fun _ => by omega⟩
  · exact ⟨year, rfl, fits, fun _ => by omega, fun _ => rfl⟩

theorem addOneDay_isoDigits {year month day : Nat} (yearFits : year < 10 ^ 4)
    (real : RealDate year month day) :
    addOneDay (isoDigits year month day) =
      toISOStringDay (daysFromCivil (dateUtcYear year) month day + 1) := by
  have dayLast := real.dayLast
  have atMost := daysInMonth_le year month
  have monthLast := real.monthLast
  rw [addOneDay, isoParts_isoDigits yearFits (by omega) (by omega)]
  show toISOStringDay (makeDay (dateUtcYear year) (month - 1) (day + 1)) = _
  rw [makeDay_eq _ real.monthFirst monthLast, daysFromCivil_day,
    daysFromCivil_day (dateUtcYear year) month day]
  congr 1
  ring

/-- The day after a day of the calendar in a four-digit year, whether or not that year has the
day itself. -/
theorem nextDay_between {year month day : Nat} (fits : year < 10 ^ 4) (monthFirst : 1 ≤ month)
    (monthLast : month ≤ 12) (dayFirst : 1 ≤ day) (dayLast : day ≤ 31) :
    daysFromCivil 0 1 1 ≤ daysFromCivil year month day + 1 ∧
      daysFromCivil year month day + 1 ≤ daysFromCivil 9999 12 31 + 1 := by
  have start : RealDate year month 1 :=
    ⟨monthFirst, monthLast, le_rfl, le_trans (by decide) (daysInMonth_ge year month)⟩
  obtain ⟨first, -⟩ := start.between fits
  have later := daysFromCivil_day year month day
  push_cast at first later ⊢
  refine ⟨by omega, ?_⟩
  have toDecember := daysFromCivil_monthStart year monthFirst monthLast le_rfl
  have december := daysFromCivil_day year 12 31
  have newYearsEve : RealDate year 12 31 := ⟨by decide, by decide, by decide, le_rfl⟩
  obtain ⟨-, last⟩ := newYearsEve.between fits
  push_cast at toDecember last
  omega

/-- Where the next day comes later as a text, it is a day of the calendar. -/
theorem addOneDay_real {start : Text} {first : Int} (real : isoDay start = some first)
    (later : start < addOneDay start) : ∃ last, isoDay (addOneDay start) = some last := by
  obtain ⟨year, month, day, parts, date, -⟩ := isoDay_eq_some.mp real
  obtain ⟨rfl, yearFits, -⟩ := isoParts_some parts
  obtain ⟨reckoned, same, fits, -⟩ := dateUtcYear_nat yearFits
  rw [addOneDay_isoDigits yearFits date, same] at later ⊢
  obtain ⟨low, high⟩ := nextDay_between fits date.monthFirst date.monthLast date.dayFirst
    (date.dayLast.trans (daysInMonth_le year month))
  by_cases within : daysFromCivil reckoned month day + 1 ≤ daysFromCivil 9999 12 31
  · rw [toISOStringDay_within low within]
    exact ⟨_, isoDay_dateText low within⟩
  · rw [show daysFromCivil reckoned month day + 1 = daysFromCivil 9999 12 31 + 1 by omega] at later
    exact absurd (toISOStringDay_after real) (not_lt.mpr later.le)

/-! ### Forms of a value -/

section Forms

variable {intl : DateTimeFormat} {timeZone : String} {offset : Int} {zone : ZoneContext}
variable {year month day hours minutes seconds : Nat}

/-- A text that opens with a digit opens with no white space. -/
theorem dateDigits_visible (fits : year < 10 ^ 4) (rest : Text) :
    (dateDigits year month day ++ rest).dropWhile isWhiteSpace =
      dateDigits year month day ++ rest := by
  obtain ⟨length, digits, -⟩ := Decimal.padded_spec (show 0 < 4 by decide) fits
  unfold dateDigits
  cases shown : Decimal.padded 4 year with
  | nil =>
    rw [shown] at length
    cases length
  | cons first more =>
    rw [shown] at digits
    obtain ⟨low, high⟩ := Decimal.isDigit_bounds (digits first List.mem_cons_self)
    refine List.dropWhile_cons_of_neg ?_
    simp [isWhiteSpace]
    omega

/-- A DATE of the calendar is read as its own date, in whatever zone. -/
theorem toIsoDate_date (fits : year < 10 ^ 4) (real : RealDate year month day) :
    toIsoDate (dateDigits year month day) zone = some (isoDigits year month day) := by
  have whole : (dateDigits year month day).dropWhile isWhiteSpace =
      dateDigits year month day ++ [] := by
    rw [← List.append_nil (dateDigits year month day)]
    exact (dateDigits_visible fits []).trans (List.append_nil _).symm
  rw [toIsoDate_real fits real whole]
  rfl

/-- A local date-time is its date, whatever its time. -/
theorem toIsoDate_local (fits : year < 10 ^ 4) (real : RealDate year month day)
    (hoursFit : hours < 100) (minutesFit : minutes < 100) (secondsFit : seconds < 100) :
    toIsoDate (dateDigits year month day ++ 'T' :: timeDigits hours minutes seconds) zone =
      some (isoDigits year month day) := by
  rw [toIsoDate_real fits real (dateDigits_visible fits _),
    utcTime_local hoursFit minutesFit secondsFit]

/-- A UTC date-time is the date its instant falls on, as long as its year has four digits. -/
theorem toIsoDate_utc (fixed : FixedOffset intl timeZone offset) (eastward : 0 ≤ offset)
    (withinDay : offset < 24) (made : zoneContext intl timeZone = some zone)
    (fits : year < 10 ^ 4) (real : RealDate year month day)
    (realTime : RealTime hours minutes seconds) :
    toIsoDate (dateDigits year month day ++ 'T' :: (timeDigits hours minutes seconds ++ ['Z']))
        zone =
      let shown := localDay offset (utcInstant year month day hours minutes seconds)
      if (civilFromDays shown).year ≤ 9999 then some (dateText shown) else none := by
  obtain ⟨hoursLe, minutesLe, secondsLe⟩ := realTime
  rw [toIsoDate_real fits real (dateDigits_visible fits _),
    utcTime_digits (by omega) (by omega) (by omega)]
  obtain ⟨text, early, late⟩ := toLocalDate_utcInstant fixed eastward withinDay made fits real
    ⟨hoursLe, minutesLe, secondsLe⟩
  unfold utcInstant at text early late ⊢
  dsimp only
  rw [if_neg (by omega), text]
  simp only [isoParts_dateText early late, civilFromDays_year_le early late]

/-- A value of a date the calendar lacks, or of a UTC time no clock shows. -/
def UnrealValue (value : Text) : Prop :=
  (∃ year month day rest, year < 10 ^ 4 ∧ month < 10 ^ 2 ∧ day < 10 ^ 2 ∧
    ¬ RealDate year month day ∧
    value.dropWhile isWhiteSpace = dateDigits year month day ++ rest) ∨
  ∃ year month day hours minutes seconds, year < 10 ^ 4 ∧ month < 10 ^ 2 ∧ day < 10 ^ 2 ∧
    hours < 100 ∧ minutes < 100 ∧ seconds < 100 ∧ ¬ RealTime hours minutes seconds ∧
    value = dateDigits year month day ++ 'T' :: (timeDigits hours minutes seconds ++ ['Z'])

theorem UnrealValue.toIsoDate {value : Text} (unreal : UnrealValue value) (zone : ZoneContext) :
    Sambung.toIsoDate value zone = none := by
  rcases unreal with ⟨year, month, day, rest, fits, monthFits, dayFits, unreal, reads⟩ |
    ⟨year, month, day, hours, minutes, seconds, fits, monthFits, dayFits, hoursFit, minutesFit,
      secondsFit, unreal, rfl⟩
  · exact toIsoDate_unreal fits monthFits dayFits unreal reads zone
  · by_cases real : RealDate year month day
    · rw [toIsoDate_real fits real (dateDigits_visible fits _),
        utcTime_digits hoursFit minutesFit secondsFit]
      refine if_pos ?_
      unfold RealTime at unreal
      omega
    · exact toIsoDate_unreal fits monthFits dayFits real (dateDigits_visible fits _) zone

/-- What is read is a day of the calendar. -/
theorem toIsoDate_isoDay (fixed : FixedOffset intl timeZone offset) (eastward : 0 ≤ offset)
    (withinDay : offset < 24) (made : zoneContext intl timeZone = some zone) {value text : Text}
    (read : Sambung.toIsoDate value zone = some text) : ∃ days, isoDay text = some days := by
  obtain ⟨year, month, day, rest, fits, real, reads⟩ := toIsoDate_some read
  rw [toIsoDate_real fits real reads] at read
  cases time : utcTime rest with
  | none =>
    rw [time] at read
    cases read
    exact ⟨_, isoDay_isoDigits fits real⟩
  | some parts =>
    obtain ⟨hours, minutes, seconds⟩ := parts
    rw [time] at read
    dsimp only at read
    by_cases unreal : hours > 23 ∨ minutes > 59 ∨ seconds > 60
    · rw [if_pos unreal] at read
      cases read
    · have realTime : RealTime hours minutes seconds := by
        unfold RealTime
        omega
      obtain ⟨shown, early, late⟩ :=
        toLocalDate_utcInstant fixed eastward withinDay made fits real realTime
      unfold utcInstant at shown early late
      rw [if_neg unreal, shown] at read
      by_cases shaped : (isoParts (dateText (localDay offset (daysFromCivil year month day *
          MS_PER_DAY + ((hours * 60 + minutes) * 60 + seconds : Nat) * 1000)))).isSome
      · rw [if_pos shaped] at read
        cases read
        exact ⟨_, isoDay_dateText early ((isoParts_dateText early late).mp shaped)⟩
      · rw [if_neg shaped] at read
        cases read

end Forms

/-! ### Events -/

/-- The validation in order, each step on what the one before found. -/
theorem toEvent_eq (fields : VeventFields) (zone : ZoneContext) :
    toEvent fields zone =
      fields.uid.bind fun uid =>
        if trim uid = [] then none
        else
          fields.dtstart.bind fun raw =>
            (toIsoDate raw zone).bind fun start =>
              (fields.dtend.elim (some (addOneDay start)) (toIsoDate · zone)).bind fun stop =>
                if stop = [] ∨ stop ≤ start then none
                else some { uid := String.ofList (trim uid), start, stop } := by
  obtain ⟨uid, dtstart, dtend⟩ := fields
  cases dtend
  · rfl
  · rfl

/-- What an event comes from: a UID with something to show, and two values read, the first
before the second. -/
theorem toEvent_some {fields : VeventFields} {zone : ZoneContext} {event : ImportedEvent}
    (read : toEvent fields zone = some event) :
    ∃ uid raw, fields.uid = some uid ∧ trim uid ≠ [] ∧ fields.dtstart = some raw ∧
      toIsoDate raw zone = some event.start ∧
      fields.dtend.elim (some (addOneDay event.start)) (toIsoDate · zone) = some event.stop ∧
      event.start < event.stop ∧ event.uid = String.ofList (trim uid) := by
  rw [toEvent_eq] at read
  obtain ⟨uid, named, read⟩ := Option.bind_eq_some_iff.mp read
  by_cases blank : trim uid = []
  · rw [if_pos blank] at read
    cases read
  · rw [if_neg blank] at read
    obtain ⟨raw, held, read⟩ := Option.bind_eq_some_iff.mp read
    obtain ⟨start, startRead, read⟩ := Option.bind_eq_some_iff.mp read
    obtain ⟨stop, stopRead, read⟩ := Option.bind_eq_some_iff.mp read
    by_cases inverted : stop = [] ∨ stop ≤ start
    · rw [if_pos inverted] at read
      cases read
    · rw [if_neg inverted] at read
      cases read
      exact ⟨uid, raw, named, blank, held, startRead, stopRead,
        not_le.mp fun le => inverted (Or.inr le), rfl⟩

theorem toEvent_unreal {fields : VeventFields} {value : Text} (unreal : UnrealValue value)
    (held : fields.dtstart = some value ∨ fields.dtend = some value) (zone : ZoneContext) :
    toEvent fields zone = none := by
  cases read : toEvent fields zone with
  | none => rfl
  | some event =>
    obtain ⟨uid, raw, -, -, startHeld, startRead, stopRead, -⟩ := toEvent_some read
    rcases held with start | stop
    · rw [start] at startHeld
      cases startHeld
      rw [unreal.toIsoDate] at startRead
      cases startRead
    · rw [stop] at stopRead
      rw [show Option.elim (some value) _ (toIsoDate · zone) = toIsoDate value zone from rfl,
        unreal.toIsoDate] at stopRead
      cases stopRead

/-! ### The scan -/

/-- Some line gives the property the value. -/
def Stated (lines : List Text) (name : String) (value : Text) : Prop :=
  ∃ line ∈ lines, ∃ parsed, splitLine line = some parsed ∧ parsed.name = name.toList ∧
    parsed.value = value

/-- The fields are values of lines. -/
structure VeventFields.StatedBy (fields : VeventFields) (lines : List Text) : Prop where
  uid : ∀ value ∈ fields.uid, Stated lines "UID" value
  dtstart : ∀ value ∈ fields.dtstart, Stated lines "DTSTART" value
  dtend : ∀ value ∈ fields.dtend, Stated lines "DTEND" value

theorem VeventFields.StatedBy.empty (lines : List Text) : VeventFields.empty.StatedBy lines where
  uid _ held := by cases held
  dtstart _ held := by cases held
  dtend _ held := by cases held

/-- The scan's events and open fields come from lines. -/
structure ParseState.Traced (zone : ZoneContext) (lines : List Text) (state : ParseState) :
    Prop where
  events : ∀ event ∈ state.events, ∃ fields : VeventFields, fields.StatedBy lines ∧
    toEvent fields zone = some event
  current : ∀ fields ∈ state.current, fields.StatedBy lines

theorem VeventFields.StatedBy.collect {fields : VeventFields} {lines : List Text} {line : Text}
    {parsed : ContentLine} (stated : fields.StatedBy lines) (member : line ∈ lines)
    (split : splitLine line = some parsed) (trusted : parsed.trusted) :
    (fields.collect parsed.name parsed.value).StatedBy lines := by
  unfold VeventFields.collect
  by_cases uid : parsed.name = "UID".toList
  · rw [if_pos uid]
    refine { stated with uid := fun value held => ?_ }
    rcases Option.or_eq_some_iff.mp held with before | ⟨-, same⟩
    · exact stated.uid value before
    · cases same
      exact ⟨line, member, parsed, split, uid, rfl⟩
  · rw [if_neg uid]
    by_cases dtstart : parsed.name = "DTSTART".toList
    · rw [if_pos dtstart]
      refine { stated with dtstart := fun value held => ?_ }
      rcases Option.or_eq_some_iff.mp held with before | ⟨-, same⟩
      · exact stated.dtstart value before
      · cases same
        exact ⟨line, member, parsed, split, dtstart, rfl⟩
    · rw [if_neg dtstart]
      refine { stated with dtend := fun value held => ?_ }
      rcases Option.or_eq_some_iff.mp held with before | ⟨-, same⟩
      · exact stated.dtend value before
      · cases same
        exact ⟨line, member, parsed, split, (trusted.resolve_left uid).resolve_left dtstart, rfl⟩

theorem scanLine_traced {zone : ZoneContext} {lines : List Text} {state : ParseState}
    {line : Text} (traced : state.Traced zone lines) (member : line ∈ lines) :
    (scanLine zone state line).Traced zone lines := by
  unfold scanLine
  cases split : splitLine line with
  | none => exact traced
  | some parsed =>
    dsimp only
    by_cases begins : parsed.beginsVevent
    · rw [if_pos begins]
      refine ⟨traced.events, fun fields held => ?_⟩
      cases held
      exact .empty lines
    · rw [if_neg begins]
      by_cases ends : parsed.endsVevent
      · rw [if_pos ends]
        cases current : state.current with
        | none => exact traced
        | some fields =>
          refine ⟨fun event listed => ?_, fun _ held => by cases held⟩
          rcases List.mem_append.mp listed with before | new
          · exact traced.events event before
          · exact ⟨fields, traced.current fields current, Option.mem_toList.mp new⟩
      · rw [if_neg ends]
        cases current : state.current with
        | none => exact traced
        | some fields =>
          dsimp only
          by_cases trusted : parsed.trusted
          · rw [if_pos trusted]
            refine ⟨traced.events, fun collected held => ?_⟩
            cases held
            exact (traced.current fields current).collect member split trusted
          · rw [if_neg trusted]
            exact traced

theorem foldl_scanLine_traced {zone : ZoneContext} {all lines : List Text} {state : ParseState}
    (traced : state.Traced zone all) (within : lines ⊆ all) :
    (lines.foldl (scanLine zone) state).Traced zone all := by
  induction lines generalizing state with
  | nil => exact traced
  | cons line lines inductionHypothesis =>
    obtain ⟨member, rest⟩ := List.cons_subset.mp within
    exact inductionHypothesis (scanLine_traced traced member) rest

/-- A whole calendar's events are the scan's. -/
theorem parseCalendar_ok {intl : DateTimeFormat} {body : Text} {timeZone : String}
    {events : List ImportedEvent} {foreign : List Text}
    (parsed : parseCalendar intl body timeZone = .ok events foreign) :
    ∃ zone, zoneContext intl timeZone = some zone ∧
      ((unfold body).foldl (scanLine zone) .initial).events = events := by
  unfold parseCalendar at parsed
  cases made : zoneContext intl timeZone with
  | none =>
    rw [made] at parsed
    cases parsed
  | some zone =>
    rw [made] at parsed
    dsimp only at parsed
    split at parsed
    · cases parsed
    · cases parsed
      exact ⟨zone, rfl, rfl⟩

theorem parseCalendar_stated {intl : DateTimeFormat} {body : Text} {timeZone : String}
    {zone : ZoneContext} {events : List ImportedEvent} {foreign : List Text}
    (made : zoneContext intl timeZone = some zone)
    (parsed : parseCalendar intl body timeZone = .ok events foreign) {event : ImportedEvent}
    (listed : event ∈ events) : ∃ fields : VeventFields, fields.StatedBy (unfold body) ∧
      toEvent fields zone = some event := by
  obtain ⟨zone', made', rfl⟩ := parseCalendar_ok parsed
  obtain rfl := Option.some.inj (made.symm.trans made')
  have initial : ParseState.initial.Traced zone (unfold body) :=
    ⟨fun _ none => absurd none List.not_mem_nil, fun _ held => by cases held⟩
  exact (foldl_scanLine_traced initial (List.Subset.refl _)).events event listed

/-! ### Well-formed events -/

/-- In a zone a whole number of hours ahead of UTC, every event of a feed has a UID without blanks
around it and two real days in order, each form of value is read as its date there, and a value of
no real date or time is in no event. The body is any text. The zones a property may have are of this
kind, and `fixed` is the one thing taken for granted of the formatter. -/
theorem parseCalendar_wellFormed {intl : DateTimeFormat} {timeZone : String} {offset : Int}
    (fixed : FixedOffset intl timeZone offset) (eastward : 0 ≤ offset) (withinDay : offset < 24) :
    ∃ zone, zoneContext intl timeZone = some zone ∧
      (∀ body events foreign, parseCalendar intl body timeZone = .ok events foreign →
        ∀ event ∈ events,
          event.uid ≠ "" ∧ trim event.uid.toList = event.uid.toList ∧
          (∃ first last, isoDay event.start = some first ∧ isoDay event.stop = some last ∧
            first < last) ∧
          event.start < event.stop ∧
          ∃ fields : VeventFields, fields.StatedBy (unfold body) ∧
            toEvent fields zone = some event) ∧
      (∀ year month day, year ≤ 9999 → RealDate year month day →
        toIsoDate (dateDigits year month day) zone = some (isoDigits year month day) ∧
        (∀ hours minutes seconds, hours < 100 → minutes < 100 → seconds < 100 →
          toIsoDate (dateDigits year month day ++ 'T' :: timeDigits hours minutes seconds) zone =
            some (isoDigits year month day)) ∧
        ∀ hours minutes seconds, RealTime hours minutes seconds →
          toIsoDate
              (dateDigits year month day ++ 'T' :: (timeDigits hours minutes seconds ++ ['Z']))
              zone =
            let shown := localDay offset (utcInstant year month day hours minutes seconds)
            if (civilFromDays shown).year ≤ 9999 then some (dateText shown) else none) ∧
      ∀ value, UnrealValue value → ∀ fields : VeventFields,
        fields.dtstart = some value ∨ fields.dtend = some value → toEvent fields zone = none := by
  obtain ⟨formatToParts, known, -⟩ := id fixed
  obtain ⟨zone, made⟩ : ∃ zone, zoneContext intl timeZone = some zone := by
    rw [zoneContext, known]
    exact ⟨_, rfl⟩
  refine ⟨zone, made, ?_, ?_, ?_⟩
  · intro body events foreign parsed event listed
    obtain ⟨fields, stated, read⟩ := parseCalendar_stated made parsed listed
    obtain ⟨uid, raw, -, visible, -, startRead, stopRead, later, named⟩ := toEvent_some read
    obtain ⟨first, startReal⟩ := toIsoDate_isoDay fixed eastward withinDay made startRead
    obtain ⟨last, stopReal⟩ : ∃ last, isoDay event.stop = some last := by
      cases dtend : fields.dtend with
      | none =>
        rw [dtend] at stopRead
        have next : addOneDay event.start = event.stop := Option.some.inj stopRead
        rw [← next] at later ⊢
        exact addOneDay_real startReal later
      | some rawEnd =>
        rw [dtend] at stopRead
        exact toIsoDate_isoDay fixed eastward withinDay made stopRead
    have uidText : event.uid.toList = trim uid := by rw [named, String.toList_ofList]
    refine ⟨?_, ?_, ⟨first, last, startReal, stopReal, ?_⟩, later, fields, stated, read⟩
    · intro blank
      rw [blank] at uidText
      exact visible uidText.symm
    · rw [uidText, trim_trim]
    · exact (isoDay_lt_iff startReal stopReal).mp later
  · intro year month day fits real
    have yearFits : year < 10 ^ 4 := Nat.lt_of_le_of_lt fits (by decide)
    exact ⟨toIsoDate_date yearFits real, fun hours minutes seconds => toIsoDate_local yearFits real,
      fun hours minutes seconds => toIsoDate_utc fixed eastward withinDay made yearFits real⟩
  · exact fun value unreal fields held => toEvent_unreal unreal held zone

/-- Bali's clock is eight hours ahead of UTC, as the formatter of the examples tells it. -/
theorem makassar_fixedOffset : FixedOffset indonesianFormat "Asia/Makassar" 8 :=
  ⟨fixedOffsetParts 8, rfl, fun _ _ => rfl⟩

/-- In Bali 16:30Z on New Year's Eve is on New Year's Day. -/
theorem makassar_wellFormed :
    ∃ zone, zoneContext indonesianFormat "Asia/Makassar" = some zone ∧
      toIsoDate "20251231T163000Z".toList zone = some "2026-01-01".toList := by
  obtain ⟨zone, made, -, forms, -⟩ :=
    parseCalendar_wellFormed makassar_fixedOffset (by decide) (by decide)
  obtain ⟨-, -, utc⟩ := forms 2025 12 31 (by decide) ⟨by decide, by decide, by decide, by decide⟩
  exact ⟨zone, made, utc 16 30 0 ⟨by decide, by decide, by decide⟩⟩

/-! ### One night -/

/-- The night after a day of the years 0 to 9998 is reckoned right from the year 100 on. For an
earlier one the same month and day nineteen centuries on come after the whole of the year. -/
theorem addOneDay_iff {start : Text} {day : Int} (real : isoDay start = some day)
    (notLast : day ≤ daysFromCivil 9998 12 31) :
    addOneDay start = dateText (day + 1) ↔ 100 ≤ (civilFromDays day).year := by
  obtain ⟨year, month, date, parts, inCalendar, rfl⟩ := isoDay_eq_some.mp real
  obtain ⟨rfl, yearFits, -⟩ := isoParts_some parts
  obtain ⟨reckoned, same, fits, early, late⟩ := dateUtcYear_nat yearFits
  obtain ⟨low, -⟩ := inCalendar.between yearFits
  rw [addOneDay_isoDigits yearFits inCalendar, same, inCalendar.civilFromDays yearFits]
  show _ ↔ (100 : Int) ≤ year
  have beforeLast : daysFromCivil 9998 12 31 < daysFromCivil 9999 12 31 := by decide
  by_cases century : 100 ≤ year
  · rw [late century, toISOStringDay_within (by omega) (by omega)]
    exact ⟨fun _ => by omega, fun _ => rfl⟩
  · have nineteen := early (by omega)
    obtain ⟨from0, -⟩ := nextDay_between fits inCalendar.monthFirst inCalendar.monthLast
      inCalendar.dayFirst (inCalendar.dayLast.trans (daysInMonth_le year month))
    have bounds := inCalendar.bounds
    have monthStart : RealDate reckoned month 1 := ⟨inCalendar.monthFirst, inCalendar.monthLast,
      le_rfl, le_trans (by decide) (daysInMonth_ge reckoned month)⟩
    obtain ⟨afterNewYear, beforeYearEnd⟩ := monthStart.bounds
    have later := daysFromCivil_day reckoned month date
    have apart : daysFromCivil year month date < daysFromCivil reckoned month date := by
      have yearStart := daysFromCivil_yearStart (show year < reckoned by omega)
      have dayFirst := inCalendar.dayFirst
      push_cast at afterNewYear
      omega
    have thisCentury : daysFromCivil reckoned month date + 1 ≤ daysFromCivil 9999 12 31 := by
      have laterYear := daysFromCivil_yearStart (show reckoned < 9998 by omega)
      have dayLast := inCalendar.dayLast.trans (daysInMonth_le year month)
      have final : daysFromCivil (9998 : Nat) 1 1 + 364 = daysFromCivil 9998 12 31 := by decide
      push_cast at beforeYearEnd laterYear final
      omega
    rw [toISOStringDay_within from0 thisCentury]
    refine ⟨fun equal => ?_, fun atLeast => by omega⟩
    have read := isoDay_dateText from0 thisCentury
    rw [equal, isoDay_dateText (by omega) (by omega)] at read
    have sameDay := Option.some.inj read
    omega

/-- A VEVENT with a UID, a start and no end is one night at its `END` exactly where its start lies
in the year 100 or later. The next day is computed through `Date.UTC`, which takes the years 0 to 99
for 1900 to 1999. The start may come in any form the parser reads, and the last year is left out,
since the day after it has no text of four digits. -/
theorem scanLine_oneNight_iff {zone : ZoneContext} {uid raw start : Text} {day : Int}
    (named : trim uid ≠ []) (read : toIsoDate raw zone = some start)
    (real : isoDay start = some day) (notLast : day ≤ daysFromCivil 9998 12 31)
    {line : Text} {parsed : ContentLine} (split : splitLine line = some parsed)
    (ends : parsed.endsVevent) (events : List ImportedEvent) (foreign : List Text) :
    (scanLine zone ⟨events, foreign, some ⟨some uid, some raw, none⟩⟩ line).events =
        events ++ [⟨String.ofList (trim uid), start, dateText (day + 1)⟩] ↔
      100 ≤ (civilFromDays day).year := by
  have notBegins : ¬ parsed.beginsVevent := by
    intro begins
    have clash : "BEGIN".toList = "END".toList := begins.1.symm.trans ends.1
    exact absurd clash (by decide)
  have scanned : (scanLine zone ⟨events, foreign, some ⟨some uid, some raw, none⟩⟩ line).events =
      events ++ (toEvent ⟨some uid, some raw, none⟩ zone).toList := by
    unfold scanLine
    rw [split]
    dsimp only
    rw [if_neg notBegins, if_pos ends]
  rw [scanned, List.append_cancel_left_eq, ← addOneDay_iff real notLast]
  have validated : toEvent ⟨some uid, some raw, none⟩ zone =
      if addOneDay start = [] ∨ addOneDay start ≤ start then none
      else some ⟨String.ofList (trim uid), start, addOneDay start⟩ := by
    rw [toEvent_eq]
    simp only [Option.bind_some, if_neg named, read, Option.elim_none]
  rw [validated]
  constructor
  · intro emitted
    split at emitted
    · cases emitted
    · injection emitted with same
      injection same
  · intro right
    obtain ⟨low, -, -⟩ := dateText_of_isoDay real
    have beforeLast : daysFromCivil 9998 12 31 < daysFromCivil 9999 12 31 := by decide
    have next : isoDay (dateText (day + 1)) = some (day + 1) :=
      isoDay_dateText (by omega) (by omega)
    have later := (isoDay_lt_iff real next).mpr (by omega)
    rw [right, if_neg]
    · rfl
    · rintro (empty | notLater)
      · rw [empty] at next
        cases next
      · exact absurd later (not_lt.mpr notLater)

/-- New Year's Eve of 2025 is one night. -/
theorem newYearsEve_oneNight :
    (scanLine ⟨"Asia/Makassar", fun _ => []⟩
        ⟨[], [], some ⟨some "a".toList, some "20251231".toList, none⟩⟩ "END:VEVENT".toList).events =
      [⟨"a", "2025-12-31".toList, "2026-01-01".toList⟩] := by
  have read : toIsoDate "20251231".toList ⟨"Asia/Makassar", fun _ => []⟩ =
      some "2025-12-31".toList := by decide +kernel
  have real : isoDay "2025-12-31".toList = some 20453 := by decide +kernel
  have split : splitLine "END:VEVENT".toList = some ⟨"END".toList, none, "VEVENT".toList⟩ := by
    decide +kernel
  exact (scanLine_oneNight_iff (by decide) read real (by decide) split ⟨rfl, by decide +kernel⟩
    [] []).mpr (by decide)

/-- One VEVENT of New Year's Day in the year 50, without an end. -/
def yearFifty : Text :=
  ("BEGIN:VCALENDAR\r\nBEGIN:VEVENT\r\nUID:a\r\nDTSTART;VALUE=DATE:00500101\r\n" ++
    "END:VEVENT\r\nEND:VCALENDAR\r\n").toList

/-- The one night of the year 50 is imported as nineteen centuries, because its next day is reckoned
in 1950. -/
theorem yearFifty_imported :
    parseCalendar indonesianFormat yearFifty "Asia/Makassar" =
        .ok [⟨"a", "0050-01-01".toList, "1950-01-02".toList⟩] [] ∧
      (isoDay "0050-01-01".toList).map (fun day => dateText (day + 1)) =
        some "0050-01-02".toList := by
  decide +kernel

end Sambung
