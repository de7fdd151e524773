/-
This file proves that `YYYY-MM-DD` texts are a faithful picture of calendar days.

The services hold a date as a text, compare texts as strings and subtract dates as
days, and the database prints its days back as texts. The three agree: a text of
the calendar is what its day prints, a day of the years 0 to 9999 is what its text
names, and the texts sort the way the days do.

The arithmetic of days counts eras of 400 years from a March, so a day is taken
apart into its era, the year of the era and the day of that year;
`civilFromDays_parts` says so once, and the civil date is read off the parts.
Order is then settled on the three numbers of a date, and on the texts by the
theory of fixed-width decimals. Nothing is enumerated: the years are bounded only
where four digits bound them.
-/

import Sambung.Availability
import Sambung.Foundation.Decimal

namespace Sambung

/-! ### Years of an era -/

/-- The year of the 400-year era a day of it falls in, both counted from zero. -/
def yearOfEra (dayOfEra : Int) : Int :=
  (dayOfEra - dayOfEra / 1460 + dayOfEra / 36524 - dayOfEra / 146096) / 365

/-- The day of the era its years start on. -/
def eraYearStart (year : Int) : Int := 365 * year + year / 4 - year / 100

/-- A year has 366 days where it ends in the February of a leap year. -/
theorem eraYearStart_succ (year : Int) :
    eraYearStart (year + 1) = eraYearStart year + 365 +
      (if (year + 1) % 4 = 0 then 1 else 0) - (if (year + 1) % 100 = 0 then 1 else 0) := by
  unfold eraYearStart
  split
  · split
    · omega
    · omega
  · split
    · omega
    · omega

theorem yearOfEra_mono {first second : Int} (le : first ≤ second) :
    yearOfEra first ≤ yearOfEra second := by
  have years : first - first / 1460 ≤ second - second / 1460 := by omega
  have centuries : first / 36524 - first / 146096 ≤ second / 36524 - second / 146096 := by omega
  unfold yearOfEra
  omega

theorem yearOfEra_eraYearStart (year : Fin 400) :
    yearOfEra (eraYearStart year) = year ∧
      (0 < year → yearOfEra (eraYearStart year - 1) < year) := by
  revert year
  decide +kernel

/-- A day of an era lies in its year. -/
theorem yearOfEra_spec {dayOfEra : Int} (first : 0 ≤ dayOfEra) (last : dayOfEra < 146097) :
    0 ≤ yearOfEra dayOfEra ∧ yearOfEra dayOfEra ≤ 399 ∧
      eraYearStart (yearOfEra dayOfEra) ≤ dayOfEra ∧
      (yearOfEra dayOfEra < 399 → dayOfEra < eraYearStart (yearOfEra dayOfEra + 1)) := by
  have low : 0 ≤ yearOfEra dayOfEra := yearOfEra_mono first
  have high : yearOfEra dayOfEra ≤ 399 := yearOfEra_mono (show dayOfEra ≤ 146096 by omega)
  obtain ⟨year, same⟩ := Int.eq_ofNat_of_zero_le low
  refine ⟨low, high, ?_, fun before => ?_⟩
  · by_contra late
    obtain ⟨-, earlier⟩ := yearOfEra_eraYearStart ⟨year, by omega⟩
    have positive : 0 < year := by
      by_contra zero
      rw [same, show year = 0 by omega] at late
      exact late first
    have bound := yearOfEra_mono (show dayOfEra ≤ eraYearStart year - 1 by rw [same] at late; omega)
    have less : yearOfEra (eraYearStart year - 1) < year := earlier positive
    omega
  · by_contra late
    obtain ⟨starts, -⟩ := yearOfEra_eraYearStart ⟨year + 1, by omega⟩
    have next : yearOfEra (eraYearStart (year + 1 : Int)) = year + 1 := starts
    rw [same] at late
    have bound := yearOfEra_mono (not_lt.mp late)
    omega

/-! ### Civil dates -/

/-- What the civil date of a day comes from: its era, the year of the era and the day of the
year that starts in March. -/
theorem civilFromDays_parts (days : Int) :
    ∃ era year dayOfYear : Int,
      days + 719468 = era * 146097 + eraYearStart year + dayOfYear ∧ 0 ≤ year ∧ year ≤ 399 ∧
      0 ≤ dayOfYear ∧ dayOfYear ≤ 365 ∧
      (dayOfYear = 365 → (year + 1) % 4 = 0 ∧ ((year + 1) % 100 = 0 → (year + 1) % 400 = 0)) ∧
      civilFromDays days = {
        year := year + era * 400 +
          (if (if (5 * dayOfYear + 2) / 153 < 10 then (5 * dayOfYear + 2) / 153 + 3
            else (5 * dayOfYear + 2) / 153 - 9) ≤ 2 then 1 else 0)
        month := if (5 * dayOfYear + 2) / 153 < 10 then (5 * dayOfYear + 2) / 153 + 3
          else (5 * dayOfYear + 2) / 153 - 9
        day := dayOfYear - (153 * ((5 * dayOfYear + 2) / 153) + 2) / 5 + 1 } := by
  have first : 0 ≤ days + 719468 - (days + 719468) / 146097 * 146097 := by omega
  have last : days + 719468 - (days + 719468) / 146097 * 146097 < 146097 := by omega
  obtain ⟨low, high, starts, ends⟩ := yearOfEra_spec first last
  refine ⟨(days + 719468) / 146097,
    yearOfEra (days + 719468 - (days + 719468) / 146097 * 146097), _, ?_, low, high,
    sub_nonneg.mpr starts, ?_, ?_, rfl⟩
  · omega
  · generalize yearOfEra _ = year at *
    have length := eraYearStart_succ year
    rcases lt_or_eq_of_le high with before | rfl
    · have next := ends before
      omega
    · have final : eraYearStart 399 = 145731 := by decide
      omega
  · generalize yearOfEra _ = year at *
    intro leapDay
    have length := eraYearStart_succ year
    rcases lt_or_eq_of_le high with before | rfl
    · have next := ends before
      omega
    · decide

/-- A day is the day of its civil date. -/
theorem daysFromCivil_civilFromDays (days : Int) :
    daysFromCivil (civilFromDays days).year (civilFromDays days).month (civilFromDays days).day =
      days := by
  obtain ⟨era, year, dayOfYear, split, low, high, first, last, -, civil⟩ := civilFromDays_parts days
  rw [civil]
  unfold eraYearStart at split
  unfold daysFromCivil
  dsimp only
  generalize month : (5 * dayOfYear + 2) / 153 = fromMarch
  by_cases early : fromMarch < 10
  · simp only [if_pos early, if_neg (show ¬ fromMarch + 3 ≤ 2 by omega),
      if_pos (show fromMarch + 3 > 2 by omega)]
    have sameEra : (year + era * 400 + 0) / 400 = era := by omega
    rw [sameEra]
    omega
  · simp only [if_neg early, if_pos (show fromMarch - 9 ≤ 2 by omega),
      if_neg (show ¬ fromMarch - 9 > 2 by omega)]
    have sameEra : (year + era * 400 + 1 - 1) / 400 = era := by omega
    rw [sameEra]
    omega


theorem daysInMonth_ge (year month : Nat) : 28 ≤ daysInMonth year month := by
  unfold daysInMonth
  split
  · split <;> decide
  · decide
  · decide
  · decide
  · decide
  · decide

/-- The day of any number is a day of its month. The 29th of February is the 365th day after the 1st
of March, which only a leap year has. -/
theorem civilFromDays_valid (days : Int) :
    1 ≤ (civilFromDays days).month ∧ (civilFromDays days).month ≤ 12 ∧
      1 ≤ (civilFromDays days).day ∧
      (0 ≤ (civilFromDays days).year → (civilFromDays days).day ≤
        daysInMonth (civilFromDays days).year.toNat (civilFromDays days).month.toNat) := by
  obtain ⟨era, year, dayOfYear, -, low, high, first, last, leapDay, civil⟩ :=
    civilFromDays_parts days
  rw [civil]
  dsimp only
  have months : 0 ≤ (5 * dayOfYear + 2) / 153 ∧ (5 * dayOfYear + 2) / 153 ≤ 11 := by omega
  generalize month : (5 * dayOfYear + 2) / 153 = fromMarch at months ⊢
  obtain ⟨nonneg, bounded⟩ := months
  interval_cases fromMarch
  case «11» =>
    refine ⟨by decide, by decide, by omega, fun positive => ?_⟩
    have shown : ((year + era * 400 + 1).toNat : Int) = year + era * 400 + 1 :=
      Int.toNat_of_nonneg positive
    show dayOfYear - (153 * 11 + 2) / 5 + 1 ≤ (daysInMonth (year + era * 400 + 1).toNat 2 : Int)
    have atLeast := daysInMonth_ge (year + era * 400 + 1).toNat 2
    by_cases leap : dayOfYear = 365
    · obtain ⟨fourth, century⟩ := leapDay leap
      have isLeap : isLeapYear (year + era * 400 + 1).toNat = true := by
        simp only [isLeapYear, Bool.and_eq_true, Bool.or_eq_true, decide_eq_true_eq]
        omega
      rw [daysInMonth, if_pos isLeap, leap]
      decide
    · omega
  all_goals
    simp [daysInMonth]
    omega

/-- The days of the years 0 to 9999. Year 0 opens in the last winter of an era, and year 9999 closes
before one, so three kinds of era are told apart. -/
theorem civilFromDays_year {days : Int} (first : daysFromCivil 0 1 1 ≤ days)
    (last : days ≤ daysFromCivil 9999 12 31) :
    0 ≤ (civilFromDays days).year ∧ (civilFromDays days).year ≤ 9999 := by
  obtain ⟨era, year, dayOfYear, split, low, high, nonneg, bounded, -, civil⟩ :=
    civilFromDays_parts days
  have from0 : -719528 ≤ days := first
  have to9999 : days ≤ 2932896 := last
  have leapDays : 0 ≤ year / 4 - year / 100 ∧ year / 4 - year / 100 ≤ 96 := by omega
  have eras : -1 ≤ era ∧ era ≤ 24 := by
    unfold eraYearStart at split
    omega
  unfold eraYearStart at split
  rw [civil]
  dsimp only
  have months : 0 ≤ (5 * dayOfYear + 2) / 153 ∧ (5 * dayOfYear + 2) / 153 ≤ 11 ∧
      ((5 * dayOfYear + 2) / 153 < 10 → dayOfYear ≤ 305) ∧
      (10 ≤ (5 * dayOfYear + 2) / 153 → 306 ≤ dayOfYear) := by omega
  generalize (5 * dayOfYear + 2) / 153 = fromMarch at months ⊢
  rcases (show era = -1 ∨ (0 ≤ era ∧ era ≤ 23) ∨ era = 24 by omega) with rfl | inside | rfl
  all_goals
    split_ifs
    all_goals omega

/-! ### Order -/

theorem daysFromCivil_day (year month day : Int) :
    daysFromCivil year month day = daysFromCivil year month 1 + day - 1 := by
  unfold daysFromCivil
  dsimp only
  omega

theorem daysFromCivil_month (year : Nat) {month : Nat} (first : 1 ≤ month) (last : month < 12) :
    daysFromCivil year month (daysInMonth year month) < daysFromCivil year (month + 1) 1 := by
  unfold daysFromCivil daysInMonth isLeapYear
  interval_cases month
  case «2» =>
    split
    · rename_i leap
      simp at leap ⊢
      omega
    · rename_i common
      simp at common ⊢
  all_goals simp

theorem daysFromCivil_monthStart (year : Nat) {first second : Nat} (positive : 1 ≤ first)
    (le : first ≤ second) (last : second ≤ 12) :
    daysFromCivil year first 1 ≤ daysFromCivil year second 1 := by
  induction second, le using Nat.le_induction with
  | base => exact le_rfl
  | succ second between inductionHypothesis =>
    have before := inductionHypothesis (by omega)
    have next := daysFromCivil_month year (positive.trans between) (by omega)
    have start := daysFromCivil_day year second (daysInMonth year second)
    have atLeast := daysInMonth_ge year second
    push_cast
    omega

theorem daysFromCivil_yearStart {first second : Nat} (less : first < second) :
    daysFromCivil first 12 31 < daysFromCivil second 1 1 := by
  induction second, less using Nat.le_induction with
  | base =>
    unfold daysFromCivil
    simp
  | succ second _ inductionHypothesis =>
    refine inductionHypothesis.trans ?_
    unfold daysFromCivil
    simp
    omega

/-- A year, month and day of the calendar. -/
structure RealDate (year month day : Nat) : Prop where
  monthFirst : 1 ≤ month
  monthLast : month ≤ 12
  dayFirst : 1 ≤ day
  dayLast : day ≤ daysInMonth year month

theorem RealDate.bounds {year month day : Nat} (real : RealDate year month day) :
    daysFromCivil year 1 1 ≤ daysFromCivil year month day ∧
      daysFromCivil year month day ≤ daysFromCivil year 12 31 := by
  have started := daysFromCivil_monthStart year le_rfl real.monthFirst real.monthLast
  have later := daysFromCivil_day year month day
  have dayFirst := real.dayFirst
  have dayLast := real.dayLast
  refine ⟨by push_cast at started; omega, ?_⟩
  rcases lt_or_eq_of_le real.monthLast with before | rfl
  · have next := daysFromCivil_month year real.monthFirst before
    have toDecember := daysFromCivil_monthStart year (Nat.le_add_left 1 month) before le_rfl
    have monthEnd := daysFromCivil_day year month (daysInMonth year month)
    have newYearsEve := daysFromCivil_day year 12 31
    push_cast at toDecember
    omega
  · have newYearsEve := daysFromCivil_day year 12 31
    have december : daysInMonth year 12 = 31 := rfl
    push_cast at later ⊢
    omega

/-- Days come in the order of their years, months and days. -/
theorem RealDate.lt {year month day year' month' day' : Nat} (real : RealDate year month day)
    (real' : RealDate year' month' day')
    (before : year < year' ∨ year = year' ∧ (month < month' ∨ month = month' ∧ day < day')) :
    daysFromCivil year month day < daysFromCivil year' month' day' := by
  rcases before with earlierYear | ⟨rfl, earlierMonth | ⟨rfl, earlierDay⟩⟩
  · exact real.bounds.2.trans_lt
      ((daysFromCivil_yearStart earlierYear).trans_le real'.bounds.1)
  · have next := daysFromCivil_month year real.monthFirst (earlierMonth.trans_le real'.monthLast)
    have started := daysFromCivil_monthStart year (Nat.le_add_left 1 month) earlierMonth
      real'.monthLast
    have first := daysFromCivil_day year month day
    have last := daysFromCivil_day year month (daysInMonth year month)
    have second := daysFromCivil_day year month' day'
    have dayLast := real.dayLast
    have dayFirst := real'.dayFirst
    push_cast at started
    omega
  · have first := daysFromCivil_day year month day
    have second := daysFromCivil_day year month day'
    omega

theorem RealDate.lt_iff {year month day year' month' day' : Nat} (real : RealDate year month day)
    (real' : RealDate year' month' day') :
    daysFromCivil year month day < daysFromCivil year' month' day' ↔
      year < year' ∨ year = year' ∧ (month < month' ∨ month = month' ∧ day < day') := by
  refine ⟨fun less => ?_, real.lt real'⟩
  by_contra notBefore
  rcases (show (year' < year ∨ year' = year ∧ (month' < month ∨ month' = month ∧ day' < day)) ∨
      (year = year' ∧ month = month' ∧ day = day') by omega) with after | ⟨rfl, rfl, rfl⟩
  · exact lt_asymm less (real'.lt real after)
  · exact lt_irrefl _ less

/-! ### Texts -/

/-- The text of a year, a month and a day, each at its width. -/
def isoDigits (year month day : Nat) : Text :=
  Decimal.padded 4 year ++ '-' :: Decimal.padded 2 month ++ '-' :: Decimal.padded 2 day

theorem isoParts_some {text : Text} {year month day : Nat}
    (parts : isoParts text = some (year, month, day)) :
    text = isoDigits year month day ∧ year < 10 ^ 4 ∧ month < 10 ^ 2 ∧ day < 10 ^ 2 := by
  unfold isoParts at parts
  split at parts
  · rename_i y₁ y₂ y₃ y₄ m₁ m₂ d₁ d₂
    split at parts
    · rename_i digits
      cases parts
      simp only [List.all_cons, List.all_nil, Bool.and_eq_true, Bool.and_true] at digits
      have years : ∀ c ∈ [y₁, y₂, y₃, y₄], c.isDigit := by simp [digits]
      have months : ∀ c ∈ [m₁, m₂], c.isDigit := by simp [digits]
      have days : ∀ c ∈ [d₁, d₂], c.isDigit := by simp [digits]
      have year := Decimal.padded_value (List.cons_ne_nil _ _) years
      have month := Decimal.padded_value (List.cons_ne_nil _ _) months
      have day := Decimal.padded_value (List.cons_ne_nil _ _) days
      refine ⟨?_, Decimal.value_lt years, Decimal.value_lt months, Decimal.value_lt days⟩
      show _ = Decimal.padded 4 (Decimal.value _) ++ '-' :: Decimal.padded 2 (Decimal.value _) ++
        '-' :: Decimal.padded 2 (Decimal.value _)
      rw [show Decimal.padded 4 (Decimal.value [y₁, y₂, y₃, y₄]) = _ from year,
        show Decimal.padded 2 (Decimal.value [m₁, m₂]) = _ from month,
        show Decimal.padded 2 (Decimal.value [d₁, d₂]) = _ from day]
      rfl
    · cases parts
  · cases parts

theorem isoParts_isoDigits {year month day : Nat} (yearFits : year < 10 ^ 4)
    (monthFits : month < 10 ^ 2) (dayFits : day < 10 ^ 2) :
    isoParts (isoDigits year month day) = some (year, month, day) := by
  obtain ⟨yearLength, yearDigits, yearValue⟩ := Decimal.padded_spec (by decide) yearFits
  obtain ⟨monthLength, monthDigits, monthValue⟩ := Decimal.padded_spec (by decide) monthFits
  obtain ⟨dayLength, dayDigits, dayValue⟩ := Decimal.padded_spec (by decide) dayFits
  unfold isoDigits
  generalize Decimal.padded 4 year = years at *
  generalize Decimal.padded 2 month = months at *
  generalize Decimal.padded 2 day = days at *
  obtain ⟨y₁, y₂, y₃, y₄, rfl⟩ : ∃ y₁ y₂ y₃ y₄, years = [y₁, y₂, y₃, y₄] := by
    match years, yearLength with
    | [y₁, y₂, y₃, y₄], _ => exact ⟨y₁, y₂, y₃, y₄, rfl⟩
  obtain ⟨m₁, m₂, rfl⟩ := List.length_eq_two.mp monthLength
  obtain ⟨d₁, d₂, rfl⟩ := List.length_eq_two.mp dayLength
  have digits : [y₁, y₂, y₃, y₄, m₁, m₂, d₁, d₂].all Char.isDigit = true := by
    simp_all
  show (if [y₁, y₂, y₃, y₄, m₁, m₂, d₁, d₂].all Char.isDigit then
    some (number [y₁, y₂, y₃, y₄], number [m₁, m₂], number [d₁, d₂]) else none) = _
  rw [if_pos digits]
  show some (Decimal.value _, Decimal.value _, Decimal.value _) = _
  rw [yearValue, monthValue, dayValue]

/-- The day a text names, through its year, month and day. -/
theorem isoDay_eq_some {text : Text} {days : Int} :
    isoDay text = some days ↔ ∃ year month day, isoParts text = some (year, month, day) ∧
      RealDate year month day ∧ daysFromCivil year month day = days := by
  unfold isoDay
  cases parts : isoParts text with
  | none => simp
  | some found =>
    obtain ⟨year, month, day⟩ := found
    simp only [Option.bind_eq_bind, Option.bind_some, Option.some.injEq, Prod.mk.injEq]
    split
    · rename_i real
      constructor
      · intro same
        exact ⟨year, month, day, ⟨rfl, rfl, rfl⟩, ⟨real.1, real.2.1, real.2.2.1, real.2.2.2⟩,
          Option.some.inj same⟩
      · rintro ⟨_, _, _, ⟨rfl, rfl, rfl⟩, -, same⟩
        rw [same]
    · rename_i unreal
      refine ⟨(fun same => nomatch same), ?_⟩
      rintro ⟨_, _, _, ⟨rfl, rfl, rfl⟩, real, -⟩
      exact absurd ⟨real.monthFirst, real.monthLast, real.dayFirst, real.dayLast⟩ unreal

theorem append_lt_append {first first' second second' : Text}
    (width : first.length = second.length) :
    first ++ first' < second ++ second' ↔
      first < second ∨ first = second ∧ first' < second' := by
  induction first generalizing second with
  | nil =>
    rw [List.length_eq_zero_iff.mp width.symm]
    simp
  | cons a first inductionHypothesis =>
    cases second with
    | nil => cases width
    | cons b second =>
      rw [List.cons_append, List.cons_append, List.cons_lt_cons_iff, List.cons_lt_cons_iff,
        inductionHypothesis (Nat.succ.inj width), List.cons.injEq]
      tauto

theorem padded_eq_iff {width n n' : Nat} (positive : 0 < width) (fits : n < 10 ^ width)
    (fits' : n' < 10 ^ width) : Decimal.padded width n = Decimal.padded width n' ↔ n = n' := by
  refine ⟨fun same => ?_, fun same => by rw [same]⟩
  rw [← (Decimal.padded_spec positive fits).2.2, same, (Decimal.padded_spec positive fits').2.2]

theorem padded_append_lt {width n n' : Nat} (positive : 0 < width) (fits : n < 10 ^ width)
    (fits' : n' < 10 ^ width) (rest rest' : Text) :
    Decimal.padded width n ++ rest < Decimal.padded width n' ++ rest' ↔
      n < n' ∨ n = n' ∧ rest < rest' := by
  obtain ⟨length, digits, value⟩ := Decimal.padded_spec positive fits
  obtain ⟨length', digits', value'⟩ := Decimal.padded_spec positive fits'
  rw [append_lt_append (length.trans length'.symm), padded_eq_iff positive fits fits',
    Decimal.value_lt_value (length.trans length'.symm) digits digits', value, value']

theorem hyphen_lt_hyphen (rest rest' : Text) : '-' :: rest < '-' :: rest' ↔ rest < rest' := by
  rw [List.cons_lt_cons_iff]
  exact ⟨fun less => (less.resolve_left (Char.lt_irrefl _)).2, fun less => Or.inr ⟨rfl, less⟩⟩

/-- Texts of the calendar sort the way their days do. -/
theorem isoDay_lt_iff {first second : Text} {firstDay secondDay : Int}
    (firstReal : isoDay first = some firstDay) (secondReal : isoDay second = some secondDay) :
    first < second ↔ firstDay < secondDay := by
  obtain ⟨year, month, day, parts, real, rfl⟩ := isoDay_eq_some.mp firstReal
  obtain ⟨year', month', day', parts', real', rfl⟩ := isoDay_eq_some.mp secondReal
  obtain ⟨rfl, yearFits, monthFits, dayFits⟩ := isoParts_some parts
  obtain ⟨rfl, yearFits', monthFits', dayFits'⟩ := isoParts_some parts'
  have last := padded_append_lt (show 0 < 2 by decide) dayFits dayFits' [] []
  rw [List.append_nil, List.append_nil] at last
  rw [real.lt_iff real', isoDigits, isoDigits, List.append_assoc, List.append_assoc,
    padded_append_lt (by decide) yearFits yearFits', List.cons_append, List.cons_append,
    hyphen_lt_hyphen, padded_append_lt (by decide) monthFits monthFits', hyphen_lt_hyphen, last]
  simp

/-! ### Days printed -/

theorem dateText_eq (days : Int) :
    dateText days = isoDigits (civilFromDays days).year.toNat (civilFromDays days).month.toNat
      (civilFromDays days).day.toNat := rfl

theorem RealDate.between {year month day : Nat} (real : RealDate year month day)
    (fits : year < 10 ^ 4) :
    daysFromCivil 0 1 1 ≤ daysFromCivil year month day ∧
      daysFromCivil year month day ≤ daysFromCivil 9999 12 31 := by
  refine ⟨le_trans ?_ real.bounds.1, real.bounds.2.trans ?_⟩
  · rcases Nat.eq_zero_or_pos year with rfl | positive
    · rfl
    · exact ((RealDate.mk (by decide) (by decide) (by decide) (by decide) :
        RealDate 0 12 31).bounds.1.trans (daysFromCivil_yearStart positive).le)
  · rcases (show year = 9999 ∨ year < 9999 by omega) with rfl | before
    · rfl
    · exact (daysFromCivil_yearStart before).le.trans
        (RealDate.mk (by decide) (by decide) (by decide) (by decide) : RealDate 9999 12 31).bounds.1

/-- A day of the years 0 to 9999 is what its text names. -/
theorem isoDay_dateText {days : Int} (first : daysFromCivil 0 1 1 ≤ days)
    (last : days ≤ daysFromCivil 9999 12 31) : isoDay (dateText days) = some days := by
  obtain ⟨yearFirst, yearLast⟩ := civilFromDays_year first last
  obtain ⟨monthFirst, monthLast, dayFirst, dayLast⟩ := civilFromDays_valid days
  have same := daysFromCivil_civilFromDays days
  rw [dateText_eq]
  generalize civilFromDays days = date at *
  have dayReal := dayLast yearFirst
  have atMost : daysInMonth date.year.toNat date.month.toNat ≤ 31 := by
    unfold daysInMonth
    split
    · split <;> decide
    all_goals decide
  refine isoDay_eq_some.mpr ⟨_, _, _, isoParts_isoDigits (by omega) (by omega) (by omega),
    ⟨by omega, by omega, by omega, by omega⟩, ?_⟩
  rw [Int.toNat_of_nonneg yearFirst, Int.toNat_of_nonneg (by omega), Int.toNat_of_nonneg (by omega)]
  exact same

/-- The day of a year, month and day of the calendar falls on that year, month and day, since
neither of the two dates comes before the other. -/
theorem RealDate.civilFromDays {year month day : Nat} (real : RealDate year month day)
    (fits : year < 10 ^ 4) :
    Sambung.civilFromDays (daysFromCivil year month day) = ⟨year, month, day⟩ := by
  obtain ⟨first, last⟩ := real.between fits
  obtain ⟨yearFirst, -⟩ := civilFromDays_year first last
  obtain ⟨monthFirst, monthLast, dayFirst, dayLast⟩ :=
    civilFromDays_valid (daysFromCivil year month day)
  have same := daysFromCivil_civilFromDays (daysFromCivil year month day)
  generalize Sambung.civilFromDays (daysFromCivil year month day) = date at *
  obtain ⟨year', month', day'⟩ := date
  dsimp only at *
  have dayReal := dayLast yearFirst
  lift year' to Nat using yearFirst
  lift month' to Nat using by omega
  lift day' to Nat using by omega
  have real' : RealDate year' month' day' := ⟨by omega, by omega, by omega, by simpa using dayReal⟩
  have notLess := mt (real'.lt_iff real).mpr (not_lt.mpr same.ge)
  have notMore := mt (real.lt_iff real').mpr (not_lt.mpr same.le)
  have equal : year' = year ∧ month' = month ∧ day' = day := by omega
  rw [equal.1, equal.2.1, equal.2.2]

/-- A text of the calendar names a day of the years 0 to 9999, which prints as the text. -/
theorem dateText_of_isoDay {text : Text} {days : Int} (real : isoDay text = some days) :
    daysFromCivil 0 1 1 ≤ days ∧ days ≤ daysFromCivil 9999 12 31 ∧ dateText days = text := by
  obtain ⟨year, month, day, parts, date, rfl⟩ := isoDay_eq_some.mp real
  obtain ⟨rfl, yearFits, -⟩ := isoParts_some parts
  obtain ⟨first, last⟩ := date.between yearFits
  refine ⟨first, last, ?_⟩
  rw [dateText_eq, date.civilFromDays yearFits]
  rfl

end Sambung
