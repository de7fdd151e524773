/-
This file states the geometry of the owner's calendar, `windowDays` and `barSpan`
of `calendar-model.ts` with `addDays` of `date.ts`, and proves that a bar covers
the columns of the nights its stay occupies, so that the bars of stays without a
common night have no common column.

A window and a stay are both half-open ranges of dates, so that one structure
serves for either, and a night is named by its date. The source clips by comparing
texts and then counts columns by dividing milliseconds; the proof goes through the
days, where clipping is a minimum and a maximum and a column is a difference. A
stay that touches the window without a night in it has no bar, and an edge
continues where the stay goes on beyond it.
-/

import Sambung.Pricing

namespace Sambung

/-! ### The model -/

/-- `new Date(Date.parse(iso) + n * MS_PER_DAY).toISOString().slice(0, 10)`, for a day of the
years 0 to 9999. -/
def addDays (iso : Text) (n : Int) : Text := dateText (dateParse iso + n)

/-- `getUTCDay()` of a day: 1970-01-01 was a Thursday. -/
def getUTCDay (day : Int) : Int := (day + 4) % 7

/-- A day column. -/
structure CalendarDay where
  date : Text
  dom : Nat
  dow : Int
  isWeekend : Bool
  deriving DecidableEq, Repr

/-- The column of the `i`-th day of a window, as the loop of `windowDays` pushes it. -/
def dayColumn (fromDate : Text) (i : Nat) : CalendarDay :=
  let date := addDays fromDate i
  let dow := getUTCDay (dateParse date)
  { date, dom := number ((date.drop 8).take 2), dow, isWeekend := dow = 0 || dow = 6 }

def windowDays (fromDate toDate : Text) : List CalendarDay :=
  (List.range (countNights fromDate toDate).toNat).map (dayColumn fromDate)

/-- A stay clipped to the window, as half-open column indices. -/
structure BarSpan where
  start : Int
  stop : Int
  continuesLeft : Bool
  continuesRight : Bool
  deriving DecidableEq, Repr

def barSpan (fromDate toDate checkIn checkOut : Text) : Option BarSpan :=
  let dayCount := countNights fromDate toDate
  let rawStart := countNights fromDate checkIn
  let rawEnd := countNights fromDate checkOut
  let start := max 0 (min rawStart dayCount)
  let stop := max 0 (min rawEnd dayCount)
  if stop ≤ start then none
  else some { start, stop, continuesLeft := rawStart < 0, continuesRight := rawEnd > dayCount }

example : barSpan "2027-03-01".toList "2027-04-01".toList "2027-02-25".toList
    "2027-03-05".toList =
      some { start := 0, stop := 4, continuesLeft := true, continuesRight := false } := by
  decide +kernel

/-! ### Nights -/

/-- A window or a stay: two days of the calendar, one before the other. -/
structure DateRange where
  first : Text
  last : Text
  firstReal : (isoDay first).isSome
  lastReal : (isoDay last).isSome
  ordered : first < last

/-- The night of a date lies in the range. -/
def DateRange.Occupies (range : DateRange) (night : Text) : Prop :=
  (isoDay night).isSome ∧ range.first ≤ night ∧ night < range.last

/-- The columns of a window for its dates. -/
abbrev DateRange.days (window : DateRange) : List CalendarDay :=
  windowDays window.first window.last

/-- The bar of a stay in a window. -/
abbrev DateRange.bar (window stay : DateRange) : Option BarSpan :=
  barSpan window.first window.last stay.first stay.last

/-- Two dates of the calendar compare as strings the way their days compare as numbers. -/
theorem dateParse_lt_iff {first second : Text} (firstReal : (isoDay first).isSome)
    (secondReal : (isoDay second).isSome) :
    first < second ↔ dateParse first < dateParse second := by
  obtain ⟨firstDay, firstKnown⟩ := Option.isSome_iff_exists.mp firstReal
  obtain ⟨secondDay, secondKnown⟩ := Option.isSome_iff_exists.mp secondReal
  rw [dateParse_of_isoDay firstKnown, dateParse_of_isoDay secondKnown]
  exact isoDay_lt_iff firstKnown secondKnown

theorem dateParse_le_iff {first second : Text} (firstReal : (isoDay first).isSome)
    (secondReal : (isoDay second).isSome) :
    first ≤ second ↔ dateParse first ≤ dateParse second := by
  rw [← not_lt, dateParse_lt_iff secondReal firstReal, not_lt]

/-- A date occupied is a day from the first to before the last. -/
theorem DateRange.occupies_iff {range : DateRange} {night : Text} (real : (isoDay night).isSome) :
    range.Occupies night ↔
      dateParse range.first ≤ dateParse night ∧ dateParse night < dateParse range.last := by
  rw [DateRange.Occupies, dateParse_le_iff range.firstReal real,
    dateParse_lt_iff real range.lastReal]
  exact and_iff_right real

theorem DateRange.dateParse_lt (range : DateRange) :
    dateParse range.first < dateParse range.last :=
  (dateParse_lt_iff range.firstReal range.lastReal).mp range.ordered

theorem DateRange.occupies_first (range : DateRange) : range.Occupies range.first :=
  ⟨range.firstReal, le_rfl, range.ordered⟩

/-- Every day from the first to before the last is the night of a date. -/
theorem DateRange.night {range : DateRange} {day : Int} (first : dateParse range.first ≤ day)
    (last : day < dateParse range.last) : isoDay (dateText day) = some day :=
  isoDay_dateText ((dateParse_bounds range.firstReal).1.trans first)
    (last.le.trans (dateParse_bounds range.lastReal).2)

/-- A stay that leaves after the last of the window occupies a night from there on. -/
theorem DateRange.occupies_beyond {window : DateRange} (stay : DateRange)
    (after : window.last < stay.last) : ∃ night, stay.Occupies night ∧ window.last ≤ night := by
  rcases le_total stay.first window.last with arrived | later
  · exact ⟨window.last, ⟨window.lastReal, arrived, after⟩, le_rfl⟩
  · exact ⟨stay.first, stay.occupies_first, later⟩

/-- Two ranges without a common night end one before the other. -/
theorem DateRange.apart {first second : DateRange}
    (disjoint : ∀ night, ¬ (first.Occupies night ∧ second.Occupies night)) :
    dateParse first.last ≤ dateParse second.first ∨
      dateParse second.last ≤ dateParse first.first := by
  by_contra meet
  have orderedFirst := first.dateParse_lt
  have orderedSecond := second.dateParse_lt
  let day := max (dateParse first.first) (dateParse second.first)
  have known : isoDay (dateText day) = some day := first.night (le_max_left _ _) (by omega)
  have real : (isoDay (dateText day)).isSome := Option.isSome_iff_exists.mpr ⟨day, known⟩
  refine disjoint (dateText day) ⟨?_, ?_⟩
  · rw [DateRange.occupies_iff real, dateParse_of_isoDay known]
    omega
  · rw [DateRange.occupies_iff real, dateParse_of_isoDay known]
    omega

/-! ### Columns -/

/-- The columns are the window's nights in order. -/
theorem DateRange.days_getElem? {window : DateRange} {i : Nat} {day : CalendarDay}
    (column : window.days[i]? = some day) :
    isoDay day.date = some (dateParse window.first + i) ∧
      dateParse window.first + i < dateParse window.last := by
  obtain ⟨bound, rfl⟩ := List.getElem?_eq_some_iff.mp column
  have within : i < (countNights window.first window.last).toNat := by
    rwa [DateRange.days, windowDays, List.length_map, List.length_range] at bound
  have before : dateParse window.first + i < dateParse window.last := by
    rw [countNights] at within
    omega
  refine ⟨?_, before⟩
  simp only [DateRange.days, windowDays, List.getElem_map, List.getElem_range]
  exact window.night (by omega) before

theorem DateRange.length_days (window : DateRange) :
    (window.days.length : Int) = dateParse window.last - dateParse window.first := by
  have ordered := window.dateParse_lt
  rw [DateRange.days, windowDays, List.length_map, List.length_range, countNights]
  omega

/-! ### Bars -/

theorem DateRange.nightsTo (window : DateRange) (date : Text) :
    countNights window.first date = dateParse date - dateParse window.first := rfl

/-- The bar begins and ends where the stay does, cut at the edges of the window. -/
theorem DateRange.bar_some {window stay : DateRange} {span : BarSpan}
    (drawn : window.bar stay = some span) :
    span.start = max 0 (dateParse stay.first - dateParse window.first) ∧
      span.stop = min (dateParse stay.last - dateParse window.first)
        (dateParse window.last - dateParse window.first) ∧
      span.start < span.stop ∧
      (span.continuesLeft = true ↔ dateParse stay.first < dateParse window.first) ∧
      (span.continuesRight = true ↔ dateParse window.last < dateParse stay.last) := by
  have windowOrdered := window.dateParse_lt
  simp only [DateRange.bar, barSpan] at drawn
  split at drawn
  · cases drawn
  next visible =>
    obtain rfl := Option.some.inj drawn
    have dayCount := window.nightsTo window.last
    have rawStart := window.nightsTo stay.first
    have rawEnd := window.nightsTo stay.last
    dsimp only
    refine ⟨by omega, by omega, by omega, ?_, ?_⟩
    · rw [decide_eq_true_iff]
      omega
    · rw [decide_eq_true_iff]
      omega

theorem DateRange.bar_none {window stay : DateRange} :
    window.bar stay = none ↔
      dateParse stay.last ≤ dateParse window.first ∨
        dateParse window.last ≤ dateParse stay.first := by
  have windowOrdered := window.dateParse_lt
  have stayOrdered := stay.dateParse_lt
  have dayCount := window.nightsTo window.last
  have rawStart := window.nightsTo stay.first
  have rawEnd := window.nightsTo stay.last
  simp only [DateRange.bar, barSpan]
  split
  next hidden => exact iff_of_true rfl (by omega)
  next visible => exact iff_of_false (Option.some_ne_none _) (by omega)

/-- A column is covered exactly if the stay occupies its night. -/
theorem DateRange.bar_column {window stay : DateRange} {span : BarSpan}
    (drawn : window.bar stay = some span) {i : Nat} {day : CalendarDay}
    (column : window.days[i]? = some day) :
    span.start ≤ i ∧ (i : Int) < span.stop ↔ stay.Occupies day.date := by
  obtain ⟨start, stop, -⟩ := DateRange.bar_some drawn
  obtain ⟨known, before⟩ := DateRange.days_getElem? column
  rw [DateRange.occupies_iff (Option.isSome_iff_exists.mpr ⟨_, known⟩), dateParse_of_isoDay known]
  omega

/-- No bar is drawn exactly if the stay occupies no night of the window. -/
theorem DateRange.bar_none_iff {window stay : DateRange} :
    window.bar stay = none ↔ ∀ day ∈ window.days, ¬ stay.Occupies day.date := by
  constructor
  · intro hidden day member occupied
    obtain ⟨i, column⟩ := List.mem_iff_getElem?.mp member
    obtain ⟨known, before⟩ := DateRange.days_getElem? column
    rw [DateRange.occupies_iff (Option.isSome_iff_exists.mpr ⟨_, known⟩),
      dateParse_of_isoDay known] at occupied
    have missed := DateRange.bar_none.mp hidden
    omega
  · intro free
    cases drawn : window.bar stay with
    | none => rfl
    | some span =>
      obtain ⟨start, stop, visible, -⟩ := DateRange.bar_some drawn
      have length := window.length_days
      obtain ⟨i, same⟩ := Int.eq_ofNat_of_zero_le (show 0 ≤ span.start by omega)
      have bound : i < window.days.length := by omega
      have column := List.getElem?_eq_getElem bound
      exact absurd ((DateRange.bar_column drawn column).mp (by omega))
        (free _ (List.getElem_mem bound))

/-- The bars of two stays without a common night end one before the other. -/
theorem DateRange.bars_apart {window stay other : DateRange} {span otherSpan : BarSpan}
    (disjoint : ∀ night, ¬ (stay.Occupies night ∧ other.Occupies night))
    (drawn : window.bar stay = some span) (otherDrawn : window.bar other = some otherSpan) :
    span.stop ≤ otherSpan.start ∨ otherSpan.stop ≤ span.start := by
  obtain ⟨start, stop, -⟩ := DateRange.bar_some drawn
  obtain ⟨otherStart, otherStop, -⟩ := DateRange.bar_some otherDrawn
  have apart := DateRange.apart disjoint
  omega

/-- The columns of a window are its nights in order. A bar is drawn unless the stay occupies no
night of the window. It lies in the columns, covers the `i`-th exactly if the stay occupies the
`i`-th night, and continues at an edge exactly if the stay occupies a night there beyond. So the
bars of stays of which no two have a common night end one before the other. A window and a stay are
any two days of the calendar in order. -/
theorem bars_draw_nights (window : DateRange) :
    ((window.days.length : Int) = dateParse window.last - dateParse window.first ∧
      ∀ (i : Nat) day, window.days[i]? = some day →
        isoDay day.date = some (dateParse window.first + i)) ∧
    (∀ stay : DateRange,
      (window.bar stay = none ↔ ∀ day ∈ window.days, ¬ stay.Occupies day.date) ∧
      ∀ span, window.bar stay = some span →
        0 ≤ span.start ∧ span.start < span.stop ∧ span.stop ≤ window.days.length ∧
        (∀ (i : Nat) day, window.days[i]? = some day →
          (span.start ≤ i ∧ i < span.stop ↔ stay.Occupies day.date)) ∧
        (span.continuesLeft = true ↔ ∃ night, stay.Occupies night ∧ night < window.first) ∧
        (span.continuesRight = true ↔ ∃ night, stay.Occupies night ∧ window.last ≤ night)) ∧
    ∀ stays : List DateRange,
      (stays.Pairwise fun stay other => ∀ night, ¬ (stay.Occupies night ∧ other.Occupies night)) →
      (stays.filterMap window.bar).Pairwise fun span other =>
        span.stop ≤ other.start ∨ other.stop ≤ span.start := by
  refine ⟨⟨window.length_days, fun i day column => (DateRange.days_getElem? column).1⟩,
    fun stay => ⟨DateRange.bar_none_iff, fun span drawn => ?_⟩, fun stays disjoint => ?_⟩
  · obtain ⟨start, stop, visible, left, right⟩ := DateRange.bar_some drawn
    have length := window.length_days
    refine ⟨by omega, visible, by omega, fun i day => DateRange.bar_column drawn, ?_, ?_⟩
    · rw [left, ← dateParse_lt_iff stay.firstReal window.firstReal]
      constructor
      · exact fun before => ⟨stay.first, stay.occupies_first, before⟩
      · rintro ⟨night, ⟨-, arrived, -⟩, before⟩
        exact arrived.trans_lt before
    · rw [right, ← dateParse_lt_iff window.lastReal stay.lastReal]
      constructor
      · exact DateRange.occupies_beyond stay
      · rintro ⟨night, ⟨-, -, leaving⟩, after⟩
        exact after.trans_lt leaving
  · rw [List.pairwise_filterMap]
    exact disjoint.imp fun free span drawn other otherDrawn =>
      DateRange.bars_apart free drawn otherDrawn

end Sambung
