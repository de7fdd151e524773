/-
This file compares the guest's checkout with the quote and with the exclusion
constraint.

The three speak of overlap each in its own way: the quote clips and merges the
occupied spans of its window, the checkout sweeps the dead holds and quotes again,
and the constraint compares half-open ranges. They agree on every stay the
database can store. A stay in the year 0 and a guest text with U+0000 pass the
request's schema and no column takes them.

`Db.Occupied` is the one notion of a taken window that the three are brought to.
The checkout's own sweep leaves in its unit just what the sweep of all units
leaves there, so it makes no difference which of the two has run. Prices and
placements are as the tables constrain them, and a price so bounded is always an
amount, which is why a quote never throws over the stay of a request. The cases of
the checkout follow the source: archived, dates that cannot be bound, closed,
open.
-/

import Sambung.Pricing
import Sambung.System

namespace Sambung

/-! ### The stay of a request -/

/-- The first night of the stay, as a day. -/
def StayDates.first (stay : StayDates) : PgDate := dateParse stay.checkIn

/-- The day the stay ends on. -/
def StayDates.last (stay : StayDates) : PgDate := dateParse stay.checkOut

theorem StayDates.isoDay_checkIn (stay : StayDates) : isoDay stay.checkIn = some stay.first := by
  obtain ⟨day, real⟩ := Option.isSome_iff_exists.mp stay.checkInReal
  rw [StayDates.first, dateParse, real]
  rfl

theorem StayDates.isoDay_checkOut (stay : StayDates) : isoDay stay.checkOut = some stay.last := by
  obtain ⟨day, real⟩ := Option.isSome_iff_exists.mp stay.checkOutReal
  rw [StayDates.last, dateParse, real]
  rfl

theorem StayDates.first_lt_last (stay : StayDates) : stay.first < stay.last :=
  (isoDay_lt_iff stay.isoDay_checkIn stay.isoDay_checkOut).mp stay.ordered

theorem pgDate_eq_isoDay {text : Text} (stored : (pgDate text).isSome) :
    pgDate text = isoDay text := by
  unfold pgDate at stored ⊢
  cases parts : isoParts text with
  | none => simp [parts] at stored
  | some found =>
    simp only [parts] at stored ⊢
    split at stored
    · cases stored
    · rename_i year
      rw [if_neg year]

/-! ### The price of a stay -/

section Price

variable {fromDate toDate : Text} {fromDay toDay : PgDate}

/-- The nights of the window an override covers. -/
def UnitPriceOverride.nights (fromDay toDay : PgDate) (row : UnitPriceOverride) : Int :=
  min row.toDate toDay - max row.fromDate fromDay

theorem countNights_clipped (fromReal : isoDay fromDate = some fromDay)
    (toReal : isoDay toDate = some toDay) {row : UnitPriceOverride}
    (meets : daterangesOverlap row.fromDate row.toDate fromDay toDay) :
    countNights (laterText (dateText (max row.fromDate fromDay)) fromDate)
        (earlierText (dateText (min row.toDate toDay)) toDate) =
      row.nights fromDay toDay := by
  obtain ⟨fromFirst, fromLast, fromShown⟩ := dateText_of_isoDay fromReal
  obtain ⟨toFirst, toLast, toShown⟩ := dateText_of_isoDay toReal
  have startReal : isoDay (dateText (max row.fromDate fromDay)) = some (max row.fromDate fromDay) :=
    isoDay_dateText (fromFirst.trans (le_max_right _ _))
      (meets.le.trans ((min_le_right _ _).trans toLast))
  have stopReal : isoDay (dateText (min row.toDate toDay)) = some (min row.toDate toDay) :=
    isoDay_dateText ((fromFirst.trans (le_max_right _ _)).trans meets.le)
      ((min_le_right _ _).trans toLast)
  have later : laterText (dateText (max row.fromDate fromDay)) fromDate =
      dateText (max row.fromDate fromDay) := by
    unfold laterText
    split
    · rfl
    · rename_i notAfter
      have same : max row.fromDate fromDay = fromDay :=
        le_antisymm (not_lt.mp (mt (isoDay_lt_iff fromReal startReal).mpr notAfter))
          (le_max_right _ _)
      rw [same, fromShown]
  have earlier : earlierText (dateText (min row.toDate toDay)) toDate =
      dateText (min row.toDate toDay) := by
    unfold earlierText
    split
    · rfl
    · rename_i notBefore
      have same : min row.toDate toDay = toDay :=
        le_antisymm (min_le_right _ _)
          (not_lt.mp (mt (isoDay_lt_iff stopReal toReal).mpr notBefore))
      rw [same, toShown]
  rw [later, earlier, countNights, dateParse_of_isoDay stopReal, dateParse_of_isoDay startReal]
  rfl

/-- The quoted total of the nights each row covers over a base price. -/
theorem quoteTotalIdr_clipped (fromReal : isoDay fromDate = some fromDay)
    (toReal : isoDay toDate = some toDay) (basePriceIdr : BigInt) {rows : List UnitPriceOverride}
    (meet : ∀ row ∈ rows, daterangesOverlap row.fromDate row.toDate fromDay toDay) :
    quoteTotalIdr basePriceIdr fromDate toDate (rows.map fun row =>
        { fromDate := dateText (max row.fromDate fromDay)
          toDate := dateText (min row.toDate toDay)
          nightlyPriceIdr := row.nightlyPriceIdr }) =
      basePriceIdr * (toDay - fromDay) +
        (rows.map fun row =>
          (row.nightlyPriceIdr - basePriceIdr) * row.nights fromDay toDay).sum := by
  unfold quoteTotalIdr
  rw [countNights, dateParse_of_isoDay toReal, dateParse_of_isoDay fromReal]
  generalize basePriceIdr * (toDay - fromDay) = total
  induction rows generalizing total with
  | nil => simp
  | cons row rows inductionHypothesis =>
    have meets := meet row List.mem_cons_self
    have positive : 0 < row.nights fromDay toDay := sub_pos.mpr meets
    rw [List.map_cons, List.foldl_cons, List.map_cons, List.sum_cons]
    dsimp only
    rw [countNights_clipped fromReal toReal meets, if_pos positive,
      inductionHypothesis fun other member => meet other (List.mem_cons_of_mem _ member)]
    exact add_assoc _ _ _

end Price

/-- The prices and placements the tables of a unit are constrained to. -/
structure Db.PricesLawful (db : Db) : Prop where
  units : (db.unit.map RentalUnit.id).Nodup
  properties : (db.property.map Property.id).Nodup
  placed : ∀ unit ∈ db.unit, ∃ property ∈ db.property,
    property.id = unit.propertyId ∧ property.tenantId = unit.tenantId
  basePrice : ∀ unit ∈ db.unit, 0 ≤ unit.basePriceIdr ∧ unit.basePriceIdr ≤ 1000000000
  nightlyPrice : ∀ row ∈ db.unitPriceOverride,
    1 ≤ row.nightlyPriceIdr ∧ row.nightlyPriceIdr ≤ 1000000000
  apart : db.unitPriceOverride.Pairwise fun first second => first.unitId = second.unitId →
    ¬ daterangesOverlap first.fromDate first.toDate second.fromDate second.toDate

/-- Overrides of one unit that do not meet cover no night of the window twice. -/
theorem sum_nights_le {fromDay toDay : PgDate} (window : fromDay ≤ toDay)
    {rows : List UnitPriceOverride}
    (meet : ∀ row ∈ rows, daterangesOverlap row.fromDate row.toDate fromDay toDay)
    (apart : rows.Pairwise fun first second =>
      ¬ daterangesOverlap first.fromDate first.toDate second.fromDate second.toDate) :
    (rows.map fun row => row.nights fromDay toDay).sum ≤ toDay - fromDay := by
  have spans := Spans.sum_lengths_le
    (rows.map fun row => (max row.fromDate fromDay, min row.toDate toDay)) window
    (by
      intro span member
      obtain ⟨row, rowMember, rfl⟩ := List.mem_map.mp member
      exact (meet row rowMember).le)
    (by
      intro span member
      obtain ⟨row, rowMember, rfl⟩ := List.mem_map.mp member
      exact ⟨le_max_right _ _, min_le_right _ _⟩)
    (List.pairwise_map.mpr (apart.imp fun {first second} separate meets => separate
      ((max_le_max (le_max_left _ _) (le_max_left _ _)).trans_lt
        (meets.trans_le (min_le_min (min_le_left _ _) (min_le_left _ _))))))
  rw [List.map_map] at spans
  exact spans

/-- Repricing nights never makes the total negative, nor more than the highest rate throughout. -/
theorem repriced_bounds {base highest nights : Int} {Row : Type} {rows : List Row}
    {price covered : Row → Int} (baseLow : 0 ≤ base) (baseHigh : base ≤ highest)
    (prices : ∀ row ∈ rows, 0 ≤ price row ∧ price row ≤ highest)
    (positive : ∀ row ∈ rows, 0 ≤ covered row) (within : (rows.map covered).sum ≤ nights) :
    0 ≤ base * nights + (rows.map fun row => (price row - base) * covered row).sum ∧
      base * nights + (rows.map fun row => (price row - base) * covered row).sum ≤
        highest * nights := by
  have low : (rows.map fun row => -base * covered row).sum ≤
      (rows.map fun row => (price row - base) * covered row).sum :=
    List.sum_le_sum fun row member =>
      mul_le_mul_of_nonneg_right (by have := prices row member; omega) (positive row member)
  have high : (rows.map fun row => (price row - base) * covered row).sum ≤
      (rows.map fun row => (highest - base) * covered row).sum :=
    List.sum_le_sum fun row member =>
      mul_le_mul_of_nonneg_right (by have := prices row member; omega) (positive row member)
  rw [List.sum_map_mul_left] at low high
  constructor
  · have scaled := mul_le_mul_of_nonneg_left within baseLow
    linarith
  · have scaled := mul_le_mul_of_nonneg_left within (sub_nonneg.mpr baseHigh)
    linarith

section Quote

variable {db : Db} {unit : RentalUnit} {stay : StayDates}

/-- The total of a stay in a unit of the tables is an amount in rupiah. -/
theorem toRupiah_quoteTotal (prices : db.PricesLawful) (member : unit ∈ db.unit)
    (stay : StayDates) :
    ∃ total, quoteTotalIdr unit.basePriceIdr stay.checkIn stay.checkOut
        (findPriceOverrides unit.tenantId unit.id stay.first stay.last db) = total ∧
      0 ≤ total ∧ toRupiah total = .ok total := by
  let inside := (db.unitPriceOverride.filter fun row =>
    row.unitId = unit.id ∧ row.tenantId = unit.tenantId ∧
      daterangesOverlap row.fromDate row.toDate stay.first stay.last).insertionSort
        fun a b => a.fromDate ≤ b.fromDate
  have perm := List.perm_insertionSort (fun a b : UnitPriceOverride => a.fromDate ≤ b.fromDate)
    (db.unitPriceOverride.filter fun row => row.unitId = unit.id ∧ row.tenantId = unit.tenantId ∧
      daterangesOverlap row.fromDate row.toDate stay.first stay.last)
  have rows : ∀ row ∈ inside, row ∈ db.unitPriceOverride ∧ row.unitId = unit.id ∧
      daterangesOverlap row.fromDate row.toDate stay.first stay.last := by
    intro row rowMember
    obtain ⟨stored, matched⟩ := List.mem_filter.mp (perm.mem_iff.mp rowMember)
    simp only [decide_eq_true_eq] at matched
    exact ⟨stored, matched.1, matched.2.2⟩
  have apart : inside.Pairwise fun first second =>
      ¬ daterangesOverlap first.fromDate first.toDate second.fromDate second.toDate := by
    have stored := prices.apart.sublist (List.filter_sublist (p := fun row =>
      row.unitId = unit.id ∧ row.tenantId = unit.tenantId ∧
        daterangesOverlap row.fromDate row.toDate stay.first stay.last))
    have sorted : inside.Pairwise fun first second => first.unitId = second.unitId →
        ¬ daterangesOverlap first.fromDate first.toDate second.fromDate second.toDate :=
      (perm.pairwise_iff (fun separate same => by
        rw [daterangesOverlap_comm]; exact separate same.symm)).mpr stored
    exact sorted.imp_of_mem fun {first second} firstMember secondMember separate =>
      separate ((rows first firstMember).2.1.trans (rows second secondMember).2.1.symm)
  have total := quoteTotalIdr_clipped stay.isoDay_checkIn stay.isoDay_checkOut unit.basePriceIdr
    fun row rowMember => (rows row rowMember).2.2
  obtain ⟨baseLow, baseHigh⟩ := prices.basePrice unit member
  obtain ⟨low, high⟩ := repriced_bounds baseLow baseHigh
    (fun row rowMember => by
      have price := prices.nightlyPrice row (rows row rowMember).1
      exact ⟨zero_le_one.trans price.1, price.2⟩)
    (fun row rowMember => (sub_pos.mpr (rows row rowMember).2.2).le)
    (sum_nights_le stay.first_lt_last.le (fun row rowMember => (rows row rowMember).2.2) apart)
  have nights : (stay.last - stay.first : Int) ≤ 366 := stay.bounded
  have safe : (1000000000 * (stay.last - stay.first) : Int) ≤ MAX_SAFE_INTEGER :=
    (mul_le_mul_of_nonneg_left nights (by decide)).trans (by decide)
  refine ⟨_, total, low, if_neg ?_⟩
  rintro (negative | large)
  · exact absurd low (not_le.mpr negative)
  · exact absurd (high.trans safe) (not_le.mpr large)

/-! ### Occupied nights -/

/-- Some occupying booking of the unit holds a night of the window. -/
def Db.Occupied (db : Db) (tenantId unitId : Uuid) (first last : PgDate) : Prop :=
  ∃ row ∈ db.booking, row.unitId = unitId ∧ row.tenantId = tenantId ∧ row.status.Occupying ∧
    daterangesOverlap row.checkIn row.checkOut first last

instance (db : Db) (tenantId unitId : Uuid) (first last : PgDate) :
    Decidable (db.Occupied tenantId unitId first last) := by
  unfold Db.Occupied; infer_instance

theorem mergeRange_ne_nil (merged : List BlockedRange) (next : BlockedRange) :
    mergeRange merged next ≠ [] := by
  unfold mergeRange
  cases last : merged.getLast? with
  | none => exact List.cons_ne_nil _ _
  | some range =>
    have nonempty : merged ≠ [] := by
      rintro rfl
      cases last
    dsimp only
    split
    · split
      · exact List.append_ne_nil_of_right_ne_nil _ (List.cons_ne_nil _ _)
      · exact nonempty
    · exact List.append_ne_nil_of_right_ne_nil _ (List.cons_ne_nil _ _)

/-- Merging spans leaves none only where there was none. -/
theorem coalesceRanges_ne_nil {ranges : List BlockedRange} :
    coalesceRanges ranges ≠ [] ↔ ranges ≠ [] := by
  unfold coalesceRanges
  have length := List.length_insertionSort (fun a b : BlockedRange => a.fromDate ≤ b.fromDate)
    ranges
  generalize ranges.insertionSort (fun a b : BlockedRange => a.fromDate ≤ b.fromDate) = sorted
    at length
  rcases List.eq_nil_or_concat sorted with rfl | ⟨before, last, rfl⟩
  · rw [List.length_nil, eq_comm, List.length_eq_zero_iff] at length
    simp [length]
  · have nonempty : ranges ≠ [] := by
      rintro rfl
      simp at length
    rw [List.concat_eq_append, List.foldl_append]
    exact ⟨fun _ => nonempty, fun _ => mergeRange_ne_nil _ _⟩

theorem blockedRanges_pos {tenantId unitId : Uuid} {first last : PgDate} :
    0 < (coalesceRanges (findBlockedRanges tenantId unitId first last db)).length ↔
      db.Occupied tenantId unitId first last := by
  rw [List.length_pos_iff, coalesceRanges_ne_nil, findBlockedRanges, ne_eq, List.map_eq_nil_iff,
    ← List.length_eq_zero_iff, List.length_insertionSort, List.length_eq_zero_iff,
    List.filter_eq_nil_iff]
  simp only [decide_eq_true_eq, not_forall, not_not, Db.Occupied]
  exact ⟨fun ⟨row, member, blocks⟩ => ⟨row, member, blocks⟩,
    fun ⟨row, member, blocks⟩ => ⟨row, member, blocks⟩⟩

/-! ### The quote -/

/-- Neither the unit nor its property is archived. -/
def RentalUnit.Live (unit : RentalUnit) (db : Db) : Prop :=
  unit.archivedAt = none ∧ ∃ property ∈ db.property, property.id = unit.propertyId ∧
    property.tenantId = unit.tenantId ∧ property.archivedAt = none

theorem findUnit (prices : db.PricesLawful) (member : unit ∈ db.unit) :
    (db.unit.find? fun row => row.id = unit.id ∧ row.tenantId = unit.tenantId) = some unit := by
  refine Table.find?_narrow (Table.byKey_of_mem prices.units member) (by simp) fun row => ?_
  simp only [decide_eq_true_eq]
  exact And.left

/-- What the quote reads of a unit of the tables. -/
theorem fetchUnitPricing_of_mem (prices : db.PricesLawful) (member : unit ∈ db.unit) :
    ∃ archived, fetchUnitPricing unit.tenantId unit.id db =
        some { basePriceIdr := unit.basePriceIdr, minStay := unit.minStay, archived } ∧
      (archived = false ↔ unit.Live db) := by
  obtain ⟨property, propertyMember, sameId, sameTenant⟩ := prices.placed unit member
  have found : (db.property.find? fun row =>
      row.id = unit.propertyId ∧ row.tenantId = unit.tenantId) = some property := by
    refine Table.find?_narrow (Table.byKey_of_mem prices.properties propertyMember)
      (by simp [sameId, sameTenant]) fun row => ?_
    simp only [decide_eq_true_eq, sameId]
    exact And.left
  refine ⟨unit.archivedAt.isSome || property.archivedAt.isSome, ?_, ?_⟩
  · simp only [fetchUnitPricing, findUnit prices member, found, Option.bind_eq_bind,
      Option.bind_some]
  · rw [Bool.or_eq_false_iff, Option.isSome_eq_false_iff, Option.isSome_eq_false_iff,
      Option.isNone_iff_eq_none, Option.isNone_iff_eq_none, RentalUnit.Live]
    refine and_congr_right fun _ => ⟨fun live => ⟨property, propertyMember, sameId, sameTenant,
      live⟩, ?_⟩
    rintro ⟨other, otherMember, otherId, -, live⟩
    rw [← Table.eq_of_key prices.properties otherMember propertyMember (otherId.trans sameId.symm)]
    exact live

/-- The quote of a stay in a live unit, once its dates are bound. -/
theorem quote_live (prices : db.PricesLawful) (member : unit ∈ db.unit) (live : unit.Live db)
    (checkInStored : (pgDate stay.checkIn).isSome)
    (checkOutStored : (pgDate stay.checkOut).isSome) :
    ∃ response, quote unit.tenantId unit.id stay.checkIn stay.checkOut db =
        .ok (.ok response) ∧
      response.nights = countNights stay.checkIn stay.checkOut ∧
      response.totalPriceIdr = quoteTotalIdr unit.basePriceIdr stay.checkIn stay.checkOut
        (findPriceOverrides unit.tenantId unit.id stay.first stay.last db) ∧
      (response.available = true ↔
        ¬ db.Occupied unit.tenantId unit.id stay.first stay.last ∧
          meetsMinStay response.nights unit.minStay) ∧
      (.overlap ∈ response.reasons ↔ db.Occupied unit.tenantId unit.id stay.first stay.last) ∧
      (.minStay ∈ response.reasons ↔ ¬ meetsMinStay response.nights unit.minStay) ∧
      ∀ reason ∈ response.reasons, reason = .overlap ∨ reason = .minStay := by
  obtain ⟨archived, fetched, archivedIff⟩ := fetchUnitPricing_of_mem prices member
  obtain ⟨total, quoted, -, rupiah⟩ := toRupiah_quoteTotal prices member stay
  have first : pgDate stay.checkIn = some stay.first :=
    (pgDate_eq_isoDay checkInStored).trans stay.isoDay_checkIn
  have last : pgDate stay.checkOut = some stay.last :=
    (pgDate_eq_isoDay checkOutStored).trans stay.isoDay_checkOut
  unfold quote
  rw [fetched, archivedIff.mpr live, first, last]
  dsimp only
  rw [if_neg Bool.false_ne_true, quoted, rupiah]
  refine ⟨_, rfl, rfl, rfl, ?_⟩
  simp only [gt_iff_lt, blockedRanges_pos, decide_eq_true_eq]
  by_cases occupied : db.Occupied unit.tenantId unit.id stay.first stay.last
  · by_cases enough : meetsMinStay (countNights stay.checkIn stay.checkOut) unit.minStay
    · simp [occupied, enough]
    · simp [occupied, enough]
  · by_cases enough : meetsMinStay (countNights stay.checkIn stay.checkOut) unit.minStay
    · simp [occupied, enough]
    · simp [occupied, enough]

end Quote


/-! ### The sweep before the quote -/

/-- What an expiry leaves occupied is what it does not match. -/
theorem exists_occupying_expired {condition : Booking → Prop} [DecidablePred condition]
    {db : Db} {place : Booking → Prop} :
    (∃ row ∈ (db.setBookingStatus .expired condition).booking, place row ∧ row.status.Occupying) ↔
      ∃ row ∈ db.booking, place row ∧ row.status.Occupying ∧ ¬ condition row := by
  constructor
  · rintro ⟨row, member, placed, occupying⟩
    obtain ⟨source, sourceMember, rfl⟩ := Table.mem_updateWhere.mp member
    split at occupying
    · exact absurd occupying BookingStatus.not_occupying_expired
    · rename_i unmatched
      rw [if_neg unmatched] at placed
      exact ⟨source, sourceMember, placed, occupying, unmatched⟩
  · rintro ⟨row, member, placed, occupying, unmatched⟩
    exact ⟨row, Table.mem_updateWhere.mpr ⟨row, member, if_neg unmatched⟩, placed, occupying⟩

/-- The bookings of a unit are its tenant's, by the foreign key over both columns and the key of the
units. -/
theorem Db.BookingsLawful.tenant [PostgresServer] {db : Db} (bookings : db.BookingsLawful)
    (prices : db.PricesLawful) {unit : RentalUnit} (member : unit ∈ db.unit) {row : Booking}
    (rowMember : row ∈ db.booking) (ofUnit : row.unitId = unit.id) :
    row.tenantId = unit.tenantId := by
  have linked := bookings.linked row rowMember
  unfold Db.failedForeignKey at linked
  split at linked
  · cases linked
  · rename_i known
    obtain ⟨other, otherMember, otherId, otherTenant⟩ := not_not.mp known
    rw [← otherTenant, Table.eq_of_key prices.units otherMember member (otherId.trans ofUnit)]

/-- The checkout's own sweep frees every night of the unit the sweep of all units frees. -/
theorem occupied_swept [PostgresServer] {db : Db} {unit : RentalUnit} (bookings : db.BookingsLawful)
    (prices : db.PricesLawful) (member : unit ∈ db.unit) (first last : PgDate) (now : Instant) :
    (expireLapsedHolds unit.tenantId unit.id now db).Occupied unit.tenantId unit.id first last ↔
      ∃ row ∈ (sweepExpiredHolds now db).booking, (row.unitId = unit.id ∧
        daterangesOverlap row.checkIn row.checkOut first last) ∧ row.status.Occupying := by
  rw [sweepExpiredHolds, exists_occupying_expired]
  have own : (expireLapsedHolds unit.tenantId unit.id now db).Occupied unit.tenantId unit.id
        first last ↔
      ∃ row ∈ (expireLapsedHolds unit.tenantId unit.id now db).booking, (row.unitId = unit.id ∧
        row.tenantId = unit.tenantId ∧ daterangesOverlap row.checkIn row.checkOut first last) ∧
        row.status.Occupying :=
    exists_congr fun row => by tauto
  rw [own, expireLapsedHolds, exists_occupying_expired]
  refine exists_congr fun row => and_congr_right fun rowMember => ?_
  by_cases ofUnit : row.unitId = unit.id
  · simp [ofUnit, bookings.tenant prices member rowMember ofUnit]
  · simp [ofUnit]

/-- A sweep occupies nothing: what is occupied after it was occupied before. -/
theorem occupied_of_swept {db : Db} {tenantId unitId : Uuid} {first last : PgDate} {now : Instant}
    (occupied : (expireLapsedHolds tenantId unitId now db).Occupied tenantId unitId first last) :
    db.Occupied tenantId unitId first last := by
  obtain ⟨row, member, ofUnit, ofTenant, occupying, meets⟩ := occupied
  obtain ⟨source, sourceMember, rfl⟩ := Table.mem_updateWhere.mp member
  split at occupying
  · exact absurd occupying BookingStatus.not_occupying_expired
  · rename_i unmatched
    rw [if_neg unmatched] at ofUnit ofTenant meets
    exact ⟨source, sourceMember, ofUnit, ofTenant, occupying, meets⟩

theorem Db.BookingsLawful.sweptTenant [PostgresServer] {db : Db} (bookings : db.BookingsLawful)
    (prices : db.PricesLawful) {unit : RentalUnit} (member : unit ∈ db.unit) (unitId : Uuid)
    (now : Instant) : ∀ row ∈ (expireLapsedHolds unit.tenantId unitId now db).booking,
      row.unitId = unit.id → row.tenantId = unit.tenantId :=
  Table.forall_updateWhere (fun _ rowMember => bookings.tenant prices member rowMember)
    fun _ _ _ kept => kept

theorem Db.PricesLawful.swept {db : Db} (prices : db.PricesLawful) (tenantId unitId : Uuid)
    (now : Instant) : (expireLapsedHolds tenantId unitId now db).PricesLawful :=
  ⟨prices.units, prices.properties, prices.placed, prices.basePrice, prices.nightlyPrice,
    prices.apart⟩

/-! ### The gate -/

/-- The conditions a stay has to meet: a live unit, room for the guests, enough nights, and no
occupying booking in the way once dead holds are expired. -/
def GateOpen (req : CreateBookingRequest) (now : Instant) (db : Db) : Prop :=
  ∃ unit ∈ db.unit, unit.id = req.unitId ∧ unit.Live db ∧ req.guestCount ≤ unit.maxGuests ∧
    unit.minStay ≤ countNights req.checkIn req.checkOut ∧
    ¬ ∃ row ∈ (sweepExpiredHolds now db).booking, (row.unitId = req.unitId ∧
      daterangesOverlap row.checkIn row.checkOut req.first req.last) ∧ row.status.Occupying

/-- Every value of the request is one its column takes. -/
def CreateBookingRequest.Storable (req : CreateBookingRequest) : Prop :=
  (pgDate req.checkIn).isSome ∧ (pgDate req.checkOut).isSome ∧ pgText req.guestName ∧
    pgText req.guestPhone ∧ ∀ email ∈ req.guestEmail, pgText email

/-- The checkout agrees with the conditions, with the quote and with the constraint. -/
structure GateAgrees [PostgresServer] (uuids : UuidSource) (requiresCredentials : Bool)
    (req : CreateBookingRequest) (now : Instant) (db : Db) : Prop where
  opens : (∃ response after,
      createPublicBooking uuids requiresCredentials req now db = .ok (response, after)) ↔
    GateOpen req now db
  priced : ∀ response after,
    createPublicBooking uuids requiresCredentials req now db = .ok (response, after) →
    ∃ unit ∈ db.unit, unit.id = req.unitId ∧ ∃ quoted,
      quote unit.tenantId req.unitId req.checkIn req.checkOut db = .ok (.ok quoted) ∧
      response.totalPriceIdr = quoted.totalPriceIdr ∧
      ∃ row, after.bookingById response.bookingId = some row ∧
        row.totalPriceIdr = some quoted.totalPriceIdr ∧
        ¬ ∃ other ∈ (sweepExpiredHolds now db).booking, other.Clashes row
  refuses : ∀ thrown, createPublicBooking uuids requiresCredentials req now db = .error thrown →
    (createPublicBooking uuids requiresCredentials req now db).database db = db
  honours : ∀ unit ∈ db.unit, unit.id = req.unitId → ∀ quoted,
    quote unit.tenantId req.unitId req.checkIn req.checkOut db = .ok (.ok quoted) →
    quoted.available = true → ∀ reasons,
    createPublicBooking uuids requiresCredentials req now db = .error (datesUnavailable reasons) →
    .overlap ∉ reasons ∧ .minStay ∉ reasons

section Gate

variable {uuids : UuidSource} {requiresCredentials : Bool} {req : CreateBookingRequest}
  {now : Instant} {db : Db} {unit : RentalUnit}

/-- The checkout in a unit of the tables, past the credential gate. -/
theorem createPublicBooking_of_mem [PostgresServer] (uuids : UuidSource) (now : Instant)
    (prices : db.PricesLawful) (member : unit ∈ db.unit) (sameUnit : unit.id = req.unitId)
    (able : requiresCredentials → paymentCredentialExists unit.tenantId db) :
    createPublicBooking uuids requiresCredentials req now db =
      match sweepQuoteOrThrow unit.tenantId req.unitId req.checkIn req.checkOut .unavailable now
        db with
      | .error thrown => .error thrown
      | .ok (quote, swept) =>
        let reasons := quote.reasons ++
          (if req.guestCount > unit.maxGuests then [.maxGuests] else [])
        if reasons.length > 0 then .error (datesUnavailable reasons)
        else
          match insertHold uuids (req.holdInput unit.tenantId quote) now swept with
          | .error error => .error (mapDbError error)
          | .ok (created, after) =>
            (createBookingResponse created quote.nights).map fun response => (response, after) := by
  have found : db.unitById req.unitId = some unit := by
    rw [← sameUnit]
    exact Table.byKey_of_mem prices.units member
  have allowed : ¬ (requiresCredentials = true ∧ ¬ paymentCredentialExists unit.tenantId db) :=
    fun ⟨required, missing⟩ => missing (able required)
  unfold createPublicBooking
  rw [found]
  dsimp only
  rw [if_neg allowed]
  cases quoted : sweepQuoteOrThrow unit.tenantId req.unitId req.checkIn req.checkOut .unavailable
      now db with
  | error thrown => rfl
  | ok answer =>
    obtain ⟨quote, swept⟩ := answer
    obtain ⟨rfl, -⟩ := sweepQuoteOrThrow_ok quoted
    have guests : fetchMaxGuests unit.tenantId req.unitId
        (expireLapsedHolds unit.tenantId req.unitId now db) = some unit.maxGuests := by
      rw [fetchMaxGuests, ← sameUnit]
      show Option.map RentalUnit.maxGuests (db.unit.find? _) = _
      rw [findUnit prices member]
      rfl
    dsimp only
    generalize fetchMaxGuests unit.tenantId req.unitId
      (expireLapsedHolds unit.tenantId req.unitId now db) = most at guests ⊢
    cases guests
    rfl

/-- A hold over free nights is refused for its texts or for nothing. -/
theorem holdRow_refusal [PostgresServer] (member : unit ∈ db.unit) (sameUnit : unit.id = req.unitId)
    {quoted : AvailabilityResponse} (nonnegative : 0 ≤ quoted.totalPriceIdr)
    (free : ¬ ∃ other ∈ db.booking, other.unitId = unit.id ∧ other.status.Occupying ∧
      daterangesOverlap other.checkIn other.checkOut req.first req.last) (id : Uuid) :
    db.bookingRefusal ((req.holdInput unit.tenantId quoted).row req.first req.last now id) =
      if pgText req.guestName ∧ pgText req.guestPhone ∧ ∀ email ∈ req.guestEmail, pgText email
      then none else some .invalidText := by
  generalize made : (req.holdInput unit.tenantId quoted).row req.first req.last now id = row
  have texts : row.texts.all pgText ↔
      pgText req.guestName ∧ pgText req.guestPhone ∧ ∀ email ∈ req.guestEmail, pgText email := by
    subst made
    cases email : req.guestEmail <;>
      simp [Booking.texts, HoldInput.row, CreateBookingRequest.holdInput, email]
  have checked : row.failedCheck = none := by
    subst made
    refine Booking.failedCheck_eq_none.mpr ⟨?_, req.first_lt_last, ?_⟩
    · have positive := req.guestCountPositive
      intro zero
      have none : req.guestCount = 0 := Option.some.inj zero
      omega
    · intro price same
      rw [← Option.some.inj same]
      exact nonnegative
  have indexed : db.failedIndex row = none := by
    refine Db.failedIndex_eq_none.mpr ⟨fun other _ _ shares => ?_, fun other otherMember _ clash =>
      free ⟨other, otherMember, ?_, clash.2.1, ?_⟩⟩
    · have linked := shares.2.1 ▸ shares.1
      subst made
      cases linked
    · subst made
      exact clash.1.trans sameUnit.symm
    · subst made
      exact clash.2.2.2
  have linked : db.failedForeignKey row = none := by
    subst made
    refine (if_neg (not_not.mpr ⟨unit, member, sameUnit, rfl⟩)).trans (if_neg ?_)
    rintro ⟨connection, named, -⟩
    cases named
  have entry : row.indexRefusal = none := by
    subst made
    rfl
  unfold Db.bookingRefusal
  rw [checked, entry, indexed, linked]
  by_cases storable : row.texts.all pgText
  · rw [if_neg (not_not.mpr storable), if_pos (texts.mp storable)]
    rfl
  · rw [if_pos storable, if_neg (mt texts.mpr storable)]

theorem insertHold_open [PostgresServer] (uuids : UuidSource) (now : Instant)
    (member : unit ∈ db.unit) (sameUnit : unit.id = req.unitId) {quoted : AvailabilityResponse}
    (nonnegative : 0 ≤ quoted.totalPriceIdr) (checkInStored : (pgDate req.checkIn).isSome)
    (checkOutStored : (pgDate req.checkOut).isSome)
    (free : ¬ ∃ other ∈ db.booking, other.unitId = unit.id ∧ other.status.Occupying ∧
      daterangesOverlap other.checkIn other.checkOut req.first req.last) :
    (req.Storable ∧ ∃ id, id ∉ db.booking.map Booking.id ∧
        insertHold uuids (req.holdInput unit.tenantId quoted) now db =
          .ok ((req.holdInput unit.tenantId quoted).row req.first req.last now id,
            { db with booking := db.booking ++
              [(req.holdInput unit.tenantId quoted).row req.first req.last now id] })) ∨
      (¬ req.Storable ∧
        insertHold uuids (req.holdInput unit.tenantId quoted) now db = .error .invalidText) := by
  have stay : bindStay req.checkIn req.checkOut = .ok (req.first, req.last) := by
    rw [bindStay, pgDate_eq_isoDay checkInStored, pgDate_eq_isoDay checkOutStored,
      req.isoDay_checkIn, req.isoDay_checkOut]
  have inserted : insertHold uuids (req.holdInput unit.tenantId quoted) now db =
      db.insertBooking uuids
        ((req.holdInput unit.tenantId quoted).row req.first req.last now) := by
    unfold insertHold
    show (bindStay req.checkIn req.checkOut).bind _ = _
    rw [stay]
    rfl
  have fresh := uuids.fresh (db.booking.map Booking.id)
  rw [inserted, Db.insertBooking]
  generalize uuids.draw (db.booking.map Booking.id) = id at fresh ⊢
  rw [holdRow_refusal member sameUnit nonnegative free]
  by_cases texts : pgText req.guestName ∧ pgText req.guestPhone ∧
      ∀ email ∈ req.guestEmail, pgText email
  · rw [if_pos texts]
    exact Or.inl ⟨⟨checkInStored, checkOutStored, texts⟩, id, fresh, rfl⟩
  · rw [if_neg texts]
    exact Or.inr ⟨fun storable => texts storable.2.2, rfl⟩

/-- A checkout that throws agrees with the gate where the gate is closed. -/
theorem gateAgrees_of_thrown [PostgresServer] {thrown : Thrown}
    (failed : createPublicBooking uuids requiresCredentials req now db = .error thrown)
    (honours : ∀ unit ∈ db.unit, unit.id = req.unitId → ∀ quoted,
      quote unit.tenantId req.unitId req.checkIn req.checkOut db = .ok (.ok quoted) →
      quoted.available = true → ∀ reasons, thrown = datesUnavailable reasons →
      .overlap ∉ reasons ∧ .minStay ∉ reasons)
    (unstorable : GateOpen req now db → ¬ req.Storable) :
    GateAgrees uuids requiresCredentials req now db ↔ (GateOpen req now db → req.Storable) := by
  constructor
  · intro agrees gate
    obtain ⟨response, after, created⟩ := agrees.opens.mpr gate
    rw [failed] at created
    cases created
  · intro storable
    refine ⟨⟨?_, fun gate => absurd (storable gate) (unstorable gate)⟩, ?_, ?_, ?_⟩
    · rintro ⟨response, after, created⟩
      rw [failed] at created
      cases created
    · intro response after created
      rw [failed] at created
      cases created
    · intro other _
      rw [failed]
      rfl
    · intro unit member sameUnit quoted answer available reasons refused
      rw [failed] at refused
      exact honours unit member sameUnit quoted answer available reasons (Except.error.inj refused)

theorem quote_archived (prices : db.PricesLawful) (member : unit ∈ db.unit)
    (archived : ¬ unit.Live db) (checkIn checkOut : Text) :
    quote unit.tenantId unit.id checkIn checkOut db = .ok .archived := by
  obtain ⟨flag, fetched, live⟩ := fetchUnitPricing_of_mem prices member
  have set : flag = true := by
    cases flag with
    | false => exact absurd (live.mp rfl) archived
    | true => rfl
  unfold quote
  rw [fetched, set]
  rfl

theorem quote_unbound (prices : db.PricesLawful) (member : unit ∈ db.unit) (live : unit.Live db)
    {checkIn checkOut : Text}
    (unbound : ¬ ((pgDate checkIn).isSome ∧ (pgDate checkOut).isSome)) :
    quote unit.tenantId unit.id checkIn checkOut db = .error (.pg .invalidDate) := by
  obtain ⟨flag, fetched, liveIff⟩ := fetchUnitPricing_of_mem prices member
  unfold quote
  rw [fetched, liveIff.mpr live]
  dsimp only
  rw [if_neg Bool.false_ne_true]
  cases first : pgDate checkIn with
  | none => rfl
  | some day =>
    cases last : pgDate checkOut with
    | none => rfl
    | some lastDay => exact absurd (by simp [first, last]) unbound

/-- The gate's conditions, over a unit of the tables. -/
theorem gateOpen_of_mem [PostgresServer] (now : Instant) (bookings : db.BookingsLawful)
    (prices : db.PricesLawful) (member : unit ∈ db.unit) (sameUnit : unit.id = req.unitId) :
    GateOpen req now db ↔
      unit.Live db ∧ req.guestCount ≤ unit.maxGuests ∧
        meetsMinStay (countNights req.checkIn req.checkOut) unit.minStay ∧
        ¬ (expireLapsedHolds unit.tenantId unit.id now db).Occupied unit.tenantId unit.id
          req.first req.last := by
  rw [occupied_swept bookings prices member]
  constructor
  · rintro ⟨other, otherMember, otherId, live, guests, nights, free⟩
    rw [Table.eq_of_key prices.units otherMember member (otherId.trans sameUnit.symm)]
      at live guests nights
    rw [← sameUnit] at free
    exact ⟨live, guests, nights, free⟩
  · rintro ⟨live, guests, nights, free⟩
    rw [sameUnit] at free
    exact ⟨unit, member, sameUnit, live, guests, nights, free⟩

/-- A hold that was stored answers with its price. -/
theorem createBookingResponse_hold {input : HoldInput} {checkIn checkOut : PgDate} {id : Uuid}
    {nights : Int} (rupiah : toRupiah input.totalPriceIdr = .ok input.totalPriceIdr)
    (positive : 0 < nights) :
    createBookingResponse (input.row checkIn checkOut now id) nights = .ok {
      bookingId := id
      status := .pendingPayment
      holdExpiresAt := now + HOLD_TTL_MINUTES * 60000
      totalPriceIdr := input.totalPriceIdr
      nights } := by
  show (toRupiah input.totalPriceIdr).bind _ = _
  rw [rupiah]
  show (if nights ≤ 0 then _ else _) = _
  rw [if_neg (not_le.mpr positive)]
  rfl

/-- A checkout that answers agrees with the gate where the gate is open and its price quoted. -/
theorem gateAgrees_of_created [PostgresServer] (opened : GateOpen req now db)
    (member : unit ∈ db.unit) (sameUnit : unit.id = req.unitId) {response : CreateBookingResponse}
    {after : Db} {quoted : AvailabilityResponse} {row : Booking}
    (created : createPublicBooking uuids requiresCredentials req now db = .ok (response, after))
    (answer : quote unit.tenantId req.unitId req.checkIn req.checkOut db = .ok (.ok quoted))
    (price : response.totalPriceIdr = quoted.totalPriceIdr)
    (stored : after.bookingById response.bookingId = some row)
    (rowPrice : row.totalPriceIdr = some quoted.totalPriceIdr)
    (free : ¬ ∃ other ∈ (sweepExpiredHolds now db).booking, other.Clashes row) :
    GateAgrees uuids requiresCredentials req now db := by
  refine ⟨⟨fun _ => opened, fun _ => ⟨response, after, created⟩⟩, ?_, ?_, ?_⟩
  · intro other otherAfter same
    rw [created] at same
    cases same
    exact ⟨unit, member, sameUnit, quoted, answer, price, row, stored, rowPrice, free⟩
  · intro thrown failed
    rw [created] at failed
    cases failed
  · intro _ _ _ _ _ _ reasons failed
    rw [created] at failed
    cases failed

/-- The checkout in a live unit with dates the database binds: every reason of the quote and the
guests in one refusal, and the insert of the hold where there is none. -/
theorem createPublicBooking_live [PostgresServer] (uuids : UuidSource) (now : Instant)
    (prices : db.PricesLawful) (member : unit ∈ db.unit) (sameUnit : unit.id = req.unitId)
    (able : requiresCredentials → paymentCredentialExists unit.tenantId db) (live : unit.Live db)
    (checkInStored : (pgDate req.checkIn).isSome) (checkOutStored : (pgDate req.checkOut).isSome) :
    ∃ response : AvailabilityResponse,
      response.nights = countNights req.checkIn req.checkOut ∧
      response.totalPriceIdr = quoteTotalIdr unit.basePriceIdr req.checkIn req.checkOut
        (findPriceOverrides unit.tenantId unit.id req.first req.last db) ∧
      (.overlap ∈ response.reasons ↔ (expireLapsedHolds unit.tenantId unit.id now db).Occupied
        unit.tenantId unit.id req.first req.last) ∧
      (.minStay ∈ response.reasons ↔ ¬ meetsMinStay response.nights unit.minStay) ∧
      (∀ reason ∈ response.reasons, reason = .overlap ∨ reason = .minStay) ∧
      createPublicBooking uuids requiresCredentials req now db =
        let reasons := response.reasons ++
          (if req.guestCount > unit.maxGuests then [.maxGuests] else [])
        if reasons.length > 0 then .error (datesUnavailable reasons)
        else
          match insertHold uuids (req.holdInput unit.tenantId response) now
            (expireLapsedHolds unit.tenantId unit.id now db) with
          | .error error => .error (mapDbError error)
          | .ok (created, after) =>
            (createBookingResponse created response.nights).map fun answer => (answer, after) := by
  obtain ⟨response, quoted, nights, total, -, overlap, minStay, only⟩ :=
    quote_live (prices.swept unit.tenantId unit.id now) member live checkInStored checkOutStored
  refine ⟨response, nights, total, overlap, minStay, only, ?_⟩
  rw [createPublicBooking_of_mem uuids now prices member sameUnit able]
  unfold sweepQuoteOrThrow
  rw [← sameUnit]
  dsimp only
  rw [quoted]

/-- With the gate open, a checkout whose dates the database binds agrees where its texts can be
stored. -/
theorem gateAgrees_of_open [PostgresServer] (bookings : db.BookingsLawful)
    (prices : db.PricesLawful) (member : unit ∈ db.unit) (sameUnit : unit.id = req.unitId)
    (able : requiresCredentials → paymentCredentialExists unit.tenantId db)
    (checkInStored : (pgDate req.checkIn).isSome) (checkOutStored : (pgDate req.checkOut).isSome)
    (opened : GateOpen req now db) :
    GateAgrees uuids requiresCredentials req now db ↔ (GateOpen req now db → req.Storable) := by
  obtain ⟨live, guests, enough, free⟩ :=
    (gateOpen_of_mem now bookings prices member sameUnit).mp opened
  obtain ⟨response, nights, total, overlap, minStay, only, created⟩ :=
    createPublicBooking_live uuids now prices member sameUnit able live checkInStored checkOutStored
  obtain ⟨quoted, answer, -, quotedTotal, -⟩ :=
    quote_live prices member live checkInStored checkOutStored
  obtain ⟨amount, priced, nonnegative, rupiah⟩ :=
    toRupiah_quoteTotal prices member req.toStayDates
  have noReasons : response.reasons = [] := by
    refine List.eq_nil_iff_forall_not_mem.mpr fun reason reasonMember => ?_
    rcases only reason reasonMember with rfl | rfl
    · exact free (overlap.mp reasonMember)
    · exact minStay.mp reasonMember (nights ▸ enough)
  have price : response.totalPriceIdr = amount := total.trans priced
  have unoccupied : ¬ ∃ other ∈ (expireLapsedHolds unit.tenantId unit.id now db).booking,
      other.unitId = unit.id ∧ other.status.Occupying ∧
        daterangesOverlap other.checkIn other.checkOut req.first req.last := by
    rintro ⟨other, otherMember, ofUnit, occupying, meets⟩
    have ofTenant := bookings.sweptTenant prices member unit.id now other otherMember ofUnit
    exact free ⟨other, otherMember, ofUnit, ofTenant, occupying, meets⟩
  rw [noReasons, if_neg (not_lt.mpr guests)] at created
  dsimp only at created
  rw [if_neg (by decide)] at created
  rcases insertHold_open uuids now
      (show unit ∈ (expireLapsedHolds unit.tenantId unit.id now db).unit from member) sameUnit
      (by rw [price]; exact nonnegative) checkInStored checkOutStored unoccupied with
    ⟨storable, id, fresh, inserted⟩ | ⟨unstorable, failed⟩
  · have settled : toRupiah (req.holdInput unit.tenantId response).totalPriceIdr =
        .ok (req.holdInput unit.tenantId response).totalPriceIdr := by
      rw [show (req.holdInput unit.tenantId response).totalPriceIdr = amount from price]
      exact rupiah
    have stored : Table.byKey Booking.id id
        ((expireLapsedHolds unit.tenantId unit.id now db).booking ++
          [(req.holdInput unit.tenantId response).row req.first req.last now id]) =
        some ((req.holdInput unit.tenantId response).row req.first req.last now id) :=
      Table.byKey_append_fresh rfl fresh
    rw [inserted] at created
    dsimp only at created
    rw [createBookingResponse_hold settled
      (by rw [nights]; exact sub_pos.mpr req.first_lt_last)] at created
    have samePrice : response.totalPriceIdr = quoted.totalPriceIdr := total.trans quotedTotal.symm
    rw [sameUnit] at answer
    refine iff_of_true ?_ fun _ => storable
    refine gateAgrees_of_created opened member sameUnit created answer samePrice stored
      (congrArg some samePrice) ?_
    rintro ⟨other, otherMember, clash⟩
    rw [occupied_swept bookings prices member] at free
    exact free ⟨other, otherMember, ⟨clash.1.trans sameUnit.symm, clash.2.2.2⟩, clash.2.1⟩
  · rw [failed] at created
    refine gateAgrees_of_thrown created ?_ fun _ => unstorable
    intro _ _ _ _ _ _ reasons invalid
    cases invalid

/-- With the gate closed, a checkout whose dates the database binds agrees. -/
theorem gateAgrees_of_closed [PostgresServer] (bookings : db.BookingsLawful)
    (prices : db.PricesLawful) (member : unit ∈ db.unit) (sameUnit : unit.id = req.unitId)
    (able : requiresCredentials → paymentCredentialExists unit.tenantId db) (live : unit.Live db)
    (checkInStored : (pgDate req.checkIn).isSome) (checkOutStored : (pgDate req.checkOut).isSome)
    (closed : ¬ GateOpen req now db) :
    GateAgrees uuids requiresCredentials req now db ↔ (GateOpen req now db → req.Storable) := by
  obtain ⟨response, nights, -, overlap, minStay, only, created⟩ :=
    createPublicBooking_live uuids now prices member sameUnit able live checkInStored checkOutStored
  obtain ⟨quoted, answer, quotedNights, -, available, -⟩ :=
    quote_live prices member live checkInStored checkOutStored
  rw [gateOpen_of_mem now bookings prices member sameUnit, ← nights] at closed
  have refused : (response.reasons ++ (if req.guestCount > unit.maxGuests then
      [BookingRefusalReason.maxGuests] else [])).length > 0 := by
    rw [gt_iff_lt, List.length_pos_iff]
    intro none
    obtain ⟨noReasons, noGuests⟩ := List.append_eq_nil_iff.mp none
    refine closed ⟨live, ?_, ?_, ?_⟩
    · by_contra tooMany
      rw [if_pos (not_le.mp tooMany)] at noGuests
      cases noGuests
    · by_contra short
      have listed := minStay.mpr short
      rw [noReasons] at listed
      cases listed
    · intro occupied
      have listed := overlap.mpr occupied
      rw [noReasons] at listed
      cases listed
  dsimp only at created
  rw [if_pos refused] at created
  refine gateAgrees_of_thrown created ?_ fun opened => ?_
  · intro other otherMember same otherQuoted otherAnswer isAvailable reasons sameReasons
    rw [Table.eq_of_key prices.units otherMember member (same.trans sameUnit.symm), ← sameUnit,
      answer] at otherAnswer
    cases otherAnswer
    obtain ⟨free, enough⟩ := available.mp isAvailable
    cases sameReasons
    simp only [List.mem_append, overlap, minStay, nights, ← quotedNights, enough]
    refine ⟨?_, ?_⟩
    · rintro (occupied | guests)
      · exact free (occupied_of_swept occupied)
      · split at guests <;> simp at guests
    · split <;> simp
  · rw [gateOpen_of_mem now bookings prices member sameUnit, ← nights] at opened
    exact absurd opened closed

/-- The checkout agrees with its gate exactly where every stay the gate would let through is one the
database can store. Of the state only the constraints of the bookings and the prices are assumed,
and that a tenant whose gateway asks for a key has one, since the checkout tests that before it
looks at the stay. A date of the year 0 and a guest's text with U+0000 are what no column takes. -/
theorem gate_agrees_iff [PostgresServer] (uuids : UuidSource) (requiresCredentials : Bool)
    (req : CreateBookingRequest) (now : Instant) (db : Db) (bookings : db.BookingsLawful)
    (prices : db.PricesLawful)
    (able : requiresCredentials → ∀ unit ∈ db.unit, unit.id = req.unitId →
      paymentCredentialExists unit.tenantId db) :
    GateAgrees uuids requiresCredentials req now db ↔ (GateOpen req now db → req.Storable) := by
  by_cases known : ∃ unit ∈ db.unit, unit.id = req.unitId
  · obtain ⟨unit, member, sameUnit⟩ := known
    have able := fun required => able required unit member sameUnit
    have sole : ∀ other ∈ db.unit, other.id = req.unitId → other = unit :=
      fun other otherMember same =>
        Table.eq_of_key prices.units otherMember member (same.trans sameUnit.symm)
    have created := createPublicBooking_of_mem uuids now prices member sameUnit able
    unfold sweepQuoteOrThrow at created
    dsimp only at created
    by_cases live : unit.Live db
    · by_cases bound : (pgDate req.checkIn).isSome ∧ (pgDate req.checkOut).isSome
      · by_cases opened : GateOpen req now db
        · exact gateAgrees_of_open bookings prices member sameUnit able bound.1 bound.2 opened
        · exact gateAgrees_of_closed bookings prices member sameUnit able live bound.1 bound.2
            opened
      · rw [← sameUnit, quote_unbound (prices.swept unit.tenantId unit.id now) member live bound]
          at created
        refine gateAgrees_of_thrown created ?_ fun _ storable => bound ⟨storable.1, storable.2.1⟩
        intro other otherMember same quoted answer
        rw [sole other otherMember same, ← sameUnit, quote_unbound prices member live bound]
          at answer
        cases answer
    · rw [← sameUnit, quote_archived (prices.swept unit.tenantId unit.id now) member live]
        at created
      refine gateAgrees_of_thrown created ?_ fun opened =>
        absurd ((gateOpen_of_mem now bookings prices member sameUnit).mp opened).1 live
      intro other otherMember same quoted answer
      rw [sole other otherMember same, ← sameUnit, quote_archived prices member live] at answer
      cases answer
  · have absent : db.unitById req.unitId = none :=
      Table.byKey_eq_none.mpr fun unit member same => known ⟨unit, member, same⟩
    have failed : createPublicBooking uuids requiresCredentials req now db =
        .error (.notFound "Unit not found") := by
      rw [createPublicBooking, absent]
    refine gateAgrees_of_thrown failed ?_ ?_
    · exact fun unit member same => absurd ⟨unit, member, same⟩ known
    · rintro ⟨unit, member, same, -⟩
      exact absurd ⟨unit, member, same⟩ known

end Gate

/-! ### The villa -/

attribute [local instance] PostgresServer.uncompressed

theorem villa_bookings : villa.BookingsLawful :=
  ⟨List.nodup_nil, fun _ member => (List.not_mem_nil member).elim,
    fun _ member => (List.not_mem_nil member).elim, fun _ member => (List.not_mem_nil member).elim,
    fun _ member => (List.not_mem_nil member).elim⟩

theorem villa_prices : villa.PricesLawful where
  units := by decide
  properties := by decide
  placed := by decide
  basePrice := by decide
  nightlyPrice _ member := (List.not_mem_nil member).elim
  apart := List.Pairwise.nil

/-- Two guests ask for the villa from 1 to 3 August 2026. -/
def villaRequest : CreateBookingRequest where
  unitId := 20
  checkIn := "2026-08-01".toList
  checkOut := "2026-08-03".toList
  checkInReal := by decide
  checkOutReal := by decide
  ordered := by decide
  bounded := by decide
  guestName := "Guest"
  guestPhone := "+6281234567890"
  guestEmail := none
  guestCount := 2
  guestCountPositive := by decide
  guestCountBounded := by decide

/-- The villa with a guest who arrives on the day the stay ends, and a dearer first night. -/
def villaBusy : Db :=
  { villa with
    booking := [{ villaHold with
      status := .confirmed, checkIn := 20668, checkOut := 20670, holdExpiresAt := none }]
    unitPriceOverride := [{
      unitId := 20, tenantId := 1, fromDate := 20666, toDate := 20667, nightlyPriceIdr := 1500000 }]
    }

theorem villaBusy_bookings : villaBusy.BookingsLawful :=
  ⟨by decide, by decide +kernel, by decide +kernel, by decide +kernel, by decide +kernel⟩

theorem villaBusy_prices : villaBusy.PricesLawful where
  units := by decide
  properties := by decide
  placed := by decide
  basePrice := by decide
  nightlyPrice := by decide
  apart := List.pairwise_singleton _ _

/-- The stay ends where the next guest's begins, and both gates let it in at one price. -/
theorem villa_gate_agrees :
    villaBusy.Occupied 1 20 20668 20670 ∧ GateAgrees .counting false villaRequest 0 villaBusy :=
  ⟨by decide +kernel,
    (gate_agrees_iff .counting false villaRequest 0 villaBusy villaBusy_bookings villaBusy_prices
      (fun required => nomatch required)).mpr fun _ => by
        refine ⟨by decide, by decide, by decide, by decide, ?_⟩
        rintro email ⟨⟩⟩

/-- The same stay in the year 0, which the schema takes for a date. -/
def yearZeroRequest : CreateBookingRequest :=
  { villaRequest with
    checkIn := "0000-08-01".toList
    checkOut := "0000-08-03".toList
    checkInReal := by decide
    checkOutReal := by decide
    ordered := by decide
    bounded := by decide }

/-- The gate is open to a stay in the year 0, and the checkout throws the database's error. -/
theorem year_zero_refused :
    villa.BookingsLawful ∧ villa.PricesLawful ∧ GateOpen yearZeroRequest 0 villa ∧
      createPublicBooking .counting false yearZeroRequest 0 villa = .error (.pg .invalidDate) ∧
      ¬ GateAgrees .counting false yearZeroRequest 0 villa := by
  have opened : GateOpen yearZeroRequest 0 villa := by
    refine ⟨_, List.mem_singleton.mpr rfl, rfl, ⟨rfl, _, List.mem_singleton.mpr rfl, rfl, rfl, rfl⟩,
      by decide, by decide, ?_⟩
    rintro ⟨row, member, -⟩
    exact (List.not_mem_nil member).elim
  refine ⟨villa_bookings, villa_prices, opened, rfl, fun agrees => ?_⟩
  obtain ⟨response, after, created⟩ := agrees.opens.mpr opened
  cases created

end Sambung
