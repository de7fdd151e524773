/-
This file states the owner's calendar, `buildCalendar` of `calendar-model.ts` over
the three reads of `use-calendar.ts`, and proves that it draws the ledger: in the
row of a unit a column is covered exactly if the night is held, by the one bar of
the booking that holds it.

`localeCompare` depends on the reader's locale and orders the rows only, so it is
a parameter. The three reads answer from one state of the database.

The proof has three layers. What the model makes of any three lists: which units
have a row, under which property, and that none has two. What the lists hold over
a sound database: the units, the properties and the bookings that meet the window.
And what a bar covers, which is the geometry of `CalendarBars`. A unit that is
archived keeps its row as long as it has a booking in the window, since a held
night has to be drawn.
-/

import Sambung.Foundation.Grouping
import Sambung.Reservations

namespace Sambung

/-! ### The model -/

structure CalendarRow where
  unit : UnitResponse
  archived : Bool
  bookings : List BookingRow
  deriving DecidableEq, Repr

structure CalendarGroup where
  property : PropertyResponse
  rows : List CalendarRow
  deriving DecidableEq, Repr

/-- A unit has a row unless it is archived and has no booking. -/
def calendarRow (byUnit : List (Uuid × List BookingRow)) (unit : UnitResponse) :
    Option CalendarRow :=
  let bookings := (Grouping.get unit.id byUnit).getD []
  if unit.archived ∧ bookings.length = 0 then none
  else some { unit, archived := unit.archived, bookings }

/-- A property has a group where one of its units has a row. -/
def calendarGroup (localeCompare : String → String → Int) (byUnit : List (Uuid × List BookingRow))
    (unitsByProperty : List (Uuid × List UnitResponse)) (property : PropertyResponse) :
    Option CalendarGroup :=
  let units := ((Grouping.get property.id unitsByProperty).getD []).insertionSort fun a b =>
    localeCompare a.name b.name ≤ 0
  let rows := units.filterMap (calendarRow byUnit)
  if rows.length > 0 then some { property, rows } else none

/-- The properties the toolbar's filter leaves. -/
def visibleProperties (propertyId : Option Uuid) (properties : List PropertyResponse) :
    List PropertyResponse :=
  match propertyId with
  | some id => properties.filter (·.id = id)
  | none => properties

def Web.buildCalendar (localeCompare : String → String → Int) (properties : List PropertyResponse)
    (units : List UnitResponse) (bookings : List BookingRow) (propertyId : Option Uuid) :
    List CalendarGroup :=
  let byUnit := Grouping.groupBy BookingRow.unitId bookings
  let unitsByProperty := Grouping.groupBy UnitResponse.propertyId units
  let visible := (visibleProperties propertyId properties).insertionSort fun a b =>
    localeCompare a.name b.name ≤ 0
  visible.filterMap (calendarGroup localeCompare byUnit unitsByProperty)

/-- The calendar names the occupying statuses. -/
def calendarQuery (window : ListWindow) (propertyId : Option Uuid) : ListBookingsQuery where
  window := some window
  propertyId
  unitId := none
  status := some OCCUPYING_STATUSES
  source := none

/-- What the browser knows beside the responses: its order of names, and the columns that order the
lists and count the photos. -/
structure CalendarContext where
  localeCompare : String → String → Int
  createdAt : Uuid → Instant
  photoCount : Uuid → Nat

/-- The calendar of a window, of one property or of all. -/
def ownerCalendar (context : CalendarContext) (tenantId : Uuid) (window : ListWindow)
    (propertyId : Option Uuid) (db : Db) : Except Thrown (List CalendarGroup) := do
  let properties ← listProperties context.createdAt context.photoCount tenantId db
  let units ← listAllUnits context.createdAt tenantId db
  let bookings ← listBookings tenantId (calendarQuery window propertyId) db
  return Web.buildCalendar context.localeCompare properties units bookings propertyId

/-- The bar of the booking in the window. -/
def BookingRow.bar (window : DateRange) (booking : BookingRow) : Option BarSpan :=
  barSpan window.first window.last booking.checkIn booking.checkOut

/-- The bar of the booking covers the column. -/
def BookingRow.CoversColumn (window : DateRange) (i : Nat) (booking : BookingRow) : Prop :=
  ∃ span, booking.bar window = some span ∧ span.start ≤ i ∧ (i : Int) < span.stop

/-! ### What the calendar is made of -/

section Composition

variable {localeCompare : String → String → Int} {properties : List PropertyResponse}
  {units : List UnitResponse} {bookings : List BookingRow} {propertyId : Option Uuid}

/-- The bookings of a row are those of its unit. -/
theorem calendarRow_eq_some {unit : UnitResponse} {row : CalendarRow} :
    calendarRow (Grouping.groupBy BookingRow.unitId bookings) unit = some row ↔
      row = ⟨unit, unit.archived, bookings.filter (·.unitId = unit.id)⟩ ∧
        (unit.archived = true → row.bookings ≠ []) := by
  rw [calendarRow, Grouping.getD_groupBy]
  generalize (bookings.filter fun booking => booking.unitId = unit.id) = mine
  by_cases dropped : unit.archived = true ∧ mine.length = 0
  · rw [if_pos dropped]
    refine iff_of_false (Option.some_ne_none row).symm ?_
    rintro ⟨rfl, kept⟩
    exact kept dropped.1 (List.length_eq_zero_iff.mp dropped.2)
  · rw [if_neg dropped, Option.some_inj, eq_comm]
    refine (and_iff_left_of_imp ?_).symm
    rintro rfl archived empty
    exact dropped ⟨archived, List.length_eq_zero_iff.mpr empty⟩

theorem mem_visibleProperties {property : PropertyResponse} :
    property ∈ visibleProperties propertyId properties ↔
      property ∈ properties ∧ ∀ id ∈ propertyId, property.id = id := by
  cases propertyId with
  | none => simp [visibleProperties]
  | some id => simp [visibleProperties]

/-- The rows of a property's group. -/
def rowsUnder (localeCompare : String → String → Int) (units : List UnitResponse)
    (bookings : List BookingRow) (property : PropertyResponse) : List CalendarRow :=
  ((units.filter (·.propertyId = property.id)).insertionSort fun a b =>
    localeCompare a.name b.name ≤ 0).filterMap
      (calendarRow (Grouping.groupBy BookingRow.unitId bookings))

theorem calendarGroup_eq_some {property : PropertyResponse} {group : CalendarGroup} :
    calendarGroup localeCompare (Grouping.groupBy BookingRow.unitId bookings)
        (Grouping.groupBy UnitResponse.propertyId units) property = some group ↔
      group = ⟨property, rowsUnder localeCompare units bookings property⟩ ∧ group.rows ≠ [] := by
  rw [calendarGroup, Grouping.getD_groupBy]
  show (if (rowsUnder localeCompare units bookings property).length > 0 then _ else _) = _ ↔ _
  by_cases empty : rowsUnder localeCompare units bookings property = []
  · rw [empty]
    refine iff_of_false (Option.some_ne_none group).symm ?_
    rintro ⟨rfl, filled⟩
    exact filled rfl
  · rw [if_pos (List.length_pos_iff.mpr empty), Option.some_inj, eq_comm]
    refine (and_iff_left_of_imp ?_).symm
    rintro rfl
    exact empty

/-- Every unit with a row has it under its property, if that is visible. -/
theorem mem_buildCalendar {property : PropertyResponse} {row : CalendarRow} :
    (∃ group ∈ Web.buildCalendar localeCompare properties units bookings propertyId,
        group.property = property ∧ row ∈ group.rows) ↔
      property ∈ visibleProperties propertyId properties ∧
        ∃ unit ∈ units, unit.propertyId = property.id ∧
          calendarRow (Grouping.groupBy BookingRow.unitId bookings) unit = some row := by
  have under : row ∈ rowsUnder localeCompare units bookings property ↔
      ∃ unit ∈ units, unit.propertyId = property.id ∧
        calendarRow (Grouping.groupBy BookingRow.unitId bookings) unit = some row := by
    simp only [rowsUnder, List.mem_filterMap, List.mem_insertionSort, List.mem_filter,
      decide_eq_true_eq, and_assoc]
  rw [← under]
  constructor
  · rintro ⟨group, member, rfl, listed⟩
    obtain ⟨property, visible, grouped⟩ := List.mem_filterMap.mp member
    obtain ⟨rfl, -⟩ := calendarGroup_eq_some.mp grouped
    exact ⟨(List.mem_insertionSort _).mp visible, listed⟩
  · rintro ⟨visible, listed⟩
    refine ⟨⟨property, rowsUnder localeCompare units bookings property⟩, ?_, rfl, listed⟩
    exact List.mem_filterMap.mpr ⟨property, (List.mem_insertionSort _).mpr visible,
      calendarGroup_eq_some.mpr ⟨rfl, List.ne_nil_of_mem listed⟩⟩

theorem mem_rowsUnder {property : PropertyResponse} {row : CalendarRow}
    (member : row ∈ rowsUnder localeCompare units bookings property) :
    row.unit ∈ units ∧ row.unit.propertyId = property.id := by
  obtain ⟨unit, listed, made⟩ := List.mem_filterMap.mp member
  rw [List.mem_insertionSort, List.mem_filter] at listed
  rw [(calendarRow_eq_some.mp made).1]
  exact ⟨listed.1, of_decide_eq_true listed.2⟩

/-- Sorting items by their names, in whatever order of names, keeps items of different ids apart. -/
theorem sorted_apart {Item : Type} (id : Item → Uuid) (name : Item → String) {items : List Item}
    (keyed : (items.map id).Nodup) :
    (items.insertionSort fun a b => localeCompare (name a) (name b) ≤ 0).Pairwise
      fun a b => id a ≠ id b := by
  rw [← List.pairwise_map (R := (· ≠ ·))]
  exact ((List.perm_insertionSort _ _).map id).nodup_iff.mpr keyed

/-- No unit has two rows in the calendar, where no id of a property and none of a unit is listed
twice. -/
theorem rows_once (keyedProperties : (properties.map PropertyResponse.id).Nodup)
    (keyedUnits : (units.map UnitResponse.id).Nodup) :
    (((Web.buildCalendar localeCompare properties units bookings propertyId).flatMap
      CalendarGroup.rows).map fun row => row.unit.id).Nodup := by
  have visible : ((visibleProperties propertyId properties).map PropertyResponse.id).Nodup := by
    refine List.Nodup.sublist (List.Sublist.map _ ?_) keyedProperties
    cases propertyId with
    | none => exact List.Sublist.refl _
    | some id => exact List.filter_sublist
  rw [List.map_flatMap, List.nodup_flatMap]
  constructor
  · intro group member
    obtain ⟨property, -, grouped⟩ := List.mem_filterMap.mp member
    obtain ⟨rfl, -⟩ := calendarGroup_eq_some.mp grouped
    rw [List.Nodup, List.pairwise_map, rowsUnder, List.pairwise_filterMap]
    refine (sorted_apart UnitResponse.id UnitResponse.name ?_).imp
      fun apart first made second madeToo => ?_
    · exact keyedUnits.sublist (List.filter_sublist.map _)
    · rw [(calendarRow_eq_some.mp made).1, (calendarRow_eq_some.mp madeToo).1]
      exact apart
  · rw [Web.buildCalendar, List.pairwise_filterMap]
    refine (sorted_apart PropertyResponse.id PropertyResponse.name visible).imp
      fun {first second} apart group grouped other groupedToo => ?_
    obtain ⟨rfl, -⟩ := calendarGroup_eq_some.mp grouped
    obtain ⟨rfl, -⟩ := calendarGroup_eq_some.mp groupedToo
    intro id listed listedToo
    obtain ⟨row, rowMember, rfl⟩ := List.mem_map.mp listed
    obtain ⟨rival, rivalMember, same⟩ := List.mem_map.mp listedToo
    obtain ⟨ofUnits, ofFirst⟩ := mem_rowsUnder rowMember
    obtain ⟨rivalOfUnits, ofSecond⟩ := mem_rowsUnder rivalMember
    rw [Table.eq_of_key keyedUnits rivalOfUnits ofUnits same] at ofSecond
    exact apart (ofFirst.symm.trans ofSecond)

end Composition

/-! ### Columns -/

section Columns

variable {row : Booking} {window : DateRange} {db : Db}

/-- The stay of a booking that can be shown. -/
def Booking.Displayable.stay (displayable : row.Displayable)
    (ordered : row.checkIn < row.checkOut) : DateRange where
  first := dateText row.checkIn
  last := dateText row.checkOut
  firstReal := Option.isSome_iff_exists.mpr ⟨_, displayable.checkIn⟩
  lastReal := Option.isSome_iff_exists.mpr ⟨_, displayable.checkOut⟩
  ordered := (isoDay_lt_iff displayable.checkIn displayable.checkOut).mpr ordered

/-- The bar of a booking covers the columns of the nights of its stay. -/
theorem Booking.Displayable.coversColumn_iff (displayable : row.Displayable)
    (ordered : row.checkIn < row.checkOut) {i : Nat} {day : CalendarDay}
    (column : window.days[i]? = some day) :
    row.shown.CoversColumn window i ↔
      row.checkIn ≤ dateParse window.first + i ∧ dateParse window.first + i < row.checkOut := by
  let stay := displayable.stay ordered
  have known := (DateRange.days_getElem? column).1
  have occupied : stay.Occupies day.date ↔
      row.checkIn ≤ dateParse window.first + i ∧ dateParse window.first + i < row.checkOut := by
    rw [DateRange.occupies_iff (Option.isSome_iff_exists.mpr ⟨_, known⟩),
      dateParse_of_isoDay known]
    show dateParse (dateText row.checkIn) ≤ _ ∧ _ < dateParse (dateText row.checkOut) ↔ _
    rw [dateParse_of_isoDay displayable.checkIn, dateParse_of_isoDay displayable.checkOut]
  rw [← occupied]
  constructor
  · rintro ⟨span, drawn, covered⟩
    have drawnStay : window.bar stay = some span := drawn
    exact (DateRange.bar_column drawnStay column).mp covered
  · intro occupies
    cases drawn : window.bar stay with
    | none =>
      exact absurd occupies
        (DateRange.bar_none_iff.mp drawn day (List.mem_of_getElem? column))
    | some span => exact ⟨span, drawn, (DateRange.bar_column drawn column).mpr occupies⟩

/-- The window of a list is bound to its two days. -/
theorem bindWindow_eq {query : ListBookingsQuery} {window : ListWindow}
    (named : query.window = some window) (firstStored : (pgDate window.first).isSome)
    (lastStored : (pgDate window.last).isSome) :
    query.bindWindow = .ok (some (dateParse window.first, dateParse window.last)) := by
  obtain ⟨first, firstKnown⟩ := Option.isSome_iff_exists.mp window.firstReal
  obtain ⟨last, lastKnown⟩ := Option.isSome_iff_exists.mp window.lastReal
  have bound : bindStay window.first window.last =
      .ok (dateParse window.first, dateParse window.last) := by
    rw [bindStay, pgDate_eq_isoDay firstStored, pgDate_eq_isoDay lastStored, firstKnown,
      lastKnown, dateParse_of_isoDay firstKnown, dateParse_of_isoDay lastKnown]
  rw [ListBookingsQuery.bindWindow, named]
  dsimp only
  rw [bound]

end Columns

/-! ### What the calendar draws -/

/-- The calendar of a window and a filter shows the ledger. -/
structure DrawsLedger (tenantId : Uuid) (window : ListWindow) (propertyId : Option Uuid) (db : Db)
    (groups : List CalendarGroup) : Prop where
  once : ((groups.flatMap CalendarGroup.rows).map fun row => row.unit.id).Nodup
  units : ∀ group ∈ groups, ∀ row ∈ group.rows, ∃ unit ∈ db.unit, row.unit = unit.response db ∧
    unit.tenantId = tenantId ∧ unit.propertyId = group.property.id ∧
      ∀ id ∈ propertyId, group.property.id = id
  shown : ∀ unit ∈ db.unit, unit.tenantId = tenantId → (∀ id ∈ propertyId, unit.propertyId = id) →
    ((∃ group ∈ groups, ∃ row ∈ group.rows, row.unit.id = unit.id) ↔ unit.Live db ∨
      ∃ night, dateParse window.first ≤ night ∧ night < dateParse window.last ∧
        (db.holder unit.id night).isSome)
  bookings : ∀ group ∈ groups, ∀ row ∈ group.rows, (row.bookings.map BookingRow.id).Nodup ∧
    ∀ booking ∈ row.bookings, ∃ stored ∈ db.booking, booking = stored.shown
  columns : ∀ group ∈ groups, ∀ row ∈ group.rows, ∀ (i : Nat) day,
    window.days[i]? = some day → ∀ id,
      (∃ booking ∈ row.bookings, booking.id = id ∧ booking.CoversColumn window.toDateRange i) ↔
        db.holder row.unit.id (dateParse window.first + i) = some id

section Drawing

variable {db : Db} {tenantId : Uuid} {window : ListWindow} {propertyId : Option Uuid}

/-- What the list of bookings answers the calendar. -/
def calendarBookings (tenantId : Uuid) (window : ListWindow) (propertyId : Option Uuid) (db : Db) :
    List BookingRow :=
  ((calendarQuery window propertyId).rows tenantId
    (some (dateParse window.first, dateParse window.last)) db).map Booking.shown

/-- A stay overlaps a window where a night lies in both. -/
theorem overlap_iff {row : Booking} {first last : PgDate} :
    daterangesOverlap row.checkIn row.checkOut first last ↔
      ∃ night, (first ≤ night ∧ night < last) ∧ row.checkIn ≤ night ∧ night < row.checkOut := by
  constructor
  · intro overlap
    exact ⟨max row.checkIn first, ⟨le_max_right _ _, overlap.trans_le (min_le_right _ _)⟩,
      le_max_left _ _, overlap.trans_le (min_le_left _ _)⟩
  · rintro ⟨night, ⟨afterFirst, beforeLast⟩, afterCheckIn, beforeCheckOut⟩
    exact (max_le afterCheckIn afterFirst).trans_lt (lt_min beforeCheckOut beforeLast)

/-- The bookings the calendar reads of a unit it shows are those that hold a night of the window
there. -/
theorem Db.Sound.mem_calendarBookings [PostgresServer] (sound : db.Sound) {unit : RentalUnit}
    (unitMember : unit ∈ db.unit) (ofTenant : unit.tenantId = tenantId)
    (ofProperty : ∀ id ∈ propertyId, unit.propertyId = id) {booking : BookingRow} :
    (booking ∈ calendarBookings tenantId window propertyId db ∧ booking.unitId = unit.id) ↔
      ∃ stored ∈ db.booking, booking = stored.shown ∧ ∃ night,
        (dateParse window.first ≤ night ∧ night < dateParse window.last) ∧
          stored.HoldsNight unit.id night := by
  simp only [calendarBookings, List.mem_map, ListBookingsQuery.mem_rows]
  constructor
  · rintro ⟨⟨stored, ⟨member, joined, -, -, -, overlap, -, -, statuses, -⟩, rfl⟩, ofUnit⟩
    obtain ⟨night, inside, stays⟩ := overlap_iff.mp (overlap _ rfl)
    exact ⟨stored, member, rfl, night, inside, ofUnit,
      statuses _ rfl (List.cons_ne_nil _ _), stays⟩
  · rintro ⟨stored, member, rfl, night, inside, ofUnit, occupying, stays⟩
    obtain ⟨other, otherMember, otherUnit, otherTenant, -⟩ := sound.unitsOf_eq member
    obtain rfl := Table.eq_of_key sound.inventory.units otherMember unitMember
      (otherUnit.trans ofUnit)
    refine ⟨⟨stored, ⟨member, other, unitMember, ⟨otherUnit, otherTenant⟩,
      otherTenant.symm.trans ofTenant, ?_, ofProperty, ?_, ?_, ?_⟩, rfl⟩, ofUnit⟩
    · rintro days ⟨⟩
      exact overlap_iff.mpr ⟨night, inside, stays⟩
    · rintro id ⟨⟩
    · rintro statuses ⟨⟩ -
      exact occupying
    · rintro sources ⟨⟩

/-- A unit the calendar shows has bookings there where one of its nights is held. -/
theorem Db.Sound.booked_iff [PostgresServer] (sound : db.Sound) {unit : RentalUnit}
    (unitMember : unit ∈ db.unit) (ofTenant : unit.tenantId = tenantId)
    (ofProperty : ∀ id ∈ propertyId, unit.propertyId = id) :
    ((calendarBookings tenantId window propertyId db).filter (·.unitId = unit.id)) ≠ [] ↔
      ∃ night, dateParse window.first ≤ night ∧ night < dateParse window.last ∧
        (db.holder unit.id night).isSome := by
  constructor
  · intro filled
    obtain ⟨booking, listed⟩ := List.exists_mem_of_ne_nil _ filled
    obtain ⟨read, ofUnit⟩ := List.mem_filter.mp listed
    obtain ⟨stored, member, -, night, inside, holds⟩ :=
      (sound.mem_calendarBookings unitMember ofTenant ofProperty).mp
        ⟨read, of_decide_eq_true ofUnit⟩
    refine ⟨night, inside.1, inside.2, ?_⟩
    rw [sound.bookings.lawful.holder_eq.mpr ⟨stored, member, rfl, holds⟩]
    rfl
  · rintro ⟨night, afterFirst, beforeLast, held⟩
    obtain ⟨id, holder⟩ := Option.isSome_iff_exists.mp held
    obtain ⟨stored, member, -, holds⟩ := sound.bookings.lawful.holder_eq.mp holder
    obtain ⟨read, ofUnit⟩ := (sound.mem_calendarBookings unitMember ofTenant ofProperty).mpr
      ⟨stored, member, rfl, night, ⟨afterFirst, beforeLast⟩, holds⟩
    exact List.ne_nil_of_mem (List.mem_filter.mpr ⟨read, decide_eq_true ofUnit⟩)

/-- A column of a unit the calendar shows is covered by the bar of the booking that holds its
night. -/
theorem Db.Sound.covered_iff [PostgresServer] (sound : db.Sound) (displayable : db.Displayable)
    {unit : RentalUnit} (unitMember : unit ∈ db.unit) (ofTenant : unit.tenantId = tenantId)
    (ofProperty : ∀ id ∈ propertyId, unit.propertyId = id) {i : Nat} {day : CalendarDay}
    (column : window.days[i]? = some day) {id : Uuid} :
    (∃ booking ∈ (calendarBookings tenantId window propertyId db).filter (·.unitId = unit.id),
        booking.id = id ∧ booking.CoversColumn window.toDateRange i) ↔
      db.holder unit.id (dateParse window.first + i) = some id := by
  simp only [List.mem_filter, decide_eq_true_eq,
    sound.mem_calendarBookings unitMember ofTenant ofProperty]
  rw [sound.bookings.lawful.holder_eq]
  constructor
  · rintro ⟨booking, ⟨stored, member, rfl, night, -, ofUnit, occupying, -⟩, rfl, covers⟩
    have stays := (Booking.Displayable.coversColumn_iff (displayable stored member)
      (sound.bookings.lawful.stayOrdered member) column).mp covers
    exact ⟨stored, member, rfl, ofUnit, occupying, stays⟩
  · rintro ⟨stored, member, rfl, ofUnit, occupying, stays⟩
    have inside := (DateRange.days_getElem? column).2
    refine ⟨stored.shown, ⟨stored, member, rfl, dateParse window.first + i,
      ⟨Int.le_add_of_nonneg_right (Int.natCast_nonneg i), inside⟩, ofUnit, occupying, stays⟩,
      rfl, ?_⟩
    exact (Booking.Displayable.coversColumn_iff (displayable stored member)
      (sound.bookings.lawful.stayOrdered member) column).mpr stays

/-- The rows under a property are those of its units that are live or booked. -/
theorem Db.InventorySound.mem_groups (sound : db.InventorySound) {photoCount : Uuid → Nat}
    {properties : List PropertyResponse} {units : List UnitResponse} {listed : List BookingRow}
    {localeCompare : String → String → Int}
    (everyProperty : properties.Perm ((db.property.filter (·.tenantId = tenantId)).map
      (Property.response photoCount db)))
    (everyUnit : units.Perm ((db.unit.filter (·.tenantId = tenantId)).map
      (RentalUnit.response db))) {id : Uuid} {row : CalendarRow} :
    (∃ group ∈ Web.buildCalendar localeCompare properties units listed propertyId,
        group.property.id = id ∧ row ∈ group.rows) ↔
      ∃ unit ∈ db.unit, unit.tenantId = tenantId ∧ unit.propertyId = id ∧
        (∀ wanted ∈ propertyId, id = wanted) ∧
          row = ⟨unit.response db, (unit.response db).archived,
            listed.filter (·.unitId = unit.id)⟩ ∧ (¬ unit.Live db → row.bookings ≠ []) := by
  have archived : ∀ unit : RentalUnit,
      (unit.response db).archived = true ↔ ¬ unit.Live db := fun unit => decide_eq_true_iff
  constructor
  · rintro ⟨group, groupMember, rfl, rowMember⟩
    obtain ⟨visible, response, responseMember, ofProperty, made⟩ :=
      mem_buildCalendar.mp ⟨group, groupMember, rfl, rowMember⟩
    obtain ⟨unit, unitMember, rfl⟩ := List.mem_map.mp (everyUnit.mem_iff.mp responseMember)
    obtain ⟨stored, ofTenant⟩ := List.mem_filter.mp unitMember
    obtain ⟨same, filled⟩ := calendarRow_eq_some.mp made
    exact ⟨unit, stored, of_decide_eq_true ofTenant, ofProperty,
      (mem_visibleProperties.mp visible).2, same,
      fun retired => filled ((archived unit).mpr retired)⟩
  · rintro ⟨unit, stored, ofTenant, rfl, wanted, same, filled⟩
    obtain ⟨property, propertyStored, named, propertyTenant, -⟩ := sound.propertiesOf_eq stored
    have listedProperty : property.response photoCount db ∈ properties :=
      everyProperty.mem_iff.mpr (List.mem_map.mpr ⟨property, List.mem_filter.mpr
        ⟨propertyStored, decide_eq_true (propertyTenant.trans ofTenant)⟩, rfl⟩)
    have listedUnit : unit.response db ∈ units :=
      everyUnit.mem_iff.mpr (List.mem_map.mpr ⟨unit, List.mem_filter.mpr
        ⟨stored, decide_eq_true ofTenant⟩, rfl⟩)
    have visible : property.response photoCount db ∈ visibleProperties propertyId properties :=
      mem_visibleProperties.mpr ⟨listedProperty, fun id filtered =>
        named.trans (wanted id filtered)⟩
    obtain ⟨group, groupMember, ofGroup, rowMember⟩ := mem_buildCalendar.mpr ⟨visible,
      unit.response db, listedUnit, named.symm, calendarRow_eq_some.mpr
        ⟨same, fun retired => filled ((archived unit).mp retired)⟩⟩
    exact ⟨group, groupMember, (congrArg PropertyResponse.id ofGroup).trans named, rowMember⟩

/-- The calendar of a sound database whose bookings can be shown. -/
theorem ownerCalendar_draws [PostgresServer] (context : CalendarContext) (sound : db.Sound)
    (displayable : db.Displayable) (firstStored : (pgDate window.first).isSome)
    (lastStored : (pgDate window.last).isSome) :
    ∃ groups, ownerCalendar context tenantId window propertyId db = .ok groups ∧
      DrawsLedger tenantId window propertyId db groups := by
  obtain ⟨properties, propertiesRead, everyProperty⟩ :=
    sound.inventory.listProperties_eq context.createdAt context.photoCount tenantId
  obtain ⟨units, unitsRead, everyUnit⟩ :=
    sound.inventory.listAllUnits_eq context.createdAt tenantId
  have bookingsRead : listBookings tenantId (calendarQuery window propertyId) db =
      .ok (calendarBookings tenantId window propertyId db) :=
    listBookings_eq displayable (bindWindow_eq rfl firstStored lastStored)
  refine ⟨Web.buildCalendar context.localeCompare properties units
    (calendarBookings tenantId window propertyId db) propertyId, ?_,
      rows_once (sound.inventory.properties_once everyProperty)
        (sound.inventory.units_once everyUnit), ?_, ?_, ?_, ?_⟩
  · rw [ownerCalendar, propertiesRead, unitsRead, bookingsRead]
    rfl
  · intro group groupMember row rowMember
    obtain ⟨unit, unitMember, ofTenant, ofProperty, wanted, rfl, -⟩ :=
      (sound.inventory.mem_groups everyProperty everyUnit).mp ⟨group, groupMember, rfl, rowMember⟩
    exact ⟨unit, unitMember, rfl, ofTenant, ofProperty, wanted⟩
  · intro unit unitMember ofTenant wanted
    rw [← sound.booked_iff unitMember ofTenant wanted]
    constructor
    · rintro ⟨group, groupMember, row, rowMember, sameId⟩
      obtain ⟨other, otherMember, -, -, -, rfl, filled⟩ :=
        (sound.inventory.mem_groups everyProperty everyUnit).mp
          ⟨group, groupMember, rfl, rowMember⟩
      rw [Table.eq_of_key sound.inventory.units otherMember unitMember sameId] at filled
      exact (em (unit.Live db)).imp id filled
    · intro liveOrBooked
      obtain ⟨group, groupMember, -, rowMember⟩ :=
        (sound.inventory.mem_groups everyProperty everyUnit).mpr
          ⟨unit, unitMember, ofTenant, rfl, wanted, rfl, liveOrBooked.resolve_left⟩
      exact ⟨group, groupMember, _, rowMember, rfl⟩
  · intro group groupMember row rowMember
    obtain ⟨unit, unitMember, ofTenant, ofProperty, wanted, rfl, -⟩ :=
      (sound.inventory.mem_groups everyProperty everyUnit).mp ⟨group, groupMember, rfl, rowMember⟩
    refine ⟨?_, fun booking member => ?_⟩
    · refine List.Nodup.sublist (List.filter_sublist.map BookingRow.id) ?_
      rw [calendarBookings, List.map_map]
      exact sound.rows_nodup
    · obtain ⟨stored, storedMember, same, -⟩ := (sound.mem_calendarBookings unitMember ofTenant
        (ofProperty ▸ wanted)).mp ⟨List.mem_of_mem_filter member,
          of_decide_eq_true (List.mem_filter.mp member).2⟩
      exact ⟨stored, storedMember, same⟩
  · intro group groupMember row rowMember i day column id
    obtain ⟨unit, unitMember, ofTenant, ofProperty, wanted, rfl, -⟩ :=
      (sound.inventory.mem_groups everyProperty everyUnit).mp ⟨group, groupMember, rfl, rowMember⟩
    exact sound.covered_iff displayable unitMember ofTenant (ofProperty ▸ wanted) column

end Drawing

/-- After any run from a sound estate, the calendar of any window answers, and draws the ledger:
every live unit and every unit with a held night has one row, under its property, and no other has
one; and in the row of a unit a column is covered exactly if its night is held, by the bar of the
one booking that holds it. The three reads answer from one state. The bookings at the start can be
shown, which every operation keeps, and the two ends of the window are days a `date` column can
hold. -/
theorem calendar_draws_the_ledger [PostgresServer] (env : PayEnvironment) (run : List Operation)
    {start : Estate} (sound : start.Sound) (displayable : start.db.Displayable)
    (context : CalendarContext) (tenantId : Uuid) (window : ListWindow) (propertyId : Option Uuid)
    (firstStored : (pgDate window.first).isSome) (lastStored : (pgDate window.last).isSome) :
    ∃ groups, ownerCalendar context tenantId window propertyId (runEstate env run start).db =
        .ok groups ∧
      DrawsLedger tenantId window propertyId (runEstate env run start).db groups :=
  ownerCalendar_draws context (runEstate_sound env run sound).db
    (runEstate_displayable env run displayable) firstStored lastStored

/-! ### The villa -/

attribute [local instance] PostgresServer.uncompressed

def villaContext : CalendarContext where
  localeCompare first second := if first < second then -1 else if second < first then 1 else 0
  createdAt id := id
  photoCount _ := 0

theorem villaMonth_first : (isoDay "2026-08-01".toList).isSome := by decide +kernel

theorem villaMonth_last : (isoDay "2026-09-01".toList).isSome := by decide +kernel

theorem villaMonth_ordered : "2026-08-01".toList < "2026-09-01".toList := by decide +kernel

theorem villaMonth_bounded :
    countNights "2026-08-01".toList "2026-09-01".toList ≤ MAX_AVAILABILITY_NIGHTS := by
  decide +kernel

def villaMonth : ListWindow where
  first := "2026-08-01".toList
  last := "2026-09-01".toList
  firstReal := villaMonth_first
  lastReal := villaMonth_last
  ordered := villaMonth_ordered
  bounded := villaMonth_bounded

theorem villaEstate_displayable : villaEstate.db.Displayable := by
  intro row member
  rw [List.mem_singleton.mp member]
  refine ⟨by decide +kernel, by decide +kernel, ?_⟩
  rintro total ⟨⟩
  exact ⟨by decide, by decide⟩

/-- The guest's hold covers the second of August. -/
theorem calendar_draws_the_ledger_villa :
    ∃ groups, ownerCalendar villaContext 1 villaMonth none
        (runEstate villaEnvironment villaDisconnect villaEstate).db = .ok groups ∧
      ∃ group ∈ groups, ∃ row ∈ group.rows, ∃ booking ∈ row.bookings,
        booking.id = 1 ∧ booking.CoversColumn villaMonth.toDateRange 1 := by
  obtain ⟨groups, answered, draws⟩ := calendar_draws_the_ledger villaEnvironment villaDisconnect
    villaEstate_sound villaEstate_displayable villaContext 1 villaMonth none
    (by decide +kernel) (by decide +kernel)
  have listed : (runEstate villaEnvironment villaDisconnect villaEstate).db.unit = villa.unit := rfl
  obtain ⟨unit, unitMember, live⟩ : ∃ unit ∈ villa.unit, unit.id = 20 ∧ unit.tenantId = 1 ∧
      unit.Live (runEstate villaEnvironment villaDisconnect villaEstate).db := by decide +kernel
  obtain ⟨group, groupMember, row, rowMember, ofUnit⟩ :=
    (draws.shown unit (listed ▸ unitMember) live.2.1
      fun id filtered => absurd filtered (Option.not_mem_none id)).mpr (.inl live.2.2)
  obtain ⟨day, column⟩ : ∃ day, villaMonth.days[1]? = some day :=
    Option.isSome_iff_exists.mp (by decide +kernel)
  refine ⟨groups, answered, group, groupMember, row, rowMember,
    (draws.columns group groupMember row rowMember 1 day column 1).mpr ?_⟩
  rw [ofUnit, live.1]
  decide +kernel

end Sambung
