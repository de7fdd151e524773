/-
This file states the reads behind the owner's dashboard, the list of bookings and
its CSV twin of `bookings-query.service.ts` and the flat lists of units and
properties, and says what they hold.

The times of creation that order units and properties are columns the rows here
leave out, so they are a parameter. A property's slug, its texts and its photos
take no part.

The queries join tables, and over a sound database each join finds exactly one
row, so a list has each of its rows once. That is said by membership: a booking is
listed if and only if it meets the conditions together with its unit. The twin
runs the same conditions over one join more, in the same order, so that its rows
are those of the list. A list answers where its window can be bound to dates and
every row of it can be shown, and otherwise throws.
-/

import Sambung.BookingsCsv
import Sambung.CalendarBars
import Sambung.Displayable

namespace Sambung

/-! ### Requests and responses -/

/-- The window of a list: two days of the calendar in order, at most a year apart. -/
structure ListWindow extends DateRange where
  bounded : countNights first last ≤ MAX_AVAILABILITY_NIGHTS

/-- What `listBookingsQuerySchema` lets through. -/
structure ListBookingsQuery where
  window : Option ListWindow
  propertyId : Option Uuid
  unitId : Option Uuid
  status : Option (List BookingStatus)
  source : Option (List BookingSource)

/-- A booking as the dashboard sees it. -/
structure BookingRow where
  id : Uuid
  unitId : Uuid
  source : BookingSource
  status : BookingStatus
  checkIn : Text
  checkOut : Text
  guestName : Option String
  guestCount : Option Nat
  holdExpiresAt : Option Instant
  totalPriceIdr : Option BigInt
  deriving DecidableEq, Repr

def toBookingRow (row : Booking) : Except Thrown BookingRow := do
  let totalPriceIdr ← row.totalPriceIdr.mapM toRupiah
  return {
    id := row.id
    unitId := row.unitId
    source := row.source
    status := row.status
    checkIn := dateText row.checkIn
    checkOut := dateText row.checkOut
    guestName := row.guestName
    guestCount := row.guestCount
    holdExpiresAt := row.holdExpiresAt
    totalPriceIdr }

/-- The wire names of the enumerations. -/
def BookingSource.text : BookingSource → Text
  | .direct => "direct".toList
  | .airbnb => "airbnb".toList
  | .bookingCom => "booking_com".toList
  | .vrbo => "vrbo".toList
  | .manualBlock => "manual_block".toList

def BookingStatus.text : BookingStatus → Text
  | .pendingPayment => "pending_payment".toList
  | .confirmed => "confirmed".toList
  | .cancelled => "cancelled".toList
  | .expired => "expired".toList

/-! ### The list of bookings -/

/-- The conditions the list and its twin share, on a booking joined to its unit. -/
abbrev ListBookingsQuery.Conditions (query : ListBookingsQuery) (tenantId : Uuid)
    (window : Option (PgDate × PgDate)) (row : Booking) (unit : RentalUnit) : Prop :=
  row.tenantId = tenantId ∧
    (∀ days ∈ window, daterangesOverlap row.checkIn row.checkOut days.1 days.2) ∧
    (∀ id ∈ query.propertyId, unit.propertyId = id) ∧
    (∀ id ∈ query.unitId, row.unitId = id) ∧
    (∀ statuses ∈ query.status, statuses ≠ [] → row.status ∈ statuses) ∧
    ∀ sources ∈ query.source, sources ≠ [] → row.source ∈ sources

/-- The two dates of the window, bound to `date`. -/
def ListBookingsQuery.bindWindow (query : ListBookingsQuery) :
    Except Thrown (Option (PgDate × PgDate)) :=
  match query.window with
  | none => .ok none
  | some window =>
    match bindStay window.first window.last with
    | .error error => .error (.pg error)
    | .ok days => .ok (some days)

/-- `ORDER BY check_in, id`. -/
abbrev Booking.ListedBefore (first second : Booking) : Prop :=
  first.checkIn < second.checkIn ∨ (first.checkIn = second.checkIn ∧ first.id ≤ second.id)

/-- The units a booking joins. -/
def Db.unitsOf (db : Db) (row : Booking) : List RentalUnit :=
  db.unit.filter fun unit => unit.id = row.unitId ∧ unit.tenantId = row.tenantId

/-- The properties a unit joins. -/
def Db.propertiesOf (db : Db) (unit : RentalUnit) : List Property :=
  db.property.filter fun property =>
    property.id = unit.propertyId ∧ property.tenantId = unit.tenantId

/-- The rows of `list`. -/
def ListBookingsQuery.rows (query : ListBookingsQuery) (tenantId : Uuid)
    (window : Option (PgDate × PgDate)) (db : Db) : List Booking :=
  let joined := db.booking.flatMap fun row => (db.unitsOf row).map fun unit => (row, unit)
  let listed := joined.filter fun pair => query.Conditions tenantId window pair.1 pair.2
  (listed.map Prod.fst).insertionSort Booking.ListedBefore

def listBookings (tenantId : Uuid) (query : ListBookingsQuery) (db : Db) :
    Except Thrown (List BookingRow) := do
  let window ← query.bindWindow
  (query.rows tenantId window db).mapM toBookingRow

/-! ### Its CSV twin -/

/-- A booking joined to its unit and its property. -/
structure BookingExportRow where
  booking : Booking
  unit : RentalUnit
  property : Property

/-- The rows of `listForExport`. -/
def ListBookingsQuery.exportRows (query : ListBookingsQuery) (tenantId : Uuid)
    (window : Option (PgDate × PgDate)) (db : Db) : List BookingExportRow :=
  let joined := db.booking.flatMap fun row => (db.unitsOf row).flatMap fun unit =>
    (db.propertiesOf unit).map (BookingExportRow.mk row unit)
  let listed := joined.filter fun row => query.Conditions tenantId window row.booking row.unit
  listed.insertionSort fun a b => a.booking.ListedBefore b.booking

def toCsvRow (row : BookingExportRow) : BookingCsvRow where
  bookingId := (uuidText row.booking.id).toList
  property := row.property.name.toList
  unit := row.unit.name.toList
  guest := (row.booking.guestName.getD "").toList
  checkIn := dateText row.booking.checkIn
  checkOut := dateText row.booking.checkOut
  nights := (toString (countNights (dateText row.booking.checkIn)
    (dateText row.booking.checkOut))).toList
  source := row.booking.source.text
  status := row.booking.status.text
  guests := (row.booking.guestCount.elim "" toString).toList
  totalIdr := (row.booking.totalPriceIdr.elim "" toString).toList

def exportCsv (tenantId : Uuid) (query : ListBookingsQuery) (db : Db) : Except Thrown Text := do
  let window ← query.bindWindow
  return bookingsToCsv ((query.exportRows tenantId window db).map toCsvRow)

/-! ### Units and properties -/

/-- Every unit of the tenant with its effective retirement, by its creation. -/
def findAllUnits (createdAt : Uuid → Instant) (tenantId : Uuid) (db : Db) :
    List (RentalUnit × Bool) :=
  let joined := (db.unit.filter (·.tenantId = tenantId)).flatMap fun unit =>
    (db.property.filter (·.id = unit.propertyId)).map fun property =>
      (unit, unit.archivedAt.isSome || property.archivedAt.isSome)
  joined.insertionSort fun a b => createdAt a.1.id < createdAt b.1.id ∨
    (createdAt a.1.id = createdAt b.1.id ∧ a.1.id ≤ b.1.id)

def listAllUnits (createdAt : Uuid → Instant) (tenantId : Uuid) (db : Db) :
    Except Thrown (List UnitResponse) :=
  (findAllUnits createdAt tenantId db).mapM toUnitResponse

/-- The units under a property that have a price and are active. -/
def pricedUnitCount (tenantId : Uuid) (property : Property) (db : Db) : Nat :=
  (db.unit.filter fun unit => (unit.propertyId = property.id ∧ unit.tenantId = tenantId) ∧
    unit.basePriceIdr > 0 ∧ unit.archivedAt = none ∧ property.archivedAt = none).length

/-- Every property of the tenant with its count of sellable units, by its creation. -/
def findAllProperties (createdAt : Uuid → Instant) (tenantId : Uuid) (db : Db) :
    List (Property × Nat) :=
  let grouped := (db.property.filter (·.tenantId = tenantId)).map fun property =>
    (property, pricedUnitCount tenantId property db)
  grouped.insertionSort fun a b => createdAt a.1.id < createdAt b.1.id ∨
    (createdAt a.1.id = createdAt b.1.id ∧ a.1.id ≤ b.1.id)

structure PropertyResponse where
  id : Uuid
  tenantId : Uuid
  name : String
  depositPct : Nat
  timeZone : String
  publishable : Bool
  archivedAt : Option Instant
  deriving DecidableEq, Repr

def isPublishable (photoCount pricedUnitCount : Nat) : Bool :=
  photoCount ≥ 1 ∧ pricedUnitCount ≥ 1

def toPropertyResponse (photoCount : Uuid → Nat) (row : Property × Nat) :
    Except Thrown PropertyResponse :=
  if row.1.timeZone ∉ PROPERTY_TIME_ZONES then .error (.error "ZodError: timeZone")
  else .ok {
    id := row.1.id
    tenantId := row.1.tenantId
    name := row.1.name
    depositPct := row.1.depositPct
    timeZone := row.1.timeZone
    publishable := isPublishable (photoCount row.1.id) row.2
    archivedAt := row.1.archivedAt }

def listProperties (createdAt : Uuid → Instant) (photoCount : Uuid → Nat) (tenantId : Uuid)
    (db : Db) : Except Thrown (List PropertyResponse) :=
  (findAllProperties createdAt tenantId db).mapM (toPropertyResponse photoCount)

/-! ### What a join holds -/

section Joins

variable {db : Db} {row : Booking} {unit : RentalUnit} {property : Property}

/-- A condition one row of a key meets is met by that row alone. -/
theorem filter_eq_singleton_of_key {Row Key : Type} {key : Row → Key} {rows : List Row}
    {found : Row} {wanted : Row → Bool} (keyed : (rows.map key).Nodup) (member : found ∈ rows)
    (meets : wanted found = true) (named : ∀ other, wanted other = true → key other = key found) :
    rows.filter wanted = [found] := by
  refine List.perm_singleton.mp ((List.perm_ext_iff_of_nodup ?_ (List.nodup_singleton _)).mpr ?_)
  · exact (List.Nodup.of_map key keyed).filter _
  · intro other
    rw [List.mem_filter, List.mem_singleton]
    constructor
    · rintro ⟨otherMember, otherMeets⟩
      exact Table.eq_of_key keyed otherMember member (named other otherMeets)
    · rintro rfl
      exact ⟨member, meets⟩

/-- A booking joins one unit, the one its foreign key names, which is its tenant's. -/
theorem Db.Sound.unitsOf_eq [PostgresServer] (sound : db.Sound) (member : row ∈ db.booking) :
    ∃ unit ∈ db.unit, unit.id = row.unitId ∧ unit.tenantId = row.tenantId ∧
      db.unitsOf row = [unit] := by
  obtain ⟨unit, unitMember, ofUnit, ofTenant⟩ := (Db.failedForeignKey_eq_none.mp
    (sound.bookings.lawful.linked row member)).1
  refine ⟨unit, unitMember, ofUnit, ofTenant, filter_eq_singleton_of_key sound.inventory.units
    unitMember (decide_eq_true ⟨ofUnit, ofTenant⟩) fun other named => ?_⟩
  exact (of_decide_eq_true named).1.trans ofUnit.symm

/-- A unit joins one property, the one its foreign key names, with or without a look at the tenant.
-/
theorem Db.InventorySound.propertiesOf_eq (sound : db.InventorySound) (member : unit ∈ db.unit) :
    ∃ property ∈ db.property, property.id = unit.propertyId ∧
      property.tenantId = unit.tenantId ∧ db.propertiesOf unit = [property] ∧
        (db.property.filter fun other => other.id = unit.propertyId) = [property] := by
  obtain ⟨property, propertyMember, ofProperty, ofTenant⟩ := sound.parents unit member
  refine ⟨property, propertyMember, ofProperty, ofTenant, ?_, ?_⟩
  · exact filter_eq_singleton_of_key sound.properties propertyMember
      (decide_eq_true ⟨ofProperty, ofTenant⟩) fun other named =>
        (of_decide_eq_true named).1.trans ofProperty.symm
  · exact filter_eq_singleton_of_key sound.properties propertyMember (decide_eq_true ofProperty)
      fun other named => (of_decide_eq_true named).trans ofProperty.symm

end Joins

/-! ### What the list of bookings holds -/

section Bookings

variable {db : Db} {tenantId : Uuid} {query : ListBookingsQuery}
  {window : Option (PgDate × PgDate)}

/-- The booking as the dashboard sees it. -/
def Booking.shown (row : Booking) : BookingRow where
  id := row.id
  unitId := row.unitId
  source := row.source
  status := row.status
  checkIn := dateText row.checkIn
  checkOut := dateText row.checkOut
  guestName := row.guestName
  guestCount := row.guestCount
  holdExpiresAt := row.holdExpiresAt
  totalPriceIdr := row.totalPriceIdr

theorem toBookingRow_eq {row : Booking} (displayable : row.Displayable) :
    toBookingRow row = .ok row.shown := by
  have total : row.totalPriceIdr.mapM toRupiah = .ok row.totalPriceIdr := by
    cases priced : row.totalPriceIdr with
    | none => rfl
    | some value =>
      rw [Option.mapM_some, toRupiah_eq (displayable.total value priced)]
      rfl
  rw [toBookingRow, total]
  rfl

/-- Where every item answers, the list does. -/
theorem mapM_ok {Item Result : Type} {answer : Item → Except Thrown Result}
    {result : Item → Result} {items : List Item}
    (answers : ∀ item ∈ items, answer item = .ok (result item)) :
    items.mapM answer = .ok (items.map result) := by
  induction items with
  | nil => rfl
  | cons item rest inductionHypothesis =>
    rw [List.mapM_cons, answers item List.mem_cons_self,
      inductionHypothesis fun other member => answers other (List.mem_cons_of_mem _ member)]
    rfl

/-- The bookings listed are those that meet the conditions with their unit. -/
theorem ListBookingsQuery.mem_rows {row : Booking} :
    row ∈ query.rows tenantId window db ↔ row ∈ db.booking ∧ ∃ unit ∈ db.unit,
      (unit.id = row.unitId ∧ unit.tenantId = row.tenantId) ∧
        query.Conditions tenantId window row unit := by
  simp only [ListBookingsQuery.rows, List.mem_insertionSort, List.mem_map, List.mem_filter,
    List.mem_flatMap, Db.unitsOf, decide_eq_true_eq]
  constructor
  · rintro ⟨_, ⟨⟨row, member, unit, joined, rfl⟩, met⟩, rfl⟩
    exact ⟨member, unit, joined.1, joined.2, met⟩
  · rintro ⟨member, unit, stored, joined, met⟩
    exact ⟨(row, unit), ⟨⟨row, member, unit, ⟨stored, joined⟩, rfl⟩, met⟩, rfl⟩

/-- A list is at most the items its parts stem from, in their order. -/
theorem flatMap_sublist {Item : Type} {parts : Item → List Item} {items : List Item}
    (part : ∀ item ∈ items, (parts item).Sublist [item]) :
    (items.flatMap parts).Sublist items := by
  induction items with
  | nil => exact List.Sublist.slnil
  | cons item rest inductionHypothesis =>
    rw [List.flatMap_cons]
    exact (part item List.mem_cons_self).append
      (inductionHypothesis fun other member => part other (List.mem_cons_of_mem _ member))

/-- No booking is listed twice, since it joins a single unit. -/
theorem Db.Sound.rows_nodup [PostgresServer] (sound : db.Sound) :
    ((query.rows tenantId window db).map Booking.id).Nodup := by
  have once : ((db.booking.flatMap fun row => (db.unitsOf row).map fun unit => (row, unit)).filter
      fun pair => query.Conditions tenantId window pair.1 pair.2).map Prod.fst |>.Sublist
        db.booking := by
    rw [List.filter_flatMap, List.map_flatMap]
    refine flatMap_sublist fun row member => ?_
    obtain ⟨unit, -, -, -, single⟩ := sound.unitsOf_eq member
    rw [single]
    exact (List.filter_sublist.map Prod.fst)
  exact ((List.perm_insertionSort _ _).map Booking.id).nodup_iff.mpr
    ((once.map Booking.id).nodup sound.bookings.lawful.keyed)

theorem Booking.listedBefore_iff {first second : Booking} : first.ListedBefore second ↔
    toLex (first.checkIn, first.id) ≤ toLex (second.checkIn, second.id) := by
  rw [Prod.Lex.toLex_le_toLex]

/-- The bookings stand by check-in and then by id. -/
theorem ListBookingsQuery.rows_sorted :
    (query.rows tenantId window db).Pairwise Booking.ListedBefore := by
  have total : Std.Total Booking.ListedBefore := ⟨fun first second => by
    rw [Booking.listedBefore_iff, Booking.listedBefore_iff]
    exact le_total _ _⟩
  have trans : IsTrans Booking Booking.ListedBefore := ⟨fun first second third => by
    rw [Booking.listedBefore_iff, Booking.listedBefore_iff, Booking.listedBefore_iff]
    exact le_trans⟩
  exact List.pairwise_insertionSort _ _

/-- The list answers where the window can be bound and every booking can be shown. -/
theorem listBookings_eq (displayable : db.Displayable)
    (bound : query.bindWindow = .ok window) :
    listBookings tenantId query db =
      .ok ((query.rows tenantId window db).map Booking.shown) := by
  rw [listBookings, bound]
  exact mapM_ok fun row member => toBookingRow_eq
    (displayable row (ListBookingsQuery.mem_rows.mp member).1)

end Bookings

/-! ### What the twin holds -/

section Export

variable {db : Db} {tenantId : Uuid} {query : ListBookingsQuery}
  {window : Option (PgDate × PgDate)}

/-- The twin's rows are the list's, in its order. -/
theorem Db.Sound.exportRows_booking [PostgresServer] (sound : db.Sound) :
    (query.exportRows tenantId window db).map BookingExportRow.booking =
      query.rows tenantId window db := by
  rw [ListBookingsQuery.exportRows, ListBookingsQuery.rows,
    List.map_insertionSort (r := fun a b : BookingExportRow => a.booking.ListedBefore b.booking)
      (s := Booking.ListedBefore) BookingExportRow.booking _ fun _ _ _ _ => Iff.rfl]
  refine congrArg (List.insertionSort Booking.ListedBefore) ?_
  rw [List.filter_flatMap, List.map_flatMap, List.filter_flatMap, List.map_flatMap]
  refine List.flatMap_congr fun row member => ?_
  obtain ⟨unit, unitMember, -, -, units⟩ := sound.unitsOf_eq member
  obtain ⟨property, -, -, -, properties, -⟩ := sound.inventory.propertiesOf_eq unitMember
  rw [units, List.flatMap_singleton, properties, List.map_singleton, List.map_singleton]
  by_cases met : query.Conditions tenantId window row unit
  · rw [List.filter_cons_of_pos (by exact decide_eq_true met),
      List.filter_cons_of_pos (by exact decide_eq_true met)]
    rfl
  · rw [List.filter_cons_of_neg (by exact ne_true_of_eq_false (decide_eq_false met)),
      List.filter_cons_of_neg (by exact ne_true_of_eq_false (decide_eq_false met))]
    rfl

/-- Each row of the twin is a booking with its unit and its property. -/
theorem ListBookingsQuery.mem_exportRows {row : BookingExportRow}
    (member : row ∈ query.exportRows tenantId window db) :
    row.booking ∈ db.booking ∧ row.unit ∈ db.unitsOf row.booking ∧
      row.property ∈ db.propertiesOf row.unit := by
  rw [ListBookingsQuery.exportRows, List.mem_insertionSort, List.mem_filter,
    List.mem_flatMap] at member
  obtain ⟨⟨booking, stored, joined⟩, -⟩ := member
  obtain ⟨unit, ofBooking, made⟩ := List.mem_flatMap.mp joined
  obtain ⟨property, ofUnit, rfl⟩ := List.mem_map.mp made
  exact ⟨stored, ofBooking, ofUnit⟩

end Export

/-! ### What the lists of units and properties hold -/

section Lists

variable {db : Db}

instance (unit : RentalUnit) (db : Db) : Decidable (unit.Live db) := by
  unfold RentalUnit.Live; infer_instance

/-- The unit with its effective retirement. -/
def RentalUnit.response (db : Db) (unit : RentalUnit) : UnitResponse where
  id := unit.id
  propertyId := unit.propertyId
  tenantId := unit.tenantId
  name := unit.name
  basePriceIdr := unit.basePriceIdr
  maxGuests := unit.maxGuests
  minStay := unit.minStay
  archivedAt := unit.archivedAt
  archived := ¬ unit.Live db

/-- The property with whether its page can be complete. -/
def Property.response (photoCount : Uuid → Nat) (db : Db) (property : Property) :
    PropertyResponse where
  id := property.id
  tenantId := property.tenantId
  name := property.name
  depositPct := property.depositPct
  timeZone := property.timeZone
  publishable :=
    isPublishable (photoCount property.id) (pricedUnitCount property.tenantId property db)
  archivedAt := property.archivedAt

/-- The flag of the join is the effective retirement. -/
theorem Db.InventorySound.effective (sound : db.InventorySound) {unit : RentalUnit}
    {property : Property} (propertyMember : property ∈ db.property)
    (ofProperty : property.id = unit.propertyId) (ofTenant : property.tenantId = unit.tenantId) :
    (unit.archivedAt.isSome || property.archivedAt.isSome) = decide (¬ unit.Live db) := by
  have live : unit.Live db ↔ unit.archivedAt = none ∧ property.archivedAt = none := by
    refine and_congr_right fun _ => ⟨?_, fun active =>
      ⟨property, propertyMember, ofProperty, ofTenant, active⟩⟩
    rintro ⟨other, otherMember, named, -, active⟩
    rwa [← Table.eq_of_key sound.properties otherMember propertyMember
      (named.trans ofProperty.symm)]
  rw [Bool.eq_iff_iff, decide_eq_true_iff, live, Bool.or_eq_true, not_and_or,
    Option.isSome_iff_ne_none, Option.isSome_iff_ne_none]

/-- The joined rows are the units of the tenant, each once. -/
theorem Db.InventorySound.findAllUnits_perm (sound : db.InventorySound)
    (createdAt : Uuid → Instant) (tenantId : Uuid) :
    (findAllUnits createdAt tenantId db).Perm ((db.unit.filter (·.tenantId = tenantId)).map
      fun unit => (unit, decide (¬ unit.Live db))) := by
  refine (List.perm_insertionSort _ _).trans ?_
  rw [List.map_eq_flatMap]
  refine List.Perm.of_eq (List.flatMap_congr fun unit member => ?_)
  obtain ⟨property, propertyMember, ofProperty, ofTenant, -, single⟩ :=
    sound.propertiesOf_eq (List.mem_of_mem_filter member)
  rw [single, List.map_singleton, sound.effective propertyMember ofProperty ofTenant]

/-- The list of units answers every unit of the tenant once, with its effective retirement. -/
theorem Db.InventorySound.listAllUnits_eq (sound : db.InventorySound)
    (createdAt : Uuid → Instant) (tenantId : Uuid) :
    ∃ rows, listAllUnits createdAt tenantId db = .ok rows ∧
      rows.Perm ((db.unit.filter (·.tenantId = tenantId)).map (RentalUnit.response db)) := by
  have listed := sound.findAllUnits_perm createdAt tenantId
  refine ⟨(findAllUnits createdAt tenantId db).map fun row => row.1.response db, ?_, ?_⟩
  · refine mapM_ok fun row member => ?_
    obtain ⟨unit, unitMember, rfl⟩ := List.mem_map.mp (listed.mem_iff.mp member)
    have checked := sound.checked unit (List.mem_of_mem_filter unitMember)
    have priced : toRupiah unit.basePriceIdr = .ok unit.basePriceIdr :=
      toRupiah_eq ⟨checked.priceNonneg, checked.priceMax.trans (by decide)⟩
    rw [toUnitResponse, priced]
    rfl
  · refine (listed.map fun row => row.1.response db).trans (List.Perm.of_eq ?_)
    rw [List.map_map]
    rfl

/-- The list of properties answers every property of the tenant once. -/
theorem Db.InventorySound.listProperties_eq (sound : db.InventorySound)
    (createdAt : Uuid → Instant) (photoCount : Uuid → Nat) (tenantId : Uuid) :
    ∃ rows, listProperties createdAt photoCount tenantId db = .ok rows ∧
      rows.Perm ((db.property.filter (·.tenantId = tenantId)).map
        (Property.response photoCount db)) := by
  have listed : (findAllProperties createdAt tenantId db).Perm
      ((db.property.filter (·.tenantId = tenantId)).map fun property =>
        (property, pricedUnitCount tenantId property db)) := List.perm_insertionSort _ _
  refine ⟨(findAllProperties createdAt tenantId db).map fun row =>
    row.1.response photoCount db, ?_, ?_⟩
  · refine mapM_ok fun row member => ?_
    obtain ⟨property, propertyMember, rfl⟩ := List.mem_map.mp (listed.mem_iff.mp member)
    obtain ⟨stored, ofTenant⟩ := List.mem_filter.mp propertyMember
    rw [toPropertyResponse, if_neg (not_not.mpr (sound.settings property stored).timeZoneKnown),
      ← of_decide_eq_true ofTenant]
    rfl
  · refine (listed.map fun row => row.1.response photoCount db).trans (List.Perm.of_eq ?_)
    rw [List.map_map]
    rfl

/-- A list of the units of a tenant has each of them once. -/
theorem Db.InventorySound.units_once (sound : db.InventorySound) {tenantId : Uuid}
    {units : List UnitResponse} (every : units.Perm
      ((db.unit.filter (·.tenantId = tenantId)).map (RentalUnit.response db))) :
    (units.map UnitResponse.id).Nodup := by
  refine (every.map UnitResponse.id).nodup_iff.mpr ?_
  rw [List.map_map]
  exact sound.units.sublist (List.filter_sublist.map RentalUnit.id)

/-- A list of the properties of a tenant has each of them once. -/
theorem Db.InventorySound.properties_once (sound : db.InventorySound) {tenantId : Uuid}
    {photoCount : Uuid → Nat} {properties : List PropertyResponse} (every : properties.Perm
      ((db.property.filter (·.tenantId = tenantId)).map (Property.response photoCount db))) :
    (properties.map PropertyResponse.id).Nodup := by
  refine (every.map PropertyResponse.id).nodup_iff.mpr ?_
  rw [List.map_map]
  exact sound.properties.sublist (List.filter_sublist.map Property.id)

end Lists

end Sambung
