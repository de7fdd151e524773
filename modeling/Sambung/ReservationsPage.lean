/-
This file states the reservations page, `reservations-model.ts` over the three
reads of `use-reservations.ts`, and proves that the file its export button saves
is the table on the screen.

The page and its export send one query; the text of the query string takes no
part. The table renders its cells in the reader's locale, so what the two share is
the data of a row.

The state of the page lives in its URL, so a search may hold anything its schema
lets through: an edge of the window may be missing, the edges may stand in the
wrong order or too far apart, and the page resolves each of these to a window the
API takes. The table joins three lists by their ids in the browser, where the
export joins three tables in the database; that the two find the same rows rests
on the constraints, and that they show the same content on the bookings a run
leaves.
-/

import Sambung.OwnerCalendar

namespace Sambung

/-! ### The window -/

def defaultWindow (today : Text) : Text × Text := (today, addDays today MAX_AVAILABILITY_NIGHTS)

structure WindowResult where
  window : Text × Text
  error : Option String
  isDefault : Bool
  deriving DecidableEq

/-- The search schema lets no empty text through, so an edge is given or absent. -/
def resolveWindow (start stop : Option Text) (today : Text) : WindowResult :=
  match start, stop with
  | none, none => ⟨defaultWindow today, none, true⟩
  | some first, some last =>
    if ¬ first < last then
      ⟨defaultWindow today, some "The end date must be after the start.", true⟩
    else if countNights first last > MAX_AVAILABILITY_NIGHTS then
      ⟨defaultWindow today, some ("Choose a window of at most " ++
        toString MAX_AVAILABILITY_NIGHTS ++ " nights."), true⟩
    else ⟨(first, last), none, false⟩
  | _, _ => ⟨defaultWindow today, some "Pick both a start and end date.", true⟩

/-- The checks of the window in `listBookingsQuerySchema`. -/
abbrev ListWindowChecks (window : Text × Text) : Prop :=
  (isoDay window.1).isSome ∧ (isoDay window.2).isSome ∧ window.1 < window.2 ∧
    countNights window.1 window.2 ≤ MAX_AVAILABILITY_NIGHTS

def parseListWindow (window : Text × Text) : Except Thrown ListWindow :=
  if checked : ListWindowChecks window then
    .ok {
      first := window.1
      last := window.2
      firstReal := checked.1
      lastReal := checked.2.1
      ordered := checked.2.2.1
      bounded := checked.2.2.2 }
  else .error (.badRequest "Validation failed")

/-! ### The page -/

/-- The URL state of the page: a parameter its schema refuses is absent. -/
structure ReservationsSearch where
  start : Option Text
  stop : Option Text
  propertyId : Option Uuid
  status : Option (List BookingStatus)
  source : Option (List BookingSource)
  startReal : ∀ text ∈ start, (isoDay text).isSome
  stopReal : ∀ text ∈ stop, (isoDay text).isSome

/-- `bookingsQueryString`: an empty set of values puts no key on the query. -/
def ReservationsSearch.query (search : ReservationsSearch) (window : ListWindow) :
    ListBookingsQuery where
  window := some window
  propertyId := search.propertyId
  unitId := none
  status := search.status.filter (· ≠ [])
  source := search.source.filter (· ≠ [])

structure ReservationRow where
  booking : BookingRow
  propertyName : String
  unitName : String
  deriving DecidableEq, Repr

/-- `new Map(rows.map((row) => [row.id, row])).get(id)`: the last row of an id stays. -/
def mapGet {Row : Type} (key : Row → Uuid) (id : Uuid) (rows : List Row) : Option Row :=
  Table.byKey key id rows.reverse

def composeRows (bookings : List BookingRow) (units : List UnitResponse)
    (properties : List PropertyResponse) : List ReservationRow :=
  bookings.filterMap fun booking =>
    (mapGet UnitResponse.id booking.unitId units).map fun unit =>
      { booking
        unitName := unit.name
        propertyName := (mapGet PropertyResponse.id unit.propertyId properties).elim "—"
          PropertyResponse.name }

def reservationsPage (context : CalendarContext) (tenantId : Uuid) (search : ReservationsSearch)
    (today : Text) (db : Db) : Except Thrown (List ReservationRow) := do
  let window ← parseListWindow (resolveWindow search.start search.stop today).window
  let properties ← listProperties context.createdAt context.photoCount tenantId db
  let units ← listAllUnits context.createdAt tenantId db
  let bookings ← listBookings tenantId (search.query window) db
  return composeRows bookings units properties

/-- `downloadReservationsCsv`. -/
def reservationsExport (tenantId : Uuid) (search : ReservationsSearch) (today : Text) (db : Db) :
    Except Thrown Text := do
  let window ← parseListWindow (resolveWindow search.start search.stop today).window
  exportCsv tenantId (search.query window) db

/-- The cells of the export that a row of the table stands for. -/
def ReservationRow.cells (row : ReservationRow) : BookingCsvRow where
  bookingId := (uuidText row.booking.id).toList
  property := row.propertyName.toList
  unit := row.unitName.toList
  guest := (row.booking.guestName.getD "").toList
  checkIn := row.booking.checkIn
  checkOut := row.booking.checkOut
  nights := (toString (countNights row.booking.checkIn row.booking.checkOut)).toList
  source := row.booking.source.text
  status := row.booking.status.text
  guests := (row.booking.guestCount.elim "" toString).toList
  totalIdr := (row.booking.totalPriceIdr.elim "" toString).toList

/-! ### The window is one the API takes -/

section Window

variable {start stop : Option Text} {today : Text}

/-- The default window ends as many nights after today as a window may have. -/
theorem defaultWindow_checks (known : (isoDay today).isSome)
    (within : dateParse today + MAX_AVAILABILITY_NIGHTS ≤ daysFromCivil 9999 12 31) :
    ListWindowChecks (defaultWindow today) := by
  have bounds := dateParse_bounds known
  obtain ⟨day, todayKnown⟩ := Option.isSome_iff_exists.mp known
  have later : isoDay (addDays today MAX_AVAILABILITY_NIGHTS) =
      some (dateParse today + MAX_AVAILABILITY_NIGHTS) :=
    isoDay_dateText (by have := bounds.1; simp only [MAX_AVAILABILITY_NIGHTS] at *; omega) within
  have laterParse : dateParse (addDays today MAX_AVAILABILITY_NIGHTS) =
      dateParse today + MAX_AVAILABILITY_NIGHTS := dateParse_of_isoDay later
  refine ⟨known, Option.isSome_iff_exists.mpr ⟨_, later⟩, ?_, ?_⟩
  · refine (isoDay_lt_iff todayKnown later).mpr ?_
    rw [← dateParse_of_isoDay todayKnown]
    exact lt_add_of_pos_right _ (by decide)
  · show dateParse (addDays today MAX_AVAILABILITY_NIGHTS) - dateParse today ≤ _
    rw [laterParse, add_sub_cancel_left]

/-- Whatever the search holds, the window it resolves to passes the checks of the API. -/
theorem resolveWindow_checks (known : (isoDay today).isSome)
    (within : dateParse today + MAX_AVAILABILITY_NIGHTS ≤ daysFromCivil 9999 12 31)
    (startReal : ∀ text ∈ start, (isoDay text).isSome)
    (stopReal : ∀ text ∈ stop, (isoDay text).isSome) :
    ListWindowChecks (resolveWindow start stop today).window := by
  have fallback := defaultWindow_checks known within
  cases start with
  | none =>
    cases stop with
    | none => exact fallback
    | some last => exact fallback
  | some first =>
    cases stop with
    | none => exact fallback
    | some last =>
      dsimp only [resolveWindow]
      by_cases ordered : first < last
      · rw [if_neg (not_not.mpr ordered)]
        by_cases long : countNights first last > MAX_AVAILABILITY_NIGHTS
        · rw [if_pos long]
          exact fallback
        · rw [if_neg long]
          exact ⟨startReal first rfl, stopReal last rfl, ordered, not_lt.mp long⟩
      · rw [if_pos ordered]
        exact fallback

theorem parseListWindow_ok {window : Text × Text} (checked : ListWindowChecks window) :
    ∃ parsed, parseListWindow window = .ok parsed ∧ (parsed.first, parsed.last) = window := by
  rw [parseListWindow, dif_pos checked]
  exact ⟨_, rfl, rfl⟩

end Window

/-! ### The table and the file -/

section Rows

variable {db : Db} {tenantId : Uuid} {query : ListBookingsQuery}
  {window : Option (PgDate × PgDate)} {units : List UnitResponse}
  {properties : List PropertyResponse}

/-- A row of a list that names each id once is found by its id. -/
theorem mapGet_of_mem {Row : Type} {key : Row → Uuid} {rows : List Row} {row : Row}
    (keyed : (rows.map key).Nodup) (member : row ∈ rows) :
    mapGet key (key row) rows = some row := by
  refine Table.byKey_of_mem ?_ (List.mem_reverse.mpr member)
  rw [List.map_reverse]
  exact List.nodup_reverse.mpr keyed

/-- A row of the twin as the table shows it. -/
def BookingExportRow.shown (row : BookingExportRow) : ReservationRow where
  booking := row.booking.shown
  propertyName := row.property.name
  unitName := row.unit.name

/-- The page shows of a row the very cells the export writes of it. -/
theorem BookingExportRow.shown_cells (row : BookingExportRow) : row.shown.cells = toCsvRow row :=
  rfl

/-- The table joins to each booking the unit and the property the twin joins. -/
theorem Db.Sound.composeRows_eq [PostgresServer] (sound : db.Sound)
    (everyUnit : units.Perm ((db.unit.filter (·.tenantId = tenantId)).map
      (RentalUnit.response db)))
    {photoCount : Uuid → Nat}
    (everyProperty : properties.Perm ((db.property.filter (·.tenantId = tenantId)).map
      (Property.response photoCount db))) :
    composeRows ((query.rows tenantId window db).map Booking.shown) units properties =
      (query.exportRows tenantId window db).map BookingExportRow.shown := by
  have keyedUnits := sound.inventory.units_once everyUnit
  have keyedProperties := sound.inventory.properties_once everyProperty
  have listed : (query.exportRows tenantId window db).map BookingExportRow.booking =
      query.rows tenantId window db := sound.exportRows_booking
  rw [← listed, List.map_map, composeRows, List.filterMap_map, ← List.filterMap_eq_map]
  refine List.filterMap_congr fun row member => ?_
  obtain ⟨-, ofBooking, ofUnit⟩ := ListBookingsQuery.mem_exportRows member
  obtain ⟨unitStored, unitNamed⟩ := List.mem_filter.mp ofBooking
  obtain ⟨propertyStored, propertyNamed⟩ := List.mem_filter.mp ofUnit
  obtain ⟨unitId, unitTenant⟩ := of_decide_eq_true unitNamed
  obtain ⟨propertyId, propertyTenant⟩ := of_decide_eq_true propertyNamed
  have ofTenant : row.booking.tenantId = tenantId := by
    have inRows : row.booking ∈ query.rows tenantId window db :=
      listed ▸ List.mem_map_of_mem member
    obtain ⟨-, _, -, -, met⟩ := ListBookingsQuery.mem_rows.mp inRows
    exact met.1
  have unitFound : mapGet UnitResponse.id row.booking.unitId units =
      some (row.unit.response db) := by
    rw [← unitId]
    refine mapGet_of_mem keyedUnits (everyUnit.mem_iff.mpr (List.mem_map_of_mem ?_))
    exact List.mem_filter.mpr ⟨unitStored, decide_eq_true (unitTenant.trans ofTenant)⟩
  have propertyFound : mapGet PropertyResponse.id row.unit.propertyId properties =
      some (row.property.response photoCount db) := by
    rw [← propertyId]
    refine mapGet_of_mem keyedProperties (everyProperty.mem_iff.mpr (List.mem_map_of_mem ?_))
    exact List.mem_filter.mpr
      ⟨propertyStored, decide_eq_true (propertyTenant.trans (unitTenant.trans ofTenant))⟩
  show (mapGet UnitResponse.id row.booking.unitId units).map _ = some _
  rw [unitFound, Option.map_some]
  show some (ReservationRow.mk row.booking.shown _ _) = _
  rw [show mapGet PropertyResponse.id (row.unit.response db).propertyId properties =
    some (row.property.response photoCount db) from propertyFound]
  rfl

/-- What the filters of the page ask of a booking. -/
structure ReservationsSearch.Finds (search : ReservationsSearch) (tenantId : Uuid)
    (window : Text × Text) (db : Db) (booking : Booking) : Prop where
  ofTenant : booking.tenantId = tenantId
  overlaps : daterangesOverlap booking.checkIn booking.checkOut (dateParse window.1)
    (dateParse window.2)
  ofProperty : ∀ id ∈ search.propertyId, ∃ unit ∈ db.unit, unit.id = booking.unitId ∧
    unit.propertyId = id
  status : ∀ statuses ∈ search.status, statuses ≠ [] → booking.status ∈ statuses
  source : ∀ sources ∈ search.source, sources ≠ [] → booking.source ∈ sources

/-- A filter of values without any asks nothing. -/
theorem forall_mem_filter_ne_nil {Value : Type} {values : Option (List Value)}
    [DecidableEq (List Value)] {value : Value} :
    (∀ listed ∈ values.filter (· ≠ []), listed ≠ [] → value ∈ listed) ↔
      ∀ listed ∈ values, listed ≠ [] → value ∈ listed := by
  constructor
  · intro filtered listed given filled
    exact filtered listed (Option.mem_filter_iff.mpr ⟨given, decide_eq_true filled⟩) filled
  · intro all listed given
    exact all listed (Option.mem_filter_iff.mp given).1

/-- The rows of the page's query are the bookings its filters find. -/
theorem Db.Sound.mem_pageRows [PostgresServer] (sound : db.Sound) {search : ReservationsSearch}
    {shown : ListWindow} {booking : Booking} (stored : booking ∈ db.booking) :
    booking ∈ (search.query shown).rows tenantId
        (some (dateParse shown.first, dateParse shown.last)) db ↔
      search.Finds tenantId (shown.first, shown.last) db booking := by
  rw [ListBookingsQuery.mem_rows]
  constructor
  · rintro ⟨-, unit, unitStored, joined, ofTenant, overlaps, ofProperty, -, status, source⟩
    exact ⟨ofTenant, overlaps _ rfl,
      fun id wanted => ⟨unit, unitStored, joined.1, ofProperty id wanted⟩,
      forall_mem_filter_ne_nil.mp status, forall_mem_filter_ne_nil.mp source⟩
  · intro finds
    obtain ⟨unit, unitStored, ofUnit, ofTenant, -⟩ := sound.unitsOf_eq stored
    refine ⟨stored, unit, unitStored, ⟨ofUnit, ofTenant⟩, finds.ofTenant, ?_, ?_, ?_,
      forall_mem_filter_ne_nil.mpr finds.status, forall_mem_filter_ne_nil.mpr finds.source⟩
    · intro days bounds
      rw [← Option.mem_some_iff.mp bounds]
      exact finds.overlaps
    · intro id wanted
      obtain ⟨other, otherStored, named, ofProperty⟩ := finds.ofProperty id wanted
      rwa [← Table.eq_of_key sound.inventory.units otherStored unitStored
        (named.trans ofUnit.symm)]
    · exact fun id absent => absurd absent (Option.not_mem_none id)

/-- A booking has a row where the page's query lists it. -/
theorem Db.Sound.shown_iff [PostgresServer] (sound : db.Sound) {booking : Booking}
    (stored : booking ∈ db.booking) :
    (∃ row ∈ (query.exportRows tenantId window db).map BookingExportRow.shown,
      row.booking.id = booking.id) ↔ booking ∈ query.rows tenantId window db := by
  rw [← sound.exportRows_booking]
  constructor
  · rintro ⟨_, member, same⟩
    obtain ⟨row, listed, rfl⟩ := List.mem_map.mp member
    obtain ⟨rowStored, -⟩ := ListBookingsQuery.mem_exportRows listed
    rw [← Table.eq_of_key sound.bookings.lawful.keyed rowStored stored same]
    exact List.mem_map_of_mem listed
  · intro member
    obtain ⟨row, listed, rfl⟩ := List.mem_map.mp member
    exact ⟨row.shown, List.mem_map_of_mem listed, rfl⟩

end Rows

/-- The row names the unit of its booking and the property of that unit. -/
def ReservationRow.Joined (db : Db) (row : ReservationRow) : Prop :=
  ∃ unit ∈ db.unit, ∃ property ∈ db.property, unit.id = row.booking.unitId ∧
    property.id = unit.propertyId ∧ row.unitName = unit.name ∧ row.propertyName = property.name

theorem ListBookingsQuery.shown_joined {db : Db} {tenantId : Uuid} {query : ListBookingsQuery}
    {window : Option (PgDate × PgDate)} {row : BookingExportRow}
    (member : row ∈ query.exportRows tenantId window db) : row.shown.Joined db := by
  obtain ⟨-, ofBooking, ofUnit⟩ := ListBookingsQuery.mem_exportRows member
  obtain ⟨unitStored, unitNamed⟩ := List.mem_filter.mp ofBooking
  obtain ⟨propertyStored, propertyNamed⟩ := List.mem_filter.mp ofUnit
  exact ⟨row.unit, unitStored, row.property, propertyStored, (of_decide_eq_true unitNamed).1,
    (of_decide_eq_true propertyNamed).1, rfl, rfl⟩

/-- After any run of the services and for any search the page answers, since it resolves to a
window the API takes: a row for each booking its filters find, one each. Every row shows a stored
booking as it is, under the names of its unit and property, and the rows stand by check-in and then
by id. The export answers the cells of exactly these rows, in their order. The estate the run starts
from is sound and can be displayed; today is a day a year before the last one of the calendar at the
latest, and the two ends of the window are days a `date` column can hold. -/
theorem export_is_the_page [PostgresServer] (env : PayEnvironment) (run : List Operation)
    {start : Estate} (sound : start.Sound) (displayable : start.db.Displayable)
    (context : CalendarContext) (tenantId : Uuid) (search : ReservationsSearch) (today : Text)
    (known : (isoDay today).isSome)
    (within : dateParse today + MAX_AVAILABILITY_NIGHTS ≤ daysFromCivil 9999 12 31)
    (startStored : (pgDate (resolveWindow search.start search.stop today).window.1).isSome)
    (stopStored : (pgDate (resolveWindow search.start search.stop today).window.2).isSome) :
    ∃ rows, reservationsPage context tenantId search today (runEstate env run start).db =
        .ok rows ∧
      reservationsExport tenantId search today (runEstate env run start).db =
        .ok (bookingsToCsv (rows.map ReservationRow.cells)) ∧
      (rows.map fun row => row.booking.id).Nodup ∧
      (∀ booking ∈ (runEstate env run start).db.booking,
        (∃ row ∈ rows, row.booking.id = booking.id) ↔
          search.Finds tenantId (resolveWindow search.start search.stop today).window
            (runEstate env run start).db booking) ∧
      (∃ found : List Booking, rows.map ReservationRow.booking = found.map Booking.shown ∧
        found.Pairwise Booking.ListedBefore ∧
          ∀ booking ∈ found, booking ∈ (runEstate env run start).db.booking) ∧
      ∀ row ∈ rows, row.Joined (runEstate env run start).db := by
  have soundAfter := (runEstate_sound env run sound).db
  have shownAfter := runEstate_displayable env run displayable
  generalize (runEstate env run start).db = db at soundAfter shownAfter
  obtain ⟨window, parsed, same⟩ := parseListWindow_ok
    (resolveWindow_checks known within search.startReal search.stopReal)
  rw [← same] at startStored stopStored
  have bound : (search.query window).bindWindow =
      .ok (some (dateParse window.first, dateParse window.last)) :=
    bindWindow_eq rfl startStored stopStored
  obtain ⟨properties, propertiesRead, everyProperty⟩ :=
    soundAfter.inventory.listProperties_eq context.createdAt context.photoCount tenantId
  obtain ⟨units, unitsRead, everyUnit⟩ :=
    soundAfter.inventory.listAllUnits_eq context.createdAt tenantId
  have joined : composeRows (((search.query window).rows tenantId
      (some (dateParse window.first, dateParse window.last)) db).map Booking.shown) units
        properties =
    ((search.query window).exportRows tenantId
      (some (dateParse window.first, dateParse window.last)) db).map BookingExportRow.shown :=
    soundAfter.composeRows_eq everyUnit everyProperty
  refine ⟨((search.query window).exportRows tenantId
    (some (dateParse window.first, dateParse window.last)) db).map BookingExportRow.shown,
      ?_, ?_, ?_, ?_, ?_, ?_⟩
  · rw [reservationsPage, parsed, propertiesRead, unitsRead]
    show (do
      let bookings ← listBookings tenantId (search.query window) db
      return composeRows bookings units properties) = _
    rw [listBookings_eq shownAfter bound, ← joined]
    rfl
  · rw [reservationsExport, parsed]
    show exportCsv tenantId (search.query window) db = _
    have sameCells : ReservationRow.cells ∘ BookingExportRow.shown = toCsvRow :=
      funext BookingExportRow.shown_cells
    rw [exportCsv, bound, List.map_map, sameCells]
    rfl
  · rw [List.map_map]
    have once : (((search.query window).rows tenantId
        (some (dateParse window.first, dateParse window.last)) db).map Booking.id).Nodup :=
      soundAfter.rows_nodup
    rwa [← soundAfter.exportRows_booking, List.map_map] at once
  · intro booking stored
    rw [soundAfter.shown_iff stored, soundAfter.mem_pageRows stored, same]
  · refine ⟨(search.query window).rows tenantId
      (some (dateParse window.first, dateParse window.last)) db, ?_,
      ListBookingsQuery.rows_sorted, fun booking member =>
        (ListBookingsQuery.mem_rows.mp member).1⟩
    rw [← soundAfter.exportRows_booking, List.map_map, List.map_map]
    rfl
  · intro row member
    obtain ⟨listed, inExport, rfl⟩ := List.mem_map.mp member
    exact ListBookingsQuery.shown_joined inExport

/-! ### The villa -/

attribute [local instance] PostgresServer.uncompressed

theorem villaSearch_start : ∀ text ∈ (none : Option Text), (isoDay text).isSome :=
  fun text absent => absurd absent (Option.not_mem_none text)

theorem villaSearch_stop : ∀ text ∈ some "2026-08-20".toList, (isoDay text).isSome := by
  decide +kernel

def villaSearch : ReservationsSearch where
  start := none
  stop := some "2026-08-20".toList
  propertyId := none
  status := some []
  source := none
  startReal := villaSearch_start
  stopReal := villaSearch_stop

/-- A search with one date shows what is to come from the first of August on, the guest's hold
among it, and so does its export. -/
theorem export_is_the_page_villa :
    ∃ rows, reservationsPage villaContext 1 villaSearch "2026-08-01".toList
        (runEstate villaEnvironment villaDisconnect villaEstate).db = .ok rows ∧
      reservationsExport 1 villaSearch "2026-08-01".toList
        (runEstate villaEnvironment villaDisconnect villaEstate).db =
          .ok (bookingsToCsv (rows.map ReservationRow.cells)) ∧
      ∃ row ∈ rows, row.booking.id = 1 := by
  obtain ⟨rows, page, file, -, finds, -⟩ := export_is_the_page villaEnvironment villaDisconnect
    villaEstate_sound villaEstate_displayable villaContext 1 villaSearch "2026-08-01".toList
    (by decide +kernel) (by decide +kernel) (by decide +kernel) (by decide +kernel)
  obtain ⟨hold, stored, isFirst, ofTenant, overlaps⟩ :
      ∃ hold ∈ (runEstate villaEnvironment villaDisconnect villaEstate).db.booking,
        hold.id = 1 ∧ hold.tenantId = 1 ∧ daterangesOverlap hold.checkIn hold.checkOut
          (dateParse (resolveWindow none villaSearch.stop "2026-08-01".toList).window.1)
          (dateParse (resolveWindow none villaSearch.stop "2026-08-01".toList).window.2) := by
    decide +kernel
  refine ⟨rows, page, file, ?_⟩
  rw [← isFirst]
  refine (finds hold stored).mpr ⟨ofTenant, overlaps, ?_, ?_, ?_⟩
  · exact fun id absent => absurd absent (Option.not_mem_none id)
  · exact fun statuses listed filled => absurd (Option.mem_some_iff.mp listed).symm filled
  · exact fun sources absent => absurd absent (Option.not_mem_none sources)

end Sambung
