/-
This file states the export feed, `ical-export.service.ts` with the read of its
bookings, and proves that what a subscriber reads of it is the ledger: from today
on a night is blocked exactly if a confirmed booking of the unit holds it.

The visitor's tenant is the tenant of the unit. `current_date` is the database's
day.

The subscriber is the parser of this very repository, in any zone it knows, so
that the result joins the two ends of a feed that one installation offers to
another. A booking goes out under its own id, in which no character needs an
escape, and with its two dates, which the bookings a run leaves always have. Which
nights are blocked is then a fact about a query and the exclusion constraint: the
listed stays are confirmed, none is over, and no two of them share a night.
-/

import Sambung.FeedRoundTrip
import Sambung.OwnerCalendar

namespace Sambung

/-! ### The feed -/

def PROD_ID : String := "-//Sambung//Availability Export//EN"

/-- The confirmed bookings of a unit that have not ended before the day, by check-in. -/
def findConfirmedBookingsForExport (currentDate : PgDate) (tenantId unitId : Uuid) (db : Db) :
    List Booking :=
  (db.booking.filter fun row => row.unitId = unitId ∧ row.tenantId = tenantId ∧
    row.status = .confirmed ∧ currentDate ≤ row.checkOut).insertionSort Booking.ListedBefore

/-- The event of a booking: its id and its dates, and nothing of the guest. -/
def Booking.exported (row : Booking) : CalendarEvent where
  uid := uuidText row.id
  start := dateText row.checkIn
  stop := dateText row.checkOut

/-- The feed of a unit, archived or not. -/
def exportCalendar (currentDate : PgDate) (dtstamp : Instant) (unitId : Uuid) (db : Db) :
    Except Thrown Text :=
  match db.unitById unitId with
  | none => .error (.notFound "Unit not found")
  | some unit => buildCalendar {
      prodId := PROD_ID
      events := (findConfirmedBookingsForExport currentDate unit.tenantId unitId db).map
        Booking.exported
      dtstamp }

/-! ### The text of a `uuid` -/

/-- The characters Postgres writes a `uuid` in. -/
def UUID_LETTERS : Text :=
  ['0', '1', '2', '3', '4', '5', '6', '7', '8', '9', 'a', 'b', 'c', 'd', 'e', 'f', '-']

theorem digitChar_mem_uuidLetters (d : ℕ) (small : d < 16) : Nat.digitChar d ∈ UUID_LETTERS := by
  interval_cases d <;> decide

theorem mem_uuidLetters {left value : Nat} {c : Char} (member : c ∈ uuidDigits left value) :
    c ∈ UUID_LETTERS := by
  induction left with
  | zero => exact absurd member List.not_mem_nil
  | succ left inductionHypothesis =>
    rw [uuidDigits, List.mem_append, List.mem_append] at member
    obtain (digit | hyphen) | rest := member
    · simp only [List.mem_cons, List.not_mem_nil, or_false] at digit
      obtain rfl | rfl := digit
      · exact digitChar_mem_uuidLetters _ (by omega)
      · exact digitChar_mem_uuidLetters _ (by omega)
    · by_cases grouped : left ∈ [12, 10, 8, 6]
      · rw [if_pos grouped, List.mem_singleton] at hyphen
        rw [hyphen]
        decide
      · rw [if_neg grouped] at hyphen
        exact absurd hyphen List.not_mem_nil
    · exact inductionHypothesis rest

/-- Each of them is a plain character of a content line. -/
theorem uuidLetters_plain : ∀ c ∈ UUID_LETTERS,
    ¬ isWhiteSpace c ∧ (c ≠ '\r' ∧ c ≠ '\n') ∧ ¬ Special c := by
  simp [UUID_LETTERS, isWhiteSpace]

theorem uuidText_toList (id : Uuid) : (uuidText id).toList = uuidDigits 16 id :=
  String.toList_ofList

theorem uuidDigits_ne_nil (id : Uuid) : uuidDigits 16 id ≠ [] := by
  rw [uuidDigits]
  exact List.cons_ne_nil _ _

/-! ### What is exported can be read -/

/-- A booking whose dates have texts makes an event every subscriber reads. -/
theorem Booking.Displayable.exportable {row : Booking} (displayable : row.Displayable)
    (ordered : row.checkIn < row.checkOut) : row.exported.Exportable where
  filled := fun empty => uuidDigits_ne_nil row.id (by
    rw [← uuidText_toList, show uuidText row.id = "" from empty]
    rfl)
  trimmed := by
    show trim (uuidText row.id).toList = (uuidText row.id).toList
    rw [uuidText_toList, trim_eq_self (uuidDigits_ne_nil row.id)]
    exact ⟨(uuidLetters_plain _ (mem_uuidLetters (List.head_mem _))).1,
      (uuidLetters_plain _ (mem_uuidLetters (List.getLast_mem _))).1⟩
  unbroken := by
    intro c member
    rw [show row.exported.uid.toList = uuidDigits 16 row.id from uuidText_toList row.id] at member
    exact (uuidLetters_plain c (mem_uuidLetters member)).2.1
  dates := ⟨row.checkIn, row.checkOut, displayable.checkIn, displayable.checkOut, ordered⟩

/-- The event comes back with the id as Postgres writes it. -/
theorem Booking.exported_read (row : Booking) : row.exported.read = row.exported.imported := by
  have unbroken : Unbroken (uuidDigits 16 row.id) := fun c member =>
    (uuidLetters_plain c (mem_uuidLetters member)).2.1
  have same : escapeText (uuidText row.id).toList = (uuidText row.id).toList := by
    rw [uuidText_toList]
    exact (escapeText_eq_self unbroken).mpr fun c member =>
      (uuidLetters_plain c (mem_uuidLetters member)).2.2
  show (⟨String.ofList (escapeText (uuidText row.id).toList), _, _⟩ : ImportedEvent) = _
  rw [same, String.ofList_toList]
  rfl

/-- A calendar of such events is read in full, in any zone the reader knows. -/
theorem parseCalendar_exported (intl : DateTimeFormat) {timeZone : String}
    (known : (intl timeZone).isSome) {rows : List Booking} (prodId : String) (dtstamp : Instant)
    (exportable : ∀ row ∈ rows, row.exported.Exportable) :
    ∃ text, buildCalendar ⟨prodId, rows.map Booking.exported, dtstamp⟩ = .ok text ∧
      parseCalendar intl text timeZone =
        .ok (rows.map fun row => row.exported.imported) [] := by
  have every : ∀ event ∈ (BuildCalendarInput.mk prodId (rows.map Booking.exported) dtstamp).events,
      event.Exportable := List.forall_mem_map.mpr exportable
  obtain ⟨lines, built, standing, sawBegin, sawEnd, scanned⟩ := contentLines_read every
  have unfolded := unfold_ended (fun line member => (standing line member).unbroken)
    fun line member => ⟨(standing line member).filled, (standing line member).opens⟩
  refine ⟨ended (lines.map foldLine), ?_, ?_⟩
  · rw [buildCalendar, built]
    rfl
  · obtain ⟨formatToParts, format⟩ := Option.isSome_iff_exists.mp known
    rw [parseCalendar, zoneContext, format]
    dsimp only [Option.map_some]
    rw [unfolded, List.any_append, List.any_append, sawBegin, sawEnd, List.foldl_append, scanned]
    rw [Bool.true_or, Bool.true_or, if_neg (by decide)]
    refine congrArg (ParseResult.ok · []) ?_
    rw [List.map_map]
    exact List.map_congr_left fun row _ => row.exported_read

/-! ### The ledger -/

section Feed

variable {db : Db} {currentDate : PgDate} {tenantId unitId : Uuid}

theorem mem_findConfirmedBookingsForExport {row : Booking} :
    row ∈ findConfirmedBookingsForExport currentDate tenantId unitId db ↔
      row ∈ db.booking ∧ row.unitId = unitId ∧ row.tenantId = tenantId ∧
        row.status = .confirmed ∧ currentDate ≤ row.checkOut := by
  rw [findConfirmedBookingsForExport, List.mem_insertionSort, List.mem_filter,
    decide_eq_true_eq]

/-- The dates an event of the feed blocks. -/
def ImportedEvent.Blocks (night : PgDate) (event : ImportedEvent) : Prop :=
  dateParse event.start ≤ night ∧ night < dateParse event.stop

theorem Booking.Displayable.blocks_iff {row : Booking} (displayable : row.Displayable)
    {night : PgDate} :
    row.exported.imported.Blocks night ↔ row.checkIn ≤ night ∧ night < row.checkOut := by
  show dateParse (dateText row.checkIn) ≤ night ∧ night < dateParse (dateText row.checkOut) ↔ _
  rw [dateParse_of_isoDay displayable.checkIn, dateParse_of_isoDay displayable.checkOut]

/-- What the feed of a unit says to whoever reads it. -/
structure TellsLedger (currentDate : PgDate) (unitId : Uuid) (db : Db)
    (events : List ImportedEvent) : Prop where
  nights : ∀ night, currentDate ≤ night →
    ((∃ event ∈ events, event.Blocks night) ↔
      ∃ row ∈ db.booking, row.status = .confirmed ∧ row.HoldsNight unitId night)
  stays : ∀ event ∈ events, ∃ row ∈ db.booking, event.uid = uuidText row.id ∧
    row.unitId = unitId ∧ row.status = .confirmed ∧ currentDate ≤ row.checkOut ∧
      event.start = dateText row.checkIn ∧ event.stop = dateText row.checkOut
  apart : events.Pairwise fun first second => ∀ night,
    ¬ (first.Blocks night ∧ second.Blocks night)

/-- From today on the listed bookings block the nights the confirmed bookings of the unit hold: a
stay that holds a night from today on has not ended before today. -/
theorem Db.Sound.exported_blocks_iff [PostgresServer] (sound : db.Sound)
    (displayable : db.Displayable) {unit : RentalUnit} (stored : unit ∈ db.unit) {night : PgDate}
    (fromToday : currentDate ≤ night) :
    (∃ row ∈ findConfirmedBookingsForExport currentDate unit.tenantId unit.id db,
        row.exported.imported.Blocks night) ↔
      ∃ row ∈ db.booking, row.status = .confirmed ∧ row.HoldsNight unit.id night := by
  constructor
  · rintro ⟨row, listed, blocks⟩
    obtain ⟨member, ofUnit, -, confirmed, -⟩ := mem_findConfirmedBookingsForExport.mp listed
    have holds := (displayable row member).blocks_iff.mp blocks
    exact ⟨row, member, confirmed, ofUnit,
      (BookingStatus.occupying_iff _).mpr (Or.inr confirmed), holds.1, holds.2⟩
  · rintro ⟨row, member, confirmed, ofUnit, -, before, after⟩
    obtain ⟨joined, joinedMember, named, ofTenant, -⟩ := sound.unitsOf_eq member
    have same : joined = unit :=
      Table.eq_of_key sound.inventory.units joinedMember stored (named.trans ofUnit)
    refine ⟨row, ?_, (displayable row member).blocks_iff.mpr ⟨before, after⟩⟩
    exact mem_findConfirmedBookingsForExport.mpr ⟨member, ofUnit, (same ▸ ofTenant).symm,
      confirmed, fromToday.trans after.le⟩

/-- No night is blocked by two of the listed bookings. -/
theorem Db.BookingsLawful.exported_apart [PostgresServer] (lawful : db.BookingsLawful)
    (displayable : db.Displayable) :
    (findConfirmedBookingsForExport currentDate tenantId unitId db).Pairwise
      fun first second => ∀ night,
        ¬ (first.exported.imported.Blocks night ∧ second.exported.imported.Blocks night) := by
  have keyed : ((findConfirmedBookingsForExport currentDate tenantId unitId db).map
      Booking.id).Nodup :=
    ((List.perm_insertionSort _ _).map Booking.id).nodup_iff.mpr
      (lawful.keyed.sublist (List.filter_sublist.map Booking.id))
  refine (List.pairwise_map.mp keyed).imp_of_mem fun {first second} firstListed secondListed
    different night both => different (congrArg Booking.id ?_)
  have holds : ∀ {row : Booking},
      row ∈ findConfirmedBookingsForExport currentDate tenantId unitId db →
      row.exported.imported.Blocks night → row ∈ db.booking ∧ row.HoldsNight unitId night := by
    intro row listed blocks
    obtain ⟨member, ofUnit, -, confirmed, -⟩ := mem_findConfirmedBookingsForExport.mp listed
    exact ⟨member, ofUnit, (BookingStatus.occupying_iff _).mpr (Or.inr confirmed),
      (displayable row member).blocks_iff.mp blocks⟩
  obtain ⟨firstMember, firstHolds⟩ := holds firstListed both.1
  obtain ⟨secondMember, secondHolds⟩ := holds secondListed both.2
  exact lawful.holdsNight_unique firstMember secondMember firstHolds secondHolds

/-- The feed of a stored unit answers, and tells the ledger. -/
theorem Db.Sound.exportCalendar_tells [PostgresServer] (sound : db.Sound)
    (displayable : db.Displayable) {unit : RentalUnit} (stored : unit ∈ db.unit)
    (intl : DateTimeFormat) {timeZone : String} (known : (intl timeZone).isSome)
    (dtstamp : Instant) :
    ∃ text events, exportCalendar currentDate dtstamp unit.id db = .ok text ∧
      parseCalendar intl text timeZone = .ok events [] ∧
      TellsLedger currentDate unit.id db events := by
  have lawful := sound.bookings.lawful
  have found : db.unitById unit.id = some unit :=
    Table.byKey_of_mem sound.inventory.units stored
  have shown : ∀ row ∈ findConfirmedBookingsForExport currentDate unit.tenantId unit.id db,
      row.exported.Exportable := by
    intro row listed
    obtain ⟨member, -⟩ := mem_findConfirmedBookingsForExport.mp listed
    exact (displayable row member).exportable (lawful.stayOrdered member)
  obtain ⟨text, built, parsed⟩ := parseCalendar_exported intl known PROD_ID dtstamp shown
  refine ⟨text, _, ?_, parsed, ?_, ?_, ?_⟩
  · rw [exportCalendar, found]
    exact built
  · intro night fromToday
    simp only [List.mem_map, exists_exists_and_eq_and]
    exact sound.exported_blocks_iff displayable stored fromToday
  · intro event listed
    obtain ⟨row, rowListed, rfl⟩ := List.mem_map.mp listed
    obtain ⟨member, ofUnit, -, confirmed, notEnded⟩ :=
      mem_findConfirmedBookingsForExport.mp rowListed
    exact ⟨row, member, rfl, ofUnit, confirmed, notEnded, rfl, rfl⟩
  · exact List.pairwise_map.mpr (lawful.exported_apart displayable)

end Feed

/-- After any run of the services the export feed of every stored unit answers, a subscriber in any
zone reads it in full, and from today on it blocks exactly the nights that confirmed bookings of the
unit hold, each by one event. The unit may be archived; the day of the read and the stamp are any.
The bookings at the start can be shown, and ids are written without a character the format escapes,
so that nothing of the feed is lost on the way. -/
theorem exported_feed_tells_the_ledger [PostgresServer] (env : PayEnvironment)
    (run : List Operation) {start : Estate} (sound : start.Sound)
    (displayable : start.db.Displayable) (currentDate : PgDate) (dtstamp : Instant)
    (intl : DateTimeFormat) {timeZone : String} (known : (intl timeZone).isSome) {unit : RentalUnit}
    (stored : unit ∈ (runEstate env run start).db.unit) :
    ∃ text events, exportCalendar currentDate dtstamp unit.id (runEstate env run start).db =
        .ok text ∧
      parseCalendar intl text timeZone = .ok events [] ∧
      TellsLedger currentDate unit.id (runEstate env run start).db events :=
  (runEstate_sound env run sound).db.exportCalendar_tells
    (runEstate_displayable env run displayable) stored intl known dtstamp

/-! ### The villa -/

attribute [local instance] PostgresServer.uncompressed

theorem villaBlock_first : (isoDay "2026-09-10".toList).isSome := by decide +kernel

theorem villaBlock_last : (isoDay "2026-09-12".toList).isSome := by decide +kernel

theorem villaBlock_ordered : "2026-09-10".toList < "2026-09-12".toList := by decide +kernel

theorem villaBlock_bounded :
    countNights "2026-09-10".toList "2026-09-12".toList ≤ MAX_AVAILABILITY_NIGHTS := by
  decide +kernel

/-- The owner blocks two nights of September. -/
def villaBlock : CreateOwnerBookingRequest where
  checkIn := "2026-09-10".toList
  checkOut := "2026-09-12".toList
  checkInReal := villaBlock_first
  checkOutReal := villaBlock_last
  ordered := villaBlock_ordered
  bounded := villaBlock_bounded
  unitId := 20
  booking := .manualBlock

theorem villaBlock_other :
    ¬ (Transaction.createOwnerBooking 1 villaBlock 0).Syncs := fun syncs => syncs

def villaBlockingRun : List Operation := [.transaction _ villaBlock_other]

/-- The block is in the feed, the guest's hold of August is not. -/
theorem exported_feed_tells_the_ledger_villa :
    ∃ text events, exportCalendar 20600 0 20
        (runEstate villaEnvironment villaBlockingRun villaEstate).db = .ok text ∧
      parseCalendar utcClock text "UTC" = .ok events [] ∧
      (∃ event ∈ events, event.Blocks 20706) ∧ ¬ ∃ event ∈ events, event.Blocks 20666 := by
  obtain ⟨unit, stored, isVilla⟩ :
      ∃ unit ∈ (runEstate villaEnvironment villaBlockingRun villaEstate).db.unit, unit.id = 20 := by
    decide +kernel
  obtain ⟨text, events, answered, parsed, tells⟩ :=
    exported_feed_tells_the_ledger villaEnvironment villaBlockingRun villaEstate_sound
      villaEstate_displayable 20600 0 utcClock (by decide : (utcClock "UTC").isSome) stored
  rw [isVilla] at answered tells
  refine ⟨text, events, answered, parsed, (tells.nights 20706 (by decide)).mpr ?_,
    (tells.nights 20666 (by decide)).not.mpr ?_⟩
  · decide +kernel
  · decide +kernel

end Sambung
