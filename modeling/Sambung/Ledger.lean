/-
This file proves where captured money can be seen.

A settlement that finds its payment pending or paid leaves it paid, and a paid
payment is what the inbox, the cancel answer and the confirmation read. The
invariant is a ledger over the payment table: at most one payment of a booking has
not failed, a paid payment's booking is no longer on hold, and a confirmed booking
was confirmed by its paid payment. A settlement on a failed payment is the one
write outside it: its update finds no pending row.

The ledger is indexed by what has been captured, what was marked handled and which
payment confirmed which booking, and the run fixes all three: they are predicates
of its history. A transaction that is no delivery keeps the ledger of the shorter
run write by write; a delivery moves the history and the table at once, and is
taken apart by its outcome. Visibility is then read off a ledger without the run.
-/

import Sambung.Finality
import Sambung.Settlement

namespace Sambung

/-! ### What a transaction does to a payment -/

/-- The transaction records a settlement with the payment's amount. -/
def Transaction.Captures [PostgresServer] (t : Transaction) (id : Uuid) (db : Db) : Prop :=
  ∃ provider event pay, t = .settleEvent provider (.ok (some event)) ∧
    event.payment db = some pay ∧ pay.id = id ∧ event.Settles pay.amountIdr ∧
    event.Recordable provider db

/-- The captured payment has failed before. -/
def Transaction.CapturesFailed [PostgresServer] (t : Transaction) (db : Db) : Prop :=
  ∃ id, t.Captures id db ∧ db.paymentStatus id = some .failed

/-- The transaction confirms the booking by capturing the payment. -/
def Transaction.Confirms [PostgresServer] (env : PayEnvironment) (id bookingId : Uuid)
    (t : Transaction) (db : Db) : Prop :=
  t.Captures id db ∧ (∃ pay, db.paymentById id = some pay ∧ pay.bookingId = bookingId) ∧
    db.bookingStatus bookingId = some .pendingPayment ∧
    (t.run env db).bookingStatus bookingId = some .confirmed

/-- The transaction is a call of `markHandled` on the payment. -/
def Transaction.Marks (t : Transaction) (id : Uuid) : Prop :=
  ∃ tenantId now, t = .markHandled tenantId id now

/-! ### The ledger -/

/-- The invariant of the payment table, over what has been captured, what has been marked
handled, and which payment confirmed which booking. -/
structure Ledger (captured handled : Uuid → Prop) (confirmedBy : Uuid → Uuid → Prop) (db : Db) :
    Prop where
  bookingIds : (db.booking.map Booking.id).Nodup
  holds : db.HoldsUnlinked
  paymentIds : (db.payment.map Payment.id).Nodup
  booked : ∀ pay ∈ db.payment, ∃ row, db.bookingById pay.bookingId = some row ∧
    row.channelConnectionId = none ∧ row.Placed db
  sole : ∀ first ∈ db.payment, ∀ second ∈ db.payment, first.bookingId = second.bookingId →
    first.status ≠ .failed → second.status ≠ .failed → first.id = second.id
  unheld : ∀ pay ∈ db.payment, pay.status = .paid →
    db.bookingStatus pay.bookingId ≠ some .pendingPayment
  confirmed : ∀ pay ∈ db.payment, db.bookingStatus pay.bookingId = some .confirmed →
    ∃ payer ∈ db.payment, payer.bookingId = pay.bookingId ∧ payer.status = .paid ∧
      confirmedBy payer.id pay.bookingId
  marked : ∀ pay ∈ db.payment, pay.handledAt ≠ none → handled pay.id
  seen : ∀ id, captured id → ∃ pay ∈ db.payment, pay.id = id ∧ pay.status = .paid

section Steps

variable {captured handled : Uuid → Prop} {confirmedBy : Uuid → Uuid → Prop} {db after : Db}

/-- What happens to a booking no connection owns, other than a confirmation. -/
def Booking.Calm (row later : Booking) : Prop :=
  row.channelConnectionId = none →
    later.channelConnectionId = none ∧ later.tenantId = row.tenantId ∧
      later.unitId = row.unitId ∧
      (later.status = row.status ∨ later.status ∈ LAPSED_STATUSES)

theorem Booking.Calm.refl (row : Booking) : row.Calm row :=
  fun unlinked => ⟨unlinked, rfl, rfl, Or.inl rfl⟩

/-- Two states of the booking table between which no booking of the guests is confirmed. -/
abbrev CalmBookings (db after : Db) : Prop :=
  Table.Evolves Booking.id Booking.Calm (fun _ => True) db.booking after.booking

theorem calmBookings_refl (same : after.booking = db.booking) : CalmBookings db after := by
  rw [CalmBookings, same]
  exact Table.Evolves.refl Booking.Calm.refl db.booking

theorem calmBookings_setBookingStatus {status : BookingStatus} (lapsed : status ∈ LAPSED_STATUSES)
    (condition : Booking → Prop) [DecidablePred condition] (db : Db) :
    CalmBookings db (db.setBookingStatus status condition) := by
  have calm : ∀ row, condition row → row.Calm (row.setStatus status) :=
    fun _ _ unlinked => ⟨unlinked, rfl, rfl, Or.inr lapsed⟩
  have keyed : ∀ row, condition row → (row.setStatus status).id = row.id := fun _ _ => rfl
  exact Table.Evolves.updateWhere keyed Booking.Calm.refl calm db.booking

/-- A calm change of the bookings keeps the ledger: the booking of every payment is found again,
with the same status or lapsed. -/
theorem Ledger.bookings (ledger : Ledger captured handled confirmedBy db)
    (payment : after.payment = db.payment) (unit : after.unit = db.unit)
    (property : after.property = db.property) (calm : CalmBookings db after)
    (bookingIds : (after.booking.map Booking.id).Nodup) (holds : after.HoldsUnlinked) :
    Ledger captured handled confirmedBy after := by
  have later : ∀ pay ∈ db.payment, ∃ row found, db.bookingById pay.bookingId = some row ∧
      after.bookingById pay.bookingId = some found ∧ found.channelConnectionId = none ∧
      found.Placed after ∧ (found.status = row.status ∨ found.status ∈ LAPSED_STATUSES) := by
    intro pay member
    obtain ⟨row, foundRow, unlinked, place, building, foundUnit, foundProperty⟩ :=
      ledger.booked pay member
    obtain ⟨found, foundLater, steps⟩ := calm.kept pay.bookingId row foundRow
    obtain ⟨stillUnlinked, sameTenant, sameUnit, status⟩ := steps unlinked
    refine ⟨row, found, foundRow, foundLater, stillUnlinked, ⟨place, building, ?_, ?_⟩, status⟩
    · rw [unit, sameUnit, sameTenant]
      exact foundUnit
    · rw [property, sameTenant]
      exact foundProperty
  have keeps : ∀ pay ∈ db.payment, ∀ status, status ∉ LAPSED_STATUSES →
      after.bookingStatus pay.bookingId = some status →
      db.bookingStatus pay.bookingId = some status := by
    intro pay member status occupying now
    obtain ⟨row, found, foundRow, foundLater, -, -, moved⟩ := later pay member
    rw [Db.bookingStatus, foundLater, Option.map_some, Option.some.injEq] at now
    rw [Db.bookingStatus, foundRow, Option.map_some, ← now]
    rcases moved with same | lapsed
    · rw [same]
    · exact absurd (now ▸ lapsed) occupying
  refine ⟨bookingIds, holds, ?_, ?_, ?_, ?_, ?_, ?_, ?_⟩
  · rw [payment]
    exact ledger.paymentIds
  · intro pay member
    rw [payment] at member
    obtain ⟨-, found, -, foundLater, unlinked, placed, -⟩ := later pay member
    exact ⟨found, foundLater, unlinked, placed⟩
  · rw [payment]
    exact ledger.sole
  · intro pay member paid held
    rw [payment] at member
    exact ledger.unheld pay member paid (keeps pay member _ (by decide) held)
  · intro pay member now
    rw [payment] at member ⊢
    exact ledger.confirmed pay member (keeps pay member _ (by decide) now)
  · rw [payment]
    exact ledger.marked
  · rw [payment]
    exact ledger.seen

/-- A new pending payment of a booking on hold, with no other payment open, keeps the ledger: none
of the booking's payments is paid, and none is pending either. -/
theorem Ledger.mint (ledger : Ledger captured handled confirmedBy db) {row : Payment}
    (fresh : row.id ∉ db.payment.map Payment.id) (pending : row.status = .pending)
    (unhandled : row.handledAt = none)
    (payable : ∃ booking ∈ db.booking, booking.id = row.bookingId ∧
      booking.status = .pendingPayment ∧ booking.Placed db)
    (only : ∀ other ∈ db.payment, other.bookingId = row.bookingId → other.status ≠ .pending) :
    Ledger captured handled confirmedBy { db with payment := db.payment ++ [row] } := by
  obtain ⟨booking, bookingMember, sameBooking, held, placed⟩ := payable
  have found : db.bookingById row.bookingId = some booking :=
    sameBooking ▸ Table.byKey_of_mem ledger.bookingIds bookingMember
  have heldStatus : db.bookingStatus row.bookingId = some .pendingPayment := by
    rw [Db.bookingStatus, found, Option.map_some, held]
  have failed : ∀ other ∈ db.payment, other.bookingId = row.bookingId → other.status = .failed := by
    intro other member same
    cases status : other.status with
    | pending => exact absurd status (only other member same)
    | paid => exact absurd (same ▸ heldStatus) (ledger.unheld other member status)
    | failed => rfl
  have either : ∀ pay ∈ db.payment ++ [row], pay ∈ db.payment ∨ pay = row := by
    intro pay member
    simpa using member
  refine ⟨ledger.bookingIds, ledger.holds, ?_, ?_, ?_, ?_, ?_, ?_, ?_⟩
  · rw [List.map_append]
    exact ledger.paymentIds.append (List.nodup_singleton _)
      (List.disjoint_singleton.mpr fresh)
  · intro pay member
    rcases either pay member with old | rfl
    · exact ledger.booked pay old
    · exact ⟨booking, found, ledger.holds _ booking found held, placed⟩
  · intro first firstMember second secondMember same firstOpen secondOpen
    rcases either first firstMember with firstOld | rfl
    · rcases either second secondMember with secondOld | rfl
      · exact ledger.sole first firstOld second secondOld same firstOpen secondOpen
      · exact absurd (failed first firstOld same) firstOpen
    · rcases either second secondMember with secondOld | rfl
      · exact absurd (failed second secondOld same.symm) secondOpen
      · rfl
  · intro pay member paid
    rcases either pay member with old | rfl
    · exact ledger.unheld pay old paid
    · rw [pending] at paid
      cases paid
  · intro pay member now
    rcases either pay member with old | rfl
    · obtain ⟨payer, payerMember, facts⟩ := ledger.confirmed pay old now
      exact ⟨payer, List.mem_append_left _ payerMember, facts⟩
    · have both := heldStatus.symm.trans now
      cases both
  · intro pay member marked
    rcases either pay member with old | rfl
    · exact ledger.marked pay old marked
    · exact absurd unhandled marked
  · intro id captured
    obtain ⟨pay, member, facts⟩ := ledger.seen id captured
    exact ⟨pay, List.mem_append_left _ member, facts⟩

/-- An update of payments that keeps their ids, bookings and statuses keeps the ledger, where
what it marks handled was marked. -/
theorem Ledger.handle (ledger : Ledger captured handled confirmedBy db)
    (condition : Payment → Prop) [DecidablePred condition] (now : Instant)
    (marks : ∀ pay, condition pay → handled pay.id) :
    Ledger captured handled confirmedBy { db with
      payment := Table.updateWhere condition (fun row => { row with handledAt := some now })
        db.payment } := by
  have before : ∀ pay ∈ Table.updateWhere condition
      (fun row => { row with handledAt := some now }) db.payment,
      ∃ old ∈ db.payment, pay.id = old.id ∧ pay.bookingId = old.bookingId ∧
        pay.status = old.status ∧ (pay.handledAt = old.handledAt ∨ handled pay.id) := by
    intro pay member
    obtain ⟨old, oldMember, rfl⟩ := Table.mem_updateWhere.mp member
    refine ⟨old, oldMember, ?_⟩
    split
    · rename_i matched
      exact ⟨rfl, rfl, rfl, Or.inr (marks old matched)⟩
    · exact ⟨rfl, rfl, rfl, Or.inl rfl⟩
  have after : ∀ old ∈ db.payment, ∃ pay ∈ Table.updateWhere condition
      (fun row => { row with handledAt := some now }) db.payment,
      pay.id = old.id ∧ pay.bookingId = old.bookingId ∧ pay.status = old.status := by
    intro old member
    refine ⟨_, Table.mem_updateWhere.mpr ⟨old, member, rfl⟩, ?_⟩
    split
    · exact ⟨rfl, rfl, rfl⟩
    · exact ⟨rfl, rfl, rfl⟩
  refine ⟨ledger.bookingIds, ledger.holds, ?_, ?_, ?_, ?_, ?_, ?_, ?_⟩
  · show (List.map Payment.id (Table.updateWhere _ _ _)).Nodup
    rw [Table.map_updateWhere Payment.id (by intro _ _; rfl)]
    exact ledger.paymentIds
  · intro pay member
    obtain ⟨old, oldMember, -, sameBooking, -⟩ := before pay member
    rw [sameBooking]
    exact ledger.booked old oldMember
  · intro first firstMember second secondMember same firstOpen secondOpen
    obtain ⟨a, aMember, aId, aBooking, aStatus, -⟩ := before first firstMember
    obtain ⟨b, bMember, bId, bBooking, bStatus, -⟩ := before second secondMember
    rw [aId, bId]
    exact ledger.sole a aMember b bMember (aBooking ▸ bBooking ▸ same) (aStatus ▸ firstOpen)
      (bStatus ▸ secondOpen)
  · intro pay member paid
    obtain ⟨old, oldMember, -, sameBooking, sameStatus, -⟩ := before pay member
    rw [sameBooking]
    exact ledger.unheld old oldMember (sameStatus ▸ paid)
  · intro pay member confirmed
    obtain ⟨old, oldMember, -, sameBooking, -⟩ := before pay member
    rw [sameBooking] at confirmed ⊢
    obtain ⟨payer, payerMember, payerBooking, paid, by_⟩ :=
      ledger.confirmed old oldMember confirmed
    obtain ⟨later, laterMember, laterId, laterBooking, laterStatus⟩ := after payer payerMember
    exact ⟨later, laterMember, laterBooking.trans payerBooking, laterStatus.trans paid,
      laterId ▸ by_⟩
  · intro pay member marked
    obtain ⟨old, oldMember, sameId, -, -, same | handled⟩ := before pay member
    · rw [sameId]
      exact ledger.marked old oldMember (same ▸ marked)
    · exact handled
  · intro id captured
    obtain ⟨pay, member, sameId, paid⟩ := ledger.seen id captured
    obtain ⟨later, laterMember, laterId, -, laterStatus⟩ := after pay member
    exact ⟨later, laterMember, laterId.trans sameId, laterStatus.trans paid⟩

theorem map_id_setBookingStatus (status : BookingStatus) (condition : Booking → Prop)
    [DecidablePred condition] (db : Db) :
    (db.setBookingStatus status condition).booking.map Booking.id = db.booking.map Booking.id :=
  Table.map_updateWhere Booking.id fun _ _ => Booking.setStatus_id status _

/-- Every write of a transaction that is no delivery keeps the ledger. The upsert's rows carry the
connection, so none of them is a guest's. -/
theorem Ledger.write [PostgresServer] (ledger : Ledger captured handled confirmedBy db)
    {t : Transaction} (write : Write t db after)
    (quiet : ∀ provider received, t ≠ .settleEvent provider received)
    (marks : ∀ id, t.Marks id → handled id) : Ledger captured handled confirmedBy after := by
  have holds := ledger.holds.step write.bookingsStep
  have appended : ∀ row : Booking, CalmBookings db { db with booking := db.booking ++ [row] } :=
    fun row => Table.Evolves.append Booking.Calm.refl trivial db.booking
  cases write with
  | expire condition pending =>
    refine ledger.bookings rfl rfl rfl (calmBookings_setBookingStatus (by decide) condition db) ?_
      holds
    rw [map_id_setBookingStatus]
    exact ledger.bookingIds
  | book row inserted unlinked status =>
    obtain ⟨-, fresh, rfl⟩ := inserted
    exact ledger.bookings rfl rfl rfl (appended row)
      (Table.nodup_map_append ledger.bookingIds fresh) holds
  | cancel tenantId id =>
    refine ledger.bookings rfl rfl rfl (calmBookings_setBookingStatus (by decide) _ db) ?_ holds
    rw [map_id_setBookingStatus]
    exact ledger.bookingIds
  | settle provider event pay found recordable => exact absurd rfl (quiet provider _)
  | land conn events faults now event member checkIn checkOut landed =>
    cases landed with
    | inserted id absent stored =>
      obtain ⟨-, fresh, rfl⟩ := stored
      exact ledger.bookings rfl rfl rfl (appended _)
        (Table.nodup_map_append ledger.bookingIds fresh) holds
    | moved existing existingMember imported checked accepted stored =>
      subst stored
      have linked : ∀ row : Booking, row.ImportedAs conn.id event.uid →
          row.Calm (row.moveTo checkIn checkOut) := by
        intro row imported unlinked
        rw [imported.1] at unlinked
        cases unlinked
      have keyed : ∀ row : Booking, row.ImportedAs conn.id event.uid →
          (row.moveTo checkIn checkOut).id = row.id := fun _ _ => rfl
      refine ledger.bookings rfl rfl rfl
        (Table.Evolves.updateWhere keyed Booking.Calm.refl linked db.booking) ?_ holds
      show (List.map Booking.id (Table.updateWhere _ _ _)).Nodup
      rw [Table.map_updateWhere Booking.id keyed]
      exact ledger.bookingIds
  | withdraw conn events faults now =>
    refine ledger.bookings rfl rfl rfl (calmBookings_setBookingStatus (by decide) _ db) ?_ holds
    rw [map_id_setBookingStatus]
    exact ledger.bookingIds
  | inbox => exact ledger.bookings rfl rfl rfl (calmBookings_refl rfl) ledger.bookingIds holds
  | connection => exact ledger.bookings rfl rfl rfl (calmBookings_refl rfl) ledger.bookingIds holds
  | mint tenantId bookingId snap now row fresh ofBooking pending unhandled checked payable sole =>
    subst ofBooking
    exact ledger.mint fresh pending unhandled payable sole
  | handled tenantId id now =>
    exact ledger.handle _ now fun pay matched => marks pay.id ⟨tenantId, now, by rw [matched.1]⟩

/-! ### Deliveries -/

/-- What an update of the pending payments of one id leaves. -/
theorem mem_settlePayment {id : Uuid} {status : PaymentStatus} {pay : Payment} :
    pay ∈ (db.settlePayment id status).payment ↔
      ∃ old ∈ db.payment,
        (if old.id = id ∧ old.status = .pending then { old with status } else old) = pay :=
  Table.mem_updateWhere

theorem mem_settlePayment_of_decided {id : Uuid} {status : PaymentStatus} {pay : Payment}
    (member : pay ∈ db.payment) (decided : pay.status ≠ .pending) :
    pay ∈ (db.settlePayment id status).payment :=
  mem_settlePayment.mpr ⟨pay, member, if_neg fun matched => decided matched.2⟩

/-- A paid payment is left alone by every update of the pending ones. -/
theorem mem_settlePayment_of_paid {id : Uuid} {status : PaymentStatus} {pay : Payment}
    (member : pay ∈ db.payment) (paid : pay.status = .paid) :
    pay ∈ (db.settlePayment id status).payment :=
  mem_settlePayment_of_decided member (by rw [paid]; decide)

theorem nodup_settlePayment {id : Uuid} {status : PaymentStatus}
    (paymentIds : (db.payment.map Payment.id).Nodup) :
    ((db.settlePayment id status).payment.map Payment.id).Nodup := by
  have same : (db.settlePayment id status).payment.map Payment.id = db.payment.map Payment.id :=
    Table.map_updateWhere Payment.id (by intro _ _; rfl)
  rw [same]
  exact paymentIds

/-- Failing a pending payment keeps the ledger: no paid payment is touched. -/
theorem Ledger.fail (ledger : Ledger captured handled confirmedBy db) (id : Uuid) :
    Ledger captured handled confirmedBy (db.settlePayment id .failed) := by
  have before : ∀ pay ∈ (db.settlePayment id .failed).payment,
      ∃ old ∈ db.payment, pay.id = old.id ∧ pay.bookingId = old.bookingId ∧
        pay.handledAt = old.handledAt ∧ (pay.status ≠ .failed → pay.status = old.status) := by
    intro pay member
    obtain ⟨old, oldMember, rfl⟩ := mem_settlePayment.mp member
    refine ⟨old, oldMember, ?_⟩
    split
    · exact ⟨rfl, rfl, rfl, fun open_ => absurd rfl open_⟩
    · exact ⟨rfl, rfl, rfl, fun _ => rfl⟩
  refine ⟨ledger.bookingIds, ledger.holds, nodup_settlePayment ledger.paymentIds, ?_, ?_, ?_, ?_,
    ?_, ?_⟩
  · intro pay member
    obtain ⟨old, oldMember, -, sameBooking, -⟩ := before pay member
    rw [sameBooking]
    exact ledger.booked old oldMember
  · intro first firstMember second secondMember same firstOpen secondOpen
    obtain ⟨a, aMember, aId, aBooking, -, aStatus⟩ := before first firstMember
    obtain ⟨b, bMember, bId, bBooking, -, bStatus⟩ := before second secondMember
    rw [aId, bId]
    exact ledger.sole a aMember b bMember (aBooking ▸ bBooking ▸ same)
      (aStatus firstOpen ▸ firstOpen) (bStatus secondOpen ▸ secondOpen)
  · intro pay member paid
    obtain ⟨old, oldMember, -, sameBooking, -, sameStatus⟩ := before pay member
    rw [sameBooking]
    exact ledger.unheld old oldMember ((sameStatus (by rw [paid]; decide)).symm.trans paid)
  · intro pay member confirmed
    obtain ⟨old, oldMember, -, sameBooking, -⟩ := before pay member
    rw [sameBooking] at confirmed ⊢
    obtain ⟨payer, payerMember, payerBooking, paid, by_⟩ :=
      ledger.confirmed old oldMember confirmed
    exact ⟨payer, mem_settlePayment_of_paid payerMember paid, payerBooking, paid, by_⟩
  · intro pay member marked
    obtain ⟨old, oldMember, sameId, -, sameHandled, -⟩ := before pay member
    rw [sameId]
    exact ledger.marked old oldMember (sameHandled ▸ marked)
  · intro id captured
    obtain ⟨pay, member, sameId, paid⟩ := ledger.seen id captured
    exact ⟨pay, mem_settlePayment_of_paid member paid, sameId, paid⟩

theorem holdsUnlinked_confirmBooking {db : Db} (holds : db.HoldsUnlinked) (id : Uuid) :
    (db.confirmBooking id).HoldsUnlinked := by
  intro wanted row found pending
  rw [Db.confirmBooking, Db.bookingById_setBookingStatus, Option.map_eq_some_iff] at found
  obtain ⟨old, foundOld, rfl⟩ := found
  split at pending
  · cases pending
  · rename_i unmatched
    rw [if_neg unmatched]
    exact holds wanted old foundOld pending

section Pay

variable {pay : Payment}

/-- Where the payment is paid: each row is an old one in another status, open only if it was, and
paid only if it was or is the payment's own. -/
theorem Ledger.before_paid (ledger : Ledger captured handled confirmedBy db)
    (member : pay ∈ db.payment) :
    ∀ row ∈ (db.settlePayment pay.id .paid).payment,
      ∃ old ∈ db.payment, row.id = old.id ∧ row.bookingId = old.bookingId ∧
        row.handledAt = old.handledAt ∧ (row.status ≠ .failed → old.status ≠ .failed) ∧
        (row.status = .paid → old.status = .paid ∨ row.bookingId = pay.bookingId) := by
  intro row rowMember
  obtain ⟨old, oldMember, rfl⟩ := mem_settlePayment.mp rowMember
  refine ⟨old, oldMember, ?_⟩
  split
  · rename_i matched
    have same : old = pay := Table.eq_of_key ledger.paymentIds oldMember member matched.1
    exact ⟨rfl, rfl, rfl, fun _ => by rw [matched.2]; decide, fun _ => Or.inr (by rw [same])⟩
  · exact ⟨rfl, rfl, rfl, fun open_ => open_, Or.inl⟩

/-- A payment that has not failed is paid from then on. -/
theorem exists_paid (member : pay ∈ db.payment) (unfailed : pay.status ≠ .failed) :
    ∃ row ∈ (db.settlePayment pay.id .paid).payment, row.id = pay.id ∧
      row.bookingId = pay.bookingId ∧ row.status = .paid := by
  cases status : pay.status with
  | pending =>
    refine ⟨{ pay with status := .paid }, mem_settlePayment.mpr ⟨pay, member, ?_⟩, rfl, rfl, rfl⟩
    exact if_pos ⟨rfl, status⟩
  | paid => exact ⟨pay, mem_settlePayment_of_paid member status, rfl, rfl, status⟩
  | failed => exact absurd status unfailed

/-- Every payment's booking is found after the confirmation, where it was. -/
theorem Ledger.booked_paid (ledger : Ledger captured handled confirmedBy db)
    (member : pay ∈ db.payment) :
    ∀ row ∈ (db.settlePayment pay.id .paid).payment, ∃ booking,
      ((db.settlePayment pay.id .paid).confirmBooking pay.bookingId).bookingById row.bookingId =
        some booking ∧
      booking.channelConnectionId = none ∧
      booking.Placed ((db.settlePayment pay.id .paid).confirmBooking pay.bookingId) := by
  intro row rowMember
  obtain ⟨old, oldMember, -, sameBooking, -⟩ := ledger.before_paid member row rowMember
  obtain ⟨booking, found, unlinked, placed⟩ := ledger.booked old oldMember
  rw [sameBooking]
  refine ⟨if booking.Confirmable pay.bookingId then booking.setStatus .confirmed else booking,
    ?_, ?_, ?_⟩
  · have kept : (db.settlePayment pay.id .paid).bookingById old.bookingId = some booking := found
    rw [Db.confirmBooking, Db.bookingById_setBookingStatus, kept, Option.map_some]
  · split
    · exact unlinked
    · exact unlinked
  · split
    · exact placed
    · exact placed

/-- No paid payment's booking is on hold: the payment's own has just been decided. -/
theorem Ledger.unheld_paid (ledger : Ledger captured handled confirmedBy db)
    (member : pay ∈ db.payment) :
    ∀ row ∈ (db.settlePayment pay.id .paid).payment, row.status = .paid →
      ((db.settlePayment pay.id .paid).confirmBooking pay.bookingId).bookingStatus row.bookingId ≠
        some .pendingPayment := by
  intro row rowMember paid held
  obtain ⟨old, oldMember, -, sameBooking, -, -, wasPaid⟩ :=
    ledger.before_paid member row rowMember
  rw [bookingStatus_confirmBooking, Option.map_eq_some_iff] at held
  obtain ⟨earlier, heldEarlier, unmatched⟩ := held
  by_cases matched : row.bookingId = pay.bookingId ∧ earlier = .pendingPayment
  · rw [if_pos matched] at unmatched
    cases unmatched
  · rw [if_neg matched] at unmatched
    rcases wasPaid paid with oldPaid | sameAsPay
    · have heldBefore : db.bookingStatus row.bookingId = some earlier := heldEarlier
      refine ledger.unheld old oldMember oldPaid ?_
      rw [← sameBooking, heldBefore, unmatched]
    · exact matched ⟨sameAsPay, unmatched⟩

/-- A booking that is confirmed afterwards was confirmed by its paid payment, or has just been by
this one. -/
theorem Ledger.confirmed_paid (ledger : Ledger captured handled confirmedBy db)
    {confirmedBy' : Uuid → Uuid → Prop} (member : pay ∈ db.payment)
    (unfailed : pay.status ≠ .failed)
    (remembered : ∀ id bookingId, confirmedBy id bookingId → confirmedBy' id bookingId)
    (confirms : db.bookingStatus pay.bookingId = some .pendingPayment →
      confirmedBy' pay.id pay.bookingId) :
    ∀ row ∈ (db.settlePayment pay.id .paid).payment,
      ((db.settlePayment pay.id .paid).confirmBooking pay.bookingId).bookingStatus row.bookingId =
        some .confirmed →
      ∃ payer ∈ (db.settlePayment pay.id .paid).payment, payer.bookingId = row.bookingId ∧
        payer.status = .paid ∧ confirmedBy' payer.id row.bookingId := by
  intro row rowMember confirmed
  obtain ⟨old, oldMember, -, sameBooking, -⟩ := ledger.before_paid member row rowMember
  rw [bookingStatus_confirmBooking, Option.map_eq_some_iff] at confirmed
  obtain ⟨earlier, foundEarlier, now⟩ := confirmed
  have heldBefore : db.bookingStatus row.bookingId = some earlier := foundEarlier
  by_cases matched : row.bookingId = pay.bookingId ∧ earlier = .pendingPayment
  · obtain ⟨payer, payerMember, payerId, payerBooking, paid⟩ := exists_paid member unfailed
    rw [matched.1]
    refine ⟨payer, payerMember, payerBooking, paid, payerId ▸ confirms ?_⟩
    rw [← matched.1, heldBefore, matched.2]
  · rw [if_neg matched] at now
    rw [sameBooking] at heldBefore ⊢
    obtain ⟨payer, payerMember, payerBooking, paid, by_⟩ :=
      ledger.confirmed old oldMember (by rw [heldBefore, now])
    exact ⟨payer, mem_settlePayment_of_paid payerMember paid, payerBooking, paid,
      remembered _ _ by_⟩

end Pay

/-- A settlement of a payment that has not failed: the payment is paid, and a booking still on
hold is confirmed by it. -/
theorem Ledger.pay (ledger : Ledger captured handled confirmedBy db)
    {captured' : Uuid → Prop} {confirmedBy' : Uuid → Uuid → Prop} {pay : Payment}
    (member : pay ∈ db.payment) (unfailed : pay.status ≠ .failed)
    (earlier : ∀ id, captured' id → captured id ∨ id = pay.id)
    (remembered : ∀ id bookingId, confirmedBy id bookingId → confirmedBy' id bookingId)
    (confirms : db.bookingStatus pay.bookingId = some .pendingPayment →
      confirmedBy' pay.id pay.bookingId) :
    Ledger captured' handled confirmedBy'
      ((db.settlePayment pay.id .paid).confirmBooking pay.bookingId) where
  bookingIds := by
    unfold Db.confirmBooking
    rw [map_id_setBookingStatus]
    exact ledger.bookingIds
  holds := holdsUnlinked_confirmBooking ledger.holds pay.bookingId
  paymentIds := nodup_settlePayment ledger.paymentIds
  booked := ledger.booked_paid member
  sole := by
    intro first firstMember second secondMember same firstOpen secondOpen
    obtain ⟨a, aMember, aId, aBooking, -, aOpen, -⟩ := ledger.before_paid member first firstMember
    obtain ⟨b, bMember, bId, bBooking, -, bOpen, -⟩ :=
      ledger.before_paid member second secondMember
    rw [aId, bId]
    exact ledger.sole a aMember b bMember (aBooking ▸ bBooking ▸ same) (aOpen firstOpen)
      (bOpen secondOpen)
  unheld := ledger.unheld_paid member
  confirmed := ledger.confirmed_paid member unfailed remembered confirms
  marked := by
    intro row rowMember marked
    obtain ⟨old, oldMember, sameId, -, sameHandled, -⟩ := ledger.before_paid member row rowMember
    rw [sameId]
    exact ledger.marked old oldMember (sameHandled ▸ marked)
  seen := by
    intro id captured
    rcases earlier id captured with old | rfl
    · obtain ⟨row, rowMember, sameId, paid⟩ := ledger.seen id old
      exact ⟨row, mem_settlePayment_of_paid rowMember paid, sameId, paid⟩
    · obtain ⟨row, rowMember, sameId, -, paid⟩ := exists_paid member unfailed
      exact ⟨row, rowMember, sameId, paid⟩

end Steps

/-! ### Runs -/

/-- What happened in a run. -/
abbrev Happened [PostgresServer] (env : PayEnvironment) (start : Db) (run : List Transaction)
    (what : Transaction → Db → Prop) : Prop :=
  Runs.Happened (Transaction.run env) start run what

/-- The ledger of a run. -/
abbrev LedgerOf [PostgresServer] (env : PayEnvironment) (start : Db) (run : List Transaction)
    (db : Db) : Prop :=
  Ledger (fun id => Happened env start run fun t db => t.Captures id db)
    (fun id => Happened env start run fun t _ => t.Marks id)
    (fun id bookingId => Happened env start run (Transaction.Confirms env id bookingId)) db

/-- A database before the first payment: bookings have their ids, and holds are no connection's
rows. -/
structure Db.Unpaid (db : Db) : Prop where
  bookingIds : (db.booking.map Booking.id).Nodup
  holds : db.HoldsUnlinked
  payment : db.payment = []

theorem Ledger.mono {captured handled captured' handled' : Uuid → Prop}
    {confirmedBy confirmedBy' : Uuid → Uuid → Prop} {db : Db}
    (ledger : Ledger captured handled confirmedBy db)
    (earlier : ∀ id, captured' id → captured id) (marked : ∀ id, handled id → handled' id)
    (remembered : ∀ id bookingId, confirmedBy id bookingId → confirmedBy' id bookingId) :
    Ledger captured' handled' confirmedBy' db := by
  refine ⟨ledger.bookingIds, ledger.holds, ledger.paymentIds, ledger.booked, ledger.sole,
    ledger.unheld, ?_, fun pay member set => marked _ (ledger.marked pay member set),
    fun id now => ledger.seen id (earlier id now)⟩
  intro pay member confirmed
  obtain ⟨payer, payerMember, sameBooking, paid, by_⟩ := ledger.confirmed pay member confirmed
  exact ⟨payer, payerMember, sameBooking, paid, remembered _ _ by_⟩

section Run

variable {env : PayEnvironment} {start db : Db} {run : List Transaction}

/-- A transaction that captures nothing leaves the old database to the longer run's ledger. -/
theorem LedgerOf.concat [PostgresServer] (t : Transaction)
    (captures : ∀ id, ¬ t.Captures id (runAll env run start))
    (ledger : LedgerOf env start run db) : LedgerOf env start (run ++ [t]) db := by
  refine ledger.mono (fun id happened => ?_) (fun id => Runs.Happened.concat t)
    fun id bookingId => Runs.Happened.concat t
  exact (Runs.happened_concat.mp happened).resolve_right (captures id)

/-- A transaction that is no delivery keeps the ledger of the run. -/
theorem LedgerOf.quiet [PostgresServer] (t : Transaction)
    (quiet : ∀ provider received, t ≠ .settleEvent provider received)
    (ledger : LedgerOf env start run (runAll env run start)) :
    LedgerOf env start (run ++ [t]) (t.run env (runAll env run start)) := by
  have captures : ∀ id, ¬ t.Captures id (runAll env run start) := by
    rintro id ⟨provider, event, pay, same, -⟩
    exact quiet provider _ same
  refine Writes.preserve (fun write kept => ?_) (t.run_writes env (runAll env run start))
    (ledger.concat t captures)
  exact kept.write write quiet fun id marks => Runs.happened_concat.mpr (Or.inr marks)

theorem mem_of_payment {event : ParsedPaymentEvent} {pay : Payment}
    (found : event.payment db = some pay) :
    pay ∈ db.payment ∧ db.paymentById pay.id = some pay := by
  obtain ⟨orderId, -, known⟩ := Option.bind_eq_some_iff.mp found
  have sameId := Db.paymentById_id known
  exact ⟨(Table.mem_of_byKey known).1, sameId ▸ known⟩

/-- A recorded event keeps the ledger of the run, unless it settles a failed payment. -/
theorem LedgerOf.applied [PostgresServer] {provider : String} {event : ParsedPaymentEvent}
    {pay : Payment} (ledger : LedgerOf env start run (runAll env run start))
    (found : event.payment (runAll env run start) = some pay)
    (recordable : event.Recordable provider (runAll env run start))
    (unfailed : event.Settles pay.amountIdr → pay.status ≠ .failed) :
    LedgerOf env start (run ++ [.settleEvent provider (.ok (some event))])
      (applyOutcome event pay
        ((runAll env run start).recordEvent (event.row provider pay.bookingId))).2 := by
  have run_ : (Transaction.settleEvent provider (.ok (some event))).run env (runAll env run start) =
      (applyOutcome event pay
        ((runAll env run start).recordEvent (event.row provider pay.bookingId))).2 :=
    recordAndApply_recorded found recordable
  have onlyThis : ∀ id, (Transaction.settleEvent provider (.ok (some event))).Captures id
      (runAll env run start) → event.Settles pay.amountIdr ∧ id = pay.id := by
    rintro id ⟨_, _, other, same, foundOther, rfl, settles, -⟩
    cases same
    cases Option.some.inj (foundOther.symm.trans found)
    exact ⟨settles, rfl⟩
  have recorded : LedgerOf env start run
      ((runAll env run start).recordEvent (event.row provider pay.bookingId)) :=
    ledger.bookings rfl rfl rfl (calmBookings_refl rfl) ledger.bookingIds ledger.holds
  obtain ⟨member, foundPay⟩ := mem_of_payment found
  by_cases settles : event.Settles pay.amountIdr
  · have settled : (applyOutcome event pay
        ((runAll env run start).recordEvent (event.row provider pay.bookingId))).2 =
        (((runAll env run start).recordEvent (event.row provider pay.bookingId)).settlePayment
          pay.id .paid).confirmBooking pay.bookingId := by
      rw [applyOutcome_database, if_pos settles.2, settles.1]
    have captures : (Transaction.settleEvent provider (.ok (some event))).Captures pay.id
        (runAll env run start) :=
      ⟨provider, event, pay, rfl, found, rfl, settles, recordable⟩
    have marked := Ledger.mono recorded (fun _ happened => happened)
      (fun id => Runs.Happened.concat (.settleEvent provider (.ok (some event))))
      fun _ _ confirms => confirms
    rw [settled] at run_ ⊢
    refine marked.pay member (unfailed settles) (fun id happened => ?_)
      (fun id bookingId => Runs.Happened.concat _) fun held => ?_
    · exact (Runs.happened_concat.mp happened).imp_right fun captured => (onlyThis id captured).2
    · refine Runs.happened_concat.mpr (Or.inr ⟨captures, ⟨pay, foundPay, rfl⟩, held, ?_⟩)
      show ((Transaction.settleEvent provider (.ok (some event))).run env
        (runAll env run start)).bookingStatus pay.bookingId = _
      rw [run_]
      have confirmed := bookingStatus_confirmBooking
        (((runAll env run start).recordEvent (event.row provider pay.bookingId)).settlePayment
          pay.id .paid) pay.bookingId pay.bookingId
      have heldNow : (((runAll env run start).recordEvent
          (event.row provider pay.bookingId)).settlePayment pay.id .paid).bookingStatus
            pay.bookingId = some .pendingPayment := held
      rw [confirmed, heldNow, Option.map_some, if_pos ⟨rfl, rfl⟩]
  · have idle := recorded.concat (.settleEvent provider (.ok (some event)))
      fun id captures => settles (onlyThis id captures).1
    rw [applyOutcome_database]
    split
    · rename_i sameAmount
      cases outcome : event.outcome with
      | settlement => exact absurd ⟨outcome, sameAmount⟩ settles
      | failure => exact idle.fail pay.id
      | pending => exact idle
      | ignore => exact idle
    · exact idle

/-- A delivery that captures no failed payment keeps the ledger of the run. -/
theorem LedgerOf.settleEvent [PostgresServer] (provider : String)
    (received : Except Thrown (Option ParsedPaymentEvent))
    (unfailed : ¬ (Transaction.settleEvent provider received).CapturesFailed
      (runAll env run start))
    (ledger : LedgerOf env start run (runAll env run start)) :
    LedgerOf env start (run ++ [.settleEvent provider received])
      ((Transaction.settleEvent provider received).run env (runAll env run start)) := by
  match received with
  | .error thrown =>
    refine ledger.concat _ ?_
    rintro id ⟨_, _, _, same, -⟩
    cases same
  | .ok none =>
    refine ledger.concat _ ?_
    rintro id ⟨_, _, _, same, -⟩
    cases same
  | .ok (some event) =>
    by_cases applies : ∃ pay, event.payment (runAll env run start) = some pay ∧
        event.Recordable provider (runAll env run start)
    · obtain ⟨pay, found, recordable⟩ := applies
      have database : (Transaction.settleEvent provider (.ok (some event))).run env
          (runAll env run start) = _ :=
        recordAndApply_recorded found recordable
      rw [database]
      refine ledger.applied found recordable fun settles failed => unfailed ⟨pay.id, ?_, ?_⟩
      · exact ⟨provider, event, pay, rfl, found, rfl, settles, recordable⟩
      · rw [Db.paymentStatus, (mem_of_payment found).2, Option.map_some, failed]
    · have database : (Transaction.settleEvent provider (.ok (some event))).run env
          (runAll env run start) = runAll env run start := by
        refine recordAndApply_unrecordable ?_
        cases found : event.payment (runAll env run start) with
        | none => exact Or.inl rfl
        | some pay => exact Or.inr fun recordable => applies ⟨pay, found, recordable⟩
      rw [database]
      refine ledger.concat _ fun id captures => applies ?_
      obtain ⟨_, _, pay, same, found, -, -, recordable⟩ := captures
      cases same
      exact ⟨pay, found, recordable⟩

/-- Before the first payment nothing is captured, so the ledger of the empty run holds of no rows.
-/
theorem Db.Unpaid.ledger [PostgresServer] (opening : start.Unpaid) :
    LedgerOf env start [] start := by
  have none_ : ∀ pay, pay ∉ start.payment := by
    rw [opening.payment]
    exact fun pay => List.not_mem_nil
  refine ⟨opening.bookingIds, opening.holds, ?_, fun pay member => absurd member (none_ pay),
    fun pay member => absurd member (none_ pay), fun pay member => absurd member (none_ pay),
    fun pay member => absurd member (none_ pay), fun pay member => absurd member (none_ pay),
    fun id happened => absurd happened Runs.not_happened_nil⟩
  rw [opening.payment]
  exact List.nodup_nil

/-- Every run that captures no failed payment keeps the ledger. -/
theorem ledger_runAll [PostgresServer] (opening : start.Unpaid) (run : List Transaction)
    (unfailed : ¬ Happened env start run Transaction.CapturesFailed) :
    LedgerOf env start run (runAll env run start) := by
  refine @Runs.final_induction _ _ (Transaction.run env) start
    (fun run db => ¬ Happened env start run Transaction.CapturesFailed → LedgerOf env start run db)
    (fun _ => opening.ledger) (fun run t inductionHypothesis unfailed => ?_) run unfailed
  have ledger := inductionHypothesis fun happened => unfailed (happened.concat t)
  cases t with
  | settleEvent provider received =>
    exact LedgerOf.settleEvent provider received
      (fun failed => unfailed (Runs.happened_concat.mpr (Or.inr failed))) ledger
  | _ => exact LedgerOf.quiet _ (fun _ _ same => nomatch same) ledger

end Run

/-! ### Captured money -/

/-- Where the money of a payment can be seen: the payment is paid; its booking is confirmed by
it, or has lapsed and the inbox lists the payment unless it was marked handled; and a cancel
answers that the refund is due by hand. -/
structure MoneyVisible [PostgresServer] (env : PayEnvironment) (start : Db) (run : List Transaction)
    (id : Uuid) (pay : Payment) (booking : Booking) : Prop where
  foundPayment : (runAll env run start).paymentById id = some pay
  paid : pay.status = .paid
  foundBooking : (runAll env run start).bookingById pay.bookingId = some booking
  held : (booking.status = .confirmed ∧
      Happened env start run (Transaction.Confirms env id booking.id)) ∨
    (booking.status ∈ LAPSED_STATUSES ∧
      ((¬ Happened env start run fun t _ => t.Marks id) →
        ∃ row ∈ listLapsed booking.tenantId (runAll env run start), row.paymentId = id))
  refund : ∀ tenantId response after,
    cancel tenantId booking.id (runAll env run start) = .ok (response, after) →
      response.refund = .manual

/-- A cancel of a booking with a paid payment answers that the refund is due by hand. -/
theorem cancel_refund {tenantId id : Uuid} {db after : Db} {response : CancelBookingResponse}
    (paid : hasPaidPayment id db) (cancelled : cancel tenantId id db = .ok (response, after)) :
    response.refund = .manual := by
  unfold cancel at cancelled
  by_cases found : ∃ row ∈ db.booking, row.Cancellable tenantId id
  · have still : hasPaidPayment id
        (db.setBookingStatus .cancelled (Booking.Cancellable tenantId id)) := paid
    simp only [cancelById, if_pos found, if_pos still, Except.ok.injEq, Prod.mk.injEq] at cancelled
    rw [← cancelled.1]
  · unfold cancelById at cancelled
    rw [if_neg found] at cancelled
    cases existing : db.booking.find? fun row => row.id = id ∧ row.tenantId = tenantId with
    | none =>
      rw [existing] at cancelled
      cases cancelled
    | some row =>
      rw [existing] at cancelled
      cases cancelled

/-- The inbox lists a paid and unhandled payment whose booking has lapsed. -/
theorem mem_listLapsed {db : Db} {pay : Payment} {booking : Booking} (member : pay ∈ db.payment)
    (found : db.bookingById pay.bookingId = some booking) (placed : booking.Placed db)
    (paid : pay.status = .paid) (unhandled : pay.handledAt = none)
    (lapsed : booking.status ∈ LAPSED_STATUSES) :
    ∃ row ∈ listLapsed booking.tenantId db, row.paymentId = pay.id := by
  obtain ⟨unit, property, foundUnit, foundProperty⟩ := placed
  have foundTenant : (db.booking.find? fun row =>
      row.id = pay.bookingId ∧ row.tenantId = booking.tenantId) = some booking :=
    Table.find?_narrow found (by simp [Db.bookingById_id found]) (by simp +contextual)
  have listed : ∃ row, lapsedRow booking.tenantId db pay = some row ∧ row.paymentId = pay.id := by
    unfold lapsedRow
    simp only [Option.bind_eq_bind, foundTenant, foundUnit, foundProperty, Option.bind_some]
    rw [if_pos ⟨paid, unhandled, lapsed⟩]
    exact ⟨_, rfl, rfl⟩
  obtain ⟨row, shown, sameId⟩ := listed
  refine ⟨row, ?_, sameId⟩
  exact (List.perm_insertionSort _ _).mem_iff.mpr (List.mem_filterMap.mpr ⟨pay, member, shown⟩)

/-- In every run, from a database without payments, that applies no settlement to a failed payment:
the money of every captured payment is visible. A payment is captured where a settlement of its
amount is recorded for it, whether its booking then still waits or not. The condition is on the run
alone; a single settlement after a failure is enough to lose sight of the money, and the villa's run
below shows it. -/
theorem captured_money_visible [PostgresServer] (env : PayEnvironment) {start : Db}
    (opening : start.Unpaid) (run : List Transaction)
    (unfailed : ¬ Happened env start run Transaction.CapturesFailed) (id : Uuid)
    (captured : Happened env start run fun t db => t.Captures id db) :
    ∃ pay booking, MoneyVisible env start run id pay booking := by
  have ledger := ledger_runAll opening run unfailed
  obtain ⟨pay, member, rfl, paid⟩ := ledger.seen id captured
  obtain ⟨booking, found, unlinked, placed⟩ := ledger.booked pay member
  have sameId := Db.bookingById_id found
  have status : (runAll env run start).bookingStatus pay.bookingId = some booking.status := by
    rw [Db.bookingStatus, found, Option.map_some]
  have listed : booking.status ∈ LAPSED_STATUSES →
      (¬ Happened env start run fun t _ => t.Marks pay.id) →
      ∃ row ∈ listLapsed booking.tenantId (runAll env run start), row.paymentId = pay.id := by
    intro lapsed unmarked
    refine mem_listLapsed member found placed paid ?_ lapsed
    by_contra handled
    exact unmarked (ledger.marked pay member handled)
  refine ⟨pay, booking, Table.byKey_of_mem ledger.paymentIds member, paid, found, ?_,
    fun tenantId response after cancelled =>
      cancel_refund ⟨pay, member, sameId.symm, paid⟩ cancelled⟩
  cases held : booking.status with
  | pendingPayment => exact absurd (held ▸ status) (ledger.unheld pay member paid)
  | confirmed =>
    refine Or.inl ⟨rfl, ?_⟩
    obtain ⟨payer, payerMember, sameBooking, payerPaid, confirms⟩ :=
      ledger.confirmed pay member (held ▸ status)
    have same : payer.id = pay.id :=
      ledger.sole payer payerMember pay member sameBooking (by rw [payerPaid]; decide)
        (by rw [paid]; decide)
    rw [same, ← sameId] at confirms
    exact confirms
  | cancelled => exact Or.inr ⟨by decide, fun unmarked => listed (by rw [held]; decide) unmarked⟩
  | expired => exact Or.inr ⟨by decide, fun unmarked => listed (by rw [held]; decide) unmarked⟩

/-! ### The villa's deposit -/

attribute [local instance] PostgresServer.uncompressed

/-- The villa with the hold and the tenant's credential, before its first payment. -/
def villaUnpaid : Db := { villaPending with payment := [] }

/-- Snap's answer to a session request. -/
def snapSession : HttpResponse :=
  .answered 201 (some (.object [
    ("token", .string "snap"), ("redirect_url", .string "https://snap")]))

/-- The guest's pay step mints the deposit. -/
theorem villaUnpaid_minted :
    (Transaction.pay 1 1 snapSession 0).run villaEnvironment villaUnpaid = villaPending := by
  have response : toResponse villaEnvironment.isUrl "midtrans" ⟨"snap", "https://snap"⟩ 500000
      1000000 = .ok ⟨"midtrans", "snap", "https://snap", 500000, true⟩ := by
    decide +kernel
  show Answer.database ((toResponse villaEnvironment.isUrl "midtrans" ⟨"snap", "https://snap"⟩
    500000 1000000).map fun response => (response, villaPending)) villaUnpaid = villaPending
  rw [response]
  rfl

theorem villaUnpaid_unpaid : villaUnpaid.Unpaid where
  bookingIds := by decide
  holds := villaHeld_unlinked
  payment := rfl

/-- The delivery of a notification about the deposit. -/
def VillaNotice.settle (notice : VillaNotice) : Transaction :=
  .settleEvent "midtrans" (notice.push.received (midtransGateway villaDigest)
    villaEnvironment.decrypt villaPending)

theorem VillaNotice.settle_eq (notice : VillaNotice) :
    notice.settle = .settleEvent "midtrans" (.ok (some notice.event)) := by
  rw [VillaNotice.settle, notice.received]

theorem VillaNotice.captures {notice : VillaNotice}
    (settlement : notice.event.outcome = .settlement) {db : Db} {standing : Standing}
    (stands : db.Stands villaPayment standing)
    (unrecorded : notice.event.providerEventId ∉ db.recordedIds "midtrans") :
    notice.settle.Captures 1 db := by
  refine ⟨"midtrans", notice.event, { villaPayment with status := standing.1 }, notice.settle_eq,
    ?_, rfl, ⟨settlement, rfl⟩, notice.storable, not_not.mp unrecorded⟩
  rw [ParsedPaymentEvent.payment, notice.named]
  exact stands.row

/-- The deposit is minted and settled, and its money is visible. -/
theorem captured_money_visible_villa :
    ∃ pay booking, MoneyVisible villaEnvironment villaUnpaid
      [.pay 1 1 snapSession 0, villaSettled.settle] 1 pay booking := by
  refine captured_money_visible villaEnvironment villaUnpaid_unpaid _ ?_ 1 ?_
  · rw [Happened, Runs.happened_cons, Runs.happened_cons, villaUnpaid_minted]
    rintro (⟨_, ⟨_, _, _, same, -⟩, -⟩ | ⟨id, ⟨_, _, pay, -, found, rfl, -⟩, failed⟩ | nothing)
    · cases same
    · obtain ⟨-, known⟩ := mem_of_payment found
      rw [Db.paymentStatus, known, Option.map_some, Option.some.injEq] at failed
      have pending : ∀ row ∈ villaPending.payment, row.status ≠ .failed := by decide
      exact pending pay (mem_of_payment found).1 failed
    · exact Runs.not_happened_nil nothing
  · rw [Happened, Runs.happened_cons, Runs.happened_cons, villaUnpaid_minted]
    refine Or.inr (Or.inl (VillaNotice.captures rfl (runDeliveries_villa []).1 ?_))
    exact (runDeliveries_villa []).2 ▸ List.not_mem_nil

/-- Deliveries about the minted deposit, as transactions of the system. -/
theorem runAll_villa (notices : List VillaNotice) :
    runAll villaEnvironment (notices.map VillaNotice.settle) villaPending =
      runDeliveries (midtransGateway villaDigest) villaEnvironment.decrypt
        (notices.map VillaNotice.push) villaPending := by
  have bring : List.Forall₂ (fun delivery event =>
      delivery.received (midtransGateway villaDigest) villaEnvironment.decrypt villaPending =
        .ok (some event)) (notices.map VillaNotice.push) (notices.map VillaNotice.event) := by
    rw [List.forall₂_map_left_iff, List.forall₂_map_right_iff, List.forall₂_same]
    exact fun notice _ => notice.received
  rw [runDeliveries_events bring, runAll, Runs.final, List.foldl_map, List.foldl_map]
  congr 1
  funext db notice
  rw [notice.settle_eq]
  rfl

/-- The deposit is minted, an attempt is denied, and a second one settles: the money was
captured, the booking is confirmed, and the payment is still failed. -/
theorem captured_after_denial :
    let run := [.pay 1 1 snapSession 0, villaDenied.settle, villaSettled.settle]
    (Happened villaEnvironment villaUnpaid run fun t db => t.Captures 1 db) ∧
      (runAll villaEnvironment run villaUnpaid).paymentStatus 1 = some .failed ∧
      (runAll villaEnvironment run villaUnpaid).bookingStatus 1 = some .confirmed ∧
      ¬ ∃ pay booking, MoneyVisible villaEnvironment villaUnpaid run 1 pay booking := by
  intro run
  have final : runAll villaEnvironment run villaUnpaid =
      runDeliveries (midtransGateway villaDigest) villaEnvironment.decrypt
        ([villaDenied, villaSettled].map VillaNotice.push) villaPending := by
    rw [← runAll_villa, runAll_cons, villaUnpaid_minted, List.map_cons, List.map_cons,
      List.map_nil]
  have denied := runDeliveries_villa [villaDenied]
  have statuses : (villaConsumed [villaDenied, villaSettled]).1 = (.failed, .confirmed) := by
    decide +kernel
  have stands := (runDeliveries_villa [villaDenied, villaSettled]).1
  rw [statuses, ← final] at stands
  refine ⟨?_, stands.paymentStatus, stands.booking, ?_⟩
  · rw [Happened, Runs.happened_cons, Runs.happened_cons, Runs.happened_cons, villaUnpaid_minted]
    have second : (villaDenied.settle).run villaEnvironment villaPending =
        runDeliveries (midtransGateway villaDigest) villaEnvironment.decrypt
          ([villaDenied].map VillaNotice.push) villaPending := by
      rw [← runAll_villa, List.map_cons, List.map_nil, runAll_cons, runAll_nil]
    rw [second]
    refine Or.inr (Or.inr (Or.inl (VillaNotice.captures rfl denied.1 ?_)))
    rw [denied.2]
    show ¬ villaSettled.event.providerEventId ∈ (villaConsumed [villaDenied]).2
    decide +kernel
  · rintro ⟨pay, booking, visible⟩
    have failed := stands.paymentStatus
    rw [Db.paymentStatus, show villaPayment.id = 1 from rfl, visible.foundPayment, Option.map_some,
      visible.paid] at failed
    cases failed

end Sambung
