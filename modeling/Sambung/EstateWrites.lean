/-
This file proves that the transactions, the syncs and the life of a connection
keep every part of the database sound.

A transaction that is no sync is its writes, each under its guard. A sync is its
loop, and what follows the loop; its connection may have been deleted since it was
read, and then it writes nothing.

For a write the guard is what carries the proof: a status is set on rows that had
another, an insert was accepted over the rows before it, an event is recorded
under a new id. For a sync a landing keeps the parts and so does a filing, and the
rule of `Reconciliation` takes both through the loop. A deletion of connections
makes rows forget them, and a row that has forgotten its connection needs no more
of the index on UIDs than it did before.
-/

import Sambung.Estate
import Sambung.Ledger

namespace Sambung

variable {db after : Db}

/-! ### Transactions -/

section Transactions

variable {t : Transaction}

/-- No write deletes a booking, so a payment still finds the booking it was made for. -/
theorem Write.bookingIds [PostgresServer] (write : Write t db after) :
    ∀ id ∈ db.booking.map Booking.id, id ∈ after.booking.map Booking.id := by
  intro id member
  obtain ⟨row, stored, rfl⟩ := List.mem_map.mp member
  cases found : Table.byKey Booking.id row.id db.booking with
  | none => exact absurd rfl (Table.byKey_eq_none.mp found row stored)
  | some earlier =>
    obtain ⟨later, foundLater, -⟩ := write.bookingsStep.kept row.id earlier found
    obtain ⟨laterMember, sameId⟩ := Table.mem_of_byKey foundLater
    exact List.mem_map.mpr ⟨later, laterMember, sameId⟩

/-- Every write leaves UIDs that can be stored. -/
theorem Write.uids [PostgresServer] (write : Write t db after)
    (uids : ∀ row ∈ db.booking, ∀ uid ∈ row.externalUid, pgText uid) :
    ∀ row ∈ after.booking, ∀ uid ∈ row.externalUid, pgText uid := by
  have inserted : ∀ {row : Booking}, Inserted db after row →
      ∀ other ∈ after.booking, ∀ uid ∈ other.externalUid, pgText uid := by
    intro row inserted other member uid named
    rw [inserted.stored] at member
    obtain earlier | last := List.mem_append.mp member
    · exact uids other earlier uid named
    · rw [List.mem_singleton.mp last] at named
      have texts := (Db.bookingRefusal_eq_none.mp inserted.accepted).1
      refine List.all_eq_true.mp texts uid ?_
      rw [Booking.texts, named]
      exact List.mem_append_right _ List.mem_cons_self
  cases write with
  | expire condition pending => exact Table.forall_updateWhere uids fun _ _ _ kept => kept
  | book row accepted unlinked status => exact inserted accepted
  | cancel tenantId id => exact Table.forall_updateWhere uids fun _ _ _ kept => kept
  | settle provider event pay found recordable =>
    rw [applyOutcome_database]
    split
    · cases event.outcome with
      | settlement => exact Table.forall_updateWhere uids fun _ _ _ kept => kept
      | failure => exact uids
      | pending => exact uids
      | ignore => exact uids
    · exact uids
  | land conn events faults now event member checkIn checkOut landed =>
    cases landed with
    | inserted id absent stored => exact inserted stored
    | moved existing existingMember imported checked accepted stored =>
      rw [stored]
      exact Table.forall_updateWhere uids fun _ _ _ kept => kept
  | withdraw conn events faults now =>
    exact Table.forall_updateWhere uids fun _ _ _ kept => kept
  | inbox => exact uids
  | connection => exact uids
  | mint => exact uids
  | handled => exact uids

/-- A write of no sync keeps the constraints of the booking table. -/
theorem Write.lawful [PostgresServer] (write : Write t db after) (other : ¬ t.Syncs)
    (lawful : db.BookingsLawful) :
    after.BookingsLawful := by
  cases write with
  | expire condition pending =>
    exact setBookingStatus_lawful lawful fun _ _ occupying =>
      absurd occupying BookingStatus.not_occupying_expired
  | book row inserted unlinked status => exact inserted.lawful lawful
  | cancel tenantId id =>
    exact setBookingStatus_lawful lawful fun _ _ occupying =>
      absurd occupying BookingStatus.not_occupying_cancelled
  | settle provider event pay found recordable =>
    have recorded : (db.recordEvent (event.row provider pay.bookingId)).BookingsLawful :=
      ⟨lawful.keyed, lawful.checked, lawful.entered, lawful.indexed, lawful.linked⟩
    have settled : ∀ status, ((db.recordEvent (event.row provider pay.bookingId)).settlePayment
        pay.id status).BookingsLawful := fun _ =>
      ⟨lawful.keyed, lawful.checked, lawful.entered, lawful.indexed, lawful.linked⟩
    rw [applyOutcome_database]
    split
    · cases event.outcome with
      | settlement =>
        refine setBookingStatus_lawful (settled .paid) fun row confirmable _ => ?_
        rw [confirmable.2]
        decide
      | failure => exact settled .failed
      | pending => exact recorded
      | ignore => exact recorded
    · exact recorded
  | mint => exact ⟨lawful.keyed, lawful.checked, lawful.entered, lawful.indexed, lawful.linked⟩
  | handled => exact ⟨lawful.keyed, lawful.checked, lawful.entered, lawful.indexed, lawful.linked⟩
  | land => exact absurd trivial other
  | withdraw => exact absurd trivial other
  | inbox => exact absurd trivial other
  | connection => exact absurd trivial other

/-- A write of no sync leaves the inventory, the connections and the inbox. -/
theorem Write.tables [PostgresServer] (write : Write t db after) (other : ¬ t.Syncs) :
    ∃ bookings payments paymentEvents, after = { db with
      booking := bookings, payment := payments, paymentEvent := paymentEvents } := by
  cases write with
  | expire => exact ⟨_, _, _, rfl⟩
  | book row inserted unlinked status => exact ⟨_, _, _, inserted.stored⟩
  | cancel => exact ⟨_, _, _, rfl⟩
  | settle provider event pay found recordable =>
    rw [applyOutcome_database]
    split
    · cases event.outcome with
      | settlement => exact ⟨_, _, _, rfl⟩
      | failure => exact ⟨_, _, _, rfl⟩
      | pending => exact ⟨_, _, _, rfl⟩
      | ignore => exact ⟨_, _, _, rfl⟩
    · exact ⟨_, _, _, rfl⟩
  | mint => exact ⟨_, _, _, rfl⟩
  | handled => exact ⟨_, _, _, rfl⟩
  | land => exact absurd trivial other
  | withdraw => exact absurd trivial other
  | inbox => exact absurd trivial other
  | connection => exact absurd trivial other

/-- An update of payments that makes none pending, and changes neither ids nor bookings nor amounts,
keeps the payments sound. -/
theorem Db.PaymentsSound.updatePayments (sound : db.PaymentsSound) {condition : Payment → Prop}
    [DecidablePred condition] {change : Payment → Payment}
    (payments : after.payment = Table.updateWhere condition change db.payment)
    (paymentEvents : after.paymentEvent = db.paymentEvent)
    (bookings : after.booking.map Booking.id = db.booking.map Booking.id)
    (kept : ∀ pay, (change pay).id = pay.id ∧ (change pay).bookingId = pay.bookingId ∧
      (change pay).amountIdr = pay.amountIdr)
    (pending : ∀ pay, condition pay → (change pay).status = .pending → pay.status = .pending) :
    after.PaymentsSound where
  keyed := by
    rw [payments, Table.map_updateWhere Payment.id fun pay _ => (kept pay).1]
    exact sound.keyed
  checked := by
    rw [payments]
    refine Table.forall_updateWhere sound.checked fun pay _ _ nonneg => ?_
    rw [(kept pay).2.2]
    exact nonneg
  payments := by
    rw [payments, bookings]
    refine Table.forall_updateWhere sound.payments fun pay _ _ placed => ?_
    rw [(kept pay).2.1]
    exact placed
  single := by
    rw [payments]
    have before : ∀ pay : Payment, (if condition pay then change pay else pay).bookingId =
        pay.bookingId ∧ ((if condition pay then change pay else pay).status = .pending →
          pay.status = .pending) := by
      intro pay
      split
      · rename_i matched
        exact ⟨(kept pay).2.1, pending pay matched⟩
      · exact ⟨rfl, id⟩
    refine Table.pairwise_updateWhere sound.single fun first second apart both => apart ?_
    rw [(before first).1, (before second).1] at both
    exact ⟨both.1, (before first).2 both.2.1, (before second).2 both.2.2⟩
  events := by rw [paymentEvents, bookings]; exact sound.events
  once := by rw [paymentEvents]; exact sound.once

/-- Recording an event of a payment whose id is new. -/
theorem Db.PaymentsSound.recordEvent [PostgresServer] (sound : db.PaymentsSound) {provider : String}
    {event : ParsedPaymentEvent} {pay : Payment} (found : event.payment db = some pay)
    (recordable : event.Recordable provider db) :
    (db.recordEvent (event.row provider pay.bookingId)).PaymentsSound where
  keyed := sound.keyed
  checked := sound.checked
  payments := sound.payments
  single := sound.single
  events recorded member id named := by
    obtain earlier | last := List.mem_append.mp member
    · exact sound.events recorded earlier id named
    · rw [List.mem_singleton.mp last] at named
      obtain ⟨orderId, -, known⟩ := Option.bind_eq_some_iff.mp found
      rw [← Option.some.inj named]
      exact sound.payments pay (Table.mem_of_byKey known).1
  once := by
    refine List.pairwise_append.mpr ⟨sound.once, List.pairwise_singleton _ _, ?_⟩
    intro first member second last same
    rw [List.mem_singleton.mp last] at same
    exact recordable.2 first member same

/-- Every write of no sync keeps the payments sound. -/
theorem Write.paymentsSound [PostgresServer] (write : Write t db after) (other : ¬ t.Syncs)
    (sound : db.PaymentsSound) : after.PaymentsSound := by
  have bookingIds := write.bookingIds
  cases write with
  | expire => exact sound.congr rfl rfl bookingIds
  | book row inserted unlinked status =>
    exact sound.congr (by rw [inserted.stored]) (by rw [inserted.stored]) bookingIds
  | cancel => exact sound.congr rfl rfl bookingIds
  | settle provider event pay found recordable =>
    have recorded := sound.recordEvent found recordable
    have settled : ∀ status, status ≠ .pending →
        ((db.recordEvent (event.row provider pay.bookingId)).settlePayment
          pay.id status).PaymentsSound := fun status decided =>
      recorded.updatePayments rfl rfl rfl (fun _ => ⟨rfl, rfl, rfl⟩) fun _ _ pending =>
        absurd pending decided
    rw [applyOutcome_database] at bookingIds ⊢
    split
    · cases event.outcome with
      | settlement =>
        refine (settled .paid (by decide)).congr rfl rfl fun id member => ?_
        rw [Db.confirmBooking, map_id_setBookingStatus]
        exact member
      | failure => exact settled .failed (by decide)
      | pending => exact recorded
      | ignore => exact recorded
    · exact recorded
  | mint tenantId bookingId snap now row fresh ofBooking pending unhandled checked payable sole =>
    obtain ⟨booking, stored, sameId, -⟩ := payable
    refine ⟨Table.nodup_map_append sound.keyed fresh, ?_, ?_, ?_, sound.events, sound.once⟩
    · intro pay member
      obtain earlier | last := List.mem_append.mp member
      · exact sound.checked pay earlier
      · rw [List.mem_singleton.mp last]
        exact checked
    · intro pay member
      obtain earlier | last := List.mem_append.mp member
      · exact sound.payments pay earlier
      · rw [List.mem_singleton.mp last, ofBooking, ← sameId]
        exact List.mem_map_of_mem stored
    · refine List.pairwise_append.mpr ⟨sound.single, List.pairwise_singleton _ _, ?_⟩
      rintro first member second last ⟨sameBooking, firstPending, -⟩
      rw [List.mem_singleton.mp last, ofBooking] at sameBooking
      exact sole first member sameBooking firstPending
  | handled tenantId id now =>
    exact sound.updatePayments rfl rfl rfl (fun _ => ⟨rfl, rfl, rfl⟩) fun _ _ pending => pending
  | land => exact absurd trivial other
  | withdraw => exact absurd trivial other
  | inbox => exact absurd trivial other
  | connection => exact absurd trivial other

/-- A write of bookings and payments keeps every part where it keeps the constraints of the two, and
is of a sync of the connection as it stands. -/
theorem Write.sound_of [PostgresServer] (write : Write t db after) (sound : db.Sound)
    (agrees : ∀ conn ∈ db.channelConnection, t.Agrees conn) (lawful : after.BookingsLawful)
    (payments : after.PaymentsSound)
    (tables : ∃ bookings payments paymentEvents, after = { db with
      booking := bookings, payment := payments, paymentEvent := paymentEvents }) :
    after.Sound := by
  have uids := write.uids sound.bookings.uids
  have imports : ∀ conn ∈ db.channelConnection, after.ImportsOwned conn := fun conn member =>
    write.importsOwned (agrees conn member) (sound.bookings.imports conn member)
  obtain ⟨bookings, payment, paymentEvents, stored⟩ := tables
  refine ⟨?_, ?_, ⟨lawful, ?_, uids⟩, ?_, payments⟩
  · exact sound.inventory.congr (by rw [stored]) (by rw [stored])
  · exact sound.connections.congr (by rw [stored]) fun _ _ => unitExists_of_eq (by rw [stored])
  · have same : after.channelConnection = db.channelConnection := by rw [stored]
    rw [same]
    exact imports
  · exact sound.conflicts.congr (by rw [stored]) (by rw [stored])

/-- A transaction that is no sync keeps every part. -/
theorem Transaction.run_sound [PostgresServer] (env : PayEnvironment) (other : ¬ t.Syncs)
    (sound : db.Sound) :
    KeptSound db (t.run env db) := by
  have agrees : ∀ conn : ChannelConnection, t.Agrees conn := by
    intro conn
    cases t with
    | settleFeed => exact absurd trivial other
    | _ => trivial
  refine Writes.preserve (fun write before => before.trans ?_) (t.run_writes env db) (.refl sound)
  have tables := write.tables other
  have next := write.sound_of before.sound (fun conn _ => agrees conn)
    (write.lawful other before.sound.bookings.lawful)
    (write.paymentsSound other before.sound.payments) tables
  obtain ⟨bookings, payments, paymentEvents, stored⟩ := tables
  exact .of_tables next (by rw [stored]) (by rw [stored]) (by rw [stored])

end Transactions

/-! ### Syncs -/

theorem Db.ImportsOwned.of_same {conn other : ChannelConnection} (owned : db.ImportsOwned conn)
    (same : conn.Same other) : db.ImportsOwned other := by
  intro row member linked
  have own := owned row member (same.id ▸ linked)
  exact ⟨own.tenant.trans same.tenant, own.unit.trans same.unit, own.uid, own.status⟩

/-- An update of a connection that names the same unit and channel after it. -/
theorem Db.Sound.updateConnection [PostgresServer] {conn : ChannelConnection}
    {change : ChannelConnection → ChannelConnection} (sound : db.Sound)
    (same : ∀ row : ChannelConnection, row.Same (change row))
    (channel : ∀ row, (change row).channel = row.channel) :
    KeptSound db (db.updateConnection conn change) := by
  have rows : ∀ row ∈ (db.updateConnection conn change).channelConnection,
      ∃ source ∈ db.channelConnection, source.Same row := by
    intro row member
    obtain ⟨source, sourceMember, rfl⟩ := Table.mem_updateWhere.mp member
    refine ⟨source, sourceMember, ?_⟩
    split
    · exact same source
    · exact ⟨rfl, rfl, rfl⟩
  refine ⟨⟨sound.inventory.congr rfl rfl, ⟨?_, ?_, ?_⟩, ⟨?_, ?_, sound.bookings.uids⟩,
    ⟨sound.conflicts.inbox.congr rfl, ?_, sound.conflicts.stays⟩,
    sound.payments.congr rfl rfl fun _ => id⟩, fun _ _ => id, rfl, rows⟩
  · have ids : (db.updateConnection conn change).channelConnection.map ChannelConnection.id =
        db.channelConnection.map ChannelConnection.id :=
      Table.map_updateWhere ChannelConnection.id fun row _ => (same row).id.symm
    rw [ids]
    exact sound.connections.keyed
  · have before : ∀ row : ChannelConnection,
        (if row.id = conn.id ∧ row.tenantId = conn.tenantId then change row else row).unitId =
            row.unitId ∧
          (if row.id = conn.id ∧ row.tenantId = conn.tenantId then change row else row).channel =
            row.channel := by
      intro row
      split
      · exact ⟨(same row).unit.symm, channel row⟩
      · exact ⟨rfl, rfl⟩
    refine Table.pairwise_updateWhere sound.connections.single fun first second apart both => ?_
    rw [(before first).1, (before first).2, (before second).1, (before second).2] at both
    exact apart both
  · intro row member
    obtain ⟨source, sourceMember, kept⟩ := rows row member
    rw [← kept.unit, ← kept.tenant]
    exact sound.connections.units source sourceMember
  · exact updateConnection_lawful (fun row => (same row).id.symm) sound.bookings.lawful
  · intro row member
    obtain ⟨source, sourceMember, kept⟩ := rows row member
    exact (sound.bookings.imports source sourceMember).of_same kept
  · intro row member
    obtain ⟨source, sourceMember, sameId, sameUnit, sameTenant⟩ :=
      sound.conflicts.filed row member
    refine ⟨_, Table.mem_updateWhere.mpr ⟨source, sourceMember, rfl⟩, ?_⟩
    split
    · rw [← (same source).id, ← (same source).unit, ← (same source).tenant]
      exact ⟨sameId, sameUnit, sameTenant⟩
    · exact ⟨sameId, sameUnit, sameTenant⟩

section Sync

variable {conn row : ChannelConnection}

/-- Over a sound database a stored row of the connection registers it: its rows are in its unit,
under UIDs that can be stored. -/
theorem Db.Sound.registered [PostgresServer] (sound : db.Sound)
    (member : row ∈ db.channelConnection) (same : row.Same conn) : conn.Registered db where
  connection := ⟨row, member, same.id⟩
  units := sound.inventory.units
  unit := by
    obtain ⟨unit, stored, sameUnit, sameTenant⟩ := sound.connections.units row member
    exact ⟨unit, stored, sameUnit.trans same.unit, sameTenant.trans same.tenant⟩
  imports := (sound.bookings.imports row member).of_same same
  conflicts := by
    intro conflict conflictMember ofConnection
    obtain ⟨other, otherMember, sameId, sameUnit, sameTenant⟩ :=
      sound.conflicts.filed conflict conflictMember
    have isRow : other = row := Table.eq_of_key sound.connections.keyed otherMember member
      (sameId.trans (ofConnection.trans same.id.symm))
    rw [sameUnit, sameTenant, isRow]
    exact ⟨same.unit, same.tenant⟩

/-- A sync of a connection that is stored agrees with every connection. -/
theorem Db.ConnectionsSound.agrees (sound : db.ConnectionsSound)
    (member : row ∈ db.channelConnection) (same : row.Same conn)
    (feed : Except String (List ImportedEvent)) (faults : Nat → EventFault) (now : Instant) :
    ∀ other ∈ db.channelConnection, (Transaction.settleFeed conn feed faults now).Agrees other := by
  intro other otherMember sameId
  have isRow : other = row :=
    Table.eq_of_key sound.keyed otherMember member (sameId.symm.trans same.id.symm)
  rw [isRow]
  exact same

theorem recordConflict_sound (uuids : UuidSource) (event : ImportedEvent) (now : Instant)
    (faulted : Bool) (sound : db.ConflictsSound) (member : row ∈ db.channelConnection)
    (same : row.Same conn) : (recordConflict uuids conn event now faulted db).ConflictsSound := by
  have inbox := recordConflict_inboxSound uuids conn event now faulted sound.inbox
  rw [recordConflict] at inbox ⊢
  by_cases bound : faulted ∨ ¬ pgText event.uid
  · rw [if_pos bound]
    exact sound
  · rw [if_neg bound] at inbox ⊢
    cases stay : bindStay event.start event.stop with
    | error thrown => exact sound
    | ok dates =>
      rw [stay] at inbox
      dsimp only at inbox ⊢
      by_cases ordered : dates.1 < dates.2
      · rw [if_neg (not_not.mpr ordered)] at inbox ⊢
        by_cases filed : ∃ other ∈ db.syncConflict, other.FiledAs conn.id event.uid
        · rw [if_pos filed] at inbox ⊢
          exact ⟨inbox, Table.forall_updateWhere sound.filed fun _ _ _ kept => kept,
            Table.forall_updateWhere sound.stays fun _ _ _ _ => ordered⟩
        · rw [if_neg filed] at inbox ⊢
          split
          · rename_i stored
            rw [if_pos stored] at inbox
            refine ⟨inbox, fun other otherMember => ?_, fun other otherMember => ?_⟩
            · obtain earlier | last := List.mem_append.mp otherMember
              · exact sound.filed other earlier
              · rw [List.mem_singleton.mp last]
                exact ⟨row, member, same.id, same.unit.symm, same.tenant.symm⟩
            · obtain earlier | last := List.mem_append.mp otherMember
              · exact sound.stays other earlier
              · rw [List.mem_singleton.mp last]
                exact ordered
          · exact sound
      · rw [if_pos ordered]
        exact sound

/-- A landing keeps every part, where the connection it is made for is stored as the sync read it.
-/
theorem Landed.sound [PostgresServer] {event : ImportedEvent} {checkIn checkOut : PgDate}
    (landed : Landed conn event checkIn checkOut db after) (sound : db.Sound)
    (member : row ∈ db.channelConnection) (same : row.Same conn) : after.Sound := by
  have write : Write (.settleFeed conn (.ok [event]) (fun _ => .none) 0) db after :=
    .land conn [event] (fun _ => .none) 0 event List.mem_cons_self checkIn checkOut landed
  have tables : ∃ bookings, after = { db with booking := bookings } := by
    cases landed with
    | inserted id absent stored => exact ⟨_, stored.stored⟩
    | moved existing existingMember imported checked accepted stored => exact ⟨_, stored⟩
  have bookingIds := write.bookingIds
  obtain ⟨bookings, stored⟩ := tables
  exact write.sound_of sound (sound.connections.agrees member same _ _ _)
    (landed.lawful sound.bookings.lawful)
    (sound.payments.congr (by rw [stored]) (by rw [stored]) bookingIds) ⟨bookings, _, _, stored⟩

/-- The loop keeps every part of the database and leaves the connections as they are. -/
theorem importAll_sound [PostgresServer] (uuids : UuidSource) (events : List ImportedEvent)
    (faults : Nat → EventFault) (now : Instant) (sound : db.Sound)
    (member : row ∈ db.channelConnection) (same : row.Same conn) :
    (importAll uuids conn events faults now db).db.Sound := by
  have kept : (importAll uuids conn events faults now db).db.Sound ∧
      (importAll uuids conn events faults now db).db.channelConnection = db.channelConnection := by
    refine importAll_induction (fun before => before.Sound ∧
      before.channelConnection = db.channelConnection) ⟨sound, rfl⟩ ?_ ?_
    · rintro event - checkIn checkOut before next landed ⟨soundBefore, connections⟩
      refine ⟨landed.sound soundBefore (connections ▸ member) same, ?_⟩
      rw [← connections]
      cases landed with
      | inserted id absent stored => rw [stored.stored]
      | moved existing existingMember imported checked accepted stored => rw [stored]
    · rintro event - faulted before ⟨soundBefore, connections⟩
      have conflicts := recordConflict_sound uuids event now faulted soundBefore.conflicts
        (connections ▸ member) same
      obtain ⟨rows, stored⟩ : ∃ rows, recordConflict uuids conn event now faulted before =
          { before with syncConflict := rows } := by
        cases recordConflict_filing uuids conn event now faulted before with
        | nothing same => exact ⟨_, same⟩
        | redetected checkIn checkOut stored => exact ⟨_, stored⟩
        | filed checkIn checkOut id fresh stored => exact ⟨_, stored⟩
      rw [stored] at conflicts ⊢
      exact ⟨soundBefore.withConflicts conflicts, connections⟩
  exact kept.1

/-- A sync of a stored connection keeps every part. -/
theorem settleFeed_sound [PostgresServer] (uuids : UuidSource)
    (feed : Except String (List ImportedEvent)) (faults : Nat → EventFault) (now : Instant)
    (sound : db.Sound) (member : row ∈ db.channelConnection) (same : row.Same conn) :
    KeptSound db ((settleFeed uuids conn feed faults now db).database db) := by
  cases feed with
  | error error =>
    exact sound.updateConnection (fun _ => ⟨rfl, rfl, rfl⟩) fun _ => rfl
  | ok events =>
    show KeptSound db ((reconcileFeed uuids conn events faults now db).database db)
    rw [reconcileFeed_database]
    split
    · have loop : (importAll uuids conn events faults now db).db.Sound :=
        importAll_sound uuids events faults now sound member same
      obtain ⟨bookings, conflicts, tables⟩ := importAll_tables uuids conn faults now db events
      have stored : row ∈ (importAll uuids conn events faults now db).db.channelConnection := by
        rw [tables]
        exact member
      have read : KeptSound db (importAll uuids conn events faults now db).db := by
        rw [tables] at loop ⊢
        exact .of_tables loop rfl rfl rfl
      have withdrawn : KeptSound (importAll uuids conn events faults now db).db
          (withdrawAbsent conn events (importAll uuids conn events faults now db).db) := by
        rw [withdrawAbsent]
        split
        · exact .refl loop
        · refine .of_tables ?_ rfl rfl rfl
          refine Write.sound_of (.withdraw conn events faults now) loop
            (loop.connections.agrees stored same _ _ _) ?_ ?_ ⟨_, _, _, rfl⟩
          · exact setBookingStatus_lawful loop.bookings.lawful fun _ _ occupying =>
              absurd occupying BookingStatus.not_occupying_cancelled
          · refine loop.payments.congr rfl rfl fun id listed => ?_
            rw [map_id_setBookingStatus]
            exact listed
      have closed : KeptSound
          (withdrawAbsent conn events (importAll uuids conn events faults now db).db)
          (resolveHealed conn events (importAll uuids conn events faults now db).notImportedUids now
            (withdrawAbsent conn events (importAll uuids conn events faults now db).db)) := by
        rw [resolveHealed]
        split
        · exact .refl withdrawn.sound
        · refine .of_tables (withdrawn.sound.withConflicts ⟨?_, ?_, ?_⟩) rfl rfl rfl
          · refine withdrawn.sound.conflicts.inbox.updateWhere rfl (fun _ => ⟨rfl, rfl, rfl⟩)
              fun _ _ _ => ?_
            simp [SyncConflict.resolve]
          · exact Table.forall_updateWhere withdrawn.sound.conflicts.filed fun _ _ _ kept => kept
          · exact Table.forall_updateWhere withdrawn.sound.conflicts.stays fun _ _ _ kept => kept
      refine read.trans (withdrawn.trans (closed.trans ?_))
      exact closed.sound.updateConnection (fun _ => ⟨rfl, rfl, rfl⟩) fun _ => rfl
    · exact .refl sound

/-- An upsert lands for a stored connection only: the booking's foreign key names it. -/
theorem Landed.stored [PostgresServer] {event : ImportedEvent} {checkIn checkOut : PgDate}
    (landed : Landed conn event checkIn checkOut db after) (lawful : db.BookingsLawful) :
    ∃ row ∈ db.channelConnection, row.id = conn.id := by
  cases landed with
  | inserted id absent stored =>
    obtain ⟨-, -, -, -, keys⟩ := Db.bookingRefusal_eq_none.mp stored.accepted
    exact (Db.failedForeignKey_eq_none.mp keys).2 conn.id rfl
  | moved existing existingMember imported checked accepted stored =>
    exact (Db.failedForeignKey_eq_none.mp (lawful.linked existing existingMember)).2 conn.id
      imported.1

/-- A conflict is filed for a stored connection only. -/
theorem recordConflict_deleted (uuids : UuidSource) (event : ImportedEvent) (now : Instant)
    (faulted : Bool) (deleted : ∀ row ∈ db.channelConnection, row.id ≠ conn.id)
    (unfiled : ∀ row ∈ db.syncConflict, ¬ row.FiledAs conn.id event.uid) :
    recordConflict uuids conn event now faulted db = db := by
  rw [recordConflict]
  split
  · rfl
  · cases bindStay event.start event.stop with
    | error thrown => rfl
    | ok dates =>
      have absent : ¬ ∃ row ∈ db.syncConflict, row.FiledAs conn.id event.uid := by
        rintro ⟨row, member, filed⟩
        exact unfiled row member filed
      have unkeyed : ¬ ((∃ unit ∈ db.unit, unit.id = conn.unitId ∧ unit.tenantId = conn.tenantId) ∧
          ∃ connection ∈ db.channelConnection, connection.id = conn.id) := by
        rintro ⟨-, row, member, same⟩
        exact deleted row member same
      dsimp only
      rw [if_neg absent, if_neg unkeyed]
      exact ite_self db

/-- A sync that finds its connection deleted changes nothing. -/
theorem settleFeed_deleted [PostgresServer] (uuids : UuidSource)
    (feed : Except String (List ImportedEvent)) (faults : Nat → EventFault) (now : Instant)
    (sound : db.Sound) (deleted : ∀ row ∈ db.channelConnection, row.id ≠ conn.id) :
    (settleFeed uuids conn feed faults now db).database db = db := by
  have unstamped : ∀ change, db.updateConnection conn change = db := fun change => by
    rw [Db.updateConnection, Table.updateWhere_eq_self fun row member matched =>
      deleted row member matched.1]
  have unlinked : ∀ row ∈ db.booking, row.channelConnectionId ≠ some conn.id := by
    intro row member linked
    obtain ⟨other, stored, same⟩ :=
      (Db.failedForeignKey_eq_none.mp (sound.bookings.lawful.linked row member)).2 conn.id linked
    exact deleted other stored same
  have unfiled : ∀ row ∈ db.syncConflict, row.channelConnectionId ≠ conn.id := by
    intro row member filed
    obtain ⟨other, stored, same, -⟩ := sound.conflicts.filed row member
    exact deleted other stored (same.trans filed)
  cases feed with
  | error error => exact unstamped _
  | ok events =>
    show (reconcileFeed uuids conn events faults now db).database db = db
    rw [reconcileFeed_database]
    split
    · have loop : (importAll uuids conn events faults now db).db = db := by
        refine importAll_induction (· = db) rfl ?_ ?_
        · rintro event - checkIn checkOut before next landed rfl
          obtain ⟨other, stored, same⟩ := landed.stored sound.bookings.lawful
          exact absurd same (deleted other stored)
        · rintro event - faulted before rfl
          exact recordConflict_deleted uuids event now faulted deleted fun row member filed =>
            unfiled row member filed.1
      rw [reconciled, loop, withdrawAbsent, resolveHealed]
      split
      · exact unstamped _
      · rw [Db.setBookingStatus, Table.updateWhere_eq_self fun row member absent =>
          unlinked row member absent.1, Table.updateWhere_eq_self fun row member healed =>
          unfiled row member healed.1]
        exact unstamped _
    · rfl

end Sync

/-! ### Connections -/

/-- A booking still names the connection after the deletion of others. -/
theorem Booking.forget_linked {gone : List Uuid} {row : Booking} {id : Uuid} :
    (row.forget gone).channelConnectionId = some id ↔
      row.channelConnectionId = some id ∧ id ∉ gone := by
  rw [Booking.forget, Option.filter_eq_some_iff, decide_eq_true_eq]

/-- A row whose connection goes needs no more of the index than before. -/
theorem Booking.forget_entered [PostgresServer] {row : Booking} (entered : row.indexRefusal = none)
    (gone : List Uuid) : (row.forget gone).indexRefusal = none := by
  rw [Booking.indexRefusal] at entered ⊢
  have sameUid : (row.forget gone).externalUid = row.externalUid := rfl
  rw [sameUid]
  cases offered : row.externalUid with
  | none => rfl
  | some uid =>
    rw [offered] at entered
    cases link : (row.forget gone).channelConnectionId with
    | some id =>
      rw [(Booking.forget_linked.mp link).1] at entered
      exact entered
    | none =>
      refine indexRefusal_eq_none.mpr ?_
      cases before : row.channelConnectionId with
      | none =>
        rw [before] at entered
        exact indexRefusal_eq_none.mp entered
      | some id =>
        rw [before] at entered
        exact (PostgresServer.indexRowSize_mono (Nat.zero_le 16) [uid]).trans
          (indexRefusal_eq_none.mp entered)

/-- The deletion of connections keeps every part: their conflicts go with them, and the bookings
they imported forget them. -/
theorem Db.Sound.deleteConnections [PostgresServer] (sound : db.Sound) (gone : List Uuid) :
    (db.deleteConnections gone).Sound := by
  have rows : ∀ row ∈ (db.deleteConnections gone).booking,
      ∃ source ∈ db.booking, source.forget gone = row := fun row member => List.mem_map.mp member
  have ids : (db.deleteConnections gone).booking.map Booking.id = db.booking.map Booking.id := by
    rw [Db.deleteConnections, List.map_map]
    rfl
  refine ⟨sound.inventory.congr rfl rfl, ⟨?_, ?_, ?_⟩, ⟨?_, ?_, ?_⟩, ⟨⟨?_, ?_, ?_⟩, ?_, ?_⟩,
    sound.payments.congr rfl rfl fun id member => by rw [ids]; exact member⟩
  · exact sound.connections.keyed.sublist (List.filter_sublist.map _)
  · exact sound.connections.single.sublist List.filter_sublist
  · exact fun conn member => sound.connections.units conn (List.mem_of_mem_filter member)
  · refine Db.bookingsLawful_of (by rw [ids]; exact sound.bookings.lawful.keyed) ?_ ?_ ?_ ?_
    · intro row member
      obtain ⟨source, sourceMember, rfl⟩ := rows row member
      exact sound.bookings.lawful.checked source sourceMember
    · intro row member
      obtain ⟨source, sourceMember, rfl⟩ := rows row member
      exact Booking.forget_entered (sound.bookings.lawful.entered source sourceMember) gone
    · intro first firstMember second secondMember differs
      obtain ⟨firstSource, firstStored, rfl⟩ := rows first firstMember
      obtain ⟨secondSource, secondStored, rfl⟩ := rows second secondMember
      have before := sound.bookings.lawful.apart firstSource firstStored secondSource secondStored
        differs
      refine ⟨?_, before.stay⟩
      rintro ⟨linked, sameLink, sameUid⟩
      obtain ⟨id, link⟩ := Option.isSome_iff_exists.mp linked
      have firstLink := (Booking.forget_linked.mp link).1
      have secondLink := (Booking.forget_linked.mp (sameLink.symm.trans link)).1
      exact before.uid ⟨by rw [firstLink]; rfl, firstLink.trans secondLink.symm, sameUid⟩
    · intro row member
      obtain ⟨source, sourceMember, rfl⟩ := rows row member
      obtain ⟨placed, linked⟩ :=
        Db.failedForeignKey_eq_none.mp (sound.bookings.lawful.linked source sourceMember)
      refine Db.failedForeignKey_eq_none.mpr ⟨placed, fun id named => ?_⟩
      obtain ⟨link, kept⟩ := Booking.forget_linked.mp named
      obtain ⟨conn, stored, rfl⟩ := linked id link
      exact ⟨conn, List.mem_filter.mpr ⟨stored, decide_eq_true kept⟩, rfl⟩
  · intro conn member row rowMember linked
    obtain ⟨source, sourceMember, rfl⟩ := rows row rowMember
    have own := sound.bookings.imports conn (List.mem_of_mem_filter member) source sourceMember
      (Booking.forget_linked.mp linked).1
    exact ⟨own.tenant, own.unit, own.uid, own.status⟩
  · intro row member
    obtain ⟨source, sourceMember, rfl⟩ := rows row member
    exact sound.bookings.uids source sourceMember
  · exact sound.conflicts.inbox.keyed.sublist (List.filter_sublist.map _)
  · exact sound.conflicts.inbox.single.sublist List.filter_sublist
  · exact fun row member => sound.conflicts.inbox.closed row (List.mem_of_mem_filter member)
  · intro row member
    obtain ⟨stored, kept⟩ := List.mem_filter.mp member
    obtain ⟨conn, connStored, same⟩ := sound.conflicts.filed row stored
    refine ⟨conn, List.mem_filter.mpr ⟨connStored, ?_⟩, same⟩
    rw [same.1]
    exact kept
  · exact fun row member => sound.conflicts.stays row (List.mem_of_mem_filter member)

theorem disconnect_database (tenantId id : Uuid) (db : Db) :
    (disconnect tenantId id db).database db =
      if (findConnection tenantId id db).isSome then db.deleteConnections [id] else db := by
  rw [disconnect]
  cases findConnection tenantId id db with
  | none => rfl
  | some conn => rfl

theorem insertConnection_ok {row : ChannelConnection} :
    insertConnection row db = .ok after ↔
      (pgText row.importIcalUrl ∧ row.lastError.all pgText) ∧ ¬ row.Taken db ∧
        unitExists row.tenantId row.unitId db ∧
          after = { db with channelConnection := db.channelConnection ++ [row] } := by
  rw [insertConnection]
  by_cases bindable : pgText row.importIcalUrl ∧ row.lastError.all pgText
  · by_cases taken : row.Taken db
    · simp [bindable, taken]
    · by_cases placed : unitExists row.tenantId row.unitId db
      · simp [bindable, taken, placed, eq_comm]
      · simp [bindable, taken, placed]
  · simp [bindable]

/-- A connect leaves the database, or inserts its row. -/
theorem finishConnect_database (tenantId unitId : Uuid) (dto : CreateChannelConnectionRequest)
    (probe : IcalProbeResult) (now : Instant) (id : Uuid) (db : Db) :
    (finishConnect tenantId unitId dto probe now id db).database db = db ∨
      insertConnection (dto.row tenantId unitId probe now id) db =
        .ok ((finishConnect tenantId unitId dto probe now id db).database db) := by
  rw [finishConnect]
  cases inserted : insertConnection (dto.row tenantId unitId probe now id) db with
  | error thrown => exact .inl rfl
  | ok stored => exact .inr rfl

/-- The insert of a connection whose id no row names keeps every part. -/
theorem insertConnection_sound [PostgresServer] {row : ChannelConnection} (sound : db.Sound)
    (inserted : insertConnection row db = .ok after)
    (fresh : ∀ conn ∈ db.channelConnection, conn.id ≠ row.id) : after.Sound := by
  obtain ⟨-, free, placed, rfl⟩ := insertConnection_ok.mp inserted
  have earlier : ∀ conn ∈ db.channelConnection,
      conn ∈ db.channelConnection ++ [row] := fun conn member => List.mem_append_left _ member
  refine ⟨sound.inventory.congr rfl rfl, ⟨?_, ?_, ?_⟩, ⟨?_, ?_, sound.bookings.uids⟩,
    ⟨sound.conflicts.inbox.congr rfl, ?_, sound.conflicts.stays⟩,
    sound.payments.congr rfl rfl fun _ => id⟩
  · refine Table.nodup_map_append sound.connections.keyed fun listed => ?_
    obtain ⟨conn, member, same⟩ := List.mem_map.mp listed
    exact fresh conn member same
  · refine List.pairwise_append.mpr
      ⟨sound.connections.single, List.pairwise_singleton _ _,
        fun first member second last same => ?_⟩
    rw [List.mem_singleton.mp last] at same
    exact free ⟨first, member, same⟩
  · intro conn member
    obtain stored | last := List.mem_append.mp member
    · exact sound.connections.units conn stored
    · rw [List.mem_singleton.mp last]
      exact placed
  · exact sound.bookings.lawful.congr rfl (fun _ _ => id) fun conn member =>
      ⟨conn, earlier conn member, rfl⟩
  · intro conn member booking bookingMember linked
    obtain stored | last := List.mem_append.mp member
    · exact sound.bookings.imports conn stored booking bookingMember linked
    · rw [List.mem_singleton.mp last] at linked
      obtain ⟨other, stored, same⟩ := (Db.failedForeignKey_eq_none.mp
        (sound.bookings.lawful.linked booking bookingMember)).2 row.id linked
      exact absurd same (fresh other stored)
  · intro conflict member
    obtain ⟨conn, stored, same⟩ := sound.conflicts.filed conflict member
    exact ⟨conn, earlier conn stored, same⟩

/-- A judgement on a conflict keeps every part. -/
theorem dismiss_sound [PostgresServer] (tenantId conflictId : Uuid) (now : Instant)
    (sound : db.Sound) :
    KeptSound db (dismiss tenantId conflictId now db).2 := by
  have stored : (dismiss tenantId conflictId now db).2 = { db with
      syncConflict := (dismiss tenantId conflictId now db).2.syncConflict } := by
    rw [dismiss]
    split
    · rfl
    · split
      · rfl
      · rfl
  rw [stored, dismiss_syncConflict]
  refine .of_tables (sound.withConflicts ⟨?_, ?_, ?_⟩) rfl rfl rfl
  · refine sound.conflicts.inbox.updateWhere rfl (fun _ => ⟨rfl, rfl, rfl⟩) fun _ _ _ => ?_
    simp [SyncConflict.dismiss]
  · exact Table.forall_updateWhere sound.conflicts.filed fun _ _ _ kept => kept
  · exact Table.forall_updateWhere sound.conflicts.stays fun _ _ _ kept => kept

end Sambung
