/-
This file states the estate: the database the services share with every operation
that writes it, and the runs of them.

A sync reads its connection, fetches and parses, and writes in one transaction at
the end. In between anything may commit, the deletion of the connection too. So
the state holds, beside the database, the connections whose sync is under way, as
they were read. It also remembers every id drawn for a connection, since a random
id is not drawn twice.

Soundness comes in five parts, one for the listings, the channels, the bookings,
the inbox and the payments, each with the constraints of its tables that the model
holds and with what the services rely on beyond them. A part speaks of the tables
it needs, so an operation has to look only at the parts whose tables it writes,
and a congruence lemma for each part does the rest.
-/

import Sambung.Channels
import Sambung.LawfulSyncs
import Sambung.PriceOverrides

namespace Sambung

/-! ### Operations -/

/-- The transaction is the last step of a sync. -/
def Transaction.Syncs : Transaction → Prop
  | .settleFeed _ _ _ _ => True
  | _ => False

/-- The database, the whole rows of its price overrides, the syncs under way and the ids drawn for
connections. -/
structure Estate where
  db : Db
  overrides : List PriceOverrideRow
  syncing : List ChannelConnection
  drawn : List Uuid

/-- One operation on the estate. -/
inductive Operation where
  | transaction (t : Transaction) (other : ¬ t.Syncs)
  | startSync (conn : ChannelConnection)
  | settleSync (conn : ChannelConnection) (feed : Except String (List ImportedEvent))
      (faults : Nat → EventFault) (now : Instant)
  | finishConnect (tenantId unitId : Uuid) (dto : CreateChannelConnectionRequest)
      (probe : IcalProbeResult) (now : Instant)
  | disconnect (tenantId id : Uuid)
  | dismiss (tenantId id : Uuid) (now : Instant)
  | insertProperty (tenantId : Uuid) (values : PropertyValues)
  | updateProperty (tenantId id : Uuid) (dto : UpdatePropertyRequest)
  | setPropertyArchived (tenantId id : Uuid) (archived : Bool) (now : Instant)
  | createUnit (tenantId propertyId : Uuid) (dto : CreateUnitRequest)
  | updateUnit (tenantId id : Uuid) (dto : UpdateUnitRequest)
  | setUnitArchived (tenantId id : Uuid) (archived : Bool) (now : Instant)
  | removeListing (tenantId : Uuid) (listing : Listing)
  | priceOverride (call : PriceOverrideCall)

/-- The estate with what an answer leaves of the database. -/
def Estate.commit {Result : Type} (estate : Estate) (answer : Answer Result) : Estate :=
  { estate with db := answer.database estate.db }

/-- The estate an operation leaves. -/
def Operation.run [PostgresServer] (env : PayEnvironment) : Operation → Estate → Estate
  | .transaction t _, estate => { estate with db := t.run env estate.db }
  | .startSync conn, estate =>
    if conn ∈ estate.db.channelConnection then
      { estate with syncing := conn :: estate.syncing }
    else estate
  | .settleSync conn feed faults now, estate =>
    if conn ∈ estate.syncing then
      { estate.commit (Sambung.settleFeed env.uuids conn feed faults now estate.db) with
        syncing := estate.syncing.erase conn }
    else estate
  | .finishConnect tenantId unitId dto probe now, estate =>
    let id := env.uuids.draw estate.drawn
    { estate.commit (Sambung.finishConnect tenantId unitId dto probe now id estate.db) with
      drawn := id :: estate.drawn }
  | .disconnect tenantId id, estate => estate.commit (Sambung.disconnect tenantId id estate.db)
  | .dismiss tenantId id now, estate =>
    { estate with db := (Sambung.dismiss tenantId id now estate.db).2 }
  | .insertProperty tenantId values, estate =>
    estate.commit (Sambung.insertProperty env.uuids tenantId values estate.db)
  | .updateProperty tenantId id dto, estate =>
    estate.commit (Sambung.updateProperty tenantId id dto estate.db)
  | .setPropertyArchived tenantId id archived now, estate =>
    estate.commit (Sambung.setPropertyArchived tenantId id archived now estate.db)
  | .createUnit tenantId propertyId dto, estate =>
    estate.commit (Sambung.createUnit env.uuids tenantId propertyId dto estate.db)
  | .updateUnit tenantId id dto, estate =>
    estate.commit (Sambung.updateUnit tenantId id dto estate.db)
  | .setUnitArchived tenantId id archived now, estate =>
    estate.commit (Sambung.setUnitArchived tenantId id archived now estate.db)
  | .removeListing tenantId listing, estate =>
    let removed := Sambung.removeListing tenantId listing estate.db
    { estate with
      db := removed.2
      overrides := if removed.1 = .removed then
          estate.overrides.filter (·.unitId ∉ listing.units estate.db)
        else estate.overrides }
  | .priceOverride call, estate =>
    let rows := call.run env.uuids estate.db estate.overrides
    { estate with db := estate.db.withOverrides rows, overrides := rows }

/-- The estate a list of operations leaves. -/
def runEstate [PostgresServer] (env : PayEnvironment) (run : List Operation) (estate : Estate) :
    Estate :=
  Runs.final (Operation.run env) run estate

/-! ### Soundness -/

/-- The foreign keys, unique constraints and checks of properties and units. -/
structure Db.InventorySound (db : Db) : Prop where
  properties : (db.property.map Property.id).Nodup
  settings : ∀ property ∈ db.property, property.Checked
  units : (db.unit.map RentalUnit.id).Nodup
  checked : ∀ unit ∈ db.unit, unit.Checked
  parents : ∀ unit ∈ db.unit, unit.HasProperty db
  names : db.unit.Pairwise fun first second =>
    ¬ (first.propertyId = second.propertyId ∧ first.name = second.name)

/-- Each connection is on a unit of its tenant, and no unit has two of one channel. -/
structure Db.ConnectionsSound (db : Db) : Prop where
  keyed : (db.channelConnection.map ChannelConnection.id).Nodup
  single : db.channelConnection.Pairwise fun first second =>
    ¬ (first.unitId = second.unitId ∧ first.channel = second.channel)
  units : ∀ conn ∈ db.channelConnection, unitExists conn.tenantId conn.unitId db

/-- The bookings meet their constraints; a row a connection imported is in the unit and the tenant
of the connection, under a UID that can be stored. -/
structure Db.BookingsSound [PostgresServer] (db : Db) : Prop where
  lawful : db.BookingsLawful
  imports : ∀ conn ∈ db.channelConnection, db.ImportsOwned conn
  uids : ∀ row ∈ db.booking, ∀ uid ∈ row.externalUid, pgText uid

/-- The inbox is well formed, and each conflict is one of a connection on its unit. -/
structure Db.ConflictsSound (db : Db) : Prop where
  inbox : db.InboxSound
  filed : ∀ row ∈ db.syncConflict, ∃ conn ∈ db.channelConnection,
    conn.id = row.channelConnectionId ∧ row.unitId = conn.unitId ∧ row.tenantId = conn.tenantId
  stays : ∀ row ∈ db.syncConflict, row.checkIn < row.checkOut

/-- Each payment is of a booking, which has at most one pending, and of no negative amount; each
recorded event is of a booking that exists, and recorded once. -/
structure Db.PaymentsSound (db : Db) : Prop where
  keyed : (db.payment.map Payment.id).Nodup
  checked : ∀ pay ∈ db.payment, 0 ≤ pay.amountIdr
  payments : ∀ pay ∈ db.payment, pay.bookingId ∈ db.booking.map Booking.id
  single : db.payment.Pairwise fun first second =>
    ¬ (first.bookingId = second.bookingId ∧ first.status = .pending ∧ second.status = .pending)
  events : ∀ event ∈ db.paymentEvent, ∀ id ∈ event.bookingId, id ∈ db.booking.map Booking.id
  once : db.paymentEvent.Pairwise fun first second =>
    ¬ (first.provider = second.provider ∧ first.providerEventId = second.providerEventId)

/-- The constraints the model holds of the listings, the channels, the bookings, the inbox and the
payments, with what the services rely on beyond them. Tenants, users, slugs and credentials are
other tables, with their own state; nothing is said of them here. -/
structure Db.Sound [PostgresServer] (db : Db) : Prop where
  inventory : db.InventorySound
  connections : db.ConnectionsSound
  bookings : db.BookingsSound
  conflicts : db.ConflictsSound
  payments : db.PaymentsSound

/-- The database is sound, and what a sync under way has read of its connection is still so, or
the connection is gone for good. -/
structure Estate.Sound [PostgresServer] (estate : Estate) : Prop where
  db : estate.db.Sound
  overrides : OverridesSound estate.db estate.overrides
  stored : estate.db.unitPriceOverride =
    estate.overrides.map PriceOverrideRow.toUnitPriceOverride
  drawn : ∀ conn ∈ estate.db.channelConnection, conn.id ∈ estate.drawn
  syncing : ∀ conn ∈ estate.syncing, conn.id ∈ estate.drawn ∧
    ∀ row ∈ estate.db.channelConnection, row.id = conn.id → row.Same conn

/-! ### What each part rests on -/

section Congruence

variable {db after : Db}

theorem unitExists_of_eq {tenantId unitId : Uuid} (same : after.unit = db.unit)
    (stored : unitExists tenantId unitId db) : unitExists tenantId unitId after := by
  rw [unitExists, same]
  exact stored

theorem Db.InventorySound.congr (sound : db.InventorySound)
    (properties : after.property = db.property) (units : after.unit = db.unit) :
    after.InventorySound where
  properties := by rw [properties]; exact sound.properties
  settings := by rw [properties]; exact sound.settings
  units := by rw [units]; exact sound.units
  checked := by rw [units]; exact sound.checked
  parents := by
    rw [units]
    intro unit member
    obtain ⟨property, stored, same⟩ := sound.parents unit member
    exact ⟨property, properties ▸ stored, same⟩
  names := by rw [units]; exact sound.names

theorem Db.ConnectionsSound.congr (sound : db.ConnectionsSound)
    (connections : after.channelConnection = db.channelConnection)
    (units : ∀ conn ∈ db.channelConnection, unitExists conn.tenantId conn.unitId db →
      unitExists conn.tenantId conn.unitId after) : after.ConnectionsSound where
  keyed := by rw [connections]; exact sound.keyed
  single := by rw [connections]; exact sound.single
  units := by
    rw [connections]
    exact fun conn member => units conn member (sound.units conn member)

theorem Db.ConflictsSound.congr (sound : db.ConflictsSound)
    (conflicts : after.syncConflict = db.syncConflict)
    (connections : after.channelConnection = db.channelConnection) : after.ConflictsSound where
  inbox := sound.inbox.congr conflicts
  filed := by rw [conflicts, connections]; exact sound.filed
  stays := by rw [conflicts]; exact sound.stays

theorem Db.PaymentsSound.congr (sound : db.PaymentsSound) (payments : after.payment = db.payment)
    (paymentEvents : after.paymentEvent = db.paymentEvent)
    (bookings : ∀ id ∈ db.booking.map Booking.id, id ∈ after.booking.map Booking.id) :
    after.PaymentsSound where
  keyed := by rw [payments]; exact sound.keyed
  checked := by rw [payments]; exact sound.checked
  payments := by
    rw [payments]
    exact fun pay member => bookings _ (sound.payments pay member)
  single := by rw [payments]; exact sound.single
  events := by
    rw [paymentEvents]
    exact fun event member id named => bookings id (sound.events event member id named)
  once := by rw [paymentEvents]; exact sound.once

/-- The foreign keys of a booking, as what they name. -/
theorem Db.failedForeignKey_eq_none {row : Booking} :
    db.failedForeignKey row = none ↔ unitExists row.tenantId row.unitId db ∧
      ∀ id ∈ row.channelConnectionId, ∃ conn ∈ db.channelConnection, conn.id = id := by
  rw [Db.failedForeignKey, unitExists]
  by_cases placed : ∃ unit ∈ db.unit, unit.id = row.unitId ∧ unit.tenantId = row.tenantId
  · rw [if_neg (not_not.mpr placed)]
    by_cases dangling : ∃ id ∈ row.channelConnectionId,
        ¬ ∃ conn ∈ db.channelConnection, conn.id = id
    · rw [if_pos dangling]
      obtain ⟨id, linked, missing⟩ := dangling
      exact iff_of_false (by simp) fun both => missing (both.2 id linked)
    · rw [if_neg dangling]
      push Not at dangling
      exact iff_of_true rfl ⟨placed, dangling⟩
  · rw [if_pos placed]
    exact iff_of_false (by simp) fun both => placed both.1

/-- The constraints of bookings that stay, where what they name stays. -/
theorem Db.BookingsLawful.congr [PostgresServer] (lawful : db.BookingsLawful)
    (bookings : after.booking = db.booking)
    (units : ∀ row ∈ db.booking,
      unitExists row.tenantId row.unitId db → unitExists row.tenantId row.unitId after)
    (connections : ∀ conn ∈ db.channelConnection,
      ∃ other ∈ after.channelConnection, other.id = conn.id) :
    after.BookingsLawful := by
  refine ⟨by rw [bookings]; exact lawful.keyed, by rw [bookings]; exact lawful.checked,
    by rw [bookings]; exact lawful.entered, ?_, ?_⟩
  · intro row member
    have same : after.failedIndex row = db.failedIndex row := by
      rw [Db.failedIndex, Db.failedIndex, bookings]
    rw [same]
    exact lawful.indexed row (bookings ▸ member)
  · intro row member
    rw [bookings] at member
    obtain ⟨placed, linked⟩ := Db.failedForeignKey_eq_none.mp (lawful.linked row member)
    refine Db.failedForeignKey_eq_none.mpr ⟨units row member placed, fun id named => ?_⟩
    obtain ⟨conn, stored, rfl⟩ := linked id named
    exact connections conn stored

theorem Db.BookingsSound.congr [PostgresServer] (sound : db.BookingsSound)
    (bookings : after.booking = db.booking)
    (units : ∀ row ∈ db.booking,
      unitExists row.tenantId row.unitId db → unitExists row.tenantId row.unitId after)
    (connections : after.channelConnection = db.channelConnection) : after.BookingsSound where
  lawful := sound.lawful.congr bookings units fun conn member =>
    ⟨conn, by rw [connections]; exact member, rfl⟩
  imports := by
    rw [connections]
    intro conn member row rowMember
    exact sound.imports conn member row (bookings ▸ rowMember)
  uids := by rw [bookings]; exact sound.uids

/-- Other conflicts that are sound by themselves leave the rest of the database sound as it was. -/
theorem Db.Sound.withConflicts [PostgresServer] (sound : db.Sound) {rows : List SyncConflict}
    (conflicts : ({ db with syncConflict := rows } : Db).ConflictsSound) :
    ({ db with syncConflict := rows } : Db).Sound :=
  ⟨sound.inventory.congr rfl rfl, sound.connections.congr rfl fun _ _ => id,
    sound.bookings.congr rfl (fun _ _ => id) rfl, conflicts,
    sound.payments.congr rfl rfl fun _ => id⟩

theorem ChannelConnection.Same.symm {conn other : ChannelConnection} (same : conn.Same other) :
    other.Same conn := ⟨same.id.symm, same.unit.symm, same.tenant.symm⟩

theorem ChannelConnection.Same.trans {first second third : ChannelConnection}
    (toSecond : first.Same second) (toThird : second.Same third) : first.Same third where
  id := toSecond.id.trans toThird.id
  unit := toSecond.unit.trans toThird.unit
  tenant := toSecond.tenant.trans toThird.tenant

/-- The parts hold again, every unit is still there, the prices are as they were, and each
connection is one there was. -/
structure KeptSound [PostgresServer] (db after : Db) : Prop where
  sound : after.Sound
  units : ∀ tenantId unitId, unitExists tenantId unitId db → unitExists tenantId unitId after
  prices : after.unitPriceOverride = db.unitPriceOverride
  connections : ∀ row ∈ after.channelConnection, ∃ source ∈ db.channelConnection, source.Same row

theorem KeptSound.refl [PostgresServer] (sound : db.Sound) : KeptSound db db :=
  ⟨sound, fun _ _ => id, rfl, fun row member => ⟨row, member, rfl, rfl, rfl⟩⟩

theorem KeptSound.trans [PostgresServer] {middle : Db} (earlier : KeptSound db middle)
    (later : KeptSound middle after) : KeptSound db after where
  sound := later.sound
  units tenantId unitId stored := later.units tenantId unitId (earlier.units tenantId unitId stored)
  prices := later.prices.trans earlier.prices
  connections row member := by
    obtain ⟨between, betweenMember, toRow⟩ := later.connections row member
    obtain ⟨source, sourceMember, toBetween⟩ := earlier.connections between betweenMember
    exact ⟨source, sourceMember, toBetween.trans toRow⟩

/-- A step that leaves units, prices and connections. -/
theorem KeptSound.of_tables [PostgresServer] (sound : after.Sound) (units : after.unit = db.unit)
    (prices : after.unitPriceOverride = db.unitPriceOverride)
    (connections : after.channelConnection = db.channelConnection) : KeptSound db after :=
  ⟨sound, fun _ _ => unitExists_of_eq units, prices, fun row member =>
    ⟨row, connections ▸ member, rfl, rfl, rfl⟩⟩

end Congruence

end Sambung
