/-
This file states the deletion of listings, `remove` of `properties.service.ts` and
`units.service.ts`, beside the statements that put units and bookings under them,
as transactions that step through their statements.

A remove locks the property row and then its unit rows, or the unit row, counts
the bookings, and deletes; the foreign keys cascade to the units but take no
action on a booking. An insert shares the row its foreign key names until its
transaction ends. A transaction may roll back at any time.

A step reads the committed rows of its moment and its own, as a statement under
`READ COMMITTED` does, and is possible only where its lock is free: a transaction
that waits does not step. Ids of units are drawn at random, and one that a remove
has deleted is not drawn again. Bookings enter by every kind of insert, so an
insert is any row with a foreign key to hold.
-/

import Sambung.Foundation.Locks
import Sambung.Schema

namespace Sambung

/-! ### Rows -/

/-- What a remove is about. -/
inductive Listing where
  | property (id : Uuid)
  | unit (id : Uuid)
  deriving DecidableEq, Repr

/-- A row other transactions can be kept from. -/
inductive ListingRow where
  | property (id : Uuid)
  | unit (id : Uuid)
  deriving DecidableEq, Repr

def Listing.row : Listing → ListingRow
  | .property id => .property id
  | .unit id => .unit id

/-- The row the `SELECT ... FOR UPDATE` of `lockForDelete` looks for. -/
def Listing.Stored (tenantId : Uuid) (db : Db) : Listing → Prop
  | .property id => ∃ property ∈ db.property, property.id = id ∧ property.tenantId = tenantId
  | .unit id => ∃ unit ∈ db.unit, unit.id = id ∧ unit.tenantId = tenantId

/-- The ids of the unit rows that go with the listing. -/
def Listing.units (db : Db) : Listing → List Uuid
  | .property id => (db.unit.filter (·.propertyId = id)).map RentalUnit.id
  | .unit id => [id]

/-- `countBookings`. -/
def Listing.countBookings (tenantId : Uuid) (db : Db) : Listing → Nat
  | .property id =>
    (db.booking.filter fun booking => booking.tenantId = tenantId ∧
      ∃ unit ∈ db.unit, unit.id = booking.unitId ∧ unit.propertyId = id).length
  | .unit id =>
    (db.booking.filter fun booking => booking.unitId = id ∧ booking.tenantId = tenantId).length

/-- The rows that go when unit rows go: their overrides, connections and conflicts. A booking
imported through such a connection forgets it. -/
def Db.removeUnits (gone : List Uuid) (db : Db) : Db :=
  let connections := (db.channelConnection.filter (·.unitId ∈ gone)).map ChannelConnection.id
  { db with
    unit := db.unit.filter (·.id ∉ gone)
    unitPriceOverride := db.unitPriceOverride.filter (·.unitId ∉ gone)
    channelConnection := db.channelConnection.filter (·.unitId ∉ gone)
    syncConflict := db.syncConflict.filter fun conflict =>
      conflict.unitId ∉ gone ∧ conflict.channelConnectionId ∉ connections
    booking := db.booking.map fun booking => { booking with
      channelConnectionId := booking.channelConnectionId.filter (· ∉ connections) } }

/-- `DELETE`, with the actions of the foreign keys. -/
def Listing.delete (db : Db) (listing : Listing) : Db :=
  let rest := db.removeUnits (listing.units db)
  match listing with
  | .property id => { rest with property := rest.property.filter (·.id ≠ id) }
  | .unit _ => rest

/-- The unit row a booking's foreign keys name. -/
def Booking.HasUnit (db : Db) (booking : Booking) : Prop :=
  ∃ unit ∈ db.unit, unit.id = booking.unitId ∧ unit.tenantId = booking.tenantId

/-- The property row a unit's foreign keys name. -/
def RentalUnit.HasProperty (db : Db) (unit : RentalUnit) : Prop :=
  ∃ property ∈ db.property, property.id = unit.propertyId ∧ property.tenantId = unit.tenantId

instance (tenantId : Uuid) (db : Db) (listing : Listing) :
    Decidable (listing.Stored tenantId db) :=
  match listing with
  | .property id => inferInstanceAs
      (Decidable (∃ property ∈ db.property, property.id = id ∧ property.tenantId = tenantId))
  | .unit id => inferInstanceAs
      (Decidable (∃ unit ∈ db.unit, unit.id = id ∧ unit.tenantId = tenantId))

instance (db : Db) (booking : Booking) : Decidable (booking.HasUnit db) :=
  inferInstanceAs
    (Decidable (∃ unit ∈ db.unit, unit.id = booking.unitId ∧ unit.tenantId = booking.tenantId))

instance (db : Db) (unit : RentalUnit) : Decidable (unit.HasProperty db) :=
  inferInstanceAs (Decidable
    (∃ property ∈ db.property, property.id = unit.propertyId ∧ property.tenantId = unit.tenantId))

/-! ### Transactions -/

/-- Where a remove stands: the units it has still to lock, and those it has locked. -/
inductive RemovePhase where
  | locking
  | selectingUnits
  | lockingUnits (left locked : List Uuid)
  | counting (locked : List Uuid)
  | deleting (locked : List Uuid)
  | committing (locked : List Uuid)

def RemovePhase.locked : RemovePhase → List Uuid
  | .locking => []
  | .selectingUnits => []
  | .lockingUnits _ locked => locked
  | .counting locked => locked
  | .deleting locked => locked
  | .committing locked => locked

/-- How a remove ends. -/
inductive RemoveAnswer where
  | removed
  | notFound
  | hasBookings (bookings : Nat)
  | foreignKey
  deriving DecidableEq, Repr

/-- A transaction under way, with the rows it has inserted and not committed. -/
inductive ListingTask where
  | idle
  | removing (tenantId : Uuid) (listing : Listing) (phase : RemovePhase)
  | answered (tenantId : Uuid) (listing : Listing) (answer : RemoveAnswer)
  | creatingUnit (unit : RentalUnit)
  | booking (rows : List Booking)

/-- What a task holds `FOR UPDATE`. -/
def ListingTask.Takes (task : ListingTask) (row : ListingRow) : Prop :=
  ∃ tenantId listing phase, task = .removing tenantId listing phase ∧
    (phase ≠ .locking ∧ row = listing.row ∨ ∃ id ∈ phase.locked, row = .unit id)

/-- What a task holds `FOR KEY SHARE`: the rows its own rows' foreign keys name. -/
def ListingTask.Shares (task : ListingTask) (row : ListingRow) : Prop :=
  (∃ unit, task = .creatingUnit unit ∧ row = .property unit.propertyId) ∨
    ∃ rows, task = .booking rows ∧ ∃ booking ∈ rows, row = .unit booking.unitId

/-- The committed database and the transactions by party. `removedUnits` records the units that
removes have deleted: an id is drawn at random and not drawn again. -/
structure ListingState where
  db : Db
  tasks : Nat → ListingTask
  removedUnits : List Uuid

/-- The party's task goes on. -/
def ListingState.put (state : ListingState) (party : Nat) (task : ListingTask) : ListingState :=
  { state with tasks := Function.update state.tasks party task }

@[simp] theorem ListingState.put_put (state : ListingState) (party : Nat)
    (first second : ListingTask) :
    (state.put party first).put party second = state.put party second := by
  simp only [ListingState.put, Function.update_idem]

def ListingState.FreeToTake (state : ListingState) (party : Nat) (row : ListingRow) : Prop :=
  Locks.FreeToTake ListingTask.Takes ListingTask.Shares state.tasks party row

def ListingState.FreeToShare (state : ListingState) (party : Nat) (row : ListingRow) : Prop :=
  Locks.FreeToShare ListingTask.Takes state.tasks party row

/-- What a remove does once the row is locked: a property's units are locked next. -/
def Listing.afterLock : Listing → RemovePhase
  | .property _ => .selectingUnits
  | .unit id => .counting [id]

/-- One step of one party. -/
inductive ListingStep (state : ListingState) (party : Nat) : ListingState → Prop
  /-- A remove begins. -/
  | remove (tenantId : Uuid) (listing : Listing) (idle : state.tasks party = .idle) :
      ListingStep state party (state.put party (.removing tenantId listing .locking))
  /-- It locks the row, as soon as no other transaction holds it. -/
  | lock (tenantId : Uuid) (listing : Listing)
      (runs : state.tasks party = .removing tenantId listing .locking)
      (stored : listing.Stored tenantId state.db) (free : state.FreeToTake party listing.row) :
      ListingStep state party
        (state.put party (.removing tenantId listing listing.afterLock))
  /-- It finds no row. -/
  | missing (tenantId : Uuid) (listing : Listing)
      (runs : state.tasks party = .removing tenantId listing .locking)
      (absent : ¬ listing.Stored tenantId state.db) :
      ListingStep state party (state.put party (.answered tenantId listing .notFound))
  /-- The next statement's snapshot has the units to lock. -/
  | selectUnits (tenantId : Uuid) (id : Uuid)
      (runs : state.tasks party = .removing tenantId (.property id) .selectingUnits) :
      ListingStep state party (state.put party (.removing tenantId (.property id)
        (.lockingUnits ((state.db.unit.filter fun unit =>
          unit.propertyId = id ∧ unit.tenantId = tenantId).map RentalUnit.id) [])))
  /-- It locks the next unit. -/
  | lockUnit (tenantId : Uuid) (listing : Listing) (id : Uuid) (left locked : List Uuid)
      (runs : state.tasks party = .removing tenantId listing (.lockingUnits (id :: left) locked))
      (stored : ∃ unit ∈ state.db.unit, unit.id = id)
      (free : state.FreeToTake party (.unit id)) :
      ListingStep state party
        (state.put party (.removing tenantId listing (.lockingUnits left (id :: locked))))
  /-- A unit deleted meanwhile is skipped. -/
  | skipUnit (tenantId : Uuid) (listing : Listing) (id : Uuid) (left locked : List Uuid)
      (runs : state.tasks party = .removing tenantId listing (.lockingUnits (id :: left) locked))
      (gone : ¬ ∃ unit ∈ state.db.unit, unit.id = id) :
      ListingStep state party
        (state.put party (.removing tenantId listing (.lockingUnits left locked)))
  | unitsLocked (tenantId : Uuid) (listing : Listing) (locked : List Uuid)
      (runs : state.tasks party = .removing tenantId listing (.lockingUnits [] locked)) :
      ListingStep state party
        (state.put party (.removing tenantId listing (.counting locked)))
  /-- It counts bookings and rolls back. -/
  | refuse (tenantId : Uuid) (listing : Listing) (locked : List Uuid)
      (runs : state.tasks party = .removing tenantId listing (.counting locked))
      (bookings : 0 < listing.countBookings tenantId state.db) :
      ListingStep state party (state.put party
        (.answered tenantId listing (.hasBookings (listing.countBookings tenantId state.db))))
  | clear (tenantId : Uuid) (listing : Listing) (locked : List Uuid)
      (runs : state.tasks party = .removing tenantId listing (.counting locked))
      (none_ : listing.countBookings tenantId state.db = 0) :
      ListingStep state party
        (state.put party (.removing tenantId listing (.deleting locked)))
  /-- It deletes: the rows that go are locked, and no booking names them. -/
  | delete (tenantId : Uuid) (listing : Listing) (locked : List Uuid)
      (runs : state.tasks party = .removing tenantId listing (.deleting locked))
      (free : ∀ id ∈ listing.units state.db, state.FreeToTake party (.unit id))
      (unbooked : ∀ booking ∈ state.db.booking, booking.unitId ∉ listing.units state.db) :
      ListingStep state party (state.put party
        (.removing tenantId listing (.committing (listing.units state.db ++ locked))))
  /-- A booking names a row that would go: the statement fails. -/
  | violate (tenantId : Uuid) (listing : Listing) (locked : List Uuid)
      (runs : state.tasks party = .removing tenantId listing (.deleting locked))
      (booked : ∃ booking ∈ state.db.booking, booking.unitId ∈ listing.units state.db) :
      ListingStep state party (state.put party (.answered tenantId listing .foreignKey))
  | commitRemove (tenantId : Uuid) (listing : Listing) (locked : List Uuid)
      (runs : state.tasks party = .removing tenantId listing (.committing locked)) :
      ListingStep state party
        { db := listing.delete state.db
          tasks := Function.update state.tasks party (.answered tenantId listing .removed)
          removedUnits := state.removedUnits ++ listing.units state.db }
  /-- A unit is inserted. -/
  | insertUnit (unit : RentalUnit) (idle : state.tasks party = .idle)
      (parent : unit.HasProperty state.db)
      (free : state.FreeToShare party (.property unit.propertyId)) :
      ListingStep state party (state.put party (.creatingUnit unit))
  | commitUnit (unit : RentalUnit) (runs : state.tasks party = .creatingUnit unit)
      (fresh : ∀ other ∈ state.db.unit, other.id ≠ unit.id)
      (undrawn : unit.id ∉ state.removedUnits) :
      ListingStep state party
        { state with
          db := { state.db with unit := state.db.unit ++ [unit] }
          tasks := Function.update state.tasks party .idle }
  /-- A booking is inserted, the first of its transaction or a further one of an import. -/
  | insertBooking (rows : List Booking) (booking : Booking)
      (runs : state.tasks party = .idle ∧ rows = [] ∨ state.tasks party = .booking rows)
      (parent : booking.HasUnit state.db)
      (free : state.FreeToShare party (.unit booking.unitId)) :
      ListingStep state party (state.put party (.booking (rows ++ [booking])))
  /-- A savepoint of an import is rolled back. -/
  | undo (rows kept : List Booking) (runs : state.tasks party = .booking rows)
      (fewer : kept.Sublist rows) :
      ListingStep state party (state.put party (.booking kept))
  | commitBookings (rows : List Booking) (runs : state.tasks party = .booking rows) :
      ListingStep state party
        { state with
          db := { state.db with booking := state.db.booking ++ rows }
          tasks := Function.update state.tasks party .idle }
  | recordPayment (payment : Payment) (idle : state.tasks party = .idle)
      (parent : ∃ booking ∈ state.db.booking, booking.id = payment.bookingId) :
      ListingStep state party
        { state with db := { state.db with payment := state.db.payment ++ [payment] } }
  | recordEvent (event : PaymentEvent) (idle : state.tasks party = .idle)
      (parent : ∀ id, event.bookingId = some id → ∃ booking ∈ state.db.booking, booking.id = id) :
      ListingStep state party
        { state with db := { state.db with paymentEvent := state.db.paymentEvent ++ [event] } }
  /-- A transaction rolls back: its insert is refused, it is the victim of a deadlock, or its
  connection is lost. -/
  | rollback : ListingStep state party (state.put party .idle)

/-- The states that steps of any parties in any order lead to. -/
inductive ListingRun (start : ListingState) : ListingState → Prop
  | start : ListingRun start start
  | next {state after : ListingState} {party : Nat} (earlier : ListingRun start state)
      (step : ListingStep state party after) : ListingRun start after

/-- A database whose keys hold, with nothing under way. -/
structure ListingState.Fresh (state : ListingState) : Prop where
  tasks : ∀ party, state.tasks party = .idle
  removedUnits : state.removedUnits = []
  properties : (state.db.property.map Property.id).Nodup
  units : (state.db.unit.map RentalUnit.id).Nodup
  unitParents : ∀ unit ∈ state.db.unit, unit.HasProperty state.db
  bookingParents : ∀ booking ∈ state.db.booking, booking.HasUnit state.db

end Sambung
