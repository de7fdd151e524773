/-
This file proves that deleting listings leaves the ledger alone.

A remove that has locked a property has kept every new unit out of it, and one
that has locked the units has kept every new booking off them; the count made
after that still holds at the delete. So the delete meets no booking, and what it
takes away no booking ever named.

`RemovePhase.Knows` says what a remove knows in each of its phases, and
`RemovePhase.Knows.transfer` when a change by others leaves it true; a commit of
units, of bookings or of another delete satisfies that by the locks. `ListingSafe`
gathers keys, locks and tasks, and a step keeps it by its case. Two deletes of one
listing, an insert that waits for a row that then goes, and a remove of a property
whose units another remove has taken are among the interleavings.
-/

import Sambung.Listings

namespace Sambung

/-! ### What a transaction may rely on -/

/-- What a remove knows of the database in each phase. -/
def RemovePhase.Knows (tenantId : Uuid) (listing : Listing) (db : Db) : RemovePhase → Prop
  | .locking => True
  | .selectingUnits => listing.Stored tenantId db
  | .lockingUnits left locked =>
    listing.Stored tenantId db ∧ ∀ id ∈ listing.units db, id ∈ left ∨ id ∈ locked
  | .counting locked => listing.Stored tenantId db ∧ ∀ id ∈ listing.units db, id ∈ locked
  | .deleting locked | .committing locked =>
    (listing.Stored tenantId db ∧ ∀ id ∈ listing.units db, id ∈ locked) ∧
      ∀ booking ∈ db.booking, booking.unitId ∉ listing.units db

/-- What holds of a task as long as it runs. -/
def ListingTask.Sound (db : Db) : ListingTask → Prop
  | .idle => True
  | .removing tenantId listing phase => phase.Knows tenantId listing db
  | .answered _ _ answer => answer ≠ .foreignKey
  | .creatingUnit unit => unit.HasProperty db
  | .booking rows => ∀ booking ∈ rows, booking.HasUnit db

/-- The keys hold, the locks are respected, and every task is sound. -/
structure ListingSafe (state : ListingState) : Prop where
  properties : (state.db.property.map Property.id).Nodup
  units : (state.db.unit.map RentalUnit.id).Nodup
  unitParents : ∀ unit ∈ state.db.unit, unit.HasProperty state.db
  bookingParents : ∀ booking ∈ state.db.booking, booking.HasUnit state.db
  respected : Locks.Respected ListingTask.Takes ListingTask.Shares state.tasks
  tasks : ∀ party, (state.tasks party).Sound state.db
  removed : ∀ id ∈ state.removedUnits, ∀ unit ∈ state.db.unit, unit.id ≠ id

/-! ### Locks of a task -/

@[simp] theorem takes_idle (row : ListingRow) : ¬ ListingTask.idle.Takes row := by
  rintro ⟨tenantId, listing, phase, same, -⟩
  cases same

@[simp] theorem takes_answered (tenantId : Uuid) (listing : Listing) (answer : RemoveAnswer)
    (row : ListingRow) : ¬ (ListingTask.answered tenantId listing answer).Takes row := by
  rintro ⟨tenantId, listing, phase, same, -⟩
  cases same

@[simp] theorem takes_creatingUnit (unit : RentalUnit) (row : ListingRow) :
    ¬ (ListingTask.creatingUnit unit).Takes row := by
  rintro ⟨tenantId, listing, phase, same, -⟩
  cases same

@[simp] theorem takes_booking (rows : List Booking) (row : ListingRow) :
    ¬ (ListingTask.booking rows).Takes row := by
  rintro ⟨tenantId, listing, phase, same, -⟩
  cases same

theorem takes_removing {tenantId : Uuid} {listing : Listing} {phase : RemovePhase}
    {row : ListingRow} :
    (ListingTask.removing tenantId listing phase).Takes row ↔
      phase ≠ .locking ∧ row = listing.row ∨ ∃ id ∈ phase.locked, row = .unit id := by
  constructor
  · rintro ⟨_, _, _, same, held⟩
    cases same
    exact held
  · intro held
    exact ⟨tenantId, listing, phase, rfl, held⟩

@[simp] theorem shares_idle (row : ListingRow) : ¬ ListingTask.idle.Shares row := by
  rintro (⟨unit, same, -⟩ | ⟨rows, same, -⟩) <;> cases same

@[simp] theorem shares_removing (tenantId : Uuid) (listing : Listing) (phase : RemovePhase)
    (row : ListingRow) : ¬ (ListingTask.removing tenantId listing phase).Shares row := by
  rintro (⟨unit, same, -⟩ | ⟨rows, same, -⟩) <;> cases same

@[simp] theorem shares_answered (tenantId : Uuid) (listing : Listing) (answer : RemoveAnswer)
    (row : ListingRow) : ¬ (ListingTask.answered tenantId listing answer).Shares row := by
  rintro (⟨unit, same, -⟩ | ⟨rows, same, -⟩) <;> cases same

@[simp] theorem shares_creatingUnit {unit : RentalUnit} {row : ListingRow} :
    (ListingTask.creatingUnit unit).Shares row ↔ row = .property unit.propertyId := by
  constructor
  · rintro (⟨other, same, held⟩ | ⟨rows, same, -⟩)
    · cases same
      exact held
    · cases same
  · intro held
    exact Or.inl ⟨unit, rfl, held⟩

@[simp] theorem shares_booking {rows : List Booking} {row : ListingRow} :
    (ListingTask.booking rows).Shares row ↔ ∃ booking ∈ rows, row = .unit booking.unitId := by
  constructor
  · rintro (⟨unit, same, -⟩ | ⟨others, same, held⟩)
    · cases same
    · cases same
      exact held
  · intro held
    exact Or.inr ⟨rows, rfl, held⟩

/-! ### Rows of a listing -/

theorem mem_units_property {db : Db} {id unitId : Uuid} :
    unitId ∈ (Listing.property id).units db ↔
      ∃ unit ∈ db.unit, unit.id = unitId ∧ unit.propertyId = id := by
  simp only [Listing.units, List.mem_map, List.mem_filter, decide_eq_true_eq]
  constructor
  · rintro ⟨unit, ⟨member, held⟩, same⟩
    exact ⟨unit, member, same, held⟩
  · rintro ⟨unit, member, same, held⟩
    exact ⟨unit, ⟨member, held⟩, same⟩

theorem mem_units_unit {db : Db} {id unitId : Uuid} :
    unitId ∈ (Listing.unit id).units db ↔ unitId = id := by
  simp only [Listing.units, List.mem_singleton]

/-- The units under a locked property are the property's tenant's. -/
theorem ListingSafe.unit_tenant {state : ListingState} (safe : ListingSafe state)
    {tenantId id : Uuid} (stored : (Listing.property id).Stored tenantId state.db)
    {unit : RentalUnit} (member : unit ∈ state.db.unit) (under : unit.propertyId = id) :
    unit.tenantId = tenantId := by
  obtain ⟨property, propertyMember, propertyId, propertyTenant⟩ := stored
  obtain ⟨parent, parentMember, parentId, parentTenant⟩ := safe.unitParents unit member
  have same : parent = property :=
    List.inj_on_of_nodup_map safe.properties parentMember propertyMember
      (parentId.trans (under.trans propertyId.symm))
  rw [← parentTenant, same, propertyTenant]

/-- Every booking on a locked listing is counted, so that a count of zero means that no booking
names a unit of it. -/
theorem ListingSafe.counted {state : ListingState} (safe : ListingSafe state)
    {tenantId : Uuid} {listing : Listing} (stored : listing.Stored tenantId state.db)
    (none_ : listing.countBookings tenantId state.db = 0) :
    ∀ booking ∈ state.db.booking, booking.unitId ∉ listing.units state.db := by
  intro booking member held
  obtain ⟨parent, parentMember, parentId, parentTenant⟩ := safe.bookingParents booking member
  cases listing with
  | property id =>
    obtain ⟨unit, unitMember, unitId, under⟩ := mem_units_property.mp held
    have same : parent = unit :=
      List.inj_on_of_nodup_map safe.units parentMember unitMember (parentId.trans unitId.symm)
    have tenant : booking.tenantId = tenantId := by
      rw [← parentTenant, same]
      exact safe.unit_tenant stored unitMember under
    have empty := List.length_eq_zero_iff.mp none_
    refine List.filter_eq_nil_iff.mp empty booking member ?_
    exact decide_eq_true ⟨tenant, unit, unitMember, unitId, under⟩
  | unit id =>
    obtain ⟨unit, unitMember, unitId, unitTenant⟩ := stored
    have onUnit : booking.unitId = id := mem_units_unit.mp held
    have same : parent = unit :=
      List.inj_on_of_nodup_map safe.units parentMember unitMember
        (parentId.trans (onUnit.trans unitId.symm))
    have tenant : booking.tenantId = tenantId := by
      rw [← parentTenant, same, unitTenant]
    have empty := List.length_eq_zero_iff.mp none_
    refine List.filter_eq_nil_iff.mp empty booking member ?_
    exact decide_eq_true ⟨onUnit, tenant⟩

/-! ### What a delete leaves -/

theorem delete_unit (db : Db) (listing : Listing) :
    (listing.delete db).unit = db.unit.filter (·.id ∉ listing.units db) := by
  cases listing <;> rfl

theorem mem_delete_unit {db : Db} {listing : Listing} {unit : RentalUnit} :
    unit ∈ (listing.delete db).unit ↔ unit ∈ db.unit ∧ unit.id ∉ listing.units db := by
  rw [delete_unit, List.mem_filter, decide_eq_true_eq]

theorem mem_delete_property {db : Db} {listing : Listing} {property : Property} :
    property ∈ (listing.delete db).property ↔
      property ∈ db.property ∧ listing ≠ .property property.id := by
  cases listing with
  | property id =>
    have same : Listing.property id ≠ .property property.id ↔ property.id ≠ id := by
      rw [ne_eq, Listing.property.injEq, eq_comm]
    rw [same]
    simp only [Listing.delete, List.mem_filter, decide_eq_true_eq]
    exact Iff.rfl
  | unit id =>
    exact ⟨fun member => ⟨member, nofun⟩, And.left⟩

/-- The row without the connection it was imported through. -/
def Booking.unlinked (booking : Booking) : Booking := { booking with channelConnectionId := none }

theorem delete_booking (db : Db) (listing : Listing) :
    (listing.delete db).booking.map Booking.unlinked = db.booking.map Booking.unlinked := by
  cases listing <;>
    simp only [Listing.delete, Db.removeUnits, List.map_map] <;>
    exact List.map_congr_left fun booking _ => rfl

/-- Every booking after a delete was there before, on the same unit. -/
theorem mem_delete_booking {db : Db} {listing : Listing} {booking : Booking}
    (member : booking ∈ (listing.delete db).booking) :
    ∃ old ∈ db.booking, old.unitId = booking.unitId ∧ old.tenantId = booking.tenantId := by
  have unlinked : booking.unlinked ∈ db.booking.map Booking.unlinked := by
    rw [← delete_booking db listing]
    exact List.mem_map_of_mem member
  obtain ⟨old, oldMember, same⟩ := List.mem_map.mp unlinked
  have unit : old.unlinked.unitId = booking.unlinked.unitId := by rw [same]
  have tenant : old.unlinked.tenantId = booking.unlinked.tenantId := by rw [same]
  exact ⟨old, oldMember, unit, tenant⟩

theorem delete_payment (db : Db) (listing : Listing) :
    (listing.delete db).payment = db.payment := by
  cases listing <;> rfl

theorem delete_paymentEvent (db : Db) (listing : Listing) :
    (listing.delete db).paymentEvent = db.paymentEvent := by
  cases listing <;> rfl

theorem Booking.HasUnit.delete {db : Db} {booking : Booking} (has : booking.HasUnit db)
    {listing : Listing} (apart : booking.unitId ∉ listing.units db) :
    booking.HasUnit (listing.delete db) := by
  obtain ⟨unit, member, id, tenant⟩ := has
  refine ⟨unit, mem_delete_unit.mpr ⟨member, ?_⟩, id, tenant⟩
  rw [id]
  exact apart

theorem RentalUnit.HasProperty.delete {db : Db} {unit : RentalUnit} (has : unit.HasProperty db)
    {listing : Listing} (apart : listing ≠ .property unit.propertyId) :
    unit.HasProperty (listing.delete db) := by
  obtain ⟨property, member, id, tenant⟩ := has
  refine ⟨property, mem_delete_property.mpr ⟨member, ?_⟩, id, tenant⟩
  rw [id]
  exact apart

/-- What goes with a listing that was stored: it is not stored any more. -/
theorem not_stored_delete (db : Db) (tenantId : Uuid) (listing : Listing) :
    ¬ listing.Stored tenantId (listing.delete db) := by
  cases listing with
  | property id =>
    rintro ⟨property, member, same, -⟩
    exact (mem_delete_property.mp member).2 (congrArg Listing.property same.symm)
  | unit id =>
    rintro ⟨unit, member, same, -⟩
    exact (mem_delete_unit.mp member).2 (mem_units_unit.mpr same)

/-! ### What other transactions keep -/

/-- What a remove knows outlives a change of the database that keeps its row, puts no unit under
it, and puts no booking on a unit it has locked. -/
theorem RemovePhase.Knows.transfer {tenantId : Uuid} {listing : Listing} {db after : Db}
    {phase : RemovePhase} (knows : phase.Knows tenantId listing db)
    (stored : phase ≠ .locking → listing.Stored tenantId db → listing.Stored tenantId after)
    (units : phase ≠ .locking → ∀ id ∈ listing.units after, id ∈ listing.units db)
    (bookings : ∀ booking ∈ after.booking,
      (∃ old ∈ db.booking, old.unitId = booking.unitId) ∨ booking.unitId ∉ phase.locked) :
    phase.Knows tenantId listing after := by
  have unbooked : phase ≠ .locking → (∀ id ∈ listing.units db, id ∈ phase.locked) →
      (∀ booking ∈ db.booking, booking.unitId ∉ listing.units db) →
      ∀ booking ∈ after.booking, booking.unitId ∉ listing.units after := by
    intro begun locked none_ booking member held
    rcases bookings booking member with ⟨old, oldMember, same⟩ | apart
    · refine none_ old oldMember ?_
      rw [same]
      exact units begun _ held
    · exact apart (locked _ (units begun _ held))
  cases phase with
  | locking => trivial
  | selectingUnits => exact stored nofun knows
  | lockingUnits left locked =>
    exact ⟨stored nofun knows.1, fun id member => knows.2 id (units nofun id member)⟩
  | counting locked =>
    exact ⟨stored nofun knows.1, fun id member => knows.2 id (units nofun id member)⟩
  | deleting locked | committing locked =>
    exact ⟨⟨stored nofun knows.1.1, fun id member => knows.1.2 id (units nofun id member)⟩,
      unbooked nofun knows.1.2 knows.2⟩

/-- A unit committed by a transaction that shares its property. -/
theorem ListingTask.Sound.addUnit {db : Db} {task : ListingTask} (sound : task.Sound db)
    {unit : RentalUnit} (apart : ¬ task.Takes (.property unit.propertyId)) :
    task.Sound { db with unit := db.unit ++ [unit] } := by
  cases task with
  | idle => trivial
  | removing tenantId listing phase =>
    refine RemovePhase.Knows.transfer sound ?_ ?_ ?_
    · intro _ stored
      cases listing with
      | property id => exact stored
      | unit id =>
        obtain ⟨row, member, holds⟩ := stored
        exact ⟨row, List.mem_append_left _ member, holds⟩
    · intro begun id member
      cases listing with
      | property propertyId =>
        obtain ⟨row, rowMember, rowId, under⟩ := mem_units_property.mp member
        rcases List.mem_append.mp rowMember with old | new
        · exact mem_units_property.mpr ⟨row, old, rowId, under⟩
        · rw [List.mem_singleton.mp new] at under
          refine absurd (takes_removing.mpr (Or.inl ⟨begun, ?_⟩)) apart
          rw [under]
          rfl
      | unit unitId => exact mem_units_unit.mpr (mem_units_unit.mp member)
    · exact fun booking member => Or.inl ⟨booking, member, rfl⟩
  | answered _ _ answer => exact sound
  | creatingUnit other => exact sound
  | booking rows =>
    intro booking member
    obtain ⟨row, rowMember, holds⟩ := sound booking member
    exact ⟨row, List.mem_append_left _ rowMember, holds⟩

/-- Bookings committed by a transaction that shares their units. -/
theorem ListingTask.Sound.addBookings {db : Db} {task : ListingTask} (sound : task.Sound db)
    {rows : List Booking} (apart : ∀ booking ∈ rows, ¬ task.Takes (.unit booking.unitId)) :
    task.Sound { db with booking := db.booking ++ rows } := by
  cases task with
  | idle => trivial
  | removing tenantId listing phase =>
    refine RemovePhase.Knows.transfer sound (fun _ stored => ?_) (fun _ id member => member) ?_
    · cases listing <;> exact stored
    · intro booking member
      rcases List.mem_append.mp member with old | new
      · exact Or.inl ⟨booking, old, rfl⟩
      · exact Or.inr fun locked =>
          apart booking new (takes_removing.mpr (Or.inr ⟨_, locked, rfl⟩))
  | answered _ _ answer => exact sound
  | creatingUnit other => exact sound
  | booking others => exact sound

/-- A delete committed by a transaction that has the listing and its units locked. -/
theorem ListingTask.Sound.delete {db : Db} {task : ListingTask} (sound : task.Sound db)
    {listing : Listing} (apartRow : ¬ task.Takes listing.row ∧ ¬ task.Shares listing.row)
    (apartUnits : ∀ id ∈ listing.units db,
      ¬ task.Takes (.unit id) ∧ ¬ task.Shares (.unit id)) :
    task.Sound (listing.delete db) := by
  cases task with
  | idle => trivial
  | removing tenantId other phase =>
    refine RemovePhase.Knows.transfer sound ?_ ?_ ?_
    · intro begun stored
      have apart : listing.row ≠ other.row := by
        intro same
        exact apartRow.1 (takes_removing.mpr (Or.inl ⟨begun, same⟩))
      cases other with
      | property id =>
        obtain ⟨property, member, same, tenant⟩ := stored
        refine ⟨property, mem_delete_property.mpr ⟨member, ?_⟩, same, tenant⟩
        rintro rfl
        exact apart (congrArg ListingRow.property same)
      | unit id =>
        obtain ⟨unit, member, same, tenant⟩ := stored
        refine ⟨unit, mem_delete_unit.mpr ⟨member, fun gone => ?_⟩, same, tenant⟩
        refine (apartUnits unit.id gone).1 (takes_removing.mpr (Or.inl ⟨begun, ?_⟩))
        rw [same]
        rfl
    · intro _ id member
      cases other with
      | property propertyId =>
        obtain ⟨unit, unitMember, holds⟩ := mem_units_property.mp member
        exact mem_units_property.mpr ⟨unit, (mem_delete_unit.mp unitMember).1, holds⟩
      | unit unitId => exact mem_units_unit.mpr (mem_units_unit.mp member)
    · intro booking member
      obtain ⟨old, oldMember, same, -⟩ := mem_delete_booking member
      exact Or.inl ⟨old, oldMember, same⟩
  | answered _ _ answer => exact sound
  | creatingUnit unit =>
    refine RentalUnit.HasProperty.delete sound ?_
    rintro rfl
    exact apartRow.2 (shares_creatingUnit.mpr rfl)
  | booking rows =>
    intro booking member
    refine (sound booking member).delete fun gone => ?_
    exact (apartUnits _ gone).2 (shares_booking.mpr ⟨booking, member, rfl⟩)

/-! ### One step -/

/-- A party's task goes on, taking and sharing only what it may. -/
theorem ListingSafe.put {state : ListingState} (safe : ListingSafe state) {party : Nat}
    {task : ListingTask} (sound : task.Sound state.db)
    (takes : ∀ row, task.Takes row →
      (state.tasks party).Takes row ∨ state.FreeToTake party row)
    (shares : ∀ row, task.Shares row →
      (state.tasks party).Shares row ∨ state.FreeToShare party row) :
    ListingSafe (state.put party task) where
  properties := safe.properties
  units := safe.units
  unitParents := safe.unitParents
  bookingParents := safe.bookingParents
  respected := safe.respected.update takes shares
  tasks := by
    intro other
    show (Function.update state.tasks party task other).Sound state.db
    by_cases same : other = party
    · rw [same, Function.update_self]
      exact sound
    · rw [Function.update_of_ne same]
      exact safe.tasks other
  removed := safe.removed

/-- A remove goes on, taking a row more at most. -/
theorem ListingSafe.remove {state : ListingState} (safe : ListingSafe state) {party : Nat}
    {tenantId : Uuid} {listing : Listing} {phase next : RemovePhase}
    (runs : state.tasks party = .removing tenantId listing phase)
    (knows : next.Knows tenantId listing state.db)
    (row : phase ≠ .locking ∨ state.FreeToTake party listing.row)
    (units : ∀ id ∈ next.locked, id ∈ phase.locked ∨ state.FreeToTake party (.unit id)) :
    ListingSafe (state.put party (.removing tenantId listing next)) := by
  refine safe.put knows ?_ fun row shared => absurd shared (shares_removing _ _ _ row)
  intro taken takes
  rw [runs, takes_removing]
  rcases takes_removing.mp takes with ⟨-, rfl⟩ | ⟨id, member, rfl⟩
  · rcases row with begun | free
    · exact Or.inl (Or.inl ⟨begun, rfl⟩)
    · exact Or.inr free
  · rcases units id member with locked | free
    · exact Or.inl (Or.inr ⟨id, locked, rfl⟩)
    · exact Or.inr free

/-- A task that ends lets its locks go. -/
theorem ListingSafe.finish {state : ListingState} (safe : ListingSafe state) (party : Nat)
    {task : ListingTask} (sound : task.Sound state.db) (takes : ∀ row, ¬ task.Takes row)
    (shares : ∀ row, ¬ task.Shares row) : ListingSafe (state.put party task) :=
  safe.put sound (fun row held => absurd held (takes row))
    (fun row held => absurd held (shares row))

/-- The tasks after a party ends its task and the database changes. -/
theorem ListingState.sound_update {state : ListingState} {party : Nat} {task : ListingTask}
    {after : Db} (sound : task.Sound after)
    (others : ∀ other, other ≠ party → (state.tasks other).Sound after) (other : Nat) :
    (Function.update state.tasks party task other).Sound after := by
  by_cases same : other = party
  · rw [same, Function.update_self]
    exact sound
  · rw [Function.update_of_ne same]
    exact others other same

theorem ListingSafe.commitUnit {state : ListingState} (safe : ListingSafe state) {party : Nat}
    {unit : RentalUnit} (runs : state.tasks party = .creatingUnit unit)
    (fresh : ∀ other ∈ state.db.unit, other.id ≠ unit.id)
    (undrawn : unit.id ∉ state.removedUnits) :
    ListingSafe { state with
      db := { state.db with unit := state.db.unit ++ [unit] }
      tasks := Function.update state.tasks party .idle } where
  properties := safe.properties
  units := by
    show ((state.db.unit ++ [unit]).map RentalUnit.id).Nodup
    rw [List.map_append, List.nodup_append]
    refine ⟨safe.units, List.nodup_singleton _, ?_⟩
    intro id stored other new same
    obtain ⟨row, member, rowId⟩ := List.mem_map.mp stored
    rw [List.mem_singleton.mp new] at same
    exact fresh row member (rowId.trans same)
  unitParents := by
    intro row member
    rcases List.mem_append.mp member with old | new
    · exact safe.unitParents row old
    · have parent := safe.tasks party
      rw [runs] at parent
      rw [List.mem_singleton.mp new]
      exact parent
  bookingParents := by
    intro booking member
    obtain ⟨row, rowMember, holds⟩ := safe.bookingParents booking member
    exact ⟨row, List.mem_append_left _ rowMember, holds⟩
  respected := safe.respected.update (fun row held => absurd held (takes_idle row))
    (fun row held => absurd held (shares_idle row))
  tasks := by
    refine ListingState.sound_update trivial fun other apart => (safe.tasks other).addUnit ?_
    intro taken
    refine (safe.respected other party _ apart taken).2 ?_
    rw [runs]
    exact shares_creatingUnit.mpr rfl
  removed := by
    intro id gone row member
    rcases List.mem_append.mp member with old | new
    · exact safe.removed id gone row old
    · rw [List.mem_singleton.mp new]
      rintro rfl
      exact undrawn gone

theorem ListingSafe.commitBookings {state : ListingState} (safe : ListingSafe state)
    {party : Nat} {rows : List Booking} (runs : state.tasks party = .booking rows) :
    ListingSafe { state with
      db := { state.db with booking := state.db.booking ++ rows }
      tasks := Function.update state.tasks party .idle } where
  properties := safe.properties
  units := safe.units
  unitParents := safe.unitParents
  bookingParents := by
    intro booking member
    rcases List.mem_append.mp member with old | new
    · exact safe.bookingParents booking old
    · have parents := safe.tasks party
      rw [runs] at parents
      exact parents booking new
  respected := safe.respected.update (fun row held => absurd held (takes_idle row))
    (fun row held => absurd held (shares_idle row))
  tasks := by
    refine ListingState.sound_update trivial fun other apart => (safe.tasks other).addBookings ?_
    intro booking member taken
    refine (safe.respected other party _ apart taken).2 ?_
    rw [runs]
    exact shares_booking.mpr ⟨booking, member, rfl⟩
  removed := safe.removed

theorem ListingSafe.commitRemove {state : ListingState} (safe : ListingSafe state)
    {party : Nat} {tenantId : Uuid} {listing : Listing} {locked : List Uuid}
    (runs : state.tasks party = .removing tenantId listing (.committing locked)) :
    ListingSafe
      { db := listing.delete state.db
        tasks := Function.update state.tasks party (.answered tenantId listing .removed)
        removedUnits := state.removedUnits ++ listing.units state.db } := by
  have knows := safe.tasks party
  rw [runs] at knows
  obtain ⟨⟨stored, units⟩, unbooked⟩ := knows
  have takesRow : (state.tasks party).Takes listing.row := by
    rw [runs]
    exact takes_removing.mpr (Or.inl ⟨nofun, rfl⟩)
  have takesUnit : ∀ id ∈ listing.units state.db, (state.tasks party).Takes (.unit id) := by
    intro id member
    rw [runs]
    exact takes_removing.mpr (Or.inr ⟨id, units id member, rfl⟩)
  have unitRows : (listing.delete state.db).unit.Sublist state.db.unit := by
    rw [delete_unit]
    exact List.filter_sublist
  refine ⟨?_, safe.units.sublist (unitRows.map _), ?_, ?_, ?_, ?_, ?_⟩
  · cases listing with
    | property id => exact safe.properties.sublist (List.filter_sublist.map _)
    | unit id => exact safe.properties
  · intro unit member
    obtain ⟨old, kept⟩ := mem_delete_unit.mp member
    refine (safe.unitParents unit old).delete ?_
    rintro rfl
    exact kept (mem_units_property.mpr ⟨unit, old, rfl, rfl⟩)
  · intro booking member
    obtain ⟨old, oldMember, unit, tenant⟩ := mem_delete_booking member
    obtain ⟨row, rowMember, rowId, rowTenant⟩ :=
      (safe.bookingParents old oldMember).delete (unbooked old oldMember)
    exact ⟨row, rowMember, rowId.trans unit, rowTenant.trans tenant⟩
  · exact safe.respected.update (fun row held => absurd held (takes_answered _ _ _ row))
      (fun row held => absurd held (shares_answered _ _ _ row))
  · refine ListingState.sound_update (fun wrong => nomatch wrong) fun other apart =>
      (safe.tasks other).delete (safe.respected party other _ apart.symm takesRow) ?_
    exact fun id member => safe.respected party other _ apart.symm (takesUnit id member)
  · intro id gone unit member
    obtain ⟨old, kept⟩ := mem_delete_unit.mp member
    rcases List.mem_append.mp gone with before | now
    · exact safe.removed id before unit old
    · rintro rfl
      exact kept now

/-- Once its row is locked a remove knows that it is stored, and of a unit that no other row is to
be locked. -/
theorem Listing.knows_afterLock {tenantId : Uuid} {listing : Listing} {db : Db}
    (stored : listing.Stored tenantId db) : listing.afterLock.Knows tenantId listing db := by
  cases listing with
  | property id => exact stored
  | unit id =>
    exact ⟨stored, fun other member => List.mem_singleton.mpr (mem_units_unit.mp member)⟩

/-- The one row a remove of a unit has locked by then is the unit's. -/
theorem Listing.locked_afterLock {listing : Listing} {id : Uuid}
    (member : id ∈ listing.afterLock.locked) : ListingRow.unit id = listing.row := by
  cases listing with
  | property propertyId => exact absurd member List.not_mem_nil
  | unit unitId =>
    rw [List.mem_singleton.mp member]
    rfl

/-- The unit locked next moves from those left to those locked. -/
theorem RemovePhase.Knows.lockUnit {tenantId : Uuid} {listing : Listing} {db : Db} {id : Uuid}
    {left locked : List Uuid}
    (knows : (RemovePhase.lockingUnits (id :: left) locked).Knows tenantId listing db) :
    (RemovePhase.lockingUnits left (id :: locked)).Knows tenantId listing db := by
  refine ⟨knows.1, fun other member => ?_⟩
  rcases knows.2 other member with waiting | held
  · rcases List.mem_cons.mp waiting with rfl | later
    · exact Or.inr List.mem_cons_self
    · exact Or.inl later
  · exact Or.inr (List.mem_cons_of_mem _ held)

/-- A unit that is gone is no unit of the listing any more, so it may be skipped. -/
theorem RemovePhase.Knows.skipUnit {tenantId : Uuid} {listing : Listing} {db : Db} {id : Uuid}
    {left locked : List Uuid}
    (knows : (RemovePhase.lockingUnits (id :: left) locked).Knows tenantId listing db)
    (gone : ¬ ∃ unit ∈ db.unit, unit.id = id) :
    (RemovePhase.lockingUnits left locked).Knows tenantId listing db := by
  refine ⟨knows.1, fun other member => ?_⟩
  rcases knows.2 other member with waiting | held
  · rcases List.mem_cons.mp waiting with rfl | later
    · refine absurd ?_ gone
      cases listing with
      | property propertyId =>
        obtain ⟨unit, unitMember, unitId, -⟩ := mem_units_property.mp member
        exact ⟨unit, unitMember, unitId⟩
      | unit unitId =>
        obtain ⟨unit, unitMember, same, -⟩ := knows.1
        exact ⟨unit, unitMember, same.trans (mem_units_unit.mp member).symm⟩
    · exact Or.inl later
  · exact Or.inr held

/-- Where none is left to lock, every unit of the listing is locked. -/
theorem RemovePhase.Knows.unitsLocked {tenantId : Uuid} {listing : Listing} {db : Db}
    {locked : List Uuid}
    (knows : (RemovePhase.lockingUnits [] locked).Knows tenantId listing db) :
    (RemovePhase.counting locked).Knows tenantId listing db := by
  refine ⟨knows.1, fun other member => ?_⟩
  rcases knows.2 other member with waiting | held
  · exact absurd waiting List.not_mem_nil
  · exact held

/-- A snapshot taken behind the lock on a property shows every unit there is under it: a unit under
it is of its tenant. -/
theorem ListingSafe.selectUnits {state : ListingState} (safe : ListingSafe state) {party : Nat}
    {tenantId id : Uuid}
    (runs : state.tasks party = .removing tenantId (.property id) .selectingUnits) :
    ListingSafe (state.put party (.removing tenantId (.property id)
      (.lockingUnits ((state.db.unit.filter fun unit =>
        unit.propertyId = id ∧ unit.tenantId = tenantId).map RentalUnit.id) []))) := by
  have stored := safe.tasks party
  rw [runs] at stored
  refine safe.remove runs ⟨stored, fun other member => ?_⟩ (Or.inl nofun)
    fun other member => absurd member List.not_mem_nil
  obtain ⟨unit, unitMember, unitId, under⟩ := mem_units_property.mp member
  have tenant := safe.unit_tenant stored unitMember under
  exact Or.inl (List.mem_map.mpr
    ⟨unit, List.mem_filter.mpr ⟨unitMember, decide_eq_true ⟨under, tenant⟩⟩, unitId⟩)

/-- A booking joins the rows of its transaction: it has its unit, whose row is free to share. -/
theorem ListingSafe.insertBooking {state : ListingState} (safe : ListingSafe state) {party : Nat}
    {rows : List Booking} {booking : Booking}
    (runs : state.tasks party = .idle ∧ rows = [] ∨ state.tasks party = .booking rows)
    (parent : booking.HasUnit state.db)
    (free : state.FreeToShare party (.unit booking.unitId)) :
    ListingSafe (state.put party (.booking (rows ++ [booking]))) := by
  have sound := safe.tasks party
  have earlier : ∀ other ∈ rows, other.HasUnit state.db ∧
      (state.tasks party).Shares (.unit other.unitId) := by
    rcases runs with ⟨-, rfl⟩ | running
    · exact fun other member => absurd member List.not_mem_nil
    · rw [running] at sound ⊢
      exact fun other member =>
        ⟨sound other member, shares_booking.mpr ⟨other, member, rfl⟩⟩
  refine safe.put ?_ (fun row held => absurd held (takes_booking _ row)) ?_
  · intro other member
    rcases List.mem_append.mp member with old | new
    · exact (earlier other old).1
    · rw [List.mem_singleton.mp new]
      exact parent
  · intro row held
    obtain ⟨other, member, rfl⟩ := shares_booking.mp held
    rcases List.mem_append.mp member with old | new
    · exact Or.inl (earlier other old).2
    · rw [List.mem_singleton.mp new]
      exact Or.inr free

/-- A transaction that drops some of its bookings shares no unit it did not share before. -/
theorem ListingSafe.undo {state : ListingState} (safe : ListingSafe state) {party : Nat}
    {rows kept : List Booking} (runs : state.tasks party = .booking rows)
    (fewer : kept.Sublist rows) : ListingSafe (state.put party (.booking kept)) := by
  have sound := safe.tasks party
  rw [runs] at sound
  refine safe.put (fun booking member => sound booking (fewer.subset member))
    (fun row held => absurd held (takes_booking _ row)) ?_
  intro row held
  obtain ⟨booking, member, rfl⟩ := shares_booking.mp held
  rw [runs]
  exact Or.inl (shares_booking.mpr ⟨booking, fewer.subset member, rfl⟩)

/-- Every step keeps the state safe. A step that takes or shares a row finds it free; one that
commits has held what it needs since it looked. -/
theorem ListingSafe.step {state after : ListingState} (safe : ListingSafe state) {party : Nat}
    (step : ListingStep state party after) : ListingSafe after := by
  have sound := safe.tasks party
  cases step with
  | remove tenantId listing idle =>
    refine safe.put trivial (fun row held => ?_)
      fun row held => absurd held (shares_removing _ _ _ row)
    rcases takes_removing.mp held with ⟨begun, -⟩ | ⟨id, member, -⟩
    · exact absurd rfl begun
    · exact absurd member List.not_mem_nil
  | lock tenantId listing runs stored free =>
    refine safe.remove runs (Listing.knows_afterLock stored) (Or.inr free) fun id member => ?_
    rw [Listing.locked_afterLock member]
    exact Or.inr free
  | missing tenantId listing runs absent =>
    exact safe.finish party nofun (takes_answered _ _ _) (shares_answered _ _ _)
  | selectUnits tenantId id runs => exact safe.selectUnits runs
  | lockUnit tenantId listing id left locked runs stored free =>
    rw [runs] at sound
    refine safe.remove runs sound.lockUnit (Or.inl nofun) fun other member => ?_
    rcases List.mem_cons.mp member with rfl | held
    · exact Or.inr free
    · exact Or.inl held
  | skipUnit tenantId listing id left locked runs gone =>
    rw [runs] at sound
    exact safe.remove runs (sound.skipUnit gone) (Or.inl nofun) fun other held => Or.inl held
  | unitsLocked tenantId listing locked runs =>
    rw [runs] at sound
    exact safe.remove runs sound.unitsLocked (Or.inl nofun) fun other held => Or.inl held
  | refuse tenantId listing locked runs bookings =>
    exact safe.finish party nofun (takes_answered _ _ _) (shares_answered _ _ _)
  | clear tenantId listing locked runs none_ =>
    rw [runs] at sound
    exact safe.remove runs ⟨sound, safe.counted sound.1 none_⟩ (Or.inl nofun)
      fun other held => Or.inl held
  | delete tenantId listing locked runs free unbooked =>
    rw [runs] at sound
    refine safe.remove runs ⟨⟨sound.1.1, fun id member => List.mem_append_left _ member⟩,
      unbooked⟩ (Or.inl nofun) fun id member => ?_
    rcases List.mem_append.mp member with unit | held
    · exact Or.inr (free id unit)
    · exact Or.inl held
  | violate tenantId listing locked runs booked =>
    rw [runs] at sound
    obtain ⟨booking, member, held⟩ := booked
    exact absurd held (sound.2 booking member)
  | commitRemove tenantId listing locked runs => exact safe.commitRemove runs
  | insertUnit unit idle parent free =>
    refine safe.put parent (fun row held => absurd held (takes_creatingUnit _ row)) ?_
    intro row held
    rw [shares_creatingUnit.mp held]
    exact Or.inr free
  | commitUnit unit runs fresh undrawn => exact safe.commitUnit runs fresh undrawn
  | insertBooking rows booking runs parent free => exact safe.insertBooking runs parent free
  | undo rows kept runs fewer => exact safe.undo runs fewer
  | commitBookings rows runs => exact safe.commitBookings runs
  | recordPayment payment idle parent => exact { safe with }
  | recordEvent event idle parent => exact { safe with }
  | rollback => exact safe.finish party trivial takes_idle shares_idle

/-! ### Every run -/

theorem ListingState.Fresh.safe {state : ListingState} (fresh : state.Fresh) :
    ListingSafe state where
  properties := fresh.properties
  units := fresh.units
  unitParents := fresh.unitParents
  bookingParents := fresh.bookingParents
  respected := by
    intro first second row _ held
    rw [fresh.tasks first] at held
    exact absurd held (takes_idle row)
  tasks := by
    intro party
    rw [fresh.tasks party]
    trivial
  removed := by
    intro id gone
    rw [fresh.removedUnits] at gone
    exact absurd gone List.not_mem_nil

theorem ListingRun.safe {start state : ListingState} (fresh : start.Fresh)
    (run : ListingRun start state) : ListingSafe state := by
  induction run with
  | start => exact fresh.safe
  | next _ step inductionHypothesis => exact inductionHypothesis.step step

/-- No row of the ledger goes; a booking may forget the connection it came through. -/
structure Db.KeepsLedger (before after : Db) : Prop where
  booking : before.booking.map Booking.unlinked <+: after.booking.map Booking.unlinked
  payment : before.payment <+: after.payment
  paymentEvent : before.paymentEvent <+: after.paymentEvent

theorem Db.KeepsLedger.refl (db : Db) : db.KeepsLedger db :=
  ⟨List.prefix_rfl, List.prefix_rfl, List.prefix_rfl⟩

theorem Db.KeepsLedger.trans {first second third : Db} (earlier : first.KeepsLedger second)
    (later : second.KeepsLedger third) : first.KeepsLedger third :=
  ⟨earlier.booking.trans later.booking, earlier.payment.trans later.payment,
    earlier.paymentEvent.trans later.paymentEvent⟩

theorem Db.KeepsLedger.delete (db : Db) (listing : Listing) :
    db.KeepsLedger (listing.delete db) where
  booking := by rw [delete_booking]
  payment := by rw [delete_payment]
  paymentEvent := by rw [delete_paymentEvent]

/-- What an answer of a remove says of the database before it and after it. -/
def RemoveAnswer.Tells (tenantId : Uuid) (listing : Listing) (before after : Db) :
    RemoveAnswer → Prop
  | .removed =>
    listing.Stored tenantId before ∧
      (∀ booking ∈ before.booking, booking.unitId ∉ listing.units before) ∧
      after = listing.delete before ∧ ¬ listing.Stored tenantId after
  | .notFound => ¬ listing.Stored tenantId before ∧ after = before
  | .hasBookings bookings =>
    bookings = listing.countBookings tenantId before ∧ 0 < bookings ∧ after = before
  | .foreignKey => False

/-- A step of a remove that gives no answer changes nothing, and an answer tells what it did. -/
theorem ListingSafe.answers {state after : ListingState} (safe : ListingSafe state)
    {party : Nat} (step : ListingStep state party after) {tenantId : Uuid} {listing : Listing}
    {phase : RemovePhase} (runs : state.tasks party = .removing tenantId listing phase) :
    (∃ answer, after.tasks party = .answered tenantId listing answer ∧
        answer.Tells tenantId listing state.db after.db) ∨
      (∀ answer, after.tasks party ≠ .answered tenantId listing answer) ∧
        after.db = state.db := by
  have sound := safe.tasks party
  rw [runs] at sound
  have silent : ∀ task : ListingTask, (∀ answer, task ≠ .answered tenantId listing answer) →
      ∀ answer, (state.put party task).tasks party ≠ .answered tenantId listing answer := by
    intro task other answer
    show Function.update state.tasks party task party ≠ _
    rw [Function.update_self]
    exact other answer
  cases step with
  | missing _ _ running absent =>
    rw [runs] at running
    cases running
    exact Or.inl ⟨.notFound, Function.update_self .., absent, rfl⟩
  | refuse _ _ locked running bookings =>
    rw [runs] at running
    cases running
    exact Or.inl ⟨.hasBookings _, Function.update_self .., rfl, bookings, rfl⟩
  | violate _ _ locked running booked =>
    rw [runs] at running
    cases running
    obtain ⟨booking, member, held⟩ := booked
    exact absurd held (sound.2 booking member)
  | commitRemove _ _ locked running =>
    rw [runs] at running
    cases running
    exact Or.inl ⟨.removed, Function.update_self .., sound.1.1, sound.2, rfl,
      not_stored_delete state.db tenantId listing⟩
  | remove _ _ idle | insertUnit _ idle _ _ | recordPayment _ idle _ | recordEvent _ idle _ =>
    rw [runs] at idle
    cases idle
  | commitUnit _ running _ _ | undo _ _ running _ | commitBookings _ running =>
    rw [runs] at running
    cases running
  | insertBooking _ _ running _ _ =>
    rw [runs] at running
    rcases running with ⟨running, -⟩ | running <;> cases running
  | _ => exact Or.inr ⟨silent _ nofun, rfl⟩

end Sambung
