/-
This file states which bookings the inbox names for a conflict and compares them
with the bookings that made the database refuse the import.

`findBlockingBookings` derives the refusal a second time: the occupying bookings
of the unit whose stay meets the stay of the conflict. The constraint refuses
less: an upsert moves the row imported under its UID, and a row does not clash
with itself. The two agree exactly where that row is not itself among the listed
ones.

That the listed bookings are the ones in the way is said by deletion: without all
of them the event lands, and with any one of them alone it is refused.
`upsertEvent_blocked` shows that over lawful tables the exclusion constraint is
what decides, once the UID fits its index, so the comparison is one of two sets of
rows. The database is as the refusal left it, with nothing in between.
-/

import Sambung.Inbox

namespace Sambung

/-! ### The read -/

structure BlockingBookingRow where
  conflictId : Uuid
  id : Uuid
  source : BookingSource
  status : BookingStatus
  checkIn : PgDate
  checkOut : PgDate
  guestName : Option String
  deriving DecidableEq, Repr

/-- The join of a conflict with the bookings of its unit that occupy its nights. -/
abbrev SyncConflict.BlockedBy (conflict : SyncConflict) (row : Booking) : Prop :=
  row.unitId = conflict.unitId ∧ row.tenantId = conflict.tenantId ∧ row.status.Occupying ∧
    daterangesOverlap row.checkIn row.checkOut conflict.checkIn conflict.checkOut

def blockingRow (conflict : SyncConflict) (row : Booking) : BlockingBookingRow where
  conflictId := conflict.id
  id := row.id
  source := row.source
  status := row.status
  checkIn := row.checkIn
  checkOut := row.checkOut
  guestName := row.guestName

/-- The bookings in the way of each conflict, by check-in and then by id. -/
def findBlockingBookings (tenantId : Uuid) (conflictIds : List Uuid) (db : Db) :
    List BlockingBookingRow :=
  if conflictIds = [] then []
  else
    let conflicts := db.syncConflict.filter fun conflict =>
      conflict.tenantId = tenantId ∧ conflict.id ∈ conflictIds
    let joined := conflicts.flatMap fun conflict =>
      (db.booking.filter fun row => conflict.BlockedBy row).map (blockingRow conflict)
    joined.insertionSort fun a b => a.checkIn < b.checkIn ∨ (a.checkIn = b.checkIn ∧ a.id ≤ b.id)

/-- The bookings listed for one conflict of the tenant are those the conflict is blocked by: the
join finds each of them, since the conflict's id is a key. -/
theorem mem_findBlockingBookings {tenantId : Uuid} {db : Db} {conflict : SyncConflict}
    (keyed : (db.syncConflict.map SyncConflict.id).Nodup) (member : conflict ∈ db.syncConflict)
    (ofTenant : conflict.tenantId = tenantId) {id : Uuid} :
    id ∈ (findBlockingBookings tenantId [conflict.id] db).map BlockingBookingRow.id ↔
      ∃ row ∈ db.booking, row.id = id ∧ conflict.BlockedBy row := by
  unfold findBlockingBookings
  rw [if_neg (List.cons_ne_nil _ _)]
  simp only [List.mem_map, (List.perm_insertionSort _ _).mem_iff, List.mem_flatMap,
    List.mem_filter, List.mem_singleton, decide_eq_true_eq]
  constructor
  · rintro ⟨_, ⟨other, ⟨otherMember, -, sameId⟩, row, ⟨rowMember, blocked⟩, rfl⟩, rfl⟩
    rw [Table.eq_of_key keyed otherMember member sameId] at blocked
    exact ⟨row, rowMember, rfl, blocked⟩
  · rintro ⟨row, rowMember, rfl, blocked⟩
    exact ⟨blockingRow conflict row,
      ⟨conflict, ⟨member, ofTenant, rfl⟩, row, ⟨rowMember, blocked⟩, rfl⟩, rfl⟩

/-! ### What the constraint refuses -/

/-- A booking of the unit, other than the one imported under the UID, occupies a night of the
stay. -/
def Blocked (conn : ChannelConnection) (uid : String) (checkIn checkOut : PgDate) (db : Db) :
    Prop :=
  ∃ row ∈ db.booking, ¬ row.ImportedAs conn.id uid ∧ row.unitId = conn.unitId ∧
    row.status.Occupying ∧ daterangesOverlap row.checkIn row.checkOut checkIn checkOut

/-- A registered connection of a consistent database: its foreign keys hold, and the rows it wrote
are in its unit. -/
structure ChannelConnection.Registered (conn : ChannelConnection) (db : Db) : Prop where
  connection : ∃ row ∈ db.channelConnection, row.id = conn.id
  units : (db.unit.map RentalUnit.id).Nodup
  unit : ∃ unit ∈ db.unit, unit.id = conn.unitId ∧ unit.tenantId = conn.tenantId
  imports : db.ImportsOwned conn
  conflicts : db.ConflictsOwned conn

theorem ChannelConnection.Registered.withoutBookings {conn : ChannelConnection} {db : Db}
    (registered : conn.Registered db) (ids : List Uuid) :
    conn.Registered (db.withoutBookings ids) :=
  { registered with
    imports := fun row member => registered.imports row (Db.mem_withoutBookings.mp member).1 }

/-- Under the foreign keys the bookings of a connection's unit are its tenant's. -/
theorem ChannelConnection.Registered.tenant [PostgresServer] {conn : ChannelConnection} {db : Db}
    (registered : conn.Registered db) (lawful : db.BookingsLawful) {row : Booking}
    (member : row ∈ db.booking) (ofUnit : row.unitId = conn.unitId) :
    row.tenantId = conn.tenantId := by
  have linked := lawful.linked row member
  unfold Db.failedForeignKey at linked
  split at linked
  · cases linked
  · rename_i known
    obtain ⟨unit, unitMember, sameId, sameTenant⟩ := not_not.mp known
    obtain ⟨other, otherMember, otherId, otherTenant⟩ := registered.unit
    have same := Table.eq_of_key registered.units unitMember otherMember
      (sameId.trans (ofUnit.trans otherId.symm))
    rw [← sameTenant, same, otherTenant]

section Upsert

variable {uuids : UuidSource} {conn : ChannelConnection} {event : ImportedEvent} {db : Db}
  {checkIn checkOut : PgDate}

/-- The stay of an event as the database binds it: it is not empty, and the UID can be stored. -/
structure ImportedEvent.Bound (event : ImportedEvent) (checkIn checkOut : PgDate) : Prop where
  storable : pgText event.uid
  stay : bindStay event.start event.stop = .ok (checkIn, checkOut)
  ordered : checkIn < checkOut

/-- Where no other row shares the UID, the index refuses exactly what clashes. -/
theorem failedIndex_unshared (db : Db) (row : Booking)
    (unshared : ∀ other ∈ db.booking, other.id ≠ row.id → ¬ other.SharesExternalUid row) :
    (db.failedIndex row = some .bookingNoOverlap ∧
        ∃ other ∈ db.booking, other.id ≠ row.id ∧ other.Clashes row) ∨
      (db.failedIndex row = none ∧
        ∀ other ∈ db.booking, other.id ≠ row.id → ¬ other.Clashes row) := by
  have noneShared : ¬ ∃ other ∈ db.booking, other.id ≠ row.id ∧ other.SharesExternalUid row :=
    fun ⟨other, member, apart, shares⟩ => unshared other member apart shares
  unfold Db.failedIndex
  rw [if_neg noneShared]
  by_cases clashing : ∃ other ∈ db.booking, other.id ≠ row.id ∧ other.Clashes row
  · exact Or.inl ⟨if_pos clashing, clashing⟩
  · exact Or.inr ⟨if_neg clashing, fun other member apart clash =>
      clashing ⟨other, member, apart, clash⟩⟩

/-- A new import whose UID fits its index passes its own checks and its foreign keys. -/
theorem importedRow_accepted [PostgresServer] (registered : conn.Registered db)
    (bound : event.Bound checkIn checkOut) (entered : uidIndexRefusal event.uid = none)
    (id : Uuid) :
    db.bookingRefusal (importedRow conn event.uid checkIn checkOut id) =
      (db.failedIndex (importedRow conn event.uid checkIn checkOut id)).map .violation := by
  have texts : (importedRow conn event.uid checkIn checkOut id).texts.all pgText := by
    simp [Booking.texts, importedRow, bound.storable]
  have checked : (importedRow conn event.uid checkIn checkOut id).failedCheck = none :=
    Booking.failedCheck_eq_none.mpr ⟨by simp [importedRow], bound.ordered, by simp [importedRow]⟩
  have known : ¬ ∃ id ∈ some conn.id, ¬ ∃ row ∈ db.channelConnection, row.id = id := by
    rintro ⟨other, same, missing⟩
    cases same
    exact missing registered.connection
  have linked : db.failedForeignKey (importedRow conn event.uid checkIn checkOut id) = none :=
    (if_neg (not_not.mpr registered.unit)).trans (if_neg known)
  have entry : (importedRow conn event.uid checkIn checkOut id).indexRefusal = none := entered
  unfold Db.bookingRefusal
  rw [if_neg (not_not.mpr texts), checked, entry, linked, Option.map_none, Option.none_or,
    Option.none_or, Option.or_none]

/-- Over lawful tables the constraint is the only thing that can refuse such an event, once its
UID fits the index. -/
theorem upsertEvent_blocked [PostgresServer] (uuids : UuidSource)
    (lawful : db.BookingsLawful) (registered : conn.Registered db)
    (bound : event.Bound checkIn checkOut) (entered : uidIndexRefusal event.uid = none) :
    (Blocked conn event.uid checkIn checkOut db ∧
        upsertEvent uuids conn event db = .error (.violation .bookingNoOverlap)) ∨
      (¬ Blocked conn event.uid checkIn checkOut db ∧
        ∃ after, upsertEvent uuids conn event db = .ok after) := by
  unfold upsertEvent
  rw [if_neg (not_not.mpr bound.storable), bound.stay]
  dsimp only
  cases found : db.booking.find? fun row => row.ImportedAs conn.id event.uid with
  | none =>
    have absent : ∀ row ∈ db.booking, ¬ row.ImportedAs conn.id event.uid :=
      fun row member imported =>
        absurd (decide_eq_true imported) (List.find?_eq_none.mp found row member)
    dsimp only
    unfold Db.insertBooking
    have fresh := uuids.fresh (db.booking.map Booking.id)
    generalize uuids.draw (db.booking.map Booking.id) = id at fresh ⊢
    dsimp only
    have apart : ∀ other ∈ db.booking, other.id ≠ id := fun other member same =>
      fresh (List.mem_map.mpr ⟨other, member, same⟩)
    rw [importedRow_accepted registered bound entered]
    rcases failedIndex_unshared db (importedRow conn event.uid checkIn checkOut id)
      (fun other member _ shares => absent other member ⟨shares.2.1, shares.2.2.2⟩) with
      ⟨refused, other, member, -, clash⟩ | ⟨accepted, free⟩
    · refine Or.inl ⟨⟨other, member, absent other member, clash.1, clash.2.1, clash.2.2.2⟩, ?_⟩
      simp only [refused, Option.map_some]
      rfl
    · refine Or.inr ⟨?_, ?_⟩
      · rintro ⟨other, member, -, sameUnit, occupying, meets⟩
        exact free other member (apart other member) ⟨sameUnit, occupying, by simp [importedRow,
          BookingStatus.occupying_iff], meets⟩
      · simp only [accepted, Option.map_none]
        exact ⟨_, rfl⟩
  | some existing =>
    have member := List.mem_of_find?_eq_some found
    have imported : existing.ImportedAs conn.id event.uid := by simpa using List.find?_some found
    obtain ⟨guests, -, price⟩ := Booking.failedCheck_eq_none.mp (lawful.checked existing member)
    obtain ⟨unshared, -⟩ := Db.failedIndex_eq_none.mp (lawful.indexed existing member)
    have checked : (existing.moveTo checkIn checkOut).failedCheck = none :=
      Booking.failedCheck_eq_none.mpr ⟨guests, bound.ordered, price⟩
    have sameUnit := (registered.imports existing member imported.1).unit
    have others : ∀ other ∈ db.booking,
        other.id ≠ existing.id ↔ ¬ other.ImportedAs conn.id event.uid := by
      intro other otherMember
      refine ⟨fun apart otherImported => unshared other otherMember apart ?_, ?_⟩
      · exact ⟨by rw [otherImported.1]; rfl, otherImported.1.trans imported.1.symm,
          by rw [otherImported.2]; rfl, otherImported.2.trans imported.2.symm⟩
      · rintro foreign same
        rw [Table.eq_of_key lawful.keyed otherMember member same] at foreign
        exact foreign imported
    dsimp only
    rw [checked, Option.none_or]
    rcases failedIndex_unshared db (existing.moveTo checkIn checkOut) unshared with
      ⟨refused, other, otherMember, apart, clash⟩ | ⟨accepted, free⟩
    · refine Or.inl ⟨⟨other, otherMember, (others other otherMember).mp apart,
        clash.1.trans sameUnit, clash.2.1, clash.2.2.2⟩, ?_⟩
      simp only [refused]
    · refine Or.inr ⟨?_, ?_⟩
      · rintro ⟨other, otherMember, foreign, ofUnit, occupying, meets⟩
        exact free other otherMember ((others other otherMember).mpr foreign)
          ⟨ofUnit.trans sameUnit.symm, occupying, by simp [Booking.moveTo,
            BookingStatus.occupying_iff], meets⟩
      · simp only [accepted]
        exact ⟨_, rfl⟩

/-- A refusal by `booking_no_overlap` comes after the checks of the event's own values. -/
theorem upsertEvent_overlap [PostgresServer] {error : PgError}
    (refused : upsertEvent uuids conn event db = .error error)
    (overlap : error.constraint = some .bookingNoOverlap) :
    ∃ checkIn checkOut, event.Bound checkIn checkOut := by
  unfold upsertEvent at refused
  split at refused
  · cases refused
    cases overlap
  · rename_i storable
    cases bound : bindStay event.start event.stop with
    | error bindError =>
      rw [bound] at refused
      cases refused
      unfold bindStay at bound
      split at bound
      · cases bound
      · cases bound
        cases overlap
    | ok stay =>
      refine ⟨stay.1, stay.2, not_not.mp storable, bound, ?_⟩
      rw [bound] at refused
      dsimp only at refused
      cases found : db.booking.find? fun row => row.ImportedAs conn.id event.uid with
      | none =>
        rw [found] at refused
        dsimp only [Db.insertBooking] at refused
        cases rejected : db.bookingRefusal (importedRow conn event.uid stay.1 stay.2
            (uuids.draw (db.booking.map Booking.id))) with
        | none =>
          rw [rejected] at refused
          cases refused
        | some reason =>
          rw [rejected] at refused
          cases refused
          exact (Booking.failedCheck_eq_none.mp
            (Db.bookingRefusal_overlap rejected overlap).1).2.1
      | some existing =>
        rw [found] at refused
        dsimp only at refused
        cases checked : (existing.moveTo stay.1 stay.2).failedCheck with
        | none => exact (Booking.failedCheck_eq_none.mp checked).2.1
        | some constraint =>
          rw [checked, Option.some_or] at refused
          cases refused
          cases overlap
          exact absurd checked (Booking.failedCheck_ne_overlap _)

/-- The UID of an event that `booking_no_overlap` refuses fits its index: the event's own row had
its entry there already, or the import stored under the UID has one. -/
theorem upsertEvent_overlap_entered [PostgresServer] (lawful : db.BookingsLawful)
    {error : PgError} (refused : upsertEvent uuids conn event db = .error error)
    (overlap : error.constraint = some .bookingNoOverlap) :
    uidIndexRefusal event.uid = none := by
  unfold upsertEvent at refused
  split at refused
  · cases refused
    cases overlap
  · cases bound : bindStay event.start event.stop with
    | error bindError =>
      rw [bound] at refused
      cases refused
      unfold bindStay at bound
      split at bound
      · cases bound
      · cases bound
        cases overlap
    | ok stay =>
      rw [bound] at refused
      dsimp only at refused
      cases found : db.booking.find? fun row => row.ImportedAs conn.id event.uid with
      | none =>
        rw [found] at refused
        dsimp only [Db.insertBooking] at refused
        cases rejected : db.bookingRefusal (importedRow conn event.uid stay.1 stay.2
            (uuids.draw (db.booking.map Booking.id))) with
        | none =>
          rw [rejected] at refused
          cases refused
        | some reason =>
          rw [rejected] at refused
          cases refused
          exact (Db.bookingRefusal_overlap rejected overlap).2.1
      | some existing =>
        have imported : existing.ImportedAs conn.id event.uid := by
          simpa using List.find?_some found
        rw [← Booking.indexRefusal_of_import imported.1 imported.2]
        exact lawful.entered existing (List.mem_of_find?_eq_some found)

/-! ### The recorded conflict -/

/-- A filing that is not disturbed leaves a conflict with the event's stay, in the connection's
unit. -/
theorem recordConflict_records (uuids : UuidSource) (registered : conn.Registered db)
    (bound : event.Bound checkIn checkOut) (now : Instant) :
    ∃ conflict ∈ (recordConflict uuids conn event now false db).syncConflict,
      conflict.FiledAs conn.id event.uid ∧ conflict.checkIn = checkIn ∧
        conflict.checkOut = checkOut ∧ conflict.unitId = conn.unitId ∧
        conflict.tenantId = conn.tenantId := by
  have bindable : ¬ (false = true ∨ ¬ pgText event.uid) := by simp [bound.storable]
  unfold recordConflict
  rw [if_neg bindable, bound.stay]
  dsimp only
  rw [if_neg (not_not.mpr bound.ordered)]
  by_cases known : ∃ row ∈ db.syncConflict, row.FiledAs conn.id event.uid
  · rw [if_pos known]
    obtain ⟨row, member, filed⟩ := known
    obtain ⟨sameUnit, sameTenant⟩ := registered.conflicts row member filed.1
    exact ⟨row.redetect checkIn checkOut now, Table.mem_updateWhere.mpr ⟨row, member, if_pos filed⟩,
      filed, rfl, rfl, sameUnit, sameTenant⟩
  · rw [if_neg known, if_pos ⟨registered.unit, registered.connection⟩]
    exact ⟨_, List.mem_append_right _ List.mem_cons_self, ⟨rfl, rfl⟩, rfl, rfl, rfl, rfl⟩

/-! ### The comparison -/

/-- The listed bookings are the ones in the way: each occupies the unit, without all of them the
event lands, and any one of them refuses it. -/
structure NamesBlockers [PostgresServer] (uuids : UuidSource) (conn : ChannelConnection)
    (event : ImportedEvent) (db : Db) (listed : List Uuid) : Prop where
  occupying : ∀ id ∈ listed, ∃ row ∈ db.booking, row.id = id ∧ row.unitId = conn.unitId ∧
    row.status.Occupying
  removal : ∃ after, upsertEvent uuids conn event (db.withoutBookings listed) = .ok after
  each : ∀ id ∈ listed, ∃ error,
    upsertEvent uuids conn event (db.withoutBookings (listed.filter fun other => other ≠ id)) =
      .error error ∧ error.constraint = some .bookingNoOverlap

/-- A booking of the unit that occupies a night of the stay. -/
abbrev Booking.Meets (conn : ChannelConnection) (checkIn checkOut : PgDate) (row : Booking) :
    Prop :=
  row.unitId = conn.unitId ∧ row.status.Occupying ∧
    daterangesOverlap row.checkIn row.checkOut checkIn checkOut

/-- The inbox names the blockers exactly where the event's own row does not meet the stay: what is
left of the listed bookings is that row alone, and it blocks nothing. -/
theorem namesBlockers_iff [PostgresServer] (lawful : db.BookingsLawful)
    (registered : conn.Registered db) (bound : event.Bound checkIn checkOut)
    (entered : uidIndexRefusal event.uid = none) {listed : List Uuid}
    (lists : ∀ id, id ∈ listed ↔
      ∃ row ∈ db.booking, row.id = id ∧ row.Meets conn checkIn checkOut) :
    NamesBlockers uuids conn event db listed ↔
      ¬ ∃ own ∈ db.booking, own.ImportedAs conn.id event.uid ∧ own.status.Occupying ∧
        daterangesOverlap own.checkIn own.checkOut checkIn checkOut := by
  have among : ∀ removed,
      (Blocked conn event.uid checkIn checkOut (db.withoutBookings removed) ∧ _) ∨ _ :=
    fun removed => upsertEvent_blocked uuids (lawful.withoutBookings removed)
      (registered.withoutBookings removed) bound entered
  constructor
  · rintro names ⟨own, member, imported, occupying, meets⟩
    have ownListed : own.id ∈ listed :=
      (lists own.id).mpr ⟨own, member, rfl, (registered.imports own member imported.1).unit,
        occupying, meets⟩
    obtain ⟨error, refused, -⟩ := names.each own.id ownListed
    rcases among (listed.filter fun other => other ≠ own.id) with ⟨blocked, -⟩ | ⟨-, after, landed⟩
    · obtain ⟨row, rowLeft, foreign, rowMeets⟩ := blocked
      obtain ⟨rowMember, kept⟩ := Db.mem_withoutBookings.mp rowLeft
      have rowListed : row.id ∈ listed := (lists row.id).mpr ⟨row, rowMember, rfl, rowMeets⟩
      have same : row.id = own.id := by
        by_contra apart
        exact kept (List.mem_filter.mpr ⟨rowListed, by simpa using apart⟩)
      rw [Table.eq_of_key lawful.keyed rowMember member same] at foreign
      exact foreign imported
    · rw [landed] at refused
      cases refused
  · intro foreign
    refine ⟨fun id member => ?_, ?_, fun id member => ?_⟩
    · obtain ⟨row, rowMember, rfl, meets⟩ := (lists id).mp member
      exact ⟨row, rowMember, rfl, meets.1, meets.2.1⟩
    · rcases among listed with ⟨⟨row, rowLeft, -, meets⟩, -⟩ | ⟨-, landed⟩
      · obtain ⟨rowMember, unlisted⟩ := Db.mem_withoutBookings.mp rowLeft
        exact absurd ((lists row.id).mpr ⟨row, rowMember, rfl, meets⟩) unlisted
      · exact landed
    · obtain ⟨row, rowMember, rfl, meets⟩ := (lists id).mp member
      rcases among (listed.filter fun other => other ≠ row.id) with ⟨-, refused⟩ | ⟨free, -⟩
      · exact ⟨_, refused, rfl⟩
      · refine absurd ⟨row, Db.mem_withoutBookings.mpr ⟨rowMember, ?_⟩, ?_, meets⟩ free
        · simp
        · exact fun imported => foreign ⟨row, rowMember, imported, meets.2⟩

/-- The inbox names exactly the bookings in the way of a refused event where the row imported under
its UID does not itself occupy a night of the new stay. The event is one the exclusion constraint
has refused, over lawful bookings and a sound inbox, for a connection whose rows are its own; the
filing meets no fault, and the inbox is read in the state the filing leaves. -/
theorem inbox_names_blockers_iff [PostgresServer] (lawful : db.BookingsLawful)
    (registered : conn.Registered db) (inbox : db.InboxSound) {error : PgError}
    (refused : upsertEvent uuids conn event db = .error error)
    (overlap : error.constraint = some .bookingNoOverlap) (now : Instant) :
    ∃ conflict checkIn checkOut,
      conflict ∈ (recordConflict uuids conn event now false db).syncConflict ∧
      conflict.FiledAs conn.id event.uid ∧
      bindStay event.start event.stop = .ok (checkIn, checkOut) ∧
      (NamesBlockers uuids conn event db
          ((findBlockingBookings conn.tenantId [conflict.id]
            (recordConflict uuids conn event now false db)).map BlockingBookingRow.id) ↔
        ¬ ∃ own ∈ db.booking, own.ImportedAs conn.id event.uid ∧ own.status.Occupying ∧
          daterangesOverlap own.checkIn own.checkOut checkIn checkOut) := by
  obtain ⟨checkIn, checkOut, bound⟩ := upsertEvent_overlap refused overlap
  obtain ⟨conflict, member, filed, rfl, rfl, sameUnit, sameTenant⟩ :=
    recordConflict_records uuids registered bound now
  have keyed := (recordConflict_inboxSound uuids conn event now false inbox).keyed
  have sameBookings := (recordConflict_filing uuids conn event now false db).booking
  refine ⟨conflict, conflict.checkIn, conflict.checkOut, member, filed, bound.stay, ?_⟩
  have entered := upsertEvent_overlap_entered lawful refused overlap
  refine namesBlockers_iff lawful registered bound entered fun id => ?_
  rw [mem_findBlockingBookings keyed member sameTenant, sameBookings]
  refine exists_congr fun row => and_congr_right fun rowMember => and_congr_right fun _ => ?_
  show row.unitId = conflict.unitId ∧ row.tenantId = conflict.tenantId ∧ _ ↔ _
  rw [sameUnit, sameTenant]
  refine ⟨fun blocked => ⟨blocked.1, blocked.2.2⟩, fun meets => ⟨meets.1, ?_, meets.2⟩⟩
  exact registered.tenant lawful rowMember meets.1

end Upsert

/-! ### A moved stay -/

/-- The villa's own import of the first three nights of August, and a guest from the fifth on. -/
def villaShifted : Db :=
  { villa with
    booking := [
      importedRow villaConnection "uid-1" 20666 20669 1,
      { villaHold with
        id := 2, status := .confirmed, checkIn := 20670, checkOut := 20672
        holdExpiresAt := none }] }

/-- Airbnb moves its stay by two nights, into the guest's. -/
def villaMove : ImportedEvent := ⟨"uid-1", "2026-08-03".toList, "2026-08-06".toList⟩

attribute [local instance] PostgresServer.uncompressed in
theorem villaShifted_lawful : villaShifted.BookingsLawful where
  keyed := by decide
  checked := by decide
  entered := by decide +kernel
  indexed := by decide
  linked := by decide

theorem villaShifted_registered : villaConnection.Registered villaShifted where
  connection := by decide
  units := by decide
  unit := by decide
  imports := by
    intro row member linked
    rcases List.mem_cons.mp member with rfl | later
    · exact ⟨rfl, rfl, ⟨_, rfl⟩, Or.inl rfl⟩
    · rw [List.mem_singleton.mp later] at linked
      cases linked
  conflicts _ member := nomatch member

attribute [local instance] PostgresServer.uncompressed in
theorem villaMove_refused :
    upsertEvent .counting villaConnection villaMove villaShifted =
      .error (.violation .bookingNoOverlap) := rfl

attribute [local instance] PostgresServer.uncompressed in
/-- The comparison at the moved stay: a conflict is filed, and its list agrees with the constraint
exactly if the import itself does not meet the new stay. -/
theorem villa_move_compared :
    ∃ conflict checkIn checkOut,
      conflict ∈ (recordConflict .counting villaConnection villaMove 5 false
        villaShifted).syncConflict ∧
      conflict.FiledAs villaConnection.id villaMove.uid ∧
      bindStay villaMove.start villaMove.stop = .ok (checkIn, checkOut) ∧
      (NamesBlockers .counting villaConnection villaMove villaShifted
          ((findBlockingBookings villaConnection.tenantId [conflict.id]
            (recordConflict .counting villaConnection villaMove 5 false villaShifted)).map
              BlockingBookingRow.id) ↔
        ¬ ∃ own ∈ villaShifted.booking, own.ImportedAs villaConnection.id villaMove.uid ∧
          own.status.Occupying ∧ daterangesOverlap own.checkIn own.checkOut checkIn checkOut) :=
  inbox_names_blockers_iff villaShifted_lawful villaShifted_registered
    (Db.inboxSound_of_empty rfl) villaMove_refused rfl 5

attribute [local instance] PostgresServer.uncompressed in
/-- The inbox sends the owner to cancel the import itself, which was never in the way. -/
theorem villa_own_import_listed :
    upsertEvent .counting villaConnection villaMove villaShifted =
        .error (.violation .bookingNoOverlap) ∧
      (findBlockingBookings 1 [1] (recordConflict .counting villaConnection villaMove 5 false
        villaShifted)).map BlockingBookingRow.id = [1, 2] ∧
      ¬ NamesBlockers .counting villaConnection villaMove villaShifted [1, 2] := by
  refine ⟨villaMove_refused, by decide, fun names => ?_⟩
  obtain ⟨error, refused, -⟩ := names.each 1 (by decide)
  have landed : (upsertEvent .counting villaConnection villaMove
      (villaShifted.withoutBookings [2])).isOk = true := by decide
  have removed : [1, 2].filter (fun other : Uuid => other ≠ 1) = [2] := by decide
  rw [removed] at refused
  rw [refused] at landed
  cases landed

end Sambung
