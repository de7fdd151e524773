/-
This file proves that a sync keeps the constraints of the booking table.

Each landing was checked against the rows before it, and the checks look at two
rows alike. A cancelled row occupies nothing, so the cancellation of absent UIDs
can only take clashes away.

The constraints of the table are one condition for each row and one for each pair
of rows with different ids; `bookingsLawful_of` puts them together, so that a
write has to be checked against the pairs it touches and no others. An insert
touches the pairs of the new row. A move touches the pairs of the moved row, whose
old self was compared with the others before. The loop follows by the rule for
landings, and a connection stays registered by the way.
-/

import Sambung.Accounting

namespace Sambung

/-! ### Two rows of the table -/

/-- The two indexes let the rows coexist. -/
structure Booking.Compatible (first second : Booking) : Prop where
  uid : ¬ first.SharesExternalUid second
  stay : ¬ first.Clashes second

theorem Booking.Compatible.symm {first second : Booking} (compatible : first.Compatible second) :
    second.Compatible first where
  uid shares := by
    obtain ⟨linked, sameLink, named, sameName⟩ := shares
    exact compatible.uid ⟨sameLink ▸ linked, sameLink.symm, sameName ▸ named, sameName.symm⟩
  stay clashes := compatible.stay ((Booking.clashes_comm _ _).mp clashes)

/-- Rows under one id are one row, and all others are compatible. -/
def Db.Indexed (db : Db) : Prop :=
  ∀ first ∈ db.booking, ∀ second ∈ db.booking, first.id ≠ second.id → first.Compatible second

theorem Db.failedIndex_eq_none_iff {db : Db} {row : Booking} :
    db.failedIndex row = none ↔
      ∀ other ∈ db.booking, other.id ≠ row.id → other.Compatible row := by
  rw [Db.failedIndex_eq_none]
  constructor
  · rintro ⟨unshared, free⟩ other member differs
    exact ⟨unshared other member differs, free other member differs⟩
  · intro compatible
    exact ⟨fun other member differs => (compatible other member differs).uid,
      fun other member differs => (compatible other member differs).stay⟩

theorem Db.BookingsLawful.apart [PostgresServer] {db : Db} (lawful : db.BookingsLawful) :
    db.Indexed :=
  fun first firstMember second secondMember differs =>
    Db.failedIndex_eq_none_iff.mp (lawful.indexed second secondMember) first firstMember differs

/-- The constraints, row by row and pair by pair. -/
theorem Db.bookingsLawful_of [PostgresServer] {db : Db} (keyed : (db.booking.map Booking.id).Nodup)
    (checked : ∀ row ∈ db.booking, row.failedCheck = none)
    (entered : ∀ row ∈ db.booking, row.indexRefusal = none) (apart : db.Indexed)
    (linked : ∀ row ∈ db.booking, db.failedForeignKey row = none) : db.BookingsLawful where
  keyed := keyed
  checked := checked
  entered := entered
  indexed row member := Db.failedIndex_eq_none_iff.mpr fun other otherMember differs =>
    apart other otherMember row member differs
  linked := linked

/-- Two imports of one UID are one row. -/
theorem Db.BookingsLawful.sameImport [PostgresServer] {db : Db} (lawful : db.BookingsLawful)
    {connectionId : Uuid} {uid : String} {first second : Booking} (firstMember : first ∈ db.booking)
    (secondMember : second ∈ db.booking) (isFirst : first.ImportedAs connectionId uid)
    (isSecond : second.ImportedAs connectionId uid) : first = second := by
  by_contra differ
  have differs : first.id ≠ second.id := fun same =>
    differ (Table.eq_of_key lawful.keyed firstMember secondMember same)
  refine (lawful.apart first firstMember second secondMember differs).uid ⟨?_, ?_, ?_, ?_⟩
  · rw [isFirst.1]
    rfl
  · rw [isFirst.1, isSecond.1]
  · rw [isFirst.2]
    rfl
  · rw [isFirst.2, isSecond.2]

/-! ### Landings -/

section Sync

variable {uuids : UuidSource} {conn : ChannelConnection} {faults : Nat → EventFault}
  {now : Instant} {db : Db} {events : List ImportedEvent} {event : ImportedEvent}

theorem Inserted.lawful [PostgresServer] {row : Booking} {after : Db} (lawful : db.BookingsLawful)
    (inserted : Inserted db after row) : after.BookingsLawful := by
  obtain ⟨-, checked, entered, indexed, linked⟩ :=
    Db.bookingRefusal_eq_none.mp inserted.accepted
  have beside := Db.failedIndex_eq_none_iff.mp indexed
  rw [inserted.stored]
  refine Db.bookingsLawful_of (Table.nodup_map_append lawful.keyed inserted.fresh) ?_ ?_ ?_ ?_
  · intro other member
    obtain earlier | isRow := List.mem_append.mp member
    · exact lawful.checked other earlier
    · rw [List.mem_singleton.mp isRow]
      exact checked
  · intro other member
    obtain earlier | isRow := List.mem_append.mp member
    · exact lawful.entered other earlier
    · rw [List.mem_singleton.mp isRow]
      exact entered
  · intro first firstMember second secondMember differs
    obtain firstEarlier | isFirst := List.mem_append.mp firstMember
    · obtain secondEarlier | isSecond := List.mem_append.mp secondMember
      · exact lawful.apart first firstEarlier second secondEarlier differs
      · rw [List.mem_singleton.mp isSecond] at differs ⊢
        exact beside first firstEarlier differs
    · rw [List.mem_singleton.mp isFirst] at differs ⊢
      obtain secondEarlier | isSecond := List.mem_append.mp secondMember
      · exact (beside second secondEarlier differs.symm).symm
      · exact absurd (congrArg Booking.id (List.mem_singleton.mp isSecond)).symm differs
  · intro other member
    obtain earlier | isRow := List.mem_append.mp member
    · exact lawful.linked other earlier
    · rw [List.mem_singleton.mp isRow]
      exact linked

/-- A landing keeps the constraints. Only the existing row is moved, since no other is imported
under its UID. -/
theorem Landed.lawful [PostgresServer] {checkIn checkOut : PgDate} {after : Db}
    (lawful : db.BookingsLawful) (landed : Landed conn event checkIn checkOut db after) :
    after.BookingsLawful := by
  cases landed with
  | inserted id absent stored => exact stored.lawful lawful
  | moved existing existingMember imported checked accepted stored =>
    have beside := Db.failedIndex_eq_none_iff.mp accepted
    have rows : ∀ row ∈ after.booking, row = existing.moveTo checkIn checkOut ∨
        (row ∈ db.booking ∧ row.id ≠ existing.id) := by
      intro row member
      rw [stored] at member
      obtain ⟨source, sourceMember, rfl⟩ := Table.mem_updateWhere.mp member
      by_cases matched : source.ImportedAs conn.id event.uid
      · rw [if_pos matched,
          lawful.sameImport sourceMember existingMember matched imported]
        exact .inl rfl
      · rw [if_neg matched]
        refine .inr ⟨sourceMember, fun same => matched ?_⟩
        rw [Table.eq_of_key lawful.keyed sourceMember existingMember same]
        exact imported
    refine Db.bookingsLawful_of ?_ ?_ ?_ ?_ ?_
    · have ids : (Table.updateWhere (Booking.ImportedAs conn.id event.uid)
          (Booking.moveTo checkIn checkOut) db.booking).map Booking.id =
            db.booking.map Booking.id := Table.map_updateWhere Booking.id fun _ _ => rfl
      rw [stored]
      dsimp only
      rw [ids]
      exact lawful.keyed
    · intro row member
      obtain rfl | ⟨earlier, -⟩ := rows row member
      · exact checked
      · exact lawful.checked row earlier
    · intro row member
      obtain rfl | ⟨earlier, -⟩ := rows row member
      · exact lawful.entered existing existingMember
      · exact lawful.entered row earlier
    · intro first firstMember second secondMember differs
      obtain rfl | ⟨firstEarlier, firstOther⟩ := rows first firstMember
      · obtain rfl | ⟨secondEarlier, secondOther⟩ := rows second secondMember
        · exact absurd rfl differs
        · exact (beside second secondEarlier secondOther).symm
      · obtain rfl | ⟨secondEarlier, secondOther⟩ := rows second secondMember
        · exact beside first firstEarlier firstOther
        · exact lawful.apart first firstEarlier second secondEarlier differs
    · intro row member
      have sameKeys : after.failedForeignKey row = db.failedForeignKey row := by
        rw [stored]
        rfl
      rw [sameKeys]
      obtain rfl | ⟨earlier, -⟩ := rows row member
      · exact lawful.linked existing existingMember
      · exact lawful.linked row earlier

theorem Filing.lawful [PostgresServer] {after : Db} (lawful : db.BookingsLawful)
    (filing : Filing conn event now db after) : after.BookingsLawful := by
  cases filing with
  | nothing same =>
    rw [same]
    exact lawful
  | redetected checkIn checkOut stored =>
    rw [stored]
    exact ⟨lawful.keyed, lawful.checked, lawful.entered, lawful.indexed, lawful.linked⟩
  | filed checkIn checkOut id fresh stored =>
    rw [stored]
    exact ⟨lawful.keyed, lawful.checked, lawful.entered, lawful.indexed, lawful.linked⟩

/-- The loop keeps the constraints of the booking table, landing by landing. -/
theorem importAll_lawful [PostgresServer] (uuids : UuidSource) (conn : ChannelConnection)
    (events : List ImportedEvent) (faults : Nat → EventFault) (now : Instant)
    (lawful : db.BookingsLawful) :
    (importAll uuids conn events faults now db).db.BookingsLawful :=
  importAll_keeps Db.BookingsLawful lawful
    (fun _ _ _ _ _ _ landed before => landed.lawful before)
    fun _ _ _ _ filing before => filing.lawful before

/-! ### What follows the loop -/

/-- A status update keeps the constraints where no row begins to occupy its nights. -/
theorem setBookingStatus_lawful [PostgresServer] {status : BookingStatus}
    {condition : Booking → Prop} [DecidablePred condition] (lawful : db.BookingsLawful)
    (held : ∀ row, condition row → status.Occupying → row.status.Occupying) :
    (db.setBookingStatus status condition).BookingsLawful := by
  have rows : ∀ row ∈ (db.setBookingStatus status condition).booking, ∃ source ∈ db.booking,
      row = { source with status := row.status } ∧
        (row.status.Occupying → source.status.Occupying) := by
    intro row member
    obtain ⟨source, sourceMember, rfl⟩ := Table.mem_updateWhere.mp member
    by_cases matched : condition source
    · rw [if_pos matched]
      exact ⟨source, sourceMember, rfl, held source matched⟩
    · rw [if_neg matched]
      exact ⟨source, sourceMember, rfl, id⟩
  refine Db.bookingsLawful_of ?_ ?_ ?_ ?_ ?_
  · have ids : (Table.updateWhere condition (Booking.setStatus status) db.booking).map
        Booking.id = db.booking.map Booking.id := Table.map_updateWhere Booking.id fun _ _ => rfl
    rw [Db.setBookingStatus]
    dsimp only
    rw [ids]
    exact lawful.keyed
  · intro row member
    obtain ⟨source, sourceMember, isRow, -⟩ := rows row member
    rw [isRow]
    exact lawful.checked source sourceMember
  · intro row member
    obtain ⟨source, sourceMember, isRow, -⟩ := rows row member
    rw [isRow]
    exact lawful.entered source sourceMember
  · intro first firstMember second secondMember differs
    obtain ⟨firstSource, firstFound, isFirst, firstHeld⟩ := rows first firstMember
    obtain ⟨secondSource, secondFound, isSecond, secondHeld⟩ := rows second secondMember
    rw [isFirst, isSecond] at differs ⊢
    have before := lawful.apart firstSource firstFound secondSource secondFound differs
    exact ⟨before.uid, fun clashes => before.stay
      ⟨clashes.1, firstHeld clashes.2.1, secondHeld clashes.2.2.1, clashes.2.2.2⟩⟩
  · intro row member
    obtain ⟨source, sourceMember, isRow, -⟩ := rows row member
    rw [isRow]
    exact lawful.linked source sourceMember

theorem updateConnection_lawful [PostgresServer] {change : ChannelConnection → ChannelConnection}
    (keyed : ∀ row, (change row).id = row.id) (lawful : db.BookingsLawful) :
    (db.updateConnection conn change).BookingsLawful := by
  refine ⟨lawful.keyed, lawful.checked, lawful.entered, lawful.indexed, fun row member => ?_⟩
  have ids : ∀ id, (∃ other ∈ (db.updateConnection conn change).channelConnection,
      other.id = id) ↔ ∃ other ∈ db.channelConnection, other.id = id := by
    intro id
    have same : (db.updateConnection conn change).channelConnection.map ChannelConnection.id =
        db.channelConnection.map ChannelConnection.id :=
      Table.map_updateWhere ChannelConnection.id fun other _ => keyed other
    have listed : ∀ rows : List ChannelConnection,
        (∃ other ∈ rows, other.id = id) ↔ id ∈ rows.map ChannelConnection.id := fun rows => by
      rw [List.mem_map]
    rw [listed, listed, same]
  have linked := lawful.linked row member
  rw [Db.failedForeignKey] at linked ⊢
  simp only [ids]
  exact linked

/-- A sync keeps the constraints of the booking table. -/
theorem reconciled_lawful [PostgresServer] (uuids : UuidSource) (conn : ChannelConnection)
    (events : List ImportedEvent) (faults : Nat → EventFault) (now : Instant)
    (lawful : db.BookingsLawful) :
    (reconciled uuids conn events faults now db).BookingsLawful := by
  have loop := importAll_lawful uuids conn events faults now lawful
  refine updateConnection_lawful (fun _ => rfl) ?_
  have withdrawn : (withdrawAbsent conn events
      (importAll uuids conn events faults now db).db).BookingsLawful := by
    rw [withdrawAbsent]
    split
    · exact loop
    · exact setBookingStatus_lawful loop fun _ _ occupying =>
        absurd occupying BookingStatus.not_occupying_cancelled
  rw [resolveHealed]
  split
  · exact withdrawn
  · exact ⟨withdrawn.keyed, withdrawn.checked, withdrawn.entered, withdrawn.indexed,
      withdrawn.linked⟩

/-- A sync keeps its connection registered: it moves imports within the connection's own unit. -/
theorem reconciled_registered [PostgresServer] (registered : conn.Registered db) :
    conn.Registered (reconciled uuids conn events faults now db) := by
  have imports : (reconciled uuids conn events faults now db).ImportsOwned conn :=
    reconciled_importsOwned registered.imports
  have conflicts := (reconciled_conflictFrame uuids faults now events registered.conflicts).1
  obtain ⟨bookings, rows, same⟩ := reconciled_tables uuids conn faults now db events
  rw [same] at imports conflicts ⊢
  refine ⟨?_, registered.units, registered.unit, imports, conflicts⟩
  obtain ⟨row, member, isConnection⟩ := registered.connection
  by_cases matched : row.id = conn.id ∧ row.tenantId = conn.tenantId
  · exact ⟨row.stamp now, Table.mem_updateWhere.mpr ⟨row, member, if_pos matched⟩, isConnection⟩
  · exact ⟨row, Table.mem_updateWhere.mpr ⟨row, member, if_neg matched⟩, isConnection⟩

end Sync

end Sambung
