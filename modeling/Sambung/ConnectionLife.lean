/-
This file proves what becomes of the imports of a channel the owner disconnects,
and of a channel the owner connects again.

The bookings stay and forget their connection. From then on no sync finds them,
since an upsert looks for a connection's own rows, so only the owner's cancel can
touch them. A later connection of the same feed cannot find them either: each of
its events meets the stay that was kept, and goes to the inbox.

A booking that no connection owns and that is no hold is settled, and
`Write.outlasts` shows for each primitive write that the owner's cancel of it is
the only one that moves it; runs follow by composing. The cancel has to name the
booking in its own tenant, since one that names another is refused and changes
nothing. For the reconnect the loop over a feed of held stays is followed event by
event: none lands, so that each is refused in the same state.
-/

import Sambung.EstateSafety
import Sambung.StableFeeds

namespace Sambung

/-! ### Rows no connection owns -/

/-- A booking that no connection owns and that is no hold. -/
structure Booking.Settled (row : Booking) : Prop where
  unlinked : row.channelConnectionId = none
  status : row.status = .confirmed ∨ row.status = .cancelled

/-- The transaction is the owner's cancel of the booking: it names the booking, in the booking's own
tenant. -/
def Transaction.Cancels (row : Booking) : Transaction → Prop
  | .cancel tenantId cancelled => tenantId = row.tenantId ∧ cancelled = row.id
  | _ => False

/-- The operation is the owner's cancel of the booking. -/
def Operation.Cancels (row : Booking) : Operation → Prop
  | .transaction t _ => t.Cancels row
  | _ => False

/-- The row is there, or it was confirmed and is cancelled where that was asked. -/
def Booking.Outlasts (row : Booking) (asked : Prop) (db : Db) : Prop :=
  row ∈ db.booking ∨
    (asked ∧ row.status = .confirmed ∧ row.setStatus .cancelled ∈ db.booking)

section Rows

variable {row : Booking} {db after : Db}

theorem Booking.Settled.cancelled (settled : row.Settled) : (row.setStatus .cancelled).Settled :=
  ⟨settled.unlinked, .inr rfl⟩

theorem Booking.Settled.not_pending (settled : row.Settled) : row.status ≠ .pendingPayment := by
  obtain confirmed | cancelled := settled.status
  · rw [confirmed]
    decide
  · rw [cancelled]
    decide

theorem Booking.Settled.not_linked (settled : row.Settled) (id : Uuid) :
    row.channelConnectionId ≠ some id := by
  rw [settled.unlinked]
  simp

/-- A row an update does not match is in the table after it as it was. -/
theorem mem_updateWhere_of_unmatched {Row : Type} {rows : List Row} {row : Row}
    {condition : Row → Prop} [DecidablePred condition] {change : Row → Row} (member : row ∈ rows)
    (unmatched : ¬ condition row) : row ∈ Table.updateWhere condition change rows :=
  Table.mem_updateWhere.mpr ⟨row, member, if_neg unmatched⟩

/-- The only write that moves such a row is the owner's cancel of it. -/
theorem Write.outlasts [PostgresServer] {t : Transaction} (write : Write t db after)
    (settled : row.Settled) (member : row ∈ db.booking) :
    row.Outlasts (t.Cancels row) after := by
  cases write with
  | expire condition pending =>
    exact .inl (mem_updateWhere_of_unmatched member fun matched =>
      settled.not_pending (pending row matched))
  | book other inserted unlinked status =>
    rw [inserted.stored]
    exact .inl (List.mem_append_left _ member)
  | cancel tenantId id =>
    by_cases matched : row.Cancellable tenantId id
    · refine .inr ⟨⟨matched.2.1.symm, matched.1.symm⟩, ?_,
        Table.mem_updateWhere.mpr ⟨row, member, if_pos matched⟩⟩
      obtain confirmed | cancelled := settled.status
      · exact confirmed
      · have occupying := matched.2.2
        rw [cancelled] at occupying
        exact absurd occupying BookingStatus.not_occupying_cancelled
    · exact .inl (mem_updateWhere_of_unmatched member matched)
  | settle provider event pay found recordable =>
    rw [applyOutcome_database]
    split
    · cases event.outcome with
      | settlement =>
        exact .inl (mem_updateWhere_of_unmatched member fun matched =>
          settled.not_pending matched.2)
      | failure => exact .inl member
      | pending => exact .inl member
      | ignore => exact .inl member
    · exact .inl member
  | land conn events faults now event eventMember checkIn checkOut landed =>
    cases landed with
    | inserted id absent stored =>
      rw [stored.stored]
      exact .inl (List.mem_append_left _ member)
    | moved existing existingMember imported checked accepted stored =>
      rw [stored]
      exact .inl (mem_updateWhere_of_unmatched member fun matched =>
        settled.not_linked conn.id matched.1)
  | withdraw conn events faults now =>
    exact .inl (mem_updateWhere_of_unmatched member fun matched =>
      settled.not_linked conn.id matched.1)
  | inbox => exact .inl member
  | connection => exact .inl member
  | mint => exact .inl member
  | handled => exact .inl member

/-- A step that lets every such row outlast it lets it outlast after what came before. -/
theorem Booking.Outlasts.step {asked next : Prop} (settled : row.Settled)
    (outlasts : row.Outlasts asked db)
    (kept : ∀ other : Booking, other.Settled → other.id = row.id →
      other.tenantId = row.tenantId → other ∈ db.booking → other.Outlasts next after) :
    row.Outlasts (asked ∨ next) after := by
  obtain member | ⟨wanted, confirmed, cancelled⟩ := outlasts
  · obtain stays | ⟨wanted, confirmed, cancelled⟩ := kept row settled rfl rfl member
    · exact .inl stays
    · exact .inr ⟨.inr wanted, confirmed, cancelled⟩
  · obtain stays | ⟨-, again, -⟩ := kept _ settled.cancelled rfl rfl cancelled
    · exact .inr ⟨.inl wanted, confirmed, stays⟩
    · cases again

theorem Transaction.cancels_congr {first second : Booking} (sameId : first.id = second.id)
    (sameTenant : first.tenantId = second.tenantId) (t : Transaction) :
    t.Cancels first ↔ t.Cancels second := by
  cases t with
  | cancel tenantId id => rw [Transaction.Cancels, Transaction.Cancels, sameId, sameTenant]
  | _ => exact Iff.rfl

theorem Operation.cancels_congr {first second : Booking} (sameId : first.id = second.id)
    (sameTenant : first.tenantId = second.tenantId) (operation : Operation) :
    operation.Cancels first ↔ operation.Cancels second := by
  cases operation with
  | transaction t other => exact t.cancels_congr sameId sameTenant
  | _ => exact Iff.rfl

theorem Booking.Outlasts.mono {asked wanted : Prop} (outlasts : row.Outlasts asked db)
    (implies : asked → wanted) : row.Outlasts wanted db :=
  outlasts.imp_right fun ⟨was, rest⟩ => ⟨implies was, rest⟩

theorem Transaction.outlasts [PostgresServer] (env : PayEnvironment) (t : Transaction)
    (settled : row.Settled) (member : row ∈ db.booking) :
    row.Outlasts (t.Cancels row) (t.run env db) := by
  refine Writes.preserve (fun write before => ?_) (t.run_writes env db) (.inl member)
  have next := before.step settled fun other otherSettled sameId sameTenant otherMember =>
    (write.outlasts otherSettled otherMember).mono (t.cancels_congr sameId sameTenant).mp
  rw [or_self] at next
  exact next

/-- A deletion of connections leaves the rows that had none. -/
theorem mem_forget (gone : List Uuid) (settled : row.Settled) (member : row ∈ db.booking) :
    row ∈ db.booking.map (Booking.forget gone) := by
  refine List.mem_map.mpr ⟨row, member, ?_⟩
  cases row
  cases settled.unlinked
  rfl

end Rows

/-! ### Operations -/

section Operations

variable {row : Booking} {estate : Estate}

/-- An operation that is neither a transaction nor the end of a sync leaves the bookings, or takes
deleted connections from them. -/
theorem Operation.bookings [PostgresServer] (env : PayEnvironment) (operation : Operation)
    (transaction : ∀ t other, operation ≠ .transaction t other)
    (sync : ∀ conn feed faults now, operation ≠ .settleSync conn feed faults now) :
    ∃ gone, (operation.run env estate).db.booking =
      estate.db.booking.map (Booking.forget gone) := by
  have unmoved : estate.db.booking = estate.db.booking.map (Booking.forget []) := by
    conv_lhs => rw [← List.map_id estate.db.booking]
    refine List.map_congr_left fun row _ => ?_
    have kept : row.channelConnectionId.filter (· ∉ []) = row.channelConnectionId := by
      cases row.channelConnectionId <;> rfl
    rw [Booking.forget, kept]
    rfl
  have inventory : ∀ {after : Db}, WritesInventory estate.db after →
      ∃ gone, after.booking = estate.db.booking.map (Booking.forget gone) := by
    rintro after ⟨properties, units, rfl⟩
    exact ⟨[], unmoved⟩
  cases operation with
  | transaction t other => exact absurd rfl (transaction t other)
  | settleSync conn feed faults now => exact absurd rfl (sync conn feed faults now)
  | startSync conn =>
    refine ⟨[], ?_⟩
    rw [Operation.run]
    split
    · exact unmoved
    · exact unmoved
  | finishConnect tenantId unitId dto probe now =>
    refine ⟨[], ?_⟩
    obtain unwritten | inserted := finishConnect_database tenantId unitId dto probe now
      (env.uuids.draw estate.drawn) estate.db
    · rw [Operation.run, Estate.commit]
      dsimp only
      rw [unwritten]
      exact unmoved
    · obtain ⟨-, -, -, stored⟩ := insertConnection_ok.mp inserted
      rw [Operation.run, Estate.commit]
      dsimp only
      rw [stored]
      exact unmoved
  | disconnect tenantId id =>
    rw [Operation.run, Estate.commit, disconnect_database]
    split
    · exact ⟨[id], rfl⟩
    · exact ⟨[], unmoved⟩
  | dismiss tenantId id now =>
    refine ⟨[], ?_⟩
    have kept : (Sambung.dismiss tenantId id now estate.db).2.booking = estate.db.booking := by
      rw [Sambung.dismiss]
      split
      · rfl
      · split
        · rfl
        · rfl
    exact kept.trans unmoved
  | insertProperty tenantId values =>
    exact inventory (insertProperty_writes env.uuids tenantId values estate.db)
  | updateProperty tenantId id dto =>
    exact inventory (updateProperty_writes tenantId id dto estate.db)
  | setPropertyArchived tenantId id archived now =>
    exact inventory (setPropertyArchived_writes tenantId id archived now estate.db)
  | createUnit tenantId propertyId dto =>
    exact inventory (createUnit_writes env.uuids tenantId propertyId dto estate.db)
  | updateUnit tenantId id dto => exact inventory (updateUnit_writes tenantId id dto estate.db)
  | setUnitArchived tenantId id archived now =>
    exact inventory (setUnitArchived_writes tenantId id archived now estate.db)
  | removeListing tenantId listing =>
    rw [Operation.run]
    obtain ⟨-, same⟩ | ⟨-, same⟩ := removeListing_cases tenantId listing estate.db
    · refine ⟨[], ?_⟩
      dsimp only
      rw [same]
      exact unmoved
    · refine ⟨estate.db.connectionsOf (listing.units estate.db), ?_⟩
      dsimp only
      rw [same]
      cases listing <;> rfl
  | priceOverride call => exact ⟨[], unmoved⟩

/-- The only operation that moves such a row is the owner's cancel of it. -/
theorem Operation.outlasts [PostgresServer] (env : PayEnvironment) (operation : Operation)
    (settled : row.Settled) (member : row ∈ estate.db.booking) :
    row.Outlasts (operation.Cancels row) (operation.run env estate).db := by
  by_cases transaction : ∃ t other, operation = .transaction t other
  · obtain ⟨t, other, rfl⟩ := transaction
    exact t.outlasts env settled member
  · by_cases sync : ∃ conn feed faults now, operation = .settleSync conn feed faults now
    · obtain ⟨conn, feed, faults, now, rfl⟩ := sync
      rw [Operation.run]
      split
      · exact Transaction.outlasts env (.settleFeed conn feed faults now) settled member
      · exact .inl member
    · push Not at transaction sync
      obtain ⟨gone, forgotten⟩ := operation.bookings env transaction sync
      rw [Booking.Outlasts, forgotten]
      exact .inl (mem_forget gone settled member)

/-- Over a run, the only operations that move such a row are the owner's cancels of it. -/
theorem runEstate_outlasts [PostgresServer] (env : PayEnvironment) (run : List Operation)
    (settled : row.Settled) (member : row ∈ estate.db.booking) :
    row.Outlasts (∃ operation ∈ run, operation.Cancels row) (runEstate env run estate).db := by
  induction run using List.reverseRecOn with
  | nil => exact .inl member
  | append_singleton run operation inductionHypothesis =>
    rw [runEstate, Runs.final_concat]
    have next := inductionHypothesis.step settled
      fun other otherSettled sameId sameTenant otherMember =>
        (operation.outlasts env otherSettled otherMember).mono
          (operation.cancels_congr sameId sameTenant).mp
    obtain stays | ⟨wanted, cancelled⟩ := next
    · exact .inl stays
    · refine .inr ⟨?_, cancelled⟩
      obtain ⟨earlier, earlierMember, cancels⟩ | cancels := wanted
      · exact ⟨earlier, List.mem_append_left _ earlierMember, cancels⟩
      · exact ⟨operation, List.mem_append_right _ List.mem_cons_self, cancels⟩

end Operations

/-! ### A disconnect -/

section Disconnect

variable {db : Db} {start : Estate} {tenantId id : Uuid} {conn : ChannelConnection}

theorem findConnection_some (found : findConnection tenantId id db = some conn) :
    conn ∈ db.channelConnection ∧ conn.id = id ∧ conn.tenantId = tenantId := by
  have matched := List.find?_some found
  rw [decide_eq_true_eq] at matched
  exact ⟨List.mem_of_find?_eq_some found, matched⟩

theorem disconnect_run [PostgresServer] (env : PayEnvironment)
    (found : findConnection tenantId id start.db = some conn) (later : List Operation) :
    runEstate env (.disconnect tenantId id :: later) start =
      runEstate env later { start with db := start.db.deleteConnections [id] } := by
  have ran : (Operation.disconnect tenantId id).run env start =
      { start with db := start.db.deleteConnections [id] } := by
    rw [Operation.run, Estate.commit, disconnect_database, found]
    rfl
  rw [← ran]
  rfl

/-- What the connection imported is settled once it has forgotten it. -/
theorem Db.Sound.forgotten_settled [PostgresServer] (sound : db.Sound)
    (found : findConnection tenantId id db = some conn) {row : Booking} (member : row ∈ db.booking)
    (linked : row.channelConnectionId = some id) :
    (row.forget [id]).Settled ∧ row.forget [id] ∈ (db.deleteConnections [id]).booking := by
  obtain ⟨stored, rfl, -⟩ := findConnection_some found
  have own := sound.bookings.imports conn stored row member linked
  refine ⟨⟨?_, own.status⟩, List.mem_map.mpr ⟨row, member, rfl⟩⟩
  rw [Booking.forget, linked]
  simp

/-- The count an owner is answered is of all that the connection imported. -/
theorem Db.Sound.countImportedBookings_eq [PostgresServer] (sound : db.Sound)
    (found : findConnection tenantId id db = some conn) :
    countImportedBookings tenantId id db =
      (db.booking.filter fun row => row.channelConnectionId = some id).length := by
  obtain ⟨stored, rfl, rfl⟩ := findConnection_some found
  rw [countImportedBookings]
  congr 1
  refine List.filter_congr fun row member => decide_eq_decide.mpr ?_
  refine and_iff_left_of_imp fun linked => ?_
  exact (sound.bookings.imports conn stored row member linked).tenant

/-- A disconnect answers with the number of bookings the connection imported, and keeps each of them
for good: after any later operations in any order, syncs and other connections among them, each is
as it was but for its connection, unless the owner cancelled it. The estate is any sound one that
holds the connection, and a cancel counts only where it is of the booking's own tenant. -/
theorem disconnect_keeps_the_ledger [PostgresServer] (env : PayEnvironment) (sound : start.Sound)
    (found : findConnection tenantId id start.db = some conn) (later : List Operation) :
    (disconnect tenantId id start.db).map Prod.fst =
        .ok (start.db.booking.filter fun row => row.channelConnectionId = some id).length ∧
      ∀ row ∈ start.db.booking, row.channelConnectionId = some id →
        (row.forget [id]).Outlasts (∃ operation ∈ later, operation.Cancels row)
          (runEstate env (.disconnect tenantId id :: later) start).db := by
  constructor
  · rw [disconnect, found, ← sound.db.countImportedBookings_eq found]
    rfl
  · intro row member linked
    obtain ⟨settled, kept⟩ := sound.db.forgotten_settled found member linked
    rw [disconnect_run env found]
    exact runEstate_outlasts env later settled kept

end Disconnect

/-! ### A feed whose stays are held -/

section Refused

variable {uuids : UuidSource} {conn : ChannelConnection} {events : List ImportedEvent} {db : Db}
  {now : Instant}

/-- The connection has imported and filed nothing yet but open conflicts. -/
structure ChannelConnection.New (conn : ChannelConnection) (db : Db) : Prop where
  bookings : ∀ row ∈ db.booking, row.channelConnectionId ≠ some conn.id
  conflicts : ∀ row ∈ db.syncConflict, row.channelConnectionId = conn.id → row.status = .opened

/-- The event's booking could be stored, but its stay meets one the unit has sold. -/
def ImportedEvent.Held [PostgresServer] (event : ImportedEvent) (conn : ChannelConnection)
    (db : Db) : Prop :=
  uidIndexRefusal event.uid = none ∧ ∃ checkIn checkOut, event.Bound checkIn checkOut ∧
    ∃ row ∈ db.booking, row.unitId = conn.unitId ∧ row.status.Occupying ∧
      daterangesOverlap row.checkIn row.checkOut checkIn checkOut

/-- The inbox has the UID as an open conflict of the connection. -/
def ChannelConnection.Disputes (conn : ChannelConnection) (uid : String) (db : Db) : Prop :=
  ∃ row ∈ db.syncConflict, row.FiledAs conn.id uid ∧ row.status = .opened

/-- Over an inbox where all that the connection has filed is open, filing one more event keeps that
so and closes no dispute. -/
theorem Filing.keepsOpen {event : ImportedEvent} {after : Db}
    (filing : Filing conn event now db after)
    (opened : ∀ row ∈ db.syncConflict, row.channelConnectionId = conn.id → row.status = .opened) :
    (∀ row ∈ after.syncConflict, row.channelConnectionId = conn.id → row.status = .opened) ∧
      ∀ uid, conn.Disputes uid db → conn.Disputes uid after := by
  cases filing with
  | nothing same =>
    rw [same]
    exact ⟨opened, fun _ => id⟩
  | redetected checkIn checkOut stored =>
    rw [stored]
    have redetect : ∀ row : SyncConflict, row.status = .opened →
        (row.redetect checkIn checkOut now).status = .opened := by
      intro row isOpen
      rw [SyncConflict.redetect, isOpen]
      rfl
    refine ⟨Table.forall_updateWhere opened fun row _ _ kept ofConn => redetect row (kept ofConn),
      ?_⟩
    rintro uid ⟨row, member, filed, isOpen⟩
    refine ⟨_, Table.mem_updateWhere.mpr ⟨row, member, rfl⟩, ?_⟩
    split
    · exact ⟨filed, redetect row isOpen⟩
    · exact ⟨filed, isOpen⟩
  | filed checkIn checkOut id fresh stored =>
    rw [stored]
    refine ⟨fun row member ofConn => ?_, ?_⟩
    · obtain earlier | last := List.mem_append.mp member
      · exact opened row earlier ofConn
      · rw [List.mem_singleton.mp last]
        rfl
    · rintro uid ⟨row, member, filed⟩
      exact ⟨row, List.mem_append_left _ member, filed⟩

/-- What the loop over such a feed leaves. -/
structure RefusedAll (conn : ChannelConnection) (events : List ImportedEvent) (db : Db)
    (progress : SyncProgress) : Prop where
  bookings : progress.db.booking = db.booking
  imported : progress.imported = 0
  conflicts : progress.conflicts = events.length
  uids : progress.notImportedUids = events.map ImportedEvent.uid
  opened : ∀ row ∈ progress.db.syncConflict, row.channelConnectionId = conn.id →
    row.status = .opened
  disputed : ∀ event ∈ events, conn.Disputes event.uid progress.db

theorem importAll_refusedAll [PostgresServer] (uuids : UuidSource) (now : Instant)
    (lawful : db.BookingsLawful) (registered : conn.Registered db) (new : conn.New db)
    (held : ∀ event ∈ events, event.Held conn db) :
    RefusedAll conn events db (importAll uuids conn events noFaults now db) := by
  induction events using List.reverseRecOn with
  | nil => exact ⟨rfl, rfl, rfl, rfl, new.conflicts, fun event member => by cases member⟩
  | append_singleton events event inductionHypothesis =>
    have earlier := inductionHypothesis fun other member =>
      held other (List.mem_append_left _ member)
    obtain ⟨entered, checkIn, checkOut, bound, row, member, ofUnit, occupying, meets⟩ :=
      held event (List.mem_append_right _ List.mem_cons_self)
    have lawfulNow := importAll_lawful uuids conn events noFaults now lawful
    have registeredNow : conn.Registered (importAll uuids conn events noFaults now db).db :=
      importAll_registered registered events
    have blocked : Blocked conn event.uid checkIn checkOut
        (importAll uuids conn events noFaults now db).db := by
      refine ⟨row, ?_, fun imported => new.bookings row member imported.1, ofUnit, occupying, meets⟩
      rw [earlier.bookings]
      exact member
    have refused : tryUpsert uuids conn event (noFaults events.length)
        (importAll uuids conn events noFaults now db).db =
          .error (.violation .bookingNoOverlap) := by
      obtain ⟨-, refused⟩ | ⟨free, -⟩ :=
        upsertEvent_blocked uuids lawfulNow registeredNow bound entered
      · exact refused
      · exact absurd blocked free
    obtain ⟨conflict, conflictMember, filed, -⟩ :=
      recordConflict_records uuids registeredNow bound now
    have filing := recordConflict_filing uuids conn event now false
      (importAll uuids conn events noFaults now db).db
    obtain ⟨opened, disputes⟩ := filing.keepsOpen earlier.opened
    rw [importAll_concat, importEvent, refused]
    refine ⟨?_, earlier.imported, ?_, ?_, opened, fun other otherMember => ?_⟩
    · exact filing.booking.trans earlier.bookings
    · rw [List.length_append, ← earlier.conflicts]
      rfl
    · rw [List.map_append, ← earlier.uids]
      rfl
    · obtain before | last := List.mem_append.mp otherMember
      · exact disputes other.uid (earlier.disputed other before)
      · rw [List.mem_singleton.mp last]
        exact ⟨conflict, conflictMember, filed, opened conflict conflictMember filed.1⟩

/-- A sync of such a feed imports nothing, leaves the bookings and disputes every event. -/
theorem reconcileFeed_refusedAll [PostgresServer] (uuids : UuidSource) (now : Instant)
    (lawful : db.BookingsLawful) (registered : conn.Registered db) (new : conn.New db)
    (held : ∀ event ∈ events, event.Held conn db) (few : 5 + events.length ≤ MAX_PARAMETERS) :
    ∃ outcome after, reconcileFeed uuids conn events noFaults now db = .ok (outcome, after) ∧
      outcome.status = .ok ∧ outcome.imported = 0 ∧ outcome.cancelled = 0 ∧
        outcome.conflicts = events.length ∧ after.booking = db.booking ∧
          ∀ event ∈ events, conn.Disputes event.uid after := by
  have refused := importAll_refusedAll uuids now lawful registered new held
  have storable : UidsStorable events := by
    intro event member
    obtain ⟨-, checkIn, checkOut, bound, -⟩ := held event member
    exact bound.storable
  have bindable : (events.map ImportedEvent.uid).all pgText := by
    simpa [List.all_map] using storable
  have unlinked : ∀ row ∈ (importAll uuids conn events noFaults now db).db.booking,
      ¬ row.AbsentFrom conn (events.map ImportedEvent.uid) := by
    rw [refused.bookings]
    exact fun row member absent => new.bookings row member absent.1
  have uncancelled : cancelAbsent conn events (importAll uuids conn events noFaults now db).db =
      .ok (0, (importAll uuids conn events noFaults now db).db) := by
    have fits : 4 + (events.map ImportedEvent.uid).length ≤ MAX_PARAMETERS := by
      rw [List.length_map]
      omega
    have unmatched : Table.matching (Booking.AbsentFrom conn (events.map ImportedEvent.uid))
        (importAll uuids conn events noFaults now db).db.booking = [] :=
      List.filter_eq_nil_iff.mpr fun row member absent =>
        unlinked row member (of_decide_eq_true absent)
    rw [cancelAbsent]
    split
    · rfl
    · dsimp only
      rw [if_neg (not_lt.mpr fits), if_neg (not_not.mpr bindable), unmatched, Db.setBookingStatus,
        Table.updateWhere_eq_self unlinked]
      rfl
  have closed : closeHealed conn events
      (importAll uuids conn events noFaults now db).notImportedUids now
      (importAll uuids conn events noFaults now db).db =
        .ok (resolveHealed conn events (importAll uuids conn events noFaults now db).notImportedUids
          now (importAll uuids conn events noFaults now db).db) := by
    have fits : 5 + (importAll uuids conn events noFaults now db).notImportedUids.length ≤
        MAX_PARAMETERS := by
      rw [refused.uids, List.length_map]
      exact few
    rw [closeHealed]
    split
    · rename_i empty
      rw [resolveHealed, if_pos empty]
    · rw [if_neg (not_lt.mpr fits), refused.uids, if_neg (not_not.mpr bindable)]
  have reconciledTo : ∃ after, reconcileFeed uuids conn events noFaults now db = .ok ({
        status := .ok
        lastSyncedAt := some now
        lastError := none
        imported := (importAll uuids conn events noFaults now db).imported
        cancelled := 0
        conflicts := (importAll uuids conn events noFaults now db).conflicts }, after) ∧
      after = (resolveHealed conn events
        (importAll uuids conn events noFaults now db).notImportedUids now
        (importAll uuids conn events noFaults now db).db).updateConnection conn (.stamp now) := by
    simp only [importAll] at uncancelled closed ⊢
    simp only [reconcileFeed, uncancelled, closed]
    exact ⟨_, rfl, rfl⟩
  obtain ⟨after, answered, stored⟩ := reconciledTo
  refine ⟨_, after, answered, rfl, refused.imported, rfl, refused.conflicts, ?_,
    fun event member => ?_⟩
  · rw [stored, ← refused.bookings, resolveHealed]
    split
    · rfl
    · rfl
  · obtain ⟨row, rowMember, filed, isOpen⟩ := refused.disputed event member
    rw [stored, resolveHealed]
    split
    · exact ⟨row, rowMember, filed, isOpen⟩
    · refine ⟨row, mem_updateWhere_of_unmatched rowMember fun healed => ?_, filed, isOpen⟩
      refine healed.2.2.2 ?_
      rw [refused.uids, filed.2]
      exact List.mem_map_of_mem member

end Refused

/-! ### A reconnect -/

section Reconnect

variable {start : Estate} {tenantId id : Uuid} {conn : ChannelConnection}

/-- A feed of stays the connection has imported. -/
def Reoffers (id : Uuid) (events : List ImportedEvent) (db : Db) : Prop :=
  ∀ event ∈ events, ∃ row ∈ db.booking, row.ImportedAs id event.uid ∧ row.status = .confirmed ∧
    bindStay event.start event.stop = .ok (row.checkIn, row.checkOut)

/-- A new connection has no imports and no conflicts. -/
theorem insertConnection_new [PostgresServer] {row : ChannelConnection} {db after : Db}
    (sound : db.Sound) (inserted : insertConnection row db = .ok after)
    (fresh : ∀ conn ∈ db.channelConnection, conn.id ≠ row.id) : row.New after := by
  obtain ⟨-, -, -, rfl⟩ := insertConnection_ok.mp inserted
  constructor
  · intro booking member linked
    obtain ⟨other, stored, same⟩ := (Db.failedForeignKey_eq_none.mp
      (sound.bookings.lawful.linked booking member)).2 row.id linked
    exact fresh other stored same
  · intro conflict member filed
    obtain ⟨other, stored, same, -⟩ := sound.conflicts.filed conflict member
    exact absurd (same.trans filed) (fresh other stored)

/-- The owner disconnects a channel, does anything but cancel what it had imported, and connects the
unit again: the first sync of a feed of those stays imports none of them, leaves every booking, and
has each of them in the inbox as an open conflict. No statement of that sync meets a fault outside
the data, and the feed has room in the statement that closes conflicts. -/
theorem reconnect_disputes_what_was_kept [PostgresServer] (env : PayEnvironment)
    (sound : start.Sound) (found : findConnection tenantId id start.db = some conn)
    (later : List Operation) {events : List ImportedEvent} (reoffers : Reoffers id events start.db)
    (few : 5 + events.length ≤ MAX_PARAMETERS)
    (uncancelled : ∀ row ∈ start.db.booking, row.channelConnectionId = some id →
      ∀ operation ∈ later, ¬ operation.Cancels row)
    (dto : CreateChannelConnectionRequest) (probe : IcalProbeResult) (now : Instant)
    {response : ChannelConnectionResponse} {connected : Db}
    (reconnected : finishConnect tenantId conn.unitId dto probe now
      (env.uuids.draw (runEstate env (.disconnect tenantId id :: later) start).drawn)
      (runEstate env (.disconnect tenantId id :: later) start).db = .ok (response, connected))
    (syncedAt : Instant) :
    ∃ row ∈ connected.channelConnection, ∃ outcome after,
      row.id = response.id ∧ row.unitId = conn.unitId ∧
      settleFeed env.uuids row (.ok events) noFaults syncedAt connected = .ok (outcome, after) ∧
      outcome.status = .ok ∧ outcome.imported = 0 ∧ outcome.cancelled = 0 ∧
        outcome.conflicts = events.length ∧ after.booking = connected.booking ∧
          ∀ event ∈ events, row.Disputes event.uid after := by
  have reached := runEstate_sound env (.disconnect tenantId id :: later) sound
  have kept := (disconnect_keeps_the_ledger env sound found later).2
  have unused : ∀ other ∈
      (runEstate env (.disconnect tenantId id :: later) start).db.channelConnection,
      other.id ≠ env.uuids.draw (runEstate env (.disconnect tenantId id :: later) start).drawn := by
    intro other member same
    exact env.uuids.fresh _ (same ▸ reached.drawn other member)
  generalize runEstate env (.disconnect tenantId id :: later) start = estate at *
  obtain ⟨stored, rfl, -⟩ := findConnection_some found
  generalize env.uuids.draw estate.drawn = newId at unused reconnected
  obtain ⟨inserted, answered⟩ : insertConnection (dto.row tenantId conn.unitId probe now newId)
        estate.db = .ok connected ∧
      toChannelResponse (dto.row tenantId conn.unitId probe now newId) 0 now = response := by
    rw [finishConnect] at reconnected
    cases written : insertConnection (dto.row tenantId conn.unitId probe now newId) estate.db with
    | error thrown =>
      rw [written] at reconnected
      cases reconnected
    | ok after =>
      rw [written] at reconnected
      cases reconnected
      exact ⟨rfl, rfl⟩
  have soundNow := insertConnection_sound reached.db inserted unused
  have new := insertConnection_new reached.db inserted unused
  obtain ⟨-, -, -, connectedTo⟩ := insertConnection_ok.mp inserted
  have member : dto.row tenantId conn.unitId probe now newId ∈ connected.channelConnection := by
    rw [connectedTo]
    exact List.mem_append_right _ List.mem_cons_self
  have held : ∀ event ∈ events,
      event.Held (dto.row tenantId conn.unitId probe now newId) connected := by
    intro event eventMember
    obtain ⟨row, rowMember, imported, confirmed, stay⟩ := reoffers event eventMember
    have own := sound.db.bookings.imports conn stored row rowMember imported.1
    have ordered : row.checkIn < row.checkOut :=
      (Booking.failedCheck_eq_none.mp (sound.db.bookings.lawful.checked row rowMember)).2.1
    have remains : row.forget [conn.id] ∈ connected.booking := by
      rw [connectedTo]
      obtain stays | ⟨⟨operation, asked, cancels⟩, -⟩ := kept row rowMember imported.1
      · exact stays
      · exact absurd cancels (uncancelled row rowMember imported.1 operation asked)
    have entered := sound.db.bookings.lawful.entered row rowMember
    rw [Booking.indexRefusal, imported.1, imported.2] at entered
    refine ⟨entered, row.checkIn, row.checkOut, ⟨?_, stay, ordered⟩, _, remains, own.unit, ?_, ?_⟩
    · exact sound.db.bookings.uids row rowMember event.uid imported.2
    · show row.status.Occupying
      rw [confirmed]
      decide
    · exact max_lt (lt_min ordered ordered) (lt_min ordered ordered)
  obtain ⟨outcome, after, synced, rest⟩ := reconcileFeed_refusedAll env.uuids syncedAt
    soundNow.bookings.lawful (soundNow.registered member ⟨rfl, rfl, rfl⟩) new held few
  exact ⟨_, member, outcome, after, by rw [← answered]; rfl, rfl, synced, rest⟩

end Reconnect

/-! ### Two connects of one channel -/

section Connect

variable {db : Db} {tenantId unitId : Uuid}

/-- Under the foreign key a unit's connections are its tenant's, so the check sees what the
constraint sees. -/
theorem findByUnitAndChannel_isSome [PostgresServer] (sound : db.Sound)
    (placed : unitExists tenantId unitId db) (dto : CreateChannelConnectionRequest)
    (probe : IcalProbeResult) (now : Instant) (id : Uuid) :
    (findByUnitAndChannel tenantId unitId dto.channel db).isSome ↔
      (dto.row tenantId unitId probe now id).Taken db := by
  rw [findByUnitAndChannel, List.find?_isSome]
  constructor
  · rintro ⟨row, member, matched⟩
    obtain ⟨sameUnit, sameChannel, -⟩ := of_decide_eq_true matched
    exact ⟨row, member, sameUnit, sameChannel⟩
  · rintro ⟨row, member, sameUnit, sameChannel⟩
    obtain ⟨unit, stored, rfl, rfl⟩ := placed
    obtain ⟨other, otherStored, ofRow, ofTenant⟩ := sound.connections.units row member
    have isUnit : other = unit :=
      Table.eq_of_key sound.inventory.units otherStored stored (ofRow.trans sameUnit)
    rw [isUnit] at ofTenant
    exact ⟨row, member, decide_eq_true ⟨sameUnit, sameChannel, ofTenant.symm⟩⟩

/-- Whatever ran between the check of a connect and its insert, the constraint answers a taken
channel as the check does, and where the channel is free the insert leaves it exactly one row. The
unit is still there when the insert runs, and the address and the probe's error are texts. -/
theorem connect_is_exclusive [PostgresServer] (env : PayEnvironment) (run : List Operation)
    {start : Estate} (sound : start.Sound)
    (placed : unitExists tenantId unitId (runEstate env run start).db)
    (dto : CreateChannelConnectionRequest) (probe : IcalProbeResult) (now : Instant)
    (bindable : pgText dto.importIcalUrl ∧ probe.error.all pgText) (id : Uuid) :
    (checkConnect tenantId unitId dto (runEstate env run start).db =
        .error channelAlreadyConnected ↔
      finishConnect tenantId unitId dto probe now id (runEstate env run start).db =
        .error channelAlreadyConnected) ∧
      (checkConnect tenantId unitId dto (runEstate env run start).db = .ok () →
        ∃ response after,
          finishConnect tenantId unitId dto probe now id (runEstate env run start).db =
            .ok (response, after) ∧
          after.channelConnection.filter (fun row => row.unitId = unitId ∧
            row.channel = dto.channel) = [dto.row tenantId unitId probe now id]) := by
  have reached := runEstate_sound env run sound
  generalize (runEstate env run start) = estate at reached placed ⊢
  have agree := findByUnitAndChannel_isSome reached.db placed dto probe now id
  have bound : pgText (dto.row tenantId unitId probe now id).importIcalUrl ∧
      (dto.row tenantId unitId probe now id).lastError.all pgText := bindable
  rw [checkConnect, if_neg (not_not.mpr placed), finishConnect]
  by_cases taken : (dto.row tenantId unitId probe now id).Taken estate.db
  · have refused : insertConnection (dto.row tenantId unitId probe now id) estate.db =
        .error channelAlreadyConnected := by
      rw [insertConnection, if_neg (not_not.mpr bound), if_pos taken]
    rw [if_pos (agree.mpr taken), refused]
    exact ⟨iff_of_true rfl rfl, fun free => by cases free⟩
  · have inserted := insertConnection_ok.mpr ⟨bound, taken, placed, rfl⟩
    rw [if_neg (mt agree.mp taken), inserted]
    refine ⟨iff_of_false (fun same => by cases same) (fun same => by cases same),
      fun _ => ⟨_, _, rfl, ?_⟩⟩
    rw [List.filter_append, List.filter_eq_nil_iff.mpr, List.nil_append]
    · rw [List.filter_eq_self]
      intro row member
      rw [List.mem_singleton.mp member]
      exact decide_eq_true ⟨rfl, rfl⟩
    · intro row member matched
      exact taken ⟨row, member, of_decide_eq_true matched⟩

end Connect

/-! ### The villa -/

attribute [local instance] PostgresServer.uncompressed

/-- A stay of September on Airbnb. -/
def villaSeptember : List ImportedEvent := [⟨"uid-1", "2026-09-01".toList, "2026-09-03".toList⟩]

/-- The villa after a sync that imported it. -/
def villaSynced : Estate :=
  runEstate villaEnvironment
    [.startSync villaConnection, .settleSync villaConnection (.ok villaSeptember) noFaults 2]
    villaEstate

theorem villaSynced_sound : villaSynced.Sound :=
  runEstate_sound villaEnvironment _ villaEstate_sound

/-- The row of the villa's connection after the sync. -/
theorem villaSynced_connection :
    findConnection 1 30 villaSynced.db = some (villaConnection.stamp 2) := by
  decide +kernel

/-- The import as the disconnect leaves it. -/
def villaKept : Booking := (importedRow villaConnection "uid-1" 20697 20699 2).forget [30]

/-- What happens after the disconnect: a sweep, a cancel by another tenant, and a new connection of
the same feed that is synced. -/
def villaLater : List Operation :=
  [.transaction (.sweepExpiredHolds 9) id, .transaction (.cancel 2 2) id,
    .finishConnect 1 20 ⟨.airbnb, "https://a/b.ics"⟩ ⟨true, none⟩ 9]

/-- One imported booking is kept, through all that happens afterwards. -/
theorem disconnect_keeps_the_ledger_villa :
    (disconnect 1 30 villaSynced.db).map Prod.fst = .ok 1 ∧
      villaKept ∈ (runEstate villaEnvironment (.disconnect 1 30 :: villaLater)
        villaSynced).db.booking := by
  obtain ⟨counted, kept⟩ := disconnect_keeps_the_ledger villaEnvironment villaSynced_sound
    villaSynced_connection villaLater
  refine ⟨counted.trans (by decide +kernel), ?_⟩
  obtain stays | ⟨⟨operation, asked, cancels⟩, -⟩ :=
    kept (importedRow villaConnection "uid-1" 20697 20699 2) (by decide +kernel) rfl
  · exact stays
  · fin_cases asked
    · exact cancels.elim
    · exact absurd cancels.1 (by decide)
    · exact cancels.elim

theorem villaSynced_reoffers : Reoffers 30 villaSeptember villaSynced.db := by
  intro event member
  rw [List.mem_singleton.mp member]
  exact ⟨importedRow villaConnection "uid-1" 20697 20699 2, by decide +kernel, ⟨rfl, rfl⟩, rfl,
    by decide +kernel⟩

/-- Connected again, the villa finds its own September in dispute. -/
theorem reconnect_disputes_villa :
    ∃ row : ChannelConnection, ∃ outcome : SyncOutcome, ∃ after : Db, row.unitId = 20 ∧
      outcome.conflicts = 1 ∧ row.Disputes "uid-1" after := by
  have reconnected : ∃ response connected, finishConnect 1 20 ⟨.airbnb, "https://a/b.ics"⟩
      ⟨true, none⟩ 3
      (villaEnvironment.uuids.draw
        (runEstate villaEnvironment [.disconnect 1 30] villaSynced).drawn)
      (runEstate villaEnvironment [.disconnect 1 30] villaSynced).db = .ok (response, connected) :=
    ⟨_, _, rfl⟩
  obtain ⟨response, connected, reconnected⟩ := reconnected
  obtain ⟨row, member, outcome, after, -, sameUnit, -, -, -, -, conflicts, -, disputed⟩ :=
    reconnect_disputes_what_was_kept villaEnvironment villaSynced_sound villaSynced_connection []
      villaSynced_reoffers (by decide) (fun _ _ _ _ member => absurd member List.not_mem_nil)
      ⟨.airbnb, "https://a/b.ics"⟩
      ⟨true, none⟩ 3 reconnected 4
  exact ⟨row, outcome, after, sameUnit, conflicts, disputed _ List.mem_cons_self⟩

/-- While the host is probed, the owner disconnects Airbnb and a hold is swept; Booking.com is free,
and then it is not. -/
theorem connect_is_exclusive_villa :
    ∃ response after, finishConnect 1 20 ⟨.bookingCom, "https://b/c.ics"⟩ ⟨true, none⟩ 5 31
        (runEstate villaEnvironment
          [.disconnect 1 30, .transaction (.sweepExpiredHolds 4) id] villaSynced).db =
          .ok (response, after) ∧
      (after.channelConnection.filter fun row => row.unitId = 20 ∧ row.channel = .bookingCom) =
        [CreateChannelConnectionRequest.row ⟨.bookingCom, "https://b/c.ics"⟩ 1 20 ⟨true, none⟩ 5
          31] := by
  refine (connect_is_exclusive villaEnvironment
    [.disconnect 1 30, .transaction (.sweepExpiredHolds 4) id] villaSynced_sound
    (by decide +kernel : unitExists 1 20 (runEstate villaEnvironment
      [.disconnect 1 30, .transaction (.sweepExpiredHolds 4) id] villaSynced).db)
    ⟨.bookingCom, "https://b/c.ics"⟩ ⟨true, none⟩ 5 (by decide +kernel) 31).2 ?_
  rfl

end Sambung
