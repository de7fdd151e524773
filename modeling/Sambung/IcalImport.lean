/-
This file states the import pipeline, `ical-import.service.ts`: one connection's
sync, from a fetched body to the booking and conflict rows it leaves.

A sync reads first and writes second. `readFeed` is the half outside the
transaction: the fetched body, the property's clock and the parse. `reconcileFeed`
is the transaction: one savepoint per event, then the cancellation of absent
UIDs, then the closing of healed conflicts, then the stamp.

A statement inside a savepoint may fail for reasons outside the data (a deadlock,
a dropped lock). Such a fault is an input of the sync, one per event.

The two statements behind the loop stand in no savepoint and name every UID of a
list, one parameter each. Where such a list cannot be bound, because a UID holds
U+0000 or because there are more of them than a statement carries, the whole
transaction aborts and the sync answers with the error. `Bindable` says from the
feed and the state before when that does not happen, and `reconciled` is the
database the transaction then commits.
-/

import Sambung.Bookings
import Sambung.IcalParse

namespace Sambung

/-! ### Reading the feed -/

/-- What `fetchFeed` answers. -/
structure IcalFetchResult where
  ok : Bool
  body : Option Text
  error : Option String
  deriving DecidableEq, Repr

/-- A fetch that brought a body. -/
def fetchedBody (body : Text) : IcalFetchResult := { ok := true, body := some body, error := none }

structure SyncOutcome where
  status : SyncStatus
  lastSyncedAt : Option Instant
  lastError : Option String
  imported : Nat
  cancelled : Nat
  conflicts : Nat
  deriving DecidableEq, Repr

/-- The property's clock, by way of the connection's unit. -/
def resolveTimeZone (conn : ChannelConnection) (db : Db) : Option String := do
  let unit ← db.unit.find? fun unit => unit.id = conn.unitId ∧ unit.tenantId = conn.tenantId
  let property ← db.property.find? fun property =>
    property.id = unit.propertyId ∧ property.tenantId = conn.tenantId
  some property.timeZone

/-- The events of a healthy feed, or why the feed is not healthy. -/
def readFeed (intl : DateTimeFormat) (conn : ChannelConnection) (fetched : IcalFetchResult)
    (db : Db) : Except String (List ImportedEvent) :=
  match fetched.ok, fetched.body with
  | true, some body =>
    match resolveTimeZone conn db with
    | none => .error "Unit or property no longer exists"
    | some timeZone =>
      match parseCalendar intl body timeZone with
      | .failed error => .error error
      | .ok events _ => .ok events
  | _, _ => .error (fetched.error.getD "Feed is unreachable")

/-! ### One event -/

/-- The booking a connection imported under a UID. -/
abbrev Booking.ImportedAs (connectionId : Uuid) (uid : String) (row : Booking) : Prop :=
  row.channelConnectionId = some connectionId ∧ row.externalUid = some uid

/-- `SET check_in, check_out, status = 'confirmed'`. -/
def Booking.moveTo (checkIn checkOut : PgDate) (row : Booking) : Booking :=
  { row with checkIn, checkOut, status := .confirmed }

/-- The row an event is inserted as: a confirmed block of the channel, with no guest and no
price. -/
def importedRow (conn : ChannelConnection) (uid : String) (checkIn checkOut : PgDate)
    (id : Uuid) : Booking where
  id
  tenantId := conn.tenantId
  unitId := conn.unitId
  source := conn.channel.asBookingSource
  status := .confirmed
  checkIn
  checkOut
  guestName := none
  guestPhone := none
  guestEmail := none
  guestCount := none
  totalPriceIdr := none
  externalUid := some uid
  channelConnectionId := some conn.id
  holdExpiresAt := none

/-- `INSERT ... ON CONFLICT (channel_connection_id, external_uid) DO UPDATE`. -/
def upsertEvent [PostgresServer] (uuids : UuidSource) (conn : ChannelConnection)
    (event : ImportedEvent) (db : Db) : Except PgError Db :=
  if ¬ pgText event.uid then .error .invalidText
  else
    match bindStay event.start event.stop with
    | .error error => .error error
    | .ok (checkIn, checkOut) =>
      match db.booking.find? fun row => row.ImportedAs conn.id event.uid with
      | none =>
        (db.insertBooking uuids (importedRow conn event.uid checkIn checkOut)).map Prod.snd
      | some existing =>
        let moved := existing.moveTo checkIn checkOut
        match (moved.failedCheck).or (db.failedIndex moved) with
        | some constraint => .error (.violation constraint)
        | none => .ok { db with
            booking := Table.updateWhere (Booking.ImportedAs conn.id event.uid)
              (Booking.moveTo checkIn checkOut) db.booking }

/-- The conflict a connection filed under a UID. -/
abbrev SyncConflict.FiledAs (connectionId : Uuid) (uid : String) (row : SyncConflict) : Prop :=
  row.channelConnectionId = connectionId ∧ row.externalUid = uid

/-- The update of a conflict that is detected again: `resolved` reopens, the other two
statuses stay, and `first_detected_at` is kept. -/
def SyncConflict.redetect (checkIn checkOut : PgDate) (now : Instant) (row : SyncConflict) :
    SyncConflict :=
  { row with
    checkIn
    checkOut
    lastSeenAt := now
    status := if row.status = .resolved then .opened else row.status
    closedAt := if row.status = .resolved then none else row.closedAt }

/-- The row a first detection files. -/
def filedConflict (conn : ChannelConnection) (uid : String) (checkIn checkOut : PgDate)
    (now : Instant) (id : Uuid) : SyncConflict where
  id
  tenantId := conn.tenantId
  channelConnectionId := conn.id
  unitId := conn.unitId
  externalUid := uid
  checkIn
  checkOut
  status := .opened
  firstDetectedAt := now
  lastSeenAt := now
  closedAt := none

/-- Files a refused event in the inbox, in a savepoint of its own: where it fails, nothing is
filed and the cycle goes on. The unique index over connection and UID has the columns of the one
on `booking`, in which the UID was entered before `booking_no_overlap` refused it, so that its
entry always fits. -/
def recordConflict (uuids : UuidSource) (conn : ChannelConnection) (event : ImportedEvent)
    (now : Instant) (faulted : Bool) (db : Db) : Db :=
  if faulted ∨ ¬ pgText event.uid then db
  else
    match bindStay event.start event.stop with
    | .error _ => db
    | .ok (checkIn, checkOut) =>
      if ¬ checkIn < checkOut then db
      else if ∃ row ∈ db.syncConflict, row.FiledAs conn.id event.uid then
        { db with
          syncConflict := Table.updateWhere (SyncConflict.FiledAs conn.id event.uid)
            (SyncConflict.redetect checkIn checkOut now) db.syncConflict }
      else if (∃ unit ∈ db.unit, unit.id = conn.unitId ∧ unit.tenantId = conn.tenantId) ∧
          ∃ connection ∈ db.channelConnection, connection.id = conn.id then
        { db with
          syncConflict := db.syncConflict ++
            [filedConflict conn event.uid checkIn checkOut now
              (uuids.draw (db.syncConflict.map SyncConflict.id))] }
      else db

/-- What befalls the two statements of an event for reasons outside the data: the SQLSTATE
the upsert fails with, and whether the filing fails. -/
structure EventFault where
  upsert : Option String
  record : Bool
  deriving DecidableEq, Repr

def EventFault.none : EventFault := ⟨.none, false⟩

/-- The variables of the loop over the events. -/
structure SyncProgress where
  db : Db
  imported : Nat
  conflicts : Nat
  notImportedUids : List String

/-- The upsert in its savepoint. -/
def tryUpsert [PostgresServer] (uuids : UuidSource) (conn : ChannelConnection)
    (event : ImportedEvent) (fault : EventFault) (db : Db) : Except PgError Db :=
  match fault.upsert with
  | some code => .error ⟨code, none⟩
  | none => upsertEvent uuids conn event db

/-- One turn of the loop. -/
def importEvent [PostgresServer] (uuids : UuidSource) (conn : ChannelConnection) (now : Instant)
    (fault : EventFault) (progress : SyncProgress) (event : ImportedEvent) : SyncProgress :=
  match tryUpsert uuids conn event fault progress.db with
  | .ok db => { progress with db, imported := progress.imported + 1 }
  | .error error =>
    let notImportedUids := progress.notImportedUids ++ [event.uid]
    if error.constraint = some .bookingNoOverlap then
      { progress with
        db := recordConflict uuids conn event now fault.record progress.db
        conflicts := progress.conflicts + 1
        notImportedUids }
    else { progress with notImportedUids }

/-- The loop over the events of a feed, from the event at `index` on. -/
def importEvents [PostgresServer] (uuids : UuidSource) (conn : ChannelConnection) (now : Instant)
    (faults : Nat → EventFault) : Nat → List ImportedEvent → SyncProgress → SyncProgress
  | _, [], progress => progress
  | index, event :: events, progress =>
    importEvents uuids conn now faults (index + 1) events
      (importEvent uuids conn now (faults index) progress event)

/-! ### After the events -/

/-- The rows an absent UID's cancellation matches. -/
abbrev Booking.AbsentFrom (conn : ChannelConnection) (presentUids : List String)
    (row : Booking) : Prop :=
  row.channelConnectionId = some conn.id ∧ row.tenantId = conn.tenantId ∧
    row.status = .confirmed ∧ ∃ uid ∈ row.externalUid, uid ∉ presentUids

/-- Cancels the connection's own confirmed imports whose UID is not among the events. Four
parameters stand before the UIDs: the status set, and connection, tenant and status asked for. -/
def cancelAbsent (conn : ChannelConnection) (events : List ImportedEvent) (db : Db) :
    Except PgError (Nat × Db) :=
  if events = [] then .ok (0, db)
  else
    let presentUids := events.map ImportedEvent.uid
    if MAX_PARAMETERS < 4 + presentUids.length then .error .parameterCount
    else if ¬ presentUids.all pgText then .error .invalidText
    else .ok ((Table.matching (Booking.AbsentFrom conn presentUids) db.booking).length,
      db.setBookingStatus .cancelled (Booking.AbsentFrom conn presentUids))

/-- The rows the closing of healed conflicts matches. -/
abbrev SyncConflict.Healed (conn : ChannelConnection) (notImportedUids : List String)
    (row : SyncConflict) : Prop :=
  row.channelConnectionId = conn.id ∧ row.tenantId = conn.tenantId ∧ row.status = .opened ∧
    row.externalUid ∉ notImportedUids

/-- `SET status = 'resolved', closed_at`. -/
def SyncConflict.resolve (now : Instant) (row : SyncConflict) : SyncConflict :=
  { row with status := .resolved, closedAt := some now }

/-- The update of the healed conflicts, once its list is bound. -/
def resolveHealed (conn : ChannelConnection) (events : List ImportedEvent)
    (notImportedUids : List String) (now : Instant) (db : Db) : Db :=
  if events = [] then db
  else { db with
    syncConflict := Table.updateWhere (SyncConflict.Healed conn notImportedUids)
      (SyncConflict.resolve now) db.syncConflict }

/-- Closes the open conflicts of the connection that this pull measured as healed. Five parameters
stand before the UIDs: status and instant set, and connection, tenant and status asked for. -/
def closeHealed (conn : ChannelConnection) (events : List ImportedEvent)
    (notImportedUids : List String) (now : Instant) (db : Db) : Except PgError Db :=
  if events = [] then .ok db
  else if MAX_PARAMETERS < 5 + notImportedUids.length then .error .parameterCount
  else if ¬ notImportedUids.all pgText then .error .invalidText
  else .ok (resolveHealed conn events notImportedUids now db)

/-- `UPDATE channel_connection ... WHERE id AND tenant_id`. -/
def Db.updateConnection (conn : ChannelConnection)
    (change : ChannelConnection → ChannelConnection) (db : Db) : Db :=
  { db with
    channelConnection :=
      Table.updateWhere (fun row => row.id = conn.id ∧ row.tenantId = conn.tenantId) change
        db.channelConnection }

/-- Marks a connection unhealthy, and writes nothing else. -/
def markError (conn : ChannelConnection) (error : String) (db : Db) : SyncOutcome × Db :=
  ({ status := .error
     lastSyncedAt := conn.lastSyncedAt
     lastError := some error
     imported := 0
     cancelled := 0
     conflicts := 0 },
   db.updateConnection conn fun row => { row with lastStatus := .error, lastError := some error })

/-- `SET last_status = 'ok', last_synced_at = now, last_error = NULL`. -/
def ChannelConnection.stamp (now : Instant) (row : ChannelConnection) : ChannelConnection :=
  { row with lastStatus := .ok, lastSyncedAt := some now, lastError := none }

/-! ### The sync -/

/-- The transaction of a healthy feed. -/
def reconcileFeed [PostgresServer] (uuids : UuidSource) (conn : ChannelConnection)
    (events : List ImportedEvent) (faults : Nat → EventFault) (now : Instant) (db : Db) :
    Answer SyncOutcome :=
  let progress := importEvents uuids conn now faults 0 events ⟨db, 0, 0, []⟩
  match cancelAbsent conn events progress.db with
  | .error error => .error (.pg error)
  | .ok (cancelled, afterCancel) =>
    match closeHealed conn events progress.notImportedUids now afterCancel with
    | .error error => .error (.pg error)
    | .ok afterClose =>
      .ok ({
        status := .ok
        lastSyncedAt := some now
        lastError := none
        imported := progress.imported
        cancelled
        conflicts := progress.conflicts }, afterClose.updateConnection conn (.stamp now))

/-- The write half of a sync, on what the read half found. -/
def settleFeed [PostgresServer] (uuids : UuidSource) (conn : ChannelConnection)
    (feed : Except String (List ImportedEvent)) (faults : Nat → EventFault) (now : Instant)
    (db : Db) : Answer SyncOutcome :=
  match feed with
  | .error error => .ok (markError conn error db)
  | .ok events => reconcileFeed uuids conn events faults now db

/-- `syncConnection`, with no other writer between its read and its write. -/
def syncConnection [PostgresServer] (uuids : UuidSource) (intl : DateTimeFormat)
    (conn : ChannelConnection) (fetched : IcalFetchResult) (faults : Nat → EventFault)
    (now : Instant) (db : Db) :
    Answer SyncOutcome :=
  settleFeed uuids conn (readFeed intl conn fetched db) faults now db

/-! ### What a refused event leaves -/

/-- The database with other conflicts. -/
def Db.withConflicts (rows : List SyncConflict) (db : Db) : Db := { db with syncConflict := rows }

/-- An upsert reads no conflict and writes none, so it does the same over any other inbox. -/
theorem upsertEvent_withConflicts [PostgresServer] (uuids : UuidSource) (conn : ChannelConnection)
    (event : ImportedEvent) (rows : List SyncConflict) (db : Db) :
    upsertEvent uuids conn event (db.withConflicts rows) =
      (upsertEvent uuids conn event db).map (Db.withConflicts rows) := by
  unfold upsertEvent
  split
  · rfl
  · cases bindStay event.start event.stop with
    | error error => rfl
    | ok stay =>
      dsimp only [Db.withConflicts]
      cases db.booking.find? fun row => row.ImportedAs conn.id event.uid with
      | none =>
        have refusal : ∀ row, (db.withConflicts rows).bookingRefusal row =
            db.bookingRefusal row := fun _ => rfl
        dsimp only [Db.insertBooking]
        rw [show ({ db with syncConflict := rows } : Db) = db.withConflicts rows from rfl, refusal]
        cases db.bookingRefusal _ with
        | none => rfl
        | some error => rfl
      | some existing =>
        have index : (db.withConflicts rows).failedIndex (existing.moveTo stay.1 stay.2) =
            db.failedIndex (existing.moveTo stay.1 stay.2) := rfl
        dsimp only
        rw [show ({ db with syncConflict := rows } : Db) = db.withConflicts rows from rfl, index]
        cases (existing.moveTo stay.1 stay.2).failedCheck.or
            (db.failedIndex (existing.moveTo stay.1 stay.2)) with
        | none => rfl
        | some constraint => rfl

theorem tryUpsert_withConflicts [PostgresServer] (uuids : UuidSource) (conn : ChannelConnection)
    (event : ImportedEvent) (fault : EventFault) (rows : List SyncConflict) (db : Db) :
    tryUpsert uuids conn event fault (db.withConflicts rows) =
      (tryUpsert uuids conn event fault db).map (Db.withConflicts rows) := by
  unfold tryUpsert
  cases fault.upsert with
  | none => exact upsertEvent_withConflicts uuids conn event rows db
  | some code => rfl

/-- Filing a refused event touches the inbox alone. -/
theorem recordConflict_withConflicts (uuids : UuidSource) (conn : ChannelConnection)
    (event : ImportedEvent) (now : Instant) (faulted : Bool) (db : Db) :
    ∃ rows, recordConflict uuids conn event now faulted db = db.withConflicts rows := by
  unfold recordConflict
  split
  · exact ⟨_, rfl⟩
  · split
    · exact ⟨_, rfl⟩
    · split
      · exact ⟨_, rfl⟩
      · split
        · exact ⟨_, rfl⟩
        · split
          · exact ⟨_, rfl⟩
          · exact ⟨_, rfl⟩

/-- The event would land in the state, and its statement meets no fault. -/
abbrev Lands [PostgresServer] (uuids : UuidSource) (conn : ChannelConnection) (fault : EventFault)
    (db : Db) (event : ImportedEvent) : Prop :=
  (tryUpsert uuids conn event fault db).toOption.isSome

/-- A turn whose event does not land adds its UID and leaves all but the inbox. -/
theorem importEvent_refused [PostgresServer] {uuids : UuidSource} {conn : ChannelConnection}
    {fault : EventFault} {progress : SyncProgress} {event : ImportedEvent}
    (refused : ¬ Lands uuids conn fault progress.db event) (now : Instant) :
    (importEvent uuids conn now fault progress event).notImportedUids =
        progress.notImportedUids ++ [event.uid] ∧
      ∃ rows, (importEvent uuids conn now fault progress event).db =
        progress.db.withConflicts rows := by
  unfold importEvent
  cases tried : tryUpsert uuids conn event fault progress.db with
  | ok after => exact absurd (by rw [Lands, tried]; rfl) refused
  | error error =>
    dsimp only
    split
    · exact ⟨rfl, recordConflict_withConflicts uuids conn event now fault.record progress.db⟩
    · exact ⟨rfl, progress.db.syncConflict, rfl⟩

theorem importEvent_landed [PostgresServer] {uuids : UuidSource} {conn : ChannelConnection}
    {now : Instant} {fault : EventFault} {progress : SyncProgress} {event : ImportedEvent}
    (lands : Lands uuids conn fault progress.db event) :
    (importEvent uuids conn now fault progress event).notImportedUids =
      progress.notImportedUids := by
  unfold importEvent
  cases tried : tryUpsert uuids conn event fault progress.db with
  | ok after => rfl
  | error error =>
    rw [Lands, tried] at lands
    exact absurd lands Bool.false_ne_true

/-! ### What a sync commits -/

/-- The bookings the cancellation of absent UIDs leaves. -/
def withdrawAbsent (conn : ChannelConnection) (events : List ImportedEvent) (db : Db) : Db :=
  if events = [] then db
  else db.setBookingStatus .cancelled (Booking.AbsentFrom conn (events.map ImportedEvent.uid))

/-- The loop's variables after all events. -/
def importAll [PostgresServer] (uuids : UuidSource) (conn : ChannelConnection)
    (events : List ImportedEvent) (faults : Nat → EventFault) (now : Instant) (db : Db) :
    SyncProgress :=
  importEvents uuids conn now faults 0 events ⟨db, 0, 0, []⟩

/-- The database a healthy feed leaves when its transaction commits. -/
def reconciled [PostgresServer] (uuids : UuidSource) (conn : ChannelConnection)
    (events : List ImportedEvent) (faults : Nat → EventFault) (now : Instant) (db : Db) : Db :=
  let progress := importAll uuids conn events faults now db
  (resolveHealed conn events progress.notImportedUids now
    (withdrawAbsent conn events progress.db)).updateConnection conn (.stamp now)

/-- The events' UIDs are texts a statement can bind. -/
abbrev UidsStorable (events : List ImportedEvent) : Prop := ∀ event ∈ events, pgText event.uid

/-- The lists of UIDs behind the loop can be bound, said of the feed and the state before: every
UID is a text, and there are at most 65531 of them. Of exactly 65531 one has to land in the state
as it stands, since the closing of healed conflicts has room for one UID less. -/
structure Bindable [PostgresServer] (uuids : UuidSource) (conn : ChannelConnection)
    (events : List ImportedEvent) (faults : Nat → EventFault) (db : Db) : Prop where
  storable : UidsStorable events
  present : 4 + events.length ≤ MAX_PARAMETERS
  refused : 5 + events.length ≤ MAX_PARAMETERS ∨
    ∃ index event, events[index]? = some event ∧ Lands uuids conn (faults index) db event

theorem bindable_iff [PostgresServer] {uuids : UuidSource} {conn : ChannelConnection}
    {events : List ImportedEvent} {faults : Nat → EventFault} {db : Db} :
    (UidsStorable events ∧ 4 + events.length ≤ MAX_PARAMETERS ∧
        (5 + events.length ≤ MAX_PARAMETERS ∨
          ∃ entry ∈ events.zipIdx, Lands uuids conn (faults entry.2) db entry.1)) ↔
      Bindable uuids conn events faults db := by
  have same : (∃ entry ∈ events.zipIdx, Lands uuids conn (faults entry.2) db entry.1) ↔
      ∃ index event, events[index]? = some event ∧ Lands uuids conn (faults index) db event := by
    constructor
    · rintro ⟨⟨event, index⟩, member, lands⟩
      exact ⟨index, event, List.mem_zipIdx_iff_getElem?.mp member, lands⟩
    · rintro ⟨index, event, found, lands⟩
      exact ⟨(event, index), List.mem_zipIdx_iff_getElem?.mpr found, lands⟩
  rw [same]
  exact ⟨fun bound => ⟨bound.1, bound.2.1, bound.2.2⟩,
    fun bindable => ⟨bindable.storable, bindable.present, bindable.refused⟩⟩

instance [PostgresServer] (uuids : UuidSource) (conn : ChannelConnection)
    (events : List ImportedEvent) (faults : Nat → EventFault) (db : Db) :
    Decidable (Bindable uuids conn events faults db) :=
  decidable_of_iff _ bindable_iff

/-- A feed whose UIDs are texts and few enough for both lists. -/
structure Moderate (events : List ImportedEvent) : Prop where
  storable : UidsStorable events
  few : 5 + events.length ≤ MAX_PARAMETERS

theorem Moderate.bindable [PostgresServer] {events : List ImportedEvent}
    (moderate : Moderate events) (uuids : UuidSource) (conn : ChannelConnection)
    (faults : Nat → EventFault) (db : Db) : Bindable uuids conn events faults db where
  storable := moderate.storable
  present := (Nat.add_le_add_right (by decide : 4 ≤ 5) _).trans moderate.few
  refused := Or.inl moderate.few

section Lists

variable [PostgresServer] (uuids : UuidSource) (conn : ChannelConnection) (now : Instant)
  (faults : Nat → EventFault)

/-- The loop lists UIDs of the feed only, each event at most once. -/
theorem importEvents_listed (index : Nat) (events : List ImportedEvent) (progress : SyncProgress) :
    ∃ late, (importEvents uuids conn now faults index events progress).notImportedUids =
        progress.notImportedUids ++ late ∧
      List.Sublist late (events.map ImportedEvent.uid) := by
  induction events generalizing index progress with
  | nil => exact ⟨[], (List.append_nil _).symm, List.Sublist.refl _⟩
  | cons event events inductionHypothesis =>
    obtain ⟨late, listed, ofFeed⟩ := inductionHypothesis (index + 1)
      (importEvent uuids conn now (faults index) progress event)
    rw [importEvents, listed]
    by_cases lands : Lands uuids conn (faults index) progress.db event
    · exact ⟨late, by rw [importEvent_landed lands], ofFeed.cons _⟩
    · refine ⟨event.uid :: late, ?_, ofFeed.cons_cons _⟩
      rw [(importEvent_refused lands now).1, List.append_assoc]
      rfl

/-- As long as nothing lands the loop is in the state it began with but for the inbox, so that it
lists every event exactly where none would land there. -/
theorem importEvents_all_listed (index : Nat) (events : List ImportedEvent)
    (progress : SyncProgress) :
    (importEvents uuids conn now faults index events progress).notImportedUids.length =
        progress.notImportedUids.length + events.length ↔
      ¬ ∃ offset event, events[offset]? = some event ∧
        Lands uuids conn (faults (index + offset)) progress.db event := by
  induction events generalizing index progress with
  | nil => simp [importEvents]
  | cons event events inductionHypothesis =>
    rw [importEvents]
    by_cases lands : Lands uuids conn (faults index) progress.db event
    · obtain ⟨late, listed, ofFeed⟩ := importEvents_listed uuids conn now faults (index + 1)
        events (importEvent uuids conn now (faults index) progress event)
      have short := ofFeed.length_le
      rw [List.length_map] at short
      rw [listed, importEvent_landed lands, List.length_append, List.length_cons]
      refine iff_of_false (by omega) (not_not.mpr ⟨0, event, rfl, ?_⟩)
      rwa [Nat.add_zero]
    · obtain ⟨listed, rows, stored⟩ := importEvent_refused lands now
      have alike : ∀ fault other, Lands uuids conn fault (progress.db.withConflicts rows) other ↔
          Lands uuids conn fault progress.db other := by
        intro fault other
        rw [Lands, tryUpsert_withConflicts]
        rw [Lands]
        cases tryUpsert uuids conn other fault progress.db with
        | ok after => exact Iff.rfl
        | error error => exact Iff.rfl
      have step := inductionHypothesis (index + 1)
        (importEvent uuids conn now (faults index) progress event)
      rw [listed, stored, List.length_append, List.length_singleton] at step
      rw [List.length_cons, show progress.notImportedUids.length + (events.length + 1) =
        progress.notImportedUids.length + 1 + events.length by omega, step]
      refine not_congr ⟨?_, ?_⟩
      · rintro ⟨offset, other, found, landing⟩
        refine ⟨offset + 1, other, found, ?_⟩
        rw [show index + (offset + 1) = index + 1 + offset by omega]
        exact (alike _ _).mp landing
      · rintro ⟨offset, other, found, landing⟩
        cases offset with
        | zero =>
          rw [List.getElem?_cons_zero, Option.some.injEq] at found
          exact absurd (found ▸ landing) lands
        | succ offset =>
          refine ⟨offset, other, found, (alike _ _).mpr ?_⟩
          rwa [show index + 1 + offset = index + (offset + 1) by omega]

variable {uuids conn now faults}

/-- Where the UIDs are texts, the second list can be bound exactly where there are fewer events,
or one of as many lands. -/
theorem importAll_fits {events : List ImportedEvent} {db : Db}
    (present : 4 + events.length ≤ MAX_PARAMETERS) :
    5 + (importAll uuids conn events faults now db).notImportedUids.length ≤ MAX_PARAMETERS ↔
      5 + events.length ≤ MAX_PARAMETERS ∨
        ∃ index event, events[index]? = some event ∧
          Lands uuids conn (faults index) db event := by
  obtain ⟨late, listed, ofFeed⟩ :=
    importEvents_listed uuids conn now faults 0 events ⟨db, 0, 0, []⟩
  have short := ofFeed.length_le
  have every := importEvents_all_listed uuids conn now faults 0 events ⟨db, 0, 0, []⟩
  rw [List.length_map] at short
  rw [listed] at every
  simp only [List.nil_append, List.length_nil, Nat.zero_add] at every
  rw [importAll, listed, List.nil_append]
  constructor
  · intro fits
    by_contra neither
    obtain ⟨many, noneLands⟩ := not_or.mp neither
    have all := every.mpr noneLands
    omega
  · rintro (few | landing)
    · omega
    · have notAll : late.length ≠ events.length := fun all => every.mp all landing
      omega

theorem importAll_storable {events : List ImportedEvent} {db : Db}
    (storable : UidsStorable events) :
    (importAll uuids conn events faults now db).notImportedUids.all pgText := by
  obtain ⟨late, listed, ofFeed⟩ :=
    importEvents_listed uuids conn now faults 0 events ⟨db, 0, 0, []⟩
  rw [importAll, listed, List.nil_append, List.all_eq_true]
  intro uid member
  obtain ⟨event, eventMember, rfl⟩ := List.mem_map.mp (ofFeed.subset member)
  exact storable event eventMember

end Lists

/-! ### The commit -/

section Commit

variable [PostgresServer] (uuids : UuidSource) (conn : ChannelConnection)
  (events : List ImportedEvent) (faults : Nat → EventFault) (now : Instant) (db : Db)

omit [PostgresServer] in
/-- Where its list of UIDs can be bound, the cancellation cancels the imports whose UID is absent
and answers with their number. -/
theorem cancelAbsent_bound {events : List ImportedEvent} (storable : UidsStorable events)
    (present : 4 + events.length ≤ MAX_PARAMETERS) :
    ∃ count, cancelAbsent conn events db = .ok (count, withdrawAbsent conn events db) := by
  unfold cancelAbsent withdrawAbsent
  by_cases empty : events = []
  · exact ⟨0, by rw [if_pos empty, if_pos empty]⟩
  · have every : (events.map ImportedEvent.uid).all pgText := by
      simpa [List.all_map] using storable
    refine ⟨(Table.matching (Booking.AbsentFrom conn (events.map ImportedEvent.uid))
      db.booking).length, ?_⟩
    rw [if_neg empty, if_neg empty]
    dsimp only
    rw [List.length_map, if_neg (not_lt.mpr present)]
    exact if_neg (not_not.mpr every)

omit [PostgresServer] in
theorem cancelAbsent_unbound {events : List ImportedEvent}
    (unbound : ¬ (UidsStorable events ∧ 4 + events.length ≤ MAX_PARAMETERS)) :
    ∃ error, cancelAbsent conn events db = .error error := by
  have nonempty : events ≠ [] := by
    rintro rfl
    exact unbound ⟨fun event member => (List.not_mem_nil member).elim, by decide⟩
  unfold cancelAbsent
  rw [if_neg nonempty]
  dsimp only
  rw [List.length_map]
  split
  · exact ⟨_, rfl⟩
  · rename_i present
    have refused : ¬ (events.map ImportedEvent.uid).all pgText := fun every =>
      unbound ⟨by simpa [List.all_map] using every, not_lt.mp present⟩
    exact ⟨_, if_pos refused⟩

/-- The transaction of a healthy feed commits where its lists can be bound. -/
theorem reconcileFeed_bindable {conn : ChannelConnection} {events : List ImportedEvent}
    {faults : Nat → EventFault} {db : Db} (bindable : Bindable uuids conn events faults db) :
    ∃ cancelled, reconcileFeed uuids conn events faults now db = .ok ({
      status := .ok
      lastSyncedAt := some now
      lastError := none
      imported := (importAll uuids conn events faults now db).imported
      cancelled
      conflicts := (importAll uuids conn events faults now db).conflicts },
      reconciled uuids conn events faults now db) := by
  obtain ⟨count, cancelled⟩ := cancelAbsent_bound conn
    (importAll uuids conn events faults now db).db bindable.storable bindable.present
  have closed : closeHealed conn events
      (importAll uuids conn events faults now db).notImportedUids now
      (withdrawAbsent conn events (importAll uuids conn events faults now db).db) =
      .ok (resolveHealed conn events
        (importAll uuids conn events faults now db).notImportedUids now
        (withdrawAbsent conn events (importAll uuids conn events faults now db).db)) := by
    unfold closeHealed
    by_cases empty : events = []
    · rw [if_pos empty, resolveHealed, if_pos empty]
    · rw [if_neg empty,
        if_neg (not_lt.mpr ((importAll_fits bindable.present).mpr bindable.refused)),
        if_neg (not_not.mpr (importAll_storable bindable.storable))]
  refine ⟨count, ?_⟩
  simp only [importAll] at cancelled closed
  simp only [reconcileFeed, cancelled, closed]
  rfl

/-- Where a list of UIDs cannot be bound, the transaction aborts with the database's error. -/
theorem reconcileFeed_unbindable {conn : ChannelConnection} {events : List ImportedEvent}
    {faults : Nat → EventFault} {db : Db} (unbindable : ¬ Bindable uuids conn events faults db) :
    ∃ error, reconcileFeed uuids conn events faults now db = .error (.pg error) := by
  by_cases bound : UidsStorable events ∧ 4 + events.length ≤ MAX_PARAMETERS
  · obtain ⟨count, cancelled⟩ := cancelAbsent_bound conn
      (importAll uuids conn events faults now db).db bound.1 bound.2
    have overflow : MAX_PARAMETERS <
        5 + (importAll uuids conn events faults now db).notImportedUids.length := by
      refine not_le.mp fun fits => unbindable ⟨bound.1, bound.2, ?_⟩
      exact (importAll_fits bound.2).mp fits
    have nonempty : events ≠ [] := by
      rintro rfl
      have fits : 5 + 0 ≤ MAX_PARAMETERS := by decide
      exact absurd overflow (not_lt.mpr fits)
    simp only [importAll] at cancelled overflow
    refine ⟨.parameterCount, ?_⟩
    simp only [reconcileFeed, cancelled, closeHealed, if_neg nonempty, if_pos overflow]
  · obtain ⟨error, aborted⟩ := cancelAbsent_unbound conn
      (importAll uuids conn events faults now db).db bound
    simp only [importAll] at aborted
    exact ⟨error, by simp only [reconcileFeed, aborted]⟩

/-- The transaction of a healthy feed commits, unless a list of UIDs cannot be bound; then it
aborts. -/
theorem reconcileFeed_database :
    (reconcileFeed uuids conn events faults now db).database db =
      if Bindable uuids conn events faults db then reconciled uuids conn events faults now db
      else db := by
  by_cases bindable : Bindable uuids conn events faults db
  · obtain ⟨cancelled, committed⟩ := reconcileFeed_bindable uuids now bindable
    rw [if_pos bindable, committed]
    rfl
  · obtain ⟨error, aborted⟩ := reconcileFeed_unbindable uuids now bindable
    rw [if_neg bindable, aborted]
    rfl

end Commit

/-- A sync of a healthy feed leaves the reconciled database, or aborts. -/
theorem syncConnection_healthy [PostgresServer] {uuids : UuidSource} {intl : DateTimeFormat}
    {conn : ChannelConnection} {fetched : IcalFetchResult} {db : Db} {events : List ImportedEvent}
    (read : readFeed intl conn fetched db = .ok events) (faults : Nat → EventFault)
    (now : Instant) :
    (syncConnection uuids intl conn fetched faults now db).database db =
      if Bindable uuids conn events faults db then reconciled uuids conn events faults now db
      else db := by
  rw [syncConnection, read]
  exact reconcileFeed_database uuids conn events faults now db

/-! ### What an upsert stores -/

/-- The two ways an event lands: a new row, or the move of the row imported under its UID. -/
inductive Landed [PostgresServer] (conn : ChannelConnection) (event : ImportedEvent)
    (checkIn checkOut : PgDate) (db after : Db) : Prop where
  | inserted (id : Uuid) (absent : ∀ row ∈ db.booking, ¬ row.ImportedAs conn.id event.uid)
      (stored : Inserted db after (importedRow conn event.uid checkIn checkOut id))
  | moved (existing : Booking) (member : existing ∈ db.booking)
      (imported : existing.ImportedAs conn.id event.uid)
      (checked : (existing.moveTo checkIn checkOut).failedCheck = none)
      (accepted : db.failedIndex (existing.moveTo checkIn checkOut) = none)
      (stored : after = { db with
        booking := Table.updateWhere (Booking.ImportedAs conn.id event.uid)
          (Booking.moveTo checkIn checkOut) db.booking })

theorem upsertEvent_ok [PostgresServer] {uuids : UuidSource} {conn : ChannelConnection}
    {event : ImportedEvent} {db after : Db} (stored : upsertEvent uuids conn event db = .ok after) :
    pgText event.uid ∧ ∃ checkIn checkOut,
      bindStay event.start event.stop = .ok (checkIn, checkOut) ∧
        Landed conn event checkIn checkOut db after := by
  unfold upsertEvent at stored
  split at stored
  · cases stored
  · rename_i storable
    refine ⟨not_not.mp storable, ?_⟩
    cases bound : bindStay event.start event.stop with
    | error error => simp [bound] at stored
    | ok stay =>
      obtain ⟨checkIn, checkOut⟩ := stay
      refine ⟨checkIn, checkOut, rfl, ?_⟩
      simp only [bound] at stored
      cases found : db.booking.find? fun row => row.ImportedAs conn.id event.uid with
      | none =>
        simp only [found] at stored
        cases insertion : db.insertBooking uuids
            (importedRow conn event.uid checkIn checkOut) with
        | error error => simp [insertion, Except.map] at stored
        | ok created =>
        simp only [insertion, Except.map, Except.ok.injEq] at stored
        have inserted := Db.insertBooking_inserted (fun _ => rfl) insertion
        rw [(Db.insertBooking_ok insertion).1, stored] at inserted
        refine .inserted _ (fun row member imported => ?_) inserted
        exact absurd (decide_eq_true imported) (List.find?_eq_none.mp found row member)
      | some existing =>
        simp only [found] at stored
        cases refused : ((existing.moveTo checkIn checkOut).failedCheck).or
            (db.failedIndex (existing.moveTo checkIn checkOut)) with
        | some constraint => simp [refused] at stored
        | none =>
          simp only [refused, Except.ok.injEq] at stored
          obtain ⟨checked, accepted⟩ := Option.or_eq_none_iff.mp refused
          have imported : existing.ImportedAs conn.id event.uid := by
            simpa using List.find?_some found
          exact .moved existing (List.mem_of_find?_eq_some found) imported checked accepted
            stored.symm

end Sambung
