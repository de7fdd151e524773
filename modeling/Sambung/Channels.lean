/-
This file states the life of a channel connection: `channels.service.ts` over the
statements of `channels.repository.ts` and the freshness rule of
`sync-freshness.ts`.

A probe and a fetch lie outside every transaction. So a connect checks before its
probe and inserts after it, as two calls between which anything may commit, and
each sync of a pass commits on its own.

What the network answers is an input of each call: the outcome of the probe, and
for every feed of a pass the body that came, or the error. A pass goes over the
feeds the caller can see, which is a predicate, since row security decides it; one
feed that throws is counted and the loop goes on. A delete is stated with what the
foreign keys do in answer: bookings forget the connection and conflicts go with
it.
-/

import Sambung.FeedFetcher
import Sambung.Inbox
import Sambung.Inventory

namespace Sambung

/-! ### Freshness -/

def IMPORT_SWEEP_INTERVAL_MINUTES : Int := 30

def SYNC_STALE_AFTER_MINUTES : Int := 3 * IMPORT_SWEEP_INTERVAL_MINUTES

def staleCutoff (now : Instant) : Instant := now - SYNC_STALE_AFTER_MINUTES * 60000

def isStale (lastSyncedAt : Option Instant) (now : Instant) : Bool :=
  match lastSyncedAt with
  | none => false
  | some synced => synced < staleCutoff now

/-! ### Requests and responses -/

/-- What `createChannelConnectionRequestSchema` lets through. -/
structure CreateChannelConnectionRequest where
  channel : Channel
  importIcalUrl : String
  deriving DecidableEq, Repr

structure ChannelConnectionResponse where
  id : Uuid
  unitId : Uuid
  channel : Channel
  importIcalUrl : String
  lastSyncedAt : Option Instant
  lastStatus : SyncStatus
  lastError : Option String
  stale : Bool
  openConflicts : Nat
  deriving DecidableEq, Repr

/-- The answer of a sync of all feeds, and the running total of its loop. -/
structure SyncAllResponse where
  feeds : Nat
  errored : Nat
  imported : Nat
  cancelled : Nat
  conflicts : Nat
  deriving DecidableEq, Repr

/-- The one aggregate row of the repository's `syncHealth`. -/
structure SyncHealthRow where
  feeds : Nat
  erroring : Nat
  stale : Nat
  neverSynced : Nat
  oldestSyncedAt : Option Instant
  deriving DecidableEq, Repr

def toChannelResponse (row : ChannelConnection) (openConflicts : Nat) (now : Instant) :
    ChannelConnectionResponse where
  id := row.id
  unitId := row.unitId
  channel := row.channel
  importIcalUrl := row.importIcalUrl
  lastSyncedAt := row.lastSyncedAt
  lastStatus := row.lastStatus
  lastError := row.lastError
  stale := isStale row.lastSyncedAt now
  openConflicts

/-! ### Statements -/

def findByUnitAndChannel (tenantId unitId : Uuid) (channel : Channel) (db : Db) :
    Option ChannelConnection :=
  db.channelConnection.find? fun row =>
    row.unitId = unitId ∧ row.channel = channel ∧ row.tenantId = tenantId

def findConnection (tenantId id : Uuid) (db : Db) : Option ChannelConnection :=
  db.channelConnection.find? fun row => row.id = id ∧ row.tenantId = tenantId

/-- Every connection the caller can see: `sees` is what row security leaves of the tenant's. -/
def findAllVisible (tenantId : Uuid) (sees : ChannelConnection → Bool) (db : Db) :
    List ChannelConnection :=
  db.channelConnection.filter fun row => row.tenantId = tenantId ∧ sees row

def countImportedBookings (tenantId connectionId : Uuid) (db : Db) : Nat :=
  (db.booking.filter fun row =>
    row.channelConnectionId = some connectionId ∧ row.tenantId = tenantId).length

/-- The row a connect inserts, stamped with what its probe saw. -/
def CreateChannelConnectionRequest.row (dto : CreateChannelConnectionRequest)
    (tenantId unitId : Uuid) (probe : IcalProbeResult) (now : Instant) (id : Uuid) :
    ChannelConnection where
  id
  unitId
  tenantId
  channel := dto.channel
  importIcalUrl := dto.importIcalUrl
  lastSyncedAt := if probe.ok then some now else none
  lastStatus := if probe.ok then .ok else .error
  lastError := probe.error

def channelAlreadyConnected : Thrown :=
  .conflict "channel_already_connected" "This channel is already connected to this unit" .none

/-- `channel_connection_unit_channel_uniq` refuses the row. -/
abbrev ChannelConnection.Taken (row : ChannelConnection) (db : Db) : Prop :=
  ∃ other ∈ db.channelConnection, other.unitId = row.unitId ∧ other.channel = row.channel

/-- `INSERT INTO channel_connection`: the unique constraint answers as `mapDbError` maps it, and the
key to the unit is checked after it. -/
def insertConnection (row : ChannelConnection) (db : Db) : Except Thrown Db :=
  if ¬ (pgText row.importIcalUrl ∧ row.lastError.all pgText) then .error (.pg .invalidText)
  else if row.Taken db then .error channelAlreadyConnected
  else if ¬ unitExists row.tenantId row.unitId db then .error (.pg ⟨"23503", none⟩)
  else .ok { db with channelConnection := db.channelConnection ++ [row] }

/-- `ON DELETE SET NULL` of a booking's connection. -/
def Booking.forget (gone : List Uuid) (row : Booking) : Booking :=
  { row with channelConnectionId := row.channelConnectionId.filter (· ∉ gone) }

/-- `DELETE FROM channel_connection`, with what the foreign keys do: a booking forgets its
connection, a conflict goes with it. -/
def Db.deleteConnections (gone : List Uuid) (db : Db) : Db :=
  { db with
    channelConnection := db.channelConnection.filter (·.id ∉ gone)
    syncConflict := db.syncConflict.filter (·.channelConnectionId ∉ gone)
    booking := db.booking.map (Booking.forget gone) }

/-! ### The service -/

/-- What a connect checks before its probe. -/
def checkConnect (tenantId unitId : Uuid) (dto : CreateChannelConnectionRequest) (db : Db) :
    Except Thrown Unit :=
  if ¬ unitExists tenantId unitId db then .error (.notFound "Unit not found")
  else if (findByUnitAndChannel tenantId unitId dto.channel db).isSome then
    .error channelAlreadyConnected
  else .ok ()

/-- What a connect writes after its probe. -/
def finishConnect (tenantId unitId : Uuid) (dto : CreateChannelConnectionRequest)
    (probe : IcalProbeResult) (now : Instant) (id : Uuid) (db : Db) :
    Answer ChannelConnectionResponse :=
  let row := dto.row tenantId unitId probe now id
  (insertConnection row db).map fun after => (toChannelResponse row 0 now, after)

/-- Answers with the number of imported bookings, counted before the delete. -/
def disconnect (tenantId id : Uuid) (db : Db) : Answer Nat :=
  match findConnection tenantId id db with
  | none => .error (.notFound "Channel connection not found")
  | some _ => .ok (countImportedBookings tenantId id db, db.deleteConnections [id])

/-- What one pull meets outside the database. -/
structure Pull where
  fetched : IcalFetchResult
  faults : Nat → EventFault
  now : Instant

def Pull.sync [PostgresServer] (pull : Pull) (uuids : UuidSource) (intl : DateTimeFormat)
    (conn : ChannelConnection) (db : Db) : Answer SyncOutcome :=
  syncConnection uuids intl conn pull.fetched pull.faults pull.now db

/-- One turn of the loop over the feeds: a sync that throws is counted, and the loop goes on. -/
def syncNext [PostgresServer] (uuids : UuidSource) (intl : DateTimeFormat)
    (pulls : ChannelConnection → Pull) (progress : SyncAllResponse × Db)
    (conn : ChannelConnection) : SyncAllResponse × Db :=
  match (pulls conn).sync uuids intl conn progress.2 with
  | .error _ => ({ progress.1 with errored := progress.1.errored + 1 }, progress.2)
  | .ok (outcome, after) => ({ progress.1 with
      errored := progress.1.errored + if outcome.status = .error then 1 else 0
      imported := progress.1.imported + outcome.imported
      cancelled := progress.1.cancelled + outcome.cancelled
      conflicts := progress.1.conflicts + outcome.conflicts }, after)

/-- The loop over a list of feeds. -/
def syncFeeds [PostgresServer] (uuids : UuidSource) (intl : DateTimeFormat)
    (pulls : ChannelConnection → Pull) (connections : List ChannelConnection) (db : Db) :
    SyncAllResponse × Db :=
  connections.foldl (syncNext uuids intl pulls) (⟨connections.length, 0, 0, 0, 0⟩, db)

/-- The owner's sync of every feed the caller can see. -/
def syncAll [PostgresServer] (uuids : UuidSource) (intl : DateTimeFormat)
    (pulls : ChannelConnection → Pull) (tenantId : Uuid) (sees : ChannelConnection → Bool)
    (db : Db) : SyncAllResponse × Db :=
  syncFeeds uuids intl pulls (findAllVisible tenantId sees db) db

/-! ### Health -/

/-- The earlier of two stamps, as `min` skips a null. -/
def earlierStamp (first second : Option Instant) : Option Instant :=
  match first, second with
  | some a, some b => some (min a b)
  | some a, none => some a
  | none, second => second

/-- The aggregate over the feeds the caller can see. -/
def aggregateHealth (staleBefore : Instant) (rows : List ChannelConnection) : SyncHealthRow where
  feeds := rows.length
  erroring := (rows.filter fun row => row.lastStatus = .error).length
  stale := (rows.filter fun row => ∃ synced ∈ row.lastSyncedAt, synced < staleBefore).length
  neverSynced := (rows.filter fun row => row.lastSyncedAt = none).length
  oldestSyncedAt := (rows.map ChannelConnection.lastSyncedAt).foldl earlierStamp none

def syncHealth (tenantId : Uuid) (sees : ChannelConnection → Bool) (now : Instant) (db : Db) :
    SyncHealthRow :=
  let health := aggregateHealth (staleCutoff now) (findAllVisible tenantId sees db)
  { health with
    oldestSyncedAt := if health.neverSynced > 0 then none else health.oldestSyncedAt }

end Sambung
