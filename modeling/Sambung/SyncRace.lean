/-
This file proves what two syncs of one connection leave behind when they race.

A sync reads its body outside any transaction and applies it later, and nothing
records which of two bodies is newer. The two reads and the two transactions may
come in any order that has each read before its own transaction. A transaction
changes no unit and no property, so what a sync read is what it would read at its
commit, and every interleaving leaves what the two whole syncs leave in the order
of their commits. Where the newer body commits last it prevails; where it commits
first, the older body takes its stays back.

Prevailing speaks of the UIDs the newer sync did not refuse: one that is refused
keeps its old row, as a single sync would leave it.
-/

import Sambung.Reconciliation

namespace Sambung

/-! ### Two syncs -/

/-- The two syncs, by the age of the body each fetches. -/
inductive SyncParty where
  | older | newer
  deriving DecidableEq, Repr

/-- One call of `syncConnection`: the connection it was handed, the body it fetches, what
befalls its statements and its clock. -/
structure SyncCall where
  conn : ChannelConnection
  fetched : IcalFetchResult
  faults : Nat → EventFault
  now : Instant

/-- What a call reads before its transaction. -/
def SyncCall.read (intl : DateTimeFormat) (call : SyncCall) (db : Db) :
    Except String (List ImportedEvent) :=
  readFeed intl call.conn call.fetched db

/-- The transaction of a call, on what it read. -/
def SyncCall.commit [PostgresServer] (uuids : UuidSource) (call : SyncCall)
    (feed : Except String (List ImportedEvent)) (db : Db) : Db :=
  (settleFeed uuids call.conn feed call.faults call.now db).database db

/-- The whole call, with nothing between its read and its transaction. -/
def SyncCall.sync [PostgresServer] (uuids : UuidSource) (intl : DateTimeFormat) (call : SyncCall)
    (db : Db) : Db :=
  (syncConnection uuids intl call.conn call.fetched call.faults call.now db).database db

/-- A state of the race: the database, what each call has read, and the calls whose
transaction is over, in the order of their commits. -/
structure SyncRace where
  db : Db
  read : SyncParty → Option (Except String (List ImportedEvent))
  committed : List SyncParty

def SyncRace.start (db : Db) : SyncRace := ⟨db, fun _ => none, []⟩

/-- A call reads. -/
def SyncRace.afterRead (intl : DateTimeFormat) (calls : SyncParty → SyncCall) (party : SyncParty)
    (race : SyncRace) : SyncRace :=
  { race with read := Function.update race.read party (some ((calls party).read intl race.db)) }

@[simp] theorem SyncRace.afterRead_read_self (intl : DateTimeFormat)
    (calls : SyncParty → SyncCall) (party : SyncParty) (race : SyncRace) :
    (race.afterRead intl calls party).read party = some ((calls party).read intl race.db) :=
  Function.update_self _ _ _

@[simp] theorem SyncRace.afterRead_read_of_ne (intl : DateTimeFormat)
    (calls : SyncParty → SyncCall) {party other : SyncParty} (apart : other ≠ party)
    (race : SyncRace) : (race.afterRead intl calls party).read other = race.read other :=
  Function.update_of_ne apart _ _

/-- A call runs its transaction on what it read. -/
def SyncRace.afterCommit [PostgresServer] (uuids : UuidSource) (calls : SyncParty → SyncCall)
    (party : SyncParty) (feed : Except String (List ImportedEvent)) (race : SyncRace) : SyncRace :=
  { race with
    db := (calls party).commit uuids feed race.db
    committed := race.committed ++ [party] }

/-- One step of the race: a call reads, or a call that has read runs its transaction. -/
inductive SyncRace.Step [PostgresServer] (uuids : UuidSource) (intl : DateTimeFormat)
    (calls : SyncParty → SyncCall) (race : SyncRace) : SyncRace → Prop
  | read (party : SyncParty) (unread : race.read party = none) :
      Step uuids intl calls race (race.afterRead intl calls party)
  | commit (party : SyncParty) (feed : Except String (List ImportedEvent))
      (read : race.read party = some feed) (pending : party ∉ race.committed) :
      Step uuids intl calls race (race.afterCommit uuids calls party feed)

/-- The states an interleaving reaches. -/
abbrev SyncRace.Reached [PostgresServer] (uuids : UuidSource) (intl : DateTimeFormat)
    (calls : SyncParty → SyncCall) : SyncRace → SyncRace → Prop :=
  Relation.ReflTransGen (Step uuids intl calls)

/-! ### Every interleaving is a sequence of syncs -/

section Serial

variable {uuids : UuidSource} {intl : DateTimeFormat} {calls : SyncParty → SyncCall}

/-- A write leaves the properties and the units. -/
theorem Write.places [PostgresServer] {t : Transaction} {db after : Db} (write : Write t db after) :
    after.property = db.property ∧ after.unit = db.unit := by
  cases write with
  | book row inserted unlinked status => rw [inserted.stored]; exact ⟨rfl, rfl⟩
  | settle provider event pay found recordable =>
    rw [applyOutcome_database]
    split
    · cases event.outcome <;> exact ⟨rfl, rfl⟩
    · exact ⟨rfl, rfl⟩
  | land conn events faults now event member checkIn checkOut landed =>
    cases landed with
    | inserted id absent stored => rw [stored.stored]; exact ⟨rfl, rfl⟩
    | moved existing existingMember imported checked accepted stored =>
      rw [stored]
      exact ⟨rfl, rfl⟩
  | _ => exact ⟨rfl, rfl⟩

theorem settleFeed_places [PostgresServer] (uuids : UuidSource) (conn : ChannelConnection)
    (feed : Except String (List ImportedEvent)) (faults : Nat → EventFault) (now : Instant)
    (db : Db) :
    ((settleFeed uuids conn feed faults now db).database db).property = db.property ∧
      ((settleFeed uuids conn feed faults now db).database db).unit = db.unit := by
  have writes := settleFeed_writes uuids conn feed faults now db
  generalize (settleFeed uuids conn feed faults now db).database db = after at writes ⊢
  induction writes with
  | refl => exact ⟨rfl, rfl⟩
  | tail _ write inductionHypothesis =>
    exact ⟨write.places.1.trans inductionHypothesis.1, write.places.2.trans inductionHypothesis.2⟩

/-- What a call reads depends on the properties and the units only. -/
theorem SyncCall.read_congr (call : SyncCall) {db other : Db}
    (property : db.property = other.property) (unit : db.unit = other.unit) :
    call.read intl db = call.read intl other := by
  unfold SyncCall.read readFeed resolveTimeZone
  rw [property, unit]

/-- What holds of every state of the race. -/
structure SyncRace.Serial [PostgresServer] (uuids : UuidSource) (intl : DateTimeFormat)
    (calls : SyncParty → SyncCall) (db : Db) (race : SyncRace) : Prop where
  property : race.db.property = db.property
  unit : race.db.unit = db.unit
  reads : ∀ party feed, race.read party = some feed → feed = (calls party).read intl db
  serial : race.db = race.committed.foldl (fun db party => (calls party).sync uuids intl db) db

/-- A step keeps the two calls serial: what a call read is what it would read when its transaction
starts. -/
theorem SyncRace.Serial.step [PostgresServer] {db : Db} {race next : SyncRace}
    (serial : race.Serial uuids intl calls db) (step : Step uuids intl calls race next) :
    next.Serial uuids intl calls db := by
  cases step with
  | read party unread =>
    refine ⟨serial.property, serial.unit, fun other feed readNow => ?_, serial.serial⟩
    by_cases same : other = party
    · subst same
      rw [SyncRace.afterRead_read_self, Option.some.injEq] at readNow
      rw [← readNow]
      exact SyncCall.read_congr _ serial.property serial.unit
    · rw [SyncRace.afterRead_read_of_ne intl calls same] at readNow
      exact serial.reads other feed readNow
  | commit party feed read pending =>
    have places := settleFeed_places uuids (calls party).conn feed (calls party).faults
      (calls party).now race.db
    refine ⟨places.1.trans serial.property, places.2.trans serial.unit, serial.reads, ?_⟩
    have readNow : feed = (calls party).read intl race.db :=
      (serial.reads party feed read).trans
        (SyncCall.read_congr _ serial.property serial.unit).symm
    rw [SyncRace.afterCommit, List.foldl_concat, ← serial.serial, readNow]
    rfl

/-- Every interleaving leaves what the whole syncs leave in the order of their commits. -/
theorem SyncRace.Reached.serial [PostgresServer] {db : Db} {race : SyncRace}
    (reached : Reached uuids intl calls (start db) race) :
    race.Serial uuids intl calls db := by
  induction reached with
  | refl => exact ⟨rfl, rfl, (fun _ _ read => nomatch read), rfl⟩
  | tail _ step inductionHypothesis => exact inductionHypothesis.step step

end Serial

/-! ### The newer body last -/

/-- The newer body has prevailed: none of the connection's bookings holds a UID it dropped, and
each UID it carries that its sync did not refuse has a booking, each of them confirmed with the
stay of one of its events. -/
structure NewerPrevails (conn : ChannelConnection) (events : List ImportedEvent)
    (refused : List String) (db : Db) : Prop where
  dropped : ∀ row ∈ db.booking, row.channelConnectionId = some conn.id →
    ∀ uid ∈ row.externalUid, uid ∉ events.map ImportedEvent.uid → ¬ row.status.Occupying
  carried : ∀ event ∈ events, event.uid ∉ refused → Mirrored conn events event.uid db

/-- The UIDs a call's transaction refuses on a database. -/
def SyncCall.refused [PostgresServer] (uuids : UuidSource) (call : SyncCall)
    (events : List ImportedEvent) (db : Db) : List String :=
  (importAll uuids call.conn events call.faults call.now db).notImportedUids

/-- In every interleaving of the two calls in which the newer body's transaction comes after the
older's, the newer body prevails. The reads may come in any order, each before its own transaction.
The two calls were handed the same connection, whose rows are its own imports at the start; the
newer body is healthy and holds an event, and `bindable` says that its transaction does not abort.
-/
theorem newer_prevails_when_last [PostgresServer] (uuids : UuidSource) (intl : DateTimeFormat)
    (calls : SyncParty → SyncCall) (same : (calls .newer).conn.Same (calls .older).conn) (db : Db)
    (owned : db.ImportsOwned (calls .newer).conn) (race : SyncRace)
    (reached : SyncRace.Reached uuids intl calls (.start db) race)
    (order : race.committed = [.older, .newer]) (events : List ImportedEvent)
    (healthy : (calls .newer).read intl db = .ok events) (nonempty : events ≠ [])
    (bindable : Bindable uuids (calls .newer).conn events (calls .newer).faults
      ((calls .older).sync uuids intl db)) :
    NewerPrevails (calls .newer).conn events
      ((calls .newer).refused uuids events ((calls .older).sync uuids intl db)) race.db := by
  have serial := reached.serial
  have settled : (calls .older).sync uuids intl db = (settleFeed uuids (calls .older).conn
      ((calls .older).read intl db) (calls .older).faults (calls .older).now db).database db := rfl
  have places := settleFeed_places uuids (calls .older).conn ((calls .older).read intl db)
    (calls .older).faults (calls .older).now db
  have writes := settleFeed_writes uuids (calls .older).conn ((calls .older).read intl db)
    (calls .older).faults (calls .older).now db
  have agrees : (Transaction.settleFeed (calls .older).conn ((calls .older).read intl db)
      (calls .older).faults (calls .older).now).Agrees (calls .newer).conn := fun _ => same
  rw [← settled] at places writes
  have ownedThen : ((calls .older).sync uuids intl db).ImportsOwned (calls .newer).conn :=
    Writes.preserve (fun write => write.importsOwned agrees) writes owned
  have final : race.db = reconciled uuids (calls .newer).conn events (calls .newer).faults
      (calls .newer).now ((calls .older).sync uuids intl db) := by
    have readThen : (calls .newer).read intl ((calls .older).sync uuids intl db) = .ok events :=
      (SyncCall.read_congr _ places.1 places.2).trans healthy
    rw [serial.serial, order]
    exact (syncConnection_healthy readThen _ _).trans (if_pos bindable)
  rw [final]
  refine ⟨fun row member linked uid ofRow absent => ?_, fun event member landed =>
    reconciled_mirrored member landed⟩
  rw [reconciled_withdraws nonempty ownedThen member linked ofRow absent]
  exact BookingStatus.not_occupying_cancelled

/-! ### The older body last -/

/-- Neither sync has regressed the other, as seen in the rows: no UID only the older body carries
occupies its nights, and no UID only the newer body carries is cancelled. -/
structure NewerKept (conn : ChannelConnection) (older newer : List ImportedEvent) (db : Db) :
    Prop where
  dropped : ∀ row ∈ db.booking, row.channelConnectionId = some conn.id →
    ∀ uid ∈ row.externalUid, uid ∈ older.map ImportedEvent.uid →
      uid ∉ newer.map ImportedEvent.uid → ¬ row.status.Occupying
  carried : ∀ row ∈ db.booking, row.channelConnectionId = some conn.id →
    ∀ uid ∈ row.externalUid, uid ∈ newer.map ImportedEvent.uid →
      uid ∉ older.map ImportedEvent.uid → row.status ≠ .cancelled

/-- Both calls may read first and then commit in either order. -/
theorem SyncRace.reached_in_order [PostgresServer] (uuids : UuidSource) (intl : DateTimeFormat)
    (calls : SyncParty → SyncCall) (db : Db) {first second : SyncParty} (apart : first ≠ second) :
    ∃ race, Reached uuids intl calls (.start db) race ∧ race.committed = [first, second] ∧
      race.db = (calls second).sync uuids intl ((calls first).sync uuids intl db) := by
  let feed := fun party => (calls party).read intl db
  let reading := (start db).afterRead intl calls first
  let read := reading.afterRead intl calls second
  let halfway := read.afterCommit uuids calls first (feed first)
  have readFirst : read.read first = some (feed first) := by
    rw [afterRead_read_of_ne intl calls apart, afterRead_read_self]
    rfl
  have readSecond : read.read second = some (feed second) := afterRead_read_self _ _ _ _
  have reached : Reached uuids intl calls (.start db)
      (halfway.afterCommit uuids calls second (feed second)) :=
    calc
      Reached uuids intl calls (.start db) reading := .single (.read first rfl)
      Reached uuids intl calls reading read :=
        .single (.read second (afterRead_read_of_ne intl calls apart.symm _))
      Reached uuids intl calls read halfway :=
        .single (.commit first (feed first) readFirst List.not_mem_nil)
      Reached uuids intl calls halfway (halfway.afterCommit uuids calls second (feed second)) :=
        .single (.commit second (feed second) readSecond fun member =>
          apart (List.mem_singleton.mp member).symm)
  exact ⟨_, reached, rfl, reached.serial.serial⟩

/-! ### The villa's races -/

attribute [local instance] PostgresServer.uncompressed

/-- A calendar of one stay of the villa. -/
def singleStay (uid start stop : String) : Text :=
  crlfLines ["BEGIN:VCALENDAR", "BEGIN:VEVENT", "UID:" ++ uid, "DTSTART:" ++ start,
    "DTEND:" ++ stop, "END:VEVENT", "END:VCALENDAR"]

def villaCall (body : Text) (now : Instant) : SyncCall where
  conn := villaConnection
  fetched := fetchedBody body
  faults := noFaults
  now

/-- The older body offers stay "a", the newer one is given. -/
def villaCalls (newer : Text) : SyncParty → SyncCall
  | .older => villaCall (singleStay "a" "20260801" "20260803") 1000
  | .newer => villaCall newer 2000

def stayA : ImportedEvent :=
  { uid := "a", start := "2026-08-01".toList, stop := "2026-08-03".toList }

def stayB : ImportedEvent :=
  { uid := "b", start := "2026-09-01".toList, stop := "2026-09-03".toList }

/-- The newer body offers stay "b" in place of "a". -/
def movedOn : Text := singleStay "b" "20260901" "20260903"

/-- Where the newer body commits last, it prevails. -/
theorem newer_prevails_when_last_villa :
    ∃ race, SyncRace.Reached .counting indonesianFormat (villaCalls movedOn) (.start villa) race ∧
      NewerPrevails villaConnection [stayB]
        ((villaCalls movedOn .newer).refused .counting [stayB]
          ((villaCalls movedOn .older).sync .counting indonesianFormat villa)) race.db := by
  obtain ⟨race, reached, order, -⟩ := SyncRace.reached_in_order .counting indonesianFormat
    (villaCalls movedOn) villa (show SyncParty.older ≠ .newer by decide)
  exact ⟨race, reached, newer_prevails_when_last .counting indonesianFormat (villaCalls movedOn)
    ⟨rfl, rfl, rfl⟩ villa (fun _ member => nomatch member) race reached order [stayB]
    (by decide +kernel) (List.cons_ne_nil _ _) (by decide)⟩

/-- The villa with stay "b" imported and a block of the owner's two weeks later. -/
def villaBlocked : Db :=
  { villa with booking := [
      importedRow villaConnection "b" 20697 20699 1,
      { importedRow villaConnection "b" 20710 20712 2 with
        source := .manualBlock, externalUid := none, channelConnectionId := none }] }

/-- The newer body moves stay "b" onto the owner's block. -/
def movedOntoBlock : Text := singleStay "b" "20260914" "20260916"

/-- The connection has a booking of the UID with the status. -/
def HasImport (uid : String) (status : BookingStatus) (db : Db) : Prop :=
  ∃ row ∈ db.booking, row.ImportedAs villaConnection.id uid ∧ row.status = status

instance (uid : String) (status : BookingStatus) (db : Db) :
    Decidable (HasImport uid status db) := by
  unfold HasImport; infer_instance

theorem not_newerKept_of_dropped {older newer : List ImportedEvent} {db : Db}
    (standing : HasImport "a" .confirmed db) (offered : "a" ∈ older.map ImportedEvent.uid)
    (dropped : "a" ∉ newer.map ImportedEvent.uid) : ¬ NewerKept villaConnection older newer db := by
  intro kept
  obtain ⟨row, member, imported, confirmed⟩ := standing
  refine kept.dropped row member imported.1 "a" imported.2 offered dropped ?_
  rw [confirmed]
  decide

/-- Two bodies regress each other in either order of their commits. The older body last takes "a"
back and cancels "b". The newer body last leaves "b" cancelled where its move is refused, though
alone it would have left it standing; and where it has no stay at all it leaves "a" standing. -/
theorem older_body_regresses :
    (∃ race, SyncRace.Reached .counting indonesianFormat (villaCalls movedOn) (.start villa) race ∧
      race.committed = [.newer, .older] ∧ HasImport "a" .confirmed race.db ∧
      HasImport "b" .cancelled race.db ∧ ¬ NewerKept villaConnection [stayA] [stayB] race.db) ∧
    (∃ race, SyncRace.Reached .counting indonesianFormat (villaCalls movedOntoBlock)
        (.start villaBlocked) race ∧ race.committed = [.older, .newer] ∧
      HasImport "b" .cancelled race.db ∧ HasImport "b" .confirmed
        ((villaCalls movedOntoBlock .newer).sync .counting indonesianFormat villaBlocked)) ∧
    (∃ race, SyncRace.Reached .counting indonesianFormat
        (villaCalls (crlfLines ["BEGIN:VCALENDAR", "END:VCALENDAR"])) (.start villa) race ∧
      race.committed = [.older, .newer] ∧ ¬ NewerKept villaConnection [stayA] [] race.db) := by
  have apart : SyncParty.older ≠ .newer := by decide
  refine ⟨?_, ?_, ?_⟩
  · obtain ⟨race, reached, order, final⟩ := SyncRace.reached_in_order .counting indonesianFormat
      (villaCalls movedOn) villa apart.symm
    have standing : HasImport "a" .confirmed race.db := by rw [final]; decide +kernel
    exact ⟨race, reached, order, standing, by rw [final]; decide +kernel,
      not_newerKept_of_dropped standing (by decide) (by decide)⟩
  · obtain ⟨race, reached, order, final⟩ := SyncRace.reached_in_order .counting indonesianFormat
      (villaCalls movedOntoBlock) villaBlocked apart
    exact ⟨race, reached, order, by rw [final]; decide +kernel, by decide +kernel⟩
  · obtain ⟨race, reached, order, final⟩ := SyncRace.reached_in_order .counting indonesianFormat
      (villaCalls (crlfLines ["BEGIN:VCALENDAR", "END:VCALENDAR"])) villa apart
    have standing : HasImport "a" .confirmed race.db := by rw [final]; decide +kernel
    exact ⟨race, reached, order, not_newerKept_of_dropped standing (by decide) (by decide)⟩

end Sambung
