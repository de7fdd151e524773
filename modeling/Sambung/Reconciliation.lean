/-
This file proves what one sync does to the rows it meets.

Each event either lands, as a new row or as a move of its own row, or is refused,
and then only the conflicts of its UID may change. So the loop leaves every row of
another UID alone, and what follows it, the cancellation of absent UIDs and the
closing of healed conflicts, reads the events and the refused UIDs only.

`ImportStep` is what one turn of the loop does and `importAll_induction` the rule
that carries it over the events; every later result on a sync is an instance of
that rule and none opens the loop again. The events are any list, so UIDs may
repeat in it, and the last landing of one decides. Faults are inputs of the turns.
Of the connection it is assumed at most that the rows linked to it are its own
imports, which every transaction keeps.
-/

import Sambung.Finality

namespace Sambung

section Sync

variable {uuids : UuidSource} {conn : ChannelConnection} {faults : Nat → EventFault}
  {now : Instant} {db : Db} {events : List ImportedEvent} {event : ImportedEvent}

/-! ### The loop -/

theorem importEvents_append [PostgresServer] (index : Nat) (events later : List ImportedEvent)
    (progress : SyncProgress) :
    importEvents uuids conn now faults index (events ++ later) progress =
      importEvents uuids conn now faults (index + events.length) later
        (importEvents uuids conn now faults index events progress) := by
  induction events generalizing index progress with
  | nil => rfl
  | cons event events inductionHypothesis =>
    show importEvents uuids conn now faults (index + 1) (events ++ later) _ = _
    rw [inductionHypothesis, List.length_cons]
    congr 1
    omega

@[simp] theorem importAll_nil [PostgresServer] :
    importAll uuids conn [] faults now db = ⟨db, 0, 0, []⟩ := rfl

theorem importAll_concat [PostgresServer] (events : List ImportedEvent) (event : ImportedEvent) :
    importAll uuids conn (events ++ [event]) faults now db =
      importEvent uuids conn now (faults events.length)
        (importAll uuids conn events faults now db) event := by
  unfold importAll
  rw [importEvents_append, Nat.zero_add]
  rfl

/-- The upsert of the next event, after the events before it. -/
def nextUpsert [PostgresServer] (uuids : UuidSource) (conn : ChannelConnection)
    (faults : Nat → EventFault) (now : Instant) (db : Db) (before : List ImportedEvent)
    (event : ImportedEvent) :
    Except PgError Db :=
  tryUpsert uuids conn event (faults before.length)
    (importAll uuids conn before faults now db).db

/-- Some event of the UID landed in this sync. -/
def LandedIn [PostgresServer] (uuids : UuidSource) (conn : ChannelConnection)
    (events : List ImportedEvent) (faults : Nat → EventFault) (now : Instant) (db : Db)
    (uid : String) : Prop :=
  ∃ before event later stored, events = before ++ event :: later ∧ event.uid = uid ∧
    nextUpsert uuids conn faults now db before event = .ok stored

/-! ### What a filing changes -/

/-- A filing leaves every table but the conflicts, and there it leaves the rows alone, updates
those of the event's UID, or adds one. -/
inductive Filing (conn : ChannelConnection) (event : ImportedEvent) (now : Instant)
    (db after : Db) : Prop where
  | nothing (same : after = db)
  | redetected (checkIn checkOut : PgDate) (stored : after = { db with
      syncConflict := Table.updateWhere (SyncConflict.FiledAs conn.id event.uid)
        (SyncConflict.redetect checkIn checkOut now) db.syncConflict })
  | filed (checkIn checkOut : PgDate) (id : Uuid)
      (fresh : id ∉ db.syncConflict.map SyncConflict.id) (stored : after = { db with
      syncConflict := db.syncConflict ++ [filedConflict conn event.uid checkIn checkOut now id] })

theorem recordConflict_filing (uuids : UuidSource) (conn : ChannelConnection)
    (event : ImportedEvent) (now : Instant) (faulted : Bool) (db : Db) :
    Filing conn event now db (recordConflict uuids conn event now faulted db) := by
  unfold recordConflict
  split
  · exact .nothing rfl
  · cases bindStay event.start event.stop with
    | error error => exact .nothing rfl
    | ok stay =>
      dsimp only
      split
      · exact .nothing rfl
      · split
        · exact .redetected _ _ rfl
        · split
          · exact .filed _ _ _ (uuids.fresh _) rfl
          · exact .nothing rfl

/-- What one turn of the loop does. -/
inductive ImportStep [PostgresServer] (uuids : UuidSource) (conn : ChannelConnection)
    (now : Instant) (fault : EventFault) (event : ImportedEvent) (before after : SyncProgress) :
    Prop where
  | landed (tried : tryUpsert uuids conn event fault before.db = .ok after.db)
      (kept : after.notImportedUids = before.notImportedUids)
  | refused (error : PgError) (tried : tryUpsert uuids conn event fault before.db = .error error)
      (filing : Filing conn event now before.db after.db)
      (added : after.notImportedUids = before.notImportedUids ++ [event.uid])

theorem importEvent_step [PostgresServer] (uuids : UuidSource) (conn : ChannelConnection)
    (now : Instant) (event : ImportedEvent) (fault : EventFault) (before : SyncProgress) :
    ImportStep uuids conn now fault event before
      (importEvent uuids conn now fault before event) := by
  unfold importEvent
  cases tried : tryUpsert uuids conn event fault before.db with
  | ok stored => exact .landed tried rfl
  | error error =>
    dsimp only
    split
    · exact .refused error tried (recordConflict_filing uuids conn event now _ before.db) rfl
    · exact .refused error tried (.nothing rfl) rfl

theorem tryUpsert_ok [PostgresServer] {fault : EventFault} {after : Db}
    (tried : tryUpsert uuids conn event fault db = .ok after) :
    pgText event.uid ∧ ∃ checkIn checkOut,
      bindStay event.start event.stop = .ok (checkIn, checkOut) ∧
        Landed conn event checkIn checkOut db after := by
  unfold tryUpsert at tried
  split at tried
  · cases tried
  · exact upsertEvent_ok tried

theorem Landed.syncConflict [PostgresServer] {checkIn checkOut : PgDate} {after : Db}
    (landed : Landed conn event checkIn checkOut db after) :
    after.syncConflict = db.syncConflict := by
  cases landed with
  | inserted id absent stored => rw [stored.stored]
  | moved existing member imported checked accepted stored => rw [stored]

theorem Filing.booking {after : Db} (filing : Filing conn event now db after) :
    after.booking = db.booking := by
  cases filing with
  | nothing same => rw [same]
  | redetected checkIn checkOut stored => rw [stored]
  | filed checkIn checkOut id fresh stored => rw [stored]

/-- What every landing of a bound stay keeps, and the recording of every refused event, holds after
the loop. -/
theorem importAll_bound_induction [PostgresServer] (property : Db → Prop) (start : property db)
    (lands : ∀ event ∈ events, ∀ checkIn checkOut before after,
      bindStay event.start event.stop = .ok (checkIn, checkOut) →
      Landed conn event checkIn checkOut before after → property before → property after)
    (records : ∀ event ∈ events, ∀ faulted before, property before →
      property (recordConflict uuids conn event now faulted before)) :
    property (importAll uuids conn events faults now db).db := by
  induction events using List.reverseRecOn with
  | nil => exact start
  | append_singleton events event inductionHypothesis =>
    have earlier : property (importAll uuids conn events faults now db).db :=
      inductionHypothesis (fun other member => lands other (List.mem_append_left _ member))
        fun other member => records other (List.mem_append_left _ member)
    have last : event ∈ events ++ [event] := List.mem_append_right _ List.mem_cons_self
    rw [importAll_concat, importEvent]
    cases tried : tryUpsert uuids conn event (faults events.length)
        (importAll uuids conn events faults now db).db with
    | ok stored =>
      obtain ⟨-, checkIn, checkOut, bound, landed⟩ := tryUpsert_ok tried
      exact lands event last checkIn checkOut _ _ bound landed earlier
    | error error =>
      dsimp only
      split
      · exact records event last _ _ earlier
      · exact earlier

/-- What every landing keeps, and the recording of every refused event, holds after the loop. -/
theorem importAll_induction [PostgresServer] (property : Db → Prop) (start : property db)
    (lands : ∀ event ∈ events, ∀ checkIn checkOut before after,
      Landed conn event checkIn checkOut before after → property before → property after)
    (records : ∀ event ∈ events, ∀ faulted before, property before →
      property (recordConflict uuids conn event now faulted before)) :
    property (importAll uuids conn events faults now db).db :=
  importAll_bound_induction property start (fun event member checkIn checkOut before after _ =>
    lands event member checkIn checkOut before after) records

/-- What every landing and every filing of the events keeps holds after the loop. -/
theorem importAll_keeps [PostgresServer] (property : Db → Prop) (start : property db)
    (lands : ∀ event ∈ events, ∀ checkIn checkOut before after,
      Landed conn event checkIn checkOut before after → property before → property after)
    (files : ∀ event ∈ events, ∀ before after,
      Filing conn event now before after → property before → property after) :
    property (importAll uuids conn events faults now db).db :=
  importAll_induction property start lands fun event member faulted before =>
    files event member before _ (recordConflict_filing uuids conn event now faulted before)

/-- The loop writes bookings and conflicts only, so that every other table is the one it began with.
-/
theorem importAll_tables [PostgresServer] (uuids : UuidSource) (conn : ChannelConnection)
    (faults : Nat → EventFault) (now : Instant) (db : Db) (events : List ImportedEvent) :
    ∃ bookings conflicts, (importAll uuids conn events faults now db).db =
      { db with booking := bookings, syncConflict := conflicts } := by
  refine importAll_keeps (fun after => ∃ bookings conflicts,
    after = { db with booking := bookings, syncConflict := conflicts }) ⟨_, _, rfl⟩ ?_ ?_
  · rintro event - checkIn checkOut before after landed ⟨bookings, conflicts, rfl⟩
    cases landed with
    | inserted id absent stored => exact ⟨_, conflicts, stored.stored⟩
    | moved existing member imported checked accepted stored => exact ⟨_, conflicts, stored⟩
  · rintro event - before after filing ⟨bookings, conflicts, rfl⟩
    cases filing with
    | nothing same => exact ⟨bookings, conflicts, same⟩
    | redetected checkIn checkOut stored => exact ⟨bookings, _, stored⟩
    | filed checkIn checkOut id fresh stored => exact ⟨bookings, _, stored⟩

/-! ### Rows of other UIDs -/

/-- What a sync's upserts may do to a row: nothing, or a move of a row of one of its events. -/
structure Booking.Reimported (conn : ChannelConnection) (events : List ImportedEvent)
    (row later : Booking) : Prop where
  connection : later.channelConnectionId = row.channelConnectionId
  uid : later.externalUid = row.externalUid
  tenant : later.tenantId = row.tenantId
  unit : later.unitId = row.unitId
  moved : later = row ∨
    (later.status = .confirmed ∧ ∃ event ∈ events, row.ImportedAs conn.id event.uid)

theorem Booking.Reimported.refl (conn : ChannelConnection) (events : List ImportedEvent)
    (row : Booking) : row.Reimported conn events row :=
  ⟨rfl, rfl, rfl, rfl, Or.inl rfl⟩

theorem Booking.Reimported.trans {a b c : Booking} (first : a.Reimported conn events b)
    (second : b.Reimported conn events c) : a.Reimported conn events c where
  connection := second.connection.trans first.connection
  uid := second.uid.trans first.uid
  tenant := second.tenant.trans first.tenant
  unit := second.unit.trans first.unit
  moved := by
    rcases second.moved with same | ⟨confirmed, event, member, imported⟩
    · rw [same]
      exact first.moved
    · refine Or.inr ⟨confirmed, event, member, ?_, ?_⟩
      · rw [← first.connection, imported.1]
      · rw [← first.uid, imported.2]

theorem Booking.Reimported.mono {wider : List ImportedEvent} (inside : events ⊆ wider)
    {row later : Booking} (reimported : row.Reimported conn events later) :
    row.Reimported conn wider later :=
  { reimported with
    moved := reimported.moved.imp_right fun ⟨confirmed, event, member, imported⟩ =>
      ⟨confirmed, event, inside member, imported⟩ }

/-- The booking tables before and after a sync's upserts. -/
abbrev BookingsReimported (conn : ChannelConnection) (events : List ImportedEvent)
    (db after : Db) : Prop :=
  Table.Evolves Booking.id (Booking.Reimported conn events) (fun _ => True) db.booking after.booking

theorem Landed.bookings [PostgresServer] {checkIn checkOut : PgDate} {after : Db}
    (landed : Landed conn event checkIn checkOut db after) :
    BookingsReimported conn [event] db after := by
  cases landed with
  | inserted id absent stored =>
    rw [BookingsReimported, stored.stored]
    exact Table.Evolves.append (Booking.Reimported.refl conn [event]) trivial db.booking
  | moved existing member imported checked accepted stored =>
    have keyed : ∀ row : Booking, row.ImportedAs conn.id event.uid →
        (row.moveTo checkIn checkOut).id = row.id := fun _ _ => rfl
    have moves : ∀ row : Booking, row.ImportedAs conn.id event.uid →
        row.Reimported conn [event] (row.moveTo checkIn checkOut) := fun row imported =>
      ⟨rfl, rfl, rfl, rfl, Or.inr ⟨rfl, event, List.mem_cons_self, imported⟩⟩
    rw [BookingsReimported, stored]
    exact Table.Evolves.updateWhere keyed (Booking.Reimported.refl conn [event]) moves db.booking

/-- The loop moves rows of the events' UIDs only. -/
theorem importAll_bookings [PostgresServer] (uuids : UuidSource) (conn : ChannelConnection)
    (events : List ImportedEvent) (faults : Nat → EventFault) (now : Instant) (db : Db) :
    BookingsReimported conn events db (importAll uuids conn events faults now db).db := by
  refine importAll_keeps (BookingsReimported conn events db)
    (Table.Evolves.refl (Booking.Reimported.refl conn events) db.booking) ?_ ?_
  · intro event member checkIn checkOut before after landed earlier
    have inside : [event] ⊆ events := List.cons_subset.mpr ⟨member, List.nil_subset _⟩
    refine earlier.trans (fun _ _ _ => Booking.Reimported.trans) (fun _ _ _ _ => trivial) ?_
    exact landed.bookings.mono (fun _ _ => Booking.Reimported.mono inside) fun _ _ => trivial
  · intro event member before after filing earlier
    rw [BookingsReimported, filing.booking]
    exact earlier

/-- What a sync's filings may do to a conflict: nothing, or an update of a conflict of one of its
events. -/
structure SyncConflict.Refiled (conn : ChannelConnection) (events : List ImportedEvent)
    (row later : SyncConflict) : Prop where
  connection : later.channelConnectionId = row.channelConnectionId
  uid : later.externalUid = row.externalUid
  tenant : later.tenantId = row.tenantId
  moved : later = row ∨ ∃ event ∈ events, row.FiledAs conn.id event.uid
  opened : row.status = .opened → later.status = .opened

theorem SyncConflict.Refiled.refl (conn : ChannelConnection) (events : List ImportedEvent)
    (row : SyncConflict) : row.Refiled conn events row :=
  ⟨rfl, rfl, rfl, Or.inl rfl, fun opened => opened⟩

theorem SyncConflict.Refiled.trans {a b c : SyncConflict} (first : a.Refiled conn events b)
    (second : b.Refiled conn events c) : a.Refiled conn events c where
  connection := second.connection.trans first.connection
  uid := second.uid.trans first.uid
  tenant := second.tenant.trans first.tenant
  moved := by
    rcases second.moved with same | ⟨event, member, filed⟩
    · rw [same]
      exact first.moved
    · exact Or.inr ⟨event, member, first.connection ▸ filed.1, first.uid ▸ filed.2⟩
  opened still := second.opened (first.opened still)

/-- The conflict tables before and after a sync's filings. -/
abbrev ConflictsRefiled (conn : ChannelConnection) (events : List ImportedEvent)
    (db after : Db) : Prop :=
  Table.Evolves SyncConflict.id (SyncConflict.Refiled conn events) (fun _ => True)
    db.syncConflict after.syncConflict

theorem Filing.conflicts {after : Db} (filing : Filing conn event now db after)
    (member : event ∈ events) : ConflictsRefiled conn events db after := by
  cases filing with
  | nothing same =>
    rw [same]
    exact Table.Evolves.refl (SyncConflict.Refiled.refl conn events) db.syncConflict
  | redetected checkIn checkOut stored =>
    have keyed : ∀ row : SyncConflict, row.FiledAs conn.id event.uid →
        (row.redetect checkIn checkOut now).id = row.id := fun _ _ => rfl
    have moves : ∀ row : SyncConflict, row.FiledAs conn.id event.uid →
        row.Refiled conn events (row.redetect checkIn checkOut now) := fun row filed =>
      ⟨rfl, rfl, rfl, Or.inr ⟨event, member, filed⟩, fun opened => by
        simp [SyncConflict.redetect, opened]⟩
    rw [ConflictsRefiled, stored]
    exact Table.Evolves.updateWhere keyed (SyncConflict.Refiled.refl conn events) moves
      db.syncConflict
  | filed checkIn checkOut id fresh stored =>
    rw [ConflictsRefiled, stored]
    exact Table.Evolves.append (SyncConflict.Refiled.refl conn events) trivial db.syncConflict

/-- The loop changes conflicts of the events' UIDs only. -/
theorem importAll_conflicts [PostgresServer] (uuids : UuidSource) (conn : ChannelConnection)
    (events : List ImportedEvent) (faults : Nat → EventFault) (now : Instant) (db : Db) :
    ConflictsRefiled conn events db (importAll uuids conn events faults now db).db := by
  refine importAll_keeps (ConflictsRefiled conn events db)
    (Table.Evolves.refl (SyncConflict.Refiled.refl conn events) db.syncConflict) ?_ ?_
  · intro event member checkIn checkOut before after landed earlier
    rw [ConflictsRefiled, landed.syncConflict]
    exact earlier
  · intro event member before after filing earlier
    exact earlier.trans (fun _ _ _ => SyncConflict.Refiled.trans) (fun _ _ _ _ => trivial)
      (filing.conflicts member)

/-! ### The refused UIDs -/

theorem notImportedUids_subset [PostgresServer] (uuids : UuidSource) (conn : ChannelConnection)
    (events : List ImportedEvent) (faults : Nat → EventFault) (now : Instant) (db : Db) :
    (importAll uuids conn events faults now db).notImportedUids ⊆ events.map ImportedEvent.uid := by
  induction events using List.reverseRecOn with
  | nil => exact List.Subset.refl []
  | append_singleton events event inductionHypothesis =>
    rw [importAll_concat, List.map_append]
    cases importEvent_step uuids conn now event (faults events.length)
        (importAll uuids conn events faults now db) with
    | landed tried kept =>
      rw [kept]
      exact fun _ member => List.mem_append_left _ (inductionHypothesis member)
    | refused error tried filing added =>
      rw [added]
      exact List.append_subset.mpr
        ⟨fun _ member => List.mem_append_left _ (inductionHypothesis member),
          List.subset_append_right _ _⟩

/-- A UID of the feed that was never refused has landed. -/
theorem landedIn_of_imported [PostgresServer] (member : event ∈ events)
    (imported : event.uid ∉ (importAll uuids conn events faults now db).notImportedUids) :
    LandedIn uuids conn events faults now db event.uid := by
  induction events using List.reverseRecOn with
  | nil => cases member
  | append_singleton events last inductionHypothesis =>
    rw [importAll_concat] at imported
    cases importEvent_step uuids conn now last (faults events.length)
        (importAll uuids conn events faults now db) with
    | landed tried kept =>
      rcases List.mem_append.mp member with inside | same
      · rw [kept] at imported
        obtain ⟨before, found, later, stored, rfl, sameUid, landed⟩ :=
          inductionHypothesis inside imported
        exact ⟨before, found, later ++ [last], stored, by simp, sameUid, landed⟩
      · rw [List.mem_singleton.mp same]
        exact ⟨events, last, [], _, rfl, rfl, tried⟩
    | refused error tried filing added =>
      rw [added, List.mem_append, not_or] at imported
      rcases List.mem_append.mp member with inside | same
      · obtain ⟨before, found, later, stored, rfl, sameUid, landed⟩ :=
          inductionHypothesis inside imported.1
        exact ⟨before, found, later ++ [last], stored, by simp, sameUid, landed⟩
      · rw [List.mem_singleton.mp same] at imported
        exact absurd List.mem_cons_self imported.2

theorem LandedIn.mem [PostgresServer] {uid : String}
    (landed : LandedIn uuids conn events faults now db uid) :
    uid ∈ events.map ImportedEvent.uid := by
  obtain ⟨before, event, later, -, rfl, rfl, -⟩ := landed
  exact List.mem_map_of_mem (List.mem_append_right _ List.mem_cons_self)

/-! ### The rows a connection imported -/

/-- A row as the connection's own upserts leave it. -/
structure Booking.OwnImport (conn : ChannelConnection) (row : Booking) : Prop where
  tenant : row.tenantId = conn.tenantId
  unit : row.unitId = conn.unitId
  uid : ∃ uid, row.externalUid = some uid
  status : row.status = .confirmed ∨ row.status = .cancelled

/-- Every row linked to the connection is one of its imports. -/
def Db.ImportsOwned (conn : ChannelConnection) (db : Db) : Prop :=
  ∀ row ∈ db.booking, row.channelConnectionId = some conn.id → row.OwnImport conn

/-- The two name one connection: its id, its unit and its tenant never change. -/
structure ChannelConnection.Same (conn other : ChannelConnection) : Prop where
  id : conn.id = other.id
  unit : conn.unitId = other.unitId
  tenant : conn.tenantId = other.tenantId

/-- A sync of the connection's id is a sync of the connection. -/
def Transaction.Agrees (conn : ChannelConnection) : Transaction → Prop
  | .settleFeed other _ _ _ => other.id = conn.id → conn.Same other
  | _ => True

theorem Db.ImportsOwned.updateWhere {condition : Booking → Prop} [DecidablePred condition]
    {change : Booking → Booking} (owned : db.ImportsOwned conn)
    (linked : ∀ row, (change row).channelConnectionId = row.channelConnectionId)
    (changed : ∀ row, condition row → row.OwnImport conn → (change row).OwnImport conn) :
    ({ db with booking := Table.updateWhere condition change db.booking } : Db).ImportsOwned
      conn := by
  refine Table.forall_updateWhere owned fun row _ matched own linkedAfter => ?_
  rw [linked] at linkedAfter
  exact changed row matched (own linkedAfter)

theorem Db.ImportsOwned.append {row : Booking} {after : Db} (owned : db.ImportsOwned conn)
    (stored : after = { db with booking := db.booking ++ [row] })
    (own : row.channelConnectionId = some conn.id → row.OwnImport conn) :
    after.ImportsOwned conn := by
  rw [stored]
  intro other member linked
  rcases List.mem_append.mp member with earlier | last
  · exact owned other earlier linked
  · rw [List.mem_singleton.mp last] at linked ⊢
    exact own linked

/-- Every write of every transaction keeps the rows a connection imported. -/
theorem Write.importsOwned [PostgresServer] {t : Transaction} {after : Db}
    (write : Write t db after) (agrees : t.Agrees conn) (owned : db.ImportsOwned conn) :
    after.ImportsOwned conn := by
  cases write with
  | expire condition pending =>
    refine owned.updateWhere (fun _ => rfl) fun row matched own => ?_
    rcases own.status with confirmed | cancelled
    · rw [pending row matched] at confirmed
      cases confirmed
    · rw [pending row matched] at cancelled
      cases cancelled
  | book row inserted unlinked status =>
    refine owned.append inserted.stored fun linked => ?_
    rw [unlinked] at linked
    cases linked
  | cancel tenantId id =>
    exact owned.updateWhere (fun _ => rfl) fun row _ own =>
      ⟨own.tenant, own.unit, own.uid, Or.inr rfl⟩
  | settle provider event pay found recordable =>
    rw [applyOutcome_database]
    split
    · cases event.outcome with
      | settlement =>
        exact Db.ImportsOwned.updateWhere owned (fun _ => rfl)
          fun row _ own => ⟨own.tenant, own.unit, own.uid, Or.inl rfl⟩
      | failure => exact owned
      | pending => exact owned
      | ignore => exact owned
    · exact owned
  | land other events faults now event member checkIn checkOut landed =>
    cases landed with
    | inserted id absent stored =>
      refine owned.append stored.stored fun linked => ?_
      have same := agrees (Option.some.inj linked)
      exact ⟨same.tenant.symm, same.unit.symm, ⟨_, rfl⟩, Or.inl rfl⟩
    | moved existing existingMember imported checked accepted stored =>
      rw [stored]
      exact owned.updateWhere (fun _ => rfl) fun row _ own =>
        ⟨own.tenant, own.unit, own.uid, Or.inl rfl⟩
  | withdraw other events faults now =>
    exact owned.updateWhere (fun _ => rfl) fun row _ own =>
      ⟨own.tenant, own.unit, own.uid, Or.inr rfl⟩
  | inbox => exact owned
  | connection => exact owned
  | mint => exact owned
  | handled => exact owned

theorem importAll_importsOwned [PostgresServer] (uuids : UuidSource) (faults : Nat → EventFault)
    (now : Instant) (events : List ImportedEvent) (owned : db.ImportsOwned conn) :
    (importAll uuids conn events faults now db).db.ImportsOwned conn := by
  have writes := importEvents_writes uuids conn events faults now events (fun _ => id) 0
    ⟨db, 0, 0, []⟩
  have agrees : (Transaction.settleFeed conn (.ok events) faults now).Agrees conn :=
    fun _ => ⟨rfl, rfl, rfl⟩
  exact Writes.preserve (fun write => write.importsOwned agrees) writes owned

/-! ### The rows that mirror an event -/

/-- The row is the confirmed import of the event, with the event's stay. -/
structure Booking.Mirrors (conn : ChannelConnection) (event : ImportedEvent) (row : Booking) :
    Prop where
  imported : row.ImportedAs conn.id event.uid
  confirmed : row.status = .confirmed
  stay : bindStay event.start event.stop = .ok (row.checkIn, row.checkOut)

/-- The UID has a booking, and each booking of it mirrors an event of the feed. -/
structure Mirrored (conn : ChannelConnection) (events : List ImportedEvent) (uid : String)
    (db : Db) : Prop where
  present : ∃ row ∈ db.booking, row.ImportedAs conn.id uid
  mirrors : ∀ row ∈ db.booking, row.ImportedAs conn.id uid →
    ∃ source ∈ events, row.Mirrors conn source

theorem Landed.mirrored [PostgresServer] {checkIn checkOut : PgDate} {after : Db}
    (landed : Landed conn event checkIn checkOut db after)
    (bound : bindStay event.start event.stop = .ok (checkIn, checkOut)) :
    Mirrored conn [event] event.uid after := by
  cases landed with
  | inserted id absent stored =>
    have last : importedRow conn event.uid checkIn checkOut id ∈ after.booking := by
      rw [stored.stored]
      exact List.mem_append_right _ List.mem_cons_self
    refine ⟨⟨_, last, rfl, rfl⟩, fun row member imported => ⟨event, List.mem_cons_self, ?_⟩⟩
    rw [stored.stored] at member
    rcases List.mem_append.mp member with earlier | same
    · exact absurd imported (absent row earlier)
    · rw [List.mem_singleton.mp same]
      exact ⟨⟨rfl, rfl⟩, rfl, bound⟩
  | moved existing existingMember existingImported checked accepted stored =>
    refine ⟨⟨existing.moveTo checkIn checkOut, ?_, existingImported⟩,
      fun row member imported => ⟨event, List.mem_cons_self, ?_⟩⟩
    · rw [stored]
      exact Table.mem_updateWhere.mpr ⟨existing, existingMember, if_pos existingImported⟩
    · rw [stored] at member
      obtain ⟨source, -, rfl⟩ := Table.mem_updateWhere.mp member
      by_cases matched : source.ImportedAs conn.id event.uid
      · rw [if_pos matched]
        exact ⟨matched, rfl, bound⟩
      · rw [if_neg matched] at imported
        exact absurd imported matched

/-- A landing leaves every booking but those imported under its UID. -/
theorem Landed.keeps [PostgresServer] {checkIn checkOut : PgDate} {after : Db} {row : Booking}
    (landed : Landed conn event checkIn checkOut db after)
    (foreign : ¬ row.ImportedAs conn.id event.uid) : row ∈ after.booking ↔ row ∈ db.booking := by
  cases landed with
  | inserted id absent stored =>
    rw [stored.stored, List.mem_append, or_iff_left]
    intro same
    rw [List.mem_singleton.mp same] at foreign
    exact foreign ⟨rfl, rfl⟩
  | moved existing existingMember existingImported checked accepted stored =>
    rw [stored]
    exact Table.mem_updateWhere_of_not foreign fun _ imported same => foreign (same ▸ imported)

/-- The rows of another UID stay as they are. -/
theorem Landed.others [PostgresServer] {checkIn checkOut : PgDate} {after : Db} {row : Booking}
    {uid : String} (landed : Landed conn event checkIn checkOut db after) (apart : uid ≠ event.uid)
    (imported : row.ImportedAs conn.id uid) : row ∈ after.booking ↔ row ∈ db.booking :=
  landed.keeps fun matched => apart (Option.some.inj (imported.2.symm.trans matched.2))

theorem Mirrored.congr {uid : String} {wider : List ImportedEvent} {after : Db}
    (mirrored : Mirrored conn events uid db) (inside : events ⊆ wider)
    (same : ∀ row : Booking, row.ImportedAs conn.id uid →
      (row ∈ after.booking ↔ row ∈ db.booking)) : Mirrored conn wider uid after where
  present := by
    obtain ⟨row, member, imported⟩ := mirrored.present
    exact ⟨row, (same row imported).mpr member, imported⟩
  mirrors row member imported := by
    obtain ⟨source, sourceMember, mirrors⟩ :=
      mirrored.mirrors row ((same row imported).mp member) imported
    exact ⟨source, inside sourceMember, mirrors⟩

/-- A UID of the feed that was never refused is mirrored after the loop. -/
theorem importAll_mirrored [PostgresServer] (member : event ∈ events)
    (imported : event.uid ∉ (importAll uuids conn events faults now db).notImportedUids) :
    Mirrored conn events event.uid (importAll uuids conn events faults now db).db := by
  induction events using List.reverseRecOn with
  | nil => cases member
  | append_singleton events last inductionHypothesis =>
    rw [importAll_concat] at imported ⊢
    have earlier : event.uid ≠ last.uid → event ∈ events := by
      intro other
      refine (List.mem_append.mp member).resolve_right fun same => other ?_
      rw [List.mem_singleton.mp same]
    cases importEvent_step uuids conn now last (faults events.length)
        (importAll uuids conn events faults now db) with
    | landed tried kept =>
      obtain ⟨-, checkIn, checkOut, bound, landed⟩ := tryUpsert_ok tried
      by_cases same : event.uid = last.uid
      · rw [same]
        exact (landed.mirrored bound).congr (List.subset_append_right _ _) fun _ _ => Iff.rfl
      · rw [kept] at imported
        exact (inductionHypothesis (earlier same) imported).congr (List.subset_append_left _ _)
          fun _ ofUid => landed.others same ofUid
    | refused error tried filing added =>
      rw [added, List.mem_append, not_or] at imported
      refine (inductionHypothesis (earlier fun same => imported.2 ?_) imported.1).congr
        (List.subset_append_left _ _) fun _ _ => by rw [filing.booking]
      exact same ▸ List.mem_cons_self

/-! ### The whole sync -/

/-- What follows the loop, on the bookings: of a feed with events the absent imports are cancelled,
and no other row is touched. -/
theorem reconciled_booking [PostgresServer] (nonempty : events ≠ []) :
    (reconciled uuids conn events faults now db).booking =
      Table.updateWhere (Booking.AbsentFrom conn (events.map ImportedEvent.uid))
        (Booking.setStatus .cancelled) (importAll uuids conn events faults now db).db.booking := by
  unfold reconciled resolveHealed withdrawAbsent
  dsimp only
  rw [if_neg nonempty, if_neg nonempty]
  rfl

theorem reconciled_bookingById [PostgresServer] (nonempty : events ≠ []) (id : Uuid) :
    (reconciled uuids conn events faults now db).bookingById id =
      ((importAll uuids conn events faults now db).db.bookingById id).map fun row =>
        if row.AbsentFrom conn (events.map ImportedEvent.uid) then row.setStatus .cancelled
        else row := by
  have keyed : ∀ row : Booking, row.AbsentFrom conn (events.map ImportedEvent.uid) →
      (row.setStatus .cancelled).id = row.id := fun _ _ => rfl
  rw [Db.bookingById, reconciled_booking nonempty]
  exact Table.byKey_updateWhere keyed id

/-- What follows the loop leaves the rows of the events' UIDs. -/
theorem reconciled_keeps [PostgresServer] (nonempty : events ≠ []) {row : Booking} {uid : String}
    (offered : uid ∈ events.map ImportedEvent.uid) (imported : row.ImportedAs conn.id uid) :
    row ∈ (reconciled uuids conn events faults now db).booking ↔
      row ∈ (importAll uuids conn events faults now db).db.booking := by
  have present : ∀ other : Booking, other.externalUid = some uid →
      ¬ other.AbsentFrom conn (events.map ImportedEvent.uid) := by
    rintro other ofUid ⟨-, -, -, uid', ofOther, absent⟩
    rw [Option.mem_def, ofUid, Option.some.injEq] at ofOther
    exact absent (ofOther ▸ offered)
  rw [reconciled_booking nonempty]
  refine Table.mem_updateWhere_of_not (present row imported.2) fun source withdrawn same => ?_
  exact present source (same ▸ imported).2 withdrawn

/-- What follows the loop leaves the bookings the connection did not import. -/
theorem reconciled_unlinked [PostgresServer] (nonempty : events ≠ []) {row : Booking}
    (unlinked : row.channelConnectionId ≠ some conn.id) :
    row ∈ (reconciled uuids conn events faults now db).booking ↔
      row ∈ (importAll uuids conn events faults now db).db.booking := by
  rw [reconciled_booking nonempty]
  refine Table.mem_updateWhere_of_not (fun withdrawn => unlinked withdrawn.1)
    fun source withdrawn same => unlinked ?_
  rw [← same]
  exact withdrawn.1

/-- A UID of the feed that was never refused is mirrored after the sync. -/
theorem reconciled_mirrored [PostgresServer] (member : event ∈ events)
    (imported : event.uid ∉ (importAll uuids conn events faults now db).notImportedUids) :
    Mirrored conn events event.uid (reconciled uuids conn events faults now db) :=
  (importAll_mirrored member imported).congr (List.Subset.refl events) fun _ ofUid =>
    reconciled_keeps (List.ne_nil_of_mem member) (List.mem_map_of_mem member) ofUid

/-- After a sync with events, an import whose UID is not among them is cancelled. -/
theorem reconciled_withdraws [PostgresServer] (nonempty : events ≠ [])
    (owned : db.ImportsOwned conn) {row : Booking}
    (member : row ∈ (reconciled uuids conn events faults now db).booking)
    (linked : row.channelConnectionId = some conn.id) {uid : String}
    (ofUid : row.externalUid = some uid) (absent : uid ∉ events.map ImportedEvent.uid) :
    row.status = .cancelled := by
  rw [reconciled_booking nonempty] at member
  obtain ⟨source, sourceMember, rfl⟩ := Table.mem_updateWhere.mp member
  by_cases withdrawn : source.AbsentFrom conn (events.map ImportedEvent.uid)
  · rw [if_pos withdrawn]
    rfl
  · rw [if_neg withdrawn] at linked ofUid ⊢
    have own := importAll_importsOwned uuids faults now events owned source sourceMember linked
    refine own.status.resolve_left fun confirmed => withdrawn ?_
    exact ⟨linked, own.tenant, confirmed, uid, ofUid, absent⟩

/-- What follows the loop, on the conflicts: the connection's open ones are resolved, but for those
whose UID some event of this pull did not land under. -/
theorem reconciled_syncConflict [PostgresServer] (nonempty : events ≠ []) :
    (reconciled uuids conn events faults now db).syncConflict =
      Table.updateWhere
        (SyncConflict.Healed conn (importAll uuids conn events faults now db).notImportedUids)
        (SyncConflict.resolve now) (importAll uuids conn events faults now db).db.syncConflict := by
  unfold reconciled resolveHealed withdrawAbsent
  dsimp only
  rw [if_neg nonempty, if_neg nonempty]
  rfl

/-- What follows the loop, on one conflict. -/
theorem reconciled_syncConflictById [PostgresServer] (nonempty : events ≠ []) (id : Uuid) :
    (reconciled uuids conn events faults now db).syncConflictById id =
      ((importAll uuids conn events faults now db).db.syncConflictById id).map fun row =>
        if row.Healed conn (importAll uuids conn events faults now db).notImportedUids then
          row.resolve now
        else row := by
  have keyed : ∀ row : SyncConflict, row.Healed conn
      (importAll uuids conn events faults now db).notImportedUids →
      (row.resolve now).id = row.id := fun _ _ => rfl
  rw [Db.syncConflictById, reconciled_syncConflict nonempty]
  exact Table.byKey_updateWhere keyed id

end Sync

end Sambung
