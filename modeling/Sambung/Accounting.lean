/-
This file proves that a sync accounts for every event of its feed and moves
nothing else.

The fate of an event is read off its upsert: it landed, the constraint refused it,
or another fault was logged. The counts of the outcome count fates. A row of a
UID, in the bookings as in the inbox, is as the last event that landed or was
filed under the UID left it; every other row of the database is untouched.

An event's fate is that of its own turn, in the state the events before it left,
so a UID that occurs twice has two of them. The statement is about a sync that
commits; a feed whose UIDs are texts and few enough for one statement does. What
is untouched is listed by table in `NothingElseMoved`: the other connections of
the same tenant, with their bookings and conflicts, are as protected as those of
any other tenant.
-/

import Sambung.Blocking

namespace Sambung

section Sync

variable {uuids : UuidSource} {conn : ChannelConnection} {faults : Nat → EventFault}
  {now : Instant} {db : Db} {events : List ImportedEvent}

/-! ### Fates -/

/-- What became of an event of the feed. -/
inductive Fate where
  | landed | refused | logged
  deriving DecidableEq, Repr

/-- What becomes of an event whose upsert ends so. -/
def fateOf : Except PgError Db → Fate
  | .ok _ => .landed
  | .error error => if error.constraint = some .bookingNoOverlap then .refused else .logged

/-- The fate of the next event, after the events before it. -/
def nextFate [PostgresServer] (uuids : UuidSource) (conn : ChannelConnection)
    (faults : Nat → EventFault) (now : Instant) (db : Db) (before : List ImportedEvent)
    (event : ImportedEvent) : Fate :=
  fateOf (nextUpsert uuids conn faults now db before event)

/-- The fates of all events, in the order of the feed. -/
def fates [PostgresServer] (uuids : UuidSource) (conn : ChannelConnection)
    (faults : Nat → EventFault) (now : Instant) (db : Db) (events : List ImportedEvent) :
    List Fate :=
  events.zipIdx.map fun entry =>
    nextFate uuids conn faults now db (events.take entry.2) entry.1

/-- The event was refused, and nothing disturbed its filing. -/
def Filed [PostgresServer] (uuids : UuidSource) (conn : ChannelConnection)
    (faults : Nat → EventFault) (now : Instant) (db : Db) (before : List ImportedEvent)
    (event : ImportedEvent) : Prop :=
  nextFate uuids conn faults now db before event = .refused ∧
    (faults before.length).record = false

theorem fates_concat [PostgresServer] (events : List ImportedEvent) (event : ImportedEvent) :
    fates uuids conn faults now db (events ++ [event]) =
      fates uuids conn faults now db events ++
        [nextFate uuids conn faults now db events event] := by
  unfold fates
  rw [List.zipIdx_append, List.map_append]
  congr 1
  · refine List.map_congr_left fun entry member => ?_
    have bounded : entry.2 ≤ events.length := by
      have := List.mem_zipIdx member
      omega
    rw [List.take_append_of_le_length bounded]
  · simp

/-- Every event has one of the three fates. -/
theorem count_fates (fates : List Fate) :
    fates.count .landed + fates.count .refused + fates.count .logged = fates.length := by
  induction fates with
  | nil => rfl
  | cons fate fates inductionHypothesis =>
    rw [List.length_cons, ← inductionHypothesis]
    cases fate
    all_goals
      simp only [List.count_cons, beq_iff_eq, reduceCtorEq, if_true, if_false]
      omega

/-- The counters of the loop count fates: what landed and what the constraint refused, each at its
own turn. -/
theorem importAll_counts [PostgresServer] (uuids : UuidSource) (conn : ChannelConnection)
    (faults : Nat → EventFault) (now : Instant) (db : Db) (events : List ImportedEvent) :
    (importAll uuids conn events faults now db).imported =
        (fates uuids conn faults now db events).count .landed ∧
      (importAll uuids conn events faults now db).conflicts =
        (fates uuids conn faults now db events).count .refused := by
  induction events using List.reverseRecOn with
  | nil => exact ⟨rfl, rfl⟩
  | append_singleton events event inductionHypothesis =>
    obtain ⟨landed, refused⟩ := inductionHypothesis
    rw [importAll_concat, fates_concat, List.count_append, List.count_append, ← landed, ← refused]
    unfold importEvent nextFate nextUpsert
    cases tryUpsert uuids conn event (faults events.length)
        (importAll uuids conn events faults now db).db with
    | ok stored => exact ⟨rfl, rfl⟩
    | error error =>
      dsimp only [fateOf]
      split
      · exact ⟨rfl, rfl⟩
      · exact ⟨rfl, rfl⟩

theorem nextFate_landed [PostgresServer] {before : List ImportedEvent} {event : ImportedEvent}
    (landed : nextFate uuids conn faults now db before event = .landed) :
    ∃ stored, nextUpsert uuids conn faults now db before event = .ok stored := by
  unfold nextFate at landed
  cases tried : nextUpsert uuids conn faults now db before event with
  | ok stored => exact ⟨stored, rfl⟩
  | error error =>
    rw [tried] at landed
    dsimp only [fateOf] at landed
    split at landed
    · cases landed
    · cases landed

theorem nextFate_refused [PostgresServer] {before : List ImportedEvent} {event : ImportedEvent}
    (refused : nextFate uuids conn faults now db before event = .refused) :
    ∃ error, nextUpsert uuids conn faults now db before event = .error error ∧
      error.constraint = some .bookingNoOverlap := by
  unfold nextFate at refused
  cases tried : nextUpsert uuids conn faults now db before event with
  | ok stored =>
    rw [tried] at refused
    cases refused
  | error error =>
    rw [tried] at refused
    dsimp only [fateOf] at refused
    split at refused
    · rename_i overlap
      exact ⟨error, rfl, overlap⟩
    · cases refused

/-! ### The rows of one UID -/

/-- Events none of which landed under the UID leave its bookings. -/
theorem importAll_bookingsOf [PostgresServer] {before later : List ImportedEvent} {uid : String}
    (unlanded : ∀ mid event rest, later = mid ++ event :: rest → event.uid = uid →
      nextFate uuids conn faults now db (before ++ mid) event ≠ .landed)
    {row : Booking} (imported : row.ImportedAs conn.id uid) :
    row ∈ (importAll uuids conn (before ++ later) faults now db).db.booking ↔
      row ∈ (importAll uuids conn before faults now db).db.booking := by
  induction later using List.reverseRecOn with
  | nil => rw [List.append_nil]
  | append_singleton later last inductionHypothesis =>
    have earlier := inductionHypothesis fun mid event rest split =>
      unlanded mid event (rest ++ [last]) (by rw [split]; simp)
    rw [← earlier, ← List.append_assoc, importAll_concat]
    cases importEvent_step uuids conn now last (faults (before ++ later).length)
        (importAll uuids conn (before ++ later) faults now db) with
    | landed tried kept =>
      obtain ⟨-, checkIn, checkOut, -, landed⟩ := tryUpsert_ok tried
      refine landed.others (fun same => ?_) imported
      refine unlanded later last [] rfl same.symm ?_
      unfold nextFate nextUpsert
      rw [tried]
      rfl
    | refused error tried filing added => rw [filing.booking]

/-- A filing leaves the conflicts filed under anything else. -/
theorem Filing.others {event : ImportedEvent} {after : Db} {row : SyncConflict}
    (filing : Filing conn event now db after) (apart : ¬ row.FiledAs conn.id event.uid) :
    row ∈ after.syncConflict ↔ row ∈ db.syncConflict := by
  cases filing with
  | nothing same => rw [same]
  | redetected checkIn checkOut stored =>
    rw [stored]
    exact Table.mem_updateWhere_of_not apart fun _ matched same => apart (same ▸ matched)
  | filed checkIn checkOut id fresh stored =>
    rw [stored, List.mem_append, or_iff_left]
    intro same
    rw [List.mem_singleton.mp same] at apart
    exact apart ⟨rfl, rfl⟩

/-- Events none of which was filed under the UID leave its conflicts. -/
theorem importAll_conflictsOf [PostgresServer] {before later : List ImportedEvent} {uid : String}
    (unfiled : ∀ mid event rest, later = mid ++ event :: rest → event.uid = uid →
      ¬ Filed uuids conn faults now db (before ++ mid) event)
    {row : SyncConflict} (ofUid : row.FiledAs conn.id uid) :
    row ∈ (importAll uuids conn (before ++ later) faults now db).db.syncConflict ↔
      row ∈ (importAll uuids conn before faults now db).db.syncConflict := by
  induction later using List.reverseRecOn with
  | nil => rw [List.append_nil]
  | append_singleton later last inductionHypothesis =>
    have earlier := inductionHypothesis fun mid event rest split =>
      unfiled mid event (rest ++ [last]) (by rw [split]; simp)
    rw [← earlier, ← List.append_assoc, importAll_concat]
    rcases importEvent_inbox uuids conn now last (faults (before ++ later).length)
        (importAll uuids conn (before ++ later) faults now db) with
      same | ⟨error, tried, overlap, recorded⟩
    · rw [same]
    · by_cases sameUid : last.uid = uid
      · have faulted : (faults (before ++ later).length).record = true := by
          refine Bool.not_eq_false _ ▸ fun undisturbed =>
            unfiled later last [] rfl sameUid ⟨?_, undisturbed⟩
          unfold nextFate nextUpsert
          rw [tried]
          exact if_pos overlap
        rw [recorded, faulted]
        rfl
      · rw [recorded]
        refine (recordConflict_filing uuids conn last now _ _).others fun filed => sameUid ?_
        exact filed.2.symm.trans ofUid.2

/-! ### The rows of others -/

theorem Filing.conflictsOwned {event : ImportedEvent} {after : Db}
    (filing : Filing conn event now db after) (owned : db.ConflictsOwned conn) :
    after.ConflictsOwned conn := by
  cases filing with
  | nothing same =>
    rw [same]
    exact owned
  | redetected checkIn checkOut stored =>
    rw [stored]
    exact Table.forall_updateWhere owned fun row _ _ own => own
  | filed checkIn checkOut id fresh stored =>
    rw [stored]
    intro row member linked
    rcases List.mem_append.mp member with earlier | last
    · exact owned row earlier linked
    · rw [List.mem_singleton.mp last]
      exact ⟨rfl, rfl⟩

/-- The loop leaves every conflict of another connection, and the connection's own stay in its unit
and tenant. -/
theorem importAll_conflictFrame [PostgresServer] (uuids : UuidSource) (faults : Nat → EventFault)
    (now : Instant) (events : List ImportedEvent) (owned : db.ConflictsOwned conn) :
    (importAll uuids conn events faults now db).db.ConflictsOwned conn ∧
      ∀ row : SyncConflict, row.channelConnectionId ≠ conn.id →
        (row ∈ (importAll uuids conn events faults now db).db.syncConflict ↔
          row ∈ db.syncConflict) := by
  refine importAll_keeps (fun after => after.ConflictsOwned conn ∧
    ∀ row : SyncConflict, row.channelConnectionId ≠ conn.id →
      (row ∈ after.syncConflict ↔ row ∈ db.syncConflict)) ⟨owned, fun _ _ => Iff.rfl⟩ ?_ ?_
  · rintro event - checkIn checkOut before after landed ⟨ownedBefore, frame⟩
    refine ⟨?_, fun row foreign => by rw [landed.syncConflict, frame row foreign]⟩
    unfold Db.ConflictsOwned
    rw [landed.syncConflict]
    exact ownedBefore
  · rintro event - before after filing ⟨ownedBefore, frame⟩
    refine ⟨filing.conflictsOwned ownedBefore, fun row foreign => ?_⟩
    rw [← frame row foreign]
    exact filing.others fun filed => foreign filed.1

/-- The loop leaves every booking the connection did not import. -/
theorem importAll_unlinked [PostgresServer] (events : List ImportedEvent) {row : Booking}
    (unlinked : row.channelConnectionId ≠ some conn.id) :
    row ∈ (importAll uuids conn events faults now db).db.booking ↔ row ∈ db.booking := by
  refine importAll_keeps (fun after => row ∈ after.booking ↔ row ∈ db.booking) Iff.rfl ?_ ?_
  · intro event _ checkIn checkOut before after landed earlier
    rw [← earlier]
    exact landed.keeps fun imported => unlinked imported.1
  · intro event _ before after filing earlier
    rw [filing.booking]
    exact earlier

/-! ### The whole sync -/

theorem reconciled_importsOwned [PostgresServer] (owned : db.ImportsOwned conn) :
    (reconciled uuids conn events faults now db).ImportsOwned conn := by
  by_cases nonempty : events = []
  · subst nonempty
    exact owned
  · have loop := importAll_importsOwned uuids faults now events owned
    unfold Db.ImportsOwned
    rw [reconciled_booking nonempty]
    exact loop.updateWhere (fun _ => rfl) fun row _ own =>
      ⟨own.tenant, own.unit, own.uid, Or.inr rfl⟩

theorem reconciled_conflictFrame [PostgresServer] (uuids : UuidSource) (faults : Nat → EventFault)
    (now : Instant) (events : List ImportedEvent) (owned : db.ConflictsOwned conn) :
    (reconciled uuids conn events faults now db).ConflictsOwned conn ∧
      ∀ row : SyncConflict, row.channelConnectionId ≠ conn.id →
        (row ∈ (reconciled uuids conn events faults now db).syncConflict ↔
          row ∈ db.syncConflict) := by
  by_cases nonempty : events = []
  · subst nonempty
    exact ⟨owned, fun _ _ => Iff.rfl⟩
  · obtain ⟨loop, frame⟩ := importAll_conflictFrame uuids faults now events owned
    unfold Db.ConflictsOwned
    rw [reconciled_syncConflict nonempty]
    refine ⟨Table.forall_updateWhere loop fun row _ _ own => own, fun row foreign => ?_⟩
    rw [← frame row foreign]
    refine Table.mem_updateWhere_of_not (fun healed => foreign healed.1)
      fun source healed same => ?_
    exact foreign (same ▸ healed.1)

/-- The inbox still holds, as the loop left it, a conflict whose UID was refused. -/
theorem reconciled_keepsConflict [PostgresServer] {row : SyncConflict}
    (refused : row.externalUid ∈ (importAll uuids conn events faults now db).notImportedUids)
    (member : row ∈ (importAll uuids conn events faults now db).db.syncConflict) :
    row ∈ (reconciled uuids conn events faults now db).syncConflict := by
  have nonempty : events ≠ [] := by
    rintro rfl
    cases refused
  rw [reconciled_syncConflict nonempty]
  exact Table.mem_updateWhere.mpr ⟨row, member, if_neg fun healed => healed.2.2.2 refused⟩

/-- A healthy sync writes bookings, conflicts and its own stamp. -/
theorem reconciled_tables [PostgresServer] (uuids : UuidSource) (conn : ChannelConnection)
    (faults : Nat → EventFault) (now : Instant) (db : Db) (events : List ImportedEvent) :
    ∃ bookings conflicts, reconciled uuids conn events faults now db =
      { db with
        booking := bookings
        syncConflict := conflicts
        channelConnection := Table.updateWhere
          (fun row => row.id = conn.id ∧ row.tenantId = conn.tenantId)
          (ChannelConnection.stamp now) db.channelConnection } := by
  obtain ⟨bookings, conflicts, same⟩ := importAll_tables uuids conn faults now db events
  unfold reconciled resolveHealed withdrawAbsent
  dsimp only
  rw [same]
  split
  · exact ⟨bookings, conflicts, rfl⟩
  · exact ⟨_, _, rfl⟩

/-- A sync moves rows of this connection only: its own imports, its own conflicts and its own row.
Every booking it did not import, every booking of another unit, every conflict filed by another
connection, every other connection, every row of another tenant and every other table is as it
was. -/
structure NothingElseMoved (conn : ChannelConnection) (db after : Db) : Prop where
  unlinked : ∀ row : Booking, row.channelConnectionId ≠ some conn.id →
    (row ∈ after.booking ↔ row ∈ db.booking)
  otherUnits : ∀ row : Booking, row.unitId ≠ conn.unitId → (row ∈ after.booking ↔ row ∈ db.booking)
  otherTenants : ∀ row : Booking, row.tenantId ≠ conn.tenantId →
    (row ∈ after.booking ↔ row ∈ db.booking)
  conflicts : ∀ row : SyncConflict, row.channelConnectionId ≠ conn.id →
    (row ∈ after.syncConflict ↔ row ∈ db.syncConflict)
  tenantConflicts : ∀ row : SyncConflict, row.tenantId ≠ conn.tenantId →
    (row ∈ after.syncConflict ↔ row ∈ db.syncConflict)
  connections : ∀ row : ChannelConnection, row.id ≠ conn.id ∨ row.tenantId ≠ conn.tenantId →
    (row ∈ after.channelConnection ↔ row ∈ db.channelConnection)
  tables : ∃ bookings conflicts connections, after = { db with
    booking := bookings, syncConflict := conflicts, channelConnection := connections }

/-- A statement on the connection's row leaves every other connection. -/
theorem mem_updateConnection_other (change : ChannelConnection → ChannelConnection)
    (keeps : ∀ row, (change row).id = row.id ∧ (change row).tenantId = row.tenantId)
    {rows : List ChannelConnection} {row : ChannelConnection}
    (foreign : row.id ≠ conn.id ∨ row.tenantId ≠ conn.tenantId) :
    row ∈ Table.updateWhere (fun row => row.id = conn.id ∧ row.tenantId = conn.tenantId) change
        rows ↔ row ∈ rows := by
  refine Table.mem_updateWhere_of_not (fun matched => ?_) fun source matched same => ?_
  · exact foreign.elim (fun other => other matched.1) fun other => other matched.2
  · obtain ⟨sameId, sameTenant⟩ := keeps source
    exact foreign.elim (fun other => other (same ▸ sameId.trans matched.1))
      fun other => other (same ▸ sameTenant.trans matched.2)

/-- A sync's writes reach the rows of its own connection alone: a row of another unit or tenant
cannot be an import of the connection, before or after. -/
theorem reconciled_nothingElseMoved [PostgresServer] (registered : conn.Registered db) :
    NothingElseMoved conn db (reconciled uuids conn events faults now db) := by
  have unlinked : ∀ row : Booking, row.channelConnectionId ≠ some conn.id →
      (row ∈ (reconciled uuids conn events faults now db).booking ↔ row ∈ db.booking) := by
    intro row foreign
    by_cases nonempty : events = []
    · subst nonempty
      exact Iff.rfl
    · rw [reconciled_unlinked nonempty foreign, importAll_unlinked events foreign]
  have owned : (reconciled uuids conn events faults now db).ImportsOwned conn :=
    reconciled_importsOwned registered.imports
  obtain ⟨conflictsOwned, conflictFrame⟩ := reconciled_conflictFrame uuids faults now events
    registered.conflicts
  have outside : ∀ row : Booking, (row.OwnImport conn → False) →
      (row ∈ (reconciled uuids conn events faults now db).booking ↔ row ∈ db.booking) := by
    intro row foreign
    by_cases linked : row.channelConnectionId = some conn.id
    · exact ⟨fun member => (foreign (owned row member linked)).elim,
        fun member => (foreign (registered.imports row member linked)).elim⟩
    · exact unlinked row linked
  refine ⟨unlinked, fun row foreign => outside row fun own => foreign own.unit,
    fun row foreign => outside row fun own => foreign own.tenant, conflictFrame,
    fun row foreign => ?_, fun row foreign => ?_, ?_⟩
  · by_cases linked : row.channelConnectionId = conn.id
    · exact ⟨fun member => absurd (conflictsOwned row member linked).2 foreign,
        fun member => absurd (registered.conflicts row member linked).2 foreign⟩
    · exact conflictFrame row linked
  · obtain ⟨bookings, conflicts, same⟩ := reconciled_tables uuids conn faults now db events
    rw [same]
    exact mem_updateConnection_other (ChannelConnection.stamp now) (fun _ => ⟨rfl, rfl⟩) foreign
  · obtain ⟨bookings, conflicts, same⟩ := reconciled_tables uuids conn faults now db events
    exact ⟨bookings, conflicts, _, same⟩

/-! ### The account -/

/-- No later event of the UID meets the condition at its own place in the feed, so the event at hand
is the last that does. -/
def NoLater (what : List ImportedEvent → ImportedEvent → Prop) (before : List ImportedEvent)
    (uid : String) (later : List ImportedEvent) : Prop :=
  ∀ mid event rest, later = mid ++ event :: rest → event.uid = uid → ¬ what (before ++ mid) event

/-- The inbox holds a conflict of the UID with this stay. -/
def Db.HasConflict (conn : ChannelConnection) (uid : String) (checkIn checkOut : PgDate) (db : Db) :
    Prop :=
  ∃ conflict ∈ db.syncConflict, conflict.FiledAs conn.id uid ∧ conflict.checkIn = checkIn ∧
    conflict.checkOut = checkOut

/-- Every event is accounted for: the counts are those of the fates, a filed event stands in the
inbox until a later one of its UID is filed, and a UID's booking is as its last landing left it. -/
structure EventsAccounted [PostgresServer] (uuids : UuidSource) (conn : ChannelConnection)
    (events : List ImportedEvent) (faults : Nat → EventFault) (now : Instant) (db : Db)
    (outcome : SyncOutcome) (after : Db) : Prop where
  imported : outcome.imported = (fates uuids conn faults now db events).count .landed
  conflicts : outcome.conflicts = (fates uuids conn faults now db events).count .refused
  total : outcome.imported + outcome.conflicts +
    (fates uuids conn faults now db events).count .logged = events.length
  filed : ∀ before event later, events = before ++ event :: later →
    Filed uuids conn faults now db before event →
    ∃ checkIn checkOut, bindStay event.start event.stop = .ok (checkIn, checkOut) ∧
      (importAll uuids conn (before ++ [event]) faults now db).db.HasConflict conn event.uid
        checkIn checkOut ∧
      (NoLater (Filed uuids conn faults now db) (before ++ [event]) event.uid later →
        after.HasConflict conn event.uid checkIn checkOut)
  landed : ∀ before event later, events = before ++ event :: later →
    nextFate uuids conn faults now db before event = .landed →
    NoLater (fun earlier other => nextFate uuids conn faults now db earlier other = .landed)
      (before ++ [event]) event.uid later →
    Mirrored conn [event] event.uid after
  unlanded : ∀ uid ∈ events.map ImportedEvent.uid,
    NoLater (fun earlier other => nextFate uuids conn faults now db earlier other = .landed)
      [] uid events →
    ∀ row : Booking, row.ImportedAs conn.id uid → (row ∈ after.booking ↔ row ∈ db.booking)

theorem importAll_registered [PostgresServer] (registered : conn.Registered db)
    (events : List ImportedEvent) :
    conn.Registered (importAll uuids conn events faults now db).db := by
  have imports := importAll_importsOwned uuids faults now events registered.imports
  have conflicts := (importAll_conflictFrame uuids faults now events registered.conflicts).1
  obtain ⟨bookings, rows, same⟩ := importAll_tables uuids conn faults now db events
  rw [same] at imports conflicts ⊢
  exact ⟨registered.connection, registered.units, registered.unit, imports, conflicts⟩

/-- A filed event is in the inbox at once, with its own stay. -/
theorem filed_hasConflict [PostgresServer] (registered : conn.Registered db)
    {before : List ImportedEvent} {event : ImportedEvent}
    (filed : Filed uuids conn faults now db before event) :
    ∃ checkIn checkOut, bindStay event.start event.stop = .ok (checkIn, checkOut) ∧
      (importAll uuids conn (before ++ [event]) faults now db).db.HasConflict conn event.uid
        checkIn checkOut := by
  obtain ⟨error, tried, overlap⟩ := nextFate_refused filed.1
  have refused : upsertEvent uuids conn event (importAll uuids conn before faults now db).db =
      .error error := by
    unfold nextUpsert tryUpsert at tried
    split at tried
    · cases tried
      cases overlap
    · exact tried
  obtain ⟨checkIn, checkOut, bound⟩ := upsertEvent_overlap refused overlap
  obtain ⟨conflict, member, ofUid, sameIn, sameOut, -, -⟩ :=
    recordConflict_records uuids (importAll_registered registered before) bound now
  refine ⟨checkIn, checkOut, bound.stay, conflict, ?_, ofUid, sameIn, sameOut⟩
  unfold nextUpsert at tried
  rw [importAll_concat, importEvent, tried]
  simp only [overlap, if_true, filed.2]
  exact member

/-- An event that did not land leaves its UID among those that were not imported, whatever came of
the UID's other occurrences. -/
theorem mem_notImportedUids [PostgresServer] {before later : List ImportedEvent}
    {event : ImportedEvent} (split : events = before ++ event :: later)
    (unlanded : nextFate uuids conn faults now db before event ≠ .landed) :
    event.uid ∈ (importAll uuids conn events faults now db).notImportedUids := by
  by_contra imported
  obtain ⟨stored, tried⟩ := allLanded_of_imported imported before event later split rfl
  refine unlanded ?_
  unfold nextFate
  rw [tried]
  rfl

theorem reconciled_landed [PostgresServer] {before later : List ImportedEvent}
    {event : ImportedEvent} (split : events = before ++ event :: later)
    (landed : nextFate uuids conn faults now db before event = .landed)
    (last : NoLater (fun earlier other => nextFate uuids conn faults now db earlier other = .landed)
      (before ++ [event]) event.uid later) :
    Mirrored conn [event] event.uid (reconciled uuids conn events faults now db) := by
  obtain ⟨stored, tried⟩ := nextFate_landed landed
  obtain ⟨-, checkIn, checkOut, bound, arrival⟩ := tryUpsert_ok tried
  have first : (importAll uuids conn (before ++ [event]) faults now db).db = stored := by
    unfold nextUpsert at tried
    rw [importAll_concat, importEvent, tried]
  have member : event ∈ events := by
    rw [split]
    exact List.mem_append_right _ List.mem_cons_self
  have whole : events = (before ++ [event]) ++ later := by rw [split]; simp
  refine (arrival.mirrored bound).congr (List.Subset.refl _) fun row imported => ?_
  rw [reconciled_keeps (List.ne_nil_of_mem member) (List.mem_map_of_mem member) imported, whole,
    importAll_bookingsOf last imported, first]

theorem reconciled_accounted [PostgresServer] (registered : conn.Registered db)
    (outcome : SyncOutcome)
    (imported : outcome.imported = (importAll uuids conn events faults now db).imported)
    (conflicts : outcome.conflicts = (importAll uuids conn events faults now db).conflicts) :
    EventsAccounted uuids conn events faults now db outcome
      (reconciled uuids conn events faults now db) := by
  obtain ⟨countLanded, countRefused⟩ := importAll_counts uuids conn faults now db events
  refine ⟨imported.trans countLanded, conflicts.trans countRefused, ?_, ?_,
    fun before event later split landed last => reconciled_landed split landed last, ?_⟩
  · rw [imported, conflicts, countLanded, countRefused, count_fates]
    simp [fates]
  · intro before event later split filed
    obtain ⟨checkIn, checkOut, bound, conflict, member, ofUid, stay⟩ :=
      filed_hasConflict registered filed
    refine ⟨checkIn, checkOut, bound, ⟨conflict, member, ofUid, stay⟩, fun last => ?_⟩
    have whole : events = (before ++ [event]) ++ later := by rw [split]; simp
    have refused :
        conflict.externalUid ∈ (importAll uuids conn events faults now db).notImportedUids := by
      rw [ofUid.2]
      refine mem_notImportedUids split ?_
      rw [filed.1]
      exact Fate.noConfusion
    refine ⟨conflict, reconciled_keepsConflict refused ?_, ofUid, stay⟩
    rw [whole]
    exact (importAll_conflictsOf last ofUid).mpr member
  · intro uid offered unlanded row ofUid
    have nonempty : events ≠ [] := by
      rintro rfl
      cases offered
    rw [reconciled_keeps nonempty offered ofUid]
    exact importAll_bookingsOf unlanded ofUid

/-- A sync of a healthy feed commits, accounts for every event and moves nothing but the rows of the
connection. The connection is registered: its row is stored and its imports and conflicts are of its
unit and tenant. The feed is bindable: its UIDs are texts and few enough for the two statements that
take them as parameters, without which the transaction aborts as a whole. -/
theorem every_event_is_accounted_for [PostgresServer] {intl : DateTimeFormat}
    {fetched : IcalFetchResult} (registered : conn.Registered db)
    (read : readFeed intl conn fetched db = .ok events)
    (bindable : Bindable uuids conn events faults db) :
    ∃ outcome after, syncConnection uuids intl conn fetched faults now db = .ok (outcome, after) ∧
      EventsAccounted uuids conn events faults now db outcome after ∧
      NothingElseMoved conn db after := by
  obtain ⟨cancelled, committed⟩ := reconcileFeed_bindable uuids now bindable
  have whole : syncConnection uuids intl conn fetched faults now db =
      reconcileFeed uuids conn events faults now db := by
    rw [syncConnection, read]
    rfl
  rw [whole, committed]
  exact ⟨_, _, rfl, reconciled_accounted registered _ rfl rfl,
    reconciled_nothingElseMoved registered⟩

end Sync

/-! ### A filing that fails -/

/-- The villa's feed sells the held nights. -/
def doubleSoldFeed : Text :=
  crlfLines ["BEGIN:VCALENDAR", "BEGIN:VEVENT", "UID:uid-1", "DTSTART:20260801", "DTEND:20260803",
    "END:VEVENT", "END:VCALENDAR"]

/-- The one event of that feed. -/
def doubleSold : ImportedEvent := ⟨"uid-1", "2026-08-01".toList, "2026-08-03".toList⟩

theorem doubleSoldFeed_read :
    readFeed indonesianFormat villaConnection (fetchedBody doubleSoldFeed) villaHeld =
      .ok [doubleSold] := by
  decide +kernel

theorem villaHeld_registered : villaConnection.Registered villaHeld where
  connection := by decide
  units := by decide
  unit := by decide
  imports := by
    intro row member linked
    rw [List.mem_singleton.mp member] at linked
    cases linked
  conflicts _ member := nomatch member

attribute [local instance] PostgresServer.uncompressed in
/-- The villa's refused event is accounted for. -/
theorem villa_double_sale_accounted :
    ∃ outcome after, syncConnection .counting indonesianFormat villaConnection
        (fetchedBody doubleSoldFeed) noFaults 1 villaHeld = .ok (outcome, after) ∧
      EventsAccounted .counting villaConnection [doubleSold] noFaults 1 villaHeld outcome after ∧
      NothingElseMoved villaConnection villaHeld after :=
  every_event_is_accounted_for villaHeld_registered doubleSoldFeed_read (by decide +kernel)

/-- The savepoint of the filing is lost. -/
def filingFault : Nat → EventFault := fun _ => ⟨none, true⟩

attribute [local instance] PostgresServer.uncompressed in
/-- The sync goes on, and the refused event is in no inbox. -/
theorem refused_event_unfiled :
    readFeed indonesianFormat villaConnection (fetchedBody doubleSoldFeed) villaHeld =
        .ok [doubleSold] ∧
      nextFate .counting villaConnection filingFault 1 villaHeld [] doubleSold = .refused ∧
      ∃ outcome after, syncConnection .counting indonesianFormat villaConnection
          (fetchedBody doubleSoldFeed) filingFault 1 villaHeld = .ok (outcome, after) ∧
        outcome.status = .ok ∧ outcome.conflicts = 1 ∧
        ∀ conflict ∈ after.syncConflict, ¬ conflict.FiledAs villaConnection.id "uid-1" := by
  refine ⟨doubleSoldFeed_read, by decide +kernel, ?_⟩
  rw [syncConnection, doubleSoldFeed_read]
  exact ⟨_, _, rfl, rfl, rfl, fun conflict member => (List.not_mem_nil member).elim⟩

end Sambung
