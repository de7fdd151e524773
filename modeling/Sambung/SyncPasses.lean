/-
This file proves what a pass over many feeds comes to.

The feeds of a pass share the database, and one after the other commits on its
own. A feed that cannot be read, or whose transaction aborts, writes no booking
and no conflict, and a sync looks at no health of any connection. So the others
end as if it were not in the pass, and the counts of the answer are theirs.

The last fact is a congruence: with any other health in the table of connections a
sync has the same outcome and the same rows, which is proved statement by
statement up to the whole transaction. The pass beside the one without its failing
feeds is then an induction over the feeds, with a relation between two running
totals and two databases (`PassesAlike`). Whether a feed is effective depends on
the state the pass has come to, so the feeds that are effective are computed along
it.
-/

import Sambung.EstateSafety

namespace Sambung

/-! ### Other health, same sync -/

/-- The database with these connections. -/
def Db.withConnections (rows : List ChannelConnection) (db : Db) : Db :=
  { db with channelConnection := rows }

/-- The rows are of the same connections as the table. -/
def SameConnections (rows : List ChannelConnection) (db : Db) : Prop :=
  ∀ id, (∃ conn ∈ rows, conn.id = id) ↔ ∃ conn ∈ db.channelConnection, conn.id = id

section Congruence

variable {uuids : UuidSource} {conn : ChannelConnection} {rows : List ChannelConnection} {db : Db}
  {now : Instant}

theorem failedForeignKey_withConnections (same : SameConnections rows db) (row : Booking) :
    (db.withConnections rows).failedForeignKey row = db.failedForeignKey row := by
  have keys : (∃ id ∈ row.channelConnectionId, ¬ ∃ conn ∈ rows, conn.id = id) ↔
      ∃ id ∈ row.channelConnectionId, ¬ ∃ conn ∈ db.channelConnection, conn.id = id := by
    simp only [same _]
  rw [Db.failedForeignKey, Db.failedForeignKey]
  simp only [Db.withConnections, keys]

theorem insertBooking_withConnections [PostgresServer] (same : SameConnections rows db)
    (values : Uuid → Booking) :
    (db.withConnections rows).insertBooking uuids values =
      (db.insertBooking uuids values).map fun inserted =>
        (inserted.1, inserted.2.withConnections rows) := by
  have refusal : ∀ row, (db.withConnections rows).bookingRefusal row = db.bookingRefusal row := by
    intro row
    rw [Db.bookingRefusal, Db.bookingRefusal, failedForeignKey_withConnections same]
    rfl
  rw [Db.insertBooking, Db.insertBooking, refusal]
  dsimp only [Db.withConnections]
  cases db.bookingRefusal (values (uuids.draw (db.booking.map Booking.id))) with
  | none => rfl
  | some error => rfl

theorem upsertEvent_withConnections [PostgresServer] (same : SameConnections rows db)
    (event : ImportedEvent) :
    upsertEvent uuids conn event (db.withConnections rows) =
      (upsertEvent uuids conn event db).map (Db.withConnections rows) := by
  rw [upsertEvent, upsertEvent]
  split
  · rfl
  · cases bindStay event.start event.stop with
    | error error => rfl
    | ok stay =>
      dsimp only
      have bookings : (db.withConnections rows).booking = db.booking := rfl
      rw [bookings]
      cases db.booking.find? fun row => row.ImportedAs conn.id event.uid with
      | none =>
        dsimp only
        rw [insertBooking_withConnections same]
        cases db.insertBooking uuids (importedRow conn event.uid stay.1 stay.2) with
        | error error => rfl
        | ok inserted => rfl
      | some existing =>
        dsimp only
        have index : (db.withConnections rows).failedIndex (existing.moveTo stay.1 stay.2) =
            db.failedIndex (existing.moveTo stay.1 stay.2) := rfl
        rw [index]
        cases (existing.moveTo stay.1 stay.2).failedCheck.or
            (db.failedIndex (existing.moveTo stay.1 stay.2)) with
        | none => rfl
        | some constraint => rfl

theorem recordConflict_withConnections (same : SameConnections rows db) (event : ImportedEvent)
    (faulted : Bool) :
    recordConflict uuids conn event now faulted (db.withConnections rows) =
      (recordConflict uuids conn event now faulted db).withConnections rows := by
  rw [recordConflict, recordConflict]
  split
  · rfl
  · cases bindStay event.start event.stop with
    | error error => rfl
    | ok stay =>
      dsimp only [Db.withConnections]
      simp only [same conn.id]
      split_ifs
      all_goals rfl

theorem tryUpsert_withConnections [PostgresServer] (same : SameConnections rows db)
    (fault : EventFault) (event : ImportedEvent) :
    tryUpsert uuids conn event fault (db.withConnections rows) =
      (tryUpsert uuids conn event fault db).map (Db.withConnections rows) := by
  rw [tryUpsert, tryUpsert]
  cases fault.upsert with
  | none => exact upsertEvent_withConnections same event
  | some code => rfl

/-- Whether the lists of UIDs can be bound does not rest on the health of any connection. -/
theorem bindable_withConnections [PostgresServer] (same : SameConnections rows db)
    (events : List ImportedEvent) (faults : Nat → EventFault) :
    Bindable uuids conn events faults (db.withConnections rows) ↔
      Bindable uuids conn events faults db := by
  have lands : ∀ fault event, Lands uuids conn fault (db.withConnections rows) event ↔
      Lands uuids conn fault db event := by
    intro fault event
    rw [Lands, Lands, tryUpsert_withConnections same]
    cases tryUpsert uuids conn event fault db with
    | error error => exact Iff.rfl
    | ok after => exact Iff.rfl
  rw [← bindable_iff, ← bindable_iff]
  simp only [lands]

theorem importEvent_withConnections [PostgresServer] {progress : SyncProgress}
    (same : SameConnections rows progress.db) (fault : EventFault) (event : ImportedEvent) :
    importEvent uuids conn now fault { progress with db := progress.db.withConnections rows }
        event =
      { importEvent uuids conn now fault progress event with
        db := (importEvent uuids conn now fault progress event).db.withConnections rows } := by
  rw [importEvent, importEvent, tryUpsert_withConnections same]
  cases tryUpsert uuids conn event fault progress.db with
  | ok after => rfl
  | error error =>
    dsimp only [Except.map]
    split
    · rw [recordConflict_withConnections same]
    · rfl

/-- The loop looks at no health of a connection. -/
theorem importAll_withConnections [PostgresServer] (uuids : UuidSource) (conn : ChannelConnection)
    (events : List ImportedEvent) (faults : Nat → EventFault) (same : SameConnections rows db) :
    importAll uuids conn events faults now (db.withConnections rows) =
      { importAll uuids conn events faults now db with
        db := (importAll uuids conn events faults now db).db.withConnections rows } := by
  induction events using List.reverseRecOn with
  | nil => rfl
  | append_singleton events event inductionHypothesis =>
    have sameNow : SameConnections rows (importAll uuids conn events faults now db).db := by
      obtain ⟨bookings, conflicts, tables⟩ := importAll_tables uuids conn faults now db events
      rw [tables]
      exact same
    rw [importAll_concat, importAll_concat, inductionHypothesis,
      importEvent_withConnections sameNow]

/-- Neither does the rest of the transaction, but to stamp its own row. -/
theorem reconcileFeed_withConnections [PostgresServer] (events : List ImportedEvent)
    (faults : Nat → EventFault) (same : SameConnections rows db) :
    reconcileFeed uuids conn events faults now (db.withConnections rows) =
      (reconcileFeed uuids conn events faults now db).map fun answer =>
        (answer.1, answer.2.withConnections ((db.withConnections rows).updateConnection conn
          (.stamp now)).channelConnection) := by
  have loop : importEvents uuids conn now faults 0 events ⟨db.withConnections rows, 0, 0, []⟩ = _ :=
    importAll_withConnections uuids conn events faults same
  have cancel : ∀ before : Db, cancelAbsent conn events (before.withConnections rows) =
      (cancelAbsent conn events before).map fun answer =>
        (answer.1, answer.2.withConnections rows) := by
    intro before
    rw [cancelAbsent, cancelAbsent]
    split
    · rfl
    · dsimp only
      split
      · rfl
      · split
        · rfl
        · rfl
  have close : ∀ (uids : List String) (before : Db),
      closeHealed conn events uids now (before.withConnections rows) =
        (closeHealed conn events uids now before).map (Db.withConnections rows) := by
    intro uids before
    rw [closeHealed, closeHealed]
    split
    · rfl
    · split
      · rfl
      · split
        · rfl
        · rw [resolveHealed, resolveHealed]
          split
          · rfl
          · rfl
  rw [reconcileFeed, reconcileFeed, loop]
  dsimp only [importAll]
  rw [cancel]
  cases cancelAbsent conn events
      (importEvents uuids conn now faults 0 events ⟨db, 0, 0, []⟩).db with
  | error error => rfl
  | ok answer =>
    dsimp only [Except.map]
    rw [close]
    cases closeHealed conn events
        (importEvents uuids conn now faults 0 events ⟨db, 0, 0, []⟩).notImportedUids now
        answer.2 with
    | error error => rfl
    | ok after => rfl

end Congruence

/-! ### One feed of the pass -/

/-- The feed is healthy, and its transaction commits. -/
def Pull.effective [PostgresServer] (pull : Pull) (uuids : UuidSource) (intl : DateTimeFormat)
    (conn : ChannelConnection) (db : Db) : Bool :=
  match readFeed intl conn pull.fetched db with
  | .ok events => Bindable uuids conn events pull.faults db
  | .error _ => false

/-- The row of a connection whose pull was not effective: marked with the error of its feed, or as
it was where the transaction aborted. -/
def Pull.markFailed (pull : Pull) (intl : DateTimeFormat) (db : Db) (row : ChannelConnection) :
    ChannelConnection :=
  match readFeed intl row pull.fetched db with
  | .ok _ => row
  | .error error => { row with lastStatus := .error, lastError := some error }

section Feed

variable {uuids : UuidSource} {intl : DateTimeFormat} {conn : ChannelConnection}
  {rows : List ChannelConnection} {db : Db} {pull : Pull}

/-- A feed is read in the clock of its property, so under any two tables of units and properties
that are one. -/
theorem readFeed_congr {after : Db} (units : after.unit = db.unit)
    (properties : after.property = db.property) (fetched : IcalFetchResult) :
    readFeed intl conn fetched after = readFeed intl conn fetched db := by
  have zone : resolveTimeZone conn after = resolveTimeZone conn db := by
    rw [resolveTimeZone, resolveTimeZone, units, properties]
  rw [readFeed, readFeed, zone]

theorem sameConnections_updateConnection {change : ChannelConnection → ChannelConnection}
    (keyed : ∀ row, (change row).id = row.id) :
    SameConnections (db.updateConnection conn change).channelConnection db := by
  intro id
  have same : (db.updateConnection conn change).channelConnection.map ChannelConnection.id =
      db.channelConnection.map ChannelConnection.id :=
    Table.map_updateWhere ChannelConnection.id fun row _ => keyed row
  rw [← List.mem_map, ← List.mem_map, same]

/-- The sync of a feed that was read is its transaction. -/
theorem Pull.sync_read [PostgresServer] {events : List ImportedEvent} (uuids : UuidSource)
    (read : readFeed intl conn pull.fetched db = .ok events) :
    pull.sync uuids intl conn db = reconcileFeed uuids conn events pull.faults pull.now db := by
  rw [Pull.sync, syncConnection, read]
  rfl

/-- Whether a pull is effective does not rest on the health of any connection. -/
theorem Pull.effective_withConnections [PostgresServer] (same : SameConnections rows db) :
    pull.effective uuids intl conn (db.withConnections rows) =
      pull.effective uuids intl conn db := by
  have read : readFeed intl conn pull.fetched (db.withConnections rows) =
      readFeed intl conn pull.fetched db := readFeed_congr rfl rfl pull.fetched
  rw [Pull.effective, Pull.effective, read]
  cases readFeed intl conn pull.fetched db with
  | error error => rfl
  | ok events => exact decide_eq_decide.mpr (bindable_withConnections same events pull.faults)

/-- A pull that is not effective writes at most the health of its connection. -/
theorem Pull.sync_failed [PostgresServer]
    (failed : pull.effective uuids intl conn db = false) :
    (∃ thrown, pull.sync uuids intl conn db = .error thrown) ∨
      ∃ outcome rows, SameConnections rows db ∧ outcome.status = .error ∧ outcome.imported = 0 ∧
        outcome.cancelled = 0 ∧ outcome.conflicts = 0 ∧
        pull.sync uuids intl conn db = .ok (outcome, db.withConnections rows) := by
  rw [Pull.effective] at failed
  cases read : readFeed intl conn pull.fetched db with
  | error error =>
    rw [Pull.sync, syncConnection, read]
    have same : SameConnections (db.updateConnection conn fun row =>
        { row with lastStatus := .error, lastError := some error }).channelConnection db :=
      sameConnections_updateConnection fun _ => rfl
    exact .inr ⟨_, _, same, rfl, rfl, rfl, rfl, rfl⟩
  | ok events =>
    rw [read] at failed
    obtain ⟨error, aborted⟩ :=
      reconcileFeed_unbindable uuids pull.now (of_decide_eq_false failed)
    exact .inl ⟨.pg error, (pull.sync_read uuids read).trans aborted⟩

/-- An effective pull commits, and its sync looks at no health of any connection. -/
theorem Pull.sync_effective [PostgresServer]
    (effective : pull.effective uuids intl conn db = true) :
    ∃ outcome after, pull.sync uuids intl conn db = .ok (outcome, after) ∧ outcome.status = .ok ∧
      ∀ rows, SameConnections rows db → ∃ rows', SameConnections rows' after ∧
        pull.sync uuids intl conn (db.withConnections rows) =
          .ok (outcome, after.withConnections rows') := by
  rw [Pull.effective] at effective
  cases read : readFeed intl conn pull.fetched db with
  | error error =>
    rw [read] at effective
    cases effective
  | ok events =>
    rw [read] at effective
    obtain ⟨cancelled, answered⟩ :=
      reconcileFeed_bindable uuids pull.now (of_decide_eq_true effective)
    obtain ⟨bookings, conflicts, tables⟩ := reconciled_tables uuids conn pull.faults pull.now db
      events
    rw [pull.sync_read uuids read]
    refine ⟨_, _, answered, rfl, fun rows same => ?_⟩
    refine ⟨((db.withConnections rows).updateConnection conn (.stamp pull.now)).channelConnection,
      fun id => ?_, ?_⟩
    · have stamped : ∀ before : Db, SameConnections
          (before.updateConnection conn (.stamp pull.now)).channelConnection before := fun _ =>
        sameConnections_updateConnection fun _ => rfl
      rw [tables]
      exact (stamped (db.withConnections rows) id).trans ((same id).trans (stamped db id).symm)
    · have readThere : readFeed intl conn pull.fetched (db.withConnections rows) = .ok events :=
        (readFeed_congr rfl rfl pull.fetched).trans read
      rw [pull.sync_read uuids readThere, reconcileFeed_withConnections events pull.faults same,
        answered]
      rfl

end Feed

/-! ### The pass -/

/-- Two running totals of one count of what was done, less the feeds that failed. -/
structure SyncAllResponse.Agrees (total clean : SyncAllResponse) (failed : Nat) : Prop where
  errored : total.errored = failed
  cleanErrored : clean.errored = 0
  imported : total.imported = clean.imported
  cancelled : total.cancelled = clean.cancelled
  conflicts : total.conflicts = clean.conflicts

theorem SyncAllResponse.Agrees.eq {total clean : SyncAllResponse} {failed : Nat}
    (agrees : total.Agrees clean failed) :
    total = { clean with feeds := total.feeds, errored := failed } := by
  obtain ⟨errored, -, imported, cancelled, conflicts⟩ := agrees
  rw [← errored, ← imported, ← cancelled, ← conflicts]

section Pass

variable {uuids : UuidSource} {intl : DateTimeFormat} {pulls : ChannelConnection → Pull}
  {db : Db} {connections : List ChannelConnection}

/-- The database a pass over these feeds comes to. -/
def passDb [PostgresServer] (uuids : UuidSource) (intl : DateTimeFormat)
    (pulls : ChannelConnection → Pull) (connections : List ChannelConnection) (db : Db) : Db :=
  connections.foldl
    (fun before conn => ((pulls conn).sync uuids intl conn before).database before) db

/-- The feeds that were effective when the pass came to them. -/
def effectiveFeeds [PostgresServer] (uuids : UuidSource) (intl : DateTimeFormat)
    (pulls : ChannelConnection → Pull) : List ChannelConnection → Db → List ChannelConnection
  | [], _ => []
  | conn :: later, db =>
    if (pulls conn).effective uuids intl conn db then
      conn :: effectiveFeeds uuids intl pulls later (passDb uuids intl pulls [conn] db)
    else effectiveFeeds uuids intl pulls later (passDb uuids intl pulls [conn] db)

theorem effectiveFeeds_concat [PostgresServer] (uuids : UuidSource) (intl : DateTimeFormat)
    (pulls : ChannelConnection → Pull) (connections : List ChannelConnection)
    (conn : ChannelConnection) (db : Db) :
    effectiveFeeds uuids intl pulls (connections ++ [conn]) db =
      effectiveFeeds uuids intl pulls connections db ++
        if (pulls conn).effective uuids intl conn (passDb uuids intl pulls connections db) then
          [conn]
        else [] := by
  induction connections generalizing db with
  | nil => rfl
  | cons first later inductionHypothesis =>
    rw [List.cons_append, effectiveFeeds, effectiveFeeds, inductionHypothesis]
    split
    · rfl
    · rfl

theorem effectiveFeeds_sublist [PostgresServer] (connections : List ChannelConnection) (db : Db) :
    List.Sublist (effectiveFeeds uuids intl pulls connections db) connections := by
  induction connections generalizing db with
  | nil => exact .slnil
  | cons first later inductionHypothesis =>
    rw [effectiveFeeds]
    split
    · exact (inductionHypothesis _).cons_cons first
    · exact (inductionHypothesis _).cons first

theorem syncNext_database [PostgresServer] (uuids : UuidSource) (progress : SyncAllResponse × Db)
    (conn : ChannelConnection) :
    (syncNext uuids intl pulls progress conn).2 =
      ((pulls conn).sync uuids intl conn progress.2).database progress.2 := by
  rw [syncNext]
  cases (pulls conn).sync uuids intl conn progress.2 with
  | error thrown => rfl
  | ok answer => rfl

theorem foldl_syncNext_database [PostgresServer] (connections : List ChannelConnection)
    (progress : SyncAllResponse × Db) :
    (connections.foldl (syncNext uuids intl pulls) progress).2 =
      passDb uuids intl pulls connections progress.2 := by
  induction connections generalizing progress with
  | nil => rfl
  | cons conn later inductionHypothesis =>
    rw [List.foldl_cons, inductionHypothesis, syncNext_database]
    rfl

/-- A pass with its failing feeds, beside the pass without them. -/
structure PassesAlike (failed : Nat) (full clean : SyncAllResponse × Db) : Prop where
  counts : full.1.Agrees clean.1 failed
  feeds : ∃ rows, SameConnections rows clean.2 ∧ full.2 = clean.2.withConnections rows

/-- A feed that fails counts as an error, and leaves all but the health of its connection. -/
theorem syncNext_failed [PostgresServer] {progress : SyncAllResponse × Db}
    {conn : ChannelConnection}
    (failed : (pulls conn).effective uuids intl conn progress.2 = false) :
    ∃ rows, SameConnections rows progress.2 ∧ syncNext uuids intl pulls progress conn =
      ({ progress.1 with errored := progress.1.errored + 1 }, progress.2.withConnections rows) := by
  rw [syncNext]
  obtain ⟨thrown, threw⟩ |
    ⟨outcome, rows, same, status, imported, cancelled, conflicts, answered⟩ :=
    (pulls conn).sync_failed failed
  · rw [threw]
    exact ⟨progress.2.channelConnection, fun _ => Iff.rfl, rfl⟩
  · rw [answered]
    refine ⟨rows, same, ?_⟩
    dsimp only
    rw [status, if_pos rfl, imported, cancelled, conflicts]
    rfl

/-- A feed that is effective adds its counts to the running total and its rows to the database. -/
theorem syncNext_effective [PostgresServer] {progress : SyncAllResponse × Db}
    {conn : ChannelConnection} {outcome : SyncOutcome} {after : Db}
    (answered : (pulls conn).sync uuids intl conn progress.2 = .ok (outcome, after))
    (healthy : outcome.status = .ok) :
    syncNext uuids intl pulls progress conn = ({ progress.1 with
      imported := progress.1.imported + outcome.imported
      cancelled := progress.1.cancelled + outcome.cancelled
      conflicts := progress.1.conflicts + outcome.conflicts }, after) := by
  rw [syncNext, answered]
  dsimp only
  rw [healthy]
  rfl

theorem foldl_syncNext_alike [PostgresServer] (uuids : UuidSource) (intl : DateTimeFormat)
    (pulls : ChannelConnection → Pull) (db : Db) (connections : List ChannelConnection)
    (feeds effective : Nat) :
    PassesAlike (connections.length - (effectiveFeeds uuids intl pulls connections db).length)
      (connections.foldl (syncNext uuids intl pulls) (⟨feeds, 0, 0, 0, 0⟩, db))
      ((effectiveFeeds uuids intl pulls connections db).foldl (syncNext uuids intl pulls)
        (⟨effective, 0, 0, 0, 0⟩, db)) := by
  induction connections using List.reverseRecOn with
  | nil => exact ⟨⟨rfl, rfl, rfl, rfl, rfl⟩, ⟨_, fun _ => Iff.rfl, rfl⟩⟩
  | append_singleton connections conn inductionHypothesis =>
    obtain ⟨counts, rows, same, stored⟩ := inductionHypothesis
    have few : (effectiveFeeds uuids intl pulls connections db).length ≤ connections.length :=
      (effectiveFeeds_sublist connections db).length_le
    have reached : (connections.foldl (syncNext uuids intl pulls) (⟨feeds, 0, 0, 0, 0⟩, db)).2 =
        passDb uuids intl pulls connections db := foldl_syncNext_database connections _
    rw [effectiveFeeds_concat, ← reached, List.foldl_append, List.foldl_append, List.length_append,
      List.foldl_cons, List.foldl_nil]
    generalize connections.foldl (syncNext uuids intl pulls) (⟨feeds, 0, 0, 0, 0⟩, db) =
      full at counts stored ⊢
    generalize (effectiveFeeds uuids intl pulls connections db).foldl (syncNext uuids intl pulls)
      (⟨effective, 0, 0, 0, 0⟩, db) = clean at *
    have beside : (pulls conn).effective uuids intl conn full.2 =
        (pulls conn).effective uuids intl conn clean.2 := by
      rw [stored, Pull.effective_withConnections same]
    cases works : (pulls conn).effective uuids intl conn full.2 with
    | false =>
      obtain ⟨marked, markedSame, next⟩ := syncNext_failed works
      rw [next, if_neg Bool.false_ne_true, List.append_nil, List.foldl_nil]
      refine ⟨⟨?_, counts.cleanErrored, counts.imported, counts.cancelled, counts.conflicts⟩,
        marked, ?_, ?_⟩
      · dsimp only
        rw [counts.errored, List.length_singleton]
        omega
      · rw [stored] at markedSame
        exact fun id => (markedSame id).trans (same id)
      · dsimp only
        rw [stored]
        rfl
    | true =>
      obtain ⟨outcome, after, answered, healthy, moved⟩ :=
        (pulls conn).sync_effective (beside.symm.trans works)
      obtain ⟨stamped, stampedSame, answeredBeside⟩ := moved rows same
      rw [← stored] at answeredBeside
      rw [syncNext_effective answeredBeside healthy, if_pos rfl, List.foldl_cons, List.foldl_nil,
        syncNext_effective answered healthy, List.length_append, List.length_singleton]
      refine ⟨⟨?_, counts.cleanErrored, ?_, ?_, ?_⟩, stamped, stampedSame, rfl⟩
      · dsimp only
        rw [counts.errored]
        omega
      · exact congrArg (· + outcome.imported) counts.imported
      · exact congrArg (· + outcome.cancelled) counts.cancelled
      · exact congrArg (· + outcome.conflicts) counts.conflicts

/-- The row of a connection after a pass: stamped where its feed was effective, else marked with the
error of its feed or left as it was. -/
abbrev markAfter [PostgresServer] (uuids : UuidSource) (intl : DateTimeFormat)
    (pulls : ChannelConnection → Pull) (db : Db) (connections : List ChannelConnection)
    (row : ChannelConnection) : ChannelConnection :=
  if row ∈ effectiveFeeds uuids intl pulls connections db then row.stamp (pulls row).now
  else if row ∈ connections then (pulls row).markFailed intl db row
  else row

/-- A sync marks the row of its connection, with the stamp of a commit, with the error of the feed
or, where it aborted, not at all, and no other row. -/
theorem Pull.sync_channelConnection [PostgresServer] (uuids : UuidSource) {conn : ChannelConnection}
    {pull : Pull} {before : Db} (units : before.unit = db.unit)
    (properties : before.property = db.property)
    (alone : ∀ row ∈ before.channelConnection,
      row.id = conn.id ∧ row.tenantId = conn.tenantId → row = conn) :
    ((pull.sync uuids intl conn before).database before).channelConnection =
      Table.updateWhere (fun row => row.id = conn.id ∧ row.tenantId = conn.tenantId)
        (fun row => if pull.effective uuids intl conn before then row.stamp pull.now
          else pull.markFailed intl db row) before.channelConnection := by
  have read : readFeed intl conn pull.fetched before = readFeed intl conn pull.fetched db :=
    readFeed_congr units properties pull.fetched
  have marked : ∀ change : ChannelConnection → ChannelConnection,
      (change conn = if pull.effective uuids intl conn before then conn.stamp pull.now
        else pull.markFailed intl db conn) →
        Table.updateWhere (fun row => row.id = conn.id ∧ row.tenantId = conn.tenantId) change
            before.channelConnection =
          Table.updateWhere (fun row => row.id = conn.id ∧ row.tenantId = conn.tenantId)
            (fun row => if pull.effective uuids intl conn before then row.stamp pull.now
              else pull.markFailed intl db row) before.channelConnection := by
    intro change same
    refine List.map_congr_left fun row member => ?_
    split
    · rename_i matched
      rw [alone row member matched, same]
    · rfl
  rw [Pull.sync, syncConnection, read]
  cases result : readFeed intl conn pull.fetched db with
  | error error =>
    refine marked _ ?_
    rw [Pull.effective, read, Pull.markFailed, result]
    rfl
  | ok events =>
    have works : pull.effective uuids intl conn before =
        decide (Bindable uuids conn events pull.faults before) := by
      rw [Pull.effective, read, result]
    show ((reconcileFeed uuids conn events pull.faults pull.now before).database
      before).channelConnection = _
    rw [reconcileFeed_database]
    by_cases bindable : Bindable uuids conn events pull.faults before
    · obtain ⟨bookings, conflicts, tables⟩ := reconciled_tables uuids conn pull.faults pull.now
        before events
      rw [if_pos bindable, tables]
      refine marked _ ?_
      rw [works, decide_eq_true bindable, if_pos rfl]
    · rw [if_neg bindable, ← marked id]
      · exact (List.map_id'' (fun _ => ite_self _) before.channelConnection).symm
      · rw [works, decide_eq_false bindable, if_neg Bool.false_ne_true, Pull.markFailed, result]
        rfl

/-- A sync writes no unit and no property. -/
theorem Pull.sync_inventory [PostgresServer] (uuids : UuidSource) (conn : ChannelConnection)
    (pull : Pull) (before : Db) :
    ((pull.sync uuids intl conn before).database before).unit = before.unit ∧
      ((pull.sync uuids intl conn before).database before).property = before.property := by
  rw [Pull.sync, syncConnection]
  cases readFeed intl conn pull.fetched before with
  | error error => exact ⟨rfl, rfl⟩
  | ok events =>
    show ((reconcileFeed uuids conn events pull.faults pull.now before).database before).unit = _ ∧
      ((reconcileFeed uuids conn events pull.faults pull.now before).database before).property = _
    rw [reconcileFeed_database]
    split
    · obtain ⟨bookings, conflicts, tables⟩ := reconciled_tables uuids conn pull.faults pull.now
        before events
      rw [tables]
      exact ⟨rfl, rfl⟩
    · exact ⟨rfl, rfl⟩

theorem markAfter_same [PostgresServer] (uuids : UuidSource) (intl : DateTimeFormat)
    (pulls : ChannelConnection → Pull) (db : Db) (connections : List ChannelConnection)
    (row : ChannelConnection) : row.Same (markAfter uuids intl pulls db connections row) := by
  rw [markAfter]
  split
  · exact ⟨rfl, rfl, rfl⟩
  · split
    · rw [Pull.markFailed]
      cases readFeed intl row (pulls row).fetched db with
      | error error => exact ⟨rfl, rfl, rfl⟩
      | ok events => exact ⟨rfl, rfl, rfl⟩
    · exact ⟨rfl, rfl, rfl⟩

/-- A connection that is not in the pass keeps its row. -/
theorem markAfter_absent [PostgresServer] {row : ChannelConnection} (absent : row ∉ connections) :
    markAfter uuids intl pulls db connections row = row := by
  rw [markAfter, if_neg absent, if_neg]
  exact fun member => absent ((effectiveFeeds_sublist connections db).subset member)

/-- A pass marks the row of each of its connections once, and no other row. -/
theorem foldl_syncNext_connections [PostgresServer] (uuids : UuidSource) (intl : DateTimeFormat)
    (pulls : ChannelConnection → Pull)
    (keyed : (db.channelConnection.map ChannelConnection.id).Nodup)
    (distinct : connections.Nodup) (stored : ∀ conn ∈ connections, conn ∈ db.channelConnection) :
    (passDb uuids intl pulls connections db).unit = db.unit ∧
      (passDb uuids intl pulls connections db).property = db.property ∧
      (passDb uuids intl pulls connections db).channelConnection =
        db.channelConnection.map (markAfter uuids intl pulls db connections) := by
  induction connections using List.reverseRecOn with
  | nil =>
    exact ⟨rfl, rfl, (List.map_id'' (fun _ => markAfter_absent List.not_mem_nil) _).symm⟩
  | append_singleton connections conn inductionHypothesis =>
    obtain ⟨distinctBefore, -, apart⟩ := List.nodup_append.mp distinct
    have unmarked : conn ∉ connections := fun member =>
      apart conn member conn List.mem_cons_self rfl
    have isStored : conn ∈ db.channelConnection :=
      stored conn (List.mem_append_right _ List.mem_cons_self)
    obtain ⟨units, properties, rows⟩ := inductionHypothesis distinctBefore fun other member =>
      stored other (List.mem_append_left _ member)
    have works := effectiveFeeds_concat uuids intl pulls connections conn db
    have next : passDb uuids intl pulls (connections ++ [conn]) db =
        ((pulls conn).sync uuids intl conn (passDb uuids intl pulls connections db)).database
          (passDb uuids intl pulls connections db) := by
      rw [passDb, List.foldl_append]
      rfl
    rw [next]
    generalize passDb uuids intl pulls connections db = before at *
    have isConn : ∀ source ∈ db.channelConnection, source.id = conn.id → source = conn :=
      fun source member same => Table.eq_of_key keyed member isStored same
    have alone : ∀ row ∈ before.channelConnection,
        row.id = conn.id ∧ row.tenantId = conn.tenantId → row = conn := by
      intro row member matched
      rw [rows] at member
      obtain ⟨source, sourceMember, rfl⟩ := List.mem_map.mp member
      have same := markAfter_same uuids intl pulls db connections source
      have isSource := isConn source sourceMember (same.id.trans matched.1)
      rw [isSource, markAfter_absent unmarked]
    obtain ⟨unitsAfter, propertiesAfter⟩ := (pulls conn).sync_inventory uuids conn before
    refine ⟨unitsAfter.trans units, propertiesAfter.trans properties, ?_⟩
    rw [Pull.sync_channelConnection uuids units properties alone, rows, Table.updateWhere,
      List.map_map]
    refine List.map_congr_left fun source member => ?_
    rw [Function.comp_apply]
    have same := markAfter_same uuids intl pulls db connections source
    by_cases isSource : source = conn
    · have unlisted : conn ∉ effectiveFeeds uuids intl pulls connections db := fun member =>
        unmarked ((effectiveFeeds_sublist connections db).subset member)
      rw [isSource, markAfter_absent unmarked, if_pos ⟨rfl, rfl⟩, markAfter, works]
      cases (pulls conn).effective uuids intl conn before with
      | false => simp [unlisted]
      | true => simp
    · have apartFrom : ¬ ((markAfter uuids intl pulls db connections source).id = conn.id ∧
          (markAfter uuids intl pulls db connections source).tenantId = conn.tenantId) :=
        fun matched => isSource (isConn source member (same.id.trans matched.1))
      have listed : source ∈ connections ++ [conn] ↔ source ∈ connections := by
        rw [List.mem_append, List.mem_singleton, or_iff_left isSource]
      have effective : source ∈ effectiveFeeds uuids intl pulls (connections ++ [conn]) db ↔
          source ∈ effectiveFeeds uuids intl pulls connections db := by
        rw [works, List.mem_append]
        refine or_iff_left fun last => ?_
        split at last
        · exact isSource (List.mem_singleton.mp last)
        · cases last
      rw [if_neg apartFrom, markAfter, markAfter]
      simp only [listed, effective]

/-- The number of feeds is fixed before the loop. -/
theorem foldl_syncNext_feeds [PostgresServer] (uuids : UuidSource) (intl : DateTimeFormat)
    (pulls : ChannelConnection → Pull) (connections : List ChannelConnection)
    (start : SyncAllResponse × Db) :
    (connections.foldl (syncNext uuids intl pulls) start).1.feeds = start.1.feeds := by
  induction connections generalizing start with
  | nil => rfl
  | cons conn connections inductionHypothesis =>
    rw [List.foldl_cons, inductionHypothesis, syncNext]
    cases (pulls conn).sync uuids intl conn start.2 with
    | error thrown => rfl
    | ok answer => rfl

/-- In a pass over the feeds a caller sees, a feed that cannot be read or whose transaction aborts
is counted, and touches nobody: the bookings, the conflicts and the counts are those of a pass
over the other feeds alone. Each row is stamped, marked with its own error, or left as it was. Of
the tables only the key of the connections is assumed. -/
theorem sync_all_isolates_failures [PostgresServer] (uuids : UuidSource) (intl : DateTimeFormat)
    (pulls : ChannelConnection → Pull) (tenantId : Uuid) (sees : ChannelConnection → Bool)
    (keyed : (db.channelConnection.map ChannelConnection.id).Nodup) :
    (syncAll uuids intl pulls tenantId sees db).1 =
        { (syncFeeds uuids intl pulls
            (effectiveFeeds uuids intl pulls (findAllVisible tenantId sees db) db) db).1 with
          feeds := (findAllVisible tenantId sees db).length
          errored := (findAllVisible tenantId sees db).length -
            (effectiveFeeds uuids intl pulls (findAllVisible tenantId sees db) db).length } ∧
      (syncAll uuids intl pulls tenantId sees db).2.booking =
        (syncFeeds uuids intl pulls
          (effectiveFeeds uuids intl pulls (findAllVisible tenantId sees db) db) db).2.booking ∧
      (syncAll uuids intl pulls tenantId sees db).2.syncConflict =
        (syncFeeds uuids intl pulls
          (effectiveFeeds uuids intl pulls (findAllVisible tenantId sees db) db)
            db).2.syncConflict ∧
      (syncAll uuids intl pulls tenantId sees db).2.channelConnection =
        db.channelConnection.map
          (markAfter uuids intl pulls db (findAllVisible tenantId sees db)) := by
  have distinct : (findAllVisible tenantId sees db).Nodup :=
    (List.Nodup.of_map _ keyed).sublist List.filter_sublist
  have stored : ∀ conn ∈ findAllVisible tenantId sees db, conn ∈ db.channelConnection :=
    fun conn member => List.mem_of_mem_filter member
  rw [syncAll, syncFeeds, syncFeeds]
  generalize findAllVisible tenantId sees db = feeds at distinct stored ⊢
  have total := foldl_syncNext_feeds uuids intl pulls feeds (⟨feeds.length, 0, 0, 0, 0⟩, db)
  obtain ⟨-, -, rows⟩ := foldl_syncNext_connections uuids intl pulls keyed distinct stored
  obtain ⟨counts, _, -, alike⟩ := foldl_syncNext_alike uuids intl pulls db feeds
    feeds.length (effectiveFeeds uuids intl pulls feeds db).length
  refine ⟨?_, ?_, ?_, ?_⟩
  · rw [counts.eq, total]
  · rw [alike]
    rfl
  · rw [alike]
    rfl
  · rw [foldl_syncNext_database]
    exact rows

end Pass

/-! ### Health after a pass -/

theorem foldl_earlierStamp (stamps : List Instant) :
    (stamps.map some).foldl earlierStamp none = stamps.min? := by
  have later : ∀ (stamps : List Instant) (first : Instant),
      (stamps.map some).foldl earlierStamp (some first) = some (stamps.foldl min first) := by
    intro stamps
    induction stamps with
    | nil => exact fun _ => rfl
    | cons stamp stamps inductionHypothesis =>
      exact fun first => inductionHypothesis (min first stamp)
  cases stamps with
  | nil => rfl
  | cons stamp stamps => exact later stamps stamp

section Health

variable {intl : DateTimeFormat} {pulls : ChannelConnection → Pull} {db : Db} {tenantId : Uuid}
  {sees : ChannelConnection → Bool}

/-- The feeds a caller sees after a pass over them are the ones it marked. -/
theorem findAllVisible_syncAll [PostgresServer] (uuids : UuidSource) (intl : DateTimeFormat)
    (pulls : ChannelConnection → Pull)
    (keyed : (db.channelConnection.map ChannelConnection.id).Nodup)
    (stable : ∀ row other : ChannelConnection, row.Same other → sees row = sees other) :
    findAllVisible tenantId sees (syncAll uuids intl pulls tenantId sees db).2 =
      (findAllVisible tenantId sees db).map
        (markAfter uuids intl pulls db (findAllVisible tenantId sees db)) := by
  have distinct : (findAllVisible tenantId sees db).Nodup :=
    (List.Nodup.of_map _ keyed).sublist List.filter_sublist
  obtain ⟨-, -, rows⟩ := foldl_syncNext_connections uuids intl pulls keyed distinct
    fun conn member => List.mem_of_mem_filter member
  have visible : ∀ row ∈ db.channelConnection,
      (decide ((markAfter uuids intl pulls db (findAllVisible tenantId sees db) row).tenantId =
          tenantId ∧
        sees (markAfter uuids intl pulls db (findAllVisible tenantId sees db) row))) =
      decide (row.tenantId = tenantId ∧ sees row) := by
    intro row _
    have same := markAfter_same uuids intl pulls db (findAllVisible tenantId sees db) row
    rw [← same.tenant, ← stable row _ same]
  rw [syncAll, syncFeeds, foldl_syncNext_database]
  dsimp only
  generalize passDb uuids intl pulls (findAllVisible tenantId sees db) db = after at rows ⊢
  rw [findAllVisible, rows, List.filter_map]
  exact congrArg (List.map _) (List.filter_congr visible)

/-- After a pass in which every feed a caller sees was effective, the calendar says so: no feed is
in error or has never synced, the oldest sync is the oldest of the pass, and none is stale until
ninety minutes after it. What a caller sees rests on the unit and the tenant of a connection, which
no sync changes. -/
theorem health_after_an_effective_pass [PostgresServer] (uuids : UuidSource)
    (keyed : (db.channelConnection.map ChannelConnection.id).Nodup)
    (stable : ∀ row other : ChannelConnection, row.Same other → sees row = sees other)
    (effective : effectiveFeeds uuids intl pulls (findAllVisible tenantId sees db) db =
      findAllVisible tenantId sees db)
    (now : Instant) :
    syncHealth tenantId sees now (syncAll uuids intl pulls tenantId sees db).2 = {
      feeds := (findAllVisible tenantId sees db).length
      erroring := 0
      stale := ((findAllVisible tenantId sees db).filter fun row =>
        (pulls row).now + SYNC_STALE_AFTER_MINUTES * 60000 < now).length
      neverSynced := 0
      oldestSyncedAt := ((findAllVisible tenantId sees db).map fun row =>
        (pulls row).now).min? } := by
  rw [syncHealth, findAllVisible_syncAll uuids intl pulls keyed stable]
  have stamped : (findAllVisible tenantId sees db).map
        (markAfter uuids intl pulls db (findAllVisible tenantId sees db)) =
      (findAllVisible tenantId sees db).map fun row => row.stamp (pulls row).now := by
    refine List.map_congr_left fun row member => ?_
    rw [markAfter, effective, if_pos member]
  rw [stamped]
  generalize findAllVisible tenantId sees db = feeds
  have neverSynced : (aggregateHealth (staleCutoff now)
      (feeds.map fun row => row.stamp (pulls row).now)).neverSynced = 0 := by
    rw [aggregateHealth]
    simp [ChannelConnection.stamp]
  have erroring : ((feeds.map fun row => row.stamp (pulls row).now).filter fun row =>
      row.lastStatus = .error) = [] :=
    List.filter_eq_nil_iff.mpr fun row member => by
      obtain ⟨source, -, rfl⟩ := List.mem_map.mp member
      simp [ChannelConnection.stamp]
  have stale : ∀ row : ChannelConnection,
      (∃ synced ∈ (row.stamp (pulls row).now).lastSyncedAt, synced < staleCutoff now) ↔
        (pulls row).now + SYNC_STALE_AFTER_MINUTES * 60000 < now := by
    intro row
    simp only [ChannelConnection.stamp, Option.mem_def, Option.some.injEq, exists_eq_left',
      staleCutoff]
    exact lt_sub_iff_add_lt
  have oldest : (feeds.map fun row => row.stamp (pulls row).now).map
      ChannelConnection.lastSyncedAt = (feeds.map fun row => (pulls row).now).map some := by
    rw [List.map_map, List.map_map]
    rfl
  rw [neverSynced, if_neg (lt_irrefl 0), aggregateHealth, oldest, foldl_earlierStamp, erroring,
    List.length_map, List.filter_map, List.length_map]
  have staleRows : (feeds.filter ((fun row : ChannelConnection =>
        decide (∃ synced ∈ row.lastSyncedAt, synced < staleCutoff now)) ∘
      fun row => row.stamp (pulls row).now)) = feeds.filter fun row =>
        (pulls row).now + SYNC_STALE_AFTER_MINUTES * 60000 < now :=
    List.filter_congr fun row _ => decide_eq_decide.mpr (stale row)
  rw [staleRows]
  rfl

end Health

/-! ### The villa -/

attribute [local instance] PostgresServer.uncompressed

/-- The villa with the guest's hold, on two channels. -/
def villaTwoFeeds : Db :=
  { villaHeld with
    channelConnection := [villaConnection,
      { villaConnection with
        id := 31, channel := .bookingCom, importIcalUrl := "https://b/c.ics" }] }

/-- The host of Airbnb does not answer; Booking.com sells the nights the guest holds. -/
def villaPulls : ChannelConnection → Pull := fun conn =>
  if conn.channel = .airbnb then ⟨⟨false, none, some "Feed is unreachable"⟩, noFaults, 5⟩
  else ⟨fetchedBody doubleSoldFeed, noFaults, 7⟩

/-- Both hosts answer, Booking.com a little later. -/
def villaAnswers : ChannelConnection → Pull := fun conn =>
  ⟨fetchedBody doubleSoldFeed, noFaults, if conn.channel = .airbnb then 5 else 7⟩

/-- The feed that fails is counted, the other one is synced, and the guest's hold stands. -/
theorem sync_all_isolates_failures_villa :
    (syncAll .counting indonesianFormat villaPulls 1 (fun _ => true) villaTwoFeeds).1 =
        ⟨2, 1, 0, 0, 1⟩ ∧
      (syncAll .counting indonesianFormat villaPulls 1 (fun _ => true) villaTwoFeeds).2.booking =
        [villaHold] := by
  obtain ⟨counts, bookings, -, -⟩ := sync_all_isolates_failures .counting indonesianFormat
    villaPulls 1 (fun _ => true) (by decide : (villaTwoFeeds.channelConnection.map
      ChannelConnection.id).Nodup)
  rw [counts, bookings]
  exact ⟨by decide +kernel, by decide +kernel⟩

theorem health_after_an_effective_pass_villa :
    syncHealth 1 (fun _ => true) 8
        (syncAll .counting indonesianFormat villaAnswers 1 (fun _ => true) villaTwoFeeds).2 =
      ⟨2, 0, 0, 0, some 5⟩ :=
  health_after_an_effective_pass .counting (by decide) (fun _ _ _ => rfl) (by decide +kernel) 8

end Sambung
