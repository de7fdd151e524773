/-
This file states the inbox of sync conflicts as a state machine and proves it
sound over every history.

Three writers act on a row: a sync that files or detects again, the closing of
healed conflicts at the end of that sync, and the owner's dismissal of
`sync-conflicts.repository.ts`. Anything else that commits leaves the table alone.
`resolved` is a measurement and may be taken back by a later one; `dismissed` is a
judgement and stays.

`SyncConflict.Moves` is what one event may do to one conflict, and names the
measurement that allows each change of status: a reopening needs a refusal of its
UID, a closing needs every occurrence of it to have landed or a feed with events
that lacks it. It is proved first of the loop, then of the whole sync, then of
each event; the history follows by composing what lasts. That the table stays well
formed is a separate invariant, by the same steps.
-/

import Sambung.Reconciliation

namespace Sambung

/-! ### Dismissal -/

inductive DismissOutcome where
  | closed (status : SyncConflictStatus) (closedAt : Option Instant)
  | notFound
  deriving DecidableEq, Repr

/-- The rows the guarded update of `dismiss` matches. -/
abbrev SyncConflict.Dismissable (tenantId id : Uuid) (row : SyncConflict) : Prop :=
  row.id = id ∧ row.tenantId = tenantId ∧ row.status = .opened

/-- `SET status = 'dismissed', closed_at`. -/
def SyncConflict.dismiss (now : Instant) (row : SyncConflict) : SyncConflict :=
  { row with status := .dismissed, closedAt := some now }

/-- Dismisses an open conflict of the tenant; where none matches, a second read tells an unknown
id from a conflict that is closed already. -/
def dismiss (tenantId id : Uuid) (now : Instant) (db : Db) : DismissOutcome × Db :=
  if ∃ row ∈ db.syncConflict, row.Dismissable tenantId id then
    (.closed .dismissed (some now), { db with
      syncConflict := Table.updateWhere (SyncConflict.Dismissable tenantId id)
        (SyncConflict.dismiss now) db.syncConflict })
  else
    match db.syncConflict.find? fun row => row.id = id ∧ row.tenantId = tenantId with
    | some existing => (.closed existing.status existing.closedAt, db)
    | none => (.notFound, db)

theorem dismiss_syncConflict (tenantId id : Uuid) (now : Instant) (db : Db) :
    (dismiss tenantId id now db).2.syncConflict =
      Table.updateWhere (SyncConflict.Dismissable tenantId id) (SyncConflict.dismiss now)
        db.syncConflict := by
  unfold dismiss
  split
  · rfl
  · rename_i unmatched
    rw [Table.updateWhere_eq_self fun row member matched => unmatched ⟨row, member, matched⟩]
    split
    · rfl
    · rfl

/-! ### Histories -/

/-- What commits in a history of the inbox. -/
inductive InboxEvent where
  | sync (conn : ChannelConnection) (feed : Except String (List ImportedEvent))
      (faults : Nat → EventFault) (now : Instant)
  | dismissal (tenantId id : Uuid) (now : Instant)
  | elsewhere (after : Db)

/-- The database an event leaves. A write elsewhere may leave any rows in the other tables. -/
def InboxEvent.run [PostgresServer] (uuids : UuidSource) : InboxEvent → Db → Db
  | .sync conn feed faults now, db => (settleFeed uuids conn feed faults now db).database db
  | .dismissal tenantId id now, db => (dismiss tenantId id now db).2
  | .elsewhere after, db => { after with syncConflict := db.syncConflict }

/-- The database a history leaves. -/
def runInbox [PostgresServer] (uuids : UuidSource) (history : List InboxEvent) (start : Db) : Db :=
  Runs.final (InboxEvent.run uuids) history start

/-- The inbox is well formed: one row per connection and UID, closed at an instant exactly where
it is not open. -/
structure Db.InboxSound (db : Db) : Prop where
  keyed : (db.syncConflict.map SyncConflict.id).Nodup
  single : db.syncConflict.Pairwise fun first second =>
    ¬ (first.channelConnectionId = second.channelConnectionId ∧
      first.externalUid = second.externalUid)
  closed : ∀ row ∈ db.syncConflict, row.closedAt = none ↔ row.status = .opened

theorem Db.inboxSound_of_empty {db : Db} (empty : db.syncConflict = []) : db.InboxSound where
  keyed := by rw [empty]; exact List.nodup_nil
  single := by rw [empty]; exact List.Pairwise.nil
  closed row member := by rw [empty] at member; cases member

/-- The same inbox, whatever the other tables hold. -/
theorem Db.InboxSound.congr {db after : Db} (sound : db.InboxSound)
    (same : after.syncConflict = db.syncConflict) : after.InboxSound where
  keyed := by rw [same]; exact sound.keyed
  single := by rw [same]; exact sound.single
  closed := by rw [same]; exact sound.closed

/-- A guarded update that sets neither the id nor the two columns of the unique constraint. -/
theorem Db.InboxSound.updateWhere {db after : Db} {condition : SyncConflict → Prop}
    [DecidablePred condition] {change : SyncConflict → SyncConflict} (sound : db.InboxSound)
    (stored : after.syncConflict = Table.updateWhere condition change db.syncConflict)
    (keyed : ∀ row, (change row).id = row.id ∧
      (change row).channelConnectionId = row.channelConnectionId ∧
      (change row).externalUid = row.externalUid)
    (closed : ∀ row, condition row → (row.closedAt = none ↔ row.status = .opened) →
      ((change row).closedAt = none ↔ (change row).status = .opened)) : after.InboxSound where
  keyed := by
    rw [stored, Table.map_updateWhere SyncConflict.id fun row _ => (keyed row).1]
    exact sound.keyed
  single := by
    rw [stored]
    refine Table.pairwise_updateWhere sound.single fun first second apart => ?_
    have connection : ∀ row : SyncConflict,
        (if condition row then change row else row).channelConnectionId =
          row.channelConnectionId := by
      intro row
      split
      · exact (keyed row).2.1
      · rfl
    have uid : ∀ row : SyncConflict,
        (if condition row then change row else row).externalUid = row.externalUid := by
      intro row
      split
      · exact (keyed row).2.2
      · rfl
    rw [connection, connection, uid, uid]
    exact apart
  closed := by
    rw [stored]
    exact Table.forall_updateWhere sound.closed fun row _ => closed row

/-- Every conflict of the connection is in its unit and its tenant. -/
def Db.ConflictsOwned (conn : ChannelConnection) (db : Db) : Prop :=
  ∀ row ∈ db.syncConflict, row.channelConnectionId = conn.id →
    row.unitId = conn.unitId ∧ row.tenantId = conn.tenantId

section Sync

variable {uuids : UuidSource} {conn : ChannelConnection} {faults : Nat → EventFault}
  {now : Instant} {db : Db} {events : List ImportedEvent} {event : ImportedEvent}

/-! ### What a sync measured -/

/-- Every occurrence of the UID in the feed landed in this sync. -/
def AllLanded [PostgresServer] (uuids : UuidSource) (conn : ChannelConnection)
    (events : List ImportedEvent) (faults : Nat → EventFault) (now : Instant) (db : Db)
    (uid : String) : Prop :=
  ∀ before event later, events = before ++ event :: later → event.uid = uid →
    ∃ stored, nextUpsert uuids conn faults now db before event = .ok stored

/-- Some occurrence of the UID was refused by `booking_no_overlap` in this sync. -/
def RefusedIn [PostgresServer] (uuids : UuidSource) (conn : ChannelConnection)
    (events : List ImportedEvent) (faults : Nat → EventFault) (now : Instant) (db : Db)
    (uid : String) : Prop :=
  ∃ before event later error, events = before ++ event :: later ∧ event.uid = uid ∧
    nextUpsert uuids conn faults now db before event = .error error ∧
    error.constraint = some .bookingNoOverlap

theorem RefusedIn.concat [PostgresServer] {uid : String} (last : ImportedEvent)
    (refused : RefusedIn uuids conn events faults now db uid) :
    RefusedIn uuids conn (events ++ [last]) faults now db uid := by
  obtain ⟨before, event, later, error, rfl, sameUid, failed⟩ := refused
  exact ⟨before, event, later ++ [last], error, by simp, sameUid, failed⟩

/-- A UID that is not among the refused ones landed at each of its occurrences. -/
theorem allLanded_of_imported [PostgresServer] {uid : String}
    (imported : uid ∉ (importAll uuids conn events faults now db).notImportedUids) :
    AllLanded uuids conn events faults now db uid := by
  induction events using List.reverseRecOn with
  | nil =>
    intro before event later split
    exact absurd split.symm (by simp)
  | append_singleton events last inductionHypothesis =>
    rw [importAll_concat] at imported
    intro before event later split sameUid
    cases importEvent_step uuids conn now last (faults events.length)
        (importAll uuids conn events faults now db) with
    | landed tried kept =>
      rw [kept] at imported
      rcases Runs.split_concat split with ⟨rfl, rfl, -⟩ | ⟨rest, rfl, -⟩
      · exact ⟨_, tried⟩
      · exact inductionHypothesis imported before event rest rfl sameUid
    | refused error tried filing added =>
      rw [added, List.mem_append, List.mem_singleton, not_or] at imported
      rcases Runs.split_concat split with ⟨rfl, rfl, -⟩ | ⟨rest, rfl, -⟩
      · exact absurd sameUid.symm imported.2
      · exact inductionHypothesis imported.1 before event rest rfl sameUid

/-! ### The loop on the inbox -/

/-- An event changes the inbox only by the filing of an overlap. -/
theorem importEvent_inbox [PostgresServer] (uuids : UuidSource) (conn : ChannelConnection)
    (now : Instant) (event : ImportedEvent) (fault : EventFault) (before : SyncProgress) :
    (importEvent uuids conn now fault before event).db.syncConflict = before.db.syncConflict ∨
      ∃ error, tryUpsert uuids conn event fault before.db = .error error ∧
        error.constraint = some .bookingNoOverlap ∧
        (importEvent uuids conn now fault before event).db =
          recordConflict uuids conn event now fault.record before.db := by
  unfold importEvent
  cases tried : tryUpsert uuids conn event fault before.db with
  | ok stored =>
    obtain ⟨-, checkIn, checkOut, -, landed⟩ := tryUpsert_ok tried
    exact Or.inl landed.syncConflict
  | error error =>
    dsimp only
    split
    · rename_i overlap
      exact Or.inr ⟨error, rfl, overlap, rfl⟩
    · exact Or.inl rfl

theorem recordConflict_inboxSound (uuids : UuidSource) (conn : ChannelConnection)
    (event : ImportedEvent) (now : Instant) (faulted : Bool) (sound : db.InboxSound) :
    (recordConflict uuids conn event now faulted db).InboxSound := by
  unfold recordConflict
  split
  · exact sound
  · cases bindStay event.start event.stop with
    | error error => exact sound
    | ok stay =>
      dsimp only
      split
      · exact sound
      · split
        · refine sound.updateWhere rfl (fun row => ⟨rfl, rfl, rfl⟩) fun row _ closed => ?_
          by_cases resolved : row.status = .resolved
          · simp [SyncConflict.redetect, resolved]
          · simpa [SyncConflict.redetect, resolved] using closed
        · rename_i absent
          split
          · refine ⟨Table.nodup_map_append sound.keyed (uuids.fresh _), ?_, fun row member => ?_⟩
            · refine List.pairwise_append.mpr ⟨sound.single, List.pairwise_singleton _ _, ?_⟩
              intro first member second same
              rw [List.mem_singleton.mp same]
              exact fun filed => absent ⟨first, member, filed⟩
            · rcases List.mem_append.mp member with earlier | last
              · exact sound.closed row earlier
              · rw [List.mem_singleton.mp last]
                exact ⟨fun _ => rfl, fun _ => rfl⟩
          · exact sound

theorem importAll_inboxSound [PostgresServer] (sound : db.InboxSound) :
    (importAll uuids conn events faults now db).db.InboxSound := by
  induction events using List.reverseRecOn with
  | nil => exact sound
  | append_singleton events event inductionHypothesis =>
    rw [importAll_concat]
    rcases importEvent_inbox uuids conn now event (faults events.length)
        (importAll uuids conn events faults now db) with same | ⟨error, -, -, recorded⟩
    · exact inductionHypothesis.congr same
    · rw [recorded]
      exact recordConflict_inboxSound _ _ _ _ _ inductionHypothesis

/-- What the loop may do to a conflict: nothing, a new detection, or the reopening of a resolved
conflict of the connection whose UID was refused. -/
structure SyncConflict.Redetected (conn : ChannelConnection) (refused : String → Prop)
    (row later : SyncConflict) : Prop where
  connection : later.channelConnectionId = row.channelConnectionId
  uid : later.externalUid = row.externalUid
  firstDetected : later.firstDetectedAt = row.firstDetectedAt
  state : later.status = row.status ∨
    (row.status = .resolved ∧ later.status = .opened ∧ row.channelConnectionId = conn.id ∧
      refused row.externalUid)

section Redetected

variable {refused : String → Prop}

theorem SyncConflict.Redetected.refl (row : SyncConflict) : row.Redetected conn refused row :=
  ⟨rfl, rfl, rfl, Or.inl rfl⟩

theorem SyncConflict.Redetected.trans {a b c : SyncConflict} (first : a.Redetected conn refused b)
    (second : b.Redetected conn refused c) : a.Redetected conn refused c where
  connection := second.connection.trans first.connection
  uid := second.uid.trans first.uid
  firstDetected := second.firstDetected.trans first.firstDetected
  state := by
    rcases second.state with same | ⟨resolved, opened, ofConnection, ofUid⟩
    · rw [same]
      exact first.state
    · rcases first.state with same | ⟨-, openedBefore, -, -⟩
      · rw [first.connection] at ofConnection
        rw [first.uid] at ofUid
        exact Or.inr ⟨same.symm.trans resolved, opened, ofConnection, ofUid⟩
      · rw [openedBefore] at resolved
        cases resolved

theorem SyncConflict.Redetected.mono {wider : String → Prop}
    (inside : ∀ uid, refused uid → wider uid) {row later : SyncConflict}
    (redetected : row.Redetected conn refused later) :
    row.Redetected conn wider later :=
  { redetected with
    state := redetected.state.imp_right fun ⟨resolved, opened, ofConnection, ofUid⟩ =>
      ⟨resolved, opened, ofConnection, inside _ ofUid⟩ }

/-- A filing of a refused event adds a row, detects one again, or reopens one that was resolved,
always under the event's UID. -/
theorem Filing.redetects {after : Db} (filing : Filing conn event now db after)
    (ofEvent : refused event.uid) :
    Table.Evolves SyncConflict.id (SyncConflict.Redetected conn refused) (fun _ => True)
      db.syncConflict after.syncConflict := by
  cases filing with
  | nothing same =>
    rw [same]
    exact Table.Evolves.refl SyncConflict.Redetected.refl db.syncConflict
  | redetected checkIn checkOut stored =>
    have keyed : ∀ row : SyncConflict, row.FiledAs conn.id event.uid →
        (row.redetect checkIn checkOut now).id = row.id := fun _ _ => rfl
    have moves : ∀ row : SyncConflict, row.FiledAs conn.id event.uid →
        row.Redetected conn refused (row.redetect checkIn checkOut now) := by
      intro row filed
      refine ⟨rfl, rfl, rfl, ?_⟩
      by_cases resolved : row.status = .resolved
      · refine Or.inr ⟨resolved, if_pos resolved, filed.1, ?_⟩
        rw [filed.2]
        exact ofEvent
      · exact Or.inl (if_neg resolved)
    rw [stored]
    exact Table.Evolves.updateWhere keyed SyncConflict.Redetected.refl moves db.syncConflict
  | filed checkIn checkOut id fresh stored =>
    rw [stored]
    exact Table.Evolves.append SyncConflict.Redetected.refl trivial db.syncConflict

end Redetected

/-- The loop reopens a conflict only where its UID was refused. -/
theorem importAll_redetects [PostgresServer] (uuids : UuidSource) (conn : ChannelConnection)
    (events : List ImportedEvent) (faults : Nat → EventFault) (now : Instant) (db : Db) :
    Table.Evolves SyncConflict.id
      (SyncConflict.Redetected conn (RefusedIn uuids conn events faults now db)) (fun _ => True)
      db.syncConflict (importAll uuids conn events faults now db).db.syncConflict := by
  induction events using List.reverseRecOn with
  | nil => exact Table.Evolves.refl SyncConflict.Redetected.refl db.syncConflict
  | append_singleton events event inductionHypothesis =>
    have earlier := inductionHypothesis.mono
      (fun _ _ => SyncConflict.Redetected.mono fun _ => RefusedIn.concat event) fun _ => id
    rw [importAll_concat]
    rcases importEvent_inbox uuids conn now event (faults events.length)
        (importAll uuids conn events faults now db) with same | ⟨error, tried, overlap, recorded⟩
    · rw [same]
      exact earlier
    · have refused : RefusedIn uuids conn (events ++ [event]) faults now db event.uid :=
        ⟨events, event, [], error, rfl, rfl, tried, overlap⟩
      rw [recorded]
      exact earlier.trans (fun _ _ _ => SyncConflict.Redetected.trans) (fun _ _ _ _ => trivial)
        ((recordConflict_filing uuids conn event now _ _).redetects refused)

/-! ### One event of a history -/

theorem settleFeed_inboxSound [PostgresServer] (feed : Except String (List ImportedEvent))
    (sound : db.InboxSound) :
    ((settleFeed uuids conn feed faults now db).database db).InboxSound := by
  match feed with
  | .error error => exact sound.congr rfl
  | .ok events =>
    show ((reconcileFeed uuids conn events faults now db).database db).InboxSound
    rw [reconcileFeed_database]
    split
    · by_cases nonempty : events = []
      · subst nonempty
        exact sound.congr rfl
      · refine (importAll_inboxSound sound).updateWhere (reconciled_syncConflict nonempty)
          (fun row => ⟨rfl, rfl, rfl⟩) fun row _ _ => ?_
        simp [SyncConflict.resolve]
    · exact sound

theorem InboxEvent.run_inboxSound [PostgresServer] (uuids : UuidSource) (event : InboxEvent)
    (sound : db.InboxSound) : (event.run uuids db).InboxSound := by
  cases event with
  | sync conn feed faults now => exact settleFeed_inboxSound feed sound
  | dismissal tenantId id now =>
    refine sound.updateWhere (dismiss_syncConflict tenantId id now db)
      (fun row => ⟨rfl, rfl, rfl⟩) fun row _ _ => ?_
    simp [SyncConflict.dismiss]
  | elsewhere after => exact sound.congr rfl

/-- What one event may do to a conflict, with the measurement or the judgement behind each change of
its status. -/
structure SyncConflict.Moves [PostgresServer] (uuids : UuidSource) (event : InboxEvent) (db : Db)
    (row later : SyncConflict) : Prop where
  firstDetected : later.firstDetectedAt = row.firstDetectedAt
  dismissed : row.status = .dismissed → later.status = .dismissed
  resolved : row.status = .opened → later.status = .resolved →
    ∃ conn events faults now, event = .sync conn (.ok events) faults now ∧
      row.channelConnectionId = conn.id ∧
      ((row.externalUid ∈ events.map ImportedEvent.uid ∧
          AllLanded uuids conn events faults now db row.externalUid) ∨
        (events ≠ [] ∧ row.externalUid ∉ events.map ImportedEvent.uid))
  reopened : row.status = .resolved → later.status = .opened →
    ∃ conn events faults now, event = .sync conn (.ok events) faults now ∧
      row.channelConnectionId = conn.id ∧
      RefusedIn uuids conn events faults now db row.externalUid

theorem SyncConflict.Moves.refl [PostgresServer] (uuids : UuidSource) (event : InboxEvent) (db : Db)
    (row : SyncConflict) : row.Moves uuids event db row where
  firstDetected := rfl
  dismissed same := same
  resolved opened resolved := by rw [opened] at resolved; cases resolved
  reopened resolved opened := by rw [opened] at resolved; cases resolved

/-- A healthy sync moves a conflict by its loop, then closes it where it healed. -/
theorem reconciled_moves [PostgresServer] (nonempty : events ≠ []) {id : Uuid} {row : SyncConflict}
    (found : db.syncConflictById id = some row) :
    ∃ later, (reconciled uuids conn events faults now db).syncConflictById id = some later ∧
      row.Moves uuids (.sync conn (.ok events) faults now) db later := by
  obtain ⟨middle, foundMiddle, redetected⟩ :=
    (importAll_redetects uuids conn events faults now db).kept id row found
  have looked : (importAll uuids conn events faults now db).db.syncConflictById id =
      some middle := foundMiddle
  have left : (reconciled uuids conn events faults now db).syncConflictById id =
      some (if middle.Healed conn (importAll uuids conn events faults now db).notImportedUids then
        middle.resolve now else middle) := by
    rw [reconciled_syncConflictById nonempty, looked, Option.map_some]
  refine ⟨_, left, ?_⟩
  by_cases healed :
      middle.Healed conn (importAll uuids conn events faults now db).notImportedUids
  · rw [if_pos healed]
    obtain ⟨ofConnection, -, openedMiddle, imported⟩ := healed
    rw [redetected.connection] at ofConnection
    rw [redetected.uid] at imported
    refine ⟨redetected.firstDetected, fun dismissed => ?_, fun _ _ => ?_, fun _ opened => ?_⟩
    · rcases redetected.state with same | ⟨resolved, -⟩
      · rw [same, dismissed] at openedMiddle
        cases openedMiddle
      · rw [dismissed] at resolved
        cases resolved
    · refine ⟨conn, events, faults, now, rfl, ofConnection, ?_⟩
      by_cases offered : row.externalUid ∈ events.map ImportedEvent.uid
      · exact Or.inl ⟨offered, allLanded_of_imported imported⟩
      · exact Or.inr ⟨nonempty, offered⟩
    · cases opened
  · rw [if_neg healed]
    refine ⟨redetected.firstDetected, fun dismissed => ?_, fun opened resolved => ?_,
      fun resolved opened => ?_⟩
    · rcases redetected.state with same | ⟨resolved, -⟩
      · exact same.trans dismissed
      · rw [dismissed] at resolved
        cases resolved
    · rcases redetected.state with same | ⟨resolvedBefore, -⟩
      · rw [same, opened] at resolved
        cases resolved
      · rw [opened] at resolvedBefore
        cases resolvedBefore
    · rcases redetected.state with same | ⟨-, -, ofConnection, refused⟩
      · rw [same, resolved] at opened
        cases opened
      · exact ⟨conn, events, faults, now, rfl, ofConnection, refused⟩

/-- No event removes a conflict, and each moves it as `Moves` allows. -/
theorem InboxEvent.run_moves [PostgresServer] (uuids : UuidSource) (event : InboxEvent) {id : Uuid}
    {row : SyncConflict} (found : db.syncConflictById id = some row) :
    ∃ later, (event.run uuids db).syncConflictById id = some later ∧
      row.Moves uuids event db later := by
  cases event with
  | sync conn feed faults now =>
    match feed with
    | .error error => exact ⟨row, found, .refl uuids _ db row⟩
    | .ok events =>
      have left : (InboxEvent.sync conn (.ok events) faults now).run uuids db =
          if Bindable uuids conn events faults db then reconciled uuids conn events faults now db
          else db :=
        reconcileFeed_database uuids conn events faults now db
      rw [left]
      by_cases bindable : Bindable uuids conn events faults db
      · rw [if_pos bindable]
        by_cases nonempty : events = []
        · subst nonempty
          exact ⟨row, found, .refl uuids _ db row⟩
        · exact reconciled_moves nonempty found
      · rw [if_neg bindable]
        exact ⟨row, found, .refl uuids _ db row⟩
  | dismissal tenantId id' now =>
    have keyed : ∀ row : SyncConflict, row.Dismissable tenantId id' →
        (row.dismiss now).id = row.id := fun _ _ => rfl
    refine ⟨if row.Dismissable tenantId id' then row.dismiss now else row, ?_, ?_⟩
    · show Table.byKey SyncConflict.id id (dismiss tenantId id' now db).2.syncConflict = _
      rw [dismiss_syncConflict, Table.byKey_updateWhere keyed]
      exact congrArg (Option.map _) found
    · by_cases matched : row.Dismissable tenantId id'
      · rw [if_pos matched]
        exact ⟨rfl, fun _ => rfl, fun _ resolved => (nomatch resolved),
          fun _ opened => (nomatch opened)⟩
      · rw [if_neg matched]
        exact .refl uuids _ db row
  | elsewhere after => exact ⟨row, found, .refl uuids _ db row⟩

end Sync

/-! ### Whole histories -/

theorem runInbox_append [PostgresServer] (uuids : UuidSource) (before later : List InboxEvent)
    (start : Db) :
    runInbox uuids (before ++ later) start =
      runInbox uuids later (runInbox uuids before start) :=
  Runs.final_append before later

theorem runInbox_inboxSound [PostgresServer] (uuids : UuidSource) (history : List InboxEvent)
    {start : Db} (sound : start.InboxSound) : (runInbox uuids history start).InboxSound :=
  Runs.final_induction sound (fun _ event before => event.run_inboxSound uuids before) history

/-- What a conflict keeps through any history. -/
structure SyncConflict.Lasts (row later : SyncConflict) : Prop where
  firstDetected : later.firstDetectedAt = row.firstDetectedAt
  dismissed : row.status = .dismissed → later.status = .dismissed

theorem runInbox_lasts [PostgresServer] (uuids : UuidSource) (history : List InboxEvent) {db : Db}
    {id : Uuid} {row : SyncConflict} (found : db.syncConflictById id = some row) :
    ∃ later, (runInbox uuids history db).syncConflictById id = some later ∧ row.Lasts later := by
  induction history generalizing db row with
  | nil => exact ⟨row, found, rfl, fun dismissed => dismissed⟩
  | cons event history inductionHypothesis =>
    obtain ⟨next, foundNext, moves⟩ := event.run_moves uuids found
    obtain ⟨later, foundLater, lasts⟩ := inductionHypothesis foundNext
    refine ⟨later, foundLater, lasts.firstDetected.trans moves.firstDetected, fun dismissed => ?_⟩
    exact lasts.dismissed (moves.dismissed dismissed)

/-- Over every history of syncs and dismissals the inbox stays well formed, no event moves a
conflict in a way its status does not allow, and what a conflict keeps lasts. The history is any
list of syncs, healthy or not and with any faults, of dismissals, and of other commits, which leave
the table alone; at the start the rows tell their UIDs apart and are judged and stamped as their
status says. -/
theorem inbox_is_a_sound_state_machine [PostgresServer] (uuids : UuidSource)
    (history : List InboxEvent) (start : Db) (sound : start.InboxSound) :
    (runInbox uuids history start).InboxSound ∧
    (∀ before event later, history = before ++ event :: later → ∀ id row,
      (runInbox uuids before start).syncConflictById id = some row →
      ∃ next, (runInbox uuids (before ++ [event]) start).syncConflictById id = some next ∧
        row.Moves uuids event (runInbox uuids before start) next) ∧
    ∀ before later, history = before ++ later → ∀ id row,
      (runInbox uuids before start).syncConflictById id = some row →
      ∃ last, (runInbox uuids history start).syncConflictById id = some last ∧
        row.Lasts last := by
  refine ⟨runInbox_inboxSound uuids history sound, ?_, ?_⟩
  · intro before event later _ id row found
    rw [runInbox_append]
    exact event.run_moves uuids found
  · rintro before later rfl id row found
    rw [runInbox_append]
    exact runInbox_lasts uuids later found

/-- The villa's feed sells the held nights twice; the owner dismisses the conflict; the feed sells
them again. -/
def villaDoubleSale : List InboxEvent :=
  let feed : List ImportedEvent := [⟨"uid-1", "2026-08-01".toList, "2026-08-03".toList⟩]
  [.sync villaConnection (.ok feed) noFaults 1, .dismissal 1 1 2,
    .sync villaConnection (.ok feed) noFaults 3]

attribute [local instance] PostgresServer.uncompressed in
/-- The second sale finds the judgement standing. -/
theorem villa_dismissal_stands :
    (runInbox .counting villaDoubleSale villaHeld).InboxSound ∧
      (runInbox .counting villaDoubleSale villaHeld).syncConflict.map
        (fun row => (row.status, row.firstDetectedAt, row.lastSeenAt, row.closedAt)) =
          [(.dismissed, 1, 3, some 2)] :=
  ⟨(inbox_is_a_sound_state_machine .counting villaDoubleSale villaHeld
    (Db.inboxSound_of_empty rfl)).1, by decide⟩

end Sambung
