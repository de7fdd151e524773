/-
This file proves which rows a sync withdraws.

A sync takes a UID for withdrawn when it is not among the events that survived
parsing. The body may still carry it: in a VEVENT with a bad date, without a
start, or with an empty range, or in one whose nested component names a UID first.
Such a UID costs its booking and closes its conflict, so the sync withdraws only
what the body lacks exactly where no such row stands behind a UID of this kind.

What a body carries is read off its unfolded lines without the parser: a UID line
that stands in a VEVENT itself, behind any number of components that were opened
and closed in it, other VEVENTs among them. The theorem compares that reading with
the events, and holds of every body; a sync with no events and one whose lists
cannot be bound withdraw nothing, and are cases of the condition.
-/

import Sambung.Reconciliation

namespace Sambung

/-! ### The UIDs a body carries -/

/-- How deep a line leaves a reader who stood in nested components, `none` once the component the
count began in is closed itself. -/
def nestingStep (depth : Option Nat) (line : Text) : Option Nat :=
  match splitLine line with
  | some parsed =>
    if parsed.name = "BEGIN".toList then depth.map (· + 1)
    else if parsed.name = "END".toList then depth.bind Nat.ppred
    else depth
  | none => depth

/-- How deep in nested components a run of lines ends, `none` where it leaves the component it
began in. -/
def nestingAfter (lines : List Text) : Option Nat := lines.foldl nestingStep (some 0)

/-- Some VEVENT of the body, readable or not, has this UID property: the line stands in the VEVENT
itself, which is not closed before it, and in none of the components nested in it, VEVENTs among
them, that were opened and closed on the way. -/
def CarriesUid (body : Text) (uid : String) : Prop :=
  ∃ before opening inside line later opened parsed,
    unfold body = before ++ opening :: inside ++ line :: later ∧
    splitLine opening = some opened ∧ opened.beginsVevent ∧
    nestingAfter inside = some 0 ∧
    splitLine line = some parsed ∧ parsed.name = "UID".toList ∧
    String.ofList (trim parsed.value) = uid

/-! ### What a sync withdraws -/

/-- The sync's read of a healthy body. -/
structure HealthyRead (intl : DateTimeFormat) (conn : ChannelConnection) (body : Text) (db : Db)
    (events : List ImportedEvent) : Prop where
  parses : ∃ timeZone foreign, resolveTimeZone conn db = some timeZone ∧
    parseCalendar intl body timeZone = .ok events foreign

/-- No booking the sync cancelled, and no conflict it resolved without its UID having landed,
has a UID the body carries. -/
structure WithdrawsOnlyAbsent [PostgresServer] (uuids : UuidSource) (conn : ChannelConnection)
    (body : Text) (events : List ImportedEvent) (faults : Nat → EventFault) (now : Instant)
    (db after : Db) :
    Prop where
  bookings : ∀ id row later, db.bookingById id = some row → after.bookingById id = some later →
    row.channelConnectionId = some conn.id → row.status ≠ .cancelled →
    later.status = .cancelled → ∀ uid ∈ row.externalUid, ¬ CarriesUid body uid
  conflicts : ∀ id row later, db.syncConflictById id = some row →
    after.syncConflictById id = some later → row.channelConnectionId = conn.id →
    row.status = .opened → later.status = .resolved →
    ¬ LandedIn uuids conn events faults now db row.externalUid →
    ¬ CarriesUid body row.externalUid

/-- No confirmed booking and no open conflict of the connection has this UID. -/
structure Unclaimed (conn : ChannelConnection) (db : Db) (uid : String) : Prop where
  bookings : ∀ id row, db.bookingById id = some row → row.channelConnectionId = some conn.id →
    row.tenantId = conn.tenantId → row.status = .confirmed → row.externalUid ≠ some uid
  conflicts : ∀ id row, db.syncConflictById id = some row → row.channelConnectionId = conn.id →
    row.tenantId = conn.tenantId → row.status = .opened → row.externalUid ≠ uid

section Withdrawal

variable {uuids : UuidSource} {intl : DateTimeFormat} {conn : ChannelConnection} {body : Text}
  {faults : Nat → EventFault} {now : Instant} {db : Db} {events : List ImportedEvent}

theorem HealthyRead.readFeed (read : HealthyRead intl conn body db events) :
    readFeed intl conn (fetchedBody body) db = .ok events := by
  obtain ⟨timeZone, foreign, zone, parsed⟩ := read.parses
  simp only [Sambung.readFeed, fetchedBody, zone, parsed]

/-- A sync of a healthy body leaves the reconciled database, or aborts. -/
theorem HealthyRead.database [PostgresServer] (read : HealthyRead intl conn body db events) :
    (syncConnection uuids intl conn (fetchedBody body) faults now db).database db =
      if Bindable uuids conn events faults db then reconciled uuids conn events faults now db
      else db :=
  syncConnection_healthy read.readFeed faults now

/-- A feed without events touches neither bookings nor conflicts. -/
theorem reconciled_nil [PostgresServer] :
    (reconciled uuids conn [] faults now db).booking = db.booking ∧
      (reconciled uuids conn [] faults now db).syncConflict = db.syncConflict :=
  ⟨rfl, rfl⟩

/-- What a sync with events cancels: confirmed imports whose UID is not among them. A moved row has
the UID of an event, so it is not absent. -/
theorem reconciled_cancels [PostgresServer] (nonempty : events ≠ []) {id : Uuid}
    {row later : Booking} (found : db.bookingById id = some row)
    (foundLater : (reconciled uuids conn events faults now db).bookingById id = some later)
    (standing : row.status ≠ .cancelled) (cancelled : later.status = .cancelled) :
    row.AbsentFrom conn (events.map ImportedEvent.uid) := by
  obtain ⟨imported, foundImported, reimported⟩ :=
    (importAll_bookings uuids conn events faults now db).kept id row found
  rw [reconciled_bookingById nonempty, Db.bookingById, foundImported, Option.map_some,
    Option.some.injEq] at foundLater
  by_cases absent : imported.AbsentFrom conn (events.map ImportedEvent.uid)
  · obtain ⟨uid, uidMember, uidAbsent⟩ := absent.2.2.2
    rcases reimported.moved with same | ⟨-, event, member, ofEvent⟩
    · exact same ▸ absent
    · rw [reimported.uid, ofEvent.2, Option.mem_some_iff] at uidMember
      exact absurd (uidMember ▸ List.mem_map_of_mem member) uidAbsent
  · rw [if_neg absent] at foundLater
    rcases reimported.moved with same | ⟨confirmed, -⟩
    · rw [← foundLater, same] at cancelled
      exact absurd cancelled standing
    · rw [← foundLater, confirmed] at cancelled
      cases cancelled

/-- A confirmed import whose UID is not among the events is cancelled. -/
theorem reconciled_cancels_absent [PostgresServer] (nonempty : events ≠ []) {id : Uuid}
    {row : Booking} (found : db.bookingById id = some row)
    (absent : row.AbsentFrom conn (events.map ImportedEvent.uid)) :
    (reconciled uuids conn events faults now db).bookingById id =
      some (row.setStatus .cancelled) := by
  obtain ⟨imported, foundImported, reimported⟩ :=
    (importAll_bookings uuids conn events faults now db).kept id row found
  have same : imported = row := by
    refine reimported.moved.resolve_right ?_
    rintro ⟨-, event, member, ofEvent⟩
    obtain ⟨uid, uidMember, uidAbsent⟩ := absent.2.2.2
    rw [ofEvent.2, Option.mem_some_iff] at uidMember
    exact uidAbsent (uidMember ▸ List.mem_map_of_mem member)
  rw [reconciled_bookingById nonempty, Db.bookingById, foundImported, Option.map_some, same,
    if_pos absent]

/-- What a sync with events resolves without its UID having landed: open conflicts whose UID is
not among the events. -/
theorem reconciled_resolves [PostgresServer] (nonempty : events ≠ []) {id : Uuid}
    {row later : SyncConflict} (found : db.syncConflictById id = some row)
    (foundLater : (reconciled uuids conn events faults now db).syncConflictById id = some later)
    (opened : row.status = .opened) (resolved : later.status = .resolved)
    (unlanded : ¬ LandedIn uuids conn events faults now db row.externalUid) :
    row.tenantId = conn.tenantId ∧ row.externalUid ∉ events.map ImportedEvent.uid := by
  obtain ⟨filed, foundFiled, refiled⟩ :=
    (importAll_conflicts uuids conn events faults now db).kept id row found
  rw [reconciled_syncConflictById nonempty, Db.syncConflictById, foundFiled, Option.map_some,
    Option.some.injEq] at foundLater
  by_cases healed : filed.Healed conn
      (importAll uuids conn events faults now db).notImportedUids
  · refine ⟨refiled.tenant ▸ healed.2.1, fun offered => ?_⟩
    obtain ⟨event, member, sameUid⟩ := List.mem_map.mp offered
    rw [← sameUid] at unlanded
    refine unlanded (landedIn_of_imported member ?_)
    rw [sameUid, ← refiled.uid]
    exact healed.2.2.2
  · rw [if_neg healed] at foundLater
    have still := refiled.opened opened
    rw [foundLater, resolved] at still
    cases still

/-- An open conflict whose UID is not among the events is resolved. -/
theorem reconciled_resolves_absent [PostgresServer] (nonempty : events ≠ []) {id : Uuid}
    {row : SyncConflict} (found : db.syncConflictById id = some row)
    (connection : row.channelConnectionId = conn.id) (tenant : row.tenantId = conn.tenantId)
    (opened : row.status = .opened) (absent : row.externalUid ∉ events.map ImportedEvent.uid) :
    (reconciled uuids conn events faults now db).syncConflictById id = some (row.resolve now) := by
  obtain ⟨filed, foundFiled, refiled⟩ :=
    (importAll_conflicts uuids conn events faults now db).kept id row found
  have same : filed = row := by
    refine refiled.moved.resolve_right ?_
    rintro ⟨event, member, ofEvent⟩
    exact absent (ofEvent.2 ▸ List.mem_map_of_mem member)
  have healed : row.Healed conn (importAll uuids conn events faults now db).notImportedUids :=
    ⟨connection, tenant, opened, fun refused =>
      absent (notImportedUids_subset uuids conn events faults now db refused)⟩
  rw [reconciled_syncConflictById nonempty, Db.syncConflictById, foundFiled, Option.map_some, same,
    if_pos healed]

/-! ### When a sync withdraws only what the body lacks -/

/-- A sync of a healthy body withdraws only what the body lacks exactly where it has no events,
or where its lists of UIDs cannot be bound and the transaction aborts, or where nothing confirmed
or open stands behind a UID that the body carries and no event has. The read is one the parser
reports healthy; state, faults and clock are any. -/
theorem withdraws_only_absent_iff [PostgresServer] (read : HealthyRead intl conn body db events) :
    WithdrawsOnlyAbsent uuids conn body events faults now db
        ((syncConnection uuids intl conn (fetchedBody body) faults now db).database db) ↔
      events = [] ∨ ¬ Bindable uuids conn events faults db ∨
        ∀ uid, CarriesUid body uid →
          uid ∉ events.map ImportedEvent.uid → Unclaimed conn db uid := by
  have unchanged : ∀ after : Db, after.booking = db.booking →
      after.syncConflict = db.syncConflict →
      WithdrawsOnlyAbsent uuids conn body events faults now db after := by
    intro after booking conflict
    refine ⟨fun id row later found foundLater _ standing cancelled => ?_,
      fun id row later found foundLater _ opened resolved => ?_⟩
    · rw [Db.bookingById, booking] at foundLater
      cases Option.some.inj (found.symm.trans foundLater)
      exact absurd cancelled standing
    · rw [Db.syncConflictById, conflict] at foundLater
      cases Option.some.inj (found.symm.trans foundLater)
      rw [opened] at resolved
      cases resolved
  rw [read.database]
  by_cases bindable : Bindable uuids conn events faults db
  · rw [if_pos bindable]
    by_cases nonempty : events = []
    · subst nonempty
      exact iff_of_true (unchanged _ reconciled_nil.1 reconciled_nil.2) (Or.inl rfl)
    · rw [or_iff_right nonempty, or_iff_right (not_not.mpr bindable)]
      constructor
      · intro withdraws uid carried absent
        refine ⟨fun id row found connection tenant confirmed ofUid => ?_,
          fun id row found connection tenant opened ofUid => ?_⟩
        · have absentRow : row.AbsentFrom conn (events.map ImportedEvent.uid) :=
            ⟨connection, tenant, confirmed, uid, ofUid, absent⟩
          exact withdraws.bookings id row _ found
            (reconciled_cancels_absent nonempty found absentRow)
            connection (by rw [confirmed]; decide) rfl uid ofUid carried
        · rw [← ofUid] at absent carried
          exact withdraws.conflicts id row _ found
            (reconciled_resolves_absent nonempty found connection tenant opened absent) connection
            opened rfl (fun landed => absent landed.mem) carried
      · intro unclaimed
        refine ⟨
          fun id row later found foundLater connection standing cancelled uid ofUid carried => ?_,
          fun id row later found foundLater connection opened resolved unlanded carried => ?_⟩
        · obtain ⟨-, tenant, confirmed, other, ofOther, absent⟩ :=
            reconciled_cancels nonempty found foundLater standing cancelled
          cases Option.some.inj (ofUid.symm.trans ofOther)
          exact (unclaimed uid carried absent).bookings id row found connection tenant confirmed
            ofUid
        · obtain ⟨tenant, absent⟩ :=
            reconciled_resolves nonempty found foundLater opened resolved unlanded
          exact (unclaimed row.externalUid carried absent).conflicts id row found connection tenant
            opened rfl
  · rw [if_neg bindable]
    exact iff_of_true (unchanged db rfl rfl) (Or.inr (Or.inl bindable))

end Withdrawal

/-! ### A stay with an unreadable end -/

/-- The villa's feed after its first stay's end became unreadable. -/
def unreadableFeed : Text :=
  crlfLines ["BEGIN:VCALENDAR", "BEGIN:VEVENT", "UID:stay", "DTSTART:20260801", "DTEND:TBA",
    "END:VEVENT", "BEGIN:VEVENT", "UID:other", "DTSTART:20260901", "DTEND:20260903", "END:VEVENT",
    "END:VCALENDAR"]

/-- The villa with the stay its first sync imported. -/
def villaImported : Db :=
  { villa with booking := [importedRow villaConnection "stay" 20666 20668 1] }

/-- The one event the parser lifts from it. -/
def unreadableEvents : List ImportedEvent :=
  [{ uid := "other", start := "2026-09-01".toList, stop := "2026-09-03".toList }]

theorem unreadableFeed_read {db : Db} (property : db.property = villa.property)
    (unit : db.unit = villa.unit) :
    HealthyRead indonesianFormat villaConnection unreadableFeed db unreadableEvents := by
  refine ⟨"Asia/Makassar", [], ?_, by decide +kernel⟩
  unfold resolveTimeZone
  rw [property, unit]
  decide +kernel

attribute [local instance] PostgresServer.uncompressed in
/-- Where no booking stands behind the unreadable stay, the sync withdraws nothing it carries. -/
theorem withdraws_only_absent_iff_villa :
    WithdrawsOnlyAbsent .counting villaConnection unreadableFeed unreadableEvents noFaults 1000
      villa ((syncConnection .counting indonesianFormat villaConnection
        (fetchedBody unreadableFeed) noFaults 1000 villa).database villa) := by
  refine (withdraws_only_absent_iff (unreadableFeed_read rfl rfl)).mpr (Or.inr (Or.inr ?_))
  intro uid _ _
  exact ⟨(fun id row found => nomatch found), fun id row found => nomatch found⟩

attribute [local instance] PostgresServer.uncompressed in
/-- The stay's end becomes unreadable; the next sync cancels its booking. -/
theorem unreadable_stay_withdrawn :
    CarriesUid unreadableFeed "stay" ∧ villaImported.bookingStatus 1 = some .confirmed ∧
      ((syncConnection .counting indonesianFormat villaConnection (fetchedBody unreadableFeed)
        noFaults 1000 villaImported).database villaImported).bookingStatus 1 = some .cancelled ∧
      ¬ WithdrawsOnlyAbsent .counting villaConnection unreadableFeed unreadableEvents noFaults 1000
        villaImported ((syncConnection .counting indonesianFormat villaConnection
          (fetchedBody unreadableFeed) noFaults 1000 villaImported).database villaImported) := by
  have carried : CarriesUid unreadableFeed "stay" := by
    refine ⟨["BEGIN:VCALENDAR".toList], "BEGIN:VEVENT".toList, [], "UID:stay".toList,
      ["DTSTART:20260801", "DTEND:TBA", "END:VEVENT", "BEGIN:VEVENT", "UID:other",
        "DTSTART:20260901", "DTEND:20260903", "END:VEVENT", "END:VCALENDAR", ""].map String.toList,
      { name := "BEGIN".toList, tzid := none, value := "VEVENT".toList },
      { name := "UID".toList, tzid := none, value := "stay".toList },
      by decide +kernel, by decide +kernel, by decide +kernel, rfl, by decide +kernel, rfl,
      by decide +kernel⟩
  have before : villaImported.bookingById 1 =
      some (importedRow villaConnection "stay" 20666 20668 1) := rfl
  have after : ((syncConnection .counting indonesianFormat villaConnection
      (fetchedBody unreadableFeed) noFaults 1000 villaImported).database
        villaImported).bookingById 1 =
          some ((importedRow villaConnection "stay" 20666 20668 1).setStatus .cancelled) := by
    decide +kernel
  refine ⟨carried, rfl, by rw [Db.bookingStatus, after]; rfl, fun withdraws => ?_⟩
  exact withdraws.bookings 1 _ _ before after rfl (by decide) rfl "stay" rfl carried

end Sambung
