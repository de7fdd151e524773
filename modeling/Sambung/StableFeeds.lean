/-
This file proves when a feed that stays the same converges.

A sync takes the events of the feed one after another, each against the stays as
they stand, and cancels what is absent afterwards. Read by UID, a connection's
occupied stays move into the stays of the feed, so a sync is a round of the theory
of relocation. Where no imports wait for each other in a ring, every later sync
lands one more event at least, and the one after as many syncs as there are events
lands all; a ring never moves. A feed of more UIDs than a statement has parameters
aborts every sync, so it has converged before or never does.

`Underway` is the state between two syncs of the feed, and `Underway.rounds` the
simulation. That the order of the events makes no difference in the end follows
from what a converged state determines, not from comparing two runs.
-/

import Sambung.Foundation.Relocation
import Sambung.LawfulSyncs

namespace Sambung

open Relocation (Deadlocked)

/-! ### A feed that stays the same -/

/-- Successive syncs of one body, by their instants. -/
def syncs [PostgresServer] (uuids : UuidSource) (intl : DateTimeFormat) (conn : ChannelConnection)
    (fetched : IcalFetchResult) (nows : List Instant) (db : Db) : Db :=
  nows.foldl (fun db now =>
    (syncConnection uuids intl conn fetched noFaults now db).database db) db

abbrev StaysMeet (first second : PgDate × PgDate) : Prop :=
  daterangesOverlap first.1 first.2 second.1 second.2

/-- A feed with an event at least, under distinct UIDs and with stays apart from each other and
from every stay of the unit that the connection did not import. -/
structure StableFeed (conn : ChannelConnection) (events : List ImportedEvent) (db : Db) : Prop where
  filled : events ≠ []
  distinct : (events.map ImportedEvent.uid).Nodup
  apart : ∀ first ∈ events, ∀ second ∈ events, first.uid ≠ second.uid → ∀ stay another,
    bindStay first.start first.stop = .ok stay → bindStay second.start second.stop = .ok another →
      ¬ StaysMeet stay another
  free : ∀ row ∈ db.booking, row.channelConnectionId ≠ some conn.id → row.unitId = conn.unitId →
    row.status.Occupying → ∀ event ∈ events, ∀ stay,
      bindStay event.start event.stop = .ok stay → ¬ StaysMeet (row.checkIn, row.checkOut) stay

/-- A registered connection over lawful tables, whose UIDs are stored texts. -/
structure Syncable [PostgresServer] (conn : ChannelConnection) (db : Db) : Prop where
  lawful : db.BookingsLawful
  registered : conn.Registered db
  stored : ∀ row ∈ db.booking, ∀ uid ∈ row.externalUid, pgText uid

/-- Each event has its booking, and nothing else of the connection occupies or is open: what there
is to reach for a feed that stays the same. -/
structure Converged (conn : ChannelConnection) (events : List ImportedEvent) (db : Db) : Prop where
  booked : ∀ event ∈ events, ∃ row ∈ db.booking, row.Mirrors conn event ∧
    ∀ other ∈ db.booking, other.ImportedAs conn.id event.uid → other = row
  others : ∀ row ∈ db.booking, row.channelConnectionId = some conn.id → row.status.Occupying →
    ∃ event ∈ events, row.externalUid = some event.uid
  inbox : ∀ row ∈ db.syncConflict, row.channelConnectionId = conn.id → row.status ≠ .opened

/-- What a connection has imported: each UID with its stay and status. -/
def Db.imports (conn : ChannelConnection) (db : Db) :
    Set (String × PgDate × PgDate × BookingStatus) :=
  {entry | ∃ row ∈ db.booking, row.ImportedAs conn.id entry.1 ∧ row.checkIn = entry.2.1 ∧
    row.checkOut = entry.2.2.1 ∧ row.status = entry.2.2.2}

/-- The syncs converge, and as they would on any other order of the events. -/
structure Converges [PostgresServer] (uuids : UuidSource) (intl : DateTimeFormat)
    (conn : ChannelConnection) (fetched : IcalFetchResult) (events : List ImportedEvent)
    (nows : List Instant) (db : Db) :
    Prop where
  converged : Converged conn events (syncs uuids intl conn fetched nows db)
  everyOrder : ∀ refetched reordered instants,
    readFeed intl conn refetched db = .ok reordered → reordered.Perm events →
      events.length + 1 ≤ instants.length →
        (syncs uuids intl conn refetched instants db).imports conn =
          (syncs uuids intl conn fetched nows db).imports conn

/-! ### Stays by UID -/

/-- The stay a UID has in the feed. -/
def feedStay (events : List ImportedEvent) (uid : String) : PgDate × PgDate :=
  match events.find? fun event => event.uid = uid with
  | some event => ((bindStay event.start event.stop).toOption).getD (0, 0)
  | none => (0, 0)

/-- The stay the connection's import of a UID occupies. -/
def Db.occupiedUnder (conn : ChannelConnection) (db : Db) (uid : String) :
    Option (PgDate × PgDate) :=
  (db.booking.find? fun row => row.ImportedAs conn.id uid ∧ row.status.Occupying).map fun row =>
    (row.checkIn, row.checkOut)

/-- Some imports of the feed's UIDs occupy other stays than their events have and wait for each
other: the new stay of each meets the old one of another. -/
def StaysDeadlocked (conn : ChannelConnection) (events : List ImportedEvent) (db : Db) : Prop :=
  Deadlocked StaysMeet (feedStay events) (events.map ImportedEvent.uid) (db.occupiedUnder conn)

/-- The event's booking can be stored: its UID is a text that fits the unique index, and its stay
can be bound. -/
structure ImportedEvent.Bookable [PostgresServer] (event : ImportedEvent) : Prop where
  bound : ∃ checkIn checkOut, event.Bound checkIn checkOut
  entered : uidIndexRefusal event.uid = none

/-- The statements behind the loop have room for the UIDs: the cancellation binds four values beside
the feed's UIDs, the closing of conflicts five beside those that were refused. Of a feed of exactly
one UID too many for the second, some event has to find its nights free. -/
structure Room (conn : ChannelConnection) (events : List ImportedEvent) (db : Db) : Prop where
  present : 4 + events.length ≤ MAX_PARAMETERS
  refused : 5 + events.length ≤ MAX_PARAMETERS ∨
    ∃ uid ∈ events.map ImportedEvent.uid,
      ¬ Relocation.Blocked StaysMeet (feedStay events) (db.occupiedUnder conn) uid

/-- Every event can be stored, no imports wait for each other, and the statements of a sync have
room for the UIDs, unless nothing is left to be done. -/
structure Attainable [PostgresServer] (conn : ChannelConnection) (events : List ImportedEvent)
    (db : Db) : Prop where
  bookable : ∀ event ∈ events, event.Bookable
  free : ¬ StaysDeadlocked conn events db
  room : Room conn events db ∨ Converged conn events db

theorem staysMeet_symm {first second : PgDate × PgDate} (meet : StaysMeet first second) :
    StaysMeet second first :=
  (daterangesOverlap_comm _ _ _ _).mp meet

section Feed

variable {uuids : UuidSource} {intl : DateTimeFormat} {conn : ChannelConnection}
  {fetched : IcalFetchResult} {now : Instant} {db : Db} {events : List ImportedEvent}
  {event : ImportedEvent}

theorem find?_uid (distinct : (events.map ImportedEvent.uid).Nodup) (member : event ∈ events) :
    events.find? (fun other => other.uid = event.uid) = some event := by
  cases found : events.find? fun other => other.uid = event.uid with
  | none => exact absurd (decide_eq_true rfl) (List.find?_eq_none.mp found event member)
  | some other =>
    have sameUid : other.uid = event.uid := by simpa using List.find?_some found
    rw [Table.eq_of_key distinct (List.mem_of_find?_eq_some found) member sameUid]

theorem feedStay_of_mem (distinct : (events.map ImportedEvent.uid).Nodup)
    (member : event ∈ events) {stay : PgDate × PgDate}
    (bound : bindStay event.start event.stop = .ok stay) : feedStay events event.uid = stay := by
  rw [feedStay, find?_uid distinct member]
  dsimp only
  rw [bound]
  rfl

/-- The stays of a feed do not depend on the order of its events. -/
theorem feedStay_perm {reordered : List ImportedEvent} (perm : reordered.Perm events)
    (distinct : (events.map ImportedEvent.uid).Nodup) : feedStay reordered = feedStay events := by
  have same : ∀ uid, reordered.find? (fun event => event.uid = uid) =
      events.find? fun event => event.uid = uid := by
    intro uid
    cases found : events.find? fun event => event.uid = uid with
    | none =>
      rw [List.find?_eq_none] at found ⊢
      exact fun event member => found event (perm.mem_iff.mp member)
    | some event =>
      have sameUid : event.uid = uid := by simpa using List.find?_some found
      rw [← sameUid]
      exact find?_uid ((perm.map _).nodup_iff.mpr distinct)
        (perm.mem_iff.mpr (List.mem_of_find?_eq_some found))
  funext uid
  rw [feedStay, feedStay, same]

theorem occupiedUnder_eq_some [PostgresServer] (lawful : db.BookingsLawful) {uid : String}
    {stay : PgDate × PgDate} :
    db.occupiedUnder conn uid = some stay ↔
      ∃ row ∈ db.booking, row.ImportedAs conn.id uid ∧ row.status.Occupying ∧
        (row.checkIn, row.checkOut) = stay := by
  rw [Db.occupiedUnder, Option.map_eq_some_iff]
  constructor
  · rintro ⟨row, found, rfl⟩
    obtain ⟨imported, occupying⟩ : row.ImportedAs conn.id uid ∧ row.status.Occupying := by
      simpa using List.find?_some found
    exact ⟨row, List.mem_of_find?_eq_some found, imported, occupying, rfl⟩
  · rintro ⟨row, member, imported, occupying, rfl⟩
    cases found : db.booking.find? fun row =>
        row.ImportedAs conn.id uid ∧ row.status.Occupying with
    | none =>
      exact absurd (decide_eq_true ⟨imported, occupying⟩) (List.find?_eq_none.mp found row member)
    | some other =>
      have isOther : other.ImportedAs conn.id uid ∧ other.status.Occupying := by
        simpa using List.find?_some found
      rw [lawful.sameImport (List.mem_of_find?_eq_some found) member isOther.1 imported]
      exact ⟨row, rfl, rfl⟩

/-- Whoever has the same rows under a UID has the same stay under it. -/
theorem occupiedUnder_congr [PostgresServer] {after : Db} (lawful : db.BookingsLawful)
    (lawfulAfter : after.BookingsLawful) {uid : String}
    (same : ∀ row : Booking, row.ImportedAs conn.id uid →
      (row ∈ after.booking ↔ row ∈ db.booking)) :
    after.occupiedUnder conn uid = db.occupiedUnder conn uid := by
  refine Option.ext fun stay => ?_
  rw [occupiedUnder_eq_some lawful, occupiedUnder_eq_some lawfulAfter]
  constructor
  · rintro ⟨row, member, imported, rest⟩
    exact ⟨row, (same row imported).mp member, imported, rest⟩
  · rintro ⟨row, member, imported, rest⟩
    exact ⟨row, (same row imported).mpr member, imported, rest⟩

/-! ### One event -/

/-- The constraint refuses an event exactly if another import is in its way. -/
theorem blocked_iff [PostgresServer] (lawful : db.BookingsLawful) (registered : conn.Registered db)
    (stable : StableFeed conn events db) (member : event ∈ events) {stay : PgDate × PgDate}
    (bound : bindStay event.start event.stop = .ok stay) :
    Blocked conn event.uid stay.1 stay.2 db ↔
      Relocation.Blocked StaysMeet (feedStay events) (db.occupiedUnder conn) event.uid := by
  rw [Relocation.Blocked, feedStay_of_mem stable.distinct member bound]
  constructor
  · rintro ⟨row, rowMember, foreign, ofUnit, occupying, meets⟩
    by_cases linked : row.channelConnectionId = some conn.id
    · obtain ⟨uid, ofUid⟩ := (registered.imports row rowMember linked).uid
      refine ⟨uid, ?_, (row.checkIn, row.checkOut), ?_, meets⟩
      · rintro rfl
        exact foreign ⟨linked, ofUid⟩
      · exact (occupiedUnder_eq_some lawful).mpr ⟨row, rowMember, ⟨linked, ofUid⟩, occupying, rfl⟩
    · exact absurd meets (stable.free row rowMember linked ofUnit occupying event member stay bound)
  · rintro ⟨uid, differs, place, holds, meets⟩
    obtain ⟨row, rowMember, imported, occupying, rfl⟩ := (occupiedUnder_eq_some lawful).mp holds
    refine ⟨row, rowMember, fun own => differs ?_,
      (registered.imports row rowMember imported.1).unit, occupying, meets⟩
    exact Option.some.inj (imported.2.symm.trans own.2)

/-- A landing takes its UID to the event's stay and leaves the others. -/
theorem Landed.occupiedUnder [PostgresServer] {checkIn checkOut : PgDate} {after : Db}
    (lawful : db.BookingsLawful) (landed : Landed conn event checkIn checkOut db after)
    (bound : bindStay event.start event.stop = .ok (checkIn, checkOut)) :
    after.occupiedUnder conn =
      Function.update (db.occupiedUnder conn) event.uid (some (checkIn, checkOut)) := by
  have lawfulAfter := landed.lawful lawful
  funext uid
  by_cases same : uid = event.uid
  · rw [same, Function.update_self, occupiedUnder_eq_some lawfulAfter]
    have mirrored := landed.mirrored bound
    obtain ⟨row, member, imported⟩ := mirrored.present
    obtain ⟨source, isEvent, mirrors⟩ := mirrored.mirrors row member imported
    rw [List.mem_singleton.mp isEvent] at mirrors
    refine ⟨row, member, imported, ?_, ?_⟩
    · rw [mirrors.confirmed, BookingStatus.occupying_iff]
      exact .inr rfl
    · exact Except.ok.inj (mirrors.stay.symm.trans bound)
  · rw [Function.update_of_ne same]
    exact occupiedUnder_congr lawful lawfulAfter fun row imported => landed.others same imported

/-! ### The loop -/

theorem StableFeed.congr {after : Db} (stable : StableFeed conn events db)
    (same : ∀ row : Booking, row.channelConnectionId ≠ some conn.id →
      (row ∈ after.booking ↔ row ∈ db.booking)) : StableFeed conn events after where
  filled := stable.filled
  distinct := stable.distinct
  apart := stable.apart
  free row member unlinked := stable.free row ((same row unlinked).mp member) unlinked

/-- The targets of the feed do not meet. -/
theorem StableFeed.targetsApart [PostgresServer] (stable : StableFeed conn events db)
    (bookable : ∀ event ∈ events, event.Bookable) :
    Relocation.Apart StaysMeet (feedStay events) (events.map ImportedEvent.uid) := by
  intro first firstMember second secondMember differ
  obtain ⟨one, oneMember, rfl⟩ := List.mem_map.mp firstMember
  obtain ⟨other, otherMember, rfl⟩ := List.mem_map.mp secondMember
  obtain ⟨checkIn, checkOut, oneBound⟩ := (bookable one oneMember).bound
  obtain ⟨otherIn, otherOut, otherBound⟩ := (bookable other otherMember).bound
  rw [feedStay_of_mem stable.distinct oneMember oneBound.stay,
    feedStay_of_mem stable.distinct otherMember otherBound.stay]
  exact stable.apart one oneMember other otherMember differ _ _ oneBound.stay otherBound.stay

/-- The stays a lawful table occupies do not meet. -/
theorem occupiedUnder_exclusive [PostgresServer] (lawful : db.BookingsLawful)
    (registered : conn.Registered db) :
    Relocation.Exclusive StaysMeet (db.occupiedUnder conn) := by
  intro first second differ place another holds holdsToo meet
  obtain ⟨row, member, imported, occupying, rfl⟩ := (occupiedUnder_eq_some lawful).mp holds
  obtain ⟨other, otherMember, otherImported, otherOccupying, rfl⟩ :=
    (occupiedUnder_eq_some lawful).mp holdsToo
  have differs : row.id ≠ other.id := fun same => by
    rw [Table.eq_of_key lawful.keyed member otherMember same] at imported
    exact differ (Option.some.inj (imported.2.symm.trans otherImported.2))
  refine (lawful.apart row member other otherMember differs).stay
    ⟨?_, occupying, otherOccupying, meet⟩
  exact (registered.imports row member imported.1).unit.trans
    (registered.imports other otherMember otherImported.1).unit.symm

/-- What one event of the feed does: it settles, or is blocked and changes no booking. -/
theorem importEvent_settles [PostgresServer] (lawful : db.BookingsLawful)
    (registered : conn.Registered db) (stable : StableFeed conn events db) (member : event ∈ events)
    (bookable : event.Bookable) (progress : SyncProgress) (sameDb : progress.db = db) :
    (importEvent uuids conn now .none progress event).db.occupiedUnder conn =
        Relocation.settle StaysMeet (feedStay events) (db.occupiedUnder conn) event.uid ∧
      (¬ Relocation.Blocked StaysMeet (feedStay events) (db.occupiedUnder conn) event.uid →
        (importEvent uuids conn now .none progress event).notImportedUids =
          progress.notImportedUids) := by
  obtain ⟨⟨checkIn, checkOut, storable⟩, entered⟩ := bookable
  have sameBlocks := blocked_iff lawful registered stable member storable.stay
  have tried : tryUpsert uuids conn event .none progress.db = upsertEvent uuids conn event db := by
    rw [sameDb]
    rfl
  rw [importEvent, tried]
  obtain ⟨blocked, refused⟩ | ⟨unblocked, after, landed⟩ :=
    upsertEvent_blocked uuids lawful registered storable entered
  · rw [refused, Relocation.settle_blocked (sameBlocks.mp blocked)]
    refine ⟨?_, fun free => absurd (sameBlocks.mp blocked) free⟩
    funext uid
    dsimp only [PgError.violation]
    rw [if_pos rfl, Db.occupiedUnder, Db.occupiedUnder,
      (recordConflict_filing uuids conn event now _ progress.db).booking, sameDb]
  · rw [landed, Relocation.settle_free fun blocked => unblocked (sameBlocks.mpr blocked),
      feedStay_of_mem stable.distinct member storable.stay]
    obtain ⟨-, first, last, stay, arrival⟩ := upsertEvent_ok landed
    obtain ⟨rfl, rfl⟩ := Prod.mk.inj (Except.ok.inj (stay.symm.trans storable.stay))
    exact ⟨arrival.occupiedUnder lawful stay, fun _ => rfl⟩

theorem importAll_stable [PostgresServer] (stable : StableFeed conn events db)
    (earlier : List ImportedEvent) :
    StableFeed conn events (importAll uuids conn earlier noFaults now db).db :=
  stable.congr fun _ unlinked => importAll_unlinked earlier unlinked

/-- The events of a feed take their turns: read by UID, the loop over some of them is the turns of
their parties. -/
theorem importAll_turns [PostgresServer] (lawful : db.BookingsLawful)
    (registered : conn.Registered db) (stable : StableFeed conn events db)
    (bookable : ∀ event ∈ events, event.Bookable)
    {earlier : List ImportedEvent} (inside : ∀ event ∈ earlier, event ∈ events) :
    (importAll uuids conn earlier noFaults now db).db.occupiedUnder conn =
      Relocation.turns StaysMeet (feedStay events) (earlier.map ImportedEvent.uid)
        (db.occupiedUnder conn) := by
  induction earlier using List.reverseRecOn with
  | nil => rfl
  | append_singleton earlier event inductionHypothesis =>
    have before : ∀ other ∈ earlier, other ∈ events := fun other member =>
      inside other (List.mem_append_left _ member)
    have member : event ∈ events := inside event (List.mem_append_right _ List.mem_cons_self)
    rw [importAll_concat, List.map_append, List.map_singleton, Relocation.turns_concat,
      ← inductionHypothesis before]
    exact (importEvent_settles (importAll_lawful uuids conn earlier noFaults now lawful)
      (importAll_registered registered earlier) (importAll_stable stable earlier) member
      (bookable event member) _ rfl).1

/-- Where no event is blocked when the sync begins, all land. -/
theorem importAll_lands [PostgresServer] (lawful : db.BookingsLawful)
    (registered : conn.Registered db) (stable : StableFeed conn events db)
    (bookable : ∀ event ∈ events, event.Bookable)
    (free : ∀ uid ∈ events.map ImportedEvent.uid,
      ¬ Relocation.Blocked StaysMeet (feedStay events) (db.occupiedUnder conn) uid)
    {earlier : List ImportedEvent} (inside : ∀ event ∈ earlier, event ∈ events) :
    (importAll uuids conn earlier noFaults now db).notImportedUids = [] := by
  induction earlier using List.reverseRecOn with
  | nil => rfl
  | append_singleton earlier event inductionHypothesis =>
    have before : ∀ other ∈ earlier, other ∈ events := fun other member =>
      inside other (List.mem_append_left _ member)
    have member : event ∈ events := inside event (List.mem_append_right _ List.mem_cons_self)
    have offered : event.uid ∈ events.map ImportedEvent.uid := List.mem_map_of_mem member
    rw [importAll_concat, ← inductionHypothesis before]
    refine (importEvent_settles (importAll_lawful uuids conn earlier noFaults now lawful)
      (importAll_registered registered earlier) (importAll_stable stable earlier) member
      (bookable event member) _ rfl).2 fun blocked => free event.uid offered ?_
    rw [importAll_turns lawful registered stable bookable before] at blocked
    refine Relocation.blocked_of_turns (stable.targetsApart bookable) (fun uid isEarlier => ?_)
      offered blocked
    obtain ⟨other, isOther, rfl⟩ := List.mem_map.mp isEarlier
    exact List.mem_map_of_mem (before other isOther)

/-! ### One sync -/

theorem reconciled_stable [PostgresServer] (stable : StableFeed conn events db) :
    StableFeed conn events (reconciled uuids conn events noFaults now db) :=
  stable.congr fun _ unlinked => (reconciled_unlinked stable.filled unlinked).trans
    (importAll_unlinked events unlinked)

/-- A sync is a round: the events take their turns, and absent UIDs let go. -/
theorem reconciled_round [PostgresServer] (lawful : db.BookingsLawful)
    (registered : conn.Registered db) (stable : StableFeed conn events db)
    (bookable : ∀ event ∈ events, event.Bookable) :
    (reconciled uuids conn events noFaults now db).occupiedUnder conn =
      Relocation.round StaysMeet (feedStay events) (events.map ImportedEvent.uid)
        (db.occupiedUnder conn) := by
  have lawfulLoop := importAll_lawful uuids conn events noFaults now lawful
  have lawfulAfter := reconciled_lawful uuids conn events noFaults now lawful
  funext uid
  rw [Relocation.round]
  by_cases offered : uid ∈ events.map ImportedEvent.uid
  · rw [if_pos offered, ← importAll_turns lawful registered stable bookable fun _ => id]
    exact occupiedUnder_congr lawfulLoop lawfulAfter fun row imported =>
      reconciled_keeps stable.filled offered imported
  · rw [if_neg offered, Option.eq_none_iff_forall_ne_some]
    intro stay holds
    obtain ⟨row, member, imported, occupying, -⟩ := (occupiedUnder_eq_some lawfulAfter).mp holds
    rw [reconciled_withdraws stable.filled registered.imports member imported.1 imported.2
      offered] at occupying
    exact BookingStatus.not_occupying_cancelled occupying

/-- A sync that begins with no event blocked leaves the feed converged. -/
theorem reconciled_converged [PostgresServer] (lawful : db.BookingsLawful)
    (registered : conn.Registered db) (stable : StableFeed conn events db)
    (bookable : ∀ event ∈ events, event.Bookable)
    (free : ∀ uid ∈ events.map ImportedEvent.uid,
      ¬ Relocation.Blocked StaysMeet (feedStay events) (db.occupiedUnder conn) uid) :
    Converged conn events (reconciled uuids conn events noFaults now db) := by
  have lawfulAfter := reconciled_lawful uuids conn events noFaults now lawful
  have landed : (importAll uuids conn events noFaults now db).notImportedUids = [] :=
    importAll_lands lawful registered stable bookable free fun _ => id
  refine ⟨fun event member => ?_, fun row member linked occupying => ?_,
    fun row member linked opened => ?_⟩
  · have imports : event.uid ∉ (importAll uuids conn events noFaults now db).notImportedUids := by
      rw [landed]
      exact List.not_mem_nil
    have mirrored := reconciled_mirrored member imports
    obtain ⟨row, rowMember, imported⟩ := mirrored.present
    obtain ⟨source, sourceMember, mirrors⟩ := mirrored.mirrors row rowMember imported
    have sameUid : source.uid = event.uid :=
      Option.some.inj (mirrors.imported.2.symm.trans imported.2)
    rw [Table.eq_of_key stable.distinct sourceMember member sameUid] at mirrors
    exact ⟨row, rowMember, mirrors, fun other otherMember isOther =>
      lawfulAfter.sameImport otherMember rowMember isOther imported⟩
  · have own := (reconciled_importsOwned registered.imports) row member linked
    obtain ⟨uid, ofUid⟩ := own.uid
    by_contra absent
    have unoffered : uid ∉ events.map ImportedEvent.uid := fun offered => by
      obtain ⟨event, isEvent, rfl⟩ := List.mem_map.mp offered
      exact absent ⟨event, isEvent, ofUid⟩
    rw [reconciled_withdraws stable.filled registered.imports member linked ofUid
      unoffered] at occupying
    exact BookingStatus.not_occupying_cancelled occupying
  · rw [reconciled_syncConflict stable.filled, landed] at member
    obtain ⟨source, sourceMember, rfl⟩ := Table.mem_updateWhere.mp member
    by_cases healed : source.Healed conn []
    · rw [if_pos healed] at opened
      cases opened
    · rw [if_neg healed] at linked opened
      have owned := (importAll_conflictFrame uuids noFaults now events registered.conflicts).1
      exact healed ⟨linked, (owned source sourceMember linked).2, opened, List.not_mem_nil⟩

/-! ### Successive syncs -/

/-- The state between two syncs of the feed. -/
structure Underway [PostgresServer] (intl : DateTimeFormat) (conn : ChannelConnection)
    (fetched : IcalFetchResult) (events : List ImportedEvent) (db : Db) : Prop where
  lawful : db.BookingsLawful
  registered : conn.Registered db
  stable : StableFeed conn events db
  read : readFeed intl conn fetched db = .ok events

theorem syncs_concat [PostgresServer] (nows : List Instant) (now : Instant) :
    syncs uuids intl conn fetched (nows ++ [now]) db =
      (syncConnection uuids intl conn fetched noFaults now
        (syncs uuids intl conn fetched nows db)).database
          (syncs uuids intl conn fetched nows db) := by
  rw [syncs, List.foldl_append]
  rfl

theorem Underway.reconciled [PostgresServer] (underway : Underway intl conn fetched events db) :
    Underway intl conn fetched events (reconciled uuids conn events noFaults now db) where
  lawful := reconciled_lawful uuids conn events noFaults now underway.lawful
  registered := reconciled_registered underway.registered
  stable := reconciled_stable underway.stable
  read := by
    obtain ⟨bookings, rows, same⟩ := reconciled_tables uuids conn noFaults now db events
    rw [same, ← underway.read]
    rfl

/-- A sync commits or aborts, and leaves the next one what it needs. -/
theorem Underway.syncs [PostgresServer] (underway : Underway intl conn fetched events db)
    (nows : List Instant) :
    Underway intl conn fetched events (syncs uuids intl conn fetched nows db) := by
  induction nows using List.reverseRecOn with
  | nil => exact underway
  | append_singleton nows now inductionHypothesis =>
    rw [syncs_concat, syncConnection_healthy inductionHypothesis.read]
    split
    · exact inductionHypothesis.reconciled
    · exact inductionHypothesis

/-- An event lands exactly if no other import is in its way. -/
theorem Underway.lands_iff [PostgresServer] (underway : Underway intl conn fetched events db)
    (bookable : ∀ event ∈ events, event.Bookable) (member : event ∈ events) :
    Lands uuids conn .none db event ↔
      ¬ Relocation.Blocked StaysMeet (feedStay events) (db.occupiedUnder conn) event.uid := by
  obtain ⟨⟨checkIn, checkOut, bound⟩, entered⟩ := bookable event member
  rw [← blocked_iff underway.lawful underway.registered underway.stable member bound.stay]
  have tried : tryUpsert uuids conn event .none db = upsertEvent uuids conn event db := rfl
  rw [Lands, tried]
  obtain ⟨blocked, refused⟩ | ⟨free, after, landed⟩ :=
    upsertEvent_blocked uuids underway.lawful underway.registered bound entered
  · rw [refused]
    exact iff_of_false Bool.false_ne_true (not_not.mpr blocked)
  · rw [landed]
    exact iff_of_true rfl free

/-- A sync of storable events commits exactly if its statements have room for the UIDs. -/
theorem Underway.bindable_iff_room [PostgresServer]
    (underway : Underway intl conn fetched events db)
    (bookable : ∀ event ∈ events, event.Bookable) :
    Bindable uuids conn events noFaults db ↔ Room conn events db := by
  have storable : UidsStorable events := fun event member => by
    obtain ⟨checkIn, checkOut, bound⟩ := (bookable event member).bound
    exact bound.storable
  constructor
  · rintro ⟨-, present, few | ⟨index, event, found, lands⟩⟩
    · exact ⟨present, .inl few⟩
    · have member : event ∈ events := List.mem_of_getElem? found
      exact ⟨present, .inr ⟨event.uid, List.mem_map_of_mem member,
        (underway.lands_iff bookable member).mp lands⟩⟩
  · rintro ⟨present, few | ⟨uid, offered, free⟩⟩
    · exact ⟨storable, present, .inl few⟩
    · obtain ⟨event, member, rfl⟩ := List.mem_map.mp offered
      obtain ⟨index, found⟩ := List.mem_iff_getElem?.mp member
      exact ⟨storable, present, .inr ⟨index, event, found,
        (underway.lands_iff bookable member).mpr free⟩⟩

/-- Whoever found its nights free is there in the next sync, which has room again. -/
theorem Underway.room_reconciled [PostgresServer] (underway : Underway intl conn fetched events db)
    (bookable : ∀ event ∈ events, event.Bookable) (room : Room conn events db) :
    Room conn events (Sambung.reconciled uuids conn events noFaults now db) where
  present := room.present
  refused := room.refused.imp_right fun ⟨uid, offered, free⟩ => ⟨uid, offered, by
    rw [reconciled_round underway.lawful underway.registered underway.stable bookable]
    exact Relocation.free_round staysMeet_symm (underway.stable.targetsApart bookable)
      (occupiedUnder_exclusive underway.lawful underway.registered) offered free⟩

theorem Underway.room_syncs [PostgresServer] (underway : Underway intl conn fetched events db)
    (bookable : ∀ event ∈ events, event.Bookable) (room : Room conn events db)
    (nows : List Instant) :
    Room conn events (Sambung.syncs uuids intl conn fetched nows db) := by
  induction nows using List.reverseRecOn with
  | nil => exact room
  | append_singleton nows now inductionHypothesis =>
    have before :
        Underway intl conn fetched events (Sambung.syncs uuids intl conn fetched nows db) :=
      underway.syncs nows
    rw [syncs_concat, syncConnection_healthy before.read,
      if_pos ((before.bindable_iff_room bookable).mpr inductionHypothesis)]
    exact before.room_reconciled bookable inductionHypothesis

/-- Where there is room, every sync commits, so that one more sync is one more reconciliation. -/
theorem Underway.syncs_concat [PostgresServer] (underway : Underway intl conn fetched events db)
    (bookable : ∀ event ∈ events, event.Bookable) (room : Room conn events db)
    (nows : List Instant) (now : Instant) :
    Sambung.syncs uuids intl conn fetched (nows ++ [now]) db =
      Sambung.reconciled uuids conn events noFaults now
        (Sambung.syncs uuids intl conn fetched nows db) := by
  have before :
      Underway intl conn fetched events (Sambung.syncs uuids intl conn fetched nows db) :=
    underway.syncs nows
  rw [Sambung.syncs_concat, syncConnection_healthy before.read,
    if_pos ((before.bindable_iff_room bookable).mpr (underway.room_syncs bookable room nows))]

/-- Where the first sync aborts, so do all, since none of them changes what the next one finds. -/
theorem Underway.syncs_unbindable [PostgresServer]
    (underway : Underway intl conn fetched events db)
    (unbindable : ¬ Bindable uuids conn events noFaults db) (nows : List Instant) :
    Sambung.syncs uuids intl conn fetched nows db = db := by
  induction nows using List.reverseRecOn with
  | nil => rfl
  | append_singleton nows now inductionHypothesis =>
    rw [Sambung.syncs_concat, inductionHypothesis, syncConnection_healthy underway.read,
      if_neg unbindable]

/-- Read by UID, successive syncs are successive rounds, as many as there were syncs. -/
theorem Underway.rounds [PostgresServer] (underway : Underway intl conn fetched events db)
    (bookable : ∀ event ∈ events, event.Bookable) (room : Room conn events db)
    (nows : List Instant) :
    (Sambung.syncs uuids intl conn fetched nows db).occupiedUnder conn =
      (Relocation.round StaysMeet (feedStay events) (events.map ImportedEvent.uid))^[nows.length]
        (db.occupiedUnder conn) := by
  induction nows using List.reverseRecOn with
  | nil => rfl
  | append_singleton nows now inductionHypothesis =>
    have before :
        Underway intl conn fetched events (Sambung.syncs uuids intl conn fetched nows db) :=
      underway.syncs nows
    rw [underway.syncs_concat bookable room, List.length_append, List.length_singleton,
      Function.iterate_succ_apply', ← inductionHypothesis]
    exact reconciled_round before.lawful before.registered before.stable bookable

/-- An attainable feed has converged after one sync more than it has events. -/
theorem Underway.converged [PostgresServer] (underway : Underway intl conn fetched events db)
    (attainable : Attainable conn events db) {nows : List Instant}
    (long : events.length + 1 ≤ nows.length) :
    Converged conn events (Sambung.syncs uuids intl conn fetched nows db) := by
  have bookable := attainable.bookable
  by_cases room : Room conn events db
  · obtain rfl | ⟨nows, now, rfl⟩ := List.eq_nil_or_concat' nows
    · exact absurd long (Nat.not_succ_le_zero _)
    · have before :
          Underway intl conn fetched events (Sambung.syncs uuids intl conn fetched nows db) :=
        underway.syncs nows
      rw [List.length_append, List.length_singleton] at long
      rw [underway.syncs_concat bookable room]
      refine reconciled_converged before.lawful before.registered before.stable bookable
        fun uid offered => ?_
      rw [underway.rounds bookable room]
      refine Relocation.free_iterate staysMeet_symm (underway.stable.targetsApart bookable)
        (occupiedUnder_exclusive underway.lawful underway.registered) attainable.free ?_ offered
      rw [List.length_map]
      omega
  · rw [underway.syncs_unbindable fun bindable =>
      room ((underway.bindable_iff_room bookable).mp bindable)]
    exact attainable.room.resolve_left room

/-- In a converged state no imports wait for each other. -/
theorem Underway.not_deadlocked [PostgresServer] (underway : Underway intl conn fetched events db)
    (converged : Converged conn events db) : ¬ StaysDeadlocked conn events db := by
  rintro ⟨stuck, ⟨uid, isStuck⟩, ring⟩
  obtain ⟨place, holds, elsewhere⟩ := ring.elsewhere uid isStuck
  obtain ⟨event, member, rfl⟩ := List.mem_map.mp (ring.among uid isStuck)
  obtain ⟨row, rowMember, mirrors, -⟩ := converged.booked event member
  have arrived : db.occupiedUnder conn event.uid = some (feedStay events event.uid) := by
    rw [occupiedUnder_eq_some underway.lawful,
      feedStay_of_mem underway.stable.distinct member mirrors.stay]
    refine ⟨row, rowMember, mirrors.imported, ?_, rfl⟩
    rw [mirrors.confirmed, BookingStatus.occupying_iff]
    exact .inr rfl
  rw [holds] at arrived
  exact elsewhere (Option.some.inj arrived)

/-- Imports that wait for each other still do after any syncs. -/
theorem Underway.deadlocked_syncs [PostgresServer]
    (underway : Underway intl conn fetched events db)
    (bookable : ∀ event ∈ events, event.Bookable) (room : Room conn events db)
    (deadlocked : StaysDeadlocked conn events db) (nows : List Instant) :
    StaysDeadlocked conn events (Sambung.syncs uuids intl conn fetched nows db) := by
  obtain ⟨stuck, nonempty, ring⟩ := deadlocked
  refine ⟨stuck, nonempty, ring.congr fun uid isStuck => ?_⟩
  rw [underway.rounds bookable room]
  exact ring.iterate nows.length uid isStuck

/-- The events of a converged feed have been stored. -/
theorem Underway.bookable [PostgresServer] (underway : Underway intl conn fetched events db)
    (storable : UidsStorable events) (converged : Converged conn events db) :
    ∀ event ∈ events, event.Bookable := by
  intro event member
  obtain ⟨row, rowMember, mirrors, -⟩ := converged.booked event member
  have checked := underway.lawful.checked row rowMember
  have entered := underway.lawful.entered row rowMember
  rw [Booking.indexRefusal, mirrors.imported.1, mirrors.imported.2] at entered
  exact ⟨⟨row.checkIn, row.checkOut, storable event member, mirrors.stay,
    (Booking.failedCheck_eq_none.mp checked).2.1⟩, entered⟩

/-- What converges was attainable: where every sync aborts, the feed had converged before. -/
theorem Underway.attainable [PostgresServer] (underway : Underway intl conn fetched events db)
    (stored : ∀ row ∈ db.booking, ∀ uid ∈ row.externalUid, pgText uid) {nows : List Instant}
    (converged : Converged conn events (Sambung.syncs uuids intl conn fetched nows db)) :
    Attainable conn events db := by
  by_cases bindable : Bindable uuids conn events noFaults db
  · have after :
        Underway intl conn fetched events (Sambung.syncs uuids intl conn fetched nows db) :=
      underway.syncs nows
    have bookable := after.bookable bindable.storable converged
    have room := (underway.bindable_iff_room bookable).mp bindable
    exact ⟨bookable, fun deadlocked => after.not_deadlocked converged
      (underway.deadlocked_syncs bookable room deadlocked nows), .inl room⟩
  · rw [underway.syncs_unbindable bindable] at converged
    have storable : UidsStorable events := fun event member => by
      obtain ⟨row, rowMember, mirrors, -⟩ := converged.booked event member
      exact stored row rowMember event.uid mirrors.imported.2
    exact ⟨underway.bookable storable converged, underway.not_deadlocked converged,
      .inr converged⟩

/-! ### Any order -/

/-- The loop leaves the imports of absent UIDs. -/
theorem importAll_unoffered [PostgresServer] (events : List ImportedEvent) {row : Booking}
    {uid : String} (unoffered : uid ∉ events.map ImportedEvent.uid)
    (imported : row.ImportedAs conn.id uid) :
    row ∈ (importAll uuids conn events noFaults now db).db.booking ↔ row ∈ db.booking := by
  refine importAll_keeps (fun after => row ∈ after.booking ↔ row ∈ db.booking) Iff.rfl ?_ ?_
  · intro event member checkIn checkOut before after landed earlier
    rw [← earlier]
    refine landed.others (fun same => unoffered ?_) imported
    exact same ▸ List.mem_map_of_mem member
  · intro event _ before after filing earlier
    rw [filing.booking]
    exact earlier

/-- The connection has an import of the UID with these dates. -/
def Db.HasImport (conn : ChannelConnection) (uid : String) (checkIn checkOut : PgDate)
    (db : Db) : Prop :=
  ∃ row ∈ db.booking, row.ImportedAs conn.id uid ∧ row.checkIn = checkIn ∧
    row.checkOut = checkOut

/-- The imports of absent UIDs keep their dates. -/
theorem reconciled_hasImport [PostgresServer] (filled : events ≠ []) {uid : String}
    (unoffered : uid ∉ events.map ImportedEvent.uid) (checkIn checkOut : PgDate) :
    (reconciled uuids conn events noFaults now db).HasImport conn uid checkIn checkOut ↔
      db.HasImport conn uid checkIn checkOut := by
  rw [Db.HasImport, reconciled_booking filled]
  constructor
  · rintro ⟨row, member, imported, first, last⟩
    obtain ⟨source, sourceMember, rfl⟩ := Table.mem_updateWhere.mp member
    by_cases absent : source.AbsentFrom conn (events.map ImportedEvent.uid)
    · rw [if_pos absent] at imported first last
      have ofSource : source.ImportedAs conn.id uid := imported
      exact ⟨source, (importAll_unoffered events unoffered ofSource).mp sourceMember, ofSource,
        first, last⟩
    · rw [if_neg absent] at imported first last
      exact ⟨source, (importAll_unoffered events unoffered imported).mp sourceMember, imported,
        first, last⟩
  · rintro ⟨row, member, imported, first, last⟩
    refine ⟨_, Table.mem_updateWhere.mpr
      ⟨row, (importAll_unoffered events unoffered imported).mpr member, rfl⟩, ?_⟩
    by_cases absent : row.AbsentFrom conn (events.map ImportedEvent.uid)
    · rw [if_pos absent]
      exact ⟨imported, first, last⟩
    · rw [if_neg absent]
      exact ⟨imported, first, last⟩

theorem Underway.hasImport [PostgresServer] (underway : Underway intl conn fetched events db)
    (nows : List Instant) {uid : String}
    (unoffered : uid ∉ events.map ImportedEvent.uid) (checkIn checkOut : PgDate) :
    (Sambung.syncs uuids intl conn fetched nows db).HasImport conn uid checkIn checkOut ↔
      db.HasImport conn uid checkIn checkOut := by
  induction nows using List.reverseRecOn with
  | nil => exact Iff.rfl
  | append_singleton nows now inductionHypothesis =>
    have before :
        Underway intl conn fetched events (Sambung.syncs uuids intl conn fetched nows db) :=
      underway.syncs nows
    rw [← inductionHypothesis, Sambung.syncs_concat, syncConnection_healthy before.read]
    split
    · exact reconciled_hasImport before.stable.filled unoffered checkIn checkOut
    · exact Iff.rfl

/-- What is imported once the feed has converged: its events, confirmed, and what was imported
under other UIDs, cancelled. -/
theorem Underway.imports [PostgresServer] (underway : Underway intl conn fetched events db)
    {nows : List Instant}
    (converged : Converged conn events (Sambung.syncs uuids intl conn fetched nows db))
    (entry : String × PgDate × PgDate × BookingStatus) :
    entry ∈ (Sambung.syncs uuids intl conn fetched nows db).imports conn ↔
      (∃ event ∈ events, entry.1 = event.uid ∧
        bindStay event.start event.stop = .ok (entry.2.1, entry.2.2.1) ∧
          entry.2.2.2 = .confirmed) ∨
      (entry.1 ∉ events.map ImportedEvent.uid ∧
        db.HasImport conn entry.1 entry.2.1 entry.2.2.1 ∧ entry.2.2.2 = .cancelled) := by
  obtain ⟨uid, checkIn, checkOut, status⟩ := entry
  have after : Underway intl conn fetched events (Sambung.syncs uuids intl conn fetched nows db) :=
    underway.syncs nows
  have withdrawn : ∀ row ∈ (Sambung.syncs uuids intl conn fetched nows db).booking,
      row.ImportedAs conn.id uid → uid ∉ events.map ImportedEvent.uid →
        row.status = .cancelled := by
    intro row member imported unoffered
    refine (after.registered.imports row member imported.1).status.resolve_left fun confirmed => ?_
    obtain ⟨event, isEvent, ofUid⟩ := converged.others row member imported.1
      ((BookingStatus.occupying_iff _).mpr (.inr confirmed))
    rw [imported.2] at ofUid
    exact unoffered (Option.some.inj ofUid ▸ List.mem_map_of_mem isEvent)
  constructor
  · rintro ⟨row, member, imported, rfl, rfl, rfl⟩
    by_cases offered : uid ∈ events.map ImportedEvent.uid
    · obtain ⟨event, isEvent, rfl⟩ := List.mem_map.mp offered
      obtain ⟨booked, bookedMember, mirrors, only⟩ := converged.booked event isEvent
      rw [only row member imported]
      exact .inl ⟨event, isEvent, rfl, mirrors.stay, mirrors.confirmed⟩
    · refine .inr ⟨offered, ?_, withdrawn row member imported offered⟩
      exact (underway.hasImport nows offered _ _).mp ⟨row, member, imported, rfl, rfl⟩
  · rintro (⟨event, isEvent, rfl, stay, rfl⟩ | ⟨unoffered, had, rfl⟩)
    · obtain ⟨booked, bookedMember, mirrors, -⟩ := converged.booked event isEvent
      obtain ⟨first, last⟩ := Prod.mk.inj (Except.ok.inj (mirrors.stay.symm.trans stay))
      exact ⟨booked, bookedMember, mirrors.imported, first, last, mirrors.confirmed⟩
    · obtain ⟨row, member, imported, first, last⟩ :=
        (underway.hasImport nows unoffered _ _).mpr had
      exact ⟨row, member, imported, first, last, withdrawn row member imported unoffered⟩

theorem StableFeed.perm (stable : StableFeed conn events db) {reordered : List ImportedEvent}
    (perm : reordered.Perm events) : StableFeed conn reordered db where
  filled empty := stable.filled (List.perm_nil.mp (empty ▸ perm.symm))
  distinct := (perm.map _).nodup_iff.mpr stable.distinct
  apart first firstMember second secondMember :=
    stable.apart first (perm.mem_iff.mp firstMember) second (perm.mem_iff.mp secondMember)
  free row member unlinked ofUnit occupying event isEvent :=
    stable.free row member unlinked ofUnit occupying event (perm.mem_iff.mp isEvent)

theorem Room.perm (room : Room conn events db) (distinct : (events.map ImportedEvent.uid).Nodup)
    {reordered : List ImportedEvent} (perm : reordered.Perm events) : Room conn reordered db where
  present := perm.length_eq ▸ room.present
  refused := by
    rw [perm.length_eq, feedStay_perm perm distinct]
    refine room.refused.imp_right fun ⟨uid, offered, free⟩ => ⟨uid, ?_, free⟩
    exact (perm.map _).mem_iff.mpr offered

theorem Converged.perm (converged : Converged conn events db) {reordered : List ImportedEvent}
    (perm : reordered.Perm events) : Converged conn reordered db where
  booked event member := converged.booked event (perm.mem_iff.mp member)
  others row member linked occupying := by
    obtain ⟨event, isEvent, ofUid⟩ := converged.others row member linked occupying
    exact ⟨event, perm.mem_iff.mpr isEvent, ofUid⟩
  inbox := converged.inbox

theorem Attainable.perm [PostgresServer] (attainable : Attainable conn events db)
    (distinct : (events.map ImportedEvent.uid).Nodup) {reordered : List ImportedEvent}
    (perm : reordered.Perm events) : Attainable conn reordered db where
  bookable event member := attainable.bookable event (perm.mem_iff.mp member)
  room := attainable.room.imp (fun room => room.perm distinct perm) fun converged =>
    converged.perm perm
  free := by
    rintro ⟨stuck, nonempty, ring⟩
    rw [feedStay_perm perm distinct] at ring
    refine attainable.free ⟨stuck, nonempty, ⟨fun uid isStuck => ?_, ring.elsewhere, ring.waits⟩⟩
    exact (perm.map _).mem_iff.mp (ring.among uid isStuck)

/-- A stable feed converges, to the same imports on every order of its events, exactly if its events
can be stored, no imports wait for each other and the statements of a sync have room for the UIDs,
unless it has converged already. The syncs are those of one registered connection over lawful
tables, one more at least than there are events, and nobody else writes. -/
theorem stable_feed_converges_iff [PostgresServer] (syncable : Syncable conn db)
    (stable : StableFeed conn events db)
    (read : readFeed intl conn fetched db = .ok events) {nows : List Instant}
    (long : events.length + 1 ≤ nows.length) :
    Converges uuids intl conn fetched events nows db ↔ Attainable conn events db := by
  have underway : Underway intl conn fetched events db :=
    ⟨syncable.lawful, syncable.registered, stable, read⟩
  constructor
  · exact fun converges => underway.attainable syncable.stored converges.converged
  · intro attainable
    have converged : Converged conn events (syncs uuids intl conn fetched nows db) :=
      underway.converged attainable long
    refine ⟨converged, fun refetched reordered instants reread perm enough => ?_⟩
    have again : Underway intl conn refetched reordered db :=
      ⟨syncable.lawful, syncable.registered, stable.perm perm, reread⟩
    have reconverged : Converged conn reordered (syncs uuids intl conn refetched instants db) :=
      again.converged (attainable.perm stable.distinct perm) (by rwa [perm.length_eq])
    ext entry
    rw [again.imports reconverged, underway.imports converged,
      (perm.map ImportedEvent.uid).mem_iff]
    simp only [perm.mem_iff]

end Feed

/-! ### Two imports -/

/-- The villa's imports of two stays, early and late in the first week of August. -/
def villaStays : Db :=
  { villa with
    booking := [
      importedRow villaConnection "uid-1" 20666 20669 1,
      importedRow villaConnection "uid-2" 20670 20672 2] }

attribute [local instance] PostgresServer.uncompressed in
theorem villaStays_syncable : Syncable villaConnection villaStays where
  lawful := ⟨by decide, by decide, by decide +kernel, by decide, by decide⟩
  registered := by
    refine ⟨by decide, by decide, by decide, ?_, fun _ member => absurd member List.not_mem_nil⟩
    intro row member linked
    obtain rfl | rfl := List.mem_pair.mp member
    · exact ⟨rfl, rfl, ⟨_, rfl⟩, .inl rfl⟩
    · exact ⟨rfl, rfl, ⟨_, rfl⟩, .inl rfl⟩
  stored := by decide

/-- A feed with two stays. -/
def twoStayFeed (first second : String × String) : Text :=
  crlfLines ["BEGIN:VCALENDAR", "BEGIN:VEVENT", "UID:uid-1", "DTSTART:" ++ first.1,
    "DTEND:" ++ first.2, "END:VEVENT", "BEGIN:VEVENT", "UID:uid-2", "DTSTART:" ++ second.1,
    "DTEND:" ++ second.2, "END:VEVENT", "END:VCALENDAR"]

/-- Two events of the villa's UIDs. -/
def stayEvents (first second : String × String) : List ImportedEvent :=
  [⟨"uid-1", first.1.toList, first.2.toList⟩, ⟨"uid-2", second.1.toList, second.2.toList⟩]

/-- Of two stays that can be bound and do not meet, a feed is stable over the villa's imports. -/
theorem stayEvents_stable {first second : String × String} (stay another : PgDate × PgDate)
    (isFirst : bindStay first.1.toList first.2.toList = .ok stay)
    (isSecond : bindStay second.1.toList second.2.toList = .ok another)
    (apart : ¬ StaysMeet stay another) :
    StableFeed villaConnection (stayEvents first second) villaStays where
  filled := List.cons_ne_nil _ _
  distinct := by
    show ["uid-1", "uid-2"].Nodup
    decide
  apart := by
    intro one oneMember other otherMember differ oneStay otherStay isOne isOther
    obtain rfl | rfl := List.mem_pair.mp oneMember
    · obtain rfl | rfl := List.mem_pair.mp otherMember
      · exact absurd rfl differ
      · rw [← Except.ok.inj (isFirst.symm.trans isOne),
          ← Except.ok.inj (isSecond.symm.trans isOther)]
        exact apart
    · obtain rfl | rfl := List.mem_pair.mp otherMember
      · rw [← Except.ok.inj (isSecond.symm.trans isOne),
          ← Except.ok.inj (isFirst.symm.trans isOther)]
        exact fun meet => apart (staysMeet_symm meet)
      · exact absurd rfl differ
  free := by
    intro row member unlinked
    obtain rfl | rfl := List.mem_pair.mp member
    · exact absurd rfl unlinked
    · exact absurd rfl unlinked

/-- The first stay moves onto the nights of the second, which moves away. -/
def shiftedEvents : List ImportedEvent :=
  stayEvents ("2026-08-05", "2026-08-07") ("2026-08-15", "2026-08-17")

attribute [local instance] PostgresServer.uncompressed in
theorem shiftedEvents_attainable : Attainable villaConnection shiftedEvents villaStays where
  bookable := by
    intro event member
    obtain rfl | rfl := List.mem_pair.mp member
    · exact ⟨⟨20670, 20672, by decide, by decide +kernel, by decide⟩, by decide +kernel⟩
    · exact ⟨⟨20680, 20682, by decide, by decide +kernel, by decide⟩, by decide +kernel⟩
  room := .inl ⟨by decide, .inl (by decide)⟩
  free := by
    rintro ⟨stuck, ⟨uid, isStuck⟩, ring⟩
    have second : "uid-2" ∉ stuck := by
      intro isSecond
      obtain ⟨other, otherStuck, differs, place, holds, meets⟩ := ring.waits "uid-2" isSecond
      obtain rfl | rfl := List.mem_pair.mp (ring.among other otherStuck)
      · have held : villaStays.occupiedUnder villaConnection "uid-1" = some (20666, 20669) := by
          decide
        rw [held] at holds
        rw [← Option.some.inj holds] at meets
        revert meets
        decide +kernel
      · exact differs rfl
    obtain rfl | rfl := List.mem_pair.mp (ring.among uid isStuck)
    · obtain ⟨other, otherStuck, differs, -⟩ := ring.waits "uid-1" isStuck
      obtain rfl | rfl := List.mem_pair.mp (ring.among other otherStuck)
      · exact differs rfl
      · exact second otherStuck
    · exact second isStuck

attribute [local instance] PostgresServer.uncompressed in
/-- The shifted stays converge in three syncs. -/
theorem shifted_stays_converge :
    Converges .counting indonesianFormat villaConnection
      (fetchedBody (twoStayFeed ("20260805", "20260807") ("20260815", "20260817"))) shiftedEvents
      [1, 2, 3] villaStays := by
  have stable : StableFeed villaConnection shiftedEvents villaStays :=
    stayEvents_stable (20670, 20672) (20680, 20682) (by decide +kernel) (by decide +kernel)
      (by decide)
  exact (stable_feed_converges_iff villaStays_syncable stable (by decide +kernel) (by decide)).mpr
    shiftedEvents_attainable

/-- The two stays change places. -/
def exchangedEvents : List ImportedEvent :=
  stayEvents ("2026-08-05", "2026-08-07") ("2026-08-01", "2026-08-04")

/-- Each of the exchanged stays meets the nights the other one holds. -/
theorem exchangedEvents_deadlocked :
    StaysDeadlocked villaConnection exchangedEvents villaStays := by
  have first : villaStays.occupiedUnder villaConnection "uid-1" = some (20666, 20669) := by decide
  have second : villaStays.occupiedUnder villaConnection "uid-2" = some (20670, 20672) := by decide
  refine ⟨{"uid-1", "uid-2"}, ⟨"uid-1", .inl rfl⟩, ?_, ?_, ?_⟩
  · rintro uid (rfl | rfl)
    · decide
    · decide
  · rintro uid (rfl | rfl)
    · exact ⟨_, first, by decide +kernel⟩
    · exact ⟨_, second, by decide +kernel⟩
  · rintro uid (rfl | rfl)
    · exact ⟨"uid-2", .inr rfl, by decide, _, second, by decide +kernel⟩
    · exact ⟨"uid-1", .inl rfl, by decide, _, first, by decide +kernel⟩

attribute [local instance] PostgresServer.uncompressed in
/-- Two stays that change places never arrive, however often the feed is synced. -/
theorem exchanged_stays_never_converge :
    Syncable villaConnection villaStays ∧
      StableFeed villaConnection exchangedEvents villaStays ∧
      readFeed indonesianFormat villaConnection
        (fetchedBody (twoStayFeed ("20260805", "20260807") ("20260801", "20260804"))) villaStays =
          .ok exchangedEvents ∧
      ∀ nows, ¬ Converged villaConnection exchangedEvents
        (syncs .counting indonesianFormat villaConnection
          (fetchedBody (twoStayFeed ("20260805", "20260807") ("20260801", "20260804"))) nows
          villaStays) := by
  have stable : StableFeed villaConnection exchangedEvents villaStays :=
    stayEvents_stable (20670, 20672) (20666, 20669) (by decide +kernel) (by decide +kernel)
      (by decide)
  have read : readFeed indonesianFormat villaConnection
      (fetchedBody (twoStayFeed ("20260805", "20260807") ("20260801", "20260804"))) villaStays =
        .ok exchangedEvents := by
    decide +kernel
  refine ⟨villaStays_syncable, stable, read, fun nows converged => ?_⟩
  have underway : Underway indonesianFormat villaConnection _ exchangedEvents villaStays :=
    ⟨villaStays_syncable.lawful, villaStays_syncable.registered, stable, read⟩
  exact (underway.attainable villaStays_syncable.stored converged).free exchangedEvents_deadlocked

end Sambung
