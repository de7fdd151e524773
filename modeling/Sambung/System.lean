/-
This file states the system the services make up: every transaction that writes a
booking, a payment or a sync conflict, and the runs of them over one database.

A delivery and a sync read outside their transaction. Their transaction takes what
was read as given, whatever it is, so a run of transactions covers every
interleaving of reads and writes. `Write` lists the primitive writes a transaction
may issue with the guards it issues them under; `run_writes` breaks every
transaction into them. An invariant of the system is then proved write by write.

A sync that aborts, since its lists of UIDs cannot be bound, is a transaction of
the run that leaves the database alone. The villa at the end is the small database
on which the examples of many modules run.
-/

import Sambung.Foundation.Runs
import Sambung.IcalImport
import Sambung.Payments

namespace Sambung

/-! ### Transactions -/

/-- One whole transaction. -/
inductive Transaction where
  | createPublicBooking (req : CreateBookingRequest) (now : Instant)
  | createOwnerBooking (tenantId : Uuid) (req : CreateOwnerBookingRequest) (now : Instant)
  | cancel (tenantId id : Uuid)
  | expireLapsedHolds (tenantId unitId : Uuid) (now : Instant)
  | sweepExpiredHolds (now : Instant)
  | settleEvent (provider : String) (received : Except Thrown (Option ParsedPaymentEvent))
  | settleFeed (conn : ChannelConnection) (feed : Except String (List ImportedEvent))
      (faults : Nat → EventFault) (now : Instant)
  | pay (tenantId bookingId : Uuid) (snap : HttpResponse) (now : Instant)
  | markHandled (tenantId id : Uuid) (now : Instant)

/-- The database a transaction leaves. -/
def Transaction.run [PostgresServer] (env : PayEnvironment) : Transaction → Db → Db
  | .createPublicBooking req now, db =>
    (Sambung.createPublicBooking env.uuids env.gateway.requiresCredentials req now db).database db
  | .createOwnerBooking tenantId req now, db =>
    (Sambung.createOwnerBooking env.uuids tenantId req now db).database db
  | .cancel tenantId id, db => (Sambung.cancel tenantId id db).database db
  | .expireLapsedHolds tenantId unitId now, db => Sambung.expireLapsedHolds tenantId unitId now db
  | .sweepExpiredHolds now, db => Sambung.sweepExpiredHolds now db
  | .settleEvent provider received, db => (Sambung.settleEvent provider received db).database db
  | .settleFeed conn feed faults now, db =>
    (Sambung.settleFeed env.uuids conn feed faults now db).database db
  | .pay tenantId bookingId snap now, db =>
    (payInTransaction env tenantId bookingId snap now db).database db
  | .markHandled tenantId id now, db => (Sambung.markHandled tenantId id now db).2

/-- The database a sequence of transactions leaves. -/
def runAll [PostgresServer] (env : PayEnvironment) (run : List Transaction) (db : Db) : Db :=
  Runs.final (Transaction.run env) run db

@[simp] theorem runAll_nil [PostgresServer] (env : PayEnvironment) (db : Db) :
    runAll env [] db = db := rfl

@[simp] theorem runAll_cons [PostgresServer] (env : PayEnvironment) (t : Transaction)
    (run : List Transaction) (db : Db) :
    runAll env (t :: run) db = runAll env run (t.run env db) := rfl

theorem runAll_append [PostgresServer] (env : PayEnvironment) (before later : List Transaction)
    (db : Db) :
    runAll env (before ++ later) db = runAll env later (runAll env before db) :=
  Runs.final_append before later

/-! ### Primitive writes -/

/-- A primitive write a transaction may issue, with the guard it issues it under. -/
inductive Write [PostgresServer] : Transaction → Db → Db → Prop
  | expire {t : Transaction} {db : Db} (condition : Booking → Prop) [DecidablePred condition]
      (pending : ∀ row, condition row → row.status = .pendingPayment) :
      Write t db (db.setBookingStatus .expired condition)
  | book {t : Transaction} {db after : Db} (row : Booking) (inserted : Inserted db after row)
      (unlinked : row.channelConnectionId = none)
      (status : row.status = .pendingPayment ∨ row.status = .confirmed) : Write t db after
  | cancel {db : Db} (tenantId id : Uuid) :
      Write (.cancel tenantId id) db
        (db.setBookingStatus .cancelled (Booking.Cancellable tenantId id))
  | settle {db : Db} (provider : String) (event : ParsedPaymentEvent) (pay : Payment)
      (found : event.payment db = some pay) (recordable : event.Recordable provider db) :
      Write (.settleEvent provider (.ok (some event))) db
        (applyOutcome event pay (db.recordEvent (event.row provider pay.bookingId))).2
  | land {db after : Db} (conn : ChannelConnection) (events : List ImportedEvent)
      (faults : Nat → EventFault) (now : Instant) (event : ImportedEvent)
      (member : event ∈ events) (checkIn checkOut : PgDate)
      (landed : Landed conn event checkIn checkOut db after) :
      Write (.settleFeed conn (.ok events) faults now) db after
  | withdraw {db : Db} (conn : ChannelConnection) (events : List ImportedEvent)
      (faults : Nat → EventFault) (now : Instant) :
      Write (.settleFeed conn (.ok events) faults now) db
        (db.setBookingStatus .cancelled (Booking.AbsentFrom conn (events.map ImportedEvent.uid)))
  | inbox {db : Db} (conn : ChannelConnection) (events : List ImportedEvent)
      (faults : Nat → EventFault) (now : Instant) (rows : List SyncConflict) :
      Write (.settleFeed conn (.ok events) faults now) db { db with syncConflict := rows }
  | connection {db : Db} (conn : ChannelConnection) (feed : Except String (List ImportedEvent))
      (faults : Nat → EventFault) (now : Instant)
      (change : ChannelConnection → ChannelConnection) :
      Write (.settleFeed conn feed faults now) db (db.updateConnection conn change)
  | mint {db : Db} (tenantId bookingId : Uuid) (snap : HttpResponse) (now : Instant)
      (row : Payment) (fresh : row.id ∉ db.payment.map Payment.id)
      (ofBooking : row.bookingId = bookingId) (pending : row.status = .pending)
      (unhandled : row.handledAt = none) (checked : 0 ≤ row.amountIdr)
      (payable : ∃ booking ∈ db.booking, booking.id = bookingId ∧
        booking.status = .pendingPayment ∧ booking.Placed db)
      (sole : ∀ other ∈ db.payment, other.bookingId = bookingId → other.status ≠ .pending) :
      Write (.pay tenantId bookingId snap now) db { db with payment := db.payment ++ [row] }
  | handled {db : Db} (tenantId id : Uuid) (now : Instant) :
      Write (.markHandled tenantId id now) db { db with
        payment := Table.updateWhere (Payment.Handleable tenantId id db)
          (fun row => { row with handledAt := some now }) db.payment }

/-- The writes of one transaction, in order. -/
abbrev Writes [PostgresServer] (t : Transaction) : Db → Db → Prop := Relation.ReflTransGen (Write t)

/-- A property every write keeps holds after the writes. -/
theorem Writes.preserve [PostgresServer] {t : Transaction} {property : Db → Prop} {db after : Db}
    (kept : ∀ {before next}, Write t before next → property before → property next)
    (writes : Writes t db after) (start : property db) : property after := by
  induction writes with
  | refl => exact start
  | tail _ write inductionHypothesis => exact kept write inductionHypothesis

/-! ### The writes of each transaction -/

theorem expireLapsedHolds_write [PostgresServer] (t : Transaction) (tenantId unitId : Uuid)
    (now : Instant) (db : Db) : Write t db (expireLapsedHolds tenantId unitId now db) :=
  .expire _ fun _ matched => matched.2.2.1

theorem sweepExpiredHolds_write [PostgresServer] (t : Transaction) (now : Instant) (db : Db) :
    Write t db (sweepExpiredHolds now db) :=
  .expire _ fun _ matched => matched.1

theorem createPublicBooking_writes [PostgresServer] (t : Transaction) (uuids : UuidSource)
    (requiresCredentials : Bool) (req : CreateBookingRequest) (now : Instant) (db : Db) :
    Writes t db ((createPublicBooking uuids requiresCredentials req now db).database db) := by
  rcases createPublicBooking_commits uuids requiresCredentials req now db with
    unchanged | ⟨tenantId, input, checkIn, checkOut, id, inserted⟩
  · rw [unchanged]
  · refine .tail (.single (expireLapsedHolds_write t tenantId req.unitId now db)) ?_
    exact .book _ inserted rfl (Or.inl rfl)

theorem createOwnerBooking_writes [PostgresServer] (t : Transaction) (uuids : UuidSource)
    (tenantId : Uuid) (req : CreateOwnerBookingRequest) (now : Instant) (db : Db) :
    Writes t db ((createOwnerBooking uuids tenantId req now db).database db) := by
  rcases createOwnerBooking_commits uuids tenantId req now db with
    unchanged | ⟨input, checkIn, checkOut, id, inserted⟩
  · rw [unchanged]
  · refine .tail (.single (expireLapsedHolds_write t tenantId req.unitId now db)) ?_
    exact .book _ inserted rfl (Or.inr rfl)

theorem settleEvent_writes [PostgresServer] (provider : String)
    (received : Except Thrown (Option ParsedPaymentEvent)) (db : Db) :
    Writes (.settleEvent provider received) db
      ((settleEvent provider received db).database db) := by
  match received with
  | .error thrown => exact .refl
  | .ok none => exact .refl
  | .ok (some event) =>
    show Writes _ db ((recordAndApply provider event db).database db)
    rw [recordAndApply_database]
    cases found : event.payment db with
    | none => exact .refl
    | some pay =>
      dsimp only
      split
      · rename_i recordable
        exact .single (.settle provider event pay found recordable)
      · exact .refl

theorem recordConflict_write [PostgresServer] (uuids : UuidSource) (conn : ChannelConnection)
    (events : List ImportedEvent) (faults : Nat → EventFault) (event : ImportedEvent)
    (now : Instant) (faulted : Bool) (db : Db) :
    Writes (.settleFeed conn (.ok events) faults now) db
      (recordConflict uuids conn event now faulted db) := by
  unfold recordConflict
  split
  · exact .refl
  · cases bindStay event.start event.stop with
    | error error => exact .refl
    | ok stay =>
      dsimp only
      split
      · exact .refl
      · split
        · exact .single (.inbox conn events faults now _)
        · split
          · exact .single (.inbox conn events faults now _)
          · exact .refl

theorem importEvents_writes [PostgresServer] (uuids : UuidSource) (conn : ChannelConnection)
    (events : List ImportedEvent) (faults : Nat → EventFault) (now : Instant)
    (rest : List ImportedEvent) (inside : ∀ event ∈ rest, event ∈ events) (index : Nat)
    (progress : SyncProgress) :
    Writes (.settleFeed conn (.ok events) faults now) progress.db
      (importEvents uuids conn now faults index rest progress).db := by
  induction rest generalizing index progress with
  | nil => exact .refl
  | cons event rest inductionHypothesis =>
    refine .trans ?_ (inductionHypothesis (fun other member =>
      inside other (List.mem_cons_of_mem _ member)) (index + 1) _)
    unfold importEvent
    cases tried : tryUpsert uuids conn event (faults index) progress.db with
    | ok after =>
      unfold tryUpsert at tried
      split at tried
      · cases tried
      · obtain ⟨-, checkIn, checkOut, -, landed⟩ := upsertEvent_ok tried
        exact .single (.land conn events faults now event (inside event List.mem_cons_self)
          checkIn checkOut landed)
    | error error =>
      dsimp only
      split
      · exact recordConflict_write uuids conn events faults event now _ progress.db
      · exact .refl

theorem withdrawAbsent_writes [PostgresServer] (conn : ChannelConnection)
    (events : List ImportedEvent) (faults : Nat → EventFault) (now : Instant) (db : Db) :
    Writes (.settleFeed conn (.ok events) faults now) db (withdrawAbsent conn events db) := by
  unfold withdrawAbsent
  split
  · exact .refl
  · exact .single (.withdraw conn events faults now)

theorem resolveHealed_writes [PostgresServer] (conn : ChannelConnection)
    (events : List ImportedEvent) (faults : Nat → EventFault) (now : Instant)
    (notImportedUids : List String) (db : Db) :
    Writes (.settleFeed conn (.ok events) faults now) db
      (resolveHealed conn events notImportedUids now db) := by
  unfold resolveHealed
  split
  · exact .refl
  · exact .single (.inbox conn events faults now _)

theorem settleFeed_writes [PostgresServer] (uuids : UuidSource) (conn : ChannelConnection)
    (feed : Except String (List ImportedEvent)) (faults : Nat → EventFault) (now : Instant)
    (db : Db) :
    Writes (.settleFeed conn feed faults now) db
      ((settleFeed uuids conn feed faults now db).database db) := by
  match feed with
  | .error error => exact .single (.connection conn (.error error) faults now _)
  | .ok events =>
    show Writes _ db ((reconcileFeed uuids conn events faults now db).database db)
    rw [reconcileFeed_database]
    split
    · have imports : Writes (.settleFeed conn (.ok events) faults now) db
          (importAll uuids conn events faults now db).db :=
        importEvents_writes uuids conn events faults now events (fun _ => id) 0 ⟨db, 0, 0, []⟩
      refine .tail (.trans imports ?_) (.connection conn _ faults now _)
      exact (withdrawAbsent_writes conn events faults now _).trans
        (resolveHealed_writes conn events faults now _ _)
    · exact .refl

/-! ### The pay step -/

/-- A pay step commits nothing, its sweep, or its sweep and one minted payment. -/
theorem payInTransaction_writes [PostgresServer] (env : PayEnvironment) (tenantId bookingId : Uuid)
    (snap : HttpResponse) (now : Instant) (db : Db) :
    Writes (.pay tenantId bookingId snap now) db
      ((payInTransaction env tenantId bookingId snap now db).database db) := by
  unfold payInTransaction
  cases loaded : lockAndLoad tenantId bookingId db with
  | none => exact .refl
  | some ctx =>
    dsimp only
    have sweep := expireLapsedHolds_write (.pay tenantId bookingId snap now) tenantId ctx.unitId
      now db
    have payable : readStatus tenantId bookingId (expireLapsedHolds tenantId ctx.unitId now db) =
        some .pendingPayment → _ := loaded_pending loaded
    generalize expireLapsedHolds tenantId ctx.unitId now db = swept at sweep payable
    split
    · exact .refl
    · rename_i pendingNow
      cases ctx.totalPriceIdr with
      | none => exact .refl
      | some totalPriceIdr =>
        dsimp only
        cases session : findOpenSession bookingId swept with
        | error thrown => exact .refl
        | ok found =>
          cases found with
          | some opened =>
            dsimp only
            cases toResponse env.isUrl opened.provider ⟨opened.token, opened.redirectUrl⟩
                opened.amountIdr totalPriceIdr with
            | error thrown => exact .refl
            | ok response => exact .single sweep
          | none =>
            rcases mint_commits env bookingId totalPriceIdr ctx.depositPct snap now swept db with
              unchanged | ⟨row, fresh, ofBooking, pending, unhandled, checked, minted⟩
            · rw [unchanged]
            · rw [minted]
              refine .tail (.single sweep) ?_
              exact .mint tenantId bookingId snap now row fresh ofBooking pending unhandled checked
                (payable (not_not.mp pendingNow)) (findOpenSession_eq_none session)

/-- Every transaction is its primitive writes, in order and under their guards, or leaves the
database as it was. -/
theorem Transaction.run_writes [PostgresServer] (env : PayEnvironment) (t : Transaction) (db : Db) :
    Writes t db (t.run env db) := by
  cases t with
  | createPublicBooking req now => exact createPublicBooking_writes _ _ _ req now db
  | createOwnerBooking tenantId req now => exact createOwnerBooking_writes _ _ tenantId req now db
  | cancel tenantId id =>
    show Writes _ db ((Sambung.cancel tenantId id db).database db)
    rw [cancel_commits]
    exact .single (.cancel tenantId id)
  | expireLapsedHolds tenantId unitId now =>
    exact .single (expireLapsedHolds_write _ tenantId unitId now db)
  | sweepExpiredHolds now => exact .single (sweepExpiredHolds_write _ now db)
  | settleEvent provider received => exact settleEvent_writes provider received db
  | settleFeed conn feed faults now => exact settleFeed_writes env.uuids conn feed faults now db
  | pay tenantId bookingId snap now =>
    exact payInTransaction_writes env tenantId bookingId snap now db
  | markHandled tenantId id now =>
    show Writes _ db (Sambung.markHandled tenantId id now db).2
    unfold Sambung.markHandled
    split
    · exact .single (.handled tenantId id now)
    · dsimp only
      split
      · exact .refl
      · exact .refl

/-! ### A villa -/

/-- `Intl.DateTimeFormat` for a zone a fixed number of hours east of UTC. -/
def fixedOffsetParts (hours : Int) (instant : Instant) : DateParts :=
  let date := civilFromDays ((instant + hours * 3600000) / MS_PER_DAY)
  { year := Nat.toDigits 10 date.year.toNat
    month := paddedDigits 2 date.month.toNat
    day := paddedDigits 2 date.day.toNat }

/-- The three zones a property may have. -/
def indonesianFormat : DateTimeFormat := fun timeZone =>
  if timeZone = "Asia/Jakarta" then some (fixedOffsetParts 7)
  else if timeZone = "Asia/Makassar" then some (fixedOffsetParts 8)
  else if timeZone = "Asia/Jayapura" then some (fixedOffsetParts 9)
  else none

/-- One villa of tenant 1 in Bali, with one unit on Airbnb and no booking. -/
def villa : Db :=
  { Db.empty with
    property := [{
      id := 10, tenantId := 1, name := "Villa", timeZone := "Asia/Makassar", depositPct := 50
      archivedAt := none }]
    unit := [{
      id := 20, propertyId := 10, tenantId := 1, name := "Unit", basePriceIdr := 1000000
      maxGuests := 4, minStay := 1, archivedAt := none }]
    channelConnection := [{
      id := 30, unitId := 20, tenantId := 1, channel := .airbnb, importIcalUrl := "https://a/b.ics"
      lastSyncedAt := none, lastStatus := .never, lastError := none }] }

/-- The villa's Airbnb connection. -/
def villaConnection : ChannelConnection where
  id := 30
  unitId := 20
  tenantId := 1
  channel := .airbnb
  importIcalUrl := "https://a/b.ics"
  lastSyncedAt := none
  lastStatus := .never
  lastError := none

/-- A guest's hold on the villa, lapsed at instant 3. -/
def villaHold : Booking where
  id := 1
  tenantId := 1
  unitId := 20
  source := .direct
  status := .pendingPayment
  checkIn := 20666
  checkOut := 20668
  guestName := some "Guest"
  guestPhone := some "+6281234567890"
  guestEmail := none
  guestCount := some 2
  totalPriceIdr := some 1000000
  externalUid := none
  channelConnectionId := none
  holdExpiresAt := some 3

/-- The villa with the hold. -/
def villaHeld : Db := { villa with booking := [villaHold] }

/-- Lines, each with its line break. -/
def crlfLines (lines : List String) : Text :=
  lines.flatMap fun line => line.toList ++ ['\r', '\n']

/-- The signed text of order 1 with a deposit of 500000 rupiah, at a status code. -/
def villaSignedText (statusCode : String) : String :=
  "00000000-0000-0000-0000-000000000001" ++ statusCode ++ "500000.00" ++ "SB-Mid-server-villa"

/-- The SHA-512 digest of the signed text, at the three status codes the examples use. -/
def villaSignature (statusCode : String) : String :=
  if statusCode = "200" then
    "ed94e02e54ea72e38b3562e9e6166122dc5436b7dd5f8c5688bcc0a62c2db07c" ++
      "bbcb24d4a52201c59450c78ffee731b9efb1eb242e893e3742e533284559355f"
  else if statusCode = "201" then
    "77882eaf363afc95b997a878a35f77413e2b107fd66025c66495b51a0dc42af1" ++
      "5b65b81f11891d1fa514097fa4c2c26914d7d7a47f72335084efb658466cddd8"
  else if statusCode = "202" then
    "dea4665f24e969b510b56404414fa6012ebb2a158e8b68b7a7cafe6d14670308" ++
      "2c7ceeaed03a12a41d124df1572e71c0b2fe0033ac00554f96df4ccb7c8aa2ce"
  else ""

/-- SHA-512, on those texts. -/
def villaDigest (text : String) : String :=
  if text = villaSignedText "200" then villaSignature "200"
  else if text = villaSignedText "201" then villaSignature "201"
  else if text = villaSignedText "202" then villaSignature "202"
  else ""

/-- Midtrans, under the villa's server key. -/
def villaEnvironment : PayEnvironment where
  uuids := .counting
  gateway := midtransGateway villaDigest
  decrypt := fun _ _ => .ok "SB-Mid-server-villa"
  isUrl := fun text => text.startsWith "https://"

/-- No statement of the sync fails for reasons outside the data. -/
def noFaults : Nat → EventFault := fun _ => .none

end Sambung
