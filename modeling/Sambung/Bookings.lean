/-
This file states the writers of the booking table on the tenant's side:
`bookings.repository.ts` and `bookings.service.ts` (the guest's hold, the owner's
block or walk-in, the owner's cancel), and the cron sweep of
`hold-sweeper.service.ts`.

Each service call is one transaction, so it answers with the database it committed
or throws and leaves the database alone. `now` is `now()` of that transaction.

A request is what its schema lets through: the dates of a stay are days of the
calendar in order, which is why they are a structure with proofs and not two
texts. The insert itself is left to the constraints of the table. The last section
says of each call what it commits, nothing or a sweep and one accepted row or one
guarded update, and no later proof opens a service again.
-/

import Sambung.Availability

namespace Sambung

/-! ### Requests -/

/-- The stay of an accepted request: two days of the calendar in order, at most a year
apart. -/
structure StayDates where
  checkIn : Text
  checkOut : Text
  checkInReal : (isoDay checkIn).isSome
  checkOutReal : (isoDay checkOut).isSome
  ordered : checkIn < checkOut
  bounded : countNights checkIn checkOut ≤ MAX_AVAILABILITY_NIGHTS

/-- What `createBookingRequestSchema` lets through. -/
structure CreateBookingRequest extends StayDates where
  unitId : Uuid
  guestName : String
  guestPhone : String
  guestEmail : Option String
  guestCount : Nat
  guestCountPositive : 1 ≤ guestCount
  guestCountBounded : guestCount ≤ 64

/-- The two shapes of an owner-side booking. -/
inductive OwnerBooking where
  | manualBlock
  | walkIn (guestName : String) (guestPhone guestEmail : Option String)
      (guestCount : Option Nat) (totalPriceIdr : Option BigInt)
  deriving DecidableEq, Repr

/-- What `createOwnerBookingRequestSchema` lets through. -/
structure CreateOwnerBookingRequest extends StayDates where
  unitId : Uuid
  booking : OwnerBooking

structure CreateBookingResponse where
  bookingId : Uuid
  status : BookingStatus
  holdExpiresAt : Instant
  totalPriceIdr : BigInt
  nights : Int
  deriving DecidableEq, Repr

structure CreateOwnerBookingResponse where
  bookingId : Uuid
  status : BookingStatus
  source : BookingSource
  checkIn : Text
  checkOut : Text
  totalPriceIdr : Option BigInt
  nights : Int
  deriving DecidableEq, Repr

inductive Refund where
  | none | manual
  deriving DecidableEq, Repr

structure CancelBookingResponse where
  status : BookingStatus
  refund : Refund
  deriving DecidableEq, Repr

/-! ### Sweeps -/

def HOLD_TTL_MINUTES : Int := 15

/-- `hold_expires_at < now()`: a row without a hold has nothing to compare. -/
abbrev Booking.HoldLapsed (now : Instant) (row : Booking) : Prop :=
  ∃ expires ∈ row.holdExpiresAt, expires < now

/-- `UPDATE booking SET status`. -/
def Booking.setStatus (status : BookingStatus) (row : Booking) : Booking :=
  { row with status }

/-- `UPDATE booking SET status WHERE condition`. -/
def Db.setBookingStatus (status : BookingStatus) (condition : Booking → Prop)
    [DecidablePred condition] (db : Db) : Db :=
  { db with booking := Table.updateWhere condition (Booking.setStatus status) db.booking }

/-- The opportunistic sweep of one unit of one tenant. -/
def expireLapsedHolds (tenantId unitId : Uuid) (now : Instant) (db : Db) : Db :=
  db.setBookingStatus .expired fun row =>
    row.unitId = unitId ∧ row.tenantId = tenantId ∧ row.status = .pendingPayment ∧
      row.HoldLapsed now

/-- The cron sweep over all tenants. -/
def sweepExpiredHolds (now : Instant) (db : Db) : Db :=
  db.setBookingStatus .expired fun row =>
    row.status = .pendingPayment ∧ row.HoldLapsed now

/-! ### Inserts -/

structure HoldInput where
  tenantId : Uuid
  unitId : Uuid
  checkIn : Text
  checkOut : Text
  guestName : String
  guestPhone : String
  guestEmail : Option String
  guestCount : Nat
  totalPriceIdr : BigInt

structure ConfirmedBookingInput where
  tenantId : Uuid
  unitId : Uuid
  source : BookingSource
  checkIn : Text
  checkOut : Text
  guestName : Option String
  guestPhone : Option String
  guestEmail : Option String
  guestCount : Option Nat
  totalPriceIdr : Option BigInt

/-- Two texts bound to `date` columns. -/
def bindStay (checkIn checkOut : Text) : Except PgError (PgDate × PgDate) :=
  match pgDate checkIn, pgDate checkOut with
  | some first, some last => .ok (first, last)
  | _, _ => .error .invalidDate

/-- The row of a hold: pending, expiring `HOLD_TTL_MINUTES` from now. -/
def HoldInput.row (input : HoldInput) (checkIn checkOut : PgDate) (now : Instant) (id : Uuid) :
    Booking where
  id
  tenantId := input.tenantId
  unitId := input.unitId
  source := .direct
  status := .pendingPayment
  checkIn
  checkOut
  guestName := some input.guestName
  guestPhone := some input.guestPhone
  guestEmail := input.guestEmail
  guestCount := some input.guestCount
  totalPriceIdr := some input.totalPriceIdr
  externalUid := none
  channelConnectionId := none
  holdExpiresAt := some (now + HOLD_TTL_MINUTES * 60000)

/-- The row of an owner-side booking: confirmed at once, with no hold. -/
def ConfirmedBookingInput.row (input : ConfirmedBookingInput) (checkIn checkOut : PgDate)
    (id : Uuid) : Booking where
  id
  tenantId := input.tenantId
  unitId := input.unitId
  source := input.source
  status := .confirmed
  checkIn
  checkOut
  guestName := input.guestName
  guestPhone := input.guestPhone
  guestEmail := input.guestEmail
  guestCount := input.guestCount
  totalPriceIdr := input.totalPriceIdr
  externalUid := none
  channelConnectionId := none
  holdExpiresAt := none

def insertHold [PostgresServer] (uuids : UuidSource) (input : HoldInput) (now : Instant) (db : Db) :
    Except PgError (Booking × Db) := do
  let (checkIn, checkOut) ← bindStay input.checkIn input.checkOut
  db.insertBooking uuids (input.row checkIn checkOut now)

def insertConfirmed [PostgresServer] (uuids : UuidSource) (input : ConfirmedBookingInput)
    (db : Db) :
    Except PgError (Booking × Db) := do
  let (checkIn, checkOut) ← bindStay input.checkIn input.checkOut
  db.insertBooking uuids (input.row checkIn checkOut)

/-! ### The service -/

def fetchMaxGuests (tenantId unitId : Uuid) (db : Db) : Option Nat :=
  (db.unit.find? fun unit => unit.id = unitId ∧ unit.tenantId = tenantId).map
    RentalUnit.maxGuests

def paymentCredentialExists (tenantId : Uuid) (db : Db) : Prop :=
  ∃ row ∈ db.tenantPaymentCredential, row.tenantId = tenantId

instance (tenantId : Uuid) (db : Db) : Decidable (paymentCredentialExists tenantId db) := by
  unfold paymentCredentialExists; infer_instance

/-- Sweeps the unit's dead holds, then quotes on what the sweep left. -/
def sweepQuoteOrThrow (tenantId unitId : Uuid) (checkIn checkOut : Text)
    (archivedReason : BookingRefusalReason) (now : Instant) (db : Db) :
    Answer AvailabilityResponse :=
  let swept := expireLapsedHolds tenantId unitId now db
  match quote tenantId unitId checkIn checkOut swept with
  | .error thrown => .error thrown
  | .ok .notFound => .error (.notFound "Unit not found")
  | .ok .archived => .error (datesUnavailable [archivedReason])
  | .ok (.ok response) => .ok (response, swept)

/-- The hold a request asks for, at the server's price. -/
def CreateBookingRequest.holdInput (req : CreateBookingRequest) (tenantId : Uuid)
    (quote : AvailabilityResponse) : HoldInput where
  tenantId
  unitId := req.unitId
  checkIn := req.checkIn
  checkOut := req.checkOut
  guestName := req.guestName
  guestPhone := req.guestPhone
  guestEmail := req.guestEmail
  guestCount := req.guestCount
  totalPriceIdr := quote.totalPriceIdr

/-- The 201 of a created hold; the schema wants a positive number of nights. -/
def createBookingResponse (created : Booking) (nights : Int) :
    Except Thrown CreateBookingResponse :=
  match created.holdExpiresAt, created.totalPriceIdr with
  | some holdExpiresAt, some totalPriceIdr => do
    let totalPriceIdr ← toRupiah totalPriceIdr
    if nights ≤ 0 then throw (.error "ZodError: nights")
    return {
      bookingId := created.id
      status := created.status
      holdExpiresAt
      totalPriceIdr
      nights }
  | _, _ => .error (.internalServerError "Booking insert returned a null hold or price")

/-- The guest's checkout. `requiresCredentials` is the bound gateway's. -/
def createPublicBooking [PostgresServer] (uuids : UuidSource) (requiresCredentials : Bool)
    (req : CreateBookingRequest) (now : Instant) (db : Db) : Answer CreateBookingResponse :=
  match db.unitById req.unitId with
  | none => .error (.notFound "Unit not found")
  | some unit =>
    let tenantId := unit.tenantId
    if requiresCredentials ∧ ¬ paymentCredentialExists tenantId db then
      .error paymentsNotConfigured
    else
      match sweepQuoteOrThrow tenantId req.unitId req.checkIn req.checkOut .unavailable now db with
      | .error thrown => .error thrown
      | .ok (quote, swept) =>
        match fetchMaxGuests tenantId req.unitId swept with
        | none => .error (.notFound "Unit not found")
        | some maxGuests =>
          let reasons := quote.reasons ++ (if req.guestCount > maxGuests then [.maxGuests] else [])
          if reasons.length > 0 then .error (datesUnavailable reasons)
          else
            match insertHold uuids (req.holdInput tenantId quote) now swept with
            | .error error => .error (mapDbError error)
            | .ok (created, after) =>
              (createBookingResponse created quote.nights).map fun response => (response, after)

/-- The insert an owner-side request asks for, priced by the owner or by the quote. -/
def CreateOwnerBookingRequest.input (req : CreateOwnerBookingRequest) (tenantId : Uuid)
    (quote : AvailabilityResponse) : ConfirmedBookingInput :=
  match req.booking with
  | .manualBlock => {
      tenantId
      unitId := req.unitId
      source := .manualBlock
      checkIn := req.checkIn
      checkOut := req.checkOut
      guestName := none
      guestPhone := none
      guestEmail := none
      guestCount := none
      totalPriceIdr := none }
  | .walkIn guestName guestPhone guestEmail guestCount totalPriceIdr => {
      tenantId
      unitId := req.unitId
      source := .direct
      checkIn := req.checkIn
      checkOut := req.checkOut
      guestName := some guestName
      guestPhone
      guestEmail
      guestCount
      totalPriceIdr := some (totalPriceIdr.getD quote.totalPriceIdr) }

/-- The 201 of an owner-side booking. -/
def createOwnerBookingResponse (created : Booking) (nights : Int) :
    Except Thrown CreateOwnerBookingResponse := do
  let totalPriceIdr ← created.totalPriceIdr.mapM toRupiah
  if nights ≤ 0 then throw (.error "ZodError: nights")
  return {
    bookingId := created.id
    status := created.status
    source := created.source
    checkIn := dateText created.checkIn
    checkOut := dateText created.checkOut
    totalPriceIdr
    nights }

/-- The owner's block or walk-in: overlap is the only refusal the owner obeys. -/
def createOwnerBooking [PostgresServer] (uuids : UuidSource) (tenantId : Uuid)
    (req : CreateOwnerBookingRequest) (now : Instant) (db : Db) :
    Answer CreateOwnerBookingResponse :=
  match sweepQuoteOrThrow tenantId req.unitId req.checkIn req.checkOut .archived now db with
  | .error thrown => .error thrown
  | .ok (quote, swept) =>
    if .overlap ∈ quote.reasons then .error (datesUnavailable [.overlap])
    else
      match insertConfirmed uuids (req.input tenantId quote) swept with
      | .error error => .error (mapDbError error)
      | .ok (created, after) =>
        (createOwnerBookingResponse created quote.nights).map fun response => (response, after)

/-! ### Cancel -/

inductive CancelOutcome where
  | cancelled
  | notFound
  | terminal (status : BookingStatus)
  deriving DecidableEq, Repr

/-- The rows the guarded cancel matches. -/
abbrev Booking.Cancellable (tenantId id : Uuid) (row : Booking) : Prop :=
  row.id = id ∧ row.tenantId = tenantId ∧ row.status ∈ OCCUPYING_STATUSES

/-- The guarded `UPDATE`; where it matches nothing, a second read says why. -/
def cancelById (tenantId id : Uuid) (db : Db) : CancelOutcome × Db :=
  if ∃ row ∈ db.booking, row.Cancellable tenantId id then
    (.cancelled, db.setBookingStatus .cancelled (Booking.Cancellable tenantId id))
  else
    match db.booking.find? fun row => row.id = id ∧ row.tenantId = tenantId with
    | none => (.notFound, db)
    | some existing => (.terminal existing.status, db)

/-- Whether the booking has a settled payment the tenant sees. -/
def hasPaidPayment (bookingId : Uuid) (db : Db) : Prop :=
  ∃ row ∈ db.payment, row.bookingId = bookingId ∧ row.status = .paid

instance (bookingId : Uuid) (db : Db) : Decidable (hasPaidPayment bookingId db) := by
  unfold hasPaidPayment; infer_instance

/-- The owner's cancel. -/
def cancel (tenantId id : Uuid) (db : Db) : Answer CancelBookingResponse :=
  match cancelById tenantId id db with
  | (.notFound, _) => .error (.notFound "Booking not found")
  | (.terminal status, _) => .error (bookingNotCancellable status)
  | (.cancelled, after) =>
    .ok ({
      status := .cancelled
      refund := if hasPaidPayment id after then .manual else .none }, after)

/-! ### Lookups across the writes -/

@[simp] theorem Booking.setStatus_status (status : BookingStatus) (row : Booking) :
    (row.setStatus status).status = status := rfl

@[simp] theorem Booking.setStatus_id (status : BookingStatus) (row : Booking) :
    (row.setStatus status).id = row.id := rfl

theorem Db.bookingById_setBookingStatus (status : BookingStatus) (condition : Booking → Prop)
    [DecidablePred condition] (db : Db) (id : Uuid) :
    (db.setBookingStatus status condition).bookingById id =
      (db.bookingById id).map fun row => if condition row then row.setStatus status else row := by
  have keyed : ∀ row, condition row → (row.setStatus status).id = row.id := fun _ _ => rfl
  exact Table.byKey_updateWhere keyed id

theorem Db.bookingById_id {db : Db} {id : Uuid} {row : Booking}
    (found : db.bookingById id = some row) : row.id = id :=
  (Table.mem_of_byKey found).2

theorem Db.paymentById_id {db : Db} {id : Uuid} {row : Payment}
    (found : db.paymentById id = some row) : row.id = id :=
  (Table.mem_of_byKey found).2

/-- The status of a booking after an update whose condition on the booking's row is a test of its
status. -/
theorem Db.bookingStatus_setBookingStatus (status : BookingStatus) (condition : Booking → Prop)
    [DecidablePred condition] (db : Db) {id : Uuid} (test : BookingStatus → Prop)
    [DecidablePred test]
    (tests : ∀ row : Booking, row.id = id → (condition row ↔ test row.status)) :
    (db.setBookingStatus status condition).bookingStatus id =
      (db.bookingStatus id).map fun before => if test before then status else before := by
  rw [Db.bookingStatus, Db.bookingById_setBookingStatus, Db.bookingStatus, Option.map_map,
    Option.map_map]
  cases found : db.bookingById id with
  | none => rfl
  | some row =>
    have tested := tests row (Db.bookingById_id found)
    rw [Option.map_some, Option.map_some, Function.comp_apply, Function.comp_apply]
    by_cases matched : condition row
    · rw [if_pos matched, if_pos (tested.mp matched)]
      rfl
    · rw [if_neg matched, if_neg (mt tested.mpr matched)]

/-! ### What a call commits -/

theorem sweepQuoteOrThrow_ok {tenantId unitId : Uuid} {checkIn checkOut : Text}
    {archivedReason : BookingRefusalReason} {now : Instant} {db after : Db}
    {response : AvailabilityResponse}
    (quoted : sweepQuoteOrThrow tenantId unitId checkIn checkOut archivedReason now db =
      .ok (response, after)) :
    after = expireLapsedHolds tenantId unitId now db ∧
      quote tenantId unitId checkIn checkOut after = .ok (.ok response) := by
  unfold sweepQuoteOrThrow at quoted
  cases answer :
      quote tenantId unitId checkIn checkOut (expireLapsedHolds tenantId unitId now db) with
  | error thrown => simp [answer] at quoted
  | ok outcome =>
    cases outcome with
    | ok found =>
      simp only [answer, Except.ok.injEq, Prod.mk.injEq] at quoted
      obtain ⟨rfl, rfl⟩ := quoted
      exact ⟨rfl, answer⟩
    | archived => simp [answer] at quoted
    | notFound => simp [answer] at quoted

/-- What a booking insert stored: the new row was accepted over the rows before it. -/
structure Inserted [PostgresServer] (db after : Db) (row : Booking) : Prop where
  accepted : db.bookingRefusal row = none
  fresh : row.id ∉ db.booking.map Booking.id
  stored : after = { db with booking := db.booking ++ [row] }

theorem Db.insertBooking_inserted [PostgresServer] {uuids : UuidSource} {values : Uuid → Booking}
    {db after : Db} {row : Booking} (keyed : ∀ id, (values id).id = id)
    (stored : db.insertBooking uuids values = .ok (row, after)) : Inserted db after row := by
  obtain ⟨rfl, accepted, rfl⟩ := Db.insertBooking_ok stored
  refine ⟨accepted, ?_, rfl⟩
  rw [keyed]
  exact uuids.fresh _

/-- The insert of a booking whose stay has to be bound first. -/
theorem insertBound_ok [PostgresServer] {uuids : UuidSource} {start stop : Text} {db after : Db}
    {row : Booking} (values : PgDate → PgDate → Uuid → Booking)
    (keyed : ∀ checkIn checkOut id, (values checkIn checkOut id).id = id)
    (stored : (bindStay start stop >>= fun stay =>
      db.insertBooking uuids (values stay.1 stay.2)) = .ok (row, after)) :
    Inserted db after row ∧ ∃ checkIn checkOut id, row = values checkIn checkOut id := by
  cases bound : bindStay start stop with
  | error error =>
    rw [bound] at stored
    cases stored
  | ok stay =>
    rw [bound] at stored
    exact ⟨Db.insertBooking_inserted (keyed stay.1 stay.2) stored, stay.1, stay.2, _,
      (Db.insertBooking_ok stored).1⟩

theorem insertHold_ok [PostgresServer] {uuids : UuidSource} {input : HoldInput} {now : Instant}
    {db after : Db} {row : Booking} (stored : insertHold uuids input now db = .ok (row, after)) :
    Inserted db after row ∧ ∃ checkIn checkOut id, row = input.row checkIn checkOut now id :=
  insertBound_ok (fun checkIn checkOut => input.row checkIn checkOut now) (fun _ _ _ => rfl) stored

theorem insertConfirmed_ok [PostgresServer] {uuids : UuidSource} {input : ConfirmedBookingInput}
    {db after : Db} {row : Booking} (stored : insertConfirmed uuids input db = .ok (row, after)) :
    Inserted db after row ∧ ∃ checkIn checkOut id, row = input.row checkIn checkOut id :=
  insertBound_ok (fun checkIn checkOut => input.row checkIn checkOut) (fun _ _ _ => rfl) stored

/-- A guest's checkout commits nothing, or the sweep of its unit and one new hold. -/
theorem createPublicBooking_commits [PostgresServer] (uuids : UuidSource)
    (requiresCredentials : Bool) (req : CreateBookingRequest) (now : Instant) (db : Db) :
    (createPublicBooking uuids requiresCredentials req now db).database db = db ∨
      ∃ tenantId input checkIn checkOut id,
        Inserted (expireLapsedHolds tenantId req.unitId now db)
          ((createPublicBooking uuids requiresCredentials req now db).database db)
          (HoldInput.row input checkIn checkOut now id) := by
  unfold createPublicBooking
  cases db.unitById req.unitId with
  | none => exact Or.inl rfl
  | some unit =>
    dsimp only
    split
    · exact Or.inl rfl
    · cases quoted : sweepQuoteOrThrow unit.tenantId req.unitId req.checkIn req.checkOut
          .unavailable now db with
      | error thrown => exact Or.inl rfl
      | ok answer =>
        obtain ⟨quote, swept⟩ := answer
        obtain ⟨rfl, -⟩ := sweepQuoteOrThrow_ok quoted
        dsimp only
        cases fetchMaxGuests unit.tenantId req.unitId
            (expireLapsedHolds unit.tenantId req.unitId now db) with
        | none => exact Or.inl rfl
        | some maxGuests =>
          dsimp only
          generalize (quote.reasons ++ if req.guestCount > maxGuests then _ else _) = reasons
          split
          · exact Or.inl rfl
          · cases stored : insertHold uuids (req.holdInput unit.tenantId quote) now
                (expireLapsedHolds unit.tenantId req.unitId now db) with
            | error error => exact Or.inl rfl
            | ok created =>
              obtain ⟨row, after⟩ := created
              obtain ⟨inserted, checkIn, checkOut, id, rfl⟩ := insertHold_ok stored
              dsimp only
              cases createBookingResponse _ quote.nights with
              | error thrown => exact Or.inl rfl
              | ok response => exact Or.inr ⟨_, _, _, _, _, inserted⟩

/-- An owner-side booking commits nothing, or the sweep of its unit and one new row. -/
theorem createOwnerBooking_commits [PostgresServer] (uuids : UuidSource) (tenantId : Uuid)
    (req : CreateOwnerBookingRequest) (now : Instant) (db : Db) :
    (createOwnerBooking uuids tenantId req now db).database db = db ∨
      ∃ input checkIn checkOut id,
        Inserted (expireLapsedHolds tenantId req.unitId now db)
          ((createOwnerBooking uuids tenantId req now db).database db)
          (ConfirmedBookingInput.row input checkIn checkOut id) := by
  unfold createOwnerBooking
  cases quoted :
      sweepQuoteOrThrow tenantId req.unitId req.checkIn req.checkOut .archived now db with
  | error thrown => exact Or.inl rfl
  | ok answer =>
    obtain ⟨quote, swept⟩ := answer
    obtain ⟨rfl, -⟩ := sweepQuoteOrThrow_ok quoted
    dsimp only
    split
    · exact Or.inl rfl
    · cases stored : insertConfirmed uuids (req.input tenantId quote)
          (expireLapsedHolds tenantId req.unitId now db) with
      | error error => exact Or.inl rfl
      | ok created =>
        obtain ⟨row, after⟩ := created
        obtain ⟨inserted, checkIn, checkOut, id, rfl⟩ := insertConfirmed_ok stored
        dsimp only
        cases createOwnerBookingResponse _ quote.nights with
        | error thrown => exact Or.inl rfl
        | ok response => exact Or.inr ⟨_, _, _, _, inserted⟩

/-- A cancel commits its guarded update, which changes nothing where the cancel is refused. -/
theorem cancel_commits (tenantId id : Uuid) (db : Db) :
    (cancel tenantId id db).database db =
      db.setBookingStatus .cancelled (Booking.Cancellable tenantId id) := by
  unfold cancel cancelById
  by_cases found : ∃ row ∈ db.booking, row.Cancellable tenantId id
  · rw [if_pos found]
    rfl
  · have unchanged : db.setBookingStatus .cancelled (Booking.Cancellable tenantId id) = db := by
      rw [Db.setBookingStatus, Table.updateWhere_eq_self]
      exact fun row member matched => found ⟨row, member, matched⟩
    rw [if_neg found, unchanged]
    cases db.booking.find? fun row => row.id = id ∧ row.tenantId = tenantId with
    | none => rfl
    | some existing => rfl

end Sambung
