/-
This file states the guest's pay step and the owner's inbox of captured money:
`payments.repository.ts`, `payments.service.ts` and `payment-inbox.repository.ts`.

`pay` runs in one transaction under a lock on the booking row, with the provider's
answer to the session request as an input. Once it holds the lock it sweeps the
unit's dead holds, so that it may find its booking expired by its own sweep; an
open session is handed back as it is, and only where there is none is the provider
asked for another.

The inbox is a query over three joined tables and an update that stamps one row.
What both calls commit is said in lemmas at the end, beside the definitions they
open.
-/

import Sambung.Webhook

namespace Sambung

/-! ### The pay step -/

/-- What the pay path reads of a booking under its lock. -/
structure PayContext where
  status : BookingStatus
  unitId : Uuid
  totalPriceIdr : Option BigInt
  depositPct : Nat
  deriving DecidableEq, Repr

structure OpenSession where
  provider : String
  amountIdr : BigInt
  token : JsString
  redirectUrl : JsString
  deriving DecidableEq, Repr

structure PaymentSessionResponse where
  provider : String
  token : JsString
  redirectUrl : JsString
  amountIdr : BigInt
  deposit : Bool
  deriving DecidableEq, Repr

def lockAndLoad (tenantId bookingId : Uuid) (db : Db) : Option PayContext := do
  let booking ← db.booking.find? fun row => row.id = bookingId ∧ row.tenantId = tenantId
  let unit ← db.unit.find? fun unit => unit.id = booking.unitId ∧ unit.tenantId = tenantId
  let property ← db.property.find? fun property =>
    property.id = unit.propertyId ∧ property.tenantId = tenantId
  some {
    status := booking.status
    unitId := booking.unitId
    totalPriceIdr := booking.totalPriceIdr
    depositPct := property.depositPct }

def readStatus (tenantId bookingId : Uuid) (db : Db) : Option BookingStatus :=
  (db.booking.find? fun row => row.id = bookingId ∧ row.tenantId = tenantId).map Booking.status

/-- The stored session of a pending payment. -/
def Payment.session (row : Payment) : Option OpenSession := do
  let token ← (row.rawPayload.field "token").bind Json.asString
  let redirectUrl ← (row.rawPayload.field "redirectUrl").bind Json.asString
  some { provider := row.provider, amountIdr := row.amountIdr, token, redirectUrl }

/-- The booking's pending payments, newest first. -/
def pendingPayments (bookingId : Uuid) (db : Db) : List Payment :=
  (db.payment.filter fun row => row.bookingId = bookingId ∧ row.status = .pending).insertionSort
    fun a b => a.createdAt ≥ b.createdAt

def findOpenSession (bookingId : Uuid) (db : Db) : Except Thrown (Option OpenSession) :=
  match pendingPayments bookingId db with
  | [] => .ok none
  | row :: _ =>
    match row.session with
    | none =>
      .error (.internalServerError "An open payment has a malformed session payload")
    | some session => .ok (some session)

/-- The deposit share, floored. -/
def depositAmountIdr (totalPriceIdr : BigInt) (pct : Nat) : BigInt :=
  (totalPriceIdr * pct).tdiv 100

/-- The row of a minted payment: its id is the Provider's order id. -/
def mintedPayment (id bookingId : Uuid) (provider : String) (amountIdr : BigInt)
    (session : PaymentSession) (now : Instant) : Payment where
  id
  bookingId
  provider
  amountIdr
  status := .pending
  handledAt := none
  rawPayload := .object
    [("token", .string session.token), ("redirectUrl", .string session.redirectUrl)]
  createdAt := now

def Db.insertPayment [PostgresServer] (row : Payment) (db : Db) : Except PgError Db :=
  if ¬ pgText row.provider then .error .invalidText
  else
    match row.rawPayload.refusal with
    | some error => .error error
    | none =>
      if row.amountIdr < 0 then .error (.violation .paymentAmountNonneg)
      else if (db.bookingById row.bookingId).isNone then .error (.violation .paymentBookingFk)
      else .ok { db with payment := db.payment ++ [row] }

theorem Db.insertPayment_ok [PostgresServer] {row : Payment} {db after : Db}
    (inserted : db.insertPayment row = .ok after) :
    0 ≤ row.amountIdr ∧ after = { db with payment := db.payment ++ [row] } := by
  unfold Db.insertPayment at inserted
  repeat' split at inserted
  all_goals cases inserted
  rename_i checked placed
  exact ⟨not_lt.mp checked, rfl⟩

/-- The 201. `isUrl` is zod's `url()` check. -/
def toResponse (isUrl : String → Bool) (provider : String) (session : PaymentSession)
    (amountIdr totalPriceIdr : BigInt) : Except Thrown PaymentSessionResponse := do
  let rupiah ← toRupiah amountIdr
  if provider ≠ "midtrans" then throw (.error "ZodError: provider")
  if ¬ isUrl session.redirectUrl.text then throw (.error "ZodError: redirectUrl")
  return {
    provider
    token := session.token
    redirectUrl := session.redirectUrl
    amountIdr := rupiah
    deposit := amountIdr < totalPriceIdr }

/-- `forGatewayOrThrow`. -/
def forGatewayOrThrow (gateway : PaymentGateway) (decrypt : Decrypt) (tenantId : Uuid) (db : Db) :
    Except Thrown GatewayCredential :=
  if ¬ gateway.requiresCredentials then .ok FAKE_CREDENTIAL
  else do
    match ← maybeResolve decrypt tenantId db with
    | none => throw paymentsNotConfigured
    | some credential => return credential

/-- What the pay step depends on beside the database. -/
structure PayEnvironment where
  uuids : UuidSource
  gateway : PaymentGateway
  decrypt : Decrypt
  isUrl : String → Bool

/-- Mints a payment for a payable booking: the Provider's session first, then the row. -/
def mint [PostgresServer] (env : PayEnvironment) (bookingId : Uuid) (totalPriceIdr : BigInt)
    (depositPct : Nat) (snap : HttpResponse) (now : Instant) (db : Db) :
    Answer PaymentSessionResponse :=
  let amountIdr := depositAmountIdr totalPriceIdr depositPct
  let paymentId := env.uuids.draw (db.payment.map Payment.id)
  match toRupiah amountIdr, env.gateway.createSession snap with
  | .error thrown, _ => .error thrown
  | .ok _, .error thrown => .error thrown
  | .ok _, .ok session =>
    let row := mintedPayment paymentId bookingId env.gateway.provider amountIdr session now
    match db.insertPayment row with
    | .error error => .error (mapDbError error)
    | .ok after =>
      (toResponse env.isUrl env.gateway.provider session amountIdr totalPriceIdr).map
        fun response => (response, after)

/-- The transaction of the pay step. -/
def payInTransaction [PostgresServer] (env : PayEnvironment) (tenantId bookingId : Uuid)
    (snap : HttpResponse) (now : Instant) (db : Db) : Answer PaymentSessionResponse :=
  match lockAndLoad tenantId bookingId db with
  | none => .error (bookingNotPayable .expired)
  | some ctx =>
    let swept := expireLapsedHolds tenantId ctx.unitId now db
    let status := readStatus tenantId bookingId swept
    if status ≠ some .pendingPayment then
      .error (bookingNotPayable (status.getD .expired))
    else
      match ctx.totalPriceIdr with
      | none => .error (.internalServerError "A pending booking is missing its price")
      | some totalPriceIdr =>
        match findOpenSession bookingId swept with
        | .error thrown => .error thrown
        | .ok (some opened) =>
          (toResponse env.isUrl opened.provider ⟨opened.token, opened.redirectUrl⟩
              opened.amountIdr totalPriceIdr).map
            fun response => (response, swept)
        | .ok none => mint env bookingId totalPriceIdr ctx.depositPct snap now swept

/-- The guest's pay step: the booking and its tenant's gateway first, then the transaction, in which
alone anything is written. -/
def pay [PostgresServer] (env : PayEnvironment) (bookingId : Uuid) (snap : HttpResponse)
    (now : Instant) (db : Db) :
    Answer PaymentSessionResponse :=
  match db.bookingById bookingId with
  | none => .error (.notFound "Booking not found")
  | some booking =>
    match forGatewayOrThrow env.gateway env.decrypt booking.tenantId db with
    | .error thrown => .error thrown
    | .ok _ => payInTransaction env booking.tenantId bookingId snap now db

/-! ### The inbox -/

/-- The statuses of a booking that no longer holds its dates. -/
def LAPSED_STATUSES : List BookingStatus := [.expired, .cancelled]

structure LapsedPaymentRow where
  paymentId : Uuid
  bookingId : Uuid
  bookingStatus : BookingStatus
  provider : String
  amountIdr : BigInt
  guestName : Option String
  guestPhone : Option String
  guestEmail : Option String
  checkIn : PgDate
  checkOut : PgDate
  propertyName : String
  unitName : String
  createdAt : Instant
  deriving DecidableEq, Repr

/-- The inbox row of a payment: paid, not handled, its booking lapsed, and its booking, unit
and property the tenant's. -/
def lapsedRow (tenantId : Uuid) (db : Db) (payment : Payment) : Option LapsedPaymentRow := do
  let booking ← db.booking.find? fun row => row.id = payment.bookingId ∧ row.tenantId = tenantId
  let unit ← db.unit.find? fun unit =>
    unit.id = booking.unitId ∧ unit.tenantId = booking.tenantId
  let property ← db.property.find? fun property =>
    property.id = unit.propertyId ∧ property.tenantId = booking.tenantId
  if payment.status = .paid ∧ payment.handledAt = none ∧ booking.status ∈ LAPSED_STATUSES then
    some {
      paymentId := payment.id
      bookingId := booking.id
      bookingStatus := booking.status
      provider := payment.provider
      amountIdr := payment.amountIdr
      guestName := booking.guestName
      guestPhone := booking.guestPhone
      guestEmail := booking.guestEmail
      checkIn := booking.checkIn
      checkOut := booking.checkOut
      propertyName := property.name
      unitName := unit.name
      createdAt := payment.createdAt }
  else none

/-- Newest captured money first, ties by id. -/
def listLapsed (tenantId : Uuid) (db : Db) : List LapsedPaymentRow :=
  (db.payment.filterMap (lapsedRow tenantId db)).insertionSort fun a b =>
    a.createdAt > b.createdAt ∨ (a.createdAt = b.createdAt ∧ a.paymentId ≤ b.paymentId)

inductive HandleOutcome where
  | handled (handledAt : Instant)
  | notFound
  deriving DecidableEq, Repr

/-- The booking of the payment is the tenant's and lapsed. -/
abbrev Payment.OfLapsedBooking (tenantId : Uuid) (db : Db) (payment : Payment) : Prop :=
  ∃ row ∈ db.booking, row.id = payment.bookingId ∧ row.tenantId = tenantId ∧
    row.status ∈ LAPSED_STATUSES

/-- The rows the guarded update of `markHandled` matches. -/
abbrev Payment.Handleable (tenantId id : Uuid) (db : Db) (payment : Payment) : Prop :=
  payment.id = id ∧ payment.status = .paid ∧ payment.handledAt = none ∧
    payment.OfLapsedBooking tenantId db

/-- Sets `handled_at` of one inbox item, and nothing else. -/
def markHandled (tenantId id : Uuid) (now : Instant) (db : Db) : HandleOutcome × Db :=
  if ∃ row ∈ db.payment, row.Handleable tenantId id db then
    (.handled now, { db with
      payment := Table.updateWhere (Payment.Handleable tenantId id db)
        (fun row => { row with handledAt := some now }) db.payment })
  else
    let existing := db.payment.find? fun row =>
      row.id = id ∧ row.status = .paid ∧ row.OfLapsedBooking tenantId db
    match existing.bind Payment.handledAt with
    | some handledAt => (.handled handledAt, db)
    | none => (.notFound, db)

/-! ### What a pay step commits -/

/-- The booking's unit and that unit's property are found, under the booking's tenant. -/
def Booking.Placed (row : Booking) (db : Db) : Prop :=
  ∃ unit property,
    (db.unit.find? fun unit => unit.id = row.unitId ∧ unit.tenantId = row.tenantId) = some unit ∧
    (db.property.find? fun property =>
      property.id = unit.propertyId ∧ property.tenantId = row.tenantId) = some property

/-- A booking the pay step has loaded and still reads as pending after its sweep. -/
theorem loaded_pending {tenantId bookingId unitId : Uuid} {now : Instant} {db : Db}
    {ctx : PayContext} (loaded : lockAndLoad tenantId bookingId db = some ctx)
    (read : readStatus tenantId bookingId (expireLapsedHolds tenantId unitId now db) =
      some .pendingPayment) :
    ∃ booking ∈ (expireLapsedHolds tenantId unitId now db).booking,
      booking.id = bookingId ∧ booking.status = .pendingPayment ∧
        booking.Placed (expireLapsedHolds tenantId unitId now db) := by
  unfold lockAndLoad at loaded
  simp only [Option.bind_eq_bind, Option.bind_eq_some_iff] at loaded
  obtain ⟨before, foundBefore, unit, foundUnit, property, foundProperty, -⟩ := loaded
  obtain ⟨booking, found, pending⟩ := Option.map_eq_some_iff.mp read
  have matched : booking.id = bookingId ∧ booking.tenantId = tenantId := by
    simpa using List.find?_some found
  refine ⟨booking, List.mem_of_find?_eq_some found, matched.1, pending, unit, property, ?_, ?_⟩
  · have sameUnit : booking.unitId = before.unitId := by
      unfold expireLapsedHolds Db.setBookingStatus at found
      dsimp only at found
      rw [Table.find?_updateWhere (by intro _ _; rfl), foundBefore, Option.map_some] at found
      rw [← Option.some.inj found]
      split
      · rfl
      · rfl
    rw [sameUnit, matched.2]
    exact foundUnit
  · rw [matched.2]
    exact foundProperty

/-- A pay step mints only where the booking has no pending payment. -/
theorem findOpenSession_eq_none {bookingId : Uuid} {db : Db}
    (absent : findOpenSession bookingId db = .ok none) :
    ∀ other ∈ db.payment, other.bookingId = bookingId → other.status ≠ .pending := by
  have empty : pendingPayments bookingId db = [] := by
    unfold findOpenSession at absent
    cases rows : pendingPayments bookingId db with
    | nil => rfl
    | cons row rest =>
      cases session : row.session with
      | none => simp [rows, session] at absent
      | some opened => simp [rows, session] at absent
  intro other member same pending
  have listed : other ∈ pendingPayments bookingId db := by
    refine (List.perm_insertionSort _ _).mem_iff.mpr (List.mem_filter.mpr ⟨member, ?_⟩)
    simp [same, pending]
  rw [empty] at listed
  cases listed

/-- A mint commits nothing, or one pending payment of the booking under a new id. -/
theorem mint_commits [PostgresServer] (env : PayEnvironment) (bookingId : Uuid)
    (totalPriceIdr : BigInt) (depositPct : Nat) (snap : HttpResponse) (now : Instant)
    (swept db : Db) :
    (mint env bookingId totalPriceIdr depositPct snap now swept).database db = db ∨
      ∃ row : Payment, row.id ∉ swept.payment.map Payment.id ∧ row.bookingId = bookingId ∧
        row.status = .pending ∧ row.handledAt = none ∧ 0 ≤ row.amountIdr ∧
        (mint env bookingId totalPriceIdr depositPct snap now swept).database db =
          { swept with payment := swept.payment ++ [row] } := by
  unfold mint
  dsimp only
  cases toRupiah (depositAmountIdr totalPriceIdr depositPct) with
  | error thrown => exact Or.inl rfl
  | ok rupiah =>
    cases env.gateway.createSession snap with
    | error thrown => exact Or.inl rfl
    | ok session =>
      dsimp only
      cases inserted : swept.insertPayment (mintedPayment
          (env.uuids.draw (swept.payment.map Payment.id)) bookingId env.gateway.provider
          (depositAmountIdr totalPriceIdr depositPct) session now) with
      | error error => exact Or.inl rfl
      | ok after =>
        dsimp only
        cases toResponse env.isUrl env.gateway.provider session
            (depositAmountIdr totalPriceIdr depositPct) totalPriceIdr with
        | error thrown => exact Or.inl rfl
        | ok response =>
          refine Or.inr ⟨_, ?_, ?_, ?_, ?_, Db.insertPayment_ok inserted⟩
          · exact env.uuids.fresh _
          · rfl
          · rfl
          · rfl

end Sambung
