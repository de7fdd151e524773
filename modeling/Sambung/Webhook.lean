/-
This file states the idempotent payment webhook, `payment-webhook.service.ts`: the
tenant's credential behind an order id, the transaction that records an event and
applies its outcome under the guards on the current statuses, and the two entry
points, the pushed notification and the pulled status.

The answer of an entry point names the booking whose confirmation it announced, if
any: `notifyBookingConfirmed` is called after the commit and cannot fail it.

The event is recorded before it is applied, in one transaction, and the unique
index on its provider and id is what makes a second delivery a duplicate. The
catch reads the name of the constraint alone. An id too long for the index raises
another error under that name, so it is taken for a duplicate as well and nothing
is applied: `Recordable` says when the row can be inserted, and every result on
deliveries goes through it.
-/

import Sambung.Bookings
import Sambung.Gateway

namespace Sambung

/-! ### The tenant's credential -/

/-- `decryptCredential` under the application's key: ciphertext and nonce to the server
key, or the exception of a key or a row that does not authenticate. -/
abbrev Decrypt := List UInt8 → List UInt8 → Except Thrown String

def FAKE_CREDENTIAL : GatewayCredential := ⟨"fake", .sandbox⟩

/-- `CredentialResolver.maybeResolve` with its default provider. -/
def maybeResolve (decrypt : Decrypt) (tenantId : Uuid) (db : Db) :
    Except Thrown (Option GatewayCredential) :=
  match db.tenantPaymentCredential.find? fun row =>
      row.tenantId = tenantId ∧ row.provider = "midtrans" with
  | none => .ok none
  | some row =>
    (decrypt row.ciphertext row.nonce).map fun serverKey =>
      some { serverKey, environment := row.environment }

/-- The tenant behind an order: payment, then booking. -/
def orderTenant (orderId : Uuid) (db : Db) : Option Uuid := do
  let payment ← db.paymentById orderId
  let booking ← db.bookingById payment.bookingId
  some booking.tenantId

/-- The credential of the tenant an order id names, `none` where the chain breaks. -/
def credentialForOrder (gateway : PaymentGateway) (decrypt : Decrypt) (orderId : String)
    (db : Db) : Except Thrown (Option GatewayCredential) :=
  if ¬ gateway.requiresCredentials then .ok (some FAKE_CREDENTIAL)
  else
    match parseUuid orderId with
    | none => .error (.pg .invalidUuid)
    | some orderId =>
      match orderTenant orderId db with
      | none => .ok none
      | some tenantId => maybeResolve decrypt tenantId db

/-! ### The transaction -/

/-- What one delivery did. -/
inductive ApplyResult where
  | unknownOrder
  | amountMismatch (bookingId : Uuid) (expected got : BigInt)
  | settlement (bookingId : Uuid) (confirmed : Bool)
  | failure (bookingId : Uuid)
  | noop (outcome : PaymentOutcome)
  deriving DecidableEq, Repr

/-- `UPDATE payment SET status WHERE id AND status = 'pending'`. -/
def Db.settlePayment (id : Uuid) (status : PaymentStatus) (db : Db) : Db :=
  { db with
    payment := Table.updateWhere (fun row => row.id = id ∧ row.status = .pending)
      (fun row => { row with status }) db.payment }

/-- The row a confirmation matches: a hold that is still pending, whatever its TTL. -/
abbrev Booking.Confirmable (id : Uuid) (row : Booking) : Prop :=
  row.id = id ∧ row.status = .pendingPayment

/-- `UPDATE booking SET status = 'confirmed' WHERE id AND status = 'pending_payment'`. -/
def Db.confirmBooking (id : Uuid) (db : Db) : Db :=
  db.setBookingStatus .confirmed (Booking.Confirmable id)

/-- The state transition of an event on the payment it names. -/
def applyOutcome (event : ParsedPaymentEvent) (pay : Payment) (db : Db) : ApplyResult × Db :=
  if event.grossAmountIdr ≠ pay.amountIdr then
    (.amountMismatch pay.bookingId pay.amountIdr event.grossAmountIdr, db)
  else
    match event.outcome with
    | .settlement =>
      let paid := db.settlePayment pay.id .paid
      let confirmed := Table.matching (Booking.Confirmable pay.bookingId) paid.booking
      (.settlement pay.bookingId (confirmed.length > 0), paid.confirmBooking pay.bookingId)
    | .failure => (.failure pay.bookingId, db.settlePayment pay.id .failed)
    | outcome => (.noop outcome, db)

/-- The `payment_event` row of an event on a booking. -/
def ParsedPaymentEvent.row (event : ParsedPaymentEvent) (provider : String) (bookingId : Uuid) :
    PaymentEvent where
  provider
  providerEventId := event.providerEventId
  bookingId := some bookingId
  rawPayload := event.raw

/-- Inside the transaction: resolve the payment, record the event, then apply it. -/
def apply [PostgresServer] (provider : String) (event : ParsedPaymentEvent) (db : Db) :
    Except PgError (ApplyResult × Db) :=
  match parseUuid event.orderId with
  | none => .error .invalidUuid
  | some orderId =>
    match db.paymentById orderId with
    | none => .ok (.unknownOrder, db)
    | some pay =>
      (db.insertPaymentEvent (event.row provider pay.bookingId)).map (applyOutcome event pay)

/-! ### The entry points -/

/-- The booking a delivery announces after its commit. -/
def afterCommit : ApplyResult → Option Uuid
  | .settlement bookingId true => some bookingId
  | _ => none

/-- The transaction with its catch. Only the name of the constraint is read, so that an error under
the name of the event's unique index counts as an event that was already processed: a duplicate,
and as well an id too long for the index. Every other error is thrown on. -/
def recordAndApply [PostgresServer] (provider : String) (event : ParsedPaymentEvent) (db : Db) :
    Answer (Option Uuid) :=
  match apply provider event db with
  | .ok (result, after) => .ok (afterCommit result, after)
  | .error error =>
    if error.constraint = some .paymentEventProviderEventUniq then .ok (none, db)
    else .error (.pg error)

/-- The read half of `handle`: the verified event of a pushed body, `none` where the order
cannot be verified and is acknowledged. -/
def receive (gateway : PaymentGateway) (decrypt : Decrypt) (providerParam : String) (body : Json)
    (db : Db) : Except Thrown (Option ParsedPaymentEvent) :=
  if providerParam ≠ gateway.provider then
    .error (.notFound ("Unknown payment provider: " ++ providerParam))
  else
    match gateway.peekOrderId body with
    | none => .error (.badRequest "Webhook payload carries no order id")
    | some orderId => do
      match ← credentialForOrder gateway decrypt orderId db with
      | none => return none
      | some credential => some <$> gateway.verifyAndParse body credential

/-- The read half of `reconcile`: the verified event of the provider's status. -/
def pull (gateway : PaymentGateway) (decrypt : Decrypt) (orderId : String)
    (response : HttpResponse) (db : Db) : Except Thrown (Option ParsedPaymentEvent) := do
  match ← credentialForOrder gateway decrypt orderId db with
  | none => return none
  | some credential => gateway.fetchStatus credential response

/-- The write half both entry points share. -/
def settleEvent [PostgresServer] (provider : String)
    (received : Except Thrown (Option ParsedPaymentEvent)) (db : Db) : Answer (Option Uuid) :=
  match received with
  | .error thrown => .error thrown
  | .ok none => .ok (none, db)
  | .ok (some event) => recordAndApply provider event db

/-- One pushed delivery. -/
def handle [PostgresServer] (gateway : PaymentGateway) (decrypt : Decrypt) (providerParam : String)
    (body : Json) (db : Db) : Answer (Option Uuid) :=
  settleEvent gateway.provider (receive gateway decrypt providerParam body db) db

/-- One read-time pull, with the provider's answer. -/
def reconcile [PostgresServer] (gateway : PaymentGateway) (decrypt : Decrypt) (orderId : String)
    (response : HttpResponse) (db : Db) : Answer (Option Uuid) :=
  settleEvent gateway.provider (pull gateway decrypt orderId response db) db

/-- A body whose order has a credential is received as the event the adapter verifies. -/
theorem receive_eq_ok {gateway : PaymentGateway} {decrypt : Decrypt} {body : Json} {db : Db}
    {orderId : String} {credential : GatewayCredential} {event : ParsedPaymentEvent}
    (peeked : gateway.peekOrderId body = some orderId)
    (resolved : credentialForOrder gateway decrypt orderId db = .ok (some credential))
    (verified : gateway.verifyAndParse body credential = .ok event) :
    receive gateway decrypt gateway.provider body db = .ok (some event) := by
  unfold receive
  rw [if_neg (not_not.mpr rfl), peeked]
  simp only [resolved, bind, Except.bind, verified]
  rfl

/-! ### What a delivery commits -/

/-- The database with one more event on record. -/
def Db.recordEvent (row : PaymentEvent) (db : Db) : Db :=
  { db with paymentEvent := db.paymentEvent ++ [row] }

/-- The event's values fit their columns: its texts hold no U+0000, `jsonb` takes the document it
came in, and its id is no longer than the unique index takes. -/
structure ParsedPaymentEvent.Storable [PostgresServer] (event : ParsedPaymentEvent)
    (provider : String) : Prop where
  providerText : pgText provider
  idText : pgText event.providerEventId
  document : event.raw.storable
  indexed : eventIndexRefusal provider event.providerEventId = none

theorem ParsedPaymentEvent.row_storable [PostgresServer] {event : ParsedPaymentEvent}
    {provider : String} (bookingId : Uuid) :
    (event.row provider bookingId).storable ↔ event.Storable provider := by
  simp only [PaymentEvent.storable, ParsedPaymentEvent.row, Bool.and_eq_true,
    Option.isNone_iff_eq_none]
  exact ⟨fun ⟨⟨⟨providerText, idText⟩, document⟩, indexed⟩ =>
      ⟨providerText, idText, document, indexed⟩,
    fun storable =>
      ⟨⟨⟨storable.providerText, storable.idText⟩, storable.document⟩, storable.indexed⟩⟩

instance [PostgresServer] (event : ParsedPaymentEvent) (provider : String) :
    Decidable (event.Storable provider) :=
  decidable_of_iff _ (event.row_storable 0)

/-- The event's row can be inserted: its values fit their columns, and its id is new. -/
def ParsedPaymentEvent.Recordable [PostgresServer] (event : ParsedPaymentEvent) (provider : String)
    (db : Db) :
    Prop :=
  event.Storable provider ∧ db.EventUnrecorded provider event.providerEventId

instance [PostgresServer] (event : ParsedPaymentEvent) (provider : String) (db : Db) :
    Decidable (event.Recordable provider db) := by
  unfold ParsedPaymentEvent.Recordable; infer_instance

/-- The payment an event names. -/
def ParsedPaymentEvent.payment (event : ParsedPaymentEvent) (db : Db) : Option Payment :=
  (parseUuid event.orderId).bind db.paymentById

/-- A recordable event on a payment we have is recorded and applied. -/
theorem apply_recordable [PostgresServer] {provider : String} {event : ParsedPaymentEvent} {db : Db}
    {pay : Payment} (found : event.payment db = some pay)
    (recordable : event.Recordable provider db) :
    apply provider event db =
      .ok (applyOutcome event pay (db.recordEvent (event.row provider pay.bookingId))) := by
  obtain ⟨orderId, parsed, known⟩ := Option.bind_eq_some_iff.mp found
  obtain ⟨storable, unrecorded⟩ := recordable
  have inserted : db.insertPaymentEvent (event.row provider pay.bookingId) =
      .ok (db.recordEvent (event.row provider pay.bookingId)) := by
    exact Db.insertPaymentEvent_eq_ok.mpr
      ⟨⟨(event.row_storable pay.bookingId).mpr storable, unrecorded⟩, rfl⟩
  unfold apply
  simp only [parsed, known, inserted]
  rfl

/-- A delivery whose transaction fails, as a duplicate or otherwise, changes nothing. -/
theorem recordAndApply_failed [PostgresServer] {provider : String} {event : ParsedPaymentEvent}
    {db : Db} {error : PgError} (failed : apply provider event db = .error error) :
    (recordAndApply provider event db).database db = db := by
  rw [recordAndApply, failed]
  dsimp only
  split
  · rfl
  · rfl

/-- Every other event, about a payment we do not have or whose row cannot be inserted, leaves the
database alone. -/
theorem recordAndApply_unrecordable [PostgresServer] {provider : String}
    {event : ParsedPaymentEvent} {db : Db}
    (ignored : event.payment db = none ∨ ¬ event.Recordable provider db) :
    (recordAndApply provider event db).database db = db := by
  cases parsed : parseUuid event.orderId with
  | none => exact recordAndApply_failed (by rw [apply, parsed])
  | some orderId =>
    cases known : db.paymentById orderId with
    | none =>
      have unknown : apply provider event db = .ok (.unknownOrder, db) := by
        simp only [apply, parsed, known]
      rw [recordAndApply, unknown]
      rfl
    | some pay =>
      have refused : ¬ event.Recordable provider db := by
        refine ignored.resolve_left fun absent => ?_
        simp [ParsedPaymentEvent.payment, parsed, known] at absent
      cases inserted : db.insertPaymentEvent (event.row provider pay.bookingId) with
      | ok after =>
        obtain ⟨⟨storable, unrecorded⟩, -⟩ := Db.insertPaymentEvent_eq_ok.mp inserted
        exact absurd ⟨(event.row_storable pay.bookingId).mp storable, unrecorded⟩ refused
      | error error =>
        have failed : apply provider event db = .error error := by
          simp only [apply, parsed, known, inserted]
          rfl
        exact recordAndApply_failed failed

/-- A recordable event on a payment we have commits its record and its outcome. -/
theorem recordAndApply_recorded [PostgresServer] {provider : String} {event : ParsedPaymentEvent}
    {db : Db} {pay : Payment} (found : event.payment db = some pay)
    (recordable : event.Recordable provider db) :
    (recordAndApply provider event db).database db =
      (applyOutcome event pay (db.recordEvent (event.row provider pay.bookingId))).2 := by
  rw [recordAndApply, apply_recordable found recordable]
  rfl

/-- What one event does to the database: nothing without its payment or a row that can be inserted,
and else its record and its outcome. -/
theorem recordAndApply_database [PostgresServer] (provider : String) (event : ParsedPaymentEvent)
    (db : Db) :
    (recordAndApply provider event db).database db =
      match event.payment db with
      | none => db
      | some pay =>
        if event.Recordable provider db then
          (applyOutcome event pay (db.recordEvent (event.row provider pay.bookingId))).2
        else db := by
  cases found : event.payment db with
  | none => exact recordAndApply_unrecordable (Or.inl found)
  | some pay =>
    by_cases recordable : event.Recordable provider db
    · simp only [recordable, if_true]
      exact recordAndApply_recorded found recordable
    · simp only [recordable, if_false]
      exact recordAndApply_unrecordable (Or.inr recordable)

/-- What applying an event does to the database: nothing, a settlement, or a failure. -/
theorem applyOutcome_database (event : ParsedPaymentEvent) (pay : Payment) (db : Db) :
    (applyOutcome event pay db).2 =
      if event.grossAmountIdr = pay.amountIdr then
        match event.outcome with
        | .settlement => (db.settlePayment pay.id .paid).confirmBooking pay.bookingId
        | .failure => db.settlePayment pay.id .failed
        | _ => db
      else db := by
  unfold applyOutcome
  by_cases same : event.grossAmountIdr = pay.amountIdr
  · rw [if_neg (not_not.mpr same), if_pos same]
    cases event.outcome <;> rfl
  · rw [if_pos same, if_neg same]

end Sambung
