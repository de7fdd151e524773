/-
This file states how pays, deliveries, sweeps and cancels interleave over one
database, statement by statement.

Every party runs one call at a time. A call reads the committed rows and its own
writes, and what it has written stays its own until it commits: until then the
rows it updated, the booking row it locked and the unique keys it inserted are
held, and a statement that needs one of them waits. Waiting is a step that is not
enabled. A crash, a thrown error and a deadlock victim all drop what the call has
written.

A statement that updates several rows is one step. It locks row by row, but a row
it has locked stays as it is until it commits, and a row that starts to match
later belongs to no sweep or cancel.
-/

import Sambung.Deliveries
import Sambung.Foundation.Locks
import Sambung.Payments

namespace Sambung

/-! ### Uncommitted writes -/

/-- What a statement has written and not committed. -/
inductive RowWrite where
  | booking (id : Uuid) (status : BookingStatus)
  | payment (id : Uuid) (status : PaymentStatus)
  | event (row : PaymentEvent)
  | mint (row : Payment)

/-- The write, on the committed rows. -/
def RowWrite.apply : RowWrite → Db → Db
  | .booking id status, db => db.setBookingStatus status fun row => row.id = id
  | .payment id status, db => { db with
      payment := Table.updateWhere (fun row => row.id = id) (fun row => { row with status })
        db.payment }
  | .event row, db => db.recordEvent row
  | .mint row, db => { db with payment := db.payment ++ [row] }

/-- A row or a unique key one call holds at a time. -/
inductive Resource where
  | booking (id : Uuid)
  | payment (id : Uuid)
  | event (provider providerEventId : String)
  | newPayment (id : Uuid)

def RowWrite.resource : RowWrite → Resource
  | .booking id _ => .booking id
  | .payment id _ => .payment id
  | .event row => .event row.provider row.providerEventId
  | .mint row => .newPayment row.id

/-- The database with writes applied: what their call sees, and what its commit leaves. -/
def withWrites (writes : List RowWrite) (db : Db) : Db :=
  writes.foldl (fun db write => write.apply db) db

/-! ### Calls -/

/-- A pay call, past the lookup of its tenant. `now` is `now()` of its transaction. -/
structure PayCall where
  tenantId : Uuid
  bookingId : Uuid
  now : Instant
  deriving DecidableEq

/-- A status update in one statement: the two sweeps and the owner's cancel. -/
inductive BookingUpdate where
  | expireLapsedHolds (tenantId unitId : Uuid) (now : Instant)
  | sweepExpiredHolds (now : Instant)
  | cancelById (tenantId id : Uuid)

def BookingUpdate.status : BookingUpdate → BookingStatus
  | .cancelById _ _ => .cancelled
  | _ => .expired

/-- The rows the statement matches. -/
def BookingUpdate.Matches : BookingUpdate → Booking → Prop
  | .expireLapsedHolds tenantId unitId now, row =>
    row.unitId = unitId ∧ row.tenantId = tenantId ∧ row.status = .pendingPayment ∧
      row.HoldLapsed now
  | .sweepExpiredHolds now, row => row.status = .pendingPayment ∧ row.HoldLapsed now
  | .cancelById tenantId id, row => row.Cancellable tenantId id

instance (update : BookingUpdate) : DecidablePred update.Matches := by
  intro row
  cases update <;> unfold BookingUpdate.Matches <;> infer_instance

/-- The new versions of the rows the statement matches. -/
def BookingUpdate.writes (update : BookingUpdate) (db : Db) : List RowWrite :=
  (db.booking.filter fun row => update.Matches row).map fun row => .booking row.id update.status

/-- `UPDATE payment SET status WHERE id AND status = 'pending'`: the new version, if any. -/
def paymentWrites (id : Uuid) (status : PaymentStatus) (db : Db) : List RowWrite :=
  if db.paymentStatus id = some .pending then [.payment id status] else []

/-- `UPDATE booking SET status = 'confirmed' WHERE id AND status = 'pending_payment'`: the new
version, if any. -/
def confirmWrites (id : Uuid) (db : Db) : List RowWrite :=
  if db.bookingStatus id = some .pendingPayment then [.booking id .confirmed] else []

/-- Where a call stands, with what it has read so far. -/
inductive Phase where
  | received (event : ParsedPaymentEvent)
  | resolved (event : ParsedPaymentEvent) (pay : Payment)
  | recorded (event : ParsedPaymentEvent) (pay : Payment)
  | paymentUpdated (event : ParsedPaymentEvent) (pay : Payment)
  | applied (event : ParsedPaymentEvent) (result : ApplyResult)
  | announcing (bookingId : Uuid)
  | asked (call : PayCall)
  | locked (call : PayCall) (ctx : PayContext)
  | swept (call : PayCall) (ctx : PayContext)
  | payable (call : PayCall) (totalPriceIdr : BigInt) (depositPct : Nat)
  | unminted (call : PayCall) (totalPriceIdr : BigInt) (depositPct : Nat)
  | sessioned (call : PayCall) (totalPriceIdr : BigInt) (depositPct : Nat)
      (session : PaymentSession)
  | answered (call : PayCall) (found : Option OpenSession) (gatewayCalls : Nat)
      (response : PaymentSessionResponse)
  | updated

/-- A call under way: where it stands, its uncommitted writes, and the booking it locked. -/
structure Txn where
  phase : Phase
  writes : List RowWrite
  lock : Option Uuid

/-- What a call keeps from every other: the rows and keys it wrote and the row it locked. -/
def Txn.Holds (txn : Txn) (resource : Resource) : Prop :=
  (∃ id ∈ txn.lock, resource = .booking id) ∨ ∃ write ∈ txn.writes, write.resource = resource

/-- What is on record of the calls that are over: an applied event, a notification sent, and the
answer of a pay call with the open session it found and the gateway calls it made. -/
inductive Entry where
  | applied (provider : String) (event : ParsedPaymentEvent) (result : ApplyResult)
  | notified (bookingId : Uuid)
  | paid (call : PayCall) (found : Option OpenSession) (gatewayCalls : Nat)
      (response : PaymentSessionResponse)

/-- The committed database, the calls under way by party, and the record. -/
structure Shared where
  db : Db
  txns : Nat → Option Txn
  log : List Entry

/-- A database with no call under way. -/
def Shared.start (db : Db) : Shared := ⟨db, fun _ => none, []⟩

/-- No other party holds what the writes touch. -/
def Shared.Free (shared : Shared) (party : Nat) (writes : List RowWrite) : Prop :=
  ∀ write ∈ writes, Locks.Free Txn.Holds shared.txns party write.resource

/-- The party's call goes on to a new state. -/
def Shared.put (shared : Shared) (party : Nat) (txn : Txn) : Shared :=
  { shared with txns := Function.update shared.txns party (some txn) }

/-- The party's call is over, and nothing it wrote and did not commit is left. -/
def Shared.drop (shared : Shared) (party : Nat) : Shared :=
  { shared with txns := Function.update shared.txns party none }

/-- The party's call commits: its writes are the database's, and its locks are gone. -/
def Shared.commit (shared : Shared) (party : Nat) (writes : List RowWrite) (next : Option Txn)
    (entries : List Entry) : Shared where
  db := withWrites writes shared.db
  txns := Function.update shared.txns party next
  log := shared.log ++ entries

/-- What a delivery goes on with after its commit. -/
def ApplyResult.next (result : ApplyResult) : Option Txn :=
  (afterCommit result).map fun bookingId => ⟨.announcing bookingId, [], none⟩

/-! ### Steps -/

/-- One step of one party. -/
inductive Step [PostgresServer] (env : PayEnvironment) (shared : Shared) : Nat → Shared → Prop
  /-- A delivery has read the credential and verified its event. -/
  | receive (party : Nat) (idle : shared.txns party = none) (delivery : Delivery)
      (event : ParsedPaymentEvent)
      (received : delivery.received env.gateway env.decrypt shared.db = .ok (some event)) :
      Step env shared party (shared.put party ⟨.received event, [], none⟩)
  /-- Its transaction reads the payment. -/
  | resolve (party : Nat) (event : ParsedPaymentEvent) (pay : Payment)
      (runs : shared.txns party = some ⟨.received event, [], none⟩)
      (found : event.payment shared.db = some pay) :
      Step env shared party (shared.put party ⟨.resolved event pay, [], none⟩)
  /-- No payment has the order's id. -/
  | unknown (party : Nat) (event : ParsedPaymentEvent) (orderId : Uuid)
      (runs : shared.txns party = some ⟨.received event, [], none⟩)
      (parsed : parseUuid event.orderId = some orderId)
      (absent : shared.db.paymentById orderId = none) :
      Step env shared party (shared.put party ⟨.applied event .unknownOrder, [], none⟩)
  /-- It inserts the event. -/
  | record (party : Nat) (event : ParsedPaymentEvent) (pay : Payment)
      (runs : shared.txns party = some ⟨.resolved event pay, [], none⟩)
      (recordable : event.Recordable env.gateway.provider shared.db)
      (free : shared.Free party [.event (event.row env.gateway.provider pay.bookingId)]) :
      Step env shared party (shared.put party ⟨.recorded event pay,
        [.event (event.row env.gateway.provider pay.bookingId)], none⟩)
  /-- The amount differs, or the outcome moves nothing. -/
  | disregard (party : Nat) (event : ParsedPaymentEvent) (pay : Payment) (writes : List RowWrite)
      (runs : shared.txns party = some ⟨.recorded event pay, writes, none⟩)
      (quiet : event.grossAmountIdr ≠ pay.amountIdr ∨
        (event.outcome ≠ .settlement ∧ event.outcome ≠ .failure)) :
      Step env shared party
        (shared.put party ⟨.applied event (applyOutcome event pay shared.db).1, writes, none⟩)
  /-- A failure updates the payment. -/
  | fail (party : Nat) (event : ParsedPaymentEvent) (pay : Payment) (writes : List RowWrite)
      (runs : shared.txns party = some ⟨.recorded event pay, writes, none⟩)
      (same : event.grossAmountIdr = pay.amountIdr) (failure : event.outcome = .failure)
      (free : shared.Free party (paymentWrites pay.id .failed shared.db)) :
      Step env shared party (shared.put party ⟨.applied event (.failure pay.bookingId),
        writes ++ paymentWrites pay.id .failed shared.db, none⟩)
  /-- A settlement updates the payment. -/
  | settle (party : Nat) (event : ParsedPaymentEvent) (pay : Payment) (writes : List RowWrite)
      (runs : shared.txns party = some ⟨.recorded event pay, writes, none⟩)
      (same : event.grossAmountIdr = pay.amountIdr) (settlement : event.outcome = .settlement)
      (free : shared.Free party (paymentWrites pay.id .paid shared.db)) :
      Step env shared party (shared.put party ⟨.paymentUpdated event pay,
        writes ++ paymentWrites pay.id .paid shared.db, none⟩)
  /-- Then it confirms the booking. -/
  | confirm (party : Nat) (event : ParsedPaymentEvent) (pay : Payment) (writes : List RowWrite)
      (runs : shared.txns party = some ⟨.paymentUpdated event pay, writes, none⟩)
      (free : shared.Free party (confirmWrites pay.bookingId shared.db)) :
      Step env shared party (shared.put party
        ⟨.applied event (.settlement pay.bookingId
          (shared.db.bookingStatus pay.bookingId = some .pendingPayment)),
        writes ++ confirmWrites pay.bookingId shared.db, none⟩)
  /-- The delivery commits. -/
  | commitEvent (party : Nat) (event : ParsedPaymentEvent) (result : ApplyResult)
      (writes : List RowWrite)
      (runs : shared.txns party = some ⟨.applied event result, writes, none⟩) :
      Step env shared party (shared.commit party writes result.next
        [.applied env.gateway.provider event result])
  /-- The confirmation is announced. -/
  | announce (party : Nat) (bookingId : Uuid)
      (runs : shared.txns party = some ⟨.announcing bookingId, [], none⟩) :
      Step env shared party (shared.commit party [] none [.notified bookingId])
  /-- A pay call has found its tenant and the tenant's credential. -/
  | ask (party : Nat) (idle : shared.txns party = none) (booking : Booking) (now : Instant)
      (found : shared.db.bookingById booking.id = some booking)
      (able : (forGatewayOrThrow env.gateway env.decrypt booking.tenantId shared.db).isOk) :
      Step env shared party
        (shared.put party ⟨.asked ⟨booking.tenantId, booking.id, now⟩, [], none⟩)
  /-- Its transaction locks the booking and loads the context. -/
  | lock (party : Nat) (call : PayCall) (ctx : PayContext)
      (runs : shared.txns party = some ⟨.asked call, [], none⟩)
      (loaded : lockAndLoad call.tenantId call.bookingId shared.db = some ctx)
      (free : Locks.Free Txn.Holds shared.txns party (.booking call.bookingId)) :
      Step env shared party (shared.put party ⟨.locked call ctx, [], some call.bookingId⟩)
  /-- It sweeps the unit's dead holds. -/
  | sweep (party : Nat) (call : PayCall) (ctx : PayContext)
      (runs : shared.txns party = some ⟨.locked call ctx, [], some call.bookingId⟩)
      (free : shared.Free party ((BookingUpdate.expireLapsedHolds call.tenantId ctx.unitId
        call.now).writes shared.db)) :
      Step env shared party (shared.put party ⟨.swept call ctx,
        (BookingUpdate.expireLapsedHolds call.tenantId ctx.unitId call.now).writes shared.db,
        some call.bookingId⟩)
  /-- It reads the status again: the booking is still to be paid. -/
  | read (party : Nat) (call : PayCall) (ctx : PayContext) (totalPriceIdr : BigInt)
      (writes : List RowWrite)
      (runs : shared.txns party = some ⟨.swept call ctx, writes, some call.bookingId⟩)
      (pending : readStatus call.tenantId call.bookingId (withWrites writes shared.db) =
        some .pendingPayment)
      (total : ctx.totalPriceIdr = some totalPriceIdr) :
      Step env shared party (shared.put party
        ⟨.payable call totalPriceIdr ctx.depositPct, writes, some call.bookingId⟩)
  /-- It finds an open session and answers with it. -/
  | reuse (party : Nat) (call : PayCall) (totalPriceIdr : BigInt) (depositPct : Nat)
      (opened : OpenSession) (response : PaymentSessionResponse) (writes : List RowWrite)
      (runs : shared.txns party =
        some ⟨.payable call totalPriceIdr depositPct, writes, some call.bookingId⟩)
      (found : findOpenSession call.bookingId (withWrites writes shared.db) = .ok (some opened))
      (framed : toResponse env.isUrl opened.provider ⟨opened.token, opened.redirectUrl⟩
        opened.amountIdr totalPriceIdr = .ok response) :
      Step env shared party (shared.put party
        ⟨.answered call (some opened) 0 response, writes, some call.bookingId⟩)
  /-- It finds none. -/
  | search (party : Nat) (call : PayCall) (totalPriceIdr : BigInt) (depositPct : Nat)
      (writes : List RowWrite)
      (runs : shared.txns party =
        some ⟨.payable call totalPriceIdr depositPct, writes, some call.bookingId⟩)
      (absent : findOpenSession call.bookingId (withWrites writes shared.db) = .ok none) :
      Step env shared party (shared.put party
        ⟨.unminted call totalPriceIdr depositPct, writes, some call.bookingId⟩)
  /-- The gateway opens a session. -/
  | openSession (party : Nat) (call : PayCall) (totalPriceIdr : BigInt) (depositPct : Nat)
      (snap : HttpResponse) (session : PaymentSession) (writes : List RowWrite)
      (runs : shared.txns party =
        some ⟨.unminted call totalPriceIdr depositPct, writes, some call.bookingId⟩)
      (rupiah : (toRupiah (depositAmountIdr totalPriceIdr depositPct)).isOk)
      (opened : env.gateway.createSession snap = .ok session) :
      Step env shared party (shared.put party
        ⟨.sessioned call totalPriceIdr depositPct session, writes, some call.bookingId⟩)
  /-- The gateway fails or times out, and the pay call throws. -/
  | refuseSession (party : Nat) (call : PayCall) (totalPriceIdr : BigInt) (depositPct : Nat)
      (snap : HttpResponse) (thrown : Thrown) (writes : List RowWrite)
      (runs : shared.txns party =
        some ⟨.unminted call totalPriceIdr depositPct, writes, some call.bookingId⟩)
      (refused : env.gateway.createSession snap = .error thrown) :
      Step env shared party (shared.drop party)
  /-- It inserts the payment with the session. -/
  | insert (party : Nat) (call : PayCall) (totalPriceIdr : BigInt) (depositPct : Nat)
      (session : PaymentSession) (id : Uuid) (after : Db) (response : PaymentSessionResponse)
      (writes : List RowWrite)
      (runs : shared.txns party =
        some ⟨.sessioned call totalPriceIdr depositPct session, writes, some call.bookingId⟩)
      (fresh : id ∉ shared.db.payment.map Payment.id)
      (inserted : (withWrites writes shared.db).insertPayment (mintedPayment id call.bookingId
        env.gateway.provider (depositAmountIdr totalPriceIdr depositPct) session call.now) =
          .ok after)
      (free : shared.Free party [.mint (mintedPayment id call.bookingId env.gateway.provider
        (depositAmountIdr totalPriceIdr depositPct) session call.now)])
      (framed : toResponse env.isUrl env.gateway.provider session
        (depositAmountIdr totalPriceIdr depositPct) totalPriceIdr = .ok response) :
      Step env shared party (shared.put party ⟨.answered call none 1 response,
        writes ++ [.mint (mintedPayment id call.bookingId env.gateway.provider
          (depositAmountIdr totalPriceIdr depositPct) session call.now)], some call.bookingId⟩)
  /-- The pay call commits. -/
  | commitPay (party : Nat) (call : PayCall) (found : Option OpenSession) (gatewayCalls : Nat)
      (response : PaymentSessionResponse) (writes : List RowWrite)
      (runs : shared.txns party =
        some ⟨.answered call found gatewayCalls response, writes, some call.bookingId⟩) :
      Step env shared party
        (shared.commit party writes none [.paid call found gatewayCalls response])
  /-- A sweep or a cancel updates its rows. -/
  | update (party : Nat) (idle : shared.txns party = none) (update : BookingUpdate)
      (free : shared.Free party (update.writes shared.db)) :
      Step env shared party (shared.put party ⟨.updated, update.writes shared.db, none⟩)
  /-- It commits. -/
  | commitUpdate (party : Nat) (writes : List RowWrite)
      (runs : shared.txns party = some ⟨.updated, writes, none⟩) :
      Step env shared party (shared.commit party writes none [])
  /-- A call crashes or throws at any point, before its commit or after it. -/
  | crash (party : Nat) (txn : Txn) (runs : shared.txns party = some txn) :
      Step env shared party (shared.drop party)

/-- The states an interleaving reaches. -/
abbrev Reached [PostgresServer] (env : PayEnvironment) : Shared → Shared → Prop :=
  Relation.ReflTransGen fun before after => ∃ party, Step env before party after

end Sambung
