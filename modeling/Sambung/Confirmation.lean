/-
This file states the confirmation page's read, `confirmation.service.ts`, and
proves when it recovers a settlement whose notification was lost.

The read asks the provider about the booking's open payment, settles what comes
back through the webhook's transaction, sweeps the unit and shows what is then on
record. It asks about a pending payment only: a payment that failed before is not
asked about, whatever the provider has to report of it since.

What the provider answers is an input for each order, so a lost settlement is a
provider that reports one no delivery has brought. The order asked about is the
newest pending payment's, and is the right one because a booking has one live
payment at most, which every history keeps. The page sums the paid payments and
passes the schema of the response; a page that cannot be written is an error after
the money was counted, which is why the theorem asks that it can.
-/

import Sambung.LivePayment

namespace Sambung

/-! ### The link -/

/-- The characters `encodeURIComponent` keeps. -/
def uriUnreserved (c : Char) : Bool :=
  c.isAlphanum || "-_.!~*'()".toList.contains c

/-- One byte, percent-encoded. -/
def percentByte (byte : UInt8) : Text :=
  ['%', (Nat.digitChar (byte.toNat / 16)).toUpper, (Nat.digitChar (byte.toNat % 16)).toUpper]

def encodeURIComponent (text : Text) : Text :=
  text.flatMap fun c =>
    if uriUnreserved c then [c] else (String.utf8EncodeChar c).flatMap percentByte

/-- A canonical E.164 number without its plus, and nothing of any other text. -/
def normalizeWaPhone (raw : Option String) : Text :=
  match trim (raw.getD "").toList with
  | '+' :: first :: rest =>
    if first.isDigit ∧ first ≠ '0' ∧ 7 ≤ rest.length ∧ rest.length ≤ 14 ∧ rest.all Char.isDigit then
      first :: rest
    else []
  | _ => []

structure WaMeLinkInput where
  phone : Option String
  guestName : Option String
  propertyName : String
  unitName : String
  checkIn : Text
  checkOut : Text

/-- The prefilled link to the guest's own number. -/
def buildWaMeLink (input : WaMeLinkInput) : Option Text :=
  match normalizeWaPhone input.phone with
  | [] => none
  | phone =>
    let greeting := match input.guestName with
      | some name => if name = "" then "Here's your booking:" else
          "Hi " ++ name ++ ", here's your booking:"
      | none => "Here's your booking:"
    let lines := [greeting.toList, (input.propertyName ++ " - " ++ input.unitName).toList,
      "Check-in: ".toList ++ input.checkIn, "Check-out: ".toList ++ input.checkOut]
    some ("https://wa.me/".toList ++ phone ++ "?text=".toList ++
      encodeURIComponent (['\n'].intercalate lines))

/-! ### The read -/

structure ConfirmationView where
  status : BookingStatus
  unitId : Uuid
  checkIn : PgDate
  checkOut : PgDate
  propertyName : String
  unitName : String
  totalPriceIdr : Option BigInt
  guestName : Option String
  guestPhone : Option String
  amountPaidIdr : BigInt

structure BookingConfirmationResponse where
  status : BookingStatus
  checkIn : Text
  checkOut : Text
  propertyName : String
  unitName : String
  totalPriceIdr : Option BigInt
  amountPaidIdr : BigInt
  balanceIdr : Option BigInt
  waLink : Option Text

def readStatusAndUnit (tenantId bookingId : Uuid) (db : Db) : Option (BookingStatus × Uuid) :=
  (db.booking.find? fun row => row.id = bookingId ∧ row.tenantId = tenantId).map
    fun row => (row.status, row.unitId)

/-- The order id of the booking's open payment, newest first. -/
def findPendingPaymentOrderId (bookingId : Uuid) (db : Db) : Option Uuid :=
  (pendingPayments bookingId db).head?.map Payment.id

/-- `sum(amount_idr)` over the booking's paid payments. -/
def amountPaid (bookingId : Uuid) (db : Db) : BigInt :=
  ((db.payment.filter fun row => row.bookingId = bookingId ∧ row.status = .paid).map
    Payment.amountIdr).sum

def readConfirmationView (tenantId bookingId : Uuid) (db : Db) : Option ConfirmationView := do
  let booking ← db.booking.find? fun row => row.id = bookingId ∧ row.tenantId = tenantId
  let unit ← db.unit.find? fun unit => unit.id = booking.unitId ∧ unit.tenantId = tenantId
  let property ← db.property.find? fun property =>
    property.id = unit.propertyId ∧ property.tenantId = tenantId
  some {
    status := booking.status
    unitId := booking.unitId
    checkIn := booking.checkIn
    checkOut := booking.checkOut
    propertyName := property.name
    unitName := unit.name
    totalPriceIdr := booking.totalPriceIdr
    guestName := booking.guestName
    guestPhone := booking.guestPhone
    amountPaidIdr := amountPaid bookingId db }

/-- The link of the view. -/
def ConfirmationView.waLink (v : ConfirmationView) : Option Text :=
  buildWaMeLink {
    phone := v.guestPhone
    guestName := v.guestName
    propertyName := v.propertyName
    unitName := v.unitName
    checkIn := dateText v.checkIn
    checkOut := dateText v.checkOut }

/-- Frames the 200: money through `toRupiah`, then the schema's dates and link. -/
def frame (isUrl : String → Bool) (v : ConfirmationView) :
    Except Thrown BookingConfirmationResponse := do
  let totalPriceIdr ← v.totalPriceIdr.mapM toRupiah
  let amountPaidIdr ← toRupiah v.amountPaidIdr
  let balanceIdr ← v.totalPriceIdr.mapM fun total =>
    toRupiah (if total > v.amountPaidIdr then total - v.amountPaidIdr else 0)
  let checkIn := dateText v.checkIn
  let checkOut := dateText v.checkOut
  if (isoDay checkIn).isNone then throw (.error "ZodError: checkIn")
  if (isoDay checkOut).isNone then throw (.error "ZodError: checkOut")
  if v.waLink.any fun link => !isUrl (String.ofList link) then
    throw (.error "ZodError: waLink")
  return {
    status := v.status
    checkIn
    checkOut
    propertyName := v.propertyName
    unitName := v.unitName
    totalPriceIdr
    amountPaidIdr
    balanceIdr
    waLink := v.waLink }

/-- The provider's answers to a status request, by order. -/
abbrev ProviderStatus := Uuid → HttpResponse

/-- Reconciles a pending booking and sweeps its unit. What either throws is logged and
swallowed. The answer names the booking whose confirmation was announced, if any. -/
def reconcileOnRead [PostgresServer] (env : PayEnvironment) (tenantId bookingId : Uuid)
    (provider : ProviderStatus) (now : Instant) (db : Db) : Option Uuid × Db :=
  match readStatusAndUnit tenantId bookingId db with
  | some (.pendingPayment, unitId) =>
    match findPendingPaymentOrderId bookingId db with
    | none => (none, expireLapsedHolds tenantId unitId now db)
    | some orderId =>
      match reconcile env.gateway env.decrypt (uuidText orderId) (provider orderId) db with
      | .error _ => (none, expireLapsedHolds tenantId unitId now db)
      | .ok (announced, after) => (announced, expireLapsedHolds tenantId unitId now after)
  | _ => (none, db)

/-- `GET /public/bookings/:id`: the response, and the database the read leaves. -/
def getConfirmation [PostgresServer] (env : PayEnvironment) (bookingId : Uuid)
    (provider : ProviderStatus) (now : Instant) (db : Db) :
    Except Thrown BookingConfirmationResponse × Db :=
  match db.bookingById bookingId with
  | none => (.error (.notFound "Booking not found"), db)
  | some booking =>
    let after := (reconcileOnRead env booking.tenantId bookingId provider now db).2
    match readConfirmationView booking.tenantId bookingId after with
    | none => (.error (.notFound "Booking not found"), after)
    | some view => (frame env.isUrl view, after)

/-! ### A lost settlement -/

/-- The provider's status of the payment's order, fetched now, would be its settlement. -/
structure ReportsSettlement (env : PayEnvironment) (provider : ProviderStatus) (pay : Payment)
    (event : ParsedPaymentEvent) (db : Db) : Prop where
  fetched : pull env.gateway env.decrypt (uuidText pay.id) (provider pay.id) db = .ok (some event)
  named : parseUuid event.orderId = some pay.id
  settles : event.Settles pay.amountIdr

/-- The read confirms the booking and counts the payment as paid. -/
def Recovers [PostgresServer] (env : PayEnvironment) (bookingId : Uuid) (provider : ProviderStatus)
    (pay : Payment) (now : Instant) (db : Db) : Prop :=
  ∃ response, (getConfirmation env bookingId provider now db).1 = .ok response ∧
    response.status = .confirmed ∧ response.amountPaidIdr = pay.amountIdr ∧
    (getConfirmation env bookingId provider now db).2.paymentStatus pay.id = some .paid

/-- The page can write the view's dates, its price and its link. -/
structure ConfirmationView.Presentable (isUrl : String → Bool) (v : ConfirmationView) : Prop where
  checkIn : (isoDay (dateText v.checkIn)).isSome
  checkOut : (isoDay (dateText v.checkOut)).isSome
  total : ∀ total ∈ v.totalPriceIdr, 0 ≤ total ∧ total ≤ MAX_SAFE_INTEGER
  link : ∀ link ∈ v.waLink, isUrl (String.ofList link)

/-- The booking has a page, and it can be written. -/
def Db.Presents (isUrl : String → Bool) (booking : Booking) (db : Db) : Prop :=
  ∃ view, readConfirmationView booking.tenantId booking.id db = some view ∧
    view.Presentable isUrl

/-- The view once the payment is counted. -/
def ConfirmationView.counted (pay : Payment) (v : ConfirmationView) : ConfirmationView :=
  { v with status := .confirmed, amountPaidIdr := pay.amountIdr }

theorem bind_eq_ok {ε α β : Type} {first : Except ε α} {next : α → Except ε β} {result : β}
    (ran : (first >>= next) = .ok result) :
    ∃ value, first = .ok value ∧ next value = .ok result := by
  cases first with
  | error _ => cases ran
  | ok value => exact ⟨value, rfl, ran⟩

/-- A page that was written could be. -/
theorem presentable_of_frame {isUrl : String → Bool} {v : ConfirmationView}
    {response : BookingConfirmationResponse} (framed : frame isUrl v = .ok response) :
    v.Presentable isUrl := by
  unfold frame at framed
  obtain ⟨total, converted, framed⟩ := bind_eq_ok framed
  obtain ⟨amount, -, framed⟩ := bind_eq_ok framed
  obtain ⟨balance, -, framed⟩ := bind_eq_ok framed
  dsimp only at framed
  by_cases checkIn : (isoDay (dateText v.checkIn)).isNone
  · rw [if_pos checkIn] at framed
    cases framed
  by_cases checkOut : (isoDay (dateText v.checkOut)).isNone
  · rw [if_neg checkIn, if_pos checkOut] at framed
    cases framed
  by_cases link : v.waLink.any fun link => !isUrl (String.ofList link)
  · rw [if_neg checkIn, if_neg checkOut, if_pos link] at framed
    cases framed
  rw [Option.isNone_iff_eq_none, ← Ne, Option.ne_none_iff_isSome] at checkIn checkOut
  refine ⟨checkIn, checkOut, ?_, ?_⟩
  · intro price known
    rw [known] at converted
    cases shown : toRupiah price with
    | error _ => simp [Option.mapM, shown] at converted
    | ok _ => exact toRupiah_ok shown
  · intro text known
    rw [known] at link
    simpa using link

theorem frame_eq_ok {isUrl : String → Bool} {v : ConfirmationView}
    (presentable : v.Presentable isUrl)
    (amount : 0 ≤ v.amountPaidIdr ∧ v.amountPaidIdr ≤ MAX_SAFE_INTEGER) :
    ∃ response, frame isUrl v = .ok response ∧ response.status = v.status ∧
      response.amountPaidIdr = v.amountPaidIdr := by
  have link : (v.waLink.any fun link => !isUrl (String.ofList link)) = false := by
    cases known : v.waLink with
    | none => rfl
    | some link => simp [presentable.link link known]
  have paid := toRupiah_eq amount
  have checkIn : (isoDay (dateText v.checkIn)).isNone = false := by
    rw [Option.isNone_eq_false_iff]
    exact presentable.checkIn
  have checkOut : (isoDay (dateText v.checkOut)).isNone = false := by
    rw [Option.isNone_eq_false_iff]
    exact presentable.checkOut
  unfold frame
  cases known : v.totalPriceIdr with
  | none =>
    simp [paid, link, checkIn, checkOut, Option.mapM, bind, Except.bind, pure, Except.pure]
  | some total =>
    have fits := presentable.total total known
    have balance : 0 ≤ (if total > v.amountPaidIdr then total - v.amountPaidIdr else 0) ∧
        (if total > v.amountPaidIdr then total - v.amountPaidIdr else 0) ≤ MAX_SAFE_INTEGER := by
      split
      · constructor
        · linarith
        · linarith
      · exact ⟨le_rfl, fits.1.trans fits.2⟩
    simp [toRupiah_eq fits, toRupiah_eq balance, paid, link, checkIn, checkOut, Option.mapM, bind,
      Except.bind, pure, Except.pure]

/-! ### What the read leaves of payments -/

section Read

variable {env : PayEnvironment} {db : Db} {bookingId tenantId : Uuid}

/-- What a delivery keeps, and a sweep, the read keeps. -/
theorem reconcileOnRead_keeps [PostgresServer] (kept : Db → Prop) {now : Instant} (before : kept db)
    (delivered : ∀ event, kept ((recordAndApply env.gateway.provider event db).database db))
    (swept : ∀ unitId after, kept after → kept (expireLapsedHolds tenantId unitId now after))
    (provider : ProviderStatus) :
    kept (reconcileOnRead env tenantId bookingId provider now db).2 := by
  have reconciled : ∀ orderId response announced after,
      reconcile env.gateway env.decrypt orderId response db = .ok (announced, after) →
      kept after := by
    intro orderId response announced after answered
    unfold reconcile at answered
    cases pulled : pull env.gateway env.decrypt orderId response db with
    | error thrown => simp [pulled, settleEvent] at answered
    | ok event =>
      cases event with
      | none =>
        simp only [pulled, settleEvent, Except.ok.injEq, Prod.mk.injEq] at answered
        exact answered.2 ▸ before
      | some event =>
        simp only [pulled, settleEvent] at answered
        have left := delivered event
        rwa [answered] at left
  unfold reconcileOnRead
  split
  · split
    · exact swept _ _ before
    · split
      · exact swept _ _ before
      · rename_i answered
        exact swept _ _ (reconciled _ _ _ _ answered)
  · exact before

/-- A delivery leaves a decided payment as it is. -/
theorem recordAndApply_decidedPayment [PostgresServer] (provider : String)
    (event : ParsedPaymentEvent) {id : Uuid} {row : Payment} (found : db.paymentById id = some row)
    (decided : row.status ≠ .pending) :
    ((recordAndApply provider event db).database db).paymentById id = some row := by
  have settled : ∀ (wanted : Uuid) status (before : Db), before.paymentById id = some row →
      (before.settlePayment wanted status).paymentById id = some row := by
    intro wanted status before known
    rw [Db.paymentById_settlePayment, known, Option.map_some,
      if_neg fun both => decided both.2]
  rw [recordAndApply_database]
  cases event.payment db with
  | none => exact found
  | some pay =>
    dsimp only
    split
    · rw [applyOutcome_database]
      split
      · cases event.outcome with
        | settlement => exact settled pay.id .paid _ found
        | failure => exact settled pay.id .failed _ found
        | pending => exact found
        | ignore => exact found
      · exact found
    · exact found

theorem getConfirmation_database [PostgresServer] (provider : ProviderStatus) (now : Instant)
    {booking : Booking} (found : db.bookingById bookingId = some booking) :
    (getConfirmation env bookingId provider now db).2 =
      (reconcileOnRead env booking.tenantId bookingId provider now db).2 := by
  unfold getConfirmation
  rw [found]
  dsimp only
  split
  · rfl
  · rfl

/-- The read leaves a decided payment as it is. -/
theorem getConfirmation_decidedPayment [PostgresServer] (env : PayEnvironment)
    (provider : ProviderStatus) (now : Instant) {booking : Booking}
    (known : db.bookingById bookingId = some booking) {id : Uuid} {row : Payment}
    (found : db.paymentById id = some row) (decided : row.status ≠ .pending) :
    (getConfirmation env bookingId provider now db).2.paymentById id = some row := by
  rw [getConfirmation_database provider now known]
  have kept : ∀ event, ((recordAndApply env.gateway.provider event db).database db).paymentById
      id = some row := fun event => recordAndApply_decidedPayment _ event found decided
  exact reconcileOnRead_keeps (fun after => after.paymentById id = some row) found kept
    (fun _ _ before => before) provider

/-! ### Which payment is asked about -/

/-- The open payment of a booking with one live payment is that payment. -/
theorem findPendingPaymentOrderId_sole (one : db.OneLive bookingId) {pay : Payment}
    (member : pay ∈ db.payment) (ofBooking : pay.bookingId = bookingId)
    (pending : pay.status = .pending) :
    findPendingPaymentOrderId bookingId db = some pay.id := by
  have live := Table.filter_eq_singleton one.live member
    (by simp [ofBooking, pending])
  have listed : ∀ row, row ∈ pendingPayments bookingId db ↔
      row ∈ db.payment ∧ row.bookingId = bookingId ∧ row.status = .pending := by
    intro row
    rw [pendingPayments, (List.perm_insertionSort _ _).mem_iff, List.mem_filter,
      decide_eq_true_iff]
  have only : ∀ row ∈ pendingPayments bookingId db, row = pay := by
    intro row rowListed
    obtain ⟨rowMember, rowOf, rowPending⟩ := (listed row).mp rowListed
    have rowLive : row ∈ db.payment.filter fun other =>
        other.bookingId = bookingId ∧ other.status ≠ .failed :=
      List.mem_filter.mpr ⟨rowMember, by simp [rowOf, rowPending]⟩
    rw [live] at rowLive
    exact List.mem_singleton.mp rowLive
  have some := (listed pay).mpr ⟨member, ofBooking, pending⟩
  unfold findPendingPaymentOrderId
  cases rows : pendingPayments bookingId db with
  | nil =>
    rw [rows] at some
    exact (List.not_mem_nil some).elim
  | cons first rest =>
    rw [only first (rows ▸ List.mem_cons_self)]
    rfl

/-! ### The settled booking -/

/-- What a settlement and a sweep make of a pending booking and its one live payment. -/
structure Settled (db : Db) (booking : Booking) (pay : Payment) (after : Db) : Prop where
  keyed : (after.booking.map Booking.id).Nodup
  booking : after.bookingById booking.id = some (booking.setStatus .confirmed)
  unit : after.unit = db.unit
  property : after.property = db.property
  payment : after.payment = (db.settlePayment pay.id .paid).payment

/-- A recordable settlement of the booking's payment, and a sweep after it. -/
theorem settled_of_recordable [PostgresServer] {booking : Booking} {pay : Payment}
    {event : ParsedPaymentEvent} {unitId : Uuid} {now : Instant} {provider : String}
    (bookings : (db.booking.map Booking.id).Nodup)
    (found : db.bookingById booking.id = some booking) (pending : booking.status = .pendingPayment)
    (ofBooking : pay.bookingId = booking.id) (named : event.payment db = some pay)
    (settles : event.Settles pay.amountIdr) (recordable : event.Recordable provider db) :
    Settled db booking pay (expireLapsedHolds tenantId unitId now
      ((recordAndApply provider event db).database db)) := by
  rw [recordAndApply_recorded named recordable, applyOutcome_database, if_pos settles.2, settles.1]
  have confirmed : (db.confirmBooking pay.bookingId).bookingById booking.id =
      some (booking.setStatus .confirmed) := by
    rw [Db.confirmBooking, Db.bookingById_setBookingStatus, found, Option.map_some,
      if_pos ⟨ofBooking.symm, pending⟩]
  refine ⟨?_, ?_, rfl, rfl, rfl⟩
  · have sameIds : ∀ (status : BookingStatus) (condition : Booking → Prop)
        [DecidablePred condition] (before : Db),
        (before.setBookingStatus status condition).booking.map Booking.id =
          before.booking.map Booking.id :=
      fun _ _ _ _ => Table.map_updateWhere Booking.id fun _ _ => rfl
    rw [expireLapsedHolds, sameIds]
    show ((db.confirmBooking pay.bookingId).booking.map Booking.id).Nodup
    rw [Db.confirmBooking, sameIds]
    exact bookings
  · show ((db.confirmBooking pay.bookingId).setBookingStatus .expired _).bookingById _ = _
    rw [Db.bookingById_setBookingStatus, confirmed, Option.map_some, if_neg]
    rintro ⟨-, -, same, -⟩
    cases same

variable {booking : Booking} {pay : Payment} {after : Db}

theorem Settled.paymentStatus (settled : Settled db booking pay after)
    (found : db.paymentById pay.id = some pay) (pending : pay.status = .pending) :
    after.paymentStatus pay.id = some .paid := by
  have same : after.paymentById pay.id = (db.settlePayment pay.id .paid).paymentById pay.id := by
    unfold Db.paymentById
    rw [settled.payment]
  rw [Db.paymentStatus, same, Db.paymentById_settlePayment, found, Option.map_some,
    if_pos ⟨rfl, pending⟩]
  rfl

/-- The settled payment is the only paid one of the booking, so the page shows its amount as paid.
-/
theorem Settled.amountPaid (settled : Settled db booking pay after)
    (one : db.OneLive booking.id) (member : pay ∈ db.payment)
    (ofBooking : pay.bookingId = booking.id)
    (pending : pay.status = .pending) : amountPaid booking.id after = pay.amountIdr := by
  have few : (after.payment.filter fun row =>
      row.bookingId = booking.id ∧ row.status = .paid).length ≤ 1 := by
    rw [settled.payment]
    refine le_trans ?_ one.live
    refine (List.Sublist.length_le (List.monotone_filter_right _ fun row meets => ?_)).trans
      (Table.length_filter_updateWhere_le fun row _ matched meets => ?_)
    · simp only [decide_eq_true_eq] at meets ⊢
      exact ⟨meets.1, by rw [meets.2]; exact fun same => nomatch same⟩
    · simp only [decide_eq_true_eq] at meets ⊢
      exact ⟨meets.1, by rw [matched.2]; exact fun same => nomatch same⟩
  have paid : ({ pay with status := .paid } : Payment) ∈ after.payment := by
    rw [settled.payment]
    exact Table.mem_updateWhere.mpr ⟨pay, member, if_pos ⟨rfl, pending⟩⟩
  unfold Sambung.amountPaid
  rw [Table.filter_eq_singleton few paid (by simp [ofBooking])]
  exact Int.add_zero _

theorem Db.find_tenantBooking {id tenantId : Uuid} {row : Booking}
    (bookings : (db.booking.map Booking.id).Nodup) (found : db.bookingById id = some row)
    (sameTenant : row.tenantId = tenantId) :
    (db.booking.find? fun row => row.id = id ∧ row.tenantId = tenantId) = some row := by
  rw [Db.find_booking bookings, found]
  exact Option.filter_some_pos (decide_eq_true sameTenant)

/-- The view of a settled booking is the view before with the payment counted. -/
theorem Settled.view (settled : Settled db booking pay after)
    (bookings : (db.booking.map Booking.id).Nodup)
    (found : db.bookingById booking.id = some booking)
    (paid : Sambung.amountPaid booking.id after = pay.amountIdr) :
    readConfirmationView booking.tenantId booking.id after =
      (readConfirmationView booking.tenantId booking.id db).map
        (ConfirmationView.counted pay) := by
  have settledRow := Db.find_tenantBooking settled.keyed settled.booking
    (show _ = booking.tenantId from rfl)
  unfold readConfirmationView
  rw [Db.find_tenantBooking bookings found rfl, settledRow]
  simp only [Option.bind_eq_bind, Option.bind_some]
  rw [settled.unit, settled.property]
  show (db.unit.find? fun unit =>
    unit.id = booking.unitId ∧ unit.tenantId = booking.tenantId).bind _ = _
  cases db.unit.find? fun unit =>
      unit.id = booking.unitId ∧ unit.tenantId = booking.tenantId with
  | none => rfl
  | some unit =>
    rw [Option.bind_some, Option.bind_some]
    cases db.property.find? fun property =>
        property.id = unit.propertyId ∧ property.tenantId = booking.tenantId with
    | none => rfl
    | some property =>
      rw [Option.bind_some, Option.bind_some, Option.map_some, paid]
      rfl

/-- The total on the page is the booking's. -/
theorem readConfirmationView_total (bookings : (db.booking.map Booking.id).Nodup)
    (found : db.bookingById booking.id = some booking) {view : ConfirmationView}
    (viewed : readConfirmationView booking.tenantId booking.id db = some view) :
    view.totalPriceIdr = booking.totalPriceIdr := by
  unfold readConfirmationView at viewed
  rw [Db.find_tenantBooking bookings found rfl] at viewed
  simp only [Option.bind_eq_bind, Option.bind_some, Option.bind_eq_some_iff] at viewed
  obtain ⟨unit, -, property, -, built⟩ := viewed
  cases Option.some.inj built
  rfl

/-- What the read leaves where the provider reports on the booking's live payment. -/
theorem getConfirmation_reports [PostgresServer] {provider : ProviderStatus} (now : Instant)
    {event : ParsedPaymentEvent} (bookings : (db.booking.map Booking.id).Nodup)
    (one : db.OneLive booking.id) (found : db.bookingById booking.id = some booking)
    (held : booking.status = .pendingPayment) (member : pay ∈ db.payment)
    (ofBooking : pay.bookingId = booking.id) (pending : pay.status = .pending)
    (reports : ReportsSettlement env provider pay event db) :
    (getConfirmation env booking.id provider now db).2 =
      expireLapsedHolds booking.tenantId booking.unitId now
        ((recordAndApply env.gateway.provider event db).database db) := by
  have status : readStatusAndUnit booking.tenantId booking.id db =
      some (.pendingPayment, booking.unitId) := by
    rw [readStatusAndUnit, Db.find_tenantBooking bookings found rfl, Option.map_some, held]
  have settles : reconcile env.gateway env.decrypt (uuidText pay.id) (provider pay.id) db =
      recordAndApply env.gateway.provider event db := by
    rw [reconcile, reports.fetched]
    rfl
  rw [getConfirmation_database provider now found, reconcileOnRead, status]
  dsimp only
  rw [findPendingPaymentOrderId_sole one member ofBooking pending]
  dsimp only
  rw [settles]
  cases recordAndApply env.gateway.provider event db with
  | error thrown => rfl
  | ok answer => rfl

theorem ReportsSettlement.settled [PostgresServer] {provider : ProviderStatus} (now : Instant)
    {event : ParsedPaymentEvent} (reports : ReportsSettlement env provider pay event db)
    (bookings : (db.booking.map Booking.id).Nodup) (payments : (db.payment.map Payment.id).Nodup)
    (one : db.OneLive booking.id) (found : db.bookingById booking.id = some booking)
    (held : booking.status = .pendingPayment) (member : pay ∈ db.payment)
    (ofBooking : pay.bookingId = booking.id) (pending : pay.status = .pending)
    (recordable : event.Recordable env.gateway.provider db) :
    Settled db booking pay (getConfirmation env booking.id provider now db).2 := by
  have named : event.payment db = some pay := by
    rw [ParsedPaymentEvent.payment, reports.named]
    exact Table.byKey_of_mem payments member
  rw [getConfirmation_reports now bookings one found held member ofBooking pending reports]
  exact settled_of_recordable bookings found held ofBooking named reports.settles recordable

/-- A settled booking's page is the page before with the payment counted. -/
theorem getConfirmation_settled [PostgresServer] {provider : ProviderStatus} {now : Instant}
    (bookings : (db.booking.map Booking.id).Nodup) (one : db.OneLive booking.id)
    (found : db.bookingById booking.id = some booking) (member : pay ∈ db.payment)
    (ofBooking : pay.bookingId = booking.id) (pending : pay.status = .pending)
    (settled : Settled db booking pay (getConfirmation env booking.id provider now db).2) :
    (getConfirmation env booking.id provider now db).1 =
      match readConfirmationView booking.tenantId booking.id db with
      | none => .error (.notFound "Booking not found")
      | some view => frame env.isUrl (view.counted pay) := by
  have viewed := settled.view bookings found (settled.amountPaid one member ofBooking pending)
  rw [getConfirmation_database provider now found] at viewed
  unfold getConfirmation
  rw [found]
  dsimp only
  rw [viewed]
  cases readConfirmationView booking.tenantId booking.id db with
  | none => rfl
  | some view => rfl

/-- The order the read asks about settles, and the page shows it. -/
theorem recovers_of_recordable [PostgresServer] {provider : ProviderStatus} {now : Instant}
    {event : ParsedPaymentEvent} {view : ConfirmationView}
    (bookings : (db.booking.map Booking.id).Nodup) (payments : (db.payment.map Payment.id).Nodup)
    (one : db.OneLive booking.id) (found : db.bookingById booking.id = some booking)
    (held : booking.status = .pendingPayment) (member : pay ∈ db.payment)
    (ofBooking : pay.bookingId = booking.id)
    (reports : ReportsSettlement env provider pay event db)
    (viewed : readConfirmationView booking.tenantId booking.id db = some view)
    (presentable : view.Presentable env.isUrl)
    (amount : 0 ≤ pay.amountIdr ∧ pay.amountIdr ≤ MAX_SAFE_INTEGER)
    (pending : pay.status = .pending) (recordable : event.Recordable env.gateway.provider db) :
    Recovers env booking.id provider pay now db := by
  have known : db.paymentById pay.id = some pay := Table.byKey_of_mem payments member
  have settled := reports.settled now bookings payments one found held member ofBooking pending
    recordable
  have shown : (view.counted pay).Presentable env.isUrl :=
    ⟨presentable.checkIn, presentable.checkOut, presentable.total, presentable.link⟩
  obtain ⟨response, framed, confirmed, counted⟩ := frame_eq_ok shown amount
  refine ⟨response, ?_, confirmed, counted, settled.paymentStatus known pending⟩
  rw [getConfirmation_settled bookings one found member ofBooking pending settled, viewed]
  exact framed

/-- What the read does not settle it does not show as paid. -/
theorem recordable_of_recovers [PostgresServer] {provider : ProviderStatus} {now : Instant}
    {event : ParsedPaymentEvent} (bookings : (db.booking.map Booking.id).Nodup)
    (payments : (db.payment.map Payment.id).Nodup) (one : db.OneLive booking.id)
    (found : db.bookingById booking.id = some booking) (held : booking.status = .pendingPayment)
    (member : pay ∈ db.payment) (ofBooking : pay.bookingId = booking.id)
    (reports : ReportsSettlement env provider pay event db)
    (recovers : Recovers env booking.id provider pay now db) :
    pay.status = .pending ∧ event.Recordable env.gateway.provider db := by
  have known : db.paymentById pay.id = some pay := Table.byKey_of_mem payments member
  obtain ⟨-, -, -, -, paid⟩ := recovers
  have pending : pay.status = .pending := by
    by_contra decided
    have still := getConfirmation_decidedPayment env provider now found known decided
    rw [Db.paymentStatus, still] at paid
    have unpaid := one.unpaid (by rw [Db.bookingStatus, found, Option.map_some, held]) pay member
      ofBooking
    exact unpaid (Option.some.inj paid)
  refine ⟨pending, ?_⟩
  by_contra unrecordable
  have left := getConfirmation_reports now bookings one found held member ofBooking pending
    reports
  rw [recordAndApply_unrecordable (Or.inr unrecordable)] at left
  rw [left] at paid
  have same : (expireLapsedHolds booking.tenantId booking.unitId now db).paymentStatus pay.id =
      some .pending := by
    show db.paymentStatus pay.id = some .pending
    rw [Db.paymentStatus, known, Option.map_some, pending]
  rw [same] at paid
  cases paid

/-- A page the read answers with can be written. -/
theorem presents_of_recovers [PostgresServer] {provider : ProviderStatus} {now : Instant}
    {event : ParsedPaymentEvent} (bookings : (db.booking.map Booking.id).Nodup)
    (payments : (db.payment.map Payment.id).Nodup) (one : db.OneLive booking.id)
    (found : db.bookingById booking.id = some booking) (held : booking.status = .pendingPayment)
    (member : pay ∈ db.payment) (ofBooking : pay.bookingId = booking.id)
    (reports : ReportsSettlement env provider pay event db) (pending : pay.status = .pending)
    (recordable : event.Recordable env.gateway.provider db)
    (recovers : Recovers env booking.id provider pay now db) :
    db.Presents env.isUrl booking := by
  obtain ⟨response, answered, -⟩ := recovers
  rw [getConfirmation_settled bookings one found member ofBooking pending
    (reports.settled now bookings payments one found held member ofBooking pending recordable)]
    at answered
  cases viewed : readConfirmationView booking.tenantId booking.id db with
  | none =>
    rw [viewed] at answered
    cases answered
  | some view =>
    rw [viewed] at answered
    have shown := presentable_of_frame answered
    exact ⟨view, viewed, shown.checkIn, shown.checkOut, shown.total, shown.link⟩

end Read

/-! ### After every history -/

/-- After every history of a booking, the read recovers a settlement exactly if the payment has not
failed meanwhile, the settlement's event can still be recorded and the page can be written. The
history is any interleaving from a state where the booking has no payment; the booking is still on
hold, and the provider reports the payment as settled in its full amount. An event can be recorded
where its id is new, its row fits its columns and its id fits the index. -/
theorem lost_settlement_recovered_iff [PostgresServer] {env : PayEnvironment} {start : Db}
    {shared : Shared} {booking : Booking} {pay : Payment} {provider : ProviderStatus}
    {now : Instant} {event : ParsedPaymentEvent} (lawful : start.DepositsLawful)
    (unpaid : ∀ row ∈ start.payment, row.bookingId ≠ booking.id)
    (run : Reached env (Shared.start start) shared)
    (found : shared.db.bookingById booking.id = some booking)
    (held : booking.status = .pendingPayment) (member : pay ∈ shared.db.payment)
    (ofBooking : pay.bookingId = booking.id)
    (reports : ReportsSettlement env provider pay event shared.db) :
    Recovers env booking.id provider pay now shared.db ↔
      pay.status = .pending ∧ event.Recordable env.gateway.provider shared.db ∧
        shared.db.Presents env.isUrl booking := by
  obtain ⟨sound, billed⟩ := run.billed lawful (Db.oneLive_of_unpaid unpaid)
  constructor
  · intro recovers
    obtain ⟨pending, recordable⟩ := recordable_of_recovers sound.bookings sound.payments billed.one
      found held member ofBooking reports recovers
    exact ⟨pending, recordable, presents_of_recovers sound.bookings sound.payments billed.one found
      held member ofBooking reports pending recordable recovers⟩
  · rintro ⟨pending, recordable, view, viewed, presentable⟩
    have deposit : start.Deposit booking.id pay.amountIdr := by
      rcases billed.priced pay member with ⟨old, oldMember, -, sameBooking⟩ | priced
      · exact absurd (sameBooking.trans ofBooking) (unpaid old oldMember)
      · exact ofBooking ▸ priced
    obtain ⟨nonneg, first, totalPriceIdr, foundFirst, total, below⟩ := deposit.bounds lawful
    have shown : view.totalPriceIdr = some totalPriceIdr := by
      have same := billed.prices.booking booking.id
      rw [found, foundFirst, Option.map_some, Option.map_some] at same
      rw [readConfirmationView_total sound.bookings found viewed, ← total]
      exact congrArg Prod.snd (Option.some.inj same)
    have amount : 0 ≤ pay.amountIdr ∧ pay.amountIdr ≤ MAX_SAFE_INTEGER :=
      ⟨nonneg, below.trans (presentable.total totalPriceIdr shown).2⟩
    exact recovers_of_recordable sound.bookings sound.payments billed.one found held member
      ofBooking reports viewed presentable amount pending recordable

/-! ### The villa's settlement, lost -/

attribute [local instance] PostgresServer.uncompressed

theorem pull_eq_ok {gateway : PaymentGateway} {decrypt : Decrypt} {orderId : String}
    {response : HttpResponse} {db : Db} {credential : GatewayCredential}
    {event : Option ParsedPaymentEvent}
    (resolved : credentialForOrder gateway decrypt orderId db = .ok (some credential))
    (fetched : gateway.fetchStatus credential response = .ok event) :
    pull gateway decrypt orderId response db = .ok event := by
  simp only [pull, resolved, bind, Except.bind, fetched]

/-- Midtrans's status of the order is the settlement. -/
def settledStatus : ProviderStatus := fun _ => .answered 200 (some villaSettled.body)

theorem villaSettled_pulled {db : Db} (same : SameCredentials villaPending db) :
    pull villaEnvironment.gateway villaEnvironment.decrypt (uuidText 1) (settledStatus 1) db =
      .ok (some villaSettled.event) := by
  have resolved : credentialForOrder villaEnvironment.gateway villaEnvironment.decrypt (uuidText 1)
      db = .ok (some ⟨"SB-Mid-server-villa", .sandbox⟩) := by
    rw [same.credentialForOrder]
    decide +kernel
  have fetched : villaEnvironment.gateway.fetchStatus ⟨"SB-Mid-server-villa", .sandbox⟩
      (settledStatus 1) = .ok (some villaSettled.event) := by
    show fetchStatus villaDigest _ (.answered 200 (some villaSettled.body)) = _
    have code : (villaSettled.body.field "status_code").bind Json.asString = some "200" := by
      simp [VillaNotice.body, VillaNotice.fields, JsString.plain, Json.field, Json.asString,
        villaSettled]
    unfold fetchStatus
    dsimp only
    rw [if_neg (by decide), if_neg (by decide), if_neg (by simp [VillaNotice.body, Json.falsy]),
      code, if_neg (by decide),
      villaSettled.verified]
    rfl
  exact pull_eq_ok resolved fetched

theorem villaUnpaid_unpaid_yet : ∀ row ∈ villaUnpaid.payment, row.bookingId ≠ villaHold.id :=
  fun _ member => (List.not_mem_nil member).elim

/-- The villa's guest has paid a deposit the provider has not told of. -/
theorem villaPending_reached : ∃ log, Reached villaEnvironment (Shared.start villaUnpaid)
    (Shared.solo villaPending none log) := by
  have paid : (pay villaEnvironment 1 snapSession 0 villaUnpaid).database villaUnpaid =
      villaPending := villaUnpaid_minted
  rw [← paid, Shared.start_eq_solo]
  exact pay_alone villaEnvironment villaUnpaid_deposits.bookings 1 snapSession 0 []

theorem villaSettled_reports {db : Db} (same : SameCredentials villaPending db) {pay : Payment}
    (id : pay.id = 1) (amount : pay.amountIdr = 500000) :
    ReportsSettlement villaEnvironment settledStatus pay villaSettled.event db where
  fetched := by
    rw [id]
    exact villaSettled_pulled same
  named := by
    rw [id]
    exact villaSettled.named
  settles := ⟨rfl, amount.symm⟩

theorem villaPending_presents : villaPending.Presents villaEnvironment.isUrl villaHold := by
  obtain ⟨view, viewed⟩ : ∃ view, readConfirmationView 1 1 villaPending = some view :=
    ⟨_, rfl⟩
  refine ⟨view, viewed, ?_⟩
  cases Option.some.inj viewed
  exact ⟨by decide +kernel, by decide +kernel, by decide, by decide +kernel⟩

/-- The villa's settlement is lost, and the page's read recovers it. -/
theorem villa_lost_settlement_recovered :
    Recovers villaEnvironment 1 settledStatus villaPayment 0 villaPending := by
  obtain ⟨log, run⟩ := villaPending_reached
  exact (lost_settlement_recovered_iff villaUnpaid_deposits villaUnpaid_unpaid_yet run rfl rfl
    (List.mem_singleton_self _) rfl (villaSettled_reports (.refl _) rfl rfl)).mpr
    ⟨rfl, ⟨villaSettled.storable, fun _ member => (List.not_mem_nil member).elim⟩,
      villaPending_presents⟩

/-- The villa after its payment was denied. -/
def villaDeniedOnce : Db :=
  { villaPending with
    payment := [{ villaPayment with status := .failed }]
    paymentEvent := [villaDenied.event.row "midtrans" 1] }

theorem villaDenied_delivered :
    villaDenied.push.run villaEnvironment.gateway villaEnvironment.decrypt villaPending =
      villaDeniedOnce := by
  have payment : villaDenied.event.payment villaPending = some villaPayment := by
    rw [ParsedPaymentEvent.payment, villaDenied.named]
    rfl
  have recordable : villaDenied.event.Recordable "midtrans" villaPending :=
    ⟨villaDenied.storable, fun _ member => (List.not_mem_nil member).elim⟩
  rw [Delivery.run_eq]
  show (settleEvent "midtrans" (villaDenied.push.received (midtransGateway villaDigest)
    villaEnvironment.decrypt villaPending) villaPending).database villaPending = villaDeniedOnce
  rw [villaDenied.received]
  show (recordAndApply "midtrans" villaDenied.event villaPending).database villaPending = _
  rw [recordAndApply_recorded payment recordable, applyOutcome_database]
  rfl

/-- The denied payment settles after all and the notification is lost: the read does not ask about
it, and the booking stays unpaid. -/
theorem failed_payment_not_asked : ∃ log pay,
    Reached villaEnvironment (Shared.start villaUnpaid) (Shared.solo villaDeniedOnce none log) ∧
    villaDeniedOnce.bookingById 1 = some villaHold ∧ pay ∈ villaDeniedOnce.payment ∧
    pay.bookingId = 1 ∧
    ReportsSettlement villaEnvironment settledStatus pay villaSettled.event villaDeniedOnce ∧
    villaSettled.event.Recordable "midtrans" villaDeniedOnce ∧
    villaDeniedOnce.Presents villaEnvironment.isUrl villaHold ∧
    ¬ Recovers villaEnvironment 1 settledStatus pay 0 villaDeniedOnce := by
  obtain ⟨log, paid⟩ := villaPending_reached
  have bookings : (villaPending.booking.map Booking.id).Nodup := by decide
  have payments : (villaPending.payment.map Payment.id).Nodup := by decide
  obtain ⟨later, delivered⟩ :=
    deliver_alone villaEnvironment bookings payments villaDenied.push log
  rw [villaDenied_delivered] at delivered
  have run : Reached villaEnvironment (Shared.start villaUnpaid) _ := paid.trans delivered
  obtain ⟨sound, billed⟩ := run.billed villaUnpaid_deposits
    (Db.oneLive_of_unpaid villaUnpaid_unpaid_yet)
  have same := Delivery.run_sameCredentials villaEnvironment.gateway villaEnvironment.decrypt
    villaDenied.push villaPending
  rw [villaDenied_delivered] at same
  have member := List.mem_singleton_self { villaPayment with status := PaymentStatus.failed }
  have reports : ReportsSettlement villaEnvironment settledStatus
      { villaPayment with status := .failed } villaSettled.event villaDeniedOnce :=
    villaSettled_reports same rfl rfl
  have unrecorded :
      villaDeniedOnce.EventUnrecorded "midtrans" villaSettled.event.providerEventId := by
    intro recorded listed sameId
    rw [List.mem_singleton.mp listed] at sameId
    exact absurd sameId.2 (by decide)
  refine ⟨later, _, run, rfl, member, rfl, reports, ⟨villaSettled.storable, unrecorded⟩,
    villaPending_presents, fun recovers => ?_⟩
  have pending := (recordable_of_recovers sound.bookings sound.payments billed.one rfl rfl member
    rfl reports recovers).1
  cases pending

end Sambung
