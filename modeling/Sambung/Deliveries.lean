/-
This file reads the webhook as a consumer of events about one payment.

A delivery is a pushed notification or a pulled status. What it brings depends on
the payment's tenant and its credential, which no delivery changes, so a sequence
of deliveries is a sequence of events. The pair of the payment's status and its
booking's status moves by `settleStep` on each event that is recorded, and a
recorded event's id is never taken again: the database refines the consumer of
`Dedup`.

`Db.Stands` is the relation of that refinement: the payment has its row but for
the status, and the two statuses are these. `Db.Stands.deliver` is its step and
`Db.Stands.runDeliveries` its run, by induction over the deliveries. An event
whose values do not fit their columns is no message at all. What a delivery leaves
of the rows it is not about is said on its own, for the comparisons of two runs.
-/

import Sambung.Foundation.Dedup
import Sambung.Webhook

namespace Sambung

/-! ### Deliveries -/

/-- One arrival: a pushed notification, or a read that pulls the provider's status. -/
inductive Delivery where
  | push (providerParam : String) (body : Json)
  | pull (orderId : String) (response : HttpResponse)

/-- What the read half of a delivery finds. -/
def Delivery.received (gateway : PaymentGateway) (decrypt : Decrypt) :
    Delivery → Db → Except Thrown (Option ParsedPaymentEvent)
  | .push providerParam body, db => receive gateway decrypt providerParam body db
  | .pull orderId response, db => Sambung.pull gateway decrypt orderId response db

/-- The database a delivery leaves, through `handle` or `reconcile`. -/
def Delivery.run [PostgresServer] (gateway : PaymentGateway) (decrypt : Decrypt) :
    Delivery → Db → Db
  | .push providerParam body, db => (handle gateway decrypt providerParam body db).database db
  | .pull orderId response, db => (reconcile gateway decrypt orderId response db).database db

/-- The database a sequence of deliveries leaves. -/
def runDeliveries [PostgresServer] (gateway : PaymentGateway) (decrypt : Decrypt)
    (deliveries : List Delivery) (db : Db) : Db :=
  deliveries.foldl (fun db delivery => delivery.run gateway decrypt db) db

theorem Delivery.run_eq [PostgresServer] (gateway : PaymentGateway) (decrypt : Decrypt)
    (delivery : Delivery) (db : Db) :
    delivery.run gateway decrypt db =
      (settleEvent gateway.provider (delivery.received gateway decrypt db) db).database db := by
  cases delivery with
  | push providerParam body => rfl
  | pull orderId response => rfl

/-! ### What a delivery reads -/

/-- The two databases resolve every order to the same tenant and the same credential. -/
structure SameCredentials (db after : Db) : Prop where
  payment : ∀ id, (after.paymentById id).map Payment.bookingId =
    (db.paymentById id).map Payment.bookingId
  booking : ∀ id, (after.bookingById id).map Booking.tenantId =
    (db.bookingById id).map Booking.tenantId
  credential : after.tenantPaymentCredential = db.tenantPaymentCredential

theorem SameCredentials.refl (db : Db) : SameCredentials db db :=
  ⟨fun _ => rfl, fun _ => rfl, rfl⟩

theorem SameCredentials.trans {a b c : Db} (first : SameCredentials a b)
    (second : SameCredentials b c) : SameCredentials a c :=
  ⟨fun id => (second.payment id).trans (first.payment id),
    fun id => (second.booking id).trans (first.booking id),
    second.credential.trans first.credential⟩

theorem orderTenant_eq (orderId : Uuid) (db : Db) :
    orderTenant orderId db =
      ((db.paymentById orderId).map Payment.bookingId).bind
        fun bookingId => (db.bookingById bookingId).map Booking.tenantId := by
  unfold orderTenant
  cases db.paymentById orderId with
  | none => rfl
  | some payment =>
    cases found : db.bookingById payment.bookingId with
    | none => simp [found]
    | some booking => simp [found]

theorem SameCredentials.credentialForOrder {db after : Db} (same : SameCredentials db after)
    (gateway : PaymentGateway) (decrypt : Decrypt) (orderId : String) :
    credentialForOrder gateway decrypt orderId after =
      credentialForOrder gateway decrypt orderId db := by
  have tenant : ∀ id, orderTenant id after = orderTenant id db := by
    intro id
    rw [orderTenant_eq, orderTenant_eq, same.payment]
    simp only [same.booking]
  have resolve : ∀ tenantId, maybeResolve decrypt tenantId after =
      maybeResolve decrypt tenantId db := by
    intro tenantId
    unfold maybeResolve
    rw [same.credential]
  unfold Sambung.credentialForOrder
  simp only [tenant, resolve]

/-- A delivery brings the same event, or fails alike, over two databases that resolve every order
alike. -/
theorem SameCredentials.received {db after : Db} (same : SameCredentials db after)
    (gateway : PaymentGateway) (decrypt : Decrypt) (delivery : Delivery) :
    delivery.received gateway decrypt after = delivery.received gateway decrypt db := by
  cases delivery with
  | push providerParam body =>
    show receive gateway decrypt providerParam body after = receive ..
    simp only [receive, same.credentialForOrder]
  | pull orderId response =>
    show Sambung.pull gateway decrypt orderId response after = Sambung.pull ..
    simp only [pull, same.credentialForOrder]

/-! ### What a settlement writes -/

theorem Db.paymentById_settlePayment (db : Db) (id wanted : Uuid) (status : PaymentStatus) :
    (db.settlePayment id status).paymentById wanted =
      (db.paymentById wanted).map fun row =>
        if row.id = id ∧ row.status = .pending then { row with status } else row := by
  have keyed : ∀ row : Payment, row.id = id ∧ row.status = .pending →
      ({ row with status } : Payment).id = row.id := fun _ _ => rfl
  exact Table.byKey_updateWhere keyed wanted

/-- The status of a booking after one booking's confirmation. -/
theorem bookingStatus_confirmBooking (db : Db) (id wanted : Uuid) :
    (db.confirmBooking id).bookingStatus wanted =
      (db.bookingStatus wanted).map fun status =>
        if wanted = id ∧ status = .pendingPayment then .confirmed else status := by
  refine Db.bookingStatus_setBookingStatus .confirmed (Booking.Confirmable id) db
    (fun status => wanted = id ∧ status = .pendingPayment) fun row named => ?_
  rw [Booking.Confirmable, named]

theorem sameCredentials_settlePayment (db : Db) (id : Uuid) (status : PaymentStatus) :
    SameCredentials db (db.settlePayment id status) where
  payment wanted := by
    rw [Db.paymentById_settlePayment, Option.map_map]
    congr 1
    funext row
    show Payment.bookingId (if _ then _ else _) = row.bookingId
    split
    · rfl
    · rfl
  booking _ := rfl
  credential := rfl

theorem sameCredentials_confirmBooking (db : Db) (id : Uuid) :
    SameCredentials db (db.confirmBooking id) where
  payment _ := rfl
  booking wanted := by
    rw [Db.confirmBooking, Db.bookingById_setBookingStatus, Option.map_map]
    congr 1
    funext row
    show Booking.tenantId (if _ then _ else _) = row.tenantId
    split
    · rfl
    · rfl
  credential := rfl

/-- Applying an event changes neither the tenant nor the credential behind any order. -/
theorem sameCredentials_applyOutcome (event : ParsedPaymentEvent) (pay : Payment) (db : Db) :
    SameCredentials db (applyOutcome event pay db).2 := by
  rw [applyOutcome_database]
  split
  · cases event.outcome with
    | settlement =>
      exact (sameCredentials_settlePayment db pay.id .paid).trans
        (sameCredentials_confirmBooking _ pay.bookingId)
    | failure => exact sameCredentials_settlePayment db pay.id .failed
    | pending => exact .refl db
    | ignore => exact .refl db
  · exact .refl db

theorem sameCredentials_recordAndApply [PostgresServer] (provider : String)
    (event : ParsedPaymentEvent) (db : Db) :
    SameCredentials db ((recordAndApply provider event db).database db) := by
  rw [recordAndApply_database]
  cases event.payment db with
  | none => exact .refl db
  | some pay =>
    dsimp only
    split
    · have recorded : SameCredentials db
          (db.recordEvent (event.row provider pay.bookingId)) :=
        ⟨fun _ => rfl, fun _ => rfl, rfl⟩
      exact recorded.trans (sameCredentials_applyOutcome event pay _)
    · exact .refl db

theorem Delivery.run_sameCredentials [PostgresServer] (gateway : PaymentGateway) (decrypt : Decrypt)
    (delivery : Delivery) (db : Db) : SameCredentials db (delivery.run gateway decrypt db) := by
  rw [Delivery.run_eq]
  match delivery.received gateway decrypt db with
  | .error thrown => exact .refl db
  | .ok none => exact .refl db
  | .ok (some event) => exact sameCredentials_recordAndApply gateway.provider event db

/-- Deliveries that bring verified events apply those events in order: what each delivery brings is
read off the first database, whatever came in between. -/
theorem runDeliveries_events [PostgresServer] {gateway : PaymentGateway} {decrypt : Decrypt}
    {db : Db} {deliveries : List Delivery} {events : List ParsedPaymentEvent}
    (bring : List.Forall₂ (fun delivery event =>
      delivery.received gateway decrypt db = .ok (some event)) deliveries events) :
    runDeliveries gateway decrypt deliveries db =
      events.foldl (fun db event => (recordAndApply gateway.provider event db).database db)
        db := by
  suffices run : ∀ now, SameCredentials db now →
      runDeliveries gateway decrypt deliveries now = events.foldl
        (fun db event => (recordAndApply gateway.provider event db).database db) now from
    run db (.refl db)
  induction bring with
  | nil => exact fun _ _ => rfl
  | @cons delivery event deliveries events received _ inductionHypothesis =>
    intro now same
    have step : delivery.run gateway decrypt now =
        (recordAndApply gateway.provider event now).database now := by
      rw [Delivery.run_eq, same.received, received]
      rfl
    show runDeliveries gateway decrypt deliveries (delivery.run gateway decrypt now) = _
    rw [inductionHypothesis _ (same.trans (delivery.run_sameCredentials gateway decrypt now)),
      step]
    rfl

/-! ### What a delivery leaves of other rows -/

/-- A delivery changes a booking in its status at most, and confirms a pending one. -/
theorem recordAndApply_booking [PostgresServer] (provider : String) (event : ParsedPaymentEvent)
    {db : Db} {id : Uuid} {row : Booking} (found : db.bookingById id = some row) :
    ∃ later, ((recordAndApply provider event db).database db).bookingById id = some later ∧
      (later = row ∨ (row.status = .pendingPayment ∧ later = row.setStatus .confirmed)) := by
  rw [recordAndApply_database]
  cases event.payment db with
  | none => exact ⟨row, found, Or.inl rfl⟩
  | some pay =>
    dsimp only
    split
    · rw [applyOutcome_database]
      split
      · cases event.outcome with
        | settlement =>
          refine ⟨if row.Confirmable pay.bookingId then row.setStatus .confirmed else row, ?_, ?_⟩
          · show ((db.setBookingStatus .confirmed (Booking.Confirmable pay.bookingId)).bookingById
              id) = _
            rw [Db.bookingById_setBookingStatus, found]
            rfl
          · by_cases held : row.Confirmable pay.bookingId
            · rw [if_pos held]
              exact Or.inr ⟨held.2, rfl⟩
            · rw [if_neg held]
              exact Or.inl rfl
        | failure => exact ⟨row, found, Or.inl rfl⟩
        | pending => exact ⟨row, found, Or.inl rfl⟩
        | ignore => exact ⟨row, found, Or.inl rfl⟩
      · exact ⟨row, found, Or.inl rfl⟩
    · exact ⟨row, found, Or.inl rfl⟩

/-- A delivery about one payment leaves the row of any other. -/
theorem recordAndApply_otherPayment [PostgresServer] (provider : String)
    {event : ParsedPaymentEvent} {db : Db} {named id : Uuid}
    (names : parseUuid event.orderId = some named) (apart : named ≠ id) :
    ((recordAndApply provider event db).database db).paymentById id = db.paymentById id := by
  rw [recordAndApply_database]
  cases found : event.payment db with
  | none => rfl
  | some pay =>
    have same : pay.id = named := by
      rw [ParsedPaymentEvent.payment, names, Option.bind_some] at found
      exact Db.paymentById_id found
    have settled : ∀ status (before : Db), (before.settlePayment pay.id status).paymentById id =
        before.paymentById id := by
      intro status before
      rw [Db.paymentById_settlePayment]
      cases known : before.paymentById id with
      | none => rfl
      | some row =>
        rw [Option.map_some, if_neg]
        rintro ⟨sameRow, -⟩
        exact apart (same.symm.trans (sameRow.symm.trans (Db.paymentById_id known)))
    dsimp only
    split
    · rw [applyOutcome_database]
      split
      · cases event.outcome with
        | settlement => exact settled .paid _
        | failure => exact settled .failed _
        | pending => rfl
        | ignore => rfl
      · rfl
    · rfl

/-- An event leaves every booking but that of the payment it names. -/
theorem recordAndApply_otherBooking [PostgresServer] (provider : String)
    {event : ParsedPaymentEvent} {db : Db} {id : Uuid}
    (apart : ∀ pay, event.payment db = some pay → pay.bookingId ≠ id) :
    ((recordAndApply provider event db).database db).bookingById id = db.bookingById id := by
  rw [recordAndApply_database]
  cases found : event.payment db with
  | none => rfl
  | some pay =>
    dsimp only
    split
    · rw [applyOutcome_database]
      split
      · cases event.outcome with
        | settlement =>
          show (db.setBookingStatus .confirmed
            (Booking.Confirmable pay.bookingId)).bookingById id = _
          rw [Db.bookingById_setBookingStatus]
          cases known : db.bookingById id with
          | none => rfl
          | some row =>
            rw [Option.map_some, if_neg]
            rintro ⟨same, -⟩
            exact apart pay found (same.symm.trans (Db.bookingById_id known))
        | failure => rfl
        | pending => rfl
        | ignore => rfl
      · rfl
    · rfl

/-! ### The two statuses -/

/-- The status of a payment and the status of its booking. -/
abbrev Standing := PaymentStatus × BookingStatus

/-- What a recorded event does to the two statuses: each of the two updates has its own guard, so
one may move where the other does not. -/
def settleStep (amountIdr : BigInt) (standing : Standing) (event : ParsedPaymentEvent) :
    Standing :=
  if event.grossAmountIdr = amountIdr then
    match event.outcome with
    | .settlement =>
      (if standing.1 = .pending then .paid else standing.1,
        if standing.2 = .pendingPayment then .confirmed else standing.2)
    | .failure => (if standing.1 = .pending then .failed else standing.1, standing.2)
    | _ => standing
  else standing

/-- An applied event finds nothing left to do when it comes again, whatever other events came in
between. -/
theorem settleStep_absorbing (amountIdr : BigInt) : Dedup.Absorbing (settleStep amountIdr) := by
  refine Dedup.absorbing_of_persists (fun standing event => ?_)
    (fun standing event other inert => ?_)
  · obtain ⟨payment, booking⟩ := standing
    unfold settleStep
    by_cases same : event.grossAmountIdr = amountIdr
    · simp only [if_pos same]
      cases event.outcome <;> cases payment <;> cases booking <;> rfl
    · simp only [if_neg same]
  · obtain ⟨payment, booking⟩ := standing
    unfold settleStep at inert ⊢
    by_cases same : event.grossAmountIdr = amountIdr
    · by_cases sameOther : other.grossAmountIdr = amountIdr
      · simp only [if_pos same, if_pos sameOther] at inert ⊢
        generalize event.outcome = outcome at inert ⊢
        cases outcome <;> cases other.outcome <;> cases payment <;> cases booking <;>
          first | rfl | cases inert
      · simp only [if_pos same, if_neg sameOther] at inert ⊢
        exact inert
    · simp only [if_neg same]

/-- The payment has the row `pay` but for its status, and the two statuses are these: what the
refinement keeps of the database. -/
structure Db.Stands (db : Db) (pay : Payment) (standing : Standing) : Prop where
  row : db.paymentById pay.id = some { pay with status := standing.1 }
  booking : db.bookingStatus pay.bookingId = some standing.2

theorem Db.Stands.paymentStatus {db : Db} {pay : Payment} {standing : Standing}
    (stands : db.Stands pay standing) : db.paymentStatus pay.id = some standing.1 := by
  rw [Db.paymentStatus, stands.row]
  rfl

theorem Db.Stands.statuses {db : Db} {pay : Payment} {standing : Standing}
    (stands : db.Stands pay standing) :
    (db.paymentStatus pay.id, db.bookingStatus pay.bookingId) =
      (some standing.1, some standing.2) := by
  rw [stands.paymentStatus, stands.booking]

theorem Db.Stands.of_pending {db : Db} {pay : Payment} {booking : BookingStatus}
    (found : db.paymentById pay.id = some pay)
    (held : db.bookingStatus pay.bookingId = some booking) :
    db.Stands pay (pay.status, booking) :=
  ⟨found, held⟩

/-- An event on the payment moves the two statuses by `settleStep`. -/
theorem Db.Stands.applyOutcome {db : Db} {pay : Payment} {standing : Standing}
    (stands : db.Stands pay standing) (event : ParsedPaymentEvent) :
    (applyOutcome event { pay with status := standing.1 } db).2.Stands pay
      (settleStep pay.amountIdr standing event) := by
  obtain ⟨row, booking⟩ := stands
  obtain ⟨found, foundBooking, sameStatus⟩ := Option.map_eq_some_iff.mp booking
  have settled : ∀ status, (db.settlePayment pay.id status).paymentById pay.id =
      some { pay with
        status := if standing.1 = .pending then status else standing.1 } := by
    intro status
    rw [Db.paymentById_settlePayment, row, Option.map_some]
    by_cases pending : standing.1 = .pending
    · simp [pending]
    · simp [pending]
  rw [applyOutcome_database]
  unfold settleStep
  by_cases same : event.grossAmountIdr = pay.amountIdr
  · rw [if_pos same, if_pos same]
    cases event.outcome with
    | settlement =>
      refine ⟨settled .paid, ?_⟩
      show ((db.setBookingStatus .confirmed (Booking.Confirmable pay.bookingId)).bookingById
        pay.bookingId).map Booking.status = _
      rw [Db.bookingById_setBookingStatus, foundBooking, Option.map_some, Option.map_some,
        ← sameStatus]
      by_cases held : found.status = .pendingPayment
      · rw [if_pos ⟨Db.bookingById_id foundBooking, held⟩, if_pos held]
        rfl
      · rw [if_neg fun matched => held matched.2, if_neg held]
    | failure => exact ⟨settled .failed, booking⟩
    | pending => exact ⟨row, booking⟩
    | ignore => exact ⟨row, booking⟩
  · rw [if_neg same, if_neg same]
    exact ⟨row, booking⟩

/-! ### The recorded ids -/

/-- The event ids of the provider on record. -/
def Db.recordedIds (provider : String) (db : Db) : Set String :=
  { id | ¬ db.EventUnrecorded provider id }

theorem Db.recordedIds_recordEvent (db : Db) (event : ParsedPaymentEvent) (provider : String)
    (bookingId : Uuid) :
    (db.recordEvent (event.row provider bookingId)).recordedIds provider =
      insert event.providerEventId (db.recordedIds provider) := by
  ext id
  simp only [Db.recordedIds, Db.EventUnrecorded, Db.recordEvent, ParsedPaymentEvent.row,
    Set.mem_ofPred_eq, Set.mem_insert_iff, List.mem_append, List.mem_singleton, not_forall,
    not_not]
  constructor
  · rintro ⟨other, known | rfl, matched⟩
    · exact Or.inr ⟨other, known, matched⟩
    · exact Or.inl matched.2.symm
  · rintro (rfl | ⟨other, known, matched⟩)
    · exact ⟨_, Or.inr rfl, rfl, rfl⟩
    · exact ⟨other, Or.inl known, matched⟩

theorem applyOutcome_paymentEvent (event : ParsedPaymentEvent) (pay : Payment) (db : Db) :
    (applyOutcome event pay db).2.paymentEvent = db.paymentEvent := by
  rw [applyOutcome_database]
  split
  · cases event.outcome <;> rfl
  · rfl

theorem recordedIds_congr {db after : Db} (same : after.paymentEvent = db.paymentEvent)
    (provider : String) : after.recordedIds provider = db.recordedIds provider := by
  unfold Db.recordedIds Db.EventUnrecorded
  rw [same]

/-! ### The refinement -/

/-- The event a delivery brings, where its values fit their columns. -/
def storedEvent [PostgresServer] (gateway : PaymentGateway) (decrypt : Decrypt) (db : Db)
    (delivery : Delivery) :
    Option ParsedPaymentEvent :=
  match delivery.received gateway decrypt db with
  | .ok (some event) => if event.Storable gateway.provider then some event else none
  | _ => none

theorem storedEvent_eq_some [PostgresServer] {gateway : PaymentGateway} {decrypt : Decrypt}
    {db : Db} {delivery : Delivery} {event : ParsedPaymentEvent} :
    storedEvent gateway decrypt db delivery = some event ↔
      delivery.received gateway decrypt db = .ok (some event) ∧
        event.Storable gateway.provider := by
  unfold storedEvent
  match received : delivery.received gateway decrypt db with
  | .error thrown => simp
  | .ok none => simp
  | .ok (some found) =>
    by_cases storable : found.Storable gateway.provider
    · simp only [storable, if_true, Option.some.injEq, Except.ok.injEq]
      exact ⟨fun same => ⟨same, same ▸ storable⟩, fun both => both.1⟩
    · simp only [storable, if_false, reduceCtorEq, false_iff, not_and, Except.ok.injEq,
        Option.some.injEq]
      rintro rfl
      exact storable

/-- The consumer of the events about one payment. -/
noncomputable abbrev consumeEvent (pay : Payment) :
    Standing × Set String → ParsedPaymentEvent → Standing × Set String :=
  Dedup.consume (settleStep pay.amountIdr) ParsedPaymentEvent.providerEventId

/-- One delivery about the payment is one message at the consumer, or none. -/
theorem Db.Stands.deliver [PostgresServer] {gateway : PaymentGateway} {decrypt : Decrypt} {db : Db}
    {pay : Payment} {standing : Standing} (stands : db.Stands pay standing)
    {delivery : Delivery}
    (named : ∀ event, delivery.received gateway decrypt db = .ok (some event) →
      parseUuid event.orderId = some pay.id) :
    let consumed := (storedEvent gateway decrypt db delivery).toList.foldl (consumeEvent pay)
      (standing, db.recordedIds gateway.provider)
    (delivery.run gateway decrypt db).Stands pay consumed.1 ∧
      (delivery.run gateway decrypt db).recordedIds gateway.provider = consumed.2 := by
  rw [Delivery.run_eq]
  match received : delivery.received gateway decrypt db with
  | .error thrown =>
    have absent : storedEvent gateway decrypt db delivery = none := by
      rw [storedEvent, received]
    rw [absent]
    exact ⟨stands, rfl⟩
  | .ok none =>
    have absent : storedEvent gateway decrypt db delivery = none := by
      rw [storedEvent, received]
    rw [absent]
    exact ⟨stands, rfl⟩
  | .ok (some event) =>
    have found : event.payment db = some { pay with status := standing.1 } := by
      rw [ParsedPaymentEvent.payment, named event received, Option.bind_some, stands.row]
    show ((recordAndApply gateway.provider event db).database db).Stands pay _ ∧
      ((recordAndApply gateway.provider event db).database db).recordedIds gateway.provider = _
    by_cases storable : event.Storable gateway.provider
    · rw [storedEvent_eq_some.mpr ⟨received, storable⟩]
      dsimp only [Option.toList, List.foldl]
      by_cases unrecorded : db.EventUnrecorded gateway.provider event.providerEventId
      · have new : event.providerEventId ∉ db.recordedIds gateway.provider :=
          fun recorded => recorded unrecorded
        have recordedStands :
            (db.recordEvent (event.row gateway.provider pay.bookingId)).Stands pay standing :=
          ⟨stands.row, stands.booking⟩
        rw [recordAndApply_recorded found ⟨storable, unrecorded⟩, consumeEvent,
          Dedup.consume_new new, recordedIds_congr (applyOutcome_paymentEvent event _ _),
          Db.recordedIds_recordEvent]
        exact ⟨recordedStands.applyOutcome event, rfl⟩
      · have seen : event.providerEventId ∈ db.recordedIds gateway.provider := unrecorded
        rw [recordAndApply_unrecordable (Or.inr fun both => unrecorded both.2), consumeEvent,
          Dedup.consume_seen seen]
        exact ⟨stands, rfl⟩
    · have absent : storedEvent gateway decrypt db delivery = none := by
        rw [storedEvent, received]
        exact if_neg storable
      rw [absent, recordAndApply_unrecordable (Or.inr fun both => storable both.1)]
      exact ⟨stands, rfl⟩

/-- A sequence of deliveries about the payment is the consumer's run over their events. -/
theorem Db.Stands.runDeliveries [PostgresServer] {gateway : PaymentGateway} {decrypt : Decrypt}
    {db : Db} {pay : Payment} {standing : Standing} (stands : db.Stands pay standing)
    {deliveries : List Delivery}
    (named : ∀ delivery ∈ deliveries, ∀ event,
      delivery.received gateway decrypt db = .ok (some event) →
        parseUuid event.orderId = some pay.id) :
    let consumed := (deliveries.filterMap (storedEvent gateway decrypt db)).foldl
      (consumeEvent pay) (standing, db.recordedIds gateway.provider)
    (runDeliveries gateway decrypt deliveries db).Stands pay consumed.1 ∧
      (runDeliveries gateway decrypt deliveries db).recordedIds gateway.provider =
        consumed.2 := by
  induction deliveries generalizing db standing with
  | nil => exact ⟨stands, rfl⟩
  | cons delivery deliveries inductionHypothesis =>
    have same := delivery.run_sameCredentials gateway decrypt db
    have first := stands.deliver (named delivery List.mem_cons_self)
    have sameEvents : storedEvent gateway decrypt (delivery.run gateway decrypt db) =
        storedEvent gateway decrypt db := by
      funext other
      unfold storedEvent
      rw [same.received]
    have rest := inductionHypothesis first.1 fun other member event received =>
      named other (List.mem_cons_of_mem _ member) event (by rwa [same.received] at received)
    rw [sameEvents, first.2] at rest
    have split : (delivery :: deliveries).filterMap (storedEvent gateway decrypt db) =
        (storedEvent gateway decrypt db delivery).toList ++
          deliveries.filterMap (storedEvent gateway decrypt db) := by
      cases stored : storedEvent gateway decrypt db delivery with
      | none => rw [List.filterMap_cons_none stored]; rfl
      | some event => rw [List.filterMap_cons_some stored]; rfl
    rw [split, List.foldl_append]
    exact rest

end Sambung
