/-
This file compares two runs of the webhook: a notification about one payment,
handled alone, and the same notification handled after any notifications about
another payment.

The two share one thing, the table of recorded events, whose key is read off
fields no signature covers. A notification about the first payment can take the
key of the second's; the second is then dropped as a duplicate. The runs agree
exactly where no key is taken, or where the dropped event had nothing left to do.

The condition is on the bodies and the database before them, not on what their
handling leaves: which bodies take an id and which confirm the booking is read off
the bodies in order (`TakesId`, `ConfirmsBooking`), and an induction on the last
body shows that this is what the handling does. The two payments may be of one
booking, which is how bodies about one of them can leave the other's event nothing
to release.
-/

import Sambung.Settlement

namespace Sambung

/-! ### The two runs -/

/-- The database a sequence of pushed bodies leaves. -/
def runBodies [PostgresServer] (gateway : PaymentGateway) (decrypt : Decrypt) (bodies : List Json)
    (db : Db) : Db :=
  runDeliveries gateway decrypt (bodies.map (Delivery.push gateway.provider)) db

/-- The body is accepted as this event, under the key of the tenant its order names. -/
abbrev Accepts (gateway : PaymentGateway) (decrypt : Decrypt) (db : Db) (body : Json)
    (event : ParsedPaymentEvent) : Prop :=
  receive gateway decrypt gateway.provider body db = .ok (some event)

/-- The body has the same effect on the payment and its booking in `between` as in `db`: the
payment ends in the same row, and the booking is left where it was left, and ends in the same row
where it was moved. -/
structure Uninterfered [PostgresServer] (gateway : PaymentGateway) (decrypt : Decrypt)
    (pay : Payment) (body : Json) (db between : Db) : Prop where
  payment :
    ((handle gateway decrypt gateway.provider body between).database between).paymentById pay.id =
      ((handle gateway decrypt gateway.provider body db).database db).paymentById pay.id
  left :
    ((handle gateway decrypt gateway.provider body db).database db).bookingById pay.bookingId =
        db.bookingById pay.bookingId →
      ((handle gateway decrypt gateway.provider body between).database between).bookingById
          pay.bookingId = between.bookingById pay.bookingId
  moved :
    ((handle gateway decrypt gateway.provider body db).database db).bookingById pay.bookingId ≠
        db.bookingById pay.bookingId →
      ((handle gateway decrypt gateway.provider body between).database between).bookingById
          pay.bookingId =
        ((handle gateway decrypt gateway.provider body db).database db).bookingById pay.bookingId

/-- The event has nothing left to do: its amount is not the payment's, or the payment is decided
and, where the event is a settlement, the payment's booking is `released`, that is no longer waiting
for one. -/
def ParsedPaymentEvent.NothingLeft (event : ParsedPaymentEvent) (pay : Payment)
    (released : Prop) : Prop :=
  event.grossAmountIdr = pay.amountIdr →
    (event.outcome = .settlement → pay.status ≠ .pending ∧ released) ∧
      (event.outcome = .failure → pay.status ≠ .pending)

section Interference

variable {gateway : PaymentGateway} {decrypt : Decrypt} {db : Db} {first second : Payment}
  {bodies : List Json} {body : Json} {event : ParsedPaymentEvent}

/-- Every body is accepted as an event about the payment. -/
def AllAbout (gateway : PaymentGateway) (decrypt : Decrypt) (db : Db) (pay : Payment)
    (bodies : List Json) : Prop :=
  ∀ body ∈ bodies, ∃ event, Accepts gateway decrypt db body event ∧
    parseUuid event.orderId = some pay.id

theorem handle_accepted [PostgresServer] (accepted : Accepts gateway decrypt db body event) :
    (handle gateway decrypt gateway.provider body db).database db =
      (recordAndApply gateway.provider event db).database db := by
  rw [handle, accepted]
  rfl

/-- What a body is accepted as does not change with the deliveries. -/
theorem accepts_congr {after : Db} (same : SameCredentials db after) :
    Accepts gateway decrypt after body event ↔ Accepts gateway decrypt db body event := by
  have received := same.received gateway decrypt (.push gateway.provider body)
  show receive gateway decrypt gateway.provider body after = _ ↔ _
  rw [show receive gateway decrypt gateway.provider body after =
    receive gateway decrypt gateway.provider body db from received]

theorem AllAbout.congr {after : Db} (about : AllAbout gateway decrypt db first bodies)
    (same : SameCredentials db after) : AllAbout gateway decrypt after first bodies :=
  fun body member =>
    let ⟨event, accepted, names⟩ := about body member
    ⟨event, (accepts_congr same).mpr accepted, names⟩

theorem runBodies_nil [PostgresServer] (db : Db) : runBodies gateway decrypt [] db = db := rfl

theorem runBodies_cons [PostgresServer] (body : Json) (bodies : List Json) (db : Db) :
    runBodies gateway decrypt (body :: bodies) db =
      runBodies gateway decrypt bodies
        ((handle gateway decrypt gateway.provider body db).database db) := rfl

theorem handle_sameCredentials [PostgresServer] (body : Json) (db : Db) :
    SameCredentials db ((handle gateway decrypt gateway.provider body db).database db) :=
  (Delivery.push gateway.provider body).run_sameCredentials gateway decrypt db

theorem runBodies_sameCredentials [PostgresServer] (bodies : List Json) (db : Db) :
    SameCredentials db (runBodies gateway decrypt bodies db) := by
  induction bodies generalizing db with
  | nil => exact .refl db
  | cons body bodies inductionHypothesis =>
    rw [runBodies_cons]
    exact (handle_sameCredentials body db).trans (inductionHypothesis _)

/-- Bodies about one payment leave the row of any other. -/
theorem runBodies_otherPayment [PostgresServer] (about : AllAbout gateway decrypt db first bodies)
    (apart : first.id ≠ second.id) :
    (runBodies gateway decrypt bodies db).paymentById second.id = db.paymentById second.id := by
  induction bodies generalizing db with
  | nil => rfl
  | cons body bodies inductionHypothesis =>
    obtain ⟨event, accepted, names⟩ := about body List.mem_cons_self
    have rest : AllAbout gateway decrypt db first bodies := fun other member =>
      about other (List.mem_cons_of_mem _ member)
    rw [runBodies_cons, inductionHypothesis (rest.congr (handle_sameCredentials body db)),
      handle_accepted accepted]
    exact recordAndApply_otherPayment gateway.provider names apart

/-- Accepted bodies change a booking in its status at most, and confirm a pending one. -/
theorem runBodies_booking [PostgresServer] (about : AllAbout gateway decrypt db first bodies)
    {id : Uuid} {row : Booking} (found : db.bookingById id = some row) :
    ∃ later, (runBodies gateway decrypt bodies db).bookingById id = some later ∧
      (later = row ∨ (row.status = .pendingPayment ∧ later = row.setStatus .confirmed)) := by
  induction bodies generalizing db row with
  | nil => exact ⟨row, found, Or.inl rfl⟩
  | cons body bodies inductionHypothesis =>
    obtain ⟨event, accepted, -⟩ := about body List.mem_cons_self
    have rest : AllAbout gateway decrypt db first bodies := fun other member =>
      about other (List.mem_cons_of_mem _ member)
    obtain ⟨middle, foundMiddle, moved⟩ := recordAndApply_booking gateway.provider event found
    rw [← handle_accepted accepted] at foundMiddle
    obtain ⟨last, foundLast, movedOn⟩ :=
      inductionHypothesis (rest.congr (handle_sameCredentials body db)) foundMiddle
    refine ⟨last, foundLast, ?_⟩
    rcases moved with rfl | ⟨pending, rfl⟩
    · exact movedOn
    · rcases movedOn with rfl | ⟨stillPending, -⟩
      · exact Or.inr ⟨pending, rfl⟩
      · cases stillPending

/-- One of the bodies is an event Postgres can store under this id. -/
def TakesId [PostgresServer] (gateway : PaymentGateway) (decrypt : Decrypt) (db : Db)
    (bodies : List Json) (id : String) : Prop :=
  ∃ body ∈ bodies, ∃ event, Accepts gateway decrypt db body event ∧
    event.Storable gateway.provider ∧ event.providerEventId = id

/-- The deliveries of such bodies bring events about the payment and no other. -/
theorem AllAbout.named (about : AllAbout gateway decrypt db first bodies) :
    ∀ delivery ∈ bodies.map (Delivery.push gateway.provider), ∀ event,
      delivery.received gateway decrypt db = .ok (some event) →
      parseUuid event.orderId = some first.id := by
  intro delivery member event received
  obtain ⟨body, bodyMember, rfl⟩ := List.mem_map.mp member
  obtain ⟨accepted, brought, names⟩ := about body bodyMember
  have same : accepted = event := Option.some.inj (Except.ok.inj (brought.symm.trans received))
  exact same ▸ names

/-- After bodies about a payment we have, its row is the same but for its status. -/
theorem runBodies_stands [PostgresServer] (about : AllAbout gateway decrypt db first bodies)
    (found : db.paymentById first.id = some first) {held : BookingStatus}
    (booked : db.bookingStatus first.bookingId = some held) :
    ∃ standing, (runBodies gateway decrypt bodies db).Stands first standing := by
  have stands : db.Stands first (first.status, held) := ⟨found, booked⟩
  exact ⟨_, (stands.runDeliveries about.named).1⟩

/-- The ids on record after bodies about a payment we have. -/
theorem runBodies_recordedIds [PostgresServer] (about : AllAbout gateway decrypt db first bodies)
    (found : db.paymentById first.id = some first) {held : BookingStatus}
    (booked : db.bookingStatus first.bookingId = some held) (id : String) :
    id ∈ (runBodies gateway decrypt bodies db).recordedIds gateway.provider ↔
      id ∈ db.recordedIds gateway.provider ∨ TakesId gateway decrypt db bodies id := by
  have stands : db.Stands first (first.status, held) := ⟨found, booked⟩
  rw [runBodies, (stands.runDeliveries about.named).2, Dedup.mem_seen_foldl_consume]
  refine or_congr_right ?_
  constructor
  · rintro ⟨event, member, rfl⟩
    obtain ⟨delivery, deliveryMember, stored⟩ := List.mem_filterMap.mp member
    obtain ⟨body, bodyMember, rfl⟩ := List.mem_map.mp deliveryMember
    obtain ⟨received, storable⟩ := storedEvent_eq_some.mp stored
    exact ⟨body, bodyMember, event, received, storable, rfl⟩
  · rintro ⟨body, member, event, accepted, storable, rfl⟩
    refine ⟨event, List.mem_filterMap.mpr ⟨_, List.mem_map_of_mem member, ?_⟩, rfl⟩
    exact storedEvent_eq_some.mpr ⟨accepted, storable⟩

/-! ### The comparison -/

/-- What a body about a payment leaves of its two statuses. -/
theorem handle_stands [PostgresServer] {standing : Standing}
    (stands : db.Stands second standing)
    (accepted : Accepts gateway decrypt db body event)
    (names : parseUuid event.orderId = some second.id) :
    ((handle gateway decrypt gateway.provider body db).database db).Stands second
      (if event.Recordable gateway.provider db then settleStep second.amountIdr standing event
      else standing) := by
  have found : event.payment db = some { second with status := standing.1 } := by
    rw [ParsedPaymentEvent.payment, names, Option.bind_some]
    exact stands.row
  rw [handle_accepted accepted]
  by_cases recordable : event.Recordable gateway.provider db
  · rw [if_pos recordable, recordAndApply_recorded found recordable]
    have recorded : (db.recordEvent (event.row gateway.provider second.bookingId)).Stands second
        standing := ⟨stands.row, stands.booking⟩
    exact recorded.applyOutcome event
  · rw [if_neg recordable, recordAndApply_unrecordable (Or.inr recordable)]
    exact stands

/-- An event is recordable after the bodies where it was before and none of them took its id. -/
theorem recordable_after [PostgresServer] (about : AllAbout gateway decrypt db first bodies)
    (found : db.paymentById first.id = some first) {held : BookingStatus}
    (booked : db.bookingStatus first.bookingId = some held) :
    event.Recordable gateway.provider (runBodies gateway decrypt bodies db) ↔
      event.Recordable gateway.provider db ∧
        ¬ TakesId gateway decrypt db bodies event.providerEventId := by
  have recorded := runBodies_recordedIds about found booked event.providerEventId
  have unrecorded : ∀ {now : Db}, now.EventUnrecorded gateway.provider event.providerEventId ↔
      event.providerEventId ∉ now.recordedIds gateway.provider := not_not.symm
  unfold ParsedPaymentEvent.Recordable
  rw [unrecorded, unrecorded, recorded, not_or, and_assoc]

/-! ### The booking the bodies confirm -/

/-- The bodies confirm the booking: the first payment is a deposit for it, and one of the bodies is
an event that settles that payment and can be recorded, under an id no body before it takes. -/
def ConfirmsBooking [PostgresServer] (gateway : PaymentGateway) (decrypt : Decrypt) (db : Db)
    (first : Payment) (bookingId : Uuid) (bodies : List Json) : Prop :=
  first.bookingId = bookingId ∧
    ∃ before body later event, bodies = before ++ body :: later ∧
      Accepts gateway decrypt db body event ∧ event.Settles first.amountIdr ∧
      event.Recordable gateway.provider db ∧
      ¬ TakesId gateway decrypt db before event.providerEventId

theorem runBodies_concat [PostgresServer] (bodies : List Json) (body : Json) (db : Db) :
    runBodies gateway decrypt (bodies ++ [body]) db =
      (handle gateway decrypt gateway.provider body
        (runBodies gateway decrypt bodies db)).database (runBodies gateway decrypt bodies db) := by
  induction bodies generalizing db with
  | nil => rfl
  | cons earlier bodies inductionHypothesis =>
    rw [List.cons_append, runBodies_cons, runBodies_cons, inductionHypothesis]

/-- One more body confirms the booking where the bodies before it do, or where it does itself. -/
theorem confirmsBooking_concat [PostgresServer] {id : Uuid}
    (accepted : Accepts gateway decrypt db body event) :
    ConfirmsBooking gateway decrypt db first id (bodies ++ [body]) ↔
      ConfirmsBooking gateway decrypt db first id bodies ∨
        (first.bookingId = id ∧ event.Settles first.amountIdr ∧
          event.Recordable gateway.provider db ∧
          ¬ TakesId gateway decrypt db bodies event.providerEventId) := by
  constructor
  · rintro ⟨same, before, settling, later, settled, cut, brought, settles, recordable, free⟩
    rcases List.eq_nil_or_concat' later with rfl | ⟨init, last, rfl⟩
    · obtain ⟨rfl, single⟩ := List.append_inj' cut rfl
      obtain rfl : body = settling := (List.cons.inj single).1
      cases accepted.symm.trans brought
      exact Or.inr ⟨same, settles, recordable, free⟩
    · rw [← List.cons_append, ← List.append_assoc] at cut
      have init_eq := (List.append_inj' cut rfl).1
      exact Or.inl ⟨same, before, settling, init, settled, init_eq, brought, settles, recordable,
        free⟩
  · rintro (⟨same, before, settling, later, settled, rfl, brought, settles, recordable, free⟩ |
      ⟨same, settles, recordable, free⟩)
    · exact ⟨same, before, settling, later ++ [body], settled,
        by rw [List.append_assoc, List.cons_append], brought, settles, recordable, free⟩
    · exact ⟨same, bodies, body, [], event, rfl, accepted, settles, recordable, free⟩

/-- An event takes the booking out of its pending status where it settles the payment. -/
theorem settleStep_releases (standing : Standing) (amountIdr : BigInt)
    (event : ParsedPaymentEvent) :
    (settleStep amountIdr standing event).2 ≠ .pendingPayment ↔
      standing.2 ≠ .pendingPayment ∨ event.Settles amountIdr := by
  by_cases settles : event.Settles amountIdr
  · rw [settleStep_settles settles]
    refine iff_of_true ?_ (Or.inr settles)
    dsimp only
    split
    · decide
    · assumption
  · have kept : (settleStep amountIdr standing event).2 = standing.2 := by
      by_cases fails : event.Fails amountIdr
      · rw [settleStep_fails fails]
      · rw [settleStep_indecisive settles fails]
    rw [kept, or_iff_left settles]

/-- After the bodies a booking is no longer pending exactly where it was not before, or where the
bodies confirm it. The induction is on the last body, which finds the ids the earlier ones took. -/
theorem runBodies_released_iff [PostgresServer] (about : AllAbout gateway decrypt db first bodies)
    (found : db.paymentById first.id = some first) {held : BookingStatus}
    (booked : db.bookingStatus first.bookingId = some held) (id : Uuid) :
    (runBodies gateway decrypt bodies db).bookingStatus id ≠ some .pendingPayment ↔
      db.bookingStatus id ≠ some .pendingPayment ∨
        ConfirmsBooking gateway decrypt db first id bodies := by
  induction bodies using List.reverseRecOn with
  | nil =>
    refine ⟨Or.inl, fun either => either.resolve_right ?_⟩
    rintro ⟨-, before, body, later, -, cut, -⟩
    exact absurd cut (by simp)
  | append_singleton bodies body inductionHypothesis =>
    obtain ⟨event, accepted, names⟩ := about body (by simp)
    have earlier : AllAbout gateway decrypt db first bodies := fun other member =>
      about other (List.mem_append_left _ member)
    have acceptedThen : Accepts gateway decrypt (runBodies gateway decrypt bodies db) body event :=
      (accepts_congr (runBodies_sameCredentials bodies db)).mpr accepted
    obtain ⟨standing, stands⟩ := runBodies_stands earlier found booked
    rw [runBodies_concat, confirmsBooking_concat accepted, ← or_assoc,
      ← inductionHypothesis earlier]
    by_cases same : first.bookingId = id
    · subst same
      rw [(handle_stands stands acceptedThen names).booking, stands.booking, ne_eq, ne_eq,
        Option.some.injEq, Option.some.injEq]
      have recordable : event.Recordable gateway.provider (runBodies gateway decrypt bodies db) ↔
          event.Recordable gateway.provider db ∧
            ¬ TakesId gateway decrypt db bodies event.providerEventId :=
        recordable_after earlier found booked
      by_cases stored : event.Recordable gateway.provider (runBodies gateway decrypt bodies db)
      · rw [if_pos stored, ← ne_eq, settleStep_releases]
        obtain ⟨able, free⟩ := recordable.mp stored
        exact or_congr_right ⟨fun settles => ⟨rfl, settles, able, free⟩, fun all => all.2.1⟩
      · rw [if_neg stored]
        refine (or_iff_left ?_).symm
        rintro ⟨-, -, able, free⟩
        exact stored (recordable.mpr ⟨able, free⟩)
    · have kept : ((handle gateway decrypt gateway.provider body
          (runBodies gateway decrypt bodies db)).database
            (runBodies gateway decrypt bodies db)).bookingById id =
          (runBodies gateway decrypt bodies db).bookingById id := by
        rw [handle_accepted acceptedThen]
        refine recordAndApply_otherBooking gateway.provider fun pay paid apart => same ?_
        rw [ParsedPaymentEvent.payment, names, Option.bind_some, stands.row] at paid
        rw [← apart, ← Option.some.inj paid]
      rw [Db.bookingStatus, kept]
      exact (or_iff_left fun confirms => same confirms.1).symm

/-! ### The comparison of the statuses -/

/-- Two statuses of a booking's row and the row itself tell each other apart. -/
theorem setStatus_inj (row : Booking) (a b : BookingStatus) :
    row.setStatus a = row.setStatus b ↔ a = b :=
  ⟨fun same => congrArg Booking.status same, fun same => by rw [same]⟩

/-- Where a row moved as a delivery moves it, it is the old row but for its status. -/
theorem eq_setStatus {row later : Booking}
    (moved : later = row ∨ (row.status = .pendingPayment ∧ later = row.setStatus .confirmed)) :
    later = row.setStatus later.status := by
  rcases moved with rfl | ⟨-, rfl⟩
  · rfl
  · rfl

/-- The statuses decide whether the two runs agree: `alone` and `alongside` are what the body leaves
without and with the bodies before it, and `between` is what these leave of the booking. -/
theorem uninterfered_iff_statuses [PostgresServer] {row : Booking} {between : Db}
    {held : BookingStatus} {alone alongside : Standing}
    (foundRow : db.bookingById second.bookingId = some row)
    (foundBetween : between.bookingById second.bookingId = some (row.setStatus held))
    (aloneStands :
      ((handle gateway decrypt gateway.provider body db).database db).Stands second alone)
    (alongsideStands :
      ((handle gateway decrypt gateway.provider body between).database between).Stands second
        alongside)
    (acceptedAlone : Accepts gateway decrypt db body event)
    (acceptedAlongside : Accepts gateway decrypt between body event) :
    Uninterfered gateway decrypt second body db between ↔
      alongside.1 = alone.1 ∧ (alone.2 = row.status → alongside.2 = held) ∧
        (alone.2 ≠ row.status → alongside.2 = alone.2) := by
  obtain ⟨lone, foundLone, loneMoved⟩ := recordAndApply_booking gateway.provider event foundRow
  obtain ⟨joint, foundJoint, jointMoved⟩ :=
    recordAndApply_booking gateway.provider event foundBetween
  rw [← handle_accepted acceptedAlone] at foundLone
  rw [← handle_accepted acceptedAlongside] at foundJoint
  have loneStatus : lone.status = alone.2 := by
    have booking := aloneStands.booking
    rw [Db.bookingStatus, foundLone] at booking
    exact Option.some.inj booking
  have jointStatus : joint.status = alongside.2 := by
    have booking := alongsideStands.booking
    rw [Db.bookingStatus, foundJoint] at booking
    exact Option.some.inj booking
  have loneRow : lone = row.setStatus alone.2 := loneStatus ▸ eq_setStatus loneMoved
  have jointRow : joint = row.setStatus alongside.2 := by
    rw [eq_setStatus jointMoved, jointStatus]
    rfl
  have whole : row = row.setStatus row.status := rfl
  have payments : ({ second with status := alongside.1 } : Payment) =
      { second with status := alone.1 } ↔ alongside.1 = alone.1 :=
    ⟨fun same => congrArg Payment.status same, fun same => by rw [same]⟩
  constructor
  · rintro ⟨payment, left, moved⟩
    rw [alongsideStands.row, aloneStands.row, Option.some.injEq, payments] at payment
    rw [foundLone, foundJoint, foundRow, foundBetween, loneRow, jointRow, Option.some.injEq,
      Option.some.injEq, setStatus_inj] at left
    rw [foundLone, foundJoint, foundRow, loneRow, jointRow, ne_eq, Option.some.injEq,
      Option.some.injEq, setStatus_inj] at moved
    refine ⟨payment, fun same => left ?_, fun apart => moved fun same => apart ?_⟩
    · rw [same]
      exact whole.symm
    · exact congrArg Booking.status same
  · rintro ⟨payment, left, moved⟩
    refine ⟨?_, fun same => ?_, fun apart => ?_⟩
    · rw [alongsideStands.row, aloneStands.row, payment]
    · rw [foundLone, foundRow, loneRow, Option.some.injEq] at same
      rw [foundJoint, foundBetween, jointRow, left (congrArg Booking.status same)]
    · rw [foundLone, foundRow, loneRow] at apart
      rw [foundLone, foundJoint, loneRow, jointRow, moved fun same => apart (by rw [same]; rfl)]

/-- An event applied in both runs has the same effect in both. -/
theorem applied_agrees {before after : BookingStatus} (confirmed : after = before ∨
      (before = .pendingPayment ∧ after = .confirmed)) :
    (settleStep second.amountIdr (second.status, after) event).1 =
        (settleStep second.amountIdr (second.status, before) event).1 ∧
      ((settleStep second.amountIdr (second.status, before) event).2 = before →
        (settleStep second.amountIdr (second.status, after) event).2 = after) ∧
      ((settleStep second.amountIdr (second.status, before) event).2 ≠ before →
        (settleStep second.amountIdr (second.status, after) event).2 =
          (settleStep second.amountIdr (second.status, before) event).2) := by
  unfold settleStep
  by_cases same : event.grossAmountIdr = second.amountIdr
  · rw [if_pos same, if_pos same]
    rcases confirmed with rfl | ⟨rfl, rfl⟩
    · exact ⟨rfl, id, fun _ => rfl⟩
    · cases event.outcome <;> simp
  · rw [if_neg same, if_neg same]
    exact ⟨rfl, fun _ => rfl, fun moved => absurd rfl moved⟩

/-- An event dropped from the second run had the same effect in both where it had nothing left to
do. -/
theorem dropped_agrees_iff {before after : BookingStatus} (confirmed : after = before ∨
      (before = .pendingPayment ∧ after = .confirmed)) :
    (second.status = (settleStep second.amountIdr (second.status, before) event).1 ∧
      ((settleStep second.amountIdr (second.status, before) event).2 = before → after = after) ∧
      ((settleStep second.amountIdr (second.status, before) event).2 ≠ before →
        after = (settleStep second.amountIdr (second.status, before) event).2)) ↔
      event.NothingLeft second (after ≠ .pendingPayment) := by
  unfold settleStep ParsedPaymentEvent.NothingLeft
  by_cases same : event.grossAmountIdr = second.amountIdr
  · rw [if_pos same]
    cases event.outcome with
    | settlement =>
      rcases confirmed with rfl | ⟨rfl, rfl⟩
      · cases second.status <;> cases after <;> simp [same]
      · cases second.status <;> simp [same]
    | failure => cases second.status <;> simp [same]
    | pending => simp
    | ignore => simp
  · rw [if_neg same]
    simp [same]

/-- Bodies about one payment do not interfere with a body about another exactly where none of them
takes its event's id, or the event could not be recorded anyway, or it has nothing left to do: its
amount is not the payment's, or the payment is decided already and, for a settlement, the booking
was not pending or the bodies confirm it. All three are read off the state before the bodies and off
the bodies. The payments are rows of that state, each with the booking it is for, and every body is
accepted under the key of the tenant its order names. -/
theorem orders_do_not_interfere_iff [PostgresServer] (apart : first.id ≠ second.id)
    (foundFirst : db.paymentById first.id = some first)
    (bookedFirst : (db.bookingById first.bookingId).isSome)
    (foundSecond : db.paymentById second.id = some second)
    (bookedSecond : (db.bookingById second.bookingId).isSome)
    (about : AllAbout gateway decrypt db first bodies)
    (accepted : Accepts gateway decrypt db body event)
    (names : parseUuid event.orderId = some second.id) :
    Uninterfered gateway decrypt second body db (runBodies gateway decrypt bodies db) ↔
      ¬ TakesId gateway decrypt db bodies event.providerEventId ∨
        ¬ event.Recordable gateway.provider db ∨
        event.NothingLeft second
          (db.bookingStatus second.bookingId ≠ some .pendingPayment ∨
            ConfirmsBooking gateway decrypt db first second.bookingId bodies) := by
  obtain ⟨row, foundRow⟩ := Option.isSome_iff_exists.mp bookedSecond
  obtain ⟨firstRow, foundFirstRow⟩ := Option.isSome_iff_exists.mp bookedFirst
  have booked : db.bookingStatus first.bookingId = some firstRow.status := by
    rw [Db.bookingStatus, foundFirstRow]
    rfl
  obtain ⟨middle, foundMiddle, moved⟩ := runBodies_booking about foundRow
  have middleRow := eq_setStatus moved
  have foundBetween := foundMiddle
  rw [middleRow] at foundBetween
  have status : (runBodies gateway decrypt bodies db).bookingStatus second.bookingId =
      some middle.status := by
    rw [Db.bookingStatus, foundMiddle]
    rfl
  have stands : db.Stands second (second.status, row.status) := by
    refine ⟨foundSecond, ?_⟩
    rw [Db.bookingStatus, foundRow]
    rfl
  have standsBetween : (runBodies gateway decrypt bodies db).Stands second
      (second.status, middle.status) :=
    ⟨(runBodies_otherPayment about apart).trans foundSecond, status⟩
  have acceptedBetween : Accepts gateway decrypt (runBodies gateway decrypt bodies db) body event :=
    (accepts_congr (runBodies_sameCredentials bodies db)).mpr accepted
  have released : (db.bookingStatus second.bookingId ≠ some .pendingPayment ∨
      ConfirmsBooking gateway decrypt db first second.bookingId bodies) ↔
        middle.status ≠ .pendingPayment := by
    rw [← runBodies_released_iff about foundFirst booked, status, ne_eq, Option.some.injEq]
  rw [uninterfered_iff_statuses foundRow foundBetween (handle_stands stands accepted names)
    (handle_stands standsBetween acceptedBetween names) accepted acceptedBetween, released]
  have recordableAfter : event.Recordable gateway.provider (runBodies gateway decrypt bodies db) ↔
      event.Recordable gateway.provider db ∧
        ¬ TakesId gateway decrypt db bodies event.providerEventId :=
    recordable_after about foundFirst booked
  have confirmed : middle.status = row.status ∨
      (row.status = .pendingPayment ∧ middle.status = .confirmed) := by
    rcases moved with same | ⟨pending, same⟩
    · exact Or.inl (congrArg Booking.status same)
    · exact Or.inr ⟨pending, congrArg Booking.status same⟩
  by_cases recordable : event.Recordable gateway.provider db
  · by_cases taken : TakesId gateway decrypt db bodies event.providerEventId
    · rw [if_pos recordable, if_neg fun recorded => (recordableAfter.mp recorded).2 taken,
        dropped_agrees_iff confirmed]
      simp only [taken, recordable, not_true_eq_false, false_or]
    · rw [if_pos recordable, if_pos (recordableAfter.mpr ⟨recordable, taken⟩)]
      exact iff_of_true (applied_agrees confirmed) (Or.inl taken)
  · rw [if_neg recordable, if_neg fun recorded => recordable (recordableAfter.mp recorded).1]
    exact iff_of_true ⟨rfl, fun _ => rfl, fun moved => absurd rfl moved⟩
      (Or.inr (Or.inl recordable))

end Interference

/-! ### A rival's notification -/

attribute [local instance] PostgresServer.uncompressed

/-- The villa, and a rival tenant with a hold, a deposit and a server key of its own. -/
def villaAndRival : Db :=
  { villaPending with
    property := villa.property ++ [{
      id := 11, tenantId := 2, name := "Rival", timeZone := "Asia/Makassar", depositPct := 50
      archivedAt := none }]
    unit := villa.unit ++ [{
      id := 21, propertyId := 11, tenantId := 2, name := "Unit", basePriceIdr := 1000000
      maxGuests := 4, minStay := 1, archivedAt := none }]
    booking := [villaHold, { villaHold with id := 2, tenantId := 2, unitId := 21 }]
    payment := [villaPayment, { villaPayment with id := 2, bookingId := 2 }]
    tenantPaymentCredential := villaPending.tenantPaymentCredential ++ [{
      tenantId := 2, provider := "midtrans", environment := .sandbox, ciphertext := [2], nonce := []
      keyVersion := 1 }] }

/-- The two server keys. -/
def twoKeys : Decrypt := fun ciphertext _ =>
  .ok (if ciphertext = [2] then "SB-Mid-server-rival" else "SB-Mid-server-villa")

/-- The signed text of the rival's order at one rupiah. -/
def rivalSignedText : String :=
  "00000000-0000-0000-0000-000000000002" ++ "200" ++ "1.00" ++ "SB-Mid-server-rival"

/-- The SHA-512 digest of that text. -/
def rivalSignature : String :=
  "1dc9d5b13cc8120b56d7a95511c5eef7a4d52b38297b925b5f101f8e9b17bcc1" ++
    "816b5ef169bcdfde4febbc2a4919d407618c96827e0a14c2957d7c2983521add"

/-- SHA-512, on the texts of both tenants. -/
def twoDigests (text : String) : String :=
  if text = rivalSignedText then rivalSignature else villaDigest text

/-- The rival signs, for its own order, the villa's transaction id and status. -/
def rivalBody : Json :=
  .object [
    ("order_id", .string "00000000-0000-0000-0000-000000000002"),
    ("status_code", .string "200"),
    ("gross_amount", .string "1.00"),
    ("signature_key", .string rivalSignature),
    ("transaction_status", .string "settlement"),
    ("transaction_id", .string "tx-1")]

/-- The event that body is accepted as. -/
def rivalEvent : ParsedPaymentEvent where
  providerEventId := "tx-1" ++ ":" ++ "settlement"
  orderId := "00000000-0000-0000-0000-000000000002"
  outcome := .settlement
  grossAmountIdr := 1
  raw := rivalBody

theorem rivalBody_accepted :
    Accepts (midtransGateway twoDigests) twoKeys villaAndRival rivalBody rivalEvent := by
  have verified : verifyAndParse twoDigests rivalBody ⟨"SB-Mid-server-rival", .sandbox⟩ =
      .ok rivalEvent := by
    refine verifyAndParse_eq_ok.mpr ⟨⟨"00000000-0000-0000-0000-000000000002", "200", "1.00",
      rivalSignature, "settlement", "tx-1", none⟩, 1, by decide +kernel, ?_, by decide +kernel, rfl⟩
    have signed : twoDigests rivalSignedText = rivalSignature := if_pos rfl
    show timingSafeEqualHex (twoDigests rivalSignedText) rivalSignature = .ok true
    rw [signed]
    exact timingSafeEqualHex_self _
  have peeked : (midtransGateway twoDigests).peekOrderId rivalBody =
      some "00000000-0000-0000-0000-000000000002" := by
    decide +kernel
  have resolved : credentialForOrder (midtransGateway twoDigests) twoKeys
      "00000000-0000-0000-0000-000000000002" villaAndRival =
        .ok (some ⟨"SB-Mid-server-rival", .sandbox⟩) := by
    decide +kernel
  exact receive_eq_ok peeked resolved verified

theorem villaSettled_accepted :
    Accepts (midtransGateway twoDigests) twoKeys villaAndRival villaSettled.body
      villaSettled.event := by
  have verified : verifyAndParse twoDigests villaSettled.body ⟨"SB-Mid-server-villa", .sandbox⟩ =
      .ok villaSettled.event := by
    refine verifyAndParse_eq_ok.mpr ⟨villaSettled.notification, 500000, villaSettled.parsed, ?_,
      by decide +kernel, rfl⟩
    have other : villaSettled.notification.signedText "SB-Mid-server-villa" ≠ rivalSignedText := by
      decide +kernel
    have signed : twoDigests (villaSettled.notification.signedText "SB-Mid-server-villa") =
        villaSettled.notification.signatureKey :=
      (if_neg other).trans villaSettled.signature
    show timingSafeEqualHex (twoDigests (villaSettled.notification.signedText
      "SB-Mid-server-villa")) villaSettled.notification.signatureKey = .ok true
    rw [signed]
    exact timingSafeEqualHex_self _
  have peeked : (midtransGateway twoDigests).peekOrderId villaSettled.body =
      some "00000000-0000-0000-0000-000000000001" := by
    decide +kernel
  have resolved : credentialForOrder (midtransGateway twoDigests) twoKeys
      "00000000-0000-0000-0000-000000000001" villaAndRival =
        .ok (some ⟨"SB-Mid-server-villa", .sandbox⟩) := by
    decide +kernel
  exact receive_eq_ok peeked resolved verified

/-- The comparison at the rival's body and the villa's settlement. -/
theorem rival_compared :
    Uninterfered (midtransGateway twoDigests) twoKeys villaPayment villaSettled.body villaAndRival
        (runBodies (midtransGateway twoDigests) twoKeys [rivalBody] villaAndRival) ↔
      ¬ TakesId (midtransGateway twoDigests) twoKeys villaAndRival [rivalBody]
          villaSettled.event.providerEventId ∨
        ¬ villaSettled.event.Recordable "midtrans" villaAndRival ∨
        villaSettled.event.NothingLeft villaPayment
          (villaAndRival.bookingStatus 1 ≠ some .pendingPayment ∨
            ConfirmsBooking (midtransGateway twoDigests) twoKeys villaAndRival
              { villaPayment with id := 2, bookingId := 2 } 1 [rivalBody]) := by
  have about : AllAbout (midtransGateway twoDigests) twoKeys villaAndRival
      { villaPayment with id := 2, bookingId := 2 } [rivalBody] := by
    intro body member
    rw [List.mem_singleton.mp member]
    exact ⟨rivalEvent, rivalBody_accepted, by decide +kernel⟩
  exact orders_do_not_interfere_iff (by decide) rfl (by decide) rfl (by decide) about
    villaSettled_accepted villaSettled.named

/-- The villa's settlement, alone, is paid and confirmed; after the rival's body it is dropped. -/
theorem rival_swallows_settlement :
    Accepts (midtransGateway twoDigests) twoKeys villaAndRival rivalBody rivalEvent ∧
      parseUuid rivalEvent.orderId = some 2 ∧
      Accepts (midtransGateway twoDigests) twoKeys villaAndRival villaSettled.body
        villaSettled.event ∧
      parseUuid villaSettled.event.orderId = some 1 ∧
      ¬ Uninterfered (midtransGateway twoDigests) twoKeys villaPayment villaSettled.body
        villaAndRival
        (runBodies (midtransGateway twoDigests) twoKeys [rivalBody] villaAndRival) := by
  refine ⟨rivalBody_accepted, by decide +kernel, villaSettled_accepted, villaSettled.named,
    fun uninterfered => ?_⟩
  have statuses := congrArg (Option.map Payment.status) uninterfered.payment
  have after : Accepts (midtransGateway twoDigests) twoKeys
      (runBodies (midtransGateway twoDigests) twoKeys [rivalBody] villaAndRival) villaSettled.body
      villaSettled.event :=
    (accepts_congr (runBodies_sameCredentials _ _)).mpr villaSettled_accepted
  have between : runBodies (midtransGateway twoDigests) twoKeys [rivalBody] villaAndRival =
      (recordAndApply (midtransGateway twoDigests).provider rivalEvent villaAndRival).database
        villaAndRival := by
    rw [runBodies_cons, runBodies_nil]
    exact handle_accepted rivalBody_accepted
  have alone : ((recordAndApply "midtrans" villaSettled.event villaAndRival).database
      villaAndRival).paymentStatus 1 = some .paid := by
    decide +kernel
  have alongside : ((recordAndApply "midtrans" villaSettled.event
      ((recordAndApply "midtrans" rivalEvent villaAndRival).database villaAndRival)).database
        ((recordAndApply "midtrans" rivalEvent villaAndRival).database
          villaAndRival)).paymentStatus 1 = some .pending := by
    decide +kernel
  have handled : ∀ now, Accepts (midtransGateway twoDigests) twoKeys now villaSettled.body
      villaSettled.event → ((handle (midtransGateway twoDigests) twoKeys "midtrans"
        villaSettled.body now).database now).paymentStatus 1 =
          ((recordAndApply "midtrans" villaSettled.event now).database now).paymentStatus 1 :=
    fun now accepted => congrArg (fun db => Db.paymentStatus db 1) (handle_accepted accepted)
  have dropped := handled _ after
  rw [between] at dropped statuses
  cases (dropped.trans alongside).symm.trans
    (statuses.trans ((handled _ villaSettled_accepted).trans alone))

end Sambung
