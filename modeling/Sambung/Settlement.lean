/-
This file proves what decides a payment.

The payment's update and the booking's update of a settlement have separate
guards. The booking is confirmed by any recorded settlement; the payment is
decided by the first recorded event that settles or fails it. The two agree in
every order exactly where no failure is among the events, and a settlement is
dropped exactly where its event id is on record.

A statement about every order of a set of events ranges over all sequences of
deliveries that bring each of them once or more: the same event may come pushed
and pulled, in another document and with its order id in another spelling, and
what matters is what it says (`ParsedPaymentEvent.verdict`). The final statuses
are a fold over what the fresh events say, so each direction of the theorem is a
fact about a fold: without a failure the first settlement pays, and a failure that
comes first decides for good. Events that cannot be stored, for a character, for
their document or for the length of their id, are left out by `Recordable`.
-/

import Sambung.Deliveries
import Sambung.System

namespace Sambung

/-! ### The first decisive event and any settlement -/

/-- The event settles a payment of this amount. -/
abbrev ParsedPaymentEvent.Settles (event : ParsedPaymentEvent) (amountIdr : BigInt) : Prop :=
  event.outcome = .settlement ∧ event.grossAmountIdr = amountIdr

/-- The event fails a payment of this amount. -/
abbrev ParsedPaymentEvent.Fails (event : ParsedPaymentEvent) (amountIdr : BigInt) : Prop :=
  event.outcome = .failure ∧ event.grossAmountIdr = amountIdr

theorem settleStep_settles {event : ParsedPaymentEvent} {amountIdr : BigInt}
    (settles : event.Settles amountIdr) (standing : Standing) :
    settleStep amountIdr standing event =
      (if standing.1 = .pending then .paid else standing.1,
        if standing.2 = .pendingPayment then .confirmed else standing.2) := by
  rw [settleStep, if_pos settles.2, settles.1]

theorem settleStep_fails {event : ParsedPaymentEvent} {amountIdr : BigInt}
    (fails : event.Fails amountIdr) (standing : Standing) :
    settleStep amountIdr standing event =
      (if standing.1 = .pending then .failed else standing.1, standing.2) := by
  rw [settleStep, if_pos fails.2, fails.1]

theorem settleStep_indecisive {event : ParsedPaymentEvent} {amountIdr : BigInt}
    (unsettled : ¬ event.Settles amountIdr) (unfailed : ¬ event.Fails amountIdr)
    (standing : Standing) : settleStep amountIdr standing event = standing := by
  unfold settleStep
  split
  · rename_i same
    cases outcome : event.outcome with
    | settlement => exact absurd ⟨outcome, same⟩ unsettled
    | failure => exact absurd ⟨outcome, same⟩ unfailed
    | pending => rfl
    | ignore => rfl
  · rfl

/-- A decided payment stays as it is, whatever events come after. -/
theorem foldl_settleStep_decided (amountIdr : BigInt) (events : List ParsedPaymentEvent)
    {standing : Standing} (decided : standing.1 ≠ .pending) :
    (events.foldl (settleStep amountIdr) standing).1 = standing.1 := by
  induction events generalizing standing with
  | nil => rfl
  | cons event events inductionHypothesis =>
    have kept : (settleStep amountIdr standing event).1 = standing.1 := by
      by_cases settles : event.Settles amountIdr
      · rw [settleStep_settles settles, if_neg decided]
      · by_cases fails : event.Fails amountIdr
        · rw [settleStep_fails fails, if_neg decided]
        · rw [settleStep_indecisive settles fails]
    rw [List.foldl_cons, inductionHypothesis (by rwa [kept]), kept]

theorem foldl_settleStep_confirmed (amountIdr : BigInt) (events : List ParsedPaymentEvent)
    {standing : Standing} (confirmed : standing.2 = .confirmed) :
    (events.foldl (settleStep amountIdr) standing).2 = .confirmed := by
  induction events generalizing standing with
  | nil => exact confirmed
  | cons event events inductionHypothesis =>
    refine inductionHypothesis ?_
    by_cases settles : event.Settles amountIdr
    · rw [settleStep_settles settles, confirmed]
      rfl
    · by_cases fails : event.Fails amountIdr
      · rw [settleStep_fails fails, confirmed]
      · rw [settleStep_indecisive settles fails, confirmed]

/-- The booking of a pending hold is confirmed by any settlement, and by nothing else. -/
theorem foldl_settleStep_booking (amountIdr : BigInt) (events : List ParsedPaymentEvent)
    {standing : Standing} (held : standing.2 = .pendingPayment) :
    (events.foldl (settleStep amountIdr) standing).2 =
      if ∃ event ∈ events, event.Settles amountIdr then .confirmed else .pendingPayment := by
  induction events generalizing standing with
  | nil => simpa using held
  | cons event events inductionHypothesis =>
    rw [List.foldl_cons]
    by_cases settles : event.Settles amountIdr
    · have some_ : ∃ other ∈ event :: events, other.Settles amountIdr :=
        ⟨event, List.mem_cons_self, settles⟩
      rw [if_pos some_]
      refine foldl_settleStep_confirmed amountIdr events ?_
      rw [settleStep_settles settles, held]
      rfl
    · have kept : (settleStep amountIdr standing event).2 = .pendingPayment := by
        by_cases fails : event.Fails amountIdr
        · rw [settleStep_fails fails, held]
        · rw [settleStep_indecisive settles fails, held]
      rw [inductionHypothesis kept]
      simp only [List.mem_cons, exists_eq_or_imp, settles, false_or]

/-- Where the events that do not decide a pending payment leave it, the payment is what the others
make of it. -/
theorem foldl_settleStep_first {amountIdr : BigInt} {events : List ParsedPaymentEvent}
    {decides : ParsedPaymentEvent → Prop} [DecidablePred decides] {decided : PaymentStatus}
    {standing : Standing} (final : decided ≠ .pending)
    (deciding : ∀ event ∈ events, decides event → (settleStep amountIdr standing event).1 = decided)
    (indecisive : ∀ event ∈ events, ¬ decides event →
      settleStep amountIdr standing event = standing)
    (pending : standing.1 = .pending) :
    (events.foldl (settleStep amountIdr) standing).1 =
      if ∃ event ∈ events, decides event then decided else .pending := by
  induction events with
  | nil => simpa using pending
  | cons event events inductionHypothesis =>
    rw [List.foldl_cons]
    by_cases first : decides event
    · have some_ : ∃ other ∈ event :: events, decides other := ⟨event, List.mem_cons_self, first⟩
      have becomes := deciding event List.mem_cons_self first
      rw [if_pos some_, foldl_settleStep_decided _ _ (by rwa [becomes]), becomes]
    · rw [indecisive event List.mem_cons_self first,
        inductionHypothesis (fun other member => deciding other (List.mem_cons_of_mem _ member))
          fun other member => indecisive other (List.mem_cons_of_mem _ member)]
      simp only [List.mem_cons, exists_eq_or_imp, first, false_or]

/-- Without a failure, a pending payment is paid by any settlement. -/
theorem foldl_settleStep_unfailed {amountIdr : BigInt} {events : List ParsedPaymentEvent}
    (unfailed : ∀ event ∈ events, ¬ event.Fails amountIdr) {standing : Standing}
    (pending : standing.1 = .pending) :
    (events.foldl (settleStep amountIdr) standing).1 =
      if ∃ event ∈ events, event.Settles amountIdr then .paid else .pending := by
  refine foldl_settleStep_first (by decide) (fun event _ settles => ?_)
    (fun event member unsettled => settleStep_indecisive unsettled (unfailed event member) standing)
    pending
  rw [settleStep_settles settles, if_pos pending]

/-- Without a settlement, a pending payment is failed by any failure. -/
theorem foldl_settleStep_unsettled {amountIdr : BigInt} {events : List ParsedPaymentEvent}
    (unsettled : ∀ event ∈ events, ¬ event.Settles amountIdr) {standing : Standing}
    (pending : standing.1 = .pending) :
    (events.foldl (settleStep amountIdr) standing).1 =
      if ∃ event ∈ events, event.Fails amountIdr then .failed else .pending := by
  refine foldl_settleStep_first (by decide) (fun event _ fails => ?_)
    (fun event member unfailed => settleStep_indecisive (unsettled event member) unfailed standing)
    pending
  rw [settleStep_fails fails, if_pos pending]

/-! ### Every order of a set of events -/

/-- What an event says of its payment: the event without the spelling of its order id and without
the document it came in. -/
def ParsedPaymentEvent.verdict (event : ParsedPaymentEvent) : ParsedPaymentEvent :=
  { event with orderId := "", raw := .null }

/-- Two deliveries bring one event where these agree: id, outcome and amount, the order they name,
and whether `jsonb` takes the document. A pushed notification and a pulled status of one charge
differ in their documents and are one event. -/
structure ParsedPaymentEvent.Alike [PostgresServer] (first second : ParsedPaymentEvent) :
    Prop where
  verdict : first.verdict = second.verdict
  order : parseUuid first.orderId = parseUuid second.orderId
  document : first.raw.storable = second.raw.storable

/-- The delivery, through either entry point, brings this event. -/
def Delivery.Brings [PostgresServer] (gateway : PaymentGateway) (decrypt : Decrypt) (db : Db)
    (delivery : Delivery) (event : ParsedPaymentEvent) : Prop :=
  ∃ received, delivery.received gateway decrypt db = .ok (some received) ∧ received.Alike event

/-- The sequence delivers each of the events at least once, in any order and by any deliveries,
and nothing else. -/
structure DeliversAll [PostgresServer] (gateway : PaymentGateway) (decrypt : Decrypt) (db : Db)
    (events : List ParsedPaymentEvent) (sequence : List Delivery) : Prop where
  only : ∀ delivery ∈ sequence, ∃ event ∈ events, delivery.Brings gateway decrypt db event
  every : ∀ event ∈ events, ∃ delivery ∈ sequence, delivery.Brings gateway decrypt db event

/-- The final statuses of the payment and of its booking. -/
def outcomeOf [PostgresServer] (gateway : PaymentGateway) (decrypt : Decrypt) (pay : Payment)
    (sequence : List Delivery) (db : Db) : Option PaymentStatus × Option BookingStatus :=
  let after := runDeliveries gateway decrypt sequence db
  (after.paymentStatus pay.id, after.bookingStatus pay.bookingId)

/-- All sequences that deliver the events end alike; and with a settlement among the events they
end paid and confirmed. -/
structure SettlesInAnyOrder [PostgresServer] (gateway : PaymentGateway) (decrypt : Decrypt)
    (db : Db) (pay : Payment) (events : List ParsedPaymentEvent) : Prop where
  confluent : ∀ first second, DeliversAll gateway decrypt db events first →
    DeliversAll gateway decrypt db events second →
    outcomeOf gateway decrypt pay first db = outcomeOf gateway decrypt pay second db
  settled : (∃ event ∈ events, event.outcome = .settlement) →
    ∀ sequence, DeliversAll gateway decrypt db events sequence →
      outcomeOf gateway decrypt pay sequence db = (some .paid, some .confirmed)

/-- The events concern a payment that waits on a hold: each is verified, so that some delivery
brings it, and names the payment's order, every settlement has the payment's amount, and the event
ids are pairwise distinct. -/
structure ConcernsPending [PostgresServer] (gateway : PaymentGateway) (decrypt : Decrypt) (db : Db)
    (pay : Payment) (events : List ParsedPaymentEvent) : Prop where
  found : db.paymentById pay.id = some pay
  pending : pay.status = .pending
  held : db.bookingStatus pay.bookingId = some .pendingPayment
  verified : ∀ event ∈ events, ∃ delivery : Delivery, delivery.Brings gateway decrypt db event
  named : ∀ event ∈ events, parseUuid event.orderId = some pay.id
  amount : ∀ event ∈ events, event.outcome = .settlement → event.grossAmountIdr = pay.amountIdr
  distinct : (events.map ParsedPaymentEvent.providerEventId).Nodup

theorem ParsedPaymentEvent.Alike.refl [PostgresServer] (event : ParsedPaymentEvent) :
    event.Alike event :=
  ⟨rfl, rfl, rfl⟩

theorem ParsedPaymentEvent.Alike.id [PostgresServer] {first second : ParsedPaymentEvent}
    (alike : first.Alike second) : first.providerEventId = second.providerEventId := by
  show first.verdict.providerEventId = second.verdict.providerEventId
  rw [alike.verdict]

/-- Of events that are alike both can be recorded or neither. -/
theorem ParsedPaymentEvent.Alike.recordable [PostgresServer] {first second : ParsedPaymentEvent}
    (alike : first.Alike second) (provider : String) (db : Db) :
    first.Recordable provider db ↔ second.Recordable provider db := by
  have storable : ∀ {one other : ParsedPaymentEvent}, one.Alike other →
      one.Storable provider → other.Storable provider := fun same fits =>
    ⟨fits.providerText, same.id ▸ fits.idText, same.document ▸ fits.document,
      same.id ▸ fits.indexed⟩
  have back : second.Alike first :=
    ⟨alike.verdict.symm, alike.order.symm, alike.document.symm⟩
  exact ⟨fun both => ⟨storable alike both.1, alike.id ▸ both.2⟩,
    fun both => ⟨storable back both.1, back.id ▸ both.2⟩⟩

section AnyOrder

variable [PostgresServer] {gateway : PaymentGateway} {decrypt : Decrypt} {db : Db} {pay : Payment}
  {events : List ParsedPaymentEvent} {sequence : List Delivery}

/-- What the events of a sequence say that were recordable at the start. -/
noncomputable def freshVerdicts (gateway : PaymentGateway) (decrypt : Decrypt) (db : Db)
    (sequence : List Delivery) : List ParsedPaymentEvent :=
  ((sequence.filterMap (storedEvent gateway decrypt db)).map ParsedPaymentEvent.verdict).filter
    (Dedup.isNew ParsedPaymentEvent.providerEventId (db.recordedIds gateway.provider))

/-- Every order of the events has the same recordable ones. -/
theorem DeliversAll.exists_fresh_iff (all : DeliversAll gateway decrypt db events sequence)
    (kind : ParsedPaymentEvent → Prop) (ofVerdict : ∀ event, kind event.verdict ↔ kind event) :
    (∃ verdict ∈ freshVerdicts gateway decrypt db sequence, kind verdict) ↔
      ∃ event ∈ events, event.Recordable gateway.provider db ∧ kind event := by
  constructor
  · rintro ⟨verdict, member, ofKind⟩
    obtain ⟨inside, unrecorded⟩ := List.mem_filter.mp member
    obtain ⟨stored, storedMember, rfl⟩ := List.mem_map.mp inside
    obtain ⟨delivery, delivered, isStored⟩ := List.mem_filterMap.mp storedMember
    obtain ⟨received, storable⟩ := storedEvent_eq_some.mp isStored
    obtain ⟨event, eventMember, other, receivedOther, alike⟩ := all.only delivery delivered
    rw [received] at receivedOther
    cases receivedOther
    have recordable : stored.Recordable gateway.provider db :=
      ⟨storable, not_not.mp (Dedup.isNew_iff.mp unrecorded)⟩
    refine ⟨event, eventMember, (alike.recordable _ _).mp recordable, ?_⟩
    rw [alike.verdict] at ofKind
    exact (ofVerdict event).mp ofKind
  · rintro ⟨event, eventMember, recordable, ofKind⟩
    obtain ⟨delivery, delivered, received, isReceived, alike⟩ := all.every event eventMember
    obtain ⟨storable, unrecorded⟩ := (alike.recordable _ _).mpr recordable
    have stored : storedEvent gateway decrypt db delivery = some received :=
      storedEvent_eq_some.mpr ⟨isReceived, storable⟩
    refine ⟨received.verdict, List.mem_filter.mpr ⟨List.mem_map_of_mem
      (List.mem_filterMap.mpr ⟨delivery, delivered, stored⟩),
        Dedup.isNew_iff.mpr (not_not.mpr unrecorded)⟩, ?_⟩
    rw [alike.verdict]
    exact (ofVerdict event).mpr ofKind

/-- The final statuses are the fold of the statuses over what the fresh events say. -/
theorem ConcernsPending.outcomeOf_eq (concerns : ConcernsPending gateway decrypt db pay events)
    (all : DeliversAll gateway decrypt db events sequence) :
    outcomeOf gateway decrypt pay sequence db =
      let final := (freshVerdicts gateway decrypt db sequence).foldl (settleStep pay.amountIdr)
        (.pending, .pendingPayment)
      (some final.1, some final.2) := by
  have stands : db.Stands pay (.pending, .pendingPayment) := by
    have atStart := Db.Stands.of_pending concerns.found concerns.held
    rwa [concerns.pending] at atStart
  have named : ∀ delivery ∈ sequence, ∀ event,
      delivery.received gateway decrypt db = .ok (some event) →
      parseUuid event.orderId = some pay.id := by
    intro delivery member event received
    obtain ⟨other, otherMember, found, isFound, alike⟩ := all.only delivery member
    rw [isFound] at received
    cases received
    exact alike.order.trans (concerns.named other otherMember)
  have ofEvents : ∀ verdict ∈ (sequence.filterMap (storedEvent gateway decrypt db)).map
      ParsedPaymentEvent.verdict, ∃ event ∈ events, event.verdict = verdict := by
    intro verdict member
    obtain ⟨stored, storedMember, rfl⟩ := List.mem_map.mp member
    obtain ⟨delivery, delivered, isStored⟩ := List.mem_filterMap.mp storedMember
    obtain ⟨event, eventMember, other, received, alike⟩ := all.only delivery delivered
    rw [(storedEvent_eq_some.mp isStored).1] at received
    cases received
    exact ⟨event, eventMember, alike.verdict.symm⟩
  have distinct : ∀ a ∈ (sequence.filterMap (storedEvent gateway decrypt db)).map
        ParsedPaymentEvent.verdict,
      ∀ b ∈ (sequence.filterMap (storedEvent gateway decrypt db)).map ParsedPaymentEvent.verdict,
      a.providerEventId = b.providerEventId → a = b := by
    intro a aMember b bMember sameId
    obtain ⟨first, firstMember, rfl⟩ := ofEvents a aMember
    obtain ⟨second, secondMember, rfl⟩ := ofEvents b bMember
    rw [List.inj_on_of_nodup_map concerns.distinct firstMember secondMember sameId]
  have final := (stands.runDeliveries named).1
  have sayOnly : ∀ start, (sequence.filterMap (storedEvent gateway decrypt db)).foldl
        (consumeEvent pay) start =
      ((sequence.filterMap (storedEvent gateway decrypt db)).map
        ParsedPaymentEvent.verdict).foldl (consumeEvent pay) start := by
    intro start
    rw [List.foldl_map]
    rfl
  rw [sayOnly, Dedup.foldl_consume (settleStep_absorbing pay.amountIdr) distinct] at final
  exact Prod.ext final.paymentStatus final.booking

/-- The events can be delivered: each is brought by some delivery, and these one after another are a
sequence. -/
theorem ConcernsPending.exists_sequence
    (concerns : ConcernsPending gateway decrypt db pay events) :
    ∃ sequence, DeliversAll gateway decrypt db events sequence := by
  have pick : ∀ event, ∃ delivery : Delivery,
      event ∈ events → delivery.Brings gateway decrypt db event := by
    intro event
    by_cases member : event ∈ events
    · obtain ⟨delivery, brings⟩ := concerns.verified event member
      exact ⟨delivery, fun _ => brings⟩
    · exact ⟨.push "" .null, fun inside => absurd inside member⟩
  choose bring brings using pick
  refine ⟨events.map bring, ?_, fun event member =>
    ⟨bring event, List.mem_map_of_mem member, brings event member⟩⟩
  intro delivery delivered
  obtain ⟨event, member, rfl⟩ := List.mem_map.mp delivered
  exact ⟨event, member, brings event member⟩

/-- Where no settlement is among the events, the booking waits on and the payment is failed by any
recordable failure. -/
theorem ConcernsPending.ends_unsettled (concerns : ConcernsPending gateway decrypt db pay events)
    (absent : ∀ event ∈ events, event.outcome ≠ .settlement)
    (all : DeliversAll gateway decrypt db events sequence) :
    outcomeOf gateway decrypt pay sequence db =
      (some (if ∃ verdict ∈ freshVerdicts gateway decrypt db sequence,
        verdict.Fails pay.amountIdr then .failed else .pending), some .pendingPayment) := by
  have none_ : ¬ ∃ verdict ∈ freshVerdicts gateway decrypt db sequence,
      verdict.Settles pay.amountIdr := by
    rw [all.exists_fresh_iff (fun event => event.Settles pay.amountIdr) (fun event => Iff.rfl)]
    rintro ⟨event, member, -, settles⟩
    exact absent event member settles.1
  have unsettled : ∀ verdict ∈ freshVerdicts gateway decrypt db sequence,
      ¬ verdict.Settles pay.amountIdr := fun verdict member settles =>
    none_ ⟨verdict, member, settles⟩
  rw [concerns.outcomeOf_eq all]
  dsimp only
  rw [foldl_settleStep_booking _ _ rfl, foldl_settleStep_unsettled unsettled rfl, if_neg none_]

/-- Where a recordable settlement is among the events and no recordable failure, the payment is
paid and the booking confirmed. -/
theorem ConcernsPending.ends_paid (concerns : ConcernsPending gateway decrypt db pay events)
    (settlement : ∃ event ∈ events, event.outcome = .settlement ∧
      event.Recordable gateway.provider db)
    (unfailed : ∀ event ∈ events, event.Fails pay.amountIdr →
      ¬ event.Recordable gateway.provider db)
    (all : DeliversAll gateway decrypt db events sequence) :
    outcomeOf gateway decrypt pay sequence db = (some .paid, some .confirmed) := by
  obtain ⟨event, member, outcome, recordable⟩ := settlement
  have inside : ∃ verdict ∈ freshVerdicts gateway decrypt db sequence,
      verdict.Settles pay.amountIdr :=
    (all.exists_fresh_iff (fun event => event.Settles pay.amountIdr) fun event => Iff.rfl).mpr
        ⟨event, member, recordable, outcome, concerns.amount event member outcome⟩
  have unfailedAll : ∀ verdict ∈ freshVerdicts gateway decrypt db sequence,
      ¬ verdict.Fails pay.amountIdr := by
    intro verdict fresh fails
    obtain ⟨other, otherMember, otherRecordable, otherFails⟩ :=
      (all.exists_fresh_iff (fun event => event.Fails pay.amountIdr) fun event => Iff.rfl).mp
        ⟨verdict, fresh, fails⟩
    exact unfailed other otherMember otherFails otherRecordable
  rw [concerns.outcomeOf_eq all]
  dsimp only
  rw [foldl_settleStep_booking _ _ rfl, foldl_settleStep_unfailed unfailedAll rfl, if_pos inside,
    if_pos inside]

/-- A sequence that ends confirmed had a recordable settlement to deliver. -/
theorem ConcernsPending.settlement_of_confirmed
    (concerns : ConcernsPending gateway decrypt db pay events)
    (all : DeliversAll gateway decrypt db events sequence)
    (ended : outcomeOf gateway decrypt pay sequence db = (some .paid, some .confirmed)) :
    ∃ event ∈ events, event.outcome = .settlement ∧ event.Recordable gateway.provider db := by
  rw [concerns.outcomeOf_eq all] at ended
  have confirmed := congrArg Prod.snd ended
  dsimp only at confirmed
  rw [foldl_settleStep_booking _ _ rfl] at confirmed
  by_contra unrecordable
  rw [if_neg] at confirmed
  · cases confirmed
  · rw [all.exists_fresh_iff (fun event => event.Settles pay.amountIdr) (fun event => Iff.rfl)]
    rintro ⟨event, member, recordable, settles⟩
    exact unrecordable ⟨event, member, settles.1, recordable⟩

/-- A recordable failure that is delivered first fails the payment for good. -/
theorem ConcernsPending.failure_first (concerns : ConcernsPending gateway decrypt db pay events)
    (all : DeliversAll gateway decrypt db events sequence) {event : ParsedPaymentEvent}
    (member : event ∈ events) (fails : event.Fails pay.amountIdr)
    (recordable : event.Recordable gateway.provider db) :
    ∃ delivery, DeliversAll gateway decrypt db events (delivery :: sequence) ∧
      (outcomeOf gateway decrypt pay (delivery :: sequence) db).1 = some .failed := by
  obtain ⟨delivery, received, isReceived, alike⟩ := concerns.verified event member
  have allAfter : DeliversAll gateway decrypt db events (delivery :: sequence) := by
    refine ⟨fun other inside => ?_, fun other otherMember => ?_⟩
    · rcases List.mem_cons.mp inside with rfl | later
      · exact ⟨event, member, received, isReceived, alike⟩
      · exact all.only other later
    · obtain ⟨late, lateMember, brings⟩ := all.every other otherMember
      exact ⟨late, List.mem_cons_of_mem _ lateMember, brings⟩
  obtain ⟨storable, unrecorded⟩ := (alike.recordable _ _).mpr recordable
  have head : freshVerdicts gateway decrypt db (delivery :: sequence) =
      received.verdict :: freshVerdicts gateway decrypt db sequence := by
    rw [freshVerdicts, List.filterMap_cons_some (storedEvent_eq_some.mpr ⟨isReceived, storable⟩),
      List.map_cons, List.filter_cons_of_pos (Dedup.isNew_iff.mpr (not_not.mpr unrecorded))]
    rfl
  have failsFirst : received.verdict.Fails pay.amountIdr := by
    rw [alike.verdict]
    exact fails
  refine ⟨delivery, allAfter, ?_⟩
  rw [concerns.outcomeOf_eq allAfter]
  dsimp only
  rw [head, List.foldl_cons, settleStep_fails failsFirst, if_pos rfl,
    foldl_settleStep_decided _ _ (by decide)]

/-- A set of events about a pending payment on a hold settles in any order exactly where it holds no
settlement, or holds one that can be recorded at the start and no failure of the payment's amount
that can. An event can be recorded where its id is not on record yet and is no longer than its index
takes, its texts hold no U+0000, and `jsonb` takes the document it comes in. The events are any set
that `concerns` the payment: each is verified and names the payment's order, the settlements are of
its amount, and different events have different ids. -/
theorem settles_in_any_order_iff (concerns : ConcernsPending gateway decrypt db pay events) :
    SettlesInAnyOrder gateway decrypt db pay events ↔
      (∀ event ∈ events, event.outcome ≠ .settlement) ∨
      ((∃ event ∈ events, event.outcome = .settlement ∧ event.Recordable gateway.provider db) ∧
        ∀ event ∈ events, event.Fails pay.amountIdr →
          ¬ event.Recordable gateway.provider db) := by
  constructor
  · intro settles
    by_cases absent : ∀ event ∈ events, event.outcome ≠ .settlement
    · exact Or.inl absent
    · push Not at absent
      obtain ⟨sequence, all⟩ := concerns.exists_sequence
      refine Or.inr ⟨concerns.settlement_of_confirmed all (settles.settled absent sequence all),
        fun event member fails recordable => ?_⟩
      obtain ⟨delivery, allAfter, failed⟩ := concerns.failure_first all member fails recordable
      rw [settles.settled absent _ allAfter] at failed
      cases failed
  · rintro (absent | ⟨settlement, unfailed⟩)
    · refine ⟨fun first second allFirst allSecond => ?_,
        fun ⟨event, member, outcome⟩ => absurd outcome (absent event member)⟩
      rw [concerns.ends_unsettled absent allFirst, concerns.ends_unsettled absent allSecond]
      have same : (∃ verdict ∈ freshVerdicts gateway decrypt db first,
            verdict.Fails pay.amountIdr) ↔
          ∃ verdict ∈ freshVerdicts gateway decrypt db second, verdict.Fails pay.amountIdr :=
        (allFirst.exists_fresh_iff _ fun event => Iff.rfl).trans
        (allSecond.exists_fresh_iff _ fun event => Iff.rfl).symm
      rw [if_congr same rfl rfl]
    · exact ⟨fun first second allFirst allSecond =>
          (concerns.ends_paid settlement unfailed allFirst).trans
            (concerns.ends_paid settlement unfailed allSecond).symm,
        fun _ sequence all => concerns.ends_paid settlement unfailed all⟩

end AnyOrder

/-! ### A deposit on the villa -/

attribute [local instance] PostgresServer.uncompressed

/-- A pending deposit on a hold of the villa. -/
def villaPayment : Payment where
  id := 1
  bookingId := 1
  provider := "midtrans"
  amountIdr := 500000
  status := .pending
  handledAt := none
  rawPayload := .object [("token", .string "snap"), ("redirectUrl", .string "https://snap")]
  createdAt := 0

/-- The villa with the hold, its deposit and the tenant's credential. -/
def villaPending : Db :=
  { villa with
    booking := [villaHold]
    payment := [villaPayment]
    tenantPaymentCredential := [{
      tenantId := 1, provider := "midtrans", environment := .sandbox, ciphertext := [], nonce := []
      keyVersion := 1 }] }

/-- What varies between Midtrans's notifications about the deposit: one of the status codes
signed above, and short texts a column can hold. -/
structure VillaNotice where
  statusCode : String
  transactionId : String
  transactionStatus : String
  fraudStatus : Option String
  coded : statusCode ∈ ["200", "201", "202"] := by decide
  texts : ∀ text ∈ transactionId :: transactionStatus :: fraudStatus.toList,
    text ≠ "" ∧ pgText text := by decide +kernel
  short : (transactionId ++ ":" ++ transactionStatus).utf8ByteSize ≤ 126 := by decide +kernel

theorem append_middle_injective {opening a b middle closing : String}
    (same : opening ++ a ++ middle ++ closing = opening ++ b ++ middle ++ closing) : a = b := by
  have texts := congrArg String.toList same
  simp only [String.toList_append] at texts
  exact String.toList_inj.mp
    (List.append_cancel_left (List.append_cancel_right (List.append_cancel_right texts)))

namespace VillaNotice

/-- The notification's fields. -/
def fields (notice : VillaNotice) : List (String × String) :=
  [("order_id", "00000000-0000-0000-0000-000000000001"),
    ("status_code", notice.statusCode),
    ("gross_amount", "500000.00"),
    ("signature_key", villaSignature notice.statusCode),
    ("transaction_status", notice.transactionStatus),
    ("transaction_id", notice.transactionId)] ++
  notice.fraudStatus.toList.map fun status => ("fraud_status", status)

/-- The notification's body. The signature covers the order, the status code and the amount. -/
def body (notice : VillaNotice) : Json :=
  .object (notice.fields.map fun field => (.plain field.1, .string (.plain field.2)))

/-- The notification, pushed. -/
def push (notice : VillaNotice) : Delivery := .push "midtrans" notice.body

/-- The event the notification is read as. -/
def event (notice : VillaNotice) : ParsedPaymentEvent where
  providerEventId := notice.transactionId ++ ":" ++ notice.transactionStatus
  orderId := "00000000-0000-0000-0000-000000000001"
  outcome := midtransOutcome notice.transactionStatus notice.fraudStatus
  grossAmountIdr := 500000
  raw := notice.body

/-- The notification the body parses as. -/
def notification (notice : VillaNotice) : MidtransNotification where
  orderId := "00000000-0000-0000-0000-000000000001"
  statusCode := notice.statusCode
  grossAmount := "500000.00"
  signatureKey := villaSignature notice.statusCode
  transactionStatus := notice.transactionStatus
  transactionId := notice.transactionId
  fraudStatus := notice.fraudStatus

theorem transactionId_text (notice : VillaNotice) :
    notice.transactionId ≠ "" ∧ pgText notice.transactionId :=
  notice.texts _ List.mem_cons_self

theorem transactionStatus_text (notice : VillaNotice) :
    notice.transactionStatus ≠ "" ∧ pgText notice.transactionStatus :=
  notice.texts _ (List.mem_cons_of_mem _ List.mem_cons_self)

theorem statusCode_text (notice : VillaNotice) :
    notice.statusCode ≠ "" ∧ pgText notice.statusCode := by
  have texts : ∀ statusCode ∈ ["200", "201", "202"], statusCode ≠ "" ∧ pgText statusCode := by
    decide +kernel
  exact texts _ notice.coded

/-- The signature is the digest of the signed text. -/
theorem signature (notice : VillaNotice) :
    villaDigest (villaSignedText notice.statusCode) = villaSignature notice.statusCode := by
  have other : ∀ {a b : String}, a ≠ b → villaSignedText a ≠ villaSignedText b :=
    fun different same => different (append_middle_injective same)
  have coded := notice.coded
  simp only [List.mem_cons, List.not_mem_nil, or_false] at coded
  unfold villaDigest
  rcases coded with code | code | code
  · rw [code, if_pos rfl]
  · rw [code, if_neg (other (by decide)), if_pos rfl]
  · rw [code, if_neg (other (by decide)), if_neg (other (by decide)), if_pos rfl]

theorem signature_text (notice : VillaNotice) :
    villaSignature notice.statusCode ≠ "" ∧ pgText (villaSignature notice.statusCode) := by
  have texts : ∀ statusCode ∈ ["200", "201", "202"],
      villaSignature statusCode ≠ "" ∧ pgText (villaSignature statusCode) := by
    decide +kernel
  exact texts _ notice.coded

theorem parsed (notice : VillaNotice) :
    parseNotification notice.body = some notice.notification := by
  have coded := notice.statusCode_text.1
  have signed := notice.signature_text.1
  have named := notice.transactionId_text.1
  have stated := notice.transactionStatus_text.1
  unfold body fields notification
  cases notice.fraudStatus <;>
    simp [parseNotification, nonEmptyString, optionalString, Json.field, Json.asString,
      Option.filter, coded, signed, named, stated]

/-- The villa's notifications pass verification under the villa's key, as the events they tell of.
-/
theorem verified (notice : VillaNotice) :
    verifyAndParse villaDigest notice.body ⟨"SB-Mid-server-villa", .sandbox⟩ =
      .ok notice.event := by
  have signed : villaDigest (notice.notification.signedText "SB-Mid-server-villa") =
      notice.notification.signatureKey :=
    notice.signature
  have gross : parseGrossAmountIdr "500000.00" = .ok 500000 := by decide +kernel
  refine verifyAndParse_eq_ok.mpr ⟨notice.notification, 500000, notice.parsed, ?_, gross, rfl⟩
  rw [signed]
  exact timingSafeEqualHex_self _

/-- The notifications about the deposit are received as their events. -/
theorem received (notice : VillaNotice) :
    notice.push.received (midtransGateway villaDigest) villaEnvironment.decrypt villaPending =
      .ok (some notice.event) := by
  have resolved : credentialForOrder (midtransGateway villaDigest) villaEnvironment.decrypt
      "00000000-0000-0000-0000-000000000001" villaPending =
        .ok (some ⟨"SB-Mid-server-villa", .sandbox⟩) := by
    decide +kernel
  have peeked : (midtransGateway villaDigest).peekOrderId notice.body =
      some "00000000-0000-0000-0000-000000000001" := by
    show nonEmptyString "order_id" notice.body = some "00000000-0000-0000-0000-000000000001"
    simp [nonEmptyString, body, fields, Json.field, Json.asString]
  exact receive_eq_ok peeked resolved notice.verified

theorem named (notice : VillaNotice) : parseUuid notice.event.orderId = some villaPayment.id := by
  show parseUuid "00000000-0000-0000-0000-000000000001" = some 1
  decide +kernel

theorem fields_text (notice : VillaNotice) :
    ∀ field ∈ notice.fields, pgText field.1 ∧ pgText field.2 := by
  have names : ∀ text ∈ ["order_id", "00000000-0000-0000-0000-000000000001", "status_code",
      "gross_amount", "500000.00", "signature_key", "transaction_status", "transaction_id",
      "fraud_status"], pgText text := by
    decide +kernel
  intro field member
  simp only [fields, List.mem_append, List.mem_cons, List.not_mem_nil, or_false, List.mem_map,
    Option.mem_toList] at member
  rcases member with (rfl | rfl | rfl | rfl | rfl | rfl) | ⟨status, given, rfl⟩
  · exact ⟨names _ (by simp), names _ (by simp)⟩
  · exact ⟨names _ (by simp), notice.statusCode_text.2⟩
  · exact ⟨names _ (by simp), names _ (by simp)⟩
  · exact ⟨names _ (by simp), notice.signature_text.2⟩
  · exact ⟨names _ (by simp), notice.transactionStatus_text.2⟩
  · exact ⟨names _ (by simp), notice.transactionId_text.2⟩
  · refine ⟨names _ (by simp), (notice.texts status ?_).2⟩
    exact List.mem_cons_of_mem _ (List.mem_cons_of_mem _ (Option.mem_toList.mpr given))

theorem storable (notice : VillaNotice) : notice.event.Storable "midtrans" where
  providerText := by decide +kernel
  idText := by
    have named := notice.transactionId_text.2
    have stated := notice.transactionStatus_text.2
    simp [event, pgText] at named stated ⊢
    exact ⟨named, stated⟩
  document := by
    have plain : ∀ text : String, pgText text → (JsString.plain text).refusal = none := by
      intro text whole
      simp [JsString.refusal, whole]
    have fields : ∀ rows : List (String × String), (∀ row ∈ rows, pgText row.1 ∧ pgText row.2) →
        Json.refusedField (rows.map fun row => (.plain row.1, .string (.plain row.2))) = none := by
      intro rows texts
      induction rows with
      | nil => rfl
      | cons row rows inductionHypothesis =>
        obtain ⟨name, value⟩ := texts row List.mem_cons_self
        rw [List.map_cons, Json.refusedField, Json.refusedString, plain _ name, plain _ value,
          inductionHypothesis fun other member => texts other (List.mem_cons_of_mem _ member)]
        rfl
    exact Option.isNone_iff_eq_none.mpr (fields notice.fields notice.fields_text)
  indexed := by
    have short := notice.short
    have provider : "midtrans".utf8ByteSize = 8 := by decide +kernel
    show indexRefusal _ 0 ["midtrans", notice.transactionId ++ ":" ++ notice.transactionStatus] =
      none
    refine if_pos ?_
    show (0 + ("midtrans".utf8ByteSize + 1 +
      ((notice.transactionId ++ ":" ++ notice.transactionStatus).utf8ByteSize + 1 + 0)) + 15) /
        8 * 8 ≤ 2704
    rw [provider]
    omega

end VillaNotice

/-- The notification that the deposit is settled. -/
def villaSettled : VillaNotice where
  statusCode := "200"
  transactionId := "tx-1"
  transactionStatus := "settlement"
  fraudStatus := none

theorem settled_coded : "200" ∈ ["200", "201", "202"] := by decide

theorem denied_coded : "202" ∈ ["200", "201", "202"] := by decide

/-- The notification that an attempt was denied. -/
def villaDenied : VillaNotice where
  statusCode := "202"
  transactionId := "tx-1"
  transactionStatus := "deny"
  fraudStatus := none

/-- The consumer of the deposit's events, computed. -/
def villaConsumed (notices : List VillaNotice) : Standing × List String :=
  (notices.map VillaNotice.event).foldl
    (Dedup.consumeListed (settleStep 500000) ParsedPaymentEvent.providerEventId)
    ((.pending, .pendingPayment), [])

/-- Notifications about the deposit leave its statuses and its ids as the consumer does. -/
theorem runDeliveries_villa (notices : List VillaNotice) :
    (runDeliveries (midtransGateway villaDigest) villaEnvironment.decrypt
        (notices.map VillaNotice.push) villaPending).Stands villaPayment (villaConsumed notices).1 ∧
      (runDeliveries (midtransGateway villaDigest) villaEnvironment.decrypt
        (notices.map VillaNotice.push) villaPending).recordedIds "midtrans" =
          { id | id ∈ (villaConsumed notices).2 } := by
  have stands : villaPending.Stands villaPayment (.pending, .pendingPayment) := ⟨rfl, rfl⟩
  have named : ∀ delivery ∈ notices.map VillaNotice.push, ∀ event,
      delivery.received (midtransGateway villaDigest) villaEnvironment.decrypt villaPending =
        .ok (some event) → parseUuid event.orderId = some villaPayment.id := by
    intro delivery member event received
    obtain ⟨notice, -, rfl⟩ := List.mem_map.mp member
    rw [notice.received] at received
    cases received
    exact notice.named
  have events : (notices.map VillaNotice.push).filterMap
      (storedEvent (midtransGateway villaDigest) villaEnvironment.decrypt villaPending) =
        notices.map VillaNotice.event := by
    rw [List.filterMap_map, ← List.filterMap_eq_map]
    refine List.filterMap_congr fun notice _ => ?_
    exact storedEvent_eq_some.mpr ⟨notice.received, notice.storable⟩
  have unrecorded : villaPending.recordedIds "midtrans" = { id | id ∈ ([] : List String) } := by
    refine Set.ext fun id => iff_of_false ?_ List.not_mem_nil
    exact fun recorded => recorded fun other member => nomatch member
  have listed : (notices.map VillaNotice.event).foldl (consumeEvent villaPayment)
      ((.pending, .pendingPayment), villaPending.recordedIds "midtrans") =
        ((villaConsumed notices).1, { id | id ∈ (villaConsumed notices).2 }) := by
    rw [unrecorded]
    exact Dedup.foldl_consumeListed (settleStep 500000) ParsedPaymentEvent.providerEventId
      (notices.map VillaNotice.event) (.pending, .pendingPayment) []
  have both := stands.runDeliveries named
  rw [events] at both
  exact ⟨congrArg Prod.fst listed ▸ both.1, both.2.trans (congrArg Prod.snd listed)⟩

/-- The two statuses after notifications about the deposit, as the consumer computes them. -/
theorem outcomeOf_villa (notices : List VillaNotice) :
    outcomeOf (midtransGateway villaDigest) villaEnvironment.decrypt villaPayment
        (notices.map VillaNotice.push) villaPending =
      (some (villaConsumed notices).1.1, some (villaConsumed notices).1.2) :=
  (runDeliveries_villa notices).1.statuses

/-- The notification that the guest has chosen how to pay. -/
def villaAwaited : VillaNotice where
  statusCode := "201"
  transactionId := "tx-1"
  transactionStatus := "pending"
  fraudStatus := none

theorem VillaNotice.brings (notice : VillaNotice) :
    notice.push.Brings (midtransGateway villaDigest) villaEnvironment.decrypt villaPending
      notice.event :=
  ⟨notice.event, notice.received, .refl notice.event⟩

theorem villaDeposit_concerns :
    ConcernsPending (midtransGateway villaDigest) villaEnvironment.decrypt villaPending
      villaPayment [villaAwaited.event, villaSettled.event] where
  found := rfl
  pending := rfl
  held := rfl
  verified event member := by
    simp only [List.mem_cons, List.not_mem_nil, or_false] at member
    obtain rfl | rfl := member
    · exact ⟨villaAwaited.push, villaAwaited.brings⟩
    · exact ⟨villaSettled.push, villaSettled.brings⟩
  named event member := by
    simp only [List.mem_cons, List.not_mem_nil, or_false] at member
    obtain rfl | rfl := member
    · exact villaAwaited.named
    · exact villaSettled.named
  amount event member := by
    simp only [List.mem_cons, List.not_mem_nil, or_false] at member
    obtain rfl | rfl := member
    · exact fun _ => rfl
    · exact fun _ => rfl
  distinct := by decide +kernel

/-- The notice that the guest is about to pay and the settlement settle the deposit in either
order. -/
theorem settles_in_any_order_iff_villa :
    SettlesInAnyOrder (midtransGateway villaDigest) villaEnvironment.decrypt villaPending
      villaPayment [villaAwaited.event, villaSettled.event] := by
  refine (settles_in_any_order_iff villaDeposit_concerns).mpr (Or.inr ⟨?_, ?_⟩)
  · exact ⟨villaSettled.event, List.mem_cons_of_mem _ List.mem_cons_self, rfl,
      villaSettled.storable, fun other member => nomatch member⟩
  · rintro event member fails
    simp only [List.mem_cons, List.not_mem_nil, or_false] at member
    obtain rfl | rfl := member
    · cases fails.1
    · cases fails.1

/-- A denied attempt, then the settlement: the booking is confirmed and the payment stays
failed. In the other order it is paid. -/
theorem denied_then_settled :
    outcomeOf (midtransGateway villaDigest) villaEnvironment.decrypt villaPayment
        [villaDenied.push, villaSettled.push] villaPending = (some .failed, some .confirmed) ∧
    outcomeOf (midtransGateway villaDigest) villaEnvironment.decrypt villaPayment
        [villaSettled.push, villaDenied.push] villaPending = (some .paid, some .confirmed) := by
  have denied := outcomeOf_villa [villaDenied, villaSettled]
  have settled := outcomeOf_villa [villaSettled, villaDenied]
  refine ⟨denied.trans ?_, settled.trans ?_⟩ <;> decide +kernel

end Sambung
