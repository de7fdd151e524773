/-
This file states what the fields of a Midtrans notification decide.

The event id is the transaction's id with its status, and the outcome is the
status with the fraud verdict: a capture under challenge and the accepted capture
that follows it share an id. The signature covers the order, the status code and
the amount: the status, the verdict and the id are not signed. A settlement is
applied exactly where its id is new, and of the unsigned fields exactly the class
of the outcome and the state of the id decide what is confirmed and what is paid.

That a row can be stored at all enters both results: an id that is too long for
the unique index, or a document that `jsonb` refuses, is dropped like one that is
on record. The comparison of two bodies is made by a relation between databases,
the same bookings and the same paid payments, which is what a sender could want to
change; the record of events differs, since the two ids do.
-/

import Sambung.Settlement

namespace Sambung

/-! ### The settlement of a pending payment -/

section Swallowed

variable {gateway : PaymentGateway} {decrypt : Decrypt} {db : Db} {pay : Payment}
  {standing : Standing} {deliveries : List Delivery} {delivery : Delivery}
  {event : ParsedPaymentEvent}

/-- A settlement that finds both statuses pending is applied exactly where it is recordable. -/
theorem Db.Stands.settled_iff [PostgresServer] (stands : db.Stands pay (.pending, .pendingPayment))
    (received : delivery.received gateway decrypt db = .ok (some event))
    (named : parseUuid event.orderId = some pay.id) (settles : event.Settles pay.amountIdr) :
    ((delivery.run gateway decrypt db).paymentStatus pay.id,
          (delivery.run gateway decrypt db).bookingStatus pay.bookingId) =
        (some .paid, some .confirmed) ↔
      event.Recordable gateway.provider db := by
  have found : event.payment db = some { pay with status := .pending } := by
    rw [ParsedPaymentEvent.payment, named, Option.bind_some, stands.row]
  have run : delivery.run gateway decrypt db =
      (recordAndApply gateway.provider event db).database db := by
    rw [Delivery.run_eq, received]
    rfl
  rw [run]
  by_cases recordable : event.Recordable gateway.provider db
  · have recorded :
        (db.recordEvent (event.row gateway.provider pay.bookingId)).Stands pay
          (.pending, .pendingPayment) :=
      ⟨stands.row, stands.booking⟩
    have applied := recorded.applyOutcome event
    rw [settleStep_settles settles] at applied
    rw [recordAndApply_recorded found recordable]
    exact iff_of_true applied.statuses recordable
  · rw [recordAndApply_unrecordable (Or.inr recordable), stands.statuses]
    refine iff_of_false (fun same => ?_) recordable
    cases same

/-- The ids on record after deliveries about the payment are those at the start and those of
the events brought. -/
theorem eventUnrecorded_runDeliveries [PostgresServer] (stands : db.Stands pay standing)
    (concerning : ∀ other ∈ deliveries, ∀ found,
      other.received gateway decrypt db = .ok (some found) →
      parseUuid found.orderId = some pay.id) (id : String) :
    (runDeliveries gateway decrypt deliveries db).EventUnrecorded gateway.provider id ↔
      db.EventUnrecorded gateway.provider id ∧
      ∀ other ∈ deliveries, ∀ found,
        other.received gateway decrypt db = .ok (some found) →
        found.Storable gateway.provider → found.providerEventId ≠ id := by
  have recorded : id ∈ (runDeliveries gateway decrypt deliveries db).recordedIds gateway.provider ↔
      id ∈ db.recordedIds gateway.provider ∨
        ∃ found ∈ deliveries.filterMap (storedEvent gateway decrypt db),
          found.providerEventId = id := by
    rw [(stands.runDeliveries concerning).2]
    exact Dedup.mem_seen_foldl_consume _ _ _ _
  have unrecorded := not_congr recorded
  simp only [Db.recordedIds, Set.mem_ofPred_eq, not_not, not_or, List.mem_filterMap,
    storedEvent_eq_some] at unrecorded
  rw [unrecorded]
  refine and_congr_right fun _ => ⟨fun absent other member found received storable same =>
    absent ⟨found, ⟨other, member, received, storable⟩, same⟩, ?_⟩
  rintro distinct ⟨found, ⟨other, member, received, storable⟩, same⟩
  exact distinct other member found received storable same

theorem runDeliveries_sameCredentials [PostgresServer] (gateway : PaymentGateway)
    (decrypt : Decrypt) (deliveries : List Delivery) (db : Db) :
    SameCredentials db (runDeliveries gateway decrypt deliveries db) := by
  induction deliveries generalizing db with
  | nil => exact .refl db
  | cons delivery deliveries inductionHypothesis =>
    exact (delivery.run_sameCredentials gateway decrypt db).trans (inductionHypothesis _)

/-- After any deliveries about an order, a settlement that finds the payment and the booking pending
is applied exactly where its row fits its columns and its event id is neither on record at the start
nor the id of an event delivered before. The deliveries may be pushes and pulls in any order, each
about this order where it brings an event at all; the payment is a row of the start with its
booking, and the settlement is verified and of the payment's amount. -/
theorem settlement_applied_iff [PostgresServer] {sha512 : String → String}
    (stands : db.Stands pay standing)
    (concerning : ∀ other ∈ deliveries, ∀ found,
      other.received (midtransGateway sha512) decrypt db = .ok (some found) →
        parseUuid found.orderId = some pay.id)
    (waiting : outcomeOf (midtransGateway sha512) decrypt pay deliveries db =
      (some .pending, some .pendingPayment))
    (received : delivery.received (midtransGateway sha512) decrypt db = .ok (some event))
    (named : parseUuid event.orderId = some pay.id) (settles : event.Settles pay.amountIdr) :
    outcomeOf (midtransGateway sha512) decrypt pay (deliveries ++ [delivery]) db =
        (some .paid, some .confirmed) ↔
      event.Recordable "midtrans" db ∧
      ∀ other ∈ deliveries, ∀ found,
        other.received (midtransGateway sha512) decrypt db = .ok (some found) →
        found.Storable "midtrans" → found.providerEventId ≠ event.providerEventId := by
  obtain ⟨row, booking⟩ := (stands.runDeliveries concerning).1
  have pending := (Db.Stands.statuses ⟨row, booking⟩).symm.trans waiting
  rw [Option.some.inj (congrArg Prod.fst pending)] at row
  rw [Option.some.inj (congrArg Prod.snd pending)] at booking
  have same := runDeliveries_sameCredentials (midtransGateway sha512) decrypt deliveries db
  have last : outcomeOf (midtransGateway sha512) decrypt pay (deliveries ++ [delivery]) db =
      ((delivery.run (midtransGateway sha512) decrypt
          (runDeliveries (midtransGateway sha512) decrypt deliveries db)).paymentStatus pay.id,
        (delivery.run (midtransGateway sha512) decrypt
          (runDeliveries (midtransGateway sha512) decrypt deliveries db)).bookingStatus
            pay.bookingId) := by
    unfold outcomeOf runDeliveries
    rw [List.foldl_append]
    rfl
  rw [last, Db.Stands.settled_iff ⟨row, booking⟩ (by rw [same.received]; exact received) named
    settles]
  unfold ParsedPaymentEvent.Recordable
  rw [eventUnrecorded_runDeliveries stands concerning, and_assoc]
  rfl

end Swallowed

/-- A capture of the deposit, held for review. -/
def villaChallenged : VillaNotice where
  statusCode := "201"
  transactionId := "tx-1"
  transactionStatus := "capture"
  fraudStatus := some "challenge"
  coded := villaAwaited.coded

/-- The same capture, accepted. -/
def villaAccepted : VillaNotice where
  statusCode := "200"
  transactionId := "tx-1"
  transactionStatus := "capture"
  fraudStatus := some "accept"
  coded := settled_coded

attribute [local instance] PostgresServer.uncompressed in
/-- An accepted capture that is the first word about the deposit is applied. -/
theorem settlement_applied_iff_villa :
    outcomeOf (midtransGateway villaDigest) villaEnvironment.decrypt villaPayment
      [villaAccepted.push] villaPending = (some .paid, some .confirmed) := by
  have stands : villaPending.Stands villaPayment (.pending, .pendingPayment) := ⟨rfl, rfl⟩
  exact (settlement_applied_iff stands (fun other (member : other ∈ []) => nomatch member) rfl
    villaAccepted.received villaAccepted.named ⟨rfl, rfl⟩).mpr
      ⟨⟨villaAccepted.storable, fun other member => nomatch member⟩,
        fun other member => nomatch member⟩

attribute [local instance] PostgresServer.uncompressed in
/-- A capture under challenge that is accepted later: the acceptance is taken for the challenge
and dropped, and the deposit stays pending. -/
theorem accepted_capture_swallowed :
    villaAccepted.event.outcome = .settlement ∧
    villaAccepted.event.grossAmountIdr = villaPayment.amountIdr ∧
    villaAccepted.push.received (midtransGateway villaDigest) villaEnvironment.decrypt
      villaPending = .ok (some villaAccepted.event) ∧
    outcomeOf (midtransGateway villaDigest) villaEnvironment.decrypt villaPayment
      [villaChallenged.push] villaPending = (some .pending, some .pendingPayment) ∧
    outcomeOf (midtransGateway villaDigest) villaEnvironment.decrypt villaPayment
      [villaChallenged.push, villaAccepted.push] villaPending =
        (some .pending, some .pendingPayment) := by
  have challenged := outcomeOf_villa [villaChallenged]
  have accepted := outcomeOf_villa [villaChallenged, villaAccepted]
  refine ⟨rfl, rfl, villaAccepted.received, challenged.trans ?_, accepted.trans ?_⟩ <;>
    decide +kernel

/-! ### The signed fields -/

/-- The two notifications agree on the fields the signature covers. -/
structure MidtransNotification.SignedAlike (first second : MidtransNotification) : Prop where
  orderId : first.orderId = second.orderId
  statusCode : first.statusCode = second.statusCode
  grossAmount : first.grossAmount = second.grossAmount

section Signed

variable {sha512 : String → String} {decrypt : Decrypt} {db : Db}
  {firstBody secondBody : Json} {first second : MidtransNotification}
  {firstEvent secondEvent : ParsedPaymentEvent} {credential : GatewayCredential}

/-- Two accepted bodies with the same signed fields carry the same signature, and their events
have the same order and the same amount. -/
theorem accepted_alike (parsedFirst : parseNotification firstBody = some first)
    (parsedSecond : parseNotification secondBody = some second)
    (signed : first.SignedAlike second)
    (acceptedFirst : verifyAndParse sha512 firstBody credential = .ok firstEvent)
    (acceptedSecond : verifyAndParse sha512 secondBody credential = .ok secondEvent) :
    first.signatureKey = second.signatureKey ∧ firstEvent.orderId = secondEvent.orderId ∧
      firstEvent.grossAmountIdr = secondEvent.grossAmountIdr := by
  obtain ⟨n, amount, parsed, compared, gross, rfl⟩ := verifyAndParse_eq_ok.mp acceptedFirst
  obtain ⟨m, otherAmount, otherParsed, otherCompared, otherGross, rfl⟩ :=
    verifyAndParse_eq_ok.mp acceptedSecond
  cases Option.some.inj (parsed.symm.trans parsedFirst)
  cases Option.some.inj (otherParsed.symm.trans parsedSecond)
  have sameText : first.signedText credential.serverKey =
      second.signedText credential.serverKey := by
    unfold MidtransNotification.signedText
    rw [signed.orderId, signed.statusCode, signed.grossAmount]
  refine ⟨?_, signed.orderId, ?_⟩
  · rw [← timingSafeEqualHex_true compared, ← timingSafeEqualHex_true otherCompared, sameText]
  · rw [signed.grossAmount, otherGross] at gross
    exact (Except.ok.inj gross).symm

/-- Under any other key the two bodies are turned away alike, or read as the same two events. -/
theorem verifyAndParse_alike (parsedFirst : parseNotification firstBody = some first)
    (parsedSecond : parseNotification secondBody = some second)
    (signed : first.SignedAlike second)
    (acceptedFirst : verifyAndParse sha512 firstBody credential = .ok firstEvent)
    (acceptedSecond : verifyAndParse sha512 secondBody credential = .ok secondEvent)
    (other : GatewayCredential) :
    (verifyAndParse sha512 firstBody other = .ok firstEvent ∧
      verifyAndParse sha512 secondBody other = .ok secondEvent) ∨
    ∃ thrown, verifyAndParse sha512 firstBody other = .error thrown ∧
      verifyAndParse sha512 secondBody other = .error thrown := by
  have sameSignature :=
    (accepted_alike parsedFirst parsedSecond signed acceptedFirst acceptedSecond).1
  obtain ⟨n, amount, parsed, compared, gross, rfl⟩ := verifyAndParse_eq_ok.mp acceptedFirst
  obtain ⟨m, otherAmount, otherParsed, otherCompared, otherGross, rfl⟩ :=
    verifyAndParse_eq_ok.mp acceptedSecond
  cases Option.some.inj (parsed.symm.trans parsedFirst)
  cases Option.some.inj (otherParsed.symm.trans parsedSecond)
  have sameText : second.signedText other.serverKey = first.signedText other.serverKey := by
    unfold MidtransNotification.signedText
    rw [signed.orderId, signed.statusCode, signed.grossAmount]
  cases verdict : timingSafeEqualHex (sha512 (first.signedText other.serverKey))
      first.signatureKey with
  | error thrown =>
    refine Or.inr ⟨thrown, ?_, ?_⟩
    · simp only [verifyAndParse, parsedFirst, verdict, bind, Except.bind]
    · simp only [verifyAndParse, parsedSecond, sameText, ← sameSignature, verdict, bind,
        Except.bind]
  | ok same =>
    cases same with
    | true =>
      refine Or.inl ⟨verifyAndParse_eq_ok.mpr ⟨first, amount, parsedFirst, verdict, gross, rfl⟩,
        verifyAndParse_eq_ok.mpr ⟨second, otherAmount, parsedSecond, ?_, otherGross, rfl⟩⟩
      rw [sameText, ← sameSignature, verdict]
    | false =>
      refine Or.inr ⟨.unauthorized "Invalid webhook signature", ?_, ?_⟩
      · simp only [verifyAndParse, parsedFirst, verdict, bind, Except.bind]
        rfl
      · simp only [verifyAndParse, parsedSecond, sameText, ← sameSignature, verdict, bind,
          Except.bind]
        rfl

/-- Whatever credential the order resolves to, both bodies are received as their events, or
both leave the database alone. -/
theorem receive_alike [PostgresServer] (parsedFirst : parseNotification firstBody = some first)
    (parsedSecond : parseNotification secondBody = some second)
    (signed : first.SignedAlike second)
    (acceptedFirst : verifyAndParse sha512 firstBody credential = .ok firstEvent)
    (acceptedSecond : verifyAndParse sha512 secondBody credential = .ok secondEvent)
    (providerParam : String) :
    (receive (midtransGateway sha512) decrypt providerParam firstBody db = .ok (some firstEvent) ∧
      receive (midtransGateway sha512) decrypt providerParam secondBody db =
        .ok (some secondEvent)) ∨
    ((handle (midtransGateway sha512) decrypt providerParam firstBody db).database db = db ∧
      (handle (midtransGateway sha512) decrypt providerParam secondBody db).database db = db) := by
  unfold handle receive
  by_cases known : providerParam ≠ (midtransGateway sha512).provider
  · rw [if_pos known, if_pos known]
    exact Or.inr ⟨rfl, rfl⟩
  · have peekedFirst : (midtransGateway sha512).peekOrderId firstBody = some first.orderId :=
      peekOrderId_parsed parsedFirst
    have peekedSecond : (midtransGateway sha512).peekOrderId secondBody = some first.orderId :=
      signed.orderId ▸ peekOrderId_parsed parsedSecond
    rw [if_neg known, if_neg known, peekedFirst, peekedSecond]
    dsimp only
    match credentialForOrder (midtransGateway sha512) decrypt first.orderId db with
    | .error thrown => exact Or.inr ⟨rfl, rfl⟩
    | .ok none => exact Or.inr ⟨rfl, rfl⟩
    | .ok (some other) =>
      rcases verifyAndParse_alike parsedFirst parsedSecond signed acceptedFirst acceptedSecond
          other with ⟨firstOk, secondOk⟩ | ⟨thrown, firstError, secondError⟩
      · refine Or.inl ⟨?_, ?_⟩
        · show some <$> verifyAndParse sha512 firstBody other = _
          rw [firstOk]
          rfl
        · show some <$> verifyAndParse sha512 secondBody other = _
          rw [secondOk]
          rfl
      · refine Or.inr ⟨?_, ?_⟩
        · show (settleEvent _ (some <$> verifyAndParse sha512 firstBody other) db).database db = db
          rw [firstError]
          rfl
        · show (settleEvent _ (some <$> verifyAndParse sha512 secondBody other) db).database db = db
          rw [secondError]
          rfl

/-- The two databases hold the same bookings and the same paid payments. -/
structure SettledAlike (first second : Db) : Prop where
  booking : first.booking = second.booking
  paid : ∀ id, first.paymentStatus id = some .paid ↔ second.paymentStatus id = some .paid

theorem SettledAlike.refl (db : Db) : SettledAlike db db := ⟨rfl, fun _ => Iff.rfl⟩

theorem SettledAlike.symm {first second : Db} (alike : SettledAlike first second) :
    SettledAlike second first :=
  ⟨alike.booking.symm, fun id => (alike.paid id).symm⟩

theorem SettledAlike.trans {first second third : Db} (left : SettledAlike first second)
    (right : SettledAlike second third) : SettledAlike first third :=
  ⟨left.booking.trans right.booking, fun id => (left.paid id).trans (right.paid id)⟩

/-- Failing a pending payment pays none and leaves the bookings as they are. -/
theorem settledAlike_failed (db : Db) (id : Uuid) :
    SettledAlike (db.settlePayment id .failed) db where
  booking := rfl
  paid wanted := by
    unfold Db.paymentStatus
    rw [Db.paymentById_settlePayment, Option.map_map]
    cases db.paymentById wanted with
    | none => rfl
    | some row =>
      simp only [Option.map_some, Function.comp_apply]
      split
      · rename_i pending
        simp [pending.2]
      · rfl

/-- An event that is not a settlement confirms nothing and pays nothing. -/
theorem applyOutcome_unsettled {event : ParsedPaymentEvent}
    (unsettled : event.outcome ≠ .settlement) (pay : Payment) (db : Db) :
    SettledAlike (applyOutcome event pay db).2 db := by
  rw [applyOutcome_database]
  split
  · cases outcome : event.outcome with
    | settlement => exact absurd outcome unsettled
    | failure => exact settledAlike_failed db pay.id
    | pending => exact .refl db
    | ignore => exact .refl db
  · exact .refl db

/-- Two events of one order and one amount, both settlements or neither and both recordable or
neither, settle alike. -/
theorem recordAndApply_alike [PostgresServer] {provider : String}
    (sameOrder : firstEvent.orderId = secondEvent.orderId)
    (sameAmount : firstEvent.grossAmountIdr = secondEvent.grossAmountIdr)
    (outcomes : firstEvent.outcome = .settlement ↔ secondEvent.outcome = .settlement)
    (recordable : firstEvent.Recordable provider db ↔ secondEvent.Recordable provider db) :
    SettledAlike ((recordAndApply provider firstEvent db).database db)
      ((recordAndApply provider secondEvent db).database db) := by
  have samePayment : secondEvent.payment db = firstEvent.payment db := by
    unfold ParsedPaymentEvent.payment
    rw [sameOrder]
  rw [recordAndApply_database, recordAndApply_database, samePayment]
  cases firstEvent.payment db with
  | none => exact .refl db
  | some pay =>
    by_cases recorded : firstEvent.Recordable provider db
    · simp only [recorded, recordable.mp recorded, if_true]
      by_cases settlement : firstEvent.outcome = .settlement
      · rw [applyOutcome_database, applyOutcome_database, settlement, outcomes.mp settlement,
          sameAmount]
        split
        · exact ⟨rfl, fun _ => Iff.rfl⟩
        · exact ⟨rfl, fun _ => Iff.rfl⟩
      · have left := applyOutcome_unsettled settlement pay
          (db.recordEvent (firstEvent.row provider pay.bookingId))
        have right := applyOutcome_unsettled (fun same => settlement (outcomes.mpr same)) pay
          (db.recordEvent (secondEvent.row provider pay.bookingId))
        have between : SettledAlike (db.recordEvent (firstEvent.row provider pay.bookingId))
            (db.recordEvent (secondEvent.row provider pay.bookingId)) :=
          ⟨rfl, fun _ => Iff.rfl⟩
        exact (left.trans between).trans right.symm
    · have unrecorded : ¬ secondEvent.Recordable provider db :=
        fun both => recorded (recordable.mpr both)
      simp only [recorded, unrecorded, if_false]
      exact .refl db

/-- Two accepted bodies that agree on the signed fields, whose outcomes are both settlements or
neither and whose events are both recordable or neither, confirm and pay alike. The two last
conditions are what the signature leaves open: the status and the fraud verdict decide the outcome,
and the transaction's id with the status decides whether the event is recorded. The digest, the key
and the state before are any, and so is the provider the path names. -/
theorem signed_alike_settles_alike [PostgresServer]
    (parsedFirst : parseNotification firstBody = some first)
    (parsedSecond : parseNotification secondBody = some second) (signed : first.SignedAlike second)
    (acceptedFirst : verifyAndParse sha512 firstBody credential = .ok firstEvent)
    (acceptedSecond : verifyAndParse sha512 secondBody credential = .ok secondEvent)
    (outcomes : firstEvent.outcome = .settlement ↔ secondEvent.outcome = .settlement)
    (recordable : firstEvent.Recordable "midtrans" db ↔ secondEvent.Recordable "midtrans" db)
    (providerParam : String) :
    SettledAlike
      ((handle (midtransGateway sha512) decrypt providerParam firstBody db).database db)
      ((handle (midtransGateway sha512) decrypt providerParam secondBody db).database db) := by
  obtain ⟨-, sameOrder, sameAmount⟩ :=
    accepted_alike parsedFirst parsedSecond signed acceptedFirst acceptedSecond
  rcases receive_alike parsedFirst parsedSecond signed acceptedFirst acceptedSecond
      providerParam with ⟨receivedFirst, receivedSecond⟩ | ⟨keptFirst, keptSecond⟩
  · unfold handle
    rw [receivedFirst, receivedSecond]
    exact recordAndApply_alike sameOrder sameAmount outcomes recordable
  · rw [keptFirst, keptSecond]
    exact .refl db

end Signed

attribute [local instance] PostgresServer.uncompressed in
/-- A settlement and an accepted capture of the deposit, under one signature: each is recordable,
each pays the deposit and confirms the booking. -/
theorem signed_alike_settles_alike_villa :
    SettledAlike
        ((handle (midtransGateway villaDigest) villaEnvironment.decrypt "midtrans"
          villaSettled.body villaPending).database villaPending)
        ((handle (midtransGateway villaDigest) villaEnvironment.decrypt "midtrans"
          villaAccepted.body villaPending).database villaPending) ∧
      outcomeOf (midtransGateway villaDigest) villaEnvironment.decrypt villaPayment
        [villaSettled.push] villaPending = (some .paid, some .confirmed) ∧
      outcomeOf (midtransGateway villaDigest) villaEnvironment.decrypt villaPayment
        [villaAccepted.push] villaPending = (some .paid, some .confirmed) := by
  have outcomes : villaSettled.event.outcome = .settlement ↔
      villaAccepted.event.outcome = .settlement := by
    decide
  have recordable : villaSettled.event.Recordable "midtrans" villaPending ↔
      villaAccepted.event.Recordable "midtrans" villaPending :=
    iff_of_true ⟨villaSettled.storable, fun other member => nomatch member⟩
      ⟨villaAccepted.storable, fun other member => nomatch member⟩
  have settled := outcomeOf_villa [villaSettled]
  have accepted := outcomeOf_villa [villaAccepted]
  refine ⟨signed_alike_settles_alike villaSettled.parsed villaAccepted.parsed ⟨rfl, rfl, rfl⟩
    villaSettled.verified villaAccepted.verified outcomes recordable "midtrans",
    settled.trans ?_, accepted.trans ?_⟩
  · decide +kernel
  · decide +kernel

/-- Both bodies are accepted under the credential, and agree on the signed fields. -/
def AcceptedAlike (sha512 : String → String) (credential : GatewayCredential)
    (firstBody secondBody : Json) : Prop :=
  ∃ first second firstEvent secondEvent,
    parseNotification firstBody = some first ∧ parseNotification secondBody = some second ∧
      first.SignedAlike second ∧
      verifyAndParse sha512 firstBody credential = .ok firstEvent ∧
      verifyAndParse sha512 secondBody credential = .ok secondEvent

theorem VillaNotice.acceptedAlike {first second : VillaNotice}
    (sameCode : first.statusCode = second.statusCode) :
    AcceptedAlike villaDigest ⟨"SB-Mid-server-villa", .sandbox⟩ first.body second.body :=
  ⟨_, _, _, _, first.parsed, second.parsed, ⟨rfl, sameCode, rfl⟩, first.verified,
    second.verified⟩

/-- The denial with its status rewritten. -/
def villaRestated : VillaNotice where
  statusCode := "202"
  transactionId := "tx-1"
  transactionStatus := "settlement"
  fraudStatus := none
  coded := denied_coded
  texts := villaSettled.texts
  short := villaSettled.short

/-- The accepted capture with its transaction rewritten. -/
def villaRenamed : VillaNotice where
  statusCode := "200"
  transactionId := "tx-2"
  transactionStatus := "capture"
  fraudStatus := some "accept"
  coded := settled_coded

attribute [local instance] PostgresServer.uncompressed in
/-- One signature under two statuses, and under two ids. A denial with its status rewritten
settles the deposit. After a challenge, the accepted capture is dropped for its id, and settles
the deposit under another transaction id. -/
theorem unsigned_fields_decide :
    (AcceptedAlike villaDigest ⟨"SB-Mid-server-villa", .sandbox⟩ villaDenied.body
        villaRestated.body ∧
      outcomeOf (midtransGateway villaDigest) villaEnvironment.decrypt villaPayment
        [villaDenied.push] villaPending = (some .failed, some .pendingPayment) ∧
      outcomeOf (midtransGateway villaDigest) villaEnvironment.decrypt villaPayment
        [villaRestated.push] villaPending = (some .paid, some .confirmed)) ∧
    (AcceptedAlike villaDigest ⟨"SB-Mid-server-villa", .sandbox⟩ villaAccepted.body
        villaRenamed.body ∧
      outcomeOf (midtransGateway villaDigest) villaEnvironment.decrypt villaPayment
        [villaChallenged.push, villaAccepted.push] villaPending =
          (some .pending, some .pendingPayment) ∧
      outcomeOf (midtransGateway villaDigest) villaEnvironment.decrypt villaPayment
        [villaChallenged.push, villaRenamed.push] villaPending =
          (some .paid, some .confirmed)) := by
  have denied := outcomeOf_villa [villaDenied]
  have restated := outcomeOf_villa [villaRestated]
  have accepted := outcomeOf_villa [villaChallenged, villaAccepted]
  have renamed := outcomeOf_villa [villaChallenged, villaRenamed]
  refine ⟨⟨VillaNotice.acceptedAlike rfl, denied.trans ?_, restated.trans ?_⟩,
    VillaNotice.acceptedAlike rfl, accepted.trans ?_, renamed.trans ?_⟩ <;> decide +kernel

end Sambung
