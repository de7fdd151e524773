/-
This file proves that a notification settles nothing but its own tenant's payment.

The order id is read twice, once before the signature is checked, to find the key,
and once from the verified event, to find the payment. Both reads are of one
field, so the row that changes is the one whose tenant's key was tried. That no
other tenant's key validates the body, and that its sender holds the key, are as
good as the digest is.

What the digest has to be good for is therefore named in the statement,
`DigestsApart` for two keys on one text and `Unforgeable` for a sender, and is
concluded of each row that changes rather than assumed of the run. The database
before the notification is any, with its keys stored as they may be: an order of
no payment, a tenant without a key and a row that does not decrypt are answered
without a change.
-/

import Sambung.Deliveries

namespace Sambung

section Authenticity

variable {sha512 : String → String} {decrypt : Decrypt} {providerParam : String} {body : Json}
  {db : Db}

/-! ### Signatures -/

/-- The body carries a signature that the tenant's stored key validates. -/
def Validates (sha512 : String → String) (decrypt : Decrypt) (body : Json) (db : Db)
    (tenantId : Uuid) : Prop :=
  ∃ n credential, parseNotification body = some n ∧
    maybeResolve decrypt tenantId db = .ok (some credential) ∧
    sha512 (n.signedText credential.serverKey) = n.signatureKey

/-- No two tenants store one key. -/
def DistinctKeys (decrypt : Decrypt) (db : Db) : Prop :=
  ∀ first second a b, maybeResolve decrypt first db = .ok (some a) →
    maybeResolve decrypt second db = .ok (some b) → a.serverKey = b.serverKey → first = second

/-- Two stored keys that differ give two digests on the body's text. -/
def DigestsApart (sha512 : String → String) (decrypt : Decrypt) (body : Json) (db : Db) : Prop :=
  ∀ first second a b n, maybeResolve decrypt first db = .ok (some a) →
    maybeResolve decrypt second db = .ok (some b) → parseNotification body = some n →
    sha512 (n.signedText a.serverKey) = sha512 (n.signedText b.serverKey) →
    a.serverKey = b.serverKey

/-- A sender who holds these keys cannot sign the body under any other. -/
def Unforgeable (sha512 : String → String) (body : Json) (held : String → Prop) : Prop :=
  ∀ n key, parseNotification body = some n → sha512 (n.signedText key) = n.signatureKey → held key

/-- The tenant's key validated the body; under the assumptions on the keys and the digest no other
tenant's does, and the sender holds it. -/
structure Authorised (sha512 : String → String) (decrypt : Decrypt) (body : Json) (db : Db)
    (tenantId : Uuid) : Prop where
  validates : Validates sha512 decrypt body db tenantId
  sole : DistinctKeys decrypt db → DigestsApart sha512 decrypt body db →
    ∀ other, Validates sha512 decrypt body db other → other = tenantId
  holds : ∀ held, Unforgeable sha512 body held →
    ∃ credential, maybeResolve decrypt tenantId db = .ok (some credential) ∧
      held credential.serverKey

theorem Validates.authorised {tenantId : Uuid}
    (validates : Validates sha512 decrypt body db tenantId) :
    Authorised sha512 decrypt body db tenantId where
  validates := validates
  sole distinct apart other otherValidates := by
    obtain ⟨n, credential, parsed, resolved, signed⟩ := validates
    obtain ⟨n', otherCredential, otherParsed, otherResolved, otherSigned⟩ := otherValidates
    cases parsed.symm.trans otherParsed
    have sameKey := apart other tenantId otherCredential credential n otherResolved resolved parsed
      (otherSigned.trans signed.symm)
    exact distinct other tenantId otherCredential credential otherResolved resolved sameKey
  holds held unforgeable := by
    obtain ⟨n, credential, parsed, resolved, signed⟩ := validates
    exact ⟨credential, resolved, unforgeable n credential.serverKey parsed signed⟩

/-! ### One order id -/

/-- A resolved credential is that of the tenant behind the order id. -/
theorem credentialForOrder_some {orderId : String} {credential : GatewayCredential}
    (resolved : credentialForOrder (midtransGateway sha512) decrypt orderId db =
      .ok (some credential)) :
    ∃ id tenantId, parseUuid orderId = some id ∧ orderTenant id db = some tenantId ∧
      maybeResolve decrypt tenantId db = .ok (some credential) := by
  unfold credentialForOrder at resolved
  rw [if_neg (show ¬ ¬ (midtransGateway sha512).requiresCredentials = true from not_not.mpr rfl)]
    at resolved
  cases named : parseUuid orderId with
  | none =>
    rw [named] at resolved
    cases resolved
  | some id =>
    rw [named] at resolved
    dsimp only at resolved
    cases behind : orderTenant id db with
    | none =>
      rw [behind] at resolved
      cases resolved
    | some tenantId =>
      rw [behind] at resolved
      exact ⟨id, tenantId, rfl, behind, resolved⟩

/-- A body is received as an event only over a credential of its order. -/
theorem receive_some {event : ParsedPaymentEvent}
    (received : receive (midtransGateway sha512) decrypt providerParam body db = .ok (some event)) :
    ∃ orderId credential, peekOrderId body = some orderId ∧
      credentialForOrder (midtransGateway sha512) decrypt orderId db = .ok (some credential) ∧
      verifyAndParse sha512 body credential = .ok event := by
  unfold receive at received
  split at received
  · cases received
  · cases peeked : (midtransGateway sha512).peekOrderId body with
    | none =>
      rw [peeked] at received
      cases received
    | some orderId =>
      rw [peeked] at received
      dsimp only at received
      cases resolved : credentialForOrder (midtransGateway sha512) decrypt orderId db with
      | error thrown =>
        rw [resolved] at received
        cases received
      | ok found =>
        rw [resolved] at received
        cases found with
        | none => cases received
        | some credential =>
          refine ⟨orderId, credential, peeked, resolved, ?_⟩
          cases verified : (midtransGateway sha512).verifyAndParse body credential with
          | error thrown =>
            simp [verified, bind, Except.bind, Functor.map, Except.map] at received
          | ok accepted =>
            simp only [verified, bind, Except.bind, Functor.map, Except.map, Except.ok.injEq,
              Option.some.injEq] at received
            rw [← received]
            exact verified

/-- A received event was signed under the key of the tenant behind the order id peeked at, which is
the event's own. -/
theorem receive_authentic {event : ParsedPaymentEvent}
    (received : receive (midtransGateway sha512) decrypt providerParam body db = .ok (some event)) :
    peekOrderId body = some event.orderId ∧
      ∃ id tenantId, parseUuid event.orderId = some id ∧ orderTenant id db = some tenantId ∧
        Validates sha512 decrypt body db tenantId := by
  obtain ⟨orderId, credential, peeked, resolved, verified⟩ := receive_some received
  obtain ⟨n, amount, parsed, compared, -, rfl⟩ := verifyAndParse_eq_ok.mp verified
  have sameOrder : n.orderId = orderId :=
    Option.some.inj ((peekOrderId_parsed parsed).symm.trans peeked)
  obtain ⟨id, tenantId, named, behind, stored⟩ := credentialForOrder_some resolved
  refine ⟨peekOrderId_parsed parsed, id, tenantId, ?_, behind, n, credential, parsed, stored,
    timingSafeEqualHex_true compared⟩
  show parseUuid n.orderId = some id
  rw [sameOrder]
  exact named

/-! ### The rows that change -/

/-- A body that is received as no event changes nothing. -/
theorem handle_unreceived [PostgresServer]
    (unreceived : ∀ event,
      receive (midtransGateway sha512) decrypt providerParam body db ≠ .ok (some event)) :
    (handle (midtransGateway sha512) decrypt providerParam body db).database db = db := by
  unfold handle settleEvent
  match received : receive (midtransGateway sha512) decrypt providerParam body db with
  | .error thrown => rfl
  | .ok none => rfl
  | .ok (some event) => exact absurd received (unreceived event)

/-- The tenant behind the order id of a body. -/
def bodyTenant (body : Json) (db : Db) : Option Uuid := do
  let orderId ← peekOrderId body
  let id ← parseUuid orderId
  orderTenant id db

/-- Every row a notification changes is a row of the tenant behind its order id, whose stored key
validated it; the order id that selected the key selects the payment; and a body no key of its
order's tenant validates changes nothing. The body, the digest, the decryption and the database are
any: an order id of no payment, a tenant without a key and a key that does not decrypt are among the
cases. -/
theorem notification_settles_own_tenant [PostgresServer] (sha512 : String → String)
    (decrypt : Decrypt) (providerParam : String) (body : Json) (db : Db) :
    let after := (handle (midtransGateway sha512) decrypt providerParam body db).database db
    (∀ id, after.paymentById id ≠ db.paymentById id →
      ∃ tenantId, orderTenant id db = some tenantId ∧
        Authorised sha512 decrypt body db tenantId) ∧
    (∀ id, after.bookingById id ≠ db.bookingById id →
      ∃ row, db.bookingById id = some row ∧ Authorised sha512 decrypt body db row.tenantId) ∧
    (∀ event, receive (midtransGateway sha512) decrypt providerParam body db = .ok (some event) →
      peekOrderId body = some event.orderId) ∧
    ((∀ tenantId, bodyTenant body db = some tenantId →
      ¬ Validates sha512 decrypt body db tenantId) → after = db) := by
  dsimp only
  by_cases received : ∃ event,
      receive (midtransGateway sha512) decrypt providerParam body db = .ok (some event)
  · obtain ⟨event, accepted⟩ := received
    obtain ⟨peeked, orderId, tenantId, names, behind, validates⟩ := receive_authentic accepted
    have handled : (handle (midtransGateway sha512) decrypt providerParam body db).database db =
        (recordAndApply (midtransGateway sha512).provider event db).database db := by
      unfold handle settleEvent
      rw [accepted]
    have payment : event.payment db = db.paymentById orderId := by
      rw [ParsedPaymentEvent.payment, names, Option.bind_some]
    rw [handled]
    refine ⟨fun id changed => ?_, fun id changed => ?_, fun other otherAccepted => ?_,
      fun unvalidated => ?_⟩
    · by_cases same : orderId = id
      · exact ⟨tenantId, same ▸ behind, validates.authorised⟩
      · exact absurd (recordAndApply_otherPayment _ names same) changed
    · rw [orderTenant] at behind
      simp only [Option.bind_eq_bind, Option.bind_eq_some_iff] at behind
      obtain ⟨pay, found, row, foundRow, sameTenant⟩ := behind
      by_cases same : pay.bookingId = id
      · refine ⟨row, same ▸ foundRow, ?_⟩
        rw [Option.some.inj sameTenant]
        exact validates.authorised
      · refine absurd (recordAndApply_otherBooking _ fun other foundOther => ?_) changed
        rw [payment, found] at foundOther
        rw [← Option.some.inj foundOther]
        exact same
    · exact (receive_authentic otherAccepted).1
    · refine absurd validates (unvalidated tenantId ?_)
      simp [bodyTenant, peeked, names, behind]
  · rw [handle_unreceived fun event accepted => received ⟨event, accepted⟩]
    exact ⟨fun id changed => absurd rfl changed, fun id changed => absurd rfl changed,
      fun event accepted => absurd ⟨event, accepted⟩ received, fun _ => rfl⟩

end Authenticity

end Sambung
