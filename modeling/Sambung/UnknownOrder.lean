/-
This file proves which notifications about unknown orders are acknowledged.

An order id that names no payment cannot be verified, and the webhook answers as
if all were well, so that the provider stops retrying. The id goes unvalidated
into a comparison with a `uuid` column, and a text that is no uuid makes that
query fail instead.

The answer is fixed before the signature is looked at: without a payment there is
no tenant, without a tenant no key, and without a key nothing to verify. So the
theorem holds of every body with such an order id, well formed or not, signed or
not, and neither the digest nor the decryption enters it. What text Postgres reads
as a uuid is its own question, braces and missing hyphens included.
-/

import Sambung.Settlement

namespace Sambung

/-! ### An order of no payment -/

/-- The order id is that of no payment of any tenant. -/
def Db.OrderUnknown (db : Db) (orderId : String) : Prop :=
  ∀ pay ∈ db.payment, parseUuid orderId ≠ some pay.id

theorem Db.OrderUnknown.orderTenant {db : Db} {orderId : String} (unknown : db.OrderUnknown orderId)
    {id : Uuid} (parsed : parseUuid orderId = some id) : Sambung.orderTenant id db = none := by
  have absent : db.paymentById id = none :=
    Table.byKey_eq_none.mpr fun pay member same => unknown pay member (same ▸ parsed)
  rw [Sambung.orderTenant, absent]
  rfl

section Order

variable (sha512 : String → String) (decrypt : Decrypt) {orderId : String} {db : Db}

/-- No credential is found for an unknown order, if the database can compare its id. -/
theorem credentialForOrder_unknown (unknown : db.OrderUnknown orderId) :
    credentialForOrder (midtransGateway sha512) decrypt orderId db =
      if (parseUuid orderId).isSome then .ok none else .error (.pg .invalidUuid) := by
  have required : (midtransGateway sha512).requiresCredentials := rfl
  unfold credentialForOrder
  rw [if_neg (not_not.mpr required)]
  cases parsed : parseUuid orderId with
  | none => rfl
  | some id =>
    dsimp only
    rw [unknown.orderTenant parsed]
    rfl

/-- The answer to a notification about an unknown order, whatever else the body holds. -/
theorem handle_unknown [PostgresServer] {body : Json} (peeked : peekOrderId body = some orderId)
    (unknown : db.OrderUnknown orderId) :
    handle (midtransGateway sha512) decrypt "midtrans" body db =
      if (parseUuid orderId).isSome then .ok (none, db) else .error (.pg .invalidUuid) := by
  have received : receive (midtransGateway sha512) decrypt "midtrans" body db =
      if (parseUuid orderId).isSome then .ok none else .error (.pg .invalidUuid) := by
    have gatewayPeeked : (midtransGateway sha512).peekOrderId body = some orderId := peeked
    unfold receive
    rw [if_neg fun other => other rfl, gatewayPeeked]
    dsimp only
    rw [credentialForOrder_unknown sha512 decrypt unknown]
    by_cases readable : (parseUuid orderId).isSome
    · rw [if_pos readable, if_pos readable]
      rfl
    · rw [if_neg readable, if_neg readable]
      rfl
  unfold handle
  rw [received]
  by_cases readable : (parseUuid orderId).isSome
  · rw [if_pos readable, if_pos readable]
    rfl
  · rw [if_neg readable, if_neg readable]
    rfl

end Order

/-- A notification about an unknown order is acknowledged, and changes no row, exactly if Postgres
reads its order id as a uuid. The body has an order id that is filled and names no payment, and is
of any other form: the signature is never looked at, since no tenant and so no key is found. Where
the id is no uuid the query throws, and the provider is told to try again. -/
theorem unknown_order_acknowledged_iff [PostgresServer] (sha512 : String → String)
    (decrypt : Decrypt) {db : Db} {body : Json} {orderId : String}
    (field : body.field "order_id" = some (.string orderId)) (named : orderId ≠ "")
    (unknown : db.OrderUnknown orderId) :
    handle (midtransGateway sha512) decrypt "midtrans" body db = .ok (none, db) ↔
      (parseUuid orderId).isSome := by
  have peeked : peekOrderId body = some orderId := by
    rw [peekOrderId, nonEmptyString, field]
    exact Option.filter_some_pos (decide_eq_true named)
  rw [handle_unknown sha512 decrypt peeked unknown]
  by_cases readable : (parseUuid orderId).isSome
  · rw [if_pos readable]
    exact iff_of_true rfl readable
  · rw [if_neg readable]
    refine iff_of_false (fun same => ?_) readable
    cases same

attribute [local instance] PostgresServer.uncompressed in
/-- The villa's webhook acknowledges a well-formed order id no payment has. -/
theorem villa_unknown_order_acknowledged :
    handle (midtransGateway villaDigest) villaEnvironment.decrypt "midtrans"
      (.object [("order_id", .string "00000000-0000-0000-0000-000000000002")]) villaPending =
        .ok (none, villaPending) := by
  have unknown : villaPending.OrderUnknown "00000000-0000-0000-0000-000000000002" := by
    intro pay member
    rw [List.mem_singleton.mp member]
    decide +kernel
  exact (unknown_order_acknowledged_iff villaDigest villaEnvironment.decrypt rfl (by decide)
    unknown).mpr (by decide +kernel)

attribute [local instance] PostgresServer.uncompressed in
/-- An order id that is no uuid makes the webhook throw. -/
theorem malformed_order_throws :
    villaPending.OrderUnknown "ORDER-1" ∧
    handle (midtransGateway villaDigest) villaEnvironment.decrypt "midtrans"
      (.object [("order_id", .string "ORDER-1")]) villaPending = .error (.pg .invalidUuid) := by
  have unreadable : parseUuid "ORDER-1" = none := by decide +kernel
  have unknown : villaPending.OrderUnknown "ORDER-1" := by
    intro pay _
    rw [unreadable]
    exact fun same => nomatch same
  refine ⟨unknown, ?_⟩
  rw [handle_unknown villaDigest villaEnvironment.decrypt rfl unknown, unreadable]
  rfl

end Sambung
