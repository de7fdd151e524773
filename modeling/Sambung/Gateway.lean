/-
This file states the payment Provider's boundary, `payment-gateway.ts`, and the
one adapter behind it, `midtrans.gateway.ts`: the shape of a notification, the
signature over its fields, the mapping of Midtrans's statuses to the four
outcomes, and the status fetch.

What a server answers is an input. The hash is a parameter, since the services
only ever compare its text.

The port is a structure of functions, so that the services are stated for any
gateway and the results that need it are stated for this one. A field of a
notification is a string of JavaScript: it is signed as its UTF-8 form, and
compared as that. The event's id is the transaction's with its status, the outcome
is the status with the fraud verdict, and an amount is what stands before the
first point.
-/

import Sambung.Conflicts

namespace Sambung

/-! ### The port -/

structure GatewayCredential where
  serverKey : String
  environment : PaymentEnvironment
  deriving DecidableEq, Repr

structure PaymentSession where
  token : JsString
  redirectUrl : JsString
  deriving DecidableEq, Repr

inductive PaymentOutcome where
  | settlement | failure | pending | ignore
  deriving DecidableEq, Repr

structure ParsedPaymentEvent where
  providerEventId : String
  orderId : String
  outcome : PaymentOutcome
  grossAmountIdr : BigInt
  raw : Json
  deriving Repr

/-- How a `fetch` ends: no answer, or a status with the JSON its body holds, if any. -/
inductive HttpResponse where
  | unreachable
  | answered (status : Nat) (body : Option Json)
  deriving Repr

structure PaymentGateway where
  provider : String
  requiresCredentials : Bool
  createSession : HttpResponse → Except Thrown PaymentSession
  peekOrderId : Json → Option String
  verifyAndParse : Json → GatewayCredential → Except Thrown ParsedPaymentEvent
  fetchStatus : GatewayCredential → HttpResponse → Except Thrown (Option ParsedPaymentEvent)

/-! ### Midtrans -/

/-- The fields of a notification the adapter verifies or acts on. -/
structure MidtransNotification where
  orderId : String
  statusCode : String
  grossAmount : String
  signatureKey : String
  transactionStatus : String
  transactionId : String
  fraudStatus : Option String
  deriving DecidableEq, Repr

/-- `z.string().min(1)`. -/
def nonEmptyString (name : String) (body : Json) : Option String :=
  (((body.field name).bind Json.asString).map JsString.text).filter (· ≠ "")

/-- `z.string().optional()`: absent is fine, any other type is not. -/
def optionalString (name : String) (body : Json) : Option (Option String) :=
  match body.field name with
  | none => some none
  | some value => value.asString.map fun string => some string.text

/-- `midtransNotificationSchema.safeParse`. -/
def parseNotification (body : Json) : Option MidtransNotification := do
  let orderId ← nonEmptyString "order_id" body
  let statusCode ← nonEmptyString "status_code" body
  let grossAmount ← nonEmptyString "gross_amount" body
  let signatureKey ← nonEmptyString "signature_key" body
  let transactionStatus ← nonEmptyString "transaction_status" body
  let transactionId ← nonEmptyString "transaction_id" body
  let fraudStatus ← optionalString "fraud_status" body
  some {
    orderId, statusCode, grossAmount, signatureKey, transactionStatus, transactionId,
    fraudStatus }

def midtransOutcome (transactionStatus : String) (fraudStatus : Option String) :
    PaymentOutcome :=
  match transactionStatus with
  | "capture" =>
    if fraudStatus = some "accept" then .settlement
    else if fraudStatus = some "challenge" then .pending
    else .failure
  | "settlement" => .settlement
  | "pending" => .pending
  | "deny" | "cancel" | "expire" | "failure" => .failure
  | _ => .ignore

/-- The whole-rupiah part of a `gross_amount`, read as a `bigint`. -/
def parseGrossAmountIdr (gross : String) : Except Thrown BigInt :=
  let intPart := gross.toList.takeWhile (· ≠ '.')
  if intPart ≠ [] ∧ intPart.all Char.isDigit then .ok (number intPart)
  else .error (.badRequest "Webhook gross_amount is not a whole number")

/-- `timingSafeEqualHex`: strings of one length whose UTF-8 lengths differ make
`timingSafeEqual` throw. -/
def timingSafeEqualHex (a b : String) : Except Thrown Bool :=
  if utf16Length a.toList ≠ utf16Length b.toList then .ok false
  else if a.utf8ByteSize ≠ b.utf8ByteSize then
    .error (.error "Input buffers must have the same byte length")
  else .ok (a = b)

theorem timingSafeEqualHex_self (a : String) : timingSafeEqualHex a a = .ok true := by
  rw [timingSafeEqualHex, if_neg (not_not.mpr rfl), if_neg (not_not.mpr rfl), decide_eq_true rfl]

theorem timingSafeEqualHex_true {a b : String} (same : timingSafeEqualHex a b = .ok true) :
    a = b := by
  unfold timingSafeEqualHex at same
  split at same
  · cases same
  · split at same
    · cases same
    · exact of_decide_eq_true (Except.ok.inj same)

/-- The text Midtrans signs: `orderId + statusCode + grossAmount + serverKey`. The fields are read
as the UTF-8 digest reads them, a lone surrogate as U+FFFD; two that would pair up across the seam
of two fields stay apart here. -/
def MidtransNotification.signedText (n : MidtransNotification) (serverKey : String) : String :=
  n.orderId ++ n.statusCode ++ n.grossAmount ++ serverKey

/-- `${transaction_id}:${transaction_status}`. -/
def MidtransNotification.providerEventId (n : MidtransNotification) : String :=
  n.transactionId ++ ":" ++ n.transactionStatus

/-- The adapter's `verifyAndParse`, over the hexadecimal SHA-512 digest. -/
def verifyAndParse (sha512 : String → String) (body : Json) (credential : GatewayCredential) :
    Except Thrown ParsedPaymentEvent :=
  match parseNotification body with
  | none => .error (.badRequest "Malformed webhook payload")
  | some n => do
    let expected := sha512 (n.signedText credential.serverKey)
    if ← timingSafeEqualHex expected n.signatureKey then
      let grossAmountIdr ← parseGrossAmountIdr n.grossAmount
      return {
        providerEventId := n.providerEventId
        orderId := n.orderId
        outcome := midtransOutcome n.transactionStatus n.fraudStatus
        grossAmountIdr
        raw := body }
    else throw (.unauthorized "Invalid webhook signature")

/-- `(body as { order_id?: unknown } | null)?.order_id`, where it is a non-empty string. -/
def peekOrderId (body : Json) : Option String := nonEmptyString "order_id" body

/-- `res.ok`. -/
abbrev HttpOk (status : Nat) : Prop := 200 ≤ status ∧ status ≤ 299

/-- Reads the session out of Snap's answer. -/
def createSession : HttpResponse → Except Thrown PaymentSession
  | .unreachable => .error (.badGateway "Payment provider is unreachable")
  | .answered status body =>
    if ¬ HttpOk status then .error (.badGateway "Payment provider rejected the request")
    else
      match body.bind fun body => (body.field "token").bind Json.asString,
        body.bind fun body => (body.field "redirect_url").bind Json.asString with
      | some token, some redirectUrl => .ok { token, redirectUrl }
      | _, _ => .error (.badGateway "Payment provider returned an invalid session")

/-- A JSON body `if (!body)` turns away. A number is zero where its mantissa has no other
digit. -/
def Json.falsy : Json → Bool
  | .null => true
  | .bool value => !value
  | .string value => value.text = ""
  | .number literal =>
    (literal.toList.takeWhile fun c => c ≠ 'e' ∧ c ≠ 'E').all fun c => "-0.".toList.contains c
  | _ => false

/-- The status of an order: signed like a notification, `none` where Midtrans has no record. -/
def fetchStatus (sha512 : String → String) (credential : GatewayCredential) :
    HttpResponse → Except Thrown (Option ParsedPaymentEvent)
  | .unreachable => .error (.badGateway "Payment provider is unreachable")
  | .answered status body =>
    if status = 404 then .ok none
    else if ¬ HttpOk status then .error (.badGateway "Payment provider status check failed")
    else
      match body with
      | none => .error (.badGateway "Payment provider returned an invalid status")
      | some body =>
        if body.falsy then .error (.badGateway "Payment provider returned an invalid status")
        else if (body.field "status_code").bind Json.asString = some "404" then .ok none
        else some <$> verifyAndParse sha512 body credential

/-- `MidtransGateway`. -/
def midtransGateway (sha512 : String → String) : PaymentGateway where
  provider := "midtrans"
  requiresCredentials := true
  createSession
  peekOrderId
  verifyAndParse := verifyAndParse sha512
  fetchStatus := fetchStatus sha512

/-! ### What a verified notification is -/

/-- The field peeked at is the order id of the notification. -/
theorem peekOrderId_parsed {body : Json} {n : MidtransNotification}
    (parsed : parseNotification body = some n) : peekOrderId body = some n.orderId := by
  unfold parseNotification at parsed
  simp only [Option.bind_eq_bind, Option.bind_eq_some_iff] at parsed
  obtain ⟨orderId, peeked, _, -, _, -, _, -, _, -, _, -, _, -, same⟩ := parsed
  rw [peekOrderId, peeked]
  cases same
  rfl

/-- A body the adapter accepts is a notification whose signature is the digest of its signed
text, and the event is read off its fields. -/
theorem verifyAndParse_eq_ok {sha512 : String → String} {body : Json}
    {credential : GatewayCredential} {event : ParsedPaymentEvent} :
    verifyAndParse sha512 body credential = .ok event ↔
      ∃ n amount, parseNotification body = some n ∧
        timingSafeEqualHex (sha512 (n.signedText credential.serverKey)) n.signatureKey =
          .ok true ∧
        parseGrossAmountIdr n.grossAmount = .ok amount ∧
        event = {
          providerEventId := n.providerEventId
          orderId := n.orderId
          outcome := midtransOutcome n.transactionStatus n.fraudStatus
          grossAmountIdr := amount
          raw := body } := by
  unfold verifyAndParse
  cases parsed : parseNotification body with
  | none => simp
  | some n =>
    cases compared :
        timingSafeEqualHex (sha512 (n.signedText credential.serverKey)) n.signatureKey with
    | error thrown => simp [compared, bind, Except.bind]
    | ok same =>
      cases same with
      | false => simp [compared, bind, Except.bind, throw, throwThe, MonadExceptOf.throw]
      | true =>
        cases gross : parseGrossAmountIdr n.grossAmount with
        | error thrown => simp [compared, gross, bind, Except.bind]
        | ok amount =>
          simp [compared, gross, bind, Except.bind, pure, Except.pure, eq_comm]

end Sambung
