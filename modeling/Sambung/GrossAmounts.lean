/-
This file proves which `gross_amount` texts settle a payment of an amount.

The adapter reads the digits in front of the first point and drops the rest
unread. A text that denotes another amount, or none, settles exactly where those
digits are the payment's amount and something else than a point and zeros follows.

What a text denotes is a decimal numeral's exact value, a rational number, so that
cents are told from rupiah; texts that are no numeral denote nothing. The same
reader serves the pushed notification and the pulled status, and a settlement is
what either of them marks paid or confirms. That an amount other than the
payment's settles nothing is proved of every event; that the amount read does
settle needs one delivery, the notice of the last section.
-/

import Sambung.Foundation.Decimal
import Sambung.Settlement

namespace Sambung

/-! ### Decimal numerals -/

/-- The exact value of a decimal numeral: digits, or digits, a point and digits. -/
def decimalValue (text : Text) : Option ℚ :=
  let whole := text.takeWhile (· ≠ '.')
  if whole ≠ [] ∧ whole.all Char.isDigit then
    match text.dropWhile (· ≠ '.') with
    | [] => some (number whole)
    | _ :: fraction =>
      if fraction ≠ [] ∧ fraction.all Char.isDigit then
        some (number whole + number fraction / 10 ^ fraction.length)
      else none
  else none

example : decimalValue "10000.50".toList = some (20001 / 2) := by
  decide +kernel

/-- Of the runs of digits only those of zeros, the empty one among them, are worth zero. -/
theorem number_eq_zero_iff {digits : Text} (all : ∀ c ∈ digits, c.isDigit) :
    number digits = 0 ↔ digits = List.replicate digits.length '0' := by
  induction digits with
  | nil => exact ⟨fun _ => rfl, fun _ => rfl⟩
  | cons first digits inductionHypothesis =>
    have rest := inductionHypothesis fun c member => all c (List.mem_cons_of_mem _ member)
    have value : number (first :: digits) =
        (first.toNat - '0'.toNat) * 10 ^ digits.length + number digits :=
      Decimal.value_cons first digits
    have zero : first.toNat - '0'.toNat = 0 ↔ first = '0' := by
      obtain ⟨low, high⟩ := Decimal.isDigit_bounds (all first List.mem_cons_self)
      rw [← Char.toNat_inj]
      show first.toNat - 48 = 0 ↔ first.toNat = 48
      omega
    rw [value, Nat.add_eq_zero_iff, Nat.mul_eq_zero, rest, List.length_cons, List.replicate_succ,
      List.cons.injEq, or_iff_left (Nat.pow_pos (by decide)).ne', zero]

/-- What the adapter reads of a text, and what it leaves unread: digits, and the rest from the
first point on. -/
theorem parseGrossAmountIdr_eq_ok {gross : String} {amount : BigInt} :
    parseGrossAmountIdr gross = .ok amount ↔
      gross.toList.takeWhile (· ≠ '.') ≠ [] ∧
        (gross.toList.takeWhile (· ≠ '.')).all Char.isDigit ∧
        (number (gross.toList.takeWhile (· ≠ '.')) : Int) = amount := by
  unfold parseGrossAmountIdr
  by_cases digits : gross.toList.takeWhile (· ≠ '.') ≠ [] ∧
      (gross.toList.takeWhile (· ≠ '.')).all Char.isDigit
  · rw [if_pos digits, Except.ok.injEq]
    exact ⟨fun same => ⟨digits.1, digits.2, same⟩, fun found => found.2.2⟩
  · rw [if_neg digits]
    exact ⟨fun failed => (by cases failed), fun found => absurd ⟨found.1, found.2.1⟩ digits⟩

/-- The digits in front of the first point are not the amount, or nothing follows them, or a
point and zeros. -/
def ReadsExactly (gross : String) (amount : BigInt) : Prop :=
  parseGrossAmountIdr gross ≠ .ok amount ∨ gross.toList.dropWhile (· ≠ '.') = [] ∨
    ∃ zeros, gross.toList.dropWhile (· ≠ '.') = '.' :: List.replicate (zeros + 1) '0'

/-- A text read as an amount denotes it exactly where nothing but zeros is left unread. -/
theorem decimalValue_iff {gross : String} {amount : BigInt}
    (read : parseGrossAmountIdr gross = .ok amount) :
    decimalValue gross.toList = some (amount : ℚ) ↔ ReadsExactly gross amount := by
  obtain ⟨nonempty, digits, value⟩ := parseGrossAmountIdr_eq_ok.mp read
  unfold ReadsExactly decimalValue
  rw [or_iff_right (not_not.mpr read), if_pos ⟨nonempty, digits⟩, ← value]
  have point := List.head?_dropWhile_not (· ≠ '.') gross.toList
  cases unread : gross.toList.dropWhile (· ≠ '.') with
  | nil => exact iff_of_true (congrArg some (Int.cast_natCast _).symm) (Or.inl rfl)
  | cons first fraction =>
    rw [unread] at point
    obtain rfl : first = '.' := by simpa using point
    by_cases numeral : fraction ≠ [] ∧ fraction.all Char.isDigit
    · have positive : (0 : ℚ) < 10 ^ fraction.length := by positivity
      have all : ∀ c ∈ fraction, c.isDigit := List.all_eq_true.mp numeral.2
      show (if _ then _ else _) = _ ↔ _
      rw [if_pos numeral, Option.some.injEq, Int.cast_natCast, add_eq_left,
        div_eq_zero_iff, or_iff_left positive.ne', Nat.cast_eq_zero, number_eq_zero_iff all]
      constructor
      · intro zeros
        refine Or.inr ⟨fraction.length - 1, ?_⟩
        have some_digit := List.length_pos_iff.mpr numeral.1
        rw [Nat.sub_add_cancel some_digit, ← zeros]
      · rintro (none | ⟨zeros, same⟩)
        · cases none
        · rw [(List.cons.inj same).2, List.length_replicate]
    · show (if _ then _ else _) = _ ↔ _
      rw [if_neg numeral]
      refine iff_of_false (fun same => by cases same) ?_
      rintro (none | ⟨zeros, same⟩)
      · cases none
      · refine numeral ?_
        rw [(List.cons.inj same).2]
        exact ⟨List.cons_ne_nil _ _, List.all_eq_true.mpr fun c member => by
          rw [List.eq_of_mem_replicate member]; rfl⟩

/-! ### What an event settles -/

/-- The change marks a payment paid or confirms a booking. -/
def SomeSettled (before after : Db) : Prop :=
  (∃ row ∈ after.payment, row.status = .paid ∧ row ∉ before.payment) ∨
    ∃ row ∈ after.booking, row.status = .confirmed ∧ row ∉ before.booking

/-- The event of a notification, or of a status the provider answers, with a gross amount. -/
def AcceptedWith (sha512 : String → String) (credential : GatewayCredential) (gross : String)
    (event : ParsedPaymentEvent) : Prop :=
  ∃ body n, parseNotification body = some n ∧ n.grossAmount = gross ∧
    (verifyAndParse sha512 body credential = .ok event ∨
      ∃ status, fetchStatus sha512 credential (.answered status (some body)) = .ok (some event))

theorem fetchStatus_verified {sha512 : String → String} {credential : GatewayCredential}
    {status : Nat} {body : Json} {event : ParsedPaymentEvent}
    (fetched : fetchStatus sha512 credential (.answered status (some body)) = .ok (some event)) :
    verifyAndParse sha512 body credential = .ok event := by
  simp only [fetchStatus] at fetched
  split at fetched
  · cases fetched
  · split at fetched
    · cases fetched
    · split at fetched
      · cases fetched
      · split at fetched
        · cases fetched
        · cases verified : verifyAndParse sha512 body credential with
          | error thrown =>
            rw [verified] at fetched
            cases fetched
          | ok found =>
            rw [verified] at fetched
            cases fetched
            rfl

/-- An accepted event carries what was read of its gross amount. -/
theorem AcceptedWith.read {sha512 : String → String} {credential : GatewayCredential}
    {gross : String} {event : ParsedPaymentEvent}
    (accepted : AcceptedWith sha512 credential gross event) :
    parseGrossAmountIdr gross = .ok event.grossAmountIdr := by
  obtain ⟨body, n, parsed, rfl, received⟩ := accepted
  have verified : verifyAndParse sha512 body credential = .ok event :=
    received.elim id fun ⟨_, fetched⟩ => fetchStatus_verified fetched
  obtain ⟨found, amount, foundParsed, -, read, rfl⟩ := verifyAndParse_eq_ok.mp verified
  rw [parsed] at foundParsed
  cases foundParsed
  exact read

/-- What settles is of the payment's amount. -/
theorem SomeSettled.amount {event : ParsedPaymentEvent} {pay : Payment} {db : Db}
    (settled : SomeSettled db (applyOutcome event pay db).2) :
    event.grossAmountIdr = pay.amountIdr := by
  by_contra differs
  rw [applyOutcome_database, if_neg differs] at settled
  rcases settled with ⟨row, member, -, fresh⟩ | ⟨row, member, -, fresh⟩
  · exact fresh member
  · exact fresh member

/-! ### The exact amounts -/

/-- A settlement notification with a gross amount, signed under the credential. -/
def settlementNotice (sha512 : String → String) (credential : GatewayCredential)
    (gross : String) : MidtransNotification where
  orderId := "00000000-0000-0000-0000-000000000001"
  statusCode := "200"
  grossAmount := gross
  signatureKey :=
    sha512 ("00000000-0000-0000-0000-000000000001" ++ "200" ++ gross ++ credential.serverKey)
  transactionStatus := "settlement"
  transactionId := "tx-1"
  fraudStatus := none

def MidtransNotification.body (n : MidtransNotification) : Json :=
  .object [("order_id", .string n.orderId), ("status_code", .string n.statusCode),
    ("gross_amount", .string n.grossAmount), ("signature_key", .string n.signatureKey),
    ("transaction_status", .string n.transactionStatus),
    ("transaction_id", .string n.transactionId)]

/-- It is accepted as a settlement of what is read of its gross amount. -/
theorem settlementNotice_verified {sha512 : String → String} (digests : ∀ text, sha512 text ≠ "")
    (credential : GatewayCredential) {gross : String} {amount : BigInt}
    (read : parseGrossAmountIdr gross = .ok amount) :
    let n := settlementNotice sha512 credential gross
    parseNotification n.body = some n ∧
      verifyAndParse sha512 n.body credential =
        .ok ⟨"tx-1:settlement", "00000000-0000-0000-0000-000000000001", .settlement, amount,
          n.body⟩ := by
  intro n
  have stated : gross ≠ "" := by
    rintro rfl
    exact (parseGrossAmountIdr_eq_ok.mp read).1 rfl
  have parsed : parseNotification n.body = some n := by
    simp [n, MidtransNotification.body, settlementNotice, parseNotification, nonEmptyString,
      optionalString, Json.field, Json.asString, Option.filter, stated, digests]
  refine ⟨parsed, verifyAndParse_eq_ok.mpr ⟨n, amount, parsed, ?_, read, ?_⟩⟩
  · exact timingSafeEqualHex_self _
  · rfl

/-- A payment of an amount is settled by the texts that denote it alone, exactly for the texts that
are read exactly: the digits before the first point are another number than the amount, or a point
and zeros or nothing follow them. The digest only has to be no empty text; the key, the payment and
the state it settles in are any. -/
theorem onlyExactAmount_iff {sha512 : String → String} (digests : ∀ text, sha512 text ≠ "")
    (credential : GatewayCredential) (gross : String) (amount : BigInt) :
    (∀ event pay db, AcceptedWith sha512 credential gross event → pay.amountIdr = amount →
        SomeSettled db (applyOutcome event pay db).2 →
        decimalValue gross.toList = some (amount : ℚ)) ↔
      ReadsExactly gross amount := by
  constructor
  · intro exact_
    by_cases read : parseGrossAmountIdr gross = .ok amount
    · obtain ⟨parsed, verified⟩ := settlementNotice_verified digests credential read
      have denoted := exact_ _ { villaPayment with amountIdr := amount }
        { villaPending with payment := [{ villaPayment with amountIdr := amount }] }
        ⟨_, _, parsed, rfl, Or.inl verified⟩ rfl ?_
      · exact (decimalValue_iff read).mp denoted
      · rw [applyOutcome_database, if_pos rfl]
        refine Or.inl ⟨{ villaPayment with amountIdr := amount, status := .paid },
          List.mem_cons_self, rfl, fun held => ?_⟩
        cases congrArg Payment.status (List.mem_singleton.mp held)
    · exact Or.inl read
  · intro exact_ event pay db accepted amounts settled
    have read := accepted.read
    rw [settled.amount, amounts] at read
    exact (decimalValue_iff read).mpr exact_

/-- The digest of what Midtrans signs about the deposit, at the two amounts below. -/
def depositDigest (text : String) : String :=
  if text = "00000000-0000-0000-0000-000000000001" ++ "200" ++ "500000.99" ++
      "SB-Mid-server-villa" then
    "240f8c76eb2acf4fa04254708fe9a5fdbb914dce18d4bf24dbbf5a9ad1dba25a" ++
      "476e5cf4c4e3c0be699a91d812246ae39911effb7b62494c9df6cc1c4d377956"
  else
    "ed94e02e54ea72e38b3562e9e6166122dc5436b7dd5f8c5688bcc0a62c2db07c" ++
      "bbcb24d4a52201c59450c78ffee731b9efb1eb242e893e3742e533284559355f"

theorem depositDigest_nonempty (text : String) : depositDigest text ≠ "" := by
  unfold depositDigest
  split
  · decide
  · decide

/-- The deposit is settled by its own amount. -/
theorem deposit_exactAmount :
    ReadsExactly "500000.00" 500000 ∧ ∀ event pay db,
      AcceptedWith depositDigest ⟨"SB-Mid-server-villa", .sandbox⟩ "500000.00" event →
        pay.amountIdr = 500000 → SomeSettled db (applyOutcome event pay db).2 →
        decimalValue "500000.00".toList = some ((500000 : BigInt) : ℚ) := by
  have reads : ReadsExactly "500000.00" 500000 := Or.inr (Or.inr ⟨1, by decide⟩)
  exact ⟨reads, (onlyExactAmount_iff depositDigest_nonempty _ _ _).mpr reads⟩

/-- The deposit is settled by 99 cents more as well: the adapter does not read behind the point. -/
theorem deposit_otherAmount :
    ∃ event, AcceptedWith depositDigest ⟨"SB-Mid-server-villa", .sandbox⟩ "500000.99" event ∧
      SomeSettled villaPending (applyOutcome event villaPayment villaPending).2 ∧
      decimalValue "500000.99".toList = some (50000099 / 100) ∧
      decimalValue "500000.99".toList ≠ some (villaPayment.amountIdr : ℚ) := by
  have read : parseGrossAmountIdr "500000.99" = .ok 500000 := by decide +kernel
  obtain ⟨parsed, verified⟩ := settlementNotice_verified depositDigest_nonempty
    ⟨"SB-Mid-server-villa", .sandbox⟩ read
  refine ⟨_, ⟨_, _, parsed, rfl, Or.inl verified⟩, ?_, by decide +kernel, by decide +kernel⟩
  refine Or.inl ⟨{ villaPayment with status := .paid }, List.mem_cons_self, rfl, fun held => ?_⟩
  cases congrArg Payment.status (List.mem_singleton.mp held)

end Sambung
