/-
This file states what a service call throws instead of answering: the HTTP
exceptions with their texts, the conflicts of `conflicts.ts` with the data they
carry, a Postgres error nobody caught, and any other JavaScript error.

A call answers or throws. An answer comes with the database its transaction
committed; an exception rolls the transaction back, so that what is left is the
database before the call, and no step of a service has to undo another.
`mapDbError` turns some of the errors of the database into conflicts by the name
of the constraint they carry, and lets the others through as they are.
-/

import Sambung.Postgres

namespace Sambung

/-- Why a stay is refused. -/
inductive BookingRefusalReason where
  | overlap | minStay | maxGuests | unavailable | archived
  deriving DecidableEq, Repr

/-- The extra field of a `409` body. -/
inductive ConflictDetail where
  | none
  | reasons (reasons : List BookingRefusalReason)
  | status (status : BookingStatus)
  deriving DecidableEq, Repr

/-- What a service call throws. -/
inductive Thrown where
  | notFound (message : String)
  | badRequest (message : String)
  | unauthorized (message : String)
  | badGateway (message : String)
  | internalServerError (message : String)
  | conflict (code message : String) (detail : ConflictDetail)
  | pg (error : PgError)
  | error (message : String)
  deriving DecidableEq, Repr

/-- What a call leaves behind: an answer with the database it committed, or an exception,
with the transaction rolled back. -/
abbrev Answer (α : Type) := Except Thrown (α × Db)

/-- The database after a call: a thrown exception leaves it as it was. -/
def Answer.database {α : Type} (answer : Answer α) (db : Db) : Db :=
  match answer with
  | .ok (_, after) => after
  | .error _ => db

@[simp] theorem Answer.database_ok {α : Type} (value : α) (after db : Db) :
    Answer.database (.ok (value, after)) db = after := rfl

@[simp] theorem Answer.database_error {α : Type} (thrown : Thrown) (db : Db) :
    Answer.database (α := α) (.error thrown) db = db := rfl

/-! ### Conflicts -/

def datesUnavailable (reasons : List BookingRefusalReason) : Thrown :=
  .conflict "dates_unavailable" "These dates are no longer available" (.reasons reasons)

def bookingNotCancellable (status : BookingStatus) : Thrown :=
  .conflict "booking_not_cancellable" "Booking cannot be cancelled" (.status status)

def bookingNotPayable (status : BookingStatus) : Thrown :=
  .conflict "booking_not_payable" "Booking cannot be paid" (.status status)

def paymentsNotConfigured : Thrown :=
  .conflict "payments_not_configured" "Online payment is not set up for this property yet" .none

/-- `mapDbError`: the answer a constraint the interceptor knows stands for. -/
def mapDbError (error : PgError) : Thrown :=
  if error.constraint = some .bookingNoOverlap then datesUnavailable [.overlap] else .pg error

/-! ### Money -/

def MAX_SAFE_INTEGER : BigInt := 9007199254740991

/-- `toRupiah`: the amount as a JavaScript number. -/
def toRupiah (value : BigInt) : Except Thrown BigInt :=
  if value < 0 ∨ value > MAX_SAFE_INTEGER then
    .error (.error ("Stored value is not representable as rupiah: " ++ toString value))
  else .ok value

theorem toRupiah_eq {value : BigInt} (fits : 0 ≤ value ∧ value ≤ MAX_SAFE_INTEGER) :
    toRupiah value = .ok value := by
  rw [toRupiah, if_neg (not_or.mpr ⟨not_lt.mpr fits.1, not_lt.mpr fits.2⟩)]

theorem toRupiah_ok {value amount : BigInt} (converted : toRupiah value = .ok amount) :
    0 ≤ value ∧ value ≤ MAX_SAFE_INTEGER := by
  rw [toRupiah] at converted
  by_cases unfit : value < 0 ∨ value > MAX_SAFE_INTEGER
  · rw [if_pos unfit] at converted
    cases converted
  · exact ⟨not_lt.mp fun negative => unfit (Or.inl negative),
      not_lt.mp fun large => unfit (Or.inr large)⟩

end Sambung
