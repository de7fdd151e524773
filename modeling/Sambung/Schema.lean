/-
This file states the tables the booking, payment and channel-sync services read
and write: the enumerations of `packages/db/src/schema.ts` and the columns of each
table that some service below reads or sets. A database is one list of rows per
table.

Three column types are read at the representation Postgres itself stores. A `uuid`
is the number its 128 bits spell, a `date` is a count of days from 1970-01-01, and
a `timestamptz` is an instant in milliseconds. Money is integer rupiah and never
rounds.

No row carries a proof: a table is what the statements left there, and that its
rows satisfy their constraints is an invariant to be proved. The JSON of a request
keeps what a parser keeps, the text of its numbers and surrogates that stand alone
included, since what a column refuses depends on them. Tables that only the
policies and the team speak of have modules of their own.
-/

import Mathlib
import Sambung.Foundation.Table

namespace Sambung

/-! ### Column types -/

/-- A `uuid`, as the number its bits spell. -/
abbrev Uuid := Nat

/-- A `date`, as a count of days from 1970-01-01. -/
abbrev PgDate := Int

/-- A `timestamptz`, in milliseconds from 1970-01-01T00:00:00Z. -/
abbrev Instant := Int

/-- A JavaScript `bigint`: the type every rupiah amount has inside the services. -/
abbrev BigInt := Int

/-- A string of a JSON value. JavaScript lets a surrogate stand alone in a string, and the UTF-8
encoder writes U+FFFD in its place wherever the services hash, compare or bind the string. The
text is what the encoder writes, and the flag says whether every surrogate had its partner. -/
structure JsString where
  text : String
  wellFormed : Bool
  replaced : wellFormed = false → Char.ofNat 0xFFFD ∈ text.toList
  deriving DecidableEq, Repr

theorem JsString.plain_replaced (text : String) :
    true = false → Char.ofNat 0xFFFD ∈ text.toList :=
  fun absurdity => nomatch absurdity

/-- A string of whole characters. -/
def JsString.plain (text : String) : JsString where
  text
  wellFormed := true
  replaced := JsString.plain_replaced text

instance : Coe String JsString := ⟨JsString.plain⟩

@[simp] theorem JsString.plain_text (text : String) : (JsString.plain text).text = text := rfl

@[simp] theorem JsString.plain_wellFormed (text : String) :
    (JsString.plain text).wellFormed = true := rfl

/-- A JSON value, as the body parser or the driver hands it over. A number keeps its text,
since no service below computes with one. -/
inductive Json where
  | null
  | bool (value : Bool)
  | number (literal : String)
  | string (value : JsString)
  | array (items : List Json)
  | object (fields : List (JsString × Json))
  deriving Repr, Inhabited

/-- The value of a field, `undefined` where the value is no object or lacks the field. The names
the services ask for hold no U+FFFD, so that only a well-formed name is one of them. -/
def Json.field (name : String) : Json → Option Json
  | .object fields => (fields.find? fun entry => entry.1.text = name).map Prod.snd
  | _ => none

/-- The value where `typeof value === 'string'`. -/
def Json.asString : Json → Option JsString
  | .string value => some value
  | _ => none

/-! ### Enumerations -/

inductive BookingStatus where
  | pendingPayment | confirmed | cancelled | expired
  deriving DecidableEq, Repr

inductive BookingSource where
  | direct | airbnb | bookingCom | vrbo | manualBlock
  deriving DecidableEq, Repr

inductive PaymentStatus where
  | pending | paid | failed
  deriving DecidableEq, Repr

inductive SyncStatus where
  | never | ok | error
  deriving DecidableEq, Repr

/-- `opened` is the source's `open`, which Lean keeps for itself. -/
inductive SyncConflictStatus where
  | opened | resolved | dismissed
  deriving DecidableEq, Repr

/-- The channels a connection may name, a subset of the booking sources. -/
inductive Channel where
  | airbnb | bookingCom | vrbo
  deriving DecidableEq, Repr

/-- `conn.channel as BookingSource`. -/
def Channel.asBookingSource : Channel → BookingSource
  | .airbnb => .airbnb
  | .bookingCom => .bookingCom
  | .vrbo => .vrbo

inductive PaymentEnvironment where
  | sandbox | production
  deriving DecidableEq, Repr

/-- The statuses that hold a unit's nights against everyone else. -/
def OCCUPYING_STATUSES : List BookingStatus := [.pendingPayment, .confirmed]

/-- The status is one of `OCCUPYING_STATUSES`. -/
abbrev BookingStatus.Occupying (status : BookingStatus) : Prop := status ∈ OCCUPYING_STATUSES

theorem BookingStatus.occupying_iff (status : BookingStatus) :
    status.Occupying ↔ status = .pendingPayment ∨ status = .confirmed := by
  simp [BookingStatus.Occupying, OCCUPYING_STATUSES]

@[simp] theorem BookingStatus.not_occupying_cancelled : ¬ BookingStatus.cancelled.Occupying := by
  decide

@[simp] theorem BookingStatus.not_occupying_expired : ¬ BookingStatus.expired.Occupying := by
  decide

/-! ### Rows -/

structure Property where
  id : Uuid
  tenantId : Uuid
  name : String
  timeZone : String
  depositPct : Nat
  archivedAt : Option Instant
  deriving DecidableEq, Repr

/-- A row of `unit`. -/
structure RentalUnit where
  id : Uuid
  propertyId : Uuid
  tenantId : Uuid
  name : String
  basePriceIdr : BigInt
  maxGuests : Nat
  minStay : Nat
  archivedAt : Option Instant
  deriving DecidableEq, Repr

structure UnitPriceOverride where
  unitId : Uuid
  tenantId : Uuid
  fromDate : PgDate
  toDate : PgDate
  nightlyPriceIdr : BigInt
  deriving DecidableEq, Repr

structure ChannelConnection where
  id : Uuid
  unitId : Uuid
  tenantId : Uuid
  channel : Channel
  importIcalUrl : String
  lastSyncedAt : Option Instant
  lastStatus : SyncStatus
  lastError : Option String
  deriving DecidableEq, Repr

structure SyncConflict where
  id : Uuid
  tenantId : Uuid
  channelConnectionId : Uuid
  unitId : Uuid
  externalUid : String
  checkIn : PgDate
  checkOut : PgDate
  status : SyncConflictStatus
  firstDetectedAt : Instant
  lastSeenAt : Instant
  closedAt : Option Instant
  deriving DecidableEq, Repr

structure Booking where
  id : Uuid
  tenantId : Uuid
  unitId : Uuid
  source : BookingSource
  status : BookingStatus
  checkIn : PgDate
  checkOut : PgDate
  guestName : Option String
  guestPhone : Option String
  guestEmail : Option String
  guestCount : Option Nat
  totalPriceIdr : Option BigInt
  externalUid : Option String
  channelConnectionId : Option Uuid
  holdExpiresAt : Option Instant
  deriving DecidableEq, Repr

structure Payment where
  id : Uuid
  bookingId : Uuid
  provider : String
  amountIdr : BigInt
  status : PaymentStatus
  handledAt : Option Instant
  rawPayload : Json
  createdAt : Instant
  deriving Repr

structure PaymentEvent where
  provider : String
  providerEventId : String
  bookingId : Option Uuid
  rawPayload : Json
  deriving Repr

structure TenantPaymentCredential where
  tenantId : Uuid
  provider : String
  environment : PaymentEnvironment
  ciphertext : List UInt8
  nonce : List UInt8
  keyVersion : Nat
  deriving DecidableEq, Repr

/-- The database the services share. -/
structure Db where
  property : List Property
  unit : List RentalUnit
  unitPriceOverride : List UnitPriceOverride
  channelConnection : List ChannelConnection
  syncConflict : List SyncConflict
  booking : List Booking
  payment : List Payment
  paymentEvent : List PaymentEvent
  tenantPaymentCredential : List TenantPaymentCredential
  deriving Repr

/-- A database with no rows. -/
def Db.empty : Db where
  property := []
  unit := []
  unitPriceOverride := []
  channelConnection := []
  syncConflict := []
  booking := []
  payment := []
  paymentEvent := []
  tenantPaymentCredential := []

/-! ### Lookups by primary key -/

def Db.bookingById (db : Db) (id : Uuid) : Option Booking :=
  Table.byKey Booking.id id db.booking

def Db.paymentById (db : Db) (id : Uuid) : Option Payment :=
  Table.byKey Payment.id id db.payment

def Db.unitById (db : Db) (id : Uuid) : Option RentalUnit :=
  Table.byKey RentalUnit.id id db.unit

def Db.syncConflictById (db : Db) (id : Uuid) : Option SyncConflict :=
  Table.byKey SyncConflict.id id db.syncConflict

/-- The status of a booking, `none` where no booking has the id. -/
def Db.bookingStatus (db : Db) (id : Uuid) : Option BookingStatus :=
  (db.bookingById id).map Booking.status

/-- The status of a payment, `none` where no payment has the id. -/
def Db.paymentStatus (db : Db) (id : Uuid) : Option PaymentStatus :=
  (db.paymentById id).map Payment.status

/-! ### Half-open stays -/

/-- `daterange(a, b, '[)') && daterange(c, d, '[)')`: some day lies in both ranges. -/
abbrev daterangesOverlap (a b c d : PgDate) : Prop := max a c < min b d

theorem daterangesOverlap_comm (a b c d : PgDate) :
    daterangesOverlap a b c d ↔ daterangesOverlap c d a b := by
  rw [daterangesOverlap, daterangesOverlap, max_comm, min_comm]

/-- Two rows the `booking_no_overlap` exclusion constraint does not let coexist. -/
abbrev Booking.Clashes (first second : Booking) : Prop :=
  first.unitId = second.unitId ∧ first.status.Occupying ∧ second.status.Occupying ∧
    daterangesOverlap first.checkIn first.checkOut second.checkIn second.checkOut

theorem Booking.clashes_comm (first second : Booking) :
    first.Clashes second ↔ second.Clashes first := by
  unfold Booking.Clashes
  rw [daterangesOverlap_comm, eq_comm]
  tauto

end Sambung
