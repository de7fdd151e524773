/-
This file states what the services rely on of Postgres: the values its `uuid`,
`date`, `text` and `jsonb` columns take, the errors its constraints raise, and
the inserts that run into them.

A `booking` is checked the way the server checks it: the row's own CHECKs in the
order of their names, then the two unique structures over the other rows (the
partial unique index on the feed's UID, then the `booking_no_overlap` exclusion
constraint), and after the row the foreign keys.

Two limits of the server are no constraint of any table and still refuse a row.
An entry of a btree index has to fit a third of a page, and the error of one that
does not fit carries the name of the index, so that a reader of the name takes it
for a violation of the index. A statement carries at most 65535 parameters. How
many bytes an entry takes is decided by the server's compression, and how deep a
document may nest by its stack, so both are parameters of the development, in the
class `PostgresServer`.
-/

import Sambung.Schema
import Sambung.Text

namespace Sambung

/-! ### Values -/

def hexDigit (c : Char) : Option Nat :=
  if c.isDigit then some (c.toNat - '0'.toNat)
  else if 'a' ≤ c ∧ c ≤ 'f' then some (c.toNat - 'a'.toNat + 10)
  else if 'A' ≤ c ∧ c ≤ 'F' then some (c.toNat - 'A'.toNat + 10)
  else none

/-- Reads `left` more bytes of a `uuid`, two hexadecimal digits each. A hyphen may follow every
second byte but the last. -/
def uuidBytes : Nat → Nat → Text → Option (Nat × Text)
  | 0, value, rest => some (value, rest)
  | left + 1, value, first :: second :: rest => do
    let high ← hexDigit first
    let low ← hexDigit second
    let rest := if left % 2 = 0 ∧ 0 < left ∧ rest.head? = some '-' then rest.tail else rest
    uuidBytes left (value * 256 + high * 16 + low) rest
  | _ + 1, _, _ => none

/-- `text::uuid`, `none` where Postgres raises `22P02`. Braces around the digits are allowed. -/
def parseUuid (text : String) : Option Uuid :=
  match text.toList with
  | '{' :: rest =>
    match uuidBytes 16 0 rest with
    | some (value, ['}']) => some value
    | _ => none
  | rest =>
    match uuidBytes 16 0 rest with
    | some (value, []) => some value
    | _ => none

example : parseUuid "00000000-0000-0000-0000-0000000000ff" = some 255 := by decide

/-- The last `left` bytes of a `uuid`, as Postgres writes them. -/
def uuidDigits : Nat → Nat → Text
  | 0, _ => []
  | left + 1, value =>
    let byte := value / 256 ^ left % 256
    [Nat.digitChar (byte / 16), Nat.digitChar (byte % 16)] ++
      (if left ∈ [12, 10, 8, 6] then ['-'] else []) ++ uuidDigits left value

/-- `uuid::text`. -/
def uuidText (id : Uuid) : String := String.ofList (uuidDigits 16 id)

example : uuidText 255 = "00000000-0000-0000-0000-0000000000ff" := by decide

theorem hexDigit_digitChar : ∀ d < 16, hexDigit (Nat.digitChar d) = some d := by decide

theorem digitChar_ne : ∀ d < 16, Nat.digitChar d ≠ '-' ∧ Nat.digitChar d ≠ '{' := by decide

/-- What Postgres writes of a `uuid` starts with a digit. -/
theorem uuidDigits_head (left value : Nat) :
    (uuidDigits left value).head? ≠ some '-' ∧ (uuidDigits left value).head? ≠ some '{' := by
  cases left with
  | zero => exact ⟨(fun same => nomatch same), (fun same => nomatch same)⟩
  | succ left =>
    have digit := digitChar_ne (value / 256 ^ left % 256 / 16) (by omega)
    exact ⟨fun same => digit.1 (Option.some.inj same), fun same => digit.2 (Option.some.inj same)⟩

/-- What Postgres writes of a `uuid` it reads back. -/
theorem uuidBytes_uuidDigits (left value read : Nat) :
    uuidBytes left read (uuidDigits left value) =
      some (read * 256 ^ left + value % 256 ^ left, []) := by
  induction left generalizing read with
  | zero => simp [uuidBytes, uuidDigits, Nat.mod_one]
  | succ left inductionHypothesis =>
    have high := hexDigit_digitChar (value / 256 ^ left % 256 / 16) (by omega)
    have low := hexDigit_digitChar (value / 256 ^ left % 256 % 16) (by omega)
    have hyphen : (if left % 2 = 0 ∧ 0 < left ∧
        ((if left ∈ [12, 10, 8, 6] then ['-'] else []) ++ uuidDigits left value).head? = some '-'
        then ((if left ∈ [12, 10, 8, 6] then ['-'] else []) ++ uuidDigits left value).tail
        else (if left ∈ [12, 10, 8, 6] then ['-'] else []) ++ uuidDigits left value) =
        uuidDigits left value := by
      by_cases grouped : left ∈ [12, 10, 8, 6]
      · have even : left % 2 = 0 ∧ 0 < left := by
          simp only [List.mem_cons, List.not_mem_nil, or_false] at grouped
          omega
        rw [if_pos grouped, if_pos ⟨even.1, even.2, rfl⟩]
        rfl
      · rw [if_neg grouped, List.nil_append,
          if_neg fun both => (uuidDigits_head left value).1 both.2.2]
    have byte : value / 256 ^ left % 256 / 16 * 16 + value / 256 ^ left % 256 % 16 =
        value / 256 ^ left % 256 := by omega
    rw [uuidDigits]
    simp only [List.cons_append, List.nil_append, uuidBytes, high, low, Option.bind_eq_bind,
      Option.bind_some]
    rw [hyphen, inductionHypothesis, Nat.add_assoc, byte, pow_succ, Nat.mod_mul, Nat.add_mul]
    ring_nf

theorem parseUuid_uuidText {id : Uuid} (fits : id < 2 ^ 128) :
    parseUuid (uuidText id) = some id := by
  have read := uuidBytes_uuidDigits 16 id 0
  rw [Nat.zero_mul, Nat.zero_add, Nat.mod_eq_of_lt (by omega)] at read
  unfold parseUuid uuidText
  rw [String.toList_ofList]
  have head := (uuidDigits_head 16 id).2
  split
  · rename_i braced
    rw [braced] at head
    exact absurd rfl head
  · rw [read]

/-- `text::date` on a `YYYY-MM-DD` text, `none` where Postgres raises `22008`: it has no year
zero. -/
def pgDate (text : Text) : Option PgDate :=
  match isoParts text with
  | some (year, _, _) => if year = 0 then none else isoDay text
  | none => none

/-- A `text` column takes every string without the character U+0000. -/
def pgText (text : String) : Bool := ¬ text.toList.contains (Char.ofNat 0)

/-- `gen_random_uuid()`, and `randomUUID()` of the application: an id no row has. -/
structure UuidSource where
  draw : List Uuid → Uuid
  fresh : ∀ taken, draw taken ∉ taken

/-- One source of ids: the next number after all that are taken. -/
def UuidSource.counting : UuidSource where
  draw taken := taken.sum + 1
  fresh taken member := by
    have bounded := List.single_le_sum (fun _ _ => Nat.zero_le _) _ member
    omega

/-! ### Errors -/

/-- The constraints the modelled writes can run into, under their SQL names. -/
inductive Constraint where
  | bookingGuestCountPositive | bookingStayNonempty | bookingTotalPriceNonneg
  | bookingExternalUidUniq | bookingNoOverlap
  | bookingUnitTenantFk | bookingChannelConnectionFk
  | syncConflictStayNonempty | syncConflictUnitTenantFk | syncConflictChannelConnectionFk
  | paymentAmountNonneg | paymentBookingFk
  | paymentEventProviderEventUniq
  deriving DecidableEq, Repr

def Constraint.sqlState : Constraint → String
  | .bookingGuestCountPositive | .bookingStayNonempty | .bookingTotalPriceNonneg
  | .syncConflictStayNonempty | .paymentAmountNonneg => "23514"
  | .bookingExternalUidUniq | .paymentEventProviderEventUniq => "23505"
  | .bookingNoOverlap => "23P01"
  | .bookingUnitTenantFk | .bookingChannelConnectionFk | .syncConflictUnitTenantFk
  | .syncConflictChannelConnectionFk | .paymentBookingFk => "23503"

/-- What `pgError` reads off a thrown error. -/
structure PgError where
  code : String
  constraint : Option Constraint
  deriving DecidableEq, Repr

def PgError.violation (constraint : Constraint) : PgError :=
  ⟨constraint.sqlState, some constraint⟩

/-- `invalid input syntax for type uuid`. -/
def PgError.invalidUuid : PgError := ⟨"22P02", none⟩

/-- `date/time field value out of range`. -/
def PgError.invalidDate : PgError := ⟨"22008", none⟩

/-- `invalid byte sequence for encoding "UTF8": 0x00`. -/
def PgError.invalidText : PgError := ⟨"22021", none⟩

/-- `unsupported Unicode escape sequence` in a `jsonb`. -/
def PgError.untranslatableJson : PgError := ⟨"22P05", none⟩

/-- `invalid input syntax for type json`. -/
def PgError.invalidJson : PgError := ⟨"22P02", none⟩

/-- `stack depth limit exceeded`. -/
def PgError.stackDepth : PgError := ⟨"54001", none⟩

/-- `bind message supplies ... parameters`: the driver counts the parameters of a statement in
sixteen bits, and a longer list reaches the server with a count that is not its length. -/
def PgError.parameterCount : PgError := ⟨"08P01", none⟩

/-- The most parameters one statement can carry. -/
def MAX_PARAMETERS : Nat := 65535

/-! ### The limits of the server -/

/-- What decides the limits of the server and is no text of the repository. `indexRowSize` is the
number of bytes a btree index forms of an entry, from the bytes of its columns of fixed width and
from its texts, once the server has compressed what it compresses; an entry with one of them null
is no longer than it was with it. `nests` says that a document nests no deeper than the stacks of
its writer and its reader hold. -/
class PostgresServer where
  indexRowSize : Nat → List String → Nat
  indexRowSize_mono : ∀ {narrow wide : Nat}, narrow ≤ wide → ∀ texts,
    indexRowSize narrow texts ≤ indexRowSize wide texts
  nests : Json → Bool

/-- The bytes of an entry whose texts stand as they are: eight bytes of header, a byte of length
before each text, and the whole in words of eight bytes. -/
def uncompressedBytes (fixedBytes : Nat) (texts : List String) : Nat :=
  (fixedBytes + (texts.map fun text => text.utf8ByteSize + 1).sum + 15) / 8 * 8

theorem uncompressedBytes_mono {narrow wide : Nat} (wider : narrow ≤ wide) (texts : List String) :
    uncompressedBytes narrow texts ≤ uncompressedBytes wide texts := by
  unfold uncompressedBytes
  gcongr

/-- A server that stores every text as it stands, as the real one does with texts of up to 126
bytes. It takes documents as deep as those of the examples. -/
abbrev PostgresServer.uncompressed : PostgresServer where
  indexRowSize := uncompressedBytes
  indexRowSize_mono := uncompressedBytes_mono
  nests _ := true

/-- The bytes a third of a page leaves for one entry of a btree index. -/
def BTREE_MAX_ITEM_SIZE : Nat := 2704

/-- The bytes an entry of any index can count. -/
def INDEX_SIZE_MASK : Nat := 8191

/-- The error of an entry that does not fit its index: beside a third of a page it carries the name
of the index, and what no index can count is refused before any index is named. -/
def indexRefusal [PostgresServer] (index : Constraint) (fixedBytes : Nat) (texts : List String) :
    Option PgError :=
  let size := PostgresServer.indexRowSize fixedBytes texts
  if size ≤ BTREE_MAX_ITEM_SIZE then none
  else if size ≤ INDEX_SIZE_MASK then some ⟨"54000", some index⟩
  else some ⟨"54000", none⟩

theorem indexRefusal_eq_none [PostgresServer] {index : Constraint} {fixedBytes : Nat}
    {texts : List String} :
    indexRefusal index fixedBytes texts = none ↔
      PostgresServer.indexRowSize fixedBytes texts ≤ BTREE_MAX_ITEM_SIZE := by
  unfold indexRefusal
  dsimp only
  split_ifs with fits
  · exact iff_of_true rfl fits
  · exact iff_of_false nofun fits
  · exact iff_of_false nofun fits

theorem indexRefusal_ne_overlap [PostgresServer] {index : Constraint} {fixedBytes : Nat}
    {texts : List String} {error : PgError} (other : index ≠ .bookingNoOverlap)
    (refused : indexRefusal index fixedBytes texts = some error) :
    error.constraint ≠ some .bookingNoOverlap := by
  unfold indexRefusal at refused
  dsimp only at refused
  split_ifs at refused
  · cases refused
    exact fun same => other (Option.some.inj same)
  · cases refused
    exact fun same => nomatch same

/-! ### The documents of `jsonb` -/

/-- Why `jsonb` refuses a string: a surrogate that stands alone, or U+0000. -/
def JsString.refusal (value : JsString) : Option PgError :=
  if ¬ value.wellFormed then some .invalidJson
  else if ¬ pgText value.text then some .untranslatableJson
  else none

mutual

/-- The first string of a document, names included, that `jsonb` refuses. -/
def Json.refusedString : Json → Option PgError
  | .string value => value.refusal
  | .array items => Json.refusedItem items
  | .object fields => Json.refusedField fields
  | _ => none

def Json.refusedItem : List Json → Option PgError
  | [] => none
  | item :: items => item.refusedString.or (Json.refusedItem items)

def Json.refusedField : List (JsString × Json) → Option PgError
  | [] => none
  | (name, value) :: fields =>
    (name.refusal.or value.refusedString).or (Json.refusedField fields)

end

/-- Why a document cannot be written as `jsonb`, `none` where it is stored. -/
def Json.refusal [PostgresServer] (document : Json) : Option PgError :=
  if ¬ PostgresServer.nests document then some .stackDepth else document.refusedString

/-- The document can be written as `jsonb`. -/
def Json.storable [PostgresServer] (document : Json) : Bool := document.refusal.isNone

/-! ### The constraints of `booking` -/

/-- The strings a row binds to `text` columns. -/
def Booking.texts (row : Booking) : List String :=
  row.guestName.toList ++ row.guestPhone.toList ++ row.guestEmail.toList ++
    row.externalUid.toList

/-- The first CHECK the row itself fails, by name. -/
def Booking.failedCheck (row : Booking) : Option Constraint :=
  if row.guestCount = some 0 then some .bookingGuestCountPositive
  else if ¬ row.checkIn < row.checkOut then some .bookingStayNonempty
  else if ∃ price ∈ row.totalPriceIdr, price < 0 then some .bookingTotalPriceNonneg
  else none

/-- Two rows of one feed event: the partial unique index does not let them coexist. -/
abbrev Booking.SharesExternalUid (first second : Booking) : Prop :=
  first.channelConnectionId.isSome ∧ first.channelConnectionId = second.channelConnectionId ∧
    first.externalUid.isSome ∧ first.externalUid = second.externalUid

/-- The first index in which the row meets another row. -/
def Db.failedIndex (db : Db) (row : Booking) : Option Constraint :=
  if ∃ other ∈ db.booking, other.id ≠ row.id ∧ other.SharesExternalUid row then
    some .bookingExternalUidUniq
  else if ∃ other ∈ db.booking, other.id ≠ row.id ∧ other.Clashes row then
    some .bookingNoOverlap
  else none

/-- The foreign key the row breaks. -/
def Db.failedForeignKey (db : Db) (row : Booking) : Option Constraint :=
  if ¬ ∃ unit ∈ db.unit, unit.id = row.unitId ∧ unit.tenantId = row.tenantId then
    some .bookingUnitTenantFk
  else if ∃ id ∈ row.channelConnectionId, ¬ ∃ conn ∈ db.channelConnection, conn.id = id then
    some .bookingChannelConnectionFk
  else none

/-- Why the entry of a connection and a UID does not fit the partial unique index. -/
def uidIndexRefusal [PostgresServer] (uid : String) : Option PgError :=
  indexRefusal .bookingExternalUidUniq 16 [uid]

/-- Why the row's entry does not fit the partial unique index on the feed's UID, the one index of
the table with a text in it. An entry without a connection holds the UID alone. -/
def Booking.indexRefusal [PostgresServer] (row : Booking) : Option PgError :=
  match row.externalUid, row.channelConnectionId with
  | none, _ => none
  | some uid, some _ => uidIndexRefusal uid
  | some uid, none => Sambung.indexRefusal .bookingExternalUidUniq 0 [uid]

/-- Why a new row is refused, `none` where it is stored. A UID that is stored already fits its
index, so that it does not matter which of the two the index asks first. -/
def Db.bookingRefusal [PostgresServer] (db : Db) (row : Booking) : Option PgError :=
  if ¬ row.texts.all pgText then some .invalidText
  else
    ((row.failedCheck.map .violation).or row.indexRefusal).or
      (((db.failedIndex row).or (db.failedForeignKey row)).map .violation)

/-- `INSERT INTO booking ... RETURNING`. -/
def Db.insertBooking [PostgresServer] (uuids : UuidSource) (values : Uuid → Booking) (db : Db) :
    Except PgError (Booking × Db) :=
  let row := values (uuids.draw (db.booking.map Booking.id))
  match db.bookingRefusal row with
  | some error => .error error
  | none => .ok (row, { db with booking := db.booking ++ [row] })

/-! ### The constraints of `payment_event` -/

/-- Why an event's entry does not fit the unique index on its provider and id. -/
def eventIndexRefusal [PostgresServer] (provider providerEventId : String) : Option PgError :=
  indexRefusal .paymentEventProviderEventUniq 0 [provider, providerEventId]

/-- The strings and the document of an event are ones its columns take, and its id is no longer
than the unique index takes. -/
def PaymentEvent.storable [PostgresServer] (row : PaymentEvent) : Bool :=
  pgText row.provider && pgText row.providerEventId && row.rawPayload.storable &&
    (eventIndexRefusal row.provider row.providerEventId).isNone

/-- No event of this provider has this id yet. -/
def Db.EventUnrecorded (db : Db) (provider providerEventId : String) : Prop :=
  ∀ other ∈ db.paymentEvent,
    ¬ (other.provider = provider ∧ other.providerEventId = providerEventId)

instance (db : Db) (provider providerEventId : String) :
    Decidable (db.EventUnrecorded provider providerEventId) := by
  unfold Db.EventUnrecorded; infer_instance

/-- `INSERT INTO payment_event`. The booking comes from the payment's own foreign key, so
the event's key to it never fails. -/
def Db.insertPaymentEvent [PostgresServer] (row : PaymentEvent) (db : Db) : Except PgError Db :=
  if ¬ (pgText row.provider && pgText row.providerEventId) then .error .invalidText
  else
    match row.rawPayload.refusal with
    | some error => .error error
    | none =>
      if ¬ db.EventUnrecorded row.provider row.providerEventId then
        .error (.violation .paymentEventProviderEventUniq)
      else
        match eventIndexRefusal row.provider row.providerEventId with
        | some error => .error error
        | none => .ok { db with paymentEvent := db.paymentEvent ++ [row] }

/-! ### What an insert does -/

theorem Db.insertBooking_ok [PostgresServer] {uuids : UuidSource} {values : Uuid → Booking}
    {db after : Db} {row : Booking} (stored : db.insertBooking uuids values = .ok (row, after)) :
    row = values (uuids.draw (db.booking.map Booking.id)) ∧ db.bookingRefusal row = none ∧
      after = { db with booking := db.booking ++ [row] } := by
  rw [Db.insertBooking] at stored
  split at stored
  · cases stored
  · rename_i accepted
    cases stored
    exact ⟨rfl, accepted, rfl⟩

theorem Db.bookingRefusal_eq_none [PostgresServer] {db : Db} {row : Booking} :
    db.bookingRefusal row = none ↔
      row.texts.all pgText ∧ row.failedCheck = none ∧ row.indexRefusal = none ∧
        db.failedIndex row = none ∧ db.failedForeignKey row = none := by
  unfold Db.bookingRefusal
  by_cases storable : row.texts.all pgText
  · rw [if_neg (not_not.mpr storable)]
    simp [storable, and_assoc]
  · rw [if_pos storable]
    simp only [storable, false_and, reduceCtorEq, Bool.false_eq_true]

theorem Booking.indexRefusal_of_import [PostgresServer] {row : Booking} {connectionId : Uuid}
    {uid : String} (connection : row.channelConnectionId = some connectionId)
    (named : row.externalUid = some uid) : row.indexRefusal = uidIndexRefusal uid := by
  rw [Booking.indexRefusal, connection, named]

theorem Booking.indexRefusal_ne_overlap [PostgresServer] {row : Booking} {error : PgError}
    (refused : row.indexRefusal = some error) : error.constraint ≠ some .bookingNoOverlap := by
  unfold Booking.indexRefusal at refused
  split at refused
  · cases refused
  · exact Sambung.indexRefusal_ne_overlap (by decide) refused
  · exact Sambung.indexRefusal_ne_overlap (by decide) refused

theorem Booking.failedCheck_eq_none {row : Booking} :
    row.failedCheck = none ↔
      row.guestCount ≠ some 0 ∧ row.checkIn < row.checkOut ∧
        ∀ price ∈ row.totalPriceIdr, 0 ≤ price := by
  unfold Booking.failedCheck
  split
  · simp_all
  · split
    · simp_all
    · split
      · simp_all
      · simp_all

theorem Db.failedIndex_eq_none {db : Db} {row : Booking} :
    db.failedIndex row = none ↔
      (∀ other ∈ db.booking, other.id ≠ row.id → ¬ other.SharesExternalUid row) ∧
        ∀ other ∈ db.booking, other.id ≠ row.id → ¬ other.Clashes row := by
  unfold Db.failedIndex
  split
  · rename_i shared
    obtain ⟨other, member, apart, sharing⟩ := shared
    simp only [reduceCtorEq, false_iff]
    exact fun unshared => unshared.1 other member apart sharing
  · rename_i unshared
    split
    · rename_i clashing
      obtain ⟨other, member, apart, clash⟩ := clashing
      simp only [reduceCtorEq, false_iff]
      exact fun free => free.2 other member apart clash
    · rename_i free
      simp only [true_iff]
      exact ⟨fun other member apart sharing => unshared ⟨other, member, apart, sharing⟩,
        fun other member apart clash => free ⟨other, member, apart, clash⟩⟩

theorem Booking.failedCheck_ne_overlap (row : Booking) :
    row.failedCheck ≠ some .bookingNoOverlap := by
  unfold Booking.failedCheck
  split_ifs
  all_goals exact fun refused => nomatch refused

theorem Db.failedForeignKey_ne_overlap (db : Db) (row : Booking) :
    db.failedForeignKey row ≠ some .bookingNoOverlap := by
  unfold Db.failedForeignKey
  split_ifs
  all_goals exact fun refused => nomatch refused

/-- A row `booking_no_overlap` refuses has passed its own checks and has entered the index on the
feed's UID. -/
theorem Db.bookingRefusal_overlap [PostgresServer] {db : Db} {row : Booking} {error : PgError}
    (refused : db.bookingRefusal row = some error)
    (overlap : error.constraint = some .bookingNoOverlap) :
    row.failedCheck = none ∧ row.indexRefusal = none ∧
      db.failedIndex row = some .bookingNoOverlap := by
  unfold Db.bookingRefusal at refused
  split at refused
  · cases refused
    cases overlap
  · rcases Option.or_eq_some_iff.mp refused with early | ⟨passed, late⟩
    · rcases Option.or_eq_some_iff.mp early with checked | ⟨-, oversize⟩
      · obtain ⟨constraint, failed, rfl⟩ := Option.map_eq_some_iff.mp checked
        cases overlap
        exact absurd failed row.failedCheck_ne_overlap
      · exact absurd overlap (Booking.indexRefusal_ne_overlap oversize)
    · obtain ⟨constraint, failed, rfl⟩ := Option.map_eq_some_iff.mp late
      cases overlap
      rcases Option.or_eq_some_iff.mp failed with indexed | ⟨-, linked⟩
      · obtain ⟨checked, entered⟩ := Option.or_eq_none_iff.mp passed
        exact ⟨Option.map_eq_none_iff.mp checked, entered, indexed⟩
      · exact absurd linked (db.failedForeignKey_ne_overlap row)

/-- An event is stored where its values fit their columns and its id is new. -/
theorem Db.insertPaymentEvent_eq_ok [PostgresServer] {db after : Db} {row : PaymentEvent} :
    db.insertPaymentEvent row = .ok after ↔
      (row.storable ∧ db.EventUnrecorded row.provider row.providerEventId) ∧
        after = { db with paymentEvent := db.paymentEvent ++ [row] } := by
  unfold Db.insertPaymentEvent PaymentEvent.storable Json.storable
  by_cases texts : (pgText row.provider && pgText row.providerEventId) = true
  · cases document : row.rawPayload.refusal with
    | some error => simp [texts]
    | none =>
      by_cases unrecorded : db.EventUnrecorded row.provider row.providerEventId
      · cases entry : eventIndexRefusal row.provider row.providerEventId with
        | some error => simp [texts, unrecorded]
        | none => simp [texts, unrecorded, eq_comm]
      · simp [texts, unrecorded]
  · simp [texts]

/-! ### A stored table -/

/-- Every stored booking meets the constraints of its table and has its entry in each index. -/
structure Db.BookingsLawful [PostgresServer] (db : Db) : Prop where
  keyed : (db.booking.map Booking.id).Nodup
  checked : ∀ row ∈ db.booking, row.failedCheck = none
  entered : ∀ row ∈ db.booking, row.indexRefusal = none
  indexed : ∀ row ∈ db.booking, db.failedIndex row = none
  linked : ∀ row ∈ db.booking, db.failedForeignKey row = none

/-- The database without the bookings of these ids. -/
def Db.withoutBookings (ids : List Uuid) (db : Db) : Db :=
  { db with booking := db.booking.filter fun row => row.id ∉ ids }

theorem Db.mem_withoutBookings {ids : List Uuid} {db : Db} {row : Booking} :
    row ∈ (db.withoutBookings ids).booking ↔ row ∈ db.booking ∧ row.id ∉ ids := by
  simp [Db.withoutBookings]

/-- A deletion breaks no constraint of the rows it leaves. -/
theorem Db.BookingsLawful.withoutBookings [PostgresServer] {db : Db} (lawful : db.BookingsLawful)
    (ids : List Uuid) : (db.withoutBookings ids).BookingsLawful where
  keyed := lawful.keyed.sublist (List.filter_sublist.map Booking.id)
  checked row member := lawful.checked row (Db.mem_withoutBookings.mp member).1
  entered row member := lawful.entered row (Db.mem_withoutBookings.mp member).1
  indexed row member := by
    obtain ⟨shared, clashes⟩ :=
      Db.failedIndex_eq_none.mp (lawful.indexed row (Db.mem_withoutBookings.mp member).1)
    refine Db.failedIndex_eq_none.mpr ⟨fun other otherMember => ?_, fun other otherMember => ?_⟩
    · exact shared other (Db.mem_withoutBookings.mp otherMember).1
    · exact clashes other (Db.mem_withoutBookings.mp otherMember).1
  linked row member := lawful.linked row (Db.mem_withoutBookings.mp member).1

end Sambung
