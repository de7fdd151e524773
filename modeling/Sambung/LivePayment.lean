/-
This file proves that a booking has one live payment at most.

No constraint of the database says so. A pay call locks the booking, reads that it
is pending, finds no open session and only then asks the gateway, and the lock is
held until its payment is committed, so no other pay call looks in between. A
delivery takes no such lock, but the one that marks a payment paid confirms the
booking in the same commit, and a booking that is not pending is never paid for
again.

The invariant, `Billed`, speaks of one booking and is kept by every effect of a
commit. Beside the count it keeps the amount: the deposit share of the booking's
total, rounded down, which nothing changes once the booking stands. What a call
answers is on record with the session it found and the gateway calls it made, so
that reuse and failure are facts about the record and not about a branch of the
code.
-/

import Sambung.Ledger
import Sambung.Serial

namespace Sambung

/-! ### One live payment -/

/-- The booking has one payment at most that did not fail, and none that is paid while the booking
is pending. -/
structure Db.OneLive (db : Db) (bookingId : Uuid) : Prop where
  live : (db.payment.filter fun row => row.bookingId = bookingId ∧ row.status ≠ .failed).length ≤ 1
  unpaid : db.bookingStatus bookingId = some .pendingPayment →
    ∀ row ∈ db.payment, row.bookingId = bookingId → row.status ≠ .paid

/-- A booking that has not been paid for yet. -/
theorem Db.oneLive_of_unpaid {db : Db} {bookingId : Uuid}
    (none : ∀ row ∈ db.payment, row.bookingId ≠ bookingId) : db.OneLive bookingId where
  live := by
    rw [List.filter_eq_nil_iff.mpr fun row member => by simp [none row member]]
    exact Nat.zero_le 1
  unpaid _ row member ofBooking := absurd ofBooking (none row member)

section Steps

variable {db after : Db} {bookingId : Uuid}

/-- A change of bookings that makes none pending leaves the one live payment of a booking. -/
theorem Db.OneLive.bookings (one : db.OneLive bookingId) (same : after.payment = db.payment)
    (lapsed : db.bookingStatus bookingId ≠ some .pendingPayment →
      after.bookingStatus bookingId ≠ some .pendingPayment) : after.OneLive bookingId where
  live := by
    rw [same]
    exact one.live
  unpaid pending := by
    rw [same]
    exact one.unpaid (not_not.mp fun before => lapsed before pending)

/-- A decided payment leaves one live payment, if a paid one leaves its booking decided. -/
theorem Db.OneLive.settle (one : db.OneLive bookingId) {pay : Payment} {status : PaymentStatus}
    (known : ∀ row ∈ db.payment, row.id = pay.id → row.bookingId = pay.bookingId)
    (paid : status = .paid → pay.bookingId = bookingId →
      db.bookingStatus bookingId ≠ some .pendingPayment) :
    (db.settlePayment pay.id status).OneLive bookingId where
  live := by
    refine (Table.length_filter_updateWhere_le fun row member matched meets => ?_).trans one.live
    simp only [decide_eq_true_eq] at meets ⊢
    refine ⟨meets.1, ?_⟩
    rw [matched.2]
    exact fun same => nomatch same
  unpaid pending := by
    intro row member ofBooking
    obtain ⟨before, beforeMember, rfl⟩ := Table.mem_updateWhere.mp member
    split at ofBooking
    · rename_i matched
      rw [if_pos matched]
      rintro rfl
      exact paid rfl ((known before beforeMember matched.1).symm.trans ofBooking) pending
    · rename_i unmatched
      rw [if_neg unmatched]
      exact one.unpaid pending before beforeMember ofBooking

/-- A payment minted where the booking has no live one. -/
theorem Db.OneLive.mint (one : db.OneLive bookingId) {row : Payment}
    (pending : row.status = .pending)
    (first : row.bookingId = bookingId → ∀ other ∈ db.payment, other.bookingId = bookingId →
      other.status = .failed) :
    ({ db with payment := db.payment ++ [row] } : Db).OneLive bookingId where
  live := by
    rw [List.filter_append, List.length_append]
    by_cases ofBooking : row.bookingId = bookingId
    · have none : (db.payment.filter fun other =>
          other.bookingId = bookingId ∧ other.status ≠ .failed) = [] := by
        refine List.filter_eq_nil_iff.mpr fun other member => ?_
        simp only [decide_eq_true_eq, not_and, not_not]
        exact first ofBooking other member
      rw [none, List.length_nil, Nat.zero_add]
      exact (List.length_filter_le _ _).trans (Nat.le_refl 1)
    · have none : ([row].filter fun other =>
          other.bookingId = bookingId ∧ other.status ≠ .failed) = [] := by
        refine List.filter_eq_nil_iff.mpr fun other member => ?_
        simp only [decide_eq_true_eq]
        exact fun both => ofBooking (List.mem_singleton.mp member ▸ both.1)
      rw [none, List.length_nil, Nat.add_zero]
      exact one.live
  unpaid unpaid := by
    intro other member ofBooking
    rcases List.mem_append.mp member with old | new
    · exact one.unpaid unpaid other old ofBooking
    · rw [List.mem_singleton.mp new, pending]
      exact fun same => nomatch same

end Steps

section Commits

variable {env : PayEnvironment} {db after : Db} {entries : List Entry} {bookingId : Uuid}

/-- The rows under a named payment's id belong to its booking. -/
theorem ParsedPaymentEvent.Names.ofBooking {event : ParsedPaymentEvent} {pay : Payment}
    (named : event.Names pay db) (payments : (db.payment.map Payment.id).Nodup) :
    ∀ row ∈ db.payment, row.id = pay.id → row.bookingId = pay.bookingId := by
  obtain ⟨found, known, sameId, sameBooking, -⟩ := named
  obtain ⟨orderId, -, byId⟩ := Option.bind_eq_some_iff.mp known
  obtain ⟨foundMember, -⟩ := Table.mem_of_byKey byId
  intro row member same
  rw [Table.eq_of_key payments member foundMember (same.trans sameId.symm)]
  exact sameBooking

/-- Applying an event leaves one live payment: it decides a payment of the booking, and where it
pays it the booking is decided with it. -/
theorem Db.OneLive.applyOutcome (one : db.OneLive bookingId) {event : ParsedPaymentEvent}
    {pay : Payment} (known : ∀ row ∈ db.payment, row.id = pay.id → row.bookingId = pay.bookingId) :
    (applyOutcome event pay db).2.OneLive bookingId := by
  rw [applyOutcome_database]
  split
  · cases event.outcome with
    | settlement =>
      show ((db.confirmBooking pay.bookingId).settlePayment pay.id .paid).OneLive bookingId
      have confirmed : (db.confirmBooking pay.bookingId).OneLive bookingId :=
        one.bookings rfl fun decided => by
          rw [bookingStatus_confirm pay.bookingId decided]
          exact decided
      refine confirmed.settle known fun _ same => ?_
      rw [← same]
      exact confirmBooking_decided db pay.bookingId
    | failure => exact one.settle known fun same => nomatch same
    | pending => exact one
    | ignore => exact one
  · exact one

/-- Every commit leaves a booking with one live payment at most: a mint had looked under the
booking's lock, and a payment is paid by the commit that decides its booking. -/
theorem Commit.oneLive [PostgresServer] (commit : Commit env db entries after)
    (payments : (db.payment.map Payment.id).Nodup) (one : db.OneLive bookingId) :
    after.OneLive bookingId := by
  have lapsed : ∀ {id : Uuid}, db.bookingStatus id ≠ some .pendingPayment →
      after.bookingStatus id ≠ some .pendingPayment := commit.lapsed
  cases commit with
  | nothing => exact one
  | unknown event => exact one
  | announce bookingId => exact one
  | update status ids writes updates => exact one.bookings rfl lapsed
  | reuse call opened gatewayCalls response framed ids writes updates =>
    exact one.bookings rfl lapsed
  | event event pay named recordable =>
    have recorded : (db.recordEvent (event.row env.gateway.provider pay.bookingId)).OneLive
        bookingId := one.bookings rfl id
    exact recorded.applyOutcome (named.ofBooking payments)
  | mint call gatewayCalls response framed ids writes updates row mints =>
    have swept : (db.setBookingStatus .expired fun booking => booking.id ∈ ids).OneLive bookingId :=
      one.bookings rfl updates.lapsed
    refine swept.mint mints.pending fun ofBooking other member ofOther => ?_
    obtain ⟨totalPriceIdr, depositPct, payable, -⟩ := mints.payable
    have same : call.bookingId = bookingId := mints.ofBooking.symm.trans ofBooking
    have notPending := mints.unopened other member (ofOther.trans same.symm)
    have notPaid := one.unpaid (same ▸ payable.pending) other member ofOther
    cases status : other.status with
    | pending => exact absurd status notPending
    | paid => exact absurd status notPaid
    | failed => rfl

end Commits

/-! ### The amount -/

/-- The amount is the deposit share of the booking's total, rounded down. -/
def Db.Deposit (db : Db) (bookingId : Uuid) (amountIdr : BigInt) : Prop :=
  ∃ booking unit property totalPriceIdr, db.bookingById bookingId = some booking ∧
    booking.totalPriceIdr = some totalPriceIdr ∧ unit ∈ db.unit ∧ unit.id = booking.unitId ∧
    property ∈ db.property ∧ property.id = unit.propertyId ∧
    amountIdr = totalPriceIdr * property.depositPct / 100 ∧ amountIdr ≤ totalPriceIdr

/-- What the constraints of the tables promise of the rows a deposit comes from. -/
structure Db.DepositsLawful (db : Db) : Prop where
  bookings : (db.booking.map Booking.id).Nodup
  payments : (db.payment.map Payment.id).Nodup
  depositPct : ∀ property ∈ db.property, 1 ≤ property.depositPct ∧ property.depositPct ≤ 100
  totalPrice : ∀ row ∈ db.booking, ∀ totalPriceIdr ∈ row.totalPriceIdr, 0 ≤ totalPriceIdr

/-- The two databases take the same deposit for every booking. -/
structure SamePrices (db after : Db) : Prop where
  property : after.property = db.property
  unit : after.unit = db.unit
  booking : ∀ id, (after.bookingById id).map (fun row => (row.unitId, row.totalPriceIdr)) =
    (db.bookingById id).map fun row => (row.unitId, row.totalPriceIdr)

section Amount

variable {env : PayEnvironment} {db after : Db} {entries : List Entry} {bookingId : Uuid}

theorem SamePrices.trans {a b c : Db} (first : SamePrices a b) (second : SamePrices b c) :
    SamePrices a c :=
  ⟨second.property.trans first.property, second.unit.trans first.unit,
    fun id => (second.booking id).trans (first.booking id)⟩

/-- A change of statuses keeps every price, and so the deposit of every booking. -/
theorem samePrices_setBookingStatus (status : BookingStatus) (condition : Booking → Prop)
    [DecidablePred condition] (db : Db) :
    SamePrices db (db.setBookingStatus status condition) where
  property := rfl
  unit := rfl
  booking id := by
    rw [Db.bookingById_setBookingStatus, Option.map_map]
    congr 1
    funext row
    show ((if _ then _ else _ : Booking).unitId, (if _ then _ else _ : Booking).totalPriceIdr) = _
    split
    · rfl
    · rfl

theorem Commit.samePrices [PostgresServer] (commit : Commit env db entries after) :
    SamePrices db after := by
  cases commit with
  | nothing => exact ⟨rfl, rfl, fun _ => rfl⟩
  | unknown event => exact ⟨rfl, rfl, fun _ => rfl⟩
  | announce bookingId => exact ⟨rfl, rfl, fun _ => rfl⟩
  | update status ids writes updates => exact samePrices_setBookingStatus _ _ db
  | reuse call opened gatewayCalls response framed ids writes updates =>
    exact samePrices_setBookingStatus _ _ db
  | mint call gatewayCalls response framed ids writes updates row mints =>
    have swept := samePrices_setBookingStatus .expired (fun booking => booking.id ∈ ids) db
    exact ⟨swept.property, swept.unit, swept.booking⟩
  | event event pay named recordable =>
    rw [applyOutcome_database]
    split
    · cases event.outcome with
      | settlement =>
        have confirmed := samePrices_setBookingStatus .confirmed
          (Booking.Confirmable pay.bookingId) db
        exact ⟨confirmed.property, confirmed.unit, confirmed.booking⟩
      | failure => exact ⟨rfl, rfl, fun _ => rfl⟩
      | pending => exact ⟨rfl, rfl, fun _ => rfl⟩
      | ignore => exact ⟨rfl, rfl, fun _ => rfl⟩
    · exact ⟨rfl, rfl, fun _ => rfl⟩

/-- For money that is not negative the share is rounded down, and is the total at most. -/
theorem depositAmountIdr_eq {totalPriceIdr : BigInt} {pct : Nat} (total : 0 ≤ totalPriceIdr)
    (share : pct ≤ 100) :
    depositAmountIdr totalPriceIdr pct = totalPriceIdr * pct / 100 ∧
      depositAmountIdr totalPriceIdr pct ≤ totalPriceIdr := by
  have nonneg : 0 ≤ totalPriceIdr * (pct : Int) := Int.mul_nonneg total (Int.natCast_nonneg pct)
  have floored : depositAmountIdr totalPriceIdr pct = totalPriceIdr * pct / 100 :=
    Int.tdiv_eq_ediv_of_nonneg nonneg
  refine ⟨floored, ?_⟩
  rw [floored]
  refine Int.ediv_le_of_le_mul (by decide) ?_
  exact Int.mul_le_mul_of_nonneg_left (by omega) total

/-- A deposit is not negative, and the total of its booking at most. -/
theorem Db.Deposit.bounds {start : Db} {amountIdr : BigInt}
    (deposit : start.Deposit bookingId amountIdr) (lawful : start.DepositsLawful) :
    0 ≤ amountIdr ∧ ∃ booking totalPriceIdr, start.bookingById bookingId = some booking ∧
      booking.totalPriceIdr = some totalPriceIdr ∧ amountIdr ≤ totalPriceIdr := by
  obtain ⟨booking, unit, property, totalPriceIdr, found, total, -, -, -, -, rfl, below⟩ := deposit
  refine ⟨?_, booking, totalPriceIdr, found, total, below⟩
  have nonneg := lawful.totalPrice booking (Table.mem_of_byKey found).1 totalPriceIdr total
  exact Int.ediv_nonneg (Int.mul_nonneg nonneg (Int.natCast_nonneg _)) (by decide)

/-- A mint takes the deposit in force, the one the start has for the booking, since no commit
changes a price. -/
theorem PayCall.Mints.deposit {start : Db} {call : PayCall} {row : Payment} {ids : List Uuid}
    (mints : call.Mints row ids db) (lawful : start.DepositsLawful)
    (bookings : (db.booking.map Booking.id).Nodup) (same : SamePrices start db) :
    start.Deposit call.bookingId row.amountIdr := by
  obtain ⟨totalPriceIdr, depositPct, payable, amount⟩ := mints.payable
  obtain ⟨ctx, loaded, total, rfl⟩ := payable.loaded
  unfold lockAndLoad at loaded
  simp only [Option.bind_eq_bind, Option.bind_eq_some_iff] at loaded
  obtain ⟨booking, foundBooking, unit, foundUnit, property, foundProperty, built⟩ := loaded
  rw [Db.find_booking bookings] at foundBooking
  obtain ⟨found, -⟩ := Option.filter_eq_some_iff.mp foundBooking
  cases Option.some.inj built
  have foundStart := same.booking call.bookingId
  rw [found, Option.map_some, eq_comm, Option.map_eq_some_iff] at foundStart
  obtain ⟨first, foundFirst, terms⟩ := foundStart
  obtain ⟨sameUnit, sameTotal⟩ := Prod.mk.inj terms
  have unitMember := List.mem_of_find?_eq_some foundUnit
  have propertyMember := List.mem_of_find?_eq_some foundProperty
  rw [same.unit] at unitMember
  rw [same.property] at propertyMember
  have ofBooking : unit.id = booking.unitId := by
    have matched := List.find?_some foundUnit
    simp only [decide_eq_true_eq] at matched
    exact matched.1
  have ofUnit : property.id = unit.propertyId := by
    have matched := List.find?_some foundProperty
    simp only [decide_eq_true_eq] at matched
    exact matched.1
  have firstTotal : first.totalPriceIdr = some totalPriceIdr := sameTotal.trans total
  obtain ⟨floored, below⟩ := depositAmountIdr_eq
    (lawful.totalPrice first (Table.mem_of_byKey foundFirst).1 totalPriceIdr firstTotal)
    (lawful.depositPct property propertyMember).2
  refine ⟨first, unit, property, totalPriceIdr, foundFirst, firstTotal, unitMember,
    ofBooking.trans sameUnit.symm, propertyMember, ofUnit, ?_, ?_⟩
  · rw [amount]
    exact floored
  · rw [amount]
    exact below

/-- A commit changes payments in their status at most, and mints one for a booking that is pending
before it and after it. -/
theorem Commit.payments [PostgresServer] (commit : Commit env db entries after)
    {property : Payment → Prop}
    (steady : ∀ (row : Payment) (status : PaymentStatus), property row →
      property { row with status })
    (before : ∀ row ∈ db.payment, property row)
    (minted : ∀ call ids row, PayCall.Mints call row ids db → property row) :
    ∀ row ∈ after.payment, property row := by
  cases commit with
  | nothing => exact before
  | unknown event => exact before
  | announce bookingId => exact before
  | update status ids writes updates => exact before
  | reuse call opened gatewayCalls response framed ids writes updates => exact before
  | mint call gatewayCalls response framed ids writes updates row mints =>
    intro other member
    rcases List.mem_append.mp member with old | new
    · exact before other old
    · rw [List.mem_singleton.mp new]
      exact minted call ids row mints
  | event event pay named recordable =>
    have settled : ∀ status, ∀ row ∈ (db.settlePayment pay.id status).payment, property row :=
      fun status => Table.forall_updateWhere before fun row _ _ holds => steady row status holds
    rw [applyOutcome_database]
    split
    · cases event.outcome with
      | settlement => exact settled .paid
      | failure => exact settled .failed
      | pending => exact before
      | ignore => exact before
    · exact before

theorem applyOutcome_paymentIds (event : ParsedPaymentEvent) (pay : Payment) (db : Db) :
    (applyOutcome event pay db).2.payment.map Payment.id = db.payment.map Payment.id := by
  have settled : ∀ status, (db.settlePayment pay.id status).payment.map Payment.id =
      db.payment.map Payment.id := fun status => Table.map_updateWhere Payment.id fun _ _ => rfl
  rw [applyOutcome_database]
  split
  · cases event.outcome with
    | settlement => exact settled .paid
    | failure => exact settled .failed
    | pending => rfl
    | ignore => rfl
  · rfl

/-- A new payment's booking is pending before its commit and after it. -/
theorem Commit.mints [PostgresServer] (commit : Commit env db entries after) :
    ∀ row ∈ after.payment, row.id ∉ db.payment.map Payment.id →
      db.bookingStatus row.bookingId = some .pendingPayment ∧
        after.bookingStatus row.bookingId = some .pendingPayment := by
  have known : after.payment.map Payment.id = db.payment.map Payment.id →
      ∀ row ∈ after.payment, row.id ∉ db.payment.map Payment.id →
        db.bookingStatus row.bookingId = some .pendingPayment ∧
          after.bookingStatus row.bookingId = some .pendingPayment := by
    intro same row member new
    rw [← same] at new
    exact absurd (List.mem_map_of_mem member) new
  cases commit with
  | nothing => exact known rfl
  | unknown event => exact known rfl
  | announce bookingId => exact known rfl
  | update status ids writes updates => exact known rfl
  | reuse call opened gatewayCalls response framed ids writes updates => exact known rfl
  | event event pay named recordable => exact known (applyOutcome_paymentIds event pay _)
  | mint call gatewayCalls response framed ids writes updates row mints =>
    intro other member new
    rcases List.mem_append.mp member with old | minted
    · exact absurd (List.mem_map_of_mem old) new
    · obtain ⟨totalPriceIdr, depositPct, payable, -⟩ := mints.payable
      rw [List.mem_singleton.mp minted, mints.ofBooking]
      refine ⟨payable.pending, ?_⟩
      show (db.setBookingStatus .expired _).bookingStatus call.bookingId = _
      rw [bookingStatus_update, payable.pending, Option.map_some, if_neg payable.unswept]

theorem Commit.framed [PostgresServer] (commit : Commit env db entries after) {call : PayCall}
    {found : Option OpenSession} {gatewayCalls : Nat} {response : PaymentSessionResponse}
    (member : .paid call found gatewayCalls response ∈ entries) :
    Framed env found gatewayCalls response := by
  cases commit with
  | nothing | update => exact (List.not_mem_nil member).elim
  | unknown | announce | event => cases List.mem_singleton.mp member
  | reuse call opened gatewayCalls response framed ids writes updates =>
    cases List.mem_singleton.mp member
    exact framed
  | mint call gatewayCalls response framed ids writes updates row mints =>
    cases List.mem_singleton.mp member
    exact framed

end Amount

/-! ### Runs -/

/-- One live payment of a booking, at the deposit in force, however its calls interleave. -/
structure LivePayment [PostgresServer] (env : PayEnvironment) (start : Db) (bookingId : Uuid)
    (shared : Shared) :
    Prop where
  /-- At most one payment of the booking has not failed. -/
  live : (shared.db.payment.filter fun row =>
    row.bookingId = bookingId ∧ row.status ≠ .failed).length ≤ 1
  /-- Every payment minted since has the share of the total, rounded down, and no more. -/
  priced : ∀ row ∈ shared.db.payment, row.bookingId = bookingId →
    row.id ∉ start.payment.map Payment.id → start.Deposit bookingId row.amountIdr
  /-- The shares and totals are the ones the payments were minted under. -/
  prices : SamePrices start shared.db
  /-- A payment is inserted only while the booking is pending. -/
  inserted : ∀ party after, Step env shared party after → ∀ row ∈ after.db.payment,
    row.id ∉ shared.db.payment.map Payment.id →
    shared.db.bookingStatus row.bookingId = some .pendingPayment ∧
      after.db.bookingStatus row.bookingId = some .pendingPayment
  /-- The gateway is asked only where the booking has no open session. -/
  asked : ∀ party txn call totalPriceIdr depositPct, shared.txns party = some txn →
    txn.phase = .unminted call totalPriceIdr depositPct → shared.db.Unopened call.bookingId
  /-- A call the gateway opens no session for is gone, and the database is as it was. -/
  refused : ∀ party txn after call totalPriceIdr depositPct, shared.txns party = some txn →
    txn.phase = .unminted call totalPriceIdr depositPct → Step env shared party after →
    after.db = shared.db ∧ after.log = shared.log ∧
      (after.txns party = none ∨ ∃ session writes lock, after.txns party =
        some ⟨.sessioned call totalPriceIdr depositPct session, writes, lock⟩)
  /-- A call that finds an open session answers with it and asks the gateway nothing. -/
  found : ∀ party txn after call totalPriceIdr depositPct opened, shared.txns party = some txn →
    txn.phase = .payable call totalPriceIdr depositPct →
    findOpenSession call.bookingId (withWrites txn.writes shared.db) = .ok (some opened) →
    Step env shared party after → after.db = shared.db ∧
      (after.txns party = none ∨ ∃ response writes lock, after.txns party =
        some ⟨.answered call (some opened) 0 response, writes, lock⟩)
  /-- What it answers with is that session, as it is on record. -/
  reused : ∀ call opened gatewayCalls response,
    .paid call (some opened) gatewayCalls response ∈ shared.log → gatewayCalls = 0 ∧
      response.token = opened.token ∧ response.redirectUrl = opened.redirectUrl ∧
      response.amountIdr = opened.amountIdr ∧ response.provider = opened.provider

section Run

variable {env : PayEnvironment} {shared : Shared} {bookingId : Uuid}

/-- What a run keeps of a booking's payments. -/
structure Billed (env : PayEnvironment) (start : Db) (bookingId : Uuid) (shared : Shared) :
    Prop where
  one : shared.db.OneLive bookingId
  prices : SamePrices start shared.db
  priced : ∀ row ∈ shared.db.payment,
    (∃ old ∈ start.payment, old.id = row.id ∧ old.bookingId = row.bookingId) ∨
      start.Deposit row.bookingId row.amountIdr
  framed : ∀ call found gatewayCalls response,
    .paid call found gatewayCalls response ∈ shared.log → Framed env found gatewayCalls response

theorem Billed.step [PostgresServer] {start : Db} {party : Nat} {after : Shared}
    {entries : List Entry} (billed : Billed env start bookingId shared)
    (lawful : start.DepositsLawful) (sound : shared.Sound env)
    (effect : Effect env shared party after entries) :
    Billed env start bookingId after where
  one := effect.commit.oneLive sound.payments billed.one
  prices := billed.prices.trans effect.commit.samePrices
  priced := by
    refine effect.commit.payments (fun row status holds => holds) billed.priced ?_
    intro call ids row mints
    rw [mints.ofBooking]
    exact Or.inr (mints.deposit lawful sound.bookings billed.prices)
  framed call found gatewayCalls response member := by
    rw [effect.log, List.mem_append] at member
    rcases member with old | new
    · exact billed.framed call found gatewayCalls response old
    · exact effect.commit.framed new

/-- A call that asks the gateway goes on with a session or is gone, and commits nothing yet. -/
theorem Step.refused [PostgresServer] {party : Nat} {txn : Txn} {after : Shared} {call : PayCall}
    {totalPriceIdr : BigInt} {depositPct : Nat} (runs : shared.txns party = some txn)
    (asks : txn.phase = .unminted call totalPriceIdr depositPct)
    (step : Step env shared party after) :
    after.db = shared.db ∧ after.log = shared.log ∧
      (after.txns party = none ∨ ∃ session writes lock, after.txns party =
        some ⟨.sessioned call totalPriceIdr depositPct session, writes, lock⟩) := by
  obtain ⟨phase, writes, lock⟩ := txn
  cases asks
  cases step with
  | openSession other total pct snap session otherWrites otherRuns rupiah opened =>
    cases Option.some.inj (otherRuns.symm.trans runs)
    exact ⟨rfl, rfl, Or.inr ⟨session, _, _, Function.update_self ..⟩⟩
  | refuseSession other total pct snap thrown otherWrites otherRuns refused =>
    exact ⟨rfl, rfl, Or.inl (Function.update_self ..)⟩
  | crash txn otherRuns => exact ⟨rfl, rfl, Or.inl (Function.update_self ..)⟩
  | receive idle | ask idle | update idle =>
    rw [idle] at runs
    cases runs
  | _ => simp_all

/-- A call that finds an open session answers with it or is gone. -/
theorem Step.found [PostgresServer] {party : Nat} {txn : Txn} {after : Shared} {call : PayCall}
    {totalPriceIdr : BigInt} {depositPct : Nat} {opened : OpenSession}
    (runs : shared.txns party = some txn)
    (searches : txn.phase = .payable call totalPriceIdr depositPct)
    (found : findOpenSession call.bookingId (withWrites txn.writes shared.db) = .ok (some opened))
    (step : Step env shared party after) :
    after.db = shared.db ∧ (after.txns party = none ∨ ∃ response writes lock,
      after.txns party = some ⟨.answered call (some opened) 0 response, writes, lock⟩) := by
  obtain ⟨phase, writes, lock⟩ := txn
  cases searches
  cases step with
  | reuse other total pct session response otherWrites otherRuns otherFound framed =>
    cases Option.some.inj (otherRuns.symm.trans runs)
    cases Option.some.inj (Except.ok.inj (otherFound.symm.trans found))
    exact ⟨rfl, Or.inr ⟨response, _, _, Function.update_self ..⟩⟩
  | search other total pct otherWrites otherRuns absent =>
    cases Option.some.inj (otherRuns.symm.trans runs)
    cases absent.symm.trans found
  | crash txn otherRuns => exact ⟨rfl, Or.inl (Function.update_self ..)⟩
  | receive idle | ask idle | update idle =>
    rw [idle] at runs
    cases runs
  | _ => simp_all

/-- What a run from a booking with one live payment keeps. -/
theorem Reached.billed [PostgresServer] {db : Db} (run : Reached env (Shared.start db) shared)
    (lawful : db.DepositsLawful) (one : db.OneLive bookingId) :
    shared.Sound env ∧ Billed env db bookingId shared := by
  have first : Billed env db bookingId (Shared.start db) :=
    ⟨one, ⟨rfl, rfl, fun _ => rfl⟩,
      fun row member => Or.inl ⟨row, member, rfl, rfl⟩,
      fun _ _ _ _ member => (List.not_mem_nil member).elim⟩
  exact run.induction (Shared.sound_start lawful.bookings lawful.payments)
    (Billed env db bookingId) first
    fun _ _ _ _ before known effect => known.step lawful before effect

/-- However pays, deliveries, reads, sweeps and cancels interleave, a booking has one live payment
at most, at the deposit in force. The calls step through their statements under the row locks, and a
gateway may refuse a session or never answer. At the start keys and amounts are lawful and the
booking has one live payment at most, as one that was never paid for does. -/
theorem one_live_payment [PostgresServer] {db : Db} (lawful : db.DepositsLawful)
    (one : db.OneLive bookingId) (run : Reached env (Shared.start db) shared) :
    LivePayment env db bookingId shared := by
  obtain ⟨sound, billed⟩ := run.billed lawful one
  refine {
    live := billed.one.live
    priced := fun row member ofBooking new => ?_
    prices := billed.prices
    inserted := fun party after step => ?_
    asked := fun party txn call totalPriceIdr depositPct runs asks => ?_
    refused := fun party txn after call totalPriceIdr depositPct runs asks step =>
      step.refused runs asks
    found := fun party txn after call totalPriceIdr depositPct opened runs searches found step =>
      step.found runs searches found
    reused := fun call opened gatewayCalls response member =>
      billed.framed call (some opened) gatewayCalls response member }
  · rcases billed.priced row member with ⟨old, oldMember, sameId, -⟩ | priced
    · exact absurd (sameId ▸ List.mem_map_of_mem oldMember) new
    · exact ofBooking ▸ priced
  · obtain ⟨entries, effect⟩ := step.effect sound
    exact effect.commit.mints
  · have call := sound.calls party txn runs
    unfold Txn.Sound at call
    rw [asks] at call
    exact call.2.1

end Run

/-! ### The villa's deposit -/

attribute [local instance] PostgresServer.uncompressed

theorem villaUnpaid_deposits : villaUnpaid.DepositsLawful where
  bookings := by decide
  payments := by decide
  depositPct := by decide
  totalPrice := by decide

/-- A shared state with two parties at most. -/
def Shared.duo (db : Db) (first second : Option Txn) (log : List Entry) : Shared :=
  ⟨db, fun party => if party = 0 then first else if party = 1 then second else none, log⟩

theorem Shared.duo_first (db : Db) (first second next : Option Txn) (log : List Entry) :
    Function.update (Shared.duo db first second log).txns 0 next =
      (Shared.duo db next second log).txns := by
  funext party
  by_cases isFirst : party = 0
  · rw [isFirst]
    rfl
  · rw [Function.update_of_ne isFirst]
    exact (if_neg isFirst).trans (if_neg isFirst).symm

theorem Shared.duo_second (db : Db) (first second next : Option Txn) (log : List Entry) :
    Function.update (Shared.duo db first second log).txns 1 next =
      (Shared.duo db first next log).txns := by
  funext party
  by_cases isSecond : party = 1
  · rw [isSecond]
    rfl
  · rw [Function.update_of_ne isSecond]
    unfold Shared.duo
    simp only [if_neg isSecond]

/-- The first party holds what it likes beside one that has only asked. -/
theorem Shared.duo_free (db : Db) (txn : Option Txn) (call : PayCall) (log : List Entry)
    (resource : Resource) : Locks.Free Txn.Holds
      (Shared.duo db txn (some ⟨.asked call, [], none⟩) log).txns 0 resource := by
  intro other running apart runs
  unfold Shared.duo at runs
  simp only [if_neg apart] at runs
  split at runs
  · cases runs
    rintro (⟨id, locked, -⟩ | ⟨write, written, -⟩)
    · exact absurd locked (Option.not_mem_none id)
    · exact absurd written List.not_mem_nil
  · cases runs

/-- The second party is alone once the first is gone. -/
theorem Shared.duo_alone (db : Db) (txn : Option Txn) (log : List Entry) (resource : Resource) :
    Locks.Free Txn.Holds (Shared.duo db none txn log).txns 1 resource := by
  intro other running apart runs
  unfold Shared.duo at runs
  simp only [if_neg apart, ite_self] at runs
  cases runs

section Duo

variable {start : Shared} {db : Db} {one other : Option Txn} {log : List Entry} {next : Txn}

theorem Reached.goFirst (run : Reached villaEnvironment start (Shared.duo db one other log))
    (step : Step villaEnvironment (Shared.duo db one other log) 0
      ((Shared.duo db one other log).put 0 next)) :
    Reached villaEnvironment start (Shared.duo db (some next) other log) := by
  rw [Shared.put, Shared.duo_first] at step
  exact run.tail ⟨0, step⟩

theorem Reached.goSecond (run : Reached villaEnvironment start (Shared.duo db one other log))
    (step : Step villaEnvironment (Shared.duo db one other log) 1
      ((Shared.duo db one other log).put 1 next)) :
    Reached villaEnvironment start (Shared.duo db one (some next) log) := by
  rw [Shared.put, Shared.duo_second] at step
  exact run.tail ⟨1, step⟩

end Duo

/-- The guest pays for the hold. -/
def villaPayCall : PayCall := ⟨1, 1, 0⟩

def villaContextRead : PayContext := ⟨.pendingPayment, 20, some 1000000, 50⟩

def villaSession : PaymentSession := ⟨"snap", "https://snap"⟩

def villaOpened : OpenSession := ⟨"midtrans", 500000, "snap", "https://snap"⟩

def villaAnswer : PaymentSessionResponse := ⟨"midtrans", "snap", "https://snap", 500000, true⟩

theorem villaAnswer_framed : toResponse villaEnvironment.isUrl "midtrans" villaSession 500000
    1000000 = .ok villaAnswer := by
  decide +kernel

/-- Two pay calls for the hold: the second has asked while the first mints the deposit, and waits
for its lock. -/
theorem villa_first_mints : Reached villaEnvironment (Shared.start villaUnpaid)
    (Shared.duo villaPending none (some ⟨.asked villaPayCall, [], none⟩)
      [.paid villaPayCall none 1 villaAnswer]) := by
  have begun : Reached villaEnvironment (Shared.start villaUnpaid)
      (Shared.duo villaUnpaid none none []) := by
    have same : Shared.start villaUnpaid = Shared.duo villaUnpaid none none [] := by
      unfold Shared.start Shared.duo
      simp only [ite_self]
    rw [same]
  have asked := begun.goFirst (.ask 0 rfl villaHold 0 rfl rfl)
  have both := asked.goSecond (.ask 1 rfl villaHold 0 rfl rfl)
  have locked := both.goFirst (.lock 0 villaPayCall villaContextRead rfl rfl
    (Shared.duo_free _ _ villaPayCall _ _))
  have swept := locked.goFirst (.sweep 0 villaPayCall villaContextRead rfl
    fun write _ => Shared.duo_free _ _ villaPayCall _ write.resource)
  have payable := swept.goFirst (.read 0 villaPayCall villaContextRead 1000000 _ rfl rfl rfl)
  have searched := payable.goFirst (.search 0 villaPayCall 1000000 50 _ rfl rfl)
  have sessioned := searched.goFirst (.openSession 0 villaPayCall 1000000 50 snapSession
    villaSession _ rfl (by decide) (by decide +kernel))
  have minted := sessioned.goFirst (.insert 0 villaPayCall 1000000 50 villaSession 1 villaPending
    villaAnswer _ rfl (by decide) rfl
    (fun write _ => Shared.duo_free _ _ villaPayCall _ write.resource) villaAnswer_framed)
  have committed := minted.tail ⟨0, .commitPay 0 villaPayCall none 1 villaAnswer _ rfl⟩
  rw [Shared.commit, Shared.duo_first] at committed
  exact committed

/-- Then the second one locks the hold, finds the open session and answers with it. -/
theorem villa_second_reuses : Reached villaEnvironment (Shared.start villaUnpaid)
    (Shared.duo villaPending none none [.paid villaPayCall none 1 villaAnswer,
      .paid villaPayCall (some villaOpened) 0 villaAnswer]) := by
  have locked := villa_first_mints.goSecond (.lock 1 villaPayCall villaContextRead rfl rfl
    (Shared.duo_alone _ _ _ _))
  have swept := locked.goSecond (.sweep 1 villaPayCall villaContextRead rfl
    fun write _ => Shared.duo_alone _ _ _ write.resource)
  have payable := swept.goSecond (.read 1 villaPayCall villaContextRead 1000000 _ rfl rfl rfl)
  have reused := payable.goSecond (.reuse 1 villaPayCall 1000000 50 villaOpened villaAnswer _ rfl
    (by decide +kernel) villaAnswer_framed)
  have committed :=
    reused.tail ⟨1, .commitPay 1 villaPayCall (some villaOpened) 0 villaAnswer _ rfl⟩
  rw [Shared.commit, Shared.duo_second] at committed
  exact committed

/-- The guest pays twice at once: the deposit is the one live payment, and both calls answer with
its session. -/
theorem villa_deposit_live : LivePayment villaEnvironment villaUnpaid 1
    (Shared.duo villaPending none none [.paid villaPayCall none 1 villaAnswer,
      .paid villaPayCall (some villaOpened) 0 villaAnswer]) :=
  one_live_payment villaUnpaid_deposits
    (Db.oneLive_of_unpaid fun _ member => (List.not_mem_nil member).elim) villa_second_reuses

end Sambung
