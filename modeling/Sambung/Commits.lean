/-
This file proves that under the locks every commit is a guarded write.

A statement tests its guard long before its call commits. In between the rows it
matched are held, a row it did not match can not start to match, and the keys it
inserted are held too: what the guard said when the statement ran it still says at
the commit. So a commit leaves what the whole call would leave if it ran there and
then, and a property of the database is proved commit by commit.

`Kept` is what the commits of others leave of what a call relies on, and
`Txn.Sound` what holds of a call under way by where it stands; both are kept by
each write of another call. `Step.effect` then says once what a step can do, a
commit with its record or nothing, and `Reached.induction` carries what every such
effect keeps to every state a run reaches. The modules on payments prove their
invariants from these two and never look at a statement again.
-/

import Sambung.Interleaving

namespace Sambung

/-! ### One write -/

/-- A write that makes nothing pending. -/
def RowWrite.Calm : RowWrite → Prop
  | .booking _ status => status ≠ .pendingPayment
  | .payment _ status => status ≠ .pending
  | _ => True

theorem bookingById_write (id : Uuid) (status : BookingStatus) (db : Db) (wanted : Uuid) :
    ((RowWrite.booking id status).apply db).bookingById wanted =
      (db.bookingById wanted).map fun row => if row.id = id then row.setStatus status else row :=
  Db.bookingById_setBookingStatus status _ db wanted

theorem paymentById_write (id : Uuid) (status : PaymentStatus) (db : Db) (wanted : Uuid) :
    ((RowWrite.payment id status).apply db).paymentById wanted =
      (db.paymentById wanted).map fun row => if row.id = id then { row with status } else row := by
  have keyed : ∀ row : Payment, row.id = id → ({ row with status } : Payment).id = row.id :=
    fun _ _ => rfl
  exact Table.byKey_updateWhere keyed wanted

/-! ### What others leave -/

/-- What the commits of others leave of what a call relies on. -/
structure Kept (txn : Txn) (db after : Db) : Prop where
  property : after.property = db.property
  unit : after.unit = db.unit
  booking : ∀ id, txn.Holds (.booking id) → after.bookingById id = db.bookingById id
  payment : ∀ id row, txn.Holds (.payment id) → db.paymentById id = some row →
    after.paymentById id = some row
  event : ∀ provider providerEventId, txn.Holds (.event provider providerEventId) →
    db.EventUnrecorded provider providerEventId → after.EventUnrecorded provider providerEventId
  newPayment : ∀ id, txn.Holds (.newPayment id) → id ∉ db.payment.map Payment.id →
    id ∉ after.payment.map Payment.id
  lapsed : ∀ id, db.bookingStatus id ≠ some .pendingPayment →
    after.bookingStatus id ≠ some .pendingPayment
  decided : ∀ id row, db.paymentById id = some row → ∃ later, after.paymentById id = some later ∧
    later.bookingId = row.bookingId ∧ later.amountIdr = row.amountIdr ∧
    (row.status ≠ .pending → later.status ≠ .pending)
  unopened : ∀ id ∈ txn.lock, (∀ row ∈ db.payment, row.bookingId = id → row.status ≠ .pending) →
    ∀ row ∈ after.payment, row.bookingId = id → row.status ≠ .pending

theorem Kept.refl (txn : Txn) (db : Db) : Kept txn db db :=
  ⟨rfl, rfl, fun _ _ => rfl, fun _ _ _ found => found, fun _ _ _ unrecorded => unrecorded,
    fun _ _ fresh => fresh, fun _ lapsed => lapsed,
    fun _ row found => ⟨row, found, rfl, rfl, fun decided => decided⟩,
    fun _ _ unopened => unopened⟩

theorem Kept.trans {txn : Txn} {a b c : Db} (first : Kept txn a b) (second : Kept txn b c) :
    Kept txn a c where
  property := second.property.trans first.property
  unit := second.unit.trans first.unit
  booking id held := (second.booking id held).trans (first.booking id held)
  payment id row held found := second.payment id row held (first.payment id row held found)
  event provider id held unrecorded :=
    second.event provider id held (first.event provider id held unrecorded)
  newPayment id held fresh := second.newPayment id held (first.newPayment id held fresh)
  lapsed id before := second.lapsed id (first.lapsed id before)
  decided id row found := by
    obtain ⟨middle, foundMiddle, sameBooking, sameAmount, decided⟩ := first.decided id row found
    obtain ⟨later, foundLater, laterBooking, laterAmount, laterDecided⟩ :=
      second.decided id middle foundMiddle
    exact ⟨later, foundLater, laterBooking.trans sameBooking, laterAmount.trans sameAmount,
      fun before => laterDecided (decided before)⟩
  unopened id locked before := second.unopened id locked (first.unopened id locked before)

/-- One write of another call, to a row this call neither holds nor has matched, leaves it all it
relies on. -/
theorem Kept.write {txn : Txn} {write : RowWrite} (calm : write.Calm)
    (free : ¬ txn.Holds write.resource)
    (unlocked : ∀ row, write = .mint row → row.bookingId ∉ txn.lock) (db : Db) :
    Kept txn db (write.apply db) := by
  cases write with
  | booking id status =>
    refine { Kept.refl txn db with
      booking := fun wanted held => ?_, lapsed := fun wanted before => ?_ }
    · have apart : wanted ≠ id := fun same => free (same ▸ held)
      rw [bookingById_write]
      cases found : db.bookingById wanted with
      | none => rfl
      | some row => rw [Option.map_some, if_neg (Db.bookingById_id found ▸ apart)]
    · unfold Db.bookingStatus at before ⊢
      rw [bookingById_write]
      cases found : db.bookingById wanted with
      | none => exact fun pending => nomatch pending
      | some row =>
        rw [found] at before
        rw [Option.map_some, Option.map_some]
        split
        · exact fun pending => calm (Option.some.inj pending)
        · exact before
  | payment id status =>
    refine { Kept.refl txn db with
      payment := fun wanted row held found => ?_, newPayment := fun wanted _ fresh => ?_,
      decided := fun wanted row found => ?_, unopened := fun wanted _ before => ?_ }
    · have apart : wanted ≠ id := fun same => free (same ▸ held)
      rw [paymentById_write, found, Option.map_some, if_neg (Db.paymentById_id found ▸ apart)]
    · have sameIds : ((RowWrite.payment id status).apply db).payment.map Payment.id =
          db.payment.map Payment.id :=
        Table.map_updateWhere Payment.id fun _ _ => rfl
      rw [sameIds]
      exact fresh
    · rw [paymentById_write, found, Option.map_some]
      refine ⟨_, rfl, ?_⟩
      split
      · exact ⟨rfl, rfl, fun _ => calm⟩
      · exact ⟨rfl, rfl, fun decided => decided⟩
    · exact Table.forall_updateWhere before fun _ _ _ _ _ => calm
  | event row =>
    refine { Kept.refl txn db with event := fun provider providerEventId held unrecorded => ?_ }
    intro other member same
    rcases List.mem_append.mp member with old | new
    · exact unrecorded other old same
    · rw [List.mem_singleton.mp new] at same
      obtain ⟨rfl, rfl⟩ := same
      exact free held
  | mint row =>
    have still : ∀ wanted other, db.paymentById wanted = some other →
        ((RowWrite.mint row).apply db).paymentById wanted = some other := by
      intro wanted other found
      show Table.byKey Payment.id wanted (db.payment ++ [row]) = some other
      rw [Table.byKey_append_singleton,
        show Table.byKey Payment.id wanted db.payment = _ from found, Option.some_or]
    refine { Kept.refl txn db with
      payment := fun wanted other _ found => still wanted other found
      newPayment := fun wanted held fresh => ?_
      decided := fun wanted other found =>
        ⟨other, still wanted other found, rfl, rfl, fun decided => decided⟩
      unopened := fun wanted locked before => ?_ }
    · intro member
      rw [show ((RowWrite.mint row).apply db).payment = db.payment ++ [row] from rfl,
        List.map_append, List.mem_append] at member
      rcases member with old | new
      · exact fresh old
      · rw [List.map_singleton, List.mem_singleton] at new
        have minted : txn.Holds (.newPayment row.id) := new ▸ held
        exact free minted
    · intro other member ofBooking
      rcases List.mem_append.mp member with old | new
      · exact before other old ofBooking
      · rw [List.mem_singleton.mp new] at ofBooking
        exact absurd (ofBooking ▸ locked) (unlocked row rfl)

/-- All the writes of another call leave this one what it relies on, since the locks kept the two
apart. -/
theorem Kept.writes {txn : Txn} {writes : List RowWrite} (calm : ∀ write ∈ writes, write.Calm)
    (free : ∀ write ∈ writes, ¬ txn.Holds write.resource)
    (unlocked : ∀ row, .mint row ∈ writes → row.bookingId ∉ txn.lock) (db : Db) :
    Kept txn db (withWrites writes db) := by
  induction writes generalizing db with
  | nil => exact Kept.refl txn db
  | cons write writes inductionHypothesis =>
    have first := Kept.write (calm write List.mem_cons_self) (free write List.mem_cons_self)
      (fun row same => unlocked row (same ▸ List.mem_cons_self)) db
    exact first.trans (inductionHypothesis
      (fun other member => calm other (List.mem_cons_of_mem _ member))
      (fun other member => free other (List.mem_cons_of_mem _ member))
      (fun row member => unlocked row (List.mem_cons_of_mem _ member)) (write.apply db))

/-! ### What a call relies on -/

/-- What a delivery writes after its event: the matched rows of its updates. -/
def outcomeWrites (event : ParsedPaymentEvent) (pay : Payment) (db : Db) : List RowWrite :=
  if event.grossAmountIdr ≠ pay.amountIdr then []
  else
    match event.outcome with
    | .settlement => paymentWrites pay.id .paid db ++ confirmWrites pay.bookingId db
    | .failure => paymentWrites pay.id .failed db
    | _ => []

/-- The event's payment is the one that was read, whatever its status is by now. -/
def ParsedPaymentEvent.Names (event : ParsedPaymentEvent) (pay : Payment) (db : Db) : Prop :=
  ∃ row, event.payment db = some row ∧ row.id = pay.id ∧ row.bookingId = pay.bookingId ∧
    row.amountIdr = pay.amountIdr

/-- The writes set this status on these bookings: an expiry on pending ones, a cancel on
occupying ones. -/
def Updates (status : BookingStatus) (ids : List Uuid) (writes : List RowWrite) (db : Db) : Prop :=
  writes = ids.map (fun id => .booking id status) ∧
    ∀ id ∈ ids, ∃ before ∈ db.bookingStatus id,
      (status = .expired ∧ before = .pendingPayment) ∨ (status = .cancelled ∧ before.Occupying)

/-- The booking of the call is to be paid, at this total and share, and is not swept. -/
structure PayCall.Payable (call : PayCall) (totalPriceIdr : BigInt) (depositPct : Nat)
    (swept : List Uuid) (db : Db) : Prop where
  loaded : ∃ ctx, lockAndLoad call.tenantId call.bookingId db = some ctx ∧
    ctx.totalPriceIdr = some totalPriceIdr ∧ ctx.depositPct = depositPct
  pending : db.bookingStatus call.bookingId = some .pendingPayment
  unswept : call.bookingId ∉ swept

/-- The booking has no pending payment. -/
def Db.Unopened (db : Db) (bookingId : Uuid) : Prop :=
  ∀ row ∈ db.payment, row.bookingId = bookingId → row.status ≠ .pending

/-- The row a pay call mints, for a booking that is to be paid and has no open session. -/
structure PayCall.Mints (call : PayCall) (row : Payment) (swept : List Uuid) (db : Db) : Prop where
  payable : ∃ totalPriceIdr depositPct, call.Payable totalPriceIdr depositPct swept db ∧
    row.amountIdr = depositAmountIdr totalPriceIdr depositPct
  unopened : db.Unopened call.bookingId
  fresh : row.id ∉ db.payment.map Payment.id
  ofBooking : row.bookingId = call.bookingId
  pending : row.status = .pending

/-- The answer of a pay call fits what it found: an open session as it is and no gateway call, or
one gateway call. -/
def Framed (env : PayEnvironment) (found : Option OpenSession) (gatewayCalls : Nat)
    (response : PaymentSessionResponse) : Prop :=
  match found with
  | some opened => gatewayCalls = 0 ∧ response.token = opened.token ∧
      response.redirectUrl = opened.redirectUrl ∧ response.amountIdr = opened.amountIdr ∧
      response.provider = opened.provider
  | none => gatewayCalls = 1 ∧ response.provider = env.gateway.provider

/-- What holds of a call under way, by where it stands. -/
def Txn.Sound [PostgresServer] (env : PayEnvironment) (db : Db) (txn : Txn) : Prop :=
  match txn.phase with
  | .received _ => txn.writes = [] ∧ txn.lock = none
  | .announcing _ => txn.writes = [] ∧ txn.lock = none
  | .asked _ => txn.writes = [] ∧ txn.lock = none
  | .resolved event pay => txn.writes = [] ∧ txn.lock = none ∧ event.Names pay db
  | .recorded event pay =>
    txn.writes = [.event (event.row env.gateway.provider pay.bookingId)] ∧ txn.lock = none ∧
      event.Names pay db ∧ event.Recordable env.gateway.provider db
  | .paymentUpdated event pay =>
    txn.writes = .event (event.row env.gateway.provider pay.bookingId) ::
        paymentWrites pay.id .paid db ∧
      txn.lock = none ∧ event.Names pay db ∧ event.Recordable env.gateway.provider db ∧
      event.grossAmountIdr = pay.amountIdr ∧ event.outcome = .settlement
  | .applied event result =>
    txn.lock = none ∧ ((txn.writes = [] ∧ result = .unknownOrder) ∨
      ∃ pay, txn.writes = .event (event.row env.gateway.provider pay.bookingId) ::
          outcomeWrites event pay db ∧
        event.Names pay db ∧ event.Recordable env.gateway.provider db ∧
        result = (applyOutcome event pay db).1)
  | .locked call ctx =>
    txn.writes = [] ∧ txn.lock = some call.bookingId ∧
      lockAndLoad call.tenantId call.bookingId db = some ctx
  | .swept call ctx =>
    txn.lock = some call.bookingId ∧ lockAndLoad call.tenantId call.bookingId db = some ctx ∧
      ∃ ids, Updates .expired ids txn.writes db
  | .payable call totalPriceIdr depositPct =>
    txn.lock = some call.bookingId ∧
      ∃ ids, Updates .expired ids txn.writes db ∧ call.Payable totalPriceIdr depositPct ids db
  | .unminted call totalPriceIdr depositPct =>
    txn.lock = some call.bookingId ∧ db.Unopened call.bookingId ∧
      ∃ ids, Updates .expired ids txn.writes db ∧ call.Payable totalPriceIdr depositPct ids db
  | .sessioned call totalPriceIdr depositPct _ =>
    txn.lock = some call.bookingId ∧ db.Unopened call.bookingId ∧
      ∃ ids, Updates .expired ids txn.writes db ∧ call.Payable totalPriceIdr depositPct ids db
  | .answered call found gatewayCalls response =>
    txn.lock = some call.bookingId ∧ Framed env found gatewayCalls response ∧
      ∃ ids swept, Updates .expired ids swept db ∧
        ((found.isSome ∧ txn.writes = swept) ∨
          (found = none ∧ ∃ row, txn.writes = swept ++ [.mint row] ∧ call.Mints row ids db))
  | .updated =>
    txn.lock = none ∧ ∃ status ids, Updates status ids txn.writes db

/-! ### What stays true of a call -/

section Stays

variable {env : PayEnvironment} {txn : Txn} {db after : Db}

theorem Txn.holds_of_mem {write : RowWrite} (member : write ∈ txn.writes) :
    txn.Holds write.resource := Or.inr ⟨write, member, rfl⟩

theorem Txn.holds_lock {id : Uuid} (locked : txn.lock = some id) : txn.Holds (.booking id) :=
  Or.inl ⟨id, locked, rfl⟩

theorem Kept.bookingStatus (kept : Kept txn db after) {id : Uuid}
    (held : txn.Holds (.booking id)) : after.bookingStatus id = db.bookingStatus id := by
  rw [Db.bookingStatus, Db.bookingStatus, kept.booking id held]

theorem Kept.names (kept : Kept txn db after) {event : ParsedPaymentEvent} {pay : Payment}
    (named : event.Names pay db) : event.Names pay after := by
  obtain ⟨row, found, sameId, sameBooking, sameAmount⟩ := named
  obtain ⟨orderId, parsed, known⟩ := Option.bind_eq_some_iff.mp found
  obtain ⟨later, foundLater, laterBooking, laterAmount, -⟩ := kept.decided orderId row known
  refine ⟨later, ?_, ?_, laterBooking.trans sameBooking, laterAmount.trans sameAmount⟩
  · rw [ParsedPaymentEvent.payment, parsed]
    exact foundLater
  · rw [Db.paymentById_id foundLater, ← Db.paymentById_id known, sameId]

theorem ParsedPaymentEvent.Names.paymentById {event : ParsedPaymentEvent} {pay : Payment}
    (named : event.Names pay db) : ∃ row, db.paymentById pay.id = some row := by
  obtain ⟨row, found, sameId, -⟩ := named
  obtain ⟨orderId, parsed, known⟩ := Option.bind_eq_some_iff.mp found
  rw [← sameId, Db.paymentById_id known]
  exact ⟨row, known⟩

/-- The rows an update of the payment matched are the ones it would match now. -/
theorem Kept.paymentWrites (kept : Kept txn db after) {event : ParsedPaymentEvent} {pay : Payment}
    (named : event.Names pay db) {status : PaymentStatus}
    (held : ∀ write ∈ paymentWrites pay.id status db, write ∈ txn.writes) :
    paymentWrites pay.id status after = paymentWrites pay.id status db := by
  obtain ⟨row, found⟩ := named.paymentById
  unfold Sambung.paymentWrites at held ⊢
  by_cases pending : db.paymentStatus pay.id = some .pending
  · rw [if_pos pending] at held ⊢
    have holds : txn.Holds (.payment pay.id) :=
      Txn.holds_of_mem (held (.payment pay.id status) List.mem_cons_self)
    have still : after.paymentStatus pay.id = some .pending := by
      rw [Db.paymentStatus, kept.payment pay.id row holds found, ← found]
      exact pending
    rw [if_pos still]
  · rw [if_neg pending, if_neg]
    obtain ⟨later, foundLater, -, -, decided⟩ := kept.decided pay.id row found
    rw [Db.paymentStatus, found, Option.map_some] at pending
    rw [Db.paymentStatus, foundLater, Option.map_some]
    exact fun same => decided (fun undecided => pending (congrArg some undecided))
      (Option.some.inj same)

/-- The row a confirmation matched is the one it would match now. -/
theorem Kept.confirmWrites (kept : Kept txn db after) {id : Uuid}
    (held : ∀ write ∈ confirmWrites id db, write ∈ txn.writes) :
    confirmWrites id after = confirmWrites id db := by
  unfold Sambung.confirmWrites at held ⊢
  by_cases pending : db.bookingStatus id = some .pendingPayment
  · rw [if_pos pending] at held ⊢
    have holds : txn.Holds (.booking id) :=
      Txn.holds_of_mem (held (.booking id .confirmed) List.mem_cons_self)
    rw [if_pos ((kept.bookingStatus holds).trans pending)]
  · rw [if_neg pending, if_neg (kept.lapsed id pending)]

theorem Kept.outcomeWrites (kept : Kept txn db after) {event : ParsedPaymentEvent}
    {pay : Payment} (named : event.Names pay db)
    (held : ∀ write ∈ outcomeWrites event pay db, write ∈ txn.writes) :
    outcomeWrites event pay after = outcomeWrites event pay db := by
  unfold Sambung.outcomeWrites at held ⊢
  by_cases differs : event.grossAmountIdr ≠ pay.amountIdr
  · rw [if_pos differs, if_pos differs]
  · rw [if_neg differs] at held ⊢
    rw [if_neg differs]
    cases outcome : event.outcome with
    | settlement =>
      simp only [outcome] at held
      dsimp only
      rw [kept.paymentWrites named fun write member => held write (List.mem_append_left _ member),
        kept.confirmWrites fun write member => held write (List.mem_append_right _ member)]
    | failure =>
      simp only [outcome] at held
      exact kept.paymentWrites named held
    | pending => rfl
    | ignore => rfl

theorem Kept.recordable [PostgresServer] (kept : Kept txn db after) {event : ParsedPaymentEvent}
    {bookingId : Uuid} (held : .event (event.row env.gateway.provider bookingId) ∈ txn.writes)
    (recordable : event.Recordable env.gateway.provider db) :
    event.Recordable env.gateway.provider after :=
  ⟨recordable.1, kept.event _ _ (Txn.holds_of_mem held) recordable.2⟩

theorem Kept.updates (kept : Kept txn db after) {status : BookingStatus} {ids : List Uuid}
    {writes : List RowWrite} (updates : Updates status ids writes db)
    (held : ∀ write ∈ writes, write ∈ txn.writes) : Updates status ids writes after := by
  obtain ⟨rfl, before⟩ := updates
  refine ⟨rfl, fun id member => ?_⟩
  have holds : txn.Holds (.booking id) :=
    Txn.holds_of_mem (held (.booking id status) (List.mem_map.mpr ⟨id, member, rfl⟩))
  rw [kept.bookingStatus holds]
  exact before id member

/-- Under the primary key a lookup by id and tenant is the lookup by id, checked for the tenant. -/
theorem Db.find_booking {db : Db} (keyed : (db.booking.map Booking.id).Nodup) (id tenantId : Uuid) :
    (db.booking.find? fun row => row.id = id ∧ row.tenantId = tenantId) =
      (db.bookingById id).filter fun row => row.tenantId = tenantId := by
  cases found : db.bookingById id with
  | none =>
    have absent := Table.byKey_eq_none.mp found
    rw [Option.filter_none]
    refine List.find?_eq_none.mpr fun row member => ?_
    simp [absent row member]
  | some row =>
    obtain ⟨member, sameId⟩ := Table.mem_of_byKey found
    by_cases ofTenant : row.tenantId = tenantId
    · rw [Option.filter_some_pos (by simpa using ofTenant)]
      refine Table.find?_narrow found (by simp [sameId, ofTenant]) fun other => ?_
      simp only [decide_eq_true_eq]
      exact And.left
    · rw [Option.filter_some_neg (by simpa using ofTenant)]
      refine List.find?_eq_none.mpr fun other otherMember matched => ofTenant ?_
      simp only [decide_eq_true_eq] at matched
      rw [← Table.eq_of_key keyed otherMember member (matched.1.trans sameId.symm)]
      exact matched.2

theorem Kept.lockAndLoad (kept : Kept txn db after) (keyed : (db.booking.map Booking.id).Nodup)
    (afterKeyed : (after.booking.map Booking.id).Nodup) {id : Uuid}
    (locked : txn.lock = some id) (tenantId : Uuid) :
    lockAndLoad tenantId id after = lockAndLoad tenantId id db := by
  unfold Sambung.lockAndLoad
  rw [Db.find_booking keyed, Db.find_booking afterKeyed, kept.booking id (Txn.holds_lock locked),
    kept.unit, kept.property]

theorem Kept.payable (kept : Kept txn db after) (keyed : (db.booking.map Booking.id).Nodup)
    (afterKeyed : (after.booking.map Booking.id).Nodup) {call : PayCall} {totalPriceIdr : BigInt}
    {depositPct : Nat} {ids : List Uuid} (locked : txn.lock = some call.bookingId)
    (payable : call.Payable totalPriceIdr depositPct ids db) :
    call.Payable totalPriceIdr depositPct ids after where
  loaded := by
    rw [kept.lockAndLoad keyed afterKeyed locked]
    exact payable.loaded
  pending := (kept.bookingStatus (Txn.holds_lock locked)).trans payable.pending
  unswept := payable.unswept

/-- Whether a confirmation matches a row is whether the booking is pending. -/
theorem matching_confirmable {db : Db} (keyed : (db.booking.map Booking.id).Nodup) (id : Uuid) :
    (Table.matching (Booking.Confirmable id) db.booking).length > 0 ↔
      db.bookingStatus id = some .pendingPayment := by
  rw [gt_iff_lt, List.length_pos_iff_exists_mem, Db.bookingStatus, Option.map_eq_some_iff]
  refine exists_congr fun row => ?_
  rw [Table.matching, List.mem_filter, decide_eq_true_iff]
  constructor
  · rintro ⟨member, rfl, pending⟩
    exact ⟨Table.byKey_of_mem keyed member, pending⟩
  · rintro ⟨found, pending⟩
    obtain ⟨member, sameId⟩ := Table.mem_of_byKey found
    exact ⟨member, sameId, pending⟩

/-- What a delivery reports is fixed by the event, the payment and whether the booking is
pending. -/
theorem applyOutcome_result {db : Db} (keyed : (db.booking.map Booking.id).Nodup)
    (event : ParsedPaymentEvent) (pay : Payment) :
    (applyOutcome event pay db).1 =
      if event.grossAmountIdr ≠ pay.amountIdr then
        .amountMismatch pay.bookingId pay.amountIdr event.grossAmountIdr
      else
        match event.outcome with
        | .settlement =>
          .settlement pay.bookingId (db.bookingStatus pay.bookingId = some .pendingPayment)
        | .failure => .failure pay.bookingId
        | outcome => .noop outcome := by
  unfold applyOutcome
  split
  · rfl
  · cases event.outcome with
    | settlement =>
      have same := matching_confirmable keyed pay.bookingId
      show ApplyResult.settlement pay.bookingId (decide
        ((Table.matching (Booking.Confirmable pay.bookingId) db.booking).length > 0)) = _
      simp only [same]
    | failure => rfl
    | pending => rfl
    | ignore => rfl

theorem Kept.result (kept : Kept txn db after) (keyed : (db.booking.map Booking.id).Nodup)
    (afterKeyed : (after.booking.map Booking.id).Nodup) {event : ParsedPaymentEvent}
    {pay : Payment} (held : ∀ write ∈ Sambung.outcomeWrites event pay db, write ∈ txn.writes) :
    (applyOutcome event pay after).1 = (applyOutcome event pay db).1 := by
  rw [applyOutcome_result keyed, applyOutcome_result afterKeyed]
  split
  · rfl
  · rename_i same
    cases outcome : event.outcome with
    | settlement =>
      have confirms : Sambung.confirmWrites pay.bookingId after =
          Sambung.confirmWrites pay.bookingId db :=
        kept.confirmWrites fun write member => held write (by
          unfold Sambung.outcomeWrites
          rw [if_neg same, outcome]
          exact List.mem_append_right _ member)
      have pending : after.bookingStatus pay.bookingId = some .pendingPayment ↔
          db.bookingStatus pay.bookingId = some .pendingPayment := by
        unfold Sambung.confirmWrites at confirms
        split at confirms <;> split at confirms <;> simp_all
      simp only [pending]
    | failure => rfl
    | pending => rfl
    | ignore => rfl

/-- What holds of a call goes on holding while others commit. -/
theorem Txn.Sound.kept [PostgresServer] (sound : txn.Sound env db) (kept : Kept txn db after)
    (keyed : (db.booking.map Booking.id).Nodup)
    (afterKeyed : (after.booking.map Booking.id).Nodup) : txn.Sound env after := by
  obtain ⟨phase, writes, lock⟩ := txn
  cases phase with
  | received event => exact sound
  | announcing bookingId => exact sound
  | asked call => exact sound
  | resolved event pay => exact ⟨sound.1, sound.2.1, kept.names sound.2.2⟩
  | recorded event pay =>
    obtain ⟨rfl, locked, named, recordable⟩ := sound
    exact ⟨rfl, locked, kept.names named, kept.recordable List.mem_cons_self recordable⟩
  | paymentUpdated event pay =>
    obtain ⟨rfl, locked, named, recordable, same⟩ := sound
    have updated : paymentWrites pay.id .paid after = paymentWrites pay.id .paid db :=
      kept.paymentWrites named fun write member => List.mem_cons_of_mem _ member
    refine ⟨?_, locked, kept.names named, kept.recordable List.mem_cons_self recordable, same⟩
    rw [updated]
  | applied event result =>
    obtain ⟨locked, unknown | ⟨pay, rfl, named, recordable, same⟩⟩ := sound
    · exact ⟨locked, Or.inl unknown⟩
    · have held : ∀ write ∈ outcomeWrites event pay db, write ∈
          .event (event.row env.gateway.provider pay.bookingId) :: outcomeWrites event pay db :=
        fun write member => List.mem_cons_of_mem _ member
      refine ⟨locked, Or.inr ⟨pay, ?_, kept.names named,
        kept.recordable List.mem_cons_self recordable, ?_⟩⟩
      · rw [kept.outcomeWrites named held]
      · rw [kept.result keyed afterKeyed held]
        exact same
  | locked call ctx =>
    obtain ⟨written, locked, loaded⟩ := sound
    exact ⟨written, locked, (kept.lockAndLoad keyed afterKeyed locked _).trans loaded⟩
  | swept call ctx =>
    obtain ⟨locked, loaded, ids, updates⟩ := sound
    exact ⟨locked, (kept.lockAndLoad keyed afterKeyed locked _).trans loaded, ids,
      kept.updates updates fun _ member => member⟩
  | payable call totalPriceIdr depositPct =>
    obtain ⟨locked, ids, updates, payable⟩ := sound
    exact ⟨locked, ids, kept.updates updates fun _ member => member,
      kept.payable keyed afterKeyed locked payable⟩
  | unminted call totalPriceIdr depositPct =>
    obtain ⟨locked, unopened, ids, updates, payable⟩ := sound
    exact ⟨locked, kept.unopened _ locked unopened, ids,
      kept.updates updates fun _ member => member, kept.payable keyed afterKeyed locked payable⟩
  | sessioned call totalPriceIdr depositPct session =>
    obtain ⟨locked, unopened, ids, updates, payable⟩ := sound
    exact ⟨locked, kept.unopened _ locked unopened, ids,
      kept.updates updates fun _ member => member, kept.payable keyed afterKeyed locked payable⟩
  | answered call found gatewayCalls response =>
    obtain ⟨locked, framed, ids, swept, updates, ⟨reused, rfl⟩ | ⟨absent, row, rfl, mints⟩⟩ := sound
    · exact ⟨locked, framed, ids, _, kept.updates updates fun _ member => member,
        Or.inl ⟨reused, rfl⟩⟩
    · obtain ⟨totalPriceIdr, depositPct, payable, amount⟩ := mints.payable
      have holds :
          Txn.Holds ⟨.answered call found gatewayCalls response, swept ++ [.mint row], lock⟩
            (.newPayment row.id) :=
        Or.inr ⟨.mint row, List.mem_append_right _ (List.mem_singleton.mpr rfl), rfl⟩
      refine ⟨locked, framed, ids, swept,
        kept.updates updates fun write member => List.mem_append_left _ member,
        Or.inr ⟨absent, row, rfl, { mints with
          payable := ⟨totalPriceIdr, depositPct,
            kept.payable keyed afterKeyed locked payable, amount⟩
          unopened := kept.unopened _ locked mints.unopened
          fresh := kept.newPayment _ holds mints.fresh }⟩⟩
  | updated =>
    obtain ⟨locked, status, ids, updates⟩ := sound
    exact ⟨locked, status, ids, kept.updates updates fun _ member => member⟩

end Stays

/-! ### The writes of a call -/

/-- A write that makes no row pending, a new row included. -/
def RowWrite.Steady : RowWrite → Prop
  | .mint _ => False
  | write => write.Calm

section Writes

variable {env : PayEnvironment} {txn : Txn} {db : Db}

theorem RowWrite.Steady.calm {write : RowWrite} (steady : write.Steady) : write.Calm := by
  cases write with
  | mint row => exact steady.elim
  | booking id status => exact steady
  | payment id status => exact steady
  | event row => exact steady

theorem steady_of_updates {status : BookingStatus} {ids : List Uuid} {writes : List RowWrite}
    (updates : Updates status ids writes db) : ∀ write ∈ writes, write.Steady := by
  obtain ⟨rfl, guards⟩ := updates
  intro write member
  obtain ⟨id, idMember, rfl⟩ := List.mem_map.mp member
  obtain ⟨before, -, ⟨rfl, -⟩ | ⟨rfl, -⟩⟩ := guards id idMember
  · exact fun same => nomatch same
  · exact fun same => nomatch same

theorem steady_paymentWrites {id : Uuid} {status : PaymentStatus} (decided : status ≠ .pending) :
    ∀ write ∈ paymentWrites id status db, write.Steady := by
  unfold paymentWrites
  split
  · intro write member
    rw [List.mem_singleton.mp member]
    exact decided
  · exact fun write member => (List.not_mem_nil member).elim

theorem steady_confirmWrites {id : Uuid} : ∀ write ∈ confirmWrites id db, write.Steady := by
  unfold confirmWrites
  split
  · intro write member
    rw [List.mem_singleton.mp member]
    exact fun same => nomatch same
  · exact fun write member => (List.not_mem_nil member).elim

theorem steady_outcomeWrites {event : ParsedPaymentEvent} {pay : Payment} :
    ∀ write ∈ outcomeWrites event pay db, write.Steady := by
  unfold outcomeWrites
  split
  · exact fun write member => (List.not_mem_nil member).elim
  · split
    · intro write member
      rcases List.mem_append.mp member with paid | confirmed
      · exact steady_paymentWrites (by decide) write paid
      · exact steady_confirmWrites write confirmed
    · exact steady_paymentWrites (by decide)
    · exact fun write member => (List.not_mem_nil member).elim

theorem steady_cons_event {row : PaymentEvent} {writes : List RowWrite}
    (steady : ∀ write ∈ writes, write.Steady) :
    ∀ write ∈ .event row :: writes, write.Steady := by
  intro write member
  rcases List.mem_cons.mp member with rfl | later
  · exact trivial
  · exact steady write later

/-- A call makes nothing pending but the payment it mints, for the booking it locked. -/
theorem Txn.Sound.writes [PostgresServer] (sound : txn.Sound env db) :
    ∀ write ∈ txn.writes,
      write.Steady ∨ ∃ row, write = .mint row ∧ txn.lock = some row.bookingId := by
  obtain ⟨phase, writes, lock⟩ := txn
  have none : writes = [] → ∀ write ∈ writes, write.Steady ∨
      ∃ row, write = .mint row ∧ lock = some row.bookingId := by
    rintro rfl write member
    exact (List.not_mem_nil member).elim
  cases phase with
  | received event => exact none sound.1
  | announcing bookingId => exact none sound.1
  | asked call => exact none sound.1
  | resolved event pay => exact none sound.1
  | locked call ctx => exact none sound.1
  | recorded event pay =>
    obtain ⟨rfl, -⟩ := sound
    exact fun write member => Or.inl (steady_cons_event
      (fun other otherMember => (List.not_mem_nil otherMember).elim) write member)
  | paymentUpdated event pay =>
    obtain ⟨rfl, -⟩ := sound
    exact fun write member =>
      Or.inl (steady_cons_event (steady_paymentWrites (by decide)) write member)
  | applied event result =>
    obtain ⟨-, ⟨empty, -⟩ | ⟨pay, rfl, -⟩⟩ := sound
    · exact none empty
    · exact fun write member => Or.inl (steady_cons_event steady_outcomeWrites write member)
  | swept call ctx =>
    obtain ⟨-, -, ids, updates⟩ := sound
    exact fun write member => Or.inl (steady_of_updates updates write member)
  | payable call totalPriceIdr depositPct =>
    obtain ⟨-, ids, updates, -⟩ := sound
    exact fun write member => Or.inl (steady_of_updates updates write member)
  | unminted call totalPriceIdr depositPct =>
    obtain ⟨-, -, ids, updates, -⟩ := sound
    exact fun write member => Or.inl (steady_of_updates updates write member)
  | sessioned call totalPriceIdr depositPct session =>
    obtain ⟨-, -, ids, updates, -⟩ := sound
    exact fun write member => Or.inl (steady_of_updates updates write member)
  | answered call found gatewayCalls response =>
    obtain ⟨locked, -, ids, swept, updates, ⟨-, rfl⟩ | ⟨-, row, rfl, mints⟩⟩ := sound
    · exact fun write member => Or.inl (steady_of_updates updates write member)
    · intro write member
      rcases List.mem_append.mp member with expiry | minted
      · exact Or.inl (steady_of_updates updates write expiry)
      · exact Or.inr ⟨row, List.mem_singleton.mp minted, mints.ofBooking ▸ locked⟩
  | updated =>
    obtain ⟨-, status, ids, updates⟩ := sound
    exact fun write member => Or.inl (steady_of_updates updates write member)

/-- What a commit leaves of what another call relies on. -/
theorem Txn.Sound.keeps [PostgresServer] (sound : txn.Sound env db) {other : Txn}
    (apart : ∀ resource, txn.Holds resource → ¬ other.Holds resource) :
    Kept other db (withWrites txn.writes db) := by
  refine Kept.writes (fun write member => ?_)
    (fun write member => apart _ (Txn.holds_of_mem member)) (fun row member locked => ?_) db
  · rcases sound.writes write member with steady | ⟨row, rfl, -⟩
    · exact steady.calm
    · exact trivial
  · rcases sound.writes _ member with steady | ⟨minted, same, held⟩
    · exact steady
    · cases same
      exact apart _ (Txn.holds_lock held) (Txn.holds_lock locked)

/-- Bookings keep their primary key, and payments keep theirs over a fresh mint. -/
theorem keyed_withWrites {writes : List RowWrite} :
    (withWrites writes db).booking.map Booking.id = db.booking.map Booking.id := by
  induction writes generalizing db with
  | nil => rfl
  | cons write writes inductionHypothesis =>
    refine inductionHypothesis.trans ?_
    cases write with
    | booking id status => exact Table.map_updateWhere Booking.id fun _ _ => rfl
    | payment id status => rfl
    | event row => rfl
    | mint row => rfl

theorem steady_payments {writes : List RowWrite} (steady : ∀ write ∈ writes, write.Steady) :
    (withWrites writes db).payment.map Payment.id = db.payment.map Payment.id := by
  induction writes generalizing db with
  | nil => rfl
  | cons write writes inductionHypothesis =>
    refine (inductionHypothesis fun other member =>
      steady other (List.mem_cons_of_mem _ member)).trans ?_
    have first := steady write List.mem_cons_self
    cases write with
    | booking id status => rfl
    | payment id status => exact Table.map_updateWhere Payment.id fun _ _ => rfl
    | event row => rfl
    | mint row => exact first.elim

/-! ### What a commit leaves -/

theorem withWrites_append (first second : List RowWrite) (db : Db) :
    withWrites (first ++ second) db = withWrites second (withWrites first db) :=
  List.foldl_append

/-- The updates of one statement, committed row by row, are the statement's update of all of them.
-/
theorem withWrites_updates (status : BookingStatus) (ids : List Uuid) (db : Db) :
    withWrites (ids.map fun id => .booking id status) db =
      db.setBookingStatus status fun row => row.id ∈ ids := by
  induction ids generalizing db with
  | nil =>
    rw [Db.setBookingStatus, Table.updateWhere_eq_self fun _ _ => List.not_mem_nil]
    rfl
  | cons id ids inductionHypothesis =>
    show withWrites (ids.map _) (db.setBookingStatus status fun row => row.id = id) = _
    rw [inductionHypothesis]
    unfold Db.setBookingStatus Table.updateWhere
    dsimp only
    rw [List.map_map]
    congr 1
    refine List.map_congr_left fun row _ => ?_
    show (if (if row.id = id then row.setStatus status else row).id ∈ ids then _ else _) = _
    by_cases first : row.id = id
    · simp [first, Booking.setStatus]
    · simp [first]

theorem withWrites_payment (keyed : (db.payment.map Payment.id).Nodup) (id : Uuid)
    (status : PaymentStatus) :
    withWrites (paymentWrites id status db) db = db.settlePayment id status := by
  unfold paymentWrites
  by_cases pending : db.paymentStatus id = some .pending
  · obtain ⟨row, found, undecided⟩ := Option.map_eq_some_iff.mp pending
    rw [if_pos pending]
    exact congrArg (fun payments => { db with payment := payments })
      (Table.updateWhere_of_passes keyed found (fun row => row.status = .pending) undecided _)
  · have fails : ∀ row, db.paymentById id = some row → row.status ≠ .pending := by
      intro row found undecided
      exact pending (by rw [Db.paymentStatus, found, Option.map_some, undecided])
    rw [if_neg pending]
    exact congrArg (fun payments => { db with payment := payments })
      (Table.updateWhere_of_fails keyed fails _).symm

theorem withWrites_confirm (db : Db) (keyed : (db.booking.map Booking.id).Nodup) (id : Uuid) :
    withWrites (confirmWrites id db) db = db.confirmBooking id := by
  unfold confirmWrites
  by_cases pending : db.bookingStatus id = some .pendingPayment
  · obtain ⟨row, found, unpaid⟩ := Option.map_eq_some_iff.mp pending
    rw [if_pos pending]
    exact congrArg (fun bookings => { db with booking := bookings })
      (Table.updateWhere_of_passes keyed found (fun row => row.status = .pendingPayment) unpaid _)
  · have fails : ∀ row, db.bookingById id = some row → row.status ≠ .pendingPayment := by
      intro row found unpaid
      exact pending (by rw [Db.bookingStatus, found, Option.map_some, unpaid])
    rw [if_neg pending]
    exact congrArg (fun bookings => { db with booking := bookings })
      (Table.updateWhere_of_fails keyed fails _).symm

/-- A delivery commits what its outcome makes of the committed rows. -/
theorem withWrites_outcome (db : Db) (bookings : (db.booking.map Booking.id).Nodup)
    (payments : (db.payment.map Payment.id).Nodup) (event : ParsedPaymentEvent) (pay : Payment) :
    withWrites (outcomeWrites event pay db) db = (applyOutcome event pay db).2 := by
  rw [applyOutcome_database]
  unfold outcomeWrites
  by_cases same : event.grossAmountIdr = pay.amountIdr
  · rw [if_neg (not_not.mpr same), if_pos same]
    cases event.outcome with
    | settlement =>
      dsimp only
      rw [withWrites_append, withWrites_payment payments]
      exact withWrites_confirm (db.settlePayment pay.id .paid) bookings pay.bookingId
    | failure => exact withWrites_payment payments pay.id .failed
    | pending => rfl
    | ignore => rfl
  · rw [if_pos same, if_neg same]
    rfl

end Writes

/-! ### Commits -/

/-- What one commit does to the committed rows, with what it puts on record. -/
inductive Commit [PostgresServer] (env : PayEnvironment) (db : Db) : List Entry → Db → Prop
  | nothing : Commit env db [] db
  | unknown (event : ParsedPaymentEvent) :
      Commit env db [.applied env.gateway.provider event .unknownOrder] db
  | event (event : ParsedPaymentEvent) (pay : Payment) (named : event.Names pay db)
      (recordable : event.Recordable env.gateway.provider db) :
      Commit env db [.applied env.gateway.provider event (applyOutcome event pay db).1]
        (applyOutcome event pay
          (db.recordEvent (event.row env.gateway.provider pay.bookingId))).2
  | announce (bookingId : Uuid) : Commit env db [.notified bookingId] db
  | update (status : BookingStatus) (ids : List Uuid) (writes : List RowWrite)
      (updates : Updates status ids writes db) :
      Commit env db [] (db.setBookingStatus status fun row => row.id ∈ ids)
  | reuse (call : PayCall) (opened : OpenSession) (gatewayCalls : Nat)
      (response : PaymentSessionResponse) (framed : Framed env (some opened) gatewayCalls response)
      (ids : List Uuid) (writes : List RowWrite) (updates : Updates .expired ids writes db) :
      Commit env db [.paid call (some opened) gatewayCalls response]
        (db.setBookingStatus .expired fun row => row.id ∈ ids)
  | mint (call : PayCall) (gatewayCalls : Nat) (response : PaymentSessionResponse)
      (framed : Framed env none gatewayCalls response)
      (ids : List Uuid) (writes : List RowWrite) (updates : Updates .expired ids writes db)
      (row : Payment) (mints : call.Mints row ids db) :
      Commit env db [.paid call none gatewayCalls response]
        { db.setBookingStatus .expired (fun booking => booking.id ∈ ids) with
          payment := db.payment ++ [row] }

/-! ### The whole state -/

/-- The committed keys are primary, the locks are exclusive, and every call under way is sound. -/
structure Shared.Sound [PostgresServer] (env : PayEnvironment) (shared : Shared) : Prop where
  bookings : (shared.db.booking.map Booking.id).Nodup
  payments : (shared.db.payment.map Payment.id).Nodup
  exclusive : Locks.Exclusive Txn.Holds shared.txns
  calls : ∀ party txn, shared.txns party = some txn → txn.Sound env shared.db

/-- The party is about to announce the booking's confirmation. -/
def Shared.Announces (shared : Shared) (party : Nat) (bookingId : Uuid) : Prop :=
  ∃ txn ∈ shared.txns party, txn.phase = .announcing bookingId

/-- What one step does: a commit with its record, by one party. An announcement is on record once
its party has no more to announce, and a party goes on to announce what it confirmed. -/
structure Effect [PostgresServer] (env : PayEnvironment) (shared : Shared) (party : Nat)
    (after : Shared) (entries : List Entry) : Prop where
  log : after.log = shared.log ++ entries
  commit : Commit env shared.db entries after.db
  others : ∀ other ≠ party, after.txns other = shared.txns other
  notified : ∀ bookingId, .notified bookingId ∈ entries →
    shared.Announces party bookingId ∧ ¬ after.Announces party bookingId
  announces : ∀ bookingId, after.Announces party bookingId → ∃ event,
    .applied env.gateway.provider event (.settlement bookingId true) ∈ entries

section Whole

variable {env : PayEnvironment} {shared : Shared} {party : Nat}

theorem Shared.sound_start [PostgresServer] {db : Db} (bookings : (db.booking.map Booking.id).Nodup)
    (payments : (db.payment.map Payment.id).Nodup) : (Shared.start db).Sound env where
  bookings := bookings
  payments := payments
  exclusive _ _ _ _ _ _ runs := nomatch runs
  calls _ _ runs := nomatch runs

theorem Shared.put_txns {txn running : Txn} {other : Nat}
    (runs : (shared.put party txn).txns other = some running) :
    (other = party ∧ running = txn) ∨ (other ≠ party ∧ shared.txns other = some running) := by
  by_cases same : other = party
  · subst same
    rw [show (shared.put other txn).txns other = some txn from Function.update_self ..] at runs
    exact Or.inl ⟨rfl, (Option.some.inj runs).symm⟩
  · rw [show (shared.put party txn).txns other = shared.txns other from
      Function.update_of_ne same ..] at runs
    exact Or.inr ⟨same, runs⟩

/-- A call that goes on to a sound state, and holds what no other call does. -/
theorem Shared.Sound.put [PostgresServer] (sound : shared.Sound env) {txn : Txn}
    (call : txn.Sound env shared.db)
    (free : ∀ resource, txn.Holds resource → Locks.Free Txn.Holds shared.txns party resource) :
    (shared.put party txn).Sound env where
  bookings := sound.bookings
  payments := sound.payments
  exclusive := sound.exclusive.update free
  calls other running runs := by
    rcases Shared.put_txns runs with ⟨-, rfl⟩ | ⟨-, before⟩
    · exact call
    · exact sound.calls other running before

/-- A call with no write and no lock. -/
theorem Shared.Sound.begin [PostgresServer] (sound : shared.Sound env) {phase : Phase}
    (call : Txn.Sound env shared.db ⟨phase, [], none⟩) :
    (shared.put party ⟨phase, [], none⟩).Sound env := by
  refine sound.put call fun resource held => ?_
  obtain ⟨id, locked, -⟩ | ⟨write, member, -⟩ := held
  · cases locked
  · exact (List.not_mem_nil member).elim

/-- A call that writes more goes on soundly where the rows it writes are free of the others and its
next phase is sound. -/
theorem Shared.Sound.go [PostgresServer] (sound : shared.Sound env) {phase next : Phase}
    {writes more : List RowWrite} {lock : Option Uuid}
    (runs : shared.txns party = some ⟨phase, writes, lock⟩) (free : shared.Free party more)
    (call : Txn.Sound env shared.db ⟨next, writes ++ more, lock⟩) :
    (shared.put party ⟨next, writes ++ more, lock⟩).Sound env := by
  refine sound.put call fun resource held => ?_
  obtain locked | ⟨write, member, rfl⟩ := held
  · exact sound.exclusive.free runs (Or.inl locked)
  · rcases List.mem_append.mp member with old | new
    · exact sound.exclusive.free runs (Or.inr ⟨write, old, rfl⟩)
    · exact free write new

/-- A call that only reads takes no lock, so only its next phase has to be sound. -/
theorem Shared.Sound.stay [PostgresServer] (sound : shared.Sound env) {phase next : Phase}
    {writes : List RowWrite} {lock : Option Uuid}
    (runs : shared.txns party = some ⟨phase, writes, lock⟩)
    (call : Txn.Sound env shared.db ⟨next, writes, lock⟩) :
    (shared.put party ⟨next, writes, lock⟩).Sound env :=
  sound.put call fun _ held => sound.exclusive.free runs held

/-- A call that is dropped takes its uncommitted writes along and lets its locks go. -/
theorem Shared.Sound.drop [PostgresServer] (sound : shared.Sound env) :
    (shared.drop party).Sound env where
  bookings := sound.bookings
  payments := sound.payments
  exclusive := sound.exclusive.release party
  calls other running runs := by
    by_cases same : other = party
    · subst same
      rw [show (shared.drop other).txns other = none from Function.update_self ..] at runs
      cases runs
    · rw [show (shared.drop party).txns other = shared.txns other from
        Function.update_of_ne same ..] at runs
      exact sound.calls other running runs

end Whole

/-! ### Each statement -/

section Statements

variable {env : PayEnvironment} {db : Db}

/-- The rows an update matches are the rows it writes. -/
theorem BookingUpdate.updates (keyed : (db.booking.map Booking.id).Nodup)
    (update : BookingUpdate) : ∃ ids, Updates update.status ids (update.writes db) db := by
  refine ⟨(db.booking.filter fun row => update.Matches row).map Booking.id, ?_, ?_⟩
  · rw [List.map_map]
    rfl
  · intro id member
    obtain ⟨row, matched, rfl⟩ := List.mem_map.mp member
    obtain ⟨rowMember, matches'⟩ := List.mem_filter.mp matched
    have found : db.bookingById row.id = some row := Table.byKey_of_mem keyed rowMember
    refine ⟨row.status, by rw [Db.bookingStatus, found]; rfl, ?_⟩
    cases update with
    | expireLapsedHolds tenantId unitId now =>
      exact Or.inl ⟨rfl, (of_decide_eq_true matches').2.2.1⟩
    | sweepExpiredHolds now => exact Or.inl ⟨rfl, (of_decide_eq_true matches').1⟩
    | cancelById tenantId id => exact Or.inr ⟨rfl, (of_decide_eq_true matches').2.2⟩

theorem Updates.withWrites {status : BookingStatus} {ids : List Uuid} {writes : List RowWrite}
    (updates : Updates status ids writes db) :
    withWrites writes db = db.setBookingStatus status fun row => row.id ∈ ids := by
  obtain ⟨rfl, -⟩ := updates
  exact withWrites_updates status ids db

/-- A booking the call still reads as pending after its sweep is pending, and not swept. -/
theorem readStatus_swept (keyed : (db.booking.map Booking.id).Nodup) {tenantId id : Uuid}
    {ids : List Uuid} {writes : List RowWrite} (updates : Updates .expired ids writes db)
    (pending : readStatus tenantId id (withWrites writes db) = some .pendingPayment) :
    db.bookingStatus id = some .pendingPayment ∧ id ∉ ids := by
  have afterKeyed : ((withWrites writes db).booking.map Booking.id).Nodup := by
    rw [keyed_withWrites]
    exact keyed
  rw [readStatus, Db.find_booking afterKeyed] at pending
  obtain ⟨row, found, unpaid⟩ := Option.map_eq_some_iff.mp pending
  obtain ⟨foundRow, -⟩ := Option.filter_eq_some_iff.mp found
  rw [updates.withWrites, Db.bookingById_setBookingStatus] at foundRow
  obtain ⟨before, foundBefore, rfl⟩ := Option.map_eq_some_iff.mp foundRow
  have sameId := Db.bookingById_id foundBefore
  by_cases swept : before.id ∈ ids
  · rw [if_pos swept] at unpaid
    cases unpaid
  · rw [if_neg swept] at unpaid
    rw [Db.bookingStatus, foundBefore, Option.map_some, unpaid, ← sameId]
    exact ⟨rfl, swept⟩

/-- No pending payment beside the sweep is no pending payment. -/
theorem unopened_of_search {bookingId : Uuid} {ids : List Uuid} {writes : List RowWrite}
    (updates : Updates .expired ids writes db)
    (absent : findOpenSession bookingId (withWrites writes db) = .ok none) :
    db.Unopened bookingId := by
  rw [updates.withWrites] at absent
  exact findOpenSession_eq_none absent

/-- A 201 that could be framed carries the provider, the session and the amount it was made of. -/
theorem toResponse_eq_ok {isUrl : String → Bool} {provider : String} {session : PaymentSession}
    {amountIdr totalPriceIdr : BigInt} {response : PaymentSessionResponse}
    (framed : toResponse isUrl provider session amountIdr totalPriceIdr = .ok response) :
    response.provider = provider ∧ response.token = session.token ∧
      response.redirectUrl = session.redirectUrl ∧ response.amountIdr = amountIdr := by
  unfold toResponse toRupiah at framed
  split at framed
  · cases framed
  · simp only [bind, Except.bind, pure, Except.pure] at framed
    split at framed
    · cases framed
    · split at framed
      · cases framed
      · cases framed
        exact ⟨rfl, rfl, rfl, rfl⟩

/-- A matched outcome that moves nothing writes nothing. -/
theorem outcomeWrites_quiet {event : ParsedPaymentEvent} {pay : Payment}
    (quiet : event.grossAmountIdr ≠ pay.amountIdr ∨
      (event.outcome ≠ .settlement ∧ event.outcome ≠ .failure)) :
    outcomeWrites event pay db = [] := by
  unfold outcomeWrites
  rcases quiet with differs | ⟨notSettlement, notFailure⟩
  · rw [if_pos differs]
  · split
    · rfl
    · split
      · exact absurd ‹_› notSettlement
      · exact absurd ‹_› notFailure
      · rfl

theorem outcomeWrites_failure {event : ParsedPaymentEvent} {pay : Payment}
    (same : event.grossAmountIdr = pay.amountIdr) (failure : event.outcome = .failure) :
    outcomeWrites event pay db = paymentWrites pay.id .failed db := by
  unfold outcomeWrites
  rw [if_neg (not_not.mpr same), failure]

theorem outcomeWrites_settlement {event : ParsedPaymentEvent} {pay : Payment}
    (same : event.grossAmountIdr = pay.amountIdr) (settlement : event.outcome = .settlement) :
    outcomeWrites event pay db =
      paymentWrites pay.id .paid db ++ confirmWrites pay.bookingId db := by
  unfold outcomeWrites
  rw [if_neg (not_not.mpr same), settlement]

theorem applyOutcome_failure {event : ParsedPaymentEvent} {pay : Payment}
    (same : event.grossAmountIdr = pay.amountIdr) (failure : event.outcome = .failure) :
    (applyOutcome event pay db).1 = .failure pay.bookingId := by
  unfold applyOutcome
  rw [if_neg (not_not.mpr same), failure]

theorem applyOutcome_settlement (keyed : (db.booking.map Booking.id).Nodup)
    {event : ParsedPaymentEvent} {pay : Payment} (same : event.grossAmountIdr = pay.amountIdr)
    (settlement : event.outcome = .settlement) :
    (applyOutcome event pay db).1 = .settlement pay.bookingId
      (db.bookingStatus pay.bookingId = some .pendingPayment) := by
  rw [applyOutcome_result keyed, if_neg (not_not.mpr same), settlement]

end Statements

/-! ### One step -/

section OneStep

variable {env : PayEnvironment} {shared after : Shared} {party : Nat}

/-- A call without a lock mints nothing, since a payment is minted under the lock of its booking. -/
theorem Txn.Sound.steady [PostgresServer] {txn : Txn} {db : Db} (sound : txn.Sound env db)
    (unlocked : txn.lock = none) : ∀ write ∈ txn.writes, write.Steady := by
  intro write member
  rcases sound.writes write member with steady | ⟨row, -, locked⟩
  · exact steady
  · rw [unlocked] at locked
    cases locked

/-- A call that commits, and goes on to announce at most. -/
theorem Shared.Sound.commit [PostgresServer] (sound : shared.Sound env) {txn : Txn}
    (runs : shared.txns party = some txn)
    (payments : ((withWrites txn.writes shared.db).payment.map Payment.id).Nodup)
    {next : Option Txn} (announces : ∀ later ∈ next, ∃ bookingId,
      later = ⟨.announcing bookingId, [], none⟩) (entries : List Entry) :
    (shared.commit party txn.writes next entries).Sound env := by
  have bookings : ((withWrites txn.writes shared.db).booking.map Booking.id).Nodup := by
    rw [keyed_withWrites]
    exact sound.bookings
  have committed : ({ shared.drop party with
      db := withWrites txn.writes shared.db
      log := shared.log ++ entries } : Shared).Sound env := by
    refine ⟨bookings, payments, sound.drop.exclusive, fun other running otherRuns => ?_⟩
    by_cases same : other = party
    · subst same
      rw [show (shared.drop other).txns other = none from Function.update_self ..] at otherRuns
      cases otherRuns
    · rw [show (shared.drop party).txns other = shared.txns other from
        Function.update_of_ne same ..] at otherRuns
      refine (sound.calls other running otherRuns).kept ?_ sound.bookings bookings
      exact (sound.calls party txn runs).keeps fun resource held =>
        sound.exclusive party other txn running resource (Ne.symm same) runs otherRuns held
  cases next with
  | none => exact committed
  | some later =>
    obtain ⟨bookingId, rfl⟩ := announces later rfl
    have begun : (Shared.put _ party ⟨.announcing bookingId, [], none⟩).Sound env :=
      committed.begin ⟨rfl, rfl⟩
    have same : Function.update (Function.update shared.txns party none) party
        (some ⟨.announcing bookingId, [], none⟩) =
        Function.update shared.txns party (some ⟨.announcing bookingId, [], none⟩) :=
      Function.update_idem ..
    rwa [Shared.put, Shared.drop, same] at begun

theorem ApplyResult.next_announces (result : ApplyResult) :
    ∀ later ∈ result.next, ∃ bookingId, later = ⟨.announcing bookingId, [], none⟩ := by
  intro later announced
  obtain ⟨bookingId, -, rfl⟩ := Option.map_eq_some_iff.mp announced
  exact ⟨bookingId, rfl⟩

/-- Every step keeps the whole state sound: the call that makes it goes on to a sound phase, and the
locks keep its writes off what the others rely on. -/
theorem Step.sound [PostgresServer] (step : Step env shared party after)
    (sound : shared.Sound env) :
    after.Sound env := by
  cases step with
  | receive idle delivery event received => exact sound.begin ⟨rfl, rfl⟩
  | resolve event pay runs found =>
    exact sound.begin ⟨rfl, rfl, pay, found, rfl, rfl, rfl⟩
  | unknown event orderId runs parsed absent => exact sound.begin ⟨rfl, Or.inl ⟨rfl, rfl⟩⟩
  | record event pay runs recordable free =>
    obtain ⟨-, -, named⟩ := sound.calls party _ runs
    exact sound.go runs free ⟨rfl, rfl, named, recordable⟩
  | disregard event pay writes runs quiet =>
    obtain ⟨written, -, named, recordable⟩ := sound.calls party _ runs
    refine sound.stay runs ⟨rfl, Or.inr ⟨pay, ?_, named, recordable, rfl⟩⟩
    rw [outcomeWrites_quiet quiet]
    exact written
  | fail event pay writes runs same failure free =>
    obtain ⟨written, -, named, recordable⟩ := sound.calls party _ runs
    refine sound.go runs free ⟨rfl, Or.inr ⟨pay, ?_, named, recordable, ?_⟩⟩
    · rw [outcomeWrites_failure same failure]
      exact congrArg (· ++ _) written
    · exact (applyOutcome_failure same failure).symm
  | settle event pay writes runs same settlement free =>
    obtain ⟨written, -, named, recordable⟩ := sound.calls party _ runs
    exact sound.go runs free
      ⟨congrArg (· ++ _) written, rfl, named, recordable, same, settlement⟩
  | confirm event pay writes runs free =>
    obtain ⟨written, -, named, recordable, same, settlement⟩ := sound.calls party _ runs
    refine sound.go runs free ⟨rfl, Or.inr ⟨pay, ?_, named, recordable, ?_⟩⟩
    · rw [outcomeWrites_settlement same settlement]
      exact congrArg (· ++ _) written
    · exact (applyOutcome_settlement sound.bookings same settlement).symm
  | commitEvent event result writes runs =>
    refine sound.commit runs ?_ result.next_announces _
    rw [steady_payments ((sound.calls party _ runs).steady (sound.calls party _ runs).1)]
    exact sound.payments
  | announce bookingId runs =>
    exact sound.commit runs sound.payments
      (fun later member => (Option.not_mem_none later member).elim) _
  | ask idle booking now found able => exact sound.begin ⟨rfl, rfl⟩
  | lock call ctx runs loaded free =>
    refine sound.put ⟨rfl, rfl, loaded⟩ fun resource held => ?_
    obtain ⟨id, locked, rfl⟩ | ⟨write, member, -⟩ := held
    · cases locked
      exact free
    · exact (List.not_mem_nil member).elim
  | sweep call ctx runs free =>
    obtain ⟨-, -, loaded⟩ := sound.calls party _ runs
    exact sound.go runs free ⟨rfl, loaded, BookingUpdate.updates sound.bookings _⟩
  | read call ctx totalPriceIdr writes runs pending total =>
    obtain ⟨-, loaded, ids, updates⟩ := sound.calls party _ runs
    obtain ⟨unpaid, unswept⟩ := readStatus_swept sound.bookings updates pending
    exact sound.stay runs ⟨rfl, ids, updates, ⟨ctx, loaded, total, rfl⟩, unpaid, unswept⟩
  | reuse call totalPriceIdr depositPct opened response writes runs found framed =>
    obtain ⟨-, ids, updates, -⟩ := sound.calls party _ runs
    obtain ⟨provider, token, redirectUrl, amountIdr⟩ := toResponse_eq_ok framed
    exact sound.stay runs ⟨rfl, ⟨rfl, token, redirectUrl, amountIdr, provider⟩, ids, writes,
      updates, Or.inl ⟨rfl, rfl⟩⟩
  | search call totalPriceIdr depositPct writes runs absent =>
    obtain ⟨-, ids, updates, payable⟩ := sound.calls party _ runs
    exact sound.stay runs ⟨rfl, unopened_of_search updates absent, ids, updates, payable⟩
  | openSession call totalPriceIdr depositPct snap session writes runs rupiah opened =>
    obtain ⟨-, unopened, ids, updates, payable⟩ := sound.calls party _ runs
    exact sound.stay runs ⟨rfl, unopened, ids, updates, payable⟩
  | refuseSession call totalPriceIdr depositPct snap thrown writes runs refused =>
    exact sound.drop
  | insert call totalPriceIdr depositPct session id afterInsert response writes runs fresh inserted
      free framed =>
    obtain ⟨-, unopened, ids, updates, payable⟩ := sound.calls party _ runs
    refine sound.go runs free ⟨rfl, ⟨rfl, (toResponse_eq_ok framed).1⟩, ids, writes, updates,
      Or.inr ⟨rfl, _, rfl, ?_⟩⟩
    exact ⟨⟨totalPriceIdr, depositPct, payable, rfl⟩, unopened, fresh, rfl, rfl⟩
  | commitPay call found gatewayCalls response writes runs =>
    refine sound.commit runs ?_ (fun later member => (Option.not_mem_none later member).elim) _
    obtain ⟨-, -, ids, swept, updates, ⟨-, written⟩ | ⟨-, row, written, mints⟩⟩ :=
      sound.calls party _ runs
    · rw [written, steady_payments (steady_of_updates updates)]
      exact sound.payments
    · rw [written, withWrites_append, updates.withWrites]
      exact Table.nodup_map_append sound.payments mints.fresh
  | update idle update free =>
    refine sound.put ⟨rfl, update.status, BookingUpdate.updates sound.bookings update⟩
      fun resource held => ?_
    obtain ⟨id, locked, -⟩ | ⟨write, member, rfl⟩ := held
    · cases locked
    · exact free write member
  | commitUpdate writes runs =>
    refine sound.commit runs ?_ (fun later member => (Option.not_mem_none later member).elim) _
    rw [steady_payments ((sound.calls party _ runs).steady (sound.calls party _ runs).1)]
    exact sound.payments
  | crash txn runs => exact sound.drop

theorem Effect.put [PostgresServer] (env : PayEnvironment) (shared : Shared) (party : Nat)
    (txn : Txn) (silent : ∀ bookingId, txn.phase ≠ .announcing bookingId) :
    Effect env shared party (shared.put party txn) [] where
  log := (List.append_nil _).symm
  commit := .nothing
  others _ apart := Function.update_of_ne apart ..
  notified _ member := (List.not_mem_nil member).elim
  announces bookingId := by
    rintro ⟨running, runs, announcing⟩
    rcases Shared.put_txns runs with ⟨-, rfl⟩ | ⟨apart, -⟩
    · exact absurd announcing (silent bookingId)
    · exact absurd rfl apart

theorem Shared.drop_silent (shared : Shared) (party : Nat) (bookingId : Uuid) :
    ¬ (shared.drop party).Announces party bookingId := by
  rintro ⟨running, runs, -⟩
  rw [show (shared.drop party).txns party = none from Function.update_self ..] at runs
  cases runs

theorem Effect.drop [PostgresServer] (env : PayEnvironment) (shared : Shared) (party : Nat) :
    Effect env shared party (shared.drop party) [] where
  log := (List.append_nil _).symm
  commit := .nothing
  others _ apart := Function.update_of_ne apart ..
  notified _ member := (List.not_mem_nil member).elim
  announces bookingId announcing := absurd announcing (shared.drop_silent party bookingId)

/-- A commit that goes on to announce nothing. -/
theorem Effect.over [PostgresServer] {writes : List RowWrite} {entries : List Entry}
    (commit : Commit env shared.db entries (withWrites writes shared.db))
    (notified : ∀ bookingId, .notified bookingId ∈ entries → shared.Announces party bookingId) :
    Effect env shared party (shared.commit party writes none entries) entries where
  log := rfl
  commit := commit
  others _ apart := Function.update_of_ne apart ..
  notified bookingId member := ⟨notified bookingId member, shared.drop_silent party bookingId⟩
  announces bookingId announcing := absurd announcing (shared.drop_silent party bookingId)

/-- The commit of a delivery is one that records its event and leaves what applying the event to the
committed rows leaves. -/
theorem commit_event [PostgresServer] (sound : shared.Sound env) {event : ParsedPaymentEvent}
    {result : ApplyResult} {writes : List RowWrite}
    (runs : shared.txns party = some ⟨.applied event result, writes, none⟩) :
    Commit env shared.db [.applied env.gateway.provider event result]
      (withWrites writes shared.db) := by
  obtain ⟨-, ⟨written, unknown⟩ | ⟨pay, written, named, recordable, same⟩⟩ :=
    sound.calls party _ runs
  · rw [show writes = [] from written, show result = _ from unknown]
    exact .unknown event
  · rw [show writes = _ from written, show result = _ from same]
    have committed : withWrites (.event (event.row env.gateway.provider pay.bookingId) ::
        outcomeWrites event pay shared.db) shared.db = (applyOutcome event pay
          (shared.db.recordEvent (event.row env.gateway.provider pay.bookingId))).2 :=
      withWrites_outcome (shared.db.recordEvent (event.row env.gateway.provider pay.bookingId))
        sound.bookings sound.payments event pay
    rw [committed]
    exact .event event pay named recordable

/-- The commit of a pay call is its sweep, with the one payment it has minted if it asked the
gateway. -/
theorem commit_pay [PostgresServer] (sound : shared.Sound env) {call : PayCall}
    {found : Option OpenSession} {gatewayCalls : Nat} {response : PaymentSessionResponse}
    {writes : List RowWrite}
    (runs : shared.txns party =
      some ⟨.answered call found gatewayCalls response, writes, some call.bookingId⟩) :
    Commit env shared.db [.paid call found gatewayCalls response]
      (withWrites writes shared.db) := by
  obtain ⟨-, framed, ids, swept, updates, ⟨reused, written⟩ | ⟨absent, row, written, mints⟩⟩ :=
    sound.calls party _ runs
  · obtain ⟨opened, rfl⟩ := Option.isSome_iff_exists.mp reused
    rw [show writes = swept from written, updates.withWrites]
    exact .reuse call opened gatewayCalls response framed ids swept updates
  · obtain rfl := absent
    rw [show writes = _ from written, withWrites_append, updates.withWrites]
    exact .mint call gatewayCalls response framed ids swept updates row mints

/-- Every step commits a guarded write or nothing. This is all that the modules on payments use of
the steps. -/
theorem Step.effect [PostgresServer] (step : Step env shared party after)
    (sound : shared.Sound env) :
    ∃ entries, Effect env shared party after entries := by
  cases step with
  | commitEvent event result writes runs =>
    refine ⟨_, rfl, commit_event sound runs, fun other apart => Function.update_of_ne apart ..,
      fun bookingId member => ?_, ?_⟩
    · cases List.mem_singleton.mp member
    · rintro bookingId ⟨later, announced, phase⟩
      have next : result.next = some later := by
        rw [← show _ = result.next from Function.update_self party result.next shared.txns]
        exact announced
      obtain ⟨confirmed, told, rfl⟩ := Option.map_eq_some_iff.mp next
      cases phase
      refine ⟨event, List.mem_singleton.mpr ?_⟩
      unfold afterCommit at told
      split at told
      · cases told
        rfl
      · cases told
  | announce bookingId runs =>
    refine ⟨_, Effect.over (.announce bookingId) fun told member => ?_⟩
    cases List.mem_singleton.mp member
    exact ⟨_, runs, rfl⟩
  | commitPay call found gatewayCalls response writes runs =>
    refine ⟨_, Effect.over (commit_pay sound runs) fun told member => ?_⟩
    cases List.mem_singleton.mp member
  | commitUpdate writes runs =>
    obtain ⟨-, status, ids, updates⟩ := sound.calls party _ runs
    refine ⟨_, Effect.over ?_ fun told member => (List.not_mem_nil member).elim⟩
    rw [updates.withWrites]
    exact .update status ids writes updates
  | refuseSession call totalPriceIdr depositPct snap thrown writes runs refused =>
    exact ⟨_, Effect.drop env shared party⟩
  | crash txn runs => exact ⟨_, Effect.drop env shared party⟩
  | receive | resolve | unknown | record | disregard | fail | settle | confirm | ask | lock
  | sweep | read | reuse | search | openSession | insert | update =>
    exact ⟨_, Effect.put env shared party _ fun _ same => nomatch same⟩

/-- What every effect keeps of a sound state holds of every state a run reaches. -/
theorem Reached.induction [PostgresServer] {first last : Shared} (run : Reached env first last)
    (sound : first.Sound env) (invariant : Shared → Prop) (start : invariant first)
    (next : ∀ before party after entries, before.Sound env → invariant before →
      Effect env before party after entries → invariant after) :
    last.Sound env ∧ invariant last := by
  induction run with
  | refl => exact ⟨sound, start⟩
  | tail _ step inductionHypothesis =>
    obtain ⟨party, step⟩ := step
    obtain ⟨soundBefore, before⟩ := inductionHypothesis
    obtain ⟨entries, effect⟩ := step.effect soundBefore
    exact ⟨step.sound soundBefore, next _ party _ entries soundBefore before effect⟩

end OneStep

/-! ### Bookings across a commit -/

section Bookings

variable {env : PayEnvironment} {db after : Db} {entries : List Entry}

/-- A confirmation leaves a decided booking as it is. -/
theorem bookingStatus_confirm (other : Uuid) {id : Uuid}
    (decided : db.bookingStatus id ≠ some .pendingPayment) :
    (db.confirmBooking other).bookingStatus id = db.bookingStatus id := by
  rw [bookingStatus_confirmBooking]
  cases found : db.bookingStatus id with
  | none => rfl
  | some status =>
    rw [found] at decided
    rw [Option.map_some, if_neg fun confirmable => decided (congrArg some confirmable.2)]

/-- A booking an event finds decided it leaves as it is. -/
theorem applyOutcome_decided {event : ParsedPaymentEvent} {pay : Payment} {id : Uuid}
    (decided : db.bookingStatus id ≠ some .pendingPayment) :
    (applyOutcome event pay db).2.bookingStatus id = db.bookingStatus id := by
  rw [applyOutcome_database]
  split
  · cases event.outcome with
    | settlement => exact bookingStatus_confirm pay.bookingId decided
    | failure => rfl
    | pending => rfl
    | ignore => rfl
  · rfl

theorem bookingStatus_update (status : BookingStatus) (ids : List Uuid) (db : Db) (id : Uuid) :
    (db.setBookingStatus status fun row => row.id ∈ ids).bookingStatus id =
      (db.bookingStatus id).map fun before => if id ∈ ids then status else before :=
  Db.bookingStatus_setBookingStatus status (fun row => row.id ∈ ids) db (fun _ => id ∈ ids)
    fun row named => by rw [named]

/-- An update leaves no booking pending that was not. -/
theorem Updates.lapsed {status : BookingStatus} {ids : List Uuid} {writes : List RowWrite}
    (updates : Updates status ids writes db) {id : Uuid}
    (decided : db.bookingStatus id ≠ some .pendingPayment) :
    (db.setBookingStatus status fun row => row.id ∈ ids).bookingStatus id ≠
      some .pendingPayment := by
  rw [bookingStatus_update]
  by_cases member : id ∈ ids
  · obtain ⟨before, found, ⟨rfl, -⟩ | ⟨rfl, -⟩⟩ := updates.2 id member
    · rw [show db.bookingStatus id = some before from found, Option.map_some, if_pos member]
      exact fun same => nomatch same
    · rw [show db.bookingStatus id = some before from found, Option.map_some, if_pos member]
      exact fun same => nomatch same
  · simp only [if_neg member, Option.map_id']
    exact decided

/-- Nothing brings a booking back to `pending_payment` once it has left it. -/
theorem Commit.lapsed [PostgresServer] (commit : Commit env db entries after) {id : Uuid}
    (decided : db.bookingStatus id ≠ some .pendingPayment) :
    after.bookingStatus id ≠ some .pendingPayment := by
  cases commit with
  | nothing => exact decided
  | unknown event => exact decided
  | announce bookingId => exact decided
  | update status ids writes updates => exact updates.lapsed decided
  | reuse call opened gatewayCalls response framed ids writes updates =>
    exact updates.lapsed decided
  | mint call gatewayCalls response framed ids writes updates row mints =>
    exact updates.lapsed decided
  | event event pay named recordable =>
    rw [applyOutcome_decided (show (db.recordEvent _).bookingStatus id ≠ _ from decided)]
    exact decided

theorem confirmBooking_decided (db : Db) (id : Uuid) :
    (db.confirmBooking id).bookingStatus id ≠ some .pendingPayment := by
  rw [bookingStatus_confirmBooking]
  cases found : db.bookingStatus id with
  | none =>
    intro same
    cases same
  | some status =>
    rw [Option.map_some]
    by_cases pending : status = .pendingPayment
    · rw [if_pos ⟨rfl, pending⟩]
      intro same
      cases same
    · rw [if_neg fun confirmable => pending confirmable.2]
      exact fun same => pending (Option.some.inj same)

end Bookings

end Sambung
