/-
This file proves that a call that runs alone does what its function computes.

The steps of `Interleaving` take the service methods apart. Put together again,
with no other party in between, the steps of a delivery commit what `handle` and
`reconcile` commit, and those of a pay call what `pay` commits.

So the interleaved system is about the same program as the functions are, and not
about one made to fit the locks. The proofs walk through the phases of one call in
the order of its statements, over a shared state that holds this one party: nobody
else holds a lock, so every step is enabled, and what a statement sees is the
committed rows with the call's own writes. A refusal or a throw on the way ends
the call there, as the exception does the function.
-/

import Sambung.Commits

namespace Sambung

/-! ### One party -/

/-- A shared state with one party at most. -/
def Shared.solo (db : Db) (txn : Option Txn) (log : List Entry) : Shared :=
  ⟨db, fun party => if party = 0 then txn else none, log⟩

section Solo

variable {env : PayEnvironment} {db : Db} {txn : Option Txn} {log : List Entry}

theorem Shared.start_eq_solo (db : Db) : Shared.start db = Shared.solo db none [] := by
  unfold Shared.start Shared.solo
  simp only [ite_self]

@[simp] theorem Shared.solo_db : (Shared.solo db txn log).db = db := rfl

@[simp] theorem Shared.solo_txns : (Shared.solo db txn log).txns 0 = txn := rfl

theorem Shared.solo_update (next : Option Txn) :
    Function.update (Shared.solo db txn log).txns 0 next = (Shared.solo db next log).txns := by
  funext party
  by_cases first : party = 0
  · rw [first, Function.update_self]
    rfl
  · rw [Function.update_of_ne first]
    show (if party = 0 then txn else none) = if party = 0 then next else none
    rw [if_neg first, if_neg first]

@[simp] theorem Shared.solo_put (next : Txn) :
    (Shared.solo db txn log).put 0 next = Shared.solo db (some next) log := by
  rw [Shared.put, Shared.solo_update]
  rfl

@[simp] theorem Shared.solo_commit (writes : List RowWrite) (next : Option Txn)
    (entries : List Entry) :
    (Shared.solo db txn log).commit 0 writes next entries =
      Shared.solo (withWrites writes db) next (log ++ entries) := by
  rw [Shared.commit, Shared.solo_update]
  rfl

/-- Where one party runs alone nobody else holds anything, so that no statement of it waits. -/
theorem Shared.solo_free (resource : Resource) :
    Locks.Free Txn.Holds (Shared.solo db txn log).txns 0 resource := by
  intro other running apart runs
  rw [show (Shared.solo db txn log).txns other = none from if_neg apart] at runs
  cases runs

/-- The party goes on to a new state. -/
theorem Reached.go [PostgresServer] {first : Shared}
    (run : Reached env first (Shared.solo db txn log)) {next : Txn}
    (step : Step env (Shared.solo db txn log) 0 ((Shared.solo db txn log).put 0 next)) :
    Reached env first (Shared.solo db (some next) log) := by
  rw [Shared.solo_put] at step
  exact run.tail ⟨0, step⟩

/-- The party commits: its writes are the database's, and its entries are on record. -/
theorem Reached.commit [PostgresServer] {first : Shared}
    (run : Reached env first (Shared.solo db txn log)) {writes : List RowWrite} {next : Option Txn}
    {entries : List Entry}
    (step : Step env (Shared.solo db txn log) 0
      ((Shared.solo db txn log).commit 0 writes next entries)) :
    Reached env first (Shared.solo (withWrites writes db) next (log ++ entries)) := by
  rw [Shared.solo_commit] at step
  exact run.tail ⟨0, step⟩

/-! ### A delivery -/

/-- The statements of a delivery that has recorded its event. -/
theorem applied_alone [PostgresServer] {first : Shared} {event : ParsedPaymentEvent} {pay : Payment}
    (bookings : (db.booking.map Booking.id).Nodup)
    (recorded : Reached env first (Shared.solo db (some ⟨.recorded event pay,
      [.event (event.row env.gateway.provider pay.bookingId)], none⟩) log)) :
    Reached env first (Shared.solo db (some ⟨.applied event (applyOutcome event pay db).1,
      .event (event.row env.gateway.provider pay.bookingId) :: outcomeWrites event pay db,
      none⟩) log) := by
  by_cases quiet : event.grossAmountIdr ≠ pay.amountIdr ∨
      (event.outcome ≠ .settlement ∧ event.outcome ≠ .failure)
  · rw [outcomeWrites_quiet quiet]
    exact recorded.go (.disregard 0 event pay _ rfl quiet)
  · have same : event.grossAmountIdr = pay.amountIdr :=
      not_not.mp fun differs => quiet (.inl differs)
    by_cases settlement : event.outcome = .settlement
    · rw [outcomeWrites_settlement same settlement,
        applyOutcome_settlement bookings same settlement]
      have paid := recorded.go (.settle 0 event pay _ rfl same settlement
        fun write _ => Shared.solo_free write.resource)
      exact paid.go (.confirm 0 event pay _ rfl fun write _ => Shared.solo_free write.resource)
    · have failure : event.outcome = .failure :=
        not_not.mp fun other => quiet (.inr ⟨settlement, other⟩)
      rw [outcomeWrites_failure same failure, applyOutcome_failure same failure]
      exact recorded.go (.fail 0 event pay _ rfl same failure
        fun write _ => Shared.solo_free write.resource)

/-- A delivery that runs alone leaves what `handle` or `reconcile` leaves. -/
theorem deliver_alone [PostgresServer] (env : PayEnvironment)
    (bookings : (db.booking.map Booking.id).Nodup) (payments : (db.payment.map Payment.id).Nodup)
    (delivery : Delivery) (log : List Entry) :
    ∃ later, Reached env (Shared.solo db none log)
      (Shared.solo (delivery.run env.gateway env.decrypt db) none later) := by
  rw [Delivery.run_eq]
  cases received : delivery.received env.gateway env.decrypt db with
  | error thrown => exact ⟨log, .refl⟩
  | ok event =>
    cases event with
    | none => exact ⟨log, .refl⟩
    | some event =>
      show ∃ later, Reached env _ (Shared.solo
        ((recordAndApply env.gateway.provider event db).database db) none later)
      by_cases recordable : event.Recordable env.gateway.provider db
      · cases found : event.payment db with
        | none =>
          rw [recordAndApply_unrecordable (Or.inl found)]
          exact ⟨log, .refl⟩
        | some pay =>
          rw [recordAndApply_recorded found recordable]
          have begun : Reached env (Shared.solo db none log)
              (Shared.solo db (some ⟨.received event, [], none⟩) log) :=
            Reached.go .refl (.receive 0 rfl delivery event received)
          have resolved := begun.go (.resolve 0 event pay rfl found)
          have recorded := resolved.go (.record 0 event pay rfl recordable
            fun write _ => Shared.solo_free write.resource)
          have committed := (applied_alone bookings recorded).commit (.commitEvent 0 event _ _ rfl)
          have left : withWrites (.event (event.row env.gateway.provider pay.bookingId) ::
              outcomeWrites event pay db) db = (applyOutcome event pay
                (db.recordEvent (event.row env.gateway.provider pay.bookingId))).2 :=
            withWrites_outcome (db.recordEvent (event.row env.gateway.provider pay.bookingId))
              bookings payments event pay
          rw [left] at committed
          generalize (applyOutcome event pay db).1 = result at committed
          unfold ApplyResult.next at committed
          cases told : afterCommit result with
          | none =>
            rw [told] at committed
            exact ⟨_, committed⟩
          | some bookingId =>
            rw [told] at committed
            exact ⟨_, committed.commit (.announce 0 bookingId rfl)⟩
      · rw [recordAndApply_unrecordable (Or.inr recordable)]
        exact ⟨log, .refl⟩

/-! ### A sweep, a cancel -/

/-- The rows an update writes are the rows it matches. -/
theorem BookingUpdate.withWrites (keyed : (db.booking.map Booking.id).Nodup)
    (update : BookingUpdate) :
    withWrites (update.writes db) db = db.setBookingStatus update.status update.Matches := by
  have matched : update.writes db =
      ((db.booking.filter fun row => update.Matches row).map Booking.id).map
        fun id => .booking id update.status := by
    rw [List.map_map]
    rfl
  rw [matched, withWrites_updates]
  unfold Db.setBookingStatus Table.updateWhere
  congr 1
  refine List.map_congr_left fun row member => ?_
  have same : row.id ∈ (db.booking.filter fun row => update.Matches row).map Booking.id ↔
      update.Matches row := by
    rw [List.mem_map]
    constructor
    · rintro ⟨other, otherMatched, sameId⟩
      obtain ⟨otherMember, matches'⟩ := List.mem_filter.mp otherMatched
      rw [← Table.eq_of_key keyed otherMember member sameId]
      exact of_decide_eq_true matches'
    · exact fun matches' => ⟨row, List.mem_filter.mpr ⟨member, decide_eq_true matches'⟩, rfl⟩
  simp only [same]

/-! ### A pay call -/

/-- The sweep of the unit, as the pay call writes it. -/
theorem sweep_eq (keyed : (db.booking.map Booking.id).Nodup) (tenantId unitId : Uuid)
    (now : Instant) :
    withWrites ((BookingUpdate.expireLapsedHolds tenantId unitId now).writes db) db =
      expireLapsedHolds tenantId unitId now db :=
  BookingUpdate.withWrites keyed _

/-- A pay call that has found its booking pending, up to its answer. -/
theorem payable_alone [PostgresServer] (keyed : (db.booking.map Booking.id).Nodup)
    {booking : Booking} (found : db.bookingById booking.id = some booking) {now : Instant}
    (able : (forGatewayOrThrow env.gateway env.decrypt booking.tenantId db).isOk) {ctx : PayContext}
    (loaded : lockAndLoad booking.tenantId booking.id db = some ctx)
    (pending : readStatus booking.tenantId booking.id
      (expireLapsedHolds booking.tenantId ctx.unitId now db) = some .pendingPayment)
    {totalPriceIdr : BigInt} (total : ctx.totalPriceIdr = some totalPriceIdr) :
    Reached env (Shared.solo db none log) (Shared.solo db (some
      ⟨.payable ⟨booking.tenantId, booking.id, now⟩ totalPriceIdr ctx.depositPct,
        (BookingUpdate.expireLapsedHolds booking.tenantId ctx.unitId now).writes db,
        some booking.id⟩) log) := by
  have asked : Reached env (Shared.solo db none log)
      (Shared.solo db (some ⟨.asked ⟨booking.tenantId, booking.id, now⟩, [], none⟩) log) :=
    Reached.go .refl (.ask 0 rfl booking now found able)
  have locked := asked.go (.lock 0 _ ctx rfl loaded (Shared.solo_free _))
  have swept := locked.go (.sweep 0 _ ctx rfl fun write _ => Shared.solo_free write.resource)
  rw [← sweep_eq keyed] at pending
  exact swept.go (.read 0 _ ctx totalPriceIdr _ rfl pending total)

/-- A mint that runs alone, from the lookup of the open session on. -/
theorem mint_alone [PostgresServer] {call : PayCall} {totalPriceIdr : BigInt} {depositPct : Nat}
    {writes : List RowWrite} {swept : Db} (same : withWrites writes db = swept)
    (payments : swept.payment = db.payment)
    (absent : findOpenSession call.bookingId swept = .ok none)
    (run : Reached env (Shared.solo db none log) (Shared.solo db (some
      ⟨.payable call totalPriceIdr depositPct, writes, some call.bookingId⟩) log))
    (snap : HttpResponse) :
    ∃ later, Reached env (Shared.solo db none log) (Shared.solo
      ((mint env call.bookingId totalPriceIdr depositPct snap call.now swept).database db) none
        later) := by
  subst same
  have searched := run.go (.search 0 call totalPriceIdr depositPct writes rfl absent)
  unfold mint
  dsimp only
  cases rupiah : toRupiah (depositAmountIdr totalPriceIdr depositPct) with
  | error thrown => exact ⟨log, .refl⟩
  | ok amount =>
    cases opened : env.gateway.createSession snap with
    | error thrown => exact ⟨log, .refl⟩
    | ok session =>
      dsimp only
      have sessioned := searched.go (.openSession 0 call totalPriceIdr depositPct snap session
        writes rfl (by rw [rupiah]; rfl) opened)
      rw [payments]
      cases inserted : (withWrites writes db).insertPayment (mintedPayment
          (env.uuids.draw (db.payment.map Payment.id)) call.bookingId env.gateway.provider
          (depositAmountIdr totalPriceIdr depositPct) session call.now) with
      | error error => exact ⟨log, .refl⟩
      | ok after =>
        dsimp only
        cases framed : toResponse env.isUrl env.gateway.provider session
            (depositAmountIdr totalPriceIdr depositPct) totalPriceIdr with
        | error thrown => exact ⟨log, .refl⟩
        | ok response =>
          have minted := sessioned.go (.insert 0 call totalPriceIdr depositPct session _ after
            response writes rfl (env.uuids.fresh _) inserted
            (fun write _ => Shared.solo_free write.resource) framed)
          have committed := minted.commit (.commitPay 0 call none 1 response _ rfl)
          rw [withWrites_append] at committed
          obtain ⟨-, rfl⟩ := Db.insertPayment_ok inserted
          exact ⟨_, committed⟩

/-- A pay call that runs alone leaves what `pay` leaves. -/
theorem pay_alone [PostgresServer] (env : PayEnvironment)
    (keyed : (db.booking.map Booking.id).Nodup) (bookingId : Uuid) (snap : HttpResponse)
    (now : Instant) (log : List Entry) :
    ∃ later, Reached env (Shared.solo db none log)
      (Shared.solo ((pay env bookingId snap now db).database db) none later) := by
  unfold pay
  cases found : db.bookingById bookingId with
  | none => exact ⟨log, .refl⟩
  | some booking =>
    obtain rfl : booking.id = bookingId := Db.bookingById_id found
    dsimp only
    cases able : forGatewayOrThrow env.gateway env.decrypt booking.tenantId db with
    | error thrown => exact ⟨log, .refl⟩
    | ok credential =>
      dsimp only
      unfold payInTransaction
      cases loaded : lockAndLoad booking.tenantId booking.id db with
      | none => exact ⟨log, .refl⟩
      | some ctx =>
        dsimp only
        by_cases pending : readStatus booking.tenantId booking.id
            (expireLapsedHolds booking.tenantId ctx.unitId now db) = some .pendingPayment
        · rw [if_neg (not_not.mpr pending)]
          cases total : ctx.totalPriceIdr with
          | none => exact ⟨log, .refl⟩
          | some totalPriceIdr =>
            have payable : Reached env (Shared.solo db none log) _ :=
              payable_alone keyed found (by rw [able]; rfl) loaded pending total
            dsimp only
            cases searched : findOpenSession booking.id
                (expireLapsedHolds booking.tenantId ctx.unitId now db) with
            | error thrown => exact ⟨log, .refl⟩
            | ok session =>
              cases session with
              | none =>
                exact mint_alone (sweep_eq keyed booking.tenantId ctx.unitId now) rfl searched
                  payable snap
              | some opened =>
                dsimp only
                cases framed : toResponse env.isUrl opened.provider
                    ⟨opened.token, opened.redirectUrl⟩ opened.amountIdr totalPriceIdr with
                | error thrown => exact ⟨log, .refl⟩
                | ok response =>
                  have same := sweep_eq keyed booking.tenantId ctx.unitId now
                  rw [← same] at searched
                  have answered := payable.go (.reuse 0 _ totalPriceIdr ctx.depositPct opened
                    response _ rfl searched framed)
                  have committed := answered.commit (.commitPay 0 _ (some opened) 0 response _ rfl)
                  rw [same] at committed
                  exact ⟨_, committed⟩
        · rw [if_pos pending]
          exact ⟨log, .refl⟩

end Solo

end Sambung
