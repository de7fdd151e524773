/-
This file proves that an event is applied at most once, and whole.

An event is on record exactly when the delivery that applied it has committed, and
no second delivery commits an event that is on record. So however deliveries,
reads, cancels, sweeps and crashes interleave, a redelivery changes nothing. A
booking is confirmed out of `pending_payment`, which nothing brings back, so it is
confirmed once, announced by the one call that confirmed it, and left alone by
every event after that.

The record of a run is a list of entries, one for each commit that applied an
event and one for each announcement. `Commit.recorded` says what a commit adds to
it, and the run follows by the induction over effects: the entries of events are
in the table, each once. Announcements need an invariant of their own,
`Shared.Announced`, since a call announces after its commit and may crash in
between.
-/

import Sambung.Serial
import Sambung.Settlement

namespace Sambung

/-! ### What is on record -/

/-- The provider and id of the event an entry applied. -/
def Entry.event : Entry → Option (String × String)
  | .applied _ _ .unknownOrder => none
  | .applied provider event _ => some (provider, event.providerEventId)
  | _ => none

/-- The booking an entry announced. -/
def Entry.notification : Entry → Option Uuid
  | .notified bookingId => some bookingId
  | _ => none

/-- The provider and id of every event on record. -/
def Db.recordedEvents (db : Db) : List (String × String) :=
  db.paymentEvent.map fun row => (row.provider, row.providerEventId)

theorem Db.eventUnrecorded_iff {db : Db} {provider providerEventId : String} :
    db.EventUnrecorded provider providerEventId ↔
      (provider, providerEventId) ∉ db.recordedEvents := by
  unfold Db.EventUnrecorded Db.recordedEvents
  simp [List.mem_map]

/-- The event of a delivery under way, with what it has resolved so far. -/
def Phase.event : Phase → Option ParsedPaymentEvent
  | .received event => some event
  | .resolved event _ => some event
  | .recorded event _ => some event
  | .paymentUpdated event _ => some event
  | .applied event _ => some event
  | _ => none

/-- The party is delivering the event. -/
def Shared.Delivers (shared : Shared) (party : Nat) (event : ParsedPaymentEvent) : Prop :=
  ∃ txn ∈ shared.txns party, txn.phase.event = some event

section Commits

variable {env : PayEnvironment} {db after : Db} {entries : List Entry}

theorem applyOutcome_result_known (event : ParsedPaymentEvent) (pay : Payment) (db : Db) :
    (applyOutcome event pay db).1 ≠ .unknownOrder := by
  unfold applyOutcome
  split
  · intro same
    cases same
  · split
    all_goals
      intro same
      cases same

theorem Entry.event_applied (provider : String) (event : ParsedPaymentEvent)
    {result : ApplyResult} (known : result ≠ .unknownOrder) :
    (Entry.applied provider event result).event = some (provider, event.providerEventId) := by
  cases result with
  | unknownOrder => exact absurd rfl known
  | amountMismatch bookingId expected got => rfl
  | settlement bookingId confirmed => rfl
  | failure bookingId => rfl
  | noop outcome => rfl

/-- A commit puts on record the events it applies, each for the first time. -/
theorem Commit.recorded [PostgresServer] (commit : Commit env db entries after) :
    after.recordedEvents = db.recordedEvents ++ entries.filterMap Entry.event ∧
      (entries.filterMap Entry.event).Nodup ∧
      ∀ key ∈ entries.filterMap Entry.event, key ∉ db.recordedEvents := by
  have quiet : after.paymentEvent = db.paymentEvent → entries.filterMap Entry.event = [] →
      after.recordedEvents = db.recordedEvents ++ entries.filterMap Entry.event ∧
        (entries.filterMap Entry.event).Nodup ∧
        ∀ key ∈ entries.filterMap Entry.event, key ∉ db.recordedEvents := by
    intro same none
    rw [none, List.append_nil, Db.recordedEvents, same]
    exact ⟨rfl, List.nodup_nil, fun key member => (List.not_mem_nil member).elim⟩
  cases commit with
  | nothing => exact quiet rfl rfl
  | unknown event => exact quiet rfl rfl
  | announce bookingId => exact quiet rfl rfl
  | update status ids writes updates => exact quiet rfl rfl
  | reuse call opened gatewayCalls response framed ids writes updates => exact quiet rfl rfl
  | mint call gatewayCalls response framed ids writes updates row mints => exact quiet rfl rfl
  | event event pay named recordable =>
    have entry := Entry.event_applied env.gateway.provider event
      (applyOutcome_result_known event pay db)
    have listed : [Entry.applied env.gateway.provider event (applyOutcome event pay db).1].filterMap
        Entry.event = [(env.gateway.provider, event.providerEventId)] := by
      rw [List.filterMap_cons_some entry, List.filterMap_nil]
    rw [listed, Db.recordedEvents, applyOutcome_paymentEvent]
    refine ⟨?_, List.nodup_singleton _, fun key member => ?_⟩
    · exact List.map_append
    · rw [List.mem_singleton.mp member]
      exact Db.eventUnrecorded_iff.mp recordable.2

/-- A delivery that confirms a booking finds it pending and leaves it decided. -/
theorem applyOutcome_confirmed (bookings : (db.booking.map Booking.id).Nodup)
    {event : ParsedPaymentEvent} {pay : Payment} {bookingId : Uuid}
    (confirmed : (applyOutcome event pay db).1 = .settlement bookingId true) :
    db.bookingStatus bookingId = some .pendingPayment ∧
      (applyOutcome event pay db).2.bookingStatus bookingId ≠ some .pendingPayment := by
  rw [applyOutcome_result bookings] at confirmed
  rw [applyOutcome_database]
  split at confirmed
  · cases confirmed
  · rename_i same
    rw [if_pos (not_not.mp same)]
    cases outcome : event.outcome with
    | settlement =>
      rw [outcome] at confirmed
      simp only [ApplyResult.settlement.injEq, decide_eq_true_eq] at confirmed
      obtain ⟨rfl, pending⟩ := confirmed
      exact ⟨pending, confirmBooking_decided (db.settlePayment pay.id .paid) pay.bookingId⟩
    | failure => simp [outcome] at confirmed
    | pending => simp [outcome] at confirmed
    | ignore => simp [outcome] at confirmed

/-- Recording the event changes nothing the outcome reads, so it makes no difference that it comes
first. -/
theorem applyOutcome_recordEvent (event : ParsedPaymentEvent) (pay : Payment) (row : PaymentEvent)
    (db : Db) :
    (applyOutcome event pay (db.recordEvent row)).1 = (applyOutcome event pay db).1 := by
  unfold applyOutcome
  split
  · rfl
  · cases event.outcome <;> rfl

theorem Commit.confirmed [PostgresServer] (commit : Commit env db entries after)
    (bookings : (db.booking.map Booking.id).Nodup) {event : ParsedPaymentEvent} {bookingId : Uuid}
    (confirmed : .applied env.gateway.provider event (.settlement bookingId true) ∈ entries) :
    db.bookingStatus bookingId = some .pendingPayment ∧
      after.bookingStatus bookingId ≠ some .pendingPayment := by
  cases commit with
  | event applied pay named recordable =>
    have told : ApplyResult.settlement bookingId true = (applyOutcome applied pay db).1 := by
      have same := List.mem_singleton.mp confirmed
      injection same
    let recorded := db.recordEvent (applied.row env.gateway.provider pay.bookingId)
    have keyed : (recorded.booking.map Booking.id).Nodup := bookings
    exact applyOutcome_confirmed keyed ((applyOutcome_recordEvent applied pay _ db).trans told.symm)
  | nothing | update => exact (List.not_mem_nil confirmed).elim
  | unknown | announce | reuse | mint => cases List.mem_singleton.mp confirmed

end Commits

/-! ### What is announced -/

/-- Whoever announces a confirmation is the only one who does or did, and the booking is not
pending any more. -/
structure Shared.Announced (shared : Shared) : Prop where
  once : (shared.log.filterMap Entry.notification).Nodup
  unannounced : ∀ party bookingId, shared.Announces party bookingId →
    bookingId ∉ shared.log.filterMap Entry.notification
  sole : ∀ party other bookingId, shared.Announces party bookingId →
    shared.Announces other bookingId → party = other
  decided : ∀ bookingId, (∃ party, shared.Announces party bookingId) ∨
    bookingId ∈ shared.log.filterMap Entry.notification →
    shared.db.bookingStatus bookingId ≠ some .pendingPayment

section Announced

variable {env : PayEnvironment} {shared after : Shared} {party : Nat} {entries : List Entry}

theorem Shared.announced_start (db : Db) : (Shared.start db).Announced where
  once := List.nodup_nil
  unannounced _ _ announces := nomatch announces.choose_spec.1
  sole _ _ _ announces := nomatch announces.choose_spec.1
  decided _ told := by
    rcases told with ⟨party, txn, runs, -⟩ | member
    · cases runs
    · exact (List.not_mem_nil member).elim

theorem Commit.notification [PostgresServer] {db later : Db}
    (commit : Commit env db entries later) :
    entries.filterMap Entry.notification = [] ∨ ∃ bookingId, entries = [.notified bookingId] := by
  cases commit with
  | announce bookingId => exact Or.inr ⟨bookingId, rfl⟩
  | _ => exact Or.inl rfl

/-- An entry of an effect that announces is the announcement its party had left to make. -/
theorem Effect.notification [PostgresServer] (effect : Effect env shared party after entries) :
    entries.filterMap Entry.notification = [] ∨
      ∃ bookingId, entries.filterMap Entry.notification = [bookingId] ∧
        shared.Announces party bookingId ∧ ¬ after.Announces party bookingId := by
  rcases effect.commit.notification with none | ⟨bookingId, rfl⟩
  · exact Or.inl none
  · exact Or.inr ⟨bookingId, rfl, effect.notified bookingId List.mem_cons_self⟩

/-- Who announces after an effect announced before it, or has just confirmed the booking. -/
theorem Effect.announced [PostgresServer] (effect : Effect env shared party after entries)
    (sound : shared.Sound env) {other : Nat} {bookingId : Uuid}
    (announces : after.Announces other bookingId) :
    (other ≠ party ∧ shared.Announces other bookingId) ∨
      (other = party ∧ shared.db.bookingStatus bookingId = some .pendingPayment ∧
        after.db.bookingStatus bookingId ≠ some .pendingPayment) := by
  by_cases same : other = party
  · obtain ⟨event, confirmed⟩ := effect.announces bookingId (same ▸ announces)
    exact Or.inr ⟨same, effect.commit.confirmed sound.bookings confirmed⟩
  · refine Or.inl ⟨same, ?_⟩
    unfold Shared.Announces at announces ⊢
    rwa [effect.others other same] at announces

/-- Every effect keeps announcements apart: a booking just confirmed was pending, so nobody had
announced it. -/
theorem Shared.Announced.step [PostgresServer] (announced : shared.Announced)
    (sound : shared.Sound env) (effect : Effect env shared party after entries) :
    after.Announced := by
  have told : after.log.filterMap Entry.notification =
      shared.log.filterMap Entry.notification ++ entries.filterMap Entry.notification := by
    rw [effect.log, List.filterMap_append]
  have first : ∀ bookingId, shared.db.bookingStatus bookingId = some .pendingPayment →
      (∀ other, ¬ shared.Announces other bookingId) ∧
        bookingId ∉ shared.log.filterMap Entry.notification := fun bookingId pending =>
    ⟨fun other announces => announced.decided bookingId (Or.inl ⟨other, announces⟩) pending,
      fun member => announced.decided bookingId (Or.inr member) pending⟩
  have fresh : ∀ bookingId, shared.Announces party bookingId →
      bookingId ∉ shared.log.filterMap Entry.notification := announced.unannounced party
  refine ⟨?_, fun other bookingId announces => ?_, fun other another bookingId announces also => ?_,
    fun bookingId known => ?_⟩
  · rw [told]
    rcases effect.notification with none | ⟨bookingId, one, before, -⟩
    · rw [none, List.append_nil]
      exact announced.once
    · rw [one, List.nodup_append]
      refine ⟨announced.once, List.nodup_singleton _, fun known member newer last => ?_⟩
      rw [List.mem_singleton.mp last]
      rintro rfl
      exact fresh known before member
  · rw [told, List.mem_append]
    rintro (old | new)
    · rcases effect.announced sound announces with ⟨-, before⟩ | ⟨-, pending, -⟩
      · exact announced.unannounced other bookingId before old
      · exact (first bookingId pending).2 old
    · rcases effect.notification with none | ⟨one, only, before, silent⟩
      · rw [none] at new
        exact List.not_mem_nil new
      · rw [only] at new
        obtain rfl := List.mem_singleton.mp new
        rcases effect.announced sound announces with ⟨apart, still⟩ | ⟨rfl, -, -⟩
        · exact apart (announced.sole other party bookingId still before)
        · exact silent announces
  · rcases effect.announced sound announces with ⟨-, before⟩ | ⟨rfl, pending, -⟩
    · rcases effect.announced sound also with ⟨-, alsoBefore⟩ | ⟨-, pending, -⟩
      · exact announced.sole other another bookingId before alsoBefore
      · exact absurd before ((first bookingId pending).1 other)
    · rcases effect.announced sound also with ⟨-, alsoBefore⟩ | ⟨rfl, -, -⟩
      · exact absurd alsoBefore ((first bookingId pending).1 another)
      · rfl
  · rcases known with ⟨other, announces⟩ | member
    · rcases effect.announced sound announces with ⟨-, before⟩ | ⟨-, -, decided⟩
      · exact effect.commit.lapsed (announced.decided bookingId (Or.inl ⟨other, before⟩))
      · exact decided
    · rw [told, List.mem_append] at member
      refine effect.commit.lapsed (announced.decided bookingId ?_)
      rcases member with old | new
      · exact Or.inr old
      · rcases effect.notification with none | ⟨one, only, before, -⟩
        · rw [none] at new
          exact (List.not_mem_nil new).elim
        · rw [only] at new
          exact Or.inl ⟨party, (List.mem_singleton.mp new) ▸ before⟩

end Announced

/-! ### Runs -/

section Run

variable {env : PayEnvironment} {first last shared after : Shared} {party : Nat}

/-- A run puts on record the events it applies, each for the first time. -/
theorem Reached.recorded [PostgresServer] (run : Reached env first last) (sound : first.Sound env) :
    ∃ entries, last.log = first.log ++ entries ∧
      last.db.recordedEvents = first.db.recordedEvents ++ entries.filterMap Entry.event ∧
      (entries.filterMap Entry.event).Nodup ∧
      ∀ key ∈ entries.filterMap Entry.event, key ∉ first.db.recordedEvents := by
  refine (run.induction sound (fun state => ∃ entries, state.log = first.log ++ entries ∧
    state.db.recordedEvents = first.db.recordedEvents ++ entries.filterMap Entry.event ∧
    (entries.filterMap Entry.event).Nodup ∧
    ∀ key ∈ entries.filterMap Entry.event, key ∉ first.db.recordedEvents)
    ⟨[], (List.append_nil _).symm, (List.append_nil _).symm, List.nodup_nil,
      fun key member => (List.not_mem_nil member).elim⟩ ?_).2
  rintro before actor next entries - ⟨known, log, recorded, once, new⟩ effect
  obtain ⟨grown, onceMore, fresh⟩ := effect.commit.recorded
  refine ⟨known ++ entries, ?_, ?_, ?_, fun key member => ?_⟩
  · rw [effect.log, log, List.append_assoc]
  · rw [grown, recorded, List.filterMap_append, List.append_assoc]
  · rw [List.filterMap_append, List.nodup_append]
    refine ⟨once, onceMore, fun key member newer newerMember => ?_⟩
    rintro rfl
    refine fresh key newerMember ?_
    rw [recorded]
    exact List.mem_append_right _ member
  · rw [List.filterMap_append, List.mem_append] at member
    rcases member with old | latest
    · exact new key old
    · have absent := fresh key latest
      rw [recorded] at absent
      exact fun member => absent (List.mem_append_left _ member)

theorem Reached.lapsed [PostgresServer] (run : Reached env first last) (sound : first.Sound env)
    {id : Uuid} (decided : first.db.bookingStatus id ≠ some .pendingPayment) :
    last.db.bookingStatus id ≠ some .pendingPayment :=
  (run.induction sound (fun state => state.db.bookingStatus id ≠ some .pendingPayment) decided
    fun _ _ _ _ _ before effect => effect.commit.lapsed before).2

theorem Reached.sound [PostgresServer] (run : Reached env first last) (sound : first.Sound env) :
    last.Sound env :=
  (run.induction sound (fun _ => True) trivial fun _ _ _ _ _ _ _ => trivial).1

theorem Reached.announced [PostgresServer] (run : Reached env first last) (sound : first.Sound env)
    (announced : first.Announced) : last.Announced :=
  (run.induction sound Shared.Announced announced fun _ _ _ _ before known effect =>
    known.step before effect).2

/-- The outcome of an event is the same for every reading of its payment. -/
theorem applyOutcome_names {event : ParsedPaymentEvent} {pay row : Payment} {db : Db}
    (sameId : row.id = pay.id) (sameBooking : row.bookingId = pay.bookingId)
    (sameAmount : row.amountIdr = pay.amountIdr) :
    (applyOutcome event row db).2 = (applyOutcome event pay db).2 := by
  rw [applyOutcome_database, applyOutcome_database, sameId, sameBooking, sameAmount]

/-- A recordable event on the payment it names is recorded and applied. -/
theorem ParsedPaymentEvent.Names.recordAndApply [PostgresServer] {event : ParsedPaymentEvent}
    {pay : Payment} {db : Db} {provider : String} (named : event.Names pay db)
    (recordable : event.Recordable provider db) :
    (recordAndApply provider event db).database db =
      (applyOutcome event pay (db.recordEvent (event.row provider pay.bookingId))).2 := by
  obtain ⟨row, found, sameId, sameBooking, sameAmount⟩ := named
  rw [recordAndApply_recorded found recordable, sameBooking]
  exact applyOutcome_names sameId sameBooking sameAmount

/-- A delivery commits what `recordAndApply` does to the committed rows, or changes nothing. -/
theorem Commit.delivers [PostgresServer] {db later : Db} {event : ParsedPaymentEvent}
    {result : ApplyResult}
    (commit : Commit env db [.applied env.gateway.provider event result] later) :
    later = db ∨
      ((env.gateway.provider, event.providerEventId) ∉ db.recordedEvents ∧
        (env.gateway.provider, event.providerEventId) ∈ later.recordedEvents ∧
        later = (recordAndApply env.gateway.provider event db).database db) := by
  have recorded := commit.recorded
  cases commit with
  | unknown => exact Or.inl rfl
  | event event pay named recordable =>
    have entry := Entry.event_applied env.gateway.provider event
      (applyOutcome_result_known event pay db)
    rw [List.filterMap_cons_some entry, List.filterMap_nil] at recorded
    obtain ⟨grown, -, fresh⟩ := recorded
    refine Or.inr ⟨fresh _ List.mem_cons_self, ?_, (named.recordAndApply recordable).symm⟩
    rw [grown]
    exact List.mem_append_right _ List.mem_cons_self

theorem Step.delivers [PostgresServer] (step : Step env shared party after)
    (sound : shared.Sound env) {event : ParsedPaymentEvent}
    (delivers : shared.Delivers party event) :
    after.db = shared.db ∨
      ((env.gateway.provider, event.providerEventId) ∉ shared.db.recordedEvents ∧
        (env.gateway.provider, event.providerEventId) ∈ after.db.recordedEvents ∧
        after.db = (recordAndApply env.gateway.provider event shared.db).database shared.db) := by
  obtain ⟨txn, runs, delivering⟩ := delivers
  cases step with
  | commitEvent other result writes otherRuns =>
    cases Option.some.inj (otherRuns.symm.trans runs)
    cases delivering
    exact (commit_event sound otherRuns).delivers
  | commitPay call found gatewayCalls response writes otherRuns =>
    cases Option.some.inj (otherRuns.symm.trans runs)
    cases delivering
  | commitUpdate writes otherRuns =>
    cases Option.some.inj (otherRuns.symm.trans runs)
    cases delivering
  | _ => exact Or.inl rfl

/-! ### At most once -/

/-- What holds in a state a run has reached, of the run behind it and of every run from it on. An
event on record is applied to no booking and no payment again, and no booking an event finds decided
moves. -/
structure AtMostOnce [PostgresServer] (env : PayEnvironment) (start : Db) (shared : Shared) :
    Prop where
  /-- An event is on record exactly if the delivery that applied it has committed. -/
  recorded : shared.db.recordedEvents =
    start.recordedEvents ++ shared.log.filterMap Entry.event
  once : (shared.log.filterMap Entry.event).Nodup
  new : ∀ key ∈ shared.log.filterMap Entry.event, key ∉ start.recordedEvents
  /-- `notifyBookingConfirmed` is called once for a booking at most. -/
  notified : (shared.log.filterMap Entry.notification).Nodup
  /-- A delivery commits whole, as if it ran alone, or changes nothing. -/
  atomic : ∀ party after event, Step env shared party after → shared.Delivers party event →
    after.db = shared.db ∨
      ((env.gateway.provider, event.providerEventId) ∉ shared.db.recordedEvents ∧
        (env.gateway.provider, event.providerEventId) ∈ after.db.recordedEvents ∧
        after.db = (recordAndApply env.gateway.provider event shared.db).database shared.db)
  /-- After a delivery that changed anything no delivery of the same event does. -/
  appliedOnce : ∀ party after event, Step env shared party after → shared.Delivers party event →
    after.db ≠ shared.db → ∀ later, Reached env after later → ∀ other next again,
      Step env later other next → later.Delivers other again →
      again.providerEventId = event.providerEventId → next.db = later.db
  /-- A booking that is confirmed is never pending again, so it is confirmed once at most. -/
  confirmedOnce : ∀ party after id, Step env shared party after →
    shared.db.bookingStatus id = some .pendingPayment →
    after.db.bookingStatus id = some .confirmed → ∀ later, Reached env after later →
      later.db.bookingStatus id ≠ some .pendingPayment
  /-- No event moves a booking out of `confirmed`, `cancelled` or `expired`. -/
  final : ∀ party after event, Step env shared party after → shared.Delivers party event →
    ∀ id status, shared.db.bookingStatus id = some status →
      status ∈ [BookingStatus.confirmed, .cancelled, .expired] →
      after.db.bookingStatus id = some status

theorem recordAndApply_decided [PostgresServer] {event : ParsedPaymentEvent} {db : Db}
    {provider : String} {id : Uuid} (decided : db.bookingStatus id ≠ some .pendingPayment) :
    ((recordAndApply provider event db).database db).bookingStatus id = db.bookingStatus id := by
  rw [recordAndApply_database]
  cases event.payment db with
  | none => rfl
  | some pay =>
    dsimp only
    split
    · exact applyOutcome_decided (show (db.recordEvent _).bookingStatus id ≠ _ from decided)
    · rfl

/-- However deliveries, reads, pays, cancels, sweeps and crashes interleave, an event is applied at
most once, and whole. The calls step through their statements over one database under Postgres's row
locks, and any of them may stop for good at any point. At the start ids tell the bookings and the
payments apart, no call is under way, and any events may be on record. -/
theorem webhook_applies_at_most_once [PostgresServer] {db : Db}
    (bookings : (db.booking.map Booking.id).Nodup) (payments : (db.payment.map Payment.id).Nodup)
    (run : Reached env (Shared.start db) shared) :
    AtMostOnce env db shared := by
  have start : (Shared.start db).Sound env := Shared.sound_start bookings payments
  have sound := run.sound start
  obtain ⟨entries, log, recorded, once, new⟩ := run.recorded start
  rw [show entries = shared.log from log.symm] at recorded once new
  refine {
    recorded, once, new
    notified := (run.announced start (Shared.announced_start db)).once
    atomic := fun party after event step delivers => step.delivers sound delivers
    appliedOnce := ?_
    confirmedOnce := ?_
    final := ?_ }
  · intro party after event step delivers changed later afterwards other next again nextStep
      redelivers same
    obtain ⟨-, onRecord, -⟩ := (step.delivers sound delivers).resolve_left changed
    obtain ⟨_, -, grown, -, -⟩ := afterwards.recorded (step.sound sound)
    have still : (env.gateway.provider, again.providerEventId) ∈ later.db.recordedEvents := by
      rw [grown, same]
      exact List.mem_append_left _ onRecord
    exact (nextStep.delivers (afterwards.sound (step.sound sound)) redelivers).resolve_right
      fun applied => applied.1 still
  · intro party after id step pending confirmed later afterwards
    exact afterwards.lapsed (step.sound sound) (by rw [confirmed]; exact fun same => nomatch same)
  · intro party after event step delivers id status found decided
    have lapsed : shared.db.bookingStatus id ≠ some .pendingPayment := by
      rw [found]
      rintro same
      cases Option.some.inj same
      simp at decided
    rcases step.delivers sound delivers with same | ⟨-, -, same⟩
    · rw [same]
      exact found
    · rw [same, recordAndApply_decided lapsed]
      exact found

end Run

/-! ### The villa's settlement, delivered twice -/

attribute [local instance] PostgresServer.uncompressed

/-- The settlement is applied, and its redelivery is not. -/
theorem villa_redelivery_applied_once :
    let settled := villaSettled.push.run villaEnvironment.gateway villaEnvironment.decrypt
      villaPending
    ∃ log, AtMostOnce villaEnvironment villaPending (Shared.solo
      (villaSettled.push.run villaEnvironment.gateway villaEnvironment.decrypt settled) none
        log) := by
  intro settled
  have bookings : (villaPending.booking.map Booking.id).Nodup := by decide
  have payments : (villaPending.payment.map Payment.id).Nodup := by decide
  obtain ⟨log, first⟩ : ∃ log, Reached villaEnvironment (Shared.start villaPending)
      (Shared.solo settled none log) := by
    rw [Shared.start_eq_solo]
    exact deliver_alone villaEnvironment bookings payments villaSettled.push []
  clear_value settled
  have sound := first.sound (Shared.sound_start bookings payments)
  obtain ⟨later, second⟩ := deliver_alone villaEnvironment sound.bookings sound.payments
    villaSettled.push log
  exact ⟨later, webhook_applies_at_most_once bookings payments (first.trans second)⟩

end Sambung
