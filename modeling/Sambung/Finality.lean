/-
This file proves which cancellations and expiries are final.

A booking leaves a terminal status in one way only: a sync's upsert sets it to
`confirmed` through `ON CONFLICT DO UPDATE`, which has no guard on the status. The
upsert finds the row by its connection and its UID, and a hold has neither. So an
expired hold never comes back, and a cancelled booking never comes back unless a
later feed of its connection carries its UID.

`Booking.Steps` says what a transaction may do to one row, and names redelivery as
the exception; it is reflexive and composes, so that one lemma for each primitive
write gives a lemma for each transaction, and an induction over the run the rest.
That no hold is a connection's row is kept along the way. The last section shows
the exception happen: an unchanged feed confirms a stay again that the owner had
cancelled.
-/

import Sambung.System

namespace Sambung

/-! ### The steps of a booking row -/

/-- The transaction carries an event whose upsert would find the row. -/
def Transaction.Redelivers (t : Transaction) (row : Booking) : Prop :=
  match t with
  | .settleFeed conn (.ok events) _ _ => ∃ event ∈ events, row.ImportedAs conn.id event.uid
  | _ => False

/-- What a write of the transaction does to a row: its origin stays, it never becomes a hold,
and its status changes only while it occupies its nights or where the row is redelivered. -/
structure Booking.Steps (t : Transaction) (row later : Booking) : Prop where
  connection : later.channelConnectionId = row.channelConnectionId
  uid : later.externalUid = row.externalUid
  held : later.status = .pendingPayment → row.status = .pendingPayment
  status : later.status = row.status ∨ row.status.Occupying ∨ t.Redelivers row

theorem Booking.Steps.refl (t : Transaction) (row : Booking) : row.Steps t row :=
  ⟨rfl, rfl, fun held => held, Or.inl rfl⟩

theorem Transaction.redelivers_congr {t : Transaction} {row later : Booking}
    (connection : later.channelConnectionId = row.channelConnectionId)
    (uid : later.externalUid = row.externalUid) : t.Redelivers later ↔ t.Redelivers row := by
  cases t with
  | settleFeed conn feed faults now =>
    cases feed with
    | error error => exact Iff.rfl
    | ok events => simp only [Redelivers, Booking.ImportedAs, connection, uid]
  | _ => exact Iff.rfl

theorem Booking.Steps.trans {t : Transaction} {a b c : Booking} (first : a.Steps t b)
    (second : b.Steps t c) : a.Steps t c where
  connection := second.connection.trans first.connection
  uid := second.uid.trans first.uid
  held pending := first.held (second.held pending)
  status := by
    rcases first.status with kept | occupying | redelivered
    · rcases second.status with stayed | occupying | redelivered
      · exact Or.inl (stayed.trans kept)
      · exact Or.inr (Or.inl (kept ▸ occupying))
      · exact Or.inr (Or.inr
          ((Transaction.redelivers_congr first.connection first.uid).mp redelivered))
    · exact Or.inr (Or.inl occupying)
    · exact Or.inr (Or.inr redelivered)

/-- A new row is no hold of a connection. -/
abbrev Booking.BornUnlinked (row : Booking) : Prop :=
  row.status = .pendingPayment → row.channelConnectionId = none

theorem Booking.BornUnlinked.grow {t : Transaction} {row later : Booking}
    (born : row.BornUnlinked) (steps : row.Steps t later) : later.BornUnlinked := by
  intro pending
  rw [steps.connection]
  exact born (steps.held pending)

/-- Two states of the booking table, with every row a step apart. -/
abbrev BookingsStep (t : Transaction) (db after : Db) : Prop :=
  Table.Evolves Booking.id (Booking.Steps t) Booking.BornUnlinked db.booking after.booking

theorem bookingsStep_updateWhere (t : Transaction) (condition : Booking → Prop)
    [DecidablePred condition] (change : Booking → Booking)
    (keyed : ∀ row, condition row → (change row).id = row.id)
    (changed : ∀ row, condition row → row.Steps t (change row)) (db : Db) :
    BookingsStep t db { db with booking := Table.updateWhere condition change db.booking } :=
  Table.Evolves.updateWhere keyed (Booking.Steps.refl t) changed db.booking

/-- A guarded status update moves rows that occupy their nights. -/
theorem setBookingStatus_steps (t : Transaction) {status : BookingStatus}
    (terminal : status ≠ .pendingPayment) (condition : Booking → Prop)
    [DecidablePred condition] (guarded : ∀ row, condition row → row.status.Occupying) (db : Db) :
    BookingsStep t db (db.setBookingStatus status condition) :=
  bookingsStep_updateWhere t condition (Booking.setStatus status) (fun _ _ => rfl)
    (fun row matched =>
      ⟨rfl, rfl, fun held => absurd held terminal, Or.inr (Or.inl (guarded row matched))⟩) db

theorem bookingsStep_refl (t : Transaction) {db after : Db} (same : after.booking = db.booking) :
    BookingsStep t db after := by
  rw [BookingsStep, same]
  exact Table.Evolves.refl (Booking.Steps.refl t) db.booking

/-- Applying an event confirms at most a pending booking. -/
theorem applyOutcome_steps (t : Transaction) (event : ParsedPaymentEvent) (pay : Payment)
    (db : Db) : BookingsStep t db (applyOutcome event pay db).2 := by
  rw [applyOutcome_database]
  split
  · cases event.outcome with
    | settlement =>
      refine setBookingStatus_steps t (by decide) (Booking.Confirmable pay.bookingId)
        (fun row matched => ?_) (db.settlePayment pay.id .paid)
      rw [matched.2]
      decide
    | failure => exact bookingsStep_refl t rfl
    | pending => exact bookingsStep_refl t rfl
    | ignore => exact bookingsStep_refl t rfl
  · exact bookingsStep_refl t rfl

/-- What one write does to the rows of the booking table. -/
theorem Write.bookingsStep [PostgresServer] {t : Transaction} {db after : Db}
    (write : Write t db after) :
    BookingsStep t db after := by
  cases write with
  | expire condition pending =>
    refine setBookingStatus_steps t (by decide) condition (fun row matched => ?_) db
    rw [pending row matched]
    decide
  | book row inserted unlinked status =>
    rw [BookingsStep, inserted.stored]
    exact Table.Evolves.append (Booking.Steps.refl t) (fun _ => unlinked) db.booking
  | cancel tenantId id =>
    exact setBookingStatus_steps _ (by decide) _ (fun row matched => matched.2.2) db
  | settle provider event pay found recordable =>
    have steps := applyOutcome_steps (.settleEvent provider (.ok (some event))) event pay
      (db.recordEvent (event.row provider pay.bookingId))
    exact steps
  | land conn events faults now event member checkIn checkOut landed =>
    cases landed with
    | inserted id absent stored =>
      rw [BookingsStep, stored.stored]
      refine Table.Evolves.append (Booking.Steps.refl _) (fun held => ?_) db.booking
      cases held
    | moved existing existingMember imported checked accepted stored =>
      rw [stored]
      exact bookingsStep_updateWhere (.settleFeed conn (.ok events) faults now)
        (Booking.ImportedAs conn.id event.uid) (Booking.moveTo checkIn checkOut) (fun _ _ => rfl)
        (fun row matched =>
          ⟨rfl, rfl, (fun held => nomatch held), Or.inr (Or.inr ⟨event, member, matched⟩)⟩) db
  | withdraw conn events faults now =>
    refine setBookingStatus_steps _ (by decide) _ (fun row matched => ?_) db
    rw [matched.2.2.1]
    decide
  | inbox => exact bookingsStep_refl _ rfl
  | connection => exact bookingsStep_refl _ rfl
  | mint => exact bookingsStep_refl _ rfl
  | handled => exact bookingsStep_refl _ rfl

/-- What a whole transaction does to the rows of the booking table. -/
theorem Transaction.bookingsStep [PostgresServer] (env : PayEnvironment) (t : Transaction)
    (db : Db) :
    BookingsStep t db (t.run env db) := by
  have writes := t.run_writes env db
  generalize t.run env db = after at writes ⊢
  induction writes with
  | refl => exact bookingsStep_refl t rfl
  | tail _ write inductionHypothesis =>
    exact inductionHypothesis.trans (fun _ _ _ => Booking.Steps.trans)
      (fun _ _ => Booking.BornUnlinked.grow) write.bookingsStep

/-! ### Holds and the channel -/

/-- No hold is a connection's row: the guest funnel writes neither a connection nor a UID, and
an import is confirmed when it is born. -/
def Db.HoldsUnlinked (db : Db) : Prop :=
  ∀ id row, db.bookingById id = some row → row.BornUnlinked

theorem Db.HoldsUnlinked.step {db after : Db} {t : Transaction} (unlinked : db.HoldsUnlinked)
    (steps : BookingsStep t db after) : after.HoldsUnlinked := by
  intro id row found
  cases earlier : db.bookingById id with
  | none => exact steps.added id row earlier found
  | some before =>
    obtain ⟨later, foundLater, grown⟩ := steps.kept id before earlier
    have same : later = row := Option.some.inj (foundLater.symm.trans found)
    exact same ▸ (unlinked id before earlier).grow grown

theorem Db.HoldsUnlinked.runAll [PostgresServer] {db : Db} (unlinked : db.HoldsUnlinked)
    (env : PayEnvironment) (run : List Transaction) : (runAll env run db).HoldsUnlinked := by
  induction run generalizing db with
  | nil => exact unlinked
  | cons t run inductionHypothesis =>
    exact inductionHypothesis (unlinked.step (t.bookingsStep env db))

/-! ### Terminal statuses -/

/-- A row that does not occupy its nights keeps its status through every run that does not
redeliver it. -/
theorem terminal_runAll [PostgresServer] (env : PayEnvironment) (run : List Transaction) {db : Db}
    {id : Uuid} {row : Booking} (found : db.bookingById id = some row)
    (terminal : ¬ row.status.Occupying) (undelivered : ∀ t ∈ run, ¬ t.Redelivers row) :
    (runAll env run db).bookingStatus id = some row.status := by
  induction run generalizing db row with
  | nil => rw [runAll_nil, Db.bookingStatus, found, Option.map_some]
  | cons t run inductionHypothesis =>
    obtain ⟨later, foundLater, steps⟩ := (t.bookingsStep env db).kept id row found
    have kept : later.status = row.status := by
      rcases steps.status with kept | occupying | redelivered
      · exact kept
      · exact absurd occupying terminal
      · exact absurd redelivered (undelivered t List.mem_cons_self)
    rw [← kept]
    refine inductionHypothesis foundLater (kept ▸ terminal) fun other member redelivered => ?_
    exact undelivered other (List.mem_cons_of_mem _ member)
      ((Transaction.redelivers_congr steps.connection steps.uid).mp redelivered)

/-! ### Cancelled and expired bookings -/

theorem villaHeld_unlinked : villaHeld.HoldsUnlinked := by
  intro id row found pending
  have member := (Table.mem_of_byKey found).1
  rw [List.mem_singleton.mp member]
  rfl

/-- The transaction is the owner's cancel of a booking that occupied its nights. -/
def CancelledByOwner [PostgresServer] (env : PayEnvironment) (t : Transaction) (db : Db) (id : Uuid)
    (row : Booking) : Prop :=
  (∃ tenantId, t = .cancel tenantId id) ∧ db.bookingById id = some row ∧
    row.status.Occupying ∧ (t.run env db).bookingStatus id = some .cancelled

/-- The transaction expired a hold. -/
def ExpiredBySweep [PostgresServer] (env : PayEnvironment) (t : Transaction) (db : Db) (id : Uuid)
    (row : Booking) : Prop :=
  db.bookingById id = some row ∧ row.status = .pendingPayment ∧
    (t.run env db).bookingStatus id = some .expired

/-- In every run from a database whose holds are no connection's rows: a booking the owner's cancel
cancelled stays cancelled as long as no later sync carries its UID, and a hold a sweep expired stays
expired, whatever follows. A sync finds rows by their connection and UID, so it is `unlinked` that
keeps an expired hold out of its reach, and every transaction keeps `unlinked`. Of the runs before
and after, of the tables at the start and of the sync's feeds nothing else is assumed. -/
theorem cancelled_or_expired_stays [PostgresServer] (env : PayEnvironment) {start : Db}
    (unlinked : start.HoldsUnlinked) (before : List Transaction) (t : Transaction)
    (later : List Transaction) (id : Uuid) (row : Booking) :
    (CancelledByOwner env t (runAll env before start) id row →
      (∀ step ∈ later, ¬ step.Redelivers row) →
      (runAll env (before ++ t :: later) start).bookingStatus id = some .cancelled) ∧
    (ExpiredBySweep env t (runAll env before start) id row →
      (runAll env (before ++ t :: later) start).bookingStatus id = some .expired) := by
  rw [runAll_append, runAll_cons]
  have unlinkedNow := unlinked.runAll env before
  generalize runAll env before start = db at unlinkedNow ⊢
  constructor
  · rintro ⟨-, found, -, cancelled⟩ undelivered
    obtain ⟨after, foundAfter, steps⟩ := (t.bookingsStep env db).kept id row found
    have status : after.status = .cancelled := by
      rw [Db.bookingStatus, Db.bookingById, foundAfter] at cancelled
      exact Option.some.inj cancelled
    rw [← status]
    refine terminal_runAll env later foundAfter (by simp [status]) fun step member redelivered => ?_
    exact undelivered step member
      ((Transaction.redelivers_congr steps.connection steps.uid).mp redelivered)
  · rintro ⟨found, pending, expired⟩
    obtain ⟨after, foundAfter, steps⟩ := (t.bookingsStep env db).kept id row found
    have status : after.status = .expired := by
      rw [Db.bookingStatus, Db.bookingById, foundAfter] at expired
      exact Option.some.inj expired
    have ofNoConnection : after.channelConnectionId = none := by
      rw [steps.connection]
      exact unlinkedNow id row found pending
    rw [← status]
    refine terminal_runAll env later foundAfter (by simp [status]) fun step member redelivered => ?_
    cases step with
    | settleFeed conn feed faults now =>
      cases feed with
      | error error => exact redelivered
      | ok events =>
        obtain ⟨event, -, imported⟩ := redelivered
        obtain ⟨ofThisConnection, -⟩ := imported
        rw [ofNoConnection] at ofThisConnection
        cases ofThisConnection
    | _ => exact redelivered

/-- A stay in September, and a later one. -/
def villaGuests : ImportedEvent × ImportedEvent :=
  (⟨"stay", "2026-09-01".toList, "2026-09-03".toList⟩,
    ⟨"later", "2026-09-10".toList, "2026-09-12".toList⟩)

/-- A sync of the villa's Airbnb connection. -/
def villaSync (events : List ImportedEvent) (now : Instant) : Transaction :=
  .settleFeed villaConnection (.ok events) noFaults now

/-- What the owner and the channel do after the cancel: a sync without the cancelled stay, a sweep
and a second cancel. -/
def villaAfterCancel : List Transaction :=
  [villaSync [villaGuests.2] 9, .sweepExpiredHolds 10, .cancel 1 2]

/-- What they do after the sweep: a sync of both stays, and a cancel of the expired hold. -/
def villaAfterSweep : List Transaction :=
  [villaSync [villaGuests.1, villaGuests.2] 9, .cancel 1 1]

attribute [local instance] PostgresServer.uncompressed in
/-- The owner cancels an imported stay and a later sync imports another one without it: the stay
remains cancelled. A hold that a sweep expired remains so too, whatever the channel sells. -/
theorem cancelled_or_expired_stays_villa :
    (runAll villaEnvironment ([villaSync [villaGuests.1] 1] ++ .cancel 1 2 :: villaAfterCancel)
        villaHeld).bookingStatus 2 = some .cancelled ∧
      (runAll villaEnvironment ([villaSync [villaGuests.1] 1] ++ .sweepExpiredHolds 5 ::
        villaAfterSweep) villaHeld).bookingStatus 1 = some .expired := by
  have imported : (runAll villaEnvironment [villaSync [villaGuests.1] 1] villaHeld).bookingById 2 =
      some (importedRow villaConnection "stay" 20697 20699 2) := by decide +kernel
  refine ⟨(cancelled_or_expired_stays villaEnvironment villaHeld_unlinked
      [villaSync [villaGuests.1] 1] (.cancel 1 2) villaAfterCancel 2
      (importedRow villaConnection "stay" 20697 20699 2)).1
        ⟨⟨1, rfl⟩, imported, by decide, by decide +kernel⟩ ?_,
    (cancelled_or_expired_stays villaEnvironment villaHeld_unlinked
      [villaSync [villaGuests.1] 1] (.sweepExpiredHolds 5) villaAfterSweep 1 villaHold).2
        ⟨by decide +kernel, rfl, by decide +kernel⟩⟩
  intro step member
  fin_cases member
  · rintro ⟨event, listed, imported⟩
    rw [List.mem_singleton.mp listed] at imported
    exact absurd imported.2 (by decide)
  · exact id
  · exact id

/-! ### The upsert that reopens -/

/-- An Airbnb calendar with one stay. -/
def stayFeed : IcalFetchResult :=
  fetchedBody (crlfLines ["BEGIN:VCALENDAR", "BEGIN:VEVENT", "UID:stay", "DTSTART:20260801",
    "DTEND:20260803", "END:VEVENT", "END:VCALENDAR"])

attribute [local instance] PostgresServer.uncompressed in
/-- The owner cancels an imported stay; the next sync of the unchanged feed confirms it
again. -/
theorem cancelled_import_reoccupies :
    let sync := fun now db =>
      (syncConnection .counting indonesianFormat villaConnection stayFeed noFaults now db).database
        db
    let imported := sync 1000 villa
    let cancelled := (cancel 1 1 imported).database imported
    imported.bookingStatus 1 = some .confirmed ∧ cancelled.bookingStatus 1 = some .cancelled ∧
      (sync 2000 cancelled).bookingStatus 1 = some .confirmed := by
  decide +kernel

end Sambung
