/-
This file proves how a night can be lost.

Seen from outside, the bookings are a calendar: each night of a unit is held by
one booking or by none. Whatever the services do, a night passes to another
booking only after the first has let it go, and a booking lets a night go in three
ways: the owner cancels it, a sync of its own channel moves or withdraws it, or it
is a hold whose time is up when a sweep runs.

Which sweeps count is said by the row they would match. A checkout sweeps the unit
it asks for, a pay call that of its booking, the cron every unit; a sweep of
another unit or in another tenant leaves the hold as it is, and so does a cancel
by another tenant. An operation that releases nothing keeps the booking's nights,
and the theorem finds in the run the operation that did release them, with the
state it met.
-/

import Sambung.ConnectionLife

namespace Sambung

/-! ### The calendar -/

/-- Who holds the night in the unit. -/
def Db.holder (unitId : Uuid) (night : PgDate) (db : Db) : Option Uuid :=
  (db.booking.find? fun row => row.HoldsNight unitId night).map Booking.id

/-- The booking holds the same nights later on. -/
structure Booking.KeepsNights (row later : Booking) : Prop where
  id : later.id = row.id
  unit : later.unitId = row.unitId
  checkIn : later.checkIn = row.checkIn
  checkOut : later.checkOut = row.checkOut
  occupying : later.status.Occupying

/-- The transaction sweeps the lapsed holds of the booking's unit and tenant at this instant. A
checkout sweeps the unit it asks for, a guest's in the tenant of that unit; a pay call sweeps the
unit of the booking it has locked; the cron job sweeps all units of all tenants. -/
def Transaction.Sweeps (row : Booking) (db : Db) (now : Instant) : Transaction → Prop
  | .createPublicBooking req asked =>
    asked = now ∧ req.unitId = row.unitId ∧ unitExists row.tenantId req.unitId db
  | .createOwnerBooking tenantId req asked =>
    asked = now ∧ req.unitId = row.unitId ∧ tenantId = row.tenantId
  | .expireLapsedHolds tenantId unitId asked =>
    asked = now ∧ unitId = row.unitId ∧ tenantId = row.tenantId
  | .sweepExpiredHolds asked => asked = now
  | .pay tenantId bookingId _ asked =>
    asked = now ∧ tenantId = row.tenantId ∧
      ∃ ctx, lockAndLoad tenantId bookingId db = some ctx ∧ ctx.unitId = row.unitId
  | _ => False

/-- The operation is one that may take its nights from the booking: the owner's cancel of it, a
sweep of its unit that finds it a hold whose time is up, or the end of a sync of its own connection
that has read its feed. -/
def Operation.Releases (row : Booking) (estate : Estate) : Operation → Prop
  | .transaction t _ => t.Cancels row ∨
      row.status = .pendingPayment ∧ ∃ now, t.Sweeps row estate.db now ∧ row.HoldLapsed now
  | .settleSync conn (.ok _) _ _ =>
    conn ∈ estate.syncing ∧ row.channelConnectionId = some conn.id
  | _ => False

section Holder

variable {db : Db} {unitId : Uuid} {night : PgDate} {id : Uuid}

/-- The holder is the one booking that holds the night. -/
theorem Db.BookingsLawful.holder_eq [PostgresServer] (lawful : db.BookingsLawful) :
    db.holder unitId night = some id ↔
      ∃ row ∈ db.booking, row.id = id ∧ row.HoldsNight unitId night := by
  rw [Db.holder, Option.map_eq_some_iff]
  constructor
  · rintro ⟨row, found, rfl⟩
    have holds := List.find?_some found
    exact ⟨row, List.mem_of_find?_eq_some found, rfl, of_decide_eq_true holds⟩
  · rintro ⟨row, member, rfl, holds⟩
    cases found : db.booking.find? fun row => row.HoldsNight unitId night with
    | none =>
      exact absurd (decide_eq_true holds) (List.find?_eq_none.mp found row member)
    | some other =>
      have otherHolds := List.find?_some found
      rw [lawful.holdsNight_unique (List.mem_of_find?_eq_some found) member
        (of_decide_eq_true otherHolds) holds]
      exact ⟨row, rfl, rfl⟩

theorem Booking.KeepsNights.holds {row later : Booking} (keeps : row.KeepsNights later)
    (holds : row.HoldsNight unitId night) : later.HoldsNight unitId night := by
  obtain ⟨ofUnit, -, first, last⟩ := holds
  exact ⟨keeps.unit.trans ofUnit, keeps.occupying, keeps.checkIn ▸ first, keeps.checkOut ▸ last⟩

end Holder

/-! ### One operation -/

section Steps

variable {row : Booking} {db : Db} {estate : Estate}

theorem Booking.KeepsNights.refl (occupying : row.status.Occupying) : row.KeepsNights row :=
  ⟨rfl, rfl, rfl, rfl, occupying⟩

/-- A sweep expires no hold whose time is not up, and none of another unit or tenant. -/
theorem mem_expireLapsedHolds {tenantId unitId : Uuid} {now : Instant} (member : row ∈ db.booking)
    (unlapsed : unitId = row.unitId → tenantId = row.tenantId →
      ¬ (row.status = .pendingPayment ∧ row.HoldLapsed now)) :
    row ∈ (expireLapsedHolds tenantId unitId now db).booking :=
  mem_updateWhere_of_unmatched member fun matched =>
    unlapsed matched.1.symm matched.2.1.symm matched.2.2

/-- A pay step leaves the bookings, or sweeps those of the unit of the booking it has locked. -/
theorem payInTransaction_booking [PostgresServer] (env : PayEnvironment) (tenantId bookingId : Uuid)
    (snap : HttpResponse) (now : Instant) (db : Db) :
    ∃ after, (after = db ∨ ∃ ctx, lockAndLoad tenantId bookingId db = some ctx ∧
        after = expireLapsedHolds tenantId ctx.unitId now db) ∧
      ((payInTransaction env tenantId bookingId snap now db).database db).booking =
        after.booking := by
  rw [payInTransaction]
  cases locked : lockAndLoad tenantId bookingId db with
  | none => exact ⟨db, .inl rfl, rfl⟩
  | some ctx =>
    have swept : ∃ other, some ctx = some other ∧ expireLapsedHolds tenantId ctx.unitId now db =
        expireLapsedHolds tenantId other.unitId now db := ⟨ctx, rfl, rfl⟩
    dsimp only
    generalize expireLapsedHolds tenantId ctx.unitId now db = after at swept ⊢
    split
    · exact ⟨db, .inl rfl, rfl⟩
    · cases ctx.totalPriceIdr with
      | none => exact ⟨db, .inl rfl, rfl⟩
      | some totalPriceIdr =>
        dsimp only
        cases findOpenSession bookingId after with
        | error thrown => exact ⟨db, .inl rfl, rfl⟩
        | ok found =>
          cases found with
          | some opened =>
            dsimp only
            cases toResponse env.isUrl opened.provider ⟨opened.token, opened.redirectUrl⟩
                opened.amountIdr totalPriceIdr with
            | error thrown => exact ⟨db, .inl rfl, rfl⟩
            | ok response => exact ⟨after, .inr swept, rfl⟩
          | none =>
            obtain unchanged | ⟨pay, -, -, -, -, -, minted⟩ := mint_commits env bookingId
              totalPriceIdr ctx.depositPct snap now after db
            · rw [unchanged]
              exact ⟨db, .inl rfl, rfl⟩
            · rw [minted]
              exact ⟨after, .inr swept, rfl⟩

/-- Applying an event may confirm the booking, and takes no nights. -/
theorem settleEvent_keepsNights [PostgresServer] (provider : String)
    (received : Except Thrown (Option ParsedPaymentEvent)) (member : row ∈ db.booking)
    (occupying : row.status.Occupying) :
    ∃ later ∈ ((settleEvent provider received db).database db).booking, row.KeepsNights later := by
  have unmoved : ∃ later ∈ db.booking, row.KeepsNights later := ⟨row, member, .refl occupying⟩
  cases received with
  | error thrown => exact unmoved
  | ok parsed =>
    cases parsed with
    | none => exact unmoved
    | some event =>
      show ∃ later ∈ ((recordAndApply provider event db).database db).booking,
        row.KeepsNights later
      rw [recordAndApply_database]
      cases event.payment db with
      | none => exact unmoved
      | some pay =>
        dsimp only
        split
        · rw [applyOutcome_database]
          split
          · cases event.outcome with
            | settlement =>
              refine ⟨_, Table.mem_updateWhere.mpr ⟨row, member, rfl⟩, ?_⟩
              split
              · exact ⟨rfl, rfl, rfl, rfl, (BookingStatus.occupying_iff _).mpr (.inr rfl)⟩
              · exact .refl occupying
            | failure => exact unmoved
            | pending => exact unmoved
            | ignore => exact unmoved
          · exact unmoved
        · exact unmoved

/-- A transaction that is no sync and releases no nights of the booking keeps them. The unit of the
booking is there, so that the unit a guest asks for is of the booking's tenant. -/
theorem Transaction.keepsNights [PostgresServer] (env : PayEnvironment) (t : Transaction)
    (other : ¬ t.Syncs) (member : row ∈ estate.db.booking) (occupying : row.status.Occupying)
    (placed : unitExists row.tenantId row.unitId estate.db)
    (kept : ¬ (Operation.transaction t other).Releases row estate) :
    ∃ later ∈ (t.run env estate.db).booking, row.KeepsNights later := by
  have uncancelled : ¬ t.Cancels row := fun cancels => kept (.inl cancels)
  have unlapsed : ∀ now, t.Sweeps row estate.db now →
      ¬ (row.status = .pendingPayment ∧ row.HoldLapsed now) :=
    fun now sweeps both => kept (.inr ⟨both.1, now, sweeps, both.2⟩)
  have stays : ∀ {after : Db}, row ∈ after.booking →
      ∃ later ∈ after.booking, row.KeepsNights later := fun member => ⟨row, member, .refl occupying⟩
  cases t with
  | createPublicBooking req now =>
    refine stays ?_
    obtain unchanged | ⟨tenantId, input, checkIn, checkOut, id, inserted⟩ :=
      createPublicBooking_commits env.uuids env.gateway.requiresCredentials req now estate.db
    · rw [Transaction.run, unchanged]
      exact member
    · rw [Transaction.run, inserted.stored]
      exact List.mem_append_left _ (mem_expireLapsedHolds member fun sameUnit _ =>
        unlapsed now ⟨rfl, sameUnit, sameUnit ▸ placed⟩)
  | createOwnerBooking tenantId req now =>
    refine stays ?_
    obtain unchanged | ⟨input, checkIn, checkOut, id, inserted⟩ :=
      createOwnerBooking_commits env.uuids tenantId req now estate.db
    · rw [Transaction.run, unchanged]
      exact member
    · rw [Transaction.run, inserted.stored]
      exact List.mem_append_left _ (mem_expireLapsedHolds member fun sameUnit sameTenant =>
        unlapsed now ⟨rfl, sameUnit, sameTenant⟩)
  | cancel tenantId id =>
    refine stays ?_
    rw [Transaction.run, cancel_commits]
    exact mem_updateWhere_of_unmatched member fun matched =>
      uncancelled ⟨matched.2.1.symm, matched.1.symm⟩
  | expireLapsedHolds tenantId unitId now =>
    exact stays (mem_expireLapsedHolds member fun sameUnit sameTenant =>
      unlapsed now ⟨rfl, sameUnit, sameTenant⟩)
  | sweepExpiredHolds now =>
    exact stays (mem_updateWhere_of_unmatched member (unlapsed now rfl))
  | settleEvent provider received =>
    exact settleEvent_keepsNights provider received member occupying
  | settleFeed => exact absurd trivial other
  | pay tenantId bookingId snap now =>
    obtain ⟨after, unmoved | ⟨ctx, locked, swept⟩, same⟩ :=
      payInTransaction_booking env tenantId bookingId snap now estate.db
    · rw [Transaction.run, same, unmoved]
      exact stays member
    · rw [Transaction.run, same, swept]
      exact stays (mem_expireLapsedHolds member fun sameUnit sameTenant =>
        unlapsed now ⟨rfl, sameTenant, ctx, locked, sameUnit⟩)
  | markHandled tenantId id now =>
    refine stays ?_
    rw [Transaction.run, Sambung.markHandled]
    split
    · exact member
    · dsimp only
      split
      · exact member
      · exact member

/-- A sync leaves every booking its connection does not own. -/
theorem settleFeed_unlinked [PostgresServer] (uuids : UuidSource) {conn : ChannelConnection}
    (feed : Except String (List ImportedEvent)) (faults : Nat → EventFault) (now : Instant)
    (unlinked : row.channelConnectionId ≠ some conn.id) :
    row ∈ ((settleFeed uuids conn feed faults now db).database db).booking ↔ row ∈ db.booking := by
  cases feed with
  | error error => exact Iff.rfl
  | ok events =>
    show row ∈ ((reconcileFeed uuids conn events faults now db).database db).booking ↔ _
    rw [reconcileFeed_database]
    split
    · by_cases nonempty : events = []
      · subst nonempty
        exact Iff.rfl
      · rw [reconciled_unlinked nonempty unlinked, importAll_unlinked events unlinked]
    · exact Iff.rfl

/-- An operation that releases no nights of the booking keeps them. -/
theorem Operation.keepsNights [PostgresServer] (env : PayEnvironment) (operation : Operation)
    (member : row ∈ estate.db.booking) (occupying : row.status.Occupying)
    (placed : unitExists row.tenantId row.unitId estate.db)
    (kept : ¬ operation.Releases row estate) :
    ∃ later ∈ (operation.run env estate).db.booking, row.KeepsNights later := by
  by_cases transaction : ∃ t other, operation = .transaction t other
  · obtain ⟨t, other, rfl⟩ := transaction
    exact t.keepsNights env other member occupying placed kept
  · by_cases sync : ∃ conn feed faults now, operation = .settleSync conn feed faults now
    · obtain ⟨conn, feed, faults, now, rfl⟩ := sync
      refine ⟨row, ?_, .refl occupying⟩
      rw [Operation.run]
      split
      · rename_i underWay
        cases feed with
        | error error => exact member
        | ok events =>
          exact (settleFeed_unlinked env.uuids (.ok events) faults now
            fun linked => kept ⟨underWay, linked⟩).mpr member
      · exact member
    · push Not at transaction sync
      obtain ⟨gone, forgotten⟩ := operation.bookings env transaction sync
      rw [forgotten]
      exact ⟨_, List.mem_map.mpr ⟨row, member, rfl⟩, rfl, rfl, rfl, rfl, occupying⟩

end Steps

/-! ### Every run -/

/-- In every run from a sound estate, who holds a night holds it to the end, unless on the way the
owner cancelled that booking, a sync of its own channel ended, or a sweep of its unit found it a
hold whose time was up. The releasing operation is named with the state it met: the booking still
held the night there, the cancel is of its tenant, and the sweep covers its unit and tenant. -/
theorem night_is_lost_only_so [PostgresServer] (env : PayEnvironment) (run : List Operation)
    {start : Estate} (sound : start.Sound) {unitId id : Uuid} {night : PgDate}
    (held : start.db.holder unitId night = some id) :
    (runEstate env run start).db.holder unitId night = some id ∨
      Runs.Happened (Operation.run env) start run fun operation estate =>
        ∃ row ∈ estate.db.booking, row.id = id ∧ row.HoldsNight unitId night ∧
          operation.Releases row estate := by
  induction run using List.reverseRecOn with
  | nil => exact .inl held
  | append_singleton run operation inductionHypothesis =>
    obtain still | happened := inductionHypothesis
    · have reached := runEstate_sound env run sound
      have next := operation.run_sound env reached
      obtain ⟨row, member, sameId, holds⟩ := reached.db.bookings.lawful.holder_eq.mp still
      have placed : unitExists row.tenantId row.unitId (runEstate env run start).db :=
        (Db.failedForeignKey_eq_none.mp (reached.db.bookings.lawful.linked row member)).1
      by_cases releases : operation.Releases row (runEstate env run start)
      · exact .inr (Runs.happened_concat.mpr (.inr ⟨row, member, sameId, holds, releases⟩))
      · obtain ⟨later, laterMember, keeps⟩ :=
          operation.keepsNights env member holds.2.1 placed releases
        refine .inl ?_
        rw [runEstate, Runs.final_concat]
        exact next.db.bookings.lawful.holder_eq.mpr
          ⟨later, laterMember, keeps.id.trans sameId, keeps.holds holds⟩
    · exact .inr (happened.concat operation)

/-! ### The villa -/

attribute [local instance] PostgresServer.uncompressed

/-- While a sync is under way, long after the hold's time, another tenant sweeps and cancels, and
the owner disconnects the channel. -/
def villaStrangers : List Operation :=
  [.startSync villaConnection, .transaction (.expireLapsedHolds 2 20 9) id,
    .transaction (.cancel 2 1) id, .disconnect 1 30,
    .settleSync villaConnection (.ok []) noFaults 9]

/-- The villa's bookings are its own and no channel's, all the way. -/
theorem villaStrangers_calm : ∀ before ∈ villaStrangers.inits,
    ∀ row ∈ (runEstate villaEnvironment before villaEstate).db.booking,
      row.tenantId = 1 ∧ row.channelConnectionId = none := by
  decide +kernel

/-- The guest's hold outlives all of it. -/
theorem night_is_lost_only_so_villa :
    (runEstate villaEnvironment villaStrangers villaEstate).db.holder 20 20666 = some 1 := by
  obtain held | ⟨before, operation, later, split, row, member, -, -, releases⟩ :=
    night_is_lost_only_so villaEnvironment villaStrangers villaEstate_sound
      (by decide : villaEstate.db.holder 20 20666 = some 1)
  · exact held
  · obtain ⟨tenant, unlinked⟩ := villaStrangers_calm before
      ((List.mem_inits _ _).mpr ⟨_, split.symm⟩) row member
    have listed : operation ∈ villaStrangers := by
      rw [split]
      exact List.mem_append_right _ List.mem_cons_self
    fin_cases listed
    · exact releases.elim
    · obtain cancels | ⟨-, now, ⟨-, -, foreign⟩, -⟩ := releases
      · exact cancels.elim
      · exact absurd (foreign.trans tenant) (by decide)
    · obtain ⟨foreign, -⟩ | ⟨-, now, sweeps, -⟩ := releases
      · exact absurd (foreign.trans tenant) (by decide)
      · exact sweeps.elim
    · exact releases.elim
    · exact absurd (unlinked.symm.trans releases.2) (by decide)

end Sambung
