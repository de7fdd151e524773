/-
This file proves that every booking a run of the services leaves can be shown.

A response writes the days of a stay as dates of four-digit years and its price as
a JSON number. The columns hold more than that: a `date` may lie far off, a
`bigint` may be larger than a number is exact. But every stay that is stored was
bound from two such dates, and every price that is stored was answered before its
transaction committed.

So the property is no constraint of a table and still an invariant of the
services: each insert is followed from the texts it binds to the row it stores,
and an answer that could not be written has rolled its insert back. Updates of a
status move neither stay nor price. The modules on the owner's calendar, the
export and the reservations take the invariant from here, and ask it of the
bookings at the start of a run only.
-/

import Sambung.HeldNights

namespace Sambung

/-! ### Bookings that can be shown -/

/-- The days of the stay have dates, and the price is exact as a number. -/
structure Booking.Displayable (row : Booking) : Prop where
  checkIn : isoDay (dateText row.checkIn) = some row.checkIn
  checkOut : isoDay (dateText row.checkOut) = some row.checkOut
  total : ∀ total ∈ row.totalPriceIdr, 0 ≤ total ∧ total ≤ MAX_SAFE_INTEGER

/-- Every booking can be shown. -/
abbrev Db.Displayable (db : Db) : Prop := ∀ row ∈ db.booking, row.Displayable

section Stays

variable {db after : Db} {row : Booking}

/-- A stored stay ends after it starts. -/
theorem Db.BookingsLawful.stayOrdered [PostgresServer] (lawful : db.BookingsLawful)
    (member : row ∈ db.booking) : row.checkIn < row.checkOut :=
  (Booking.failedCheck_eq_none.mp (lawful.checked row member)).2.1

/-- A day that was bound from a text has that date. -/
theorem isoDay_of_pgDate {text : Text} {day : PgDate} (bound : pgDate text = some day) :
    isoDay (dateText day) = some day := by
  have real : isoDay text = some day := by
    rw [← pgDate_eq_isoDay (Option.isSome_iff_exists.mpr ⟨day, bound⟩), bound]
  rw [(dateText_of_isoDay real).2.2, real]

theorem bindStay_ok {start stop : Text} {checkIn checkOut : PgDate}
    (bound : bindStay start stop = .ok (checkIn, checkOut)) :
    pgDate start = some checkIn ∧ pgDate stop = some checkOut := by
  rw [bindStay] at bound
  cases first : pgDate start with
  | none =>
    rw [first] at bound
    cases bound
  | some firstDay =>
    cases last : pgDate stop with
    | none =>
      rw [first, last] at bound
      cases bound
    | some lastDay =>
      rw [first, last] at bound
      cases bound
      exact ⟨rfl, rfl⟩

/-- A row of a bound stay with a price that was answered. -/
theorem Booking.Displayable.of_bound {start stop : Text}
    (bound : bindStay start stop = .ok (row.checkIn, row.checkOut))
    (answered : ∀ total ∈ row.totalPriceIdr, 0 ≤ total ∧ total ≤ MAX_SAFE_INTEGER) :
    row.Displayable :=
  ⟨isoDay_of_pgDate (bindStay_ok bound).1, isoDay_of_pgDate (bindStay_ok bound).2, answered⟩

/-- An update of the status leaves every booking as it can be shown. -/
theorem Db.Displayable.setBookingStatus (shown : db.Displayable) (status : BookingStatus)
    (condition : Booking → Prop) [DecidablePred condition] :
    (db.setBookingStatus status condition).Displayable :=
  Table.forall_updateWhere shown fun _ _ _ before => ⟨before.checkIn, before.checkOut, before.total⟩

theorem Db.Displayable.inserted [PostgresServer] (shown : db.Displayable)
    (inserted : Inserted db after row) (new : row.Displayable) : after.Displayable := by
  intro other member
  rw [inserted.stored] at member
  obtain earlier | last := List.mem_append.mp member
  · exact shown other earlier
  · rw [List.mem_singleton.mp last]
    exact new

/-- What a write of other tables leaves. -/
theorem Db.Displayable.congr (shown : db.Displayable) (same : after.booking = db.booking) :
    after.Displayable := fun row member => shown row (same ▸ member)

end Stays

/-! ### Each transaction -/

section Transactions

variable {db : Db}

/-- An insert of a bound stay stores the days it was bound to. -/
theorem insertBound_days [PostgresServer] {uuids : UuidSource} {start stop : Text} {after : Db}
    {row : Booking} (values : PgDate → PgDate → Uuid → Booking)
    (days : ∀ checkIn checkOut id, (values checkIn checkOut id).checkIn = checkIn ∧
      (values checkIn checkOut id).checkOut = checkOut)
    (stored : (bindStay start stop >>= fun stay =>
      db.insertBooking uuids (values stay.1 stay.2)) = .ok (row, after)) :
    bindStay start stop = .ok (row.checkIn, row.checkOut) := by
  cases bound : bindStay start stop with
  | error error =>
    rw [bound] at stored
    cases stored
  | ok stay =>
    rw [bound] at stored
    obtain ⟨same, -⟩ := Db.insertBooking_ok stored
    obtain ⟨first, last⟩ := days stay.1 stay.2 _
    rw [same, first, last]

/-- A hold that was answered can be shown. -/
theorem createBookingResponse_displayable {created : Booking} {nights : Int} {start stop : Text}
    {response : CreateBookingResponse}
    (bound : bindStay start stop = .ok (created.checkIn, created.checkOut))
    (answered : createBookingResponse created nights = .ok response) : created.Displayable := by
  refine .of_bound bound fun total priced => ?_
  rw [createBookingResponse] at answered
  cases expires : created.holdExpiresAt with
  | none =>
    rw [expires] at answered
    cases answered
  | some holdExpiresAt =>
    rw [expires, Option.mem_def.mp priced] at answered
    cases rupiah : toRupiah total with
    | error thrown =>
      dsimp only at answered
      rw [rupiah] at answered
      cases answered
    | ok value => exact toRupiah_ok rupiah

/-- An owner-side booking that was answered can be shown. -/
theorem createOwnerBookingResponse_displayable {created : Booking} {nights : Int}
    {start stop : Text} {response : CreateOwnerBookingResponse}
    (bound : bindStay start stop = .ok (created.checkIn, created.checkOut))
    (answered : createOwnerBookingResponse created nights = .ok response) :
    created.Displayable := by
  refine .of_bound bound fun total priced => ?_
  rw [createOwnerBookingResponse, Option.mem_def.mp priced] at answered
  cases rupiah : toRupiah total with
  | error thrown =>
    rw [show (some total).mapM toRupiah = .error thrown by
      rw [Option.mapM_some, rupiah]
      rfl] at answered
    cases answered
  | ok value => exact toRupiah_ok rupiah

theorem createPublicBooking_displayable [PostgresServer] (uuids : UuidSource)
    (requiresCredentials : Bool) (req : CreateBookingRequest) (now : Instant)
    (shown : db.Displayable) :
    ((createPublicBooking uuids requiresCredentials req now db).database db).Displayable := by
  unfold createPublicBooking
  cases db.unitById req.unitId with
  | none => exact shown
  | some unit =>
    dsimp only
    split
    · exact shown
    · cases quoted : sweepQuoteOrThrow unit.tenantId req.unitId req.checkIn req.checkOut
          .unavailable now db with
      | error thrown => exact shown
      | ok answer =>
        obtain ⟨quote, swept⟩ := answer
        obtain ⟨rfl, -⟩ := sweepQuoteOrThrow_ok quoted
        dsimp only
        cases fetchMaxGuests unit.tenantId req.unitId
            (expireLapsedHolds unit.tenantId req.unitId now db) with
        | none => exact shown
        | some maxGuests =>
          dsimp only
          generalize (quote.reasons ++ if req.guestCount > maxGuests then _ else _) = reasons
          split
          · exact shown
          · cases stored : insertHold uuids (req.holdInput unit.tenantId quote) now
                (expireLapsedHolds unit.tenantId req.unitId now db) with
            | error error => exact shown
            | ok created =>
              obtain ⟨row, after⟩ := created
              dsimp only
              cases answered : createBookingResponse row quote.nights with
              | error thrown => exact shown
              | ok response =>
                have days := insertBound_days (fun checkIn checkOut =>
                  (req.holdInput unit.tenantId quote).row checkIn checkOut now)
                  (fun _ _ _ => ⟨rfl, rfl⟩) stored
                exact Db.Displayable.inserted (shown.setBookingStatus _ _)
                  (insertHold_ok stored).1 (createBookingResponse_displayable days answered)

theorem createOwnerBooking_displayable [PostgresServer] (uuids : UuidSource) (tenantId : Uuid)
    (req : CreateOwnerBookingRequest) (now : Instant) (shown : db.Displayable) :
    ((createOwnerBooking uuids tenantId req now db).database db).Displayable := by
  unfold createOwnerBooking
  cases quoted :
      sweepQuoteOrThrow tenantId req.unitId req.checkIn req.checkOut .archived now db with
  | error thrown => exact shown
  | ok answer =>
    obtain ⟨quote, swept⟩ := answer
    obtain ⟨rfl, -⟩ := sweepQuoteOrThrow_ok quoted
    dsimp only
    split
    · exact shown
    · cases stored : insertConfirmed uuids (req.input tenantId quote)
          (expireLapsedHolds tenantId req.unitId now db) with
      | error error => exact shown
      | ok created =>
        obtain ⟨row, after⟩ := created
        dsimp only
        cases answered : createOwnerBookingResponse row quote.nights with
        | error thrown => exact shown
        | ok response =>
          have days := insertBound_days (fun checkIn checkOut =>
            (req.input tenantId quote).row checkIn checkOut) (fun _ _ _ => ⟨rfl, rfl⟩) stored
          exact Db.Displayable.inserted (shown.setBookingStatus _ _)
            (insertConfirmed_ok stored).1 (createOwnerBookingResponse_displayable days answered)

/-- Applying an event moves no stay and no price. -/
theorem settleEvent_displayable [PostgresServer] (provider : String)
    (received : Except Thrown (Option ParsedPaymentEvent)) (shown : db.Displayable) :
    ((settleEvent provider received db).database db).Displayable := by
  cases received with
  | error thrown => exact shown
  | ok parsed =>
    cases parsed with
    | none => exact shown
    | some event =>
      show ((recordAndApply provider event db).database db).Displayable
      rw [recordAndApply_database]
      cases event.payment db with
      | none => exact shown
      | some pay =>
        dsimp only
        split
        · rw [applyOutcome_database]
          split
          · cases event.outcome with
            | settlement => exact shown.setBookingStatus _ _
            | failure => exact shown
            | pending => exact shown
            | ignore => exact shown
          · exact shown
        · exact shown

/-- A sync stores the stays it could bind, without a price, and withdraws others. -/
theorem settleFeed_displayable [PostgresServer] (uuids : UuidSource) (conn : ChannelConnection)
    (feed : Except String (List ImportedEvent)) (faults : Nat → EventFault) (now : Instant)
    (shown : db.Displayable) :
    ((settleFeed uuids conn feed faults now db).database db).Displayable := by
  cases feed with
  | error error => exact shown
  | ok events =>
    show ((reconcileFeed uuids conn events faults now db).database db).Displayable
    rw [reconcileFeed_database]
    split
    · have loop : (importAll uuids conn events faults now db).db.Displayable := by
        refine importAll_bound_induction Db.Displayable shown ?_ ?_
        · rintro event - checkIn checkOut before after bound landed shownBefore
          have days := bindStay_ok bound
          cases landed with
          | inserted id absent stored =>
            refine shownBefore.inserted stored
              ⟨isoDay_of_pgDate days.1, isoDay_of_pgDate days.2, ?_⟩
            exact fun total priced => absurd priced (Option.not_mem_none total)
          | moved existing member imported checked accepted stored =>
            rw [stored]
            exact Table.forall_updateWhere shownBefore fun _ _ _ before =>
              ⟨isoDay_of_pgDate days.1, isoDay_of_pgDate days.2, before.total⟩
        · rintro event - faulted before shownBefore
          exact shownBefore.congr
            (recordConflict_filing uuids conn event now faulted before).booking
      have withdrawn : (withdrawAbsent conn events
          (importAll uuids conn events faults now db).db).Displayable := by
        rw [withdrawAbsent]
        split
        · exact loop
        · exact loop.setBookingStatus _ _
      have closed : (resolveHealed conn events
          (importAll uuids conn events faults now db).notImportedUids now
          (withdrawAbsent conn events
            (importAll uuids conn events faults now db).db)).Displayable := by
        rw [resolveHealed]
        split
        · exact withdrawn
        · exact withdrawn.congr rfl
      exact closed.congr rfl
    · exact shown

theorem Transaction.run_displayable [PostgresServer] (env : PayEnvironment) (t : Transaction)
    (shown : db.Displayable) : (t.run env db).Displayable := by
  cases t with
  | createPublicBooking req now =>
    exact createPublicBooking_displayable env.uuids env.gateway.requiresCredentials req now shown
  | createOwnerBooking tenantId req now =>
    exact createOwnerBooking_displayable env.uuids tenantId req now shown
  | cancel tenantId id =>
    rw [Transaction.run, cancel_commits]
    exact shown.setBookingStatus _ _
  | expireLapsedHolds tenantId unitId now => exact shown.setBookingStatus _ _
  | sweepExpiredHolds now => exact shown.setBookingStatus _ _
  | settleEvent provider received => exact settleEvent_displayable provider received shown
  | settleFeed conn feed faults now =>
    exact settleFeed_displayable env.uuids conn feed faults now shown
  | pay tenantId bookingId snap now =>
    obtain ⟨after, rfl | ⟨ctx, -, rfl⟩, same⟩ :=
      payInTransaction_booking env tenantId bookingId snap now db
    · exact shown.congr same
    · exact (Db.Displayable.setBookingStatus shown _ _).congr same
  | markHandled tenantId id now =>
    refine shown.congr ?_
    rw [Transaction.run, Sambung.markHandled]
    split
    · rfl
    · dsimp only
      split
      · rfl
      · rfl

end Transactions

/-! ### Every run -/

theorem Operation.run_displayable [PostgresServer] (env : PayEnvironment) (operation : Operation)
    {estate : Estate} (shown : estate.db.Displayable) :
    (operation.run env estate).db.Displayable := by
  by_cases transaction : ∃ t other, operation = .transaction t other
  · obtain ⟨t, other, rfl⟩ := transaction
    exact t.run_displayable env shown
  · by_cases sync : ∃ conn feed faults now, operation = .settleSync conn feed faults now
    · obtain ⟨conn, feed, faults, now, rfl⟩ := sync
      rw [Operation.run]
      split
      · exact settleFeed_displayable env.uuids conn feed faults now shown
      · exact shown
    · push Not at transaction sync
      obtain ⟨gone, forgotten⟩ := operation.bookings env transaction sync
      intro row member
      rw [forgotten] at member
      obtain ⟨source, sourceMember, rfl⟩ := List.mem_map.mp member
      have before := shown source sourceMember
      exact ⟨before.checkIn, before.checkOut, before.total⟩

/-- After any run every booking can be shown, where those at the start could be. -/
theorem runEstate_displayable [PostgresServer] (env : PayEnvironment) (run : List Operation)
    {start : Estate} (shown : start.db.Displayable) : (runEstate env run start).db.Displayable := by
  induction run using List.reverseRecOn with
  | nil => exact shown
  | append_singleton run operation inductionHypothesis =>
    rw [runEstate, Runs.final_concat]
    exact operation.run_displayable env inductionHypothesis

end Sambung
