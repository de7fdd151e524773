/-
This file proves that no run of the services leaves the sound estates.

Every connection of such an estate is registered, every price can be quoted and no
night is sold twice. A sync that was under way while other operations ran still
writes the rows of its own connection only, or nothing where the connection is
gone.

`Operation.run_sound` has a case for each operation and cites a lemma of the two
modules before it in each. The one case with an argument of its own is the end of
a sync: what it read of its connection is still so or the connection was deleted,
and since an id is not drawn twice no other connection stands in its place.
`Estate.Safe` is then read off a sound estate, so that its three promises hold
after any run without a look at the run.
-/

import Sambung.EstateInventory

namespace Sambung

/-! ### One operation -/

section Runs

variable {estate : Estate}

/-- A write of the database keeps the estate sound where it keeps the database so. -/
theorem Estate.Sound.write [PostgresServer] (sound : estate.Sound)
    (kept : KeptSound estate.db after) :
    ({ estate with db := after } : Estate).Sound where
  db := kept.sound
  overrides :=
    { sound.overrides with
      units := fun row member => kept.units _ _ (sound.overrides.units row member) }
  stored := kept.prices.trans sound.stored
  drawn row member := by
    obtain ⟨source, sourceMember, same⟩ := kept.connections row member
    exact same.id ▸ sound.drawn source sourceMember
  syncing conn member := by
    obtain ⟨drawn, current⟩ := sound.syncing conn member
    refine ⟨drawn, fun row rowMember sameId => ?_⟩
    obtain ⟨source, sourceMember, same⟩ := kept.connections row rowMember
    exact same.symm.trans (current source sourceMember (same.id.trans sameId))

theorem Estate.Sound.commit [PostgresServer] {Result : Type} (sound : estate.Sound)
    {answer : Answer Result} (kept : KeptSound estate.db (answer.database estate.db)) :
    (estate.commit answer).Sound :=
  sound.write kept

/-- A sync that was under way finds its connection as it read it, or deleted. -/
theorem Estate.Sound.settleFeed [PostgresServer] (sound : estate.Sound) (uuids : UuidSource)
    {conn : ChannelConnection} (member : conn ∈ estate.syncing)
    (feed : Except String (List ImportedEvent)) (faults : Nat → EventFault) (now : Instant) :
    KeptSound estate.db ((Sambung.settleFeed uuids conn feed faults now estate.db).database
      estate.db) := by
  by_cases stored : ∃ row ∈ estate.db.channelConnection, row.id = conn.id
  · obtain ⟨row, rowMember, sameId⟩ := stored
    exact settleFeed_sound uuids feed faults now sound.db rowMember
      ((sound.syncing conn member).2 row rowMember sameId)
  · rw [settleFeed_deleted uuids feed faults now sound.db fun row rowMember sameId =>
      stored ⟨row, rowMember, sameId⟩]
    exact .refl sound.db

theorem disconnect_sound [PostgresServer] (tenantId id : Uuid) (sound : db.Sound) :
    KeptSound db ((disconnect tenantId id db).database db) := by
  rw [disconnect_database]
  split
  · exact ⟨sound.deleteConnections [id], fun _ _ stored => stored, rfl, fun row member =>
      ⟨row, List.mem_of_mem_filter member, rfl, rfl, rfl⟩⟩
  · exact .refl sound

/-- A connect takes an id no connection had and no sync under way names. -/
theorem Estate.Sound.finishConnect [PostgresServer] (sound : estate.Sound) (uuids : UuidSource)
    (tenantId unitId : Uuid) (dto : CreateChannelConnectionRequest) (probe : IcalProbeResult)
    (now : Instant) :
    ({ estate.commit (Sambung.finishConnect tenantId unitId dto probe now
        (uuids.draw estate.drawn) estate.db) with
      drawn := uuids.draw estate.drawn :: estate.drawn } : Estate).Sound := by
  have fresh := uuids.fresh estate.drawn
  generalize uuids.draw estate.drawn = id at fresh ⊢
  obtain unwritten | inserted :=
    finishConnect_database tenantId unitId dto probe now id estate.db
  · rw [Estate.commit, unwritten]
    exact ⟨sound.db, sound.overrides, sound.stored, fun row member =>
      List.mem_cons_of_mem _ (sound.drawn row member), fun conn member =>
        ⟨List.mem_cons_of_mem _ (sound.syncing conn member).1, (sound.syncing conn member).2⟩⟩
  · have unused : ∀ conn ∈ estate.db.channelConnection, conn.id ≠ id := by
      rintro conn member rfl
      exact fresh (sound.drawn conn member)
    have kept := insertConnection_sound sound.db inserted unused
    obtain ⟨-, -, -, stored⟩ := insertConnection_ok.mp inserted
    rw [Estate.commit]
    rw [stored] at kept ⊢
    refine ⟨kept, ⟨sound.overrides.keyed, sound.overrides.checked, sound.overrides.units,
      sound.overrides.apart⟩, sound.stored, fun row member => ?_, fun conn member => ?_⟩
    · obtain earlier | last := List.mem_append.mp member
      · exact List.mem_cons_of_mem _ (sound.drawn row earlier)
      · rw [List.mem_singleton.mp last]
        exact List.mem_cons_self
    · obtain ⟨drawn, current⟩ := sound.syncing conn member
      refine ⟨List.mem_cons_of_mem _ drawn, fun row rowMember sameId => ?_⟩
      obtain earlier | last := List.mem_append.mp rowMember
      · exact current row earlier sameId
      · rw [List.mem_singleton.mp last] at sameId
        rw [← sameId] at drawn
        exact absurd drawn fresh

/-- A remove takes the prices and the connections of its units with it. -/
theorem Estate.Sound.removeListing [PostgresServer] (sound : estate.Sound) (tenantId : Uuid)
    (listing : Listing) :
    ({ estate with
      db := (Sambung.removeListing tenantId listing estate.db).2
      overrides := if (Sambung.removeListing tenantId listing estate.db).1 = .removed then
          estate.overrides.filter (·.unitId ∉ listing.units estate.db)
        else estate.overrides } : Estate).Sound := by
  have removed := removeListing_sound tenantId listing sound.db
  obtain ⟨answered, unchanged⟩ | ⟨answered, deleted⟩ :=
    removeListing_cases tenantId listing estate.db
  · rw [if_neg answered, unchanged]
    exact sound
  · rw [if_pos answered]
    rw [deleted] at removed ⊢
    have kept : ∀ row ∈ (listing.delete estate.db).channelConnection,
        row ∈ estate.db.channelConnection := by
      intro row member
      cases listing with
      | property id => exact List.mem_of_mem_filter member
      | unit id => exact List.mem_of_mem_filter member
    have units : (listing.delete estate.db).unit =
        estate.db.unit.filter (·.id ∉ listing.units estate.db) := by
      cases listing <;> rfl
    have prices : (listing.delete estate.db).unitPriceOverride =
        estate.db.unitPriceOverride.filter (·.unitId ∉ listing.units estate.db) := by
      cases listing <;> rfl
    have rest := sound.overrides.filter fun row => row.unitId ∉ listing.units estate.db
    refine ⟨removed, ⟨rest.keyed, rest.checked, fun row member => ?_, rest.apart⟩, ?_,
      fun row member => sound.drawn row (kept row member), fun conn member =>
        ⟨(sound.syncing conn member).1, fun row rowMember =>
          (sound.syncing conn member).2 row (kept row rowMember)⟩⟩
    · obtain ⟨unit, stored, sameId, sameTenant⟩ := rest.units row member
      refine ⟨unit, ?_, sameId, sameTenant⟩
      rw [units, List.mem_filter, sameId]
      exact ⟨stored, (List.mem_filter.mp member).2⟩
    · rw [prices, sound.stored, List.filter_map]
      rfl

/-- Every operation keeps the estate sound: the case of an operation that writes the database is a
lemma of the modules before. -/
theorem Operation.run_sound [PostgresServer] (env : PayEnvironment) (operation : Operation)
    (sound : estate.Sound) : (operation.run env estate).Sound := by
  cases operation with
  | transaction t other => exact sound.write (t.run_sound env other sound.db)
  | startSync conn =>
    rw [Operation.run]
    split
    · rename_i stored
      refine ⟨sound.db, sound.overrides, sound.stored, sound.drawn, fun other member => ?_⟩
      obtain rfl | earlier := List.mem_cons.mp member
      · refine ⟨sound.drawn other stored, fun row rowMember sameId => ?_⟩
        rw [Table.eq_of_key sound.db.connections.keyed rowMember stored sameId]
        exact ⟨rfl, rfl, rfl⟩
      · exact sound.syncing other earlier
    · exact sound
  | settleSync conn feed faults now =>
    rw [Operation.run]
    split
    · rename_i started
      have settled := sound.commit (sound.settleFeed env.uuids started feed faults now)
      exact ⟨settled.db, settled.overrides, settled.stored, settled.drawn, fun other member =>
        settled.syncing other (List.mem_of_mem_erase member)⟩
    · exact sound
  | finishConnect tenantId unitId dto probe now =>
    exact sound.finishConnect env.uuids tenantId unitId dto probe now
  | disconnect tenantId id => exact sound.commit (disconnect_sound tenantId id sound.db)
  | dismiss tenantId id now => exact sound.write (dismiss_sound tenantId id now sound.db)
  | insertProperty tenantId values =>
    exact sound.commit (insertProperty_sound env.uuids tenantId values sound.db)
  | updateProperty tenantId id dto =>
    exact sound.commit (updateProperty_sound tenantId id dto sound.db)
  | setPropertyArchived tenantId id archived now =>
    exact sound.commit (setPropertyArchived_sound tenantId id archived now sound.db)
  | createUnit tenantId propertyId dto =>
    exact sound.commit (createUnit_sound env.uuids tenantId propertyId dto sound.db)
  | updateUnit tenantId id dto => exact sound.commit (updateUnit_sound tenantId id dto sound.db)
  | setUnitArchived tenantId id archived now =>
    exact sound.commit (setUnitArchived_sound tenantId id archived now sound.db)
  | removeListing tenantId listing => exact sound.removeListing tenantId listing
  | priceOverride call =>
    have next : OverridesSound estate.db (call.run env.uuids estate.db estate.overrides) :=
      sound.overrides.call call
    exact ⟨⟨sound.db.inventory.congr rfl rfl, sound.db.connections.congr rfl fun _ _ => id,
      sound.db.bookings.congr rfl (fun _ _ => id) rfl, sound.db.conflicts.congr rfl rfl,
      sound.db.payments.congr rfl rfl fun _ => id⟩, ⟨next.keyed, next.checked, next.units,
      next.apart⟩, rfl, sound.drawn, sound.syncing⟩

theorem runEstate_sound [PostgresServer] (env : PayEnvironment) (run : List Operation)
    (sound : estate.Sound) :
    (runEstate env run estate).Sound :=
  Runs.final_induction sound (fun _ operation before => operation.run_sound env before) run

end Runs

/-! ### What every run keeps -/

/-- The booking holds the night in the unit. -/
abbrev Booking.HoldsNight (unitId : Uuid) (night : PgDate) (row : Booking) : Prop :=
  row.unitId = unitId ∧ row.status.Occupying ∧ row.checkIn ≤ night ∧ night < row.checkOut

/-- What the services may take for granted of the estate. -/
structure Estate.Safe [PostgresServer] (estate : Estate) : Prop where
  sound : estate.Sound
  nights : ∀ unitId night, ∀ first ∈ estate.db.booking, ∀ second ∈ estate.db.booking,
    first.HoldsNight unitId night → second.HoldsNight unitId night → first = second
  prices : estate.db.PricesLawful
  rates : estate.db.OverridesOwned
  connections : ∀ conn ∈ estate.db.channelConnection, conn.Registered estate.db

section Safe

variable {estate : Estate}

/-- The exclusion constraint lets one booking hold a night of a unit: two that do are one row. -/
theorem Db.BookingsLawful.holdsNight_unique [PostgresServer] {db : Db} (lawful : db.BookingsLawful)
    {unitId : Uuid} {night : PgDate} {first second : Booking} (firstMember : first ∈ db.booking)
    (secondMember : second ∈ db.booking) (firstHolds : first.HoldsNight unitId night)
    (secondHolds : second.HoldsNight unitId night) : first = second := by
  obtain ⟨firstUnit, firstOccupies, firstFrom, firstTo⟩ := firstHolds
  obtain ⟨secondUnit, secondOccupies, secondFrom, secondTo⟩ := secondHolds
  by_contra differ
  have differs : first.id ≠ second.id := fun same =>
    differ (Table.eq_of_key lawful.keyed firstMember secondMember same)
  refine (lawful.apart first firstMember second secondMember differs).stay
    ⟨firstUnit.trans secondUnit.symm, firstOccupies, secondOccupies, ?_⟩
  exact lt_of_le_of_lt (max_le firstFrom secondFrom) (lt_min firstTo secondTo)

/-- The prices of a sound estate are those of its override rows. -/
theorem Estate.Sound.withOverrides [PostgresServer] (sound : estate.Sound) :
    estate.db.withOverrides estate.overrides = estate.db := by
  rw [Db.withOverrides, ← sound.stored]

theorem Estate.Sound.pricesLawful [PostgresServer] (sound : estate.Sound) :
    estate.db.PricesLawful := by
  have inventory := sound.db.inventory
  rw [← sound.withOverrides]
  refine ⟨inventory.units, inventory.properties, inventory.parents, fun unit member =>
    ⟨(inventory.checked unit member).priceNonneg, (inventory.checked unit member).priceMax⟩, ?_, ?_⟩
  · intro row member
    obtain ⟨stored, storedMember, rfl⟩ := List.mem_map.mp member
    exact (sound.overrides.checked stored storedMember).2
  · refine List.Pairwise.map _ (fun first second apart sameUnit meet => ?_) sound.overrides.apart
    exact apart ⟨sameUnit, meet⟩

theorem Estate.Sound.safe [PostgresServer] (sound : estate.Sound) : estate.Safe where
  sound := sound
  nights _ _ first firstMember second secondMember :=
    sound.db.bookings.lawful.holdsNight_unique firstMember secondMember
  prices := sound.pricesLawful
  rates := by
    rw [← sound.withOverrides]
    exact sound.overrides.owned
  connections conn member := sound.db.registered member ⟨rfl, rfl, rfl⟩

end Safe

/-- In every run of the services from a sound estate, after whatever operations in whatever order:
no night is sold twice, every price can be quoted, every connection is registered, and the
constraints the model holds hold again. The operations are all the transactions of the booking,
payment and channel services, syncs in two halves with anything in between, and the whole inventory;
each takes arbitrary requests, and one that is refused or aborts leaves the estate as it was. -/
theorem every_run_is_safe [PostgresServer] (env : PayEnvironment) (run : List Operation)
    {start : Estate} (sound : start.Sound) : (runEstate env run start).Safe :=
  (runEstate_sound env run sound).safe

/-- A sync writes its own connection's rows, where the connection is stored. -/
theorem settleFeed_nothingElseMoved [PostgresServer] {conn : ChannelConnection} {db : Db}
    (registered : conn.Registered db) (uuids : UuidSource)
    (feed : Except String (List ImportedEvent)) (faults : Nat → EventFault) (now : Instant) :
    NothingElseMoved conn db ((settleFeed uuids conn feed faults now db).database db) := by
  have unmoved : NothingElseMoved conn db db :=
    ⟨fun _ _ => Iff.rfl, fun _ _ => Iff.rfl, fun _ _ => Iff.rfl, fun _ _ => Iff.rfl,
      fun _ _ => Iff.rfl, fun _ _ => Iff.rfl, _, _, _, rfl⟩
  cases feed with
  | error error =>
    exact { unmoved with
      connections := fun row foreign => mem_updateConnection_other
        (fun row => { row with lastStatus := .error, lastError := some error })
        (fun _ => ⟨rfl, rfl⟩) foreign
      tables := ⟨_, _, _, rfl⟩ }
  | ok events =>
    show NothingElseMoved conn db ((reconcileFeed uuids conn events faults now db).database db)
    rw [reconcileFeed_database]
    split
    · exact reconciled_nothingElseMoved registered
    · exact unmoved

/-- A sync that was under way through any run: where its connection is still there it is the one it
read, and the sync moves the rows of this connection only; where it was deleted, under whatever ids
were drawn since, the sync changes nothing. The feed is whatever it had fetched, with any faults;
that ids are not drawn twice is what keeps a new connection from standing in for the deleted one. -/
theorem late_sync_keeps_to_its_rows [PostgresServer] (env : PayEnvironment) (run : List Operation)
    {start : Estate} (sound : start.Sound) {conn : ChannelConnection}
    (started : conn ∈ (runEstate env run start).syncing) (feed : Except String (List ImportedEvent))
    (faults : Nat → EventFault) (now : Instant) :
    ((∃ row ∈ (runEstate env run start).db.channelConnection, row.Same conn) ∧
        NothingElseMoved conn (runEstate env run start).db
          ((settleFeed env.uuids conn feed faults now (runEstate env run start).db).database
            (runEstate env run start).db)) ∨
      (∀ row ∈ (runEstate env run start).db.channelConnection, row.id ≠ conn.id) ∧
        (settleFeed env.uuids conn feed faults now (runEstate env run start).db).database
          (runEstate env run start).db = (runEstate env run start).db := by
  have reached := runEstate_sound env run sound
  generalize runEstate env run start = estate at started reached ⊢
  by_cases stored : ∃ row ∈ estate.db.channelConnection, row.id = conn.id
  · obtain ⟨row, member, sameId⟩ := stored
    have same := (reached.syncing conn started).2 row member sameId
    exact .inl ⟨⟨row, member, same⟩,
      settleFeed_nothingElseMoved (reached.db.registered member same) env.uuids feed faults now⟩
  · have deleted : ∀ row ∈ estate.db.channelConnection, row.id ≠ conn.id :=
      fun row member same => stored ⟨row, member, same⟩
    exact .inr ⟨deleted, settleFeed_deleted env.uuids feed faults now reached.db deleted⟩

/-! ### The villa -/

attribute [local instance] PostgresServer.uncompressed

/-- The villa with a guest's hold, and no sync under way. -/
def villaEstate : Estate where
  db := villaHeld
  overrides := []
  syncing := []
  drawn := [30]

theorem villaEstate_sound : villaEstate.Sound where
  db :=
    { inventory :=
        { properties := by decide
          settings := by
            intro property member
            rw [List.mem_singleton.mp member]
            exact ⟨by decide, by decide, by decide⟩
          units := by decide
          checked := by
            intro unit member
            rw [List.mem_singleton.mp member]
            exact ⟨by decide, by decide, by decide, by decide⟩
          parents := by decide
          names := List.pairwise_singleton _ _ }
      connections :=
        { keyed := by decide
          single := List.pairwise_singleton _ _
          units := by decide }
      bookings :=
        { lawful := ⟨by decide, by decide, by decide +kernel, by decide, by decide⟩
          imports := by
            intro conn connMember row member linked
            rw [List.mem_singleton.mp member] at linked
            cases linked
          uids := by decide }
      conflicts :=
        { inbox := Db.inboxSound_of_empty rfl
          filed := by decide
          stays := by decide }
      payments :=
        { keyed := by decide
          checked := fun pay member => absurd member List.not_mem_nil
          payments := fun pay member => absurd member List.not_mem_nil
          single := List.Pairwise.nil
          events := fun event member => absurd member List.not_mem_nil
          once := List.Pairwise.nil } }
  overrides := ⟨List.nodup_nil, by decide, by decide, List.Pairwise.nil⟩
  stored := rfl
  drawn := by decide
  syncing conn member := absurd member List.not_mem_nil

/-- The owner disconnects the villa's channel while a sync of it is under way. -/
def villaDisconnect : List Operation :=
  [.startSync villaConnection, .disconnect 1 30]

theorem every_run_is_safe_villa : (runEstate villaEnvironment villaDisconnect villaEstate).Safe :=
  every_run_is_safe villaEnvironment villaDisconnect villaEstate_sound

/-- The sync ends after the disconnect, and imports nothing of its feed. -/
theorem late_sync_villa :
    (settleFeed villaEnvironment.uuids villaConnection
        (.ok [⟨"uid-1", "2026-09-01".toList, "2026-09-03".toList⟩]) noFaults 5
        (runEstate villaEnvironment villaDisconnect villaEstate).db).database
        (runEstate villaEnvironment villaDisconnect villaEstate).db =
      (runEstate villaEnvironment villaDisconnect villaEstate).db := by
  have started :
      villaConnection ∈ (runEstate villaEnvironment villaDisconnect villaEstate).syncing :=
    List.mem_singleton.mpr rfl
  obtain ⟨⟨row, member, -⟩, -⟩ | ⟨-, unchanged⟩ := late_sync_keeps_to_its_rows villaEnvironment
    villaDisconnect villaEstate_sound started
    (.ok [⟨"uid-1", "2026-09-01".toList, "2026-09-03".toList⟩]) noFaults 5
  · exact absurd member List.not_mem_nil
  · exact unchanged

end Sambung
