/-
This file proves that the owner's side of the inventory keeps every part of the
database sound.

A request carries its bounds, so a row it writes passes the checks of its table. A
removal counts the bookings first, so it takes no unit a booking names; what it
does take, the foreign keys take with it.

The writes of properties and units are few in kind: an insert, an update of one
row, and a deletion with its cascade. Each kind has one lemma about the database,
and each call of the services is an instance of it, with its checks read off the
request. That the writes leave every other table alone is a relation of its own,
`WritesInventory`, which the views of the dashboard use as well. The names and
slugs of the inventory are kept apart as their unique constraints ask.
-/

import Sambung.EstateWrites

namespace Sambung

variable {db : Db}

/-! ### Inventory -/

/-- Other properties and units, among them every unit there was. -/
theorem Db.Sound.withInventory [PostgresServer] (sound : db.Sound) {properties : List Property}
    {units : List RentalUnit}
    (inventory : ({ db with property := properties, unit := units } : Db).InventorySound)
    (kept : ∀ tenantId unitId, unitExists tenantId unitId db →
      unitExists tenantId unitId { db with property := properties, unit := units }) :
    KeptSound db { db with property := properties, unit := units } :=
  ⟨⟨inventory, sound.connections.congr rfl fun _ _ => kept _ _,
    sound.bookings.congr rfl (fun _ _ => kept _ _) rfl, sound.conflicts.congr rfl rfl,
    sound.payments.congr rfl rfl fun _ => id⟩, kept, rfl, fun row member =>
    ⟨row, member, rfl, rfl, rfl⟩⟩

theorem insertProperty_sound [PostgresServer] (uuids : UuidSource) (tenantId : Uuid)
    (values : PropertyValues) (sound : db.Sound) :
    KeptSound db ((insertProperty uuids tenantId values db).database db) := by
  rw [insertProperty]
  split
  · exact .refl sound
  · refine sound.withInventory ⟨?_, ?_, sound.inventory.units, sound.inventory.checked, ?_,
      sound.inventory.names⟩ fun _ _ => id
    · exact Table.nodup_map_append sound.inventory.properties (uuids.fresh _)
    · intro property member
      obtain stored | last := List.mem_append.mp member
      · exact sound.inventory.settings property stored
      · rw [List.mem_singleton.mp last]
        refine ⟨?_, ?_, ?_⟩
        · cases chosen : values.depositPct with
          | none => simp [PropertyValues.row, chosen, DEFAULT_DEPOSIT_PCT]
          | some pct => simpa [PropertyValues.row, chosen] using (values.deposit pct chosen).1
        · cases chosen : values.depositPct with
          | none => simp [PropertyValues.row, chosen, DEFAULT_DEPOSIT_PCT]
          | some pct => simpa [PropertyValues.row, chosen] using (values.deposit pct chosen).2
        · cases chosen : values.timeZone with
          | none => simp [PropertyValues.row, chosen, PROPERTY_TIME_ZONES]
          | some named => simpa [PropertyValues.row, chosen] using values.zone named chosen
    · intro unit member
      obtain ⟨property, stored, same⟩ := sound.inventory.parents unit member
      exact ⟨property, List.mem_append_left _ stored, same⟩

theorem UpdatePropertyRequest.patch_checked (dto : UpdatePropertyRequest) {property : Property}
    (checked : property.Checked) : (dto.patch property).Checked := by
  refine ⟨?_, ?_, ?_⟩
  · cases chosen : dto.depositPct with
    | none => simpa [UpdatePropertyRequest.patch, chosen] using checked.depositLow
    | some pct => simpa [UpdatePropertyRequest.patch, chosen] using (dto.deposit pct chosen).1
  · cases chosen : dto.depositPct with
    | none => simpa [UpdatePropertyRequest.patch, chosen] using checked.depositHigh
    | some pct => simpa [UpdatePropertyRequest.patch, chosen] using (dto.deposit pct chosen).2
  · cases chosen : dto.timeZone with
    | none => simpa [UpdatePropertyRequest.patch, chosen] using checked.timeZoneKnown
    | some named => simpa [UpdatePropertyRequest.patch, chosen] using dto.zone named chosen

/-- An update of properties that keeps their ids, their tenants and their checks. -/
theorem Db.Sound.updateProperty [PostgresServer] (sound : db.Sound) (tenantId propertyId : Uuid)
    {change : Property → Property}
    (kept : ∀ property, (change property).id = property.id ∧
      (change property).tenantId = property.tenantId)
    (checked : ∀ property : Property, property.Checked → (change property).Checked) :
    KeptSound db (db.updateProperty tenantId propertyId change) := by
  refine sound.withInventory ⟨?_, ?_, sound.inventory.units, sound.inventory.checked, ?_,
    sound.inventory.names⟩ fun _ _ => id
  · rw [Table.map_updateWhere Property.id fun property _ => (kept property).1]
    exact sound.inventory.properties
  · exact Table.forall_updateWhere sound.inventory.settings fun property _ _ => checked property
  · intro unit member
    obtain ⟨property, stored, sameId, sameTenant⟩ := sound.inventory.parents unit member
    refine ⟨_, Table.mem_updateWhere.mpr ⟨property, stored, rfl⟩, ?_⟩
    split
    · exact ⟨(kept property).1.trans sameId, (kept property).2.trans sameTenant⟩
    · exact ⟨sameId, sameTenant⟩

theorem answerProperty_database (tenantId id : Uuid) (after db : Db) :
    (answerProperty tenantId id after).database db =
      if (after.property.find? fun row => row.id = id ∧ row.tenantId = tenantId).isSome then after
      else db := by
  rw [answerProperty]
  cases after.property.find? fun row => row.id = id ∧ row.tenantId = tenantId with
  | none => rfl
  | some row => rfl

/-- An answer to a write leaves what it wrote, or nothing of it. -/
theorem answerUnit_database (tenantId id : Uuid) (after db : Db) :
    (answerUnit tenantId id after).database db = after ∨
      (answerUnit tenantId id after).database db = db := by
  rw [answerUnit]
  cases findUnitById tenantId id after with
  | none => exact .inr rfl
  | some row =>
    dsimp only
    cases toUnitResponse row with
    | error thrown => exact .inr rfl
    | ok response => exact .inl rfl

theorem updateProperty_sound [PostgresServer] (tenantId id : Uuid) (dto : UpdatePropertyRequest)
    (sound : db.Sound) : KeptSound db ((updateProperty tenantId id dto db).database db) := by
  rw [updateProperty]
  split
  · exact .refl sound
  · rw [answerProperty_database]
    split
    · exact sound.updateProperty tenantId id (fun _ => ⟨rfl, rfl⟩) fun _ => dto.patch_checked
    · exact .refl sound

theorem setPropertyArchived_sound [PostgresServer] (tenantId id : Uuid) (archived : Bool)
    (now : Instant) (sound : db.Sound) :
    KeptSound db ((setPropertyArchived tenantId id archived now db).database db) := by
  rw [setPropertyArchived, answerProperty_database]
  split
  · exact sound.updateProperty tenantId id (fun _ => ⟨rfl, rfl⟩) fun _ checked =>
      ⟨checked.depositLow, checked.depositHigh, checked.timeZoneKnown⟩
  · exact .refl sound

theorem CreateUnitRequest.row_checked (dto : CreateUnitRequest) (tenantId propertyId id : Uuid) :
    (dto.row tenantId propertyId id).Checked :=
  ⟨dto.priced.1, dto.priced.2, dto.guests.1, dto.stay.1⟩

theorem createUnit_sound [PostgresServer] (uuids : UuidSource) (tenantId propertyId : Uuid)
    (dto : CreateUnitRequest) (sound : db.Sound) :
    KeptSound db ((createUnit uuids tenantId propertyId dto db).database db) := by
  rw [createUnit]
  split
  · exact .refl sound
  · rename_i parent
    dsimp only
    split
    · exact .refl sound
    · split
      · exact .refl sound
      · rename_i free
        have fresh := uuids.fresh (db.unit.map RentalUnit.id)
        generalize uuids.draw (db.unit.map RentalUnit.id) = id at free fresh ⊢
        obtain written | unwritten := answerUnit_database tenantId
          (dto.row tenantId propertyId id).id
          { db with unit := db.unit ++ [dto.row tenantId propertyId id] } db
        · rw [written]
          refine sound.withInventory ⟨sound.inventory.properties, sound.inventory.settings,
            Table.nodup_map_append sound.inventory.units fresh, ?_, ?_, ?_⟩ ?_
          · intro unit member
            obtain stored | last := List.mem_append.mp member
            · exact sound.inventory.checked unit stored
            · rw [List.mem_singleton.mp last]
              exact dto.row_checked tenantId propertyId id
          · intro unit member
            obtain stored | last := List.mem_append.mp member
            · exact sound.inventory.parents unit stored
            · rw [List.mem_singleton.mp last]
              exact not_not.mp parent
          · refine List.pairwise_append.mpr
              ⟨sound.inventory.names, List.pairwise_singleton _ _, ?_⟩
            intro first member second last same
            rw [List.mem_singleton.mp last] at same
            exact free ⟨first, member,
              fun sameId => fresh (List.mem_map.mpr ⟨first, member, sameId⟩), same⟩
          · rintro owner unitId ⟨unit, member, same⟩
            exact ⟨unit, List.mem_append_left _ member, same⟩
        · rw [unwritten]
          exact .refl sound

/-- Rows under one id are one row, so a name is free where no other row has it. -/
theorem names_of_free {units : List RentalUnit} (keyed : (units.map RentalUnit.id).Nodup)
    (free : ∀ first ∈ units, ∀ second ∈ units, first.id ≠ second.id →
      ¬ (first.propertyId = second.propertyId ∧ first.name = second.name)) :
    units.Pairwise fun first second =>
      ¬ (first.propertyId = second.propertyId ∧ first.name = second.name) :=
  (List.Nodup.of_map _ keyed).pairwise_of_forall_ne fun first firstMember second secondMember
    differ => free first firstMember second secondMember fun same =>
      differ (Table.eq_of_key keyed firstMember secondMember same)

/-- Two units of one property have different names. -/
theorem Db.InventorySound.apart (sound : db.InventorySound) {first second : RentalUnit}
    (firstMember : first ∈ db.unit) (secondMember : second ∈ db.unit)
    (differs : first.id ≠ second.id) :
    ¬ (first.propertyId = second.propertyId ∧ first.name = second.name) := by
  have symmetric : Std.Symm fun first second : RentalUnit =>
      ¬ (first.propertyId = second.propertyId ∧ first.name = second.name) :=
    ⟨fun _ _ apart both => apart ⟨both.1.symm, both.2.symm⟩⟩
  refine sound.names.forall firstMember secondMember fun same => differs ?_
  rw [same]

/-- An update of units that keeps their keys and checks, under names no other row has. -/
theorem Db.Sound.updateUnit [PostgresServer] (sound : db.Sound) (tenantId unitId : Uuid)
    {change : RentalUnit → RentalUnit}
    (kept : ∀ unit, (change unit).id = unit.id ∧ (change unit).tenantId = unit.tenantId ∧
      (change unit).propertyId = unit.propertyId)
    (checked : ∀ unit : RentalUnit, unit.Checked → (change unit).Checked)
    (free : ∀ unit ∈ db.unit, unit.id = unitId ∧ unit.tenantId = tenantId →
      ¬ (change unit).NameTaken db) : KeptSound db (db.updateUnit tenantId unitId change) := by
  have rows : ∀ row ∈ (db.updateUnit tenantId unitId change).unit, ∃ source ∈ db.unit,
      row.id = source.id ∧ row.tenantId = source.tenantId ∧ row.propertyId = source.propertyId ∧
        (row = source ∨ (row = change source ∧ source.id = unitId ∧
          source.tenantId = tenantId)) := by
    intro row member
    obtain ⟨source, sourceMember, rfl⟩ := Table.mem_updateWhere.mp member
    refine ⟨source, sourceMember, ?_⟩
    split
    · rename_i matched
      obtain ⟨sameId, sameTenant, sameProperty⟩ := kept source
      exact ⟨sameId, sameTenant, sameProperty, .inr ⟨rfl, matched⟩⟩
    · exact ⟨rfl, rfl, rfl, .inl rfl⟩
  have ids : (db.updateUnit tenantId unitId change).unit.map RentalUnit.id =
      db.unit.map RentalUnit.id := Table.map_updateWhere RentalUnit.id fun unit _ => (kept unit).1
  have keyed : ((db.updateUnit tenantId unitId change).unit.map RentalUnit.id).Nodup := by
    rw [ids]
    exact sound.inventory.units
  refine sound.withInventory ⟨sound.inventory.properties, sound.inventory.settings, keyed,
    Table.forall_updateWhere sound.inventory.checked fun unit _ _ => checked unit, ?_, ?_⟩ ?_
  · intro unit member
    obtain ⟨source, sourceMember, -, sameTenant, sameProperty, -⟩ := rows unit member
    obtain ⟨property, stored, same⟩ := sound.inventory.parents source sourceMember
    rw [← sameTenant, ← sameProperty] at same
    exact ⟨property, stored, same⟩
  · refine names_of_free keyed fun first firstMember second secondMember differs same => ?_
    obtain ⟨firstSource, firstStored, firstId, -, firstProperty, firstRow⟩ := rows first firstMember
    obtain ⟨secondSource, secondStored, secondId, -, secondProperty, secondRow⟩ :=
      rows second secondMember
    rw [firstId, secondId] at differs
    rw [firstProperty, secondProperty] at same
    obtain rfl | ⟨rfl, firstMatched⟩ := firstRow
    · obtain rfl | ⟨rfl, secondMatched⟩ := secondRow
      · exact sound.inventory.apart firstStored secondStored differs same
      · refine free secondSource secondStored secondMatched ⟨first, firstStored, ?_, ?_, same.2⟩
        · rw [secondId]
          exact differs
        · exact same.1.trans secondProperty.symm
    · obtain rfl | ⟨rfl, secondMatched⟩ := secondRow
      · refine free firstSource firstStored firstMatched ⟨second, secondStored, ?_, ?_, same.2.symm⟩
        · rw [firstId]
          exact differs.symm
        · exact same.1.symm.trans firstProperty.symm
      · exact differs (firstMatched.1.trans secondMatched.1.symm)
  · rintro owner wanted ⟨unit, member, sameId, sameTenant⟩
    refine ⟨_, Table.mem_updateWhere.mpr ⟨unit, member, rfl⟩, ?_⟩
    split
    · exact ⟨(kept unit).1.trans sameId, (kept unit).2.1.trans sameTenant⟩
    · exact ⟨sameId, sameTenant⟩

theorem UpdateUnitRequest.patch_checked (dto : UpdateUnitRequest) {unit : RentalUnit}
    (checked : unit.Checked) : (dto.patch unit).Checked := by
  have price : 0 ≤ (dto.patch unit).basePriceIdr ∧
      (dto.patch unit).basePriceIdr ≤ MAX_NIGHTLY_RATE_IDR := by
    cases chosen : dto.basePriceIdr with
    | none =>
      simpa [UpdateUnitRequest.patch, chosen] using And.intro checked.priceNonneg checked.priceMax
    | some price => simpa [UpdateUnitRequest.patch, chosen] using dto.priced price chosen
  refine ⟨price.1, price.2, ?_, ?_⟩
  · cases chosen : dto.maxGuests with
    | none => simpa [UpdateUnitRequest.patch, chosen] using checked.maxGuestsPositive
    | some count =>
      have positive : 0 < count := (dto.guests count chosen).1
      simpa [UpdateUnitRequest.patch, chosen] using positive
  · cases chosen : dto.minStay with
    | none => simpa [UpdateUnitRequest.patch, chosen] using checked.minStayPositive
    | some nights => simpa [UpdateUnitRequest.patch, chosen] using (dto.stay nights chosen).1

theorem updateUnit_sound [PostgresServer] (tenantId unitId : Uuid) (dto : UpdateUnitRequest)
    (sound : db.Sound) :
    KeptSound db ((updateUnit tenantId unitId dto db).database db) := by
  have answered : ∀ before : Db, KeptSound db before →
      KeptSound db ((answerUnit tenantId unitId before).database db) := by
    intro before soundBefore
    obtain written | unwritten := answerUnit_database tenantId unitId before db
    · rw [written]
      exact soundBefore
    · rw [unwritten]
      exact .refl sound
  rw [updateUnit]
  split
  · exact answered db (.refl sound)
  · split
    · exact .refl sound
    · cases found : db.unit.find? fun row => row.id = unitId ∧ row.tenantId = tenantId with
      | none => exact .refl sound
      | some row =>
        dsimp only
        split
        · exact .refl sound
        · rename_i free
          have isRow : ∀ unit ∈ db.unit, unit.id = unitId ∧ unit.tenantId = tenantId →
              unit = row := by
            intro unit member matched
            have matchedRow := List.find?_some found
            rw [decide_eq_true_eq] at matchedRow
            exact Table.eq_of_key sound.inventory.units member (List.mem_of_find?_eq_some found)
              (matched.1.trans matchedRow.1.symm)
          refine answered _ (sound.updateUnit tenantId unitId (fun _ => ⟨rfl, rfl, rfl⟩)
            (fun _ => dto.patch_checked) fun unit member matched => ?_)
          rw [isRow unit member matched]
          exact free

theorem setUnitArchived_sound [PostgresServer] (tenantId unitId : Uuid) (archived : Bool)
    (now : Instant) (sound : db.Sound) :
    KeptSound db ((setUnitArchived tenantId unitId archived now db).database db) := by
  rw [setUnitArchived]
  obtain written | unwritten := answerUnit_database tenantId unitId
    (db.updateUnit tenantId unitId (RentalUnit.setArchived archived now)) db
  · rw [written]
    refine sound.updateUnit tenantId unitId (fun _ => ⟨rfl, rfl, rfl⟩) (fun _ checked =>
      ⟨checked.priceNonneg, checked.priceMax, checked.maxGuestsPositive, checked.minStayPositive⟩)
      fun unit member matched => ?_
    rintro ⟨other, otherMember, differs, same⟩
    exact sound.inventory.apart otherMember member differs same
  · rw [unwritten]
    exact .refl sound

/-! ### Removal -/

/-- The ids of the connections of some units. -/
def Db.connectionsOf (gone : List Uuid) (db : Db) : List Uuid :=
  (db.channelConnection.filter (·.unitId ∈ gone)).map ChannelConnection.id

/-- The deletion of units deletes their connections, and nothing else but units and prices. -/
theorem Db.Sound.removeUnits_eq [PostgresServer] (sound : db.Sound) (gone : List Uuid) :
    db.removeUnits gone = { db.deleteConnections (db.connectionsOf gone) with
      unit := db.unit.filter (·.id ∉ gone)
      unitPriceOverride := db.unitPriceOverride.filter (·.unitId ∉ gone) } := by
  have listed : ∀ conn ∈ db.channelConnection,
      conn.id ∈ db.connectionsOf gone ↔ conn.unitId ∈ gone := by
    intro conn member
    rw [Db.connectionsOf, List.mem_map]
    constructor
    · rintro ⟨other, otherMember, same⟩
      obtain ⟨stored, ofGone⟩ := List.mem_filter.mp otherMember
      rw [Table.eq_of_key sound.connections.keyed stored member same] at ofGone
      exact of_decide_eq_true ofGone
    · exact fun ofGone => ⟨conn, List.mem_filter.mpr ⟨member, decide_eq_true ofGone⟩, rfl⟩
  have connections : db.channelConnection.filter (·.unitId ∉ gone) =
      db.channelConnection.filter (·.id ∉ db.connectionsOf gone) :=
    List.filter_congr fun conn member =>
      decide_eq_decide.mpr (not_congr (listed conn member).symm)
  have conflicts : (db.syncConflict.filter fun conflict => conflict.unitId ∉ gone ∧
      conflict.channelConnectionId ∉ db.connectionsOf gone) =
        db.syncConflict.filter (·.channelConnectionId ∉ db.connectionsOf gone) := by
    refine List.filter_congr fun conflict member => decide_eq_decide.mpr ?_
    obtain ⟨conn, stored, same, ofUnit, -⟩ := sound.conflicts.filed conflict member
    rw [← same, ofUnit, listed conn stored, and_self]
  show (⟨_, _, _, _, _, _, _, _, _⟩ : Db) = ⟨_, _, _, _, _, _, _, _, _⟩
  congr 1

/-- The deletion of units without bookings keeps every part. -/
theorem Db.Sound.removeUnits [PostgresServer] (sound : db.Sound) (gone : List Uuid)
    (unbooked : ∀ row ∈ db.booking, row.unitId ∉ gone) : (db.removeUnits gone).Sound := by
  have disconnected := sound.deleteConnections (db.connectionsOf gone)
  rw [sound.removeUnits_eq gone]
  have kept : ∀ tenantId unitId, unitId ∉ gone → unitExists tenantId unitId db →
      unitExists tenantId unitId { db.deleteConnections (db.connectionsOf gone) with
        unit := db.unit.filter (·.id ∉ gone)
        unitPriceOverride := db.unitPriceOverride.filter (·.unitId ∉ gone) } := by
    rintro tenantId unitId stays ⟨unit, member, rfl, ofTenant⟩
    exact ⟨unit, List.mem_filter.mpr ⟨member, decide_eq_true stays⟩, rfl, ofTenant⟩
  refine ⟨⟨sound.inventory.properties, sound.inventory.settings, ?_, ?_, ?_, ?_⟩,
    disconnected.connections.congr rfl fun conn member => ?_,
    disconnected.bookings.congr rfl (fun row member => ?_) rfl,
    disconnected.conflicts.congr rfl rfl, disconnected.payments.congr rfl rfl fun _ => id⟩
  · exact sound.inventory.units.sublist (List.filter_sublist.map _)
  · exact fun unit member => sound.inventory.checked unit (List.mem_of_mem_filter member)
  · exact fun unit member => sound.inventory.parents unit (List.mem_of_mem_filter member)
  · exact sound.inventory.names.sublist List.filter_sublist
  · obtain ⟨stored, listed⟩ := List.mem_filter.mp member
    refine kept _ _ fun ofGone => of_decide_eq_true listed ?_
    exact List.mem_map.mpr ⟨conn, List.mem_filter.mpr ⟨stored, decide_eq_true ofGone⟩, rfl⟩
  · obtain ⟨source, sourceMember, rfl⟩ := List.mem_map.mp member
    exact kept _ _ (unbooked source sourceMember)

theorem removeListing_sound [PostgresServer] (tenantId : Uuid) (listing : Listing)
    (sound : db.Sound) :
    (removeListing tenantId listing db).2.Sound := by
  rw [removeListing]
  split
  · exact sound
  · split
    · exact sound
    · split
      · exact sound
      · rename_i unbooked
        have removed : (db.removeUnits (listing.units db)).Sound :=
          sound.removeUnits _ fun row member ofGone => unbooked ⟨row, member, ofGone⟩
        cases listing with
        | unit unitId => exact removed
        | property propertyId =>
          refine ⟨⟨?_, ?_, removed.inventory.units, removed.inventory.checked, ?_,
            removed.inventory.names⟩, removed.connections.congr rfl fun _ _ => id,
            removed.bookings.congr rfl (fun _ _ => id) rfl, removed.conflicts.congr rfl rfl,
            removed.payments.congr rfl rfl fun _ => id⟩
          · exact removed.inventory.properties.sublist (List.filter_sublist.map _)
          · exact fun property member =>
              removed.inventory.settings property (List.mem_of_mem_filter member)
          · intro unit member
            obtain ⟨stored, kept⟩ := List.mem_filter.mp member
            obtain ⟨property, propertyStored, sameId, sameTenant⟩ :=
              removed.inventory.parents unit member
            refine ⟨property, List.mem_filter.mpr ⟨propertyStored, decide_eq_true ?_⟩, sameId,
              sameTenant⟩
            rintro rfl
            refine of_decide_eq_true kept (List.mem_map.mpr ⟨unit, ?_, rfl⟩)
            exact List.mem_filter.mpr ⟨stored, decide_eq_true sameId.symm⟩

/-- A remove leaves the database, or deletes its listing. -/
theorem removeListing_cases (tenantId : Uuid) (listing : Listing) (db : Db) :
    ((removeListing tenantId listing db).1 ≠ .removed ∧
        (removeListing tenantId listing db).2 = db) ∨
      ((removeListing tenantId listing db).1 = .removed ∧
        (removeListing tenantId listing db).2 = listing.delete db) := by
  rw [removeListing]
  split
  · exact .inl ⟨by simp, rfl⟩
  · split
    · exact .inl ⟨by simp, rfl⟩
    · split
      · exact .inl ⟨by simp, rfl⟩
      · exact .inr ⟨rfl, rfl⟩

/-! ### What a call writes -/

/-- A call writes properties and units only. -/
def WritesInventory (db after : Db) : Prop :=
  ∃ properties units, after = { db with property := properties, unit := units }

theorem WritesInventory.refl (db : Db) : WritesInventory db db := ⟨_, _, rfl⟩

theorem answerUnit_writes (tenantId id : Uuid) {before : Db} (written : WritesInventory db before) :
    WritesInventory db ((answerUnit tenantId id before).database db) := by
  obtain same | same := answerUnit_database tenantId id before db
  · rw [same]
    exact written
  · rw [same]
    exact .refl db

theorem answerProperty_writes (tenantId id : Uuid) {before : Db}
    (written : WritesInventory db before) :
    WritesInventory db ((answerProperty tenantId id before).database db) := by
  rw [answerProperty_database]
  split
  · exact written
  · exact .refl db

theorem insertProperty_writes (uuids : UuidSource) (tenantId : Uuid) (values : PropertyValues)
    (db : Db) : WritesInventory db ((insertProperty uuids tenantId values db).database db) := by
  rw [insertProperty]
  split
  · exact .refl db
  · exact ⟨_, _, rfl⟩

theorem updateProperty_writes (tenantId id : Uuid) (dto : UpdatePropertyRequest) (db : Db) :
    WritesInventory db ((updateProperty tenantId id dto db).database db) := by
  rw [updateProperty]
  split
  · exact .refl db
  · exact answerProperty_writes tenantId id ⟨_, _, rfl⟩

theorem setPropertyArchived_writes (tenantId id : Uuid) (archived : Bool) (now : Instant)
    (db : Db) :
    WritesInventory db ((setPropertyArchived tenantId id archived now db).database db) :=
  answerProperty_writes tenantId id ⟨_, _, rfl⟩

theorem createUnit_writes (uuids : UuidSource) (tenantId propertyId : Uuid)
    (dto : CreateUnitRequest) (db : Db) :
    WritesInventory db ((createUnit uuids tenantId propertyId dto db).database db) := by
  rw [createUnit]
  split
  · exact .refl db
  · dsimp only
    split
    · exact .refl db
    · split
      · exact .refl db
      · exact answerUnit_writes tenantId _ ⟨_, _, rfl⟩

theorem updateUnit_writes (tenantId unitId : Uuid) (dto : UpdateUnitRequest) (db : Db) :
    WritesInventory db ((updateUnit tenantId unitId dto db).database db) := by
  rw [updateUnit]
  split
  · exact answerUnit_writes tenantId unitId (.refl db)
  · split
    · exact .refl db
    · cases db.unit.find? fun row => row.id = unitId ∧ row.tenantId = tenantId with
      | none => exact .refl db
      | some row =>
        dsimp only
        split
        · exact .refl db
        · exact answerUnit_writes tenantId unitId ⟨_, _, rfl⟩

theorem setUnitArchived_writes (tenantId unitId : Uuid) (archived : Bool) (now : Instant)
    (db : Db) :
    WritesInventory db ((setUnitArchived tenantId unitId archived now db).database db) :=
  answerUnit_writes tenantId unitId ⟨_, _, rfl⟩

end Sambung
