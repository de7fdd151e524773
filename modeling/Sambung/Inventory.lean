/-
This file states the owner's side of the inventory: `units.service.ts` and
`properties.service.ts` over the statements of their repositories, one call after
another.

A remove is stated here as it answers when it runs alone; its locks make it answer
so beside other transactions too. A property's slug, its photos and the texts of
its public page take no part in what follows.

A request is what its schema lets through, with its bounds as proofs, and the
CHECKs of the two tables are predicates of a row: that a row a request writes
passes them is proved with the estate. A field an update does not name is left
alone, and an update that names none reads the row back without a write. Archiving
keeps the first instant it was done at. Every answer to a write is read back
through the join with the property, so that it may refuse what was written, and
then nothing of it stays.
-/

import Sambung.Conflicts
import Sambung.Listings

namespace Sambung

/-! ### Checks -/

def MAX_NIGHTLY_RATE_IDR : BigInt := 1000000000

def PROPERTY_TIME_ZONES : List String := ["Asia/Jakarta", "Asia/Makassar", "Asia/Jayapura"]

def DEFAULT_DEPOSIT_PCT : Nat := 100

/-- The CHECKs of `unit`. -/
structure RentalUnit.Checked (unit : RentalUnit) : Prop where
  priceNonneg : 0 ≤ unit.basePriceIdr
  priceMax : unit.basePriceIdr ≤ MAX_NIGHTLY_RATE_IDR
  maxGuestsPositive : 0 < unit.maxGuests
  minStayPositive : 1 ≤ unit.minStay

/-- The CHECKs of `property`. -/
structure Property.Checked (property : Property) : Prop where
  depositLow : 1 ≤ property.depositPct
  depositHigh : property.depositPct ≤ 100
  timeZoneKnown : property.timeZone ∈ PROPERTY_TIME_ZONES

/-! ### Requests and responses -/

/-- What `createUnitRequestSchema` lets through. -/
structure CreateUnitRequest where
  name : String
  basePriceIdr : BigInt
  maxGuests : Nat
  minStay : Nat
  priced : 0 ≤ basePriceIdr ∧ basePriceIdr ≤ MAX_NIGHTLY_RATE_IDR
  guests : 1 ≤ maxGuests ∧ maxGuests ≤ 64
  stay : 1 ≤ minStay ∧ minStay ≤ 365

/-- What `updateUnitRequestSchema` lets through: a field that is absent is left alone. -/
structure UpdateUnitRequest where
  name : Option String
  basePriceIdr : Option BigInt
  maxGuests : Option Nat
  minStay : Option Nat
  priced : ∀ price ∈ basePriceIdr, 0 ≤ price ∧ price ≤ MAX_NIGHTLY_RATE_IDR
  guests : ∀ count ∈ maxGuests, 1 ≤ count ∧ count ≤ 64
  stay : ∀ nights ∈ minStay, 1 ≤ nights ∧ nights ≤ 365

/-- What `createPropertyRequestSchema` lets through, as the insert takes it. -/
structure PropertyValues where
  name : String
  depositPct : Option Nat
  timeZone : Option String
  deposit : ∀ pct ∈ depositPct, 1 ≤ pct ∧ pct ≤ 100
  zone : ∀ named ∈ timeZone, named ∈ PROPERTY_TIME_ZONES

/-- What `updatePropertyRequestSchema` lets through. -/
structure UpdatePropertyRequest where
  name : Option String
  depositPct : Option Nat
  timeZone : Option String
  deposit : ∀ pct ∈ depositPct, 1 ≤ pct ∧ pct ≤ 100
  zone : ∀ named ∈ timeZone, named ∈ PROPERTY_TIME_ZONES

structure UnitResponse where
  id : Uuid
  propertyId : Uuid
  tenantId : Uuid
  name : String
  basePriceIdr : BigInt
  maxGuests : Nat
  minStay : Nat
  archivedAt : Option Instant
  archived : Bool
  deriving DecidableEq, Repr

def unitNameTaken : Thrown :=
  .conflict "unit_name_taken" "A unit with this name already exists in this property" .none

/-! ### Units -/

def propertyExists (tenantId propertyId : Uuid) (db : Db) : Prop :=
  ∃ property ∈ db.property, property.id = propertyId ∧ property.tenantId = tenantId

instance (tenantId propertyId : Uuid) (db : Db) :
    Decidable (propertyExists tenantId propertyId db) := by
  unfold propertyExists; infer_instance

def unitExists (tenantId unitId : Uuid) (db : Db) : Prop :=
  ∃ unit ∈ db.unit, unit.id = unitId ∧ unit.tenantId = tenantId

instance (tenantId unitId : Uuid) (db : Db) : Decidable (unitExists tenantId unitId db) := by
  unfold unitExists; infer_instance

/-- The row with the effective state of retirement: the unit's own or its property's. -/
def findUnitById (tenantId id : Uuid) (db : Db) : Option (RentalUnit × Bool) := do
  let unit ← db.unit.find? fun unit => unit.id = id ∧ unit.tenantId = tenantId
  let property ← db.property.find? fun property => property.id = unit.propertyId
  some (unit, unit.archivedAt.isSome || property.archivedAt.isSome)

def toUnitResponse (row : RentalUnit × Bool) : Except Thrown UnitResponse := do
  let basePriceIdr ← toRupiah row.1.basePriceIdr
  return {
    id := row.1.id
    propertyId := row.1.propertyId
    tenantId := row.1.tenantId
    name := row.1.name
    basePriceIdr
    maxGuests := row.1.maxGuests
    minStay := row.1.minStay
    archivedAt := row.1.archivedAt
    archived := row.2 }

/-- `unit_property_name_uniq` refuses the row. -/
abbrev RentalUnit.NameTaken (row : RentalUnit) (db : Db) : Prop :=
  ∃ other ∈ db.unit, other.id ≠ row.id ∧ other.propertyId = row.propertyId ∧
    other.name = row.name

/-- The row a create inserts. -/
def CreateUnitRequest.row (dto : CreateUnitRequest) (tenantId propertyId id : Uuid) :
    RentalUnit where
  id
  propertyId
  tenantId
  name := dto.name
  basePriceIdr := dto.basePriceIdr
  maxGuests := dto.maxGuests
  minStay := dto.minStay
  archivedAt := none

/-- The answer to a write, read back through the join. -/
def answerUnit (tenantId id : Uuid) (after : Db) : Answer UnitResponse :=
  match findUnitById tenantId id after with
  | none => .error (.notFound "Unit not found")
  | some row => (toUnitResponse row).map fun response => (response, after)

def createUnit (uuids : UuidSource) (tenantId propertyId : Uuid) (dto : CreateUnitRequest)
    (db : Db) : Answer UnitResponse :=
  if ¬ propertyExists tenantId propertyId db then .error (.notFound "Property not found")
  else
    let row := dto.row tenantId propertyId (uuids.draw (db.unit.map RentalUnit.id))
    if ¬ pgText row.name then .error (.pg .invalidText)
    else if row.NameTaken db then .error unitNameTaken
    else answerUnit tenantId row.id { db with unit := db.unit ++ [row] }

/-- The row as an update leaves it. -/
def UpdateUnitRequest.patch (dto : UpdateUnitRequest) (unit : RentalUnit) : RentalUnit :=
  { unit with
    name := dto.name.getD unit.name
    basePriceIdr := dto.basePriceIdr.getD unit.basePriceIdr
    maxGuests := dto.maxGuests.getD unit.maxGuests
    minStay := dto.minStay.getD unit.minStay }

/-- A body that sets nothing. -/
abbrev UpdateUnitRequest.Empty (dto : UpdateUnitRequest) : Prop :=
  dto.name = none ∧ dto.basePriceIdr = none ∧ dto.maxGuests = none ∧ dto.minStay = none

/-- `UPDATE unit SET ... WHERE id AND tenant_id`. -/
def Db.updateUnit (tenantId id : Uuid) (change : RentalUnit → RentalUnit) (db : Db) : Db :=
  { db with
    unit := Table.updateWhere (fun row => row.id = id ∧ row.tenantId = tenantId) change db.unit }

def updateUnit (tenantId id : Uuid) (dto : UpdateUnitRequest) (db : Db) : Answer UnitResponse :=
  if dto.Empty then answerUnit tenantId id db
  else if ¬ dto.name.all pgText then .error (.pg .invalidText)
  else
    match db.unit.find? fun row => row.id = id ∧ row.tenantId = tenantId with
    | none => .error (.notFound "Unit not found")
    | some row =>
      if (dto.patch row).NameTaken db then .error unitNameTaken
      else answerUnit tenantId id (db.updateUnit tenantId id dto.patch)

/-- `SET archived_at`: archiving again keeps the first instant. -/
def RentalUnit.setArchived (archived : Bool) (now : Instant) (unit : RentalUnit) : RentalUnit :=
  { unit with archivedAt := if archived then some (unit.archivedAt.getD now) else none }

def setUnitArchived (tenantId id : Uuid) (archived : Bool) (now : Instant) (db : Db) :
    Answer UnitResponse :=
  answerUnit tenantId id (db.updateUnit tenantId id (RentalUnit.setArchived archived now))

/-! ### Properties -/

/-- The row a create inserts, less its slug and the texts of its page. -/
def PropertyValues.row (values : PropertyValues) (tenantId id : Uuid) : Property where
  id
  tenantId
  name := values.name
  timeZone := values.timeZone.getD "Asia/Makassar"
  depositPct := values.depositPct.getD DEFAULT_DEPOSIT_PCT
  archivedAt := none

/-- The insert of a `createWithSlug` whose slug no property has. -/
def insertProperty (uuids : UuidSource) (tenantId : Uuid) (values : PropertyValues)
    (db : Db) : Answer Property :=
  let row := values.row tenantId (uuids.draw (db.property.map Property.id))
  if ¬ pgText row.name then .error (.pg .invalidText)
  else .ok (row, { db with property := db.property ++ [row] })

def UpdatePropertyRequest.patch (dto : UpdatePropertyRequest) (property : Property) : Property :=
  { property with
    name := dto.name.getD property.name
    timeZone := dto.timeZone.getD property.timeZone
    depositPct := dto.depositPct.getD property.depositPct }

/-- `UPDATE property SET ... WHERE id AND tenant_id`. -/
def Db.updateProperty (tenantId id : Uuid) (change : Property → Property) (db : Db) : Db :=
  { db with
    property := Table.updateWhere (fun row => row.id = id ∧ row.tenantId = tenantId) change
      db.property }

/-- The answer to a write, read back. -/
def answerProperty (tenantId id : Uuid) (after : Db) : Answer Property :=
  match after.property.find? fun row => row.id = id ∧ row.tenantId = tenantId with
  | none => .error (.notFound "Property not found")
  | some row => .ok (row, after)

def updateProperty (tenantId id : Uuid) (dto : UpdatePropertyRequest) (db : Db) :
    Answer Property :=
  if ¬ dto.name.all pgText then .error (.pg .invalidText)
  else answerProperty tenantId id (db.updateProperty tenantId id dto.patch)

def Property.setArchived (archived : Bool) (now : Instant) (property : Property) : Property :=
  { property with archivedAt := if archived then some (property.archivedAt.getD now) else none }

def setPropertyArchived (tenantId id : Uuid) (archived : Bool) (now : Instant) (db : Db) :
    Answer Property :=
  answerProperty tenantId id
    (db.updateProperty tenantId id (Property.setArchived archived now))

/-! ### Removal -/

/-- A remove that runs alone. -/
def removeListing (tenantId : Uuid) (listing : Listing) (db : Db) : RemoveAnswer × Db :=
  if ¬ listing.Stored tenantId db then (.notFound, db)
  else if listing.countBookings tenantId db > 0 then
    (.hasBookings (listing.countBookings tenantId db), db)
  else if ∃ booking ∈ db.booking, booking.unitId ∈ listing.units db then (.foreignKey, db)
  else (.removed, listing.delete db)

end Sambung
