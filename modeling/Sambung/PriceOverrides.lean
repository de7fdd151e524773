/-
This file states the dated prices of a unit, `price-overrides.service.ts` over its
repository, and proves what they do to a quote.

A create looks for an overlap among the tenant's overrides of the unit, and the
constraint looks again among all of the unit; under the foreign key the two ask
the same question. Since no night is priced twice, a quote is the base price of
every night corrected by each override on its own, and a create or a delete moves
it by its own correction.

`Db.nightlyRate` says what a night costs, over the stored rows and without a
window, and is what calls are compared by: a create takes its nights and no
others, and a remove gives them back. The calls of a run may be of any tenants and
may be refused; the constraints of the table are the invariant, and with the
foreign key they are all that the two theorems need.
-/

import Sambung.Gate
import Sambung.Inventory

namespace Sambung

/-! ### Rows -/

/-- A whole row of `unit_price_override`. -/
structure PriceOverrideRow extends UnitPriceOverride where
  id : Uuid
  createdAt : Instant
  deriving DecidableEq, Repr

/-- What `createPriceOverrideRequestSchema` lets through. -/
structure CreatePriceOverrideRequest where
  fromDate : Text
  toDate : Text
  nightlyPriceIdr : BigInt
  fromReal : (isoDay fromDate).isSome
  toReal : (isoDay toDate).isSome
  ordered : fromDate < toDate
  priced : 1 ≤ nightlyPriceIdr ∧ nightlyPriceIdr ≤ MAX_NIGHTLY_RATE_IDR

structure PriceOverrideResponse where
  id : Uuid
  unitId : Uuid
  fromDate : Text
  toDate : Text
  nightlyPriceIdr : BigInt
  createdAt : Instant
  deriving DecidableEq, Repr

/-- The database with these rows of `unit_price_override`. -/
def Db.withOverrides (rows : List PriceOverrideRow) (db : Db) : Db :=
  { db with unitPriceOverride := rows.map PriceOverrideRow.toUnitPriceOverride }

/-- The CHECKs of `unit_price_override`. -/
abbrev PriceOverrideRow.Checked (row : PriceOverrideRow) : Prop :=
  row.fromDate < row.toDate ∧ 1 ≤ row.nightlyPriceIdr ∧
    row.nightlyPriceIdr ≤ MAX_NIGHTLY_RATE_IDR

/-- Two rows `price_override_no_overlap` does not let coexist. -/
abbrev PriceOverrideRow.Clashes (first second : PriceOverrideRow) : Prop :=
  first.unitId = second.unitId ∧
    daterangesOverlap first.fromDate first.toDate second.fromDate second.toDate

def priceOverrideOverlap : Thrown :=
  .conflict "price_override_overlap" "These dates already have a price override" .none

/-! ### The service -/

def overlapExists (tenantId unitId : Uuid) (fromDay toDay : PgDate)
    (rows : List PriceOverrideRow) : Prop :=
  ∃ row ∈ rows, row.unitId = unitId ∧ row.tenantId = tenantId ∧
    daterangesOverlap row.fromDate row.toDate fromDay toDay

instance (tenantId unitId : Uuid) (fromDay toDay : PgDate) (rows : List PriceOverrideRow) :
    Decidable (overlapExists tenantId unitId fromDay toDay rows) := by
  unfold overlapExists; infer_instance

/-- `INSERT INTO unit_price_override`, its constraint answering as `mapDbError` maps it. -/
def insertOverride (row : PriceOverrideRow) (rows : List PriceOverrideRow) (db : Db) :
    Except Thrown (List PriceOverrideRow) :=
  if ¬ row.Checked then .error (.pg ⟨"23514", none⟩)
  else if ∃ other ∈ rows, other.Clashes row then .error priceOverrideOverlap
  else if ¬ unitExists row.tenantId row.unitId db then .error (.pg ⟨"23503", none⟩)
  else .ok (rows ++ [row])

def CreatePriceOverrideRequest.row (dto : CreatePriceOverrideRequest) (tenantId unitId : Uuid)
    (fromDay toDay : PgDate) (now : Instant) (id : Uuid) : PriceOverrideRow where
  unitId
  tenantId
  fromDate := fromDay
  toDate := toDay
  nightlyPriceIdr := dto.nightlyPriceIdr
  id
  createdAt := now

def toPriceOverrideResponse (row : PriceOverrideRow) : Except Thrown PriceOverrideResponse := do
  let nightlyPriceIdr ← toRupiah row.nightlyPriceIdr
  return {
    id := row.id
    unitId := row.unitId
    fromDate := dateText row.fromDate
    toDate := dateText row.toDate
    nightlyPriceIdr
    createdAt := row.createdAt }

/-- One transaction: the unit, the overlap, the insert. -/
def createPriceOverride (uuids : UuidSource) (tenantId unitId : Uuid)
    (dto : CreatePriceOverrideRequest) (now : Instant) (rows : List PriceOverrideRow) (db : Db) :
    Except Thrown (PriceOverrideResponse × List PriceOverrideRow) :=
  match findUnitById tenantId unitId db with
  | none => .error (.notFound "Unit not found")
  | some _ =>
    match pgDate dto.fromDate, pgDate dto.toDate with
    | some fromDay, some toDay =>
      if overlapExists tenantId unitId fromDay toDay rows then .error priceOverrideOverlap
      else
        let row := dto.row tenantId unitId fromDay toDay now
          (uuids.draw (rows.map PriceOverrideRow.id))
        match insertOverride row rows db with
        | .error thrown => .error thrown
        | .ok after => (toPriceOverrideResponse row).map fun response => (response, after)
    | _, _ => .error (.pg .invalidDate)

def removePriceOverride (tenantId id : Uuid) (rows : List PriceOverrideRow) :
    Except Thrown (List PriceOverrideRow) :=
  if ∃ row ∈ rows, row.id = id ∧ row.tenantId = tenantId then
    .ok (rows.filter fun row => ¬ (row.id = id ∧ row.tenantId = tenantId))
  else .error (.notFound "Price override not found")

/-! ### Calls in any order -/

inductive PriceOverrideCall where
  | create (tenantId unitId : Uuid) (dto : CreatePriceOverrideRequest) (now : Instant)
  | remove (tenantId id : Uuid)

/-- The rows a call leaves: one that throws leaves them alone. -/
def PriceOverrideCall.run (uuids : UuidSource) (db : Db) :
    PriceOverrideCall → List PriceOverrideRow → List PriceOverrideRow
  | .create tenantId unitId dto now, rows =>
    match createPriceOverride uuids tenantId unitId dto now rows db with
    | .ok (_, after) => after
    | .error _ => rows
  | .remove tenantId id, rows =>
    match removePriceOverride tenantId id rows with
    | .ok after => after
    | .error _ => rows

/-- The rows a sequence of calls leaves. -/
def runPriceOverrides (uuids : UuidSource) (db : Db) (calls : List PriceOverrideCall)
    (rows : List PriceOverrideRow) : List PriceOverrideRow :=
  Runs.final (PriceOverrideCall.run uuids db) calls rows

/-- The constraints of the table. -/
structure OverridesSound (db : Db) (rows : List PriceOverrideRow) : Prop where
  keyed : (rows.map PriceOverrideRow.id).Nodup
  checked : ∀ row ∈ rows, row.Checked
  units : ∀ row ∈ rows, unitExists row.tenantId row.unitId db
  apart : rows.Pairwise fun first second => ¬ first.Clashes second

/-! ### What a call stores -/

section Calls

variable {uuids : UuidSource} {db : Db} {rows : List PriceOverrideRow}

theorem PriceOverrideRow.clashes_comm (first second : PriceOverrideRow) :
    first.Clashes second ↔ second.Clashes first := by
  rw [PriceOverrideRow.Clashes, PriceOverrideRow.Clashes, daterangesOverlap_comm, eq_comm]

theorem insertOverride_ok {row : PriceOverrideRow} {after : List PriceOverrideRow}
    (stored : insertOverride row rows db = .ok after) :
    row.Checked ∧ (∀ other ∈ rows, ¬ other.Clashes row) ∧ unitExists row.tenantId row.unitId db ∧
      after = rows ++ [row] := by
  unfold insertOverride at stored
  split at stored
  · cases stored
  · rename_i checked
    split at stored
    · cases stored
    · rename_i free
      split at stored
      · cases stored
      · rename_i known
        cases stored
        exact ⟨not_not.mp checked, fun other member clash => free ⟨other, member, clash⟩,
          not_not.mp known, rfl⟩

theorem createPriceOverride_ok {tenantId unitId : Uuid} {dto : CreatePriceOverrideRequest}
    {now : Instant} {response : PriceOverrideResponse} {after : List PriceOverrideRow}
    (created : createPriceOverride uuids tenantId unitId dto now rows db = .ok (response, after)) :
    ∃ row, insertOverride row rows db = .ok after ∧ row.id ∉ rows.map PriceOverrideRow.id := by
  unfold createPriceOverride at created
  split at created
  · cases created
  · split at created
    · rename_i fromDay toDay _ _
      split at created
      · cases created
      · refine ⟨dto.row tenantId unitId fromDay toDay now
          (uuids.draw (rows.map PriceOverrideRow.id)), ?_, uuids.fresh _⟩
        dsimp only at created
        split at created
        · cases created
        · rename_i stored inserted
          rw [inserted]
          cases shown : toPriceOverrideResponse (dto.row tenantId unitId fromDay toDay now
              (uuids.draw (rows.map PriceOverrideRow.id))) with
          | error thrown =>
            rw [shown] at created
            cases created
          | ok answer =>
            rw [shown] at created
            cases created
            rfl
    · cases created

theorem removePriceOverride_ok {tenantId id : Uuid} {after : List PriceOverrideRow}
    (removed : removePriceOverride tenantId id rows = .ok after) :
    (∃ row ∈ rows, row.id = id ∧ row.tenantId = tenantId) ∧
      after = rows.filter fun row => ¬ (row.id = id ∧ row.tenantId = tenantId) := by
  unfold removePriceOverride at removed
  split at removed
  · rename_i known
    cases removed
    exact ⟨known, rfl⟩
  · cases removed

/-- An insert the constraint lets through, under a fresh id, keeps the constraints of the table. -/
theorem OverridesSound.insert {row : PriceOverrideRow} {after : List PriceOverrideRow}
    (sound : OverridesSound db rows) (stored : insertOverride row rows db = .ok after)
    (fresh : row.id ∉ rows.map PriceOverrideRow.id) : OverridesSound db after := by
  obtain ⟨checked, free, known, rfl⟩ := insertOverride_ok stored
  refine ⟨Table.nodup_map_append sound.keyed fresh, ?_, ?_, ?_⟩
  · intro other member
    obtain earlier | last := List.mem_append.mp member
    · exact sound.checked other earlier
    · rw [List.mem_singleton.mp last]
      exact checked
  · intro other member
    obtain earlier | last := List.mem_append.mp member
    · exact sound.units other earlier
    · rw [List.mem_singleton.mp last]
      exact known
  · refine List.pairwise_append.mpr ⟨sound.apart, List.pairwise_singleton _ _, ?_⟩
    intro other member last same
    rw [List.mem_singleton.mp same]
    exact free other member

/-- A deletion keeps the constraints of the table: each of them is about rows that were there. -/
theorem OverridesSound.filter (sound : OverridesSound db rows) (kept : PriceOverrideRow → Bool) :
    OverridesSound db (rows.filter kept) where
  keyed := sound.keyed.sublist (List.filter_sublist.map PriceOverrideRow.id)
  checked row member := sound.checked row (List.mem_filter.mp member).1
  units row member := sound.units row (List.mem_filter.mp member).1
  apart := sound.apart.sublist List.filter_sublist

/-- A call keeps the constraints of the table, whether it is refused or goes through. -/
theorem OverridesSound.call (sound : OverridesSound db rows) (call : PriceOverrideCall) :
    OverridesSound db (call.run uuids db rows) := by
  cases call with
  | create tenantId unitId dto now =>
    dsimp only [PriceOverrideCall.run]
    cases created : createPriceOverride uuids tenantId unitId dto now rows db with
    | error thrown => exact sound
    | ok stored =>
      obtain ⟨row, inserted, fresh⟩ := createPriceOverride_ok created
      exact sound.insert inserted fresh
  | remove tenantId id =>
    dsimp only [PriceOverrideCall.run]
    cases removed : removePriceOverride tenantId id rows with
    | error thrown => exact sound
    | ok stored =>
      show OverridesSound db stored
      rw [(removePriceOverride_ok removed).2]
      exact sound.filter _

/-- Every sequence of calls keeps the constraints. -/
theorem OverridesSound.run (sound : OverridesSound db rows) (calls : List PriceOverrideCall) :
    OverridesSound db (runPriceOverrides uuids db calls rows) := by
  induction calls generalizing rows with
  | nil => exact sound
  | cons call calls inductionHypothesis => exact inductionHypothesis (sound.call call)

end Calls

/-! ### The price of a night -/

/-- What a night in the unit costs: the price of the override over it, or the base price. -/
def Db.nightlyRate (db : Db) (unit : RentalUnit) (night : PgDate) : BigInt :=
  ((db.unitPriceOverride.find? fun row =>
    row.unitId = unit.id ∧ row.fromDate ≤ night ∧ night < row.toDate).map
      UnitPriceOverride.nightlyPriceIdr).getD unit.basePriceIdr

/-- The foreign key of the table holds: an override is its unit's tenant's. -/
def Db.OverridesOwned (db : Db) : Prop :=
  ∀ row ∈ db.unitPriceOverride, unitExists row.tenantId row.unitId db

section Quote

variable {db : Db} {unit : RentalUnit} {stay : StayDates}

theorem Db.nightlyRate_eq_layered (db : Db) (unit : RentalUnit) (night : PgDate) :
    db.nightlyRate unit night = Spans.layered unit.basePriceIdr
      ((db.unitPriceOverride.filter fun row => row.unitId = unit.id).map fun row =>
        ((row.fromDate, row.toDate), row.nightlyPriceIdr)) night := by
  rw [Db.nightlyRate, Spans.layered, List.find?_map, List.find?_filter, Option.map_map]
  congr 3
  funext row
  simp

/-- Overrides outside the window cover no night of it, so that the sum of the corrections may run
over all of the rows. -/
theorem sum_corrections (base : Int) (fromDay toDay : PgDate) (rows : List UnitPriceOverride) :
    ((rows.filter fun row => daterangesOverlap row.fromDate row.toDate fromDay toDay).map fun row =>
        (row.nightlyPriceIdr - base) * row.nights fromDay toDay).sum =
      (rows.map fun row => (row.nightlyPriceIdr - base) *
        max 0 (min row.toDate toDay - max row.fromDate fromDay)).sum := by
  induction rows with
  | nil => rfl
  | cons row rows inductionHypothesis =>
    rw [List.map_cons, List.sum_cons, ← inductionHypothesis]
    by_cases meets : daterangesOverlap row.fromDate row.toDate fromDay toDay
    · rw [List.filter_cons_of_pos (by simpa using meets), List.map_cons, List.sum_cons,
        max_eq_right (sub_nonneg.mpr meets.le)]
      rfl
    · rw [List.filter_cons_of_neg (by simpa using meets),
        max_eq_left (sub_nonpos.mpr (not_lt.mp meets)), mul_zero, zero_add]

/-- Every override of a unit is the unit's tenant's. -/
theorem Db.OverridesOwned.tenant (owned : db.OverridesOwned)
    (units : (db.unit.map RentalUnit.id).Nodup) (member : unit ∈ db.unit)
    {row : UnitPriceOverride} (rowMember : row ∈ db.unitPriceOverride)
    (ofUnit : row.unitId = unit.id) : row.tenantId = unit.tenantId := by
  obtain ⟨other, otherMember, otherId, otherTenant⟩ := owned row rowMember
  rw [← otherTenant, Table.eq_of_key units otherMember member (otherId.trans ofUnit)]

/-- The quoted total of a stay is the sum of the prices of its nights: the foreign key makes the
tenant's overrides of the unit all of them. -/
theorem quoteTotalIdr_nightly (prices : db.PricesLawful) (owned : db.OverridesOwned)
    (member : unit ∈ db.unit) (stay : StayDates) :
    quoteTotalIdr unit.basePriceIdr stay.checkIn stay.checkOut
        (findPriceOverrides unit.tenantId unit.id stay.first stay.last db) =
      ∑ night ∈ Finset.Ico stay.first stay.last, db.nightlyRate unit night := by
  have perm := List.perm_insertionSort (fun a b : UnitPriceOverride => a.fromDate ≤ b.fromDate)
    (db.unitPriceOverride.filter fun row => row.unitId = unit.id ∧ row.tenantId = unit.tenantId ∧
      daterangesOverlap row.fromDate row.toDate stay.first stay.last)
  have meet : ∀ row ∈ (db.unitPriceOverride.filter fun row => row.unitId = unit.id ∧
      row.tenantId = unit.tenantId ∧ daterangesOverlap row.fromDate row.toDate stay.first
        stay.last).insertionSort fun a b => a.fromDate ≤ b.fromDate,
      daterangesOverlap row.fromDate row.toDate stay.first stay.last := by
    intro row rowMember
    have matched := (List.mem_filter.mp (perm.mem_iff.mp rowMember)).2
    simp only [decide_eq_true_eq] at matched
    exact matched.2.2
  have selected : (db.unitPriceOverride.filter fun row => row.unitId = unit.id ∧
      row.tenantId = unit.tenantId ∧ daterangesOverlap row.fromDate row.toDate stay.first
        stay.last) = (db.unitPriceOverride.filter fun row => row.unitId = unit.id).filter
          fun row => daterangesOverlap row.fromDate row.toDate stay.first stay.last := by
    rw [List.filter_filter]
    refine List.filter_congr fun row rowMember => ?_
    have tenant := owned.tenant prices.units member rowMember
    by_cases ofUnit : row.unitId = unit.id
    · simp [ofUnit, tenant ofUnit]
    · simp [ofUnit]
  have apart : (((db.unitPriceOverride.filter fun row => row.unitId = unit.id).map fun row =>
      ((row.fromDate, row.toDate), row.nightlyPriceIdr)).map Prod.fst).Pairwise Spans.Apart := by
    rw [List.map_map, List.pairwise_map]
    refine (prices.apart.sublist List.filter_sublist).imp_of_mem
      fun {first second} firstMember secondMember separate => separate ?_
    have firstUnit := (List.mem_filter.mp firstMember).2
    have secondUnit := (List.mem_filter.mp secondMember).2
    simp only [decide_eq_true_eq] at firstUnit secondUnit
    exact firstUnit.trans secondUnit.symm
  rw [findPriceOverrides, quoteTotalIdr_clipped stay.isoDay_checkIn stay.isoDay_checkOut
    unit.basePriceIdr meet, (perm.map _).sum_eq, selected, sum_corrections,
    Finset.sum_congr rfl fun night _ => db.nightlyRate_eq_layered unit night,
    Spans.sum_layered unit.basePriceIdr stay.first_lt_last.le apart, List.map_map]
  rfl

end Quote

/-! ### Rates under the calls -/

/-- The override sets the price of this night. -/
abbrev PriceOverrideRow.Covers (row : PriceOverrideRow) (night : PgDate) : Prop :=
  row.fromDate ≤ night ∧ night < row.toDate

/-- The night is one of those a create asks to price. -/
abbrev CreatePriceOverrideRequest.Covers (dto : CreatePriceOverrideRequest) (night : PgDate) :
    Prop :=
  dateParse dto.fromDate ≤ night ∧ night < dateParse dto.toDate

/-- Two ranges overlap exactly where some night lies in both. -/
theorem daterangesOverlap_iff {a b c d : PgDate} :
    daterangesOverlap a b c d ↔ ∃ night, (a ≤ night ∧ night < b) ∧ c ≤ night ∧ night < d := by
  constructor
  · intro meet
    obtain ⟨beforeB, beforeD⟩ := lt_min_iff.mp meet
    exact ⟨max a c, ⟨le_max_left _ _, beforeB⟩, le_max_right _ _, beforeD⟩
  · rintro ⟨night, ⟨afterA, beforeB⟩, afterC, beforeD⟩
    exact (max_le afterA afterC).trans_lt (lt_min beforeB beforeD)

section Rates

variable {db : Db} {rows : List PriceOverrideRow} {row : PriceOverrideRow} {unit : RentalUnit}
  {night : PgDate}

/-- Of overrides that do not clash, one at most covers a night of a unit. -/
theorem covers_unique (apart : rows.Pairwise fun first second => ¬ first.Clashes second)
    {other : PriceOverrideRow} (member : row ∈ rows) (otherMember : other ∈ rows)
    (sameUnit : other.unitId = row.unitId) (covers : row.Covers night)
    (alsoCovers : other.Covers night) : other = row := by
  have symmetric : Std.Symm fun first second : PriceOverrideRow => ¬ first.Clashes second :=
    ⟨fun first second separate clash => separate ((second.clashes_comm first).mp clash)⟩
  by_contra differ
  exact apart.forall otherMember member differ
    ⟨sameUnit, daterangesOverlap_iff.mpr ⟨night, alsoCovers, covers⟩⟩

theorem nightlyRate_of_covers (apart : rows.Pairwise fun first second => ¬ first.Clashes second)
    (member : row ∈ rows) (ofUnit : row.unitId = unit.id) (covers : row.Covers night) :
    (db.withOverrides rows).nightlyRate unit night = row.nightlyPriceIdr := by
  rw [Db.nightlyRate, Db.withOverrides, List.find?_map, Option.map_map]
  cases found : rows.find? ((fun row : UnitPriceOverride => decide (row.unitId = unit.id ∧
      row.fromDate ≤ night ∧ night < row.toDate)) ∘ PriceOverrideRow.toUnitPriceOverride) with
  | none =>
    exact absurd (decide_eq_true ⟨ofUnit, covers⟩) (List.find?_eq_none.mp found row member)
  | some other =>
    have covering : other.unitId = unit.id ∧ other.Covers night := by
      simpa using List.find?_some found
    rw [covers_unique apart member (List.mem_of_find?_eq_some found)
      (covering.1.trans ofUnit.symm) covers covering.2]
    rfl

theorem nightlyRate_of_uncovered
    (uncovered : ∀ row ∈ rows, row.unitId = unit.id → ¬ row.Covers night) :
    (db.withOverrides rows).nightlyRate unit night = unit.basePriceIdr := by
  rw [Db.nightlyRate, Db.withOverrides, List.find?_map, List.find?_eq_none.mpr]
  · rfl
  · intro row member
    have outside := uncovered row member
    simpa using outside

/-- Where the two tables have the same rows over the night, the unit has the same rate. -/
theorem nightlyRate_congr {after : List PriceOverrideRow}
    (apart : rows.Pairwise fun first second => ¬ first.Clashes second)
    (apartAfter : after.Pairwise fun first second => ¬ first.Clashes second)
    (same : ∀ row, row.unitId = unit.id → row.Covers night → (row ∈ after ↔ row ∈ rows)) :
    (db.withOverrides after).nightlyRate unit night =
      (db.withOverrides rows).nightlyRate unit night := by
  by_cases covered : ∃ row ∈ rows, row.unitId = unit.id ∧ row.Covers night
  · obtain ⟨row, member, ofUnit, covers⟩ := covered
    rw [nightlyRate_of_covers apart member ofUnit covers,
      nightlyRate_of_covers apartAfter ((same row ofUnit covers).mpr member) ofUnit covers]
  · rw [nightlyRate_of_uncovered fun row member ofUnit covers =>
        covered ⟨row, member, ofUnit, covers⟩,
      nightlyRate_of_uncovered fun row member ofUnit covers =>
        covered ⟨row, (same row ofUnit covers).mp member, ofUnit, covers⟩]

/-- The constraints of the table are those the quote relies on. -/
theorem OverridesSound.pricesLawful (sound : OverridesSound db rows) (prices : db.PricesLawful) :
    (db.withOverrides rows).PricesLawful where
  units := prices.units
  properties := prices.properties
  placed := prices.placed
  basePrice := prices.basePrice
  nightlyPrice := by
    intro row member
    obtain ⟨whole, wholeMember, rfl⟩ := List.mem_map.mp member
    exact (sound.checked whole wholeMember).2
  apart := List.pairwise_map.mpr (sound.apart.imp fun separate sameUnit meet =>
    separate ⟨sameUnit, meet⟩)

theorem OverridesSound.owned (sound : OverridesSound db rows) :
    (db.withOverrides rows).OverridesOwned := by
  intro row member
  obtain ⟨whole, wholeMember, rfl⟩ := List.mem_map.mp member
  exact sound.units whole wholeMember

/-- After any calls in any order, the price of a stay in a live unit is the sum of what its nights
cost: each the price of the one override over it, or the base price. The calls are creates and
removes of any tenants, refused ones among them, from any sound table of overrides; the unit is
priced within its check, and the two dates of the stay are ones a `date` column can hold. -/
theorem quote_after_calls (uuids : UuidSource) (prices : db.PricesLawful)
    (sound : OverridesSound db rows) (calls : List PriceOverrideCall) (member : unit ∈ db.unit)
    (live : unit.Live db) (stay : StayDates) (checkInStored : (pgDate stay.checkIn).isSome)
    (checkOutStored : (pgDate stay.checkOut).isSome) :
    ∃ response, quote unit.tenantId unit.id stay.checkIn stay.checkOut
        (db.withOverrides (runPriceOverrides uuids db calls rows)) = .ok (.ok response) ∧
      response.totalPriceIdr = ∑ night ∈ Finset.Ico stay.first stay.last,
        (db.withOverrides (runPriceOverrides uuids db calls rows)).nightlyRate unit night := by
  have soundAfter : OverridesSound db (runPriceOverrides uuids db calls rows) := sound.run calls
  have pricesAfter := soundAfter.pricesLawful prices
  obtain ⟨response, quoted, -, total, -⟩ :=
    quote_live pricesAfter member live checkInStored checkOutStored
  exact ⟨response, quoted, total.trans (quoteTotalIdr_nightly pricesAfter soundAfter.owned member
    stay)⟩

/-! ### What one call does to the rates -/

/-- Some override of the unit covers the night. -/
def Priced (rows : List PriceOverrideRow) (unitId : Uuid) (night : PgDate) : Prop :=
  ∃ row ∈ rows, row.unitId = unitId ∧ row.Covers night

instance (rows : List PriceOverrideRow) (unitId : Uuid) (night : PgDate) :
    Decidable (Priced rows unitId night) :=
  inferInstanceAs (Decidable (∃ row ∈ rows, _))

/-- A create is refused as a clash exactly where one of its nights is priced already. Else it
prices its nights and no others, and removing what it created takes it back. -/
structure CreatesExactly (uuids : UuidSource) (db : Db) (unit : RentalUnit)
    (dto : CreatePriceOverrideRequest) (now : Instant) (rows : List PriceOverrideRow) :
    Prop where
  refused : createPriceOverride uuids unit.tenantId unit.id dto now rows db =
      .error priceOverrideOverlap ↔ ∃ night, dto.Covers night ∧ Priced rows unit.id night
  created : (∀ night, dto.Covers night → ¬ Priced rows unit.id night) →
    ∃ response after,
      createPriceOverride uuids unit.tenantId unit.id dto now rows db = .ok (response, after) ∧
        (∀ other night, (db.withOverrides after).nightlyRate other night =
          if other.id = unit.id ∧ dto.Covers night then dto.nightlyPriceIdr
          else (db.withOverrides rows).nightlyRate other night) ∧
        removePriceOverride unit.tenantId response.id after = .ok rows

/-- A remove gives the nights of its override back to the base price, and no others. -/
def RemovesExactly (db : Db) (row : PriceOverrideRow) (rows : List PriceOverrideRow) : Prop :=
  ∃ after, removePriceOverride row.tenantId row.id rows = .ok after ∧
    ∀ other night, (db.withOverrides after).nightlyRate other night =
      if other.id = row.unitId ∧ row.Covers night then other.basePriceIdr
      else (db.withOverrides rows).nightlyRate other night

theorem clashes_iff_priced :
    (∃ other ∈ rows, other.Clashes row) ↔
      ∃ night, row.Covers night ∧ Priced rows row.unitId night := by
  constructor
  · rintro ⟨other, member, sameUnit, meet⟩
    obtain ⟨night, otherCovers, covers⟩ := daterangesOverlap_iff.mp meet
    exact ⟨night, covers, other, member, sameUnit, otherCovers⟩
  · rintro ⟨night, covers, other, member, sameUnit, otherCovers⟩
    exact ⟨other, member, sameUnit, daterangesOverlap_iff.mpr ⟨night, otherCovers, covers⟩⟩

/-- Under the foreign key the check of the service asks what the constraint asks. -/
theorem overlapExists_iff (sound : OverridesSound db rows)
    (units : (db.unit.map RentalUnit.id).Nodup) (member : unit ∈ db.unit) {first last : PgDate} :
    overlapExists unit.tenantId unit.id first last rows ↔
      ∃ night, (first ≤ night ∧ night < last) ∧ Priced rows unit.id night := by
  constructor
  · rintro ⟨row, rowMember, ofUnit, -, meet⟩
    obtain ⟨night, covers, inside⟩ := daterangesOverlap_iff.mp meet
    exact ⟨night, inside, row, rowMember, ofUnit, covers⟩
  · rintro ⟨night, inside, row, rowMember, ofUnit, covers⟩
    obtain ⟨other, otherMember, otherId, otherTenant⟩ := sound.units row rowMember
    have same : other = unit := Table.eq_of_key units otherMember member (otherId.trans ofUnit)
    exact ⟨row, rowMember, ofUnit, by rw [← otherTenant, same],
      daterangesOverlap_iff.mpr ⟨night, covers, inside⟩⟩

theorem findUnitById_of_mem (prices : db.PricesLawful) (member : unit ∈ db.unit) :
    ∃ found, findUnitById unit.tenantId unit.id db = some found := by
  obtain ⟨property, propertyMember, sameId, -⟩ := prices.placed unit member
  cases known : db.property.find? fun property => property.id = unit.propertyId with
  | none =>
    exact absurd (decide_eq_true sameId) (List.find?_eq_none.mp known property propertyMember)
  | some parent =>
    refine ⟨(unit, unit.archivedAt.isSome || parent.archivedAt.isSome), ?_⟩
    simp only [findUnitById, findUnit prices member, known, Option.bind_eq_bind, Option.bind_some]

theorem toPriceOverrideResponse_checked (checked : row.Checked) :
    ∃ response, toPriceOverrideResponse row = .ok response ∧ response.id = row.id := by
  have safe : toRupiah row.nightlyPriceIdr = .ok row.nightlyPriceIdr :=
    toRupiah_eq ⟨zero_le_one.trans checked.2.1, checked.2.2.trans (by decide)⟩
  rw [toPriceOverrideResponse, safe]
  exact ⟨_, rfl, rfl⟩

/-- What an insert of a row of the tables answers. -/
theorem insertOverride_eq (checked : row.Checked) (known : unitExists row.tenantId row.unitId db) :
    (insertOverride row rows db = .error priceOverrideOverlap ↔
        ∃ night, row.Covers night ∧ Priced rows row.unitId night) ∧
      ((∀ night, row.Covers night → ¬ Priced rows row.unitId night) →
        insertOverride row rows db = .ok (rows ++ [row])) := by
  rw [insertOverride, if_neg (not_not.mpr checked), if_neg (not_not.mpr known)]
  by_cases clash : ∃ other ∈ rows, other.Clashes row
  · rw [if_pos clash]
    obtain ⟨night, covers, priced⟩ := clashes_iff_priced.mp clash
    exact ⟨iff_of_true rfl ⟨night, covers, priced⟩, fun free => absurd priced (free night covers)⟩
  · rw [if_neg clash]
    have free := mt clashes_iff_priced.mpr clash
    exact ⟨iff_of_false (fun same => by cases same) free, fun _ => rfl⟩

/-- The rates after an override joined the table. -/
theorem nightlyRate_append (sound : OverridesSound db rows)
    (soundAfter : OverridesSound db (rows ++ [row])) (other : RentalUnit) (night : PgDate) :
    (db.withOverrides (rows ++ [row])).nightlyRate other night =
      if other.id = row.unitId ∧ row.Covers night then row.nightlyPriceIdr
      else (db.withOverrides rows).nightlyRate other night := by
  by_cases priced : other.id = row.unitId ∧ row.Covers night
  · rw [if_pos priced]
    exact nightlyRate_of_covers soundAfter.apart (List.mem_append_right _ List.mem_cons_self)
      priced.1.symm priced.2
  · rw [if_neg priced]
    refine nightlyRate_congr sound.apart soundAfter.apart fun other' ofUnit covers => ?_
    rw [List.mem_append, List.mem_singleton, or_iff_left]
    rintro rfl
    exact priced ⟨ofUnit.symm, covers⟩

/-- The create of a row takes the nights it asks for. -/
theorem createsExactly (uuids : UuidSource) (prices : db.PricesLawful)
    (sound : OverridesSound db rows) (member : unit ∈ db.unit)
    (dto : CreatePriceOverrideRequest) (now : Instant)
    (fromStored : (pgDate dto.fromDate).isSome) (toStored : (pgDate dto.toDate).isSome) :
    CreatesExactly uuids db unit dto now rows := by
  obtain ⟨found, unitFound⟩ := findUnitById_of_mem prices member
  obtain ⟨fromDay, fromReal⟩ := Option.isSome_iff_exists.mp dto.fromReal
  obtain ⟨toDay, toReal⟩ := Option.isSome_iff_exists.mp dto.toReal
  have ordered : fromDay < toDay := (isoDay_lt_iff fromReal toReal).mp dto.ordered
  have covers : ∀ night, dto.Covers night ↔ fromDay ≤ night ∧ night < toDay := fun night => by
    rw [CreatePriceOverrideRequest.Covers, dateParse_of_isoDay fromReal, dateParse_of_isoDay toReal]
  have fresh := uuids.fresh (rows.map PriceOverrideRow.id)
  have answered : createPriceOverride uuids unit.tenantId unit.id dto now rows db =
      if overlapExists unit.tenantId unit.id fromDay toDay rows then .error priceOverrideOverlap
      else
        let row := dto.row unit.tenantId unit.id fromDay toDay now
          (uuids.draw (rows.map PriceOverrideRow.id))
        match insertOverride row rows db with
        | .error thrown => .error thrown
        | .ok after => (toPriceOverrideResponse row).map fun response => (response, after) := by
    rw [createPriceOverride, unitFound, pgDate_eq_isoDay fromStored, pgDate_eq_isoDay toStored,
      fromReal, toReal]
  generalize uuids.draw (rows.map PriceOverrideRow.id) = id at fresh answered
  have checked : (dto.row unit.tenantId unit.id fromDay toDay now id).Checked :=
    ⟨ordered, dto.priced⟩
  have known : unitExists unit.tenantId unit.id db := ⟨unit, member, rfl, rfl⟩
  obtain ⟨response, shown, sameId⟩ := toPriceOverrideResponse_checked checked
  have overlap : overlapExists unit.tenantId unit.id fromDay toDay rows ↔
      ∃ night, dto.Covers night ∧ Priced rows unit.id night := by
    simp only [covers]
    exact overlapExists_iff sound prices.units member
  have inserted : (∀ night, dto.Covers night → ¬ Priced rows unit.id night) →
      insertOverride (dto.row unit.tenantId unit.id fromDay toDay now id) rows db =
        .ok (rows ++ [dto.row unit.tenantId unit.id fromDay toDay now id]) := fun free =>
    (insertOverride_eq checked known).2 fun night inside => free night ((covers night).mpr inside)
  constructor
  · rw [answered]
    by_cases clash : overlapExists unit.tenantId unit.id fromDay toDay rows
    · rw [if_pos clash]
      exact iff_of_true rfl (overlap.mp clash)
    · rw [if_neg clash]
      refine iff_of_false (fun same => ?_) (mt overlap.mpr clash)
      dsimp only at same
      rw [inserted fun night inside priced => clash (overlap.mpr ⟨night, inside, priced⟩)] at same
      dsimp only at same
      rw [shown] at same
      cases same
  · intro free
    have unclashed := mt overlap.mp fun ⟨night, inside, priced⟩ => free night inside priced
    refine ⟨response, rows ++ [dto.row unit.tenantId unit.id fromDay toDay now id], ?_, ?_, ?_⟩
    · rw [answered, if_neg unclashed]
      dsimp only
      rw [inserted free]
      dsimp only
      rw [shown]
      rfl
    · intro other night
      rw [nightlyRate_append sound (sound.insert (inserted free) fresh)]
      simp only [covers]
      rfl
    · rw [removePriceOverride, if_pos, sameId]
      · congr 1
        rw [List.filter_append, List.filter_eq_self.mpr, List.filter_eq_nil_iff.mpr,
          List.append_nil]
        · intro other last
          rw [List.mem_singleton.mp last]
          simp [CreatePriceOverrideRequest.row]
        · intro other earlier
          have differs : other.id ≠ id := fun same =>
            fresh (List.mem_map.mpr ⟨other, earlier, same⟩)
          exact decide_eq_true fun both => differs both.1
      · exact ⟨_, List.mem_append_right _ List.mem_cons_self, sameId.symm, rfl⟩

theorem removesExactly (sound : OverridesSound db rows) (member : row ∈ rows) :
    RemovesExactly db row rows := by
  have isRow : ∀ other ∈ rows, (other.id = row.id ∧ other.tenantId = row.tenantId) ↔
      other = row := fun other otherMember =>
    ⟨fun same => Table.eq_of_key sound.keyed otherMember member same.1, fun same => by simp [same]⟩
  refine ⟨_, if_pos ⟨row, member, rfl, rfl⟩, fun other night => ?_⟩
  have soundAfter := sound.filter fun other =>
    ¬ (other.id = row.id ∧ other.tenantId = row.tenantId)
  have remaining : ∀ other, other ∈ (rows.filter fun other =>
      ¬ (other.id = row.id ∧ other.tenantId = row.tenantId)) ↔ other ∈ rows ∧ other ≠ row := by
    intro other
    rw [List.mem_filter, decide_eq_true_eq]
    exact and_congr_right fun otherMember => not_congr (isRow other otherMember)
  by_cases priced : other.id = row.unitId ∧ row.Covers night
  · rw [if_pos priced]
    refine nightlyRate_of_uncovered fun left leftMember ofUnit covers => ?_
    obtain ⟨stored, differs⟩ := (remaining left).mp leftMember
    exact differs (covers_unique sound.apart member stored (ofUnit.trans priced.1) priced.2 covers)
  · rw [if_neg priced]
    refine nightlyRate_congr sound.apart soundAfter.apart fun left ofUnit covers => ?_
    rw [remaining, and_iff_left_iff_imp]
    rintro - rfl
    exact priced ⟨ofUnit.symm, covers⟩

/-- After any calls in any order: a create is refused exactly where it would price a night twice, by
the check as by the constraint; else it reprices exactly its nights, and a remove gives exactly
those of its override back. The create is of a unit the tenant has, for dates a column can hold; its
check reads the overrides of the tenant, the constraint those of the unit, and the two come to the
same. -/
theorem price_overrides_exact (uuids : UuidSource) (prices : db.PricesLawful)
    (sound : OverridesSound db rows) (calls : List PriceOverrideCall) :
    (∀ unit ∈ db.unit, ∀ (dto : CreatePriceOverrideRequest) now, (pgDate dto.fromDate).isSome →
      (pgDate dto.toDate).isSome →
        CreatesExactly uuids db unit dto now (runPriceOverrides uuids db calls rows)) ∧
      (∀ row : PriceOverrideRow, row.Checked → unitExists row.tenantId row.unitId db →
        (insertOverride row (runPriceOverrides uuids db calls rows) db =
            .error priceOverrideOverlap ↔ ∃ night, row.Covers night ∧
              Priced (runPriceOverrides uuids db calls rows) row.unitId night)) ∧
      ∀ row ∈ runPriceOverrides uuids db calls rows,
        RemovesExactly db row (runPriceOverrides uuids db calls rows) := by
  have soundAfter : OverridesSound db (runPriceOverrides uuids db calls rows) := sound.run calls
  refine ⟨fun unit member dto now fromStored toStored => ?_, fun row checked known => ?_,
    fun row member => removesExactly soundAfter member⟩
  · exact createsExactly uuids prices soundAfter member dto now fromStored toStored
  · exact (insertOverride_eq checked known).1

end Rates

/-! ### A villa in high season -/

theorem villa_overridesSound : OverridesSound villa [] where
  keyed := List.nodup_nil
  checked _ member := absurd member List.not_mem_nil
  units _ member := absurd member List.not_mem_nil
  apart := List.Pairwise.nil

theorem villaAugust_first : (isoDay "2026-08-01".toList).isSome := by decide +kernel

theorem villaAugust_third : (isoDay "2026-08-03".toList).isSome := by decide +kernel

theorem villaAugust_ordered : "2026-08-01".toList < "2026-08-03".toList := by decide +kernel

theorem villaAugust_priced :
    (1 : BigInt) ≤ 1500000 ∧ (1500000 : BigInt) ≤ MAX_NIGHTLY_RATE_IDR := by
  decide

/-- The first two nights of August at another price. -/
def villaAugustNights : CreatePriceOverrideRequest where
  fromDate := "2026-08-01".toList
  toDate := "2026-08-03".toList
  nightlyPriceIdr := 1500000
  fromReal := villaAugust_first
  toReal := villaAugust_third
  ordered := villaAugust_ordered
  priced := villaAugust_priced

/-- Three nights from the second of August on. -/
def villaAugustStay : StayDates where
  checkIn := "2026-08-02".toList
  checkOut := "2026-08-05".toList
  checkInReal := by decide +kernel
  checkOutReal := by decide +kernel
  ordered := by decide +kernel
  bounded := by decide +kernel

/-- One night at the override's price and two at the base price. -/
theorem quote_after_calls_villa :
    ∃ response, quote 1 20 villaAugustStay.checkIn villaAugustStay.checkOut
        (villa.withOverrides (runPriceOverrides .counting villa
          [.create 1 20 villaAugustNights 0] [])) = .ok (.ok response) ∧
      response.totalPriceIdr = 3500000 := by
  obtain ⟨response, quoted, total⟩ := quote_after_calls .counting villa_prices
    villa_overridesSound [.create 1 20 villaAugustNights 0] (List.mem_singleton.mpr rfl)
    ⟨rfl, _, List.mem_singleton.mpr rfl, rfl, rfl, rfl⟩ villaAugustStay
    (by decide +kernel) (by decide +kernel)
  refine ⟨response, quoted, total.trans ?_⟩
  decide +kernel

/-- A second price for the first night of August is refused. -/
theorem price_overrides_exact_villa :
    createPriceOverride .counting 1 20 villaAugustNights 5
        (runPriceOverrides .counting villa [.create 1 20 villaAugustNights 0] []) villa =
      .error priceOverrideOverlap := by
  obtain ⟨creates, -, -⟩ := price_overrides_exact .counting villa_prices villa_overridesSound
    [.create 1 20 villaAugustNights 0]
  refine (creates _ (List.mem_singleton.mpr rfl) villaAugustNights 5 (by decide +kernel)
    (by decide +kernel)).refused.mpr ⟨20666, ?_, ?_⟩
  · decide +kernel
  · decide +kernel

end Sambung
