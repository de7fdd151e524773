/-
This file states the availability quote: the shared date and price arithmetic of
`packages/shared/src/availability.ts`, the three queries of
`availability.repository.ts` and `AvailabilityService.quote` over them.

Dates travel as `YYYY-MM-DD` texts, as in the source: the texts are compared as
strings, the database compares days.

An unknown or an archived unit is an outcome of the quote and no error; it throws
only where the database takes no such date, or the total is no amount in rupiah.
The spans a query returns are clipped to the window by the query, with `greatest`
and `least`, before the services see them. `Date.parse` is read at midnight UTC,
and so as a number of days; every caller has checked before that the text is a day
of the calendar.
-/

import Sambung.Conflicts

namespace Sambung

/-! ### Shared arithmetic -/

def MAX_AVAILABILITY_NIGHTS : Int := 366

/-- ``Date.parse(`${iso}T00:00:00Z`)`` in days. Every caller passes a day of the calendar. -/
def dateParse (iso : Text) : Int := (isoDay iso).getD 0

/-- `countNights`: the days from one date to the other, below zero where they come in the other
order. -/
def countNights (fromDate toDate : Text) : Int := dateParse toDate - dateParse fromDate

structure PriceOverrideSpan where
  fromDate : Text
  toDate : Text
  nightlyPriceIdr : BigInt
  deriving DecidableEq, Repr

/-- The later of two ISO dates, as strings compare. -/
def laterText (first second : Text) : Text := if first > second then first else second

/-- The earlier of two ISO dates, as strings compare. -/
def earlierText (first second : Text) : Text := if first < second then first else second

/-- The price of a stay: the base price of every night, plus what each override adds on the
nights it covers. -/
def quoteTotalIdr (basePriceIdr : BigInt) (fromDate toDate : Text)
    (overrides : List PriceOverrideSpan) : BigInt :=
  overrides.foldl (fun total o =>
      let nights := countNights (laterText o.fromDate fromDate) (earlierText o.toDate toDate)
      if nights > 0 then total + (o.nightlyPriceIdr - basePriceIdr) * nights else total)
    (basePriceIdr * countNights fromDate toDate)

/-- `meetsMinStay`: the stay is no shorter than the unit's minimum. -/
def meetsMinStay (nights : Int) (minStay : Nat) : Prop := nights ≥ minStay

instance (nights : Int) (minStay : Nat) : Decidable (meetsMinStay nights minStay) := by
  unfold meetsMinStay; infer_instance

/-- A half-open span of unavailable nights. -/
structure BlockedRange where
  fromDate : Text
  toDate : Text
  deriving DecidableEq, Repr

/-- One turn of the merge: the next range joins the last one it touches or opens its own. -/
def mergeRange (merged : List BlockedRange) (next : BlockedRange) : List BlockedRange :=
  match merged.getLast? with
  | none => [next]
  | some last =>
    if next.fromDate ≤ last.toDate then
      if next.toDate > last.toDate then merged.dropLast ++ [{ last with toDate := next.toDate }]
      else merged
    else merged ++ [next]

/-- `coalesceRanges`: the ranges sorted by their starts as strings, then merged in one pass, each
into the last one so far. -/
def coalesceRanges (ranges : List BlockedRange) : List BlockedRange :=
  (ranges.insertionSort fun a b => a.fromDate ≤ b.fromDate).foldl mergeRange []

/-! ### Queries -/

/-- `date::text`. -/
def dateText (day : PgDate) : Text := isoText (civilFromDays day)

structure UnitPricing where
  basePriceIdr : BigInt
  minStay : Nat
  archived : Bool
  deriving DecidableEq, Repr

/-- The price and the minimum stay of the tenant's unit. A unit counts as archived where its
property is. -/
def fetchUnitPricing (tenantId unitId : Uuid) (db : Db) : Option UnitPricing := do
  let unit ← db.unit.find? fun unit => unit.id = unitId ∧ unit.tenantId = tenantId
  let property ← db.property.find? fun property =>
    property.id = unit.propertyId ∧ property.tenantId = unit.tenantId
  some {
    basePriceIdr := unit.basePriceIdr
    minStay := unit.minStay
    archived := unit.archivedAt.isSome || property.archivedAt.isSome }

/-- The occupied spans of the unit inside the window, clipped to it. -/
def findBlockedRanges (tenantId unitId : Uuid) (fromDate toDate : PgDate) (db : Db) :
    List BlockedRange :=
  let blocking := db.booking.filter fun row =>
    row.unitId = unitId ∧ row.tenantId = tenantId ∧ row.status.Occupying ∧
      daterangesOverlap row.checkIn row.checkOut fromDate toDate
  (blocking.insertionSort fun a b => a.checkIn ≤ b.checkIn).map fun row =>
    { fromDate := dateText (max row.checkIn fromDate)
      toDate := dateText (min row.checkOut toDate) }

/-- The price overrides of the unit inside the window, clipped to it. -/
def findPriceOverrides (tenantId unitId : Uuid) (fromDate toDate : PgDate) (db : Db) :
    List PriceOverrideSpan :=
  let inside := db.unitPriceOverride.filter fun row =>
    row.unitId = unitId ∧ row.tenantId = tenantId ∧
      daterangesOverlap row.fromDate row.toDate fromDate toDate
  (inside.insertionSort fun a b => a.fromDate ≤ b.fromDate).map fun row =>
    { fromDate := dateText (max row.fromDate fromDate)
      toDate := dateText (min row.toDate toDate)
      nightlyPriceIdr := row.nightlyPriceIdr }

/-! ### The quote -/

structure AvailabilityResponse where
  available : Bool
  nights : Int
  totalPriceIdr : BigInt
  minStay : Nat
  reasons : List BookingRefusalReason
  blockedRanges : List BlockedRange
  deriving DecidableEq, Repr

inductive QuoteOutcome where
  | ok (response : AvailabilityResponse)
  | archived
  | notFound
  deriving DecidableEq, Repr

/-- `AvailabilityService.quote`. It answers for any nights, taken ones and ones below the minimum
stay included, and leaves it to the caller what to refuse. -/
def quote (tenantId unitId : Uuid) (fromDate toDate : Text) (db : Db) :
    Except Thrown QuoteOutcome :=
  match fetchUnitPricing tenantId unitId db with
  | none => .ok .notFound
  | some pricing =>
    if pricing.archived then .ok .archived
    else
      match pgDate fromDate, pgDate toDate with
      | some fromDay, some toDay => do
        let blockedRanges := coalesceRanges (findBlockedRanges tenantId unitId fromDay toDay db)
        let overrides := findPriceOverrides tenantId unitId fromDay toDay db
        let nights := countNights fromDate toDate
        let overlap := blockedRanges.length > 0
        let minStayOk := meetsMinStay nights pricing.minStay
        let totalPriceIdr ←
          toRupiah (quoteTotalIdr pricing.basePriceIdr fromDate toDate overrides)
        return .ok {
          available := ¬ overlap ∧ minStayOk
          nights
          totalPriceIdr
          minStay := pricing.minStay
          reasons := (if overlap then [.overlap] else []) ++ (if minStayOk then [] else [.minStay])
          blockedRanges }
      | _, _ => .error (.pg .invalidDate)

end Sambung
