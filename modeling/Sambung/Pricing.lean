/-
This file proves that the price of a stay is the sum of the prices of its nights.

The source computes the total as base price times nights plus a correction for
each override; here every night of the stay is walked, and costs the override that
covers it or the base price.

Two facts join them. The correction of one override is its surplus times the
nights it covers in the stay, whether the query has clipped it or not
(`correction_eq`). And overrides that cover no night twice are spans that do not
meet, so that the sum over the nights splits into the base price of all and the
surplus of each, which does not depend on their order. A bound on one night bounds
the total; a quote has at most 366 nights, and with the bound of a price that
keeps it far below where numbers lose their units.
-/

import Sambung.Calendar
import Sambung.Foundation.Spans

namespace Sambung

/-! ### Dates as days -/

theorem dateParse_of_isoDay {text : Text} {day : PgDate} (real : isoDay text = some day) :
    dateParse text = day := by
  rw [dateParse, real]
  rfl

/-- The days of the earliest and the latest `YYYY-MM-DD`. -/
theorem dateParse_bounds {text : Text} (real : (isoDay text).isSome) :
    daysFromCivil 0 1 1 ≤ dateParse text ∧ dateParse text ≤ daysFromCivil 9999 12 31 := by
  obtain ⟨day, known⟩ := Option.isSome_iff_exists.mp real
  obtain ⟨first, last, -⟩ := dateText_of_isoDay known
  rw [dateParse_of_isoDay known]
  exact ⟨first, last⟩

section Compare

variable {first second : Text} {firstDay secondDay : PgDate}

/-- The later of two dates, as strings, is the later day. -/
theorem dateParse_laterText (firstReal : isoDay first = some firstDay)
    (secondReal : isoDay second = some secondDay) :
    dateParse (laterText first second) = max firstDay secondDay := by
  unfold laterText
  by_cases later : first > second
  · have after := (isoDay_lt_iff secondReal firstReal).mp later
    rw [if_pos later, dateParse_of_isoDay firstReal, max_eq_left after.le]
  · have notAfter := mt (isoDay_lt_iff secondReal firstReal).mpr later
    rw [if_neg later, dateParse_of_isoDay secondReal, max_eq_right (not_lt.mp notAfter)]

/-- The earlier of two dates, as strings, is the earlier day. -/
theorem dateParse_earlierText (firstReal : isoDay first = some firstDay)
    (secondReal : isoDay second = some secondDay) :
    dateParse (earlierText first second) = min firstDay secondDay := by
  unfold earlierText
  by_cases earlier : first < second
  · have before := (isoDay_lt_iff firstReal secondReal).mp earlier
    rw [if_pos earlier, dateParse_of_isoDay firstReal, min_eq_left before.le]
  · have notBefore := mt (isoDay_lt_iff firstReal secondReal).mpr earlier
    rw [if_neg earlier, dateParse_of_isoDay secondReal, min_eq_right (not_lt.mp notBefore)]

end Compare

/-! ### Overrides -/

/-- Both dates of the override are days of the calendar. -/
structure PriceOverrideSpan.Real (o : PriceOverrideSpan) : Prop where
  fromDate : (isoDay o.fromDate).isSome
  toDate : (isoDay o.toDate).isSome

/-- The first day of the override and the day after its last. -/
def PriceOverrideSpan.span (o : PriceOverrideSpan) : Int × Int :=
  (dateParse o.fromDate, dateParse o.toDate)

/-- The override sets the price of this night. -/
def PriceOverrideSpan.Covers (o : PriceOverrideSpan) (night : PgDate) : Prop :=
  dateParse o.fromDate ≤ night ∧ night < dateParse o.toDate

instance (o : PriceOverrideSpan) (night : PgDate) : Decidable (o.Covers night) := by
  unfold PriceOverrideSpan.Covers; infer_instance

/-- The price of one night: the override covering it, or the base price. -/
def nightPrice (basePriceIdr : BigInt) (overrides : List PriceOverrideSpan) (night : PgDate) :
    BigInt :=
  match overrides.find? fun o => o.Covers night with
  | some o => o.nightlyPriceIdr
  | none => basePriceIdr

/-- The override as the query clips it to the days of a stay. -/
def PriceOverrideSpan.clip (fromDay toDay : PgDate) (o : PriceOverrideSpan) : PriceOverrideSpan :=
  { o with
    fromDate := dateText (max (dateParse o.fromDate) fromDay)
    toDate := dateText (min (dateParse o.toDate) toDay) }

/-- The nights of the stay the override covers. -/
def PriceOverrideSpan.nights (fromDay toDay : PgDate) (o : PriceOverrideSpan) : Int :=
  max 0 (min (dateParse o.toDate) toDay - max (dateParse o.fromDate) fromDay)

theorem nightPrice_eq_layered (basePriceIdr : BigInt) (overrides : List PriceOverrideSpan)
    (night : PgDate) :
    nightPrice basePriceIdr overrides night =
      Spans.layered basePriceIdr (overrides.map fun o => (o.span, o.nightlyPriceIdr)) night := by
  rw [nightPrice, Spans.layered, List.find?_map, Option.map_map]
  show _ = (Option.map _ (overrides.find? fun o => o.Covers night)).getD basePriceIdr
  cases overrides.find? fun o => o.Covers night with
  | none => rfl
  | some o => rfl

section Stay

variable {fromDate toDate : Text} {fromDay toDay : PgDate}

theorem PriceOverrideSpan.Real.clip {o : PriceOverrideSpan} (real : o.Real)
    (fromReal : isoDay fromDate = some fromDay) (toReal : isoDay toDate = some toDay) :
    isoDay (o.clip fromDay toDay).fromDate = some (max (dateParse o.fromDate) fromDay) ∧
      isoDay (o.clip fromDay toDay).toDate = some (min (dateParse o.toDate) toDay) := by
  obtain ⟨fromFirst, fromLast, -⟩ := dateText_of_isoDay fromReal
  obtain ⟨toFirst, toLast, -⟩ := dateText_of_isoDay toReal
  obtain ⟨ownFirst, ownLast⟩ := dateParse_bounds real.fromDate
  obtain ⟨ownFirst', ownLast'⟩ := dateParse_bounds real.toDate
  exact ⟨isoDay_dateText (ownFirst.trans (le_max_left _ _)) (max_le ownLast fromLast),
    isoDay_dateText (le_min ownFirst' toFirst) ((min_le_left _ _).trans ownLast')⟩

/-- Clipping an override to the stay keeps the nights it covers there. -/
theorem PriceOverrideSpan.nights_clip {o : PriceOverrideSpan} (real : o.Real)
    (fromReal : isoDay fromDate = some fromDay) (toReal : isoDay toDate = some toDay) :
    (o.clip fromDay toDay).nights fromDay toDay = o.nights fromDay toDay := by
  obtain ⟨clippedFrom, clippedTo⟩ := real.clip fromReal toReal
  rw [nights, nights, dateParse_of_isoDay clippedFrom, dateParse_of_isoDay clippedTo, min_assoc,
    min_self, max_assoc, max_self]

/-- The source's correction for one override, by the nights it covers. -/
theorem correction_eq {o : PriceOverrideSpan} (real : o.Real)
    (fromReal : isoDay fromDate = some fromDay) (toReal : isoDay toDate = some toDay)
    (basePriceIdr total : BigInt) :
    (if countNights (laterText o.fromDate fromDate) (earlierText o.toDate toDate) > 0 then
      total + (o.nightlyPriceIdr - basePriceIdr) *
        countNights (laterText o.fromDate fromDate) (earlierText o.toDate toDate)
      else total) =
      total + (o.nightlyPriceIdr - basePriceIdr) * o.nights fromDay toDay := by
  obtain ⟨ownFrom, knownFrom⟩ := Option.isSome_iff_exists.mp real.fromDate
  obtain ⟨ownTo, knownTo⟩ := Option.isSome_iff_exists.mp real.toDate
  rw [countNights, dateParse_laterText knownFrom fromReal, dateParse_earlierText knownTo toReal,
    PriceOverrideSpan.nights, dateParse_of_isoDay knownFrom, dateParse_of_isoDay knownTo]
  by_cases meets : min ownTo toDay - max ownFrom fromDay > 0
  · rw [if_pos meets, max_eq_right meets.le]
  · rw [if_neg meets, max_eq_left (not_lt.mp meets), mul_zero, add_zero]

/-- The source's total: the base price of every night, corrected by the nights of each override. -/
theorem quoteTotalIdr_eq (fromReal : isoDay fromDate = some fromDay)
    (toReal : isoDay toDate = some toDay) (basePriceIdr : BigInt)
    {overrides : List PriceOverrideSpan} (real : ∀ o ∈ overrides, o.Real) :
    quoteTotalIdr basePriceIdr fromDate toDate overrides =
      basePriceIdr * (toDay - fromDay) +
        (overrides.map fun o =>
          (o.nightlyPriceIdr - basePriceIdr) * o.nights fromDay toDay).sum := by
  unfold quoteTotalIdr
  rw [countNights, dateParse_of_isoDay toReal, dateParse_of_isoDay fromReal]
  generalize basePriceIdr * (toDay - fromDay) = total
  induction overrides generalizing total with
  | nil => simp
  | cons o overrides inductionHypothesis =>
    rw [List.foldl_cons, List.map_cons, List.sum_cons]
    dsimp only
    rw [correction_eq (real o List.mem_cons_self) fromReal toReal,
      inductionHypothesis fun other member => real other (List.mem_cons_of_mem _ member)]
    exact add_assoc _ _ _

/-! ### Every night once -/

/-- No night is covered by both overrides. -/
def PriceOverrideSpan.Apart (first second : PriceOverrideSpan) : Prop :=
  ∀ night, ¬ (first.Covers night ∧ second.Covers night)

theorem PriceOverrideSpan.Apart.spans {first second : PriceOverrideSpan}
    (apart : first.Apart second) : Spans.Apart first.span second.span := by
  intro meets
  obtain ⟨first_lt, second_lt⟩ := lt_min_iff.mp meets
  exact apart _ ⟨⟨le_max_left _ _, first_lt⟩, ⟨le_max_right _ _, second_lt⟩⟩

/-- The override is passed as stored, or as the query clips it to the stay. -/
def PriceOverrideSpan.GivenAs (fromDay toDay : PgDate) (o given : PriceOverrideSpan) : Prop :=
  given = o ∨ given = o.clip fromDay toDay

/-- Passing an override clipped changes neither its price nor the nights it covers. -/
theorem PriceOverrideSpan.GivenAs.same {o given : PriceOverrideSpan} (real : o.Real)
    (fromReal : isoDay fromDate = some fromDay) (toReal : isoDay toDate = some toDay)
    (passed : o.GivenAs fromDay toDay given) :
    given.Real ∧ given.nightlyPriceIdr = o.nightlyPriceIdr ∧
      given.nights fromDay toDay = o.nights fromDay toDay := by
  rcases passed with rfl | rfl
  · exact ⟨real, rfl, rfl⟩
  · obtain ⟨clippedFrom, clippedTo⟩ := real.clip fromReal toReal
    exact ⟨⟨Option.isSome_of_eq_some clippedFrom, Option.isSome_of_eq_some clippedTo⟩, rfl,
      nights_clip real fromReal toReal⟩

/-- Overrides that cover no night twice price the stay night by night. -/
theorem sum_nightPrice (stay : fromDay ≤ toDay) (basePriceIdr : BigInt)
    {overrides : List PriceOverrideSpan} (apart : overrides.Pairwise PriceOverrideSpan.Apart) :
    ∑ night ∈ Finset.Ico fromDay toDay, nightPrice basePriceIdr overrides night =
      basePriceIdr * (toDay - fromDay) +
        (overrides.map fun o =>
          (o.nightlyPriceIdr - basePriceIdr) * o.nights fromDay toDay).sum := by
  have separate : ((overrides.map fun o => (o.span, o.nightlyPriceIdr)).map Prod.fst).Pairwise
      Spans.Apart := by
    rw [List.map_map]
    exact List.pairwise_map.mpr (apart.imp PriceOverrideSpan.Apart.spans)
  have layered := Spans.sum_layered basePriceIdr stay separate
  rw [List.map_map] at layered
  rw [Finset.sum_congr rfl fun night _ => nightPrice_eq_layered basePriceIdr overrides night]
  exact layered

/-- The prices of the nights are those of the overrides and the base price. -/
theorem nightPrice_bounds {basePriceIdr : BigInt} (base : 0 ≤ basePriceIdr)
    (baseHigh : basePriceIdr ≤ 1000000000) {overrides : List PriceOverrideSpan}
    (prices : ∀ o ∈ overrides, 1 ≤ o.nightlyPriceIdr ∧ o.nightlyPriceIdr ≤ 1000000000)
    (night : PgDate) :
    0 ≤ nightPrice basePriceIdr overrides night ∧
      nightPrice basePriceIdr overrides night ≤ 1000000000 := by
  unfold nightPrice
  cases found : overrides.find? fun o => o.Covers night with
  | none => exact ⟨base, baseHigh⟩
  | some o =>
    obtain ⟨low, high⟩ := prices o (List.mem_of_find?_eq_some found)
    exact ⟨zero_le_one.trans low, high⟩

/-- What passed overrides add to the base price does not depend on how they are passed. -/
theorem corrections_given {overrides given : List PriceOverrideSpan}
    (fromReal : isoDay fromDate = some fromDay) (toReal : isoDay toDate = some toDay)
    (basePriceIdr : BigInt) (real : ∀ o ∈ overrides, o.Real)
    (passed : List.Forall₂ (PriceOverrideSpan.GivenAs fromDay toDay) overrides given) :
    (∀ o ∈ given, o.Real) ∧
      (given.map fun o => (o.nightlyPriceIdr - basePriceIdr) * o.nights fromDay toDay) =
        overrides.map fun o => (o.nightlyPriceIdr - basePriceIdr) * o.nights fromDay toDay := by
  induction passed with
  | nil => exact ⟨real, rfl⟩
  | cons head rest inductionHypothesis =>
    obtain ⟨restReal, same⟩ :=
      inductionHypothesis fun other member => real other (List.mem_cons_of_mem _ member)
    obtain ⟨headReal, price, nights⟩ := head.same (real _ List.mem_cons_self) fromReal toReal
    refine ⟨List.forall_mem_cons.mpr ⟨headReal, restReal⟩, ?_⟩
    rw [List.map_cons, List.map_cons, same, price, nights]

/-- The quoted total of a stay is the sum of the prices of its nights, in whatever order the
overrides are passed and whether whole or clipped; and a quote of at most 366 nights is an amount in
rupiah. The stay has two days in order, and no two overrides share a night, as the exclusion
constraint keeps them; each may be handed over as it is stored or cut to the stay, and one beyond it
left out. -/
theorem price_is_sum_of_nights (fromReal : isoDay fromDate = some fromDay)
    (toReal : isoDay toDate = some toDay) (stay : fromDate < toDate) (basePriceIdr : BigInt)
    {overrides given listed : List PriceOverrideSpan} (real : ∀ o ∈ overrides, o.Real)
    (apart : overrides.Pairwise PriceOverrideSpan.Apart)
    (passed : List.Forall₂ (PriceOverrideSpan.GivenAs fromDay toDay) overrides given)
    (reordered : listed.Perm given) :
    quoteTotalIdr basePriceIdr fromDate toDate listed =
        ∑ night ∈ Finset.Ico fromDay toDay, nightPrice basePriceIdr overrides night ∧
      (countNights fromDate toDate ≤ MAX_AVAILABILITY_NIGHTS → 0 ≤ basePriceIdr →
        basePriceIdr ≤ 1000000000 →
        (∀ o ∈ overrides, 1 ≤ o.nightlyPriceIdr ∧ o.nightlyPriceIdr ≤ 1000000000) →
        0 ≤ quoteTotalIdr basePriceIdr fromDate toDate listed ∧
          quoteTotalIdr basePriceIdr fromDate toDate listed ≤ 366000000000 ∧
          toRupiah (quoteTotalIdr basePriceIdr fromDate toDate listed) =
            .ok (quoteTotalIdr basePriceIdr fromDate toDate listed)) := by
  have ordered : fromDay < toDay := (isoDay_lt_iff fromReal toReal).mp stay
  obtain ⟨givenReal, same⟩ := corrections_given fromReal toReal basePriceIdr real passed
  have listedReal : ∀ o ∈ listed, o.Real :=
    fun o member => givenReal o (reordered.mem_iff.mp member)
  have total : quoteTotalIdr basePriceIdr fromDate toDate listed =
      ∑ night ∈ Finset.Ico fromDay toDay, nightPrice basePriceIdr overrides night := by
    rw [quoteTotalIdr_eq fromReal toReal basePriceIdr listedReal,
      sum_nightPrice ordered.le basePriceIdr apart, (reordered.map _).sum_eq, same]
  refine ⟨total, fun bounded base baseHigh prices => ?_⟩
  have night := nightPrice_bounds base baseHigh prices
  have nights : (toDay - fromDay).toNat ≤ 366 := by
    rw [countNights, dateParse_of_isoDay toReal, dateParse_of_isoDay fromReal] at bounded
    exact Int.toNat_le.mpr bounded
  have low : 0 ≤ quoteTotalIdr basePriceIdr fromDate toDate listed := by
    rw [total]
    exact Finset.sum_nonneg fun day _ => (night day).1
  have high : quoteTotalIdr basePriceIdr fromDate toDate listed ≤ 366000000000 := by
    rw [total]
    have perNight := Finset.sum_le_card_nsmul _ _ _
      fun day (_ : day ∈ Finset.Ico fromDay toDay) => (night day).2
    rw [Int.card_Ico, nsmul_eq_mul] at perNight
    have few : ((toDay - fromDay).toNat : Int) ≤ 366 := by exact_mod_cast nights
    linarith
  exact ⟨low, high, toRupiah_eq ⟨low, high.trans (by decide)⟩⟩

end Stay

/-! ### A stay across two seasons -/

/-- The season that ends on the second day of the stay. -/
def villaJuly : PriceOverrideSpan := ⟨"2026-07-30".toList, "2026-08-02".toList, 700000⟩

/-- The season that begins on the third. -/
def villaAugust : PriceOverrideSpan := ⟨"2026-08-03".toList, "2026-08-10".toList, 900000⟩

/-- Four nights: one at the July rate, one at the base rate, two at the August rate. -/
theorem villa_seasons_priced :
    quoteTotalIdr 500000 "2026-08-01".toList "2026-08-05".toList
        [villaAugust, villaJuly.clip 20666 20670] =
      ∑ night ∈ Finset.Ico 20666 20670, nightPrice 500000 [villaJuly, villaAugust] night ∧
    toRupiah 3000000 = .ok 3000000 := by
  have julyEnds : dateParse villaJuly.toDate = 20667 := by decide +kernel
  have augustBegins : dateParse villaAugust.fromDate = 20668 := by decide +kernel
  have apart : [villaJuly, villaAugust].Pairwise PriceOverrideSpan.Apart := by
    refine List.pairwise_pair.mpr fun night both => ?_
    have july := both.1.2
    have august := both.2.1
    rw [julyEnds] at july
    rw [augustBegins] at august
    exact absurd (august.trans_lt july) (by decide)
  have real : ∀ o ∈ [villaJuly, villaAugust], o.Real := by
    intro o member
    rcases List.mem_pair.mp member with rfl | rfl
    · exact ⟨by decide +kernel, by decide +kernel⟩
    · exact ⟨by decide +kernel, by decide +kernel⟩
  have fromReal : isoDay "2026-08-01".toList = some 20666 := by decide +kernel
  have toReal : isoDay "2026-08-05".toList = some 20670 := by decide +kernel
  obtain ⟨total, bounded⟩ := price_is_sum_of_nights fromReal toReal (by decide +kernel) 500000 real
    apart (.cons (Or.inr rfl) (.cons (Or.inl rfl) .nil)) (.swap _ _ _)
  have amount : quoteTotalIdr 500000 "2026-08-01".toList "2026-08-05".toList
      [villaAugust, villaJuly.clip 20666 20670] = 3000000 := by decide +kernel
  have shown := (bounded (by decide +kernel) (by decide) (by decide) (by decide)).2.2
  rw [amount] at shown
  exact ⟨total, shown⟩

end Sambung
