/-
This file proves that `coalesceRanges` is a normal form of the nights it is given.

The ranges travel as ISO texts and are compared as strings. On days of the
calendar the texts sort as the days do, so the pass over the texts is the merge of
half-open intervals of days, whose result the covered nights decide.

One turn of the pass is one turn of that merge (`mergeRange_spans`), and so is the
whole of it. Everything the result promises is then a fact about intervals: the
nights are kept, the ranges are in order with a free night between any two, and
two lists of ranges with the same nights give the same texts, since a text is
decided by its day. That the ranges are dates in order is what the query returns,
and it is the one assumption.
-/

import Sambung.Foundation.Intervals
import Sambung.Pricing

namespace Sambung

/-- Two days of the calendar, the first before the second. -/
def BlockedRange.Dated (range : BlockedRange) : Prop :=
  ∃ first last, isoDay range.fromDate = some first ∧ isoDay range.toDate = some last ∧
    first < last

/-- The nights of half-open ranges. -/
def nightsOf (ranges : List BlockedRange) : Set Int :=
  {night | ∃ range ∈ ranges, ∃ first last, isoDay range.fromDate = some first ∧
    isoDay range.toDate = some last ∧ first ≤ night ∧ night < last}

/-- The days of a range. -/
def BlockedRange.span (range : BlockedRange) : Int × Int :=
  (dateParse range.fromDate, dateParse range.toDate)

/-! ### Ranges as intervals of days -/

variable {first second : Text} {firstDay secondDay : Int}

/-- Texts of days sort as the days do. -/
theorem isoDay_le_iff (firstReal : isoDay first = some firstDay)
    (secondReal : isoDay second = some secondDay) : first ≤ second ↔ firstDay ≤ secondDay := by
  rw [← not_lt, isoDay_lt_iff secondReal firstReal, not_lt]

theorem isoDay_injective (firstReal : isoDay first = some firstDay)
    (secondReal : isoDay second = some firstDay) : first = second := by
  rw [← (dateText_of_isoDay firstReal).2.2, (dateText_of_isoDay secondReal).2.2]

variable {range other : BlockedRange} {ranges merged : List BlockedRange}

theorem BlockedRange.Dated.filled (dated : range.Dated) : range.span.1 < range.span.2 := by
  obtain ⟨first, last, firstReal, lastReal, less⟩ := dated
  show dateParse range.fromDate < dateParse range.toDate
  rwa [dateParse_of_isoDay firstReal, dateParse_of_isoDay lastReal]

/-- Ranges of the same days are the same texts. -/
theorem BlockedRange.Dated.eq_of_span (dated : range.Dated) (otherDated : other.Dated)
    (same : range.span = other.span) : range = other := by
  obtain ⟨first, last, firstReal, lastReal, -⟩ := dated
  obtain ⟨first', last', firstReal', lastReal', -⟩ := otherDated
  obtain ⟨starts, ends⟩ := Prod.mk.inj same
  rw [dateParse_of_isoDay firstReal, dateParse_of_isoDay firstReal'] at starts
  rw [dateParse_of_isoDay lastReal, dateParse_of_isoDay lastReal'] at ends
  subst starts ends
  cases range
  cases other
  exact congrArg₂ BlockedRange.mk (isoDay_injective firstReal firstReal')
    (isoDay_injective lastReal lastReal')

theorem eq_of_spans {others : List BlockedRange} (dated : ∀ range ∈ ranges, range.Dated)
    (othersDated : ∀ range ∈ others, range.Dated)
    (same : ranges.map BlockedRange.span = others.map BlockedRange.span) : ranges = others := by
  induction ranges generalizing others with
  | nil => exact (List.map_eq_nil_iff.mp same.symm).symm
  | cons range ranges inductionHypothesis =>
    cases others with
    | nil => cases same
    | cons other others =>
      obtain ⟨head, tail⟩ := List.cons.inj same
      rw [(dated range List.mem_cons_self).eq_of_span (othersDated other List.mem_cons_self) head,
        inductionHypothesis (fun later member => dated later (List.mem_cons_of_mem _ member))
          (fun later member => othersDated later (List.mem_cons_of_mem _ member)) tail]

theorem nightsOf_eq (dated : ∀ range ∈ ranges, range.Dated) :
    nightsOf ranges = Intervals.covered (ranges.map BlockedRange.span) := by
  ext night
  constructor
  · rintro ⟨range, member, first, last, firstReal, lastReal, starts, ends⟩
    refine ⟨range.span, List.mem_map_of_mem member, ?_, ?_⟩
    · show dateParse range.fromDate ≤ night
      rwa [dateParse_of_isoDay firstReal]
    · show night < dateParse range.toDate
      rwa [dateParse_of_isoDay lastReal]
  · rintro ⟨_, member, starts, ends⟩
    obtain ⟨range, rangeMember, rfl⟩ := List.mem_map.mp member
    obtain ⟨first, last, firstReal, lastReal, -⟩ := dated range rangeMember
    refine ⟨range, rangeMember, first, last, firstReal, lastReal, ?_, ?_⟩
    · rwa [← dateParse_of_isoDay firstReal]
    · rwa [← dateParse_of_isoDay lastReal]

/-! ### The pass -/

/-- One turn of the pass is one turn of the merge. -/
theorem mergeRange_spans (mergedDated : ∀ range ∈ merged, range.Dated) (dated : range.Dated) :
    (∀ other ∈ mergeRange merged range, other.Dated) ∧
      (mergeRange merged range).map BlockedRange.span =
        Intervals.absorb (merged.map BlockedRange.span) range.span := by
  rcases List.eq_nil_or_concat' merged with rfl | ⟨front, last, rfl⟩
  · exact ⟨fun other member => List.mem_singleton.mp member ▸ dated, rfl⟩
  · obtain ⟨lastFirst, lastLast, lastFirstReal, lastLastReal, lastLess⟩ :=
      mergedDated last (List.mem_append_right _ List.mem_cons_self)
    obtain ⟨rangeFirst, rangeLast, rangeFirstReal, rangeLastReal, rangeLess⟩ := id dated
    have meets : range.fromDate ≤ last.toDate ↔ range.span.1 ≤ last.span.2 := by
      show _ ↔ dateParse range.fromDate ≤ dateParse last.toDate
      rw [dateParse_of_isoDay rangeFirstReal, dateParse_of_isoDay lastLastReal]
      exact isoDay_le_iff rangeFirstReal lastLastReal
    have longer : range.toDate > last.toDate ↔ range.span.2 > last.span.2 := by
      show _ ↔ dateParse range.toDate > dateParse last.toDate
      rw [dateParse_of_isoDay rangeLastReal, dateParse_of_isoDay lastLastReal]
      exact isoDay_lt_iff lastLastReal rangeLastReal
    have frontDated : ∀ other ∈ front, other.Dated :=
      fun other member => mergedDated other (List.mem_append_left _ member)
    rw [List.map_append, List.map_singleton, mergeRange, Intervals.absorb, List.getLast?_concat,
      List.getLast?_concat, List.dropLast_concat, List.dropLast_concat]
    dsimp only
    by_cases touches : range.fromDate ≤ last.toDate
    · rw [if_pos touches, if_pos (meets.mp touches)]
      by_cases extends_ : range.toDate > last.toDate
      · rw [if_pos extends_, if_pos (longer.mp extends_)]
        refine ⟨fun other member => ?_, by rw [List.map_append]; rfl⟩
        rcases List.mem_append.mp member with inFront | isLast
        · exact frontDated other inFront
        · rw [List.mem_singleton.mp isLast]
          exact ⟨lastFirst, rangeLast, lastFirstReal, rangeLastReal,
            lastLess.trans ((isoDay_lt_iff lastLastReal rangeLastReal).mp extends_)⟩
      · rw [if_neg extends_, if_neg fun less => extends_ (longer.mpr less)]
        exact ⟨mergedDated, by rw [List.map_append, List.map_singleton]⟩
    · rw [if_neg touches, if_neg fun less => touches (meets.mpr less)]
      refine ⟨fun other member => ?_, by simp only [List.map_append, List.map_singleton]⟩
      rcases List.mem_append.mp member with earlier | isRange
      · exact mergedDated other earlier
      · exact List.mem_singleton.mp isRange ▸ dated

theorem foldl_mergeRange_spans (mergedDated : ∀ range ∈ merged, range.Dated)
    (dated : ∀ range ∈ ranges, range.Dated) :
    (∀ range ∈ ranges.foldl mergeRange merged, range.Dated) ∧
      (ranges.foldl mergeRange merged).map BlockedRange.span =
        (ranges.map BlockedRange.span).foldl Intervals.absorb (merged.map BlockedRange.span) := by
  induction ranges generalizing merged with
  | nil => exact ⟨mergedDated, rfl⟩
  | cons range ranges inductionHypothesis =>
    obtain ⟨stepDated, step⟩ := mergeRange_spans mergedDated (dated range List.mem_cons_self)
    rw [List.foldl_cons, List.map_cons, List.foldl_cons, ← step]
    exact inductionHypothesis stepDated
      fun later member => dated later (List.mem_cons_of_mem _ member)

/-- The days of the coalesced ranges are the merged days of the ranges. -/
theorem coalesceRanges_spans (dated : ∀ range ∈ ranges, range.Dated) :
    (∀ range ∈ coalesceRanges ranges, range.Dated) ∧
      (coalesceRanges ranges).map BlockedRange.span =
        Intervals.merge (ranges.map BlockedRange.span) := by
  have sorts := List.map_insertionSort (fun first second : BlockedRange =>
      first.fromDate ≤ second.fromDate) (fun first second : Int × Int => first.1 ≤ second.1)
    BlockedRange.span ranges fun range member other otherMember => by
      obtain ⟨first, last, firstReal, -⟩ := dated range member
      obtain ⟨first', last', firstReal', -⟩ := dated other otherMember
      show _ ↔ dateParse range.fromDate ≤ dateParse other.fromDate
      rw [dateParse_of_isoDay firstReal, dateParse_of_isoDay firstReal']
      exact isoDay_le_iff firstReal firstReal'
  rw [coalesceRanges, Intervals.merge, ← sorts]
  exact foldl_mergeRange_spans (fun _ member => (List.not_mem_nil member).elim)
    fun range member => dated range ((List.mem_insertionSort _).mp member)

/-! ### The normal form -/

/-- Ranges in order, with a free night between any two. -/
def Spaced (ranges : List BlockedRange) : Prop :=
  ranges.Pairwise fun range next => ∃ last first, isoDay range.toDate = some last ∧
    isoDay next.fromDate = some first ∧ ∃ night, last ≤ night ∧ night < first ∧
      night ∉ nightsOf ranges

theorem coalesceRanges_eq_of_nights {others : List BlockedRange}
    (dated : ∀ range ∈ ranges, range.Dated) (othersDated : ∀ range ∈ others, range.Dated)
    (same : nightsOf others = nightsOf ranges) : coalesceRanges others = coalesceRanges ranges := by
  obtain ⟨mergedDated, spans⟩ := coalesceRanges_spans dated
  obtain ⟨othersMergedDated, otherSpans⟩ := coalesceRanges_spans othersDated
  refine eq_of_spans othersMergedDated mergedDated ?_
  rw [spans, otherSpans]
  refine Intervals.merge_eq_of_covered ?_ ?_ ?_
  · exact List.forall_mem_map.mpr fun range member => (othersDated range member).filled
  · exact List.forall_mem_map.mpr fun range member => (dated range member).filled
  · rw [← nightsOf_eq dated, ← nightsOf_eq othersDated, same]

/-- Coalescing keeps the nights, leaves ranges of days in order with a free night between any two,
and depends on the nights alone: not on the order of the ranges, nor on how they cut the nights.
Coalescing again changes nothing. The ranges are any list of spans between two days of the calendar,
the first before the second; they may repeat, overlap, touch and stand in any order. -/
theorem coalesceRanges_normal_form (dated : ∀ range ∈ ranges, range.Dated) :
    nightsOf (coalesceRanges ranges) = nightsOf ranges ∧
      (∀ range ∈ coalesceRanges ranges, range.Dated) ∧
      ((coalesceRanges ranges).Pairwise fun range next => range.fromDate < next.fromDate) ∧
      Spaced (coalesceRanges ranges) ∧
      (∀ others, others.Perm ranges → coalesceRanges others = coalesceRanges ranges) ∧
      (∀ others, (∀ range ∈ others, range.Dated) → nightsOf others = nightsOf ranges →
        coalesceRanges others = coalesceRanges ranges) ∧
      coalesceRanges (coalesceRanges ranges) = coalesceRanges ranges := by
  obtain ⟨mergedDated, spans⟩ := coalesceRanges_spans dated
  obtain ⟨separated, covers⟩ := Intervals.merge_spec
    (List.forall_mem_map.mpr fun range member => (dated range member).filled)
  rw [← spans] at separated covers
  have kept : nightsOf (coalesceRanges ranges) = nightsOf ranges := by
    rw [nightsOf_eq mergedDated, nightsOf_eq dated, covers]
  have apart := List.pairwise_map.mp separated.apart
  refine ⟨kept, mergedDated, ?_, ?_, fun others perm => ?_,
    fun others othersDated same => coalesceRanges_eq_of_nights dated othersDated same,
    coalesceRanges_eq_of_nights dated mergedDated kept⟩
  · refine apart.imp_of_mem fun {range next} member nextMember before => ?_
    obtain ⟨first, last, firstReal, lastReal, less⟩ := mergedDated range member
    obtain ⟨first', last', firstReal', -⟩ := mergedDated next nextMember
    have later : dateParse range.toDate < dateParse next.fromDate := before
    rw [dateParse_of_isoDay lastReal, dateParse_of_isoDay firstReal'] at later
    exact (isoDay_lt_iff firstReal firstReal').mpr (less.trans later)
  · refine apart.imp_of_mem fun {range next} member nextMember before => ?_
    obtain ⟨first, last, -, lastReal, -⟩ := mergedDated range member
    obtain ⟨first', last', firstReal', -⟩ := mergedDated next nextMember
    have later : dateParse range.toDate < dateParse next.fromDate := before
    have free := separated.last_not_mem (List.mem_map_of_mem member)
    rw [← nightsOf_eq mergedDated] at free
    rw [dateParse_of_isoDay lastReal, dateParse_of_isoDay firstReal'] at later
    refine ⟨last, first', lastReal, firstReal', last, le_rfl, later, ?_⟩
    rwa [← dateParse_of_isoDay lastReal]
  · refine coalesceRanges_eq_of_nights dated
      (fun range member => dated range (perm.mem_iff.mp member)) ?_
    ext night
    simp only [nightsOf, perm.mem_iff]

/-- Three stays that touch, overlap and lie inside one another are one span of nights. -/
theorem villa_stays_coalesced :
    nightsOf (coalesceRanges [⟨"2026-08-13".toList, "2026-08-16".toList⟩,
      ⟨"2026-08-10".toList, "2026-08-13".toList⟩, ⟨"2026-08-11".toList, "2026-08-12".toList⟩]) =
      nightsOf [⟨"2026-08-13".toList, "2026-08-16".toList⟩,
        ⟨"2026-08-10".toList, "2026-08-13".toList⟩,
        ⟨"2026-08-11".toList, "2026-08-12".toList⟩] ∧
      coalesceRanges [⟨"2026-08-13".toList, "2026-08-16".toList⟩,
        ⟨"2026-08-10".toList, "2026-08-13".toList⟩,
        ⟨"2026-08-11".toList, "2026-08-12".toList⟩] =
          [⟨"2026-08-10".toList, "2026-08-16".toList⟩] := by
  refine ⟨(coalesceRanges_normal_form ?_).1, by decide +kernel⟩
  simp only [List.forall_mem_cons, List.not_mem_nil, false_implies, implies_true, and_true]
  exact ⟨⟨20678, 20681, by decide, by decide, by decide⟩,
    ⟨20675, 20678, by decide, by decide, by decide⟩,
    ⟨20676, 20677, by decide, by decide, by decide⟩⟩

end Sambung
