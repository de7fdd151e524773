/-
This file is the theory of half-open spans of days that do not meet.

Spans inside a window that pairwise do not meet have no day in common, so their
lengths add up to no more than the length of the window. A value that is constant
on each span and elsewhere adds up, over the days of a window, by their lengths.

The last fact turns a sum over days into a sum over spans: the base value for
every day of the window, and for each span its surplus times the days it has
there. It is an induction over the spans, in which a day of the new span lies in
no other. The spans may reach beyond the window, begin and end in any order and be
empty.
-/

import Mathlib.Data.Int.Interval
import Mathlib.Tactic

namespace Spans

/-- The days of a list of spans. -/
noncomputable def covered (spans : List (Int × Int)) : Finset Int :=
  spans.foldr (fun span rest => Finset.Ico span.1 span.2 ∪ rest) ∅

/-- The two spans share no day. -/
def Apart (first second : Int × Int) : Prop := ¬ max first.1 second.1 < min first.2 second.2

theorem covered_cons (span : Int × Int) (spans : List (Int × Int)) :
    covered (span :: spans) = Finset.Ico span.1 span.2 ∪ covered spans := rfl

theorem mem_covered {day : Int} {spans : List (Int × Int)} :
    day ∈ covered spans ↔ ∃ span ∈ spans, span.1 ≤ day ∧ day < span.2 := by
  induction spans with
  | nil => simp [covered]
  | cons span spans inductionHypothesis =>
    rw [covered_cons, Finset.mem_union, Finset.mem_Ico, inductionHypothesis]
    simp

/-- Spans that do not meet have as many days as their lengths add up to. -/
theorem card_covered {spans : List (Int × Int)} (ordered : ∀ span ∈ spans, span.1 ≤ span.2)
    (apart : spans.Pairwise Apart) :
    ((covered spans).card : Int) = (spans.map fun span => span.2 - span.1).sum := by
  induction spans with
  | nil => rfl
  | cons span spans inductionHypothesis =>
    obtain ⟨fromSpan, rest⟩ := List.pairwise_cons.mp apart
    have disjoint : Disjoint (Finset.Ico span.1 span.2) (covered spans) := by
      refine Finset.disjoint_left.mpr fun day inSpan inRest => ?_
      obtain ⟨other, member, first, last⟩ := mem_covered.mp inRest
      obtain ⟨spanFirst, spanLast⟩ := Finset.mem_Ico.mp inSpan
      exact fromSpan other member
        ((max_le spanFirst first).trans_lt (lt_min spanLast last))
    have length := ordered span List.mem_cons_self
    rw [covered_cons, Finset.card_union_of_disjoint disjoint, Int.card_Ico, List.map_cons,
      List.sum_cons, Nat.cast_add, Int.toNat_of_nonneg (sub_nonneg.mpr length),
      inductionHypothesis (fun other member => ordered other (List.mem_cons_of_mem _ member)) rest]

/-- Spans of a window that do not meet are no longer together than the window. -/
theorem sum_lengths_le (spans : List (Int × Int)) {first last : Int} (window : first ≤ last)
    (ordered : ∀ span ∈ spans, span.1 ≤ span.2)
    (inside : ∀ span ∈ spans, first ≤ span.1 ∧ span.2 ≤ last) (apart : spans.Pairwise Apart) :
    (spans.map fun span => span.2 - span.1).sum ≤ last - first := by
  have within : covered spans ⊆ Finset.Ico first last := by
    intro day member
    obtain ⟨span, spanMember, low, high⟩ := mem_covered.mp member
    obtain ⟨afterFirst, beforeLast⟩ := inside span spanMember
    exact Finset.mem_Ico.mpr ⟨afterFirst.trans low, high.trans_le beforeLast⟩
  have counted := Finset.card_le_card within
  rw [Int.card_Ico] at counted
  rw [← card_covered ordered apart, ← Int.toNat_of_nonneg (sub_nonneg.mpr window)]
  exact_mod_cast counted

/-! ### A value on each span -/

/-- The value of the span that covers a day, or a base value. -/
def layered (base : Int) (spans : List ((Int × Int) × Int)) (day : Int) : Int :=
  ((spans.find? fun span => span.1.1 ≤ day ∧ day < span.1.2).map Prod.snd).getD base

theorem layered_cons_of_covers (base : Int) {span : (Int × Int) × Int} {day : Int}
    (covers : span.1.1 ≤ day ∧ day < span.1.2) (spans : List ((Int × Int) × Int)) :
    layered base (span :: spans) day = span.2 := by
  simp [layered, covers]

theorem layered_cons_of_not (base : Int) {span : (Int × Int) × Int} {day : Int}
    (outside : ¬ (span.1.1 ≤ day ∧ day < span.1.2)) (spans : List ((Int × Int) × Int)) :
    layered base (span :: spans) day = layered base spans day := by
  rw [layered, List.find?_cons_of_neg (by simpa using outside)]
  rfl

theorem layered_eq_base (base : Int) {spans : List ((Int × Int) × Int)} {day : Int}
    (outside : ∀ span ∈ spans, ¬ (span.1.1 ≤ day ∧ day < span.1.2)) :
    layered base spans day = base := by
  rw [layered, List.find?_eq_none.mpr fun span member => by simpa using outside span member]
  rfl

/-- The days of a window inside a span are as many as the two overlap, so a value on them adds up to
its product with that length. -/
theorem sum_inside (first last value : Int) (span : Int × Int) :
    ∑ day ∈ Finset.Ico first last, (if span.1 ≤ day ∧ day < span.2 then value else 0) =
      value * max 0 (min span.2 last - max span.1 first) := by
  have inside : (Finset.Ico first last).filter (fun day => span.1 ≤ day ∧ day < span.2) =
      Finset.Ico (max span.1 first) (min span.2 last) := by
    ext day
    simp only [Finset.mem_filter, Finset.mem_Ico, max_le_iff, lt_min_iff]
    tauto
  rw [← Finset.sum_filter, inside, Finset.sum_const, Int.card_Ico, nsmul_eq_mul, Int.toNat_eq_max]
  rw [max_comm, mul_comm]

/-- Values on spans that do not meet add up over a window by the days the spans have there: a day of
one span lies in no other, so each span adds its surplus there. -/
theorem sum_layered (base : Int) {spans : List ((Int × Int) × Int)} {first last : Int}
    (window : first ≤ last) (apart : (spans.map Prod.fst).Pairwise Apart) :
    ∑ day ∈ Finset.Ico first last, layered base spans day =
      base * (last - first) + (spans.map fun span =>
        (span.2 - base) * max 0 (min span.1.2 last - max span.1.1 first)).sum := by
  induction spans with
  | nil =>
    show ∑ day ∈ Finset.Ico first last, base = _
    rw [Finset.sum_const, Int.card_Ico, nsmul_eq_mul, Int.toNat_of_nonneg (sub_nonneg.mpr window),
      List.map_nil, List.sum_nil, add_zero, mul_comm]
  | cons span spans inductionHypothesis =>
    obtain ⟨fromSpan, rest⟩ := List.pairwise_cons.mp apart
    have split : ∀ day, layered base (span :: spans) day = layered base spans day +
        if span.1.1 ≤ day ∧ day < span.1.2 then span.2 - base else 0 := by
      intro day
      by_cases covers : span.1.1 ≤ day ∧ day < span.1.2
      · have outside : ∀ other ∈ spans, ¬ (other.1.1 ≤ day ∧ day < other.1.2) :=
          fun other member inOther => fromSpan other.1 (List.mem_map_of_mem member)
            ((max_le covers.1 inOther.1).trans_lt (lt_min covers.2 inOther.2))
        rw [layered_cons_of_covers base covers, layered_eq_base base outside, if_pos covers]
        ring
      · rw [layered_cons_of_not base covers, if_neg covers, add_zero]
    rw [Finset.sum_congr rfl fun day _ => split day, Finset.sum_add_distrib,
      inductionHypothesis rest, sum_inside, List.map_cons, List.sum_cons]
    ring

end Spans
