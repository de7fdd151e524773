/-
This file is the theory of finite unions of half-open intervals over a linear
order.

A list of nonempty intervals in order, each ending before the next one starts, is
determined by the points it covers. Merging sorted intervals in one pass, each
into the last one so far where the two meet or touch, gives such a list without
changing the points.

So the merged list is a normal form of a set of points. Two lists that cover the
same points merge into one list, however they cut and repeat them, and merging
what is merged changes nothing; neither needs an argument about the pass itself.
Uniqueness is an induction over both lists at once: the first interval of each
begins at the least point, and ends at the least later one that is not covered.
-/

import Mathlib

namespace Intervals

variable {Point : Type} [LinearOrder Point]

/-- The points of the intervals. -/
def covered (spans : List (Point × Point)) : Set Point :=
  {point | ∃ span ∈ spans, span.1 ≤ point ∧ point < span.2}

/-- Nonempty intervals in order, each ending before the next one starts. -/
structure Separated (spans : List (Point × Point)) : Prop where
  filled : ∀ span ∈ spans, span.1 < span.2
  apart : spans.Pairwise fun first second => first.2 < second.1

/-! ### Points -/

theorem covered_nil : covered ([] : List (Point × Point)) = ∅ := by
  ext point
  simp [covered]

theorem covered_cons (span : Point × Point) (spans : List (Point × Point)) :
    covered (span :: spans) = Set.Ico span.1 span.2 ∪ covered spans := by
  ext point
  simp [covered]

theorem covered_append (first second : List (Point × Point)) :
    covered (first ++ second) = covered first ∪ covered second := by
  ext point
  simp [covered, or_and_right, exists_or]

theorem covered_perm {first second : List (Point × Point)} (perm : first.Perm second) :
    covered first = covered second := by
  ext point
  simp [covered, perm.mem_iff]

/-! ### Uniqueness -/

theorem Separated.tail {span : Point × Point} {spans : List (Point × Point)}
    (separated : Separated (span :: spans)) : Separated spans :=
  ⟨fun other member => separated.filled other (List.mem_cons_of_mem _ member),
    (List.pairwise_cons.mp separated.apart).2⟩

/-- The points behind the first interval are the points of the others. -/
theorem Separated.covered_tail {span : Point × Point} {spans : List (Point × Point)}
    (separated : Separated (span :: spans)) :
    covered spans = covered (span :: spans) ∩ Set.Ioi span.2 := by
  have behind := (List.pairwise_cons.mp separated.apart).1
  rw [covered_cons]
  ext point
  constructor
  · rintro ⟨other, member, starts, ends⟩
    exact ⟨Or.inr ⟨other, member, starts, ends⟩, (behind other member).trans_le starts⟩
  · rintro ⟨inside | inside, after⟩
    · exact absurd after (not_lt.mpr inside.2.le)
    · exact inside

theorem Separated.first_le {span : Point × Point} {spans : List (Point × Point)}
    (separated : Separated (span :: spans)) {point : Point}
    (inside : point ∈ covered (span :: spans)) : span.1 ≤ point := by
  obtain ⟨other, member, starts, -⟩ := inside
  rcases List.mem_cons.mp member with rfl | behind
  · exact starts
  · have after := (List.pairwise_cons.mp separated.apart).1 other behind
    exact ((separated.filled span List.mem_cons_self).trans after).le.trans starts

theorem Separated.first_mem {span : Point × Point} {spans : List (Point × Point)}
    (separated : Separated (span :: spans)) : span.1 ∈ covered (span :: spans) :=
  ⟨span, List.mem_cons_self, le_rfl, separated.filled span List.mem_cons_self⟩

/-- Two of the intervals are one, or apart. -/
theorem Separated.eq_or_apart {spans : List (Point × Point)} (separated : Separated spans)
    {first second : Point × Point} (firstMember : first ∈ spans) (secondMember : second ∈ spans) :
    first = second ∨ first.2 < second.1 ∨ second.2 < first.1 := by
  have symmetric : Std.Symm fun first second : Point × Point =>
      first = second ∨ first.2 < second.1 ∨ second.2 < first.1 := by
    refine ⟨?_⟩
    rintro first second (same | before | after)
    · exact Or.inl same.symm
    · exact Or.inr (Or.inr before)
    · exact Or.inr (Or.inl after)
  have apart : spans.Pairwise fun first second =>
      first = second ∨ first.2 < second.1 ∨ second.2 < first.1 :=
    separated.apart.imp fun before => Or.inr (Or.inl before)
  refine List.Pairwise.forall_of_forall ?_ apart firstMember secondMember
  exact fun _ _ => Or.inl rfl

/-- The end of an interval is no point. -/
theorem Separated.last_not_mem {spans : List (Point × Point)} (separated : Separated spans)
    {span : Point × Point} (member : span ∈ spans) : span.2 ∉ covered spans := by
  rintro ⟨other, otherMember, starts, ends⟩
  rcases separated.eq_or_apart member otherMember with rfl | before | after
  · exact lt_irrefl _ ends
  · exact absurd starts (not_le.mpr before)
  · exact lt_asymm (after.trans (separated.filled span member)) ends

/-- The points decide the intervals: of two that begin together, an end before the other one would
be covered by the second list and not by the first. -/
theorem Separated.unique {first second : List (Point × Point)} (left : Separated first)
    (right : Separated second) (same : covered first = covered second) : first = second := by
  induction first generalizing second with
  | nil =>
    cases second with
    | nil => rfl
    | cons span spans =>
      have inside := right.first_mem
      rw [← same, covered_nil] at inside
      exact inside.elim
  | cons span spans inductionHypothesis =>
    cases second with
    | nil =>
      have inside := left.first_mem
      rw [same, covered_nil] at inside
      exact inside.elim
    | cons other others =>
      have starts : span.1 = other.1 :=
        le_antisymm (left.first_le (same ▸ right.first_mem))
          (right.first_le (same ▸ left.first_mem))
      have ends : span.2 = other.2 := by
        have spanFilled := left.filled span List.mem_cons_self
        have otherFilled := right.filled other List.mem_cons_self
        rcases lt_trichotomy span.2 other.2 with earlier | equal | later
        · refine absurd ?_ (left.last_not_mem List.mem_cons_self)
          rw [same]
          exact ⟨other, List.mem_cons_self, starts ▸ spanFilled.le, earlier⟩
        · exact equal
        · refine absurd ?_ (right.last_not_mem List.mem_cons_self)
          rw [← same]
          exact ⟨span, List.mem_cons_self, starts ▸ otherFilled.le, later⟩
      have rest : spans = others := by
        refine inductionHypothesis left.tail right.tail ?_
        rw [left.covered_tail, right.covered_tail, same, ends]
      rw [rest, Prod.ext starts ends]

/-! ### Merging -/

/-- The next interval joins the last one it meets or touches, or opens its own. -/
def absorb (merged : List (Point × Point)) (next : Point × Point) : List (Point × Point) :=
  match merged.getLast? with
  | none => [next]
  | some last =>
    if next.1 ≤ last.2 then
      if next.2 > last.2 then merged.dropLast ++ [(last.1, next.2)] else merged
    else merged ++ [next]

/-- The intervals, sorted by their starts and merged in one pass. -/
def merge (spans : List (Point × Point)) : List (Point × Point) :=
  (spans.insertionSort fun first second => first.1 ≤ second.1).foldl absorb []

theorem absorb_nil (next : Point × Point) : absorb [] next = [next] := rfl

theorem absorb_concat (merged : List (Point × Point)) (last next : Point × Point) :
    absorb (merged ++ [last]) next =
      if next.1 ≤ last.2 then merged ++ [(last.1, max last.2 next.2)]
      else merged ++ [last] ++ [next] := by
  rw [absorb, List.getLast?_concat, List.dropLast_concat]
  dsimp only
  by_cases meets : next.1 ≤ last.2
  · rw [if_pos meets, if_pos meets]
    by_cases longer : next.2 > last.2
    · rw [if_pos longer, max_eq_right longer.le]
    · rw [if_neg longer, max_eq_left (not_lt.mp longer)]
  · rw [if_neg meets, if_neg meets]

/-- What the pass keeps: the intervals are separated and none starts after the next one. -/
structure Merged (merged : List (Point × Point)) (points : Set Point) (latest : Point) : Prop where
  separated : Separated merged
  covers : covered merged = points
  started : ∀ span ∈ merged, span.1 ≤ latest

theorem Merged.absorb {merged : List (Point × Point)} {points : Set Point} {latest : Point}
    (pass : Merged merged points latest) {next : Point × Point} (filled : next.1 < next.2)
    (later : latest ≤ next.1) :
    Merged (absorb merged next) (points ∪ Set.Ico next.1 next.2) next.1 := by
  have started : ∀ span ∈ merged, span.1 ≤ next.1 :=
    fun span member => (pass.started span member).trans later
  rcases List.eq_nil_or_concat' merged with rfl | ⟨front, last, rfl⟩
  · rw [absorb_nil, ← pass.covers, covered_nil, Set.empty_union]
    refine ⟨⟨fun span member => ?_, List.pairwise_singleton _ _⟩, ?_, fun span member => ?_⟩
    · exact List.mem_singleton.mp member ▸ filled
    · rw [covered_cons, covered_nil, Set.union_empty]
    · exact List.mem_singleton.mp member ▸ le_rfl
  · have lastMember : last ∈ front ++ [last] := List.mem_append_right _ List.mem_cons_self
    have lastFilled := pass.separated.filled last lastMember
    obtain ⟨frontApart, -, fromFront⟩ := List.pairwise_append.mp pass.separated.apart
    have frontFilled : ∀ span ∈ front, span.1 < span.2 :=
      fun span member => pass.separated.filled span (List.mem_append_left _ member)
    rw [absorb_concat, ← pass.covers]
    by_cases meets : next.1 ≤ last.2
    · rw [if_pos meets]
      refine ⟨⟨fun span member => ?_, ?_⟩, ?_, fun span member => ?_⟩
      · rcases List.mem_append.mp member with inFront | isLast
        · exact frontFilled span inFront
        · rw [List.mem_singleton.mp isLast]
          exact lastFilled.trans_le (le_max_left _ _)
      · refine List.pairwise_append.mpr ⟨frontApart, List.pairwise_singleton _ _, ?_⟩
        intro span inFront other isLast
        rw [List.mem_singleton.mp isLast]
        exact fromFront span inFront last List.mem_cons_self
      · have extended : Set.Ico last.1 (max last.2 next.2) =
            Set.Ico last.1 last.2 ∪ Set.Ico next.1 next.2 := by
          rw [Set.Ico_union_Ico' meets ((started last lastMember).trans filled.le),
            min_eq_left (started last lastMember)]
        rw [covered_append, covered_append, covered_cons, covered_cons, covered_nil,
          Set.union_empty, Set.union_empty, extended, Set.union_assoc]
      · rcases List.mem_append.mp member with inFront | isLast
        · exact started span (List.mem_append_left _ inFront)
        · rw [List.mem_singleton.mp isLast]
          exact started last lastMember
    · rw [if_neg meets]
      have after := not_le.mp meets
      refine ⟨⟨fun span member => ?_, ?_⟩, ?_, fun span member => ?_⟩
      · rcases List.mem_append.mp member with earlier | isNext
        · exact pass.separated.filled span earlier
        · exact List.mem_singleton.mp isNext ▸ filled
      · refine List.pairwise_append.mpr
          ⟨pass.separated.apart, List.pairwise_singleton _ _, fun span earlier other isNext => ?_⟩
        rw [List.mem_singleton.mp isNext]
        rcases List.mem_append.mp earlier with inFront | isLast
        · exact ((fromFront span inFront last List.mem_cons_self).trans lastFilled).trans after
        · rw [List.mem_singleton.mp isLast]
          exact after
      · rw [covered_append, covered_cons next, covered_nil, Set.union_empty]
      · rcases List.mem_append.mp member with earlier | isNext
        · exact started span earlier
        · exact List.mem_singleton.mp isNext ▸ le_rfl

theorem merged_foldl {spans : List (Point × Point)} (filled : ∀ span ∈ spans, span.1 < span.2)
    (sorted : spans.Pairwise fun first second => first.1 ≤ second.1)
    {merged : List (Point × Point)} {points : Set Point} {latest : Point}
    (pass : Merged merged points latest) (later : ∀ span ∈ spans, latest ≤ span.1) :
    ∃ latest, Merged (spans.foldl Intervals.absorb merged) (points ∪ covered spans) latest := by
  induction spans generalizing merged points latest with
  | nil =>
    rw [covered_nil, Set.union_empty]
    exact ⟨latest, pass⟩
  | cons next spans inductionHypothesis =>
    obtain ⟨behind, rest⟩ := List.pairwise_cons.mp sorted
    have step := pass.absorb (filled next List.mem_cons_self) (later next List.mem_cons_self)
    rw [covered_cons, ← Set.union_assoc]
    exact inductionHypothesis (fun span member => filled span (List.mem_cons_of_mem _ member)) rest
      step behind

/-- Merging gives separated intervals of the same points, whatever the order of the intervals was.
-/
theorem merge_spec {spans : List (Point × Point)} (filled : ∀ span ∈ spans, span.1 < span.2) :
    Separated (merge spans) ∧ covered (merge spans) = covered spans := by
  have perm :=
    List.perm_insertionSort (fun first second : Point × Point => first.1 ≤ second.1) spans
  have sorted := List.pairwise_insertionSort
    (fun first second : Point × Point => first.1 ≤ second.1) spans
  unfold merge
  generalize spans.insertionSort (fun first second => first.1 ≤ second.1) = ordered at *
  rw [← covered_perm perm]
  have orderedFilled : ∀ span ∈ ordered, span.1 < span.2 :=
    fun span member => filled span (perm.mem_iff.mp member)
  cases ordered with
  | nil => exact ⟨⟨fun _ member => (List.not_mem_nil member).elim, List.Pairwise.nil⟩, rfl⟩
  | cons first rest =>
    have start : Merged ([] : List (Point × Point)) ∅ first.1 :=
      ⟨⟨fun _ member => (List.not_mem_nil member).elim, List.Pairwise.nil⟩, covered_nil,
        fun _ member => (List.not_mem_nil member).elim⟩
    have later : ∀ span ∈ first :: rest, first.1 ≤ span.1 :=
      List.forall_mem_cons.mpr ⟨le_rfl, (List.pairwise_cons.mp sorted).1⟩
    obtain ⟨_, pass⟩ := merged_foldl orderedFilled sorted start later
    rw [Set.empty_union] at pass
    exact ⟨pass.separated, pass.covers⟩

/-- Lists of the same points merge into the same list. -/
theorem merge_eq_of_covered {first second : List (Point × Point)}
    (left : ∀ span ∈ first, span.1 < span.2) (right : ∀ span ∈ second, span.1 < span.2)
    (same : covered first = covered second) : merge first = merge second :=
  (merge_spec left).1.unique (merge_spec right).1
    ((merge_spec left).2.trans (same.trans (merge_spec right).2.symm))

end Intervals
