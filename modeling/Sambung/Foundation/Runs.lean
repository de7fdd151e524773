/-
This file is the theory of runs of a deterministic step and of what happened in
them.

A run is a list of events, oldest first. What happened in a run is a predicate of
an event and of the state it met; it is read off the run alone, so it serves as a
history without being part of the state. An invariant may speak of the run as well
as of the state it ends in.

The last event is what an invariant has to deal with, so the induction appends one
event at a time, and `happened_concat` tells a condition on the longer run from
one on the shorter. A statement of the form `unless such an event happened` thus
goes through a run with a step lemma that speaks of a single event.
-/

import Mathlib.Data.List.Induction

namespace Runs

variable {State Event : Type}

/-- The state a run ends in. -/
def final (step : Event → State → State) (run : List Event) (start : State) : State :=
  run.foldl (fun state event => step event state) start

section Final

variable {step : Event → State → State} {start : State}

@[simp] theorem final_nil : final step [] start = start := rfl

@[simp] theorem final_cons (event : Event) (run : List Event) :
    final step (event :: run) start = final step run (step event start) := rfl

theorem final_append (before later : List Event) :
    final step (before ++ later) start = final step later (final step before start) :=
  List.foldl_append

theorem final_concat (run : List Event) (event : Event) :
    final step (run ++ [event]) start = step event (final step run start) :=
  final_append run [event]

/-- An invariant of runs: it holds of the empty run, and of a run with one more event. -/
theorem final_induction {invariant : List Event → State → Prop} (first : invariant [] start)
    (next : ∀ run event, invariant run (final step run start) →
      invariant (run ++ [event]) (step event (final step run start))) (run : List Event) :
    invariant run (final step run start) := by
  induction run using List.reverseRecOn with
  | nil => exact first
  | append_singleton run event inductionHypothesis =>
    rw [final_concat]
    exact next run event inductionHypothesis

end Final

/-! ### History -/

/-- Where a list with one more element is split at an element, that element is the last one, or
the list before is split at it. -/
theorem split_concat {Element : Type} {list before later : List Element} {last found : Element}
    (split : list ++ [last] = before ++ found :: later) :
    (before = list ∧ found = last ∧ later = []) ∨
      ∃ rest, list = before ++ found :: rest ∧ later = rest ++ [last] := by
  rcases List.eq_nil_or_concat later with rfl | ⟨rest, final, rfl⟩
  · obtain ⟨rfl, same⟩ := List.append_inj' split rfl
    cases same
    exact Or.inl ⟨rfl, rfl, rfl⟩
  · rw [List.concat_eq_append, ← List.cons_append, ← List.append_assoc] at split
    obtain ⟨rfl, same⟩ := List.append_inj' split rfl
    cases same
    exact Or.inr ⟨rest, rfl, List.concat_eq_append⟩

/-- An event of the run met a state it stands in this relation to. -/
def Happened (step : Event → State → State) (start : State) (run : List Event)
    (what : Event → State → Prop) : Prop :=
  ∃ before event later, run = before ++ event :: later ∧ what event (final step before start)

section Happened

variable {step : Event → State → State} {start : State} {what : Event → State → Prop}

theorem not_happened_nil : ¬ Happened step start [] what := by
  rintro ⟨before, event, later, split, -⟩
  exact absurd split.symm (by simp)

/-- What happened in a run is its first event, or happened in the rest of it. -/
theorem happened_cons {event : Event} {run : List Event} :
    Happened step start (event :: run) what ↔
      what event start ∨ Happened step (step event start) run what := by
  constructor
  · rintro ⟨before, found, later, split, holds⟩
    cases before with
    | nil =>
      cases split
      exact Or.inl holds
    | cons first before =>
      cases split
      exact Or.inr ⟨before, found, later, rfl, holds⟩
  · rintro (holds | ⟨before, found, later, rfl, holds⟩)
    · exact ⟨[], event, run, rfl, holds⟩
    · exact ⟨event :: before, found, later, rfl, holds⟩

/-- What happened in a run with one more event happened before, or is that event. -/
theorem happened_concat {run : List Event} {event : Event} :
    Happened step start (run ++ [event]) what ↔
      Happened step start run what ∨ what event (final step run start) := by
  constructor
  · rintro ⟨before, found, later, split, holds⟩
    rcases split_concat split with ⟨rfl, rfl, -⟩ | ⟨rest, rfl, -⟩
    · exact Or.inr holds
    · exact Or.inl ⟨before, found, rest, rfl, holds⟩
  · rintro (⟨before, found, later, rfl, holds⟩ | holds)
    · exact ⟨before, found, later ++ [event], by simp, holds⟩
    · exact ⟨run, event, [], rfl, holds⟩

/-- What happened in a run has happened in every longer one. -/
theorem Happened.concat {run : List Event} (event : Event)
    (happened : Happened step start run what) : Happened step start (run ++ [event]) what :=
  happened_concat.mpr (Or.inl happened)

end Happened

end Runs
