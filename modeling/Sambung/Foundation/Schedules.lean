/-
This file is the theory of schedules: parties act on a state one event at a time,
an event may be impossible in a state, and a condition says which events are
allowed.

A property of every reachable state is an invariant of the allowed events; a
relation between two states of a schedule is one every event keeps and that
composes.

The condition may look at the state the event meets, so it can forbid an event in
some states only. Reachability is an inductive predicate, so that a system with
infinitely many events has it as well; a concrete schedule is a list of events,
computed by `follow`, and is reachable where every event of it turns out possible
and allowed.
-/

import Mathlib.Logic.Function.Basic

namespace Schedules

variable {Event State : Type} {act : Event → State → Option State}
  {allowed : Event → State → Prop}

/-- The states a schedule of allowed events reaches. -/
inductive Reaches (act : Event → State → Option State) (allowed : Event → State → Prop)
    (start : State) : State → Prop
  | start : Reaches act allowed start start
  | next {state after : State} {event : Event} (earlier : Reaches act allowed start state)
      (allows : allowed event state) (acts : act event state = some after) :
      Reaches act allowed start after

/-- Every event is allowed. -/
abbrev Free (_ : Event) (_ : State) : Prop := True

/-- What holds at the start and is kept by every allowed event holds in every state reached. -/
theorem Reaches.invariant {start state : State} (run : Reaches act allowed start state)
    (invariant : State → Prop) (first : invariant start)
    (kept : ∀ event state after, invariant state → allowed event state →
      act event state = some after → invariant after) : invariant state := by
  induction run with
  | start => exact first
  | next _ allows acts inductionHypothesis => exact kept _ _ _ inductionHypothesis allows acts

/-- A relation that every allowed event of a reachable state keeps, from the start to every state
reached. -/
theorem Reaches.relation {start state : State} (run : Reaches act allowed start state)
    (relation : State → State → Prop) (reflexive : ∀ state, relation state state)
    (transitive : ∀ first second third, relation first second → relation second third →
      relation first third)
    (kept : ∀ event state after, Reaches act allowed start state → allowed event state →
      act event state = some after → relation state after) : relation start state := by
  induction run with
  | start => exact reflexive start
  | next earlier allows acts inductionHypothesis =>
    exact transitive _ _ _ inductionHypothesis (kept _ _ _ earlier allows acts)

/-- A schedule under a condition is one under any weaker condition. -/
theorem Reaches.mono {start state : State} (run : Reaches act allowed start state)
    {weaker : Event → State → Prop}
    (weakens : ∀ event state, allowed event state → weaker event state) :
    Reaches act weaker start state := by
  induction run with
  | start => exact .start
  | next _ allows acts inductionHypothesis =>
    exact .next inductionHypothesis (weakens _ _ allows) acts

/-- The state a list of events leads to. -/
def follow (act : Event → State → Option State) : List Event → State → Option State
  | [], state => some state
  | event :: events, state => (act event state).bind (follow act events)

/-- A list of events that are all possible, and always allowed, is a schedule. -/
theorem reaches_of_follow {events : List Event} {start middle state : State}
    (allows : ∀ event ∈ events, ∀ state, allowed event state)
    (earlier : Reaches act allowed start middle)
    (followed : follow act events middle = some state) : Reaches act allowed start state := by
  induction events generalizing middle with
  | nil =>
    cases followed
    exact earlier
  | cons event events inductionHypothesis =>
    obtain ⟨next, acts, rest⟩ := Option.bind_eq_some_iff.mp followed
    exact inductionHypothesis (fun other member => allows other (List.mem_cons_of_mem _ member))
      (.next earlier (allows event List.mem_cons_self middle) acts) rest

end Schedules
