/-
This file is a small logic of calls that log events and may throw.

A call is an exception over a state, the events logged so far, so that what was
logged stays logged when it throws. Two judgements bound what a call logs: one of
a call that may throw, and one of a call that ends in a value. Catching turns the
first into the second.

An environment answers each event, and may let its answer depend on all that was
logged before; it is a parameter, so what is proved of a call holds of every
environment. The rules follow the way calls are put together: a logged event costs
one, two calls in a row cost the sum, and only allowed events may be logged at
all.
-/

import Mathlib

namespace Traces

/-- A call that logs events and may throw. -/
abbrev Call (Failure Event Result : Type) := ExceptT Failure (StateM (List Event)) Result

variable {Failure Event First Second : Type}

/-- Logs an event, and goes on with what an environment that has seen all events before makes
of it. -/
def ask (environment : List Event → Event → Except Failure First) (event : Event) :
    Call Failure Event First :=
  fun before => (environment before event, before ++ [event])

/-- A result that may be an exception. -/
def settle (outcome : Except Failure First) : Call Failure Event First :=
  fun before => (outcome, before)

/-- The result, or `none` where the call throws. -/
def caught (call : Call Failure Event First) : Call Failure Event (Option First) :=
  tryCatch (some <$> call) fun _ => pure none

/-- The call logs at most so many events, all of them allowed. -/
def Sends (allowed : Event → Prop) (most : Nat) (call : Call Failure Event First) : Prop :=
  ∀ before, ∃ outcome sent, call before = (outcome, before ++ sent) ∧ sent.length ≤ most ∧
    ∀ event ∈ sent, allowed event

/-- And it ends in a value. -/
def Ends (allowed : Event → Prop) (most : Nat) (call : Call Failure Event First) : Prop :=
  ∀ before, ∃ result sent, call before = (.ok result, before ++ sent) ∧ sent.length ≤ most ∧
    ∀ event ∈ sent, allowed event

variable {allowed : Event → Prop} {most more : Nat}

theorem sends_settle (outcome : Except Failure First) :
    Sends allowed 0 (settle outcome : Call Failure Event First) := fun before =>
  ⟨outcome, [], by rw [List.append_nil]; rfl, Nat.le_refl 0, fun _ none =>
    absurd none List.not_mem_nil⟩

theorem sends_ask {environment : List Event → Event → Except Failure First} {event : Event}
    (permitted : allowed event) : Sends allowed 1 (ask environment event) := fun before =>
  ⟨environment before event, [event], rfl, Nat.le_refl 1, fun _ member =>
    List.mem_singleton.mp member ▸ permitted⟩

theorem ends_pure (result : First) :
    Ends allowed most (pure result : Call Failure Event First) := fun before =>
  ⟨result, [], by rw [List.append_nil]; rfl, Nat.zero_le most, fun _ none =>
    absurd none List.not_mem_nil⟩

theorem Ends.weaken {call : Call Failure Event First} (ends : Ends allowed most call)
    (le : most ≤ more) : Ends allowed more call := fun before =>
  let ⟨result, sent, run, few, all⟩ := ends before
  ⟨result, sent, run, few.trans le, all⟩

theorem bind_ok {call : Call Failure Event First} {next : First → Call Failure Event Second}
    {before after : List Event} {result : First} (run : call before = (.ok result, after)) :
    (call >>= next) before = next result after := by
  simp only [bind, ExceptT.bind, ExceptT.mk, StateT.bind]
  rw [run]
  rfl

/-- What is logged by two calls in a row adds up. -/
theorem Ends.bind {call : Call Failure Event First} {next : First → Call Failure Event Second}
    (first : Ends allowed most call) (second : ∀ result, Ends allowed more (next result)) :
    Ends allowed (most + more) (call >>= next) := by
  intro before
  obtain ⟨middle, sent, run, few, all⟩ := first before
  obtain ⟨result, sent', run', few', all'⟩ := second middle (before ++ sent)
  refine ⟨result, sent ++ sent', ?_, ?_, fun event member => ?_⟩
  · rw [bind_ok run, run', List.append_assoc]
  · rw [List.length_append]
    omega
  · exact (List.mem_append.mp member).elim (all event) (all' event)

/-- A caught call ends in a value, with the same bound on what it logs. -/
theorem Sends.caught {call : Call Failure Event First} (sends : Sends allowed most call) :
    Ends allowed most (caught call) := by
  intro before
  obtain ⟨outcome, sent, run, few, all⟩ := sends before
  cases outcome with
  | ok result =>
    refine ⟨some result, sent, ?_, few, all⟩
    show (tryCatch (some <$> call) fun _ => pure none :
      Call Failure Event (Option First)) before = _
    simp only [tryCatch, tryCatchThe, MonadExceptOf.tryCatch, ExceptT.tryCatch, ExceptT.mk, bind,
      StateT.bind, Functor.map, ExceptT.map, run, pure, StateT.pure]
  | error failure =>
    refine ⟨none, sent, ?_, few, all⟩
    show (tryCatch (some <$> call) fun _ => pure none :
      Call Failure Event (Option First)) before = _
    simp only [tryCatch, tryCatchThe, MonadExceptOf.tryCatch, ExceptT.tryCatch, ExceptT.mk, bind,
      StateT.bind, Functor.map, ExceptT.map, run, pure, StateT.pure, ExceptT.pure]

end Traces
