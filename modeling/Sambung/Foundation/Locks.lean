/-
This file is the theory of exclusive and of shared locks.

Parties run tasks, a task holds resources, and no two tasks hold one resource at a
time. A party keeps that up by taking only what is free and by letting go. Where a
resource may also be shared, what one party holds exclusively no other party holds
at all.

Tasks and resources are any types, and what a task holds is a predicate of the
task, so a party lets go of everything at once by ending its task: there is no
release to forget. Nothing is said of waiting, of order or of deadlock; a system
asks these lemmas only whether a step that was possible keeps the locks.
-/

import Mathlib.Logic.Function.Basic

namespace Locks

variable {Party Task Resource : Type} [DecidableEq Party] {holds : Task → Resource → Prop}
  {tasks : Party → Option Task}

/-- No two parties hold one resource. -/
def Exclusive (holds : Task → Resource → Prop) (tasks : Party → Option Task) : Prop :=
  ∀ first second task other resource, first ≠ second → tasks first = some task →
    tasks second = some other → holds task resource → ¬ holds other resource

/-- No other party holds the resource. -/
def Free (holds : Task → Resource → Prop) (tasks : Party → Option Task) (party : Party)
    (resource : Resource) : Prop :=
  ∀ other task, other ≠ party → tasks other = some task → ¬ holds task resource

/-- A party whose new task holds only what is free of the others keeps the locks exclusive. -/
theorem Exclusive.update (exclusive : Exclusive holds tasks) {party : Party} {task : Task}
    (free : ∀ resource, holds task resource → Free holds tasks party resource) :
    Exclusive holds (Function.update tasks party (some task)) := by
  intro first second firstTask secondTask resource apart firstRuns secondRuns firstHolds
    secondHolds
  by_cases isFirst : first = party
  · subst isFirst
    rw [Function.update_self] at firstRuns
    rw [Function.update_of_ne apart.symm] at secondRuns
    cases firstRuns
    exact free resource firstHolds second secondTask apart.symm secondRuns secondHolds
  · rw [Function.update_of_ne isFirst] at firstRuns
    by_cases isSecond : second = party
    · subst isSecond
      rw [Function.update_self] at secondRuns
      cases secondRuns
      exact free resource secondHolds first firstTask isFirst firstRuns firstHolds
    · rw [Function.update_of_ne isSecond] at secondRuns
      exact exclusive first second firstTask secondTask resource apart firstRuns secondRuns
        firstHolds secondHolds

/-- A party that lets go keeps the locks exclusive. -/
theorem Exclusive.release (exclusive : Exclusive holds tasks) (party : Party) :
    Exclusive holds (Function.update tasks party none) := by
  intro first second firstTask secondTask resource apart firstRuns secondRuns
  have running : ∀ other task, Function.update tasks party none other = some task →
      tasks other = some task := by
    intro other task runs
    by_cases same : other = party
    · rw [same, Function.update_self] at runs
      cases runs
    · rwa [Function.update_of_ne same] at runs
  exact exclusive first second firstTask secondTask resource apart (running _ _ firstRuns)
    (running _ _ secondRuns)

omit [DecidableEq Party] in
/-- What a running task holds is free of the others. -/
theorem Exclusive.free (exclusive : Exclusive holds tasks) {party : Party} {task : Task}
    (runs : tasks party = some task) {resource : Resource} (held : holds task resource) :
    Free holds tasks party resource :=
  fun other otherTask apart otherRuns =>
    exclusive party other task otherTask resource apart.symm runs otherRuns held

/-! ### Shared locks -/

section Modes

variable {exclusive shared : Task → Resource → Prop} {running : Party → Task}

/-- What one party holds exclusively no other holds in any way. -/
def Respected (exclusive shared : Task → Resource → Prop) (running : Party → Task) : Prop :=
  ∀ first second resource, first ≠ second → exclusive (running first) resource →
    ¬ exclusive (running second) resource ∧ ¬ shared (running second) resource

/-- No other party holds the resource exclusively. -/
def FreeToShare (exclusive : Task → Resource → Prop) (running : Party → Task) (party : Party)
    (resource : Resource) : Prop :=
  ∀ other, other ≠ party → ¬ exclusive (running other) resource

/-- No other party holds the resource. -/
def FreeToTake (exclusive shared : Task → Resource → Prop) (running : Party → Task)
    (party : Party) (resource : Resource) : Prop :=
  ∀ other, other ≠ party → ¬ exclusive (running other) resource ∧ ¬ shared (running other) resource

/-- A party that takes and shares only what it may, beside what it holds already, keeps the locks
respected. -/
theorem Respected.update (respected : Respected exclusive shared running)
    {party : Party} {task : Task}
    (takes : ∀ resource, exclusive task resource → exclusive (running party) resource ∨
      FreeToTake exclusive shared running party resource)
    (shares : ∀ resource, shared task resource → shared (running party) resource ∨
      FreeToShare exclusive running party resource) :
    Respected exclusive shared (Function.update running party task) := by
  intro first second resource apart held
  by_cases isFirst : first = party
  · subst isFirst
    rw [Function.update_self] at held
    rw [Function.update_of_ne apart.symm]
    rcases takes resource held with before | free
    · exact respected first second resource apart before
    · exact free second apart.symm
  · rw [Function.update_of_ne isFirst] at held
    by_cases isSecond : second = party
    · subst isSecond
      rw [Function.update_self]
      refine ⟨fun taken => ?_, fun sharing => ?_⟩
      · rcases takes resource taken with before | free
        · exact (respected first second resource apart held).1 before
        · exact (free first apart).1 held
      · rcases shares resource sharing with before | free
        · exact (respected first second resource apart held).2 before
        · exact free first apart held
    · rw [Function.update_of_ne isSecond]
      exact respected first second resource apart held

end Modes

end Locks
