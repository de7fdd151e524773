/-
This file is the theory of a consumer that drops every message whose key it has
seen. The source of the messages may repeat and reorder them.

A step absorbs a message when, once the message has been taken, taking it again
changes nothing, whatever was taken in between. For an absorbing step the seen set
decides nothing beyond the keys it held at the start: consuming a stream with
repetitions is folding the plain step over it.

That is false of keys that do not tell the messages apart: a consumer then drops a
message it never took. The theorem therefore asks that equal keys in the stream
mean equal messages, and its users have to prove that of their keys, or to name
the streams for which it holds. A second consumer keeps what it has seen in a
list, so that a run can be computed.
-/

import Mathlib.Data.Set.Insert

namespace Dedup

variable {State Message Key : Type}

/-! ### Absorbing steps -/

/-- The state has absorbed the message: from here on, taking it changes nothing. -/
def Absorbs (step : State → Message → State) (state : State) (message : Message) : Prop :=
  ∀ later : List Message, step (later.foldl step state) message = later.foldl step state

/-- A taken message is absorbed. -/
def Absorbing (step : State → Message → State) : Prop :=
  ∀ state message, Absorbs step (step state message) message

/-- A message that changes nothing, and goes on changing nothing after any other, is
absorbed. -/
theorem absorbs_of_persists {step : State → Message → State} {message : Message}
    (persists : ∀ state other, step state message = state →
      step (step state other) message = step state other)
    {state : State} (inert : step state message = state) : Absorbs step state message := by
  intro later
  induction later generalizing state with
  | nil => exact inert
  | cons other later inductionHypothesis => exact inductionHypothesis (persists state other inert)

/-- An idempotent step whose inert messages stay inert is absorbing. -/
theorem absorbing_of_persists {step : State → Message → State}
    (idempotent : ∀ state message, step (step state message) message = step state message)
    (persists : ∀ state message other, step state message = state →
      step (step state other) message = step state other) : Absorbing step :=
  fun state message =>
    absorbs_of_persists (fun state other => persists state message other)
      (idempotent state message)

/-- Leaving an absorbed message out of a stream changes nothing. -/
theorem foldl_filter_of_absorbs {step : State → Message → State} {message : Message}
    (keep : Message → Bool) (dropped : ∀ other, keep other = false → other = message)
    (stream : List Message) {state : State} (absorbed : Absorbs step state message) :
    (stream.filter keep).foldl step state = stream.foldl step state := by
  induction stream generalizing state with
  | nil => rfl
  | cons head stream inductionHypothesis =>
    cases kept : keep head with
    | true =>
      rw [List.filter_cons_of_pos kept]
      exact inductionHypothesis fun later => absorbed (head :: later)
    | false =>
      have unchanged : step state message = state := absorbed []
      rw [List.filter_cons_of_neg (by rw [kept]; exact Bool.false_ne_true), List.foldl_cons,
        dropped head kept, unchanged]
      exact inductionHypothesis absorbed

/-! ### The consumer -/

open Classical in
/-- One message at the consumer: a seen key is dropped, a new one is taken and remembered. -/
noncomputable def consume (step : State → Message → State) (key : Message → Key)
    (consumer : State × Set Key) (message : Message) : State × Set Key :=
  if key message ∈ consumer.2 then consumer
  else (step consumer.1 message, insert (key message) consumer.2)

theorem consume_seen {step : State → Message → State} {key : Message → Key}
    {consumer : State × Set Key} {message : Message} (seen : key message ∈ consumer.2) :
    consume step key consumer message = consumer :=
  if_pos seen

theorem consume_new {step : State → Message → State} {key : Message → Key}
    {consumer : State × Set Key} {message : Message} (new : key message ∉ consumer.2) :
    consume step key consumer message =
      (step consumer.1 message, insert (key message) consumer.2) :=
  if_neg new

open Classical in
/-- The message's key is not among the seen ones. -/
noncomputable def isNew (key : Message → Key) (seen : Set Key) (message : Message) : Bool :=
  decide (key message ∉ seen)

theorem isNew_iff {key : Message → Key} {seen : Set Key} {message : Message} :
    isNew key seen message = true ↔ key message ∉ seen := by
  classical
  exact decide_eq_true_iff

/-- Consuming a stream whose keys tell its messages apart is folding the step over the messages that
were new at the start, repetitions included: what a larger seen set drops beyond the old one are
copies of a message that was consumed, and they are absorbed. -/
theorem foldl_consume {step : State → Message → State} (absorbing : Absorbing step)
    {key : Message → Key} {stream : List Message}
    (distinct : ∀ a ∈ stream, ∀ b ∈ stream, key a = key b → a = b) (state : State)
    (seen : Set Key) :
    (stream.foldl (consume step key) (state, seen)).1 =
      (stream.filter (isNew key seen)).foldl step state := by
  induction stream generalizing state seen with
  | nil => rfl
  | cons message stream inductionHypothesis =>
    have later : ∀ a ∈ stream, ∀ b ∈ stream, key a = key b → a = b := fun a aMember b bMember =>
      distinct a (List.mem_cons_of_mem _ aMember) b (List.mem_cons_of_mem _ bMember)
    rw [List.foldl_cons]
    by_cases old : key message ∈ seen
    · rw [consume_seen old, List.filter_cons_of_neg (by rw [isNew_iff]; exact not_not.mpr old)]
      exact inductionHypothesis later state seen
    · rw [consume_new old, List.filter_cons_of_pos (isNew_iff.mpr old), List.foldl_cons,
        inductionHypothesis later]
      classical
      have split : stream.filter (isNew key (insert (key message) seen)) =
          (stream.filter (isNew key seen)).filter fun other => other ≠ message := by
        rw [List.filter_filter]
        refine List.filter_congr fun other member => ?_
        have same : key other = key message ↔ other = message :=
          ⟨distinct other (List.mem_cons_of_mem _ member) message List.mem_cons_self,
            congrArg key⟩
        rw [Bool.eq_iff_iff, Bool.and_eq_true, isNew_iff, isNew_iff, Set.mem_insert_iff, same]
        simp only [not_or, decide_eq_true_iff, ne_eq]
      rw [split]
      exact foldl_filter_of_absorbs _ (fun other dropped => by simpa using dropped) _
        (absorbing state message)

/-- The keys a consumer has seen are those of the start and those of the stream. -/
theorem mem_seen_foldl_consume {step : State → Message → State} {key : Message → Key}
    (stream : List Message) (state : State) (seen : Set Key) (wanted : Key) :
    wanted ∈ (stream.foldl (consume step key) (state, seen)).2 ↔
      wanted ∈ seen ∨ ∃ message ∈ stream, key message = wanted := by
  induction stream generalizing state seen with
  | nil => simp
  | cons message stream inductionHypothesis =>
    rw [List.foldl_cons]
    by_cases old : key message ∈ seen
    · rw [consume_seen old, inductionHypothesis]
      simp only [List.mem_cons, exists_eq_or_imp]
      constructor
      · rintro (known | found)
        · exact Or.inl known
        · exact Or.inr (Or.inr found)
      · rintro (known | same | found)
        · exact Or.inl known
        · exact Or.inl (same ▸ old)
        · exact Or.inr found
    · rw [consume_new old, inductionHypothesis]
      simp only [List.mem_cons, exists_eq_or_imp, Set.mem_insert_iff]
      constructor
      · rintro ((same | known) | found)
        · exact Or.inr (Or.inl same.symm)
        · exact Or.inl known
        · exact Or.inr (Or.inr found)
      · rintro (known | same | found)
        · exact Or.inl (Or.inr known)
        · exact Or.inl (Or.inl same.symm)
        · exact Or.inr found

/-- The consumer with its seen keys in a list. -/
def consumeListed [DecidableEq Key] (step : State → Message → State) (key : Message → Key)
    (consumer : State × List Key) (message : Message) : State × List Key :=
  if key message ∈ consumer.2 then consumer
  else (step consumer.1 message, key message :: consumer.2)

/-- The consumer with a list of keys runs as the one with a set does, so that a run can be computed.
-/
theorem foldl_consumeListed [DecidableEq Key] (step : State → Message → State)
    (key : Message → Key) (stream : List Message) (state : State) (seen : List Key) :
    stream.foldl (consume step key) (state, { wanted | wanted ∈ seen }) =
      ((stream.foldl (consumeListed step key) (state, seen)).1,
        { wanted | wanted ∈ (stream.foldl (consumeListed step key) (state, seen)).2 }) := by
  induction stream generalizing state seen with
  | nil => rfl
  | cons message stream inductionHypothesis =>
    rw [List.foldl_cons, List.foldl_cons]
    by_cases old : key message ∈ seen
    · rw [consume_seen (show key message ∈ { wanted | wanted ∈ seen } from old), consumeListed,
        if_pos old]
      exact inductionHypothesis state seen
    · have inserted : insert (key message) { wanted | wanted ∈ seen } =
          { wanted | wanted ∈ key message :: seen } := by
        ext wanted
        simp only [Set.mem_insert_iff, Set.mem_ofPred_eq, List.mem_cons]
      rw [consume_new (show key message ∉ { wanted | wanted ∈ seen } from old), consumeListed,
        if_neg old, inserted]
      exact inductionHypothesis _ _

end Dedup
