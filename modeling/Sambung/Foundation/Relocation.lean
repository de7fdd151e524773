/-
This file is the theory of parties that move into their targets one after another.

Each party holds a place or none, and no two held places clash. In a round every
party in turn moves into its target, unless a place another party holds clashes
with it; after the round, whoever is not among the parties lets go. Targets do not
clash with each other, so a party that has arrived is in nobody's way and a round
moves somebody, unless some parties wait for each other in a ring. A ring never
moves.

Hence the two results. A party in a ring never arrives, in whatever order the
turns are taken. Without a ring every round after the first brings at least one
party home, so that as many rounds as there are parties, and one more, bring
everybody home. The count of those away is the measure of that induction.
-/

import Mathlib.Data.Finset.Card
import Mathlib.Data.Finset.Filter
import Mathlib.Logic.Function.Iterate

namespace Relocation

open Classical

variable {Party Place : Type} [DecidableEq Party] {clash : Place → Place → Prop}
  {target : Party → Place} {held : Party → Option Place} {parties : List Party}
  {party other : Party}

/-! ### Rounds -/

/-- Another party holds a place that clashes with the target. -/
def Blocked (clash : Place → Place → Prop) (target : Party → Place)
    (held : Party → Option Place) (party : Party) : Prop :=
  ∃ other, other ≠ party ∧ ∃ place, held other = some place ∧ clash place (target party)

/-- The party moves into its target, unless it is blocked. -/
noncomputable def settle (clash : Place → Place → Prop) (target : Party → Place)
    (held : Party → Option Place) (party : Party) : Party → Option Place :=
  if Blocked clash target held party then held
  else Function.update held party (some (target party))

/-- The parties take their turns. -/
noncomputable def turns (clash : Place → Place → Prop) (target : Party → Place)
    (parties : List Party) (held : Party → Option Place) : Party → Option Place :=
  parties.foldl (settle clash target) held

/-- A round: the turns, after which everybody else lets go. -/
noncomputable def round (clash : Place → Place → Prop) (target : Party → Place)
    (parties : List Party) (held : Party → Option Place) : Party → Option Place :=
  fun party => if party ∈ parties then turns clash target parties held party else none

/-- Parties that hold other places than their targets and wait for each other. -/
structure Ring (clash : Place → Place → Prop) (target : Party → Place) (parties : List Party)
    (held : Party → Option Place) (stuck : Set Party) : Prop where
  among : ∀ party ∈ stuck, party ∈ parties
  elsewhere : ∀ party ∈ stuck, ∃ place, held party = some place ∧ place ≠ target party
  waits : ∀ party ∈ stuck, ∃ other ∈ stuck, other ≠ party ∧
    ∃ place, held other = some place ∧ clash place (target party)

/-- Some parties wait for each other. -/
def Deadlocked (clash : Place → Place → Prop) (target : Party → Place) (parties : List Party)
    (held : Party → Option Place) : Prop :=
  ∃ stuck : Set Party, stuck.Nonempty ∧ Ring clash target parties held stuck

/-- No two held places clash. -/
def Exclusive (clash : Place → Place → Prop) (held : Party → Option Place) : Prop :=
  ∀ first second, first ≠ second → ∀ place another, held first = some place →
    held second = some another → ¬ clash place another

/-- The targets of different parties do not clash. -/
def Apart (clash : Place → Place → Prop) (target : Party → Place) (parties : List Party) : Prop :=
  ∀ first ∈ parties, ∀ second ∈ parties, first ≠ second → ¬ clash (target first) (target second)

/-! ### One turn -/

theorem settle_blocked (blocked : Blocked clash target held party) :
    settle clash target held party = held :=
  if_pos blocked

theorem settle_free (free : ¬ Blocked clash target held party) :
    settle clash target held party = Function.update held party (some (target party)) :=
  if_neg free

/-- A turn leaves a party where it is, or takes it to its target. -/
theorem settle_cases (held : Party → Option Place) (party other : Party) :
    settle clash target held party other = held other ∨
      settle clash target held party other = some (target other) := by
  by_cases blocked : Blocked clash target held party
  · rw [settle_blocked blocked]
    exact .inl rfl
  · rw [settle_free blocked]
    by_cases same : other = party
    · rw [same, Function.update_self]
      exact .inr rfl
    · rw [Function.update_of_ne same]
      exact .inl rfl

/-- A turn puts nobody in the way of another party. -/
theorem blocked_of_settle (apart : Apart clash target parties) (takes : other ∈ parties)
    (waits : party ∈ parties)
    (blocked : Blocked clash target (settle clash target held other) party) :
    Blocked clash target held party := by
  obtain ⟨blocker, differs, place, holds, clashes⟩ := blocked
  by_cases refused : Blocked clash target held other
  · rw [settle_blocked refused] at holds
    exact ⟨blocker, differs, place, holds, clashes⟩
  · rw [settle_free refused] at holds
    by_cases same : blocker = other
    · rw [same] at differs
      rw [same, Function.update_self] at holds
      rw [← Option.some.inj holds] at clashes
      exact absurd clashes (apart other takes party waits differs)
    · rw [Function.update_of_ne same] at holds
      exact ⟨blocker, differs, place, holds, clashes⟩

theorem exclusive_settle (symmetric : ∀ {first second}, clash first second → clash second first)
    (exclusive : Exclusive clash held) (party : Party) :
    Exclusive clash (settle clash target held party) := by
  by_cases blocked : Blocked clash target held party
  · rw [settle_blocked blocked]
    exact exclusive
  · rw [settle_free blocked]
    intro first second differ place another holds holdsToo clashes
    by_cases isFirst : first = party
    · rw [isFirst, Function.update_self] at holds
      rw [Function.update_of_ne fun same => differ (isFirst.trans same.symm)] at holdsToo
      rw [← Option.some.inj holds] at clashes
      exact blocked ⟨second, fun same => differ (isFirst.trans same.symm), another, holdsToo,
        symmetric clashes⟩
    · rw [Function.update_of_ne isFirst] at holds
      by_cases isSecond : second = party
      · rw [isSecond, Function.update_self] at holdsToo
        rw [← Option.some.inj holdsToo] at clashes
        exact blocked ⟨first, isFirst, place, holds, clashes⟩
      · rw [Function.update_of_ne isSecond] at holdsToo
        exact exclusive first second differ place another holds holdsToo clashes

/-! ### The turns of a round -/

theorem turns_concat (parties : List Party) (party : Party) :
    turns clash target (parties ++ [party]) held =
      settle clash target (turns clash target parties held) party := by
  rw [turns, List.foldl_append]
  rfl

theorem turns_cases (parties : List Party) (held : Party → Option Place) (party : Party) :
    turns clash target parties held party = held party ∨
      turns clash target parties held party = some (target party) := by
  induction parties using List.reverseRecOn with
  | nil => exact .inl rfl
  | append_singleton parties last inductionHypothesis =>
    rw [turns_concat]
    refine (settle_cases (turns clash target parties held) last party).elim (fun same => ?_) .inr
    rw [same]
    exact inductionHypothesis

/-- Whoever has arrived stays where it is, whatever turns are taken. -/
theorem turns_arrived (parties : List Party) (arrived : held party = some (target party)) :
    turns clash target parties held party = some (target party) :=
  (turns_cases parties held party).elim (fun same => same.trans arrived) id

theorem blocked_of_turns (apart : Apart clash target parties) {taken : List Party}
    (take : ∀ other ∈ taken, other ∈ parties) (waits : party ∈ parties)
    (blocked : Blocked clash target (turns clash target taken held) party) :
    Blocked clash target held party := by
  induction taken using List.reverseRecOn with
  | nil => exact blocked
  | append_singleton taken last inductionHypothesis =>
    rw [turns_concat] at blocked
    refine inductionHypothesis (fun other member => take other (List.mem_append_left _ member)) ?_
    exact blocked_of_settle apart (take last (List.mem_append_right _ List.mem_cons_self)) waits
      blocked

theorem exclusive_turns (symmetric : ∀ {first second}, clash first second → clash second first)
    (exclusive : Exclusive clash held) (parties : List Party) :
    Exclusive clash (turns clash target parties held) := by
  induction parties using List.reverseRecOn with
  | nil => exact exclusive
  | append_singleton parties last inductionHypothesis =>
    rw [turns_concat]
    exact exclusive_settle symmetric inductionHypothesis last

/-- A party nobody blocks arrives in its turn: those before it move into targets of their own, and
put nobody in its way. -/
theorem turns_free (apart : Apart clash target parties) {taken : List Party}
    (take : ∀ other ∈ taken, other ∈ parties) (member : party ∈ taken)
    (free : ¬ Blocked clash target held party) :
    turns clash target taken held party = some (target party) := by
  induction taken using List.reverseRecOn with
  | nil => cases member
  | append_singleton taken last inductionHypothesis =>
    have earlier : ∀ other ∈ taken, other ∈ parties := fun other among =>
      take other (List.mem_append_left _ among)
    rw [turns_concat]
    obtain before | isLast := List.mem_append.mp member
    · refine (settle_cases _ last party).elim (fun same => ?_) id
      rw [same]
      exact inductionHypothesis earlier before
    · rw [List.mem_singleton.mp isLast] at free ⊢
      have still : ¬ Blocked clash target (turns clash target taken held) last := fun blocked =>
        free (blocked_of_turns apart earlier
          (take last (List.mem_append_right _ List.mem_cons_self)) blocked)
      rw [settle_free still, Function.update_self]

/-! ### Rings -/

omit [DecidableEq Party] in
theorem Ring.congr {stuck : Set Party} {later : Party → Option Place}
    (ring : Ring clash target parties held stuck)
    (same : ∀ party ∈ stuck, later party = held party) :
    Ring clash target parties later stuck where
  among := ring.among
  elsewhere party isStuck := by
    rw [same party isStuck]
    exact ring.elsewhere party isStuck
  waits party isStuck := by
    obtain ⟨other, otherStuck, differs, place, holds, clashes⟩ := ring.waits party isStuck
    exact ⟨other, otherStuck, differs, place, (same other otherStuck).trans holds, clashes⟩

/-- Nobody in a ring moves, whatever turns are taken: the place that each waits for is held by
another of the ring. -/
theorem Ring.turns {stuck : Set Party} (ring : Ring clash target parties held stuck)
    (taken : List Party) :
    ∀ party ∈ stuck, Relocation.turns clash target taken held party = held party := by
  induction taken using List.reverseRecOn with
  | nil => exact fun _ _ => rfl
  | append_singleton taken last inductionHypothesis =>
    intro party isStuck
    rw [turns_concat, ← inductionHypothesis party isStuck]
    by_cases blocked : Blocked clash target (Relocation.turns clash target taken held) last
    · rw [settle_blocked blocked]
    · rw [settle_free blocked, Function.update_of_ne]
      rintro rfl
      obtain ⟨other, otherStuck, differs, place, holds, clashes⟩ := ring.waits party isStuck
      exact blocked ⟨other, differs, place,
        (inductionHypothesis other otherStuck).trans holds, clashes⟩

theorem Ring.round {stuck : Set Party} (ring : Ring clash target parties held stuck) :
    ∀ party ∈ stuck, Relocation.round clash target parties held party = held party := by
  intro party isStuck
  rw [Relocation.round, if_pos (ring.among party isStuck)]
  exact ring.turns parties party isStuck

/-- A ring lasts for all rounds, so the parties in it never arrive. -/
theorem Ring.iterate {stuck : Set Party} (ring : Ring clash target parties held stuck)
    (rounds : Nat) : ∀ party ∈ stuck,
      (Relocation.round clash target parties)^[rounds] held party = held party := by
  induction rounds with
  | zero => exact fun _ _ => rfl
  | succ rounds inductionHypothesis =>
    intro party isStuck
    rw [Function.iterate_succ_apply', (ring.congr inductionHypothesis).round party isStuck]
    exact inductionHypothesis party isStuck

/-- A round makes no ring: one that stands after it stood before, since those who moved are in
nobody's way. -/
theorem not_deadlocked_round (free : ¬ Deadlocked clash target parties held) :
    ¬ Deadlocked clash target parties (round clash target parties held) := by
  rintro ⟨stuck, nonempty, ring⟩
  refine free ⟨stuck, nonempty, ring.congr fun party isStuck => ?_⟩
  obtain ⟨place, holds, elsewhere⟩ := ring.elsewhere party isStuck
  rw [round, if_pos (ring.among party isStuck)] at holds ⊢
  refine (turns_cases parties held party).elim Eq.symm fun arrived => ?_
  rw [arrived] at holds
  exact absurd (Option.some.inj holds).symm elsewhere

/-! ### Progress -/

/-- Nobody but the parties holds a place. -/
def Inside (parties : List Party) (held : Party → Option Place) : Prop :=
  ∀ party place, held party = some place → party ∈ parties

theorem inside_round : Inside parties (round clash target parties held) := by
  intro party place holds
  by_contra outside
  rw [round, if_neg outside] at holds
  cases holds

omit [DecidableEq Party] in
/-- Where nobody waits in a ring, some party that has not arrived is free to. Otherwise whoever
blocks a party is away from its own target, and so is blocked in turn, until the blocking closes a
ring. -/
theorem exists_free (apart : Apart clash target parties) (inside : Inside parties held)
    (free : ¬ Deadlocked clash target parties held) (member : party ∈ parties)
    (away : held party ≠ some (target party)) :
    ∃ other ∈ parties, held other ≠ some (target other) ∧ ¬ Blocked clash target held other := by
  by_contra none
  have every : ∀ other ∈ parties, held other ≠ some (target other) →
      Blocked clash target held other := fun other among elsewhere =>
    by_contra fun unblocked => none ⟨other, among, elsewhere, unblocked⟩
  have blocker : ∀ other ∈ parties, held other ≠ some (target other) →
      ∃ next, (next ∈ parties ∧ ∃ place, held next = some place ∧ place ≠ target next) ∧
        next ≠ other ∧ ∃ place, held next = some place ∧ clash place (target other) := by
    intro other among elsewhere
    obtain ⟨next, differs, place, holds, clashes⟩ := every other among elsewhere
    have nextAmong := inside next place holds
    refine ⟨next, ⟨nextAmong, place, holds, ?_⟩, differs, place, holds, clashes⟩
    rintro rfl
    exact apart next nextAmong other among differs clashes
  obtain ⟨first, waiting, -⟩ := blocker party member away
  refine free ⟨{other | other ∈ parties ∧ ∃ place, held other = some place ∧ place ≠ target other},
    ⟨first, waiting⟩, fun _ waits => waits.1, fun _ waits => waits.2, ?_⟩
  rintro other ⟨among, place, holds, elsewhere⟩
  refine blocker other among fun arrived => ?_
  rw [holds] at arrived
  exact elsewhere (Option.some.inj arrived)

/-- The parties that have not arrived. -/
noncomputable def away (target : Party → Place) (parties : List Party)
    (held : Party → Option Place) : Finset Party :=
  parties.toFinset.filter fun party => held party ≠ some (target party)

theorem mem_away : party ∈ away target parties held ↔
    party ∈ parties ∧ held party ≠ some (target party) := by
  rw [away, Finset.mem_filter, List.mem_toFinset]

theorem away_round_subset :
    away target parties (round clash target parties held) ⊆ away target parties held := by
  intro party isAway
  obtain ⟨member, elsewhere⟩ := mem_away.mp isAway
  refine mem_away.mpr ⟨member, fun arrived => elsewhere ?_⟩
  rw [round, if_pos member]
  exact turns_arrived parties arrived

/-- Without a ring, a round brings somebody home, so that one party fewer is away as long as any is.
-/
theorem card_away_round (apart : Apart clash target parties) (inside : Inside parties held)
    (free : ¬ Deadlocked clash target parties held) :
    (away target parties (round clash target parties held)).card ≤
      (away target parties held).card - 1 := by
  by_cases empty : away target parties held = ∅
  · have still : away target parties (round clash target parties held) ⊆
        away target parties held := away_round_subset
    rw [empty, Finset.subset_empty] at still
    rw [still]
    exact Nat.zero_le _
  · obtain ⟨party, isAway⟩ := Finset.nonempty_iff_ne_empty.mpr empty
    obtain ⟨member, elsewhere⟩ := mem_away.mp isAway
    obtain ⟨other, among, otherAway, unblocked⟩ := exists_free apart inside free member elsewhere
    refine Nat.le_sub_one_of_lt (Finset.card_lt_card ⟨away_round_subset, fun all => ?_⟩)
    obtain ⟨-, still⟩ := mem_away.mp (all (mem_away.mpr ⟨among, otherAway⟩))
    rw [round, if_pos among] at still
    exact still (turns_free apart (fun _ => id) among unblocked)

/-- The rounds after the first bring everybody home, one at least in each. -/
theorem card_away_iterate (apart : Apart clash target parties)
    (free : ¬ Deadlocked clash target parties held) (rounds : Nat) :
    ¬ Deadlocked clash target parties ((round clash target parties)^[rounds] held) ∧
      (away target parties ((round clash target parties)^[rounds + 1] held)).card ≤
        parties.length - rounds := by
  induction rounds with
  | zero =>
    exact ⟨free, (Finset.card_filter_le _ _).trans (List.toFinset_card_le parties)⟩
  | succ rounds inductionHypothesis =>
    obtain ⟨still, few⟩ := inductionHypothesis
    have next :
        ¬ Deadlocked clash target parties ((round clash target parties)^[rounds + 1] held) := by
      rw [Function.iterate_succ_apply']
      exact not_deadlocked_round still
    refine ⟨next, ?_⟩
    rw [Function.iterate_succ_apply']
    have inside : Inside parties ((round clash target parties)^[rounds + 1] held) := by
      rw [Function.iterate_succ_apply']
      exact inside_round
    have fewer := card_away_round apart inside next
    omega

theorem exclusive_iterate (symmetric : ∀ {first second}, clash first second → clash second first)
    (exclusive : Exclusive clash held) (rounds : Nat) :
    Exclusive clash ((round clash target parties)^[rounds] held) := by
  induction rounds with
  | zero => exact exclusive
  | succ rounds inductionHypothesis =>
    rw [Function.iterate_succ_apply']
    intro first second differ place another holds holdsToo
    have kept : ∀ party place, round clash target parties
        ((round clash target parties)^[rounds] held) party = some place →
          turns clash target parties ((round clash target parties)^[rounds] held) party =
            some place := by
      intro party place isHeld
      have among := inside_round party place isHeld
      rwa [round, if_pos among] at isHeld
    exact exclusive_turns symmetric inductionHypothesis parties first second differ place another
      (kept first place holds) (kept second another holdsToo)

omit [DecidableEq Party] in
/-- Nobody is in the way of a party that has arrived. -/
theorem free_of_arrived (exclusive : Exclusive clash held)
    (arrived : held party = some (target party)) : ¬ Blocked clash target held party := by
  rintro ⟨other, differs, place, holds, clashes⟩
  exact exclusive other party differs place _ holds arrived clashes

/-- A party that is free arrives in the round, and is free from then on. -/
theorem free_round (symmetric : ∀ {first second}, clash first second → clash second first)
    (apart : Apart clash target parties) (exclusive : Exclusive clash held)
    (member : party ∈ parties) (free : ¬ Blocked clash target held party) :
    ¬ Blocked clash target (round clash target parties held) party := by
  refine free_of_arrived (exclusive_iterate symmetric exclusive 1) ?_
  show round clash target parties held party = _
  rw [round, if_pos member]
  exact turns_free apart (fun _ => id) member free

/-- After as many rounds as there are parties, nobody is blocked. -/
theorem free_iterate (symmetric : ∀ {first second}, clash first second → clash second first)
    (apart : Apart clash target parties) (exclusive : Exclusive clash held)
    (free : ¬ Deadlocked clash target parties held) {rounds : Nat}
    (enough : parties.length ≤ rounds) (member : party ∈ parties) :
    ¬ Blocked clash target ((round clash target parties)^[rounds] held) party := by
  obtain _ | rounds := rounds
  · rw [List.eq_nil_of_length_eq_zero (Nat.le_zero.mp enough)] at member
    cases member
  · have few := (card_away_iterate apart free rounds).2
    have next := (card_away_iterate apart free (rounds + 1)).1
    have inside : Inside parties ((round clash target parties)^[rounds + 1] held) := by
      rw [Function.iterate_succ_apply']
      exact inside_round
    by_cases arrived : (round clash target parties)^[rounds + 1] held party = some (target party)
    · exact free_of_arrived (exclusive_iterate symmetric exclusive (rounds + 1)) arrived
    · obtain ⟨other, among, otherAway, unblocked⟩ := exists_free apart inside next member arrived
      have alone :
          (away target parties ((round clash target parties)^[rounds + 1] held)).card ≤ 1 :=
        few.trans (by omega)
      rw [Finset.card_le_one.mp alone party (mem_away.mpr ⟨member, arrived⟩) other
        (mem_away.mpr ⟨among, otherAway⟩)]
      exact unblocked

end Relocation
