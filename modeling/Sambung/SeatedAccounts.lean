/-
This file proves that an invite never takes over an account someone is seated
with.

An acceptance that sets a password has counted the seats under the account's row
lock, so none appears before it commits. One that joins a seated account is one
whose caller proved the account's password; what it proved is read back to the
state the account was read in.

The second half needs a memory that no table has, since the hash may have changed
between the comparison and the commit. `ReadIn` says that at some time of the run
the account had a hash, `Remembers` that a call under way compared with such a
hash, and a step of any party keeps both. The first half is about the tables
alone: only an acceptance writes accounts, and what it writes is under its lock.
-/

import Sambung.InviteSafety

namespace Sambung

variable {compare : String → String → Bool} {start state after : TeamState} {party : Nat}

/-! ### What an acceptance has written and proved -/

/-- What the transaction has written to `app_user`, from that statement on. -/
def AcceptPhase.write : AcceptPhase → Option AccountWrite
  | .seating _ account | .assigning _ account _ | .committing _ account _ _ => some account
  | _ => none

/-- The account the call has read and compares with. -/
def AcceptPhase.compared : AcceptPhase → Option AccountForInvite
  | .comparing _ existing => some existing
  | _ => none

/-- The account whose password the call has proved. -/
def AcceptPhase.verified : AcceptPhase → Option AccountForInvite
  | .spending _ verified _ => verified
  | .locking tx | .deciding tx _ | .seating tx _ | .assigning tx _ _ | .committing tx _ _ _ =>
    tx.verified
  | _ => none

/-- At some time of the run the account had this password hash. -/
def ReadIn (compare : String → String → Bool) (start state : TeamState)
    (existing : AccountForInvite) : Prop :=
  ∃ earlier, TeamRun compare start earlier ∧ TeamRun compare earlier state ∧
    ∃ user ∈ earlier.db.appUser,
      user.id = existing.id ∧ user.passwordHash = existing.passwordHash

theorem ReadIn.next {existing : AccountForInvite} (read : ReadIn compare start state existing)
    (step : TeamStep compare state party after) : ReadIn compare start after existing := by
  obtain ⟨earlier, before, later, holds⟩ := read
  exact ⟨earlier, before, later.next step, holds⟩

/-- What a call remembers of the account it read, and what it has proved. -/
def Remembers (compare : String → String → Bool) (start state : TeamState) (task : TeamTask) :
    Prop :=
  ∀ tokenHash password phase, task = .accepting tokenHash password phase →
    (∀ existing ∈ phase.compared, ReadIn compare start state existing) ∧
      ∀ existing ∈ phase.verified, compare password existing.passwordHash = true ∧
        ReadIn compare start state existing

theorem Remembers.next {task : TeamTask} (remembers : Remembers compare start state task)
    (step : TeamStep compare state party after) : Remembers compare start after task := by
  intro tokenHash password phase accepting
  obtain ⟨read, proved⟩ := remembers tokenHash password phase accepting
  exact ⟨fun existing member => (read existing member).next step,
    fun existing member => ⟨(proved existing member).1, (proved existing member).2.next step⟩⟩

/-- A call that reads no account and proves no password remembers what it did. -/
theorem Remembers.proceed {tokenHash password : String} {phase next : AcceptPhase}
    (remembers : Remembers compare start state (.accepting tokenHash password phase))
    (compared : next.compared = none)
    (verified : next.verified = none ∨ next.verified = phase.verified) :
    Remembers compare start state (.accepting tokenHash password next) := by
  rintro _ _ _ ⟨⟩
  refine ⟨fun existing member => ?_, fun existing member => ?_⟩
  · rw [compared] at member
    cases member
  · rcases verified with none_ | same
    · rw [none_] at member
      cases member
    · rw [same] at member
      exact (remembers _ _ _ rfl).2 existing member

theorem remembers_idle : Remembers compare start state .idle := by
  intro tokenHash password phase accepting
  cases accepting

theorem remembers_answered (answer : TeamAnswer) :
    Remembers compare start state (.answered answer) := by
  intro tokenHash password phase accepting
  cases accepting

theorem remembers_creating (draft : InviteDraft) (phase : CreatePhase) :
    Remembers compare start state (.creating draft phase) := by
  intro tokenHash password phase accepting
  cases accepting

theorem mem_of_findAccountByEmail {db : TeamDb} {email : Citext} {existing : AccountForInvite}
    (found : db.findAccountByEmail email = some existing) :
    ∃ user ∈ db.appUser, user.id = existing.id ∧ user.passwordHash = existing.passwordHash := by
  obtain ⟨user, isUser, rfl⟩ := Option.map_eq_some_iff.mp found
  exact ⟨user, (Table.mem_of_byKey isUser).1, rfl, rfl⟩

/-- The party's next task remembers, where its task does. -/
theorem remembers_step (run : TeamRun compare start state)
    (remembers : Remembers compare start state (state.tasks party))
    (step : TeamStep compare state party after) :
    Remembers compare start state (after.tasks party) := by
  have put : ∀ {tasks : Nat → TeamTask} {task}, tasks = Function.update state.tasks party task →
      Remembers compare start state task → Remembers compare start state (tasks party) := by
    rintro _ task rfl holds
    rw [Function.update_self]
    exact holds
  cases step with
  | tick later forward => exact remembers
  | revoke tenantId inviteId stamp runs free => exact remembers
  | removeStaff tenantId userId runs seat invites => exact remembers
  | invite | propertiesFound | stranger | supersede | unclaimed | insert | commitInvite | mailed
    | unmailed => exact put rfl (remembers_creating _ _)
  | propertyNotFound | emailTaken | pending | conflict | undo | undoLost | listed | unlisted
    | unknownToken | wrongPassword | explain | passwordRequired | commitAccept | commitUngranted
    | fail =>
    exact put rfl (remembers_answered _)
  | finish => exact put rfl remembers_idle
  | accept tokenHash password runs =>
    refine put rfl ?_
    rintro _ _ _ ⟨⟩
    exact ⟨nofun, nofun⟩
  | readSignin tokenHash password inviteId email existing runs found mode =>
    refine put rfl ?_
    rintro _ _ _ ⟨⟩
    refine ⟨fun account member => ?_, nofun⟩
    cases member
    exact ⟨state, run, .start, mem_of_findAccountByEmail found⟩
  | rightPassword tokenHash password inviteId existing runs matches_ =>
    rw [runs] at remembers
    refine put rfl ?_
    rintro _ _ _ ⟨⟩
    refine ⟨nofun, fun account member => ?_⟩
    cases member
    exact ⟨matches_, (remembers _ _ _ rfl).1 existing rfl⟩
  | resolve tokenHash password invite runs found =>
    rw [runs] at remembers
    exact put rfl (remembers.proceed rfl (Or.inl rfl))
  | readCreate tokenHash password inviteId email runs mode =>
    rw [runs] at remembers
    exact put rfl (remembers.proceed rfl (Or.inl rfl))
  | spend tokenHash password invite verified since began runs begins stored spendable free =>
    rw [runs] at remembers
    exact put rfl (remembers.proceed rfl (Or.inr rfl))
  | unspent tokenHash password inviteId verified since began runs begins dead =>
    rw [runs] at remembers
    exact put rfl (remembers.proceed rfl (Or.inl rfl))
  | lockAccount tokenHash password tx user runs found free =>
    rw [runs] at remembers
    exact put rfl (remembers.proceed rfl (Or.inr rfl))
  | createAccount tokenHash password passwordHash tx id runs absent address fresh free hashed =>
    rw [runs] at remembers
    exact put rfl (remembers.proceed rfl (Or.inr rfl))
  | loadAccount tokenHash password tx userId runs verified found =>
    rw [runs] at remembers
    exact put rfl (remembers.proceed rfl (Or.inr rfl))
  | reclaimAccount tokenHash password passwordHash tx userId runs unverified unseated found
      hashed =>
    rw [runs] at remembers
    exact put rfl (remembers.proceed rfl (Or.inr rfl))
  | accountLost tokenHash password tx userId stamp runs decided lost =>
    rw [runs] at remembers
    exact put rfl (remembers.proceed rfl (Or.inl rfl))
  | seat tokenHash password tx account runs unseated =>
    rw [runs] at remembers
    exact put rfl (remembers.proceed rfl (Or.inr rfl))
  | seated tokenHash password tx account runs seated =>
    rw [runs] at remembers
    exact put rfl (remembers.proceed rfl (Or.inr rfl))
  | assign tokenHash password tx account seat runs member free =>
    rw [runs] at remembers
    exact put rfl (remembers.proceed rfl (Or.inr rfl))

theorem TeamRun.remembers (fresh : start.Fresh) (run : TeamRun compare start state)
    (party : Nat) : Remembers compare start state (state.tasks party) := by
  induction run generalizing party with
  | start =>
    rw [fresh.tasks party]
    exact remembers_idle
  | @next state after actor earlier step inductionHypothesis =>
    by_cases same : party = actor
    · rw [same]
      exact (remembers_step earlier (inductionHypothesis actor) step).next step
    · have kept : after.tasks party = state.tasks party := by
        cases step <;> first | rfl | exact Function.update_of_ne same _ _
      rw [kept]
      exact (inductionHypothesis party).next step

/-! ### What a step does to accounts and seats -/

/-- Only an acceptance writes accounts or adds seats, and it writes the account and the seat it has
under way. -/
theorem TeamSafe.writes (safe : TeamSafe state) (step : TeamStep compare state party after) :
    (after.db.appUser = state.db.appUser ∧
        ∀ seat ∈ after.db.membership, seat ∈ state.db.membership) ∨
      ∃ tokenHash password phase tx account seat,
        state.tasks party = .accepting tokenHash password phase ∧
          phase.write = some account ∧ phase.verified = tx.verified ∧
          (account.Sound state.db tx ∧ SeatSound state.db tx account seat) ∧
          after.db.appUser = account.apply state.db.appUser ∧
          after.db.membership = state.db.membership ++ seat.toList := by
  have sound := safe.tasks party
  cases step with
  | removeStaff tenantId userId runs seat invites =>
    refine Or.inl ?_
    by_cases staff : (⟨userId, tenantId, .staff⟩ : Membership) ∈ state.db.membership
    · simp only [TeamDb.removeStaff, if_pos staff]
      exact ⟨trivial, fun seat member => (List.mem_filter.mp member).1⟩
    · simp only [TeamDb.removeStaff, if_neg staff]
      exact ⟨trivial, fun seat member => member⟩
  | accountLost tokenHash password tx userId stamp runs decided lost =>
    rw [runs] at sound
    exact absurd sound.2 lost
  | commitAccept tokenHash password tx account seat assigned stamp runs =>
    rw [runs] at sound
    exact Or.inr ⟨tokenHash, password, _, tx, account, seat, runs, rfl, rfl, sound.1.2, rfl, rfl⟩
  | commitUngranted tokenHash password tx account seat stamp runs ungranted =>
    rw [runs] at sound
    exact Or.inr ⟨tokenHash, password, _, tx, account, seat, runs, rfl, rfl, sound.2, rfl, rfl⟩
  | _ => exact Or.inl ⟨rfl, fun seat member => member⟩

/-- From the statement that sets a password until it commits, the account has no seat. -/
theorem TeamSafe.reclaimed_unseated (safe : TeamSafe state) {tokenHash password : String}
    {phase : AcceptPhase} (runs : state.tasks party = .accepting tokenHash password phase)
    {userId : Uuid} {passwordHash : String}
    (writes : phase.write = some (.reclaimed userId passwordHash)) :
    ∀ seat ∈ state.db.membership, seat.appUserId ≠ userId := by
  have sound := safe.tasks party
  rw [runs] at sound
  cases phase with
  | seating tx account =>
    cases writes
    exact sound.2.2
  | assigning tx account seat =>
    cases writes
    exact sound.2.1.2
  | committing tx account seat assigned =>
    cases writes
    exact sound.1.2.1.2
  | _ => cases writes

/-- A seat joins a seated account only where the caller proved the account's password. -/
theorem TeamSafe.joins (safe : TeamSafe state)
    (remembers : Remembers compare start state (state.tasks party))
    (step : TeamStep compare state party after) {seat : Membership}
    (added : seat ∈ after.db.membership) (absent : seat ∉ state.db.membership)
    (seated : ∃ held ∈ state.db.membership, held.appUserId = seat.appUserId) :
    ∃ tokenHash password phase existing,
      state.tasks party = .accepting tokenHash password phase ∧
        existing.id = seat.appUserId ∧ compare password existing.passwordHash = true ∧
        ReadIn compare start state existing := by
  rcases safe.writes step with ⟨-, kept⟩ | ⟨tokenHash, password, phase, tx, account, new, runs,
    writes, proves, ⟨accountSound, seatSound⟩, -, written⟩
  · exact absurd (kept seat added) absent
  · rw [written] at added
    have isNew : seat ∈ new :=
      Option.mem_toList.mp ((List.mem_append.mp added).resolve_left absent)
    rw [runs] at remembers
    have user : seat.appUserId = account.userId := by rw [(seatSound seat isNew).1]
    obtain ⟨held, member, isUser⟩ := seated
    cases account with
    | created other =>
      obtain ⟨row, rowMember, rowId⟩ := safe.seats held member
      exact absurd (rowId.trans (isUser.trans user)) (accountSound row rowMember)
    | reclaimed userId passwordHash =>
      exact absurd (isUser.trans user) (safe.reclaimed_unseated runs writes held member)
    | verified userId =>
      obtain ⟨existing, isVerified, isAccount⟩ := Option.map_eq_some_iff.mp accountSound.2
      obtain ⟨proved, read⟩ := (remembers _ _ _ rfl).2 existing (proves.trans isVerified)
      exact ⟨tokenHash, password, _, existing, runs, isAccount.trans user.symm, proved, read⟩

end Sambung
