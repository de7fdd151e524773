/-
This file proves what an invite goes through: it is open until one acceptance or
one revocation closes it, it is accepted at most once and only while it is live,
and an acceptance that does not commit leaves no trace.

The acceptances of a run are read off its commits. What a lone `create` may be
refused for is a matter of its own run: the statements of one call, one after
another, with time passing between them.

Each step either commits an acceptance or abstains, and the two are records with a
field for each thing they promise, so that the theorem about runs is read off a
single step and the invariant of `InviteSafety`. A closed invite keeps its row
through every step. For the lone call the point is that its own first statement
closes what has lapsed: an open invite it then finds in the slot was live when it
began.
-/

import Sambung.InviteSafety

namespace Sambung

variable {compare : String → String → Bool} {state after : TeamState} {party : Nat}

/-! ### Acceptances -/

/-- An acceptance has committed: its invite was live when its transaction began, and was open
until now. A staff seat is added unless there is one, and no other row of `membership` changes.
The assignments added are the invite's properties, in the invite's tenant. -/
structure AcceptsInvite (tx : AcceptTx) (account : AccountWrite) (before after : TeamState) :
    Prop where
  spent : tx.spent ∈ before.db.staffInvite
  live : tx.spent.Spendable tx.began
  began : tx.began ≤ before.now
  accepted : after.accepted = before.accepted ++ [tx.spent.id]
  staffInvite : ∃ stamp, after.db.staffInvite =
    Table.updateWhere (fun invite => invite.id = tx.spent.id) (StaffInvite.accept stamp)
      before.db.staffInvite
  membership : ∃ added, after.db.membership = before.db.membership ++ added ∧
    ∀ seat ∈ added, seat = ⟨account.userId, tx.spent.tenantId, .staff⟩ ∧
      ∀ held ∈ before.db.membership,
        ¬ (held.appUserId = account.userId ∧ held.tenantId = tx.spent.tenantId)
  userProperty : ∀ row, row ∈ after.db.userProperty ↔ row ∈ before.db.userProperty ∨
    row.appUserId = account.userId ∧ row.tenantId = tx.spent.tenantId ∧
      ∃ grant ∈ before.db.staffInviteProperty, grant.inviteId = tx.spent.id ∧
        grant.propertyId = row.propertyId

/-- The grants of an invite are of its tenant. -/
theorem TeamTables.grant_tenant (tables : TeamTables state) {invite : StaffInvite}
    (stored : invite ∈ state.db.staffInvite) {grant : StaffInviteProperty}
    (member : grant ∈ state.db.staffInviteProperty) (ofInvite : grant.inviteId = invite.id) :
    grant.tenantId = invite.tenantId := by
  obtain ⟨other, otherMember, id, tenant⟩ := (tables.grants grant member).1
  have same : other = invite :=
    Table.eq_of_key tables.invites otherMember stored (id.trans ofInvite)
  rw [← tenant, same]

theorem TeamSafe.accepts (safe : TeamSafe state) {tx : AcceptTx} {account : AccountWrite}
    {seat : Option Membership} {assigned : List UserProperty} {stamp : Instant}
    {tasks : Nat → TeamTask}
    (sound : (AcceptPhase.committing tx account seat assigned).Sound state) :
    AcceptsInvite tx account state { state with
      db := state.db.accept tx.spent.id stamp account seat assigned
      tasks := tasks
      accepted := state.accepted ++ [tx.spent.id] } := by
  obtain ⟨⟨⟨spent, spendable, began⟩, -, seatSound⟩, assignedSound, complete⟩ := sound
  refine ⟨spent, spendable, began, rfl, ⟨stamp, rfl⟩, ⟨seat.toList, rfl, ?_⟩, fun row => ?_⟩
  · exact fun added member => seatSound added (Option.mem_toList.mp member)
  · show row ∈ state.db.userProperty ++ assigned ↔ _
    constructor
    · intro member
      rcases List.mem_append.mp member with old | new
      · exact Or.inl old
      · obtain ⟨user, grant, grantMember, ofInvite, property, tenant⟩ := assignedSound row new
        refine Or.inr ⟨user, ?_, grant, grantMember, ofInvite, property⟩
        rw [← tenant]
        exact safe.toTeamTables.grant_tenant spent grantMember ofInvite
    · rintro (old | ⟨user, tenant, grant, grantMember, ofInvite, property⟩)
      · exact List.mem_append_left _ old
      · have granted := complete grant grantMember ofInvite
        rw [safe.toTeamTables.grant_tenant spent grantMember ofInvite, ← tenant, ← user,
          property] at granted
        exact granted

/-! ### What a step leaves alone -/

/-- No acceptance commits: no invite is accepted that was not, and where the step was of an
acceptance, no table changes. -/
structure Abstains (party : Nat) (before after : TeamState) : Prop where
  accepted : after.accepted = before.accepted
  staffInvite : ∀ invite ∈ after.db.staffInvite, invite.acceptedAt ≠ none →
    ∃ old ∈ before.db.staffInvite, old.id = invite.id ∧ old.acceptedAt = invite.acceptedAt
  db : ∀ tokenHash password phase, before.tasks party = .accepting tokenHash password phase →
    after.db = before.db

theorem Abstains.same (accepted : after.accepted = state.accepted) (db : after.db = state.db) :
    Abstains party state after where
  accepted := accepted
  staffInvite := by
    rw [db]
    exact fun invite member _ => ⟨invite, member, rfl, rfl⟩
  db := fun _ _ _ _ => db

theorem Abstains.close {closes : StaffInvite → Prop} [DecidablePred closes] (stamp : Instant)
    (tasks : Nat → TeamTask)
    (busy : ∀ tokenHash password phase,
      state.tasks party ≠ .accepting tokenHash password phase) :
    Abstains party state { state.close closes stamp with tasks := tasks } where
  accepted := rfl
  staffInvite := by
    intro invite member _
    obtain ⟨old, oldMember, same⟩ := exists_of_stamped (StaffInvite.revoke stamp)
      (fun invite : StaffInvite => (invite.id, invite.acceptedAt)) (fun _ => rfl) member
    exact ⟨old, oldMember, Prod.mk.inj same⟩
  db := fun tokenHash password phase runs => absurd runs (busy tokenHash password phase)

/-- A step commits an acceptance, or none. -/
theorem TeamSafe.accepts_or_abstains (safe : TeamSafe state)
    (step : TeamStep compare state party after) :
    (∃ tx account, after.tasks party = .answered (.accepted account.userId tx.spent.tenantId) ∧
        AcceptsInvite tx account state after) ∨
      Abstains party state after := by
  have sound := safe.tasks party
  have creating : ∀ draft phase, state.tasks party = .creating draft phase →
      ∀ tokenHash password phase, state.tasks party ≠ .accepting tokenHash password phase := by
    intro draft phase runs tokenHash password other accepting
    rw [runs] at accepting
    cases accepting
  have idle : state.tasks party = .idle →
      ∀ tokenHash password phase, state.tasks party ≠ .accepting tokenHash password phase := by
    intro runs tokenHash password phase accepting
    rw [runs] at accepting
    cases accepting
  cases step with
  | supersede draft since began stamp runs begins free =>
    exact Or.inr (.close stamp _ (creating _ _ runs))
  | undo draft inviteId stamp runs free => exact Or.inr (.close stamp _ (creating _ _ runs))
  | revoke tenantId inviteId stamp runs free =>
    exact Or.inr (.close stamp state.tasks (idle runs))
  | commitInvite draft invite runs =>
    rw [runs] at sound
    refine Or.inr ⟨rfl, fun other member accepted => ?_, fun tokenHash password phase accepting =>
      absurd accepting (creating _ _ runs tokenHash password phase)⟩
    rcases List.mem_append.mp member with old | new
    · exact ⟨other, old, rfl, rfl⟩
    · rw [List.mem_singleton.mp new] at accepted
      exact absurd sound.1.1.1 accepted
  | removeStaff tenantId userId runs seat invites =>
    refine Or.inr ⟨rfl, fun other member _ => ⟨other, ?_, rfl, rfl⟩,
      fun tokenHash password phase accepting =>
        absurd accepting (idle runs tokenHash password phase)⟩
    by_cases staff : (⟨userId, tenantId, .staff⟩ : Membership) ∈ state.db.membership
    · simp only [TeamDb.removeStaff, if_pos staff] at member
      exact (List.mem_filter.mp member).1
    · simp only [TeamDb.removeStaff, if_neg staff] at member
      exact member
  | accountLost tokenHash password tx userId stamp runs decided lost =>
    rw [runs] at sound
    exact absurd sound.2 lost
  | commitAccept tokenHash password tx account seat assigned stamp runs =>
    rw [runs] at sound
    exact Or.inl ⟨tx, account, Function.update_self .., safe.accepts sound⟩
  | commitUngranted tokenHash password tx account seat stamp runs ungranted =>
    rw [runs] at sound
    exact Or.inl ⟨tx, account, Function.update_self ..,
      safe.accepts ⟨sound, assignedSound_nil ungranted⟩⟩
  | _ => exact Or.inr (.same rfl rfl)

/-- An invite that is closed stays as it is. -/
theorem TeamSafe.closed_stays (safe : TeamSafe state) (step : TeamStep compare state party after)
    {invite : StaffInvite} (stored : invite ∈ state.db.staffInvite) (closed : ¬ invite.Open) :
    ∀ later ∈ after.db.staffInvite, later.id = invite.id → later = invite := by
  have sound := safe.tasks party
  have stays : ∀ later ∈ state.db.staffInvite, later.id = invite.id → later = invite :=
    fun later member same => Table.eq_of_key safe.invites member stored same
  have stamped : ∀ (condition : StaffInvite → Prop) [DecidablePred condition]
      (stamped : StaffInvite → StaffInvite), (∀ row, (stamped row).id = row.id) →
      ¬ condition invite →
      ∀ later ∈ Table.updateWhere condition stamped state.db.staffInvite,
        later.id = invite.id → later = invite := by
    intro condition _ stamped kept unmatched later member same
    obtain ⟨source, sourceMember, rfl⟩ := Table.mem_updateWhere.mp member
    have isInvite : source = invite := by
      refine stays source sourceMember ?_
      rw [← same]
      by_cases matched : condition source
      · rw [if_pos matched, kept]
      · rw [if_neg matched]
    rw [isInvite, if_neg unmatched]
  have unspent : ∀ {tx : AcceptTx}, tx.Sound state → ¬ invite.id = tx.spent.id := by
    rintro tx ⟨spent, spendable, -⟩ matched
    rw [stays tx.spent spent matched.symm] at spendable
    exact closed spendable.1
  cases step with
  | supersede draft since began stamp runs begins free =>
    exact stamped _ _ (fun _ => rfl) fun matched => closed matched.2.2.1
  | undo draft inviteId stamp runs free =>
    exact stamped _ _ (fun _ => rfl) fun matched => closed matched.2.2
  | revoke tenantId inviteId stamp runs free =>
    exact stamped _ _ (fun _ => rfl) fun matched => closed matched.2.2
  | commitInvite draft other runs =>
    rw [runs] at sound
    intro later member same
    rcases List.mem_append.mp member with old | new
    · exact stays later old same
    · rw [List.mem_singleton.mp new] at same
      have drawn := safe.issued invite stored
      rw [← same] at drawn
      exact absurd drawn sound.1.2.2
  | removeStaff tenantId userId runs seat invites =>
    intro later member
    by_cases staff : (⟨userId, tenantId, .staff⟩ : Membership) ∈ state.db.membership
    · simp only [TeamDb.removeStaff, if_pos staff] at member
      exact stays later (List.mem_filter.mp member).1
    · simp only [TeamDb.removeStaff, if_neg staff] at member
      exact stays later member
  | accountLost tokenHash password tx userId stamp runs decided lost =>
    rw [runs] at sound
    exact absurd sound.2 lost
  | commitAccept tokenHash password tx account seat assigned stamp runs =>
    rw [runs] at sound
    exact stamped _ _ (fun _ => rfl) (unspent sound.1.1)
  | commitUngranted tokenHash password tx account seat stamp runs ungranted =>
    rw [runs] at sound
    exact stamped _ _ (fun _ => rfl) (unspent sound.1)
  | _ => exact stays

/-! ### A lone create -/

/-- The states one call of `create` leads to by itself. -/
inductive CreateRun (compare : String → String → Bool) (party : Nat) (draft : InviteDraft)
    (start : TeamState) : TeamState → Prop
  | start : CreateRun compare party draft start start
  | next {state after : TeamState} (earlier : CreateRun compare party draft start state)
      (runs : ∃ phase, state.tasks party = .creating draft phase)
      (step : TeamStep compare state party after) : CreateRun compare party draft start after

/-- What a lone `create` has found out when it stands at a task. -/
def FoundAlone (draft : InviteDraft) (start : TeamState) (db : TeamDb) : TeamTask → Prop
  | .creating _ .countingProperties | .creating _ .askingMember => db = start.db
  | .creating _ (.superseding since) => db = start.db ∧ start.now ≤ since
  | .creating _ (.askingLive _) | .creating _ .inserting =>
    ∀ invite ∈ db.staffInvite, invite.Open → invite.slot = (draft.tenantId, draft.email) →
      invite ∈ start.db.staffInvite ∧ start.now < invite.expiresAt
  | .answered .inviteAlreadyPending =>
    ∃ invite ∈ start.db.staffInvite, invite.LiveFor draft.tenantId draft.email start.now
  | _ => True

/-- An open invite of the slot, found alone, was live at the start. -/
theorem live_of_found {draft : InviteDraft} {start : TeamState} {db : TeamDb}
    (found : ∀ invite ∈ db.staffInvite, invite.Open →
      invite.slot = (draft.tenantId, draft.email) →
        invite ∈ start.db.staffInvite ∧ start.now < invite.expiresAt)
    {invite : StaffInvite} (stored : invite ∈ db.staffInvite) (isOpen : invite.Open)
    (slot : invite.slot = (draft.tenantId, draft.email)) :
    ∃ invite ∈ start.db.staffInvite, invite.LiveFor draft.tenantId draft.email start.now := by
  obtain ⟨member, unexpired⟩ := found invite stored isOpen slot
  obtain ⟨tenant, email⟩ := Prod.mk.inj slot
  exact ⟨invite, member, tenant, email, isOpen, unexpired⟩

theorem FoundAlone.step {draft : InviteDraft} {start : TeamState} (later : start.now ≤ state.now)
    (found : FoundAlone draft start state.db (state.tasks party))
    (runs : ∃ phase, state.tasks party = .creating draft phase)
    (step : TeamStep compare state party after) :
    start.now ≤ after.now ∧ FoundAlone draft start after.db (after.tasks party) := by
  obtain ⟨phase, running⟩ := runs
  rw [running] at found
  have put : ∀ task, FoundAlone draft start state.db task →
      FoundAlone draft start state.db ((state.put party task).tasks party) := by
    intro task holds
    show FoundAlone draft start state.db (Function.update state.tasks party task party)
    rw [Function.update_self]
    exact holds
  cases step with
  | tick instant forward =>
    refine ⟨later.trans forward, ?_⟩
    show FoundAlone draft start state.db (state.tasks party)
    rw [running]
    exact found
  | propertiesFound draft runs visible =>
    rw [running] at runs
    cases runs
    exact ⟨later, put _ found⟩
  | stranger draft runs stranger =>
    rw [running] at runs
    cases runs
    exact ⟨later, put _ ⟨found, later⟩⟩
  | supersede draft since began stamp runs begins free =>
    rw [running] at runs
    cases runs
    obtain ⟨same, since⟩ := found
    refine ⟨later, ?_⟩
    show FoundAlone draft start _ (Function.update state.tasks party _ party)
    rw [Function.update_self]
    intro invite member isOpen slot
    obtain ⟨old, unlapsed⟩ :=
      mem_stamped_open (StaffInvite.not_open_revoke stamp) member isOpen
    obtain ⟨tenant, email⟩ := Prod.mk.inj slot
    rw [same] at old
    refine ⟨old, lt_of_not_ge fun expired => unlapsed ?_⟩
    exact ⟨tenant, email, isOpen, expired.trans (since.trans begins.1)⟩
  | pending draft since began runs begins live =>
    rw [running] at runs
    cases runs
    obtain ⟨invite, stored, tenant, email, isOpen, -⟩ := live
    exact ⟨later, put _ (live_of_found found stored isOpen (Prod.ext tenant email))⟩
  | unclaimed draft since began runs begins none_ =>
    rw [running] at runs
    cases runs
    exact ⟨later, put _ found⟩
  | conflict draft holder runs stored holds free =>
    rw [running] at runs
    cases runs
    exact ⟨later, put _ (live_of_found found stored holds.1 holds.2)⟩
  | commitInvite draft invite runs =>
    refine ⟨later, ?_⟩
    show FoundAlone _ start _ (Function.update state.tasks party _ party)
    rw [Function.update_self]
    trivial
  | undo draft inviteId stamp runs free =>
    refine ⟨later, ?_⟩
    show FoundAlone _ start _ (Function.update state.tasks party _ party)
    rw [Function.update_self]
    trivial
  | propertyNotFound | emailTaken | insert | mailed | unmailed | undoLost | listed | unlisted
    | fail | finish =>
    exact ⟨later, put _ trivial⟩
  | invite draft runs | revoke _ _ _ runs _ | removeStaff _ _ runs _ _ | accept _ _ runs =>
    rw [running] at runs
    cases runs
  | _ =>
    have accepting : state.tasks party = .accepting _ _ _ := ‹_›
    rw [running] at accepting
    cases accepting

/-- A lone `create` that is refused as already pending found an invite that was live when it
began. -/
theorem CreateRun.pending {draft : InviteDraft} {start : TeamState}
    (begins : start.tasks party = .creating draft .countingProperties)
    (run : CreateRun compare party draft start state)
    (refused : state.tasks party = .answered .inviteAlreadyPending) :
    ∃ invite ∈ start.db.staffInvite, invite.LiveFor draft.tenantId draft.email start.now := by
  have found : start.now ≤ state.now ∧ FoundAlone draft start state.db (state.tasks party) := by
    clear refused
    induction run with
    | start =>
      refine ⟨le_refl _, ?_⟩
      rw [begins]
      exact rfl
    | next _ runs step inductionHypothesis =>
      exact inductionHypothesis.2.step inductionHypothesis.1 runs step
  have answer := found.2
  rw [refused] at answer
  exact answer

/-! ### Every run -/

/-- Whatever creations, acceptances, revocations and removals run side by side, as time passes: no
invite is accepted twice, and two open invites never share a tenant and an address. A step commits
an acceptance of a live invite, with its seat and its assignments, or accepts no invite and, where
it is of an acceptance, changes nothing; what is closed stays as it is. And a `create` that runs
alone is refused as already pending only where a live invite stands. The comparison of passwords is
any function, and the tables at the start satisfy their constraints with no call under way. -/
theorem invite_lifecycle {start : TeamState} (fresh : start.Fresh)
    (run : TeamRun compare start state) :
    state.accepted.Nodup ∧
      (∀ first ∈ state.db.staffInvite, ∀ second ∈ state.db.staffInvite, first.Open →
        second.Open → first.tenantId = second.tenantId → first.email = second.email →
          first = second) ∧
      (∀ party after, TeamStep compare state party after →
        ((∃ tx account,
            after.tasks party = .answered (.accepted account.userId tx.spent.tenantId) ∧
              AcceptsInvite tx account state after) ∨
          Abstains party state after) ∧
        ∀ invite ∈ state.db.staffInvite, ¬ invite.Open →
          ∀ later ∈ after.db.staffInvite, later.id = invite.id → later = invite) ∧
      ∀ party draft later, state.tasks party = .creating draft .countingProperties →
        CreateRun compare party draft state later →
        later.tasks party = .answered .inviteAlreadyPending →
          ∃ invite ∈ state.db.staffInvite,
            invite.LiveFor draft.tenantId draft.email state.now := by
  have safe := run.safe fresh
  refine ⟨safe.accepted, ?_, ?_, fun party draft later begins alone => alone.pending begins⟩
  · exact fun first firstMember second secondMember firstOpen secondOpen tenant email =>
      safe.slots first firstMember second secondMember firstOpen secondOpen
        (Prod.ext tenant email)
  · exact fun party after step => ⟨safe.accepts_or_abstains step,
      fun invite stored closed => safe.closed_stays step stored closed⟩

/-- A tenant with one property, an owner, and one invite that lives until 1000. -/
def villaTeam : TeamState where
  now := 0
  db := {
    property := [⟨1, 7, "Villa", "Asia/Jakarta", 30, none⟩]
    staffInvite := [⟨9, 7, "sari@example.com", "hash-of-token", 1000, none, none, 5⟩]
    staffInviteProperty := [⟨9, 1, 7⟩]
    appUser := [⟨5, "owner@example.com", "hash:owner"⟩]
    membership := [⟨5, 7, .owner⟩]
    userProperty := [] }
  tasks := fun _ => .idle
  issued := [9]
  accepted := []

theorem villaTeam_fresh : villaTeam.Fresh where
  tasks := fun _ => rfl
  accepted := rfl
  issued := by decide
  properties := by decide
  invites := by decide
  slots := by decide
  grants := by decide
  seats := by decide
  assignments := by decide

/-- The state in which the invitee of the villa has been seated. -/
theorem villa_accept_runs : ∃ state, TeamRun hashMatches villaTeam state ∧
    state.accepted = [9] ∧ state.db.membership = [⟨5, 7, .owner⟩, ⟨6, 7, .staff⟩] ∧
    state.db.userProperty = [⟨6, 1, 7⟩] := by
  have free : ∀ task row, (villaTeam.put 0 task).FreeToTake 0 row := by
    intro task row other apart
    have idle : (villaTeam.put 0 task).tasks other = .idle := Function.update_of_ne apart _ _
    rw [idle]
    exact ⟨List.not_mem_nil, List.not_mem_nil⟩
  have runs : ∀ task, (villaTeam.put 0 task).tasks 0 = task := by
    intro task
    show Function.update villaTeam.tasks 0 task 0 = task
    rw [Function.update_self]
  have resolving := TeamRun.start.next
    (.accept "hash-of-token" "sari" rfl : TeamStep hashMatches villaTeam 0 _)
  have reading := resolving.next (.resolve _ _ _ (runs _) rfl)
  rw [TeamState.put_put] at reading
  have spending := reading.next (.readCreate _ _ _ _ (runs _) (by decide))
  rw [TeamState.put_put] at spending
  have locking := spending.next (.spend _ _ _ _ _ 0 (runs _) (by decide) List.mem_cons_self
    (by decide) (free _ _))
  rw [TeamState.put_put] at locking
  have seating := locking.next (.createAccount _ _ "hash:sari" _ 6 (runs _) (by decide) (free _ _)
    (by decide) (free _ _) (by decide))
  rw [TeamState.put_put] at seating
  have assigning := seating.next (.seat _ _ _ _ (runs _) (by decide))
  rw [TeamState.put_put] at assigning
  have committing := assigning.next (.assign _ _ _ _ _ (runs _) (by decide)
    fun other apart => (free _ _ other apart).1)
  rw [TeamState.put_put] at committing
  exact ⟨_, committing.next (.commitAccept _ _ _ _ _ _ 0 (runs _)), rfl, rfl, rfl⟩

/-- The villa's invite is accepted, once, and its invitee assigned its property. -/
theorem villa_invite_accepted : ∃ state, TeamRun hashMatches villaTeam state ∧
    state.accepted = [9] ∧ state.accepted.Nodup ∧ state.db.userProperty = [⟨6, 1, 7⟩] := by
  obtain ⟨state, run, accepted, -, assigned⟩ := villa_accept_runs
  exact ⟨state, run, accepted, (invite_lifecycle villaTeam_fresh run).1, assigned⟩

end Sambung
