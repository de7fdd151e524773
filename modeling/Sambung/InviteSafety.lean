/-
This file proves what holds of the invites, accounts and seats in every state that
calls of the invite lifecycle lead to, whatever their order.

A call may rely on the rows it holds: no step of another party touches them. So an
invite that a transaction has spent is still open when it commits, the slot of an
invite under way stays free, and an account that was found without a seat still
has none.

The invariant has three parts: the tables are in order, the locks are respected,
and every call under way is sound. `Keeps` is what a step of another party leaves
of the rows a call holds, and one transfer lemma for each kind of knowledge shows
that it is enough. A step is then checked twice, once for the call that makes it
and once, through `Keeps`, for all others; the cases of the step are those of the
source's statements.
-/

import Sambung.Invites

namespace Sambung

/-! ### What a call may rely on -/

/-- The invite a transaction has spent stands as it was then. -/
def AcceptTx.Sound (state : TeamState) (tx : AcceptTx) : Prop :=
  tx.spent ∈ state.db.staffInvite ∧ tx.spent.Spendable tx.began ∧ tx.began ≤ state.now

/-- What holds of the account a transaction is about to seat. -/
def AccountWrite.Sound (db : TeamDb) (tx : AcceptTx) : AccountWrite → Prop
  | .created user => ∀ row ∈ db.appUser, row.id ≠ user.id
  | .reclaimed userId _ =>
    (∃ row ∈ db.appUser, row.id = userId) ∧ ∀ seat ∈ db.membership, seat.appUserId ≠ userId
  | .verified userId =>
    (∃ row ∈ db.appUser, row.id = userId) ∧ tx.verifiedUserId = some userId

/-- The seat a transaction adds is a staff seat nobody holds. -/
def SeatSound (db : TeamDb) (tx : AcceptTx) (account : AccountWrite) (seat : Option Membership) :
    Prop :=
  ∀ added ∈ seat, added = ⟨account.userId, tx.spent.tenantId, .staff⟩ ∧
    ∀ held ∈ db.membership,
      ¬ (held.appUserId = account.userId ∧ held.tenantId = tx.spent.tenantId)

/-- The assignments a transaction adds are grants of its invite, and leave none out. -/
def AssignedSound (db : TeamDb) (tx : AcceptTx) (account : AccountWrite)
    (assigned : List UserProperty) : Prop :=
  (∀ row ∈ assigned, row.appUserId = account.userId ∧
      ∃ grant ∈ db.staffInviteProperty, grant.inviteId = tx.spent.id ∧
        grant.propertyId = row.propertyId ∧ grant.tenantId = row.tenantId) ∧
    ∀ grant ∈ db.staffInviteProperty, grant.inviteId = tx.spent.id →
      (⟨account.userId, grant.propertyId, grant.tenantId⟩ : UserProperty) ∈
        db.userProperty ++ assigned

def AcceptPhase.Sound (state : TeamState) : AcceptPhase → Prop
  | .locking tx => tx.Sound state
  | .deciding tx userId => tx.Sound state ∧ ∃ row ∈ state.db.appUser, row.id = userId
  | .seating tx account => tx.Sound state ∧ account.Sound state.db tx
  | .assigning tx account seat =>
    tx.Sound state ∧ account.Sound state.db tx ∧ SeatSound state.db tx account seat
  | .committing tx account seat assigned =>
    (tx.Sound state ∧ account.Sound state.db tx ∧ SeatSound state.db tx account seat) ∧
      AssignedSound state.db tx account assigned
  | _ => True

def CreatePhase.Sound (state : TeamState) (draft : InviteDraft) : CreatePhase → Prop
  | .inserted invite =>
    (invite.Open ∧ invite.tenantId = draft.tenantId ∧ invite.id ∉ state.issued) ∧
      (∀ row ∈ state.db.staffInvite, row.Open → row.slot ≠ invite.slot) ∧
        ∀ propertyId ∈ draft.grants, ∃ property ∈ state.db.property,
          property.id = propertyId ∧ property.tenantId = draft.tenantId
  | _ => True

/-- What holds of a call as long as it runs. -/
def TeamTask.Sound (state : TeamState) : TeamTask → Prop
  | .creating draft phase => phase.Sound state draft
  | .accepting _ _ phase => phase.Sound state
  | _ => True

/-- What holds of the tables between any two steps. -/
structure TeamTables (state : TeamState) : Prop where
  issued : ∀ invite ∈ state.db.staffInvite, invite.id ∈ state.issued
  properties : (state.db.property.map Property.id).Nodup
  invites : (state.db.staffInvite.map StaffInvite.id).Nodup
  slots : ∀ first ∈ state.db.staffInvite, ∀ second ∈ state.db.staffInvite, first.Open →
    second.Open → first.slot = second.slot → first = second
  grants : ∀ grant ∈ state.db.staffInviteProperty,
    (∃ invite ∈ state.db.staffInvite, invite.id = grant.inviteId ∧
      invite.tenantId = grant.tenantId) ∧
    ∃ property ∈ state.db.property, property.id = grant.propertyId ∧
      property.tenantId = grant.tenantId
  seats : ∀ seat ∈ state.db.membership, ∃ user ∈ state.db.appUser, user.id = seat.appUserId
  assignments : ∀ row ∈ state.db.userProperty, ∃ property ∈ state.db.property,
    property.id = row.propertyId ∧ property.tenantId = row.tenantId
  accepted : state.accepted.Nodup
  acceptedIssued : ∀ id ∈ state.accepted, id ∈ state.issued
  acceptedStored : ∀ invite ∈ state.db.staffInvite, invite.id ∈ state.accepted →
    invite.acceptedAt ≠ none

/-- The tables are in order, the locks are respected, and every call is sound: the invariant of the
lifecycle, kept by every step of any party. -/
structure TeamSafe (state : TeamState) : Prop extends TeamTables state where
  respected : Locks.Respected TeamTask.Takes TeamTask.Shares state.tasks
  tasks : ∀ party, (state.tasks party).Sound state

/-! ### What a call's rows are kept from -/

/-- What a step of another party leaves of the rows a call holds. -/
structure Keeps (task : TeamTask) (before after : TeamState) : Prop where
  now : before.now ≤ after.now
  property : after.db.property = before.db.property
  invite : ∀ row ∈ before.db.staffInvite, .invite row.id ∈ task.held → row ∈ after.db.staffInvite
  slot : ∀ row ∈ after.db.staffInvite, row.Open → .slot row.slot ∈ task.held →
    row ∈ before.db.staffInvite
  issued : ∀ id ∈ after.issued, .invite id ∈ task.held → id ∈ before.issued
  account : ∀ row ∈ after.db.appUser, .account row.id ∈ task.held →
    ∃ old ∈ before.db.appUser, old.id = row.id
  accountKept : ∀ row ∈ before.db.appUser, ∃ kept ∈ after.db.appUser, kept.id = row.id
  seat : ∀ seat ∈ after.db.membership, .account seat.appUserId ∈ task.held →
    seat ∈ before.db.membership
  grant : ∀ grant : StaffInviteProperty, .invite grant.inviteId ∈ task.held →
    (grant ∈ after.db.staffInviteProperty ↔ grant ∈ before.db.staffInviteProperty)
  assignment : ∀ row ∈ before.db.userProperty,
    .seat row.appUserId row.tenantId ∈ task.shared → row ∈ after.db.userProperty

theorem AccountWrite.account_held (account : AccountWrite) :
    TeamRow.account account.userId ∈ account.held := by
  cases account <;> exact List.mem_cons_self

section Transfer

variable {before after : TeamState} {tx : AcceptTx} {account : AccountWrite}

theorem AcceptTx.Sound.transfer (sound : tx.Sound before) {task : TeamTask}
    (keeps : Keeps task before after) (held : .invite tx.spent.id ∈ task.held) :
    tx.Sound after :=
  ⟨keeps.invite _ sound.1 held, sound.2.1, sound.2.2.trans keeps.now⟩

theorem AccountWrite.Sound.transfer (sound : account.Sound before.db tx) {task : TeamTask}
    (keeps : Keeps task before after) (held : .account account.userId ∈ task.held) :
    account.Sound after.db tx := by
  cases account with
  | created user =>
    intro row member same
    have rowHeld : .account row.id ∈ task.held := by
      rw [same]
      exact held
    obtain ⟨old, oldMember, oldId⟩ := keeps.account row member rowHeld
    exact sound old oldMember (oldId.trans same)
  | reclaimed userId passwordHash =>
    obtain ⟨⟨row, member, rowId⟩, unseated⟩ := sound
    obtain ⟨kept, keptMember, keptId⟩ := keeps.accountKept row member
    refine ⟨⟨kept, keptMember, keptId.trans rowId⟩, ?_⟩
    intro seat seatMember same
    have seatHeld : .account seat.appUserId ∈ task.held := by
      rw [same]
      exact held
    exact unseated seat (keeps.seat seat seatMember seatHeld) same
  | verified userId =>
    obtain ⟨⟨row, member, rowId⟩, verified⟩ := sound
    obtain ⟨kept, keptMember, keptId⟩ := keeps.accountKept row member
    exact ⟨⟨kept, keptMember, keptId.trans rowId⟩, verified⟩

theorem SeatSound.transfer {seat : Option Membership}
    (sound : SeatSound before.db tx account seat) {task : TeamTask}
    (keeps : Keeps task before after) (held : .account account.userId ∈ task.held) :
    SeatSound after.db tx account seat := by
  intro added isAdded
  obtain ⟨same, vacant⟩ := sound added isAdded
  refine ⟨same, fun other member sits => ?_⟩
  have otherHeld : .account other.appUserId ∈ task.held := by
    rw [sits.1]
    exact held
  exact vacant other (keeps.seat other member otherHeld) sits

theorem AssignedSound.transfer {assigned : List UserProperty}
    (tables : TeamTables before) (spent : tx.spent ∈ before.db.staffInvite)
    (sound : AssignedSound before.db tx account assigned) {task : TeamTask}
    (keeps : Keeps task before after) (held : .invite tx.spent.id ∈ task.held)
    (shared : .seat account.userId tx.spent.tenantId ∈ task.shared) :
    AssignedSound after.db tx account assigned := by
  have same : ∀ grant : StaffInviteProperty, grant.inviteId = tx.spent.id →
      (grant ∈ after.db.staffInviteProperty ↔ grant ∈ before.db.staffInviteProperty) := by
    intro grant ofInvite
    refine keeps.grant grant ?_
    rw [ofInvite]
    exact held
  refine ⟨fun row member => ?_, fun grant member ofInvite => ?_⟩
  · obtain ⟨user, grant, grantMember, ofInvite, rest⟩ := sound.1 row member
    exact ⟨user, grant, (same grant ofInvite).mpr grantMember, ofInvite, rest⟩
  · have stored := (same grant ofInvite).mp member
    rcases List.mem_append.mp (sound.2 grant stored ofInvite) with old | new
    · obtain ⟨invite, inviteMember, inviteId, tenant⟩ := (tables.grants grant stored).1
      have isSpent : invite = tx.spent :=
        Table.eq_of_key tables.invites inviteMember spent (inviteId.trans ofInvite)
      refine List.mem_append_left _ (keeps.assignment _ old ?_)
      show TeamRow.seat account.userId grant.tenantId ∈ task.shared
      rw [← tenant, isSpent]
      exact shared
    · exact List.mem_append_right _ new

/-- A sound call stays sound under steps that leave its rows alone. -/
theorem TeamTask.Sound.transfer {task : TeamTask} (tables : TeamTables before)
    (sound : task.Sound before) (keeps : Keeps task before after) : task.Sound after := by
  cases task with
  | idle => trivial
  | answered answer => trivial
  | creating draft phase =>
    cases phase with
    | inserted invite =>
      obtain ⟨⟨isOpen, tenant, undrawn⟩, unheld, properties⟩ := sound
      have inviteHeld : TeamRow.invite invite.id ∈
          (TeamTask.creating draft (.inserted invite)).held := List.mem_cons_self
      have slotHeld : TeamRow.slot invite.slot ∈
          (TeamTask.creating draft (.inserted invite)).held :=
        List.mem_cons_of_mem _ List.mem_cons_self
      refine ⟨⟨isOpen, tenant, fun drawn => undrawn (keeps.issued _ drawn inviteHeld)⟩, ?_, ?_⟩
      · intro row member rowOpen same
        have rowHeld : TeamRow.slot row.slot ∈
            (TeamTask.creating draft (.inserted invite)).held := by
          rw [same]
          exact slotHeld
        exact unheld row (keeps.slot row member rowOpen rowHeld) rowOpen same
      · rw [keeps.property]
        exact properties
    | _ => trivial
  | accepting tokenHash password phase =>
    cases phase with
    | locking tx => exact AcceptTx.Sound.transfer sound keeps List.mem_cons_self
    | deciding tx userId =>
      obtain ⟨txSound, row, member, rowId⟩ := sound
      obtain ⟨kept, keptMember, keptId⟩ := keeps.accountKept row member
      exact ⟨txSound.transfer keeps List.mem_cons_self, kept, keptMember, keptId.trans rowId⟩
    | seating tx account =>
      exact ⟨sound.1.transfer keeps List.mem_cons_self,
        sound.2.transfer keeps (List.mem_cons_of_mem _ account.account_held)⟩
    | assigning tx account seat =>
      have held := List.mem_cons_of_mem (.invite tx.spent.id) account.account_held
      exact ⟨sound.1.transfer keeps List.mem_cons_self, sound.2.1.transfer keeps held,
        sound.2.2.transfer keeps held⟩
    | committing tx account seat assigned =>
      have held := List.mem_cons_of_mem (.invite tx.spent.id) account.account_held
      obtain ⟨⟨txSound, accountSound, seatSound⟩, assignedSound⟩ := sound
      exact ⟨⟨txSound.transfer keeps List.mem_cons_self, accountSound.transfer keeps held,
        seatSound.transfer keeps held⟩,
        assignedSound.transfer tables txSound.1 keeps List.mem_cons_self List.mem_cons_self⟩
    | _ => trivial

end Transfer

/-! ### Stamped invites -/

section Stamped

variable {condition : StaffInvite → Prop} [DecidablePred condition]
  {stamped : StaffInvite → StaffInvite} {rows : List StaffInvite}

theorem StaffInvite.not_open_revoke (stamp : Instant) (invite : StaffInvite) :
    ¬ (invite.revoke stamp).Open :=
  fun isOpen => Option.some_ne_none _ isOpen.2

theorem StaffInvite.not_open_accept (stamp : Instant) (invite : StaffInvite) :
    ¬ (invite.accept stamp).Open :=
  fun isOpen => Option.some_ne_none _ isOpen.1

/-- Where the new value is closed, an open invite was there before. -/
theorem mem_stamped_open (closed : ∀ row, ¬ (stamped row).Open) {row : StaffInvite}
    (member : row ∈ Table.updateWhere condition stamped rows) (isOpen : row.Open) :
    row ∈ rows ∧ ¬ condition row := by
  obtain ⟨source, sourceMember, same⟩ := Table.mem_updateWhere.mp member
  by_cases matched : condition source
  · rw [if_pos matched] at same
    rw [← same] at isOpen
    exact absurd isOpen (closed source)
  · rw [if_neg matched] at same
    rw [← same]
    exact ⟨sourceMember, matched⟩

/-- An invite is found after the update by the columns it keeps. -/
theorem exists_stamped (condition : StaffInvite → Prop) [DecidablePred condition]
    (stamped : StaffInvite → StaffInvite) {Column : Type} (column : StaffInvite → Column)
    (kept : ∀ row, column (stamped row) = column row) {row : StaffInvite} (member : row ∈ rows) :
    ∃ later ∈ Table.updateWhere condition stamped rows, column later = column row := by
  refine ⟨if condition row then stamped row else row,
    Table.mem_updateWhere.mpr ⟨row, member, rfl⟩, ?_⟩
  by_cases matched : condition row
  · rw [if_pos matched, kept]
  · rw [if_neg matched]

/-- An invite after the update was there before, by the columns it keeps. -/
theorem exists_of_stamped (stamped : StaffInvite → StaffInvite) {Column : Type}
    (column : StaffInvite → Column) (kept : ∀ row, column (stamped row) = column row)
    {row : StaffInvite}
    (member : row ∈ Table.updateWhere condition stamped rows) :
    ∃ old ∈ rows, column old = column row := by
  obtain ⟨source, sourceMember, same⟩ := Table.mem_updateWhere.mp member
  refine ⟨source, sourceMember, ?_⟩
  rw [← same]
  by_cases matched : condition source
  · rw [if_pos matched, kept]
  · rw [if_neg matched]

end Stamped

/-! ### Steps of other parties -/

/-- A step that changes no table and draws no id. -/
theorem Keeps.same {task : TeamTask} {before after : TeamState} (now : before.now ≤ after.now)
    (db : after.db = before.db) (issued : after.issued = before.issued) :
    Keeps task before after := by
  obtain ⟨_, _, _, _, _⟩ := after
  cases db
  cases issued
  exact ⟨now, rfl, fun row member _ => member, fun row member _ _ => member,
    fun id member _ => member, fun row member _ => ⟨row, member, rfl⟩,
    fun row member => ⟨row, member, rfl⟩, fun seat member _ => member, fun grant _ => Iff.rfl,
    fun row member _ => member⟩

/-- Invites are closed that the call does not hold. -/
theorem Keeps.close {task : TeamTask} {state : TeamState} {closes : StaffInvite → Prop}
    [DecidablePred closes] (stamp : Instant)
    (apart : ∀ invite ∈ state.db.staffInvite, closes invite → .invite invite.id ∉ task.held) :
    Keeps task state (state.close closes stamp) where
  now := le_refl _
  property := rfl
  invite := by
    intro row member held
    exact Table.mem_updateWhere.mpr
      ⟨row, member, if_neg fun matched => apart row member matched held⟩
  slot := by
    intro row member isOpen _
    exact (mem_stamped_open (StaffInvite.not_open_revoke stamp) member isOpen).1
  issued := fun id member _ => member
  account := fun row member _ => ⟨row, member, rfl⟩
  accountKept := fun row member => ⟨row, member, rfl⟩
  seat := fun seat member _ => member
  grant := fun grant _ => Iff.rfl
  assignment := fun row member _ => member

/-- An invite is inserted whose id and slot the call does not hold. -/
theorem Keeps.commitInvite {task next : TeamTask} {state : TeamState} {party : Nat}
    {draft : InviteDraft} {invite : StaffInvite} (row : .invite invite.id ∉ task.held)
    (slot : .slot invite.slot ∉ task.held) :
    Keeps task state { state with
      db := { state.db with
        staffInvite := state.db.staffInvite ++ [invite]
        staffInviteProperty := state.db.staffInviteProperty ++
          draft.inviteProperties invite.id }
      tasks := Function.update state.tasks party next
      issued := state.issued ++ [invite.id] } where
  now := le_refl _
  property := rfl
  invite := fun row member _ => List.mem_append_left _ member
  slot := by
    intro other member _ held
    rcases List.mem_append.mp member with old | new
    · exact old
    · rw [List.mem_singleton.mp new] at held
      exact absurd held slot
  issued := by
    intro id member held
    rcases List.mem_append.mp member with old | new
    · exact old
    · rw [List.mem_singleton.mp new] at held
      exact absurd held row
  account := fun row member _ => ⟨row, member, rfl⟩
  accountKept := fun row member => ⟨row, member, rfl⟩
  seat := fun seat member _ => member
  grant := by
    intro grant held
    refine ⟨fun member => ?_, fun member => List.mem_append_left _ member⟩
    rcases List.mem_append.mp member with old | new
    · exact old
    · obtain ⟨propertyId, -, rfl⟩ := List.mem_map.mp new
      exact absurd held row
  assignment := fun row member _ => member

theorem AccountWrite.mem_apply {users : List AppUser} {account : AccountWrite} {row : AppUser}
    (member : row ∈ account.apply users) :
    (∃ old ∈ users, old.id = row.id) ∨ account = .created row := by
  cases account with
  | created user =>
    rcases List.mem_append.mp member with old | new
    · exact Or.inl ⟨row, old, rfl⟩
    · rw [List.mem_singleton.mp new]
      exact Or.inr rfl
  | reclaimed userId passwordHash =>
    obtain ⟨source, sourceMember, same⟩ := Table.mem_updateWhere.mp member
    refine Or.inl ⟨source, sourceMember, ?_⟩
    rw [← same]
    split <;> rfl
  | verified userId => exact Or.inl ⟨row, member, rfl⟩

theorem AccountWrite.exists_apply {users : List AppUser} (account : AccountWrite) {row : AppUser}
    (member : row ∈ users) : ∃ kept ∈ account.apply users, kept.id = row.id := by
  cases account with
  | created user => exact ⟨row, List.mem_append_left _ member, rfl⟩
  | reclaimed userId passwordHash =>
    refine ⟨_, Table.mem_updateWhere.mpr ⟨row, member, rfl⟩, ?_⟩
    split <;> rfl
  | verified userId => exact ⟨row, member, rfl⟩

/-- An acceptance commits whose invite and account the call does not hold. -/
theorem Keeps.accept {task next : TeamTask} {state : TeamState} {party : Nat} {tx : AcceptTx}
    {account : AccountWrite} {seat : Option Membership} {assigned : List UserProperty}
    {stamp : Instant} (seatSound : SeatSound state.db tx account seat)
    (row : .invite tx.spent.id ∉ task.held) (user : ∀ row ∈ account.held, row ∉ task.held) :
    Keeps task state { state with
      db := state.db.accept tx.spent.id stamp account seat assigned
      tasks := Function.update state.tasks party next
      accepted := state.accepted ++ [tx.spent.id] } where
  now := le_refl _
  property := rfl
  invite := by
    intro other member held
    refine Table.mem_updateWhere.mpr ⟨other, member, if_neg fun matched => ?_⟩
    rw [matched] at held
    exact row held
  slot := by
    intro other member isOpen _
    exact (mem_stamped_open (StaffInvite.not_open_accept stamp) member isOpen).1
  issued := fun id member _ => member
  account := by
    intro other member held
    rcases AccountWrite.mem_apply member with old | rfl
    · exact old
    · exact absurd held (user _ List.mem_cons_self)
  accountKept := fun row member => account.exists_apply member
  seat := by
    intro other member held
    rcases List.mem_append.mp member with old | new
    · exact old
    · rw [(seatSound other (Option.mem_toList.mp new)).1] at held
      exact absurd held (user _ account.account_held)
  grant := fun grant _ => Iff.rfl
  assignment := fun row member _ => List.mem_append_left _ member

/-- A staff member goes whose seat the call does not share and whose invites it does not hold. -/
theorem Keeps.removeStaff {task : TeamTask} {state : TeamState} {tenantId userId : Uuid}
    (seat : .seat userId tenantId ∉ task.shared)
    (invites : ∀ invite ∈ state.db.staffInvite, invite.createdBy = userId →
      invite.tenantId = tenantId → .invite invite.id ∉ task.held) :
    Keeps task state { state with db := state.db.removeStaff tenantId userId } := by
  by_cases staff : (⟨userId, tenantId, .staff⟩ : Membership) ∈ state.db.membership
  · have held : ∀ id, .invite id ∈ task.held →
        id ∉ (state.db.staffInvite.filter fun invite =>
          invite.createdBy = userId ∧ invite.tenantId = tenantId).map StaffInvite.id := by
      intro id isHeld gone
      obtain ⟨invite, member, rfl⟩ := List.mem_map.mp gone
      obtain ⟨stored, theirs⟩ := List.mem_filter.mp member
      rw [decide_eq_true_eq] at theirs
      exact invites invite stored theirs.1 theirs.2 isHeld
    simp only [TeamDb.removeStaff, if_pos staff]
    constructor
    · exact le_refl _
    · rfl
    · intro row member isHeld
      exact List.mem_filter.mpr ⟨member, decide_eq_true (held row.id isHeld)⟩
    · exact fun row member _ _ => (List.mem_filter.mp member).1
    · exact fun id member _ => member
    · exact fun row member _ => ⟨row, member, rfl⟩
    · exact fun row member => ⟨row, member, rfl⟩
    · exact fun row member _ => (List.mem_filter.mp member).1
    · intro grant isHeld
      refine ⟨fun member => (List.mem_filter.mp member).1, fun member => ?_⟩
      exact List.mem_filter.mpr ⟨member, decide_eq_true (held grant.inviteId isHeld)⟩
    · intro row member isShared
      refine List.mem_filter.mpr ⟨member, decide_eq_true fun theirs => seat ?_⟩
      rw [theirs.1, theirs.2] at isShared
      exact isShared
  · refine Keeps.same (le_refl _) ?_ rfl
    show state.db.removeStaff tenantId userId = state.db
    rw [TeamDb.removeStaff, if_neg staff]

/-! ### The tables after a step -/

theorem TeamTables.close {state : TeamState} (tables : TeamTables state)
    (closes : StaffInvite → Prop) [DecidablePred closes] (stamp : Instant) :
    TeamTables (state.close closes stamp) where
  issued := by
    intro invite member
    obtain ⟨old, oldMember, same⟩ :=
      exists_of_stamped (StaffInvite.revoke stamp) StaffInvite.id (fun _ => rfl) member
    rw [← same]
    exact tables.issued old oldMember
  properties := tables.properties
  invites := by
    have ids : (state.close closes stamp).db.staffInvite.map StaffInvite.id =
        state.db.staffInvite.map StaffInvite.id := Table.map_updateWhere _ fun _ _ => rfl
    rw [ids]
    exact tables.invites
  slots := by
    intro first firstMember second secondMember firstOpen secondOpen same
    have closed := StaffInvite.not_open_revoke stamp
    exact tables.slots first (mem_stamped_open closed firstMember firstOpen).1 second
      (mem_stamped_open closed secondMember secondOpen).1 firstOpen secondOpen same
  grants := by
    intro grant member
    obtain ⟨⟨invite, inviteMember, id, tenant⟩, property⟩ := tables.grants grant member
    obtain ⟨later, laterMember, same⟩ := exists_stamped closes
      (StaffInvite.revoke stamp) (fun invite : StaffInvite => (invite.id, invite.tenantId))
      (fun _ => rfl) inviteMember
    obtain ⟨sameId, sameTenant⟩ := Prod.mk.inj same
    exact ⟨⟨later, laterMember, sameId.trans id, sameTenant.trans tenant⟩, property⟩
  seats := tables.seats
  assignments := tables.assignments
  accepted := tables.accepted
  acceptedIssued := tables.acceptedIssued
  acceptedStored := by
    intro invite member accepted
    obtain ⟨old, oldMember, same⟩ := exists_of_stamped (StaffInvite.revoke stamp)
      (fun invite : StaffInvite => (invite.id, invite.acceptedAt)) (fun _ => rfl) member
    obtain ⟨sameId, sameStamp⟩ := Prod.mk.inj same
    rw [← sameStamp]
    refine tables.acceptedStored old oldMember ?_
    rw [sameId]
    exact accepted

theorem TeamTables.commitInvite {state : TeamState} (tables : TeamTables state)
    {draft : InviteDraft} {invite : StaffInvite} (tasks : Nat → TeamTask)
    (sound : (CreatePhase.inserted invite).Sound state draft) :
    TeamTables { state with
      db := { state.db with
        staffInvite := state.db.staffInvite ++ [invite]
        staffInviteProperty := state.db.staffInviteProperty ++
          draft.inviteProperties invite.id }
      tasks := tasks
      issued := state.issued ++ [invite.id] } := by
  obtain ⟨⟨isOpen, tenant, undrawn⟩, unheld, properties⟩ := sound
  constructor
  · intro other member
    rcases List.mem_append.mp member with old | new
    · exact List.mem_append_left _ (tables.issued other old)
    · rw [List.mem_singleton.mp new]
      exact List.mem_append_right _ List.mem_cons_self
  · exact tables.properties
  · refine Table.nodup_map_append tables.invites fun stored => ?_
    obtain ⟨other, member, same⟩ := List.mem_map.mp stored
    rw [← same] at undrawn
    exact undrawn (tables.issued other member)
  · intro first firstMember second secondMember firstOpen secondOpen same
    rcases List.mem_append.mp firstMember with firstOld | firstNew
    · rcases List.mem_append.mp secondMember with secondOld | secondNew
      · exact tables.slots first firstOld second secondOld firstOpen secondOpen same
      · rw [List.mem_singleton.mp secondNew] at same
        exact absurd same (unheld first firstOld firstOpen)
    · rw [List.mem_singleton.mp firstNew] at same ⊢
      rcases List.mem_append.mp secondMember with secondOld | secondNew
      · exact absurd same.symm (unheld second secondOld secondOpen)
      · exact (List.mem_singleton.mp secondNew).symm
  · intro grant member
    rcases List.mem_append.mp member with old | new
    · obtain ⟨⟨other, otherMember, holds⟩, property⟩ := tables.grants grant old
      exact ⟨⟨other, List.mem_append_left _ otherMember, holds⟩, property⟩
    · obtain ⟨propertyId, granted, rfl⟩ := List.mem_map.mp new
      exact ⟨⟨invite, List.mem_append_right _ List.mem_cons_self, rfl, tenant⟩,
        properties propertyId granted⟩
  · exact tables.seats
  · exact tables.assignments
  · exact tables.accepted
  · exact fun id member => List.mem_append_left _ (tables.acceptedIssued id member)
  · intro other member accepted
    rcases List.mem_append.mp member with old | new
    · exact tables.acceptedStored other old accepted
    · rw [List.mem_singleton.mp new] at accepted
      exact absurd (tables.acceptedIssued _ accepted) undrawn

theorem AccountWrite.Sound.stored {db : TeamDb} {tx : AcceptTx} {account : AccountWrite}
    (sound : account.Sound db tx) : ∃ row ∈ account.apply db.appUser, row.id = account.userId := by
  cases account with
  | created user => exact ⟨user, List.mem_append_right _ List.mem_cons_self, rfl⟩
  | reclaimed userId passwordHash =>
    obtain ⟨row, member, same⟩ := sound.1
    obtain ⟨kept, keptMember, keptId⟩ :=
      (AccountWrite.reclaimed userId passwordHash).exists_apply member
    exact ⟨kept, keptMember, keptId.trans same⟩
  | verified userId => exact sound.1

theorem TeamTables.accept {state : TeamState} (tables : TeamTables state) {tx : AcceptTx}
    {account : AccountWrite} {seat : Option Membership} {assigned : List UserProperty}
    (stamp : Instant) (tasks : Nat → TeamTask)
    (sound : (AcceptPhase.committing tx account seat assigned).Sound state) :
    TeamTables { state with
      db := state.db.accept tx.spent.id stamp account seat assigned
      tasks := tasks
      accepted := state.accepted ++ [tx.spent.id] } := by
  obtain ⟨⟨⟨spent, spendable, -⟩, accountSound, seatSound⟩, assignedSound, -⟩ := sound
  constructor
  · intro invite member
    obtain ⟨old, oldMember, same⟩ :=
      exists_of_stamped (StaffInvite.accept stamp) StaffInvite.id (fun _ => rfl) member
    rw [← same]
    exact tables.issued old oldMember
  · exact tables.properties
  · have ids : (state.db.accept tx.spent.id stamp account seat assigned).staffInvite.map
        StaffInvite.id = state.db.staffInvite.map StaffInvite.id :=
      Table.map_updateWhere _ fun _ _ => rfl
    rw [ids]
    exact tables.invites
  · intro first firstMember second secondMember firstOpen secondOpen same
    have closed := StaffInvite.not_open_accept stamp
    exact tables.slots first (mem_stamped_open closed firstMember firstOpen).1 second
      (mem_stamped_open closed secondMember secondOpen).1 firstOpen secondOpen same
  · intro grant member
    obtain ⟨⟨invite, inviteMember, id, tenant⟩, property⟩ := tables.grants grant member
    obtain ⟨later, laterMember, same⟩ := exists_stamped (fun invite => invite.id = tx.spent.id)
      (StaffInvite.accept stamp) (fun invite : StaffInvite => (invite.id, invite.tenantId))
      (fun _ => rfl) inviteMember
    obtain ⟨sameId, sameTenant⟩ := Prod.mk.inj same
    exact ⟨⟨later, laterMember, sameId.trans id, sameTenant.trans tenant⟩, property⟩
  · intro other member
    rcases List.mem_append.mp member with old | new
    · obtain ⟨user, userMember, id⟩ := tables.seats other old
      obtain ⟨kept, keptMember, keptId⟩ := account.exists_apply userMember
      exact ⟨kept, keptMember, keptId.trans id⟩
    · rw [(seatSound other (Option.mem_toList.mp new)).1]
      exact accountSound.stored
  · intro row member
    rcases List.mem_append.mp member with old | new
    · exact tables.assignments row old
    · obtain ⟨-, grant, grantMember, -, propertyId, tenant⟩ := assignedSound row new
      rw [← propertyId, ← tenant]
      exact (tables.grants grant grantMember).2
  · rw [List.nodup_append]
    refine ⟨tables.accepted, List.nodup_singleton _, ?_⟩
    intro id member other same equal
    rw [List.mem_singleton.mp same] at equal
    rw [equal] at member
    exact tables.acceptedStored tx.spent spent member spendable.1.1
  · intro id member
    rcases List.mem_append.mp member with old | new
    · exact tables.acceptedIssued id old
    · rw [List.mem_singleton.mp new]
      exact tables.issued tx.spent spent
  · intro invite member accepted
    obtain ⟨source, sourceMember, same⟩ := Table.mem_updateWhere.mp member
    by_cases matched : source.id = tx.spent.id
    · rw [if_pos matched] at same
      rw [← same]
      exact Option.some_ne_none _
    · rw [if_neg matched] at same
      rw [← same] at accepted ⊢
      rcases List.mem_append.mp accepted with old | new
      · exact tables.acceptedStored source sourceMember old
      · exact absurd (List.mem_singleton.mp new) matched

theorem TeamTables.removeStaff {state : TeamState} (tables : TeamTables state)
    (tenantId userId : Uuid) :
    TeamTables { state with db := state.db.removeStaff tenantId userId } := by
  by_cases staff : (⟨userId, tenantId, .staff⟩ : Membership) ∈ state.db.membership
  · simp only [TeamDb.removeStaff, if_pos staff]
    constructor
    · exact fun invite member => tables.issued invite (List.mem_filter.mp member).1
    · exact tables.properties
    · exact tables.invites.sublist (List.filter_sublist.map _)
    · exact fun first firstMember second secondMember =>
        tables.slots first (List.mem_filter.mp firstMember).1 second
          (List.mem_filter.mp secondMember).1
    · intro grant member
      obtain ⟨stored, kept⟩ := List.mem_filter.mp member
      obtain ⟨⟨invite, inviteMember, id, tenant⟩, property⟩ := tables.grants grant stored
      refine ⟨⟨invite, List.mem_filter.mpr ⟨inviteMember, ?_⟩, id, tenant⟩, property⟩
      rw [id]
      exact kept
    · exact fun seat member => tables.seats seat (List.mem_filter.mp member).1
    · exact fun row member => tables.assignments row (List.mem_filter.mp member).1
    · exact tables.accepted
    · exact tables.acceptedIssued
    · exact fun invite member => tables.acceptedStored invite (List.mem_filter.mp member).1
  · have same : state.db.removeStaff tenantId userId = state.db := by
      rw [TeamDb.removeStaff, if_neg staff]
    rw [same]
    exact tables

/-! ### One step -/

section Step

variable {compare : String → String → Bool} {state after : TeamState} {party : Nat}

/-- What a party holds no other party holds. -/
theorem TeamSafe.apart (safe : TeamSafe state) {row : TeamRow}
    (held : row ∈ (state.tasks party).held) {other : Nat} (isOther : other ≠ party) :
    row ∉ (state.tasks other).held ∧ row ∉ (state.tasks other).shared :=
  safe.respected party other row isOther.symm held

/-- The calls after a party's step: its own call's next phase is sound, and the step leaves the
rows of the others alone. -/
theorem TeamSafe.advance (safe : TeamSafe state) (tables : TeamTables after) {task : TeamTask}
    (tasks : after.tasks = Function.update state.tasks party task) (sound : task.Sound after)
    (others : ∀ other, other ≠ party → Keeps (state.tasks other) state after)
    (takes : ∀ row ∈ task.held, row ∈ (state.tasks party).held ∨ state.FreeToTake party row)
    (shares : ∀ row ∈ task.shared,
      row ∈ (state.tasks party).shared ∨ state.FreeToShare party row) :
    TeamSafe after where
  toTeamTables := tables
  respected := by
    rw [tasks]
    exact safe.respected.update takes shares
  tasks := by
    intro other
    rw [tasks]
    by_cases same : other = party
    · rw [same, Function.update_self]
      exact sound
    · rw [Function.update_of_ne same]
      exact (safe.tasks other).transfer safe.toTeamTables (others other same)

/-- A call goes on and writes nothing. -/
theorem TeamSafe.put (safe : TeamSafe state) {task : TeamTask} (sound : task.Sound state)
    (takes : ∀ row ∈ task.held, row ∈ (state.tasks party).held ∨ state.FreeToTake party row)
    (shares : ∀ row ∈ task.shared,
      row ∈ (state.tasks party).shared ∨ state.FreeToShare party row) :
    TeamSafe (state.put party task) := by
  have unchanged : Keeps task state (state.put party task) := .same (le_refl _) rfl rfl
  exact safe.advance { safe.toTeamTables with } rfl (sound.transfer safe.toTeamTables unchanged)
    (fun other _ => .same (le_refl _) rfl rfl) takes shares

/-- A call goes on and holds nothing. -/
theorem TeamSafe.quiet (safe : TeamSafe state) {task : TeamTask} (sound : task.Sound state)
    (held : task.held = []) (shared : task.shared = []) : TeamSafe (state.put party task) := by
  refine safe.put sound (fun row member => ?_) fun row member => ?_
  · rw [held] at member
    exact absurd member List.not_mem_nil
  · rw [shared] at member
    exact absurd member List.not_mem_nil

/-- An acceptance goes on, taking a row more at most. -/
theorem TeamSafe.proceed (safe : TeamSafe state) {tokenHash password : String}
    {phase next : AcceptPhase} (runs : state.tasks party = .accepting tokenHash password phase)
    (sound : next.Sound state)
    (takes : ∀ row ∈ next.held, row ∈ phase.held ∨ state.FreeToTake party row)
    (shared : (TeamTask.accepting tokenHash password next).shared = []) :
    TeamSafe (state.put party (.accepting tokenHash password next)) := by
  refine safe.put sound (fun row member => ?_) fun row member => ?_
  · rw [runs]
    exact takes row member
  · rw [shared] at member
    exact absurd member List.not_mem_nil

/-- Invites are closed that no other party holds. -/
theorem TeamSafe.close (safe : TeamSafe state) {closes : StaffInvite → Prop}
    [DecidablePred closes] (stamp : Instant) {task : TeamTask}
    (free : ∀ invite ∈ state.db.staffInvite, closes invite →
      state.FreeToTake party (.invite invite.id))
    (sound : ∀ state, task.Sound state) (held : task.held = []) (shared : task.shared = []) :
    TeamSafe ((state.close closes stamp).put party task) := by
  have closed := safe.toTeamTables.close closes stamp
  refine safe.advance { closed with } rfl (sound _) (fun other isOther => ?_)
    (fun row member => ?_) fun row member => ?_
  · exact { Keeps.close stamp fun invite member matched =>
      (free invite member matched other isOther).1 with }
  · rw [held] at member
    exact absurd member List.not_mem_nil
  · rw [shared] at member
    exact absurd member List.not_mem_nil

/-- A party that goes on as it is. -/
theorem TeamState.put_self {task : TeamTask} (runs : state.tasks party = task) :
    state.put party task = state := by
  rw [TeamState.put, ← runs, Function.update_eq_self]

theorem TeamSafe.tick (safe : TeamSafe state) {later : Instant} (forward : state.now ≤ later) :
    TeamSafe { state with now := later } where
  toTeamTables := { safe.toTeamTables with }
  respected := safe.respected
  tasks := fun party =>
    (safe.tasks party).transfer safe.toTeamTables (.same forward rfl rfl)

theorem TeamSafe.commitInvite (safe : TeamSafe state) {draft : InviteDraft}
    {invite : StaffInvite} (runs : state.tasks party = .creating draft (.inserted invite)) :
    TeamSafe { state with
      db := { state.db with
        staffInvite := state.db.staffInvite ++ [invite]
        staffInviteProperty := state.db.staffInviteProperty ++
          draft.inviteProperties invite.id }
      tasks := Function.update state.tasks party (.creating draft (.mailing invite.id))
      issued := state.issued ++ [invite.id] } := by
  have sound := safe.tasks party
  rw [runs] at sound
  have held : ∀ row ∈ [TeamRow.invite invite.id, .slot invite.slot],
      row ∈ (state.tasks party).held := by
    rw [runs]
    exact fun row member => member
  refine safe.advance (safe.toTeamTables.commitInvite _ sound) rfl trivial
    (fun other isOther => ?_) (fun row member => absurd member List.not_mem_nil)
    fun row member => absurd member List.not_mem_nil
  exact Keeps.commitInvite (safe.apart (held _ List.mem_cons_self) isOther).1
    (safe.apart (held _ (List.mem_cons_of_mem _ List.mem_cons_self)) isOther).1

/-- An acceptance commits that holds its invite and its account. -/
theorem TeamSafe.commitAccept (safe : TeamSafe state) {tokenHash password : String}
    {phase : AcceptPhase} {tx : AcceptTx} {account : AccountWrite} {seat : Option Membership}
    {assigned : List UserProperty} (stamp : Instant)
    (runs : state.tasks party = .accepting tokenHash password phase)
    (holds : phase.held = .invite tx.spent.id :: account.held)
    (sound : (AcceptPhase.committing tx account seat assigned).Sound state) :
    TeamSafe { state with
      db := state.db.accept tx.spent.id stamp account seat assigned
      tasks := Function.update state.tasks party
        (.answered (.accepted account.userId tx.spent.tenantId))
      accepted := state.accepted ++ [tx.spent.id] } := by
  have held : ∀ row ∈ TeamRow.invite tx.spent.id :: account.held,
      row ∈ (state.tasks party).held := by
    rw [runs]
    show ∀ row ∈ _, row ∈ phase.held
    rw [holds]
    exact fun row member => member
  refine safe.advance (safe.toTeamTables.accept stamp _ sound) rfl trivial
    (fun other isOther => ?_) (fun row member => absurd member List.not_mem_nil)
    fun row member => absurd member List.not_mem_nil
  exact Keeps.accept sound.1.2.2 (safe.apart (held _ List.mem_cons_self) isOther).1
    fun row member => (safe.apart (held row (List.mem_cons_of_mem _ member)) isOther).1

theorem TeamSafe.removeStaff (safe : TeamSafe state) {tenantId userId : Uuid}
    (idle : state.tasks party = .idle) (seat : state.FreeToTake party (.seat userId tenantId))
    (invites : ∀ invite ∈ state.db.staffInvite, invite.createdBy = userId →
      invite.tenantId = tenantId → state.FreeToTake party (.invite invite.id)) :
    TeamSafe { state with db := state.db.removeStaff tenantId userId } := by
  refine safe.advance (safe.toTeamTables.removeStaff tenantId userId)
    (Function.update_eq_self party state.tasks).symm ?_ (fun other isOther => ?_)
    (fun row member => Or.inl member) fun row member => Or.inl member
  · rw [idle]
    trivial
  · exact Keeps.removeStaff (seat other isOther).2 fun invite member theirs tenant =>
      (invites invite member theirs tenant other isOther).1

/-- The account found under the row lock is one of the accounts. -/
theorem seatCount_eq_zero {userId : Uuid} (none_ : state.db.seatCount userId = 0) :
    ∀ seat ∈ state.db.membership, seat.appUserId ≠ userId := by
  intro seat member same
  have empty := List.length_eq_zero_iff.mp none_
  exact List.filter_eq_nil_iff.mp empty seat member (decide_eq_true same)

/-- The assignments an acceptance inserts are the grants the user lacks. -/
theorem TeamTables.assignedSound (tables : TeamTables state) (tx : AcceptTx)
    (account : AccountWrite) :
    AssignedSound state.db tx account (state.db.assignments tx.spent.id account.userId) := by
  refine ⟨fun row member => ?_, fun grant member ofInvite => ?_⟩
  · obtain ⟨grant, granted, rfl⟩ := List.mem_map.mp (List.mem_filter.mp member).1
    obtain ⟨grantMember, ofInvite⟩ := List.mem_filter.mp granted
    exact ⟨rfl, grant, grantMember, of_decide_eq_true ofInvite, rfl, rfl⟩
  · by_cases assigned : ∃ held ∈ state.db.userProperty,
      held.appUserId = account.userId ∧ held.propertyId = grant.propertyId
    · obtain ⟨held, heldMember, user, property⟩ := assigned
      obtain ⟨own, ownMember, ownId, ownTenant⟩ := tables.assignments held heldMember
      obtain ⟨granted, grantedMember, grantedId, grantedTenant⟩ := (tables.grants grant member).2
      have same : own = granted :=
        Table.eq_of_key tables.properties ownMember grantedMember
          (ownId.trans (property.trans grantedId.symm))
      have tenant : held.tenantId = grant.tenantId := by
        rw [← ownTenant, same, grantedTenant]
      rw [← user, ← property, ← tenant]
      exact List.mem_append_left _ heldMember
    · refine List.mem_append_right _ (List.mem_filter.mpr ⟨?_, decide_eq_true assigned⟩)
      exact List.mem_map.mpr ⟨grant, List.mem_filter.mpr ⟨member, decide_eq_true ofInvite⟩, rfl⟩

/-- An invite that grants nothing leaves no assignment out. -/
theorem assignedSound_nil {db : TeamDb} {tx : AcceptTx} {account : AccountWrite}
    (ungranted : ∀ grant ∈ db.staffInviteProperty, grant.inviteId ≠ tx.spent.id) :
    AssignedSound db tx account [] :=
  ⟨fun _ member => absurd member List.not_mem_nil,
    fun grant member ofInvite => absurd ofInvite (ungranted grant member)⟩

/-- Every step keeps the state safe. The cases are those of the step, and each of them says which
rows of other calls it leaves alone. -/
theorem TeamSafe.step (safe : TeamSafe state) (step : TeamStep compare state party after) :
    TeamSafe after := by
  have sound := safe.tasks party
  cases step with
  | tick later forward => exact safe.tick forward
  | supersede draft since began stamp runs begins free =>
    exact safe.close stamp free (fun _ => trivial) rfl rfl
  | undo draft inviteId stamp runs free =>
    refine safe.close stamp (fun invite member matched => ?_) (fun _ => trivial) rfl rfl
    rw [matched.1]
    exact free
  | revoke tenantId inviteId stamp idle free =>
    have runs : (state.close (StaffInvite.Revocable tenantId inviteId) stamp).tasks party =
        .idle := idle
    rw [← TeamState.put_self runs]
    refine safe.close stamp (fun invite member matched => ?_) (fun _ => trivial) rfl rfl
    rw [matched.1]
    exact free
  | insert draft id clock runs undrawn row slot unheld unhashed inviter properties free =>
    refine safe.put ⟨⟨⟨rfl, rfl⟩, rfl, undrawn⟩, unheld, properties⟩ (fun taken member => ?_)
      fun taken member => ?_
    · rcases List.mem_cons.mp member with rfl | rest
      · exact Or.inr row
      · rw [List.mem_singleton.mp rest]
        exact Or.inr slot
    · rw [List.mem_singleton.mp member]
      exact Or.inr free
  | commitInvite draft invite runs => exact safe.commitInvite runs
  | removeStaff tenantId userId idle seat invites => exact safe.removeStaff idle seat invites
  | spend tokenHash password invite verified since began runs begins stored spendable free =>
    refine safe.proceed runs ⟨stored, spendable, begins.2⟩ (fun row member => ?_) rfl
    rw [List.mem_singleton.mp member]
    exact Or.inr free
  | lockAccount tokenHash password tx user runs found free =>
    rw [runs] at sound
    refine safe.proceed runs ⟨sound, user, (Table.mem_of_byKey found).1, rfl⟩
      (fun row member => ?_) rfl
    rcases List.mem_cons.mp member with rfl | rest
    · exact Or.inl List.mem_cons_self
    · rw [List.mem_singleton.mp rest]
      exact Or.inr free
  | createAccount tokenHash password passwordHash tx id runs absent address fresh free hashed =>
    rw [runs] at sound
    refine safe.proceed runs ⟨sound, fresh⟩ (fun row member => ?_) rfl
    rcases List.mem_cons.mp member with rfl | rest
    · exact Or.inl List.mem_cons_self
    · rcases List.mem_cons.mp rest with rfl | rest
      · exact Or.inr free
      · rw [List.mem_singleton.mp rest]
        exact Or.inr address
  | loadAccount tokenHash password tx userId runs verified found =>
    rw [runs] at sound
    exact safe.proceed runs ⟨sound.1, found, verified⟩ (fun row member => Or.inl member) rfl
  | reclaimAccount tokenHash password passwordHash tx userId runs unverified unseated found
      hashed =>
    rw [runs] at sound
    exact safe.proceed runs ⟨sound.1, found, seatCount_eq_zero unseated⟩
      (fun row member => Or.inl member) rfl
  | accountLost tokenHash password tx userId stamp runs decided lost =>
    rw [runs] at sound
    exact absurd sound.2 lost
  | seat tokenHash password tx account runs unseated =>
    rw [runs] at sound
    refine safe.proceed runs ⟨sound.1, sound.2, fun added isAdded => ?_⟩
      (fun row member => Or.inl member) rfl
    rw [Option.mem_some_iff.mp isAdded]
    exact ⟨rfl, unseated⟩
  | seated tokenHash password tx account runs seated =>
    rw [runs] at sound
    exact safe.proceed runs ⟨sound.1, sound.2, fun added isAdded => nomatch isAdded⟩
      (fun row member => Or.inl member) rfl
  | assign tokenHash password tx account seat runs member free =>
    rw [runs] at sound
    refine safe.put ⟨sound, safe.toTeamTables.assignedSound tx account⟩ (fun row held => ?_)
      fun row shared => ?_
    · rw [runs]
      exact Or.inl held
    · rw [List.mem_singleton.mp shared]
      exact Or.inr free
  | commitAccept tokenHash password tx account seat assigned stamp runs =>
    rw [runs] at sound
    exact safe.commitAccept stamp runs rfl sound
  | commitUngranted tokenHash password tx account seat stamp runs ungranted =>
    rw [runs] at sound
    exact safe.commitAccept stamp runs rfl ⟨sound, assignedSound_nil ungranted⟩
  | _ => exact safe.quiet trivial rfl rfl

end Step

theorem TeamState.Fresh.safe {state : TeamState} (fresh : state.Fresh) : TeamSafe state where
  issued := fresh.issued
  properties := fresh.properties
  invites := fresh.invites
  slots := fresh.slots
  grants := fresh.grants
  seats := fresh.seats
  assignments := fresh.assignments
  accepted := by
    rw [fresh.accepted]
    exact List.nodup_nil
  acceptedIssued := by
    rw [fresh.accepted]
    exact fun id member => absurd member List.not_mem_nil
  acceptedStored := by
    rw [fresh.accepted]
    exact fun invite _ member => absurd member List.not_mem_nil
  respected := by
    intro first second row _ held
    rw [fresh.tasks first] at held
    exact absurd held List.not_mem_nil
  tasks := by
    intro party
    rw [fresh.tasks party]
    trivial

theorem TeamRun.safe {compare : String → String → Bool} {start state : TeamState}
    (fresh : start.Fresh) (run : TeamRun compare start state) : TeamSafe state := by
  induction run with
  | start => exact fresh.safe
  | next _ step inductionHypothesis => exact inductionHypothesis.step step

/-- A stand-in for `bcrypt.compare` in the examples below: the hash spells the password. -/
def hashMatches (password passwordHash : String) : Bool := passwordHash = "hash:" ++ password

end Sambung
