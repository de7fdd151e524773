/-
This file states the invite lifecycle of `invites.service.ts` as calls that step
through their statements beside each other: `create`, `accept`, `revoke`, and the
removal of a staff member.

A single statement on its own commits as it runs. An acceptance and the insertion
of an invite are transactions: what they have written is kept with the call until
it commits, and the rows they hold keep others out. Time passes between any two
steps.

A call is a phase with what it has read so far, and a lock is read off that phase:
an invite row, an account row, an entry of one of the two unique indexes, or a
membership row. A statement that needs a held row has no step until the row is let
go. `bcrypt.compare` is a parameter of the steps; the hash that is compared is the
one the acceptance itself has read.
-/

import Sambung.Foundation.Locks
import Sambung.Team

namespace Sambung

/-! ### Calls -/

/-- What `create` is given: the request, the caller and the token it mints. -/
structure InviteDraft where
  tenantId : Uuid
  email : Citext
  tokenHash : String
  createdBy : Uuid
  propertyIds : List Uuid
  deriving DecidableEq, Repr

/-- `[...new Set(dto.propertyIds)]`. -/
def InviteDraft.grants (draft : InviteDraft) : List Uuid := draft.propertyIds.eraseDups

/-- Where `create` stands. The time is that of the statement before. -/
inductive CreatePhase where
  | countingProperties
  | askingMember
  | superseding (since : Instant)
  | askingLive (since : Instant)
  | inserting
  | inserted (invite : StaffInvite)
  | mailing (inviteId : Uuid)
  | undoing (inviteId : Uuid)
  | listing (inviteId : Uuid)
  deriving DecidableEq, Repr

/-- The transaction of `accept`: the invite it has spent, when it began, and the account whose
password its caller proved, as the call had read it. -/
structure AcceptTx where
  spent : StaffInvite
  began : Instant
  verified : Option AccountForInvite
  deriving DecidableEq, Repr

/-- `input.verifiedUserId`. -/
def AcceptTx.verifiedUserId (tx : AcceptTx) : Option Uuid := tx.verified.map AccountForInvite.id

/-- Where `accept` stands. -/
inductive AcceptPhase where
  | resolving
  | reading (inviteId : Uuid) (email : Citext)
  | comparing (inviteId : Uuid) (account : AccountForInvite)
  | spending (inviteId : Uuid) (verified : Option AccountForInvite) (since : Instant)
  | locking (tx : AcceptTx)
  | deciding (tx : AcceptTx) (userId : Uuid)
  | seating (tx : AcceptTx) (account : AccountWrite)
  | assigning (tx : AcceptTx) (account : AccountWrite) (seat : Option Membership)
  | committing (tx : AcceptTx) (account : AccountWrite) (seat : Option Membership)
      (assigned : List UserProperty)
  | explaining

/-- How a call ends. -/
inductive TeamAnswer where
  | inviteNotFound
  | propertyNotFound
  | emailTaken
  | inviteAlreadyPending
  | mailFailed
  | invited (inviteId : Uuid)
  | invalidCredentials
  | inviteNotAcceptable (reason : InviteRefusalReason)
  | accepted (userId tenantId : Uuid)
  | failed
  deriving DecidableEq, Repr

inductive TeamTask where
  | idle
  | creating (draft : InviteDraft) (phase : CreatePhase)
  | accepting (tokenHash password : String) (phase : AcceptPhase)
  | answered (answer : TeamAnswer)

/-! ### Locks -/

/-- What a transaction can hold: an invite row, an account row, an entry of
`app_user_email_key`, an entry of `staff_invite_live_email_uniq`, a membership row. -/
inductive TeamRow where
  | invite (id : Uuid)
  | account (id : Uuid)
  | address (email : Citext)
  | slot (slot : Uuid × Citext)
  | seat (userId tenantId : Uuid)
  deriving DecidableEq, Repr

def AccountWrite.held : AccountWrite → List TeamRow
  | .created user => [.account user.id, .address user.email]
  | .reclaimed userId _ => [.account userId]
  | .verified userId => [.account userId]

def CreatePhase.held : CreatePhase → List TeamRow
  | .inserted invite => [.invite invite.id, .slot invite.slot]
  | _ => []

def AcceptPhase.held : AcceptPhase → List TeamRow
  | .locking tx => [.invite tx.spent.id]
  | .deciding tx userId => [.invite tx.spent.id, .account userId]
  | .seating tx account => .invite tx.spent.id :: account.held
  | .assigning tx account _ => .invite tx.spent.id :: account.held
  | .committing tx account _ _ => .invite tx.spent.id :: account.held
  | _ => []

/-- What a call holds to itself. -/
def TeamTask.held : TeamTask → List TeamRow
  | .creating _ phase => phase.held
  | .accepting _ _ phase => phase.held
  | _ => []

/-- What a call holds `FOR KEY SHARE` of the membership rows: those its rows' foreign keys
name. -/
def TeamTask.shared : TeamTask → List TeamRow
  | .creating _ (.inserted invite) => [.seat invite.createdBy invite.tenantId]
  | .accepting _ _ (.committing tx account _ _) => [.seat account.userId tx.spent.tenantId]
  | _ => []

def TeamTask.Takes (task : TeamTask) (row : TeamRow) : Prop := row ∈ task.held

def TeamTask.Shares (task : TeamTask) (row : TeamRow) : Prop := row ∈ task.shared

/-! ### The system -/

/-- The committed tables, the clock of the database, and the calls under way by party. `issued`
records the ids of invites, which are drawn at random and not drawn again, and `accepted` the
invites accepted, in order. -/
structure TeamState where
  now : Instant
  db : TeamDb
  tasks : Nat → TeamTask
  issued : List Uuid
  accepted : List Uuid

def TeamState.put (state : TeamState) (party : Nat) (task : TeamTask) : TeamState :=
  { state with tasks := Function.update state.tasks party task }

@[simp] theorem TeamState.put_put (state : TeamState) (party : Nat) (first second : TeamTask) :
    (state.put party first).put party second = state.put party second := by
  simp only [TeamState.put, Function.update_idem]

def TeamState.FreeToTake (state : TeamState) (party : Nat) (row : TeamRow) : Prop :=
  Locks.FreeToTake TeamTask.Takes TeamTask.Shares state.tasks party row

def TeamState.FreeToShare (state : TeamState) (party : Nat) (row : TeamRow) : Prop :=
  Locks.FreeToShare TeamTask.Takes state.tasks party row

/-- A statement that closes invites commits, once it can lock the rows it matches. -/
def TeamState.close (state : TeamState) (closes : StaffInvite → Prop) [DecidablePred closes]
    (stamp : Instant) : TeamState :=
  { state with db := state.db.closeInvites closes stamp }

/-- The invite `create` inserts. -/
def InviteDraft.invite (draft : InviteDraft) (id : Uuid) (clock : Instant) : StaffInvite where
  id := id
  tenantId := draft.tenantId
  email := draft.email
  tokenHash := draft.tokenHash
  expiresAt := clock + INVITE_TTL_DAYS * 24 * 60 * 60 * 1000
  acceptedAt := none
  revokedAt := none
  createdBy := draft.createdBy

/-- The rows of `staff_invite_property` it inserts with it. -/
def InviteDraft.inviteProperties (draft : InviteDraft) (id : Uuid) : List StaffInviteProperty :=
  draft.grants.map fun propertyId => ⟨id, propertyId, draft.tenantId⟩

/-- One step of one party: the steps of `create` first, then `revoke` and the removal of a staff
member, then those of `accept`. `compare` is `bcrypt.compare`. -/
inductive TeamStep (compare : String → String → Bool) (state : TeamState) (party : Nat) :
    TeamState → Prop
  | tick (later : Instant) (forward : state.now ≤ later) :
      TeamStep compare state party { state with now := later }
  | invite (draft : InviteDraft) (idle : state.tasks party = .idle) :
      TeamStep compare state party (state.put party (.creating draft .countingProperties))
  | propertyNotFound (draft : InviteDraft)
      (runs : state.tasks party = .creating draft .countingProperties)
      (hidden : state.db.countVisibleProperties draft.tenantId draft.grants ≠
        draft.grants.length) :
      TeamStep compare state party (state.put party (.answered .propertyNotFound))
  | propertiesFound (draft : InviteDraft)
      (runs : state.tasks party = .creating draft .countingProperties)
      (visible : state.db.countVisibleProperties draft.tenantId draft.grants =
        draft.grants.length) :
      TeamStep compare state party (state.put party (.creating draft .askingMember))
  | emailTaken (draft : InviteDraft) (runs : state.tasks party = .creating draft .askingMember)
      (member : state.db.isMemberOfTenant draft.email draft.tenantId) :
      TeamStep compare state party (state.put party (.answered .emailTaken))
  | stranger (draft : InviteDraft) (runs : state.tasks party = .creating draft .askingMember)
      (stranger : ¬ state.db.isMemberOfTenant draft.email draft.tenantId) :
      TeamStep compare state party (state.put party (.creating draft (.superseding state.now)))
  | supersede (draft : InviteDraft) (since began stamp : Instant)
      (runs : state.tasks party = .creating draft (.superseding since))
      (begins : since ≤ began ∧ began ≤ state.now)
      (free : ∀ invite ∈ state.db.staffInvite,
        invite.Lapsed draft.tenantId draft.email began →
          state.FreeToTake party (.invite invite.id)) :
      TeamStep compare state party
        ((state.close (StaffInvite.Lapsed draft.tenantId draft.email began) stamp).put party
          (.creating draft (.askingLive state.now)))
  | pending (draft : InviteDraft) (since began : Instant)
      (runs : state.tasks party = .creating draft (.askingLive since))
      (begins : since ≤ began ∧ began ≤ state.now)
      (live : state.db.hasLiveInvite draft.tenantId draft.email began) :
      TeamStep compare state party (state.put party (.answered .inviteAlreadyPending))
  | unclaimed (draft : InviteDraft) (since began : Instant)
      (runs : state.tasks party = .creating draft (.askingLive since))
      (begins : since ≤ began ∧ began ≤ state.now)
      (none_ : ¬ state.db.hasLiveInvite draft.tenantId draft.email began) :
      TeamStep compare state party (state.put party (.creating draft .inserting))
  /-- The unique index refuses the row: an open invite holds its slot. -/
  | conflict (draft : InviteDraft) (holder : StaffInvite)
      (runs : state.tasks party = .creating draft .inserting)
      (stored : holder ∈ state.db.staffInvite)
      (holds : holder.Open ∧ holder.slot = (draft.tenantId, draft.email))
      (free : state.FreeToTake party (.invite holder.id)) :
      TeamStep compare state party (state.put party (.answered .inviteAlreadyPending))
  /-- The rows are inserted. An open invite in the slot, committed or not, makes it wait. -/
  | insert (draft : InviteDraft) (id : Uuid) (clock : Instant)
      (runs : state.tasks party = .creating draft .inserting)
      (undrawn : id ∉ state.issued) (row : state.FreeToTake party (.invite id))
      (slot : state.FreeToTake party (.slot (draft.tenantId, draft.email)))
      (unheld : ∀ invite ∈ state.db.staffInvite, invite.Open →
        invite.slot ≠ (draft.tenantId, draft.email))
      (unhashed : ∀ invite ∈ state.db.staffInvite, invite.tokenHash ≠ draft.tokenHash)
      (inviter : ∃ seat ∈ state.db.membership,
        seat.appUserId = draft.createdBy ∧ seat.tenantId = draft.tenantId)
      (properties : ∀ propertyId ∈ draft.grants, ∃ property ∈ state.db.property,
        property.id = propertyId ∧ property.tenantId = draft.tenantId)
      (free : state.FreeToShare party (.seat draft.createdBy draft.tenantId)) :
      TeamStep compare state party
        (state.put party (.creating draft (.inserted (draft.invite id clock))))
  | commitInvite (draft : InviteDraft) (invite : StaffInvite)
      (runs : state.tasks party = .creating draft (.inserted invite)) :
      TeamStep compare state party
        { state with
          db := { state.db with
            staffInvite := state.db.staffInvite ++ [invite]
            staffInviteProperty := state.db.staffInviteProperty ++
              draft.inviteProperties invite.id }
          tasks := Function.update state.tasks party (.creating draft (.mailing invite.id))
          issued := state.issued ++ [invite.id] }
  | mailed (draft : InviteDraft) (inviteId : Uuid)
      (runs : state.tasks party = .creating draft (.mailing inviteId)) :
      TeamStep compare state party (state.put party (.creating draft (.listing inviteId)))
  | unmailed (draft : InviteDraft) (inviteId : Uuid)
      (runs : state.tasks party = .creating draft (.mailing inviteId)) :
      TeamStep compare state party (state.put party (.creating draft (.undoing inviteId)))
  | undo (draft : InviteDraft) (inviteId : Uuid) (stamp : Instant)
      (runs : state.tasks party = .creating draft (.undoing inviteId))
      (free : state.FreeToTake party (.invite inviteId)) :
      TeamStep compare state party
        ((state.close (StaffInvite.Revocable draft.tenantId inviteId) stamp).put party
          (.answered .mailFailed))
  | undoLost (draft : InviteDraft) (inviteId : Uuid)
      (runs : state.tasks party = .creating draft (.undoing inviteId)) :
      TeamStep compare state party (state.put party (.answered .mailFailed))
  | listed (draft : InviteDraft) (inviteId : Uuid) (began : Instant)
      (runs : state.tasks party = .creating draft (.listing inviteId))
      (found : ∃ invite ∈ state.db.staffInvite, invite.id = inviteId ∧
        invite.tenantId = draft.tenantId ∧ invite.Spendable began) :
      TeamStep compare state party (state.put party (.answered (.invited inviteId)))
  | unlisted (draft : InviteDraft) (inviteId : Uuid) (began : Instant)
      (runs : state.tasks party = .creating draft (.listing inviteId))
      (gone : ¬ ∃ invite ∈ state.db.staffInvite, invite.id = inviteId ∧
        invite.tenantId = draft.tenantId ∧ invite.Spendable began) :
      TeamStep compare state party (state.put party (.answered .inviteNotFound))
  | revoke (tenantId inviteId : Uuid) (stamp : Instant) (idle : state.tasks party = .idle)
      (free : state.FreeToTake party (.invite inviteId)) :
      TeamStep compare state party (state.close (StaffInvite.Revocable tenantId inviteId) stamp)
  | removeStaff (tenantId userId : Uuid) (idle : state.tasks party = .idle)
      (seat : state.FreeToTake party (.seat userId tenantId))
      (invites : ∀ invite ∈ state.db.staffInvite, invite.createdBy = userId →
        invite.tenantId = tenantId → state.FreeToTake party (.invite invite.id)) :
      TeamStep compare state party { state with db := state.db.removeStaff tenantId userId }
  | accept (tokenHash password : String) (idle : state.tasks party = .idle) :
      TeamStep compare state party (state.put party (.accepting tokenHash password .resolving))
  | unknownToken (tokenHash password : String)
      (runs : state.tasks party = .accepting tokenHash password .resolving)
      (absent : Table.byKey StaffInvite.tokenHash tokenHash state.db.staffInvite = none) :
      TeamStep compare state party (state.put party (.answered .inviteNotFound))
  | resolve (tokenHash password : String) (invite : StaffInvite)
      (runs : state.tasks party = .accepting tokenHash password .resolving)
      (found : Table.byKey StaffInvite.tokenHash tokenHash state.db.staffInvite = some invite) :
      TeamStep compare state party
        (state.put party (.accepting tokenHash password (.reading invite.id invite.email)))
  | readCreate (tokenHash password : String) (inviteId : Uuid) (email : Citext)
      (runs : state.tasks party = .accepting tokenHash password (.reading inviteId email))
      (mode : inviteAcceptModeFor (state.db.findAccountByEmail email) = .create) :
      TeamStep compare state party
        (state.put party (.accepting tokenHash password (.spending inviteId none state.now)))
  | readSignin (tokenHash password : String) (inviteId : Uuid) (email : Citext)
      (existing : AccountForInvite)
      (runs : state.tasks party = .accepting tokenHash password (.reading inviteId email))
      (found : state.db.findAccountByEmail email = some existing)
      (mode : inviteAcceptModeFor (some existing) = .signin) :
      TeamStep compare state party
        (state.put party (.accepting tokenHash password (.comparing inviteId existing)))
  | wrongPassword (tokenHash password : String) (inviteId : Uuid) (existing : AccountForInvite)
      (runs : state.tasks party = .accepting tokenHash password (.comparing inviteId existing))
      (differs : compare password existing.passwordHash = false) :
      TeamStep compare state party (state.put party (.answered .invalidCredentials))
  | rightPassword (tokenHash password : String) (inviteId : Uuid) (existing : AccountForInvite)
      (runs : state.tasks party = .accepting tokenHash password (.comparing inviteId existing))
      (matches_ : compare password existing.passwordHash = true) :
      TeamStep compare state party (state.put party
        (.accepting tokenHash password (.spending inviteId (some existing) state.now)))
  /-- The guarded `UPDATE`, against the instant the transaction began. -/
  | spend (tokenHash password : String) (invite : StaffInvite)
      (verified : Option AccountForInvite) (since began : Instant)
      (runs : state.tasks party =
        .accepting tokenHash password (.spending invite.id verified since))
      (begins : since ≤ began ∧ began ≤ state.now)
      (stored : invite ∈ state.db.staffInvite) (spendable : invite.Spendable began)
      (free : state.FreeToTake party (.invite invite.id)) :
      TeamStep compare state party
        (state.put party (.accepting tokenHash password (.locking ⟨invite, began, verified⟩)))
  | unspent (tokenHash password : String) (inviteId : Uuid)
      (verified : Option AccountForInvite) (since began : Instant)
      (runs : state.tasks party =
        .accepting tokenHash password (.spending inviteId verified since))
      (begins : since ≤ began ∧ began ≤ state.now)
      (dead : ∀ invite ∈ state.db.staffInvite, invite.id = inviteId → ¬ invite.Spendable began) :
      TeamStep compare state party
        (state.put party (.accepting tokenHash password .explaining))
  | explain (tokenHash password : String) (clock : Instant)
      (runs : state.tasks party = .accepting tokenHash password .explaining) :
      TeamStep compare state party (state.put party (.answered (.inviteNotAcceptable
        (((Table.byKey StaffInvite.tokenHash tokenHash state.db.staffInvite).bind
          (refusalReason · clock)).getD .expired))))
  /-- `SELECT ... FOR UPDATE` finds the account of the address. -/
  | lockAccount (tokenHash password : String) (tx : AcceptTx) (user : AppUser)
      (runs : state.tasks party = .accepting tokenHash password (.locking tx))
      (found : Table.byKey AppUser.email tx.spent.email state.db.appUser = some user)
      (free : state.FreeToTake party (.account user.id)) :
      TeamStep compare state party
        (state.put party (.accepting tokenHash password (.deciding tx user.id)))
  /-- It finds none, and no other transaction has one under way: the account is inserted. -/
  | createAccount (tokenHash password passwordHash : String) (tx : AcceptTx) (id : Uuid)
      (runs : state.tasks party = .accepting tokenHash password (.locking tx))
      (absent : Table.byKey AppUser.email tx.spent.email state.db.appUser = none)
      (address : state.FreeToTake party (.address tx.spent.email))
      (fresh : ∀ user ∈ state.db.appUser, user.id ≠ id)
      (free : state.FreeToTake party (.account id))
      (hashed : compare password passwordHash = true) :
      TeamStep compare state party (state.put party (.accepting tokenHash password
        (.seating tx (.created ⟨id, tx.spent.email, passwordHash⟩))))
  | loadAccount (tokenHash password : String) (tx : AcceptTx) (userId : Uuid)
      (runs : state.tasks party = .accepting tokenHash password (.deciding tx userId))
      (verified : tx.verifiedUserId = some userId)
      (found : ∃ user ∈ state.db.appUser, user.id = userId) :
      TeamStep compare state party
        (state.put party (.accepting tokenHash password (.seating tx (.verified userId))))
  | passwordRequired (tokenHash password : String) (tx : AcceptTx) (userId : Uuid)
      (runs : state.tasks party = .accepting tokenHash password (.deciding tx userId))
      (unverified : tx.verifiedUserId ≠ some userId)
      (seated : 0 < state.db.seatCount userId) :
      TeamStep compare state party (state.put party (.answered .invalidCredentials))
  | reclaimAccount (tokenHash password passwordHash : String) (tx : AcceptTx) (userId : Uuid)
      (runs : state.tasks party = .accepting tokenHash password (.deciding tx userId))
      (unverified : tx.verifiedUserId ≠ some userId)
      (unseated : state.db.seatCount userId = 0)
      (found : ∃ user ∈ state.db.appUser, user.id = userId)
      (hashed : compare password passwordHash = true) :
      TeamStep compare state party (state.put party (.accepting tokenHash password
        (.seating tx (.reclaimed userId passwordHash))))
  /-- The account is gone: the transaction returns, and so commits with the invite spent. -/
  | accountLost (tokenHash password : String) (tx : AcceptTx) (userId : Uuid) (stamp : Instant)
      (runs : state.tasks party = .accepting tokenHash password (.deciding tx userId))
      (decided : tx.verifiedUserId = some userId ∨ state.db.seatCount userId = 0)
      (lost : ¬ ∃ user ∈ state.db.appUser, user.id = userId) :
      TeamStep compare state party
        { state with
          db := state.db.spendInvite tx.spent.id stamp
          tasks := Function.update state.tasks party
            (.accepting tokenHash password .explaining)
          accepted := state.accepted ++ [tx.spent.id] }
  /-- The seat is inserted, unless there is one. -/
  | seat (tokenHash password : String) (tx : AcceptTx) (account : AccountWrite)
      (runs : state.tasks party = .accepting tokenHash password (.seating tx account))
      (unseated : ∀ seat ∈ state.db.membership,
        ¬ (seat.appUserId = account.userId ∧ seat.tenantId = tx.spent.tenantId)) :
      TeamStep compare state party (state.put party (.accepting tokenHash password
        (.assigning tx account (some ⟨account.userId, tx.spent.tenantId, .staff⟩))))
  | seated (tokenHash password : String) (tx : AcceptTx) (account : AccountWrite)
      (runs : state.tasks party = .accepting tokenHash password (.seating tx account))
      (seated : ∃ seat ∈ state.db.membership,
        seat.appUserId = account.userId ∧ seat.tenantId = tx.spent.tenantId) :
      TeamStep compare state party
        (state.put party (.accepting tokenHash password (.assigning tx account none)))
  /-- The assignments are inserted, under the membership their foreign key names. -/
  | assign (tokenHash password : String) (tx : AcceptTx) (account : AccountWrite)
      (seat : Option Membership)
      (runs : state.tasks party = .accepting tokenHash password (.assigning tx account seat))
      (member : ∃ held ∈ state.db.membership ++ seat.toList,
        held.appUserId = account.userId ∧ held.tenantId = tx.spent.tenantId)
      (free : state.FreeToShare party (.seat account.userId tx.spent.tenantId)) :
      TeamStep compare state party (state.put party (.accepting tokenHash password
        (.committing tx account seat (state.db.assignments tx.spent.id account.userId))))
  | commitAccept (tokenHash password : String) (tx : AcceptTx) (account : AccountWrite)
      (seat : Option Membership) (assigned : List UserProperty) (stamp : Instant)
      (runs : state.tasks party =
        .accepting tokenHash password (.committing tx account seat assigned)) :
      TeamStep compare state party
        { state with
          db := state.db.accept tx.spent.id stamp account seat assigned
          tasks := Function.update state.tasks party
            (.answered (.accepted account.userId tx.spent.tenantId))
          accepted := state.accepted ++ [tx.spent.id] }
  /-- An invite that grants nothing: the `INSERT ... SELECT` adds no row and meets no foreign key,
  and the transaction commits. -/
  | commitUngranted (tokenHash password : String) (tx : AcceptTx) (account : AccountWrite)
      (seat : Option Membership) (stamp : Instant)
      (runs : state.tasks party = .accepting tokenHash password (.assigning tx account seat))
      (ungranted : ∀ grant ∈ state.db.staffInviteProperty, grant.inviteId ≠ tx.spent.id) :
      TeamStep compare state party
        { state with
          db := state.db.accept tx.spent.id stamp account seat []
          tasks := Function.update state.tasks party
            (.answered (.accepted account.userId tx.spent.tenantId))
          accepted := state.accepted ++ [tx.spent.id] }
  /-- A call fails, or is done: what it has not committed is gone. -/
  | fail : TeamStep compare state party (state.put party (.answered .failed))
  | finish : TeamStep compare state party (state.put party .idle)

/-- The states that steps of any parties in any order lead to. -/
inductive TeamRun (compare : String → String → Bool) (start : TeamState) : TeamState → Prop
  | start : TeamRun compare start start
  | next {state after : TeamState} {party : Nat} (earlier : TeamRun compare start state)
      (step : TeamStep compare state party after) : TeamRun compare start after

/-- Tables whose keys hold, with no call under way. -/
structure TeamState.Fresh (state : TeamState) : Prop where
  tasks : ∀ party, state.tasks party = .idle
  accepted : state.accepted = []
  issued : ∀ invite ∈ state.db.staffInvite, invite.id ∈ state.issued
  properties : (state.db.property.map Property.id).Nodup
  invites : (state.db.staffInvite.map StaffInvite.id).Nodup
  slots : ∀ first ∈ state.db.staffInvite, ∀ second ∈ state.db.staffInvite, first.Open →
    second.Open → first.slot = second.slot → first = second
  grants : ∀ grant ∈ state.db.staffInviteProperty,
    (∃ invite ∈ state.db.staffInvite, invite.id = grant.inviteId ∧
      invite.tenantId = grant.tenantId) ∧
    ∃ property ∈ state.db.property, property.id = grant.propertyId ∧
      property.tenantId = grant.tenantId
  seats : ∀ seat ∈ state.db.membership, ∃ user ∈ state.db.appUser, user.id = seat.appUserId
  assignments : ∀ row ∈ state.db.userProperty, ∃ property ∈ state.db.property,
    property.id = row.propertyId ∧ property.tenantId = row.tenantId

end Sambung
