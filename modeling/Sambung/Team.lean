/-
This file states the tables behind staff accounts and the single statements the
staff services run on them: `staff.repository.ts`, `invite-accept.repository.ts`
and `invite-liveness.ts`.

A `citext` column is read at the lower-case text it compares by. A statement's
`now()` is the instant its transaction began.

Whether an invite is live is asked in several places of the source, once by a
partial unique index that knows nothing of time and elsewhere with the hour of its
expiry; each of these conditions is stated under its own name, since an invite may
meet one of them and not another. An account is one row for all tenants, a seat is
a membership in one of them, and what an acceptance writes is put together here
for the step that commits it.
-/

import Sambung.Schema

namespace Sambung

/-! ### Tables -/

inductive UserRole where
  | owner | staff
  deriving DecidableEq, Repr

/-- A `citext` value, as the text it compares by. -/
abbrev Citext := String

structure StaffInvite where
  id : Uuid
  tenantId : Uuid
  email : Citext
  tokenHash : String
  expiresAt : Instant
  acceptedAt : Option Instant
  revokedAt : Option Instant
  createdBy : Uuid
  deriving DecidableEq, Repr

structure StaffInviteProperty where
  inviteId : Uuid
  propertyId : Uuid
  tenantId : Uuid
  deriving DecidableEq, Repr

structure AppUser where
  id : Uuid
  email : Citext
  passwordHash : String
  deriving DecidableEq, Repr

structure Membership where
  appUserId : Uuid
  tenantId : Uuid
  role : UserRole
  deriving DecidableEq, Repr

structure UserProperty where
  appUserId : Uuid
  propertyId : Uuid
  tenantId : Uuid
  deriving DecidableEq, Repr

/-- The tables the staff services share. -/
structure TeamDb where
  property : List Property
  staffInvite : List StaffInvite
  staffInviteProperty : List StaffInviteProperty
  appUser : List AppUser
  membership : List Membership
  userProperty : List UserProperty
  deriving Repr

/-! ### Invites -/

/-- How long an invite stays live. -/
def INVITE_TTL_DAYS : Int := 7

/-- Neither accepted nor revoked: the predicate of `staff_invite_live_email_uniq`. -/
abbrev StaffInvite.Open (invite : StaffInvite) : Prop :=
  invite.acceptedAt = none ∧ invite.revokedAt = none

/-- The columns of `staff_invite_live_email_uniq`. -/
def StaffInvite.slot (invite : StaffInvite) : Uuid × Citext := (invite.tenantId, invite.email)

/-- `liveInviteFor`. -/
abbrev StaffInvite.LiveFor (tenantId : Uuid) (email : Citext) (now : Instant)
    (invite : StaffInvite) : Prop :=
  invite.tenantId = tenantId ∧ invite.email = email ∧ invite.Open ∧ now < invite.expiresAt

/-- What `supersedeExpiredInvites` closes. -/
abbrev StaffInvite.Lapsed (tenantId : Uuid) (email : Citext) (now : Instant)
    (invite : StaffInvite) : Prop :=
  invite.tenantId = tenantId ∧ invite.email = email ∧ invite.Open ∧ invite.expiresAt ≤ now

/-- What the guarded `UPDATE` of `accept` matches, beside the id. -/
abbrev StaffInvite.Spendable (now : Instant) (invite : StaffInvite) : Prop :=
  invite.Open ∧ now < invite.expiresAt

def TeamDb.countVisibleProperties (tenantId : Uuid) (propertyIds : List Uuid) (db : TeamDb) : Nat :=
  (db.property.filter fun property =>
    property.tenantId = tenantId ∧ property.id ∈ propertyIds).length

def TeamDb.isMemberOfTenant (email : Citext) (tenantId : Uuid) (db : TeamDb) : Prop :=
  ∃ user ∈ db.appUser, user.email = email ∧
    ∃ seat ∈ db.membership, seat.appUserId = user.id ∧ seat.tenantId = tenantId

def TeamDb.hasLiveInvite (tenantId : Uuid) (email : Citext) (now : Instant) (db : TeamDb) : Prop :=
  ∃ invite ∈ db.staffInvite, invite.LiveFor tenantId email now

/-- `SET revoked_at = stamp`. -/
def StaffInvite.revoke (stamp : Instant) (invite : StaffInvite) : StaffInvite :=
  { invite with revokedAt := some stamp }

/-- `SET accepted_at = stamp`. -/
def StaffInvite.accept (stamp : Instant) (invite : StaffInvite) : StaffInvite :=
  { invite with acceptedAt := some stamp }

/-- An `UPDATE` that revokes the invites its condition matches. -/
def TeamDb.closeInvites (closes : StaffInvite → Prop) [DecidablePred closes] (stamp : Instant)
    (db : TeamDb) : TeamDb :=
  { db with staffInvite := Table.updateWhere closes (StaffInvite.revoke stamp) db.staffInvite }

/-- What `revokeInvite` matches. -/
abbrev StaffInvite.Revocable (tenantId inviteId : Uuid) (invite : StaffInvite) : Prop :=
  invite.id = inviteId ∧ invite.tenantId = tenantId ∧ invite.Open

inductive InviteRefusalReason where
  | accepted | expired | revoked
  deriving DecidableEq, Repr

def refusalReason (invite : StaffInvite) (now : Instant) : Option InviteRefusalReason :=
  if invite.acceptedAt.isSome then some .accepted
  else if invite.expiresAt ≤ now then some .expired
  else if invite.revokedAt.isSome then some .revoked
  else none

/-! ### Accounts -/

/-- How many tenants the account can act in. -/
def TeamDb.seatCount (userId : Uuid) (db : TeamDb) : Nat :=
  (db.membership.filter fun seat => seat.appUserId = userId).length

structure AccountForInvite where
  id : Uuid
  passwordHash : String
  seatCount : Nat
  deriving DecidableEq, Repr

def TeamDb.findAccountByEmail (email : Citext) (db : TeamDb) : Option AccountForInvite :=
  (Table.byKey AppUser.email email db.appUser).map fun user =>
    ⟨user.id, user.passwordHash, db.seatCount user.id⟩

/-- Whether the invitee proves a password or sets one. -/
inductive InviteAcceptMode where
  | signin | create
  deriving DecidableEq, Repr

def inviteAcceptModeFor (account : Option AccountForInvite) : InviteAcceptMode :=
  if account.any fun account => account.seatCount > 0 then .signin else .create

/-- `removeStaff`: the seat goes, with what its foreign keys cascade to. -/
def TeamDb.removeStaff (tenantId userId : Uuid) (db : TeamDb) : TeamDb :=
  if (⟨userId, tenantId, .staff⟩ : Membership) ∈ db.membership then
    let invites := (db.staffInvite.filter fun invite =>
      invite.createdBy = userId ∧ invite.tenantId = tenantId).map StaffInvite.id
    { db with
      membership := db.membership.filter (· ≠ ⟨userId, tenantId, .staff⟩)
      userProperty := db.userProperty.filter fun row =>
        ¬ (row.appUserId = userId ∧ row.tenantId = tenantId)
      staffInvite := db.staffInvite.filter (·.id ∉ invites)
      staffInviteProperty := db.staffInviteProperty.filter (·.inviteId ∉ invites) }
  else db

/-! ### What an acceptance writes -/

/-- The account an acceptance seats: one it inserts, one whose hash it sets, or one whose
password its caller proved. -/
inductive AccountWrite where
  | created (user : AppUser)
  | reclaimed (userId : Uuid) (passwordHash : String)
  | verified (userId : Uuid)

def AccountWrite.userId : AccountWrite → Uuid
  | .created user => user.id
  | .reclaimed userId _ => userId
  | .verified userId => userId

def AccountWrite.apply (users : List AppUser) : AccountWrite → List AppUser
  | .created user => users ++ [user]
  | .reclaimed userId passwordHash =>
    Table.updateWhere (fun user => user.id = userId)
      (fun user => { user with passwordHash }) users
  | .verified _ => users

/-- The assignments an invite grants to a user, less those the user has: `INSERT ... SELECT ...
ON CONFLICT DO NOTHING`. -/
def TeamDb.assignments (inviteId userId : Uuid) (db : TeamDb) : List UserProperty :=
  ((db.staffInviteProperty.filter (·.inviteId = inviteId)).map fun grant =>
    (⟨userId, grant.propertyId, grant.tenantId⟩ : UserProperty)).filter fun row =>
      ¬ ∃ held ∈ db.userProperty, held.appUserId = userId ∧ held.propertyId = row.propertyId

/-- The `UPDATE` that spends the invite. -/
def TeamDb.spendInvite (inviteId : Uuid) (stamp : Instant) (db : TeamDb) : TeamDb :=
  { db with
    staffInvite := Table.updateWhere (fun invite => invite.id = inviteId)
      (StaffInvite.accept stamp) db.staffInvite }

/-- All an acceptance has written, once it commits. -/
def TeamDb.accept (inviteId : Uuid) (stamp : Instant) (account : AccountWrite)
    (seat : Option Membership) (assigned : List UserProperty) (db : TeamDb) : TeamDb :=
  { db.spendInvite inviteId stamp with
    appUser := account.apply db.appUser
    membership := db.membership ++ seat.toList
    userProperty := db.userProperty ++ assigned }

end Sambung
