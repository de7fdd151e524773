/-
This file states the sessions of `auth.service.ts` and `auth.guard.ts`, one statement at a time
between the steps of the team: `register`, `login`, `refresh`, `switchTenant`, `me` and the session
an acceptance starts.

A signature is checked by looking the token up among those the service signed with that secret. A
call reads the account and then the seats in statements of their own and signs after that, first
the access token and then the refresh token, so a removal can fall between its reading and its
signing: the seats it was read at are then those of an earlier state. What a step does to the calls
and the tokens is said once, by `SessionEffect`, and every invariant of the sessions is an
induction over it.
-/

import Sambung.InviteLifecycle
import Sambung.TenantDb

namespace Sambung

/-! ### Tokens -/

/-- The lives of the two tokens, in seconds. -/
def ACCESS_TTL : Int := 15 * 60

def REFRESH_TTL : Int := 7 * 24 * 60 * 60

/-- The second a token counts its times in. -/
def epochSeconds (clock : Instant) : Int := clock / 1000

structure AccessToken where
  sub : Uuid
  tenantId : Uuid
  role : UserRole
  exp : Int
  deriving DecidableEq, Repr

/-- A token signed before there were memberships carries no tenant. -/
structure RefreshToken where
  sub : Uuid
  tenantId : Option Uuid
  exp : Int
  deriving DecidableEq, Repr

def UserRole.principal : UserRole → PrincipalRole
  | .owner => .owner
  | .staff => .staff

/-! ### Seats -/

/-- A row of `tenant`. -/
structure Tenant where
  id : Uuid
  name : String
  deriving DecidableEq, Repr

/-- A membership, joined to the name of its tenant. -/
structure MembershipRow where
  tenantId : Uuid
  tenantName : String
  role : UserRole
  deriving DecidableEq, Repr

/-- The session body: who the caller is, where, and everywhere they could be. -/
structure MeResponse where
  userId : Uuid
  email : Citext
  role : UserRole
  tenantId : Uuid
  tenantName : String
  memberships : List MembershipRow
  deriving DecidableEq, Repr

def toSession (user : AppUser) (active : MembershipRow) (memberships : List MembershipRow) :
    MeResponse where
  userId := user.id
  email := user.email
  role := active.role
  tenantId := active.tenantId
  tenantName := active.tenantName
  memberships := memberships

/-- `ORDER BY role = 'owner' DESC, created_at, tenant_id`. -/
abbrev Membership.DefaultBefore (seatedAt : Membership → Instant) (first second : Membership) :
    Prop :=
  (first.role = .owner ∧ second.role ≠ .owner) ∨
    ((first.role = .owner ↔ second.role = .owner) ∧
      (seatedAt first < seatedAt second ∨
        (seatedAt first = seatedAt second ∧ first.tenantId ≤ second.tenantId)))

/-- Every tenant the account can act in, the default first. -/
def membershipsOf (tenants : List Tenant) (seatedAt : Membership → Instant) (db : TeamDb)
    (userId : Uuid) : List MembershipRow :=
  let joined := (db.membership.filter (·.appUserId = userId)).flatMap fun seat =>
    (tenants.filter (·.id = seat.tenantId)).map fun tenant => (seat, tenant)
  (joined.insertionSort fun a b => a.1.DefaultBefore seatedAt b.1).map fun row =>
    ⟨row.1.tenantId, row.2.name, row.1.role⟩

/-! ### Calls -/

structure RegisterRequest where
  tenantName : String
  email : Citext
  password : String

inductive SessionRefusal where
  | emailTaken
  | invalidCredentials
  | missingRefreshToken
  | invalidRefreshToken
  | userGone
  | noWorkspace
  | noSuchWorkspace
  | membershipGone
  | missingBearerToken
  | invalidAccessToken
  deriving DecidableEq, Repr

def SessionRefusal.status : SessionRefusal → Nat
  | .emailTaken => 409
  | .noWorkspace => 403
  | .noSuchWorkspace => 404
  | _ => 401

def SessionRefusal.message : SessionRefusal → String
  | .emailTaken => "Email already registered"
  | .invalidCredentials => "Invalid credentials"
  | .missingRefreshToken => "Missing refresh token"
  | .invalidRefreshToken => "Invalid refresh token"
  | .userGone => "User no longer exists"
  | .noWorkspace => "This account is not a member of any workspace. " ++
      "Ask an owner to invite you again."
  | .noSuchWorkspace => "No such workspace"
  | .membershipGone => "Membership no longer exists"
  | .missingBearerToken => "Missing bearer token"
  | .invalidAccessToken => "Invalid or expired token"

/-- What a call reads the seats for. -/
inductive SessionGoal where
  | issue (preferredTenantId : Option Uuid)
  | switchTenant (tenantId : Uuid)
  | me (tenantId : Uuid)
  deriving DecidableEq, Repr

/-- A call before each of its statements, or its answer. -/
inductive SessionCall where
  | idle
  | hashing (input : RegisterRequest)
  | comparing (password : String) (user : AppUser)
  | finding (userId : Uuid) (goal : SessionGoal)
  | listing (user : AppUser) (goal : SessionGoal)
  | minting (user : AppUser) (memberships : List MembershipRow) (active : MembershipRow)
  | signing (user : AppUser) (memberships : List MembershipRow) (active : MembershipRow)
      (access : AccessToken)
  | session (access : AccessToken) (refresh : RefreshToken) (body : MeResponse)
  | answeredMe (body : MeResponse)
  | refused (refusal : SessionRefusal)

/-- The seat a session is minted for: the preferred one, or the default. -/
def activeSeat (memberships : List MembershipRow) (preferredTenantId : Option Uuid) :
    Option MembershipRow :=
  (memberships.find? fun row => some row.tenantId = preferredTenantId).or memberships.head?

def issueFrom (user : AppUser) (memberships : List MembershipRow)
    (preferredTenantId : Option Uuid) : SessionCall :=
  match activeSeat memberships preferredTenantId with
  | none => .refused .noWorkspace
  | some active => .minting user memberships active

/-- What a call does with the seats it has read. -/
def SessionGoal.decide (user : AppUser) (memberships : List MembershipRow) :
    SessionGoal → SessionCall
  | .issue preferredTenantId => issueFrom user memberships preferredTenantId
  | .switchTenant tenantId =>
    if memberships.any (·.tenantId = tenantId) then issueFrom user memberships (some tenantId)
    else .refused .noSuchWorkspace
  | .me tenantId =>
    match memberships.find? (·.tenantId = tenantId) with
    | none => .refused .membershipGone
    | some active => .answeredMe (toSession user active memberships)

/-! ### The system -/

/-- The team, the tenants, the times of the seats, the calls under way and every token signed. -/
structure SessionState where
  team : TeamState
  tenant : List Tenant
  seatedAt : Membership → Instant
  calls : Nat → SessionCall
  access : List AccessToken
  refresh : List RefreshToken

def SessionState.put (state : SessionState) (id : Nat) (call : SessionCall) : SessionState :=
  { state with calls := Function.update state.calls id call }

def SessionState.membershipsOf (state : SessionState) (userId : Uuid) : List MembershipRow :=
  Sambung.membershipsOf state.tenant state.seatedAt state.team.db userId

/-- `JwtAuthGuard`: the principal of a bearer token that verifies. -/
def SessionState.guard (state : SessionState) (bearer : Option AccessToken) :
    Except SessionRefusal Principal :=
  match bearer with
  | none => .error .missingBearerToken
  | some token =>
    if token ∈ state.access ∧ epochSeconds state.team.now < token.exp then
      .ok (.user token.sub token.tenantId token.role.principal)
    else .error .invalidAccessToken

/-- The tenant, account and seat of a registration, committed together. -/
def SessionState.register (state : SessionState) (input : RegisterRequest)
    (tenantId userId : Uuid) (passwordHash : String) (seatedAt : Membership → Instant) :
    SessionState :=
  { state with
    team := { state.team with
      db := { state.team.db with
        appUser := state.team.db.appUser ++ [⟨userId, input.email, passwordHash⟩]
        membership := state.team.db.membership ++ [⟨userId, tenantId, .owner⟩] } }
    tenant := state.tenant ++ [⟨tenantId, input.tenantName⟩]
    seatedAt }

/-- One step of a call, or of a party of the team: the steps of `register` first, then those of
`login`, of `refresh` and of the guarded calls, and last the statements they share. `compare` is
`bcrypt.compare`. -/
inductive SessionStep (compare : String → String → Bool) (state : SessionState) (id : Nat) :
    SessionState → Prop
  | team (party : Nat) (after : TeamState) (seatedAt : Membership → Instant)
      (step : TeamStep compare state.team party after)
      (kept : ∀ seat ∈ state.team.db.membership, seatedAt seat = state.seatedAt seat) :
      SessionStep compare state id { state with team := after, seatedAt }
  | registerTaken (input : RegisterRequest) (idle : state.calls id = .idle)
      (taken : ∃ user ∈ state.team.db.appUser, user.email = input.email) :
      SessionStep compare state id (state.put id (.refused .emailTaken))
  | register (input : RegisterRequest) (idle : state.calls id = .idle)
      (free : ∀ user ∈ state.team.db.appUser, user.email ≠ input.email) :
      SessionStep compare state id (state.put id (.hashing input))
  /-- The unique index on the address refuses the account. -/
  | registerConflict (input : RegisterRequest) (runs : state.calls id = .hashing input)
      (taken : ∃ user ∈ state.team.db.appUser, user.email = input.email) :
      SessionStep compare state id (state.put id (.refused .emailTaken))
  | registered (input : RegisterRequest) (tenantId userId : Uuid) (passwordHash : String)
      (seatedAt : Membership → Instant) (runs : state.calls id = .hashing input)
      (absent : ∀ user ∈ state.team.db.appUser, user.email ≠ input.email)
      (address : ∀ party, ¬ (state.team.tasks party).Takes (.address input.email))
      (freshUser : ∀ user ∈ state.team.db.appUser, user.id ≠ userId)
      (undrawn : ∀ party, ¬ (state.team.tasks party).Takes (.account userId))
      (freshTenant : ∀ tenant ∈ state.tenant, tenant.id ≠ tenantId)
      (hashed : compare input.password passwordHash = true)
      (kept : ∀ seat ∈ state.team.db.membership, seatedAt seat = state.seatedAt seat) :
      SessionStep compare state id
        ((state.register input tenantId userId passwordHash seatedAt).put id
          (.listing ⟨userId, input.email, passwordHash⟩ (.issue none)))
  | unknownEmail (email : Citext) (idle : state.calls id = .idle)
      (unknown : Table.byKey AppUser.email email state.team.db.appUser = none) :
      SessionStep compare state id (state.put id (.refused .invalidCredentials))
  | login (email : Citext) (password : String) (user : AppUser) (idle : state.calls id = .idle)
      (known : Table.byKey AppUser.email email state.team.db.appUser = some user) :
      SessionStep compare state id (state.put id (.comparing password user))
  | wrongPassword (password : String) (user : AppUser)
      (runs : state.calls id = .comparing password user)
      (differs : compare password user.passwordHash = false) :
      SessionStep compare state id (state.put id (.refused .invalidCredentials))
  | rightPassword (password : String) (user : AppUser)
      (runs : state.calls id = .comparing password user)
      (matches_ : compare password user.passwordHash = true) :
      SessionStep compare state id (state.put id (.listing user (.issue none)))
  | refreshMissing (idle : state.calls id = .idle) :
      SessionStep compare state id (state.put id (.refused .missingRefreshToken))
  | refreshInvalid (token : RefreshToken) (idle : state.calls id = .idle)
      (invalid : ¬ (token ∈ state.refresh ∧ epochSeconds state.team.now < token.exp)) :
      SessionStep compare state id (state.put id (.refused .invalidRefreshToken))
  | refresh (token : RefreshToken) (idle : state.calls id = .idle)
      (verified : token ∈ state.refresh ∧ epochSeconds state.team.now < token.exp) :
      SessionStep compare state id (state.put id (.finding token.sub (.issue token.tenantId)))
  | unguarded (bearer : Option AccessToken) (refusal : SessionRefusal)
      (idle : state.calls id = .idle) (stopped : state.guard bearer = .error refusal) :
      SessionStep compare state id (state.put id (.refused refusal))
  | switchTenant (bearer : Option AccessToken) (userId activeId : Uuid) (role : PrincipalRole)
      (tenantId : Uuid) (idle : state.calls id = .idle)
      (admitted : state.guard bearer = .ok (.user userId activeId role)) :
      SessionStep compare state id (state.put id (.finding userId (.switchTenant tenantId)))
  | me (bearer : Option AccessToken) (userId tenantId : Uuid) (role : PrincipalRole)
      (idle : state.calls id = .idle)
      (admitted : state.guard bearer = .ok (.user userId tenantId role)) :
      SessionStep compare state id (state.put id (.finding userId (.me tenantId)))
  /-- `startSessionForVerifiedUser`, once an acceptance has committed. -/
  | startSession (party : Nat) (userId tenantId : Uuid) (user : AppUser)
      (idle : state.calls id = .idle)
      (accepted : state.team.tasks party = .answered (.accepted userId tenantId))
      (seated : Table.byKey AppUser.id userId state.team.db.appUser = some user) :
      SessionStep compare state id (state.put id (.listing user (.issue (some tenantId))))
  | userGone (userId : Uuid) (goal : SessionGoal) (runs : state.calls id = .finding userId goal)
      (gone : Table.byKey AppUser.id userId state.team.db.appUser = none) :
      SessionStep compare state id (state.put id (.refused .userGone))
  | userFound (userId : Uuid) (goal : SessionGoal) (user : AppUser)
      (runs : state.calls id = .finding userId goal)
      (found : Table.byKey AppUser.id userId state.team.db.appUser = some user) :
      SessionStep compare state id (state.put id (.listing user goal))
  | listed (user : AppUser) (goal : SessionGoal) (runs : state.calls id = .listing user goal) :
      SessionStep compare state id
        (state.put id (goal.decide user (state.membershipsOf user.id)))
  | signAccess (user : AppUser) (memberships : List MembershipRow) (active : MembershipRow)
      (runs : state.calls id = .minting user memberships active) :
      SessionStep compare state id
        { state with
          calls := Function.update state.calls id (.signing user memberships active
            ⟨user.id, active.tenantId, active.role,
              epochSeconds state.team.now + ACCESS_TTL⟩)
          access := state.access ++ [⟨user.id, active.tenantId, active.role,
            epochSeconds state.team.now + ACCESS_TTL⟩] }
  | signRefresh (user : AppUser) (memberships : List MembershipRow) (active : MembershipRow)
      (access : AccessToken) (runs : state.calls id = .signing user memberships active access) :
      SessionStep compare state id
        { state with
          calls := Function.update state.calls id (.session access
            ⟨user.id, some active.tenantId, epochSeconds state.team.now + REFRESH_TTL⟩
            (toSession user active memberships))
          refresh := state.refresh ++
            [⟨user.id, some active.tenantId, epochSeconds state.team.now + REFRESH_TTL⟩] }
  /-- A call fails, or is done. -/
  | finish : SessionStep compare state id (state.put id .idle)

/-- A step of some call leads from one state to the other. -/
abbrev SessionState.Leads (compare : String → String → Bool) (state after : SessionState) : Prop :=
  ∃ id, SessionStep compare state id after

/-- The steps of any calls in any order. -/
abbrev SessionRun (compare : String → String → Bool) : SessionState → SessionState → Prop :=
  Relation.ReflTransGen (SessionState.Leads compare)

/-! ### What one step does -/

section Step

variable {compare : String → String → Bool} {state after : SessionState} {id : Nat}

theorem TeamStep.now_le {before next : TeamState} {party : Nat}
    (step : TeamStep compare before party next) : before.now ≤ next.now := by
  cases step with
  | tick later forward => exact forward
  | _ => exact le_refl _

/-- A call that has read the seats and has not answered yet, or a session. -/
def SessionCall.Quiet : SessionCall → Prop
  | .minting _ _ _ => False
  | .signing _ _ _ _ => False
  | .session _ _ _ => False
  | _ => True

/-- What a step does to the calls and the tokens: it takes a call where no seat is read yet, has
one decide on the seats of the state, or signs for one that has decided. -/
inductive SessionEffect (state after : SessionState) (id : Nat) : Prop
  | quiet (access : after.access = state.access) (refresh : after.refresh = state.refresh)
      (calls : ∀ other, after.calls other = state.calls other ∨ (after.calls other).Quiet)
  | listed (user : AppUser) (goal : SessionGoal) (runs : state.calls id = .listing user goal)
      (same : after = state.put id (goal.decide user (state.membershipsOf user.id)))
  | signed (user : AppUser) (memberships : List MembershipRow) (active : MembershipRow)
      (token : AccessToken) (runs : state.calls id = .minting user memberships active)
      (named : token = ⟨user.id, active.tenantId, active.role,
        epochSeconds state.team.now + ACCESS_TTL⟩)
      (access : after.access = state.access ++ [token]) (refresh : after.refresh = state.refresh)
      (calls : after.calls =
        Function.update state.calls id (.signing user memberships active token))
  | answered (user : AppUser) (memberships : List MembershipRow) (active : MembershipRow)
      (token : AccessToken) (refresh : RefreshToken)
      (runs : state.calls id = .signing user memberships active token)
      (named : refresh = ⟨user.id, some active.tenantId,
        epochSeconds state.team.now + REFRESH_TTL⟩)
      (access : after.access = state.access) (signed : after.refresh = state.refresh ++ [refresh])
      (calls : after.calls = Function.update state.calls id
        (.session token refresh (toSession user active memberships)))

/-- A call that goes on to a quiet one leaves the others. -/
theorem SessionState.quiet_put {call : SessionCall} (quiet : call.Quiet) (other : Nat) :
    (state.put id call).calls other = state.calls other ∨
      ((state.put id call).calls other).Quiet := by
  by_cases same : other = id
  · rw [same]
    refine Or.inr ?_
    show (Function.update state.calls id call id).Quiet
    rwa [Function.update_self]
  · exact Or.inl (Function.update_of_ne same _ _)

/-- A step lets time pass at most, and has one of the effects above. -/
theorem SessionStep.effect (step : SessionStep compare state id after) :
    state.team.now ≤ after.team.now ∧ SessionEffect state after id := by
  cases step with
  | team party next seatedAt step kept =>
    exact ⟨step.now_le, .quiet rfl rfl fun other => Or.inl rfl⟩
  | listed user goal runs => exact ⟨le_refl _, .listed user goal runs rfl⟩
  | signAccess user memberships active runs =>
    exact ⟨le_refl _, .signed user memberships active _ runs rfl rfl rfl rfl⟩
  | signRefresh user memberships active access runs =>
    exact ⟨le_refl _, .answered user memberships active access _ runs rfl rfl rfl rfl⟩
  | _ => exact ⟨le_refl _, .quiet rfl rfl (SessionState.quiet_put trivial)⟩

end Step

/-! ### What is read -/

/-- A membership listed is a seat of the account. -/
theorem SessionState.mem_membershipsOf {state : SessionState} {userId : Uuid}
    {row : MembershipRow} (listed : row ∈ state.membershipsOf userId) :
    (⟨userId, row.tenantId, row.role⟩ : Membership) ∈ state.team.db.membership := by
  obtain ⟨⟨seat, tenant⟩, sorted, rfl⟩ := List.mem_map.mp listed
  obtain ⟨found, member, joined⟩ := List.mem_flatMap.mp ((List.mem_insertionSort _).mp sorted)
  obtain ⟨named, -, same⟩ := List.mem_map.mp joined
  obtain ⟨rfl, rfl⟩ := Prod.mk.inj same
  obtain ⟨stored, ofUser⟩ := List.mem_filter.mp member
  rw [← of_decide_eq_true ofUser]
  exact stored

theorem mem_of_activeSeat {memberships : List MembershipRow} {preferredTenantId : Option Uuid}
    {active : MembershipRow} (chosen : activeSeat memberships preferredTenantId = some active) :
    active ∈ memberships := by
  rw [activeSeat, Option.or_eq_some_iff] at chosen
  obtain preferred | ⟨-, first⟩ := chosen
  · exact List.mem_of_find?_eq_some preferred
  · exact List.mem_of_mem_head? first

/-- The seat is the one its tenant names in the list. -/
theorem find?_activeSeat {memberships : List MembershipRow} {preferredTenantId : Option Uuid}
    {active : MembershipRow} (chosen : activeSeat memberships preferredTenantId = some active) :
    memberships.find? (·.tenantId = active.tenantId) = some active := by
  rw [activeSeat, Option.or_eq_some_iff] at chosen
  obtain preferred | ⟨-, first⟩ := chosen
  · have named := List.find?_some preferred
    rw [← preferred]
    congr 1
    funext row
    rw [← of_decide_eq_true named]
    exact decide_eq_decide.mpr Option.some_inj.symm
  · obtain ⟨rest, rfl⟩ := List.head?_eq_some_iff.mp first
    rw [List.find?_cons_of_pos (by exact decide_eq_true rfl)]

theorem issueFrom_eq_minting {user owner : AppUser} {memberships seats : List MembershipRow}
    {preferredTenantId : Option Uuid} {active : MembershipRow}
    (minted : issueFrom user memberships preferredTenantId = .minting owner seats active) :
    owner = user ∧ seats = memberships ∧
      activeSeat memberships preferredTenantId = some active := by
  rw [issueFrom] at minted
  cases chosen : activeSeat memberships preferredTenantId with
  | none =>
    rw [chosen] at minted
    cases minted
  | some found =>
    rw [chosen] at minted
    cases minted
    exact ⟨rfl, rfl, rfl⟩

/-- The tenant a goal asks for. -/
def SessionGoal.preferred : SessionGoal → Option Uuid
  | .issue preferredTenantId => preferredTenantId
  | .switchTenant tenantId => some tenantId
  | .me tenantId => some tenantId

/-- A call that goes on to mint has its seat from the list it read. -/
theorem SessionGoal.decide_eq_minting {goal : SessionGoal} {user owner : AppUser}
    {memberships seats : List MembershipRow} {active : MembershipRow}
    (minted : goal.decide user memberships = .minting owner seats active) :
    owner = user ∧ seats = memberships ∧ activeSeat memberships goal.preferred = some active := by
  cases goal with
  | issue preferredTenantId => exact issueFrom_eq_minting minted
  | switchTenant tenantId =>
    rw [SessionGoal.decide] at minted
    by_cases held : memberships.any (·.tenantId = tenantId)
    · rw [if_pos held] at minted
      exact issueFrom_eq_minting minted
    · rw [if_neg held] at minted
      cases minted
  | me tenantId =>
    rw [SessionGoal.decide] at minted
    cases found : memberships.find? (·.tenantId = tenantId) with
    | none =>
      rw [found] at minted
      cases minted
    | some held =>
      rw [found] at minted
      cases minted

/-- A decision signs nothing yet: the call goes on to mint, or has an answer without tokens. -/
theorem SessionGoal.decide_unsigned {goal : SessionGoal} {user : AppUser}
    {memberships : List MembershipRow} :
    (∃ owner seats active, goal.decide user memberships = .minting owner seats active) ∨
      (goal.decide user memberships).Quiet := by
  have issues : ∀ preferredTenantId,
      (∃ owner seats active, issueFrom user memberships preferredTenantId =
        .minting owner seats active) ∨ (issueFrom user memberships preferredTenantId).Quiet := by
    intro preferredTenantId
    rw [issueFrom]
    cases activeSeat memberships preferredTenantId with
    | none => exact Or.inr trivial
    | some active => exact Or.inl ⟨user, memberships, active, rfl⟩
  cases goal with
  | issue preferredTenantId => exact issues preferredTenantId
  | switchTenant tenantId =>
    rw [SessionGoal.decide]
    by_cases held : memberships.any (·.tenantId = tenantId)
    · rw [if_pos held]
      exact issues _
    · rw [if_neg held]
      exact Or.inr trivial
  | me tenantId =>
    rw [SessionGoal.decide]
    cases memberships.find? (·.tenantId = tenantId) with
    | none => exact Or.inr trivial
    | some held => exact Or.inr trivial

end Sambung
