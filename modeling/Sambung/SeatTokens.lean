/-
This file proves what is left of a seat once it is gone.

Only the calls that had read the seat before can still speak for it. Each of them signs one access
token and one refresh token for it at most and then has nothing left to sign with, so the tokens
that come after the removal are counted off against those calls, one by one. A refresh, a switch of
tenant or a login that comes later reads the seats anew and finds the seat no more.

An access token carries its own end, a quarter of an hour from its signing. Where no call was about
to sign when the seat went, the guard admits nobody to it after that time.
-/

import Sambung.SessionAnswers

namespace Sambung

/-! ### Tokens signed since -/

section Signed

variable {Token : Type} {names : Token → Prop} [DecidablePred names]
  {signs signs' : Token → Nat → Prop} {before after : List Token} {signers : List Nat}
  {token : Token} {id : Nat}

/-- Of the tokens signed since `before`, those the condition names were signed by these calls, one
by each and in this order. -/
def SignedBy (names : Token → Prop) [DecidablePred names] (signs : Token → Nat → Prop)
    (before after : List Token) (signers : List Nat) : Prop :=
  signers.Nodup ∧ ∃ signed, after = before ++ signed ∧
    List.Forall₂ signs (signed.filter fun token => names token) signers

theorem SignedBy.refl (tokens : List Token) : SignedBy names signs tokens tokens [] :=
  ⟨List.nodup_nil, [], (List.append_nil _).symm, .nil⟩

theorem SignedBy.mono (signed : SignedBy names signs before after signers)
    (weaker : ∀ token id, names token → signs token id → signs' token id) :
    SignedBy names signs' before after signers := by
  obtain ⟨apart, new, same, signed⟩ := signed
  have named : ∀ token ∈ new.filter fun token => names token, names token :=
    fun token member => of_decide_eq_true (List.mem_filter.mp member).2
  refine ⟨apart, new, same, ?_⟩
  exact ((List.forall₂_and_left _ _).mpr ⟨named, signed⟩).imp fun token id both =>
    weaker token id both.1 both.2

/-- A call that has signed none yet signs one. -/
theorem SignedBy.sign (signed : SignedBy names signs before after signers) (named : names token)
    (first : id ∉ signers) (signs_ : signs token id) :
    SignedBy names signs before (after ++ [token]) (signers ++ [id]) := by
  obtain ⟨apart, new, rfl, signed⟩ := signed
  refine ⟨?_, new ++ [token], List.append_assoc _ _ _, ?_⟩
  · refine List.nodup_append.mpr ⟨apart, List.nodup_singleton _, fun other member last isLast => ?_⟩
    rw [List.mem_singleton.mp isLast]
    exact fun same => first (same ▸ member)
  · have alone : [token].filter (fun token => names token) = [token] :=
      List.filter_cons_of_pos (decide_eq_true named)
    rw [List.filter_append, alone]
    exact List.rel_append signed (.cons signs_ .nil)

/-- A token that names another seat is not counted. -/
theorem SignedBy.pass (signed : SignedBy names signs before after signers)
    (other : ¬ names token) : SignedBy names signs before (after ++ [token]) signers := by
  obtain ⟨apart, new, rfl, signed⟩ := signed
  refine ⟨apart, new ++ [token], List.append_assoc _ _ _, ?_⟩
  have none_ : [token].filter (fun token => names token) = [] :=
    List.filter_cons_of_neg (by simpa using other)
  rw [List.filter_append, none_, List.append_nil]
  exact signed

/-- Where a token that is counted would be the first of its call, the call is counted with it, and
no other call is. -/
theorem SignedBy.note (signed : SignedBy names signs before after signers)
    (first : names token → id ∉ signers ∧ signs token id) :
    ∃ noted, SignedBy names signs before (after ++ [token]) noted ∧
      ∀ other, other ≠ id → other ∉ signers → other ∉ noted := by
  by_cases named : names token
  · refine ⟨signers ++ [id], signed.sign named (first named).1 (first named).2, ?_⟩
    intro other apart absent member
    rcases List.mem_append.mp member with old | last
    · exact absent old
    · exact apart (List.mem_singleton.mp last)
  · exact ⟨signers, signed.pass named, fun other _ absent => absent⟩

theorem exists_of_forall₂ {tokens : List Token} (signed : List.Forall₂ signs tokens signers)
    (member : token ∈ tokens) : ∃ id ∈ signers, signs token id := by
  induction signed with
  | nil => cases member
  | @cons first signer tokens signers signs_ rest inductionHypothesis =>
    rcases List.mem_cons.mp member with rfl | inRest
    · exact ⟨signer, List.mem_cons_self, signs_⟩
    · obtain ⟨id, isSigner, signsToken⟩ := inductionHypothesis inRest
      exact ⟨id, List.mem_cons_of_mem _ isSigner, signsToken⟩

theorem SignedBy.mem (signed : SignedBy names signs before after signers) (member : token ∈ after)
    (named : names token) : token ∈ before ∨ ∃ id ∈ signers, signs token id := by
  obtain ⟨-, new, rfl, signed⟩ := signed
  rcases List.mem_append.mp member with old | since
  · exact Or.inl old
  · exact Or.inr (exists_of_forall₂ signed (List.mem_filter.mpr ⟨since, decide_eq_true named⟩))

end Signed

/-! ### A seat that is gone -/

section Gone

variable {compare : String → String → Bool} {start gone state after : SessionState}
  {userId tenantId : Uuid} {id : Nat}

/-- The account holds no seat at the tenant. -/
def SessionState.Unseated (userId tenantId : Uuid) (state : SessionState) : Prop :=
  ∀ seat ∈ state.team.db.membership, ¬ (seat.appUserId = userId ∧ seat.tenantId = tenantId)

/-- The call is about to sign for the seat. -/
def SessionCall.Mints (userId tenantId : Uuid) (call : SessionCall) : Prop :=
  ∃ user memberships active, call = .minting user memberships active ∧ user.id = userId ∧
    active.tenantId = tenantId

theorem SessionCall.Quiet.not_mints {call : SessionCall} (quiet : call.Quiet) :
    ¬ call.Mints userId tenantId := by
  rintro ⟨user, memberships, active, rfl, -, -⟩
  exact quiet

/-- The call has read these seats of the account and has one of them to sign a refresh token
for. -/
def SessionCall.Owes (user : AppUser) (memberships : List MembershipRow) (active : MembershipRow)
    (call : SessionCall) : Prop :=
  call = .minting user memberships active ∨
    ∃ access, call = .signing user memberships active access

/-- The call was about to sign at `gone` and has signed this access token since. -/
def SessionState.SignsAccess (gone state : SessionState) (token : AccessToken) (id : Nat) :
    Prop :=
  ∃ user memberships active clock, gone.calls id = .minting user memberships active ∧
    (gone.team.now ≤ clock ∧ clock ≤ state.team.now) ∧
    token = ⟨user.id, active.tenantId, active.role, epochSeconds clock + ACCESS_TTL⟩

/-- The call was under way to sign at `gone` and has signed this refresh token since. -/
def SessionState.SignsRefresh (gone state : SessionState) (token : RefreshToken) (id : Nat) :
    Prop :=
  ∃ user memberships active clock, (gone.calls id).Owes user memberships active ∧
    (gone.team.now ≤ clock ∧ clock ≤ state.team.now) ∧
    token = ⟨user.id, some active.tenantId, epochSeconds clock + REFRESH_TTL⟩

/-- The call had read the seat in an earlier state of the run, and had it to sign for at `gone`. -/
def SessionState.HadRead (gone : SessionState) (compare : String → String → Bool)
    (start : SessionState) (userId tenantId : Uuid) (id : Nat) : Prop :=
  ∃ user memberships active, (gone.calls id).Owes user memberships active ∧ user.id = userId ∧
    active.tenantId = tenantId ∧ SeatsRead compare start gone user memberships ∧
    active ∈ memberships

/-- No token lives longer than its time from now. -/
def SessionState.Bounded (state : SessionState) : Prop :=
  ∀ token ∈ state.access, token.exp ≤ epochSeconds state.team.now + ACCESS_TTL

theorem epochSeconds_mono {first second : Instant} (le : first ≤ second) :
    epochSeconds first ≤ epochSeconds second :=
  Int.ediv_le_ediv (by decide) le

theorem SessionStep.bounded (bounded : state.Bounded)
    (step : SessionStep compare state id after) : after.Bounded := by
  obtain ⟨forward, effect⟩ := step.effect
  have later := epochSeconds_mono forward
  have kept : ∀ token ∈ state.access, token.exp ≤ epochSeconds after.team.now + ACCESS_TTL :=
    fun token member => (bounded token member).trans (by omega)
  intro token member
  cases effect with
  | quiet access refresh calls => exact kept token (access ▸ member)
  | listed user goal runs same => exact kept token (by rw [same] at member; exact member)
  | signed user memberships active signed runs named access refresh calls =>
    rw [access, List.mem_append, List.mem_singleton] at member
    obtain before | rfl := member
    · exact kept token before
    · rw [named]
      exact add_le_add_left later _
  | answered user memberships active signed refresh runs named access stored calls =>
    exact kept token (access ▸ member)

theorem SessionRun.bounded (bounded : start.Bounded) (run : SessionRun compare start state) :
    state.Bounded := by
  induction run with
  | refl => exact bounded
  | tail _ step inductionHypothesis =>
    obtain ⟨id, step⟩ := step
    exact step.bounded inductionHypothesis

/-- What is left of a seat: a call that signs for it yet is one that was about to when it went, and
is not among those that have signed; and the tokens since then are signed by those. -/
structure Leftover (userId tenantId : Uuid) (gone state : SessionState)
    (signers refreshers : List Nat) : Prop where
  minting : ∀ id, (state.calls id).Mints userId tenantId →
    state.calls id = gone.calls id ∧ id ∉ signers ∧ id ∉ refreshers
  signing : ∀ id user memberships active access,
    state.calls id = .signing user memberships active access → user.id = userId →
      active.tenantId = tenantId →
        (gone.calls id).Owes user memberships active ∧ id ∉ refreshers
  access : SignedBy (AccessToken.Names userId tenantId) (gone.SignsAccess state) gone.access
    state.access signers
  refresh : SignedBy (RefreshToken.Names userId tenantId) (gone.SignsRefresh state) gone.refresh
    state.refresh refreshers
  now : gone.team.now ≤ state.team.now

theorem Leftover.refl (gone : SessionState) : Leftover userId tenantId gone gone [] [] where
  minting _ _ := ⟨rfl, List.not_mem_nil, List.not_mem_nil⟩
  signing _ _ _ _ access runs _ _ := ⟨Or.inr ⟨access, runs⟩, List.not_mem_nil⟩
  access := .refl _
  refresh := .refl _
  now := le_refl _

/-- The tokens are signed by the same calls as time passes. -/
theorem SessionState.SignsAccess.later {token : AccessToken}
    (signs : gone.SignsAccess state token id) (forward : state.team.now ≤ after.team.now) :
    gone.SignsAccess after token id := by
  obtain ⟨user, memberships, active, clock, runs, ⟨since, until_⟩, same⟩ := signs
  exact ⟨user, memberships, active, clock, runs, ⟨since, until_.trans forward⟩, same⟩

theorem SessionState.SignsRefresh.later {token : RefreshToken}
    (signs : gone.SignsRefresh state token id) (forward : state.team.now ≤ after.team.now) :
    gone.SignsRefresh after token id := by
  obtain ⟨user, memberships, active, clock, owes, ⟨since, until_⟩, same⟩ := signs
  exact ⟨user, memberships, active, clock, owes, ⟨since, until_.trans forward⟩, same⟩

/-- What has been signed stays so as time passes. -/
theorem Leftover.later {signers refreshers : List Nat}
    (left : Leftover userId tenantId gone state signers refreshers)
    (forward : state.team.now ≤ after.team.now) :
    SignedBy (AccessToken.Names userId tenantId) (gone.SignsAccess after) gone.access state.access
        signers ∧
      SignedBy (RefreshToken.Names userId tenantId) (gone.SignsRefresh after) gone.refresh
        state.refresh refreshers :=
  ⟨left.access.mono fun _ _ _ signs => signs.later forward,
    left.refresh.mono fun _ _ _ signs => signs.later forward⟩

/-- The call that signs an access token for the seat goes on to its refresh token. -/
theorem Leftover.sign {signers refreshers : List Nat} {user : AppUser}
    {memberships : List MembershipRow} {active : MembershipRow} {token : AccessToken}
    (left : Leftover userId tenantId gone state signers refreshers)
    (forward : state.team.now ≤ after.team.now)
    (runs : state.calls id = .minting user memberships active)
    (named : token =
      ⟨user.id, active.tenantId, active.role, epochSeconds state.team.now + ACCESS_TTL⟩)
    (access : after.access = state.access ++ [token]) (refresh : after.refresh = state.refresh)
    (calls : after.calls =
      Function.update state.calls id (.signing user memberships active token)) :
    ∃ signers', Leftover userId tenantId gone after signers' refreshers := by
  have own : after.calls id = .signing user memberships active token := by
    rw [calls, Function.update_self]
  have others : ∀ other, other ≠ id → after.calls other = state.calls other := by
    intro other apart
    rw [calls, Function.update_of_ne apart]
  obtain ⟨granted, refreshed⟩ := left.later forward
  have first : token.Names userId tenantId →
      id ∉ signers ∧ gone.SignsAccess after token id := by
    intro names
    rw [named] at names
    obtain ⟨same, unsigned, -⟩ :=
      left.minting id ⟨user, memberships, active, runs, names.1, names.2⟩
    exact ⟨unsigned, user, memberships, active, state.team.now, same.symm.trans runs,
      ⟨left.now, forward⟩, named⟩
  obtain ⟨signers', noted, absent⟩ := granted.note first
  refine ⟨signers', fun other mints => ?_,
    fun other owner seats chosen signed running ofUser ofTenant => ?_, access ▸ noted,
    refresh ▸ refreshed, left.now.trans forward⟩
  · have apart : other ≠ id := by
      rintro rfl
      rw [own] at mints
      exact absurd mints (by rintro ⟨_, _, _, ⟨⟩, -, -⟩)
    rw [others other apart] at mints ⊢
    obtain ⟨stands, unsigned, unrefreshed⟩ := left.minting other mints
    exact ⟨stands, absent other apart unsigned, unrefreshed⟩
  · by_cases isOwn : other = id
    · rw [isOwn, own] at running
      cases running
      obtain ⟨same, -, unrefreshed⟩ :=
        left.minting id ⟨user, memberships, active, runs, ofUser, ofTenant⟩
      rw [isOwn]
      exact ⟨Or.inl (same.symm.trans runs), unrefreshed⟩
    · rw [others other isOwn] at running
      exact left.signing other owner seats chosen signed running ofUser ofTenant

/-- The call that signs a refresh token for the seat has nothing left to sign for it. -/
theorem Leftover.answer {signers refreshers : List Nat} {user : AppUser}
    {memberships : List MembershipRow} {active : MembershipRow} {token : AccessToken}
    {refresh : RefreshToken} (left : Leftover userId tenantId gone state signers refreshers)
    (forward : state.team.now ≤ after.team.now)
    (runs : state.calls id = .signing user memberships active token)
    (named : refresh = ⟨user.id, some active.tenantId,
      epochSeconds state.team.now + REFRESH_TTL⟩)
    (access : after.access = state.access) (signed : after.refresh = state.refresh ++ [refresh])
    (calls : after.calls = Function.update state.calls id
      (.session token refresh (toSession user active memberships))) :
    ∃ refreshers', Leftover userId tenantId gone after signers refreshers' := by
  have own : after.calls id = .session token refresh (toSession user active memberships) := by
    rw [calls, Function.update_self]
  have others : ∀ other, other ≠ id → after.calls other = state.calls other := by
    intro other apart
    rw [calls, Function.update_of_ne apart]
  obtain ⟨granted, refreshed⟩ := left.later forward
  have first : refresh.Names userId tenantId →
      id ∉ refreshers ∧ gone.SignsRefresh after refresh id := by
    intro names
    rw [named] at names
    obtain ⟨owes, unrefreshed⟩ := left.signing id user memberships active token runs names.1
      (Option.some.inj names.2)
    exact ⟨unrefreshed, user, memberships, active, state.team.now, owes, ⟨left.now, forward⟩,
      named⟩
  obtain ⟨refreshers', noted, absent⟩ := refreshed.note first
  refine ⟨refreshers', fun other mints => ?_,
    fun other owner seats chosen earlier running ofUser ofTenant => ?_, access ▸ granted,
    signed ▸ noted, left.now.trans forward⟩
  · have apart : other ≠ id := by
      rintro rfl
      rw [own] at mints
      exact absurd mints (by rintro ⟨_, _, _, ⟨⟩, -, -⟩)
    rw [others other apart] at mints ⊢
    obtain ⟨stands, unsigned, unrefreshed⟩ := left.minting other mints
    exact ⟨stands, unsigned, absent other apart unrefreshed⟩
  · have apart : other ≠ id := by
      rintro rfl
      rw [own] at running
      cases running
    rw [others other apart] at running
    obtain ⟨owes, unrefreshed⟩ :=
      left.signing other owner seats chosen earlier running ofUser ofTenant
    exact ⟨owes, absent other apart unrefreshed⟩

/-- A step that meets no seat adds nothing to what is left of it. -/
theorem SessionStep.leftover {signers refreshers : List Nat}
    (left : Leftover userId tenantId gone state signers refreshers)
    (unseated : state.Unseated userId tenantId) (step : SessionStep compare state id after) :
    ∃ signers' refreshers', Leftover userId tenantId gone after signers' refreshers' := by
  obtain ⟨forward, effect⟩ := step.effect
  obtain ⟨granted, refreshed⟩ := left.later forward
  cases effect with
  | quiet access refresh calls =>
    refine ⟨signers, refreshers, fun other mints => ?_,
      fun other owner seats chosen signed running => ?_, access ▸ granted, refresh ▸ refreshed,
      left.now.trans forward⟩
    · obtain same | quiet := calls other
      · rw [same] at mints ⊢
        exact left.minting other mints
      · exact absurd mints quiet.not_mints
    · obtain same | quiet := calls other
      · rw [same] at running
        exact left.signing other owner seats chosen signed running
      · rw [running] at quiet
        exact quiet.elim
  | listed user goal runs same =>
    subst same
    have others : ∀ other, other ≠ id → (state.put id
        (goal.decide user (state.membershipsOf user.id))).calls other = state.calls other :=
      fun other apart => Function.update_of_ne apart _ _
    have own : (state.put id (goal.decide user (state.membershipsOf user.id))).calls id =
        goal.decide user (state.membershipsOf user.id) := Function.update_self _ _ _
    refine ⟨signers, refreshers, fun other mints => ?_,
      fun other owner seats chosen signed running => ?_, granted, refreshed,
      left.now.trans forward⟩
    · by_cases isOwn : other = id
      · rw [isOwn, own] at mints
        obtain ⟨owner, seats, active, minted, ofUser, ofTenant⟩ := mints
        obtain ⟨rfl, -, chosen⟩ := SessionGoal.decide_eq_minting minted
        exact absurd ⟨ofUser, ofTenant⟩
          (unseated _ (SessionState.mem_membershipsOf (mem_of_activeSeat chosen)))
      · rw [others other isOwn] at mints ⊢
        exact left.minting other mints
    · by_cases isOwn : other = id
      · rw [isOwn, own] at running
        obtain ⟨_, _, _, minted⟩ | quiet :=
          @SessionGoal.decide_unsigned goal user (state.membershipsOf user.id)
        · rw [running] at minted
          cases minted
        · rw [running] at quiet
          exact quiet.elim
      · rw [others other isOwn] at running
        exact left.signing other owner seats chosen signed running
  | signed user memberships active token runs named access refresh calls =>
    obtain ⟨signers', leftover⟩ := left.sign forward runs named access refresh calls
    exact ⟨signers', refreshers, leftover⟩
  | answered user memberships active token refresh runs named access signed calls =>
    obtain ⟨refreshers', leftover⟩ := left.answer forward runs named access signed calls
    exact ⟨signers, refreshers', leftover⟩

/-- Steps between states without the seat. -/
abbrev UnseatedRun (compare : String → String → Bool) (userId tenantId : Uuid) :
    SessionState → SessionState → Prop :=
  Relation.ReflTransGen fun state after =>
    state.Leads compare after ∧ after.Unseated userId tenantId

theorem UnseatedRun.leftover (unseated : gone.Unseated userId tenantId)
    (run : UnseatedRun compare userId tenantId gone state) :
    (∃ signers refreshers, Leftover userId tenantId gone state signers refreshers) ∧
      state.Unseated userId tenantId := by
  induction run with
  | refl => exact ⟨⟨[], [], .refl gone⟩, unseated⟩
  | tail _ step inductionHypothesis =>
    obtain ⟨⟨signers, refreshers, left⟩, without⟩ := inductionHypothesis
    obtain ⟨id, taken⟩ := step.1
    exact ⟨taken.leftover left without, step.2⟩

/-- A call that owes a token for the seat had read the seat before. -/
theorem SessionRun.hadRead (fresh : start.Fresh) (run : SessionRun compare start gone)
    {user : AppUser} {memberships : List MembershipRow} {active : MembershipRow}
    (owes : (gone.calls id).Owes user memberships active) (ofUser : user.id = userId)
    (ofTenant : active.tenantId = tenantId) : gone.HadRead compare start userId tenantId id := by
  have grounded := (SessionRun.grounded fresh run).2.2 id
  have seats : SeatsRead compare start gone user memberships ∧
      memberships.find? (·.tenantId = active.tenantId) = some active := by
    rcases owes with minting | ⟨access, signing⟩
    · rw [minting] at grounded
      exact grounded
    · rw [signing] at grounded
      exact ⟨grounded.1, grounded.2.1⟩
  exact ⟨user, memberships, active, owes, ofUser, ofTenant, seats.1,
    List.mem_of_find?_eq_some seats.2⟩

/-- Once a seat is gone, and as long as it is not given again, every access token and every refresh
token that names it was signed before, or is the one that a call of its own signed which had read
the seat before it went; different tokens are those of different calls. Where no call was about to
sign for the seat when it went, none ever is, and a quarter of an hour later the guard admits nobody
to it. The run up to then starts from tables in order with no call under way and no access token
signed; every call, step of the team and passing of time may come in any order. -/
theorem removed_seat_runs_out (fresh : start.Fresh) (unsigned : start.access = [])
    (run : SessionRun compare start gone) (unseated : gone.Unseated userId tenantId)
    (later : UnseatedRun compare userId tenantId gone state) :
    (∃ signers, SignedBy (AccessToken.Names userId tenantId) (fun token id =>
      gone.HadRead compare start userId tenantId id ∧ gone.SignsAccess state token id)
        gone.access state.access signers) ∧
    (∃ signers, SignedBy (RefreshToken.Names userId tenantId) (fun token id =>
      gone.HadRead compare start userId tenantId id ∧ gone.SignsRefresh state token id)
        gone.refresh state.refresh signers) ∧
    ((∀ id, ¬ (gone.calls id).Mints userId tenantId) →
      (∀ id, ¬ (state.calls id).Mints userId tenantId) ∧
      (gone.team.now + ACCESS_TTL * 1000 ≤ state.team.now → ∀ bearer role,
        state.guard bearer ≠ .ok (.user userId tenantId role))) := by
  obtain ⟨⟨signers, refreshers, left⟩, -⟩ := UnseatedRun.leftover unseated later
  refine ⟨⟨signers, ?_⟩, ⟨refreshers, ?_⟩, fun none_ => ⟨fun id mints => ?_, ?_⟩⟩
  · refine left.access.mono fun token id names signs => ⟨?_, signs⟩
    obtain ⟨user, memberships, active, clock, minting, -, rfl⟩ := signs
    exact run.hadRead fresh (Or.inl minting) names.1 names.2
  · refine left.refresh.mono fun token id names signs => ⟨?_, signs⟩
    obtain ⟨user, memberships, active, clock, owes, -, rfl⟩ := signs
    exact run.hadRead fresh owes names.1 (Option.some.inj names.2)
  · have same := (left.minting id mints).1
    exact none_ id (same ▸ mints)
  intro passed bearer role admitted
  have bounded : gone.Bounded := SessionRun.bounded
    (fun token member => absurd (unsigned ▸ member) List.not_mem_nil) run
  cases bearer with
  | none => cases admitted
  | some token =>
    rw [SessionState.guard] at admitted
    by_cases verified : token ∈ state.access ∧ epochSeconds state.team.now < token.exp
    · rw [if_pos verified] at admitted
      have names : token.Names userId tenantId := by
        cases admitted
        exact ⟨rfl, rfl⟩
      obtain before | ⟨id, -, user, memberships, active, clock, runs, -, same⟩ :=
        left.access.mem verified.1 names
      · have expires := bounded token before
        have elapsed : epochSeconds gone.team.now + ACCESS_TTL ≤ epochSeconds state.team.now := by
          have shifted := epochSeconds_mono passed
          rw [epochSeconds, Int.add_mul_ediv_right _ _ (by decide)] at shifted
          exact shifted
        exact absurd verified.2 (not_lt.mpr (expires.trans elapsed))
      · rw [same] at names
        exact none_ id ⟨user, memberships, active, runs, names.1, names.2⟩
    · rw [if_neg verified] at admitted
      cases admitted

end Gone

/-- She signs in on a second device, whose call has read her seat when the owner removes her. -/
def villaReading : SessionState :=
  { villaSignedIn with
    calls := Function.update villaSignedIn.calls 2 (.minting villaUser [villaSeat] villaSeat) }

/-- The owner has removed her then. -/
def villaRaced : SessionState :=
  { villaReading with
    team := { villaReading.team with db := villaReading.team.db.removeStaff 7 6 } }

theorem villaSignedIn_reads : SessionRun hashMatches villaSignedIn villaReading := by
  have comparing : SessionRun hashMatches villaSignedIn _ :=
    .single ⟨2, .login "sari@example.com" "sari" villaUser rfl rfl⟩
  have listing := comparing.tail ⟨2, .rightPassword _ _ SessionState.put_calls (by decide)⟩
  have minting := listing.tail ⟨2, .listed _ _ SessionState.put_calls⟩
  refine cast (congrArg (SessionRun hashMatches villaSignedIn) ?_) minting
  simp only [SessionState.put, Function.update_idem]
  rfl

/-- A call that had read her seat signs one more token after her removal. Without such a call her
token verifies yet when she is removed, and a quarter of an hour later none does. -/
theorem removed_seat_runs_out_villa :
    (∃ state signers, SessionRun hashMatches villaRaced state ∧
      state.access = villaRaced.access ++ [⟨6, 7, .staff, 900⟩] ∧
      SignedBy (AccessToken.Names 6 7) (fun token id =>
        villaRaced.HadRead hashMatches villaSeated 6 7 id ∧ villaRaced.SignsAccess state token id)
          villaRaced.access state.access signers) ∧
    SessionRun hashMatches villaSeated villaUnseated ∧
      villaUnseated.guard (some ⟨6, 7, .staff, 900⟩) = .ok (.user 6 7 .staff) ∧
      ∃ state, SessionRun hashMatches villaUnseated state ∧
        ∀ bearer role, state.guard bearer ≠ .ok (.user 6 7 role) := by
  have unseated : villaUnseated.Unseated 6 7 := by
    show ∀ seat ∈ [(⟨5, 7, .owner⟩ : Membership)], _
    decide
  refine ⟨?_, ?_⟩
  · have removes : SessionRun hashMatches villaReading villaRaced := by
      refine .single ⟨1, .team 0 _ villaReading.seatedAt
        (.removeStaff 7 6 rfl (fun _ _ => ?_) fun _ _ _ _ _ _ => ?_) fun _ _ => rfl⟩
      · exact ⟨List.not_mem_nil, List.not_mem_nil⟩
      · exact ⟨List.not_mem_nil, List.not_mem_nil⟩
    have signs : SessionStep hashMatches villaRaced 2 _ :=
      .signAccess villaUser [villaSeat] villaSeat rfl
    obtain ⟨⟨signers, signed⟩, -⟩ := removed_seat_runs_out villaSeated_fresh rfl
      ((villaSeated_signsIn.trans villaSignedIn_reads).trans removes) unseated
      (.single ⟨⟨2, signs⟩, unseated⟩)
    exact ⟨_, signers, .single ⟨2, signs⟩, rfl, signed⟩
  · have passed : SessionStep hashMatches villaUnseated 1 _ :=
      .team 0 _ villaUnseated.seatedAt (.tick 900000 (by decide)) fun _ _ => rfl
    have idle : ∀ id, ¬ (villaUnseated.calls id).Mints 6 7 := by
      rintro id ⟨user, memberships, active, minting, -, -⟩
      by_cases first : id = 0
      · rw [first] at minting
        cases minting
      · have other : villaUnseated.calls id = .idle := Function.update_of_ne first _ _
        rw [other] at minting
        cases minting
    refine ⟨villaSeated_signsIn.trans villa_removal, by decide, _, .single ⟨1, passed⟩, ?_⟩
    exact ((removed_seat_runs_out villaSeated_fresh rfl
      (villaSeated_signsIn.trans villa_removal) unseated
      (.single ⟨⟨1, passed⟩, unseated⟩)).2.2 idle).2 (by decide)

end Sambung
