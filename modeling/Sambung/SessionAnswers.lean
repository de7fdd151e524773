/-
This file proves that a session is what `me` answers.

A session is composed of an account and of the seats it was listed with, read in two statements
with anything in between. No step deletes an account or changes its address, and ids are not drawn
twice, so the account a call has found is the one its id finds in every later state. Whatever ran
beside the call, its session is therefore what `me` answers for the same id in the state the seats
were read in; and in every state the run goes on to, `me` and a refresh read the same account and
the same seats, and agree on the one the token names.
-/

import Sambung.SeatedAccounts
import Sambung.Sessions

namespace Sambung

/-! ### Accounts stay -/

/-- An account keeps its address. -/
abbrev AppUser.SameAddress (user later : AppUser) : Prop := later.email = user.email

/-- The accounts of one state are found under their ids in the other, at their addresses. -/
abbrev AccountsStay (before after : List AppUser) : Prop :=
  Table.Evolves AppUser.id AppUser.SameAddress (fun _ => True) before after

theorem AppUser.sameAddress_refl (user : AppUser) : user.SameAddress user := rfl

theorem AccountsStay.refl (users : List AppUser) : AccountsStay users users :=
  Table.Evolves.refl AppUser.sameAddress_refl users

theorem AccountsStay.trans {first second third : List AppUser}
    (earlier : AccountsStay first second) (later : AccountsStay second third) :
    AccountsStay first third :=
  Table.Evolves.trans (fun _ _ _ before after => after.trans before) (fun _ _ _ _ => trivial)
    earlier later

theorem AccountsStay.append (users : List AppUser) (user : AppUser) :
    AccountsStay users (users ++ [user]) :=
  Table.Evolves.append AppUser.sameAddress_refl trivial users

theorem AccountWrite.accountsStay (account : AccountWrite) (users : List AppUser) :
    AccountsStay users (account.apply users) := by
  cases account with
  | created user => exact .append users user
  | reclaimed userId passwordHash =>
    show AccountsStay users (Table.updateWhere (fun user => user.id = userId)
      (fun user => { user with passwordHash }) users)
    refine Table.Evolves.updateWhere ?_ AppUser.sameAddress_refl ?_ users
    · exact fun user _ => rfl
    · exact fun user _ => rfl
  | verified userId => exact .refl users

/-- A sound write leaves the ids of the accounts a key. -/
theorem AccountWrite.Sound.keyed {db : TeamDb} {tx : AcceptTx} {account : AccountWrite}
    (sound : account.Sound db tx) (keyed : (db.appUser.map AppUser.id).Nodup) :
    ((account.apply db.appUser).map AppUser.id).Nodup := by
  cases account with
  | created user =>
    show ((db.appUser ++ [user]).map AppUser.id).Nodup
    rw [List.map_append, List.nodup_append]
    refine ⟨keyed, List.nodup_singleton _, fun id stored other new same => ?_⟩
    obtain ⟨row, member, rfl⟩ := List.mem_map.mp stored
    rw [List.map_singleton, List.mem_singleton] at new
    exact sound row member (same.trans new)
  | reclaimed userId passwordHash =>
    have ids : ((AccountWrite.reclaimed userId passwordHash).apply db.appUser).map AppUser.id =
        db.appUser.map AppUser.id :=
      Table.map_updateWhere AppUser.id fun _ _ => rfl
    rw [ids]
    exact keyed
  | verified userId => exact keyed

/-- A registration adds an account under an id nobody has under way, with a seat of its own. -/
theorem TeamSafe.register {team : TeamState} (safe : TeamSafe team) {user : AppUser}
    (tenantId : Uuid) (undrawn : ∀ party, ¬ (team.tasks party).Takes (.account user.id)) :
    TeamSafe { team with
      db := { team.db with
        appUser := team.db.appUser ++ [user]
        membership := team.db.membership ++ [⟨user.id, tenantId, .owner⟩] } } where
  toTeamTables := { safe.toTeamTables with
    seats := by
      intro seat member
      rcases List.mem_append.mp member with old | new
      · obtain ⟨row, stored, id⟩ := safe.seats seat old
        exact ⟨row, List.mem_append_left _ stored, id⟩
      · rw [List.mem_singleton.mp new]
        exact ⟨user, List.mem_append_right _ List.mem_cons_self, rfl⟩ }
  respected := safe.respected
  tasks := by
    intro party
    refine (safe.tasks party).transfer safe.toTeamTables
      { now := le_refl _, property := rfl, invite := fun row member _ => member
        slot := fun row member _ _ => member, issued := fun id member _ => member
        account := fun row member held => ?_
        accountKept := fun row member => ⟨row, List.mem_append_left _ member, rfl⟩
        seat := fun seat member held => ?_
        grant := fun grant _ => Iff.rfl, assignment := fun row member _ => member }
    · rcases List.mem_append.mp member with old | new
      · exact ⟨row, old, rfl⟩
      · rw [List.mem_singleton.mp new] at held
        exact absurd held (undrawn party)
    · rcases List.mem_append.mp member with old | new
      · exact old
      · rw [List.mem_singleton.mp new] at held
        exact absurd held (undrawn party)

section Accounts

variable {compare : String → String → Bool} {start state after : SessionState} {id : Nat}

/-- The team is safe and its accounts have ids of their own. -/
structure SessionState.Keyed (state : SessionState) : Prop where
  team : TeamSafe state.team
  keyed : (state.team.db.appUser.map AppUser.id).Nodup

theorem TeamSafe.accounts {team next : TeamState} {party : Nat} (safe : TeamSafe team)
    (keyed : (team.db.appUser.map AppUser.id).Nodup) (step : TeamStep compare team party next) :
    (next.db.appUser.map AppUser.id).Nodup ∧ AccountsStay team.db.appUser next.db.appUser := by
  rcases safe.writes step with ⟨same, -⟩ | ⟨-, -, -, tx, account, seat, -, -, -, ⟨sound, -⟩,
    written, -⟩
  · rw [same]
    exact ⟨keyed, .refl _⟩
  · rw [written]
    exact ⟨sound.keyed keyed, account.accountsStay _⟩

theorem SessionState.Keyed.step (holds : state.Keyed) (step : SessionStep compare state id after) :
    after.Keyed ∧ AccountsStay state.team.db.appUser after.team.db.appUser := by
  cases step with
  | team party next seatedAt step kept =>
    obtain ⟨keyed, stay⟩ := holds.team.accounts holds.keyed step
    exact ⟨⟨holds.team.step step, keyed⟩, stay⟩
  | registered input tenantId userId passwordHash seatedAt runs absent address freshUser undrawn =>
    refine ⟨⟨TeamSafe.register holds.team tenantId undrawn, ?_⟩, .append _ _⟩
    show ((state.team.db.appUser ++ [_]).map AppUser.id).Nodup
    rw [List.map_append, List.nodup_append]
    refine ⟨holds.keyed, List.nodup_singleton _, fun id stored other new same => ?_⟩
    obtain ⟨row, member, rfl⟩ := List.mem_map.mp stored
    rw [List.map_singleton, List.mem_singleton] at new
    exact freshUser row member (same.trans new)
  | _ => exact ⟨⟨holds.team, holds.keyed⟩, .refl _⟩

theorem SessionState.Keyed.run (holds : start.Keyed) (run : SessionRun compare start state) :
    state.Keyed ∧ AccountsStay start.team.db.appUser state.team.db.appUser := by
  induction run with
  | refl => exact ⟨holds, .refl _⟩
  | tail _ step inductionHypothesis =>
    obtain ⟨taken, step⟩ := step
    obtain ⟨keyed, stay⟩ := inductionHypothesis.1.step step
    exact ⟨keyed, inductionHypothesis.2.trans stay⟩

/-! ### The account of a call -/

/-- The account is found under its id, at its address. -/
def SessionState.Knows (state : SessionState) (user : AppUser) : Prop :=
  ∃ stored, Table.byKey AppUser.id user.id state.team.db.appUser = some stored ∧
    stored.email = user.email

/-- The account a call goes on with. -/
def SessionCall.account : SessionCall → Option AppUser
  | .comparing _ user | .listing user _ | .minting user _ _ | .signing user _ _ _ => some user
  | _ => none

theorem SessionState.Knows.later {user : AppUser} (knows : state.Knows user)
    (stay : AccountsStay state.team.db.appUser after.team.db.appUser) : after.Knows user := by
  obtain ⟨stored, found, email⟩ := knows
  obtain ⟨later, foundLater, same⟩ := stay.kept user.id stored found
  exact ⟨later, foundLater, same.trans email⟩

theorem SessionState.knows_of_mem (keyed : (state.team.db.appUser.map AppUser.id).Nodup)
    {user : AppUser} (stored : user ∈ state.team.db.appUser) : state.Knows user :=
  ⟨user, Table.byKey_of_mem keyed stored, rfl⟩

theorem SessionGoal.decide_account {goal : SessionGoal} {user owner : AppUser}
    {memberships : List MembershipRow}
    (goesOn : owner ∈ (goal.decide user memberships).account) : owner = user := by
  have issues : ∀ preferredTenantId,
      owner ∈ (issueFrom user memberships preferredTenantId).account → owner = user := by
    intro preferredTenantId issued
    rw [issueFrom] at issued
    split at issued
    · cases issued
    · exact (Option.some.inj issued).symm
  cases goal with
  | issue preferredTenantId => exact issues _ goesOn
  | switchTenant tenantId =>
    rw [SessionGoal.decide] at goesOn
    split at goesOn
    · exact issues _ goesOn
    · cases goesOn
  | me tenantId =>
    rw [SessionGoal.decide] at goesOn
    split at goesOn
    · cases goesOn
    · cases goesOn

/-- The call of a step goes on with an account that is known, and the others with theirs. -/
theorem known_update {call : SessionCall}
    (known : ∀ other, ∀ user ∈ (state.calls other).account, state.Knows user)
    (stay : AccountsStay state.team.db.appUser after.team.db.appUser)
    (calls : after.calls = Function.update state.calls id call)
    (own : ∀ user ∈ call.account, after.Knows user) (other : Nat) :
    ∀ user ∈ (after.calls other).account, after.Knows user := by
  intro user goesOn
  rw [calls] at goesOn
  by_cases same : other = id
  · rw [same, Function.update_self] at goesOn
    exact own user goesOn
  · rw [Function.update_of_ne same] at goesOn
    exact (known other user goesOn).later stay

theorem SessionStep.known (holds : state.Keyed)
    (known : ∀ other, ∀ user ∈ (state.calls other).account, state.Knows user)
    (step : SessionStep compare state id after) (other : Nat) :
    ∀ user ∈ (after.calls other).account, after.Knows user := by
  have stay := (holds.step step).2
  have goOn : ∀ {user : AppUser}, (state.calls id).account = some user → state.Knows user :=
    fun goesOn => known id _ goesOn
  cases step with
  | team party next seatedAt step kept =>
    exact fun user goesOn => (known other user goesOn).later stay
  | registered input tenantId userId passwordHash seatedAt runs absent address freshUser =>
    refine known_update known stay rfl (fun user goesOn => ?_) other
    cases goesOn
    refine ⟨_, Table.byKey_append_fresh rfl fun drawn => ?_, rfl⟩
    obtain ⟨row, member, same⟩ := List.mem_map.mp drawn
    exact freshUser row member same
  | login email password user idle found =>
    refine known_update known stay rfl (fun owner goesOn => ?_) other
    cases goesOn
    exact SessionState.knows_of_mem holds.keyed (Table.mem_of_byKey found).1
  | rightPassword password user runs matches_ =>
    refine known_update known stay rfl (fun owner goesOn => ?_) other
    cases goesOn
    exact goOn (by rw [runs]; rfl)
  | userFound userId goal user runs found =>
    refine known_update known stay rfl (fun owner goesOn => ?_) other
    cases goesOn
    exact SessionState.knows_of_mem holds.keyed (Table.mem_of_byKey found).1
  | startSession party userId tenantId user idle accepted found =>
    refine known_update known stay rfl (fun owner goesOn => ?_) other
    cases goesOn
    exact SessionState.knows_of_mem holds.keyed (Table.mem_of_byKey found).1
  | listed user goal runs =>
    refine known_update known stay rfl (fun owner goesOn => ?_) other
    rw [SessionGoal.decide_account goesOn]
    exact goOn (by rw [runs]; rfl)
  | signAccess user memberships active runs =>
    refine known_update known stay rfl (fun owner goesOn => ?_) other
    cases goesOn
    exact goOn (by rw [runs]; rfl)
  | _ => exact known_update known stay rfl (fun owner goesOn => nomatch goesOn) other

end Accounts

/-! ### Whom a token names -/

/-- The token speaks for the seat. -/
abbrev AccessToken.Names (userId tenantId : Uuid) (token : AccessToken) : Prop :=
  token.sub = userId ∧ token.tenantId = tenantId

/-- The token is refreshed for the seat. -/
abbrev RefreshToken.Names (userId tenantId : Uuid) (token : RefreshToken) : Prop :=
  token.sub = userId ∧ token.tenantId = some tenantId

/-! ### A session is what `me` answers -/

section Session

variable {compare : String → String → Bool} {start state after : SessionState} {id : Nat}

/-- What a call that has verified its token answers for the account and the goal, where nothing
moves between its two statements: the account is found under its id, and its seats decide. -/
def SessionState.answers (state : SessionState) (userId : Uuid) (goal : SessionGoal) :
    SessionCall :=
  match Table.byKey AppUser.id userId state.team.db.appUser with
  | none => .refused .userGone
  | some user => goal.decide user (state.membershipsOf user.id)

theorem SessionState.put_calls {call : SessionCall} : (state.put id call).calls id = call :=
  Function.update_self _ _ _

/-- The two statements of a call that has verified its token, in a row and with nothing between
them, answer so. -/
theorem SessionState.answers_run {userId : Uuid} {goal : SessionGoal}
    (runs : state.calls id = .finding userId goal) :
    SessionRun compare state (state.put id (state.answers userId goal)) := by
  unfold SessionState.answers
  cases found : Table.byKey AppUser.id userId state.team.db.appUser with
  | none => exact .single ⟨id, .userGone userId goal runs found⟩
  | some user =>
    have listing : SessionRun compare state (state.put id (.listing user goal)) :=
      .single ⟨id, .userFound userId goal user runs found⟩
    have decided := listing.tail ⟨id, .listed user goal SessionState.put_calls⟩
    have same : (state.put id (.listing user goal)).put id
        (goal.decide user (state.membershipsOf user.id)) =
          state.put id (goal.decide user (state.membershipsOf user.id)) := by
      simp only [SessionState.put, Function.update_idem]
    rw [← same]
    exact decided

/-- The seats were those of the account in a state of the run. -/
def SeatsRead (compare : String → String → Bool) (start state : SessionState) (user : AppUser)
    (memberships : List MembershipRow) : Prop :=
  ∃ read, (SessionRun compare start read ∧ SessionRun compare read state) ∧ read.Knows user ∧
    memberships = read.membershipsOf user.id

/-- What holds of a call as long as it runs: the seats it has read were those of a state of the
run, and what it signs and answers is said of one of them. -/
def SessionCall.Grounded (compare : String → String → Bool) (start state : SessionState) :
    SessionCall → Prop
  | .minting user memberships active =>
    SeatsRead compare start state user memberships ∧
      memberships.find? (·.tenantId = active.tenantId) = some active
  | .signing user memberships active access =>
    SeatsRead compare start state user memberships ∧
      memberships.find? (·.tenantId = active.tenantId) = some active ∧
      access.Names user.id active.tenantId ∧ access.role = active.role
  | .session access refresh body =>
    (∃ read, (SessionRun compare start read ∧ SessionRun compare read state) ∧
      read.answers access.sub (.me access.tenantId) = .answeredMe body) ∧
    access.Names body.userId body.tenantId ∧ access.role = body.role ∧
      refresh.Names access.sub access.tenantId
  | _ => True

theorem SessionCall.Quiet.grounded {call : SessionCall} (quiet : call.Quiet) :
    call.Grounded compare start state := by
  cases call with
  | minting user memberships active => exact quiet.elim
  | signing user memberships active access => exact quiet.elim
  | session access refresh body => exact quiet.elim
  | _ => trivial

theorem SeatsRead.next {user : AppUser} {memberships : List MembershipRow}
    (read : SeatsRead compare start state user memberships) (step : state.Leads compare after) :
    SeatsRead compare start after user memberships := by
  obtain ⟨earlier, ⟨before, later⟩, holds⟩ := read
  exact ⟨earlier, ⟨before, later.tail step⟩, holds⟩

/-- What a call is grounded in stays in the run. -/
theorem SessionCall.Grounded.next {call : SessionCall}
    (grounded : call.Grounded compare start state) (step : state.Leads compare after) :
    call.Grounded compare start after := by
  cases call with
  | minting user memberships active => exact ⟨grounded.1.next step, grounded.2⟩
  | signing user memberships active access => exact ⟨grounded.1.next step, grounded.2⟩
  | session access refresh body =>
    obtain ⟨⟨read, ⟨earlier, later⟩, answers⟩, names⟩ := grounded
    exact ⟨⟨read, ⟨earlier, later.tail step⟩, answers⟩, names⟩
  | _ => trivial

/-- The account as it is stored makes the same session as the one the call has read. -/
theorem SeatsRead.answers {user : AppUser} {memberships : List MembershipRow}
    {active : MembershipRow} (read : SeatsRead compare start state user memberships)
    (chosen : memberships.find? (·.tenantId = active.tenantId) = some active) :
    ∃ read, (SessionRun compare start read ∧ SessionRun compare read state) ∧
      read.answers user.id (.me active.tenantId) =
        .answeredMe (toSession user active memberships) := by
  obtain ⟨earlier, between, ⟨stored, found, email⟩, rfl⟩ := read
  have sameId : stored.id = user.id := (Table.mem_of_byKey found).2
  refine ⟨earlier, between, ?_⟩
  rw [SessionState.answers, found]
  dsimp only
  rw [SessionGoal.decide, sameId, chosen]
  dsimp only
  rw [toSession, toSession, sameId, email]

theorem SessionStep.grounded (run : SessionRun compare start state)
    (known : ∀ other, ∀ user ∈ (state.calls other).account, state.Knows user)
    (grounded : ∀ id, (state.calls id).Grounded compare start state)
    (step : SessionStep compare state id after) (other : Nat) :
    (after.calls other).Grounded compare start after := by
  have leads : state.Leads compare after := ⟨id, step⟩
  have kept : (state.calls other).Grounded compare start after := (grounded other).next leads
  cases step.effect.2 with
  | quiet access refresh calls =>
    obtain same | quiet := calls other
    · rwa [same]
    · exact quiet.grounded
  | listed user goal runs same =>
    have calls : after.calls =
        Function.update state.calls id (goal.decide user (state.membershipsOf user.id)) := by
      rw [same]
      rfl
    rw [calls]
    by_cases own : other = id
    · rw [own, Function.update_self]
      obtain ⟨owner, seats, active, minted⟩ | quiet := SessionGoal.decide_unsigned
      · obtain ⟨rfl, rfl, chosen⟩ := SessionGoal.decide_eq_minting minted
        have knows : state.Knows user := known id user (by rw [runs]; rfl)
        rw [minted]
        exact ⟨⟨state, ⟨run, .single leads⟩, knows, rfl⟩, find?_activeSeat chosen⟩
      · exact quiet.grounded
    · rwa [Function.update_of_ne own]
  | signed user memberships active token runs named access refresh calls =>
    rw [calls]
    by_cases own : other = id
    · rw [own, Function.update_self]
      have minting := (grounded id).next leads
      rw [runs] at minting
      rw [named]
      exact ⟨minting.1, minting.2, ⟨rfl, rfl⟩, rfl⟩
    · rwa [Function.update_of_ne own]
  | answered user memberships active token refresh runs named access signed calls =>
    rw [calls]
    by_cases own : other = id
    · rw [own, Function.update_self]
      have signing := (grounded id).next leads
      rw [runs] at signing
      obtain ⟨seats, chosen, names, role⟩ := signing
      have answers := seats.answers chosen
      rw [← names.1, ← names.2] at answers
      refine ⟨answers, ⟨names.1, names.2⟩, role, ?_⟩
      rw [named]
      exact ⟨names.1.symm, congrArg some names.2.symm⟩
    · rwa [Function.update_of_ne own]

/-- Before any call: the tables are in order, ids tell the accounts apart, no call is under way. -/
structure SessionState.Fresh (state : SessionState) : Prop where
  team : state.team.Fresh
  keyed : (state.team.db.appUser.map AppUser.id).Nodup
  idle : ∀ id, state.calls id = .idle

theorem SessionRun.grounded (fresh : start.Fresh) (run : SessionRun compare start state) :
    state.Keyed ∧ (∀ id, ∀ user ∈ (state.calls id).account, state.Knows user) ∧
      ∀ id, (state.calls id).Grounded compare start state := by
  induction run with
  | refl =>
    refine ⟨⟨fresh.team.safe, fresh.keyed⟩, fun id user goesOn => ?_, fun id => ?_⟩
    · rw [fresh.idle id] at goesOn
      cases goesOn
    · rw [fresh.idle id]
      trivial
  | tail earlier step inductionHypothesis =>
    obtain ⟨taken, step⟩ := step
    obtain ⟨keyed, known, grounded⟩ := inductionHypothesis
    exact ⟨(keyed.step step).1, step.known keyed known, step.grounded earlier known grounded⟩

/-- Where the seat of a session is held, `me` answers what a refresh answers, of that seat. -/
theorem refresh_agrees_with_me {user : AppUser} {memberships : List MembershipRow}
    {tenantId : Uuid} (held : ∃ row ∈ memberships, row.tenantId = tenantId) :
    ∃ active ∈ memberships, active.tenantId = tenantId ∧
      (SessionGoal.me tenantId).decide user memberships =
        .answeredMe (toSession user active memberships) ∧
      (SessionGoal.issue (some tenantId)).decide user memberships =
        .minting user memberships active := by
  obtain ⟨row, member, ofTenant⟩ := held
  obtain ⟨active, found⟩ : ∃ active,
      memberships.find? (·.tenantId = tenantId) = some active :=
    Option.isSome_iff_exists.mp (List.find?_isSome.mpr ⟨row, member, decide_eq_true ofTenant⟩)
  have preferred : memberships.find? (fun row => some row.tenantId = some tenantId) =
      some active := by
    rw [← found]
    congr 1
    funext row
    exact decide_eq_decide.mpr Option.some_inj
  have named := List.find?_some found
  refine ⟨active, List.mem_of_find?_eq_some found, of_decide_eq_true named, ?_, ?_⟩
  · rw [SessionGoal.decide, found]
  · rw [SessionGoal.decide, issueFrom, activeSeat, preferred, Option.some_or]

/-- Where it is not, `me` refuses and a refresh goes to the default seat, or is refused. -/
theorem refresh_falls_back {user : AppUser} {memberships : List MembershipRow} {tenantId : Uuid}
    (lost : ∀ row ∈ memberships, row.tenantId ≠ tenantId) :
    (SessionGoal.me tenantId).decide user memberships = .refused .membershipGone ∧
      (SessionGoal.issue (some tenantId)).decide user memberships =
        memberships.head?.elim (.refused .noWorkspace) (.minting user memberships) := by
  have absent : memberships.find? (·.tenantId = tenantId) = none :=
    List.find?_eq_none.mpr fun row member named => lost row member (of_decide_eq_true named)
  have unpreferred : memberships.find? (fun row => some row.tenantId = some tenantId) = none :=
    List.find?_eq_none.mpr fun row member named =>
      lost row member (Option.some.inj (of_decide_eq_true named))
  constructor
  · rw [SessionGoal.decide, absent]
  · rw [SessionGoal.decide, issueFrom, activeSeat, unpreferred, Option.none_or]
    cases memberships.head? with
    | none => rfl
    | some first => rfl

/-- What `me` answers is said of the account under the id. -/
theorem SessionState.answers_eq_answeredMe {userId tenantId : Uuid} {body : MeResponse}
    (answered : state.answers userId (.me tenantId) = .answeredMe body) :
    ∃ user, Table.byKey AppUser.id userId state.team.db.appUser = some user ∧
      body.email = user.email := by
  unfold SessionState.answers at answered
  cases found : Table.byKey AppUser.id userId state.team.db.appUser with
  | none =>
    rw [found] at answered
    cases answered
  | some user =>
    simp only [found, SessionGoal.decide] at answered
    split at answered
    · cases answered
    · cases answered
      exact ⟨user, rfl, rfl⟩

/-- A session is what `me` answers its own token's account and tenant in the state of the run its
seats were read in, to whichever call asks there. The account is still under its id in every state
the run goes on to, at the address of the session. As long as it holds the seat there, `me` and a
refresh answer one session of that account and seat, and once the seat is gone `me` refuses the
token and the refresh goes to the default of the seats that are left, or is refused for having none.
The run starts from tables in order with no call under way; the calls, the team's steps and the
passing of time may come in any order. -/
theorem session_is_what_me_answers (fresh : start.Fresh) (run : SessionRun compare start state)
    {access : AccessToken} {refresh : RefreshToken} {body : MeResponse}
    (answered : state.calls id = .session access refresh body) :
    (∃ read, (SessionRun compare start read ∧ SessionRun compare read state) ∧
      read.answers access.sub (.me access.tenantId) = .answeredMe body ∧
      ∀ call, read.calls call = .finding access.sub (.me access.tenantId) →
        SessionRun compare read (read.put call (.answeredMe body))) ∧
    (access.Names body.userId body.tenantId ∧ access.role = body.role ∧
      refresh.Names access.sub access.tenantId) ∧
    ∀ later, SessionRun compare state later →
      ∃ user, Table.byKey AppUser.id access.sub later.team.db.appUser = some user ∧
        user.email = body.email ∧
        ((∃ row ∈ later.membershipsOf access.sub, row.tenantId = access.tenantId) →
          ∃ active ∈ later.membershipsOf access.sub, active.tenantId = access.tenantId ∧
            later.answers access.sub (.me access.tenantId) =
              .answeredMe (toSession user active (later.membershipsOf access.sub)) ∧
            later.answers access.sub (.issue refresh.tenantId) =
              .minting user (later.membershipsOf access.sub) active) ∧
        ((∀ row ∈ later.membershipsOf access.sub, row.tenantId ≠ access.tenantId) →
          later.answers access.sub (.me access.tenantId) = .refused .membershipGone ∧
            later.answers access.sub (.issue refresh.tenantId) =
              (later.membershipsOf access.sub).head?.elim (.refused .noWorkspace)
                (.minting user (later.membershipsOf access.sub))) := by
  have grounded := (SessionRun.grounded fresh run).2.2 id
  rw [answered] at grounded
  obtain ⟨⟨read, ⟨before, since⟩, answers⟩, names⟩ := grounded
  refine ⟨⟨read, ⟨before, since⟩, answers, fun call finding =>
    answers ▸ SessionState.answers_run finding⟩, names, fun later goesOn => ?_⟩
  obtain ⟨stored, found, email⟩ := SessionState.answers_eq_answeredMe answers
  have stay := ((SessionRun.grounded fresh before).1.run (since.trans goesOn)).2
  obtain ⟨user, foundLater, same⟩ := stay.kept access.sub stored found
  have userId : user.id = access.sub := (Table.mem_of_byKey foundLater).2
  have atLater : ∀ goal : SessionGoal, later.answers access.sub goal =
      goal.decide user (later.membershipsOf access.sub) := by
    intro goal
    rw [SessionState.answers, foundLater]
    dsimp only
    rw [userId]
  refine ⟨user, foundLater, same.trans email.symm, ?_⟩
  rw [atLater, atLater, names.2.2.2]
  exact ⟨refresh_agrees_with_me, refresh_falls_back⟩

end Session

/-! ### A seat of the villa -/

/-- A tenant with an owner and one more seat. -/
def villaSeated : SessionState where
  team := { villaTeam with
    db := { villaTeam.db with
      appUser := [⟨5, "owner@example.com", "hash:owner"⟩, ⟨6, "sari@example.com", "hash:sari"⟩]
      membership := [⟨5, 7, .owner⟩, ⟨6, 7, .staff⟩] } }
  tenant := [⟨7, "Villa"⟩]
  seatedAt := fun _ => 0
  calls := fun _ => .idle
  access := []
  refresh := []

theorem villaSeated_fresh : villaSeated.Fresh where
  team := {
    tasks := fun _ => rfl
    accepted := rfl
    issued := by decide
    properties := by decide
    invites := by decide
    slots := by decide
    grants := by decide
    seats := by decide
    assignments := by decide }
  keyed := by decide
  idle := fun _ => rfl

def villaUser : AppUser := ⟨6, "sari@example.com", "hash:sari"⟩

def villaSeat : MembershipRow := ⟨7, "Villa", .staff⟩

/-- She has signed in. -/
def villaSignedIn : SessionState :=
  { villaSeated with
    calls := Function.update villaSeated.calls 0 (.session ⟨6, 7, .staff, 900⟩ ⟨6, some 7, 604800⟩
      (toSession villaUser villaSeat [villaSeat]))
    access := [⟨6, 7, .staff, 900⟩]
    refresh := [⟨6, some 7, 604800⟩] }

/-- The owner has removed her. -/
def villaUnseated : SessionState :=
  { villaSignedIn with
    team := { villaSignedIn.team with db := villaSignedIn.team.db.removeStaff 7 6 } }

theorem villaSeated_signsIn : SessionRun hashMatches villaSeated villaSignedIn := by
  have comparing : SessionRun hashMatches villaSeated _ :=
    .single ⟨0, .login "sari@example.com" "sari" villaUser rfl rfl⟩
  have listing := comparing.tail ⟨0, .rightPassword _ _ SessionState.put_calls (by decide)⟩
  have minting := listing.tail ⟨0, .listed _ _ SessionState.put_calls⟩
  have signing := minting.tail
    ⟨0, .signAccess villaUser [villaSeat] villaSeat (SessionState.put_calls.trans rfl)⟩
  have answered := signing.tail
    ⟨0, .signRefresh villaUser [villaSeat] villaSeat ⟨6, 7, .staff, 900⟩ rfl⟩
  refine cast (congrArg (SessionRun hashMatches villaSeated) ?_) answered
  simp only [SessionState.put, Function.update_idem]
  rfl

theorem villa_removal : SessionRun hashMatches villaSignedIn villaUnseated := by
  refine .single ⟨1, .team 0 _ villaSignedIn.seatedAt
    (.removeStaff 7 6 rfl (fun _ _ => ?_) fun _ _ _ _ _ _ => ?_) fun _ _ => rfl⟩
  · exact ⟨List.not_mem_nil, List.not_mem_nil⟩
  · exact ⟨List.not_mem_nil, List.not_mem_nil⟩

/-- Her session is what `me` answers her token; once the owner has removed her, `me` refuses it and
a refresh finds no seat to go to. -/
theorem session_is_what_me_answers_villa :
    (∃ read, SessionRun hashMatches villaSeated read ∧
      read.answers 6 (.me 7) = .answeredMe (toSession villaUser villaSeat [villaSeat])) ∧
      villaUnseated.answers 6 (.me 7) = .refused .membershipGone ∧
      villaUnseated.answers 6 (.issue (some 7)) = .refused .noWorkspace := by
  have answered : villaSignedIn.calls 0 = .session ⟨6, 7, .staff, 900⟩ ⟨6, some 7, 604800⟩
      (toSession villaUser villaSeat [villaSeat]) := rfl
  obtain ⟨⟨read, between, answers, -⟩, -, goesOn⟩ :=
    session_is_what_me_answers villaSeated_fresh villaSeated_signsIn answered
  obtain ⟨user, -, -, -, gone⟩ := goesOn villaUnseated villa_removal
  have seatless : villaUnseated.membershipsOf 6 = [] := by decide +kernel
  obtain ⟨me, refresh⟩ := gone (by rw [seatless]; exact fun row member => nomatch member)
  refine ⟨⟨read, between.1, answers⟩, me, refresh.trans ?_⟩
  rw [seatless]
  rfl

end Sambung
