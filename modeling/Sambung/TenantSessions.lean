/-
This file proves that a pooled connection never carries one tenant's statement
into another's transaction.

A transaction holds its connection from `BEGIN` until its `COMMIT` or `ROLLBACK`
is answered, and what waits in the connection's queue meanwhile is its own. A
statement is let through only while the callback runs, so it is queued behind the
settings and before the end, and is executed there.

`ActiveTx.StandsAt` reads off the phase of a transaction what its connection's
queue holds and what the server has open, and is the invariant. An event is of one
transaction, and the others stand where they stood, since no two hold one
connection; so each event is checked for its own transaction only. The log is a
list of what was executed under which settings, and the theorem says of each entry
where its statement had come from. It needs of the pool that it hands out a
connection that is free.
-/

import Sambung.TenantDb

namespace Sambung

/-! ### Where a transaction stands -/

/-- Data statements of calls that run in the transaction. -/
def OwnData (calls : List RunCall) (id : Nat) (queued : List (Nat × Statement)) : Prop :=
  ∀ entry ∈ queued, ∃ call sql found,
    entry = (id, .data call sql) ∧ calls[call]? = some found ∧ found.active = id

/-- What a transaction's phase says of its connection: what the queue holds, and what the server
has open. -/
def ActiveTx.StandsAt (calls : List RunCall) (queue : List (Nat × Statement))
    (server : Option ServerTx) (id : Nat) (active : ActiveTx) : Prop :=
  match active.phase with
  | .beginning => active.alive = true ∧ queue = [(id, .begin)] ∧ server = none
  | .lost => queue = []
  | .begun => active.alive = true ∧ queue = [] ∧ server = some ⟨id, none⟩
  | .configuring => queue = [(id, .setConfig active.settings)] ∧ server = some ⟨id, none⟩
  | .refused => queue = []
  | .configured => queue = [] ∧ server = some ⟨id, some active.settings⟩
  | .inside | .returned _ => OwnData calls id queue ∧ server = some ⟨id, some active.settings⟩
  | .closing =>
    ∃ queued ending, queue = queued ++ [(id, ending)] ∧ (ending = .commit ∨ ending = .rollback) ∧
      OwnData calls id queued ∧ (queued ≠ [] → server = some ⟨id, some active.settings⟩)
  | .commitFailed => queue = []
  | .closed => queue = [] ∧ server = none
  | .released => True

abbrev ActiveTx.Stands (state : TenantDbState) (id : Nat) (active : ActiveTx) : Prop :=
  active.StandsAt state.calls (state.queues active.connection) (state.servers active.connection) id

/-- What holds between any two events. -/
structure PoolSafe (state : TenantDbState) : Prop where
  stands : ∀ id active, state.actives id = some active → active.Stands state id
  held : ∀ id active, state.actives id = some active → active.phase ≠ .released →
    state.pool active.connection = some id
  holder : ∀ connection id, state.pool connection = some id →
    ∃ active, state.actives id = some active ∧ active.connection = connection ∧
      active.phase ≠ .released
  free : ∀ connection, state.pool connection = none →
    state.queues connection = [] ∧ state.servers connection = none
  calls : ∀ call ∈ state.calls, ∃ active, state.actives call.active = some active ∧
    active.settings = ⟨call.tenantId, call.scope⟩ ∧
      (active.alive = true → active.phase = .inside)
  builders : ∀ builder ∈ state.builders,
    isTransactionControl (.data builder.call builder.sql) = false
  log : ∀ entry ∈ state.log, ∃ call, state.calls[entry.call]? = some call ∧
    entry.server = some ⟨call.active, some ⟨call.tenantId, call.scope⟩⟩
  rejected : ∀ thrown ∈ state.rejected, ∃ call sql, thrown.2 = .data call sql

/-- Calls only grow, and a call keeps its number. -/
theorem getElem?_of_prefix {calls more : List RunCall} {index : Nat} {call : RunCall}
    (found : calls[index]? = some call) : (calls ++ more)[index]? = some call := by
  obtain ⟨bound, -⟩ := List.getElem?_eq_some_iff.mp found
  rw [List.getElem?_append_left bound]
  exact found

theorem OwnData.grow {calls more : List RunCall} {id : Nat} {queued : List (Nat × Statement)}
    (own : OwnData calls id queued) : OwnData (calls ++ more) id queued := by
  intro entry member
  obtain ⟨call, sql, found, same, isCall, theirs⟩ := own entry member
  exact ⟨call, sql, found, same, getElem?_of_prefix isCall, theirs⟩

theorem ownData_nil (calls : List RunCall) (id : Nat) : OwnData calls id [] :=
  fun _ member => absurd member List.not_mem_nil

/-- A transaction stands where it did while its connection is left alone. -/
theorem ActiveTx.Stands.frame {state after : TenantDbState} {id : Nat} {active : ActiveTx}
    (stands : active.Stands state id) (queue : after.queues active.connection =
      state.queues active.connection)
    (server : after.servers active.connection = state.servers active.connection)
    (grown : ∃ more, after.calls = state.calls ++ more) : active.Stands after id := by
  obtain ⟨more, calls⟩ := grown
  unfold ActiveTx.Stands ActiveTx.StandsAt at stands ⊢
  rw [queue, server, calls]
  cases phase : active.phase <;> rw [phase] at stands <;> simp only at stands ⊢
  case inside => exact ⟨stands.1.grow, stands.2⟩
  case returned ok => exact ⟨stands.1.grow, stands.2⟩
  case closing =>
    obtain ⟨queued, ending, queues, isEnding, own, open_⟩ := stands
    exact ⟨queued, ending, queues, isEnding, own.grow, open_⟩
  all_goals exact stands

/-! ### One transaction goes on -/

/-- What a transaction does on its own connection leaves the others where they stand. -/
structure Advances (state after : TenantDbState) (id : Nat) (active : ActiveTx) : Prop where
  actives : after.actives = Function.update state.actives id (some active)
  mine : ∀ old, state.actives id = some old → old.connection = active.connection
  owned : state.pool active.connection = some id ∨ state.pool active.connection = none
  queues : ∀ connection, connection ≠ active.connection →
    after.queues connection = state.queues connection
  servers : ∀ connection, connection ≠ active.connection →
    after.servers connection = state.servers connection
  pool : ∀ connection, connection ≠ active.connection →
    after.pool connection = state.pool connection
  calls : ∃ more, after.calls = state.calls ++ more
  stands : active.Stands after id
  held : active.phase ≠ .released ∧ after.pool active.connection = some id ∨
    after.pool active.connection = none ∧ active.phase = .released ∧
      after.queues active.connection = [] ∧ after.servers active.connection = none

/-- No other transaction that has not let its connection go holds the one of this transaction. -/
theorem Advances.apart {state after : TenantDbState} (safe : PoolSafe state) {id : Nat}
    {active : ActiveTx} (advances : Advances state after id active) {other : Nat}
    {otherActive : ActiveTx} (isOther : other ≠ id)
    (found : state.actives other = some otherActive) (unreleased : otherActive.phase ≠ .released) :
    otherActive.connection ≠ active.connection := by
  intro shared
  have theirs := safe.held other otherActive found unreleased
  rw [shared] at theirs
  rcases advances.owned with mine | none_
  · rw [mine] at theirs
    exact isOther (Option.some.inj theirs).symm
  · rw [none_] at theirs
    cases theirs

theorem PoolSafe.advance {state after : TenantDbState} (safe : PoolSafe state) {id : Nat}
    {active : ActiveTx} (advances : Advances state after id active)
    (calls : ∀ call ∈ after.calls, ∃ active, after.actives call.active = some active ∧
      active.settings = ⟨call.tenantId, call.scope⟩ ∧
        (active.alive = true → active.phase = .inside))
    (builders : after.builders = state.builders)
    (log : ∀ entry ∈ after.log, ∃ call, after.calls[entry.call]? = some call ∧
      entry.server = some ⟨call.active, some ⟨call.tenantId, call.scope⟩⟩)
    (rejected : ∀ thrown ∈ after.rejected, ∃ call sql, thrown.2 = .data call sql) :
    PoolSafe after where
  stands := by
    intro other otherActive found
    rw [advances.actives] at found
    by_cases same : other = id
    · rw [same, Function.update_self] at found
      cases found
      rw [same]
      exact advances.stands
    · rw [Function.update_of_ne same] at found
      by_cases released : otherActive.phase = .released
      · unfold ActiveTx.Stands ActiveTx.StandsAt
        rw [released]
        trivial
      · have apart := advances.apart safe same found released
        exact (safe.stands other otherActive found).frame (advances.queues _ apart)
          (advances.servers _ apart) advances.calls
  held := by
    intro other otherActive found unreleased
    rw [advances.actives] at found
    by_cases same : other = id
    · rw [same, Function.update_self] at found
      cases found
      rw [same]
      rcases advances.held with ⟨-, held⟩ | ⟨-, released, -⟩
      · exact held
      · exact absurd released unreleased
    · rw [Function.update_of_ne same] at found
      rw [advances.pool _ (advances.apart safe same found unreleased)]
      exact safe.held other otherActive found unreleased
  holder := by
    intro connection other isHeld
    rw [advances.actives]
    by_cases same : connection = active.connection
    · rw [same] at isHeld
      rcases advances.held with ⟨unreleased, held⟩ | ⟨none_, -⟩
      · rw [held] at isHeld
        cases isHeld
        exact ⟨active, Function.update_self .., same.symm, unreleased⟩
      · rw [none_] at isHeld
        cases isHeld
    · rw [advances.pool _ same] at isHeld
      obtain ⟨found, isFound, theirs, unreleased⟩ := safe.holder connection other isHeld
      have isOther : other ≠ id := by
        rintro rfl
        exact same (theirs.symm.trans (advances.mine found isFound))
      rw [Function.update_of_ne isOther]
      exact ⟨found, isFound, theirs, unreleased⟩
  free := by
    intro connection isFree
    by_cases same : connection = active.connection
    · rw [same] at isFree ⊢
      rcases advances.held with ⟨-, held⟩ | ⟨-, -, empty⟩
      · rw [held] at isFree
        cases isFree
      · exact empty
    · rw [advances.pool _ same] at isFree
      rw [advances.queues _ same, advances.servers _ same]
      exact safe.free connection isFree
  calls := calls
  builders := by
    rw [builders]
    exact safe.builders
  log := log
  rejected := rejected

/-- The calls of a transaction that goes on are where they were. -/
theorem PoolSafe.calls_update {state : TenantDbState} (safe : PoolSafe state) {id : Nat}
    {old : ActiveTx} (found : state.actives id = some old) (new : ActiveTx)
    (settings : new.settings = old.settings)
    (entered : (old.alive = true → old.phase = .inside) → new.alive = true → new.phase = .inside) :
    ∀ call ∈ state.calls, ∃ active,
      Function.update state.actives id (some new) call.active = some active ∧
        active.settings = ⟨call.tenantId, call.scope⟩ ∧
          (active.alive = true → active.phase = .inside) := by
  intro call member
  obtain ⟨active, isActive, theirs, inside⟩ := safe.calls call member
  by_cases same : call.active = id
  · rw [same, found] at isActive
    cases isActive
    refine ⟨new, ?_, settings.trans theirs, entered inside⟩
    rw [same, Function.update_self]
  · refine ⟨active, ?_, theirs, inside⟩
    rw [Function.update_of_ne same]
    exact isActive

/-- A transaction that goes on with its connection and its settings keeps the pool safe where its
own queue fits its new phase. -/
theorem PoolSafe.goOn {state after : TenantDbState} (safe : PoolSafe state) {id : Nat}
    {old : ActiveTx} (found : state.actives id = some old) (new : ActiveTx)
    (unreleased : old.phase ≠ .released ∧ new.phase ≠ .released)
    (connection : new.connection = old.connection) (settings : new.settings = old.settings)
    (entered : (old.alive = true → old.phase = .inside) → new.alive = true → new.phase = .inside)
    (actives : after.actives = Function.update state.actives id (some new))
    (queues : ∀ other, other ≠ old.connection → after.queues other = state.queues other)
    (servers : ∀ other, other ≠ old.connection → after.servers other = state.servers other)
    (rest : after.pool = state.pool ∧ after.calls = state.calls ∧ after.builders = state.builders)
    (stands : new.Stands after id)
    (log : ∀ entry ∈ after.log, ∃ call, state.calls[entry.call]? = some call ∧
      entry.server = some ⟨call.active, some ⟨call.tenantId, call.scope⟩⟩)
    (rejected : ∀ thrown ∈ after.rejected, ∃ call sql, thrown.2 = .data call sql) :
    PoolSafe after := by
  obtain ⟨pool, calls, builders⟩ := rest
  have held := safe.held id old found unreleased.1
  rw [← connection] at held queues servers
  have advances : Advances state after id new := by
    refine ⟨actives, fun other isOther => ?_, Or.inl held, queues, servers, fun other _ => ?_,
      ⟨[], ?_⟩, stands, Or.inl ⟨unreleased.2, ?_⟩⟩
    · rw [found] at isOther
      cases isOther
      exact connection.symm
    · rw [pool]
    · rw [calls, List.append_nil]
    · rw [pool]
      exact held
  refine safe.advance advances ?_ builders ?_ rejected
  · rw [actives, calls]
    exact safe.calls_update found new settings entered
  · rw [calls]
    exact log

/-! ### Events -/

/-- A nested run joins a live transaction of its own tenant and scope. -/
theorem join_ok {joined : ActiveTx} {tenantId : Uuid} {scope : PropertyScope}
    (joins : joined.join tenantId scope = .ok ()) :
    joined.alive = true ∧ joined.tenantId = tenantId ∧ joined.scope = scope := by
  unfold ActiveTx.join at joins
  split at joins
  · cases joins
  next alive =>
    split at joins
    · cases joins
    next tenant =>
      split at joins
      · cases joins
      next same =>
        rw [not_not] at alive tenant
        obtain ⟨mode, staffUserId⟩ := not_or.mp same
        rw [not_not] at mode staffUserId
        refine ⟨alive, tenant, ?_⟩
        cases opened : joined.scope with
        | all => cases scope with
          | all => rfl
          | assigned userId =>
            rw [opened] at staffUserId
            cases staffUserId
        | assigned userId =>
          rw [opened] at staffUserId
          cases scope with
          | all => cases staffUserId
          | assigned other =>
            cases staffUserId
            rfl

theorem prepareQuery_commit (active : ActiveTx) : active.prepareQuery .commit = true := by
  have control : isTransactionControl .commit = true := by decide
  rw [ActiveTx.prepareQuery, control, Bool.or_true]

theorem prepareQuery_rollback (active : ActiveTx) : active.prepareQuery .rollback = true := by
  have control : isTransactionControl .rollback = true := by decide
  rw [ActiveTx.prepareQuery, control, Bool.or_true]

/-- The end of a transaction is queued behind what its callback has left. -/
theorem PoolSafe.control {state : TenantDbState} (safe : PoolSafe state) {id : Nat}
    {active : ActiveTx} (found : state.actives id = some active) {ending : Statement}
    (isEnding : ending = .commit ∨ ending = .rollback)
    (unreleased : active.phase ≠ .released ∧ active.phase ≠ .inside)
    (own : OwnData state.calls id (state.queues active.connection))
    (server : state.queues active.connection ≠ [] →
      state.servers active.connection = some ⟨id, some active.settings⟩) :
    PoolSafe ((state.issue id active ending).setActive id { active with phase := .closing }) := by
  have passes : active.prepareQuery ending = true := by
    rcases isEnding with rfl | rfl
    · exact prepareQuery_commit active
    · exact prepareQuery_rollback active
  rw [TenantDbState.issue, if_pos passes]
  refine safe.goOn found { active with phase := .closing } ⟨unreleased.1, nofun⟩ rfl rfl
    (fun inside alive => absurd (inside alive) unreleased.2) rfl
    (fun other apart => Function.update_of_ne apart _ _) (fun _ _ => rfl) ⟨rfl, rfl, rfl⟩ ?_
    safe.log safe.rejected
  exact ⟨state.queues active.connection, ending, Function.update_self .., isEnding, own, server⟩

/-- Behind its `BEGIN` a transaction sends its settings. -/
theorem PoolSafe.configure {state : TenantDbState} (safe : PoolSafe state) {id : Nat}
    {active : ActiveTx} (found : state.actives id = some active) (phase : active.phase = .begun)
    (alive : active.alive = true) (queue : state.queues active.connection = [])
    (server : state.servers active.connection = some ⟨id, none⟩) :
    PoolSafe ((state.issue id active (.setConfig active.settings)).setActive id
      { active with phase := .configuring }) := by
  have passes : active.prepareQuery (.setConfig active.settings) = true := by
    rw [ActiveTx.prepareQuery, alive, Bool.true_or]
  rw [TenantDbState.issue, if_pos passes]
  refine safe.goOn found { active with phase := .configuring } ⟨by rw [phase]; nofun, nofun⟩ rfl
    rfl (fun inside _ => ?_) rfl (fun other apart => Function.update_of_ne apart _ _)
    (fun _ _ => rfl) ⟨rfl, rfl, rfl⟩ ?_ safe.log safe.rejected
  · have isInside := inside alive
    rw [phase] at isInside
    cases isInside
  · refine ⟨?_, server⟩
    show Function.update _ active.connection _ active.connection = _
    rw [Function.update_self, queue]
    rfl

/-- With its settings in force a transaction enters its callback, whose run is a call of it. -/
theorem PoolSafe.enter {state : TenantDbState} (safe : PoolSafe state) {id : Nat}
    {active : ActiveTx} (found : state.actives id = some active)
    (phase : active.phase = .configured) (queue : state.queues active.connection = [])
    (server : state.servers active.connection = some ⟨id, some active.settings⟩) :
    PoolSafe
      { state.setActive id { active with phase := .inside } with
        calls := state.calls ++ [⟨id, active.tenantId, active.scope⟩] } := by
  have held := safe.held id active found (by rw [phase]; nofun)
  have advances : Advances state
      { state.setActive id { active with phase := .inside } with
        calls := state.calls ++ [⟨id, active.tenantId, active.scope⟩] } id
      { active with phase := .inside } := by
    refine ⟨rfl, fun other isOther => ?_, Or.inl held, fun _ _ => rfl, fun _ _ => rfl,
      fun _ _ => rfl, ⟨_, rfl⟩, ⟨?_, server⟩, Or.inl ⟨nofun, held⟩⟩
    · rw [found] at isOther
      cases isOther
      rfl
    · show OwnData _ id (state.queues active.connection)
      rw [queue]
      exact ownData_nil _ _
  refine safe.advance advances (fun call member => ?_) rfl (fun entry member => ?_)
    safe.rejected
  · rcases List.mem_append.mp member with earlier | new
    · exact safe.calls_update found { active with phase := .inside } rfl (fun _ _ => rfl)
        call earlier
    · rw [List.mem_singleton.mp new]
      exact ⟨_, Function.update_self .., rfl, fun _ => rfl⟩
  · obtain ⟨call, isCall, server⟩ := safe.log entry member
    exact ⟨call, getElem?_of_prefix isCall, server⟩

/-- A transaction whose end is answered gives its connection back with nothing on it. -/
theorem PoolSafe.release {state : TenantDbState} (safe : PoolSafe state) {id : Nat}
    {active : ActiveTx} (found : state.actives id = some active) (phase : active.phase = .closed)
    (empty : state.queues active.connection = [] ∧ state.servers active.connection = none) :
    PoolSafe
      { state.setActive id { active with phase := .released } with
        pool := Function.update state.pool active.connection none } := by
  have held := safe.held id active found (by rw [phase]; nofun)
  have advances : Advances state
      { state.setActive id { active with phase := .released } with
        pool := Function.update state.pool active.connection none } id
      { active with phase := .released } := by
    refine ⟨rfl, fun other isOther => ?_, Or.inl held, fun _ _ => rfl, fun _ _ => rfl,
      fun other apart => Function.update_of_ne apart _ _, ⟨[], ?_⟩, trivial,
      Or.inr ⟨Function.update_self .., rfl, empty⟩⟩
    · rw [found] at isOther
      cases isOther
      rfl
    · exact (List.append_nil _).symm
  refine safe.advance advances (safe.calls_update found { active with phase := .released } rfl
    fun inside alive => ?_) rfl safe.log safe.rejected
  have isInside := inside alive
  rw [phase] at isInside
  cases isInside

/-- What a transaction does next by itself, by its phase. -/
theorem PoolSafe.proceed {state after : TenantDbState} (safe : PoolSafe state) {id : Nat}
    {active : ActiveTx} (found : state.actives id = some active)
    (proceeds : state.proceed id active = some after) : PoolSafe after := by
  have stands := safe.stands id active found
  have rollsBack : active.phase ≠ .released ∧ active.phase ≠ .inside →
      state.queues active.connection = [] → PoolSafe ((state.issue id active .rollback).setActive id
        { active with phase := .closing }) := by
    intro unreleased empty
    refine safe.control found (Or.inr rfl) unreleased ?_ fun nonempty => absurd empty nonempty
    rw [empty]
    exact ownData_nil _ _
  unfold ActiveTx.Stands ActiveTx.StandsAt at stands
  unfold TenantDbState.proceed at proceeds
  cases phase : active.phase <;> rw [phase] at stands proceeds <;> simp only at stands proceeds
  case begun =>
    cases proceeds
    exact safe.configure found phase stands.1 stands.2.1 stands.2.2
  case refused =>
    cases proceeds
    exact rollsBack (by rw [phase]; exact ⟨nofun, nofun⟩) stands
  case configured =>
    cases proceeds
    exact safe.enter found phase stands.1 stands.2
  case returned ok =>
    have controls : ∀ ending : Statement, (ending = .commit ∨ ending = .rollback) →
        PoolSafe ((state.issue id active ending).setActive id
          { active with phase := .closing }) :=
      fun ending isEnding => safe.control found isEnding
        (by rw [phase]; exact ⟨nofun, nofun⟩) stands.1 fun _ => stands.2
    cases ok with
    | true =>
      cases proceeds
      exact controls .commit (Or.inl rfl)
    | false =>
      cases proceeds
      exact controls .rollback (Or.inr rfl)
  case commitFailed =>
    cases proceeds
    exact rollsBack (by rw [phase]; exact ⟨nofun, nofun⟩) stands
  case closed =>
    cases proceeds
    exact safe.release found phase stands
  all_goals cases proceeds

theorem PoolSafe.settle {state : TenantDbState} (safe : PoolSafe state) {id : Nat}
    {active : ActiveTx} (found : state.actives id = some active) (isInside : active.phase = .inside)
    (ok : Bool) :
    PoolSafe (state.setActive id { active with alive := false, phase := .returned ok }) := by
  have stands := safe.stands id active found
  unfold ActiveTx.Stands ActiveTx.StandsAt at stands
  rw [isInside] at stands
  exact safe.goOn found { active with alive := false, phase := .returned ok }
    ⟨by rw [isInside]; nofun, nofun⟩ rfl rfl (fun _ alive => nomatch alive) rfl (fun _ _ => rfl)
    (fun _ _ => rfl) ⟨rfl, rfl, rfl⟩ stands safe.log safe.rejected

/-- A builder that is awaited is issued while its transaction's callback runs, or rejected. -/
theorem PoolSafe.await {state : TenantDbState} (safe : PoolSafe state) {builder : Builder}
    {call : RunCall} {active : ActiveTx}
    (data : isTransactionControl (.data builder.call builder.sql) = false)
    (isCall : state.calls[builder.call]? = some call)
    (found : state.actives call.active = some active) :
    PoolSafe (state.issue call.active active (.data builder.call builder.sql)) := by
  rw [TenantDbState.issue]
  by_cases alive : active.alive = true
  · have passes : active.prepareQuery (.data builder.call builder.sql) = true := by
      rw [ActiveTx.prepareQuery, alive, Bool.true_or]
    rw [if_pos passes]
    obtain ⟨caller, isCaller, -, inside⟩ :=
      safe.calls call (List.mem_of_getElem? isCall)
    rw [found] at isCaller
    cases isCaller
    have isInside := inside alive
    have stands := safe.stands call.active active found
    unfold ActiveTx.Stands ActiveTx.StandsAt at stands
    rw [isInside] at stands
    have unreleased : active.phase ≠ .released := by
      rw [isInside]
      nofun
    have unchanged : state.actives =
        Function.update state.actives call.active (some active) := by
      rw [← found, Function.update_eq_self]
    refine safe.goOn found active ⟨unreleased, unreleased⟩ rfl rfl (fun inside => inside)
      unchanged (fun other apart => Function.update_of_ne apart _ _) (fun _ _ => rfl)
      ⟨rfl, rfl, rfl⟩ ?_ safe.log safe.rejected
    unfold ActiveTx.Stands ActiveTx.StandsAt
    rw [isInside]
    refine ⟨?_, stands.2⟩
    show OwnData state.calls call.active
      (Function.update state.queues active.connection _ active.connection)
    rw [Function.update_self]
    intro entry member
    rcases List.mem_append.mp member with queued | new
    · exact stands.1 entry queued
    · exact ⟨builder.call, builder.sql, call, List.mem_singleton.mp new, isCall, rfl⟩
  · have throws : ¬ active.prepareQuery (.data builder.call builder.sql) = true := by
      rw [ActiveTx.prepareQuery, data, Bool.or_false]
      exact alive
    rw [if_neg throws]
    refine { safe with rejected := fun thrown member => ?_ }
    rcases List.mem_append.mp member with earlier | new
    · exact safe.rejected thrown earlier
    · rw [List.mem_singleton.mp new]
      exact ⟨builder.call, builder.sql, rfl⟩

theorem PoolSafe.run {state after : TenantDbState} (safe : PoolSafe state) {principal : Principal}
    {store : Option Nat} {id connection : Nat}
    (runs : state.run principal store id connection = some after) : PoolSafe after := by
  unfold TenantDbState.run at runs
  cases store with
  | some outer =>
    cases found : state.actives outer with
    | none => simp only [found, reduceCtorEq] at runs
    | some joined =>
      simp only [found] at runs
      by_cases started : state.calls.any (·.active = outer) = true
      · rw [if_pos started] at runs
        cases joins : joined.join principal.tenantId (scopeFor principal) with
        | error reason =>
          rw [joins] at runs
          cases runs
          exact safe
        | ok _ =>
          rw [joins] at runs
          cases runs
          obtain ⟨alive, tenant, scope⟩ := join_ok joins
          obtain ⟨caller, member, isOuter⟩ := List.any_eq_true.mp started
          obtain ⟨active, isActive, -, inside⟩ := safe.calls caller member
          rw [of_decide_eq_true isOuter, found] at isActive
          cases isActive
          refine ⟨fun other active found => ?_, safe.held, safe.holder, safe.free, ?_,
            safe.builders, fun entry member => ?_, safe.rejected⟩
          · exact (safe.stands other active found).frame rfl rfl ⟨_, rfl⟩
          · intro call member
            rcases List.mem_append.mp member with earlier | new
            · exact safe.calls call earlier
            · rw [List.mem_singleton.mp new]
              refine ⟨joined, found, ?_, inside⟩
              rw [ActiveTx.settings, tenant, scope]
          · obtain ⟨call, isCall, server⟩ := safe.log entry member
            exact ⟨call, getElem?_of_prefix isCall, server⟩
      · rw [if_neg started] at runs
        cases runs
  | none =>
    by_cases fresh : state.actives id = none ∧ state.pool connection = none
    · simp only [if_pos fresh] at runs
      cases runs
      obtain ⟨queue, server⟩ := safe.free connection fresh.2
      have advances : Advances state
          { state with
            actives := Function.update state.actives id
              (some ⟨principal.tenantId, scopeFor principal, connection, true, .beginning⟩)
            pool := Function.update state.pool connection (some id)
            queues := Function.update state.queues connection
              (state.queues connection ++ [(id, .begin)]) } id
          ⟨principal.tenantId, scopeFor principal, connection, true, .beginning⟩ := by
        refine ⟨rfl, fun old isOld => ?_, Or.inr fresh.2,
          fun other apart => Function.update_of_ne apart _ _, fun _ _ => rfl,
          fun other apart => Function.update_of_ne apart _ _, ⟨[], (List.append_nil _).symm⟩,
          ⟨rfl, ?_, server⟩, Or.inl ⟨nofun, Function.update_self ..⟩⟩
        · rw [fresh.1] at isOld
          cases isOld
        · show Function.update _ connection _ connection = _
          rw [Function.update_self, queue]
          rfl
      refine safe.advance advances (fun call member => ?_) rfl safe.log safe.rejected
      obtain ⟨active, isActive, theirs⟩ := safe.calls call member
      have apart : call.active ≠ id := by
        rintro same
        rw [same, fresh.1] at isActive
        cases isActive
      exact ⟨active, (Function.update_of_ne apart _ _).trans isActive, theirs⟩
    · simp only [if_neg fresh, reduceCtorEq] at runs

/-- The server executes a statement of a transaction, which goes on from its answer. -/
theorem PoolSafe.served {state : TenantDbState} (safe : PoolSafe state) {id : Nat}
    {active : ActiveTx} (found : state.actives id = some active)
    (unreleased : active.phase ≠ .released) {statement : Statement}
    {rest : List (Nat × Statement)} (ok : Bool)
    (goesOn : statement.answer ok active.phase ≠ .released)
    (entered : active.phase = .inside → statement.answer ok active.phase = .inside)
    (stands : { active with phase := statement.answer ok active.phase }.StandsAt state.calls rest
      (statement.execute id ok (state.servers active.connection)) id)
    (logged : ∀ call sql, statement = .data call sql → ∃ found, state.calls[call]? = some found ∧
      found.active = id ∧ state.servers active.connection = some ⟨id, some active.settings⟩) :
    PoolSafe
      { state.setActive id { active with phase := statement.answer ok active.phase } with
        queues := Function.update state.queues active.connection rest
        servers := Function.update state.servers active.connection
          (statement.execute id ok (state.servers active.connection))
        log := match statement with
          | .data call sql => state.log ++ [⟨call, sql, state.servers active.connection⟩]
          | _ => state.log } := by
  refine safe.goOn found { active with phase := statement.answer ok active.phase }
    ⟨unreleased, goesOn⟩ rfl rfl (fun inside alive => entered (inside alive)) rfl
    (fun other apart => Function.update_of_ne apart _ _)
    (fun other apart => Function.update_of_ne apart _ _) ⟨rfl, rfl, rfl⟩ ?_ ?_ safe.rejected
  · show ActiveTx.StandsAt state.calls
      (Function.update state.queues active.connection rest active.connection)
      (Function.update state.servers active.connection _ active.connection) id _
    rw [Function.update_self, Function.update_self]
    exact stands
  · intro entry member
    cases statement with
    | data call sql =>
      rcases List.mem_append.mp member with earlier | new
      · exact safe.log entry earlier
      · rw [List.mem_singleton.mp new]
        obtain ⟨caller, isCaller, theirs, server⟩ := logged call sql rfl
        obtain ⟨own, isOwn, settings, -⟩ :=
          safe.calls caller (List.mem_of_getElem? isCaller)
        rw [theirs, found] at isOwn
        cases isOwn
        refine ⟨caller, isCaller, ?_⟩
        rw [theirs, ← settings]
        exact server
    | _ => exact safe.log entry member

/-- A transaction's data leaves its phase and the server's side of it as they are, and is logged
under the settings in force. -/
theorem PoolSafe.servedData {state : TenantDbState} (safe : PoolSafe state) {id : Nat}
    {active : ActiveTx} (found : state.actives id = some active)
    (unreleased : active.phase ≠ .released) {call : Nat} {sql : String}
    {rest : List (Nat × Statement)} (ok : Bool)
    (own : ∃ caller, state.calls[call]? = some caller ∧ caller.active = id)
    (server : state.servers active.connection = some ⟨id, some active.settings⟩)
    (stands : active.StandsAt state.calls rest (state.servers active.connection) id) :
    PoolSafe
      { state.setActive id active with
        queues := Function.update state.queues active.connection rest
        servers := Function.update state.servers active.connection
          (state.servers active.connection)
        log := state.log ++ [⟨call, sql, state.servers active.connection⟩] } := by
  obtain ⟨caller, isCaller, theirs⟩ := own
  refine @PoolSafe.served state safe id active found unreleased (.data call sql) rest ok unreleased
    (fun inside => inside) stands ?_
  rintro _ _ ⟨⟩
  exact ⟨caller, isCaller, theirs, server⟩

/-- The server executes the head of a queue: the settings and the end of a transaction one by
one, and between them its data. -/
theorem PoolSafe.serve {state after : TenantDbState} (safe : PoolSafe state) {connection : Nat}
    {ok : Bool} (serves : state.serve connection ok = some after) : PoolSafe after := by
  unfold TenantDbState.serve at serves
  cases queue : state.queues connection with
  | nil => simp only [queue, reduceCtorEq] at serves
  | cons head rest =>
    obtain ⟨issuer, statement⟩ := head
    simp only [queue] at serves
    cases holder : state.pool connection with
    | none =>
      have empty := (safe.free connection holder).1
      rw [queue] at empty
      cases empty
    | some id =>
      obtain ⟨active, found, rfl, unreleased⟩ := safe.holder connection id holder
      have stands := safe.stands id active found
      unfold ActiveTx.Stands ActiveTx.StandsAt at stands
      rw [queue] at stands
      cases phase : active.phase <;> rw [phase] at stands <;> simp only at stands
      case beginning =>
        obtain ⟨alive, head, server⟩ := stands
        cases head
        rw [found] at serves
        cases serves
        refine safe.served found unreleased ok ?_ ?_ ?_ nofun
        · cases ok <;> nofun
        · rw [phase]
          nofun
        · cases ok with
          | true =>
            rw [server]
            exact ⟨alive, rfl, rfl⟩
          | false => exact rfl
      case configuring =>
        obtain ⟨head, server⟩ := stands
        cases head
        rw [found] at serves
        cases serves
        refine safe.served found unreleased ok ?_ ?_ ?_ nofun
        · cases ok <;> nofun
        · rw [phase]
          nofun
        · cases ok with
          | true =>
            rw [server]
            exact ⟨rfl, rfl⟩
          | false => exact rfl
      case closing =>
        obtain ⟨queued, ending, queues, isEnding, own, server⟩ := stands
        cases queued with
        | nil =>
          cases queues
          rw [found] at serves
          cases serves
          refine safe.served found unreleased ok ?_ ?_ ?_ ?_
          · rcases isEnding with rfl | rfl <;> cases ok <;> nofun
          · rw [phase]
            nofun
          · rcases isEnding with rfl | rfl
            · cases ok with
              | true => exact ⟨rfl, rfl⟩
              | false => exact rfl
            · exact ⟨rfl, rfl⟩
          · rcases isEnding with rfl | rfl <;> nofun
        | cons first queued =>
          obtain ⟨call, sql, caller, same, callers⟩ := own first List.mem_cons_self
          have inForce := server (List.cons_ne_nil first queued)
          rw [same] at queues
          cases queues
          rw [found] at serves
          cases serves
          refine safe.servedData found unreleased ok ⟨caller, callers⟩ inForce ?_
          unfold ActiveTx.StandsAt
          simp only [phase]
          exact ⟨queued, ending, rfl, isEnding,
            fun entry member => own entry (List.mem_cons_of_mem _ member), fun _ => inForce⟩
      case released => exact absurd phase unreleased
      case inside | returned ended =>
        obtain ⟨own, server⟩ := stands
        obtain ⟨call, sql, caller, same, callers⟩ := own _ List.mem_cons_self
        cases same
        rw [found] at serves
        cases serves
        refine safe.servedData found unreleased ok ⟨caller, callers⟩ server ?_
        unfold ActiveTx.StandsAt
        simp only [phase]
        exact ⟨fun entry member => own entry (List.mem_cons_of_mem _ member), server⟩
      case lost => cases stands
      case begun => cases stands.2.1
      case refused => cases stands
      case configured => cases stands.1
      case commitFailed => cases stands
      case closed => cases stands.1

/-! ### Every schedule -/

theorem PoolSafe.act {event : PoolEvent} {state after : TenantDbState} (safe : PoolSafe state)
    (acts : poolAct event state = some after) : PoolSafe after := by
  cases event with
  | mint request principal =>
    cases minted : setPrincipal (state.principals request) principal with
    | ok stored =>
      simp only [poolAct, minted] at acts
      cases acts
      exact { safe with }
    | error reason =>
      simp only [poolAct, minted] at acts
      cases acts
      exact safe
  | run request store id connection =>
    cases principal : state.principals request with
    | some principal =>
      simp only [poolAct, principal] at acts
      exact safe.run acts
    | none =>
      simp only [poolAct, principal] at acts
      cases acts
      exact safe
  | proceed id =>
    obtain ⟨active, found, proceeds⟩ := Option.bind_eq_some_iff.mp acts
    exact safe.proceed found proceeds
  | settle id ok =>
    obtain ⟨active, found, settles⟩ := Option.bind_eq_some_iff.mp acts
    by_cases inside : active.phase = .inside
    · rw [if_pos inside] at settles
      cases settles
      exact safe.settle found inside ok
    · rw [if_neg inside] at settles
      cases settles
  | build call sql =>
    simp only [poolAct] at acts
    by_cases data : call < state.calls.length ∧ isTransactionControl (.data call sql) = false
    · rw [if_pos data] at acts
      cases acts
      refine { safe with builders := fun builder member => ?_ }
      rcases List.mem_append.mp member with earlier | new
      · exact safe.builders builder earlier
      · rw [List.mem_singleton.mp new]
        exact data.2
    · rw [if_neg data] at acts
      cases acts
  | await index =>
    obtain ⟨builder, isBuilder, awaits⟩ := Option.bind_eq_some_iff.mp acts
    obtain ⟨call, isCall, issues⟩ := Option.bind_eq_some_iff.mp awaits
    obtain ⟨active, found, rfl⟩ := Option.map_eq_some_iff.mp issues
    exact safe.await (safe.builders builder (List.mem_of_getElem? isBuilder)) isCall found
  | serve connection ok => exact safe.serve acts

/-- The callback of the transaction has returned. -/
def TxPhase.Settled (phase : TxPhase) : Prop :=
  (∃ ok, phase = .returned ok) ∨ phase = .closing ∨ phase = .commitFailed ∨ phase = .closed ∨
    phase = .released

end Sambung
