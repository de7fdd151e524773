/-
This file states `tenant-db.service.ts` over a pool of connections: the principal
a request mints, `run` and its joins, the guarded session of a transaction, query
builders that are awaited at any later time, and the server, which executes what
each connection sends in the order it was sent.

A transaction's own statements are awaited one after another. Its callback ends
when it likes, and so does everything the callback has left behind.

Process and server are two sides with a queue for each connection between them, so
a statement that was issued and one that was executed are different things. A
builder remembers the handle it was built on and is issued when it is awaited, by
the session of that handle, which may throw. The server keeps one open transaction
for a connection with its settings; a failed statement leaves it open and aborted.
-/

import Sambung.Foundation.Schedules
import Sambung.Postgres

namespace Sambung

/-! ### Principals -/

inductive PrincipalRole where
  | owner | staff
  deriving DecidableEq, Repr

/-- Whoever the current request acts for. -/
inductive Principal where
  | user (userId tenantId : Uuid) (role : PrincipalRole)
  | visitor (tenantId : Uuid)
  deriving DecidableEq, Repr

def Principal.tenantId : Principal → Uuid
  | .user _ tenantId _ => tenantId
  | .visitor tenantId => tenantId

/-- Which properties a transaction may see: `'assigned'` names the staff user. -/
inductive PropertyScope where
  | all
  | assigned (staffUserId : Uuid)
  deriving DecidableEq, Repr

/-- `scope.mode`. -/
def PropertyScope.mode : PropertyScope → String
  | .all => "all"
  | .assigned _ => "assigned"

/-- `scope.staffUserId`, `none` where that is the empty string. -/
def PropertyScope.staffUserId : PropertyScope → Option Uuid
  | .all => none
  | .assigned staffUserId => some staffUserId

def scopeFor : Principal → PropertyScope
  | .user userId _ .staff => .assigned userId
  | .user _ _ .owner => .all
  | .visitor _ => .all

/-- `TenantContext.set`: the principal of a request, minted once. -/
def setPrincipal (stored : Option Principal) (principal : Principal) :
    Except String (Option Principal) :=
  match stored with
  | some _ => .error ("TenantContext.set: a principal is already minted for this request. " ++
      "One request acts for one principal - re-minting would silently re-scope every query " ++
      "after it, which is how an Owner becomes a Visitor of someone else's tenant.")
  | none => .ok (some principal)

/-! ### Statements -/

/-- The three settings of a transaction: the tenant, the property scope and the staff user. -/
structure Settings where
  tenantId : Uuid
  scope : PropertyScope
  deriving DecidableEq, Repr

/-- What a session issues. A data statement names the call of `run` whose handle it was built
on. -/
inductive Statement where
  | begin
  | setConfig (settings : Settings)
  | data (call : Nat) (sql : String)
  | commit
  | rollback
  deriving DecidableEq, Repr

/-- `query.sql`. -/
def Statement.sql : Statement → String
  | .begin => "begin"
  | .setConfig _ => "select set_config('app.tenant_id', $1, true),\n" ++
      "                   set_config('app.property_scope', $2, true),\n" ++
      "                   set_config('app.staff_user_id', $3, true)"
  | .data _ sql => sql
  | .commit => "commit"
  | .rollback => "rollback"

def isTransactionControl (query : Statement) : Bool :=
  let normalized := toLowerCase (trim query.sql.toList)
  normalized = "commit".toList || normalized = "rollback".toList

/-! ### Transactions and their sessions -/

/-- Where `conn.db.transaction` stands: a statement it awaits is named by its own phase, and the
phase after it by the answer. -/
inductive TxPhase where
  | beginning
  | lost
  | begun
  | configuring
  | refused
  | configured
  | inside
  | returned (ok : Bool)
  | closing
  | commitFailed
  | closed
  | released
  deriving DecidableEq, Repr

/-- The transaction a `run` opens, with the connection its session is bound to. -/
structure ActiveTx where
  tenantId : Uuid
  scope : PropertyScope
  connection : Nat
  alive : Bool
  phase : TxPhase
  deriving DecidableEq, Repr

def ActiveTx.settings (active : ActiveTx) : Settings := ⟨active.tenantId, active.scope⟩

/-- The guard of `guardSession`: the session issues the statement, or throws. -/
def ActiveTx.prepareQuery (active : ActiveTx) (query : Statement) : Bool :=
  active.alive || isTransactionControl query

/-- Why `run` refuses to join. -/
inductive JoinError where
  | settled
  | principalChanged (opened now : Uuid)
  | scopeChanged (opened now : PropertyScope)
  deriving DecidableEq, Repr

def JoinError.message : JoinError → String
  | .settled => "TenantDbService.run: the surrounding transaction has already settled. " ++
      "Work started inside run() must be awaited before it returns - a deferred query cannot " ++
      "join a closed transaction."
  | .principalChanged opened now =>
    "TenantDbService.run: the principal changed inside an open transaction (opened for " ++
      uuidText opened ++ ", now " ++ uuidText now ++ "). One unit of work belongs to one tenant."
  | .scopeChanged opened now =>
    "TenantDbService.run: the property scope changed inside an open transaction (opened as " ++
      opened.mode ++ ", now " ++ now.mode ++ "). One unit of work belongs to one principal."

/-- The checks of a nested `run`. -/
def ActiveTx.join (joined : ActiveTx) (tenantId : Uuid) (scope : PropertyScope) :
    Except JoinError Unit :=
  if ¬ joined.alive then .error .settled
  else if joined.tenantId ≠ tenantId then .error (.principalChanged joined.tenantId tenantId)
  else if joined.scope.mode ≠ scope.mode ∨ joined.scope.staffUserId ≠ scope.staffUserId then
    .error (.scopeChanged joined.scope scope)
  else .ok ()

/-! ### The system -/

/-- A call of `run` whose callback has been entered, with the transaction it runs in. -/
structure RunCall where
  active : Nat
  tenantId : Uuid
  scope : PropertyScope
  deriving DecidableEq, Repr

/-- A query built on the handle of a call, and not issued before it is awaited. -/
structure Builder where
  call : Nat
  sql : String
  deriving DecidableEq, Repr

/-- The transaction open on the server's side of a connection: whose `BEGIN` opened it, and the
settings in force. -/
structure ServerTx where
  opened : Nat
  settings : Option Settings
  deriving DecidableEq, Repr

/-- A data statement the server has executed, and where. -/
structure LogEntry where
  call : Nat
  sql : String
  server : Option ServerTx
  deriving DecidableEq, Repr

/-- The requests' principals; the transactions, calls and builders of the process; the pool, each
connection's queue and the server's side of it; what the server has executed, and what the guard
has thrown at. -/
structure TenantDbState where
  principals : Nat → Option Principal
  actives : Nat → Option ActiveTx
  calls : List RunCall
  builders : List Builder
  pool : Nat → Option Nat
  queues : Nat → List (Nat × Statement)
  servers : Nat → Option ServerTx
  log : List LogEntry
  rejected : List (Nat × Statement)

def TenantDbState.fresh : TenantDbState where
  principals := fun _ => none
  actives := fun _ => none
  calls := []
  builders := []
  pool := fun _ => none
  queues := fun _ => []
  servers := fun _ => none
  log := []
  rejected := []

/-- What may happen. A `run` names its request, the transaction its async context is inside of,
and, for a transaction of its own, an id and the connection the pool hands out. -/
inductive PoolEvent where
  | mint (request : Nat) (principal : Principal)
  | run (request : Nat) (store : Option Nat) (id connection : Nat)
  | proceed (id : Nat)
  | settle (id : Nat) (ok : Bool)
  | build (call : Nat) (sql : String)
  | await (builder : Nat)
  | serve (connection : Nat) (ok : Bool)
  deriving DecidableEq, Repr

def TenantDbState.setActive (state : TenantDbState) (id : Nat) (active : ActiveTx) :
    TenantDbState :=
  { state with actives := Function.update state.actives id (some active) }

/-- The session of a transaction issues a statement, which waits in its connection's queue, or
throws. -/
def TenantDbState.issue (state : TenantDbState) (id : Nat) (active : ActiveTx)
    (query : Statement) : TenantDbState :=
  if active.prepareQuery query then
    { state with
      queues := Function.update state.queues active.connection
        (state.queues active.connection ++ [(id, query)]) }
  else { state with rejected := state.rejected ++ [(id, query)] }

/-- `run`, up to the first statement of a transaction of its own. Only what a callback has started
carries the store, and `BEGIN` goes out before the guard is installed. -/
def TenantDbState.run (state : TenantDbState) (principal : Principal) (store : Option Nat)
    (id connection : Nat) : Option TenantDbState :=
  match store with
  | some outer =>
    match state.actives outer with
    | some joined =>
      if state.calls.any (·.active = outer) then
        match joined.join principal.tenantId (scopeFor principal) with
        | .ok () => some { state with
            calls := state.calls ++ [⟨outer, principal.tenantId, scopeFor principal⟩] }
        | .error _ => some state
      else none
    | none => none
  | none =>
    if state.actives id = none ∧ state.pool connection = none then
      some { state with
        actives := Function.update state.actives id
          (some ⟨principal.tenantId, scopeFor principal, connection, true, .beginning⟩)
        pool := Function.update state.pool connection (some id)
        queues := Function.update state.queues connection
          (state.queues connection ++ [(id, .begin)]) }
    else none

/-- A transaction goes on after what it awaited. -/
def TenantDbState.proceed (state : TenantDbState) (id : Nat) (active : ActiveTx) :
    Option TenantDbState :=
  let control (query : Statement) : TenantDbState :=
    (state.issue id active query).setActive id { active with phase := .closing }
  match active.phase with
  | .begun => some ((state.issue id active (.setConfig active.settings)).setActive id
      { active with phase := .configuring })
  | .configured => some
      { state.setActive id { active with phase := .inside } with
        calls := state.calls ++ [⟨id, active.tenantId, active.scope⟩] }
  | .refused => some (control .rollback)
  | .returned true => some (control .commit)
  | .returned false => some (control .rollback)
  | .commitFailed => some (control .rollback)
  | .closed => some
      { state.setActive id { active with phase := .released } with
        pool := Function.update state.pool active.connection none }
  | _ => none

/-- What a statement does to the server's side of its connection. A failed data statement aborts
the transaction, which stays open. -/
def Statement.execute (id : Nat) (ok : Bool) (server : Option ServerTx) :
    Statement → Option ServerTx
  | .begin => if ok then some (server.getD ⟨id, none⟩) else server
  | .setConfig settings =>
    if ok then server.map fun open_ => { open_ with settings := some settings } else server
  | .data _ _ => server
  | .commit => none
  | .rollback => none

/-- What the answer to a statement does to the transaction that awaits it. -/
def Statement.answer (ok : Bool) (phase : TxPhase) : Statement → TxPhase
  | .begin => if ok then .begun else .lost
  | .setConfig _ => if ok then .configured else .refused
  | .data _ _ => phase
  | .commit => if ok then .closed else .commitFailed
  | .rollback => .closed

/-- The server executes a connection's next statement and answers. -/
def TenantDbState.serve (state : TenantDbState) (connection : Nat) (ok : Bool) :
    Option TenantDbState :=
  match state.queues connection with
  | [] => none
  | (id, statement) :: rest =>
    (state.actives id).map fun active =>
      { state.setActive id { active with phase := statement.answer ok active.phase } with
        queues := Function.update state.queues connection rest
        servers := Function.update state.servers connection
          (statement.execute id ok (state.servers connection))
        log := match statement with
          | .data call sql => state.log ++ [⟨call, sql, state.servers connection⟩]
          | _ => state.log }

/-- One event, where it is possible. A statement without a principal changes nothing, since
`this.tenant.tenantId` throws. -/
def poolAct (event : PoolEvent) (state : TenantDbState) : Option TenantDbState :=
  match event with
  | .mint request principal =>
    match setPrincipal (state.principals request) principal with
    | .ok stored =>
      some { state with principals := Function.update state.principals request stored }
    | .error _ => some state
  | .run request store id connection =>
    match state.principals request with
    | some principal => state.run principal store id connection
    | none => some state
  | .proceed id => (state.actives id).bind (state.proceed id)
  | .settle id ok =>
    (state.actives id).bind fun active =>
      if active.phase = .inside then
        some (state.setActive id { active with alive := false, phase := .returned ok })
      else none
  | .build call sql =>
    if call < state.calls.length ∧ isTransactionControl (.data call sql) = false then
      some { state with builders := state.builders ++ [⟨call, sql⟩] }
    else none
  | .await index =>
    (state.builders[index]?).bind fun builder =>
      (state.calls[builder.call]?).bind fun call =>
        (state.actives call.active).map fun active =>
          state.issue call.active active (.data builder.call builder.sql)
  | .serve connection ok => state.serve connection ok

end Sambung
