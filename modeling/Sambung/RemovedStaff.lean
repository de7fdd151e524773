/-
This file proves what a removed staff member still reaches. `removeStaff` deletes the seat, and
the foreign keys take the assignments along. The token stays good until it expires: the session it
opens finds every table empty that asks for a user or a property, and the four that only ask
for the tenant as they were.

The comment over `me` says that every scoped read behind such a token already returns nothing.
It does for the eleven tables whose policy reads the seat or an assignment. It does not for the
tenant's own row, whose policy asks for the tenant alone: the settings are open to staff, so the
token still reads them. A statement reaches nothing exactly where it reads no table of the four
that holds a row of the tenant and inserts into none of them.
-/

import Sambung.Isolation

namespace Sambung.RowSecurity

open Relational

/-! ### The removal -/

/-- The `WHERE` of `removeStaff`. -/
def isSeatOf (tenantId userId : Uuid) (row : SqlRow) : Option Bool :=
  both (equal (row .appUserId) (some (.uuid userId)))
    (both (equal (row .tenantId) (some (.uuid tenantId)))
      (equal (row .role) (some (.text "staff"))))

/-- `StaffRepository.removeStaff`. It answers whether it has deleted a row. -/
def removeStaff (tenantId userId : Uuid) :
    Relational.Statement SecuredTable SecuredColumn SqlValue :=
  fun tables => (through (isSeatOf tenantId userId) (tables .membership)).map fun row =>
    ⟨.membership, some row, none⟩

/-- The row seats the user at the tenant. -/
def Seats (tenantId userId : Uuid) (row : SqlRow) : Prop :=
  row .appUserId = some (.uuid userId) ∧ row .tenantId = some (.uuid tenantId)

/-- The user has no seat at the tenant. -/
def Seatless (tenantId userId : Uuid) (tables : Tables) : Prop :=
  ∀ row ∈ tables .membership, ¬ Seats tenantId userId row

theorem removeStaff_change {tenantId userId : Uuid} {tables : Tables}
    {change : Change SecuredTable SecuredColumn SqlValue}
    (made : change ∈ removeStaff tenantId userId tables) :
    ∃ row, change = ⟨.membership, some row, none⟩ ∧ Seats tenantId userId row := by
  obtain ⟨row, through, rfl⟩ := List.mem_map.mp made
  obtain ⟨user, rest⟩ := (both_true _ _).mp (mem_through.mp through).2
  exact ⟨row, rfl, equal_some.mp user, equal_some.mp ((both_true _ _).mp rest).1⟩

/-- A user has at most one seat at a tenant, so whoever deletes one leaves none. -/
theorem seatless_of_applied {tenantId userId : Uuid} {before after : Tables}
    (holds : schema.Holds before) {seat : SqlRow} (seats : Seats tenantId userId seat)
    (applied : Change.Applied ⟨.membership, some seat, none⟩ before after) :
    Seatless tenantId userId after := by
  obtain ⟨front, back, was, rfl⟩ := applied
  intro row member also
  rw [Function.update_self, Option.toList_none, List.append_nil] at member
  have apart := holds.distinct .membership
  rw [was, Option.toList_some, List.append_assoc, List.pairwise_append] at apart
  have agree : ∀ column ∈ primaryKey .membership, seat column = row column := by
    intro column isKey
    obtain rfl | rfl := List.mem_pair.mp isKey
    · rw [seats.1, also.1]
    · rw [seats.2, also.2]
  obtain inFront | inBack := List.mem_append.mp member
  · exact apart.2.2 row inFront seat List.mem_cons_self
      fun column isKey => (agree column isKey).symm
  · exact (List.pairwise_cons.mp apart.2.1).1 row inBack agree

/-- The change seats nobody, and re-keys no user and no tenant. -/
def Unseating (change : Change SecuredTable SecuredColumn SqlValue) : Prop :=
  change.table ∈ [SecuredTable.membership, .appUser, .tenant] → change.new = none

theorem reaction_unseating {key : ForeignKey SecuredTable SecuredColumn}
    (among : key ∈ foreignKeys) {change reaction : Change SecuredTable SecuredColumn SqlValue}
    (unseating : Unseating change) (reacts : key.Reacts change reaction) :
    Unseating reaction := by
  obtain ⟨parent, child, updated, becomes, refers, acts⟩ := reacts
  intro asked
  obtain isMembership | isOther := List.mem_cons.mp asked
  · have above : key.parent ∈ [SecuredTable.membership, .appUser, .tenant] := by
      obtain rfl | rfl := references_membership key among isMembership
      all_goals decide
    obtain rfl : updated = none := unseating above
    obtain rfl | rfl := references_membership key among isMembership
    all_goals
      rw [ForeignKey.act_deleted rfl] at acts
      exact (Option.some.inj acts).symm
  · exact absurd (List.mem_pair.mp isOther).symm (references_neither key among)

/-- After a removal that found its seat, the user has none. -/
theorem removeStaff_seatless {session : Session} {userId : Uuid} {before after : Tables}
    (holds : schema.Holds before)
    (executed : Executed schema (policies session.gucs) (removeStaff session.tenantId userId)
      before after)
    (found : removeStaff session.tenantId userId (visible (policies session.gucs) before) ≠ []) :
    Seatless session.tenantId userId after := by
  obtain ⟨middle, applied, fired⟩ := executed.effect
  have deletes : ∀ change ∈ removeStaff session.tenantId userId
      (visible (policies session.gucs) before), change.new = none := by
    intro change made
    obtain ⟨row, rfl, -⟩ := removeStaff_change made
    rfl
  have unseated : ∀ table, ∀ row ∈ middle table,
      table = .membership → ¬ Seats session.tenantId userId row := by
    obtain ⟨first, others, made⟩ := List.exists_cons_of_ne_nil found
    rw [made] at applied deletes
    obtain ⟨seat, rfl, seats⟩ := removeStaff_change (made ▸ List.mem_cons_self)
    cases applied with
    | cons _ _ _ emptied _ isFirst later =>
      refine later.rows (fun change member row isNew => ?_) ?_
      · rw [deletes change (List.mem_cons_of_mem _ member)] at isNew
        cases isNew
      · rintro table row member rfl
        exact seatless_of_applied holds seats isFirst row member
  intro row member
  refine fired.rows (fun _ among _ _ unseating _ => reaction_unseating among unseating) ?_
    (fun change made _ => deletes change made) unseated .membership row member rfl
  rintro change unseating new isNew isMembership
  rw [unseating (by rw [isMembership]; exact List.mem_cons_self)] at isNew
  cases isNew

/-! ### Without a seat -/

/-- No statement of a staff session seats its user: its changes are harmless, and harmless changes
carry what each table's rows keep. -/
theorem executed_seatless {session : Session} {userId : Uuid}
    (assigned : session.scope = .assigned userId)
    {statement : Relational.Statement SecuredTable SecuredColumn SqlValue}
    {before after : Tables} (seatless : Seatless session.tenantId userId before)
    (executed : Executed schema (policies session.gucs) statement before after) :
    Seatless session.tenantId userId after := by
  have kept : ∀ table, ∀ row ∈ after table,
      (table = .membership → ¬ Seats session.tenantId userId row) ∧
        GrantsWithin before session.tenantId userId table row := by
    refine executed.rows (fun _ => allowed_harmless assigned)
      (fun _ among _ _ harmless within => reaction_harmless among harmless
        fun row isOld => (within row isOld).2) ?_ ?_
    · rintro change harmless row isNew
      refine ⟨fun isMembership => ?_, harmless.grants row isNew⟩
      rw [harmless.seats isMembership] at isNew
      cases isNew
    · intro table row member
      refine ⟨?_, ?_⟩
      · rintro rfl
        exact seatless row member
      · rintro rfl tenant user property isProperty
        exact ⟨row, member, tenant, user, isProperty⟩
  exact fun row member => (kept .membership row member).1 rfl

/-- What may happen after the removal: anything that leaves the constraints standing and seats
the user at the tenant no more, and every statement of the user's own session. -/
inductive Since (session : Session) (userId : Uuid) (before after : Tables) : Prop
  | others (holds : schema.Holds after)
    (unseated : Seatless session.tenantId userId before → Seatless session.tenantId userId after)
  | own (statement : Relational.Statement SecuredTable SecuredColumn SqlValue)
    (executed : Executed schema (policies session.gucs) statement before after)

theorem seatless_since {session : Session} {userId : Uuid}
    (assigned : session.scope = .assigned userId) {removed now : Tables}
    (seatless : Seatless session.tenantId userId removed) (holds : schema.Holds removed)
    (since : Relation.ReflTransGen (Since session userId) removed now) :
    Seatless session.tenantId userId now ∧ schema.Holds now := by
  induction since with
  | refl => exact ⟨seatless, holds⟩
  | tail _ step inductionHypothesis =>
    cases step with
    | others holds unseated => exact ⟨unseated inductionHypothesis.1, holds⟩
    | own statement executed =>
      exact ⟨executed_seatless assigned inductionHypothesis.1 executed, executed.holds⟩

/-- A user without a seat has no assignment at the tenant, since the foreign key of an assignment
names the seat. -/
theorem seatless_unassigned {tenantId userId : Uuid} {tables : Tables}
    (holds : schema.Holds tables) (seatless : Seatless tenantId userId tables) :
    ∀ up ∈ tables .userProperty, ¬ Seats tenantId userId up := by
  intro up member ⟨user, tenant⟩
  have key : referencesInTenant .userProperty .appUserId .membership .appUserId .cascade ∈
      schema.foreignKeys := by decide
  obtain ⟨seat, inTable, refers⟩ := holds.refers _ key up member (by
    intro pair isPair
    obtain rfl | rfl := List.mem_pair.mp isPair
    · rw [user]
      exact Option.some_ne_none _
    · rw [tenant]
      exact Option.some_ne_none _)
  obtain ⟨value, isValue, isUser⟩ := refers (.appUserId, .appUserId) (by decide)
  obtain ⟨owner, isOwner, isTenant⟩ := refers (.tenantId, .tenantId) (by decide)
  rw [user] at isValue
  rw [tenant] at isOwner
  refine seatless seat inTable ⟨?_, ?_⟩
  · rw [isUser, isValue]
  · rw [isTenant, isOwner]

/-- The tables whose policies ask for a user or a property. -/
def userTables : List SecuredTable := propertyTables ++ [.userProperty, .membership, .appUser]

/-- The tables whose policies ask for the tenant only. -/
def tenantTables : List SecuredTable :=
  [.tenant, .staffInvite, .staffInviteProperty, .tenantPaymentCredential]

theorem mem_tenantTables {table : SecuredTable} (other : table ∉ userTables) :
    table ∈ tenantTables := by
  revert other
  cases table <;> decide

/-- The row is the tenant, or names it. -/
def OfTenant (tenantId : Uuid) (table : SecuredTable) (row : SqlRow) : Prop :=
  match table with
  | .tenant => row .id = some (.uuid tenantId)
  | _ => row .tenantId = some (.uuid tenantId)

/-- A tenant's table shows and takes the tenant's rows, whoever asks. -/
theorem tenantTables_policy {session : Session} {table : SecuredTable}
    (tenantOnly : table ∈ tenantTables) (tables : Tables) (row : SqlRow) :
    ((policies session.gucs table).qual tables row = some true ↔
      OfTenant session.tenantId table row) ∧
    (policies session.gucs table).withCheck = (policies session.gucs table).qual := by
  simp only [tenantTables, List.mem_cons, List.not_mem_nil, or_false] at tenantOnly
  obtain rfl | rfl | rfl | rfl := tenantOnly
  · refine ⟨?_, rfl⟩
    change tenantQual session.gucs row = some true ↔ _
    rw [tenantQual, Session.gucs, uuidSetting_text session.tenantFits, equal_some]
    rfl
  all_goals exact ⟨Session.inTenant, rfl⟩

section Removed

variable {session : Session} {userId : Uuid} {tables : Tables}

theorem appUserQual_seatless (assigned : session.scope = .assigned userId)
    (seatless : Seatless session.tenantId userId tables) (row : SqlRow) :
    appUserQual session.gucs tables row ≠ some true := by
  intro holds
  obtain ⟨m, through, -⟩ := existsRow_true.mp holds
  obtain ⟨member, own⟩ := mem_through.mp through
  exact seatless m member ((ownRowQual_assigned assigned).mp own).symm

theorem property_seatless (assigned : session.scope = .assigned userId)
    (holds : schema.Holds tables) (seatless : Seatless session.tenantId userId tables)
    {table : SecuredTable} (owned : table ∈ propertyTables) (row : SqlRow) :
    (policies session.gucs table).qual tables row ≠ some true := by
  intro seen
  obtain ⟨property, -, up, member, tenant, user, -⟩ :=
    (qual_isolated owned seen).property userId assigned
  exact seatless_unassigned holds seatless up member ⟨user, tenant⟩

/-- The session of a user without a seat reads none of the tables that ask for a user. -/
theorem visible_seatless (assigned : session.scope = .assigned userId)
    (holds : schema.Holds tables) (seatless : Seatless session.tenantId userId tables)
    {table : SecuredTable} (asks : table ∈ userTables) :
    visible (policies session.gucs) tables table = [] := by
  rw [visible, List.filter_eq_nil_iff]
  intro row member seen
  have qual := of_decide_eq_true seen
  obtain owned | rest := List.mem_append.mp asks
  · exact property_seatless assigned holds seatless owned row qual
  · simp only [List.mem_cons, List.not_mem_nil, or_false] at rest
    obtain rfl | rfl | rfl := rest
    · exact seatless_unassigned holds seatless row member
        ((ownRowQual_assigned assigned).mp qual).symm
    · exact seatless row member ((ownRowQual_assigned assigned).mp qual).symm
    · exact appUserQual_seatless assigned seatless row qual

/-- The session of a user without a seat writes no row of the tables that ask for a user either. -/
theorem withCheck_seatless (assigned : session.scope = .assigned userId)
    (holds : schema.Holds tables) (seatless : Seatless session.tenantId userId tables)
    {table : SecuredTable} (asks : table ∈ userTables) (row : SqlRow) :
    (policies session.gucs table).withCheck tables row ≠ some true := by
  have owners : ownersCheck session.gucs row ≠ some true := fun checked =>
    Session.scopeAll_assigned assigned ((both_true _ _).mp checked).2
  obtain owned | rest := List.mem_append.mp asks
  · rw [withCheck_eq owned]
    exact property_seatless assigned holds seatless owned row
  · simp only [List.mem_cons, List.not_mem_nil, or_false] at rest
    obtain rfl | rfl | rfl := rest
    · exact owners
    · exact owners
    · exact appUserQual_seatless assigned seatless row

/-- What a session without a seat is allowed concerns the tenant's own tables. -/
theorem allowed_tenantTables (assigned : session.scope = .assigned userId)
    (holds : schema.Holds tables) (seatless : Seatless session.tenantId userId tables)
    {change : Change SecuredTable SecuredColumn SqlValue} {row : SqlRow}
    (allowed : change.Allowed (policies session.gucs) tables)
    (involved : change.old = some row ∨ change.new = some row) :
    change.table ∈ tenantTables ∧ OfTenant session.tenantId change.table row := by
  have tenantOnly : change.table ∈ tenantTables := by
    refine mem_tenantTables fun asks => ?_
    obtain isOld | isNew := involved
    · have seen := allowed.used row isOld
      rw [visible_seatless assigned holds seatless asks] at seen
      cases seen
    · exact withCheck_seatless assigned holds seatless asks row (allowed.produced row isNew)
  obtain ⟨shows, alike⟩ := tenantTables_policy tenantOnly tables row
  refine ⟨tenantOnly, shows.mp ?_⟩
  obtain isOld | isNew := involved
  · exact (mem_visible.mp (allowed.used row isOld)).2
  · rw [← alike]
    exact allowed.produced row isNew

end Removed

/-! ### Locked out -/

/-- What a session without a seat reaches: nothing of the tables that ask for a user or a
property, and of the tenant's own tables the tenant's rows. -/
structure LockedOut (session : Session) (tables : Tables) : Prop where
  unread : ∀ table ∈ userTables, visible (policies session.gucs) tables table = []
  reads : ∀ table ∈ tenantTables, ∀ row, row ∈ visible (policies session.gucs) tables table ↔
    row ∈ tables table ∧ OfTenant session.tenantId table row
  writes : ∀ statement after, Executed schema (policies session.gucs) statement tables after →
    ∀ change ∈ statement (visible (policies session.gucs) tables), ∀ row,
      change.old = some row ∨ change.new = some row →
        change.table ∈ tenantTables ∧ OfTenant session.tenantId change.table row

theorem lockedOut_of_seatless {session : Session} {userId : Uuid} {tables : Tables}
    (assigned : session.scope = .assigned userId) (holds : schema.Holds tables)
    (seatless : Seatless session.tenantId userId tables) : LockedOut session tables := by
  refine ⟨fun table asks => visible_seatless assigned holds seatless asks, ?_, ?_⟩
  · intro table tenantOnly row
    rw [mem_visible, (tenantTables_policy tenantOnly tables row).1]
  · intro statement after runs change member row involved
    exact allowed_tenantTables assigned holds seatless (runs.allowed change member) involved

/-! ### When a statement reaches nothing -/

/-- A statement as a request issues it: the tables it reads, and the changes it makes of what it
reads. A row it changes or deletes is one of a table it reads. -/
structure DataStatement where
  names : List SecuredTable
  changes : Relational.Statement SecuredTable SecuredColumn SqlValue
  readsOld : ∀ tables, ∀ change ∈ changes tables, change.old ≠ none → change.table ∈ names

/-- The statement reads zero rows and writes zero rows. -/
structure DataStatement.ReachesNothing (statement : DataStatement) (session : Session)
    (tables : Tables) : Prop where
  reads : ∀ table ∈ statement.names, visible (policies session.gucs) tables table = []
  writes : ∀ change ∈ statement.changes (visible (policies session.gucs) tables),
    change.old = none ∧ change.new = none

/-- The statement inserts a row into the table. -/
def DataStatement.InsertsInto (statement : DataStatement) (session : Session) (tables : Tables)
    (table : SecuredTable) : Prop :=
  ∃ row, ⟨table, none, some row⟩ ∈ statement.changes (visible (policies session.gucs) tables)

/-- Behind a lock, a statement reaches nothing exactly where it reads no table of the tenant's own
that holds a row of the tenant, and inserts into none of them. -/
theorem LockedOut.reachesNothing_iff {session : Session} {tables after : Tables}
    (locked : LockedOut session tables) {statement : DataStatement}
    (runs : Executed schema (policies session.gucs) statement.changes tables after) :
    statement.ReachesNothing session tables ↔
      (∀ table ∈ statement.names, table ∈ tenantTables →
        ∀ row ∈ tables table, ¬ OfTenant session.tenantId table row) ∧
      ∀ table ∈ tenantTables, ¬ statement.InsertsInto session tables table := by
  constructor
  · intro nothing
    refine ⟨fun table named tenantOnly row stored own => ?_, ?_⟩
    · have seen := (locked.reads table tenantOnly row).mpr ⟨stored, own⟩
      rw [nothing.reads table named] at seen
      cases seen
    · rintro table - ⟨row, inserted⟩
      cases (nothing.writes _ inserted).2
  · rintro ⟨unread, uninserted⟩
    have reads : ∀ table ∈ statement.names,
        visible (policies session.gucs) tables table = [] := by
      intro table named
      by_cases asks : table ∈ userTables
      · exact locked.unread table asks
      · have tenantOnly := mem_tenantTables asks
        refine List.eq_nil_iff_forall_not_mem.mpr fun row seen => ?_
        obtain ⟨stored, own⟩ := (locked.reads table tenantOnly row).mp seen
        exact unread table named tenantOnly row stored own
    refine ⟨reads, fun change member => ?_⟩
    have fresh : change.old = none := by
      by_contra replaces
      obtain ⟨row, isOld⟩ := Option.ne_none_iff_exists'.mp replaces
      have seen := (runs.allowed change member).used row isOld
      rw [reads change.table (statement.readsOld _ change member replaces)] at seen
      cases seen
    refine ⟨fresh, ?_⟩
    by_contra produces
    obtain ⟨row, isNew⟩ := Option.ne_none_iff_exists'.mp produces
    obtain ⟨tenantOnly, -⟩ := locked.writes _ after runs change member row (Or.inr isNew)
    refine uninserted change.table tenantOnly ⟨row, ?_⟩
    obtain ⟨table, old, new⟩ := change
    dsimp only at fresh isNew
    rw [← fresh, ← isNew]
    exact member

/-- A removed staff member is locked out of the tables that ask for a user or a property, for as
long as nobody seats them again, and a statement their token still runs reads and writes nothing
exactly where it reads no table of the tenant's own that holds a row of the tenant and inserts into
none of them. The removal is one that found the seat, from any state the constraints hold in;
between it and now, other sessions may do anything that keeps the constraints and the user
unseated, and the user's own session anything at all. -/
theorem removed_staff_locked_out {owner session : Session} {userId : Uuid}
    {before removed now : Tables} (holds : schema.Holds before)
    (executed : Executed schema (policies owner.gucs) (removeStaff owner.tenantId userId)
      before removed)
    (found : removeStaff owner.tenantId userId (visible (policies owner.gucs) before) ≠ [])
    (same : session.tenantId = owner.tenantId) (assigned : session.scope = .assigned userId)
    (since : Relation.ReflTransGen (Since session userId) removed now) :
    LockedOut session now ∧
      ∀ (statement : DataStatement) (after : Tables),
        Executed schema (policies session.gucs) statement.changes now after →
          (statement.ReachesNothing session now ↔
            (∀ table ∈ statement.names, table ∈ tenantTables →
              ∀ row ∈ now table, ¬ OfTenant session.tenantId table row) ∧
            ∀ table ∈ tenantTables, ¬ statement.InsertsInto session now table) := by
  have unseated : Seatless session.tenantId userId removed := by
    rw [same]
    exact removeStaff_seatless holds executed found
  obtain ⟨seatless, sound⟩ := seatless_since assigned unseated executed.holds since
  have locked := lockedOut_of_seatless assigned sound seatless
  exact ⟨locked, fun statement after runs => locked.reachesNothing_iff runs⟩

/-! ### A villa -/

theorem villaOwner_fits (staffUserId : Uuid)
    (assigned : PropertyScope.all = .assigned staffUserId) : staffUserId < 2 ^ 128 := by
  cases assigned

/-- The owner's session. -/
def villaOwner : Session := ⟨1, .all, villaTenant_fits, villaOwner_fits⟩

/-- What the removal of staff user 2 leaves. -/
def removedTables : Tables
  | .tenant => [villaTenant]
  | .appUser => [sqlRow [(.id, .uuid 2)]]
  | .property => [villaHouse, villaCabin]
  | _ => []

theorem removeStaff_villa :
    removeStaff 1 2 (visible (policies villaOwner.gucs) villaTables) =
      [⟨.membership, some villaMember, none⟩] := by
  have seen : ownRowQual villaOwner.gucs villaMember = some true := by decide +kernel
  have found : isSeatOf 1 2 villaMember = some true := by decide +kernel
  have shown : visible (policies villaOwner.gucs) villaTables .membership = [villaMember] :=
    List.filter_cons_of_pos (decide_eq_true seen)
  have chosen : through (isSeatOf 1 2) [villaMember] = [villaMember] :=
    List.filter_cons_of_pos (decide_eq_true found)
  rw [removeStaff, shown, chosen, List.map_singleton]

theorem removeStaff_executed :
    Executed schema (policies villaOwner.gucs) (removeStaff villaOwner.tenantId 2) villaTables
      removedTables := by
  have seen : villaMember ∈ visible (policies villaOwner.gucs) villaTables .membership :=
    mem_visible.mpr ⟨List.mem_cons_self, by decide +kernel⟩
  have emptied : removedTables =
      Function.update (Function.update villaTables .membership []) .userProperty [] := by
    funext table
    cases table <;> rfl
  have unassigns : (referencesInTenant .userProperty .appUserId .membership .appUserId
      .cascade).Reacts ⟨.membership, some villaMember, none⟩
        ⟨.userProperty, some villaAssignment, none⟩ :=
    .act villaMember villaAssignment none none (by decide +kernel) rfl
  refine ⟨?_, ?_, by decide +kernel⟩
  · rw [show villaOwner.tenantId = 1 from rfl, removeStaff_villa]
    intro change member
    rw [List.mem_singleton.mp member]
    refine ⟨fun row isOld => ?_, fun row isNew => ?_⟩
    · rwa [← Option.some.inj isOld]
    · cases isNew
  · rw [show villaOwner.tenantId = 1 from rfl, removeStaff_villa]
    exact ⟨_, .cons _ [] _ _ _ ⟨[], [], rfl, rfl⟩ (.nil _),
      .one _ _ _ _ _ removedTables _ List.mem_cons_self (by decide) unassigns
        ⟨[], [], rfl, emptied⟩ (.none _ _)⟩

theorem removeStaff_found :
    removeStaff villaOwner.tenantId 2 (visible (policies villaOwner.gucs) villaTables) ≠ [] := by
  rw [show villaOwner.tenantId = 1 from rfl, removeStaff_villa]
  exact List.cons_ne_nil _ _

theorem readsOld_nothing (names : List SecuredTable) :
    ∀ tables : Tables, ∀ change ∈ (fun _ : Tables =>
      ([] : List (Change SecuredTable SecuredColumn SqlValue))) tables,
        change.old ≠ none → change.table ∈ names :=
  fun _ _ member => nomatch member

/-- A `SELECT` from these tables. -/
def selects (names : List SecuredTable) : DataStatement where
  names := names
  changes := fun _ => []
  readsOld := readsOld_nothing names

theorem selects_executed (names : List SecuredTable) {session : Session} {tables : Tables}
    (holds : schema.Holds tables) :
    Executed schema (policies session.gucs) (selects names).changes tables tables where
  allowed _ member := nomatch member
  effect := ⟨tables, .nil _, .none _ _⟩
  holds := holds

/-- After the removal, the token's `SELECT` over properties and bookings reads nothing, and the one
behind `GET /settings` reads the tenant's row. -/
theorem removed_staff_locked_out_villa :
    LockedOut villaSession removedTables ∧
      (selects [.property, .booking]).ReachesNothing villaSession removedTables ∧
      ¬ (selects [.tenant]).ReachesNothing villaSession removedTables := by
  obtain ⟨locked, exactly⟩ := @removed_staff_locked_out villaOwner villaSession 2 villaTables
    removedTables removedTables villaTables_hold removeStaff_executed removeStaff_found rfl rfl
    .refl
  have inserts : ∀ names, ∀ table ∈ tenantTables,
      ¬ (selects names).InsertsInto villaSession removedTables table :=
    fun _ _ _ ⟨_, inserted⟩ => nomatch inserted
  refine ⟨locked, ?_, fun nothing => ?_⟩
  · refine (exactly _ removedTables (selects_executed _ removeStaff_executed.holds)).mpr
      ⟨fun table named tenantOnly => ?_, inserts _⟩
    rcases List.mem_pair.mp named with rfl | rfl
    · exact absurd tenantOnly (by decide)
    · exact absurd tenantOnly (by decide)
  · refine ((exactly _ removedTables (selects_executed _ removeStaff_executed.holds)).mp
      nothing).1 .tenant List.mem_cons_self (by decide) villaTenant List.mem_cons_self ?_
    show villaTenant .id = some (.uuid 1)
    decide +kernel

/-- The session of a removed staff member still reads the tenant's row, as `GET /settings` does. -/
theorem removed_staff_reads_tenant :
    ¬ ∀ (owner session : Session) (userId : Uuid) (before removed now : Tables),
      schema.Holds before →
        Executed schema (policies owner.gucs) (removeStaff owner.tenantId userId) before removed →
        removeStaff owner.tenantId userId (visible (policies owner.gucs) before) ≠ [] →
        session.tenantId = owner.tenantId → session.scope = .assigned userId →
        Relation.ReflTransGen (Since session userId) removed now →
          ∀ table, visible (policies session.gucs) now table = [] := by
  intro nothing
  have empty := nothing villaOwner villaSession 2 villaTables removedTables removedTables
    villaTables_hold removeStaff_executed removeStaff_found rfl rfl .refl .tenant
  have shown : villaTenant ∈ visible (policies villaSession.gucs) removedTables .tenant :=
    mem_visible.mpr ⟨List.mem_cons_self, by decide +kernel⟩
  rw [empty] at shown
  cases shown

end Sambung.RowSecurity
