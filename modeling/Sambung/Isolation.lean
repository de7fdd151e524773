/-
This file proves what row security promises of the tables a property owns: a
session sees and writes rows of its tenant, and under an assigned scope of the
properties its staff user is assigned. Nothing a staff session does, referential
actions included, lets it see a property it could not see before.

The scope of a statement is its own changes. What a foreign key removes in answer
is outside it: a staff session may delete its tenant, and every property goes
along.

A table reaches its property through its own column, through its unit, or through
its booking, whose own policy applies in the subquery; one lemma for each way
covers all tables. That no run widens a staff session is an invariant of rows in
the library's sense: what the policies allow such a session is harmless, and a
foreign key answers a harmless change with a harmless one.
-/

import Sambung.RowSecurity

namespace Sambung.RowSecurity

open Relational

/-! ### What the settings say -/

theorem uuidSetting_text {id : Uuid} (fits : id < 2 ^ 128) :
    uuidSetting (some (uuidText id)) = some (.uuid id) := by
  have parsed := parseUuid_uuidText fits
  have filled : uuidText id ≠ "" := by
    intro empty
    rw [empty] at parsed
    cases parsed
  rw [uuidSetting, Option.bind_some, if_neg filled, parsed, Option.map_some]

theorem Session.inTenant {session : Session} {row : SqlRow} :
    RowSecurity.inTenant session.gucs row = some true ↔
      row .tenantId = some (.uuid session.tenantId) := by
  rw [RowSecurity.inTenant, Session.gucs, uuidSetting_text session.tenantFits, equal_some]

theorem Session.scopeAll_assigned {session : Session} {staffUserId : Uuid}
    (assigned : session.scope = .assigned staffUserId) : session.gucs.scopeAll ≠ some true := by
  rw [Gucs.scopeAll, Session.gucs, assigned]
  change equal (some "assigned") (some "all") ≠ some true
  decide

theorem Session.staff_assigned {session : Session} {staffUserId : Uuid}
    (assigned : session.scope = .assigned staffUserId) :
    uuidSetting session.gucs.staffUserId = some (.uuid staffUserId) := by
  rw [Session.gucs, assigned]
  exact uuidSetting_text (session.staffFits _ assigned)

theorem mem_through {qual : SqlRow → Option Bool} {rows : List SqlRow} {row : SqlRow} :
    row ∈ through qual rows ↔ row ∈ rows ∧ qual row = some true := by
  rw [through, List.mem_filter, decide_eq_true_eq]

/-! ### Whose a row is -/

def SameValue (first second : Option SqlValue) : Prop :=
  ∃ value, first = some value ∧ second = some value

/-- The unit of the row is one of the property. -/
def UnitBelongs (tables : Tables) (row : SqlRow) (property : SqlValue) : Prop :=
  ∃ u ∈ tables .unit, SameValue (u .id) (row .unitId) ∧ u .propertyId = some property

/-- The row belongs to the property. -/
def BelongsToProperty (tables : Tables) (table : SecuredTable) (row : SqlRow)
    (property : SqlValue) : Prop :=
  match table with
  | .property => row .id = some property
  | .unit => row .propertyId = some property
  | .payment | .paymentEvent =>
    ∃ b ∈ tables .booking, SameValue (b .id) (row .bookingId) ∧ UnitBelongs tables b property
  | _ => UnitBelongs tables row property

/-- The row belongs to the tenant. -/
def BelongsToTenant (tables : Tables) (table : SecuredTable) (row : SqlRow)
    (tenantId : Uuid) : Prop :=
  match table with
  | .payment | .paymentEvent =>
    ∃ b ∈ tables .booking, SameValue (b .id) (row .bookingId) ∧
      b .tenantId = some (.uuid tenantId)
  | _ => row .tenantId = some (.uuid tenantId)

/-- The staff user is assigned the property. -/
def Granted (tables : Tables) (tenantId staffUserId : Uuid) (property : SqlValue) : Prop :=
  ∃ up ∈ tables .userProperty, up .tenantId = some (.uuid tenantId) ∧
    up .appUserId = some (.uuid staffUserId) ∧ up .propertyId = some property

/-- The tables whose rows belong to a property. -/
def propertyTables : List SecuredTable :=
  [.property, .unit, .booking, .channelConnection, .syncConflict, .unitPriceOverride, .payment,
    .paymentEvent]

/-- The row is one of the session's tenant, and of a property the session is assigned. -/
structure Isolated (session : Session) (tables : Tables) (table : SecuredTable) (row : SqlRow) :
    Prop where
  tenant : BelongsToTenant tables table row session.tenantId
  property : ∀ staffUserId, session.scope = .assigned staffUserId →
    ∃ property, BelongsToProperty tables table row property ∧
      Granted tables session.tenantId staffUserId property

/-! ### What the policies let through -/

theorem ownRowQual_assigned {session : Session} {staffUserId : Uuid}
    (assigned : session.scope = .assigned staffUserId) {row : SqlRow} :
    ownRowQual session.gucs row = some true ↔
      row .tenantId = some (.uuid session.tenantId) ∧
        row .appUserId = some (.uuid staffUserId) := by
  rw [ownRowQual, both_true, either_true, Session.inTenant, Session.staff_assigned assigned,
    equal_some, or_iff_right (Session.scopeAll_assigned assigned)]

theorem appPropertyVisible_assigned {session : Session} {staffUserId : Uuid}
    (assigned : session.scope = .assigned staffUserId) {tables : Tables}
    {propertyId : Option SqlValue} :
    appPropertyVisible session.gucs tables propertyId = some true ↔
      ∃ property, propertyId = some property ∧
        Granted tables session.tenantId staffUserId property := by
  rw [appPropertyVisible, either_true, or_iff_right (Session.scopeAll_assigned assigned),
    existsRow_true]
  simp only [mem_through, ownRowQual_assigned assigned, both_true, equal_true,
    Session.staff_assigned assigned]
  constructor
  · rintro ⟨up, ⟨member, tenant, user⟩, ⟨property, isProperty, same⟩, -⟩
    exact ⟨property, same, up, member, tenant, user, isProperty⟩
  · rintro ⟨property, same, up, member, tenant, user, isProperty⟩
    exact ⟨up, ⟨member, tenant, user⟩, ⟨property, isProperty, same⟩, _, user, rfl⟩

theorem propertyQual_isolated {session : Session} {tables : Tables} {row : SqlRow}
    (holds : propertyQual session.gucs tables row = some true) :
    Isolated session tables .property row := by
  obtain ⟨tenant, visible⟩ := (both_true _ _).mp holds
  exact ⟨Session.inTenant.mp tenant, fun _ assigned =>
    (appPropertyVisible_assigned assigned).mp visible⟩

theorem unitQual_isolated {session : Session} {tables : Tables} {row : SqlRow}
    (holds : unitQual session.gucs tables row = some true) :
    Isolated session tables .unit row := by
  obtain ⟨tenant, visible⟩ := (both_true _ _).mp holds
  exact ⟨Session.inTenant.mp tenant, fun _ assigned =>
    (appPropertyVisible_assigned assigned).mp visible⟩

/-- A row that carries a unit reaches the property through it. -/
theorem ofUnitQual_isolated {session : Session} {tables : Tables} {row : SqlRow}
    (holds : ofUnitQual session.gucs tables row = some true) :
    row .tenantId = some (.uuid session.tenantId) ∧
      ∀ staffUserId, session.scope = .assigned staffUserId →
        ∃ property, UnitBelongs tables row property ∧
          Granted tables session.tenantId staffUserId property := by
  obtain ⟨tenant, found⟩ := (both_true _ _).mp holds
  refine ⟨Session.inTenant.mp tenant, fun staffUserId assigned => ?_⟩
  obtain ⟨u, through, named⟩ := existsRow_true.mp found
  obtain ⟨same, visible⟩ := (both_true _ _).mp named
  obtain ⟨property, isProperty, granted⟩ := (appPropertyVisible_assigned assigned).mp visible
  exact ⟨property, ⟨u, (mem_through.mp through).1, equal_true.mp same, isProperty⟩, granted⟩

/-- A payment reaches the property through its booking, whose own policy applies. -/
theorem paymentQual_isolated {session : Session} {tables : Tables} {row : SqlRow}
    (holds : paymentQual session.gucs tables row = some true) :
    Isolated session tables .payment row := by
  obtain ⟨b, through, named⟩ := existsRow_true.mp holds
  obtain ⟨member, seen⟩ := mem_through.mp through
  obtain ⟨same, -⟩ := (both_true _ _).mp named
  obtain ⟨tenant, property⟩ := ofUnitQual_isolated seen
  refine ⟨⟨b, member, equal_true.mp same, tenant⟩, fun staffUserId assigned => ?_⟩
  obtain ⟨property, belongs, granted⟩ := property staffUserId assigned
  exact ⟨property, ⟨b, member, equal_true.mp same, belongs⟩, granted⟩

/-- A row of a property's table that its policy lets through is isolated. -/
theorem qual_isolated {session : Session} {tables : Tables} {table : SecuredTable}
    (owned : table ∈ propertyTables) {row : SqlRow}
    (holds : (policies session.gucs table).qual tables row = some true) :
    Isolated session tables table row := by
  have ofUnit : ofUnitQual session.gucs tables row = some true →
      ∀ table ∈ [SecuredTable.booking, .channelConnection, .syncConflict, .unitPriceOverride],
        Isolated session tables table row := by
    intro passes table member
    have isolated := ofUnitQual_isolated passes
    simp only [List.mem_cons, List.not_mem_nil, or_false] at member
    obtain rfl | rfl | rfl | rfl := member
    all_goals exact ⟨isolated.1, isolated.2⟩
  simp only [propertyTables, List.mem_cons, List.not_mem_nil, or_false] at owned
  obtain rfl | rfl | rfl | rfl | rfl | rfl | rfl | rfl := owned
  · exact propertyQual_isolated holds
  · exact unitQual_isolated holds
  · exact ofUnit holds _ (by decide)
  · exact ofUnit holds _ (by decide)
  · exact ofUnit holds _ (by decide)
  · exact ofUnit holds _ (by decide)
  · exact paymentQual_isolated holds
  · have isolated := paymentQual_isolated ((both_true _ _).mp holds).2
    exact ⟨isolated.tenant, isolated.property⟩

/-- A property's table checks what is written by what it lets through. -/
theorem withCheck_eq {gucs : Gucs} {table : SecuredTable} (owned : table ∈ propertyTables) :
    (policies gucs table).withCheck = (policies gucs table).qual := by
  simp only [propertyTables, List.mem_cons, List.not_mem_nil, or_false] at owned
  obtain rfl | rfl | rfl | rfl | rfl | rfl | rfl | rfl := owned
  all_goals rfl

/-- What a statement changes of a property's table is isolated, before and after. -/
theorem allowed_isolated {session : Session} {tables : Tables}
    {change : Change SecuredTable SecuredColumn SqlValue}
    (allowed : change.Allowed (policies session.gucs) tables)
    (owned : change.table ∈ propertyTables) {row : SqlRow}
    (involved : change.old = some row ∨ change.new = some row) :
    Isolated session tables change.table row := by
  obtain old | new := involved
  · exact qual_isolated owned (mem_visible.mp (allowed.used row old)).2
  · refine qual_isolated owned ?_
    rw [← withCheck_eq owned]
    exact allowed.produced row new

/-! ### What a staff session can assign -/

/-- The row assigns the staff user nothing that the tables do not. -/
def GrantsWithin (tables : Tables) (tenantId staffUserId : Uuid) (table : SecuredTable)
    (row : SqlRow) : Prop :=
  table = .userProperty → row .tenantId = some (.uuid tenantId) →
    row .appUserId = some (.uuid staffUserId) →
      ∀ property, row .propertyId = some property → Granted tables tenantId staffUserId property

/-- The change assigns and seats nobody, gives a property no id but an assigned one, and leaves
the ids of tenants and users alone. -/
structure Harmless (tables : Tables) (tenantId staffUserId : Uuid)
    (change : Change SecuredTable SecuredColumn SqlValue) : Prop where
  grants : ∀ row, change.new = some row →
    GrantsWithin tables tenantId staffUserId change.table row
  property : change.table = .property → ∀ old new, change.old = some old →
    change.new = some new → new .id ≠ old .id →
      ∃ property, new .id = some property ∧ Granted tables tenantId staffUserId property
  kept : change.table = .tenant ∨ change.table = .appUser → ∀ old new, change.old = some old →
    change.new = some new → new .id = old .id
  seats : change.table = .membership → change.new = none

theorem appUserQual_assigned {session : Session} {staffUserId : Uuid}
    (assigned : session.scope = .assigned staffUserId) {tables : Tables} {row : SqlRow}
    (holds : appUserQual session.gucs tables row = some true) :
    row .id = some (.uuid staffUserId) := by
  obtain ⟨m, through, named⟩ := existsRow_true.mp holds
  have own := ((ownRowQual_assigned assigned).mp (mem_through.mp through).2).2
  obtain ⟨value, isMember, isRow⟩ := equal_true.mp ((both_true _ _).mp named).1
  rw [isRow, ← isMember, own]

/-- A staff session writes no row of `user_property` and none of `membership`. -/
theorem allowed_deletes {session : Session} {staffUserId : Uuid}
    (assigned : session.scope = .assigned staffUserId) {tables : Tables}
    {change : Change SecuredTable SecuredColumn SqlValue}
    (allowed : change.Allowed (policies session.gucs) tables)
    (seat : change.table = .userProperty ∨ change.table = .membership) : change.new = none := by
  obtain ⟨table, old, new⟩ := change
  cases new with
  | none => rfl
  | some row =>
    exfalso
    have checked : ownersCheck session.gucs row = some true := by
      obtain rfl | rfl := seat
      · exact allowed.produced row rfl
      · exact allowed.produced row rfl
    exact Session.scopeAll_assigned assigned ((both_true _ _).mp checked).2

/-- Whatever the policies allow a staff session is harmless. -/
theorem allowed_harmless {session : Session} {staffUserId : Uuid}
    (assigned : session.scope = .assigned staffUserId) {tables : Tables}
    {change : Change SecuredTable SecuredColumn SqlValue}
    (allowed : change.Allowed (policies session.gucs) tables) :
    Harmless tables session.tenantId staffUserId change := by
  refine ⟨?_, ?_, ?_, fun seat => allowed_deletes assigned allowed (.inr seat)⟩
  · intro row isNew isUserProperty
    rw [allowed_deletes assigned allowed (.inl isUserProperty)] at isNew
    cases isNew
  all_goals obtain ⟨table, old, new⟩ := change
  · rintro rfl old new - isNew -
    have checked : propertyQual session.gucs tables new = some true := allowed.produced new isNew
    exact (appPropertyVisible_assigned assigned).mp ((both_true _ _).mp checked).2
  · rintro either old new isOld isNew
    have used := (mem_visible.mp (allowed.used old isOld)).2
    have checked := allowed.produced new isNew
    obtain rfl | rfl := either
    · have ids : ∀ row : SqlRow, tenantQual session.gucs row = some true →
          row .id = some (.uuid session.tenantId) := by
        intro row holds
        rwa [tenantQual, Session.gucs, uuidSetting_text session.tenantFits, equal_some] at holds
      rw [ids new checked, ids old used]
    · rw [appUserQual_assigned assigned checked, appUserQual_assigned assigned used]

/-! ### What the foreign keys answer -/

theorem references_act {child parent : SecuredTable} {column : SecuredColumn}
    {onDelete : ReferentialAction} {old new row : SqlRow} {becomes : Option SqlRow}
    (acts : (references child column parent onDelete).act old (some new) row = some becomes) :
    new .id ≠ old .id ∧ becomes = some (Function.update row column (new .id)) := by
  have changed : ¬ ∀ pair ∈ (references child column parent onDelete).columns,
      new pair.2 = old pair.2 := by
    intro kept
    rw [ForeignKey.act_kept _ kept] at acts
    cases acts
  rw [ForeignKey.act_changed rfl changed] at acts
  refine ⟨fun same => changed fun pair member => ?_, ?_⟩
  · rw [List.mem_singleton.mp member]
    exact same
  · rw [← Option.some.inj acts]
    congr 1
    funext other
    by_cases isColumn : other = column
    · rw [isColumn, Function.update_self, ForeignKey.assign, references, List.find?_cons_of_pos]
      exact decide_eq_true rfl
    · rw [Function.update_of_ne isColumn, ForeignKey.assign, references,
        List.find?_cons_of_neg, List.find?_nil]
      exact fun same => isColumn (of_decide_eq_true same).symm

theorem references_userProperty : ∀ key ∈ foreignKeys, key.child = .userProperty →
    key = references .userProperty .appUserId .appUser .cascade ∨
      key = references .userProperty .propertyId .property .cascade ∨
      key = references .userProperty .tenantId .tenant .cascade ∨
      key = referencesInTenant .userProperty .propertyId .property .id .cascade ∨
      key = referencesInTenant .userProperty .appUserId .membership .appUserId .cascade := by
  decide

theorem references_property : ∀ key ∈ foreignKeys, key.child = .property →
    key = references .property .tenantId .tenant .cascade := by
  decide

theorem references_membership : ∀ key ∈ foreignKeys, key.child = .membership →
    key = references .membership .appUserId .appUser .cascade ∨
      key = references .membership .tenantId .tenant .cascade := by
  decide

theorem references_neither : ∀ key ∈ foreignKeys,
    ¬ (key.child = .tenant ∨ key.child = .appUser) := by
  decide

/-- A key answers a harmless change with a harmless one: a deletion takes the rows that assign
along. -/
theorem reaction_harmless {tables : Tables} {tenantId staffUserId : Uuid}
    {key : ForeignKey SecuredTable SecuredColumn} (among : key ∈ foreignKeys)
    {change reaction : Change SecuredTable SecuredColumn SqlValue}
    (harmless : Harmless tables tenantId staffUserId change)
    (within : ∀ row, reaction.old = some row →
      GrantsWithin tables tenantId staffUserId reaction.table row)
    (reacts : key.Reacts change reaction) :
    Harmless tables tenantId staffUserId reaction := by
  obtain ⟨parent, child, updated, becomes, refers, acts⟩ := reacts
  refine ⟨?_, ?_, fun either => absurd either (references_neither key among), ?_⟩
  · rintro row isNew isUserProperty
    obtain rfl : becomes = some row := isNew
    have was := within child rfl isUserProperty
    cases updated with
    | none =>
      exfalso
      have cascades : key.onDelete = .cascade := by
        obtain rfl | rfl | rfl | rfl | rfl := references_userProperty key among isUserProperty
        all_goals rfl
      rw [ForeignKey.act_deleted cascades] at acts
      cases acts
    | some new =>
      obtain rfl | rfl | rfl | rfl | rfl := references_userProperty key among isUserProperty
      · exact absurd (harmless.kept (.inr rfl) _ _ rfl rfl) (references_act acts).1
      · obtain ⟨changed, rekeyed⟩ := references_act acts
        obtain ⟨property, isProperty, granted⟩ := harmless.property rfl _ _ rfl rfl changed
        obtain rfl := Option.some.inj rekeyed
        rintro - - other isOther
        rw [Function.update_self, isProperty] at isOther
        rwa [← Option.some.inj isOther]
      · exact absurd (harmless.kept (.inl rfl) _ _ rfl rfl) (references_act acts).1
      · rw [ForeignKey.act_updated rfl] at acts
        cases acts
      · rw [ForeignKey.act_updated rfl] at acts
        cases acts
  · rintro isProperty old new - isNew -
    exfalso
    obtain rfl : becomes = some new := isNew
    obtain rfl := references_property key among isProperty
    cases updated with
    | none =>
      rw [ForeignKey.act_deleted rfl] at acts
      cases acts
    | some updated => exact (references_act acts).1 (harmless.kept (.inl rfl) _ _ rfl rfl)
  · intro isMembership
    have above : key.parent = .tenant ∨ key.parent = .appUser := by
      obtain rfl | rfl := references_membership key among isMembership
      · exact .inr rfl
      · exact .inl rfl
    obtain rfl | rfl := references_membership key among isMembership
    all_goals
      cases updated with
      | none =>
        rw [ForeignKey.act_deleted rfl] at acts
        exact (Option.some.inj acts).symm
      | some updated => exact absurd (harmless.kept above _ _ rfl rfl) (references_act acts).1

/-! ### Runs of a staff session -/

/-- Statements of one session, one after another. -/
def Session.Runs (session : Session) : Tables → Tables → Prop :=
  Relation.ReflTransGen fun before after =>
    ∃ statement, Executed schema (policies session.gucs) statement before after

/-- What the session sees of the properties. -/
def Session.visibleProperties (session : Session) (tables : Tables) : Set SqlValue :=
  {property | ∃ row ∈ visible (policies session.gucs) tables .property,
    row .id = some property}

/-- No statement assigns its staff user anything. -/
theorem executed_granted {session : Session} {staffUserId : Uuid}
    (assigned : session.scope = .assigned staffUserId)
    {statement : Relational.Statement SecuredTable SecuredColumn SqlValue} {before after : Tables}
    (executed : Executed schema (policies session.gucs) statement before after)
    {property : SqlValue} (granted : Granted after session.tenantId staffUserId property) :
    Granted before session.tenantId staffUserId property := by
  have started : ∀ table, ∀ row ∈ before table,
      GrantsWithin before session.tenantId staffUserId table row := by
    rintro table row inTable rfl isTenant isUser other isOther
    exact ⟨row, inTable, isTenant, isUser, isOther⟩
  have left : ∀ table, ∀ row ∈ after table,
      GrantsWithin before session.tenantId staffUserId table row :=
    executed.rows (fun _ => allowed_harmless assigned)
      (fun _ among _ _ harmless within => reaction_harmless among harmless within)
      (fun _ harmless => harmless.grants) started
  obtain ⟨up, member, tenant, user, isProperty⟩ := granted
  exact left .userProperty up member rfl tenant user property isProperty

/-- What the run of a staff session leaves assigned was assigned. -/
theorem runs_granted {session : Session} {staffUserId : Uuid}
    (assigned : session.scope = .assigned staffUserId) {before after : Tables}
    (runs : session.Runs before after) {property : SqlValue}
    (granted : Granted after session.tenantId staffUserId property) :
    Granted before session.tenantId staffUserId property := by
  induction runs with
  | refl => exact granted
  | tail _ step inductionHypothesis =>
    obtain ⟨statement, executed⟩ := step
    exact inductionHypothesis (executed_granted assigned executed granted)

/-- A staff session sees the properties its user is assigned. -/
theorem mem_visibleProperties {session : Session} {staffUserId : Uuid}
    (assigned : session.scope = .assigned staffUserId) {tables : Tables}
    (holds : schema.Holds tables) {property : SqlValue} :
    property ∈ session.visibleProperties tables ↔
      Granted tables session.tenantId staffUserId property := by
  constructor
  · rintro ⟨row, seen, isProperty⟩
    have qual : propertyQual session.gucs tables row = some true := (mem_visible.mp seen).2
    obtain ⟨other, isOther, granted⟩ :=
      (appPropertyVisible_assigned assigned).mp ((both_true _ _).mp qual).2
    rw [isProperty] at isOther
    rwa [Option.some.inj isOther]
  · intro granted
    obtain ⟨up, member, tenant, user, isProperty⟩ := granted
    have key : referencesInTenant .userProperty .propertyId .property .id .cascade ∈
        schema.foreignKeys := by decide
    obtain ⟨row, inTable, refers⟩ := holds.refers _ key up member (by
      intro pair isPair
      obtain rfl | rfl := List.mem_pair.mp isPair
      · rw [isProperty]
        exact Option.some_ne_none _
      · rw [tenant]
        exact Option.some_ne_none _)
    obtain ⟨value, isValue, isId⟩ := refers (.propertyId, .id) (by decide)
    obtain ⟨owner, isOwner, isTenant⟩ := refers (.tenantId, .tenantId) (by decide)
    rw [isProperty] at isValue
    rw [tenant] at isOwner
    rw [← Option.some.inj isValue] at isId
    rw [← Option.some.inj isOwner] at isTenant
    refine ⟨row, mem_visible.mpr ⟨inTable, (both_true _ _).mpr ⟨Session.inTenant.mpr isTenant, ?_⟩⟩,
      isId⟩
    exact (appPropertyVisible_assigned assigned).mpr
      ⟨property, isId, up, member, tenant, user, isProperty⟩

theorem runs_holds {session : Session} {before after : Tables} (holds : schema.Holds before)
    (runs : session.Runs before after) : schema.Holds after := by
  induction runs with
  | refl => exact holds
  | tail _ step _ =>
    obtain ⟨statement, executed⟩ := step
    exact executed.holds

/-- No run of a staff session widens what it sees. -/
theorem runs_visibleProperties {session : Session} {staffUserId : Uuid}
    (assigned : session.scope = .assigned staffUserId) {before after : Tables}
    (holds : schema.Holds before) (runs : session.Runs before after) :
    session.visibleProperties after ⊆ session.visibleProperties before := by
  intro property seen
  rw [mem_visibleProperties assigned holds]
  rw [mem_visibleProperties assigned (runs_holds holds runs)] at seen
  exact runs_granted assigned runs seen

/-! ### Settings that are not set -/

/-- No transaction has set the settings on this connection, or one has and is over. -/
structure Gucs.Unset (gucs : Gucs) : Prop where
  tenantId : gucs.tenantId = none ∨ gucs.tenantId = some ""
  propertyScope : gucs.propertyScope = none ∨ gucs.propertyScope = some ""
  staffUserId : gucs.staffUserId = none ∨ gucs.staffUserId = some ""

theorem Gucs.Unset.tenant_setting {gucs : Gucs} (unset : gucs.Unset) :
    uuidSetting gucs.tenantId = none := by
  obtain never | reset := unset.tenantId
  · rw [never]
    rfl
  · rw [reset]
    rfl

/-- Without a tenant no table shows a row. -/
theorem qual_unset {gucs : Gucs} (unset : uuidSetting gucs.tenantId = none)
    (tables : Tables) (table : SecuredTable) (row : SqlRow) :
    (policies gucs table).qual tables row ≠ some true := by
  have outside : ∀ row, inTenant gucs row ≠ some true := fun row => by
    rw [inTenant, unset]
    exact equal_none _
  have first : ∀ row second, both (inTenant gucs row) second ≠ some true :=
    fun row second holds => outside row ((both_true _ _).mp holds).1
  have ofBooking : ∀ row, paymentQual gucs tables row ≠ some true := fun row holds => by
    obtain ⟨b, through, -⟩ := existsRow_true.mp holds
    exact first b _ (mem_through.mp through).2
  cases table with
  | tenant =>
    change equal (row .id) (uuidSetting gucs.tenantId) ≠ some true
    rw [unset]
    exact equal_none _
  | appUser =>
    intro holds
    obtain ⟨m, through, -⟩ := existsRow_true.mp holds
    exact first m _ (mem_through.mp through).2
  | payment => exact ofBooking row
  | paymentEvent => exact fun holds => ofBooking row ((both_true _ _).mp holds).2
  | staffInvite => exact outside row
  | staffInviteProperty => exact outside row
  | tenantPaymentCredential => exact outside row
  | _ => exact first row _

theorem visible_unset {gucs : Gucs} (unset : gucs.Unset) (tables : Tables)
    (table : SecuredTable) : visible (policies gucs) tables table = [] := by
  rw [visible, List.filter_eq_nil_iff]
  intro row _ seen
  exact qual_unset unset.tenant_setting tables table row (of_decide_eq_true seen)

/-! ### Isolation -/

/-- What row security keeps up for a session on a sound content: what it reads and what its
statements themselves change of a property's table is its own, no run of a staff session widens
what the session sees or writes a row that assigns or seats, and unset settings show nothing. -/
structure RowSecured (session : Session) (tables : Tables) : Prop where
  reads : ∀ table ∈ propertyTables, ∀ row ∈ visible (policies session.gucs) tables table,
    Isolated session tables table row
  writes : ∀ statement after, Executed schema (policies session.gucs) statement tables after →
    ∀ change ∈ statement (visible (policies session.gucs) tables),
      change.table ∈ propertyTables → ∀ row, change.old = some row ∨ change.new = some row →
        Isolated session tables change.table row
  narrows : ∀ staffUserId, session.scope = .assigned staffUserId → ∀ after,
    session.Runs tables after → session.visibleProperties after ⊆ session.visibleProperties tables
  seats : ∀ staffUserId, session.scope = .assigned staffUserId → ∀ statement middle after,
    session.Runs tables middle →
    Executed schema (policies session.gucs) statement middle after →
      ∀ change ∈ statement (visible (policies session.gucs) middle),
        change.table = .userProperty ∨ change.table = .membership → change.new = none
  unset : ∀ gucs : Gucs, gucs.Unset → ∀ table, visible (policies gucs) tables table = []

/-- Row-level isolation. In the tables a property owns, a session reads and writes rows of its own
tenant only, and under an assigned scope those of the properties assigned to its user; no run of
such a session widens what it sees, or writes a row that assigns or seats; and with no tenant set no
table shows a row. A statement is any list of changes, over any content that satisfies the keys and
the foreign keys; what the referential actions do in answer is not among its changes. -/
theorem rows_isolated (session : Session) {tables : Tables} (holds : schema.Holds tables) :
    RowSecured session tables where
  reads _ owned _ seen := qual_isolated owned (mem_visible.mp seen).2
  writes _ _ executed change member owned _ involved :=
    allowed_isolated (executed.allowed change member) owned involved
  narrows _ assigned _ runs := runs_visibleProperties assigned holds runs
  seats _ assigned _ _ _ _ executed change member seat :=
    allowed_deletes assigned (executed.allowed change member) seat
  unset _ unset table := visible_unset unset tables table

/-! ### A villa -/

/-- A row of the columns given; the others are null. -/
def sqlRow (columns : List (SecuredColumn × SqlValue)) : SqlRow :=
  fun column => columns.lookup column

def villaTenant : SqlRow := sqlRow [(.id, .uuid 1)]

def villaMember : SqlRow :=
  sqlRow [(.appUserId, .uuid 2), (.tenantId, .uuid 1), (.role, .text "staff")]

def villaHouse : SqlRow := sqlRow [(.id, .uuid 3), (.tenantId, .uuid 1)]

def villaCabin : SqlRow := sqlRow [(.id, .uuid 4), (.tenantId, .uuid 1)]

def villaAssignment : SqlRow :=
  sqlRow [(.appUserId, .uuid 2), (.propertyId, .uuid 4), (.tenantId, .uuid 1)]

/-- Tenant 1 with two properties; its staff user 2 is assigned the second. -/
def villaTables : Tables
  | .tenant => [villaTenant]
  | .appUser => [sqlRow [(.id, .uuid 2)]]
  | .membership => [villaMember]
  | .property => [villaHouse, villaCabin]
  | .userProperty => [villaAssignment]
  | _ => []

theorem villaTables_hold : schema.Holds villaTables := by decide +kernel

theorem villaTenant_fits : 1 < 2 ^ 128 := by decide

theorem villaStaff_fits (staffUserId : Uuid)
    (assigned : PropertyScope.assigned 2 = .assigned staffUserId) : staffUserId < 2 ^ 128 := by
  rw [← PropertyScope.assigned.inj assigned]
  decide

/-- The staff user's session. -/
def villaSession : Session := ⟨1, .assigned 2, villaTenant_fits, villaStaff_fits⟩

theorem rows_isolated_villa : RowSecured villaSession villaTables :=
  rows_isolated villaSession villaTables_hold

/-- `DELETE FROM tenant WHERE id = '…1'`. -/
def deleteTenant : Relational.Statement SecuredTable SecuredColumn SqlValue :=
  fun _ => [⟨.tenant, some villaTenant, none⟩]

/-- What the deletion leaves. -/
def closedTables : Tables
  | .appUser => [sqlRow [(.id, .uuid 2)]]
  | _ => []

/-- The deletion passes the tenant's own policy, and cascades to every property. -/
theorem deleteTenant_executed :
    Executed schema (policies villaSession.gucs) deleteTenant villaTables closedTables := by
  have seen : villaTenant ∈ visible (policies villaSession.gucs) villaTables .tenant :=
    mem_visible.mpr ⟨List.mem_cons_self, by decide +kernel⟩
  have named : ∀ (child : SecuredTable) (row : SqlRow), row .tenantId = some (.uuid 1) →
      (references child .tenantId .tenant .cascade).Reacts ⟨.tenant, some villaTenant, none⟩
        ⟨child, some row, none⟩ := by
    intro child row inVilla
    refine .act villaTenant row none none (fun pair member => ?_) rfl
    rw [List.mem_singleton.mp member]
    exact ⟨.uuid 1, inVilla, rfl⟩
  have emptied : closedTables = Function.update (Function.update (Function.update
      (Function.update (Function.update villaTables .tenant []) .membership [])
        .property [villaCabin]) .property []) .userProperty [] := by
    funext table
    cases table <;> rfl
  have fired : Fired schema.foreignKeys [⟨.tenant, some villaTenant, none⟩]
      (Function.update villaTables .tenant []) closedTables :=
    .one _ _ _ _ _ _ _ List.mem_cons_self (by decide) (named .membership villaMember rfl)
      ⟨[], [], rfl, rfl⟩
      (.one _ _ _ _ _ _ _ List.mem_cons_self (by decide) (named .property villaHouse rfl)
        ⟨[], [villaCabin], rfl, rfl⟩
        (.one _ _ _ _ _ _ _ List.mem_cons_self (by decide) (named .property villaCabin rfl)
          ⟨[], [], rfl, rfl⟩
          (.one _ _ _ _ _ closedTables _ List.mem_cons_self (by decide)
            (named .userProperty villaAssignment rfl) ⟨[], [], rfl, emptied⟩ (.none _ _))))
  refine ⟨fun change member => ?_, ⟨_, .cons _ [] _ _ _ ⟨[], [], rfl, rfl⟩ (.nil _), fired⟩, ?_⟩
  · rw [List.mem_singleton.mp member]
    refine ⟨fun row isOld => ?_, fun row isNew => ?_⟩
    · rwa [← Option.some.inj isOld]
    · cases isNew
  · decide +kernel

/-- What a statement removes is not always the session's to see: a referential action passes no
policy. -/
theorem deletion_reaches_unassigned :
    ¬ ∀ (session : Session) (statement : Relational.Statement SecuredTable SecuredColumn SqlValue)
      (before after : Tables), schema.Holds before →
        Executed schema (policies session.gucs) statement before after →
          ∀ table ∈ propertyTables, ∀ row ∈ before table, row ∉ after table →
            Isolated session before table row := by
  intro isolated
  have house := isolated villaSession deleteTenant villaTables closedTables villaTables_hold
    deleteTenant_executed .property (by decide) villaHouse List.mem_cons_self List.not_mem_nil
  obtain ⟨property, isHouse, up, member, -, -, assigned⟩ := house.property 2 rfl
  obtain rfl := List.mem_singleton.mp member
  cases isHouse.symm.trans (show villaHouse .id = some (.uuid 3) from rfl)
  cases assigned

end Sambung.RowSecurity
