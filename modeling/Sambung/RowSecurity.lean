/-
This file states the secured tables as the migrations leave them: their foreign
keys, the policies in force and the settings the policies read, which
`TenantDbService.run` sets at the start of every transaction.

A policy's subquery runs with the rights of whoever asks, so the policies of the
tables it reads apply inside it. Referential actions run with the rights of the
tables' owner. Of a row, the columns that keys and policies read have names of
their own.

A later migration may replace a policy or a key of an earlier one; what stands
here is what is left after all of them, in the library's terms for contents under
row security. A setting is a text or was never set, and an empty one counts as
unset, as the policies read it. Ids are numbers that a `uuid` holds, so that the
text of one is read back as itself.
-/

import Sambung.Foundation.Relational
import Sambung.TenantDb

namespace Sambung.RowSecurity

open Relational

/-! ### Tables and columns -/

/-- The tables with row-level security enabled, which are all. -/
inductive SecuredTable where
  | tenant
  | appUser
  | membership
  | property
  | unit
  | channelConnection
  | booking
  | payment
  | paymentEvent
  | userProperty
  | syncConflict
  | staffInvite
  | staffInviteProperty
  | unitPriceOverride
  | tenantPaymentCredential
  deriving DecidableEq, Repr

def securedTables : List SecuredTable :=
  [.tenant, .appUser, .membership, .property, .unit, .channelConnection, .booking, .payment,
    .paymentEvent, .userProperty, .syncConflict, .staffInvite, .staffInviteProperty,
    .unitPriceOverride, .tenantPaymentCredential]

theorem mem_securedTables (table : SecuredTable) : table ∈ securedTables := by
  cases table <;> decide

instance : Fintype SecuredTable := Fintype.ofList securedTables mem_securedTables

inductive SecuredColumn where
  | id
  | tenantId
  | appUserId
  | propertyId
  | unitId
  | bookingId
  | channelConnectionId
  | createdBy
  | inviteId
  | role
  | other (name : String)
  deriving DecidableEq, Repr

/-- A value that is no `uuid` is held as its text. -/
inductive SqlValue where
  | uuid (id : Uuid)
  | text (text : String)
  deriving DecidableEq, Repr

abbrev SqlRow := Row SecuredColumn SqlValue

abbrev Tables := Content SecuredTable SecuredColumn SqlValue

/-! ### Constraints -/

/-- `FOREIGN KEY (column) REFERENCES parent (id)`. -/
def references (child : SecuredTable) (column : SecuredColumn) (parent : SecuredTable)
    (onDelete : ReferentialAction) : ForeignKey SecuredTable SecuredColumn :=
  ⟨child, parent, [(column, .id)], onDelete, .cascade⟩

/-- `FOREIGN KEY (column, tenant_id) REFERENCES parent (named, tenant_id)`. -/
def referencesInTenant (child : SecuredTable) (column : SecuredColumn) (parent : SecuredTable)
    (named : SecuredColumn) (onDelete : ReferentialAction) :
    ForeignKey SecuredTable SecuredColumn :=
  ⟨child, parent, [(column, named), (.tenantId, .tenantId)], onDelete, .noAction⟩

/-- The foreign keys of the migrations: the booking's, the payment's and the inventory's of
`0000_init.sql` and `0003_protect_the_ledger.sql`, then those of `0012_sync_conflict.sql`,
`0015_staff_invites_rbac.sql`, `0016_membership.sql`, `0017_unit_price_override.sql` and
`0018_tenant_payment_credential.sql`. -/
def foreignKeys : List (ForeignKey SecuredTable SecuredColumn) := [
  references .booking .tenantId .tenant .cascade,
  references .booking .unitId .unit .noAction,
  references .booking .channelConnectionId .channelConnection .setNull,
  referencesInTenant .booking .unitId .unit .id .noAction,
  references .channelConnection .unitId .unit .cascade,
  references .channelConnection .tenantId .tenant .cascade,
  referencesInTenant .channelConnection .unitId .unit .id .cascade,
  references .payment .bookingId .booking .cascade,
  references .paymentEvent .bookingId .booking .setNull,
  references .property .tenantId .tenant .cascade,
  references .unit .propertyId .property .cascade,
  references .unit .tenantId .tenant .cascade,
  referencesInTenant .unit .propertyId .property .id .cascade,
  references .userProperty .appUserId .appUser .cascade,
  references .userProperty .propertyId .property .cascade,
  references .syncConflict .tenantId .tenant .cascade,
  references .syncConflict .channelConnectionId .channelConnection .cascade,
  references .syncConflict .unitId .unit .cascade,
  referencesInTenant .syncConflict .unitId .unit .id .cascade,
  references .staffInvite .tenantId .tenant .cascade,
  references .staffInvite .createdBy .appUser .cascade,
  references .staffInviteProperty .inviteId .staffInvite .cascade,
  references .staffInviteProperty .propertyId .property .cascade,
  references .staffInviteProperty .tenantId .tenant .cascade,
  referencesInTenant .staffInviteProperty .inviteId .staffInvite .id .cascade,
  referencesInTenant .staffInviteProperty .propertyId .property .id .cascade,
  references .userProperty .tenantId .tenant .cascade,
  referencesInTenant .userProperty .propertyId .property .id .cascade,
  references .membership .appUserId .appUser .cascade,
  references .membership .tenantId .tenant .cascade,
  referencesInTenant .staffInvite .createdBy .membership .appUserId .cascade,
  referencesInTenant .userProperty .appUserId .membership .appUserId .cascade,
  references .unitPriceOverride .unitId .unit .cascade,
  references .unitPriceOverride .tenantId .tenant .cascade,
  referencesInTenant .unitPriceOverride .unitId .unit .id .cascade,
  references .tenantPaymentCredential .tenantId .tenant .cascade]

def primaryKey : SecuredTable → List SecuredColumn
  | .userProperty => [.appUserId, .propertyId]
  | .membership => [.appUserId, .tenantId]
  | .staffInviteProperty => [.inviteId, .propertyId]
  | _ => [.id]

def schema : Schema SecuredTable SecuredColumn := ⟨primaryKey, foreignKeys⟩

/-! ### Settings -/

/-- `current_setting(…, true)` of the three settings, null where one was never set. -/
structure Gucs where
  tenantId : Option String
  propertyScope : Option String
  staffUserId : Option String
  deriving DecidableEq, Repr

/-- `nullif(setting, '')::uuid`. A text that is no `uuid`, at which the statement would fail,
counts as null, at which it reads no row. -/
def uuidSetting (setting : Option String) : Option SqlValue :=
  setting.bind fun text => if text = "" then none else (parseUuid text).map .uuid

/-- `current_setting('app.property_scope', true) = 'all'`. -/
def Gucs.scopeAll (gucs : Gucs) : Option Bool := equal gucs.propertyScope (some "all")

/-- The settings of a transaction, of ids that a `uuid` holds. -/
structure Session where
  tenantId : Uuid
  scope : PropertyScope
  tenantFits : tenantId < 2 ^ 128
  staffFits : ∀ staffUserId, scope = .assigned staffUserId → staffUserId < 2 ^ 128

/-- `set_config(…)` of the three settings. -/
def Session.gucs (session : Session) : Gucs where
  tenantId := some (uuidText session.tenantId)
  propertyScope := some session.scope.mode
  staffUserId := some (session.scope.staffUserId.elim "" uuidText)

/-! ### Policies -/

/-- `tenant_id = nullif(current_setting('app.tenant_id', true), '')::uuid`. -/
def inTenant (gucs : Gucs) (row : SqlRow) : Option Bool :=
  equal (row .tenantId) (uuidSetting gucs.tenantId)

/-- The rows of a table that a qualification lets through. -/
def through (qual : SqlRow → Option Bool) (rows : List SqlRow) : List SqlRow :=
  rows.filter fun row => qual row = some true

/-- The `USING` of `user_property` and of `membership`. -/
def ownRowQual (gucs : Gucs) (row : SqlRow) : Option Bool :=
  both (inTenant gucs row)
    (either gucs.scopeAll (equal (row .appUserId) (uuidSetting gucs.staffUserId)))

/-- The `WITH CHECK` of `user_property` and of `membership`. -/
def ownersCheck (gucs : Gucs) (row : SqlRow) : Option Bool :=
  both (inTenant gucs row) gucs.scopeAll

/-- `app_property_visible`. -/
def appPropertyVisible (gucs : Gucs) (tables : Tables) (propertyId : Option SqlValue) :
    Option Bool :=
  either gucs.scopeAll
    (existsRow (through (ownRowQual gucs) (tables .userProperty)) fun up =>
      both (equal (up .propertyId) propertyId)
        (equal (up .appUserId) (uuidSetting gucs.staffUserId)))

def propertyQual (gucs : Gucs) (tables : Tables) (row : SqlRow) : Option Bool :=
  both (inTenant gucs row) (appPropertyVisible gucs tables (row .id))

def unitQual (gucs : Gucs) (tables : Tables) (row : SqlRow) : Option Bool :=
  both (inTenant gucs row) (appPropertyVisible gucs tables (row .propertyId))

/-- The policy of `booking`, `channel_connection`, `sync_conflict` and `unit_price_override`. -/
def ofUnitQual (gucs : Gucs) (tables : Tables) (row : SqlRow) : Option Bool :=
  both (inTenant gucs row)
    (existsRow (through (unitQual gucs tables) (tables .unit)) fun u =>
      both (equal (u .id) (row .unitId)) (appPropertyVisible gucs tables (u .propertyId)))

def paymentQual (gucs : Gucs) (tables : Tables) (row : SqlRow) : Option Bool :=
  existsRow (through (ofUnitQual gucs tables) (tables .booking)) fun b =>
    both (equal (b .id) (row .bookingId)) (inTenant gucs b)

def paymentEventQual (gucs : Gucs) (tables : Tables) (row : SqlRow) : Option Bool :=
  both (some (row .bookingId).isSome) (paymentQual gucs tables row)

def appUserQual (gucs : Gucs) (tables : Tables) (row : SqlRow) : Option Bool :=
  existsRow (through (ownRowQual gucs) (tables .membership)) fun m =>
    both (equal (m .appUserId) (row .id)) (inTenant gucs m)

def tenantQual (gucs : Gucs) (row : SqlRow) : Option Bool :=
  equal (row .id) (uuidSetting gucs.tenantId)

/-- A policy whose `WITH CHECK` is its `USING`. -/
def alike (qual : Tables → SqlRow → Option Bool) :
    Policy SecuredTable SecuredColumn SqlValue := ⟨qual, qual⟩

/-- `tenant_isolation` of every table. -/
def policies (gucs : Gucs) : SecuredTable → Policy SecuredTable SecuredColumn SqlValue
  | .tenant => alike fun _ => tenantQual gucs
  | .appUser => alike (appUserQual gucs)
  | .membership => ⟨fun _ => ownRowQual gucs, fun _ => ownersCheck gucs⟩
  | .property => alike (propertyQual gucs)
  | .unit => alike (unitQual gucs)
  | .channelConnection => alike (ofUnitQual gucs)
  | .booking => alike (ofUnitQual gucs)
  | .payment => alike (paymentQual gucs)
  | .paymentEvent => alike (paymentEventQual gucs)
  | .userProperty => ⟨fun _ => ownRowQual gucs, fun _ => ownersCheck gucs⟩
  | .syncConflict => alike (ofUnitQual gucs)
  | .staffInvite => alike fun _ => inTenant gucs
  | .staffInviteProperty => alike fun _ => inTenant gucs
  | .unitPriceOverride => alike (ofUnitQual gucs)
  | .tenantPaymentCredential => alike fun _ => inTenant gucs

end Sambung.RowSecurity
