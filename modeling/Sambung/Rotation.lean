/-
This file states the custody of the tenants' payment keys, the AES-GCM blobs of
`credential-crypto.ts`, the re-encryption pass of `credential-rotation.ts` and the
upsert of a saved key, and proves when a rotation loses no key.

A pass reads every row first and then writes them back one by one by their ids. A key
saved in between is overwritten by the one the pass read; where no save comes between,
every row opens to the last key saved under the key its generation names.

AES-GCM does not commit to its key: a blob can be made that opens under two keys, to two
texts. A pass tries the old key on every row below the new generation, so what it reads
off a row of a generation before the old one is the row's own key only where the stored
blob does not open to another text under the old key. That is asked of the stored rows,
never of the cipher; the rows the saves and the passes write meet it by themselves.
-/

import Sambung.Foundation.Schedules
import Sambung.Foundation.Table
import Sambung.Text

namespace Sambung

open Schedules

/-! ### The cipher -/

def TAG_BYTES : Nat := 16

/-- AES-256-GCM, as far as the credentials rely on it: the tag has its length, a text of some length
is sealed as bytes of some length and the other way round, and what is sealed opens to itself under
its key. What a blob opens to under any other key is left open. -/
structure AesGcm where
  encipher (key nonce : List UInt8) (plaintext : String) : List UInt8 × List UInt8
  decipher (key nonce body tag : List UInt8) : Option String
  tag_length : ∀ key nonce plaintext, (encipher key nonce plaintext).2.length = TAG_BYTES
  body_filled : ∀ key nonce plaintext, plaintext ≠ "" → (encipher key nonce plaintext).1 ≠ []
  decipher_encipher : ∀ key nonce plaintext,
    decipher key nonce (encipher key nonce plaintext).1 (encipher key nonce plaintext).2 =
      some plaintext
  decipher_filled : ∀ key nonce body tag plaintext, body ≠ [] →
    decipher key nonce body tag = some plaintext → plaintext ≠ ""

structure EncryptedCredential where
  ciphertext : List UInt8
  nonce : List UInt8

/-- The sealed text with its tag appended, under a fresh nonce. -/
def encryptCredential (gcm : AesGcm) (plaintext : String) (key nonce : List UInt8) :
    EncryptedCredential :=
  let (encrypted, tag) := gcm.encipher key nonce plaintext
  ⟨encrypted ++ tag, nonce⟩

def decryptCredential (gcm : AesGcm) (ciphertext nonce key : List UInt8) :
    Except String String :=
  if ciphertext.length ≤ TAG_BYTES then
    .error "Stored credential ciphertext is too short to carry a GCM tag - a broken write"
  else
    let tag := ciphertext.drop (ciphertext.length - TAG_BYTES)
    let body := ciphertext.take (ciphertext.length - TAG_BYTES)
    match gcm.decipher key nonce body tag with
    | some plaintext => .ok plaintext
    | none =>
      .error ("Stored credential failed authentication - wrong CREDENTIAL_ENCRYPTION_KEY " ++
        "or a corrupted row. See docs/runbooks/credential-key.md (rotation / recovery)")

/-- A key that was encrypted opens to itself under the key and the nonce it was encrypted with. -/
theorem decrypt_encrypt (gcm : AesGcm) {plaintext : String} (filled : plaintext ≠ "")
    (key nonce : List UInt8) :
    decryptCredential gcm (encryptCredential gcm plaintext key nonce).ciphertext
      (encryptCredential gcm plaintext key nonce).nonce key = .ok plaintext := by
  have tag := gcm.tag_length key nonce plaintext
  have body := List.length_pos_of_ne_nil (gcm.body_filled key nonce plaintext filled)
  have opens := gcm.decipher_encipher key nonce plaintext
  unfold decryptCredential encryptCredential
  generalize gcm.encipher key nonce plaintext = sealed at *
  obtain ⟨encrypted, mark⟩ := sealed
  dsimp only at *
  have start : (encrypted ++ mark).length - TAG_BYTES = encrypted.length := by
    rw [List.length_append, tag]
    exact Nat.add_sub_cancel _ _
  have long : ¬ (encrypted ++ mark).length ≤ TAG_BYTES := by
    rw [List.length_append, tag]
    omega
  rw [if_neg long, start, List.take_left, List.drop_left, opens]

/-- No blob opens to the empty key. -/
theorem decrypt_filled {gcm : AesGcm} {ciphertext nonce key : List UInt8} {plaintext : String}
    (opens : decryptCredential gcm ciphertext nonce key = .ok plaintext) : plaintext ≠ "" := by
  unfold decryptCredential at opens
  split at opens
  · cases opens
  · rename_i long
    dsimp only at opens
    split at opens
    · rename_i found deciphered
      cases opens
      refine gcm.decipher_filled key nonce _ _ plaintext (fun empty => ?_) deciphered
      have lengths := congrArg List.length empty
      rw [List.length_take, List.length_nil] at lengths
      omega
    · cases opens

/-! ### The rotation -/

/-- A row of `tenant_payment_credential` with its id. -/
structure CredentialRow extends TenantPaymentCredential where
  id : Uuid
  deriving DecidableEq, Repr

/-- The cipher, the key of every generation, and the generation the passes start from: the one the
saves still encrypt under. -/
structure RotationKeys where
  gcm : AesGcm
  keyOf : Nat → List UInt8
  fromVersion : Nat

def RotationKeys.oldKey (keys : RotationKeys) : List UInt8 := keys.keyOf keys.fromVersion

def RotationKeys.newVersion (keys : RotationKeys) : Nat := keys.fromVersion + 1

def RotationKeys.newKey (keys : RotationKeys) : List UInt8 := keys.keyOf keys.newVersion

structure RotationResult where
  rotated : Nat
  newVersion : Nat
  failed : List (Uuid × String)
  deriving DecidableEq, Repr

/-- Where a pass stands: the rows it has read and not come to yet. -/
inductive RotationPass where
  | idle
  | rotating (left : List CredentialRow) (rotated : Nat) (failed : List (Uuid × String))
  | finished (result : RotationResult)
  deriving DecidableEq, Repr

/-- The stored rows and the passes. `owed` records the last key saved for a tenant and provider,
or the one its row opened to at the start; no step reads it. -/
structure RotationState where
  rows : List CredentialRow
  passes : Nat → RotationPass
  owed : Uuid → String → Option String

/-- A save, as its transaction commits. -/
structure SavedCredential where
  tenantId : Uuid
  provider : String
  environment : PaymentEnvironment
  serverKey : String
  nonce : List UInt8
  id : Uuid

/-- `savePaymentCredentialRequestSchema` on the server key, which it has trimmed. -/
def SavedCredential.Accepted (saved : SavedCredential) : Prop :=
  trim saved.serverKey.toList = saved.serverKey.toList ∧
    8 ≤ utf16Length saved.serverKey.toList ∧ utf16Length saved.serverKey.toList ≤ 256

instance (saved : SavedCredential) : Decidable saved.Accepted := by
  unfold SavedCredential.Accepted; infer_instance

/-- The row is the one the save replaces. -/
abbrev CredentialRow.Replaced (row : CredentialRow) (saved : SavedCredential) : Prop :=
  row.tenantId = saved.tenantId ∧ row.provider = saved.provider

/-- The upsert of `save`, under the old key and generation. -/
def RotationKeys.upsert (keys : RotationKeys) (saved : SavedCredential)
    (rows : List CredentialRow) : List CredentialRow :=
  let sealed := encryptCredential keys.gcm saved.serverKey keys.oldKey saved.nonce
  if rows.any fun row => row.Replaced saved then
    Table.updateWhere (fun row => row.Replaced saved)
      (fun row => { row with
        environment := saved.environment
        ciphertext := sealed.ciphertext
        nonce := sealed.nonce
        keyVersion := keys.fromVersion }) rows
  else
    rows ++ [{
      id := saved.id
      tenantId := saved.tenantId
      provider := saved.provider
      environment := saved.environment
      ciphertext := sealed.ciphertext
      nonce := sealed.nonce
      keyVersion := keys.fromVersion }]

/-- The `UPDATE` of one row by its id. -/
def RotationKeys.rewrite (keys : RotationKeys) (id : Uuid) (plaintext : String)
    (nonce : List UInt8) (rows : List CredentialRow) : List CredentialRow :=
  let sealed := encryptCredential keys.gcm plaintext keys.newKey nonce
  Table.updateWhere (fun row => row.id = id)
    (fun row => { row with
      ciphertext := sealed.ciphertext
      nonce := sealed.nonce
      keyVersion := keys.newVersion }) rows

inductive RotationEvent where
  /-- A pass reads the rows. -/
  | read (pass : Nat)
  /-- A pass comes to its next row; the nonce is the one it would draw. -/
  | turn (pass : Nat) (nonce : List UInt8)
  | save (saved : SavedCredential)

def RotationState.pass (state : RotationState) (pass : Nat) (next : RotationPass) :
    RotationState :=
  { state with passes := Function.update state.passes pass next }

/-- The next event of a rotation, where it is possible. A saved row is inserted under a drawn id,
which is that of no other row, or replaces the tenant's. -/
def rotationAct (keys : RotationKeys) (event : RotationEvent) (state : RotationState) :
    Option RotationState :=
  match event with
  | .read pass =>
    match state.passes pass with
    | .idle => some (state.pass pass (.rotating state.rows 0 []))
    | _ => none
  | .turn pass nonce =>
    match state.passes pass with
    | .rotating [] rotated failed =>
      some (state.pass pass (.finished ⟨rotated, keys.newVersion, failed⟩))
    | .rotating (row :: left) rotated failed =>
      if row.keyVersion ≥ keys.newVersion then
        some (state.pass pass (.rotating left rotated failed))
      else
        match decryptCredential keys.gcm row.ciphertext row.nonce keys.oldKey with
        | .error reason =>
          some (state.pass pass (.rotating left rotated (failed ++ [(row.id, reason)])))
        | .ok plaintext =>
          some ({ state with rows := keys.rewrite row.id plaintext nonce state.rows }.pass pass
            (.rotating left (rotated + 1) failed))
    | _ => none
  | .save saved =>
    if saved.Accepted ∧ ∀ row ∈ state.rows, row.id ≠ saved.id then
      some { state with
        rows := keys.upsert saved state.rows
        owed := Function.update state.owed saved.tenantId
          (Function.update (state.owed saved.tenantId) saved.provider (some saved.serverKey)) }
    else none

/-- The row opens to the key under the key of the generation it names. -/
def RotationKeys.Opens (keys : RotationKeys) (row : CredentialRow) (serverKey : String) : Prop :=
  decryptCredential keys.gcm row.ciphertext row.nonce (keys.keyOf row.keyVersion) = .ok serverKey

/-- Under the old key, the row opens to nothing but what it opens to under the key of its own
generation. A row of an older generation meets this where it does not open under the old key at
all; one of the old generation always does. -/
def RotationKeys.Unambiguous (keys : RotationKeys) (row : CredentialRow) : Prop :=
  ∀ plaintext serverKey,
    decryptCredential keys.gcm row.ciphertext row.nonce keys.oldKey = .ok plaintext →
      keys.Opens row serverKey → serverKey = plaintext

/-- Before any pass: ids are unique, what is owed for a row is what it opens to, and no row of an
older generation opens to another text under the old key. -/
structure RotationState.Stored (keys : RotationKeys) (state : RotationState) : Prop where
  ids : (state.rows.map CredentialRow.id).Nodup
  passes : ∀ pass, state.passes pass = .idle
  owed : ∀ row ∈ state.rows, ∀ serverKey,
    state.owed row.tenantId row.provider = some serverKey ↔ keys.Opens row serverKey
  older : ∀ row ∈ state.rows, row.keyVersion < keys.fromVersion → keys.Unambiguous row

/-- A pass that holds the row will write it back. -/
def RotationKeys.Rotatable (keys : RotationKeys) (row : CredentialRow) (plaintext : String) :
    Prop :=
  row.keyVersion < keys.newVersion ∧
    decryptCredential keys.gcm row.ciphertext row.nonce keys.oldKey = .ok plaintext

/-- No save replaces a row between a pass's read and the pass's own write of it. -/
def Unraced (keys : RotationKeys) (event : RotationEvent) (state : RotationState) : Prop :=
  ∀ saved, event = .save saved → ∀ row ∈ state.rows, row.Replaced saved →
    ∀ pass left rotated failed, state.passes pass = .rotating left rotated failed →
      ∀ copy ∈ left, copy.id = row.id → ∀ plaintext, ¬ keys.Rotatable copy plaintext

/-! ### What a rotation keeps -/

/-- Every row opens to what is owed for it, a row that is still to be rotated to no other key under
the old one, and a pass holds no other key for it than that. -/
structure Custody (keys : RotationKeys) (state : RotationState) : Prop where
  ids : (state.rows.map CredentialRow.id).Nodup
  unambiguous : ∀ row ∈ state.rows, row.keyVersion < keys.newVersion → keys.Unambiguous row
  opens : ∀ row ∈ state.rows, ∀ serverKey,
    state.owed row.tenantId row.provider = some serverKey → keys.Opens row serverKey
  held : ∀ pass left rotated failed, state.passes pass = .rotating left rotated failed →
    ∀ copy ∈ left, copy.id ∈ state.rows.map CredentialRow.id ∧
      ∀ plaintext, keys.Rotatable copy plaintext → ∀ row ∈ state.rows, row.id = copy.id →
        ∀ serverKey, state.owed row.tenantId row.provider = some serverKey → serverKey = plaintext

variable {keys : RotationKeys} {event : RotationEvent} {state after : RotationState}

/-- A row of the old generation opens under the old key to what it opens to. -/
theorem RotationKeys.unambiguous_of_version {row : CredentialRow}
    (version : row.keyVersion = keys.fromVersion) : keys.Unambiguous row := by
  intro plaintext other deciphered otherOpens
  unfold RotationKeys.Opens at otherOpens
  rw [version] at otherOpens
  exact Except.ok.inj (otherOpens.symm.trans deciphered)

/-- A pass moves on to rows it held, or to a fresh read of them: what it has just read is what is
stored. -/
theorem Custody.pass (custody : Custody keys state) {pass : Nat} {next : RotationPass}
    (fewer : ∀ left rotated failed, next = .rotating left rotated failed →
      left = state.rows ∨ ∃ before rotated' failed',
        state.passes pass = .rotating before rotated' failed' ∧ ∀ copy ∈ left, copy ∈ before) :
    Custody keys (state.pass pass next) := by
  refine ⟨custody.ids, custody.unambiguous, custody.opens,
    fun other left rotated failed stands copy member => ?_⟩
  have stands' : Function.update state.passes pass next other = .rotating left rotated failed :=
    stands
  by_cases same : other = pass
  · subst same
    rw [Function.update_self] at stands'
    rcases fewer left rotated failed stands' with rfl | ⟨before, rotated', failed', earlier, sub⟩
    · refine ⟨List.mem_map_of_mem member, ?_⟩
      intro plaintext rotatable row rowMember sameId serverKey owed
      have isCopy := Table.eq_of_key custody.ids rowMember member sameId
      subst isCopy
      exact custody.unambiguous row rowMember rotatable.1 plaintext serverKey rotatable.2
        (custody.opens row rowMember serverKey owed)
    · exact custody.held other before rotated' failed' earlier copy (sub copy member)
  · rw [Function.update_of_ne same] at stands'
    exact custody.held other left rotated failed stands' copy member

/-- A pass writes back a row it holds, under the new key and the new generation, and it opens to
what is owed for it. -/
theorem Custody.rewrite (custody : Custody keys state) {pass rotated : Nat} {row : CredentialRow}
    {left : List CredentialRow} {failed : List (Uuid × String)}
    (stands : state.passes pass = .rotating (row :: left) rotated failed) {plaintext : String}
    (rotatable : keys.Rotatable row plaintext) (nonce : List UInt8) :
    Custody keys { state with rows := keys.rewrite row.id plaintext nonce state.rows } := by
  have written : ∀ stored' ∈ keys.rewrite row.id plaintext nonce state.rows,
      ∃ stored ∈ state.rows, stored'.id = stored.id ∧ stored'.tenantId = stored.tenantId ∧
        stored'.provider = stored.provider ∧
          (stored' = stored ∨ stored.id = row.id ∧ keys.Opens stored' plaintext ∧
            stored'.keyVersion = keys.newVersion) := by
    intro stored' member
    obtain ⟨stored, storedMember, same⟩ := Table.mem_updateWhere.mp member
    split at same
    · rename_i isRow
      subst same
      exact ⟨stored, storedMember, rfl, rfl, rfl,
        Or.inr ⟨isRow, decrypt_encrypt keys.gcm (decrypt_filled rotatable.2) _ _, rfl⟩⟩
    · subst same
      exact ⟨stored, storedMember, rfl, rfl, rfl, Or.inl rfl⟩
  have ids : (keys.rewrite row.id plaintext nonce state.rows).map CredentialRow.id =
      state.rows.map CredentialRow.id := by
    unfold RotationKeys.rewrite
    exact Table.map_updateWhere CredentialRow.id fun _ _ => rfl
  refine ⟨ids.symm ▸ custody.ids, fun stored' member below => ?_,
    fun stored' member serverKey owed => ?_,
    fun other left' rotated' failed' otherStands copy member => ?_⟩
  · obtain ⟨stored, storedMember, -, -, -, same | ⟨-, -, version⟩⟩ := written stored' member
    · rw [same]
      exact custody.unambiguous stored storedMember (same ▸ below)
    · exact absurd (version ▸ below) (lt_irrefl _)
  · obtain ⟨stored, storedMember, -, tenant, provider, same | ⟨isRow, opens, -⟩⟩ :=
      written stored' member
    · rw [same]
      exact custody.opens stored storedMember serverKey (same ▸ owed)
    · have owed' : state.owed stored.tenantId stored.provider = some serverKey := by
        rw [← tenant, ← provider]
        exact owed
      rw [(custody.held pass (row :: left) rotated failed stands row List.mem_cons_self).2 plaintext
        rotatable stored storedMember isRow serverKey owed']
      exact opens
  · obtain ⟨known, held⟩ := custody.held other left' rotated' failed' otherStands copy member
    refine ⟨ids.symm ▸ known,
      fun plaintext' rotatable' stored' storedMember' sameId serverKey owed => ?_⟩
    obtain ⟨stored, storedMember, id, tenant, provider, -⟩ := written stored' storedMember'
    refine held plaintext' rotatable' stored storedMember (id.symm.trans sameId) serverKey ?_
    rw [← tenant, ← provider]
    exact owed

/-- After a save the new key is owed for the row it replaces or makes, and for every other row what
was owed before. -/
theorem owed_save (owed : Uuid → String → Option String) (saved : SavedCredential)
    (row : CredentialRow) :
    Function.update owed saved.tenantId
        (Function.update (owed saved.tenantId) saved.provider (some saved.serverKey))
        row.tenantId row.provider =
      if row.Replaced saved then some saved.serverKey else owed row.tenantId row.provider := by
  unfold Function.update
  by_cases replaced : row.Replaced saved
  · simp [replaced.1, replaced.2]
  · rw [if_neg replaced]
    by_cases tenant : row.tenantId = saved.tenantId
    · have provider : row.provider ≠ saved.provider := fun provider => replaced ⟨tenant, provider⟩
      simp [tenant, provider]
    · simp [tenant]

/-- A row after a save is the saved one, or an untouched one of another tenant or provider. -/
theorem RotationKeys.mem_upsert {saved : SavedCredential} (accepted : saved.Accepted)
    {rows : List CredentialRow} {row' : CredentialRow} (member : row' ∈ keys.upsert saved rows) :
    (row'.Replaced saved ∧ keys.Opens row' saved.serverKey ∧ row'.keyVersion = keys.fromVersion ∧
        (row'.id = saved.id ∨ ∃ row ∈ rows, row.Replaced saved ∧ row'.id = row.id)) ∨
      ¬ row'.Replaced saved ∧ row' ∈ rows := by
  have filled : saved.serverKey ≠ "" := by
    intro empty
    have long := accepted.2.1
    rw [empty] at long
    exact absurd long (by decide)
  have opens := decrypt_encrypt keys.gcm filled keys.oldKey saved.nonce
  unfold RotationKeys.upsert at member
  dsimp only at member
  split at member
  · obtain ⟨row, rowMember, same⟩ := Table.mem_updateWhere.mp member
    split at same
    · rename_i replaced
      subst same
      exact Or.inl ⟨replaced, opens, rfl, Or.inr ⟨row, rowMember, replaced, rfl⟩⟩
    · rename_i other
      subst same
      exact Or.inr ⟨other, rowMember⟩
  · rename_i absent
    rcases List.mem_append.mp member with before | last
    · refine Or.inr ⟨fun replaced => absent ?_, before⟩
      exact List.any_eq_true.mpr ⟨row', before, decide_eq_true replaced⟩
    · rw [List.mem_singleton.mp last]
      exact Or.inl ⟨⟨rfl, rfl⟩, opens, rfl, Or.inl rfl⟩

/-- A save keeps custody, where no pass holds the row it replaces. -/
theorem Custody.upsert (custody : Custody keys state) {saved : SavedCredential}
    (accepted : saved.Accepted) (fresh : ∀ row ∈ state.rows, row.id ≠ saved.id)
    (unraced : Unraced keys (.save saved) state) :
    Custody keys { state with
      rows := keys.upsert saved state.rows
      owed := Function.update state.owed saved.tenantId
        (Function.update (state.owed saved.tenantId) saved.provider (some saved.serverKey)) } := by
  have ids : (keys.upsert saved state.rows).map CredentialRow.id =
      state.rows.map CredentialRow.id ∨ (keys.upsert saved state.rows).map CredentialRow.id =
        state.rows.map CredentialRow.id ++ [saved.id] := by
    unfold RotationKeys.upsert
    dsimp only
    split
    · exact Or.inl (Table.map_updateWhere CredentialRow.id fun _ _ => rfl)
    · exact Or.inr List.map_append
  refine ⟨?_, fun row' member below => ?_, fun row' member serverKey owed => ?_,
    fun pass left rotated failed stands copy member => ?_⟩
  · show ((keys.upsert saved state.rows).map CredentialRow.id).Nodup
    rcases ids with same | more
    · rw [same]
      exact custody.ids
    · rw [more]
      refine List.nodup_append.mpr
        ⟨custody.ids, List.nodup_singleton _, fun id inRows other inNew => ?_⟩
      obtain ⟨row, rowMember, rfl⟩ := List.mem_map.mp inRows
      rw [List.mem_singleton.mp inNew]
      exact fresh row rowMember
  · rcases RotationKeys.mem_upsert accepted member with ⟨-, -, version, -⟩ | ⟨-, before⟩
    · exact RotationKeys.unambiguous_of_version version
    · exact custody.unambiguous row' before below
  · have due := owed_save state.owed saved row'
    rcases RotationKeys.mem_upsert accepted member with ⟨replaced, opens, -⟩ | ⟨other, before⟩
    · rw [if_pos replaced] at due
      cases due.symm.trans owed
      exact opens
    · rw [if_neg other] at due
      exact custody.opens row' before serverKey (due.symm.trans owed)
  · obtain ⟨known, held⟩ := custody.held pass left rotated failed stands copy member
    refine ⟨?_, fun plaintext rotatable row' rowMember sameId serverKey owed => ?_⟩
    · show copy.id ∈ (keys.upsert saved state.rows).map CredentialRow.id
      rcases ids with same | more
      · exact same.symm ▸ known
      · rw [more]
        exact List.mem_append_left _ known
    · have due := owed_save state.owed saved row'
      rcases RotationKeys.mem_upsert accepted rowMember with
        ⟨replaced, -, -, isNew | ⟨row, stored, wasReplaced, id⟩⟩ | ⟨other, before⟩
      · obtain ⟨row, stored, id⟩ := List.mem_map.mp known
        exact absurd (id.trans (sameId.symm.trans isNew)) (fresh row stored)
      · exact absurd rotatable (unraced saved rfl row stored wasReplaced pass left rotated failed
          stands copy member (sameId.symm.trans id) plaintext)
      · rw [if_neg other] at due
        exact held plaintext rotatable row' before sameId serverKey (due.symm.trans owed)

theorem Custody.act (custody : Custody keys state) (unraced : Unraced keys event state)
    (acts : rotationAct keys event state = some after) : Custody keys after := by
  cases event with
  | read pass =>
    simp only [rotationAct] at acts
    split at acts
    · cases acts
      refine custody.pass fun left rotated failed same => Or.inl ?_
      cases same
      rfl
    · cases acts
  | turn pass nonce =>
    simp only [rotationAct] at acts
    split at acts
    · cases acts
      exact custody.pass fun left rotated failed same => nomatch same
    · rename_i row left rotated failed stands
      have fewer : ∀ rotated'' failed'' left' rotated' failed',
          RotationPass.rotating left rotated'' failed'' = .rotating left' rotated' failed' →
            left' = state.rows ∨ ∃ before rotated' failed',
              state.passes pass = .rotating before rotated' failed' ∧
                ∀ copy ∈ left', copy ∈ before := by
        intro _ _ left' _ _ same
        cases same
        exact Or.inr ⟨row :: left, rotated, failed, stands, fun _ => List.mem_cons_of_mem row⟩
      split at acts
      · cases acts
        exact custody.pass (fewer _ _)
      · rename_i below
        split at acts
        · cases acts
          exact custody.pass (fewer _ _)
        · rename_i plaintext opens
          cases acts
          have written := custody.rewrite stands ⟨not_le.mp below, opens⟩ nonce
          refine written.pass fun left' rotated' failed' same => Or.inr ?_
          cases same
          exact ⟨row :: left, rotated, failed, stands, fun _ => List.mem_cons_of_mem row⟩
    · cases acts
  | save saved =>
    simp only [rotationAct] at acts
    split at acts
    · rename_i allowed
      cases acts
      exact custody.upsert allowed.1 allowed.2 unraced
    · cases acts

/-- In every run of passes and saves in which no save replaces a row between a pass's read and the
pass's own write of it, every row opens, under the key of the generation it names, to the last key
saved for its tenant and provider, or to the one it opened to at the start. The run starts from any
stored rows with unique ids, of which no row of an older generation opens to another text under the
old key; it may hold any number of passes and saves, finished or not. -/
theorem rotation_loses_no_credential (keys : RotationKeys) {start state : RotationState}
    (stored : start.Stored keys) (run : Reaches (rotationAct keys) (Unraced keys) start state) :
    ∀ row ∈ state.rows, ∀ serverKey, state.owed row.tenantId row.provider = some serverKey →
      decryptCredential keys.gcm row.ciphertext row.nonce (keys.keyOf row.keyVersion) =
        .ok serverKey := by
  have first : Custody keys start := by
    refine ⟨stored.ids, fun row member below => ?_,
      fun row member serverKey => (stored.owed row member serverKey).mp,
      fun pass left rotated failed stands => ?_⟩
    · rcases Nat.lt_or_eq_of_le (Nat.le_of_lt_succ below) with old | version
      · exact stored.older row member old
      · exact RotationKeys.unambiguous_of_version version
    · rw [stored.passes pass] at stands
      cases stands
  exact (run.invariant (Custody keys) first fun _ _ _ custody unraced acts =>
    custody.act unraced acts).opens

/-! ### A villa's key -/

/-- Three bytes a character. -/
def plainBytes (text : Text) : List UInt8 :=
  text.flatMap fun c => [UInt8.ofNat (c.toNat / 65536), UInt8.ofNat (c.toNat / 256 % 256),
    UInt8.ofNat (c.toNat % 256)]

def plainText : List UInt8 → Option Text
  | [] => some []
  | high :: middle :: low :: rest =>
    (plainText rest).map
      (Char.ofNat (high.toNat * 65536 + middle.toNat * 256 + low.toNat) :: ·)
  | _ => none

theorem plainText_plainBytes (text : Text) : plainText (plainBytes text) = some text := by
  induction text with
  | nil => rfl
  | cons c text inductionHypothesis =>
    have small : c.toNat < 0x110000 := by
      rcases c.valid with low | ⟨-, high⟩
      · exact lt_trans low (by decide)
      · exact high
    have number : (UInt8.ofNat (c.toNat / 65536)).toNat * 65536 +
        (UInt8.ofNat (c.toNat / 256 % 256)).toNat * 256 + (UInt8.ofNat (c.toNat % 256)).toNat =
          c.toNat := by
      simp only [UInt8.toNat_ofNat']
      omega
    show (plainText (plainBytes text)).map (Char.ofNat _ :: ·) = some (c :: text)
    rw [number, Char.ofNat_toNat, inductionHypothesis]
    rfl

/-- The first sixteen bytes of a key. -/
def keyTag (key : List UInt8) : List UInt8 := (key ++ List.replicate 16 0).take 16

/-- A stand-in for the cipher: the text as it is, tagged with its key. -/
def villaCipher : AesGcm where
  encipher key _ plaintext := (plainBytes plaintext.toList, keyTag key)
  decipher key _ body tag :=
    if tag = keyTag key then (plainText body).map String.ofList else none
  tag_length key _ _ := by
    show ((key ++ List.replicate 16 0).take 16).length = 16
    rw [List.length_take, List.length_append, List.length_replicate]
    omega
  body_filled _ _ plaintext filled empty := by
    obtain ⟨c, rest, same⟩ := List.exists_cons_of_ne_nil fun none =>
      filled (String.toList_eq_nil_iff.mp none)
    rw [same] at empty
    cases empty
  decipher_encipher _ _ plaintext := by
    dsimp only
    rw [if_pos rfl, plainText_plainBytes]
    exact congrArg some String.ofList_toList
  decipher_filled _ _ body _ plaintext filled opens := by
    split at opens
    · obtain ⟨text, read, rfl⟩ := Option.map_eq_some_iff.mp opens
      intro empty
      rw [String.ofList_eq_empty_iff.mp empty] at read
      unfold plainText at read
      split at read
      · exact filled rfl
      · obtain ⟨_, _, same⟩ := Option.map_eq_some_iff.mp read
        cases same
      · cases read
    · cases opens

/-- The key of a generation, from the first to the second. -/
def villaKeys : RotationKeys where
  gcm := villaCipher
  keyOf generation := List.replicate 32 (UInt8.ofNat generation)
  fromVersion := 1

/-- One tenant's key, stored under the first generation. -/
def villaStored : RotationState where
  rows := [{
    id := 1
    tenantId := 1
    provider := "midtrans"
    environment := .sandbox
    ciphertext := (encryptCredential villaCipher "SB-Mid-old" villaKeys.oldKey []).ciphertext
    nonce := []
    keyVersion := 1 }]
  passes := fun _ => .idle
  owed tenantId provider :=
    if tenantId = 1 ∧ provider = "midtrans" then some "SB-Mid-old" else none

def villaReplaced : SavedCredential :=
  ⟨1, "midtrans", .sandbox, "SB-Mid-new", [], 2⟩

/-- Another tenant's key, left behind by an earlier rotation: it names the generation before. -/
def villaLeftBehind : CredentialRow where
  id := 3
  tenantId := 2
  provider := "midtrans"
  environment := .sandbox
  ciphertext := (encryptCredential villaCipher "SB-Mid-older" (villaKeys.keyOf 0) []).ciphertext
  nonce := []
  keyVersion := 0

/-- The two rows, of two generations. -/
def villaMixed : RotationState where
  rows := villaStored.rows ++ [villaLeftBehind]
  passes := fun _ => .idle
  owed tenantId provider :=
    if tenantId = 2 ∧ provider = "midtrans" then some "SB-Mid-older"
    else villaStored.owed tenantId provider

theorem villaMixed_stored : villaMixed.Stored villaKeys := by
  refine ⟨by decide, fun _ => rfl, fun row member serverKey => ?_, fun row member older => ?_⟩
  · rcases List.mem_append.mp member with old | left
    · rw [List.mem_singleton.mp old]
      have filled : "SB-Mid-old" ≠ "" := by decide
      have opens := decrypt_encrypt villaCipher filled villaKeys.oldKey []
      show some "SB-Mid-old" = some serverKey ↔ decryptCredential villaCipher
        (encryptCredential villaCipher "SB-Mid-old" villaKeys.oldKey []).ciphertext []
          villaKeys.oldKey = .ok serverKey
      rw [show decryptCredential villaCipher _ [] villaKeys.oldKey = .ok "SB-Mid-old" from opens,
        Option.some.injEq, Except.ok.injEq]
    · rw [List.mem_singleton.mp left]
      have filled : "SB-Mid-older" ≠ "" := by decide
      have opens := decrypt_encrypt villaCipher filled (villaKeys.keyOf 0) []
      show some "SB-Mid-older" = some serverKey ↔ decryptCredential villaCipher
        (encryptCredential villaCipher "SB-Mid-older" (villaKeys.keyOf 0) []).ciphertext []
          (villaKeys.keyOf 0) = .ok serverKey
      rw [show decryptCredential villaCipher _ [] (villaKeys.keyOf 0) = .ok "SB-Mid-older"
        from opens, Option.some.injEq, Except.ok.injEq]
  · rcases List.mem_append.mp member with old | left
    · rw [List.mem_singleton.mp old] at older
      exact absurd older (by decide)
    · intro plaintext _ deciphered
      rw [List.mem_singleton.mp left] at deciphered
      have refused : (decryptCredential villaKeys.gcm villaLeftBehind.ciphertext
          villaLeftBehind.nonce villaKeys.oldKey).toOption = none := by
        decide +kernel
      rw [deciphered] at refused
      cases refused

/-- A key is replaced, and a pass after that rotates it and leaves the row it cannot read. -/
theorem villa_key_rotated :
    ∃ state, Reaches (rotationAct villaKeys) (Unraced villaKeys) villaMixed state ∧
      state.owed 1 "midtrans" = some "SB-Mid-new" ∧
      state.rows.map (·.keyVersion) = [2, 0] ∧
      ∀ row ∈ state.rows, row.tenantId = 1 → row.provider = "midtrans" →
        decryptCredential villaCipher row.ciphertext row.nonce (villaKeys.keyOf row.keyVersion) =
          .ok "SB-Mid-new" := by
  have rotated : ((rotationAct villaKeys (.save villaReplaced) villaMixed).bind fun saved =>
      (follow (rotationAct villaKeys) [.read 0, .turn 0 [], .turn 0 []] saved).map fun state =>
        (state.owed 1 "midtrans", state.rows.map (·.keyVersion))) =
      some (some "SB-Mid-new", [2, 0]) := by decide +kernel
  obtain ⟨saved, saves, last⟩ := Option.bind_eq_some_iff.mp rotated
  obtain ⟨state, followed, values⟩ := Option.map_eq_some_iff.mp last
  obtain ⟨owed, versions⟩ := Prod.mk.inj values
  have unraced : Unraced villaKeys (.save villaReplaced) villaMixed :=
    fun _ _ _ _ _ _ _ _ _ stands => nomatch stands
  have turns : ∀ event ∈ [RotationEvent.read 0, .turn 0 [], .turn 0 []], ∀ state,
      Unraced villaKeys event state := by
    intro event member state saved isSave
    simp only [List.mem_cons, List.not_mem_nil, or_false] at member
    rcases member with rfl | rfl | rfl
    · cases isSave
    · cases isSave
    · cases isSave
  have run : Reaches (rotationAct villaKeys) (Unraced villaKeys) villaMixed state :=
    reaches_of_follow turns (.next .start unraced saves) followed
  refine ⟨state, run, owed, versions, fun row member tenant provider => ?_⟩
  refine rotation_loses_no_credential villaKeys villaMixed_stored run row member "SB-Mid-new" ?_
  rw [tenant, provider]
  exact owed

/-- A key saved while a pass holds the old one is lost, and a second pass skips the row. -/
theorem saved_key_overwritten :
    ∃ state, Reaches (rotationAct villaKeys) Free villaStored state ∧
      (∃ result, state.passes 0 = .finished result) ∧
      (∃ result, state.passes 1 = .finished result) ∧
      state.owed 1 "midtrans" = some "SB-Mid-new" ∧
      state.rows.map (fun row =>
        ((decryptCredential villaCipher row.ciphertext row.nonce
          (villaKeys.keyOf row.keyVersion)).toOption, row.keyVersion)) =
            [(some "SB-Mid-old", 2)] := by
  have lost : ((follow (rotationAct villaKeys)
      [.read 0, .save villaReplaced, .turn 0 [], .turn 0 [], .read 1, .turn 1 [], .turn 1 []]
      villaStored).map fun state => ((state.passes 0, state.passes 1), state.owed 1 "midtrans",
        state.rows.map fun row => ((decryptCredential villaCipher row.ciphertext row.nonce
          (villaKeys.keyOf row.keyVersion)).toOption, row.keyVersion))) =
      some ((.finished ⟨1, 2, []⟩, .finished ⟨0, 2, []⟩), some "SB-Mid-new",
        [(some "SB-Mid-old", 2)]) := by decide +kernel
  obtain ⟨state, followed, values⟩ := Option.map_eq_some_iff.mp lost
  simp only [Prod.mk.injEq] at values
  obtain ⟨⟨first, second⟩, owed, rows⟩ := values
  exact ⟨state, reaches_of_follow (fun _ _ _ => trivial) .start followed, ⟨_, first⟩, ⟨_, second⟩,
    owed, rows⟩

end Sambung
