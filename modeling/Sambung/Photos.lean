/-
This file states the photo galleries: the whole-set update of
`properties.service.ts`, the object store of `storage.service.ts`, and the orphan
sweep of `photo-gc-sweeper.service.ts`, each cut at the points where another
request can come in between.

An update reads the gallery, then the tenant's cap, then checks every new key's
object over the network, in any order, then writes. The sweep reads the referenced
keys, lists the objects of one tenant after another in pages, strips the oversize
keys from the galleries and deletes the objects it picked. Uploads put objects at
any time.

The store is a function from keys to objects, each with its size, its date and its
first bytes. A listing may miss an object that arrives while it runs. Two fields
of the state record history for the proofs, and no step reads them.
-/

import Sambung.Foundation.Table
import Sambung.Postgres

namespace Sambung

/-! ### The store -/

/-- A stored object, with its first twelve bytes. -/
structure StoredObject where
  size : Nat
  lastModified : Option Instant
  contentType : String
  head : List UInt8
  deriving DecidableEq, Repr

def MAX_PHOTO_SIZE_BYTES : Nat := 5 * 1024 * 1024

/-- 24 hours. -/
def PHOTO_GC_GRACE_MS : Int := 24 * 60 * 60 * 1000

/-- The magic-byte check of a content type: no other type is an image. A WEBP file is `RIFF`, four
bytes of length, and `WEBP`. -/
def magicBytes (contentType : String) (head : List UInt8) : Bool :=
  match contentType with
  | "image/jpeg" => head.take 3 = [0xff, 0xd8, 0xff]
  | "image/png" => head.take 8 = [0x89, 0x50, 0x4e, 0x47, 0x0d, 0x0a, 0x1a, 0x0a]
  | "image/webp" =>
    head.take 4 = [0x52, 0x49, 0x46, 0x46] && (head.drop 8).take 4 = [0x57, 0x45, 0x42, 0x50]
  | _ => false

/-- The objects of the bucket by their keys. -/
abbrev ObjectStore := String → Option StoredObject

/-- The object exists and its first bytes are the image format its content type claims. -/
def isValidPhotoObject (objects : ObjectStore) (key : String) : Bool :=
  match objects key with
  | some object => 12 ≤ object.head.length && magicBytes object.contentType object.head
  | none => false

/-- Every photo key of a property starts with this. -/
def photoKeyPrefix (tenantId propertyId : Uuid) : String :=
  uuidText tenantId ++ "/" ++ uuidText propertyId ++ "/"

/-- `key.startsWith(start)`. -/
def startsWith (key start : String) : Bool := start.toList.isPrefixOf key.toList

/-! ### Galleries -/

/-- A row of `property`, as the photo functions read it. -/
structure PhotoRow where
  id : Uuid
  tenantId : Uuid
  photos : List String
  deriving DecidableEq, Repr

/-- `PATCH /properties/:id/photos`. -/
structure UpdatePhotosRequest where
  tenantId : Uuid
  id : Uuid
  keys : List String
  deriving DecidableEq, Repr

/-- The row is the one the request's tenant names. -/
abbrev PhotoRow.Names (row : PhotoRow) (request : UpdatePhotosRequest) : Prop :=
  row.id = request.id ∧ row.tenantId = request.tenantId

/-- `getOwnedOrThrow`. -/
def findGallery (request : UpdatePhotosRequest) (rows : List PhotoRow) : Option PhotoRow :=
  rows.find? fun row => row.Names request

/-- The `UPDATE` of the keys: `none` where no row is left to update. -/
def writeGallery (request : UpdatePhotosRequest) (rows : List PhotoRow) : Option (List PhotoRow) :=
  if (findGallery request rows).isSome then
    some (Table.updateWhere (fun row => row.Names request)
      (fun row => { row with photos := request.keys }) rows)
  else none

/-- `array_remove` on every gallery that holds the key. -/
def stripFromGallery (key : String) (rows : List PhotoRow) : List PhotoRow :=
  Table.updateWhere (fun row => key ∈ row.photos)
    (fun row => { row with photos := row.photos.filter (· ≠ key) }) rows

/-- The union of every gallery. -/
def referencedKeys (rows : List PhotoRow) : List String := rows.flatMap PhotoRow.photos

/-! ### One update under way -/

/-- How an update is answered. -/
inductive UpdateAnswer where
  | ok
  | notFound
  | badRequest
  deriving DecidableEq, Repr

/-- Where a call of `updatePhotos` stands. `late` records whether it read the gallery after the
sweep had ended; no step reads it. -/
inductive UpdatePhotosCall where
  | idle
  | found (request : UpdatePhotosRequest) (existing : List String) (late : Bool)
  | validating (request : UpdatePhotosRequest) (existing pending rejected : List String)
      (late : Bool)
  | answered (answer : UpdateAnswer)
  deriving DecidableEq, Repr

/-- The checks that need no network: the cap, then the keys' prefix. The keys new to the gallery
are left to validate. -/
def checkKeys (galleryCap : Nat) (request : UpdatePhotosRequest) (existing : List String)
    (late : Bool) : UpdatePhotosCall :=
  if request.keys.length > galleryCap ∧ request.keys.length > existing.length then
    .answered .badRequest
  else if request.keys.any fun key =>
      ¬ startsWith key (photoKeyPrefix request.tenantId request.id) then
    .answered .badRequest
  else .validating request existing (request.keys.filter (· ∉ existing)) [] late

/-! ### The sweep -/

/-- What the sweep is called with. -/
structure SweepInput where
  now : Instant
  tenantIds : Option (List Uuid)

/-- `obj.size > MAX_PHOTO_SIZE_BYTES`. -/
abbrev StoredObject.Oversize (object : StoredObject) : Prop := object.size > MAX_PHOTO_SIZE_BYTES

/-- `isOld`: an object that cannot be dated is not. -/
def StoredObject.isOld (object : StoredObject) (cutoff : Instant) : Bool :=
  match object.lastModified with
  | some lastModified => lastModified < cutoff
  | none => false

inductive SweepPhase where
  | waiting
  | listing (ids : List Uuid)
  | stripping (left : List String)
  | deleting (left : List String)
  | done
  deriving DecidableEq, Repr

/-- The sweep's variables. Two record its history and are read by no step: the objects there were
when it read the referenced keys, and the keys whose objects it deleted. -/
structure Sweep where
  phase : SweepPhase
  cutoff : Instant
  referenced : List String
  orphanKeys : List String
  oversizeKeys : List String
  seen : ObjectStore
  deleted : List String

def Sweep.initial : Sweep := ⟨.waiting, 0, [], [], [], fun _ => none, []⟩

/-- One object of a listing: oversize, orphaned or spared. -/
def Sweep.classify (objects : ObjectStore) (sweep : Sweep) (key : String) : Sweep :=
  match objects key with
  | none => sweep
  | some object =>
    if object.Oversize then { sweep with oversizeKeys := sweep.oversizeKeys ++ [key] }
    else if key ∉ sweep.referenced ∧ object.isOld sweep.cutoff then
      { sweep with orphanKeys := sweep.orphanKeys ++ [key] }
    else sweep

/-! ### The system -/

structure PhotoState where
  tenants : List Uuid
  rows : List PhotoRow
  objects : ObjectStore
  calls : Nat → UpdatePhotosCall
  sweep : Sweep

/-- What happens next: a call moves on, an object arrives, or the sweep moves on. -/
inductive PhotoEvent where
  | find (call : Nat) (request : UpdatePhotosRequest)
  | measure (call : Nat)
  | validate (call : Nat) (key : String)
  | write (call : Nat)
  | upload (key : String) (object : StoredObject)
  | reference (input : SweepInput)
  | listPage (page : List String) (last : Bool)
  | listed
  | strip
  | stripped
  | delete
  | deletedAll

def PhotoState.answer (call : Nat) (next : UpdatePhotosCall) (state : PhotoState) : PhotoState :=
  { state with calls := Function.update state.calls call next }

/-- The next event, where it is possible. A page lists objects there are, under the tenant's prefix;
the requests of up to 1000 keys are read as their deletes, one by one. -/
def photoAct (galleryCap : Uuid → Nat) (event : PhotoEvent) (state : PhotoState) :
    Option PhotoState :=
  match event with
  | .find call request =>
    match state.calls call with
    | .idle =>
      match findGallery request state.rows with
      | some row =>
        some (state.answer call (.found request row.photos (state.sweep.phase = .done)))
      | none => some (state.answer call (.answered .notFound))
    | _ => none
  | .measure call =>
    match state.calls call with
    | .found request existing late =>
      some (state.answer call (checkKeys (galleryCap request.tenantId) request existing late))
    | _ => none
  | .validate call key =>
    match state.calls call with
    | .validating request existing pending rejected late =>
      if key ∈ pending then
        some (state.answer call (.validating request existing (pending.erase key)
          (if isValidPhotoObject state.objects key then rejected else rejected ++ [key]) late))
      else none
    | _ => none
  | .write call =>
    match state.calls call with
    | .validating request _ [] rejected _ =>
      if rejected ≠ [] then some (state.answer call (.answered .badRequest))
      else
        match writeGallery request state.rows with
        | some rows => some ({ state with rows }.answer call (.answered .ok))
        | none => some (state.answer call (.answered .notFound))
    | _ => none
  | .upload key object =>
    some { state with objects := Function.update state.objects key (some object) }
  | .reference input =>
    if state.sweep.phase = .waiting then
      some { state with
        sweep := { Sweep.initial with
          phase := .listing (input.tenantIds.getD state.tenants)
          cutoff := input.now - PHOTO_GC_GRACE_MS
          referenced := referencedKeys state.rows
          seen := state.objects } }
    else none
  | .listPage page last =>
    match state.sweep.phase with
    | .listing (id :: ids) =>
      if page.all fun key => (state.objects key).isSome && startsWith key (uuidText id ++ "/") then
        some { state with
          sweep := { page.foldl (Sweep.classify state.objects) state.sweep with
            phase := .listing (if last then ids else id :: ids) } }
      else none
    | _ => none
  | .listed =>
    if state.sweep.phase = .listing [] then
      some { state with
        sweep := { state.sweep with phase := .stripping state.sweep.oversizeKeys } }
    else none
  | .strip =>
    match state.sweep.phase with
    | .stripping (key :: left) =>
      some { state with
        rows := if key ∈ state.sweep.referenced then stripFromGallery key state.rows else state.rows
        sweep := { state.sweep with phase := .stripping left } }
    | _ => none
  | .stripped =>
    if state.sweep.phase = .stripping [] then
      some { state with
        sweep := { state.sweep with
          phase := .deleting (state.sweep.oversizeKeys ++ state.sweep.orphanKeys) } }
    else none
  | .delete =>
    match state.sweep.phase with
    | .deleting (key :: left) =>
      some { state with
        objects := Function.update state.objects key none
        sweep := { state.sweep with
          phase := .deleting left
          deleted := state.sweep.deleted ++ [key] } }
    | _ => none
  | .deletedAll =>
    if state.sweep.phase = .deleting [] then
      some { state with sweep := { state.sweep with phase := .done } }
    else none

/-- Before anything happened: no call is under way, and the sweep has not begun. -/
structure PhotoState.Fresh (state : PhotoState) : Prop where
  calls : ∀ call, state.calls call = .idle
  sweep : state.sweep = .initial

/-- The stored gallery of a property. -/
def PhotoState.gallery (state : PhotoState) (id : Uuid) : Option PhotoRow :=
  Table.byKey PhotoRow.id id state.rows

end Sambung
