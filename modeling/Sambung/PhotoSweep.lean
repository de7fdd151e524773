/-
This file proves what the orphan sweep may delete under edits that go on beside
it.

The sweep compares objects with the keys that were referenced when it began. Where
no edit that overlaps it writes a key it may collect, a key it picked is in no
gallery when it deletes the object, and no gallery names a deleted object
afterwards.

The condition of a run is on its writes and uploads, in the state each meets; it
never speaks of what the sweep has picked. `SweepSafe` is the invariant between
two events, with one lemma for each move of the sweep: what it could still pick
was collectable when it began, and a collectable key in a gallery is one it will
strip. An edit that began after the sweep has read galleries without deleted keys,
which is an invariant of the call. The last run shows the harm: an old orphan,
linked again while the sweep is under way.
-/

import Sambung.GalleryCap

namespace Sambung

open Schedules

/-! ### What the sweep collects -/

def SweepPhase.Underway (phase : SweepPhase) : Prop := phase ≠ .waiting ∧ phase ≠ .done

theorem SweepPhase.underway_listing (ids : List Uuid) : (SweepPhase.listing ids).Underway :=
  ⟨(fun same => nomatch same), fun same => nomatch same⟩

theorem SweepPhase.underway_stripping (left : List String) : (SweepPhase.stripping left).Underway :=
  ⟨(fun same => nomatch same), fun same => nomatch same⟩

theorem SweepPhase.underway_deleting (left : List String) : (SweepPhase.deleting left).Underway :=
  ⟨(fun same => nomatch same), fun same => nomatch same⟩

/-- The sweep picks an object it finds oversize, or unreferenced and old. -/
def Sweep.Picks (sweep : Sweep) (key : String) (object : StoredObject) : Prop :=
  object.Oversize ∨ key ∉ sweep.referenced ∧ object.isOld sweep.cutoff

/-- The object the key had when the sweep read the referenced keys is one the sweep picks. -/
def Sweep.Collectable (sweep : Sweep) (key : String) : Prop :=
  ∃ object, sweep.seen key = some object ∧ sweep.Picks key object

/-- What the sweep compares with is set when it begins. -/
structure SameStart (before after : Sweep) : Prop where
  cutoff : after.cutoff = before.cutoff
  referenced : after.referenced = before.referenced
  seen : after.seen = before.seen

theorem SameStart.picks {before after : Sweep} (same : SameStart before after) (key : String)
    (object : StoredObject) : after.Picks key object ↔ before.Picks key object := by
  unfold Sweep.Picks
  rw [same.referenced, same.cutoff]

theorem SameStart.collectable {before after : Sweep} (same : SameStart before after)
    (key : String) : after.Collectable key ↔ before.Collectable key := by
  unfold Sweep.Collectable
  rw [same.seen]
  exact exists_congr fun object => and_congr_right fun _ => same.picks key object

/-- No gallery holds the key. -/
def Unlinked (rows : List PhotoRow) (key : String) : Prop := ∀ row ∈ rows, key ∉ row.photos

/-- The sweep deleted the key's object, and no other has been stored since. -/
def Dangling (objects : ObjectStore) (sweep : Sweep) (key : String) : Prop :=
  key ∈ sweep.deleted ∧ objects key = none

/-- What a page of the listing adds to the sweep's variables. -/
structure Listed (objects : ObjectStore) (before after : Sweep) : Prop where
  start : SameStart before after
  deleted : after.deleted = before.deleted
  orphans : ∀ key ∈ after.orphanKeys, key ∈ before.orphanKeys ∨
    key ∉ before.referenced ∧ ∃ object, objects key = some object ∧ before.Picks key object
  oversize : ∀ key ∈ after.oversizeKeys, key ∈ before.oversizeKeys ∨
    ∃ object, objects key = some object ∧ before.Picks key object

theorem Listed.refl (objects : ObjectStore) (sweep : Sweep) : Listed objects sweep sweep :=
  ⟨⟨rfl, rfl, rfl⟩, rfl, fun _ member => Or.inl member, fun _ member => Or.inl member⟩

theorem classify_listed (objects : ObjectStore) (sweep : Sweep) (key : String) :
    Listed objects sweep (Sweep.classify objects sweep key) := by
  unfold Sweep.classify
  split
  · exact Listed.refl objects sweep
  · rename_i object stored
    split
    · rename_i oversize
      refine ⟨⟨rfl, rfl, rfl⟩, rfl, fun _ member => Or.inl member, fun other member => ?_⟩
      rcases List.mem_append.mp member with before | last
      · exact Or.inl before
      · rw [List.mem_singleton.mp last]
        exact Or.inr ⟨object, stored, Or.inl oversize⟩
    · split
      · rename_i orphan
        refine ⟨⟨rfl, rfl, rfl⟩, rfl, fun other member => ?_, fun _ member => Or.inl member⟩
        rcases List.mem_append.mp member with before | last
        · exact Or.inl before
        · rw [List.mem_singleton.mp last]
          exact Or.inr ⟨orphan.1, object, stored, Or.inr orphan⟩
      · exact Listed.refl objects sweep

theorem Listed.trans {objects : ObjectStore} {first second third : Sweep}
    (before : Listed objects first second) (later : Listed objects second third) :
    Listed objects first third := by
  refine ⟨⟨later.start.cutoff.trans before.start.cutoff,
    later.start.referenced.trans before.start.referenced,
    later.start.seen.trans before.start.seen⟩, later.deleted.trans before.deleted,
    fun key member => ?_, fun key member => ?_⟩
  · rcases later.orphans key member with earlier | ⟨unreferenced, object, stored, picked⟩
    · exact before.orphans key earlier
    · exact Or.inr ⟨before.start.referenced ▸ unreferenced, object, stored,
        (before.start.picks key object).mp picked⟩
  · rcases later.oversize key member with earlier | ⟨object, stored, picked⟩
    · exact before.oversize key earlier
    · exact Or.inr ⟨object, stored, (before.start.picks key object).mp picked⟩

theorem page_listed (objects : ObjectStore) (page : List String) (sweep : Sweep) :
    Listed objects sweep (page.foldl (Sweep.classify objects) sweep) := by
  induction page generalizing sweep with
  | nil => exact .refl objects sweep
  | cons key page inductionHypothesis =>
    exact (classify_listed objects sweep key).trans (inductionHypothesis _)

/-! ### The invariant of the sweep -/

/-- What holds of galleries, objects and sweep between any two events: what the sweep could still
pick was collectable when it began, a collectable key in a gallery is one it strips, and the keys
it stripped or picked as orphans are in no gallery. -/
structure SweepSafe (rows : List PhotoRow) (objects : ObjectStore) (sweep : Sweep) : Prop where
  early : (∀ left, sweep.phase ≠ .deleting left) → sweep.phase ≠ .done → sweep.deleted = []
  stored : sweep.phase.Underway → ∀ key object, objects key = some object →
    sweep.Picks key object → sweep.Collectable key
  orphans : sweep.phase ≠ .waiting → ∀ key ∈ sweep.orphanKeys,
    key ∉ sweep.referenced ∧ sweep.Collectable key
  oversize : sweep.phase ≠ .waiting → ∀ key ∈ sweep.oversizeKeys, sweep.Collectable key
  referenced : sweep.phase.Underway → ∀ row ∈ rows, ∀ key ∈ row.photos,
    sweep.Collectable key → key ∈ sweep.referenced
  stripped : ∀ left, sweep.phase = .stripping left → ∀ key ∈ sweep.oversizeKeys, key ∉ left →
    Unlinked rows key
  deleting : ∀ left, sweep.phase = .deleting left →
    (∀ key ∈ sweep.oversizeKeys, Unlinked rows key) ∧
      ∀ key ∈ left, key ∈ sweep.oversizeKeys ++ sweep.orphanKeys
  deleted : ∀ key ∈ sweep.deleted, key ∈ sweep.oversizeKeys ++ sweep.orphanKeys
  linked : ∀ row ∈ rows, ∀ key ∈ row.photos, ¬ Dangling objects sweep key

variable {rows : List PhotoRow} {objects : ObjectStore} {sweep : Sweep}

/-- What the sweep is about to delete is in no gallery. -/
theorem SweepSafe.unlinked (safe : SweepSafe rows objects sweep) {key : String}
    {left : List String} (phase : sweep.phase = .deleting (key :: left)) : Unlinked rows key := by
  obtain ⟨oversize, picked⟩ := safe.deleting _ phase
  have underway : sweep.phase.Underway := phase ▸ SweepPhase.underway_deleting _
  rcases List.mem_append.mp (picked key List.mem_cons_self) with isOversize | isOrphan
  · exact oversize key isOversize
  · obtain ⟨unreferenced, collectable⟩ := safe.orphans underway.1 key isOrphan
    exact fun row member linked =>
      unreferenced (safe.referenced underway row member key linked collectable)

theorem SweepSafe.collectable (safe : SweepSafe rows objects sweep)
    (begun : sweep.phase ≠ .waiting) {key : String} (deleted : key ∈ sweep.deleted) :
    sweep.Collectable key :=
  (List.mem_append.mp (safe.deleted key deleted)).elim (safe.oversize begun key)
    fun orphan => (safe.orphans begun key orphan).2

/-- Galleries may come to hold keys that are not collectable, or, where the sweep is not under way,
keys that are not dangling. -/
theorem SweepSafe.relink (safe : SweepSafe rows objects sweep) {rows' : List PhotoRow}
    (kept : ∀ row' ∈ rows', ∀ key ∈ row'.photos, (∃ row ∈ rows, key ∈ row.photos) ∨
      (sweep.phase.Underway → ¬ sweep.Collectable key) ∧ ¬ Dangling objects sweep key) :
    SweepSafe rows' objects sweep := by
  have unlinked : sweep.phase.Underway → ∀ key, sweep.Collectable key → Unlinked rows key →
      Unlinked rows' key := by
    intro underway key collectable apart row' member linked
    rcases kept row' member key linked with ⟨row, rowMember, before⟩ | ⟨plain, -⟩
    · exact apart row rowMember before
    · exact plain underway collectable
  refine ⟨safe.early, safe.stored, safe.orphans, safe.oversize, ?_, ?_, ?_, safe.deleted, ?_⟩
  · intro underway row' member key linked collectable
    rcases kept row' member key linked with ⟨row, rowMember, before⟩ | ⟨plain, -⟩
    · exact safe.referenced underway row rowMember key before collectable
    · exact absurd collectable (plain underway)
  · intro left phase key isOversize done
    have underway : sweep.phase.Underway := phase ▸ SweepPhase.underway_stripping left
    exact unlinked underway key (safe.oversize underway.1 key isOversize)
      (safe.stripped left phase key isOversize done)
  · intro left phase
    have underway : sweep.phase.Underway := phase ▸ SweepPhase.underway_deleting left
    obtain ⟨oversize, picked⟩ := safe.deleting left phase
    exact ⟨fun key isOversize => unlinked underway key (safe.oversize underway.1 key isOversize)
      (oversize key isOversize), picked⟩
  · intro row' member key linked
    rcases kept row' member key linked with ⟨row, rowMember, before⟩ | ⟨-, whole⟩
    · exact safe.linked row rowMember key before
    · exact whole

/-- An upload during the sweep that the sweep does not pick, or any upload at another time. -/
theorem SweepSafe.upload (safe : SweepSafe rows objects sweep) {key : String}
    {object : StoredObject} (spared : sweep.phase.Underway → ¬ sweep.Picks key object) :
    SweepSafe rows (Function.update objects key (some object)) sweep := by
  refine ⟨safe.early, ?_, safe.orphans, safe.oversize, safe.referenced, safe.stripped,
    safe.deleting, safe.deleted, ?_⟩
  · intro underway other found stored picked
    by_cases same : other = key
    · subst same
      rw [Function.update_self] at stored
      cases stored
      exact absurd picked (spared underway)
    · rw [Function.update_of_ne same] at stored
      exact safe.stored underway other found stored picked
  · rintro row member other linked ⟨deleted, gone⟩
    by_cases same : other = key
    · subst same
      rw [Function.update_self] at gone
      cases gone
    · rw [Function.update_of_ne same] at gone
      exact safe.linked row member other linked ⟨deleted, gone⟩

/-- The sweep begins: what it would pick now is what is collectable. -/
theorem SweepSafe.begin (rows : List PhotoRow) (objects : ObjectStore) (ids : List Uuid)
    (cutoff : Instant) :
    SweepSafe rows objects { Sweep.initial with
      phase := .listing ids, cutoff, referenced := referencedKeys rows, seen := objects } where
  early := fun _ _ => rfl
  stored := fun _ _ object found picked => ⟨object, found, picked⟩
  orphans := fun _ _ member => (List.not_mem_nil member).elim
  oversize := fun _ _ member => (List.not_mem_nil member).elim
  referenced := fun _ row member _ linked _ => List.mem_flatMap.mpr ⟨row, member, linked⟩
  stripped := fun _ same => nomatch same
  deleting := fun _ same => nomatch same
  deleted := fun _ member => (List.not_mem_nil member).elim
  linked := fun _ _ _ _ dangling => (List.not_mem_nil dangling.1).elim

/-- The sweep goes on listing: a page adds keys to strip and keys to delete, all of them
collectable. -/
theorem SweepSafe.list (safe : SweepSafe rows objects sweep) {ids ids' : List Uuid}
    (phase : sweep.phase = .listing ids) {listed : Sweep} (page : Listed objects sweep listed) :
    SweepSafe rows objects { listed with phase := .listing ids' } := by
  have underway : sweep.phase.Underway := phase ▸ SweepPhase.underway_listing ids
  have start : SameStart sweep { listed with phase := .listing ids' } :=
    ⟨page.start.cutoff, page.start.referenced, page.start.seen⟩
  have none_ : listed.deleted = [] := by
    rw [page.deleted]
    refine safe.early (fun left same => ?_) underway.2
    rw [phase] at same
    cases same
  have found : ∀ key, (∃ object, objects key = some object ∧ sweep.Picks key object) →
      sweep.Collectable key := fun key ⟨object, stored, picked⟩ =>
    safe.stored underway key object stored picked
  refine ⟨fun _ _ => none_, fun _ key object stored picked => ?_, fun _ key member => ?_,
    fun _ key member => ?_, fun _ row member key linked collectable => ?_,
    (fun _ same => nomatch same), (fun _ same => nomatch same), ?_, ?_⟩
  · exact (start.collectable key).mpr
      (safe.stored underway key object stored ((start.picks key object).mp picked))
  · rw [start.collectable, start.referenced]
    rcases page.orphans key member with before | ⟨unreferenced, picked⟩
    · exact safe.orphans underway.1 key before
    · exact ⟨unreferenced, found key picked⟩
  · rw [start.collectable]
    rcases page.oversize key member with before | picked
    · exact safe.oversize underway.1 key before
    · exact found key picked
  · rw [start.referenced]
    exact safe.referenced underway row member key linked ((start.collectable key).mp collectable)
  · intro key member
    rw [show listed.deleted = [] from none_] at member
    exact (List.not_mem_nil member).elim
  · rintro row member key linked ⟨deleted, -⟩
    rw [show listed.deleted = [] from none_] at deleted
    exact (List.not_mem_nil deleted).elim

/-- The sweep goes from listing to stripping. -/
theorem SweepSafe.listed (safe : SweepSafe rows objects sweep) (phase : sweep.phase = .listing []) :
    SweepSafe rows objects { sweep with phase := .stripping sweep.oversizeKeys } := by
  have underway : sweep.phase.Underway := phase ▸ SweepPhase.underway_listing []
  have none_ : sweep.deleted = [] := by
    refine safe.early (fun left same => ?_) underway.2
    rw [phase] at same
    cases same
  exact ⟨fun _ _ => none_, fun _ => safe.stored underway, fun _ => safe.orphans underway.1,
    fun _ => safe.oversize underway.1, fun _ => safe.referenced underway,
    fun left same key member left_ => by cases same; exact absurd member left_,
    (fun _ same => nomatch same), safe.deleted, safe.linked⟩

/-- The sweep strips a key, where it was referenced at the start, from every gallery that holds it.
-/
theorem SweepSafe.strip (safe : SweepSafe rows objects sweep) {key : String} {left : List String}
    (phase : sweep.phase = .stripping (key :: left)) :
    SweepSafe (if key ∈ sweep.referenced then stripFromGallery key rows else rows) objects
      { sweep with phase := .stripping left } := by
  have underway : sweep.phase.Underway := phase ▸ SweepPhase.underway_stripping _
  have fewer : ∀ row' ∈ (if key ∈ sweep.referenced then stripFromGallery key rows else rows),
      ∀ other ∈ row'.photos, (other ≠ key ∨ key ∉ sweep.referenced) ∧
        ∃ row ∈ rows, other ∈ row.photos := by
    intro row' member other linked
    split at member
    · obtain ⟨row, rowMember, same⟩ := Table.mem_updateWhere.mp member
      split at same
      · subst same
        obtain ⟨before, apart⟩ := List.mem_filter.mp linked
        exact ⟨Or.inl (of_decide_eq_true apart), row, rowMember, before⟩
      · rename_i absent
        subst same
        exact ⟨Or.inl fun isKey => absent (isKey ▸ linked), row, rowMember, linked⟩
    · rename_i unreferenced
      exact ⟨Or.inr unreferenced, row', member, linked⟩
  have none_ : sweep.deleted = [] := by
    refine safe.early (fun left same => ?_) underway.2
    rw [phase] at same
    cases same
  refine ⟨fun _ _ => none_, fun _ => safe.stored underway, fun _ => safe.orphans underway.1,
    fun _ => safe.oversize underway.1, fun _ row' member other linked collectable => ?_,
    fun left' same other isOversize done row' member linked => ?_, (fun _ same => nomatch same),
    safe.deleted, fun row' member other linked => ?_⟩
  · obtain ⟨-, row, rowMember, before⟩ := fewer row' member other linked
    exact safe.referenced underway row rowMember other before collectable
  · cases same
    obtain ⟨apart, row, rowMember, before⟩ := fewer row' member other linked
    by_cases isKey : other = key
    · rcases apart with apart | unreferenced
      · exact apart isKey
      · exact unreferenced (isKey ▸ safe.referenced underway row rowMember other before
          (safe.oversize underway.1 other isOversize))
    · exact safe.stripped _ phase other isOversize
        (fun inLeft => (List.mem_cons.mp inLeft).elim isKey done) row rowMember before
  · obtain ⟨-, row, rowMember, before⟩ := fewer row' member other linked
    exact safe.linked row rowMember other before

/-- The sweep goes from stripping to deleting. -/
theorem SweepSafe.finishStripping (safe : SweepSafe rows objects sweep)
    (phase : sweep.phase = .stripping []) :
    SweepSafe rows objects
      { sweep with phase := .deleting (sweep.oversizeKeys ++ sweep.orphanKeys) } := by
  have underway : sweep.phase.Underway := phase ▸ SweepPhase.underway_stripping []
  refine ⟨fun notDeleting _ => absurd rfl (notDeleting _), fun _ => safe.stored underway,
    fun _ => safe.orphans underway.1, fun _ => safe.oversize underway.1,
    fun _ => safe.referenced underway, (fun _ same => nomatch same), fun left same => ?_,
    safe.deleted, safe.linked⟩
  cases same
  exact ⟨fun key member => safe.stripped [] phase key member List.not_mem_nil,
    fun _ member => member⟩

/-- The sweep deletes an object: its key was in no gallery, and is dangling from then on. -/
theorem SweepSafe.delete (safe : SweepSafe rows objects sweep) {key : String} {left : List String}
    (phase : sweep.phase = .deleting (key :: left)) :
    SweepSafe rows (Function.update objects key none)
      { sweep with phase := .deleting left, deleted := sweep.deleted ++ [key] } := by
  have underway : sweep.phase.Underway := phase ▸ SweepPhase.underway_deleting _
  have apart := safe.unlinked phase
  obtain ⟨oversize, picked⟩ := safe.deleting _ phase
  have kept : ∀ other object, Function.update objects key none other = some object →
      objects other = some object := by
    intro other object stored
    by_cases same : other = key
    · rw [same, Function.update_self] at stored
      cases stored
    · rwa [Function.update_of_ne same] at stored
  refine ⟨fun notDeleting _ => absurd rfl (notDeleting _),
    fun _ other object stored => safe.stored underway other object (kept other object stored),
    fun _ => safe.orphans underway.1, fun _ => safe.oversize underway.1,
    fun _ => safe.referenced underway, (fun _ same => nomatch same), fun left' same => ?_,
    fun other member => ?_, fun row member other linked dangling => ?_⟩
  · cases same
    exact ⟨oversize, fun other member => picked other (List.mem_cons_of_mem _ member)⟩
  · rcases List.mem_append.mp member with before | last
    · exact safe.deleted other before
    · rw [List.mem_singleton.mp last]
      exact picked key List.mem_cons_self
  · obtain ⟨deleted, gone⟩ := dangling
    rcases List.mem_append.mp deleted with before | last
    · have same : other ≠ key := fun same => apart row member (same ▸ linked)
      rw [Function.update_of_ne same] at gone
      exact safe.linked row member other linked ⟨before, gone⟩
    · exact apart row member (List.mem_singleton.mp last ▸ linked)

/-- The sweep ends: it picks nothing any more, and no gallery names what it has deleted. -/
theorem SweepSafe.finish (safe : SweepSafe rows objects sweep) (begun : sweep.phase ≠ .waiting) :
    SweepSafe rows objects { sweep with phase := .done } :=
  ⟨fun _ notDone => absurd rfl notDone, fun underway => absurd rfl underway.2,
    fun _ => safe.orphans begun, fun _ => safe.oversize begun,
    fun underway => absurd rfl underway.2,
    (fun _ same => nomatch same), (fun _ same => nomatch same), safe.deleted, safe.linked⟩

/-! ### Calls that begin after the sweep -/

/-- A call that read its gallery after the sweep had ended read no dangling key, and has none left
among those it neither has to check nor refused. -/
def LateSafe (objects : ObjectStore) (sweep : Sweep) (call : UpdatePhotosCall) : Prop :=
  (∀ request existing, call = .found request existing true →
    sweep.phase = .done ∧ ∀ key ∈ existing, ¬ Dangling objects sweep key) ∧
  ∀ request existing pending rejected, call = .validating request existing pending rejected true →
    sweep.phase = .done ∧ ∀ key ∈ request.keys, key ∈ pending ∨ key ∈ rejected ∨
      ¬ Dangling objects sweep key

/-- Once the sweep has ended, objects are only added. -/
theorem LateSafe.mono {objects objects' : ObjectStore} {sweep sweep' : Sweep}
    {call : UpdatePhotosCall} (late : LateSafe objects sweep call)
    (ended : sweep.phase = .done → sweep' = sweep ∧
      ∀ key, Dangling objects' sweep key → Dangling objects sweep key) :
    LateSafe objects' sweep' call := by
  refine ⟨fun request existing stands => ?_, fun request existing pending rejected stands => ?_⟩
  · obtain ⟨done, whole⟩ := late.1 request existing stands
    obtain ⟨rfl, fewer⟩ := ended done
    exact ⟨done, fun key member dangling => whole key member (fewer key dangling)⟩
  · obtain ⟨done, whole⟩ := late.2 request existing pending rejected stands
    obtain ⟨rfl, fewer⟩ := ended done
    refine ⟨done, fun key member => ?_⟩
    rcases whole key member with inPending | inRejected | notDangling
    · exact Or.inl inPending
    · exact Or.inr (Or.inl inRejected)
    · exact Or.inr (Or.inr fun dangling => notDangling (fewer key dangling))

theorem LateSafe.of_answered {objects : ObjectStore} {sweep : Sweep} (answer : UpdateAnswer) :
    LateSafe objects sweep (.answered answer) :=
  ⟨(fun _ _ same => nomatch same), fun _ _ _ _ same => nomatch same⟩

theorem LateSafe.of_idle {objects : ObjectStore} {sweep : Sweep} :
    LateSafe objects sweep .idle :=
  ⟨(fun _ _ same => nomatch same), fun _ _ _ _ same => nomatch same⟩

/-! ### Runs -/

structure PhotoSafe (state : PhotoState) : Prop where
  swept : SweepSafe state.rows state.objects state.sweep
  late : ∀ call, LateSafe state.objects state.sweep (state.calls call)

/-- An edit that overlaps the sweep writes no collectable key, and an object uploaded during the
sweep is neither oversize nor dated before the grace window. -/
def LeavesAlone (event : PhotoEvent) (state : PhotoState) : Prop :=
  match event with
  | .write call => ∀ request existing,
      state.calls call = .validating request existing [] [] false →
      state.sweep.phase ≠ .waiting → ∀ key ∈ request.keys, ¬ state.sweep.Collectable key
  | .upload _ object => state.sweep.phase.Underway →
      ¬ object.Oversize ∧ ¬ object.isOld state.sweep.cutoff
  | _ => True

variable {galleryCap : Uuid → Nat} {event : PhotoEvent} {state after : PhotoState}

theorem PhotoSafe.answer (safe : PhotoSafe state) {call : Nat} {next : UpdatePhotosCall}
    (late : LateSafe state.objects state.sweep next) : PhotoSafe (state.answer call next) := by
  refine ⟨safe.swept, fun other => ?_⟩
  show LateSafe state.objects state.sweep (Function.update state.calls call next other)
  by_cases same : other = call
  · rw [same, Function.update_self]
    exact late
  · rw [Function.update_of_ne same]
    exact safe.late other

theorem PhotoSafe.find (safe : PhotoSafe state) {call : Nat} {request : UpdatePhotosRequest}
    (acts : photoAct galleryCap (.find call request) state = some after) : PhotoSafe after := by
  simp only [photoAct] at acts
  split at acts
  · split at acts
    · rename_i row found
      cases acts
      refine safe.answer ⟨fun request' existing same => ?_,
        fun request' existing pending rejected same => ?_⟩
      · obtain ⟨-, read, late⟩ := UpdatePhotosCall.found.inj same
        refine ⟨of_decide_eq_true late, fun key member => ?_⟩
        exact safe.swept.linked row (findGallery_spec found).1 key (read ▸ member)
      · cases same
    · cases acts
      exact safe.answer (.of_answered _)
  · cases acts

theorem PhotoSafe.measure (safe : PhotoSafe state) {call : Nat}
    (acts : photoAct galleryCap (.measure call) state = some after) : PhotoSafe after := by
  simp only [photoAct] at acts
  split at acts
  · rename_i request existing late stands
    cases acts
    refine safe.answer ⟨fun request' existing' same => ?_,
      fun request' existing' pending rejected same => ?_⟩
    · unfold checkKeys at same
      split at same
      · cases same
      · split at same <;> cases same
    · obtain ⟨rfl, rfl, rfl, rfl, rfl, -⟩ := checkKeys_validating same
      obtain ⟨done, whole⟩ := (safe.late call).1 request' existing' stands
      refine ⟨done, fun key member => ?_⟩
      by_cases known : key ∈ existing'
      · exact Or.inr (Or.inr (whole key known))
      · exact Or.inl (List.mem_filter.mpr ⟨member, decide_eq_true known⟩)
  · cases acts

theorem PhotoSafe.validate (safe : PhotoSafe state) {call : Nat} {key : String}
    (acts : photoAct galleryCap (.validate call key) state = some after) : PhotoSafe after := by
  simp only [photoAct] at acts
  split at acts
  · rename_i request existing pending rejected late stands
    split at acts
    · cases acts
      refine safe.answer ⟨fun request' existing' same => ?_,
        fun request' existing' pending' rejected' same => ?_⟩
      · cases same
      · cases same
        obtain ⟨done, whole⟩ := (safe.late call).2 request existing pending rejected stands
        refine ⟨done, fun other member => ?_⟩
        by_cases isKey : other = key
        · subst isKey
          by_cases valid : isValidPhotoObject state.objects other
          · refine Or.inr (Or.inr fun dangling => ?_)
            rw [isValidPhotoObject, dangling.2] at valid
            cases valid
          · rw [if_neg valid]
            exact Or.inr (Or.inl (List.mem_append_right _ (List.mem_singleton_self other)))
        · rcases whole other member with inPending | inRejected | notDangling
          · exact Or.inl ((List.mem_erase_of_ne isKey).mpr inPending)
          · refine Or.inr (Or.inl ?_)
            split
            · exact inRejected
            · exact List.mem_append_left _ inRejected
          · exact Or.inr (Or.inr notDangling)
    · cases acts
  · cases acts

theorem PhotoSafe.write (safe : PhotoSafe state) {call : Nat}
    (alone : LeavesAlone (.write call) state)
    (acts : photoAct galleryCap (.write call) state = some after) : PhotoSafe after := by
  simp only [photoAct] at acts
  split at acts
  · rename_i request existing rejected late stands
    split at acts
    · cases acts
      exact safe.answer (.of_answered _)
    · rename_i valid
      split at acts
      · rename_i rows wrote
        cases acts
        rw [not_not.mp valid] at stands
        have plain : ∀ key ∈ request.keys,
            (state.sweep.phase.Underway → ¬ state.sweep.Collectable key) ∧
              ¬ Dangling state.objects state.sweep key := by
          intro key member
          cases late with
          | true =>
            obtain ⟨done, whole⟩ := (safe.late call).2 request existing [] [] stands
            refine ⟨fun underway => absurd done underway.2, ?_⟩
            exact ((whole key member).resolve_left List.not_mem_nil).resolve_left List.not_mem_nil
          | false =>
            by_cases waiting : state.sweep.phase = .waiting
            · refine ⟨fun underway => absurd waiting underway.1, fun dangling => ?_⟩
              have none_ := safe.swept.early
                (fun left same => by cases waiting.symm.trans same)
                (fun same => by cases waiting.symm.trans same)
              have deleted := dangling.1
              rw [none_] at deleted
              exact (List.not_mem_nil deleted).elim
            · have apart := alone request existing stands waiting key member
              exact ⟨fun _ => apart,
                fun dangling => apart (safe.swept.collectable waiting dangling.1)⟩
        have written : PhotoSafe { state with rows } := by
          refine ⟨safe.swept.relink fun row' member key linked => ?_, safe.late⟩
          unfold writeGallery at wrote
          split at wrote
          · cases wrote
            obtain ⟨row, rowMember, same⟩ := Table.mem_updateWhere.mp member
            split at same
            · subst same
              exact Or.inr (plain key linked)
            · subst same
              exact Or.inl ⟨row, rowMember, linked⟩
          · cases wrote
        exact written.answer (.of_answered _)
      · cases acts
        exact safe.answer (.of_answered _)
  · cases acts

theorem PhotoSafe.act (safe : PhotoSafe state) (alone : LeavesAlone event state)
    (acts : photoAct galleryCap event state = some after) : PhotoSafe after := by
  have notDone : ∀ {phase}, state.sweep.phase = phase → phase ≠ .done →
      ∀ {objects' sweep'} call, LateSafe objects' sweep' (state.calls call) := by
    intro phase same apart objects' sweep' call
    exact (safe.late call).mono fun done => absurd (same.symm.trans done) apart
  cases event with
  | find call request => exact safe.find acts
  | measure call => exact safe.measure acts
  | validate call key => exact safe.validate acts
  | write call => exact safe.write alone acts
  | upload key object =>
    cases acts
    refine ⟨safe.swept.upload fun underway => ?_, fun call => (safe.late call).mono fun _ => ?_⟩
    · rintro (oversize | ⟨-, old⟩)
      · exact (alone underway).1 oversize
      · exact (alone underway).2 old
    · refine ⟨rfl, fun other dangling => ⟨dangling.1, ?_⟩⟩
      have gone : Function.update state.objects key (some object) other = none := dangling.2
      by_cases same : other = key
      · rw [same, Function.update_self] at gone
        cases gone
      · rwa [Function.update_of_ne same] at gone
  | reference input =>
    simp only [photoAct] at acts
    split at acts
    · rename_i waiting
      cases acts
      exact ⟨.begin _ _ _ _, notDone waiting (fun same => by cases same)⟩
    · cases acts
  | listPage page last =>
    simp only [photoAct] at acts
    split at acts
    · rename_i id ids phase
      split at acts
      · cases acts
        exact ⟨safe.swept.list phase (page_listed state.objects page state.sweep),
          notDone phase (fun same => by cases same)⟩
      · cases acts
    · cases acts
  | listed =>
    simp only [photoAct] at acts
    split at acts
    · rename_i phase
      cases acts
      exact ⟨safe.swept.listed phase, notDone phase (fun same => by cases same)⟩
    · cases acts
  | strip =>
    simp only [photoAct] at acts
    split at acts
    · rename_i key left phase
      cases acts
      exact ⟨safe.swept.strip phase, notDone phase (fun same => by cases same)⟩
    · cases acts
  | stripped =>
    simp only [photoAct] at acts
    split at acts
    · rename_i phase
      cases acts
      exact ⟨safe.swept.finishStripping phase, notDone phase (fun same => by cases same)⟩
    · cases acts
  | delete =>
    simp only [photoAct] at acts
    split at acts
    · rename_i key left phase
      cases acts
      exact ⟨safe.swept.delete phase, notDone phase (fun same => by cases same)⟩
    · cases acts
  | deletedAll =>
    simp only [photoAct] at acts
    split at acts
    · rename_i phase
      cases acts
      have begun : state.sweep.phase ≠ .waiting := by
        rw [phase]
        intro same
        cases same
      exact ⟨safe.swept.finish begun, notDone phase (fun same => by cases same)⟩
    · cases acts

theorem PhotoSafe.of_fresh (fresh : state.Fresh) : PhotoSafe state := by
  refine ⟨?_, fun call => ?_⟩
  · rw [fresh.sweep]
    exact ⟨fun _ _ => rfl, fun underway => absurd rfl underway.1, fun begun => absurd rfl begun,
      fun begun => absurd rfl begun, fun underway => absurd rfl underway.1,
      (fun _ same => nomatch same), (fun _ same => nomatch same),
      fun _ member => (List.not_mem_nil member).elim,
      fun _ _ _ _ dangling => (List.not_mem_nil dangling.1).elim⟩
  · rw [fresh.calls call]
    exact .of_idle

/-- In every run whose edits and uploads leave the sweep alone, an object the sweep deletes is in no
gallery at that moment, and no gallery ever holds a key whose object the sweep has deleted. The
condition is asked of each event in the state it meets: an edit that writes once the sweep has begun
writes no key the sweep may collect, and an object uploaded meanwhile is neither oversize nor older
than the grace window. Galleries and objects at the start are any. -/
theorem sweep_breaks_no_gallery (galleryCap : Uuid → Nat) {start state : PhotoState}
    (fresh : start.Fresh) (run : Reaches (photoAct galleryCap) LeavesAlone start state) :
    (∀ key left, state.sweep.phase = .deleting (key :: left) →
      ∀ row ∈ state.rows, key ∉ row.photos) ∧
    ∀ row ∈ state.rows, ∀ key ∈ row.photos, key ∈ state.sweep.deleted →
      (state.objects key).isSome := by
  have safe : PhotoSafe state := run.invariant PhotoSafe (.of_fresh fresh)
    fun _ _ _ kept alone acts => kept.act alone acts
  refine ⟨fun key left phase => safe.swept.unlinked phase, fun row member key linked deleted => ?_⟩
  cases stored : state.objects key with
  | some _ => rfl
  | none => exact absurd ⟨deleted, stored⟩ (safe.swept.linked row member key linked)

/-- A small photo stored on the first day, which no gallery links. -/
def villaOrphan : PhotoState :=
  { villaGallery [] with
    objects := fun key =>
      if key = photoKeyPrefix 1 2 ++ "a" then
        some ⟨100, some 0, "image/jpeg", [0xff, 0xd8, 0xff, 0, 0, 0, 0, 0, 0, 0, 0, 0]⟩
      else none }

/-- The sweep of the third day. -/
def villaSweep : PhotoEvent := .reference ⟨2 * PHOTO_GC_GRACE_MS, none⟩

/-- A small photo with a modification time. -/
def villaPhoto (lastModified : Instant) : StoredObject :=
  ⟨100, some lastModified, "image/jpeg", [0xff, 0xd8, 0xff, 0, 0, 0, 0, 0, 0, 0, 0, 0]⟩

/-- The villa's gallery links one of two photos of the first day. -/
def villaLinked : PhotoState :=
  { villaGallery ["b"] with
    objects := fun key =>
      if key ∈ [photoKeyPrefix 1 2 ++ "a", photoKeyPrefix 1 2 ++ "b"] then some (villaPhoto 0)
      else none }

/-- An edit reads the gallery before the sweep begins, and is still checking its photos then. -/
def villaEdit : List PhotoEvent := [.find 0 (villaPhotos ["c", "b"]), villaSweep, .measure 0]

/-- The owner uploads the new photo while the sweep is under way. -/
def villaUpload : PhotoEvent :=
  .upload (photoKeyPrefix 1 2 ++ "c") (villaPhoto (2 * PHOTO_GC_GRACE_MS))

/-- The sweep lists the three photos and goes on to its deletes. -/
def villaListing : List PhotoEvent :=
  [.listPage (["a", "b", "c"].map (photoKeyPrefix 1 2 ++ ·)) true, .listed, .stripped]

set_option synthInstance.maxSize 256 in
/-- An edit that links a photo and the upload of that photo overlap the sweep, which collects the
one orphan. -/
theorem villa_orphan_collected :
    ∃ state, Reaches (photoAct fun _ => 30) LeavesAlone villaLinked state ∧
      state.sweep.phase = .deleting [photoKeyPrefix 1 2 ++ "a"] ∧
      state.rows = [⟨2, 1, ["c", "b"].map (photoKeyPrefix 1 2 ++ ·)⟩] ∧
      ∀ row ∈ state.rows, photoKeyPrefix 1 2 ++ "a" ∉ row.photos := by
  have fresh : villaLinked.Fresh := ⟨fun _ => rfl, rfl⟩
  have happens : ((follow (photoAct fun _ => 30) villaEdit villaLinked).bind fun begun =>
      (photoAct (fun _ => 30) villaUpload begun).bind fun uploaded =>
        (photoAct (fun _ => 30) (.validate 0 (photoKeyPrefix 1 2 ++ "c")) uploaded).bind
          fun checked => (photoAct (fun _ => 30) (.write 0) checked).bind fun written =>
            (follow (photoAct fun _ => 30) villaListing written).map fun state =>
              ((begun.sweep.cutoff, checked.calls 0),
                (["c", "b"].map fun photo => checked.sweep.seen (photoKeyPrefix 1 2 ++ photo),
                  checked.sweep.referenced), state.sweep.phase, state.rows)) =
      some ((PHOTO_GC_GRACE_MS,
        .validating (villaPhotos ["c", "b"]) [photoKeyPrefix 1 2 ++ "b"] [] [] false),
        ([none, some (villaPhoto 0)], [photoKeyPrefix 1 2 ++ "b"]),
        .deleting [photoKeyPrefix 1 2 ++ "a"],
        [⟨2, 1, ["c", "b"].map (photoKeyPrefix 1 2 ++ ·)⟩]) := by decide +kernel
  obtain ⟨begun, begins, happens⟩ := Option.bind_eq_some_iff.mp happens
  obtain ⟨uploaded, uploads, happens⟩ := Option.bind_eq_some_iff.mp happens
  obtain ⟨checked, checks, happens⟩ := Option.bind_eq_some_iff.mp happens
  obtain ⟨written, writes, happens⟩ := Option.bind_eq_some_iff.mp happens
  obtain ⟨state, sweeps, values⟩ := Option.map_eq_some_iff.mp happens
  simp only [Prod.mk.injEq, List.map_cons, List.map_nil, List.cons.injEq] at values
  obtain ⟨⟨cutoff, stands⟩, ⟨⟨unseen, seen, -⟩, referenced⟩, phase, rows⟩ := values
  have harmless : LeavesAlone villaUpload begun := by
    intro _
    rw [cutoff]
    decide
  have apart : LeavesAlone (.write 0) checked := by
    intro request existing validating _ key member
    rw [stands] at validating
    cases validating
    rintro ⟨object, found, picked⟩
    rcases List.mem_pair.mp member with rfl | rfl
    · rw [unseen] at found
      cases found
    · rw [seen] at found
      cases found
      rcases picked with oversize | ⟨unreferenced, -⟩
      · exact absurd oversize (by decide)
      · rw [referenced] at unreferenced
        exact unreferenced List.mem_cons_self
  have before : Reaches (photoAct fun _ => 30) LeavesAlone villaLinked begun := by
    refine reaches_of_follow (fun event member state => ?_) .start begins
    fin_cases member <;> exact trivial
  have edited : Reaches (photoAct fun _ => 30) LeavesAlone villaLinked written :=
    .next (.next (.next before harmless uploads) (by exact trivial) checks) apart writes
  have run : Reaches (photoAct fun _ => 30) LeavesAlone villaLinked state := by
    refine reaches_of_follow (fun event member state => ?_) edited sweeps
    fin_cases member <;> exact trivial
  exact ⟨state, run, phase, rows, (sweep_breaks_no_gallery (fun _ => 30) fresh run).1 _ _ phase⟩

/-- An old orphan linked after the sweep read the referenced keys is deleted from under the
gallery. -/
theorem relinked_orphan_deleted :
    ∃ state after, Reaches (photoAct fun _ => 30) Free villaOrphan state ∧
      state.sweep.phase = .deleting [photoKeyPrefix 1 2 ++ "a"] ∧
      photoAct (fun _ => 30) .delete state = some after ∧
      (state.objects (photoKeyPrefix 1 2 ++ "a")).any (fun object => ¬ object.Oversize) ∧
      state.rows = [⟨2, 1, [photoKeyPrefix 1 2 ++ "a"]⟩] ∧
      after.rows = [⟨2, 1, [photoKeyPrefix 1 2 ++ "a"]⟩] ∧
      after.objects (photoKeyPrefix 1 2 ++ "a") = none := by
  have swept : ((follow (photoAct fun _ => 30)
      [villaSweep, .listPage [photoKeyPrefix 1 2 ++ "a"] true, .find 0 (villaPhotos ["a"]),
        .measure 0, .validate 0 (photoKeyPrefix 1 2 ++ "a"), .write 0, .listed, .stripped]
      villaOrphan).bind fun state => (photoAct (fun _ => 30) .delete state).map fun after =>
        (state.sweep.phase,
          (state.objects (photoKeyPrefix 1 2 ++ "a")).any fun object => ¬ object.Oversize,
          state.rows, after.rows, after.objects (photoKeyPrefix 1 2 ++ "a"))) =
      some (.deleting [photoKeyPrefix 1 2 ++ "a"], true, [⟨2, 1, [photoKeyPrefix 1 2 ++ "a"]⟩],
        [⟨2, 1, [photoKeyPrefix 1 2 ++ "a"]⟩], none) := by decide +kernel
  obtain ⟨state, followed, last⟩ := Option.bind_eq_some_iff.mp swept
  obtain ⟨after, deletes, values⟩ := Option.map_eq_some_iff.mp last
  simp only [Prod.mk.injEq] at values
  obtain ⟨phase, small, rows, kept, gone⟩ := values
  exact ⟨state, after, reaches_of_follow (fun _ _ _ => trivial) .start followed, phase, deletes,
    small, rows, kept, gone⟩

end Sambung
