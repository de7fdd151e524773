/-
This file proves how far a gallery grows.

An update compares its keys with the gallery it read and writes them after its
network checks, so a gallery over the cap that shrank in between grows back. Where
every write of more photos than the cap finds the gallery no shorter than its call
read it, no write leaves a longer gallery over the cap than it found.

`photoAct_rows` and `photoAct_call` say once what one event can do to the
galleries and to a call; the rest uses those two. The invariant is about the calls
under way: a set that has passed the cap check is over the cap only if it is no
longer than the gallery its call read. With the condition on the write it turns
into a bound on the gallery that is there. Where all galleries begin within the
cap the bound on the calls is the cap itself, and no condition is needed.
-/

import Sambung.Foundation.Schedules
import Sambung.Photos

namespace Sambung

open Schedules

variable {galleryCap : Uuid → Nat} {event : PhotoEvent} {state after : PhotoState}

/-! ### What an event may do -/

/-- The galleries change by a write whose checks are all done, or by the sweep's stripping. -/
theorem photoAct_rows (acts : photoAct galleryCap event state = some after) :
    after.rows = state.rows ∨
      (∃ call request existing late rows, event = .write call ∧
        state.calls call = .validating request existing [] [] late ∧
        writeGallery request state.rows = some rows ∧ after.rows = rows) ∨
      ∃ key, event = .strip ∧ after.rows = stripFromGallery key state.rows := by
  cases event with
  | write call =>
    simp only [photoAct] at acts
    split at acts
    · rename_i request existing rejected late stands
      split at acts
      · cases acts
        exact Or.inl rfl
      · rename_i valid
        split at acts
        · rename_i rows wrote
          cases acts
          rw [not_not.mp valid] at stands
          exact Or.inr (Or.inl ⟨call, request, existing, late, rows, rfl, stands, wrote, rfl⟩)
        · cases acts
          exact Or.inl rfl
    · cases acts
  | strip =>
    simp only [photoAct] at acts
    split at acts
    · rename_i key left phase
      cases acts
      by_cases referenced : key ∈ state.sweep.referenced
      · exact Or.inr (Or.inr ⟨key, rfl, if_pos referenced⟩)
      · exact Or.inl (if_neg referenced)
    · cases acts
  | _ =>
    simp only [photoAct] at acts
    repeat' split at acts
    all_goals first
      | cases acts; exact Or.inl rfl
      | cases acts

/-- A call reads its gallery, passes the checks without network, has a key checked, or is
answered. -/
theorem photoAct_call (acts : photoAct galleryCap event state = some after) (call : Nat) :
    after.calls call = state.calls call ∨
      (∃ request row, findGallery request state.rows = some row ∧
        after.calls call = .found request row.photos (state.sweep.phase = .done)) ∨
      (∃ request existing late, state.calls call = .found request existing late ∧
        after.calls call = checkKeys (galleryCap request.tenantId) request existing late) ∨
      (∃ request existing pending rejected late key,
        state.calls call = .validating request existing pending rejected late ∧
        after.calls call = .validating request existing (pending.erase key)
          (if isValidPhotoObject state.objects key then rejected else rejected ++ [key]) late) ∨
      ∃ answer, after.calls call = .answered answer := by
  have moved : ∀ other next, after.calls = Function.update state.calls other next →
      after.calls call = state.calls call ∨ other = call ∧ after.calls call = next := by
    intro other next same
    by_cases isCall : other = call
    · subst isCall
      exact Or.inr ⟨rfl, by rw [same, Function.update_self]⟩
    · exact Or.inl (by rw [same, Function.update_of_ne (Ne.symm isCall)])
  cases event with
  | find other request =>
    simp only [photoAct] at acts
    split at acts
    · split at acts
      · rename_i row found
        cases acts
        rcases moved other _ rfl with same | ⟨-, next⟩
        · exact Or.inl same
        · exact Or.inr (Or.inl ⟨request, row, found, next⟩)
      · cases acts
        rcases moved other _ rfl with same | ⟨-, next⟩
        · exact Or.inl same
        · exact Or.inr (Or.inr (Or.inr (Or.inr ⟨_, next⟩)))
    · cases acts
  | measure other =>
    simp only [photoAct] at acts
    split at acts
    · rename_i request existing late stands
      cases acts
      rcases moved other _ rfl with same | ⟨rfl, next⟩
      · exact Or.inl same
      · exact Or.inr (Or.inr (Or.inl ⟨request, existing, late, stands, next⟩))
    · cases acts
  | validate other key =>
    simp only [photoAct] at acts
    split at acts
    · rename_i request existing pending rejected late stands
      split at acts
      · cases acts
        rcases moved other _ rfl with same | ⟨rfl, next⟩
        · exact Or.inl same
        · exact Or.inr (Or.inr (Or.inr (Or.inl
            ⟨request, existing, pending, rejected, late, key, stands, next⟩)))
      · cases acts
    · cases acts
  | write other =>
    simp only [photoAct] at acts
    split at acts
    · split at acts
      · cases acts
        rcases moved other _ rfl with same | ⟨-, next⟩
        · exact Or.inl same
        · exact Or.inr (Or.inr (Or.inr (Or.inr ⟨_, next⟩)))
      · split at acts
        · cases acts
          rcases moved other _ rfl with same | ⟨-, next⟩
          · exact Or.inl same
          · exact Or.inr (Or.inr (Or.inr (Or.inr ⟨_, next⟩)))
        · cases acts
          rcases moved other _ rfl with same | ⟨-, next⟩
          · exact Or.inl same
          · exact Or.inr (Or.inr (Or.inr (Or.inr ⟨_, next⟩)))
    · cases acts
  | _ =>
    simp only [photoAct] at acts
    repeat' split at acts
    all_goals first
      | cases acts; exact Or.inl rfl
      | cases acts

/-! ### Calls -/

/-- What the checks without network let through: the request as it came, with its new keys still to
validate, and a set that is within the cap or no longer than the gallery read. -/
theorem checkKeys_validating {cap : Nat} {request request' : UpdatePhotosRequest}
    {existing existing' pending rejected : List String} {late late' : Bool}
    (passed : checkKeys cap request existing late =
      .validating request' existing' pending rejected late') :
    request' = request ∧ existing' = existing ∧ late' = late ∧
      pending = request.keys.filter (· ∉ existing) ∧ rejected = [] ∧
      (cap < request.keys.length → request.keys.length ≤ existing.length) := by
  unfold checkKeys at passed
  split at passed
  · cases passed
  · rename_i notFull
    split at passed
    · cases passed
    · cases passed
      exact ⟨rfl, rfl, rfl, rfl, rfl, fun exceeds =>
        not_lt.mp fun grows => notFull ⟨exceeds, grows⟩⟩

/-- The new set of a call past its cap check is over the cap only if it is no longer than the
gallery the call read. -/
def CallMeasured (galleryCap : Uuid → Nat) (call : UpdatePhotosCall) : Prop :=
  ∀ request existing pending rejected late,
    call = .validating request existing pending rejected late →
    galleryCap request.tenantId < request.keys.length → request.keys.length ≤ existing.length

theorem callMeasured_kept (acts : photoAct galleryCap event state = some after) (call : Nat)
    (measured : CallMeasured galleryCap (state.calls call)) :
    CallMeasured galleryCap (after.calls call) := by
  intro request existing pending rejected late stands
  rcases photoAct_call acts call with
    same | ⟨_, _, -, next⟩ | ⟨request', existing', late', -, next⟩ |
    ⟨request', existing', pending', rejected', late', key, before, next⟩ | ⟨_, next⟩
  · exact measured request existing pending rejected late (same ▸ stands)
  · rw [next] at stands
    cases stands
  · rw [next] at stands
    obtain ⟨rfl, rfl, -, -, -, fits⟩ := checkKeys_validating stands
    exact fits
  · rw [next] at stands
    cases stands
    exact measured request existing pending' rejected' late before
  · rw [next] at stands
    cases stands

/-! ### Galleries -/

/-- The stored gallery found by its id after the write of a call. -/
theorem byKey_writeGallery {request : UpdatePhotosRequest} {rows rows' : List PhotoRow}
    (wrote : writeGallery request rows = some rows') (id : Uuid) :
    Table.byKey PhotoRow.id id rows' = (Table.byKey PhotoRow.id id rows).map fun row =>
      if row.Names request then { row with photos := request.keys } else row := by
  unfold writeGallery at wrote
  split at wrote
  · cases wrote
    have kept : ∀ row : PhotoRow, row.Names request →
        PhotoRow.id { row with photos := request.keys } = row.id := fun _ _ => rfl
    exact Table.byKey_updateWhere kept id
  · cases wrote

/-- The stored gallery found by its id after a key is stripped. -/
theorem byKey_stripFromGallery (key : String) (rows : List PhotoRow) (id : Uuid) :
    Table.byKey PhotoRow.id id (stripFromGallery key rows) =
      (Table.byKey PhotoRow.id id rows).map fun row =>
        if key ∈ row.photos then { row with photos := row.photos.filter (· ≠ key) } else row := by
  have kept : ∀ row : PhotoRow, key ∈ row.photos →
      PhotoRow.id { row with photos := row.photos.filter (· ≠ key) } = row.id := fun _ _ => rfl
  exact Table.byKey_updateWhere kept id

/-- A stored gallery that a request names is the gallery its call finds. -/
theorem findGallery_of_byKey {request : UpdatePhotosRequest} {rows : List PhotoRow} {id : Uuid}
    {row : PhotoRow} (found : Table.byKey PhotoRow.id id rows = some row)
    (names : row.Names request) : findGallery request rows = some row := by
  refine Table.find?_narrow found (decide_eq_true names) fun other named => ?_
  have same : other.id = request.id := (of_decide_eq_true named).1
  have key := (Table.mem_of_byKey found).2
  exact decide_eq_true (same.trans (names.1.symm.trans key))

/-- What a call finds is a stored row that its request names. -/
theorem findGallery_spec {request : UpdatePhotosRequest} {rows : List PhotoRow} {row : PhotoRow}
    (found : findGallery request rows = some row) : row ∈ rows ∧ row.Names request :=
  ⟨List.mem_of_find?_eq_some found, by simpa using List.find?_some found⟩

/-- Every stored gallery is still there, and one now over the cap is no longer than it was. -/
def NeverGrows (galleryCap : Uuid → Nat) (before after : PhotoState) : Prop :=
  ∀ id row, before.gallery id = some row →
    ∃ row', after.gallery id = some row' ∧ row'.tenantId = row.tenantId ∧
      (galleryCap row.tenantId < row'.photos.length → row'.photos.length ≤ row.photos.length)

theorem NeverGrows.refl (state : PhotoState) : NeverGrows galleryCap state state :=
  fun _ row found => ⟨row, found, rfl, fun _ => le_rfl⟩

theorem NeverGrows.trans {first second third : PhotoState}
    (before : NeverGrows galleryCap first second) (later : NeverGrows galleryCap second third) :
    NeverGrows galleryCap first third := by
  intro id row found
  obtain ⟨middle, foundMiddle, tenant, grew⟩ := before id row found
  obtain ⟨last, foundLast, tenant', grew'⟩ := later id middle foundMiddle
  refine ⟨last, foundLast, tenant'.trans tenant, fun exceeds => ?_⟩
  have atMost := grew' (tenant.symm ▸ exceeds)
  exact atMost.trans (grew (exceeds.trans_le atMost))

/-- A write of more photos than the cap finds the gallery no shorter than its call read it: nothing
has shrunk it in between. -/
def KeepsUp (galleryCap : Uuid → Nat) (event : PhotoEvent) (state : PhotoState) : Prop :=
  ∀ call request existing late row, event = .write call →
    state.calls call = .validating request existing [] [] late →
    findGallery request state.rows = some row →
    galleryCap request.tenantId < request.keys.length → existing.length ≤ row.photos.length

/-- One event that keeps up, over calls whose sets were measured, makes no gallery longer that is
then over the cap. -/
theorem photoAct_neverGrows (measured : ∀ call, CallMeasured galleryCap (state.calls call))
    (keepsUp : KeepsUp galleryCap event state)
    (acts : photoAct galleryCap event state = some after) :
    NeverGrows galleryCap state after := by
  intro id row found
  rcases photoAct_rows acts with same |
    ⟨call, request, existing, late, rows, isWrite, stands, wrote, same⟩ | ⟨key, -, same⟩
  · refine ⟨row, ?_, rfl, fun _ => le_rfl⟩
    rw [PhotoState.gallery, same]
    exact found
  · have written := byKey_writeGallery wrote id
    rw [show Table.byKey PhotoRow.id id state.rows = some row from found] at written
    by_cases names : row.Names request
    · refine ⟨{ row with photos := request.keys }, ?_, rfl, fun exceeds => ?_⟩
      · rw [PhotoState.gallery, same, written]
        exact congrArg some (if_pos names)
      · have exceedsCap : galleryCap request.tenantId < request.keys.length := names.2 ▸ exceeds
        have short := measured call request existing [] [] late stands exceedsCap
        exact short.trans (keepsUp call request existing late row isWrite stands
          (findGallery_of_byKey found names) exceedsCap)
    · refine ⟨row, ?_, rfl, fun _ => le_rfl⟩
      rw [PhotoState.gallery, same, written]
      exact congrArg some (if_neg names)
  · have stripped : after.gallery id = some (if key ∈ row.photos then
        { row with photos := row.photos.filter (· ≠ key) } else row) := by
      rw [PhotoState.gallery, same, byKey_stripFromGallery,
        show Table.byKey PhotoRow.id id state.rows = some row from found]
      rfl
    by_cases holds : key ∈ row.photos
    · rw [if_pos holds] at stripped
      exact ⟨_, stripped, rfl, fun _ => List.length_filter_le _ _⟩
    · rw [if_neg holds] at stripped
      exact ⟨row, stripped, rfl, fun _ => le_rfl⟩

/-! ### Runs -/

theorem measured_of_reaches {allowed : PhotoEvent → PhotoState → Prop} {start : PhotoState}
    (fresh : start.Fresh) (run : Reaches (photoAct galleryCap) allowed start state) (call : Nat) :
    CallMeasured galleryCap (state.calls call) := by
  refine run.invariant (fun state => ∀ call, CallMeasured galleryCap (state.calls call)) ?_ ?_ call
  · intro call request existing pending rejected late stands
    rw [fresh.calls call] at stands
    cases stands
  · exact fun event state after measured _ acts call => callMeasured_kept acts call (measured call)

/-- In every run whose writes of more photos than the cap find the gallery no shorter than their
call read it, no event leaves a gallery longer and over the cap; so over the whole run a gallery
over the cap is no longer than it was, and one within the cap stays within it. The cap is any number
for each tenant; galleries may begin over it, and any number of calls and one sweep may run. -/
theorem gallery_never_grows_past_cap (galleryCap : Uuid → Nat) {start state : PhotoState}
    (fresh : start.Fresh)
    (run : Reaches (photoAct galleryCap) (KeepsUp galleryCap) start state) :
    (∀ event after, KeepsUp galleryCap event state →
      photoAct galleryCap event state = some after → NeverGrows galleryCap state after) ∧
    NeverGrows galleryCap start state := by
  refine ⟨fun event after keepsUp acts =>
    photoAct_neverGrows (measured_of_reaches fresh run) keepsUp acts, ?_⟩
  exact run.relation (NeverGrows galleryCap) NeverGrows.refl
    (fun _ _ _ before later => before.trans later) fun event state after earlier keepsUp acts =>
      photoAct_neverGrows (measured_of_reaches fresh earlier) keepsUp acts

/-- Every gallery is within its tenant's cap, and so is what the calls read and are about to
write. -/
structure WithinCap (galleryCap : Uuid → Nat) (state : PhotoState) : Prop where
  rows : ∀ row ∈ state.rows, row.photos.length ≤ galleryCap row.tenantId
  found : ∀ call request existing late, state.calls call = .found request existing late →
    existing.length ≤ galleryCap request.tenantId
  validating : ∀ call request existing pending rejected late,
    state.calls call = .validating request existing pending rejected late →
      request.keys.length ≤ galleryCap request.tenantId

theorem WithinCap.act (within : WithinCap galleryCap state)
    (acts : photoAct galleryCap event state = some after) : WithinCap galleryCap after := by
  have rows : ∀ row ∈ after.rows, row.photos.length ≤ galleryCap row.tenantId := by
    rcases photoAct_rows acts with same |
      ⟨call, request, existing, late, rows, -, stands, wrote, same⟩ | ⟨key, -, same⟩
    · rw [same]
      exact within.rows
    · unfold writeGallery at wrote
      split at wrote
      · cases wrote
        rw [same]
        refine Table.forall_updateWhere within.rows fun row _ names _ => ?_
        rw [show row.tenantId = request.tenantId from names.2]
        exact within.validating call request existing [] [] late stands
      · cases wrote
    · rw [same]
      exact Table.forall_updateWhere within.rows fun row _ _ fits =>
        (List.length_filter_le _ _).trans fits
  refine ⟨rows, fun call request existing late stands => ?_,
    fun call request existing pending rejected late stands => ?_⟩
  · rcases photoAct_call acts call with same | ⟨request', row, found, next⟩ |
      ⟨request', existing', late', -, next⟩ | ⟨_, _, _, _, _, _, -, next⟩ | ⟨_, next⟩
    · exact within.found call request existing late (same ▸ stands)
    · rw [next] at stands
      cases stands
      obtain ⟨member, names⟩ := findGallery_spec found
      rw [← names.2]
      exact within.rows row member
    · rw [next] at stands
      unfold checkKeys at stands
      split at stands
      · cases stands
      · split at stands <;> cases stands
    · rw [next] at stands
      cases stands
    · rw [next] at stands
      cases stands
  · rcases photoAct_call acts call with same | ⟨_, _, -, next⟩ |
      ⟨request', existing', late', before, next⟩ |
      ⟨request', existing', pending', rejected', late', key, before, next⟩ | ⟨_, next⟩
    · exact within.validating call request existing pending rejected late (same ▸ stands)
    · rw [next] at stands
      cases stands
    · rw [next] at stands
      obtain ⟨rfl, -, -, -, -, fits⟩ := checkKeys_validating stands
      have read := within.found call request existing' late' before
      by_contra exceeds
      exact exceeds ((fits (not_le.mp exceeds)).trans read)
    · rw [next] at stands
      cases stands
      exact within.validating call request existing pending' rejected' late before
    · rw [next] at stands
      cases stands

/-- Where every gallery starts within its cap, no run whatever takes one over it. -/
theorem gallery_stays_within_cap {start : PhotoState} (fresh : start.Fresh)
    (within : ∀ row ∈ start.rows, row.photos.length ≤ galleryCap row.tenantId)
    (run : Reaches (photoAct galleryCap) Free start state) :
    ∀ row ∈ state.rows, row.photos.length ≤ galleryCap row.tenantId := by
  have first : WithinCap galleryCap start := by
    refine ⟨within, fun call _ _ _ stands => ?_, fun call _ _ _ _ _ stands => ?_⟩
    · rw [fresh.calls call] at stands
      cases stands
    · rw [fresh.calls call] at stands
      cases stands
  exact (run.invariant (WithinCap galleryCap) first fun _ _ _ kept _ acts => kept.act acts).rows

/-- A villa with photos, a cap of one, and nothing under way. -/
def villaGallery (photos : List String) : PhotoState where
  tenants := [1]
  rows := [⟨2, 1, photos.map (photoKeyPrefix 1 2 ++ ·)⟩]
  objects := fun _ => none
  calls := fun _ => .idle
  sweep := .initial

/-- The request for the villa's photos. -/
def villaPhotos (photos : List String) : UpdatePhotosRequest :=
  ⟨1, 2, photos.map (photoKeyPrefix 1 2 ++ ·)⟩

/-- A run that reorders a gallery over the cap. -/
theorem villa_reordered_over_cap :
    ∃ state, Reaches (photoAct fun _ => 1) (KeepsUp fun _ => 1) (villaGallery ["a", "b"]) state ∧
      state.gallery 2 = some ⟨2, 1, ["b", "a"].map (photoKeyPrefix 1 2 ++ ·)⟩ ∧
      NeverGrows (fun _ => 1) (villaGallery ["a", "b"]) state := by
  have fresh : (villaGallery ["a", "b"]).Fresh := ⟨fun _ => rfl, rfl⟩
  have written : ((follow (photoAct fun _ => 1) [.find 0 (villaPhotos ["b", "a"]), .measure 0]
      (villaGallery ["a", "b"])).bind fun checked =>
        (photoAct (fun _ => 1) (.write 0) checked).map fun after =>
          (checked.calls 0, checked.gallery 2, after.gallery 2)) =
      some (.validating (villaPhotos ["b", "a"])
          (["a", "b"].map (photoKeyPrefix 1 2 ++ ·)) [] [] false,
        some ⟨2, 1, ["a", "b"].map (photoKeyPrefix 1 2 ++ ·)⟩,
        some ⟨2, 1, ["b", "a"].map (photoKeyPrefix 1 2 ++ ·)⟩) := by decide +kernel
  obtain ⟨checked, followed, last⟩ := Option.bind_eq_some_iff.mp written
  obtain ⟨after, writes, values⟩ := Option.map_eq_some_iff.mp last
  obtain ⟨stands, galleries⟩ := Prod.mk.inj values
  obtain ⟨before, rewritten⟩ := Prod.mk.inj galleries
  have reads : ∀ event ∈ [PhotoEvent.find 0 (villaPhotos ["b", "a"]), .measure 0], ∀ state,
      KeepsUp (fun _ => 1) event state := by
    intro event member state call _ _ _ _ isWrite
    rcases List.mem_pair.mp member with rfl | rfl
    · cases isWrite
    · cases isWrite
  have run : Reaches (photoAct fun _ => 1) (KeepsUp fun _ => 1) (villaGallery ["a", "b"]) checked :=
    reaches_of_follow reads .start followed
  have keepsUp : KeepsUp (fun _ => 1) (.write 0) checked := by
    intro call request existing late row isWrite validating isRow _
    cases isWrite
    rw [stands] at validating
    cases validating
    have same := findGallery_of_byKey before (show PhotoRow.Names _ (villaPhotos ["b", "a"]) from
      ⟨rfl, rfl⟩)
    rw [same] at isRow
    cases isRow
    exact le_rfl
  exact ⟨after, .next run keepsUp writes, rewritten,
    (gallery_never_grows_past_cap (fun _ => 1) fresh (.next run keepsUp writes)).2⟩

/-- Two edits of a gallery of three under a cap of one: the one that read three photos writes three
after the other has left two. -/
theorem stale_edit_grows_past_cap :
    ∃ state after, Reaches (photoAct fun _ => 1) Free (villaGallery ["a", "b", "c"]) state ∧
      photoAct (fun _ => 1) (.write 0) state = some after ∧
      ¬ NeverGrows (fun _ => 1) state after := by
  have both : ((follow (photoAct fun _ => 1)
      [.find 0 (villaPhotos ["c", "b", "a"]), .measure 0, .find 1 (villaPhotos ["a", "b"]),
        .measure 1, .write 1] (villaGallery ["a", "b", "c"])).bind fun state =>
          (photoAct (fun _ => 1) (.write 0) state).map fun after =>
            (state.gallery 2, after.gallery 2)) =
      some (some ⟨2, 1, ["a", "b"].map (photoKeyPrefix 1 2 ++ ·)⟩,
        some ⟨2, 1, ["c", "b", "a"].map (photoKeyPrefix 1 2 ++ ·)⟩) := by decide +kernel
  obtain ⟨state, followed, last⟩ := Option.bind_eq_some_iff.mp both
  obtain ⟨after, writes, values⟩ := Option.map_eq_some_iff.mp last
  obtain ⟨before, rewritten⟩ := Prod.mk.inj values
  refine ⟨state, after, reaches_of_follow (fun _ _ _ => trivial) .start followed, writes,
    fun neverGrows => ?_⟩
  obtain ⟨row, found, -, grew⟩ := neverGrows 2 _ before
  rw [rewritten] at found
  cases found
  exact absurd (grew (by decide)) (by decide)

end Sambung
