/-
This file is the small theory of a database table read as a list of rows: the
guarded `UPDATE` that rewrites exactly the rows its condition matches, and the
lookup by a key. Nothing here knows what a row is. The lemmas say what a guarded
update leaves alone: every column it does not set, every row it does not match,
and every relation between rows that the new values keep.

`Evolves` is the relation a sequence of such writes leaves between two states of a
table: each row is still found under its key and has taken an allowed step, and
each new row was born in an allowed state.
-/

import Mathlib.Data.List.Basic
import Mathlib.Data.List.Nodup

namespace Table

variable {Row Key : Type}

/-! ### Guarded updates -/

/-- `UPDATE ... SET change WHERE condition`. -/
def updateWhere (condition : Row → Prop) [DecidablePred condition] (change : Row → Row)
    (rows : List Row) : List Row :=
  rows.map fun row => if condition row then change row else row

/-- The rows an `UPDATE ... WHERE condition RETURNING` reports. -/
def matching (condition : Row → Prop) [DecidablePred condition] (rows : List Row) : List Row :=
  rows.filter fun row => condition row

section Update

variable {condition : Row → Prop} [DecidablePred condition] {change : Row → Row}
  {rows : List Row}

theorem mem_updateWhere {row : Row} :
    row ∈ updateWhere condition change rows ↔
      ∃ before ∈ rows, (if condition before then change before else before) = row := by
  simp only [updateWhere, List.mem_map]

/-- A column the update does not set is the same list of values after it. -/
theorem map_updateWhere {Column : Type} (column : Row → Column)
    (kept : ∀ row, condition row → column (change row) = column row) :
    (updateWhere condition change rows).map column = rows.map column := by
  rw [updateWhere, List.map_map]
  refine List.map_congr_left fun row _ => ?_
  show column (if condition row then change row else row) = column row
  by_cases matched : condition row
  · rw [if_pos matched, kept row matched]
  · rw [if_neg matched]

/-- An update that matches no row changes nothing. -/
theorem updateWhere_eq_self (unmatched : ∀ row ∈ rows, ¬ condition row) :
    updateWhere condition change rows = rows := by
  rw [updateWhere]
  conv_rhs => rw [← List.map_id rows]
  exact List.map_congr_left fun row member => if_neg (unmatched row member)

/-- A property of all rows survives an update whose new values have it. -/
theorem forall_updateWhere {property : Row → Prop} (before : ∀ row ∈ rows, property row)
    (changed : ∀ row ∈ rows, condition row → property row → property (change row)) :
    ∀ row ∈ updateWhere condition change rows, property row := by
  intro row member
  obtain ⟨source, sourceMember, rfl⟩ := mem_updateWhere.mp member
  by_cases matched : condition source
  · rw [if_pos matched]
    exact changed source sourceMember matched (before source sourceMember)
  · rw [if_neg matched]
    exact before source sourceMember

/-- A row the update neither matches nor makes is in the table before and after alike. -/
theorem mem_updateWhere_of_not {row : Row} (unmatched : ¬ condition row)
    (unmade : ∀ source, condition source → change source ≠ row) :
    row ∈ updateWhere condition change rows ↔ row ∈ rows := by
  refine ⟨fun member => ?_, fun member => mem_updateWhere.mpr ⟨row, member, if_neg unmatched⟩⟩
  obtain ⟨source, sourceMember, same⟩ := mem_updateWhere.mp member
  by_cases matched : condition source
  · rw [if_pos matched] at same
    exact absurd same (unmade source matched)
  · rw [if_neg matched] at same
    exact same ▸ sourceMember

/-- An update makes no row meet a condition that did not meet it. -/
theorem length_filter_updateWhere_le {wanted : Row → Bool}
    (kept : ∀ row ∈ rows, condition row → wanted (change row) = true → wanted row = true) :
    ((updateWhere condition change rows).filter wanted).length ≤ (rows.filter wanted).length := by
  rw [updateWhere, ← List.countP_eq_length_filter, ← List.countP_eq_length_filter,
    List.countP_map]
  refine List.countP_mono_left fun row member meets => ?_
  by_cases matched : condition row
  · refine kept row member matched ?_
    simpa [matched] using meets
  · simpa [matched] using meets

omit [DecidablePred condition] in
/-- A condition one row at most meets is met by the row that is known to. -/
theorem filter_eq_singleton {wanted : Row → Bool} {row : Row}
    (one : (rows.filter wanted).length ≤ 1) (member : row ∈ rows) (meets : wanted row = true) :
    rows.filter wanted = [row] := by
  have listed : row ∈ rows.filter wanted := List.mem_filter.mpr ⟨member, meets⟩
  match found : rows.filter wanted, one, listed with
  | [only], _, listed => rw [List.mem_singleton.mp listed]

/-- A relation between any two rows survives an update that keeps it on both sides. -/
theorem pairwise_updateWhere {apart : Row → Row → Prop} (before : rows.Pairwise apart)
    (kept : ∀ first second, apart first second →
      apart (if condition first then change first else first)
        (if condition second then change second else second)) :
    (updateWhere condition change rows).Pairwise apart :=
  List.Pairwise.map _ kept before

end Update

/-! ### Lookup by a key -/

/-- `SELECT ... WHERE key = wanted LIMIT 1`. -/
def byKey [DecidableEq Key] (key : Row → Key) (wanted : Key) (rows : List Row) : Option Row :=
  rows.find? fun row => key row = wanted

section Lookup

variable [DecidableEq Key] {key : Row → Key} {rows : List Row}

theorem mem_of_byKey {wanted : Key} {row : Row} (found : byKey key wanted rows = some row) :
    row ∈ rows ∧ key row = wanted :=
  ⟨List.mem_of_find?_eq_some found, by simpa using List.find?_some found⟩

theorem byKey_eq_none {wanted : Key} :
    byKey key wanted rows = none ↔ ∀ row ∈ rows, key row ≠ wanted := by
  simp [byKey, List.find?_eq_none]

omit [DecidableEq Key] in
/-- An update that keeps what a search looks for commutes with the search. -/
theorem find?_updateWhere {condition : Row → Prop} [DecidablePred condition]
    {change : Row → Row} {wanted : Row → Bool}
    (kept : ∀ row, condition row → wanted (change row) = wanted row) :
    (updateWhere condition change rows).find? wanted =
      (rows.find? wanted).map fun row => if condition row then change row else row := by
  rw [updateWhere, List.find?_map]
  congr 2
  funext row
  show wanted (if condition row then change row else row) = _
  by_cases matched : condition row
  · rw [if_pos matched, kept row matched]
  · rw [if_neg matched]

/-- An update that keeps the key commutes with the lookup. -/
theorem byKey_updateWhere {condition : Row → Prop} [DecidablePred condition]
    {change : Row → Row} (kept : ∀ row, condition row → key (change row) = key row)
    (wanted : Key) :
    byKey key wanted (updateWhere condition change rows) =
      (byKey key wanted rows).map fun row => if condition row then change row else row :=
  find?_updateWhere fun row matched => by rw [kept row matched]

omit [DecidableEq Key] in
/-- A row found by a search is found by any narrower search it still meets. -/
theorem find?_narrow {wide narrow : Row → Bool} {row : Row} (found : rows.find? wide = some row)
    (meets : narrow row = true) (narrower : ∀ other, narrow other = true → wide other = true) :
    rows.find? narrow = some row := by
  obtain ⟨-, before, after, rfl, absent⟩ := List.find?_eq_some_iff_append.mp found
  refine List.find?_eq_some_iff_append.mpr ⟨meets, before, after, rfl, fun other member => ?_⟩
  cases seen : narrow other with
  | false => rfl
  | true =>
    have wider := absent other member
    rw [narrower other seen] at wider
    exact wider

omit [DecidableEq Key] in
/-- Under a primary key, two rows of the table with one key are one row. -/
theorem eq_of_key (primary : (rows.map key).Nodup) {first second : Row}
    (firstMember : first ∈ rows) (secondMember : second ∈ rows)
    (same : key first = key second) : first = second :=
  List.inj_on_of_nodup_map primary firstMember secondMember same

/-- Under a primary key, the lookup of a row's key finds that row. -/
theorem byKey_of_mem (primary : (rows.map key).Nodup) {row : Row} (member : row ∈ rows) :
    byKey key (key row) rows = some row := by
  cases found : byKey key (key row) rows with
  | none => exact absurd rfl (byKey_eq_none.mp found row member)
  | some other =>
    obtain ⟨otherMember, same⟩ := mem_of_byKey found
    rw [eq_of_key primary otherMember member same]

/-- Where the row with the key passes a test, an update need not repeat the test. -/
theorem updateWhere_of_passes (primary : (rows.map key).Nodup) {wanted : Key} {row : Row}
    (found : byKey key wanted rows = some row) (test : Row → Prop) [DecidablePred test]
    (passes : test row) (change : Row → Row) :
    updateWhere (fun row => key row = wanted) change rows =
      updateWhere (fun row => key row = wanted ∧ test row) change rows := by
  obtain ⟨member, keyed⟩ := mem_of_byKey found
  refine List.map_congr_left fun other otherMember => ?_
  by_cases same : key other = wanted
  · rw [if_pos same, if_pos]
    rw [eq_of_key primary otherMember member (same.trans keyed.symm)]
    exact ⟨keyed, passes⟩
  · rw [if_neg same, if_neg fun both => same both.1]

/-- Where no row with the key passes the test, the update changes nothing. -/
theorem updateWhere_of_fails (primary : (rows.map key).Nodup) {wanted : Key} {test : Row → Prop}
    [DecidablePred test] (fails : ∀ row, byKey key wanted rows = some row → ¬ test row)
    (change : Row → Row) :
    updateWhere (fun row => key row = wanted ∧ test row) change rows = rows := by
  refine updateWhere_eq_self fun row member => ?_
  rintro ⟨rfl, passes⟩
  exact fails row (byKey_of_mem primary member) passes

/-- An appended row is found last: by its own key only where no row had it before. -/
theorem byKey_append_singleton (wanted : Key) (row : Row) :
    byKey key wanted (rows ++ [row]) =
      (byKey key wanted rows).or (if key row = wanted then some row else none) := by
  rw [byKey, List.find?_append, byKey]
  congr 1
  by_cases same : key row = wanted
  · simp [same]
  · simp [same]

/-- A row appended under a fresh key is found under it. -/
theorem byKey_append_fresh {wanted : Key} {row : Row} (same : key row = wanted)
    (fresh : wanted ∉ rows.map key) : byKey key wanted (rows ++ [row]) = some row := by
  have absent : byKey key wanted rows = none :=
    byKey_eq_none.mpr fun other member found => fresh (found ▸ List.mem_map_of_mem member)
  rw [byKey_append_singleton, absent, Option.none_or, if_pos same]

omit [DecidableEq Key] in
/-- An append under a fresh key keeps the primary key. -/
theorem nodup_map_append (primary : (rows.map key).Nodup) {row : Row}
    (fresh : key row ∉ rows.map key) : ((rows ++ [row]).map key).Nodup := by
  rw [List.map_append, List.map_singleton, List.nodup_append]
  refine ⟨primary, List.nodup_singleton _, fun first member second same => ?_⟩
  rw [List.mem_singleton.mp same]
  rintro rfl
  exact fresh member

end Lookup

/-! ### Evolution -/

/-- Every row of `before` is found in `after` one step further, and every row found only in
`after` satisfies `born`. -/
structure Evolves [DecidableEq Key] (key : Row → Key) (step : Row → Row → Prop)
    (born : Row → Prop) (before after : List Row) : Prop where
  kept : ∀ wanted row, byKey key wanted before = some row →
    ∃ later, byKey key wanted after = some later ∧ step row later
  added : ∀ wanted row, byKey key wanted before = none → byKey key wanted after = some row →
    born row

namespace Evolves

variable [DecidableEq Key] {key : Row → Key} {step : Row → Row → Prop} {born : Row → Prop}
  {first second third : List Row}

theorem refl (reflexive : ∀ row, step row row) (rows : List Row) :
    Evolves key step born rows rows where
  kept _ row found := ⟨row, found, reflexive row⟩
  added _ _ absent found := by rw [absent] at found; cases found

theorem trans (transitive : ∀ a b c, step a b → step b c → step a c)
    (grown : ∀ a b, born a → step a b → born b) (earlier : Evolves key step born first second)
    (later : Evolves key step born second third) : Evolves key step born first third where
  kept wanted row found := by
    obtain ⟨middle, foundMiddle, toMiddle⟩ := earlier.kept wanted row found
    obtain ⟨last, foundLast, toLast⟩ := later.kept wanted middle foundMiddle
    exact ⟨last, foundLast, transitive row middle last toMiddle toLast⟩
  added wanted row absent found := by
    cases foundMiddle : byKey key wanted second with
    | none => exact later.added wanted row foundMiddle found
    | some middle =>
      obtain ⟨last, foundLast, toLast⟩ := later.kept wanted middle foundMiddle
      have same : last = row := Option.some.inj (foundLast.symm.trans found)
      exact same ▸ grown middle last (earlier.added wanted middle absent foundMiddle) toLast

/-- A guarded update moves each matched row by its change. -/
theorem updateWhere {condition : Row → Prop} [DecidablePred condition] {change : Row → Row}
    (keyed : ∀ row, condition row → key (change row) = key row)
    (reflexive : ∀ row, step row row) (changed : ∀ row, condition row → step row (change row))
    (rows : List Row) : Evolves key step born rows (updateWhere condition change rows) where
  kept wanted row found := by
    refine ⟨if condition row then change row else row, ?_, ?_⟩
    · rw [byKey_updateWhere keyed, found]
      rfl
    · by_cases matched : condition row
      · rw [if_pos matched]
        exact changed row matched
      · rw [if_neg matched]
        exact reflexive row
  added wanted row absent found := by
    rw [byKey_updateWhere keyed, absent] at found
    cases found

/-- An insert keeps the rows it finds and adds one. -/
theorem append (reflexive : ∀ row, step row row) {row : Row} (fresh : born row)
    (rows : List Row) : Evolves key step born rows (rows ++ [row]) where
  kept wanted other found := by
    refine ⟨other, ?_, reflexive other⟩
    rw [byKey_append_singleton, found, Option.some_or]
  added wanted other absent found := by
    rw [byKey_append_singleton, absent, Option.none_or] at found
    split at found
    · cases found
      exact fresh
    · cases found

/-- A larger step and a larger birth set. -/
theorem mono {wider : Row → Row → Prop} {anywhere : Row → Prop}
    (evolves : Evolves key step born first second) (stepMono : ∀ a b, step a b → wider a b)
    (bornMono : ∀ a, born a → anywhere a) : Evolves key wider anywhere first second where
  kept wanted row found := by
    obtain ⟨later, foundLater, moved⟩ := evolves.kept wanted row found
    exact ⟨later, foundLater, stepMono row later moved⟩
  added wanted row absent found := bornMono row (evolves.added wanted row absent found)

end Evolves

end Table
