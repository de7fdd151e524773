/-
This file is a reader of comma-separated values, RFC 4180.

The reader goes over a document one character at a time. A field is written as it
stands, where it is text data only, or in quotes with its own quotes doubled; both
ways read back, so records of such fields do.

Text data is every character but the quote, the comma and the two of a line break,
as for a document in Unicode. A line break behind the last record is optional.

The reader is strict: a quote within text data, a character behind a closing quote
and half of a line break are refused, so that what is read back was written in one
way only. A written document is read field by field. `foldlM_data` and
`foldlM_doubled` take the two forms of a field through the reader,
`foldlM_intercalate` a record, and `read_lines` the document, each by induction
over the list in hand.
-/

import Mathlib

namespace Csv

/-! ### The reader -/

/-- What a character is to the grammar. -/
inductive Kind where
  | quote
  | comma
  | carriageReturn
  | lineFeed
  | data
  deriving DecidableEq

def kind (c : Char) : Kind :=
  if c = '"' then .quote
  else if c = ',' then .comma
  else if c = '\r' then .carriageReturn
  else if c = '\n' then .lineFeed
  else .data

/-- Where a reader stands: at the start of a field, in text data, in quotes, behind a quote that
ends the field unless it is doubled, or behind the first half of a line break. -/
inductive Place where
  | start
  | plain
  | quoted
  | closed
  | returned
  deriving DecidableEq

/-- What a reader has read: of its field, of its record, and before. -/
structure Reader where
  place : Place
  field : List Char
  record : List (List Char)
  records : List (List (List Char))
  deriving DecidableEq

/-- A reader at the start of a field. -/
def Reader.atStart (record : List (List Char)) (records : List (List (List Char))) : Reader :=
  ⟨.start, [], record, records⟩

def Reader.push (reader : Reader) (place : Place) (c : Char) : Reader :=
  { reader with place, field := reader.field ++ [c] }

def Reader.endField (reader : Reader) : Reader :=
  .atStart (reader.record ++ [reader.field]) reader.records

def Reader.endRecord (reader : Reader) : Reader :=
  .atStart [] (reader.records ++ [reader.record ++ [reader.field]])

/-- One more character, if the grammar has it here. -/
def Reader.step (reader : Reader) (c : Char) : Option Reader :=
  match reader.place, kind c with
  | .start, .data | .plain, .data => some (reader.push .plain c)
  | .start, .quote => some { reader with place := .quoted }
  | .quoted, .quote => some { reader with place := .closed }
  | .quoted, _ | .closed, .quote => some (reader.push .quoted c)
  | .start, .comma | .plain, .comma | .closed, .comma => some reader.endField
  | .start, .carriageReturn | .plain, .carriageReturn | .closed, .carriageReturn =>
    some { reader with place := .returned }
  | .returned, .lineFeed => some reader.endRecord
  | _, _ => none

/-- The records of a document that ends here. -/
def Reader.finish (reader : Reader) : Option (List (List (List Char))) :=
  match reader.place with
  | .start => some (if reader.record = [] then reader.records else reader.endRecord.records)
  | .plain | .closed => some reader.endRecord.records
  | .quoted | .returned => none

/-- The records of a document, or `none` if it is not one. -/
def read (document : List Char) : Option (List (List (List Char))) :=
  (document.foldlM Reader.step (.atStart [] [])).bind Reader.finish

/-! ### Written fields -/

/-- A value with its quotes doubled. -/
def doubled (value : List Char) : List Char :=
  value.flatMap fun c => if c = '"' then ['"', '"'] else [c]

/-- The written form is one of the value's two forms. -/
inductive Writes : List Char → List Char → Prop where
  | plain {value : List Char} (data : ∀ c ∈ value, kind c = .data) : Writes value value
  | quoted (value : List Char) : Writes ('"' :: (doubled value ++ ['"'])) value

/-- The field may end where the reader stands. -/
def Reader.Ended (reader : Reader) : Prop :=
  reader.place = .start ∨ reader.place = .plain ∨ reader.place = .closed

theorem step_comma {reader : Reader} (ended : reader.Ended) :
    reader.step ',' = some reader.endField := by
  rcases ended with place | place | place
  all_goals
    rw [Reader.step, place]
    rfl

theorem foldlM_lineBreak {reader : Reader} (ended : reader.Ended) :
    ['\r', '\n'].foldlM Reader.step reader = some reader.endRecord := by
  have first : reader.step '\r' = some { reader with place := .returned } := by
    rcases ended with place | place | place
    all_goals
      rw [Reader.step, place]
      rfl
  rw [List.foldlM_cons, first]
  rfl

/-- Text data, read from the middle of a plain field, goes into the field as it stands. -/
theorem foldlM_data {value : List Char} (data : ∀ c ∈ value, kind c = .data) (field : List Char)
    (record : List (List Char)) (records : List (List (List Char))) :
    value.foldlM Reader.step ⟨.plain, field, record, records⟩ =
      some ⟨.plain, field ++ value, record, records⟩ := by
  induction value generalizing field with
  | nil => rw [List.append_nil]; rfl
  | cons c value inductionHypothesis =>
    have step : Reader.step ⟨.plain, field, record, records⟩ c =
        some ⟨.plain, field ++ [c], record, records⟩ := by
      rw [Reader.step, data c List.mem_cons_self]
      rfl
    rw [List.foldlM_cons, step, List.append_cons field c value]
    exact inductionHypothesis (fun d member => data d (List.mem_cons_of_mem c member)) _

/-- So does what is in quotes, a doubled quote as one. -/
theorem foldlM_doubled (value field : List Char) (record : List (List Char))
    (records : List (List (List Char))) :
    (doubled value).foldlM Reader.step ⟨.quoted, field, record, records⟩ =
      some ⟨.quoted, field ++ value, record, records⟩ := by
  induction value generalizing field with
  | nil => rw [List.append_nil]; rfl
  | cons c value inductionHypothesis =>
    have first : (if c = '"' then ['"', '"'] else [c]).foldlM Reader.step
        ⟨.quoted, field, record, records⟩ = some ⟨.quoted, field ++ [c], record, records⟩ := by
      by_cases quote : c = '"'
      · rw [if_pos quote, quote]
        rfl
      · have unquoted : kind c ≠ .quote := by
          rw [kind, if_neg quote]
          split_ifs <;> exact Kind.noConfusion
        rw [if_neg quote, List.foldlM_cons, Reader.step]
        cases same : kind c with
        | quote => exact absurd same unquoted
        | comma => rfl
        | carriageReturn => rfl
        | lineFeed => rfl
        | data => rfl
    rw [doubled, List.flatMap_cons, List.foldlM_append, first, List.append_cons field c value]
    exact inductionHypothesis _

/-- Both forms of a value read back, to a reader who has the value in hand and may end the field. -/
theorem Writes.foldlM {written value : List Char} (writes : Writes written value)
    (record : List (List Char)) (records : List (List (List Char))) :
    ∃ reader : Reader, written.foldlM Reader.step (.atStart record records) = some reader ∧
      reader.Ended ∧ reader.field = value ∧ reader.record = record ∧ reader.records = records := by
  cases writes with
  | plain data =>
    cases written with
    | nil => exact ⟨_, rfl, .inl rfl, rfl, rfl, rfl⟩
    | cons c value =>
      have step : Reader.step (.atStart record records) c =
          some ⟨.plain, [c], record, records⟩ := by
        rw [Reader.step, data c List.mem_cons_self]
        rfl
      refine ⟨⟨.plain, c :: value, record, records⟩, ?_, .inr (.inl rfl), rfl, rfl, rfl⟩
      rw [List.foldlM_cons, step]
      exact foldlM_data (fun d member => data d (List.mem_cons_of_mem c member)) [c] record records
  | quoted =>
    refine ⟨⟨.closed, value, record, records⟩, ?_, .inr (.inr rfl), rfl, rfl, rfl⟩
    show (doubled value ++ ['"']).foldlM Reader.step ⟨.quoted, [], record, records⟩ = _
    rw [List.foldlM_append, foldlM_doubled]
    rfl

/-! ### Written documents -/

/-- Fields with commas between them read back as one record. -/
theorem foldlM_intercalate {cells values : List (List Char)}
    (writes : List.Forall₂ Writes cells values) (someCell : cells ≠ [])
    (record : List (List Char)) (records : List (List (List Char))) :
    ∃ reader : Reader,
      (List.intercalate [','] cells).foldlM Reader.step (.atStart record records) = some reader ∧
      reader.Ended ∧ reader.endRecord = .atStart [] (records ++ [record ++ values]) := by
  induction writes generalizing record with
  | nil => exact absurd rfl someCell
  | @cons cell value cells values first rest inductionHypothesis =>
    obtain ⟨reader, run, ended, field, before, earlier⟩ := first.foldlM record records
    cases rest with
    | nil =>
      refine ⟨reader, ?_, ended, ?_⟩
      · rw [List.intercalate_singleton]
        exact run
      · rw [Reader.endRecord, field, before, earlier]
    | cons second rest =>
      obtain ⟨last, runRest, endedRest, closed⟩ :=
        inductionHypothesis (List.cons_ne_nil _ _) (record ++ [value])
      refine ⟨last, ?_, endedRest, ?_⟩
      · rw [List.intercalate_cons_cons, List.append_assoc, List.foldlM_append, run]
        show List.foldlM Reader.step reader (',' :: _) = _
        rw [List.foldlM_cons, step_comma ended, Reader.endField, field, before, earlier]
        exact runRest
      · rw [closed, ← List.append_cons]

/-- Records of written fields, each with a line break behind it, read back. -/
theorem read_lines {lines records : List (List (List Char))}
    (writes : List.Forall₂ (List.Forall₂ Writes) lines records)
    (someCell : ∀ cells ∈ lines, cells ≠ []) :
    read (lines.flatMap fun cells => List.intercalate [','] cells ++ ['\r', '\n']) =
      some records := by
  have all : ∀ earlier, (lines.flatMap fun cells => List.intercalate [','] cells ++
      ['\r', '\n']).foldlM Reader.step (.atStart [] earlier) =
        some (.atStart [] (earlier ++ records)) := by
    induction writes with
    | nil => exact fun earlier => by rw [List.append_nil]; rfl
    | @cons cells values lines records first rest inductionHypothesis =>
      intro earlier
      obtain ⟨reader, run, ended, closed⟩ :=
        foldlM_intercalate first (someCell cells List.mem_cons_self) [] earlier
      rw [List.flatMap_cons, List.foldlM_append, List.foldlM_append, run, List.append_cons]
      show (List.foldlM Reader.step reader ['\r', '\n'] >>= _) = _
      rw [foldlM_lineBreak ended, closed]
      exact inductionHypothesis (fun cells member => someCell cells (List.mem_cons_of_mem _ member))
        _
  rw [read, all []]
  rfl

end Csv
