/-
This file states the reservations export, `bookings-csv.ts`, and proves that it
reads back: behind the byte-order mark stands a document whose records are the
header and one per reservation, and no field of them begins like a formula.

The enumerations of a row are strings when the export is written, so all its cells
are texts. They come from guests and channels, so nothing is assumed of their
characters.

A cell is first made inert, by an apostrophe where it begins like a formula, and
then quoted where it holds a quote, a comma or a line break. The two steps are
kept apart in the proof: escaping writes the neutralised value in one of the two
forms the reader of the format takes, and its theorem on written documents does
the rest.
-/

import Sambung.Foundation.Csv
import Sambung.Text

namespace Sambung

/-! ### The serializer -/

structure BookingCsvRow where
  bookingId : Text
  property : Text
  unit : Text
  guest : Text
  checkIn : Text
  checkOut : Text
  nights : Text
  source : Text
  status : Text
  guests : Text
  totalIdr : Text
  deriving DecidableEq, Repr

/-- A column of the export. -/
structure CsvColumn where
  header : Text
  cell : BookingCsvRow → Text

def COLUMNS : List CsvColumn :=
  [{ header := "Booking ID".toList, cell := (·.bookingId) },
    { header := "Property".toList, cell := (·.property) },
    { header := "Unit".toList, cell := (·.unit) },
    { header := "Guest".toList, cell := (·.guest) },
    { header := "Check-in".toList, cell := (·.checkIn) },
    { header := "Check-out".toList, cell := (·.checkOut) },
    { header := "Nights".toList, cell := (·.nights) },
    { header := "Source".toList, cell := (·.source) },
    { header := "Status".toList, cell := (·.status) },
    { header := "Guests".toList, cell := (·.guests) },
    { header := "Total (IDR)".toList, cell := (·.totalIdr) }]

def CSV_HEADERS : List Text := COLUMNS.map (·.header)

def BookingsCsv.CRLF : Text := ['\r', '\n']

def BOM : Text := ['\uFEFF']

/-- `/^[=+\-@\t\r]/`. -/
def FORMULA_TRIGGER (value : Text) : Bool :=
  value.head?.any (· ∈ ['=', '+', '-', '@', '\t', '\r'])

/-- `/[",\r\n]/`. -/
def NEEDS_QUOTING (value : Text) : Bool := value.any (· ∈ ['"', ',', '\r', '\n'])

def escapeCsvField (value : Text) : Text :=
  let injectable := FORMULA_TRIGGER value
  let v := if injectable then '\'' :: value else value
  if injectable || NEEDS_QUOTING v then
    '"' :: ((v.flatMap fun c => if c = '"' then ['"', '"'] else [c]) ++ ['"'])
  else v

def bookingsToCsv (rows : List BookingCsvRow) : Text :=
  let records := CSV_HEADERS.map escapeCsvField ::
    rows.map fun r => COLUMNS.map fun c => escapeCsvField (c.cell r)
  BOM ++ List.intercalate BookingsCsv.CRLF (records.map (List.intercalate [','])) ++
    BookingsCsv.CRLF

/-! ### Reading it back -/

/-- The value a spreadsheet shows: behind an apostrophe, if it begins like a formula. -/
def neutralised (value : Text) : Text := if FORMULA_TRIGGER value then '\'' :: value else value

theorem neutralised_inert (value : Text) : FORMULA_TRIGGER (neutralised value) = false := by
  rw [neutralised]
  split
  · rfl
  · exact Bool.eq_false_iff.mpr ‹_›

theorem kind_data {c : Char} (plain : c ∉ ['"', ',', '\r', '\n']) : Csv.kind c = .data := by
  obtain ⟨quote, comma, carriage, feed⟩ : c ≠ '"' ∧ c ≠ ',' ∧ c ≠ '\r' ∧ c ≠ '\n' := by
    simpa using plain
  rw [Csv.kind, if_neg quote, if_neg comma, if_neg carriage, if_neg feed]

/-- Escaping writes the neutralised value in one of the two forms of the format, in quotes where
text data alone could not hold it. -/
theorem escapeCsvField_writes (value : Text) :
    Csv.Writes (escapeCsvField value) (neutralised value) := by
  rw [escapeCsvField]
  by_cases quotes : (FORMULA_TRIGGER value || NEEDS_QUOTING (neutralised value)) = true
  · exact (if_pos quotes).symm ▸ Csv.Writes.quoted (neutralised value)
  · refine (if_neg quotes).symm ▸ Csv.Writes.plain fun c member => kind_data fun special => ?_
    refine quotes ((Bool.or_eq_true _ _).mpr (.inr (List.any_eq_true.mpr ⟨c, member, ?_⟩)))
    exact decide_eq_true special

/-- Lines joined by a break with one more behind them each have one behind them. -/
theorem intercalate_append {Item : Type} (separator : List Item) {lines : List (List Item)}
    (someLine : lines ≠ []) :
    List.intercalate separator lines ++ separator = lines.flatMap (· ++ separator) := by
  induction lines with
  | nil => exact absurd rfl someLine
  | cons first rest inductionHypothesis =>
    cases rest with
    | nil => rw [List.intercalate_singleton, List.flatMap_singleton]
    | cons second rest =>
      rw [List.intercalate_cons_cons, List.append_assoc, List.append_assoc,
        inductionHypothesis (List.cons_ne_nil _ _), List.flatMap_cons (x := first),
        List.append_assoc]

/-- The header's fields are written as they stand. -/
theorem neutralised_headers : CSV_HEADERS.map neutralised = CSV_HEADERS := by
  decide +kernel

/-- The document behind the byte-order mark reads as the header and a record for each row, with a
field for each column: the cell, behind an apostrophe exactly if it begins like a formula. No field
begins like one. The reader is a strict one of the format, and the cells are any texts, with quotes,
commas, line breaks and characters beyond ASCII in any place. -/
theorem bookingsToCsv_read (rows : List BookingCsvRow) :
    ∃ document records, bookingsToCsv rows = BOM ++ document ∧
      Csv.read document = some (CSV_HEADERS :: records) ∧
      List.Forall₂ (fun row record => List.Forall₂ (fun column field =>
        field = if FORMULA_TRIGGER (column.cell row) then '\'' :: column.cell row
          else column.cell row) COLUMNS record) rows records ∧
      ∀ record ∈ CSV_HEADERS :: records, ∀ field ∈ record, FORMULA_TRIGGER field = false := by
  let records := rows.map fun row => COLUMNS.map fun column => neutralised (column.cell row)
  let lines := CSV_HEADERS.map escapeCsvField ::
    rows.map fun row => COLUMNS.map fun column => escapeCsvField (column.cell row)
  have written : bookingsToCsv rows = BOM ++
      lines.flatMap fun cells => List.intercalate [','] cells ++ BookingsCsv.CRLF := by
    have someLine : lines.map (List.intercalate [',']) ≠ [] := List.cons_ne_nil _ _
    rw [bookingsToCsv, List.append_assoc, intercalate_append BookingsCsv.CRLF someLine,
      List.flatMap_map]
  have headers : List.Forall₂ Csv.Writes (CSV_HEADERS.map escapeCsvField) CSV_HEADERS := by
    nth_rewrite 2 [← neutralised_headers]
    rw [List.forall₂_map_left_iff, List.forall₂_map_right_iff, List.forall₂_same]
    exact fun header _ => escapeCsvField_writes header
  have cells : List.Forall₂ (List.Forall₂ Csv.Writes) lines (CSV_HEADERS :: records) := by
    refine .cons headers ?_
    rw [List.forall₂_map_left_iff, List.forall₂_map_right_iff, List.forall₂_same]
    intro row _
    rw [List.forall₂_map_left_iff, List.forall₂_map_right_iff, List.forall₂_same]
    exact fun column _ => escapeCsvField_writes (column.cell row)
  have filled : ∀ cells ∈ lines, cells ≠ [] := by
    refine List.forall_mem_cons.mpr ⟨List.cons_ne_nil _ _, fun cells member => ?_⟩
    obtain ⟨row, _, rfl⟩ := List.mem_map.mp member
    exact List.cons_ne_nil _ _
  refine ⟨_, records, written, Csv.read_lines cells filled, ?_, ?_⟩
  · rw [List.forall₂_map_right_iff, List.forall₂_same]
    intro row _
    rw [List.forall₂_map_right_iff, List.forall₂_same]
    exact fun column _ => rfl
  · refine List.forall_mem_cons.mpr ⟨?_, fun record member => ?_⟩
    · rw [← neutralised_headers]
      exact List.forall_mem_map.mpr fun header _ => neutralised_inert header
    · obtain ⟨row, _, rfl⟩ := List.mem_map.mp member
      exact List.forall_mem_map.mpr fun column _ => neutralised_inert (column.cell row)

end Sambung
