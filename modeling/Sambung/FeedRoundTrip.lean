/-
This file proves what the parser makes of a calendar the serializer wrote.

The physical lines are short and whole, and unfold to the content lines. The scan
lifts out of every block its two dates, and its UID as the serializer escaped it:
the parser undoes no escape. So the calendar comes back as it went out just where
no UID holds a comma, a semicolon or a backslash.

Lines that stand for themselves, named and without a break, are the vocabulary of
the proof: every content line is one, so that the unfolding of the body is the
list of them. The scan of one block is a walk over its six lines, and the blocks
follow one another by induction over the events. The events' dates are days in
order, as the query gives them, and their UIDs are trimmed and on one line; the
stamp, the product id and the zone are any.
-/

import Sambung.IcalExport
import Sambung.IcalDates

namespace Sambung

/-! ### Escaped texts -/

/-- A character an escape goes in front of. -/
abbrev Special (c : Char) : Prop := c = '\\' ∨ c = ';' ∨ c = ','

/-- A text without line breaks is escaped character by character. -/
theorem escapeText_unbroken {value : Text} (unbroken : Unbroken value) :
    escapeText value = value.flatMap fun c => if Special c then ['\\', c] else [c] := by
  have breaks : ∀ text : Text, Unbroken text → escapeBreaks text = text := by
    intro text whole
    fun_induction escapeBreaks text with
    | case1 rest => exact absurd rfl (whole '\r' List.mem_cons_self).1
    | case2 rest => exact absurd rfl (whole '\r' List.mem_cons_self).1
    | case3 rest => exact absurd rfl (whole '\n' List.mem_cons_self).2
    | case4 c rest _ _ _ inductionHypothesis =>
      rw [inductionHypothesis fun other member => whole other (List.mem_cons_of_mem _ member)]
    | case5 => rfl
  have escaped : escapeChar ',' (escapeChar ';' (escapeChar '\\' value)) =
      value.flatMap fun c => if Special c then ['\\', c] else [c] := by
    clear unbroken breaks
    induction value with
    | nil => rfl
    | cons c value inductionHypothesis =>
      rw [List.flatMap_cons, ← inductionHypothesis]
      unfold escapeChar
      rw [List.flatMap_cons, List.flatMap_append, List.flatMap_append]
      congr 1
      by_cases backslash : c = '\\'
      · subst backslash
        rfl
      · by_cases semicolon : c = ';'
        · subst semicolon
          rfl
        · by_cases comma : c = ','
          · subst comma
            rfl
          · simp [backslash, semicolon, comma]
  unfold escapeText
  rw [escaped, breaks]
  intro c member
  obtain ⟨source, inValue, from_⟩ := List.mem_flatMap.mp member
  split at from_
  · rcases List.mem_cons.mp from_ with rfl | last
    · decide
    · rw [List.mem_singleton.mp last]
      exact unbroken source inValue
  · rw [List.mem_singleton.mp from_]
    exact unbroken source inValue

/-- No escaped text breaks a line: a line break in it has become a backslash and a letter. -/
theorem unbroken_escapeText (value : Text) : Unbroken (escapeText value) := by
  unfold escapeText
  generalize escapeChar ',' _ = text
  fun_induction escapeBreaks text with
  | case1 rest inductionHypothesis =>
    exact List.forall_mem_cons.mpr ⟨by decide, List.forall_mem_cons.mpr
      ⟨by decide, inductionHypothesis⟩⟩
  | case2 rest _ inductionHypothesis =>
    exact List.forall_mem_cons.mpr ⟨by decide, List.forall_mem_cons.mpr
      ⟨by decide, inductionHypothesis⟩⟩
  | case3 rest inductionHypothesis =>
    exact List.forall_mem_cons.mpr ⟨by decide, List.forall_mem_cons.mpr
      ⟨by decide, inductionHypothesis⟩⟩
  | case4 c rest _ notReturn notNewline inductionHypothesis =>
    exact List.forall_mem_cons.mpr ⟨⟨notReturn, notNewline⟩, inductionHypothesis⟩
  | case5 => exact fun _ member => (List.not_mem_nil member).elim

/-- A text comes out of the escaping as it went in just where it has nothing to escape. -/
theorem escapeText_eq_self {value : Text} (unbroken : Unbroken value) :
    escapeText value = value ↔ ∀ c ∈ value, ¬ Special c := by
  rw [escapeText_unbroken unbroken]
  clear unbroken
  induction value with
  | nil => simp
  | cons c value inductionHypothesis =>
    rw [List.flatMap_cons, List.forall_mem_cons]
    by_cases special : Special c
    · refine ⟨fun same => ?_, fun plain => absurd special plain.1⟩
      have longer : value.length ≤
          (value.flatMap fun c => if Special c then ['\\', c] else [c]).length := by
        clear same inductionHypothesis
        induction value with
        | nil => exact le_rfl
        | cons d value shorter =>
          rw [List.flatMap_cons, List.length_append, List.length_cons]
          split
          · rw [List.length_cons, List.length_singleton]
            omega
          · rw [List.length_singleton]
            omega
      have lengths := congrArg List.length same
      rw [if_pos special, List.length_append, List.length_cons, List.length_cons,
        List.length_cons, List.length_nil] at lengths
      omega
    · rw [if_neg special, List.singleton_append, List.cons.injEq, inductionHypothesis]
      exact ⟨fun same => ⟨special, same.2⟩, fun plain => ⟨rfl, plain.2⟩⟩

/-! ### Trimmed texts -/

/-- A trimmed text shows its first and its last character. -/
theorem trim_eq_self {text : Text} (filled : text ≠ []) :
    trim text = text ↔
      ¬ isWhiteSpace (text.head filled) ∧ ¬ isWhiteSpace (text.getLast filled) := by
  unfold trim
  constructor
  · intro same
    have shorter := (text.dropWhile_suffix isWhiteSpace).length_le
    have shorterEnd : (text.dropWhile isWhiteSpace).rdropWhile isWhiteSpace <+: _ :=
      List.rdropWhile_prefix isWhiteSpace _
    have prefixLength := shorterEnd.length_le
    have front : text.dropWhile isWhiteSpace = text :=
      (text.dropWhile_suffix isWhiteSpace).eq_of_length (by rw [same] at prefixLength; omega)
    rw [front] at same
    refine ⟨?_, List.rdropWhile_eq_self_iff.mp same filled⟩
    have first := List.dropWhile_eq_self_iff.mp front (List.length_pos_of_ne_nil filled)
    rwa [List.head_eq_getElem filled]
  · intro ends
    have front : text.dropWhile isWhiteSpace = text := by
      refine List.dropWhile_eq_self_iff.mpr fun positive => ?_
      have first := ends.1
      rwa [List.head_eq_getElem filled] at first
    rw [front]
    exact List.rdropWhile_eq_self_iff.mpr fun _ => ends.2

/-- Escaping puts no white space at an end. -/
theorem trim_escapeText {value : Text} (unbroken : Unbroken value) (filled : value ≠ [])
    (trimmed : trim value = value) :
    escapeText value ≠ [] ∧ trim (escapeText value) = escapeText value := by
  obtain ⟨first, last⟩ := (trim_eq_self filled).mp trimmed
  rw [escapeText_unbroken unbroken]
  have nonempty : (value.flatMap fun c => if Special c then ['\\', c] else [c]) ≠ [] := by
    obtain ⟨c, rest, rfl⟩ := List.exists_cons_of_ne_nil filled
    rw [List.flatMap_cons]
    split <;> simp
  refine ⟨nonempty, (trim_eq_self nonempty).mpr ⟨?_, ?_⟩⟩
  · obtain ⟨c, rest, rfl⟩ := List.exists_cons_of_ne_nil filled
    simp only [List.flatMap_cons]
    by_cases special : Special c
    · simp only [if_pos special]
      exact (by decide : ¬ isWhiteSpace '\\')
    · simp only [if_neg special]
      exact first
  · obtain ⟨front, c, rfl⟩ := List.eq_nil_or_concat value |>.resolve_left filled
    simp only [List.getLast_append_singleton, List.concat_eq_append] at last
    by_cases special : Special c
    · have split : (front.concat c).flatMap (fun c => if Special c then ['\\', c] else [c]) =
          (front.flatMap (fun c => if Special c then ['\\', c] else [c]) ++ ['\\']) ++ [c] := by
        simp [special]
      simp only [split, List.getLast_append_singleton]
      exact last
    · have split : (front.concat c).flatMap (fun c => if Special c then ['\\', c] else [c]) =
          front.flatMap (fun c => if Special c then ['\\', c] else [c]) ++ [c] := by
        simp [special]
      simp only [split, List.getLast_append_singleton]
      exact last

/-! ### Dates of the calendar -/

theorem ne_break_of_isDigit {c : Char} (digit : c.isDigit = true) : c ≠ '\r' ∧ c ≠ '\n' := by
  constructor
  · rintro rfl
    cases digit
  · rintro rfl
    cases digit

/-- The serializer drops the hyphens of a date. -/
theorem formatDate_isoDigits {year month day : Nat} (yearFits : year < 10 ^ 4)
    (monthFits : month < 10 ^ 2) (dayFits : day < 10 ^ 2) :
    formatDate (isoDigits year month day) = .ok (dateDigits year month day) ∧
      Unbroken (dateDigits year month day) := by
  obtain ⟨yearLength, yearDigits, -⟩ := Decimal.padded_spec (show 0 < 4 by decide) yearFits
  obtain ⟨monthLength, monthDigits, -⟩ := Decimal.padded_spec (show 0 < 2 by decide) monthFits
  obtain ⟨dayLength, dayDigits, -⟩ := Decimal.padded_spec (show 0 < 2 by decide) dayFits
  have digits : ∀ c ∈ dateDigits year month day, c.isDigit = true := by
    intro c member
    rcases List.mem_append.mp member with ofYear | member
    · exact yearDigits c ofYear
    · exact (List.mem_append.mp member).elim (monthDigits c) (dayDigits c)
  refine ⟨?_, fun c member => ne_break_of_isDigit (digits c member)⟩
  unfold dateDigits at digits
  unfold isoDigits dateDigits
  obtain ⟨y₁, y₂, y₃, y₄, yearText⟩ := List.length_eq_four.mp yearLength
  obtain ⟨m₁, m₂, monthText⟩ := List.length_eq_two.mp monthLength
  obtain ⟨d₁, d₂, dayText⟩ := List.length_eq_two.mp dayLength
  rw [yearText, monthText, dayText] at digits ⊢
  exact if_pos (List.all_eq_true.mpr digits)

/-- The eight digits of a real date: the serializer writes them, and the parser reads them back
in any zone. -/
theorem formatDate_toIsoDate {text : Text} {days : Int} (real : isoDay text = some days) :
    ∃ digits, formatDate text = .ok digits ∧ Unbroken digits ∧
      ∀ zone, toIsoDate digits zone = some text := by
  obtain ⟨year, month, day, parts, date, -⟩ := isoDay_eq_some.mp real
  obtain ⟨rfl, yearFits, monthFits, dayFits⟩ := isoParts_some parts
  obtain ⟨formatted, unbroken⟩ := formatDate_isoDigits yearFits monthFits dayFits
  exact ⟨dateDigits year month day, formatted, unbroken, fun zone => toIsoDate_date yearFits date⟩

/-! ### The scan of one block -/

/-- A content line without a zone splits at its first colon. -/
theorem splitLine_colon {label left name : Text} (labelled : label = left ++ [':'])
    (noColon : ':' ∉ left) (named : toUpperCase (trim (left.takeWhile (· ≠ ';'))) = name)
    (plain : tzidParam left = none) (value : Text) :
    splitLine (label ++ value) = some ⟨name, none, value⟩ := by
  have whole : label ++ value = left ++ ':' :: value := by
    rw [labelled, List.append_assoc, List.singleton_append]
  have before : (left ++ ':' :: value).takeWhile (· ≠ ':') = left := by
    rw [List.takeWhile_append_of_pos]
    · rw [List.takeWhile_cons_of_neg (by decide), List.append_nil]
    · intro c member
      exact decide_eq_true fun same => noColon (same ▸ member)
  have after : (left ++ ':' :: value).drop (left.length + 1) = value := by
    rw [← List.drop_drop, List.drop_left]
    rfl
  unfold splitLine
  rw [whole, if_pos (List.mem_append_right _ List.mem_cons_self), before]
  dsimp only
  rw [after, named, plain]
  rfl

theorem splitLine_uid (value : Text) :
    splitLine ("UID:".toList ++ value) = some ⟨"UID".toList, none, value⟩ :=
  splitLine_colon (show "UID:".toList = "UID".toList ++ [':'] by decide) (by decide) (by decide)
    (by decide) value

theorem splitLine_dtstamp (value : Text) :
    splitLine ("DTSTAMP:".toList ++ value) = some ⟨"DTSTAMP".toList, none, value⟩ :=
  splitLine_colon (show "DTSTAMP:".toList = "DTSTAMP".toList ++ [':'] by decide) (by decide)
    (by decide) (by decide) value

theorem splitLine_dtstart (value : Text) :
    splitLine ("DTSTART;VALUE=DATE:".toList ++ value) = some ⟨"DTSTART".toList, none, value⟩ :=
  splitLine_colon
    (show "DTSTART;VALUE=DATE:".toList = "DTSTART;VALUE=DATE".toList ++ [':'] by decide)
    (by decide) (by decide) (by decide) value

theorem splitLine_dtend (value : Text) :
    splitLine ("DTEND;VALUE=DATE:".toList ++ value) = some ⟨"DTEND".toList, none, value⟩ :=
  splitLine_colon (show "DTEND;VALUE=DATE:".toList = "DTEND;VALUE=DATE".toList ++ [':'] by decide)
    (by decide) (by decide) (by decide) value

theorem splitLine_summary (value : Text) :
    splitLine ("SUMMARY:".toList ++ value) = some ⟨"SUMMARY".toList, none, value⟩ :=
  splitLine_colon (show "SUMMARY:".toList = "SUMMARY".toList ++ [':'] by decide) (by decide)
    (by decide) (by decide) value

theorem splitLine_prodid (value : Text) :
    splitLine ("PRODID:".toList ++ value) = some ⟨"PRODID".toList, none, value⟩ :=
  splitLine_colon (show "PRODID:".toList = "PRODID".toList ++ [':'] by decide) (by decide)
    (by decide) (by decide) value

/-- A line of another name than the scan looks for changes nothing. -/
theorem scanLine_unnamed {zone : ZoneContext} {state : ParseState} {line name value : Text}
    {tzid : Option Text} (split_ : splitLine line = some ⟨name, tzid, value⟩)
    (apart : name ∉ ["BEGIN".toList, "END".toList, "UID".toList, "DTSTART".toList,
      "DTEND".toList]) : scanLine zone state line = state := by
  simp only [List.mem_cons, List.not_mem_nil, or_false, not_or] at apart
  obtain ⟨notBegin, notEnd, notUid, notStart, notStop⟩ := apart
  unfold scanLine
  rw [split_]
  dsimp only
  rw [if_neg fun begins => notBegin begins.1, if_neg fun ends => notEnd ends.1]
  split
  · exact if_neg fun trusted => trusted.elim notUid fun dates => dates.elim notStart notStop
  · rfl

/-- Inside a block, a collected property without a zone is collected. -/
theorem scanLine_trusted {zone : ZoneContext} {events : List ImportedEvent} {foreign : List Text}
    {fields : VeventFields} {line name value : Text}
    (split_ : splitLine line = some ⟨name, none, value⟩)
    (trusted : name ∈ ["UID".toList, "DTSTART".toList, "DTEND".toList]) :
    scanLine zone ⟨events, foreign, some fields⟩ line =
      ⟨events, foreign, some (fields.collect name value)⟩ := by
  simp only [List.mem_cons, List.not_mem_nil, or_false] at trusted
  have named : name ≠ "BEGIN".toList ∧ name ≠ "END".toList := by
    rcases trusted with rfl | rfl | rfl
    · decide
    · decide
    · decide
  unfold scanLine
  rw [split_]
  dsimp only
  rw [if_neg fun begins => named.1 begins.1, if_neg fun ends => named.2 ends.1]
  exact if_pos trusted

/-- The parser's event of a block the serializer wrote: its UID stays escaped. -/
def CalendarEvent.read (event : CalendarEvent) : ImportedEvent :=
  ⟨String.ofList (escapeText event.uid.toList), event.start, event.stop⟩

/-- An event with a trimmed, single-line UID and real dates in order. -/
structure CalendarEvent.Exportable (event : CalendarEvent) : Prop where
  filled : event.uid ≠ ""
  trimmed : trim event.uid.toList = event.uid.toList
  unbroken : Unbroken event.uid.toList
  dates : ∃ start stop, isoDay event.start = some start ∧ isoDay event.stop = some stop ∧
    start < stop

theorem CalendarEvent.Exportable.toEvent {event : CalendarEvent} (exportable : event.Exportable)
    {start stop : Text} (zone : ZoneContext) (startRead : toIsoDate start zone = some event.start)
    (stopRead : toIsoDate stop zone = some event.stop) :
    Sambung.toEvent ⟨some (escapeText event.uid.toList), some start, some stop⟩ zone =
      some event.read := by
  have filled : event.uid.toList ≠ [] := fun empty =>
    exportable.filled (String.toList_eq_nil_iff.mp empty)
  obtain ⟨nonempty, trimmed⟩ := trim_escapeText exportable.unbroken filled exportable.trimmed
  obtain ⟨first, last, firstReal, lastReal, before⟩ := exportable.dates
  have less := (isoDay_lt_iff firstReal lastReal).mpr before
  have stopFilled : event.stop ≠ [] := by
    intro empty
    rw [empty] at lastReal
    cases lastReal
  unfold Sambung.toEvent
  simp only [Option.bind_eq_bind, Option.bind_some, trimmed, if_neg nonempty, startRead, stopRead]
  rw [if_neg (not_or.mpr ⟨stopFilled, not_le.mpr less⟩)]
  rfl

/-! ### The lines of a calendar -/

/-- A line that stays one line, whatever follows it. -/
structure StandsAlone (line : Text) : Prop where
  filled : line ≠ []
  unbroken : Unbroken line
  opens : OpensLine line

instance (line : Text) : Decidable (OpensLine line) := Option.decidableForallMem line.head?

instance (line : Text) : Decidable (StandsAlone line) :=
  decidable_of_iff (line ≠ [] ∧ Unbroken line ∧ OpensLine line)
    ⟨fun parts => ⟨parts.1, parts.2.1, parts.2.2⟩,
      fun standing => ⟨standing.filled, standing.unbroken, standing.opens⟩⟩

/-- A named line stands wherever its value breaks nowhere. -/
theorem StandsAlone.append {name value : Text} (standing : StandsAlone name)
    (unbroken : Unbroken value) : StandsAlone (name ++ value) := by
  refine ⟨List.append_ne_nil_of_left_ne_nil standing.filled _, ?_, ?_⟩
  · exact fun c member => (List.mem_append.mp member).elim (standing.unbroken c) (unbroken c)
  · obtain ⟨c, rest, rfl⟩ := List.exists_cons_of_ne_nil standing.filled
    exact standing.opens

theorem unbroken_paddedDigits (width n : Nat) : Unbroken (paddedDigits width n) := by
  intro c member
  have digit : c.isDigit := by
    rcases List.mem_append.mp member with zero | digit
    · rw [List.eq_of_mem_replicate zero]
      rfl
    · exact Nat.isDigit_of_mem_toDigits (by decide) (by decide) digit
  constructor
  · rintro rfl
    cases digit
  · rintro rfl
    cases digit

theorem unbroken_formatDateTimeUtc (date : Instant) : Unbroken (formatDateTimeUtc date) := by
  have digits := unbroken_paddedDigits
  have iso : Unbroken (toISOStringSeconds date) := by
    unfold toISOStringSeconds
    simp only [List.forall_mem_append, List.forall_mem_cons]
    refine ⟨⟨⟨⟨⟨?_, by decide, digits _ _⟩, by decide, digits _ _⟩, by decide, digits _ _⟩,
      by decide, digits _ _⟩, by decide, digits _ _⟩
    split
    · exact digits _ _
    · refine List.forall_mem_cons.mpr ⟨?_, digits _ _⟩
      split <;> decide
  unfold formatDateTimeUtc
  refine List.forall_mem_append.mpr ⟨fun c member => iso c (List.mem_of_mem_filter member), ?_⟩
  decide

/-- The block of an event: its lines stand, and the scan reads the event from them. -/
theorem CalendarEvent.Exportable.eventLines {event : CalendarEvent}
    (exportable : event.Exportable) {stamp : Text} (stampUnbroken : Unbroken stamp) :
    ∃ block, Sambung.eventLines stamp event = .ok block ∧ (∀ line ∈ block, StandsAlone line) ∧
      ∀ zone events foreign, block.foldl (scanLine zone) ⟨events, foreign, none⟩ =
        ⟨events ++ [event.read], foreign, none⟩ := by
  obtain ⟨first, last, firstReal, lastReal, -⟩ := exportable.dates
  obtain ⟨start, startFormatted, startUnbroken, startRead⟩ := formatDate_toIsoDate firstReal
  obtain ⟨stop, stopFormatted, stopUnbroken, stopRead⟩ := formatDate_toIsoDate lastReal
  refine ⟨_, by unfold Sambung.eventLines; rw [startFormatted, stopFormatted]; rfl, ?_, ?_⟩
  · simp only [List.forall_mem_cons]
    refine ⟨by decide, StandsAlone.append (by decide) (unbroken_escapeText _),
      StandsAlone.append (by decide) stampUnbroken, StandsAlone.append (by decide) startUnbroken,
      StandsAlone.append (by decide) stopUnbroken, by decide, by decide, by decide, by simp⟩
  · intro zone events foreign
    have begun : scanLine zone ⟨events, foreign, none⟩ "BEGIN:VEVENT".toList =
        ⟨events, foreign, some .empty⟩ := rfl
    have finished : ∀ fields, scanLine zone ⟨events, foreign, some fields⟩ "END:VEVENT".toList =
        ⟨events ++ (Sambung.toEvent fields zone).toList, foreign, none⟩ := fun _ => rfl
    have transparency : ∀ state, scanLine zone state "TRANSP:OPAQUE".toList = state :=
      fun state => scanLine_unnamed (show splitLine "TRANSP:OPAQUE".toList =
        some ⟨"TRANSP".toList, none, "OPAQUE".toList⟩ by decide) (by decide)
    have collected : ((VeventFields.empty.collect "UID".toList
        (escapeText event.uid.toList)).collect "DTSTART".toList start).collect "DTEND".toList stop =
          ⟨some (escapeText event.uid.toList), some start, some stop⟩ := rfl
    simp only [List.foldl_cons, List.foldl_nil]
    rw [begun, scanLine_trusted (splitLine_uid _) (by decide),
      scanLine_unnamed (splitLine_dtstamp _) (by decide),
      scanLine_trusted (splitLine_dtstart _) (by decide),
      scanLine_trusted (splitLine_dtend _) (by decide),
      scanLine_unnamed (splitLine_summary _) (by decide), transparency, finished, collected,
      exportable.toEvent zone (startRead zone) (stopRead zone)]
    rfl

/-- The blocks of the events, one after another. -/
theorem mapM_eventLines {events : List CalendarEvent}
    (exportable : ∀ event ∈ events, event.Exportable) {stamp : Text}
    (stampUnbroken : Unbroken stamp) :
    ∃ blocks, events.mapM (Sambung.eventLines stamp) = .ok blocks ∧
      (∀ line ∈ blocks.flatten, StandsAlone line) ∧
      ∀ zone before foreign, blocks.flatten.foldl (scanLine zone) ⟨before, foreign, none⟩ =
        ⟨before ++ events.map CalendarEvent.read, foreign, none⟩ := by
  induction events with
  | nil =>
    refine ⟨[], rfl, fun _ member => (List.not_mem_nil member).elim, fun _ before _ => ?_⟩
    rw [List.map_nil, List.append_nil]
    rfl
  | cons event events inductionHypothesis =>
    obtain ⟨block, lines, standing, scanned⟩ :=
      (exportable event List.mem_cons_self).eventLines stampUnbroken
    obtain ⟨blocks, rest, restStanding, restScanned⟩ :=
      inductionHypothesis fun other member => exportable other (List.mem_cons_of_mem _ member)
    refine ⟨block :: blocks, ?_, ?_, fun zone before foreign => ?_⟩
    · rw [List.mapM_cons, lines, rest]
      rfl
    · rw [List.flatten_cons]
      exact List.forall_mem_append.mpr ⟨standing, restStanding⟩
    · rw [List.flatten_cons, List.foldl_append, scanned, restScanned, List.map_cons,
        List.append_assoc, List.singleton_append]

/-- What the parser makes of a calendar's content lines. -/
theorem contentLines_read {input : BuildCalendarInput}
    (exportable : ∀ event ∈ input.events, event.Exportable) :
    ∃ lines, contentLines input = .ok lines ∧ (∀ line ∈ lines, StandsAlone line) ∧
      (lines.any fun line => LineReads "BEGIN:VCALENDAR" line) = true ∧
      (lines.any fun line => LineReads "END:VCALENDAR" line) = true ∧
      ∀ zone, lines.foldl (scanLine zone) .initial =
        ⟨input.events.map CalendarEvent.read, [], none⟩ := by
  obtain ⟨blocks, built, standing, scanned⟩ :=
    mapM_eventLines exportable (unbroken_formatDateTimeUtc input.dtstamp)
  refine ⟨_, by unfold contentLines; rw [built]; rfl, ?_, ?_, ?_, fun zone => ?_⟩
  · simp only [List.forall_mem_append, List.forall_mem_cons]
    refine ⟨⟨⟨by decide, by decide, StandsAlone.append (by decide) (unbroken_escapeText _),
      by decide, by decide, by simp⟩, standing⟩, by decide, by simp⟩
  · rw [List.any_append, List.any_append, List.any_cons]
    rfl
  · rw [List.any_append, Bool.or_eq_true]
    exact Or.inr rfl
  · have produced : scanLine zone .initial ("PRODID:".toList ++ escapeText input.prodId.toList) =
        .initial := scanLine_unnamed (splitLine_prodid _) (by decide)
    have opened : scanLine zone .initial "BEGIN:VCALENDAR".toList = .initial := rfl
    have version : scanLine zone .initial "VERSION:2.0".toList = .initial := rfl
    have scale : scanLine zone .initial "CALSCALE:GREGORIAN".toList = .initial := rfl
    have method : scanLine zone .initial "METHOD:PUBLISH".toList = .initial := rfl
    rw [List.foldl_append, List.foldl_append]
    simp only [List.foldl_cons, List.foldl_nil]
    rw [opened, version, produced, scale, method]
    show scanLine zone (List.foldl (scanLine zone) ⟨[], [], none⟩ blocks.flatten) _ = _
    rw [scanned]
    rfl

/-! ### The round trip -/

/-- An event as a feed names it. -/
def CalendarEvent.imported (event : CalendarEvent) : ImportedEvent :=
  ⟨event.uid, event.start, event.stop⟩

/-- The calendar of a list of events: its physical lines hold at most 75 octets, which encode whole
characters, and they unfold to the content lines. The parser reports a healthy feed of exactly the
events if and only if the zone is one it knows and no UID holds a backslash, a semicolon or a comma.
The events are any list with filled, trimmed UIDs on one line and with two days in order; UIDs may
repeat, since the parser keeps them all. -/
theorem export_import_agree_iff (intl : DateTimeFormat) (timeZone : String)
    (input : BuildCalendarInput) (exportable : ∀ event ∈ input.events, event.Exportable) :
    ∃ lines text, contentLines input = .ok lines ∧ buildCalendar input = .ok text ∧
      (∀ line ∈ octetLines (octets text), line.length ≤ 75 ∧ ∃ part, octets part = line) ∧
      unfold text = lines ++ [[]] ∧
      ((∃ foreign, parseCalendar intl text timeZone =
          .ok (input.events.map CalendarEvent.imported) foreign) ↔
        (intl timeZone).isSome ∧
          ∀ event ∈ input.events, ∀ c ∈ event.uid.toList, ¬ Special c) := by
  obtain ⟨lines, built, standing, sawBegin, sawEnd, scanned⟩ := contentLines_read exportable
  have unbroken : ∀ line ∈ lines, Unbroken line :=
    fun line member => (standing line member).unbroken
  have unfolded := unfold_ended unbroken fun line member =>
    ⟨(standing line member).filled, (standing line member).opens⟩
  refine ⟨lines, ended (lines.map foldLine), built, by unfold buildCalendar; rw [built]; rfl,
    octetLines_folded unbroken, unfolded, ?_⟩
  have begins : ((lines ++ [[]]).any fun line => LineReads "BEGIN:VCALENDAR" line) = true := by
    rw [List.any_append, sawBegin]
    rfl
  have ends : ((lines ++ [[]]).any fun line => LineReads "END:VCALENDAR" line) = true := by
    rw [List.any_append, sawEnd]
    rfl
  unfold parseCalendar zoneContext
  cases intl timeZone with
  | none => exact ⟨(fun ⟨_, same⟩ => nomatch same), fun ⟨usable, _⟩ => nomatch usable⟩
  | some formatToParts =>
    dsimp only [Option.map_some]
    rw [unfolded, begins, ends, List.foldl_append, scanned, if_neg (by decide)]
    have read : ∀ event ∈ input.events, event.read = event.imported ↔
        ∀ c ∈ event.uid.toList, ¬ Special c := by
      intro event member
      rw [← escapeText_eq_self (exportable event member).unbroken]
      constructor
      · intro same
        have uid : String.ofList (escapeText event.uid.toList) = event.uid :=
          congrArg ImportedEvent.uid same
        rw [← String.toList_ofList (l := escapeText event.uid.toList), uid]
      · intro same
        unfold CalendarEvent.read CalendarEvent.imported
        rw [same, String.ofList_toList]
    constructor
    · rintro ⟨foreign, same⟩
      refine ⟨rfl, fun event member => (read event member).mp ?_⟩
      exact List.map_inj_left.mp (ParseResult.ok.inj same).1 event member
    · rintro ⟨-, plain⟩
      refine ⟨[], congrArg (ParseResult.ok · []) ?_⟩
      exact List.map_inj_left.mpr fun event member => (read event member).mpr (plain event member)

/-- A clock that knows UTC. -/
def utcClock : DateTimeFormat := fun timeZone =>
  if timeZone = "UTC" then
    some fun instant =>
      let date := civilFromDays (instant / MS_PER_DAY)
      ⟨Nat.toDigits 10 date.year.toNat, paddedDigits 2 date.month.toNat,
        paddedDigits 2 date.day.toNat⟩
  else none

/-- A feed of one stay. -/
def villaFeed (uid : String) : BuildCalendarInput where
  prodId := "-//Sambung//Calendar//EN"
  events := [⟨uid, "2026-08-01".toList, "2026-08-04".toList⟩]
  dtstamp := 0

theorem villaFeed_exportable {uid : String} (filled : uid ≠ "")
    (trimmed : trim uid.toList = uid.toList) (unbroken : Unbroken uid.toList) :
    ∀ event ∈ (villaFeed uid).events, event.Exportable := by
  intro event member
  rw [List.mem_singleton.mp member]
  have arrival : isoDay "2026-08-01".toList = some 20666 := by decide
  have departure : isoDay "2026-08-04".toList = some 20669 := by decide
  exact ⟨filled, trimmed, unbroken, 20666, 20669, arrival, departure, by decide⟩

/-- A UID whose line is folded. -/
def longUid : String :=
  "reservation-é-of-the-house-over-the-rice-terraces-from-the-first-of-september@villa"

/-- A feed of three stays, the second under the long UID. -/
def villaStayFeed : BuildCalendarInput where
  prodId := "-//Sambung//Calendar//EN"
  events := [⟨"stay-é@villa", "2026-08-01".toList, "2026-08-04".toList⟩,
    ⟨longUid, "2026-09-01".toList, "2026-09-02".toList⟩,
    ⟨"stay@villa", "2026-08-04".toList, "2026-08-06".toList⟩]
  dtstamp := 0

/-- A feed of several stays, one of them under a UID too long for a line, comes back as it was. -/
theorem villa_feed_agrees : (∀ event ∈ villaStayFeed.events, event.Exportable) ∧
    75 < (octets ("UID:".toList ++ longUid.toList)).length ∧
      ∃ text, buildCalendar villaStayFeed = .ok text ∧
        ∃ foreign, parseCalendar utcClock text "UTC" =
          .ok [⟨"stay-é@villa", "2026-08-01".toList, "2026-08-04".toList⟩,
            ⟨longUid, "2026-09-01".toList, "2026-09-02".toList⟩,
            ⟨"stay@villa", "2026-08-04".toList, "2026-08-06".toList⟩] foreign := by
  have exportable : ∀ event ∈ villaStayFeed.events, event.Exportable := by
    intro event member
    fin_cases member
    · exact ⟨by decide, by decide, by decide, 20666, 20669, by decide, by decide, by decide⟩
    · exact ⟨by decide +kernel, by decide +kernel, by decide +kernel, 20697, 20698, by decide,
        by decide, by decide⟩
    · exact ⟨by decide, by decide, by decide, 20669, 20671, by decide, by decide, by decide⟩
  obtain ⟨_, text, -, built, -, -, agrees⟩ :=
    export_import_agree_iff utcClock "UTC" villaStayFeed exportable
  refine ⟨exportable, by decide +kernel, text, built, agrees.mpr ⟨rfl, ?_⟩⟩
  have plain : (villaStayFeed.events.all fun event =>
      event.uid.toList.all fun c => ¬ Special c) = true := by decide +kernel
  exact fun event member c inUid => of_decide_eq_true
    (List.all_eq_true.mp (List.all_eq_true.mp plain event member) c inUid)

/-- The parser keeps the backslash the serializer wrote in front of a comma. -/
theorem comma_uid_comes_back_escaped :
    (∀ event ∈ (villaFeed "a,b").events, event.Exportable) ∧
      ((villaFeed "a,b").events.map CalendarEvent.uid).Nodup ∧
      ∃ text, buildCalendar (villaFeed "a,b") = .ok text ∧
        parseCalendar utcClock text "UTC" =
          .ok [⟨"a\\,b", "2026-08-01".toList, "2026-08-04".toList⟩] [] ∧
        ¬ ∃ foreign, parseCalendar utcClock text "UTC" =
          .ok [⟨"a,b", "2026-08-01".toList, "2026-08-04".toList⟩] foreign := by
  have read : (buildCalendar (villaFeed "a,b")).map (parseCalendar utcClock · "UTC") =
      .ok (.ok [⟨"a\\,b", "2026-08-01".toList, "2026-08-04".toList⟩] []) := by decide +kernel
  refine ⟨villaFeed_exportable (by decide) (by decide) (by decide), by decide, ?_⟩
  cases built : buildCalendar (villaFeed "a,b") with
  | error _ =>
    rw [built] at read
    cases read
  | ok text =>
    rw [built] at read
    have escaped := Except.ok.inj read
    refine ⟨text, rfl, escaped, ?_⟩
    rintro ⟨foreign, same⟩
    have events := (ParseResult.ok.inj (escaped.symm.trans same)).1
    exact absurd events (by decide)

end Sambung
