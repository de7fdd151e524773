/-
This file states the import pipeline's iCalendar parser, `ical-parse.ts`: the
unfolding of folded lines, the split of a content line into name, `TZID` and
value, the calendar date of a value in the property's zone, and the one scan over
the lines that lifts the events out.

The scan keeps one open VEVENT at a time and the first value of each of its three
fields; a VEVENT that yields no event is dropped and the rest kept. Whether the
body is whole is judged beside the scan, by two flags over all of its lines.

The regular expressions of the source are functions on lists of characters here,
each beside the expression it stands for. `Intl` is a parameter, a function from
an instant to the parts of its date in a zone, or none where the constructor
throws. The arithmetic of `Date.UTC` is kept as it is, with its reading of
two-digit years and its days that overflow into the next month.
-/

import Sambung.Text

namespace Sambung

/-! ### Lines -/

/-- `body.replace(/\r\n[ \t]/g, '')`. -/
def removeCrlfFolds : Text → Text
  | '\r' :: '\n' :: ' ' :: rest => removeCrlfFolds rest
  | '\r' :: '\n' :: '\t' :: rest => removeCrlfFolds rest
  | c :: rest => c :: removeCrlfFolds rest
  | [] => []

/-- `body.replace(/[\r\n][ \t]/g, '')`. -/
def removeBareFolds : Text → Text
  | '\r' :: ' ' :: rest => removeBareFolds rest
  | '\r' :: '\t' :: rest => removeBareFolds rest
  | '\n' :: ' ' :: rest => removeBareFolds rest
  | '\n' :: '\t' :: rest => removeBareFolds rest
  | c :: rest => c :: removeBareFolds rest
  | [] => []

/-- Puts a character in front of the first line. -/
def consLine (c : Char) : List Text → List Text
  | line :: lines => (c :: line) :: lines
  | [] => [[c]]

/-- `body.split(/\r\n|\r|\n/)`. -/
def splitLines : Text → List Text
  | '\r' :: '\n' :: rest => [] :: splitLines rest
  | '\r' :: rest => [] :: splitLines rest
  | '\n' :: rest => [] :: splitLines rest
  | c :: rest => consLine c (splitLines rest)
  | [] => [[]]

/-- The logical lines of a body: folds undone, then split at every line break. -/
def unfold (body : Text) : List Text := splitLines (removeBareFolds (removeCrlfFolds body))

/-! ### Content lines -/

/-- The quotation mark. -/
def quotationMark : Char := Char.ofNat 0x22

/-- The characters a regular expression's `.` does not match. -/
def isLineTerminator (c : Char) : Bool := [0x0A, 0x0D, 0x2028, 0x2029].contains c.toNat

/-- `/;TZID=([^;:]+)/i.exec(left)?.[1]`. -/
def tzidParam : Text → Option Text
  | [] => none
  | c :: rest =>
    let zone := (rest.drop 5).takeWhile fun c => c ≠ ';' && c ≠ ':'
    if c = ';' ∧ (rest.take 5).map Char.toUpper = "TZID=".toList ∧ zone ≠ [] then some zone
    else tzidParam rest

/-- `text.replace(/^"(.*)"$/, '$1')`. -/
def unquote (text : Text) : Text :=
  match text with
  | first :: rest =>
    if first = quotationMark ∧ rest.getLast? = some quotationMark ∧
        ¬ rest.dropLast.any isLineTerminator then
      rest.dropLast
    else text
  | [] => []

structure ContentLine where
  name : Text
  tzid : Option Text
  value : Text
  deriving DecidableEq, Repr

/-- A content line's upper-cased name, its `TZID` parameter and its raw value, or `none`
where the line has no colon. -/
def splitLine (line : Text) : Option ContentLine :=
  if ':' ∈ line then
    let left := line.takeWhile (· ≠ ':')
    let tzid := (tzidParam left).map fun raw => trim (unquote (trim raw))
    some {
      name := toUpperCase (trim (left.takeWhile (· ≠ ';')))
      tzid := tzid.filter (· ≠ [])
      value := line.drop (left.length + 1) }
  else none

/-! ### Dates -/

/-- The parts `Intl.DateTimeFormat.formatToParts` gives an instant. -/
structure DateParts where
  year : Text
  month : Text
  day : Text
  deriving DecidableEq, Repr

/-- `new Intl.DateTimeFormat('en-US', { timeZone, ... })`: the parts of each instant's date
in the zone, or `none` where the constructor throws. -/
abbrev DateTimeFormat := String → Option (Instant → DateParts)

structure ZoneContext where
  timeZone : String
  toLocalDate : Instant → Text

def zoneContext (intl : DateTimeFormat) (timeZone : String) : Option ZoneContext :=
  (intl timeZone).map fun formatToParts =>
    { timeZone
      toLocalDate := fun instant =>
        let parts := formatToParts instant
        padStart 4 parts.year ++ '-' :: parts.month ++ '-' :: parts.day }

/-- The time of day after an eight-digit date, where the whole value is a UTC date-time:
`/^\s*\d{8}T(\d{2})(\d{2})(\d{2})Z\s*$/i` behind its date. -/
def utcTime (rest : Text) : Option (Nat × Nat × Nat) :=
  match rest with
  | t :: rest =>
    if t.toUpper = 'T' then do
      let (hh, rest) ← leadingDigits 2 rest
      let (mi, rest) ← leadingDigits 2 rest
      let (ss, rest) ← leadingDigits 2 rest
      match rest with
      | z :: rest =>
        if z.toUpper = 'Z' ∧ rest.all isWhiteSpace then some (number hh, number mi, number ss)
        else none
      | [] => none
    else none
  | [] => none

/-- The calendar date an iCalendar DATE or DATE-TIME value falls on, as `YYYY-MM-DD`. The round trip
through `setUTCFullYear` brings a day the calendar lacks back as another. -/
def toIsoDate (value : Text) (zone : ZoneContext) : Option Text := do
  let (y, rest) ← leadingDigits 4 (value.dropWhile isWhiteSpace)
  let (mo, rest) ← leadingDigits 2 rest
  let (d, rest) ← leadingDigits 2 rest
  let midnight := makeDay (number y) (number mo - 1) (number d)
  if civilFromDays midnight ≠ ⟨number y, number mo, number d⟩ then none
  else
    match utcTime rest with
    | none => some (y ++ '-' :: mo ++ '-' :: d)
    | some (hh, mi, ss) =>
      if hh > 23 ∨ mi > 59 ∨ ss > 60 then none
      else
        let local_ := zone.toLocalDate
          (midnight * MS_PER_DAY + ((hh * 60 + mi) * 60 + ss : Nat) * 1000)
        if (isoParts local_).isSome then some local_ else none

/-- The year `Date.UTC` reads: 0 to 99 name the years 1900 to 1999. -/
def dateUtcYear (year : Nat) : Int := if year ≤ 99 then 1900 + year else year

/-- `date.toISOString().slice(0, 10)`: outside the years 0 to 9999 the year has a sign and
six digits, and the slice cuts the day off. -/
def toISOStringDay (days : Int) : Text :=
  let date := civilFromDays days
  if 0 ≤ date.year ∧ date.year ≤ 9999 then isoText date
  else
    ((if date.year < 0 then '-' else '+') :: paddedDigits 6 date.year.natAbs ++
      '-' :: paddedDigits 2 date.month.toNat ++ '-' :: paddedDigits 2 date.day.toNat).take 10

/-- `YYYY-MM-DD` plus one day. The text comes from `toIsoDate`, so it has its three parts. -/
def addOneDay (iso : Text) : Text :=
  match isoParts iso with
  | some (y, m, d) => toISOStringDay (makeDay (dateUtcYear y) (m - 1) (d + 1))
  | none => []

/-! ### Events -/

/-- One busy span lifted from a feed. `stop` is the source's `end`, exclusive. -/
structure ImportedEvent where
  uid : String
  start : Text
  stop : Text
  deriving DecidableEq, Repr

/-- The `Map` of a VEVENT's collected fields. -/
structure VeventFields where
  uid : Option Text
  dtstart : Option Text
  dtend : Option Text
  deriving DecidableEq, Repr

def VeventFields.empty : VeventFields := ⟨none, none, none⟩

/-- `if (!current.has(name)) current.set(name, value)`: the first occurrence wins. -/
def VeventFields.collect (fields : VeventFields) (name value : Text) : VeventFields :=
  if name = "UID".toList then { fields with uid := fields.uid.or (some value) }
  else if name = "DTSTART".toList then { fields with dtstart := fields.dtstart.or (some value) }
  else { fields with dtend := fields.dtend.or (some value) }

/-- A validated event from a VEVENT's fields, or `none`. -/
def toEvent (fields : VeventFields) (zone : ZoneContext) : Option ImportedEvent := do
  let uid := trim (← fields.uid)
  if uid = [] then none
  else
    let start ← toIsoDate (← fields.dtstart) zone
    let stop ← match fields.dtend with
      | none => some (addOneDay start)
      | some rawEnd => toIsoDate rawEnd zone
    if stop = [] ∨ stop ≤ start then none
    else some { uid := String.ofList uid, start, stop }

/-- The scan's variables. -/
structure ParseState where
  events : List ImportedEvent
  foreign : List Text
  current : Option VeventFields

def ParseState.initial : ParseState := ⟨[], [], none⟩

/-- `BEGIN:VEVENT`. -/
def ContentLine.beginsVevent (line : ContentLine) : Prop :=
  line.name = "BEGIN".toList ∧ toUpperCase (trim line.value) = "VEVENT".toList

/-- `END:VEVENT`. -/
def ContentLine.endsVevent (line : ContentLine) : Prop :=
  line.name = "END".toList ∧ toUpperCase (trim line.value) = "VEVENT".toList

/-- One of the three properties the parser collects. -/
def ContentLine.trusted (line : ContentLine) : Prop :=
  line.name = "UID".toList ∨ line.name = "DTSTART".toList ∨ line.name = "DTEND".toList

instance (line : ContentLine) : Decidable line.beginsVevent := by
  unfold ContentLine.beginsVevent; infer_instance

instance (line : ContentLine) : Decidable line.endsVevent := by
  unfold ContentLine.endsVevent; infer_instance

instance (line : ContentLine) : Decidable line.trusted := by
  unfold ContentLine.trusted; infer_instance

/-- The `Set` with a foreign zone added. -/
def addForeign (zone : ZoneContext) (tzid : Option Text) (foreign : List Text) : List Text :=
  match tzid with
  | some tzid =>
    if tzid ≠ zone.timeZone.toList ∧ tzid ∉ foreign then foreign ++ [tzid] else foreign
  | none => foreign

/-- One turn of the scan. -/
def scanLine (zone : ZoneContext) (state : ParseState) (line : Text) : ParseState :=
  match splitLine line with
  | none => state
  | some parsed =>
    if parsed.beginsVevent then { state with current := some .empty }
    else if parsed.endsVevent then
      match state.current with
      | none => state
      | some fields =>
        { state with events := state.events ++ (toEvent fields zone).toList, current := none }
    else
      match state.current with
      | some fields =>
        if parsed.trusted then
          { state with
            foreign := addForeign zone parsed.tzid state.foreign
            current := some (fields.collect parsed.name parsed.value) }
        else state
      | none => state

/-- The outcome of a parse. -/
inductive ParseResult where
  | ok (events : List ImportedEvent) (foreignTimeZones : List Text)
  | failed (error : String)
  deriving DecidableEq, Repr

/-- A line that reads as `word` once trimmed and upper-cased. -/
abbrev LineReads (word : String) (line : Text) : Prop := toUpperCase (trim line) = word.toList

/-- `parseCalendar(body, timeZone)`. The two flags are set by an `if ... else if`; the two words
differ, so the `else` decides nothing. -/
def parseCalendar (intl : DateTimeFormat) (body : Text) (timeZone : String) : ParseResult :=
  match zoneContext intl timeZone with
  | none => .failed ("Unusable property time zone: " ++ timeZone)
  | some zone =>
    let lines := unfold body
    let sawBegin := lines.any fun line => LineReads "BEGIN:VCALENDAR" line
    let sawEnd := lines.any fun line => LineReads "END:VCALENDAR" line
    if ¬ sawBegin ∨ ¬ sawEnd then .failed "Not a terminated iCalendar (VCALENDAR) feed"
    else
      let final := lines.foldl (scanLine zone) .initial
      .ok final.events final.foreign

end Sambung
