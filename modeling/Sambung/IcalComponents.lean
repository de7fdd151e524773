/-
This file proves whose properties the parser's events carry, in a calendar of
properly nested components.

The scan keeps one set of fields and knows only the ends of VEVENTs. What it holds
at a VEVENT's `END` are the first properties anywhere inside, those of nested
components included, and nothing where another VEVENT was closed inside. So an
event carries its own properties exactly where no nested component's come first.

A body is an inductive type, lines and components in order and to any depth, and
both readings are recursions over it: the fields that belong to a component
directly, and those found anywhere inside. `Contents.scan` is the simulation, by
induction over the contents: from any fields held, the scan emits the events of
the VEVENTs in the order of their ends and holds on to what came first. Which
lines delimit is settled once, for names in any case and with blanks around them.
-/

import Sambung.IcalDates

namespace Sambung

/-! ### Components -/

/-- What stands inside a component: lines and components, in order. -/
inductive Contents where
  | nil
  | line (text : Text) (rest : Contents)
  | component (opening : Text) (inside : Contents) (closing : Text) (rest : Contents)
  deriving DecidableEq

def Contents.lines : Contents → List Text
  | .nil => []
  | .line text rest => text :: rest.lines
  | .component opening inside closing rest => opening :: (inside.lines ++ closing :: rest.lines)

/-- The lines that stand directly inside. -/
def Contents.direct : Contents → List Text
  | .nil => []
  | .line text rest => text :: rest.direct
  | .component _ _ _ rest => rest.direct

/-- The line is the `BEGIN` or `END`, as `keyword` says, of a component of the name. -/
def Delimits (keyword : String) (name : Text) (line : Text) : Prop :=
  ∃ parsed, splitLine line = some parsed ∧ parsed.name = keyword.toList ∧
    toUpperCase (trim parsed.value) = name

/-- Every component is closed under the name it was opened with. -/
def Contents.WellNested : Contents → Prop
  | .nil => True
  | .line text rest =>
    (∀ name, ¬ Delimits "BEGIN" name text ∧ ¬ Delimits "END" name text) ∧ rest.WellNested
  | .component opening inside closing rest =>
    (∃ name, Delimits "BEGIN" name opening ∧ Delimits "END" name closing) ∧
      inside.WellNested ∧ rest.WellNested

/-- The line opens a VEVENT. -/
abbrev OpensVevent (line : Text) : Prop := ∃ parsed ∈ splitLine line, parsed.beginsVevent

/-- A VEVENT of a body: the lines up to its `END`, what stands inside it, and its `END`. -/
structure Vevent where
  upTo : List Text
  inside : Contents
  closing : Text
  deriving DecidableEq

/-- The VEVENTs at every depth, in the order of their `END`s. -/
def Contents.vevents (before : List Text) : Contents → List Vevent
  | .nil => []
  | .line text rest => rest.vevents (before ++ [text])
  | .component opening inside closing rest =>
    inside.vevents (before ++ [opening]) ++
      ((if OpensVevent opening then [⟨before ++ opening :: inside.lines, inside, closing⟩]
        else []) ++
        rest.vevents (before ++ opening :: (inside.lines ++ [closing])))

def Contents.hasVevent : Contents → Bool
  | .nil => false
  | .line _ rest => rest.hasVevent
  | .component opening inside _ rest =>
    decide (OpensVevent opening) || inside.hasVevent || rest.hasVevent

/-! ### First properties -/

/-- The value of a property on a line, where the line is one of that property. -/
def valueOn (name : String) (line : Text) : Option Text :=
  (splitLine line).bind fun parsed =>
    if parsed.name = name.toList then some parsed.value else none

/-- The first UID, DTSTART and DTEND of lines. -/
def firstFields (lines : List Text) : VeventFields where
  uid := lines.findSome? (valueOn "UID")
  dtstart := lines.findSome? (valueOn "DTSTART")
  dtend := lines.findSome? (valueOn "DTEND")

/-- The first properties that belong directly to a component. -/
def Contents.own (inside : Contents) : VeventFields := firstFields inside.direct

/-- The first properties inside a component, whichever component they belong to. -/
def Contents.anywhere (inside : Contents) : VeventFields := firstFields inside.lines

/-- No nested component changes the event: a VEVENT inside stands in none that is usable, and
the properties that come first, nested ones among them, give the event the own ones give. -/
def Contents.Unmixed (zone : ZoneContext) (inside : Contents) : Prop :=
  if inside.hasVevent then toEvent inside.own zone = none
  else toEvent inside.anywhere zone = toEvent inside.own zone

/-- The fields held, and where one is missing that of the lines that follow. -/
def VeventFields.followedBy (fields later : VeventFields) : VeventFields :=
  ⟨fields.uid.or later.uid, fields.dtstart.or later.dtstart, fields.dtend.or later.dtend⟩

theorem VeventFields.empty_followedBy (later : VeventFields) :
    VeventFields.empty.followedBy later = later := rfl

theorem VeventFields.followedBy_empty (fields : VeventFields) :
    fields.followedBy .empty = fields := by
  obtain ⟨uid, dtstart, dtend⟩ := fields
  simp [VeventFields.followedBy, VeventFields.empty]

theorem VeventFields.followedBy_assoc (first second third : VeventFields) :
    (first.followedBy second).followedBy third = first.followedBy (second.followedBy third) := by
  simp only [VeventFields.followedBy, Option.or_assoc]

theorem firstFields_append (first second : List Text) :
    firstFields (first ++ second) = (firstFields first).followedBy (firstFields second) := by
  simp only [firstFields, VeventFields.followedBy, List.findSome?_append]

theorem firstFields_cons (line : Text) (lines : List Text) :
    firstFields (line :: lines) = (firstFields [line]).followedBy (firstFields lines) :=
  firstFields_append [line] lines

/-- A line of none of the three properties. -/
theorem firstFields_untrusted {line : Text}
    (untrusted : ∀ parsed, splitLine line = some parsed → ¬ parsed.trusted) :
    firstFields [line] = .empty := by
  have none_of : ∀ name, (∀ parsed, splitLine line = some parsed → parsed.name ≠ name.toList) →
      [line].findSome? (valueOn name) = none := by
    intro name other
    rw [List.findSome?_singleton, valueOn]
    cases split : splitLine line with
    | none => rfl
    | some parsed => exact if_neg (other parsed split)
  unfold firstFields VeventFields.empty
  rw [none_of "UID" fun parsed split named => untrusted parsed split (Or.inl named),
    none_of "DTSTART" fun parsed split named => untrusted parsed split (Or.inr (Or.inl named)),
    none_of "DTEND" fun parsed split named => untrusted parsed split (Or.inr (Or.inr named))]

/-- Collecting a trusted line keeps the first occurrence. -/
theorem collect_eq {line : Text} {parsed : ContentLine} (split : splitLine line = some parsed)
    (trusted : parsed.trusted) (fields : VeventFields) :
    fields.collect parsed.name parsed.value = fields.followedBy (firstFields [line]) := by
  have value : ∀ name : String, [line].findSome? (valueOn name) =
      if parsed.name = name.toList then some parsed.value else none := by
    intro name
    rw [List.findSome?_singleton, valueOn, split]
    rfl
  unfold VeventFields.collect VeventFields.followedBy firstFields
  rw [value, value, value]
  rcases trusted with named | named | named
  · rw [named]
    simp
  · rw [named]
    simp
  · rw [named]
    simp

/-! ### One line of the scan -/

section Scan

variable (zone : ZoneContext) {line : Text}

/-- The line closes a VEVENT. -/
abbrev ClosesVevent (line : Text) : Prop := ∃ parsed ∈ splitLine line, parsed.endsVevent

theorem not_begins_of_ends {parsed : ContentLine} (ends : parsed.endsVevent) :
    ¬ parsed.beginsVevent := by
  intro begins
  have clash : "BEGIN".toList = "END".toList := begins.1.symm.trans ends.1
  exact absurd clash (by decide)

theorem scanLine_opens (opens : OpensVevent line) (state : ParseState) :
    (scanLine zone state line).events = state.events ∧
      (scanLine zone state line).current = some .empty := by
  obtain ⟨parsed, split, begins⟩ := opens
  unfold scanLine
  rw [Option.mem_def.mp split]
  dsimp only
  rw [if_pos begins]
  exact ⟨rfl, rfl⟩

theorem scanLine_closes (closes : ClosesVevent line) (state : ParseState) :
    (scanLine zone state line).events =
        state.events ++ (state.current.bind (toEvent · zone)).toList ∧
      (scanLine zone state line).current = none := by
  obtain ⟨parsed, split, ends⟩ := closes
  unfold scanLine
  rw [Option.mem_def.mp split]
  dsimp only
  rw [if_neg (not_begins_of_ends ends), if_pos ends]
  cases current : state.current with
  | none => exact ⟨(List.append_nil _).symm, current⟩
  | some fields => exact ⟨rfl, rfl⟩

/-- A line that neither opens nor closes a VEVENT adds its property, if it has one, to the
fields held. -/
theorem scanLine_plain (notOpens : ¬ OpensVevent line) (notCloses : ¬ ClosesVevent line)
    (state : ParseState) :
    (scanLine zone state line).events = state.events ∧
      (scanLine zone state line).current =
        state.current.map fun fields => fields.followedBy (firstFields [line]) := by
  have kept : (∀ parsed, splitLine line = some parsed → ¬ parsed.trusted) →
      (state.current.map fun fields => fields.followedBy (firstFields [line])) =
        state.current := by
    intro untrusted
    rw [firstFields_untrusted untrusted]
    simp only [VeventFields.followedBy_empty, Option.map_id']
  unfold scanLine
  cases split : splitLine line with
  | none =>
    refine ⟨rfl, (kept fun parsed found => ?_).symm⟩
    rw [split] at found
    cases found
  | some parsed =>
    dsimp only
    rw [if_neg fun begins => notOpens ⟨parsed, split, begins⟩,
      if_neg fun ends => notCloses ⟨parsed, split, ends⟩]
    cases current : state.current with
    | none => exact ⟨rfl, current⟩
    | some fields =>
      dsimp only
      by_cases trusted : parsed.trusted
      · rw [if_pos trusted, collect_eq split trusted]
        exact ⟨rfl, rfl⟩
      · rw [if_neg trusted]
        refine ⟨rfl, ?_⟩
        rw [← current]
        refine (kept fun other found => ?_).symm
        rw [split] at found
        cases found
        exact trusted

/-! ### The delimiters -/

theorem Delimits.untrusted {keyword : String} {name : Text} (delimits : Delimits keyword name line)
    (other : keyword.toList ∉ ["UID".toList, "DTSTART".toList, "DTEND".toList]) :
    firstFields [line] = .empty := by
  obtain ⟨parsed, split, named, -⟩ := delimits
  refine firstFields_untrusted fun found same => ?_
  rw [split] at same
  cases same
  unfold ContentLine.trusted
  rw [named]
  simpa using other

theorem Delimits.opensVevent_iff {name : Text} (delimits : Delimits "BEGIN" name line) :
    OpensVevent line ↔ name = "VEVENT".toList := by
  obtain ⟨parsed, split, named, rfl⟩ := delimits
  constructor
  · rintro ⟨found, same, begins⟩
    rw [Option.mem_def, split] at same
    cases same
    exact begins.2
  · exact fun vevent => ⟨parsed, split, named, vevent⟩

theorem Delimits.closesVevent_iff {name : Text} (delimits : Delimits "END" name line) :
    ClosesVevent line ↔ name = "VEVENT".toList := by
  obtain ⟨parsed, split, named, rfl⟩ := delimits
  constructor
  · rintro ⟨found, same, ends⟩
    rw [Option.mem_def, split] at same
    cases same
    exact ends.2
  · exact fun vevent => ⟨parsed, split, named, vevent⟩

theorem OpensVevent.delimits (opens : OpensVevent line) :
    Delimits "BEGIN" "VEVENT".toList line :=
  let ⟨parsed, split, named, vevent⟩ := opens
  ⟨parsed, split, named, vevent⟩

theorem ClosesVevent.delimits (closes : ClosesVevent line) :
    Delimits "END" "VEVENT".toList line :=
  let ⟨parsed, split, named, vevent⟩ := closes
  ⟨parsed, split, named, vevent⟩

theorem Delimits.not_closes {name : Text} (delimits : Delimits "BEGIN" name line) :
    ¬ ClosesVevent line := by
  rintro ⟨found, same, ends⟩
  obtain ⟨parsed, split, named, -⟩ := delimits
  rw [Option.mem_def, split] at same
  cases same
  have clash : "BEGIN".toList = "END".toList := named.symm.trans ends.1
  exact absurd clash (by decide)

theorem Delimits.not_opens {name : Text} (delimits : Delimits "END" name line) :
    ¬ OpensVevent line := by
  rintro ⟨found, same, begins⟩
  obtain ⟨parsed, split, named, -⟩ := delimits
  rw [Option.mem_def, split] at same
  cases same
  exact not_begins_of_ends ⟨named, begins.2⟩ begins

end Scan

/-! ### The scan of a component -/

/-- The event the scan emits at the `END` of a VEVENT. -/
def Contents.emitted (zone : ZoneContext) (inside : Contents) : Option ImportedEvent :=
  if inside.hasVevent then none else toEvent inside.anywhere zone

theorem Contents.unmixed_iff (zone : ZoneContext) (inside : Contents) :
    inside.Unmixed zone ↔ inside.emitted zone = toEvent inside.own zone := by
  unfold Contents.Unmixed Contents.emitted
  by_cases nested : inside.hasVevent
  · rw [if_pos nested, if_pos nested]
    exact eq_comm
  · rw [if_neg nested, if_neg nested]

/-- The scan over what stands inside a component: it holds on to fields while no VEVENT ends,
and adds to them what comes first anywhere. -/
theorem Contents.scan {contents : Contents} (nested : contents.WellNested) (zone : ZoneContext)
    (state : ParseState) (before : List Text) :
    (contents.lines.foldl (scanLine zone) state).current =
        (if contents.hasVevent then none
          else state.current.map fun fields => fields.followedBy (firstFields contents.lines)) ∧
      (contents.lines.foldl (scanLine zone) state).events =
        state.events ++ (contents.vevents before).filterMap fun vevent =>
          vevent.inside.emitted zone := by
  induction contents generalizing state before with
  | nil =>
    refine ⟨?_, (List.append_nil _).symm⟩
    show state.current = state.current.map fun fields => fields.followedBy .empty
    simp only [VeventFields.followedBy_empty, Option.map_id']
  | line text rest inductionHypothesis =>
    obtain ⟨plain, restNested⟩ := nested
    obtain ⟨events, current⟩ := scanLine_plain zone
      (fun opens => (plain _).1 opens.delimits) (fun closes => (plain _).2 closes.delimits) state
    obtain ⟨restCurrent, restEvents⟩ := inductionHypothesis restNested (scanLine zone state text)
      (before ++ [text])
    rw [events] at restEvents
    refine ⟨restCurrent.trans ?_, restEvents⟩
    show (if rest.hasVevent then none else _) = (if rest.hasVevent then none else _)
    by_cases deeper : rest.hasVevent
    · rw [if_pos deeper, if_pos deeper]
    · rw [if_neg deeper, if_neg deeper, current, Option.map_map]
      congr 1
      funext fields
      show (fields.followedBy (firstFields [text])).followedBy _ = _
      rw [VeventFields.followedBy_assoc, ← firstFields_cons]
      rfl
  | component opening inside closing rest insideScan restScan =>
    obtain ⟨⟨name, opens, closes⟩, insideNested, restNested⟩ := nested
    rw [Contents.lines, List.foldl_cons, List.foldl_append, List.foldl_cons]
    obtain ⟨insideCurrent, insideEvents⟩ := insideScan insideNested (scanLine zone state opening)
      (before ++ [opening])
    generalize inside.lines.foldl (scanLine zone) (scanLine zone state opening) = atEnd at *
    obtain ⟨restCurrent, restEvents⟩ := restScan restNested (scanLine zone atEnd closing)
      (before ++ opening :: (inside.lines ++ [closing]))
    have untrusted : firstFields (opening :: (inside.lines ++ closing :: rest.lines)) =
        (firstFields inside.lines).followedBy (firstFields rest.lines) := by
      rw [firstFields_cons, opens.untrusted (by decide), VeventFields.empty_followedBy,
        firstFields_append, firstFields_cons, closes.untrusted (by decide),
        VeventFields.empty_followedBy]
    rw [restCurrent, restEvents, untrusted, Contents.hasVevent, Contents.vevents,
      List.filterMap_append, List.filterMap_append]
    by_cases vevent : OpensVevent opening
    · obtain ⟨events, current⟩ := scanLine_opens zone vevent state
      obtain ⟨endEvents, endCurrent⟩ := scanLine_closes zone
        (closes.closesVevent_iff.mpr (opens.opensVevent_iff.mp vevent)) atEnd
      rw [current, Option.map_some, VeventFields.empty_followedBy] at insideCurrent
      rw [endCurrent, endEvents, insideEvents, events, insideCurrent, decide_eq_true vevent,
        Bool.true_or, Bool.true_or, if_pos rfl, if_pos vevent, Option.map_none, ite_self]
      refine ⟨rfl, ?_⟩
      have emitted : (Option.bind (if inside.hasVevent then none
          else some (firstFields inside.lines)) (toEvent · zone)).toList =
          List.filterMap (fun vevent : Vevent => vevent.inside.emitted zone)
            [⟨before ++ opening :: inside.lines, inside, closing⟩] := by
        have one : List.filterMap (fun vevent : Vevent => vevent.inside.emitted zone)
            [⟨before ++ opening :: inside.lines, inside, closing⟩] =
              (inside.emitted zone).toList := by
          rw [List.filterMap_cons, List.filterMap_nil]
          cases inside.emitted zone
          · rfl
          · rfl
        rw [one, Contents.emitted]
        by_cases deeper : inside.hasVevent
        · rw [if_pos deeper, if_pos deeper]
          rfl
        · rw [if_neg deeper, if_neg deeper]
          rfl
      rw [emitted, List.append_assoc, List.append_assoc]
    · obtain ⟨events, current⟩ := scanLine_plain zone vevent opens.not_closes state
      obtain ⟨endEvents, endCurrent⟩ := scanLine_plain zone closes.not_opens
        (fun ends => vevent (opens.opensVevent_iff.mpr (closes.closesVevent_iff.mp ends))) atEnd
      rw [opens.untrusted (by decide)] at current
      rw [closes.untrusted (by decide)] at endCurrent
      simp only [VeventFields.followedBy_empty, Option.map_id'] at current endCurrent
      rw [endCurrent, endEvents, insideCurrent, insideEvents, events, current,
        decide_eq_false vevent, Bool.false_or, if_neg vevent]
      refine ⟨?_, by rw [List.filterMap_nil, List.nil_append, List.append_assoc]⟩
      cases inside.hasVevent with
      | true =>
        rw [if_pos rfl, Bool.true_or, if_pos rfl, Option.map_none, ite_self]
      | false =>
        rw [if_neg Bool.false_ne_true, Bool.false_or, Option.map_map]
        congr 2
        funext fields
        exact VeventFields.followedBy_assoc fields _ _

/-- A VEVENT of a body stands between its `BEGIN` and its `END`. -/
theorem Contents.mem_vevents {contents : Contents} (nested : contents.WellNested)
    {before : List Text} {vevent : Vevent} (member : vevent ∈ contents.vevents before) :
    ∃ earlier opening, vevent.upTo = earlier ++ opening :: vevent.inside.lines ∧
      OpensVevent opening ∧ ClosesVevent vevent.closing ∧ vevent.inside.WellNested := by
  induction contents generalizing before with
  | nil => cases member
  | line text rest inductionHypothesis => exact inductionHypothesis nested.2 member
  | component opening inside closing rest insideMember restMember =>
    obtain ⟨⟨name, opens, closes⟩, insideNested, restNested⟩ := nested
    rw [Contents.vevents, List.mem_append, List.mem_append] at member
    rcases member with deeper | own | later
    · exact insideMember insideNested deeper
    · by_cases vevent : OpensVevent opening
      · rw [if_pos vevent, List.mem_singleton] at own
        rw [own]
        exact ⟨before, opening, rfl, vevent,
          closes.closesVevent_iff.mpr (opens.opensVevent_iff.mp vevent), insideNested⟩
      · rw [if_neg vevent] at own
        cases own
    · exact restMember restNested later

/-- At a VEVENT's `END` the scan emits what came first inside. -/
theorem Contents.scan_vevent {contents : Contents} (nested : contents.WellNested)
    (zone : ZoneContext) {vevent : Vevent} (member : vevent ∈ contents.vevents []) :
    ((vevent.upTo ++ [vevent.closing]).foldl (scanLine zone) .initial).events =
      (vevent.upTo.foldl (scanLine zone) .initial).events ++
        (vevent.inside.emitted zone).toList := by
  obtain ⟨earlier, opening, upTo, opens, closes, insideNested⟩ := contents.mem_vevents nested member
  rw [List.foldl_append, List.foldl_cons, List.foldl_nil, (scanLine_closes zone closes _).1]
  congr 2
  rw [upTo, List.foldl_append, List.foldl_cons]
  rw [(Contents.scan insideNested zone _ []).1, (scanLine_opens zone opens _).2, Contents.emitted]
  by_cases deeper : vevent.inside.hasVevent
  · rw [if_pos deeper, if_pos deeper]
    rfl
  · rw [if_neg deeper, if_neg deeper]
    rfl

/-! ### Own properties -/

/-- Every VEVENT's event carries the VEVENT's own properties exactly where no nested component
changes one, and then a body's events are those of its VEVENTs in order. The body is any whose
components are properly nested, to any depth and with VEVENTs inside of others; whether a nested
component changes an event is said by comparing two readings of its lines, of which neither is the
scan. -/
theorem ownProperties_iff (zone : ZoneContext) {contents : Contents}
    (nested : contents.WellNested) :
    ((∀ vevent ∈ contents.vevents [],
        ((vevent.upTo ++ [vevent.closing]).foldl (scanLine zone) .initial).events =
          (vevent.upTo.foldl (scanLine zone) .initial).events ++
            (toEvent vevent.inside.own zone).toList) ↔
      ∀ vevent ∈ contents.vevents [], vevent.inside.Unmixed zone) ∧
    ((∀ vevent ∈ contents.vevents [], vevent.inside.Unmixed zone) →
      ∀ intl body timeZone events foreign, zoneContext intl timeZone = some zone →
        unfold body = contents.lines →
        parseCalendar intl body timeZone = .ok events foreign →
        events = (contents.vevents []).filterMap fun vevent =>
          toEvent vevent.inside.own zone) := by
  constructor
  · refine forall₂_congr fun vevent member => ?_
    rw [Contents.scan_vevent nested zone member, List.append_cancel_left_eq,
      Contents.unmixed_iff]
    refine ⟨fun same => Option.ext fun event => ?_, fun same => by rw [same]⟩
    rw [← Option.mem_toList, same, Option.mem_toList]
  · intro unmixed intl body timeZone events foreign made unfolded parsed
    obtain ⟨zone', made', rfl⟩ := parseCalendar_ok parsed
    obtain rfl := Option.some.inj (made.symm.trans made')
    rw [unfolded, (Contents.scan nested zone .initial []).2]
    refine List.filterMap_congr fun vevent member => ?_
    exact (Contents.unmixed_iff zone vevent.inside).mp (unmixed vevent member)

/-! ### An alarm -/

/-- A stay's properties. -/
def stayLines (rest : Contents) : Contents :=
  .line "UID:stay".toList (.line "DTSTART:20260801".toList (.line "DTEND:20260803".toList rest))

/-- An alarm with a UID of its own. -/
def alarm (rest : Contents) : Contents :=
  .component "BEGIN:VALARM".toList (.line "UID:alarm".toList .nil) "END:VALARM".toList rest

/-- A calendar of one VEVENT, the last line break included. -/
def calendarOf (inside : Contents) : Contents :=
  .component "BEGIN:VCALENDAR".toList
    (.component "BEGIN:VEVENT".toList inside "END:VEVENT".toList .nil) "END:VCALENDAR".toList
    (.line [] .nil)

/-- A line of another property delimits nothing. -/
theorem not_delimits {line : Text}
    (other : ∀ parsed, splitLine line = some parsed →
      parsed.name ≠ "BEGIN".toList ∧ parsed.name ≠ "END".toList) (name : Text) :
    ¬ Delimits "BEGIN" name line ∧ ¬ Delimits "END" name line := by
  constructor
  · rintro ⟨parsed, split, named, -⟩
    exact (other parsed split).1 named
  · rintro ⟨parsed, split, named, -⟩
    exact (other parsed split).2 named

theorem nil_wellNested : Contents.nil.WellNested := trivial

theorem stayLines_wellNested {rest : Contents} (nested : rest.WellNested) :
    (stayLines rest).WellNested := by
  refine ⟨not_delimits fun parsed split => ?_, not_delimits fun parsed split => ?_,
    not_delimits fun parsed split => ?_, nested⟩
  · rw [show splitLine _ = some ⟨"UID".toList, none, "stay".toList⟩ by decide +kernel] at split
    cases split
    decide
  · rw [show splitLine _ = some ⟨"DTSTART".toList, none, "20260801".toList⟩ by
      decide +kernel] at split
    cases split
    decide
  · rw [show splitLine _ = some ⟨"DTEND".toList, none, "20260803".toList⟩ by
      decide +kernel] at split
    cases split
    decide

theorem alarm_wellNested {rest : Contents} (nested : rest.WellNested) :
    (alarm rest).WellNested := by
  refine ⟨⟨"VALARM".toList, ⟨⟨"BEGIN".toList, none, "VALARM".toList⟩, by decide +kernel⟩,
    ⟨⟨"END".toList, none, "VALARM".toList⟩, by decide +kernel⟩⟩,
    ⟨not_delimits fun parsed split => ?_, trivial⟩, nested⟩
  rw [show splitLine _ = some ⟨"UID".toList, none, "alarm".toList⟩ by decide +kernel] at split
  cases split
  decide

theorem calendarOf_wellNested {inside : Contents} (nested : inside.WellNested) :
    (calendarOf inside).WellNested := by
  refine ⟨⟨"VCALENDAR".toList, ⟨⟨"BEGIN".toList, none, "VCALENDAR".toList⟩, by decide +kernel⟩,
      ⟨⟨"END".toList, none, "VCALENDAR".toList⟩, by decide +kernel⟩⟩,
    ⟨⟨"VEVENT".toList, ⟨⟨"BEGIN".toList, none, "VEVENT".toList⟩, by decide +kernel⟩,
      ⟨⟨"END".toList, none, "VEVENT".toList⟩, by decide +kernel⟩⟩, nested, trivial⟩,
    not_delimits fun parsed split => ?_, trivial⟩
  rw [show splitLine [] = none from rfl] at split
  cases split

/-- Behind the event's own properties an alarm changes nothing. -/
theorem alarmLast_ownProperties :
    ∃ zone, zoneContext indonesianFormat "Asia/Makassar" = some zone ∧
      [⟨"stay", "2026-08-01".toList, "2026-08-03".toList⟩] =
        ((calendarOf (stayLines (alarm .nil))).vevents []).filterMap fun vevent =>
          toEvent vevent.inside.own zone := by
  refine ⟨⟨"Asia/Makassar", _⟩, rfl, ?_⟩
  refine (ownProperties_iff _ (calendarOf_wellNested
    (stayLines_wellNested (alarm_wellNested nil_wellNested)))).2 ?_ indonesianFormat
    (List.intercalate "\r\n".toList (calendarOf (stayLines (alarm .nil))).lines)
    "Asia/Makassar" _ [] rfl (by decide +kernel) (by decide +kernel)
  intro vevent member
  rw [show (calendarOf (stayLines (alarm .nil))).vevents [] =
    [⟨"BEGIN:VCALENDAR".toList :: "BEGIN:VEVENT".toList :: (stayLines (alarm .nil)).lines,
      stayLines (alarm .nil), "END:VEVENT".toList⟩] by decide +kernel, List.mem_singleton] at member
  rw [member, Contents.unmixed_iff]
  decide +kernel

/-- In front of them its UID is the event's. -/
theorem alarmFirst_masquerades :
    (calendarOf (alarm (stayLines .nil))).WellNested ∧
      unfold (List.intercalate "\r\n".toList (calendarOf (alarm (stayLines .nil))).lines) =
        (calendarOf (alarm (stayLines .nil))).lines ∧
      parseCalendar indonesianFormat
          (List.intercalate "\r\n".toList (calendarOf (alarm (stayLines .nil))).lines)
          "Asia/Makassar" =
        .ok [⟨"alarm", "2026-08-01".toList, "2026-08-03".toList⟩] [] ∧
      (alarm (stayLines .nil)).own =
        ⟨some "stay".toList, some "20260801".toList, some "20260803".toList⟩ :=
  ⟨calendarOf_wellNested (alarm_wellNested (stayLines_wellNested nil_wellNested)),
    by decide +kernel, by decide +kernel, by decide +kernel⟩

end Sambung
