/-
This file proves which doubtful feeds a sync leaves alone.

The parser takes a body for whole when one of its lines opens a calendar and one
closes a calendar. A stream of calendars that is cut inside its first one has no
closing line, and the sync changes nothing but the connection's status; cut inside
a later one it has the closing line of the calendars before, and the sync takes
every stay of the missing part for withdrawn.

A stream is any list of complete calendars with a piece of one more behind them,
and a cut is any place strictly inside. `unfold_cutStream` gives its lines as the
lines of its parts, since no fold crosses the line break between two calendars;
what the two flags see follows by a look at each part. Fetches that fail and zones
that are unknown are doubtful as well, and never reach the transaction.
-/

import Sambung.Truncation
import Sambung.Withdrawal

namespace Sambung

/-! ### The lines of a stream -/

/-- A fold crosses no line break behind which a new line opens. -/
theorem removeCrlfFolds_seam (text : Text) {rest : Text} (opens : OpensLine rest) :
    removeCrlfFolds (text ++ '\r' :: '\n' :: rest) =
      removeCrlfFolds text ++ '\r' :: '\n' :: removeCrlfFolds rest := by
  fun_induction removeCrlfFolds text with
  | case1 later inductionHypothesis =>
    rw [List.cons_append, List.cons_append, List.cons_append, removeCrlfFolds, inductionHypothesis]
  | case2 later inductionHypothesis =>
    rw [List.cons_append, List.cons_append, List.cons_append, removeCrlfFolds, inductionHypothesis]
  | case3 c later notSpace notTab inductionHypothesis =>
    rw [List.cons_append, removeCrlfFolds_cons, inductionHypothesis, List.cons_append]
    rintro ⟨blank, more, either, carriageReturn, same⟩
    cases later with
    | nil => exact absurd (List.cons.inj same).1 (by decide)
    | cons newline others =>
      obtain ⟨rfl, tail⟩ := List.cons.inj same
      cases others with
      | nil =>
        obtain ⟨rfl, -⟩ := List.cons.inj tail
        exact either.elim (by decide) (by decide)
      | cons first others =>
        obtain ⟨rfl, -⟩ := List.cons.inj tail
        rcases either with rfl | rfl
        · exact notSpace others carriageReturn rfl
        · exact notTab others carriageReturn rfl
  | case4 => exact removeCrlfFolds_break opens

theorem removeBareFolds_seam (text : Text) {rest : Text} (opens : OpensLine rest) :
    removeBareFolds (text ++ '\r' :: '\n' :: rest) =
      removeBareFolds text ++ '\r' :: '\n' :: removeBareFolds rest := by
  fun_induction removeBareFolds text with
  | case1 later inductionHypothesis =>
    rw [List.cons_append, List.cons_append, removeBareFolds, inductionHypothesis]
  | case2 later inductionHypothesis =>
    rw [List.cons_append, List.cons_append, removeBareFolds, inductionHypothesis]
  | case3 later inductionHypothesis =>
    rw [List.cons_append, List.cons_append, removeBareFolds, inductionHypothesis]
  | case4 later inductionHypothesis =>
    rw [List.cons_append, List.cons_append, removeBareFolds, inductionHypothesis]
  | case5 c later returnSpace returnTab newlineSpace newlineTab inductionHypothesis =>
    rw [List.cons_append, removeBareFolds_cons, inductionHypothesis, List.cons_append]
    rintro ⟨blank, more, either, lineBreak, same⟩
    cases later with
    | nil =>
      obtain ⟨rfl, -⟩ := List.cons.inj same
      exact either.elim (by decide) (by decide)
    | cons first others =>
      obtain ⟨rfl, -⟩ := List.cons.inj same
      rcases either with rfl | rfl
      · exact lineBreak.elim (fun c => returnSpace others c rfl) fun c => newlineSpace others c rfl
      · exact lineBreak.elim (fun c => returnTab others c rfl) fun c => newlineTab others c rfl
  | case6 => exact removeBareFolds_break opens

theorem splitLines_ne_nil (text : Text) : splitLines text ≠ [] := by
  fun_cases splitLines text with
  | case4 c rest =>
    cases splitLines rest with
    | nil => exact List.cons_ne_nil _ _
    | cons line lines => exact List.cons_ne_nil _ _
  | _ => exact List.cons_ne_nil _ _

theorem consLine_append {c : Char} {lines : List Text} (filled : lines ≠ []) (more : List Text) :
    consLine c (lines ++ more) = consLine c lines ++ more := by
  obtain ⟨line, rest, rfl⟩ := List.exists_cons_of_ne_nil filled
  rfl

/-- Every line break ends a line, so the lines of a text are those before and those behind it. -/
theorem splitLines_seam (text rest : Text) :
    splitLines (text ++ '\r' :: '\n' :: rest) = splitLines text ++ splitLines rest := by
  fun_induction splitLines text with
  | case1 later inductionHypothesis =>
    rw [List.cons_append, List.cons_append, splitLines, inductionHypothesis, List.cons_append]
  | case2 later notNewline inductionHypothesis =>
    rw [List.cons_append, splitLines, inductionHypothesis, List.cons_append]
    intro more same
    cases later with
    | nil => exact absurd (List.cons.inj same).1 (by decide)
    | cons first others => exact notNewline others (by rw [(List.cons.inj same).1])
  | case3 later inductionHypothesis =>
    rw [List.cons_append, splitLines, inductionHypothesis, List.cons_append]
  | case4 c later _ notReturn notNewline inductionHypothesis =>
    rw [List.cons_append, splitLines, inductionHypothesis, consLine_append (splitLines_ne_nil _)]
    · exact fun more carriageReturn => absurd carriageReturn notReturn
    · exact notReturn
    · exact notNewline
  | case5 =>
    rw [List.nil_append, splitLines]
    rfl

/-- Behind a line break, a text that opens a line is unfolded for itself. -/
theorem unfold_seam (text : Text) {rest : Text} (opens : OpensLine rest) :
    unfold (text ++ '\r' :: '\n' :: rest) = unfold text ++ unfold rest := by
  rw [unfold, removeCrlfFolds_seam text opens, removeBareFolds_seam _ opens.removeCrlfFolds,
    splitLines_seam]
  rfl

/-! ### Streams of calendars -/

/-- A line of the body reads as `word`. -/
def HasLine (word : String) (body : Text) : Prop := ∃ line ∈ unfold body, LineReads word line

/-- Both lines that open and close a calendar are among the lines of the body. -/
def LooksWhole (body : Text) : Prop :=
  HasLine "BEGIN:VCALENDAR" body ∧ HasLine "END:VCALENDAR" body

/-- A complete calendar: it opens with a visible character, its first line opens the calendar
and its last line closes it. -/
structure Vcalendar (calendar : Text) : Prop where
  visible : OpensLine calendar
  filled : calendar ≠ []
  opened : ∃ line, (unfold calendar).head? = some line ∧ LineReads "BEGIN:VCALENDAR" line
  closed : ∃ line, (unfold calendar).getLast? = some line ∧ LineReads "END:VCALENDAR" line

/-- The stream of the calendars, each with its line break, and what was read of the next one. -/
def cutStream (calendars : List Text) (piece : Text) : Text :=
  calendars.flatMap (· ++ ['\r', '\n']) ++ piece

/-- The stream is cut strictly inside a calendar, behind a part of it. -/
structure CutInside (calendars : List Text) (piece : Text) : Prop where
  whole : ∀ calendar ∈ calendars, Vcalendar calendar
  cut : ∃ calendar rest, Vcalendar calendar ∧ piece ≠ [] ∧ rest ≠ [] ∧ calendar = piece ++ rest

theorem OpensLine.piece {piece rest : Text} (opens : OpensLine (piece ++ rest))
    (filled : piece ≠ []) : OpensLine piece := by
  obtain ⟨c, more, rfl⟩ := List.exists_cons_of_ne_nil filled
  exact opens

theorem cutStream_opens {calendars : List Text} (whole : ∀ calendar ∈ calendars, Vcalendar calendar)
    {piece : Text} (opens : OpensLine piece) : OpensLine (cutStream calendars piece) := by
  cases calendars with
  | nil => exact opens
  | cons calendar calendars =>
    have first := whole calendar List.mem_cons_self
    obtain ⟨c, more, rfl⟩ := List.exists_cons_of_ne_nil first.filled
    exact first.visible

/-- The lines of the stream are the lines of its parts. -/
theorem unfold_cutStream {calendars : List Text}
    (whole : ∀ calendar ∈ calendars, Vcalendar calendar) {piece : Text} (opens : OpensLine piece) :
    unfold (cutStream calendars piece) = calendars.flatMap unfold ++ unfold piece := by
  induction calendars with
  | nil => rfl
  | cons calendar calendars inductionHypothesis =>
    have later : ∀ other ∈ calendars, Vcalendar other := fun other member =>
      whole other (List.mem_cons_of_mem _ member)
    have seam : cutStream (calendar :: calendars) piece =
        calendar ++ '\r' :: '\n' :: cutStream calendars piece := by
      rw [cutStream, List.flatMap_cons, List.append_assoc, List.append_assoc]
      rfl
    rw [seam, unfold_seam calendar (cutStream_opens later opens), inductionHypothesis later,
      List.flatMap_cons, List.append_assoc]

/-- A stream cut inside a later calendar still has the lines of the calendars before. -/
theorem CutInside.looksWhole {calendars : List Text} {piece : Text}
    (cut : CutInside calendars piece) (later : calendars ≠ []) :
    LooksWhole (cutStream calendars piece) := by
  obtain ⟨-, rest, complete, filled, -, rfl⟩ := cut.cut
  have lines := unfold_cutStream cut.whole (complete.visible.piece filled)
  obtain ⟨calendar, others, rfl⟩ := List.exists_cons_of_ne_nil later
  have first := cut.whole calendar List.mem_cons_self
  have part : ∀ line ∈ unfold calendar,
      line ∈ unfold (cutStream (calendar :: others) piece) := fun line member => by
    rw [lines, List.flatMap_cons, List.append_assoc]
    exact List.mem_append_left _ member
  obtain ⟨opening, head, opens⟩ := first.opened
  obtain ⟨closing, last, closes⟩ := first.closed
  exact ⟨⟨opening, part opening (List.mem_of_mem_head? head), opens⟩,
    ⟨closing, part closing (List.mem_of_getLast? last), closes⟩⟩

/-! ### What the parser takes for whole -/

/-- The clock of the connection's property is known. -/
def ZoneUsable (intl : DateTimeFormat) (conn : ChannelConnection) (db : Db) : Prop :=
  ∃ timeZone, resolveTimeZone conn db = some timeZone ∧ (intl timeZone).isSome

theorem any_lineReads {word : String} {body : Text} :
    (unfold body).any (fun line => LineReads word line) = true ↔ HasLine word body := by
  rw [List.any_eq_true]
  exact exists_congr fun line => and_congr_right fun _ => decide_eq_true_iff

theorem looksWhole_iff {body : Text} :
    LooksWhole body ↔
      ¬ (¬ (unfold body).any (fun line => LineReads "BEGIN:VCALENDAR" line) = true ∨
        ¬ (unfold body).any (fun line => LineReads "END:VCALENDAR" line) = true) := by
  rw [LooksWhole, any_lineReads, any_lineReads, not_or, not_not, not_not]

/-- A body is parsed exactly if the zone is usable and the body looks whole. -/
theorem parseCalendar_ok_iff {intl : DateTimeFormat} {body : Text} {timeZone : String} :
    (∃ events foreign, parseCalendar intl body timeZone = .ok events foreign) ↔
      (intl timeZone).isSome ∧ LooksWhole body := by
  rw [looksWhole_iff, parseCalendar, zoneContext]
  cases intl timeZone with
  | none =>
    refine iff_of_false ?_ fun both => Bool.noConfusion both.1
    rintro ⟨events, foreign, parsed⟩
    cases parsed
  | some format =>
    rw [Option.map_some]
    dsimp only
    split
    next cut =>
      refine iff_of_false ?_ fun both => both.2 cut
      rintro ⟨events, foreign, parsed⟩
      cases parsed
    next whole => exact iff_of_true ⟨_, _, rfl⟩ ⟨rfl, whole⟩

theorem readFeed_fetched {intl : DateTimeFormat} {conn : ChannelConnection} {db : Db}
    {body : Text} :
    (∃ events, readFeed intl conn (fetchedBody body) db = .ok events) ↔
      ZoneUsable intl conn db ∧ LooksWhole body := by
  rw [ZoneUsable]
  simp only [readFeed, fetchedBody]
  cases resolveTimeZone conn db with
  | none =>
    refine iff_of_false ?_ ?_
    · rintro ⟨events, read⟩
      cases read
    · rintro ⟨⟨known, same, format⟩, whole⟩
      cases same
  | some timeZone =>
    have parses : (∃ events foreign, parseCalendar intl body timeZone = .ok events foreign) ↔
        (intl timeZone).isSome ∧ LooksWhole body := parseCalendar_ok_iff
    dsimp only
    constructor
    · rintro ⟨events, read⟩
      cases parsed : parseCalendar intl body timeZone with
      | failed error =>
        rw [parsed] at read
        cases read
      | ok found foreign =>
        obtain ⟨format, whole⟩ := parses.mp ⟨found, foreign, parsed⟩
        exact ⟨⟨timeZone, rfl, format⟩, whole⟩
    · rintro ⟨⟨known, same, format⟩, whole⟩
      obtain rfl := Option.some.inj same
      obtain ⟨events, foreign, parsed⟩ := parses.mpr ⟨format, whole⟩
      exact ⟨events, by rw [parsed]⟩

/-- What is read is read in a usable zone. -/
theorem readFeed_zone {intl : DateTimeFormat} {conn : ChannelConnection} {db : Db}
    {fetched : IcalFetchResult} {events : List ImportedEvent}
    (read : readFeed intl conn fetched db = .ok events) : ZoneUsable intl conn db := by
  obtain ⟨ok, body, error⟩ := fetched
  cases ok with
  | false => cases read
  | true =>
    cases body with
    | none => cases read
    | some body => exact (readFeed_fetched.mp ⟨events, read⟩).1

/-! ### What a sync changes -/

/-- A connection's row but for its status and error. -/
def ChannelConnection.unjudged (row : ChannelConnection) : ChannelConnection :=
  { row with lastStatus := .never, lastError := none }

/-- Nothing differs but the statuses and errors of connections. -/
structure OnlyStatus (db after : Db) : Prop where
  others : after = { db with channelConnection := after.channelConnection }
  connections : after.channelConnection.map ChannelConnection.unjudged =
    db.channelConnection.map ChannelConnection.unjudged

theorem OnlyStatus.refl (db : Db) : OnlyStatus db db := ⟨rfl, rfl⟩

section Sync

variable {uuids : UuidSource} {intl : DateTimeFormat} {conn : ChannelConnection}
  {fetched : IcalFetchResult} {faults : Nat → EventFault} {now : Instant} {db : Db}
  {events : List ImportedEvent}

theorem markError_onlyStatus (conn : ChannelConnection) (error : String) (db : Db) :
    OnlyStatus db (markError conn error db).2 :=
  ⟨rfl, Table.map_updateWhere _ fun _ _ => rfl⟩

/-- A sync that does not read its feed marks the connection and nothing else. -/
theorem syncConnection_unread [PostgresServer] {error : String}
    (unread : readFeed intl conn fetched db = .error error) :
    OnlyStatus db ((syncConnection uuids intl conn fetched faults now db).database db) := by
  rw [syncConnection, unread]
  exact markError_onlyStatus conn error db

theorem importAll_channelConnection [PostgresServer] :
    (importAll uuids conn events faults now db).db.channelConnection = db.channelConnection := by
  obtain ⟨bookings, conflicts, same⟩ := importAll_tables uuids conn faults now db events
  rw [same]

/-- A sync that settles a feed stamps its connection. -/
theorem reconciled_channelConnection [PostgresServer] :
    (reconciled uuids conn events faults now db).channelConnection =
      Table.updateWhere (fun row => row.id = conn.id ∧ row.tenantId = conn.tenantId)
        (ChannelConnection.stamp now) db.channelConnection := by
  have same : (reconciled uuids conn events faults now db).channelConnection =
      Table.updateWhere (fun row => row.id = conn.id ∧ row.tenantId = conn.tenantId)
        (ChannelConnection.stamp now)
        (importAll uuids conn events faults now db).db.channelConnection := by
    unfold reconciled resolveHealed withdrawAbsent
    by_cases none : events = []
    · simp only [if_pos none]
      rfl
    · simp only [if_neg none]
      rfl
  rw [same, importAll_channelConnection]

theorem not_onlyStatus_reconciled [PostgresServer] (stored : conn ∈ db.channelConnection)
    (later : conn.lastSyncedAt ≠ some now) :
    ¬ OnlyStatus db (reconciled uuids conn events faults now db) := by
  intro only
  have connections := only.connections
  rw [reconciled_channelConnection, Table.updateWhere, List.map_map] at connections
  have same := List.map_inj_left.mp connections conn stored
  rw [Function.comp_apply, if_pos ⟨rfl, rfl⟩] at same
  exact later (congrArg ChannelConnection.lastSyncedAt same).symm

/-- A sync changes only statuses exactly if it does not read its feed, or reads UIDs that its
statements cannot bind. -/
theorem syncConnection_onlyStatus_iff [PostgresServer] (stored : conn ∈ db.channelConnection)
    (later : conn.lastSyncedAt ≠ some now) :
    OnlyStatus db ((syncConnection uuids intl conn fetched faults now db).database db) ↔
      ∀ events, readFeed intl conn fetched db = .ok events →
        ¬ Bindable uuids conn events faults db := by
  cases read : readFeed intl conn fetched db with
  | error error => exact iff_of_true (syncConnection_unread read) fun events => nofun
  | ok events =>
    rw [syncConnection_healthy read]
    constructor
    · intro only found same bindable
      obtain rfl := Except.ok.inj same
      rw [if_pos bindable] at only
      exact not_onlyStatus_reconciled stored later only
    · intro unbindable
      rw [if_neg (unbindable events rfl)]
      exact OnlyStatus.refl db

/-- The database behind a sync of what was fetched. -/
abbrev afterSync [PostgresServer] (uuids : UuidSource) (intl : DateTimeFormat)
    (conn : ChannelConnection) (faults : Nat → EventFault) (now : Instant) (db : Db)
    (fetched : IcalFetchResult) : Db :=
  (syncConnection uuids intl conn fetched faults now db).database db

/-- The UIDs the sync reads cannot be bound to its statements: one holds U+0000, or there are more
of them than a statement carries. -/
def Unbindable [PostgresServer] (uuids : UuidSource) (intl : DateTimeFormat)
    (conn : ChannelConnection) (faults : Nat → EventFault) (db : Db) (body : Text) : Prop :=
  ∃ events, readFeed intl conn (fetchedBody body) db = .ok events ∧
    ¬ Bindable uuids conn events faults db

/-- A sync of a body changes only statuses exactly if the zone is unusable, the body does not
look whole or its UIDs cannot be bound. -/
theorem afterSync_onlyStatus_iff [PostgresServer] (stored : conn ∈ db.channelConnection)
    (later : conn.lastSyncedAt ≠ some now) (body : Text) :
    OnlyStatus db (afterSync uuids intl conn faults now db (fetchedBody body)) ↔
      ¬ ZoneUsable intl conn db ∨ ¬ LooksWhole body ∨
        Unbindable uuids intl conn faults db body := by
  rw [syncConnection_onlyStatus_iff stored later, ← or_assoc, ← not_and_or, ← readFeed_fetched]
  constructor
  · intro refused
    by_cases read : ∃ events, readFeed intl conn (fetchedBody body) db = .ok events
    · obtain ⟨events, same⟩ := read
      exact .inr ⟨events, same, refused events same⟩
    · exact .inl read
  · rintro (unread | ⟨events, read, unbindable⟩) found same
    · exact absurd ⟨found, same⟩ unread
    · rw [← Except.ok.inj (read.symm.trans same)]
      exact unbindable

/-- A failed fetch and an unusable zone change only statuses. A body does so exactly if the zone
is unusable, one of the two lines that open and close a calendar is missing or the UIDs cannot be
bound: of a cut stream, exactly if the cut stands in its first calendar, before a line that closes
it. A feed without events changes no booking and no conflict. The connection is stored, and its last
sync was at another instant, so that a sync that commits can be told by its stamp. -/
theorem doubtful_feed_untouched_iff [PostgresServer] (stored : conn ∈ db.channelConnection)
    (later : conn.lastSyncedAt ≠ some now) :
    (∀ fetched : IcalFetchResult, fetched.ok = false ∨ fetched.body = none →
      OnlyStatus db (afterSync uuids intl conn faults now db fetched)) ∧
    (¬ ZoneUsable intl conn db → ∀ fetched,
      OnlyStatus db (afterSync uuids intl conn faults now db fetched)) ∧
    (∀ body, OnlyStatus db (afterSync uuids intl conn faults now db (fetchedBody body)) ↔
      ¬ ZoneUsable intl conn db ∨ ¬ LooksWhole body ∨ Unbindable uuids intl conn faults db body) ∧
    (∀ calendars piece, CutInside calendars piece →
      (OnlyStatus db
          (afterSync uuids intl conn faults now db (fetchedBody (cutStream calendars piece))) ↔
        ¬ ZoneUsable intl conn db ∨ calendars = [] ∧ ¬ LooksWhole piece ∨
          Unbindable uuids intl conn faults db (cutStream calendars piece))) ∧
    ∀ body, readFeed intl conn (fetchedBody body) db = .ok [] →
      (afterSync uuids intl conn faults now db (fetchedBody body)).booking = db.booking ∧
        (afterSync uuids intl conn faults now db (fetchedBody body)).syncConflict =
          db.syncConflict := by
  refine ⟨fun fetched failed => ?_, fun unusable fetched => ?_,
    afterSync_onlyStatus_iff stored later, fun calendars piece cut => ?_, fun body read => ?_⟩
  · have unread : readFeed intl conn fetched db =
        .error (fetched.error.getD "Feed is unreachable") := by
      obtain ⟨ok, body, error⟩ := fetched
      rcases failed with rfl | rfl
      · rfl
      · cases ok <;> rfl
    exact syncConnection_unread unread
  · cases read : readFeed intl conn fetched db with
    | error error => exact syncConnection_unread read
    | ok events => exact absurd (readFeed_zone read) unusable
  · rw [afterSync_onlyStatus_iff stored later]
    by_cases first : calendars = []
    · subst first
      rw [and_iff_right rfl]
      rfl
    · have whole := cut.looksWhole first
      simp only [whole, first, not_true_eq_false, false_and]
  · rw [afterSync, syncConnection_healthy read]
    split
    · exact reconciled_nil
    · exact ⟨rfl, rfl⟩

end Sync

/-! ### A stream cut in its second calendar -/

/-- A calendar with one stay. -/
def calendarOfStay (uid start stop : String) : Text :=
  crlfLines ["BEGIN:VCALENDAR", "BEGIN:VEVENT", "UID:" ++ uid, "DTSTART:" ++ start,
    "DTEND:" ++ stop, "END:VEVENT"] ++ "END:VCALENDAR".toList

theorem vcalendar_of_ends {calendar : Text} (head : calendar.head? = some 'B')
    (opening : (unfold calendar).head? = some "BEGIN:VCALENDAR".toList)
    (closing : (unfold calendar).getLast? = some "END:VCALENDAR".toList) : Vcalendar calendar where
  visible := fun c first => by
    obtain rfl := Option.some.inj (head.symm.trans first)
    decide
  filled := by
    rintro rfl
    cases head
  opened := ⟨_, opening, by decide +kernel⟩
  closed := ⟨_, closing, by decide +kernel⟩

/-- The first lines of the calendar with the imported stay. -/
def cutCalendar : Text := crlfLines ["BEGIN:VCALENDAR", "BEGIN:VEVENT", "UID:stay"]

/-- The piece is cut out of the calendar with the imported stay. -/
theorem cutCalendar_cut :
    ∃ calendar rest, Vcalendar calendar ∧ cutCalendar ≠ [] ∧ rest ≠ [] ∧
      calendar = cutCalendar ++ rest :=
  have imported : Vcalendar (calendarOfStay "stay" "20260801" "20260803") :=
    vcalendar_of_ends (by decide +kernel) (by decide +kernel) (by decide +kernel)
  ⟨_, crlfLines ["DTSTART:20260801", "DTEND:20260803", "END:VEVENT"] ++ "END:VCALENDAR".toList,
    imported, by decide +kernel, by decide +kernel, by decide +kernel⟩

attribute [local instance] PostgresServer.uncompressed in
/-- The stream is cut inside its first calendar, which has the imported stay; the sync leaves the
villa's rows alone. -/
theorem doubtful_feed_untouched_villa :
    OnlyStatus villaImported (afterSync .counting indonesianFormat villaConnection noFaults 1000
      villaImported (fetchedBody (cutStream [] cutCalendar))) :=
  have first : CutInside [] cutCalendar := ⟨fun _ => nofun, cutCalendar_cut⟩
  ((doubtful_feed_untouched_iff (by decide) (by decide)).2.2.2.1 [] cutCalendar first).mpr
    (.inr (.inl ⟨rfl, fun whole => absurd (any_lineReads.mpr whole.2) (by decide +kernel)⟩))

attribute [local instance] PostgresServer.uncompressed in
/-- The stream is cut inside its second calendar, which has the imported stay; the sync cancels
its booking. -/
theorem cut_stay_withdrawn :
    CutInside [calendarOfStay "other" "20260901" "20260903"] cutCalendar ∧
      villaImported.bookingStatus 1 = some .confirmed ∧
      (afterSync .counting indonesianFormat villaConnection noFaults 1000 villaImported
        (fetchedBody (cutStream [calendarOfStay "other" "20260901" "20260903"]
          cutCalendar))).bookingStatus 1 = some .cancelled ∧
      ¬ OnlyStatus villaImported (afterSync .counting indonesianFormat villaConnection noFaults
        1000 villaImported (fetchedBody (cutStream
          [calendarOfStay "other" "20260901" "20260903"] cutCalendar))) := by
  have cancelled : (afterSync .counting indonesianFormat villaConnection noFaults 1000
      villaImported (fetchedBody (cutStream [calendarOfStay "other" "20260901" "20260903"]
        cutCalendar))).bookingStatus 1 = some .cancelled := by
    decide +kernel
  have other : Vcalendar (calendarOfStay "other" "20260901" "20260903") :=
    vcalendar_of_ends (by decide +kernel) (by decide +kernel) (by decide +kernel)
  refine ⟨⟨List.forall_mem_singleton.mpr other, cutCalendar_cut⟩, rfl, cancelled, fun only => ?_⟩
  rw [Db.bookingStatus, Db.bookingById, only.others] at cancelled
  cases cancelled

end Sambung
