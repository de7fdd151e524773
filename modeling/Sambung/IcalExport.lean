/-
This file states the calendar feed's serializer, `ical.ts`: the content lines of a
calendar, the escaping of texts, and the folding of long lines, and proves what
the folding keeps.

A folded line breaks between characters, so no character's octets are parted; its
physical lines are at most 75 octets long, and the parser's unfolding gives the
line back.

`FoldState.Folds` is the invariant of the loop: the pieces closed so far make up
the output, each of them fits its line, and so does the piece under way. One
character keeps it, either by joining that piece or by closing it. A continuation
begins with a space, which counts among its octets and which the unfolding takes
away. The lines of octets are read off the body as a receiver reads them, at the
two octets of a line break, of which none can lie within a character.
-/

import Sambung.Bookings
import Sambung.Truncation

namespace Sambung

/-! ### Dates -/

/-- `YYYY-MM-DD` as `YYYYMMDD`. -/
def formatDate (isoDate : Text) : Except Thrown Text :=
  match isoDate with
  | [y₁, y₂, y₃, y₄, '-', m₁, m₂, '-', d₁, d₂] =>
    if [y₁, y₂, y₃, y₄, m₁, m₂, d₁, d₂].all Char.isDigit then
      .ok [y₁, y₂, y₃, y₄, m₁, m₂, d₁, d₂]
    else .error (.error ("buildCalendar: not a YYYY-MM-DD date: " ++ String.ofList isoDate))
  | _ => .error (.error ("buildCalendar: not a YYYY-MM-DD date: " ++ String.ofList isoDate))

/-- `date.toISOString()` up to its milliseconds: outside the years 0 to 9999 the year has a
sign and six digits. -/
def toISOStringSeconds (date : Instant) : Text :=
  let day := civilFromDays (date / MS_PER_DAY)
  let second := (date % MS_PER_DAY / 1000).toNat
  (if 0 ≤ day.year ∧ day.year ≤ 9999 then paddedDigits 4 day.year.toNat
    else (if day.year < 0 then '-' else '+') :: paddedDigits 6 day.year.natAbs) ++
    '-' :: paddedDigits 2 day.month.toNat ++ '-' :: paddedDigits 2 day.day.toNat ++
    'T' :: paddedDigits 2 (second / 3600) ++ ':' :: paddedDigits 2 (second / 60 % 60) ++
    ':' :: paddedDigits 2 (second % 60)

/-- A date as `YYYYMMDDTHHMMSSZ`: the ISO string without its hyphens, colons and milliseconds. -/
def formatDateTimeUtc (date : Instant) : Text :=
  (toISOStringSeconds date).filter (fun c => c ≠ '-' ∧ c ≠ ':') ++ ['Z']

/-! ### Texts -/

/-- `value.replace(/\r\n|\r|\n/g, '\\n')`. -/
def escapeBreaks : Text → Text
  | '\r' :: '\n' :: rest => '\\' :: 'n' :: escapeBreaks rest
  | '\r' :: rest => '\\' :: 'n' :: escapeBreaks rest
  | '\n' :: rest => '\\' :: 'n' :: escapeBreaks rest
  | c :: rest => c :: escapeBreaks rest
  | [] => []

/-- Every occurrence of a character with a backslash in front. -/
def escapeChar (special : Char) (value : Text) : Text :=
  value.flatMap fun c => if c = special then ['\\', special] else [c]

/-- Escapes an iCalendar TEXT: backslashes, semicolons, commas and line breaks. -/
def escapeText (value : Text) : Text :=
  escapeBreaks (escapeChar ',' (escapeChar ';' (escapeChar '\\' value)))

/-! ### Folding -/

/-- The UTF-8 encoding of a text. -/
def octets (text : Text) : List UInt8 := text.flatMap String.utf8EncodeChar

def CRLF : Text := ['\r', '\n']

/-- The variables of the folding loop. -/
structure FoldState where
  out : Text
  current : Text
  bytes : Nat
  first : Bool

/-- The physical line under way, with the space a continuation starts with. -/
def FoldState.line (s : FoldState) : Text := if s.first then s.current else ' ' :: s.current

/-- One character of the folding loop. -/
def foldChar (s : FoldState) (ch : Char) : FoldState :=
  let chBytes := (String.utf8EncodeChar ch).length
  let limit := if s.first then 75 else 74
  if s.bytes + chBytes > limit then
    { out := s.out ++ s.line ++ CRLF, current := [ch], bytes := chBytes, first := false }
  else { s with current := s.current ++ [ch], bytes := s.bytes + chBytes }

/-- Folds a content line to physical lines of at most 75 octets. -/
def foldLine (line : Text) : Text :=
  if (octets line).length ≤ 75 then line
  else
    let s := line.foldl foldChar { out := [], current := [], bytes := 0, first := true }
    s.out ++ s.line

/-! ### The calendar -/

/-- One busy span. `stop` is the source's `end`, exclusive. -/
structure CalendarEvent where
  uid : String
  start : Text
  stop : Text
  deriving DecidableEq, Repr

structure BuildCalendarInput where
  prodId : String
  events : List CalendarEvent
  dtstamp : Instant

def EVENT_SUMMARY : Text := "Unavailable (Sambung)".toList

/-- The content lines of one event. -/
def eventLines (stamp : Text) (event : CalendarEvent) : Except Thrown (List Text) := do
  let start ← formatDate event.start
  let stop ← formatDate event.stop
  return [
    "BEGIN:VEVENT".toList,
    "UID:".toList ++ escapeText event.uid.toList,
    "DTSTAMP:".toList ++ stamp,
    "DTSTART;VALUE=DATE:".toList ++ start,
    "DTEND;VALUE=DATE:".toList ++ stop,
    "SUMMARY:".toList ++ escapeText EVENT_SUMMARY,
    "TRANSP:OPAQUE".toList,
    "END:VEVENT".toList]

/-- The content lines of a calendar. -/
def contentLines (input : BuildCalendarInput) : Except Thrown (List Text) := do
  let blocks ← input.events.mapM (eventLines (formatDateTimeUtc input.dtstamp))
  return [
    "BEGIN:VCALENDAR".toList,
    "VERSION:2.0".toList,
    "PRODID:".toList ++ escapeText input.prodId.toList,
    "CALSCALE:GREGORIAN".toList,
    "METHOD:PUBLISH".toList] ++ blocks.flatten ++ ["END:VCALENDAR".toList]

/-- Lines, each ended by a line break. -/
def ended (lines : List Text) : Text := lines.flatMap fun line => line ++ CRLF

/-- The body of the feed: every line folded, and a line break after each. -/
def buildCalendar (input : BuildCalendarInput) : Except Thrown Text := do
  return ended ((← contentLines input).map foldLine)

/-! ### Octets -/

theorem octets_append (first second : Text) :
    octets (first ++ second) = octets first ++ octets second := List.flatMap_append

theorem octets_cons (c : Char) (text : Text) :
    octets (c :: text) = String.utf8EncodeChar c ++ octets text := rfl

theorem octets_singleton (c : Char) : octets [c] = String.utf8EncodeChar c :=
  List.flatMap_singleton _ c

theorem length_octets_singleton_le (c : Char) : (octets [c]).length ≤ 4 := by
  rw [octets_singleton, String.length_utf8EncodeChar]
  exact c.utf8Size_le_four

/-! ### Physical lines -/

/-- The physical lines of the pieces of a content line: every piece after the first is a
continuation. -/
def physical : List Text → List Text
  | [] => []
  | piece :: pieces => piece :: pieces.map (' ' :: ·)

theorem physical_concat (pieces : List Text) (piece : Text) :
    physical (pieces ++ [piece]) =
      physical pieces ++ [if pieces = [] then piece else ' ' :: piece] := by
  cases pieces with
  | nil => rfl
  | cons first pieces =>
    simp [physical]

theorem unbroken_physical {pieces : List Text} (unbroken : ∀ piece ∈ pieces, Unbroken piece) :
    ∀ part ∈ physical pieces, Unbroken part := by
  cases pieces with
  | nil => exact unbroken
  | cons piece pieces =>
    intro part member
    rcases List.mem_cons.mp member with rfl | continued
    · exact unbroken part List.mem_cons_self
    · obtain ⟨other, otherMember, rfl⟩ := List.mem_map.mp continued
      exact List.forall_mem_cons.mpr
        ⟨by decide, unbroken other (List.mem_cons_of_mem _ otherMember)⟩

theorem ended_append (first second : List Text) :
    ended (first ++ second) = ended first ++ ended second :=
  List.flatMap_append

theorem ended_cons (line : Text) (lines : List Text) :
    ended (line :: lines) = line ++ '\r' :: '\n' :: ended lines := by
  show (line ++ CRLF) ++ ended lines = _
  rw [List.append_assoc]
  rfl

/-- The folding loop after the characters seen: the pieces closed so far make up the output,
every one of them fits its line, and so does the piece under way. -/
structure FoldState.Folds (s : FoldState) (seen : Text) (closed : List Text) : Prop where
  out : s.out = ended (physical closed)
  first : s.first = decide (closed = [])
  seen : closed.flatten ++ s.current = seen
  bytes : s.bytes = (octets s.current).length
  fits : (octets s.line).length ≤ 75
  filled : ∀ piece ∈ closed, piece ≠ []
  short : ∀ line ∈ physical closed, (octets line).length ≤ 75

theorem FoldState.line_length (s : FoldState) :
    (octets s.line).length = (if s.first then 0 else 1) + (octets s.current).length := by
  unfold FoldState.line
  split
  · exact (Nat.zero_add _).symm
  · rw [octets_cons, List.length_append]
    rfl

/-- One character either joins the piece under way or closes it. -/
theorem FoldState.Folds.step {s : FoldState} {seen : Text} {closed : List Text}
    (folds : s.Folds seen closed) (ch : Char) :
    ∃ closed', (foldChar s ch).Folds (seen ++ [ch]) closed' := by
  have size := length_octets_singleton_le ch
  rw [octets_singleton] at size
  unfold foldChar
  dsimp only
  by_cases exceeds : s.bytes + (String.utf8EncodeChar ch).length > if s.first then 75 else 74
  · rw [if_pos exceeds]
    have filled : s.current ≠ [] := by
      intro empty
      rw [folds.bytes, empty] at exceeds
      have none : (octets []).length = 0 := rfl
      split at exceeds
      · omega
      · omega
    refine ⟨closed ++ [s.current], ?_, ?_, ?_, ?_, ?_, ?_, ?_⟩
    · have line : s.line = if closed = [] then s.current else ' ' :: s.current := by
        rw [FoldState.line, folds.first]
        simp
      rw [physical_concat, ended_append, folds.out, ← line]
      simp [ended]
    · simp
    · rw [List.flatten_append, ← folds.seen]
      simp
    · exact congrArg List.length (octets_singleton ch).symm
    · show (octets (' ' :: [ch])).length ≤ 75
      rw [octets_cons, octets_singleton, List.length_append, String.length_utf8EncodeChar]
      have space : (' ' : Char).utf8Size = 1 := by decide
      omega
    · intro piece member
      rcases List.mem_append.mp member with earlier | last
      · exact folds.filled piece earlier
      · rw [List.mem_singleton.mp last]
        exact filled
    · rw [physical_concat]
      intro line member
      rcases List.mem_append.mp member with earlier | last
      · exact folds.short line earlier
      · have same : s.line = if closed = [] then s.current else ' ' :: s.current := by
          rw [FoldState.line, folds.first]
          simp
        rw [List.mem_singleton.mp last, ← same]
        exact folds.fits
  · rw [if_neg exceeds]
    refine ⟨closed, folds.out, folds.first, ?_, ?_, ?_, folds.filled, folds.short⟩
    · rw [← folds.seen, List.append_assoc]
    · show s.bytes + _ = (octets (s.current ++ [ch])).length
      rw [octets_append, List.length_append, octets_singleton, folds.bytes]
    · rw [FoldState.line_length]
      show (if s.first then 0 else 1) + (octets (s.current ++ [ch])).length ≤ 75
      rw [octets_append, List.length_append, octets_singleton, ← folds.bytes]
      split at exceeds
      · rename_i isFirst
        rw [if_pos isFirst]
        omega
      · rename_i notFirst
        rw [if_neg notFirst]
        omega

theorem FoldState.Folds.run {s : FoldState} {seen : Text} {closed : List Text}
    (folds : s.Folds seen closed) (line : Text) :
    ∃ closed', (line.foldl foldChar s).Folds (seen ++ line) closed' := by
  induction line generalizing s seen closed with
  | nil => exact ⟨closed, (List.append_nil seen).symm ▸ folds⟩
  | cons ch line inductionHypothesis =>
    obtain ⟨next, nextFolds⟩ := folds.step ch
    obtain ⟨last, lastFolds⟩ := inductionHypothesis nextFolds
    rw [List.append_assoc] at lastFolds
    exact ⟨last, lastFolds⟩

/-- A folded line is the physical lines of pieces of the line, each of 75 octets at most. -/
theorem foldLine_pieces (line : Text) :
    ∃ pieces, pieces ≠ [] ∧ pieces.flatten = line ∧
      foldLine line ++ CRLF = ended (physical pieces) ∧ (foldLine line).head? = line.head? ∧
      ∀ part ∈ physical pieces, (octets part).length ≤ 75 := by
  unfold foldLine
  by_cases fits : (octets line).length ≤ 75
  · rw [if_pos fits]
    refine ⟨[line], List.cons_ne_nil _ _, by simp, by simp [physical, ended], rfl,
      fun part member => ?_⟩
    rwa [List.mem_singleton.mp member]
  · rw [if_neg fits]
    have started : (FoldState.mk [] [] 0 true).Folds [] [] :=
      ⟨rfl, rfl, rfl, rfl, by decide, fun _ member => (List.not_mem_nil member).elim,
        fun _ member => (List.not_mem_nil member).elim⟩
    obtain ⟨closed, folds⟩ := started.run line
    rw [List.nil_append] at folds
    dsimp only
    generalize line.foldl foldChar _ = s at folds
    have same : s.line = if closed = [] then s.current else ' ' :: s.current := by
      rw [FoldState.line, folds.first]
      simp
    refine ⟨closed ++ [s.current], by simp, by simpa using folds.seen, ?_, ?_, ?_⟩
    · rw [physical_concat, ended_append, ← same, ← folds.out]
      simp [ended]
    · rw [folds.out, same, ← folds.seen]
      cases closed with
      | nil => rfl
      | cons piece closed =>
        obtain ⟨c, rest, rfl⟩ :=
          List.exists_cons_of_ne_nil (folds.filled piece List.mem_cons_self)
        rfl
    · rw [physical_concat, ← same]
      intro part member
      rcases List.mem_append.mp member with earlier | last
      · exact folds.short part earlier
      · rw [List.mem_singleton.mp last]
        exact folds.fits

/-! ### Unfolding -/

/-- Continuations are joined to the line they continue. -/
theorem removeCrlfFolds_continued {text : Text} {pieces : List Text} (unbroken : Unbroken text)
    (parts : ∀ piece ∈ pieces, Unbroken piece) {rest : Text} (opens : OpensLine rest) :
    removeCrlfFolds (text ++ '\r' :: '\n' :: (ended (pieces.map (' ' :: ·)) ++ rest)) =
      text ++ (pieces.flatten ++ '\r' :: '\n' :: removeCrlfFolds rest) := by
  rw [removeCrlfFolds_append unbroken]
  congr 1
  induction pieces with
  | nil => exact removeCrlfFolds_break opens
  | cons piece pieces inductionHypothesis =>
    rw [List.map_cons, ended_cons, List.flatten_cons, List.cons_append, List.cons_append,
      removeCrlfFolds, List.append_assoc, removeCrlfFolds_append (parts piece List.mem_cons_self),
      List.append_assoc]
    congr 1
    exact inductionHypothesis fun other member => parts other (List.mem_cons_of_mem _ member)

/-- A folded line, and what follows it on a new line, unfold to the line and the rest. -/
theorem unfold_folded {line rest : Text} (unbroken : Unbroken line) (opens : OpensLine rest) :
    unfold (foldLine line ++ CRLF ++ rest) = line :: unfold rest := by
  obtain ⟨pieces, nonempty, whole, folded, -⟩ := foldLine_pieces line
  have parts : ∀ piece ∈ pieces, Unbroken piece := fun piece member c inPiece =>
    unbroken c (whole ▸ List.mem_flatten_of_mem member inPiece)
  obtain ⟨piece, pieces, rfl⟩ := List.exists_cons_of_ne_nil nonempty
  have joined : removeCrlfFolds (foldLine line ++ CRLF ++ rest) =
      line ++ '\r' :: '\n' :: removeCrlfFolds rest := by
    rw [folded, physical, ended_cons, List.append_assoc, List.cons_append, List.cons_append,
      removeCrlfFolds_continued (parts piece List.mem_cons_self)
        (fun other member => parts other (List.mem_cons_of_mem _ member)) opens,
      ← List.append_assoc, ← List.flatten_cons, whole]
  unfold Sambung.unfold
  rw [joined, removeBareFolds_append unbroken, removeBareFolds_break opens.removeCrlfFolds,
    splitLines_append unbroken]

/-- Lines that open visibly, folded and ended, unfold to themselves. -/
theorem unfold_ended {lines : List Text} (unbroken : ∀ line ∈ lines, Unbroken line)
    (opens : ∀ line ∈ lines, line ≠ [] ∧ OpensLine line) :
    unfold (ended (lines.map foldLine)) = lines ++ [[]] := by
  induction lines with
  | nil => rfl
  | cons line lines inductionHypothesis =>
    have next : OpensLine (ended (lines.map foldLine)) := by
      cases lines with
      | nil => exact fun c first => nomatch first
      | cons second lines =>
        obtain ⟨filled, opensSecond⟩ := opens second (List.mem_cons_of_mem _ List.mem_cons_self)
        obtain ⟨pieces, -, -, -, head, -⟩ := foldLine_pieces second
        obtain ⟨c, text, rfl⟩ := List.exists_cons_of_ne_nil filled
        have first : (ended ((List.map foldLine) ((c :: text) :: lines))).head? = some c := by
          show (foldLine (c :: text) ++ CRLF ++ ended (lines.map foldLine)).head? = some c
          rw [List.append_assoc, List.head?_append, head]
          rfl
        intro found same
        rw [first] at same
        exact opensSecond found same
    have shown : ended ((line :: lines).map foldLine) =
        foldLine line ++ CRLF ++ ended (lines.map foldLine) := rfl
    rw [shown, unfold_folded (unbroken line List.mem_cons_self) next,
      inductionHypothesis (fun other member => unbroken other (List.mem_cons_of_mem _ member))
        fun other member => opens other (List.mem_cons_of_mem _ member)]
    rfl

/-! ### Lines of octets -/

/-- Puts an octet in front of the first line. -/
def consOctet (octet : UInt8) : List (List UInt8) → List (List UInt8)
  | line :: lines => (octet :: line) :: lines
  | [] => [[octet]]

/-- The physical lines of a body of octets, which end in CR and LF. -/
def octetLines : List UInt8 → List (List UInt8)
  | 13 :: 10 :: rest => [] :: octetLines rest
  | octet :: rest => consOctet octet (octetLines rest)
  | [] => [[]]

/-- An octet of more than one octet is not a CR. -/
theorem carriageReturn_ne_marked (low mark : UInt8) (large : 128 ≤ mark.toNat) :
    13 ≠ low ||| mark := by
  intro same
  have atLeast : mark.toNat ≤ (low ||| mark).toNat := by
    rw [UInt8.toNat_or]
    exact Nat.right_le_or
  rw [← same] at atLeast
  exact absurd (large.trans atLeast) (by decide)

/-- Only the character CR has the octet of a CR in its encoding. -/
theorem carriageReturn_of_octet {c : Char} (octet : 13 ∈ String.utf8EncodeChar c) : c = '\r' := by
  have marked := carriageReturn_ne_marked
  rcases c.utf8Size_eq with one | two | three | four
  · rw [String.utf8EncodeChar_eq_singleton one, List.mem_singleton] at octet
    have small : c.toNat ≤ 127 := Char.utf8Size_eq_one_iff.mp one
    have code : 13 = c.toNat % 256 := congrArg UInt8.toNat octet
    rw [Nat.mod_eq_of_lt (by omega)] at code
    exact Char.toNat_inj.mp code.symm
  · rw [String.utf8EncodeChar_eq_cons_cons two] at octet
    simp only [List.mem_cons, List.not_mem_nil, or_false] at octet
    rcases octet with octet | octet
    · exact absurd octet (marked _ _ (by decide))
    · exact absurd octet (marked _ _ (by decide))
  · rw [String.utf8EncodeChar_eq_cons_cons_cons three] at octet
    simp only [List.mem_cons, List.not_mem_nil, or_false] at octet
    rcases octet with octet | octet | octet
    · exact absurd octet (marked _ _ (by decide))
    · exact absurd octet (marked _ _ (by decide))
    · exact absurd octet (marked _ _ (by decide))
  · rw [String.utf8EncodeChar_eq_cons_cons_cons_cons four] at octet
    simp only [List.mem_cons, List.not_mem_nil, or_false] at octet
    rcases octet with octet | octet | octet | octet
    · exact absurd octet (marked _ _ (by decide))
    · exact absurd octet (marked _ _ (by decide))
    · exact absurd octet (marked _ _ (by decide))
    · exact absurd octet (marked _ _ (by decide))

theorem octetLines_append {line : List UInt8} (unbroken : 13 ∉ line) (rest : List UInt8) :
    octetLines (line ++ 13 :: 10 :: rest) = line :: octetLines rest := by
  induction line with
  | nil => rw [List.nil_append, octetLines]
  | cons octet line inductionHypothesis =>
    obtain ⟨apart, others⟩ := not_or.mp (List.mem_cons.not.mp unbroken)
    rw [List.cons_append, octetLines, inductionHypothesis others]
    · rfl
    · rintro more rfl
      exact absurd rfl apart

/-- The lines of octets of a body are the encodings of its physical lines: no line break parts
the octets of a character. -/
theorem octetLines_ended {lines : List Text} (unbroken : ∀ line ∈ lines, Unbroken line) :
    octetLines (octets (ended lines)) = lines.map octets ++ [[]] := by
  induction lines with
  | nil => rfl
  | cons line lines inductionHypothesis =>
    have noReturn : 13 ∉ octets line := by
      intro member
      obtain ⟨c, inLine, octet⟩ := List.mem_flatMap.mp member
      exact (unbroken line List.mem_cons_self c inLine).1 (carriageReturn_of_octet octet)
    have lineBreak : octets (ended (line :: lines)) =
        octets line ++ 13 :: 10 :: octets (ended lines) := by
      rw [ended_cons, octets_append]
      rfl
    rw [lineBreak, octetLines_append noReturn, inductionHypothesis fun other member =>
      unbroken other (List.mem_cons_of_mem _ member)]
    rfl

/-- The body of folded lines: every line of octets is short and encodes whole characters. -/
theorem octetLines_folded {lines : List Text} (unbroken : ∀ line ∈ lines, Unbroken line) :
    ∀ line ∈ octetLines (octets (ended (lines.map foldLine))),
      line.length ≤ 75 ∧ ∃ text, octets text = line := by
  obtain ⟨parts, same, whole, short⟩ : ∃ parts, ended (lines.map foldLine) = ended parts ∧
      (∀ part ∈ parts, Unbroken part) ∧ ∀ part ∈ parts, (octets part).length ≤ 75 := by
    induction lines with
    | nil => exact ⟨[], rfl, fun _ member => (List.not_mem_nil member).elim,
        fun _ member => (List.not_mem_nil member).elim⟩
    | cons line lines inductionHypothesis =>
      obtain ⟨parts, same, whole, short⟩ := inductionHypothesis fun other member =>
        unbroken other (List.mem_cons_of_mem _ member)
      obtain ⟨pieces, -, flat, folded, -, fits⟩ := foldLine_pieces line
      have inLine : ∀ piece ∈ pieces, Unbroken piece := fun piece member c inPiece =>
        unbroken line List.mem_cons_self c (flat ▸ List.mem_flatten_of_mem member inPiece)
      refine ⟨physical pieces ++ parts, ?_, ?_, ?_⟩
      · rw [ended_append, ← folded, ← same]
        rfl
      · intro part member
        rcases List.mem_append.mp member with here | later
        · exact unbroken_physical inLine part here
        · exact whole part later
      · intro part member
        rcases List.mem_append.mp member with here | later
        · exact fits part here
        · exact short part later
  rw [same, octetLines_ended whole]
  intro line member
  rcases List.mem_append.mp member with encoded | last
  · obtain ⟨part, partMember, rfl⟩ := List.mem_map.mp encoded
    exact ⟨short part partMember, part, rfl⟩
  · rw [List.mem_singleton.mp last]
    exact ⟨Nat.zero_le _, [], rfl⟩

end Sambung
