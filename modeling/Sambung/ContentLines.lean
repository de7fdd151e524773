/-
This file proves how the parser reads well-formed content lines: a name,
parameters with plain or quoted values, and a value, folded anywhere.

Unfolding always gives the lines back. The split finds the name always, and the
value exactly where no quoted parameter value holds a colon. The `TZID` parameter
is searched for in the text of all parameters, so it is found where no quoted
value in front of it reads like one.

A content line is data here, its name, its parameters and its value, and is
written down by a function; what is well formed is the grammar of the format, with
one value for a `TZID`. Folding is a relation between a line and a text, so that
any number of folds at any places and with either line break are covered by one
induction over the derivation. The blanks a fold begins with are a space or a tab,
and no written line opens with one.
-/

import Sambung.IcalDates
import Sambung.Truncation

namespace Sambung

/-! ### Folded texts -/

/-- The line breaks a line is folded with and ends with. -/
def lineBreaks : List Text := ["\r\n".toList, "\n".toList]

/-- The text is the line with folds in it: line breaks of the kinds given, each before a
space or a tab. -/
inductive Folded (breaks : List Text) : Text → Text → Prop where
  | nil : Folded breaks [] []
  | char (c : Char) {line text : Text} : Folded breaks line text →
      Folded breaks (c :: line) (c :: text)
  | fold {lineBreak : Text} (blank : Char) {line text : Text} : lineBreak ∈ breaks →
      blank = ' ' ∨ blank = '\t' → Folded breaks line text →
      Folded breaks line (lineBreak ++ blank :: text)

/-- A line that is written without any folds counts as folded too. -/
theorem Folded.refl (breaks : List Text) (line : Text) : Folded breaks line line := by
  induction line with
  | nil => exact .nil
  | cons c line inductionHypothesis => exact .char c inductionHypothesis

/-- The body is the lines, each folded and each ended by a line break. -/
inductive FoldedBody (breaks : List Text) : List Text → Text → Prop where
  | nil : FoldedBody breaks [] []
  | cons {line text lineBreak : Text} {lines : List Text} {body : Text} :
      Folded breaks line text → lineBreak ∈ lineBreaks → FoldedBody breaks lines body →
      FoldedBody breaks (line :: lines) (text ++ (lineBreak ++ body))

/-- The text does not open with a blank. -/
def NotIndented (text : Text) : Prop := ∀ c ∈ text.head?, c ≠ ' ' ∧ c ≠ '\t'

/-- The first pass leaves the folds of a bare line feed. -/
theorem Folded.removeCrlfFolds {line text : Text} (folded : Folded lineBreaks line text)
    (unbroken : Unbroken line) :
    ∃ left, Folded ["\n".toList] line left ∧
      ∀ rest, Sambung.removeCrlfFolds (text ++ rest) = left ++ Sambung.removeCrlfFolds rest := by
  induction folded with
  | nil => exact ⟨[], .nil, fun rest => rfl⟩
  | char c folded inductionHypothesis =>
    obtain ⟨left, leftFolded, removed⟩ := inductionHypothesis fun other member =>
      unbroken other (List.mem_cons_of_mem c member)
    refine ⟨c :: left, .char c leftFolded, fun rest => ?_⟩
    rw [List.cons_append, removeCrlfFolds_cons, removed, List.cons_append]
    rintro ⟨blank, more, -, carriageReturn, -⟩
    exact (unbroken c List.mem_cons_self).1 carriageReturn
  | fold blank known isBlank folded inductionHypothesis =>
    obtain ⟨left, leftFolded, removed⟩ := inductionHypothesis unbroken
    rcases List.mem_cons.mp known with rfl | known
    · refine ⟨left, leftFolded, fun rest => ?_⟩
      rw [← removed]
      rcases isBlank with rfl | rfl
      · rfl
      · rfl
    · obtain rfl := List.mem_singleton.mp known
      refine ⟨"\n".toList ++ blank :: left,
        .fold blank (List.mem_singleton.mpr rfl) isBlank leftFolded, fun rest => ?_⟩
      have kept : ∀ c : Char, c ≠ '\r' → ∀ more : Text,
          Sambung.removeCrlfFolds (c :: more) = c :: Sambung.removeCrlfFolds more := by
        intro c notReturn more
        refine removeCrlfFolds_cons ?_
        rintro ⟨_, _, -, carriageReturn, -⟩
        exact notReturn carriageReturn
      show Sambung.removeCrlfFolds ('\n' :: blank :: (_ ++ rest)) = '\n' :: blank :: (left ++ _)
      rw [kept '\n' (by decide), kept blank (by rcases isBlank with rfl | rfl <;> decide), removed]

/-- What the first pass left is folded at bare line feeds, and the second pass takes these folds
out, up to where the line ends. -/
theorem Folded.removeBareFolds {line text : Text} (folded : Folded ["\n".toList] line text)
    (unbroken : Unbroken line) (rest : Text) :
    Sambung.removeBareFolds (text ++ rest) = line ++ Sambung.removeBareFolds rest := by
  induction folded with
  | nil => rfl
  | char c folded inductionHypothesis =>
    rw [List.cons_append, removeBareFolds_cons, inductionHypothesis, List.cons_append]
    · exact fun other member => unbroken other (List.mem_cons_of_mem c member)
    · rintro ⟨blank, more, -, carriageReturn | newline, -⟩
      · exact (unbroken c List.mem_cons_self).1 carriageReturn
      · exact (unbroken c List.mem_cons_self).2 newline
  | fold blank known isBlank folded inductionHypothesis =>
    obtain rfl := List.mem_singleton.mp known
    rw [← inductionHypothesis unbroken]
    rcases isBlank with rfl | rfl
    · rfl
    · rfl

theorem Folded.notIndented {line text : Text} {breaks : List Text}
    (folded : Folded breaks line text)
    (known : breaks ⊆ lineBreaks) (nonempty : line ≠ []) (notIndented : NotIndented line)
    (rest : Text) : NotIndented (text ++ rest) := by
  cases folded with
  | nil => exact absurd rfl nonempty
  | char c folded => exact notIndented
  | fold blank among isBlank folded =>
    rcases List.mem_cons.mp (known among) with rfl | newline
    · intro c first
      cases first
      decide
    · obtain rfl := List.mem_singleton.mp newline
      intro c first
      cases first
      decide

/-! ### Folded bodies -/

/-- What a line of a body must be for its neighbours: one line that opens with no blank. -/
structure Standalone (line : Text) : Prop where
  unbroken : Unbroken line
  nonempty : line ≠ []
  notIndented : NotIndented line

theorem FoldedBody.notIndented {breaks lines : List Text} {body : Text}
    (folded : FoldedBody breaks lines body) (known : breaks ⊆ lineBreaks)
    (standalone : ∀ line ∈ lines, Standalone line) : NotIndented body := by
  cases folded with
  | nil => exact fun c first => by cases first
  | cons first lineBreak rest =>
    have line := standalone _ List.mem_cons_self
    exact first.notIndented known line.nonempty line.notIndented _

theorem removeCrlfFolds_lineBreak {lineBreak : Text} (known : lineBreak ∈ lineBreaks)
    {rest : Text} (notIndented : NotIndented rest) :
    removeCrlfFolds (lineBreak ++ rest) = lineBreak ++ removeCrlfFolds rest := by
  have newline : removeCrlfFolds ('\n' :: rest) = '\n' :: removeCrlfFolds rest := by
    refine removeCrlfFolds_cons ?_
    rintro ⟨blank, more, -, carriageReturn, -⟩
    cases carriageReturn
  rcases List.mem_cons.mp known with rfl | known
  · show removeCrlfFolds ('\r' :: '\n' :: rest) = '\r' :: '\n' :: removeCrlfFolds rest
    rw [removeCrlfFolds_cons, newline]
    rintro ⟨blank, more, isBlank, -, same⟩
    obtain ⟨-, rfl⟩ := List.cons.inj same
    obtain ⟨notSpace, notTab⟩ := notIndented blank rfl
    exact isBlank.elim notSpace notTab
  · obtain rfl := List.mem_singleton.mp known
    exact newline

theorem removeBareFolds_lineBreak {lineBreak : Text} (known : lineBreak ∈ lineBreaks)
    {rest : Text} (notIndented : NotIndented rest) :
    removeBareFolds (lineBreak ++ rest) = lineBreak ++ removeBareFolds rest := by
  have newline : removeBareFolds ('\n' :: rest) = '\n' :: removeBareFolds rest := by
    refine removeBareFolds_cons ?_
    rintro ⟨blank, more, isBlank, -, rfl⟩
    obtain ⟨notSpace, notTab⟩ := notIndented blank rfl
    exact isBlank.elim notSpace notTab
  rcases List.mem_cons.mp known with rfl | known
  · show removeBareFolds ('\r' :: '\n' :: rest) = '\r' :: '\n' :: removeBareFolds rest
    rw [removeBareFolds_cons, newline]
    rintro ⟨blank, more, isBlank, -, same⟩
    obtain ⟨rfl, -⟩ := List.cons.inj same
    exact isBlank.elim (by decide) (by decide)
  · obtain rfl := List.mem_singleton.mp known
    exact newline

theorem FoldedBody.removeCrlfFolds {lines : List Text} {body : Text}
    (folded : FoldedBody lineBreaks lines body) (standalone : ∀ line ∈ lines, Standalone line) :
    FoldedBody ["\n".toList] lines (Sambung.removeCrlfFolds body) := by
  induction folded with
  | nil => exact .nil
  | cons first lineBreak rest inductionHypothesis =>
    have others := fun line member => standalone line (List.mem_cons_of_mem _ member)
    obtain ⟨left, leftFolded, removed⟩ :=
      first.removeCrlfFolds (standalone _ List.mem_cons_self).unbroken
    rw [removed, removeCrlfFolds_lineBreak lineBreak
      (rest.notIndented (List.Subset.refl _) others)]
    exact .cons leftFolded lineBreak (inductionHypothesis others)

theorem FoldedBody.removeBareFolds {lines : List Text} {body : Text}
    (folded : FoldedBody ["\n".toList] lines body)
    (standalone : ∀ line ∈ lines, Standalone line) :
    FoldedBody [] lines (Sambung.removeBareFolds body) := by
  have known : ["\n".toList] ⊆ lineBreaks := fun _ member => List.mem_cons_of_mem _ member
  induction folded with
  | nil => exact .nil
  | cons first lineBreak rest inductionHypothesis =>
    have others := fun line member => standalone line (List.mem_cons_of_mem _ member)
    rw [first.removeBareFolds (standalone _ List.mem_cons_self).unbroken,
      removeBareFolds_lineBreak lineBreak (rest.notIndented known others)]
    exact .cons (.refl [] _) lineBreak (inductionHypothesis others)

theorem splitLines_lineBreak {line lineBreak : Text} (unbroken : Unbroken line)
    (known : lineBreak ∈ lineBreaks) (rest : Text) :
    splitLines (line ++ (lineBreak ++ rest)) = line :: splitLines rest := by
  rcases List.mem_cons.mp known with rfl | known
  · exact splitLines_append unbroken rest
  · obtain rfl := List.mem_singleton.mp known
    refine splitLines_closed unbroken ?_
    show splitLines ('\n' :: rest) = [] :: splitLines rest
    rw [splitLines]

theorem FoldedBody.splitLines {lines : List Text} {body : Text} (folded : FoldedBody [] lines body)
    (standalone : ∀ line ∈ lines, Standalone line) : Sambung.splitLines body = lines ++ [[]] := by
  have same : ∀ {line text : Text}, Folded [] line text → text = line := by
    intro line text plain
    induction plain with
    | nil => rfl
    | char c _ inductionHypothesis => rw [inductionHypothesis]
    | fold _ none => exact absurd none List.not_mem_nil
  induction folded with
  | nil => rfl
  | cons first lineBreak rest inductionHypothesis =>
    rw [same first, splitLines_lineBreak (standalone _ List.mem_cons_self).unbroken lineBreak,
      inductionHypothesis fun line member => standalone line (List.mem_cons_of_mem _ member)]
    rfl

/-- Unfolding gives back the lines, wherever they were folded. -/
theorem unfold_foldedBody {lines : List Text} {body : Text}
    (folded : FoldedBody lineBreaks lines body) (standalone : ∀ line ∈ lines, Standalone line) :
    unfold body = lines ++ [[]] :=
  ((folded.removeCrlfFolds standalone).removeBareFolds standalone).splitLines standalone

theorem splitLines_unbroken {line : Text} (unbroken : Unbroken line) :
    splitLines line = [line] := by
  have closed := splitLines_closed unbroken (show splitLines [] = [[]] from rfl)
  rwa [List.append_nil] at closed

/-- So does a line that is the whole body. -/
theorem unfold_foldedLine {line text : Text} (folded : Folded lineBreaks line text)
    (unbroken : Unbroken line) : unfold text = [line] := by
  obtain ⟨left, leftFolded, removed⟩ := folded.removeCrlfFolds unbroken
  have first := removed []
  have second := leftFolded.removeBareFolds unbroken []
  rw [List.append_nil, show removeCrlfFolds [] = [] from rfl, List.append_nil] at first
  rw [List.append_nil, show removeBareFolds [] = [] from rfl, List.append_nil] at second
  rw [unfold, first, second, splitLines_unbroken unbroken]

/-! ### Content lines -/

/-- A parameter value, as it stands or between quotation marks. -/
inductive ParamValue where
  | plain (text : Text)
  | quoted (text : Text)

def ParamValue.text : ParamValue → Text
  | .plain text => text
  | .quoted text => text

def ParamValue.written : ParamValue → Text
  | .plain text => text
  | .quoted text => quotationMark :: (text ++ [quotationMark])

/-- A parameter: its name, its first value and the others. -/
structure Param where
  name : Text
  value : ParamValue
  others : List ParamValue

def Param.written (param : Param) : Text :=
  ';' :: (param.name ++ '=' :: (param.value.written ++
    param.others.flatMap fun other => ',' :: other.written))

def Param.isTzid (param : Param) : Bool := param.name.map Char.toUpper = "TZID".toList

/-- A content line, before it is written down. -/
structure CalendarProperty where
  name : Text
  params : List Param
  value : Text

/-- What stands in front of the value. -/
def CalendarProperty.left (property : CalendarProperty) : Text :=
  property.name ++ property.params.flatMap Param.written

def CalendarProperty.written (property : CalendarProperty) : Text :=
  property.left ++ ':' :: property.value

/-- The value of the first `TZID` parameter. -/
def CalendarProperty.tzid (property : CalendarProperty) : Option Text :=
  (property.params.find? Param.isTzid).map fun param => param.value.text

/-- The line as the parser should read it. -/
def CalendarProperty.parsed (property : CalendarProperty) : ContentLine :=
  ⟨toUpperCase property.name, property.tzid, property.value⟩

/-- A control character other than the tab. -/
def isControl (c : Char) : Bool := (c.toNat < 0x20 && c ≠ '\t') || c.toNat = 0x7F

/-- Letters, digits and dashes, at least one. -/
def NameText (text : Text) : Prop := text ≠ [] ∧ ∀ c ∈ text, c.isAlphanum ∨ c = '-'

def ParamValue.WellFormed : ParamValue → Prop
  | .plain text => ∀ c ∈ text, ¬ isControl c ∧ c ≠ quotationMark ∧ c ≠ ';' ∧ c ≠ ':' ∧ c ≠ ','
  | .quoted text => ∀ c ∈ text, ¬ isControl c ∧ c ≠ quotationMark

/-- A parameter of the grammar; `TZID` has one value. -/
structure Param.WellFormed (param : Param) : Prop where
  name : NameText param.name
  value : param.value.WellFormed
  others : ∀ other ∈ param.others, other.WellFormed
  single : param.isTzid → param.others = []

/-- A content line of the grammar. -/
structure CalendarProperty.WellFormed (property : CalendarProperty) : Prop where
  name : NameText property.name
  params : ∀ param ∈ property.params, param.WellFormed
  value : ∀ c ∈ property.value, ¬ isControl c

theorem NameText.char {text : Text} (name : NameText text) {c : Char} (member : c ∈ text) :
    c ≠ ';' ∧ c ≠ ':' ∧ c ≠ '=' ∧ c ≠ ' ' ∧ c ≠ '\t' ∧ c ≠ '\r' ∧ c ≠ '\n' := by
  have known := name.2 c member
  refine ⟨?_, ?_, ?_, ?_, ?_, ?_, ?_⟩
  all_goals
    rintro rfl
    revert known
    decide

/-- What a text of no control characters is folded as. -/
theorem unbroken_of_printable {text : Text} (printable : ∀ c ∈ text, ¬ isControl c) :
    Unbroken text := by
  refine fun c member => ⟨?_, ?_⟩
  all_goals
    rintro rfl
    exact printable _ member (by decide)

theorem NameText.bounds {text : Text} (name : NameText text) {c : Char} (member : c ∈ text) :
    45 ≤ c.toNat ∧ c.toNat ≤ 122 := by
  have same : c.toNat = c.val.toNat := rfl
  rcases name.2 c member with letter | rfl
  · simp [Char.isAlphanum, Char.isAlpha, Char.isUpper, Char.isLower, Char.isDigit,
      UInt32.le_iff_toNat_le] at letter
    omega
  · decide

theorem NameText.printable {text : Text} (name : NameText text) : ∀ c ∈ text, ¬ isControl c := by
  intro c member
  obtain ⟨low, high⟩ := name.bounds member
  simp [isControl]
  omega

theorem ParamValue.WellFormed.printable {value : ParamValue} (wellFormed : value.WellFormed) :
    ∀ c ∈ value.written, ¬ isControl c := by
  cases value with
  | plain text => exact fun c member => (wellFormed c member).1
  | quoted text =>
    intro c member
    rcases List.mem_cons.mp member with rfl | member
    · decide
    · rcases List.mem_append.mp member with member | last
      · exact (wellFormed c member).1
      · obtain rfl := List.mem_singleton.mp last
        decide

theorem Param.WellFormed.printable {param : Param} (wellFormed : param.WellFormed) :
    ∀ c ∈ param.written, ¬ isControl c := by
  intro c member
  simp only [Param.written, List.mem_cons, List.mem_append, List.mem_flatMap] at member
  rcases member with rfl | member | rfl | member | ⟨other, among, rfl | member⟩
  · decide
  · exact wellFormed.name.printable c member
  · decide
  · exact wellFormed.value.printable c member
  · decide
  · exact (wellFormed.others other among).printable c member

/-- A content line is one line, and opens with its name. -/
theorem CalendarProperty.WellFormed.standalone {property : CalendarProperty}
    (wellFormed : property.WellFormed) :
    Standalone property.written := by
  obtain ⟨nonempty, -⟩ := wellFormed.name
  refine ⟨unbroken_of_printable fun c member => ?_, ?_, fun c first => ?_⟩
  · simp only [CalendarProperty.written, CalendarProperty.left, List.mem_append, List.mem_cons,
      List.mem_flatMap] at member
    rcases member with (member | ⟨param, among, member⟩) | rfl | member
    · exact wellFormed.name.printable c member
    · exact (wellFormed.params param among).printable c member
    · decide
    · exact wellFormed.value c member
  · simp [CalendarProperty.written]
  · obtain ⟨head, rest, shown⟩ := List.exists_cons_of_ne_nil nonempty
    rw [CalendarProperty.written, CalendarProperty.left, shown] at first
    cases first
    have known := wellFormed.name.char (shown ▸ List.mem_cons_self : c ∈ property.name)
    exact ⟨known.2.2.2.1, known.2.2.2.2.1⟩

end Sambung
