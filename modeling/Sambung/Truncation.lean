/-
This file proves what the unfolding of a body does where two texts meet.

A fold is a line break with a blank behind it. Where a text ends in a line break
and the next opens with a visible character, no fold crosses the seam, and the
lines of the whole are the lines of the parts.

The source unfolds in two passes, first over the breaks of two characters and then
over the bare ones, so each fact is proved of either pass by induction over the
first text and then put together. Texts may hold folds of their own; only the seam
is asked about. What a cut-off download does to a body is read off these facts
elsewhere.
-/

import Sambung.IcalParse

namespace Sambung

/-! ### Line breaks -/

theorem removeCrlfFolds_cons {c : Char} {rest : Text}
    (unfolded : ¬ ∃ blank more, (blank = ' ' ∨ blank = '\t') ∧ c = '\r' ∧
      rest = '\n' :: blank :: more) :
    removeCrlfFolds (c :: rest) = c :: removeCrlfFolds rest := by
  rw [removeCrlfFolds]
  · rintro more rfl rfl
    exact unfolded ⟨' ', more, Or.inl rfl, rfl, rfl⟩
  · rintro more rfl rfl
    exact unfolded ⟨'\t', more, Or.inr rfl, rfl, rfl⟩

theorem removeBareFolds_cons {c : Char} {rest : Text}
    (unfolded : ¬ ∃ blank more, (blank = ' ' ∨ blank = '\t') ∧ (c = '\r' ∨ c = '\n') ∧
      rest = blank :: more) :
    removeBareFolds (c :: rest) = c :: removeBareFolds rest := by
  rw [removeBareFolds]
  · rintro more rfl rfl
    exact unfolded ⟨' ', more, Or.inl rfl, Or.inl rfl, rfl⟩
  · rintro more rfl rfl
    exact unfolded ⟨'\t', more, Or.inr rfl, Or.inl rfl, rfl⟩
  · rintro more rfl rfl
    exact unfolded ⟨' ', more, Or.inl rfl, Or.inr rfl, rfl⟩
  · rintro more rfl rfl
    exact unfolded ⟨'\t', more, Or.inr rfl, Or.inr rfl, rfl⟩

/-! ### Lines one after another -/

/-- The text is one line. -/
abbrev Unbroken (text : Text) : Prop := ∀ c ∈ text, c ≠ '\r' ∧ c ≠ '\n'

instance (text : Text) : Decidable (Unbroken text) := text.decidableBAll _

/-- The text is empty or opens with a character that neither breaks nor continues a line. -/
def OpensLine (text : Text) : Prop :=
  ∀ c ∈ text.head?, c ≠ ' ' ∧ c ≠ '\t' ∧ c ≠ '\r' ∧ c ≠ '\n'

theorem removeCrlfFolds_append {text : Text} (unbroken : Unbroken text) (rest : Text) :
    removeCrlfFolds (text ++ rest) = text ++ removeCrlfFolds rest := by
  induction text with
  | nil => rfl
  | cons c text inductionHypothesis =>
    rw [List.cons_append, removeCrlfFolds_cons, inductionHypothesis, List.cons_append]
    · exact fun other member => unbroken other (List.mem_cons_of_mem _ member)
    · rintro ⟨blank, more, -, carriageReturn, -⟩
      exact (unbroken c List.mem_cons_self).1 carriageReturn

theorem removeBareFolds_append {text : Text} (unbroken : Unbroken text) (rest : Text) :
    removeBareFolds (text ++ rest) = text ++ removeBareFolds rest := by
  induction text with
  | nil => rfl
  | cons c text inductionHypothesis =>
    rw [List.cons_append, removeBareFolds_cons, inductionHypothesis, List.cons_append]
    · exact fun other member => unbroken other (List.mem_cons_of_mem _ member)
    · rintro ⟨blank, more, -, carriageReturn | newline, -⟩
      · exact (unbroken c List.mem_cons_self).1 carriageReturn
      · exact (unbroken c List.mem_cons_self).2 newline

theorem OpensLine.not_blank {rest : Text} (opens : OpensLine rest) {blank : Char} {more : Text}
    (same : rest = blank :: more) : ¬ (blank = ' ' ∨ blank = '\t') := by
  rw [same] at opens
  obtain ⟨notSpace, notTab, -⟩ := opens blank rfl
  exact fun either => either.elim notSpace notTab

/-- A line break before a new line is no fold. -/
theorem removeCrlfFolds_break {rest : Text} (opens : OpensLine rest) :
    removeCrlfFolds ('\r' :: '\n' :: rest) = '\r' :: '\n' :: removeCrlfFolds rest := by
  rw [removeCrlfFolds_cons, removeCrlfFolds_cons]
  · rintro ⟨blank, more, -, newline, -⟩
    cases newline
  · rintro ⟨blank, more, either, -, same⟩
    exact opens.not_blank (List.cons.inj same).2 either

theorem removeBareFolds_break {rest : Text} (opens : OpensLine rest) :
    removeBareFolds ('\r' :: '\n' :: rest) = '\r' :: '\n' :: removeBareFolds rest := by
  rw [removeBareFolds_cons, removeBareFolds_cons]
  · rintro ⟨blank, more, either, -, same⟩
    exact opens.not_blank same either
  · rintro ⟨blank, more, either, -, same⟩
    obtain ⟨rfl, -⟩ := List.cons.inj same
    exact either.elim (by decide) (by decide)

/-- An unbroken text is the first line where a line ends behind it. -/
theorem splitLines_closed {text closing : Text} {lines : List Text} (unbroken : Unbroken text)
    (closes : splitLines closing = [] :: lines) : splitLines (text ++ closing) = text :: lines := by
  induction text with
  | nil => exact closes
  | cons c text inductionHypothesis =>
    obtain ⟨notReturn, notNewline⟩ := unbroken c List.mem_cons_self
    rw [List.cons_append, splitLines, inductionHypothesis]
    · rfl
    · exact fun other member => unbroken other (List.mem_cons_of_mem _ member)
    · rintro more rfl
      exact absurd rfl notReturn
    · rintro rfl
      exact absurd rfl notReturn
    · rintro rfl
      exact absurd rfl notNewline

theorem splitLines_append {text : Text} (unbroken : Unbroken text) (rest : Text) :
    splitLines (text ++ '\r' :: '\n' :: rest) = text :: splitLines rest :=
  splitLines_closed unbroken (by rw [splitLines])

theorem OpensLine.removeCrlfFolds {rest : Text} (opens : OpensLine rest) :
    OpensLine (removeCrlfFolds rest) := by
  cases rest with
  | nil => exact opens
  | cons c rest =>
    rw [removeCrlfFolds_cons]
    · exact opens
    · rintro ⟨blank, more, -, carriageReturn, -⟩
      exact (opens c rfl).2.2.1 carriageReturn

end Sambung
