/-
This file is the theory of words with single separators between them.

The texts are those of the regular expression `[letters]+(separator[letters]+)*`.
A text of letters and separators is one of them, if it neither begins nor ends
with a separator nor has two in a row. Collapsing what is between the letters
gives a text without two in a row, and so does any part of it.

The expression is a language in the sense of formal languages, so that a statement
about a pattern is one about membership and not about a matcher. A text is shown
to be one of its words by building it up from its last word, one letter at a time:
`words_of_word`, `words_cons` and `words_across` are the three ways to go on. The
letters are any list, and the separator any character that is none of them.
-/

import Mathlib

namespace Separated

variable {Letter : Type}

/-! ### The regular expression -/

/-- `[letters]`. -/
def oneOf (letters : List Letter) : RegularExpression Letter :=
  letters.foldr (fun letter rest => .char letter + rest) 0

/-- `[letters]+`. -/
def word (letters : List Letter) : RegularExpression Letter :=
  oneOf letters * (oneOf letters).star

/-- `[letters]+(separator[letters]+)*`. -/
def words (letters : List Letter) (separator : Letter) : RegularExpression Letter :=
  word letters * (.char separator * word letters).star

variable {letters : List Letter} {separator : Letter}

theorem mem_oneOf {letter : Letter} (member : letter ∈ letters) :
    [letter] ∈ (oneOf letters).matches' := by
  induction letters with
  | nil => exact absurd member List.not_mem_nil
  | cons first rest inductionHypothesis =>
    rw [oneOf, List.foldr_cons, RegularExpression.matches'_add, Language.mem_add]
    rcases List.mem_cons.mp member with rfl | member
    · exact .inl rfl
    · exact .inr (inductionHypothesis member)

theorem star_cons {expression : RegularExpression Letter} {first rest : List Letter}
    (head : first ∈ expression.matches') (tail : rest ∈ expression.star.matches') :
    first ++ rest ∈ expression.star.matches' := by
  rw [RegularExpression.matches'_star, Language.mem_kstar] at tail ⊢
  obtain ⟨parts, rfl, all⟩ := tail
  exact ⟨first :: parts, rfl, List.forall_mem_cons.mpr ⟨head, all⟩⟩

theorem star_append {expression : RegularExpression Letter} {first last : List Letter}
    (head : first ∈ expression.star.matches') (tail : last ∈ expression.matches') :
    first ++ last ∈ expression.star.matches' := by
  rw [RegularExpression.matches'_star, Language.mem_kstar] at head ⊢
  obtain ⟨parts, rfl, all⟩ := head
  refine ⟨parts ++ [last], by rw [List.flatten_append, List.flatten_singleton], ?_⟩
  exact fun part member => (List.mem_append.mp member).elim (all part)
    fun single => List.mem_singleton.mp single ▸ tail

theorem nil_mem_star (expression : RegularExpression Letter) :
    [] ∈ expression.star.matches' := by
  rw [RegularExpression.matches'_star]
  exact Language.nil_mem_kstar _

theorem mem_comp {first second : RegularExpression Letter} {text rest : List Letter}
    (left : text ∈ first.matches') (right : rest ∈ second.matches') :
    text ++ rest ∈ (first * second).matches' := by
  rw [RegularExpression.matches'_mul]
  exact Language.append_mem_mul left right

theorem mem_comp_iff {first second : RegularExpression Letter} {text : List Letter} :
    text ∈ (first * second).matches' ↔
      ∃ left ∈ first.matches', ∃ right ∈ second.matches', left ++ right = text := by
  rw [RegularExpression.matches'_mul, Language.mem_mul]

theorem mem_word {text : List Letter} (all : ∀ letter ∈ text, letter ∈ letters)
    (filled : text ≠ []) : text ∈ (word letters).matches' := by
  have star : ∀ rest : List Letter, (∀ letter ∈ rest, letter ∈ letters) →
      rest ∈ (oneOf letters).star.matches' := by
    intro rest within
    induction rest with
    | nil => exact nil_mem_star _
    | cons first rest inductionHypothesis =>
      obtain ⟨head, tail⟩ := List.forall_mem_cons.mp within
      exact star_cons (mem_oneOf head) (inductionHypothesis tail)
  cases text with
  | nil => exact absurd rfl filled
  | cons first rest =>
    obtain ⟨head, tail⟩ := List.forall_mem_cons.mp all
    exact mem_comp (mem_oneOf head) (star rest tail)

/-! ### How the texts are built -/

/-- A word alone is one of the texts, with no separator in it. -/
theorem words_of_word {text : List Letter} (single : text ∈ (word letters).matches') :
    text ∈ (words letters separator).matches' :=
  mem_comp_iff.mpr ⟨text, single, [], nil_mem_star _, List.append_nil text⟩

/-- One more letter of the first word. -/
theorem words_cons {letter : Letter} {text : List Letter} (member : letter ∈ letters)
    (rest : text ∈ (words letters separator).matches') :
    letter :: text ∈ (words letters separator).matches' := by
  obtain ⟨first, isWord, others, separated, rfl⟩ := mem_comp_iff.mp rest
  obtain ⟨head, isLetter, tail, letterRun, rfl⟩ := mem_comp_iff.mp isWord
  have longer : [letter] ++ (head ++ tail) ∈ (word letters).matches' :=
    mem_comp (mem_oneOf member) (star_cons isLetter letterRun)
  exact mem_comp longer separated

/-- A letter and a separator in front of one of the texts make another: one more word, of one
letter. -/
theorem words_across {letter : Letter} {text : List Letter} (member : letter ∈ letters)
    (rest : text ∈ (words letters separator).matches') :
    letter :: separator :: text ∈ (words letters separator).matches' := by
  obtain ⟨first, isWord, others, separated, rfl⟩ := mem_comp_iff.mp rest
  have next : [separator] ++ first ∈ (.char separator * word letters :
      RegularExpression Letter).matches' := mem_comp rfl isWord
  exact mem_comp (mem_word (List.forall_mem_singleton.mpr member) (List.cons_ne_nil _ _))
    (star_cons next separated)

/-- A separator and a word behind one of the texts make another: one more word at the end. -/
theorem words_append {text last : List Letter}
    (init : text ∈ (words letters separator).matches') (tail : last ∈ (word letters).matches') :
    text ++ separator :: last ∈ (words letters separator).matches' := by
  obtain ⟨first, isWord, others, separated, rfl⟩ := mem_comp_iff.mp init
  have next : [separator] ++ last ∈ (.char separator * word letters :
      RegularExpression Letter).matches' := mem_comp rfl tail
  rw [List.append_assoc]
  exact mem_comp isWord (star_append separated next)

/-! ### Single separators -/

/-- A text of letters and separators, never two separators in a row. -/
def Spaced (letters : List Letter) (separator : Letter) (text : List Letter) : Prop :=
  (∀ letter ∈ text, letter ∈ letters ∨ letter = separator) ∧
    text.IsChain fun first second => ¬ (first = separator ∧ second = separator)

theorem Spaced.tail {letter : Letter} {text : List Letter}
    (spaced : Spaced letters separator (letter :: text)) : Spaced letters separator text :=
  ⟨fun other member => spaced.1 other (List.mem_cons_of_mem letter member), spaced.2.tail⟩

/-- A part of such a text is one. -/
theorem Spaced.part {part text : List Letter} (spaced : Spaced letters separator text)
    (within : part <:+: text) : Spaced letters separator part := by
  obtain ⟨before, after, rfl⟩ := within
  exact ⟨fun letter member => spaced.1 letter
      (List.mem_append_left after (List.mem_append_right before member)),
    spaced.2.left_of_append.right_of_append⟩

/-- Without a separator at its ends it is one of the texts. -/
theorem Spaced.mem_words {text : List Letter} (spaced : Spaced letters separator text)
    (filled : text ≠ []) (head : text.head? ≠ some separator)
    (last : text.getLast? ≠ some separator) :
    text ∈ (words letters separator).matches' := by
  match text with
  | [] => exact absurd rfl filled
  | [letter] =>
    have member := (spaced.1 letter List.mem_cons_self).resolve_right
      fun same => head (congrArg some same)
    exact words_of_word
      (mem_word (List.forall_mem_singleton.mpr member) (List.cons_ne_nil _ _))
  | letter :: next :: rest =>
    have member := (spaced.1 letter List.mem_cons_self).resolve_right
      fun same => head (congrArg some same)
    rw [List.getLast?_cons_cons] at last
    by_cases gap : next = separator
    · rw [gap] at spaced last ⊢
      have filledRest : rest ≠ [] := by
        rintro rfl
        exact last rfl
      have headRest : rest.head? ≠ some separator := fun same =>
        (List.isChain_cons.mp spaced.tail.2).1 separator same ⟨rfl, rfl⟩
      have lastRest : rest.getLast? ≠ some separator := by
        rwa [List.getLast?_cons_of_ne_nil filledRest] at last
      exact words_across member
        (Spaced.mem_words spaced.tail.tail filledRest headRest lastRest)
    · refine words_cons member (Spaced.mem_words spaced.tail (List.cons_ne_nil _ _) ?_ last)
      exact fun same => gap (Option.some.inj same)
termination_by text.length

/-! ### Collapsing -/

/-- Each run of other characters replaced by one separator, `replace(/[^letters]+/g, separator)`;
`inside` says that a run has begun. -/
def collapse [DecidableEq Letter] (letters : List Letter) (separator : Letter) :
    Bool → List Letter → List Letter
  | _, [] => []
  | inside, letter :: rest =>
    if letter ∈ letters then letter :: collapse letters separator false rest
    else if inside then collapse letters separator true rest
    else separator :: collapse letters separator true rest

theorem collapse_spaced [DecidableEq Letter] (inside : Bool) (text : List Letter)
    (apart : separator ∉ letters) :
    Spaced letters separator (collapse letters separator inside text) ∧
      (inside = true → (collapse letters separator inside text).head? ≠ some separator) := by
  induction text generalizing inside with
  | nil => exact ⟨⟨fun _ none => absurd none List.not_mem_nil, .nil⟩, fun _ => nofun⟩
  | cons letter rest inductionHypothesis =>
    rw [collapse]
    by_cases member : letter ∈ letters
    · rw [if_pos member]
      obtain ⟨spaced, _⟩ := inductionHypothesis false
      have other : letter ≠ separator := fun same => apart (same ▸ member)
      refine ⟨⟨List.forall_mem_cons.mpr ⟨.inl member, spaced.1⟩, ?_⟩,
        fun _ same => other (Option.some.inj same)⟩
      exact List.isChain_cons.mpr ⟨fun _ _ both => other both.1, spaced.2⟩
    · rw [if_neg member]
      obtain ⟨spaced, head⟩ := inductionHypothesis true
      cases inside with
      | true => exact ⟨spaced, head⟩
      | false =>
        refine ⟨⟨List.forall_mem_cons.mpr ⟨.inr rfl, spaced.1⟩, ?_⟩, Bool.noConfusion⟩
        exact List.isChain_cons.mpr ⟨fun next first both => head rfl (both.2 ▸ first), spaced.2⟩

end Separated
