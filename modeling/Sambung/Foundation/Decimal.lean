/-
This file is the theory of fixed-width decimals: numbers written with a known
count of digits, padded with zeros in front.

At one width the texts and the numbers are the same ordered set: reading undoes
writing, writing undoes reading, and the texts compare as strings the way the
numbers compare.

Reading is Horner's rule from the left and has no failure: a character that is no
digit counts as whatever its code gives, and only the lemmas ask for digits. The
facts on reading are inductions over the text with its last digit split off, and
those on writing inductions over the width. Together they let a text of digits be
replaced by its number wherever two of them are compared.
-/

import Mathlib.Data.List.Basic
import Mathlib.Tactic

namespace Decimal

/-- The number a run of decimal digits spells. -/
def value (digits : List Char) : Nat :=
  digits.foldl (fun sum digit => 10 * sum + (digit.toNat - '0'.toNat)) 0

/-- A number in decimal, padded with zeros to `width` digits. -/
def padded (width n : Nat) : List Char :=
  List.replicate (width - (Nat.toDigits 10 n).length) '0' ++ Nat.toDigits 10 n

/-! ### Digits -/

theorem isDigit_bounds {c : Char} (digit : c.isDigit) : 48 ≤ c.toNat ∧ c.toNat ≤ 57 := by
  simp only [Char.isDigit, Bool.and_eq_true, decide_eq_true_eq, ge_iff_le] at digit
  exact ⟨digit.1, digit.2⟩

theorem digitChar_toNat {c : Char} (digit : c.isDigit) :
    Nat.digitChar (c.toNat - '0'.toNat) = c := by
  obtain ⟨low, high⟩ := isDigit_bounds digit
  apply Char.toNat_inj.mp
  show (Nat.digitChar (c.toNat - 48)).toNat = c.toNat
  rw [Nat.toNat_digitChar_of_lt_ten (by omega)]
  omega

theorem digit_lt {c : Char} (digit : c.isDigit) : c.toNat - '0'.toNat < 10 := by
  have bounds := isDigit_bounds digit
  show c.toNat - 48 < 10
  omega

theorem toNat_digitChar {d : Nat} (small : d < 10) :
    (Nat.digitChar d).toNat - '0'.toNat = d := by
  rw [Nat.toNat_digitChar_of_lt_ten small]
  show 48 + d - 48 = d
  omega

/-! ### Reading -/

theorem value_concat (digits : List Char) (last : Char) :
    value (digits ++ [last]) = 10 * value digits + (last.toNat - '0'.toNat) := by
  rw [value, List.foldl_append]
  rfl

theorem value_cons (first : Char) (digits : List Char) :
    value (first :: digits) =
      (first.toNat - '0'.toNat) * 10 ^ digits.length + value digits := by
  induction digits using List.reverseRecOn with
  | nil => simp [value]
  | append_singleton digits last inductionHypothesis =>
    rw [← List.cons_append, value_concat, inductionHypothesis, value_concat, List.length_append,
      List.length_singleton, pow_succ]
    ring

theorem value_lt {digits : List Char} (all : ∀ c ∈ digits, c.isDigit) :
    value digits < 10 ^ digits.length := by
  induction digits with
  | nil => exact Nat.one_pos
  | cons first digits inductionHypothesis =>
    have small := digit_lt (all first List.mem_cons_self)
    have rest := inductionHypothesis fun c member => all c (List.mem_cons_of_mem _ member)
    rw [value_cons, List.length_cons, pow_succ]
    nlinarith [Nat.mul_le_mul_right (10 ^ digits.length) (Nat.le_of_lt_succ small)]

/-- The decimal digits of a number spell it. -/
theorem value_toDigits (n : Nat) : value (Nat.toDigits 10 n) = n := by
  induction n using Nat.strong_induction_on with
  | _ n inductionHypothesis =>
    rw [Nat.toDigits_eq_if (by decide)]
    split
    · rename_i small
      show 10 * 0 + _ = n
      rw [toNat_digitChar small, Nat.mul_zero, Nat.zero_add]
    · have smaller : n / 10 < n := by omega
      rw [value_concat, inductionHypothesis _ smaller, toNat_digitChar (Nat.mod_lt n (by decide))]
      exact Nat.div_add_mod n 10

/-- At one width the texts compare as the numbers they spell. -/
theorem value_lt_value {first second : List Char} (width : first.length = second.length)
    (firstDigits : ∀ c ∈ first, c.isDigit) (secondDigits : ∀ c ∈ second, c.isDigit) :
    first < second ↔ value first < value second := by
  induction first generalizing second with
  | nil =>
    rw [List.length_eq_zero_iff.mp width.symm]
    simp
  | cons a first inductionHypothesis =>
    cases second with
    | nil => cases width
    | cons b second =>
      have sameLength : first.length = second.length := Nat.succ.inj width
      have firstRest : ∀ c ∈ first, c.isDigit := fun c member =>
        firstDigits c (List.mem_cons_of_mem _ member)
      have secondRest : ∀ c ∈ second, c.isDigit := fun c member =>
        secondDigits c (List.mem_cons_of_mem _ member)
      obtain ⟨aLow, aHigh⟩ := isDigit_bounds (firstDigits a List.mem_cons_self)
      obtain ⟨bLow, bHigh⟩ := isDigit_bounds (secondDigits b List.mem_cons_self)
      have firstBound := value_lt firstRest
      have secondBound := value_lt secondRest
      rw [List.cons_lt_cons_iff, inductionHypothesis sameLength firstRest secondRest, value_cons,
        value_cons, ← sameLength]
      rw [← sameLength] at secondBound
      show a.toNat < b.toNat ∨ _ ↔
        (a.toNat - 48) * 10 ^ first.length + _ < (b.toNat - 48) * 10 ^ first.length + _
      rcases lt_trichotomy a.toNat b.toNat with less | same | more
      · have apart : a.toNat - 48 + 1 ≤ b.toNat - 48 := by omega
        have scaled := Nat.mul_le_mul_right (10 ^ first.length) apart
        rw [Nat.add_mul, Nat.one_mul] at scaled
        exact ⟨fun _ => by omega, fun _ => Or.inl less⟩
      · rw [same, Char.toNat_inj.mp same]
        simp
      · have apart : b.toNat - 48 + 1 ≤ a.toNat - 48 := by omega
        have scaled := Nat.mul_le_mul_right (10 ^ first.length) apart
        rw [Nat.add_mul, Nat.one_mul] at scaled
        refine ⟨?_, fun _ => by omega⟩
        rintro (less | ⟨same, -⟩)
        · exact absurd less (by omega)
        · exact absurd (congrArg Char.toNat same) (by omega)

/-! ### Writing -/

theorem padded_succ {width : Nat} (positive : 0 < width) (quotient : Nat) {d : Nat}
    (small : d < 10) :
    padded (width + 1) (10 * quotient + d) = padded width quotient ++ [Nat.digitChar d] := by
  by_cases zero : quotient = 0
  · subst zero
    rw [Nat.mul_zero, Nat.zero_add, padded, padded, Nat.toDigits_of_lt_base small,
      Nat.toDigits_zero]
    show List.replicate (width + 1 - 1) '0' ++ _ = List.replicate (width - 1) '0' ++ ['0'] ++ _
    rw [← List.replicate_succ', Nat.sub_add_cancel positive, Nat.add_sub_cancel]
  · have split := Nat.toDigits_append_toDigits (show 1 < 10 by decide)
      (Nat.pos_of_ne_zero zero) small
    rw [padded, padded, ← split, Nat.toDigits_of_lt_base small, List.length_append,
      List.length_singleton, Nat.add_sub_add_right, List.append_assoc]

/-- Writing undoes reading: a run of digits is the number it spells, written at its own width. -/
theorem padded_value {digits : List Char} (nonempty : digits ≠ [])
    (all : ∀ c ∈ digits, c.isDigit) : padded digits.length (value digits) = digits := by
  induction digits using List.reverseRecOn with
  | nil => exact absurd rfl nonempty
  | append_singleton digits last inductionHypothesis =>
    have lastDigit := all last (List.mem_append_right _ (List.mem_singleton.mpr rfl))
    have firstDigits : ∀ c ∈ digits, c.isDigit := fun c member =>
      all c (List.mem_append_left _ member)
    by_cases empty : digits = []
    · subst empty
      show padded 1 (value ([] ++ [last])) = [last]
      rw [value_concat]
      show padded 1 (10 * 0 + _) = _
      rw [Nat.mul_zero, Nat.zero_add, padded, Nat.toDigits_of_lt_base (digit_lt lastDigit),
        digitChar_toNat lastDigit]
      rfl
    · rw [value_concat, List.length_append, List.length_singleton,
        padded_succ (List.length_pos_of_ne_nil empty) _ (digit_lt lastDigit),
        inductionHypothesis empty firstDigits, digitChar_toNat lastDigit]

/-- A number that fits the width is written as that many digits, which spell it. -/
theorem padded_spec {width n : Nat} (positive : 0 < width) (fits : n < 10 ^ width) :
    (padded width n).length = width ∧ (∀ c ∈ padded width n, c.isDigit) ∧
      value (padded width n) = n := by
  induction width generalizing n with
  | zero => exact absurd positive (lt_irrefl 0)
  | succ width inductionHypothesis =>
    by_cases single : width = 0
    · subst single
      have small : n < 10 := by simpa using fits
      have digits : padded 1 n = [Nat.digitChar n] := by
        rw [padded, Nat.toDigits_of_lt_base small]
        rfl
      rw [Nat.zero_add, digits]
      refine ⟨rfl, fun c member => ?_, ?_⟩
      · rw [List.mem_singleton.mp member, Nat.isDigit_digitChar]
        exact decide_eq_true small
      · show 10 * 0 + ((Nat.digitChar n).toNat - '0'.toNat) = n
        rw [toNat_digitChar small, Nat.mul_zero, Nat.zero_add]
    · have small : n % 10 < 10 := Nat.mod_lt _ (by decide)
      have quotient : n / 10 < 10 ^ width := by
        rw [pow_succ] at fits
        omega
      obtain ⟨length, digits, spelled⟩ := inductionHypothesis (Nat.pos_of_ne_zero single) quotient
      have split := padded_succ (Nat.pos_of_ne_zero single) (n / 10) small
      rw [Nat.div_add_mod] at split
      rw [split]
      refine ⟨by rw [List.length_append, length, List.length_singleton], ?_, ?_⟩
      · intro c member
        rcases List.mem_append.mp member with early | last
        · exact digits c early
        · rw [List.mem_singleton.mp last]
          generalize n % 10 = d at small
          interval_cases d <;> decide
      · rw [value_concat, spelled, toNat_digitChar small, Nat.div_add_mod]

end Decimal
