/-
This file states the JavaScript string and date functions the services call, on
strings read as lists of characters: `trim`, `toUpperCase`, `padStart`, runs of
ASCII digits, and the proleptic Gregorian arithmetic of `Date.UTC`.

A JavaScript string is a sequence of UTF-16 units. Every text below comes out of a
UTF-8 decoder or a JSON parser, so it is a sequence of characters; the one place
that counts units (`length`) says so.

Letter case is exact only as far as it bears on ASCII, which is all that the
services compare with. Days are counted from 1970-01-01 by eras of 400 years that
start in March; months and days that run over are carried, as the language
prescribes, and the two-digit years are left to the callers that meet them.
-/

import Sambung.Schema

namespace Sambung

/-- A JavaScript string. -/
abbrev Text := List Char

/-! ### White space and letter case -/

/-- The characters `String.prototype.trim` strips and `\s` matches. -/
def isWhiteSpace (c : Char) : Bool :=
  [0x09, 0x0A, 0x0B, 0x0C, 0x0D, 0x20, 0xA0, 0x1680, 0x2028, 0x2029, 0x202F, 0x205F, 0x3000,
    0xFEFF].contains c.toNat || (0x2000 ≤ c.toNat && c.toNat ≤ 0x200A)

/-- `text.trim()`. -/
def trim (text : Text) : Text :=
  (text.dropWhile isWhiteSpace).rdropWhile isWhiteSpace

/-- The upper-case form of one character, exact wherever it holds an ASCII character. A
letter whose upper-case form holds none stands for itself: no comparison against an ASCII
word can tell the two apart. -/
def upperChar (c : Char) : Text :=
  match c.toNat with
  | 0xDF => ['S', 'S']
  | 0x131 => ['I']
  | 0x149 => [Char.ofNat 0x2BC, 'N']
  | 0x17F => ['S']
  | 0x1F0 => ['J', Char.ofNat 0x30C]
  | 0x1E96 => ['H', Char.ofNat 0x331]
  | 0x1E97 => ['T', Char.ofNat 0x308]
  | 0x1E98 => ['W', Char.ofNat 0x30A]
  | 0x1E99 => ['Y', Char.ofNat 0x30A]
  | 0x1E9A => ['A', Char.ofNat 0x2BE]
  | 0xFB00 => ['F', 'F']
  | 0xFB01 => ['F', 'I']
  | 0xFB02 => ['F', 'L']
  | 0xFB03 => ['F', 'F', 'I']
  | 0xFB04 => ['F', 'F', 'L']
  | 0xFB05 => ['S', 'T']
  | 0xFB06 => ['S', 'T']
  | _ => [c.toUpper]

/-- `text.toUpperCase()`. -/
def toUpperCase (text : Text) : Text := text.flatMap upperChar

/-- The lower-case form of one character, exact wherever it holds an ASCII character. -/
def lowerChar (c : Char) : Text :=
  match c.toNat with
  | 0x130 => ['i', Char.ofNat 0x307]
  | 0x212A => ['k']
  | _ => [c.toLower]

/-- `text.toLowerCase()`. -/
def toLowerCase (text : Text) : Text := text.flatMap lowerChar

/-- `text.length`: the count of UTF-16 units. -/
def utf16Length (text : Text) : Nat :=
  (text.map fun c => if c.toNat ≤ 0xFFFF then 1 else 2).sum

/-! ### Digits -/

/-- The text split after a leading run of exactly `count` digits, `none` where the text does
not open with one: the capture group `(\d{count})`. -/
def leadingDigits (count : Nat) (text : Text) : Option (Text × Text) :=
  if (text.take count).length = count ∧ (text.take count).all Char.isDigit then
    some (text.take count, text.drop count)
  else none

theorem leadingDigits_append {digits : Text} (all : ∀ c ∈ digits, c.isDigit) (rest : Text) :
    leadingDigits digits.length (digits ++ rest) = some (digits, rest) := by
  rw [leadingDigits, List.take_left, List.drop_left, if_pos ⟨rfl, List.all_eq_true.mpr all⟩]

/-- `Number(digits)` on a run of digits. -/
def number (digits : Text) : Nat :=
  digits.foldl (fun value digit => 10 * value + (digit.toNat - '0'.toNat)) 0

/-- `text.padStart(width, '0')`. -/
def padStart (width : Nat) (text : Text) : Text :=
  List.replicate (width - text.length) '0' ++ text

/-- A number in decimal, padded with zeros to `width` digits. -/
def paddedDigits (width n : Nat) : Text := padStart width (Nat.toDigits 10 n)

/-! ### Calendar days -/

/-- A day of the proleptic Gregorian calendar. -/
structure CivilDate where
  year : Int
  month : Int
  day : Int
  deriving DecidableEq, Repr

/-- The count of days from 1970-01-01 to a civil date, by whole 400-year eras of years that
start in March. The day may lie past either end of its month. -/
def daysFromCivil (year month day : Int) : Int :=
  let shifted := if month ≤ 2 then year - 1 else year
  let era := shifted / 400
  let yearOfEra := shifted - era * 400
  let fromMarch := if month > 2 then month - 3 else month + 9
  let dayOfYear := (153 * fromMarch + 2) / 5 + day - 1
  let dayOfEra := yearOfEra * 365 + yearOfEra / 4 - yearOfEra / 100 + dayOfYear
  era * 146097 + dayOfEra - 719468

/-- The civil date a count of days from 1970-01-01 falls on. -/
def civilFromDays (days : Int) : CivilDate :=
  let shifted := days + 719468
  let era := shifted / 146097
  let dayOfEra := shifted - era * 146097
  let yearOfEra :=
    (dayOfEra - dayOfEra / 1460 + dayOfEra / 36524 - dayOfEra / 146096) / 365
  let dayOfYear := dayOfEra - (365 * yearOfEra + yearOfEra / 4 - yearOfEra / 100)
  let fromMarch := (5 * dayOfYear + 2) / 153
  let month := if fromMarch < 10 then fromMarch + 3 else fromMarch - 9
  { year := yearOfEra + era * 400 + (if month ≤ 2 then 1 else 0)
    month
    day := dayOfYear - (153 * fromMarch + 2) / 5 + 1 }

/-- The day number ECMAScript's `MakeDay` gives a year, a month counted from 0 and a date:
a month or a date out of range carries over. -/
def makeDay (year month date : Int) : Int :=
  daysFromCivil (year + month / 12) (month % 12 + 1) 1 + (date - 1)

def MS_PER_DAY : Int := 86400000

/-- A year, month and day as `YYYY-MM-DD`. -/
def isoText (date : CivilDate) : Text :=
  paddedDigits 4 date.year.toNat ++ '-' :: paddedDigits 2 date.month.toNat ++
    '-' :: paddedDigits 2 date.day.toNat

/-- The three numbers of a `YYYY-MM-DD` text. -/
def isoParts : Text → Option (Nat × Nat × Nat)
  | [y₁, y₂, y₃, y₄, '-', m₁, m₂, '-', d₁, d₂] =>
    if [y₁, y₂, y₃, y₄, m₁, m₂, d₁, d₂].all Char.isDigit then
      some (number [y₁, y₂, y₃, y₄], number [m₁, m₂], number [d₁, d₂])
    else none
  | _ => none

def isLeapYear (year : Nat) : Bool :=
  year % 4 = 0 && (year % 100 ≠ 0 || year % 400 = 0)

def daysInMonth (year month : Nat) : Nat :=
  match month with
  | 2 => if isLeapYear year then 29 else 28
  | 4 | 6 | 9 | 11 => 30
  | _ => 31

/-- The day a `YYYY-MM-DD` text names, `none` where the calendar has no such day. -/
def isoDay (text : Text) : Option Int := do
  let (year, month, day) ← isoParts text
  if 1 ≤ month ∧ month ≤ 12 ∧ 1 ≤ day ∧ day ≤ daysInMonth year month then
    some (daysFromCivil year month day)
  else none

example : isoDay "2024-02-29".toList = some 19782 := by decide

example : isoDay "2023-02-29".toList = none := by decide

end Sambung
