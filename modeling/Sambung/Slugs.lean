/-
This file states how a property gets its slug, `slug.ts` and `create` of
`properties.service.ts`, and proves that every candidate has the form the table
asks for.

Compatibility decomposition, `normalize("NFKD")`, is a parameter, and the random
tokens are inputs. Other transactions may commit between two inserts of a create,
so each insert finds a table of its own.

The pattern is a regular language, and a candidate is shown to be one of its
words: what is left of a name is a part of a collapsed text without a dash at
either end, a token is a word of letters, and two words with a dash between them
are a word. The name is cut to a fixed length, and loses the dash that the cut may
have left at its end. A create fails when every candidate is taken, and never on
the form.
-/

import Sambung.Foundation.Separated
import Sambung.Schema
import Sambung.Text

namespace Sambung

/-! ### The generator -/

def MAX_BASE_LENGTH : Nat := 60

def TOKEN_ALPHABET : Text := "23456789bcdfghjkmnpqrstvwxyz".toList

def TOKEN_LENGTH : Nat := 5

/-- `[a-z0-9]`. -/
def SLUG_LETTERS : List Char := "abcdefghijklmnopqrstuvwxyz0123456789".toList

/-- `/^[a-z0-9]+(-[a-z0-9]+)*$/`. -/
def SLUG_PATTERN : RegularExpression Char := Separated.words SLUG_LETTERS '-'

/-- One outcome of the draws `Math.floor(Math.random() * TOKEN_ALPHABET.length)` of a token. -/
abbrev Draws := Fin TOKEN_LENGTH → Fin TOKEN_ALPHABET.length

def randomToken (draws : Draws) : Text := List.ofFn fun i => TOKEN_ALPHABET.get (draws i)

/-- `/[\u0300-\u036f]/`. -/
def isCombiningMark (c : Char) : Bool := 0x300 ≤ c.toNat && c.toNat ≤ 0x36F

/-- What is left of a name, `base`. When it is cut it holds only letters, digits and dashes, a
UTF-16 unit each. -/
def slugBase (nfkd : Text → Text) (name : Text) : Text :=
  let decomposed := (nfkd name).filter fun c => ¬ isCombiningMark c
  let dashed := Separated.collapse SLUG_LETTERS '-' false (toLowerCase decomposed)
  let trimmed := (dashed.dropWhile (· = '-')).rdropWhile (· = '-')
  (trimmed.take MAX_BASE_LENGTH).rdropWhile (· = '-')

def slugifyName (nfkd : Text → Text) (name : Text) (fallback : Draws) : Text :=
  let base := slugBase nfkd name
  if base.length > 0 then base else "property-".toList ++ randomToken fallback

/-- What the generator yields, to its end. -/
def slugCandidates (nfkd : Text → Text) (name : Text) (fallback : Draws) (retries : Fin 4 → Draws) :
    List Text :=
  let base := slugifyName nfkd name fallback
  base :: List.ofFn fun i => base ++ '-' :: randomToken (retries i)

/-! ### The create -/

/-- `CreatePropertyRequest`, as far as the table checks it. -/
structure CreatePropertyRequest where
  name : Text
  depositPct : Option Int
  timeZone : Option String

/-- A row of `property`, as far as the table checks it. -/
structure PropertyRow where
  tenantId : Uuid
  name : Text
  slug : Text
  depositPct : Int
  timeZone : String
  deriving DecidableEq, Repr

/-- `~ '^[a-z0-9]+(-[a-z0-9]+)*$'`. -/
def property_slug_format : RegularExpression Char := Separated.words SLUG_LETTERS '-'

/-- The check a row violates first: they are taken by name. -/
def violatedCheck (row : PropertyRow) : Option String :=
  if ¬ (1 ≤ row.depositPct ∧ row.depositPct ≤ 100) then some "property_deposit_pct_range"
  else if row.slug ∉ property_slug_format.matches' then some "property_slug_format"
  else if row.timeZone ∉ ["Asia/Jakarta", "Asia/Makassar", "Asia/Jayapura"] then
    some "property_time_zone_known"
  else none

/-- How a create throws. -/
inductive CreateFailure where
  | check (constraint : String)
  | internalServerError (message : String)
  deriving DecidableEq, Repr

/-- The insert: nothing where the slug is taken, whoever has it. -/
def createWithSlug (property : List PropertyRow) (values : PropertyRow) :
    Except CreateFailure (Option PropertyRow) :=
  match violatedCheck values with
  | some constraint => .error (.check constraint)
  | none => .ok (if property.any (·.slug = values.slug) then none else some values)

/-- The loop of `create` over the candidates left, with the table each insert finds. -/
def mintSlug (values : Text → PropertyRow) :
    List (Text × List PropertyRow) → Except CreateFailure PropertyRow
  | [] => .error (.internalServerError "Could not mint a unique slug for this property")
  | (slug, property) :: rest => do
    match ← createWithSlug property (values slug) with
    | some row => pure row
    | none => mintSlug values rest

def createProperty (nfkd : Text → Text) (tenantId : Uuid) (dto : CreatePropertyRequest)
    (fallback : Draws) (retries : Fin 4 → Draws) (property : Nat → List PropertyRow) :
    Except CreateFailure PropertyRow :=
  let values (slug : Text) : PropertyRow :=
    { tenantId, slug, name := dto.name, depositPct := dto.depositPct.getD 100,
      timeZone := dto.timeZone.getD "Asia/Makassar" }
  mintSlug values ((slugCandidates nfkd dto.name fallback retries).mapIdx fun attempt slug =>
    (slug, property attempt))

/-! ### The form of a slug -/

theorem mem_letters_of_all {text : Text} (all : text.all (· ∈ SLUG_LETTERS) = true) {c : Char}
    (member : c ∈ text) : c ∈ SLUG_LETTERS :=
  of_decide_eq_true (List.all_eq_true.mp all c member)

theorem length_randomToken (draws : Draws) : (randomToken draws).length = 5 :=
  List.length_ofFn

/-- A token is a word of the pattern. -/
theorem randomToken_word (draws : Draws) :
    randomToken draws ∈ (Separated.word SLUG_LETTERS).matches' := by
  refine Separated.mem_word (fun c member => ?_) ?_
  · obtain ⟨i, rfl⟩ := List.mem_ofFn.mp member
    have all : TOKEN_ALPHABET.all (· ∈ SLUG_LETTERS) = true := by decide +kernel
    exact mem_letters_of_all all (List.get_mem _ _)
  · exact List.ne_nil_of_length_eq_add_one (length_randomToken draws)

theorem length_slugBase (nfkd : Text → Text) (name : Text) :
    (slugBase nfkd name).length ≤ 60 :=
  (List.rdropWhile_prefix _ _).length_le.trans (List.length_take_le _ _)

/-- What is left of a name, if anything is, has the form: it is a part of the dashed text that
begins where the leading dashes end, and its own trailing dashes are dropped last. -/
theorem slugBase_pattern {nfkd : Text → Text} {name : Text} (filled : slugBase nfkd name ≠ []) :
    slugBase nfkd name ∈ SLUG_PATTERN.matches' := by
  let dashed := Separated.collapse SLUG_LETTERS '-' false
    (toLowerCase ((nfkd name).filter fun c => ¬ isCombiningMark c))
  let started := dashed.dropWhile (· = '-')
  have begins : slugBase nfkd name <+: started :=
    (List.rdropWhile_prefix _ _).trans
      ((List.take_prefix _ _).trans (List.rdropWhile_prefix _ _))
  have spaced : Separated.Spaced SLUG_LETTERS '-' dashed :=
    (Separated.collapse_spaced false _ (by decide +kernel)).1
  refine (spaced.part (begins.isInfix.trans (List.dropWhile_suffix _).isInfix)).mem_words
    filled ?_ ?_
  · obtain ⟨rest, split⟩ := begins
    have same : started.head? = (slugBase nfkd name).head? := by
      rw [← split, List.head?_append_of_ne_nil _ filled]
    intro dash
    have starts := List.head?_dropWhile_not (fun c : Char => decide (c = '-')) dashed
    rw [show dashed.dropWhile (fun c : Char => decide (c = '-')) = started from rfl, same, dash]
      at starts
    exact absurd (show decide ('-' = '-') = false from starts) (by decide)
  · intro dash
    have ends := List.rdropWhile_last_not (fun c : Char => decide (c = '-')) _ filled
    rw [List.getLast?_eq_getLast_of_ne_nil filled] at dash
    exact ends (decide_eq_true (Option.some.inj dash))

example : slugBase id "  The Villa -- by the Sea!! ".toList = "the-villa-by-the-sea".toList := by
  decide +kernel

/-- A slug of a name, the fallback included, has the form and at most 60 characters. -/
theorem slugifyName_pattern (nfkd : Text → Text) (name : Text) (fallback : Draws) :
    slugifyName nfkd name fallback ∈ SLUG_PATTERN.matches' ∧
      (slugifyName nfkd name fallback).length ≤ 60 := by
  rw [slugifyName]
  by_cases empty : slugBase nfkd name = []
  · rw [empty]
    have property : "property".toList ∈ SLUG_PATTERN.matches' :=
      Separated.words_of_word (Separated.mem_word
        (fun _ => mem_letters_of_all (by decide +kernel)) (by decide +kernel))
    have tail := Separated.words_append property (randomToken_word fallback)
    refine ⟨tail, ?_⟩
    show ("property-".toList ++ randomToken fallback).length ≤ 60
    rw [List.length_append, length_randomToken]
    decide +kernel
  · rw [if_pos (List.length_pos_of_ne_nil empty)]
    exact ⟨slugBase_pattern empty, length_slugBase nfkd name⟩

/-- Every candidate has the form, and is at most 66 characters long. -/
theorem candidates_pattern {nfkd : Text → Text} {name : Text} {fallback : Draws}
    {retries : Fin 4 → Draws} {slug : Text}
    (member : slug ∈ slugCandidates nfkd name fallback retries) :
    slug ∈ SLUG_PATTERN.matches' ∧ slug.length ≤ 66 := by
  obtain ⟨pattern, short⟩ := slugifyName_pattern nfkd name fallback
  rcases List.mem_cons.mp member with rfl | suffixed
  · exact ⟨pattern, short.trans (by decide)⟩
  · obtain ⟨i, rfl⟩ := List.mem_ofFn.mp suffixed
    refine ⟨Separated.words_append pattern (randomToken_word (retries i)), ?_⟩
    rw [List.length_append, List.length_cons, length_randomToken]
    omega

/-! ### The create does not fail on it -/

/-- The check of a slug's form is violated only by a slug of another form. -/
theorem violatedCheck_slug {row : PropertyRow}
    (violated : violatedCheck row = some "property_slug_format") :
    row.slug ∉ property_slug_format.matches' := by
  intro form
  rw [violatedCheck] at violated
  split_ifs at violated <;> exact absurd (Option.some.inj violated) (by decide)

/-- A loop over slugs of the form does not violate the check. -/
theorem mintSlug_format {values : Text → PropertyRow} (slugs : ∀ slug, (values slug).slug = slug)
    {attempts : List (Text × List PropertyRow)}
    (form : ∀ attempt ∈ attempts, attempt.1 ∈ property_slug_format.matches') :
    mintSlug values attempts ≠ .error (.check "property_slug_format") := by
  induction attempts with
  | nil => exact nofun
  | cons attempt rest inductionHypothesis =>
    obtain ⟨head, tail⟩ := List.forall_mem_cons.mp form
    obtain ⟨slug, property⟩ := attempt
    intro failed
    rw [mintSlug, createWithSlug] at failed
    cases violated : violatedCheck (values slug) with
    | some constraint =>
      rw [violated] at failed
      have same : constraint = "property_slug_format" :=
        CreateFailure.check.inj (Except.error.inj failed)
      refine violatedCheck_slug (violated.trans (congrArg some same)) ?_
      rw [slugs slug]
      exact head
    | none =>
      rw [violated] at failed
      by_cases taken : property.any (·.slug = (values slug).slug) = true
      · rw [if_pos taken] at failed
        exact inductionHypothesis tail failed
      · rw [if_neg taken] at failed
        change (Except.ok (values slug) : Except CreateFailure PropertyRow) = _ at failed
        cases failed

/-- Whatever the name and the draws, every candidate matches the pattern and the check, and is at
most 66 characters long. A create never fails on the check, whatever each of its inserts finds in
the table. The decomposition is any function, so the slug does not rest on it; other transactions
may take a slug between two of the inserts. -/
theorem slugs_acceptable (nfkd : Text → Text) (tenantId : Uuid) (dto : CreatePropertyRequest)
    (fallback : Draws) (retries : Fin 4 → Draws) (property : Nat → List PropertyRow) :
    (∀ slug ∈ slugCandidates nfkd dto.name fallback retries,
      slug ∈ SLUG_PATTERN.matches' ∧ slug ∈ property_slug_format.matches' ∧ slug.length ≤ 66) ∧
    createProperty nfkd tenantId dto fallback retries property ≠
      .error (.check "property_slug_format") := by
  refine ⟨fun slug member => ?_, mintSlug_format (fun _ => rfl) fun attempt member => ?_⟩
  · obtain ⟨pattern, short⟩ := candidates_pattern member
    exact ⟨pattern, pattern, short⟩
  · obtain ⟨i, bound, rfl⟩ := List.mem_mapIdx.mp member
    exact (candidates_pattern (List.getElem_mem bound)).1

end Sambung
