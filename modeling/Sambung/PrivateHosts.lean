/-
This file states `private-host.ts`, the one answer to whether the public internet
can reach a host, and proves on which hostnames it is right.

A hostname is what the URL parser serializes: four decimal numbers, a compressed
IPv6 address in brackets, or a domain name. The function matches prefixes and
suffixes of that text, so it can only err where one address reads like another.

Addresses are numbers, and the private ranges are sets of numbers that share their
first bits; the serializers of the URL standard turn them into texts, with the
compression of the longest run of zeros. So the theorem compares a test on texts
with a set of numbers. An IPv6 address is judged by its first piece unless it
reads as one of two special ones; what a first piece opens with is settled by its
count of digits. Three kinds of host read like another, and `Host.Misread` is
their union.
-/

import Mathlib
import Sambung.Foundation.Decimal
import Sambung.Text

namespace Sambung

/-! ### The function -/

def PRIVATE_USE_SUFFIXES : List Text :=
  [".localhost".toList, ".local".toList, ".internal".toList, ".home.arpa".toList]

/-- `hostname.replace(/^\[|\]$/g, '')`. -/
def stripBrackets (hostname : Text) : Text :=
  let opened := if hostname.head? = some '[' then hostname.tail else hostname
  if opened.getLast? = some ']' then opened.dropLast else opened

/-- `/^fe[89ab]/.test(host)`. -/
def opensLinkLocal (host : Text) : Bool :=
  match host with
  | 'f' :: 'e' :: c :: _ => "89ab".toList.contains c
  | _ => false

/-- `/^f[cd]/.test(host)`. -/
def opensUniqueLocal (host : Text) : Bool :=
  match host with
  | 'f' :: c :: _ => "cd".toList.contains c
  | _ => false

/-- The first two numbers of a dotted quad:
`/^(\d{1,3})\.(\d{1,3})\.(\d{1,3})\.(\d{1,3})$/.exec(host)`. -/
def dottedQuad (host : Text) : Option (Nat × Nat) :=
  match host.splitOn '.' with
  | [a, b, c, d] =>
    if [a, b, c, d].all fun part => part ≠ [] && part.length ≤ 3 && part.all Char.isDigit then
      some (number a, number b)
    else none
  | _ => none

def isPrivateHost (hostname : Text) : Bool :=
  let host := stripBrackets (toLowerCase hostname)
  if host = [] then false
  else if host = "localhost".toList ∨ PRIVATE_USE_SUFFIXES.any fun suffix => suffix.isSuffixOf host
  then true
  else if ':' ∈ host then
    if host = "::1".toList ∨ host = "::".toList then true
    else if opensLinkLocal host then true
    else if opensUniqueLocal host then true
    else false
  else
    match dottedQuad host with
    | none => false
    | some (a, b) =>
      if a = 0 ∨ a = 10 ∨ a = 127 then true
      else if a = 169 ∧ b = 254 then true
      else if a = 172 ∧ b ≥ 16 ∧ b ≤ 31 then true
      else if a = 192 ∧ b = 168 then true
      else false

/-! ### Hosts -/

/-- The IPv4 serializer: the four bytes in decimal. -/
def serializeIpv4 (address : Nat) : Text :=
  List.intercalate ['.'] ([address / 2 ^ 24, address / 2 ^ 16 % 2 ^ 8, address / 2 ^ 8 % 2 ^ 8,
    address % 2 ^ 8].map (Nat.toDigits 10))

/-- The eight pieces of an IPv6 address. -/
def pieces (address : Nat) : List Nat :=
  [address / 2 ^ 112, address / 2 ^ 96 % 2 ^ 16, address / 2 ^ 80 % 2 ^ 16,
    address / 2 ^ 64 % 2 ^ 16, address / 2 ^ 48 % 2 ^ 16, address / 2 ^ 32 % 2 ^ 16,
    address / 2 ^ 16 % 2 ^ 16, address % 2 ^ 16]

/-- How many zero pieces a list opens with. -/
def zeroRun (pieces : List Nat) : Nat := (pieces.takeWhile (· = 0)).length

/-- Where the first longest run of at least two zero pieces starts. -/
def compressedPieceIndex (pieces : List Nat) : Option Nat :=
  let longest := ((List.range 8).map fun index => zeroRun (pieces.drop index)).foldl max 0
  if longest ≤ 1 then none
  else (List.range 8).find? fun index => zeroRun (pieces.drop index) = longest

/-- The pieces from one on in hexadecimal, the compressed run as `::`. -/
def serializePieces (compress : Option Nat) : Nat → Bool → List Nat → Text
  | _, _, [] => []
  | index, ignore0, piece :: rest =>
    if ignore0 ∧ piece = 0 then serializePieces compress (index + 1) true rest
    else if compress = some index then
      (if index = 0 then "::".toList else ":".toList) ++
        serializePieces compress (index + 1) true rest
    else
      Nat.toDigits 16 piece ++ (if index = 7 then [] else [':']) ++
        serializePieces compress (index + 1) false rest

/-- The IPv6 serializer, without the brackets. -/
def serializeIpv6 (address : Nat) : Text :=
  serializePieces (compressedPieceIndex (pieces address)) 0 false (pieces address)

example : serializeIpv6 0xffff7f000001 = "::ffff:7f00:1".toList := by decide +kernel

/-- The last label is a number, so that the URL parser takes the host for an IPv4 address. -/
def EndsInNumber (name : Text) : Prop :=
  let labels := name.splitOn '.'
  let labels := if labels.getLast? = some [] then labels.dropLast else labels
  ∃ last, labels.getLast? = some last ∧
    (last ≠ [] ∧ last.all Char.isDigit ∨
      ∃ rest, last = '0' :: 'x' :: rest ∧ rest.all fun c => "0123456789abcdef".toList.contains c)

/-- A domain name as the URL parser leaves it: lower-case ASCII without the forbidden
characters, and no IPv4 address. -/
structure Domain where
  text : Text
  nonempty : text ≠ []
  ascii : ∀ c ∈ text, 0x20 < c.toNat ∧ c.toNat < 0x7F ∧ ¬ c.isUpper
  allowed : ∀ c ∈ text, c ∉ "#%/:<>?@[\\]^|".toList
  named : ¬ EndsInNumber text

inductive Host where
  | ipv4 (address : Fin (2 ^ 32))
  | ipv6 (address : Fin (2 ^ 128))
  | domain (name : Domain)

/-- `url.hostname`. -/
def Host.hostname : Host → Text
  | .ipv4 address => serializeIpv4 address
  | .ipv6 address => '[' :: (serializeIpv6 address ++ [']'])
  | .domain name => name.text

/-! ### Private hosts -/

/-- The address is in the range of the addresses that share the first `length` bits. -/
def InRange (width address base length : Nat) : Prop :=
  address / 2 ^ (width - length) = base / 2 ^ (width - length)

/-- `a.b.0.0`. -/
def ipv4Base (a b : Nat) : Nat := (a * 256 + b) * 2 ^ 16

/-- The private and special ranges of IPv4. -/
def PrivateIpv4 (address : Nat) : Prop :=
  InRange 32 address (ipv4Base 0 0) 8 ∨ InRange 32 address (ipv4Base 127 0) 8 ∨
    InRange 32 address (ipv4Base 10 0) 8 ∨ InRange 32 address (ipv4Base 172 16) 12 ∨
    InRange 32 address (ipv4Base 192 168) 16 ∨ InRange 32 address (ipv4Base 169 254) 16

/-- The address is `::ffff:0:0/96`, an IPv4 address mapped into IPv6, and that one is private. -/
def MappedPrivate (address : Nat) : Prop :=
  InRange 128 address (0xffff * 2 ^ 32) 96 ∧ PrivateIpv4 (address % 2 ^ 32)

def PrivateIpv6 (address : Nat) : Prop :=
  address = 0 ∨ address = 1 ∨ InRange 128 address (0xfe80 * 2 ^ 112) 10 ∨
    InRange 128 address (0xfc00 * 2 ^ 112) 7 ∨ MappedPrivate address

/-- `localhost`, or a name under a top level no public name is under. -/
def SpecialUse (name : Text) : Prop :=
  name = "localhost".toList ∨ ∃ suffix ∈ PRIVATE_USE_SUFFIXES, suffix <:+ name

/-- The name without its trailing dot. -/
def withoutTrailingDot (name : Text) : Text :=
  if name.getLast? = some '.' then name.dropLast else name

def Host.Private : Host → Prop
  | .ipv4 address => PrivateIpv4 address
  | .ipv6 address => PrivateIpv6 address
  | .domain name => SpecialUse (withoutTrailingDot name.text)

/-- The first piece reads like a longer one of a private range: `fe8` to `feb`, `fc` and `fd`,
and `fc0` to `fdf`. -/
def ShortPiece (piece : Nat) : Prop :=
  0xfe8 ≤ piece ∧ piece ≤ 0xfeb ∨ 0xfc ≤ piece ∧ piece ≤ 0xfd ∨ 0xfc0 ≤ piece ∧ piece ≤ 0xfdf

/-- The hosts that read like another: a private IPv4 address mapped into IPv6, an IPv6 address
whose first piece is short, and a special-use name with a trailing dot. -/
def Host.Misread : Host → Prop
  | .ipv4 _ => False
  | .ipv6 address => MappedPrivate address ∨ ShortPiece (address / 2 ^ 112)
  | .domain name => name.text.getLast? = some '.' ∧ SpecialUse name.text.dropLast

/-! ### Chains of tests -/

/-- One test of a chain that answers true at the first that holds. -/
theorem test_or_rest (test : Prop) [Decidable test] (rest : Bool) :
    (if test then true else rest) = true ↔ test ∨ rest = true := by
  rw [Bool.if_true_left, Bool.or_eq_true, decide_eq_true_eq]

/-! ### Lower case and brackets -/

theorem toLowerCase_eq {text : Text} (low : ∀ c ∈ text, c.toNat < 0x80 ∧ ¬ c.isUpper) :
    toLowerCase text = text := by
  have each : ∀ c : Char, c.toNat < 0x80 → ¬ c.isUpper → lowerChar c = [c] := by
    intro c ascii notUpper
    have kept : c.toLower = c := by
      unfold Char.toLower
      refine dif_neg fun upper => notUpper ?_
      simpa [Char.isUpper] using upper
    unfold lowerChar
    split
    · omega
    · omega
    · rw [kept]
  induction text with
  | nil => rfl
  | cons c text inductionHypothesis =>
    obtain ⟨ascii, notUpper⟩ := low c List.mem_cons_self
    show lowerChar c ++ toLowerCase text = c :: text
    rw [each c ascii notUpper, inductionHypothesis fun other member =>
      low other (List.mem_cons_of_mem _ member)]
    rfl

theorem stripBrackets_bracketed (text : Text) : stripBrackets ('[' :: (text ++ [']'])) = text := by
  have last : (text ++ [']']).getLast? = some ']' := List.getLast?_concat
  show (if (text ++ [']']).getLast? = some ']' then (text ++ [']']).dropLast else _) = text
  rw [if_pos last, List.dropLast_concat]

theorem stripBrackets_plain {text : Text} (opening : '[' ∉ text) (closing : ']' ∉ text) :
    stripBrackets text = text := by
  have first : text.head? ≠ some '[' := fun head => opening (List.mem_of_head? head)
  have last : text.getLast? ≠ some ']' := fun tail => closing (List.mem_of_getLast? tail)
  unfold stripBrackets
  rw [if_neg first]
  exact if_neg last

/-! ### Dotted quads -/

theorem number_toDigits (n : Nat) : number (Nat.toDigits 10 n) = n :=
  Decimal.value_toDigits n

/-- A number of at most three digits, in decimal. -/
theorem decimalPart {n : Nat} (fits : n < 1000) :
    (decide (Nat.toDigits 10 n ≠ []) && decide ((Nat.toDigits 10 n).length ≤ 3) &&
      (Nat.toDigits 10 n).all Char.isDigit) = true := by
  have short := (Nat.length_toDigits_le_iff (show 1 < 10 by decide) (show 0 < 3 by decide)).mpr fits
  have digits : ∀ c ∈ Nat.toDigits 10 n, c.isDigit := fun c member =>
    Nat.isDigit_of_mem_toDigits (by decide) (by decide) member
  rw [decide_eq_true Nat.toDigits_ne_nil, decide_eq_true short, List.all_eq_true.mpr digits]
  rfl

theorem dot_notMem_toDigits (n : Nat) : '.' ∉ Nat.toDigits 10 n := fun member =>
  absurd (Nat.isDigit_of_mem_toDigits (by decide) (by decide) member) (by decide)

/-- Four decimal numbers between dots are read back. -/
theorem dottedQuad_intercalate {a b c d : Nat} (aFits : a < 1000) (bFits : b < 1000)
    (cFits : c < 1000) (dFits : d < 1000) :
    dottedQuad (List.intercalate ['.'] ([a, b, c, d].map (Nat.toDigits 10))) = some (a, b) := by
  have parts : (List.intercalate ['.'] ([a, b, c, d].map (Nat.toDigits 10))).splitOn '.' =
      [a, b, c, d].map (Nat.toDigits 10) := by
    refine List.splitOn_intercalate '.' (fun part member => ?_) (List.cons_ne_nil _ _)
    obtain ⟨n, -, rfl⟩ := List.mem_map.mp member
    exact dot_notMem_toDigits n
  unfold dottedQuad
  rw [parts]
  show (if _ then _ else _) = _
  rw [List.all_cons, List.all_cons, List.all_cons, List.all_cons, List.all_nil, decimalPart aFits,
    decimalPart bFits, decimalPart cFits, decimalPart dFits, number_toDigits, number_toDigits]
  rfl

/-- A host that reads as a dotted quad ends in a number. -/
theorem endsInNumber_of_quad {host : Text} {found : Nat × Nat}
    (quad : dottedQuad host = some found) : EndsInNumber host := by
  unfold dottedQuad at quad
  split at quad
  · rename_i a b c d parts
    split at quad
    · rename_i digits
      simp only [List.all_cons, List.all_nil, Bool.and_true, Bool.and_eq_true,
        decide_eq_true_eq] at digits
      obtain ⟨-, -, -, ⟨nonempty, -⟩, all⟩ := digits
      have last : [a, b, c, d].getLast? ≠ some [] := by simpa using nonempty
      unfold EndsInNumber
      rw [parts]
      dsimp only
      rw [if_neg last]
      exact ⟨d, rfl, Or.inl ⟨nonempty, all⟩⟩
    · cases quad
  · cases quad

/-! ### IPv4 -/

theorem serializeIpv4_char {address : Nat} {c : Char} (member : c ∈ serializeIpv4 address) :
    c.isDigit ∨ c = '.' := by
  have each : ∀ n, ∀ digit ∈ Nat.toDigits 10 n, digit.isDigit := fun n digit among =>
    Nat.isDigit_of_mem_toDigits (by decide) (by decide) among
  simp only [serializeIpv4, List.intercalate, List.map_cons, List.map_nil, List.intersperse,
    List.flatten_cons, List.flatten_nil, List.mem_append, List.append_nil,
    List.mem_cons, List.not_mem_nil, or_false] at member
  rcases member with member | rfl | member | rfl | member | rfl | member
  · exact Or.inl (each _ c member)
  · exact Or.inr rfl
  · exact Or.inl (each _ c member)
  · exact Or.inr rfl
  · exact Or.inl (each _ c member)
  · exact Or.inr rfl
  · exact Or.inl (each _ c member)

/-- A host without the characters that mark the special-use names is none of them. -/
theorem not_specialUse {host marks : Text} (absent : ∀ c ∈ marks, c ∉ host)
    (marked : ("localhost".toList :: PRIVATE_USE_SUFFIXES).all
      (fun special => marks.any special.contains) = true) : ¬ SpecialUse host := by
  have each : ∀ special ∈ "localhost".toList :: PRIVATE_USE_SUFFIXES, ∃ c ∈ marks, c ∈ special := by
    intro special known
    obtain ⟨c, mark, present⟩ := List.any_eq_true.mp (List.all_eq_true.mp marked special known)
    exact ⟨c, mark, List.contains_iff_mem.mp present⟩
  rintro (rfl | ⟨suffix, known, ends⟩)
  · obtain ⟨c, mark, present⟩ := each _ List.mem_cons_self
    exact absent c mark present
  · obtain ⟨c, mark, present⟩ := each suffix (List.mem_cons_of_mem _ known)
    exact absent c mark (ends.mem present)

theorem specialUse_iff (host : Text) :
    (host = "localhost".toList ∨
      (PRIVATE_USE_SUFFIXES.any fun suffix => suffix.isSuffixOf host) = true) ↔
      SpecialUse host := by
  unfold SpecialUse
  rw [List.any_eq_true]
  simp only [List.isSuffixOf_iff_suffix]

/-- IPv4 addresses are all judged right: their text determines their first two numbers, which is
what the ranges are about. -/
theorem isPrivateHost_ipv4 (address : Fin (2 ^ 32)) :
    isPrivateHost (serializeIpv4 address) = true ↔ PrivateIpv4 address := by
  obtain ⟨address, fits⟩ := address
  show isPrivateHost (serializeIpv4 address) = true ↔ PrivateIpv4 address
  have chars : ∀ c ∈ serializeIpv4 address, 46 ≤ c.toNat ∧ c.toNat ≤ 57 ∧ c ≠ '/' := by
    intro c member
    rcases serializeIpv4_char member with digit | rfl
    · obtain ⟨low, high⟩ := Decimal.isDigit_bounds digit
      refine ⟨by omega, high, ?_⟩
      rintro rfl
      exact absurd low (by decide)
    · decide
  have absent : ∀ c : Char, c.toNat < 46 ∨ 57 < c.toNat → c ∉ serializeIpv4 address := by
    intro c outside member
    have bounds := chars c member
    omega
  have lower : toLowerCase (serializeIpv4 address) = serializeIpv4 address := by
    refine toLowerCase_eq fun c member => ?_
    have bounds := chars c member
    refine ⟨by omega, fun upper => ?_⟩
    simp [Char.isUpper, UInt32.le_iff_toNat_le] at upper
    have same : c.toNat = c.val.toNat := rfl
    omega
  have plain : stripBrackets (serializeIpv4 address) = serializeIpv4 address :=
    stripBrackets_plain (absent _ (by decide)) (absent _ (by decide))
  have quad : dottedQuad (serializeIpv4 address) =
      some (address / 2 ^ 24, address / 2 ^ 16 % 2 ^ 8) :=
    dottedQuad_intercalate (by omega) (by omega) (by omega) (by omega)
  have nonempty : serializeIpv4 address ≠ [] := by
    intro empty
    rw [empty] at quad
    cases quad
  have notSpecial : ¬ SpecialUse (serializeIpv4 address) :=
    not_specialUse (fun c mark => absent c (by rw [List.mem_singleton.mp mark]; decide))
      (show (_ :: PRIVATE_USE_SUFFIXES).all (fun special => ['a'].any special.contains) = true by
        decide)
  have notColon : ':' ∉ serializeIpv4 address := absent _ (by decide)
  unfold isPrivateHost
  rw [lower, plain]
  dsimp only
  rw [if_neg nonempty, if_neg (mt (specialUse_iff _).mp notSpecial), if_neg notColon, quad]
  show (if _ then _ else _) = true ↔ _
  rw [test_or_rest, test_or_rest, test_or_rest, test_or_rest, or_iff_left Bool.false_ne_true]
  simp only [PrivateIpv4, InRange, ipv4Base]
  omega

/-! ### IPv6 -/

theorem mem_toDigits_16 {n : Nat} {c : Char} (member : c ∈ Nat.toDigits 16 n) :
    c ∈ "0123456789abcdef".toList := by
  have digit : ∀ d : Fin 16, (d : Nat).digitChar ∈ "0123456789abcdef".toList := by decide
  induction n using Nat.strong_induction_on with
  | _ n inductionHypothesis =>
    rw [Nat.toDigits_eq_if (by decide)] at member
    split at member
    · rename_i small
      rw [List.mem_singleton.mp member]
      exact digit ⟨n, small⟩
    · rename_i large
      rcases List.mem_append.mp member with before | last
      · exact inductionHypothesis (n / 16) (by omega) before
      · rw [List.mem_singleton.mp last]
        exact digit ⟨n % 16, Nat.mod_lt n (by decide)⟩

/-- The characters of an address: hexadecimal digits and colons. -/
theorem mem_serializePieces {compress : Option Nat} {index : Nat} {ignore0 : Bool}
    {rest : List Nat} {c : Char} (member : c ∈ serializePieces compress index ignore0 rest) :
    c ∈ ":0123456789abcdef".toList := by
  induction rest generalizing index ignore0 with
  | nil => cases member
  | cons piece rest inductionHypothesis =>
    rw [serializePieces] at member
    split at member
    · exact inductionHypothesis member
    · split at member
      · rcases List.mem_append.mp member with colons | after
        · split at colons
          · simp at colons
            simp [colons]
          · simp at colons
            simp [colons]
        · exact inductionHypothesis after
      · rcases List.mem_append.mp member with piecePart | after
        · rcases List.mem_append.mp piecePart with digits | colon
          · exact List.mem_cons_of_mem _ (mem_toDigits_16 digits)
          · split at colon
            · cases colon
            · rw [List.mem_singleton.mp colon]
              exact List.mem_cons_self
        · exact inductionHypothesis after

/-- Behind the compressed run nothing is left of zeros, and `1` is a last piece 1. -/
theorem serializePieces_ignoring {index : Nat} {rest : List Nat} (later : 1 ≤ index)
    (eight : index + rest.length = 8) :
    (serializePieces (some 0) index true rest = [] → ∀ piece ∈ rest, piece = 0) ∧
      (serializePieces (some 0) index true rest = ['1'] →
        ∃ zeros, rest = List.replicate zeros 0 ++ [1]) := by
  induction rest generalizing index with
  | nil => exact ⟨fun _ piece none => absurd none List.not_mem_nil, fun one => by cases one⟩
  | cons piece rest inductionHypothesis =>
    rw [List.length_cons] at eight
    obtain ⟨blank, one⟩ := inductionHypothesis (Nat.le_succ_of_le later)
      (show index + 1 + rest.length = 8 by omega)
    rw [serializePieces]
    by_cases zero : piece = 0
    · rw [if_pos ⟨rfl, zero⟩]
      refine ⟨fun empty other member => ?_, fun shown => ?_⟩
      · rcases List.mem_cons.mp member with rfl | among
        · exact zero
        · exact blank empty other among
      · obtain ⟨zeros, rfl⟩ := one shown
        exact ⟨zeros + 1, by rw [zero, List.replicate_succ, List.cons_append]⟩
    · have notStart : (some 0 : Option Nat) ≠ some index := by
        intro same
        cases same
        exact absurd later (by decide)
      rw [if_neg fun both => zero both.2, if_neg notStart]
      obtain ⟨first, digits, shown⟩ :=
        List.exists_cons_of_ne_nil (Nat.toDigits_ne_nil (n := piece) (b := 16))
      refine ⟨fun empty => ?_, fun single => ?_⟩
      · rw [shown] at empty
        cases empty
      · rw [shown, List.cons_append, List.cons_append] at single
        obtain ⟨rfl, alone⟩ := List.cons.inj single
        rw [List.append_eq_nil_iff, List.append_eq_nil_iff] at alone
        obtain ⟨⟨rfl, separator⟩, -⟩ := alone
        have last : index = 7 := by
          by_contra middle
          rw [if_neg middle] at separator
          cases separator
        have none : rest = [] := List.length_eq_zero_iff.mp (by omega)
        have small : piece < 16 := by
          have short := (Nat.length_toDigits_le_iff (n := piece) (k := 1)
            (show 1 < 16 by decide) (by decide)).mp (by rw [shown]; decide)
          exact short
        have value : piece = 1 := by
          rw [Nat.toDigits_of_lt_base small] at shown
          have digit : ∀ d : Fin 16, (d : Nat).digitChar = '1' → (d : Nat) = 1 := by decide
          exact digit ⟨piece, small⟩ (List.cons.inj shown).1
        exact ⟨0, by rw [none, value]; rfl⟩

/-- An address whose compressed run comes first opens with two colons, and any other with its
first piece. -/
theorem serializeIpv6_opens (address : Nat) :
    (compressedPieceIndex (pieces address) = some 0 ∧ address / 2 ^ 112 = 0 ∧
      serializeIpv6 address =
        "::".toList ++ serializePieces (some 0) 1 true (pieces address).tail) ∨
    ∃ more, serializeIpv6 address = Nat.toDigits 16 (address / 2 ^ 112) ++ ':' :: more := by
  unfold serializeIpv6
  by_cases first : compressedPieceIndex (pieces address) = some 0
  · refine Or.inl ⟨first, ?_, ?_⟩
    · by_contra nonzero
      unfold compressedPieceIndex at first
      dsimp only at first
      split at first
      · cases first
      · rename_i long
        have run := List.find?_some first
        have none : zeroRun ((pieces address).drop 0) = 0 := by
          show ((pieces address).takeWhile _).length = 0
          rw [pieces, List.takeWhile_cons_of_neg (by simpa using nonzero)]
          rfl
        rw [decide_eq_true_eq, none] at run
        omega
    · rw [first]
      rfl
  · refine Or.inr ⟨serializePieces (compressedPieceIndex (pieces address)) (0 + 1) false
      (pieces address).tail, ?_⟩
    show serializePieces _ 0 false ((address / 2 ^ 112) :: (pieces address).tail) = _
    rw [serializePieces, if_neg (fun both => Bool.false_ne_true both.1), if_neg first,
      if_neg (by decide), List.append_assoc, List.singleton_append]

/-- An address is determined by its pieces. -/
theorem pieces_injective {address other : Nat} (same : pieces address = pieces other) :
    address = other := by
  have next : ∀ bits, address / 2 ^ (bits + 16) = other / 2 ^ (bits + 16) →
      address / 2 ^ bits % 2 ^ 16 = other / 2 ^ bits % 2 ^ 16 →
        address / 2 ^ bits = other / 2 ^ bits := by
    intro bits quotients remainders
    rw [pow_add, ← Nat.div_div_eq_div_mul, ← Nat.div_div_eq_div_mul] at quotients
    rw [← Nat.div_add_mod (address / 2 ^ bits) (2 ^ 16), quotients, remainders, Nat.div_add_mod]
  simp only [pieces, List.cons.injEq] at same
  obtain ⟨first, second, third, fourth, fifth, sixth, seventh, last, -⟩ := same
  have half : address / 2 ^ 64 = other / 2 ^ 64 :=
    next 64 (next 80 (next 96 first second) third) fourth
  have rest : address / 2 ^ 16 = other / 2 ^ 16 :=
    next 16 (next 32 (next 48 half fifth) sixth) seventh
  rw [← Nat.div_add_mod address (2 ^ 16), rest, last, Nat.div_add_mod]

/-- The unspecified address and the loopback, and no other, read so. -/
theorem serializeIpv6_special_iff {address : Nat} (fits : address < 2 ^ 128) :
    serializeIpv6 address = "::1".toList ∨ serializeIpv6 address = "::".toList ↔
      address = 0 ∨ address = 1 := by
  constructor
  · intro special
    rcases serializeIpv6_opens address with ⟨-, first, shown⟩ | ⟨more, shown⟩
    · have eight : 1 + (pieces address).tail.length = 8 := by
        simp only [pieces, List.tail_cons, List.length_cons, List.length_nil]
      obtain ⟨blank, one⟩ := serializePieces_ignoring le_rfl eight
      rw [shown] at special
      rcases special with loopback | unspecified
      · obtain ⟨zeros, same⟩ := one (List.append_cancel_left loopback)
        have length : zeros = 6 := by
          have lengths := congrArg List.length same
          rw [List.length_append, List.length_replicate] at lengths
          exact (Nat.succ.inj lengths).symm
        refine .inr (pieces_injective ?_)
        show address / 2 ^ 112 :: (pieces address).tail = pieces 1
        rw [first, same, length]
        decide
      · have zeros := blank (List.append_cancel_left (unspecified.trans (List.append_nil _).symm))
        refine .inl (pieces_injective ?_)
        show address / 2 ^ 112 :: (pieces address).tail = pieces 0
        rw [first, List.eq_replicate_of_mem zeros]
        rfl
    · obtain ⟨digit, digits, nonempty⟩ :=
        List.exists_cons_of_ne_nil (Nat.toDigits_ne_nil (n := address / 2 ^ 112) (b := 16))
      have hexadecimal := mem_toDigits_16 (n := address / 2 ^ 112)
        (nonempty ▸ List.mem_cons_self : digit ∈ Nat.toDigits 16 (address / 2 ^ 112))
      have colon : digit = ':' := by
        rw [shown, nonempty] at special
        rcases special with same | same
        · exact (List.cons.inj same).1
        · exact (List.cons.inj same).1
      rw [colon] at hexadecimal
      exact absurd hexadecimal (by decide)
  · rintro (rfl | rfl)
    · exact Or.inr (by decide +kernel)
    · exact Or.inl (by decide +kernel)

/-- A piece has at most four hexadecimal digits, and its size tells how many; each is the digit of a
quotient or of a remainder. -/
theorem toDigits_16_cases {piece : Nat} (fits : piece < 2 ^ 16) :
    piece < 16 ∧ Nat.toDigits 16 piece = [piece.digitChar] ∨
    (16 ≤ piece ∧ piece < 256) ∧
      Nat.toDigits 16 piece = [(piece / 16).digitChar, (piece % 16).digitChar] ∨
    (256 ≤ piece ∧ piece < 4096) ∧
      Nat.toDigits 16 piece =
        [(piece / 256).digitChar, (piece / 16 % 16).digitChar, (piece % 16).digitChar] ∨
    4096 ≤ piece ∧
      Nat.toDigits 16 piece =
        [(piece / 4096).digitChar, (piece / 256 % 16).digitChar, (piece / 16 % 16).digitChar,
          (piece % 16).digitChar] := by
  have one : ∀ n, n < 16 → Nat.toDigits 16 n = [n.digitChar] := fun n small =>
    Nat.toDigits_of_lt_base small
  have more : ∀ n, 16 ≤ n → Nat.toDigits 16 n = Nat.toDigits 16 (n / 16) ++ [(n % 16).digitChar] :=
    fun n large => Nat.toDigits_of_base_le (by decide) large
  rcases (show piece < 16 ∨ (16 ≤ piece ∧ piece < 256) ∨ (256 ≤ piece ∧ piece < 4096) ∨
      4096 ≤ piece by omega) with small | two | three | four
  · exact Or.inl ⟨small, one piece small⟩
  · refine Or.inr (Or.inl ⟨two, ?_⟩)
    rw [more piece two.1, one _ (by omega)]
    rfl
  · refine Or.inr (Or.inr (Or.inl ⟨three, ?_⟩))
    rw [more piece (by omega), more (piece / 16) (by omega), Nat.div_div_eq_div_mul,
      one _ (by omega)]
    rfl
  · refine Or.inr (Or.inr (Or.inr ⟨four, ?_⟩))
    rw [more piece (by omega), more (piece / 16) (by omega), Nat.div_div_eq_div_mul,
      more (piece / (16 * 16)) (by omega), Nat.div_div_eq_div_mul, one _ (by omega)]
    rfl

/-- What a hexadecimal digit is read as. -/
theorem hexDigit_iff {d : Nat} (small : d < 16) :
    (d.digitChar = 'f' ↔ d = 15) ∧ (d.digitChar = 'e' ↔ d = 14) ∧
      ("89ab".toList.contains d.digitChar = true ↔ 8 ≤ d ∧ d ≤ 11) ∧
      ("cd".toList.contains d.digitChar = true ↔ 12 ≤ d ∧ d ≤ 13) := by
  have each : ∀ d : Fin 16, ((d : Nat).digitChar = 'f' ↔ (d : Nat) = 15) ∧
      ((d : Nat).digitChar = 'e' ↔ (d : Nat) = 14) ∧
      ("89ab".toList.contains (d : Nat).digitChar = true ↔ 8 ≤ (d : Nat) ∧ (d : Nat) ≤ 11) ∧
      ("cd".toList.contains (d : Nat).digitChar = true ↔ 12 ≤ (d : Nat) ∧ (d : Nat) ≤ 13) := by
    decide
  exact each ⟨d, small⟩

theorem opensLinkLocal_cons (a b c : Char) (rest : Text) :
    opensLinkLocal (a :: b :: c :: rest) = true ↔
      a = 'f' ∧ b = 'e' ∧ "89ab".toList.contains c = true := by
  unfold opensLinkLocal
  split
  · rename_i same
    injection same with first same
    injection same with second same
    injection same with third _
    subst first second third
    simp
  · rename_i other
    refine iff_of_false Bool.false_ne_true ?_
    rintro ⟨rfl, rfl, -⟩
    exact other c rest rfl

theorem opensUniqueLocal_cons (a b : Char) (rest : Text) :
    opensUniqueLocal (a :: b :: rest) = true ↔ a = 'f' ∧ "cd".toList.contains b = true := by
  unfold opensUniqueLocal
  split
  · rename_i same
    injection same with first same
    injection same with second _
    subst first second
    simp
  · rename_i other
    refine iff_of_false Bool.false_ne_true ?_
    rintro ⟨rfl, -⟩
    exact other b rest rfl

/-- Which first pieces open like a link-local one: those of the range, and shorter ones that read
like its first three digits. -/
theorem opensLinkLocal_piece {piece : Nat} (fits : piece < 2 ^ 16) (more : Text) :
    opensLinkLocal (Nat.toDigits 16 piece ++ ':' :: more) = true ↔
      0xfe8 ≤ piece ∧ piece ≤ 0xfeb ∨ 0xfe80 ≤ piece ∧ piece ≤ 0xfebf := by
  rcases toDigits_16_cases fits with ⟨size, shown⟩ | ⟨size, shown⟩ | ⟨size, shown⟩ | ⟨size, shown⟩
  · rw [shown]
    refine iff_of_false ?_ (by omega)
    cases more with
    | nil => exact Bool.false_ne_true ∘ fun opens => (by simp [opensLinkLocal] at opens)
    | cons c more =>
      show ¬ opensLinkLocal (piece.digitChar :: ':' :: c :: more) = true
      rw [opensLinkLocal_cons]
      rintro ⟨-, colon, -⟩
      exact absurd colon (by decide)
  · rw [shown]
    refine iff_of_false ?_ (by omega)
    show ¬ opensLinkLocal ((piece / 16).digitChar :: (piece % 16).digitChar :: ':' :: more) = true
    rw [opensLinkLocal_cons]
    rintro ⟨-, -, colon⟩
    exact absurd colon (by decide)
  · obtain ⟨first, -⟩ := hexDigit_iff (show piece / 256 < 16 by omega)
    obtain ⟨-, second, -⟩ := hexDigit_iff (show piece / 16 % 16 < 16 by omega)
    obtain ⟨-, -, third, -⟩ := hexDigit_iff (show piece % 16 < 16 by omega)
    rw [shown]
    show opensLinkLocal ((piece / 256).digitChar :: (piece / 16 % 16).digitChar ::
      (piece % 16).digitChar :: ':' :: more) = true ↔ _
    rw [opensLinkLocal_cons, first, second, third]
    omega
  · obtain ⟨first, -⟩ := hexDigit_iff (show piece / 4096 < 16 by omega)
    obtain ⟨-, second, -⟩ := hexDigit_iff (show piece / 256 % 16 < 16 by omega)
    obtain ⟨-, -, third, -⟩ := hexDigit_iff (show piece / 16 % 16 < 16 by omega)
    rw [shown]
    show opensLinkLocal ((piece / 4096).digitChar :: (piece / 256 % 16).digitChar ::
      (piece / 16 % 16).digitChar :: (piece % 16).digitChar :: ':' :: more) = true ↔ _
    rw [opensLinkLocal_cons, first, second, third]
    omega

/-- Which first pieces open like a unique local one. -/
theorem opensUniqueLocal_piece {piece : Nat} (fits : piece < 2 ^ 16) (more : Text) :
    opensUniqueLocal (Nat.toDigits 16 piece ++ ':' :: more) = true ↔
      0xfc ≤ piece ∧ piece ≤ 0xfd ∨ 0xfc0 ≤ piece ∧ piece ≤ 0xfdf ∨
        0xfc00 ≤ piece ∧ piece ≤ 0xfdff := by
  rcases toDigits_16_cases fits with ⟨size, shown⟩ | ⟨size, shown⟩ | ⟨size, shown⟩ | ⟨size, shown⟩
  · rw [shown]
    refine iff_of_false ?_ (by omega)
    show ¬ opensUniqueLocal (piece.digitChar :: ':' :: more) = true
    rw [opensUniqueLocal_cons]
    rintro ⟨-, colon⟩
    exact absurd colon (by decide)
  · obtain ⟨first, -⟩ := hexDigit_iff (show piece / 16 < 16 by omega)
    obtain ⟨-, -, -, second⟩ := hexDigit_iff (show piece % 16 < 16 by omega)
    rw [shown]
    show opensUniqueLocal ((piece / 16).digitChar :: (piece % 16).digitChar :: ':' :: more) =
      true ↔ _
    rw [opensUniqueLocal_cons, first, second]
    omega
  · obtain ⟨first, -⟩ := hexDigit_iff (show piece / 256 < 16 by omega)
    obtain ⟨-, -, -, second⟩ := hexDigit_iff (show piece / 16 % 16 < 16 by omega)
    rw [shown]
    show opensUniqueLocal ((piece / 256).digitChar :: (piece / 16 % 16).digitChar ::
      (piece % 16).digitChar :: ':' :: more) = true ↔ _
    rw [opensUniqueLocal_cons, first, second]
    omega
  · obtain ⟨first, -⟩ := hexDigit_iff (show piece / 4096 < 16 by omega)
    obtain ⟨-, -, -, second⟩ := hexDigit_iff (show piece / 256 % 16 < 16 by omega)
    rw [shown]
    show opensUniqueLocal ((piece / 4096).digitChar :: (piece / 256 % 16).digitChar ::
      (piece / 16 % 16).digitChar :: (piece % 16).digitChar :: ':' :: more) = true ↔ _
    rw [opensUniqueLocal_cons, first, second]
    omega

/-- What an IPv6 address is judged by: itself, or its first piece. -/
theorem isPrivateHost_ipv6 {address : Nat} (fits : address < 2 ^ 128) :
    isPrivateHost ('[' :: (serializeIpv6 address ++ [']'])) = true ↔
      address = 0 ∨ address = 1 ∨ ShortPiece (address / 2 ^ 112) ∨
        (0xfe80 ≤ address / 2 ^ 112 ∧ address / 2 ^ 112 ≤ 0xfebf) ∨
        (0xfc00 ≤ address / 2 ^ 112 ∧ address / 2 ^ 112 ≤ 0xfdff) := by
  have chars : ∀ c ∈ serializeIpv6 address, c ∈ ":0123456789abcdef".toList := fun c member =>
    mem_serializePieces member
  have absent : ∀ c : Char, c ∉ ":0123456789abcdef".toList → c ∉ serializeIpv6 address :=
    fun c other member => other (chars c member)
  have lower : toLowerCase ('[' :: (serializeIpv6 address ++ [']'])) =
      '[' :: (serializeIpv6 address ++ [']']) := by
    have low : ("[]:0123456789abcdef".toList.all fun c => decide (c.toNat < 0x80 ∧ ¬ c.isUpper)) =
        true := by decide
    refine toLowerCase_eq fun c member => of_decide_eq_true (List.all_eq_true.mp low c ?_)
    rcases List.mem_cons.mp member with rfl | member
    · decide
    · rcases List.mem_append.mp member with member | last
      · exact List.mem_cons_of_mem _ (List.mem_cons_of_mem _ (chars c member))
      · rw [List.mem_singleton.mp last]
        decide
  have colon : ':' ∈ serializeIpv6 address := by
    rcases serializeIpv6_opens address with ⟨-, -, shown⟩ | ⟨more, shown⟩
    · rw [shown]
      exact List.mem_cons_self
    · rw [shown]
      exact List.mem_append_right _ List.mem_cons_self
  have nonempty : serializeIpv6 address ≠ [] := List.ne_nil_of_mem colon
  have notSpecial : ¬ SpecialUse (serializeIpv6 address) := by
    refine not_specialUse (fun c mark => absent c ?_)
      (show (_ :: PRIVATE_USE_SUFFIXES).all (fun special => ['l', '.'].any special.contains) = true
        by decide)
    rcases List.mem_cons.mp mark with rfl | mark
    · decide
    · rw [List.mem_singleton.mp mark]
      decide
  unfold isPrivateHost
  rw [lower, stripBrackets_bracketed]
  dsimp only
  rw [if_neg nonempty, if_neg (mt (specialUse_iff _).mp notSpecial), if_pos colon]
  rw [test_or_rest, test_or_rest, test_or_rest, or_iff_left Bool.false_ne_true,
    serializeIpv6_special_iff fits, or_assoc]
  refine or_congr_right (or_congr_right ?_)
  rcases serializeIpv6_opens address with ⟨-, first, shown⟩ | ⟨more, shown⟩
  · rw [shown, first]
    generalize serializePieces (some 0) 1 true (pieces address).tail = rest
    have notLinkLocal : opensLinkLocal (':' :: ':' :: rest) = false := rfl
    have notUniqueLocal : opensUniqueLocal (':' :: ':' :: rest) = false := rfl
    refine iff_of_false ?_ (by simp [ShortPiece])
    rintro (opens | opens)
    · exact Bool.false_ne_true (notLinkLocal.symm.trans opens)
    · exact Bool.false_ne_true (notUniqueLocal.symm.trans opens)
  · have pieceFits : address / 2 ^ 112 < 2 ^ 16 := by omega
    rw [shown, opensLinkLocal_piece pieceFits, opensUniqueLocal_piece pieceFits, ShortPiece]
    omega

/-! ### Domains -/

/-- A name is judged as it stands, trailing dot included. -/
theorem isPrivateHost_domain (name : Domain) :
    isPrivateHost name.text = true ↔ SpecialUse name.text := by
  have lower : toLowerCase name.text = name.text := by
    refine toLowerCase_eq fun c member => ?_
    obtain ⟨-, high, notUpper⟩ := name.ascii c member
    exact ⟨by omega, notUpper⟩
  have absent : ∀ c ∈ "#%/:<>?@[\\]^|".toList, c ∉ name.text := fun c forbidden member =>
    name.allowed c member forbidden
  have plain : stripBrackets name.text = name.text :=
    stripBrackets_plain (absent _ (by decide)) (absent _ (by decide))
  have noQuad : dottedQuad name.text = none := by
    by_contra quad
    obtain ⟨found, shown⟩ := Option.ne_none_iff_exists'.mp quad
    exact name.named (endsInNumber_of_quad shown)
  unfold isPrivateHost
  rw [lower, plain]
  dsimp only
  rw [if_neg name.nonempty, if_neg (absent ':' (by decide)), noQuad]
  by_cases special : SpecialUse name.text
  · rw [if_pos ((specialUse_iff _).mpr special)]
    exact iff_of_true rfl special
  · rw [if_neg (mt (specialUse_iff _).mp special)]
    exact iff_of_false Bool.false_ne_true special

/-- No special-use name ends in a dot. -/
theorem SpecialUse.getLast?_ne {name : Text} (special : SpecialUse name) :
    name.getLast? ≠ some '.' := by
  rcases special with rfl | ⟨suffix, known, before, rfl⟩
  · decide
  · have ends : ∀ suffix ∈ PRIVATE_USE_SUFFIXES, suffix ≠ [] ∧ suffix.getLast? ≠ some '.' := by
      decide
    obtain ⟨nonempty, last⟩ := ends suffix known
    rwa [List.getLast?_append_of_ne_nil _ nonempty]

/-! ### Where the function is right -/

/-- The function is right about exactly the hosts that do not read like another. A host is any IPv4
address, any IPv6 address and any domain name, written as the URL parser serializes it; private are
the ranges and names that the function's own comments list. -/
theorem isPrivateHost_iff (host : Host) :
    (isPrivateHost host.hostname = true ↔ host.Private) ↔ ¬ host.Misread := by
  cases host with
  | ipv4 address => exact iff_of_true (isPrivateHost_ipv4 address) id
  | ipv6 address =>
    obtain ⟨address, fits⟩ := address
    show (isPrivateHost ('[' :: (serializeIpv6 address ++ [']'])) = true ↔ PrivateIpv6 address) ↔
      ¬ (MappedPrivate address ∨ ShortPiece (address / 2 ^ 112))
    have linkLocal : InRange 128 address (0xfe80 * 2 ^ 112) 10 ↔
        0xfe80 ≤ address / 2 ^ 112 ∧ address / 2 ^ 112 ≤ 0xfebf := by
      unfold InRange
      omega
    have uniqueLocal : InRange 128 address (0xfc00 * 2 ^ 112) 7 ↔
        0xfc00 ≤ address / 2 ^ 112 ∧ address / 2 ^ 112 ≤ 0xfdff := by
      unfold InRange
      omega
    have mapped : MappedPrivate address → 1 < address ∧ address / 2 ^ 112 = 0 := by
      rintro ⟨range, -⟩
      unfold InRange at range
      omega
    have short : ShortPiece (address / 2 ^ 112) → 1 < address ∧ 0 < address / 2 ^ 112 ∧
        address / 2 ^ 112 < 0xfc00 := by
      unfold ShortPiece
      omega
    rw [isPrivateHost_ipv6 fits, PrivateIpv6, linkLocal, uniqueLocal]
    by_cases isMapped : MappedPrivate address
    · obtain ⟨large, zero⟩ := mapped isMapped
      have notShort : ¬ ShortPiece (address / 2 ^ 112) := fun isShort => by
        have := (short isShort).2.1
        omega
      refine iff_of_false (fun right => ?_) (not_not.mpr (Or.inl isMapped))
      rcases right.mpr (Or.inr (Or.inr (Or.inr (Or.inr isMapped)))) with
        none | one | isShort | link | unique
      · omega
      · omega
      · exact notShort isShort
      · omega
      · omega
    · by_cases isShort : ShortPiece (address / 2 ^ 112)
      · obtain ⟨large, positive, below⟩ := short isShort
        refine iff_of_false (fun right => ?_) (not_not.mpr (Or.inr isShort))
        rcases right.mp (Or.inr (Or.inr (Or.inl isShort))) with
          none | one | link | unique | mappedToo
        · omega
        · omega
        · omega
        · omega
        · exact isMapped mappedToo
      · refine iff_of_true ?_ (not_or.mpr ⟨isMapped, isShort⟩)
        rw [or_iff_right isShort, or_iff_left isMapped]
  | domain name =>
    show (isPrivateHost name.text = true ↔ SpecialUse (withoutTrailingDot name.text)) ↔
      ¬ (name.text.getLast? = some '.' ∧ SpecialUse name.text.dropLast)
    rw [isPrivateHost_domain, withoutTrailingDot]
    by_cases dotted : name.text.getLast? = some '.'
    · have notSpecial : ¬ SpecialUse name.text := fun special => special.getLast?_ne dotted
      rw [if_pos dotted, iff_false_left notSpecial, and_iff_right dotted]
    · rw [if_neg dotted]
      exact iff_of_true Iff.rfl fun both => dotted both.1

/-- `127.0.0.1`, mapped into IPv6. -/
def mappedLoopback : Host := .ipv6 ⟨0xffff7f000001, by norm_num⟩

/-- A public address whose first piece is `fe8`. -/
def shortPieceHost : Host := .ipv6 ⟨0xfe8 * 2 ^ 112 + 1, by norm_num⟩

/-- Loopback, mapped into IPv6, is taken for public, and a public address for link-local. -/
theorem mappedLoopback_misread :
    mappedLoopback.hostname = "[::ffff:7f00:1]".toList ∧
      isPrivateHost mappedLoopback.hostname = false ∧ mappedLoopback.Private ∧
      shortPieceHost.hostname = "[fe8::1]".toList ∧
      isPrivateHost shortPieceHost.hostname = true ∧ ¬ shortPieceHost.Private ∧
      isPrivateHost "localhost.".toList = false := by
  refine ⟨by decide +kernel, by decide +kernel, ?_, by decide +kernel, by decide +kernel, ?_,
    by decide +kernel⟩
  · norm_num [mappedLoopback, Host.Private, PrivateIpv6, MappedPrivate, PrivateIpv4, InRange,
      ipv4Base]
  · norm_num [shortPieceHost, Host.Private, PrivateIpv6, MappedPrivate, InRange]

end Sambung
