/-
This file proves what the split of a content line finds.

The first colon ends the left part, so a colon in a quoted value is taken for the
end of the parameters. In the left part `;TZID=` is searched for as text: it is
found where the parameter stands, unless a quoted value in front of it holds the
same text.

Both readings are made exact. The value is read right exactly where no quoted
value holds a colon. The search is a walk over the ends of the left part, and
`tzidParam_skip` passes over a text none of whose ends opens the pattern; so a
name, a plain value and an unsuspicious quoted value are passed over, and the
search stops at the parameter itself. From there on what is read is what the
quotation marks and blanks leave of its value, which is the legibility that the
last condition asks for.
-/

import Sambung.ContentLines

namespace Sambung

/-! ### Name and value -/

/-- No parameter value holds a colon. -/
def CalendarProperty.NoQuotedColon (property : CalendarProperty) : Prop :=
  ∀ param ∈ property.params, ∀ value ∈ param.value :: param.others, ':' ∉ value.text

theorem ParamValue.colon_mem (value : ParamValue) : ':' ∈ value.written ↔ ':' ∈ value.text := by
  cases value with
  | plain text => rfl
  | quoted text =>
    have notQuote : ':' ≠ quotationMark := by decide
    simp [ParamValue.written, ParamValue.text, notQuote]

theorem Param.colon_mem {param : Param} (wellFormed : param.WellFormed) :
    ':' ∈ param.written ↔ ∃ value ∈ param.value :: param.others, ':' ∈ value.text := by
  have name : ':' ∉ param.name := fun member => (wellFormed.name.char member).2.1 rfl
  simp [Param.written, name, ParamValue.colon_mem]

theorem CalendarProperty.colon_mem {property : CalendarProperty}
    (wellFormed : property.WellFormed) : ':' ∈ property.left ↔ ¬ property.NoQuotedColon := by
  have name : ':' ∉ property.name := fun member => (wellFormed.name.char member).2.1 rfl
  unfold CalendarProperty.left CalendarProperty.NoQuotedColon
  rw [List.mem_append, List.mem_flatMap]
  push Not
  constructor
  · rintro (member | ⟨param, among, member⟩)
    · exact absurd member name
    · exact ⟨param, among, (Param.colon_mem (wellFormed.params param among)).mp member⟩
  · rintro ⟨param, among, holds⟩
    exact Or.inr ⟨param, among, (Param.colon_mem (wellFormed.params param among)).mpr holds⟩

theorem takeWhile_append_of_all {text : Text} {keep : Char → Bool} (all : ∀ c ∈ text, keep c)
    {rest : Text} (stops : ∀ c ∈ rest.head?, keep c = false) :
    (text ++ rest).takeWhile keep = text := by
  rw [List.takeWhile_append_of_pos all]
  cases rest with
  | nil => exact List.append_nil text
  | cons c rest =>
    rw [List.takeWhile_cons_of_neg (by rw [stops c rfl]; decide), List.append_nil]

/-- The line split at its first colon. -/
theorem splitLine_eq {line : Text} (colon : ':' ∈ line) :
    splitLine line =
      some {
        name := toUpperCase (trim ((line.takeWhile (· ≠ ':')).takeWhile (· ≠ ';')))
        tzid := ((tzidParam (line.takeWhile (· ≠ ':'))).map
          fun raw => trim (unquote (trim raw))).filter (· ≠ [])
        value := line.drop ((line.takeWhile (· ≠ ':')).length + 1) } :=
  if_pos colon

theorem CalendarProperty.colon_mem_written (property : CalendarProperty) :
    ':' ∈ property.written := List.mem_append_right _ List.mem_cons_self

/-- Where no quoted value holds a colon, the first one ends the parameters. -/
theorem CalendarProperty.takeWhile_left {property : CalendarProperty}
    (wellFormed : property.WellFormed) (noColon : property.NoQuotedColon) :
    property.written.takeWhile (· ≠ ':') = property.left := by
  refine takeWhile_append_of_all (fun c member => ?_) fun c first => ?_
  · simp only [ne_eq, decide_eq_true_eq]
    rintro rfl
    exact (CalendarProperty.colon_mem wellFormed).mp member noColon
  · cases first
    decide

theorem trim_nameText {name : Text} (wellFormed : NameText name) : trim name = name := by
  have visible : ∀ c ∈ name, isWhiteSpace c = false := by
    intro c member
    obtain ⟨low, high⟩ := wellFormed.bounds member
    simp [isWhiteSpace]
    omega
  have front : name.dropWhile isWhiteSpace = name := by
    cases name with
    | nil => rfl
    | cons c name =>
      exact List.dropWhile_cons_of_neg (Bool.eq_false_iff.mp (visible c List.mem_cons_self))
  unfold trim
  rw [front, List.rdropWhile_eq_self_iff]
  exact fun nonempty => Bool.eq_false_iff.mp (visible _ (List.getLast_mem nonempty))

/-- The name ends at the first colon or semicolon whatever the parameters hold. -/
theorem CalendarProperty.takeWhile_name {property : CalendarProperty}
    (wellFormed : property.WellFormed) :
    (property.written.takeWhile (· ≠ ':')).takeWhile (· ≠ ';') = property.name := by
  rw [List.takeWhile_takeWhile, CalendarProperty.written, CalendarProperty.left, List.append_assoc]
  refine takeWhile_append_of_all (fun c member => ?_) fun c first => ?_
  · obtain ⟨notSemicolon, notColon, -⟩ := wellFormed.name.char member
    simp [notSemicolon, notColon]
  · cases params : property.params with
    | nil =>
      rw [params] at first
      cases first
      decide
    | cons param others =>
      rw [params] at first
      cases first
      decide

/-- A colon in front of the value makes the value read too long. -/
theorem drop_of_colon_mem {left value : Text} (early : ':' ∈ left) :
    (left ++ ':' :: value).drop (((left ++ ':' :: value).takeWhile (· ≠ ':')).length + 1) ≠
      value := by
  obtain ⟨before, after, rfl, none⟩ := List.eq_append_cons_of_mem early
  have stop : (before ++ ':' :: (after ++ ':' :: value)).takeWhile (· ≠ ':') = before := by
    refine takeWhile_append_of_all (fun c member => ?_) fun c first => ?_
    · simp only [ne_eq, decide_eq_true_eq]
      rintro rfl
      exact none member
    · cases first
      decide
  rw [List.append_assoc, List.cons_append, stop]
  intro same
  have lengths := congrArg List.length same
  simp only [List.length_drop, List.length_append, List.length_cons] at lengths
  omega

theorem CalendarProperty.split_name {property : CalendarProperty}
    (wellFormed : property.WellFormed) :
    (splitLine property.written).map ContentLine.name = some (toUpperCase property.name) := by
  rw [splitLine_eq property.colon_mem_written, Option.map_some,
    CalendarProperty.takeWhile_name wellFormed, trim_nameText wellFormed.name]

/-- The value is read right exactly where no quoted parameter value holds a colon. -/
theorem CalendarProperty.split_value_iff {property : CalendarProperty}
    (wellFormed : property.WellFormed) :
    (splitLine property.written).map ContentLine.value = some property.value ↔
      property.NoQuotedColon := by
  rw [splitLine_eq property.colon_mem_written, Option.map_some, Option.some.injEq]
  constructor
  · intro right
    by_contra colon
    exact drop_of_colon_mem ((CalendarProperty.colon_mem wellFormed).mpr colon) right
  · intro noColon
    rw [CalendarProperty.takeWhile_left wellFormed noColon]
    show (property.left ++ ':' :: property.value).drop (property.left.length + 1) = property.value
    rw [List.drop_append, List.drop_eq_nil_of_le (Nat.le_succ _), Nat.add_sub_cancel_left]
    rfl

/-! ### The search for `TZID` -/

/-- The upper-case form of a letter is a letter. -/
theorem toUpper_ne {c other : Char} (differs : c ≠ other)
    (notUpper : other.toNat < 65 ∨ 90 < other.toNat) : c.toUpper ≠ other := by
  unfold Char.toUpper
  split
  · rename_i lower
    rintro rfl
    have low : 97 ≤ c.val.toNat := UInt32.le_iff_toNat_le.mp lower.1
    have high : c.val.toNat ≤ 122 := UInt32.le_iff_toNat_le.mp lower.2
    have value : (c.val + ('A'.val - 'a'.val)).toNat = c.val.toNat - 32 := by
      rw [UInt32.toNat_add, show ('A'.val - 'a'.val).toNat = 4294967264 from by decide]
      omega
    have shown : 65 ≤ (c.val + ('A'.val - 'a'.val)).toNat ∧
        (c.val + ('A'.val - 'a'.val)).toNat ≤ 90 := by omega
    exact notUpper.elim (fun below => absurd shown.1 (not_le.mpr below))
      fun above => absurd shown.2 (not_le.mpr above)
  · exact differs

/-- The text opens with `;TZID=`, in any case, and no semicolon follows: the pattern wants one
character more. -/
def OpensTzid (text : Text) : Prop :=
  ∃ rest, text = ';' :: rest ∧ (rest.take 5).map Char.toUpper = "TZID=".toList ∧
    (rest.drop 5).head? ≠ some ';'

theorem not_opensTzid_of_ne {c : Char} (notSemicolon : c ≠ ';') (rest : Text) :
    ¬ OpensTzid (c :: rest) := by
  rintro ⟨_, same, -⟩
  exact notSemicolon (List.cons.inj same).1

theorem tzidParam_cons {c : Char} {rest : Text} (other : ¬ OpensTzid (c :: rest)) :
    tzidParam (c :: rest) = tzidParam rest := by
  rw [tzidParam]
  refine if_neg ?_
  rintro ⟨rfl, opens, filled⟩
  refine other ⟨rest, rfl, opens, fun semicolon => filled ?_⟩
  obtain ⟨more, behind⟩ := List.head?_eq_some_iff.mp semicolon
  rw [behind]
  rfl

/-- A text none of whose ends opens with `;TZID=` is passed over. -/
theorem tzidParam_skip {text rest : Text}
    (none : ∀ suffix, suffix <:+ text → suffix ≠ [] → ¬ OpensTzid (suffix ++ rest)) :
    tzidParam (text ++ rest) = tzidParam rest := by
  induction text with
  | nil => rfl
  | cons c text inductionHypothesis =>
    have first : ¬ OpensTzid (c :: (text ++ rest)) :=
      none _ (List.suffix_refl _) (List.cons_ne_nil c text)
    rw [List.cons_append, tzidParam_cons first, inductionHypothesis fun suffix within =>
      none suffix (within.trans (List.suffix_cons c text))]

theorem tzidParam_skip_plain {text : Text} (noSemicolon : ';' ∉ text) (rest : Text) :
    tzidParam (text ++ rest) = tzidParam rest := by
  refine tzidParam_skip fun suffix within nonempty => ?_
  obtain ⟨c, more, rfl⟩ := List.exists_cons_of_ne_nil nonempty
  refine not_opensTzid_of_ne ?_ _
  rintro rfl
  exact noSemicolon (within.mem List.mem_cons_self)

/-- A closing quotation mark ends what a quoted text may open with. -/
theorem opensTzid_quoted {text : Text} (nonempty : text ≠ []) {rest : Text}
    (opens : OpensTzid (text ++ quotationMark :: rest)) : OpensTzid text := by
  obtain ⟨c, text, rfl⟩ := List.exists_cons_of_ne_nil nonempty
  obtain ⟨more, same, named, behind⟩ := opens
  obtain ⟨rfl, rfl⟩ := List.cons.inj same
  by_cases long : 5 ≤ text.length
  · rw [List.append_eq, List.take_append_of_le_length long] at named
    refine ⟨text, rfl, named, fun semicolon => behind ?_⟩
    rw [List.append_eq, List.drop_append_of_le_length long, List.head?_append, semicolon]
    rfl
  · have inside : quotationMark ∈ (text ++ quotationMark :: rest).take 5 := by
      rw [List.take_append, List.mem_append]
      refine Or.inr ?_
      obtain ⟨left, positive⟩ : ∃ left, 5 - text.length = left + 1 :=
        ⟨4 - text.length, by omega⟩
      rw [positive]
      exact List.mem_cons_self
    have among : quotationMark.toUpper ∈ "TZID=".toList :=
      named ▸ List.mem_map.mpr ⟨_, inside, rfl⟩
    exact absurd among (by decide)

/-- The value holds no text that reads like a `TZID` parameter. -/
def ParamValue.NoMimic (value : ParamValue) : Prop :=
  ∀ suffix, suffix <:+ value.text → ¬ OpensTzid suffix

theorem tzidParam_value {value : ParamValue} (wellFormed : value.WellFormed)
    (noMimic : value.NoMimic) (rest : Text) :
    tzidParam (value.written ++ rest) = tzidParam rest := by
  cases value with
  | plain text =>
    refine tzidParam_skip_plain (fun member => ?_) rest
    exact (wellFormed ';' member).2.2.1 rfl
  | quoted text =>
    have notSemicolon : quotationMark ≠ ';' := by decide
    show tzidParam (quotationMark :: ((text ++ [quotationMark]) ++ rest)) = tzidParam rest
    rw [tzidParam_cons (not_opensTzid_of_ne notSemicolon _), List.append_assoc,
      tzidParam_skip, List.singleton_append, tzidParam_cons (not_opensTzid_of_ne notSemicolon _)]
    exact fun suffix within nonempty opens =>
      noMimic suffix within (opensTzid_quoted nonempty opens)

theorem tzidParam_others {others : List ParamValue}
    (wellFormed : ∀ other ∈ others, other.WellFormed) (noMimic : ∀ other ∈ others, other.NoMimic)
    (rest : Text) :
    tzidParam (others.flatMap (fun other => ',' :: other.written) ++ rest) = tzidParam rest := by
  induction others with
  | nil => rfl
  | cons other others inductionHypothesis =>
    rw [List.flatMap_cons, List.append_assoc, List.cons_append,
      tzidParam_cons (not_opensTzid_of_ne (by decide) _),
      tzidParam_value (wellFormed other List.mem_cons_self) (noMimic other List.mem_cons_self),
      inductionHypothesis (fun other member => wellFormed other (List.mem_cons_of_mem _ member))
        fun other member => noMimic other (List.mem_cons_of_mem _ member)]

/-- The text behind a semicolon reads `TZID=` exactly where the parameter is of that name. -/
theorem take_name_iff {name : Text} (wellFormed : NameText name) (rest : Text) :
    ((name ++ '=' :: rest).take 5).map Char.toUpper = "TZID=".toList ↔
      name.map Char.toUpper = "TZID".toList := by
  have notEquals : ∀ c ∈ name, c.toUpper ≠ '=' := fun c member =>
    toUpper_ne (wellFormed.char member).2.2.1 (Or.inl (by decide))
  constructor
  · intro opens
    match name, notEquals with
    | [], _ => exact absurd (List.cons.inj opens).1 (by decide)
    | [_], _ => exact absurd (List.cons.inj (List.cons.inj opens).2).1 (by decide)
    | [_, _], _ =>
      exact absurd (List.cons.inj (List.cons.inj (List.cons.inj opens).2).2).1 (by decide)
    | [_, _, _], _ =>
      exact absurd (List.cons.inj (List.cons.inj (List.cons.inj (List.cons.inj opens).2).2).2).1
        (by decide)
    | [a, b, c, d], _ =>
      simp at opens ⊢
      tauto
    | a :: b :: c :: d :: e :: _, notEquals =>
      have fifth : e.toUpper = '=' := by
        simp at opens
        tauto
      exact absurd fifth (notEquals e (by simp))
  · intro named
    have length : name.length = 4 := by
      rw [← List.length_map (f := Char.toUpper), named]
      rfl
    rw [List.take_append, length, List.take_of_length_le (by omega), List.map_append, named]
    rfl

/-- A parameter of another name, no value of which mimics one, is passed over. -/
theorem tzidParam_other {param : Param} (wellFormed : param.WellFormed)
    (other : param.isTzid = false)
    (noMimic : ∀ value ∈ param.value :: param.others, value.NoMimic) (rest : Text) :
    tzidParam (param.written ++ rest) = tzidParam rest := by
  have named : ¬ param.name.map Char.toUpper = "TZID".toList := of_decide_eq_false other
  have noSemicolon : ';' ∉ param.name := fun member => (wellFormed.name.char member).1 rfl
  rw [Param.written, List.cons_append, tzidParam_cons, List.append_assoc,
    tzidParam_skip_plain noSemicolon, List.cons_append,
    tzidParam_cons (not_opensTzid_of_ne (by decide) _), List.append_assoc,
    tzidParam_value wellFormed.value (noMimic _ List.mem_cons_self),
    tzidParam_others wellFormed.others fun value member =>
      noMimic value (List.mem_cons_of_mem _ member)]
  rintro ⟨more, same, opens, -⟩
  obtain ⟨-, rfl⟩ := List.cons.inj same
  rw [List.append_assoc, List.cons_append, take_name_iff wellFormed.name] at opens
  exact named opens

/-! ### The `TZID` parameter -/

/-- What the split makes of a raw value. -/
abbrev zoneName (raw : Text) : Text := trim (unquote (trim raw))

/-- The value comes through the search: it is not empty, has no blanks around it, and between
quotation marks no semicolon and no line separator. -/
def ParamValue.Legible : ParamValue → Prop
  | .plain text => text ≠ [] ∧ trim text = text
  | .quoted text => text ≠ [] ∧ trim text = text ∧ ';' ∉ text ∧ ∀ c ∈ text, ¬ isLineTerminator c

/-- The text is empty or opens with the next parameter. -/
abbrev EndsParam (rest : Text) : Prop := ∀ c ∈ rest.head?, c = ';'

/-- What is searched for opens a `TZID` parameter, and its value is what follows up to the next
semicolon or colon. -/
theorem tzidParam_tzid {param : Param} (wellFormed : param.WellFormed) (tzid : param.isTzid = true)
    {rest zone : Text}
    (run : (param.value.written ++ rest).takeWhile (fun c => c ≠ ';' && c ≠ ':') = zone)
    (nonempty : zone ≠ []) : tzidParam (param.written ++ rest) = some zone := by
  have named : param.name.map Char.toUpper = "TZID".toList := of_decide_eq_true tzid
  have length : param.name.length = 4 := by
    rw [← List.length_map (f := Char.toUpper), named]
    rfl
  have behind : (param.name ++ '=' :: (param.value.written ++ rest)).drop 5 =
      param.value.written ++ rest := by
    rw [List.drop_append, length, List.drop_eq_nil_of_le (by omega)]
    rfl
  rw [Param.written, wellFormed.single tzid, List.flatMap_nil, List.append_nil, List.cons_append,
    List.append_assoc, List.cons_append, tzidParam, behind, run]
  exact if_pos ⟨rfl, (take_name_iff wellFormed.name _).mpr named, nonempty⟩

theorem takeWhile_zone {text rest : Text} (ends : EndsParam rest) (noSemicolon : ';' ∉ text)
    (noColon : ':' ∉ text) :
    (text ++ rest).takeWhile (fun c => c ≠ ';' && c ≠ ':') = text := by
  refine takeWhile_append_of_all (fun c member => ?_) fun c first => ?_
  · have notSemicolon : c ≠ ';' := fun same => noSemicolon (same ▸ member)
    have notColon : c ≠ ':' := fun same => noColon (same ▸ member)
    simp [notSemicolon, notColon]
  · rw [ends c first]
    decide

/-- A text behind a visible character stays behind it. -/
theorem trim_visible {c : Char} (visible : isWhiteSpace c = false) (text : Text) :
    ∃ kept, trim (c :: text) = c :: kept ∧ kept <+: text := by
  have front : (c :: text).dropWhile isWhiteSpace = c :: text :=
    List.dropWhile_cons_of_neg (Bool.eq_false_iff.mp visible)
  have shorter : trim (c :: text) <+: c :: text := by
    unfold trim
    rw [front]
    exact List.rdropWhile_prefix isWhiteSpace _
  cases shown : trim (c :: text) with
  | nil =>
    unfold trim at shown
    rw [front, List.rdropWhile_eq_nil_iff] at shown
    rw [shown c List.mem_cons_self] at visible
    cases visible
  | cons first kept =>
    rw [shown, List.cons_prefix_cons] at shorter
    obtain ⟨rfl, within⟩ := shorter
    exact ⟨kept, rfl, within⟩

/-- A text between quotation marks has no blanks around it. -/
theorem trim_quoted (text : Text) :
    trim (quotationMark :: (text ++ [quotationMark])) =
      quotationMark :: (text ++ [quotationMark]) := by
  have front : (quotationMark :: (text ++ [quotationMark])).dropWhile isWhiteSpace =
      quotationMark :: (text ++ [quotationMark]) := List.dropWhile_cons_of_neg (by decide)
  unfold trim
  rw [front, ← List.cons_append]
  exact List.rdropWhile_concat_neg _ _ _ (by decide)

theorem unquote_of_not_mem {text : Text} (noQuote : quotationMark ∉ text) :
    unquote text = text := by
  cases text with
  | nil => rfl
  | cons first rest =>
    refine if_neg ?_
    rintro ⟨rfl, -⟩
    exact noQuote List.mem_cons_self

/-- An opening quotation mark without its closing one stays. -/
theorem unquote_unclosed {text : Text} (noQuote : quotationMark ∉ text) :
    unquote (quotationMark :: text) = quotationMark :: text := by
  refine if_neg ?_
  rintro ⟨-, last, -⟩
  exact noQuote (List.mem_of_getLast? last)

theorem unquote_quoted (text : Text) :
    unquote (quotationMark :: (text ++ [quotationMark])) =
      if ∀ c ∈ text, ¬ isLineTerminator c then text
      else quotationMark :: (text ++ [quotationMark]) := by
  have last : (text ++ [quotationMark]).getLast? = some quotationMark := List.getLast?_concat
  have front : (text ++ [quotationMark]).dropLast = text := List.dropLast_concat
  have clean : (¬ text.any isLineTerminator) ↔ ∀ c ∈ text, ¬ isLineTerminator c := by
    rw [List.any_eq_true]
    push Not
    rfl
  show (if _ then _ else _) = _
  rw [front]
  refine if_congr ?_ rfl rfl
  rw [← clean]
  exact ⟨fun found => found.2.2, fun none => ⟨rfl, last, none⟩⟩

/-- A zone is read where something is left of it. -/
theorem filter_eq_some_iff {found : Option Text} {expected : Text} :
    found.filter (· ≠ []) = some expected ↔ found = some expected ∧ expected ≠ [] := by
  rw [Option.filter_eq_some_iff]
  simp

/-- The zone of a `TZID` parameter is read right exactly where its value is legible. A zone that
opens with a quotation mark is not the text. -/
theorem Param.zone_iff {param : Param} (wellFormed : param.WellFormed)
    (tzid : param.isTzid = true) (noColon : ':' ∉ param.value.text) {rest : Text}
    (ends : EndsParam rest) :
    ((tzidParam (param.written ++ rest)).map zoneName).filter (· ≠ []) =
        some param.value.text ↔ param.value.Legible := by
  rw [filter_eq_some_iff]
  have value := wellFormed.value
  have search := @tzidParam_tzid param wellFormed tzid rest
  cases shown : param.value with
  | plain text =>
    rw [shown] at value noColon search
    show _ ∧ text ≠ [] ↔ text ≠ [] ∧ trim text = text
    have noSemicolon : ';' ∉ text := fun member => (value ';' member).2.2.1 rfl
    have noQuote : quotationMark ∉ text := fun member => (value _ member).2.1 rfl
    refine and_comm.trans (and_congr_right fun nonempty => ?_)
    rw [search (takeWhile_zone ends noSemicolon noColon) nonempty, Option.map_some,
      Option.some.injEq]
    have within : trim text ⊆ text := fun c member =>
      (List.dropWhile_suffix isWhiteSpace).mem
        ((List.rdropWhile_prefix isWhiteSpace _).mem member)
    show trim (unquote (trim text)) = text ↔ trim text = text
    rw [unquote_of_not_mem fun member => noQuote (within member), trim_trim]
  | quoted text =>
    rw [shown] at value noColon search
    show _ ∧ text ≠ [] ↔
      text ≠ [] ∧ trim text = text ∧ ';' ∉ text ∧ ∀ c ∈ text, ¬ isLineTerminator c
    have noQuote : quotationMark ∉ text := fun member => (value _ member).2 rfl
    have notColon : quotationMark ≠ ':' := by decide
    have notSemicolon : quotationMark ≠ ';' := by decide
    have visible : isWhiteSpace quotationMark = false := by decide
    have opened : ∀ kept : Text, quotationMark :: kept ≠ text := fun kept same =>
      noQuote (same ▸ List.mem_cons_self)
    refine and_comm.trans (and_congr_right fun nonempty => ?_)
    by_cases semicolon : ';' ∈ text
    · obtain ⟨before, after, rfl, first⟩ := List.eq_append_cons_of_mem semicolon
      have run : ((ParamValue.quoted (before ++ ';' :: after)).written ++ rest).takeWhile
          (fun c => c ≠ ';' && c ≠ ':') = quotationMark :: before := by
        show (quotationMark :: ((before ++ ';' :: after) ++ [quotationMark] ++ rest)).takeWhile
          (fun c => c ≠ ';' && c ≠ ':') = _
        rw [← List.singleton_append, List.append_assoc, List.append_assoc, ← List.append_assoc,
          takeWhile_zone fun c head => ?_]
        · rfl
        · simp [notSemicolon.symm, first]
        · have noEarlier : ':' ∉ before := fun member =>
            noColon (List.mem_append_left _ member)
          simp [notColon.symm, noEarlier]
        · cases head
          rfl
      rw [search run (List.cons_ne_nil _ _), Option.map_some, Option.some.injEq]
      obtain ⟨kept, trimmed, within⟩ := trim_visible visible before
      obtain ⟨again, trimmedAgain, -⟩ := trim_visible visible kept
      have keptNoQuote : quotationMark ∉ kept := fun member =>
        noQuote (List.mem_append_left _ (within.mem member))
      refine ⟨fun same => ?_, fun legible => absurd semicolon legible.2.1⟩
      rw [zoneName, trimmed, unquote_unclosed keptNoQuote, trimmedAgain] at same
      exact absurd same (opened again)
    · have run : ((ParamValue.quoted text).written ++ rest).takeWhile
          (fun c => c ≠ ';' && c ≠ ':') = (ParamValue.quoted text).written := by
        refine takeWhile_zone ends ?_ ?_
        · simp [ParamValue.written, notSemicolon.symm, semicolon]
        · have noColonInside : ':' ∉ text := noColon
          simp [ParamValue.written, notColon.symm, noColonInside]
      rw [search run (List.cons_ne_nil _ _), Option.map_some, Option.some.injEq]
      show trim (unquote (trim (quotationMark :: (text ++ [quotationMark])))) = text ↔ _
      rw [trim_quoted, unquote_quoted]
      by_cases clean : ∀ c ∈ text, ¬ isLineTerminator c
      · rw [if_pos clean]
        exact ⟨fun trimmed => ⟨trimmed, semicolon, clean⟩, fun legible => legible.1⟩
      · rw [if_neg clean, trim_quoted]
        exact ⟨fun same => absurd same (opened _), fun legible => absurd legible.2.2 clean⟩

/-! ### The whole line -/

/-- No quoted value in front of the first `TZID` parameter holds text that reads like one. -/
def CalendarProperty.NoMimic (property : CalendarProperty) : Prop :=
  ∀ param ∈ property.params.takeWhile (fun param => !param.isTzid),
    ∀ value ∈ param.value :: param.others, value.NoMimic

/-- The first `TZID` parameter, if there is one, has a legible value. -/
def CalendarProperty.TzidLegible (property : CalendarProperty) : Prop :=
  ∀ param ∈ property.params.find? Param.isTzid, param.value.Legible

theorem endsParam_params (params : List Param) : EndsParam (params.flatMap Param.written) := by
  cases params with
  | nil => exact fun c first => by cases first
  | cons param params => exact fun c first => by cases first; rfl

/-- Where nothing in front mimics it, the first `TZID` parameter is where the search stops. -/
theorem tzidParam_params {params : List Param} (wellFormed : ∀ param ∈ params, param.WellFormed)
    (noMimic : ∀ param ∈ params.takeWhile (fun param => !param.isTzid),
      ∀ value ∈ param.value :: param.others, value.NoMimic) :
    (params.find? Param.isTzid = none → tzidParam (params.flatMap Param.written) = none) ∧
      ∀ param, params.find? Param.isTzid = some param → ∃ rest, EndsParam rest ∧
        tzidParam (params.flatMap Param.written) = tzidParam (param.written ++ rest) := by
  induction params with
  | nil => exact ⟨fun _ => rfl, fun param found => by cases found⟩
  | cons first params inductionHypothesis =>
    rw [List.flatMap_cons]
    cases tzid : first.isTzid with
    | true =>
      rw [List.find?_cons_of_pos tzid]
      refine ⟨fun absent => (by cases absent), fun param found => ?_⟩
      cases found
      exact ⟨params.flatMap Param.written, endsParam_params params, rfl⟩
    | false =>
      rw [List.takeWhile_cons_of_pos (by rw [tzid]; decide)] at noMimic
      rw [List.find?_cons_of_neg (by rw [tzid]; decide),
        tzidParam_other (wellFormed first List.mem_cons_self) tzid
          (noMimic first List.mem_cons_self)]
      exact inductionHypothesis
        (fun param member => wellFormed param (List.mem_cons_of_mem _ member))
        fun param member => noMimic param (List.mem_cons_of_mem _ member)

/-- The zone is read right, parameter or none, exactly where its value is legible. -/
theorem CalendarProperty.zone_iff {property : CalendarProperty} (wellFormed : property.WellFormed)
    (noColon : property.NoQuotedColon) (noMimic : property.NoMimic) :
    ((tzidParam property.left).map zoneName).filter (· ≠ []) = property.tzid ↔
      property.TzidLegible := by
  have noSemicolon : ';' ∉ property.name := fun member => (wellFormed.name.char member).1 rfl
  obtain ⟨absent, present⟩ := tzidParam_params wellFormed.params noMimic
  unfold CalendarProperty.left CalendarProperty.tzid CalendarProperty.TzidLegible
  rw [tzidParam_skip_plain noSemicolon]
  cases found : property.params.find? Param.isTzid with
  | none =>
    rw [absent found]
    exact ⟨fun _ param found => (by cases found), fun _ => rfl⟩
  | some param =>
    obtain ⟨rest, ends, searched⟩ := present param found
    have among := List.mem_of_find?_eq_some found
    rw [searched, Option.map_some, Param.zone_iff (wellFormed.params param among)
      (List.find?_some found) (noColon param among _ List.mem_cons_self) ends]
    constructor
    · intro legible other same
      cases same
      exact legible
    · exact fun legible => legible param rfl

/-- A line without mimicry is read right exactly where no quoted value holds a colon and its
zone is legible. -/
theorem CalendarProperty.splitLine_iff {property : CalendarProperty}
    (wellFormed : property.WellFormed) (noMimic : property.NoMimic) :
    splitLine property.written = some property.parsed ↔
      property.NoQuotedColon ∧ property.TzidLegible := by
  have byColon : property.NoQuotedColon →
      (splitLine property.written = some property.parsed ↔ property.TzidLegible) := by
    intro noColon
    have name := property.split_name wellFormed
    have value := (property.split_value_iff wellFormed).mpr noColon
    rw [splitLine_eq property.colon_mem_written, Option.map_some, Option.some.injEq] at name value
    rw [splitLine_eq property.colon_mem_written, Option.some.injEq, CalendarProperty.parsed,
      ContentLine.mk.injEq, ← property.zone_iff wellFormed noColon noMimic]
    rw [property.takeWhile_left wellFormed noColon] at name value ⊢
    exact ⟨fun same => same.2.1, fun zone => ⟨name, zone, value⟩⟩
  constructor
  · intro right
    have noColon : property.NoQuotedColon := by
      rw [← property.split_value_iff wellFormed, right]
      rfl
    exact ⟨noColon, (byColon noColon).mp right⟩
  · exact fun ⟨noColon, legible⟩ => (byColon noColon).mpr legible

/-! ### Events and parameters -/

/-- The content line without its parameters. -/
def CalendarProperty.bare (property : CalendarProperty) : CalendarProperty :=
  { property with params := [] }

theorem CalendarProperty.bare_split {property : CalendarProperty}
    (wellFormed : property.WellFormed) (noColon : property.NoQuotedColon) :
    ∃ parsed plain, splitLine property.written = some parsed ∧
      splitLine property.bare.written = some plain ∧ parsed.name = plain.name ∧
      parsed.value = plain.value := by
  have bareWellFormed : property.bare.WellFormed :=
    ⟨wellFormed.name, fun param none => absurd none List.not_mem_nil, wellFormed.value⟩
  have bareNoColon : property.bare.NoQuotedColon := fun param none =>
    absurd none List.not_mem_nil
  have name := property.split_name wellFormed
  have value := (property.split_value_iff wellFormed).mpr noColon
  have bareName := property.bare.split_name bareWellFormed
  have bareValue := (property.bare.split_value_iff bareWellFormed).mpr bareNoColon
  obtain ⟨parsed, split, named⟩ := Option.map_eq_some_iff.mp name
  obtain ⟨plain, bareSplit, bareNamed⟩ := Option.map_eq_some_iff.mp bareName
  rw [split, Option.map_some, Option.some.injEq] at value
  rw [bareSplit, Option.map_some, Option.some.injEq] at bareValue
  exact ⟨parsed, plain, split, bareSplit, named.trans bareNamed.symm,
    value.trans bareValue.symm⟩

/-- Lines of one name and one value move events and open fields alike. -/
theorem scanLine_sameNameValue (zone : ZoneContext) {line other : Text}
    {parsed plain : ContentLine} (split : splitLine line = some parsed)
    (otherSplit : splitLine other = some plain) (name : parsed.name = plain.name)
    (value : parsed.value = plain.value) {state otherState : ParseState}
    (events : state.events = otherState.events) (current : state.current = otherState.current) :
    (scanLine zone state line).events = (scanLine zone otherState other).events ∧
      (scanLine zone state line).current = (scanLine zone otherState other).current := by
  have begins : parsed.beginsVevent ↔ plain.beginsVevent := by
    unfold ContentLine.beginsVevent
    rw [name, value]
  have ends : parsed.endsVevent ↔ plain.endsVevent := by
    unfold ContentLine.endsVevent
    rw [name, value]
  have trusted : parsed.trusted ↔ plain.trusted := by
    unfold ContentLine.trusted
    rw [name]
  unfold scanLine
  rw [split, otherSplit]
  dsimp only
  by_cases opens : plain.beginsVevent
  · rw [if_pos opens, if_pos (begins.mpr opens)]
    exact ⟨events, rfl⟩
  · rw [if_neg opens, if_neg (mt begins.mp opens), current]
    by_cases closes : plain.endsVevent
    · rw [if_pos closes, if_pos (ends.mpr closes)]
      cases held : otherState.current with
      | none => exact ⟨events, current⟩
      | some fields => exact ⟨congrArg (· ++ _) events, rfl⟩
    · rw [if_neg closes, if_neg (mt ends.mp closes)]
      cases held : otherState.current with
      | none => exact ⟨events, current⟩
      | some fields =>
        dsimp only
        by_cases collected : plain.trusted
        · rw [if_pos collected, if_pos (trusted.mpr collected), name, value]
          exact ⟨events, rfl⟩
        · rw [if_neg collected, if_neg (mt trusted.mp collected)]
          exact ⟨events, current⟩

theorem foldl_scanLine_bare {zone : ZoneContext} {properties : List CalendarProperty}
    (wellFormed : ∀ property ∈ properties, property.WellFormed)
    (noColon : ∀ property ∈ properties, property.NoQuotedColon) {state otherState : ParseState}
    (events : state.events = otherState.events) (current : state.current = otherState.current) :
    ((properties.map CalendarProperty.written).foldl (scanLine zone) state).events =
      ((properties.map fun property => property.bare.written).foldl (scanLine zone)
        otherState).events := by
  induction properties generalizing state otherState with
  | nil => exact events
  | cons property properties inductionHypothesis =>
    obtain ⟨parsed, plain, split, bareSplit, name, value⟩ :=
      CalendarProperty.bare_split (wellFormed property List.mem_cons_self)
        (noColon property List.mem_cons_self)
    obtain ⟨nextEvents, nextCurrent⟩ :=
      scanLine_sameNameValue zone split bareSplit name value events current
    exact inductionHypothesis (fun other member => wellFormed other (List.mem_cons_of_mem _ member))
      (fun other member => noColon other (List.mem_cons_of_mem _ member)) nextEvents nextCurrent

/-- Content lines folded anywhere come back, each with its name; a value comes back exactly where no
quoted parameter value holds a colon, and then parameters cost no event; and where nothing in front
of it mimics a `TZID`, the whole line is read right exactly if that parameter is legible besides.
The lines are any well-formed ones, and each may be folded at any places and by either line break.
-/
theorem unfold_splitLine {properties : List CalendarProperty} {body : Text}
    (wellFormed : ∀ property ∈ properties, property.WellFormed)
    (folded : FoldedBody lineBreaks (properties.map CalendarProperty.written) body) :
    unfold body = properties.map CalendarProperty.written ++ [[]] ∧
      (∀ property ∈ properties,
        (∀ text, Folded lineBreaks property.written text → unfold text = [property.written]) ∧
        (splitLine property.written).map ContentLine.name = some (toUpperCase property.name) ∧
        ((splitLine property.written).map ContentLine.value = some property.value ↔
          property.NoQuotedColon) ∧
        (property.NoMimic →
          (splitLine property.written = some property.parsed ↔
            property.NoQuotedColon ∧ property.TzidLegible))) ∧
      ((∀ property ∈ properties, property.NoQuotedColon) → ∀ zone state,
        ((properties.map CalendarProperty.written).foldl (scanLine zone) state).events =
          ((properties.map fun property => property.bare.written).foldl (scanLine zone)
            state).events) := by
  refine ⟨unfold_foldedBody folded fun line member => ?_, fun property member => ?_,
    fun noColon zone state => foldl_scanLine_bare wellFormed noColon rfl rfl⟩
  · obtain ⟨property, among, rfl⟩ := List.mem_map.mp member
    exact (wellFormed property among).standalone
  · have each := wellFormed property member
    exact ⟨fun text folded => unfold_foldedLine folded each.standalone.unbroken,
      property.split_name each, property.split_value_iff each,
      fun noMimic => property.splitLine_iff each noMimic⟩

theorem forall_mem_of_all {text : Text} {holds : Char → Prop} [DecidablePred holds]
    (all : text.all (fun c => decide (holds c)) = true) : ∀ c ∈ text, holds c := fun c member =>
  of_decide_eq_true (List.all_eq_true.mp all c member)

/-- A start in the villa's own zone. -/
def zonedStart : CalendarProperty :=
  ⟨"DTSTART".toList, [⟨"TZID".toList, .quoted "Asia/Makassar".toList, []⟩],
    "20260801T140000".toList⟩

theorem zonedStart_wellFormed : zonedStart.WellFormed := by
  refine ⟨⟨by decide, forall_mem_of_all (by decide)⟩, fun param member => ?_,
    forall_mem_of_all (by decide)⟩
  obtain rfl := List.mem_singleton.mp member
  exact ⟨⟨by decide, forall_mem_of_all (by decide)⟩, forall_mem_of_all (by decide),
    fun other absent => absurd absent List.not_mem_nil, fun _ => rfl⟩

/-- The start is read whole: its name, its zone and the whole of its value. -/
theorem zonedStart_read :
    splitLine zonedStart.written =
      some ⟨"DTSTART".toList, some "Asia/Makassar".toList, "20260801T140000".toList⟩ := by
  have lines : ∀ property ∈ [zonedStart], property.WellFormed := fun property member =>
    List.mem_singleton.mp member ▸ zonedStart_wellFormed
  have body : FoldedBody lineBreaks ([zonedStart].map CalendarProperty.written)
      (zonedStart.written ++ ("\r\n".toList ++ [])) :=
    .cons (.refl _ _) List.mem_cons_self .nil
  obtain ⟨-, each, -⟩ := unfold_splitLine lines body
  obtain ⟨-, -, -, whole⟩ := each zonedStart List.mem_cons_self
  refine (whole fun param member => ?_).mpr ⟨fun param member value among => ?_,
    fun param found => ?_⟩
  · rw [show zonedStart.params.takeWhile (fun param => !param.isTzid) = [] from rfl] at member
    cases member
  · obtain rfl := List.mem_singleton.mp member
    obtain rfl := List.mem_singleton.mp among
    decide
  · cases found
    exact ⟨by decide, by decide, by decide, forall_mem_of_all (by decide)⟩

/-- A start with a colon in a quoted parameter value. -/
def quotedColon : CalendarProperty :=
  ⟨"DTSTART".toList, [⟨"X-NOTE".toList, .quoted "a:b".toList, []⟩], "20260801".toList⟩

theorem quotedColon_wellFormed : quotedColon.WellFormed := by
  refine ⟨⟨by decide, forall_mem_of_all (by decide)⟩, fun param member => ?_,
    forall_mem_of_all (by decide)⟩
  obtain rfl := List.mem_singleton.mp member
  exact ⟨⟨by decide, forall_mem_of_all (by decide)⟩, forall_mem_of_all (by decide),
    fun other absent => absurd absent List.not_mem_nil, fun _ => rfl⟩

/-- One VEVENT with the start given. -/
def bodyStarting (start : Text) : Text :=
  "BEGIN:VCALENDAR\r\nBEGIN:VEVENT\r\nUID:a\r\n".toList ++ start ++
    "\r\nEND:VEVENT\r\nEND:VCALENDAR\r\n".toList

/-- The value is cut inside the parameter, and the event is lost. -/
theorem quotedColon_lost :
    quotedColon.WellFormed ∧
      splitLine quotedColon.written =
        some ⟨"DTSTART".toList, none, "b\":20260801".toList⟩ ∧
      quotedColon.parsed = ⟨"DTSTART".toList, none, "20260801".toList⟩ ∧
      parseCalendar indonesianFormat (bodyStarting quotedColon.written) "Asia/Makassar" =
        .ok [] [] ∧
      parseCalendar indonesianFormat (bodyStarting quotedColon.bare.written) "Asia/Makassar" =
        .ok [⟨"a", "2026-08-01".toList, "2026-08-02".toList⟩] [] :=
  ⟨quotedColon_wellFormed, by decide +kernel, by decide +kernel, by decide +kernel,
    by decide +kernel⟩

end Sambung
