/-
This file is the theory of relational contents under row security.

A table holds rows, a row gives its columns values or null, and a condition is
true, false or unknown. A statement sees the rows the policies let through, and
what it changes passes them in the content it began with. The foreign keys then
act on the rows that refer to a changed one, past every policy, and the content it
leaves satisfies the schema.

A statement is any function from what it can see to a list of changes, so nothing
is assumed of the language it was written in. Referential actions may fire in any
order and may answer each other; a statement whose content would break a
constraint is not executed at all.

`Executed.rows` is the rule for invariants: it reduces a property of every row,
kept by every statement, to one fact about what the policies let a statement do
and one about what a key does in answer.
-/

import Mathlib.Data.Fintype.Option
import Mathlib.Data.List.Pairwise
import Mathlib.Logic.Function.Basic

namespace Relational

/-- A row gives every column of its table a value, or null. -/
abbrev Row (Column Value : Type) := Column → Option Value

/-- The rows of every table. -/
abbrev Content (Table Column Value : Type) := Table → List (Row Column Value)

variable {Table Column Value : Type}

/-! ### Conditions -/

/-- `first = second`, unknown where a side is null. -/
def equal [DecidableEq Value] (first second : Option Value) : Option Bool :=
  first.bind fun first => second.map fun second => decide (first = second)

/-- `first AND second`. -/
def both : Option Bool → Option Bool → Option Bool
  | some false, _ => some false
  | _, some false => some false
  | some true, second => second
  | none, _ => none

/-- `first OR second`. -/
def either : Option Bool → Option Bool → Option Bool
  | some true, _ => some true
  | _, some true => some true
  | some false, second => second
  | none, _ => none

/-- `EXISTS (SELECT 1 FROM rows WHERE condition)`. -/
def existsRow (rows : List (Row Column Value)) (condition : Row Column Value → Option Bool) :
    Option Bool :=
  some (rows.any fun row => condition row = some true)

theorem equal_true [DecidableEq Value] {first second : Option Value} :
    equal first second = some true ↔ ∃ value, first = some value ∧ second = some value := by
  constructor
  · intro holds
    obtain ⟨value, rfl, known⟩ := Option.bind_eq_some_iff.mp holds
    obtain ⟨other, rfl, same⟩ := Option.map_eq_some_iff.mp known
    exact ⟨value, rfl, congrArg some (of_decide_eq_true same).symm⟩
  · rintro ⟨value, rfl, rfl⟩
    exact congrArg some (decide_eq_true rfl)

theorem equal_some [DecidableEq Value] {first : Option Value} {value : Value} :
    equal first (some value) = some true ↔ first = some value := by
  rw [equal_true]
  constructor
  · rintro ⟨other, isFirst, same⟩
    rw [isFirst, Option.some.inj same]
  · intro isFirst
    exact ⟨value, isFirst, rfl⟩

theorem equal_none [DecidableEq Value] (first : Option Value) : equal first none ≠ some true := by
  intro holds
  obtain ⟨value, -, absent⟩ := equal_true.mp holds
  cases absent

theorem both_true (first second : Option Bool) :
    both first second = some true ↔ first = some true ∧ second = some true := by
  revert first second
  decide

theorem either_true (first second : Option Bool) :
    either first second = some true ↔ first = some true ∨ second = some true := by
  revert first second
  decide

theorem existsRow_true {rows : List (Row Column Value)}
    {condition : Row Column Value → Option Bool} :
    existsRow rows condition = some true ↔ ∃ row ∈ rows, condition row = some true := by
  simp only [existsRow, Option.some.injEq, List.any_eq_true, decide_eq_true_eq]

/-! ### Schemas -/

/-- What a foreign key does to the rows that refer to a row that goes or changes. -/
inductive ReferentialAction where
  | noAction
  | cascade
  | setNull
  deriving DecidableEq, Repr

/-- A foreign key: each column of the child with the column of the parent it names. -/
structure ForeignKey (Table Column : Type) where
  child : Table
  parent : Table
  columns : List (Column × Column)
  onDelete : ReferentialAction
  onUpdate : ReferentialAction
  deriving DecidableEq

/-- One row names another. -/
def ForeignKey.Refers (key : ForeignKey Table Column) (child parent : Row Column Value) : Prop :=
  ∀ pair ∈ key.columns, ∃ value, child pair.1 = some value ∧ parent pair.2 = some value

/-- A row with a null among the columns refers to nothing and need not. -/
def ForeignKey.Satisfied (key : ForeignKey Table Column)
    (content : Content Table Column Value) : Prop :=
  ∀ child ∈ content key.child, (∀ pair ∈ key.columns, child pair.1 ≠ none) →
    ∃ parent ∈ content key.parent, key.Refers child parent

structure Schema (Table Column : Type) where
  primaryKey : Table → List Column
  foreignKeys : List (ForeignKey Table Column)

/-- The content satisfies the constraints. -/
structure Schema.Holds (schema : Schema Table Column) (content : Content Table Column Value) :
    Prop where
  keyed : ∀ table, ∀ row ∈ content table, ∀ column ∈ schema.primaryKey table, row column ≠ none
  distinct : ∀ table, (content table).Pairwise fun first second =>
    ¬ ∀ column ∈ schema.primaryKey table, first column = second column
  refers : ∀ key ∈ schema.foreignKeys, key.Satisfied content

instance [DecidableEq Value] (key : ForeignKey Table Column) (child parent : Row Column Value) :
    Decidable (key.Refers child parent) :=
  decidable_of_iff (∀ pair ∈ key.columns, equal (child pair.1) (parent pair.2) = some true)
    (forall₂_congr fun _ _ => equal_true)

instance [DecidableEq Value] (key : ForeignKey Table Column)
    (content : Content Table Column Value) : Decidable (key.Satisfied content) :=
  inferInstanceAs (Decidable (∀ child ∈ content key.child,
    (∀ pair ∈ key.columns, child pair.1 ≠ none) →
      ∃ parent ∈ content key.parent, key.Refers child parent))

instance [Fintype Table] [DecidableEq Value] (schema : Schema Table Column)
    (content : Content Table Column Value) : Decidable (schema.Holds content) :=
  decidable_of_iff
    ((∀ table, ∀ row ∈ content table, ∀ column ∈ schema.primaryKey table, row column ≠ none) ∧
      (∀ table, (content table).Pairwise fun first second =>
        ¬ ∀ column ∈ schema.primaryKey table, first column = second column) ∧
      ∀ key ∈ schema.foreignKeys, key.Satisfied content)
    ⟨fun all => ⟨all.1, all.2.1, all.2.2⟩, fun holds => ⟨holds.keyed, holds.distinct,
      holds.refers⟩⟩

/-- Two rows of one table with one primary key are one row. -/
theorem Schema.Holds.same {schema : Schema Table Column} {content : Content Table Column Value}
    (holds : schema.Holds content) {table : Table} {first second : Row Column Value}
    (inFirst : first ∈ content table) (inSecond : second ∈ content table)
    (agree : ∀ column ∈ schema.primaryKey table, first column = second column) :
    first = second := by
  by_contra apart
  have symmetric : Std.Symm fun first second : Row Column Value =>
      ¬ ∀ column ∈ schema.primaryKey table, first column = second column :=
    ⟨fun _ _ differ agree => differ fun column member => (agree column member).symm⟩
  exact (holds.distinct table).forall inFirst inSecond apart agree

/-! ### Policies and changes -/

/-- Which rows of a table a statement may use, and which it may produce. -/
structure Policy (Table Column Value : Type) where
  qual : Content Table Column Value → Row Column Value → Option Bool
  withCheck : Content Table Column Value → Row Column Value → Option Bool

/-- What a statement under the policies reads of a content. -/
def visible (policies : Table → Policy Table Column Value)
    (content : Content Table Column Value) : Content Table Column Value :=
  fun table => (content table).filter fun row => (policies table).qual content row = some true

theorem mem_visible {policies : Table → Policy Table Column Value}
    {content : Content Table Column Value} {table : Table} {row : Row Column Value} :
    row ∈ visible policies content table ↔
      row ∈ content table ∧ (policies table).qual content row = some true := by
  rw [visible, List.mem_filter, decide_eq_true_eq]

/-- A row that goes, comes, or becomes another one. -/
structure Change (Table Column Value : Type) where
  table : Table
  old : Option (Row Column Value)
  new : Option (Row Column Value)

/-- The change passes the policies. -/
structure Change.Allowed (policies : Table → Policy Table Column Value)
    (content : Content Table Column Value) (change : Change Table Column Value) : Prop where
  used : ∀ row, change.old = some row → row ∈ visible policies content change.table
  produced : ∀ row, change.new = some row →
    (policies change.table).withCheck content row = some true

/-! ### Referential actions -/

section Actions

variable [DecidableEq Column] [DecidableEq Value]

/-- The row with the columns of the key set. -/
def ForeignKey.assign (key : ForeignKey Table Column) (values : Column → Option Value)
    (child : Row Column Value) : Row Column Value :=
  fun column =>
    match key.columns.find? fun pair => pair.1 = column with
    | some pair => values pair.2
    | none => child column

/-- What becomes of a row that refers to a changed one, where the key acts at all. -/
def ForeignKey.act (key : ForeignKey Table Column) (parent : Row Column Value)
    (becomes : Option (Row Column Value)) (child : Row Column Value) :
    Option (Option (Row Column Value)) :=
  match becomes with
  | none =>
    match key.onDelete with
    | .noAction => none
    | .cascade => some none
    | .setNull => some (some (key.assign (fun _ => none) child))
  | some updated =>
    if ∀ pair ∈ key.columns, updated pair.2 = parent pair.2 then none
    else
      match key.onUpdate with
      | .noAction => none
      | .cascade => some (some (key.assign updated child))
      | .setNull => some (some (key.assign (fun _ => none) child))

/-- A key does nothing where the columns it names stay. -/
theorem ForeignKey.act_kept (key : ForeignKey Table Column) {parent updated : Row Column Value}
    (kept : ∀ pair ∈ key.columns, updated pair.2 = parent pair.2) (child : Row Column Value) :
    key.act parent (some updated) child = none :=
  if_pos kept

theorem ForeignKey.act_changed {key : ForeignKey Table Column} (cascades : key.onUpdate = .cascade)
    {parent updated : Row Column Value}
    (changed : ¬ ∀ pair ∈ key.columns, updated pair.2 = parent pair.2) (child : Row Column Value) :
    key.act parent (some updated) child = some (some (key.assign updated child)) := by
  rw [ForeignKey.act, if_neg changed, cascades]

theorem ForeignKey.act_updated {key : ForeignKey Table Column} (stands : key.onUpdate = .noAction)
    (parent updated child : Row Column Value) : key.act parent (some updated) child = none := by
  rw [ForeignKey.act, stands]
  exact ite_self _

theorem ForeignKey.act_deleted {key : ForeignKey Table Column} (cascades : key.onDelete = .cascade)
    (parent child : Row Column Value) : key.act parent none child = some none := by
  rw [ForeignKey.act, cascades]

end Actions

/-! ### Effects -/

section Effects

variable [DecidableEq Table]

/-- The change takes one content to another. -/
def Change.Applied (change : Change Table Column Value)
    (before after : Content Table Column Value) : Prop :=
  ∃ front back, before change.table = front ++ change.old.toList ++ back ∧
    after = Function.update before change.table (front ++ change.new.toList ++ back)

/-- The changes take one content to another, each after those before it. -/
inductive AppliedAll : List (Change Table Column Value) → Content Table Column Value →
    Content Table Column Value → Prop
  | nil (content) : AppliedAll [] content content
  | cons (change rest before middle after) (applied : change.Applied before middle)
    (others : AppliedAll rest middle after) : AppliedAll (change :: rest) before after

variable {Good : Table → Row Column Value → Prop}

theorem Change.Applied.rows {change : Change Table Column Value}
    {before after : Content Table Column Value} (applied : change.Applied before after)
    (good : ∀ table, ∀ row ∈ before table, Good table row)
    (produces : ∀ row, change.new = some row → Good change.table row) :
    ∀ table, ∀ row ∈ after table, Good table row := by
  obtain ⟨front, back, was, rfl⟩ := applied
  intro table row member
  by_cases same : table = change.table
  · subst same
    rw [Function.update_self, List.mem_append, List.mem_append, Option.mem_toList] at member
    have kept : row ∈ front ∨ row ∈ back → Good change.table row := fun either => by
      refine good _ row ?_
      rw [was, List.mem_append, List.mem_append]
      exact either.elim (fun inFront => .inl (.inl inFront)) .inr
    obtain (inFront | isNew) | inBack := member
    · exact kept (.inl inFront)
    · exact produces row isNew
    · exact kept (.inr inBack)
  · rw [Function.update_of_ne same] at member
    exact good table row member

theorem AppliedAll.rows {changes : List (Change Table Column Value)}
    {before after : Content Table Column Value} (applied : AppliedAll changes before after)
    (produces : ∀ change ∈ changes, ∀ row, change.new = some row → Good change.table row)
    (good : ∀ table, ∀ row ∈ before table, Good table row) :
    ∀ table, ∀ row ∈ after table, Good table row := by
  induction applied with
  | nil content => exact good
  | cons change rest before middle after applied others inductionHypothesis =>
    refine inductionHypothesis
      (fun other member => produces other (List.mem_cons_of_mem _ member)) ?_
    exact applied.rows good (produces change List.mem_cons_self)

/-- The row a change replaces was there. -/
theorem Change.Applied.old_mem {change : Change Table Column Value}
    {before after : Content Table Column Value} (applied : change.Applied before after)
    {row : Row Column Value} (old : change.old = some row) : row ∈ before change.table := by
  obtain ⟨front, back, was, -⟩ := applied
  rw [was, old]
  exact List.mem_append_left _ (List.mem_append_right _ List.mem_cons_self)

variable [DecidableEq Column] [DecidableEq Value]

/-- The key answers a change with another. -/
inductive ForeignKey.Reacts (key : ForeignKey Table Column) :
    Change Table Column Value → Change Table Column Value → Prop
  | act (parent child : Row Column Value) (updated becomes : Option (Row Column Value))
    (refers : key.Refers child parent) (acts : key.act parent updated child = some becomes) :
    key.Reacts ⟨key.parent, some parent, updated⟩ ⟨key.child, some child, becomes⟩

/-- Referential actions answer the changes made so far, their own among them, in any order. -/
inductive Fired (keys : List (ForeignKey Table Column)) : List (Change Table Column Value) →
    Content Table Column Value → Content Table Column Value → Prop
  | none (changes content) : Fired keys changes content content
  | one (changes key change reaction before middle after) (made : change ∈ changes)
    (among : key ∈ keys) (reacts : key.Reacts change reaction)
    (applied : reaction.Applied before middle)
    (later : Fired keys (changes ++ [reaction]) middle after) : Fired keys changes before after

/-! ### Statements -/

/-- What a statement changes, of what it reads. -/
abbrev Statement (Table Column Value : Type) :=
  Content Table Column Value → List (Change Table Column Value)

/-- The statement succeeds. -/
structure Executed (schema : Schema Table Column) (policies : Table → Policy Table Column Value)
    (statement : Statement Table Column Value) (before after : Content Table Column Value) :
    Prop where
  allowed : ∀ change ∈ statement (visible policies before), change.Allowed policies before
  effect : ∃ middle, AppliedAll (statement (visible policies before)) before middle ∧
    Fired schema.foreignKeys (statement (visible policies before)) middle after
  holds : schema.Holds after

/-! ### Invariants of rows -/

variable {Fine : Change Table Column Value → Prop}

/-- Referential actions keep every row good if each answers a fine change with a fine one, and
what a fine change produces is good. -/
theorem Fired.rows {keys : List (ForeignKey Table Column)}
    {changes : List (Change Table Column Value)} {before after : Content Table Column Value}
    (fired : Fired keys changes before after)
    (reacts : ∀ key ∈ keys, ∀ change reaction : Change Table Column Value, Fine change →
      (∀ row, reaction.old = some row → Good reaction.table row) → key.Reacts change reaction →
      Fine reaction)
    (produces : ∀ change, Fine change → ∀ row, change.new = some row → Good change.table row)
    (fine : ∀ change ∈ changes, Fine change)
    (good : ∀ table, ∀ row ∈ before table, Good table row) :
    ∀ table, ∀ row ∈ after table, Good table row := by
  induction fired with
  | none changes content => exact good
  | one changes key change reaction before middle after made among reacted applied later
      inductionHypothesis =>
    have fineReaction : Fine reaction := reacts key among change reaction (fine change made)
      (fun row old => good _ row (applied.old_mem old)) reacted
    refine inductionHypothesis (fun other member => ?_)
      (applied.rows good (produces _ fineReaction))
    obtain earlier | isReaction := List.mem_append.mp member
    · exact fine other earlier
    · rw [List.mem_singleton.mp isReaction]
      exact fineReaction

/-- A statement keeps every row good if its own changes are fine, referential actions answer
fine changes with fine ones, and what a fine change produces is good. -/
theorem Executed.rows {schema : Schema Table Column}
    {policies : Table → Policy Table Column Value} {statement : Statement Table Column Value}
    {before after : Content Table Column Value}
    (executed : Executed schema policies statement before after)
    (own : ∀ change : Change Table Column Value, change.Allowed policies before → Fine change)
    (reacts : ∀ key ∈ schema.foreignKeys, ∀ change reaction : Change Table Column Value,
      Fine change → (∀ row, reaction.old = some row → Good reaction.table row) →
      key.Reacts change reaction → Fine reaction)
    (produces : ∀ change, Fine change → ∀ row, change.new = some row → Good change.table row)
    (good : ∀ table, ∀ row ∈ before table, Good table row) :
    ∀ table, ∀ row ∈ after table, Good table row := by
  obtain ⟨middle, applied, fired⟩ := executed.effect
  have fine : ∀ change ∈ statement (visible policies before), Fine change :=
    fun change member => own change (executed.allowed change member)
  exact fired.rows reacts produces fine
    (applied.rows (fun change member => produces change (fine change member)) good)

end Effects

end Relational
