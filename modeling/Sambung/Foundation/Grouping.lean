/-
This file is a small theory of lists filed under keys, in the order in which the
keys came: what a program builds that walks a list and pushes each item onto the
list of its key, making the list where the key has none. Under each key then stand
the items of that key, in their order.

The lists are an association list, so the keys keep the order of their first
items, as in a map that iterates in insertion order. One lemma says what a push
does to the list of any key; the theorem follows from it by induction over the
items, the last of them taken first.
-/

import Mathlib.Data.List.Induction

namespace Grouping

variable {Key Item : Type} [DecidableEq Key]

/-- The list under a key, where there is one. -/
def get (key : Key) (groups : List (Key × List Item)) : Option (List Item) :=
  (groups.find? fun entry => entry.1 = key).map Prod.snd

/-- One more item under its key. -/
def push (key : Key) (item : Item) : List (Key × List Item) → List (Key × List Item)
  | [] => [(key, [item])]
  | entry :: rest =>
    if entry.1 = key then (entry.1, entry.2 ++ [item]) :: rest else entry :: push key item rest

/-- The items, each under its key. -/
def groupBy (key : Item → Key) (items : List Item) : List (Key × List Item) :=
  items.foldl (fun groups item => push (key item) item groups) []

theorem get_cons (wanted : Key) (entry : Key × List Item) (rest : List (Key × List Item)) :
    get wanted (entry :: rest) = if entry.1 = wanted then some entry.2 else get wanted rest := by
  rw [get, get, List.find?_cons]
  by_cases same : entry.1 = wanted
  · rw [if_pos same, decide_eq_true same, Option.map_some]
  · rw [if_neg same, decide_eq_false same]

/-- A push reaches the list of its key only. -/
theorem get_push (wanted key : Key) (item : Item) (groups : List (Key × List Item)) :
    get wanted (push key item groups) =
      if key = wanted then some ((get wanted groups).getD [] ++ [item]) else get wanted groups := by
  induction groups with
  | nil =>
    rw [push, get_cons]
    rfl
  | cons entry rest inductionHypothesis =>
    rw [push]
    by_cases same : entry.1 = key
    · rw [if_pos same, get_cons, get_cons]
      dsimp only
      by_cases named : entry.1 = wanted
      · rw [if_pos named, if_pos named, if_pos (same.symm.trans named), Option.getD_some]
      · rw [if_neg named, if_neg named, if_neg fun other => named (same.trans other)]
    · rw [if_neg same, get_cons, get_cons, inductionHypothesis]
      by_cases named : entry.1 = wanted
      · rw [if_pos named, if_pos named, if_neg fun other => same (named.trans other.symm)]
      · rw [if_neg named, if_neg named]

/-- Under a key stand the items of the key. -/
theorem getD_groupBy (key : Item → Key) (wanted : Key) (items : List Item) :
    (get wanted (groupBy key items)).getD [] = items.filter fun item => key item = wanted := by
  induction items using List.reverseRecOn with
  | nil => rfl
  | append_singleton items item inductionHypothesis =>
    rw [groupBy, List.foldl_append, List.foldl_cons, List.foldl_nil, get_push, List.filter_append,
      ← inductionHypothesis, groupBy]
    by_cases same : key item = wanted
    · rw [if_pos same, Option.getD_some, List.filter, decide_eq_true same]
      rfl
    · rw [if_neg same, List.filter, decide_eq_false same]
      exact (List.append_nil _).symm

end Grouping
