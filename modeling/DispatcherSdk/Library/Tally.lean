/-
This file is a small library for counting and adding over lists and keyed tables, and for
values that never fall along a chain of observations.

A count is kept when rows are rewritten without making the condition true. A sum over a table
changes by what the one row contributes that is added or rewritten.
-/

import DispatcherSdk.Library.Table
import Mathlib.Algebra.BigOperators.Group.List.Basic
import Mathlib.Algebra.Order.BigOperators.Group.List
import Mathlib.Algebra.Ring.Nat
import Mathlib.Data.List.Chain
import Mathlib.Order.Basic

namespace Library

open List

namespace Streak

variable {Item Value : Type}

/-- A value that never falls along a chain and ends as it began is the same all along. -/
theorem constant_of_ends [PartialOrder Value] {value : Item → Value} {first last : Item}
    {rest : List Item}
    (rising : (first :: (rest ++ [last])).IsChain fun early late => value early ≤ value late)
    (same : value last = value first) : ∀ item ∈ first :: (rest ++ [last]), value item = value first := by
  have transitive : IsTrans Item fun early late => value early ≤ value late :=
    ⟨fun _ _ _ before after => le_trans before after⟩
  have ordered := rising.pairwise
  obtain ⟨above, others⟩ := pairwise_cons.mp ordered
  have below : ∀ item ∈ rest, value item ≤ value last := fun item member =>
    (pairwise_append.mp others).2.2 item member last (mem_singleton_self last)
  intro item member
  rcases mem_cons.mp member with rfl | later
  · rfl
  · refine le_antisymm ?_ (above item later)
    rcases mem_append.mp later with inside | ending
    · rw [← same]
      exact below item inside
    · rw [mem_singleton.mp ending, same]

/-- A chain goes on with an item that is related to its last one. -/
theorem isChain_extend {related : Item → Item → Prop} {items : List Item} {next : Item}
    (chain : items.IsChain related) (continues : ∀ last ∈ items.getLast?, related last next) :
    (items ++ [next]).IsChain related := by
  refine chain.append (isChain_singleton next) ?_
  intro last ending other heads
  cases heads
  exact continues last ending

end Streak

/-! ### Lists -/

section Lists

variable {Item : Type}

/-- If nothing satisfies a condition after an item that does not, those that do come first. -/
theorem filter_isPrefix {condition : Item → Bool} {items : List Item}
    (ordered : items.Pairwise fun early late => condition late = true → condition early = true) :
    items.filter condition <+: items := by
  induction items with
  | nil => exact prefix_rfl
  | cons item rest hypothesis =>
    obtain ⟨first, others⟩ := pairwise_cons.mp ordered
    by_cases holds : condition item = true
    · rw [filter_cons_of_pos holds]
      exact (prefix_cons_inj item).mpr (hypothesis others)
    · have none : rest.filter condition = [] :=
        filter_eq_nil_iff.mpr fun late member held => holds (first late member held)
      rw [filter_cons_of_neg holds, none]
      exact nil_prefix

/-- What satisfies the first condition satisfies one of the other two. -/
theorem countP_le_add {first second third : Item → Bool} {items : List Item}
    (covered : ∀ item ∈ items, first item = true → second item = true ∨ third item = true) :
    items.countP first ≤ items.countP second + items.countP third := by
  induction items with
  | nil => exact Nat.le_refl 0
  | cons item rest hypothesis =>
    have others := hypothesis fun other member => covered other (mem_cons_of_mem _ member)
    have here := covered item mem_cons_self
    simp only [countP_cons]
    split
    · rename_i holds
      rcases here holds with second | third
      · rw [if_pos second]
        omega
      · rw [if_pos third]
        omega
    · omega

theorem sum_map_filter (condition : Item → Bool) (weight : Item → ℕ) (items : List Item) :
    ((items.filter condition).map weight).sum =
      (items.map fun item => if condition item then weight item else 0).sum := by
  induction items with
  | nil => rfl
  | cons item rest hypothesis =>
    by_cases holds : condition item = true
    · simp [filter_cons_of_pos holds, holds, hypothesis]
    · simp [filter_cons_of_neg holds, holds, hypothesis]

end Lists

namespace Table

variable {Row Key : Type} {key : Row → Key} [DecidableEq Key]

/-! ### Tables -/

/-- A row under a new key is added to the others. -/
theorem rows_put_of_fresh {table : Table key} {row : Row} (fresh : table.find? (key row) = none) :
    (table.put row).rows = row :: table.rows := by
  have kept : table.rows.filter (fun other => key other ≠ key row) = table.rows :=
    filter_eq_self.mpr fun other member =>
      decide_eq_true (find?_eq_none_iff.mp fresh other member)
  show row :: table.rows.filter _ = _
  rw [kept]

/-- A sum changes by what the one row contributes that is rewritten. -/
theorem sum_update {table : Table key} {row : Row} (stored : row ∈ table) (weight : Row → ℕ)
    {change : Row → Row} (others : ∀ other, key other ≠ key row → change other = other) :
    ((table.rows.map change).map weight).sum + weight row =
      (table.rows.map weight).sum + weight (change row) := by
  have general : ∀ rows : List Row, (rows.map key).Nodup → row ∈ rows →
      ((rows.map change).map weight).sum + weight row =
        (rows.map weight).sum + weight (change row) := by
    intro rows
    induction rows with
    | nil => exact fun _ member => absurd member not_mem_nil
    | cons head rest hypothesis =>
      intro unique member
      obtain ⟨absent, distinct⟩ := nodup_cons.mp unique
      simp only [map_cons, sum_cons]
      by_cases here : key head = key row
      · have missing : row ∉ rest := fun later =>
          absent (here ▸ mem_map_of_mem later)
        have same : head = row := by
          rcases mem_cons.mp member with same | later
          · exact same.symm
          · exact absurd later missing
        have untouched : rest.map change = rest := by
          refine (map_congr_left fun other later => ?_).trans (map_id rest)
          refine others other fun equal => absent ?_
          rw [here, ← equal]
          exact mem_map_of_mem later
        rw [untouched, same]
        omega
      · have later : row ∈ rest := by
          rcases mem_cons.mp member with same | later
          · exact absurd (congrArg key same).symm here
          · exact later
        have rest := hypothesis distinct later
        rw [others head here]
        omega
  exact general table.rows table.unique stored

variable {table : Table key}

/-- A row is found among the rows that are kept if it was found and is one of them. -/
theorem find?_keep_eq_some {condition : Row → Bool} {name : Key} {row : Row} :
    (table.keep condition).find? name = some row ↔
      table.find? name = some row ∧ condition row = true := by
  rw [find?_eq_some_iff, find?_eq_some_iff, mem_keep]
  exact ⟨fun ⟨⟨stored, kept⟩, named⟩ => ⟨⟨stored, named⟩, kept⟩,
    fun ⟨⟨stored, named⟩, kept⟩ => ⟨⟨stored, kept⟩, named⟩⟩

/-! ### Writing several rows -/

theorem mem_foldl_put {rows : List Row} {row : Row} (member : row ∈ rows.foldl put table) :
    row ∈ rows ∨ row ∈ table := by
  induction rows generalizing table with
  | nil => exact .inr member
  | cons first rest hypothesis =>
    rcases hypothesis member with later | early
    · exact .inl (mem_cons_of_mem first later)
    · rcases mem_put.mp early with rfl | ⟨old, _⟩
      · exact .inl mem_cons_self
      · exact .inr old

theorem find?_foldl_put_other {rows : List Row} {name : Key}
    (others : ∀ row ∈ rows, key row ≠ name) :
    (rows.foldl put table).find? name = table.find? name := by
  induction rows generalizing table with
  | nil => rfl
  | cons first rest hypothesis =>
    rw [foldl_cons, hypothesis fun row member =>
      others row (mem_cons_of_mem first member)]
    exact find?_put_other table (others first mem_cons_self).symm

end Table

end Library
