/-
This file is a small library of keyed tables: finite collections of rows in which no two
rows carry the same key, as a relational store with a primary key keeps them.

The primary key is a function of the row, so a row can never sit under a key other than its
own, and a table carries the uniqueness of its keys as a field. A step of a store is described
row by row, by a relation between the row that a key had and the one that it has afterwards,
and by a property of the rows that are new.
-/

import Mathlib.Data.List.Basic
import Mathlib.Data.List.Nodup
import Mathlib.Data.List.Perm.Subperm

namespace Library

open List

/-- A finite collection of rows with a primary key. -/
structure Table {Row Key : Type} (key : Row → Key) where
  /-- The stored rows, in no particular order. -/
  rows : List Row
  /-- The primary key is unique. -/
  unique : (rows.map key).Nodup

namespace Table

variable {Row Key : Type} {key : Row → Key}

/-- The table without rows. -/
def empty : Table key := ⟨[], nodup_nil⟩

instance : EmptyCollection (Table key) := ⟨empty⟩

instance : Inhabited (Table key) := ⟨empty⟩

instance : Membership Row (Table key) := ⟨fun table row => row ∈ table.rows⟩

variable {table : Table key} {row : Row}

theorem mem_rows : row ∈ table ↔ row ∈ table.rows :=
  Iff.rfl

@[ext] theorem ext {left right : Table key} (same : left.rows = right.rows) : left = right := by
  cases left
  cases right
  congr

/-- Two rows of one table with the same key are the same row. -/
theorem eq_of_key_eq {left right : Row}
    (leftMember : left ∈ table) (rightMember : right ∈ table) (same : key left = key right) :
    left = right :=
  inj_on_of_nodup_map table.unique leftMember rightMember same

/-! ### Lookup -/

section Lookup

variable [DecidableEq Key]

/-- The row stored under a key. -/
def find? (table : Table key) (name : Key) : Option Row :=
  table.rows.find? fun row => key row = name

@[simp] theorem find?_empty (name : Key) : (∅ : Table key).find? name = none := rfl

variable {name : Key}

theorem key_of_find? (found : table.find? name = some row) : key row = name := by
  have matched := List.find?_some found
  simpa using matched

theorem mem_of_find? (found : table.find? name = some row) : row ∈ table :=
  mem_of_find?_eq_some found

/-- A lookup by the key of a stored row returns that row. -/
theorem find?_key (member : row ∈ table) : table.find? (key row) = some row := by
  cases found : table.find? (key row) with
  | none =>
    have missing := List.find?_eq_none.mp found row member
    simp at missing
  | some other =>
    have same : other = row := eq_of_key_eq (mem_of_find? found) member (key_of_find? found)
    rw [same]

theorem find?_eq_some_iff : table.find? name = some row ↔ row ∈ table ∧ key row = name := by
  refine ⟨fun found => ⟨mem_of_find? found, key_of_find? found⟩, ?_⟩
  rintro ⟨member, rfl⟩
  exact find?_key member

theorem find?_eq_none_iff : table.find? name = none ↔ ∀ row ∈ table, key row ≠ name := by
  unfold find?
  rw [List.find?_eq_none]
  simp only [decide_eq_true_eq, mem_rows]

/-! ### Writing one row -/

/-- Store a row under its key, replacing the row that was there. -/
def put (table : Table key) (row : Row) : Table key where
  rows := row :: table.rows.filter fun other => key other ≠ key row
  unique := by
    rw [map_cons, nodup_cons]
    refine ⟨?_, table.unique.sublist (filter_sublist.map key)⟩
    intro member
    obtain ⟨other, kept, same⟩ := mem_map.mp member
    have differs := (mem_filter.mp kept).2
    simp only [ne_eq, decide_eq_true_eq] at differs
    exact differs same

theorem mem_put {other : Row} :
    other ∈ table.put row ↔ other = row ∨ (other ∈ table ∧ key other ≠ key row) := by
  simp [put, mem_rows]

/-- A row under a new key replaces no other. -/
theorem mem_put_of_fresh (table : Table key) {other : Row}
    (fresh : table.find? (key row) = none) (member : other ∈ table) : other ∈ table.put row :=
  mem_put.mpr (.inr ⟨member, find?_eq_none_iff.mp fresh other member⟩)

@[simp] theorem find?_put_same (table : Table key) (row : Row) :
    (table.put row).find? (key row) = some row :=
  find?_key (mem_put.mpr (.inl rfl))

theorem find?_put_other (table : Table key) {row : Row} {name : Key} (other : name ≠ key row) :
    (table.put row).find? name = table.find? name := by
  cases found : table.find? name with
  | none =>
    rw [find?_eq_none_iff] at found ⊢
    intro candidate member
    rcases mem_put.mp member with rfl | ⟨kept, -⟩
    · exact Ne.symm other
    · exact found candidate kept
  | some stored =>
    rw [find?_eq_some_iff] at found ⊢
    refine ⟨mem_put.mpr (.inr ⟨found.1, ?_⟩), found.2⟩
    rw [found.2]
    exact other

theorem find?_put (table : Table key) (row : Row) (name : Key) :
    (table.put row).find? name = if name = key row then some row else table.find? name := by
  by_cases same : name = key row
  · rw [if_pos same, same, find?_put_same]
  · rw [if_neg same, find?_put_other table same]

/-- The table that holds a list of rows; of rows with the same key the first one counts. -/
def ofList (rows : List Row) : Table key := rows.foldr (fun row table => table.put row) ∅

/-- Of two writes under one key the second one counts. -/
theorem put_put (table : Table key) {first second : Row} (same : key first = key second) :
    (table.put first).put second = table.put second := by
  refine Table.ext ?_
  simp [put, same, filter_filter]

end Lookup

/-! ### Changing and dropping many rows -/

/-- Rewrite every row by a function that keeps the primary key, as an `UPDATE` without a key
condition does. -/
def update (table : Table key) (change : Row → Row) (keeps : ∀ row, key (change row) = key row) :
    Table key where
  rows := table.rows.map change
  unique := by
    have same : (table.rows.map change).map key = table.rows.map key := by
      rw [map_map]
      exact map_congr_left fun row _ => keeps row
    rw [same]
    exact table.unique

theorem mem_update {change : Row → Row} {keeps : ∀ row, key (change row) = key row} :
    row ∈ table.update change keeps ↔ ∃ stored ∈ table, change stored = row := by
  simp [update, mem_rows]

theorem find?_update [DecidableEq Key] (table : Table key) (change : Row → Row)
    (keeps : ∀ row, key (change row) = key row) (name : Key) :
    (table.update change keeps).find? name = (table.find? name).map change := by
  cases found : table.find? name with
  | none =>
    rw [find?_eq_none_iff] at found
    rw [Option.map_none, find?_eq_none_iff]
    intro row member
    obtain ⟨stored, kept, rfl⟩ := mem_update.mp member
    rw [keeps]
    exact found stored kept
  | some stored =>
    rw [find?_eq_some_iff] at found
    rw [Option.map_some, find?_eq_some_iff, keeps]
    exact ⟨mem_update.mpr ⟨stored, found.1, rfl⟩, found.2⟩

/-- Drop the rows that do not satisfy a condition, as a `DELETE` does. -/
def keep (table : Table key) (condition : Row → Bool) : Table key where
  rows := table.rows.filter condition
  unique := table.unique.sublist (filter_sublist.map key)

theorem mem_keep {condition : Row → Bool} :
    row ∈ table.keep condition ↔ row ∈ table ∧ condition row = true := by
  simp [keep, mem_rows]

end Table

namespace Table

variable {Row Key : Type} {key : Row → Key}

/-- Every row has become a related one under the same key, and every other row is fresh. -/
structure Rowwise (related : Row → Row → Prop) (fresh : Row → Prop) (before after : Table key) :
    Prop where
  forward : ∀ row ∈ before, ∃ later ∈ after, key later = key row ∧ related row later
  backward : ∀ later ∈ after, (∃ row ∈ before, key row = key later ∧ related row later) ∨
      ((∀ row ∈ before, key row ≠ key later) ∧ fresh later)

namespace Rowwise

variable {related : Row → Row → Prop} {fresh : Row → Prop}

theorem refl (reflexive : ∀ row, related row row) (table : Table key) :
    Rowwise related fresh table table :=
  ⟨fun row member => ⟨row, member, rfl, reflexive row⟩,
    fun row member => Or.inl ⟨row, member, rfl, reflexive row⟩⟩

variable {before after : Table key}

theorem mono {wider : Row → Row → Prop} {looser : Row → Prop}
    (step : Rowwise related fresh before after)
    (imply : ∀ row later, related row later → wider row later)
    (loosen : ∀ row, fresh row → looser row) : Rowwise wider looser before after := by
  refine ⟨fun row member => ?_, fun later member => ?_⟩
  · obtain ⟨later, kept, same, moved⟩ := step.forward row member
    exact ⟨later, kept, same, imply row later moved⟩
  · rcases step.backward later member with ⟨row, stored, same, moved⟩ | ⟨absent, new⟩
    · exact .inl ⟨row, stored, same, imply row later moved⟩
    · exact .inr ⟨absent, loosen later new⟩

theorem trans (transitive : ∀ {first second third}, related first second → related second third →
      related first third)
    (aged : ∀ {first second}, fresh first → related first second → fresh second)
    {first second third : Table key} (early : Rowwise related fresh first second)
    (late : Rowwise related fresh second third) : Rowwise related fresh first third := by
  refine ⟨fun row member => ?_, fun last member => ?_⟩
  · obtain ⟨middle, stored, same, moved⟩ := early.forward row member
    obtain ⟨last, kept, equal, further⟩ := late.forward middle stored
    exact ⟨last, kept, equal.trans same, transitive moved further⟩
  · rcases late.backward last member with ⟨middle, stored, same, moved⟩ | ⟨absent, new⟩
    · rcases early.backward middle stored with ⟨row, old, equal, before⟩ | ⟨absent, new⟩
      · exact .inl ⟨row, old, equal.trans same, transitive before moved⟩
      · exact .inr ⟨fun row old => same ▸ absent row old, aged new moved⟩
    · refine Or.inr ⟨fun row old => ?_, new⟩
      obtain ⟨middle, kept, same, _⟩ := early.forward row old
      exact same ▸ absent middle kept

/-- Rewriting every row. -/
theorem update {table : Table key} {change : Row → Row} {keeps : ∀ row, key (change row) = key row}
    (moves : ∀ row ∈ table, related row (change row)) :
    Rowwise related fresh table (table.update change keeps) := by
  refine ⟨fun row member => ?_, fun later member => ?_⟩
  · exact ⟨change row, mem_update.mpr ⟨row, member, rfl⟩, keeps row, moves row member⟩
  · obtain ⟨row, stored, rfl⟩ := mem_update.mp member
    exact .inl ⟨row, stored, (keeps row).symm, moves row stored⟩

section Writing

variable [DecidableEq Key]

/-- The row under a key becomes a related one under this key. -/
theorem find? (step : Rowwise related fresh before after) {name : Key}
    {row : Row} (found : before.find? name = some row) :
    ∃ later, after.find? name = some later ∧ related row later := by
  obtain ⟨stored, named⟩ := find?_eq_some_iff.mp found
  obtain ⟨later, kept, same, moved⟩ := step.forward row stored
  exact ⟨later, find?_eq_some_iff.mpr ⟨kept, same.trans named⟩, moved⟩

/-- Writing one row over the one that is stored under its key. -/
theorem put (reflexive : ∀ row, related row row) {table : Table key} {row later : Row}
    (stored : row ∈ table) (same : key later = key row) (moved : related row later) :
    Rowwise related fresh table (table.put later) := by
  refine ⟨fun other member => ?_, fun other member => ?_⟩
  · by_cases here : key other = key row
    · have equal : other = row := eq_of_key_eq member stored here
      exact ⟨later, mem_put.mpr (.inl rfl), same.trans here.symm, equal ▸ moved⟩
    · exact ⟨other, mem_put.mpr (.inr ⟨member, same ▸ here⟩), rfl, reflexive other⟩
  · rcases mem_put.mp member with rfl | ⟨old, _⟩
    · exact .inl ⟨row, stored, same.symm, moved⟩
    · exact .inl ⟨other, old, rfl, reflexive other⟩

/-- Adding a row under a key that no row has. -/
theorem insert (reflexive : ∀ row, related row row) {table : Table key} {row : Row}
    (absent : table.find? (key row) = none) (new : fresh row) :
    Rowwise related fresh table (table.put row) := by
  refine ⟨fun other member => ?_, fun other member => ?_⟩
  · exact ⟨other, mem_put_of_fresh table absent member, rfl, reflexive other⟩
  · rcases mem_put.mp member with rfl | ⟨old, _⟩
    · exact .inr ⟨find?_eq_none_iff.mp absent, new⟩
    · exact .inl ⟨other, old, rfl, reflexive other⟩

end Writing

/-- A property of rows that the relation keeps and that fresh rows have. -/
theorem holds {Property : Row → Prop}
    (kept : ∀ {row later}, Property row → related row later → Property later)
    (new : ∀ {row}, fresh row → Property row)
    (step : Rowwise related fresh before after) (held : ∀ row ∈ before, Property row) :
    ∀ row ∈ after, Property row := by
  intro later member
  rcases step.backward later member with ⟨row, stored, _, moved⟩ | ⟨_, fresh⟩
  · exact kept (held row stored) moved
  · exact new fresh

end Rowwise

end Table

end Library
