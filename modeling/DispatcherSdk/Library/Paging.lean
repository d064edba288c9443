/-
This file is a small library for streams that are stored page by page in a table.

The key of a page is the stream it belongs to with its number in the stream. A stream of some
length has exactly the pages below that length. Such a stream is read off as a list of pages, a
page that continues it makes the list longer at its end.
-/

import DispatcherSdk.Library.Table
import Mathlib.Data.List.Range
import Mathlib.Data.List.Sort
import Mathlib.Order.Defs.Unbundled

namespace Library

open List

namespace Keyset

variable {Item Key : Type} {before : Key → Key → Prop} [DecidableRel before] {key : Item → Key}

/-- The items whose keys come after a cursor. -/
def after (before : Key → Key → Prop) [DecidableRel before] (key : Item → Key) (cursor : Key)
    (items : List Item) : List Item :=
  items.filter fun item => before cursor (key item)

variable {cursor : Key} {items : List Item}

theorem mem_after {item : Item} :
    item ∈ after before key cursor items ↔ item ∈ items ∧ before cursor (key item) := by
  unfold after
  rw [mem_filter, decide_eq_true_iff]

/-- A cursor that comes before every key leaves all of the items. -/
theorem after_all
    (first : ∀ item ∈ items, before cursor (key item)) : after before key cursor items = items :=
  filter_eq_self.mpr fun item member => decide_eq_true (first item member)

variable [IsTrans Key before]

/-- What comes after a later cursor is found among what comes after an earlier one. -/
theorem after_after {earlier later : Key} (less : before earlier later) (items : List Item) :
    after before key later (after before key earlier items) = after before key later items := by
  unfold after
  rw [filter_filter]
  refine filter_congr fun item _ => ?_
  by_cases ahead : before later (key item)
  · rw [decide_eq_true ahead, decide_eq_true (IsTrans.trans _ _ _ less ahead), Bool.and_true]
  · rw [decide_eq_false ahead, Bool.false_and]

variable [Std.Irrefl before]

/-- In ordered items the cursor of an item leaves what stands behind it. -/
theorem after_append {front back : List Item} {last : Item}
    (ordered : (front ++ last :: back).Pairwise fun left right => before (key left) (key right)) :
    after before key (key last) (front ++ last :: back) = back := by
  obtain ⟨_, behind, across⟩ := pairwise_append.mp ordered
  unfold after
  rw [filter_append, filter_cons, decide_eq_false (Std.Irrefl.irrefl _)]
  have gone : front.filter (fun item => before (key last) (key item)) = [] :=
    filter_eq_nil_iff.mpr fun item member back => by
      have less := across item member last mem_cons_self
      exact Std.Irrefl.irrefl _ (IsTrans.trans _ _ _ less (of_decide_eq_true back))
  rw [gone, nil_append]
  exact filter_eq_self.mpr fun item member =>
    decide_eq_true ((pairwise_cons.mp behind).1 item member)

/-- The cursor of a full page leaves what the page does not hold. -/
theorem after_take {count : ℕ} {last : Item}
    (ordered : items.Pairwise fun left right => before (key left) (key right))
    (full : ((after before key cursor items).take count).getLast? = some last) :
    after before key (key last) items = (after before key cursor items).drop count := by
  obtain ⟨front, page⟩ := List.getLast?_eq_some_iff.mp full
  have split : after before key cursor items =
      front ++ last :: (after before key cursor items).drop count := by
    conv_lhs => rw [← take_append_drop count (after before key cursor items), page]
    rw [append_assoc, singleton_append]
  have there : last ∈ after before key cursor items := by
    rw [split]
    exact mem_append_right front mem_cons_self
  rw [← after_after (mem_after.mp there).2 items]
  have inOrder := ordered.filter fun item => decide (before cursor (key item))
  change (after before key cursor items).Pairwise _ at inOrder
  rw [split] at inOrder
  have left := after_append inOrder
  rw [← split] at left
  exact left

end Keyset

namespace Table

variable {Row Stream : Type} [DecidableEq Stream] {key : Row → Stream × ℕ}

/-- The first pages of a stream, in their order. -/
def pages (table : Table key) (stream : Stream) (count : ℕ) : List Row :=
  (List.range count).filterMap fun number => table.find? (stream, number)

/-- A stream has the pages below a length, and no others. -/
structure Numbered (table : Table key) (stream : Stream) (count : ℕ) : Prop where
  below : ∀ row ∈ table, (key row).1 = stream → (key row).2 < count
  there : ∀ number < count, ∃ row, table.find? (stream, number) = some row

variable {table : Table key} {stream : Stream} {count : ℕ}

theorem numbered_empty (stream : Stream) : Numbered (∅ : Table key) stream 0 where
  below _ member := absurd member not_mem_nil
  there number small := absurd small (Nat.not_lt_zero number)

variable {row : Row}

theorem mem_pages : row ∈ table.pages stream count ↔
    row ∈ table ∧ (key row).1 = stream ∧ (key row).2 < count := by
  unfold pages
  rw [mem_filterMap]
  refine ⟨fun ⟨number, small, found⟩ => ?_, fun ⟨stored, own, small⟩ => ?_⟩
  · obtain ⟨stored, named⟩ := find?_eq_some_iff.mp found
    rw [named]
    exact ⟨stored, rfl, mem_range.mp small⟩
  · refine ⟨(key row).2, mem_range.mpr small, ?_⟩
    rw [← own]
    exact find?_key stored

theorem pages_zero : table.pages stream 0 = [] := rfl

theorem pages_succ (found : table.find? (stream, count) = some row) :
    table.pages stream (count + 1) = table.pages stream count ++ [row] := by
  unfold pages
  rw [range_succ, filterMap_append, filterMap_cons, filterMap_nil, found]

/-- A page that continues a stream makes it one page longer. -/
theorem Numbered.put (numbered : table.Numbered stream count)
    (own : key row = (stream, count)) : (table.put row).Numbered stream (count + 1) where
  below other stored mine := by
    rcases mem_put.mp stored with rfl | ⟨old, _⟩
    · rw [own]
      exact Nat.lt_succ_self count
    · exact (numbered.below other old mine).trans (Nat.lt_succ_self count)
  there number small := by
    by_cases last : number = count
    · refine ⟨row, ?_⟩
      rw [last, ← own]
      exact find?_put_same table row
    · obtain ⟨other, found⟩ := numbered.there number (lt_of_le_of_ne (Nat.le_of_lt_succ small) last)
      refine ⟨other, (find?_put_other table fun same => last ?_).trans found⟩
      exact congrArg Prod.snd (same.trans own)

/-- A page of another stream changes nothing. -/
theorem Numbered.put_other (numbered : table.Numbered stream count)
    (other : (key row).1 ≠ stream) : (table.put row).Numbered stream count where
  below page stored mine := by
    rcases mem_put.mp stored with rfl | ⟨old, _⟩
    · exact absurd mine other
    · exact numbered.below page old mine
  there number small := by
    obtain ⟨page, found⟩ := numbered.there number small
    exact ⟨page, (find?_put_other table fun same =>
      other (congrArg Prod.fst same).symm).trans found⟩

theorem pages_put (own : key row = (stream, count)) :
    (table.put row).pages stream (count + 1) = table.pages stream count ++ [row] := by
  have last : (table.put row).find? (stream, count) = some row := by
    rw [← own]
    exact find?_put_same table row
  rw [pages_succ last]
  refine congrArg (· ++ [row]) (filterMap_congr fun number small => ?_)
  refine find?_put_other table fun same => ?_
  have equal : number = count := congrArg Prod.snd (same.trans own)
  exact absurd equal (Nat.ne_of_lt (mem_range.mp small))

theorem pages_put_other (other : (key row).1 ≠ stream) :
    (table.put row).pages stream count = table.pages stream count :=
  filterMap_congr fun _ _ =>
    find?_put_other table fun same => other (congrArg Prod.fst same).symm

/-- A change of other columns keeps the numbers. -/
theorem Numbered.update (numbered : table.Numbered stream count) {change : Row → Row}
    (keeps : ∀ row, key (change row) = key row) : (table.update change keeps).Numbered stream count where
  below row stored mine := by
    obtain ⟨old, there, rfl⟩ := mem_update.mp stored
    rw [keeps] at mine ⊢
    exact numbered.below old there mine
  there number small := by
    obtain ⟨row, found⟩ := numbered.there number small
    refine ⟨change row, ?_⟩
    rw [find?_update, found, Option.map_some]

/-! ### Reading -/

theorem pages_pairwise (table : Table key) (stream : Stream) (count : ℕ) :
    (table.pages stream count).Pairwise fun left right => (key left).2 < (key right).2 := by
  refine List.Pairwise.filterMap _ (fun early late before left found right foundToo => ?_)
    pairwise_lt_range
  rw [key_of_find? found, key_of_find? foundToo]
  exact before

section

variable (there : ∀ number < count, ∃ row, table.find? (stream, number) = some row)

include there

/-- The numbers of the first pages. -/
theorem map_pages : (table.pages stream count).map (fun row => (key row).2) = List.range count := by
  induction count with
  | zero => rfl
  | succ count hypothesis =>
    obtain ⟨row, found⟩ := there count (Nat.lt_succ_self count)
    have named : (key row).2 = count := congrArg Prod.snd (key_of_find? found)
    rw [pages_succ found, map_append, range_succ,
      hypothesis fun number small => there number (small.trans (Nat.lt_succ_self count)),
      map_singleton, named]

theorem length_pages : (table.pages stream count).length = count := by
  have counted := congrArg List.length (map_pages there)
  rw [length_map, length_range] at counted
  exact counted

end

/-- The pages are numbered by their places. -/
theorem Numbered.getElem_pages (numbered : table.Numbered stream count) {number : ℕ}
    (small : number < (table.pages stream count).length) :
    (key (table.pages stream count)[number]).2 = number := by
  have mapped : number < ((table.pages stream count).map fun row => (key row).2).length := by
    rw [length_map]
    exact small
  have place : ((table.pages stream count).map fun row => (key row).2)[number] = number := by
    simp only [map_pages numbered.there, getElem_range]
  rw [getElem_map] at place
  exact place

theorem Numbered.filter_pages (numbered : table.Numbered stream count) (start : ℕ) :
    (table.pages stream count).filter (fun row => decide (start ≤ (key row).2)) =
      (table.pages stream count).drop start := by
  have there := numbered.there
  clear numbered
  induction count with
  | zero => rw [pages_zero, filter_nil, drop_nil]
  | succ count hypothesis =>
    obtain ⟨row, found⟩ := there count (Nat.lt_succ_self count)
    have named : (key row).2 = count := congrArg Prod.snd (key_of_find? found)
    have before : ∀ number < count, ∃ row, table.find? (stream, number) = some row :=
      fun number small => there number (small.trans (Nat.lt_succ_self count))
    rw [pages_succ found, filter_append, hypothesis before, drop_append,
      length_pages before]
    refine congrArg _ ?_
    rw [filter_singleton, named]
    by_cases reached : start ≤ count
    · rw [decide_eq_true reached, Nat.sub_eq_zero_of_le reached]
      rfl
    · rw [decide_eq_false reached]
      have more : 1 ≤ start - count := by omega
      rw [drop_eq_nil_of_le more]
      rfl

/-- `WHERE stream=? AND sequence>=? ORDER BY sequence`. -/
def tail (table : Table key) (stream : Stream) (start : ℕ) : List Row :=
  (table.rows.filter fun row =>
    decide ((key row).1 = stream) && decide (start ≤ (key row).2)).insertionSort
      fun left right => (key left).2 ≤ (key right).2

/-- Such a query answers the rest of a stream. -/
theorem Numbered.tail_eq (numbered : table.Numbered stream count) (start : ℕ) :
    table.tail stream start = (table.pages stream count).drop start := by
  rw [← numbered.filter_pages start]
  have distinct : table.rows.Nodup := List.Nodup.of_map key table.unique
  have ordered : ((table.pages stream count).filter fun row =>
      decide (start ≤ (key row).2)).Pairwise fun left right => (key left).2 ≤ (key right).2 :=
    ((pages_pairwise table stream count).imp fun less => le_of_lt less).filter _
  have others : (table.pages stream count).Nodup :=
    (pages_pairwise table stream count).imp fun {left right} less same => by
      rw [same] at less
      exact lt_irrefl _ less
  refine List.Perm.eq_of_pairwise (fun left right member memberToo up down => ?_)
    (pairwise_insertionSort _ _) ordered
    ((perm_insertionSort _ _).trans ((perm_ext_iff_of_nodup (distinct.filter _)
      (others.filter _)).mpr fun row => ?_))
  · unfold tail at member
    rw [mem_insertionSort, mem_filter, Bool.and_eq_true, decide_eq_true_iff] at member
    have leftOwn := member.2.1
    obtain ⟨stored, rightOwn, _⟩ := mem_pages.mp (mem_filter.mp memberToo).1
    exact eq_of_key_eq (mem_rows.mpr member.1) stored
      (Prod.ext (leftOwn.trans rightOwn.symm) (le_antisymm up down))
  · rw [mem_filter, mem_filter, mem_pages, Bool.and_eq_true, decide_eq_true_iff,
      mem_rows]
    refine ⟨fun ⟨stored, own, late⟩ => ⟨⟨stored, own, numbered.below row stored own⟩, late⟩,
      fun ⟨⟨stored, own, _⟩, late⟩ => ⟨stored, own, late⟩⟩

/-- `ORDER BY sequence DESC LIMIT 1`. -/
def latest (table : Table key) (stream : Stream) : Option Row := (table.tail stream 0).getLast?

theorem Numbered.latest_succ (numbered : table.Numbered stream (count + 1)) :
    table.latest stream = table.find? (stream, count) := by
  obtain ⟨row, found⟩ := numbered.there count (Nat.lt_succ_self count)
  unfold latest
  rw [numbered.tail_eq, drop_zero, pages_succ found, List.getLast?_concat, found]

/-- A stream without a last page is empty. -/
theorem Numbered.of_latest_none (numbered : table.Numbered stream count)
    (none : table.latest stream = none) : count = 0 := by
  cases count with
  | zero => rfl
  | succ count =>
    obtain ⟨row, found⟩ := numbered.there count (Nat.lt_succ_self count)
    cases (numbered.latest_succ.trans found).symm.trans none

/-- The last page of a stream carries the last number. -/
theorem Numbered.of_latest_some (numbered : table.Numbered stream count)
    (latest : table.latest stream = some row) :
    ∃ last, count = last + 1 ∧ table.find? (stream, last) = some row := by
  cases count with
  | zero =>
    unfold Table.latest at latest
    rw [numbered.tail_eq, drop_zero, pages_zero] at latest
    cases latest
  | succ count => exact ⟨count, rfl, numbered.latest_succ.symm.trans latest⟩

end Table

end Library
