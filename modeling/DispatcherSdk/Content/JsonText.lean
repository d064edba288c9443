/-
This file reads JSON texts: `json.loads` on the texts that the orchestrator stores.

A text lists the members of an object in the order of their keys, so what is read back
from the text of a value is that value with the entries of its objects put in order,
and nothing else about it changes. The texts of two values are equal exactly if the
values are equal up to the order of their entries.
-/

import DispatcherSdk.ExecutionKernel.Contracts
import Mathlib.Data.List.Induction
import Mathlib.Tactic.Common

namespace DispatcherSdk.ExecutionKernel

open List

namespace Json

/-! ### Induction over a value -/

/-- What holds of the scalars, of an array whose items it holds of and of an object whose values it
holds of, holds of every value. -/
@[elab_as_elim, induction_eliminator]
theorem inductionOn {motive : Json → Prop} (null : motive .null)
    (bool : ∀ value, motive (.bool value)) (int : ∀ value, motive (.int value))
    (float : ∀ value, motive (.float value)) (negativeZero : motive .negativeZero)
    (string : ∀ text, motive (.string text))
    (array : ∀ items, (∀ item ∈ items, motive item) → motive (.array items))
    (object : ∀ fields, (∀ field ∈ fields, motive field.2) → motive (.object fields))
    (value : Json) : motive value := by
  refine @Json.rec motive (fun items => ∀ item ∈ items, motive item)
    (fun fields => ∀ field ∈ fields, motive field.2) (fun field => motive field.2)
    null bool int float negativeZero string array object ?_ ?_ ?_ ?_ ?_ value
  · exact fun item none => nomatch none
  · intro item rest here later other member
    rcases mem_cons.mp member with rfl | old
    · exact here
    · exact later other old
  · exact fun field none => nomatch none
  · intro field rest here later other member
    rcases mem_cons.mp member with rfl | old
    · exact here
    · exact later other old
  · exact fun name value holds => holds

/-! ### Entries in order -/

/-- The order in which the members of an object are written. -/
abbrev NameOrder (left right : String × Json) : Prop := left.1 ≤ right.1

mutual

/-- The value with the entries of its objects in the order of their keys. -/
def sorted : Json → Json
  | .array items => .array (sortedItems items)
  | .object fields => .object ((sortedFields fields).insertionSort NameOrder)
  | scalar => scalar

def sortedItems : List Json → List Json
  | [] => []
  | item :: rest => sorted item :: sortedItems rest

def sortedFields : List (String × Json) → List (String × Json)
  | [] => []
  | (name, value) :: rest => (name, sorted value) :: sortedFields rest

end

theorem sortedItems_eq (items : List Json) : sortedItems items = items.map sorted := by
  induction items with
  | nil => rfl
  | cons item rest hypothesis => rw [sortedItems, hypothesis, map_cons]

theorem sortedFields_eq (fields : List (String × Json)) :
    sortedFields fields = fields.map fun field => (field.1, sorted field.2) := by
  induction fields with
  | nil => rfl
  | cons field rest hypothesis => rw [sortedFields, hypothesis, map_cons]

theorem encodeItems_eq (items : List Json) : encodeItems items = items.map encode := by
  induction items with
  | nil => rfl
  | cons item rest hypothesis => rw [encodeItems, hypothesis, map_cons]

theorem encodeFields_eq (fields : List (String × Json)) :
    encodeFields fields = fields.map fun field => (field.1, encode field.2) := by
  induction fields with
  | nil => rfl
  | cons field rest hypothesis => rw [encodeFields, hypothesis, map_cons]

/-- A Python dictionary has every key once. -/
inductive Distinct : Json → Prop where
  | null : Distinct .null
  | bool (value : Bool) : Distinct (.bool value)
  | int (value : ℤ) : Distinct (.int value)
  | float (value : ℚ) : Distinct (.float value)
  | negativeZero : Distinct .negativeZero
  | string (text : String) : Distinct (.string text)
  | array {items : List Json} (each : ∀ item ∈ items, Distinct item) : Distinct (.array items)
  | object {fields : List (String × Json)} (names : (fields.map Prod.fst).Nodup)
      (each : ∀ field ∈ fields, Distinct field.2) : Distinct (.object fields)

/-- Every object lists its entries in the order of their keys, and every key once. -/
inductive Ordered : Json → Prop where
  | null : Ordered .null
  | bool (value : Bool) : Ordered (.bool value)
  | int (value : ℤ) : Ordered (.int value)
  | float (value : ℚ) : Ordered (.float value)
  | negativeZero : Ordered .negativeZero
  | string (text : String) : Ordered (.string text)
  | array {items : List Json} (each : ∀ item ∈ items, Ordered item) : Ordered (.array items)
  | object {fields : List (String × Json)} (names : (fields.map Prod.fst).Pairwise (· < ·))
      (each : ∀ field ∈ fields, Ordered field.2) : Ordered (.object fields)

/-- `<=` of two keys is total and transitive. -/
instance : Std.Total NameOrder := ⟨fun left right => String.le_total left.1 right.1⟩

instance : IsTrans (String × Json) NameOrder := ⟨fun _ _ _ first second => String.le_trans first second⟩

theorem name_lt {left right : String} (before : left ≤ right) (other : left ≠ right) :
    left < right :=
  String.not_le.mp fun back => other (String.le_antisymm before back)

theorem perm_sortedFields (fields : List (String × Json)) :
    ((sortedFields fields).insertionSort NameOrder).Perm (sortedFields fields) :=
  perm_insertionSort _ _

theorem names_sortedFields (fields : List (String × Json)) :
    (sortedFields fields).map Prod.fst = fields.map Prod.fst := by
  rw [sortedFields_eq, map_map]
  rfl

variable {value : Json}

theorem Distinct.ordered (distinct : Distinct value) : Ordered value.sorted := by
  induction value with
  | null => exact .null
  | bool value => exact .bool value
  | int value => exact .int value
  | float value => exact .float value
  | negativeZero => exact .negativeZero
  | string text => exact .string text
  | array items hypothesis =>
    cases distinct with
    | array each =>
      refine .array fun item member => ?_
      rw [sortedItems_eq] at member
      obtain ⟨old, inside, rfl⟩ := mem_map.mp member
      exact hypothesis old inside (each old inside)
  | object fields hypothesis =>
    cases distinct with
    | object names each =>
      refine .object ?_ fun field member => ?_
      · have inOrder := pairwise_insertionSort NameOrder (sortedFields fields)
        have unique : (((sortedFields fields).insertionSort NameOrder).map Prod.fst).Nodup := by
          rw [((perm_sortedFields fields).map Prod.fst).nodup_iff, names_sortedFields]
          exact names
        rw [pairwise_map]
        rw [List.Nodup, pairwise_map] at unique
        exact (inOrder.and unique).imp fun both => name_lt both.1 both.2
      · rw [(perm_sortedFields fields).mem_iff, sortedFields_eq] at member
        obtain ⟨old, inside, rfl⟩ := mem_map.mp member
        exact hypothesis old inside (each old inside)

theorem Ordered.distinct (ordered : Ordered value) : Distinct value := by
  induction value with
  | null => exact .null
  | bool value => exact .bool value
  | int value => exact .int value
  | float value => exact .float value
  | negativeZero => exact .negativeZero
  | string text => exact .string text
  | array items hypothesis =>
    cases ordered with
    | array each =>
      exact .array fun item member => hypothesis item member (each item member)
  | object fields hypothesis =>
    cases ordered with
    | object names each =>
      exact .object (names.imp String.ne_of_lt) fun field member =>
        hypothesis field member (each field member)

theorem Ordered.sorted_eq (ordered : Ordered value) : value.sorted = value := by
  induction value with
  | null | bool | int | float | negativeZero | string => rfl
  | array items hypothesis =>
    cases ordered with
    | array each =>
      rw [sorted, sortedItems_eq]
      congr 1
      conv_rhs => rw [← map_id items]
      exact map_congr_left fun item member =>
        hypothesis item member (each item member)
  | object fields hypothesis =>
    cases ordered with
    | object names each =>
      have same : sortedFields fields = fields := by
        rw [sortedFields_eq]
        conv_rhs => rw [← map_id fields]
        refine map_congr_left fun field member => ?_
        rw [hypothesis field member (each field member)]
        rfl
      rw [sorted, same]
      congr 1
      refine List.Pairwise.insertionSort_eq ?_
      rw [pairwise_map] at names
      exact names.imp fun less => String.not_lt.mp (String.lt_asymm less)

/-! ### Reading a text -/

mutual

/-- The text of a value, with the entries of its objects as they stand. -/
def plain : Json → Text
  | .null => [.null]
  | .bool value => [.bool value]
  | .int value => [.int value]
  | .float value => [.float value]
  | .negativeZero => [.negativeZero]
  | .string text => [.string text]
  | .array items => .openArray :: separated (plainItems items) ++ [.closeArray]
  | .object fields => .openObject :: separated (plainFields fields) ++ [.closeObject]

def plainItems : List Json → List Text
  | [] => []
  | item :: rest => plain item :: plainItems rest

def plainFields : List (String × Json) → List Text
  | [] => []
  | (name, value) :: rest => (.string name :: .colon :: plain value) :: plainFields rest

end

theorem plainItems_eq (items : List Json) : plainItems items = items.map plain := by
  induction items with
  | nil => rfl
  | cons item rest hypothesis => rw [plainItems, hypothesis, map_cons]

theorem plainFields_eq (fields : List (String × Json)) :
    plainFields fields = fields.map fun field => .string field.1 :: .colon :: plain field.2 := by
  induction fields with
  | nil => rfl
  | cons field rest hypothesis => rw [plainFields, hypothesis, map_cons]

theorem encode_eq (value : Json) : value.encode = value.sorted.plain := by
  induction value with
  | null | bool | int | float | negativeZero | string => rfl
  | array items hypothesis =>
    rw [encode, sorted, plain, encodeItems_eq, sortedItems_eq, plainItems_eq, map_map]
    congr 3
    exact map_congr_left hypothesis
  | object fields hypothesis =>
    have members : encodeFields fields =
        (sortedFields fields).map fun field => (field.1, plain field.2) := by
      rw [encodeFields_eq, sortedFields_eq, map_map]
      refine map_congr_left fun field member => ?_
      rw [hypothesis field member]
      rfl
    have inOrder := map_insertionSort NameOrder (fun left right => left.1 ≤ right.1)
      (fun field : String × Json => (field.1, plain field.2)) (sortedFields fields)
      fun _ _ _ _ => Iff.rfl
    rw [encode, sorted, plain, plainFields_eq, members, ← inOrder, map_map]
    rfl

/-- A dictionary made of entries: a key that comes again takes the later value and keeps its
place. -/
def dictionary (fields : List (String × Json)) : List (String × Json) :=
  fields.foldl (fun entries field =>
    if entries.any fun entry => entry.1 = field.1 then
      entries.map fun entry => if entry.1 = field.1 then field else entry
    else entries ++ [field]) []

mutual

/-- Read a value off the front of a text. -/
def parseValue : ℕ → Text → Option (Json × Text)
  | 0, _ => none
  | _ + 1, [] => none
  | fuel + 1, lexeme :: rest =>
    match lexeme with
    | .null => some (.null, rest)
    | .bool value => some (.bool value, rest)
    | .int value => some (.int value, rest)
    | .float value => some (.float value, rest)
    | .negativeZero => some (.negativeZero, rest)
    | .string text => some (.string text, rest)
    | .openArray =>
      if rest.head? = some .closeArray then some (.array [], rest.tail)
      else (parseItems fuel rest).map fun found => (.array found.1, found.2)
    | .openObject =>
      if rest.head? = some .closeObject then some (.object [], rest.tail)
      else (parseFields fuel rest).map fun found => (.object (dictionary found.1), found.2)
    | _ => none

/-- Read the items of an array up to its closing bracket. -/
def parseItems : ℕ → Text → Option (List Json × Text)
  | 0, _ => none
  | fuel + 1, text =>
    match parseValue fuel text with
    | some (item, .comma :: rest) =>
      (parseItems fuel rest).map fun found => (item :: found.1, found.2)
    | some (item, .closeArray :: rest) => some ([item], rest)
    | _ => none

/-- Read the members of an object up to its closing brace. -/
def parseFields : ℕ → Text → Option (List (String × Json) × Text)
  | 0, _ => none
  | fuel + 1, .string name :: .colon :: text =>
    match parseValue fuel text with
    | some (value, .comma :: rest) =>
      (parseFields fuel rest).map fun found => ((name, value) :: found.1, found.2)
    | some (value, .closeObject :: rest) => some ([(name, value)], rest)
    | _ => none
  | _ + 1, _ => none

end

/-- `json.loads`. The calls that start at one lexeme are few, so the fuel does not run out. -/
def loads (text : Text) : Option Json :=
  match parseValue (2 * text.length) text with
  | some (value, []) => some value
  | _ => none

/-! ### Reading what was written -/

/-- A value that is read off the front of any text that starts with its own. -/
def Readable (value : Json) : Prop :=
  ∀ (fuel : ℕ) (rest : Text), 2 * value.plain.length ≤ fuel →
    parseValue fuel (value.plain ++ rest) = some (value, rest)

theorem plain_length_pos (value : Json) : 0 < value.plain.length := by
  cases value <;> simp [plain]

theorem head?_plain (value : Json) (rest : Text) :
    (value.plain ++ rest).head? ≠ some .closeArray := by
  cases value <;> simp [plain]

theorem separated_cons_cons (first second : Text) (rest : List Text) :
    separated (first :: second :: rest) = first ++ .comma :: separated (second :: rest) := rfl

theorem parseItems_separated (items : List Json) (each : ∀ item ∈ items, Readable item)
    (some_ : items ≠ []) (fuel : ℕ) (rest : Text)
    (enough : 2 * (separated (plainItems items)).length < fuel) :
    parseItems fuel (separated (plainItems items) ++ .closeArray :: rest) = some (items, rest) := by
  induction items generalizing fuel with
  | nil => exact absurd rfl some_
  | cons item others hypothesis =>
    obtain ⟨fuel, rfl⟩ := Nat.exists_eq_add_one_of_ne_zero (by omega : fuel ≠ 0)
    have here := each item mem_cons_self
    cases others with
    | nil =>
      simp only [plainItems, separated] at enough ⊢
      rw [parseItems, here fuel (.closeArray :: rest) (by omega)]
    | cons second others =>
      simp only [plainItems, separated_cons_cons, length_append, length_cons] at enough
      have later := hypothesis
        (fun item member => each item (mem_cons_of_mem _ member)) (cons_ne_nil _ _) fuel
        (by simp only [plainItems]; omega)
      simp only [plainItems] at later
      simp only [plainItems, separated_cons_cons, append_assoc, cons_append]
      rw [parseItems, here fuel _ (by omega)]
      simp only [later, Option.map_some]

theorem parseFields_separated (fields : List (String × Json))
    (each : ∀ field ∈ fields, Readable field.2) (some_ : fields ≠ []) (fuel : ℕ) (rest : Text)
    (enough : 2 * (separated (plainFields fields)).length < fuel) :
    parseFields fuel (separated (plainFields fields) ++ .closeObject :: rest) =
      some (fields, rest) := by
  induction fields generalizing fuel with
  | nil => exact absurd rfl some_
  | cons field others hypothesis =>
    obtain ⟨fuel, rfl⟩ := Nat.exists_eq_add_one_of_ne_zero (by omega : fuel ≠ 0)
    obtain ⟨name, value⟩ := field
    have here : Readable value := each (name, value) mem_cons_self
    cases others with
    | nil =>
      simp only [plainFields, separated, length_cons, cons_append] at enough ⊢
      rw [parseFields, here fuel (.closeObject :: rest) (by omega)]
    | cons second others =>
      obtain ⟨secondName, secondValue⟩ := second
      simp only [plainFields, separated_cons_cons, length_append, length_cons] at enough
      have later := hypothesis
        (fun field member => each field (mem_cons_of_mem _ member)) (cons_ne_nil _ _) fuel
        (by simp only [plainFields]; omega)
      simp only [plainFields] at later
      simp only [plainFields, separated_cons_cons, append_assoc, cons_append]
      rw [parseFields, here fuel _ (by omega)]
      simp only [later, Option.map_some]

theorem dictionary_eq {fields : List (String × Json)} (names : (fields.map Prod.fst).Nodup) :
    dictionary fields = fields := by
  induction fields using List.reverseRecOn with
  | nil => rfl
  | append_singleton fields field hypothesis =>
    rw [map_append, nodup_append] at names
    obtain ⟨unique, -, apart⟩ := names
    have absent : (fields.any fun entry => entry.1 = field.1) = false := by
      rw [any_eq_false]
      intro entry member same
      exact apart entry.1 (mem_map_of_mem member) field.1 mem_cons_self
        (of_decide_eq_true same)
    have earlier := hypothesis unique
    unfold dictionary at earlier ⊢
    rw [foldl_append, earlier, foldl_cons, foldl_nil, absent]
    rfl

theorem Distinct.readable (distinct : Distinct value) : Readable value := by
  induction value with
  | null | bool | int | float | negativeZero | string =>
    intro fuel rest enough
    obtain ⟨fuel, rfl⟩ := Nat.exists_eq_add_one_of_ne_zero (by simp [plain] at enough; omega : fuel ≠ 0)
    rfl
  | array items hypothesis =>
    cases distinct with
    | array each =>
      intro fuel rest enough
      simp only [plain, length_append, length_cons, length_nil] at enough
      obtain ⟨fuel, rfl⟩ := Nat.exists_eq_add_one_of_ne_zero (by omega : fuel ≠ 0)
      simp only [plain, cons_append, append_assoc, nil_append, parseValue]
      cases items with
      | nil => rfl
      | cons item others =>
        have found := parseItems_separated (item :: others)
          (fun item member => hypothesis item member (each item member))
          (cons_ne_nil _ _) fuel rest (by omega)
        have open_ : (separated (plainItems (item :: others)) ++ Lexeme.closeArray :: rest).head? ≠
            some .closeArray := by
          cases others with
          | nil => exact head?_plain item _
          | cons second others =>
            simp only [plainItems, separated_cons_cons, append_assoc]
            exact head?_plain item _
        rw [if_neg open_, found]
        rfl
  | object fields hypothesis =>
    cases distinct with
    | object names each =>
      intro fuel rest enough
      simp only [plain, length_append, length_cons, length_nil] at enough
      obtain ⟨fuel, rfl⟩ := Nat.exists_eq_add_one_of_ne_zero (by omega : fuel ≠ 0)
      simp only [plain, cons_append, append_assoc, nil_append, parseValue]
      cases fields with
      | nil => rfl
      | cons field others =>
        have found := parseFields_separated (field :: others)
          (fun field member => hypothesis field member (each field member))
          (cons_ne_nil _ _) fuel rest (by omega)
        have open_ : (separated (plainFields (field :: others)) ++
            Lexeme.closeObject :: rest).head? ≠ some .closeObject := by
          cases others <;> simp [plainFields, separated]
        rw [if_neg open_, found, Option.map_some, dictionary_eq names]

theorem loads_plain (distinct : Distinct value) : loads value.plain = some value := by
  have found := distinct.readable (2 * value.plain.length) [] le_rfl
  rw [append_nil] at found
  rw [loads, found]

/-- What `encode_json` writes is read back with the entries in the order of their keys. -/
theorem loads_encode (distinct : Distinct value) : loads value.encode = some value.sorted := by
  rw [encode_eq]
  exact loads_plain distinct.ordered.distinct

/-! ### Equality of dictionaries -/

mutual

/-- Equality of values whose objects are dictionaries. Values of different types are different, and
so are the two zeros. -/
def Same : Json → Json → Prop
  | .array items, .array others => SameItems items others
  | .object fields, .object others => fields.length = others.length ∧ SameFields fields others
  | .null, other => other = .null
  | .bool value, other => other = .bool value
  | .int value, other => other = .int value
  | .float value, other => other = .float value
  | .negativeZero, other => other = .negativeZero
  | .string text, other => other = .string text
  | .array _, _ => False
  | .object _, _ => False

def SameItems : List Json → List Json → Prop
  | [], others => others = []
  | item :: rest, other :: others => Same item other ∧ SameItems rest others
  | _ :: _, [] => False

def SameFields : List (String × Json) → List (String × Json) → Prop
  | [], _ => True
  | (name, value) :: rest, others =>
    (∃ other, get? others name = some other ∧ Same value other) ∧ SameFields rest others

end

theorem sameFields_iff (fields others : List (String × Json)) :
    SameFields fields others ↔
      ∀ field ∈ fields, ∃ other, get? others field.1 = some other ∧ Same field.2 other := by
  induction fields with
  | nil => simp [SameFields]
  | cons field rest hypothesis =>
    rw [SameFields, hypothesis, forall_mem_cons]

theorem get?_eq_some {fields : List (String × Json)} (names : (fields.map Prod.fst).Nodup)
    {name : String} (member : (name, value) ∈ fields) : get? fields name = some value := by
  induction fields with
  | nil => exact nomatch member
  | cons field rest hypothesis =>
    rw [map_cons, nodup_cons] at names
    rcases mem_cons.mp member with rfl | old
    · simp [get?]
    · have other : field.1 ≠ name := fun same =>
        names.1 (same ▸ mem_map_of_mem (f := Prod.fst) old)
      have later := hypothesis names.2 old
      rw [get?] at later ⊢
      rw [List.find?_cons_of_neg (by simpa using other)]
      exact later

theorem Distinct.same_sorted (distinct : Distinct value) : Same value value.sorted := by
  induction value with
  | null | bool | int | float | negativeZero | string => rfl
  | array items hypothesis =>
    cases distinct with
    | array each =>
      rw [sorted, Same]
      induction items with
      | nil => rfl
      | cons item rest restHypothesis =>
        rw [sortedItems, SameItems]
        exact ⟨hypothesis item mem_cons_self (each item mem_cons_self),
          restHypothesis (fun item member => hypothesis item (mem_cons_of_mem _ member))
            fun item member => each item (mem_cons_of_mem _ member)⟩
  | object fields hypothesis =>
    cases distinct with
    | object names each =>
      have lengths : ((sortedFields fields).insertionSort NameOrder).length = fields.length := by
        rw [(perm_sortedFields fields).length_eq, sortedFields_eq, length_map]
      rw [sorted, Same, sameFields_iff]
      refine ⟨lengths.symm, fun field member => ⟨field.2.sorted, ?_, ?_⟩⟩
      · refine get?_eq_some ?_ ?_
        · rw [((perm_sortedFields fields).map Prod.fst).nodup_iff, names_sortedFields]
          exact names
        · rw [(perm_sortedFields fields).mem_iff, sortedFields_eq]
          exact mem_map_of_mem (f := fun field => (field.1, sorted field.2)) member
      · exact hypothesis field member (each field member)

end Json

end DispatcherSdk.ExecutionKernel
