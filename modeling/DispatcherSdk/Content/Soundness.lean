/-
This file proves that the decoder of the content codec is right whatever is stored.

Nothing is assumed about the table of objects or about the digests: a text may be damaged, a
length may be wrong, and two objects may refer to each other. The decoder still ends,
because the chain of references that it follows and the levels that it descends are both
bounded.
-/

import DispatcherSdk.Content.RoundTrip

namespace DispatcherSdk

open List

/-! ### The depth of a value -/

namespace ExecutionKernel.Json

mutual

/-- How many levels lie below the level of a value. -/
def depth : Json → ℕ
  | array items => depthItems items
  | object fields => depthFields fields
  | null | bool _ | int _ | float _ | negativeZero | string _ => 0

def depthItems : List Json → ℕ
  | [] => 0
  | item :: rest => max (depth item + 1) (depthItems rest)

def depthFields : List (String × Json) → ℕ
  | [] => 0
  | (_, value) :: rest => max (depth value + 1) (depthFields rest)

end

theorem depthItems_le {items : List Json} {bound : ℕ} :
    depthItems items ≤ bound ↔ ∀ item ∈ items, depth item < bound := by
  induction items with
  | nil => simp [depthItems]
  | cons item rest hypothesis =>
    rw [depthItems, Nat.max_le, hypothesis, forall_mem_cons, Nat.succ_le_iff]

theorem depthFields_le {fields : List (String × Json)} {bound : ℕ} :
    depthFields fields ≤ bound ↔ ∀ field ∈ fields, depth field.2 < bound := by
  induction fields with
  | nil => simp [depthFields]
  | cons field rest hypothesis =>
    obtain ⟨name, value⟩ := field
    rw [depthFields, Nat.max_le, hypothesis, forall_mem_cons, Nat.succ_le_iff]

theorem depth_sorted (value : Json) : value.sorted.depth = value.depth := by
  induction value with
  | null | bool | int | float | negativeZero | string => rfl
  | array items hypothesis =>
    refine eq_of_forall_ge_iff fun bound => ?_
    rw [sorted, depth, depth, depthItems_le, depthItems_le, sortedItems_eq, forall_mem_map]
    exact forall₂_congr fun item member => by rw [hypothesis item member]
  | object fields hypothesis =>
    refine eq_of_forall_ge_iff fun bound => ?_
    rw [sorted, depth, depth, depthFields_le, depthFields_le]
    have entries : (∀ field ∈ (sortedFields fields).insertionSort NameOrder,
        depth field.2 < bound) ↔ ∀ field ∈ sortedFields fields, depth field.2 < bound :=
      forall_congr' fun field => by rw [(perm_sortedFields fields).mem_iff]
    rw [entries, sortedFields_eq, forall_mem_map]
    exact forall₂_congr fun field member => by rw [hypothesis field member]

end ExecutionKernel.Json

namespace Content

open Library Checked ExecutionKernel Orchestrator

namespace Codec

variable {codec : Codec} {limits : Limits}

/-! ### The size of a text -/

theorem size_append (first second : Json.Text) :
    codec.size (first ++ second) = codec.size first + codec.size second := by
  unfold size Json.textBytes
  rw [map_append, sum_append]

theorem size_cons (lexeme : Json.Lexeme) (rest : Json.Text) :
    codec.size (lexeme :: rest) = codec.size [lexeme] + codec.size rest :=
  size_append [lexeme] rest

/-- The size of texts that each follow a comma. -/
def joined (codec : Codec) (texts : List Json.Text) : ℕ :=
  (texts.map fun text => codec.size text + 1).sum

theorem joined_cons (first : Json.Text) (rest : List Json.Text) :
    codec.joined (first :: rest) = codec.size first + 1 + codec.joined rest := by
  unfold joined
  rw [map_cons, sum_cons]

theorem size_separated_cons (first : Json.Text) (rest : List Json.Text) :
    codec.size (Json.separated (first :: rest)) = codec.size first + codec.joined rest := by
  induction rest generalizing first with
  | nil => rfl
  | cons second rest hypothesis =>
    have comma : codec.size [Json.Lexeme.comma] = 1 := rfl
    rw [Json.separated_cons_cons, size_append, size_cons, hypothesis, joined_cons, comma]
    omega

/-! ### What the decoder measures -/

variable {comma total last : ℕ}

variable {measure : List Json → Except SdkError ℕ}

theorem measureItems_cons {item : Json} {rest : List Json} :
    measureItems limits measure comma total (item :: rest) = .ok last ↔
      ∃ child bytes, item = .array child ∧ measure child = .ok bytes ∧
        total + bytes + comma ≤ limits.maxLogicalBytes ∧
        measureItems limits measure 1 (total + bytes + comma) rest = .ok last := by
  cases item with
  | array child =>
    rw [measureItems, bind_eq_ok]
    constructor
    · rintro ⟨bytes, measured, later⟩
      obtain ⟨_, small, later⟩ := bind_eq_ok.mp later
      exact ⟨child, bytes, rfl, measured, check_eq_ok.mp small, later⟩
    · rintro ⟨_, bytes, ⟨⟩, measured, small, later⟩
      exact ⟨bytes, measured, bind_eq_ok.mpr ⟨(), check_eq_ok.mpr small, later⟩⟩
  | null | bool | int | float | negativeZero | string | object =>
    constructor
    · rintro ⟨⟩
    · rintro ⟨_, _, ⟨⟩, _⟩

theorem measureEntries_cons {previous : Option String} {entry : Json} {rest : List Json} :
    codec.measureEntries limits measure previous comma total (entry :: rest) = .ok last ↔
      ∃ name child bytes, entry = .array [.string name, .array child] ∧
        (∀ earlier ∈ previous, earlier < name) ∧ measure child = .ok bytes ∧
        total + (codec.size [.string name] + 1 + bytes) + comma ≤ limits.maxLogicalBytes ∧
        codec.measureEntries limits measure (some name) 1
          (total + (codec.size [.string name] + 1 + bytes) + comma) rest = .ok last := by
  refine ⟨fun measured => ?_, ?_⟩
  · unfold measureEntries at measured
    split at measured
    · rename_i nothing
      cases nothing
    · rename_i same
      cases same
      obtain ⟨_, above, later⟩ := bind_eq_ok.mp measured
      obtain ⟨bytes, inside, later⟩ := bind_eq_ok.mp later
      obtain ⟨_, small, later⟩ := bind_eq_ok.mp later
      exact ⟨_, _, bytes, rfl, check_eq_ok.mp above, inside, check_eq_ok.mp small, later⟩
    · cases measured
  · rintro ⟨name, child, bytes, rfl, above, inside, small, later⟩
    unfold measureEntries
    exact bind_eq_ok.mpr ⟨(), check_eq_ok.mpr above, bind_eq_ok.mpr ⟨bytes, inside,
      bind_eq_ok.mpr ⟨(), check_eq_ok.mpr small, later⟩⟩⟩

variable {node : List Json}

theorem measure_cases {levels bytes : ℕ}
    (measured : codec.measure limits (levels + 1) node = .ok bytes) :
    (∃ value, codec.leaf value = some (node, bytes)) ∨
      (∃ fields digest, node = .string "ref" :: fields ∧
        referenceFields node = .ok (digest, bytes)) ∨
      (∃ children, node = scalarNode "list" (.array children) ∧
        measureItems limits (codec.measure limits levels) 0 2 children = .ok bytes) ∨
      ∃ entries, node = scalarNode "dict" (.array entries) ∧
        codec.measureEntries limits (codec.measure limits levels) none 0 2 entries = .ok bytes := by
  unfold measure at measured
  split at measured
  · cases measured
    exact .inl ⟨.null, rfl⟩
  · cases measured
    exact .inl ⟨.bool _, rfl⟩
  · cases measured
    exact .inl ⟨.int _, rfl⟩
  · cases measured
    exact .inl ⟨.float _, rfl⟩
  · cases measured
    exact .inl ⟨.negativeZero, rfl⟩
  · cases measured
    exact .inl ⟨.string _, rfl⟩
  · obtain ⟨⟨digest, _⟩, fields, rfl⟩ := Checked.map_eq_ok.mp measured
    exact .inr (.inl ⟨_, digest, rfl, fields⟩)
  · exact .inr (.inr (.inl ⟨_, rfl, measured⟩))
  · exact .inr (.inr (.inr ⟨_, rfl, measured⟩))
  · cases measured
  · cases measured

variable {wider : List Json → Except SdkError ℕ}

section

variable (within : ∀ child bytes, measure child = .ok bytes → wider child = .ok bytes)

include within

theorem measureItems_mono {children : List Json}
    (measured : measureItems limits measure comma total children = .ok last) :
    measureItems limits wider comma total children = .ok last := by
  induction children generalizing comma total with
  | nil => exact measured
  | cons item rest hypothesis =>
    obtain ⟨child, bytes, shape, inside, small, later⟩ := measureItems_cons.mp measured
    exact measureItems_cons.mpr ⟨child, bytes, shape, within child bytes inside, small,
      hypothesis later⟩

theorem measureEntries_mono {previous : Option String} {entries : List Json}
    (measured : codec.measureEntries limits measure previous comma total entries = .ok last) :
    codec.measureEntries limits wider previous comma total entries = .ok last := by
  induction entries generalizing previous comma total with
  | nil => exact measured
  | cons entry rest hypothesis =>
    obtain ⟨name, child, bytes, shape, above, inside, small, later⟩ :=
      measureEntries_cons.mp measured
    exact measureEntries_cons.mpr ⟨name, child, bytes, shape, above, within child bytes inside,
      small, hypothesis later⟩

end

theorem measure_mono {levels more bytes : ℕ} (fewer : levels ≤ more)
    (measured : codec.measure limits levels node = .ok bytes) :
    codec.measure limits more node = .ok bytes := by
  induction levels generalizing more node bytes with
  | zero => cases measured
  | succ levels hypothesis =>
    obtain ⟨more, rfl⟩ := Nat.exists_eq_add_one_of_ne_zero (by omega : more ≠ 0)
    have within : ∀ child bytes, codec.measure limits levels child = .ok bytes →
        codec.measure limits more child = .ok bytes := fun child bytes inside =>
      hypothesis (by omega) inside
    obtain ⟨value, same⟩ | ⟨fields, digest, rfl, named⟩ | ⟨children, rfl, inside⟩ |
      ⟨entries, rfl, inside⟩ := measure_cases measured
    · exact leaf_measure same more
    · show (referenceFields (.string "ref" :: fields)).map Prod.snd = _
      rw [named]
      rfl
    · exact measureItems_mono within inside
    · exact measureEntries_mono within inside

theorem measure_unique {levels more bytes others : ℕ}
    (measured : codec.measure limits levels node = .ok bytes)
    (again : codec.measure limits more node = .ok others) : bytes = others := by
  have first := measure_mono (Nat.le_max_left levels more) measured
  have second := measure_mono (Nat.le_max_right levels more) again
  exact Except.ok.inj (first.symm.trans second)

/-! ### What a decoder may answer -/

mutual

/-- A node spells a value out. A reference stands for the value of a stored object that has its
digest and its declared length. -/
inductive Unfolds (codec : Codec) (table : ContentObjects) : List Json → Json → Prop where
  | leaf {value : Json} {node : List Json} {bytes : ℕ}
      (same : codec.leaf value = some (node, bytes)) : Unfolds codec table node value
  | reference {node inner : List Json} {value : Json} {row : ContentObject} (stored : row ∈ table)
      (names : referenceFields node = .ok (row.digest, row.logicalBytes))
      (digest : codec.objectDigest row.encoded = row.digest)
      (text : Json.loads row.encoded = some (.array inner))
      (inside : Unfolds codec table inner value)
      (length : codec.size value.encode = row.logicalBytes) : Unfolds codec table node value
  | list {children items : List Json} (inside : UnfoldsItems codec table children items) :
      Unfolds codec table (scalarNode "list" (.array children)) (.array items)
  | dict {entries : List Json} {fields : List (String × Json)}
      (inside : UnfoldsFields codec table entries fields) :
      Unfolds codec table (scalarNode "dict" (.array entries)) (.object fields)

inductive UnfoldsItems (codec : Codec) (table : ContentObjects) :
    List Json → List Json → Prop where
  | nil : UnfoldsItems codec table [] []
  | cons {child rest values : List Json} {value : Json} (head : Unfolds codec table child value)
      (tail : UnfoldsItems codec table rest values) :
      UnfoldsItems codec table (.array child :: rest) (value :: values)

inductive UnfoldsFields (codec : Codec) (table : ContentObjects) :
    List Json → List (String × Json) → Prop where
  | nil : UnfoldsFields codec table [] []
  | cons {name : String} {child rest : List Json} {value : Json} {fields : List (String × Json)}
      (head : Unfolds codec table child value) (tail : UnfoldsFields codec table rest fields) :
      UnfoldsFields codec table (.array [.string name, .array child] :: rest)
        ((name, value) :: fields)

end

/-- A decoder may answer a value for a node: it is spelled out by it, has the measured size, and
stays within the levels left. -/
structure Reads (codec : Codec) (table : ContentObjects) (limits : Limits) (levels : ℕ)
    (node : List Json) (value : Json) : Prop where
  spelled : Unfolds codec table node value
  measured : codec.measure limits levels node = .ok (codec.size value.plain)
  ordered : value.Ordered
  shallow : value.depth < levels

variable {table : ContentObjects}

theorem plain_array_size (items : List Json) : codec.size (Json.array items).plain =
    2 + codec.size (Json.separated (items.map Json.plain)) := by
  have first : codec.size [Json.Lexeme.openArray] = 1 := rfl
  have last : codec.size [Json.Lexeme.closeArray] = 1 := rfl
  rw [Json.plain, Json.plainItems_eq, cons_append, size_cons, size_append, first, last]
  omega

theorem plain_object_size (fields : List (String × Json)) :
    codec.size (Json.object fields).plain = 2 + codec.size (Json.separated (fields.map fun field =>
      .string field.1 :: .colon :: field.2.plain)) := by
  have first : codec.size [Json.Lexeme.openObject] = 1 := rfl
  have last : codec.size [Json.Lexeme.closeObject] = 1 := rfl
  rw [Json.plain, Json.plainFields_eq, cons_append, size_cons, size_append, first, last]
  omega

theorem size_entry (name : String) (value : Json) :
    codec.size (.string name :: .colon :: value.plain) =
      codec.size [.string name] + 1 + codec.size value.plain := by
  have colon : codec.size [Json.Lexeme.colon] = 1 := rfl
  rw [size_cons, size_cons .colon, colon]
  omega

/-- What is answered for the children of a list. -/
inductive ReadsItems (codec : Codec) (table : ContentObjects) (limits : Limits) (levels : ℕ) :
    List Json → List Json → Prop where
  | nil : ReadsItems codec table limits levels [] []
  | cons {child rest values : List Json} {value : Json}
      (head : Reads codec table limits levels child value)
      (tail : ReadsItems codec table limits levels rest values) :
      ReadsItems codec table limits levels (.array child :: rest) (value :: values)

/-- What is answered for the entries of a dictionary. -/
inductive ReadsFields (codec : Codec) (table : ContentObjects) (limits : Limits) (levels : ℕ) :
    List Json → List (String × Json) → Prop where
  | nil : ReadsFields codec table limits levels [] []
  | cons {name : String} {child rest : List Json} {value : Json} {fields : List (String × Json)}
      (head : Reads codec table limits levels child value)
      (tail : ReadsFields codec table limits levels rest fields) :
      ReadsFields codec table limits levels (.array [.string name, .array child] :: rest)
        ((name, value) :: fields)

variable {children values : List Json}

section

variable {levels : ℕ} (reads : ReadsItems codec table limits levels children values)

include reads

theorem ReadsItems.spelled : UnfoldsItems codec table children values := by
  induction reads with
  | nil => exact .nil
  | cons head _ hypothesis => exact .cons head.spelled hypothesis

theorem ReadsItems.each : ∀ value ∈ values, value.Ordered ∧ value.depth < levels := by
  induction reads with
  | nil => exact fun _ nothing => absurd nothing not_mem_nil
  | cons head _ hypothesis =>
    exact forall_mem_cons.mpr ⟨⟨head.ordered, head.shallow⟩, hypothesis⟩

theorem ReadsItems.later
    (measured : measureItems limits (codec.measure limits levels) 1 total children = .ok last) :
    last = total + codec.joined (values.map Json.plain) := by
  induction reads generalizing total with
  | nil => exact (Except.ok.inj measured).symm
  | cons head _ hypothesis =>
    obtain ⟨_, bytes, ⟨⟩, inside, _, later⟩ := measureItems_cons.mp measured
    obtain rfl := measure_unique inside head.measured
    rw [hypothesis later, map_cons, joined_cons]
    omega

end

variable {bytes : ℕ}

theorem ReadsItems.size {levels : ℕ} (reads : ReadsItems codec table limits levels children values)
    (measured : measureItems limits (codec.measure limits levels) 0 2 children = .ok bytes) :
    bytes = codec.size (Json.array values).plain := by
  rw [plain_array_size]
  cases reads with
  | nil => exact (Except.ok.inj measured).symm
  | cons head tail =>
    obtain ⟨_, first, ⟨⟩, inside, _, later⟩ := measureItems_cons.mp measured
    obtain rfl := measure_unique inside head.measured
    rw [tail.later later, map_cons, size_separated_cons]
    omega

variable {entries : List Json} {fields : List (String × Json)}

section

variable {levels : ℕ} (reads : ReadsFields codec table limits levels entries fields)

include reads

theorem ReadsFields.spelled : UnfoldsFields codec table entries fields := by
  induction reads with
  | nil => exact .nil
  | cons head _ hypothesis => exact .cons head.spelled hypothesis

theorem ReadsFields.each : ∀ field ∈ fields, field.2.Ordered ∧ field.2.depth < levels := by
  induction reads with
  | nil => exact fun _ nothing => absurd nothing not_mem_nil
  | cons head _ hypothesis =>
    exact forall_mem_cons.mpr ⟨⟨head.ordered, head.shallow⟩, hypothesis⟩

end

variable {levels : ℕ} {previous : Option String}

theorem ReadsFields.names (reads : ReadsFields codec table limits levels entries fields)
    (measured : codec.measureEntries limits (codec.measure limits levels) previous comma total
      entries = .ok last) :
    (fields.map Prod.fst).Pairwise (· < ·) ∧
      ∀ earlier ∈ previous, ∀ name ∈ fields.map Prod.fst, earlier < name := by
  induction reads generalizing previous comma total with
  | nil => exact ⟨.nil, fun _ _ _ nothing => absurd nothing not_mem_nil⟩
  | @cons name _ _ _ _ head _ hypothesis =>
    obtain ⟨_, _, _, ⟨⟩, above, _, _, later⟩ := measureEntries_cons.mp measured
    obtain ⟨ascending, after⟩ := hypothesis later
    refine ⟨pairwise_cons.mpr ⟨after name rfl, ascending⟩, fun earlier before => ?_⟩
    refine forall_mem_cons.mpr ⟨above earlier before, fun other member => ?_⟩
    exact String.lt_trans (above earlier before) (after name rfl other member)

theorem ReadsFields.later (reads : ReadsFields codec table limits levels entries fields)
    (measured : codec.measureEntries limits (codec.measure limits levels) previous 1 total
      entries = .ok last) :
    last = total + codec.joined (fields.map fun field =>
      .string field.1 :: .colon :: field.2.plain) := by
  induction reads generalizing previous total with
  | nil => exact (Except.ok.inj measured).symm
  | cons head _ hypothesis =>
    obtain ⟨_, _, bytes, ⟨⟩, _, inside, _, later⟩ := measureEntries_cons.mp measured
    obtain rfl := measure_unique inside head.measured
    rw [hypothesis later]
    simp only [map_cons, joined_cons, size_entry]
    omega

theorem ReadsFields.size (reads : ReadsFields codec table limits levels entries fields)
    (measured : codec.measureEntries limits (codec.measure limits levels) none 0 2 entries =
      .ok bytes) :
    bytes = codec.size (Json.object fields).plain := by
  rw [plain_object_size]
  cases reads with
  | nil => exact (Except.ok.inj measured).symm
  | cons head tail =>
    obtain ⟨_, _, first, ⟨⟩, _, inside, _, later⟩ := measureEntries_cons.mp measured
    obtain rfl := measure_unique inside head.measured
    rw [tail.later later]
    simp only [map_cons, size_separated_cons, size_entry]
    omega

theorem leaf_reads {value : Json} (same : codec.leaf value = some (node, bytes)) (levels : ℕ) :
    Reads codec table limits (levels + 1) node value ∧ bytes = codec.size value.plain := by
  have size : bytes = codec.size value.plain := by
    cases value with
    | bool value => cases value <;> cases same <;> rfl
    | _ => cases same <;> rfl
  refine ⟨⟨.leaf same, ?_, ?_, ?_⟩, size⟩
  · rw [leaf_measure same, size]
  · cases value <;> cases same <;> constructor
  · cases value <;> cases same <;> exact Nat.succ_pos levels

/-! ### What a decoder has read -/

/-- The text of a row has the digest of the row, and the node in it was measured to have the
declared length. -/
structure Verified (codec : Codec) (table : ContentObjects) (limits : Limits) (row : ContentObject)
    (node : List Json) : Prop where
  stored : row ∈ table
  digest : codec.objectDigest row.encoded = row.digest
  text : Json.loads row.encoded = some (.array node)
  measured : ∃ levels, codec.measure limits levels node = .ok row.logicalBytes

/-- The rows that a decoder has read: they are the ones it remembers, none of them was read
twice, and each of them was paid for. -/
structure Accounts (codec : Codec) (table : ContentObjects) (limits : Limits) (start : Option ℕ)
    (progress : Progress) (loaded : List ContentObject) : Prop where
  names : loaded.map ContentObject.digest = progress.verified.map Prod.fst
  once : (loaded.map ContentObject.digest).Nodup
  remembered : ∀ known ∈ progress.verified, ∃ row, row.digest = known.1 ∧
    row.logicalBytes = known.2.2 ∧ Verified codec table limits row known.2.1
  verified : ∀ row ∈ loaded, ∃ node, Verified codec table limits row node
  paid : progress.budget.map (· + (loaded.map fun row => codec.size row.encoded).sum) = start

theorem Progress.consume_budget {progress next : Progress}
    (consumed : progress.consume bytes = .ok next) :
    next.budget.map (· + bytes) = progress.budget := by
  unfold Progress.consume at consumed
  cases limit : progress.budget with
  | none =>
    rw [limit] at consumed
    cases consumed
    rw [limit]
    rfl
  | some remaining =>
    rw [limit] at consumed
    obtain ⟨_, enough, same⟩ := bind_eq_ok.mp consumed
    cases same
    exact congrArg some (Nat.sub_add_cancel (check_eq_ok.mp enough))

theorem parse_loads {text : Json.Text} {label : String}
    (parsed : codec.parse limits text label = .ok node) : Json.loads text = some (.array node) := by
  unfold parse at parsed
  obtain ⟨_, _, parsed⟩ := bind_eq_ok.mp parsed
  obtain ⟨read, found, parsed⟩ := bind_eq_ok.mp parsed
  obtain ⟨_, _, parsed⟩ := bind_eq_ok.mp parsed
  rw [present_eq_ok.mp found]
  split at parsed
  · cases parsed
    rfl
  · cases parsed

variable {start : Option ℕ} {progress next : Progress} {loaded : List ContentObject}

theorem verify_accounts {digest : String} {expected : ℕ}
    (accounts : Accounts codec table limits start progress loaded)
    (found : codec.verify table limits digest expected levels progress = .ok (node, next)) :
    (∃ loaded, Accounts codec table limits start next loaded) ∧
      ∃ row, row.digest = digest ∧ row.logicalBytes = expected ∧
        Verified codec table limits row node := by
  unfold verify at found
  split at found
  · rename_i name known bytes seen
    obtain ⟨_, same, answered⟩ := bind_eq_ok.mp found
    cases answered
    obtain ⟨row, named, length, verified⟩ := accounts.remembered _ (mem_of_find?_eq_some seen)
    have asked : name = digest := by simpa using List.find?_some seen
    exact ⟨⟨loaded, accounts⟩, row, named.trans asked, length.trans (check_eq_ok.mp same),
      verified⟩
  · rename_i unseen
    simp only [passes_iff] at found
    obtain ⟨row, stored, declared, _, paid, consumed, read, parsed, genuine, measured, inside,
      rfl, answered⟩ := found
    cases answered
    have member := Table.mem_of_find? stored
    have named : row.digest = digest := Table.key_of_find? stored
    have verified : Verified codec table limits row node :=
      ⟨member, genuine.trans named.symm, parse_loads parsed, levels, inside⟩
    refine ⟨⟨row :: loaded, ?_, ?_, ?_, ?_, ?_⟩, row, named, declared, verified⟩
    · rw [map_cons, map_cons, Progress.consume_verified consumed, accounts.names, named]
    · rw [map_cons, accounts.names, nodup_cons, ← accounts.names]
      refine ⟨fun again => ?_, accounts.once⟩
      rw [accounts.names, named] at again
      obtain ⟨known, seen, same⟩ := mem_map.mp again
      have other := List.find?_eq_none.mp unseen known seen
      exact other (decide_eq_true same)
    · rw [Progress.consume_verified consumed]
      exact forall_mem_cons.mpr ⟨⟨row, named, rfl, verified⟩, accounts.remembered⟩
    · exact forall_mem_cons.mpr ⟨⟨node, verified⟩, accounts.verified⟩
    · rw [← accounts.paid, ← Progress.consume_budget consumed, Option.map_map]
      refine Option.map_congr fun left _ => ?_
      rw [map_cons, sum_cons]
      exact (Nat.add_assoc left _ _).symm

/-- A function that follows references answers the values of verified objects. -/
def Follows (codec : Codec) (table : ContentObjects) (limits : Limits) (start : Option ℕ)
    (load : String → ℕ → ℕ → Progress → Except SdkError (Json × Progress)) : Prop :=
  ∀ {digest : String} {expected levels : ℕ} {progress next : Progress} {value : Json}
    {loaded : List ContentObject}, Accounts codec table limits start progress loaded →
    load digest expected levels progress = .ok (value, next) →
      (∃ loaded, Accounts codec table limits start next loaded) ∧
        ∃ row inner, row.digest = digest ∧ row.logicalBytes = expected ∧
          Verified codec table limits row inner ∧ Reads codec table limits levels inner value

/-- A function that decodes nodes answers what it may. -/
def Sound (codec : Codec) (table : ContentObjects) (limits : Limits) (start : Option ℕ)
    (levels : ℕ) (decode : List Json → Progress → Except SdkError (Json × Progress)) : Prop :=
  ∀ {node : List Json} {progress next : Progress} {value : Json} {loaded : List ContentObject},
    Accounts codec table limits start progress loaded →
    decode node progress = .ok (value, next) →
      (∃ loaded, Accounts codec table limits start next loaded) ∧
        Reads codec table limits levels node value

variable {decode : List Json → Progress → Except SdkError (Json × Progress)}

theorem decodeItems_reads (sound : Sound codec table limits start levels decode)
    (measured : measureItems limits (codec.measure limits levels) comma total children = .ok last)
    (accounts : Accounts codec table limits start progress loaded)
    (decoded : decodeItems decode children progress = .ok (values, next)) :
    (∃ loaded, Accounts codec table limits start next loaded) ∧
      ReadsItems codec table limits levels children values := by
  induction children generalizing comma total progress values loaded with
  | nil =>
    cases decoded
    exact ⟨⟨loaded, accounts⟩, .nil⟩
  | cons item rest hypothesis =>
    obtain ⟨child, _, rfl, _, _, later⟩ := measureItems_cons.mp measured
    unfold decodeItems at decoded
    obtain ⟨⟨value, between⟩, first, decoded⟩ := bind_eq_ok.mp decoded
    obtain ⟨⟨others, last⟩, second, answered⟩ := bind_eq_ok.mp decoded
    cases answered
    obtain ⟨⟨_, accounts⟩, head⟩ := sound accounts first
    obtain ⟨kept, tail⟩ := hypothesis later accounts second
    exact ⟨kept, .cons head tail⟩

theorem decodeEntries_reads (sound : Sound codec table limits start levels decode)
    (measured : codec.measureEntries limits (codec.measure limits levels) previous comma total
      entries = .ok last)
    (accounts : Accounts codec table limits start progress loaded)
    (decoded : decodeEntries decode entries progress = .ok (fields, next)) :
    (∃ loaded, Accounts codec table limits start next loaded) ∧
      ReadsFields codec table limits levels entries fields := by
  induction entries generalizing previous comma total progress fields loaded with
  | nil =>
    cases decoded
    exact ⟨⟨loaded, accounts⟩, .nil⟩
  | cons entry rest hypothesis =>
    obtain ⟨name, child, _, rfl, _, _, _, later⟩ := measureEntries_cons.mp measured
    unfold decodeEntries at decoded
    obtain ⟨⟨value, between⟩, first, decoded⟩ := bind_eq_ok.mp decoded
    obtain ⟨⟨others, last⟩, second, answered⟩ := bind_eq_ok.mp decoded
    cases answered
    obtain ⟨⟨_, accounts⟩, head⟩ := sound accounts first
    obtain ⟨kept, tail⟩ := hypothesis later accounts second
    exact ⟨kept, .cons head tail⟩

/-- The decoder is sound if what follows its references is. The induction is on the levels that
are left. -/
theorem decodeNode_sound {load : String → ℕ → ℕ → Progress → Except SdkError (Json × Progress)}
    (follows : Follows codec table limits start load) (levels : ℕ) :
    Sound codec table limits start levels (codec.decodeNode limits load levels) := by
  induction levels with
  | zero =>
    intro node progress next value loaded accounts decoded
    cases decoded
  | succ levels hypothesis =>
    intro node progress next value loaded accounts decoded
    have whole := decoded
    unfold decodeNode at whole
    obtain ⟨bytes, measured, whole⟩ := bind_eq_ok.mp whole
    obtain ⟨_, small, whole⟩ := bind_eq_ok.mp whole
    obtain ⟨shown, same⟩ | ⟨fields, digest, rfl, named⟩ | ⟨children, rfl, inside⟩ |
      ⟨entries, rfl, inside⟩ := measure_cases measured
    · rw [decodeNode_leaf same, small] at decoded
      cases decoded
      exact ⟨⟨loaded, accounts⟩, (leaf_reads same levels).1⟩
    · change (referenceFields (.string "ref" :: fields) >>= fun fields =>
        load fields.1 fields.2 (levels + 1) progress) = _ at whole
      rw [named] at whole
      obtain ⟨kept, row, inner, rfl, rfl, verified, reads⟩ := follows accounts whole
      obtain ⟨_, length⟩ := verified.measured
      have size := measure_unique length reads.measured
      refine ⟨kept, .reference verified.stored named verified.digest verified.text reads.spelled ?_,
        ?_, reads.ordered, reads.shallow⟩
      · rw [Json.encode_eq, reads.ordered.sorted_eq, size]
      · rw [measured, size]
    · rw [decodeNode_list, measured] at decoded
      obtain ⟨_, _, decoded⟩ := bind_eq_ok.mp (show (checkBound limits bytes >>= fun _ =>
        decodeItems (codec.decodeNode limits load levels) children progress >>= fun answer =>
          pure (Json.array answer.1, answer.2)) = _ from decoded)
      obtain ⟨⟨items, last⟩, read, answered⟩ := bind_eq_ok.mp decoded
      cases answered
      obtain ⟨kept, reads⟩ := decodeItems_reads hypothesis inside accounts read
      refine ⟨kept, .list reads.spelled, ?_, .array fun item member => (reads.each item member).1,
        ?_⟩
      · rw [measured, reads.size inside]
      · exact Nat.lt_succ_of_le (Json.depthItems_le.mpr fun item member =>
          (reads.each item member).2)
    · rw [decodeNode_dict, measured] at decoded
      obtain ⟨_, _, decoded⟩ := bind_eq_ok.mp (show (checkBound limits bytes >>= fun _ =>
        decodeEntries (codec.decodeNode limits load levels) entries progress >>= fun answer =>
          pure (Json.object (Json.dictionary answer.1), answer.2)) = _ from decoded)
      obtain ⟨⟨fields, last⟩, read, answered⟩ := bind_eq_ok.mp decoded
      cases answered
      obtain ⟨kept, reads⟩ := decodeEntries_reads hypothesis inside accounts read
      have names := (reads.names inside).1
      rw [Json.dictionary_eq (names.imp String.ne_of_lt)]
      refine ⟨kept, .dict reads.spelled, ?_, .object names fun field member =>
        (reads.each field member).1, ?_⟩
      · rw [measured, reads.size inside]
      · exact Nat.lt_succ_of_le (Json.depthFields_le.mpr fun field member =>
          (reads.each field member).2)

/-- References are followed soundly. The induction is on the number of references that may still
be followed. -/
theorem load_follows (chain : ℕ) (active : List String) :
    Follows codec table limits start (codec.load table limits chain active) := by
  induction chain generalizing active with
  | zero =>
    intro digest expected levels progress next value loaded accounts followed
    unfold load at followed
    obtain ⟨_, _, followed⟩ := bind_eq_ok.mp followed
    obtain ⟨_, _, followed⟩ := bind_eq_ok.mp followed
    cases followed
  | succ chain hypothesis =>
    intro digest expected levels progress next value loaded accounts followed
    unfold load at followed
    obtain ⟨_, _, followed⟩ := bind_eq_ok.mp followed
    obtain ⟨_, _, followed⟩ := bind_eq_ok.mp followed
    obtain ⟨⟨inner, between⟩, found, decoded⟩ := bind_eq_ok.mp followed
    obtain ⟨⟨_, accounts⟩, row, named, length, verified⟩ := verify_accounts accounts found
    obtain ⟨kept, reads⟩ :=
      decodeNode_sound (hypothesis (digest :: active)) levels accounts decoded
    exact ⟨kept, row, inner, named, length, verified, reads⟩

/-! ### Texts that the codec did not write -/

/-- A value that is measured fits the limits, and its size is the one that is measured. -/
def Fits (codec : Codec) (limits : Limits) (value : Json) : Prop :=
  ∀ {depth bytes : ℕ}, codec.legacyMeasure limits value depth = .ok bytes →
    bytes = codec.size value.plain ∧ bytes ≤ limits.maxLogicalBytes ∧
      depth + value.depth ≤ limits.maxDepth

theorem legacyItems_fits {items : List Json} (each : ∀ item ∈ items, Fits codec limits item)
    {depth : ℕ} (measured : codec.legacyItems limits items depth 1 total = .ok last)
    (small : last ≤ limits.maxLogicalBytes) :
    last = total + codec.joined (items.map Json.plain) ∧
      ∀ item ∈ items, depth + item.depth ≤ limits.maxDepth := by
  induction items generalizing total with
  | nil => exact ⟨(Except.ok.inj measured).symm, fun _ nothing => absurd nothing not_mem_nil⟩
  | cons item rest hypothesis =>
    rw [forall_mem_cons] at each
    unfold legacyItems at measured
    obtain ⟨bytes, inside, later⟩ := bind_eq_ok.mp measured
    obtain ⟨rfl, _, deep⟩ := each.1 inside
    dsimp only at later
    split at later
    · rename_i large
      cases later
      exact absurd small (Nat.not_le.mpr large)
    · obtain ⟨rfl, others⟩ := hypothesis each.2 later
      refine ⟨?_, forall_mem_cons.mpr ⟨deep, others⟩⟩
      rw [map_cons, joined_cons]
      omega

theorem legacyFields_fits (each : ∀ field ∈ fields, Fits codec limits field.2) {depth : ℕ}
    (measured : codec.legacyFields limits fields depth 1 total = .ok last)
    (small : last ≤ limits.maxLogicalBytes) :
    last = total + codec.joined (fields.map fun field =>
        .string field.1 :: .colon :: field.2.plain) ∧
      ∀ field ∈ fields, depth + field.2.depth ≤ limits.maxDepth := by
  induction fields generalizing total with
  | nil => exact ⟨(Except.ok.inj measured).symm, fun _ nothing => absurd nothing not_mem_nil⟩
  | cons field rest hypothesis =>
    rw [forall_mem_cons] at each
    unfold legacyFields at measured
    obtain ⟨bytes, inside, later⟩ := bind_eq_ok.mp measured
    obtain ⟨rfl, _, deep⟩ := each.1 inside
    dsimp only at later
    split at later
    · rename_i large
      cases later
      exact absurd small (Nat.not_le.mpr large)
    · obtain ⟨rfl, others⟩ := hypothesis each.2 later
      refine ⟨?_, forall_mem_cons.mpr ⟨deep, others⟩⟩
      rw [map_cons, joined_cons, size_entry]
      omega

theorem legacy_fits (value : Json) : Fits codec limits value := by
  induction value with
  | null | bool | int | float | negativeZero | string =>
    intro depth bytes measured
    unfold legacyMeasure at measured
    obtain ⟨_, here, measured⟩ := bind_eq_ok.mp measured
    obtain ⟨size, same, measured⟩ := bind_eq_ok.mp measured
    obtain ⟨_, small, answered⟩ := bind_eq_ok.mp measured
    cases answered
    have own := Except.ok.inj same
    refine ⟨?_, check_eq_ok.mp small, check_eq_ok.mp here⟩
    rw [← own]
    rfl
  | array items hypothesis =>
    intro depth bytes measured
    unfold legacyMeasure at measured
    obtain ⟨_, here, measured⟩ := bind_eq_ok.mp measured
    obtain ⟨size, inside, measured⟩ := bind_eq_ok.mp measured
    obtain ⟨_, small, answered⟩ := bind_eq_ok.mp measured
    cases answered
    have small := check_eq_ok.mp small
    have here := check_eq_ok.mp here
    cases items with
    | nil =>
      cases inside
      exact ⟨rfl, small, here⟩
    | cons item rest =>
      rw [forall_mem_cons] at hypothesis
      unfold legacyItems at inside
      obtain ⟨first, own, later⟩ := bind_eq_ok.mp inside
      obtain ⟨rfl, _, deep⟩ := hypothesis.1 own
      dsimp only at later
      split at later
      · rename_i large
        cases later
        exact absurd small (Nat.not_le.mpr large)
      · obtain ⟨rfl, others⟩ := legacyItems_fits hypothesis.2 later small
        have each : ∀ other ∈ item :: rest, depth + 1 + other.depth ≤ limits.maxDepth :=
          forall_mem_cons.mpr ⟨deep, others⟩
        have below : Json.depthItems (item :: rest) ≤ limits.maxDepth - depth :=
          Json.depthItems_le.mpr fun other member => by
            have := each other member
            omega
        refine ⟨?_, small, ?_⟩
        · rw [plain_array_size, map_cons, size_separated_cons]
          omega
        · rw [Json.depth]
          omega
  | object fields hypothesis =>
    intro depth bytes measured
    unfold legacyMeasure at measured
    obtain ⟨_, here, measured⟩ := bind_eq_ok.mp measured
    obtain ⟨size, inside, measured⟩ := bind_eq_ok.mp measured
    obtain ⟨_, small, answered⟩ := bind_eq_ok.mp measured
    cases answered
    have small := check_eq_ok.mp small
    have here := check_eq_ok.mp here
    cases fields with
    | nil =>
      cases inside
      exact ⟨rfl, small, here⟩
    | cons field rest =>
      rw [forall_mem_cons] at hypothesis
      unfold legacyFields at inside
      obtain ⟨first, own, later⟩ := bind_eq_ok.mp inside
      obtain ⟨rfl, _, deep⟩ := hypothesis.1 own
      dsimp only at later
      split at later
      · rename_i large
        cases later
        exact absurd small (Nat.not_le.mpr large)
      · obtain ⟨rfl, others⟩ := legacyFields_fits hypothesis.2 later small
        have each : ∀ other ∈ field :: rest, depth + 1 + other.2.depth ≤ limits.maxDepth :=
          forall_mem_cons.mpr ⟨deep, others⟩
        have below : Json.depthFields (field :: rest) ≤ limits.maxDepth - depth :=
          Json.depthFields_le.mpr fun other member => by
            have := each other member
            omega
        refine ⟨?_, small, ?_⟩
        · rw [plain_object_size, map_cons, size_separated_cons, size_entry]
          omega
        · rw [Json.depth]
          omega

/-! ### Any text against any table -/

/-- The logical length that is measured at the root. -/
def rootBytes (codec : Codec) (limits : Limits) : Stored → Except SdkError ℕ
  | .content rootEncoded => do
    let root ← codec.parse limits rootEncoded "encoded root"
    codec.measure limits (limits.maxDepth + 1) root
  | .legacy text => do
    let value ← present (Json.loads text) (.contentIntegrity "legacy value is not valid JSON")
    codec.legacyMeasure limits value.sorted 0

/-- Where a value came from: its own text, or a root whose references were followed. -/
def Source (codec : Codec) (table : ContentObjects) (stored : Stored) (value : Json) : Prop :=
  match stored with
  | .legacy text => Json.loads text = some value
  | .content rootEncoded =>
    ∃ root, Json.loads rootEncoded = some (.array root) ∧ Unfolds codec table root value

/-- What holds of a value that the decoder answers. -/
structure Answered (codec : Codec) (table : ContentObjects) (limits : Limits) (stored : Stored)
    (budget : Option ℕ) (value : Json) (left : Option ℕ) : Prop where
  source : codec.Source table stored value
  measured : codec.rootBytes limits stored = .ok (codec.size value.encode)
  small : codec.size value.encode ≤ limits.maxLogicalBytes
  shallow : value.depth ≤ limits.maxDepth
  /-- Every object that was read has its digest and its length, was read once and was paid for. -/
  paid : ∃ loaded : List ContentObject, (loaded.map ContentObject.digest).Nodup ∧
    (∀ row ∈ loaded, ∃ node, Verified codec table limits row node) ∧
    left.map (· + ((loaded.map fun row => codec.size row.encoded).sum + codec.storedSize stored)) =
      budget

theorem accounts_nothing (start : Option ℕ) : Accounts codec table limits start ⟨[], start⟩ [] where
  names := rfl
  once := .nil
  remembered _ nothing := absurd nothing not_mem_nil
  verified _ nothing := absurd nothing not_mem_nil
  paid := by cases start <;> rfl

theorem decodeValue_answered {stored : Stored} {budget left : Option ℕ} {value : Json}
    (decoded : codec.decodeValue table stored limits budget = .ok (value, left)) :
    Answered codec table limits stored budget value left := by
  unfold decodeValue at decoded
  obtain ⟨_, _, decoded⟩ := bind_eq_ok.mp decoded
  obtain ⟨⟨known, start⟩, consumed, decoded⟩ := bind_eq_ok.mp decoded
  have root : start.map (· + codec.storedSize stored) = budget := Progress.consume_budget consumed
  cases stored with
  | legacy text =>
    obtain ⟨_, _, decoded⟩ := bind_eq_ok.mp decoded
    obtain ⟨found, read, decoded⟩ := bind_eq_ok.mp decoded
    obtain ⟨bytes, measured, answered⟩ := bind_eq_ok.mp decoded
    cases answered
    obtain ⟨rfl, small, deep⟩ := legacy_fits value.sorted measured
    rw [Json.depth_sorted, Nat.zero_add] at deep
    rw [← Json.encode_eq] at measured small
    refine ⟨present_eq_ok.mp read, ?_, small, deep, [], .nil,
      fun _ nothing => absurd nothing not_mem_nil, ?_⟩
    · exact bind_eq_ok.mpr ⟨value, read, measured⟩
    · rw [← root, map_nil, sum_nil, Nat.zero_add]
  | content rootEncoded =>
    obtain ⟨_, _, decoded⟩ := bind_eq_ok.mp decoded
    obtain ⟨node, parsed, decoded⟩ := bind_eq_ok.mp decoded
    obtain ⟨bytes, measured, decoded⟩ := bind_eq_ok.mp decoded
    obtain ⟨_, small, decoded⟩ := bind_eq_ok.mp decoded
    obtain ⟨⟨found, progress⟩, read, answered⟩ := bind_eq_ok.mp decoded
    cases answered
    have fresh : known = [] := Progress.consume_verified consumed
    rw [fresh] at read
    obtain ⟨⟨loaded, accounts⟩, reads⟩ := decodeNode_sound
      (load_follows limits.maxDepth []) (limits.maxDepth + 1) (accounts_nothing start) read
    have plain : value.encode = value.plain := by
      rw [Json.encode_eq, reads.ordered.sorted_eq]
    obtain rfl := measure_unique measured reads.measured
    rw [← plain] at small measured
    refine ⟨⟨node, parse_loads parsed, reads.spelled⟩, ?_, check_eq_ok.mp small,
      Nat.le_of_lt_succ reads.shallow, loaded, accounts.once, accounts.verified, ?_⟩
    · exact bind_eq_ok.mpr ⟨node, parsed, measured⟩
    · rw [← root, ← accounts.paid, Option.map_map]
      refine Option.map_congr fun left _ => ?_
      exact (Nat.add_assoc left _ _).symm

/-- Against any table and for any digests, the decoder fails or answers a value of the measured
length, read only from objects with the digests and lengths they are referred to by. -/
theorem decodeValue_sound (codec : Codec) (table : ContentObjects) (limits : Limits)
    (stored : Stored) (budget : Option ℕ) :
    ((∃ failure, codec.decodeValue table stored limits budget = .error failure) ∨
      ∃ value left, codec.decodeValue table stored limits budget = .ok (value, left) ∧
        Answered codec table limits stored budget value left) ∧
      ∀ (progress next : Progress) (bytes : ℕ), progress.consume bytes = .ok next →
        next.budget.map (· + bytes) = progress.budget := by
  refine ⟨?_, fun progress next bytes => Progress.consume_budget⟩
  cases decoded : codec.decodeValue table stored limits budget with
  | error failure => exact .inl ⟨failure, rfl⟩
  | ok answer =>
    obtain ⟨value, left⟩ := answer
    exact .inr ⟨value, left, rfl, decodeValue_answered decoded⟩

end Codec

end Content

end DispatcherSdk
