/-
This file models the verification of a snapshot.

The verification asks for that tag first, then for every listed file that it is a regular
file of the recorded size and digest, that no two of them are one file, and that the file is
what its kind requires; last, the directory has to hold exactly what was listed.

How large a content is, how it hashes and what JSON document or database it is read as are
functions of the content.
-/

import DispatcherSdk.Content.RoundTrip
import Mathlib.Data.List.Infix
import Mathlib.Data.Set.Function

namespace DispatcherSdk.Snapshots

open ExecutionKernel List

/-! ### Databases -/

abbrev Bytes := List UInt8

/-- SHA-256 in hexadecimal digits, of a text in UTF-8 and of bytes. -/
structure Hashing where
  text : Json.Text → String
  bytes : Bytes → String

/-- A value of a column. A column never holds a NaN. -/
inductive SqlValue where
  | null
  | integer (value : ℤ)
  | real (value : ℚ)
  | negativeZero
  | infinite (negative : Bool)
  | text (text : String)
  | blob (bytes : Bytes)
  deriving DecidableEq

/-- A row of `sqlite_schema`; `sql` is the empty text where SQLite keeps none. -/
structure SchemaRow where
  kind : String
  name : String
  tableName : String
  sql : String

/-- What a database says. No two rows of a schema have both their type and their name in common. -/
structure Store where
  schema : List SchemaRow
  applicationId : ℤ
  userVersion : ℤ
  rows : String → List (List SqlValue)
  sequence : List (String × ℤ)
  named : schema.Pairwise fun left right => (left.kind, left.name) ≠ (right.kind, right.name)

/-- The operator `LIKE`: `%` stands for any text and `_` for any character, and ASCII letters are
compared without regard to case. -/
def like : List Char → List Char → Bool
  | [], text => text.isEmpty
  | '%' :: rest, text => text.tails.any (like rest)
  | _ :: _, [] => false
  | character :: rest, first :: text =>
    (character = '_' || character.toLower = first.toLower) && like rest text

/-- `name NOT LIKE 'sqlite_%'` does not hold. -/
def skipped (name : String) : Bool := like "sqlite_%".toList name.toList

/-- SQLite keeps the names that start with these characters, in any case, for itself. -/
def internal (name : String) : Bool :=
  (name.toList.take 7).map Char.toLower = "sqlite_".toList

/-- Pairs in the order of their names, and pairs of one name in the order of the rest. -/
abbrev PairOrder {Rest : Type} (order : Rest → Rest → Prop) (left right : String × Rest) : Prop :=
  left.1 < right.1 ∨ (left.1 = right.1 ∧ order left.2 right.2)

/-! ### Documents -/

/-- `_json_scalar`. -/
def SqlValue.toJson (hashing : Hashing) : SqlValue → Json
  | null => .null
  | integer value => .int value
  | real value => .float value
  | negativeZero => .negativeZero
  | infinite negative => .object [("float", .string (if negative then "-inf" else "inf"))]
  | text written => .string written
  | blob bytes =>
    .object [("bytes_sha256", .string (hashing.bytes bytes)), ("length", .int bytes.length)]

def SchemaRow.toJson (row : SchemaRow) : Json :=
  .array [.string row.kind, .string row.name, .string row.tableName, .string row.sql]

namespace Store

variable (hashing : Hashing) (store : Store)

/-- `ORDER BY type,name`. -/
def schemaRows : List SchemaRow :=
  store.schema.insertionSort fun left right =>
    PairOrder (· ≤ ·) (left.kind, left.name) (right.kind, right.name)

def tables : List String :=
  ((store.schema.filter fun row => row.kind = "table" && !skipped row.name).map (·.name)
    ).insertionSort (· ≤ ·)

def counts : Bool :=
  store.schema.any fun row => row.kind = "table" && row.name = "sqlite_sequence"

def schemaDocument : Json :=
  .object [("schema", .array (store.schemaRows.map SchemaRow.toJson)),
    ("pragmas", .object [("application_id", .int store.applicationId),
      ("user_version", .int store.userVersion)])]

def rowDocument (row : List SqlValue) : Json :=
  .object [("row", .array (row.map (·.toJson hashing)))]

def rowDigest (row : List SqlValue) : String := hashing.text (rowDocument hashing row).encode

def rowDigests (table : String) : List String :=
  ((store.rows table).map (rowDigest hashing)).insertionSort (· ≤ ·)

def tableDocument (table : String) : Json :=
  .object [("table", .string table),
    ("rows", .array ((store.rowDigests hashing table).map .string))]

def sequenceRows : List (String × ℤ) :=
  store.sequence.insertionSort (PairOrder (· ≤ ·))

def sequenceDocument : Json :=
  .object [("table", .string "sqlite_sequence"),
    ("rows", .array (store.sequenceRows.map fun row => .array [.string row.1, .int row.2]))]

/-- What the digest is updated with, one after another. -/
def documents : List Json :=
  store.schemaDocument :: store.tables.map (store.tableDocument hashing) ++
    if store.counts then [store.sequenceDocument] else []

/-- `_sqlite_logical_digest`. -/
def logicalDigest : String :=
  hashing.text ((store.documents hashing).flatMap Json.encode)

end Store

/-! ### Reading a series of documents -/

theorem encode_append_inj {left right : Json} (distinct : left.Distinct) (other : right.Distinct)
    {rest others : Json.Text} (same : left.encode ++ rest = right.encode ++ others) :
    left.sorted = right.sorted ∧ rest = others := by
  have first := distinct.ordered.distinct.readable
    (2 * (left.sorted.plain.length + right.sorted.plain.length)) rest (by omega)
  have second := other.ordered.distinct.readable
    (2 * (left.sorted.plain.length + right.sorted.plain.length)) others (by omega)
  generalize 2 * (left.sorted.plain.length + right.sorted.plain.length) = fuel at first second
  rw [← Json.encode_eq left] at first
  rw [← Json.encode_eq right] at second
  rw [same, second, Option.some.injEq, Prod.mk.injEq] at first
  exact ⟨first.1.symm, first.2.symm⟩

theorem encode_ne_nil (value : Json) : value.encode ≠ [] := by
  rw [Json.encode_eq]
  exact ne_nil_of_length_pos (Json.plain_length_pos _)

theorem flatMap_encode_inj {documents others : List Json}
    (distinct : ∀ document ∈ documents, document.Distinct)
    (apart : ∀ document ∈ others, document.Distinct)
    (same : documents.flatMap Json.encode = others.flatMap Json.encode) :
    documents.map Json.sorted = others.map Json.sorted := by
  induction documents generalizing others with
  | nil =>
    cases others with
    | nil => rfl
    | cons other rest =>
      rw [flatMap_nil, flatMap_cons] at same
      exact absurd (append_eq_nil_iff.mp same.symm).1 (encode_ne_nil other)
  | cons document documents hypothesis =>
    cases others with
    | nil =>
      rw [flatMap_nil, flatMap_cons] at same
      exact absurd (append_eq_nil_iff.mp same).1 (encode_ne_nil document)
    | cons other rest =>
      rw [flatMap_cons, flatMap_cons] at same
      obtain ⟨here, later⟩ := encode_append_inj (distinct document mem_cons_self)
        (apart other mem_cons_self) same
      rw [map_cons, map_cons, here, hypothesis
        (fun document member => distinct document (mem_cons_of_mem _ member))
        (fun document member => apart document (mem_cons_of_mem _ member)) later]

section PairOrder

variable {Rest : Type} {order : Rest → Rest → Prop} {left middle right : String × Rest}

theorem PairOrder.total (total : ∀ first second, order first second ∨ order second first) :
    PairOrder order left right ∨ PairOrder order right left := by
  by_cases same : left.1 = right.1
  · exact (total left.2 right.2).imp (fun before => Or.inr ⟨same, before⟩)
      fun before => Or.inr ⟨same.symm, before⟩
  · rcases String.le_total left.1 right.1 with before | before
    · exact .inl (.inl (Json.name_lt before same))
    · exact .inr (.inl (Json.name_lt before fun other => same other.symm))

theorem PairOrder.trans (trans : ∀ first second third, order first second → order second third →
    order first third) (before : PairOrder order left middle)
    (after : PairOrder order middle right) : PairOrder order left right := by
  rcases before with less | ⟨same, before⟩
  · rcases after with less' | ⟨same', after⟩
    · exact .inl (String.lt_trans less less')
    · exact .inl (same' ▸ less)
  · rcases after with less' | ⟨same', after⟩
    · exact .inl (same ▸ less')
    · exact .inr ⟨same.trans same', trans _ _ _ before after⟩

theorem PairOrder.antisymm (antisymm : ∀ first second, order first second → order second first →
    first = second) (before : PairOrder order left right) (after : PairOrder order right left) :
    left = right := by
  rcases before with less | ⟨same, before⟩
  · rcases after with less' | ⟨same', -⟩
    · exact absurd less' (String.lt_asymm less)
    · exact absurd less (same' ▸ String.lt_irrefl _)
  · rcases after with less' | ⟨-, after⟩
    · exact absurd less' (same ▸ String.lt_irrefl _)
    · exact Prod.ext same (antisymm _ _ before after)

end PairOrder

theorem insertionSort_eq_iff {Item : Type} (order : Item → Item → Prop) [DecidableRel order]
    [Std.Total order] [IsTrans Item order] {items others : List Item}
    (apart : ∀ item ∈ items, ∀ other ∈ items, order item other → order other item → item = other) :
    items.insertionSort order = others.insertionSort order ↔ items.Perm others := by
  have sorted := perm_insertionSort order items
  have sorted' := perm_insertionSort order others
  constructor
  · intro same
    rw [same] at sorted
    exact sorted.symm.trans sorted'
  · intro perm
    refine (sorted.trans (perm.trans sorted'.symm)).eq_of_pairwise ?_
      (pairwise_insertionSort order items) (pairwise_insertionSort order others)
    intro item other member member' before after
    exact apart item (sorted.mem_iff.mp member) other
      (perm.mem_iff.mpr (sorted'.mem_iff.mp member')) before after

theorem map_perm_iff {Item Image : Type} [DecidableEq Image] {image : Item → Image}
    {items others : List Item}
    (apart : ∀ item ∈ items, ∀ other ∈ others, image item = image other → item = other) :
    (items.map image).Perm (others.map image) ↔ items.Perm others := by
  refine ⟨fun perm => ?_, fun perm => perm.map image⟩
  induction items generalizing others with
  | nil =>
    rw [map_nil, nil_perm, map_eq_nil_iff] at perm
    rw [perm]
  | cons item items hypothesis =>
    rw [map_cons] at perm
    obtain ⟨other, member, same⟩ := mem_map.mp (perm.mem_iff.mp mem_cons_self)
    obtain rfl := apart item mem_cons_self other member same.symm
    obtain ⟨before, after, rfl⟩ := append_of_mem member
    have moved : (before ++ item :: after).Perm (item :: (before ++ after)) := perm_middle
    have rest : (items.map image).Perm ((before ++ after).map image) :=
      (perm_cons (image item)).mp (perm.trans (moved.map image))
    refine ((perm_cons item).mpr (hypothesis (fun item inside other outside => ?_)
      rest)).trans moved.symm
    exact apart item (mem_cons_of_mem _ inside) other
      (moved.mem_iff.mpr (mem_cons_of_mem _ outside))

theorem map_eq_imp {Item Image : Type} {image : Item → Image} {items others : List Item}
    (apart : ∀ item ∈ items, ∀ other ∈ others, image item = image other → item = other)
    (same : items.map image = others.map image) : items = others := by
  induction items generalizing others with
  | nil => exact (map_eq_nil_iff.mp same.symm).symm
  | cons item items hypothesis =>
    cases others with
    | nil => cases same
    | cons other others =>
      rw [map_cons, map_cons, List.cons.injEq] at same
      rw [apart item mem_cons_self other mem_cons_self same.1, hypothesis
        (fun item member other member' => apart item (mem_cons_of_mem _ member) other
          (mem_cons_of_mem _ member')) same.2]

/-! ### The documents of a database -/

theorem SqlValue.toJson_ordered (hashing : Hashing) (value : SqlValue) :
    (value.toJson hashing).Ordered := by
  cases value with
  | null => exact .null
  | integer value => exact .int value
  | real value => exact .float value
  | negativeZero => exact .negativeZero
  | text written => exact .string written
  | infinite negative =>
    refine .object (pairwise_singleton _ _) fun field member => ?_
    rw [mem_singleton.mp member]
    exact .string _
  | blob bytes =>
    refine .object (by simp only [map_cons, map_nil]; decide) fun field member => ?_
    rcases mem_cons.mp member with rfl | last
    · exact .string _
    · rw [mem_singleton.mp last]
      exact .int _

theorem SqlValue.toJson_inj {hashing : Hashing} {value other : SqlValue}
    (apart : ∀ bytes bytes', value = .blob bytes → other = .blob bytes' →
      hashing.bytes bytes = hashing.bytes bytes' → bytes = bytes')
    (same : value.toJson hashing = other.toJson hashing) : value = other := by
  cases value <;> cases other <;> simp only [toJson, Json.object.injEq, List.cons.injEq,
    Prod.mk.injEq, Json.string.injEq, Json.int.injEq, Json.float.injEq, reduceCtorEq] at same ⊢
  case integer.integer | real.real | text.text => rw [same]
  case infinite.infinite negative negative' =>
    obtain ⟨⟨-, same⟩, -⟩ := same
    cases negative <;> cases negative' <;> first | rfl | exact absurd same (by decide)
  case infinite.blob => exact absurd same.1.1 (by decide)
  case blob.infinite => exact absurd same.1.1 (by decide)
  case blob.blob bytes bytes' => rw [apart bytes bytes' rfl rfl same.1.2]

theorem SchemaRow.toJson_ordered (row : SchemaRow) : row.toJson.Ordered := by
  refine .array fun item member => ?_
  simp only [mem_cons, not_mem_nil, or_false] at member
  rcases member with rfl | rfl | rfl | rfl <;> exact .string _

theorem SchemaRow.toJson_injective : Function.Injective SchemaRow.toJson := by
  intro row other same
  cases row
  cases other
  simpa [toJson] using same

namespace Store

variable (hashing : Hashing) (store : Store)

theorem rowDocument_ordered (row : List SqlValue) : (rowDocument hashing row).Ordered := by
  refine .object (pairwise_singleton _ _) fun field member => ?_
  rw [mem_singleton.mp member]
  refine .array fun item inside => ?_
  obtain ⟨value, -, rfl⟩ := mem_map.mp inside
  exact value.toJson_ordered hashing

theorem sorted_map {Item : Type} {write : Item → Json} (ordered : ∀ item, (write item).Ordered)
    (items : List Item) : (Json.array (items.map write)).Ordered :=
  .array fun item member => by
    obtain ⟨source, -, rfl⟩ := mem_map.mp member
    exact ordered source

theorem sequenceItem_ordered (row : String × ℤ) :
    (Json.array [.string row.1, .int row.2]).Ordered := by
  refine .array fun item member => ?_
  simp only [mem_cons, not_mem_nil, or_false] at member
  rcases member with rfl | rfl
  · exact .string _
  · exact .int _

variable {first second : String}

theorem sorted_pair (left right : Json) (after : ¬ first ≤ second) :
    (Json.object [(first, left), (second, right)]).sorted =
      .object [(second, right.sorted), (first, left.sorted)] := by
  simp only [Json.sorted, Json.sortedFields, List.insertionSort, foldr_cons, foldr_nil,
    List.orderedInsert, Json.NameOrder, after, if_false]

theorem sorted_schemaDocument : store.schemaDocument.sorted =
    .object [("pragmas", .object [("application_id", .int store.applicationId),
      ("user_version", .int store.userVersion)]),
      ("schema", .array (store.schemaRows.map SchemaRow.toJson))] := by
  have pragmas : (Json.object [("application_id", .int store.applicationId),
      ("user_version", .int store.userVersion)]).Ordered := by
    refine .object (by simp only [map_cons, map_nil]; decide) fun field member => ?_
    simp only [mem_cons, not_mem_nil, or_false] at member
    rcases member with rfl | rfl <;> exact .int _
  rw [schemaDocument, sorted_pair _ _ (by decide), pragmas.sorted_eq,
    (sorted_map SchemaRow.toJson_ordered store.schemaRows).sorted_eq]

theorem sorted_tableDocument (table : String) : (store.tableDocument hashing table).sorted =
    .object [("rows", .array ((store.rowDigests hashing table).map .string)),
      ("table", .string table)] := by
  rw [tableDocument, sorted_pair _ _ (by decide),
    (sorted_map (fun _ => .string _) (store.rowDigests hashing table)).sorted_eq]
  rfl

theorem sorted_sequenceDocument : store.sequenceDocument.sorted =
    .object [("rows", .array (store.sequenceRows.map fun row =>
        .array [.string row.1, .int row.2])), ("table", .string "sqlite_sequence")] := by
  rw [sequenceDocument, sorted_pair _ _ (by decide),
    (sorted_map sequenceItem_ordered store.sequenceRows).sorted_eq]
  rfl

theorem distinct_pair {left right : Json} (apart : first ≠ second) (here : left.Distinct)
    (there : right.Distinct) : (Json.object [(first, left), (second, right)]).Distinct := by
  refine .object ?_ fun field member => ?_
  · simpa using apart
  · simp only [mem_cons, not_mem_nil, or_false] at member
    rcases member with rfl | rfl
    · exact here
    · exact there

theorem documents_distinct : ∀ document ∈ store.documents hashing, document.Distinct := by
  intro document member
  rcases mem_append.mp member with member | member
  · rcases mem_cons.mp member with rfl | member
    · exact distinct_pair (by decide)
        (sorted_map SchemaRow.toJson_ordered store.schemaRows).distinct
        (distinct_pair (by decide) (.int _) (.int _))
    · obtain ⟨table, -, rfl⟩ := mem_map.mp member
      exact distinct_pair (by decide) (.string _) (sorted_map (fun _ => .string _) _).distinct
  · split at member
    · rw [mem_singleton.mp member]
      exact distinct_pair (by decide) (.string _) (sorted_map sequenceItem_ordered _).distinct
    · cases member

/-! ### Equal digests -/

/-- The texts that are hashed for the digest. -/
def texts : Set Json.Text :=
  { text | text = (store.documents hashing).flatMap Json.encode ∨
    ∃ table ∈ store.tables, ∃ row ∈ store.rows table, text = (rowDocument hashing row).encode }

/-- The blobs that are hashed for the digest. -/
def blobs : Set Bytes :=
  { bytes | ∃ table ∈ store.tables, ∃ row ∈ store.rows table, SqlValue.blob bytes ∈ row }

/-- None of what is hashed for the two digests collides. -/
structure Separates (left right : Store) : Prop where
  texts : Set.InjOn hashing.text (left.texts hashing ∪ right.texts hashing)
  blobs : Set.InjOn hashing.bytes (left.blobs ∪ right.blobs)

/-- The schema has a table with the name. -/
def HasTable (name : String) : Prop := ∃ row ∈ store.schema, row.kind = "table" ∧ row.name = name

/-- Two databases say the same, as far as the rows of the covered tables go. -/
structure Agrees (left right : Store) (covered : String → Bool) : Prop where
  schema : left.schema.Perm right.schema
  applicationId : left.applicationId = right.applicationId
  userVersion : left.userVersion = right.userVersion
  sequence : left.counts = true → left.sequence.Perm right.sequence
  rows : ∀ name, left.HasTable name → covered name = true → (left.rows name).Perm (right.rows name)

variable {hashing} {left right : Store}

theorem mem_tables {name : String} :
    name ∈ store.tables ↔ store.HasTable name ∧ skipped name = false := by
  unfold tables HasTable
  rw [mem_insertionSort, mem_map]
  constructor
  · rintro ⟨row, member, rfl⟩
    obtain ⟨inside, chosen⟩ := mem_filter.mp member
    rw [Bool.and_eq_true, decide_eq_true_iff, Bool.not_eq_true'] at chosen
    exact ⟨⟨row, inside, chosen.1, rfl⟩, chosen.2⟩
  · rintro ⟨⟨row, inside, table, rfl⟩, kept⟩
    refine ⟨row, mem_filter.mpr ⟨inside, ?_⟩, rfl⟩
    rw [Bool.and_eq_true, decide_eq_true_iff, Bool.not_eq_true']
    exact ⟨table, kept⟩

instance : Std.Total fun left right : SchemaRow =>
    PairOrder (· ≤ ·) (left.kind, left.name) (right.kind, right.name) :=
  ⟨fun _ _ => PairOrder.total String.le_total⟩

instance : IsTrans SchemaRow fun left right =>
    PairOrder (· ≤ ·) (left.kind, left.name) (right.kind, right.name) :=
  ⟨fun _ _ _ => PairOrder.trans fun _ _ _ => String.le_trans⟩

instance : Std.Total (PairOrder (· ≤ ·) : String × ℤ → String × ℤ → Prop) :=
  ⟨fun _ _ => PairOrder.total Int.le_total⟩

instance : IsTrans (String × ℤ) (PairOrder (· ≤ ·)) :=
  ⟨fun _ _ _ => PairOrder.trans fun _ _ _ => Int.le_trans⟩

instance : Std.Total fun left right : String => left ≤ right := ⟨String.le_total⟩

instance : IsTrans String fun left right => left ≤ right := ⟨fun _ _ _ => String.le_trans⟩

theorem schemaRows_eq_iff : left.schemaRows = right.schemaRows ↔
    left.schema.Perm right.schema := by
  refine insertionSort_eq_iff _ fun row member other member' before after => ?_
  have same := PairOrder.antisymm (fun _ _ => String.le_antisymm) before after
  exact inj_on_of_nodup_map (pairwise_map.mpr left.named) member member' same

theorem sequenceRows_eq_iff : left.sequenceRows = right.sequenceRows ↔
    left.sequence.Perm right.sequence :=
  insertionSort_eq_iff _ fun _ _ _ _ =>
    PairOrder.antisymm fun _ _ => Int.le_antisymm

theorem tables_eq (same : left.schema.Perm right.schema) : left.tables = right.tables :=
  (insertionSort_eq_iff _ fun _ _ _ _ => String.le_antisymm).mpr ((same.filter _).map _)

theorem counts_eq (same : left.schema.Perm right.schema) : left.counts = right.counts :=
  same.any_eq

section

variable {table : String} (separates : Separates hashing left right) (inside : table ∈ left.tables)
  (outside : table ∈ right.tables)

include separates inside outside

theorem Separates.row {row other : List SqlValue} (member : row ∈ left.rows table)
    (member' : other ∈ right.rows table) (same : rowDigest hashing row = rowDigest hashing other) :
    row = other := by
  have texts : (rowDocument hashing row).encode = (rowDocument hashing other).encode :=
    separates.texts (.inl (.inr ⟨table, inside, row, member, rfl⟩))
      (.inr (.inr ⟨table, outside, other, member', rfl⟩)) same
  have documents := (encode_append_inj (rowDocument_ordered hashing row).distinct
    (rowDocument_ordered hashing other).distinct (congrArg (· ++ []) texts)).1
  rw [(rowDocument_ordered hashing row).sorted_eq, (rowDocument_ordered hashing other).sorted_eq,
    rowDocument, rowDocument] at documents
  simp only [Json.object.injEq, List.cons.injEq, Prod.mk.injEq, Json.array.injEq, true_and,
    and_true] at documents
  refine map_eq_imp (fun value here value' there equal => ?_) documents
  refine SqlValue.toJson_inj (fun bytes bytes' first second collide => ?_) equal
  exact separates.blobs (.inl ⟨table, inside, row, member, first ▸ here⟩)
    (.inr ⟨table, outside, other, member', second ▸ there⟩) collide

theorem Separates.rowDigests_eq_iff :
    left.rowDigests hashing table = right.rowDigests hashing table ↔
      (left.rows table).Perm (right.rows table) := by
  unfold rowDigests
  rw [insertionSort_eq_iff _ fun _ _ _ _ => String.le_antisymm]
  exact map_perm_iff fun row member other member' =>
    separates.row inside outside member member'

end

theorem sorted_schemaDocument_eq_iff :
    left.schemaDocument.sorted = right.schemaDocument.sorted ↔
      (left.applicationId = right.applicationId ∧ left.userVersion = right.userVersion) ∧
        left.schema.Perm right.schema := by
  rw [sorted_schemaDocument, sorted_schemaDocument, ← schemaRows_eq_iff,
    ← SchemaRow.toJson_injective.list_map.eq_iff]
  simp only [Json.object.injEq, List.cons.injEq, Prod.mk.injEq, Json.array.injEq, Json.int.injEq,
    true_and, and_true]

theorem sorted_tableDocument_eq_iff (table : String) :
    (left.tableDocument hashing table).sorted = (right.tableDocument hashing table).sorted ↔
      left.rowDigests hashing table = right.rowDigests hashing table := by
  have strings : Function.Injective Json.string := fun _ _ same => Json.string.inj same
  rw [sorted_tableDocument, sorted_tableDocument, ← strings.list_map.eq_iff]
  simp only [Json.object.injEq, List.cons.injEq, Prod.mk.injEq, Json.array.injEq, true_and,
    and_true]

theorem sorted_sequenceDocument_eq_iff :
    left.sequenceDocument.sorted = right.sequenceDocument.sorted ↔
      left.sequence.Perm right.sequence := by
  have items : Function.Injective fun row : String × ℤ => Json.array [.string row.1, .int row.2] :=
    fun row other same => by simpa [Prod.ext_iff] using same
  rw [sorted_sequenceDocument, sorted_sequenceDocument, ← sequenceRows_eq_iff,
    ← items.list_map.eq_iff]
  simp only [Json.object.injEq, List.cons.injEq, Prod.mk.injEq, Json.array.injEq, true_and,
    and_true]

theorem sorted_documents_iff (separates : Separates hashing left right) :
    (left.documents hashing).map Json.sorted = (right.documents hashing).map Json.sorted ↔
      left.Agrees right fun name => !skipped name := by
  unfold documents
  simp only [map_append, map_cons, map_map, cons_append, List.cons.injEq]
  rw [sorted_schemaDocument_eq_iff]
  constructor
  · rintro ⟨⟨⟨applicationId, userVersion⟩, schema⟩, rest⟩
    rw [← tables_eq schema, ← counts_eq schema] at rest
    obtain ⟨tables, sequence⟩ := append_inj rest (by simp only [length_map])
    refine ⟨schema, applicationId, userVersion, fun counts => ?_, fun name table covered => ?_⟩
    · rw [if_pos counts, if_pos counts, map_singleton, map_singleton,
        List.cons.injEq] at sequence
      exact sorted_sequenceDocument_eq_iff.mp sequence.1
    · have inside : name ∈ left.tables := (mem_tables left).mpr ⟨table, by simpa using covered⟩
      refine (separates.rowDigests_eq_iff inside (tables_eq schema ▸ inside)).mp ?_
      exact (sorted_tableDocument_eq_iff name).mp (map_inj_left.mp tables name inside)
  · intro agrees
    refine ⟨⟨⟨agrees.applicationId, agrees.userVersion⟩, agrees.schema⟩, ?_⟩
    rw [← tables_eq agrees.schema, ← counts_eq agrees.schema]
    congr 1
    · refine map_congr_left fun name inside => (sorted_tableDocument_eq_iff name).mpr ?_
      refine (separates.rowDigests_eq_iff inside (tables_eq agrees.schema ▸ inside)).mpr ?_
      obtain ⟨table, kept⟩ := (mem_tables left).mp inside
      exact agrees.rows name table (by simpa using kept)
    · by_cases counts : left.counts = true
      · rw [if_pos counts, if_pos counts, map_singleton, map_singleton,
          sorted_sequenceDocument_eq_iff.mpr (agrees.sequence counts)]
      · rw [if_neg counts, if_neg counts]

/-- Two databases have the same digest exactly when they agree on the tables that are not
skipped. -/
theorem logicalDigest_eq_iff (separates : Separates hashing left right) :
    left.logicalDigest hashing = right.logicalDigest hashing ↔
      left.Agrees right fun name => !skipped name := by
  rw [← sorted_documents_iff separates]
  constructor
  · intro same
    exact flatMap_encode_inj (documents_distinct hashing left) (documents_distinct hashing right)
      (separates.texts (.inl (.inl rfl)) (.inr (.inl rfl)) same)
  · intro same
    unfold logicalDigest
    congr 1
    have texts : ∀ documents : List Json, documents.flatMap Json.encode =
        (documents.map Json.sorted).flatMap Json.plain := fun documents => by
      rw [flatMap_map]
      exact flatMap_congr fun document _ => Json.encode_eq document
    rw [texts, texts, same]

end Store

/-! ### Which tables are skipped -/

theorem like_self {pattern text : List Char} (wild : '%' ∉ pattern)
    (same : pattern.map Char.toLower = text.map Char.toLower) (rest : List Char) :
    like (pattern ++ ['%']) (text ++ rest) = true := by
  induction pattern generalizing text with
  | nil =>
    cases text with
    | nil => simp [like, mem_tails]
    | cons => cases same
  | cons character pattern hypothesis =>
    cases text with
    | nil => cases same
    | cons first text =>
      rw [map_cons, map_cons, List.cons.injEq] at same
      rw [mem_cons, not_or] at wild
      have later := hypothesis wild.2 same.2
      rw [cons_append, cons_append, like, later, same.1]
      · simp
      · exact fun other => wild.1 other.symm

theorem skipped_of_internal {name : String} (own : internal name = true) : skipped name = true := by
  have same : "sqlite_".toList.map Char.toLower = (name.toList.take 7).map Char.toLower := by
    rw [of_decide_eq_true own]
    decide
  have found := like_self (by decide) same (name.toList.drop 7)
  rw [take_append_drop] at found
  exact found

/-! ### Values of a document -/

section Documents

/-- The number that a value is compared as. -/
def numeral : Json → Option ℚ
  | .bool value => some (if value then 1 else 0)
  | .int value => some value
  | .float value => some value
  | .negativeZero => some 0
  | _ => none

mutual

/-- `==` of two values that `json.loads` returned. -/
def equals : Json → Json → Bool
  | .array items, .array others => equalItems items others
  | .object fields, .object others => fields.length = others.length && equalFields fields others
  | .null, .null => true
  | .string text, .string other => text = other
  | value, other =>
    match numeral value, numeral other with
    | some left, some right => left = right
    | _, _ => false

def equalItems : List Json → List Json → Bool
  | [], [] => true
  | item :: items, other :: others => equals item other && equalItems items others
  | _, _ => false

def equalFields : List (String × Json) → List (String × Json) → Bool
  | [], _ => true
  | (name, value) :: fields, others =>
    (match Json.get? others name with
      | some other => equals value other
      | none => false) && equalFields fields others

end

/-- `isinstance(value, dict)`. -/
def fields? : Json → Option (List (String × Json))
  | .object fields => some fields
  | _ => none

/-- `isinstance(value, str)`. -/
def string? : Json → Option String
  | .string text => some text
  | _ => none

/-- An integer that is not negative, and no `bool`. -/
def size? : Json → Option ℕ
  | .int value => if 0 ≤ value then some value.toNat else none
  | _ => none

/-- `fields.get(name)`. -/
def entry (fields : List (String × Json)) (name : String) : Json :=
  (Json.get? fields name).getD .null

end Documents

/-! ### Names -/

def manifestName : String := "manifest.json"

def readOnlyMarker : String := ".sdk-snapshot-readonly"

def maxManifestBytes : ℕ := 4 * 1024 * 1024

def maxMemberCount : ℕ := 10000

/-- `_NAME.fullmatch`. -/
def safeName (name : String) : Bool :=
  match name.toList with
  | [] => false
  | first :: rest =>
    first.isAlphanum && rest.length ≤ 127 &&
      rest.all fun character => character.isAlphanum || character ∈ ['.', '_', '-']

/-- `PurePosixPath(text).parts`, but for the root of an absolute path. -/
def pathParts (text : String) : List String :=
  ((text.toList.splitOn '/').map String.ofList).filter fun part => part ≠ "" && part ≠ "."

def validatedMemberPath (relative : Json) : Option String := do
  let text ← string? relative
  guard (text ≠ "" ∧ '\\' ∉ text.toList)
  let parts := pathParts text
  guard (text.toList.head? ≠ some '/' ∧ ".." ∉ parts)
  let path := if parts = [] then "." else "/".intercalate parts
  guard (path ≠ manifestName)
  return path

def sameNames (names others : List String) : Bool :=
  names.all (· ∈ others) && others.all (· ∈ names)

def componentPath (name : String) : String := "component-" ++ name ++ ".sqlite3"

def blobPath (name : String) : String := "blob-" ++ name ++ ".blob"

/-! ### Directories -/

inductive Node where
  | file (inode : ℕ)
  | directory
  | link
  | special
  deriving DecidableEq

/-- A directory tree: its entries under their paths relative to the root, and the contents of the
files. Two entries with one inode are two names of one file. -/
structure Tree (Content : Type) where
  nodes : List (String × Node)
  content : ℕ → Content
  distinct : (nodes.map Prod.fst).Nodup

namespace Tree

variable {Content : Type} (tree : Tree Content)

/-- The regular file with the path, opened without following a link. -/
def file? (path : String) : Option ℕ :=
  match (tree.nodes.find? fun node => node.1 = path).map Prod.snd with
  | some (.file inode) => some inode
  | _ => none

/-- The first set of `_actual_snapshot_files`, unless an entry is neither a directory nor a regular
file. -/
def files? : Option (List String) :=
  if tree.nodes.any fun node => node.2 = .link || node.2 = .special then none
  else some ((tree.nodes.filter fun node => node.2 ≠ .directory).map Prod.fst)

/-- The second set of `_actual_snapshot_files`. -/
def directories : List String := (tree.nodes.filter fun node => node.2 = .directory).map Prod.fst

end Tree

/-! ### Verification -/

/-- What the snapshots are made with: SHA-256 and HMAC, reading and writing of JSON, and SQLite. -/
structure Toolkit (Key Content : Type) where
  size : Content → ℕ
  digest : Content → String
  hashing : Hashing
  keyId : Key → String
  mac : Key → Json.Text → String
  read : Content → Option Json
  write : Json.Text → Content
  store : Content → Option Store
  metadata : Content → Option (List (String × Json))
  marker : Content
  read_distinct : ∀ content value, read content = some value → value.Distinct
  read_write : ∀ value : Json, value.Distinct → read (write value.encode) = some value.sorted

/-- What the verification has seen of the members so far. -/
structure Seen where
  declared : List String
  inodes : List ℕ
  components : List (String × String)
  blobs : List (String × String)

/-- `VerifiedSnapshot`, without the root. -/
structure VerifiedSnapshot where
  groupId : String
  components : List (String × String)
  sourceComponents : List (String × String)
  blobs : List (String × String)
  manifest : List (String × Json)

namespace Toolkit

variable {Key Content : Type} (toolkit : Toolkit Key Content)

/-- `_unsigned_manifest`. -/
def unsigned (manifest : List (String × Json)) : Option Json := do
  let authentication ← fields? (entry manifest "authentication")
  return .object (manifest.map fun field =>
    if field.1 = "authentication" then
      (field.1, .object (authentication.filter fun part => part.1 ≠ "tag"))
    else field)

/-- `_verify_authentication`. -/
def authentic (key : Key) (manifest : List (String × Json)) : Bool :=
  match fields? (entry manifest "authentication"), unsigned manifest with
  | some authentication, some plain =>
    match string? (entry authentication "tag") with
    | some tag =>
      equals (entry authentication "algorithm") (.string "HMAC-SHA256") &&
        equals (entry authentication "key_id") (.string (toolkit.keyId key)) &&
        tag.length = 64 && tag = toolkit.mac key plain.encode
    | none => false
  | _, _ => false

/-- `_sqlite_details`. -/
def details (content : Content) : Option (List (String × Json)) := do
  let store ← toolkit.store content
  let metadata ← toolkit.metadata content
  return metadata ++ [("logical_sha256", .string (store.logicalDigest toolkit.hashing))]

/-- The recorded metadata of a database are those of the file. Old snapshots have no logical
digest. -/
def sameDetails (expected : Json) (content : Content) : Bool :=
  match toolkit.details content with
  | none => false
  | some actual =>
    match fields? expected with
    | none => false
    | some recorded =>
      equals expected (.object (if (Json.get? recorded "logical_sha256").isSome then actual
        else actual.filter fun field => field.1 ≠ "logical_sha256"))

def checkKind (seen : Seen) (fields : List (String × Json)) (name path : String)
    (content : Content) : Option Seen := do
  match entry fields "kind" with
  | .string "sqlite" =>
    guard ((seen.components.map Prod.fst).all (· ≠ name) ∧ path = componentPath name ∧
      toolkit.sameDetails (entry fields "sqlite") content)
    return { seen with components := seen.components ++ [(name, path)] }
  | .string "blob" =>
    guard ((seen.blobs.map Prod.fst).all (· ≠ name) ∧ path = blobPath name)
    return { seen with blobs := seen.blobs ++ [(name, path)] }
  | .string "activation-marker" =>
    guard (name = readOnlyMarker ∧ path = readOnlyMarker)
    return seen
  | _ => none

/-- One round of the loop over the members. -/
def checkMember (tree : Tree Content) (seen : Seen) (member : Json) : Option Seen := do
  let fields ← fields? member
  let path ← validatedMemberPath (entry fields "path")
  guard (path ∉ seen.declared)
  let name ← string? (entry fields "name")
  guard (string? (entry fields "kind") = some "activation-marker" ∨ safeName name = true)
  let size ← size? (entry fields "size")
  let digest ← string? (entry fields "sha256")
  guard (DispatcherSdk.Content.isDigest digest = true)
  let inode ← tree.file? path
  guard (inode ∉ seen.inodes)
  guard (size = toolkit.size (tree.content inode) ∧
    digest = toolkit.digest (tree.content inode))
  toolkit.checkKind { seen with declared := seen.declared ++ [path], inodes := seen.inodes ++ [inode] }
    fields name path (tree.content inode)

/-- The activation gate and the sources that the manifest names. -/
def checkActivation (seen : Seen) (activation : List (String × Json)) :
    Option (List (String × String)) := do
  guard (string? (entry activation "marker") = some readOnlyMarker ∧
    readOnlyMarker ∈ seen.declared)
  match entry activation "requires_explicit_activation",
    entry activation "activation_api_available" with
  | .bool true, .bool false =>
    match entry activation "source_components" with
    | .null => return []
    | .object sources =>
      match entry activation "copy_activation_api_available" with
      | .bool true =>
        guard (sameNames (sources.map Prod.fst) (seen.components.map Prod.fst) = true)
        sources.mapM fun source => do
          let path ← string? source.2
          guard (path.toList.head? = some '/' ∧ ".." ∉ pathParts path)
          return (source.1, path)
      | _ => none
    | _ => none
  | _, _ => none

/-- The first marker among the members has the content that every marker has. -/
def checkMarker (members : List Json) : Bool :=
  match members.find? fun member =>
      (fields? member).any fun fields => string? (entry fields "kind") = some "activation-marker" with
  | some (.object fields) =>
    equals (entry fields "size") (.int (toolkit.size toolkit.marker)) &&
      equals (entry fields "sha256") (.string (toolkit.digest toolkit.marker))
  | _ => false

/-- The mapping of names to paths as a document. -/
def mapping (paths : List (String × String)) : Json :=
  .object (paths.map fun path => (path.1, .string path.2))

def readManifest (tree : Tree Content) : Option (List (String × Json)) := do
  let inode ← tree.file? manifestName
  guard (toolkit.size (tree.content inode) ≤ maxManifestBytes)
  (toolkit.read (tree.content inode)).bind fields?

def listed (manifest : List (String × Json)) : List Json :=
  match entry manifest "members" with
  | .array members => members
  | _ => []

/-- The files of the tree are the manifest and the declared ones, and there are no directories. -/
def closedSet (tree : Tree Content) (declared : List String) : Bool :=
  (tree.files?.any fun files => sameNames files (manifestName :: declared)) &&
    tree.directories = []

/-- The group that the manifest describes is the one that the members make up. -/
def checkGroup (seen : Seen) (group : List (String × Json)) : Option String := do
  let groupId ← string? (entry group "id")
  guard (safeName groupId = true ∧
    string? (entry group "declaration") = some "caller-declared-closed-set" ∧
    equals (entry group "components") (mapping seen.components) = true ∧
    equals (entry group "blobs") (mapping seen.blobs) = true)
  return groupId

def verifySnapshot (key : Key) (tree : Tree Content) : Option VerifiedSnapshot := do
  let manifest ← toolkit.readManifest tree
  guard (toolkit.authentic key manifest = true)
  guard (equals (entry manifest "format") (.string "dispatcher-sdk-store-group-snapshot") = true ∧
    equals (entry manifest "version") (.int 1) = true)
  let members := listed manifest
  guard (members ≠ [] ∧ members.length ≤ maxMemberCount)
  let seen ← members.foldlM (toolkit.checkMember tree) ⟨[], [], [], []⟩
  guard (closedSet tree seen.declared = true)
  let groupId ← (fields? (entry manifest "group")).bind (checkGroup seen)
  let sources ← (fields? (entry manifest "activation")).bind (checkActivation seen)
  guard (toolkit.checkMarker members = true)
  return ⟨groupId, seen.components, sources, seen.blobs, manifest⟩

/-! ### What is verified -/

theorem forall₂_right {Left Right : Type} {relation : Left → Right → Prop} {items : List Left}
    {others : List Right} (all : List.Forall₂ relation items others) {other : Right}
    (member : other ∈ others) : ∃ item ∈ items, relation item other := by
  induction all with
  | nil => cases member
  | cons here _ hypothesis =>
    rcases mem_cons.mp member with rfl | later
    · exact ⟨_, mem_cons_self, here⟩
    · obtain ⟨item, inside, holds⟩ := hypothesis later
      exact ⟨item, mem_cons_of_mem _ inside, holds⟩

/-- The member of a manifest is the file with the path and the inode. -/
def Lists (tree : Tree Content) (member : Json) (file : String × ℕ) : Prop :=
  ∃ fields, fields? member = some fields ∧
    validatedMemberPath (entry fields "path") = some file.1 ∧
    tree.file? file.1 = some file.2 ∧
    size? (entry fields "size") = some (toolkit.size (tree.content file.2)) ∧
    string? (entry fields "sha256") = some (toolkit.digest (tree.content file.2))

/-- The tree is the manifest and the members it lists, one regular file for each of them, and nothing
else. -/
structure Consists (tree : Tree Content) (manifest : List (String × Json))
    (files : List (String × ℕ)) : Prop where
  listed : List.Forall₂ (toolkit.Lists tree) (listed manifest) files
  paths : (files.map Prod.fst).Nodup
  inodes : (files.map Prod.snd).Nodup
  unlisted : manifestName ∉ files.map Prod.fst
  regular : ∀ node ∈ tree.nodes, ∃ inode, node.2 = .file inode
  closed : ∀ path, path ∈ tree.nodes.map Prod.fst ↔ path = manifestName ∨ path ∈ files.map Prod.fst

variable {toolkit} {tree : Tree Content} {seen next : Seen}

theorem validatedMemberPath_ne {relative : Json} {path : String}
    (validated : validatedMemberPath relative = some path) : path ≠ manifestName := by
  unfold validatedMemberPath at validated
  obtain ⟨text, -, validated⟩ := Option.bind_eq_some_iff.mp validated
  obtain ⟨_, -, validated⟩ := Option.bind_eq_some_iff.mp validated
  obtain ⟨_, -, validated⟩ := Option.bind_eq_some_iff.mp validated
  obtain ⟨_, other, validated⟩ := Option.bind_eq_some_iff.mp validated
  rw [Option.guard_eq_some'] at other
  cases validated
  exact other

theorem checkKind_seen {fields : List (String × Json)} {name path : String} {content : Content}
    (checked : toolkit.checkKind seen fields name path content = some next) :
    next.declared = seen.declared ∧ next.inodes = seen.inodes := by
  unfold checkKind at checked
  split at checked
  · obtain ⟨_, -, checked⟩ := Option.bind_eq_some_iff.mp checked
    cases checked
    exact ⟨rfl, rfl⟩
  · obtain ⟨_, -, checked⟩ := Option.bind_eq_some_iff.mp checked
    cases checked
    exact ⟨rfl, rfl⟩
  · obtain ⟨_, -, checked⟩ := Option.bind_eq_some_iff.mp checked
    cases checked
    exact ⟨rfl, rfl⟩
  · cases checked

theorem checkMember_lists {member : Json}
    (checked : toolkit.checkMember tree seen member = some next) :
    ∃ file, toolkit.Lists tree member file ∧ file.1 ∉ seen.declared ∧ file.2 ∉ seen.inodes ∧
      next.declared = seen.declared ++ [file.1] ∧ next.inodes = seen.inodes ++ [file.2] := by
  unfold checkMember at checked
  obtain ⟨fields, shaped, checked⟩ := Option.bind_eq_some_iff.mp checked
  obtain ⟨path, validated, checked⟩ := Option.bind_eq_some_iff.mp checked
  obtain ⟨_, new, checked⟩ := Option.bind_eq_some_iff.mp checked
  obtain ⟨name, -, checked⟩ := Option.bind_eq_some_iff.mp checked
  obtain ⟨_, -, checked⟩ := Option.bind_eq_some_iff.mp checked
  obtain ⟨size, sized, checked⟩ := Option.bind_eq_some_iff.mp checked
  obtain ⟨digest, digested, checked⟩ := Option.bind_eq_some_iff.mp checked
  obtain ⟨_, -, checked⟩ := Option.bind_eq_some_iff.mp checked
  obtain ⟨inode, opened, checked⟩ := Option.bind_eq_some_iff.mp checked
  obtain ⟨_, single, checked⟩ := Option.bind_eq_some_iff.mp checked
  obtain ⟨_, recorded, checked⟩ := Option.bind_eq_some_iff.mp checked
  rw [Option.guard_eq_some'] at new single recorded
  obtain ⟨declared, inodes⟩ := checkKind_seen checked
  refine ⟨(path, inode), ⟨fields, shaped, validated, opened, ?_, ?_⟩, new, single, declared, inodes⟩
  · rw [sized, recorded.1]
  · rw [digested, recorded.2]

theorem foldlM_lists {members : List Json} (checked :
      members.foldlM (toolkit.checkMember tree) seen = some next)
    (paths : seen.declared.Nodup) (inodes : seen.inodes.Nodup) :
    ∃ files, List.Forall₂ (toolkit.Lists tree) members files ∧
      next.declared = seen.declared ++ files.map Prod.fst ∧
      next.inodes = seen.inodes ++ files.map Prod.snd ∧ next.declared.Nodup ∧
      next.inodes.Nodup := by
  induction members generalizing seen with
  | nil =>
    cases checked
    exact ⟨[], .nil, by simp, by simp, paths, inodes⟩
  | cons member members hypothesis =>
    rw [foldlM_cons] at checked
    obtain ⟨middle, first, rest⟩ := Option.bind_eq_some_iff.mp checked
    obtain ⟨file, lists, new, single, declared, taken⟩ := checkMember_lists first
    have paths' : middle.declared.Nodup := by
      rw [declared]
      exact nodup_append.mpr ⟨paths, nodup_singleton _, fun path member other same equal =>
        new (mem_singleton.mp same ▸ equal ▸ member)⟩
    have inodes' : middle.inodes.Nodup := by
      rw [taken]
      exact nodup_append.mpr ⟨inodes, nodup_singleton _, fun inode member other same equal =>
        single (mem_singleton.mp same ▸ equal ▸ member)⟩
    obtain ⟨files, all, declared', taken', nodup, nodup'⟩ := hypothesis rest paths' inodes'
    refine ⟨file :: files, .cons lists all, ?_, ?_, nodup, nodup'⟩
    · rw [declared', declared, map_cons, append_assoc, singleton_append]
    · rw [taken', taken, map_cons, append_assoc, singleton_append]

theorem files?_eq {files : List String} (found : tree.files? = some files) :
    (∀ node ∈ tree.nodes, node.2 ≠ .link ∧ node.2 ≠ .special) ∧
      files = (tree.nodes.filter fun node => node.2 ≠ .directory).map Prod.fst := by
  unfold Tree.files? at found
  split at found
  · cases found
  · rename_i clean
    cases found
    refine ⟨fun node member => ⟨fun same => clean ?_, fun same => clean ?_⟩, rfl⟩
    · exact any_eq_true.mpr ⟨node, member, by simp [same]⟩
    · exact any_eq_true.mpr ⟨node, member, by simp [same]⟩

theorem closedSet_iff {declared : List String} (closed : closedSet tree declared = true) :
    (∀ node ∈ tree.nodes, ∃ inode, node.2 = .file inode) ∧
      ∀ path, path ∈ tree.nodes.map Prod.fst ↔ path = manifestName ∨ path ∈ declared := by
  unfold closedSet at closed
  rw [Bool.and_eq_true, decide_eq_true_iff] at closed
  obtain ⟨files, found, same⟩ := (Option.any_eq_true _ _).mp closed.1
  obtain ⟨clean, rfl⟩ := files?_eq found
  have regular : ∀ node ∈ tree.nodes, ∃ inode, node.2 = .file inode := by
    intro node member
    cases kind : node.2 with
    | file inode => exact ⟨inode, rfl⟩
    | directory =>
      have inside : node.1 ∈ tree.directories :=
        mem_map_of_mem (mem_filter.mpr ⟨member, by simp [kind]⟩)
      rw [closed.2] at inside
      cases inside
    | link => exact absurd kind (clean node member).1
    | special => exact absurd kind (clean node member).2
  have every : (tree.nodes.filter fun node => node.2 ≠ .directory) = tree.nodes := by
    refine filter_eq_self.mpr fun node member => ?_
    obtain ⟨inode, kind⟩ := regular node member
    simp [kind]
  rw [every] at same
  unfold sameNames at same
  simp only [Bool.and_eq_true, all_eq_true, decide_eq_true_iff] at same
  refine ⟨regular, fun path => ⟨fun member => mem_cons.mp (same.1 path member), fun member =>
    same.2 path (mem_cons.mpr member)⟩⟩

/-- What the verification of a tree has found. -/
structure Verified (toolkit : Toolkit Key Content) (key : Key) (tree : Tree Content)
    (manifest : List (String × Json)) (files : List (String × ℕ)) : Prop where
  read : toolkit.readManifest tree = some manifest
  authentic : toolkit.authentic key manifest = true
  consists : toolkit.Consists tree manifest files

theorem verifySnapshot_verified {key : Key} {verified : VerifiedSnapshot}
    (accepted : toolkit.verifySnapshot key tree = some verified) :
    ∃ files, toolkit.Verified key tree verified.manifest files := by
  unfold verifySnapshot at accepted
  obtain ⟨manifest, read, accepted⟩ := Option.bind_eq_some_iff.mp accepted
  obtain ⟨_, authentic, accepted⟩ := Option.bind_eq_some_iff.mp accepted
  obtain ⟨_, -, accepted⟩ := Option.bind_eq_some_iff.mp accepted
  obtain ⟨_, -, accepted⟩ := Option.bind_eq_some_iff.mp accepted
  obtain ⟨seen, looped, accepted⟩ := Option.bind_eq_some_iff.mp accepted
  obtain ⟨_, closed, accepted⟩ := Option.bind_eq_some_iff.mp accepted
  obtain ⟨groupId, -, accepted⟩ := Option.bind_eq_some_iff.mp accepted
  obtain ⟨sources, -, accepted⟩ := Option.bind_eq_some_iff.mp accepted
  obtain ⟨_, -, accepted⟩ := Option.bind_eq_some_iff.mp accepted
  cases accepted
  rw [Option.guard_eq_some'] at authentic closed
  obtain ⟨files, lists, declared, taken, paths, inodes⟩ :=
    foldlM_lists looped nodup_nil nodup_nil
  rw [nil_append] at declared taken
  obtain ⟨regular, all⟩ := closedSet_iff closed
  refine ⟨files, read, authentic, lists, declared ▸ paths, taken ▸ inodes, ?_, regular,
    declared ▸ all⟩
  intro member
  obtain ⟨file, inside, named⟩ := mem_map.mp member
  obtain ⟨_, -, fields, -, validated, -⟩ := forall₂_right lists inside
  exact validatedMemberPath_ne validated named

end Toolkit

end DispatcherSdk.Snapshots
