/-
This file models the content codec, the encoder and the decoder of `content.py`, and proves
that it reads back what it wrote.

A value is turned into typed nodes, and a node whose value is large is stored in a table of
objects under the digest of its text. What a typed node stands for is said without the decoder:
a node either spells a value out at its own level or refers to an object that does. The stack of
the interpreter is taken to be large enough for the depth limits.
-/

import DispatcherSdk.Content.JsonText
import DispatcherSdk.Orchestrator.Reducer

namespace DispatcherSdk.Content

open Library Checked ExecutionKernel Orchestrator

/-! ### Objects and limits -/

/-- `_DIGEST_RE`: sixty-four hexadecimal digits. -/
def isDigest (text : String) : Bool :=
  text.length == 64 && text.toList.all fun digit =>
    ('0' ≤ digit && digit ≤ '9') || ('a' ≤ digit && digit ≤ 'f')

/-- The arithmetic of the interpreter and the digests of texts. -/
structure Codec where
  arithmetic : FloatArithmetic
  /-- `_object_digest`: SHA-256 of the text behind the digest domain, in hexadecimal. -/
  objectDigest : Json.Text → String
  hexadecimal : ∀ text, isDigest (objectDigest text) = true

/-- A row of `sdk_content_objects`. -/
structure ContentObject where
  digest : String
  encoded : Json.Text
  logicalBytes : ℕ
  deriving DecidableEq

/-- `sdk_content_objects`. -/
abbrev ContentObjects := Table ContentObject.digest

/-- A text of a column that holds values of the codec. A text of the codec starts with
`sdk-content-v1:`, which no JSON text does. -/
inductive Stored where
  | content (root : Json.Text)
  | legacy (text : Json.Text)

/-- The length of `CONTENT_PREFIX`. -/
def contentPrefixBytes : ℕ := 15

def defaultThreshold : ℕ := 64 * 1024

/-- `max_logical_bytes`, `max_encoded_bytes` and `max_depth` of a call. -/
structure Limits where
  maxLogicalBytes : ℕ
  maxEncodedBytes : ℕ
  maxDepth : ℕ

/-- `MAX_LOGICAL_BYTES`, `MAX_ENCODED_BYTES` and `MAX_DEPTH`. -/
def defaultLimits : Limits := ⟨128 * 1024 * 1024, 256 * 1024 * 1024, 100⟩

/-- `_positive_integer` of each limit. -/
def Limits.checkPositive (limits : Limits) : Except SdkError Unit := do
  check (0 < limits.maxLogicalBytes) (.value "max_logical_bytes must be a positive integer")
  check (0 < limits.maxEncodedBytes) (.value "max_encoded_bytes must be a positive integer")
  check (0 < limits.maxDepth) (.value "max_depth must be a positive integer")

def encodedLimit (maximum requested : ℕ) : ℕ :=
  min requested (max 4096 (maximum * 128 + 1024))

def Limits.encoded (limits : Limits) : ℕ :=
  encodedLimit limits.maxLogicalBytes limits.maxEncodedBytes

namespace Codec

variable (codec : Codec)

/-- `len(text.encode("utf-8"))`. -/
def size (text : Json.Text) : ℕ := Json.textBytes codec.arithmetic text

def storedSize : Stored → ℕ
  | .content root => contentPrefixBytes + codec.size root
  | .legacy text => codec.size text

/-! ### The encoder -/

/-- `self.objects`: the objects made so far, in the order in which they were made. -/
abbrev Objects := List ContentObject

def scalarNode (tag : String) (value : Json) : List Json := [.string tag, value]

/-- `["ref", digest, logical_bytes]`. -/
def refNode (digest : String) (logicalBytes : ℕ) : List Json :=
  [.string "ref", .string digest, .ofNat logicalBytes]

/-- `self.objects[digest] = record`, unless another record has the digest. -/
def remember (objects : Objects) (object : ContentObject) : Except SdkError Objects :=
  match objects.find? fun known => known.digest = object.digest with
  | none => .ok (objects ++ [object])
  | some existing => do
    check (existing = object) (.contentIntegrity "content digest collision")
    pure objects

/-- The end of `build`: a large node is stored and replaced by a reference, except at the deepest
level. -/
def place (threshold : ℕ) (limits : Limits) (depth : ℕ) (node : List Json) (logicalBytes : ℕ)
    (objects : Objects) : Except SdkError ((List Json × ℕ) × Objects) := do
  check (logicalBytes ≤ limits.maxLogicalBytes)
    (.value s!"JSON value is {logicalBytes} bytes; maximum is {limits.maxLogicalBytes}")
  if threshold ≤ logicalBytes ∧ depth < limits.maxDepth then
    let encoded := (Json.array node).encode
    check (codec.size encoded ≤ limits.encoded)
      (.value s!"encoded content exceeds maximum size {limits.encoded} bytes")
    let digest := codec.objectDigest encoded
    let objects ← remember objects ⟨digest, encoded, logicalBytes⟩
    pure ((refNode digest logicalBytes, logicalBytes), objects)
  else pure ((node, logicalBytes), objects)

mutual

/-- `_Encoder.build`, with `_list` and `_dict`. -/
def build (threshold : ℕ) (limits : Limits) (value : Json) (depth : ℕ) (objects : Objects) :
    Except SdkError ((List Json × ℕ) × Objects) := do
  check (depth ≤ limits.maxDepth) (.value s!"JSON value exceeds maximum depth {limits.maxDepth}")
  match value with
  | .null => codec.place threshold limits depth [.string "null"] 4 objects
  | .bool value =>
    codec.place threshold limits depth (scalarNode "bool" (.bool value)) (if value then 4 else 5)
      objects
  | .int value =>
    codec.place threshold limits depth (scalarNode "int" (.int value)) (codec.size [.int value])
      objects
  | .float value =>
    codec.place threshold limits depth (scalarNode "float" (.float value))
      (codec.size [.float value]) objects
  | .negativeZero =>
    codec.place threshold limits depth (scalarNode "float" .negativeZero)
      (codec.size [.negativeZero]) objects
  | .string text =>
    codec.place threshold limits depth (scalarNode "string" (.string text))
      (codec.size [.string text]) objects
  | .array items =>
    let ((children, logicalBytes), objects) ←
      buildItems threshold limits items (depth + 1) 0 2 objects
    codec.place threshold limits depth (scalarNode "list" (.array children)) logicalBytes objects
  | .object fields =>
    let ((entries, logicalBytes), objects) ←
      buildFields threshold limits fields (depth + 1) 0 2 objects
    codec.place threshold limits depth (scalarNode "dict" (.array entries)) logicalBytes objects

/-- The loop of `_list`. A comma is counted for every item but the first. -/
def buildItems (threshold : ℕ) (limits : Limits) (items : List Json) (depth comma total : ℕ)
    (objects : Objects) : Except SdkError ((List Json × ℕ) × Objects) :=
  match items with
  | [] => pure (([], total), objects)
  | item :: rest => do
    let ((child, childBytes), objects) ← build threshold limits item depth objects
    let total := total + childBytes + comma
    check (total ≤ limits.maxLogicalBytes)
      (.value s!"JSON value exceeds maximum size {limits.maxLogicalBytes} bytes")
    let ((children, last), objects) ← buildItems threshold limits rest depth 1 total objects
    pure ((.array child :: children, last), objects)

/-- The loop of `_dict`. -/
def buildFields (threshold : ℕ) (limits : Limits) (fields : List (String × Json))
    (depth comma total : ℕ) (objects : Objects) : Except SdkError ((List Json × ℕ) × Objects) :=
  match fields with
  | [] => pure (([], total), objects)
  | (name, value) :: rest => do
    let ((child, childBytes), objects) ← build threshold limits value depth objects
    let total := total + (codec.size [.string name] + 1 + childBytes) + comma
    check (total ≤ limits.maxLogicalBytes)
      (.value s!"JSON value exceeds maximum size {limits.maxLogicalBytes} bytes")
    let ((entries, last), objects) ← buildFields threshold limits rest depth 1 total objects
    pure ((.array [.string name, .array child] :: entries, last), objects)

end

def insertObjects (table : ContentObjects) (objects : Objects) : Except SdkError ContentObjects :=
  objects.foldlM (fun table object =>
    match table.find? object.digest with
    | none => .ok (table.put object)
    | some row => do
      check (row = object) (.contentIntegrity
        s!"existing content object {object.digest} does not match its digest")
      pure table) table

/-- `encode_value` up to the insertion of the objects: the root and the objects it needs. -/
def encodeRoot (value : Json) (threshold : ℕ) (limits : Limits) :
    Except SdkError (Stored × Objects) := do
  check (0 < threshold) (.value "threshold must be a positive integer")
  limits.checkPositive
  let ((root, _), objects) ← codec.build threshold limits value.sorted 0 []
  let rootEncoded := (Json.array root).encode
  check (contentPrefixBytes + codec.size rootEncoded ≤ limits.encoded)
    (.value s!"encoded content exceeds maximum size {limits.encoded} bytes")
  pure (.content rootEncoded, objects)

def encodeValue (table : ContentObjects) (value : Json) (threshold : ℕ) (limits : Limits) :
    Except SdkError (Stored × ContentObjects) := do
  let (stored, objects) ← codec.encodeRoot value threshold limits
  let table ← insertObjects table objects
  pure (stored, table)

/-! ### The decoder -/

/-- `self.verified`, and what is left of the read budget if there is one. -/
structure Progress where
  verified : List (String × List Json × ℕ)
  budget : Option ℕ

def Progress.consume (progress : Progress) (bytes : ℕ) : Except SdkError Progress :=
  match progress.budget with
  | none => .ok progress
  | some remaining => do
    check (bytes ≤ remaining)
      (.contentSizeLimit "content exceeds maximum cumulative encoded read budget")
    pure { progress with budget := some (remaining - bytes) }

def parse (limits : Limits) (encoded : Json.Text) (label : String) :
    Except SdkError (List Json) := do
  check (codec.size encoded ≤ limits.encoded) (.contentSizeLimit
    s!"{label} exceeds maximum encoded size {limits.encoded} bytes")
  let node ← present (Json.loads encoded)
    (.contentIntegrity s!"{label} is not valid encoded content")
  check (node.encode = encoded) (.contentIntegrity s!"{label} is not canonically encoded")
  match node with
  | .array items => pure items
  | _ => .error (.contentIntegrity s!"{label} has an invalid typed node")

def checkBound (limits : Limits) (logicalBytes : ℕ) : Except SdkError Unit :=
  check (logicalBytes ≤ limits.maxLogicalBytes) (.contentSizeLimit
    s!"content is {logicalBytes} bytes; maximum is {limits.maxLogicalBytes}")

def referenceFields (node : List Json) : Except SdkError (String × ℕ) :=
  match node with
  | [_, .string digest, .int logicalBytes] => do
    check (isDigest digest = true ∧ 0 ≤ logicalBytes)
      (.contentIntegrity "encoded content has an invalid reference")
    pure (digest, logicalBytes.toNat)
  | _ => .error (.contentIntegrity "encoded content has an invalid reference")

/-- The loop of `measure` over the children of a list. -/
def measureItems (limits : Limits) (measure : List Json → Except SdkError ℕ) :
    ℕ → ℕ → List Json → Except SdkError ℕ
  | _, total, [] => .ok total
  | comma, total, .array child :: rest => do
    let childBytes ← measure child
    checkBound limits (total + childBytes + comma)
    measureItems limits measure 1 (total + childBytes + comma) rest
  | _, _, _ :: _ => .error (.contentIntegrity "list contains an invalid typed node")

/-- The loop of `measure` over the entries of a dictionary, whose keys have to ascend. -/
def measureEntries (limits : Limits) (measure : List Json → Except SdkError ℕ) :
    Option String → ℕ → ℕ → List Json → Except SdkError ℕ
  | _, _, total, [] => .ok total
  | previous, comma, total, .array [.string name, .array child] :: rest => do
    check (∀ earlier ∈ previous, earlier < name)
      (.contentIntegrity "object keys are duplicated or not canonically ordered")
    let childBytes ← measure child
    let total := total + (codec.size [.string name] + 1 + childBytes) + comma
    checkBound limits total
    measureEntries limits measure (some name) 1 total rest
  | _, _, _, _ :: _ => .error (.contentIntegrity "object contains an invalid entry")

/-- `_Decoder.measure`. The first argument is the number of levels still allowed,
`max_depth + 1 - depth`. -/
def measure (limits : Limits) : ℕ → List Json → Except SdkError ℕ
  | 0, _ => .error (.contentIntegrity s!"encoded content exceeds maximum depth {limits.maxDepth}")
  | levels + 1, node =>
    match node with
    | [.string "null"] => .ok 4
    | [.string "bool", .bool value] => .ok (if value then 4 else 5)
    | [.string "int", .int value] => .ok (codec.size [.int value])
    | [.string "float", .float value] => .ok (codec.size [.float value])
    | [.string "float", .negativeZero] => .ok (codec.size [.negativeZero])
    | [.string "string", .string text] => .ok (codec.size [.string text])
    | .string "ref" :: _ => (referenceFields node).map Prod.snd
    | [.string "list", .array children] => measureItems limits (measure limits levels) 0 2 children
    | [.string "dict", .array entries] =>
      codec.measureEntries limits (measure limits levels) none 0 2 entries
    | .string tag :: _ =>
      .error (.contentIntegrity s!"encoded content has invalid node tag '{tag}'")
    | _ => .error (.contentIntegrity "encoded content has an invalid typed node")

/-- How a decoder decodes the children of a node one after another. -/
def decodeItems (decode : List Json → Progress → Except SdkError (Json × Progress)) :
    List Json → Progress → Except SdkError (List Json × Progress)
  | .array child :: rest, progress => do
    let (value, progress) ← decode child progress
    let (values, progress) ← decodeItems decode rest progress
    pure (value :: values, progress)
  | _, progress => pure ([], progress)

def decodeEntries (decode : List Json → Progress → Except SdkError (Json × Progress)) :
    List Json → Progress → Except SdkError (List (String × Json) × Progress)
  | .array [.string name, .array child] :: rest, progress => do
    let (value, progress) ← decode child progress
    let (fields, progress) ← decodeEntries decode rest progress
    pure ((name, value) :: fields, progress)
  | _, progress => pure ([], progress)

/-- `_Decoder.decode`, which leaves references to `load`. What `measure` accepts has one of the
shapes below. -/
def decodeNode (limits : Limits)
    (load : String → ℕ → ℕ → Progress → Except SdkError (Json × Progress)) :
    ℕ → List Json → Progress → Except SdkError (Json × Progress)
  | 0, _, _ => .error
    (.contentIntegrity s!"encoded content exceeds maximum depth {limits.maxDepth}")
  | levels + 1, node, progress => do
    let logicalBytes ← codec.measure limits (levels + 1) node
    checkBound limits logicalBytes
    match node with
    | [.string "null"] => pure (.null, progress)
    | .string "ref" :: _ =>
      let (digest, expected) ← referenceFields node
      load digest expected (levels + 1) progress
    | [.string "list", .array children] =>
      let (items, progress) ← decodeItems (decodeNode limits load levels) children progress
      pure (.array items, progress)
    | [.string "dict", .array entries] =>
      let (fields, progress) ← decodeEntries (decodeNode limits load levels) entries progress
      pure (.object (Json.dictionary fields), progress)
    | [.string _, value] => pure (value, progress)
    | _ => .error (.contentIntegrity "encoded content has an invalid typed node")

/-- The node of an object: the one verified before, or the one stored under the digest once it has
been verified. -/
def verify (table : ContentObjects) (limits : Limits) (digest : String) (expected levels : ℕ)
    (progress : Progress) : Except SdkError (List Json × Progress) :=
  match progress.verified.find? fun known => known.1 = digest with
  | some (_, node, logicalBytes) => do
    check (logicalBytes = expected) (.contentIntegrity
      s!"content object {digest} logical length does not match reference")
    pure (node, progress)
  | none => do
    let row ← present (table.find? digest)
      (.contentIntegrity s!"content object {digest} is missing")
    check (row.logicalBytes = expected) (.contentIntegrity
      s!"content object {digest} logical length does not match reference")
    check (codec.size row.encoded ≤ limits.encoded) (.contentSizeLimit
      s!"content object {digest} exceeds maximum encoded size {limits.encoded} bytes")
    let progress ← progress.consume (codec.size row.encoded)
    let node ← codec.parse limits row.encoded s!"content object {digest}"
    check (codec.objectDigest row.encoded = digest)
      (.contentIntegrity s!"content object {digest} failed digest verification")
    let measured ← codec.measure limits levels node
    check (measured = row.logicalBytes) (.contentIntegrity
      s!"content object {digest} logical length metadata is invalid")
    pure (node, { progress with verified := (digest, node, measured) :: progress.verified })

/-- `_Decoder._load`. The first argument is the number of references that may still be followed,
`max_depth - len(self.active)`. -/
def load (table : ContentObjects) (limits : Limits) (chain : ℕ) (active : List String)
    (digest : String) (expected levels : ℕ) (progress : Progress) :
    Except SdkError (Json × Progress) := do
  checkBound limits expected
  check (digest ∉ active) (.contentIntegrity s!"content object cycle detected at {digest}")
  match chain with
  | 0 => .error (.contentIntegrity
      s!"content reference chain exceeds maximum depth {limits.maxDepth}")
  | chain + 1 =>
    let (node, progress) ← codec.verify table limits digest expected levels progress
    codec.decodeNode limits (load table limits chain (digest :: active)) levels node progress

mutual

def legacyMeasure (limits : Limits) (value : Json) (depth : ℕ) : Except SdkError ℕ := do
  check (depth ≤ limits.maxDepth)
    (.contentIntegrity s!"legacy JSON exceeds maximum depth {limits.maxDepth}")
  let bytes ← match value with
    | .null => pure 4
    | .bool value => pure (if value then 4 else 5)
    | .int value => pure (codec.size [.int value])
    | .float value => pure (codec.size [.float value])
    | .negativeZero => pure (codec.size [.negativeZero])
    | .string text => pure (codec.size [.string text])
    | .array items => legacyItems limits items (depth + 1) 0 2
    | .object fields => legacyFields limits fields (depth + 1) 0 2
  checkBound limits bytes
  pure bytes

/-- The loop over the items of a list, which stops once the bound is exceeded. -/
def legacyItems (limits : Limits) (items : List Json) (depth comma total : ℕ) : Except SdkError ℕ :=
  match items with
  | [] => pure total
  | item :: rest => do
    let childBytes ← legacyMeasure limits item depth
    let total := total + childBytes + comma
    if limits.maxLogicalBytes < total then pure total
    else legacyItems limits rest depth 1 total

/-- The loop over the entries of a dictionary. -/
def legacyFields (limits : Limits) (fields : List (String × Json)) (depth comma total : ℕ) :
    Except SdkError ℕ :=
  match fields with
  | [] => pure total
  | (name, value) :: rest => do
    let childBytes ← legacyMeasure limits value depth
    let total := total + (codec.size [.string name] + 1) + childBytes + comma
    if limits.maxLogicalBytes < total then pure total
    else legacyFields limits rest depth 1 total

end

def decodeValue (table : ContentObjects) (stored : Stored) (limits : Limits)
    (budget : Option ℕ) : Except SdkError (Json × Option ℕ) := do
  limits.checkPositive
  let progress ← Progress.consume ⟨[], budget⟩ (codec.storedSize stored)
  match stored with
  | .legacy text =>
    check (codec.size text ≤ limits.encoded) (.contentSizeLimit
      s!"legacy encoded content exceeds maximum encoded size {limits.encoded} bytes")
    let value ← present (Json.loads text) (.contentIntegrity "legacy value is not valid JSON")
    let _ ← codec.legacyMeasure limits value.sorted 0
    pure (value, progress.budget)
  | .content rootEncoded =>
    check (codec.storedSize stored ≤ limits.encoded) (.contentSizeLimit
      s!"encoded root exceeds maximum encoded size {limits.encoded} bytes")
    let root ← codec.parse limits rootEncoded "encoded root"
    let logicalBytes ← codec.measure limits (limits.maxDepth + 1) root
    checkBound limits logicalBytes
    let (value, progress) ← codec.decodeNode limits
      (codec.load table limits limits.maxDepth []) (limits.maxDepth + 1) root progress
    pure (value, progress.budget)

end Codec

open List

namespace Codec

variable (codec : Codec)

/-! ### What a node stands for -/

/-- The node and the size of a value that has no parts. -/
def leaf : Json → Option (List Json × ℕ)
  | .null => some ([.string "null"], 4)
  | .bool value => some (scalarNode "bool" (.bool value), if value then 4 else 5)
  | .int value => some (scalarNode "int" (.int value), codec.size [.int value])
  | .float value => some (scalarNode "float" (.float value), codec.size [.float value])
  | .negativeZero => some (scalarNode "float" .negativeZero, codec.size [.negativeZero])
  | .string text => some (scalarNode "string" (.string text), codec.size [.string text])
  | .array _ | .object _ => none

/-- A node of a given size stands at a given depth, itself or by a reference to an object that
is known. -/
def Placed (limits : Limits) (known : Objects) (inline : List Json → ℕ → Prop) (depth : ℕ)
    (node : List Json) (bytes : ℕ) : Prop :=
  depth ≤ limits.maxDepth ∧ bytes ≤ limits.maxLogicalBytes ∧
    (inline node bytes ∨ ∃ inner, inline inner bytes ∧ depth < limits.maxDepth ∧
      codec.size (Json.array inner).encode ≤ limits.encoded ∧
      ⟨codec.objectDigest (Json.array inner).encode, (Json.array inner).encode, bytes⟩ ∈ known ∧
      node = refNode (codec.objectDigest (Json.array inner).encode) bytes)

mutual

/-- A node spells a value out at a given depth, and the value has a given size. -/
def Inline (limits : Limits) (known : Objects) : Json → ℕ → List Json → ℕ → Prop
  | .array items, depth, node, bytes =>
    ∃ children, node = scalarNode "list" (.array children) ∧
      InlineItems limits known items (depth + 1) 0 2 children bytes
  | .object fields, depth, node, bytes =>
    ∃ entries, node = scalarNode "dict" (.array entries) ∧
      InlineFields limits known fields (depth + 1) 0 2 entries bytes
  | .null, _, node, bytes => codec.leaf .null = some (node, bytes)
  | .bool value, _, node, bytes => codec.leaf (.bool value) = some (node, bytes)
  | .int value, _, node, bytes => codec.leaf (.int value) = some (node, bytes)
  | .float value, _, node, bytes => codec.leaf (.float value) = some (node, bytes)
  | .negativeZero, _, node, bytes => codec.leaf .negativeZero = some (node, bytes)
  | .string text, _, node, bytes => codec.leaf (.string text) = some (node, bytes)

/-- Nodes stand for the items of a list, of which a part is counted already. -/
def InlineItems (limits : Limits) (known : Objects) :
    List Json → ℕ → ℕ → ℕ → List Json → ℕ → Prop
  | [], _, _, total, children, last => children = [] ∧ last = total
  | item :: rest, depth, comma, total, children, last =>
    ∃ child bytes others, children = .array child :: others ∧
      codec.Placed limits known (Inline limits known item depth) depth child bytes ∧
      total + bytes + comma ≤ limits.maxLogicalBytes ∧
      InlineItems limits known rest depth 1 (total + bytes + comma) others last

/-- Nodes stand for the entries of a dictionary, of which a part is counted already. -/
def InlineFields (limits : Limits) (known : Objects) :
    List (String × Json) → ℕ → ℕ → ℕ → List Json → ℕ → Prop
  | [], _, _, total, entries, last => entries = [] ∧ last = total
  | (name, value) :: rest, depth, comma, total, entries, last =>
    ∃ child bytes others, entries = .array [.string name, .array child] :: others ∧
      codec.Placed limits known (Inline limits known value depth) depth child bytes ∧
      total + (codec.size [.string name] + 1 + bytes) + comma ≤ limits.maxLogicalBytes ∧
      InlineFields limits known rest depth 1
        (total + (codec.size [.string name] + 1 + bytes) + comma) others last

end

variable {codec} {limits : Limits}

/-- A node stands for a value at a given depth. -/
abbrev Denotes (codec : Codec) (limits : Limits) (known : Objects) (value : Json) (depth : ℕ)
    (node : List Json) (bytes : ℕ) : Prop :=
  codec.Placed limits known (codec.Inline limits known value depth) depth node bytes

section

variable {known more : Objects} (within : known ⊆ more)

include within

theorem Placed.mono {inline wider : List Json → ℕ → Prop}
    (weaker : ∀ {node bytes}, inline node bytes → wider node bytes) {depth : ℕ} {node : List Json}
    {bytes : ℕ} (placed : codec.Placed limits known inline depth node bytes) :
    codec.Placed limits more wider depth node bytes := by
  obtain ⟨deep, small, inside | ⟨inner, inside, above, short, member, same⟩⟩ := placed
  · exact ⟨deep, small, .inl (weaker inside)⟩
  · exact ⟨deep, small, .inr ⟨inner, weaker inside, above, short, within member, same⟩⟩

theorem InlineItems.mono {items : List Json}
    (each : ∀ item ∈ items, ∀ {depth : ℕ} {node : List Json} {bytes : ℕ},
      codec.Inline limits known item depth node bytes →
        codec.Inline limits more item depth node bytes) {depth comma total : ℕ}
    {children : List Json} {last : ℕ}
    (inside : codec.InlineItems limits known items depth comma total children last) :
    codec.InlineItems limits more items depth comma total children last := by
  induction items generalizing comma total children with
  | nil => exact inside
  | cons item rest hypothesis =>
    obtain ⟨child, bytes, others, same, placed, small, later⟩ := inside
    exact ⟨child, bytes, others, same, placed.mono within (each item mem_cons_self), small,
      hypothesis (fun item member => each item (mem_cons_of_mem _ member)) later⟩

theorem InlineFields.mono {fields : List (String × Json)}
    (each : ∀ field ∈ fields, ∀ {depth : ℕ} {node : List Json} {bytes : ℕ},
      codec.Inline limits known field.2 depth node bytes →
        codec.Inline limits more field.2 depth node bytes) {depth comma total : ℕ}
    {entries : List Json} {last : ℕ}
    (inside : codec.InlineFields limits known fields depth comma total entries last) :
    codec.InlineFields limits more fields depth comma total entries last := by
  induction fields generalizing comma total entries with
  | nil => exact inside
  | cons field rest hypothesis =>
    obtain ⟨child, bytes, others, same, placed, small, later⟩ := inside
    exact ⟨child, bytes, others, same, placed.mono within (each field mem_cons_self), small,
      hypothesis (fun field member => each field (mem_cons_of_mem _ member)) later⟩

theorem Inline.mono {value : Json} {depth : ℕ} {node : List Json} {bytes : ℕ}
    (inline : codec.Inline limits known value depth node bytes) :
    codec.Inline limits more value depth node bytes := by
  induction value generalizing depth node bytes with
  | null | bool | int | float | negativeZero | string => exact inline
  | array items hypothesis =>
    obtain ⟨children, same, inside⟩ := inline
    exact ⟨children, same, inside.mono within hypothesis⟩
  | object fields hypothesis =>
    obtain ⟨entries, same, inside⟩ := inline
    exact ⟨entries, same, inside.mono within hypothesis⟩

end

/-! ### The encoder makes nodes that stand for its value -/

variable {objects : Objects}

variable {more : Objects} {object : ContentObject} {active : List String} {inner : List Json}
  {progress : Progress} {after : ContentObjects} {stored : Stored}

theorem remember_mem
    (made : remember objects object = .ok more) : objects ⊆ more ∧ object ∈ more := by
  unfold remember at made
  cases found : objects.find? fun known => known.digest = object.digest with
  | none =>
    rw [found] at made
    cases made
    exact ⟨subset_append_left _ _, mem_append_right _ mem_cons_self⟩
  | some existing =>
    rw [found] at made
    simp only [passes_iff] at made
    obtain ⟨rfl, same⟩ := made
    cases same
    exact ⟨fun _ member => member, mem_of_find?_eq_some found⟩

variable {threshold bytes : ℕ}

theorem place_placed {depth size : ℕ} {node placedNode : List Json}
    (inline : List Json → ℕ → Prop) (deep : depth ≤ limits.maxDepth) (inside : inline node bytes)
    (made : codec.place threshold limits depth node bytes objects =
      .ok ((placedNode, size), more)) :
    objects ⊆ more ∧ codec.Placed limits more inline depth placedNode size := by
  unfold place at made
  simp only [passes_iff] at made
  obtain ⟨small, made⟩ := made
  split at made
  · rename_i large
    simp only [passes_iff] at made
    obtain ⟨short, stored, remembered, same⟩ := made
    cases same
    obtain ⟨within, member⟩ := remember_mem remembered
    exact ⟨within, deep, small, .inr ⟨node, inside, large.2, short, member, rfl⟩⟩
  · cases made
    exact ⟨fun _ member => member, deep, small, .inl inside⟩

/-- `build` keeps the objects that are there and makes a node for its value. -/
def Builds (codec : Codec) (threshold : ℕ) (limits : Limits) (value : Json) : Prop :=
  ∀ {depth : ℕ} {objects more : Objects} {node : List Json} {bytes : ℕ},
    codec.build threshold limits value depth objects = .ok ((node, bytes), more) →
      objects ⊆ more ∧ Denotes codec limits more value depth node bytes

variable {items : List Json}

variable {children : List Json} {depth comma total last : ℕ}

theorem buildItems_inline (each : ∀ item ∈ items, Builds codec threshold limits item)
    (made : codec.buildItems threshold limits items depth comma total objects =
      .ok ((children, last), more)) :
    objects ⊆ more ∧ codec.InlineItems limits more items depth comma total children last := by
  induction items generalizing comma total objects children with
  | nil =>
    cases made
    exact ⟨fun _ member => member, rfl, rfl⟩
  | cons item rest hypothesis =>
    unfold buildItems at made
    simp only [passes_iff] at made
    obtain ⟨⟨⟨child, bytes⟩, middle⟩, first, small, ⟨⟨others, end_⟩, more⟩, later, same⟩ := made
    cases same
    obtain ⟨within, placed⟩ := each item mem_cons_self first
    obtain ⟨beyond, inside⟩ := hypothesis
      (fun item member => each item (mem_cons_of_mem _ member)) later
    exact ⟨List.Subset.trans within beyond, child, bytes, others, rfl,
      placed.mono beyond (Inline.mono beyond), small, inside⟩

variable {fields : List (String × Json)}

variable {entries : List Json}

theorem buildFields_inline (each : ∀ field ∈ fields, Builds codec threshold limits field.2)
    (made : codec.buildFields threshold limits fields depth comma total objects =
      .ok ((entries, last), more)) :
    objects ⊆ more ∧ codec.InlineFields limits more fields depth comma total entries last := by
  induction fields generalizing comma total objects entries with
  | nil =>
    cases made
    exact ⟨fun _ member => member, rfl, rfl⟩
  | cons field rest hypothesis =>
    unfold buildFields at made
    simp only [passes_iff] at made
    obtain ⟨⟨⟨child, bytes⟩, middle⟩, first, small, ⟨⟨others, end_⟩, more⟩, later, same⟩ := made
    cases same
    obtain ⟨within, placed⟩ := each field mem_cons_self first
    obtain ⟨beyond, inside⟩ := hypothesis
      (fun field member => each field (mem_cons_of_mem _ member)) later
    exact ⟨List.Subset.trans within beyond, child, bytes, others, rfl,
      placed.mono beyond (Inline.mono beyond), small, inside⟩

/-- Whatever `build` answers stands for its value. -/
theorem build_denotes (threshold : ℕ) (value : Json) : Builds codec threshold limits value := by
  induction value with
  | null | bool | int | float | negativeZero | string =>
    intro depth objects more node bytes built
    unfold build at built
    simp only [passes_iff] at built
    exact place_placed _ built.1 rfl built.2
  | array items hypothesis =>
    intro depth objects more node bytes built
    unfold build at built
    simp only [passes_iff] at built
    obtain ⟨deep, ⟨⟨children, total⟩, middle⟩, made, placed⟩ := built
    obtain ⟨within, inside⟩ := buildItems_inline hypothesis made
    obtain ⟨beyond, denotes⟩ := place_placed (codec.Inline limits middle (.array items) depth) deep
      ⟨children, rfl, inside⟩ placed
    exact ⟨List.Subset.trans within beyond, denotes.mono (fun _ member => member) (Inline.mono beyond)⟩
  | object fields hypothesis =>
    intro depth objects more node bytes built
    unfold build at built
    simp only [passes_iff] at built
    obtain ⟨deep, ⟨⟨entries, total⟩, middle⟩, made, placed⟩ := built
    obtain ⟨within, inside⟩ := buildFields_inline hypothesis made
    obtain ⟨beyond, denotes⟩ := place_placed (codec.Inline limits middle (.object fields) depth) deep
      ⟨entries, rfl, inside⟩ placed
    exact ⟨List.Subset.trans within beyond, denotes.mono (fun _ member => member) (Inline.mono beyond)⟩

/-! ### The decoder measures what the encoder counted -/

variable {value : Json}

variable {node : List Json}

theorem leaf_measure (same : codec.leaf value = some (node, bytes)) (levels : ℕ) :
    codec.measure limits (levels + 1) node = .ok bytes := by
  cases value <;> cases same <;> rfl

theorem referenceFields_refNode (codec : Codec) (text : Json.Text) (bytes : ℕ) :
    referenceFields (refNode (codec.objectDigest text) bytes) =
      .ok (codec.objectDigest text, bytes) := by
  have valid : isDigest (codec.objectDigest text) = true ∧ (0 : ℤ) ≤ (bytes : ℤ) :=
    ⟨codec.hexadecimal text, Int.natCast_nonneg bytes⟩
  unfold refNode Json.ofNat referenceFields
  simp only [check, if_pos valid]
  rfl

theorem refNode_measure (text : Json.Text) (bytes levels : ℕ) :
    codec.measure limits (levels + 1) (refNode (codec.objectDigest text) bytes) = .ok bytes := by
  show (referenceFields (refNode (codec.objectDigest text) bytes)).map Prod.snd = _
  rw [referenceFields_refNode]
  rfl

theorem checkBound_ok (small : bytes ≤ limits.maxLogicalBytes) : checkBound limits bytes = .ok () :=
  check_eq_ok.mpr small

/-- A node that spells a value out is measured to have the size of the value. -/
def Measures (codec : Codec) (limits : Limits) (known : Objects) (value : Json) : Prop :=
  ∀ {depth levels : ℕ} {node : List Json} {bytes : ℕ},
    codec.Inline limits known value depth node bytes → depth + levels = limits.maxDepth →
      codec.measure limits (levels + 1) node = .ok bytes

variable {known : Objects}

variable {levels : ℕ}

theorem Denotes.measure (measures : Measures codec limits known value)
    (denotes : Denotes codec limits known value depth node bytes)
    (level : depth + levels = limits.maxDepth + 1) :
    codec.measure limits levels node = .ok bytes := by
  obtain ⟨deep, -, inside | ⟨inner, -, -, -, -, rfl⟩⟩ := denotes
  · obtain ⟨levels, rfl⟩ := Nat.exists_eq_add_one_of_ne_zero (by omega : levels ≠ 0)
    exact measures inside (by omega)
  · obtain ⟨levels, rfl⟩ := Nat.exists_eq_add_one_of_ne_zero (by omega : levels ≠ 0)
    exact refNode_measure _ _ _

theorem InlineItems.measure (each : ∀ item ∈ items, Measures codec limits known item)
    (level : depth + levels = limits.maxDepth + 1)
    (inside : codec.InlineItems limits known items depth comma total children last) :
    measureItems limits (codec.measure limits levels) comma total children = .ok last := by
  induction items generalizing comma total children with
  | nil =>
    obtain ⟨rfl, rfl⟩ := inside
    rfl
  | cons item rest hypothesis =>
    obtain ⟨child, bytes, others, rfl, denotes, small, later⟩ := inside
    have measured := Denotes.measure (each item mem_cons_self) denotes level
    rw [measureItems, measured]
    show (checkBound limits (total + bytes + comma) >>= fun _ => _) = _
    rw [checkBound_ok small]
    exact hypothesis (fun item member => each item (mem_cons_of_mem _ member)) later

theorem InlineFields.measure (each : ∀ field ∈ fields, Measures codec limits known field.2)
    (names : (fields.map Prod.fst).Pairwise (· < ·)) {previous : Option String}
    (above : ∀ earlier ∈ previous, ∀ field ∈ fields, earlier < field.1)
    (level : depth + levels = limits.maxDepth + 1)
    (inside : codec.InlineFields limits known fields depth comma total entries last) :
    codec.measureEntries limits (codec.measure limits levels) previous comma total entries =
      .ok last := by
  induction fields generalizing previous comma total entries with
  | nil =>
    obtain ⟨rfl, rfl⟩ := inside
    rfl
  | cons field rest hypothesis =>
    obtain ⟨name, value⟩ := field
    obtain ⟨child, bytes, others, rfl, denotes, small, later⟩ := inside
    rw [map_cons, pairwise_cons] at names
    have ascending : ∀ earlier ∈ previous, earlier < name :=
      fun earlier member => above earlier member (name, value) mem_cons_self
    have measured := Denotes.measure (each (name, value) mem_cons_self) denotes level
    have rest := hypothesis
      (fun field member => each field (mem_cons_of_mem _ member)) names.2
      (fun earlier member field inside => by
        rw [← Option.mem_some_iff.mp member]
        exact names.1 field.1 (mem_map_of_mem inside)) later
    unfold measureEntries
    simp only [check, if_pos ascending, measured]
    show (checkBound limits _ >>= fun _ => _) = _
    rw [checkBound_ok small]
    exact rest

theorem inline_measures (ordered : value.Ordered) : Measures codec limits known value := by
  induction value with
  | null | bool | int | float | negativeZero | string =>
    intro depth levels node bytes inside level
    exact leaf_measure inside levels
  | array items hypothesis =>
    cases ordered with
    | array each =>
      intro depth levels node bytes inside level
      obtain ⟨children, rfl, inside⟩ := inside
      exact inside.measure (fun item member => hypothesis item member (each item member))
        (by omega)
  | object fields hypothesis =>
    cases ordered with
    | object names each =>
      intro depth levels node bytes inside level
      obtain ⟨entries, rfl, inside⟩ := inside
      exact inside.measure (fun field member => hypothesis field member (each field member))
        names (fun earlier member => absurd member (Option.not_mem_none earlier)) (by omega)

/-! ### Nodes hold no dictionaries -/

theorem scalarNode_ordered {tag : String} (ordered : value.Ordered) :
    (Json.array (scalarNode tag value)).Ordered := by
  refine .array fun item member => ?_
  rcases mem_cons.mp member with rfl | member
  · exact .string tag
  · rw [mem_singleton.mp member]
    exact ordered

/-- A node that spells a value out holds no dictionary. -/
def Spells (codec : Codec) (limits : Limits) (known : Objects) (value : Json) : Prop :=
  ∀ {depth : ℕ} {node : List Json} {bytes : ℕ},
    codec.Inline limits known value depth node bytes → (Json.array node).Ordered

theorem Denotes.ordered (spells : Spells codec limits known value)
    (denotes : Denotes codec limits known value depth node bytes) : (Json.array node).Ordered := by
  obtain ⟨-, -, inside | ⟨inner, -, -, -, -, rfl⟩⟩ := denotes
  · exact spells inside
  · refine .array fun item member => ?_
    simp only [refNode, mem_cons, not_mem_nil, or_false] at member
    rcases member with rfl | rfl | rfl
    · exact .string _
    · exact .string _
    · exact .int _

theorem InlineItems.ordered (each : ∀ item ∈ items, Spells codec limits known item)
    (inside : codec.InlineItems limits known items depth comma total children last) :
    ∀ child ∈ children, child.Ordered := by
  induction items generalizing comma total children with
  | nil =>
    obtain ⟨rfl, -⟩ := inside
    exact fun child none => nomatch none
  | cons item rest hypothesis =>
    obtain ⟨child, bytes, others, rfl, denotes, -, later⟩ := inside
    rw [forall_mem_cons]
    exact ⟨Denotes.ordered (each item mem_cons_self) denotes,
      hypothesis (fun item member => each item (mem_cons_of_mem _ member)) later⟩

theorem InlineFields.ordered (each : ∀ field ∈ fields, Spells codec limits known field.2)
    (inside : codec.InlineFields limits known fields depth comma total entries last) :
    ∀ entry ∈ entries, entry.Ordered := by
  induction fields generalizing comma total entries with
  | nil =>
    obtain ⟨rfl, -⟩ := inside
    exact fun child none => nomatch none
  | cons field rest hypothesis =>
    obtain ⟨child, bytes, others, rfl, denotes, -, later⟩ := inside
    rw [forall_mem_cons]
    refine ⟨?_,
      hypothesis (fun field member => each field (mem_cons_of_mem _ member)) later⟩
    exact scalarNode_ordered (Denotes.ordered (each field mem_cons_self) denotes)

theorem inline_ordered (known : Objects) (value : Json) : Spells codec limits known value := by
  induction value with
  | null =>
    intro depth node bytes inside
    cases inside
    exact .array fun item member => mem_singleton.mp member ▸ .string _
  | bool value =>
    intro depth node bytes inside
    cases inside
    exact scalarNode_ordered (.bool value)
  | int value =>
    intro depth node bytes inside
    cases inside
    exact scalarNode_ordered (.int value)
  | float value =>
    intro depth node bytes inside
    cases inside
    exact scalarNode_ordered (.float value)
  | negativeZero =>
    intro depth node bytes inside
    cases inside
    exact scalarNode_ordered .negativeZero
  | string text =>
    intro depth node bytes inside
    cases inside
    exact scalarNode_ordered (.string text)
  | array items hypothesis =>
    intro depth node bytes inside
    obtain ⟨children, rfl, inside⟩ := inside
    exact scalarNode_ordered (.array (inside.ordered hypothesis))
  | object fields hypothesis =>
    intro depth node bytes inside
    obtain ⟨entries, rfl, inside⟩ := inside
    exact scalarNode_ordered (.array (inside.ordered hypothesis))

theorem loads_node (ordered : (Json.array node).Ordered) :
    Json.loads (Json.array node).encode = some (.array node) := by
  rw [Json.loads_encode ordered.distinct, ordered.sorted_eq]

/-- `parse` accepts the text of a node unless it is too long. -/
theorem parse_node (ordered : (Json.array node).Ordered) (label : String)
    (short : codec.size (Json.array node).encode ≤ limits.encoded) :
    codec.parse limits (Json.array node).encode label = .ok node := by
  unfold parse
  simp only [passes_iff]
  exact ⟨short, .array node, loads_node ordered, rfl, rfl⟩

/-- `parse` answers nothing but the node a text was written from. -/
theorem parse_eq {found : List Json} (ordered : (Json.array node).Ordered) {label : String}
    (parsed : codec.parse limits (Json.array node).encode label = .ok found) : found = node := by
  unfold parse at parsed
  simp only [passes_iff,
    loads_node ordered] at parsed
  obtain ⟨-, value, same, -, answered⟩ := parsed
  cases same
  cases answered
  rfl

/-! ### The decoder reads back what the encoder wrote -/

variable {table : ContentObjects}

/-- There is no read budget, and every node verified so far is that of a stored object. -/
structure Trusted (table : ContentObjects) (progress : Progress) : Prop where
  unlimited : progress.budget = none
  stored : ∀ known ∈ progress.verified, ∃ row, table.find? known.1 = some row ∧
    Json.loads row.encoded = some (.array known.2.1) ∧ row.logicalBytes = known.2.2

/-- The references that were followed: at most one for each level, and each leads to an object of at
least the given size. -/
structure Chain (table : ContentObjects) (limits : Limits) (chain : ℕ) (active : List String)
    (depth bytes : ℕ) : Prop where
  left : chain + active.length = limits.maxDepth
  short : active.length ≤ depth
  larger : ∀ digest ∈ active, ∀ row, table.find? digest = some row → bytes ≤ row.logicalBytes

theorem Chain.mono {chain deeper smaller : ℕ}
    (followed : Chain table limits chain active depth bytes) (deep : depth ≤ deeper)
    (small : smaller ≤ bytes) : Chain table limits chain active deeper smaller :=
  ⟨followed.left, followed.short.trans deep, fun digest member row found =>
    small.trans (followed.larger digest member row found)⟩

/-- A decoder answers a value and still trusts what it has verified. -/
def Answers {Answer : Type} (table : ContentObjects)
    (outcome : Except SdkError (Answer × Progress)) (answer : Answer) : Prop :=
  ∃ progress, outcome = .ok (answer, progress) ∧ Trusted table progress

/-- The decoder reads a value from every node that spells it out. -/
def Decodes (codec : Codec) (table : ContentObjects) (limits : Limits) (known : Objects)
    (value : Json) : Prop :=
  ∀ {depth levels chain : ℕ} {active : List String} {node : List Json} {bytes : ℕ}
    {progress : Progress}, codec.Inline limits known value depth node bytes →
    depth + levels = limits.maxDepth → bytes ≤ limits.maxLogicalBytes →
    Chain table limits chain active (depth + 1) bytes → Trusted table progress →
      Answers table (codec.decodeNode limits (codec.load table limits chain active) (levels + 1)
        node progress) value

theorem verify_answers (ordered : (Json.array inner).Ordered)
    (short : codec.size (Json.array inner).encode ≤ limits.encoded)
    (held : table.find? (codec.objectDigest (Json.array inner).encode) =
      some ⟨codec.objectDigest (Json.array inner).encode, (Json.array inner).encode, bytes⟩)
    (measured : codec.measure limits levels inner = .ok bytes) (trusted : Trusted table progress) :
    Answers table (codec.verify table limits (codec.objectDigest (Json.array inner).encode) bytes
      levels progress) inner := by
  unfold verify
  cases found : progress.verified.find? fun known =>
      known.1 = codec.objectDigest (Json.array inner).encode with
  | some known =>
    obtain ⟨row, stored, text, size⟩ := trusted.stored known (mem_of_find?_eq_some found)
    have same : known.1 = codec.objectDigest (Json.array inner).encode := by
      simpa using List.find?_some found
    rw [same, held] at stored
    cases stored
    rw [loads_node ordered] at text
    obtain ⟨digest, node, logicalBytes⟩ := known
    cases text
    cases size
    refine ⟨progress, ?_, trusted⟩
    simp only [check, if_true]
    rfl
  | none =>
    have free : progress.consume (codec.size (Json.array inner).encode) = .ok progress := by
      unfold Progress.consume
      rw [trusted.unlimited]
    refine ⟨{ progress with verified :=
      (codec.objectDigest (Json.array inner).encode, inner, bytes) :: progress.verified }, ?_,
      trusted.unlimited, ?_⟩
    · simp only [passes_iff]
      exact ⟨_, held, rfl, short, progress, free, inner, parse_node ordered _ short, rfl, bytes,
        measured, rfl, rfl⟩
    · rw [forall_mem_cons]
      exact ⟨⟨_, held, loads_node ordered, rfl⟩, trusted.stored⟩

section Shapes

variable {load : String → ℕ → ℕ → Progress → Except SdkError (Json × Progress)}

theorem decodeNode_ref (text : Json.Text) (bytes levels : ℕ) (progress : Progress) :
    codec.decodeNode limits load (levels + 1) (refNode (codec.objectDigest text) bytes) progress =
      (do
        checkBound limits bytes
        load (codec.objectDigest text) bytes (levels + 1) progress) := by
  show (codec.measure limits (levels + 1) (refNode (codec.objectDigest text) bytes) >>= fun bytes =>
    checkBound limits bytes >>= fun _ => referenceFields (refNode (codec.objectDigest text) _) >>=
      fun fields => load fields.1 fields.2 (levels + 1) progress) = _
  rw [refNode_measure, referenceFields_refNode]
  rfl

theorem decodeNode_leaf
    (same : codec.leaf value = some (node, bytes)) (levels : ℕ) (progress : Progress) :
    codec.decodeNode limits load (levels + 1) node progress =
      (do
        checkBound limits bytes
        pure (value, progress)) := by
  cases value <;> cases same <;> rfl

theorem decodeNode_list (children : List Json) (levels : ℕ) (progress : Progress) :
    codec.decodeNode limits load (levels + 1) (scalarNode "list" (.array children)) progress =
      (do
        let bytes ← codec.measure limits (levels + 1) (scalarNode "list" (.array children))
        checkBound limits bytes
        let (items, progress) ←
          decodeItems (codec.decodeNode limits load levels) children progress
        pure (.array items, progress)) := rfl

theorem decodeNode_dict (entries : List Json) (levels : ℕ) (progress : Progress) :
    codec.decodeNode limits load (levels + 1) (scalarNode "dict" (.array entries)) progress =
      (do
        let bytes ← codec.measure limits (levels + 1) (scalarNode "dict" (.array entries))
        checkBound limits bytes
        let (fields, progress) ←
          decodeEntries (codec.decodeNode limits load levels) entries progress
        pure (.object (Json.dictionary fields), progress)) := rfl

end Shapes

/-- A reference is followed to the object, and the object is decoded at the depth of the
reference. -/
theorem Denotes.decode (held : ∀ object ∈ known, object ∈ table)
    (ordered : value.Ordered) (decodes : Decodes codec table limits known value) {chain : ℕ}
    (denotes : Denotes codec limits known value depth node bytes)
    (level : depth + levels = limits.maxDepth + 1)
    (followed : Chain table limits chain active depth (bytes + 1))
    (trusted : Trusted table progress) :
    Answers table (codec.decodeNode limits (codec.load table limits chain active) levels node
      progress) value := by
  obtain ⟨deep, small, inside | ⟨inner, inside, above, short, member, rfl⟩⟩ := denotes
  · obtain ⟨levels, rfl⟩ := Nat.exists_eq_add_one_of_ne_zero (by omega : levels ≠ 0)
    exact decodes inside (by omega) small (followed.mono (Nat.le_succ _) (Nat.le_succ _)) trusted
  · obtain ⟨levels, rfl⟩ := Nat.exists_eq_add_one_of_ne_zero (by omega : levels ≠ 0)
    have stored := Table.find?_key (held _ member)
    have new : codec.objectDigest (Json.array inner).encode ∉ active := fun old =>
      absurd (followed.larger _ old _ stored) (Nat.not_succ_le_self bytes)
    have left := followed.left
    have shorter := followed.short
    obtain ⟨chain, rfl⟩ := Nat.exists_eq_add_one_of_ne_zero (by omega : chain ≠ 0)
    obtain ⟨verified, answered, stillTrusted⟩ := verify_answers (inline_ordered known value inside)
      short stored (inline_measures ordered inside (by omega : depth + levels = limits.maxDepth))
      trusted
    have further : Chain table limits chain
        (codec.objectDigest (Json.array inner).encode :: active) (depth + 1) bytes := by
      refine ⟨by rw [length_cons]; omega, by rw [length_cons]; omega, ?_⟩
      rw [forall_mem_cons]
      refine ⟨fun row found => ?_, (followed.mono le_rfl (Nat.le_succ bytes)).larger⟩
      rw [stored] at found
      cases found
      exact le_rfl
    obtain ⟨last, decoded, lastTrusted⟩ := decodes inside
      (by omega : depth + levels = limits.maxDepth) small further stillTrusted
    refine ⟨last, ?_, lastTrusted⟩
    rw [decodeNode_ref, checkBound_ok small]
    show codec.load table limits (chain + 1) active _ bytes (levels + 1) progress = _
    unfold load
    simp only [checkBound_ok small, check, if_pos new]
    show (codec.verify table limits _ bytes (levels + 1) progress >>= fun found =>
      codec.decodeNode limits _ (levels + 1) found.1 found.2) = _
    rw [answered]
    exact decoded

theorem InlineItems.total_le
    (inside : codec.InlineItems limits known items depth comma total children last) :
    total ≤ last := by
  induction items generalizing comma total children with
  | nil => exact inside.2.ge
  | cons item rest hypothesis =>
    obtain ⟨child, bytes, others, -, -, -, later⟩ := inside
    have later := hypothesis later
    omega

theorem InlineFields.total_le
    (inside : codec.InlineFields limits known fields depth comma total entries last) :
    total ≤ last := by
  induction fields generalizing comma total entries with
  | nil => exact inside.2.ge
  | cons field rest hypothesis =>
    obtain ⟨child, bytes, others, -, -, -, later⟩ := inside
    have later := hypothesis later
    omega

section

variable (held : ∀ object ∈ known, object ∈ table)

include held

variable {chain : ℕ}

theorem InlineItems.decode (ordered : ∀ item ∈ items, item.Ordered)
    (each : ∀ item ∈ items, Decodes codec table limits known item)
    (level : depth + levels = limits.maxDepth + 1) (counted : 0 < total)
    (followed : Chain table limits chain active depth last) (trusted : Trusted table progress)
    (inside : codec.InlineItems limits known items depth comma total children last) :
    Answers table (decodeItems
      (codec.decodeNode limits (codec.load table limits chain active) levels) children progress)
      items := by
  induction items generalizing comma total children progress with
  | nil =>
    obtain ⟨rfl, rfl⟩ := inside
    exact ⟨progress, rfl, trusted⟩
  | cons item rest hypothesis =>
    obtain ⟨child, bytes, others, rfl, denotes, small, later⟩ := inside
    have within := later.total_le
    obtain ⟨middle, decoded, middleTrusted⟩ := Denotes.decode held (ordered item mem_cons_self)
      (each item mem_cons_self) denotes level (followed.mono le_rfl (by omega)) trusted
    obtain ⟨end_, others, endTrusted⟩ := hypothesis
      (fun item member => ordered item (mem_cons_of_mem _ member))
      (fun item member => each item (mem_cons_of_mem _ member)) (by omega) middleTrusted later
    refine ⟨end_, ?_, endTrusted⟩
    rw [decodeItems, decoded]
    show (decodeItems _ _ middle >>= fun found => _) = _
    rw [others]
    rfl

theorem InlineFields.decode (ordered : ∀ field ∈ fields, field.2.Ordered)
    (each : ∀ field ∈ fields, Decodes codec table limits known field.2)
    (level : depth + levels = limits.maxDepth + 1) (counted : 0 < total)
    (followed : Chain table limits chain active depth last) (trusted : Trusted table progress)
    (inside : codec.InlineFields limits known fields depth comma total entries last) :
    Answers table (decodeEntries
      (codec.decodeNode limits (codec.load table limits chain active) levels) entries progress)
      fields := by
  induction fields generalizing comma total entries progress with
  | nil =>
    obtain ⟨rfl, rfl⟩ := inside
    exact ⟨progress, rfl, trusted⟩
  | cons field rest hypothesis =>
    obtain ⟨child, bytes, others, rfl, denotes, small, later⟩ := inside
    have within := later.total_le
    obtain ⟨middle, decoded, middleTrusted⟩ := Denotes.decode held
      (ordered field mem_cons_self) (each field mem_cons_self) denotes level
      (followed.mono le_rfl (by omega)) trusted
    obtain ⟨end_, others, endTrusted⟩ := hypothesis
      (fun field member => ordered field (mem_cons_of_mem _ member))
      (fun field member => each field (mem_cons_of_mem _ member)) (by omega) middleTrusted
      later
    refine ⟨end_, ?_, endTrusted⟩
    rw [decodeEntries, decoded]
    show (decodeEntries _ _ middle >>= fun found => _) = _
    rw [others]
    rfl

theorem inline_decodes (ordered : value.Ordered) : Decodes codec table limits known value := by
  induction value with
  | null | bool | int | float | negativeZero | string =>
    intro depth levels chain active node bytes progress inside level small followed trusted
    refine ⟨progress, ?_, trusted⟩
    rw [decodeNode_leaf inside, checkBound_ok small]
    rfl
  | array items hypothesis =>
    intro depth levels chain active node bytes progress inside level small followed trusted
    have measured := inline_measures ordered inside level
    cases ordered with
    | array each =>
      obtain ⟨children, rfl, inside⟩ := inside
      obtain ⟨last, decoded, lastTrusted⟩ := inside.decode held each
        (fun item member => hypothesis item member (each item member))
        (by omega : depth + 1 + levels = limits.maxDepth + 1) Nat.zero_lt_two followed trusted
      refine ⟨last, ?_, lastTrusted⟩
      rw [decodeNode_list, measured]
      show (checkBound limits bytes >>= fun _ => _) = _
      rw [checkBound_ok small]
      show (decodeItems _ children progress >>= fun found => _) = _
      rw [decoded]
      rfl
  | object fields hypothesis =>
    intro depth levels chain active node bytes progress inside level small followed trusted
    have measured := inline_measures ordered inside level
    cases ordered with
    | object names each =>
      obtain ⟨entries, rfl, inside⟩ := inside
      obtain ⟨last, decoded, lastTrusted⟩ := inside.decode held each
        (fun field member => hypothesis field member (each field member))
        (by omega : depth + 1 + levels = limits.maxDepth + 1) Nat.zero_lt_two followed trusted
      refine ⟨last, ?_, lastTrusted⟩
      rw [decodeNode_dict, measured]
      show (checkBound limits bytes >>= fun _ => _) = _
      rw [checkBound_ok small]
      show (decodeEntries _ entries progress >>= fun found => _) = _
      rw [decoded]
      show Except.ok (Json.object (Json.dictionary fields), last) = _
      rw [Json.dictionary_eq (names.imp String.ne_of_lt)]

end

/-! ### The decoder answers nothing else -/

variable {other : Limits}

/-- Every node verified so far was read from a stored text that has the digest. -/
def Genuine (codec : Codec) (table : ContentObjects) (progress : Progress) : Prop :=
  ∀ known ∈ progress.verified, ∃ row ∈ table, codec.objectDigest row.encoded = known.1 ∧
    Json.loads row.encoded = some (.array known.2.1)

/-- No stored text has the digest of a known object unless it is the text of that object. -/
def Apart (codec : Codec) (table : ContentObjects) (known : Objects) : Prop :=
  ∀ object ∈ known, ∀ row ∈ table, codec.objectDigest row.encoded = object.digest →
    row.encoded = object.encoded

def Only {Answer : Type} (codec : Codec) (table : ContentObjects)
    (outcome : Except SdkError (Answer × Progress)) (answer : Answer) : Prop :=
  ∀ {found : Answer} {progress : Progress}, outcome = .ok (found, progress) →
    found = answer ∧ Genuine codec table progress

/-- The decoder reads at most one value from a node that spells it out, whatever is stored and
whatever its limits are. -/
def Determines (codec : Codec) (table : ContentObjects) (limits other : Limits) (known : Objects)
    (value : Json) : Prop :=
  ∀ {depth levels chain : ℕ} {active : List String} {node : List Json} {bytes : ℕ}
    {progress : Progress}, codec.Inline limits known value depth node bytes →
    Genuine codec table progress →
      Only codec table (codec.decodeNode other (codec.load table other chain active) levels node
        progress) value

theorem Progress.consume_verified {next : Progress}
    (consumed : progress.consume bytes = .ok next) : next.verified = progress.verified := by
  unfold Progress.consume at consumed
  cases limit : progress.budget with
  | none =>
    rw [limit] at consumed
    cases consumed
    rfl
  | some remaining =>
    rw [limit] at consumed
    simp only [passes_iff] at consumed
    cases consumed.2
    rfl

theorem verify_only {expected : ℕ} (ordered : (Json.array inner).Ordered)
    (apart : ∀ row ∈ table, codec.objectDigest row.encoded =
      codec.objectDigest (Json.array inner).encode → row.encoded = (Json.array inner).encode)
    (genuine : Genuine codec table progress) :
    Only codec table (codec.verify table other (codec.objectDigest (Json.array inner).encode)
      expected levels progress) inner := by
  intro found last verified
  unfold verify at verified
  cases seen : progress.verified.find? fun known =>
      known.1 = codec.objectDigest (Json.array inner).encode with
  | some known =>
    obtain ⟨row, stored, digest, text⟩ := genuine known (mem_of_find?_eq_some seen)
    have same : known.1 = codec.objectDigest (Json.array inner).encode := by
      simpa using List.find?_some seen
    rw [apart row stored (digest.trans same), loads_node ordered] at text
    rw [seen] at verified
    obtain ⟨name, node, logicalBytes⟩ := known
    simp only [passes_iff] at verified
    cases text
    cases verified.2
    exact ⟨rfl, genuine⟩
  | none =>
    rw [seen] at verified
    simp only [passes_iff] at verified
    obtain ⟨row, stored, -, -, next, consumed, node, parsed, digest, measured, -, -, answered⟩ :=
      verified
    cases answered
    have member := Table.mem_of_find? stored
    have text := apart row member digest
    rw [text] at parsed
    refine ⟨parse_eq ordered parsed, ?_⟩
    unfold Genuine
    rw [forall_mem_cons, Progress.consume_verified consumed]
    refine ⟨⟨row, member, digest, ?_⟩, genuine⟩
    rw [text, loads_node ordered, parse_eq ordered parsed]

section

variable (apart : Apart codec table known)

include apart

variable {chain : ℕ}

theorem Denotes.only (determines : Determines codec table limits other known value)
    (denotes : Denotes codec limits known value depth node bytes)
    (genuine : Genuine codec table progress) :
    Only codec table (codec.decodeNode other (codec.load table other chain active) levels node
      progress) value := by
  obtain ⟨-, -, inside | ⟨inner, inside, -, -, member, rfl⟩⟩ := denotes
  · exact determines inside genuine
  · intro found last decoded
    cases levels with
    | zero => exact nomatch decoded
    | succ levels =>
      rw [decodeNode_ref] at decoded
      simp only [checkBound, bind_eq_ok, check_eq_ok, exists_const] at decoded
      obtain ⟨-, loaded⟩ := decoded
      unfold load at loaded
      simp only [checkBound, bind_eq_ok, check_eq_ok, exists_const] at loaded
      obtain ⟨-, -, loaded⟩ := loaded
      cases chain with
      | zero => exact nomatch loaded
      | succ chain =>
        simp only [bind_eq_ok] at loaded
        obtain ⟨⟨verified, middle⟩, answered, decoded⟩ := loaded
        obtain ⟨rfl, middleGenuine⟩ := verify_only (inline_ordered known value inside)
          (apart _ member) genuine answered
        exact determines inside middleGenuine decoded

theorem InlineItems.only (each : ∀ item ∈ items, Determines codec table limits other known item)
    (genuine : Genuine codec table progress)
    (inside : codec.InlineItems limits known items depth comma total children last) :
    Only codec table (decodeItems
      (codec.decodeNode other (codec.load table other chain active) levels) children progress)
      items := by
  induction items generalizing comma total children progress with
  | nil =>
    obtain ⟨rfl, -⟩ := inside
    intro found last decoded
    cases decoded
    exact ⟨rfl, genuine⟩
  | cons item rest hypothesis =>
    obtain ⟨child, bytes, others, rfl, denotes, -, later⟩ := inside
    intro found last decoded
    rw [decodeItems] at decoded
    simp only [bind_eq_ok] at decoded
    obtain ⟨⟨first, middle⟩, here, ⟨values, end_⟩, after, answered⟩ := decoded
    cases answered
    obtain ⟨rfl, middleGenuine⟩ := Denotes.only apart (each item mem_cons_self) denotes genuine
      here
    obtain ⟨rfl, endGenuine⟩ := hypothesis
      (fun item member => each item (mem_cons_of_mem _ member)) middleGenuine later after
    exact ⟨rfl, endGenuine⟩

theorem InlineFields.only
    (each : ∀ field ∈ fields, Determines codec table limits other known field.2)
    (genuine : Genuine codec table progress)
    (inside : codec.InlineFields limits known fields depth comma total entries last) :
    Only codec table (decodeEntries
      (codec.decodeNode other (codec.load table other chain active) levels) entries progress)
      fields := by
  induction fields generalizing comma total entries progress with
  | nil =>
    obtain ⟨rfl, -⟩ := inside
    intro found last decoded
    cases decoded
    exact ⟨rfl, genuine⟩
  | cons field rest hypothesis =>
    obtain ⟨child, bytes, others, rfl, denotes, -, later⟩ := inside
    intro found last decoded
    rw [decodeEntries] at decoded
    simp only [bind_eq_ok] at decoded
    obtain ⟨⟨first, middle⟩, here, ⟨values, end_⟩, after, answered⟩ := decoded
    cases answered
    obtain ⟨rfl, middleGenuine⟩ := Denotes.only apart (each field mem_cons_self) denotes
      genuine here
    obtain ⟨rfl, endGenuine⟩ := hypothesis
      (fun field member => each field (mem_cons_of_mem _ member)) middleGenuine later after
    exact ⟨rfl, endGenuine⟩

theorem inline_determines (ordered : value.Ordered) :
    Determines codec table limits other known value := by
  induction value with
  | null | bool | int | float | negativeZero | string =>
    intro depth levels chain active node bytes progress inside genuine found last decoded
    cases levels with
    | zero => exact nomatch decoded
    | succ levels =>
      rw [decodeNode_leaf inside] at decoded
      simp only [checkBound, bind_eq_ok, check_eq_ok, exists_const] at decoded
      cases decoded.2
      exact ⟨rfl, genuine⟩
  | array items hypothesis =>
    intro depth levels chain active node bytes progress inside genuine found last decoded
    cases ordered with
    | array each =>
      cases levels with
      | zero => exact nomatch decoded
      | succ levels =>
        obtain ⟨children, rfl, inside⟩ := inside
        rw [decodeNode_list] at decoded
        simp only [bind_eq_ok] at decoded
        obtain ⟨-, -, -, -, ⟨values, end_⟩, after, answered⟩ := decoded
        cases answered
        obtain ⟨rfl, endGenuine⟩ := inside.only apart
          (fun item member => hypothesis item member (each item member)) genuine after
        exact ⟨rfl, endGenuine⟩
  | object fields hypothesis =>
    intro depth levels chain active node bytes progress inside genuine found last decoded
    cases ordered with
    | object names each =>
      cases levels with
      | zero => exact nomatch decoded
      | succ levels =>
        obtain ⟨entries, rfl, inside⟩ := inside
        rw [decodeNode_dict] at decoded
        simp only [bind_eq_ok] at decoded
        obtain ⟨-, -, -, -, ⟨values, end_⟩, after, answered⟩ := decoded
        cases answered
        obtain ⟨rfl, endGenuine⟩ := inside.only apart
          (fun field member => hypothesis field member (each field member)) genuine after
        rw [Json.dictionary_eq (names.imp String.ne_of_lt)]
        exact ⟨rfl, endGenuine⟩

end

/-! ### The round trip -/

theorem insertObject_keeps (inserted : (match table.find? object.digest with
      | none => .ok (table.put object)
      | some row => do
        check (row = object) (.contentIntegrity
          s!"existing content object {object.digest} does not match its digest")
        pure table : Except SdkError ContentObjects) = .ok after) :
    (∀ row ∈ table, row ∈ after) ∧ object ∈ after := by
  cases found : table.find? object.digest with
  | none =>
    rw [found] at inserted
    cases inserted
    exact ⟨fun row member => Table.mem_put_of_fresh table found member,
      Table.mem_put.mpr (.inl rfl)⟩
  | some existing =>
    rw [found] at inserted
    simp only [passes_iff] at inserted
    obtain ⟨rfl, same⟩ := inserted
    cases same
    exact ⟨fun _ member => member, Table.mem_of_find? found⟩

theorem insertObjects_keeps (inserted : insertObjects table objects = .ok after) :
    (∀ row ∈ table, row ∈ after) ∧ ∀ object ∈ objects, object ∈ after := by
  unfold insertObjects at inserted
  induction objects generalizing table with
  | nil =>
    cases inserted
    exact ⟨fun _ member => member, fun _ none => nomatch none⟩
  | cons object rest hypothesis =>
    rw [foldlM_cons, bind_eq_ok] at inserted
    obtain ⟨middle, first, others⟩ := inserted
    obtain ⟨within, here⟩ := insertObject_keeps first
    obtain ⟨beyond, later⟩ := hypothesis others
    rw [forall_mem_cons]
    exact ⟨fun row member => beyond row (within row member), beyond object here, later⟩

/-- One store comes from another by encoding a value into it. -/
def EncodesInto (codec : Codec) (table after : ContentObjects) : Prop :=
  ∃ value threshold limits stored,
    codec.encodeValue table value threshold limits = .ok (stored, after)

theorem encodeValue_eq_ok (encoded : codec.encodeValue table value threshold limits =
      .ok (stored, after)) :
    ∃ objects, codec.encodeRoot value threshold limits = .ok (stored, objects) ∧
      insertObjects table objects = .ok after := by
  unfold encodeValue at encoded
  simp only [bind_eq_ok] at encoded
  obtain ⟨⟨root, objects⟩, made, last, inserted, answered⟩ := encoded
  cases answered
  exact ⟨objects, made, inserted⟩

theorem later_keeps (later : Relation.ReflTransGen (EncodesInto codec) table after) :
    ∀ row ∈ table, row ∈ after := by
  induction later with
  | refl => exact fun _ member => member
  | tail before step hypothesis =>
    obtain ⟨value, threshold, limits, stored, encoded⟩ := step
    obtain ⟨objects, -, inserted⟩ := encodeValue_eq_ok encoded
    exact fun row member => (insertObjects_keeps inserted).1 row (hypothesis row member)

theorem encodeRoot_eq_ok
    (encoded : codec.encodeRoot value threshold limits = .ok (stored, objects)) :
    limits.checkPositive = .ok () ∧ ∃ root bytes,
      Denotes codec limits objects value.sorted 0 root bytes ∧
        stored = .content (Json.array root).encode ∧
        contentPrefixBytes + codec.size (Json.array root).encode ≤ limits.encoded := by
  unfold encodeRoot at encoded
  simp only [passes_iff] at encoded
  obtain ⟨-, ⟨⟩, positive, ⟨⟨root, bytes⟩, made⟩, built, short, answered⟩ := encoded
  cases answered
  exact ⟨positive, root, bytes, (build_denotes threshold value.sorted built).2, rfl, short⟩

section

variable {root : List Json} (ordered : value.Ordered)
  (denotes : Denotes codec limits known value 0 root bytes)

include ordered denotes

theorem decodeRoot (positive : limits.checkPositive = .ok ())
    (short : contentPrefixBytes + codec.size (Json.array root).encode ≤ limits.encoded)
    (held : ∀ object ∈ known, object ∈ table) :
    codec.decodeValue table (.content (Json.array root).encode) limits none =
      .ok (value, none) := by
  have level : 0 + (limits.maxDepth + 1) = limits.maxDepth + 1 := Nat.zero_add _
  have measured := Denotes.measure (inline_measures ordered) denotes level
  have top : Chain table limits limits.maxDepth [] 0 (bytes + 1) :=
    ⟨rfl, le_rfl, fun _ none => nomatch none⟩
  have fresh : Trusted table ⟨[], none⟩ := ⟨rfl, fun _ none => nomatch none⟩
  obtain ⟨last, decoded, trusted⟩ := Denotes.decode held ordered (inline_decodes held ordered)
    denotes level top fresh
  have node : codec.parse limits (Json.array root).encode "encoded root" = .ok root :=
    parse_node (Denotes.ordered (inline_ordered known value) denotes) "encoded root"
      ((Nat.le_add_left _ _).trans short)
  unfold decodeValue
  simp only [passes_iff]
  exact ⟨(), positive, ⟨[], none⟩, rfl, short, root, node, bytes, measured, (),
    checkBound_ok denotes.2.1, ⟨value, last⟩, decoded, by rw [trusted.unlimited]; rfl⟩

theorem decodeRoot_only (apart : Apart codec table known) {budget left : Option ℕ} {found : Json}
    (decoded : codec.decodeValue table (.content (Json.array root).encode) other budget =
      .ok (found, left)) : found = value := by
  unfold decodeValue at decoded
  simp only [passes_iff] at decoded
  obtain ⟨⟨⟩, -, progress, consumed, -, node, parsed, size, -, ⟨⟩, -, ⟨answer, last⟩, read, same⟩ :=
    decoded
  cases same
  rw [parse_eq (Denotes.ordered (inline_ordered known value) denotes) parsed] at read
  have genuine : Genuine codec table progress := by
    unfold Genuine
    rw [Progress.consume_verified consumed]
    exact fun _ none => nomatch none
  exact (Denotes.only apart (inline_determines apart ordered) denotes genuine read).1

end

end Codec

open Codec in
/-- What the encoder writes is read back as the value it was given, from every store that has its
objects; a store that has others in their place gives no other answer, provided that no stored text
shares its digest with another. -/
theorem content_round_trip (codec : Codec) {value : Json} (distinct : value.Distinct)
    {threshold : ℕ} {limits : Limits} {table after : ContentObjects} {stored : Stored}
    (encoded : codec.encodeValue table value threshold limits = .ok (stored, after)) :
    Json.Same value value.sorted ∧
    (∀ store, Relation.ReflTransGen (EncodesInto codec) after store →
      codec.decodeValue store stored limits none = .ok (value.sorted, none)) ∧
    ∃ objects, codec.encodeRoot value threshold limits = .ok (stored, objects) ∧
      (∀ store : ContentObjects, (∀ object ∈ objects, object ∈ store) →
        codec.decodeValue store stored limits none = .ok (value.sorted, none)) ∧
      ∀ (store : ContentObjects) (other : Limits) (budget left : Option ℕ) (found : Json),
        Apart codec store objects →
        codec.decodeValue store stored other budget = .ok (found, left) →
          found = value.sorted := by
  obtain ⟨objects, made, inserted⟩ := encodeValue_eq_ok encoded
  obtain ⟨positive, root, bytes, denotes, rfl, short⟩ := encodeRoot_eq_ok made
  have ordered := distinct.ordered
  have reads : ∀ store : ContentObjects, (∀ object ∈ objects, object ∈ store) →
      codec.decodeValue store (.content (Json.array root).encode) limits none =
        .ok (value.sorted, none) :=
    fun store held => decodeRoot ordered denotes positive short held
  refine ⟨distinct.same_sorted, fun store later => ?_, objects, made, reads, ?_⟩
  · exact reads store fun object member =>
      later_keeps later object ((insertObjects_keeps inserted).2 object member)
  · exact fun store other budget left found apart decoded =>
      decodeRoot_only ordered denotes apart decoded

/-! ### A value that is stored as three objects -/

/-- The digest of `["string","a"]`. -/
def sampleText : String := "488e1feb443a6a8786438f213a6ed20e262cf2d38f184f29f270f2ca56c1c823"

/-- The digest of `["bool",true]`. -/
def sampleFlag : String := "2b1d327e49aaba1202e5b02fa1622a825e495b007a2b30606b7b8db2ef0a03ec"

def sampleList : String := "c2e06717d79859dc57497e8044df56f2e0c368694c5635763bcd1112ef168b80"

def sampleListNode : Json :=
  .array [.string "list", .array [
    .array [.string "ref", .string sampleText, .int 3],
    .array [.string "ref", .string sampleFlag, .int 4],
    .array [.string "ref", .string sampleText, .int 3]]]

/-- The digests that SHA-256 gives the three texts; other texts are not encoded here. -/
def sampleDigest (text : Json.Text) : String :=
  if text = (Json.array [.string "string", .string "a"]).encode then sampleText
  else if text = (Json.array [.string "bool", .bool true]).encode then sampleFlag
  else if text = sampleListNode.encode then sampleList
  else "0000000000000000000000000000000000000000000000000000000000000000"

def sampleCodec : Codec where
  arithmetic := .exact
  objectDigest := sampleDigest
  hexadecimal text := by
    unfold sampleDigest
    split
    · decide +kernel
    · split
      · decide +kernel
      · split
        · decide +kernel
        · decide +kernel

def sampleValue : Json := .array [.string "a", .bool true, .string "a"]

theorem content_round_trip_sample : ∃ stored after,
    sampleCodec.encodeValue ∅ sampleValue 3 defaultLimits = .ok (stored, after) ∧
      after.rows.length = 3 ∧
      sampleCodec.decodeValue after stored defaultLimits none = .ok (sampleValue, none) := by
  have written : (sampleCodec.encodeValue ∅ sampleValue 3 defaultLimits).toOption.map
      (fun outcome => outcome.2.rows.length) = some 3 := by decide +kernel
  have distinct : sampleValue.Distinct := by
    refine .array fun item member => ?_
    simp only [mem_cons, not_mem_nil, or_false] at member
    rcases member with rfl | rfl | rfl
    · exact .string "a"
    · exact .bool true
    · exact .string "a"
  cases outcome : sampleCodec.encodeValue ∅ sampleValue 3 defaultLimits with
  | error failure =>
    rw [outcome] at written
    cases written
  | ok answer =>
    rw [outcome] at written
    exact ⟨answer.1, answer.2, rfl, Option.some.inj written,
      (content_round_trip sampleCodec distinct outcome).2.1 answer.2 .refl⟩

end DispatcherSdk.Content
