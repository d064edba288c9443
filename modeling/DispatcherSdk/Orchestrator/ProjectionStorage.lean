/-
This file models the storage for projection bytes that a host supplies, and proves that a
stream is read as it was appended.

A stream is created with its size and with terms that never change, and its pages are appended
in order until they fill it. Every call is a transaction of its own, by whatever process.
-/

import DispatcherSdk.ExecutionKernel.Contracts
import DispatcherSdk.Library.Attempt
import DispatcherSdk.Library.Paging
import DispatcherSdk.Library.Transition

namespace DispatcherSdk.Orchestrator

open Library Library.Checked Table List
open ExecutionKernel (Identifier Json)

/-! ### The tables -/

inductive ProjectionErrorKind where
  | value
  | storage

/-- `ValueError` or `ProjectionStorageError`. -/
structure ProjectionError where
  kind : ProjectionErrorKind
  message : String

namespace ProjectionError

def value (message : String) : ProjectionError := ⟨.value, message⟩
def storage (message : String) : ProjectionError := ⟨.storage, message⟩

end ProjectionError

def maxPageBytes : ℕ := 256 * 1024
def maxStreamBytes : ℕ := 64 * 1024 * 1024
def maxPages : ℕ := 1024
def maxReadPages : ℕ := 4

/-- A row of `projection_streams`. -/
structure ProjectionStream where
  streamId : Identifier
  binding : Json.Text
  totalBytes : ℕ
  nextSequence : ℕ
  storedBytes : ℕ
  complete : Bool

/-- A row of `projection_pages`. -/
structure ProjectionPage where
  streamId : Identifier
  sequence : ℕ
  data : List UInt8
  complete : Bool

def ProjectionPage.key (page : ProjectionPage) : Identifier × ℕ := (page.streamId, page.sequence)

/-- The tables, and the pages that were accepted, the last one at the end. -/
structure ProjectionStorage where
  /-- The row of `projection_meta`, which nothing can change. -/
  storeId : Identifier
  incarnation : Identifier
  streams : Table ProjectionStream.streamId
  pages : Table ProjectionPage.key
  accepted : List ProjectionPage

/-- A page of a stream as `read` returns it. -/
structure ReadPage where
  sequence : ℕ
  data : List UInt8
  complete : Bool

def ProjectionPage.read (page : ProjectionPage) : ReadPage :=
  ⟨page.sequence, page.data, page.complete⟩

/-- The answer of `read`. -/
structure ProjectionRead where
  storeId : Identifier
  incarnation : Identifier
  streamId : Identifier
  binding : Json.Text
  totalBytes : ℕ
  storedBytes : ℕ
  complete : Bool
  pages : List ReadPage
  cursor : ℤ
  hasMore : Bool

namespace ProjectionStorage

/-! ### Calls -/

mutual

/-- The greatest depth at which `validate` meets a value. -/
def bindingDepth : Json → ℕ
  | .array items => itemsDepth items
  | .object fields => fieldsDepth fields
  | _ => 0

def itemsDepth : List Json → ℕ
  | [] => 0
  | item :: rest => max (bindingDepth item + 1) (itemsDepth rest)

def fieldsDepth : List (String × Json) → ℕ
  | [] => 0
  | (_, value) :: rest => max (bindingDepth value + 1) (fieldsDepth rest)

end

/-- `_stream_id`. -/
def checkStreamId (streamId : Identifier) : Except ProjectionError Unit :=
  check (streamId.text.utf8ByteSize ≤ 4096) (.value "stream_id must be a bounded nonempty string")

/-- The terms of a stream, and the text of what is an object with a member. -/
def bindingText (bytes : Json.Text → ℕ) : Json → Except ProjectionError Json.Text
  | .object fields => do
    let refused := ProjectionError.value "host stream binding must be a nonempty object"
    check (fields ≠ []) refused
    check (bindingDepth (.object fields) ≤ 32) (.value "stream binding is too deep")
    let encoded := (Json.object fields).encode
    check (bytes encoded ≤ 65536) (.value "stream binding exceeds its byte limit")
    return encoded
  | _ => .error (.value "host stream binding must be a nonempty object")

variable (storage : ProjectionStorage)

/-- `create`; `bytes` is the number of bytes in which a text is written. -/
def create (bytes : Json.Text → ℕ) (streamId : Identifier) (totalBytes : ℕ) (binding : Json) :
    Except ProjectionError ProjectionStorage := do
  checkStreamId streamId
  check (totalBytes ≤ maxStreamBytes) (.value "stream size exceeds its limit")
  let encoded ← bindingText bytes binding
  match storage.streams.find? streamId with
  | none =>
    return { storage with
      streams := storage.streams.put ⟨streamId, encoded, totalBytes, 0, 0, false⟩ }
  | some row => do
    check (row.totalBytes = totalBytes ∧ row.binding = encoded)
      (.storage "stream already has different terms")
    return storage

def append (streamId : Identifier) (sequence : ℕ) (data : List UInt8) (complete : Bool) :
    Except ProjectionError ProjectionStorage := do
  checkStreamId streamId
  check (sequence < maxPages) (.value "invalid page sequence")
  check (data.length ≤ maxPageBytes) (.value "invalid page bytes or completion flag")
  check (data ≠ [] ∨ complete = true) (.value "empty nonterminal page")
  let stream ← present (storage.streams.find? streamId) (.storage "stream is unknown")
  match storage.pages.find? (streamId, sequence) with
  | some old => do
    check (old.data.length ≤ maxPageBytes ∧ old.data = data ∧ old.complete = complete)
      (.storage "page already has different content")
    return storage
  | none => do
    let count := stream.storedBytes + data.length
    check (stream.complete = false ∧ sequence = stream.nextSequence ∧ count ≤ stream.totalBytes ∧
        (complete = true ↔ count = stream.totalBytes) ∧
        (sequence = maxPages - 1 → complete = true))
      (.storage "page does not continue the stream")
    let page : ProjectionPage := ⟨streamId, sequence, data, complete⟩
    return { storage with
      pages := storage.pages.put page
      streams := storage.streams.put { stream with
        nextSequence := sequence + 1, storedBytes := count, complete }
      accepted := storage.accepted ++ [page] }

def read (streamId : Identifier) (after : ℤ) (limit : ℕ) :
    Except ProjectionError ProjectionRead := do
  checkStreamId streamId
  check (-1 ≤ after ∧ after < maxPages ∧ 1 ≤ limit ∧ limit ≤ maxReadPages)
    (.value "invalid page cursor or limit")
  let stream ← present (storage.streams.find? streamId) (.storage "stream is unknown")
  let rows := (storage.pages.tail streamId (after + 1).toNat).take limit
  check (∀ row ∈ rows.zipIdx,
      row.1.data.length ≤ maxPageBytes ∧ (row.1.sequence : ℤ) = after + row.2 + 1)
    (.storage "stored page is invalid or missing")
  check (¬ (rows = [] ∧ after + 1 < stream.nextSequence)) (.storage "stored page is missing")
  let cursor := (rows.getLast?.map fun row => (row.sequence : ℤ)).getD after
  return { storeId := storage.storeId, incarnation := storage.incarnation, streamId
           binding := stream.binding, totalBytes := stream.totalBytes
           storedBytes := stream.storedBytes, complete := stream.complete
           pages := rows.map ProjectionPage.read, cursor
           hasMore := decide (cursor + 1 < stream.nextSequence) }

end ProjectionStorage

inductive ProjectionCall where
  | create (bytes : Json.Text → ℕ) (streamId : Identifier) (totalBytes : ℕ) (binding : Json)
  | append (streamId : Identifier) (sequence : ℕ) (data : List UInt8) (complete : Bool)

def ProjectionCall.run (storage : ProjectionStorage) :
    ProjectionCall → Except ProjectionError ProjectionStorage
  | create bytes streamId totalBytes binding => storage.create bytes streamId totalBytes binding
  | append streamId sequence data complete => storage.append streamId sequence data complete

/-- Calls by any number of processes. A call that fails, and one that is lost before its commit,
leave the storage as it was. -/
def projectionStorage : TransitionSystem ProjectionStorage where
  initial storage := storage.streams = ∅ ∧ storage.pages = ∅ ∧ storage.accepted = []
  step storage after := ∃ call : ProjectionCall, call.run storage = .ok after ∨ after = storage

/-- The checks that a page has passed before the storage is looked at. -/
structure ProjectionPage.Valid (page : ProjectionPage) : Prop where
  named : page.streamId.text.utf8ByteSize ≤ 4096
  sequence : page.sequence < maxPages
  small : page.data.length ≤ maxPageBytes
  filled : page.data ≠ [] ∨ page.complete = true

namespace ProjectionStorage

variable {storage after : ProjectionStorage}

/-! ### What a call does -/

/-- What a call makes of the storage: nothing, a new stream, or a page that continues one. -/
inductive Move (storage : ProjectionStorage) : ProjectionStorage → Prop
  | stayed : Move storage storage
  | created (stream : ProjectionStream) (fresh : storage.streams.find? stream.streamId = none)
      (empty : stream.nextSequence = 0 ∧ stream.storedBytes = 0 ∧ stream.complete = false) :
      Move storage { storage with streams := storage.streams.put stream }
  | appended (stream : ProjectionStream) (found : storage.streams.find? stream.streamId = some stream)
      (page : ProjectionPage) (key : page.key = (stream.streamId, stream.nextSequence))
      (unfinished : stream.complete = false) (valid : page.Valid)
      (fits : stream.storedBytes + page.data.length ≤ stream.totalBytes)
      (full : page.complete = true ↔ stream.storedBytes + page.data.length = stream.totalBytes)
      (fresh : storage.pages.find? page.key = none) :
      Move storage { storage with
        pages := storage.pages.put page
        streams := storage.streams.put { stream with
          nextSequence := stream.nextSequence + 1
          storedBytes := stream.storedBytes + page.data.length, complete := page.complete }
        accepted := storage.accepted ++ [page] }

variable {streamId : Identifier}

theorem create_moves {bytes : Json.Text → ℕ} {totalBytes : ℕ} {binding : Json}
    (passed : storage.create bytes streamId totalBytes binding = .ok after) :
    Move storage after := by
  unfold create at passed
  simp only [bind_eq_ok, check_eq_ok] at passed
  obtain ⟨_, _, _, _, encoded, _, passed⟩ := passed
  split at passed
  · rename_i fresh
    rw [← Except.ok.inj passed]
    exact .created ⟨streamId, encoded, totalBytes, 0, 0, false⟩ fresh ⟨rfl, rfl, rfl⟩
  · simp only [passes_iff] at passed
    rw [← Except.ok.inj passed.2]
    exact .stayed

theorem append_moves {sequence : ℕ} {data : List UInt8} {complete : Bool}
    (passed : storage.append streamId sequence data complete = .ok after) : Move storage after := by
  unfold append at passed
  simp only [checkStreamId, bind_eq_ok, check_eq_ok, present_eq_ok, exists_const] at passed
  obtain ⟨named, numbered, small, filled, stream, found, passed⟩ := passed
  obtain rfl := key_of_find? found
  split at passed
  · simp only [passes_iff] at passed
    rw [← Except.ok.inj passed.2]
    exact .stayed
  · rename_i fresh
    simp only [passes_iff] at passed
    obtain ⟨⟨unfinished, rfl, fits, full, _⟩, passed⟩ := passed
    rw [← Except.ok.inj passed]
    exact .appended stream found ⟨stream.streamId, stream.nextSequence, data, complete⟩ rfl
      unfinished ⟨named, numbered, small, filled⟩ fits full fresh

theorem moves_of_step (step : projectionStorage.step storage after) : Move storage after := by
  obtain ⟨call, passed | rfl⟩ := step
  · cases call with
    | create bytes streamId totalBytes binding => exact create_moves passed
    | append streamId sequence data complete => exact append_moves passed
  · exact .stayed

/-! ### What holds at any time -/

/-- The bytes of the first pages of a stream. -/
def content (storage : ProjectionStorage) (streamId : Identifier) (count : ℕ) : List UInt8 :=
  (storage.pages.pages streamId count).flatMap ProjectionPage.data

structure Sound (storage : ProjectionStorage) : Prop where
  numbered : ∀ stream ∈ storage.streams, storage.pages.Numbered stream.streamId stream.nextSequence
  owned : ∀ page ∈ storage.pages, ∃ stream ∈ storage.streams, stream.streamId = page.streamId
  valid : ∀ page ∈ storage.pages, page.Valid
  stored : ∀ stream ∈ storage.streams,
    stream.storedBytes = (storage.content stream.streamId stream.nextSequence).length
  filled : ∀ stream ∈ storage.streams, stream.complete = true →
    stream.storedBytes = stream.totalBytes
  bounded : ∀ stream ∈ storage.streams, stream.storedBytes ≤ stream.totalBytes
  accepted : ∀ stream ∈ storage.streams,
    storage.accepted.filter (fun page => decide (page.streamId = stream.streamId)) =
      storage.pages.pages stream.streamId stream.nextSequence
  known : ∀ page ∈ storage.accepted, page ∈ storage.pages

theorem Move.sound (move : Move storage after) (sound : storage.Sound) : after.Sound := by
  cases move with
  | stayed => exact sound
  | created stream fresh empty =>
    obtain ⟨none, zero, unfinished⟩ := empty
    have unused : ∀ page ∈ storage.pages, page.streamId ≠ stream.streamId := by
      intro page stored same
      obtain ⟨owner, there, own⟩ := sound.owned page stored
      exact find?_eq_none_iff.mp fresh owner there (own.trans same)
    have still : ∀ {other : ProjectionStream}, other ∈ storage.streams.put stream →
        other = stream ∨ other ∈ storage.streams :=
      fun stored => (mem_put.mp stored).imp id And.left
    refine ⟨fun other stored => ?_, fun page stored => ?_, sound.valid, fun other stored => ?_,
      fun other stored full => ?_, fun other stored => ?_, fun other stored => ?_, sound.known⟩
    · rcases still stored with rfl | old
      · rw [none]
        exact ⟨fun page member mine => absurd mine (unused page member),
          fun number small => absurd small (Nat.not_lt_zero number)⟩
      · exact sound.numbered other old
    · obtain ⟨owner, there, own⟩ := sound.owned page stored
      exact ⟨owner, mem_put_of_fresh _ fresh there, own⟩
    · rcases still stored with rfl | old
      · rw [none, zero]
        rfl
      · exact sound.stored other old
    · rcases still stored with rfl | old
      · rw [unfinished] at full
        cases full
      · exact sound.filled other old full
    · rcases still stored with rfl | old
      · rw [zero]
        exact Nat.zero_le _
      · exact sound.bounded other old
    · rcases still stored with rfl | old
      · rw [none, pages_zero]
        refine filter_eq_nil_iff.mpr fun page listed mine => ?_
        exact unused page (sound.known page listed) (of_decide_eq_true mine)
      · exact sound.accepted other old
  | appended stream found page key unfinished valid fits full fresh =>
    have there := mem_of_find? found
    have own : page.streamId = stream.streamId := congrArg Prod.fst key
    have longer := @pages_put _ _ _ _ storage.pages _ _ page key
    have still : ∀ {other : ProjectionStream}, other ∈ storage.streams.put { stream with
        nextSequence := stream.nextSequence + 1
        storedBytes := stream.storedBytes + page.data.length, complete := page.complete } →
        other = { stream with
          nextSequence := stream.nextSequence + 1
          storedBytes := stream.storedBytes + page.data.length, complete := page.complete } ∨
            (other ∈ storage.streams ∧ page.streamId ≠ other.streamId) :=
      fun stored => (mem_put.mp stored).imp id fun ⟨old, differs⟩ =>
        ⟨old, fun same => differs (same.symm.trans own)⟩
    refine ⟨fun other stored => ?_, fun other stored => ?_, fun other stored => ?_,
      fun other stored => ?_, fun other stored done => ?_, fun other stored => ?_,
      fun other stored => ?_, fun other listed => ?_⟩
    · rcases still stored with rfl | ⟨old, differs⟩
      · exact (sound.numbered stream there).put key
      · exact (sound.numbered other old).put_other differs
    · have kept : ∀ owner ∈ storage.streams, ∃ later ∈ storage.streams.put { stream with
          nextSequence := stream.nextSequence + 1
          storedBytes := stream.storedBytes + page.data.length, complete := page.complete },
          later.streamId = owner.streamId := by
        intro owner member
        by_cases same : owner.streamId = stream.streamId
        · exact ⟨_, mem_put.mpr (.inl rfl), same.symm⟩
        · exact ⟨owner, mem_put.mpr (.inr ⟨member, same⟩), rfl⟩
      rcases mem_put.mp stored with rfl | ⟨old, _⟩
      · obtain ⟨later, written, same⟩ := kept stream there
        exact ⟨later, written, same.trans own.symm⟩
      · obtain ⟨owner, member, mine⟩ := sound.owned other old
        obtain ⟨later, written, same⟩ := kept owner member
        exact ⟨later, written, same.trans mine⟩
    · rcases mem_put.mp stored with rfl | ⟨old, _⟩
      · exact valid
      · exact sound.valid other old
    · rcases still stored with rfl | ⟨old, differs⟩
      · show _ = (((storage.pages.put page).pages _ _).flatMap _).length
        rw [longer, flatMap_append, length_append, flatMap_singleton]
        exact congrArg (· + page.data.length) (sound.stored stream there)
      · show _ = (((storage.pages.put page).pages _ _).flatMap _).length
        rw [pages_put_other differs]
        exact sound.stored other old
    · rcases still stored with rfl | ⟨old, differs⟩
      · exact full.mp done
      · exact sound.filled other old done
    · rcases still stored with rfl | ⟨old, differs⟩
      · exact fits
      · exact sound.bounded other old
    · rcases still stored with rfl | ⟨old, differs⟩
      · rw [filter_append, filter_singleton, decide_eq_true own]
        show _ = (storage.pages.put page).pages _ _
        rw [longer]
        exact congrArg (· ++ [page]) (sound.accepted stream there)
      · rw [filter_append, filter_singleton, decide_eq_false differs]
        show _ ++ [] = (storage.pages.put page).pages _ _
        rw [pages_put_other differs, append_nil]
        exact sound.accepted other old
    · rcases mem_append.mp listed with old | new
      · exact mem_put_of_fresh _ fresh (sound.known other old)
      · rw [mem_singleton.mp new]
        exact mem_put.mpr (.inl rfl)

theorem sound (reachable : projectionStorage.Reachable storage) : storage.Sound := by
  refine reachable.invariant Sound ?_ fun _ _ _ sound step =>
    Move.sound (moves_of_step step) sound
  rintro storage ⟨streams, pages, accepted⟩
  have none : ∀ stream, stream ∉ storage.streams := by
    rw [streams]
    exact fun _ => not_mem_nil
  refine ⟨fun stream stored => absurd stored (none stream), fun page stored => ?_,
    fun page stored => ?_, fun stream stored => absurd stored (none stream),
    fun stream stored => absurd stored (none stream),
    fun stream stored => absurd stored (none stream),
    fun stream stored => absurd stored (none stream), fun page listed => ?_⟩
  · rw [pages] at stored
    cases stored
  · rw [pages] at stored
    cases stored
  · rw [accepted] at listed
    cases listed

/-! ### What never changes -/

structure StreamKept (stream later : ProjectionStream) : Prop where
  streamId : later.streamId = stream.streamId
  binding : later.binding = stream.binding
  totalBytes : later.totalBytes = stream.totalBytes
  complete : stream.complete = true → later = stream

/-- Pages and complete streams stay as they are. -/
structure Keeps (storage after : ProjectionStorage) : Prop where
  pages : ∀ page ∈ storage.pages, page ∈ after.pages
  streams : ∀ stream ∈ storage.streams, ∃ later ∈ after.streams, StreamKept stream later

theorem Keeps.refl (storage : ProjectionStorage) : storage.Keeps storage :=
  ⟨fun _ stored => stored, fun stream stored => ⟨stream, stored, rfl, rfl, rfl, fun _ => rfl⟩⟩

theorem Keeps.trans {first second third : ProjectionStorage} (early : first.Keeps second)
    (late : second.Keeps third) : first.Keeps third := by
  refine ⟨fun page stored => late.pages page (early.pages page stored), fun stream stored => ?_⟩
  obtain ⟨middle, there, sameId, sameBinding, sameTotal, done⟩ := early.streams stream stored
  obtain ⟨last, ultimately, id, binding, total, still⟩ := late.streams middle there
  refine ⟨last, ultimately, id.trans sameId, binding.trans sameBinding, total.trans sameTotal,
    fun complete => ?_⟩
  have same := done complete
  subst same
  exact still complete

theorem Move.keeps (move : Move storage after) : storage.Keeps after := by
  cases move with
  | stayed => exact .refl storage
  | created stream fresh empty =>
    exact ⟨fun _ stored => stored, fun other stored =>
      ⟨other, mem_put_of_fresh _ fresh stored, rfl, rfl, rfl, fun _ => rfl⟩⟩
  | appended stream found page key unfinished valid fits full fresh =>
    refine ⟨fun other stored => mem_put_of_fresh _ fresh stored, fun other stored => ?_⟩
    by_cases same : other.streamId = stream.streamId
    · obtain rfl : other = stream := eq_of_key_eq stored (mem_of_find? found) same
      refine ⟨_, mem_put.mpr (.inl rfl), rfl, rfl, rfl, fun complete => ?_⟩
      cases unfinished.symm.trans complete
    · exact ⟨other, mem_put.mpr (.inr ⟨stored, same⟩), rfl, rfl, rfl, fun _ => rfl⟩

theorem keeps (reachable : projectionStorage.Reachable storage)
    (run : projectionStorage.Run storage after) : storage.Keeps after :=
  reachable.respects Keeps .refl .trans (fun _ _ _ step => Move.keeps (moves_of_step step)) run

variable {stream : ProjectionStream}

theorem Keeps.pages_eq (keeps : storage.Keeps after) (sound : storage.Sound)
    (stored : stream ∈ storage.streams) :
    after.pages.pages stream.streamId stream.nextSequence =
      storage.pages.pages stream.streamId stream.nextSequence := by
  refine filterMap_congr fun number small => ?_
  obtain ⟨page, found⟩ := (sound.numbered stream stored).there number (mem_range.mp small)
  rw [found, find?_eq_some_iff]
  exact ⟨keeps.pages page (mem_of_find? found), key_of_find? found⟩

/-! ### Reading -/

/-- The arguments that `read` accepts. -/
structure Readable (streamId : Identifier) (after : ℤ) (limit : ℕ) : Prop where
  named : streamId.text.utf8ByteSize ≤ 4096
  cursor : -1 ≤ after ∧ after < maxPages
  limit : 1 ≤ limit ∧ limit ≤ maxReadPages

def window (storage : ProjectionStorage) (stream : ProjectionStream) (after : ℤ) (limit : ℕ) :
    List ProjectionPage :=
  ((storage.pages.pages stream.streamId stream.nextSequence).drop (after + 1).toNat).take limit

theorem Sound.length_window (sound : storage.Sound) (stored : stream ∈ storage.streams)
    (cursor : ℤ) (limit : ℕ) :
    (storage.window stream cursor limit).length =
      min limit (stream.nextSequence - (cursor + 1).toNat) := by
  unfold window
  rw [length_take, length_drop, length_pages (sound.numbered stream stored).there]

variable {cursor : ℤ} {limit : ℕ}

theorem Sound.getElem_window (sound : storage.Sound) (stored : stream ∈ storage.streams)
    (first : -1 ≤ cursor) {place : ℕ} (small : place < (storage.window stream cursor limit).length) :
    ((storage.window stream cursor limit)[place].sequence : ℤ) = cursor + place + 1 := by
  have numbered := sound.numbered stream stored
  have inside : (cursor + 1).toNat + place <
      (storage.pages.pages stream.streamId stream.nextSequence).length := by
    rw [sound.length_window stored] at small
    rw [length_pages numbered.there]
    omega
  have same : (storage.window stream cursor limit)[place] =
      (storage.pages.pages stream.streamId stream.nextSequence)[(cursor + 1).toNat + place] := by
    simp only [window, getElem_take, getElem_drop]
  have counted : (storage.pages.pages stream.streamId
      stream.nextSequence)[(cursor + 1).toNat + place].sequence = (cursor + 1).toNat + place :=
    numbered.getElem_pages inside
  rw [same, counted]
  omega

theorem Sound.cursor_window (sound : storage.Sound) (stored : stream ∈ storage.streams)
    (first : -1 ≤ cursor) (limit : ℕ) :
    ((storage.window stream cursor limit).getLast?.map fun row => (row.sequence : ℤ)).getD cursor =
      cursor + (storage.window stream cursor limit).length := by
  rw [List.getLast?_eq_getElem?]
  by_cases some : 0 < (storage.window stream cursor limit).length
  · have inside : (storage.window stream cursor limit).length - 1 <
        (storage.window stream cursor limit).length := by omega
    rw [List.getElem?_eq_getElem inside, Option.map_some, Option.getD_some,
      sound.getElem_window stored first inside]
    omega
  · have none : (storage.window stream cursor limit).length = 0 := by omega
    rw [List.getElem?_eq_none (by omega), Option.map_none, Option.getD_none, none]
    omega

def reading (storage : ProjectionStorage) (stream : ProjectionStream) (after : ℤ) (limit : ℕ) :
    ProjectionRead where
  storeId := storage.storeId
  incarnation := storage.incarnation
  streamId := stream.streamId
  binding := stream.binding
  totalBytes := stream.totalBytes
  storedBytes := stream.storedBytes
  complete := stream.complete
  pages := (storage.window stream after limit).map ProjectionPage.read
  cursor := after + (storage.window stream after limit).length
  hasMore := decide
    (after + (storage.window stream after limit).length + 1 < stream.nextSequence)

theorem Sound.read_eq (sound : storage.Sound) (stored : stream ∈ storage.streams)
    (readable : Readable stream.streamId cursor limit) :
    storage.read stream.streamId cursor limit = .ok (storage.reading stream cursor limit) := by
  obtain ⟨named, ⟨first, last⟩, least, most⟩ := readable
  have rows : (storage.pages.tail stream.streamId (cursor + 1).toNat).take limit =
      storage.window stream cursor limit := by
    rw [(sound.numbered stream stored).tail_eq]
    rfl
  have counted := sound.length_window stored cursor limit
  have intact : ∀ row ∈ (storage.window stream cursor limit).zipIdx,
      row.1.data.length ≤ maxPageBytes ∧ (row.1.sequence : ℤ) = cursor + row.2 + 1 := by
    rintro ⟨page, place⟩ member
    obtain ⟨_, inside, equal⟩ := mem_zipIdx member
    simp only [Nat.zero_add, Nat.sub_zero] at inside equal
    have listed : page ∈ storage.window stream cursor limit := by
      rw [equal]
      exact getElem_mem inside
    have there := (mem_pages.mp (mem_of_mem_drop (mem_of_mem_take listed))).1
    refine ⟨(sound.valid page there).small, ?_⟩
    have placed := sound.getElem_window stored first inside
    rw [← equal] at placed
    exact placed
  have present : ¬ (storage.window stream cursor limit = [] ∧
      cursor + 1 < stream.nextSequence) := by
    rintro ⟨none, more⟩
    rw [none, length_nil] at counted
    omega
  unfold read
  rw [bind_eq_ok]
  refine ⟨(), check_eq_ok.mpr named, ?_⟩
  rw [bind_eq_ok]
  refine ⟨(), check_eq_ok.mpr ⟨first, last, least, most⟩, ?_⟩
  rw [bind_eq_ok]
  refine ⟨stream, present_eq_ok.mpr (find?_key stored), ?_⟩
  rw [rows, bind_eq_ok]
  refine ⟨(), check_eq_ok.mpr intact, ?_⟩
  rw [bind_eq_ok]
  refine ⟨(), check_eq_ok.mpr present, ?_⟩
  rw [sound.cursor_window stored first limit]
  rfl

/-- The answers of a reader that follows the cursors to the end of a stream, with any limits, while
others go on writing. -/
inductive Follows (streamId : Identifier) : ProjectionStorage → ℤ → List ReadPage → Prop
  | last {storage : ProjectionStorage} {after : ℤ} {limit : ℕ} {answer : ProjectionRead}
      (passed : storage.read streamId after limit = .ok answer) (none : answer.hasMore = false) :
      Follows streamId storage after answer.pages
  | more {storage later : ProjectionStorage} {after : ℤ} {limit : ℕ} {answer : ProjectionRead}
      {rest : List ReadPage} (passed : storage.read streamId after limit = .ok answer)
      (some : answer.hasMore = true) (run : projectionStorage.Run storage later)
      (others : Follows streamId later answer.cursor rest) :
      Follows streamId storage after (answer.pages ++ rest)

theorem readable_of_read {answer : ProjectionRead}
    (passed : storage.read streamId cursor limit = .ok answer) :
    Readable streamId cursor limit := by
  unfold read checkStreamId at passed
  simp only [passes_iff] at passed
  obtain ⟨named, ⟨first, last, least, most⟩, _⟩ := passed
  exact ⟨named, ⟨first, last⟩, least, most⟩

theorem Follows.pages_eq {pages : List ReadPage} (follows : Follows streamId storage cursor pages)
    (reachable : projectionStorage.Reachable storage) (stored : stream ∈ storage.streams)
    (own : stream.streamId = streamId) (complete : stream.complete = true) :
    pages = ((storage.pages.pages streamId stream.nextSequence).drop
      (cursor + 1).toNat).map ProjectionPage.read := by
  induction follows with
  | last passed none =>
    rename_i storage cursor limit answer
    have valid := readable_of_read passed
    subst own
    have answered := Except.ok.inj (passed.symm.trans ((sound reachable).read_eq stored valid))
    have counted := (sound reachable).length_window stored cursor limit
    rw [answered] at none ⊢
    have finished := of_decide_eq_false none
    have enough : ((storage.pages.pages stream.streamId stream.nextSequence).drop
        (cursor + 1).toNat).length ≤ limit := by
      rw [length_drop, length_pages ((sound reachable).numbered stream stored).there]
      have low := valid.cursor.1
      have least := valid.limit.1
      omega
    show (storage.window stream cursor limit).map _ = _
    unfold window
    rw [take_of_length_le enough]
  | more passed some run others hypothesis =>
    rename_i storage later cursor limit answer rest
    have valid := readable_of_read passed
    subst own
    have answered := Except.ok.inj (passed.symm.trans ((sound reachable).read_eq stored valid))
    have kept := keeps reachable run
    obtain ⟨same, there, _, _, _, still⟩ := kept.streams stream stored
    obtain rfl := still complete
    have rest := hypothesis (reachable.run run) there
    rw [kept.pages_eq (sound reachable) stored] at rest
    rw [rest, answered]
    show (storage.window same cursor limit).map _ ++ (List.drop
      (cursor + (storage.window same cursor limit).length + 1).toNat _).map _ = _
    rw [← map_append]
    refine congrArg _ ?_
    have counted := (sound reachable).length_window stored cursor limit
    have length : (cursor + (storage.window same cursor limit).length + 1).toNat =
        (cursor + 1).toNat + (storage.window same cursor limit).length := by
      have low := valid.cursor.1
      omega
    rw [length, ← drop_drop]
    unfold window
    rw [length_take]
    by_cases all : ((storage.pages.pages same.streamId same.nextSequence).drop
        (cursor + 1).toNat).length ≤ limit
    · rw [min_eq_right all, take_of_length_le all, drop_length, append_nil]
    · rw [min_eq_left (Nat.le_of_not_le all), take_append_drop]

/-! ### Appending again -/

theorem Sound.append_again (sound : storage.Sound) {page : ProjectionPage}
    (stored : page ∈ storage.pages) :
    storage.append page.streamId page.sequence page.data page.complete = .ok storage ∧
      ∀ data complete, data ≠ page.data ∨ complete ≠ page.complete →
        ∃ failure, storage.append page.streamId page.sequence data complete = .error failure := by
  obtain ⟨stream, there, own⟩ := sound.owned page stored
  have known : storage.streams.find? page.streamId = some stream := own ▸ find?_key there
  have found : storage.pages.find? (page.streamId, page.sequence) = some page := find?_key stored
  obtain ⟨named, numbered, small, filled⟩ := sound.valid page stored
  refine ⟨?_, fun data complete differs => ?_⟩
  · unfold append
    rw [bind_eq_ok]
    refine ⟨(), check_eq_ok.mpr named, ?_⟩
    rw [bind_eq_ok]
    refine ⟨(), check_eq_ok.mpr numbered, ?_⟩
    rw [bind_eq_ok]
    refine ⟨(), check_eq_ok.mpr small, ?_⟩
    rw [bind_eq_ok]
    refine ⟨(), check_eq_ok.mpr filled, ?_⟩
    rw [bind_eq_ok]
    refine ⟨stream, present_eq_ok.mpr known, ?_⟩
    rw [found]
    rw [bind_eq_ok]
    exact ⟨(), check_eq_ok.mpr ⟨small, rfl, rfl⟩, rfl⟩
  · cases outcome : storage.append page.streamId page.sequence data complete with
    | error failure => exact ⟨failure, rfl⟩
    | ok next =>
      unfold append checkStreamId at outcome
      simp only [passes_iff] at outcome
      obtain ⟨_, _, _, _, _, _, outcome⟩ := outcome
      rw [found] at outcome
      simp only [passes_iff] at outcome
      obtain ⟨⟨_, sameData, sameFlag⟩, _⟩ := outcome
      rcases differs with data | flag
      · exact absurd sameData.symm data
      · exact absurd sameFlag.symm flag

/-! ### The streams of every run -/

/-- What may be relied on of the streams at any time. -/
structure Faithful (storage : ProjectionStorage) : Prop where
  /-- A complete stream has the pages below a number, and they have as many bytes as was said. -/
  complete : ∀ stream ∈ storage.streams, stream.complete = true →
    (∀ number, (∃ page ∈ storage.pages, page.key = (stream.streamId, number)) ↔
      number < stream.nextSequence) ∧
        (storage.content stream.streamId stream.nextSequence).length = stream.totalBytes
  immutable : ∀ last, projectionStorage.Run storage last → storage.Keeps last
  /-- Every call reads the pages behind its cursor. -/
  readable : ∀ stream ∈ storage.streams, ∀ cursor limit, Readable stream.streamId cursor limit →
      storage.read stream.streamId cursor limit = .ok (storage.reading stream cursor limit)
  /-- A reader of a complete stream gets what was appended. -/
  reassembled : ∀ stream ∈ storage.streams, stream.complete = true → ∀ pages,
    Follows stream.streamId storage (-1) pages → pages.flatMap ReadPage.data =
      (storage.accepted.filter fun page => decide (page.streamId = stream.streamId)).flatMap
        ProjectionPage.data
  /-- A page that is appended again changes nothing, and a different one is refused. -/
  again : ∀ page ∈ storage.pages,
    storage.append page.streamId page.sequence page.data page.complete = .ok storage ∧
      ∀ data complete, data ≠ page.data ∨ complete ≠ page.complete →
        ∃ failure, storage.append page.streamId page.sequence data complete = .error failure

theorem faithful (reachable : projectionStorage.Reachable storage) : storage.Faithful := by
  have holds := sound reachable
  refine ⟨fun stream stored complete => ⟨fun number => ?_, ?_⟩, fun last run => keeps reachable run,
    fun stream stored cursor limit valid => holds.read_eq stored valid,
    fun stream stored complete pages follows => ?_, fun page stored => holds.append_again stored⟩
  · have numbered := holds.numbered stream stored
    refine ⟨fun ⟨page, there, named⟩ => ?_, fun small => ?_⟩
    · have below := numbered.below page there (congrArg Prod.fst named)
      rw [named] at below
      exact below
    · obtain ⟨page, found⟩ := numbered.there number small
      exact ⟨page, mem_of_find? found, key_of_find? found⟩
  · rw [← holds.stored stream stored]
    exact holds.filled stream stored complete
  · rw [follows.pages_eq reachable stored rfl complete, holds.accepted stream stored]
    show (List.map _ (List.drop 0 _)).flatMap _ = _
    rw [drop_zero, flatMap_map]
    rfl

/-- The storage after calls, of which the failed ones leave it as it was. -/
def afterCalls (storage : ProjectionStorage) (calls : List ProjectionCall) : ProjectionStorage :=
  calls.foldl (fun storage call => (call.run storage).toOption.getD storage) storage

theorem reachable_afterCalls (reachable : projectionStorage.Reachable storage)
    (calls : List ProjectionCall) : projectionStorage.Reachable (storage.afterCalls calls) := by
  induction calls generalizing storage with
  | nil => exact reachable
  | cons call rest hypothesis =>
    refine hypothesis (reachable.next ⟨call, ?_⟩)
    show call.run storage = .ok ((call.run storage).toOption.getD storage) ∨
      (call.run storage).toOption.getD storage = storage
    cases call.run storage with
    | error failure => exact .inr rfl
    | ok after => exact .inl rfl

end ProjectionStorage

end DispatcherSdk.Orchestrator
