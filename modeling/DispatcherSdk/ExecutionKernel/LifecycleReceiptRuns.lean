/-
This file proves what the receipts of the lifecycle outbox come to over every run.

The calls on the journal do one of four things to it: they add a note, they add a note with
its receipt, they map a note that is there, or they delete receipts with their notes. The
Kernel never gives a sequence number to a second event, so the generation a receipt was
proved for is the only one its number can ever stand for.
-/

import DispatcherSdk.ExecutionKernel.LifecycleRuns
import DispatcherSdk.ExecutionKernel.PendingSettlements

namespace DispatcherSdk.ExecutionKernel

open Library Library.Checked Relation Table

/-! ### The journal -/

/-- A row of `settlement_notes`. -/
structure LifecycleNote where
  sequence : ℕ
  noteId : Identifier
  identity : LifecycleIdentity
  phase : Identifier
  evidenceJson : Json.Text

/-- A row of `settlement_lifecycle_receipts`. -/
structure LifecycleReceipt where
  storeId : Identifier
  outboxSequence : ℕ
  noteSequence : ℕ

def LifecycleReceipt.key (receipt : LifecycleReceipt) : Identifier × ℕ :=
  (receipt.storeId, receipt.outboxSequence)

def SettlementKey.identity (key : SettlementKey) : LifecycleIdentity :=
  ⟨key.executionId, key.attempt, key.fence⟩

/-- What the Kernel says of itself: `kernel_store_identity` and `kernel_lifecycle_metadata`. -/
structure LifecycleStore where
  storeId : Identifier
  legacyMaxSequence : ℕ

/-- The notes and the receipts of a journal. -/
structure ReceiptJournal where
  notes : Table LifecycleNote.sequence
  /-- The last number given out, which `AUTOINCREMENT` never gives out again. -/
  lastNote : ℕ
  receipts : Table LifecycleReceipt.key

/-- The contents of a note: the columns that a call compares. -/
def LifecycleNote.Carries (note : LifecycleNote) (identity : LifecycleIdentity)
    (phase : Identifier) (encoded : Json.Text) : Prop :=
  note.identity = identity ∧ note.phase = phase ∧ note.evidenceJson = encoded

instance (note : LifecycleNote) (identity : LifecycleIdentity) (phase : Identifier)
    (encoded : Json.Text) : Decidable (note.Carries identity phase encoded) := by
  unfold LifecycleNote.Carries
  infer_instance

/-! ### The proof from the Kernel -/

structure EventClaim where
  sequence : ℕ
  identity : LifecycleIdentity
  phase : Identifier
  encoded : Json.Text
  legacyNoteId : Option Identifier

namespace LifecycleStore

variable (kernel : LifecycleStore) (tables : LifecycleTables)

/-- The event that a caller describes is in the outbox. The journal writes the same text for a
payload. -/
def proveEvent (claim : EventClaim) : Except SettlementError Unit := do
  check (claim.sequence ≤ kernel.legacyMaxSequence ↔ claim.legacyNoteId.isSome = true)
    (.conflict "lifecycle event requires the correct legacy receipt mode")
  let mismatch := SettlementError.conflict "lifecycle event does not match durable Kernel outbox"
  let event ← present (tables.outbox.find? claim.sequence) mismatch
  let producer ← present (tables.producers.find? event.token) mismatch
  check (producer.identity = claim.identity ∧ event.phase = claim.phase ∧
      event.payload = some claim.encoded ∧ ∀ noteId ∈ claim.legacyNoteId, noteId = event.eventId)
    mismatch

/-- `_kernel_retired_watermark`. -/
def retiredWatermark (storeId executionId : Identifier) (event : Option EventClaim) :
    Except SettlementError (Option LifecycleIdentity) := do
  check (storeId = kernel.storeId)
    (.binding "Kernel lifecycle retirement proof has wrong store or schema")
  match event with
  | none => return tables.retired.find? executionId
  | some claim => do
    kernel.proveEvent tables claim
    return tables.retired.find? executionId

/-- The proof that an event is one of a generation that is not retired. -/
def proveCurrent (storeId : Identifier) (claim : EventClaim) : Except SettlementError Unit := do
  let retired ← kernel.retiredWatermark tables storeId claim.identity.executionId (some claim)
  check (∀ cutoff ∈ retired, ¬ claim.identity.generation ≤ cutoff.generation)
    (.conflict "lifecycle generation has been retired")

end LifecycleStore

/-! ### Calls on the journal -/

namespace ReceiptJournal

variable (journal : ReceiptJournal)

def empty : ReceiptJournal := ⟨∅, 0, ∅⟩

def noteOf (noteId : Identifier) : Option LifecycleNote :=
  journal.notes.rows.find? fun note => note.noteId = noteId

/-- `INSERT INTO settlement_notes`. -/
def noted (noteId : Identifier) (identity : LifecycleIdentity) (phase : Identifier)
    (encoded : Json.Text) : ReceiptJournal :=
  { journal with
    notes := journal.notes.put ⟨journal.lastNote + 1, noteId, identity, phase, encoded⟩
    lastNote := journal.lastNote + 1 }

/-- `INSERT INTO settlement_lifecycle_receipts`. -/
def bound (receipt : LifecycleReceipt) : ReceiptJournal :=
  { journal with receipts := journal.receipts.put receipt }

def note (identity : SettlementIdentity) (phase : Identifier) (evidence : Json)
    (noteId : Option Identifier) (uuid : Identifier) : Except SettlementError ReceiptJournal := do
  let key ← settlementKey true identity
  check (phase.text.utf8ByteSize ≤ 128) (.value "phase must be at most 128 bytes")
  let encoded ← evidenceText "evidence must be a strict JSON object" evidence
  match journal.noteOf (noteId.getD uuid) with
  | none => return journal.noted (noteId.getD uuid) key.identity phase encoded
  | some stored => do
    check (stored.Carries key.identity phase encoded) (.conflict "diagnostic note contents differ")
    return journal

/-- The identifier of a new receipt's note: that of the event, or the first of sixteen random ones
that is not taken. -/
def allocate (legacyNoteId : Option Identifier) (uuids : List Identifier) :
    Except SettlementError Identifier :=
  match legacyNoteId with
  | some noteId => do
    check (journal.noteOf noteId = none) (.conflict
      "legacy lifecycle note ID already exists without a matching lifecycle receipt")
    return noteId
  | none =>
    present ((uuids.take 16).find? fun uuid => (journal.noteOf uuid).isNone)
      (.conflict "could not allocate a unique lifecycle note ID")

/-- The note that is mapped to an event, a new one where there is none. -/
def assign (storeId : Identifier) (claim : EventClaim) (uuids : List Identifier) :
    Except SettlementError (ReceiptJournal × ℕ) :=
  match journal.receipts.find? (storeId, claim.sequence) with
  | some receipt => .ok (journal, receipt.noteSequence)
  | none => do
    let noteId ← journal.allocate claim.legacyNoteId uuids
    return ((journal.noted noteId claim.identity claim.phase claim.encoded).bound
      ⟨storeId, claim.sequence, journal.lastNote + 1⟩, journal.lastNote + 1)

/-- What a caller describes, once its arguments are checked. -/
def claimOf (identity : SettlementIdentity) (phase : Identifier) (evidence : Json)
    (sequence : ℕ) (legacyNoteId : Option Identifier) : Except SettlementError EventClaim := do
  let key ← settlementKey true identity
  check (phase.text.length ≤ 256) (.value "phase must be at most 256 characters")
  check (0 < sequence) (.value "outbox_sequence must be a positive integer")
  let encoded ← evidenceText "evidence must be a strict JSON object" evidence
  return ⟨sequence, key.identity, phase, encoded, legacyNoteId⟩

def lifecycleNote (kernel : LifecycleStore) (tables : LifecycleTables) (storeId : Identifier)
    (claim : EventClaim) (uuids : List Identifier) : Except SettlementError ReceiptJournal := do
  kernel.proveCurrent tables storeId claim
  let (after, noteSequence) ← journal.assign storeId claim uuids
  let differs := SettlementError.conflict "lifecycle receipt contents differ or note is missing"
  let note ← present (after.notes.find? noteSequence) differs
  check (note.Carries claim.identity claim.phase claim.encoded) differs
  return after

/-- `reconcile_legacy_lifecycle_receipt`. The host is asked twice. -/
def reconcileLegacyLifecycleReceipt (kernel : LifecycleStore) (tables : LifecycleTables)
    (storeId : Identifier) (claim : EventClaim) (noteSequence : ℕ) (attested confirmed : Bool) :
    Except SettlementError ReceiptJournal := do
  let refused := SettlementError.binding "host legacy receipt attestation denied"
  check (attested = true) refused
  kernel.proveCurrent tables storeId claim
  let differs := SettlementError.conflict "legacy lifecycle note does not match claim"
  let note ← present (journal.notes.find? noteSequence) differs
  check (some note.noteId = claim.legacyNoteId ∧
    note.Carries claim.identity claim.phase claim.encoded) differs
  check (∀ existing ∈ journal.receipts.find? (storeId, claim.sequence),
      existing.noteSequence = noteSequence)
    (.conflict "lifecycle event already maps to another note")
  check (∀ receipt ∈ journal.receipts.rows, receipt.noteSequence = noteSequence →
      receipt.key = (storeId, claim.sequence))
    (.conflict "legacy note already maps to another lifecycle event")
  check (confirmed = true) refused
  match journal.receipts.find? (storeId, claim.sequence) with
  | some _ => return journal
  | none => return journal.bound ⟨storeId, claim.sequence, noteSequence⟩

/-- The receipt is one of a store for a prefix of the generations of an execution. -/
def prunable (storeId : Identifier) (cutoff : LifecycleIdentity) (receipt : LifecycleReceipt) :
    Bool :=
  decide (receipt.storeId = storeId) && (journal.notes.find? receipt.noteSequence).any fun note =>
    decide (note.identity.executionId = cutoff.executionId ∧
      note.identity.generation ≤ cutoff.generation)

/-- The receipts that a call prunes, `ORDER BY r.outbox_sequence LIMIT ?`. -/
def selected (storeId : Identifier) (cutoff : LifecycleIdentity) (limit : ℕ) :
    List LifecycleReceipt :=
  ((journal.receipts.rows.filter (journal.prunable storeId cutoff)).insertionSort
    fun left right => left.outboxSequence ≤ right.outboxSequence).take limit

/-- The deletion of receipts with their notes. -/
def without (gone : List LifecycleReceipt) : ReceiptJournal :=
  { journal with
    notes := journal.notes.keep fun note =>
      !decide (note.sequence ∈ gone.map LifecycleReceipt.noteSequence)
    receipts := journal.receipts.keep fun receipt =>
      !decide (receipt.key ∈ gone.map LifecycleReceipt.key) }

/-- `prune_lifecycle_notes`: the receipts that go, and whether there are more. -/
def pruneLifecycleNotes (kernel : LifecycleStore) (tables : LifecycleTables)
    (storeId : Identifier) (cutoff : LifecycleIdentity) (limit : ℕ) :
    Except SettlementError (ReceiptJournal × List LifecycleReceipt × Bool) := do
  check (1 ≤ limit ∧ limit ≤ 128) (.value "invalid lifecycle note pruning bound")
  let retired ← kernel.retiredWatermark tables storeId cutoff.executionId none
  check (∃ watermark ∈ retired, cutoff.generation ≤ watermark.generation)
    (.conflict "Kernel has not retired the requested generation")
  let gone := journal.selected storeId cutoff limit
  let after := journal.without gone
  return (after, gone, after.receipts.rows.any (after.prunable storeId cutoff))

def lifecycleReceiptCommitted (identity : LifecycleIdentity) (phase : Identifier)
    (encoded : Json.Text) (storeId : Identifier) (sequence : ℕ) : Prop :=
  ∃ receipt ∈ journal.receipts.find? (storeId, sequence),
    ∃ note ∈ journal.notes.find? receipt.noteSequence, note.Carries identity phase encoded

end ReceiptJournal

/-! ### The system -/

/-- Both stores and what the processes know. -/
structure LifecycleDelivery where
  tables : LifecycleTables
  journal : ReceiptJournal
  /-- The sequence numbers of events that a running process has been told are noted. -/
  told : List ℕ
  /-- The receipts that were pruned, with the generation of their note. -/
  pruned : List (ℕ × LifecycleIdentity)
  /-- The sequence numbers of events that were acknowledged on the caller's word. -/
  unbacked : List ℕ

namespace LifecycleDelivery

/-- A host that confirms a receiver's commit only where it finds the exact receipt. -/
def Verifies (kernel : LifecycleStore) (state : LifecycleDelivery) (call : LifecycleCall) : Prop :=
  ∃ verifier, call.verifier = some verifier ∧
    ∀ identity membership sequence eventId phase payload claim,
      verifier ⟨.ack, identity, membership, .receipt kernel.storeId sequence eventId phase payload⟩ =
          some claim →
        claim.receiverCommitted = true →
          state.journal.lifecycleReceiptCommitted identity phase payload kernel.storeId sequence

/-- An acknowledgement that follows the receiver's commit: the caller was told of it, or the host
has looked for it. -/
def Backed (kernel : LifecycleStore) (state : LifecycleDelivery) (call : LifecycleCall)
    (sequence : ℕ) : Prop :=
  sequence ∈ state.told ∨ state.Verifies kernel call

/-- The receipts of a journal after some of them are pruned. -/
def prune (state : LifecycleDelivery) (journal : ReceiptJournal) (gone : List LifecycleReceipt) :
    LifecycleDelivery :=
  { state with
    journal
    pruned := gone.filterMap (fun receipt =>
      (state.journal.notes.find? receipt.noteSequence).map fun note =>
        (receipt.outboxSequence, note.identity)) ++ state.pruned }

/-- One committed transaction, or a process that stops. -/
inductive Step (kernel : LifecycleStore) (state : LifecycleDelivery) : LifecycleDelivery → Prop
  /-- A call on the outbox other than an acknowledgement. -/
  | operated (operation : LifecycleOperation) (call : LifecycleCall) (after : LifecycleTables)
      (passed : operation.run call state.tables = .ok after)
      (other : ∀ sequence eventId, operation ≠ .ack sequence eventId) :
      Step kernel state { state with tables := after }
  | acknowledged (sequence : ℕ) (eventId : Identifier) (call : LifecycleCall)
      (own : call.storeId = kernel.storeId) (answer : LifecycleTables × Bool)
      (passed : state.tables.ack call sequence eventId = .ok answer)
      (backed : state.Backed kernel call sequence) :
      Step kernel state { state with tables := answer.1 }
  /-- An acknowledgement on the caller's word. -/
  | trusted (sequence : ℕ) (eventId : Identifier) (call : LifecycleCall)
      (own : call.storeId = kernel.storeId) (answer : LifecycleTables × Bool)
      (passed : state.tables.ack call sequence eventId = .ok answer) :
      Step kernel state { state with tables := answer.1, unbacked := sequence :: state.unbacked }
  | diagnosed (identity : SettlementIdentity) (phase : Identifier) (evidence : Json)
      (noteId : Option Identifier) (uuid : Identifier) (journal : ReceiptJournal)
      (passed : state.journal.note identity phase evidence noteId uuid = .ok journal) :
      Step kernel state { state with journal }
  /-- `lifecycle_note`; the process is told of the commit, or it stops before. -/
  | noted (identity : SettlementIdentity) (phase : Identifier) (evidence : Json)
      (storeId : Identifier) (sequence : ℕ) (legacyNoteId : Option Identifier)
      (uuids : List Identifier) (claim : EventClaim)
      (described : ReceiptJournal.claimOf identity phase evidence sequence legacyNoteId = .ok claim)
      (journal : ReceiptJournal)
      (passed : state.journal.lifecycleNote kernel state.tables storeId claim uuids = .ok journal)
      (heard : Bool) :
      Step kernel state
        { state with journal, told := if heard then sequence :: state.told else state.told }
  | reconciled (identity : SettlementIdentity) (phase : Identifier) (evidence : Json)
      (storeId : Identifier) (sequence : ℕ) (legacyNoteId : Identifier) (noteSequence : ℕ)
      (attested confirmed : Bool) (claim : EventClaim)
      (described : ReceiptJournal.claimOf identity phase evidence sequence (some legacyNoteId) =
        .ok claim)
      (journal : ReceiptJournal)
      (passed : state.journal.reconcileLegacyLifecycleReceipt kernel state.tables storeId claim
        noteSequence attested confirmed = .ok journal)
      (heard : Bool) :
      Step kernel state
        { state with journal, told := if heard then sequence :: state.told else state.told }
  | prunedNotes (storeId : Identifier) (cutoff : LifecycleIdentity) (limit : ℕ)
      (answer : ReceiptJournal × List LifecycleReceipt × Bool)
      (passed : state.journal.pruneLifecycleNotes kernel state.tables storeId cutoff limit =
        .ok answer) :
      Step kernel state (state.prune answer.1 answer.2.1)
  /-- A call that fails or is lost, and a process that stops with what it knows. -/
  | stopped (told : List ℕ) (fewer : told ⊆ state.told) : Step kernel state { state with told }

/-- What the stores may hold when the journal gets its receipts: a Kernel that was used before, and
notes of any kind. -/
structure Initial (state : LifecycleDelivery) : Prop where
  tables : lifecycleOutbox.Reachable state.tables
  numbered : ∀ note ∈ state.journal.notes, note.sequence ≤ state.journal.lastNote
  receipts : state.journal.receipts = ∅
  told : state.told = []
  pruned : state.pruned = []
  unbacked : ∀ event ∈ state.tables.outbox, event.delivered = true →
    event.sequence ∈ state.unbacked

end LifecycleDelivery

/-- The outbox and the journal with any calls in any order, by any number of processes. -/
def lifecycleDelivery (kernel : LifecycleStore) : TransitionSystem LifecycleDelivery where
  initial := LifecycleDelivery.Initial
  step := LifecycleDelivery.Step kernel

open List Option Bool

/-! ### The Kernel -/

namespace LifecycleTables

variable {tables after : LifecycleTables} {call : LifecycleCall}

/-- A sequence number stands for an event of one generation. -/
def Assigned (tables : LifecycleTables) (sequence : ℕ) (identity : LifecycleIdentity) : Prop :=
  ∃ original : LifecycleEvent, original.sequence = sequence ∧ Records identity original tables

theorem Assigned.move {sequence : ℕ} {identity : LifecycleIdentity} (sound : tables.Sound)
    (assigned : tables.Assigned sequence identity) (move : LifecycleMove tables after) :
    after.Assigned sequence identity := by
  obtain ⟨original, numbered, records⟩ := assigned
  exact ⟨original, numbered, records.move sound move⟩

variable {identity : LifecycleIdentity}

variable {event : LifecycleEvent}

theorem Assigned.holder {sequence : ℕ} (assigned : tables.Assigned sequence identity)
    (stored : event ∈ tables.outbox) (numbered : event.sequence = sequence) :
    tables.holder event.token = some identity := by
  obtain ⟨original, same, records⟩ := assigned
  exact (records.same event stored (numbered.trans same.symm)).2

theorem Sound.records (sound : tables.Sound) (stored : event ∈ tables.outbox)
    (held : tables.holder event.token = some identity) : Records identity event tables := by
  refine ⟨sound.numbered event stored, fun other there equal => ?_, Or.inl ⟨event, stored, rfl⟩⟩
  have same : other = event := event_of_sequence there stored equal
  rw [same]
  exact ⟨⟨rfl, rfl, rfl, rfl, Or.inl rfl⟩, held⟩

def Undelivering (tables after : LifecycleTables) : Prop :=
  ∀ event ∈ after.outbox, event.delivered = true →
    ∃ old ∈ tables.outbox, old.sequence = event.sequence ∧ old.delivered = true

theorem Undelivering.of_outbox (same : after.outbox = tables.outbox) :
    Undelivering tables after := by
  intro event stored delivered
  rw [same] at stored
  exact ⟨event, stored, rfl, delivered⟩

theorem undelivering_inserted (sound : tables.Sound) (token eventId phase : Identifier)
    (payload : Json.Text) : Undelivering tables (tables.inserted token eventId phase payload) := by
  intro event stored delivered
  rcases sound.mem_inserted.mp stored with rfl | old
  · cases delivered
  · exact ⟨event, old, rfl, delivered⟩

theorem undelivering_prune (sequences : List ℕ) : Undelivering tables (tables.prune sequences) := by
  intro event stored delivered
  obtain ⟨old, there, rfl⟩ := (@mem_rewritten tables _ (prune_rewrites sequences) event).mp stored
  refine ⟨old, there, ((prune_rewrites sequences).sequence old).symm, ?_⟩
  split at delivered <;> exact delivered

theorem undelivering_collected (cutoff : LifecycleIdentity) (sequences : List ℕ)
    (tokens : List Identifier) :
    Undelivering tables (tables.collected cutoff sequences tokens) := fun event stored delivered =>
  ⟨event, (mem_collected_events.mp stored).1, rfl, delivered⟩

variable {token : Identifier}

variable {answer : Bool}

theorem reserveInTransaction_outbox {slots : ℕ}
    (passed : tables.reserveInTransaction identity token slots = .ok (after, answer)) :
    after.outbox = tables.outbox := by
  unfold reserveInTransaction at passed
  obtain ⟨_, _, passed⟩ := bind_eq_ok.mp passed
  split at passed
  · obtain ⟨_, _, passed⟩ := bind_eq_ok.mp passed
    rw [← (Prod.mk.inj (Except.ok.inj passed)).1]
  · split at passed
    · rw [← (Prod.mk.inj (Except.ok.inj passed)).1]
    · rw [← (Prod.mk.inj (Except.ok.inj passed)).1]

variable {expected : Option LifecycleIdentity}

theorem append_undelivering (sound : tables.Sound) {eventId phase : Identifier}
    {payload : List (String × Json)} {answer : ℕ × Bool}
    (passed : tables.append call token eventId phase payload expected = .ok (after, answer)) :
    Undelivering tables after := by
  unfold append at passed
  simp only [passes_iff] at passed
  obtain ⟨_, _, _, producer, _, _, _, questions, _, passed⟩ := passed
  split at passed
  · simp only [passes_iff] at passed
    obtain ⟨_, _, _, passed⟩ := passed
    exact .of_outbox (congrArg outbox (commit_eq_ok.mp passed).2.1)
  · simp only [passes_iff] at passed
    obtain ⟨_, _, passed⟩ := passed
    rw [(commit_eq_ok.mp passed).2.1]
    exact undelivering_inserted sound token eventId phase _

theorem recoverProducer_undelivering (sound : tables.Sound) {proof : List (String × Json)}
    (passed : tables.recoverProducer call token proof expected = .ok (after, answer)) :
    Undelivering tables after := by
  unfold recoverProducer at passed
  simp only [passes_iff] at passed
  obtain ⟨_, passed⟩ := passed
  split at passed
  · exact .of_outbox (congrArg outbox (Prod.mk.inj (Except.ok.inj passed)).1.symm)
  · simp only [passes_iff] at passed
    obtain ⟨_, _, verifier, _, _, _, _, passed⟩ := passed
    split at passed
    · rw [(commit_eq_ok.mp passed).2.1]
      exact .of_outbox rfl
    · simp only [passes_iff] at passed
      obtain ⟨_, _, passed⟩ := passed
      rw [(commit_eq_ok.mp passed).2.1]
      exact undelivering_inserted sound token call.uuid _ _

theorem finish_undelivering (passed : tables.finish call token expected = .ok (after, answer)) :
    Undelivering tables after := by
  unfold finish at passed
  split at passed
  · exact .of_outbox (congrArg outbox (Prod.mk.inj (Except.ok.inj passed)).1.symm)
  · simp only [bind_eq_ok] at passed
    obtain ⟨_, _, questions, _, passed⟩ := passed
    rw [(commit_eq_ok.mp passed).2.1]
    exact .of_outbox rfl

theorem pruneDelivered_undelivering {through cursor limit : ℕ} {answer : ℕ × Option ℕ}
    (passed : tables.pruneDelivered call through cursor limit = .ok (after, answer)) :
    Undelivering tables after := by
  unfold pruneDelivered at passed
  simp only [passes_iff] at passed
  obtain ⟨_, permitted, _, passed⟩ := passed
  rw [(commit_eq_ok.mp passed).2.1]
  exact undelivering_prune _

theorem retireGeneration_undelivering {cutoff : LifecycleIdentity} {limit : ℕ} {answer : Retirement}
    (passed : tables.retireGeneration call cutoff limit = .ok (after, answer)) :
    Undelivering tables after := by
  unfold retireGeneration at passed
  simp only [passes_iff] at passed
  obtain ⟨_, current, _, _, first, _, _, _, second, _, third, _, passed⟩ := passed
  rw [(commit_eq_ok.mp passed).2.1]
  exact undelivering_collected cutoff _ _

end LifecycleTables

theorem LifecycleOperation.undelivering {call : LifecycleCall} {tables after : LifecycleTables}
    (sound : tables.Sound) {operation : LifecycleOperation}
    (passed : operation.run call tables = .ok after)
    (other : ∀ sequence eventId, operation ≠ .ack sequence eventId) :
    LifecycleTables.Undelivering tables after := by
  cases operation with
  | reserve identity token slots =>
    simp only [LifecycleOperation.run, map_eq_ok, Prod.exists] at passed
    obtain ⟨_, answer, passed, rfl⟩ := passed
    unfold LifecycleTables.reserve at passed
    simp only [bind_eq_ok] at passed
    obtain ⟨_, _, current, _, _, _, questions, _, ⟨next, reserved⟩, made, passed⟩ := passed
    rw [(LifecycleTables.commit_eq_ok.mp passed).2.1]
    exact .of_outbox (LifecycleTables.reserveInTransaction_outbox made)
  | reserveForClaim identity token slots =>
    simp only [LifecycleOperation.run, map_eq_ok, Prod.exists] at passed
    obtain ⟨_, answer, passed, rfl⟩ := passed
    unfold LifecycleTables.reserveForClaim at passed
    simp only [bind_eq_ok] at passed
    obtain ⟨_, _, questions, _, ⟨next, reserved⟩, made, passed⟩ := passed
    rw [(LifecycleTables.commit_eq_ok.mp passed).2.1]
    exact .of_outbox (LifecycleTables.reserveInTransaction_outbox made)
  | append token eventId phase payload expected =>
    simp only [LifecycleOperation.run, map_eq_ok, Prod.exists] at passed
    obtain ⟨_, answer, _, passed, rfl⟩ := passed
    exact LifecycleTables.append_undelivering sound passed
  | ack sequence eventId => exact absurd rfl (other sequence eventId)
  | prune through cursor limit =>
    simp only [LifecycleOperation.run, map_eq_ok, Prod.exists] at passed
    obtain ⟨_, answer, _, passed, rfl⟩ := passed
    exact LifecycleTables.pruneDelivered_undelivering passed
  | retire cutoff limit =>
    simp only [LifecycleOperation.run, map_eq_ok, Prod.exists] at passed
    obtain ⟨_, answer, passed, rfl⟩ := passed
    exact LifecycleTables.retireGeneration_undelivering passed
  | recover token proof expected =>
    simp only [LifecycleOperation.run, map_eq_ok, Prod.exists] at passed
    obtain ⟨_, answer, passed, rfl⟩ := passed
    exact LifecycleTables.recoverProducer_undelivering sound passed
  | finish token expected =>
    simp only [LifecycleOperation.run, map_eq_ok, Prod.exists] at passed
    obtain ⟨_, answer, passed, rfl⟩ := passed
    exact LifecycleTables.finish_undelivering passed

namespace LifecycleTables

variable {tables after : LifecycleTables} {call : LifecycleCall}

/-- What an acknowledgement has found before it delivers an event. -/
structure Receives (tables : LifecycleTables) (call : LifecycleCall) (sequence : ℕ)
    (after : LifecycleTables) : Prop where
  /-- What was not delivered before is the event that is acknowledged. -/
  others : ∀ event ∈ after.outbox, event.delivered = true → event.sequence ≠ sequence →
    ∃ old ∈ tables.outbox, old.sequence = event.sequence ∧ old.delivered = true
  asked : Undelivering tables after ∨ ∃ event ∈ tables.outbox, event.sequence = sequence ∧
    ∃ producer payload questions, tables.producers.find? event.token = some producer ∧
      event.payload = some payload ∧ call.authorize producer.identity .ack
        (.receipt call.storeId sequence event.eventId event.phase payload) = .ok questions

theorem ack_receives {sequence : ℕ} {eventId : Identifier} {answer : LifecycleTables × Bool}
    (passed : tables.ack call sequence eventId = .ok answer) :
    Receives tables call sequence answer.1 := by
  have stays : ∀ after : LifecycleTables, after = tables → Receives tables call sequence after := by
    rintro after rfl
    exact ⟨fun event stored delivered _ => ⟨event, stored, rfl, delivered⟩, Or.inl (.of_outbox rfl)⟩
  unfold ack at passed
  split at passed
  · exact stays _ (congrArg Prod.fst (Except.ok.inj passed).symm)
  · rename_i event found
    split at passed
    · exact stays _ (congrArg Prod.fst (Except.ok.inj passed).symm)
    · rename_i producer owned
      obtain ⟨stored, named⟩ := filter_eq_some_iff.mp found
      obtain ⟨member, numbered⟩ := find?_eq_some_iff.mp stored
      simp only [bind_eq_ok, present_eq_ok] at passed
      obtain ⟨payload, retained, questions, permitted, passed⟩ := passed
      obtain ⟨next, told⟩ := answer
      split at passed
      · exact stays _ (commit_eq_ok.mp passed).2.1
      · split at passed
        · exact stays _ (commit_eq_ok.mp passed).2.1
        · rw [(commit_eq_ok.mp passed).2.1]
          have same := of_decide_eq_true named
          subst same
          refine ⟨fun other there delivered differs => ?_, Or.inr
            ⟨event, member, numbered, producer, payload, questions, owned, retained, permitted⟩⟩
          obtain ⟨old, before, rfl⟩ :=
            (@mem_rewritten tables _ (deliver_rewrites sequence event.eventId) other).mp there
          have kept := (deliver_rewrites sequence event.eventId).sequence old
          refine ⟨old, before, kept.symm, ?_⟩
          split at delivered
          · rename_i hit
            exact absurd (kept.trans hit.1) differs
          · exact delivered

theorem authorize_ack {identity : LifecycleIdentity} {evidence : LifecycleEvidence}
    {verifier : LifecycleQuestion → Option LifecycleClaim} (given : call.verifier = some verifier)
    {questions : List LifecycleQuestion}
    (passed : call.authorize identity .ack evidence = .ok questions) :
    ∃ claim, verifier ⟨.ack, identity, call.membership identity.executionId, evidence⟩ =
      some claim ∧ claim.receiverCommitted = true := by
  unfold LifecycleCall.authorize at passed
  rw [given] at passed
  simp only [bind_eq_ok] at passed
  obtain ⟨_, verified, _⟩ := passed
  unfold LifecycleCall.verify at verified
  simp only [passes_iff] at verified
  obtain ⟨claim, answered, _, _, _, _, _, _, committed⟩ := verified
  exact ⟨claim, answered, committed trivial⟩

end LifecycleTables

/-! ### The proof -/

/-- What the Kernel has proved to a caller: the event that it describes is in the outbox, and its
generation is not retired. -/
structure LifecycleStore.Proved (kernel : LifecycleStore) (tables : LifecycleTables)
    (storeId : Identifier) (claim : EventClaim) : Prop where
  own : storeId = kernel.storeId
  current : ¬ tables.Retired claim.identity
  event : ∃ event ∈ tables.outbox, event.sequence = claim.sequence ∧
    tables.holder event.token = some claim.identity ∧ event.phase = claim.phase ∧
      event.payload = some claim.encoded ∧
        ∀ noteId ∈ claim.legacyNoteId, noteId = event.eventId
  mode : claim.sequence ≤ kernel.legacyMaxSequence ↔ claim.legacyNoteId.isSome = true

variable {kernel : LifecycleStore} {tables : LifecycleTables}

theorem LifecycleStore.proveCurrent_eq_ok {storeId : Identifier} {claim : EventClaim}
    (passed : kernel.proveCurrent tables storeId claim = .ok ()) :
    kernel.Proved tables storeId claim := by
  unfold proveCurrent retiredWatermark proveEvent at passed
  simp only [passes_iff] at passed
  obtain ⟨_, ⟨own, ⟨mode, event, found, producer, held, named, phase, payload, legacy⟩, same⟩,
    current⟩ := passed
  cases same
  obtain ⟨stored, numbered⟩ := find?_eq_some_iff.mp found
  refine ⟨own, ?_, ⟨event, stored, numbered, ?_, phase, payload, legacy⟩, mode⟩
  · rintro ⟨cutoff, watermark, below⟩
    exact current cutoff watermark below
  · rw [LifecycleTables.holder_of_find? held, named]

theorem LifecycleStore.retiredWatermark_eq_ok {storeId executionId : Identifier}
    {watermark : Option LifecycleIdentity}
    (passed : kernel.retiredWatermark tables storeId executionId none = .ok watermark) :
    storeId = kernel.storeId ∧ watermark = tables.retired.find? executionId := by
  unfold retiredWatermark at passed
  simp only [passes_iff] at passed
  exact ⟨passed.1, (Except.ok.inj passed.2).symm⟩

/-! ### The calls on the journal -/

namespace ReceiptJournal

variable {journal after : ReceiptJournal}

/-- What `note` does. -/
theorem note_eq_ok {identity : SettlementIdentity} {phase : Identifier} {evidence : Json}
    {noteId : Option Identifier} {uuid : Identifier}
    (passed : journal.note identity phase evidence noteId uuid = .ok after) :
    after = journal ∨ ∃ name generation encoded,
      after = journal.noted name generation phase encoded := by
  unfold note at passed
  simp only [passes_iff] at passed
  obtain ⟨key, _, _, encoded, _, passed⟩ := passed
  split at passed
  · exact .inr ⟨_, _, encoded, (Except.ok.inj passed).symm⟩
  · simp only [passes_iff] at passed
    exact .inl (Except.ok.inj passed.2).symm

variable {uuids : List Identifier}

theorem allocate_eq_ok {legacyNoteId : Option Identifier} {noteId : Identifier}
    (passed : journal.allocate legacyNoteId uuids = .ok noteId) :
    ∀ legacy ∈ legacyNoteId, noteId = legacy := by
  unfold allocate at passed
  split at passed
  · simp only [passes_iff] at passed
    intro legacy given
    cases given
    exact (Except.ok.inj passed.2).symm
  · rintro legacy ⟨⟩

variable {storeId : Identifier}

variable {claim : EventClaim}

/-- What `lifecycle_note` has checked and done. -/
theorem lifecycleNote_eq_ok
    (passed : journal.lifecycleNote kernel tables storeId claim uuids = .ok after) :
    kernel.Proved tables storeId claim ∧
      ((after = journal ∧ ∃ receipt, journal.receipts.find? (storeId, claim.sequence) =
          some receipt) ∨
        (journal.receipts.find? (storeId, claim.sequence) = none ∧ ∃ noteId,
          (∀ legacy ∈ claim.legacyNoteId, noteId = legacy) ∧
            after = (journal.noted noteId claim.identity claim.phase claim.encoded).bound
              ⟨storeId, claim.sequence, journal.lastNote + 1⟩)) := by
  unfold lifecycleNote at passed
  simp only [passes_iff, Prod.exists] at passed
  obtain ⟨_, proved, next, noteSequence, assigned, note, _, _, answered⟩ := passed
  obtain rfl := Except.ok.inj answered
  refine ⟨LifecycleStore.proveCurrent_eq_ok proved, ?_⟩
  unfold assign at assigned
  split at assigned
  · rename_i receipt found
    cases assigned
    exact .inl ⟨rfl, receipt, found⟩
  · rename_i absent
    simp only [bind_eq_ok] at assigned
    obtain ⟨noteId, allocated, made⟩ := assigned
    cases made
    exact .inr ⟨absent, noteId, allocate_eq_ok allocated, rfl⟩

/-- What `reconcile_legacy_lifecycle_receipt` has checked and done. -/
theorem reconcile_eq_ok {noteSequence : ℕ} {attested confirmed : Bool}
    (passed : journal.reconcileLegacyLifecycleReceipt kernel tables storeId claim noteSequence
      attested confirmed = .ok after) :
    kernel.Proved tables storeId claim ∧ ∃ note, journal.notes.find? noteSequence = some note ∧
      some note.noteId = claim.legacyNoteId ∧
        note.Carries claim.identity claim.phase claim.encoded ∧
          ((after = journal ∧ ∃ receipt, journal.receipts.find? (storeId, claim.sequence) =
              some receipt) ∨
            (journal.receipts.find? (storeId, claim.sequence) = none ∧
              (∀ receipt ∈ journal.receipts, receipt.noteSequence ≠ noteSequence) ∧
                after = journal.bound ⟨storeId, claim.sequence, noteSequence⟩)) := by
  unfold reconcileLegacyLifecycleReceipt at passed
  simp only [passes_iff] at passed
  obtain ⟨_, _, proved, note, found, ⟨named, carries⟩, _, single, _, passed⟩ := passed
  refine ⟨LifecycleStore.proveCurrent_eq_ok proved, note, found, named, carries, ?_⟩
  split at passed
  · rename_i receipt mapped
    exact .inl ⟨(Except.ok.inj passed).symm, receipt, mapped⟩
  · rename_i absent
    refine Or.inr ⟨absent, fun receipt stored same => ?_, (Except.ok.inj passed).symm⟩
    exact find?_eq_none_iff.mp absent receipt stored (single receipt stored same)

variable {cutoff : LifecycleIdentity}

theorem prunable_iff {receipt : LifecycleReceipt} :
    journal.prunable storeId cutoff receipt = true ↔
      receipt.storeId = storeId ∧ ∃ note, journal.notes.find? receipt.noteSequence = some note ∧
        note.identity.executionId = cutoff.executionId ∧
          note.identity.generation ≤ cutoff.generation := by
  unfold prunable
  rw [Bool.and_eq_true, decide_eq_true_iff, Option.any_eq_true]
  simp only [decide_eq_true_eq]

/-- What `prune_lifecycle_notes` has checked and done. -/
theorem pruneLifecycleNotes_eq_ok {limit : ℕ}
    {answer : ReceiptJournal × List LifecycleReceipt × Bool}
    (passed : journal.pruneLifecycleNotes kernel tables storeId cutoff limit = .ok answer) :
    answer.1 = journal.without answer.2.1 ∧ ∀ receipt ∈ answer.2.1, receipt ∈ journal.receipts ∧
      ∃ note, journal.notes.find? receipt.noteSequence = some note ∧
        tables.Retired note.identity := by
  unfold pruneLifecycleNotes at passed
  simp only [passes_iff] at passed
  obtain ⟨_, watermark, read, ⟨retired, reached, below⟩, answered⟩ := passed
  obtain ⟨_, rfl⟩ := LifecycleStore.retiredWatermark_eq_ok read
  cases answered
  refine ⟨rfl, fun receipt member => ?_⟩
  have chosen := mem_of_mem_take member
  rw [mem_insertionSort, mem_filter] at chosen
  obtain ⟨_, note, found, named, covered⟩ := prunable_iff.mp chosen.2
  refine ⟨chosen.1, note, found, retired, ?_, covered.trans below⟩
  rw [named]
  exact reached

end ReceiptJournal

/-! ### What holds at any time -/

/-- The note is what was proved of the event with a number. -/
structure LifecycleTables.Describes (kernel : LifecycleStore) (tables : LifecycleTables)
    (note : LifecycleNote) (original : LifecycleEvent) : Prop where
  phase : original.phase = note.phase
  payload : original.payload = some note.evidenceJson
  legacy : original.sequence ≤ kernel.legacyMaxSequence → note.noteId = original.eventId
  records : LifecycleTables.Records note.identity original tables

namespace LifecycleDelivery

variable {state next : LifecycleDelivery}

def Received (state : LifecycleDelivery) (sequence : ℕ) : Prop :=
  ∃ receipt ∈ state.journal.receipts, receipt.outboxSequence = sequence

/-- The event with a number belongs to a generation that is retired. -/
def Expired (state : LifecycleDelivery) (sequence : ℕ) : Prop :=
  ∃ identity, state.tables.Assigned sequence identity ∧ state.tables.Retired identity

structure Sound (kernel : LifecycleStore) (state : LifecycleDelivery) : Prop where
  tables : state.tables.Sound
  numbered : ∀ note ∈ state.journal.notes, note.sequence ≤ state.journal.lastNote
  mapped : ∀ receipt ∈ state.journal.receipts, receipt.storeId = kernel.storeId ∧
    ∃ note original, state.journal.notes.find? receipt.noteSequence = some note ∧
      original.sequence = receipt.outboxSequence ∧
        LifecycleTables.Describes kernel state.tables note original
  single : ∀ left ∈ state.journal.receipts, ∀ right ∈ state.journal.receipts,
    left.noteSequence = right.noteSequence → left = right
  pruned : ∀ sequence identity, (sequence, identity) ∈ state.pruned →
    state.tables.Assigned sequence identity ∧ state.tables.Retired identity ∧
      ¬ state.Received sequence
  told : ∀ sequence ∈ state.told, state.Received sequence ∨ state.Expired sequence
  delivered : ∀ event ∈ state.tables.outbox, event.delivered = true →
    event.sequence ∉ state.unbacked →
      state.Received event.sequence ∨ state.Expired event.sequence

theorem Initial.sound (initial : state.Initial) : state.Sound kernel := by
  obtain ⟨tables, numbered, receipts, told, pruned, unbacked⟩ := initial
  refine ⟨lifecycleOutbox_sound tables, numbered, fun receipt stored => ?_,
    fun left stored => ?_, fun sequence identity gone => ?_, fun sequence member => ?_,
    fun event stored delivered free => absurd (unbacked event stored delivered) free⟩
  · rw [receipts] at stored
    cases stored
  · rw [receipts] at stored
    cases stored
  · rw [pruned] at gone
    cases gone
  · rw [told] at member
    cases member

/-! ### Steps of the Kernel -/

variable {after : LifecycleTables} {journal : ReceiptJournal}

theorem Expired.move {sequence : ℕ} (sound : state.tables.Sound) (expired : state.Expired sequence)
    (move : LifecycleMove state.tables after)
    (same : next.tables = after) : next.Expired sequence := by
  obtain ⟨identity, assigned, retired⟩ := expired
  refine ⟨identity, ?_, ?_⟩
  · rw [same]
    exact assigned.move sound move
  · rw [same]
    exact LifecycleTables.retired_of_move move retired

/-- A call on the outbox keeps what holds, if what it delivers is received or is taken at the
caller's word. -/
theorem Sound.operated (sound : state.Sound kernel)
    (move : LifecycleMove state.tables after) {unbacked : List ℕ} (more : state.unbacked ⊆ unbacked)
    (backed : ∀ event ∈ after.outbox, event.delivered = true → event.sequence ∉ unbacked →
      (∃ old ∈ state.tables.outbox, old.sequence = event.sequence ∧ old.delivered = true) ∨
        state.Received event.sequence ∨ state.Expired event.sequence) :
    Sound kernel { state with tables := after, unbacked } := by
  have expired : ∀ sequence, state.Expired sequence →
      Expired { state with tables := after, unbacked } sequence :=
    fun sequence old => old.move sound.tables move rfl
  refine ⟨move.sound sound.tables, sound.numbered, fun receipt stored => ?_, sound.single,
    fun sequence identity gone => ?_, fun sequence member => ?_,
    fun event stored delivered free => ?_⟩
  · obtain ⟨own, note, original, found, equal, phase, payload, legacy, records⟩ :=
      sound.mapped receipt stored
    exact ⟨own, note, original, found, equal, phase, payload, legacy,
      records.move sound.tables move⟩
  · obtain ⟨assigned, retired, none⟩ := sound.pruned sequence identity gone
    exact ⟨assigned.move sound.tables move, LifecycleTables.retired_of_move move retired, none⟩
  · exact (sound.told sequence member).imp id (expired sequence)
  · have known : state.Received event.sequence ∨ state.Expired event.sequence := by
      rcases backed event stored delivered free with ⟨old, there, equal, before⟩ | known
      · rw [← equal]
        refine sound.delivered old there before fun listed => free ?_
        rw [← equal]
        exact more listed
      · exact known
    exact known.imp id (expired event.sequence)

variable {sequence : ℕ}

theorem Sound.acknowledged (sound : state.Sound kernel) {eventId : Identifier}
    {call : LifecycleCall} (own : call.storeId = kernel.storeId) {answer : LifecycleTables × Bool}
    (passed : state.tables.ack call sequence eventId = .ok answer)
    (backed : state.Backed kernel call sequence) :
    Sound kernel { state with tables := answer.1 } := by
  have move : LifecycleMove state.tables answer.1 := LifecycleTables.ack_moves passed
  have receives := LifecycleTables.ack_receives passed
  refine sound.operated move (List.Subset.refl _) fun event stored delivered _ => ?_
  by_cases here : event.sequence = sequence
  · rcases receives.asked with none | ⟨old, there, numbered, producer, payload, questions, owned,
      retained, permitted⟩
    · exact .inl (none event stored delivered)
    · refine Or.inr ?_
      rw [here]
      rcases backed with known | ⟨verifier, given, exact⟩
      · exact sound.told sequence known
      · obtain ⟨claim, answered, committed⟩ := LifecycleTables.authorize_ack given permitted
        rw [own] at answered
        obtain ⟨receipt, found, _⟩ := exact _ _ _ _ _ _ claim answered committed
        exact .inl ⟨receipt, mem_of_find? found, congrArg Prod.snd (key_of_find? found)⟩
  · exact .inl (receives.others event stored delivered here)

/-! ### Steps of the journal -/

theorem Sound.note_fresh (sound : state.Sound kernel) :
    state.journal.notes.find? (state.journal.lastNote + 1) = none := by
  refine find?_eq_none_iff.mpr fun note stored same => ?_
  have bound := sound.numbered note stored
  omega

theorem Sound.find?_noted (sound : state.Sound kernel) {noteId : Identifier}
    {identity : LifecycleIdentity} {phase : Identifier} {encoded : Json.Text}
    {note : LifecycleNote} (found : state.journal.notes.find? sequence = some note) :
    (state.journal.noted noteId identity phase encoded).notes.find? sequence = some note := by
  refine (find?_put_other _ fun same => ?_).trans found
  have fresh := sound.note_fresh
  rw [show sequence = state.journal.lastNote + 1 from same] at found
  cases found.symm.trans fresh

theorem Sound.noted (sound : state.Sound kernel) (noteId : Identifier)
    (identity : LifecycleIdentity) (phase : Identifier) (encoded : Json.Text) :
    Sound kernel { state with journal := state.journal.noted noteId identity phase encoded } := by
  refine ⟨sound.tables, fun note stored => ?_, fun receipt stored => ?_, sound.single,
    sound.pruned, sound.told, sound.delivered⟩
  · rcases mem_put.mp stored with rfl | ⟨old, _⟩
    · exact le_rfl
    · exact (sound.numbered note old).trans (Nat.le_succ _)
  · obtain ⟨own, note, original, found, rest⟩ := sound.mapped receipt stored
    exact ⟨own, note, original, sound.find?_noted found, rest⟩

theorem Sound.bound (sound : state.Sound kernel) {storeId : Identifier} {claim : EventClaim}
    (proved : kernel.Proved state.tables storeId claim)
    (absent : state.journal.receipts.find? (storeId, claim.sequence) = none) {note : LifecycleNote}
    (stored : state.journal.notes.find? note.sequence = some note)
    (carries : note.Carries claim.identity claim.phase claim.encoded)
    (legacy : ∀ noteId ∈ claim.legacyNoteId, note.noteId = noteId)
    (single : ∀ receipt ∈ state.journal.receipts, receipt.noteSequence ≠ note.sequence) :
    Sound kernel
      { state with journal := state.journal.bound ⟨storeId, claim.sequence, note.sequence⟩ } := by
  obtain ⟨own, current, ⟨event, there, numbered, held, phase, payload, named⟩, mode⟩ := proved
  obtain ⟨sameIdentity, samePhase, sameText⟩ := carries
  have received : ∀ sequence, state.Received sequence → Received
      { state with journal := state.journal.bound ⟨storeId, claim.sequence, note.sequence⟩ }
        sequence := by
    rintro sequence ⟨receipt, member, equal⟩
    exact ⟨receipt, mem_put_of_fresh _ absent member, equal⟩
  refine ⟨sound.tables, sound.numbered, fun receipt member => ?_, fun left leftMember right
    rightMember same => ?_, fun sequence identity gone => ?_, fun sequence known =>
      (sound.told sequence known).imp (received sequence) id, fun other kept delivered free =>
        (sound.delivered other kept delivered free).imp (received _) id⟩
  · rcases mem_put.mp member with rfl | ⟨old, _⟩
    · refine ⟨own, note, event, stored, numbered, phase.trans samePhase.symm, ?_, fun early => ?_, ?_⟩
      · rw [payload, sameText]
      · obtain ⟨noteId, given⟩ := isSome_iff_exists.mp (mode.mp (numbered ▸ early))
        exact (legacy noteId given).trans (named noteId given)
      · rw [sameIdentity]
        exact sound.tables.records there held
    · exact sound.mapped receipt old
  · rcases mem_put.mp leftMember with rfl | ⟨leftOld, _⟩
    · rcases mem_put.mp rightMember with rfl | ⟨rightOld, _⟩
      · rfl
      · exact absurd same.symm (single right rightOld)
    · rcases mem_put.mp rightMember with rfl | ⟨rightOld, _⟩
      · exact absurd same (single left leftOld)
      · exact sound.single left leftOld right rightOld same
  · obtain ⟨assigned, retired, none⟩ := sound.pruned sequence identity gone
    refine ⟨assigned, retired, ?_⟩
    rintro ⟨receipt, member, equal⟩
    rcases mem_put.mp member with rfl | ⟨old, _⟩
    · have mine := assigned.holder there (numbered.trans equal)
      rw [held] at mine
      exact current (Option.some.inj mine ▸ retired)
    · exact none ⟨receipt, old, equal⟩

theorem Sound.heard (sound : state.Sound kernel) (received : state.Received sequence)
    (heard : Bool) :
    Sound kernel { state with told := if heard then sequence :: state.told else state.told } := by
  refine ⟨sound.tables, sound.numbered, sound.mapped, sound.single, sound.pruned,
    fun other known => ?_, sound.delivered⟩
  split at known
  · rcases mem_cons.mp known with rfl | old
    · exact .inl received
    · exact sound.told other old
  · exact sound.told other known

variable {gone : List LifecycleReceipt}

theorem mem_without {receipt : LifecycleReceipt} :
    receipt ∈ (journal.without gone).receipts ↔
      receipt ∈ journal.receipts ∧ receipt.key ∉ gone.map LifecycleReceipt.key := by
  unfold ReceiptJournal.without
  rw [mem_keep, not_eq_true', decide_eq_false_iff_not]

theorem find?_without {note : LifecycleNote} :
    (journal.without gone).notes.find? sequence = some note ↔
      journal.notes.find? sequence = some note ∧
        note.sequence ∉ gone.map LifecycleReceipt.noteSequence := by
  unfold ReceiptJournal.without
  rw [find?_eq_some_iff, find?_eq_some_iff, mem_keep, not_eq_true', decide_eq_false_iff_not]
  exact ⟨fun ⟨⟨stored, kept⟩, same⟩ => ⟨⟨stored, same⟩, kept⟩,
    fun ⟨⟨stored, same⟩, kept⟩ => ⟨⟨stored, kept⟩, same⟩⟩

theorem Received.prune (received : state.Received sequence)
    (listed : ∀ receipt ∈ gone, receipt ∈ state.journal.receipts ∧
      ∃ note, state.journal.notes.find? receipt.noteSequence = some note ∧
        state.tables.Retired note.identity) (sound : state.Sound kernel) :
    (state.prune (state.journal.without gone) gone).Received sequence ∨
      (state.prune (state.journal.without gone) gone).Expired sequence := by
  obtain ⟨receipt, stored, equal⟩ := received
  by_cases lost : receipt.key ∈ gone.map LifecycleReceipt.key
  · obtain ⟨other, member, same⟩ := mem_map.mp lost
    have here : other = receipt := eq_of_key_eq (listed other member).1 stored same
    subst here
    obtain ⟨_, note, original, found, numbered, _, _, _, records⟩ := sound.mapped other stored
    obtain ⟨_, again, foundAgain, retired⟩ := listed other member
    obtain rfl := Option.some.inj (found.symm.trans foundAgain)
    exact .inr ⟨note.identity, ⟨original, numbered.trans equal, records⟩, retired⟩
  · exact .inl ⟨receipt, mem_without.mpr ⟨stored, lost⟩, equal⟩

theorem Sound.prune (sound : state.Sound kernel)
    (listed : ∀ receipt ∈ gone, receipt ∈ state.journal.receipts ∧
      ∃ note, state.journal.notes.find? receipt.noteSequence = some note ∧
        state.tables.Retired note.identity) :
    Sound kernel (state.prune (state.journal.without gone) gone) := by
  have kept : ∀ receipt ∈ (state.journal.without gone).receipts, receipt ∈ state.journal.receipts :=
    fun receipt stored => (mem_without.mp stored).1
  refine ⟨sound.tables, fun note stored => sound.numbered note (mem_keep.mp stored).1,
    fun receipt stored => ?_, fun left leftStored right rightStored =>
      sound.single left (kept left leftStored) right (kept right rightStored),
    fun sequence identity lost => ?_, fun sequence known => ?_,
    fun event stored delivered free => ?_⟩
  · obtain ⟨old, free⟩ := mem_without.mp stored
    obtain ⟨own, note, original, found, rest⟩ := sound.mapped receipt old
    refine ⟨own, note, original, find?_without.mpr ⟨found, fun lost => free ?_⟩, rest⟩
    obtain ⟨other, member, same⟩ := mem_map.mp lost
    have equal : other = receipt :=
      sound.single other (listed other member).1 receipt old (same.trans (key_of_find? found))
    exact mem_map.mpr ⟨other, member, congrArg _ equal⟩
  · rcases mem_append.mp lost with new | old
    · obtain ⟨receipt, member, made⟩ := mem_filterMap.mp new
      obtain ⟨note, found, pair⟩ := map_eq_some_iff.mp made
      cases pair
      obtain ⟨stored, again, foundAgain, retired⟩ := listed receipt member
      obtain rfl := Option.some.inj (found.symm.trans foundAgain)
      obtain ⟨own, same, original, foundSame, numbered, _, _, _, records⟩ :=
        sound.mapped receipt stored
      obtain rfl := Option.some.inj (found.symm.trans foundSame)
      refine ⟨⟨original, numbered, records⟩, retired, ?_⟩
      rintro ⟨other, there, equal⟩
      obtain ⟨present, free⟩ := mem_without.mp there
      have mine : other.key = receipt.key := by
        unfold LifecycleReceipt.key
        rw [equal, (sound.mapped other present).1, own]
      exact free (mine ▸ mem_map.mpr ⟨receipt, member, rfl⟩)
    · obtain ⟨assigned, retired, none⟩ := sound.pruned sequence identity old
      refine ⟨assigned, retired, ?_⟩
      rintro ⟨receipt, there, equal⟩
      exact none ⟨receipt, kept receipt there, equal⟩
  · rcases sound.told sequence known with received | expired
    · exact received.prune listed sound
    · exact .inr expired
  · rcases sound.delivered event stored delivered free with received | expired
    · exact received.prune listed sound
    · exact .inr expired

end LifecycleDelivery

namespace ReceiptJournal

theorem claimOf_eq_ok {identity : SettlementIdentity} {phase : Identifier} {evidence : Json}
    {sequence : ℕ} {legacyNoteId : Option Identifier} {claim : EventClaim}
    (described : claimOf identity phase evidence sequence legacyNoteId = .ok claim) :
    claim.sequence = sequence := by
  unfold claimOf at described
  simp only [passes_iff] at described
  obtain ⟨_, _, _, _, _, _, made⟩ := described
  rw [← Except.ok.inj made]

end ReceiptJournal

namespace LifecycleDelivery

variable {state next last : LifecycleDelivery}

/-! ### One step -/

variable {storeId : Identifier} {claim : EventClaim} {journal : ReceiptJournal}

theorem Sound.received (sound : state.Sound kernel) {uuids : List Identifier}
    (passed : state.journal.lifecycleNote kernel state.tables storeId claim uuids = .ok journal) :
    Sound kernel { state with journal } ∧
      Received { state with journal } claim.sequence := by
  obtain ⟨proved, ⟨rfl, receipt, found⟩ | ⟨absent, noteId, legacy, rfl⟩⟩ :=
    ReceiptJournal.lifecycleNote_eq_ok passed
  · exact ⟨sound, receipt, mem_of_find? found, congrArg Prod.snd (key_of_find? found)⟩
  · have written := sound.noted noteId claim.identity claim.phase claim.encoded
    refine ⟨@Sound.bound kernel _ written storeId claim proved absent
      ⟨state.journal.lastNote + 1, noteId, claim.identity, claim.phase, claim.encoded⟩
      (find?_put_same _ _) ⟨rfl, rfl, rfl⟩ legacy fun receipt stored same => ?_,
      ⟨storeId, claim.sequence, state.journal.lastNote + 1⟩, mem_put.mpr (.inl rfl), rfl⟩
    obtain ⟨_, note, original, there, _⟩ := sound.mapped receipt stored
    have bound := sound.numbered note (mem_of_find? there)
    rw [key_of_find? there] at bound
    have equal : receipt.noteSequence = state.journal.lastNote + 1 := same
    omega

theorem Sound.reconciled (sound : state.Sound kernel) {noteSequence : ℕ} {attested confirmed : Bool}
    (passed : state.journal.reconcileLegacyLifecycleReceipt kernel state.tables storeId claim
      noteSequence attested confirmed = .ok journal) :
    Sound kernel { state with journal } ∧
      Received { state with journal } claim.sequence := by
  obtain ⟨proved, note, there, named, carries, ⟨rfl, receipt, found⟩ | ⟨absent, single, rfl⟩⟩ :=
    ReceiptJournal.reconcile_eq_ok passed
  · exact ⟨sound, receipt, mem_of_find? found, congrArg Prod.snd (key_of_find? found)⟩
  · obtain rfl := key_of_find? there
    refine ⟨sound.bound proved absent there carries (fun noteId given => ?_) single,
      ⟨storeId, claim.sequence, note.sequence⟩, mem_put.mpr (.inl rfl), rfl⟩
    rw [given] at named
    exact Option.some.inj named

theorem Step.sound (step : state.Step kernel next) (sound : state.Sound kernel) :
    next.Sound kernel := by
  cases step with
  | operated operation call after passed other =>
    exact sound.operated (LifecycleOperation.moves passed) (List.Subset.refl _)
      fun event stored delivered _ =>
        Or.inl (LifecycleOperation.undelivering sound.tables passed other event stored delivered)
  | acknowledged sequence eventId call own answer passed backed =>
    exact sound.acknowledged own passed backed
  | trusted sequence eventId call own answer passed =>
    refine sound.operated (LifecycleTables.ack_moves passed) (subset_cons_self _ _)
      fun event stored delivered free => Or.inl ?_
    exact (LifecycleTables.ack_receives passed).others event stored delivered
      fun same => free (same ▸ mem_cons_self)
  | diagnosed identity phase evidence noteId uuid journal passed =>
    rcases ReceiptJournal.note_eq_ok passed with rfl | ⟨name, generation, encoded, rfl⟩
    · exact sound
    · exact sound.noted name generation phase encoded
  | noted identity phase evidence storeId sequence legacyNoteId uuids claim described journal passed
      heard =>
    obtain ⟨kept, received⟩ := sound.received passed
    rw [ReceiptJournal.claimOf_eq_ok described] at received
    exact kept.heard received heard
  | reconciled identity phase evidence storeId sequence legacyNoteId noteSequence attested confirmed
      claim described journal passed heard =>
    obtain ⟨kept, received⟩ := sound.reconciled passed
    rw [ReceiptJournal.claimOf_eq_ok described] at received
    exact kept.heard received heard
  | prunedNotes storeId cutoff limit answer passed =>
    obtain ⟨same, listed⟩ := ReceiptJournal.pruneLifecycleNotes_eq_ok passed
    rw [same]
    exact sound.prune listed
  | stopped told fewer =>
    exact ⟨sound.tables, sound.numbered, sound.mapped, sound.single, sound.pruned,
      fun sequence known => sound.told sequence (fewer known), sound.delivered⟩

theorem sound (reachable : (lifecycleDelivery kernel).Reachable state) : state.Sound kernel :=
  reachable.invariant (Sound kernel) (fun _ initial => Initial.sound initial)
    fun _ _ _ sound step => Step.sound step sound

/-! ### What becomes of a receipt and of a note -/

/-- A receipt stays, or it is listed as pruned; and the list only grows. -/
structure Follows (state next : LifecycleDelivery) : Prop where
  received : ∀ sequence, state.Received sequence →
    next.Received sequence ∨ ∃ identity, (sequence, identity) ∈ next.pruned
  pruned : state.pruned ⊆ next.pruned

theorem Follows.refl (state : LifecycleDelivery) : state.Follows state :=
  ⟨fun _ received => Or.inl received, List.Subset.refl _⟩

theorem Follows.trans {first second third : LifecycleDelivery} (early : first.Follows second)
    (late : second.Follows third) : first.Follows third := by
  refine ⟨fun sequence received => ?_, List.Subset.trans early.pruned late.pruned⟩
  rcases early.received sequence received with still | ⟨identity, gone⟩
  · exact late.received sequence still
  · exact .inr ⟨identity, late.pruned gone⟩

theorem Follows.of_receipts
    (kept : ∀ receipt ∈ state.journal.receipts, receipt ∈ next.journal.receipts)
    (same : next.pruned = state.pruned) : state.Follows next := by
  refine ⟨fun sequence received => Or.inl ?_, ?_⟩
  · obtain ⟨receipt, stored, equal⟩ := received
    exact ⟨receipt, kept receipt stored, equal⟩
  · rw [same]
    exact List.Subset.refl _

theorem Step.follows (step : state.Step kernel next) : state.Follows next := by
  cases step with
  | operated operation call after passed other => exact .of_receipts (fun _ stored => stored) rfl
  | acknowledged sequence eventId call own answer passed backed =>
    exact .of_receipts (fun _ stored => stored) rfl
  | trusted sequence eventId call own answer passed =>
    exact .of_receipts (fun _ stored => stored) rfl
  | diagnosed identity phase evidence noteId uuid journal passed =>
    rcases ReceiptJournal.note_eq_ok passed with rfl | ⟨name, generation, encoded, rfl⟩
    · exact .of_receipts (fun _ stored => stored) rfl
    · exact .of_receipts (fun _ stored => stored) rfl
  | noted identity phase evidence storeId sequence legacyNoteId uuids claim described journal passed
      heard =>
    obtain ⟨_, ⟨rfl, _⟩ | ⟨absent, noteId, _, rfl⟩⟩ := ReceiptJournal.lifecycleNote_eq_ok passed
    · exact .of_receipts (fun _ stored => stored) rfl
    · exact .of_receipts (fun _ stored => mem_put_of_fresh _ absent stored) rfl
  | reconciled identity phase evidence storeId sequence legacyNoteId noteSequence attested confirmed
      claim described journal passed heard =>
    obtain ⟨_, note, _, _, _, ⟨rfl, _⟩ | ⟨absent, _, rfl⟩⟩ := ReceiptJournal.reconcile_eq_ok passed
    · exact .of_receipts (fun _ stored => stored) rfl
    · exact .of_receipts (fun _ stored => mem_put_of_fresh _ absent stored) rfl
  | prunedNotes storeId cutoff limit answer passed =>
    obtain ⟨same, listed⟩ := ReceiptJournal.pruneLifecycleNotes_eq_ok passed
    refine ⟨fun sequence received => ?_, subset_append_right _ _⟩
    obtain ⟨receipt, stored, equal⟩ := received
    by_cases lost : receipt.key ∈ answer.2.1.map LifecycleReceipt.key
    · obtain ⟨other, member, mine⟩ := mem_map.mp lost
      have here : other = receipt := eq_of_key_eq (listed other member).1 stored mine
      subst here
      obtain ⟨_, note, found, _⟩ := listed other member
      refine Or.inr ⟨note.identity, mem_append_left _ (mem_filterMap.mpr
        ⟨other, member, ?_⟩)⟩
      rw [found, ← equal]
      rfl
    · refine Or.inl ⟨receipt, ?_, equal⟩
      show receipt ∈ answer.1.receipts
      rw [same]
      exact mem_without.mpr ⟨stored, lost⟩
  | stopped told fewer => exact .of_receipts (fun _ stored => stored) rfl

theorem Step.note (step : state.Step kernel next) (sound : state.Sound kernel)
    {note : LifecycleNote} (stored : note ∈ state.journal.notes) :
    note ∈ next.journal.notes ∨ (state.tables.Retired note.identity ∧
      ∃ receipt ∈ state.journal.receipts, receipt.noteSequence = note.sequence) := by
  have added : ∀ noteId identity phase encoded,
      note ∈ (state.journal.noted noteId identity phase encoded).notes :=
    fun _ _ _ _ => mem_put_of_fresh _ sound.note_fresh stored
  cases step with
  | operated operation call after passed other => exact .inl stored
  | acknowledged sequence eventId call own answer passed backed => exact .inl stored
  | trusted sequence eventId call own answer passed => exact .inl stored
  | diagnosed identity phase evidence noteId uuid journal passed =>
    rcases ReceiptJournal.note_eq_ok passed with rfl | ⟨name, generation, encoded, rfl⟩
    · exact .inl stored
    · exact .inl (added name generation phase encoded)
  | noted identity phase evidence storeId sequence legacyNoteId uuids claim described journal passed
      heard =>
    obtain ⟨_, ⟨rfl, _⟩ | ⟨absent, noteId, _, rfl⟩⟩ := ReceiptJournal.lifecycleNote_eq_ok passed
    · exact .inl stored
    · exact .inl (added noteId claim.identity claim.phase claim.encoded)
  | reconciled identity phase evidence storeId sequence legacyNoteId noteSequence attested confirmed
      claim described journal passed heard =>
    obtain ⟨_, other, _, _, _, ⟨rfl, _⟩ | ⟨absent, _, rfl⟩⟩ := ReceiptJournal.reconcile_eq_ok passed
    · exact .inl stored
    · exact .inl stored
  | prunedNotes storeId cutoff limit answer passed =>
    obtain ⟨same, listed⟩ := ReceiptJournal.pruneLifecycleNotes_eq_ok passed
    by_cases lost : note.sequence ∈ answer.2.1.map LifecycleReceipt.noteSequence
    · obtain ⟨receipt, member, equal⟩ := mem_map.mp lost
      obtain ⟨there, other, found, retired⟩ := listed receipt member
      rw [equal, find?_key stored] at found
      rw [← Option.some.inj found] at retired
      exact .inr ⟨retired, receipt, there, equal⟩
    · refine Or.inl ?_
      show note ∈ answer.1.notes
      rw [same]
      refine mem_of_find? (find?_without.mpr ⟨find?_key stored, lost⟩)
  | stopped told fewer => exact .inl stored

/-! ### The receipts of every run -/

/-- What the journal and the Kernel have to do with each other at any time. -/
structure Kept (kernel : LifecycleStore) (state : LifecycleDelivery) : Prop where
  /-- An event has one note at most, and a note is that of one event at most. -/
  once : ∀ left ∈ state.journal.receipts, ∀ right ∈ state.journal.receipts,
    left.outboxSequence = right.outboxSequence ∨ left.noteSequence = right.noteSequence →
      left = right
  /-- The note is there, and it carries what the Kernel has stored. -/
  contents : ∀ receipt ∈ state.journal.receipts, receipt.storeId = kernel.storeId ∧
    ∃ note, state.journal.notes.find? receipt.noteSequence = some note ∧
      ∀ event ∈ state.tables.outbox, event.sequence = receipt.outboxSequence →
        state.tables.holder event.token = some note.identity ∧ event.phase = note.phase ∧
          (event.payload = some note.evidenceJson ∨
            (event.payload = none ∧ event.delivered = true)) ∧
          (event.sequence ≤ kernel.legacyMaxSequence → note.noteId = event.eventId)
  /-- What was delivered after the receiver's commit has a receipt until it is retired. -/
  delivered : ∀ event ∈ state.tables.outbox, event.delivered = true →
    event.sequence ∉ state.unbacked → state.Received event.sequence ∨
      ∃ identity, state.tables.holder event.token = some identity ∧
        state.tables.Retired identity
  /-- A receipt that is gone stays gone. -/
  gone : ∀ middle last, (lifecycleDelivery kernel).Run state middle →
    (lifecycleDelivery kernel).Run middle last → ∀ sequence, state.Received sequence →
      ¬ middle.Received sequence → ¬ last.Received sequence
  /-- Only the note of a receipt whose generation is retired is deleted. -/
  notes : ∀ next, state.Step kernel next → ∀ note ∈ state.journal.notes,
    note ∈ next.journal.notes ∨ (state.tables.Retired note.identity ∧
      ∃ receipt ∈ state.journal.receipts, receipt.noteSequence = note.sequence)

/-- Receipts in every order of the calls on both stores, with a process that may stop after any of
them. -/
theorem lifecycle_receipts_kept (reachable : (lifecycleDelivery kernel).Reachable state) :
    state.Kept kernel := by
  have holds : state.Sound kernel := sound reachable
  refine ⟨fun left leftStored right rightStored same => ?_, fun receipt stored => ?_,
    fun event stored delivered free => ?_, fun middle last early late sequence received lost => ?_,
    fun next step note stored => step.note holds stored⟩
  · rcases same with sequence | note
    · refine eq_of_key_eq leftStored rightStored ?_
      unfold LifecycleReceipt.key
      rw [(holds.mapped left leftStored).1, (holds.mapped right rightStored).1, sequence]
    · exact holds.single left leftStored right rightStored note
  · obtain ⟨own, note, original, found, numbered, phase, payload, legacy, records⟩ :=
      holds.mapped receipt stored
    refine ⟨own, note, found, fun event there equal => ?_⟩
    obtain ⟨copy, held⟩ := records.same event there (equal.trans numbered.symm)
    refine ⟨held, copy.phase.trans phase, ?_, fun early => ?_⟩
    · refine copy.payload.imp (fun same => same.trans payload) fun gone => ⟨gone, ?_⟩
      by_contra waiting
      have retained := holds.tables.retained event there (eq_false_iff.mpr waiting)
      rw [gone] at retained
      cases retained
    · exact (legacy (copy.sequence ▸ early)).trans copy.eventId.symm
  · refine (holds.delivered event stored delivered free).imp id ?_
    rintro ⟨identity, assigned, retired⟩
    exact ⟨identity, assigned.holder stored rfl, retired⟩
  · have followed : ∀ {first last}, (lifecycleDelivery kernel).Reachable first →
        (lifecycleDelivery kernel).Run first last → first.Follows last := by
      intro first last reached run
      exact reached.respects Follows Follows.refl Follows.trans
        (fun _ _ _ step => Step.follows step) run
    rcases (followed reachable early).received sequence received with still | ⟨identity, pruned⟩
    · exact absurd still lost
    · have kept := (followed (reachable.run early) late).pruned pruned
      exact ((sound ((reachable.run early).run late)).pruned sequence identity kept).2.2

/-! ### Two runs -/

def sampleLifecycleStore : LifecycleStore := ⟨sampleName, 0⟩

def sampleWaiting : LifecycleDelivery := ⟨sampleAppended, .empty, [], [], []⟩

theorem sampleWaiting_reachable : (lifecycleDelivery sampleLifecycleStore).Reachable sampleWaiting := by
  refine .start ⟨?_, ?_, rfl, rfl, rfl, ?_⟩
  · exact (TransitionSystem.Reachable.start rfl).run
      (LifecycleOperation.run_outcomes sampleLifecycleCall _ .empty)
  · rintro note ⟨⟩
  · have none : sampleAppended.outbox.rows.all (fun event => !event.delivered) = true := by
      decide +kernel
    intro event stored delivered
    have waiting := all_eq_true.mp none event stored
    rw [delivered] at waiting
    cases waiting

def sampleClaim : EventClaim where
  sequence := 1
  identity := ⟨sampleName, 1, 1⟩
  phase := sampleName
  encoded := (Json.object []).encode
  legacyNoteId := none

def sampleReceiptJournal : ReceiptJournal :=
  (ReceiptJournal.empty.noted sampleName sampleClaim.identity sampleClaim.phase
    sampleClaim.encoded).bound ⟨sampleName, 1, 1⟩

def sampleAcknowledged : LifecycleDelivery :=
  ⟨sampleAppended.deliver 1 sampleName, sampleReceiptJournal, [1], [], []⟩

theorem lifecycle_receipts_kept_sample :
    (lifecycleDelivery sampleLifecycleStore).Reachable sampleAcknowledged ∧
      sampleAcknowledged.Kept sampleLifecycleStore ∧ sampleAcknowledged.Received 1 := by
  have noted : sampleWaiting.Step sampleLifecycleStore
      ⟨sampleAppended, sampleReceiptJournal, [1], [], []⟩ :=
    .noted (.mapping [("execution_id", .string sampleName.text), ("attempt", .int 1),
      ("fence", .int 1)]) sampleName (.object []) sampleName 1 none [sampleName] sampleClaim rfl
      sampleReceiptJournal rfl true
  have acknowledged : Step sampleLifecycleStore
      ⟨sampleAppended, sampleReceiptJournal, [1], [], []⟩ sampleAcknowledged :=
    .acknowledged 1 sampleName sampleLifecycleCall rfl
      (sampleAppended.deliver 1 sampleName, true) rfl (.inl (mem_singleton.mpr rfl))
  have reached : (lifecycleDelivery sampleLifecycleStore).Reachable sampleAcknowledged :=
    (sampleWaiting_reachable.next noted).next acknowledged
  refine ⟨reached, lifecycle_receipts_kept reached, ⟨sampleName, 1, 1⟩, ?_, rfl⟩
  exact mem_put.mpr (.inl rfl)

/-- An event that is acknowledged on the caller's word is delivered without a receipt, while its
generation is not retired. -/
theorem lifecycle_ack_trusted :
    ∃ state, (lifecycleDelivery sampleLifecycleStore).Reachable state ∧
      ∃ event ∈ state.tables.outbox, event.delivered = true ∧ ¬ state.Received event.sequence ∧
        ∀ identity, ¬ state.tables.Retired identity := by
  refine ⟨⟨sampleAppended.deliver 1 sampleName, .empty, [], [], [1]⟩,
    sampleWaiting_reachable.next (.trusted 1 sampleName sampleLifecycleCall rfl
      (sampleAppended.deliver 1 sampleName, true) rfl), ?_⟩
  have given : (sampleAppended.deliver 1 sampleName).outbox.rows.any LifecycleEvent.delivered =
      true := by
    decide +kernel
  obtain ⟨event, stored, delivered⟩ := any_eq_true.mp given
  refine ⟨event, stored, delivered, ?_, ?_⟩
  · rintro ⟨receipt, ⟨⟩, _⟩
  · rintro identity ⟨cutoff, watermark, _⟩
    cases watermark

end LifecycleDelivery

end DispatcherSdk.ExecutionKernel
