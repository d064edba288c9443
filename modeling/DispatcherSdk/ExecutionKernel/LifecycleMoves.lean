/-
This file proves what the lifecycle outbox makes of its tables over every run.

Nothing is delivered past an undelivered event of the same execution, an open producer never has
more undelivered events than slots, the slots of open producers and the undelivered events of
closed ones share one fixed capacity.
-/

import DispatcherSdk.ExecutionKernel.Base
import DispatcherSdk.Library.Tally
import DispatcherSdk.Library.Transition
import Mathlib.Data.Prod.Lex

namespace DispatcherSdk.ExecutionKernel

open Library Library.Checked Relation

/-! ### The rows -/

/-- An execution with one of its generations: the columns `execution_id`, `attempt` and
`fence`. -/
structure LifecycleIdentity where
  executionId : Identifier
  attempt : ℕ
  fence : ℕ
  deriving DecidableEq

/-- `(attempt, fence)`, which Python and the database compare lexicographically. -/
def LifecycleIdentity.generation (identity : LifecycleIdentity) : ℕ ×ₗ ℕ :=
  toLex (identity.attempt, identity.fence)

/-- A row of `kernel_lifecycle_producers`. -/
structure Producer where
  token : Identifier
  identity : LifecycleIdentity
  slots : ℕ
  /-- `state = 'open'`. -/
  opened : Bool
  rowId : ℕ

/-- `SET state='closed', slots=0`. -/
def Producer.closed (producer : Producer) : Producer :=
  { producer with slots := 0, opened := false }

/-- A row of `kernel_lifecycle_outbox`. -/
structure LifecycleEvent where
  sequence : ℕ
  token : Identifier
  eventId : Identifier
  phase : Identifier
  payload : Option Json.Text
  delivered : Bool

namespace LifecycleEvent

/-- The phase of the event that a recovery leaves. -/
def recoveryPhase : Identifier := ⟨"producer_recovered_evidence_may_be_missing", by decide⟩

/-- The payload of the event that a recovery leaves. -/
def recoveryPayload : Json.Text :=
  Json.encode (.object [("state", .string "unknown"), ("reason", .string "producer_interrupted")])

/-- The event that a recovery leaves, as opposed to an ordinary one. -/
def marker (event : LifecycleEvent) : Bool := decide (event.phase = recoveryPhase)

def acknowledged (event : LifecycleEvent) : LifecycleEvent := { event with delivered := true }

def pruned (event : LifecycleEvent) : LifecycleEvent := { event with payload := none }

end LifecycleEvent

structure LifecycleTables where
  producers : Table Producer.token
  outbox : Table LifecycleEvent.sequence
  /-- The last sequence number given out, which `AUTOINCREMENT` never gives out again. -/
  lastSequence : ℕ
  /-- `kernel_lifecycle_retired`: the last generation that is retired. -/
  retired : Table LifecycleIdentity.executionId

namespace LifecycleTables

def empty : LifecycleTables := ⟨∅, ∅, 0, ∅⟩

variable (tables : LifecycleTables)

/-- The rows of the outbox that a condition selects, `ORDER BY sequence`. -/
def events (condition : LifecycleEvent → Bool) : List LifecycleEvent :=
  (tables.outbox.rows.filter condition).insertionSort fun left right =>
    left.sequence ≤ right.sequence

/-- The event is one of an execution: the outbox joined with the producers. -/
def belongs (executionId : Identifier) (event : LifecycleEvent) : Bool :=
  (tables.producers.find? event.token).any fun producer =>
    decide (producer.identity.executionId = executionId)

def orphaned (event : LifecycleEvent) : Bool :=
  (tables.producers.find? event.token).any fun producer => !producer.opened

/-- The events of a producer that are not delivered. -/
def pending (token : Identifier) : ℕ :=
  tables.outbox.rows.countP fun event => decide (event.token = token) && !event.delivered

/-- `SUM(slots)` over the open producers. -/
def usage : ℕ := ((tables.producers.rows.filter Producer.opened).map Producer.slots).sum

/-- The undelivered events of closed producers. -/
def pendingClosed : ℕ :=
  tables.outbox.rows.countP fun event => tables.orphaned event && !event.delivered

/-- The row identifier that the next producer gets. -/
def nextRowId : ℕ := (tables.producers.rows.map Producer.rowId).foldr max 0 + 1

/-- The identity lies in the prefix of generations that is retired. -/
def Retired (identity : LifecycleIdentity) : Prop :=
  ∃ cutoff ∈ tables.retired.find? identity.executionId, identity.generation ≤ cutoff.generation

instance (identity : LifecycleIdentity) : Decidable (tables.Retired identity) := by
  unfold Retired
  infer_instance

/-- `INSERT INTO kernel_lifecycle_outbox`. -/
def inserted (token eventId phase : Identifier) (payload : Json.Text) : LifecycleTables :=
  { tables with
    outbox := tables.outbox.put
      { sequence := tables.lastSequence + 1, token, eventId, phase, payload := some payload
        delivered := false }
    lastSequence := tables.lastSequence + 1 }

def close (token : Identifier) : LifecycleTables :=
  { tables with
    producers := tables.producers.update
      (fun producer => if producer.token = token then producer.closed else producer) fun producer => by
        split <;> rfl }

end LifecycleTables

/-! ### The host -/

/-- What the host is told about an operation beyond the identity. -/
inductive LifecycleEvidence where
  | producer (producerId : Identifier)
  | event (producerId eventId phase : Identifier) (payload : Json.Text)
  | receipt (storeId : Identifier) (sequence : ℕ) (eventId phase : Identifier) (payload : Json.Text)
  | pruning (eventId phase : Identifier) (payload : Json.Text)
  | retirement (sequence : Option ℕ) (producerId : Option Identifier) (attempt fence : ℕ)
  | recovery (producerId : Identifier) (proof : Json.Text)

inductive LifecycleAction where
  | reserve | append | finish | ack | retire | prune | recover
  deriving DecidableEq

structure LifecycleQuestion where
  action : LifecycleAction
  identity : LifecycleIdentity
  /-- The governed Run of the execution with the generation it was admitted in. -/
  membership : Option (Identifier × ℕ)
  evidence : LifecycleEvidence

structure LifecycleClaim where
  /-- Nothing when the answer is no mapping or its `allowed` is no boolean. -/
  allowed : Option Bool
  /-- Nothing when there is no finite non-negative number. -/
  expiresAt : Option Timestamp
  receiverCommitted : Bool
  producerDead : Bool
  evidenceUnknownAcknowledged : Bool

/-- What one call finds around the lifecycle tables. The verifier may raise, and may answer
otherwise when it is asked again. -/
structure LifecycleCall where
  /-- The columns `attempt` and `fence` of `kernel_executions`. -/
  executions : Identifier → Option (ℕ × ℕ)
  /-- The generations that have a `leased` event. -/
  leased : LifecycleIdentity → Bool
  membership : Identifier → Option (Identifier × ℕ)
  verifier : Option (LifecycleQuestion → Option LifecycleClaim)
  confirmation : LifecycleQuestion → Option LifecycleClaim
  timestamp : Timestamp
  commitTimestamp : LifecycleQuestion → Timestamp
  storeId : Identifier
  /-- The number of bytes in which a text is written. -/
  bytes : Json.Text → ℕ
  uuid : Identifier

namespace LifecycleCall

/-- `_LifecycleDenied`. -/
def denied : KernelError := .storageIsolation "host denied lifecycle operation"

/-- `verify` of `_authorize_lifecycle`. -/
def verify (action : LifecycleAction) (answer : Option LifecycleClaim) (now : Timestamp) :
    Except KernelError Unit := do
  let claim ← present answer (.storageIsolation "host lifecycle verifier failed")
  let allowed ← present claim.allowed
    (.storageIsolation "invalid host lifecycle verification result")
  check (allowed = true) denied
  let expiry ← present claim.expiresAt
    (.storageIsolation "invalid host lifecycle authority expiry")
  check (now < expiry) (.storageIsolation "host lifecycle authority expired")
  check (action = .ack → claim.receiverCommitted = true)
    (.storageIsolation "host did not verify the receiver commit")

/-- `verify` of `lifecycle_recover_producer`. -/
def verifyRecovery (answer : Option LifecycleClaim) (now : Timestamp) : Except KernelError Unit :=
  check (∃ claim ∈ answer, claim.allowed = some true ∧ claim.producerDead = true ∧
      claim.evidenceUnknownAcknowledged = true ∧ ∃ expiry ∈ claim.expiresAt, now < expiry)
    (.storageIsolation
      "host did not establish producer death and unknown evidence disposition")

variable (call : LifecycleCall)

/-- `_authorize_lifecycle`. It leaves the question that is asked again before the commit. -/
def authorize (identity : LifecycleIdentity) (action : LifecycleAction)
    (evidence : LifecycleEvidence) : Except KernelError (List LifecycleQuestion) := do
  let question : LifecycleQuestion :=
    { action, identity, membership := call.membership identity.executionId, evidence }
  match call.verifier with
  | none => do
    check (question.membership = none)
      (.storageIsolation "protected lifecycle requires host authorization")
    return []
  | some verifier => do
    verify action (verifier question) call.timestamp
    return [question]

/-- One of `_precommit_authority_checks`. -/
def confirm (question : LifecycleQuestion) : Except KernelError Unit :=
  match question.action with
  | .recover => verifyRecovery (call.confirmation question) (call.commitTimestamp question)
  | action => verify action (call.confirmation question) (call.commitTimestamp question)

/-- The end of a transaction: the checks are repeated and the tables are committed. -/
def commit {Answer : Type} (questions : List LifecycleQuestion) (tables : LifecycleTables)
    (answer : Answer) : Except KernelError (LifecycleTables × Answer) := do
  let _ ← questions.mapM call.confirm
  return (tables, answer)

end LifecycleCall

/-! ### The operations -/

namespace LifecycleTables

variable (tables : LifecycleTables) (call : LifecycleCall)

/-- `_validate_lifecycle_reservation`. -/
def validateReservation (token : Identifier) (slots : ℕ) : Except KernelError Unit := do
  check (token.text.length ≤ 256) (.value "invalid lifecycle producer token")
  check (1 ≤ slots ∧ slots ≤ 1024) (.value "invalid lifecycle reservation size")

/-- `_lifecycle_reserve_in_transaction`. -/
def reserveInTransaction (identity : LifecycleIdentity) (token : Identifier) (slots : ℕ) :
    Except KernelError (LifecycleTables × Bool) := do
  check (¬ tables.Retired identity)
    (.lifecycleReceiptExpired "lifecycle generation has been retired")
  match tables.producers.find? token with
  | some existing => do
    check (existing.identity = identity ∧ existing.slots = slots ∧ existing.opened = true)
      (.value "lifecycle producer token already used")
    return (tables, true)
  | none =>
    if 8192 < tables.usage + tables.pendingClosed + slots then return (tables, false)
    else
      return ({ tables with
        producers := tables.producers.put
          { token, identity, slots, opened := true, rowId := tables.nextRowId } }, true)

/-- `lifecycle_reserve`. -/
def reserve (identity : LifecycleIdentity) (token : Identifier) (slots : ℕ) :
    Except KernelError (LifecycleTables × Option Identifier) := do
  validateReservation token slots
  let current ← present (call.executions identity.executionId)
    (.value "lifecycle execution does not exist")
  check (current = (identity.attempt, identity.fence) ∨ call.leased identity = true)
    (.value "lifecycle generation was not established")
  let questions ← call.authorize identity .reserve (.producer token)
  let (tables, reserved) ← tables.reserveInTransaction identity token slots
  call.commit questions tables (if reserved then some token else none)

/-- The reservation that a claim makes in its own transaction. -/
def reserveForClaim (identity : LifecycleIdentity) (token : Identifier) (slots : ℕ) :
    Except KernelError (LifecycleTables × Bool) := do
  validateReservation token slots
  let questions ← call.authorize identity .reserve (.producer token)
  let (tables, reserved) ← tables.reserveInTransaction identity token slots
  call.commit questions tables reserved

/-- `_lifecycle_qualify_token`. -/
def qualifyToken (identity : LifecycleIdentity) (expected : Option LifecycleIdentity) :
    Except KernelError Unit :=
  match expected with
  | none =>
    check (tables.retired.rows = []) (.value "lifecycle generation is required after retirement")
  | some expected =>
    check (expected = identity) (.value "lifecycle producer generation mismatch")

def eventOf (eventId : Identifier) : Option LifecycleEvent :=
  tables.outbox.rows.find? fun event => event.eventId = eventId

/-- `lifecycle_append`. -/
def append (token eventId phase : Identifier) (payload : List (String × Json))
    (expected : Option LifecycleIdentity) : Except KernelError (LifecycleTables × ℕ × Bool) := do
  check (token.text.length ≤ 256 ∧ eventId.text.length ≤ 256 ∧ phase.text.length ≤ 256)
    (.value "invalid lifecycle event")
  check (phase ≠ LifecycleEvent.recoveryPhase)
    (.value "producer recovery phase is reserved for the Kernel")
  let encoded := Json.encode (.object payload)
  check (call.bytes encoded ≤ 1048576) (.value "lifecycle payload exceeds limit")
  let producer ← present (tables.producers.find? token)
    (.value "lifecycle producer does not exist")
  tables.qualifyToken producer.identity expected
  let questions ← call.authorize producer.identity .append (.event token eventId phase encoded)
  match tables.eventOf eventId with
  | some event => do
    let stored ← present event.payload
      (.lifecycleReceiptExpired "lifecycle receipt payload expired after delivery")
    check (event.token = token ∧ event.phase = phase ∧ stored = encoded)
      (.value "lifecycle event id already used")
    call.commit questions tables (event.sequence, event.delivered)
  | none => do
    check (producer.opened = true) (.value "lifecycle producer is not open")
    check (tables.pending token < producer.slots)
      (.runtime "lifecycle producer reservation exhausted")
    call.commit questions (tables.inserted token eventId phase encoded)
      (tables.lastSequence + 1, false)

/-- `UPDATE kernel_lifecycle_outbox SET delivered=1`. -/
def deliver (sequence : ℕ) (eventId : Identifier) : LifecycleTables :=
  { tables with
    outbox := tables.outbox.update
      (fun event =>
        if event.sequence = sequence ∧ event.eventId = eventId then event.acknowledged else event)
      fun event => by split <;> rfl }

/-- `lifecycle_ack`. -/
def ack (sequence : ℕ) (eventId : Identifier) : Except KernelError (LifecycleTables × Bool) :=
  match (tables.outbox.find? sequence).filter fun event => event.eventId = eventId with
  | none => .ok (tables, false)
  | some event =>
    match tables.producers.find? event.token with
    | none => .ok (tables, false)
    | some producer => do
      let payload ← present event.payload
        (.lifecycleReceiptExpired "lifecycle receipt payload expired after delivery")
      let questions ← call.authorize producer.identity .ack
        (.receipt call.storeId sequence eventId event.phase payload)
      if event.delivered then call.commit questions tables true
      else if ∃ older ∈ tables.outbox.rows, tables.belongs producer.identity.executionId older = true ∧
          older.delivered = false ∧ older.sequence < sequence then
        call.commit questions tables false
      else
        call.commit questions (tables.deliver sequence eventId) true

/-- The host's permission to prune one event, or nothing where it denies it. -/
def permitPruning (event : LifecycleEvent) :
    Except KernelError (Option (ℕ × List LifecycleQuestion)) :=
  match tables.producers.find? event.token, event.payload with
  | some producer, some payload =>
    match call.authorize producer.identity .prune (.pruning event.eventId event.phase payload) with
    | .ok questions => .ok (some (event.sequence, questions))
    | .error failure =>
      if failure.message = LifecycleCall.denied.message then .ok none else .error failure
  | _, _ => .ok none

/-- `UPDATE kernel_lifecycle_outbox SET payload_json=NULL`. -/
def prune (sequences : List ℕ) : LifecycleTables :=
  { tables with
    outbox := tables.outbox.update
      (fun event =>
        if event.sequence ∈ sequences ∧ event.delivered = true then event.pruned else event)
      fun event => by split <;> rfl }

/-- `lifecycle_prune_delivered`. -/
def pruneDelivered (through after limit : ℕ) :
    Except KernelError (LifecycleTables × ℕ × Option ℕ) := do
  check (1 ≤ limit ∧ limit ≤ 128) (.value "invalid lifecycle pruning bound")
  let rows := (tables.events fun event =>
    (tables.producers.find? event.token).isSome && event.delivered && event.payload.isSome &&
      decide (after < event.sequence ∧ event.sequence ≤ through)).take limit
  let permitted ← rows.mapM (tables.permitPruning call)
  let removed := permitted.filterMap id
  call.commit (removed.flatMap Prod.snd) (tables.prune (removed.map Prod.fst))
    (removed.length,
      if rows.length = limit then rows.getLast?.map LifecycleEvent.sequence else none)

/-- The event belongs to the prefix of generations of an execution. -/
def reaches (cutoff : LifecycleIdentity) (event : LifecycleEvent) : Bool :=
  (tables.producers.find? event.token).any fun producer =>
    decide (producer.identity.executionId = cutoff.executionId ∧
      producer.identity.generation ≤ cutoff.generation)

/-- The producer belongs to the prefix of generations of an execution. -/
def within (cutoff : LifecycleIdentity) (producer : Producer) : Bool :=
  decide (producer.identity.executionId = cutoff.executionId ∧
    producer.identity.generation ≤ cutoff.generation)

/-- The collection of events under a cutoff. -/
def collectEvents (sequences : List ℕ) : LifecycleTables :=
  { tables with
    outbox := tables.outbox.keep fun event =>
      !(decide (event.sequence ∈ sequences) && event.delivered) }

/-- The closed producers under a cutoff that have no events left, `ORDER BY rowid`. -/
def spent (cutoff : LifecycleIdentity) : List Producer :=
  (tables.producers.rows.filter fun producer =>
    within cutoff producer && !producer.opened &&
      tables.outbox.rows.all fun event => decide (event.token ≠ producer.token)).insertionSort
    fun left right => left.rowId ≤ right.rowId

def collectProducers (tokens : List Identifier) : LifecycleTables :=
  { tables with
    producers := tables.producers.keep fun producer =>
      !(decide (producer.token ∈ tokens) && !producer.opened) }

/-- The answer of `lifecycle_retire_generation`. -/
structure Retirement where
  eventsDeleted : ℕ
  producersDeleted : ℕ
  more : Bool

/-- `lifecycle_retire_generation`. -/
def retireGeneration (cutoff : LifecycleIdentity) (limit : ℕ) :
    Except KernelError (LifecycleTables × Retirement) := do
  check (1 ≤ limit ∧ limit ≤ 128) (.value "invalid lifecycle retirement bound")
  let established := KernelError.value "lifecycle retirement generation was not established"
  let current ← present (call.executions cutoff.executionId) established
  check (cutoff.generation ≤ toLex current) established
  let first ← call.authorize cutoff .retire (.retirement none none cutoff.attempt cutoff.fence)
  check (∀ old ∈ tables.retired.find? cutoff.executionId, old.generation ≤ cutoff.generation)
    (.value "lifecycle retirement cannot move backwards")
  check (∀ producer ∈ tables.producers.rows, within cutoff producer = true →
      producer.opened = false ∧ ∀ event ∈ tables.outbox.rows, event.token = producer.token →
        event.delivered = true)
    (.value "lifecycle retirement has open producers or undelivered events")
  let tables := { tables with retired := tables.retired.put cutoff }
  let rows := (tables.events (tables.reaches cutoff)).take limit
  let second ← rows.mapM fun event =>
    match tables.producers.find? event.token with
    | none => .ok []
    | some producer => call.authorize producer.identity .retire
        (.retirement (some event.sequence) none cutoff.attempt cutoff.fence)
  let tables := tables.collectEvents (rows.map LifecycleEvent.sequence)
  let producers := (tables.spent cutoff).take (limit - rows.length)
  let third ← producers.mapM fun producer => call.authorize producer.identity .retire
    (.retirement none (some producer.token) cutoff.attempt cutoff.fence)
  let tables := tables.collectProducers (producers.map Producer.token)
  call.commit (first ++ second.flatten ++ third.flatten) tables
    ⟨rows.length, producers.length, tables.producers.rows.any (within cutoff)⟩

/-- `lifecycle_recover_producer`. -/
def recoverProducer (token : Identifier) (proof : List (String × Json))
    (expected : Option LifecycleIdentity) : Except KernelError (LifecycleTables × Bool) := do
  let frozenProof := Json.encode (.object proof)
  check (call.bytes frozenProof ≤ 65536) (.value "host recovery proof exceeds limit")
  match tables.producers.find? token with
  | none => return (tables, false)
  | some producer => do
    tables.qualifyToken producer.identity expected
    let verifier ← present call.verifier (.storageIsolation "host recovery verifier is required")
    let question : LifecycleQuestion :=
      { action := .recover, identity := producer.identity
        membership := call.membership producer.identity.executionId
        evidence := .recovery token frozenProof }
    LifecycleCall.verifyRecovery (verifier question) call.timestamp
    let marker := tables.outbox.rows.find? fun event => event.token = token ∧ event.marker = true
    check (∀ stored ∈ marker, stored.payload = some LifecycleEvent.recoveryPayload)
      (.storageIsolation "producer recovery marker contents conflict")
    match marker with
    | some _ => call.commit [question] (tables.close token) true
    | none => do
      check (producer.opened = true)
        (.storageIsolation "closed producer has no durable recovery disposition")
      check (tables.eventOf call.uuid = none)
        (.storageIsolation "UNIQUE constraint failed: kernel_lifecycle_outbox.event_id")
      call.commit [question]
        ((tables.inserted token call.uuid LifecycleEvent.recoveryPhase
          LifecycleEvent.recoveryPayload).close token) true

/-- `lifecycle_finish`. -/
def finish (token : Identifier) (expected : Option LifecycleIdentity) :
    Except KernelError (LifecycleTables × Bool) :=
  match tables.producers.find? token with
  | none => .ok (tables, false)
  | some producer => do
    tables.qualifyToken producer.identity expected
    let questions ← call.authorize producer.identity .finish (.producer token)
    call.commit questions (tables.close token) true

end LifecycleTables

/-! ### The system -/

inductive LifecycleOperation where
  | reserve (identity : LifecycleIdentity) (token : Identifier) (slots : ℕ)
  | reserveForClaim (identity : LifecycleIdentity) (token : Identifier) (slots : ℕ)
  | append (token eventId phase : Identifier) (payload : List (String × Json))
    (expected : Option LifecycleIdentity)
  | ack (sequence : ℕ) (eventId : Identifier)
  | prune (through after limit : ℕ)
  | retire (cutoff : LifecycleIdentity) (limit : ℕ)
  | recover (token : Identifier) (proof : List (String × Json))
    (expected : Option LifecycleIdentity)
  | finish (token : Identifier) (expected : Option LifecycleIdentity)

def LifecycleOperation.run (call : LifecycleCall) (tables : LifecycleTables) :
    LifecycleOperation → Except KernelError LifecycleTables
  | .reserve identity token slots => Prod.fst <$> tables.reserve call identity token slots
  | .reserveForClaim identity token slots =>
    Prod.fst <$> tables.reserveForClaim call identity token slots
  | .append token eventId phase payload expected =>
    Prod.fst <$> tables.append call token eventId phase payload expected
  | .ack sequence eventId => Prod.fst <$> tables.ack call sequence eventId
  | .prune through after limit => Prod.fst <$> tables.pruneDelivered call through after limit
  | .retire cutoff limit => Prod.fst <$> tables.retireGeneration call cutoff limit
  | .recover token proof expected => Prod.fst <$> tables.recoverProducer call token proof expected
  | .finish token expected => Prod.fst <$> tables.finish call token expected

/-- The lifecycle outbox with any calls in any order, under any circumstances. -/
def lifecycleOutbox : TransitionSystem LifecycleTables where
  initial tables := tables = .empty
  step tables after := ∃ operation call, LifecycleOperation.run call tables operation = .ok after

open Table List

/-! ### The moves -/

inductive LifecycleMove (tables : LifecycleTables) : LifecycleTables → Prop where
  | stayed : LifecycleMove tables tables
  | reserved (producer : Producer) (fresh : tables.producers.find? producer.token = none)
      (opened : producer.opened = true) (current : ¬ tables.Retired producer.identity)
      (room : tables.usage + tables.pendingClosed + producer.slots ≤ 8192) :
      LifecycleMove tables { tables with producers := tables.producers.put producer }
  | appended (producer : Producer) (found : tables.producers.find? producer.token = some producer)
      (opened : producer.opened = true) (room : tables.pending producer.token < producer.slots)
      (eventId phase : Identifier) (payload : Json.Text) (fresh : tables.eventOf eventId = none)
      (ordinary : phase ≠ LifecycleEvent.recoveryPhase) :
      LifecycleMove tables (tables.inserted producer.token eventId phase payload)
  | delivered (event : LifecycleEvent) (stored : event ∈ tables.outbox)
      (retained : event.payload.isSome = true) (producer : Producer)
      (found : tables.producers.find? event.token = some producer)
      (oldest : ∀ older ∈ tables.outbox.rows,
        tables.belongs producer.identity.executionId older = true →
          older.sequence < event.sequence → older.delivered = true) :
      LifecycleMove tables (tables.deliver event.sequence event.eventId)
  | pruned (sequences : List ℕ) : LifecycleMove tables (tables.prune sequences)
  | closed (producer : Producer) (found : tables.producers.find? producer.token = some producer) :
      LifecycleMove tables (tables.close producer.token)
  | recovered (producer : Producer) (found : tables.producers.find? producer.token = some producer)
      (opened : producer.opened = true) (eventId : Identifier)
      (fresh : tables.eventOf eventId = none) :
      LifecycleMove tables ((tables.inserted producer.token eventId LifecycleEvent.recoveryPhase
        LifecycleEvent.recoveryPayload).close producer.token)
  | retired (cutoff : LifecycleIdentity)
      (forward : ∀ old ∈ tables.retired.find? cutoff.executionId,
        old.generation ≤ cutoff.generation)
      (quiet : ∀ producer ∈ tables.producers.rows, LifecycleTables.within cutoff producer = true →
        producer.opened = false ∧ ∀ event ∈ tables.outbox.rows, event.token = producer.token →
          event.delivered = true)
      (sequences : List ℕ) (tokens : List Identifier)
      (reached : ∀ event ∈ tables.outbox, event.sequence ∈ sequences →
        tables.reaches cutoff event = true)
      (spent : ∀ producer ∈ tables.producers, producer.token ∈ tokens →
        LifecycleTables.within cutoff producer = true ∧
          ∀ event ∈ tables.outbox, event.token = producer.token →
            event.sequence ∈ sequences ∧ event.delivered = true) :
      LifecycleMove tables
        ((({ tables with retired := tables.retired.put cutoff } : LifecycleTables).collectEvents
          sequences).collectProducers tokens)

namespace LifecycleTables

variable {tables after : LifecycleTables} {call : LifecycleCall}

theorem commit_eq_ok {Answer : Type} {questions : List LifecycleQuestion} {answer result : Answer} :
    call.commit questions tables answer = .ok (after, result) ↔
      (∀ question ∈ questions, call.confirm question = .ok ()) ∧
        after = tables ∧ result = answer := by
  unfold LifecycleCall.commit
  rw [bind_eq_ok]
  refine ⟨fun ⟨values, confirmed, answered⟩ => ?_, fun ⟨confirmed, kept, same⟩ => ?_⟩
  · obtain ⟨kept, same⟩ := Prod.mk.inj (Except.ok.inj answered)
    refine ⟨fun question member => ?_, kept.symm, same.symm⟩
    obtain ⟨value, passed⟩ := mapM_passes confirmed question member
    exact passed
  · refine ⟨questions.map fun _ => (), mapM_eq_ok.mpr ?_, by rw [kept, same]; rfl⟩
    rw [forall₂_map_right_iff, forall₂_same]
    exact confirmed

theorem mem_events {condition : LifecycleEvent → Bool} {event : LifecycleEvent} :
    event ∈ tables.events condition ↔ event ∈ tables.outbox ∧ condition event = true := by
  unfold events
  rw [mem_insertionSort, mem_filter, mem_rows]

theorem event_of_sequence {first second : LifecycleEvent} (left : first ∈ tables.outbox)
    (right : second ∈ tables.outbox) (same : first.sequence = second.sequence) : first = second :=
  eq_of_key_eq left right same

variable {token : Identifier} {answer : Bool}

theorem reserveInTransaction_moves {identity : LifecycleIdentity} {slots : ℕ}
    (passed : tables.reserveInTransaction identity token slots = .ok (after, answer)) :
    LifecycleMove tables after := by
  unfold reserveInTransaction at passed
  obtain ⟨_, current, passed⟩ := bind_eq_ok.mp passed
  rw [check_eq_ok] at current
  split at passed
  · obtain ⟨_, _, passed⟩ := bind_eq_ok.mp passed
    rw [← (Prod.mk.inj (Except.ok.inj passed)).1]
    exact .stayed
  · rename_i fresh
    split at passed
    · rw [← (Prod.mk.inj (Except.ok.inj passed)).1]
      exact .stayed
    · rename_i room
      rw [← (Prod.mk.inj (Except.ok.inj passed)).1]
      exact .reserved ⟨token, identity, slots, true, tables.nextRowId⟩ fresh rfl current
        (Nat.le_of_not_lt room)

variable {expected : Option LifecycleIdentity}

theorem append_moves {eventId phase : Identifier} {payload : List (String × Json)}
    {answer : ℕ × Bool}
    (passed : tables.append call token eventId phase payload expected = .ok (after, answer)) :
    LifecycleMove tables after := by
  unfold append at passed
  simp only [passes_iff] at passed
  obtain ⟨_, ordinary, _, producer, found, _, _, questions, _, passed⟩ := passed
  have named := key_of_find? found
  split at passed
  · simp only [passes_iff] at passed
    obtain ⟨_, _, _, passed⟩ := passed
    rw [(commit_eq_ok.mp passed).2.1]
    exact .stayed
  · rename_i fresh
    simp only [passes_iff] at passed
    obtain ⟨opened, room, passed⟩ := passed
    rw [(commit_eq_ok.mp passed).2.1]
    subst named
    exact .appended producer found opened room eventId phase _ fresh ordinary

theorem ack_moves {sequence : ℕ} {eventId : Identifier}
    (passed : tables.ack call sequence eventId = .ok (after, answer)) :
    LifecycleMove tables after := by
  unfold ack at passed
  split at passed
  · rw [← (Prod.mk.inj (Except.ok.inj passed)).1]
    exact .stayed
  · rename_i event found
    split at passed
    · rw [← (Prod.mk.inj (Except.ok.inj passed)).1]
      exact .stayed
    · rename_i producer owned
      obtain ⟨stored, named⟩ := Option.filter_eq_some_iff.mp found
      obtain ⟨member, numbered⟩ := find?_eq_some_iff.mp stored
      simp only [bind_eq_ok, present_eq_ok] at passed
      obtain ⟨payload, retained, questions, _, passed⟩ := passed
      split at passed
      · rw [(commit_eq_ok.mp passed).2.1]
        exact .stayed
      · split at passed
        · rw [(commit_eq_ok.mp passed).2.1]
          exact .stayed
        · rename_i none
          rw [(commit_eq_ok.mp passed).2.1]
          have same := of_decide_eq_true named
          subst numbered same
          refine .delivered event member (Option.isSome_iff_exists.mpr ⟨payload, retained⟩) producer
            owned fun older old belongs before => ?_
          by_contra waiting
          exact none ⟨older, old, belongs, Bool.eq_false_iff.mpr waiting, before⟩

theorem pruneDelivered_moves {through cursor limit : ℕ} {answer : ℕ × Option ℕ}
    (passed : tables.pruneDelivered call through cursor limit = .ok (after, answer)) :
    LifecycleMove tables after := by
  unfold pruneDelivered at passed
  simp only [passes_iff] at passed
  obtain ⟨_, permitted, _, passed⟩ := passed
  rw [(commit_eq_ok.mp passed).2.1]
  exact .pruned _

theorem finish_moves (passed : tables.finish call token expected = .ok (after, answer)) :
    LifecycleMove tables after := by
  unfold finish at passed
  split at passed
  · rw [← (Prod.mk.inj (Except.ok.inj passed)).1]
    exact .stayed
  · rename_i producer found
    simp only [bind_eq_ok] at passed
    obtain ⟨_, _, questions, _, passed⟩ := passed
    rw [(commit_eq_ok.mp passed).2.1, ← key_of_find? found]
    exact .closed producer (by rw [key_of_find? found]; exact found)

theorem recoverProducer_moves {proof : List (String × Json)}
    (passed : tables.recoverProducer call token proof expected = .ok (after, answer)) :
    LifecycleMove tables after := by
  unfold recoverProducer at passed
  simp only [passes_iff] at passed
  obtain ⟨_, passed⟩ := passed
  split at passed
  · rw [← (Prod.mk.inj (Except.ok.inj passed)).1]
    exact .stayed
  · rename_i producer found
    have named := key_of_find? found
    simp only [passes_iff] at passed
    obtain ⟨_, _, verifier, _, _, _, _, passed⟩ := passed
    subst named
    split at passed
    · rw [(commit_eq_ok.mp passed).2.1]
      exact .closed producer found
    · simp only [passes_iff] at passed
      obtain ⟨opened, fresh, passed⟩ := passed
      rw [(commit_eq_ok.mp passed).2.1]
      exact .recovered producer found opened call.uuid fresh

theorem retireGeneration_moves {cutoff : LifecycleIdentity} {limit : ℕ} {answer : Retirement}
    (passed : tables.retireGeneration call cutoff limit = .ok (after, answer)) :
    LifecycleMove tables after := by
  unfold retireGeneration at passed
  simp only [passes_iff] at passed
  obtain ⟨_, current, _, _, first, _, forward, quiet, second, _, third, _, passed⟩ := passed
  rw [(commit_eq_ok.mp passed).2.1]
  refine .retired cutoff forward quiet _ _ (fun event stored member => ?_)
    fun producer stored member => ?_
  · obtain ⟨other, taken, same⟩ := mem_map.mp member
    obtain ⟨inside, reached⟩ := mem_events.mp (mem_of_mem_take taken)
    rw [event_of_sequence stored inside same.symm]
    exact reached
  · obtain ⟨other, taken, same⟩ := mem_map.mp member
    have sorted := mem_of_mem_take taken
    unfold LifecycleTables.spent at sorted
    rw [mem_insertionSort, mem_filter] at sorted
    obtain ⟨inside, conditions⟩ := sorted
    simp only [Bool.and_eq_true, all_eq_true, decide_eq_true_eq] at conditions
    have equal : other = producer := eq_of_key_eq (mem_rows.mpr inside) stored same
    subst equal
    refine ⟨conditions.1.1, fun event there own => ?_⟩
    by_contra kept
    refine conditions.2 event (mem_keep.mpr ⟨there, ?_⟩) own
    simp only [Bool.not_eq_true', Bool.and_eq_false_iff, decide_eq_false_iff_not]
    rw [or_iff_not_imp_left, not_not]
    exact fun listed => Bool.eq_false_iff.mpr fun delivered => kept ⟨listed, delivered⟩

end LifecycleTables

theorem LifecycleOperation.moves {call : LifecycleCall} {tables after : LifecycleTables}
    {operation : LifecycleOperation} (passed : operation.run call tables = .ok after) :
    LifecycleMove tables after := by
  cases operation with
  | reserve identity token slots =>
    simp only [LifecycleOperation.run, map_eq_ok, Prod.exists] at passed
    obtain ⟨_, answer, passed, rfl⟩ := passed
    unfold LifecycleTables.reserve at passed
    simp only [bind_eq_ok] at passed
    obtain ⟨_, _, current, _, _, _, questions, _, ⟨next, reserved⟩, made, passed⟩ := passed
    rw [(LifecycleTables.commit_eq_ok.mp passed).2.1]
    exact LifecycleTables.reserveInTransaction_moves made
  | reserveForClaim identity token slots =>
    simp only [LifecycleOperation.run, map_eq_ok, Prod.exists] at passed
    obtain ⟨_, answer, passed, rfl⟩ := passed
    unfold LifecycleTables.reserveForClaim at passed
    simp only [bind_eq_ok] at passed
    obtain ⟨_, _, questions, _, ⟨next, reserved⟩, made, passed⟩ := passed
    rw [(LifecycleTables.commit_eq_ok.mp passed).2.1]
    exact LifecycleTables.reserveInTransaction_moves made
  | append token eventId phase payload expected =>
    simp only [LifecycleOperation.run, map_eq_ok, Prod.exists] at passed
    obtain ⟨_, answer, _, passed, rfl⟩ := passed
    exact LifecycleTables.append_moves passed
  | ack sequence eventId =>
    simp only [LifecycleOperation.run, map_eq_ok, Prod.exists] at passed
    obtain ⟨_, answer, passed, rfl⟩ := passed
    exact LifecycleTables.ack_moves passed
  | prune through cursor limit =>
    simp only [LifecycleOperation.run, map_eq_ok, Prod.exists] at passed
    obtain ⟨_, answer, _, passed, rfl⟩ := passed
    exact LifecycleTables.pruneDelivered_moves passed
  | retire cutoff limit =>
    simp only [LifecycleOperation.run, map_eq_ok, Prod.exists] at passed
    obtain ⟨_, answer, passed, rfl⟩ := passed
    exact LifecycleTables.retireGeneration_moves passed
  | recover token proof expected =>
    simp only [LifecycleOperation.run, map_eq_ok, Prod.exists] at passed
    obtain ⟨_, answer, passed, rfl⟩ := passed
    exact LifecycleTables.recoverProducer_moves passed
  | finish token expected =>
    simp only [LifecycleOperation.run, map_eq_ok, Prod.exists] at passed
    obtain ⟨_, answer, passed, rfl⟩ := passed
    exact LifecycleTables.finish_moves passed

/-! ### The laws of the tables -/

namespace LifecycleTables

/-- The undelivered events of a producer that it has appended itself. -/
def ordinary (tables : LifecycleTables) (token : Identifier) : ℕ :=
  tables.outbox.rows.countP fun event =>
    decide (event.token = token) && !event.delivered && !event.marker

/-- The undelivered events that recoveries have left. -/
def markers (tables : LifecycleTables) : ℕ :=
  tables.outbox.rows.countP fun event => event.marker && !event.delivered

/-- The undelivered events of closed producers that they have appended themselves. -/
def orphans (tables : LifecycleTables) : ℕ :=
  tables.outbox.rows.countP fun event =>
    tables.orphaned event && !event.delivered && !event.marker

/-- What holds of the tables at any time. -/
structure Sound (tables : LifecycleTables) : Prop where
  numbered : ∀ event ∈ tables.outbox, event.sequence ≤ tables.lastSequence
  owned : ∀ event ∈ tables.outbox, ∃ producer, tables.producers.find? event.token = some producer
  identified : ∀ event ∈ tables.outbox, ∀ other ∈ tables.outbox,
    event.eventId = other.eventId → event = other
  retained : ∀ event ∈ tables.outbox, event.delivered = false → event.payload.isSome = true
  ordered : ∀ early ∈ tables.outbox, ∀ late ∈ tables.outbox, ∀ executionId,
    tables.belongs executionId early = true → tables.belongs executionId late = true →
      early.sequence < late.sequence → late.delivered = true → early.delivered = true
  bounded : ∀ producer ∈ tables.producers, producer.opened = true →
    tables.ordinary producer.token ≤ producer.slots
  capacity : tables.usage + tables.orphans ≤ 8192
  quiet : ∀ producer ∈ tables.producers, tables.Retired producer.identity →
    producer.opened = false ∧ ∀ event ∈ tables.outbox, event.token = producer.token →
      event.delivered = true

theorem empty_sound : Sound .empty where
  numbered := fun _ member => absurd member not_mem_nil
  owned := fun _ member => absurd member not_mem_nil
  identified := fun _ member => absurd member not_mem_nil
  retained := fun _ member => absurd member not_mem_nil
  ordered := fun _ member => absurd member not_mem_nil
  bounded := fun _ member => absurd member not_mem_nil
  capacity := Nat.zero_le _
  quiet := fun _ member => absurd member not_mem_nil

end LifecycleTables

namespace LifecycleTables

variable {tables : LifecycleTables}

/-! ### Appending an event -/

def nextEvent (tables : LifecycleTables) (token eventId phase : Identifier)
    (payload : Json.Text) : LifecycleEvent where
  sequence := tables.lastSequence + 1
  token := token
  eventId := eventId
  phase := phase
  payload := some payload
  delivered := false

theorem Sound.sequence_fresh (sound : tables.Sound) :
    tables.outbox.find? (tables.lastSequence + 1) = none := by
  refine find?_eq_none_iff.mpr fun event stored same => ?_
  have bound := sound.numbered event stored
  omega

theorem Sound.inserted_rows (sound : tables.Sound) (token eventId phase : Identifier)
    (payload : Json.Text) : (tables.inserted token eventId phase payload).outbox.rows =
      tables.nextEvent token eventId phase payload :: tables.outbox.rows :=
  @rows_put_of_fresh _ _ LifecycleEvent.sequence _ tables.outbox
    (tables.nextEvent token eventId phase payload) sound.sequence_fresh

variable {payload : Json.Text}

variable {eventId phase : Identifier}

theorem Sound.mem_inserted (sound : tables.Sound) {token : Identifier} {event : LifecycleEvent} :
    event ∈ (tables.inserted token eventId phase payload).outbox ↔
      event = tables.nextEvent token eventId phase payload ∨ event ∈ tables.outbox := by
  rw [mem_rows, sound.inserted_rows, mem_cons, mem_rows]

theorem eventOf_none (fresh : tables.eventOf eventId = none) :
    ∀ event ∈ tables.outbox, event.eventId ≠ eventId := by
  intro event stored same
  have missing := List.find?_eq_none.mp fresh event stored
  simp only [same, decide_true, not_true_eq_false] at missing

theorem Sound.inserted (sound : tables.Sound) {producer : Producer}
    (found : tables.producers.find? producer.token = some producer)
    (opened : producer.opened = true) (fresh : tables.eventOf eventId = none)
    (room : phase = LifecycleEvent.recoveryPhase ∨
      tables.ordinary producer.token < producer.slots) :
    (tables.inserted producer.token eventId phase payload).Sound where
  numbered event stored := by
    rcases sound.mem_inserted.mp stored with rfl | old
    · exact Nat.le_refl _
    · exact Nat.le_succ_of_le (sound.numbered event old)
  owned event stored := by
    rcases sound.mem_inserted.mp stored with rfl | old
    · exact ⟨producer, found⟩
    · exact sound.owned event old
  identified event stored other kept same := by
    rcases sound.mem_inserted.mp stored with rfl | old <;>
      rcases sound.mem_inserted.mp kept with rfl | older
    · rfl
    · exact absurd same.symm (eventOf_none fresh other older)
    · exact absurd same (eventOf_none fresh event old)
    · exact sound.identified event old other older same
  retained event stored waiting := by
    rcases sound.mem_inserted.mp stored with rfl | old
    · rfl
    · exact sound.retained event old waiting
  ordered early first late second executionId left right before delivered := by
    rcases sound.mem_inserted.mp second with rfl | older
    · cases delivered
    · rcases sound.mem_inserted.mp first with rfl | old
      · have bound := sound.numbered late older
        have above : tables.lastSequence + 1 < late.sequence := before
        omega
      · exact sound.ordered early old late older executionId left right before delivered
  bounded other stored alive := by
    have held := sound.bounded other stored alive
    unfold ordinary
    rw [sound.inserted_rows, countP_cons]
    split
    · rename_i counted
      simp only [nextEvent, LifecycleEvent.marker, Bool.and_eq_true, Bool.not_eq_true'] at counted
      obtain ⟨⟨same, _⟩, own⟩ := counted
      have equal : other = producer :=
        eq_of_key_eq stored (mem_of_find? found) (of_decide_eq_true same).symm
      subst equal
      exact room.resolve_left (of_decide_eq_false own)
    · exact held
  capacity := by
    have alive : tables.orphaned (tables.nextEvent producer.token eventId phase payload) = false := by
      show (tables.producers.find? producer.token).any _ = false
      rw [found]
      simp [opened]
    have same : (tables.inserted producer.token eventId phase payload).orphans = tables.orphans := by
      show List.countP _ (tables.inserted producer.token eventId phase payload).outbox.rows = _
      rw [sound.inserted_rows, countP_cons, if_neg]
      · rfl
      · show ¬ (tables.orphaned _ && _ && _) = true
        rw [alive]
        exact nofun
    show tables.usage + _ ≤ 8192
    rw [same]
    exact sound.capacity
  quiet other stored retired := by
    obtain ⟨closed, delivered⟩ := sound.quiet other stored retired
    refine ⟨closed, fun event kept own => ?_⟩
    rcases sound.mem_inserted.mp kept with rfl | old
    · have equal : other = producer := eq_of_key_eq stored (mem_of_find? found) own.symm
      rw [equal, opened] at closed
      cases closed
    · exact delivered event old own

/-! ### Rewriting events -/

/-- A rewriting of events that only delivers some of them. -/
structure Rewrites (change : LifecycleEvent → LifecycleEvent) : Prop where
  sequence : ∀ event, (change event).sequence = event.sequence
  token : ∀ event, (change event).token = event.token
  eventId : ∀ event, (change event).eventId = event.eventId
  phase : ∀ event, (change event).phase = event.phase
  delivers : ∀ event, event.delivered = true → (change event).delivered = true

def rewritten (tables : LifecycleTables) {change : LifecycleEvent → LifecycleEvent}
    (rewrites : Rewrites change) : LifecycleTables :=
  { tables with outbox := tables.outbox.update change rewrites.sequence }

variable {change : LifecycleEvent → LifecycleEvent}

theorem Rewrites.belongs (rewrites : Rewrites change) (executionId : Identifier)
    (event : LifecycleEvent) :
    (tables.rewritten rewrites).belongs executionId (change event) =
      tables.belongs executionId event := by
  show (tables.producers.find? (change event).token).any _ = _
  rw [rewrites.token]
  rfl

theorem Rewrites.countP_le (rewrites : Rewrites change)
    {condition : LifecycleEvent → Bool} (rows : List LifecycleEvent)
    (kept : ∀ event, condition (change event) = true → (change event).delivered = false →
      condition event = true) :
    (rows.map change).countP (fun event => condition event && !event.delivered && !event.marker) ≤
      rows.countP fun event => condition event && !event.delivered && !event.marker := by
  rw [countP_map]
  refine countP_mono_left fun event _ counted => ?_
  simp only [Function.comp, LifecycleEvent.marker, rewrites.phase, Bool.and_eq_true,
    Bool.not_eq_true'] at counted ⊢
  obtain ⟨⟨selected, waiting⟩, own⟩ := counted
  refine ⟨⟨kept event selected waiting, Bool.eq_false_iff.mpr fun delivered => ?_⟩, own⟩
  rw [rewrites.delivers event delivered] at waiting
  cases waiting

theorem mem_rewritten {rewrites : Rewrites change} {event : LifecycleEvent} :
    event ∈ (tables.rewritten rewrites).outbox ↔ ∃ old ∈ tables.outbox, change old = event := by
  show event ∈ tables.outbox.update change rewrites.sequence ↔ _
  exact mem_update

theorem Sound.rewritten (sound : tables.Sound) (rewrites : Rewrites change)
    (retained : ∀ event ∈ tables.outbox, (change event).delivered = false →
      (change event).payload = event.payload)
    (ordered : ∀ early ∈ tables.outbox, ∀ late ∈ tables.outbox, ∀ executionId,
      tables.belongs executionId early = true → tables.belongs executionId late = true →
        early.sequence < late.sequence → (change late).delivered = true → late.delivered = false →
          early.delivered = true) :
    (tables.rewritten rewrites).Sound where
  numbered event stored := by
    obtain ⟨old, kept, rfl⟩ := mem_rewritten.mp stored
    rw [rewrites.sequence]
    exact sound.numbered old kept
  owned event stored := by
    obtain ⟨old, kept, rfl⟩ := mem_rewritten.mp stored
    rw [rewrites.token]
    exact sound.owned old kept
  identified event stored other kept same := by
    obtain ⟨old, oldStored, rfl⟩ := mem_rewritten.mp stored
    obtain ⟨older, olderStored, rfl⟩ := mem_rewritten.mp kept
    rw [rewrites.eventId, rewrites.eventId] at same
    rw [sound.identified old oldStored older olderStored same]
  retained event stored waiting := by
    obtain ⟨old, kept, rfl⟩ := mem_rewritten.mp stored
    rw [retained old kept waiting]
    refine sound.retained old kept (Bool.eq_false_iff.mpr fun delivered => ?_)
    rw [rewrites.delivers old delivered] at waiting
    cases waiting
  ordered early first late second executionId left right before delivered := by
    obtain ⟨old, oldStored, rfl⟩ := mem_rewritten.mp first
    obtain ⟨older, olderStored, rfl⟩ := mem_rewritten.mp second
    rw [rewrites.belongs] at left right
    rw [rewrites.sequence, rewrites.sequence] at before
    refine rewrites.delivers old ?_
    cases already : older.delivered with
    | true => exact sound.ordered old oldStored older olderStored executionId left right before already
    | false => exact ordered old oldStored older olderStored executionId left right before delivered already
  bounded producer stored opened := by
    refine Nat.le_trans ?_ (sound.bounded producer stored opened)
    refine rewrites.countP_le _ fun event selected _ => ?_
    rw [rewrites.token] at selected
    exact selected
  capacity := by
    have fewer : (tables.rewritten rewrites).orphans ≤ tables.orphans := by
      refine rewrites.countP_le _ fun event selected _ => ?_
      have named : (tables.producers.find? (change event).token).any _ = true := selected
      rw [rewrites.token] at named
      exact named
    exact Nat.le_trans (Nat.add_le_add_left fewer _) sound.capacity
  quiet producer stored retired := by
    obtain ⟨closed, delivered⟩ := sound.quiet producer stored retired
    refine ⟨closed, fun event kept own => ?_⟩
    obtain ⟨old, oldStored, rfl⟩ := mem_rewritten.mp kept
    rw [rewrites.token] at own
    exact rewrites.delivers old (delivered old oldStored own)

end LifecycleTables

namespace LifecycleTables

variable {tables : LifecycleTables}

variable {event : LifecycleEvent}

theorem orphaned_iff : tables.orphaned event = true ↔
    ∃ producer, tables.producers.find? event.token = some producer ∧ producer.opened = false := by
  unfold orphaned
  rw [Option.any_eq_true]
  simp only [Bool.not_eq_true']

/-! ### Reserving -/

variable {producer : Producer}

variable {token : Identifier}

theorem find?_reserved (other : token ≠ producer.token) :
    (tables.producers.put producer).find? token = tables.producers.find? token :=
  find?_put_other tables.producers other

theorem Sound.token_used (sound : tables.Sound) (fresh : tables.producers.find? token = none) :
    ∀ event ∈ tables.outbox, event.token ≠ token := by
  intro event stored same
  obtain ⟨producer, found⟩ := sound.owned event stored
  rw [same, fresh] at found
  cases found

theorem Sound.reserved (sound : tables.Sound)
    (fresh : tables.producers.find? producer.token = none) (opened : producer.opened = true)
    (current : ¬ tables.Retired producer.identity)
    (room : tables.usage + tables.pendingClosed + producer.slots ≤ 8192) :
    Sound { tables with producers := tables.producers.put producer } := by
  have unused := sound.token_used fresh
  have found : ∀ event ∈ tables.outbox, (tables.producers.put producer).find? event.token =
      tables.producers.find? event.token :=
    fun event stored => find?_reserved (unused event stored)
  refine ⟨sound.numbered, fun event stored => ?_, sound.identified, sound.retained,
    fun early first late second executionId left right => ?_, fun other stored alive => ?_, ?_,
    fun other stored retired => ?_⟩
  · rw [found event stored]
    exact sound.owned event stored
  · unfold belongs at left right
    rw [found early first] at left
    rw [found late second] at right
    exact sound.ordered early first late second executionId left right
  · rcases mem_put.mp stored with rfl | ⟨old, _⟩
    · have none : tables.ordinary other.token = 0 := by
        refine countP_eq_zero.mpr fun event kept counted => ?_
        simp only [Bool.and_eq_true, decide_eq_true_eq] at counted
        exact unused event kept counted.1.1
      exact none ▸ Nat.zero_le _
    · exact sound.bounded other old alive
  · have counted : ({ tables with producers := tables.producers.put producer } :
        LifecycleTables).orphans ≤ tables.pendingClosed := by
      refine countP_mono_left fun event kept selected => ?_
      simp only [orphaned, found event kept, Bool.and_eq_true] at selected ⊢
      exact selected.1
    have added : ({ tables with producers := tables.producers.put producer } :
        LifecycleTables).usage = producer.slots + tables.usage := by
      show ((List.filter _ (tables.producers.put producer).rows).map _).sum = _
      rw [rows_put_of_fresh fresh, filter_cons_of_pos opened, map_cons, sum_cons]
      rfl
    rw [added]
    omega
  · rcases mem_put.mp stored with rfl | ⟨old, _⟩
    · exact absurd retired current
    · exact sound.quiet other old retired

/-! ### Closing -/

theorem find?_close (token name : Identifier) :
    (tables.close token).producers.find? name = (tables.producers.find? name).map fun producer =>
      if producer.token = token then producer.closed else producer := by
  unfold close
  rw [find?_update]

theorem belongs_close (token executionId : Identifier) (event : LifecycleEvent) :
    (tables.close token).belongs executionId event = tables.belongs executionId event := by
  unfold belongs
  rw [find?_close, Option.any_map]
  congr 1
  funext producer
  show decide ((if _ then producer.closed else producer).identity.executionId = _) = _
  split <;> rfl

theorem mem_close :
    producer ∈ (tables.close token).producers ↔ ∃ old ∈ tables.producers,
      (if old.token = token then old.closed else old) = producer := by
  unfold close
  rw [mem_update]

/-- What a producer is charged for: its slots while it is open. -/
def charge (producer : Producer) : ℕ := if producer.opened then producer.slots else 0

theorem usage_eq : tables.usage = (tables.producers.rows.map charge).sum :=
  sum_map_filter Producer.opened Producer.slots tables.producers.rows

theorem usage_close (found : tables.producers.find? producer.token = some producer) :
    (tables.close producer.token).usage + charge producer = tables.usage := by
  rw [usage_eq, usage_eq]
  have summed := @sum_update _ _ _ _ _ _ (mem_of_find? found) charge
    (fun other => if other.token = producer.token then other.closed else other)
    fun other differs => if_neg differs
  rw [if_pos rfl] at summed
  exact summed

theorem orphaned_close (orphaned : (tables.close producer.token).orphaned event = true) :
    tables.orphaned event = true ∨ event.token = producer.token := by
  obtain ⟨after, found, closed⟩ := orphaned_iff.mp orphaned
  rw [find?_close, Option.map_eq_some_iff] at found
  obtain ⟨other, stored, rfl⟩ := found
  by_cases here : other.token = producer.token
  · exact .inr ((key_of_find? stored).symm.trans here)
  · rw [if_neg here] at closed
    exact .inl (orphaned_iff.mpr ⟨other, stored, closed⟩)

section

variable (sound : tables.Sound) (found : tables.producers.find? producer.token = some producer)

include sound found

theorem Sound.capacity_close :
    (tables.close producer.token).usage + (tables.close producer.token).orphans ≤ 8192 := by
  have given := usage_close found
  have held := sound.capacity
  cases alive : producer.opened with
  | true =>
    have bounded := sound.bounded producer (mem_of_find? found) alive
    have counted : (tables.close producer.token).orphans ≤
        tables.orphans + tables.ordinary producer.token := by
      refine countP_le_add fun event _ counted => ?_
      simp only [Bool.and_eq_true, decide_eq_true_eq] at counted ⊢
      obtain ⟨⟨gone, waiting⟩, own⟩ := counted
      exact (orphaned_close gone).imp (fun before => ⟨⟨before, waiting⟩, own⟩)
        fun here => ⟨⟨here, waiting⟩, own⟩
    rw [charge, if_pos alive] at given
    omega
  | false =>
    have counted : (tables.close producer.token).orphans ≤ tables.orphans := by
      refine countP_mono_left fun event _ counted => ?_
      simp only [Bool.and_eq_true] at counted ⊢
      obtain ⟨⟨gone, waiting⟩, own⟩ := counted
      refine ⟨⟨(orphaned_close gone).elim id fun here => ?_, waiting⟩, own⟩
      exact orphaned_iff.mpr ⟨producer, here ▸ found, alive⟩
    omega

theorem Sound.closed :
    (tables.close producer.token).Sound where
  numbered := sound.numbered
  owned event stored := by
    obtain ⟨owner, owned⟩ := sound.owned event stored
    rw [find?_close, owned]
    exact ⟨_, rfl⟩
  identified := sound.identified
  retained := sound.retained
  ordered early first late second executionId left right := by
    rw [belongs_close] at left right
    exact sound.ordered early first late second executionId left right
  bounded other stored opened := by
    obtain ⟨old, kept, rfl⟩ := mem_close.mp stored
    by_cases here : old.token = producer.token
    · rw [if_pos here] at opened
      cases opened
    · rw [if_neg here] at opened ⊢
      exact sound.bounded old kept opened
  capacity := sound.capacity_close found
  quiet other stored retired := by
    obtain ⟨old, kept, rfl⟩ := mem_close.mp stored
    by_cases here : old.token = producer.token
    · rw [if_pos here] at retired ⊢
      exact ⟨rfl, (sound.quiet old kept retired).2⟩
    · rw [if_neg here] at retired ⊢
      exact sound.quiet old kept retired

end

/-! ### Retiring -/

/-- A prefix of the generations is retired and some of what it owned is collected. -/
def collected (tables : LifecycleTables) (cutoff : LifecycleIdentity) (sequences : List ℕ)
    (tokens : List Identifier) : LifecycleTables :=
  (({ tables with retired := tables.retired.put cutoff } : LifecycleTables).collectEvents
    sequences).collectProducers tokens

variable {cutoff : LifecycleIdentity} {sequences : List ℕ} {tokens : List Identifier}

theorem mem_collected_events :
    event ∈ (tables.collected cutoff sequences tokens).outbox ↔
      event ∈ tables.outbox ∧ ¬ (event.sequence ∈ sequences ∧ event.delivered = true) := by
  unfold collected collectProducers collectEvents
  rw [mem_keep]
  simp [imp_iff_not_or]

theorem find?_collected :
    (tables.collected cutoff sequences tokens).producers.find? token = some producer ↔
      tables.producers.find? token = some producer ∧
        ¬ (producer.token ∈ tokens ∧ producer.opened = false) := by
  unfold collected collectProducers collectEvents
  rw [find?_keep_eq_some]
  simp [imp_iff_not_or]

theorem mem_collected_producers :
    producer ∈ (tables.collected cutoff sequences tokens).producers ↔
      producer ∈ tables.producers ∧ ¬ (producer.token ∈ tokens ∧ producer.opened = false) := by
  unfold collected collectProducers collectEvents
  rw [mem_keep]
  simp [imp_iff_not_or]

theorem retired_collected {identity : LifecycleIdentity} :
    (tables.collected cutoff sequences tokens).Retired identity ↔
      if identity.executionId = cutoff.executionId then identity.generation ≤ cutoff.generation
      else tables.Retired identity := by
  unfold Retired
  show (∃ stored ∈ (tables.retired.put cutoff).find? identity.executionId, _) ↔ _
  rw [find?_put]
  split
  · simp
  · rfl

theorem retired_of_forward {identity : LifecycleIdentity}
    (forward : ∀ old ∈ tables.retired.find? cutoff.executionId,
      old.generation ≤ cutoff.generation)
    (retired : tables.Retired identity) :
    (tables.collected cutoff sequences tokens).Retired identity := by
  rw [retired_collected]
  split
  · rename_i same
    obtain ⟨old, stored, below⟩ := retired
    exact below.trans (forward old (same ▸ stored))
  · exact retired

theorem within_iff :
    within cutoff producer = true ↔ producer.identity.executionId = cutoff.executionId ∧
      producer.identity.generation ≤ cutoff.generation :=
  decide_eq_true_iff

theorem Sound.collected (sound : tables.Sound)
    (quiet : ∀ producer ∈ tables.producers.rows, within cutoff producer = true →
      producer.opened = false ∧ ∀ event ∈ tables.outbox.rows, event.token = producer.token →
        event.delivered = true)
    (spent : ∀ producer ∈ tables.producers, producer.token ∈ tokens →
      within cutoff producer = true ∧ ∀ event ∈ tables.outbox, event.token = producer.token →
        event.sequence ∈ sequences ∧ event.delivered = true) :
    (tables.collected cutoff sequences tokens).Sound := by
  have belongs : ∀ event executionId,
      (tables.collected cutoff sequences tokens).belongs executionId event = true →
        tables.belongs executionId event = true := by
    intro event executionId here
    obtain ⟨producer, found, named⟩ := (Option.any_eq_true _ _).mp here
    exact (Option.any_eq_true _ _).mpr ⟨producer, (find?_collected.mp found).1, named⟩
  refine ⟨fun event stored => ?_, fun event stored => ?_, fun event stored other kept => ?_,
    fun event stored => ?_, fun early first late second executionId left right => ?_,
    fun producer stored opened => ?_, ?_, fun producer stored retired => ?_⟩
  · exact sound.numbered event (mem_collected_events.mp stored).1
  · obtain ⟨old, left⟩ := mem_collected_events.mp stored
    obtain ⟨producer, found⟩ := sound.owned event old
    refine ⟨producer, find?_collected.mpr ⟨found, fun gone => left ?_⟩⟩
    exact (spent producer (mem_of_find? found) gone.1).2 event old (key_of_find? found).symm
  · exact sound.identified event (mem_collected_events.mp stored).1 other
      (mem_collected_events.mp kept).1
  · exact sound.retained event (mem_collected_events.mp stored).1
  · exact sound.ordered early (mem_collected_events.mp first).1 late
      (mem_collected_events.mp second).1 executionId (belongs early executionId left)
      (belongs late executionId right)
  · refine Nat.le_trans ?_ (sound.bounded producer (mem_collected_producers.mp stored).1 opened)
    exact filter_sublist.countP_le
  · have fewer : (tables.collected cutoff sequences tokens).orphans ≤ tables.orphans := by
      refine Nat.le_trans (filter_sublist.countP_le) ?_
      refine countP_mono_left fun event _ counted => ?_
      simp only [Bool.and_eq_true] at counted ⊢
      obtain ⟨⟨gone, waiting⟩, own⟩ := counted
      obtain ⟨producer, found, closed⟩ := orphaned_iff.mp gone
      exact ⟨⟨orphaned_iff.mpr ⟨producer, (find?_collected.mp found).1, closed⟩, waiting⟩, own⟩
    have less : (tables.collected cutoff sequences tokens).usage ≤ tables.usage := by
      have rows : ((tables.collected cutoff sequences tokens).producers.rows.filter
          Producer.opened).Sublist (tables.producers.rows.filter Producer.opened) :=
        filter_sublist.filter _
      exact (rows.map Producer.slots).sum_le_sum fun _ _ => Nat.zero_le _
    have held := sound.capacity
    omega
  · have old := (mem_collected_producers.mp stored).1
    have delivered : producer.opened = false ∧ ∀ event ∈ tables.outbox,
        event.token = producer.token → event.delivered = true := by
      rw [retired_collected] at retired
      split at retired
      · rename_i same
        exact quiet producer old (within_iff.mpr ⟨same, retired⟩)
      · exact sound.quiet producer old retired
    exact ⟨delivered.1, fun event kept => delivered.2 event (mem_collected_events.mp kept).1⟩

end LifecycleTables

/-! ### One step -/

namespace LifecycleTables

variable {tables : LifecycleTables}

theorem deliver_rewrites (sequence : ℕ) (eventId : Identifier) :
    Rewrites fun event =>
      if event.sequence = sequence ∧ event.eventId = eventId then event.acknowledged else event where
  sequence event := by
    split <;> rfl
  token event := by
    split <;> rfl
  eventId event := by
    split <;> rfl
  phase event := by
    split <;> rfl
  delivers event delivered := by
    split
    · rfl
    · exact delivered

theorem prune_rewrites (sequences : List ℕ) :
    Rewrites fun event =>
      if event.sequence ∈ sequences ∧ event.delivered = true then event.pruned else event where
  sequence event := by
    split <;> rfl
  token event := by
    split <;> rfl
  eventId event := by
    split <;> rfl
  phase event := by
    split <;> rfl
  delivers event delivered := by
    split <;> exact delivered

theorem ordinary_le_pending (token : Identifier) : tables.ordinary token ≤ tables.pending token := by
  refine countP_mono_left fun event _ counted => ?_
  simp only [Bool.and_eq_true] at counted ⊢
  exact counted.1

end LifecycleTables

theorem LifecycleMove.sound {tables after : LifecycleTables} (move : LifecycleMove tables after)
    (sound : tables.Sound) : after.Sound := by
  cases move with
  | stayed => exact sound
  | reserved producer fresh opened current room => exact sound.reserved fresh opened current room
  | appended producer found opened room eventId phase payload fresh ordinary =>
    exact sound.inserted found opened fresh
      (.inr (Nat.lt_of_le_of_lt (LifecycleTables.ordinary_le_pending producer.token) room))
  | delivered event stored retained producer found oldest =>
    refine sound.rewritten (LifecycleTables.deliver_rewrites event.sequence event.eventId)
      (fun other _ waiting => ?_) fun early first late second executionId left right before now no => ?_
    · split <;> rfl
    · split at now
      · rename_i here
        have same : late = event := eq_of_key_eq second stored here.1
        subst same
        refine oldest early first ?_ before
        obtain ⟨owner, owned, named⟩ := (Option.any_eq_true _ _).mp right
        rw [found] at owned
        rw [Option.some.inj owned, of_decide_eq_true named]
        exact left
      · cases no.symm.trans now
  | pruned sequences =>
    refine sound.rewritten (LifecycleTables.prune_rewrites sequences) (fun event _ waiting => ?_)
      fun early _ late _ _ _ _ _ now no => ?_
    · split at waiting
      · rename_i gone
        rw [show event.pruned.delivered = event.delivered from rfl, gone.2] at waiting
        cases waiting
      · rename_i kept
        rw [if_neg kept]
    · split at now
      · rename_i gone
        rw [gone.2] at no
        cases no
      · cases no.symm.trans now
  | closed producer found => exact sound.closed found
  | recovered producer found opened eventId fresh =>
    exact (sound.inserted found opened fresh (.inl rfl)).closed found
  | retired cutoff forward quiet sequences tokens reached spent =>
    exact sound.collected quiet spent

theorem lifecycleOutbox_sound {tables : LifecycleTables}
    (reachable : lifecycleOutbox.Reachable tables) : tables.Sound := by
  refine reachable.invariant LifecycleTables.Sound ?_ fun _ _ _ sound step => ?_
  · rintro _ rfl
    exact LifecycleTables.empty_sound
  · obtain ⟨operation, call, passed⟩ := step
    exact (LifecycleOperation.moves passed).sound sound

end DispatcherSdk.ExecutionKernel
