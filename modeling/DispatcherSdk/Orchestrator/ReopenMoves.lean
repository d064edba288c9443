/-
This file says once what the transactions around a recovery can do to the store.

A command of the application writes a receipt and messages of one Run, which is not being
reopened, and leaves every generation as it was. A recovery is rewritten by its owner, is added,
or is committed; only the last of these gives a Run a new generation.
-/

import DispatcherSdk.Orchestrator.DispatchPermitMoves

namespace DispatcherSdk.Orchestrator

open Library Library.Checked Table
open ExecutionKernel hiding ExecutionRow OutboxRow EventRow Operation

/-! ### The rows -/

namespace RecoveryStatus

/-- `_RECOVERY_ACTIVE`. -/
def active : RecoveryStatus → Bool
  | preparing | prepared | committed => true
  | activated | aborted | failed => false

/-- The mutation of the Run has been committed. -/
def mutated : RecoveryStatus → Bool
  | committed | activated => true
  | preparing | prepared | aborted | failed => false

end RecoveryStatus

/-- `sdk_recoveries`, as far as its own protocol depends on it. -/
structure ReopenRecord where
  recoveryId : Identifier
  runId : Identifier
  commandId : Identifier
  requestDigest : String
  /-- In the manifest. -/
  sourceRevision : ℕ
  sourceGeneration : ℕ
  targetGeneration : ℕ
  status : RecoveryStatus
  ownerId : Identifier
  ownerFence : ℕ
  leaseUntil : Timestamp
  operations : List Operation
  applicationState : Option Json
  /-- Whether a cancellation authorization has been given. -/
  authorized : Bool

/-- `sdk_recovery_waiters`. -/
structure RecoveryWaiter where
  recoveryId : Identifier
  waiterId : Identifier
  leaseUntil : Timestamp

def RecoveryWaiter.key (waiter : RecoveryWaiter) : Identifier × Identifier :=
  (waiter.recoveryId, waiter.waiterId)

inductive Blocker where
  | runNotReopenable
  | cancellationAuthorizationRequired
  | executionNotSettled
  | openWait
  | pendingExecutionDelivery (count : ℕ)
  /-- Anything that is read from other tables, from the Kernel, the runtime or a journal. -/
  | external (code detail : String)
  deriving DecidableEq

namespace Blocker

def code : Blocker → String
  | runNotReopenable => "run_not_reopenable"
  | cancellationAuthorizationRequired => "cancellation_authorization_required"
  | executionNotSettled => "execution_not_settled"
  | openWait => "open_wait"
  | pendingExecutionDelivery _ => "pending_execution_delivery"
  | external code _ => code

def detail : Blocker → String
  | runNotReopenable => "only failed or cancelled Runs may reopen"
  | cancellationAuthorizationRequired =>
    "cancelled recovery requires a separate authorization record"
  | executionNotSettled => "every historical attempt must be terminal"
  | openWait => "all application waits must be released"
  | pendingExecutionDelivery count => toString count ++ " execution intent(s) remain undelivered"
  | external _ detail => detail

def listed (blockers : List Blocker) : String :=
  String.intercalate "; " (blockers.map fun blocker => blocker.code ++ ": " ++ blocker.detail)

/-- What is left of the blockers if a cancellation authorization has been given. -/
def waive (authorized : Bool) (blockers : List Blocker) : List Blocker :=
  blockers.filter fun blocker =>
    decide (¬ (blocker = cancellationAuthorizationRequired ∧ authorized = true))

end Blocker

/-- What the mutation of a Run by a recovery found and what it made. -/
structure ReopenCommit where
  recovery : ReopenRecord
  before : RunSnapshot
  blockers : List Blocker
  after : RunSnapshot
  intents : List Intent

/-! ### Processes -/

inductive FlushPhase where
  /-- The Runs that are being reopened have been read. -/
  | begun (blocked : List Identifier)
  /-- These messages are left to be delivered. -/
  | working (messages : List OutboxRow)
  /-- The Kernel has answered for the first message. -/
  | submitted (message : OutboxRow) (rest : List OutboxRow)

/-- The store of the SDK, the accepted executions, the processes at work, and the mutations that
recoveries have committed. -/
structure Reopening where
  runs : Table RunSnapshot.runId
  executions : Executions
  links : Table LinkRow.previousRunId
  commands : Table CommandRow.key
  outbox : Table OutboxRow.sequence
  /-- The last sequence number given to a message. -/
  lastSequence : ℕ
  recoveries : Table ReopenRecord.recoveryId
  waiters : Table RecoveryWaiter.key
  kernel : Admissions
  /-- The calls that have yet to activate a committed recovery. -/
  activating : List Identifier
  flushes : List FlushPhase
  commits : List ReopenCommit

def Intent.command : Intent → ExecutionCommand
  | .dispatch command => command
  | .cancel command _ => command

def Intent.isCancel : Intent → Bool
  | .dispatch _ => false
  | .cancel .. => true

/-- The execution that a message is about. -/
def OutboxRow.executionId (message : OutboxRow) : Identifier := message.intent.command.executionId

/-! ### Blockers -/

def reopenFacts (run : RunSnapshot) (outbox : List OutboxRow) (external : List Blocker) :
    List Blocker :=
  let pending := outbox.countP fun message =>
    decide (message.runId = run.runId ∧ message.delivered = false)
  (if run.state ≠ .failed ∧ run.state ≠ .cancelled then [.runNotReopenable] else []) ++
    (if run.state = .cancelled then [.cancellationAuthorizationRequired] else []) ++
    (if ∃ task ∈ run.tasks.rows, ∃ attempt ∈ task.attempts, attempt.state.terminal = false then
      [.executionNotSettled] else []) ++
    (if ∃ wait ∈ run.waits.rows, wait.isOpen = true then [.openWait] else []) ++
    (if pending ≠ 0 then [.pendingExecutionDelivery pending] else []) ++ external

/-! ### The operations of a recovery -/

/-- `value["kind"] == "finish"`. -/
def Operation.finishes : Operation → Bool
  | .finish _ => true
  | _ => false

/-- A dispatch of a recovery has to be for an attempt that the recovery has added. -/
def checkTarget (target : ℕ) (run : RunSnapshot) (taskId : Identifier) : Except SdkError Unit := do
  let refused := SdkError.orchestration "recovery dispatch must target a new-generation attempt"
  let task ← present (run.tasks.find? taskId) refused
  let current ← present task.attempts.getLast? (.index "list index out of range")
  check (current.generation.getD 0 = target) refused

def reopenOperation (stack target : ℕ) (before : Reduction) (operation : Operation) :
    Except SdkError Reduction :=
  match operation with
  | .dispatch taskId => do
    checkTarget target before.run taskId
    applyOperation stack target before operation
  | _ => applyOperation stack target before operation

/-- The loop over the operations of a recovery. -/
def reopenOperations (stack target : ℕ) (run : RunSnapshot) (operations : List Operation) :
    Except SdkError Reduction :=
  operations.foldlM (reopenOperation stack target) ⟨run, [], [], []⟩

/-- The Run as its recovery finds it, running again and in its next generation. -/
def RunSnapshot.reopened (run : RunSnapshot) (recovery : ReopenRecord) : RunSnapshot :=
  { run with
    state := .running, generation := recovery.targetGeneration
    applicationState := recovery.applicationState.getD run.applicationState }

namespace Reopening

variable (state : Reopening)

/-! ### Reading and writing -/

def activeRecovery (runId : Identifier) : Option ReopenRecord :=
  state.recoveries.rows.find? fun row => decide (row.runId = runId ∧ row.status.active = true)

/-- `_check_reopen_identity` finds the recovery of a command. -/
def recoveryOf (runId commandId : Identifier) : Option ReopenRecord :=
  state.recoveries.rows.find? fun row => decide (row.runId = runId ∧ row.commandId = commandId)

/-- The rows that queue the intents of a command. -/
def queued (runId commandId : Identifier) (generation : ℕ) (intents : List Intent) :
    List OutboxRow :=
  intents.mapIdx fun ordinal intent =>
    ⟨state.lastSequence + 1 + ordinal, runId, commandId, ordinal, intent, generation, false⟩

/-- Save what a list of operations has come to, with its intents and its receipt. -/
def saveReduction (commandId : Identifier) (digest : String) (generation : ℕ)
    (reduction : Reduction) (executions : Executions) (saved : RunSnapshot) : Reopening :=
  { state with
    runs := state.runs.put saved
    executions
    outbox := (state.queued saved.runId commandId generation reduction.intents).foldl Table.put
      state.outbox
    lastSequence := state.lastSequence + reduction.intents.length
    commands := state.commands.put ⟨saved.runId, commandId, digest, saved.runId, saved.revision⟩ }

/-- `_register_recovery_waiter`. -/
def registerWaiter (recoveryId waiterId : Identifier) (leaseUntil : Timestamp) : Reopening :=
  { state with waiters := state.waiters.put ⟨recoveryId, waiterId, leaseUntil⟩ }

/-- `_recovery_waiters` drops the waiters whose time is over. -/
def reapWaiters (recoveryId : Identifier) (now : Timestamp) : Reopening :=
  { state with
    waiters := state.waiters.keep fun waiter =>
      decide (¬ (waiter.recoveryId = recoveryId ∧ waiter.leaseUntil ≤ now)) }

def dropWaiters (recoveryId : Identifier) : Reopening :=
  { state with
    waiters := state.waiters.keep fun waiter => decide (waiter.recoveryId ≠ recoveryId) }

def setRecovery (recovery : ReopenRecord) : Reopening :=
  { state with recoveries := state.recoveries.put recovery }

/-! ### Commands of the application -/

/-- What a replayed command has to agree with. -/
def checkReplay (row : CommandRow) (digest : String) : Except SdkError Unit :=
  check (row.digest = digest) (.commandConflict "command identity already has different content")

/-- What every command checks about the Run that it is for. -/
def currentRun (runId : Identifier) (expectedRevision : ℕ) (expectedGeneration : Option ℕ) :
    Except SdkError RunSnapshot := do
  let run ← present (state.runs.find? runId) (.orchestration "unknown run")
  match state.activeRecovery runId with
  | some recovery =>
    .error (.orchestration
      ("Run recovery " ++ recovery.recoveryId.text ++ " is still activating"))
  | none =>
    check (run.revision = expectedRevision) (.revisionConflict "run revision changed")
    check (run.generation = 0 ∨ expectedGeneration.isSome)
      (.revisionConflict "expected_generation is required after Run recovery")
    check (∀ expected ∈ expectedGeneration, expected = run.generation)
      (.revisionConflict "run generation changed")
    return run

def createRun (runId commandId : Identifier) (digest : String) (input definition : Json) :
    Except SdkError Reopening := do
  match state.commands.find? (runId, commandId) with
  | some row =>
    checkReplay row digest
    return state
  | none =>
    check (state.runs.find? runId).isNone (.orchestration "run already exists")
    return { state with
      runs := state.runs.put (.create runId input definition)
      commands := state.commands.put ⟨runId, commandId, digest, runId, 0⟩ }

/-- `apply_operations`. -/
def applyCommand (stack : ℕ) (runId commandId : Identifier) (digest : String)
    (expectedRevision : ℕ) (expectedGeneration : Option ℕ) (operations : List Operation)
    (applicationState : Option Json) : Except SdkError Reopening := do
  match state.commands.find? (runId, commandId) with
  | some row =>
    checkReplay row digest
    return state
  | none =>
    let run ← state.currentRun runId expectedRevision expectedGeneration
    let reduction ← applyOperations stack run.generation run operations
    let executions ← registerExecutions reduction.run state.executions reduction.registrations
    return state.saveReduction commandId digest run.generation reduction executions
      { reduction.run with
        applicationState := applicationState.getD reduction.run.applicationState
        revision := reduction.run.revision + 1 }

/-- `acknowledge_events`, as far as it is about the Run. -/
def acknowledgeEvents (runId commandId : Identifier) (digest : String) (expectedRevision : ℕ)
    (expectedGeneration : Option ℕ) : Except SdkError Reopening := do
  match state.commands.find? (runId, commandId) with
  | some row =>
    checkReplay row digest
    return state
  | none =>
    let run ← state.currentRun runId expectedRevision expectedGeneration
    return { state with
      commands := state.commands.put ⟨runId, commandId, digest, runId, run.revision⟩ }

def continueRun (runId nextRunId commandId : Identifier) (digest : String) (expectedRevision : ℕ)
    (expectedGeneration : Option ℕ) (input : Json) : Except SdkError Reopening := do
  match state.commands.find? (runId, commandId) with
  | some row =>
    checkReplay row digest
    return state
  | none =>
    let previous ← state.currentRun runId expectedRevision expectedGeneration
    check (previous.state ≠ .running) (.orchestration "finish the current Run before continuing it")
    check (state.runs.find? nextRunId).isNone (.commandConflict "next Run identity already exists")
    check (state.links.find? runId).isNone
      (.commandConflict "Run already has a continuation; replay the original command")
    return { state with
      runs := (state.runs.put (.create nextRunId input previous.definition)).put
        { previous with revision := previous.revision + 1 }
      links := state.links.put ⟨runId, nextRunId⟩
      commands := state.commands.put ⟨runId, commandId, digest, nextRunId, 0⟩ }

/-- `sync_execution`, with what the Kernel shows of an execution that it has accepted. -/
def syncExecution (snapshot : ExecutionSnapshot) : Except SdkError Reopening := do
  check (state.kernel.find? snapshot.executionId).isSome
    (.orchestration "Kernel returned a different execution")
  let row ← present (state.executions.find? snapshot.executionId)
    (.orchestration "execution was not registered through this SDK")
  check (snapshot.command.toDict.encode = row.command)
    (.orchestration "Kernel execution command does not match the accepted command")
  let run ← present (state.runs.find? row.runId)
    (.orchestration "registered attempt projection is missing")
  let next ← run.syncExecution row.taskId row.attempt snapshot
  return { state with runs := state.runs.put next }

end Reopening

/-! ### Recoveries -/

/-- The arguments of `reopen_run`. -/
structure ReopenRequest where
  runId : Identifier
  commandId : Identifier
  expectedRevision : ℕ
  expectedGeneration : Option ℕ
  operations : List Operation
  applicationState : Option Json
  authorized : Bool
  ownerId : Identifier

/-- The recovery that a request asks for, prepared. -/
def ReopenRequest.record (request : ReopenRequest) (recoveryId : Identifier)
    (requestDigest : String) (generation fence : ℕ) (leaseUntil : Timestamp) : ReopenRecord where
  recoveryId
  runId := request.runId
  commandId := request.commandId
  requestDigest
  sourceRevision := request.expectedRevision
  sourceGeneration := generation
  targetGeneration := generation + 1
  status := .prepared
  ownerId := request.ownerId
  ownerFence := fence
  leaseUntil
  operations := request.operations
  applicationState := request.applicationState
  authorized := request.authorized

namespace Reopening

variable (state : Reopening)

/-- `MAX(owner_fence)` over the recoveries of a Run. -/
def lastFence (runId : Identifier) : ℕ :=
  ((state.recoveries.rows.filter fun row => row.runId = runId).map ReopenRecord.ownerFence).foldl
    max 0

/-- The first transaction of `reopen_run`, with the digest of the request, what else blocks it, and
its times. -/
def prepareRecovery (recoveryName : Identifier → Identifier → String → Identifier)
    (request : ReopenRequest) (requestDigest : String) (external : List Blocker)
    (now leaseUntil : Timestamp) : Except SdkError Reopening := do
  check (∀ operation ∈ request.operations, operation.finishes = false)
    (.orchestration "reopen operations cannot finish the Run")
  match state.recoveryOf request.runId request.commandId with
  | some row =>
    check (row.requestDigest = requestDigest)
      (.commandConflict "recovery command identity already has different content")
    let reaped := state.reapWaiters row.recoveryId now
    if row.status.active = true ∧ request.ownerId ≠ row.ownerId then
      return reaped.registerWaiter row.recoveryId request.ownerId leaseUntil
    else return reaped
  | none =>
    check (state.commands.find? (request.runId, request.commandId)).isNone
      (.commandConflict "command identity is already used by another operation")
    let run ← present (state.runs.find? request.runId) (.orchestration "unknown run")
    check (∀ expected ∈ request.expectedGeneration, expected = run.generation)
      (.revisionConflict "run generation changed")
    check (run.generation = 0 ∨ request.expectedGeneration.isSome)
      (.revisionConflict "expected_generation is required after Run recovery")
    check (run.revision = request.expectedRevision) (.revisionConflict "run revision changed")
    check (run.state ≠ .succeeded) (.orchestration "successful Run cannot be reopened")
    check (run.state = .cancelled → request.authorized = true)
      (.orchestration "cancelled Run requires a separate cancellation authorization")
    check (state.links.find? request.runId).isNone
      (.commandConflict "Run already has a continuation")
    match (state.activeRecovery request.runId).filter
        fun active => decide (active.commandId ≠ request.commandId) with
    | some active =>
      -- The transaction is committed, and the conflict is raised afterwards.
      return state.registerWaiter active.recoveryId request.ownerId leaseUntil
    | none =>
      let blockers := Blocker.waive request.authorized (reopenFacts run state.outbox.rows external)
      check (blockers = []) (.orchestration ("reopen blocked: " ++ Blocker.listed blockers))
      let recoveryId := recoveryName request.runId request.commandId requestDigest
      check (state.recoveries.find? recoveryId).isNone
        (.storage "UNIQUE constraint failed: sdk_recoveries.recovery_id")
      return state.setRecovery (request.record recoveryId requestDigest run.generation
        (state.lastFence request.runId + 1) leaseUntil)

/-- `_advance_recovery_locked` commits a recovery that is prepared. -/
def commitRecovery (stack : ℕ) (external : List Blocker) (row : ReopenRecord) :
    Except SdkError Reopening := do
  let run ← present (state.runs.find? row.runId) (.orchestration "unknown run")
  check (run.state = .failed ∨ run.state = .cancelled)
    (.orchestration "Run changed while recovery was preparing")
  check (run.revision = row.sourceRevision)
    (.revisionConflict "Run revision changed while recovery was preparing")
  let blockers := Blocker.waive row.authorized (reopenFacts run state.outbox.rows external)
  check (blockers = []) (.orchestration ("reopen blocked at commit: " ++ Blocker.listed blockers))
  let reduction ← reopenOperations stack row.targetGeneration (run.reopened row) row.operations
  let executions ← registerExecutions reduction.run state.executions reduction.registrations
  check (state.commands.find? (row.runId, row.commandId)).isNone
    (.storage "UNIQUE constraint failed: sdk_commands.run_id, sdk_commands.command_id")
  let saved := { reduction.run with revision := reduction.run.revision + 1 }
  let reopened := state.saveReduction row.commandId row.requestDigest row.targetGeneration reduction
    executions saved
  return { reopened.setRecovery { row with status := .committed } with
    commits := ⟨row, run, blockers, saved, reduction.intents⟩ :: state.commits }

/-- The recovery as `advance_recovery` goes on with it: its lease is taken over if it has expired. -/
def takenOver (row : ReopenRecord) (ownerId : Identifier) (now leaseUntil : Timestamp) :
    ReopenRecord :=
  if row.status.active = true ∧ row.leaseUntil ≤ now then
    { row with ownerId, ownerFence := row.ownerFence + 1, leaseUntil }
  else row

/-- The first transaction of `advance_recovery`. `resume_recoveries` makes this call for one recovery
after the other. -/
def advanceRecovery (stack : ℕ) (external : List Blocker) (recoveryId : Identifier)
    (ownerId : Option Identifier) (now leaseUntil : Timestamp) : Except SdkError Reopening := do
  let stored ← present (state.recoveries.find? recoveryId) (.orchestration "unknown recovery")
  let owner := ownerId.getD stored.ownerId
  let row := takenOver stored owner now leaseUntil
  let taken := (state.setRecovery row).reapWaiters recoveryId now
  match row.status with
  | .preparing | .prepared =>
    check (row.ownerId = owner ∧ now < row.leaseUntil)
      (.orchestration "recovery owner lease is stale")
    let after ← taken.commitRecovery stack external row
    return { after with activating := recoveryId :: after.activating }
  | .committed => return { taken with activating := recoveryId :: taken.activating }
  | .activated | .aborted | .failed => return taken

def activateRecovery (recoveryId : Identifier) (now : Timestamp) : Except SdkError Reopening := do
  let row ← present (state.recoveries.find? recoveryId) (.orchestration "unknown recovery")
  if row.status = .committed then
    return (state.setRecovery { row with status := .activated }).dropWaiters recoveryId
  else return state.reapWaiters recoveryId now

def abortRecovery (recoveryId : Identifier) (ownerId : Option Identifier) (now : Timestamp) :
    Except SdkError Reopening := do
  let row ← present (state.recoveries.find? recoveryId) (.orchestration "unknown recovery")
  check (row.ownerId = ownerId.getD row.ownerId ∧ now < row.leaseUntil)
    (.orchestration "recovery owner lease is stale")
  check (row.status.mutated = false) (.orchestration "committed recovery can only roll forward")
  return (state.setRecovery { row with status := .aborted }).dropWaiters recoveryId

def renewRecovery (recoveryId ownerId : Identifier) (now leaseUntil : Timestamp) :
    Except SdkError Reopening := do
  let row ← present (state.recoveries.find? recoveryId) (.orchestration "unknown recovery")
  check (row.ownerId = ownerId ∧ now < row.leaseUntil)
    (.orchestration "recovery owner lease is stale")
  if row.status.active = true then
    return (state.setRecovery { row with leaseUntil }).reapWaiters recoveryId now
  else return state

/-! ### Deliveries -/

/-- The Runs that `flush` leaves alone. -/
def blockedRuns : List Identifier :=
  (state.recoveries.rows.filter fun row => row.status.active).map ReopenRecord.runId

/-- The messages that are pending, in no particular order. -/
def undelivered : List OutboxRow := state.outbox.rows.filter fun message => !message.delivered

def selectMessages (blocked : List Identifier) (limit : ℕ) (pending : List OutboxRow) :
    List OutboxRow :=
  let messages : List OutboxRow := pending.filter fun message => decide (message.runId ∉ blocked)
  let cancellations : List Identifier :=
    (messages.filter fun message => message.intent.isCancel).map OutboxRow.executionId
  let selected : List OutboxRow := messages.filter fun message =>
    decide (message.intent.isCancel = true ∨ message.executionId ∉ cancellations)
  selected.take limit

/-- The Kernel is asked for the execution of a message, and accepts it if it does not know it: to be
carried out, or as cancelled. -/
def receive (message : OutboxRow) : Reopening :=
  match state.kernel.find? message.executionId with
  | some _ => state
  | none =>
    { state with
      kernel := state.kernel.put
        ⟨message.executionId, message.runId, message.generation, message.intent.isCancel⟩ }

def complete (sequence : ℕ) : Reopening :=
  { state with
    outbox := state.outbox.update
      (fun message => if message.sequence = sequence then { message with delivered := true }
        else message)
      fun message => by split <;> rfl }

/-- Every Run that is being reopened while a message of it is pending has been read as blocked. -/
def Current (blocked : List Identifier) : Prop :=
  ∀ recovery ∈ state.recoveries, recovery.status.active = true →
    ∀ message ∈ state.outbox, message.runId = recovery.runId → message.delivered = false →
      recovery.runId ∈ blocked

/-! ### The steps -/

/-- One committed step of any party. A flush reads messages where its reading of the blocked Runs
is admitted. -/
inductive Step (recoveryName : Identifier → Identifier → String → Identifier)
    (admits : Reopening → List Identifier → Prop) (state : Reopening) : Reopening → Prop
  | create (runId commandId : Identifier) (digest : String) (input definition : Json)
      (after : Reopening)
      (passed : state.createRun runId commandId digest input definition = .ok after) :
      Step recoveryName admits state after
  | apply (stack : ℕ) (runId commandId : Identifier) (digest : String) (expectedRevision : ℕ)
      (expectedGeneration : Option ℕ) (operations : List Operation)
      (applicationState : Option Json) (after : Reopening)
      (passed : state.applyCommand stack runId commandId digest expectedRevision
        expectedGeneration operations applicationState = .ok after) :
      Step recoveryName admits state after
  | acknowledge (runId commandId : Identifier) (digest : String) (expectedRevision : ℕ)
      (expectedGeneration : Option ℕ) (after : Reopening)
      (passed : state.acknowledgeEvents runId commandId digest expectedRevision
        expectedGeneration = .ok after) : Step recoveryName admits state after
  | continue_ (runId nextRunId commandId : Identifier) (digest : String) (expectedRevision : ℕ)
      (expectedGeneration : Option ℕ) (input : Json) (after : Reopening)
      (passed : state.continueRun runId nextRunId commandId digest expectedRevision
        expectedGeneration input = .ok after) : Step recoveryName admits state after
  | sync (snapshot : ExecutionSnapshot) (after : Reopening)
      (passed : state.syncExecution snapshot = .ok after) : Step recoveryName admits state after
  | prepare (request : ReopenRequest) (requestDigest : String) (external : List Blocker)
      (now leaseUntil : Timestamp) (after : Reopening)
      (passed : state.prepareRecovery recoveryName request requestDigest external now leaseUntil =
        .ok after) : Step recoveryName admits state after
  | advance (stack : ℕ) (external : List Blocker) (recoveryId : Identifier)
      (ownerId : Option Identifier) (now leaseUntil : Timestamp) (after : Reopening)
      (passed : state.advanceRecovery stack external recoveryId ownerId now leaseUntil =
        .ok after) : Step recoveryName admits state after
  /-- A call goes on after it has found a recovery committed. -/
  | activate (recoveryId : Identifier) (now : Timestamp) (earlier later : List Identifier)
      (after : Reopening) (working : state.activating = earlier ++ recoveryId :: later)
      (passed : state.activateRecovery recoveryId now = .ok after) :
      Step recoveryName admits state { after with activating := earlier ++ later }
  /-- A call stops before it activates a recovery. -/
  | abandon (recoveryId : Identifier) (earlier later : List Identifier)
      (working : state.activating = earlier ++ recoveryId :: later) :
      Step recoveryName admits state { state with activating := earlier ++ later }
  | abort (recoveryId : Identifier) (ownerId : Option Identifier) (now : Timestamp)
      (after : Reopening) (passed : state.abortRecovery recoveryId ownerId now = .ok after) :
      Step recoveryName admits state after
  | renew (recoveryId ownerId : Identifier) (now leaseUntil : Timestamp) (after : Reopening)
      (passed : state.renewRecovery recoveryId ownerId now leaseUntil = .ok after) :
      Step recoveryName admits state after
  /-- A flush reads the Runs that are being reopened. -/
  | begin : Step recoveryName admits state
      { state with flushes := .begun state.blockedRuns :: state.flushes }
  /-- It reads the pending messages. -/
  | select (earlier later : List FlushPhase) (blocked : List Identifier) (limit : ℕ)
      (pending : List OutboxRow) (working : state.flushes = earlier ++ .begun blocked :: later)
      (admitted : admits state blocked) (read : pending.Perm state.undelivered) :
      Step recoveryName admits state
        { state with
          flushes := earlier ++ .working (selectMessages blocked limit pending) :: later }
  /-- The Kernel answers for a message. -/
  | submit (earlier later : List FlushPhase) (message : OutboxRow) (rest : List OutboxRow)
      (working : state.flushes = earlier ++ .working (message :: rest) :: later) :
      Step recoveryName admits state
        { state.receive message with flushes := earlier ++ .submitted message rest :: later }
  /-- The Kernel's answer for a message is lost. -/
  | lose (earlier later : List FlushPhase) (message : OutboxRow) (rest : List OutboxRow)
      (working : state.flushes = earlier ++ .working (message :: rest) :: later) :
      Step recoveryName admits state
        { state.receive message with flushes := earlier ++ .working rest :: later }
  /-- The Kernel refuses a message. -/
  | refuse (earlier later : List FlushPhase) (message : OutboxRow) (rest : List OutboxRow)
      (working : state.flushes = earlier ++ .working (message :: rest) :: later) :
      Step recoveryName admits state { state with flushes := earlier ++ .working rest :: later }
  /-- The message is marked as delivered. -/
  | finish (earlier later : List FlushPhase) (message : OutboxRow) (rest : List OutboxRow)
      (working : state.flushes = earlier ++ .submitted message rest :: later) :
      Step recoveryName admits state
        { state.complete message.sequence with flushes := earlier ++ .working rest :: later }
  /-- The report of the Kernel cannot be taken over. -/
  | pass (earlier later : List FlushPhase) (message : OutboxRow) (rest : List OutboxRow)
      (working : state.flushes = earlier ++ .submitted message rest :: later) :
      Step recoveryName admits state { state with flushes := earlier ++ .working rest :: later }
  /-- A flush stops for good. -/
  | crash (earlier later : List FlushPhase) (phase : FlushPhase)
      (working : state.flushes = earlier ++ phase :: later) :
      Step recoveryName admits state { state with flushes := earlier ++ later }

end Reopening

/-- New stores, and every interleaving of the steps. -/
def reopening (recoveryName : Identifier → Identifier → String → Identifier)
    (admits : Reopening → List Identifier → Prop) : TransitionSystem Reopening where
  initial state := state.runs = ∅ ∧ state.executions = ∅ ∧ state.links = ∅ ∧ state.commands = ∅ ∧
    state.outbox = ∅ ∧ state.recoveries = ∅ ∧ state.waiters = ∅ ∧ state.kernel = ∅ ∧
    state.activating = [] ∧ state.flushes = [] ∧ state.commits = []
  step := Reopening.Step recoveryName admits

open Option List

/-! ### The operations of a recovery -/

variable {operation : Operation}

variable {stack generation : ℕ} {before after : Reduction} {run : RunSnapshot}

theorem reopenOperation_applies {target : ℕ}
    (applied : reopenOperation stack target before operation = .ok after) :
    applyOperation stack target before operation = .ok after := by
  unfold reopenOperation at applied
  split at applied
  · obtain ⟨_, _, applied⟩ := bind_eq_ok.mp applied
    exact applied
  · exact applied

theorem reduceOperation_state {answer : RunSnapshot × List Intent}
    (continues : operation.finishes = false)
    (accepted : reduceOperation stack run operation = .ok answer) : answer.1.state = run.state := by
  obtain ⟨next, intents⟩ := answer
  have writes : run.Writes operation next := reduceOperation_writes accepted
  cases writes with
  | add | change => rfl
  | finish => cases continues
  | other _ _ _ state => exact state

theorem recordOperation_state {intents : List Intent}
    (recorded : recordOperation generation operation before run intents = .ok after) :
    after.run.state = run.state := by
  unfold recordOperation at recorded
  dsimp only at recorded
  split at recorded
  · obtain ⟨task, _, recorded⟩ := bind_eq_ok.mp recorded
    split at recorded
    · obtain ⟨current, _, answered⟩ := bind_eq_ok.mp recorded
      cases answered
      rfl
    · cases recorded
      rfl
  · split at recorded
    · cases recorded
      rfl
    · cases recorded
      rfl

theorem applyOperation_state (continues : operation.finishes = false)
    (applied : applyOperation stack generation before operation = .ok after) :
    after.run.state = before.run.state := by
  rcases applyOperation_reduced applied with rfl | ⟨answer, accepted, recorded⟩
  · rfl
  · exact (recordOperation_state recorded).trans (reduceOperation_state continues accepted)

/-- The operations of a recovery leave the Run its name, its generation and, as none of them
finishes it, its state. -/
theorem reopenOperations_keeps {target : ℕ} {operations : List Operation}
    (continue_ : ∀ operation ∈ operations, operation.finishes = false) {reduction : Reduction}
    (applied : operations.foldlM (reopenOperation stack target) before = .ok reduction) :
    before.run.SameRun reduction.run ∧ reduction.run.state = before.run.state := by
  induction operations generalizing before with
  | nil =>
    cases applied
    exact ⟨⟨rfl, rfl⟩, rfl⟩
  | cons first rest hypothesis =>
    rw [foldlM_cons] at applied
    obtain ⟨middle, one, others⟩ := bind_eq_ok.mp applied
    have step := reopenOperation_applies one
    have early := applyOperation_sameRun step
    obtain ⟨late, ends⟩ := hypothesis
      (fun operation member => continue_ operation (mem_cons_of_mem first member)) others
    exact ⟨⟨late.1.trans early.1, late.2.trans early.2⟩,
      ends.trans (applyOperation_state (continue_ first mem_cons_self) step)⟩

/-! ### What becomes of the Runs -/

/-- No Run is lost, none changes its generation, and a new one is in its first. -/
structure RunsKeep (before after : Table RunSnapshot.runId) : Prop where
  kept : ∀ name run, before.find? name = some run →
    ∃ later, after.find? name = some later ∧ later.generation = run.generation
  known : ∀ name later, after.find? name = some later →
    (∃ run, before.find? name = some run ∧ run.generation = later.generation) ∨
      (before.find? name = none ∧ later.generation = 0)

namespace RunsKeep

theorem refl (runs : Table RunSnapshot.runId) : RunsKeep runs runs :=
  ⟨fun _ run found => ⟨run, found, rfl⟩, fun _ run found => Or.inl ⟨run, found, rfl⟩⟩

theorem trans {first second third : Table RunSnapshot.runId} (early : RunsKeep first second)
    (late : RunsKeep second third) : RunsKeep first third := by
  refine ⟨fun name run found => ?_, fun name last found => ?_⟩
  · obtain ⟨middle, between, same⟩ := early.kept name run found
    obtain ⟨last, ultimately, equal⟩ := late.kept name middle between
    exact ⟨last, ultimately, equal.trans same⟩
  · rcases late.known name last found with ⟨middle, between, same⟩ | ⟨absent, begins⟩
    · rcases early.known name middle between with ⟨run, there, equal⟩ | ⟨absent, begins⟩
      · exact .inl ⟨run, there, equal.trans same⟩
      · exact .inr ⟨absent, same.symm.trans begins⟩
    · refine Or.inr ⟨?_, begins⟩
      cases there : first.find? name with
      | none => rfl
      | some run =>
        obtain ⟨middle, between, _⟩ := early.kept name run there
        cases absent.symm.trans between

theorem put {runs : Table RunSnapshot.runId}
    (old : (∃ stored, runs.find? run.runId = some stored ∧ stored.generation = run.generation) ∨
      (runs.find? run.runId = none ∧ run.generation = 0)) : RunsKeep runs (runs.put run) := by
  refine ⟨fun name stored found => ?_, fun name later found => ?_⟩
  · rw [find?_put]
    by_cases here : name = run.runId
    · rw [if_pos here]
      subst here
      refine ⟨run, rfl, ?_⟩
      rcases old with ⟨other, there, same⟩ | ⟨absent, _⟩
      · cases there.symm.trans found
        exact same.symm
      · cases absent.symm.trans found
    · rw [if_neg here]
      exact ⟨stored, found, rfl⟩
  · rw [find?_put] at found
    by_cases here : name = run.runId
    · rw [if_pos here] at found
      cases found
      subst here
      exact old
    · rw [if_neg here] at found
      exact .inl ⟨later, found, rfl⟩

end RunsKeep

/-! ### What is written -/

namespace Reopening

/-- Every message has been given a sequence number. -/
def Numbered (state : Reopening) : Prop :=
  ∀ message ∈ state.outbox, message.sequence ≤ state.lastSequence

/-- A command of a Run writes its receipt and new messages, and nothing else that is sent. -/
structure Writes (runId commandId : Identifier) (before after : Reopening) : Prop where
  kernel : after.kernel = before.kernel
  flushes : after.flushes = before.flushes
  receipts : ∀ row ∈ after.commands, row ∈ before.commands ∨
    (row.runId = runId ∧ row.commandId = commandId)
  kept : before.Numbered → ∀ message ∈ before.outbox, message ∈ after.outbox
  messages : ∀ message ∈ after.outbox, message ∈ before.outbox ∨
    (message.runId = runId ∧ message.commandId = commandId ∧ message.delivered = false ∧
      before.lastSequence < message.sequence ∧ message.sequence ≤ after.lastSequence)
  last : before.lastSequence ≤ after.lastSequence

structure Silent (before after : Reopening) : Prop where
  kernel : after.kernel = before.kernel
  flushes : after.flushes = before.flushes
  commands : after.commands = before.commands
  outbox : after.outbox = before.outbox
  last : after.lastSequence = before.lastSequence

theorem Silent.writes {before after : Reopening} (silent : Silent before after)
    (runId commandId : Identifier) : Writes runId commandId before after where
  kernel := silent.kernel
  flushes := silent.flushes
  receipts := by
    rw [silent.commands]
    exact fun _ => Or.inl
  kept := by
    rw [silent.outbox]
    exact fun _ _ => id
  messages := by
    rw [silent.outbox]
    exact fun _ => Or.inl
  last := silent.last.ge

theorem mem_queued {state : Reopening} {runId commandId : Identifier}
    {intents : List Intent} {message : OutboxRow}
    (member : message ∈ state.queued runId commandId generation intents) :
    message.runId = runId ∧ message.commandId = commandId ∧ message.delivered = false ∧
      state.lastSequence < message.sequence ∧
        message.sequence ≤ state.lastSequence + intents.length := by
  obtain ⟨index, bound, rfl⟩ := mem_mapIdx.mp member
  refine ⟨rfl, rfl, rfl, ?_, ?_⟩
  · show state.lastSequence < state.lastSequence + 1 + index
    omega
  · show state.lastSequence + 1 + index ≤ state.lastSequence + intents.length
    omega

theorem saveReduction_writes (state : Reopening) (commandId : Identifier) (digest : String)
    (generation : ℕ) (reduction : Reduction) (executions : Executions) (saved : RunSnapshot) :
    Writes saved.runId commandId state
      (state.saveReduction commandId digest generation reduction executions saved) where
  kernel := rfl
  flushes := rfl
  receipts row member := by
    rcases mem_put.mp member with rfl | ⟨old, _⟩
    · exact .inr ⟨rfl, rfl⟩
    · exact .inl old
  kept numbered message member := by
    have others : ∀ row ∈ state.queued saved.runId commandId generation reduction.intents,
        row.sequence ≠ message.sequence := by
      intro row queued same
      have new := (mem_queued queued).2.2.2.1
      have old := numbered message member
      omega
    exact mem_of_find? ((find?_foldl_put_other others).trans (find?_key member))
  messages message member := by
    rcases mem_foldl_put member with new | old
    · exact .inr (mem_queued new)
    · exact .inl old
  last := Nat.le_add_right _ _

theorem writes_receipt (before after : Reopening) (row : CommandRow)
    (kernel : after.kernel = before.kernel) (flushes : after.flushes = before.flushes)
    (outbox : after.outbox = before.outbox) (last : after.lastSequence = before.lastSequence)
    (commands : after.commands = before.commands.put row) :
    Writes row.runId row.commandId before after where
  kernel := kernel
  flushes := flushes
  receipts other member := by
    rw [commands] at member
    rcases mem_put.mp member with rfl | ⟨old, _⟩
    · exact .inr ⟨rfl, rfl⟩
    · exact .inl old
  kept := by
    rw [outbox]
    exact fun _ _ => id
  messages := by
    rw [outbox]
    exact fun _ => Or.inl
  last := last.ge

end Reopening

/-! ### The moves -/

/-- A recovery is the same one later on, and has not become active. -/
structure ReopenRecord.Follows (row later : ReopenRecord) : Prop where
  recoveryId : later.recoveryId = row.recoveryId
  runId : later.runId = row.runId
  commandId : later.commandId = row.commandId
  sourceGeneration : later.sourceGeneration = row.sourceGeneration
  targetGeneration : later.targetGeneration = row.targetGeneration
  operations : later.operations = row.operations
  active : later.status.active = true → row.status.active = true

/-- A recovery as it is rewritten by whoever has it in hands, who does not commit it. -/
structure ReopenRecord.Onward (row later : ReopenRecord) : Prop extends row.Follows later where
  mutated : later.status.mutated = row.status.mutated
  aborted : row.status = .aborted → later.status = .aborted

/-- What a recovery has checked about its Run, and that it has made of it what was asked for. -/
structure ReopenCommit.Made (commit : ReopenCommit) (outbox : List OutboxRow) : Prop where
  ended : commit.before.state = .failed ∨ commit.before.state = .cancelled
  revision : commit.before.revision = commit.recovery.sourceRevision
  facts : ∃ external, commit.blockers = Blocker.waive commit.recovery.authorized
      (reopenFacts commit.before outbox external)
  unblocked : commit.blockers = []
  operations : ∃ stack reduction, reopenOperations stack commit.recovery.targetGeneration
        (commit.before.reopened commit.recovery) commit.recovery.operations = .ok reduction ∧
      commit.after = { reduction.run with revision := reduction.run.revision + 1 } ∧
      commit.intents = reduction.intents

namespace Reopening

/-- What a transaction does to the store. -/
inductive Move (before after : Reopening) : Prop
  /-- A command is accepted for a Run. -/
  | command (runId commandId : Identifier)
      (quiet : (∀ recovery ∈ before.recoveries, recovery.runId = runId →
        recovery.status.active = false) ∨ before.runs.find? runId = none)
      (runs : RunsKeep before.runs after.runs) (recoveries : after.recoveries = before.recoveries)
      (commits : after.commits = before.commits) (writes : Writes runId commandId before after)
  /-- The report of an execution is taken over. -/
  | sync (runs : RunsKeep before.runs after.runs)
      (recoveries : after.recoveries = before.recoveries)
      (commits : after.commits = before.commits) (silent : Silent before after)
  /-- A recovery is rewritten. -/
  | rewrite (stored row : ReopenRecord) (member : stored ∈ before.recoveries)
      (onward : stored.Onward row) (recoveries : after.recoveries = before.recoveries.put row)
      (runs : after.runs = before.runs) (commits : after.commits = before.commits)
      (silent : Silent before after)
  /-- A recovery is prepared. -/
  | prepare (row : ReopenRecord) (run : RunSnapshot)
      (fresh : before.recoveries.find? row.recoveryId = none)
      (found : before.runs.find? row.runId = some run)
      (idle : ∀ recovery ∈ before.recoveries, recovery.runId = row.runId →
        recovery.status.active = false)
      (settled : ∀ message ∈ before.outbox, message.runId = row.runId → message.delivered = true)
      (status : row.status = .prepared) (source : row.sourceGeneration = run.generation)
      (target : row.targetGeneration = run.generation + 1)
      (continues : ∀ operation ∈ row.operations, operation.finishes = false)
      (recoveries : after.recoveries = before.recoveries.put row)
      (runs : after.runs = before.runs) (commits : after.commits = before.commits)
      (silent : Silent before after)
  /-- A recovery is committed. -/
  | commit (stored : ReopenRecord) (commit : ReopenCommit) (member : stored ∈ before.recoveries)
      (onward : stored.Onward commit.recovery) (active : stored.status.active = true)
      (unmutated : stored.status.mutated = false)
      (found : before.runs.find? commit.recovery.runId = some commit.before)
      (made : commit.Made before.outbox.rows)
      (recoveries : after.recoveries =
        before.recoveries.put { commit.recovery with status := .committed })
      (runs : after.runs = before.runs.put commit.after)
      (commits : after.commits = commit :: before.commits)
      (writes : Writes commit.recovery.runId commit.recovery.commandId before after)

/-! ### Commands -/

variable {state after : Reopening}

theorem activeRecovery_eq_none {runId : Identifier} :
    state.activeRecovery runId = none ↔ ∀ recovery ∈ state.recoveries, recovery.runId = runId →
      recovery.status.active = false := by
  unfold activeRecovery
  rw [List.find?_eq_none]
  simp only [decide_eq_true_eq, not_and, Bool.not_eq_true]
  exact Iff.rfl

variable {expectedGeneration : Option ℕ}

variable {expectedRevision : ℕ}

variable {row : ReopenRecord}

theorem currentRun_eq_ok {runId : Identifier}
    (passed : state.currentRun runId expectedRevision expectedGeneration = .ok run) :
    state.runs.find? runId = some run ∧
      ∀ recovery ∈ state.recoveries, recovery.runId = runId →
        recovery.status.active = false := by
  unfold currentRun at passed
  obtain ⟨found, stored, passed⟩ := bind_eq_ok.mp passed
  cases looked : state.activeRecovery runId with
  | some recovery =>
    rw [looked] at passed
    cases passed
  | none =>
    rw [looked] at passed
    simp only [passes_iff] at passed
    obtain ⟨_, _, _, answered⟩ := passed
    cases answered
    exact ⟨present_eq_ok.mp stored, activeRecovery_eq_none.mp looked⟩

theorem still_move : Move state state :=
  .sync (.refl _) rfl rfl ⟨rfl, rfl, rfl, rfl, rfl⟩

variable {runId commandId : Identifier}

variable {digest : String}

theorem createRun_moves {input definition : Json}
    (passed : state.createRun runId commandId digest input definition = .ok after) :
    Move state after := by
  unfold createRun at passed
  split at passed
  · obtain ⟨_, _, answered⟩ := bind_eq_ok.mp passed
    cases answered
    exact still_move
  · simp only [passes_iff] at passed
    obtain ⟨fresh, answered⟩ := passed
    cases answered
    have absent := isNone_iff_eq_none.mp fresh
    refine .command runId commandId (.inr absent) (.put (.inr ⟨absent, rfl⟩)) rfl rfl ?_
    exact writes_receipt _ _ ⟨runId, commandId, digest, runId, 0⟩ rfl rfl rfl rfl rfl

theorem applyCommand_moves {operations : List Operation} {applicationState : Option Json}
    (passed : state.applyCommand stack runId commandId digest expectedRevision expectedGeneration
      operations applicationState = .ok after) : Move state after := by
  unfold applyCommand at passed
  split at passed
  · obtain ⟨_, _, answered⟩ := bind_eq_ok.mp passed
    cases answered
    exact still_move
  · obtain ⟨run, current, passed⟩ := bind_eq_ok.mp passed
    obtain ⟨reduction, applied, passed⟩ := bind_eq_ok.mp passed
    obtain ⟨executions, _, answered⟩ := bind_eq_ok.mp passed
    cases answered
    obtain ⟨found, quiet⟩ := currentRun_eq_ok current
    have named : run.runId = runId := key_of_find? found
    obtain ⟨sameRun, sameGeneration⟩ := applyOperations_sameRun applied
    have name : reduction.run.runId = runId := sameRun.trans named
    have writes := saveReduction_writes state commandId digest run.generation reduction executions
      { reduction.run with
        applicationState := applicationState.getD reduction.run.applicationState
        revision := reduction.run.revision + 1 }
    rw [show RunSnapshot.runId _ = runId from name] at writes
    refine .command runId commandId (.inl quiet) (.put (.inl ⟨run, ?_, ?_⟩)) rfl rfl writes
    · show state.runs.find? reduction.run.runId = some run
      rw [name, found]
    · exact sameGeneration.symm

theorem acknowledgeEvents_moves
    (passed : state.acknowledgeEvents runId commandId digest expectedRevision expectedGeneration =
      .ok after) : Move state after := by
  unfold acknowledgeEvents at passed
  split at passed
  · obtain ⟨_, _, answered⟩ := bind_eq_ok.mp passed
    cases answered
    exact still_move
  · obtain ⟨run, current, answered⟩ := bind_eq_ok.mp passed
    cases answered
    obtain ⟨_, quiet⟩ := currentRun_eq_ok current
    refine .command runId commandId (.inl quiet) (.refl _) rfl rfl ?_
    exact writes_receipt _ _ ⟨runId, commandId, digest, runId, run.revision⟩ rfl rfl rfl rfl rfl

theorem continueRun_moves {nextRunId : Identifier} {input : Json}
    (passed : state.continueRun runId nextRunId commandId digest expectedRevision
      expectedGeneration input = .ok after) : Move state after := by
  unfold continueRun at passed
  split at passed
  · obtain ⟨_, _, answered⟩ := bind_eq_ok.mp passed
    cases answered
    exact still_move
  · obtain ⟨previous, current, passed⟩ := bind_eq_ok.mp passed
    simp only [passes_iff] at passed
    obtain ⟨_, fresh, _, answered⟩ := passed
    cases answered
    obtain ⟨found, quiet⟩ := currentRun_eq_ok current
    have named : previous.runId = runId := key_of_find? found
    have absent := isNone_iff_eq_none.mp fresh
    have first : RunsKeep state.runs
        (state.runs.put (.create nextRunId input previous.definition)) :=
      .put (.inr ⟨absent, rfl⟩)
    have second : RunsKeep (state.runs.put (.create nextRunId input previous.definition))
        ((state.runs.put (.create nextRunId input previous.definition)).put
          { previous with revision := previous.revision + 1 }) := by
      refine .put (.inl ⟨previous, ?_, rfl⟩)
      show (state.runs.put _).find? previous.runId = some previous
      rw [named, find?_put_other, found]
      rintro rfl
      cases absent.symm.trans found
    refine .command runId commandId (.inl quiet) (first.trans second) rfl rfl ?_
    exact writes_receipt _ _ ⟨runId, commandId, digest, nextRunId, 0⟩ rfl rfl rfl rfl rfl

theorem syncExecution_moves {snapshot : ExecutionSnapshot}
    (passed : state.syncExecution snapshot = .ok after) : Move state after := by
  unfold syncExecution at passed
  simp only [passes_iff] at passed
  obtain ⟨_, row, _, _, run, found, next, synced, answered⟩ := passed
  cases answered
  obtain ⟨sameRun, _⟩ := syncExecution_commands synced
  have named : run.runId = row.runId := key_of_find? found
  refine .sync (.put (.inl ⟨run, ?_, sameRun.2.symm⟩)) rfl rfl ⟨rfl, rfl, rfl, rfl, rfl⟩
  rw [sameRun.1, named, found]

/-! ### Recoveries -/

theorem recoveryOf_eq_none :
    state.recoveryOf runId commandId = none ↔ ∀ recovery ∈ state.recoveries,
      recovery.runId = runId → recovery.commandId ≠ commandId := by
  unfold recoveryOf
  rw [List.find?_eq_none]
  simp only [decide_eq_true_eq, not_and]
  exact Iff.rfl

variable {external : List Blocker}

theorem delivered_of_unblocked {outbox : List OutboxRow} {authorized : Bool}
    (unblocked : Blocker.waive authorized (reopenFacts run outbox external) = []) :
    ∀ message ∈ outbox, message.runId = run.runId → message.delivered = true := by
  intro message member own
  by_contra pending
  have counted : outbox.countP (fun message =>
      decide (message.runId = run.runId ∧ message.delivered = false)) ≠ 0 := by
    refine Nat.ne_of_gt (countP_pos_iff.mpr ⟨message, member, ?_⟩)
    exact decide_eq_true ⟨own, Bool.eq_false_of_not_eq_true pending⟩
  have listed : Blocker.pendingExecutionDelivery (outbox.countP fun message =>
      decide (message.runId = run.runId ∧ message.delivered = false)) ∈
      Blocker.waive authorized (reopenFacts run outbox external) := by
    refine mem_filter.mpr ⟨?_, decide_eq_true (by rintro ⟨⟨⟩, _⟩)⟩
    unfold reopenFacts
    dsimp only
    rw [if_pos counted]
    exact mem_append_left _ (mem_append_right _ mem_cons_self)
  rw [unblocked] at listed
  cases listed

theorem registerWaiter_moves (state : Reopening) (recoveryId waiterId : Identifier)
    (leaseUntil : Timestamp) : Move state (state.registerWaiter recoveryId waiterId leaseUntil) :=
  .sync (.refl _) rfl rfl ⟨rfl, rfl, rfl, rfl, rfl⟩

variable {now leaseUntil : Timestamp}

theorem prepareRecovery_moves {recoveryName : Identifier → Identifier → String → Identifier}
    {request : ReopenRequest} {requestDigest : String}
    (passed : state.prepareRecovery recoveryName request requestDigest external now leaseUntil =
      .ok after) : Move state after := by
  unfold prepareRecovery at passed
  simp only [passes_iff] at passed
  obtain ⟨continues, passed⟩ := passed
  split at passed
  · simp only [passes_iff] at passed
    obtain ⟨_, passed⟩ := passed
    split at passed
    · cases passed
      exact .sync (.refl _) rfl rfl ⟨rfl, rfl, rfl, rfl, rfl⟩
    · cases passed
      exact .sync (.refl _) rfl rfl ⟨rfl, rfl, rfl, rfl, rfl⟩
  · rename_i unknown
    simp only [passes_iff] at passed
    obtain ⟨_, run, found, _, _, revision, _, _, _, passed⟩ := passed
    split at passed
    · cases passed
      exact registerWaiter_moves ..
    · rename_i free
      simp only [passes_iff] at passed
      obtain ⟨unblocked, fresh, answered⟩ := passed
      cases answered
      have named : run.runId = request.runId := key_of_find? found
      have idle : state.activeRecovery request.runId = none := by
        cases looked : state.activeRecovery request.runId with
        | none => rfl
        | some active =>
          rw [looked] at free
          have same := filter_eq_none_iff.mp free active rfl
          have member : active ∈ state.recoveries := mem_of_find?_eq_some looked
          have own := of_decide_eq_true
            (@List.find?_some _ (fun row : ReopenRecord => decide (row.runId = request.runId ∧
              row.status.active = true)) active state.recoveries.rows looked)
          refine absurd (of_decide_eq_false (Bool.eq_false_of_not_eq_true same)) ?_
          exact not_not.mpr (recoveryOf_eq_none.mp unknown active member own.1)
      exact .prepare (request.record (recoveryName request.runId request.commandId requestDigest)
        requestDigest run.generation (state.lastFence request.runId + 1) leaseUntil) run
        (isNone_iff_eq_none.mp fresh) found (activeRecovery_eq_none.mp idle)
        (fun message member own => delivered_of_unblocked unblocked message member
          (own.trans named.symm))
        rfl rfl rfl continues rfl rfl rfl ⟨rfl, rfl, rfl, rfl, rfl⟩

theorem takenOver_onward (row : ReopenRecord) (ownerId : Identifier) (now leaseUntil : Timestamp) :
    row.Onward (takenOver row ownerId now leaseUntil) := by
  unfold takenOver
  split <;> exact ⟨⟨rfl, rfl, rfl, rfl, rfl, rfl, id⟩, rfl, id⟩

theorem takenOver_status (row : ReopenRecord) (ownerId : Identifier) (now leaseUntil : Timestamp) :
    (takenOver row ownerId now leaseUntil).status = row.status := by
  unfold takenOver
  split <;> rfl

theorem commitRecovery_eq_ok (continues : ∀ operation ∈ row.operations, operation.finishes = false)
    (passed : state.commitRecovery stack external row = .ok after) :
    ∃ commit : ReopenCommit, commit.recovery = row ∧
      state.runs.find? row.runId = some commit.before ∧ commit.Made state.outbox.rows ∧
        after.recoveries = state.recoveries.put { row with status := .committed } ∧
          after.runs = state.runs.put commit.after ∧ after.commits = commit :: state.commits ∧
            Writes row.runId row.commandId state after := by
  unfold commitRecovery at passed
  obtain ⟨run, stored, passed⟩ := bind_eq_ok.mp passed
  simp only [passes_iff] at passed
  obtain ⟨ended, revision, unblocked, reduction, applied, executions, _, _, answered⟩ := passed
  have found := present_eq_ok.mp stored
  have name : reduction.run.runId = row.runId := by
    have named : run.runId = row.runId := key_of_find? found
    exact (reopenOperations_keeps continues applied).1.1.trans named
  cases answered
  refine ⟨⟨row, run, _, _, reduction.intents⟩, rfl, found,
    ⟨ended, revision, ⟨external, rfl⟩, unblocked, stack, reduction, applied, rfl, rfl⟩,
    rfl, rfl, rfl, ?_⟩
  have writes := saveReduction_writes state row.commandId row.requestDigest row.targetGeneration
    reduction executions { reduction.run with revision := reduction.run.revision + 1 }
  rw [show RunSnapshot.runId _ = row.runId from name] at writes
  exact ⟨writes.kernel, writes.flushes, writes.receipts, writes.kept, writes.messages, writes.last⟩

/-- The operations of every recovery leave its Run unfinished. -/
def Unfinished (state : Reopening) : Prop :=
  ∀ recovery ∈ state.recoveries, ∀ operation ∈ recovery.operations, operation.finishes = false

variable {recoveryId : Identifier}

variable {activating : List Identifier}

theorem commitRecovery_moves {stored : ReopenRecord} (member : stored ∈ state.recoveries)
    (onward : stored.Onward row) (active : stored.status.active = true)
    (unmutated : stored.status.mutated = false)
    (continues : ∀ operation ∈ row.operations, operation.finishes = false)
    (passed : ((state.setRecovery row).reapWaiters recoveryId now).commitRecovery stack external
      row = .ok after) : Move state { after with activating } := by
  obtain ⟨commit, rfl, before, facts, recoveries, runs, commits, writes⟩ :=
    commitRecovery_eq_ok continues passed
  refine .commit stored commit member onward active unmutated before facts ?_ runs commits
    ⟨writes.kernel, writes.flushes, writes.receipts, writes.kept, writes.messages, writes.last⟩
  exact recoveries.trans (put_put _ rfl)

variable {ownerId : Option Identifier}

theorem advanceRecovery_moves (unfinished : state.Unfinished)
    (passed : state.advanceRecovery stack external recoveryId ownerId now leaseUntil = .ok after) :
    Move state after := by
  unfold advanceRecovery at passed
  obtain ⟨stored, looked, passed⟩ := bind_eq_ok.mp passed
  have member := mem_of_find? (present_eq_ok.mp looked)
  have onward := takenOver_onward stored (ownerId.getD stored.ownerId) now leaseUntil
  have status := takenOver_status stored (ownerId.getD stored.ownerId) now leaseUntil
  dsimp only at passed
  generalize takenOver stored (ownerId.getD stored.ownerId) now leaseUntil = row at *
  have continues : ∀ operation ∈ row.operations, operation.finishes = false := by
    rw [onward.operations]
    exact unfinished stored member
  have taken : ∀ activating, Move state
      { (state.setRecovery row).reapWaiters recoveryId now with activating } := fun _ =>
    .rewrite stored row member onward rfl rfl rfl ⟨rfl, rfl, rfl, rfl, rfl⟩
  cases stands : row.status with
  | preparing | prepared =>
    rw [stands] at passed status
    simp only [passes_iff] at passed
    obtain ⟨_, committed, made, answered⟩ := passed
    cases answered
    refine commitRecovery_moves member onward ?_ ?_ continues made
    · rw [← status]
      rfl
    · rw [← status]
      rfl
  | committed =>
    rw [stands] at passed
    cases passed
    exact taken _
  | activated | aborted | failed =>
    rw [stands] at passed
    cases passed
    exact taken _

theorem activateRecovery_moves (passed : state.activateRecovery recoveryId now = .ok after) :
    Move state { after with activating } := by
  unfold activateRecovery at passed
  obtain ⟨row, looked, passed⟩ := bind_eq_ok.mp passed
  have member := mem_of_find? (present_eq_ok.mp looked)
  split at passed
  · rename_i committed
    cases passed
    refine .rewrite row { row with status := .activated } member
      ⟨⟨rfl, rfl, rfl, rfl, rfl, rfl, nofun⟩, ?_, ?_⟩ rfl rfl rfl ⟨rfl, rfl, rfl, rfl, rfl⟩
    · rw [committed]
      rfl
    · rw [committed]
      nofun
  · cases passed
    exact .sync (.refl _) rfl rfl ⟨rfl, rfl, rfl, rfl, rfl⟩

theorem abortRecovery_moves (passed : state.abortRecovery recoveryId ownerId now = .ok after) :
    Move state after := by
  unfold abortRecovery at passed
  simp only [passes_iff] at passed
  obtain ⟨row, found, _, unmutated, answered⟩ := passed
  cases answered
  exact .rewrite row { row with status := .aborted } (mem_of_find? found)
    ⟨⟨rfl, rfl, rfl, rfl, rfl, rfl, by rintro ⟨⟩⟩, unmutated.symm, fun _ => rfl⟩ rfl rfl rfl
    ⟨rfl, rfl, rfl, rfl, rfl⟩

theorem renewRecovery_moves {ownerId : Identifier}
    (passed : state.renewRecovery recoveryId ownerId now leaseUntil = .ok after) :
    Move state after := by
  unfold renewRecovery at passed
  simp only [passes_iff] at passed
  obtain ⟨row, found, _, passed⟩ := passed
  split at passed
  · cases passed
    exact .rewrite row { row with leaseUntil } (mem_of_find? found)
      ⟨⟨rfl, rfl, rfl, rfl, rfl, rfl, id⟩, rfl, id⟩ rfl rfl rfl ⟨rfl, rfl, rfl, rfl, rfl⟩
  · cases passed
    exact still_move

end Reopening

end DispatcherSdk.Orchestrator
