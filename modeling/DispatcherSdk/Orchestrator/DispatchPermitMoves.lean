/-
This file models how dispatches of managed Runs reach the Kernel, and proves what a single
process does to the dispatch permits, whatever the others do around it.

What the host verifies and what a capture shows is left open. What a process has read of a
message or a permit stays true: a permit is accepted only for an execution that the Kernel has
accepted, and a message is delivered only if its permit has been taken out.
-/

import DispatcherSdk.Library.Tally
import DispatcherSdk.Orchestrator.AdvancementRuns

namespace DispatcherSdk.Orchestrator

open Library Library.Checked Table
open ExecutionKernel hiding ExecutionRow OutboxRow EventRow Operation

/-! ### The rows -/

/-- The columns of `sdk_managed_runs` that the gate is made of. -/
structure GateRow where
  runId : Identifier
  control : ManagedControl

/-- A row of `sdk_managed_control_transitions`. -/
structure ControlTransition where
  runId : Identifier
  controlEpoch : ℕ
  state : ControlState
  generation : ℕ
  drainExecutionIds : List Identifier
  pauseMode : Option PauseMode

inductive MessageKind where
  | dispatch
  | cancel
  deriving DecidableEq

/-- A row of `sdk_outbox`. -/
structure Message where
  sequence : ℕ
  runId : Identifier
  commandId : String
  kind : MessageKind
  executionId : Identifier
  generation : ℕ
  delivered : Bool
  attempts : ℕ

inductive PermitState where
  | inFlight
  | unknown
  | accepted
  deriving DecidableEq

/-- A row of `sdk_dispatch_permits`. -/
structure DispatchPermit where
  sequence : ℕ
  runId : Identifier
  executionId : Identifier
  generation : ℕ
  controlEpoch : ℕ
  kernelStoreId : Identifier
  state : PermitState

/-- The columns of `sdk_control_operations` that the local steps of a pause read. -/
structure PauseRow where
  operationId : Identifier
  runId : Identifier
  sourceEpoch : ℕ
  generation : ℕ
  kernelStoreId : Identifier
  prepared : Bool
  /-- `orchestrator_pause_receipt IS NOT NULL`. -/
  paused : Bool

/-- An execution that a Kernel has accepted, with the Run it is registered for. -/
structure Admission where
  executionId : Identifier
  runId : Identifier
  generation : ℕ
  /-- Cancelled before any attempt at it was made. -/
  cancelled : Bool

/-- The executions that a Kernel has accepted. -/
abbrev Admissions := Table Admission.executionId

/-! ### Processes -/

/-- Where a flush stands with one message. -/
inductive DeliveryStage where
  /-- Selected, as a message of a managed Run or not. -/
  | selected (managed : Bool)
  /-- A new permit has been taken out. -/
  | probing
  /-- The Kernel did not know the execution. -/
  | submitting
  /-- The Kernel knows the execution. -/
  | receipt
  /-- The Kernel has shown the managed execution. -/
  | confirmed
  /-- The Kernel did not know the execution of a Run that is not managed. -/
  | plainSubmitting
  /-- The Kernel has answered and the permit is accepted. -/
  | answered
  /-- The delivery of a managed dispatch has failed. -/
  | doubtful
  /-- The delivery has failed. -/
  | failed

/-- A process at work, for a Kernel store. -/
inductive Flush where
  /-- `flush` has read the pending messages. -/
  | scanned (storeId : Identifier) (blocked : List Identifier) (limit : ℕ) (pending : List Message)
  | working (storeId : Identifier) (message : Message) (stage : DeliveryStage)
  /-- `reconcile_dispatch_permits` has read the permit. -/
  | reconciling (storeId : Identifier) (permit : DispatchPermit)
  /-- The Kernel has shown what the permit was for. -/
  | verified (storeId : Identifier) (permit : DispatchPermit)

/-- The store of the SDK, the Kernel stores, the processes at work, and the sequences submitted. -/
structure Dispatching where
  controls : Table GateRow.runId
  transitions : List ControlTransition
  pauses : Table PauseRow.operationId
  outbox : Table Message.sequence
  permits : Table DispatchPermit.sequence
  kernels : Identifier → Admissions
  flushes : List Flush
  submitted : List ℕ

/-! ### The Kernel -/

namespace Admissions

variable (kernel : Admissions) (message : Message)

/-- `managed_execution_receipt` finds the execution and its registration. -/
def shows (executionId runId : Identifier) (generation : ℕ) : Bool :=
  (kernel.find? executionId).any fun admission =>
    decide (admission.runId = runId ∧ admission.generation = generation)

/-- `managed_admission_provenance` finds that the execution was accepted. -/
def accepted (executionId runId : Identifier) (generation : ℕ) : Bool :=
  (kernel.find? executionId).any fun admission =>
    decide (admission.runId = runId ∧ admission.generation = generation ∧
      admission.cancelled = false)

/-- `submit_managed`: an accepted execution is shown again, and a new one may be accepted. -/
def submitManaged (accepts : Bool) : Bool × Admissions :=
  match kernel.find? message.executionId with
  | some _ => (kernel.shows message.executionId message.runId message.generation, kernel)
  | none =>
    if accepts then
      (true, kernel.put ⟨message.executionId, message.runId, message.generation, false⟩)
    else (false, kernel)

/-- `submit`, which refuses the identities of managed executions. -/
def submit (accepts : Bool) : Bool × Admissions :=
  match kernel.find? message.executionId with
  | some _ => (true, kernel)
  | none =>
    if message.executionId.managed = false ∧ accepts = true then
      (true, kernel.put ⟨message.executionId, message.runId, message.generation, false⟩)
    else (false, kernel)

/-- Nothing that was accepted is forgotten or registered anew. -/
def Keeps (before after : Admissions) : Prop :=
  ∀ name admission, before.find? name = some admission → ∃ later, after.find? name = some later ∧
    later.runId = admission.runId ∧ later.generation = admission.generation

end Admissions

/-! ### Permits -/

/-- What `_acquire_dispatch_permit` answers. -/
inductive DispatchGrant where
  | refused
  | outstanding
  | accepted
  | new

namespace Dispatching

variable (state : Dispatching)

/-- The row of `sdk_managed_control_transitions` for an epoch. -/
def transitionAt (runId : Identifier) (controlEpoch : ℕ) : Option ControlTransition :=
  state.transitions.find? fun row => row.runId = runId ∧ row.controlEpoch = controlEpoch

def mayDispatch (control : ManagedControl) (drain : List Identifier) (executionId : Identifier) :
    Bool :=
  decide (control.state = .active ∨ (control.state = .pausing ∧ executionId ∈ drain))

def acquireDispatchPermit (storeId : Identifier) (message : Message) :
    Except SdkError (DispatchGrant × Dispatching) := do
  let missing := SdkError.orchestration "managed dispatch control is missing"
  let gate ← present (state.controls.find? message.runId) missing
  let transition ← present (state.transitionAt message.runId gate.control.epoch) missing
  if gate.control.generation ≠ message.generation then return (.refused, state)
  else if mayDispatch gate.control transition.drainExecutionIds message.executionId = false then
    return (.refused, state)
  else
    match state.permits.find? message.sequence with
    | some previous => do
      check (previous.runId = message.runId ∧ previous.executionId = message.executionId ∧
          previous.generation = message.generation)
        (.orchestration "dispatch permit identity mismatch")
      check (previous.kernelStoreId = storeId)
        (.orchestration "dispatch permit Kernel identity changed")
      return (if previous.state = .accepted then .accepted else .outstanding, state)
    | none =>
      return (.new, { state with
        permits := state.permits.put
          { sequence := message.sequence, runId := message.runId
            executionId := message.executionId, generation := message.generation
            controlEpoch := gate.control.epoch, kernelStoreId := storeId, state := .inFlight } })

/-- Write the state of a permit that is not accepted. -/
def settlePermit (sequence : ℕ) (settled : PermitState) : Dispatching :=
  { state with
    permits := state.permits.update
      (fun permit =>
        if permit.sequence = sequence ∧ permit.state ≠ .accepted then { permit with state := settled }
        else permit)
      fun permit => by split <;> rfl }

/-- `_finish_dispatch_permit` with the state `accepted`. -/
def acceptDispatchPermit (storeId : Identifier) (sequence : ℕ) : Except SdkError Dispatching := do
  let changed := SdkError.orchestration "dispatch permit Kernel identity changed"
  let permit ← present (state.permits.find? sequence) changed
  check (permit.kernelStoreId = storeId) changed
  return state.settlePermit sequence .accepted

/-- `_finish_dispatch_permit` with the state `unknown`. -/
def doubtDispatchPermit (sequence : ℕ) : Dispatching := state.settlePermit sequence .unknown

/-- The permits that `reconcile_dispatch_permits` looks at. -/
def openPermits (runId : Identifier) (limit : ℕ) : List DispatchPermit :=
  ((state.permits.rows.filter fun permit =>
    decide (permit.runId = runId ∧ permit.state ≠ .accepted)).insertionSort
      fun left right => left.sequence ≤ right.sequence).take limit

/-! ### Selection -/

/-- `SELECT … WHERE delivered=0 ORDER BY attempts,sequence`. -/
def pendingMessages : List Message :=
  (state.outbox.rows.filter fun message => !message.delivered).insertionSort fun left right =>
    left.attempts < right.attempts ∨
      (left.attempts = right.attempts ∧ left.sequence ≤ right.sequence)

/-- The entry of a Run in `managed_controls`, read for Runs with messages that are still pending. -/
def managedControlOf (runId : Identifier) : Option (ManagedControl × Option ControlTransition) :=
  if ∃ message ∈ state.outbox.rows, message.runId = runId ∧ message.delivered = false then
    (state.controls.find? runId).map fun gate =>
      (gate.control, state.transitionAt runId gate.control.epoch)
  else none

/-- Whether a flush takes up a message after it has read the controls. -/
def admits (message : Message) : Bool :=
  decide (message.kind ≠ .dispatch) ||
    match state.managedControlOf message.runId with
    | none => true
    | some (_, none) => false
    | some (control, some transition) =>
      mayDispatch control transition.drainExecutionIds message.executionId

def selectMessages (blocked : List Identifier) (limit : ℕ) (pending : List Message) :
    List Message :=
  let messages : List Message := pending.filter fun message => decide (message.runId ∉ blocked)
  let cancellations : List Identifier :=
    (messages.filter fun message => decide (message.kind = .cancel)).map Message.executionId
  let selected : List Message := messages.filter fun message =>
    decide (message.kind ≠ .dispatch ∨ message.executionId ∉ cancellations)
  (selected.filter state.admits).take limit

def countAttempt (sequence : ℕ) (delivered : Bool) : Dispatching :=
  { state with
    outbox := state.outbox.update
      (fun message =>
        if message.sequence = sequence ∧ message.delivered = false then
          { message with attempts := message.attempts + 1, delivered }
        else message)
      fun message => by split <;> rfl }

/-- A Kernel store with other executions. -/
def setKernel (storeId : Identifier) (kernel : Admissions) : Dispatching :=
  { state with kernels := Function.update state.kernels storeId kernel }

/-! ### Pauses -/

/-- Write the control of a Run, with the row of `sdk_managed_control_transitions` that goes with
it. -/
def setControl (runId : Identifier) (control : ManagedControl) (drain : List Identifier)
    (mode : Option PauseMode) : Dispatching :=
  { state with
    controls := state.controls.put ⟨runId, control⟩
    transitions := state.transitions ++
      [⟨runId, control.epoch, control.state, control.generation, drain, mode⟩] }

def enqueue (messages : List Message) : Dispatching :=
  { state with outbox := messages.foldl Table.put state.outbox }

/-- Messages that are new and pending, and of one Run. -/
def Fresh (runId : Identifier) (messages : List Message) : Prop :=
  (∀ message ∈ messages, message.runId = runId ∧ message.delivered = false ∧
    state.outbox.find? message.sequence = none) ∧ (messages.map Message.sequence).Nodup

/-- `_request_managed_control` with the kind `pause`. An interrupting pause queues cancellations. -/
def requestPause (runId : Identifier) (expectedEpoch : ℕ) (mode : PauseMode)
    (drain : List Identifier) (cancels : List Message) : Except SdkError Dispatching := do
  let gate ← present (state.controls.find? runId) (.orchestration "unknown managed Run")
  check (gate.control.epoch = expectedEpoch) (.revisionConflict "managed Run observation changed")
  check (gate.control.state = .active) (.orchestration "only active Run may request pause")
  return (state.setControl runId ⟨.pausing, expectedEpoch + 1, gate.control.generation⟩ drain
    (some mode)).enqueue (if mode = .interrupt then cancels else [])

/-- `begin_cross_store_pause`, for an operation that is new. -/
def beginCrossStorePause (operationId runId : Identifier) (expectedEpoch : ℕ)
    (drain : List Identifier) (storeId : Identifier) : Except SdkError Dispatching := do
  check (state.pauses.find? operationId).isNone
    (.commandConflict "control operation identity already has different content")
  let gate ← present (state.controls.find? runId)
    (.orchestration "unknown or terminal managed Run")
  check (gate.control.epoch = expectedEpoch) (.revisionConflict "managed Run observation changed")
  check (gate.control.state = .active) (.orchestration "only an active Run may request pause")
  let paused := state.setControl runId ⟨.pausing, expectedEpoch + 1, gate.control.generation⟩ drain
    (some (if drain = [] then .interrupt else .drain))
  return { paused with
    pauses := state.pauses.put
      ⟨operationId, runId, expectedEpoch, gate.control.generation, storeId, false, false⟩ }

/-- The dispatches of a Run that are still pending. -/
def pendingDispatches (runId : Identifier) : List Message :=
  state.outbox.rows.filter fun message =>
    decide (message.runId = runId ∧ message.delivered = false ∧ message.kind = .dispatch)

def prepareCrossStorePause (operationId storeId : Identifier) : Except SdkError Dispatching := do
  let operation ← present (state.pauses.find? operationId)
    (.orchestration "unknown cross-store pause operation")
  check (operation.kernelStoreId = storeId)
    (.orchestration "control operation Kernel identity changed or is unknown")
  let changed := SdkError.revisionConflict "Orchestrator pause barrier changed"
  let gate ← present (state.controls.find? operation.runId) changed
  check (gate.control = ⟨.pausing, operation.sourceEpoch + 1, operation.generation⟩ ∨
    (operation.paused = true ∧
      gate.control = ⟨.paused, operation.sourceEpoch + 2, operation.generation⟩)) changed
  if operation.prepared then return state
  else
    let pending := state.pendingDispatches operation.runId
    check (pending.length ≤ 1000)
      (.orchestration "cross-store dispatch classification exceeds the bounded preparation limit")
    check ((∀ permit ∈ state.permits.rows, permit.runId = operation.runId →
          permit.state = .accepted ∧ permit.kernelStoreId = operation.kernelStoreId) ∧
        ∀ message ∈ pending,
          (state.permits.find? message.sequence).map DispatchPermit.state = some .accepted)
      (.orchestration "cross-store pause has unknown in-flight dispatches")
    return { state with pauses := state.pauses.put { operation with prepared := true } }

def finalizeCrossStorePause (operationId : Identifier) : Except SdkError Dispatching := do
  let refusal := SdkError.orchestration "prepared pause decision is required"
  let operation ← present (state.pauses.find? operationId) refusal
  check (operation.prepared = true) refusal
  if operation.paused then return state
  else
    let changed := SdkError.revisionConflict "Orchestrator pause barrier changed"
    let gate ← present (state.controls.find? operation.runId) changed
    check (gate.control = ⟨.pausing, operation.sourceEpoch + 1, operation.generation⟩) changed
    let paused := state.setControl operation.runId
      ⟨.paused, operation.sourceEpoch + 2, operation.generation⟩ [] none
    return { paused with pauses := state.pauses.put { operation with paused := true } }

def settleManagedPause (runId : Identifier) (expectedEpoch : ℕ) : Except SdkError Dispatching := do
  let gate ← present (state.controls.find? runId) (.orchestration "unknown managed Run")
  if gate.control.state = .paused ∧ gate.control.epoch = expectedEpoch + 1 then return state
  else
    check (gate.control.epoch = expectedEpoch) (.revisionConflict "managed control epoch changed")
    check (gate.control.state = .pausing) (.orchestration "managed Run is not pausing")
    let transition ← present (state.transitionAt runId expectedEpoch)
      (.orchestration "managed pause transition is missing")
    check (∀ permit ∈ state.permits.rows, permit.runId = runId → permit.state = .accepted)
      (.orchestration "managed pause has unresolved dispatch")
    check (transition.pauseMode = some .interrupt → ∀ message ∈ state.outbox.rows,
        message.runId = runId → message.delivered = false →
          message.commandId.startsWith "managed-interrupt:" = false)
      (.orchestration "managed interrupt cancellations are still pending")
    return state.setControl runId ⟨.paused, expectedEpoch + 1, gate.control.generation⟩ [] none

/-- `install_cross_store_projection`: a paused Run gets a new generation. -/
def installProjection (runId : Identifier) : Except SdkError Dispatching := do
  let refusal := SdkError.revisionConflict "local revision installation source changed"
  let gate ← present (state.controls.find? runId) refusal
  check (gate.control.state = .paused) refusal
  return state.setControl runId
    ⟨.paused, gate.control.epoch + 1, gate.control.generation + 1⟩ [] none

/-- `_request_managed_control` with the kind `resume`, or the last transaction of
`resume_cross_store_revision`. -/
def resume (runId : Identifier) (messages : List Message) : Except SdkError Dispatching := do
  let refusal := SdkError.orchestration "only paused Run may request resume"
  let gate ← present (state.controls.find? runId) refusal
  check (gate.control.state = .paused) refusal
  return (state.setControl runId ⟨.active, gate.control.epoch + 1, gate.control.generation⟩ []
    none).enqueue messages

end Dispatching

/-! ### Steps -/

/-- What a process does next: how the stores change, and which processes take its place. -/
inductive Flush.Move (state : Dispatching) : Flush → Dispatching → List Flush → Prop
  /-- A flush reads the controls and takes up messages. -/
  | select (storeId : Identifier) (blocked : List Identifier) (limit : ℕ) (pending : List Message) :
      Move state (.scanned storeId blocked limit pending) state
        ((state.selectMessages blocked limit pending).map fun message =>
          .working storeId message (.selected (state.managedControlOf message.runId).isSome))
  /-- A permit is refused, or another process has one. -/
  | skip (storeId : Identifier) (message : Message) (grant : DispatchGrant)
      (dispatch : message.kind = .dispatch) (idle : grant = .refused ∨ grant = .outstanding)
      (passed : state.acquireDispatchPermit storeId message = .ok (grant, state)) :
      Move state (.working storeId message (.selected true)) state []
  /-- The dispatch has been accepted before. -/
  | replay (storeId : Identifier) (message : Message) (dispatch : message.kind = .dispatch)
      (passed : state.acquireDispatchPermit storeId message = .ok (.accepted, state)) :
      Move state (.working storeId message (.selected true)) state
        [.working storeId message .receipt]
  | acquire (storeId : Identifier) (message : Message) (after : Dispatching)
      (dispatch : message.kind = .dispatch)
      (passed : state.acquireDispatchPermit storeId message = .ok (.new, after)) :
      Move state (.working storeId message (.selected true)) after
        [.working storeId message .probing]
  /-- `kernel.get` finds nothing. -/
  | missing (storeId : Identifier) (message : Message)
      (unknown : (state.kernels storeId).find? message.executionId = none) :
      Move state (.working storeId message .probing) state [.working storeId message .submitting]
  /-- `kernel.get` finds the execution. -/
  | found (storeId : Identifier) (message : Message)
      (known : ((state.kernels storeId).find? message.executionId).isSome) :
      Move state (.working storeId message .probing) state [.working storeId message .receipt]
  | receipt (storeId : Identifier) (message : Message)
      (shown : (state.kernels storeId).shows message.executionId message.runId
        message.generation = true) :
      Move state (.working storeId message .receipt) state [.working storeId message .confirmed]
  /-- `submit_managed` is answered. -/
  | submit (storeId : Identifier) (message : Message) (accepts : Bool)
      (answered : ((state.kernels storeId).submitManaged message accepts).1 = true) :
      Move state (.working storeId message .submitting)
        { state.setKernel storeId ((state.kernels storeId).submitManaged message accepts).2 with
          submitted := message.sequence :: state.submitted }
        [.working storeId message .confirmed]
  /-- `submit_managed` is refused, or its answer is lost. -/
  | lose (storeId : Identifier) (message : Message) (accepts : Bool) :
      Move state (.working storeId message .submitting)
        { state.setKernel storeId ((state.kernels storeId).submitManaged message accepts).2 with
          submitted := message.sequence :: state.submitted }
        [.working storeId message .doubtful]
  | accept (storeId : Identifier) (message : Message) (after : Dispatching)
      (passed : state.acceptDispatchPermit storeId message.sequence = .ok after) :
      Move state (.working storeId message .confirmed) after [.working storeId message .answered]
  /-- Anything else goes wrong in the delivery of a managed dispatch. -/
  | doubt (storeId : Identifier) (message : Message) (stage : DeliveryStage)
      (started : stage = .selected true ∨ stage = .probing ∨ stage = .receipt ∨
        stage = .confirmed) :
      Move state (.working storeId message stage) state [.working storeId message .doubtful]
  | record (storeId : Identifier) (message : Message) :
      Move state (.working storeId message .doubtful) (state.doubtDispatchPermit message.sequence)
        [.working storeId message .failed]
  /-- `kernel.get` for a Run that is not managed. -/
  | plainMissing (storeId : Identifier) (message : Message) (dispatch : message.kind = .dispatch)
      (unknown : (state.kernels storeId).find? message.executionId = none) :
      Move state (.working storeId message (.selected false)) state
        [.working storeId message .plainSubmitting]
  | plainFound (storeId : Identifier) (message : Message) (dispatch : message.kind = .dispatch)
      (known : ((state.kernels storeId).find? message.executionId).isSome) :
      Move state (.working storeId message (.selected false)) state
        [.working storeId message .answered]
  | plainSubmit (storeId : Identifier) (message : Message) (accepts : Bool)
      (answered : ((state.kernels storeId).submit message accepts).1 = true) :
      Move state (.working storeId message .plainSubmitting)
        (state.setKernel storeId ((state.kernels storeId).submit message accepts).2)
        [.working storeId message .answered]
  | plainLose (storeId : Identifier) (message : Message) (accepts : Bool) :
      Move state (.working storeId message .plainSubmitting)
        (state.setKernel storeId ((state.kernels storeId).submit message accepts).2)
        [.working storeId message .failed]
  /-- The Kernel has cancelled the execution, or accepted it as cancelled. -/
  | cancel (storeId : Identifier) (message : Message) (managed : Bool) (kernel : Admissions)
      (withdrawn : message.kind = .cancel) (keeps : (state.kernels storeId).Keeps kernel) :
      Move state (.working storeId message (.selected managed)) (state.setKernel storeId kernel)
        [.working storeId message .answered]
  /-- The cancellation, the submission or the report of a delivery fails. -/
  | fail (storeId : Identifier) (message : Message) (stage : DeliveryStage)
      (started : (∃ managed, stage = .selected managed ∧ (managed = true → message.kind = .cancel)) ∨
        stage = .plainSubmitting ∨ stage = .answered) :
      Move state (.working storeId message stage) state [.working storeId message .failed]
  /-- `_delivery_failed`. -/
  | reject (storeId : Identifier) (message : Message) :
      Move state (.working storeId message .failed) (state.countAttempt message.sequence false) []
  | complete (storeId : Identifier) (message : Message) :
      Move state (.working storeId message .answered) (state.countAttempt message.sequence true) []
  /-- A reconciliation finds the receipt of a permit. -/
  | verify (storeId : Identifier) (permit : DispatchPermit) (same : storeId = permit.kernelStoreId)
      (shown : (state.kernels storeId).accepted permit.executionId permit.runId
        permit.generation = true) :
      Move state (.reconciling storeId permit) state [.verified storeId permit]
  /-- A reconciliation finds no receipt. -/
  | overlook (storeId : Identifier) (permit : DispatchPermit) :
      Move state (.reconciling storeId permit) (state.doubtDispatchPermit permit.sequence) []
  | reconcile (storeId : Identifier) (permit : DispatchPermit) (after : Dispatching)
      (passed : state.acceptDispatchPermit storeId permit.sequence = .ok after) :
      Move state (.verified storeId permit) after []
  /-- A process stops for good. -/
  | crash (flush : Flush) : Move state flush state []

inductive Dispatching.Step (state : Dispatching) : Dispatching → Prop
  /-- `flush` reads the pending messages. -/
  | scan (storeId : Identifier) (blocked : List Identifier) (limit : ℕ) :
      Step state { state with
        flushes := .scanned storeId blocked limit state.pendingMessages :: state.flushes }
  /-- `reconcile_dispatch_permits` reads the permits. -/
  | look (storeId runId : Identifier) (limit : ℕ) :
      Step state { state with
        flushes := (state.openPermits runId limit).map (.reconciling storeId) ++ state.flushes }
  | move (before after : List Flush) (flush : Flush) (next : Dispatching) (left : List Flush)
      (working : state.flushes = before ++ flush :: after) (moved : flush.Move state next left) :
      Step state { next with flushes := before ++ left ++ after }
  /-- Anything that a Kernel does for its workers and its own clients. -/
  | kernel (storeId : Identifier) (kernel : Admissions)
      (keeps : (state.kernels storeId).Keeps kernel) : Step state (state.setKernel storeId kernel)
  /-- `register_managed_run`. -/
  | register (runId : Identifier) (messages : List Message)
      (new : state.controls.find? runId = none)
      (unheard : ∀ message ∈ state.outbox, message.runId ≠ runId)
      (fresh : state.Fresh runId messages)
      (reserved : ∀ message ∈ messages, message.executionId.managed = true) :
      Step state ((state.setControl runId ⟨.paused, 0, 0⟩ [] none).enqueue messages)
  /-- An active Run queues dispatches, a Run that is not managed anything. -/
  | queue (runId : Identifier) (messages : List Message) (fresh : state.Fresh runId messages)
      (open_ : ∀ gate, state.controls.find? runId = some gate → gate.control.state = .active ∧
        ∀ message ∈ messages, message.executionId.managed = true) :
      Step state (state.enqueue messages)
  /-- Cancellations may be queued at any time. -/
  | withdraw (runId : Identifier) (messages : List Message) (fresh : state.Fresh runId messages)
      (cancels : ∀ message ∈ messages, message.kind = .cancel) : Step state (state.enqueue messages)
  | requestPause (runId : Identifier) (expectedEpoch : ℕ) (mode : PauseMode)
      (drain : List Identifier) (cancels : List Message) (after : Dispatching)
      (fresh : state.Fresh runId cancels) (withdraws : ∀ message ∈ cancels, message.kind = .cancel ∧
        message.commandId.startsWith "managed-interrupt:" = true)
      (passed : state.requestPause runId expectedEpoch mode drain cancels = .ok after) :
      Step state after
  | beginPause (operationId runId : Identifier) (expectedEpoch : ℕ) (drain : List Identifier)
      (storeId : Identifier) (after : Dispatching)
      (passed : state.beginCrossStorePause operationId runId expectedEpoch drain storeId =
        .ok after) : Step state after
  | prepare (operationId storeId : Identifier) (after : Dispatching)
      (passed : state.prepareCrossStorePause operationId storeId = .ok after) : Step state after
  | finalize (operationId : Identifier) (after : Dispatching)
      (passed : state.finalizeCrossStorePause operationId = .ok after) : Step state after
  | settle (runId : Identifier) (expectedEpoch : ℕ) (after : Dispatching)
      (passed : state.settleManagedPause runId expectedEpoch = .ok after) : Step state after
  | install (runId : Identifier) (after : Dispatching)
      (passed : state.installProjection runId = .ok after) : Step state after
  | resume (runId : Identifier) (messages : List Message) (after : Dispatching)
      (fresh : state.Fresh runId messages)
      (reserved : ∀ message ∈ messages, message.executionId.managed = true)
      (passed : state.resume runId messages = .ok after) : Step state after

/-- New stores, and every interleaving of the steps. -/
def dispatching : TransitionSystem Dispatching where
  initial state := state.controls = ∅ ∧ state.transitions = [] ∧ state.pauses = ∅ ∧
    state.outbox = ∅ ∧ state.permits = ∅ ∧ state.flushes = [] ∧ state.submitted = []
  step := Dispatching.Step

open List Option Bool Function

/-! ### What stays -/

/-- A message of the outbox is the one that a process has read. -/
structure Message.Same (message stored : Message) : Prop where
  runId : stored.runId = message.runId
  kind : stored.kind = message.kind
  executionId : stored.executionId = message.executionId
  generation : stored.generation = message.generation

theorem Message.Same.refl (message : Message) : message.Same message := ⟨rfl, rfl, rfl, rfl⟩

theorem Message.Same.trans {first second third : Message} (left : first.Same second)
    (right : second.Same third) : first.Same third :=
  ⟨right.runId.trans left.runId, right.kind.trans left.kind,
    right.executionId.trans left.executionId, right.generation.trans left.generation⟩

/-- A permit keeps what it is for, and an accepted one stays accepted. -/
structure DispatchPermit.Keeps (permit later : DispatchPermit) : Prop where
  runId : later.runId = permit.runId
  executionId : later.executionId = permit.executionId
  generation : later.generation = permit.generation
  kernelStoreId : later.kernelStoreId = permit.kernelStoreId
  accepted : permit.state = .accepted → later.state = .accepted

theorem DispatchPermit.Keeps.refl (permit : DispatchPermit) : permit.Keeps permit :=
  ⟨rfl, rfl, rfl, rfl, id⟩

theorem DispatchPermit.Keeps.trans {first second third : DispatchPermit} (left : first.Keeps second)
    (right : second.Keeps third) : first.Keeps third :=
  ⟨right.runId.trans left.runId, right.executionId.trans left.executionId,
    right.generation.trans left.generation, right.kernelStoreId.trans left.kernelStoreId,
    fun accepted => right.accepted (left.accepted accepted)⟩

namespace Admissions

theorem Keeps.refl (kernel : Admissions) : kernel.Keeps kernel :=
  fun _ admission found => ⟨admission, found, rfl, rfl⟩

variable {kernel : Admissions}

variable {executionId : Identifier} {generation : ℕ}

variable {runId : Identifier}

theorem shows_iff :
    kernel.shows executionId runId generation = true ↔
      ∃ admission, kernel.find? executionId = some admission ∧ admission.runId = runId ∧
        admission.generation = generation := by
  unfold shows
  rw [Option.any_eq_true]
  simp only [decide_eq_true_eq]

theorem Keeps.shows {before after : Admissions} (keeps : before.Keeps after)
    (shown : before.shows executionId runId generation = true) :
    after.shows executionId runId generation = true := by
  obtain ⟨admission, found, run, age⟩ := shows_iff.mp shown
  obtain ⟨later, there, sameRun, sameAge⟩ := keeps executionId admission found
  exact shows_iff.mpr ⟨later, there, sameRun.trans run, sameAge.trans age⟩

theorem accepted_shows (accepted : kernel.accepted executionId runId generation = true) :
    kernel.shows executionId runId generation = true := by
  obtain ⟨admission, found, same⟩ := (any_eq_true _ _).mp accepted
  have known := of_decide_eq_true same
  exact shows_iff.mpr ⟨admission, found, known.1, known.2.1⟩

theorem keeps_put {admission : Admission} (fresh : kernel.find? admission.executionId = none) :
    kernel.Keeps (kernel.put admission) := by
  intro name stored found
  refine ⟨stored, ?_, rfl, rfl⟩
  rw [find?_put_other kernel, found]
  rintro rfl
  cases fresh.symm.trans found

theorem submitManaged_keeps (kernel : Admissions) (message : Message) (accepts : Bool) :
    kernel.Keeps (kernel.submitManaged message accepts).2 := by
  unfold submitManaged
  cases found : kernel.find? message.executionId with
  | some admission => exact .refl kernel
  | none =>
    cases accepts with
    | true => exact keeps_put found
    | false => exact .refl kernel

variable {message : Message}

theorem submitManaged_shows {accepts : Bool}
    (answered : (kernel.submitManaged message accepts).1 = true) :
    (kernel.submitManaged message accepts).2.shows message.executionId message.runId
      message.generation = true := by
  unfold submitManaged at answered ⊢
  cases found : kernel.find? message.executionId with
  | some admission =>
    rw [found] at answered
    exact answered
  | none =>
    rw [found] at answered
    cases accepts with
    | true =>
      exact shows_iff.mpr ⟨_, find?_put_same kernel
        ⟨message.executionId, message.runId, message.generation, false⟩, rfl, rfl⟩
    | false => cases answered

theorem submitManaged_replays
    (shown : kernel.shows message.executionId message.runId message.generation = true)
    (accepts : Bool) : (kernel.submitManaged message accepts).2 = kernel := by
  obtain ⟨admission, found, _⟩ := shows_iff.mp shown
  unfold submitManaged
  rw [found]

theorem submit_keeps (kernel : Admissions) (message : Message) (accepts : Bool) :
    kernel.Keeps (kernel.submit message accepts).2 := by
  unfold submit
  cases found : kernel.find? message.executionId with
  | some admission => exact .refl kernel
  | none =>
    dsimp only
    split
    · exact keeps_put found
    · exact .refl kernel

theorem submit_reserved (reserved : message.executionId.managed = true) (accepts : Bool) :
    (kernel.submit message accepts).2 = kernel := by
  unfold submit
  cases found : kernel.find? message.executionId with
  | some admission => rfl
  | none =>
    dsimp only
    rw [if_neg]
    rintro ⟨free, _⟩
    cases reserved.symm.trans free

end Admissions

namespace Dispatching

variable {state next : Dispatching}

def Managed (state : Dispatching) (runId : Identifier) : Prop :=
  ∃ gate, state.controls.find? runId = some gate

def Queued (state : Dispatching) (message : Message) : Prop :=
  ∃ stored, state.outbox.find? message.sequence = some stored ∧ message.Same stored

/-- A permit for the message has been taken out for the Kernel store. -/
def Permitted (state : Dispatching) (storeId : Identifier) (message : Message) : Prop :=
  ∃ permit, state.permits.find? message.sequence = some permit ∧ permit.runId = message.runId ∧
    permit.executionId = message.executionId ∧ permit.generation = message.generation ∧
      permit.kernelStoreId = storeId

/-- The Kernel has accepted the execution for the Run. -/
def Admitted (state : Dispatching) (storeId executionId runId : Identifier) (generation : ℕ) :
    Prop :=
  (state.kernels storeId).shows executionId runId generation = true

/-- If the message is a managed dispatch, it has a permit. -/
def Covered (state : Dispatching) (message : Message) : Prop :=
  message.kind = .dispatch → state.Managed message.runId →
    (state.permits.find? message.sequence).isSome

structure Grows (state next : Dispatching) : Prop where
  kernels : ∀ storeId, (state.kernels storeId).Keeps (next.kernels storeId)
  permits : ∀ sequence permit, state.permits.find? sequence = some permit →
    ∃ later, next.permits.find? sequence = some later ∧ permit.Keeps later
  queued : ∀ sequence message, state.outbox.find? sequence = some message →
    ∃ later, next.outbox.find? sequence = some later ∧ message.Same later
  managed : ∀ runId, next.Managed runId →
    state.Managed runId ∨ ∀ message ∈ state.outbox, message.runId ≠ runId

theorem Grows.refl (state : Dispatching) : state.Grows state :=
  ⟨fun _ => .refl _, fun _ permit found => ⟨permit, found, .refl permit⟩,
    fun _ message found => ⟨message, found, .refl message⟩, fun _ => Or.inl⟩

theorem Grows.trans {last : Dispatching} (early : state.Grows next) (late : next.Grows last) :
    state.Grows last where
  kernels storeId name admission found := by
    obtain ⟨middle, there, run, age⟩ := early.kernels storeId name admission found
    obtain ⟨later, here, sameRun, sameAge⟩ := late.kernels storeId name middle there
    exact ⟨later, here, sameRun.trans run, sameAge.trans age⟩
  permits sequence permit found := by
    obtain ⟨middle, there, keeps⟩ := early.permits sequence permit found
    obtain ⟨later, here, still⟩ := late.permits sequence middle there
    exact ⟨later, here, keeps.trans still⟩
  queued sequence message found := by
    obtain ⟨middle, there, same⟩ := early.queued sequence message found
    obtain ⟨later, here, still⟩ := late.queued sequence middle there
    exact ⟨later, here, same.trans still⟩
  managed runId managed := by
    rcases late.managed runId managed with before | unheard
    · exact early.managed runId before
    · refine Or.inr fun message member => ?_
      obtain ⟨middle, there, same⟩ := early.queued message.sequence message (find?_key member)
      rw [← same.runId]
      exact unheard middle (mem_of_find? there)

namespace Grows

variable (grows : state.Grows next)

include grows

variable {message : Message}

theorem queues (queued : state.Queued message) : next.Queued message := by
  obtain ⟨stored, found, same⟩ := queued
  obtain ⟨later, there, still⟩ := grows.queued message.sequence stored found
  exact ⟨later, there, same.trans still⟩

theorem permitted {storeId : Identifier} (permitted : state.Permitted storeId message) :
    next.Permitted storeId message := by
  obtain ⟨permit, found, run, execution, age, store⟩ := permitted
  obtain ⟨later, there, keeps⟩ := grows.permits message.sequence permit found
  exact ⟨later, there, keeps.runId.trans run, keeps.executionId.trans execution,
    keeps.generation.trans age, keeps.kernelStoreId.trans store⟩

theorem admitted {storeId executionId runId : Identifier} {generation : ℕ}
    (admitted : state.Admitted storeId executionId runId generation) :
    next.Admitted storeId executionId runId generation :=
  (grows.kernels storeId).shows admitted

theorem covered (queued : state.Queued message) (covered : state.Covered message) :
    next.Covered message := by
  intro dispatch managed
  rcases grows.managed message.runId managed with before | unheard
  · obtain ⟨permit, found⟩ := isSome_iff_exists.mp (covered dispatch before)
    obtain ⟨later, there, _⟩ := grows.permits message.sequence permit found
    exact isSome_iff_exists.mpr ⟨later, there⟩
  · obtain ⟨stored, found, same⟩ := queued
    exact absurd same.runId (unheard stored (mem_of_find? found))

end Grows

/-! ### What a process relies on -/

def Established (state : Dispatching) (storeId : Identifier) (message : Message) :
    DeliveryStage → Prop
  | .selected true => True
  | .selected false => state.Covered message
  | .probing => state.Permitted storeId message
  | .submitting => state.Permitted storeId message
  | .receipt => state.Permitted storeId message
  | .confirmed => state.Permitted storeId message ∧
      state.Admitted storeId message.executionId message.runId message.generation
  | .plainSubmitting => message.kind = .dispatch ∧ state.Covered message
  | .answered => state.Covered message
  | .doubtful => True
  | .failed => True

/-- The permit that a reconciliation has read is still for the same execution. -/
def Reads (state : Dispatching) (permit : DispatchPermit) : Prop :=
  ∃ stored, state.permits.find? permit.sequence = some stored ∧ permit.Keeps stored

/-- What a process has read and established still holds. -/
def Vouched (state : Dispatching) : Flush → Prop
  | .scanned _ _ _ pending => ∀ message ∈ pending, state.Queued message
  | .working storeId message stage =>
    state.Queued message ∧ state.Established storeId message stage
  | .reconciling _ permit => state.Reads permit
  | .verified storeId permit => state.Reads permit ∧ storeId = permit.kernelStoreId ∧
      state.Admitted storeId permit.executionId permit.runId permit.generation

variable {stage : DeliveryStage} {kernel : Admissions} {storeId : Identifier} {message : Message}

theorem Grows.established (grows : state.Grows next) (queued : state.Queued message)
    (established : state.Established storeId message stage) :
    next.Established storeId message stage := by
  cases stage with
  | selected managed =>
    cases managed with
    | true => trivial
    | false => exact grows.covered queued established
  | probing => exact grows.permitted established
  | submitting => exact grows.permitted established
  | receipt => exact grows.permitted established
  | confirmed => exact ⟨grows.permitted established.1, grows.admitted established.2⟩
  | plainSubmitting => exact ⟨established.1, grows.covered queued established.2⟩
  | answered => exact grows.covered queued established
  | doubtful => trivial
  | failed => trivial

theorem Grows.reads (grows : state.Grows next) {permit : DispatchPermit} (reads : state.Reads permit) :
    next.Reads permit := by
  obtain ⟨stored, found, keeps⟩ := reads
  obtain ⟨later, there, still⟩ := grows.permits permit.sequence stored found
  exact ⟨later, there, keeps.trans still⟩

theorem Grows.vouched (grows : state.Grows next) {flush : Flush} (vouched : state.Vouched flush) :
    next.Vouched flush := by
  cases flush with
  | scanned storeId blocked limit pending =>
    exact fun message member => grows.queues (vouched message member)
  | working storeId message stage =>
    exact ⟨grows.queues vouched.1, grows.established vouched.1 vouched.2⟩
  | reconciling storeId permit => exact grows.reads vouched
  | verified storeId permit =>
    exact ⟨grows.reads vouched.1, vouched.2.1, grows.admitted vouched.2.2⟩

/-! ### The invariant of the stores -/

def Settled (state : Dispatching) (runId : Identifier) : Prop :=
  ∀ permit ∈ state.permits, permit.runId = runId → permit.state = .accepted

/-- Every dispatch of the Run has a permit. -/
def Exhausted (state : Dispatching) (runId : Identifier) : Prop :=
  ∀ message ∈ state.outbox, message.runId = runId → message.kind = .dispatch →
    (state.permits.find? message.sequence).isSome

/-- The gate has been closed for the operation and is not paused yet. -/
def Closing (state : Dispatching) (operation : PauseRow) : Prop :=
  ∃ gate, state.controls.find? operation.runId = some gate ∧
    gate.control = ⟨.pausing, operation.sourceEpoch + 1, operation.generation⟩

structure Kept (state : Dispatching) : Prop where
  accepted : ∀ permit ∈ state.permits, permit.state = .accepted →
    state.Admitted permit.kernelStoreId permit.executionId permit.runId permit.generation
  issued : ∀ permit ∈ state.permits, ∃ message ∈ state.outbox, message.runId = permit.runId
  served : ∀ message ∈ state.outbox, message.delivered = true → state.Covered message
  closed : ∀ runId gate, state.controls.find? runId = some gate → gate.control.state = .paused →
    state.Settled runId
  barred : ∀ operation ∈ state.pauses, operation.prepared = true → state.Closing operation →
    state.Settled operation.runId ∧ state.Exhausted operation.runId
  dated : ∀ operation ∈ state.pauses, ∃ gate, state.controls.find? operation.runId = some gate ∧
    operation.sourceEpoch + 1 ≤ gate.control.epoch
  reserved : ∀ message ∈ state.outbox, message.kind = .dispatch → state.Managed message.runId →
    message.executionId.managed = true

theorem Grows.stores (grows : state.Grows next) (flushes : List Flush) (submitted : List ℕ) :
    state.Grows { next with flushes, submitted } :=
  ⟨grows.kernels, grows.permits, grows.queued, grows.managed⟩

theorem Kept.stores (kept : state.Kept) (flushes : List Flush) (submitted : List ℕ) :
    Kept { state with flushes, submitted } :=
  ⟨kept.accepted, kept.issued, kept.served, kept.closed, kept.barred, kept.dated, kept.reserved⟩

/-! ### Permits -/

section Permits

variable {sequence : ℕ} {settled : PermitState}

theorem find?_settlePermit (name : ℕ) :
    (state.settlePermit sequence settled).permits.find? name =
      (state.permits.find? name).map fun permit =>
        if permit.sequence = sequence ∧ permit.state ≠ .accepted then { permit with state := settled }
        else permit := by
  exact find?_update state.permits _ (fun permit => by split <;> rfl) name

theorem mem_settlePermit {permit : DispatchPermit} :
    permit ∈ (state.settlePermit sequence settled).permits ↔ ∃ stored ∈ state.permits,
      (if stored.sequence = sequence ∧ stored.state ≠ .accepted then { stored with state := settled }
        else stored) = permit := by
  exact @mem_update _ _ _ state.permits permit _ (fun permit => by split <;> rfl)

theorem settlePermit_grows : state.Grows (state.settlePermit sequence settled) := by
  refine ⟨fun _ => .refl _, fun name permit found => ?_,
    fun _ message found => ⟨message, found, .refl message⟩, fun _ => Or.inl⟩
  refine ⟨_, by rw [find?_settlePermit, found, map_some], ?_⟩
  split
  · rename_i open_
    exact ⟨rfl, rfl, rfl, rfl, fun accepted => absurd accepted open_.2⟩
  · exact .refl permit

theorem settled_settlePermit {runId : Identifier} (all : state.Settled runId) :
    (state.settlePermit sequence settled).Settled runId := by
  intro permit member named
  obtain ⟨stored, there, rfl⟩ := mem_settlePermit.mp member
  split at named
  · rename_i open_
    exact absurd (all stored there named) open_.2
  · rename_i kept
    rw [if_neg kept]
    exact all stored there named

theorem isSome_settlePermit (name : ℕ) :
    ((state.settlePermit sequence settled).permits.find? name).isSome =
      (state.permits.find? name).isSome := by
  rw [find?_settlePermit, isSome_map]

theorem Kept.settlePermit (kept : state.Kept)
    (shown : settled = .accepted → ∀ permit, state.permits.find? sequence = some permit →
      state.Admitted permit.kernelStoreId permit.executionId permit.runId permit.generation) :
    (state.settlePermit sequence settled).Kept where
  accepted permit member accepted := by
    obtain ⟨stored, there, rfl⟩ := mem_settlePermit.mp member
    split at accepted
    · rename_i open_
      rw [if_pos open_]
      exact shown accepted stored (find?_eq_some_iff.mpr ⟨there, open_.1⟩)
    · rename_i same
      rw [if_neg same]
      exact kept.accepted stored there accepted
  issued permit member := by
    obtain ⟨stored, there, rfl⟩ := mem_settlePermit.mp member
    obtain ⟨message, queued, named⟩ := kept.issued stored there
    refine ⟨message, queued, named.trans ?_⟩
    split <;> rfl
  served message member delivered dispatch managed := by
    rw [isSome_settlePermit]
    exact kept.served message member delivered dispatch managed
  closed runId gate found paused := settled_settlePermit (kept.closed runId gate found paused)
  barred operation member prepared closing := by
    obtain ⟨all, none⟩ := kept.barred operation member prepared closing
    refine ⟨settled_settlePermit all, fun message queued named dispatch => ?_⟩
    rw [isSome_settlePermit]
    exact none message queued named dispatch
  dated := kept.dated
  reserved := kept.reserved

theorem acceptDispatchPermit_kept {after : Dispatching} (kept : state.Kept)
    (passed : state.acceptDispatchPermit storeId sequence = .ok after)
    (shown : ∀ permit, state.permits.find? sequence = some permit → permit.kernelStoreId = storeId →
      state.Admitted storeId permit.executionId permit.runId permit.generation) :
    state.Grows after ∧ after.Kept ∧ after.submitted = state.submitted ∧
      ∀ name, (after.permits.find? name).isSome = (state.permits.find? name).isSome := by
  unfold acceptDispatchPermit at passed
  simp only [passes_iff] at passed
  obtain ⟨permit, found, store, answered⟩ := passed
  cases answered
  refine ⟨settlePermit_grows, kept.settlePermit fun _ other there => ?_, rfl, isSome_settlePermit⟩
  cases found.symm.trans there
  rw [store]
  exact shown permit found store

end Permits

variable {after : Dispatching}

theorem acquireDispatchPermit_new
    (passed : state.acquireDispatchPermit storeId message = .ok (.new, after)) :
    ∃ gate transition, state.controls.find? message.runId = some gate ∧
      state.transitionAt message.runId gate.control.epoch = some transition ∧
      mayDispatch gate.control transition.drainExecutionIds message.executionId = true ∧
      state.permits.find? message.sequence = none ∧
      after = { state with
        permits := state.permits.put
          { sequence := message.sequence, runId := message.runId
            executionId := message.executionId, generation := message.generation
            controlEpoch := gate.control.epoch, kernelStoreId := storeId, state := .inFlight } } := by
  unfold acquireDispatchPermit at passed
  simp only [bind_eq_ok, present_eq_ok] at passed
  obtain ⟨gate, managed, transition, current, passed⟩ := passed
  split at passed
  · cases passed
  · split at passed
    · cases passed
    · rename_i allowed
      split at passed
      · simp only [passes_iff] at passed
        obtain ⟨_, _, answered⟩ := passed
        split at answered <;> cases answered
      · rename_i fresh
        cases passed
        exact ⟨gate, transition, managed, current, of_not_eq_false allowed, fresh, rfl⟩

theorem acquireDispatchPermit_accepted
    (passed : state.acquireDispatchPermit storeId message = .ok (.accepted, after)) :
    state.Permitted storeId message := by
  unfold acquireDispatchPermit at passed
  simp only [bind_eq_ok, present_eq_ok] at passed
  obtain ⟨gate, managed, transition, current, passed⟩ := passed
  split at passed
  · cases passed
  · split at passed
    · cases passed
    · split at passed
      · rename_i previous found
        simp only [passes_iff] at passed
        obtain ⟨same, store, _⟩ := passed
        exact ⟨previous, found, same.1, same.2.1, same.2.2, store⟩
      · cases passed

theorem mayDispatch_iff {control : ManagedControl} {drain : List Identifier}
    {executionId : Identifier} : mayDispatch control drain executionId = true ↔
      control.state = .active ∨ (control.state = .pausing ∧ executionId ∈ drain) :=
  decide_eq_true_iff

theorem acquireDispatchPermit_kept (kept : state.Kept) (queued : state.Queued message)
    (dispatch : message.kind = .dispatch)
    (passed : state.acquireDispatchPermit storeId message = .ok (.new, after)) :
    state.Grows after ∧ after.Kept ∧ after.Permitted storeId message := by
  obtain ⟨gate, transition, managed, _, allowed, fresh, rfl⟩ := acquireDispatchPermit_new passed
  obtain ⟨stored, found, same⟩ := queued
  have running : gate.control.state ≠ .paused := by
    intro paused
    rcases mayDispatch_iff.mp allowed with active | ⟨pausing, _⟩
    · cases paused.symm.trans active
    · cases paused.symm.trans pausing
  have covered : ∀ {name}, (state.permits.find? name).isSome →
      ∀ permit : DispatchPermit, ((state.permits.put permit).find? name).isSome := by
    intro name there permit
    rw [find?_put]
    split
    · rfl
    · exact there
  have others : ∀ {runId}, runId ≠ message.runId → state.Settled runId → ∀ permit : DispatchPermit,
      permit.runId = message.runId → ∀ other ∈ state.permits.put permit, other.runId = runId →
        other.state = .accepted := by
    intro runId away all permit here other member named
    rcases mem_put.mp member with rfl | ⟨there, _⟩
    · exact absurd (named.symm.trans here) away
    · exact all other there named
  refine ⟨⟨fun _ => .refl _, fun name permit there => ⟨permit, ?_, .refl permit⟩,
    fun _ other there => ⟨other, there, .refl other⟩, fun _ => Or.inl⟩, ?_, ?_⟩
  · show (state.permits.put _).find? name = some permit
    rw [find?_put_other, there]
    rintro rfl
    cases fresh.symm.trans there
  · refine ⟨fun permit member accepted => ?_, fun permit member => ?_,
      fun other member delivered kind run => ?_, fun runId other there paused => ?_,
      fun operation member prepared closing => ?_, kept.dated, kept.reserved⟩
    · rcases mem_put.mp member with rfl | ⟨there, _⟩
      · cases accepted
      · exact kept.accepted permit there accepted
    · rcases mem_put.mp member with rfl | ⟨there, _⟩
      · exact ⟨stored, mem_of_find? found, same.runId⟩
      · exact kept.issued permit there
    · exact covered (kept.served other member delivered kind run) _
    · refine others ?_ (kept.closed runId other there paused) _ rfl
      rintro rfl
      have there' : state.controls.find? message.runId = some other := there
      rw [managed] at there'
      cases there'
      exact running paused
    · obtain ⟨all, none⟩ := kept.barred operation member prepared closing
      refine ⟨others ?_ all _ rfl, fun other queued named kind =>
        covered (none other queued named kind) _⟩
      intro here
      have covers := none stored (mem_of_find? found) (same.runId.trans here.symm)
        (same.kind.trans dispatch)
      rw [key_of_find? found, fresh] at covers
      cases covers
  · exact ⟨_, find?_put_same state.permits _, rfl, rfl, rfl, rfl⟩

/-! ### Messages and Kernels -/

theorem setKernel_grows (keeps : (state.kernels storeId).Keeps kernel) :
    state.Grows (state.setKernel storeId kernel) := by
  refine ⟨fun other => ?_, fun _ permit found => ⟨permit, found, .refl permit⟩,
    fun _ message found => ⟨message, found, .refl message⟩, fun _ => Or.inl⟩
  show (state.kernels other).Keeps (Function.update state.kernels storeId kernel other)
  by_cases same : other = storeId
  · rw [same, update_self]
    exact keeps
  · rw [update_of_ne same]
    exact .refl _

theorem Kept.setKernel (kept : state.Kept)
    (keeps : (state.kernels storeId).Keeps kernel) : (state.setKernel storeId kernel).Kept where
  accepted permit member accepted :=
    (setKernel_grows keeps).admitted (kept.accepted permit member accepted)
  issued := kept.issued
  served := kept.served
  closed := kept.closed
  barred := kept.barred
  dated := kept.dated
  reserved := kept.reserved

section Messages

variable {sequence : ℕ} {delivered : Bool}

theorem countAttempt_same (message : Message) :
    message.Same (if message.sequence = sequence ∧ message.delivered = false then
      { message with attempts := message.attempts + 1, delivered } else message) := by
  split
  · exact ⟨rfl, rfl, rfl, rfl⟩
  · exact .refl message

theorem find?_countAttempt (name : ℕ) :
    (state.countAttempt sequence delivered).outbox.find? name =
      (state.outbox.find? name).map fun message =>
        if message.sequence = sequence ∧ message.delivered = false then
          { message with attempts := message.attempts + 1, delivered } else message := by
  exact find?_update state.outbox _ (fun message => by split <;> rfl) name

theorem mem_countAttempt :
    message ∈ (state.countAttempt sequence delivered).outbox ↔ ∃ stored ∈ state.outbox,
      (if stored.sequence = sequence ∧ stored.delivered = false then
        { stored with attempts := stored.attempts + 1, delivered } else stored) = message := by
  exact @mem_update _ _ _ state.outbox message _ (fun message => by split <;> rfl)

theorem countAttempt_grows : state.Grows (state.countAttempt sequence delivered) := by
  refine ⟨fun _ => .refl _, fun _ permit found => ⟨permit, found, .refl permit⟩,
    fun name message found => ?_, fun _ => Or.inl⟩
  refine ⟨_, ?_, @countAttempt_same sequence delivered message⟩
  rw [find?_countAttempt, found, map_some]

theorem Kept.countAttempt (kept : state.Kept)
    (covered : delivered = true → ∃ message, message.sequence = sequence ∧ state.Queued message ∧
      state.Covered message) : (state.countAttempt sequence delivered).Kept where
  accepted := kept.accepted
  issued permit member := by
    obtain ⟨message, queued, named⟩ := kept.issued permit member
    exact ⟨_, mem_countAttempt.mpr ⟨message, queued, rfl⟩, (@countAttempt_same sequence delivered message).runId.trans named⟩
  served message member done := by
    obtain ⟨stored, there, rfl⟩ := mem_countAttempt.mp member
    split at done
    · rename_i counted
      rw [if_pos counted]
      obtain ⟨read, here, ⟨other, found, same⟩, covers⟩ := covered done
      rw [here, ← counted.1, find?_key there] at found
      cases found
      intro dispatch managed
      have sure := covers (same.kind.symm.trans dispatch)
        (show state.Managed read.runId from same.runId ▸ managed)
      rw [here, ← counted.1] at sure
      exact sure
    · rename_i kept_
      rw [if_neg kept_]
      exact kept.served stored there done
  closed := kept.closed
  barred operation member prepared closing := by
    obtain ⟨all, none⟩ := kept.barred operation member prepared closing
    refine ⟨all, fun message queued named dispatch => ?_⟩
    obtain ⟨stored, there, rfl⟩ := mem_countAttempt.mp queued
    have same := @countAttempt_same sequence delivered stored
    have here := none stored there (same.runId.symm.trans named) (same.kind.symm.trans dispatch)
    split <;> exact here
  dated := kept.dated
  reserved message member dispatch managed := by
    obtain ⟨stored, there, rfl⟩ := mem_countAttempt.mp member
    have same := @countAttempt_same sequence delivered stored
    rw [same.executionId]
    rw [same.kind] at dispatch
    rw [same.runId] at managed
    exact kept.reserved stored there dispatch managed

end Messages

/-! ### The gate -/

section Gate

variable {runId : Identifier} {control : ManagedControl} {drain : List Identifier}
  {mode : Option PauseMode}

theorem find?_setControl (name : Identifier) :
    (state.setControl runId control drain mode).controls.find? name =
      if name = runId then some ⟨runId, control⟩ else state.controls.find? name :=
  find?_put state.controls ⟨runId, control⟩ name

/-- The Run is managed already, or nothing of it has been queued. -/
def Known (state : Dispatching) (runId : Identifier) : Prop :=
  state.Managed runId ∨ ∀ message ∈ state.outbox, message.runId ≠ runId

theorem managed_setControl (known : state.Known runId) {name : Identifier}
    (managed : (state.setControl runId control drain mode).Managed name) :
    state.Managed name ∨ ∀ message ∈ state.outbox, message.runId ≠ name := by
  obtain ⟨gate, found⟩ := managed
  rw [find?_setControl] at found
  split at found
  · rename_i here
    rw [here]
    exact known
  · exact .inl ⟨gate, found⟩

theorem setControl_grows (known : state.Known runId) :
    state.Grows (state.setControl runId control drain mode) :=
  ⟨fun _ => .refl _, fun _ permit found => ⟨permit, found, .refl permit⟩,
    fun _ message found => ⟨message, found, .refl message⟩, fun _ => managed_setControl known⟩

theorem Kept.setControl (kept : state.Kept) (known : state.Known runId)
    (later : ∀ gate, state.controls.find? runId = some gate →
      gate.control.epoch ≤ control.epoch)
    (closed : control.state = .paused → state.Settled runId)
    (barred : ∀ operation ∈ state.pauses, operation.runId = runId → operation.prepared = true →
      control = ⟨.pausing, operation.sourceEpoch + 1, operation.generation⟩ →
      state.Settled runId ∧ state.Exhausted runId) :
    (state.setControl runId control drain mode).Kept where
  accepted := kept.accepted
  issued := kept.issued
  served message member delivered dispatch managed := by
    rcases managed_setControl known managed with before | unheard
    · exact kept.served message member delivered dispatch before
    · exact absurd rfl (unheard message member)
  closed name gate found paused := by
    rw [find?_setControl] at found
    split at found
    · rename_i here
      cases found
      rw [here]
      exact closed paused
    · exact kept.closed name gate found paused
  barred operation member prepared closing := by
    obtain ⟨gate, found, same⟩ := closing
    rw [find?_setControl] at found
    split at found
    · rename_i here
      cases found
      rw [here]
      exact barred operation member here prepared same
    · exact kept.barred operation member prepared ⟨gate, found, same⟩
  dated operation member := by
    obtain ⟨gate, found, before⟩ := kept.dated operation member
    by_cases here : operation.runId = runId
    · refine ⟨⟨runId, control⟩, (find?_setControl operation.runId).trans (if_pos here), ?_⟩
      exact before.trans (later gate (here ▸ found))
    · exact ⟨gate, (find?_setControl operation.runId).trans ((if_neg here).trans found), before⟩
  reserved message member dispatch managed := by
    rcases managed_setControl known managed with before | unheard
    · exact kept.reserved message member dispatch before
    · exact absurd rfl (unheard message member)

theorem Kept.closeGate (kept : state.Kept) {gate : GateRow} {generation : ℕ}
    (found : state.controls.find? runId = some gate) :
    (state.setControl runId ⟨.pausing, gate.control.epoch + 1, generation⟩ drain mode).Kept := by
  refine kept.setControl (.inl ⟨gate, found⟩) (fun other there => ?_) nofun
    fun operation member here _ same => ?_
  · cases found.symm.trans there
    exact Nat.le_succ _
  · obtain ⟨other, there, dated⟩ := kept.dated operation member
    rw [here, found] at there
    cases there
    have epochs := congrArg ManagedControl.epoch same
    simp only at epochs
    omega

end Gate

section Enqueue

variable {runId : Identifier} {messages : List Message}

theorem find?_enqueue {sequence : ℕ} (fresh : state.Fresh runId messages)
    (found : state.outbox.find? sequence = some message) :
    (state.enqueue messages).outbox.find? sequence = some message := by
  refine (find?_foldl_put_other fun other member => ?_).trans found
  rintro rfl
  rw [(fresh.1 other member).2.2] at found
  cases found

theorem enqueue_grows (fresh : state.Fresh runId messages) : state.Grows (state.enqueue messages) :=
  ⟨fun _ => .refl _, fun _ permit found => ⟨permit, found, .refl permit⟩,
    fun _ message found => ⟨message, find?_enqueue fresh found, .refl message⟩, fun _ => Or.inl⟩

theorem Kept.enqueue (kept : state.Kept) (fresh : state.Fresh runId messages)
    (open_ : ∀ message ∈ messages, message.kind = .dispatch →
      (∀ operation ∈ state.pauses, operation.runId = runId → ¬ state.Closing operation) ∧
        (state.Managed runId → message.executionId.managed = true)) :
    (state.enqueue messages).Kept where
  accepted := kept.accepted
  issued permit member := by
    obtain ⟨message, queued, named⟩ := kept.issued permit member
    exact ⟨message, mem_of_find? (find?_enqueue fresh (find?_key queued)), named⟩
  served message member delivered := by
    rcases mem_foldl_put member with new | old
    · rw [(fresh.1 message new).2.1] at delivered
      cases delivered
    · exact kept.served message old delivered
  closed := kept.closed
  barred operation member prepared closing := by
    obtain ⟨all, none⟩ := kept.barred operation member prepared closing
    refine ⟨all, fun message queued named dispatch => ?_⟩
    rcases mem_foldl_put queued with new | old
    · have here : operation.runId = runId := named.symm.trans (fresh.1 message new).1
      exact absurd closing ((open_ message new dispatch).1 operation member here)
    · exact none message old named dispatch
  dated := kept.dated
  reserved message member dispatch managed := by
    rcases mem_foldl_put member with new | old
    · exact (open_ message new dispatch).2 ((fresh.1 message new).1 ▸ managed)
    · exact kept.reserved message old dispatch managed

end Enqueue

/-! ### Moves of a process -/

/-- The process holds a new permit for the message and has not submitted it. -/
def holds (sequence : ℕ) : Flush → Bool
  | .working _ message .probing => decide (message.sequence = sequence)
  | .working _ message .submitting => decide (message.sequence = sequence)
  | _ => false

def issued (state : Dispatching) (sequence : ℕ) : ℕ :=
  if (state.permits.find? sequence).isSome then 1 else 0

/-- What a move of a process does to the stores, and what it leaves behind. -/
structure Moved (state : Dispatching) (flush : Flush) (next : Dispatching) (left : List Flush) :
    Prop where
  grows : state.Grows next
  kept : next.Kept
  vouched : ∀ process ∈ left, next.Vouched process
  single : ∀ sequence, left.countP (holds sequence) + next.submitted.count sequence +
      state.issued sequence ≤
    (if holds sequence flush then 1 else 0) + state.submitted.count sequence + next.issued sequence

variable {flush : Flush} {left : List Flush}

theorem Moved.of_idle (grows : state.Grows next) (kept : next.Kept)
    (vouched : ∀ process ∈ left, next.Vouched process)
    (idle : ∀ sequence, left.countP (holds sequence) ≤ if holds sequence flush then 1 else 0)
    (submitted : next.submitted = state.submitted)
    (issued : ∀ sequence, (next.permits.find? sequence).isSome =
      (state.permits.find? sequence).isSome) : state.Moved flush next left := by
  refine ⟨grows, kept, vouched, fun sequence => ?_⟩
  have same : next.issued sequence = state.issued sequence := by
    unfold Dispatching.issued
    rw [issued]
  rw [same, submitted]
  have := idle sequence
  omega

theorem Moved.of_unchanged (kept : state.Kept) (vouched : ∀ process ∈ left, state.Vouched process)
    (idle : ∀ sequence, left.countP (holds sequence) ≤ if holds sequence flush then 1 else 0) :
    state.Moved flush state left :=
  .of_idle (.refl state) kept vouched idle rfl fun _ => rfl

theorem mem_pendingMessages :
    message ∈ state.pendingMessages ↔ message ∈ state.outbox ∧ message.delivered = false := by
  unfold pendingMessages
  rw [mem_insertionSort, mem_filter, not_eq_true', Table.mem_rows]

variable {blocked : List Identifier}

variable {pending : List Message}

theorem mem_selectMessages {limit : ℕ}
    (member : message ∈ state.selectMessages blocked limit pending) : message ∈ pending := by
  unfold selectMessages at member
  have selected := mem_of_mem_filter (mem_of_mem_take member)
  exact mem_of_mem_filter (mem_of_mem_filter selected)

/-- A message taken up as one of a Run that is not managed is covered if the Run is managed after
all. -/
theorem covered_of_unlisted (kept : state.Kept) (queued : state.Queued message)
    (unlisted : (state.managedControlOf message.runId).isSome = false) : state.Covered message := by
  intro dispatch managed
  obtain ⟨gate, found⟩ := managed
  obtain ⟨stored, there, same⟩ := queued
  unfold managedControlOf at unlisted
  split at unlisted
  · rw [found, map_some] at unlisted
    cases unlisted
  · rename_i none
    have served : stored.delivered = true := by
      by_contra pending
      exact none ⟨stored, mem_of_find? there, same.runId, eq_false_of_not_eq_true pending⟩
    have covers := kept.served stored (mem_of_find? there) served (same.kind.trans dispatch)
      ⟨gate, same.runId.symm ▸ found⟩
    rw [key_of_find? there] at covers
    exact covers

theorem Permitted.covered (permitted : state.Permitted storeId message) :
    state.Covered message := by
  obtain ⟨permit, found, _⟩ := permitted
  exact fun _ _ => isSome_iff_exists.mpr ⟨permit, found⟩

theorem move_select (kept : state.Kept) {limit : ℕ}
    (vouched : state.Vouched (.scanned storeId blocked limit pending)) :
    state.Moved (.scanned storeId blocked limit pending) state
      ((state.selectMessages blocked limit pending).map fun message =>
        .working storeId message (.selected (state.managedControlOf message.runId).isSome)) := by
  refine .of_unchanged kept (fun process member => ?_) fun sequence => ?_
  · obtain ⟨message, selected, rfl⟩ := mem_map.mp member
    have queued := vouched message (mem_selectMessages selected)
    refine ⟨queued, ?_⟩
    cases listed : (state.managedControlOf message.runId).isSome with
    | true => trivial
    | false => exact covered_of_unlisted kept queued listed
  · rw [countP_eq_zero.mpr]
    · exact Nat.zero_le _
    · intro process member
      obtain ⟨message, _, rfl⟩ := mem_map.mp member
      exact false_ne_true

theorem move_acquire (kept : state.Kept)
    (vouched : state.Vouched (.working storeId message (.selected true)))
    (dispatch : message.kind = .dispatch)
    (passed : state.acquireDispatchPermit storeId message = .ok (.new, next)) :
    state.Moved (.working storeId message (.selected true)) next
      [.working storeId message .probing] := by
  obtain ⟨grows, after, permitted⟩ := acquireDispatchPermit_kept kept vouched.1 dispatch passed
  obtain ⟨gate, transition, _, _, _, fresh, rfl⟩ := acquireDispatchPermit_new passed
  refine ⟨grows, after, fun process member => ?_, fun sequence => ?_⟩
  · rw [mem_singleton] at member
    subst member
    exact ⟨grows.queues vouched.1, permitted⟩
  · unfold issued
    show List.countP (holds sequence) [Flush.working storeId message .probing] +
      state.submitted.count sequence + _ ≤
        0 + _ + if ((state.permits.put _).find? sequence).isSome then 1 else 0
    rw [countP_singleton, find?_put]
    by_cases here : sequence = message.sequence
    · subst here
      rw [fresh]
      simp [holds]
      omega
    · have other : holds sequence (.working storeId message .probing) = false :=
        decide_eq_false (Ne.symm here)
      rw [if_neg here, other]
      simp only [false_eq_true, if_false]
      omega

theorem move_submit (kept : state.Kept) {accepts : Bool}
    (vouched : state.Vouched (.working storeId message .submitting))
    (idle : ∀ sequence, holds sequence (.working storeId message stage) = false)
    (established : ∀ after : Dispatching, state.Grows after → (after.kernels storeId) =
      ((state.kernels storeId).submitManaged message accepts).2 →
        after.Established storeId message stage) :
    state.Moved (.working storeId message .submitting)
      { state.setKernel storeId ((state.kernels storeId).submitManaged message accepts).2 with
        submitted := message.sequence :: state.submitted }
      [.working storeId message stage] := by
  have keeps := Admissions.submitManaged_keeps (state.kernels storeId) message accepts
  have grows : state.Grows
      { state.setKernel storeId ((state.kernels storeId).submitManaged message accepts).2 with
        submitted := message.sequence :: state.submitted } :=
    (setKernel_grows keeps).stores _ _
  refine ⟨grows, (kept.setKernel keeps).stores _ _, fun process member => ?_, fun sequence => ?_⟩
  · rw [mem_singleton] at member
    subst member
    refine ⟨grows.queues vouched.1, established _ grows ?_⟩
    exact update_self storeId _ state.kernels
  · rw [countP_singleton, idle sequence]
    show 0 + (message.sequence :: state.submitted).count sequence + state.issued sequence ≤
      (if decide (message.sequence = sequence) = true then 1 else 0) +
        state.submitted.count sequence + state.issued sequence
    rw [count_cons]
    simp only [beq_iff_eq, decide_eq_true_eq]
    omega

theorem Move.moved (kept : state.Kept) (vouched : state.Vouched flush)
    (move : flush.Move state next left) : state.Moved flush next left := by
  have quiet : ∀ {storeId : Identifier} {message : Message} {stage : DeliveryStage},
      (∀ sequence, holds sequence (.working storeId message stage) = false) →
        ∀ sequence, [Flush.working storeId message stage].countP (holds sequence) ≤
          if holds sequence flush then 1 else 0 := by
    intro storeId message stage idle sequence
    rw [countP_singleton, idle sequence]
    exact Nat.zero_le _
  have single : ∀ {after : Dispatching} {process : Flush}, after.Vouched process →
      ∀ other ∈ [process], after.Vouched other := by
    intro after process held other member
    rw [mem_singleton] at member
    exact member ▸ held
  cases move with
  | select storeId blocked limit pending => exact move_select kept vouched
  | skip => exact .of_unchanged kept nofun fun _ => Nat.zero_le _
  | replay storeId message dispatch passed =>
    exact .of_unchanged kept (single ⟨vouched.1, acquireDispatchPermit_accepted passed⟩)
      (quiet fun _ => rfl)
  | acquire storeId message after dispatch passed => exact move_acquire kept vouched dispatch passed
  | missing storeId message unknown =>
    refine .of_unchanged kept (single ⟨vouched.1, vouched.2⟩) fun sequence => ?_
    rw [countP_singleton]
    exact le_rfl
  | found storeId message known =>
    exact .of_unchanged kept (single ⟨vouched.1, vouched.2⟩) (quiet fun _ => rfl)
  | receipt storeId message shown =>
    exact .of_unchanged kept (single ⟨vouched.1, vouched.2, shown⟩) (quiet fun _ => rfl)
  | submit storeId message accepts answered =>
    refine move_submit kept vouched (fun _ => rfl) fun after grows same => ⟨?_, ?_⟩
    · exact grows.permitted vouched.2
    · unfold Admitted
      rw [same]
      exact Admissions.submitManaged_shows answered
  | lose storeId message accepts =>
    exact move_submit kept vouched (fun _ => rfl) fun _ _ _ => trivial
  | accept storeId message after passed =>
    obtain ⟨queued, permitted, admitted⟩ := vouched
    obtain ⟨permit, found, run, execution, age, store⟩ := permitted
    obtain ⟨grows, kept', same, issued⟩ := acceptDispatchPermit_kept kept passed
      fun other there _ => by
        cases found.symm.trans there
        rw [run, execution, age]
        exact admitted
    refine .of_idle grows kept' (single ⟨grows.queues queued, ?_⟩) (quiet fun _ => rfl) same issued
    exact grows.covered queued (Permitted.covered ⟨permit, found, run, execution, age, store⟩)
  | doubt storeId message stage started =>
    exact .of_unchanged kept (single ⟨vouched.1, trivial⟩) (quiet fun _ => rfl)
  | record storeId message =>
    exact .of_idle settlePermit_grows (kept.settlePermit nofun)
      (single ⟨settlePermit_grows.queues vouched.1, trivial⟩) (quiet fun _ => rfl) rfl
      isSome_settlePermit
  | plainMissing storeId message dispatch unknown =>
    exact .of_unchanged kept (single ⟨vouched.1, dispatch, vouched.2⟩) (quiet fun _ => rfl)
  | plainFound storeId message dispatch known =>
    exact .of_unchanged kept (single ⟨vouched.1, vouched.2⟩) (quiet fun _ => rfl)
  | plainSubmit storeId message accepts answered =>
    have keeps := Admissions.submit_keeps (state.kernels storeId) message accepts
    exact .of_idle (setKernel_grows keeps) (kept.setKernel keeps)
      (single ⟨(setKernel_grows keeps).queues vouched.1,
        (setKernel_grows keeps).covered vouched.1 vouched.2.2⟩) (quiet fun _ => rfl) rfl
          fun _ => rfl
  | plainLose storeId message accepts =>
    have keeps := Admissions.submit_keeps (state.kernels storeId) message accepts
    exact .of_idle (setKernel_grows keeps) (kept.setKernel keeps)
      (single ⟨(setKernel_grows keeps).queues vouched.1, trivial⟩) (quiet fun _ => rfl) rfl
        fun _ => rfl
  | cancel storeId message managed kernel withdrawn keeps =>
    refine .of_idle (setKernel_grows keeps) (kept.setKernel keeps)
      (single ⟨(setKernel_grows keeps).queues vouched.1, fun dispatch => ?_⟩) (quiet fun _ => rfl) rfl
        fun _ => rfl
    cases withdrawn.symm.trans dispatch
  | fail storeId message stage started =>
    exact .of_unchanged kept (single ⟨vouched.1, trivial⟩) (quiet fun _ => rfl)
  | reject storeId message =>
    exact .of_idle countAttempt_grows (kept.countAttempt nofun) nofun (fun _ => Nat.zero_le _) rfl
      fun _ => rfl
  | complete storeId message =>
    exact .of_idle countAttempt_grows
      (kept.countAttempt fun _ => ⟨message, rfl, vouched.1, vouched.2⟩) nofun
        (fun _ => Nat.zero_le _) rfl fun _ => rfl
  | verify storeId permit same shown =>
    refine .of_unchanged kept
      (single ⟨vouched, same, Admissions.accepted_shows shown⟩) fun sequence => ?_
    exact Nat.zero_le _
  | overlook storeId permit =>
    exact .of_idle settlePermit_grows (kept.settlePermit nofun) nofun (fun _ => Nat.zero_le _) rfl
      isSome_settlePermit
  | reconcile storeId permit after passed =>
    obtain ⟨⟨stored, found, keeps⟩, here, admitted⟩ := vouched
    obtain ⟨grows, kept', same, issued⟩ := acceptDispatchPermit_kept kept passed
      fun other there _ => by
        cases found.symm.trans there
        rw [keeps.runId, keeps.executionId, keeps.generation]
        exact admitted
    exact .of_idle grows kept' nofun (fun _ => Nat.zero_le _) same issued
  | crash => exact .of_unchanged kept nofun fun _ => Nat.zero_le _

end Dispatching

end DispatcherSdk.Orchestrator
