/-
This file says what the transactions of either store may do to the control of a Run, and
proves it of each of them.

The Kernel's epoch and generation never fall, and its receipts, installations and resumes are
never taken back. The orchestrator's store is moved by one transition at a time: it is for a
later epoch, its cause is in the tables, and unless it begins a pause, the Kernel has committed
the very control before.
-/

import DispatcherSdk.Orchestrator.AdvancementRuns

namespace DispatcherSdk.Orchestrator

open Library Library.Checked Table
open ExecutionKernel (ControlState Identifier KernelError maxSqliteInteger)

/-! ### The Kernel participant -/

/-- What a row of `kernel_control_pause_receipts` attests. -/
inductive ControlFact where
  | pauseBarrier
  | localPaused (barrierOperationId : Identifier)
  | cancellationFence
  deriving DecidableEq

/-- A row of `kernel_control_pause_receipts`. -/
structure ControlReceipt where
  operationId : Identifier
  runId : Identifier
  generation : ℕ
  expectedEpoch : ℕ
  controlEpoch : ℕ
  fact : ControlFact
  deriving DecidableEq

/-- The envelope of a decision to install, which is also its barrier's operation. -/
structure InstallEnvelope where
  decisionId : Identifier
  sourceEpoch : ℕ
  sourceGeneration : ℕ
  deriving DecidableEq

structure ActivationEnvelope where
  operationId : Identifier
  decisionId : Identifier
  generation : ℕ
  expectedEpoch : ℕ
  deriving DecidableEq

structure ResumeEnvelope where
  operationId : Identifier
  activationId : Identifier
  decisionId : Identifier
  generation : ℕ
  expectedEpoch : ℕ
  deriving DecidableEq

/-- `operation_id + ":local-paused"`. -/
def localPausedId (operationId : Identifier) : Identifier :=
  ⟨operationId.text ++ ":local-paused", by
    have filled := operationId.filled
    simp only [ExecutionKernel.blank, String.toList_append, List.all_append] at filled ⊢
    rw [filled, Bool.false_and]⟩

/-- What the Kernel's store holds on the control of a Run. Receipts are stored for all Runs under
one key. -/
structure KernelGate where
  runId : Identifier
  control : ManagedControl
  receipts : Table ControlReceipt.operationId
  installs : Table InstallEnvelope.decisionId
  activations : Table ActivationEnvelope.operationId
  resumes : Table ResumeEnvelope.operationId

namespace KernelGate

variable (gate : KernelGate)

/-- A resume names the receipt, as its barrier or as its completion. -/
def resolved (receipt : ControlReceipt) : Bool :=
  gate.resumes.rows.any fun resume =>
    resume.decisionId = receipt.operationId ||
      localPausedId resume.decisionId = receipt.operationId

/-- `_unresolved_control_barrier`. -/
def unresolvedBarrier : Bool :=
  gate.receipts.rows.any fun receipt => receipt.runId = gate.runId && !gate.resolved receipt

def cancelled : Bool :=
  gate.receipts.rows.any fun receipt =>
    receipt.runId = gate.runId && receipt.fact = .cancellationFence

/-- Move the control by one epoch and leave a receipt. -/
def commit (state : ControlState) (receipt : ControlReceipt) : KernelGate :=
  { gate with
    control := ⟨state, receipt.controlEpoch, receipt.generation⟩
    receipts := gate.receipts.put receipt }

def receiptFor (operationId : Identifier) (expectedEpoch generation : ℕ) (fact : ControlFact) :
    ControlReceipt :=
  ⟨operationId, gate.runId, generation, expectedEpoch, expectedEpoch + 1, fact⟩

def checkRange (expectedEpoch generation : ℕ) (refusal : String) : Except KernelError Unit := do
  check (generation ≤ maxSqliteInteger) (.value "generation must be a non-negative SQLite integer")
  check (expectedEpoch < maxSqliteInteger) (.value refusal)

/-- The receipt that an earlier call left, which has to be for the same request. -/
def replay (request : ControlReceipt) (refusal : KernelError) :
    Except KernelError (Option ControlReceipt) :=
  match gate.receipts.find? request.operationId with
  | none => .ok none
  | some receipt => do
    check (receipt = request) refusal
    return some receipt

/-- `prepare_control_pause`. A Run that was adopted is paused before as well. -/
def prepareControlPause (adopted : Bool) (operationId : Identifier)
    (expectedEpoch generation : ℕ) : Except KernelError (ControlReceipt × KernelGate) := do
  checkRange expectedEpoch generation "expected_epoch cannot be advanced"
  let request := gate.receiptFor operationId expectedEpoch generation .pauseBarrier
  match ← gate.replay request
      (.casConflict "pause operation id already identifies another request") with
  | some receipt => return (receipt, gate)
  | none =>
    check (gate.unresolvedBarrier = false)
      (.casConflict "managed Run already has a local pause barrier")
    check (gate.control = ⟨if adopted then .paused else .active, expectedEpoch, generation⟩)
      (.casConflict "managed Run control changed before local pause")
    return (request, gate.commit .pausing request)

def completeControlPause (operationId barrierOperationId : Identifier)
    (expectedEpoch generation : ℕ) : Except KernelError (ControlReceipt × KernelGate) := do
  checkRange expectedEpoch generation "expected_epoch cannot be advanced"
  let request :=
    gate.receiptFor operationId expectedEpoch generation (.localPaused barrierOperationId)
  match ← gate.replay request
      (.casConflict "pause operation id already identifies another request") with
  | some receipt => return (receipt, gate)
  | none =>
    let missing := KernelError.casConflict "matching local pause barrier is missing"
    let barrier ← present (gate.receipts.find? barrierOperationId) missing
    check (barrier.runId = gate.runId ∧ barrier.generation = generation) missing
    check (barrier.fact = .pauseBarrier ∧ barrier.controlEpoch = expectedEpoch)
      (.casConflict "local pause barrier epoch changed")
    check (gate.control = ⟨.pausing, expectedEpoch, generation⟩)
      (.casConflict "managed Run control changed before local pause completion")
    return (request, gate.commit .paused request)

def installRevisionDecision (decision : InstallEnvelope) :
    Except KernelError (InstallEnvelope × KernelGate) := do
  check (decision.sourceEpoch < maxSqliteInteger ∧
      decision.sourceGeneration + 1 < maxSqliteInteger)
    (.storageIsolation "host verification did not authorize the revision decision")
  match gate.installs.find? decision.decisionId with
  | some install =>
    check (install = decision) (.casConflict "revision decision already has different content")
    return (install, gate)
  | none =>
    let refusal := KernelError.casConflict "revision decision lacks its matching local barrier"
    let barrier ← present (gate.receipts.find? decision.decisionId) refusal
    check (barrier.runId = gate.runId ∧ barrier.generation = decision.sourceGeneration) refusal
    check (barrier.fact = .pauseBarrier)
      (.casConflict "revision decision participant identity differs")
    check (gate.control = ⟨.paused, decision.sourceEpoch, decision.sourceGeneration⟩)
      (.casConflict "revision decision source control changed")
    return (decision, { gate with
      control := ⟨.paused, decision.sourceEpoch + 1, decision.sourceGeneration + 1⟩
      installs := gate.installs.put decision })

/-- What an activation and a resume find: the installed revision and its completed pause, in a Run
that was not cancelled. -/
def checkInstalled (decisionId : Identifier) (generation : ℕ) : Except KernelError Unit := do
  let changed := KernelError.casConflict "paused revision or authority changed before activation"
  let install ← present (gate.installs.find? decisionId) changed
  let completion ← present (gate.receipts.find? (localPausedId decisionId)) changed
  check (completion.runId = gate.runId ∧ completion.fact = .localPaused decisionId ∧
      install.sourceGeneration + 1 = generation ∧ gate.cancelled = false)
    (.casConflict "activation installation or cancellation differs")

def activateRevision (decision : ActivationEnvelope) :
    Except KernelError (ActivationEnvelope × KernelGate) := do
  check (decision.generation < maxSqliteInteger ∧ decision.expectedEpoch < maxSqliteInteger)
    (.storageIsolation "host verification did not authorize revision activation")
  gate.checkInstalled decision.decisionId decision.generation
  check (gate.control = ⟨.paused, decision.expectedEpoch, decision.generation⟩)
    (.casConflict "paused revision or authority changed before activation")
  match gate.activations.find? decision.operationId with
  | some activation =>
    check (activation = decision)
      (.casConflict "activation operation already has different content")
    return (activation, gate)
  | none => return (decision, { gate with activations := gate.activations.put decision })

def resumeRevision (decision : ResumeEnvelope) :
    Except KernelError (ResumeEnvelope × KernelGate) := do
  check (decision.generation ≤ maxSqliteInteger ∧ decision.expectedEpoch + 1 ≤ maxSqliteInteger)
    (.storageIsolation "host verification did not authorize revision resume")
  match gate.resumes.find? decision.operationId with
  | some resume =>
    check (resume = decision) (.casConflict "resume operation already has different content")
    check (gate.control = ⟨.active, decision.expectedEpoch + 1, decision.generation⟩ ∧
        gate.unresolvedBarrier = false)
      (.casConflict "resumed Run has since been fenced")
    return (resume, gate)
  | none =>
    let activation ← present (gate.activations.find? decision.activationId)
      (.casConflict "matching paused activation is missing")
    check (activation.decisionId = decision.decisionId ∧
        activation.generation = decision.generation ∧
        activation.expectedEpoch = decision.expectedEpoch)
      (.casConflict "resume decision differs from paused activation")
    gate.checkInstalled decision.decisionId decision.generation
    check (gate.control = ⟨.paused, decision.expectedEpoch, decision.generation⟩)
      (.casConflict "resume authority or paused control changed")
    return (decision, { gate with
      control := ⟨.active, decision.expectedEpoch + 1, decision.generation⟩
      resumes := gate.resumes.put decision })

def fenceCancelledRun (operationId : Identifier) (expectedEpoch generation : ℕ) :
    Except KernelError (ControlReceipt × KernelGate) := do
  checkRange expectedEpoch generation "invalid control epoch"
  let request := gate.receiptFor operationId expectedEpoch generation .cancellationFence
  match ← gate.replay request
      (.casConflict "cancellation operation already has different content") with
  | some receipt => return (receipt, gate)
  | none =>
    check (gate.control.generation = generation ∧ gate.control.epoch = expectedEpoch)
      (.casConflict "cancellation source control changed")
    return (request, gate.commit .paused request)

end KernelGate

/-! ### The orchestrator's store -/

/-- What a row of `sdk_managed_control_transitions` goes back to. -/
inductive ControlCause where
  | registered
  | pausing (operationId : Identifier)
  | paused (operationId : Identifier)
  | installed (operationId : Identifier)
  | resumed (operationId : Identifier)
  | fenced (operationId : Identifier)

/-- A row of `sdk_managed_control_transitions`, with the step that inserted it. -/
structure ControlEntry where
  control : ManagedControl
  cause : ControlCause

/-- A row of `sdk_control_operations`. -/
structure ControlOperation where
  operationId : Identifier
  sourceRevision : ℕ
  sourceEpoch : ℕ
  generation : ℕ
  /-- `phase = 'prepared'`. -/
  prepared : Bool
  kernelReceipt : Option ControlReceipt
  kernelPauseReceipt : Option ControlReceipt
  /-- `orchestrator_pause_receipt IS NOT NULL`. -/
  orchestratorPaused : Bool

/-- A row of `sdk_revision_decisions`. -/
structure DecisionRow where
  operationId : Identifier
  sourceRevision : ℕ
  sourceEpoch : ℕ
  sourceGeneration : ℕ
  /-- `kernel_install_receipt IS NOT NULL`. -/
  kernelInstalled : Bool
  /-- `orchestrator_install_receipt IS NOT NULL`. -/
  orchestratorInstalled : Bool

/-- The column `target_generation`. -/
def DecisionRow.targetGeneration (decision : DecisionRow) : ℕ := decision.sourceGeneration + 1

/-- A row of `sdk_revision_activations`. -/
structure ActivationRow where
  envelope : ActivationEnvelope
  /-- `kernel_receipt IS NOT NULL`. -/
  kernelActivated : Bool

/-- A row of `sdk_revision_resumes`. -/
structure ResumeRow where
  envelope : ResumeEnvelope
  /-- `orchestrator_receipt IS NOT NULL`. -/
  resumed : Bool

/-- A row of `sdk_cancellation_fences`. -/
structure FenceRow where
  operationId : Identifier
  runId : Identifier
  generation : ℕ
  kernelEpoch : ℕ
  kernelReceipt : Option ControlReceipt
  /-- The column `orchestrator_receipt`: the control that the fence left. -/
  orchestratorReceipt : Option ManagedControl

/-- What the orchestrator's store holds on the control of a Run. -/
structure ControlStore where
  runId : Identifier
  /-- The Run's state is `running`. -/
  running : Bool
  revision : ℕ
  control : ManagedControl
  transitions : List ControlEntry
  operations : Table ControlOperation.operationId
  decisions : Table DecisionRow.operationId
  activations : Table fun row : ActivationRow => row.envelope.operationId
  resumes : Table fun row : ResumeRow => row.envelope.operationId
  fences : Table FenceRow.operationId

namespace ControlStore

variable (store : ControlStore)

/-- Write the control and the row of its transition. -/
def move (control : ManagedControl) (cause : ControlCause) : ControlStore :=
  { store with control, transitions := store.transitions ++ [⟨control, cause⟩] }

/-! ### Pause -/

def begin (operationId : Identifier) (sourceEpoch : ℕ) : ControlStore :=
  { store.move ⟨.pausing, sourceEpoch + 1, store.control.generation⟩ (.pausing operationId) with
    operations := store.operations.put
      { operationId, sourceRevision := store.revision, sourceEpoch
        generation := store.control.generation, prepared := false, kernelReceipt := none
        kernelPauseReceipt := none, orchestratorPaused := false } }

def beginCrossStorePause (operationId : Identifier) (expectedRevision expectedEpoch : ℕ) :
    Except SdkError ControlStore :=
  match store.operations.find? operationId with
  | some old => do
    check (old.sourceRevision = expectedRevision ∧ old.sourceEpoch = expectedEpoch)
      (.commandConflict "control operation identity already has different content")
    return store
  | none => do
    check (store.running = true) (.orchestration "unknown or terminal managed Run")
    check (store.revision = expectedRevision ∧ store.control.epoch = expectedEpoch)
      (.revisionConflict "managed Run observation changed")
    check (store.control.state = .active) (.orchestration "only an active Run may request pause")
    return store.begin operationId expectedEpoch

/-- `begin_adopted_cross_store_pause`, once the adoption is complete. -/
def beginAdoptedCrossStorePause (adoptionId : Identifier) (sourceRevision generation : ℕ) :
    Except SdkError ControlStore :=
  match store.operations.find? adoptionId with
  | some _ => .ok store
  | none => do
    check (store.running = true ∧ store.revision = sourceRevision ∧
        store.control = ⟨.paused, 0, generation⟩)
      (.revisionConflict "adopted Run control changed")
    return store.begin adoptionId 0

/-- The end of `advance_cross_store_pause`, with what the Kernel answered. -/
def advanceCrossStorePause (operationId : Identifier) (receipt : ControlReceipt) :
    Except SdkError ControlStore := do
  let operation ← present (store.operations.find? operationId)
    (.orchestration "unknown cross-store pause operation")
  check (receipt.operationId = operationId ∧ receipt.runId = store.runId ∧
      receipt.generation = operation.generation ∧
      receipt.expectedEpoch = operation.sourceEpoch ∧
      receipt.controlEpoch = operation.sourceEpoch + 1)
    (.orchestration "Kernel pause receipt does not match the control operation")
  check (∀ existing ∈ operation.kernelReceipt, existing = receipt)
    (.orchestration "Kernel returned a different pause receipt")
  return { store with
    operations := store.operations.put { operation with kernelReceipt := some receipt } }

/-- The end of `complete_cross_store_pause_participant`, with what the Kernel answered. -/
def completeCrossStorePauseParticipant (operationId : Identifier) (receipt : ControlReceipt) :
    Except SdkError ControlStore := do
  let refusal := SdkError.orchestration "Kernel pause barrier receipt is required"
  let operation ← present (store.operations.find? operationId) refusal
  check (operation.kernelReceipt.isSome) refusal
  check (receipt = ⟨localPausedId operationId, store.runId, operation.generation,
      operation.sourceEpoch + 1, operation.sourceEpoch + 2, .localPaused operationId⟩)
    (.orchestration "Kernel local pause receipt does not match the operation")
  check (∀ existing ∈ operation.kernelPauseReceipt, existing = receipt)
    (.orchestration "Kernel local pause receipt changed or operation disappeared")
  return { store with
    operations := store.operations.put { operation with kernelPauseReceipt := some receipt } }

/-- `prepare_cross_store_pause`, with the gate that the Kernel showed. -/
def prepareCrossStorePause (operationId : Identifier) (gate : ManagedControl) :
    Except SdkError ControlStore := do
  let operation ← present (store.operations.find? operationId)
    (.orchestration "unknown cross-store pause operation")
  check (gate = ⟨.paused, operation.sourceEpoch + 2, operation.generation⟩)
    (.orchestration "Kernel local pause barrier is unknown or changed")
  check (operation.kernelReceipt.isSome ∧ operation.kernelPauseReceipt.isSome)
    (.orchestration "both Kernel pause receipts are required")
  check (store.control = ⟨.pausing, operation.sourceEpoch + 1, operation.generation⟩ ∨
      (operation.orchestratorPaused = true ∧
        store.control = ⟨.paused, operation.sourceEpoch + 2, operation.generation⟩))
    (.revisionConflict "Orchestrator pause barrier changed")
  return { store with operations := store.operations.put { operation with prepared := true } }

/-- `finalize_cross_store_pause`, with the gate that the Kernel showed. -/
def finalizeCrossStorePause (operationId : Identifier) (gate : ManagedControl) :
    Except SdkError ControlStore := do
  let refusal := SdkError.orchestration "prepared pause decision is required"
  let operation ← present (store.operations.find? operationId) refusal
  check (operation.prepared = true) refusal
  if operation.orchestratorPaused then return store
  else
    let paused : ManagedControl := ⟨.paused, operation.sourceEpoch + 2, operation.generation⟩
    check (gate = paused) (.orchestration "Kernel local pause barrier is unknown or changed")
    check (store.control = ⟨.pausing, operation.sourceEpoch + 1, operation.generation⟩)
      (.revisionConflict "Orchestrator pause barrier changed")
    return { store.move paused (.paused operationId) with
      operations := store.operations.put { operation with orchestratorPaused := true } }

/-! ### Revision -/

/-- `commit_cross_store_revision`, with the gate that the Kernel showed, for a request that is
new. -/
def commitCrossStoreRevision (operationId : Identifier)
    (expectedRevision expectedEpoch expectedGeneration : ℕ) (gate : ManagedControl) :
    Except SdkError ControlStore := do
  check (expectedGeneration < maxSqliteInteger) (.orchestration "generation cannot be advanced")
  let operation ← present (store.operations.find? operationId)
    (.orchestration "unknown pause decision")
  check (operation.prepared = true) (.orchestration "prepared pause decision is required")
  check (store.revision = expectedRevision ∧
      store.control = ⟨.paused, expectedEpoch, expectedGeneration⟩ ∧
      operation.generation = expectedGeneration ∧ operation.sourceEpoch + 2 = expectedEpoch ∧
      operation.orchestratorPaused = true)
    (.revisionConflict "revision source observation changed")
  check (store.decisions.find? operationId).isNone
    (.commandConflict "pause operation already has a revision decision")
  check (gate = ⟨.paused, operation.sourceEpoch + 2, expectedGeneration⟩)
    (.orchestration "revision Kernel pause barrier is unknown or changed")
  return { store with
    decisions := store.decisions.put
      { operationId, sourceRevision := expectedRevision, sourceEpoch := expectedEpoch
        sourceGeneration := expectedGeneration, kernelInstalled := false
        orchestratorInstalled := false } }

/-- The end of `install_cross_store_revision`, with what the Kernel answered. -/
def installCrossStoreRevision (operationId : Identifier) (receipt : InstallEnvelope) :
    Except SdkError ControlStore := do
  let decision ← present (store.decisions.find? operationId)
    (.orchestration "committed revision decision is required")
  if decision.kernelInstalled then return store
  else
    check (receipt = ⟨operationId, decision.sourceEpoch, decision.sourceGeneration⟩)
      (.orchestration "Kernel revision receipt differs from the committed decision or budget")
    check (store.control = ⟨.paused, decision.sourceEpoch, decision.sourceGeneration⟩)
      (.revisionConflict "revision source control changed after Kernel installation")
    return { store with
      decisions := store.decisions.put { decision with kernelInstalled := true } }

/-- `install_cross_store_projection`, with the gate that the Kernel showed. -/
def installCrossStoreProjection (operationId : Identifier) (gate : ManagedControl) :
    Except SdkError ControlStore := do
  let refusal := SdkError.orchestration "Kernel revision installation receipt is required"
  let decision ← present (store.decisions.find? operationId) refusal
  check (decision.kernelInstalled = true) refusal
  let target : ManagedControl := ⟨.paused, decision.sourceEpoch + 1, decision.targetGeneration⟩
  check (gate = target) (.orchestration "installed Kernel gate is unknown or changed")
  if decision.orchestratorInstalled then return store
  else
    check (store.control = ⟨.paused, decision.sourceEpoch, decision.sourceGeneration⟩ ∧
        store.revision = decision.sourceRevision)
      (.revisionConflict "local revision installation source changed")
    return { store.move target (.installed operationId) with
      revision := store.revision + 1
      decisions := store.decisions.put { decision with orchestratorInstalled := true } }

/-- The decision that both stores have installed. -/
def installedDecision (decisionId : Identifier) : Except SdkError DecisionRow := do
  let refusal := SdkError.orchestration "both revision installation receipts are required"
  let decision ← present (store.decisions.find? decisionId) refusal
  check (decision.kernelInstalled = true ∧ decision.orchestratorInstalled = true) refusal
  return decision

/-! ### Activation and resume -/

/-- The envelope with which a decision is activated. -/
def activationEnvelope (operationId : Identifier) (decision : DecisionRow) : ActivationEnvelope :=
  ⟨operationId, decision.operationId, decision.targetGeneration, decision.sourceEpoch + 1⟩

/-- The first transaction of `activate_cross_store_revision`. -/
def intendActivation (decisionId operationId : Identifier) : Except SdkError ControlStore := do
  let decision ← store.installedDecision decisionId
  check (store.control = ⟨.paused, decision.sourceEpoch + 1, decision.targetGeneration⟩)
    (.revisionConflict "activation participant or paused control changed")
  let envelope := activationEnvelope operationId decision
  match store.activations.find? operationId with
  | some old =>
    check (old.envelope = envelope) (.commandConflict "activation operation differs")
    return store
  | none => return { store with activations := store.activations.put ⟨envelope, false⟩ }

/-- The last transaction of `activate_cross_store_revision`, with what the Kernel answered. -/
def activateCrossStoreRevision (decisionId operationId : Identifier)
    (receipt : ActivationEnvelope) : Except SdkError ControlStore := do
  let decision ← store.installedDecision decisionId
  let changed := SdkError.revisionConflict "activation source or participant changed"
  let old ← present (store.activations.find? operationId) changed
  check (receipt = activationEnvelope operationId decision ∧ old.envelope = receipt ∧
      store.control = ⟨.paused, decision.sourceEpoch + 1, decision.targetGeneration⟩) changed
  return { store with activations := store.activations.put { old with kernelActivated := true } }

/-- The envelope with which an activation is resumed. -/
def resumeEnvelope (operationId activationId : Identifier) (decision : DecisionRow) :
    ResumeEnvelope :=
  ⟨operationId, activationId, decision.operationId, decision.targetGeneration,
    decision.sourceEpoch + 1⟩

/-- What both transactions of a resume find: the activation and its decision. -/
def activatedDecision (activationId : Identifier) : Except SdkError DecisionRow := do
  let refusal := SdkError.orchestration "paused activation receipt is required"
  let activation ← present (store.activations.find? activationId) refusal
  check (activation.kernelActivated = true) refusal
  store.installedDecision activation.envelope.decisionId

/-- A cancellation of the Run was recorded for the generation. -/
def cancelling (generation : ℕ) : Bool :=
  store.fences.rows.any fun record =>
    record.runId = store.runId && record.generation = generation

/-- The first transaction of `resume_cross_store_revision`. -/
def intendResume (activationId operationId : Identifier) : Except SdkError ControlStore := do
  let decision ← store.activatedDecision activationId
  let envelope := resumeEnvelope operationId activationId decision
  let old := store.resumes.find? operationId
  check (store.control = ⟨.paused, decision.sourceEpoch + 1, decision.targetGeneration⟩ ∨
      ((∃ row ∈ old, row.resumed = true) ∧
        store.control = ⟨.active, decision.sourceEpoch + 2, decision.targetGeneration⟩))
    (.revisionConflict "resume participant or local control changed")
  match old with
  | some row =>
    check (row.envelope = envelope) (.commandConflict "resume operation differs")
    return store
  | none => return { store with resumes := store.resumes.put ⟨envelope, false⟩ }

/-- The last transaction of `resume_cross_store_revision`, with what the Kernel answered and the
gate that it showed. -/
def resumeCrossStoreRevision (activationId operationId : Identifier) (receipt : ResumeEnvelope)
    (gate : ManagedControl) : Except SdkError ControlStore := do
  let decision ← store.activatedDecision activationId
  let changed := SdkError.revisionConflict "resume source or participant changed"
  check (receipt = resumeEnvelope operationId activationId decision)
    (.orchestration "Kernel resume receipt differs")
  check (store.cancelling decision.targetGeneration = false)
    (.revisionConflict "cancellation intent prevents resume")
  let current ← present (store.resumes.find? operationId) changed
  let active : ManagedControl := ⟨.active, decision.sourceEpoch + 2, decision.targetGeneration⟩
  check (current.envelope = receipt ∧ gate = active) changed
  if current.resumed then
    check (store.control = active) (.revisionConflict "resumed Orchestrator control changed")
    return store
  else
    check (store.control = ⟨.paused, decision.sourceEpoch + 1, decision.targetGeneration⟩)
      (.revisionConflict "resume Orchestrator gate changed")
    return { store.move active (.resumed decision.operationId) with
      resumes := store.resumes.put { current with resumed := true } }

/-! ### Cancellation -/

/-- The first transaction of `fence_cross_store_cancellation`, with the gate that the Kernel showed.
It answers the epoch that the Kernel is asked to move. -/
def recordFence (operationId : Identifier) (gate : ManagedControl) :
    Except SdkError (ℕ × ControlStore) := do
  check (store.control.generation = gate.generation)
    (.revisionConflict "cancellation source is unknown or changed")
  match store.fences.find? operationId with
  | none =>
    return (gate.epoch, { store with
      fences := store.fences.put
        { operationId, runId := store.runId, generation := store.control.generation
          kernelEpoch := gate.epoch, kernelReceipt := none, orchestratorReceipt := none } })
  | some record =>
    check (record.runId = store.runId ∧ record.generation = store.control.generation)
      (.commandConflict "cancellation operation differs")
    return (record.kernelEpoch, store)

/-- The transaction after a conflict: the epoch is the one that the Kernel shows now, unless the
receipt of the Kernel is recorded already. -/
def readjustFence (operationId : Identifier) (latest : ManagedControl) : ControlStore :=
  match store.fences.find? operationId with
  | some record =>
    if record.kernelReceipt.isNone then
      { store with fences := store.fences.put { record with kernelEpoch := latest.epoch } }
    else store
  | none => store

/-- The last transaction of `fence_cross_store_cancellation`, with what the Kernel answered when it
was asked to move `kernelEpoch`. -/
def settleFence (operationId : Identifier) (generation kernelEpoch : ℕ)
    (receipt : ControlReceipt) : Except SdkError ControlStore := do
  check (receipt = ⟨operationId, store.runId, generation, kernelEpoch, kernelEpoch + 1,
      .cancellationFence⟩)
    (.orchestration "Kernel cancellation receipt differs")
  let changed := SdkError.revisionConflict "cancellation participant or gate changed"
  let record ← present (store.fences.find? operationId) changed
  check (record.kernelEpoch = kernelEpoch ∧ store.control.generation = generation ∧
      store.control.epoch ≤ receipt.controlEpoch) changed
  let fenced : ManagedControl := ⟨.paused, receipt.controlEpoch, generation⟩
  if record.orchestratorReceipt.isSome then
    check (record.kernelReceipt = some receipt ∧ record.orchestratorReceipt = some fenced ∧
        store.control = fenced)
      (.commandConflict "cancellation receipt differs")
    return store
  else
    check (store.control.epoch < receipt.controlEpoch ∨ store.control.state = .paused)
      (.revisionConflict "cancellation epoch does not advance local control")
    let moved := if store.control.epoch < receipt.controlEpoch then
      store.move fenced (.fenced operationId) else store
    return { moved with
      fences := store.fences.put
        { record with kernelReceipt := some receipt, orchestratorReceipt := some fenced } }

end ControlStore

/-! ### Both stores -/

/-- Both stores, and every control of the Run that the Kernel has committed so far. -/
structure CrossStores where
  kernel : KernelGate
  committed : List ManagedControl
  store : ControlStore

def CrossStores.kernelCommits (stores : CrossStores) (kernel : KernelGate) : CrossStores :=
  { stores with kernel, committed := stores.committed ++ [kernel.control] }

/-- What one transaction in either store does. -/
inductive CrossStores.Step (stores : CrossStores) : CrossStores → Prop
  | prepareControlPause {adopted : Bool} {operationId : Identifier}
      {expectedEpoch generation : ℕ} {receipt : ControlReceipt} {kernel : KernelGate}
      (answered : stores.kernel.prepareControlPause adopted operationId expectedEpoch generation =
        .ok (receipt, kernel)) :
      Step stores (stores.kernelCommits kernel)
  | completeControlPause {operationId barrierOperationId : Identifier}
      {expectedEpoch generation : ℕ} {receipt : ControlReceipt} {kernel : KernelGate}
      (answered : stores.kernel.completeControlPause operationId barrierOperationId expectedEpoch
        generation = .ok (receipt, kernel)) :
      Step stores (stores.kernelCommits kernel)
  | installRevisionDecision {decision receipt : InstallEnvelope} {kernel : KernelGate}
      (answered : stores.kernel.installRevisionDecision decision = .ok (receipt, kernel)) :
      Step stores (stores.kernelCommits kernel)
  | activateRevision {decision receipt : ActivationEnvelope} {kernel : KernelGate}
      (answered : stores.kernel.activateRevision decision = .ok (receipt, kernel)) :
      Step stores (stores.kernelCommits kernel)
  | resumeRevision {decision receipt : ResumeEnvelope} {kernel : KernelGate}
      (answered : stores.kernel.resumeRevision decision = .ok (receipt, kernel)) :
      Step stores (stores.kernelCommits kernel)
  | fenceCancelledRun {operationId : Identifier} {expectedEpoch generation : ℕ}
      {receipt : ControlReceipt} {kernel : KernelGate}
      (answered : stores.kernel.fenceCancelledRun operationId expectedEpoch generation =
        .ok (receipt, kernel)) :
      Step stores (stores.kernelCommits kernel)
  /-- A receipt for another Run. -/
  | otherReceipt {receipt : ControlReceipt} (other : receipt.runId ≠ stores.kernel.runId)
      (fresh : stores.kernel.receipts.find? receipt.operationId = none) :
      Step stores (stores.kernelCommits
        { stores.kernel with receipts := stores.kernel.receipts.put receipt })
  | beginPause {operationId : Identifier} {expectedRevision expectedEpoch : ℕ}
      {store : ControlStore}
      (begun : stores.store.beginCrossStorePause operationId expectedRevision expectedEpoch =
        .ok store) :
      Step stores { stores with store }
  | beginAdopted {adoptionId : Identifier} {sourceRevision generation : ℕ} {store : ControlStore}
      (begun : stores.store.beginAdoptedCrossStorePause adoptionId sourceRevision generation =
        .ok store) :
      Step stores { stores with store }
  | advancePause {operationId : Identifier} {receipt : ControlReceipt} {store : ControlStore}
      (answered : receipt ∈ stores.kernel.receipts)
      (recorded : stores.store.advanceCrossStorePause operationId receipt = .ok store) :
      Step stores { stores with store }
  | completePause {operationId : Identifier} {receipt : ControlReceipt} {store : ControlStore}
      (answered : receipt ∈ stores.kernel.receipts)
      (recorded : stores.store.completeCrossStorePauseParticipant operationId receipt =
        .ok store) :
      Step stores { stores with store }
  | preparePause {operationId : Identifier} {gate : ManagedControl} {store : ControlStore}
      (shown : gate ∈ stores.committed)
      (prepared : stores.store.prepareCrossStorePause operationId gate = .ok store) :
      Step stores { stores with store }
  | finalizePause {operationId : Identifier} {gate : ManagedControl} {store : ControlStore}
      (shown : gate ∈ stores.committed)
      (finalized : stores.store.finalizeCrossStorePause operationId gate = .ok store) :
      Step stores { stores with store }
  | commitRevision {operationId : Identifier}
      {expectedRevision expectedEpoch expectedGeneration : ℕ} {gate : ManagedControl}
      {store : ControlStore} (shown : gate ∈ stores.committed)
      (decided : stores.store.commitCrossStoreRevision operationId expectedRevision expectedEpoch
        expectedGeneration gate = .ok store) :
      Step stores { stores with store }
  | installRevision {operationId : Identifier} {receipt : InstallEnvelope} {store : ControlStore}
      (answered : receipt ∈ stores.kernel.installs)
      (recorded : stores.store.installCrossStoreRevision operationId receipt = .ok store) :
      Step stores { stores with store }
  | installProjection {operationId : Identifier} {gate : ManagedControl} {store : ControlStore}
      (shown : gate ∈ stores.committed)
      (installed : stores.store.installCrossStoreProjection operationId gate = .ok store) :
      Step stores { stores with store }
  | intendActivation {decisionId operationId : Identifier} {store : ControlStore}
      (intended : stores.store.intendActivation decisionId operationId = .ok store) :
      Step stores { stores with store }
  | activate {decisionId operationId : Identifier} {receipt : ActivationEnvelope}
      {store : ControlStore} (answered : receipt ∈ stores.kernel.activations)
      (activated : stores.store.activateCrossStoreRevision decisionId operationId receipt =
        .ok store) :
      Step stores { stores with store }
  | intendResume {activationId operationId : Identifier} {store : ControlStore}
      (intended : stores.store.intendResume activationId operationId = .ok store) :
      Step stores { stores with store }
  | resume {activationId operationId : Identifier} {receipt : ResumeEnvelope}
      {gate : ManagedControl} {store : ControlStore} (answered : receipt ∈ stores.kernel.resumes)
      (shown : gate ∈ stores.committed)
      (resumed : stores.store.resumeCrossStoreRevision activationId operationId receipt gate =
        .ok store) :
      Step stores { stores with store }
  | recordFence {operationId : Identifier} {gate : ManagedControl} {kernelEpoch : ℕ}
      {store : ControlStore} (shown : gate ∈ stores.committed)
      (recorded : stores.store.recordFence operationId gate = .ok (kernelEpoch, store)) :
      Step stores { stores with store }
  | readjustFence {operationId : Identifier} {latest : ManagedControl}
      (shown : latest ∈ stores.committed) :
      Step stores { stores with store := stores.store.readjustFence operationId latest }
  | settleFence {operationId : Identifier} {generation kernelEpoch : ℕ}
      {receipt : ControlReceipt} {store : ControlStore}
      (called : ∃ record ∈ stores.store.fences, record.operationId = operationId ∧
        record.generation = generation)
      (answered : receipt ∈ stores.kernel.receipts)
      (settled : stores.store.settleFence operationId generation kernelEpoch receipt =
        .ok store) :
      Step stores { stores with store }
  /-- The application goes on with the Run, or it ends. -/
  | revise {revision : ℕ} {running : Bool} :
      Step stores { stores with store := { stores.store with revision, running } }

/-- A managed Run in two stores that start from one control, at rest. -/
def CrossStores.start (runId : Identifier) (origin : ManagedControl) (running : Bool)
    (revision : ℕ) : CrossStores where
  kernel :=
    { runId, control := origin, receipts := ∅, installs := ∅, activations := ∅, resumes := ∅ }
  committed := [origin]
  store :=
    { runId, running, revision, control := origin, transitions := [⟨origin, .registered⟩]
      operations := ∅, decisions := ∅, activations := ∅, resumes := ∅, fences := ∅ }

/-- The Run of two stores under any calls in any order, each of which may end between any two of
its transactions. -/
def crossStores (runId : Identifier) (origin : ManagedControl) : TransitionSystem CrossStores where
  initial stores := origin.state ≠ .pausing ∧ origin.generation ≤ maxSqliteInteger ∧
    ∃ running revision, stores = CrossStores.start runId origin running revision
  step := CrossStores.Step

/-! ### The Kernel -/

namespace KernelGate

/-- What the numbers of a new receipt say, once the control is the one given. -/
structure Attests (control : ManagedControl) (receipt : ControlReceipt) : Prop where
  next : receipt.controlEpoch = receipt.expectedEpoch + 1
  bounded : receipt.expectedEpoch < maxSqliteInteger
  reached : receipt.controlEpoch = control.epoch
  fenced : receipt.fact = .cancellationFence →
    control = ⟨.paused, receipt.controlEpoch, receipt.generation⟩

/-- What a transaction of the Kernel may do. -/
structure Advances (before after : KernelGate) : Prop where
  sameRun : after.runId = before.runId
  epoch : before.control.epoch ≤ after.control.epoch
  generation : before.control.generation ≤ after.control.generation
  bounded : before.control.generation ≤ maxSqliteInteger →
    after.control.generation ≤ maxSqliteInteger
  receipts : ∀ operationId receipt, before.receipts.find? operationId = some receipt →
    after.receipts.find? operationId = some receipt
  fresh : ∀ receipt ∈ after.receipts, receipt ∈ before.receipts ∨
    receipt.runId ≠ before.runId ∨ Attests after.control receipt
  resumes : ∀ resume ∈ before.resumes, resume ∈ after.resumes

theorem Advances.refl (gate : KernelGate) : gate.Advances gate where
  sameRun := rfl
  epoch := le_refl _
  generation := le_refl _
  bounded := id
  receipts _ _ found := found
  fresh _ stored := Or.inl stored
  resumes _ stored := stored

variable {expectedEpoch generation : ℕ} {gate : KernelGate}

theorem checkRange_eq_ok {refusal : String} {answer : Unit} :
    checkRange expectedEpoch generation refusal = .ok answer ↔
      generation ≤ maxSqliteInteger ∧ expectedEpoch < maxSqliteInteger := by
  simp only [checkRange, bind_eq_ok, check_eq_ok, exists_const]

theorem replay_eq_ok {request : ControlReceipt} {refusal : KernelError}
    {answer : Option ControlReceipt} :
    gate.replay request refusal = .ok answer ↔
      (gate.receipts.find? request.operationId = none ∧ answer = none) ∨
        (gate.receipts.find? request.operationId = some request ∧ answer = some request) := by
  unfold replay
  cases found : gate.receipts.find? request.operationId with
  | none => simp [eq_comm]
  | some receipt =>
    simp only [passes_iff, pure, Except.pure,
      Except.ok.injEq, Option.some.injEq, reduceCtorEq, false_and, false_or]
    constructor
    · rintro ⟨rfl, rfl⟩
      exact ⟨rfl, rfl⟩
    · rintro ⟨rfl, rfl⟩
      exact ⟨rfl, rfl⟩

theorem Advances.commit {state : ControlState} {operationId : Identifier} {fact : ControlFact}
    (fresh : gate.receipts.find? operationId = none)
    (current : gate.control.epoch = expectedEpoch ∧ gate.control.generation = generation)
    (bounded : expectedEpoch < maxSqliteInteger)
    (fenced : fact = .cancellationFence → state = .paused) :
    gate.Advances
      (gate.commit state (gate.receiptFor operationId expectedEpoch generation fact)) where
  sameRun := rfl
  epoch := by
    show gate.control.epoch ≤ expectedEpoch + 1
    omega
  generation := le_of_eq current.2
  bounded held := by
    show generation ≤ maxSqliteInteger
    exact current.2 ▸ held
  receipts name receipt found := by
    have other : name ≠ operationId := by
      rintro rfl
      cases fresh.symm.trans found
    exact (find?_put_other _ other).trans found
  fresh receipt stored := by
    rcases mem_put.mp stored with rfl | ⟨before, -⟩
    · refine Or.inr (.inr ⟨rfl, bounded, rfl, fun fencing => ?_⟩)
      show (⟨state, expectedEpoch + 1, generation⟩ : ManagedControl) = _
      rw [fenced fencing]
      rfl
    · exact .inl before
  resumes _ stored := stored

section Calls

variable {next : KernelGate}

variable {receipt : ControlReceipt}

variable {operationId : Identifier}

theorem prepareControlPause_advances {adopted : Bool}
    (answered : gate.prepareControlPause adopted operationId expectedEpoch generation =
      .ok (receipt, next)) : gate.Advances next := by
  simp only [prepareControlPause, bind_eq_ok, checkRange_eq_ok, exists_const,
    replay_eq_ok] at answered
  obtain ⟨⟨-, bounded⟩, found, ⟨fresh, rfl⟩ | ⟨-, rfl⟩, answered⟩ := answered
  · simp only [passes_iff] at answered
    obtain ⟨-, current, -, ⟨⟩⟩ := answered
    exact Advances.commit fresh (by rw [current]; exact ⟨rfl, rfl⟩) bounded (by rintro ⟨⟩)
  · cases answered
    exact Advances.refl gate

theorem completeControlPause_advances {barrierOperationId : Identifier}
    (answered : gate.completeControlPause operationId barrierOperationId expectedEpoch
      generation = .ok (receipt, next)) : gate.Advances next := by
  simp only [completeControlPause, bind_eq_ok, checkRange_eq_ok, exists_const,
    replay_eq_ok] at answered
  obtain ⟨⟨-, bounded⟩, found, ⟨fresh, rfl⟩ | ⟨-, rfl⟩, answered⟩ := answered
  · simp only [passes_iff] at answered
    obtain ⟨barrier, -, -, -, current, -, ⟨⟩⟩ := answered
    exact Advances.commit fresh (by rw [current]; exact ⟨rfl, rfl⟩) bounded (by rintro ⟨⟩)
  · cases answered
    exact Advances.refl gate

theorem fenceCancelledRun_advances
    (answered : gate.fenceCancelledRun operationId expectedEpoch generation =
      .ok (receipt, next)) : gate.Advances next := by
  simp only [fenceCancelledRun, bind_eq_ok, checkRange_eq_ok, exists_const,
    replay_eq_ok] at answered
  obtain ⟨⟨-, bounded⟩, found, ⟨fresh, rfl⟩ | ⟨-, rfl⟩, answered⟩ := answered
  · simp only [passes_iff] at answered
    obtain ⟨current, -, ⟨⟩⟩ := answered
    exact Advances.commit fresh current.symm bounded fun _ => rfl
  · cases answered
    exact Advances.refl gate

theorem installRevisionDecision_advances {decision receipt : InstallEnvelope}
    (answered : gate.installRevisionDecision decision = .ok (receipt, next)) :
    gate.Advances next := by
  simp only [installRevisionDecision, bind_eq_ok, check_eq_ok, exists_const] at answered
  obtain ⟨⟨-, bounded⟩, answered⟩ := answered
  split at answered
  · simp only [passes_iff] at answered
    obtain ⟨-, -, ⟨⟩⟩ := answered
    exact Advances.refl gate
  · simp only [passes_iff] at answered
    obtain ⟨barrier, -, -, -, current, -, ⟨⟩⟩ := answered
    exact
      { sameRun := rfl
        epoch := by rw [current]; exact Nat.le_succ _
        generation := by rw [current]; exact Nat.le_succ _
        bounded := fun _ => bounded.le
        receipts := fun _ _ found => found
        fresh := fun _ stored => Or.inl stored
        resumes := fun _ stored => stored }

theorem activateRevision_advances {decision receipt : ActivationEnvelope}
    (answered : gate.activateRevision decision = .ok (receipt, next)) : gate.Advances next := by
  simp only [activateRevision, bind_eq_ok, check_eq_ok, exists_const] at answered
  obtain ⟨-, -, -, -, answered⟩ := answered
  split at answered
  · simp only [passes_iff] at answered
    obtain ⟨-, -, ⟨⟩⟩ := answered
    exact Advances.refl gate
  · cases answered
    exact
      { sameRun := rfl
        epoch := le_refl _
        generation := le_refl _
        bounded := id
        receipts := fun _ _ found => found
        fresh := fun _ stored => Or.inl stored
        resumes := fun _ stored => stored }

theorem resumeRevision_advances {decision receipt : ResumeEnvelope}
    (answered : gate.resumeRevision decision = .ok (receipt, next)) : gate.Advances next := by
  simp only [resumeRevision, bind_eq_ok, check_eq_ok, exists_const] at answered
  obtain ⟨-, answered⟩ := answered
  split at answered
  · simp only [passes_iff] at answered
    obtain ⟨-, -, -, ⟨⟩⟩ := answered
    exact Advances.refl gate
  · rename_i fresh
    simp only [passes_iff] at answered
    obtain ⟨activation, -, -, -, -, current, -, ⟨⟩⟩ := answered
    exact
      { sameRun := rfl
        epoch := by rw [current]; exact Nat.le_succ _
        generation := by rw [current]
        bounded := fun held => by rw [current] at held; exact held
        receipts := fun _ _ found => found
        fresh := fun _ stored => Or.inl stored
        resumes := fun _ stored => mem_put_of_fresh _ fresh stored }

theorem Advances.otherReceipt (other : receipt.runId ≠ gate.runId)
    (fresh : gate.receipts.find? receipt.operationId = none) :
    gate.Advances { gate with receipts := gate.receipts.put receipt } where
  sameRun := rfl
  epoch := le_refl _
  generation := le_refl _
  bounded := id
  receipts name stored found := by
    have different : name ≠ receipt.operationId := by
      rintro rfl
      cases fresh.symm.trans found
    exact (find?_put_other _ different).trans found
  fresh stored member := by
    rcases mem_put.mp member with rfl | ⟨before, -⟩
    · exact .inr (.inl other)
    · exact .inl before
  resumes _ stored := stored

end Calls

end KernelGate
/-! ### The orchestrator's store -/

/-- What of the rows of a store is there to stay. -/
structure ControlStore.Keeps (before after : ControlStore) : Prop where
  operations : ∀ operationId row, before.operations.find? operationId = some row →
    ∃ kept, after.operations.find? operationId = some kept ∧
      kept.sourceEpoch = row.sourceEpoch ∧ kept.generation = row.generation ∧
      (row.orchestratorPaused = true → kept.orchestratorPaused = true)
  decisions : ∀ operationId row, before.decisions.find? operationId = some row →
    ∃ kept, after.decisions.find? operationId = some kept ∧
      kept.sourceEpoch = row.sourceEpoch ∧ kept.sourceGeneration = row.sourceGeneration ∧
      (row.kernelInstalled = true → kept.kernelInstalled = true) ∧
      (row.orchestratorInstalled = true → kept.orchestratorInstalled = true)
  fences : ∀ operationId row fenced, before.fences.find? operationId = some row →
    row.orchestratorReceipt = some fenced →
    ∃ kept, after.fences.find? operationId = some kept ∧ kept.orchestratorReceipt = some fenced

theorem ControlStore.Keeps.refl (store : ControlStore) : store.Keeps store where
  operations _ row found := ⟨row, found, rfl, rfl, id⟩
  decisions _ row found := ⟨row, found, rfl, rfl, id, id⟩
  fences _ row _ found written := ⟨row, found, written⟩

/-- The tables hold what a transition goes back to. No two transitions can go back to the same. -/
def CrossStores.Explains (stores : CrossStores) (origin : ManagedControl) (entry : ControlEntry) :
    Prop :=
  match entry.cause with
  | .registered => entry.control = origin
  | .pausing operationId => ∃ row, stores.store.operations.find? operationId = some row ∧
      entry.control = ⟨.pausing, row.sourceEpoch + 1, row.generation⟩
  | .paused operationId => ∃ row, stores.store.operations.find? operationId = some row ∧
      row.orchestratorPaused = true ∧
      entry.control = ⟨.paused, row.sourceEpoch + 2, row.generation⟩
  | .installed operationId => ∃ row, stores.store.decisions.find? operationId = some row ∧
      row.kernelInstalled = true ∧ row.orchestratorInstalled = true ∧
      entry.control = ⟨.paused, row.sourceEpoch + 1, row.targetGeneration⟩
  | .resumed operationId => ∃ row, stores.store.decisions.find? operationId = some row ∧
      row.kernelInstalled = true ∧ row.orchestratorInstalled = true ∧
      entry.control = ⟨.active, row.sourceEpoch + 2, row.targetGeneration⟩ ∧
      ∃ receipt ∈ stores.kernel.resumes, receipt.decisionId = operationId ∧
        receipt.generation = entry.control.generation ∧
        receipt.expectedEpoch + 1 = entry.control.epoch
  | .fenced operationId => entry.control.state = .paused ∧
      ∃ row, stores.store.fences.find? operationId = some row ∧
        row.orchestratorReceipt = some entry.control

theorem CrossStores.Explains.mono {before after : CrossStores} {origin : ManagedControl}
    {entry : ControlEntry} (explained : before.Explains origin entry)
    (keeps : before.store.Keeps after.store)
    (resumes : ∀ receipt ∈ before.kernel.resumes, receipt ∈ after.kernel.resumes) :
    after.Explains origin entry := by
  rcases entry with ⟨control, cause⟩
  cases cause with
  | registered => exact explained
  | pausing operationId =>
    obtain ⟨row, found, moved⟩ := explained
    obtain ⟨kept, stays, epoch, generation, -⟩ := keeps.operations operationId row found
    exact ⟨kept, stays, by rw [moved, epoch, generation]⟩
  | paused operationId =>
    obtain ⟨row, found, paused, moved⟩ := explained
    obtain ⟨kept, stays, epoch, generation, still⟩ := keeps.operations operationId row found
    exact ⟨kept, stays, still paused, by rw [moved, epoch, generation]⟩
  | installed operationId =>
    obtain ⟨row, found, kernel, orchestrator, moved⟩ := explained
    obtain ⟨kept, stays, epoch, generation, kernelStill, orchestratorStill⟩ :=
      keeps.decisions operationId row found
    refine ⟨kept, stays, kernelStill kernel, orchestratorStill orchestrator, ?_⟩
    rw [moved, DecisionRow.targetGeneration, DecisionRow.targetGeneration, epoch, generation]
  | resumed operationId =>
    obtain ⟨row, found, kernel, orchestrator, moved, receipt, stored, receipted⟩ := explained
    obtain ⟨kept, stays, epoch, generation, kernelStill, orchestratorStill⟩ :=
      keeps.decisions operationId row found
    refine ⟨kept, stays, kernelStill kernel, orchestratorStill orchestrator, ?_, receipt,
      resumes receipt stored, receipted⟩
    rw [moved, DecisionRow.targetGeneration, DecisionRow.targetGeneration, epoch, generation]
  | fenced operationId =>
    obtain ⟨paused, row, found, written⟩ := explained
    exact ⟨paused, keeps.fences operationId row control found written⟩

structure CrossStores.Fenced (stores : CrossStores) (row : FenceRow) : Prop where
  own : row.runId = stores.store.runId
  epoch : row.kernelEpoch ≤ stores.kernel.control.epoch
  unsettled : row.kernelReceipt = none → row.orchestratorReceipt = none
  settled : ∀ receipt, row.kernelReceipt = some receipt →
    receipt = ⟨row.operationId, stores.store.runId, row.generation, row.kernelEpoch,
      row.kernelEpoch + 1, .cancellationFence⟩ ∧
    receipt ∈ stores.kernel.receipts ∧
    row.orchestratorReceipt = some ⟨.paused, receipt.controlEpoch, receipt.generation⟩ ∧
    receipt.controlEpoch ≤ stores.store.control.epoch

/-- The transition that a step of the orchestrator's store inserts. -/
structure CrossStores.Inserts (before after : CrossStores) (origin : ManagedControl)
    (entry : ControlEntry) : Prop where
  control : after.store.control = entry.control
  transitions : after.store.transitions = before.store.transitions ++ [entry]
  later : before.store.control.epoch < entry.control.epoch
  explained : after.Explains origin entry
  pausing : entry.control.state = .pausing →
    entry.control.generation = before.store.control.generation
  shown : entry.control.state ≠ .pausing → entry.control ∈ before.committed

/-- What a transaction of the orchestrator's store may do. -/
structure CrossStores.Writes (before after : CrossStores) (origin : ManagedControl) : Prop where
  kernel : after.kernel = before.kernel
  committed : after.committed = before.committed
  sameRun : after.store.runId = before.store.runId
  keeps : before.store.Keeps after.store
  moves : (after.store.control = before.store.control ∧
      after.store.transitions = before.store.transitions) ∨
    ∃ entry, before.Inserts after origin entry
  fences : (∀ row ∈ before.store.fences, before.Fenced row) →
    ∀ row ∈ after.store.fences, after.Fenced row
namespace ControlStore.Keeps

variable {before after : ControlStore}

theorem operation {changed : ControlOperation}
    (same : ∀ row, before.operations.find? changed.operationId = some row →
      changed.sourceEpoch = row.sourceEpoch ∧ changed.generation = row.generation ∧
        (row.orchestratorPaused = true → changed.orchestratorPaused = true))
    (operations : after.operations = before.operations.put changed)
    (decisions : after.decisions = before.decisions) (fences : after.fences = before.fences) :
    before.Keeps after where
  operations name row found := by
    rw [operations, find?_put]
    by_cases own : name = changed.operationId
    · subst own
      exact ⟨changed, if_pos rfl, same row found⟩
    · exact ⟨row, by rw [if_neg own]; exact found, rfl, rfl, id⟩
  decisions name row found := ⟨row, by rw [decisions]; exact found, rfl, rfl, id, id⟩
  fences name row _ found written := ⟨row, by rw [fences]; exact found, written⟩

theorem decision {changed : DecisionRow}
    (same : ∀ row, before.decisions.find? changed.operationId = some row →
      changed.sourceEpoch = row.sourceEpoch ∧
        changed.sourceGeneration = row.sourceGeneration ∧
        (row.kernelInstalled = true → changed.kernelInstalled = true) ∧
        (row.orchestratorInstalled = true → changed.orchestratorInstalled = true))
    (decisions : after.decisions = before.decisions.put changed)
    (operations : after.operations = before.operations) (fences : after.fences = before.fences) :
    before.Keeps after where
  operations name row found := ⟨row, by rw [operations]; exact found, rfl, rfl, id⟩
  decisions name row found := by
    rw [decisions, find?_put]
    by_cases own : name = changed.operationId
    · subst own
      exact ⟨changed, if_pos rfl, same row found⟩
    · exact ⟨row, by rw [if_neg own]; exact found, rfl, rfl, id, id⟩
  fences name row _ found written := ⟨row, by rw [fences]; exact found, written⟩

theorem fence {changed : FenceRow}
    (same : ∀ row fenced, before.fences.find? changed.operationId = some row →
      row.orchestratorReceipt = some fenced → changed.orchestratorReceipt = some fenced)
    (fences : after.fences = before.fences.put changed)
    (operations : after.operations = before.operations)
    (decisions : after.decisions = before.decisions) : before.Keeps after where
  operations name row found := ⟨row, by rw [operations]; exact found, rfl, rfl, id⟩
  decisions name row found := ⟨row, by rw [decisions]; exact found, rfl, rfl, id, id⟩
  fences name row fenced found written := by
    rw [fences, find?_put]
    by_cases own : name = changed.operationId
    · subst own
      exact ⟨changed, if_pos rfl, same row fenced found written⟩
    · exact ⟨row, by rw [if_neg own]; exact found, written⟩

theorem same (operations : after.operations = before.operations)
    (decisions : after.decisions = before.decisions) (fences : after.fences = before.fences) :
    before.Keeps after where
  operations name row found := ⟨row, by rw [operations]; exact found, rfl, rfl, id⟩
  decisions name row found := ⟨row, by rw [decisions]; exact found, rfl, rfl, id, id⟩
  fences name row _ found written := ⟨row, by rw [fences]; exact found, written⟩

end ControlStore.Keeps

namespace CrossStores

variable {stores : CrossStores} {store : ControlStore} {origin : ManagedControl}

theorem Fenced.mono {before after : CrossStores} {row : FenceRow} (fenced : before.Fenced row)
    (sameRun : after.store.runId = before.store.runId)
    (kernel : before.kernel.control.epoch ≤ after.kernel.control.epoch)
    (receipts : ∀ receipt ∈ before.kernel.receipts, receipt ∈ after.kernel.receipts)
    (control : before.store.control.epoch ≤ after.store.control.epoch) : after.Fenced row where
  own := fenced.own.trans sameRun.symm
  epoch := fenced.epoch.trans kernel
  unsettled := fenced.unsettled
  settled receipt written := by
    obtain ⟨shape, stored, local_, reached⟩ := fenced.settled receipt written
    exact ⟨by rw [sameRun]; exact shape, receipts receipt stored, local_, reached.trans control⟩

theorem Writes.still (keeps : stores.store.Keeps store) (sameRun : store.runId = stores.store.runId)
    (control : store.control = stores.store.control)
    (transitions : store.transitions = stores.store.transitions)
    (fences : store.fences = stores.store.fences) :
    stores.Writes { stores with store } origin where
  kernel := rfl
  committed := rfl
  sameRun := sameRun
  keeps := keeps
  moves := Or.inl ⟨control, transitions⟩
  fences held row stored := by
    refine (held row (fences ▸ stored)).mono sameRun (le_refl _) (fun _ kept => kept) ?_
    exact le_of_eq (congrArg ManagedControl.epoch control.symm)

theorem Writes.refl : stores.Writes { stores with store := stores.store } origin :=
  .still (.refl _) rfl rfl rfl rfl

theorem Writes.moved {entry : ControlEntry} (keeps : stores.store.Keeps store)
    (sameRun : store.runId = stores.store.runId) (fences : store.fences = stores.store.fences)
    (inserts : stores.Inserts { stores with store } origin entry) :
    stores.Writes { stores with store } origin where
  kernel := rfl
  committed := rfl
  sameRun := sameRun
  keeps := keeps
  moves := Or.inr ⟨entry, inserts⟩
  fences held row stored := by
    refine (held row (fences ▸ stored)).mono sameRun (le_refl _) (fun _ kept => kept) ?_
    show stores.store.control.epoch ≤ store.control.epoch
    have control : store.control = entry.control := inserts.control
    rw [control]
    exact inserts.later.le

/-! ### Pause -/

variable {operationId : Identifier}

theorem Writes.begin (fresh : stores.store.operations.find? operationId = none) :
    stores.Writes { stores with store := stores.store.begin operationId stores.store.control.epoch }
      origin := by
  refine .moved (.operation (fun row found => ?_) rfl rfl rfl) rfl rfl
    { control := rfl, transitions := rfl, later := Nat.lt_succ_self _
      explained := ⟨_, find?_put_same _ _, rfl⟩, pausing := fun _ => rfl, shown := nofun }
  cases fresh.symm.trans found

variable {expectedRevision expectedEpoch generation : ℕ} {receipt : ControlReceipt}
  {gate : ManagedControl} {activationId : Identifier}

theorem beginCrossStorePause_writes
    (begun : stores.store.beginCrossStorePause operationId expectedRevision expectedEpoch =
      .ok store) : stores.Writes { stores with store } origin := by
  unfold ControlStore.beginCrossStorePause at begun
  split at begun
  · simp only [passes_iff] at begun
    obtain ⟨-, ⟨⟩⟩ := begun
    exact .refl
  · rename_i fresh
    simp only [passes_iff] at begun
    obtain ⟨-, ⟨-, rfl⟩, -, ⟨⟩⟩ := begun
    exact .begin fresh

theorem beginAdoptedCrossStorePause_writes {adoptionId : Identifier} {sourceRevision : ℕ}
    (begun : stores.store.beginAdoptedCrossStorePause adoptionId sourceRevision generation =
      .ok store) : stores.Writes { stores with store } origin := by
  unfold ControlStore.beginAdoptedCrossStorePause at begun
  split at begun
  · cases begun
    exact .refl
  · rename_i fresh
    simp only [passes_iff] at begun
    obtain ⟨⟨-, -, current⟩, ⟨⟩⟩ := begun
    have epoch : 0 = stores.store.control.epoch := by rw [current]
    rw [epoch]
    exact .begin fresh

theorem advanceCrossStorePause_writes
    (recorded : stores.store.advanceCrossStorePause operationId receipt = .ok store) :
    stores.Writes { stores with store } origin := by
  simp only [ControlStore.advanceCrossStorePause, passes_iff] at recorded
  obtain ⟨operation, found, -, -, ⟨⟩⟩ := recorded
  have own := key_of_find? found
  refine .still (.operation (fun row stored => ?_) rfl rfl rfl) rfl rfl rfl rfl
  cases found.symm.trans (own ▸ stored)
  exact ⟨rfl, rfl, id⟩

theorem completeCrossStorePauseParticipant_writes
    (recorded : stores.store.completeCrossStorePauseParticipant operationId receipt =
      .ok store) : stores.Writes { stores with store } origin := by
  simp only [ControlStore.completeCrossStorePauseParticipant, passes_iff] at recorded
  obtain ⟨operation, found, -, -, -, ⟨⟩⟩ := recorded
  have own := key_of_find? found
  refine .still (.operation (fun row stored => ?_) rfl rfl rfl) rfl rfl rfl rfl
  cases found.symm.trans (own ▸ stored)
  exact ⟨rfl, rfl, id⟩

theorem prepareCrossStorePause_writes
    (prepared : stores.store.prepareCrossStorePause operationId gate = .ok store) :
    stores.Writes { stores with store } origin := by
  simp only [ControlStore.prepareCrossStorePause, passes_iff] at prepared
  obtain ⟨operation, found, -, -, -, ⟨⟩⟩ := prepared
  have own := key_of_find? found
  refine .still (.operation (fun row stored => ?_) rfl rfl rfl) rfl rfl rfl rfl
  cases found.symm.trans (own ▸ stored)
  exact ⟨rfl, rfl, id⟩

theorem finalizeCrossStorePause_writes (shown : gate ∈ stores.committed)
    (finalized : stores.store.finalizeCrossStorePause operationId gate = .ok store) :
    stores.Writes { stores with store } origin := by
  simp only [ControlStore.finalizeCrossStorePause, bind_eq_ok, check_eq_ok,
    present_eq_ok, exists_const] at finalized
  obtain ⟨operation, found, -, finalized⟩ := finalized
  obtain rfl := key_of_find? found
  split at finalized
  · cases finalized
    exact .refl
  · simp only [passes_iff] at finalized
    obtain ⟨rfl, current, ⟨⟩⟩ := finalized
    refine .moved (.operation (fun row stored => ?_) rfl rfl rfl) rfl rfl
      { control := rfl, transitions := rfl
        later := by rw [current]; exact Nat.lt_succ_self _
        explained := ⟨_, find?_put_same _ _, rfl, rfl⟩, pausing := by rintro ⟨⟩
        shown := fun _ => shown }
    cases found.symm.trans stored
    exact ⟨rfl, rfl, fun _ => rfl⟩

/-! ### Revision -/

theorem commitCrossStoreRevision_writes {expectedGeneration : ℕ}
    (decided : stores.store.commitCrossStoreRevision operationId expectedRevision expectedEpoch
      expectedGeneration gate = .ok store) : stores.Writes { stores with store } origin := by
  simp only [ControlStore.commitCrossStoreRevision, passes_iff] at decided
  obtain ⟨-, operation, -, -, -, fresh, -, ⟨⟩⟩ := decided
  refine .still (.decision (fun row stored => ?_) rfl rfl rfl) rfl rfl rfl rfl
  have none : stores.store.decisions.find? operationId = none := by simpa using fresh
  cases none.symm.trans stored

theorem installCrossStoreRevision_writes {receipt : InstallEnvelope}
    (recorded : stores.store.installCrossStoreRevision operationId receipt = .ok store) :
    stores.Writes { stores with store } origin := by
  simp only [ControlStore.installCrossStoreRevision, bind_eq_ok,
    present_eq_ok] at recorded
  obtain ⟨decision, found, recorded⟩ := recorded
  have own := key_of_find? found
  split at recorded
  · cases recorded
    exact .refl
  · simp only [passes_iff] at recorded
    obtain ⟨-, -, ⟨⟩⟩ := recorded
    refine .still (.decision (fun row stored => ?_) rfl rfl rfl) rfl rfl rfl rfl
    cases found.symm.trans (own ▸ stored)
    exact ⟨rfl, rfl, fun _ => rfl, id⟩

theorem installCrossStoreProjection_writes (shown : gate ∈ stores.committed)
    (installed : stores.store.installCrossStoreProjection operationId gate = .ok store) :
    stores.Writes { stores with store } origin := by
  simp only [ControlStore.installCrossStoreProjection, bind_eq_ok, check_eq_ok,
    present_eq_ok, exists_const] at installed
  obtain ⟨decision, found, kernel, rfl, installed⟩ := installed
  obtain rfl := key_of_find? found
  split at installed
  · cases installed
    exact .refl
  · simp only [passes_iff] at installed
    obtain ⟨⟨current, -⟩, ⟨⟩⟩ := installed
    refine .moved (.decision (fun row stored => ?_) rfl rfl rfl) rfl rfl
      { control := rfl, transitions := rfl
        later := by rw [current]; exact Nat.lt_succ_self _
        explained := ⟨_, find?_put_same _ _, kernel, rfl, rfl⟩, pausing := by rintro ⟨⟩
        shown := fun _ => shown }
    cases found.symm.trans stored
    exact ⟨rfl, rfl, id, fun _ => rfl⟩

variable {decisionId : Identifier}

theorem installedDecision_eq_ok {decision : DecisionRow} :
    store.installedDecision decisionId = .ok decision ↔
      store.decisions.find? decisionId = some decision ∧ decision.kernelInstalled = true ∧
        decision.orchestratorInstalled = true := by
  simp only [ControlStore.installedDecision, bind_eq_ok, check_eq_ok, present_eq_ok,
    exists_const, pure, Except.pure, Except.ok.injEq]
  constructor
  · rintro ⟨found, stored, installed, rfl⟩
    exact ⟨stored, installed⟩
  · rintro ⟨stored, installed⟩
    exact ⟨decision, stored, installed, rfl⟩

theorem intendActivation_writes
    (intended : stores.store.intendActivation decisionId operationId = .ok store) :
    stores.Writes { stores with store } origin := by
  simp only [ControlStore.intendActivation, bind_eq_ok, check_eq_ok,
    exists_const] at intended
  obtain ⟨decision, -, -, intended⟩ := intended
  split at intended
  · simp only [passes_iff] at intended
    obtain ⟨-, ⟨⟩⟩ := intended
    exact .refl
  · cases intended
    exact .still (.same rfl rfl rfl) rfl rfl rfl rfl

theorem activateCrossStoreRevision_writes {receipt : ActivationEnvelope}
    (activated : stores.store.activateCrossStoreRevision decisionId operationId receipt =
      .ok store) : stores.Writes { stores with store } origin := by
  simp only [ControlStore.activateCrossStoreRevision, passes_iff] at activated
  obtain ⟨decision, -, old, -, -, ⟨⟩⟩ := activated
  exact .still (.same rfl rfl rfl) rfl rfl rfl rfl

theorem intendResume_writes
    (intended : stores.store.intendResume activationId operationId = .ok store) :
    stores.Writes { stores with store } origin := by
  simp only [ControlStore.intendResume, bind_eq_ok, check_eq_ok,
    exists_const] at intended
  obtain ⟨decision, -, -, intended⟩ := intended
  split at intended
  · simp only [passes_iff] at intended
    obtain ⟨-, ⟨⟩⟩ := intended
    exact .refl
  · cases intended
    exact .still (.same rfl rfl rfl) rfl rfl rfl rfl

theorem resumeCrossStoreRevision_writes {receipt : ResumeEnvelope}
    (answered : receipt ∈ stores.kernel.resumes) (shown : gate ∈ stores.committed)
    (resumed : stores.store.resumeCrossStoreRevision activationId operationId receipt gate =
      .ok store) : stores.Writes { stores with store } origin := by
  simp only [ControlStore.resumeCrossStoreRevision, ControlStore.activatedDecision,
    bind_eq_ok, check_eq_ok, present_eq_ok, exists_const,
    installedDecision_eq_ok] at resumed
  obtain ⟨decision, ⟨activation, -, -, found, kernel, orchestrator⟩, rfl, -, current, -,
    ⟨-, rfl⟩, resumed⟩ := resumed
  split at resumed
  · simp only [passes_iff] at resumed
    obtain ⟨-, ⟨⟩⟩ := resumed
    exact .refl
  · simp only [passes_iff] at resumed
    obtain ⟨before, ⟨⟩⟩ := resumed
    have own := key_of_find? found
    exact .moved (.same rfl rfl rfl) rfl rfl
      { control := rfl, transitions := rfl
        later := by rw [before]; exact Nat.lt_succ_self _
        explained := ⟨decision, by rw [own]; exact found, kernel, orchestrator, rfl, _, answered,
          rfl, rfl, rfl⟩
        pausing := by rintro ⟨⟩
        shown := fun _ => shown }

/-! ### Cancellation -/

variable {kernelEpoch : ℕ}

theorem recordFence_writes (reached : gate.epoch ≤ stores.kernel.control.epoch)
    (recorded : stores.store.recordFence operationId gate = .ok (kernelEpoch, store)) :
    stores.Writes { stores with store } origin := by
  simp only [ControlStore.recordFence, bind_eq_ok, check_eq_ok, exists_const] at recorded
  obtain ⟨-, recorded⟩ := recorded
  split at recorded
  · rename_i fresh
    cases recorded
    exact
      { kernel := rfl
        committed := rfl
        sameRun := rfl
        keeps := .fence (fun row _ stored => by cases fresh.symm.trans stored) rfl rfl rfl
        moves := Or.inl ⟨rfl, rfl⟩
        fences := fun held row stored => by
          rcases mem_put.mp stored with rfl | ⟨before, -⟩
          · exact ⟨rfl, reached, fun _ => rfl, by rintro _ ⟨⟩⟩
          · exact (held row before).mono rfl (le_refl _) (fun _ kept => kept) (le_refl _) }
  · simp only [passes_iff] at recorded
    obtain ⟨-, -, ⟨⟩⟩ := recorded
    exact .refl

theorem readjustFence_writes (operationId : Identifier) {latest : ManagedControl}
    (reached : latest.epoch ≤ stores.kernel.control.epoch) :
    stores.Writes { stores with store := stores.store.readjustFence operationId latest }
      origin := by
  unfold ControlStore.readjustFence
  split
  · rename_i record found
    split
    · rename_i unsettled
      have open_ : record.kernelReceipt = none := by simpa using unsettled
      have own := key_of_find? found
      exact
        { kernel := rfl
          committed := rfl
          sameRun := rfl
          keeps := .fence (fun row fenced stored written => by
            cases found.symm.trans (own ▸ stored)
            exact written) rfl rfl rfl
          moves := Or.inl ⟨rfl, rfl⟩
          fences := fun held row stored => by
            rcases mem_put.mp stored with rfl | ⟨before, -⟩
            · have settled := held record (mem_of_find? found)
              refine ⟨settled.own, reached, settled.unsettled, fun receipt written => ?_⟩
              cases open_.symm.trans written
            · exact (held row before).mono rfl (le_refl _) (fun _ kept => kept) (le_refl _) }
    · exact .refl
  · exact .refl
theorem settleFence_writes (held : ∀ row ∈ stores.store.fences, stores.Fenced row)
    (called : ∃ record ∈ stores.store.fences, record.operationId = operationId ∧
      record.generation = generation) (answered : receipt ∈ stores.kernel.receipts)
    (shown : receipt.runId = stores.store.runId → receipt.fact = .cancellationFence →
      (⟨.paused, receipt.controlEpoch, receipt.generation⟩ : ManagedControl) ∈ stores.committed)
    (settled : stores.store.settleFence operationId generation kernelEpoch receipt = .ok store) :
    stores.Writes { stores with store } origin := by
  simp only [ControlStore.settleFence, bind_eq_ok, check_eq_ok, present_eq_ok,
    exists_const] at settled
  obtain ⟨shape, record, found, ⟨epoch, level, reached⟩, settled⟩ := settled
  obtain rfl := key_of_find? found
  have row := held record (mem_of_find? found)
  have same : record.generation = generation := by
    obtain ⟨other, stored, named, generated⟩ := called
    rw [← eq_of_key_eq stored (mem_of_find? found) named]
    exact generated
  subst same
  split at settled
  · simp only [passes_iff] at settled
    obtain ⟨-, ⟨⟩⟩ := settled
    exact .refl
  · rename_i unwritten
    have blank : record.orchestratorReceipt = none := by simpa using unwritten
    simp only [passes_iff] at settled
    obtain ⟨-, ⟨⟩⟩ := settled
    have committed := shown (by rw [shape]) (by rw [shape])
    -- The row as it is written, whether or not the control moves.
    have written (after : CrossStores) (kernel : after.kernel = stores.kernel)
        (sameRun : after.store.runId = stores.store.runId)
        (control : receipt.controlEpoch ≤ after.store.control.epoch) :
        after.Fenced { record with
          kernelReceipt := some receipt
          orchestratorReceipt := some ⟨.paused, receipt.controlEpoch, record.generation⟩ } := by
      refine ⟨row.own.trans sameRun.symm, kernel ▸ row.epoch, by rintro ⟨⟩, ?_⟩
      rintro _ ⟨⟩
      refine ⟨by rw [sameRun, epoch]; exact shape, kernel ▸ answered, ?_, control⟩
      rw [shape]
    have keeps : stores.store.Keeps
        { (if stores.store.control.epoch < receipt.controlEpoch then
            stores.store.move ⟨.paused, receipt.controlEpoch, record.generation⟩
              (.fenced record.operationId)
          else stores.store) with
          fences := stores.store.fences.put { record with
            kernelReceipt := some receipt
            orchestratorReceipt :=
              some ⟨.paused, receipt.controlEpoch, record.generation⟩ } } := by
      refine .fence (fun other fenced stored noted => ?_) rfl ?_ ?_
      · cases found.symm.trans stored
        cases blank.symm.trans noted
      all_goals
        dsimp only
        split <;> rfl
    by_cases behind : stores.store.control.epoch < receipt.controlEpoch
    · simp only [if_pos behind] at keeps ⊢
      have generation : receipt.generation = record.generation := by rw [shape]
      exact
        { kernel := rfl
          committed := rfl
          sameRun := rfl
          keeps
          moves := Or.inr
            ⟨⟨⟨.paused, receipt.controlEpoch, record.generation⟩, .fenced record.operationId⟩,
              { control := rfl, transitions := rfl, later := behind
                explained := ⟨rfl, _, find?_put_same _ _, rfl⟩, pausing := by rintro ⟨⟩
                shown := fun _ => generation ▸ committed }⟩
          fences := fun _ other stored => by
            rcases mem_put.mp stored with rfl | ⟨before, -⟩
            · exact written _ rfl rfl (le_refl _)
            · exact (held other before).mono rfl (le_refl _) (fun _ kept => kept) behind.le }
    · simp only [if_neg behind] at keeps ⊢
      exact
        { kernel := rfl
          committed := rfl
          sameRun := rfl
          keeps
          moves := Or.inl ⟨rfl, rfl⟩
          fences := fun _ other stored => by
            rcases mem_put.mp stored with rfl | ⟨before, -⟩
            · exact written _ rfl rfl (not_lt.mp behind)
            · exact (held other before).mono rfl (le_refl _) (fun _ kept => kept) (le_refl _) }

end CrossStores

end DispatcherSdk.Orchestrator
