/-
This file models the control of a managed Run: its registration, its epochs, its pause, the
fence behind which a cancelled Run stays, its revisions and how it is resumed.

A local pause first lets nothing through but the executions of its drain set, and later closes
that too; as long as a receipt is not resolved by a resume, no other operation moves the
control. The bound on the size of a stored receipt is left out: the modelled steps accept at
least what the code accepts.
-/

import DispatcherSdk.ExecutionKernel.Submission

namespace DispatcherSdk.ExecutionKernel

open Library Library.Attempt

/-! ### Registration and epochs -/

/-- The executions that may still drain while a Run is pausing, in order. -/
def Database.drainMembers (database : Database) (runId : Identifier) : List Identifier :=
  ((database.managedExecutions.rows.filter fun member =>
    member.runId = runId && member.drainAllowed).map (·.executionId)).insertionSort
      fun left right => left.text ≤ right.text

/-- `_run_control_value`: a control with its drain set. -/
structure ControlSnapshot where
  control : RunControl
  drainIds : List Identifier

/-- `_run_control_snapshot`. -/
def Database.controlSnapshot (database : Database) (runId : Identifier) : Option ControlSnapshot :=
  (database.runControls.find? runId).map fun control =>
    ⟨control, database.drainMembers runId⟩

def writeControl (control : RunControl) : KernelM Unit :=
  KernelM.modify fun database =>
    { database with runControls := database.runControls.put control }

/-- The error for a Run that has no control. -/
def unregisteredRun (runId : Identifier) : KernelError :=
  { kind := .executionNotFound
    message := "managed Run control '" ++ runId.text ++ "' is not registered" }

/-- The snapshot of a control that is stored. -/
def controlSnapshot (runId : Identifier) : KernelM ControlSnapshot := do
  let database ← KernelM.database
  expect (database.controlSnapshot runId) (unregisteredRun runId)

/-- `register_run_control_in_transaction`. -/
def registerRunControlBody (runId : Identifier) (maxClaims : ℕ) (deadlineAt : Timestamp) :
    KernelM ControlSnapshot := do
  require (maxClaims ≤ maxSqliteInteger) (.value "max_claims must be a non-negative SQLite integer")
  let database ← KernelM.database
  match database.controlSnapshot runId with
  | some current => do
    require (current.control.maxClaims = maxClaims ∧ current.control.deadlineAt = deadlineAt)
      (.idempotencyConflict "managed Run was registered with different budget limits")
    return current
  | none => do
    writeControl
      { runId, controlEpoch := 0, generation := 0, state := .paused, maxClaims, claimsUsed := 0
        deadlineAt }
    controlSnapshot runId

def registerRunControl (runId : Identifier) (maxClaims : ℕ) (deadlineAt : Timestamp)
    (environment : Environment) (state : KernelState) :
    Except KernelError ControlSnapshot × KernelState :=
  transaction (fun _ => registerRunControlBody runId maxClaims deadlineAt) environment state

/-- A transaction that the caller owns and rolls back when the kernel's part fails. It does not
observe the clock. -/
def sharedTransaction {Answer : Type} (body : KernelM Answer) (environment : Environment)
    (state : KernelState) : Except KernelError Answer × KernelState :=
  match body.run environment (openFrame state state.watermark 0) with
  | (.ok answer, frame) =>
    settleStorage environment.fault state ⟨frame.database, frame.session.watermark⟩ (.ok answer)
  | (.error failure, _) => (.error failure, state)

/-- The logical time, which is not written back. -/
def peekTime : Probe Timestamp := do
  let wall ← Probe.wallTime
  let session ← look
  return max wall session.watermark

/-- Set or clear the drain flag of the members that a condition selects. -/
def Database.markDrain (database : Database) (selects : ManagedExecution → Bool)
    (allowed : Bool) : Database :=
  { database with
    managedExecutions := database.managedExecutions.update
      (fun member => if selects member then { member with drainAllowed := allowed } else member)
      fun member => by split <;> rfl }

/-- A member of a Run and generation whose execution is named. -/
def ManagedExecution.among (member : ManagedExecution) (runId : Identifier) (generation : ℕ)
    (executionIds : List Identifier) : Bool :=
  decide (member.runId = runId) && decide (member.generation = generation) &&
    executionIds.contains member.executionId

/-- What `set_run_control` is asked for. -/
structure ControlRequest where
  runId : Identifier
  expectedEpoch : ℕ
  state : ControlState
  generation : ℕ
  drainIds : List Identifier

/-- The checks of `set_run_control_in_transaction` on its arguments. -/
def ControlRequest.check (request : ControlRequest) : Except KernelError Unit := do
  ensure (request.expectedEpoch < maxSqliteInteger) (.value "expected_epoch cannot be advanced")
  ensure (request.generation ≤ maxSqliteInteger)
    (.value "generation must be a non-negative SQLite integer")
  ensure request.drainIds.Nodup (.value "drain_execution_ids must not contain duplicates")
  ensure (request.state ≠ .pausing → request.drainIds = [])
    (.value "drain_execution_ids are only valid while pausing")

/-- The change that `set_run_control_in_transaction` makes. -/
def Database.withControl (database : Database) (control : RunControl)
    (request : ControlRequest) : Database :=
  let moved :=
    { database with
      runControls := database.runControls.put
        { control with
          controlEpoch := request.expectedEpoch + 1
          generation := request.generation
          state := request.state } }
  let cleared := moved.markDrain (fun member => member.runId = request.runId) false
  cleared.markDrain
    (fun member => member.among request.runId request.generation request.drainIds) true

/-- `set_run_control_in_transaction`. -/
def setRunControlBody (request : ControlRequest) : KernelM ControlSnapshot := do
  lift request.check
  let time ← KernelM.probe peekTime
  KernelM.probe (checkControlAuthority request.runId "control" time)
  let database ← KernelM.database
  require (database.hasUnresolvedControlBarrier request.runId = false)
    (.casConflict "managed Run has an unresolved local pause barrier")
  require (request.state = .active → (database.runAuthorities.find? request.runId).isNone)
    (.casConflict "protected Run activation is not yet supported")
  let current ← expect (database.controlSnapshot request.runId) (unregisteredRun request.runId)
  let drainIds := request.drainIds.insertionSort fun left right => left.text ≤ right.text
  if current.control.controlEpoch = request.expectedEpoch + 1 then do
    require (current.control.state = request.state ∧
        current.control.generation = request.generation ∧ current.drainIds = drainIds)
      (.casConflict "managed Run control epoch already has different content")
    return current
  else do
    require (current.control.controlEpoch = request.expectedEpoch)
      (.casConflict "managed Run control epoch changed")
    require (current.control.generation ≤ request.generation)
      (.value "managed Run generation cannot move backwards")
    require (∀ executionId ∈ request.drainIds,
        ∃ member ∈ database.managedExecutions.find? executionId,
          member.runId = request.runId ∧ member.generation = request.generation)
      (.value "each drain execution must already be registered to this Run and generation")
    KernelM.modify fun database => database.withControl current.control request
    controlSnapshot request.runId

def setRunControl (request : ControlRequest) (environment : Environment) (state : KernelState) :
    Except KernelError ControlSnapshot × KernelState :=
  transaction (fun _ => setRunControlBody request) environment state

/-! ### The cancellation fence -/

/-- What `fence_cancelled_run` is asked for. -/
structure FenceRequest where
  operationId : Identifier
  runId : Identifier
  expectedEpoch : ℕ
  generation : ℕ

/-- Revoke the authority over a Run, if it has one that is not revoked. -/
def Database.revokeAuthority (database : Database) (runId : Identifier) (timestamp : Timestamp) :
    Database :=
  { database with
    runAuthorities := database.runAuthorities.update
      (fun authority =>
        if authority.runId = runId ∧ authority.revokedAt = none then
          { authority with revokedAt := some timestamp }
        else authority)
      fun authority => by split <;> rfl }

def FenceRequest.receipt (request : FenceRequest) (storeId : Identifier)
    (timestamp : Timestamp) : PauseReceipt where
  operationId := request.operationId
  runId := request.runId
  generation := request.generation
  expectedEpoch := request.expectedEpoch
  controlEpoch := request.expectedEpoch + 1
  storeId := storeId
  fact := .cancellationFence timestamp

/-- The body of `fence_cancelled_run`. -/
def fenceCancelledRunBody (request : FenceRequest) (timestamp : Timestamp) :
    KernelM PauseReceipt := do
  let environment ← ask
  let authority ← KernelM.probe
    (verifiedAuthority environment.workerCredential request.runId "kernel:cancel" timestamp)
  let receipt ← record
  KernelM.probe (revalidateCancel request.runId authority)
  return receipt
where
  /-- The receipt of an earlier call, or the fence with a new one. -/
  record : KernelM PauseReceipt := do
    let database ← KernelM.database
    match database.pauseReceipts.find? request.operationId with
    | some receipt => do
      require (receipt.runId = request.runId ∧ receipt.expectedEpoch = request.expectedEpoch ∧
          receipt.generation = request.generation ∧ receipt.isCancellationFence = true ∧
          receipt.storeId = database.storeId)
        (.casConflict "cancellation operation already has different content")
      return receipt
    | none => do
      let changed := KernelError.casConflict "cancellation source control changed"
      let control ← expect (database.runControls.find? request.runId) changed
      require (control.generation = request.generation ∧
        control.controlEpoch = request.expectedEpoch) changed
      writeControl { control with state := .paused, controlEpoch := request.expectedEpoch + 1 }
      KernelM.modify fun database => database.revokeAuthority request.runId timestamp
      insertPauseReceipt (request.receipt database.storeId timestamp)
      return request.receipt database.storeId timestamp

def fenceCancelledRun (request : FenceRequest) (environment : Environment) (state : KernelState) :
    Except KernelError PauseReceipt × KernelState :=
  match do
    ensure (request.generation ≤ maxSqliteInteger)
      (.value "generation must be a non-negative SQLite integer")
    ensure (request.expectedEpoch < maxSqliteInteger) (.value "invalid control epoch") with
  | .error failure => (.error failure, state)
  | .ok () => transaction (fenceCancelledRunBody request) environment state

/-! ### The local pause -/

/-- What `prepare_control_pause` is asked for. -/
structure PauseRequest where
  operationId : Identifier
  runId : Identifier
  expectedEpoch : ℕ
  generation : ℕ
  drainExecutionIds : List Identifier
  orchestrator : Option OrchestratorIdentity
  adoption : Option Credential

namespace PauseRequest

/-- `sorted(set(drain_execution_ids))`. -/
def drainIds (request : PauseRequest) : List Identifier :=
  request.drainExecutionIds.eraseDups.insertionSort fun left right => left.text ≤ right.text

/-- The checks of `prepare_control_pause` on its arguments. -/
def check (arithmetic : FloatArithmetic) (request : PauseRequest) : Except KernelError Unit := do
  ensure (request.generation ≤ maxSqliteInteger)
    (.value "generation must be a non-negative SQLite integer")
  ensure (request.expectedEpoch < maxSqliteInteger) (.value "expected_epoch cannot be advanced")
  ensure (request.drainExecutionIds.length ≤ 128 ∧
      ∀ executionId ∈ request.drainExecutionIds, executionId.text.utf8ByteSize ≤ 4096)
    (.value "drain set must contain at most 128 bounded execution IDs")
  ensure ((Json.array (request.drainIds.map Identifier.toJson)).bytes arithmetic ≤ 65536)
    (.value "drain set exceeds its byte limit")
  ensure (∀ orchestrator ∈ request.orchestrator, orchestrator.storeId.text.utf8ByteSize ≤ 4096 ∧
        orchestrator.incarnation.text.utf8ByteSize ≤ 4096)
    (.value "invalid drain Orchestrator identity")

/-- The drain that a host has to authenticate for a pause of a protected Run. -/
def drainPause (request : PauseRequest) (storeId : Identifier) : Option DrainPause :=
  request.orchestrator.map fun orchestrator =>
    { operationId := request.operationId, runId := request.runId
      generation := request.generation, controlEpoch := request.expectedEpoch + 1
      kernelStoreId := storeId, orchestrator, drainIds := request.drainIds }

def receipt (request : PauseRequest) (storeId : Identifier) (control : RunControl)
    (timestamp : Timestamp) : PauseReceipt where
  operationId := request.operationId
  runId := request.runId
  generation := request.generation
  expectedEpoch := request.expectedEpoch
  controlEpoch := request.expectedEpoch + 1
  storeId := storeId
  fact := .pauseBarrier timestamp control.claimsUsed control.maxClaims control.deadlineAt
    request.drainIds request.orchestrator

end PauseRequest

/-- `verify_adoption`: the host attests the completed import that the pause belongs to. -/
def verifyAdoption (request : PauseRequest) (credential : Credential) : Probe Unit := do
  let refusal := KernelError.storageIsolation "host did not authenticate completed legacy adoption"
  masking refusal do
    let proof ← askHost (some credential) refusal
    let manifest ← expect proof.adoption refusal
    let database ← Probe.database
    let page ← expect
      (latestPage <| database.legacyImportPages.filter fun page =>
        page.adoption.operationId = request.operationId) refusal
    let now ← Probe.advanceClock
    require (page.adoption.identity = manifest.identity ∧ page.captureComplete = true ∧
        manifest.operationId = request.operationId ∧ manifest.runId = request.runId ∧
        manifest.generation = request.generation ∧ request.expectedEpoch = 0 ∧
        manifest.isolationHeld = true ∧ now < manifest.isolationExpiresAt ∧
        now < proof.expiresAt ∧ proof.permits request.runId "kernel:import_legacy" = true)
      refusal

/-- `verify_adoption`, if the pause adopts an imported Run. -/
def verifyAdopted (request : PauseRequest) : Probe Unit :=
  match request.adoption with
  | none => pure ()
  | some credential => verifyAdoption request credential

/-- The error for a drain that the host does not attest. -/
def unattestedDrain : KernelError :=
  .storageIsolation "host did not authenticate the drain pause"

def verifyDrainPause (runId : Identifier) (expected : Option DrainPause) : Probe Unit := do
  let environment ← Probe.environment
  let now ← Probe.advanceClock
  let authority ← verifiedAuthority environment.workerCredential runId "kernel:pause" now
  masking unattestedDrain do
    let proof ← askHost environment.workerCredential unattestedDrain
    require (expected.isSome ∧ proof.drainPause = expected ∧ proof.principal = authority.1 ∧
      proof.expiresAt = authority.2 ∧ proof.permits runId "kernel:pause" = true) unattestedDrain
    let later ← Probe.advanceClock
    require (later < authority.2) unattestedDrain

/-- `verify_drain_pause`, if the Run is protected and something is to drain. -/
def verifyProtectedDrain (request : PauseRequest) (expected : Option DrainPause) :
    Probe Unit := do
  let database ← Probe.database
  if (database.runAuthorities.find? request.runId).isSome ∧ request.drainIds ≠ [] then
    verifyDrainPause request.runId expected
  else return ()

def replayPause (request : PauseRequest) (receipt : PauseReceipt) : KernelM PauseReceipt := do
  require (receipt.runId = request.runId ∧ receipt.expectedEpoch = request.expectedEpoch ∧
      receipt.generation = request.generation ∧ receipt.isPauseBarrier = true ∧
      receipt.drainIds = request.drainIds ∧ receipt.orchestrator = request.orchestrator)
    (.casConflict "pause operation id already identifies another request")
  let database ← KernelM.database
  let expected :=
    if database.storeId = receipt.storeId then request.drainPause receipt.storeId else none
  KernelM.probe (masking unattestedDrain (verifyProtectedDrain request expected))
  return receipt

def openBarrier (request : PauseRequest) (timestamp : Timestamp) : KernelM PauseReceipt := do
  let database ← KernelM.database
  require (database.hasUnresolvedControlBarrier request.runId = false)
    (.casConflict "managed Run already has a local pause barrier")
  let control ← expect (database.runControls.find? request.runId) (unregisteredRun request.runId)
  let source : ControlState := if request.adoption.isSome then .paused else .active
  require (control.controlEpoch = request.expectedEpoch ∧
      control.generation = request.generation ∧ control.state = source)
    (.casConflict "managed Run control changed before local pause")
  require ((database.runAuthorities.find? request.runId).isSome ∧ request.drainIds ≠ [] →
      request.orchestrator.isSome)
    (.storageIsolation "protected drain requires the authenticated Orchestrator identity")
  let expected := request.drainPause database.storeId
  KernelM.probe (verifyProtectedDrain request expected)
  require (∀ executionId ∈ request.drainIds,
      (∃ member ∈ database.managedExecutions.find? executionId,
        member.runId = request.runId ∧ member.generation = request.generation) ∧
      ∃ row ∈ database.executions.find? executionId,
        row.state ∈ [ExecutionState.queued, .leased, .running])
    (.casConflict "drain set contains an unaccepted or ineligible execution")
  KernelM.modify fun database => database.markDrain
    (fun member => member.among request.runId request.generation request.drainIds) true
  writeControl { control with controlEpoch := request.expectedEpoch + 1, state := .pausing }
  insertPauseReceipt (request.receipt database.storeId control timestamp)
  KernelM.probe (verifyProtectedDrain request expected)
  KernelM.probe (verifyAdopted request)
  return request.receipt database.storeId control timestamp

/-- The body of `prepare_control_pause`. -/
def prepareControlPauseBody (request : PauseRequest) (timestamp : Timestamp) :
    KernelM PauseReceipt := do
  KernelM.probe (checkControlAuthority request.runId "pause" timestamp)
  require (request.adoption.isSome → request.drainIds = [])
    (.storageIsolation "adoption pause cannot authorize a drain")
  KernelM.probe (verifyAdopted request)
  let database ← KernelM.database
  match database.pauseReceipts.find? request.operationId with
  | some receipt => replayPause request receipt
  | none => openBarrier request timestamp

def prepareControlPause (request : PauseRequest) (environment : Environment)
    (state : KernelState) : Except KernelError PauseReceipt × KernelState :=
  match request.check environment.arithmetic with
  | .error failure => (.error failure, state)
  | .ok () => transaction (prepareControlPauseBody request) environment state

/-- What `complete_control_pause` is asked for. -/
structure CompletionRequest where
  operationId : Identifier
  barrierOperationId : Identifier
  runId : Identifier
  expectedEpoch : ℕ
  generation : ℕ

def CompletionRequest.receipt (request : CompletionRequest) (storeId : Identifier)
    (timestamp : Timestamp) : PauseReceipt where
  operationId := request.operationId
  runId := request.runId
  generation := request.generation
  expectedEpoch := request.expectedEpoch
  controlEpoch := request.expectedEpoch + 1
  storeId := storeId
  fact := .localPaused request.barrierOperationId timestamp

def closeBarrier (request : CompletionRequest) (timestamp : Timestamp) :
    KernelM PauseReceipt := do
  let database ← KernelM.database
  let missing := KernelError.casConflict "matching local pause barrier is missing"
  let barrier ← expect (database.pauseReceipts.find? request.barrierOperationId) missing
  require (barrier.runId = request.runId ∧ barrier.generation = request.generation) missing
  require (barrier.isPauseBarrier = true ∧ barrier.controlEpoch = request.expectedEpoch)
    (.casConflict "local pause barrier epoch changed")
  let changed := KernelError.casConflict "managed Run control changed before local pause completion"
  let control ← expect (database.runControls.find? request.runId) changed
  require (control.controlEpoch = request.expectedEpoch ∧
    control.generation = request.generation ∧ control.state = .pausing) changed
  KernelM.modify fun database => database.markDrain
    (fun member => member.among request.runId request.generation barrier.drainIds) false
  writeControl { control with state := .paused, controlEpoch := request.expectedEpoch + 1 }
  insertPauseReceipt (request.receipt barrier.storeId timestamp)
  return request.receipt barrier.storeId timestamp

/-- The body of `complete_control_pause`. -/
def completeControlPauseBody (request : CompletionRequest) (timestamp : Timestamp) :
    KernelM PauseReceipt := do
  KernelM.probe (checkControlAuthority request.runId "pause" timestamp)
  let database ← KernelM.database
  match database.pauseReceipts.find? request.operationId with
  | some receipt => do
    require (receipt.runId = request.runId ∧ receipt.expectedEpoch = request.expectedEpoch ∧
        receipt.generation = request.generation ∧
        receipt.barrierOperationId? = some request.barrierOperationId)
      (.casConflict "pause operation id already identifies another request")
    return receipt
  | none => closeBarrier request timestamp

def completeControlPause (request : CompletionRequest) (environment : Environment)
    (state : KernelState) : Except KernelError PauseReceipt × KernelState :=
  match do
    ensure (request.generation ≤ maxSqliteInteger)
      (.value "generation must be a non-negative SQLite integer")
    ensure (request.expectedEpoch < maxSqliteInteger)
      (.value "expected_epoch cannot be advanced") with
  | .error failure => (.error failure, state)
  | .ok () => transaction (completeControlPauseBody request) environment state

/-! ### What a host attests -/

/-- The principal and expiry of an answer that attests a document and permits an action on it. -/
def attested {Document : Type} [DecidableEq Document] (credential : Option Credential)
    (claim : Verification → Option Document) (document : Document) (subject : Identifier)
    (action : String) (refusal : KernelError) : Probe (Identifier × Timestamp) := do
  let answer ← askHost credential refusal
  require (claim answer = some document ∧ principalFits answer.principal ∧
    answer.permits subject action = true) refusal
  return (answer.principal, answer.expiresAt)

/-- The clock has not reached an expiry yet. -/
def requireUnexpired (expiry : Timestamp) (refusal : KernelError) : Probe Unit := do
  let now ← Probe.advanceClock
  require (now < expiry) refusal

/-- Read again what the host attested before, then check the worker's authority between two looks
at the clock. -/
def reattested {Document : Type} [DecidableEq Document] (credential : Credential)
    (claim : Verification → Option Document) (document : Document) (subject : Identifier)
    (action : String) (authority : Identifier × Timestamp) (refusal : KernelError)
    (expiry : Timestamp) (workerCredential : Option Credential)
    (worker : Identifier × Timestamp) (bound : ℕ × ℕ) : Probe Unit :=
  masking refusal do
    let again ← attested (some credential) claim document subject action refusal
    require (again = authority) refusal
    let now ← Probe.advanceClock
    require (now < expiry) refusal
    let workerAgain ← verifiedAuthority workerCredential subject "kernel:worker" now
      { worker := some bound }
    require (workerAgain = worker) refusal
    requireUnexpired expiry refusal

/-! ### Protection of a Run -/

/-- The body of `protect_run_authority`. -/
def protectRunAuthorityBody (runId : Identifier) (generation expectedEpoch : ℕ)
    (workerCredential : Option Credential) (timestamp : Timestamp) : KernelM Unit := do
  let environment ← ask
  let _ ← KernelM.probe (verifiedAuthority environment.workerCredential runId
    "kernel:manage_authority" timestamp)
  let worker ← KernelM.probe (verifiedAuthority workerCredential runId "kernel:worker" timestamp
    { worker := some (generation, expectedEpoch) })
  let database ← KernelM.database
  require (∃ control ∈ database.runControls.find? runId, control.generation = generation ∧
      control.controlEpoch = expectedEpoch ∧ control.state = .paused)
    (.casConflict "protected authority requires the expected paused Run")
  let authority : RunAuthority :=
    { runId, generation, controlEpoch := expectedEpoch, principal := worker.1
      expiresAt := worker.2, revokedAt := none }
  match database.runAuthorities.find? runId with
  | some old =>
    require (old = authority) (.casConflict "protected Run authority already differs or is revoked")
  | none =>
    KernelM.modify fun database =>
      { database with runAuthorities := database.runAuthorities.put authority }

def protectRunAuthority (runId : Identifier) (generation expectedEpoch : ℕ)
    (workerCredential : Option Credential) (environment : Environment) (state : KernelState) :
    Except KernelError Unit × KernelState :=
  if maxSqliteInteger < generation then
    (.error (.value "generation must be a non-negative SQLite integer"), state)
  else
    transaction (protectRunAuthorityBody runId generation expectedEpoch workerCredential)
      environment state

/-- The body of `revoke_run_authority`. -/
def revokeRunAuthorityBody (runId : Identifier) (generation expectedEpoch : ℕ)
    (timestamp : Timestamp) : KernelM Unit := do
  let environment ← ask
  let _ ← KernelM.probe (verifiedAuthority environment.workerCredential runId
    "kernel:manage_authority" timestamp)
  let database ← KernelM.database
  require (∃ authority ∈ database.runAuthorities.find? runId,
      authority.generation = generation ∧ authority.controlEpoch = expectedEpoch)
    (.casConflict "protected Run authority changed")
  KernelM.modify fun database => database.revokeAuthority runId timestamp

def revokeRunAuthority (runId : Identifier) (generation expectedEpoch : ℕ)
    (environment : Environment) (state : KernelState) : Except KernelError Unit × KernelState :=
  if maxSqliteInteger < generation then
    (.error (.value "generation must be a non-negative SQLite integer"), state)
  else transaction (revokeRunAuthorityBody runId generation expectedEpoch) environment state

/-- The body of `bind_initial_admission`. -/
def bindInitialAdmissionBody (credential : Credential) (receipt : AdmissionReceipt)
    (timestamp : Timestamp) : KernelM Unit := do
  let refusal :=
    KernelError.storageIsolation "host verification did not authorize initial admission binding"
  let proof ← KernelM.probe <| masking refusal do
    let proof ← attested (some credential) (·.initialAdmissionReceipt) receipt receipt.runId
      "kernel:bind_initial" refusal
    require (receipt.generation ≤ maxSqliteInteger ∧ receipt.controlEpoch ≤ maxSqliteInteger ∧
      receipt.state = .active ∧ timestamp < proof.2) refusal
    return proof
  let database ← KernelM.database
  let changed := KernelError.casConflict "initial admission participant or authority changed"
  require (database.storeId = receipt.kernelStoreId ∧
    ∃ control ∈ database.runControls.find? receipt.runId,
      control.generation = receipt.generation ∧ control.controlEpoch = receipt.controlEpoch ∧
        control.state = .paused) changed
  let authority ← expect (database.runAuthorities.find? receipt.runId) changed
  require (authority.generation = receipt.generation ∧
    authority.controlEpoch = receipt.controlEpoch ∧ timestamp < authority.expiresAt ∧
    authority.revokedAt = none) changed
  require (∀ old ∈ database.initialAdmissionBindings.find? receipt.runId, old = receipt)
    (.casConflict "initial admission already has a different binding")
  KernelM.modify fun database =>
    { database with
      initialAdmissionBindings := database.initialAdmissionBindings.put receipt }
  let final := KernelError.storageIsolation "host no longer authorizes initial admission binding"
  KernelM.probe <| masking final do
    let again ← attested (some credential) (·.initialAdmissionReceipt) receipt receipt.runId
      "kernel:bind_initial" final
    require (again = proof) final
    requireUnexpired (min proof.2 authority.expiresAt) final

def bindInitialAdmission (credential : Credential) (receipt : AdmissionReceipt)
    (environment : Environment) (state : KernelState) : Except KernelError Unit × KernelState :=
  transaction (bindInitialAdmissionBody credential receipt) environment state

/-! ### Installation of a revision -/

/-- The checks on a decision to install, before the store is opened. -/
def RevisionDecision.wellFormed (arithmetic : FloatArithmetic) (decision : RevisionDecision) :
    Prop :=
  (∀ projection ∈ decision.projection, projection.1 ≠ [] ∧
    projection.2.text.utf8ByteSize ≤ 1024) ∧
  decision.requirements.length ≤ 32 ∧
  (∀ item ∈ decision.requirements, item.participantId.text.utf8ByteSize ≤ 1024 ∧
    item.scopeId.text.utf8ByteSize ≤ 1024) ∧
  decision.requirements.Pairwise (fun left right =>
    left.participantId.text < right.participantId.text ∨
      (left.participantId = right.participantId ∧ left.scopeId.text < right.scopeId.text)) ∧
  decision.sourceRevision < maxSqliteInteger ∧ decision.sourceGeneration < maxSqliteInteger ∧
  decision.sourceControlEpoch < maxSqliteInteger ∧
  decision.targetGeneration < maxSqliteInteger ∧
  decision.targetGeneration = decision.sourceGeneration + 1 ∧
  decision.operationId = decision.barrierOperationId ∧
  (decision.contentPages.map (·.kind)).Nodup ∧
  (∀ reference ∈ decision.contentPages, decision.content reference.kind = [.null] ∧
    reference.totalBytes ≤ maxSqliteInteger ∧ reference.leaseFence ≤ maxSqliteInteger) ∧
  ∀ kind ∈ [ContentKind.revision, .sourceApplicationState, .targetApplicationState],
    kind ∈ decision.contentPages.map (·.kind) ∨
      Json.textBytes arithmetic (decision.content kind) ≤ 65536

instance (arithmetic : FloatArithmetic) (decision : RevisionDecision) :
    Decidable (decision.wellFormed arithmetic) := by
  unfold RevisionDecision.wellFormed
  infer_instance

/-- The last staged page of the content that a reference names is complete and belongs to the
decision. -/
def stagedFor (decision : RevisionDecision) (gates : HostGates) (reference : ContentReference) :
    Except KernelError Unit := do
  match gates.contentPages.find? fun page =>
      page.reference.operationId = reference.operationId ∧
        page.reference.kind = reference.kind with
  | none => .error (.casConflict "staged revision content is missing")
  | some page =>
    ensure (page.captureComplete = true ∧ page.reference = reference ∧
        page.barrierOperationId = decision.barrierOperationId ∧
        page.sourceGeneration = decision.sourceGeneration ∧
        page.decisionId = decision.decisionId ∧ page.runId = decision.runId ∧
        page.kernelStoreId = decision.kernelStoreId ∧
        page.orchestrator = decision.orchestrator)
      (.casConflict "staged revision content does not match decision")

/-- Install a decision that was not installed before. -/
def installRevision (decision : RevisionDecision) (principal : Identifier)
    (worker : Identifier × Timestamp) (timestamp : Timestamp) :
    KernelM (RevisionInstall × Timestamp) := do
  let database ← KernelM.database
  let barrier ← expect
    ((database.pauseReceipts.find? decision.barrierOperationId).filter fun barrier =>
      barrier.runId = decision.runId ∧ barrier.generation = decision.sourceGeneration)
    (.casConflict "revision decision lacks its matching local barrier")
  require (barrier.isPauseBarrier = true ∧ barrier.storeId = decision.kernelStoreId)
    (.casConflict "revision decision participant identity differs")
  require (decision.barrierOperationId ∈ database.gates.completeCaptures)
    (.casConflict "revision installation requires a complete initial local capture")
  let control ← expect
    ((database.runControls.find? decision.runId).filter fun control =>
      control.generation = decision.sourceGeneration ∧
        control.controlEpoch = decision.sourceControlEpoch ∧ control.state = .paused)
    (.casConflict "revision decision source control changed")
  let authority ← expect
    ((database.runAuthorities.find? decision.runId).filter fun authority =>
      authority.generation = decision.sourceGeneration ∧
        authority.controlEpoch = barrier.expectedEpoch ∧ authority.revokedAt = none ∧
        timestamp < authority.expiresAt)
    (.casConflict "revision source authority is stale, expired or revoked")
  require (∀ install ∈ database.revisionInstalls.rows,
      install.decision.barrierOperationId ≠ decision.barrierOperationId)
    (.casConflict "pause barrier already has a revision decision")
  let epoch := decision.sourceControlEpoch + 1
  writeControl { control with generation := decision.targetGeneration, controlEpoch := epoch }
  let install : RevisionInstall :=
    { decision, installedAt := timestamp, authorizedPrincipal := principal
      workerPrincipal := worker.1, workerExpiresAt := worker.2, targetControlEpoch := epoch
      previousGeneration := authority.generation, previousControlEpoch := authority.controlEpoch
      previousPrincipal := authority.principal, previousExpiresAt := authority.expiresAt
      claimsUsed := control.claimsUsed, maxClaims := control.maxClaims
      deadlineAt := control.deadlineAt }
  KernelM.modify fun database =>
    { database with
      runAuthorities := database.runAuthorities.put
        { authority with
          generation := decision.targetGeneration
          controlEpoch := epoch
          principal := worker.1
          expiresAt := worker.2 }
      revisionInstalls := database.revisionInstalls.put install
      projectionRequirements :=
        if decision.requirements = [] then database.projectionRequirements
        else database.projectionRequirements ++
          [{ runId := decision.runId, generation := decision.targetGeneration
             decisionId := decision.decisionId, requirements := decision.requirements }] }
  return (install, authority.expiresAt)

/-- The body of `install_revision_decision`, given what the host attested before the store was
opened. -/
def installRevisionDecisionBody (credential : Credential) (workerCredential : Option Credential)
    (decision expected : RevisionDecision) (proof : Identifier × Timestamp)
    (timestamp : Timestamp) : KernelM RevisionInstall := do
  let refusal :=
    KernelError.storageIsolation "host verification did not authorize the revision decision"
  let again ← KernelM.probe <| masking refusal <|
    attested (some credential) (·.decision) decision decision.runId "kernel:install_revision"
      refusal
  require (again = proof) refusal
  require (expected = decision)
    (.casConflict "verified revision decision differs from the expected decision")
  let database ← KernelM.database
  require (database.storeId = decision.kernelStoreId)
    (.casConflict "revision decision participant identity differs")
  forEach decision.contentPages fun reference =>
    lift (stagedFor decision database.gates reference)
  require (timestamp < proof.2) (.storageIsolation "revision decision authorization expired")
  let bound := (decision.targetGeneration, decision.sourceControlEpoch + 1)
  let worker ← KernelM.probe (verifiedAuthority workerCredential decision.runId "kernel:worker"
    timestamp { worker := some bound })
  match database.revisionInstalls.find? decision.decisionId with
  | some install => do
    require (install.decision = decision ∧ (install.workerPrincipal, install.workerExpiresAt) =
        worker)
      (.casConflict "revision decision already has different content")
    return install
  | none => do
    let (install, sourceExpiry) ← installRevision decision proof.1 worker timestamp
    KernelM.probe (reattested credential (·.decision) decision decision.runId
      "kernel:install_revision" proof
      (.storageIsolation "host authorization no longer permits revision installation")
      (min proof.2 (min worker.2 sourceExpiry)) workerCredential worker bound)
    return install

/-- `install_revision_decision`. The host is asked once before the store is opened. -/
def installRevisionDecision (credential : Credential) (workerCredential : Option Credential)
    (expected : RevisionDecision) (environment : Environment) (state : KernelState) :
    Except KernelError RevisionInstall × KernelState :=
  match environment.authorityVerifier with
  | none => (.error (.storageIsolation "revision installation requires a host verifier"), state)
  | some verifier =>
    match verifier 0 credential with
    | some answer =>
      match answer.decision with
      | some decision =>
        if decision.wellFormed environment.arithmetic ∧ principalFits answer.principal ∧
            answer.permits decision.runId "kernel:install_revision" = true then
          transaction (installRevisionDecisionBody credential workerCredential decision expected
            (answer.principal, answer.expiresAt)) environment state
        else (.error unauthorizedDecision, state)
      | none => (.error unauthorizedDecision, state)
    | none => (.error unauthorizedDecision, state)
where
  unauthorizedDecision : KernelError :=
    .storageIsolation "host verification did not authorize the revision decision"

/-! ### Activation and resume -/

/-- `_verify_effective_control_decision`: whether the control lease was taken over, for the decision
given without its lease. -/
def effectiveDecision {Decision : Type} [DecidableEq Decision] (gates : HostGates)
    (phase : TakeoverPhase) (operationId : Identifier) (lease : ControlLeaseBinding)
    (original : ControlTakeover → Option Decision) (decision : Decision) :
    Except KernelError Bool :=
  match gates.latestTakeover? operationId with
  | none => .ok false
  | some takeover => do
    ensure (takeover.phase = phase ∧ original takeover = some decision ∧
        lease = takeover.newBinding)
      (.casConflict "control decision differs from authenticated takeover")
    return true

/-- A decision without the lease that it was taken under. -/
def ActivationDecision.unleased (decision : ActivationDecision) : ActivationDecision :=
  { decision with lease := ⟨⟨"-", by decide⟩, 0⟩, leaseExpiresAt := 0 }

/-- A decision without the lease that it was taken under. -/
def ResumeDecision.unleased (decision : ResumeDecision) : ResumeDecision :=
  { decision with lease := ⟨⟨"-", by decide⟩, 0⟩, leaseExpiresAt := 0 }

/-- The body of `activate_revision`. -/
def activateRevisionBody (credential : Credential) (decision : ActivationDecision)
    (timestamp : Timestamp) : KernelM ActivationReceipt := do
  let refusal :=
    KernelError.storageIsolation "host verification did not authorize revision activation"
  let proof ← KernelM.probe <| masking refusal do
    let proof ← attested (some credential) (·.activation) decision decision.runId
      "kernel:activate_revision" refusal
    require (decision.generation < maxSqliteInteger ∧
      decision.expectedControlEpoch < maxSqliteInteger ∧
      decision.lease.leaseFence < maxSqliteInteger ∧
      timestamp < min proof.2 decision.leaseExpiresAt) refusal
    return proof
  let database ← KernelM.database
  let takeover ← lift (effectiveDecision database.gates .activation decision.operationId
    decision.lease (fun takeover => takeover.originalActivation.map (·.unleased))
    decision.unleased)
  let changed := KernelError.casConflict "paused revision or authority changed before activation"
  let install ← expect (database.revisionInstalls.find? decision.decisionId) changed
  let authority ← expect (database.runAuthorities.find? decision.runId) changed
  let completion ← expect (database.pauseReceipts.find? decision.completionOperationId) changed
  require (database.storeId = decision.kernelStoreId ∧ install.decision.runId = decision.runId ∧
    install = decision.kernelInstallReceipt ∧ completion.runId = decision.runId ∧
    (∃ control ∈ database.runControls.find? decision.runId,
      control.generation = decision.generation ∧
        control.controlEpoch = decision.expectedControlEpoch ∧ control.state = .paused) ∧
    authority.generation = decision.generation ∧
    authority.controlEpoch = decision.expectedControlEpoch ∧ authority.revokedAt = none ∧
    timestamp < authority.expiresAt) changed
  let source := install.decision
  require ((authority.principal, authority.expiresAt) =
        (install.workerPrincipal, install.workerExpiresAt) ∧
      completion.barrierOperationId? = some decision.barrierOperationId ∧
      source.barrierOperationId = decision.barrierOperationId ∧
      source.orchestrator = decision.orchestrator ∧
      source.targetGeneration = decision.generation ∧
      ∀ receipt ∈ database.pauseReceipts.rows, receipt.runId = decision.runId →
        receipt.isCancellationFence = false)
    (.casConflict "activation installation or cancellation differs")
  let receipt ← record takeover
  let final := KernelError.storageIsolation "host lease no longer authorizes revision activation"
  KernelM.probe <| masking final do
    let again ← attested (some credential) (·.activation) decision decision.runId
      "kernel:activate_revision" final
    require (again = proof) final
    requireUnexpired (min proof.2 (min decision.leaseExpiresAt authority.expiresAt)) final
  return receipt
where
  /-- The receipt of an earlier call, or a new one. -/
  record (takeover : Bool) : KernelM ActivationReceipt := do
    let database ← KernelM.database
    match database.activationReceipts.find? decision.operationId with
    | some receipt => do
      require (receipt.decision.unleased = decision.unleased ∧
          (takeover = true ∨ receipt.decision.lease = decision.lease))
        (.casConflict "activation operation already has different content")
      return receipt
    | none => do
      let receipt : ActivationReceipt := { decision, activatedAt := timestamp }
      KernelM.modify fun database =>
        { database with activationReceipts := database.activationReceipts.put receipt }
      return receipt

def activateRevision (credential : Credential) (decision : ActivationDecision)
    (environment : Environment) (state : KernelState) :
    Except KernelError ActivationReceipt × KernelState :=
  transaction (activateRevisionBody credential decision) environment state

/-- The activation that a resume continues agrees with it in every field they share. -/
def ResumeDecision.continues (decision : ResumeDecision) (activated : ActivationDecision) : Prop :=
  activated.runId = decision.runId ∧ activated.decisionId = decision.decisionId ∧
    activated.barrierOperationId = decision.barrierOperationId ∧
    activated.completionOperationId = decision.completionOperationId ∧
    activated.kernelStoreId = decision.kernelStoreId ∧
    activated.orchestrator = decision.orchestrator ∧
    activated.generation = decision.generation ∧
    activated.expectedControlEpoch = decision.expectedControlEpoch ∧
    activated.orchestratorInstallReceipt = decision.orchestratorInstallReceipt ∧
    activated.kernelInstallReceipt = decision.kernelInstallReceipt

instance (decision : ResumeDecision) (activated : ActivationDecision) :
    Decidable (decision.continues activated) := by
  unfold ResumeDecision.continues
  infer_instance

/-- The control lease of the activation is the one of the resume, or the one the resume's was
taken over from. -/
def bindActivationLease (gates : HostGates) (decision : ResumeDecision)
    (activated : ActivationDecision) (takeover : Bool) : Except KernelError Unit := do
  let binding ← gates.effectiveBinding .activation decision.activationOperationId activated.lease
  ensure (takeover = false → binding = decision.lease)
    (.casConflict "resume lease differs from paused activation")
  ensure (takeover = true → ∃ latest ∈ gates.latestTakeover? decision.operationId,
      ∃ original ∈ latest.originalResume, binding = original.lease)
    (.casConflict "resume takeover does not bind paused activation lease")

/-- What a first resume has to find: installed revision, activation, completed pause, and no
cancellation. -/
def checkResume (database : Database) (decision : ResumeDecision) (takeover : Bool) :
    Except KernelError RevisionInstall := do
  ensure ((database.gates.budgetPolicies.find? fun policy =>
      policy.runId = decision.runId ∧ policy.generation = decision.generation).map
        (·.decisionId) = some decision.decisionId)
    (.casConflict "revision has no matching application budget policy")
  let install ← ensureSome
    ((database.revisionInstalls.find? decision.decisionId).filter fun install =>
      install.decision.runId = decision.runId ∧ install = decision.kernelInstallReceipt)
    (.casConflict "matching Kernel revision installation is missing")
  let activation ← ensureSome
    ((database.activationReceipts.find? decision.activationOperationId).filter fun activation =>
      activation.decision.runId = decision.runId ∧ activation = decision.activationReceipt)
    (.casConflict "matching paused activation is missing")
  ensure (decision.continues activation.decision)
    (.casConflict "resume decision differs from paused activation")
  bindActivationLease database.gates decision activation.decision takeover
  ensure (install.decision.barrierOperationId = decision.barrierOperationId ∧
      install.decision.orchestrator = decision.orchestrator ∧
      install.decision.targetGeneration = decision.generation)
    (.casConflict "resume decision differs from installed revision")
  let completion ← ensureSome
    ((database.pauseReceipts.find? decision.completionOperationId).filter fun completion =>
      completion.runId = decision.runId)
    (.casConflict "local pause completion is missing")
  ensure (completion.barrierOperationId? = some decision.barrierOperationId)
    (.casConflict "local pause completion differs")
  ensure (∀ receipt ∈ database.pauseReceipts.rows, receipt.runId = decision.runId →
      receipt.isCancellationFence = false)
    (.casConflict "Run cancellation has been fenced")
  return install

/-- A resume that was carried out before and has not been overtaken. -/
def replayResume (receipt : ResumeReceipt) (decision : ResumeDecision) (takeover : Bool)
    (worker : Identifier × Timestamp) : KernelM ResumeReceipt := do
  require (receipt.decision.unleased = decision.unleased ∧
      (takeover = true ∨ receipt.decision.lease = decision.lease) ∧
      (receipt.workerPrincipal, receipt.workerExpiresAt) = worker)
    (.casConflict "resume operation already has different content")
  let database ← KernelM.database
  require ((∃ control ∈ database.runControls.find? decision.runId,
        control.generation = decision.generation ∧
          control.controlEpoch = decision.targetControlEpoch ∧ control.state = .active) ∧
      (∃ authority ∈ database.runAuthorities.find? decision.runId,
        authority.generation = decision.generation ∧
          authority.controlEpoch = decision.targetControlEpoch ∧
          (authority.principal, authority.expiresAt) = worker ∧ authority.revokedAt = none) ∧
      database.hasUnresolvedControlBarrier decision.runId = false)
    (.casConflict "resumed Run has since been fenced")
  return receipt

def resumeNow (decision : ResumeDecision) (takeover : Bool) (worker : Identifier × Timestamp)
    (timestamp : Timestamp) : KernelM ResumeReceipt := do
  let database ← KernelM.database
  let install ← lift (checkResume database decision takeover)
  let changed := KernelError.casConflict "resume authority or paused control changed"
  let control ← expect
    ((database.runControls.find? decision.runId).filter fun control =>
      control.generation = decision.generation ∧
        control.controlEpoch = decision.expectedControlEpoch ∧ control.state = .paused) changed
  let authority ← expect
    ((database.runAuthorities.find? decision.runId).filter fun authority =>
      authority.generation = decision.generation ∧
        authority.controlEpoch = decision.expectedControlEpoch ∧
        authority.principal = install.workerPrincipal ∧
        authority.expiresAt = install.workerExpiresAt ∧ authority.revokedAt = none ∧
        timestamp < authority.expiresAt) changed
  writeControl { control with state := .active, controlEpoch := decision.targetControlEpoch }
  let receipt : ResumeReceipt :=
    { decision, workerPrincipal := worker.1, workerExpiresAt := worker.2, resumedAt := timestamp }
  KernelM.modify fun database =>
    { database with
      runAuthorities := database.runAuthorities.put
        { authority with
          controlEpoch := decision.targetControlEpoch
          principal := worker.1
          expiresAt := worker.2 }
      resumeReceipts := database.resumeReceipts.put receipt }
  return receipt

/-- The body of `resume_revision`. -/
def resumeRevisionBody (credential : Credential) (workerCredential : Option Credential)
    (decision : ResumeDecision) (timestamp : Timestamp) : KernelM ResumeReceipt := do
  let refusal := KernelError.storageIsolation "host verification did not authorize revision resume"
  let proof ← KernelM.probe <| masking refusal do
    let proof ← attested (some credential) (·.resume) decision decision.runId "kernel:resume"
      refusal
    require (decision.generation ≤ maxSqliteInteger ∧
      decision.targetControlEpoch ≤ maxSqliteInteger ∧
      decision.lease.leaseFence ≤ maxSqliteInteger ∧
      decision.targetControlEpoch = decision.expectedControlEpoch + 1 ∧
      timestamp < min proof.2 decision.leaseExpiresAt) refusal
    return proof
  let database ← KernelM.database
  let takeover ← lift (effectiveDecision database.gates .resume decision.operationId
    decision.lease (fun takeover => takeover.originalResume.map (·.unleased)) decision.unleased)
  require (database.storeId = decision.kernelStoreId)
    (.casConflict "resume participant identity differs")
  let bound := (decision.generation, decision.targetControlEpoch)
  let worker ← KernelM.probe (verifiedAuthority workerCredential decision.runId "kernel:worker"
    timestamp { worker := some bound })
  let receipt ← record takeover worker
  KernelM.probe (reattested credential (·.resume) decision decision.runId "kernel:resume" proof
    (.storageIsolation "host lease no longer authorizes revision resume")
    (min proof.2 (min decision.leaseExpiresAt worker.2)) workerCredential worker bound)
  return receipt
where
  record (takeover : Bool) (worker : Identifier × Timestamp) : KernelM ResumeReceipt := do
    let database ← KernelM.database
    match database.resumeReceipts.find? decision.operationId with
    | some receipt => replayResume receipt decision takeover worker
    | none => resumeNow decision takeover worker timestamp

def resumeRevision (credential : Credential) (workerCredential : Option Credential)
    (decision : ResumeDecision) (environment : Environment) (state : KernelState) :
    Except KernelError ResumeReceipt × KernelState :=
  transaction (resumeRevisionBody credential workerCredential decision) environment state

/-! ### Adoption of a Run -/

/-- The checks on a page of an import. The command of a pending member is checked when it is
accepted. -/
def AdoptionManifest.wellFormed (manifest : AdoptionManifest) : Prop :=
  manifest.generation ≤ maxSqliteInteger ∧ manifest.maxClaims ≤ maxSqliteInteger ∧
    manifest.pageSeq ≤ maxSqliteInteger ∧ manifest.claimsUsed ≤ manifest.maxClaims ∧
    manifest.isolationHeld = true ∧ manifest.membership.length ≤ 512 ∧
    (manifest.membership.map (·.executionId)).Pairwise (fun left right =>
      left.text < right.text) ∧
    (manifest.membership = [] → manifest.membershipComplete = true)

instance (manifest : AdoptionManifest) : Decidable manifest.wellFormed := by
  unfold AdoptionManifest.wellFormed
  infer_instance

/-- Everything in a manifest that its pages share. -/
def AdoptionManifest.shared (manifest : AdoptionManifest) : AdoptionManifest :=
  { manifest.identity with membership := [], membershipComplete := true, pageSeq := 0 }

/-- A page continues the import that was begun, if one was. -/
def continuesImport (database : Database) (manifest : AdoptionManifest)
    (worker : Identifier × Timestamp) : Except KernelError Unit :=
  match database.legacyImports.find? manifest.operationId with
  | none =>
    ensure (manifest.pageSeq = 0 ∧ (database.runControls.find? manifest.runId).isNone)
      (.casConflict "legacy import must begin at page zero with a new Run")
  | some original => do
    let last := latestPage <| database.legacyImportPages.filter fun page =>
      page.adoption.operationId = manifest.operationId
    ensure (manifest.shared = original.adoption.shared ∧
        (original.workerPrincipal, original.workerExpiresAt) = worker ∧
        last.map (·.adoption.pageSeq + 1) = some manifest.pageSeq)
      (.casConflict "legacy import page does not continue its original operation")
    ensure (∀ page ∈ last, page.adoption.membershipComplete = false)
      (.casConflict "legacy import is already complete")
    ensure (∀ page ∈ last, ∀ cursor ∈ page.cursor, ∀ member ∈ manifest.membership.head?,
        cursor.text < member.executionId.text)
      (.casConflict "legacy membership cursor did not advance")
    ensure ((∃ authority ∈ database.runAuthorities.find? manifest.runId,
          authority.generation = manifest.generation ∧ authority.controlEpoch = 0 ∧
            (authority.principal, authority.expiresAt) = worker ∧ authority.revokedAt = none) ∧
        ∃ control ∈ database.runControls.find? manifest.runId,
          control.generation = manifest.generation ∧ control.controlEpoch = 0 ∧
            control.state = .paused)
      (.casConflict "legacy import authority or control changed")

/-- A member is new to the store, and accepted exactly if it says so. -/
def Database.admitsMember (database : Database) (member : LegacyMember) : Bool :=
  (database.managedExecutions.find? member.executionId).isNone &&
    match member with
    | .accepted executionId => (database.executions.find? executionId).isSome
    | .pending executionId _ => (database.executions.find? executionId).isNone

/-- Register the control and the authority of an imported Run with its first page. -/
def Database.beginImport (database : Database) (manifest : AdoptionManifest)
    (worker : Identifier × Timestamp) : Database :=
  if (database.legacyImports.find? manifest.operationId).isSome then database
  else
    { database with
      runControls := database.runControls.put
        { runId := manifest.runId, controlEpoch := 0, generation := manifest.generation
          state := .paused, maxClaims := manifest.maxClaims, claimsUsed := manifest.claimsUsed
          deadlineAt := manifest.deadlineAt }
      runAuthorities := database.runAuthorities.put
        { runId := manifest.runId, generation := manifest.generation, controlEpoch := 0
          principal := worker.1, expiresAt := worker.2, revokedAt := none } }

def Database.importMember (manifest : AdoptionManifest) (database : Database)
    (member : LegacyMember) : Database :=
  let registered :=
    { database with
      managedExecutions := database.managedExecutions.put
        { executionId := member.executionId, runId := manifest.runId
          generation := manifest.generation, drainAllowed := false } }
  match member with
  | .accepted _ => registered
  | .pending executionId command =>
    { registered with
      legacyPendingCommands := registered.legacyPendingCommands.put { executionId, command } }

def importPage (manifest : AdoptionManifest) (principal : Identifier)
    (worker : Identifier × Timestamp) (timestamp : Timestamp) : KernelM ImportReceipt := do
  let database ← KernelM.database
  lift (continuesImport database manifest worker)
  require (∀ member ∈ manifest.membership, database.admitsMember member = true)
    (.casConflict "legacy membership conflicts with local execution state")
  -- `CHECK (substr(execution_id, 1, 12) = 'sdk-managed:')` of the table.
  require (∀ member ∈ manifest.membership, member.executionId.managed = true)
    { kind := .storage, message := "CHECK constraint failed: kernel_managed_executions" }
  let last := latestPage <| database.legacyImportPages.filter fun page =>
    page.adoption.operationId = manifest.operationId
  let receipt : ImportReceipt :=
    { adoption := manifest, importedAt := timestamp, authorizedPrincipal := principal
      workerPrincipal := worker.1, workerExpiresAt := worker.2
      cursor := (manifest.membership.getLast?.map (·.executionId)).or (last.bind (·.cursor))
      captureComplete := manifest.membershipComplete }
  KernelM.modify fun database =>
    let imported := manifest.membership.foldl (Database.importMember manifest)
      (database.beginImport manifest worker)
    { imported with
      legacyImports :=
        if (database.legacyImports.find? manifest.operationId).isSome then imported.legacyImports
        else imported.legacyImports.put receipt
      legacyImportPages := imported.legacyImportPages ++ [receipt] }
  return receipt

/-- The body of `import_legacy_run`. -/
def importLegacyRunBody (credential : Credential) (workerCredential : Option Credential)
    (manifest : AdoptionManifest) (timestamp : Timestamp) : KernelM ImportReceipt := do
  let refusal := KernelError.storageIsolation "host verification did not authorize legacy import"
  let proof ← KernelM.probe <| masking refusal do
    let proof ← attested (some credential) (·.adoption) manifest manifest.runId
      "kernel:import_legacy" refusal
    require (manifest.wellFormed ∧ timestamp < manifest.isolationExpiresAt ∧
      timestamp < proof.2) refusal
    return proof
  let bound := (manifest.generation, 0)
  let worker ← KernelM.probe (verifiedAuthority workerCredential manifest.runId "kernel:worker"
    timestamp { worker := some bound })
  let database ← KernelM.database
  require (database.storeId = manifest.kernelStoreId)
    (.casConflict "legacy import participant identity differs")
  match database.legacyImportPages.find? fun page =>
      page.adoption.operationId = manifest.operationId ∧
        page.adoption.pageSeq = manifest.pageSeq with
  | some page => do
    require (page.adoption.identity = manifest.identity ∧
        (page.workerPrincipal, page.workerExpiresAt) = worker)
      (.casConflict "legacy import already has different content")
    return page
  | none => do
    let receipt ← importPage manifest proof.1 worker timestamp
    KernelM.probe (reattested credential (·.adoption) manifest manifest.runId
      "kernel:import_legacy" proof
      (.storageIsolation "host isolation no longer authorizes legacy import")
      (min proof.2 (min manifest.isolationExpiresAt worker.2)) workerCredential worker bound)
    return receipt

def importLegacyRun (credential : Credential) (workerCredential : Option Credential)
    (manifest : AdoptionManifest) (environment : Environment) (state : KernelState) :
    Except KernelError ImportReceipt × KernelState :=
  transaction (importLegacyRunBody credential workerCredential manifest) environment state

end DispatcherSdk.ExecutionKernel
