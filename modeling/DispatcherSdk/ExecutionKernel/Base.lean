/-
This file models the documents that move a managed Run, and the machinery every kernel
operation runs in: the logical clock, the transaction, the lease check, the event append.

What a host answers to a credential is a record in which a claim that is missing or malformed
is absent; nothing is assumed about it. When the body of an operation fails, its table writes
are taken back to the savepoint, but the watermark it has reached is committed.
-/

import DispatcherSdk.ExecutionKernel.Contracts
import DispatcherSdk.Library.Attempt
import DispatcherSdk.Library.Table

namespace DispatcherSdk.ExecutionKernel

/-- `domain_scope` of a clock reading. -/
inductive ClockScope where
  | boot
  | process
  | unknown
  deriving DecidableEq

/-- `ClockCheckpoint`. A reading of an unknown domain has no domain identity. -/
structure ClockCheckpoint where
  wallAt : Timestamp
  elapsedAt : Timestamp
  domainId : Option Identifier
  domainScope : ClockScope
  unknownReason : Option Identifier
  scopeKnown : domainScope = .unknown ↔ domainId = none

namespace ClockCheckpoint

/-- The wall time that a later reading proves to have been reached, before it is rounded. -/
def projected (checkpoint sample : ClockCheckpoint) : Timestamp :=
  sample.elapsedAt - checkpoint.elapsedAt + checkpoint.wallAt

/-- Two readings that may be compared, the second not earlier than the first. -/
def continuous (checkpoint sample : ClockCheckpoint) : Prop :=
  checkpoint.domainId ≠ none ∧ checkpoint.domainId = sample.domainId ∧
    checkpoint.domainScope = sample.domainScope ∧ checkpoint.elapsedAt ≤ sample.elapsedAt

instance (checkpoint sample : ClockCheckpoint) : Decidable (continuous checkpoint sample) :=
  inferInstanceAs (Decidable (_ ∧ _ ∧ _ ∧ _))

def effectiveTime (arithmetic : FloatArithmetic) (checkpoint sample : ClockCheckpoint) :
    Option Timestamp :=
  if continuous checkpoint sample then
    (arithmetic.nearest (projected checkpoint sample)).map (max sample.wallAt)
  else none

end ClockCheckpoint

/-- The parties that may impose a deadline. -/
inductive DeadlineSource where
  | run
  | execution
  | parent
  | tool
  deriving DecidableEq

structure DeadlineConstraint where
  originId : Identifier
  source : DeadlineSource
  deadlineAt : Timestamp
  reserveSeconds : Timestamp
  deriving DecidableEq

namespace DeadlineConstraint

/-- The constructor: a deadline is positive and not smaller than its reserve. -/
def make (originId : Identifier) (source : DeadlineSource)
    (deadlineAt reserveSeconds : Timestamp) : Except KernelError DeadlineConstraint := do
  ensure (0 < deadlineAt) (.value "deadline_at must be finite and positive")
  ensure (reserveSeconds ≤ deadlineAt) (.value "reserve_seconds exceeds deadline_at")
  return ⟨originId, source, deadlineAt, reserveSeconds⟩

def workDeadlineAt (constraint : DeadlineConstraint) : Timestamp :=
  constraint.deadlineAt - constraint.reserveSeconds

end DeadlineConstraint

structure BudgetEnvelope where
  constraints : List DeadlineConstraint
  checkpoint : ClockCheckpoint
  startedAt : Option Timestamp

namespace BudgetEnvelope

def constraintOf? (envelope : BudgetEnvelope) (originId : Identifier) : Option DeadlineConstraint :=
  envelope.constraints.find? fun constraint => constraint.originId = originId

/-- The earliest work deadline, if any constraint is imposed. -/
def workDeadline? (envelope : BudgetEnvelope) : Option Timestamp :=
  (envelope.constraints.map DeadlineConstraint.workDeadlineAt).min?

/-- What `view` tells of the work time that is left. -/
inductive RemainingWork where
  /-- The clock of the envelope and the sample cannot be compared. -/
  | unknown
  /-- No constraint is imposed. -/
  | unbounded
  /-- So many seconds are left. -/
  | seconds (value : Timestamp)

/-- `view(sample=…)`, as far as the kernel reads it. -/
def view (arithmetic : FloatArithmetic) (envelope : BudgetEnvelope) (sample : ClockCheckpoint) :
    RemainingWork :=
  match envelope.checkpoint.effectiveTime arithmetic sample with
  | none => .unknown
  | some now =>
    match envelope.workDeadline? with
    | none => .unbounded
    | some deadline => .seconds (deadline - now)

/-- `recheckpoint(sample=…)`: the same constraints, with the wall floor moved to the sample and
rounded upwards. -/
def recheckpoint (arithmetic : FloatArithmetic) (envelope : BudgetEnvelope)
    (sample : ClockCheckpoint) : Except KernelError BudgetEnvelope :=
  match envelope.checkpoint.effectiveTime arithmetic sample with
  | none => .error (.budgetClockUnknown "clock domain continuity cannot be established")
  | some _ =>
    let exact := max sample.wallAt (envelope.checkpoint.projected sample)
    match arithmetic.nearest exact with
    | none => .error (.overflow "clock floor is out of range")
    | some rounded =>
      if rounded < exact then
        match arithmetic.nextAfter rounded with
        | none => .error (.budgetClockUnknown "clock floor cannot be represented conservatively")
        | some above => .ok { envelope with checkpoint := { sample with wallAt := above } }
      else .ok { envelope with checkpoint := { sample with wallAt := rounded } }

/-- `BudgetEnvelope(...)`: a later constraint of one origin must equal the earlier one. -/
def make (constraints : List DeadlineConstraint) (checkpoint : ClockCheckpoint)
    (startedAt : Option Timestamp) : Except KernelError BudgetEnvelope := do
  ensure (∀ left ∈ constraints, ∀ right ∈ constraints,
      left.originId = right.originId → left = right)
    (.value "conflicting deadline constraints for one origin")
  return ⟨constraints.eraseDups, checkpoint, startedAt⟩

end BudgetEnvelope

/-- The largest integer a column can hold. -/
def maxSqliteInteger : ℕ := 2 ^ 63 - 1

inductive ControlState where
  | active
  | pausing
  | paused
  deriving DecidableEq

/-- The identity of the store that a Run's controlling side keeps. -/
structure OrchestratorIdentity where
  storeId : Identifier
  incarnation : Identifier
  deriving DecidableEq

/-! ### Receipts of pauses and cancellations -/

/-- What a row of `kernel_control_pause_receipts` records, by the kind of its receipt. -/
inductive PauseFact where
  /-- Admission is closed except for the drain set. -/
  | pauseBarrier (capturedAt : Timestamp) (claimsUsed maxClaims : ℕ) (deadlineAt : Timestamp)
    (drainIds : List Identifier) (orchestrator : Option OrchestratorIdentity)
  /-- The drain is over; the barrier stays. -/
  | localPaused (barrierOperationId : Identifier) (capturedAt : Timestamp)
  /-- Admission is closed for good. -/
  | cancellationFence (fencedAt : Timestamp)
  /-- A command was cancelled behind the fence before it was ever accepted. -/
  | cancelledBeforeAccept (fenceOperationId executionId reason : Identifier)
    (recordedAt : Timestamp)

/-- A receipt with the fields common to all kinds. -/
structure PauseReceipt where
  operationId : Identifier
  runId : Identifier
  generation : ℕ
  expectedEpoch : ℕ
  controlEpoch : ℕ
  storeId : Identifier
  fact : PauseFact

namespace PauseReceipt

/-- `receipt["kind"] == "pause_barrier"`. -/
def isPauseBarrier (receipt : PauseReceipt) : Bool :=
  match receipt.fact with
  | .pauseBarrier .. => true
  | _ => false

/-- `receipt["kind"] == "cancellation_fence"`. -/
def isCancellationFence (receipt : PauseReceipt) : Bool :=
  match receipt.fact with
  | .cancellationFence .. => true
  | _ => false

/-- `receipt.get("drain_execution_ids", [])`. -/
def drainIds (receipt : PauseReceipt) : List Identifier :=
  match receipt.fact with
  | .pauseBarrier _ _ _ _ drainIds _ => drainIds
  | _ => []

/-- The controlling side named by a pause barrier. -/
def orchestrator (receipt : PauseReceipt) : Option OrchestratorIdentity :=
  match receipt.fact with
  | .pauseBarrier _ _ _ _ _ orchestrator => orchestrator
  | _ => none

/-- `receipt.get("barrier_operation_id")`. -/
def barrierOperationId? (receipt : PauseReceipt) : Option Identifier :=
  match receipt.fact with
  | .localPaused barrierOperationId _ => some barrierOperationId
  | _ => none

/-- The receipt as it is written, for its size. -/
def toDict (receipt : PauseReceipt) : Json :=
  .object ([("operation_id", receipt.operationId.toJson), ("run_id", receipt.runId.toJson),
    ("generation", .ofNat receipt.generation), ("control_epoch", .ofNat receipt.controlEpoch),
    ("store_id", receipt.storeId.toJson)] ++
  match receipt.fact with
  | .pauseBarrier capturedAt claimsUsed maxClaims deadlineAt drainIds orchestrator =>
    [("kind", .string "pause_barrier"), ("expected_epoch", .ofNat receipt.expectedEpoch),
      ("captured_at", .ofTimestamp capturedAt), ("claims_used", .ofNat claimsUsed),
      ("max_claims", .ofNat maxClaims), ("deadline_at", .ofTimestamp deadlineAt),
      ("capture_status", .string "incomplete"), ("cleanup", .string "unknown"),
      ("drain_execution_ids", .array (drainIds.map Identifier.toJson)),
      ("drain_orchestrator_store_id",
        .ofOption Identifier.toJson (orchestrator.map (·.storeId))),
      ("drain_orchestrator_incarnation",
        .ofOption Identifier.toJson (orchestrator.map (·.incarnation)))]
  | .localPaused barrierOperationId capturedAt =>
    [("kind", .string "local_paused"), ("expected_epoch", .ofNat receipt.expectedEpoch),
      ("barrier_operation_id", barrierOperationId.toJson),
      ("captured_at", .ofTimestamp capturedAt), ("capture_status", .string "incomplete"),
      ("cleanup", .string "unknown")]
  | .cancellationFence fencedAt =>
    [("kind", .string "cancellation_fence"), ("expected_epoch", .ofNat receipt.expectedEpoch),
      ("fenced_at", .ofTimestamp fencedAt), ("cleanup", .string "unknown")]
  | .cancelledBeforeAccept fenceOperationId executionId reason recordedAt =>
    [("kind", .string "cancelled_before_accept"),
      ("fence_operation_id", fenceOperationId.toJson), ("execution_id", executionId.toJson),
      ("reason", reason.toJson), ("recorded_at", .ofTimestamp recordedAt)])

end PauseReceipt

/-! ### Decisions about a revision -/

/-- A scope of an application projection that a revision requires. -/
structure ProjectionRequirement where
  participantId : Identifier
  scopeId : Identifier
  deriving DecidableEq

/-- The parts of a revision that may be staged in pages. -/
inductive ContentKind where
  | revision
  | sourceApplicationState
  | targetApplicationState
  deriving DecidableEq

/-- A reference to staged content, in place of the content itself. -/
structure ContentReference where
  kind : ContentKind
  operationId : Identifier
  totalBytes : ℕ
  leaseId : Identifier
  leaseFence : ℕ
  deriving DecidableEq

/-- The decision that `install_revision_decision` installs. -/
structure RevisionDecision where
  decisionId : Identifier
  operationId : Identifier
  barrierOperationId : Identifier
  runId : Identifier
  orchestrator : OrchestratorIdentity
  kernelStoreId : Identifier
  sourceRevision : ℕ
  sourceGeneration : ℕ
  sourceControlEpoch : ℕ
  targetGeneration : ℕ
  migrationVersion : Identifier
  applicationProjectionVersion : Identifier
  deployment : Json.Text
  revision : Json.Text
  sourceApplicationState : Json.Text
  targetApplicationState : Json.Text
  contentPages : List ContentReference
  /-- `projection_requirements` and `source_application_projection_version`; both or neither. -/
  projection : Option (List ProjectionRequirement × Identifier)
  deriving DecidableEq

namespace RevisionDecision

/-- The text of a part; it is null where the part is staged in pages. -/
def content (decision : RevisionDecision) : ContentKind → Json.Text
  | .revision => decision.revision
  | .sourceApplicationState => decision.sourceApplicationState
  | .targetApplicationState => decision.targetApplicationState

/-- `decision.get("projection_requirements", [])`. -/
def requirements (decision : RevisionDecision) : List ProjectionRequirement :=
  (decision.projection.map Prod.fst).getD []

end RevisionDecision

/-- The receipt of an installed revision. -/
structure RevisionInstall where
  decision : RevisionDecision
  installedAt : Timestamp
  authorizedPrincipal : Identifier
  workerPrincipal : Identifier
  workerExpiresAt : Timestamp
  targetControlEpoch : ℕ
  previousGeneration : ℕ
  previousControlEpoch : ℕ
  previousPrincipal : Identifier
  previousExpiresAt : Timestamp
  claimsUsed : ℕ
  maxClaims : ℕ
  deadlineAt : Timestamp
  deriving DecidableEq

/-- The exclusive control lease named by a decision. -/
structure ControlLeaseBinding where
  leaseId : Identifier
  leaseFence : ℕ
  deriving DecidableEq

/-- The decision that `activate_revision` records. -/
structure ActivationDecision where
  operationId : Identifier
  runId : Identifier
  decisionId : Identifier
  barrierOperationId : Identifier
  completionOperationId : Identifier
  kernelStoreId : Identifier
  orchestrator : OrchestratorIdentity
  generation : ℕ
  expectedControlEpoch : ℕ
  orchestratorInstallReceipt : Json.Text
  kernelInstallReceipt : RevisionInstall
  lease : ControlLeaseBinding
  leaseExpiresAt : Timestamp
  deriving DecidableEq

structure ActivationReceipt where
  decision : ActivationDecision
  activatedAt : Timestamp
  deriving DecidableEq

/-- The decision that `resume_revision` carries out. -/
structure ResumeDecision where
  operationId : Identifier
  runId : Identifier
  decisionId : Identifier
  barrierOperationId : Identifier
  completionOperationId : Identifier
  activationOperationId : Identifier
  activationReceipt : ActivationReceipt
  kernelStoreId : Identifier
  orchestrator : OrchestratorIdentity
  generation : ℕ
  expectedControlEpoch : ℕ
  targetControlEpoch : ℕ
  orchestratorInstallReceipt : Json.Text
  kernelInstallReceipt : RevisionInstall
  lease : ControlLeaseBinding
  leaseExpiresAt : Timestamp
  deriving DecidableEq

structure ResumeReceipt where
  decision : ResumeDecision
  workerPrincipal : Identifier
  workerExpiresAt : Timestamp
  resumedAt : Timestamp
  deriving DecidableEq

/-- The receipt by which the controlling side first opened a Run. -/
structure AdmissionReceipt where
  operationId : Identifier
  runId : Identifier
  generation : ℕ
  controlEpoch : ℕ
  state : ControlState
  committedAt : Timestamp
  kernelStoreId : Identifier
  orchestrator : OrchestratorIdentity
  deriving DecidableEq

/-! ### Adoption of a legacy Run -/

/-- The two kinds of members an imported Run may have. -/
inductive LegacyMember where
  /-- Already accepted by this kernel. -/
  | accepted (executionId : Identifier)
  /-- Not accepted yet; the command it may be accepted with, as it is stored. -/
  | pending (executionId : Identifier) (command : Json.Text)
  deriving DecidableEq

def LegacyMember.executionId : LegacyMember → Identifier
  | accepted executionId => executionId
  | pending executionId _ => executionId

/-- The manifest of one page of an import. -/
structure AdoptionManifest where
  operationId : Identifier
  runId : Identifier
  kernelStoreId : Identifier
  orchestrator : OrchestratorIdentity
  generation : ℕ
  membership : List LegacyMember
  membershipSource : Identifier
  membershipComplete : Bool
  pageSeq : ℕ
  claimsUsed : ℕ
  claimsSource : Identifier
  maxClaims : ℕ
  deadlineAt : Timestamp
  isolationLeaseId : Identifier
  isolationExpiresAt : Timestamp
  isolationHeld : Bool
  deriving DecidableEq

/-- The manifest without the expiry that a retry may renew. -/
def AdoptionManifest.identity (manifest : AdoptionManifest) : AdoptionManifest :=
  { manifest with isolationExpiresAt := 0 }

structure ImportReceipt where
  adoption : AdoptionManifest
  importedAt : Timestamp
  authorizedPrincipal : Identifier
  workerPrincipal : Identifier
  workerExpiresAt : Timestamp
  cursor : Option Identifier
  captureComplete : Bool

/-! ### Application budgets -/

structure BudgetScope where
  owner : Identifier
  unit : Identifier
  sourceId : Identifier
  deriving DecidableEq

/-- `kernel_budget_policies.policy_json`. -/
structure BudgetPolicy where
  policyId : Identifier
  decisionId : Identifier
  runId : Identifier
  generation : ℕ
  kernelStoreId : Identifier
  orchestrator : OrchestratorIdentity
  scopes : List BudgetScope

/-- `kernel_budget_dependencies.declaration_json`. -/
structure BudgetDeclaration where
  runId : Identifier
  generation : ℕ
  policyId : Identifier
  executionId : Identifier
  command : Json.Text
  scopes : List BudgetScope
  decisionId : Identifier
  kernelStoreId : Identifier
  orchestrator : OrchestratorIdentity

/-- What a budget admission of the host has to name. -/
structure BudgetBinding where
  runId : Identifier
  generation : ℕ
  executionId : Identifier
  policyId : Identifier
  scopes : List BudgetScope
  decisionId : Identifier
  kernelStoreId : Identifier
  orchestrator : OrchestratorIdentity
  deriving DecidableEq

/-! ### What a host attests -/

/-- A credential is an opaque object of the host. -/
structure Credential where
  token : ℕ

/-- A budget admission in an answer of the host. -/
structure BudgetAdmission where
  allowed : Bool
  binding : BudgetBinding
  expiresAt : Timestamp

/-- What a drain admission of the host has to name. -/
structure DrainBinding where
  operationId : Identifier
  runId : Identifier
  executionId : Identifier
  generation : ℕ
  controlEpoch : ℕ
  kernelStoreId : Identifier
  orchestrator : Option OrchestratorIdentity
  deriving DecidableEq

/-- A drain admission in an answer of the host. -/
structure DrainAdmission where
  allowed : Bool
  binding : DrainBinding
  expiresAt : Timestamp

/-- The drain that a host authenticates for a pause. -/
structure DrainPause where
  operationId : Identifier
  runId : Identifier
  generation : ℕ
  controlEpoch : ℕ
  kernelStoreId : Identifier
  orchestrator : OrchestratorIdentity
  drainIds : List Identifier
  deriving DecidableEq

/-- The control lease in an answer of the host. -/
structure HeldControlLease where
  held : Bool
  binding : ControlLeaseBinding
  expiresAt : Timestamp

/-- The global admission in an answer of the host. -/
structure GlobalAdmission where
  opened : Bool
  operationId : Identifier
  kernelStoreId : Identifier
  orchestrator : OrchestratorIdentity
  runId : Identifier
  generation : ℕ
  controlEpoch : ℕ
  receipt : AdmissionReceipt

/-- The answer of the host's verifier to a credential. -/
structure Verification where
  principal : Identifier
  expiresAt : Timestamp
  /-- The actions that are permitted, each on one Run or execution. -/
  permissions : List (Identifier × String)
  /-- The Run, generation and epoch a worker credential is bound to. -/
  worker : Option (Identifier × ℕ × ℕ)
  drainAdmission : Option DrainAdmission
  drainPause : Option DrainPause
  controlLease : Option HeldControlLease
  globalAdmission : Option GlobalAdmission
  initialAdmissionReceipt : Option AdmissionReceipt
  /-- `budget_admissions`, or the single `budget_admission`. -/
  budgetAdmissions : List BudgetAdmission
  adoption : Option AdoptionManifest
  decision : Option RevisionDecision
  activation : Option ActivationDecision
  resume : Option ResumeDecision
  supervisorResolution : Option Json.Text
  supervisorReconciliation : Option Json.Text

/-- Whether the answer permits an action on a Run or an execution. -/
def Verification.permits (answer : Verification) (subject : Identifier) (action : String) : Bool :=
  answer.permissions.contains (subject, action)

open Library

/-! ### Executions and their events -/

/-- The columns that hold the current lease of an execution. They are set and cleared together. -/
structure LeaseColumns where
  leaseId : Identifier
  owner : Identifier
  expiresAt : Timestamp
  deriving DecidableEq

/-- A row of `kernel_executions`. The columns derived from the command are read off it. -/
structure ExecutionRow where
  executionId : Identifier
  command : ExecutionCommand
  state : ExecutionState
  attempt : ℕ
  redeliveryCount : ℕ
  nextAttemptAt : Timestamp
  lease : Option LeaseColumns
  fence : ℕ
  startedAt : Option Timestamp
  result : Option ExecutionResult
  recoveryEffectId : Option Identifier
  recoveryTargetState : Option RecoveryTarget
  recoveryReason : Option Identifier
  revision : ℕ
  createdAt : Timestamp
  updatedAt : Timestamp

/-- What may end the authority over an effect before its outcome is settled. -/
inductive ParkTrigger where
  | cancel
  | leaseExpired
  | deadLetter
  | handlerRecoverySignal
  | newerFenceObserved
  | indeterminateReuse
  | complete (status : ExecutionState)
  | beforeTerminal (eventType : String)
  deriving DecidableEq

def ParkTrigger.text : ParkTrigger → String
  | cancel => "cancel"
  | leaseExpired => "lease_expired"
  | deadLetter => "dead_letter"
  | handlerRecoverySignal => "handler_recovery_signal"
  | newerFenceObserved => "newer_fence_observed"
  | indeterminateReuse => "indeterminate_reuse"
  | complete status => "complete:" ++ status.text
  | beforeTerminal eventType => "before_terminal:" ++ eventType

/-- The types of execution events. A terminal event that only repeats its state is named after
it. -/
inductive EventType where
  | submitted
  | leased
  | started
  | leaseRenewed
  | retryScheduled
  | leaseExpiredRedelivery
  | effectRecoveryRequired
  | leaseExpiredEffectRecoveryRequired
  | effectRecoveryCancellationRequested
  | effectRecoveryPointerCorrected
  | effectRecoveryNextRequired
  | effectRecoveryResolved
  | retryExhaustedDead
  | permanentDead
  | leaseExpiredDead
  | cancelledAfterEffectRecovery
  | status (state : ExecutionState)
  deriving DecidableEq

def EventType.text : EventType → String
  | submitted => "submitted"
  | leased => "leased"
  | started => "started"
  | leaseRenewed => "lease_renewed"
  | retryScheduled => "retry_scheduled"
  | leaseExpiredRedelivery => "lease_expired_redelivery"
  | effectRecoveryRequired => "effect_recovery_required"
  | leaseExpiredEffectRecoveryRequired => "lease_expired_effect_recovery_required"
  | effectRecoveryCancellationRequested => "effect_recovery_cancellation_requested"
  | effectRecoveryPointerCorrected => "effect_recovery_pointer_corrected"
  | effectRecoveryNextRequired => "effect_recovery_next_required"
  | effectRecoveryResolved => "effect_recovery_resolved"
  | retryExhaustedDead => "retry_exhausted_dead"
  | permanentDead => "permanent_dead"
  | leaseExpiredDead => "lease_expired_dead"
  | cancelledAfterEffectRecovery => "cancelled_after_effect_recovery"
  | status state => state.text

/-- An execution event before it is given its place in the global sequence. -/
structure EventDraft where
  executionId : Identifier
  revision : ℕ
  eventType : EventType
  fromState : Option ExecutionState
  toState : ExecutionState
  data : List (String × Json)
  createdAt : Timestamp

/-- A row of `kernel_events`. Its `event_id` is the execution and the revision. -/
structure EventRow extends EventDraft where
  sequence : ℕ

/-! ### Effects and their events -/

/-- A row of `kernel_effects`; an unset response is a null column. -/
structure EffectRow where
  effectId : Identifier
  executionId : Identifier
  name : Identifier
  request : Json
  state : EffectState
  response : Option Json
  leaseId : Identifier
  claimId : Option Identifier
  attempt : ℕ
  fence : ℕ
  preparedAt : Timestamp
  committedAt : Option Timestamp
  indeterminateAt : Option Timestamp
  recoveryId : Option Identifier
  recoveryDecision : Option RecoveryDecision
  resolvedAt : Option Timestamp
  revision : ℕ

inductive EffectEventType where
  | prepared
  | repreparedAfterNotApplied
  | performClaimed
  | committed
  | markedIndeterminate
  | leaseExpiredIndeterminate
  | recoveryRequiredIndeterminate
  | recovery (decision : RecoveryDecision)
  deriving DecidableEq

/-- A row of `kernel_effect_events`. Its `event_id` is the effect and the revision. -/
structure EffectEventRow where
  effectId : Identifier
  executionId : Identifier
  revision : ℕ
  eventType : EffectEventType
  fromState : Option EffectState
  toState : EffectState
  data : List (String × Json)
  createdAt : Timestamp

/-! ### The result outbox -/

inductive OutboxState where
  | pending
  | delivering
  | delivered
  | dead
  deriving DecidableEq

/-- The columns that the delivery of a result moves. -/
structure DeliveryColumns where
  state : OutboxState
  lease : Option LeaseColumns
  fence : ℕ
  attempts : ℕ
  nextAttemptAt : Timestamp
  lastError : Option ExecutionError
  revision : ℕ
  updatedAt : Timestamp

/-- A row of `kernel_result_outbox`. -/
structure OutboxRow where
  resultId : Identifier
  executionId : Identifier
  result : ExecutionResult
  maxAttempts : ℕ
  createdAt : Timestamp
  delivery : DeliveryColumns

/-! ### Managed Runs -/

/-- A row of `kernel_run_controls`. -/
structure RunControl where
  runId : Identifier
  controlEpoch : ℕ
  generation : ℕ
  state : ControlState
  maxClaims : ℕ
  claimsUsed : ℕ
  deadlineAt : Timestamp

/-- A row of `kernel_managed_executions`. -/
structure ManagedExecution where
  executionId : Identifier
  runId : Identifier
  generation : ℕ
  drainAllowed : Bool

/-- A row of `kernel_run_authorities`. -/
structure RunAuthority where
  runId : Identifier
  generation : ℕ
  controlEpoch : ℕ
  principal : Identifier
  expiresAt : Timestamp
  revokedAt : Option Timestamp
  deriving DecidableEq

/-- A row of `kernel_legacy_pending_commands`. -/
structure PendingCommand where
  executionId : Identifier
  command : Json.Text

/-! ### Limits and supervision of an execution -/

/-- `entry_state` with the attempt and fence it belongs to. -/
inductive HandlerEntry where
  | unentered
  | pending (attempt fence : ℕ)
  | confirmed (attempt fence : ℕ)
  deriving DecidableEq

/-- The attempt and fence of an entry that was made. -/
def HandlerEntry.identity : HandlerEntry → Option (ℕ × ℕ)
  | unentered => none
  | pending attempt fence => some (attempt, fence)
  | confirmed attempt fence => some (attempt, fence)

/-- `entry_state == "pending"`. -/
def HandlerEntry.isPending : HandlerEntry → Bool
  | pending _ _ => true
  | unentered | confirmed _ _ => false

/-- `entry_state == "confirmed"`. -/
def HandlerEntry.isConfirmed : HandlerEntry → Bool
  | confirmed _ _ => true
  | unentered | pending _ _ => false

/-- The parent an execution is bound to, at one attempt and fence of it. -/
structure ParentBinding where
  executionId : Identifier
  attempt : ℕ
  fence : ℕ
  deriving DecidableEq

/-- A row of `kernel_execution_limits`. -/
structure ExecutionLimits where
  executionId : Identifier
  envelope : BudgetEnvelope
  parent : Option ParentBinding
  depth : ℕ
  entry : HandlerEntry

/-- A row of `kernel_supervision`. -/
structure SupervisionRow where
  executionId : Identifier
  attempt : ℕ
  fence : ℕ
  progressRevision : ℕ
  progressAt : Option Timestamp
  episodeId : Option Identifier
  policyVersion : Option Identifier
  episodeProgressRevision : Option ℕ

/-- A row of `kernel_progress_keys`. -/
structure ProgressKey where
  executionId : Identifier
  attempt : ℕ
  eventId : Identifier
  progressRevision : ℕ

/-- The primary key of `kernel_progress_keys`. -/
def ProgressKey.key (row : ProgressKey) : Identifier × ℕ × Identifier :=
  (row.executionId, row.attempt, row.eventId)

/-- A row of `kernel_supervisor_obligations`. -/
structure SupervisorObligation where
  executionId : Identifier
  attempt : ℕ
  fence : ℕ
  registeredAt : Timestamp
  resolution : Option Json.Text

/-- The primary key of `kernel_supervisor_obligations`. -/
def SupervisorObligation.key (row : SupervisorObligation) : Identifier × ℕ × ℕ :=
  (row.executionId, row.attempt, row.fence)

/-- A row of `kernel_budget_samples`. -/
structure BudgetSample where
  token : Identifier
  executionId : Identifier
  reason : String

/-- A row of `kernel_lifecycle_producers`, with the number of its undelivered events. -/
structure LifecycleProducer where
  token : Identifier
  executionId : Identifier
  attempt : ℕ
  fence : ℕ
  slots : ℕ
  opened : Bool
  undelivered : ℕ

/-! ### Gates of the host's application -/

/-- A row of `kernel_projection_requirements`. -/
structure ProjectionGate where
  runId : Identifier
  generation : ℕ
  decisionId : Identifier
  requirements : List ProjectionRequirement

/-- A row of `kernel_projection_declarations`. -/
structure ProjectionDeclaration where
  executionId : Identifier
  runId : Identifier
  generation : ℕ
  decisionId : Identifier
  command : Json.Text
  scopes : List Identifier

/-- The primary key of `kernel_projection_receipts`. -/
structure ProjectionReceipt where
  decisionId : Identifier
  participantId : Identifier
  scopeId : Identifier
  deriving DecidableEq

/-- The phases of a cross-store operation that a control lease may be taken over in. -/
inductive TakeoverPhase where
  | activation
  | resume
  deriving DecidableEq

/-- A row of `kernel_control_takeovers`, as far as other operations read its claim. -/
structure ControlTakeover where
  operationId : Identifier
  runId : Identifier
  phase : TakeoverPhase
  originalBinding : ControlLeaseBinding
  originalActivation : Option ActivationDecision
  originalResume : Option ResumeDecision
  newBinding : ControlLeaseBinding

/-- A staged page of revision content, as far as an installation reads the last one of a kind. -/
structure ContentPage where
  reference : ContentReference
  captureComplete : Bool
  barrierOperationId : Identifier
  sourceGeneration : ℕ
  decisionId : Identifier
  runId : Identifier
  kernelStoreId : Identifier
  orchestrator : OrchestratorIdentity

/-- The tables that the modelled operations consult and do not write: each may hold anything. -/
structure HostGates where
  budgetSamples : List BudgetSample
  budgetPolicies : List BudgetPolicy
  budgetDependencies : List BudgetDeclaration
  projectionDeclarations : List ProjectionDeclaration
  projectionReceipts : List ProjectionReceipt
  controlTakeovers : List ControlTakeover
  contentPages : List ContentPage
  /-- The pause operations whose initial capture is complete. -/
  completeCaptures : List Identifier
  lifecycleProducers : List LifecycleProducer
  lifecycleRetired : List (Identifier × ℕ × ℕ)

/-! ### The store -/

structure Database where
  /-- `kernel_store_identity`, written once when the schema is installed. -/
  storeId : Identifier
  /-- `kernel_clock.event_sequence`. -/
  eventSequence : ℕ
  executions : Table ExecutionRow.executionId
  events : List EventRow
  effects : Table EffectRow.effectId
  effectEvents : List EffectEventRow
  resultOutbox : Table OutboxRow.resultId
  runControls : Table RunControl.runId
  managedExecutions : Table ManagedExecution.executionId
  pauseReceipts : Table PauseReceipt.operationId
  resumeReceipts : Table fun receipt : ResumeReceipt => receipt.decision.operationId
  runAuthorities : Table RunAuthority.runId
  revisionInstalls : Table fun install : RevisionInstall => install.decision.decisionId
  activationReceipts : Table fun receipt : ActivationReceipt => receipt.decision.operationId
  initialAdmissionBindings : Table AdmissionReceipt.runId
  projectionRequirements : List ProjectionGate
  legacyImports : Table fun receipt : ImportReceipt => receipt.adoption.operationId
  legacyImportPages : List ImportReceipt
  legacyPendingCommands : Table PendingCommand.executionId
  executionLimits : Table ExecutionLimits.executionId
  supervision : Table SupervisionRow.executionId
  progressKeys : Table ProgressKey.key
  supervisorObligations : Table SupervisorObligation.key
  gates : HostGates

/-- The store right after its schema is installed. -/
def Database.initial (storeId : Identifier) : Database where
  storeId := storeId
  eventSequence := 0
  executions := ∅
  events := []
  effects := ∅
  effectEvents := []
  resultOutbox := ∅
  runControls := ∅
  managedExecutions := ∅
  pauseReceipts := ∅
  resumeReceipts := ∅
  runAuthorities := ∅
  revisionInstalls := ∅
  activationReceipts := ∅
  initialAdmissionBindings := ∅
  projectionRequirements := []
  legacyImports := ∅
  legacyImportPages := []
  legacyPendingCommands := ∅
  executionLimits := ∅
  supervision := ∅
  progressKeys := ∅
  supervisorObligations := ∅
  gates :=
    { budgetSamples := [], budgetPolicies := [], budgetDependencies := []
      projectionDeclarations := [], projectionReceipts := [], controlTakeovers := []
      contentPages := [], completeCaptures := [], lifecycleProducers := []
      lifecycleRetired := [] }

/-! ### Writes to the life of an execution -/

/-- The statements that write an execution, its effects, its history and its result. Every one
of them concerns one execution. -/
inductive Write where
  /-- `INSERT` or `UPDATE` of `kernel_executions`. -/
  | execution (row : ExecutionRow)
  /-- `_event`: take the next number of the global sequence and append. -/
  | event (draft : EventDraft)
  /-- `INSERT` or `UPDATE` of `kernel_effects`. -/
  | effect (row : EffectRow)
  /-- `_effect_event`: append to `kernel_effect_events`. -/
  | effectEvent (row : EffectEventRow)
  /-- `INSERT` into `kernel_result_outbox`. -/
  | outbox (row : OutboxRow)

namespace Write

def executionId : Write → Identifier
  | execution row => row.executionId
  | event draft => draft.executionId
  | effect row => row.executionId
  | effectEvent row => row.executionId
  | outbox row => row.executionId

end Write

def Database.write (database : Database) : Write → Database
  | .execution row => { database with executions := database.executions.put row }
  | .event draft =>
    { database with
      eventSequence := database.eventSequence + 1
      events := database.events ++ [⟨draft, database.eventSequence + 1⟩] }
  | .effect row => { database with effects := database.effects.put row }
  | .effectEvent row => { database with effectEvents := database.effectEvents ++ [row] }
  | .outbox row => { database with resultOutbox := database.resultOutbox.put row }

def Database.writeAll (database : Database) (writes : List Write) : Database :=
  writes.foldl Database.write database

@[simp] theorem Database.writeAll_nil (database : Database) : database.writeAll [] = database := rfl

@[simp] theorem Database.writeAll_cons (database : Database) (first : Write)
    (rest : List Write) :
    database.writeAll (first :: rest) = (database.write first).writeAll rest := rfl

theorem Database.writeAll_append (database : Database) (first second : List Write) :
    database.writeAll (first ++ second) = (database.writeAll first).writeAll second :=
  List.foldl_append

/-! ### Decoding a stored row -/

/-- `_lease`: the lease record of a row that holds one. -/
def ExecutionRow.leaseRecord (row : ExecutionRow) : Except KernelError (Option ExecutionLease) :=
  match row.lease with
  | none => .ok none
  | some columns =>
    if fencePositive : 1 ≤ row.fence then
      if attemptPositive : 1 ≤ row.attempt then
        if revisionPositive : 1 ≤ row.revision then
          .ok (some
            { executionId := row.executionId, leaseId := columns.leaseId, owner := columns.owner
              fence := row.fence, attempt := row.attempt, expiresAt := columns.expiresAt
              revision := row.revision, fencePositive, attemptPositive, revisionPositive })
        else .error (.contractValidation "revision must be an integer >= 1")
      else .error (.contractValidation "attempt must be an integer >= 1")
    else .error (.contractValidation "fence must be an integer >= 1")

def ExecutionRow.snapshot (row : ExecutionRow) : Except KernelError ExecutionSnapshot := do
  let lease ← row.leaseRecord
  ExecutionSnapshot.make
    { executionId := row.executionId
      state := row.state
      revision := row.revision
      attempt := row.attempt
      fence := row.fence
      redeliveryCount := row.redeliveryCount
      command := row.command
      lease := lease
      result := row.result
      recoveryEffectId := row.recoveryEffectId
      recoveryTargetState := row.recoveryTargetState
      recoveryReason := row.recoveryReason
      nextAttemptAt := row.nextAttemptAt
      startedAt := row.startedAt
      createdAt := row.createdAt
      updatedAt := row.updatedAt }

/-- The columns of an effect as the fields of its record. -/
def EffectRow.fields (row : EffectRow) : EffectFields where
  effectId := row.effectId
  executionId := row.executionId
  name := row.name
  request := row.request
  state := row.state
  leaseId := row.leaseId
  claimId := row.claimId
  attempt := row.attempt
  fence := row.fence
  preparedAt := row.preparedAt
  response := row.response.getD .null
  committedAt := row.committedAt
  indeterminateAt := row.indeterminateAt
  recoveryId := row.recoveryId
  recoveryDecision := row.recoveryDecision
  resolvedAt := row.resolvedAt
  revision := row.revision

/-- `_effect`. -/
def EffectRow.record (row : EffectRow) : Except KernelError EffectRecord :=
  EffectRecord.make row.fields

theorem EffectRow.record_fields {row : EffectRow} {record : EffectRecord}
    (decoded : row.record = .ok record) : record.toEffectFields = row.fields :=
  EffectRecord.make_fields decoded

/-! ### The surroundings of an operation -/

/-- What a host is asked about a lifecycle operation. -/
structure LifecycleRequest where
  operation : String
  runId : Option Identifier
  generation : Option ℕ
  executionId : Identifier
  attempt : ℕ
  fence : ℕ
  producerId : Option Identifier

/-- What a host answers about a lifecycle operation. -/
structure LifecycleAnswer where
  allowed : Bool
  expiresAt : Timestamp

/-- What becomes of the storage while an operation runs. -/
inductive StorageFault where
  /-- Nothing goes wrong. -/
  | none
  /-- The database gives up the whole transaction, or its commit does not take place. -/
  | lost (failure : KernelError)
  /-- The commit takes place but the caller is told that it failed. -/
  | unacknowledged (failure : KernelError)

/-- The configuration of a kernel object and what happens around one call. Samples and answers are
drawn one after another. -/
structure Environment where
  arithmetic : FloatArithmetic
  defaultLeaseSeconds : Timestamp
  leasePositive : 0 < defaultLeaseSeconds
  outboxMaxAttempts : ℕ
  attemptsPositive : 1 ≤ outboxMaxAttempts
  workerCredential : Option Credential
  /-- The host's verifier, if one is configured; it may raise, which answers nothing. -/
  authorityVerifier : Option (ℕ → Credential → Option Verification)
  lifecycleVerifier : Option (ℕ → LifecycleRequest → Option LifecycleAnswer)
  /-- The wall clock; a sample that is not a finite non-negative number answers nothing. -/
  wallTime : ℕ → Option Timestamp
  /-- `sample_clock`, before its wall time is replaced by the one passed to it. -/
  clockSample : ℕ → ClockCheckpoint
  /-- `uuid4().hex`. -/
  uuid : ℕ → Identifier
  fault : StorageFault

/-- An authority check that an operation repeats right before its commit. -/
inductive PrecommitCheck where
  | runAuthority (runId : Identifier) (action : String) (executionId : Option Identifier)
  | lifecycle (request : LifecycleRequest)
  | reconciliation (credential : Credential) (executionId : Identifier) (decision : Json.Text)
    (principal : Identifier)

/-- Where an interrupted scan for claimable work goes on. -/
structure ClaimCursor where
  revisions : Option (List Identifier)
  createdAt : Timestamp
  executionId : Identifier

/-- The state of a running operation other than the tables. -/
structure Session where
  /-- `kernel_clock.watermark`, as the open transaction sees it. -/
  watermark : Timestamp
  /-- How many samples have been drawn. -/
  ticks : ℕ
  checks : List PrecommitCheck
  budgetExpiry : Option Timestamp
  continuation : Option ClaimCursor

instance : Preorder Session where
  le first second := first.watermark ≤ second.watermark
  le_refl session := le_refl session.watermark
  le_trans _ _ _ first second := le_trans first second

structure Frame where
  database : Database
  session : Session

instance : Preorder Frame where
  le first second := first.session ≤ second.session
  le_refl frame := le_refl frame.session
  le_trans _ _ _ first second := le_trans first second

/-- A program that reads the tables and writes none. -/
abbrev Probe := Attempt (Environment × Database) Session KernelError

abbrev KernelM := Attempt Environment Frame KernelError

/-! ### Reading the surroundings -/

namespace Probe

def database : Probe Database where
  run surroundings session := (.ok surroundings.2, session)
  grows _ session := le_refl session

def environment : Probe Environment where
  run surroundings session := (.ok surroundings.1, session)
  grows _ session := le_refl session

def draw {Sample : Type} (sample : Environment → ℕ → Sample) : Probe Sample where
  run surroundings session :=
    (.ok (sample surroundings.1 session.ticks), { session with ticks := session.ticks + 1 })
  grows _ session := le_refl session.watermark

def wallTime : Probe Timestamp := do
  let sample ← draw Environment.wallTime
  Attempt.expect sample (.value "clock must be a finite number")

/-- Move the watermark to a time, if that is ahead. -/
def raiseWatermark (time : Timestamp) : Probe Timestamp where
  run _ session :=
    (.ok (max session.watermark time), { session with watermark := max session.watermark time })
  grows _ session := le_max_left session.watermark time

def advanceClock : Probe Timestamp := do
  let wall ← wallTime
  raiseWatermark wall

/-- `sample_clock(wall_time=…)`. -/
def sampleClock (wallAt : Timestamp) : Probe ClockCheckpoint := do
  let sample ← draw Environment.clockSample
  return { sample with wallAt }

def addCheck (check : PrecommitCheck) : Probe Unit :=
  Attempt.change (fun session => { session with checks := session.checks ++ [check] })
    fun session => le_refl session.watermark

/-- Let the commit fail once an admission has expired. -/
def limitExpiry (expiry : Timestamp) : Probe Unit :=
  Attempt.change
    (fun session =>
      { session with
        budgetExpiry := some (session.budgetExpiry.elim expiry fun previous => min previous expiry) })
    fun session => le_refl session.watermark

/-- Run a probe; if it fails in one of these ways, forget what it left for the commit and answer
nothing. -/
def attempting {Answer : Type} (recoverable : KernelError → Bool) (program : Probe Answer) :
    Probe (Option Answer) where
  run surroundings session :=
    match program.run surroundings session with
    | (.ok value, next) => (.ok (some value), next)
    | (.error failure, next) =>
      if recoverable failure then
        (.ok none, { next with checks := session.checks, budgetExpiry := session.budgetExpiry })
      else (.error failure, next)
  grows surroundings session := by
    have grown := program.grows surroundings session
    rcases outcome : program.run surroundings session with ⟨_ | value, next⟩ <;>
      rw [outcome] at grown
    · dsimp only
      split <;> exact grown
    · exact grown

end Probe

namespace KernelM

def probe {Answer : Type} (program : Probe Answer) : KernelM Answer where
  run environment frame :=
    let outcome := program.run (environment, frame.database) frame.session
    (outcome.1, { frame with session := outcome.2 })
  grows environment frame := program.grows (environment, frame.database) frame.session

def database : KernelM Database where
  run _ frame := (.ok frame.database, frame)
  grows _ frame := le_refl frame

def modify (change : Database → Database) : KernelM Unit where
  run _ frame := (.ok (), { frame with database := change frame.database })
  grows _ frame := le_refl frame.session

/-- Carry out one write to the life of an execution. -/
def write (entry : Write) : KernelM Unit := modify fun database => database.write entry

/-- `uuid4().hex`. -/
def uuid : KernelM Identifier := probe (Probe.draw Environment.uuid)

end KernelM

open Attempt KernelM

/-! ### The rules of the primitives -/

section Rules

variable {Answer : Type} {environment : Environment} {frame : Frame}

theorem ensures_probe {program : Probe Answer} {condition : Answer → Frame → Prop}
    (ensures : Ensures program (environment, frame.database) frame.session
      fun value session => condition value { frame with session }) :
    Ensures (probe program) environment frame condition := by
  intro value next success
  have outcome : program.run (environment, frame.database) frame.session =
      (.ok value, next.session) := by
    have equal := congrArg Prod.fst success
    have sessions := congrArg (fun pair => pair.2.session) success
    exact Prod.ext equal sessions
  have kept : next.database = frame.database :=
    (congrArg (fun pair => pair.2.database) success).symm
  have held : condition value { frame with session := next.session } :=
    ensures value next.session outcome
  have same : ({ frame with session := next.session } : Frame) = next := by
    cases next
    cases kept
    rfl
  rwa [same] at held

/-- If the program succeeds, it moves the database along a relation. -/
abbrev Relates (relation : Database → Database → Prop) {Answer : Type} (program : KernelM Answer)
    (environment : Environment) (frame : Frame) : Prop :=
  Ensures program environment frame fun _ next => relation frame.database next.database

theorem ensures_database {condition : Database → Frame → Prop}
    (holds : condition frame.database frame) :
    Ensures KernelM.database environment frame condition := by
  intro value next success
  cases success
  exact holds

theorem then_read {rest : Database → KernelM Answer} {condition : Answer → Frame → Prop}
    (holds : Ensures (rest frame.database) environment frame condition) :
    Ensures (KernelM.database >>= rest) environment frame condition :=
  ensures_bind (ensures_database holds)

variable {condition : Unit → Frame → Prop}

theorem ensures_modify {change : Database → Database}
    (holds : condition () { frame with database := change frame.database }) :
    Ensures (modify change) environment frame condition := by
  intro value next success
  cases success
  exact holds

theorem ensures_write {entry : Write}
    (holds : condition () { frame with database := frame.database.write entry }) :
    Ensures (write entry) environment frame condition :=
  ensures_modify holds

variable {surroundings : Environment × Database}

variable {session : Session}

theorem ensures_probe_database {condition : Database → Session → Prop}
    (holds : condition surroundings.2 session) :
    Ensures Probe.database surroundings session condition := by
  intro value next success
  cases success
  exact holds

theorem ensures_probe_environment {condition : Environment → Session → Prop}
    (holds : condition surroundings.1 session) :
    Ensures Probe.environment surroundings session condition := by
  intro value next success
  cases success
  exact holds

end Rules

/-! ### Clocks and numbers -/

def checkedAdd (arithmetic : FloatArithmetic) (base delta : Timestamp) (name : String) :
    Except KernelError Timestamp := do
  match arithmetic.add base delta with
  | none => .error (.value (name ++ " addition overflowed the finite clock range"))
  | some result =>
    ensure (0 < delta → base < result)
      (.value (name ++ " is too small to advance the logical clock"))
    return result

/-- `_positive_duration` of an optional argument with a default. -/
def durationOr (fallback : Timestamp) (value : Option Timestamp) (name : String) :
    Except KernelError Timestamp :=
  match value with
  | none => .ok fallback
  | some seconds => do
    ensure (0 < seconds) (.value (name ++ " must be finite and positive"))
    return seconds

/-! ### Reading rows -/

def getRow (executionId : Identifier) : KernelM ExecutionRow := do
  let database ← KernelM.database
  expect (database.executions.find? executionId) (.executionNotFound executionId)

def snapshot (row : ExecutionRow) : KernelM ExecutionSnapshot := lift row.snapshot

def leaseContext (row : ExecutionRow) (lease : ExecutionLease) : List (String × Json) :=
  [("execution_id", lease.executionId.toJson), ("lease_id", lease.leaseId.toJson),
    ("expected_revision", .ofNat lease.revision), ("actual_revision", .ofNat row.revision),
    ("attempt", .ofNat lease.attempt), ("actual_attempt", .ofNat row.attempt),
    ("fence", .ofNat lease.fence), ("actual_fence", .ofNat row.fence),
    ("state", row.state.toJson)]

def assertLeaseRow (row : ExecutionRow) (lease : ExecutionLease) (timestamp : Timestamp)
    (states : List ExecutionState) (settlement : Bool) : Except KernelError Unit := do
  ensure (row.state.terminal = false)
    (.staleFence "terminal execution has no active lease" (leaseContext row lease))
  ensure (row.state ∈ states)
    (.staleFence "lease is not valid for the current state" (leaseContext row lease))
  ensure (row.lease = some ⟨lease.leaseId, lease.owner, lease.expiresAt⟩ ∧
      row.revision = lease.revision ∧ row.attempt = lease.attempt ∧ row.fence = lease.fence)
    (.staleFence "lease attempt, fence, or revision is stale" (leaseContext row lease))
  ensure (settlement = true ∨ timestamp < lease.expiresAt)
    (.staleFence "lease has expired" (leaseContext row lease))

def assertLease (lease : ExecutionLease) (timestamp : Timestamp) (states : List ExecutionState)
    (settlement : Bool := false) : KernelM ExecutionRow := do
  let row ← getRow lease.executionId
  lift (assertLeaseRow row lease timestamp states settlement)
  return row

/-- The lease is exactly the one the row holds now. -/
structure ExecutionRow.Holds (row : ExecutionRow) (lease : ExecutionLease) : Prop where
  identity : row.executionId = lease.executionId
  columns : row.lease = some ⟨lease.leaseId, lease.owner, lease.expiresAt⟩
  revision : row.revision = lease.revision
  attempt : row.attempt = lease.attempt
  fence : row.fence = lease.fence

/-- `_event`. -/
def appendEvent (draft : EventDraft) : KernelM Unit := do
  let database ← KernelM.database
  require (database.eventSequence < maxSqliteInteger) (.overflow "kernel event sequence exhausted")
  write (.event draft)

/-- An `UPDATE` of an execution that names the row by its key and by the state and revision it was
read at, with its `_cas`. -/
def casExecution (before after : ExecutionRow) (operation : String) : KernelM Unit := do
  let database ← KernelM.database
  require ((database.executions.find? before.executionId).map (fun row => (row.state, row.revision)) =
      some (before.state, before.revision))
    (.casConflict ("revision CAS failed during " ++ operation))
  write (.execution after)

section Rules

variable {environment : Environment} {frame : Frame}

variable {condition : ExecutionRow → Frame → Prop}

theorem getRow_ensures {executionId : Identifier}
    (holds : ∀ row, frame.database.executions.find? executionId = some row →
      condition row frame) :
    Ensures (getRow executionId) environment frame condition :=
  then_read (ensures_expect holds)

variable {lease : ExecutionLease} {timestamp : Timestamp} {states : List ExecutionState}

variable {settlement : Bool}

theorem assertLeaseRow_ok {row : ExecutionRow}
    (accepted : assertLeaseRow row lease timestamp states settlement = .ok ())
    (identity : row.executionId = lease.executionId) :
    row.Holds lease ∧ row.state ∈ states ∧ row.state.terminal = false ∧
      (settlement = true ∨ timestamp < lease.expiresAt) := by
  simp only [assertLeaseRow, ensure_bind_eq_ok, ensure_eq_ok] at accepted
  obtain ⟨live, member, ⟨columns, revision, attempt, fence⟩, unexpired⟩ := accepted
  exact ⟨⟨identity, columns, revision, attempt, fence⟩, member, live, unexpired⟩

theorem assertLease_ensures
    (holds : ∀ row, frame.database.executions.find? lease.executionId = some row →
      row.Holds lease → row.state ∈ states →
      (settlement = true ∨ timestamp < lease.expiresAt) → condition row frame) :
    Ensures (assertLease lease timestamp states settlement) environment frame condition := by
  refine ensures_bind (getRow_ensures fun row found => ?_)
  refine then_lift fun _ accepted => ?_
  obtain ⟨held, member, -, unexpired⟩ := assertLeaseRow_ok accepted (Table.key_of_find? found)
  exact ensures_pure (holds row found held member unexpired)

theorem appendEvent_ensures {draft : EventDraft} {condition : Unit → Frame → Prop}
    (holds : condition () { frame with database := frame.database.write (.event draft) }) :
    Ensures (appendEvent draft) environment frame condition :=
  then_read (then_require fun _ => ensures_write holds)

theorem casExecution_ensures {before after : ExecutionRow} {operation : String}
    {condition : Unit → Frame → Prop}
    (holds : condition () { frame with database := frame.database.write (.execution after) }) :
    Ensures (casExecution before after operation) environment frame condition :=
  then_read (then_require fun _ => ensures_write holds)

end Rules

end DispatcherSdk.ExecutionKernel
