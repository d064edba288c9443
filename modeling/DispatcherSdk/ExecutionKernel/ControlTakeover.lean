/-
This file models the takeover of a control lease in the Kernel: a host that has excluded the
holder of a lease hands the operation that was decided under it to a new lease.

A takeover is recorded as a claim with its receipt, and nothing else is written. The
receipts of the operation and the control of its Run stay what they were. The limit on the
encoded size of a claim is left out.
-/

import DispatcherSdk.ExecutionKernel.Revision
import Mathlib.Data.List.Chain
import Mathlib.Data.List.MinMax

namespace DispatcherSdk.ExecutionKernel

open Library Library.Checked Table List Option

/-! ### Decisions and receipts of both phases -/

/-- The decision of an activation or of a resume. -/
inductive ControlDecision where
  | activation (decision : ActivationDecision)
  | resume (decision : ResumeDecision)
  deriving DecidableEq

namespace ControlDecision

def operationId : ControlDecision → Identifier
  | activation decision => decision.operationId
  | resume decision => decision.operationId

def runId : ControlDecision → Identifier
  | activation decision => decision.runId
  | resume decision => decision.runId

def decisionId : ControlDecision → Identifier
  | activation decision => decision.decisionId
  | resume decision => decision.decisionId

def barrierOperationId : ControlDecision → Identifier
  | activation decision => decision.barrierOperationId
  | resume decision => decision.barrierOperationId

def completionOperationId : ControlDecision → Identifier
  | activation decision => decision.completionOperationId
  | resume decision => decision.completionOperationId

def kernelStoreId : ControlDecision → Identifier
  | activation decision => decision.kernelStoreId
  | resume decision => decision.kernelStoreId

def orchestrator : ControlDecision → OrchestratorIdentity
  | activation decision => decision.orchestrator
  | resume decision => decision.orchestrator

def generation : ControlDecision → ℕ
  | activation decision => decision.generation
  | resume decision => decision.generation

def expectedControlEpoch : ControlDecision → ℕ
  | activation decision => decision.expectedControlEpoch
  | resume decision => decision.expectedControlEpoch

def kernelInstallReceipt : ControlDecision → RevisionInstall
  | activation decision => decision.kernelInstallReceipt
  | resume decision => decision.kernelInstallReceipt

/-- The lease that the decision was taken under. -/
def lease : ControlDecision → ControlLeaseBinding
  | activation decision => decision.lease
  | resume decision => decision.lease

/-- The decision without the lease that it was taken under. -/
def unleased : ControlDecision → ControlDecision
  | activation decision => .activation decision.unleased
  | resume decision => .resume decision.unleased

/-- The decision without the expiry of its lease, which a renewal changes. -/
def unexpiring : ControlDecision → ControlDecision
  | activation decision => .activation { decision with leaseExpiresAt := 0 }
  | resume decision => .resume { decision with leaseExpiresAt := 0 }

end ControlDecision

/-- The receipt of an activation or of a resume. -/
inductive ControlReceipt where
  | activation (receipt : ActivationReceipt)
  | resume (receipt : ResumeReceipt)
  deriving DecidableEq

def ControlReceipt.decision : ControlReceipt → ControlDecision
  | activation receipt => .activation receipt.decision
  | resume receipt => .resume receipt.decision

/-- What the Kernel has recorded of an operation. -/
def Database.controlReceipt (database : Database) (phase : TakeoverPhase)
    (operationId runId : Identifier) : Option ControlReceipt :=
  match phase with
  | .activation => ((database.activationReceipts.find? operationId).filter fun receipt =>
      receipt.decision.runId = runId).map .activation
  | .resume => ((database.resumeReceipts.find? operationId).filter fun receipt =>
      receipt.decision.runId = runId).map .resume

/-! ### Takeovers -/

/-- What the host attests to about a takeover. -/
structure TakeoverClaim where
  takeoverId : Identifier
  phase : TakeoverPhase
  operationId : Identifier
  runId : Identifier
  kernelStoreId : Identifier
  orchestrator : OrchestratorIdentity
  generation : ℕ
  controlEpoch : ℕ
  originalDecision : ControlDecision
  originalReceipt : Option ControlReceipt
  previous : ControlLeaseBinding
  new : ControlLeaseBinding
  leaseExpiresAt : Timestamp
  leaseHeld : Bool
  oldHolderExcluded : Bool
  maxClaims : ℕ
  claimsUsed : ℕ
  deadlineAt : Timestamp
  deriving DecidableEq

namespace TakeoverClaim

/-- The claim without the expiry of the new lease, which a renewal changes. -/
def unexpiring (claim : TakeoverClaim) : TakeoverClaim := { claim with leaseExpiresAt := 0 }

def WellFormed (claim : TakeoverClaim) : Prop :=
  (∀ name ∈ [claim.takeoverId, claim.operationId, claim.runId, claim.kernelStoreId,
      claim.orchestrator.storeId, claim.orchestrator.incarnation, claim.previous.leaseId,
      claim.new.leaseId], name.text.utf8ByteSize ≤ 4096) ∧
    (∀ count ∈ [claim.generation, claim.controlEpoch, claim.previous.leaseFence,
      claim.new.leaseFence, claim.maxClaims, claim.claimsUsed], count ≤ maxSqliteInteger) ∧
    claim.previous.leaseFence < claim.new.leaseFence ∧ claim.claimsUsed ≤ claim.maxClaims ∧
    claim.leaseHeld = true ∧ claim.oldHolderExcluded = true

instance (claim : TakeoverClaim) : Decidable claim.WellFormed := by
  unfold WellFormed
  infer_instance

/-- The claim is about its original decision. -/
def Matches (claim : TakeoverClaim) : Prop :=
  claim.originalDecision.operationId = claim.operationId ∧
    claim.originalDecision.runId = claim.runId ∧
    claim.originalDecision.kernelStoreId = claim.kernelStoreId ∧
    claim.originalDecision.orchestrator = claim.orchestrator ∧
    claim.originalDecision.generation = claim.generation ∧
    claim.originalDecision.expectedControlEpoch = claim.controlEpoch ∧
    match claim.phase, claim.originalDecision with
    | .resume, .resume decision => decision.targetControlEpoch = claim.controlEpoch + 1
    | .resume, .activation _ => False
    | .activation, _ => True

instance (claim : TakeoverClaim) : Decidable claim.Matches := by
  unfold Matches
  split <;> infer_instance

/-- The claim, as far as other operations read it. -/
def summary (claim : TakeoverClaim) : ControlTakeover where
  operationId := claim.operationId
  runId := claim.runId
  phase := claim.phase
  originalBinding := claim.originalDecision.lease
  originalActivation :=
    match claim.originalDecision with
    | .activation decision => some decision
    | .resume _ => none
  originalResume :=
    match claim.originalDecision with
    | .activation _ => none
    | .resume decision => some decision
  newBinding := claim.new

end TakeoverClaim

structure TakeoverReceipt where
  claim : TakeoverClaim
  recordedAt : Timestamp
  deriving DecidableEq

/-- The Kernel's tables, with `kernel_control_takeovers` in the order of recording. -/
structure TakeoverKernel where
  database : Database
  takeovers : List TakeoverReceipt

namespace TakeoverKernel

variable (kernel : TakeoverKernel)

/-- What the operations that consult takeovers find. -/
def gates : HostGates :=
  { kernel.database.gates with controlTakeovers := kernel.takeovers.map (·.claim.summary) }

/-- The takeovers of one operation, in the order of recording. -/
def chain (operationId : Identifier) : List TakeoverReceipt :=
  kernel.takeovers.filter fun receipt => receipt.claim.operationId = operationId

/-- `_verify_historical_control_decision`: the decision was taken under a lease that a takeover of
the original one has handed over. -/
def historical (phase : TakeoverPhase) (original decision : ControlDecision) : Prop :=
  original.unleased = decision.unleased ∧
    ∃ receipt ∈ kernel.chain original.operationId,
      receipt.claim.new.leaseFence = decision.lease.leaseFence ∧ receipt.claim.phase = phase ∧
        receipt.claim.new.leaseId = decision.lease.leaseId ∧
        receipt.claim.originalDecision = original

instance (phase : TakeoverPhase) (original decision : ControlDecision) :
    Decidable (kernel.historical phase original decision) := by
  unfold historical
  infer_instance

/-- The takeover of a Run with the highest fence. -/
def latestOf (runId : Identifier) : Option TakeoverReceipt :=
  (kernel.takeovers.filter fun receipt => receipt.claim.runId = runId).argmax
    fun receipt => receipt.claim.new.leaseFence

end TakeoverKernel

/-! ### The host -/

/-- The host's answer to a credential, as far as a takeover reads it. -/
structure TakeoverAnswer where
  principal : Identifier
  expiresAt : Timestamp
  claim : TakeoverClaim
  permissions : List (Identifier × String)

/-- The clock as observed at the start, for the second answer, and at the end, and the two answers.
-/
structure TakeoverSurroundings where
  start : Timestamp
  again : Timestamp
  finish : Timestamp
  first : Option TakeoverAnswer
  second : Option TakeoverAnswer

def takeoverProof (answer : Option TakeoverAnswer) (claim : TakeoverClaim)
    (timestamp : Timestamp) : Except KernelError (Identifier × Timestamp) := do
  let refusal := KernelError.storageIsolation "host did not authorize control takeover"
  let verified ← present answer refusal
  check (principalFits verified.principal ∧ timestamp < verified.expiresAt ∧
    timestamp < claim.leaseExpiresAt ∧ verified.claim = claim ∧
    verified.permissions.contains (claim.runId, "kernel:takeover_control") = true) refusal
  return (verified.principal, verified.expiresAt)

/-- The host is asked again before the commit. -/
def TakeoverSurroundings.confirm (surroundings : TakeoverSurroundings) (claim : TakeoverClaim)
    (proof : Identifier × Timestamp) (authorityEnd : Option Timestamp) :
    Except KernelError Unit := do
  let expired := KernelError.storageIsolation "control takeover authority expired"
  let again ← takeoverProof surroundings.second claim surroundings.again
  check (again = proof) expired
  check (surroundings.finish < min proof.2 claim.leaseExpiresAt ∧
    ∀ expiry ∈ authorityEnd, surroundings.finish < expiry) expired

/-! ### The checks on what is stored -/

namespace TakeoverKernel

variable (kernel : TakeoverKernel)

/-- The installed revision, the budget of the Run and the authority of its worker. -/
def checkInstallation (claim : TakeoverClaim) (timestamp : Timestamp) :
    Except KernelError (RevisionInstall × RunControl × RunAuthority) := do
  let original := claim.originalDecision
  let unavailable := KernelError.casConflict "takeover participant facts unavailable"
  let install ← present ((kernel.database.revisionInstalls.find? original.decisionId).filter
    fun install => install.decision.runId = claim.runId) unavailable
  let control ← present (kernel.database.runControls.find? claim.runId) unavailable
  let authority ← present (kernel.database.runAuthorities.find? claim.runId) unavailable
  check (install = original.kernelInstallReceipt ∧
      install.decision.kernelStoreId = original.kernelStoreId ∧
      install.decision.orchestrator = original.orchestrator ∧
      install.decision.runId = original.runId ∧
      install.decision.barrierOperationId = original.barrierOperationId ∧
      install.decision.decisionId = original.decisionId ∧
      install.decision.targetGeneration = claim.generation ∧
      (control.maxClaims, control.claimsUsed, control.deadlineAt) =
        (claim.maxClaims, claim.claimsUsed, claim.deadlineAt) ∧
      authority.generation = claim.generation ∧ authority.revokedAt = none ∧
      timestamp < authority.expiresAt)
    (.casConflict "takeover installation, budget or authority differs")
  return (install, control, authority)

/-- The pause of the revision is completed, and nothing else holds or ends the Run. -/
def checkBarriers (claim : TakeoverClaim) : Except KernelError Unit := do
  let original := claim.originalDecision
  check (∀ receipt ∈ kernel.database.pauseReceipts.rows, receipt.runId = claim.runId →
      receipt.isCancellationFence = false)
    (.casConflict "takeover Run is cancelled")
  check (∃ completion ∈ kernel.database.pauseReceipts.find? original.completionOperationId,
      completion.runId = claim.runId ∧
        completion.barrierOperationId? = some original.barrierOperationId)
    (.casConflict "takeover pause completion differs")
  check (∀ receipt ∈ kernel.database.unresolvedBarriers claim.runId,
      receipt.operationId = original.barrierOperationId ∨
        receipt.operationId = original.completionOperationId)
    (.casConflict "another control barrier is unresolved")

/-- The receipt of the operation is the one that the claim names, or was issued since. -/
def checkReceipt (claim : TakeoverClaim) (existing : Option ControlReceipt) :
    Except KernelError Unit := do
  check (existing = claim.originalReceipt ∨ (claim.originalReceipt = none ∧
      kernel.chain claim.operationId ≠ [] ∧ existing ≠ none))
    (.casConflict "takeover original participant receipt differs")
  check (existing = claim.originalReceipt ∨ ∀ receipt ∈ existing,
      kernel.historical claim.phase claim.originalDecision receipt.decision)
    (.casConflict "takeover participant receipt has no authenticated issuing lease")
  check (∀ receipt ∈ claim.originalReceipt,
      receipt.decision.unexpiring = claim.originalDecision.unexpiring ∨
        (kernel.chain claim.operationId ≠ [] ∧
          kernel.historical claim.phase claim.originalDecision receipt.decision))
    (.casConflict "takeover original receipt decision differs")

/-- A resume continues its activation under the lease that the activation is bound to. -/
def checkActivation (claim : TakeoverClaim) (decision : ResumeDecision) :
    Except KernelError Unit := do
  let activation ← present
    ((kernel.database.activationReceipts.find? decision.activationOperationId).filter
      fun activation => activation.decision.runId = claim.runId ∧
        activation = decision.activationReceipt)
    (.casConflict "takeover activation differs")
  check (decision.continues activation.decision)
    (.casConflict "takeover activation decision differs")
  let binding ← kernel.gates.effectiveBinding .activation decision.activationOperationId
    activation.decision.lease
  check (binding = decision.lease) (.casConflict "takeover activation lease differs")
  let policy := kernel.database.gates.budgetPolicies.find? fun policy =>
    policy.runId = claim.runId ∧ policy.generation = claim.generation
  check (policy.map (·.decisionId) = some decision.decisionId)
    (.casConflict "takeover budget policy differs")

/-- The Run is where the phase has left it, and its worker is the installed or the resumed one. -/
def checkControl (claim : TakeoverClaim) (existing : Option ControlReceipt)
    (install : RevisionInstall) (control : RunControl) (authority : RunAuthority) :
    Except KernelError Unit := do
  let resumed :=
    match claim.phase, existing with
    | .resume, some (.resume receipt) => some receipt
    | _, _ => none
  let expected : ControlState × ℕ :=
    if resumed.isSome then (.active, claim.controlEpoch + 1) else (.paused, claim.controlEpoch)
  check (control.generation = claim.generation ∧
      (control.state, control.controlEpoch) = expected ∧ authority.controlEpoch = expected.2)
    (.casConflict "takeover control state differs")
  match resumed with
  | none =>
    check ((authority.principal, authority.expiresAt) =
        (install.workerPrincipal, install.workerExpiresAt))
      (.casConflict "takeover worker authority differs")
  | some receipt =>
    check ((authority.principal, authority.expiresAt) =
          (receipt.workerPrincipal, receipt.workerExpiresAt) ∧
        kernel.database.hasUnresolvedControlBarrier claim.runId = false)
      (.casConflict "takeover resumed authority differs")

/-- The claim continues the chain of its operation, and no takeover of the Run is later. -/
def checkLinks (claim : TakeoverClaim) (existing : Option ControlReceipt) :
    Except KernelError Unit := do
  let effective ← kernel.gates.effectiveBinding claim.phase claim.operationId
    claim.originalDecision.lease
  let refusal := KernelError.casConflict "takeover previous lease differs"
  check (effective = claim.previous) refusal
  check (∀ latest ∈ kernel.latestOf claim.runId, latest.claim.operationId = claim.operationId →
      latest.claim.originalDecision = claim.originalDecision ∧
        (latest.claim.originalReceipt = claim.originalReceipt ∨
          (latest.claim.originalReceipt = none ∧ existing = claim.originalReceipt ∧
            ∃ receipt ∈ claim.originalReceipt,
              kernel.historical claim.phase claim.originalDecision receipt.decision))) refusal
  check (∀ latest ∈ kernel.latestOf claim.runId,
      latest.claim.new.leaseFence < effective.leaseFence ∨
        (effective.leaseFence = latest.claim.new.leaseFence ∧
          effective.leaseId = latest.claim.new.leaseId)) refusal

/-- The primary key and the unique constraint of the table. -/
def checkKeys (claim : TakeoverClaim) : Except KernelError Unit :=
  check (∀ receipt ∈ kernel.takeovers, receipt.claim.new.leaseFence = claim.new.leaseFence →
      receipt.claim.runId ≠ claim.runId ∧ receipt.claim.operationId ≠ claim.operationId)
    (.runtime "UNIQUE constraint failed: kernel_control_takeovers")

/-- All the checks of a takeover that is not recorded yet, and the end of the worker's authority. -/
def checkTakeover (claim : TakeoverClaim) (timestamp : Timestamp) :
    Except KernelError Timestamp := do
  let (install, control, authority) ← kernel.checkInstallation claim timestamp
  kernel.checkBarriers claim
  let existing := kernel.database.controlReceipt claim.phase claim.operationId claim.runId
  kernel.checkReceipt claim existing
  match claim.phase, claim.originalDecision with
  | .resume, .resume decision => kernel.checkActivation claim decision
  | _, _ => pure ()
  kernel.checkControl claim existing install control authority
  kernel.checkLinks claim existing
  kernel.checkKeys claim
  return authority.expiresAt

/-- `takeover_control_lease`: the receipt, and what the transaction leaves. A second look for the
identity finds nothing. -/
def takeoverControlLease (claim : TakeoverClaim) (surroundings : TakeoverSurroundings) :
    Except KernelError (TakeoverReceipt × TakeoverKernel) := do
  check claim.WellFormed (.value "invalid control takeover")
  check claim.Matches (.value "invalid takeover original decision")
  let proof ← takeoverProof surroundings.first claim surroundings.start
  check (kernel.database.storeId = claim.kernelStoreId)
    (.casConflict "takeover participant identity differs")
  match kernel.takeovers.find? fun receipt => receipt.claim.takeoverId = claim.takeoverId with
  | some receipt => do
    check (receipt.claim.unexpiring = claim.unexpiring) (.casConflict "takeover replay differs")
    surroundings.confirm claim proof none
    return (receipt, kernel)
  | none => do
    let authorityEnd ← kernel.checkTakeover claim surroundings.start
    let receipt : TakeoverReceipt := ⟨claim, surroundings.start⟩
    surroundings.confirm claim proof (some authorityEnd)
    return (receipt, { kernel with takeovers := kernel.takeovers ++ [receipt] })

/-! ### Inspection -/

/-- `inspect_control_takeover`: the receipt, or its absence. The proof of the host is left out. -/
def inspectControlTakeover (claim : TakeoverClaim) (current : ControlLeaseBinding) :
    Except KernelError (Option TakeoverReceipt) := do
  check (claim.new.leaseFence < current.leaseFence ∨ current = claim.new)
    (.value "invalid control takeover inspection")
  check (kernel.database.storeId = claim.kernelStoreId)
    (.casConflict "takeover inspection participant differs")
  match kernel.takeovers.find? fun receipt => receipt.claim.takeoverId = claim.takeoverId with
  | none => return none
  | some receipt => do
    check (receipt.claim.unexpiring = claim.unexpiring)
      (.casConflict "takeover inspection intent differs")
    return some receipt

/-! ### What a takeover does -/

variable {kernel : TakeoverKernel} {claim : TakeoverClaim} {surroundings : TakeoverSurroundings}
  {receipt : TakeoverReceipt} {next : TakeoverKernel}

/-- A recorded takeover continues the chain of its operation, with a fence and an identity of its
own. -/
structure Records (kernel : TakeoverKernel) (claim : TakeoverClaim) : Prop where
  unknown : ∀ receipt ∈ kernel.takeovers, receipt.claim.takeoverId ≠ claim.takeoverId
  open_ : ∀ receipt ∈ kernel.database.pauseReceipts.rows, receipt.runId = claim.runId →
    receipt.isCancellationFence = false
  continues : kernel.gates.effectiveBinding claim.phase claim.operationId
    claim.originalDecision.lease = .ok claim.previous
  higher : claim.previous.leaseFence < claim.new.leaseFence

theorem checkTakeover_eq_ok {timestamp authorityEnd : Timestamp}
    (passed : kernel.checkTakeover claim timestamp = .ok authorityEnd) :
    (∀ receipt ∈ kernel.database.pauseReceipts.rows, receipt.runId = claim.runId →
        receipt.isCancellationFence = false) ∧
      kernel.gates.effectiveBinding claim.phase claim.operationId
        claim.originalDecision.lease = .ok claim.previous := by
  unfold checkTakeover at passed
  obtain ⟨⟨install, control, authority⟩, -, passed⟩ := bind_eq_ok.mp passed
  obtain ⟨_, barriers, passed⟩ := bind_eq_ok.mp passed
  obtain ⟨_, -, passed⟩ := bind_eq_ok.mp passed
  have links : ∃ existing, kernel.checkLinks claim existing = .ok () := by
    split at passed
    · obtain ⟨_, -, passed⟩ := bind_eq_ok.mp passed
      obtain ⟨_, -, passed⟩ := bind_eq_ok.mp passed
      obtain ⟨_, links, -⟩ := bind_eq_ok.mp passed
      exact ⟨_, links⟩
    · obtain ⟨_, -, passed⟩ := bind_eq_ok.mp passed
      obtain ⟨_, links, -⟩ := bind_eq_ok.mp passed
      exact ⟨_, links⟩
  obtain ⟨existing, links⟩ := links
  unfold checkBarriers at barriers
  obtain ⟨_, free, -⟩ := bind_eq_ok.mp barriers
  unfold checkLinks at links
  obtain ⟨effective, found, links⟩ := bind_eq_ok.mp links
  obtain ⟨_, same, -⟩ := bind_eq_ok.mp links
  rw [check_eq_ok] at free same
  exact ⟨free, same ▸ found⟩

/-- A takeover that succeeds is the repetition of a recorded one, or is recorded; the database is
left as it was. -/
theorem takeoverControlLease_eq_ok
    (taken : kernel.takeoverControlLease claim surroundings = .ok (receipt, next)) :
    (next = kernel ∧ receipt ∈ kernel.takeovers ∧
        receipt.claim.unexpiring = claim.unexpiring) ∨
      (next = { kernel with takeovers := kernel.takeovers ++ [receipt] } ∧
        receipt.claim = claim ∧ kernel.Records claim) := by
  unfold takeoverControlLease at taken
  simp only [bind_eq_ok, check_eq_ok] at taken
  obtain ⟨_, formed, _, -, proof, -, _, -, taken⟩ := taken
  split at taken
  · rename_i known found
    simp only [bind_eq_ok, check_eq_ok] at taken
    obtain ⟨_, same, _, -, done⟩ := taken
    cases done
    exact .inl ⟨rfl, mem_of_find?_eq_some found, same⟩
  · rename_i missing
    simp only [bind_eq_ok] at taken
    obtain ⟨authorityEnd, passed, _, -, done⟩ := taken
    cases done
    obtain ⟨free, continues⟩ := checkTakeover_eq_ok passed
    refine Or.inr ⟨rfl, rfl, fun known member same => ?_, free, continues, formed.2.2.1⟩
    exact absurd (decide_eq_true same) (List.find?_eq_none.mp missing known member)

/-! ### The chain of an operation -/

/-- The fences of a chain grow, each takeover follows the one before it, and the last one binds the
operation. -/
structure Chained (kernel : TakeoverKernel) : Prop where
  higher : ∀ receipt ∈ kernel.takeovers,
    receipt.claim.previous.leaseFence < receipt.claim.new.leaseFence
  linked : ∀ operationId, (kernel.chain operationId).IsChain fun earlier later =>
    later.claim.previous = earlier.claim.new ∧ later.claim.phase = earlier.claim.phase
  latest : ∀ operationId, kernel.gates.latestTakeover? operationId =
    (kernel.chain operationId).getLast?.map (·.claim.summary)
  identities : kernel.takeovers.Pairwise fun earlier later =>
    earlier.claim.takeoverId ≠ later.claim.takeoverId

variable {operationId : Identifier}

theorem mem_chain :
    receipt ∈ kernel.chain operationId ↔
      receipt ∈ kernel.takeovers ∧ receipt.claim.operationId = operationId := by
  simp [chain]

section

variable (chained : kernel.Chained)

include chained

theorem Chained.increasing (operationId : Identifier) :
    (kernel.chain operationId).Pairwise fun earlier later =>
      earlier.claim.new.leaseFence < later.claim.new.leaseFence := by
  have below : (kernel.chain operationId).IsChain fun earlier later =>
      earlier.claim.new.leaseFence < later.claim.new.leaseFence := by
    refine (chained.linked operationId).imp_of_mem_imp fun earlier later _ member linked => ?_
    rw [← linked.1]
    exact chained.higher later (mem_chain.mp member).1
  have transitive : Trans
      (fun earlier later : TakeoverReceipt =>
        earlier.claim.new.leaseFence < later.claim.new.leaseFence)
      (fun earlier later : TakeoverReceipt =>
        earlier.claim.new.leaseFence < later.claim.new.leaseFence)
      (fun earlier later : TakeoverReceipt =>
        earlier.claim.new.leaseFence < later.claim.new.leaseFence) := ⟨lt_trans⟩
  exact isChain_iff_pairwise.mp below

theorem Chained.eq_of_fence {left right : TakeoverReceipt}
    (leftMember : left ∈ kernel.chain operationId) (rightMember : right ∈ kernel.chain operationId)
    (same : left.claim.new.leaseFence = right.claim.new.leaseFence) : left = right := by
  have distinct : ((kernel.chain operationId).map fun receipt =>
      receipt.claim.new.leaseFence).Nodup :=
    pairwise_map.mpr ((chained.increasing operationId).imp ne_of_lt)
  exact inj_on_of_nodup_map distinct leftMember rightMember same

theorem Chained.successor (member : receipt ∈ kernel.chain operationId) :
    receipt ∈ (kernel.chain operationId).getLast? ∨
      ∃ later ∈ kernel.chain operationId, later.claim.previous = receipt.claim.new ∧
        later.claim.phase = receipt.claim.phase := by
  obtain ⟨before, after, split⟩ := append_of_mem member
  have linked := chained.linked operationId
  rw [split] at linked ⊢
  cases after with
  | nil => exact .inl (by simp)
  | cons later rest =>
    refine Or.inr ⟨later, by simp, ?_⟩
    exact (isChain_append_cons_cons.mp linked).2.1

theorem Chained.effective (original : ControlLeaseBinding) :
    (∀ last ∈ (kernel.chain operationId).getLast?,
        kernel.gates.effectiveBinding last.claim.phase operationId original = .ok last.claim.new) ∧
      (kernel.chain operationId = [] → ∀ phase,
        kernel.gates.effectiveBinding phase operationId original = .ok original) := by
  unfold HostGates.effectiveBinding
  rw [chained.latest operationId]
  refine ⟨fun last found => ?_, fun none phase => ?_⟩
  · rw [mem_def.mp found]
    show (ensure (last.claim.phase = last.claim.phase) _ >>= fun _ => _) = _
    rw [ensure, if_pos rfl]
    rfl
  · rw [none]
    rfl

end

theorem chain_record (kernel : TakeoverKernel) (receipt : TakeoverReceipt)
    (operationId : Identifier) :
    chain { kernel with takeovers := kernel.takeovers ++ [receipt] } operationId =
      if receipt.claim.operationId = operationId then kernel.chain operationId ++ [receipt]
      else kernel.chain operationId := by
  unfold chain
  rw [filter_append, filter_cons, filter_nil]
  by_cases own : receipt.claim.operationId = operationId
  · rw [if_pos (decide_eq_true own), if_pos own]
  · rw [if_neg (by simpa using own), if_neg own, append_nil]

theorem Chained.preceding (chained : kernel.Chained) (records : kernel.Records claim) :
    ∀ last ∈ (kernel.chain claim.operationId).getLast?,
      last.claim.new = claim.previous ∧ last.claim.phase = claim.phase := by
  intro last found
  have continues := records.continues
  unfold HostGates.effectiveBinding at continues
  rw [chained.latest, mem_def.mp found] at continues
  simp only [map_some, ensure_bind_eq_ok] at continues
  exact ⟨Except.ok.inj continues.2, continues.1⟩

theorem latest_record (kernel : TakeoverKernel) (receipt : TakeoverReceipt)
    (operationId : Identifier) (chained : kernel.Chained)
    (follows : ∀ last ∈ (kernel.chain receipt.claim.operationId).getLast?,
      last.claim.new.leaseFence < receipt.claim.new.leaseFence) :
    (gates { kernel with takeovers := kernel.takeovers ++ [receipt] }).latestTakeover? operationId =
      if receipt.claim.operationId = operationId then some receipt.claim.summary
      else kernel.gates.latestTakeover? operationId := by
  have before := chained.latest operationId
  unfold HostGates.latestTakeover? at before ⊢
  show (((kernel.takeovers ++ [receipt]).map _).filter _).foldl _ _ = _
  rw [map_append, filter_append, foldl_append]
  show (List.filter _ [receipt.claim.summary]).foldl _ ((List.filter _ kernel.gates.controlTakeovers).foldl _ none) = _
  rw [before]
  by_cases own : receipt.claim.operationId = operationId
  · have kept : decide (receipt.claim.summary.operationId = operationId) = true :=
      decide_eq_true own
    rw [if_pos own, filter_cons, if_pos kept, filter_nil]
    subst own
    cases found : (kernel.chain receipt.claim.operationId).getLast? with
    | none => rfl
    | some last => exact if_pos (follows last found)
  · have dropped : ¬ decide (receipt.claim.summary.operationId = operationId) = true :=
      fun same => own (of_decide_eq_true same)
    rw [if_neg own, filter_cons, if_neg dropped, filter_nil]
    rfl

theorem Chained.record (chained : kernel.Chained) (receipt : TakeoverReceipt)
    (records : kernel.Records receipt.claim) :
    Chained { kernel with takeovers := kernel.takeovers ++ [receipt] } := by
  have follows : ∀ last ∈ (kernel.chain receipt.claim.operationId).getLast?,
      last.claim.new.leaseFence < receipt.claim.new.leaseFence := by
    intro last found
    rw [(chained.preceding records last found).1]
    exact records.higher
  refine ⟨fun other member => ?_, fun operationId => ?_, fun operationId => ?_, ?_⟩
  · rcases mem_append.mp member with old | new
    · exact chained.higher other old
    · rw [mem_singleton.mp new]
      exact records.higher
  · rw [chain_record]
    split
    · rename_i own
      subst own
      refine isChain_append.mpr ⟨chained.linked _, isChain_singleton _, ?_⟩
      intro last found first head
      cases head
      obtain ⟨binding, phase⟩ := chained.preceding records last found
      exact ⟨binding.symm, phase.symm⟩
    · exact chained.linked operationId
  · rw [latest_record kernel receipt operationId chained follows, chain_record]
    split
    · rw [List.getLast?_append, List.getLast?_singleton]
      rfl
    · exact chained.latest operationId
  · refine pairwise_append.mpr ⟨chained.identities, pairwise_singleton _ _, ?_⟩
    intro earlier member later single
    rw [mem_singleton.mp single]
    exact records.unknown earlier member

end TakeoverKernel

end DispatcherSdk.ExecutionKernel
