/-
This file models how the kernel decides whether an execution may go on.

An execution of a managed Run answers to more: the Run's control, with its state, generation,
deadline and claim budget; the barrier that a pause or a cancellation has set up and that only
the matching resume takes away; the authority of the worker, if the Run is protected, as the
host attests it now.
-/

import DispatcherSdk.ExecutionKernel.Base

namespace DispatcherSdk.ExecutionKernel

open Library Library.Attempt

/-! ### Managed executions -/

/-- `execution_id.startswith(MANAGED_EXECUTION_PREFIX)`. -/
def Identifier.managed (executionId : Identifier) : Bool :=
  "sdk-managed:".toList.isPrefixOf executionId.text.toList

/-- The operations that ask for the permission of the Run. -/
inductive ManagedOperation where
  | effectPreparation
  | externalEffectClaim
  | effectCommit
  | effectUncertaintyRecording
  | executionCompletion
  | deadLetterTransition
  | start
  | leaseVerification
  | leaseRenewal
  | childClaim
  | childSubmission
  | childAdoption
  | supervisorAdmission
  | progressConfirmation
  | handlerEntryAdmission
  | handlerEntryConfirmation
  deriving DecidableEq

namespace ManagedOperation

def text : ManagedOperation → String
  | effectPreparation => "effect preparation"
  | externalEffectClaim => "external effect claim"
  | effectCommit => "effect commit"
  | effectUncertaintyRecording => "effect uncertainty recording"
  | executionCompletion => "execution completion"
  | deadLetterTransition => "dead-letter transition"
  | start => "start"
  | leaseVerification => "lease verification"
  | leaseRenewal => "lease renewal"
  | childClaim => "child claim"
  | childSubmission => "child submission"
  | childAdoption => "child adoption"
  | supervisorAdmission => "supervisor admission"
  | progressConfirmation => "progress confirmation"
  | handlerEntryAdmission => "handler entry admission"
  | handlerEntryConfirmation => "handler entry confirmation"

/-- The action the worker must be permitted. -/
def action : ManagedOperation → String
  | effectPreparation | externalEffectClaim | effectCommit | effectUncertaintyRecording => "effect"
  | childClaim | childSubmission | childAdoption | supervisorAdmission => "child"
  | start => "start"
  | _ => "work"

/-- `"child" in operation or "supervisor" in operation or "effect" in operation`. -/
def opensNewWork : ManagedOperation → Bool
  | effectPreparation | externalEffectClaim | effectCommit | effectUncertaintyRecording => true
  | childClaim | childSubmission | childAdoption | supervisorAdmission => true
  | _ => false

end ManagedOperation

/-! ### Pause barriers -/

namespace Database

/-- A receipt is resolved by a resume that names it as its barrier or as its completion. -/
def resolvedBarrier (database : Database) (receipt : PauseReceipt) : Bool :=
  database.resumeReceipts.rows.any fun resume =>
    resume.decision.runId = receipt.runId &&
      (resume.decision.barrierOperationId = receipt.operationId ||
        resume.decision.completionOperationId = receipt.operationId)

/-- The receipts of a Run that no resume has resolved. -/
def unresolvedBarriers (database : Database) (runId : Identifier) : List PauseReceipt :=
  database.pauseReceipts.rows.filter fun receipt =>
    receipt.runId = runId && !database.resolvedBarrier receipt

def hasUnresolvedControlBarrier (database : Database) (runId : Identifier) : Bool :=
  !(database.unresolvedBarriers runId).isEmpty

end Database

/-- `json_quote` of a text. -/
def jsonQuote (text : String) : List Char :=
  '"' :: text.toList.flatMap escape ++ ['"']
where
  escape (character : Char) : List Char :=
    match character.toNat with
    | 34 => ['\\', '"']
    | 92 => ['\\', '\\']
    | 8 => ['\\', 'b']
    | 9 => ['\\', 't']
    | 10 => ['\\', 'n']
    | 12 => ['\\', 'f']
    | 13 => ['\\', 'r']
    | code => if code < 32 then '\\' :: 'u' :: hexadecimal code else [character]
  hexadecimal (code : ℕ) : List Char :=
    ['0', '0', Nat.digitChar (code / 16), Nat.digitChar (code % 16)]

/-- The SQL test whether a drain set lists an execution: its quoted name between commas occurs in
the text of the set. -/
def drainSetLists (drainIds : List Identifier) (executionId : Identifier) : Bool :=
  let members := drainIds.map fun member => jsonQuote member.text
  let text := ',' :: [','].intercalate members ++ [',']
  let wanted := ',' :: jsonQuote executionId.text ++ [',']
  text.tails.any wanted.isPrefixOf

/-- A barrier lets a member of its drain set pass while its own pause is still in progress. -/
def PauseReceipt.passes (receipt : PauseReceipt) (control : RunControl)
    (executionId : Identifier) : Bool :=
  receipt.isPauseBarrier && receipt.controlEpoch == control.controlEpoch &&
    drainSetLists receipt.drainIds executionId

namespace Database

def drainBarrierAllows (database : Database) (runId executionId : Identifier) : Bool :=
  match database.managedExecutions.find? executionId, database.runControls.find? runId with
  | some member, some control =>
    decide (member.runId = runId) && decide (member.generation = control.generation) &&
      member.drainAllowed && decide (control.state = .pausing) &&
      (database.unresolvedBarriers runId).all fun receipt => receipt.passes control executionId
  | _, _ => false

/-- The control of the Run that an execution belongs to. -/
def controlOf (database : Database) (executionId : Identifier) : Option RunControl :=
  (database.managedExecutions.find? executionId).bind fun member =>
    database.runControls.find? member.runId

end Database

/-! ### The worker's authority -/

/-- What a control lease has to name for a resumed Run. -/
structure ControlLeaseDemand where
  binding : ControlLeaseBinding
  decision : ResumeDecision

/-- What an answer of the host is checked for, besides its permission and its expiry. -/
structure AuthorityDemand where
  /-- The generation and epoch the worker must be bound to. -/
  worker : Option (ℕ × ℕ) := none
  drain : Option DrainBinding := none
  controlLease : Option ControlLeaseDemand := none
  initialAdmission : Option AdmissionReceipt := none
  /-- The expiry of the stored authority, where the clock is looked at after the host answered. -/
  clockCheck : Option Timestamp := none

/-- The error with which every refusal of the host is reported. -/
def unauthorizedRunAction : KernelError :=
  .storageIsolation "host verification did not authorize the protected Run action"

/-- Ask the host's verifier about a credential. -/
def askHost (credential : Option Credential) (failure : KernelError) : Probe Verification := do
  let environment ← Probe.environment
  match environment.authorityVerifier, credential with
  | some verifier, some presented =>
    let answer ← Probe.draw fun _ tick => verifier tick presented
    expect answer failure
  | _, _ => fail failure

/-- The longest principal that is accepted. -/
def principalFits (principal : Identifier) : Prop := principal.text.utf8ByteSize ≤ 4096

instance (principal : Identifier) : Decidable (principalFits principal) :=
  inferInstanceAs (Decidable (_ ≤ _))

def verifiedAuthority (credential : Option Credential) (runId : Identifier) (action : String)
    (timestamp : Timestamp) (demand : AuthorityDemand := {}) : Probe (Identifier × Timestamp) := do
  let environment ← Probe.environment
  require (environment.authorityVerifier.isSome ∧ credential.isSome)
    (.storageIsolation "protected Run requires a host-verified credential")
  masking unauthorizedRunAction do
    let answer ← askHost credential unauthorizedRunAction
    require (principalFits answer.principal ∧ timestamp < answer.expiresAt ∧
      answer.permits runId action = true) unauthorizedRunAction
    require (∀ bound ∈ demand.worker, answer.worker = some (runId, bound.1, bound.2))
      unauthorizedRunAction
    require (∀ binding ∈ demand.drain, binding.orchestrator.isSome ∧
        answer.permits runId "kernel:drain" = true ∧
        ∃ admission ∈ answer.drainAdmission, admission.allowed = true ∧
          admission.binding = binding ∧ timestamp < admission.expiresAt)
      unauthorizedRunAction
    require (∀ wanted ∈ demand.controlLease,
        (∃ lease ∈ answer.controlLease, lease.held = true ∧ lease.binding = wanted.binding ∧
          timestamp < lease.expiresAt) ∧
        ∃ admission ∈ answer.globalAdmission, admission.opened = true ∧
          admission.operationId = wanted.decision.operationId ∧
          admission.orchestrator = wanted.decision.orchestrator ∧
          admission.kernelStoreId = wanted.decision.kernelStoreId ∧
          admission.receipt.operationId = wanted.decision.operationId ∧
          admission.receipt.runId = wanted.decision.runId ∧
          admission.receipt.generation = wanted.decision.generation ∧
          admission.receipt.controlEpoch = wanted.decision.targetControlEpoch ∧
          admission.receipt.state = .active ∧
          admission.receipt.kernelStoreId = wanted.decision.kernelStoreId ∧
          admission.receipt.orchestrator = wanted.decision.orchestrator)
      unauthorizedRunAction
    require (∀ receipt ∈ demand.initialAdmission,
        ∃ admission ∈ answer.globalAdmission, admission.opened = true ∧
          (∀ bound ∈ demand.worker, (admission.runId, admission.generation,
            admission.controlEpoch) = (runId, bound.1, bound.2)) ∧
          admission.receipt = receipt)
      unauthorizedRunAction
    match demand.clockCheck with
    | none => return (answer.principal, answer.expiresAt)
    | some authorityExpiry =>
      let fresh ← Probe.advanceClock
      require (fresh < authorityExpiry ∧ fresh < answer.expiresAt ∧
          (demand.drain.isSome → ∀ admission ∈ answer.drainAdmission, fresh < admission.expiresAt) ∧
          (demand.controlLease.isSome → ∀ lease ∈ answer.controlLease, fresh < lease.expiresAt))
        unauthorizedRunAction
      return (answer.principal, answer.expiresAt)

/-! ### Projections and application budgets -/

def checkProjectionDependencies (runId : Identifier) (generation : ℕ) (executionId : Identifier)
    (command : Option Json.Text) : Probe Unit := do
  let database ← Probe.database
  match database.projectionRequirements.find? fun gate =>
      gate.runId = runId ∧ gate.generation = generation with
  | none => return ()
  | some gate =>
    let declaration ← expect
      (database.gates.projectionDeclarations.find? fun declared =>
        declared.executionId = executionId ∧ declared.runId = runId ∧
          declared.generation = generation)
      (.casConflict "execution has no projection dependency declaration")
    let stored := (database.executions.find? executionId).map fun row => row.command.toDict.encode
    let actual := command <|> stored
    require (declaration.decisionId = gate.decisionId ∧ actual = some declaration.command)
      (.casConflict "projection dependency command or revision differs")
    require (∀ item ∈ gate.requirements, item.scopeId ∈ declaration.scopes →
        (⟨gate.decisionId, item.participantId, item.scopeId⟩ : ProjectionReceipt) ∈
          database.gates.projectionReceipts)
      (.casConflict "application projection scope is not ready")

/-- The host's admission of one execution to the declared budget scopes. -/
def budgetAdmission (runId executionId : Identifier) (binding : BudgetBinding) :
    Probe Unit := do
  let refusal := KernelError.storageIsolation "host did not authorize application budget admission"
  masking refusal do
    let environment ← Probe.environment
    let database ← Probe.database
    let answer ← askHost environment.workerCredential refusal
    let proof ← expect
      (match answer.budgetAdmissions.filter fun item => item.binding.executionId = executionId with
        | [selected] => some selected
        | _ => none) refusal
    let fresh ← Probe.advanceClock
    require (proof.allowed = true ∧ proof.binding = binding ∧
        (database.runAuthorities.find? runId).map (·.principal) = some answer.principal ∧
        fresh < answer.expiresAt ∧ fresh < proof.expiresAt ∧
        answer.permits runId "kernel:budget" = true) refusal
    Probe.limitExpiry (min proof.expiresAt answer.expiresAt)

def checkApplicationBudget (runId : Identifier) (generation : ℕ) (executionId : Identifier)
    (command : Option Json.Text) : Probe Unit := do
  checkProjectionDependencies runId generation executionId command
  let database ← Probe.database
  match database.gates.budgetPolicies.find? fun policy =>
      policy.runId = runId ∧ policy.generation = generation with
  | none =>
    require (∀ install ∈ database.revisionInstalls.rows,
        ¬ (install.decision.runId = runId ∧ install.decision.targetGeneration = generation))
      (.casConflict "revision has no declared application budget policy")
  | some policy =>
    require (database.storeId = policy.kernelStoreId)
      (.casConflict "budget policy participant identity differs")
    if policy.scopes = [] then return ()
    else
      let declaration ← expect
        (database.gates.budgetDependencies.find? fun declared =>
          declared.executionId = executionId ∧ declared.runId = runId ∧
            declared.generation = generation)
        (.casConflict "execution has no budget dependency declaration")
      let stored := (database.executions.find? executionId).map fun row => row.command.toDict.encode
      let actual := command <|> stored
      require (actual = some declaration.command) (.casConflict "budget dependency command differs")
      if declaration.scopes = [] then return ()
      else
        budgetAdmission runId executionId
          { runId, generation, executionId, policyId := policy.policyId
            scopes := declaration.scopes, decisionId := policy.decisionId
            kernelStoreId := policy.kernelStoreId, orchestrator := policy.orchestrator }

/-! ### The authority of a Run -/

/-- The takeover of an operation's control lease with the highest fence. -/
def HostGates.latestTakeover? (gates : HostGates) (operationId : Identifier) :
    Option ControlTakeover :=
  (gates.controlTakeovers.filter fun takeover => takeover.operationId = operationId).foldl
    (fun latest takeover =>
      match latest with
      | none => some takeover
      | some best =>
        if best.newBinding.leaseFence < takeover.newBinding.leaseFence then some takeover
        else some best)
    none

/-- `_effective_takeover_binding`. -/
def HostGates.effectiveBinding (gates : HostGates) (phase : TakeoverPhase)
    (operationId : Identifier) (original : ControlLeaseBinding) :
    Except KernelError ControlLeaseBinding :=
  match gates.latestTakeover? operationId with
  | none => .ok original
  | some takeover => do
    ensure (takeover.phase = phase) (.casConflict "control takeover phase differs")
    return takeover.newBinding

/-- What the worker of a Run must prove: during a drain the matching admission, after a resume the
control lease, before the first resume the initial admission. -/
def runAuthorityDemand (database : Database) (authority : RunAuthority) (control : RunControl)
    (executionId : Option Identifier) : Except KernelError AuthorityDemand := do
  let stale := KernelError.casConflict "protected Run authority is revoked, expired or stale"
  let runId := authority.runId
  let worker := some (authority.generation, authority.controlEpoch)
  if authority.controlEpoch ≠ control.controlEpoch then
    match executionId with
    | none => .error stale
    | some executionId =>
      ensure (control.controlEpoch = authority.controlEpoch + 1 ∧
        database.drainBarrierAllows runId executionId = true) stale
      match database.pauseReceipts.rows.filter fun receipt => receipt.runId = runId ∧
          receipt.isPauseBarrier = true ∧ receipt.controlEpoch = control.controlEpoch with
      | [barrier] =>
        return {
          worker
          drain := some
            { operationId := barrier.operationId, runId, executionId
              generation := authority.generation, controlEpoch := control.controlEpoch
              kernelStoreId := database.storeId, orchestrator := barrier.orchestrator } }
      | _ => .error (.casConflict "protected drain barrier is unavailable")
  else
    match database.resumeReceipts.rows.find? fun resume => resume.decision.runId = runId ∧
        resume.decision.generation = authority.generation ∧
        resume.decision.targetControlEpoch = authority.controlEpoch with
    | some resume =>
      let binding ← database.gates.effectiveBinding .resume resume.decision.operationId
        resume.decision.lease
      return { worker, controlLease := some { binding, decision := resume.decision } }
    | none =>
      match database.initialAdmissionBindings.find? runId with
      | none => .error (.storageIsolation "initial global admission binding is unavailable")
      | some binding =>
        ensure (binding.kernelStoreId = database.storeId ∧
            binding.generation = authority.generation ∧
            binding.controlEpoch = authority.controlEpoch)
          (.storageIsolation "initial global admission binding differs")
        return { worker, initialAdmission := some binding }

/-- The budget of the execution an authority is asked for, which a submission has checked before. -/
def checkClaimBudget (runId : Identifier) (generation : ℕ) (action : String)
    (executionId : Option Identifier) (precommit : Bool) : Probe Unit :=
  match executionId with
  | none => pure ()
  | some name =>
    if action ≠ "submit" ∨ precommit = true then
      checkApplicationBudget runId generation name none
    else pure ()

def checkRunAuthority (runId : Identifier) (action : String) (timestamp : Timestamp)
    (executionId : Option Identifier) (precommit : Bool := false) : Probe Unit := do
  let environment ← Probe.environment
  let database ← Probe.database
  match database.runAuthorities.find? runId, database.runControls.find? runId with
  | some authority, some control =>
    require (authority.revokedAt = none ∧ timestamp < authority.expiresAt ∧
        authority.generation = control.generation)
      (.casConflict "protected Run authority is revoked, expired or stale")
    checkClaimBudget runId authority.generation action executionId precommit
    let demand ← lift (runAuthorityDemand database authority control executionId)
    let verified ← verifiedAuthority environment.workerCredential runId ("kernel:" ++ action)
      timestamp { demand with clockCheck := if precommit then some authority.expiresAt else none }
    require (verified.1 = authority.principal)
      (.storageIsolation "protected Run worker principal does not match")
    if precommit then return ()
    else Probe.addCheck (.runAuthority runId action executionId)
  | _, _ => return ()

/-- Mark the refusals that a scan for claimable work may step over. -/
def markClaimAuthority (failure : KernelError) : KernelError :=
  if failure.kind = .casConflict ∨ failure.kind = .storageIsolation then
    { failure with claimAuthorityFailure := true }
  else failure

def claimCheckedAuthority (runId : Identifier) (action : String) (timestamp : Timestamp)
    (executionId : Option Identifier) (precommit : Bool := false) : Probe Unit where
  run surroundings session :=
    match (checkRunAuthority runId action timestamp executionId precommit).run surroundings
        session with
    | (.ok value, next) => (.ok value, next)
    | (.error failure, next) => (.error (markClaimAuthority failure), next)
  grows surroundings session := by
    have grown :=
      (checkRunAuthority runId action timestamp executionId precommit).grows surroundings session
    rcases outcome : (checkRunAuthority runId action timestamp executionId precommit).run
      surroundings session with ⟨_ | value, next⟩ <;> rw [outcome] at grown <;> exact grown

def checkControlAuthority (runId : Identifier) (action : String) (timestamp : Timestamp) :
    Probe Unit := do
  let environment ← Probe.environment
  let database ← Probe.database
  if (database.runAuthorities.find? runId).isSome then do
    let _ ← verifiedAuthority environment.workerCredential runId ("kernel:" ++ action) timestamp
    return ()
  else return ()

/-! ### Permission of the Run -/

def authorizeManagedOperation (executionId : Identifier) (timestamp : Timestamp)
    (operation : ManagedOperation) (settlement : Bool := false) : Probe Unit := do
  let database ← Probe.database
  match database.managedExecutions.find? executionId with
  | none =>
    require (executionId.managed = false)
      (.storageIsolation
        ("managed execution lacks its Run control during " ++ operation.text))
  | some member =>
    let control ← expect (database.runControls.find? member.runId)
      (.storageIsolation
        ("managed execution lacks its Run control during " ++ operation.text))
    if settlement = true then return ()
    else
      require (¬ (control.state = .pausing ∧ operation.opensNewWork = true))
        (.casConflict "drain cannot create child work or external effects")
      claimCheckedAuthority member.runId operation.action timestamp (some executionId)
      require (database.hasUnresolvedControlBarrier member.runId = true →
          database.drainBarrierAllows member.runId executionId = true)
        (.casConflict "managed Run has an unresolved local pause barrier")
      require (timestamp < control.deadlineAt) (.casConflict "managed Run deadline has elapsed")
      require ((control.state = .active ∧ member.generation = control.generation) ∨
          (control.state = .pausing ∧ member.drainAllowed = true ∧
            operation ≠ .effectPreparation ∧ operation ≠ .externalEffectClaim))
        (.casConflict ("managed Run control does not allow " ++ operation.text ++
          " for this execution"))

def chargeManagedClaim (executionId : Identifier) (timestamp : Timestamp) : KernelM Unit := do
  let database ← KernelM.database
  match database.managedExecutions.find? executionId with
  | none =>
    require (executionId.managed = false)
      (.casConflict "revision CAS failed during managed Run claim budget")
  | some member =>
    KernelM.probe (claimCheckedAuthority member.runId "claim" timestamp (some executionId))
    require (database.hasUnresolvedControlBarrier member.runId = true →
        database.drainBarrierAllows member.runId executionId = true)
      (.casConflict "managed Run has an unresolved local pause barrier")
    let control ← expect (database.runControls.find? member.runId)
      (.casConflict "revision CAS failed during managed Run claim budget")
    require (control.claimsUsed < control.maxClaims ∧ timestamp < control.deadlineAt ∧
        ((control.state = .active ∧ member.generation = control.generation) ∨
          (control.state = .pausing ∧ member.drainAllowed = true)))
      (.casConflict "revision CAS failed during managed Run claim budget")
    KernelM.modify fun database =>
      { database with
        runControls := database.runControls.put
          { control with claimsUsed := control.claimsUsed + 1 } }

/-! ### Budget clocks and parents -/

def Database.parentOf (database : Database) (executionId : Identifier) : Option ParentBinding :=
  (database.executionLimits.find? executionId).bind (·.parent)

/-- `_assert_budget_clock`, with the bound on the length of the ancestry as the argument the
recursion is on. -/
def budgetClock (database : Database) :
    ℕ → List Identifier → Identifier → Except KernelError Unit
  | 0, _, _ => .error (.budgetClockUnknown "budget ancestry cannot be established")
  | bound + 1, seen, executionId =>
    if executionId ∈ seen then
      .error (.budgetClockUnknown "budget ancestry cannot be established")
    else
      match database.gates.budgetSamples.find? fun sample => sample.executionId = executionId with
      | some pending =>
        .error (.budgetClockUnknown ("budget_clock_sample_unresolved:" ++ pending.reason))
      | none =>
        match database.parentOf executionId with
        | none => .ok ()
        | some parent => budgetClock database bound (executionId :: seen) parent.executionId

def assertBudgetClock (executionId : Identifier) : Probe Unit := do
  let database ← Probe.database
  lift (budgetClock database 64 [] executionId)

/-- The envelope contains the cutoff of an execution's own handler entry. -/
def BudgetEnvelope.hasExecutionCutoff (envelope : BudgetEnvelope) (executionId : Identifier) :
    Bool :=
  envelope.constraints.any fun constraint =>
    constraint.originId.text = "execution:" ++ executionId.text &&
      constraint.source = .execution

/-- The check of one inherited envelope when a child is claimed. -/
def assertChildEnvelope (parentId : Identifier) (sample : ClockCheckpoint)
    (envelope : BudgetEnvelope) : Probe Unit := do
  let environment ← Probe.environment
  require (envelope.hasExecutionCutoff parentId = true)
    (.casConflict "child claim has no confirmed parent execution cutoff")
  match envelope.view environment.arithmetic sample with
  | .unknown => fail (.budgetClockUnknown "clock_domain_continuity_unproven")
  | .unbounded => fail (.casConflict "child claim inherited work deadline has elapsed")
  | .seconds remaining =>
    require (0 < remaining) (.casConflict "child claim inherited work deadline has elapsed")

def assertChildClaim (executionId : Identifier) (timestamp : Timestamp) : Probe Unit := do
  let database ← Probe.database
  match database.executionLimits.find? executionId with
  | none => return ()
  | some limits =>
    match limits.parent with
    | none => return ()
    | some binding =>
      assertBudgetClock executionId
      let parent ← expect (database.executions.find? binding.executionId)
        (.executionNotFound binding.executionId)
      require (parent.state = .running ∧ parent.attempt = binding.attempt ∧
          parent.fence = binding.fence ∧ ∃ lease ∈ parent.lease, timestamp < lease.expiresAt)
        (.staleFence "child claim belongs to a revoked parent lease")
      authorizeManagedOperation parent.executionId timestamp .childClaim
      let parentLimits ← expect
        ((database.executionLimits.find? parent.executionId).filter fun stored =>
          stored.entry = .confirmed parent.attempt parent.fence)
        (.casConflict "child claim requires confirmed parent handler entry")
      let sample ← Probe.sampleClock parentLimits.envelope.checkpoint.wallAt
      assertChildEnvelope parent.executionId sample parentLimits.envelope
      assertChildEnvelope parent.executionId sample limits.envelope

/-! ### Lifecycle operations -/

/-- The answer of the host's lifecycle verifier, judged at a time. -/
def verifyLifecycle (request : LifecycleRequest) (now : Timestamp) : Probe Unit := do
  let environment ← Probe.environment
  match environment.lifecycleVerifier with
  | none => fail (.storageIsolation "protected lifecycle requires host authorization")
  | some verifier =>
    let answered ← Probe.draw fun _ tick => verifier tick request
    let answer ← expect answered (.storageIsolation "host lifecycle verifier failed")
    require (answer.allowed = true) (.storageIsolation "host denied lifecycle operation")
    require (now < answer.expiresAt) (.storageIsolation "host lifecycle authority expired")

def authorizeLifecycle (executionId : Identifier) (attempt fence : ℕ) (operation : String)
    (timestamp : Timestamp) (producerId : Option Identifier) : Probe Unit := do
  let environment ← Probe.environment
  let database ← Probe.database
  let membership := (database.managedExecutions.find? executionId).filter fun member =>
    (database.runAuthorities.find? member.runId).isSome
  if membership.isNone ∧ environment.lifecycleVerifier.isNone then return ()
  else
    let request : LifecycleRequest :=
      { operation, runId := membership.map (·.runId), generation := membership.map (·.generation)
        executionId, attempt, fence, producerId }
    verifyLifecycle request timestamp
    Probe.addCheck (.lifecycle request)

/-! ### The transaction -/

/-- The host authenticates the reconciliation of a supervised result. -/
def verifyReconciliation (credential : Credential) (executionId : Identifier)
    (decision : Json.Text) : Probe Identifier := do
  let refusal :=
    KernelError.storageIsolation "host did not authenticate supervisor result reconciliation"
  masking refusal do
    let answer ← askHost (some credential) refusal
    let now ← Probe.advanceClock
    require (now < answer.expiresAt ∧ answer.supervisorReconciliation = some decision ∧
      answer.permits executionId "kernel:reconcile_supervisor_result" = true) refusal
    return answer.principal

def runCheck : PrecommitCheck → Probe Unit
  | .runAuthority runId action executionId => do
    let now ← Probe.advanceClock
    claimCheckedAuthority runId action now executionId true
  | .lifecycle request => do
    let now ← Probe.advanceClock
    verifyLifecycle request now
  | .reconciliation credential executionId decision principal => do
    let again ← verifyReconciliation credential executionId decision
    require (again = principal) (.storageIsolation "supervisor result authority changed")

/-- What `_transaction` does between the body and the commit. -/
def precommit : Probe Unit := do
  let session ← look
  forEach session.checks runCheck
  match session.budgetExpiry with
  | none => return ()
  | some expiry =>
    let now ← Probe.advanceClock
    require (now < expiry)
      { KernelError.storageIsolation "application budget admission expired before commit" with
        claimAuthorityFailure := true }

/-- The persisted state of a kernel store. -/
structure KernelState where
  database : Database
  watermark : Timestamp

/-- The store right after its schema is installed. -/
def KernelState.initial (storeId : Identifier) : KernelState := ⟨.initial storeId, 0⟩

/-- The error that an interrupted scan is reported with. -/
def scanError (session : Session) (failure : KernelError) : KernelError :=
  match session.continuation with
  | some _ =>
    if failure.claimAuthorityFailure then
      { kind := .budgetScanContinuation
        message := "application budget scan requires continuation" }
    else failure
  | none => failure

/-- The state of an operation when its body starts. -/
def openFrame (state : KernelState) (timestamp : Timestamp) (ticks : ℕ) : Frame :=
  ⟨state.database, ⟨timestamp, ticks, [], none, none⟩⟩

/-- What the storage makes of an operation that ran to its end. -/
def settleStorage {Answer : Type} (fault : StorageFault) (before after : KernelState)
    (outcome : Except KernelError Answer) : Except KernelError Answer × KernelState :=
  match fault with
  | .none => (outcome, after)
  | .lost failure => (.error failure, before)
  | .unacknowledged failure => (.error failure, after)

/-- `_transaction`: observe the clock, run the body, repeat its checks, and commit, or commit the
watermark alone. -/
def transaction {Answer : Type} (body : Timestamp → KernelM Answer)
    (environment : Environment) (state : KernelState) : Except KernelError Answer × KernelState :=
  match environment.wallTime 0 with
  | none => (.error (.value "clock must be a finite number"), state)
  | some wall =>
    let timestamp := max state.watermark wall
    let program := do
      let answer ← body timestamp
      KernelM.probe precommit
      return answer
    match program.run environment (openFrame state timestamp 1) with
    | (.ok answer, frame) =>
      settleStorage environment.fault state ⟨frame.database, frame.session.watermark⟩ (.ok answer)
    | (.error failure, frame) =>
      settleStorage environment.fault state ⟨state.database, frame.session.watermark⟩
        (.error (scanError frame.session failure))

end DispatcherSdk.ExecutionKernel
