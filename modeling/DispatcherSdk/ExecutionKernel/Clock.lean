/-
This file proves that the kernel's clock is never unlearned: the watermark does not go
back, a call keeps the time it has observed even when it fails, and a lease that has
expired at the watermark is not accepted as live by any later call.

To say this of every call, the calls are given an outcome here beside the state they leave.
-/

import DispatcherSdk.ExecutionKernel.EffectHistory

namespace DispatcherSdk.ExecutionKernel

open Library Library.Attempt Relation

/-! ### Outcomes of calls -/

/-- Whether a call succeeds or fails, without its answer. -/
def settled {Answer : Type} (result : Except KernelError Answer × KernelState) :
    Except KernelError Unit × KernelState :=
  (result.1.map fun _ => (), result.2)

/-- The outcome of a call and the state it leaves. -/
def WorkCall.outcome (state : KernelState) (environment : Environment) :
    WorkCall → Except KernelError Unit × KernelState
  | reap => settled (ExecutionKernel.reap environment state)
  | nextQueued registryRevision =>
    settled (ExecutionKernel.nextQueued registryRevision environment state)
  | claim request => settled (ExecutionKernel.claim request environment state)
  | claimAndStart request excluded options =>
    settled (ExecutionKernel.claimAndStart request excluded options environment state)
  | verify lease => settled (ExecutionKernel.verify lease environment state)
  | start lease => settled (ExecutionKernel.start lease environment state)
  | renew lease leaseSeconds =>
    settled (ExecutionKernel.renew lease leaseSeconds environment state)
  | registerSupervisorObligation lease =>
    settled (ExecutionKernel.registerSupervisorObligation lease environment state)
  | resolveSupervisorObligation credential decision =>
    settled (ExecutionKernel.resolveSupervisorObligation credential decision environment state)
  | prepareEffect lease effectId name request =>
    settled (ExecutionKernel.prepareEffect lease effectId name request environment state)
  | claimEffect lease effectId =>
    settled (ExecutionKernel.claimEffect lease effectId environment state)
  | commitEffect effectId response lease claimId =>
    settled (ExecutionKernel.commitEffect effectId response lease claimId environment state)
  | markEffectIndeterminate effectId details lease claimId =>
    settled (ExecutionKernel.markEffectIndeterminate effectId details lease claimId environment
      state)
  | resolveEffect effectId decision response expectedRevision recoveryId =>
    settled (ExecutionKernel.resolveEffect effectId decision response expectedRevision recoveryId
      environment state)
  | complete lease result options =>
    settled (ExecutionKernel.complete lease result options environment state)
  | requireEffectRecovery lease effectId settlement =>
    settled (ExecutionKernel.requireEffectRecovery lease effectId settlement environment state)
  | deadLetter lease error => settled (ExecutionKernel.deadLetter lease error environment state)
  | cancel executionId authority reason expected =>
    settled (ExecutionKernel.cancel executionId authority reason expected environment state)
  | confirmProgress lease eventId =>
    settled (ExecutionKernel.confirmProgress lease eventId environment state)
  | registerStallEpisode executionId attempt fence progressRevision episodeId policyVersion =>
    settled (ExecutionKernel.registerStallEpisode executionId attempt fence progressRevision
      episodeId policyVersion environment state)
  | setStallPolicy executionId attempt fence policyVersion =>
    settled (ExecutionKernel.setStallPolicy executionId attempt fence policyVersion environment
      state)
  | clearStallEpisode expected =>
    settled (ExecutionKernel.clearStallEpisode expected environment state)
  | prepareExecutionBudget lease pending =>
    settled (ExecutionKernel.prepareExecutionBudget lease pending environment state)
  | recordHandlerEntry lease envelope pending =>
    settled (ExecutionKernel.recordHandlerEntry lease envelope pending environment state)

def EnrolCall.outcome (state : KernelState) (environment : Environment) :
    EnrolCall → Except KernelError Unit × KernelState
  | submit command => settled (ExecutionKernel.submit command environment state)
  | submitManaged command runId generation parent =>
    settled (ExecutionKernel.submitManaged command runId generation parent environment state)
  | cancelBeforeAccept command reason =>
    settled (ExecutionKernel.cancelBeforeAccept command reason environment state)
  | cancelManagedBeforeAccept command runId generation reason =>
    settled (ExecutionKernel.cancelManagedBeforeAccept command runId generation reason environment
      state)
  | cancelFencedBeforeAccept command request =>
    settled (ExecutionKernel.cancelFencedBeforeAccept command request environment state)
  | submitChild command parentLease envelope =>
    settled (ExecutionKernel.submitChild command parentLease envelope environment state)
  | adoptChild executionId parentLease envelope =>
    settled (ExecutionKernel.adoptChild executionId parentLease envelope environment state)

def GovernCall.outcome (state : KernelState) (environment : Environment) :
    GovernCall → Except KernelError Unit × KernelState
  | registerRunControl runId maxClaims deadlineAt =>
    settled (ExecutionKernel.registerRunControl runId maxClaims deadlineAt environment state)
  | setRunControl request => settled (ExecutionKernel.setRunControl request environment state)
  | registerShared runId maxClaims deadlineAt =>
    settled (sharedTransaction (registerRunControlBody runId maxClaims deadlineAt) environment
      state)
  | setShared request =>
    settled (sharedTransaction (setRunControlBody request) environment state)
  | fenceCancelledRun request =>
    settled (ExecutionKernel.fenceCancelledRun request environment state)
  | prepareControlPause request =>
    settled (ExecutionKernel.prepareControlPause request environment state)
  | completeControlPause request =>
    settled (ExecutionKernel.completeControlPause request environment state)
  | protectRunAuthority runId generation expectedEpoch workerCredential =>
    settled (ExecutionKernel.protectRunAuthority runId generation expectedEpoch workerCredential
      environment state)
  | revokeRunAuthority runId generation expectedEpoch =>
    settled (ExecutionKernel.revokeRunAuthority runId generation expectedEpoch environment state)
  | bindInitialAdmission credential receipt =>
    settled (ExecutionKernel.bindInitialAdmission credential receipt environment state)
  | installRevisionDecision credential workerCredential expected =>
    settled (ExecutionKernel.installRevisionDecision credential workerCredential expected
      environment state)
  | activateRevision credential decision =>
    settled (ExecutionKernel.activateRevision credential decision environment state)
  | resumeRevision credential workerCredential decision =>
    settled (ExecutionKernel.resumeRevision credential workerCredential decision environment
      state)
  | importLegacyRun credential workerCredential manifest =>
    settled (ExecutionKernel.importLegacyRun credential workerCredential manifest environment
      state)

/-- The calls that run in a transaction of the caller, which does not observe the clock. -/
def GovernCall.shared : GovernCall → Bool
  | registerShared .. => true
  | setShared .. => true
  | _ => false

/-! ### What has been observed is kept -/

/-- A call is refused in one way whatever the wall clock shows, or it keeps the time it observes
unless the storage gives its transaction up, whether it succeeds or fails. -/
def Retains (state : KernelState) (environment : Environment)
    (outcome : Environment → Except KernelError Unit × KernelState) : Prop :=
  (∃ failure, ∀ wallTime, outcome { environment with wallTime } = (.error failure, state)) ∨
    ∀ wall, environment.wallTime 0 = some wall →
      (∀ failure, environment.fault ≠ .lost failure) →
      max state.watermark wall ≤ (outcome environment).2.watermark

section Retention

variable {Answer : Type} {environment : Environment} {state : KernelState}

/-- Where the work of a transaction stops, whether it succeeds or fails. Every time that it has
observed is at most the watermark there. -/
def stopped (body : Timestamp → KernelM Answer) (environment : Environment) (state : KernelState)
    (wall : Timestamp) : Frame :=
  ((do
    let answer ← body (max state.watermark wall)
    KernelM.probe precommit
    return answer : KernelM Answer).run environment
      (openFrame state (max state.watermark wall) 1)).2

theorem stopped_watermark (body : Timestamp → KernelM Answer) (environment : Environment)
    (state : KernelState) (wall : Timestamp) :
    max state.watermark wall ≤ (stopped body environment state wall).session.watermark :=
  (do
    let answer ← body (max state.watermark wall)
    KernelM.probe precommit
    return answer : KernelM Answer).grows environment (openFrame state (max state.watermark wall) 1)

variable {body : Timestamp → KernelM Answer}

section

variable {wall : Timestamp} (observed : environment.wallTime 0 = some wall)
  (stored : ∀ failure, environment.fault ≠ .lost failure)

include observed stored

theorem transaction_keeps :
    (transaction body environment state).2.watermark =
      (stopped body environment state wall).session.watermark := by
  have kept : ∀ (after : KernelState) (outcome : Except KernelError Answer),
      (settleStorage environment.fault state after outcome).2 = after := by
    intro after outcome
    cases fault : environment.fault with
    | none => rfl
    | lost failure => exact absurd fault (stored failure)
    | unacknowledged failure => rfl
  unfold transaction stopped
  rw [observed]
  dsimp only
  rcases (do
      let answer ← body (max state.watermark wall)
      KernelM.probe precommit
      return answer : KernelM Answer).run environment
        (openFrame state (max state.watermark wall) 1) with ⟨failure | answer, frame⟩ <;>
    dsimp only <;> rw [kept]

theorem transaction_retains :
    max state.watermark wall ≤ (transaction body environment state).2.watermark := by
  rw [transaction_keeps observed stored]
  exact stopped_watermark body environment state wall

end

variable {outcome : Environment → Except KernelError Unit × KernelState}

theorem retains_transaction (body : Timestamp → KernelM Answer)
    (transacts : (outcome environment).2 = (transaction body environment state).2) :
    Retains state environment outcome := by
  refine Or.inr fun wall observed stored => ?_
  rw [transacts]
  exact transaction_retains observed stored

theorem retains_checked {Checked : Type} (check : Environment → Except KernelError Checked)
    (body : Checked → Timestamp → KernelM Answer)
    (unread : ∀ wallTime, check { environment with wallTime } = check environment)
    (refuses : ∀ surroundings failure, check surroundings = .error failure →
      outcome surroundings = (.error failure, state))
    (transacts : ∀ value, check environment = .ok value →
      (outcome environment).2 = (transaction (body value) environment state).2) :
    Retains state environment outcome := by
  cases checked : check environment with
  | error failure =>
    refine Or.inl ⟨failure, fun wallTime => refuses _ failure ?_⟩
    rw [unread, checked]
  | ok value => exact retains_transaction (body value) (transacts value checked)

theorem WorkCall.retains (call : WorkCall) (environment : Environment) (state : KernelState) :
    Retains state environment fun surroundings => call.outcome state surroundings := by
  cases call with
  | reap => exact retains_transaction reapBody rfl
  | nextQueued registryRevision => exact retains_transaction (nextQueuedBody registryRevision) rfl
  | claim request =>
    refine retains_checked (fun surroundings => do
      let revisions ← claimRevisions request.registryRevision request.registryRevisions
      let duration ← durationOr surroundings.defaultLeaseSeconds request.leaseSeconds
        "lease_seconds"
      return (revisions, duration)) (fun checked => claimBody request.owner checked.2
        { revisions := checked.1, executionId := request.executionId } request.cursor)
      (fun _ => rfl) (fun surroundings failure checked => ?_) (fun value checked => ?_) <;>
      dsimp only [WorkCall.outcome, ExecutionKernel.claim] at checked ⊢ <;> rw [checked] <;> rfl
  | renew lease leaseSeconds =>
    refine retains_checked (fun surroundings =>
      durationOr surroundings.defaultLeaseSeconds leaseSeconds "lease_seconds") (renewBody lease)
      (fun _ => rfl) (fun surroundings failure checked => ?_) (fun value checked => ?_) <;>
      dsimp only [WorkCall.outcome, ExecutionKernel.renew] at checked ⊢ <;> rw [checked] <;> rfl
  | claimAndStart request excluded options =>
    refine retains_checked (fun surroundings => do
      ensure (excluded.length ≤ 512)
        (.value "exclude_execution_ids must contain at most 512 non-empty strings")
      let revisions ← claimRevisions request.registryRevision request.registryRevisions
      let floor ← durationOr surroundings.defaultLeaseSeconds request.leaseSeconds "lease_seconds"
      ensure (∀ reservation ∈ options.reservation, reservation.producerId.text.length ≤ 256)
        (.value "invalid lifecycle producer token")
      ensure (∀ reservation ∈ options.reservation,
          1 ≤ reservation.slots ∧ reservation.slots ≤ 1024)
        (.value "invalid lifecycle reservation size")
      return (revisions, floor)) (fun checked => claimAndStartBody request.owner checked.2
        { revisions := checked.1, executionId := request.executionId, excluded := excluded.eraseDups }
        request.cursor options)
      (fun _ => rfl) (fun surroundings failure checked => ?_) (fun value checked => ?_) <;>
      dsimp only [WorkCall.outcome, ExecutionKernel.claimAndStart] at checked ⊢ <;>
      rw [checked] <;> rfl
  | verify lease => exact retains_transaction (verifyBody lease) rfl
  | start lease => exact retains_transaction (startBody lease) rfl
  | registerSupervisorObligation lease =>
    exact retains_transaction (registerSupervisorObligationBody lease) rfl
  | resolveSupervisorObligation credential decision =>
    refine retains_checked (fun surroundings => ensure
      (decision.outcome ∈ ["unknown", "failed", "not_invoked"] ∧
        decision.toJson.bytes surroundings.arithmetic ≤ 65536)
      (.value "invalid supervisor resolution"))
      (fun _ _ => resolveSupervisorObligationBody credential decision)
      (fun _ => rfl) (fun surroundings failure checked => ?_) (fun value checked => ?_) <;>
      dsimp only [WorkCall.outcome, ExecutionKernel.resolveSupervisorObligation, ensure]
        at checked ⊢ <;> split at checked <;> cases checked
    · rw [if_neg ‹_›]
      rfl
    · rw [if_pos ‹_›]
      rfl
  | prepareEffect lease effectId name request =>
    exact retains_transaction (prepareEffectBody lease effectId name request)
      (raiseRecovery_state _)
  | claimEffect lease effectId => exact retains_transaction (claimEffectBody lease effectId) rfl
  | commitEffect effectId response lease claimId =>
    exact retains_transaction (commitEffectBody effectId response lease claimId) rfl
  | markEffectIndeterminate effectId details lease claimId =>
    exact retains_transaction (markEffectIndeterminateBody effectId details lease claimId) rfl
  | resolveEffect effectId decision response expectedRevision recoveryId =>
    dsimp only [WorkCall.outcome, ExecutionKernel.resolveEffect]
    split
    · exact .inl ⟨_, fun _ => rfl⟩
    · split
      · exact .inl ⟨_, fun _ => rfl⟩
      · exact retains_transaction
          (resolveEffectBody effectId decision response expectedRevision recoveryId) rfl
  | complete lease result options =>
    exact retains_transaction (completeResultBody lease result options) rfl
  | requireEffectRecovery lease effectId settlement =>
    exact retains_transaction (requireEffectRecoveryBody lease effectId settlement) rfl
  | deadLetter lease error =>
    dsimp only [WorkCall.outcome, ExecutionKernel.deadLetter]
    split
    · exact .inl ⟨_, fun _ => rfl⟩
    · exact retains_transaction (deadLetterBody lease error) rfl
  | cancel executionId authority reason expected =>
    exact retains_transaction (cancelBody executionId authority reason expected)
      (raiseCancelRecovery_state _)
  | confirmProgress lease eventId =>
    dsimp only [WorkCall.outcome, ExecutionKernel.confirmProgress]
    split
    · exact .inl ⟨_, fun _ => rfl⟩
    · exact retains_transaction (confirmProgressBody lease eventId) rfl
  | registerStallEpisode executionId attempt fence progressRevision episodeId policyVersion =>
    exact retains_transaction (registerStallEpisodeBody executionId attempt fence
      progressRevision episodeId policyVersion) rfl
  | setStallPolicy executionId attempt fence policyVersion =>
    exact retains_transaction (setStallPolicyBody executionId attempt fence policyVersion) rfl
  | clearStallEpisode expected =>
    exact retains_transaction (fun _ => clearStallEpisodeBody expected) rfl
  | prepareExecutionBudget lease pending =>
    exact retains_transaction (prepareExecutionBudgetBody lease pending) rfl
  | recordHandlerEntry lease envelope pending =>
    exact retains_transaction (recordHandlerEntryBody lease envelope pending) rfl

theorem EnrolCall.retains (call : EnrolCall) (environment : Environment) (state : KernelState) :
    Retains state environment fun surroundings => call.outcome state surroundings := by
  cases call with
  | submit command =>
    dsimp only [EnrolCall.outcome, ExecutionKernel.submit]
    split
    · exact .inl ⟨_, fun _ => rfl⟩
    · exact retains_transaction (submitBody command) rfl
  | submitManaged command runId generation parent =>
    dsimp only [EnrolCall.outcome, ExecutionKernel.submitManaged]
    split
    · exact .inl ⟨_, fun _ => rfl⟩
    · exact retains_transaction (submitManagedBody command runId generation parent) rfl
  | cancelBeforeAccept command reason =>
    dsimp only [EnrolCall.outcome, ExecutionKernel.cancelBeforeAccept]
    split
    · exact .inl ⟨_, fun _ => rfl⟩
    · exact retains_transaction (cancelBeforeAcceptBody command reason) rfl
  | cancelManagedBeforeAccept command runId generation reason =>
    dsimp only [EnrolCall.outcome, ExecutionKernel.cancelManagedBeforeAccept]
    split
    · exact .inl ⟨_, fun _ => rfl⟩
    · exact retains_transaction (cancelManagedBeforeAcceptBody command runId generation reason) rfl
  | cancelFencedBeforeAccept command request =>
    refine retains_checked (fun surroundings => do
      ensure (request.generation ≤ maxSqliteInteger)
        (.value "generation must be a non-negative SQLite integer")
      ensure (request.fenceOperationId ≠ request.receiptOperationId ∧
          command.correlationId = request.runId)
        (.value "invalid cancellation receipt binding")
      ensure (command.toDict.bytes surroundings.arithmetic ≤ 65536 ∧
          request.reason.text.utf8ByteSize ≤ 4096)
        (.storageIsolation "cancellation command or reason exceeds bounded size"))
      (fun _ => cancelFencedBeforeAcceptBody command request)
      (fun _ => rfl) (fun surroundings failure checked => ?_) (fun value checked => ?_) <;>
      dsimp only [EnrolCall.outcome, ExecutionKernel.cancelFencedBeforeAccept] at checked ⊢ <;>
      rw [checked] <;> rfl
  | submitChild command parentLease envelope =>
    exact retains_transaction (submitChildBody command parentLease envelope) rfl
  | adoptChild executionId parentLease envelope =>
    exact retains_transaction (adoptChildBody executionId parentLease envelope) rfl

theorem GovernCall.retains (call : GovernCall) (environment : Environment) (state : KernelState)
    (own : call.shared = false) :
    Retains state environment fun surroundings => call.outcome state surroundings := by
  cases call with
  | registerRunControl runId maxClaims deadlineAt =>
    exact retains_transaction (fun _ => registerRunControlBody runId maxClaims deadlineAt) rfl
  | setRunControl request => exact retains_transaction (fun _ => setRunControlBody request) rfl
  | registerShared | setShared => cases own
  | fenceCancelledRun request =>
    refine retains_checked (fun _ => do
      ensure (request.generation ≤ maxSqliteInteger)
        (.value "generation must be a non-negative SQLite integer")
      ensure (request.expectedEpoch < maxSqliteInteger) (.value "invalid control epoch"))
      (fun _ => fenceCancelledRunBody request)
      (fun _ => rfl) (fun surroundings failure checked => ?_) (fun value checked => ?_) <;>
      dsimp only [GovernCall.outcome, ExecutionKernel.fenceCancelledRun] at checked ⊢ <;>
      rw [checked] <;> rfl
  | prepareControlPause request =>
    refine retains_checked (fun surroundings => request.check surroundings.arithmetic)
      (fun _ => prepareControlPauseBody request)
      (fun _ => rfl) (fun surroundings failure checked => ?_) (fun value checked => ?_) <;>
      dsimp only [GovernCall.outcome, ExecutionKernel.prepareControlPause] at checked ⊢ <;>
      rw [checked] <;> rfl
  | completeControlPause request =>
    refine retains_checked (fun _ => do
      ensure (request.generation ≤ maxSqliteInteger)
        (.value "generation must be a non-negative SQLite integer")
      ensure (request.expectedEpoch < maxSqliteInteger)
        (.value "expected_epoch cannot be advanced"))
      (fun _ => completeControlPauseBody request)
      (fun _ => rfl) (fun surroundings failure checked => ?_) (fun value checked => ?_) <;>
      dsimp only [GovernCall.outcome, ExecutionKernel.completeControlPause] at checked ⊢ <;>
      rw [checked] <;> rfl
  | protectRunAuthority runId generation expectedEpoch workerCredential =>
    dsimp only [GovernCall.outcome, ExecutionKernel.protectRunAuthority]
    split
    · exact .inl ⟨_, fun _ => rfl⟩
    · exact retains_transaction
        (protectRunAuthorityBody runId generation expectedEpoch workerCredential) rfl
  | revokeRunAuthority runId generation expectedEpoch =>
    dsimp only [GovernCall.outcome, ExecutionKernel.revokeRunAuthority]
    split
    · exact .inl ⟨_, fun _ => rfl⟩
    · exact retains_transaction (revokeRunAuthorityBody runId generation expectedEpoch) rfl
  | bindInitialAdmission credential receipt =>
    exact retains_transaction (bindInitialAdmissionBody credential receipt) rfl
  | installRevisionDecision credential workerCredential expected =>
    dsimp only [GovernCall.outcome, ExecutionKernel.installRevisionDecision, Retains]
    cases environment.authorityVerifier with
    | none => exact .inl ⟨_, fun _ => rfl⟩
    | some verifier =>
      dsimp only
      cases verifier 0 credential with
      | none => exact .inl ⟨_, fun _ => rfl⟩
      | some answer =>
        dsimp only
        cases answer.decision with
        | none => exact .inl ⟨_, fun _ => rfl⟩
        | some decision =>
          dsimp only
          by_cases authorized : decision.wellFormed environment.arithmetic ∧
              principalFits answer.principal ∧
                answer.permits decision.runId "kernel:install_revision" = true
          · rw [if_pos authorized]
            exact .inr fun _ observed stored => transaction_retains observed stored
          · refine Or.inl ⟨installRevisionDecision.unauthorizedDecision, fun _ => ?_⟩
            rw [if_neg authorized]
            rfl
  | activateRevision credential decision =>
    exact retains_transaction (activateRevisionBody credential decision) rfl
  | resumeRevision credential workerCredential decision =>
    exact retains_transaction (resumeRevisionBody credential workerCredential decision) rfl
  | importLegacyRun credential workerCredential manifest =>
    exact retains_transaction (importLegacyRunBody credential workerCredential manifest) rfl

end Retention


/-! ### An expired lease is not accepted -/

/-- Some call accepts the lease as live: it answers, and it neither settles a result obtained
already nor replays a stored one. -/
inductive KernelState.AcceptsLive (state : KernelState) (environment : Environment)
    (lease : ExecutionLease) : Prop where
  | start {answer} (answered : (start lease environment state).1 = .ok answer)
  | renew {seconds answer} (answered : (renew lease seconds environment state).1 = .ok answer)
  | verify {answer} (answered : (verify lease environment state).1 = .ok answer)
  | deadLetter {error answer} (answered : (deadLetter lease error environment state).1 = .ok answer)
  | prepareEffect {effectId name request answer}
    (answered : (prepareEffect lease effectId name request environment state).1 = .ok answer)
  | claimEffect {effectId answer}
    (answered : (claimEffect lease effectId environment state).1 = .ok answer)
  | commitEffect {effectId response claimId answer}
    (answered : (commitEffect effectId response lease claimId environment state).1 = .ok answer)
  | markEffectIndeterminate {effectId details claimId answer}
    (answered :
      (markEffectIndeterminate effectId details lease claimId environment state).1 = .ok answer)
  | requireEffectRecovery {effectId answer}
    (answered : (requireEffectRecovery lease effectId false environment state).1 = .ok answer)
  | confirmProgress {eventId answer}
    (answered : (confirmProgress lease eventId environment state).1 = .ok answer)
  | complete {result options answer} (unsettled : options.settlement = false)
    (plain : options.reconciliation = none) (new : ¬ state.database.Replays lease result)
    (answered : (complete lease result options environment state).1 = .ok answer)
  | registerSupervisorObligation {answer}
    (answered : (registerSupervisorObligation lease environment state).1 = .ok answer)
  | prepareExecutionBudget {pending answer}
    (answered : (prepareExecutionBudget lease pending environment state).1 = .ok answer)
  | recordHandlerEntry {envelope pending answer}
    (answered : (recordHandlerEntry lease envelope pending environment state).1 = .ok answer)
  | submitChild {command envelope answer}
    (answered : (submitChild command lease envelope environment state).1 = .ok answer)
  | adoptChild {executionId envelope answer}
    (answered : (adoptChild executionId lease envelope environment state).1 = .ok answer)
  | registerStallEpisode {attempt fence progressRevision episodeId policyVersion answer}
    (held : state.Holds lease)
    (answered : (registerStallEpisode lease.executionId attempt fence progressRevision episodeId
      policyVersion environment state).1 = .ok answer)
  | setStallPolicy {attempt fence policyVersion answer} (held : state.Holds lease)
    (answered : (setStallPolicy lease.executionId attempt fence policyVersion environment
      state).1 = .ok answer)

section Expiry

variable {Answer : Type} {environment : Environment} {state : KernelState}
  {lease : ExecutionLease}

theorem rejects_of_expired (expired : lease.expiresAt ≤ state.watermark) :
    state.Rejects environment lease := by
  rintro wall - ⟨row, -, -, -, live⟩
  exact absurd live (not_lt.mpr (expired.trans (le_max_left _ _)))

theorem Refuses.answerless {outcome : Except KernelError Answer × KernelState} {answer : Answer}
    (refused : Refuses outcome state) (answered : outcome.1 = .ok answer) : False := by
  obtain ⟨⟨failure, failed⟩, -⟩ := refused
  cases failed.symm.trans answered

theorem requireRunning_refuses {frame : Frame} {now : Timestamp} {attempt fence : ℕ}
    {message : String} {rest : ExecutionRow → KernelM Answer}
    (held : ∃ row, frame.database.executions.find? lease.executionId = some row ∧ row.Holds lease)
    (expired : lease.expiresAt ≤ now) :
    Ensures (do
      let row ← getRow lease.executionId
      requireRunning row attempt fence now message
      rest row) environment frame fun _ _ => False := by
  obtain ⟨stored, found, holds⟩ := held
  refine ensures_bind (getRow_ensures fun row again => ?_)
  cases found.symm.trans again
  refine then_require fun running => ?_
  obtain ⟨-, -, -, columns, member, live⟩ := running
  rw [holds.columns, Option.mem_def, Option.some.injEq] at member
  subst member
  exact absurd live (not_lt.mpr expired)

theorem KernelState.AcceptsLive.unexpired (reachable : kernel.Reachable state)
    (accepts : state.AcceptsLive environment lease) : state.watermark < lease.expiresAt := by
  by_contra late
  have expired : lease.expiresAt ≤ state.watermark := not_lt.mp late
  have rejects : state.Rejects environment lease := rejects_of_expired expired
  have running : ∀ state ∈ [ExecutionState.running], state.terminal = false := by decide
  have held : ∀ state ∈ [ExecutionState.leased, .running], state.terminal = false := by decide
  obtain ⟨started, renewed, verified, buried, prepared, claimed, committed, doubted, recovered,
    confirmed, completed⟩ := (stale_leases_refused reachable environment lease).1 rejects
  have later : ∀ wall, lease.expiresAt ≤ max state.watermark wall :=
    fun wall => expired.trans (le_max_left _ _)
  cases accepts with
  | start answered => exact started.answerless answered
  | renew answered => exact (renewed _).answerless answered
  | verify answered => exact verified.answerless answered
  | deadLetter answered => exact (buried _).answerless answered
  | prepareEffect answered => exact (prepared _ _ _).answerless answered
  | claimEffect answered => exact (claimed _).answerless answered
  | commitEffect answered => exact (committed _ _ _).answerless answered
  | markEffectIndeterminate answered => exact (doubted _ _ _).answerless answered
  | requireEffectRecovery answered => exact (recovered _).answerless answered
  | confirmProgress answered => exact (confirmed _).answerless answered
  | complete unsettled plain new answered =>
    exact (completed _ _ unsettled plain new).answerless answered
  | registerSupervisorObligation answered =>
    exact (transaction_rejects rejects held).answerless answered
  | prepareExecutionBudget answered =>
    refine Refuses.answerless (transaction_refuses fun wall observed session => ?_) answered
    refine ensures_bind (ensures_probe fun _ drawn _ => ?_)
    exact @assertLease_refuses _ _ _ ⟨state.database, drawn⟩ _ _ _ (rejects wall observed) running
  | recordHandlerEntry answered =>
    exact (transaction_rejects rejects running).answerless answered
  | submitChild answered => exact (transaction_rejects rejects running).answerless answered
  | adoptChild answered => exact (transaction_rejects rejects running).answerless answered
  | registerStallEpisode held answered =>
    refine Refuses.answerless (transaction_refuses fun wall _ session => ?_) answered
    exact requireRunning_refuses held (later wall)
  | setStallPolicy held answered =>
    refine Refuses.answerless (transaction_refuses fun wall _ session => ?_) answered
    exact requireRunning_refuses held (later wall)

end Expiry

theorem watermark_monotone {state last : KernelState} (reachable : kernel.Reachable state)
    (run : kernel.Run state last) : state.watermark ≤ last.watermark :=
  reachable.respects (fun state last => state.watermark ≤ last.watermark) (fun _ => le_refl _)
    le_trans (fun _ _ reached step => (reachable_advances reached step).watermark) run
end DispatcherSdk.ExecutionKernel
