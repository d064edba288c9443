/-
This file says what the runs of the kernel are, and connects them with the moves of single
executions.

Workers, submitters, controllers and hosts call operations on one store in any order; each
call meets surroundings of its own. The ledger of each execution goes through moves, whatever
the operations do, and so a property of ledgers that every move keeps holds in every reachable
state.
-/

import DispatcherSdk.ExecutionKernel.Refinement.Government
import DispatcherSdk.Library.Transition

namespace DispatcherSdk.ExecutionKernel

open Library Library.Attempt Relation

variable {environment : Environment} {frame : Frame} {now : Timestamp}

theorem Database.supports_supervision (database : Database)
    (rows : Table SupervisionRow.executionId) :
    database.Supports { database with supervision := rows } :=
  ⟨⟨rfl, rfl, rfl, rfl, rfl, fun _ => rfl⟩, ⟨rfl, rfl, rfl, rfl, rfl, rfl⟩, fun _ => rfl⟩

theorem Database.supports_progress (database : Database) (keys : Table ProgressKey.key) :
    database.Supports { database with progressKeys := keys } :=
  ⟨⟨rfl, rfl, rfl, rfl, rfl, fun _ => rfl⟩, ⟨rfl, rfl, rfl, rfl, rfl, rfl⟩, fun _ => rfl⟩

/-! ### Progress and stalls -/

theorem writeSupervision_supports {supervision : SupervisionRow} {start : Database}
    (reached : start.Supports frame.database) :
    Ensures (writeSupervision supervision) environment frame
      fun _ next => start.Supports next.database :=
  ensures_modify (reached.trans (Database.supports_supervision _ _))

theorem supervisionRow_supports {row : ExecutionRow} :
    Ensures (supervisionRow row) environment frame
      fun _ next => frame.database.Supports next.database := by
  unfold supervisionRow
  refine then_read ?_
  split
  · exact ensures_pure (.refl _)
  · exact ensures_bind ((writeSupervision_supports (.refl _)).mono fun _ _ supports =>
      ensures_pure supports)

variable {lease : ExecutionLease}

theorem confirmProgressBody_supports {eventId : Identifier} :
    Ensures (confirmProgressBody lease eventId now) environment frame
      fun _ next => frame.database.Supports next.database := by
  unfold confirmProgressBody
  refine ensures_bind (assertLease_ensures fun row _ _ _ _ => then_check fun _ _ => ?_)
  refine ensures_bind (supervisionRow_supports.mono fun current middle supports => ?_)
  refine then_read ?_
  split
  · exact ensures_pure supports
  · refine ensures_bind (ensures_modify (ensures_bind (ensures_modify (ensures_pure ?_))))
    exact (supports.trans (Database.supports_progress _ _)).trans
      (Database.supports_supervision _ _)

variable {executionId policyVersion : Identifier} {attempt : ℕ}

theorem registerStallEpisodeBody_supports {episodeId : Identifier} {fence progressRevision : ℕ} :
    Ensures (registerStallEpisodeBody executionId attempt fence progressRevision episodeId
      policyVersion now) environment frame fun _ next => frame.database.Supports next.database := by
  unfold registerStallEpisodeBody
  refine ensures_bind (getRow_ensures fun row _ => then_require fun _ => ?_)
  refine ensures_bind (supervisionRow_supports.mono fun current middle supports => ?_)
  refine then_require fun _ => then_require fun _ => ?_
  exact then_require fun _ => writeSupervision_supports supports

theorem setStallPolicyBody_supports {fence : ℕ} :
    Ensures (setStallPolicyBody executionId attempt fence policyVersion now) environment frame
      fun _ next => frame.database.Supports next.database := by
  unfold setStallPolicyBody
  refine ensures_bind (getRow_ensures fun row _ => then_require fun _ => ?_)
  refine ensures_bind (supervisionRow_supports.mono fun current middle supports => ?_)
  exact ensures_ite (fun _ => ensures_pure supports) fun _ => writeSupervision_supports supports

theorem clearStallEpisodeBody_supports {expected : StallDisposition} :
    Ensures (clearStallEpisodeBody expected) environment frame
      fun _ next => frame.database.Supports next.database := by
  unfold clearStallEpisodeBody
  refine ensures_bind (getRow_ensures fun row _ => then_read ?_)
  split
  · exact ensures_pure (.refl _)
  · exact ensures_bind ((writeSupervision_supports (.refl _)).mono fun _ _ supports =>
      ensures_pure supports)

/-! ### Handler entry -/

variable {pending : Bool}

theorem prepareExecutionBudgetBody_supports :
    Ensures (prepareExecutionBudgetBody lease pending now) environment frame
      fun _ next => frame.database.Supports next.database := by
  unfold prepareExecutionBudgetBody
  refine then_check fun _ _ => ensures_bind (assertLease_ensures fun _ _ _ _ _ => ?_)
  refine then_check fun _ _ => then_check fun _ _ => ?_
  refine then_read (then_require fun _ => ?_)
  refine then_check fun _ _ => then_check fun _ _ => ?_
  refine then_check fun _ _ => then_require fun _ => ?_
  refine then_require fun _ => ?_
  cases stored : frame.database.executionLimits.find? lease.executionId with
  | none =>
    refine ensures_bind (ensures_modify (ensures_pure (Database.supports_limits ?_)))
    simp [Database.parentOf, stored]
  | some limits =>
    refine ensures_bind (ensures_modify (ensures_pure (Database.supports_limits ?_)))
    show limits.parent = frame.database.parentOf limits.executionId
    rw [Table.key_of_find? stored]
    simp [Database.parentOf, stored]

theorem recordHandlerEntryBody_supports {envelope : BudgetEnvelope} :
    Ensures (recordHandlerEntryBody lease envelope pending now) environment frame
      fun _ next => frame.database.Supports next.database := by
  have confirmable : Ensures (recordHandlerEntryBody.assertConfirmable lease pending now)
      environment frame fun _ next => next.database = frame.database := by
    unfold recordHandlerEntryBody.assertConfirmable
    exact ensures_ite (fun _ => ensures_pure rfl) fun _ =>
      then_check fun _ _ => checked fun _ _ => rfl
  unfold recordHandlerEntryBody
  refine ensures_bind (assertLease_ensures fun row _ _ _ _ => ?_)
  refine ensures_bind (confirmable.mono fun _ middle same => ?_)
  refine then_check fun _ _ => then_check fun kept _ => ?_
  unfold storeEntry
  refine ensures_bind (then_read (ensures_bind ?_))
  refine ensures_expect fun limits stored => ensures_modify (ensures_pure ?_)
  rw [← same]
  refine Database.supports_limits ?_
  show limits.parent = middle.database.parentOf limits.executionId
  rw [Table.key_of_find? stored]
  have found : middle.database.executionLimits.find? lease.executionId = some limits := stored
  simp [Database.parentOf, found]

/-! ### Calls -/

/-- The calls that move executions which exist. -/
inductive WorkCall where
  | reap
  | nextQueued (registryRevision : Identifier)
  | claim (request : ClaimRequest)
  | claimAndStart (request : ClaimRequest) (excluded : List Identifier) (options : StartOptions)
  | verify (lease : ExecutionLease)
  | start (lease : ExecutionLease)
  | renew (lease : ExecutionLease) (leaseSeconds : Option Timestamp)
  | registerSupervisorObligation (lease : ExecutionLease)
  | resolveSupervisorObligation (credential : Credential) (decision : SupervisorDecision)
  | prepareEffect (lease : ExecutionLease) (effectId name : Identifier) (request : Json)
  | claimEffect (lease : ExecutionLease) (effectId : Identifier)
  | commitEffect (effectId : Identifier) (response : Json) (lease : ExecutionLease)
    (claimId : Identifier)
  | markEffectIndeterminate (effectId : Identifier) (details : Json) (lease : ExecutionLease)
    (claimId : Identifier)
  | resolveEffect (effectId : Identifier) (decision : RecoveryDecision) (response : Json)
    (expectedRevision : ℕ) (recoveryId : Identifier)
  | complete (lease : ExecutionLease) (result : ExecutionResult) (options : CompletionOptions)
  | requireEffectRecovery (lease : ExecutionLease) (effectId : Identifier) (settlement : Bool)
  | deadLetter (lease : ExecutionLease) (error : ExecutionError)
  | cancel (executionId : Identifier) (authority : CancelAuthority) (reason : Identifier)
    (expected : Option StallDisposition)
  | confirmProgress (lease : ExecutionLease) (eventId : Identifier)
  | registerStallEpisode (executionId : Identifier) (attempt fence progressRevision : ℕ)
    (episodeId policyVersion : Identifier)
  | setStallPolicy (executionId : Identifier) (attempt fence : ℕ) (policyVersion : Identifier)
  | clearStallEpisode (expected : StallDisposition)
  | prepareExecutionBudget (lease : ExecutionLease) (pending : Bool)
  | recordHandlerEntry (lease : ExecutionLease) (envelope : BudgetEnvelope) (pending : Bool)

def WorkCall.apply (environment : Environment) (state : KernelState) : WorkCall → KernelState
  | reap => (ExecutionKernel.reap environment state).2
  | nextQueued registryRevision =>
    (ExecutionKernel.nextQueued registryRevision environment state).2
  | claim request => (ExecutionKernel.claim request environment state).2
  | claimAndStart request excluded options =>
    (ExecutionKernel.claimAndStart request excluded options environment state).2
  | verify lease => (ExecutionKernel.verify lease environment state).2
  | start lease => (ExecutionKernel.start lease environment state).2
  | renew lease leaseSeconds => (ExecutionKernel.renew lease leaseSeconds environment state).2
  | registerSupervisorObligation lease =>
    (ExecutionKernel.registerSupervisorObligation lease environment state).2
  | resolveSupervisorObligation credential decision =>
    (ExecutionKernel.resolveSupervisorObligation credential decision environment state).2
  | prepareEffect lease effectId name request =>
    (ExecutionKernel.prepareEffect lease effectId name request environment state).2
  | claimEffect lease effectId => (ExecutionKernel.claimEffect lease effectId environment state).2
  | commitEffect effectId response lease claimId =>
    (ExecutionKernel.commitEffect effectId response lease claimId environment state).2
  | markEffectIndeterminate effectId details lease claimId =>
    (ExecutionKernel.markEffectIndeterminate effectId details lease claimId environment state).2
  | resolveEffect effectId decision response expectedRevision recoveryId =>
    (ExecutionKernel.resolveEffect effectId decision response expectedRevision recoveryId
      environment state).2
  | complete lease result options =>
    (ExecutionKernel.complete lease result options environment state).2
  | requireEffectRecovery lease effectId settlement =>
    (ExecutionKernel.requireEffectRecovery lease effectId settlement environment state).2
  | deadLetter lease error => (ExecutionKernel.deadLetter lease error environment state).2
  | cancel executionId authority reason expected =>
    (ExecutionKernel.cancel executionId authority reason expected environment state).2
  | confirmProgress lease eventId =>
    (ExecutionKernel.confirmProgress lease eventId environment state).2
  | registerStallEpisode executionId attempt fence progressRevision episodeId policyVersion =>
    (ExecutionKernel.registerStallEpisode executionId attempt fence progressRevision episodeId
      policyVersion environment state).2
  | setStallPolicy executionId attempt fence policyVersion =>
    (ExecutionKernel.setStallPolicy executionId attempt fence policyVersion environment state).2
  | clearStallEpisode expected =>
    (ExecutionKernel.clearStallEpisode expected environment state).2
  | prepareExecutionBudget lease pending =>
    (ExecutionKernel.prepareExecutionBudget lease pending environment state).2
  | recordHandlerEntry lease envelope pending =>
    (ExecutionKernel.recordHandlerEntry lease envelope pending environment state).2

/-- The calls that accept a command or bind a child. -/
inductive EnrolCall where
  | submit (command : ExecutionCommand)
  | submitManaged (command : ExecutionCommand) (runId : Identifier) (generation : ℕ)
    (parent : Option SupervisorParent)
  | cancelBeforeAccept (command : ExecutionCommand) (reason : Identifier)
  | cancelManagedBeforeAccept (command : ExecutionCommand) (runId : Identifier)
    (generation : ℕ) (reason : Identifier)
  | cancelFencedBeforeAccept (command : ExecutionCommand) (request : FencedCancellation)
  | submitChild (command : ExecutionCommand) (parentLease : ExecutionLease)
    (envelope : BudgetEnvelope)
  | adoptChild (executionId : Identifier) (parentLease : ExecutionLease)
    (envelope : BudgetEnvelope)

def EnrolCall.apply (environment : Environment) (state : KernelState) : EnrolCall → KernelState
  | submit command => (ExecutionKernel.submit command environment state).2
  | submitManaged command runId generation parent =>
    (ExecutionKernel.submitManaged command runId generation parent environment state).2
  | cancelBeforeAccept command reason =>
    (ExecutionKernel.cancelBeforeAccept command reason environment state).2
  | cancelManagedBeforeAccept command runId generation reason =>
    (ExecutionKernel.cancelManagedBeforeAccept command runId generation reason environment
      state).2
  | cancelFencedBeforeAccept command request =>
    (ExecutionKernel.cancelFencedBeforeAccept command request environment state).2
  | submitChild command parentLease envelope =>
    (ExecutionKernel.submitChild command parentLease envelope environment state).2
  | adoptChild executionId parentLease envelope =>
    (ExecutionKernel.adoptChild executionId parentLease envelope environment state).2

/-- The parents that a call may bind children to. -/
def EnrolCall.Binds : EnrolCall → Identifier → Identifier → Prop
  | submitManaged command _ _ (some parent), child, ancestor =>
    child = command.executionId ∧ ancestor = parent.lease.executionId
  | submitChild command lease _, child, ancestor =>
    child = command.executionId ∧ ancestor = lease.executionId
  | adoptChild executionId lease _, child, ancestor =>
    child = executionId ∧ ancestor = lease.executionId
  | _, _, _ => False

/-- The calls that change the control of a Run. -/
inductive GovernCall where
  | registerRunControl (runId : Identifier) (maxClaims : ℕ) (deadlineAt : Timestamp)
  | setRunControl (request : ControlRequest)
  /-- `register_run_control_in_transaction`, in a transaction of the controlling side. -/
  | registerShared (runId : Identifier) (maxClaims : ℕ) (deadlineAt : Timestamp)
  /-- `set_run_control_in_transaction`, in a transaction of the controlling side. -/
  | setShared (request : ControlRequest)
  | fenceCancelledRun (request : FenceRequest)
  | prepareControlPause (request : PauseRequest)
  | completeControlPause (request : CompletionRequest)
  | protectRunAuthority (runId : Identifier) (generation expectedEpoch : ℕ)
    (workerCredential : Option Credential)
  | revokeRunAuthority (runId : Identifier) (generation expectedEpoch : ℕ)
  | bindInitialAdmission (credential : Credential) (receipt : AdmissionReceipt)
  | installRevisionDecision (credential : Credential) (workerCredential : Option Credential)
    (expected : RevisionDecision)
  | activateRevision (credential : Credential) (decision : ActivationDecision)
  | resumeRevision (credential : Credential) (workerCredential : Option Credential)
    (decision : ResumeDecision)
  | importLegacyRun (credential : Credential) (workerCredential : Option Credential)
    (manifest : AdoptionManifest)

def GovernCall.apply (environment : Environment) (state : KernelState) : GovernCall → KernelState
  | registerRunControl runId maxClaims deadlineAt =>
    (ExecutionKernel.registerRunControl runId maxClaims deadlineAt environment state).2
  | setRunControl request => (ExecutionKernel.setRunControl request environment state).2
  | registerShared runId maxClaims deadlineAt =>
    (sharedTransaction (registerRunControlBody runId maxClaims deadlineAt) environment state).2
  | setShared request => (sharedTransaction (setRunControlBody request) environment state).2
  | fenceCancelledRun request => (ExecutionKernel.fenceCancelledRun request environment state).2
  | prepareControlPause request =>
    (ExecutionKernel.prepareControlPause request environment state).2
  | completeControlPause request =>
    (ExecutionKernel.completeControlPause request environment state).2
  | protectRunAuthority runId generation expectedEpoch workerCredential =>
    (ExecutionKernel.protectRunAuthority runId generation expectedEpoch workerCredential
      environment state).2
  | revokeRunAuthority runId generation expectedEpoch =>
    (ExecutionKernel.revokeRunAuthority runId generation expectedEpoch environment state).2
  | bindInitialAdmission credential receipt =>
    (ExecutionKernel.bindInitialAdmission credential receipt environment state).2
  | installRevisionDecision credential workerCredential expected =>
    (ExecutionKernel.installRevisionDecision credential workerCredential expected environment
      state).2
  | activateRevision credential decision =>
    (ExecutionKernel.activateRevision credential decision environment state).2
  | resumeRevision credential workerCredential decision =>
    (ExecutionKernel.resumeRevision credential workerCredential decision environment state).2
  | importLegacyRun credential workerCredential manifest =>
    (ExecutionKernel.importLegacyRun credential workerCredential manifest environment state).2

/-- A call of an operation of the kernel, or of something else that writes to its store. -/
inductive Operation where
  | work (call : WorkCall)
  | enrol (call : EnrolCall)
  | govern (call : GovernCall)
  /-- The result outbox hands results on. -/
  | deliver (columns : OutboxRow → DeliveryColumns) (time : Timestamp)
  /-- The host keeps the books of its budgets, projections and contents. -/
  | keepBooks (gates : HostGates) (envelope : ExecutionLimits → BudgetEnvelope)
    (time : Timestamp)

/-- The tables after the delivery columns of the outbox have moved. -/
def Database.delivering (database : Database) (columns : OutboxRow → DeliveryColumns) : Database :=
  { database with
    resultOutbox := database.resultOutbox.update
      (fun row => { row with delivery := columns row }) fun _ => rfl }

/-- The tables after the host has kept its books. -/
def Database.booking (database : Database) (gates : HostGates)
    (envelope : ExecutionLimits → BudgetEnvelope) : Database :=
  { database with
    gates
    executionLimits := database.executionLimits.update
      (fun limits => { limits with envelope := envelope limits }) fun _ => rfl }

def Operation.apply (operation : Operation) (environment : Environment) (state : KernelState) :
    KernelState :=
  match operation with
  | work call => call.apply environment state
  | enrol call => call.apply environment state
  | govern call => call.apply environment state
  | deliver columns time =>
    ⟨state.database.delivering columns, max state.watermark time⟩
  | keepBooks gates envelope time =>
    ⟨state.database.booking gates envelope, max state.watermark time⟩

/-- The kernel, with every sequence of calls. -/
def kernel : TransitionSystem KernelState where
  initial state := ∃ storeId, state = .initial storeId
  step state next := ∃ operation environment, next = Operation.apply operation environment state

/-! ### What a transaction does -/

/-- An operation leaves the tables as they were, or changes them in a certain way at an observed
time. -/
structure Advances (relation : Timestamp → Database → Database → Prop)
    (before after : KernelState) : Prop where
  watermark : before.watermark ≤ after.watermark
  tables : after.database = before.database ∨ ∃ now, before.watermark ≤ now ∧
    now ≤ after.watermark ∧ relation now before.database after.database

section Transaction

variable {Answer : Type} {relation : Timestamp → Database → Database → Prop}
  {environment : Environment} {state : KernelState}

theorem Advances.refl (relation : Timestamp → Database → Database → Prop)
    (state : KernelState) : Advances relation state state :=
  ⟨le_refl _, Or.inl rfl⟩

theorem settleStorage_state (fault : StorageFault) (before after : KernelState)
    (outcome : Except KernelError Answer) :
    (settleStorage fault before after outcome).2 = before ∨
      (settleStorage fault before after outcome).2 = after := by
  cases fault with
  | none => exact .inr rfl
  | lost failure => exact .inl rfl
  | unacknowledged failure => exact .inr rfl

variable {body : Timestamp → KernelM Answer}

/-- The call fails and the tables stay, or what the body ensures holds of its answer and of the
tables. -/
theorem transaction_cases {condition : Timestamp → Answer → Database → Prop}
    (ensures : ∀ wall, environment.wallTime 0 = some wall → ∀ session,
      Ensures (body (max state.watermark wall)) environment ⟨state.database, session⟩
        fun answer next => condition (max state.watermark wall) answer next.database) :
    state.watermark ≤ (transaction body environment state).2.watermark ∧
      ((∃ failure, (transaction body environment state).1 = .error failure) ∧
          (transaction body environment state).2.database = state.database ∨
        ∃ wall answer, max state.watermark wall ≤ (transaction body environment state).2.watermark ∧
          condition (max state.watermark wall) answer
            (transaction body environment state).2.database ∧
          ∀ value, (transaction body environment state).1 = .ok value → value = answer) := by
  unfold transaction
  cases observed : environment.wallTime 0 with
  | none => exact ⟨le_refl _, .inl ⟨⟨_, rfl⟩, rfl⟩⟩
  | some wall =>
    dsimp only
    have start : state.watermark ≤ max state.watermark wall := le_max_left _ _
    have finished : Ensures (do
        let answer ← body (max state.watermark wall)
        KernelM.probe precommit
        return answer : KernelM Answer) environment (openFrame state (max state.watermark wall) 1)
        fun answer next => condition (max state.watermark wall) answer next.database :=
      ensures_bind ((ensures wall observed _).mono fun _ _ holds =>
        then_check fun _ _ => ensures_pure holds)
    have grown := (do
        let answer ← body (max state.watermark wall)
        KernelM.probe precommit
        return answer : KernelM Answer).grows environment
          (openFrame state (max state.watermark wall) 1)
    rcases outcome : (do
        let answer ← body (max state.watermark wall)
        KernelM.probe precommit
        return answer : KernelM Answer).run environment
          (openFrame state (max state.watermark wall) 1)
      with ⟨failure | answer, frame⟩ <;> rw [outcome] at grown <;>
      have later : max state.watermark wall ≤ frame.session.watermark := grown
    · cases environment.fault with
      | lost => exact ⟨le_refl _, .inl ⟨⟨_, rfl⟩, rfl⟩⟩
      | none | unacknowledged => exact ⟨start.trans later, .inl ⟨⟨_, rfl⟩, rfl⟩⟩
    · have holds := finished answer frame outcome
      cases environment.fault with
      | lost => exact ⟨le_refl _, .inl ⟨⟨_, rfl⟩, rfl⟩⟩
      | none =>
        exact ⟨start.trans later, .inr ⟨wall, answer, later, holds, fun _ same => by cases same; rfl⟩⟩
      | unacknowledged =>
        exact ⟨start.trans later, .inr ⟨wall, answer, later, holds, by rintro _ ⟨⟩⟩⟩

variable (relation) in
theorem transaction_observes (ensures : ∀ wall, environment.wallTime 0 = some wall → ∀ session,
      Ensures (body (max state.watermark wall)) environment ⟨state.database, session⟩
        fun _ next => relation (max state.watermark wall) state.database next.database) :
    Advances relation state (transaction body environment state).2 := by
  obtain ⟨grown, ⟨-, same⟩ | ⟨_, _, later, related, -⟩⟩ := @transaction_cases _ environment state
    body (fun now _ next => relation now state.database next) ensures
  · exact ⟨grown, .inl same⟩
  · exact ⟨grown, .inr ⟨_, le_max_left _ _, later, related⟩⟩

theorem transaction_advances
    (ensures : ∀ now session, Ensures (body now) environment ⟨state.database, session⟩
      fun _ next => relation now state.database next.database) :
    Advances relation state (transaction body environment state).2 :=
  transaction_observes relation fun _ _ => ensures _

theorem transaction_answers (condition : Answer → Database → Prop)
    (ensures : ∀ now session, state.watermark ≤ now →
      Ensures (body now) environment ⟨state.database, session⟩
        fun answer next => condition answer next.database)
    {answer : Answer} (answered : (transaction body environment state).1 = .ok answer) :
    condition answer (transaction body environment state).2.database := by
  obtain ⟨-, ⟨⟨failure, failed⟩, -⟩ | ⟨_, value, -, holds, same⟩⟩ := @transaction_cases _ environment
    state body (fun _ => condition) fun _ _ session => ensures _ session (le_max_left _ _)
  · rw [failed] at answered
    cases answered
  · rw [same answer answered]
    exact holds

theorem transaction_refuses (refused : ∀ wall, environment.wallTime 0 = some wall → ∀ session,
      Ensures (body (max state.watermark wall)) environment ⟨state.database, session⟩
        fun _ _ => False) :
    (∃ failure, (transaction body environment state).1 = .error failure) ∧
      (transaction body environment state).2.database = state.database := by
  obtain ⟨-, refuses | ⟨_, _, -, never, -⟩⟩ := @transaction_cases _ environment state body
    (fun _ _ _ => False) refused
  · exact refuses
  · exact never.elim

theorem sharedTransaction_advances {body : KernelM Answer} {relation : Database → Database → Prop}
    (ensures : ∀ session, Ensures body environment ⟨state.database, session⟩
      fun _ next => relation state.database next.database) :
    Advances (fun _ => relation) state (sharedTransaction body environment state).2 := by
  unfold sharedTransaction
  have grown := body.grows environment (openFrame state state.watermark 0)
  rcases outcome : body.run environment (openFrame state state.watermark 0)
    with ⟨failure | answer, frame⟩
  · exact .refl _ state
  · rw [outcome] at grown
    have later : state.watermark ≤ frame.session.watermark := grown
    rcases settleStorage_state environment.fault state ⟨frame.database, frame.session.watermark⟩
        (.ok answer : Except KernelError Answer)
      with same | same <;> dsimp only <;> rw [same]
    · exact .refl _ state
    · exact ⟨later, Or.inr ⟨state.watermark, le_refl _, later, ensures _ answer frame outcome⟩⟩

end Transaction

/-! ### What each operation does -/

section Calls

variable {state : KernelState}

theorem raiseRecovery_state (outcome : Except KernelError EffectAnswer × KernelState) :
    (raiseRecovery outcome).2 = outcome.2 := by
  unfold raiseRecovery
  split <;> rfl

theorem raiseCancelRecovery_state (outcome : Except KernelError CancelAnswer × KernelState) :
    (raiseCancelRecovery outcome).2 = outcome.2 := by
  unfold raiseCancelRecovery
  split <;> rfl

theorem Advances.supports {Answer : Type} {body : Timestamp → KernelM Answer}
    (ensures : ∀ {frame : Frame} {now : Timestamp}, Ensures (body now) environment frame
      fun _ next => frame.database.Supports next.database) :
    Advances Works state (transaction body environment state).2 :=
  transaction_advances fun _ _ => ensures.mono fun _ _ supports => Works.support supports

theorem WorkCall.works (call : WorkCall) : Advances Works state (call.apply environment state) := by
  cases call with
  | reap => exact transaction_advances fun _ _ => reapBody_works
  | nextQueued registryRevision => exact transaction_advances fun _ _ => nextQueuedBody_works
  | claim request =>
    dsimp only [apply, ExecutionKernel.claim]
    split
    · exact .refl Works state
    · exact transaction_advances fun _ _ => claimBody_works
  | claimAndStart request excluded options =>
    dsimp only [apply, ExecutionKernel.claimAndStart]
    split
    · exact .refl Works state
    · exact transaction_advances fun _ _ => claimAndStartBody_works
  | verify lease =>
    refine transaction_advances fun _ _ => verifyBody_same.mono fun _ _ same => ?_
    rw [same]
  | start lease => exact transaction_advances fun _ _ => startBody_works
  | renew lease leaseSeconds =>
    dsimp only [apply, ExecutionKernel.renew]
    split
    · exact .refl Works state
    · exact transaction_advances fun _ _ => renewBody_works
  | registerSupervisorObligation lease =>
    exact transaction_advances fun _ _ => registerSupervisorObligationBody_works
  | resolveSupervisorObligation credential decision =>
    dsimp only [apply, ExecutionKernel.resolveSupervisorObligation]
    split
    · exact transaction_advances fun _ _ => resolveSupervisorObligationBody_works
    · exact .refl Works state
  | prepareEffect lease effectId name request =>
    dsimp only [apply, ExecutionKernel.prepareEffect]
    rw [raiseRecovery_state]
    exact transaction_advances fun _ _ => prepareEffectBody_works
  | claimEffect lease effectId => exact transaction_advances fun _ _ => claimEffectBody_works
  | commitEffect effectId response lease claimId =>
    exact transaction_advances fun _ _ => commitEffectBody_works
  | markEffectIndeterminate effectId details lease claimId =>
    exact transaction_advances fun _ _ => markEffectIndeterminateBody_works
  | resolveEffect effectId decision response expectedRevision recoveryId =>
    dsimp only [apply, ExecutionKernel.resolveEffect]
    split
    · exact .refl Works state
    · split
      · exact .refl Works state
      · exact transaction_advances fun _ _ => resolveEffectBody_works
  | complete lease result options =>
    exact transaction_advances fun _ _ => completeResultBody_works
  | requireEffectRecovery lease effectId settlement =>
    exact transaction_advances fun _ _ => requireEffectRecoveryBody_works
  | deadLetter lease error =>
    dsimp only [apply, ExecutionKernel.deadLetter]
    split
    · exact .refl Works state
    · exact transaction_advances fun _ _ => deadLetterBody_works
  | cancel executionId authority reason expected =>
    dsimp only [apply, ExecutionKernel.cancel]
    rw [raiseCancelRecovery_state]
    exact transaction_advances fun _ _ => cancelBody_works
  | confirmProgress lease eventId =>
    dsimp only [apply, ExecutionKernel.confirmProgress]
    split
    · exact .refl Works state
    · exact .supports confirmProgressBody_supports
  | registerStallEpisode executionId attempt fence progressRevision episodeId policyVersion =>
    exact .supports registerStallEpisodeBody_supports
  | setStallPolicy executionId attempt fence policyVersion =>
    exact .supports setStallPolicyBody_supports
  | clearStallEpisode expected => exact .supports clearStallEpisodeBody_supports
  | prepareExecutionBudget lease pending => exact .supports prepareExecutionBudgetBody_supports
  | recordHandlerEntry lease envelope pending => exact .supports recordHandlerEntryBody_supports

theorem EnrolCall.enrols (call : EnrolCall) (owned : state.database.EffectsOwned) :
    Advances (Enrols call.Binds) state (call.apply environment state) := by
  cases call with
  | submit command =>
    dsimp only [apply, ExecutionKernel.submit]
    split
    · exact .refl _ state
    · rename_i plain
      exact transaction_advances fun _ _ => submitBody_enrols (Bool.eq_false_of_not_eq_true plain)
  | submitManaged command runId generation parent =>
    dsimp only [apply, ExecutionKernel.submitManaged]
    split
    · exact .refl _ state
    · refine transaction_advances fun _ _ => submitManagedBody_enrols ?_
      rintro presented rfl
      exact ⟨rfl, rfl⟩
  | cancelBeforeAccept command reason =>
    dsimp only [apply, ExecutionKernel.cancelBeforeAccept]
    split
    · exact .refl _ state
    · rename_i plain
      exact transaction_advances fun _ _ =>
        cancelBeforeAcceptBody_enrols owned (Bool.eq_false_of_not_eq_true plain)
  | cancelManagedBeforeAccept command runId generation reason =>
    dsimp only [apply, ExecutionKernel.cancelManagedBeforeAccept]
    split
    · exact .refl _ state
    · exact transaction_advances fun _ _ => cancelManagedBeforeAcceptBody_enrols owned
  | cancelFencedBeforeAccept command request =>
    dsimp only [apply, ExecutionKernel.cancelFencedBeforeAccept]
    split
    · exact .refl _ state
    · exact transaction_advances fun _ _ => cancelFencedBeforeAcceptBody_enrols owned
  | submitChild command parentLease envelope =>
    exact transaction_advances fun _ _ => submitChildBody_enrols ⟨rfl, rfl⟩
  | adoptChild executionId parentLease envelope =>
    exact transaction_advances fun _ _ => adoptChildBody_enrols ⟨rfl, rfl⟩

theorem GovernCall.governs (call : GovernCall) :
    Advances (fun _ => Govern) state (call.apply environment state) := by
  cases call with
  | registerRunControl runId maxClaims deadlineAt =>
    exact transaction_advances fun _ _ => registerRunControlBody_governs
  | setRunControl request => exact transaction_advances fun _ _ => setRunControlBody_governs
  | registerShared runId maxClaims deadlineAt =>
    exact sharedTransaction_advances fun _ => registerRunControlBody_governs
  | setShared request => exact sharedTransaction_advances fun _ => setRunControlBody_governs
  | fenceCancelledRun request =>
    dsimp only [apply, ExecutionKernel.fenceCancelledRun]
    split
    · exact .refl _ state
    · exact transaction_advances fun _ _ => fenceCancelledRunBody_governs
  | prepareControlPause request =>
    dsimp only [apply, ExecutionKernel.prepareControlPause]
    split
    · exact .refl _ state
    · exact transaction_advances fun _ _ => prepareControlPauseBody_governs
  | completeControlPause request =>
    dsimp only [apply, ExecutionKernel.completeControlPause]
    split
    · exact .refl _ state
    · exact transaction_advances fun _ _ => completeControlPauseBody_governs
  | protectRunAuthority runId generation expectedEpoch workerCredential =>
    dsimp only [apply, ExecutionKernel.protectRunAuthority]
    split
    · exact .refl _ state
    · exact transaction_advances fun _ _ => protectRunAuthorityBody_governs
  | revokeRunAuthority runId generation expectedEpoch =>
    dsimp only [apply, ExecutionKernel.revokeRunAuthority]
    split
    · exact .refl _ state
    · exact transaction_advances fun _ _ => revokeRunAuthorityBody_governs
  | bindInitialAdmission credential receipt =>
    exact transaction_advances fun _ _ => bindInitialAdmissionBody_governs
  | installRevisionDecision credential workerCredential expected =>
    dsimp only [apply, ExecutionKernel.installRevisionDecision]
    cases environment.authorityVerifier with
    | none => exact .refl _ state
    | some verifier =>
      dsimp only
      cases verifier 0 credential with
      | none => exact .refl _ state
      | some answer =>
        dsimp only
        cases answer.decision with
        | none => exact .refl _ state
        | some decision =>
          dsimp only
          split
          · exact transaction_advances fun _ _ => installRevisionDecisionBody_governs
          · exact .refl _ state
  | activateRevision credential decision =>
    exact transaction_advances fun _ _ => activateRevisionBody_governs
  | resumeRevision credential workerCredential decision =>
    exact transaction_advances fun _ _ => resumeRevisionBody_governs
  | importLegacyRun credential workerCredential manifest =>
    exact transaction_advances fun _ _ => importLegacyRunBody_governs

end Calls

theorem Database.supports_delivering (database : Database) (columns : OutboxRow → DeliveryColumns) :
    database.Supports (database.delivering columns) := by
  refine ⟨⟨rfl, rfl, rfl, rfl, rfl, fun executionId => ?_⟩, ⟨rfl, rfl, rfl, rfl, rfl, rfl⟩,
    fun _ => rfl⟩
  refine Ledger.ext rfl rfl rfl rfl ?_
  simp [ledger, delivering, Table.update, List.filter_map, Function.comp_def]

theorem Database.supports_booking (database : Database) (gates : HostGates)
    (envelope : ExecutionLimits → BudgetEnvelope) :
    database.Supports (database.booking gates envelope) := by
  refine ⟨⟨rfl, rfl, rfl, rfl, rfl, fun _ => rfl⟩, ⟨rfl, rfl, rfl, rfl, rfl, rfl⟩,
    fun executionId => ?_⟩
  unfold parentOf booking
  rw [Table.find?_update]
  cases database.executionLimits.find? executionId <;> rfl

/-! ### What a step of a run does -/

/-- What an operation may do to the tables, at a time it has observed. -/
inductive Step (now : Timestamp) (before after : Database) : Prop
  | work (works : Works now before after) : Step now before after
  | enrol {may : Identifier → Identifier → Prop} (enrols : Enrols may now before after) :
      Step now before after
  | govern (governs : Govern before after) : Step now before after

theorem Advances.mono {relation other : Timestamp → Database → Database → Prop}
    {before after : KernelState} (advances : Advances relation before after)
    (imply : ∀ now before after, relation now before after → other now before after) :
    Advances other before after := by
  obtain ⟨watermark, same | ⟨now, start, finish, related⟩⟩ := advances
  · exact ⟨watermark, Or.inl same⟩
  · exact ⟨watermark, Or.inr ⟨now, start, finish, imply _ _ _ related⟩⟩

variable {state : KernelState}

theorem Operation.advances (operation : Operation) (environment : Environment)
    (owned : state.database.EffectsOwned) :
    Advances Step state (operation.apply environment state) := by
  cases operation with
  | work call => exact call.works.mono fun _ _ _ => Step.work
  | enrol call => exact (call.enrols owned).mono fun _ _ _ => Step.enrol
  | govern call => exact call.governs.mono fun _ _ _ => Step.govern
  | deliver columns time =>
    exact ⟨le_max_left _ _, Or.inr ⟨state.watermark, le_refl _, le_max_left _ _,
      .govern (.support (Database.supports_delivering _ columns))⟩⟩
  | keepBooks gates envelope time =>
    exact ⟨le_max_left _ _, Or.inr ⟨state.watermark, le_refl _, le_max_left _ _,
      .govern (.support (Database.supports_booking _ gates envelope))⟩⟩

/-! ### The moves of one ledger in a step -/

/-- Several moves of one execution at one time. -/
abbrev Moves (now : Timestamp) : Ledger → Ledger → Prop :=
  ReflTransGen fun ledger next => ∃ need, Move now ledger need next

theorem Moves.of_eq {ledger next : Ledger} (same : next = ledger) : Moves now ledger next :=
  same ▸ .refl

theorem Database.ledger_spend (database : Database) (executionId name : Identifier)
    (need : Need) : (database.spend executionId need).ledger name = database.ledger name := by
  cases need with
  | claim =>
    unfold spend charged
    cases database.controlOf executionId <;> rfl
  | nothing | work | opening => rfl

theorem Database.Rewrites.moves {database next : Database}
    {relation : Ledger → Ledger → Prop} (rewrites : database.Rewrites executionId relation next)
    (imply : ∀ ledger after, relation ledger after → Moves now ledger after) (name : Identifier) :
    Moves now (database.ledger name) (next.ledger name) := by
  by_cases same : name = executionId
  · subst same
    exact imply _ _ rewrites.own
  · exact Moves.of_eq (rewrites.foreign same)

theorem Work.moves {before after : Database} (work : Work now before after) (name : Identifier) :
    Moves now (before.ledger name) (after.ledger name) := by
  cases work with
  | move allowed rewrites =>
    rw [← before.ledger_spend _ name]
    exact rewrites.moves (fun _ _ moved => .single ⟨_, moved.2⟩) name
  | support supports => exact Moves.of_eq (supports.lives.ledger name)

theorem Enrol.moves {may : Identifier → Identifier → Prop} {before after : Database}
    (enrol : Enrol may now before after) (name : Identifier) :
    Moves now (before.ledger name) (after.ledger name) := by
  cases enrol with
  | register | attest => exact .refl
  | submit active rewrites => exact rewrites.moves (fun _ _ moved => .single ⟨_, moved⟩) name
  | refuse rewrites =>
    refine rewrites.moves (fun ledger next moved => ?_) name
    obtain ⟨⟨middle, first, second⟩, -⟩ := moved
    exact .tail (.single ⟨_, first⟩) ⟨_, second⟩
  | bind permitted _ _ lives => exact Moves.of_eq (lives.ledger name)
  | support supports => exact Moves.of_eq (supports.lives.ledger name)

theorem Step.moves {before after : Database} (step : Step now before after) (name : Identifier) :
    Moves now (before.ledger name) (after.ledger name) := by
  cases step with
  | work works =>
    induction works with
    | refl => exact .refl
    | tail _ work hypothesis => exact hypothesis.trans (work.moves name)
  | enrol enrols =>
    induction enrols with
    | refl => exact .refl
    | tail _ enrol hypothesis => exact hypothesis.trans (enrol.moves name)
  | govern governs =>
    cases governs with
    | rule lives => exact Moves.of_eq (lives.ledger name)
    | support supports => exact Moves.of_eq (supports.lives.ledger name)

/-! ### Executions that are not stored -/

theorem Move.stored {ledger after : Ledger} {need : Need} (move : Move now ledger need after) :
    ∃ row, after.row = some row := by
  cases move with
  | submit | transit | resolve => exact ⟨_, rfl⟩
  | perform stored => exact ⟨_, stored⟩

/-- Of an execution without a row nothing is known. -/
def Ledger.Rooted (ledger : Ledger) : Prop := ledger.row = none → ledger = blank

theorem Ledger.Rooted.moves {ledger after : Ledger} (rooted : ledger.Rooted)
    (moves : Moves now ledger after) : after.Rooted := by
  refine keeps_of_links _ (fun _ link => ?_) rooted moves
  obtain ⟨need, move⟩ := link
  obtain ⟨row, stored⟩ := move.stored
  intro missing
  cases stored.symm.trans missing

/-- Every execution without a row is unknown. -/
def Database.Rooted (database : Database) : Prop := ∀ name, (database.ledger name).Rooted

theorem Database.Rooted.effectsOwned {database : Database} (rooted : database.Rooted) :
    database.EffectsOwned := by
  intro effect member
  cases stored : database.executions.find? effect.executionId with
  | some row => rfl
  | none =>
    have owned := Database.ledger_effects_of_mem member rfl
    rw [rooted effect.executionId stored] at owned
    cases owned

/-! ### The steps of the kernel -/

variable {next : KernelState}

theorem kernel_advances (rooted : state.database.Rooted) (step : kernel.step state next) :
    Advances Step state next := by
  obtain ⟨operation, environment, rfl⟩ := step
  exact operation.advances environment rooted.effectsOwned

theorem Advances.moves (advances : Advances Step state next) :
    ∃ now, state.watermark ≤ now ∧ now ≤ next.watermark ∧
      ∀ name, Moves now (state.database.ledger name) (next.database.ledger name) := by
  rcases advances.tables with same | ⟨now, start, finish, step⟩
  · exact ⟨state.watermark, le_refl _, advances.watermark, fun name =>
      Moves.of_eq (by rw [same])⟩
  · exact ⟨now, start, finish, step.moves⟩

theorem kernel_rooted (reachable : kernel.Reachable state) : state.database.Rooted := by
  refine reachable.invariant (fun state => state.database.Rooted) ?_ ?_
  · rintro _ ⟨storeId, rfl⟩ name _
    exact Database.ledger_initial storeId name
  · intro state next _ rooted step name
    obtain ⟨now, -, -, moves⟩ := (kernel_advances rooted step).moves
    exact (rooted name).moves (moves name)

theorem reachable_advances (reachable : kernel.Reachable state) (step : kernel.step state next) :
    Advances Step state next :=
  kernel_advances (kernel_rooted reachable) step

/-! ### Properties that every move keeps -/

/-- A property of stored executions, at a time, that every move keeps and no delay spoils. -/
structure Kept (Property : Timestamp → ExecutionRow → Ledger → Prop) : Prop where
  later : ∀ {time now row ledger}, Property time row ledger → time ≤ now → Property now row ledger
  submitted : ∀ (now : Timestamp) (command : ExecutionCommand) (data : List (String × Json)),
    Property now (command.submitted now)
      (Ledger.blank.enter (command.submitted now)
        ((command.submitted now).entry .submitted none data) [])
  moved : ∀ {now row next ledger need after}, ledger.row = some row → Property now row ledger →
    Move now ledger need after → after.row = some next → Property now next after

/-- The property holds of a ledger that has a row. -/
def Ledger.Obeys (ledger : Ledger) (Property : Timestamp → ExecutionRow → Ledger → Prop)
    (time : Timestamp) : Prop :=
  ledger.Rooted ∧ ∀ row, ledger.row = some row → Property time row ledger

namespace Kept

variable {Property : Timestamp → ExecutionRow → Ledger → Prop}

theorem move (kept : Kept Property) {ledger after : Ledger} {need : Need}
    (obeys : ledger.Obeys Property now) (move : Move now ledger need after) :
    after.Obeys Property now := by
  refine ⟨obeys.1.moves (.single ⟨need, move⟩), fun next reached => ?_⟩
  cases stored : ledger.row with
  | some row => exact kept.moved stored (obeys.2 row stored) move reached
  | none =>
    have empty := obeys.1 stored
    cases move with
    | submit fresh command data =>
      rw [empty] at reached ⊢
      cases reached
      exact kept.submitted now command data
    | transit found =>
      cases stored.symm.trans found
    | perform found =>
      cases stored.symm.trans found
    | resolve found =>
      cases stored.symm.trans found

section

variable (kept : Kept Property)

include kept

theorem moves {ledger after : Ledger} (obeys : ledger.Obeys Property now)
    (moves : Moves now ledger after) : after.Obeys Property now := by
  refine keeps_of_links (fun ledger => ledger.Obeys Property now)
    (fun holds link => ?_) obeys moves
  obtain ⟨need, move⟩ := link
  exact kept.move holds move

theorem delay {time : Timestamp} {ledger : Ledger} (obeys : ledger.Obeys Property time)
    (later : time ≤ now) : ledger.Obeys Property now :=
  ⟨obeys.1, fun row stored => kept.later (obeys.2 row stored) later⟩

theorem obeys (reachable : kernel.Reachable state) (name : Identifier) :
    (state.database.ledger name).Obeys Property state.watermark := by
  refine reachable.invariant (fun state =>
    (state.database.ledger name).Obeys Property state.watermark) ?_ ?_
  · rintro _ ⟨storeId, rfl⟩
    refine ⟨fun _ => Database.ledger_initial storeId name, fun row stored => ?_⟩
    cases stored
  · intro state next reached holds step
    obtain ⟨now, start, finish, moves⟩ := (reachable_advances reached step).moves
    exact kept.delay (kept.moves (kept.delay holds start) (moves name)) finish

theorem holds (reachable : kernel.Reachable state) {name : Identifier}
    {row : ExecutionRow} (stored : state.database.executions.find? name = some row) :
    Property state.watermark row (state.database.ledger name) :=
  (kept.obeys reachable name).2 row stored

/-- What every move of an execution with the property respects holds between any two states of a
run. -/
theorem respects (relation : Ledger → Ledger → Prop) (reflexive : ∀ ledger, relation ledger ledger)
    (transitive : ∀ {first second third}, relation first second → relation second third →
      relation first third) (respected : ∀ {now ledger need after}, ledger.Obeys Property now →
      Move now ledger need after → relation ledger after) {last : KernelState}
    (reachable : kernel.Reachable state) (run : kernel.Run state last) (name : Identifier) :
    relation (state.database.ledger name) (last.database.ledger name) := by
  refine reachable.respects (fun state last =>
    relation (state.database.ledger name) (last.database.ledger name))
    (fun _ => reflexive _) transitive ?_ run
  intro state next reached step
  obtain ⟨now, start, -, moves⟩ := (reachable_advances reached step).moves
  refine respects_of_links (fun ledger => ledger.Obeys Property now) reflexive
    transitive (fun holds link => ?_) (fun holds link => ?_)
    (kept.delay (kept.obeys reached name) start) (moves name)
  · obtain ⟨need, move⟩ := link
    exact kept.move holds move
  · obtain ⟨need, move⟩ := link
    exact respected holds move

end

end Kept

/-! ### Runs that are given by their calls -/

/-- The state after a list of calls, each with the surroundings it meets. -/
def KernelState.after (state : KernelState) (calls : List (Operation × Environment)) :
    KernelState :=
  calls.foldl (fun state call => call.1.apply call.2 state) state

theorem run_after (state : KernelState) (calls : List (Operation × Environment)) :
    kernel.Run state (state.after calls) := by
  induction calls generalizing state with
  | nil => exact .refl
  | cons call rest hypothesis =>
    exact .head ⟨call.1, call.2, rfl⟩ (hypothesis (call.1.apply call.2 state))

theorem reachable_after (storeId : Identifier) (calls : List (Operation × Environment)) :
    kernel.Reachable ((KernelState.initial storeId).after calls) :=
  ⟨_, ⟨storeId, rfl⟩, run_after _ calls⟩

def sampleName : Identifier := ⟨"job", by decide⟩

def sampleEnvironment (wall : Timestamp) : Environment where
  arithmetic := .exact
  defaultLeaseSeconds := 10
  leasePositive := by decide
  outboxMaxAttempts := 1
  attemptsPositive := by decide
  workerCredential := none
  authorityVerifier := none
  lifecycleVerifier := none
  wallTime _ := some wall
  clockSample _ := ⟨0, 0, none, .unknown, none, by decide⟩
  uuid _ := sampleName
  fault := .none

def sampleCommand : ExecutionCommand where
  executionId := sampleName
  idempotencyKey := sampleName
  registryRevision := sampleName
  correlationId := sampleName
  causationId := none
  handlerId := sampleName
  handlerContractVersion := 1
  retryPolicy := ⟨1, 0, 1, 0, false, by decide, by decide, by decide⟩
  timeoutSeconds := 1
  payload := .null
  contractVersionPositive := by decide
  timeoutAtLeastMillisecond := by decide +kernel

def sampleLease (revision : ℕ) (positive : 1 ≤ revision) : ExecutionLease where
  executionId := sampleName
  leaseId := sampleName
  owner := sampleName
  fence := 1
  attempt := 1
  expiresAt := 10
  revision := revision
  fencePositive := by decide
  attemptPositive := by decide
  revisionPositive := positive

/-- The calls of a worker that begins to perform an effect of the command, at time zero. -/
def samplePerforming : List (Operation × Environment) :=
  [(.enrol (.submit sampleCommand), sampleEnvironment 0),
    (.work (.claim ⟨sampleName, none, none, none, none, none⟩), sampleEnvironment 0),
    (.work (.start (sampleLease 2 (by decide))), sampleEnvironment 0),
    (.work (.prepareEffect (sampleLease 3 (by decide)) sampleName sampleName .null),
      sampleEnvironment 0),
    (.work (.claimEffect (sampleLease 3 (by decide)) sampleName), sampleEnvironment 0)]

def samplePerformed : KernelState := (KernelState.initial sampleName).after samplePerforming

end DispatcherSdk.ExecutionKernel
