/-
This file models the handler that runs a script in a sandbox of an outside provider, and the
journal in which it keeps the generations of an execution's sandbox.

An operation key is drawn at random; it is taken to be one that was never drawn before.
-/

import DispatcherSdk.ExecutionKernel.Reachable

namespace DispatcherSdk.ExecutionKernel

open Library

/-! ### The journal -/

/-- The `phase` of a generation. -/
inductive SandboxPhase where
  | creating
  | created
  | starting
  | running
  | collected

structure SandboxIntent where
  effectId : Identifier
  backendName : Identifier
  backendRevision : Identifier
  handlerId : Identifier
  handlerContractVersion : ℕ
  spec : Json.Text
  deriving DecidableEq

/-- A row of `sandbox_operations`, of one execution. -/
structure SandboxGeneration where
  intent : SandboxIntent
  operationKey : String
  leaseId : Identifier
  attempt : ℕ
  fence : ℕ
  phase : SandboxPhase
  sandboxId : Option Identifier
  commandId : Option Identifier
  result : Option Json.Text
  cleanupConfirmed : Bool
  cleanupEvidence : Option Json.Text

/-- The journal of one execution: its row of `sandbox_operations`, and its rows of
`sandbox_history` in their sequence. -/
structure SandboxJournal where
  current : Option SandboxGeneration
  history : List SandboxGeneration

/-- The values of an `_update`. -/
inductive JournalUpdate where
  | created (sandboxId : Identifier)
  | starting
  | running (commandId : Identifier)
  | collected (result : Json)
  | recovered (result : Json) (sandboxId commandId : Identifier)
  | cleaned (evidence : Json)

/-- The row that an `_update` leaves. -/
def JournalUpdate.apply (record : SandboxGeneration) : JournalUpdate → SandboxGeneration
  | created sandboxId => { record with phase := .created, sandboxId := some sandboxId }
  | starting => { record with phase := .starting }
  | running commandId => { record with phase := .running, commandId := some commandId }
  | collected result => { record with phase := .collected, result := some result.encode }
  | recovered result sandboxId commandId =>
    { record with
      phase := .collected
      result := some result.encode
      sandboxId := some sandboxId
      commandId := some commandId }
  | cleaned evidence =>
    { record with cleanupConfirmed := true, cleanupEvidence := some evidence.encode }

namespace SandboxJournal

/-- `_begin`, with the operation key that was drawn. -/
def begin (journal : SandboxJournal) (intent : SandboxIntent) (lease : ExecutionLease)
    (operationKey : String) : Option SandboxJournal :=
  let started : SandboxGeneration :=
    { intent, operationKey
      leaseId := lease.leaseId
      attempt := lease.attempt
      fence := lease.fence
      phase := .creating
      sandboxId := none
      commandId := none
      result := none
      cleanupConfirmed := false
      cleanupEvidence := none }
  match journal.current with
  | none => some { journal with current := some started }
  | some previous =>
    if lease.fence ≤ previous.fence then none
    else if previous.cleanupConfirmed = false then none
    else if previous.intent ≠ intent then none
    else some ⟨some started, journal.history ++ [previous]⟩

/-- `_update`, which is refused unless the generation is still the current one. -/
def update (journal : SandboxJournal) (operationKey : String) (values : JournalUpdate) :
    Option SandboxJournal :=
  match journal.current with
  | none => none
  | some record =>
    if record.operationKey = operationKey then
      some { journal with current := some (values.apply record) }
    else none

/-- All generations of the execution, from the oldest on. -/
def generations (journal : SandboxJournal) : List SandboxGeneration :=
  journal.history ++ journal.current.toList

end SandboxJournal

/-! ### Results -/

/-- The result that `perform` returns. -/
def performedResult (failed : Bool) (exitCode : ℤ) (output : Json)
    (sandboxId commandId : Identifier) : Json :=
  .object
    [("state", .string (if failed then "failed" else "succeeded")), ("exit_code", .int exitCode),
      ("output", output), ("sandbox_id", sandboxId.toJson), ("command_id", commandId.toJson)]

def resultFields : List String := ["state", "exit_code", "output", "sandbox_id", "command_id"]

/-- The terminal observations that `SandboxObservation` accepts: whether the script failed. -/
def terminalObservation : Json → Json → Option Bool
  | .string "succeeded", .int 0 => some false
  | .string "failed", .int exitCode => if exitCode = 0 then none else some true
  | _, _ => none

def resourceIdentity : Json → Option Identifier
  | .string text =>
    if text.toList.contains (Char.ofNat 0) || decide (4096 < text.length) then none
    else Identifier.ofText text
  | _ => none

/-- The part of a result that the handler reads. -/
structure SandboxOutcome where
  failed : Bool
  sandboxId : Identifier
  commandId : Identifier

/-- The checks of a committed result against what the journal has recorded. -/
def SandboxGeneration.accepts (record : SandboxGeneration) : Json → Option SandboxOutcome
  | .object fields => do
    guard ((fields.map Prod.fst).all resultFields.contains ∧
      resultFields.all (fields.map Prod.fst).contains)
    let failed ← terminalObservation (← Json.get? fields "state") (← Json.get? fields "exit_code")
    let sandboxId ← resourceIdentity (← Json.get? fields "sandbox_id")
    guard (∀ known ∈ record.sandboxId, known = sandboxId)
    let commandId ← resourceIdentity (← Json.get? fields "command_id")
    guard (∀ known ∈ record.commandId, known = commandId)
    guard (∀ known ∈ record.result, known = (Json.object fields).encode)
    return ⟨failed, sandboxId, commandId⟩
  | _ => none

/-! ### Cleanup -/

/-- A `SandboxHandler`. -/
structure SandboxHandler where
  backendName : Identifier
  backendRevision : Identifier
  journalPath : String

/-- Where a call of `cleanup` stands. -/
inductive CleanupPhase where
  | reading (operationKey : Option String) (maxFence : Option ℕ)
  /-- Before the search for a sandbox whose identity was not recorded. -/
  | finding (operationKey : String)
  | terminating (operationKey : String) (sandboxId : Identifier)
  | recording (operationKey : String) (sandboxId : Identifier)
  | finished (confirmed : Bool)
  | raised

/-- The generation that the rest of a cleanup is about. -/
def CleanupPhase.operationKey : CleanupPhase → Option String
  | finding operationKey | terminating operationKey _ | recording operationKey _ =>
    some operationKey
  | reading .. | finished _ | raised => none

/-- What `cleanup` does with the row it has read. -/
def SandboxHandler.cleanupRead (handler : SandboxHandler) (operationKey : Option String)
    (maxFence : Option ℕ) : Option SandboxGeneration → CleanupPhase
  | none => .finished true
  | some record =>
    if ∃ addressed ∈ operationKey, record.operationKey ≠ addressed then .raised
    else if ∃ fence ∈ maxFence, fence < record.fence then .finished true
    else if (record.intent.backendName, record.intent.backendRevision) ≠
        (handler.backendName, handler.backendRevision) then .raised
    else if record.cleanupConfirmed then .finished true
    else
      match record.sandboxId with
      | none => .finding record.operationKey
      | some sandboxId => .terminating record.operationKey sandboxId

/-- The steps of a cleanup, each with one call at most. -/
inductive CleanupStep (handler : SandboxHandler) (journal : SandboxJournal) :
    CleanupPhase → SandboxJournal → CleanupPhase → Prop
  | read (operationKey : Option String) (maxFence : Option ℕ) :
      CleanupStep handler journal (.reading operationKey maxFence) journal
        (handler.cleanupRead operationKey maxFence journal.current)
  /-- Whatever a search finds is terminated, and nothing is confirmed by that. -/
  | find (operationKey : String) :
      CleanupStep handler journal (.finding operationKey) journal (.finished false)
  | terminate (operationKey : String) (sandboxId : Identifier) (confirmed : Bool) :
      CleanupStep handler journal (.terminating operationKey sandboxId) journal
        (if confirmed then .recording operationKey sandboxId else .finished false)
  | record {operationKey : String} {sandboxId : Identifier} {next : SandboxJournal}
      (updated : journal.update operationKey (.cleaned (.object
        [("source", .string "backend.terminate"), ("sandbox_id", sandboxId.toJson)])) =
          some next) :
      CleanupStep handler journal (.recording operationKey sandboxId) next (.finished true)
  /-- A call raises, or an update is refused. -/
  | fail (phase : CleanupPhase) : CleanupStep handler journal phase journal .raised

/-! ### Attempts of the handler -/

/-- Where an attempt stands: the call it makes next. -/
inductive AttemptPhase where
  /-- `prepare_effect` of the script. -/
  | preparing
  /-- `claim_effect` of the script. -/
  | claiming
  /-- `_begin`, under the claim. -/
  | beginning (claimId : Identifier)
  /-- `backend.create`. -/
  | creating (claimId : Identifier) (operationKey : String)
  | recordingCreated (claimId : Identifier) (operationKey : String) (sandboxId : Identifier)
  | recordingStarting (claimId : Identifier) (operationKey : String) (sandboxId : Identifier)
  /-- `backend.start`. -/
  | starting (claimId : Identifier) (operationKey : String) (sandboxId : Identifier)
  | recordingRunning (claimId : Identifier) (operationKey : String)
      (sandboxId commandId : Identifier)
  /-- `backend.inspect`. -/
  | inspecting (claimId : Identifier) (operationKey : String) (sandboxId commandId : Identifier)
  /-- `backend.collect`, after a terminal observation. -/
  | collecting (claimId : Identifier) (operationKey : String) (sandboxId commandId : Identifier)
      (failed : Bool) (exitCode : ℤ)
  | recordingCollected (claimId : Identifier) (operationKey : String) (result : Json)
  /-- `commit_effect` of the script. -/
  | committing (claimId : Identifier) (result : Json)
  /-- `journal.get`, with the response of the effect. -/
  | reading (result : Json)
  | recovering (operationKey : String) (result : Json) (outcome : SandboxOutcome)
  /-- `prepare_effect` of the disposal. -/
  | preparingDisposal (operationKey : String) (result : Json) (failed : Bool)
  /-- `claim_effect` of the disposal. -/
  | claimingDisposal (operationKey : String) (result : Json) (failed : Bool)
  /-- `cleanup`, under the claim. -/
  | disposing (operationKey : String) (result : Json) (failed : Bool) (claimId : Identifier)
      (cleanup : CleanupPhase)
  /-- `commit_effect` of the disposal. -/
  | committingDisposal (operationKey : String) (result : Json) (failed : Bool)
      (claimId : Identifier)
  /-- `journal.get`, once the disposal is settled. -/
  | checking (operationKey : String) (result : Json) (failed : Bool)
  | confirming (operationKey : String) (result : Json) (failed : Bool)
  /-- The result is returned. -/
  | returned (result : Json)
  /-- The failure of the script is raised, with its result. -/
  | exitNonzero (result : Json)
  /-- Another error is raised, or the process has ended. -/
  | ended

/-- An attempt of the handler, under a lease. -/
structure SandboxAttempt where
  handler : SandboxHandler
  lease : ExecutionLease
  handlerId : Identifier
  handlerContractVersion : ℕ
  spec : Json
  phase : AttemptPhase

def AttemptPhase.finish (result : Json) (failed : Bool) : AttemptPhase :=
  if failed then .exitNonzero result else .returned result

namespace SandboxAttempt

/-- The intent with which an attempt begins a generation. -/
def intent (attempt : SandboxAttempt) (effectId : Identifier) : SandboxIntent where
  effectId := effectId
  backendName := attempt.handler.backendName
  backendRevision := attempt.handler.backendRevision
  handlerId := attempt.handlerId
  handlerContractVersion := attempt.handlerContractVersion
  spec := attempt.spec.encode

/-- The request of the effect of the script. -/
def request (attempt : SandboxAttempt) : Json :=
  .object
    [("spec", attempt.spec), ("backend_revision", attempt.handler.backendRevision.toJson),
      ("journal_path", .string attempt.handler.journalPath)]

/-- The request of the effect of the disposal. -/
def disposalRequest (attempt : SandboxAttempt) (operationKey : String) : Json :=
  .object
    [("operation_key", .string operationKey), ("backend_name", attempt.handler.backendName.toJson),
      ("backend_revision", attempt.handler.backendRevision.toJson)]

/-- The update of the journal that an attempt makes next, and where that leads. -/
def update : AttemptPhase → Option (String × JournalUpdate × AttemptPhase)
  | .recordingCreated claimId operationKey sandboxId =>
    some (operationKey, .created sandboxId, .recordingStarting claimId operationKey sandboxId)
  | .recordingStarting claimId operationKey sandboxId =>
    some (operationKey, .starting, .starting claimId operationKey sandboxId)
  | .recordingRunning claimId operationKey sandboxId commandId =>
    some (operationKey, .running commandId, .inspecting claimId operationKey sandboxId commandId)
  | .recordingCollected claimId operationKey result =>
    some (operationKey, .collected result, .committing claimId result)
  | .recovering operationKey result outcome =>
    some (operationKey, .recovered result outcome.sandboxId outcome.commandId,
      .preparingDisposal operationKey result outcome.failed)
  | .confirming operationKey result failed =>
    some (operationKey, .cleaned (.object [("source", .string "committed_disposal_effect")]),
      .finish result failed)
  | _ => none

/-- What follows from the answer of `prepare_effect` of the script. -/
def prepared : Except KernelError EffectRecord → AttemptPhase
  | .ok record => if record.state = .committed then .reading record.response else .claiming
  | .error _ => .ended

/-- What follows from the answer of `claim_effect` of the script. -/
def claimed : Except KernelError EffectRecord → AttemptPhase
  | .ok record => (record.claimId.map AttemptPhase.beginning).getD .ended
  | .error _ => .ended

/-- What follows from the answer of `commit_effect` of the script. -/
def committed : Except KernelError EffectRecord → AttemptPhase
  | .ok record => .reading record.response
  | .error _ => .ended

/-- What follows from the row that is read with the response of the effect. -/
def recordRead (result : Json) : Option SandboxGeneration → AttemptPhase
  | none => .ended
  | some record =>
    match record.accepts result with
    | none => .ended
    | some outcome =>
      if record.result = none then .recovering record.operationKey result outcome
      else .preparingDisposal record.operationKey result outcome.failed

def disposal : Json := .object [("cleanup_confirmed", .bool true)]

/-- The check of the response of the disposal. -/
def disposed (operationKey : String) (result : Json) (failed : Bool) (response : Json) :
    AttemptPhase :=
  if response.encode = disposal.encode then .checking operationKey result failed else .ended

/-- What follows from the answer of `prepare_effect` of the disposal. -/
def disposalPrepared (operationKey : String) (result : Json) (failed : Bool) :
    Except KernelError EffectRecord → AttemptPhase
  | .ok record =>
    if record.state = .committed then disposed operationKey result failed record.response
    else .claimingDisposal operationKey result failed
  | .error _ => .ended

/-- What follows from the answer of `claim_effect` of the disposal. -/
def disposalClaimed (operationKey : String) (result : Json) (failed : Bool) :
    Except KernelError EffectRecord → AttemptPhase
  | .ok record =>
    (record.claimId.map fun claimId =>
      .disposing operationKey result failed claimId (.reading (some operationKey) none)).getD .ended
  | .error _ => .ended

/-- What follows from a step of the cleanup. -/
def disposalMoved (operationKey : String) (result : Json) (failed : Bool)
    (claimId : Identifier) : CleanupPhase → AttemptPhase
  | .finished true => .committingDisposal operationKey result failed claimId
  | .finished false | .raised => .ended
  | cleanup => .disposing operationKey result failed claimId cleanup

/-- What follows from the answer of `commit_effect` of the disposal. -/
def disposalCommitted (operationKey : String) (result : Json) (failed : Bool) :
    Except KernelError EffectRecord → AttemptPhase
  | .ok record => disposed operationKey result failed record.response
  | .error _ => .ended

/-- What follows from the row that is read once the disposal is settled. -/
def checked (operationKey : String) (result : Json) (failed : Bool) :
    Option SandboxGeneration → AttemptPhase
  | none => .ended
  | some record =>
    if record.cleanupConfirmed then .finish result failed
    else .confirming operationKey result failed

end SandboxAttempt

/-- The generation that an attempt is about. -/
def AttemptPhase.operationKey : AttemptPhase → Option String
  | preparing | claiming | beginning _ | committing .. | reading _ => none
  | returned _ | exitNonzero _ | ended => none
  | creating _ operationKey | recordingCreated _ operationKey _
  | recordingStarting _ operationKey _ | starting _ operationKey _
  | recordingRunning _ operationKey _ _ | inspecting _ operationKey _ _
  | collecting _ operationKey _ _ _ _ | recordingCollected _ operationKey _
  | recovering operationKey _ _ | preparingDisposal operationKey _ _
  | claimingDisposal operationKey _ _ | committingDisposal operationKey _ _ _
  | checking operationKey _ _ | confirming operationKey _ _ => some operationKey
  | disposing _ _ _ _ cleanup => cleanup.operationKey

/-! ### The effects of an execution -/

theorem filled_append {first : String} (filled : blank first = false) (second : String) :
    blank (first ++ second) = false := by
  simp only [blank, String.toList_append, List.all_append, Bool.and_eq_false_iff] at filled ⊢
  exact .inl filled

/-- `SandboxHandler.effect_id`. -/
def sandboxEffectId (digest : String → String) (executionId : Identifier) : Identifier :=
  ⟨"sandbox:" ++ digest executionId.text, filled_append (by decide) _⟩

/-- The effect under which a generation is disposed of. -/
def disposalEffectId (effectId : Identifier) (operationKey : String) : Identifier :=
  ⟨effectId.text ++ ":dispose:" ++ operationKey,
    filled_append (filled_append effectId.filled _) _⟩

/-- `"sandbox.execute"`. -/
def executeName : Identifier := ⟨"sandbox.execute", by decide⟩

/-- `"sandbox.dispose"`. -/
def disposeName : Identifier := ⟨"sandbox.dispose", by decide⟩

/-! ### The three stores, and everybody who uses them -/

/-- A kernel, the journal of one execution, the attempts and cleanups under way, and what has been
drawn or given to `backend.create`. -/
structure SandboxWorld where
  kernel : KernelState
  journal : SandboxJournal
  attempts : ℕ → Option SandboxAttempt
  cleanups : ℕ → Option (SandboxHandler × CleanupPhase)
  drawn : List String
  creations : List String

inductive SandboxActor where
  | kernel
  | attempt (index : ℕ)
  | cleanup (index : ℕ)
  /-- `confirm_cleanup`, by whoever decides about a recovery. -/
  | recovery (operationKey : String)

namespace SandboxWorld

/-- The world in which an attempt has gone on. -/
def moved (world : SandboxWorld) (index : ℕ) (attempt : SandboxAttempt) (phase : AttemptPhase) :
    SandboxWorld :=
  { world with
    attempts := Function.update world.attempts index (some { attempt with phase }) }

/-- The generation that a mover addresses. -/
def addressed (world : SandboxWorld) : SandboxActor → Option String
  | .kernel => none
  | .attempt index => (world.attempts index).bind fun attempt => attempt.phase.operationKey
  | .cleanup index => (world.cleanups index).bind fun cleanup => cleanup.2.operationKey
  | .recovery operationKey => some operationKey

end SandboxWorld

section Moves

variable (digest : String → String) (executionId : Identifier)

inductive SandboxMove (before : SandboxWorld) : SandboxActor → SandboxWorld → Prop
  /-- Anything that is done with the kernel otherwise, such as a decision about an effect. -/
  | kernel (operation : Operation) (environment : Environment) :
      SandboxMove before .kernel { before with kernel := operation.apply environment before.kernel }
  /-- A worker calls the handler under a lease of the execution. -/
  | call {index : ℕ} {attempt : SandboxAttempt} (vacant : before.attempts index = none)
      (leased : attempt.lease.executionId = executionId) :
      SandboxMove before (.attempt index) (before.moved index attempt .preparing)
  /-- A call raises or is refused, the authority is gone, or the process ends. -/
  | fail {index : ℕ} {attempt : SandboxAttempt} (under : before.attempts index = some attempt) :
      SandboxMove before (.attempt index) (before.moved index attempt .ended)
  | prepare {index : ℕ} {attempt : SandboxAttempt} (environment : Environment)
      (under : before.attempts index = some attempt) (next : attempt.phase = .preparing) :
      SandboxMove before (.attempt index)
        { before.moved index attempt (SandboxAttempt.prepared
            (prepareEffect attempt.lease (sandboxEffectId digest executionId) executeName
              attempt.request environment before.kernel).1) with
          kernel := (prepareEffect attempt.lease (sandboxEffectId digest executionId) executeName
            attempt.request environment before.kernel).2 }
  | claim {index : ℕ} {attempt : SandboxAttempt} (environment : Environment)
      (under : before.attempts index = some attempt) (next : attempt.phase = .claiming) :
      SandboxMove before (.attempt index)
        { before.moved index attempt (SandboxAttempt.claimed
            (claimEffect attempt.lease (sandboxEffectId digest executionId) environment
              before.kernel).1) with
          kernel := (claimEffect attempt.lease (sandboxEffectId digest executionId) environment
            before.kernel).2 }
  | begin {index : ℕ} {attempt : SandboxAttempt} {claimId : Identifier} {operationKey : String}
      {journal : SandboxJournal} (under : before.attempts index = some attempt)
      (next : attempt.phase = .beginning claimId) (fresh : operationKey ∉ before.drawn)
      (begun : before.journal.begin (attempt.intent (sandboxEffectId digest executionId))
        attempt.lease operationKey = some journal) :
      SandboxMove before (.attempt index)
        { before.moved index attempt (.creating claimId operationKey) with
          journal, drawn := operationKey :: before.drawn }
  /-- The provider is asked for a sandbox, and may answer with one. -/
  | create {index : ℕ} {attempt : SandboxAttempt} {claimId : Identifier} {operationKey : String}
      (answer : Option Identifier) (under : before.attempts index = some attempt)
      (next : attempt.phase = .creating claimId operationKey) :
      SandboxMove before (.attempt index)
        { before.moved index attempt
            ((answer.map fun sandboxId =>
              .recordingCreated claimId operationKey sandboxId).getD .ended) with
          creations := operationKey :: before.creations }
  /-- The provider is asked to start the script, and may answer with a command. -/
  | start {index : ℕ} {attempt : SandboxAttempt} {claimId : Identifier} {operationKey : String}
      {sandboxId : Identifier} (commandId : Identifier)
      (under : before.attempts index = some attempt)
      (next : attempt.phase = .starting claimId operationKey sandboxId) :
      SandboxMove before (.attempt index)
        (before.moved index attempt (.recordingRunning claimId operationKey sandboxId commandId))
  /-- The script has ended; as long as it runs, nothing changes. -/
  | inspect {index : ℕ} {attempt : SandboxAttempt} {claimId : Identifier} {operationKey : String}
      {sandboxId commandId : Identifier} (failed : Bool) (exitCode : ℤ)
      (under : before.attempts index = some attempt)
      (next : attempt.phase = .inspecting claimId operationKey sandboxId commandId) :
      SandboxMove before (.attempt index)
        (before.moved index attempt
          (.collecting claimId operationKey sandboxId commandId failed exitCode))
  | collect {index : ℕ} {attempt : SandboxAttempt} {claimId : Identifier} {operationKey : String}
      {sandboxId commandId : Identifier} {failed : Bool} {exitCode : ℤ} (output : Json)
      (under : before.attempts index = some attempt)
      (next : attempt.phase =
        .collecting claimId operationKey sandboxId commandId failed exitCode) :
      SandboxMove before (.attempt index)
        (before.moved index attempt (.recordingCollected claimId operationKey
          (performedResult failed exitCode output sandboxId commandId)))
  /-- An attempt updates the journal. -/
  | update {index : ℕ} {attempt : SandboxAttempt} {operationKey : String} {values : JournalUpdate}
      {phase : AttemptPhase} {journal : SandboxJournal}
      (under : before.attempts index = some attempt)
      (next : SandboxAttempt.update attempt.phase = some (operationKey, values, phase))
      (updated : before.journal.update operationKey values = some journal) :
      SandboxMove before (.attempt index) { before.moved index attempt phase with journal }
  | commit {index : ℕ} {attempt : SandboxAttempt} {claimId : Identifier} {result : Json}
      (environment : Environment) (under : before.attempts index = some attempt)
      (next : attempt.phase = .committing claimId result) :
      SandboxMove before (.attempt index)
        { before.moved index attempt (SandboxAttempt.committed
            (commitEffect (sandboxEffectId digest executionId) result attempt.lease claimId
              environment before.kernel).1) with
          kernel := (commitEffect (sandboxEffectId digest executionId) result attempt.lease claimId
            environment before.kernel).2 }
  | read {index : ℕ} {attempt : SandboxAttempt} {result : Json}
      (under : before.attempts index = some attempt) (next : attempt.phase = .reading result) :
      SandboxMove before (.attempt index)
        (before.moved index attempt (SandboxAttempt.recordRead result before.journal.current))
  | prepareDisposal {index : ℕ} {attempt : SandboxAttempt} {operationKey : String} {result : Json}
      {failed : Bool} (environment : Environment) (under : before.attempts index = some attempt)
      (next : attempt.phase = .preparingDisposal operationKey result failed) :
      SandboxMove before (.attempt index)
        { before.moved index attempt (SandboxAttempt.disposalPrepared operationKey result failed
            (prepareEffect attempt.lease
              (disposalEffectId (sandboxEffectId digest executionId) operationKey) disposeName
              (attempt.disposalRequest operationKey) environment before.kernel).1) with
          kernel := (prepareEffect attempt.lease
            (disposalEffectId (sandboxEffectId digest executionId) operationKey) disposeName
            (attempt.disposalRequest operationKey) environment before.kernel).2 }
  | claimDisposal {index : ℕ} {attempt : SandboxAttempt} {operationKey : String} {result : Json}
      {failed : Bool} (environment : Environment) (under : before.attempts index = some attempt)
      (next : attempt.phase = .claimingDisposal operationKey result failed) :
      SandboxMove before (.attempt index)
        { before.moved index attempt (SandboxAttempt.disposalClaimed operationKey result failed
            (claimEffect attempt.lease
              (disposalEffectId (sandboxEffectId digest executionId) operationKey) environment
              before.kernel).1) with
          kernel := (claimEffect attempt.lease
            (disposalEffectId (sandboxEffectId digest executionId) operationKey) environment
            before.kernel).2 }
  | dispose {index : ℕ} {attempt : SandboxAttempt} {operationKey : String} {result : Json}
      {failed : Bool} {claimId : Identifier} {cleanup after : CleanupPhase}
      {journal : SandboxJournal} (under : before.attempts index = some attempt)
      (next : attempt.phase = .disposing operationKey result failed claimId cleanup)
      (step : CleanupStep attempt.handler before.journal cleanup journal after) :
      SandboxMove before (.attempt index)
        { before.moved index attempt
            (SandboxAttempt.disposalMoved operationKey result failed claimId after) with journal }
  | commitDisposal {index : ℕ} {attempt : SandboxAttempt} {operationKey : String} {result : Json}
      {failed : Bool} {claimId : Identifier} (environment : Environment)
      (under : before.attempts index = some attempt)
      (next : attempt.phase = .committingDisposal operationKey result failed claimId) :
      SandboxMove before (.attempt index)
        { before.moved index attempt (SandboxAttempt.disposalCommitted operationKey result failed
            (commitEffect (disposalEffectId (sandboxEffectId digest executionId) operationKey)
              SandboxAttempt.disposal attempt.lease claimId environment before.kernel).1) with
          kernel := (commitEffect
            (disposalEffectId (sandboxEffectId digest executionId) operationKey)
            SandboxAttempt.disposal attempt.lease claimId environment before.kernel).2 }
  | check {index : ℕ} {attempt : SandboxAttempt} {operationKey : String} {result : Json}
      {failed : Bool} (under : before.attempts index = some attempt)
      (next : attempt.phase = .checking operationKey result failed) :
      SandboxMove before (.attempt index)
        (before.moved index attempt
          (SandboxAttempt.checked operationKey result failed before.journal.current))
  /-- A runtime calls `cleanup`. -/
  | cleanup {index : ℕ} (handler : SandboxHandler) (operationKey : Option String)
      (maxFence : Option ℕ) (vacant : before.cleanups index = none) :
      SandboxMove before (.cleanup index)
        { before with
          cleanups := Function.update before.cleanups index
            (some (handler, .reading operationKey maxFence)) }
  | clean {index : ℕ} {handler : SandboxHandler} {phase after : CleanupPhase}
      {journal : SandboxJournal} (under : before.cleanups index = some (handler, phase))
      (step : CleanupStep handler before.journal phase journal after) :
      SandboxMove before (.cleanup index)
        { before with
          journal
          cleanups := Function.update before.cleanups index (some (handler, after)) }
  /-- `confirm_cleanup`. -/
  | confirm {operationKey : String} {journal : SandboxJournal} (evidence : Json)
      (updated : before.journal.update operationKey (.cleaned (.object
        [("source", .string "external_recovery"), ("evidence", evidence)])) = some journal) :
      SandboxMove before (.recovery operationKey) { before with journal }

/-- Everybody who uses the sandbox of one execution. -/
def sandboxSystem : TransitionSystem SandboxWorld where
  initial world := kernel.initial world.kernel ∧ world.journal = ⟨none, []⟩ ∧
    world.attempts = (fun _ => none) ∧ world.cleanups = (fun _ => none) ∧ world.creations = []
  step world next := ∃ actor, SandboxMove digest executionId world actor next

/-- The effect of the script is committed. -/
def SandboxWorld.Settled (world : SandboxWorld) : Prop :=
  ∃ effect, world.kernel.database.effects.find? (sandboxEffectId digest executionId) =
    some effect ∧ effect.state = .committed

/-- A move does not undo what others rest on: no generation is begun after the commit, and no
recorded result is replaced by another. -/
def SandboxWorld.Permits (world : SandboxWorld) : SandboxActor → Prop
  | .attempt index => ∀ attempt, world.attempts index = some attempt →
    (∀ claimId, attempt.phase = .beginning claimId → ¬ world.Settled digest executionId) ∧
    ∀ claimId operationKey result, attempt.phase = .recordingCollected claimId operationKey result →
        ∀ record, world.journal.current = some record → record.operationKey = operationKey →
          ∀ text, record.result = some text → text = result.encode
  | _ => True

def undisturbedSandbox : TransitionSystem SandboxWorld where
  initial := (sandboxSystem digest executionId).initial
  step world next := ∃ actor, SandboxMove digest executionId world actor next ∧
    world.Permits digest executionId actor

end Moves

end DispatcherSdk.ExecutionKernel
