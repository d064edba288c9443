/-
This file models how a managed Run moves along its task graph: `register_managed_run`,
`record_managed_acceptance`, and the calls that pause and resume the Run, and proves what comes of
the graph in every order of these calls.

There are two ways to resume a Run, one for a Kernel in the same store and one for a Kernel
in a store of its own, and they are modelled as they are written. What the other store and
the host answer is left open; a call that they refuse changes nothing.
-/

import DispatcherSdk.Orchestrator.Registrations

namespace DispatcherSdk.Orchestrator

open Library Library.Checked Table Relation
open ExecutionKernel hiding ExecutionRow OutboxRow EventRow Operation

/-! ### The rows of a managed Run -/

/-- The columns `control_state`, `control_epoch` and `generation` of `sdk_managed_runs`. -/
structure ManagedControl where
  state : ControlState
  epoch : ℕ
  generation : ℕ
  deriving DecidableEq

/-- A row of `sdk_outbox`. -/
structure QueuedIntent where
  commandId : String
  ordinal : ℕ
  intent : Intent
  generation : ℕ

inductive PauseMode where
  | drain
  | interrupt
  deriving DecidableEq

inductive ManagedRequest where
  | acceptance (taskId : Identifier) (accepted : Bool) (evidence : Json)
  | pause (mode : PauseMode) (drain : List Identifier)
  | resume

/-- The columns of `sdk_control_operations` that the local steps of a pause read. -/
structure PauseOperation where
  operationId : Identifier
  sourceEpoch : ℕ
  generation : ℕ
  prepared : Bool
  /-- `orchestrator_pause_receipt IS NOT NULL`. -/
  paused : Bool

/-- The columns of `sdk_revision_decisions` and `sdk_revision_resumes` that the local steps of a
revision read. -/
structure RevisionDecision where
  operationId : Identifier
  sourceRevision : ℕ
  sourceEpoch : ℕ
  sourceGeneration : ℕ
  targetApplicationState : Json
  /-- `orchestrator_install_receipt IS NOT NULL`. -/
  installed : Bool

/-- A managed Run with its control and its part of the outbox. The digest of a request is the key
of its receipt. -/
structure ManagedGraph (Digest : Type) where
  run : RunSnapshot
  control : ManagedControl
  outbox : List QueuedIntent
  /-- `sdk_managed_commands`. -/
  commands : List (Identifier × Digest)
  pauses : List PauseOperation
  decisions : List RevisionDecision

/-! ### Queueing accepted tasks -/

/-- The current attempt of the task was accepted. -/
def RunTask.accepted (task : RunTask) : Bool :=
  task.managedAcceptance.any fun decision =>
    decision.accepted && decide (decision.attempt = task.attempts.length - 1)

/-- Whether the current attempts of all dependencies were accepted. -/
def dependenciesAccepted (tasks : Table RunTask.taskId) :
    List Identifier → Except SdkError Bool
  | [] => .ok true
  | dependency :: rest => do
    let task ← present (tasks.find? dependency) (.key dependency.text)
    if task.accepted then dependenciesAccepted tasks rest else return false

/-- The loop body of `_dispatch_accepted_tasks`. -/
def dispatchAcceptedTask (stack : ℕ) (before : RunSnapshot × List Intent) (taskId : Identifier) :
    Except SdkError (RunSnapshot × List Intent) := do
  let (task, current) ← currentAttempt before.1 taskId
  -- Roots are queued at creation and never redispatched here.
  if current.state ≠ .planned ∨ task.dependencies = [] then return before
  else
    let eligible ← dependenciesAccepted before.1.tasks task.dependencies
    if eligible then
      let (run, intents) ← reduceOperation stack before.1 (.dispatch taskId)
      return (run, before.2 ++ intents)
    else return before

def dispatchAcceptedTasks (stack : ℕ) (run : RunSnapshot) :
    Except SdkError (RunSnapshot × List Intent) :=
  (run.tasks.rows.map RunTask.taskId).foldlM (dispatchAcceptedTask stack) (run, [])

/-- The rows in which a command queues its intents. -/
def queuedIntents (commandId : String) (generation : ℕ) (intents : List Intent) :
    List QueuedIntent :=
  intents.zipIdx.map fun intent => ⟨commandId, intent.2, intent.1, generation⟩

/-! ### Registration -/

/-- A task of a managed Run as it is registered. -/
structure ManagedTask where
  taskId : Identifier
  command : ExecutionCommand
  dependencies : List String

/-- The tasks whose dependencies are all ordered already, the one with the least name first. -/
def nextCommand (ordered remaining : List ManagedTask) : Option ManagedTask :=
  ((remaining.filter fun item =>
    item.dependencies.all fun dependency => ordered.any fun other =>
      decide (other.taskId.text = dependency)).insertionSort
    fun left right => left.taskId.text ≤ right.taskId.text).head?

/-- The loop of `_topological_commands`, which takes as many rounds as there are tasks. -/
def orderedCommands : ℕ → List ManagedTask → List ManagedTask → List ManagedTask
  | 0, ordered, _ => ordered
  | rounds + 1, ordered, remaining =>
    match nextCommand ordered remaining with
    | none => ordered
    | some item =>
      orderedCommands rounds (ordered ++ [item])
        (remaining.filter fun other => other.taskId ≠ item.taskId)

def topologicalCommands (commands : List ManagedTask) : Except SdkError (List ManagedTask) := do
  check ((commands.map ManagedTask.taskId).Nodup)
    (.orchestration "managed task identifiers must be unique")
  check (∀ item ∈ commands, ∀ dependency ∈ item.dependencies, blank dependency = false)
    (.orchestration "dependencies must be task identifiers")
  check (∀ item ∈ commands, item.dependencies.Nodup ∧ item.taskId.text ∉ item.dependencies)
    (.orchestration "duplicate or self dependency")
  check (∀ item ∈ commands, ∀ dependency ∈ item.dependencies,
      dependency ∈ commands.map fun other => other.taskId.text)
    (.orchestration "managed dependency is not a task in this Run")
  let sorted := commands.map fun item =>
    { item with dependencies := item.dependencies.insertionSort (· ≤ ·) }
  let ordered := orderedCommands sorted.length [] sorted
  check (ordered.length = commands.length) (.orchestration "managed task graph contains a cycle")
  return ordered

def addManagedTask (stack : ℕ)
    (before : RunSnapshot × List (Identifier × ℕ × RunAttempt)) (item : ManagedTask) :
    Except SdkError (RunSnapshot × List (Identifier × ℕ × RunAttempt)) := do
  let (run, _) ← reduceOperation stack before.1
    (.addTask item.taskId item.command (some (.array (item.dependencies.map .string))))
  let task ← present (run.tasks.find? item.taskId) (.key item.taskId.text)
  let first ← present task.attempts[0]? (.index "list index out of range")
  return (run, before.2 ++ [(item.taskId, 0, first)])

def dispatchRoot (stack : ℕ) (before : RunSnapshot × List Intent) (item : ManagedTask) :
    Except SdkError (RunSnapshot × List Intent) :=
  if item.dependencies = [] then do
    let (run, intents) ← reduceOperation stack before.1 (.dispatch item.taskId)
    return (run, before.2 ++ intents)
  else .ok before

/-- What `register_managed_run` is asked for. -/
structure ManagedSpec where
  runId : Identifier
  input : Json
  definition : Json
  commands : List ManagedTask
  maxClaims : ℕ
  deadlineAt : Timestamp

/-- `register_managed_run`, for a request and a Run that are new. -/
def registerManagedRun {Digest : Type} (stack : ℕ) (executions : Executions) (spec : ManagedSpec) :
    Except SdkError (ManagedGraph Digest × Executions) := do
  check (spec.maxClaims ≤ maxSqliteInteger)
    (.orchestration "max_claims exceeds SQLite integer range")
  check (0 < spec.deadlineAt) (.orchestration "deadline_at must be finite and positive")
  check (∀ item ∈ spec.commands, item.command.executionId.text.startsWith "sdk-managed:" = true ∧
      item.command.correlationId = spec.runId)
    (.orchestration "managed command identity differs from Run")
  let commands ← topologicalCommands spec.commands
  let (run, registrations) ← commands.foldlM (addManagedTask stack)
    (.create spec.runId spec.input spec.definition, [])
  let executions ← registerExecutions run executions registrations
  let (run, intents) ← commands.foldlM (dispatchRoot stack) (run, [])
  return ({ run, control := ⟨.paused, 0, 0⟩, outbox := queuedIntents "managed-create" 0 intents
            commands := [], pauses := [], decisions := [] }, executions)

/-! ### Decisions of the application -/

namespace ManagedGraph

variable {Digest : Type} [DecidableEq Digest] (digest : ManagedRequest → Digest) (stack : ℕ)
  (managed : ManagedGraph Digest)

/-- The receipt of a request, whose content has to be the same. -/
def replayed (requestId : Identifier) (request : ManagedRequest) : Except SdkError Bool :=
  match managed.commands.find? fun receipt => receipt.1 = requestId with
  | none => .ok false
  | some receipt => do
    check (receipt.2 = digest request)
      (.commandConflict "managed request identity already has different content")
    return true

def actOnDecision (accepted : Bool) (decided : RunSnapshot) :
    Except SdkError (RunSnapshot × List Intent) :=
  if accepted = true ∧ managed.control.state = .active then dispatchAcceptedTasks stack decided
  else .ok (decided, [])

def recordManagedAcceptance (taskId requestId : Identifier) (expectedRevision : ℕ)
    (accepted : Bool) (evidence : List (String × Json)) :
    Except SdkError (ManagedGraph Digest) := do
  check (evidence ≠ []) (.orchestration "acceptance requires nonempty application evidence")
  let request := ManagedRequest.acceptance taskId accepted (.object evidence)
  let known ← managed.replayed digest requestId request
  if known then return managed
  else
    check (managed.run.revision = expectedRevision) (.revisionConflict "managed Run revision changed")
    let task ← present (managed.run.tasks.find? taskId) (.orchestration "unknown managed task")
    let current ← present task.attempts.getLast? (.index "list index out of range")
    check (current.state.terminal = true)
      (.orchestration "managed task must settle before acceptance")
    check (task.managedAcceptance.isNone)
      (.commandConflict "current managed task attempt already has an acceptance decision")
    let decision : ManagedAcceptance :=
      { attempt := task.attempts.length - 1, generation := current.generation.getD 0, accepted
        evidence := .object evidence }
    let decided := managed.run.setTask { task with managedAcceptance := some decision }
    let (run, intents) ← managed.actOnDecision stack accepted decided
    return { managed with
      run := { run with revision := run.revision + 1 }
      outbox := managed.outbox ++ queuedIntents ("managed-accept:" ++ requestId.text)
        managed.control.generation intents
      commands := managed.commands ++ [(requestId, digest request)] }

def syncExecution (taskId : Identifier) (index : ℕ) (snapshot : ExecutionSnapshot) :
    Except SdkError (ManagedGraph Digest) := do
  let run ← managed.run.syncExecution taskId index snapshot
  return { managed with run }

/-! ### Pause and resume in one store -/

/-- The executions that an interrupting pause cancels: those with `active = 1`. -/
def activeCommands : List ExecutionCommand :=
  managed.run.tasks.rows.flatMap fun task =>
    (task.attempts.filter fun attempt => attempt.dispatched && !attempt.state.terminal).map
      RunAttempt.command

/-- What `_request_managed_control` checks before it writes. -/
def checkControl (expectedRevision expectedEpoch : ℕ) : Except SdkError Unit := do
  check (managed.run.state = .running)
    (.orchestration "terminal Run cannot change managed control state")
  check (managed.run.revision = expectedRevision ∧ managed.control.epoch = expectedEpoch)
    (.revisionConflict "managed Run observation changed")

/-- `_request_managed_control` with the kind `pause`. -/
def requestPause (requestId : Identifier) (expectedRevision expectedEpoch : ℕ) (mode : PauseMode)
    (drain : List Identifier) : Except SdkError (ManagedGraph Digest) := do
  check (drain.length ≤ 1000) (.orchestration "drain set exceeds the 1000-execution control limit")
  check (mode = .interrupt → drain = [])
    (.orchestration "interrupt pause cannot grant drain executions")
  let request := ManagedRequest.pause mode drain
  let known ← managed.replayed digest requestId request
  if known then return managed
  else
    managed.checkControl expectedRevision expectedEpoch
    check (managed.control.state = .active) (.orchestration "only active Run may request pause")
    let cancels := if mode = .interrupt then managed.activeCommands else []
    check (cancels.length ≤ 1000)
      (.orchestration "interrupt pause exceeds the 1000-execution transaction limit")
    let reason : Identifier := ⟨"managed interrupt pause", by decide⟩
    return { managed with
      control := { managed.control with state := .pausing, epoch := expectedEpoch + 1 }
      outbox := managed.outbox ++ queuedIntents ("managed-interrupt:" ++ requestId.text)
        managed.control.generation (cancels.map fun command => .cancel command reason)
      commands := managed.commands ++ [(requestId, digest request)] }

/-- `_request_managed_control` with the kind `resume`. -/
def requestResume (requestId : Identifier) (expectedRevision expectedEpoch : ℕ) :
    Except SdkError (ManagedGraph Digest) := do
  let known ← managed.replayed digest requestId .resume
  if known then return managed
  else
    managed.checkControl expectedRevision expectedEpoch
    check (managed.control.state = .paused) (.orchestration "only paused Run may request resume")
    let (run, intents) ← dispatchAcceptedTasks stack managed.run
    return { managed with
      run := if intents.isEmpty then managed.run else { run with revision := run.revision + 1 }
      control := { managed.control with state := .active, epoch := expectedEpoch + 1 }
      outbox := managed.outbox ++ queuedIntents ("managed-resume:" ++ requestId.text)
        managed.control.generation intents
      commands := managed.commands ++ [(requestId, digest .resume)] }

/-- `_settle_managed_pause`, once nothing blocks it any more. -/
def settleManagedPause (expectedEpoch : ℕ) : Except SdkError (ManagedGraph Digest) :=
  if managed.control.state = .paused ∧ managed.control.epoch = expectedEpoch + 1 then .ok managed
  else do
    check (managed.control.epoch = expectedEpoch)
      (.revisionConflict "managed control epoch changed")
    check (managed.control.state = .pausing) (.orchestration "managed Run is not pausing")
    return { managed with
      control := { managed.control with state := .paused, epoch := expectedEpoch + 1 } }

/-! ### Pause and resume across two stores -/

/-- `begin_cross_store_pause`, for an operation that is new. -/
def beginCrossStorePause (operationId : Identifier) (expectedRevision expectedEpoch : ℕ) :
    Except SdkError (ManagedGraph Digest) := do
  check (∀ operation ∈ managed.pauses, operation.operationId ≠ operationId)
    (.commandConflict "control operation identity already has different content")
  check (managed.run.state = .running) (.orchestration "unknown or terminal managed Run")
  check (managed.run.revision = expectedRevision ∧ managed.control.epoch = expectedEpoch)
    (.revisionConflict "managed Run observation changed")
  check (managed.control.state = .active) (.orchestration "only an active Run may request pause")
  return { managed with
    control := { managed.control with state := .pausing, epoch := expectedEpoch + 1 }
    pauses := managed.pauses ++
      [⟨operationId, expectedEpoch, managed.control.generation, false, false⟩] }

def pauseOf (operationId : Identifier) : Option PauseOperation :=
  managed.pauses.find? fun operation => operation.operationId = operationId

def setPause (changed : PauseOperation) : List PauseOperation :=
  managed.pauses.map fun operation =>
    if operation.operationId = changed.operationId then changed else operation

/-- `prepare_cross_store_pause`, once every dispatch is classified. -/
def prepareCrossStorePause (operationId : Identifier) : Except SdkError (ManagedGraph Digest) := do
  let operation ← present (managed.pauseOf operationId)
    (.orchestration "unknown cross-store pause operation")
  check (managed.control = ⟨.pausing, operation.sourceEpoch + 1, operation.generation⟩ ∨
      (operation.paused = true ∧
        managed.control = ⟨.paused, operation.sourceEpoch + 2, operation.generation⟩))
    (.revisionConflict "Orchestrator pause barrier changed")
  return { managed with pauses := managed.setPause { operation with prepared := true } }

def finalizeCrossStorePause (operationId : Identifier) : Except SdkError (ManagedGraph Digest) := do
  let refusal := SdkError.orchestration "prepared pause decision is required"
  let operation ← present (managed.pauseOf operationId) refusal
  check (operation.prepared = true) refusal
  if operation.paused then return managed
  else
    check (managed.control = ⟨.pausing, operation.sourceEpoch + 1, operation.generation⟩)
      (.revisionConflict "Orchestrator pause barrier changed")
    return { managed with
      control := ⟨.paused, operation.sourceEpoch + 2, operation.generation⟩
      pauses := managed.setPause { operation with paused := true } }

def decisionOf (operationId : Identifier) : Option RevisionDecision :=
  managed.decisions.find? fun decision => decision.operationId = operationId

/-- `commit_cross_store_revision`, for a request that is new. -/
def commitCrossStoreRevision (operationId : Identifier)
    (expectedRevision expectedEpoch expectedGeneration : ℕ) (target : Json) :
    Except SdkError (ManagedGraph Digest) := do
  let operation ← present (managed.pauseOf operationId) (.orchestration "unknown pause decision")
  check (operation.prepared = true) (.orchestration "prepared pause decision is required")
  check (managed.run.revision = expectedRevision ∧
      managed.control = ⟨.paused, expectedEpoch, expectedGeneration⟩ ∧
      operation.generation = expectedGeneration ∧ operation.sourceEpoch + 2 = expectedEpoch ∧
      operation.paused = true)
    (.revisionConflict "revision source observation changed")
  check (managed.decisionOf operationId).isNone
    (.commandConflict "pause operation already has a revision decision")
  return { managed with
    decisions := managed.decisions ++
      [⟨operationId, expectedRevision, expectedEpoch, expectedGeneration, target, false⟩] }

def installCrossStoreProjection (operationId : Identifier) : Except SdkError (ManagedGraph Digest) := do
  let decision ← present (managed.decisionOf operationId)
    (.orchestration "Kernel revision installation receipt is required")
  if decision.installed then return managed
  else
    check (managed.control = ⟨.paused, decision.sourceEpoch, decision.sourceGeneration⟩ ∧
        managed.run.revision = decision.sourceRevision)
      (.revisionConflict "local revision installation source changed")
    return { managed with
      run := { managed.run with
        revision := managed.run.revision + 1
        generation := decision.sourceGeneration + 1
        applicationState := decision.targetApplicationState }
      control := ⟨.paused, decision.sourceEpoch + 1, decision.sourceGeneration + 1⟩
      decisions := managed.decisions.map fun other =>
        if other.operationId = operationId then { other with installed := true } else other }

/-- The last transaction of `resume_cross_store_revision`. -/
def resumeCrossStoreRevision (operationId : Identifier) : Except SdkError (ManagedGraph Digest) := do
  let refusal := SdkError.orchestration "both revision installation receipts are required"
  let decision ← present (managed.decisionOf operationId) refusal
  check (decision.installed = true) refusal
  check (managed.control = ⟨.paused, decision.sourceEpoch + 1, decision.sourceGeneration + 1⟩)
    (.revisionConflict "resume Orchestrator gate changed")
  return { managed with
    control := ⟨.active, decision.sourceEpoch + 2, decision.sourceGeneration + 1⟩ }

end ManagedGraph

/-! ### Runs -/

inductive ManagedCall where
  | accept (taskId requestId : Identifier) (expectedRevision : ℕ) (accepted : Bool)
    (evidence : List (String × Json))
  | sync (taskId : Identifier) (index : ℕ) (snapshot : ExecutionSnapshot)
  | pause (requestId : Identifier) (expectedRevision expectedEpoch : ℕ) (mode : PauseMode)
    (drain : List Identifier)
  | resume (requestId : Identifier) (expectedRevision expectedEpoch : ℕ)
  | settle (expectedEpoch : ℕ)
  | crossStorePause (operationId : Identifier) (expectedRevision expectedEpoch : ℕ)
  | prepare (operationId : Identifier)
  | finalize (operationId : Identifier)
  | commitRevision (operationId : Identifier)
    (expectedRevision expectedEpoch expectedGeneration : ℕ) (target : Json)
  | installProjection (operationId : Identifier)
  | crossStoreResume (operationId : Identifier)

def ManagedCall.run {Digest : Type} [DecidableEq Digest] (digest : ManagedRequest → Digest)
    (stack : ℕ) (managed : ManagedGraph Digest) : ManagedCall → Except SdkError (ManagedGraph Digest)
  | accept taskId requestId expectedRevision accepted evidence =>
    managed.recordManagedAcceptance digest stack taskId requestId expectedRevision accepted evidence
  | sync taskId index snapshot => managed.syncExecution taskId index snapshot
  | pause requestId expectedRevision expectedEpoch mode drain =>
    managed.requestPause digest requestId expectedRevision expectedEpoch mode drain
  | resume requestId expectedRevision expectedEpoch =>
    managed.requestResume digest stack requestId expectedRevision expectedEpoch
  | settle expectedEpoch => managed.settleManagedPause expectedEpoch
  | crossStorePause operationId expectedRevision expectedEpoch =>
    managed.beginCrossStorePause operationId expectedRevision expectedEpoch
  | prepare operationId => managed.prepareCrossStorePause operationId
  | finalize operationId => managed.finalizeCrossStorePause operationId
  | commitRevision operationId expectedRevision expectedEpoch expectedGeneration target =>
    managed.commitCrossStoreRevision operationId expectedRevision expectedEpoch expectedGeneration
      target
  | installProjection operationId => managed.installCrossStoreProjection operationId
  | crossStoreResume operationId => managed.resumeCrossStoreRevision operationId

/-- A managed Run under any calls in any order. -/
def managedRuns {Digest : Type} [DecidableEq Digest] (digest : ManagedRequest → Digest) :
    TransitionSystem (ManagedGraph Digest) where
  initial managed := ∃ stack executions spec after,
    registerManagedRun stack executions spec = .ok (managed, after)
  step managed after := ∃ stack call, ManagedCall.run digest stack managed call = .ok after

open List Option

/-! ### What is left to queue -/

/-- The current attempt of the task was accepted. -/
def Accepted (tasks : Table RunTask.taskId) (taskId : Identifier) : Prop :=
  ∃ task, tasks.find? taskId = some task ∧ task.accepted = true

/-- The current attempt at the task is planned. -/
def Planned (run : RunSnapshot) (taskId : Identifier) : Prop :=
  ∃ task, run.tasks.find? taskId = some task ∧
    ∃ current, task.attempts.getLast? = some current ∧ current.state = .planned

/-- The current attempts of all dependencies were accepted. -/
def Cleared (run : RunSnapshot) (taskId : Identifier) : Prop :=
  ∃ task, run.tasks.find? taskId = some task ∧
    ∀ dependency ∈ task.dependencies, Accepted run.tasks dependency

/-- The task is planned and nothing that it depends on is left to be accepted. -/
def Ready (run : RunSnapshot) (taskId : Identifier) : Prop :=
  Planned run taskId ∧ Cleared run taskId

instance (tasks : Table RunTask.taskId) (taskId : Identifier) : Decidable (Accepted tasks taskId) :=
  decidable_of_iff ((tasks.find? taskId).any RunTask.accepted = true) (any_eq_true _ _)

instance (run : RunSnapshot) (taskId : Identifier) : Decidable (Planned run taskId) :=
  decidable_of_iff (∃ task ∈ run.tasks.find? taskId, ∃ current ∈ task.attempts.getLast?,
    current.state = .planned) Iff.rfl

instance (run : RunSnapshot) (taskId : Identifier) : Decidable (Cleared run taskId) :=
  decidable_of_iff (∃ task ∈ run.tasks.find? taskId,
    ∀ dependency ∈ task.dependencies, Accepted run.tasks dependency) Iff.rfl

instance (run : RunSnapshot) (taskId : Identifier) : Decidable (Ready run taskId) :=
  inferInstanceAs (Decidable (_ ∧ _))

/-- The execution that a delivery asks for. -/
def Intent.dispatched? : Intent → Option Identifier
  | .dispatch command => some command.executionId
  | .cancel .. => none

/-- The executions that have been queued. -/
def dispatchedIds (intents : List Intent) : List Identifier :=
  intents.filterMap Intent.dispatched?

/-- The executions for which the outbox holds an intent to dispatch them. -/
def ManagedGraph.dispatches {Digest : Type} (managed : ManagedGraph Digest) : List Identifier :=
  dispatchedIds (managed.outbox.map QueuedIntent.intent)

/-- The tasks of a Run and the executions that have been queued for them. -/
structure TasksQueued (run : RunSnapshot) (queued : List Identifier) : Prop where
  single : ∀ task ∈ run.tasks, ∃ attempt, task.attempts = [attempt] ∧
    (attempt.state = .planned ↔ attempt.dispatched = false)
  registered : ∃ executions, run.Registered executions
  listed : ∀ task ∈ run.tasks, ∀ attempt ∈ task.attempts, attempt.dispatched = true →
    attempt.command.executionId ∈ queued ∧
      ∀ dependency ∈ task.dependencies, Accepted run.tasks dependency
  known : ∀ executionId ∈ queued, ∃ task ∈ run.tasks, ∃ attempt ∈ task.attempts,
    attempt.dispatched = true ∧ attempt.command.executionId = executionId
  once : queued.Nodup

/-- A task without dependencies has left its plan. -/
def Rooted (run : RunSnapshot) : Prop :=
  ∀ taskId task, run.tasks.find? taskId = some task → task.dependencies = [] →
    ¬ Planned run taskId

/-- The dependencies of a task and whether it was accepted. -/
def outline (run : RunSnapshot) (taskId : Identifier) : Option (List Identifier × Bool) :=
  (run.tasks.find? taskId).map fun task => (task.dependencies, task.accepted)

/-- Nothing is accepted and nothing becomes planned. -/
structure Steady (before after : RunSnapshot) : Prop where
  outline : ∀ taskId, outline after taskId = outline before taskId
  planned : ∀ taskId, Planned after taskId → Planned before taskId

variable {run : RunSnapshot}

theorem accepted_iff {taskId : Identifier} :
    Accepted run.tasks taskId ↔ (outline run taskId).any Prod.snd = true := by
  unfold Accepted outline
  rw [Option.any_map, Option.any_eq_true]

namespace Steady

theorem refl (run : RunSnapshot) : Steady run run := ⟨fun _ => rfl, fun _ => id⟩

theorem trans {first second third : RunSnapshot} (early : Steady first second)
    (late : Steady second third) : Steady first third :=
  ⟨fun taskId => (late.outline taskId).trans (early.outline taskId),
    fun taskId planned => early.planned taskId (late.planned taskId planned)⟩

variable {before : RunSnapshot} {taskId : Identifier}

section

variable {after : RunSnapshot} (steady : Steady before after)

include steady

theorem accepted : Accepted after.tasks taskId ↔ Accepted before.tasks taskId := by
  rw [accepted_iff, accepted_iff, steady.outline]

theorem found {later : RunTask} (stored : after.tasks.find? taskId = some later) :
    ∃ task, before.tasks.find? taskId = some task ∧ task.dependencies = later.dependencies := by
  have same := steady.outline taskId
  unfold Orchestrator.outline at same
  rw [stored, map_some] at same
  obtain ⟨task, old, equal⟩ := map_eq_some_iff.mp same.symm
  exact ⟨task, old, (Prod.mk.inj equal).1⟩

theorem ready (ready : Ready after taskId) : Ready before taskId := by
  obtain ⟨planned, task, stored, clear⟩ := ready
  obtain ⟨old, found, same⟩ := steady.found stored
  refine ⟨steady.planned taskId planned, old, found, fun dependency member => ?_⟩
  exact steady.accepted.mp (clear dependency (same ▸ member))

theorem rooted (rooted : Rooted before) : Rooted after := by
  intro taskId task stored root planned
  obtain ⟨old, found, same⟩ := steady.found stored
  exact rooted taskId old found (same.trans root) (steady.planned taskId planned)

end

end Steady

/-! ### Rewriting one task -/

variable {queued : List Identifier}

theorem TasksQueued.unique (sound : TasksQueued run queued) {left right : RunTask}
    (leftStored : left ∈ run.tasks) (rightStored : right ∈ run.tasks) {first second : RunAttempt}
    (leftMember : first ∈ left.attempts) (rightMember : second ∈ right.attempts)
    (same : first.command.executionId = second.command.executionId) : left = right := by
  obtain ⟨executions, registered⟩ := sound.registered
  have binds : ∀ {task : RunTask} {attempt : RunAttempt}, task ∈ run.tasks →
      attempt ∈ task.attempts → ∃ index, executions.Registers attempt.command.executionId run.runId
        task.taskId index := by
    intro task attempt stored member
    obtain ⟨index, bound, rfl⟩ := getElem_of_mem member
    refine ⟨index, registered task.taskId index _ ?_⟩
    rw [RunSnapshot.commandsOf_found (find?_key stored), List.getElem?_map,
      List.getElem?_eq_getElem bound]
    rfl
  obtain ⟨_, leftRow, leftFound, _, leftNamed, _⟩ := binds leftStored leftMember
  obtain ⟨_, rightRow, rightFound, _, rightNamed, _⟩ := binds rightStored rightMember
  rw [same, rightFound] at leftFound
  cases leftFound
  exact eq_of_key_eq leftStored rightStored (leftNamed.symm.trans rightNamed)

variable {task : RunTask}

variable {attempt : RunAttempt}

variable {old : RunAttempt} {stack : ℕ} {after : RunSnapshot} {before : RunSnapshot × List Intent}
  {Digest : Type} {managed : ManagedGraph Digest} {digest : ManagedRequest → Digest}

theorem TasksQueued.setTask {fresh : List Identifier} (sound : TasksQueued run queued)
    {before : RunTask} (stored : before ∈ run.tasks)
    (named : task.taskId = before.taskId) (same : task.dependencies = before.dependencies)
    (alone : before.attempts = [old]) (single : task.attempts = [attempt])
    (command : attempt.command = old.command)
    (plan : attempt.state = .planned ↔ attempt.dispatched = false)
    (grows : before.accepted = true → task.accepted = true)
    (queues : (attempt.dispatched = old.dispatched ∧ fresh = []) ∨
      (old.dispatched = false ∧ attempt.dispatched = true ∧
        fresh = [attempt.command.executionId] ∧
          ∀ dependency ∈ task.dependencies, Accepted run.tasks dependency)) :
    TasksQueued (run.setTask task) (queued ++ fresh) := by
  have found := find?_key stored
  have accepted : ∀ {name}, Accepted run.tasks name → Accepted (run.setTask task).tasks name := by
    rintro name ⟨other, there, decided⟩
    show ∃ later, (run.tasks.put task).find? name = some later ∧ _
    rw [find?_put]
    by_cases here : name = task.taskId
    · rw [if_pos here]
      rw [here, named, found] at there
      exact ⟨task, rfl, grows (Option.some.inj there ▸ decided)⟩
    · rw [if_neg here]
      exact ⟨other, there, decided⟩
  have members : ∀ {other}, other ∈ (run.setTask task).tasks →
      other = task ∨ (other ∈ run.tasks ∧ other.taskId ≠ task.taskId) := mem_put.mp
  have kept : ∀ {other}, other ∈ run.tasks → other = before ∨ other ∈ (run.setTask task).tasks := by
    intro other there
    by_cases here : other.taskId = task.taskId
    · exact .inl (eq_of_key_eq there stored (here.trans named))
    · exact .inr (mem_put.mpr (.inr ⟨there, here⟩))
  have written : task ∈ (run.setTask task).tasks := mem_put.mpr (.inl rfl)
  refine ⟨fun other there => ?_, ?_, fun other there value member dispatched => ?_,
    fun executionId listed => ?_, ?_⟩
  · rcases members there with rfl | ⟨old, _⟩
    · exact ⟨attempt, single, plan⟩
    · exact sound.single other old
  · obtain ⟨executions, registered⟩ := sound.registered
    refine ⟨executions, fun taskId index value listed => ?_⟩
    have commands : task.attempts.map (·.command) = before.attempts.map (·.command) := by
      rw [alone, single]
      exact congrArg (fun value => [value]) command
    rw [RunSnapshot.commandsOf_kept found named commands] at listed
    exact registered taskId index value listed
  · rcases members there with rfl | ⟨untouched, _⟩
    · rw [single, mem_singleton] at member
      subst member
      rcases queues with ⟨unchanged, rfl⟩ | ⟨_, _, rfl, clear⟩
      · have owned : old ∈ before.attempts := alone ▸ mem_cons_self
        obtain ⟨listed, clear⟩ := sound.listed before stored old owned (unchanged ▸ dispatched)
        refine ⟨mem_append_left _ (command ▸ listed), fun dependency needed => ?_⟩
        exact accepted (clear dependency (same ▸ needed))
      · exact ⟨mem_append_right _ mem_cons_self,
          fun dependency needed => accepted (clear dependency needed)⟩
    · obtain ⟨listed, clear⟩ := sound.listed other untouched value member dispatched
      exact ⟨mem_append_left _ listed, fun dependency needed => accepted (clear dependency needed)⟩
  · have own : attempt ∈ task.attempts := single ▸ mem_cons_self
    rcases mem_append.mp listed with early | late
    · obtain ⟨other, there, value, member, dispatched, equal⟩ := sound.known executionId early
      rcases kept there with rfl | untouched
      · rw [alone, mem_singleton] at member
        subst member
        refine ⟨task, written, attempt, own, ?_, command ▸ equal⟩
        rcases queues with ⟨unchanged, _⟩ | ⟨_, now, _⟩
        · exact unchanged.trans dispatched
        · exact now
      · exact ⟨other, untouched, value, member, dispatched, equal⟩
    · rcases queues with ⟨_, rfl⟩ | ⟨_, now, rfl, _⟩
      · cases late
      · exact ⟨task, written, attempt, own, now, (mem_singleton.mp late).symm⟩
  · rcases queues with ⟨_, rfl⟩ | ⟨before_, _, rfl, _⟩
    · rw [append_nil]
      exact sound.once
    · refine nodup_append.mpr ⟨sound.once, nodup_singleton _, ?_⟩
      intro early listed late member equal
      subst equal
      rw [mem_singleton] at member
      obtain ⟨other, there, value, owned, dispatched, same⟩ := sound.known early listed
      have first : old ∈ before.attempts := alone ▸ mem_cons_self
      have one := sound.unique there stored owned first (same.trans (member.trans (by rw [command])))
      subst one
      rw [alone, mem_singleton] at owned
      rw [owned, before_] at dispatched
      cases dispatched

theorem planned_iff (stored : task ∈ run.tasks) (single : task.attempts = [attempt]) :
    Planned run task.taskId ↔ attempt.state = .planned := by
  refine ⟨fun ⟨other, found, current, ends, planned⟩ => ?_, fun planned => ?_⟩
  · rw [find?_key stored] at found
    cases found
    rw [single, List.getLast?_singleton] at ends
    cases ends
    exact planned
  · exact ⟨task, find?_key stored, attempt, by rw [single, List.getLast?_singleton], planned⟩

theorem Steady.setTask {before : RunTask} (stored : before ∈ run.tasks)
    (named : task.taskId = before.taskId) (same : task.dependencies = before.dependencies)
    (decided : task.accepted = before.accepted)
    (alone : before.attempts = [old]) (single : task.attempts = [attempt])
    (plan : attempt.state = .planned → old.state = .planned) : Steady run (run.setTask task) := by
  have written : task ∈ (run.setTask task).tasks := mem_put.mpr (.inl rfl)
  refine ⟨fun taskId => ?_, fun taskId planned => ?_⟩
  · unfold Orchestrator.outline
    show ((run.tasks.put task).find? taskId).map _ = _
    rw [find?_put]
    by_cases here : taskId = task.taskId
    · rw [if_pos here, here, named, find?_key stored, map_some, map_some, same, decided]
    · rw [if_neg here]
  · by_cases here : taskId = task.taskId
    · subst here
      rw [named]
      exact (planned_iff stored alone).mpr (plan ((planned_iff written single).mp planned))
    · obtain ⟨other, found, current⟩ := planned
      refine ⟨other, ?_, current⟩
      have there : (run.tasks.put task).find? taskId = some other := found
      rw [find?_put, if_neg here] at there
      exact there

/-! ### Queueing one task -/

variable {taskId : Identifier} {intents : List Intent}

theorem dispatch_queues (sound : TasksQueued run queued)
    (passed : reduceOperation stack run (.dispatch taskId) = .ok (after, intents))
    (clear : Cleared run taskId) :
    TasksQueued after (queued ++ dispatchedIds intents) ∧ Steady run after ∧ ¬ Planned after taskId ∧
      intents ≠ [] := by
  unfold reduceOperation at passed
  simp only [passes_iff] at passed
  obtain ⟨_, passed⟩ := passed
  unfold dispatch at passed
  simp only [passes_iff] at passed
  obtain ⟨⟨task, current⟩, looked, planned, settled, _, answered⟩ := passed
  cases answered
  obtain ⟨found, _, ends⟩ := currentAttempt_found looked
  have stored := mem_of_find? found
  have here : task.taskId = taskId := key_of_find? found
  obtain ⟨attempt, single, plan⟩ := sound.single task stored
  rw [single, List.getLast?_singleton] at ends
  cases ends
  have idle : current.dispatched = false := plan.mp planned
  obtain ⟨other, there, free⟩ := clear
  rw [found] at there
  cases there
  have alone : (task.setCurrent { current with
      state := .pendingDispatch, dispatched := true
      dependencyAttempts := some settled }).attempts =
      [{ current with
        state := .pendingDispatch, dispatched := true, dependencyAttempts := some settled }] := by
    unfold RunTask.setCurrent
    rw [single]
    rfl
  have decided : (task.setCurrent { current with
      state := .pendingDispatch, dispatched := true
      dependencyAttempts := some settled }).accepted = task.accepted := by
    unfold RunTask.accepted
    rw [alone, single]
    rfl
  refine ⟨?_, ?_, ?_, cons_ne_nil _ _⟩
  · refine sound.setTask stored rfl rfl single alone rfl ?_ (fun held => decided.trans held) ?_
    · exact ⟨by rintro ⟨⟩, by rintro ⟨⟩⟩
    · exact .inr ⟨idle, rfl, rfl, free⟩
  · exact Steady.setTask stored rfl rfl decided single alone (by rintro ⟨⟩)
  · rw [← here]
    intro still
    have written : task.setCurrent { current with
        state := .pendingDispatch, dispatched := true
        dependencyAttempts := some settled } ∈ (run.setTask (task.setCurrent { current with
          state := .pendingDispatch, dispatched := true
          dependencyAttempts := some settled })).tasks :=
      mem_put.mpr (.inl rfl)
    have state := (planned_iff written alone).mp still
    cases state

variable {tasks : Table RunTask.taskId}

theorem dependenciesAccepted_iff {dependencies : List Identifier} {answer : Bool}
    (passed : dependenciesAccepted tasks dependencies = .ok answer) :
    answer = true ↔ ∀ dependency ∈ dependencies, Accepted tasks dependency := by
  induction dependencies with
  | nil =>
    cases passed
    simp
  | cons dependency rest hypothesis =>
    unfold dependenciesAccepted at passed
    simp only [bind_eq_ok, present_eq_ok] at passed
    obtain ⟨task, found, passed⟩ := passed
    split at passed
    · rename_i accepted
      rw [hypothesis passed, forall_mem_cons]
      exact (and_iff_right ⟨task, found, accepted⟩).symm
    · rename_i rejected
      cases passed
      refine iff_of_false Bool.false_ne_true fun all => rejected ?_
      obtain ⟨other, there, accepted⟩ := all dependency mem_cons_self
      rw [found] at there
      cases there
      exact accepted

/-- What the loop has come to after some tasks. -/
structure Queueing (run : RunSnapshot) (queued : List Identifier)
    (answer : RunSnapshot × List Intent) : Prop where
  sound : TasksQueued answer.1 (queued ++ dispatchedIds answer.2)
  steady : Steady run answer.1
  idle : answer.2 = [] → answer.1 = run

theorem dispatchedIds_append (left right : List Intent) :
    dispatchedIds (left ++ right) = dispatchedIds left ++ dispatchedIds right :=
  filterMap_append

theorem dispatchAcceptedTask_queues (rooted : Rooted run)
    {after : RunSnapshot × List Intent} (held : Queueing run queued before)
    (passed : dispatchAcceptedTask stack before taskId = .ok after) :
    Queueing run queued after ∧ Steady before.1 after.1 ∧ ¬ Ready after.1 taskId := by
  unfold dispatchAcceptedTask at passed
  simp only [bind_eq_ok] at passed
  obtain ⟨⟨task, current⟩, looked, passed⟩ := passed
  obtain ⟨found, _, ends⟩ := currentAttempt_found looked
  split at passed
  · rename_i skipped
    cases passed
    refine ⟨held, .refl _, fun ready => ?_⟩
    rcases skipped with queuedBefore | root
    · obtain ⟨⟨other, there, last, final, planned⟩, _⟩ := ready
      rw [found] at there
      cases there
      rw [ends] at final
      cases final
      exact queuedBefore planned
    · exact held.steady.rooted rooted taskId task found root ready.1
  · simp only [bind_eq_ok] at passed
    obtain ⟨eligible, decided, passed⟩ := passed
    have clear := dependenciesAccepted_iff decided
    split at passed
    · rename_i accepted
      simp only [bind_eq_ok] at passed
      obtain ⟨⟨next, intents⟩, reduced, answered⟩ := passed
      cases answered
      obtain ⟨sound, steady, gone, some⟩ :=
        dispatch_queues held.sound reduced ⟨task, found, clear.mp accepted⟩
      refine ⟨⟨?_, held.steady.trans steady, fun none => ?_⟩, steady, fun ready => gone ready.1⟩
      · rw [dispatchedIds_append, ← append_assoc]
        exact sound
      · exact absurd (append_eq_nil_iff.mp none).2 some
    · rename_i rejected
      cases passed
      refine ⟨held, .refl _, fun ⟨_, other, there, free⟩ => rejected (clear.mpr ?_)⟩
      rw [found] at there
      cases there
      exact free

variable {answer : RunSnapshot × List Intent}

theorem dispatchAcceptedTasks_queues (sound : TasksQueued run queued)
    (rooted : Rooted run) (passed : dispatchAcceptedTasks stack run = .ok answer) :
    Queueing run queued answer ∧ ∀ taskId, ¬ Ready answer.1 taskId := by
  have loop : ∀ (names : List Identifier) (before : RunSnapshot × List Intent),
      Queueing run queued before → names.foldlM (dispatchAcceptedTask stack) before = .ok answer →
        Queueing run queued answer ∧ Steady before.1 answer.1 ∧
          ∀ name ∈ names, ¬ Ready answer.1 name := by
    intro names
    induction names with
    | nil =>
      intro before held passed
      cases passed
      exact ⟨held, .refl _, fun _ member => absurd member not_mem_nil⟩
    | cons name rest hypothesis =>
      intro before held passed
      rw [foldlM_cons] at passed
      obtain ⟨middle, first, others⟩ := bind_eq_ok.mp passed
      obtain ⟨between, step, none⟩ := dispatchAcceptedTask_queues rooted held first
      obtain ⟨final, steady, cleared⟩ := hypothesis middle between others
      refine ⟨final, step.trans steady, fun other member ready => ?_⟩
      rcases mem_cons.mp member with rfl | later
      · exact none (steady.ready ready)
      · exact cleared other later ready
  have start : Queueing run queued (run, []) :=
    ⟨by rw [show dispatchedIds [] = [] from rfl, append_nil]; exact sound, .refl run, fun _ => rfl⟩
  obtain ⟨final, steady, cleared⟩ := loop _ _ start passed
  refine ⟨final, fun taskId ready => ?_⟩
  obtain ⟨_, task, found, _⟩ := steady.ready ready
  exact cleared taskId (key_of_find? found ▸ mem_map_of_mem (mem_of_find? found)) ready

theorem TasksQueued.of_tasks (sound : TasksQueued run queued)
    (tasks : after.tasks = run.tasks) (named : after.runId = run.runId) :
    TasksQueued after queued := by
  have commands : ∀ name, after.commandsOf name = run.commandsOf name := by
    intro name
    unfold RunSnapshot.commandsOf
    rw [tasks]
  obtain ⟨single, ⟨executions, registered⟩, listed, known, once⟩ := sound
  refine ⟨?_, ⟨executions, fun taskId index value there => ?_⟩, ?_, ?_, once⟩
  · rw [tasks]
    exact single
  · rw [named]
    exact registered taskId index value (commands taskId ▸ there)
  · rw [tasks]
    exact listed
  · rw [tasks]
    exact known

theorem Steady.of_tasks (tasks : after.tasks = run.tasks) : Steady run after := by
  refine ⟨fun taskId => ?_, fun taskId planned => ?_⟩
  · unfold Orchestrator.outline
    rw [tasks]
  · unfold Planned at planned ⊢
    rw [← tasks]
    exact planned

/-! ### Registering -/

theorem checkDependencies_length {texts : List String} {names : List Identifier}
    (checked : checkDependencies stack tasks taskId (.array (texts.map .string)) = .ok names) :
    names.length = texts.length := by
  unfold checkDependencies at checked
  simp only [passes_iff] at checked
  obtain ⟨values, read, _, found, named, cycle, _, _, answered⟩ := checked
  cases answered
  unfold dependencyTexts at read
  have first := (Checked.mapM_eq_some.mp read).length_eq
  have second := (Checked.mapM_eq_some.mp named).length_eq
  rw [length_map] at first
  exact second.symm.trans first.symm

/-- A Run that is being registered: every task is planned. -/
structure Registering (done : List ManagedTask) (run : RunSnapshot)
    (registrations : List (Identifier × ℕ × RunAttempt)) : Prop where
  planned : ∀ task ∈ run.tasks, ∃ attempt, task.attempts = [attempt] ∧ attempt.state = .planned ∧
    attempt.dispatched = false ∧ (task.taskId, 0, attempt) ∈ registrations
  roots : ∀ task ∈ run.tasks, task.dependencies = [] → ∃ item ∈ done,
    item.taskId = task.taskId ∧ item.dependencies = []
  added : ∀ item ∈ done, item.dependencies = [] →
    ∃ task, run.tasks.find? item.taskId = some task ∧ task.dependencies = []

variable {done : List ManagedTask}

variable {item : ManagedTask}

theorem addManagedTask_registers {before after : RunSnapshot × List (Identifier × ℕ × RunAttempt)}
    (held : Registering done before.1 before.2)
    (passed : addManagedTask stack before item = .ok after) :
    Registering (done ++ [item]) after.1 after.2 := by
  unfold addManagedTask at passed
  simp only [bind_eq_ok, present_eq_ok] at passed
  obtain ⟨⟨run, intents⟩, reduced, task, found, first, begun, answered⟩ := passed
  cases answered
  unfold reduceOperation at reduced
  simp only [passes_iff] at reduced
  obtain ⟨_, reduced⟩ := reduced
  unfold addTask at reduced
  simp only [passes_iff] at reduced
  obtain ⟨absent, names, checked, answered⟩ := reduced
  cases answered
  have same := (find?_put_same before.1.tasks
    (⟨item.taskId, names, [attempt item.command], none⟩ : RunTask)).symm.trans found
  cases same
  cases begun
  have counted := checkDependencies_length checked
  refine ⟨fun other there => ?_, fun other there root => ?_, fun other member root => ?_⟩
  · rcases mem_put.mp there with rfl | ⟨old, _⟩
    · exact ⟨_, rfl, rfl, rfl, mem_append_right _ mem_cons_self⟩
    · obtain ⟨value, single, planned, idle, entered⟩ := held.planned other old
      exact ⟨value, single, planned, idle, mem_append_left _ entered⟩
  · rcases mem_put.mp there with rfl | ⟨old, _⟩
    · have none : names.length = 0 := length_eq_zero_iff.mpr root
      rw [counted] at none
      exact ⟨item, mem_append_right _ mem_cons_self, rfl, length_eq_zero_iff.mp none⟩
    · obtain ⟨source, member, facts⟩ := held.roots other old root
      exact ⟨source, mem_append_left _ member, facts⟩
  · show ∃ later, (before.1.tasks.put _).find? other.taskId = some later ∧ _
    rcases mem_append.mp member with early | late
    · obtain ⟨old, there, none⟩ := held.added other early root
      refine ⟨old, ?_, none⟩
      rw [find?_put_other]
      · exact there
      · rintro here
        rw [here, isNone_iff_eq_none.mp absent] at there
        cases there
    · rw [mem_singleton] at late
      subst late
      rw [root] at counted
      exact ⟨_, find?_put_same _ _, length_eq_zero_iff.mp counted⟩

variable {registrations : List (Identifier × ℕ × RunAttempt)}

theorem Registering.queues (held : Registering done run registrations) {before after : Executions}
    (registered : registerExecutions run before registrations = .ok after) :
    TasksQueued run [] := by
  refine ⟨fun task stored => ?_, ⟨after, fun taskId index command listed => ?_⟩,
    fun task stored value member dispatched => ?_, fun _ member => absurd member not_mem_nil,
    nodup_nil⟩
  · obtain ⟨attempt, single, planned, idle, _⟩ := held.planned task stored
    exact ⟨attempt, single, iff_of_true planned idle⟩
  · unfold RunSnapshot.commandsOf at listed
    cases found : run.tasks.find? taskId with
    | none =>
      rw [found] at listed
      cases listed
    | some task =>
      obtain ⟨attempt, single, _, _, entered⟩ := held.planned task (mem_of_find? found)
      rw [found] at listed
      simp only [Option.elim, single, map_cons, map_nil] at listed
      obtain ⟨bound, rfl⟩ := List.getElem?_eq_some_iff.mp listed
      have zero : index = 0 := Nat.lt_one_iff.mp bound
      subst zero
      have binds := (registerExecutions_registers registered).2 _ entered
      rw [← key_of_find? found]
      exact binds
  · obtain ⟨attempt, single, _, idle, _⟩ := held.planned task stored
    rw [single, mem_singleton] at member
    rw [member, idle] at dispatched
    cases dispatched

theorem dispatchRoot_queues {after : RunSnapshot × List Intent}
    (roots : item.dependencies = [] → ∃ task, run.tasks.find? item.taskId = some task ∧
      task.dependencies = []) (held : Queueing run [] before)
    (passed : dispatchRoot stack before item = .ok after) :
    Queueing run [] after ∧ Steady before.1 after.1 ∧
      (item.dependencies = [] → ¬ Planned after.1 item.taskId) := by
  unfold dispatchRoot at passed
  split at passed
  · rename_i root
    simp only [bind_eq_ok] at passed
    obtain ⟨⟨next, intents⟩, reduced, answered⟩ := passed
    cases answered
    have clear : Cleared before.1 item.taskId := by
      obtain ⟨task, found, none⟩ := roots root
      have same := held.steady.outline item.taskId
      unfold outline at same
      rw [found, map_some] at same
      obtain ⟨later, there, equal⟩ := map_eq_some_iff.mp same
      have empty : later.dependencies = [] := (Prod.mk.inj equal).1.trans none
      exact ⟨later, there, fun dependency member => absurd (empty ▸ member) not_mem_nil⟩
    obtain ⟨sound, steady, gone, some⟩ := dispatch_queues held.sound reduced clear
    refine ⟨⟨?_, held.steady.trans steady, fun none => ?_⟩, steady, fun _ => gone⟩
    · rw [dispatchedIds_append, ← append_assoc]
      exact sound
    · exact absurd (append_eq_nil_iff.mp none).2 some
  · rename_i other
    cases passed
    exact ⟨held, .refl _, fun root => absurd root other⟩

variable {commands : List ManagedTask}

theorem addManagedTasks_register {first : RunSnapshot} (empty : first.tasks.rows = [])
    {answer : RunSnapshot × List (Identifier × ℕ × RunAttempt)}
    (passed : commands.foldlM (addManagedTask stack) (first, []) = .ok answer) :
    Registering commands answer.1 answer.2 := by
  have loop : ∀ (rest done : List ManagedTask) before, Registering done before.1 before.2 →
      rest.foldlM (addManagedTask stack) before = .ok answer →
        Registering (done ++ rest) answer.1 answer.2 := by
    intro rest
    induction rest with
    | nil =>
      intro done before held passed
      cases passed
      rw [append_nil]
      exact held
    | cons item rest hypothesis =>
      intro done before held passed
      rw [foldlM_cons] at passed
      obtain ⟨middle, one, others⟩ := bind_eq_ok.mp passed
      have next := hypothesis _ middle (addManagedTask_registers held one) others
      rw [append_assoc] at next
      exact next
  refine loop commands [] (first, []) ⟨fun task stored => ?_, fun task stored => ?_, ?_⟩ passed
  · exact absurd (empty ▸ mem_rows.mp stored) not_mem_nil
  · exact absurd (empty ▸ mem_rows.mp stored) not_mem_nil
  · exact fun _ member => absurd member not_mem_nil

theorem dispatchRoots_queue (held : Registering commands run registrations)
    (sound : TasksQueued run [])
    (passed : commands.foldlM (dispatchRoot stack) (run, []) = .ok answer) :
    Queueing run [] answer ∧ Rooted answer.1 := by
  have loop : ∀ (rest : List ManagedTask) (before : RunSnapshot × List Intent),
      (∀ item ∈ rest, item ∈ commands) → Queueing run [] before →
        rest.foldlM (dispatchRoot stack) before = .ok answer →
          Queueing run [] answer ∧ Steady before.1 answer.1 ∧
            ∀ item ∈ rest, item.dependencies = [] → ¬ Planned answer.1 item.taskId := by
    intro rest
    induction rest with
    | nil =>
      intro before _ queueing passed
      cases passed
      exact ⟨queueing, .refl _, fun _ member => absurd member not_mem_nil⟩
    | cons item rest hypothesis =>
      intro before listed queueing passed
      rw [foldlM_cons] at passed
      obtain ⟨middle, one, others⟩ := bind_eq_ok.mp passed
      obtain ⟨between, step, gone⟩ :=
        dispatchRoot_queues (held.added item (listed item mem_cons_self)) queueing one
      obtain ⟨final, steady, cleared⟩ := hypothesis middle
        (fun other later => listed other (mem_cons_of_mem _ later)) between others
      refine ⟨final, step.trans steady, fun other member root planned => ?_⟩
      rcases mem_cons.mp member with rfl | later
      · exact gone root (steady.planned _ planned)
      · exact cleared other later root planned
  obtain ⟨final, steady, cleared⟩ :=
    loop commands (run, []) (fun _ => id) ⟨sound, .refl run, fun _ => rfl⟩ passed
  refine ⟨final, fun taskId task found root planned => ?_⟩
  obtain ⟨old, there, same⟩ := steady.found found
  obtain ⟨item, member, named, none⟩ := held.roots old (mem_of_find? there) (same.trans root)
  rw [← key_of_find? there, ← named] at planned
  exact cleared item member none planned

/-! ### Every call -/

/-- What holds of a managed Run at any time. -/
structure ManagedGraph.Sound {Digest : Type} (managed : ManagedGraph Digest) : Prop where
  queues : TasksQueued managed.run managed.dispatches
  rooted : Rooted managed.run

/-- Nothing is left to queue while the Run is active. -/
def ManagedGraph.Acted {Digest : Type} (managed : ManagedGraph Digest) : Prop :=
  managed.control.state = .active → ∀ taskId, ¬ Ready managed.run taskId

theorem queuedIntents_intents (commandId : String) (generation : ℕ) (intents : List Intent) :
    (queuedIntents commandId generation intents).map QueuedIntent.intent = intents := by
  unfold queuedIntents
  rw [List.map_map]
  exact zipIdx_map_fst 0 intents

theorem dispatches_append {commandId : String} {generation : ℕ} :
    dispatchedIds ((managed.outbox ++ queuedIntents commandId generation intents).map
      QueuedIntent.intent) = managed.dispatches ++ dispatchedIds intents := by
  rw [map_append, queuedIntents_intents, dispatchedIds_append]
  rfl

theorem dispatchedIds_cancels (commands : List ExecutionCommand) (reason : Identifier) :
    dispatchedIds (commands.map fun command => .cancel command reason) = [] := by
  unfold dispatchedIds
  rw [filterMap_map]
  exact filterMap_eq_nil_iff.mpr fun _ _ => rfl

theorem registerManagedRun_sound {executions after : Executions} {spec : ManagedSpec}
    (passed : registerManagedRun stack executions spec = .ok (managed, after)) :
    managed.Sound ∧ managed.Acted := by
  unfold registerManagedRun at passed
  simp only [passes_iff] at passed
  obtain ⟨_, _, _, commands, _, ⟨run, registrations⟩, added, registered, bound, ⟨last, intents⟩,
    dispatched, answered⟩ := passed
  cases answered
  have held := addManagedTasks_register rfl added
  obtain ⟨queueing, rooted⟩ := dispatchRoots_queue held (held.queues bound) dispatched
  refine ⟨⟨?_, rooted⟩, by rintro ⟨⟩⟩
  show TasksQueued last (dispatchedIds ((queuedIntents _ _ intents).map QueuedIntent.intent))
  rw [queuedIntents_intents]
  exact queueing.sound

namespace ManagedGraph

variable {after : ManagedGraph Digest}

theorem Sound.of_tasks (sound : managed.Sound) (tasks : after.run.tasks = managed.run.tasks)
    (named : after.run.runId = managed.run.runId)
    (outbox : dispatchedIds (after.outbox.map QueuedIntent.intent) = managed.dispatches) :
    after.Sound :=
  ⟨(show after.dispatches = managed.dispatches from outbox).symm ▸
      sound.queues.of_tasks tasks named, (Steady.of_tasks tasks).rooted sound.rooted⟩

theorem Acted.of_tasks (acted : managed.Acted) (tasks : after.run.tasks = managed.run.tasks)
    (control : after.control.state = managed.control.state) : after.Acted :=
  fun active taskId ready =>
    acted (control ▸ active) taskId ((Steady.of_tasks tasks).ready ready)

theorem Sound.decide (sound : managed.Sound) (stored : task ∈ managed.run.tasks)
    (undecided : task.managedAcceptance = none) (decision : ManagedAcceptance) :
    TasksQueued (managed.run.setTask { task with managedAcceptance := some decision })
        managed.dispatches ∧
      Rooted (managed.run.setTask { task with managedAcceptance := some decision }) ∧
      (decision.accepted = false →
        Steady managed.run (managed.run.setTask { task with managedAcceptance := some decision })) := by
  obtain ⟨attempt, single, plan⟩ := sound.queues.single task stored
  have before : task.accepted = false := by
    unfold RunTask.accepted
    rw [undecided]
    rfl
  refine ⟨?_, fun taskId other found root planned => ?_, fun rejected => ?_⟩
  · have kept : TasksQueued (managed.run.setTask { task with managedAcceptance := some decision })
        (managed.dispatches ++ []) := by
      refine sound.queues.setTask stored rfl rfl single single rfl plan (fun held => ?_)
        (.inl ⟨rfl, rfl⟩)
      rw [before] at held
      cases held
    rw [append_nil] at kept
    exact kept
  · have there : (managed.run.tasks.put _).find? taskId = some other := found
    rw [find?_put] at there
    split at there
    · rename_i here
      cases there
      rw [here] at planned
      have written : ({ task with managedAcceptance := some decision } : RunTask) ∈
          (managed.run.setTask { task with managedAcceptance := some decision }).tasks :=
        mem_put.mpr (.inl rfl)
      have state := (planned_iff written single).mp planned
      exact sound.rooted task.taskId task (find?_key stored) root
        ((planned_iff stored single).mpr state)
    · rename_i away
      obtain ⟨same, stillFound, current⟩ := planned
      have unchanged : (managed.run.tasks.put _).find? taskId = some same := stillFound
      rw [find?_put, if_neg away] at unchanged
      exact sound.rooted taskId other there root ⟨same, unchanged, current⟩
  · refine Steady.setTask stored rfl rfl ?_ single single id
    rw [before]
    unfold RunTask.accepted
    show (decision.accepted && _) = false
    rw [rejected]
    rfl

variable {snapshot : ExecutionSnapshot}

theorem observe_plan {current : RunAttempt}
    (observed : attempt.observe snapshot = .ok (some current)) :
    attempt.dispatched = true ∧ current.dispatched = true ∧ current.command = attempt.command ∧
      current.state ≠ .planned := by
  unfold RunAttempt.observe at observed
  simp only [passes_iff] at observed
  obtain ⟨dispatched, observed⟩ := observed
  split at observed
  · cases observed
  · split at observed
    · simp only [passes_iff] at observed
      obtain ⟨_, answered⟩ := observed
      cases answered
    · simp only [passes_iff] at observed
      obtain ⟨_, answered⟩ := observed
      cases answered
      exact ⟨dispatched, dispatched, rfl, by rintro ⟨⟩⟩

theorem syncExecution_sound {index : ℕ} (sound : managed.Sound)
    (passed : managed.syncExecution taskId index snapshot = .ok after) :
    after.Sound ∧ (managed.Acted → after.Acted) := by
  unfold syncExecution at passed
  simp only [bind_eq_ok] at passed
  obtain ⟨run, synced, answered⟩ := passed
  cases answered
  unfold RunSnapshot.syncExecution at synced
  simp only [bind_eq_ok, present_eq_ok] at synced
  obtain ⟨task, found, before, indexed, observed, outcome, synced⟩ := synced
  cases observed with
  | none =>
    cases synced
    exact ⟨sound, id⟩
  | some current =>
    cases synced
    have stored := mem_of_find? found
    obtain ⟨attempt, single, plan⟩ := sound.queues.single task stored
    rw [single] at indexed
    obtain ⟨bound, same⟩ := List.getElem?_eq_some_iff.mp indexed
    have zero : index = 0 := Nat.lt_one_iff.mp bound
    subst zero
    have equal : attempt = before := same
    subst equal
    obtain ⟨dispatched, still, command, left⟩ := observe_plan outcome
    have alone : task.attempts.set 0 current = [current] := by
      rw [single]
      rfl
    have decided : ({ task with attempts := task.attempts.set 0 current } : RunTask).accepted =
        task.accepted := by
      unfold RunTask.accepted
      show task.managedAcceptance.any (fun decision => decision.accepted &&
        Decidable.decide (decision.attempt = (task.attempts.set 0 current).length - 1)) = _
      rw [length_set]
    have steady : Steady managed.run
        (managed.run.setTask { task with attempts := task.attempts.set 0 current }) :=
      Steady.setTask stored rfl rfl decided single alone fun planned => absurd planned left
    have kept : TasksQueued
        (managed.run.setTask { task with attempts := task.attempts.set 0 current })
        (managed.dispatches ++ []) := by
      refine sound.queues.setTask stored rfl rfl single alone command (iff_of_false left ?_)
        (fun held => decided.trans held) (.inl ⟨still.trans dispatched.symm, rfl⟩)
      rw [still]
      exact Bool.false_ne_true.symm
    rw [append_nil] at kept
    refine ⟨⟨kept.of_tasks rfl rfl, ?_⟩, fun acted active taskId ready => ?_⟩
    · exact (steady.trans (Steady.of_tasks rfl)).rooted sound.rooted
    · exact acted active taskId ((steady.trans (Steady.of_tasks rfl)).ready ready)

variable [DecidableEq Digest]

theorem recordManagedAcceptance_sound {requestId : Identifier} {expectedRevision : ℕ}
    {accepted : Bool} {evidence : List (String × Json)} (sound : managed.Sound)
    (passed : managed.recordManagedAcceptance digest stack taskId requestId expectedRevision accepted
      evidence = .ok after) : after.Sound ∧ (managed.Acted → after.Acted) := by
  unfold recordManagedAcceptance at passed
  simp only [passes_iff] at passed
  obtain ⟨_, known, _, passed⟩ := passed
  split at passed
  · cases passed
    exact ⟨sound, id⟩
  · simp only [passes_iff] at passed
    obtain ⟨_, task, found, current, _, _, undecided, ⟨run, intents⟩, queued, answered⟩ := passed
    cases answered
    have stored := mem_of_find? found
    have none := isNone_iff_eq_none.mp undecided
    unfold actOnDecision at queued
    split at queued
    · rename_i acting
      obtain ⟨queues, rooted, _⟩ := sound.decide stored none _
      obtain ⟨queueing, cleared⟩ := dispatchAcceptedTasks_queues queues rooted queued
      refine ⟨⟨?_, ?_⟩, fun _ _ taskId ready => ?_⟩
      · unfold dispatches
        rw [dispatches_append]
        exact queueing.sound.of_tasks rfl rfl
      · exact (queueing.steady.trans (Steady.of_tasks rfl)).rooted rooted
      · exact cleared taskId ((Steady.of_tasks rfl).ready ready)
    · rename_i waiting
      cases queued
      obtain ⟨queues, rooted, steady⟩ := sound.decide stored none _
      refine ⟨⟨?_, ?_⟩, fun acted active taskId ready => ?_⟩
      · unfold dispatches
        rw [dispatches_append, show dispatchedIds [] = [] from rfl, append_nil]
        exact queues.of_tasks rfl rfl
      · exact (Steady.of_tasks rfl).rooted rooted
      · have rejected : accepted = false := by
          by_contra wanted
          exact waiting ⟨Bool.eq_true_of_not_eq_false wanted, active⟩
        exact acted active taskId (((steady rejected).trans (Steady.of_tasks rfl)).ready ready)

variable {requestId : Identifier} {expectedRevision expectedEpoch : ℕ}

theorem requestPause_sound {mode : PauseMode} {drain : List Identifier} (sound : managed.Sound)
    (passed : managed.requestPause digest requestId expectedRevision expectedEpoch mode drain =
      .ok after) : after.Sound ∧ (managed.Acted → after.Acted) := by
  unfold requestPause at passed
  simp only [passes_iff] at passed
  obtain ⟨_, _, known, _, passed⟩ := passed
  split at passed
  · cases passed
    exact ⟨sound, id⟩
  · simp only [passes_iff] at passed
    obtain ⟨_, _, _, _, answered⟩ := passed
    cases answered
    refine ⟨sound.of_tasks rfl rfl ?_, fun _ => by rintro ⟨⟩⟩
    rw [dispatches_append, dispatchedIds_cancels, append_nil]

theorem requestResume_sound (sound : managed.Sound)
    (passed : managed.requestResume digest stack requestId expectedRevision expectedEpoch =
      .ok after) : after.Sound ∧ (managed.Acted → after.Acted) := by
  unfold requestResume at passed
  simp only [bind_eq_ok] at passed
  obtain ⟨known, _, passed⟩ := passed
  split at passed
  · cases passed
    exact ⟨sound, id⟩
  · simp only [passes_iff] at passed
    obtain ⟨_, _, _, ⟨run, intents⟩, queued, answered⟩ := passed
    obtain ⟨queueing, cleared⟩ := dispatchAcceptedTasks_queues sound.queues sound.rooted queued
    have tasks : (if intents.isEmpty = true then managed.run
        else { run with revision := run.revision + 1 }).tasks = run.tasks := by
      split
      · rename_i none
        rw [← queueing.idle (isEmpty_iff.mp none)]
      · rfl
    have named : (if intents.isEmpty = true then managed.run
        else { run with revision := run.revision + 1 }).runId = run.runId := by
      split
      · rename_i none
        rw [← queueing.idle (isEmpty_iff.mp none)]
      · rfl
    cases answered
    refine ⟨⟨?_, ?_⟩, fun _ _ taskId ready => ?_⟩
    · unfold dispatches
      rw [dispatches_append]
      exact queueing.sound.of_tasks tasks named
    · exact (queueing.steady.trans (Steady.of_tasks tasks)).rooted sound.rooted
    · exact cleared taskId ((Steady.of_tasks tasks).ready ready)

end ManagedGraph

/-- A call keeps the Run sound, and unless it is a resume across two stores it leaves nothing to
queue in an active Run. -/
theorem ManagedCall.sound [DecidableEq Digest]
    {after : ManagedGraph Digest} {call : ManagedCall} (sound : managed.Sound)
    (passed : ManagedCall.run digest stack managed call = .ok after) :
    after.Sound ∧ ((∀ operationId, call = .crossStoreResume operationId →
      ∀ taskId, ¬ Ready managed.run taskId) → managed.Acted → after.Acted) := by
  cases call with
  | accept taskId requestId expectedRevision accepted evidence =>
    exact (ManagedGraph.recordManagedAcceptance_sound sound passed).imp id fun kept _ => kept
  | sync taskId index snapshot =>
    exact (ManagedGraph.syncExecution_sound sound passed).imp id fun kept _ => kept
  | pause requestId expectedRevision expectedEpoch mode drain =>
    exact (ManagedGraph.requestPause_sound sound passed).imp id fun kept _ => kept
  | resume requestId expectedRevision expectedEpoch =>
    exact (ManagedGraph.requestResume_sound sound passed).imp id fun kept _ => kept
  | settle expectedEpoch =>
    simp only [ManagedCall.run, ManagedGraph.settleManagedPause] at passed
    split at passed
    · cases passed
      exact ⟨sound, fun _ => id⟩
    · simp only [passes_iff] at passed
      obtain ⟨_, _, answered⟩ := passed
      cases answered
      exact ⟨sound.of_tasks rfl rfl rfl, fun _ _ => by rintro ⟨⟩⟩
  | crossStorePause operationId expectedRevision expectedEpoch =>
    simp only [ManagedCall.run, ManagedGraph.beginCrossStorePause, bind_eq_ok, check_eq_ok,
      exists_const] at passed
    obtain ⟨_, _, _, _, answered⟩ := passed
    cases answered
    exact ⟨sound.of_tasks rfl rfl rfl, fun _ _ => by rintro ⟨⟩⟩
  | prepare operationId =>
    simp only [ManagedCall.run, ManagedGraph.prepareCrossStorePause, bind_eq_ok, check_eq_ok,
      present_eq_ok, exists_const] at passed
    obtain ⟨operation, _, _, answered⟩ := passed
    cases answered
    exact ⟨sound.of_tasks rfl rfl rfl, fun _ acted => acted.of_tasks rfl rfl⟩
  | finalize operationId =>
    simp only [ManagedCall.run, ManagedGraph.finalizeCrossStorePause, bind_eq_ok,
      check_eq_ok, present_eq_ok, exists_const] at passed
    obtain ⟨operation, _, _, passed⟩ := passed
    split at passed
    · cases passed
      exact ⟨sound, fun _ => id⟩
    · simp only [passes_iff] at passed
      obtain ⟨_, answered⟩ := passed
      cases answered
      exact ⟨sound.of_tasks rfl rfl rfl, fun _ _ => by rintro ⟨⟩⟩
  | commitRevision operationId expectedRevision expectedEpoch expectedGeneration target =>
    simp only [ManagedCall.run, ManagedGraph.commitCrossStoreRevision, bind_eq_ok,
      check_eq_ok, present_eq_ok, exists_const] at passed
    obtain ⟨operation, _, _, _, _, answered⟩ := passed
    cases answered
    exact ⟨sound.of_tasks rfl rfl rfl, fun _ acted => acted.of_tasks rfl rfl⟩
  | installProjection operationId =>
    simp only [ManagedCall.run, ManagedGraph.installCrossStoreProjection, bind_eq_ok,
      present_eq_ok] at passed
    obtain ⟨decision, _, passed⟩ := passed
    split at passed
    · cases passed
      exact ⟨sound, fun _ => id⟩
    · simp only [passes_iff] at passed
      obtain ⟨_, answered⟩ := passed
      cases answered
      exact ⟨sound.of_tasks rfl rfl rfl, fun _ _ => by rintro ⟨⟩⟩
  | crossStoreResume operationId =>
    simp only [ManagedCall.run, ManagedGraph.resumeCrossStoreRevision, bind_eq_ok,
      check_eq_ok, present_eq_ok, exists_const] at passed
    obtain ⟨decision, _, _, _, answered⟩ := passed
    cases answered
    exact ⟨sound.of_tasks rfl rfl rfl, fun none _ _ => none operationId rfl⟩

/-! ### Every order of calls -/

/-- Nothing is queued too early or twice. -/
structure ManagedGraph.InOrder {Digest : Type} (managed : ManagedGraph Digest) : Prop where
  ordered : ∀ executionId ∈ managed.dispatches, ∃ task ∈ managed.run.tasks,
    (∃ attempt ∈ task.attempts, attempt.command.executionId = executionId) ∧
      ∀ dependency ∈ task.dependencies, Accepted managed.run.tasks dependency
  once : managed.dispatches.Nodup

/-- Besides, an active Run has queued every planned task whose dependencies are all accepted. -/
structure ManagedGraph.Advanced {Digest : Type} (managed : ManagedGraph Digest) : Prop
    extends managed.InOrder where
  acted : managed.control.state = .active → ∀ task ∈ managed.run.tasks, ∀ current,
    task.attempts.getLast? = some current → current.state = .planned →
    (∀ dependency ∈ task.dependencies, Accepted managed.run.tasks dependency) →
    current.command.executionId ∈ managed.dispatches

namespace ManagedGraph

theorem Sound.inOrder (sound : managed.Sound) : managed.InOrder := by
  refine ⟨fun executionId queued => ?_, sound.queues.once⟩
  obtain ⟨task, stored, attempt, member, dispatched, same⟩ := sound.queues.known executionId queued
  exact ⟨task, stored, ⟨attempt, member, same⟩,
    (sound.queues.listed task stored attempt member dispatched).2⟩

theorem Sound.unqueued (sound : managed.Sound) (stored : task ∈ managed.run.tasks)
    {current : RunAttempt} (last : task.attempts.getLast? = some current)
    (planned : current.state = .planned) : current.command.executionId ∉ managed.dispatches := by
  intro queued
  obtain ⟨attempt, single, plan⟩ := sound.queues.single task stored
  rw [single, List.getLast?_singleton] at last
  cases last
  have idle : current.dispatched = false := plan.mp planned
  have member : current ∈ task.attempts := single ▸ mem_cons_self
  obtain ⟨other, there, value, owned, dispatched, same⟩ := sound.queues.known _ queued
  have one := sound.queues.unique there stored owned member same
  subst one
  rw [single, mem_singleton] at owned
  rw [owned, idle] at dispatched
  cases dispatched

theorem Sound.advanced_iff (sound : managed.Sound) : managed.Advanced ↔ managed.Acted := by
  refine ⟨fun advanced active taskId ready => ?_, fun acted => ⟨sound.inOrder, ?_⟩⟩
  · obtain ⟨⟨task, found, current, last, planned⟩, other, there, clear⟩ := ready
    rw [found] at there
    cases there
    have stored := mem_of_find? found
    exact sound.unqueued stored last planned
      (advanced.acted active task stored current last planned clear)
  · intro active task stored current last planned clear
    have found := find?_key stored
    exact absurd ⟨⟨task, found, current, last, planned⟩, task, found, clear⟩
      (acted active task.taskId)

end ManagedGraph

/-- A managed Run in which the resume across two stores always finds nothing left to queue. -/
def attentiveRuns {Digest : Type} [DecidableEq Digest] (digest : ManagedRequest → Digest) :
    TransitionSystem (ManagedGraph Digest) where
  initial := (managedRuns digest).initial
  step managed after := ∃ stack call, ManagedCall.run digest stack managed call = .ok after ∧
    ∀ operationId, call = .crossStoreResume operationId → ∀ taskId, ¬ Ready managed.run taskId

section

variable [DecidableEq Digest]

theorem managedRuns_sound (reachable : (managedRuns digest).Reachable managed) : managed.Sound := by
  refine reachable.invariant ManagedGraph.Sound ?_ ?_
  · rintro first ⟨_, _, _, _, registered⟩
    exact (registerManagedRun_sound registered).1
  · rintro before after _ sound ⟨_, _, passed⟩
    exact (ManagedCall.sound sound passed).1

theorem attentiveRuns_acted (reachable : (attentiveRuns digest).Reachable managed) :
    managed.Sound ∧ managed.Acted := by
  refine reachable.invariant (fun managed => managed.Sound ∧ managed.Acted) ?_ ?_
  · rintro first ⟨_, _, _, _, registered⟩
    exact registerManagedRun_sound registered
  · rintro before after _ ⟨sound, acted⟩ ⟨_, _, passed, attentive⟩
    obtain ⟨kept, acts⟩ := ManagedCall.sound sound passed
    exact ⟨kept, acts attentive acted⟩

end

/-- In every order of calls nothing is queued too early or twice, and an active Run has queued
whatever can be, unless a resume across two stores was committed meanwhile; the condition is exact.
-/
theorem managedRuns_advance {Digest : Type} [DecidableEq Digest]
    (digest : ManagedRequest → Digest) :
    (∀ managed, (managedRuns digest).Reachable managed → managed.InOrder) ∧
    (∀ managed, (attentiveRuns digest).Reachable managed → managed.Advanced) ∧
    ∀ managed after operationId, (managedRuns digest).Reachable managed →
      managed.resumeCrossStoreRevision operationId = .ok after →
      (after.Advanced ↔ ∀ taskId, ¬ Ready managed.run taskId) := by
  refine ⟨fun managed reachable => (managedRuns_sound reachable).inOrder,
    fun managed reachable => ?_, fun managed after operationId reachable resumed => ?_⟩
  · obtain ⟨sound, acted⟩ := attentiveRuns_acted reachable
    exact sound.advanced_iff.mpr acted
  · have step : ManagedCall.run digest 0 managed (.crossStoreResume operationId) = .ok after :=
      resumed
    rw [(ManagedCall.sound (managedRuns_sound reachable) step).1.advanced_iff]
    unfold ManagedGraph.resumeCrossStoreRevision at resumed
    simp only [passes_iff] at resumed
    obtain ⟨decision, _, _, _, answered⟩ := resumed
    cases answered
    exact ⟨fun acted => acted rfl, fun none _ => none⟩

theorem ManagedCall.run_calls [DecidableEq Digest]
    {after : ManagedGraph Digest} {calls : List ManagedCall}
    (passed : calls.foldlM (ManagedCall.run digest stack) managed = .ok after) :
    (managedRuns digest).Run managed after := by
  induction calls generalizing managed with
  | nil =>
    cases passed
    exact .refl
  | cons call rest hypothesis =>
    rw [foldlM_cons, bind_eq_ok] at passed
    obtain ⟨next, first, others⟩ := passed
    exact .head ⟨stack, call, first⟩ (hypothesis others)

def sampleRequestText : ManagedRequest → Json.Text
  | .acceptance taskId accepted evidence =>
    (Json.array [.string taskId.text, .bool accepted, evidence]).encode
  | .pause mode drain =>
    (Json.array (.bool (mode = .drain) :: drain.map fun name => .string name.text)).encode
  | .resume => Json.null.encode

def sampleFirst : ExecutionCommand :=
  { sampleCommand with executionId := ⟨"sdk-managed:first", by decide⟩ }

theorem sampleFirst_filled : blank "first" = false := by decide

theorem sampleGo_filled : blank "go" = false := by decide

def sampleSpec : ManagedSpec where
  runId := sampleName
  input := .null
  definition := .null
  commands :=
    [⟨⟨"first", by decide⟩, sampleFirst, []⟩,
      ⟨⟨"second", by decide⟩,
        { sampleCommand with
          executionId := ⟨"sdk-managed:second", by decide⟩, idempotencyKey := ⟨"second", by decide⟩ },
        ["first"]⟩]
  maxClaims := 1
  deadlineAt := 1

def sampleReport : ExecutionSnapshot where
  executionId := sampleFirst.executionId
  state := .failed
  revision := 4
  attempt := 1
  fence := 1
  redeliveryCount := 0
  command := sampleFirst
  lease := none
  result := some
    { resultId := sampleName, executionId := sampleFirst.executionId, status := .failed
      attempt := 1, fence := 1, effectIds := [], startedAt := 0, completedAt := 0
      correlationId := sampleName, causationId := none, value := .null
      error := some ⟨sampleName, "failed", false, []⟩, accepted := by rfl }
  recoveryEffectId := none
  recoveryTargetState := none
  recoveryReason := none
  nextAttemptAt := 0
  startedAt := some 0
  createdAt := 0
  updatedAt := 0
  accepted := by rfl

def samplePause : Identifier := ⟨"pause", by decide⟩

/-- The first task is accepted while the Run is paused across two stores, and the Run is resumed. -/
def sampleResumption : List ManagedCall :=
  [.resume ⟨"go", by decide⟩ 0 0, .sync ⟨"first", by decide⟩ 0 sampleReport,
    .crossStorePause samplePause 1 1,
    .prepare samplePause,
    .finalize samplePause,
    .accept ⟨"first", by decide⟩ ⟨"yes", by decide⟩ 1 true [("seen", .bool true)],
    .commitRevision samplePause 2 3 0 .null,
    .installProjection samplePause]

def sampleRegistered : Except SdkError (ManagedGraph Json.Text × Executions) :=
  registerManagedRun 100 ∅ sampleSpec

def sampleCalled : Except SdkError (ManagedGraph Json.Text) := do
  let (managed, _) ← sampleRegistered
  sampleResumption.foldlM (ManagedCall.run sampleRequestText 100) managed

theorem sampleCalled_reachable {managed : ManagedGraph Json.Text} (called : sampleCalled = .ok managed) :
    (managedRuns sampleRequestText).Reachable managed := by
  unfold sampleCalled at called
  simp only [bind_eq_ok, Prod.exists] at called
  obtain ⟨first, executions, registered, others⟩ := called
  exact ⟨first, ⟨100, ∅, sampleSpec, executions, registered⟩, ManagedCall.run_calls others⟩

theorem sampleCalled_ready : ∃ managed after, sampleCalled = .ok managed ∧
    managed.resumeCrossStoreRevision samplePause = .ok after ∧
      Ready managed.run ⟨"second", by decide⟩ := by
  have outcome : (do
      let managed ← sampleCalled
      let _ ← managed.resumeCrossStoreRevision samplePause
      check (Ready managed.run ⟨"second", by decide⟩) (.orchestration "")).toOption.isSome =
        true := by
    decide +kernel
  cases passed : (do
      let managed ← sampleCalled
      let _ ← managed.resumeCrossStoreRevision samplePause
      check (Ready managed.run ⟨"second", by decide⟩) (.orchestration "")) with
  | error failure =>
    rw [passed] at outcome
    cases outcome
  | ok _ =>
    simp only [bind_eq_ok, check_eq_ok] at passed
    obtain ⟨managed, called, after, resumed, ready⟩ := passed
    exact ⟨managed, after, called, resumed, ready⟩

/-- The sample Run with no call made yet, and its resume across two stores. -/
theorem managedRuns_advance_sample :
    (∃ managed, (attentiveRuns sampleRequestText).Reachable managed ∧ managed.dispatches ≠ [] ∧
      managed.Advanced) ∧
    ∃ managed after, (managedRuns sampleRequestText).Reachable managed ∧
      managed.resumeCrossStoreRevision samplePause = .ok after ∧ managed.InOrder ∧
      (after.Advanced ↔ ∀ taskId, ¬ Ready managed.run taskId) := by
  obtain ⟨inOrder, advanced, exactly⟩ := managedRuns_advance sampleRequestText
  refine ⟨?_, ?_⟩
  · have outcome : (sampleRegistered.toOption.map fun answer => answer.1.dispatches) =
        some [⟨"sdk-managed:first", by decide⟩] := by
      decide +kernel
    cases registered : sampleRegistered with
    | error failure =>
      rw [registered] at outcome
      cases outcome
    | ok answer =>
      rw [registered] at outcome
      have reachable : (attentiveRuns sampleRequestText).Reachable answer.1 :=
        .start ⟨100, ∅, sampleSpec, answer.2, registered⟩
      have queued : answer.1.dispatches = [⟨"sdk-managed:first", by decide⟩] :=
        Option.some.inj outcome
      refine ⟨answer.1, reachable, ?_, advanced answer.1 reachable⟩
      rw [queued]
      exact cons_ne_nil _ _
  · obtain ⟨managed, after, called, resumed, _⟩ := sampleCalled_ready
    have reachable := sampleCalled_reachable called
    exact ⟨managed, after, reachable, resumed, inOrder managed reachable,
      exactly managed after samplePause reachable resumed⟩

/-- A decision made while the Run was paused is not acted on when it is resumed across two
stores. -/
theorem resumeCrossStoreRevision_forgets :
    ∃ managed after, (managedRuns sampleRequestText).Reachable managed ∧
      managed.resumeCrossStoreRevision samplePause = .ok after ∧
      Ready after.run ⟨"second", by decide⟩ ∧ ¬ after.Advanced := by
  obtain ⟨managed, after, called, resumed, ready⟩ := sampleCalled_ready
  have reachable := sampleCalled_reachable called
  have next : (managedRuns sampleRequestText).Reachable after :=
    reachable.next ⟨0, .crossStoreResume samplePause, resumed⟩
  have committed := resumed
  unfold ManagedGraph.resumeCrossStoreRevision at resumed
  simp only [passes_iff] at resumed
  obtain ⟨decision, _, _, _, answered⟩ := resumed
  cases answered
  refine ⟨managed, _, reachable, committed, ready, fun advanced => ?_⟩
  exact (managedRuns_sound next).advanced_iff.mp advanced rfl _ ready

end DispatcherSdk.Orchestrator
