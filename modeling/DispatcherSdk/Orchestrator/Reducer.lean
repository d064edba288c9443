/-
This file models the errors of the orchestrator, the clocked transactions of its delivery
stores, and the reducer: how an operation changes a Run and which deliveries it asks for.

A transaction works on a frame of tables and a watermark, and only the tables are ever taken
back. The check for dependency cycles is a recursion of the interpreter; the number of frames
it has left is an argument of everything that makes this check, and an operation for which
they do not suffice fails with an error of its own.
-/

import DispatcherSdk.ExecutionKernel.Contracts
import DispatcherSdk.Library.Attempt
import DispatcherSdk.Library.Searches
import DispatcherSdk.Library.Table

namespace DispatcherSdk.Orchestrator

open Library ExecutionKernel

/-! ### Errors -/

/-- The exception classes the orchestrator raises. -/
inductive ErrorKind where
  | value
  | type
  | key
  | index
  | recursion
  | orchestration
  | revisionConflict
  | commandConflict
  | eventCursorExpired
  | historyExpired
  | runDisposed
  | staleFence
  | resultConflict
  | contentIntegrity
  | contentSizeLimit
  /-- Whatever the application's own code raises. -/
  | application
  | storage
  deriving DecidableEq

structure SdkError where
  kind : ErrorKind
  message : String
  deriving DecidableEq

namespace SdkError

def value (message : String) : SdkError := ⟨.value, message⟩
def type (message : String) : SdkError := ⟨.type, message⟩
def key (message : String) : SdkError := ⟨.key, message⟩
def index (message : String) : SdkError := ⟨.index, message⟩
def recursion (message : String) : SdkError := ⟨.recursion, message⟩
def orchestration (message : String) : SdkError := ⟨.orchestration, message⟩
def revisionConflict (message : String) : SdkError := ⟨.revisionConflict, message⟩
def commandConflict (message : String) : SdkError := ⟨.commandConflict, message⟩
def historyExpired (message : String) : SdkError := ⟨.historyExpired, message⟩
def staleFence (message : String) : SdkError := ⟨.staleFence, message⟩
def contentIntegrity (message : String) : SdkError := ⟨.contentIntegrity, message⟩
def contentSizeLimit (message : String) : SdkError := ⟨.contentSizeLimit, message⟩
def storage (message : String) : SdkError := ⟨.storage, message⟩

end SdkError

/-! ### The surroundings of a transaction -/

/-- What becomes of the storage while a transaction runs. -/
inductive StorageFault where
  /-- Nothing goes wrong. -/
  | none
  /-- The database gives up the whole transaction, or its commit does not take place. -/
  | lost (failure : SdkError)
  /-- The commit takes place but the caller is told that it failed. -/
  | unacknowledged (failure : SdkError)

/-- What happens around one call. Samples are drawn one after another. -/
structure Environment where
  arithmetic : FloatArithmetic
  /-- A sample of the wall clock, or what the clock or the check of its sample raises. -/
  clock : ℕ → Except SdkError Timestamp
  /-- `uuid4().hex`. -/
  uuid : ℕ → Identifier
  fault : StorageFault

/-- A store with a clock row, between two transactions. -/
structure Store (Tables : Type) where
  tables : Tables
  watermark : Timestamp

structure Frame (Tables : Type) where
  tables : Tables
  watermark : Timestamp
  /-- How many samples have been drawn. -/
  ticks : ℕ

instance {Tables : Type} : Preorder (Frame Tables) where
  le first second := first.watermark ≤ second.watermark
  le_refl frame := le_refl frame.watermark
  le_trans _ _ _ first second := le_trans first second

abbrev StoreM (Tables : Type) := Attempt Environment (Frame Tables) SdkError

namespace StoreM

variable {Tables : Type}

def tables : StoreM Tables Tables where
  run _ frame := (.ok frame.tables, frame)
  grows _ frame := le_refl frame

def modify (change : Tables → Tables) : StoreM Tables Unit where
  run _ frame := (.ok (), { frame with tables := change frame.tables })
  grows _ frame := le_refl frame.watermark

/-- `uuid4().hex`. -/
def uuid : StoreM Tables Identifier where
  run environment frame :=
    (.ok (environment.uuid frame.ticks), { frame with ticks := frame.ticks + 1 })
  grows _ frame := le_refl frame.watermark

/-- `now`: move the watermark to the sample of the wall clock if that is ahead. -/
def now : StoreM Tables Timestamp where
  run environment frame :=
    match environment.clock frame.ticks with
    | .error failure => (.error failure, { frame with ticks := frame.ticks + 1 })
    | .ok sample =>
      let watermark := max frame.watermark sample
      (.ok watermark, { frame with watermark, ticks := frame.ticks + 1 })
  grows environment frame := by
    cases environment.clock frame.ticks with
    | error failure => exact le_refl frame.watermark
    | ok sample => exact le_max_left frame.watermark sample

end StoreM

open Attempt

/-! ### The transaction -/

section Transaction

variable {Tables Answer : Type}

def settleStorage (fault : StorageFault) (before after : Store Tables)
    (outcome : Except SdkError Answer) : Except SdkError Answer × Store Tables :=
  match fault with
  | .none => (outcome, after)
  | .lost failure => (.error failure, before)
  | .unacknowledged failure => (.error failure, after)

/-- The transaction around an operation: what has been observed stays when the operation fails. -/
def transaction (body : Timestamp → StoreM Tables Answer) (environment : Environment)
    (store : Store Tables) : Except SdkError Answer × Store Tables :=
  match StoreM.now.run environment ⟨store.tables, store.watermark, 0⟩ with
  | (.error failure, _) => (.error failure, store)
  | (.ok observed, opened) =>
    match (body observed).run environment opened with
    | (.ok answer, frame) =>
      settleStorage environment.fault store ⟨frame.tables, frame.watermark⟩ (.ok answer)
    | (.error failure, frame) =>
      settleStorage environment.fault store ⟨store.tables, frame.watermark⟩ (.error failure)

end Transaction

/-! ### The rules -/

section Rules

variable {Tables Answer : Type} {environment : Environment} {frame : Frame Tables}

theorem ensures_tables {condition : Tables → Frame Tables → Prop}
    (holds : condition frame.tables frame) : Ensures StoreM.tables environment frame condition := by
  intro value next success
  cases success
  exact holds

theorem ensures_modify {change : Tables → Tables} {condition : Unit → Frame Tables → Prop}
    (holds : condition () { frame with tables := change frame.tables }) :
    Ensures (StoreM.modify change) environment frame condition := by
  intro value next success
  cases success
  exact holds

theorem ensures_uuid {condition : Identifier → Frame Tables → Prop}
    (holds : ∀ name, condition name { frame with ticks := frame.ticks + 1 }) :
    Ensures StoreM.uuid environment frame condition := by
  intro value next success
  cases success
  exact holds _

theorem ensures_now {condition : Timestamp → Frame Tables → Prop}
    (holds : ∀ time, frame.watermark ≤ time →
      condition time { frame with watermark := time, ticks := frame.ticks + 1 }) :
    Ensures StoreM.now environment frame condition := by
  intro value next success
  unfold StoreM.now at success
  cases sampled : environment.clock frame.ticks with
  | error failure =>
    simp only [sampled] at success
    cases success
  | ok sample =>
    simp only [sampled] at success
    cases success
    exact holds _ (le_max_left frame.watermark sample)

/-- How a transaction may end: with the tables as they were or as its work has made them, and the
caller may be told nothing but a failure. -/
structure Transacts (before : Store Tables) (condition : Answer → Frame Tables → Prop)
    (result : Except SdkError Answer × Store Tables) : Prop where
  watermark : before.watermark ≤ result.2.watermark
  outcome : ((∃ failure, result.1 = .error failure) ∧ result.2.tables = before.tables) ∨
    ∃ answer next, condition answer next ∧ result.2 = ⟨next.tables, next.watermark⟩ ∧
      (result.1 = .ok answer ∨ ∃ failure, result.1 = .error failure)

variable {body : Timestamp → StoreM Tables Answer} {store : Store Tables}

theorem transaction_transacts {condition : Answer → Frame Tables → Prop}
    (ensures : ∀ observed, store.watermark ≤ observed →
      Ensures (body observed) environment ⟨store.tables, observed, 1⟩ condition) :
    Transacts store condition (transaction body environment store) := by
  have opening : Ensures StoreM.now environment (⟨store.tables, store.watermark, 0⟩ : Frame Tables)
      fun observed opened => store.watermark ≤ observed ∧ opened = ⟨store.tables, observed, 1⟩ :=
    ensures_now fun time later => ⟨later, rfl⟩
  unfold transaction
  rcases opened : StoreM.now.run environment (⟨store.tables, store.watermark, 0⟩ : Frame Tables)
    with ⟨failure | observed, first⟩
  · exact ⟨le_refl _, Or.inl ⟨⟨failure, rfl⟩, rfl⟩⟩
  · obtain ⟨later, rfl⟩ := opening observed first opened
    have grown := (body observed).grows environment ⟨store.tables, observed, 1⟩
    dsimp only
    rcases outcome : (body observed).run environment ⟨store.tables, observed, 1⟩
      with ⟨failure | answer, frame⟩ <;> rw [outcome] at grown
    · have reached : store.watermark ≤ frame.watermark := later.trans grown
      cases environment.fault with
      | none => exact ⟨reached, Or.inl ⟨⟨failure, rfl⟩, rfl⟩⟩
      | lost fault => exact ⟨le_refl _, Or.inl ⟨⟨fault, rfl⟩, rfl⟩⟩
      | unacknowledged fault => exact ⟨reached, Or.inl ⟨⟨fault, rfl⟩, rfl⟩⟩
    · have reached : store.watermark ≤ frame.watermark := later.trans grown
      have done := ensures observed later answer frame outcome
      cases environment.fault with
      | none => exact ⟨reached, Or.inr ⟨answer, frame, done, rfl, Or.inl rfl⟩⟩
      | lost fault => exact ⟨le_refl _, Or.inl ⟨⟨fault, rfl⟩, rfl⟩⟩
      | unacknowledged fault =>
        exact ⟨reached, Or.inr ⟨answer, frame, done, rfl, Or.inr ⟨fault, rfl⟩⟩⟩

/-- Where the work of a transaction stops, whether it succeeds or fails. Every time that it has
observed is at most the watermark there. -/
def stopped (body : Timestamp → StoreM Tables Answer) (environment : Environment)
    (store : Store Tables) (sample : Timestamp) : Frame Tables :=
  ((body (max store.watermark sample)).run environment
    ⟨store.tables, max store.watermark sample, 1⟩).2

theorem stopped_watermark (body : Timestamp → StoreM Tables Answer) (environment : Environment)
    (store : Store Tables) (sample : Timestamp) :
    max store.watermark sample ≤ (stopped body environment store sample).watermark :=
  (body (max store.watermark sample)).grows environment
    ⟨store.tables, max store.watermark sample, 1⟩

variable {sample : Timestamp}

section

variable (sampled : environment.clock 0 = .ok sample)
  (stored : ∀ failure, environment.fault ≠ .lost failure)

include sampled stored

/-- Unless the storage gives the transaction up, no time that its work has observed is unlearned. -/
theorem transaction_keeps :
    (transaction body environment store).2.watermark =
      (stopped body environment store sample).watermark := by
  have opened : StoreM.now.run environment (⟨store.tables, store.watermark, 0⟩ : Frame Tables) =
      (.ok (max store.watermark sample), ⟨store.tables, max store.watermark sample, 1⟩) := by
    unfold StoreM.now
    simp only [sampled]
  have kept : ∀ (after : Store Tables) (outcome : Except SdkError Answer),
      (settleStorage environment.fault store after outcome).2 = after := by
    intro after outcome
    cases fault : environment.fault with
    | none => rfl
    | lost failure => exact absurd fault (stored failure)
    | unacknowledged failure => rfl
  unfold transaction stopped
  rw [opened]
  dsimp only
  rcases (body (max store.watermark sample)).run environment
    ⟨store.tables, max store.watermark sample, 1⟩ with ⟨failure | answer, frame⟩ <;>
    dsimp only <;> rw [kept]

theorem transaction_retains :
    max store.watermark sample ≤ (transaction body environment store).2.watermark := by
  rw [transaction_keeps sampled stored]
  exact stopped_watermark body environment store sample

end

end Rules

/-! ### Attempts -/

/-- The state of an attempt, given by the orchestrator or the Kernel. A planned attempt that is
cancelled takes the Kernel's state. -/
inductive AttemptState where
  | planned
  | pendingDispatch
  | observed (state : ExecutionState)
  deriving DecidableEq

namespace AttemptState

/-- `state in TERMINAL`. -/
def terminal : AttemptState → Bool
  | planned | pendingDispatch => false
  | observed state => state.terminal

def cancelled : AttemptState := observed .cancelled

end AttemptState

/-- `ExecutionSnapshot.to_dict`. -/
def snapshotDict (snapshot : SnapshotFields) : Json := .object
  [("execution_id", snapshot.executionId.toJson), ("state", snapshot.state.toJson),
    ("revision", .ofNat snapshot.revision),
    ("attempt", .ofNat snapshot.attempt),
    ("fence", .ofNat snapshot.fence),
    ("redelivery_count", .ofNat snapshot.redeliveryCount),
    ("command", snapshot.command.toDict),
    ("lease", .ofOption ExecutionLease.toDict snapshot.lease),
    ("result", .ofOption ExecutionResult.toDict snapshot.result),
    ("recovery_effect_id", .ofOption Identifier.toJson snapshot.recoveryEffectId),
    ("recovery_target_state",
      .ofOption (fun target => .string target.text) snapshot.recoveryTargetState),
    ("recovery_reason", .ofOption Identifier.toJson snapshot.recoveryReason),
    ("next_attempt_at", .ofTimestamp snapshot.nextAttemptAt),
    ("started_at", .ofOption Json.ofTimestamp snapshot.startedAt),
    ("created_at", .ofTimestamp snapshot.createdAt),
    ("updated_at", .ofTimestamp snapshot.updatedAt),
    ("schema_version", .ofNat schemaVersion)]

/-- One attempt at a task. A field that is optional in the record is a key the record may lack. -/
structure RunAttempt where
  command : ExecutionCommand
  state : AttemptState
  result : Option ExecutionResult
  dispatched : Bool
  kernelRevision : ℕ
  kernelSnapshot : Option ExecutionSnapshot
  /-- For each dependency, which attempt at it was the last one when this attempt was dispatched. -/
  dependencyAttempts : Option (List (Identifier × ℕ))
  cancelReason : Option Identifier
  generation : Option ℕ

/-- `attempt`: a planned attempt. -/
def attempt (command : ExecutionCommand) : RunAttempt where
  command
  state := .planned
  result := none
  dispatched := false
  kernelRevision := 0
  kernelSnapshot := none
  dependencyAttempts := none
  cancelReason := none
  generation := none

namespace RunAttempt

end RunAttempt

/-! ### Tasks, waits and signals -/

/-- What an application has decided about the outcome of a task. -/
structure ManagedAcceptance where
  attempt : ℕ
  generation : ℕ
  accepted : Bool
  evidence : Json

structure RunTask where
  taskId : Identifier
  dependencies : List Identifier
  attempts : List RunAttempt
  managedAcceptance : Option ManagedAcceptance

structure Wait where
  waitId : Identifier
  isOpen : Bool
  payload : Json

structure Signal where
  signalId : Identifier
  payload : Json

/-! ### Runs -/

inductive RunState where
  | running
  | succeeded
  | failed
  | cancelled
  deriving DecidableEq

namespace RunState

/-- `state in RUN_TERMINAL`, and the state that is meant. A value that cannot be hashed cannot even
be looked for. -/
def ofTerminal : Json → Except SdkError RunState
  | .string "succeeded" => .ok succeeded
  | .string "failed" => .ok failed
  | .string "cancelled" => .ok cancelled
  | .array _ => .error (.type "unhashable type: 'list'")
  | .object _ => .error (.type "unhashable type: 'dict'")
  | _ => .error (.orchestration "invalid terminal run state")

end RunState

/-- A Run as it is read, changed and saved. -/
structure RunSnapshot where
  runId : Identifier
  revision : ℕ
  state : RunState
  generation : ℕ
  input : Json
  definition : Json
  applicationState : Json
  tasks : Table RunTask.taskId
  waits : Table Wait.waitId
  signals : Table Signal.signalId

namespace RunSnapshot

/-- The Run that `create_run` begins. -/
def create (runId : Identifier) (input definition : Json) : RunSnapshot where
  runId
  revision := 0
  state := .running
  generation := 0
  input
  definition
  applicationState := .null
  tasks := .empty
  waits := .empty
  signals := .empty

end RunSnapshot

/-- The fields of a Run that are saved by themselves. -/
inductive RootField where
  | state
  | generation
  | input
  | definition
  | applicationState
  deriving DecidableEq

/-! ### Operations -/

/-- An operation that `validate_operation` has let through. What it leaves unchecked is still a JSON
value. -/
inductive Operation where
  | addTask (taskId : Identifier) (command : ExecutionCommand) (dependencies : Option Json)
  | setDependencies (taskId : Identifier) (dependencies : Json)
  | dispatch (taskId : Identifier)
  | newAttempt (taskId : Identifier) (command : ExecutionCommand)
  | cancel (taskId reason : Identifier)
  | wait (waitId : Identifier) (payload : Option Json)
  | signal (signalId : Identifier) (payload : Json)
  | releaseWait (waitId : Identifier)
  | finish (state : Json)
  | watchTask (taskId watchId : Identifier) (target : Json) (maxDeliveries : Option Json)

/-- A delivery that an operation asks for. -/
inductive Intent where
  | dispatch (command : ExecutionCommand)
  | cancel (command : ExecutionCommand) (reason : Identifier)

open Library.Checked

/-! ### Dependencies -/

def dependencyTexts : Json → Option (List String)
  | .array items => items.mapM fun item =>
    match item with
    | .string text => some text
    | _ => none
  | _ => none

def namedTask (tasks : Table RunTask.taskId) (text : String) : Option Identifier :=
  (Identifier.ofText text).bind fun name => (tasks.find? name).map RunTask.taskId

/-- `tasks[current]["dependencies"]`. -/
def dependenciesOf (tasks : Table RunTask.taskId) (current : Identifier) :
    Option (List Identifier) :=
  (tasks.find? current).map RunTask.dependencies

/-- `any(reaches(v, set()) for v in values)`. -/
def closesCycle (stack : ℕ) (tasks : Table RunTask.taskId) (taskId : Identifier) :
    List Identifier → Except SdkError Bool
  | [] => .ok false
  | value :: rest =>
    match DepthFirst.reaches (dependenciesOf tasks) taskId stack value [] with
    | .error .exhausted => .error (.recursion "maximum recursion depth exceeded")
    | .error .missing => .error (.key "dependencies")
    | .ok (true, _) => .ok true
    | .ok (false, _) => closesCycle stack tasks taskId rest

/-- `_dependencies`. -/
def checkDependencies (stack : ℕ) (tasks : Table RunTask.taskId) (taskId : Identifier)
    (values : Json) : Except SdkError (List Identifier) := do
  let texts ← present (dependencyTexts values)
    (.orchestration "dependencies must be task identifiers")
  check (texts.Nodup ∧ taskId.text ∉ texts) (.orchestration "duplicate or self dependency")
  let names ← present (texts.mapM (namedTask tasks))
    (.orchestration "unknown dependency; add predecessors first")
  let cycle ← closesCycle stack tasks taskId names
  check (cycle = false) (.orchestration "dependency cycle")
  return names

/-! ### Operations -/

def RunSnapshot.setTask (run : RunSnapshot) (task : RunTask) : RunSnapshot :=
  { run with tasks := run.tasks.put task }

def RunTask.setCurrent (task : RunTask) (current : RunAttempt) : RunTask :=
  { task with attempts := task.attempts.dropLast ++ [current] }

/-- `tasks.get(task_id)` and `task["attempts"][-1]`. -/
def currentAttempt (run : RunSnapshot) (taskId : Identifier) :
    Except SdkError (RunTask × RunAttempt) := do
  let task ← present (run.tasks.find? taskId) (.orchestration "unknown task")
  let current ← present task.attempts.getLast? (.index "list index out of range")
  return (task, current)

/-- The index of the last attempt of a dependency, which has to be over. -/
def settledDependency (tasks : Table RunTask.taskId) (value : Identifier) :
    Except SdkError (Identifier × ℕ) := do
  let task ← present (tasks.find? value) (.key value.text)
  let last ← present task.attempts.getLast? (.index "list index out of range")
  check (last.state.terminal = true) (.orchestration "dependencies have not settled")
  return (value, task.attempts.length - 1)

def addTask (stack : ℕ) (run : RunSnapshot) (taskId : Identifier) (command : ExecutionCommand)
    (dependencies : Option Json) : Except SdkError (RunSnapshot × List Intent) := do
  check ((run.tasks.find? taskId).isNone) (.orchestration "task already exists")
  let dependencies ← checkDependencies stack run.tasks taskId (dependencies.getD (.array []))
  return (run.setTask
    { taskId, dependencies, attempts := [attempt command], managedAcceptance := none }, [])

def setDependencies (stack : ℕ) (run : RunSnapshot) (taskId : Identifier) (dependencies : Json) :
    Except SdkError (RunSnapshot × List Intent) := do
  let (task, current) ← currentAttempt run taskId
  check (task.attempts.length = 1 ∧ current.state = .planned)
    (.orchestration "dispatched task dependencies are immutable")
  let dependencies ← checkDependencies stack run.tasks taskId dependencies
  return (run.setTask { task with dependencies }, [])

def newAttempt (run : RunSnapshot) (taskId : Identifier) (command : ExecutionCommand) :
    Except SdkError (RunSnapshot × List Intent) := do
  let (task, current) ← currentAttempt run taskId
  check (current.state.terminal = true)
    (.orchestration "settle or cancel the current attempt first")
  return (run.setTask { task with attempts := task.attempts ++ [attempt command] }, [])

def dispatch (run : RunSnapshot) (taskId : Identifier) :
    Except SdkError (RunSnapshot × List Intent) := do
  let (task, current) ← currentAttempt run taskId
  check (current.state = .planned) (.orchestration "attempt already dispatched or cancelled")
  let settled ← task.dependencies.mapM (settledDependency run.tasks)
  let dispatched := { current with
    state := .pendingDispatch, dispatched := true
    dependencyAttempts := some settled }
  return (run.setTask (task.setCurrent dispatched), [.dispatch current.command])

def cancel (run : RunSnapshot) (taskId reason : Identifier) :
    Except SdkError (RunSnapshot × List Intent) := do
  let (task, current) ← currentAttempt run taskId
  if current.state = .planned then
    return (run.setTask (task.setCurrent
      { current with state := .cancelled, cancelReason := some reason }), [])
  else if current.state.terminal then
    return (run, [])
  else
    return (run, [.cancel current.command reason])

/-- `wait`. -/
def openWait (run : RunSnapshot) (waitId : Identifier) (payload : Option Json) :
    Except SdkError (RunSnapshot × List Intent) := do
  check ((run.waits.find? waitId).isNone) (.orchestration "wait already exists")
  return ({ run with
    waits := run.waits.put { waitId, isOpen := true, payload := payload.getD .null } }, [])

def releaseWait (run : RunSnapshot) (waitId : Identifier) :
    Except SdkError (RunSnapshot × List Intent) := do
  let wait ← present (run.waits.find? waitId) (.orchestration "wait is not open")
  check (wait.isOpen = true) (.orchestration "wait is not open")
  return ({ run with waits := run.waits.put { wait with isOpen := false } }, [])

/-- `signal`. -/
def addSignal (run : RunSnapshot) (signalId : Identifier) (payload : Json) :
    Except SdkError (RunSnapshot × List Intent) := do
  check ((run.signals.find? signalId).isNone)
    (.orchestration "signal already exists; replay the original command")
  return ({ run with signals := run.signals.put { signalId, payload } }, [])

/-- The last attempt of a task has to be over. -/
def settledTask (task : RunTask) : Except SdkError Unit := do
  let last ← present task.attempts.getLast? (.index "list index out of range")
  check (last.state.terminal = true) (.orchestration "settle or cancel tasks before finishing")

def finish (run : RunSnapshot) (state : Json) : Except SdkError (RunSnapshot × List Intent) := do
  let state ← RunState.ofTerminal state
  let _ ← run.tasks.rows.mapM settledTask
  check (∀ wait ∈ run.waits.rows, wait.isOpen = false)
    (.orchestration "release waits before finishing")
  return ({ run with state }, [])

/-- `reduce_operation`. An operation it does not know is left to whoever does. -/
def reduceOperation (stack : ℕ) (run : RunSnapshot) (operation : Operation) :
    Except SdkError (RunSnapshot × List Intent) := do
  check (run.state = .running) (.orchestration "run is terminal")
  match operation with
  | .addTask taskId command dependencies => addTask stack run taskId command dependencies
  | .setDependencies taskId dependencies => setDependencies stack run taskId dependencies
  | .newAttempt taskId command => newAttempt run taskId command
  | .dispatch taskId => dispatch run taskId
  | .cancel taskId reason => cancel run taskId reason
  | .wait waitId payload => openWait run waitId payload
  | .releaseWait waitId => releaseWait run waitId
  | .signal signalId payload => addSignal run signalId payload
  | .finish state => finish run state
  | .watchTask .. => return (run, [])

/-! ### Lists of operations -/

/-- An item of a Run that is saved by itself. -/
inductive ItemKey where
  | root (field : RootField)
  | task (taskId : Identifier)
  | attempt (taskId : Identifier) (index : ℕ)
  | wait (waitId : Identifier)
  | signal (signalId : Identifier)
  deriving DecidableEq

/-- What a list of operations has come to: the Run, the deliveries, the changed items and the
attempts to be registered. -/
structure Reduction where
  run : RunSnapshot
  intents : List Intent
  changes : List ItemKey
  registrations : List (Identifier × ℕ × RunAttempt)

def Operation.taskId? : Operation → Option Identifier
  | .addTask taskId .. | .setDependencies taskId _ | .dispatch taskId | .newAttempt taskId _
  | .cancel taskId _ | .watchTask taskId .. => some taskId
  | .wait .. | .signal .. | .releaseWait _ | .finish _ => none

/-- The wait or the signal that an operation is about. -/
def Operation.item? : Operation → Option ItemKey
  | .wait waitId _ | .releaseWait waitId => some (.wait waitId)
  | .signal signalId _ => some (.signal signalId)
  | _ => none

/-- The operations that write the record of the task itself. -/
def Operation.writesTask : Operation → Bool
  | .addTask .. | .setDependencies .. => true
  | _ => false

def Operation.addsAttempt : Operation → Bool
  | .addTask .. | .newAttempt .. => true
  | _ => false

/-- The loop body of `_apply_operations` after `reduce_operation`. An attempt that has been added is
given the generation of the Run. -/
def recordOperation (generation : ℕ) (operation : Operation) (before : Reduction)
    (run : RunSnapshot) (intents : List Intent) : Except SdkError Reduction := do
  let intents := before.intents ++ intents
  match operation.taskId? with
  | some taskId =>
    let task ← present (run.tasks.find? taskId) (.key taskId.text)
    let index := task.attempts.length - 1
    let changes := before.changes.insert (.attempt taskId index)
    let changes := if operation.writesTask then changes.insert (.task taskId) else changes
    if operation.addsAttempt then
      let current ← present task.attempts.getLast? (.index "list index out of range")
      let stamped := { current with generation := some generation }
      return { run := run.setTask (task.setCurrent stamped), intents, changes
               registrations := before.registrations ++ [(taskId, index, stamped)] }
    else return { before with run, intents, changes }
  | none =>
    match operation.item? with
    | some item => return { before with run, intents, changes := before.changes.insert item }
    | none => return { before with run, intents }

/-- What a watch binds to, or why it is refused: `_register_watch` as far as it reads the Run. -/
def checkWatch (run : RunSnapshot) (taskId : Identifier) : Except SdkError Unit := do
  check (run.state = .running) (.orchestration "run is terminal")
  let (_, current) ← currentAttempt run taskId
  check (current.generation.getD 0 = run.generation)
    (.orchestration "watch must bind the current Run generation")

def applyOperation (stack generation : ℕ) (before : Reduction) (operation : Operation) :
    Except SdkError Reduction := do
  match operation with
  | .watchTask taskId .. =>
    checkWatch before.run taskId
    return before
  | _ =>
    let (run, intents) ← reduceOperation stack before.run operation
    recordOperation generation operation before run intents

def applyOperations (stack generation : ℕ) (run : RunSnapshot) (operations : List Operation) :
    Except SdkError Reduction :=
  operations.foldlM (applyOperation stack generation) ⟨run, [], [], []⟩

/-! ### What the Kernel reports -/

/-- `sync_execution` on the stored attempt: the attempt to save, or none if the snapshot tells
nothing that has not been saved already. -/
def RunAttempt.observe (attempt : RunAttempt) (snapshot : ExecutionSnapshot) :
    Except SdkError (Option RunAttempt) := do
  check (attempt.dispatched = true) (.orchestration "execution was not explicitly dispatched")
  if snapshot.revision < attempt.kernelRevision then return none
  else if snapshot.revision = attempt.kernelRevision then
    let stored : Json :=
      .ofOption (fun stored => snapshotDict stored.toSnapshotFields) attempt.kernelSnapshot
    check (stored.encode = (snapshotDict snapshot.toSnapshotFields).encode)
      (.orchestration "Kernel changed an immutable execution revision")
    return none
  else
    check (¬ (attempt.kernelRevision ≠ 0 ∧ attempt.state.terminal = true))
      (.orchestration "terminal execution history cannot be rewritten")
    return some { attempt with
      state := .observed snapshot.state, kernelRevision := snapshot.revision
      result := snapshot.result, kernelSnapshot := some snapshot }

/-- `sync_execution` on the Run that the attempt belongs to. -/
def RunSnapshot.syncExecution (run : RunSnapshot) (taskId : Identifier) (index : ℕ)
    (snapshot : ExecutionSnapshot) : Except SdkError RunSnapshot := do
  let task ← present (run.tasks.find? taskId) (.key taskId.text)
  let stored ← present task.attempts[index]?
    (.orchestration "registered attempt projection is missing")
  match ← stored.observe snapshot with
  | none => return run
  | some current =>
    return { run.setTask { task with attempts := task.attempts.set index current } with
      revision := run.revision + 1 }

end DispatcherSdk.Orchestrator
