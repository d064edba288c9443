/-
This file models the watches of an application and the notifications they give rise to:
`notifications.py` as far as it registers watches and collects events.

A collector reads the open watches, then for each of them a page of the log, then brings the
projection of the execution up to date if the page is about it, and then commits what the
page gives rise to together with the new cursor.
-/

import DispatcherSdk.Orchestrator.Registrations

namespace DispatcherSdk.Orchestrator

open Library Library.Checked Table
open ExecutionKernel hiding ExecutionRow OutboxRow Operation EventRow

/-! ### The log of the kernel -/

def eventId (event : ExecutionKernel.EventRow) : String :=
  event.executionId.text ++ ":" ++ toString event.revision

/-- `kernel_events`: rows in the order of their sequence numbers, under identities that are unique. -/
structure EventLog where
  rows : List ExecutionKernel.EventRow
  ordered : rows.Pairwise fun earlier later => earlier.sequence < later.sequence
  positive : ∀ event ∈ rows, 0 < event.sequence
  identified : (rows.map eventId).Nodup

def EventLog.eventsSince (log : EventLog) (after limit : ℕ) : List ExecutionKernel.EventRow :=
  (log.rows.filter fun event => after < event.sequence).take limit

/-! ### Watches and notifications -/

/-- A row of `sdk_watches`. -/
structure Watch where
  runId : Identifier
  watchId : Identifier
  taskId : Identifier
  executionId : Identifier
  attempt : ℕ
  generation : ℕ
  target : Json
  maxDeliveries : ℕ
  cursor : ℕ
  completed : Bool

def Watch.key (watch : Watch) : Identifier × Identifier := (watch.runId, watch.watchId)

inductive NoticeKind where
  | terminal
  | recoveryRequired
  deriving DecidableEq

inductive NoticeCause where
  | recorded (event : ExecutionKernel.EventRow)
  /-- A planned attempt was cancelled and has no execution. -/
  | plannedCancel (reason : Option Identifier)

/-- The last part of the identity of a notification. -/
def NoticeCause.text : NoticeCause → String
  | recorded event => eventId event
  | plannedCancel _ => "planned_cancel"

structure Notice where
  notificationId : String
  runId : Identifier
  taskId : Identifier
  attempt : ℕ
  executionId : Identifier
  generation : ℕ
  watchId : Identifier
  target : Json
  kind : NoticeKind
  state : ExecutionState
  cause : NoticeCause
  result : Option Json

/-- A row of `sdk_notifications` as it is inserted; its delivery columns have their defaults. -/
structure Notification where
  notificationId : String
  payload : Notice
  maxAttempts : ℕ
  nextAttemptAt : Timestamp

abbrev Notifications := Table Notification.notificationId

def noticeKind (event : ExecutionKernel.EventRow) : Option NoticeKind :=
  if event.toState.terminal then some .terminal
  else if event.toState = .recoveryRequired ∧ event.fromState ≠ some .recoveryRequired then
    some .recoveryRequired
  else none

section Collecting

-- `digest` is the digest of an array of texts.
variable (digest : List String → String)

def Watch.notificationId (watch : Watch) (cause : NoticeCause) : String :=
  digest [watch.runId.text, watch.watchId.text, cause.text]

def Watch.notice (watch : Watch) (event : ExecutionKernel.EventRow) (kind : NoticeKind) :
    Notice where
  notificationId := watch.notificationId digest (.recorded event)
  runId := watch.runId
  taskId := watch.taskId
  attempt := watch.attempt
  executionId := event.executionId
  generation := watch.generation
  watchId := watch.watchId
  target := watch.target
  kind
  state := event.toState
  cause := .recorded event
  result := if kind = .terminal then Json.get? event.data "result" else none

/-- The payload for a planned attempt that was cancelled. -/
def Watch.cancellation (watch : Watch) (reason : Option Identifier) : Notice where
  notificationId := watch.notificationId digest (.plannedCancel reason)
  runId := watch.runId
  taskId := watch.taskId
  attempt := watch.attempt
  executionId := watch.executionId
  generation := watch.generation
  watchId := watch.watchId
  target := watch.target
  kind := .terminal
  state := .cancelled
  cause := .plannedCancel reason
  result := none

/-- `_queue_notification`: `INSERT OR IGNORE`. -/
def queueNotification (watch : Watch) (payload : Notice) (now : Timestamp)
    (notifications : Notifications) : Notifications :=
  match notifications.find? payload.notificationId with
  | some _ => notifications
  | none =>
    notifications.put
      { notificationId := payload.notificationId, payload, maxAttempts := watch.maxDeliveries
        nextAttemptAt := now }

/-- The loop of `collect_notifications` over a page; the flag says that it ended at a terminal
event. -/
def queueEvents (watch : Watch) (dispatched : Bool) (now : Timestamp) :
    List ExecutionKernel.EventRow → Notifications → Notifications × Bool
  | [], notifications => (notifications, false)
  | event :: rest, notifications =>
    if event.executionId ≠ watch.executionId ∨ dispatched = false then
      queueEvents watch dispatched now rest notifications
    else
      match noticeKind event with
      | none => queueEvents watch dispatched now rest notifications
      | some kind =>
        let queued := queueNotification watch (watch.notice digest event kind) now notifications
        if kind = .terminal then (queued, true)
        else queueEvents watch dispatched now rest queued

def queueCancellation (watch : Watch) (attempt : RunAttempt) (now : Timestamp)
    (queued : Notifications × Bool) : Notifications × Bool :=
  if attempt.dispatched = false ∧ attempt.state = .cancelled then
    (queueNotification watch (watch.cancellation digest attempt.cancelReason) now queued.1, true)
  else queued

def Watch.advanced (watch : Watch) (events : List ExecutionKernel.EventRow) (completed : Bool) :
    Watch :=
  { watch with cursor := (events.getLast?.map (·.sequence)).getD watch.cursor, completed }

/-- A collector at work on one watch, which it has read. -/
inductive Collector where
  | chosen (watch : Watch)
  | paged (watch : Watch) (events : List ExecutionKernel.EventRow)
  /-- The projection has been brought up to date if the page is about the execution. -/
  | synced (watch : Watch) (events : List ExecutionKernel.EventRow)

/-- The log of the kernel, the Runs and registrations, the watches, the notifications, and the
collectors. -/
structure Watching where
  log : EventLog
  runs : Table RunSnapshot.runId
  executions : Executions
  watches : Table Watch.key
  notifications : Notifications
  collectors : List Collector

def Watching.attemptOf (state : Watching) (watch : Watch) : Except SdkError RunAttempt := do
  let run ← present (state.runs.find? watch.runId) (.key watch.runId.text)
  let task ← present (run.tasks.find? watch.taskId) (.key watch.taskId.text)
  present task.attempts[watch.attempt]? (.index "list index out of range")

/-- The transaction in which a page is committed. -/
def Watching.commitPage (state : Watching) (watch : Watch)
    (events : List ExecutionKernel.EventRow) (now : Timestamp) : Except SdkError Watching := do
  let current ← present (state.watches.find? watch.key)
    (.type "'NoneType' object is not subscriptable")
  if current.completed ∨ current.cursor ≠ watch.cursor then return state
  else
    let attempt ← state.attemptOf watch
    let queued := queueCancellation digest watch attempt now
      (queueEvents digest watch attempt.dispatched now events state.notifications)
    return { state with
      watches := state.watches.put (current.advanced events queued.2)
      notifications := queued.1 }

end Collecting

/-! ### Registering a watch -/

/-- `_integer`. -/
def positiveInteger (name : String) : Json → Except SdkError ℕ
  | .int value =>
    if 1 ≤ value then .ok value.toNat else .error (.value (name ++ " must be a positive integer"))
  | _ => .error (.value (name ++ " must be a positive integer"))

def registerWatch (run : RunSnapshot) (watches : Table Watch.key) (taskId watchId : Identifier)
    (target : Json) (maxDeliveries : Option Json) : Except SdkError (Table Watch.key) := do
  checkWatch run taskId
  let (task, current) ← currentAttempt run taskId
  let maximum ← positiveInteger "max_deliveries" (maxDeliveries.getD (.int 5))
  check (target.isNull = false) (.orchestration "target must identify an application conversation")
  check ((watches.find? (run.runId, watchId)).isNone)
    (.commandConflict "watch already exists; replay the original command")
  return watches.put
    { runId := run.runId, watchId, taskId, executionId := current.command.executionId
      attempt := task.attempts.length - 1, generation := current.generation.getD 0, target
      maxDeliveries := maximum, cursor := 0, completed := false }

/-- One operation of a list, with the watch it may register. -/
def applyWatched (stack generation : ℕ) (before : Reduction × Table Watch.key)
    (operation : Operation) : Except SdkError (Reduction × Table Watch.key) := do
  let reduction ← applyOperation stack generation before.1 operation
  match operation with
  | .watchTask taskId watchId target maxDeliveries =>
    let watches ← registerWatch before.1.run before.2 taskId watchId target maxDeliveries
    return (reduction, watches)
  | _ => return (reduction, before.2)

/-- The loop over a list of operations, with the watches they register. -/
def applyWatchedOperations (stack generation : ℕ) (run : RunSnapshot) (watches : Table Watch.key)
    (operations : List Operation) : Except SdkError (Reduction × Table Watch.key) :=
  operations.foldlM (applyWatched stack generation) (⟨run, [], [], []⟩, watches)

/-! ### The steps -/

namespace Watching

/-- `sync_execution`: the Run of a registered execution takes over what the kernel reports. -/
def syncExecution (state : Watching) (executionId : Identifier) (snapshot : ExecutionSnapshot) :
    Except SdkError Watching := do
  let row ← present (state.executions.find? executionId)
    (.orchestration "execution was not registered through this SDK")
  check (snapshot.command.toDict.encode = row.command)
    (.orchestration "Kernel execution command does not match the accepted command")
  let run ← present (state.runs.find? row.runId) (.key row.runId.text)
  let next ← run.syncExecution row.taskId row.attempt snapshot
  return { state with runs := state.runs.put next }

inductive Step (digest : List String → String) (state : Watching) : Watching → Prop
  /-- The kernel appends an event. -/
  | record (log : EventLog) (event : ExecutionKernel.EventRow)
      (appended : log.rows = state.log.rows ++ [event]) : Step digest state { state with log }
  /-- A Run is created. -/
  | create (runId : Identifier) (input definition : Json) (fresh : state.runs.find? runId = none) :
      Step digest state { state with runs := state.runs.put (.create runId input definition) }
  /-- A list of operations is applied to a Run. -/
  | apply (run : RunSnapshot) (stored : state.runs.find? run.runId = some run) (stack : ℕ)
      (operations : List Operation) (applicationState : Option Json) (reduction : Reduction)
      (watches : Table Watch.key) (executions : Executions)
      (applied : applyWatchedOperations stack run.generation run state.watches operations =
        .ok (reduction, watches))
      (registered : registerExecutions reduction.run state.executions reduction.registrations =
        .ok executions) :
      Step digest state
        { state with
          runs := state.runs.put { reduction.run with
            applicationState := applicationState.getD reduction.run.applicationState
            revision := reduction.run.revision + 1 }
          executions, watches }
  /-- The projection of an execution is brought up to date. -/
  | sync (executionId : Identifier) (snapshot : ExecutionSnapshot) (next : Watching)
      (synced : state.syncExecution executionId snapshot = .ok next) : Step digest state next
  /-- A collector reads an open watch. -/
  | choose (watch : Watch) (member : watch ∈ state.watches) (pending : watch.completed = false) :
      Step digest state { state with collectors := .chosen watch :: state.collectors }
  /-- A collector reads a page of the log. -/
  | page (before after : List Collector) (watch : Watch) (limit : ℕ)
      (working : state.collectors = before ++ .chosen watch :: after) (positive : 1 ≤ limit) :
      Step digest state
        { state with
          collectors :=
            before ++ .paged watch (state.log.eventsSince watch.cursor limit) :: after }
  /-- The page is about other executions. -/
  | pass (before after : List Collector) (watch : Watch) (events : List ExecutionKernel.EventRow)
      (working : state.collectors = before ++ .paged watch events :: after)
      (foreign : ∀ event ∈ events, event.executionId ≠ watch.executionId) :
      Step digest state { state with collectors := before ++ .synced watch events :: after }
  /-- The page is about the execution, whose projection is brought up to date. -/
  | project (before after : List Collector) (watch : Watch)
      (events : List ExecutionKernel.EventRow) (snapshot : ExecutionSnapshot) (next : Watching)
      (working : state.collectors = before ++ .paged watch events :: after)
      (synced : state.syncExecution watch.executionId snapshot = .ok next) :
      Step digest state { next with collectors := before ++ .synced watch events :: after }
  /-- The page is committed. -/
  | commit (before after : List Collector) (watch : Watch)
      (events : List ExecutionKernel.EventRow) (now : Timestamp) (next : Watching)
      (working : state.collectors = before ++ .synced watch events :: after)
      (committed : state.commitPage digest watch events now = .ok next) :
      Step digest state { next with collectors := before ++ after }
  /-- A collector stops for good. -/
  | crash (before after : List Collector) (collector : Collector)
      (working : state.collectors = before ++ collector :: after) :
      Step digest state { state with collectors := before ++ after }

end Watching

/-- New stores, and every interleaving of the steps. -/
def watching (digest : List String → String) : TransitionSystem Watching where
  initial state := state.log.rows = [] ∧ state.runs = ∅ ∧ state.executions = ∅ ∧
    state.watches = ∅ ∧ state.notifications = ∅ ∧ state.collectors = []
  step := Watching.Step digest

end DispatcherSdk.Orchestrator
