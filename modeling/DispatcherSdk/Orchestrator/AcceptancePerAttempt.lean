/-
This file determines for which attempts at a task the application can record a decision.

A task keeps one decision, with the number of the attempt that it was made about, and tasks that
depend on it are queued only if that is the last attempt. Recording a decision, however, is
refused as soon as the task has one at all. So a task whose first attempt has been decided never
has a later attempt decided.
-/

import DispatcherSdk.Orchestrator.AdvancementRuns

namespace DispatcherSdk.Orchestrator

open Library Library.Checked Table Relation
open ExecutionKernel hiding ExecutionRow OutboxRow EventRow Operation

/-! ### Operations of the application -/

namespace ManagedGraph

variable {Digest : Type} [DecidableEq Digest]

/-- The command that an operation brings. -/
def broughtCommand : Operation → Option ExecutionCommand
  | .addTask _ command _ | .newAttempt _ command => some command
  | _ => none

/-- `apply_managed_operations`, for a command that is new. -/
def applyManagedOperations (managed : ManagedGraph Digest) (stack : ℕ) (executions : Executions)
    (commandId : Identifier) (expectedRevision expectedGeneration expectedControlEpoch : ℕ)
    (operations : List Operation) (applicationState : Option Json) :
    Except SdkError (ManagedGraph Digest × Executions) := do
  check (∀ operation ∈ operations, ∀ command ∈ broughtCommand operation,
      command.executionId.text.startsWith "sdk-managed:" = true ∧
        command.correlationId = managed.run.runId)
    (.orchestration "new managed command identity differs from Run")
  check (managed.control = ⟨.active, expectedControlEpoch, expectedGeneration⟩)
    (.revisionConflict "managed resume source or control changed")
  check (managed.run.revision = expectedRevision) (.revisionConflict "run revision changed")
  check (expectedGeneration = managed.run.generation) (.revisionConflict "run generation changed")
  let reduction ← applyOperations stack managed.run.generation managed.run operations
  let run := { reduction.run with
    applicationState := applicationState.getD reduction.run.applicationState }
  let executions ← registerExecutions run executions reduction.registrations
  return ({ managed with
    run := { run with revision := run.revision + 1 }
    outbox := managed.outbox ++
      queuedIntents commandId.text managed.run.generation reduction.intents }, executions)

end ManagedGraph

/-! ### Receipts and saved revisions -/

/-- A managed Run with the receipts of its decisions, which name revisions, and the revisions that
the history still has. -/
structure DecidedRun (Digest : Type) where
  managed : ManagedGraph Digest
  responses : Table (Prod.fst : Identifier × ℕ → Identifier)
  history : Table RunSnapshot.revision

namespace DecidedRun

variable {Digest : Type} [DecidableEq Digest] (digest : ManagedRequest → Digest) (stack : ℕ)
  (store : DecidedRun Digest)

/-- A call has been made, and the Run that it left is in the history. -/
def save (managed : ManagedGraph Digest) : DecidedRun Digest :=
  { store with managed, history := store.history.put managed.run }

def loadAt (revision : ℕ) : Except SdkError RunSnapshot :=
  present (store.history.find? revision)
    (.orchestration ("Run revision " ++ toString revision ++ " expired"))

/-- `record_managed_acceptance` with its answer. -/
def recordManagedAcceptance (taskId requestId : Identifier) (expectedRevision : ℕ)
    (accepted : Bool) (evidence : List (String × Json)) :
    Except SdkError (RunSnapshot × DecidedRun Digest) := do
  let managed ← store.managed.recordManagedAcceptance digest stack taskId requestId
    expectedRevision accepted evidence
  let known ← store.managed.replayed digest requestId (.acceptance taskId accepted (.object evidence))
  if known then
    let response ← present (store.responses.find? requestId) (.key "revision")
    let run ← store.loadAt response.2
    return (run, store)
  else
    return (managed.run, { store.save managed with
      responses := store.responses.put (requestId, managed.run.revision) })

end DecidedRun

inductive DecidedRun.Step {Digest : Type} [DecidableEq Digest] (digest : ManagedRequest → Digest)
    (store : DecidedRun Digest) : DecidedRun Digest → Prop
  | decide {stack : ℕ} {taskId requestId : Identifier} {expectedRevision : ℕ} {accepted : Bool}
      {evidence : List (String × Json)} {answer : RunSnapshot} {next : DecidedRun Digest}
      (passed : store.recordManagedAcceptance digest stack taskId requestId expectedRevision accepted
        evidence = .ok (answer, next)) : Step digest store next
  /-- Any other call on the Run. -/
  | call {stack : ℕ} {call : ManagedCall} {managed : ManagedGraph Digest}
      (other : ∀ taskId requestId expectedRevision accepted evidence,
        call ≠ .accept taskId requestId expectedRevision accepted evidence)
      (passed : ManagedCall.run digest stack store.managed call = .ok managed) :
      Step digest store (store.save managed)
  | operations {stack : ℕ} {executions after : Executions} {commandId : Identifier}
      {expectedRevision expectedGeneration expectedControlEpoch : ℕ} {operations : List Operation}
      {applicationState : Option Json} {managed : ManagedGraph Digest}
      (passed : store.managed.applyManagedOperations stack executions commandId expectedRevision
        expectedGeneration expectedControlEpoch operations applicationState = .ok (managed, after)) :
      Step digest store (store.save managed)
  /-- `_delivery_failed`, which saves a Run in which nothing has changed. -/
  | touch : Step digest store (store.save { store.managed with
      run := { store.managed.run with revision := store.managed.run.revision + 1 } })
  /-- Retention drops revisions, but never the current one. -/
  | expire (kept : RunSnapshot → Bool) (current : kept store.managed.run = true) :
      Step digest store { store with history := store.history.keep kept }

def decidedRuns {Digest : Type} [DecidableEq Digest] (digest : ManagedRequest → Digest) :
    TransitionSystem (DecidedRun Digest) where
  initial store := (∃ stack executions spec after,
    registerManagedRun stack executions spec = .ok (store.managed, after)) ∧
      store.responses = ∅ ∧ store.history = Table.put ∅ store.managed.run
  step := DecidedRun.Step digest

/-! ### Decisions stay as they are -/

/-- The decision that a task of a Run has. -/
def RunSnapshot.decisionOf (run : RunSnapshot) (taskId : Identifier) : Option ManagedAcceptance :=
  (run.tasks.find? taskId).bind RunTask.managedAcceptance

variable {run : RunSnapshot}

theorem decisionOf_setTask {before after : RunTask}
    (found : run.tasks.find? before.taskId = some before) (named : after.taskId = before.taskId)
    (same : after.managedAcceptance = before.managedAcceptance) (name : Identifier) :
    (run.setTask after).decisionOf name = run.decisionOf name := by
  unfold RunSnapshot.decisionOf RunSnapshot.setTask
  dsimp only
  rw [find?_put, named]
  by_cases own : name = before.taskId
  · rw [if_pos own, own, found]
    exact same
  · rw [if_neg own]

/-- The decisions and the revision of a Run are left alone. -/
structure Undecided (run next : RunSnapshot) : Prop where
  decisions : ∀ name, next.decisionOf name = run.decisionOf name
  revision : next.revision = run.revision

theorem Undecided.refl (run : RunSnapshot) : Undecided run run := ⟨fun _ => rfl, rfl⟩

variable {middle next : RunSnapshot} {stack : ℕ} {answer before : RunSnapshot × List Intent}
  {operations : List Operation} {taskId : Identifier} {Digest : Type}
  {after managed : ManagedGraph Digest} {digest : ManagedRequest → Digest} {executions : Executions}
  {store : DecidedRun Digest}

theorem Undecided.trans (early : Undecided run middle)
    (late : Undecided middle next) : Undecided run next :=
  ⟨fun name => (late.decisions name).trans (early.decisions name),
    late.revision.trans early.revision⟩

theorem Undecided.of_tasks (tasks : next.tasks = run.tasks)
    (revision : next.revision = run.revision) : Undecided run next := by
  refine ⟨fun name => ?_, revision⟩
  unfold RunSnapshot.decisionOf
  rw [tasks]

theorem Undecided.setTask {before after : RunTask}
    (found : run.tasks.find? before.taskId = some before) (named : after.taskId = before.taskId)
    (same : after.managedAcceptance = before.managedAcceptance) :
    Undecided run (run.setTask after) :=
  ⟨decisionOf_setTask found named same, rfl⟩

variable {operation : Operation}

theorem reduceOperation_undecided
    (accepted : reduceOperation stack run operation = .ok answer) : Undecided run answer.1 := by
  obtain ⟨next, intents⟩ := answer
  have writes : run.Writes operation next := reduceOperation_writes accepted
  cases writes with
  | @add taskId _ _ _ absent =>
    refine ⟨fun name => ?_, rfl⟩
    unfold RunSnapshot.decisionOf RunSnapshot.setTask
    dsimp only
    rw [find?_put]
    by_cases own : name = taskId
    · rw [if_pos own, own, absent]
      rfl
    · rw [if_neg own]
  | change found named decision => exact Undecided.setTask found named decision
  | finish => exact .of_tasks rfl rfl
  | other tasks _ revision => exact .of_tasks tasks revision

variable {generation : ℕ}

theorem recordOperation_undecided {before after : Reduction} {intents : List Intent}
    (recorded : recordOperation generation operation before run intents = .ok after) :
    Undecided run after.run := by
  unfold recordOperation at recorded
  dsimp only at recorded
  split at recorded
  · simp only [bind_eq_ok, present_eq_ok] at recorded
    obtain ⟨task, stored, recorded⟩ := recorded
    split at recorded
    · simp only [bind_eq_ok, present_eq_ok] at recorded
      obtain ⟨current, _, answered⟩ := recorded
      cases answered
      exact .setTask (find?_key (mem_of_find? stored)) rfl rfl
    · cases recorded
      exact .refl run
  · split at recorded <;> cases recorded <;> exact .refl run

theorem applyOperations_undecided {reduction : Reduction}
    (applied : applyOperations stack generation run operations = .ok reduction) :
    Undecided run reduction.run := by
  refine foldlM_keeps (fun reached : Reduction => Undecided run reached.run)
    (fun {before after operation} same applied => ?_) (.refl run) applied
  rcases applyOperation_reduced applied with rfl | ⟨answer, accepted, recorded⟩
  · exact same
  · exact same.trans
      ((reduceOperation_undecided accepted).trans (recordOperation_undecided recorded))

theorem syncExecution_undecided {index : ℕ}
    {snapshot : ExecutionSnapshot} (synced : run.syncExecution taskId index snapshot = .ok next) :
    (∀ name, next.decisionOf name = run.decisionOf name) ∧
      (next = run ∨ next.revision = run.revision + 1) := by
  unfold RunSnapshot.syncExecution at synced
  simp only [bind_eq_ok, present_eq_ok] at synced
  obtain ⟨task, stored, before, _, observed, _, synced⟩ := synced
  cases observed with
  | none =>
    cases synced
    exact ⟨fun _ => rfl, Or.inl rfl⟩
  | some current =>
    cases synced
    refine ⟨fun name => ?_, Or.inr rfl⟩
    refine decisionOf_setTask (find?_key (mem_of_find? stored)) ?_ ?_ name <;> rfl

/-! ### Runs with decisions -/

/-- Every decision is about an attempt that is over. -/
structure Judged (run : RunSnapshot) : Prop where
  graph : RunGraph run
  decided : ∀ task ∈ run.tasks, ∀ decision ∈ task.managedAcceptance, ∃ attempt,
    task.attempts[decision.attempt]? = some attempt ∧ attempt.state.terminal = true

theorem Judged.moves (judged : Judged run) (moves : ReflTransGen RunMove run next)
    (undecided : ∀ name, next.decisionOf name = run.decisionOf name) : Judged next := by
  refine ⟨judged.graph.moves moves, fun task stored decision made => ?_⟩
  have made : task.managedAcceptance = some decision := made
  have same := undecided task.taskId
  unfold RunSnapshot.decisionOf at same
  rw [find?_key stored, Option.bind_some, made] at same
  obtain ⟨earlier, found, before⟩ := Option.bind_eq_some_iff.mp same.symm
  obtain ⟨attempt, indexed, terminal⟩ := judged.decided earlier (mem_of_find? found) decision before
  obtain ⟨later, there, kept⟩ := judged.graph.tasksKept moves task.taskId earlier found
  rw [find?_key stored] at there
  cases there
  obtain ⟨present, still, keeps⟩ := kept.attempts decision.attempt attempt indexed
  rw [keeps.terminal terminal] at still
  exact ⟨attempt, still, terminal⟩

theorem Judged.touch (judged : Judged run) (tasks : next.tasks = run.tasks)
    (state : next.state = run.state) (waits : next.waits = run.waits) : Judged next := by
  refine judged.moves (.single (.kept tasks state fun _ => waits)) fun name => ?_
  unfold RunSnapshot.decisionOf
  rw [tasks]

variable {task : RunTask} {current : RunAttempt}

theorem Judged.decide (judged : Judged run) (stored : run.tasks.find? task.taskId = some task)
    (ends : task.attempts.getLast? = some current) (terminal : current.state.terminal = true)
    {decision : ManagedAcceptance} (about : decision.attempt = task.attempts.length - 1) :
    Judged (run.setTask { task with managedAcceptance := some decision }) := by
  have member := mem_of_find? stored
  have kept : TasksKept run.tasks
      (run.tasks.put { task with managedAcceptance := some decision }) := by
    refine tasksKept_setTask fun before found => ?_
    obtain rfl : task = before := Option.some.inj (stored.symm.trans found)
    exact ⟨fun _ attempt there => ⟨attempt, there, .refl attempt⟩, fun _ => rfl⟩
  have sound := (judged.graph.tasks task member).kept kept
  refine ⟨⟨?_, taskSound_setTask judged.graph.tasks kept
    ⟨sound.closed, sound.attempted, sound.settled, sound.recorded, sound.sound⟩, fun past => ?_⟩,
    fun other inside made already => ?_⟩
  · have same : DependsOn (run.setTask { task with managedAcceptance := some decision }).tasks =
        DependsOn run.tasks := dependsOn_setTask stored rfl
    rw [same]
    exact judged.graph.acyclic
  · obtain ⟨settled, released⟩ := judged.graph.finished past
    refine ⟨fun other inside => ?_, released⟩
    rcases mem_put.mp inside with rfl | ⟨old, _⟩
    · exact settled task member
    · exact settled other old
  · rcases mem_put.mp inside with rfl | ⟨old, _⟩
    · obtain rfl : decision = made := Option.some.inj already
      refine ⟨current, ?_, terminal⟩
      rw [about]
      exact getElem?_of_getLast? ends
    · exact judged.decided other old made already

/-! ### Queueing never fails -/

theorem mapM_answers {Item Value Failure : Type} {function : Item → Except Failure Value}
    {items : List Item} (answers : ∀ item ∈ items, ∃ value, function item = .ok value) :
    ∃ values, items.mapM function = .ok values := by
  induction items with
  | nil => exact ⟨[], rfl⟩
  | cons item rest hypothesis =>
    obtain ⟨⟨value, first⟩, others⟩ := List.forall_mem_cons.mp answers
    obtain ⟨values, rest⟩ := hypothesis others
    refine ⟨value :: values, ?_⟩
    rw [List.mapM_cons]
    exact bind_eq_ok.mpr ⟨value, first, bind_eq_ok.mpr ⟨values, rest, rfl⟩⟩

theorem currentAttempt_answers (stored : run.tasks.find? task.taskId = some task)
    (ends : task.attempts.getLast? = some current) :
    currentAttempt run task.taskId = .ok (task, current) :=
  bind_eq_ok.mpr ⟨task, present_eq_ok.mpr stored,
    bind_eq_ok.mpr ⟨current, present_eq_ok.mpr ends, rfl⟩⟩

theorem dependenciesAccepted_answers {tasks : Table RunTask.taskId} {dependencies : List Identifier}
    (closed : ∀ dependency ∈ dependencies, ∃ other, tasks.find? dependency = some other) :
    ∃ answer, dependenciesAccepted tasks dependencies = .ok answer := by
  induction dependencies with
  | nil => exact ⟨true, rfl⟩
  | cons dependency rest hypothesis =>
    obtain ⟨⟨task, found⟩, others⟩ := List.forall_mem_cons.mp closed
    obtain ⟨answer, passed⟩ := hypothesis others
    unfold dependenciesAccepted
    by_cases accepted : task.accepted = true
    · exact ⟨answer, bind_eq_ok.mpr ⟨task, present_eq_ok.mpr found, by rw [if_pos accepted]; exact passed⟩⟩
    · exact ⟨false, bind_eq_ok.mpr ⟨task, present_eq_ok.mpr found, by rw [if_neg accepted]; rfl⟩⟩

theorem RunGraph.last (graph : RunGraph run) (stored : task ∈ run.tasks) :
    ∃ current, task.attempts.getLast? = some current := by
  have some := (graph.tasks task stored).attempted
  exact ⟨task.attempts.getLast some, List.getLast?_eq_some_getLast some⟩

theorem Judged.accepted (judged : Judged run) (accepted : Accepted run.tasks taskId) :
    ∃ answer, settledDependency run.tasks taskId = .ok answer := by
  obtain ⟨task, found, accepted⟩ := accepted
  obtain ⟨decision, made, agrees⟩ := (Option.any_eq_true _ _).mp accepted
  rw [Bool.and_eq_true, decide_eq_true_eq] at agrees
  obtain ⟨attempt, indexed, terminal⟩ := judged.decided task (mem_of_find? found) decision made
  rw [agrees.2, ← List.getLast?_eq_getElem?] at indexed
  exact ⟨_, bind_eq_ok.mpr ⟨task, present_eq_ok.mpr found, bind_eq_ok.mpr ⟨attempt,
    present_eq_ok.mpr indexed, bind_eq_ok.mpr ⟨(), check_eq_ok.mpr terminal, rfl⟩⟩⟩⟩

theorem Judged.dispatch (judged : Judged run) (stack : ℕ)
    (stored : run.tasks.find? task.taskId = some task)
    (ends : task.attempts.getLast? = some current) (planned : current.state = .planned)
    (clear : ∀ dependency ∈ task.dependencies, Accepted run.tasks dependency) :
    ∃ answer, reduceOperation stack run (.dispatch task.taskId) = .ok answer := by
  have running : run.state = .running := by
    by_contra past
    obtain ⟨last, final, terminal⟩ := (judged.graph.finished past).1 task (mem_of_find? stored)
    rw [ends] at final
    cases final
    rw [planned] at terminal
    cases terminal
  obtain ⟨settled, passed⟩ := mapM_answers fun dependency member =>
    judged.accepted (clear dependency member)
  exact ⟨_, bind_eq_ok.mpr ⟨(), check_eq_ok.mpr running, bind_eq_ok.mpr ⟨(task, current),
    currentAttempt_answers stored ends, bind_eq_ok.mpr ⟨(), check_eq_ok.mpr planned,
      bind_eq_ok.mpr ⟨settled, passed, rfl⟩⟩⟩⟩⟩

/-- What the loop comes to: a Run with the decisions and the tasks that it had. -/
structure Queued (run next : RunSnapshot) : Prop extends Undecided run next where
  moves : ReflTransGen RunMove run next

theorem Queued.refl (run : RunSnapshot) : Queued run run := ⟨.refl run, .refl⟩

theorem Judged.queued (judged : Judged run) (queued : Queued run next) : Judged next :=
  judged.moves queued.moves queued.decisions

theorem Queued.trans (early : Queued run middle) (late : Queued middle next) : Queued run next :=
  ⟨early.toUndecided.trans late.toUndecided, early.moves.trans late.moves⟩

theorem Judged.dispatchAcceptedTask (judged : Judged before.1)
    (stack : ℕ) (known : ∃ task, before.1.tasks.find? taskId = some task) :
    ∃ after, Orchestrator.dispatchAcceptedTask stack before taskId = .ok after ∧
      Queued before.1 after.1 := by
  obtain ⟨task, found⟩ := known
  obtain rfl := key_of_find? found
  obtain ⟨current, ends⟩ := judged.graph.last (mem_of_find? found)
  have looked := currentAttempt_answers found ends
  unfold Orchestrator.dispatchAcceptedTask
  by_cases skipped : current.state ≠ .planned ∨ task.dependencies = []
  · exact ⟨before, bind_eq_ok.mpr ⟨_, looked, by dsimp only; rw [if_pos skipped]; rfl⟩,
      .refl _⟩
  obtain ⟨eligible, decided⟩ := dependenciesAccepted_answers
    (judged.graph.tasks task (mem_of_find? found)).closed
  cases eligible with
  | false =>
    refine ⟨before, bind_eq_ok.mpr ⟨_, looked, ?_⟩, .refl _⟩
    dsimp only
    rw [if_neg skipped]
    exact bind_eq_ok.mpr ⟨false, decided, rfl⟩
  | true =>
    rw [not_or, not_not] at skipped
    obtain ⟨answer, reduced⟩ := judged.dispatch stack found ends skipped.1
      ((dependenciesAccepted_iff decided).mp rfl)
    have undecided := reduceOperation_undecided reduced
    refine ⟨(answer.1, before.2 ++ answer.2), bind_eq_ok.mpr ⟨_, looked, ?_⟩,
      undecided, .single (reduceOperation_moves reduced).1⟩
    dsimp only
    rw [if_neg (by rw [not_or, not_not]; exact skipped)]
    exact bind_eq_ok.mpr ⟨true, decided, bind_eq_ok.mpr ⟨answer, reduced, rfl⟩⟩

theorem Judged.dispatchAcceptedTasks (judged : Judged run) (stack : ℕ) :
    ∃ answer, Orchestrator.dispatchAcceptedTasks stack run = .ok answer ∧ Queued run answer.1 := by
  have loop : ∀ (names : List Identifier) (before : RunSnapshot × List Intent),
      Judged before.1 → (∀ name ∈ names, ∃ task, before.1.tasks.find? name = some task) →
        ∃ answer, names.foldlM (Orchestrator.dispatchAcceptedTask stack) before = .ok answer ∧
          Queued before.1 answer.1 := by
    intro names
    induction names with
    | nil => exact fun before _ _ => ⟨before, rfl, .refl _⟩
    | cons name rest hypothesis =>
      intro before held known
      obtain ⟨first, others⟩ := List.forall_mem_cons.mp known
      obtain ⟨middle, step, queued⟩ := held.dispatchAcceptedTask stack first
      obtain ⟨answer, passed, more⟩ := hypothesis middle (held.queued queued)
        fun other member => by
          obtain ⟨task, found⟩ := others other member
          obtain ⟨later, there, _⟩ := held.graph.tasksKept queued.moves other task found
          exact ⟨later, there⟩
      refine ⟨answer, ?_, queued.trans more⟩
      rw [List.foldlM_cons]
      exact bind_eq_ok.mpr ⟨middle, step, passed⟩
  refine loop _ (run, []) judged fun name member => ?_
  obtain ⟨task, stored, rfl⟩ := List.mem_map.mp member
  exact ⟨task, find?_key stored⟩

theorem Judged.dispatched (judged : Judged run)
    (passed : Orchestrator.dispatchAcceptedTasks stack run = .ok answer) : Queued run answer.1 := by
  obtain ⟨other, same, queued⟩ := judged.dispatchAcceptedTasks stack
  rw [passed] at same
  cases same
  exact queued

/-! ### What a call leaves -/

/-- What a call on a managed Run leaves of it and of its receipts. -/
structure ManagedGraph.Follows {Digest : Type} (managed after : ManagedGraph Digest) : Prop where
  judged : Judged managed.run → Judged after.run
  commands : managed.commands <+: after.commands
  revision : after.run = managed.run ∨ managed.run.revision < after.run.revision

namespace ManagedGraph

theorem Follows.of_run (run : after.run = managed.run)
    (commands : managed.commands <+: after.commands) : managed.Follows after :=
  ⟨fun judged => run.symm ▸ judged, commands, Or.inl run⟩

theorem syncExecution_follows {index : ℕ} {snapshot : ExecutionSnapshot}
    (passed : managed.syncExecution taskId index snapshot = .ok after) : managed.Follows after := by
  unfold syncExecution at passed
  simp only [bind_eq_ok] at passed
  obtain ⟨run, synced, answered⟩ := passed
  cases answered
  obtain ⟨undecided, revision⟩ := syncExecution_undecided synced
  refine ⟨fun judged => judged.moves (syncExecution_moves synced) undecided, List.prefix_rfl,
    revision.imp id fun more => ?_⟩
  show managed.run.revision < run.revision
  omega

theorem installCrossStoreProjection_follows {operationId : Identifier}
    (passed : managed.installCrossStoreProjection operationId = .ok after) :
    managed.Follows after := by
  unfold installCrossStoreProjection at passed
  simp only [bind_eq_ok, present_eq_ok] at passed
  obtain ⟨decision, _, passed⟩ := passed
  split at passed
  · cases passed
    exact .of_run rfl List.prefix_rfl
  · simp only [passes_iff] at passed
    obtain ⟨_, answered⟩ := passed
    cases answered
    exact ⟨fun judged => judged.touch rfl rfl rfl, List.prefix_rfl, Or.inr (Nat.lt_succ_self _)⟩

variable [DecidableEq Digest]

theorem requestResume_follows {requestId : Identifier} {expectedRevision expectedEpoch : ℕ}
    (judged : Judged managed.run)
    (passed : managed.requestResume digest stack requestId expectedRevision expectedEpoch =
      .ok after) : managed.Follows after := by
  unfold requestResume at passed
  simp only [bind_eq_ok] at passed
  obtain ⟨known, _, passed⟩ := passed
  split at passed
  · cases passed
    exact .of_run rfl List.prefix_rfl
  · simp only [passes_iff] at passed
    obtain ⟨_, _, _, ⟨run, intents⟩, dispatched, answered⟩ := passed
    have queued := judged.dispatched dispatched
    cases answered
    refine ⟨fun _ => ?_, List.prefix_append _ _, ?_⟩
    · dsimp only
      split
      · exact judged
      · exact (judged.queued queued).touch rfl rfl rfl
    · dsimp only
      split
      · exact .inl rfl
      · refine Or.inr ?_
        have same : run.revision = managed.run.revision := queued.revision
        show managed.run.revision < run.revision + 1
        omega

end ManagedGraph

theorem ManagedCall.follows [DecidableEq Digest] {call : ManagedCall} (judged : Judged managed.run)
    (other : ∀ taskId requestId expectedRevision accepted evidence,
      call ≠ .accept taskId requestId expectedRevision accepted evidence)
    (passed : ManagedCall.run digest stack managed call = .ok after) : managed.Follows after := by
  cases call with
  | accept taskId requestId expectedRevision accepted evidence => exact absurd rfl (other _ _ _ _ _)
  | sync taskId index snapshot => exact ManagedGraph.syncExecution_follows passed
  | resume requestId expectedRevision expectedEpoch =>
    exact ManagedGraph.requestResume_follows judged passed
  | installProjection operationId => exact ManagedGraph.installCrossStoreProjection_follows passed
  | pause requestId expectedRevision expectedEpoch mode drain =>
    simp only [ManagedCall.run, ManagedGraph.requestPause, bind_eq_ok, check_eq_ok,
      exists_const] at passed
    obtain ⟨_, _, known, _, passed⟩ := passed
    split at passed
    · cases passed
      exact .of_run rfl List.prefix_rfl
    · simp only [passes_iff] at passed
      obtain ⟨_, _, _, _, answered⟩ := passed
      cases answered
      exact .of_run rfl (List.prefix_append _ _)
  | settle expectedEpoch =>
    simp only [ManagedCall.run, ManagedGraph.settleManagedPause] at passed
    split at passed
    · cases passed
      exact .of_run rfl List.prefix_rfl
    · simp only [passes_iff] at passed
      obtain ⟨_, _, answered⟩ := passed
      cases answered
      exact .of_run rfl List.prefix_rfl
  | crossStorePause operationId expectedRevision expectedEpoch =>
    simp only [ManagedCall.run, ManagedGraph.beginCrossStorePause, bind_eq_ok, check_eq_ok,
      exists_const] at passed
    obtain ⟨_, _, _, _, answered⟩ := passed
    cases answered
    exact .of_run rfl List.prefix_rfl
  | prepare operationId =>
    simp only [ManagedCall.run, ManagedGraph.prepareCrossStorePause, bind_eq_ok, check_eq_ok,
      present_eq_ok, exists_const] at passed
    obtain ⟨operation, _, _, answered⟩ := passed
    cases answered
    exact .of_run rfl List.prefix_rfl
  | finalize operationId =>
    simp only [ManagedCall.run, ManagedGraph.finalizeCrossStorePause, bind_eq_ok,
      check_eq_ok, present_eq_ok, exists_const] at passed
    obtain ⟨operation, _, _, passed⟩ := passed
    split at passed
    · cases passed
      exact .of_run rfl List.prefix_rfl
    · simp only [passes_iff] at passed
      obtain ⟨_, answered⟩ := passed
      cases answered
      exact .of_run rfl List.prefix_rfl
  | commitRevision operationId expectedRevision expectedEpoch expectedGeneration target =>
    simp only [ManagedCall.run, ManagedGraph.commitCrossStoreRevision, bind_eq_ok,
      check_eq_ok, present_eq_ok, exists_const] at passed
    obtain ⟨operation, _, _, _, _, answered⟩ := passed
    cases answered
    exact .of_run rfl List.prefix_rfl
  | crossStoreResume operationId =>
    simp only [ManagedCall.run, ManagedGraph.resumeCrossStoreRevision, bind_eq_ok,
      check_eq_ok, present_eq_ok, exists_const] at passed
    obtain ⟨decision, _, _, _, answered⟩ := passed
    cases answered
    exact .of_run rfl List.prefix_rfl

theorem ManagedGraph.applyManagedOperations_follows [DecidableEq Digest] {registered : Executions}
    {commandId : Identifier} {expectedRevision expectedGeneration expectedControlEpoch : ℕ}
    {applicationState : Option Json}
    (passed : managed.applyManagedOperations stack executions commandId expectedRevision
      expectedGeneration expectedControlEpoch operations applicationState =
        .ok (after, registered)) : managed.Follows after := by
  unfold applyManagedOperations at passed
  simp only [passes_iff] at passed
  obtain ⟨_, _, _, _, reduction, applied, _, _, answered⟩ := passed
  cases answered
  have undecided := applyOperations_undecided applied
  refine ⟨fun judged => ?_, List.prefix_rfl, Or.inr ?_⟩
  · exact (judged.moves (applyOperations_moves applied) undecided.decisions).touch rfl rfl rfl
  · have same := undecided.revision
    show managed.run.revision < reduction.run.revision + 1
    omega

/-! ### Registration -/

variable {item : ManagedTask}

theorem addManagedTask_judged
    {before after : RunSnapshot × List (Identifier × ℕ × RunAttempt)} (judged : Judged before.1)
    (passed : addManagedTask stack before item = .ok after) : Judged after.1 := by
  unfold addManagedTask at passed
  simp only [bind_eq_ok, present_eq_ok] at passed
  obtain ⟨answer, reduced, task, _, first, _, answered⟩ := passed
  cases answered
  exact judged.moves (.single (reduceOperation_moves reduced).1)
    (reduceOperation_undecided reduced).decisions

theorem dispatchRoot_judged {after : RunSnapshot × List Intent}
    (judged : Judged before.1) (passed : dispatchRoot stack before item = .ok after) :
    Judged after.1 := by
  unfold dispatchRoot at passed
  split at passed
  · simp only [bind_eq_ok] at passed
    obtain ⟨answer, reduced, answered⟩ := passed
    cases answered
    exact judged.moves (.single (reduceOperation_moves reduced).1)
      (reduceOperation_undecided reduced).decisions
  · cases passed
    exact judged

theorem registerManagedRun_judged {after : Executions} {spec : ManagedSpec}
    (passed : registerManagedRun stack executions spec = .ok (managed, after)) :
    Judged managed.run := by
  unfold registerManagedRun at passed
  simp only [passes_iff] at passed
  obtain ⟨_, _, _, commands, _, added, adds, _, _, dispatched, dispatches, answered⟩ := passed
  cases answered
  have created : Judged (.create spec.runId spec.input spec.definition) :=
    ⟨.create _ _ _, by rintro _ ⟨⟩⟩
  have tasks : Judged added.1 := foldlM_keeps (fun reached => Judged reached.1)
    (fun {before after item} judged step => addManagedTask_judged judged step) created adds
  exact foldlM_keeps (fun reached => Judged reached.1)
    (fun {before after item} judged step => dispatchRoot_judged judged step) tasks dispatches

/-! ### Decisions -/

namespace ManagedGraph

variable {Digest : Type} {digest : ManagedRequest → Digest} {stack : ℕ}
  {managed after : ManagedGraph Digest} {taskId requestId : Identifier} {expectedRevision : ℕ}
  {accepted : Bool} {evidence : List (String × Json)}

/-- What a decision about the current attempt at a task says. -/
def decisionFor (task : RunTask) (current : RunAttempt) (accepted : Bool)
    (evidence : List (String × Json)) : ManagedAcceptance where
  attempt := task.attempts.length - 1
  generation := current.generation.getD 0
  accepted
  evidence := .object evidence

structure Decides (managed after : ManagedGraph Digest) (digest : ManagedRequest → Digest)
    (taskId requestId : Identifier) (accepted : Bool) (evidence : List (String × Json)) :
    Prop where
  judged : Judged after.run
  revision : after.run.revision = managed.run.revision + 1
  commands : after.commands = managed.commands ++
    [(requestId, digest (.acceptance taskId accepted (.object evidence)))]
  recorded : ∃ task current, managed.run.tasks.find? taskId = some task ∧
    task.attempts.getLast? = some current ∧
    after.run.decisionOf taskId = some (decisionFor task current accepted evidence)

theorem actOnDecision_decides {task : RunTask} {current : RunAttempt} (judged : Judged managed.run)
    (found : managed.run.tasks.find? taskId = some task)
    (ends : task.attempts.getLast? = some current) (terminal : current.state.terminal = true) :
    let decided := managed.run.setTask
      { task with managedAcceptance := some (decisionFor task current accepted evidence) }
    (∃ answer, managed.actOnDecision stack accepted decided = .ok answer) ∧
      ∀ answer, managed.actOnDecision stack accepted decided = .ok answer →
        Judged answer.1 ∧ answer.1.revision = managed.run.revision ∧
          answer.1.decisionOf taskId = some (decisionFor task current accepted evidence) := by
  intro decided
  have named : task.taskId = taskId := key_of_find? found
  have sound : Judged decided := judged.decide (named ▸ found) ends terminal rfl
  have here : decided.decisionOf taskId = some (decisionFor task current accepted evidence) := by
    show ((managed.run.tasks.put _).find? taskId).bind _ = _
    rw [← named, find?_put_same]
    rfl
  unfold actOnDecision
  split
  · obtain ⟨answer, passed, queued⟩ := sound.dispatchAcceptedTasks stack
    refine ⟨⟨answer, passed⟩, fun other same => ?_⟩
    rw [passed] at same
    cases same
    exact ⟨sound.queued queued, queued.revision, (queued.decisions taskId).trans here⟩
  · refine ⟨⟨_, rfl⟩, fun other same => ?_⟩
    cases same
    exact ⟨sound, rfl, here⟩

variable [DecidableEq Digest]

/-- A call that answers has found its receipt, or records a decision about an attempt that is over,
at a task without one. -/
theorem recordManagedAcceptance_decides (judged : Judged managed.run)
    (passed : managed.recordManagedAcceptance digest stack taskId requestId expectedRevision accepted
      evidence = .ok after) :
    evidence ≠ [] ∧
    (managed.replayed digest requestId (.acceptance taskId accepted (.object evidence)) = .ok true ∧
        after = managed ∨
      managed.replayed digest requestId (.acceptance taskId accepted (.object evidence)) =
          .ok false ∧
        (∀ task, managed.run.tasks.find? taskId = some task → task.managedAcceptance = none) ∧
        managed.Decides after digest taskId requestId accepted evidence) := by
  unfold recordManagedAcceptance at passed
  simp only [passes_iff] at passed
  obtain ⟨some, known, replays, passed⟩ := passed
  refine ⟨some, ?_⟩
  split at passed
  · rename_i known
    cases passed
    exact .inl ⟨known ▸ replays, rfl⟩
  · rename_i unknown
    rw [Bool.not_eq_true] at unknown
    simp only [passes_iff] at passed
    obtain ⟨_, task, found, current, ends, terminal, undecided, ⟨run, intents⟩, acted, answered⟩ :=
      passed
    cases answered
    obtain ⟨sound, revision, here⟩ := (actOnDecision_decides judged found ends terminal).2 _ acted
    refine Or.inr ⟨unknown ▸ replays, fun other there => ?_, ⟨sound.touch rfl rfl rfl, ?_, rfl, task,
      current, found, ends, here⟩⟩
    · rw [found] at there
      cases there
      exact Option.isNone_iff_eq_none.mp undecided
    · exact congrArg (· + 1) revision

theorem recordManagedAcceptance_answers (judged : Judged managed.run)
    (found : managed.run.tasks.find? taskId = some task)
    (ends : task.attempts.getLast? = some current) (terminal : current.state.terminal = true)
    (undecided : task.managedAcceptance = none) (some : evidence ≠ [])
    (unused : managed.replayed digest requestId (.acceptance taskId accepted (.object evidence)) =
      .ok false) :
    ∃ after, managed.recordManagedAcceptance digest stack taskId requestId managed.run.revision
      accepted evidence = .ok after := by
  obtain ⟨⟨answer, acted⟩, _⟩ := @actOnDecision_decides Digest stack managed taskId accepted
    evidence task current judged found ends terminal
  unfold recordManagedAcceptance
  refine ⟨_, bind_eq_ok.mpr ⟨(), check_eq_ok.mpr some, bind_eq_ok.mpr ⟨false, unused,
    bind_eq_ok.mpr ⟨(), check_eq_ok.mpr rfl, bind_eq_ok.mpr ⟨task,
      present_eq_ok.mpr found, bind_eq_ok.mpr ⟨current, present_eq_ok.mpr ends,
        bind_eq_ok.mpr ⟨(), check_eq_ok.mpr terminal, bind_eq_ok.mpr ⟨(),
          check_eq_ok.mpr (Option.isNone_iff_eq_none.mpr undecided),
          bind_eq_ok.mpr ⟨answer, acted, rfl⟩⟩⟩⟩⟩⟩⟩⟩⟩

end ManagedGraph

/-! ### Every order of steps -/

namespace DecidedRun

variable {next last : DecidedRun Digest} {requestId : Identifier} {expectedRevision : ℕ}
  {accepted : Bool} {evidence : List (String × Json)} {answer : RunSnapshot}

/-- What holds of a managed Run with its receipts at any time. -/
structure Sound (store : DecidedRun Digest) : Prop where
  judged : Judged store.managed.run
  current : store.history.find? store.managed.run.revision = some store.managed.run
  past : ∀ run ∈ store.history, run.revision ≤ store.managed.run.revision
  receipts : ∀ response ∈ store.responses, response.2 ≤ store.managed.run.revision ∧
    ∃ receipt ∈ store.managed.commands, receipt.1 = response.1

/-- What a step keeps of the receipts and of the history. -/
structure Keeps (store next : DecidedRun Digest) : Prop where
  revision : store.managed.run.revision ≤ next.managed.run.revision
  commands : store.managed.commands <+: next.managed.commands
  responses : ∀ name response, store.responses.find? name = some response →
    next.responses.find? name = some response
  history : ∀ revision run, next.history.find? revision = some run →
    revision ≤ store.managed.run.revision → store.history.find? revision = some run

theorem Keeps.refl (store : DecidedRun Digest) : store.Keeps store :=
  ⟨le_refl _, List.prefix_rfl, fun _ _ => id, fun _ _ found _ => found⟩

theorem Keeps.trans (early : store.Keeps next) (late : next.Keeps last) : store.Keeps last :=
  ⟨early.revision.trans late.revision, early.commands.trans late.commands,
    fun name response found => late.responses name response (early.responses name response found),
    fun revision run found before => early.history revision run
      (late.history revision run found (before.trans early.revision)) before⟩

theorem Sound.save (sound : store.Sound) (follows : store.managed.Follows managed) :
    (store.save managed).Sound ∧ store.Keeps (store.save managed) := by
  have newer : store.managed.run.revision ≤ managed.run.revision := by
    rcases follows.revision with same | more
    · rw [same]
    · exact more.le
  refine ⟨⟨follows.judged sound.judged, find?_put_same _ _, fun run member => ?_,
    fun response member => ?_⟩, newer, follows.commands, fun _ _ found => found,
    fun revision run found before => ?_⟩
  · rcases mem_put.mp member with rfl | ⟨old, _⟩
    · exact le_refl _
    · exact (sound.past run old).trans newer
  · obtain ⟨dated, receipt, known, same⟩ := sound.receipts response member
    exact ⟨dated.trans newer, receipt, follows.commands.subset known, same⟩
  · have found : (store.history.put managed.run).find? revision = some run := found
    rcases follows.revision with same | more
    · rw [same, find?_put] at found
      split at found
      · rename_i here
        rw [here, sound.current]
        exact found
      · exact found
    · rw [find?_put_other _ (by omega)] at found
      exact found

theorem Sound.unanswered (sound : store.Sound)
    (unused : store.managed.commands.find? (fun receipt => receipt.1 = requestId) = none) :
    store.responses.find? requestId = none := by
  cases found : store.responses.find? requestId with
  | none => rfl
  | some response =>
    obtain ⟨_, receipt, known, same⟩ := sound.receipts response (mem_of_find? found)
    have none := List.find?_eq_none.mp unused receipt known
    rw [same, key_of_find? found] at none
    exact absurd (decide_eq_true rfl) none

variable [DecidableEq Digest]

theorem replayed_false {request : ManagedRequest}
    (passed : store.managed.replayed digest requestId request = .ok false) :
    store.managed.commands.find? (fun receipt => receipt.1 = requestId) = none := by
  unfold ManagedGraph.replayed at passed
  split at passed
  · rename_i unused
    exact unused
  · simp only [passes_iff] at passed
    obtain ⟨_, answered⟩ := passed
    cases answered

theorem recordManagedAcceptance_cases (sound : store.Sound)
    (passed : store.recordManagedAcceptance digest stack taskId requestId expectedRevision accepted
      evidence = .ok (answer, next)) :
    evidence ≠ [] ∧
    (store.managed.replayed digest requestId (.acceptance taskId accepted (.object evidence)) =
        .ok true ∧ next = store ∧ (∃ response, store.responses.find? requestId = some response ∧
          store.history.find? response.2 = some answer) ∨
      (∀ task, store.managed.run.tasks.find? taskId = some task → task.managedAcceptance = none) ∧
        store.managed.commands.find? (fun receipt => receipt.1 = requestId) = none ∧
        store.managed.Decides next.managed digest taskId requestId accepted evidence ∧
        answer = next.managed.run ∧ next = { store.save next.managed with
          responses := store.responses.put (requestId, next.managed.run.revision) }) := by
  unfold recordManagedAcceptance at passed
  simp only [bind_eq_ok] at passed
  obtain ⟨managed, recorded, known, replays, passed⟩ := passed
  obtain ⟨some, ⟨replay, _⟩ | ⟨fresh, undecided, decides⟩⟩ :=
    ManagedGraph.recordManagedAcceptance_decides sound.judged recorded
  · rw [replay] at replays
    cases replays
    rw [if_pos rfl] at passed
    unfold loadAt at passed
    simp only [bind_eq_ok, present_eq_ok] at passed
    obtain ⟨response, found, run, there, answered⟩ := passed
    cases answered
    exact ⟨some, Or.inl ⟨replay, rfl, response, found, there⟩⟩
  · rw [fresh] at replays
    cases replays
    rw [if_neg Bool.false_ne_true] at passed
    cases passed
    exact ⟨some, Or.inr ⟨undecided, replayed_false fresh, decides, rfl, rfl⟩⟩

theorem Sound.record (sound : store.Sound)
    (passed : store.recordManagedAcceptance digest stack taskId requestId expectedRevision accepted
      evidence = .ok (answer, next)) : next.Sound ∧ store.Keeps next := by
  obtain ⟨_, ⟨_, rfl, _⟩ | ⟨_, unused, decides, _, same⟩⟩ :=
    recordManagedAcceptance_cases sound passed
  · exact ⟨sound, .refl _⟩
  have revision := decides.revision
  have follows : store.managed.Follows next.managed :=
    ⟨fun _ => decides.judged, decides.commands ▸ List.prefix_append _ _, Or.inr (by omega)⟩
  obtain ⟨saved, keeps⟩ := sound.save follows
  have unanswered := sound.unanswered unused
  rw [same]
  refine ⟨⟨saved.judged, saved.current, saved.past, fun response member => ?_⟩, keeps.revision,
    keeps.commands, fun name response found => ?_, keeps.history⟩
  · rcases mem_put.mp member with rfl | ⟨old, _⟩
    · refine ⟨le_refl _, (requestId, digest (.acceptance taskId accepted (.object evidence))), ?_,
        rfl⟩
      show _ ∈ next.managed.commands
      rw [decides.commands]
      exact List.mem_append_right _ (List.mem_singleton_self _)
    · exact saved.receipts response old
  · refine (find?_put_other _ fun same => ?_).trans found
    rw [same, unanswered] at found
    cases found

theorem Step.keeps (sound : store.Sound) (step : DecidedRun.Step digest store next) :
    next.Sound ∧ store.Keeps next := by
  cases step with
  | decide passed => exact sound.record passed
  | call other passed => exact sound.save (ManagedCall.follows sound.judged other passed)
  | operations passed => exact sound.save (ManagedGraph.applyManagedOperations_follows passed)
  | touch =>
    exact sound.save ⟨fun judged => judged.touch rfl rfl rfl, List.prefix_rfl,
      Or.inr (Nat.lt_succ_self _)⟩
  | expire kept current =>
    have old : ∀ revision run, (store.history.keep kept).find? revision = some run →
        store.history.find? revision = some run := fun revision run found => by
      rw [← key_of_find? found]
      exact find?_key (mem_keep.mp (mem_of_find? found)).1
    refine ⟨⟨sound.judged, ?_, fun run member => sound.past run (mem_keep.mp member).1,
      sound.receipts⟩, le_refl _, List.prefix_rfl, fun _ _ found => found,
      fun revision run found _ => old revision run found⟩
    exact find?_key (mem_keep.mpr ⟨mem_of_find? sound.current, current⟩)

end DecidedRun

theorem decidedRuns_sound [DecidableEq Digest] (reachable : (decidedRuns digest).Reachable store) :
    store.Sound := by
  refine reachable.invariant DecidedRun.Sound ?_ fun _ _ _ sound step => (step.keeps sound).1
  rintro first ⟨⟨stack, executions, spec, after, registered⟩, responses, history⟩
  refine ⟨registerManagedRun_judged registered, ?_, fun run member => ?_, ?_⟩
  · rw [history]
    exact find?_put_same _ _
  · rw [history] at member
    rcases mem_put.mp member with rfl | ⟨old, _⟩
    · exact le_refl _
    · cases old
  · rw [responses]
    exact nofun

/-! ### What a decision comes to -/

/-- The last attempt at a task is over, and the decision that the task has is about an earlier
one. -/
def RunTask.Superseded (task : RunTask) : Prop :=
  (∃ current, task.attempts.getLast? = some current ∧ current.state.terminal = true) ∧
    ∃ decision ∈ task.managedAcceptance, decision.attempt ≠ task.attempts.length - 1

namespace DecidedRun

variable [DecidableEq Digest] (digest : ManagedRequest → Digest) (store : DecidedRun Digest)

/-- No request has been recorded under the identity. -/
def Unused (requestId : Identifier) : Prop :=
  store.managed.commands.find? (fun receipt => receipt.1 = requestId) = none

/-- A decision about the last attempt at a task is recorded if the attempt is over and has none. -/
def Accepts (task : RunTask) (requestId : Identifier) : Prop :=
  ∀ current, task.attempts.getLast? = some current → current.state.terminal = true →
    (∀ decision ∈ task.managedAcceptance, decision.attempt ≠ task.attempts.length - 1) →
    ∀ stack accepted evidence, evidence ≠ [] → ∃ next : DecidedRun Digest,
      store.recordManagedAcceptance digest stack task.taskId requestId store.managed.run.revision
        accepted evidence = .ok (next.managed.run, next) ∧
      next.managed.run.decisionOf task.taskId =
        some (ManagedGraph.decisionFor task current accepted evidence)

/-- Once the last attempt at a task has a decision, there is no second one. -/
def Rejects (task : RunTask) : Prop :=
  (∃ decision ∈ task.managedAcceptance, decision.attempt = task.attempts.length - 1) →
    ∀ stack requestId expectedRevision accepted evidence, store.managed.replayed digest requestId
        (.acceptance task.taskId accepted (.object evidence)) ≠ .ok true →
      ∃ failure, store.recordManagedAcceptance digest stack task.taskId requestId expectedRevision
        accepted evidence = .error failure

/-- A call that was answered is answered in the same way later on, while its revision is kept, and
in no other way. -/
def Replays : Prop :=
  ∀ stack taskId requestId expectedRevision accepted evidence answer next,
    store.recordManagedAcceptance digest stack taskId requestId expectedRevision accepted evidence =
      .ok (answer, next) →
    ∀ last, (decidedRuns digest).Run next last → ∀ stack expectedRevision,
      ((last.history.find? answer.revision).isSome →
        last.recordManagedAcceptance digest stack taskId requestId expectedRevision accepted
          evidence = .ok (answer, last)) ∧
      ∀ other after, last.recordManagedAcceptance digest stack taskId requestId expectedRevision
        accepted evidence = .ok (other, after) → other = answer ∧ after = last

variable {digest store} {next last : DecidedRun Digest} {requestId : Identifier}
  {expectedRevision : ℕ} {accepted : Bool} {evidence : List (String × Json)} {answer : RunSnapshot}

variable {request : ManagedRequest}

theorem replayed_true :
    managed.replayed digest requestId request = .ok true ↔
      ∃ receipt, managed.commands.find? (fun receipt => receipt.1 = requestId) = some receipt ∧
        receipt.2 = digest request := by
  unfold ManagedGraph.replayed
  cases managed.commands.find? fun receipt => receipt.1 = requestId with
  | none => exact ⟨by rintro ⟨⟩, by rintro ⟨_, ⟨⟩, _⟩⟩
  | some receipt =>
    simp only [passes_iff]
    refine ⟨fun passed => ⟨receipt, rfl, passed.1⟩, ?_⟩
    rintro ⟨_, ⟨⟩, agrees⟩
    exact ⟨agrees, rfl⟩

/-- The call has a receipt, which names the revision that was answered. -/
structure Answered (store : DecidedRun Digest) (digest : ManagedRequest → Digest)
    (requestId : Identifier) (request : ManagedRequest) (answer : RunSnapshot) : Prop where
  replays : store.managed.replayed digest requestId request = .ok true
  response : store.responses.find? requestId = some (requestId, answer.revision)
  dated : answer.revision ≤ store.managed.run.revision
  only : ∀ run, store.history.find? answer.revision = some run → run = answer

theorem Sound.answered (sound : store.Sound)
    (passed : store.recordManagedAcceptance digest stack taskId requestId expectedRevision accepted
      evidence = .ok (answer, next)) :
    next.Answered digest requestId (.acceptance taskId accepted (.object evidence)) answer := by
  obtain ⟨_, ⟨replay, rfl, ⟨name, revision⟩, found, there⟩ | ⟨_, unused, decides, rfl, same⟩⟩ :=
    recordManagedAcceptance_cases sound passed
  · have named : name = requestId := key_of_find? found
    have dated : answer.revision = revision := key_of_find? there
    subst named dated
    exact ⟨replay, found, (sound.receipts _ (mem_of_find? found)).1, fun run again =>
      Option.some.inj (again.symm.trans there)⟩
  · rw [same]
    refine ⟨replayed_true.mpr ⟨(requestId, digest (.acceptance taskId accepted (.object evidence))),
      ?_, rfl⟩, find?_put_same _ _, le_refl _, fun run found => ?_⟩
    · show next.managed.commands.find? _ = some
        (requestId, digest (.acceptance taskId accepted (.object evidence)))
      rw [decides.commands, List.find?_append, unused, Option.none_or]
      refine List.find?_cons_of_pos ?_
      exact decide_eq_true (rfl : requestId = requestId)
    · exact Option.some.inj (found.symm.trans (find?_put_same _ _))

theorem Answered.keeps
    (answered : store.Answered digest requestId request answer) (keeps : store.Keeps last) :
    last.Answered digest requestId request answer := by
  obtain ⟨receipt, known, agrees⟩ := replayed_true.mp answered.replays
  refine ⟨replayed_true.mpr ⟨receipt, ?_, agrees⟩, keeps.responses _ _ answered.response,
    answered.dated.trans keeps.revision, fun run found =>
      answered.only run (keeps.history _ run found answered.dated)⟩
  obtain ⟨more, same⟩ := keeps.commands
  rw [← same, List.find?_append, known]
  rfl

theorem Answered.replay
    (answered : store.Answered digest requestId (.acceptance taskId accepted (.object evidence))
      answer) (some : evidence ≠ []) (stack expectedRevision : ℕ)
    (kept : (store.history.find? answer.revision).isSome) :
    store.recordManagedAcceptance digest stack taskId requestId expectedRevision accepted evidence =
      .ok (answer, store) := by
  obtain ⟨run, found⟩ := Option.isSome_iff_exists.mp kept
  obtain rfl := answered.only run found
  refine bind_eq_ok.mpr ⟨store.managed, bind_eq_ok.mpr ⟨(), check_eq_ok.mpr some,
    bind_eq_ok.mpr ⟨true, answered.replays, rfl⟩⟩, bind_eq_ok.mpr ⟨true,
      answered.replays, ?_⟩⟩
  rw [if_pos rfl]
  exact bind_eq_ok.mpr ⟨_, present_eq_ok.mpr answered.response,
    bind_eq_ok.mpr ⟨run, present_eq_ok.mpr found, rfl⟩⟩

end DecidedRun

section Decisions

variable {Digest : Type} [DecidableEq Digest] {digest : ManagedRequest → Digest}
  {store : DecidedRun Digest}

theorem decidedRuns_replay (reachable : (decidedRuns digest).Reachable store) :
    store.Replays digest := by
  intro stack taskId requestId expectedRevision accepted evidence answer next passed last run stack'
    expectedRevision'
  have sound := decidedRuns_sound reachable
  have some := (DecidedRun.recordManagedAcceptance_cases sound passed).1
  have answered := sound.answered passed
  have later : next.Keeps last :=
    (reachable.next (.decide passed)).respects DecidedRun.Keeps .refl .trans
      (fun _ _ there step => (DecidedRun.Step.keeps (decidedRuns_sound there) step).2) run
  have lasting := answered.keeps later
  refine ⟨lasting.replay some stack' expectedRevision', fun other after again => ?_⟩
  have reached := (reachable.next (.decide passed)).run run
  obtain ⟨_, ⟨_, rfl, response, found, there⟩ | ⟨_, unused, _⟩⟩ :=
    DecidedRun.recordManagedAcceptance_cases (decidedRuns_sound reached) again
  · rw [lasting.response] at found
    cases found
    exact ⟨lasting.only other there, rfl⟩
  · obtain ⟨receipt, known, _⟩ := DecidedRun.replayed_true.mp lasting.replays
    rw [unused] at known
    cases known

theorem DecidedRun.Sound.rejects (sound : store.Sound)
    (stored : task ∈ store.managed.run.tasks) : store.Rejects digest task := by
  rintro ⟨decision, made, _⟩ stack requestId expectedRevision accepted evidence unrecorded
  cases passed : store.recordManagedAcceptance digest stack task.taskId requestId expectedRevision
      accepted evidence with
  | error failure => exact ⟨failure, rfl⟩
  | ok outcome =>
    obtain ⟨_, ⟨replay, _⟩ | ⟨undecided, _⟩⟩ := DecidedRun.recordManagedAcceptance_cases sound passed
    · exact absurd replay unrecorded
    · rw [undecided task (find?_key stored)] at made
      cases made

theorem DecidedRun.Sound.accepts_iff (sound : store.Sound)
    (stored : task ∈ store.managed.run.tasks) {requestId : Identifier}
    (unused : store.Unused requestId) :
    store.Accepts digest task requestId ↔ ¬ task.Superseded := by
  have fresh : ∀ request, store.managed.replayed digest requestId request = .ok false := by
    intro request
    unfold ManagedGraph.replayed
    rw [show store.managed.commands.find? (fun receipt => receipt.1 = requestId) = none from unused]
  constructor
  · rintro accepts ⟨⟨current, ends, terminal⟩, decision, made, earlier⟩
    obtain ⟨next, passed, _⟩ := accepts current ends terminal (fun other same => by
      obtain rfl := Option.some.inj (made.symm.trans same)
      exact earlier) 0 true [("note", .null)] (List.cons_ne_nil _ _)
    obtain ⟨_, ⟨replay, _⟩ | ⟨undecided, _⟩⟩ := DecidedRun.recordManagedAcceptance_cases sound passed
    · rw [fresh] at replay
      cases replay
    · rw [undecided task (find?_key stored)] at made
      cases made
  · intro current' current ends terminal open_ stack accepted evidence some
    have undecided : task.managedAcceptance = none := by
      cases made : task.managedAcceptance with
      | none => rfl
      | some decision =>
        exact absurd ⟨⟨current, ends, terminal⟩, decision, made, open_ decision made⟩ current'
    obtain ⟨after, recorded⟩ : ∃ after, store.managed.recordManagedAcceptance digest stack
        task.taskId requestId store.managed.run.revision accepted evidence = .ok after :=
      ManagedGraph.recordManagedAcceptance_answers sound.judged (find?_key stored) ends terminal
        undecided some (fresh _)
    let next : DecidedRun Digest := { store.save after with
      responses := store.responses.put (requestId, after.run.revision) }
    have passed : store.recordManagedAcceptance digest stack task.taskId requestId
        store.managed.run.revision accepted evidence = .ok (after.run, next) :=
      bind_eq_ok.mpr ⟨after, recorded, bind_eq_ok.mpr ⟨false, fresh _, rfl⟩⟩
    refine ⟨next, passed, ?_⟩
    obtain ⟨_, ⟨replay, _⟩ | ⟨_, _, decides, _⟩⟩ :=
      DecidedRun.recordManagedAcceptance_cases sound passed
    · rw [fresh] at replay
      cases replay
    · obtain ⟨other, last, found, final, recorded⟩ := decides.recorded
      obtain rfl := Option.some.inj ((find?_key stored).symm.trans found)
      obtain rfl := Option.some.inj (ends.symm.trans final)
      exact recorded

/-- A decision about an ended attempt is recorded unless an earlier attempt has one; a second one
never is, and a replay answers the same. -/
theorem decidedRuns_judge (reachable : (decidedRuns digest).Reachable store) :
    (∀ task ∈ store.managed.run.tasks, ∀ requestId, store.Unused requestId →
      (store.Accepts digest task requestId ↔ ¬ task.Superseded)) ∧
    (∀ task ∈ store.managed.run.tasks, store.Rejects digest task) ∧ store.Replays digest :=
  ⟨fun _ stored _ unused => (decidedRuns_sound reachable).accepts_iff stored unused,
    fun _ stored => (decidedRuns_sound reachable).rejects stored, decidedRuns_replay reachable⟩

end Decisions

/-! ### A second attempt -/

/-- Calls that are no decisions, one after the other. -/
def DecidedRun.calls {Digest : Type} [DecidableEq Digest] (digest : ManagedRequest → Digest)
    (store : DecidedRun Digest) (calls : List ManagedCall) : Except SdkError (DecidedRun Digest) :=
  calls.foldlM (fun store call => do
    let managed ← ManagedCall.run digest 100 store.managed call
    return store.save managed) store

theorem DecidedRun.run_calls [DecidableEq Digest]
    {after : DecidedRun Digest} {calls : List ManagedCall}
    (others : ∀ taskId requestId expectedRevision accepted evidence,
      .accept taskId requestId expectedRevision accepted evidence ∉ calls)
    (passed : store.calls digest calls = .ok after) : (decidedRuns digest).Run store after := by
  induction calls generalizing store with
  | nil =>
    cases passed
    exact .refl
  | cons call rest hypothesis =>
    unfold DecidedRun.calls at passed
    simp only [List.foldlM_cons, bind_eq_ok] at passed
    obtain ⟨next, ⟨managed, first, answered⟩, passed⟩ := passed
    cases answered
    refine .head (.call (fun taskId requestId expectedRevision accepted evidence same => ?_) first)
      (hypothesis (fun taskId requestId expectedRevision accepted evidence member => ?_)
        passed)
    · exact others taskId requestId expectedRevision accepted evidence (same ▸ List.mem_cons_self)
    · exact others taskId requestId expectedRevision accepted evidence
        (List.mem_cons_of_mem _ member)

def sampleAgain : ExecutionCommand :=
  { sampleFirst with
    executionId := ⟨"sdk-managed:again", by decide⟩, idempotencyKey := ⟨"again", by decide⟩ }

def sampleSecondReport : ExecutionSnapshot where
  executionId := sampleAgain.executionId
  state := .failed
  revision := 4
  attempt := 1
  fence := 1
  redeliveryCount := 0
  command := sampleAgain
  lease := none
  result := some
    { resultId := sampleName, executionId := sampleAgain.executionId, status := .failed
      attempt := 1, fence := 1, effectIds := [], startedAt := 0, completedAt := 0
      correlationId := sampleName, causationId := none, value := .null
      error := some ⟨sampleName, "failed", false, []⟩, accepted := by rfl }
  recoveryEffectId := none
  recoveryTargetState := none
  recoveryReason := none
  nextAttemptAt := 0
  startedAt := some 0
  createdAt := 0
  updatedAt := 0
  accepted := by rfl

/-- The first task fails and is rejected, the Run is paused and resumed, and a second attempt is
added, queued and reported. -/
def sampleSuperseded : Except SdkError (DecidedRun Json.Text) := do
  let (managed, executions) ← sampleRegistered
  let first : Identifier := ⟨"first", sampleFirst_filled⟩
  let failed ← DecidedRun.calls sampleRequestText ⟨managed, ∅, Table.put ∅ managed.run⟩
    [.resume ⟨"go", sampleGo_filled⟩ 0 0, .sync first 0 sampleReport]
  let (_, decided) ← failed.recordManagedAcceptance sampleRequestText 100 first ⟨"no", by decide⟩ 1
    false [("seen", .bool true)]
  let resumed ← DecidedRun.calls sampleRequestText decided
    [.crossStorePause samplePause 2 1, .prepare samplePause, .finalize samplePause,
      .commitRevision samplePause 2 3 0 .null, .installProjection samplePause,
      .crossStoreResume samplePause]
  let (again, _) ← resumed.managed.applyManagedOperations 100 executions ⟨"retry", by decide⟩ 3 1 5
    [.newAttempt first sampleAgain, .dispatch first] none
  DecidedRun.calls sampleRequestText (resumed.save again) [.sync first 1 sampleSecondReport]

theorem sampleSuperseded_reachable {store : DecidedRun Json.Text}
    (played : sampleSuperseded = .ok store) : (decidedRuns sampleRequestText).Reachable store := by
  unfold sampleSuperseded at played
  simp only [bind_eq_ok, Prod.exists] at played
  obtain ⟨managed, executions, registered, failed, fails, answer, decided, decides, resumed, resumes,
    again, after, adds, reports⟩ := played
  have started : (decidedRuns sampleRequestText).Reachable
      ⟨managed, ∅, Table.put ∅ managed.run⟩ := .start ⟨⟨100, ∅, sampleSpec, executions, registered⟩, rfl,
    rfl⟩
  have failing := started.run (DecidedRun.run_calls (by simp) fails)
  have resuming := (failing.next (.decide decides)).run (DecidedRun.run_calls (by simp) resumes)
  exact (resuming.next (.operations adds)).run (DecidedRun.run_calls (by simp) reports)

/-- The second attempt at a task whose first attempt was rejected cannot be decided. -/
theorem second_attempt_undecidable : ¬ ∀ store, (decidedRuns sampleRequestText).Reachable store →
    ∀ task ∈ store.managed.run.tasks, ∀ requestId, store.Unused requestId →
      store.Accepts sampleRequestText task requestId := by
  intro accepts
  have outcome : sampleSuperseded.toOption.map (fun store =>
      (store.managed.run.tasks.rows.any fun task =>
        (task.attempts.getLast?.any fun current => current.state.terminal) &&
          task.managedAcceptance.any fun decision =>
            decide (decision.attempt ≠ task.attempts.length - 1)) &&
      (store.managed.commands.find? fun receipt => receipt.1 = sampleName).isNone) = some true := by
    decide +kernel
  cases played : sampleSuperseded with
  | error failure =>
    rw [played] at outcome
    cases outcome
  | ok store =>
    rw [played] at outcome
    obtain ⟨superseded, unused⟩ := (Bool.and_eq_true _ _).mp (Option.some.inj outcome)
    obtain ⟨task, stored, both⟩ := List.any_eq_true.mp superseded
    obtain ⟨finished, decided⟩ := (Bool.and_eq_true _ _).mp both
    obtain ⟨current, ends, terminal⟩ := (Option.any_eq_true _ _).mp finished
    obtain ⟨decision, made, earlier⟩ := (Option.any_eq_true _ _).mp decided
    have reachable := sampleSuperseded_reachable played
    have fresh : store.Unused sampleName := Option.isNone_iff_eq_none.mp unused
    refine (((decidedRuns_sound reachable).accepts_iff (mem_rows.mpr stored) fresh).mp
      (accepts store reachable task (mem_rows.mpr stored) sampleName fresh)) ?_
    exact ⟨⟨current, ends, terminal⟩, decision, made, of_decide_eq_true earlier⟩

/-- The sample Run as it is registered. -/
theorem decidedRuns_judge_sample : ∃ store, (decidedRuns sampleRequestText).Reachable store ∧
    store.managed.run.tasks.rows ≠ [] ∧
    (∀ task ∈ store.managed.run.tasks, ∀ requestId, store.Unused requestId →
      (store.Accepts sampleRequestText task requestId ↔ ¬ task.Superseded)) ∧
    (∀ task ∈ store.managed.run.tasks, store.Rejects sampleRequestText task) ∧
    store.Replays sampleRequestText := by
  have outcome : (sampleSuperseded.toOption.map fun store => store.managed.run.tasks.rows.isEmpty) =
      some false := by
    decide +kernel
  cases played : sampleSuperseded with
  | error failure =>
    rw [played] at outcome
    cases outcome
  | ok store =>
    rw [played] at outcome
    have reachable := sampleSuperseded_reachable played
    refine ⟨store, reachable, fun none => ?_, decidedRuns_judge reachable⟩
    have some : store.managed.run.tasks.rows.isEmpty = false := Option.some.inj outcome
    rw [none] at some
    cases some

end DispatcherSdk.Orchestrator
