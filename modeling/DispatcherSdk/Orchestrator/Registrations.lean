/-
This file models how a transaction registers the executions of the attempts that it adds,
and proves that every attempt of a Run stays registered as what it is.

An attempt is given its command when it is added and keeps it. The registration binds the
execution of the command to one attempt of one Run, for good.
-/

import DispatcherSdk.Content.RoundTrip
import DispatcherSdk.ExecutionKernel.Reachable

namespace DispatcherSdk.Orchestrator

open Library Library.Checked ExecutionKernel Relation List

/-! ### The graph -/

/-- One task names another as its dependency. -/
def DependsOn (tasks : Table RunTask.taskId) (dependent dependency : Identifier) : Prop :=
  ∃ task, tasks.find? dependent = some task ∧ dependency ∈ task.dependencies

variable {tasks : Table RunTask.taskId}

theorem dependsOn_iff_edge {first second : Identifier} :
    DependsOn tasks first second ↔ DepthFirst.Edge (dependenciesOf tasks) first second := by
  unfold DependsOn DepthFirst.Edge dependenciesOf
  simp only [Option.map_eq_some_iff]
  constructor
  · rintro ⟨task, found, member⟩
    exact ⟨task.dependencies, ⟨task, found, rfl⟩, member⟩
  · rintro ⟨_, ⟨task, found, rfl⟩, member⟩
    exact ⟨task, found, member⟩

theorem dependsOn_eq_edge (tasks : Table RunTask.taskId) :
    DependsOn tasks = DepthFirst.Edge (dependenciesOf tasks) := by
  funext first second
  exact propext dependsOn_iff_edge

/-- The record an attempt keeps of its dependencies: each of them once, in order, with the index of
an attempt that is over. -/
def Recorded (tasks : Table RunTask.taskId) (dependencies : List Identifier)
    (attempt : RunAttempt) : Prop :=
  ∃ record, attempt.dependencyAttempts = some record ∧ record.map Prod.fst = dependencies ∧
    ∀ entry ∈ record, ∃ task past, tasks.find? entry.1 = some task ∧
      task.attempts[entry.2]? = some past ∧ past.state.terminal = true

structure AttemptSound (attempt : RunAttempt) : Prop where
  undispatched : attempt.state = .planned → attempt.dispatched = false
  reported : attempt.dispatched = true → attempt.state.terminal = true →
    attempt.kernelRevision ≠ 0

/-- What holds of one task among the tasks of its Run. -/
structure TaskSound (tasks : Table RunTask.taskId) (task : RunTask) : Prop where
  /-- Every dependency is an existing task. -/
  closed : ∀ dependency ∈ task.dependencies, ∃ other, tasks.find? dependency = some other
  attempted : task.attempts ≠ []
  /-- Every attempt except the last is over. -/
  settled : ∀ attempt ∈ task.attempts.dropLast, attempt.state.terminal = true
  recorded : ∀ attempt ∈ task.attempts, attempt.dispatched = true →
    Recorded tasks task.dependencies attempt
  sound : ∀ attempt ∈ task.attempts, AttemptSound attempt

def Settled (task : RunTask) : Prop :=
  ∃ last, task.attempts.getLast? = some last ∧ last.state.terminal = true

structure RunGraph (run : RunSnapshot) : Prop where
  acyclic : Acyclic (DependsOn run.tasks)
  tasks : ∀ task ∈ run.tasks, TaskSound run.tasks task
  finished : run.state ≠ .running →
    (∀ task ∈ run.tasks, Settled task) ∧ ∀ wait ∈ run.waits, wait.isOpen = false

/-! ### What never changes again -/

structure AttemptKept (before after : RunAttempt) : Prop where
  terminal : before.state.terminal = true → after = before
  left : before.state ≠ .planned → after.state ≠ .planned
  record : before.dispatched = true →
    after.dispatched = true ∧ after.dependencyAttempts = before.dependencyAttempts

/-- The first attempt at a task has left its plan. -/
def LeftPlan (task : RunTask) : Prop :=
  ∃ first, task.attempts.head? = some first ∧ first.state ≠ .planned

structure TaskKept (before after : RunTask) : Prop where
  attempts : ∀ (index : ℕ) attempt, before.attempts[index]? = some attempt →
    ∃ later, after.attempts[index]? = some later ∧ AttemptKept attempt later
  dependencies : LeftPlan before → after.dependencies = before.dependencies

def TasksKept (before after : Table RunTask.taskId) : Prop :=
  ∀ name task, before.find? name = some task →
    ∃ later, after.find? name = some later ∧ TaskKept task later

theorem AttemptKept.refl (attempt : RunAttempt) : AttemptKept attempt attempt :=
  ⟨fun _ => rfl, id, fun dispatched => ⟨dispatched, rfl⟩⟩

theorem AttemptKept.trans {first second third : RunAttempt} (early : AttemptKept first second)
    (late : AttemptKept second third) : AttemptKept first third := by
  refine ⟨fun terminal => ?_, fun left => late.left (early.left left), fun dispatched => ?_⟩
  · have same := early.terminal terminal
    rw [← same] at terminal
    exact (late.terminal terminal).trans same
  · obtain ⟨still, same⟩ := early.record dispatched
    obtain ⟨ultimately, equal⟩ := late.record still
    exact ⟨ultimately, equal.trans same⟩

theorem TaskKept.leftPlan {before after : RunTask} (kept : TaskKept before after)
    (left : LeftPlan before) : LeftPlan after := by
  obtain ⟨first, head, planned⟩ := left
  rw [List.head?_eq_getElem?] at head
  obtain ⟨later, found, attempt⟩ := kept.attempts 0 first head
  refine ⟨later, ?_, attempt.left planned⟩
  rw [List.head?_eq_getElem?]
  exact found

theorem TaskKept.refl (task : RunTask) : TaskKept task task :=
  ⟨fun _ attempt found => ⟨attempt, found, .refl attempt⟩, fun _ => rfl⟩

theorem TaskKept.trans {first second third : RunTask} (early : TaskKept first second)
    (late : TaskKept second third) : TaskKept first third := by
  refine ⟨fun index attempt found => ?_, fun left => ?_⟩
  · obtain ⟨middle, between, kept⟩ := early.attempts index attempt found
    obtain ⟨last, ultimately, after⟩ := late.attempts index middle between
    exact ⟨last, ultimately, kept.trans after⟩
  · exact (late.dependencies (early.leftPlan left)).trans (early.dependencies left)

theorem TasksKept.refl (tasks : Table RunTask.taskId) : TasksKept tasks tasks :=
  fun _ task found => ⟨task, found, .refl task⟩

theorem TasksKept.trans {first second third : Table RunTask.taskId}
    (early : TasksKept first second) (late : TasksKept second third) : TasksKept first third := by
  intro name task found
  obtain ⟨middle, between, kept⟩ := early name task found
  obtain ⟨last, ultimately, after⟩ := late name middle between
  exact ⟨last, ultimately, kept.trans after⟩

variable {dependencies : List Identifier}

theorem Recorded.kept {before after : Table RunTask.taskId} {attempt : RunAttempt}
    (recorded : Recorded before dependencies attempt) (kept : TasksKept before after) :
    Recorded after dependencies attempt := by
  obtain ⟨record, stored, names, settled⟩ := recorded
  refine ⟨record, stored, names, fun entry member => ?_⟩
  obtain ⟨task, past, found, indexed, terminal⟩ := settled entry member
  obtain ⟨later, present, keptTask⟩ := kept entry.1 task found
  obtain ⟨same, indexedLater, keptAttempt⟩ := keptTask.attempts entry.2 past indexed
  rw [keptAttempt.terminal terminal] at indexedLater
  exact ⟨later, past, present, indexedLater, terminal⟩

variable {task : RunTask}

theorem TaskSound.kept {before after : Table RunTask.taskId} (sound : TaskSound before task)
    (kept : TasksKept before after) : TaskSound after task := by
  refine { sound with
    closed := fun dependency member => ?_
    recorded := fun attempt member dispatched =>
      (sound.recorded attempt member dispatched).kept kept }
  obtain ⟨other, found⟩ := sound.closed dependency member
  obtain ⟨later, present, _⟩ := kept dependency other found
  exact ⟨later, present⟩

/-! ### The check for cycles -/

/-- What `_dependencies` has checked about the dependencies of a task. -/
structure Drawn (tasks : Table RunTask.taskId) (taskId : Identifier)
    (dependencies : List Identifier) : Prop where
  closed : ∀ dependency ∈ dependencies, ∃ other, tasks.find? dependency = some other
  safe : ∀ dependency ∈ dependencies, ¬ ReflTransGen (DependsOn tasks) dependency taskId

variable {taskId : Identifier}

variable {stack : ℕ}

variable {values : List Identifier}

theorem closesCycle_false (checked : closesCycle stack tasks taskId values = .ok false) :
    ∀ value ∈ values, ¬ ReflTransGen (DependsOn tasks) value taskId := by
  rw [dependsOn_eq_edge]
  induction values with
  | nil => exact fun value member => nomatch member
  | cons value rest hypothesis =>
    unfold closesCycle at checked
    split at checked
    · cases checked
    · cases checked
    · cases checked
    · rename_i searched
      intro other member
      rcases mem_cons.mp member with rfl | later
      · exact DepthFirst.reaches_complete searched
      · exact hypothesis checked other later

theorem namedTask_found {text : String} {name : Identifier}
    (named : namedTask tasks text = some name) : ∃ task, tasks.find? name = some task := by
  unfold namedTask at named
  obtain ⟨looked, _, found⟩ := Option.bind_eq_some_iff.mp named
  obtain ⟨task, stored, rfl⟩ := Option.map_eq_some_iff.mp found
  exact ⟨task, Table.find?_key (Table.find?_eq_some_iff.mp stored).1⟩

theorem checkDependencies_drawn {values : Json} {names : List Identifier}
    (checked : checkDependencies stack tasks taskId values = .ok names) :
    Drawn tasks taskId names := by
  unfold checkDependencies at checked
  simp only [passes_iff] at checked
  obtain ⟨texts, _, _, found, named, cycle, searched, acyclic, answered⟩ := checked
  cases answered
  rw [acyclic] at searched
  refine ⟨fun dependency member => ?_, closesCycle_false searched⟩
  obtain ⟨index, inside, rfl⟩ := getElem_of_mem member
  have all := mapM_eq_some.mp named
  have bound : index < texts.length := by
    rw [all.length_eq]
    exact inside
  exact namedTask_found ((forall₂_iff_get.mp all).2 index bound inside)

/-- On a Run whose dependencies are closed the check is exact on every stack that has more frames
than the Run has tasks. -/
theorem closesCycle_decides (sound : ∀ task ∈ tasks, TaskSound tasks task)
    (known : ∀ value ∈ values, ∃ task, tasks.find? value = some task)
    (deep : tasks.rows.length < stack) :
    ∃ cycle, closesCycle stack tasks taskId values = .ok cycle ∧
      (cycle = true ↔ ∃ value ∈ values, ReflTransGen (DependsOn tasks) value taskId) := by
  let vertices := (tasks.rows.map RunTask.taskId).toFinset
  have mem_vertices : ∀ name, name ∈ vertices ↔ ∃ task, tasks.find? name = some task := by
    intro name
    simp only [vertices, mem_toFinset, mem_map, Table.find?_eq_some_iff]
    exact Iff.rfl
  have closed : DepthFirst.Closed (dependenciesOf tasks) taskId vertices := by
    intro vertex member _
    obtain ⟨task, found⟩ := (mem_vertices vertex).mp member
    refine ⟨task.dependencies, by rw [dependenciesOf, found]; rfl, fun next drawn => Or.inr ?_⟩
    exact (mem_vertices next).mpr ((sound task (Table.find?_eq_some_iff.mp found).1).closed next drawn)
  have few : vertices.card < stack := by
    refine lt_of_le_of_lt ((toFinset_card_le _).trans ?_) deep
    rw [length_map]
  rw [dependsOn_eq_edge]
  induction values with
  | nil =>
    refine ⟨false, rfl, ?_, ?_⟩
    · rintro ⟨⟩
    · rintro ⟨_, none, _⟩
      cases none
  | cons value rest hypothesis =>
    obtain ⟨cycle, searched, decided⟩ := hypothesis fun other member =>
      known other (mem_cons_of_mem value member)
    obtain ⟨found, visited, outcome, _⟩ := (DepthFirst.reaches_answers closed
      (.inr ((mem_vertices value).mpr (known value mem_cons_self))) nodup_nil
      (by rintro _ ⟨⟩) few).answered
    unfold closesCycle
    rw [outcome]
    cases found with
    | true =>
      exact ⟨true, rfl, fun _ => ⟨value, mem_cons_self, DepthFirst.reaches_sound outcome⟩,
        fun _ => rfl⟩
    | false =>
      refine ⟨cycle, searched, fun holds => ?_, ?_⟩
      · obtain ⟨other, member, path⟩ := decided.mp holds
        exact ⟨other, mem_cons_of_mem value member, path⟩
      · rintro ⟨other, member, path⟩
        rcases mem_cons.mp member with rfl | later
        · exact absurd path (DepthFirst.reaches_complete outcome)
        · exact decided.mpr ⟨other, later, path⟩

/-! ### What an operation does -/

def RunTask.setAttempt (task : RunTask) (index : ℕ) (attempt : RunAttempt) : RunTask :=
  { task with attempts := task.attempts.set index attempt }

theorem setCurrent_eq {last : RunAttempt} (ends : task.attempts.getLast? = some last)
    (current : RunAttempt) :
    task.setCurrent current = task.setAttempt (task.attempts.length - 1) current := by
  have parts := dropLast_append_getLast? last ends
  unfold RunTask.setCurrent RunTask.setAttempt
  congr 1
  conv_rhs => rw [← parts]
  rw [length_append, length_singleton, Nat.add_sub_cancel, set_append_right _ _ le_rfl,
    Nat.sub_self, set_cons_zero]

theorem getElem?_of_getLast? {last : RunAttempt} (ends : task.attempts.getLast? = some last) :
    task.attempts[task.attempts.length - 1]? = some last := by
  rw [← List.getLast?_eq_getElem?]
  exact ends

/-- One attempt of a stored task changes. -/
structure AttemptMove (tasks : Table RunTask.taskId) (task : RunTask) (index : ℕ)
    (before after : RunAttempt) : Prop where
  stored : tasks.find? task.taskId = some task
  found : task.attempts[index]? = some before
  kept : AttemptSound before → AttemptKept before after
  sound : AttemptSound before → AttemptSound after
  recorded : after.dispatched = true →
    before.dispatched = true ∨ Recorded tasks task.dependencies after

/-- The ways in which a Run changes, each with what has been checked about it. -/
inductive RunMove (run : RunSnapshot) : RunSnapshot → Prop where
  | added {task : RunTask} {first : RunAttempt} (running : run.state = .running)
      (fresh : run.tasks.find? task.taskId = none) (single : task.attempts = [first])
      (planned : first.state = .planned) (undispatched : first.dispatched = false)
      (drawn : Drawn run.tasks task.taskId task.dependencies) : RunMove run (run.setTask task)
  | redrawn {task : RunTask} {first : RunAttempt} {dependencies : List Identifier}
      (running : run.state = .running) (stored : run.tasks.find? task.taskId = some task)
      (single : task.attempts = [first]) (planned : first.state = .planned)
      (drawn : Drawn run.tasks task.taskId dependencies) :
      RunMove run (run.setTask { task with dependencies })
  | retried {task : RunTask} {last next : RunAttempt} (running : run.state = .running)
      (stored : run.tasks.find? task.taskId = some task)
      (ends : task.attempts.getLast? = some last) (terminal : last.state.terminal = true)
      (planned : next.state = .planned) (undispatched : next.dispatched = false) :
      RunMove run (run.setTask { task with attempts := task.attempts ++ [next] })
  | changed {task : RunTask} {index : ℕ} {before after : RunAttempt}
      (move : AttemptMove run.tasks task index before after) :
      RunMove run (run.setTask (task.setAttempt index after))
  | kept {next : RunSnapshot} (tasks : next.tasks = run.tasks) (state : next.state = run.state)
      (waits : run.state ≠ .running → next.waits = run.waits) : RunMove run next
  | finished {state : RunState} (running : run.state = .running)
      (settled : ∀ task ∈ run.tasks, Settled task)
      (released : ∀ wait ∈ run.waits, wait.isOpen = false) : RunMove run { run with state }

variable {run : RunSnapshot}

theorem currentAttempt_found {found : RunTask × RunAttempt}
    (looked : currentAttempt run taskId = .ok found) :
    run.tasks.find? taskId = some found.1 ∧ run.tasks.find? found.1.taskId = some found.1 ∧
      found.1.attempts.getLast? = some found.2 := by
  unfold currentAttempt at looked
  simp only [bind_eq_ok, present_eq_ok] at looked
  obtain ⟨task, stored, current, ends, answered⟩ := looked
  cases answered
  exact ⟨stored, Table.find?_key (Table.find?_eq_some_iff.mp stored).1, ends⟩

variable {answer : RunSnapshot × List Intent}

variable {command : ExecutionCommand}

theorem addTask_moves {dependencies : Option Json} (running : run.state = .running)
    (accepted : addTask stack run taskId command dependencies = .ok answer) :
    RunMove run answer.1 ∧ ∃ task, answer.1.tasks.find? taskId = some task ∧
      task.attempts.getLast? = some (attempt command) := by
  unfold addTask at accepted
  simp only [passes_iff] at accepted
  obtain ⟨fresh, names, checked, answered⟩ := accepted
  cases answered
  exact ⟨.added running (Option.isNone_iff_eq_none.mp fresh) rfl rfl rfl
    (checkDependencies_drawn checked), _, Table.find?_put_same _ _, rfl⟩

theorem newAttempt_moves (running : run.state = .running)
    (accepted : newAttempt run taskId command = .ok answer) :
    RunMove run answer.1 ∧ ∃ task, answer.1.tasks.find? taskId = some task ∧
      task.attempts.getLast? = some (attempt command) := by
  unfold newAttempt at accepted
  simp only [passes_iff] at accepted
  obtain ⟨⟨task, current⟩, looked, terminal, answered⟩ := accepted
  cases answered
  obtain ⟨stored, keyed, ends⟩ := currentAttempt_found looked
  have named := (Table.find?_eq_some_iff.mp stored).2
  let retried : RunTask := { task with attempts := task.attempts ++ [attempt command] }
  refine ⟨.retried running keyed ends terminal rfl rfl, retried, ?_, List.getLast?_concat⟩
  rw [← named]
  exact Table.find?_put_same _ retried

theorem setDependencies_moves {dependencies : Json} (running : run.state = .running)
    (accepted : setDependencies stack run taskId dependencies = .ok answer) :
    RunMove run answer.1 := by
  unfold setDependencies at accepted
  simp only [passes_iff] at accepted
  obtain ⟨⟨task, current⟩, looked, ⟨single, planned⟩, names, checked, answered⟩ := accepted
  cases answered
  obtain ⟨stored, keyed, ends⟩ := currentAttempt_found looked
  obtain ⟨first, only⟩ := length_eq_one_iff.mp single
  dsimp only at only ends
  rw [only, List.getLast?_singleton, Option.some.injEq] at ends
  rw [← (Table.find?_eq_some_iff.mp stored).2] at checked
  exact .redrawn running keyed only (ends ▸ planned) (checkDependencies_drawn checked)

theorem settledDependencies_recorded {record : List (Identifier × ℕ)} {attempt : RunAttempt}
    (settled : dependencies.mapM (settledDependency tasks) = .ok record)
    (written : attempt.dependencyAttempts = some record) : Recorded tasks dependencies attempt := by
  have all := mapM_eq_ok.mp settled
  clear settled
  refine ⟨record, written, ?_, ?_⟩ <;> clear written
  · induction all with
    | nil => rfl
    | cons head _ hypothesis =>
      unfold settledDependency at head
      simp only [passes_iff] at head
      obtain ⟨task, _, last, _, _, answered⟩ := head
      cases answered
      rw [map_cons, hypothesis]
  · induction all with
    | nil => exact fun entry none => absurd none not_mem_nil
    | cons head _ hypothesis =>
      unfold settledDependency at head
      simp only [passes_iff] at head
      obtain ⟨task, stored, last, ends, terminal, answered⟩ := head
      cases answered
      intro entry member
      rcases mem_cons.mp member with rfl | later
      · exact ⟨task, last, stored, getElem?_of_getLast? ends, terminal⟩
      · exact hypothesis entry later

theorem dispatch_moves (accepted : dispatch run taskId = .ok answer) : RunMove run answer.1 := by
  unfold dispatch at accepted
  simp only [passes_iff] at accepted
  obtain ⟨⟨task, current⟩, looked, planned, record, settled, answered⟩ := accepted
  cases answered
  obtain ⟨_, keyed, ends⟩ := currentAttempt_found looked
  dsimp only at planned ends
  rw [setCurrent_eq ends]
  refine .changed ⟨keyed, getElem?_of_getLast? ends, fun sound => ⟨?_, ?_, ?_⟩, ?_, ?_⟩
  · rw [planned]
    exact fun terminal => by cases terminal
  · exact fun _ => by simp
  · rw [sound.undispatched planned]
    exact fun never => by cases never
  · exact fun _ => ⟨by simp, by rintro ⟨⟩ ⟨⟩⟩
  · exact fun _ => Or.inr (settledDependencies_recorded settled rfl)

theorem cancel_moves {reason : Identifier} (accepted : cancel run taskId reason = .ok answer) :
    RunMove run answer.1 := by
  unfold cancel at accepted
  simp only [bind_eq_ok] at accepted
  obtain ⟨⟨task, current⟩, looked, rest⟩ := accepted
  obtain ⟨_, keyed, ends⟩ := currentAttempt_found looked
  dsimp only at rest ends
  split at rest
  · rename_i planned
    cases rest
    rw [setCurrent_eq ends]
    refine .changed ⟨keyed, getElem?_of_getLast? ends, fun sound => ⟨?_, ?_, ?_⟩, ?_, Or.inl⟩
    · rw [planned]
      exact fun terminal => nomatch terminal
    · exact fun _ => nofun
    · rw [sound.undispatched planned]
      exact fun impossible => nomatch impossible
    · refine fun sound => ⟨nofun, ?_⟩
      rw [sound.undispatched planned]
      exact fun impossible => nomatch impossible
  · split at rest
    · cases rest
      exact .kept rfl rfl fun _ => rfl
    · cases rest
      exact .kept rfl rfl fun _ => rfl

variable {waitId : Identifier}

theorem openWait_moves {payload : Option Json} (running : run.state = .running)
    (accepted : openWait run waitId payload = .ok answer) : RunMove run answer.1 := by
  unfold openWait at accepted
  simp only [bind_eq_ok] at accepted
  obtain ⟨_, _, answered⟩ := accepted
  cases answered
  exact .kept rfl rfl fun past => absurd running past

theorem releaseWait_moves (running : run.state = .running)
    (accepted : releaseWait run waitId = .ok answer) : RunMove run answer.1 := by
  unfold releaseWait at accepted
  simp only [bind_eq_ok] at accepted
  obtain ⟨wait, _, _, _, answered⟩ := accepted
  cases answered
  exact .kept rfl rfl fun past => absurd running past

theorem addSignal_moves {signalId : Identifier} {payload : Json}
    (accepted : addSignal run signalId payload = .ok answer) : RunMove run answer.1 := by
  unfold addSignal at accepted
  simp only [bind_eq_ok] at accepted
  obtain ⟨_, _, answered⟩ := accepted
  cases answered
  exact .kept rfl rfl fun _ => rfl

theorem finish_moves {state : Json} (running : run.state = .running)
    (accepted : finish run state = .ok answer) : RunMove run answer.1 := by
  unfold finish at accepted
  simp only [passes_iff] at accepted
  obtain ⟨reached, _, settled, checked, released, answered⟩ := accepted
  cases answered
  have all := mapM_eq_ok.mp checked
  refine .finished running (fun task member => ?_) released
  obtain ⟨index, inside, rfl⟩ := getElem_of_mem member
  have bound : index < settled.length := by
    rw [← all.length_eq]
    exact inside
  have passed := (forall₂_iff_get.mp all).2 index inside bound
  unfold settledTask at passed
  simp only [bind_eq_ok, present_eq_ok, check_eq_ok] at passed
  exact passed

variable {operation : Operation}

/-- What `reduce_operation` accepts is one of the ways in which a Run changes, and an attempt that
it adds is a new one. -/
theorem reduceOperation_moves (accepted : reduceOperation stack run operation = .ok answer) :
    RunMove run answer.1 ∧ (operation.addsAttempt = true → ∀ taskId, operation.taskId? = some taskId →
      ∃ task command, answer.1.tasks.find? taskId = some task ∧
        task.attempts.getLast? = some (attempt command)) := by
  unfold reduceOperation at accepted
  simp only [passes_iff] at accepted
  obtain ⟨running, accepted⟩ := accepted
  cases operation with
  | addTask taskId command dependencies =>
    obtain ⟨moves, task, found, ends⟩ := addTask_moves running accepted
    refine ⟨moves, fun _ name same => ?_⟩
    cases same
    exact ⟨task, command, found, ends⟩
  | newAttempt taskId command =>
    obtain ⟨moves, task, found, ends⟩ := newAttempt_moves running accepted
    refine ⟨moves, fun _ name same => ?_⟩
    cases same
    exact ⟨task, command, found, ends⟩
  | setDependencies taskId dependencies =>
    exact ⟨setDependencies_moves running accepted, fun adds => by cases adds⟩
  | dispatch taskId => exact ⟨dispatch_moves accepted, fun adds => by cases adds⟩
  | cancel taskId reason => exact ⟨cancel_moves accepted, fun adds => by cases adds⟩
  | wait waitId payload => exact ⟨openWait_moves running accepted, fun adds => by cases adds⟩
  | signal signalId payload => exact ⟨addSignal_moves accepted, fun adds => by cases adds⟩
  | releaseWait waitId => exact ⟨releaseWait_moves running accepted, fun adds => by cases adds⟩
  | finish state => exact ⟨finish_moves running accepted, fun adds => by cases adds⟩
  | watchTask taskId watchId target maxDeliveries =>
    cases accepted
    exact ⟨.kept rfl rfl fun _ => rfl, fun adds => by cases adds⟩

variable {generation : ℕ}

theorem stamp_moves (stored : run.tasks.find? task.taskId = some task)
    (ends : task.attempts.getLast? = some (attempt command)) :
    RunMove run (run.setTask (task.setCurrent
      { attempt command with generation := some generation })) := by
  rw [setCurrent_eq ends]
  refine .changed ⟨stored, getElem?_of_getLast? ends, fun _ => ⟨nofun, fun left => ?_, nofun⟩, ?_,
    Or.inl⟩
  · exact absurd rfl left
  · exact fun _ => ⟨fun _ => rfl, nofun⟩

theorem recordOperation_moves {before after : Reduction} {intents : List Intent}
    (added : operation.addsAttempt = true → ∀ taskId, operation.taskId? = some taskId →
      ∃ task command, run.tasks.find? taskId = some task ∧
        task.attempts.getLast? = some (attempt command))
    (recorded : recordOperation generation operation before run intents = .ok after) :
    RunMove run after.run := by
  unfold recordOperation at recorded
  dsimp only at recorded
  split at recorded
  · rename_i taskId about
    simp only [bind_eq_ok, present_eq_ok] at recorded
    obtain ⟨task, stored, recorded⟩ := recorded
    split at recorded
    · rename_i adds
      simp only [bind_eq_ok, present_eq_ok] at recorded
      obtain ⟨current, ends, answered⟩ := recorded
      cases answered
      obtain ⟨same, command, found, new⟩ := added adds taskId about
      cases stored.symm.trans found
      cases ends.symm.trans new
      exact stamp_moves (Table.find?_key (Table.find?_eq_some_iff.mp stored).1) ends
    · cases recorded
      exact .kept rfl rfl fun _ => rfl
  · split at recorded
    · cases recorded
      exact .kept rfl rfl fun _ => rfl
    · cases recorded
      exact .kept rfl rfl fun _ => rfl

section

variable {after before : Reduction}
  (applied : applyOperation stack generation before operation = .ok after)

include applied

theorem applyOperation_reduced :
    after = before ∨ ∃ answer, reduceOperation stack before.run operation = .ok answer ∧
      recordOperation generation operation before answer.1 answer.2 = .ok after := by
  cases operation with
  | watchTask taskId watchId target maxDeliveries =>
    unfold applyOperation at applied
    simp only [bind_eq_ok] at applied
    obtain ⟨_, _, answered⟩ := applied
    cases answered
    exact .inl rfl
  | _ => exact .inr (bind_eq_ok.mp applied)

theorem applyOperation_moves : ReflTransGen RunMove before.run after.run := by
  rcases applyOperation_reduced applied with rfl | ⟨answer, accepted, recorded⟩
  · exact .refl
  · obtain ⟨moves, added⟩ := reduceOperation_moves accepted
    exact .tail (.single moves) (recordOperation_moves added recorded)

end

theorem applyOperations_moves {operations : List Operation} {reduction : Reduction}
    (applied : applyOperations stack generation run operations = .ok reduction) :
    ReflTransGen RunMove run reduction.run :=
  foldlM_keeps (fun reached : Reduction => ReflTransGen RunMove run reached.run)
    (fun before step => before.trans (applyOperation_moves step)) .refl applied

/-! ### What a report does -/

variable {snapshot : ExecutionSnapshot}

theorem observe_kept {before after : RunAttempt}
    (observed : before.observe snapshot = .ok (some after)) :
    before.dispatched = true ∧ after.dispatched = true ∧
      (AttemptSound before → AttemptKept before after) ∧
        (AttemptSound before → AttemptSound after) := by
  unfold RunAttempt.observe at observed
  simp only [passes_iff] at observed
  obtain ⟨dispatched, observed⟩ := observed
  split at observed
  · cases observed
  · split at observed
    · simp only [bind_eq_ok] at observed
      obtain ⟨_, _, answered⟩ := observed
      cases answered
    · rename_i older different
      simp only [passes_iff] at observed
      obtain ⟨open_, answered⟩ := observed
      cases answered
      refine ⟨dispatched, dispatched, fun sound => ⟨fun terminal => ?_, fun _ => by simp,
        fun _ => ⟨dispatched, rfl⟩⟩, fun _ => ⟨by simp, fun _ _ => ?_⟩⟩
      · exact absurd ⟨sound.reported dispatched terminal, terminal⟩ open_
      · dsimp only
        omega

variable {index : ℕ}

theorem syncExecution_moves {next : RunSnapshot}
    (synced : run.syncExecution taskId index snapshot = .ok next) :
    ReflTransGen RunMove run next := by
  unfold RunSnapshot.syncExecution at synced
  simp only [bind_eq_ok, present_eq_ok] at synced
  obtain ⟨task, stored, before, found, observed, outcome, synced⟩ := synced
  cases observed with
  | none =>
    cases synced
    exact .refl
  | some after =>
    cases synced
    obtain ⟨dispatched, _, kept, sound⟩ := observe_kept outcome
    have keyed := Table.find?_key (Table.find?_eq_some_iff.mp stored).1
    exact .tail (.single (.changed ⟨keyed, found, kept, sound, fun _ => Or.inl dispatched⟩))
      (.kept rfl rfl fun _ => rfl)

/-! ### Every change keeps the tasks -/

theorem tasksKept_setTask
    (kept : ∀ before, tasks.find? task.taskId = some before → TaskKept before task) :
    TasksKept tasks (tasks.put task) := by
  intro name before found
  rw [Table.find?_put]
  by_cases same : name = task.taskId
  · rw [if_pos same]
    rw [same] at found
    exact ⟨task, rfl, kept before found⟩
  · rw [if_neg same]
    exact ⟨before, found, .refl before⟩

variable {before after : RunAttempt}

theorem AttemptMove.taskKept (move : AttemptMove tasks task index before after)
    (sound : AttemptSound before) : TaskKept task (task.setAttempt index after) := by
  refine ⟨fun position stored found => ?_, fun _ => rfl⟩
  unfold RunTask.setAttempt
  dsimp only
  rw [List.getElem?_set]
  by_cases same : index = position
  · subst same
    rw [move.found] at found
    cases found
    rw [if_pos rfl, if_pos (List.getElem?_eq_some_iff.mp move.found).1]
    exact ⟨after, rfl, move.kept sound⟩
  · rw [if_neg same]
    exact ⟨stored, found, .refl stored⟩

variable {next : RunSnapshot}

theorem RunMove.tasksKept (graph : RunGraph run) (move : RunMove run next) :
    TasksKept run.tasks next.tasks := by
  cases move with
  | added running fresh single planned undispatched drawn =>
    refine tasksKept_setTask fun before found => ?_
    rw [fresh] at found
    cases found
  | @redrawn task first dependencies running stored single planned drawn =>
    refine tasksKept_setTask fun before found => ?_
    rw [stored] at found
    cases found
    refine ⟨fun _ attempt found => ⟨attempt, found, .refl attempt⟩, fun ⟨head, starts, left⟩ => ?_⟩
    rw [single] at starts
    cases starts
    exact absurd planned left
  | @retried task last new running stored ends terminal planned undispatched =>
    refine tasksKept_setTask fun before found => ?_
    rw [stored] at found
    cases found
    refine ⟨fun index attempt found => ⟨attempt, ?_, .refl attempt⟩, fun _ => rfl⟩
    rw [List.getElem?_append_left (List.getElem?_eq_some_iff.mp found).1]
    exact found
  | @changed task index before after move =>
    refine tasksKept_setTask fun stored found => ?_
    rw [show (task.setAttempt index after).taskId = task.taskId from rfl, move.stored] at found
    cases found
    have member := (Table.find?_eq_some_iff.mp move.stored).1
    exact move.taskKept ((graph.tasks task member).sound before
      (mem_of_getElem? move.found))
  | kept tasks _ _ =>
    rw [tasks]
    exact .refl _
  | finished _ _ _ => exact .refl _

/-! ### Every change keeps the invariants -/

theorem dependsOn_setTask {before : RunTask} (stored : tasks.find? task.taskId = some before)
    (same : task.dependencies = before.dependencies) :
    DependsOn (tasks.put task) = DependsOn tasks := by
  funext first second
  unfold DependsOn
  rw [Table.find?_put]
  by_cases here : first = task.taskId
  · rw [if_pos here, here, stored]
    simp only [Option.some.injEq, exists_eq_left', same]
  · rw [if_neg here]

theorem acyclic_setTask (acyclic : Acyclic (DependsOn tasks))
    (drawn : Drawn tasks task.taskId task.dependencies) : Acyclic (DependsOn (tasks.put task)) := by
  refine @Acyclic.replace _ _ _ task.taskId acyclic ?_ ?_
  · rintro first second ⟨dependent, found, member⟩ differs
    rw [Table.find?_put_other tasks differs] at found
    exact ⟨dependent, found, member⟩
  · rintro second ⟨dependent, found, member⟩
    rw [Table.find?_put_same] at found
    cases found
    exact drawn.safe second member

theorem taskSound_setTask (sound : ∀ other ∈ tasks, TaskSound tasks other)
    (kept : TasksKept tasks (tasks.put task)) (written : TaskSound (tasks.put task) task) :
    ∀ other ∈ tasks.put task, TaskSound (tasks.put task) other := by
  intro other member
  rcases Table.mem_put.mp member with rfl | ⟨old, _⟩
  · exact written
  · exact (sound other old).kept kept

theorem Drawn.closed_after {before after : Table RunTask.taskId}
    (drawn : Drawn before taskId dependencies) (kept : TasksKept before after) :
    ∀ dependency ∈ dependencies, ∃ other, after.find? dependency = some other := by
  intro dependency member
  obtain ⟨other, found⟩ := drawn.closed dependency member
  obtain ⟨later, present, _⟩ := kept dependency other found
  exact ⟨later, present⟩

theorem AttemptMove.taskSound {after_ : Table RunTask.taskId}
    (move : AttemptMove tasks task index before after) (sound : TaskSound tasks task)
    (kept : TasksKept tasks after_) : TaskSound after_ (task.setAttempt index after) := by
  have member := mem_of_getElem? move.found
  have bound := (List.getElem?_eq_some_iff.mp move.found).1
  have unchanged := move.kept (sound.sound before member)
  refine ⟨(sound.kept kept).closed, ?_, ?_, ?_, ?_⟩
  · intro empty
    have long := congrArg List.length empty
    rw [show (task.setAttempt index after).attempts = task.attempts.set index after from rfl,
      length_set, length_nil] at long
    omega
  · intro attempt inside
    obtain ⟨position, found⟩ := mem_iff_getElem?.mp inside
    rw [List.getElem?_dropLast] at found
    split at found
    · rename_i early
      rw [show (task.setAttempt index after).attempts = task.attempts.set index after from rfl,
        length_set] at early
      rw [show (task.setAttempt index after).attempts = task.attempts.set index after from rfl,
        List.getElem?_set] at found
      have old : ∀ stored, task.attempts[position]? = some stored →
          stored.state.terminal = true := by
        intro stored present
        refine sound.settled stored (mem_iff_getElem?.mpr ⟨position, ?_⟩)
        rw [List.getElem?_dropLast, if_pos early]
        exact present
      split at found
      · rename_i same
        subst same
        cases found
        rw [unchanged.terminal (old before move.found)]
        exact old before move.found
      · exact old attempt found
    · cases found
  · intro attempt inside dispatched
    rcases mem_or_eq_of_mem_set inside with old | rfl
    · exact (sound.recorded attempt old dispatched).kept kept
    · rcases move.recorded dispatched with earlier | fresh
      · obtain ⟨record, stored, rest⟩ := (sound.recorded before member earlier).kept kept
        exact ⟨record, (unchanged.record earlier).2.trans stored, rest⟩
      · exact fresh.kept kept
  · intro attempt inside
    rcases mem_or_eq_of_mem_set inside with old | rfl
    · exact sound.sound attempt old
    · exact move.sound (sound.sound before member)

theorem AttemptMove.settled (move : AttemptMove tasks task index before after)
    (sound : TaskSound tasks task) (settled : Settled task) :
    task.setAttempt index after = task := by
  obtain ⟨last, ends, terminal⟩ := settled
  have past : before.state.terminal = true := by
    have member := mem_of_getElem? move.found
    rw [← dropLast_append_getLast? last ends, mem_append, mem_singleton] at member
    rcases member with early | rfl
    · exact sound.settled before early
    · exact terminal
  have same := (move.kept (sound.sound before (mem_of_getElem? move.found))).terminal past
  have bound := (List.getElem?_eq_some_iff.mp move.found)
  unfold RunTask.setAttempt
  rw [same, ← bound.2, set_getElem_self]

theorem attemptSound_new {attempt : RunAttempt}
    (undispatched : attempt.dispatched = false) : AttemptSound attempt := by
  refine ⟨fun _ => undispatched, fun dispatched => ?_⟩
  rw [undispatched] at dispatched
  cases dispatched

theorem RunMove.graph (graph : RunGraph run) (move : RunMove run next) : RunGraph next := by
  have kept := move.tasksKept graph
  cases move with
  | @added task first running fresh single planned undispatched drawn =>
    refine ⟨acyclic_setTask graph.acyclic drawn, taskSound_setTask graph.tasks kept ?_,
      fun past => absurd running past⟩
    refine ⟨drawn.closed_after kept, ?_, ?_, ?_, ?_⟩
    · rw [single]
      exact cons_ne_nil _ _
    · rw [single]
      exact fun attempt none => nomatch none
    · intro attempt member dispatched
      rw [single, mem_singleton] at member
      rw [member, undispatched] at dispatched
      cases dispatched
    · intro attempt member
      rw [single, mem_singleton] at member
      rw [member]
      exact attemptSound_new undispatched
  | @redrawn task first dependencies running stored single planned drawn =>
    have sound := graph.tasks task (Table.find?_eq_some_iff.mp stored).1
    refine ⟨acyclic_setTask graph.acyclic drawn, taskSound_setTask graph.tasks kept ?_,
      fun past => absurd running past⟩
    refine ⟨drawn.closed_after kept, sound.attempted, sound.settled, ?_, sound.sound⟩
    intro attempt member dispatched
    rw [single, mem_singleton] at member
    subst member
    rw [(sound.sound attempt (by rw [single]; exact mem_cons_self)).undispatched planned]
      at dispatched
    cases dispatched
  | @retried task last new running stored ends terminal planned undispatched =>
    have sound := graph.tasks task (Table.find?_eq_some_iff.mp stored).1
    refine ⟨?_, taskSound_setTask graph.tasks kept ?_, fun past => absurd running past⟩
    · have same : DependsOn (run.setTask { task with attempts := task.attempts ++ [new] }).tasks =
          DependsOn run.tasks := dependsOn_setTask stored rfl
      rw [same]
      exact graph.acyclic
    refine ⟨(sound.kept kept).closed, append_ne_nil_of_right_ne_nil _ (cons_ne_nil _ _),
      ?_, ?_, ?_⟩
    · rw [dropLast_concat]
      intro attempt member
      rw [← dropLast_append_getLast? last ends, mem_append, mem_singleton] at member
      rcases member with early | rfl
      · exact sound.settled attempt early
      · exact terminal
    · intro attempt member dispatched
      rcases mem_append.mp member with old | fresh
      · exact (sound.recorded attempt old dispatched).kept kept
      · rw [mem_singleton] at fresh
        rw [fresh, undispatched] at dispatched
        cases dispatched
    · intro attempt member
      rcases mem_append.mp member with old | fresh
      · exact sound.sound attempt old
      · rw [mem_singleton] at fresh
        rw [fresh]
        exact attemptSound_new undispatched
  | @changed task index before after move =>
    have member := (Table.find?_eq_some_iff.mp move.stored).1
    have sound := graph.tasks task member
    refine ⟨?_, taskSound_setTask graph.tasks kept (move.taskSound sound kept), fun past => ?_⟩
    · have same : DependsOn (run.setTask (task.setAttempt index after)).tasks =
          DependsOn run.tasks := dependsOn_setTask move.stored rfl
      rw [same]
      exact graph.acyclic
    · obtain ⟨settled, released⟩ := graph.finished past
      refine ⟨fun other inside => ?_, released⟩
      rcases Table.mem_put.mp inside with rfl | ⟨old, _⟩
      · rw [move.settled sound (settled task member)]
        exact settled task member
      · exact settled other old
  | kept tasks state waits =>
    refine ⟨tasks ▸ graph.acyclic, tasks ▸ graph.tasks, fun past => ?_⟩
    rw [state] at past
    rw [tasks, waits past]
    exact graph.finished past
  | finished running settled released =>
    exact ⟨graph.acyclic, graph.tasks, fun _ => ⟨settled, released⟩⟩

/-! ### Runs -/

/-- Lists of operations and reports of the Kernel, in any order. The application state and the
revision are set around the list. -/
inductive RunStep : RunSnapshot → RunSnapshot → Prop where
  | applyOperations {run : RunSnapshot} {stack : ℕ} {operations : List Operation}
      {applicationState : Option Json} {reduction : Reduction}
      (accepted : Orchestrator.applyOperations stack run.generation run operations =
        .ok reduction) :
      RunStep run { reduction.run with
        applicationState := applicationState.getD reduction.run.applicationState
        revision := reduction.run.revision + 1 }
  | syncExecution {run next : RunSnapshot} {taskId : Identifier} {index : ℕ}
      {snapshot : ExecutionSnapshot} (synced : run.syncExecution taskId index snapshot = .ok next) :
      RunStep run next

def runs : TransitionSystem RunSnapshot where
  initial run := ∃ runId input definition, run = .create runId input definition
  step := RunStep

theorem RunStep.moves (step : RunStep run next) : ReflTransGen RunMove run next := by
  cases step with
  | applyOperations accepted =>
    exact .tail (applyOperations_moves accepted) (.kept rfl rfl fun _ => rfl)
  | syncExecution synced => exact syncExecution_moves synced

theorem RunGraph.create (runId : Identifier) (input definition : Json) :
    RunGraph (.create runId input definition) := by
  refine ⟨fun name cycle => ?_, fun task none => (nomatch none), fun past => absurd rfl past⟩
  obtain ⟨_, ⟨task, found, _⟩, _⟩ := TransGen.head'_iff.mp cycle
  cases found

theorem RunGraph.moves (graph : RunGraph run) (moves : ReflTransGen RunMove run next) :
    RunGraph next :=
  keeps_of_links RunGraph (fun sound move => move.graph sound) graph moves

theorem RunGraph.tasksKept (graph : RunGraph run) (moves : ReflTransGen RunMove run next) :
    TasksKept run.tasks next.tasks :=
  @respects_of_links _ _ RunGraph (fun before after => TasksKept before.tasks after.tasks)
    (fun _ => .refl _) TasksKept.trans (fun sound move => move.graph sound)
    (fun sound move => move.tasksKept sound) _ _ graph moves

theorem reachable_graph (reachable : runs.Reachable run) : RunGraph run := by
  refine reachable.invariant RunGraph ?_ fun _ _ _ graph step => graph.moves (RunStep.moves step)
  rintro _ ⟨runId, input, definition, rfl⟩
  exact .create runId input definition

/-- In every state of a Run its task graph is closed and has no cycle, only the last attempt of a
task may be unsettled, and a dispatched attempt has recorded attempts at all dependencies that are
past. What was past stays, and the check for cycles is exact on every stack with more frames than
the Run has tasks. -/
theorem run_graph_sound {run : RunSnapshot} (reachable : runs.Reachable run) :
    RunGraph run ∧
      (∀ later, runs.Run run later → TasksKept run.tasks later.tasks) ∧
        ∀ stack taskId values, run.tasks.rows.length < stack →
          (∀ value ∈ values, ∃ task, run.tasks.find? value = some task) →
            ∃ cycle, closesCycle stack run.tasks taskId values = .ok cycle ∧
              (cycle = true ↔
                ∃ value ∈ values, ReflTransGen (DependsOn run.tasks) value taskId) := by
  have graph := reachable_graph reachable
  refine ⟨graph, fun later onwards => ?_, fun stack taskId values deep known =>
    closesCycle_decides graph.tasks known deep⟩
  refine reachable.respects (fun before after => TasksKept before.tasks after.tasks)
    (fun _ => .refl _) TasksKept.trans (fun before next reached step => ?_) onwards
  exact (reachable_graph reached).tasksKept (RunStep.moves step)

def sampleDecision : Except SdkError Reduction :=
  applyOperations 1 0 (.create sampleName .null .null)
    [.addTask sampleName sampleCommand none, .dispatch sampleName]

theorem run_graph_sample : ∃ run, runs.Reachable run ∧ RunGraph run ∧
    ∃ task ∈ run.tasks, ∃ attempt ∈ task.attempts, attempt.dispatched = true := by
  have dispatched : sampleDecision.toOption.map (fun reduction =>
      reduction.run.tasks.rows.any fun task => task.attempts.any (·.dispatched)) = some true := by
    decide +kernel
  cases decided : sampleDecision with
  | error failure =>
    rw [decided] at dispatched
    cases dispatched
  | ok reduction =>
    rw [decided] at dispatched
    have created : runs.Reachable (.create sampleName .null .null) :=
      .start ⟨sampleName, .null, .null, rfl⟩
    have reached := created.next (@RunStep.applyOperations _ _ _ none _ decided)
    refine ⟨_, reached, (run_graph_sound reached).1, ?_⟩
    obtain ⟨task, member, some⟩ := any_eq_true.mp (Option.some.inj dispatched)
    exact ⟨task, member, any_eq_true.mp some⟩

open Checked Content

/-! ### Documents -/

namespace ItemDoc

end ItemDoc

namespace RunSnapshot

end RunSnapshot

/-! ### Tables -/

/-- `sdk_run_links`. -/
structure LinkRow where
  previousRunId : Identifier
  nextRunId : Identifier

/-- `sdk_commands`. The response names a revision of a Run. -/
structure CommandRow where
  runId : Identifier
  commandId : Identifier
  digest : String
  responseRun : Identifier
  responseRevision : ℕ

def CommandRow.key (row : CommandRow) : Identifier × Identifier := (row.runId, row.commandId)

/-- `sdk_executions`. -/
structure ExecutionRow where
  executionId : Identifier
  runId : Identifier
  taskId : Identifier
  attempt : ℕ
  generation : ℕ
  command : Json.Text
  idempotencyKey : Identifier
  active : Bool

/-- `sdk_outbox`, as far as Runs depend on it. -/
structure OutboxRow where
  sequence : ℕ
  runId : Identifier
  commandId : Identifier
  ordinal : ℕ
  intent : Intent
  generation : ℕ
  delivered : Bool

inductive RecoveryStatus where
  | preparing
  | prepared
  | committed
  | activated
  | aborted
  | failed
  deriving DecidableEq

/-! ### Reading -/

namespace RunTables

end RunTables

open Table
open ExecutionKernel hiding ExecutionRow OutboxRow EventRow Operation

/-! ### The commands of a Run -/

/-- The commands of the attempts at a task, in order. -/
def RunSnapshot.commandsOf (run : RunSnapshot) (taskId : Identifier) : List ExecutionCommand :=
  (run.tasks.find? taskId).elim [] fun task => task.attempts.map (·.command)

theorem RunSnapshot.commandsOf_setTask (run : RunSnapshot) (task : RunTask) (name : Identifier) :
    (run.setTask task).commandsOf name =
      if name = task.taskId then task.attempts.map (·.command) else run.commandsOf name := by
  unfold RunSnapshot.commandsOf RunSnapshot.setTask
  dsimp only
  rw [find?_put]
  by_cases same : name = task.taskId
  · rw [if_pos same, if_pos same]
    rfl
  · rw [if_neg same, if_neg same]

theorem RunSnapshot.commandsOf_found (found : run.tasks.find? task.taskId = some task) :
    run.commandsOf task.taskId = task.attempts.map (·.command) := by
  unfold RunSnapshot.commandsOf
  rw [found]
  rfl

theorem RunSnapshot.commandsOf_kept {before after : RunTask}
    (found : run.tasks.find? before.taskId = some before) (named : after.taskId = before.taskId)
    (same : after.attempts.map (·.command) = before.attempts.map (·.command)) (name : Identifier) :
    (run.setTask after).commandsOf name = run.commandsOf name := by
  rw [commandsOf_setTask, named]
  by_cases own : name = before.taskId
  · rw [if_pos own, own, commandsOf_found found, same]
  · rw [if_neg own]

theorem RunTask.commands_setCurrent {last current : RunAttempt}
    (ends : task.attempts.getLast? = some last) (same : current.command = last.command) :
    (task.setCurrent current).attempts.map (·.command) = task.attempts.map (·.command) := by
  have parts := dropLast_append_getLast? last ends
  unfold RunTask.setCurrent
  dsimp only
  conv_rhs => rw [← parts]
  rw [map_append, map_append, map_singleton, map_singleton, same]

/-- The command that an operation brings. -/
def Operation.brings (operation : Operation) (name : Identifier) : List ExecutionCommand :=
  match operation with
  | .addTask taskId command _ | .newAttempt taskId command => if name = taskId then [command] else []
  | _ => []

/-- What names a Run and says how often it was reopened. -/
def RunSnapshot.SameRun (before after : RunSnapshot) : Prop :=
  after.runId = before.runId ∧ after.generation = before.generation

/-- What an operation writes: a new task, a task that is there, the state at the end, or things that
are no tasks. -/
inductive RunSnapshot.Writes (run : RunSnapshot) : Operation → RunSnapshot → Prop
  | add {taskId : Identifier} {command : ExecutionCommand} {asked : Option Json}
      {dependencies : List Identifier} (absent : run.tasks.find? taskId = none) :
      Writes run (.addTask taskId command asked) (run.setTask
        { taskId, dependencies, attempts := [attempt command], managedAcceptance := none })
  | change {operation : Operation} {before after : RunTask}
      (found : run.tasks.find? before.taskId = some before) (named : after.taskId = before.taskId)
      (decision : after.managedAcceptance = before.managedAcceptance)
      (commands : after.attempts.map (·.command) =
        before.attempts.map (·.command) ++ operation.brings before.taskId)
      (only : ∀ name, name ≠ before.taskId → operation.brings name = []) :
      Writes run operation (run.setTask after)
  | finish {asked : Json} {state : RunState} : Writes run (.finish asked) { run with state }
  | other {operation : Operation} {next : RunSnapshot} (tasks : next.tasks = run.tasks)
      (same : run.SameRun next) (revision : next.revision = run.revision)
      (state : next.state = run.state) (none : ∀ name, operation.brings name = []) :
      Writes run operation next

section

variable (accepted : reduceOperation stack run operation = .ok answer)

include accepted

theorem reduceOperation_writes : run.Writes operation answer.1 := by
  unfold reduceOperation at accepted
  simp only [passes_iff] at accepted
  obtain ⟨_, accepted⟩ := accepted
  cases operation with
  | addTask taskId command dependencies =>
    simp only [addTask, bind_eq_ok, check_eq_ok, exists_const] at accepted
    obtain ⟨absent, names, _, answered⟩ := accepted
    cases answered
    exact .add (Option.isNone_iff_eq_none.mp absent)
  | newAttempt taskId command =>
    simp only [newAttempt, bind_eq_ok, check_eq_ok, exists_const] at accepted
    obtain ⟨⟨task, current⟩, looked, _, answered⟩ := accepted
    cases answered
    obtain ⟨stored, found, _⟩ := currentAttempt_found looked
    have named : task.taskId = taskId := key_of_find? stored
    refine .change found rfl rfl ?_ fun name other => if_neg (named ▸ other)
    rw [map_append, Operation.brings, if_pos named]
    rfl
  | setDependencies taskId dependencies =>
    simp only [setDependencies, bind_eq_ok, check_eq_ok, exists_const] at accepted
    obtain ⟨⟨task, current⟩, looked, _, names, _, answered⟩ := accepted
    cases answered
    obtain ⟨_, found, _⟩ := currentAttempt_found looked
    exact .change found rfl rfl (append_nil _).symm fun _ _ => rfl
  | dispatch taskId =>
    simp only [dispatch, bind_eq_ok, check_eq_ok, exists_const] at accepted
    obtain ⟨⟨task, current⟩, looked, _, settled, _, answered⟩ := accepted
    cases answered
    obtain ⟨_, found, ends⟩ := currentAttempt_found looked
    refine .change found rfl rfl (Eq.trans ?_ (append_nil _).symm) fun _ _ => rfl
    exact RunTask.commands_setCurrent ends rfl
  | cancel taskId reason =>
    simp only [cancel, bind_eq_ok] at accepted
    obtain ⟨⟨task, current⟩, looked, answered⟩ := accepted
    obtain ⟨_, found, ends⟩ := currentAttempt_found looked
    dsimp only at answered
    split at answered
    · cases answered
      refine .change found rfl rfl (Eq.trans ?_ (append_nil _).symm) fun _ _ => rfl
      exact RunTask.commands_setCurrent ends rfl
    · split at answered <;> cases answered <;> exact .other rfl ⟨rfl, rfl⟩ rfl rfl fun _ => rfl
  | wait waitId payload =>
    simp only [openWait, bind_eq_ok, check_eq_ok, exists_const] at accepted
    obtain ⟨_, answered⟩ := accepted
    cases answered
    exact .other rfl ⟨rfl, rfl⟩ rfl rfl fun _ => rfl
  | releaseWait waitId =>
    simp only [releaseWait, bind_eq_ok, check_eq_ok, exists_const] at accepted
    obtain ⟨_, _, _, answered⟩ := accepted
    cases answered
    exact .other rfl ⟨rfl, rfl⟩ rfl rfl fun _ => rfl
  | signal signalId payload =>
    simp only [addSignal, bind_eq_ok, check_eq_ok, exists_const] at accepted
    obtain ⟨_, answered⟩ := accepted
    cases answered
    exact .other rfl ⟨rfl, rfl⟩ rfl rfl fun _ => rfl
  | finish state =>
    simp only [finish, bind_eq_ok, check_eq_ok, exists_const] at accepted
    obtain ⟨_, _, _, _, _, answered⟩ := accepted
    cases answered
    exact .finish
  | watchTask taskId watchId target maxDeliveries =>
    cases accepted
    exact .other rfl ⟨rfl, rfl⟩ rfl rfl fun _ => rfl

theorem reduceOperation_commands (name : Identifier) :
    run.SameRun answer.1 ∧
      answer.1.commandsOf name = run.commandsOf name ++ operation.brings name := by
  obtain ⟨next, intents⟩ := answer
  have writes : run.Writes operation next := reduceOperation_writes accepted
  cases writes with
  | @add taskId command _ _ absent =>
    refine ⟨⟨rfl, rfl⟩, ?_⟩
    dsimp only
    rw [RunSnapshot.commandsOf_setTask, Operation.brings]
    by_cases own : name = taskId
    · rw [if_pos own, if_pos own, own]
      unfold RunSnapshot.commandsOf
      rw [absent]
      rfl
    · rw [if_neg own, if_neg own, append_nil]
  | @change _ before after found named _ commands only =>
    refine ⟨⟨rfl, rfl⟩, ?_⟩
    dsimp only
    rw [RunSnapshot.commandsOf_setTask, named]
    by_cases own : name = before.taskId
    · rw [if_pos own, own, RunSnapshot.commandsOf_found found, commands]
    · rw [if_neg own, only name own, append_nil]
  | finish => exact ⟨⟨rfl, rfl⟩, (append_nil _).symm⟩
  | other tasks same _ _ none =>
    refine ⟨same, ?_⟩
    rw [none name, append_nil]
    unfold RunSnapshot.commandsOf
    rw [tasks]

end

/-! ### The registrations of a list of operations -/

/-- Every command of a Run is one that the Run had before, or registered for its attempt. -/
def Accounted (before : RunSnapshot) (reduction : Reduction) : Prop :=
  ∀ (taskId : Identifier) (index : ℕ) command,
    (reduction.run.commandsOf taskId)[index]? = some command →
      (before.commandsOf taskId)[index]? = some command ∨
        ∃ registered ∈ reduction.registrations, registered.1 = taskId ∧ registered.2.1 = index ∧
          registered.2.2.command = command

variable {intents : List Intent}

theorem recordOperation_commands {before after : Reduction}
    (recorded : recordOperation generation operation before run intents = .ok after) :
    run.SameRun after.run ∧ (∀ name, after.run.commandsOf name = run.commandsOf name) ∧
      ∀ registered ∈ before.registrations, registered ∈ after.registrations := by
  unfold recordOperation at recorded
  dsimp only at recorded
  split at recorded
  · simp only [bind_eq_ok, present_eq_ok] at recorded
    obtain ⟨task, stored, recorded⟩ := recorded
    split at recorded
    · simp only [bind_eq_ok, present_eq_ok] at recorded
      obtain ⟨current, ends, answered⟩ := recorded
      cases answered
      refine ⟨⟨rfl, rfl⟩, fun name => ?_, fun _ member => mem_append_left _ member⟩
      refine RunSnapshot.commandsOf_kept (find?_key (mem_of_find? stored)) ?_ ?_ name
      · rfl
      · exact RunTask.commands_setCurrent ends rfl
    · cases recorded
      exact ⟨⟨rfl, rfl⟩, fun _ => rfl, fun _ member => member⟩
  · split at recorded <;> cases recorded <;>
      exact ⟨⟨rfl, rfl⟩, fun _ => rfl, fun _ member => member⟩

theorem recordOperation_registers {before after : Reduction}
    (recorded : recordOperation generation operation before run intents = .ok after)
    {earlier : List ExecutionCommand} (brings : operation.brings taskId = [command])
    (grown : run.commandsOf taskId = earlier ++ [command]) :
    ∃ registered ∈ after.registrations, registered.1 = taskId ∧
      registered.2.1 = earlier.length ∧ registered.2.2.command = command := by
  have adds : operation.taskId? = some taskId ∧ operation.addsAttempt = true := by
    unfold Operation.brings at brings
    split at brings
    · split at brings
      · rename_i same
        exact ⟨congrArg some same.symm, rfl⟩
      · cases brings
    · split at brings
      · rename_i same
        exact ⟨congrArg some same.symm, rfl⟩
      · cases brings
    · cases brings
  unfold recordOperation at recorded
  dsimp only at recorded
  rw [adds.1] at recorded
  simp only [bind_eq_ok, present_eq_ok, adds.2, if_true] at recorded
  obtain ⟨task, stored, current, ends, answered⟩ := recorded
  cases answered
  refine ⟨_, mem_append_right _ (mem_singleton_self _), rfl, ?_, ?_⟩
  · have named : task.taskId = taskId := key_of_find? stored
    have listed : task.attempts.map (·.command) = earlier ++ [command] := by
      rw [← grown, ← named, RunSnapshot.commandsOf_found (named ▸ stored)]
    have length := congrArg List.length listed
    rw [length_map, length_append, length_singleton] at length
    show task.attempts.length - 1 = earlier.length
    omega
  · have named : task.taskId = taskId := key_of_find? stored
    have listed : task.attempts.map (·.command) = earlier ++ [command] := by
      rw [← grown, ← named, RunSnapshot.commandsOf_found (named ▸ stored)]
    have last := congrArg List.getLast? listed
    rw [List.getLast?_map, ends, List.getLast?_concat] at last
    exact Option.some.inj last

theorem applyOperation_accounted {first : RunSnapshot} {before after : Reduction}
    (accounted : Accounted first before)
    (applied : applyOperation stack generation before operation = .ok after) :
    Accounted first after := by
  rcases applyOperation_reduced applied with rfl | ⟨answer, accepted, recorded⟩
  · exact accounted
  · intro taskId index command listed
    obtain ⟨_, same, kept⟩ := recordOperation_commands recorded
    obtain ⟨_, grown⟩ := reduceOperation_commands accepted taskId
    rw [same, grown] at listed
    by_cases old : index < (before.run.commandsOf taskId).length
    · rw [List.getElem?_append_left old] at listed
      refine (accounted taskId index command listed).imp_right ?_
      rintro ⟨registered, member, facts⟩
      exact ⟨registered, kept registered member, facts⟩
    · rw [List.getElem?_append_right (not_lt.mp old)] at listed
      have brought : operation.brings taskId = [command] ∧
          index = (before.run.commandsOf taskId).length := by
        have single : operation.brings taskId = [] ∨ ∃ new, operation.brings taskId = [new] := by
          unfold Operation.brings
          split
          · split
            · exact .inr ⟨_, rfl⟩
            · exact .inl rfl
          · split
            · exact .inr ⟨_, rfl⟩
            · exact .inl rfl
          · exact .inl rfl
        rcases single with none | ⟨new, one⟩
        · rw [none] at listed
          cases listed
        · rw [one] at listed ⊢
          have first := List.getElem?_eq_some_iff.mp listed
          obtain ⟨bound, value⟩ := first
          rw [length_singleton] at bound
          have zero : index - (before.run.commandsOf taskId).length = 0 := by omega
          simp only [zero, getElem_cons_zero] at value
          exact ⟨by rw [value], by omega⟩
      obtain ⟨brings, rfl⟩ := brought
      rw [brings] at grown
      obtain ⟨registered, member, facts⟩ := recordOperation_registers recorded brings grown
      exact .inr ⟨registered, member, facts⟩

theorem applyOperation_sameRun {before after : Reduction}
    (applied : applyOperation stack generation before operation = .ok after) :
    before.run.SameRun after.run := by
  rcases applyOperation_reduced applied with rfl | ⟨answer, accepted, recorded⟩
  · exact ⟨rfl, rfl⟩
  · obtain ⟨first, _⟩ := reduceOperation_commands accepted before.run.runId
    obtain ⟨second, _⟩ := recordOperation_commands recorded
    exact ⟨second.1.trans first.1, second.2.trans first.2⟩

variable {operations : List Operation}

variable {reduction : Reduction}

section

variable (applied : applyOperations stack generation run operations = .ok reduction)

include applied

theorem applyOperations_sameRun : run.SameRun reduction.run :=
  foldlM_keeps (fun reached : Reduction => run.SameRun reached.run)
    (fun before step => ⟨(applyOperation_sameRun step).1.trans before.1,
      (applyOperation_sameRun step).2.trans before.2⟩) ⟨rfl, rfl⟩ applied

theorem applyOperations_accounted : Accounted run reduction :=
  foldlM_keeps (Accounted run) applyOperation_accounted (fun _ _ _ => Or.inl) applied
/-! ### Registering executions -/

end

/-- `sdk_executions`. -/
abbrev Executions := Table ExecutionRow.executionId

/-- The row of an execution that is registered for an attempt. -/
def registration (run : RunSnapshot) (registered : Identifier × ℕ × RunAttempt) : ExecutionRow where
  executionId := registered.2.2.command.executionId
  runId := run.runId
  taskId := registered.1
  attempt := registered.2.1
  generation := registered.2.2.generation.getD run.generation
  command := registered.2.2.command.toDict.encode
  idempotencyKey := registered.2.2.command.idempotencyKey
  active := false

/-- Whether two rows bind an execution to the same attempt. -/
def ExecutionRow.Binds (row expected : ExecutionRow) : Prop :=
  row.runId = expected.runId ∧ row.taskId = expected.taskId ∧ row.attempt = expected.attempt ∧
    row.generation = expected.generation ∧ row.command = expected.command

instance (row expected : ExecutionRow) : Decidable (row.Binds expected) := by
  unfold ExecutionRow.Binds
  infer_instance

/-- The loop body of `_register_executions`. -/
def registerExecution (run : RunSnapshot) (executions : Executions)
    (registered : Identifier × ℕ × RunAttempt) : Except SdkError Executions :=
  let expected := registration run registered
  match executions.find? expected.executionId with
  | some existing => do
    check (existing.Binds expected)
      (.commandConflict "execution identity is already bound to another attempt")
    return executions
  | none => do
    check (∀ row ∈ executions.rows, row.idempotencyKey ≠ expected.idempotencyKey)
      (.commandConflict "Kernel idempotency key is already bound to another execution")
    return executions.put expected

def registerExecutions (run : RunSnapshot) (executions : Executions)
    (registrations : List (Identifier × ℕ × RunAttempt)) : Except SdkError Executions :=
  registrations.foldlM (registerExecution run) executions

/-- The execution is registered for this attempt. -/
def Executions.Registers (executions : Executions) (executionId runId taskId : Identifier)
    (attempt : ℕ) : Prop :=
  ∃ row, executions.find? executionId = some row ∧ row.runId = runId ∧ row.taskId = taskId ∧
    row.attempt = attempt

def Executions.Keeps (before after : Executions) : Prop :=
  ∀ name row, before.find? name = some row → after.find? name = some row

variable {before after : Executions}

theorem Executions.Keeps.registers (keeps : before.Keeps after) {executionId runId : Identifier}
    {attempt : ℕ} (registers : before.Registers executionId runId taskId attempt) :
    after.Registers executionId runId taskId attempt := by
  obtain ⟨row, found, facts⟩ := registers
  exact ⟨row, keeps executionId row found, facts⟩

theorem registerExecution_registers {registered : Identifier × ℕ × RunAttempt}
    (accepted : registerExecution run before registered = .ok after) :
    before.Keeps after ∧ after.Registers registered.2.2.command.executionId run.runId registered.1
      registered.2.1 := by
  unfold registerExecution at accepted
  dsimp only at accepted
  split at accepted
  · rename_i existing found
    simp only [passes_iff] at accepted
    obtain ⟨same, answered⟩ := accepted
    cases answered
    exact ⟨fun _ _ => id, existing, found, same.1, same.2.1, same.2.2.1⟩
  · rename_i absent
    simp only [passes_iff] at accepted
    obtain ⟨_, answered⟩ := accepted
    cases answered
    refine ⟨fun name row found => ?_, _, find?_put_same before (registration run registered), rfl,
      rfl, rfl⟩
    rw [find?_put_other before]
    · exact found
    · rintro rfl
      rw [absent] at found
      cases found

theorem registerExecutions_registers {registrations : List (Identifier × ℕ × RunAttempt)}
    (accepted : registerExecutions run before registrations = .ok after) :
    before.Keeps after ∧ ∀ registered ∈ registrations,
      after.Registers registered.2.2.command.executionId run.runId registered.1 registered.2.1 := by
  induction registrations generalizing before with
  | nil =>
    cases accepted
    exact ⟨fun _ _ => id, by rintro _ ⟨⟩⟩
  | cons first rest hypothesis =>
    unfold registerExecutions at accepted
    rw [foldlM_cons] at accepted
    obtain ⟨middle, one, others⟩ := bind_eq_ok.mp accepted
    obtain ⟨keeps, registers⟩ := registerExecution_registers one
    obtain ⟨further, all⟩ := hypothesis others
    refine ⟨fun name row found => further name row (keeps name row found), ?_⟩
    intro registered member
    rcases mem_cons.mp member with rfl | later
    · exact further.registers registers
    · exact all registered later

/-- Every attempt of a Run is registered. -/
def RunSnapshot.Registered (run : RunSnapshot) (executions : Executions) : Prop :=
  ∀ (taskId : Identifier) (index : ℕ) command, (run.commandsOf taskId)[index]? = some command →
    executions.Registers command.executionId run.runId taskId index

theorem applyOperations_registered
    (applied : applyOperations stack generation run operations = .ok reduction)
    (accepted : registerExecutions reduction.run before reduction.registrations = .ok after)
    (registered : run.Registered before) : reduction.run.Registered after := by
  intro taskId index command listed
  obtain ⟨keeps, all⟩ := registerExecutions_registers accepted
  rcases applyOperations_accounted applied taskId index command listed with
    old | ⟨entry, member, rfl, rfl, rfl⟩
  · rw [(applyOperations_sameRun applied).1]
    exact keeps.registers (registered taskId index command old)
  · exact all entry member
theorem syncExecution_commands (synced : run.syncExecution taskId index snapshot = .ok next) :
    run.SameRun next ∧ ∀ name, next.commandsOf name = run.commandsOf name := by
  unfold RunSnapshot.syncExecution at synced
  simp only [bind_eq_ok, present_eq_ok] at synced
  obtain ⟨task, stored, before, found, observed, outcome, synced⟩ := synced
  cases observed with
  | none =>
    cases synced
    exact ⟨⟨rfl, rfl⟩, fun _ => rfl⟩
  | some after =>
    cases synced
    have same : after.command = before.command := by
      unfold RunAttempt.observe at outcome
      simp only [passes_iff] at outcome
      obtain ⟨_, outcome⟩ := outcome
      split at outcome
      · cases outcome
      · split at outcome
        · simp only [passes_iff] at outcome
          obtain ⟨_, answered⟩ := outcome
          cases answered
        · simp only [passes_iff] at outcome
          obtain ⟨_, answered⟩ := outcome
          cases answered
          rfl
    refine ⟨⟨rfl, rfl⟩, fun name => ?_⟩
    refine RunSnapshot.commandsOf_kept (find?_key (mem_of_find? stored)) ?_ ?_ name
    · rfl
    · show (task.attempts.set index after).map (·.command) = _
      have value : (task.attempts.map RunAttempt.command)[index]? = some before.command := by
        rw [List.getElem?_map, found]
        rfl
      obtain ⟨bound, value⟩ := List.getElem?_eq_some_iff.mp value
      rw [map_set, same, ← value, set_getElem_self]

end DispatcherSdk.Orchestrator
