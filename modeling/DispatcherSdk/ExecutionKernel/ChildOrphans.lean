/-
This file models what a handler is given when it repeats a call of `run` or `wait_for`, and
is about what becomes of a child once the request for it is settled.

`run` asks for the same action each time. `wait_for` looks at its target first, so what it asks
for depends on what has become of the target in the meantime.
-/

import DispatcherSdk.Content.JsonText
import DispatcherSdk.ExecutionKernel.ChildRegistryRuns

namespace DispatcherSdk.ExecutionKernel

open Library Option List

/-! ### The call -/

inductive ChildAnswer where
  /-- `_result` returns a result, or raises the error in it. -/
  | result (value : Json)
  /-- The error of a request that was settled without a result. -/
  | raised (state : ChildRequestState) (error : Option Json.Text)
  /-- `child_result_missing`. -/
  | missing

/-- The result of an execution, as its snapshot has it. -/
def ExecutionRow.childAnswer (row : ExecutionRow) : ChildAnswer :=
  (row.result.map fun result => ChildAnswer.result result.toDict).getD .missing

/-- What `_await_window` reads in a row: nothing as long as the request is open. -/
def ChildRequest.answered (database : Database) (row : ChildRequest) : Option ChildAnswer :=
  match row.response with
  | none => if row.state.unsettled = true then none else some (.raised row.state row.error)
  | some text =>
    match Json.loads text with
    | some (.object fields) =>
      match Json.get? fields "result_ref" with
      | none => some (.result (.object fields))
      | some (.string name) =>
        some ((((Identifier.ofText name).bind database.executions.find?).map
          ExecutionRow.childAnswer).getD .missing)
      | some _ => some .missing
    | _ => some .missing

inductive CallAnswer where
  | refused (refusal : ChildRefusal)
  /-- `child_missing`. -/
  | absent
  | child (childId : Identifier) (answer : Option ChildAnswer)

variable (equal : Json → Json → Bool)

/-- `_enqueue` and the first look of `_await`. -/
def ChildWorld.enqueue (world : ChildWorld) (capacity : ℕ) (call : ChildCall) : CallAnswer :=
  match world.registry.find? (call.parentLease.executionId, call.requestId) with
  | some row =>
    match ChildRegistry.replay equal call row with
    | .error refusal => .refused refusal
    | .ok row => .child row.childId (row.answered world.kernel.database)
  | none =>
    match world.registry.admissible capacity call with
    | .error refusal => .refused refusal
    | .ok _ => .child call.childId none

/-- What `wait_for` asks of a target that has not ended. -/
def Database.waitAction (database : Database) (parentId : Identifier) (target : ExecutionRow) :
    ChildAction :=
  if target.state = .queued then
    match database.parentOf target.executionId with
    | none => .adopt
    | some parent => if parent.executionId = parentId then .adopt else .observe
  else .observe

/-- The request that a call makes, or nothing if it makes none. The action of a `wait_for` is the
one its target calls for. -/
def ChildCall.issued (database : Database) (call : ChildCall) : Option ChildCall :=
  if call.action = .run then some call
  else
    match database.executions.find? call.childId with
    | none => none
    | some target =>
      if target.state.terminal = true then none
      else some { call with
        action := database.waitAction call.parentLease.executionId target, command := none }

/-- `run` or `wait_for`. -/
def ChildWorld.handle (world : ChildWorld) (capacity : ℕ) (call : ChildCall) : CallAnswer :=
  match call.issued world.kernel.database with
  | some request => world.enqueue equal capacity request
  | none =>
    match world.kernel.database.executions.find? call.childId with
    | none => .absent
    | some target => .child call.childId (some target.childAnswer)

/-! ### Repeating a call -/

/-- The same call, by the same attempt of the parent. `run` draws a new name for the child each
time. -/
structure ChildCall.Repeats (first again : ChildCall) : Prop where
  requestId : again.requestId = first.requestId
  parent : again.parentLease.executionId = first.parentLease.executionId
  attempt : (again.parentLease.attempt, again.parentLease.fence) =
    (first.parentLease.attempt, first.parentLease.fence)
  runs : again.action = .run ↔ first.action = .run
  child : first.action ≠ .run → again.childId = first.childId
  command : first.action = .run → ∃ previous ∈ first.command, ∃ current ∈ again.command,
    previous.handlerId = current.handlerId ∧
      previous.handlerContractVersion = current.handlerContractVersion ∧
      previous.payload = current.payload ∧ previous.timeoutSeconds = current.timeoutSeconds

/-- The answer is not a conflict, it is about the child of the request, and it is what the request
was settled with. -/
structure CallAnswer.Replays (answer : CallAnswer) (row : ChildRequest) (database : Database) :
    Prop where
  accepted : answer ≠ .refused .requestConflict
  child : ∀ {childId given}, answer = .child childId given → childId = row.childId
  recorded : row.state.unsettled = false → answer = .child row.childId (row.answered database)

/-- The target of a `wait_for` calls for what it called for at first, or it has ended with the
result of the request. -/
def ChildCall.Steady (database : Database) (call : ChildCall) (row : ChildRequest) : Prop :=
  call.action = .run ∨
    match database.executions.find? call.childId with
    | none => row.state.unsettled = true
    | some target =>
      if target.state.terminal = true then
        row.state.unsettled = false → row.answered database = some target.childAnswer
      else database.waitAction call.parentLease.executionId target = row.action

/-! ### What a repeated call meets -/

variable {equal} {row later : ChildRequest} {first again : ChildCall} {database : Database}

theorem ChildRegistry.replay_inserted (reflexive : ∀ payload, equal payload payload = true)
    (command : first.action = .run → first.command ≠ none) (waitId : String) (now : Timestamp) :
    replay equal first (inserted first waitId now) = .ok (inserted first waitId now) := by
  unfold replay
  rw [if_neg fun older => older.2 rfl, if_neg (not_or.mpr ⟨fun other => other rfl,
    fun other => other.2 rfl⟩), if_neg]
  rintro ⟨runs, other⟩
  obtain ⟨asked, same⟩ := ne_none_iff_exists'.mp (command runs)
  exact other ⟨asked, same, asked, same, by simp [sameCall, reflexive]⟩

theorem ChildRegistry.replay_again (accepted : replay equal first row = .ok row)
    (becomes : row.Becomes later) (repeats : first.Repeats again) :
    replay equal again later =
      if again.action = later.action then .ok later else .error .requestConflict := by
  obtain ⟨-, attempt, action, child, command⟩ := replay_ok accepted
  unfold replay
  rw [if_neg, becomes.action]
  · by_cases same : again.action = row.action
    · rw [if_neg, if_neg, if_pos same]
      · rintro ⟨runs, other⟩
        obtain ⟨previous, stored, current, asked, equals⟩ := command (repeats.runs.mp runs)
        obtain ⟨known, given, next, comes, facts⟩ := repeats.command (repeats.runs.mp runs)
        cases asked.symm.trans given
        refine other ⟨previous, becomes.command ▸ stored, next, comes, ?_⟩
        unfold sameCall at equals ⊢
        rw [← facts.1, ← facts.2.1, ← facts.2.2.1, ← facts.2.2.2]
        exact equals
      · rintro (other | ⟨waits, other⟩)
        · exact other same.symm
        · have still : first.action ≠ .run := mt repeats.runs.mpr waits
          rw [becomes.childId, repeats.child still] at other
          exact other (child still)
    · rw [if_pos (.inl (Ne.symm same)), if_neg same]
  · rintro ⟨unsettled, other⟩
    rw [becomes.lease, repeats.attempt] at other
    exact other (attempt (becomes.unsettled unsettled))

theorem Database.waitAction_ne (parentId : Identifier) (target : ExecutionRow) :
    database.waitAction parentId target ≠ .run := by
  unfold waitAction
  split
  · split
    · exact nofun
    · split <;> exact nofun
  · exact nofun

variable {registry : ChildRegistry} {capacity : ℕ}

theorem ChildRegistry.register_answers {next : ChildRegistry} {waitId : String} {now : Timestamp}
    {new : Bool} (reflexive : ∀ payload, equal payload payload = true)
    (command : first.action = .run → first.command ≠ none)
    (registered : registry.register equal capacity first waitId now = .ok (row, new, next)) :
    row ∈ next.requests ∧ row.key = (first.parentLease.executionId, first.requestId) ∧
      replay equal first row = .ok row := by
  unfold register at registered
  split at registered
  · rename_i stored found
    obtain ⟨answer, accepted, rest⟩ := Checked.bind_eq_ok.mp registered
    cases rest
    cases (replay_ok accepted).1
    exact ⟨mem_of_find?_eq_some found, by simpa using List.find?_some found, accepted⟩
  · obtain ⟨_, -, rest⟩ := Checked.bind_eq_ok.mp registered
    cases rest
    exact ⟨mem_append_right _ (mem_singleton_self _), rfl,
      replay_inserted reflexive command _ _⟩

theorem ChildRegistry.find?_of_key {drawn : List String} (sound : registry.Sound drawn)
    (member : row ∈ registry.requests) : registry.find? row.key = some row := by
  cases found : registry.find? row.key with
  | none => simpa using List.find?_eq_none.mp found row member
  | some other =>
    have same : other.key = row.key := by simpa using List.find?_some found
    rw [sound.unique (mem_of_find?_eq_some found) member same]

variable {world : ChildWorld}

theorem ChildWorld.enqueue_again (sound : world.Sound) (capacity : ℕ)
    (member : later ∈ world.registry.requests) (becomes : row.Becomes later)
    (key : row.key = (first.parentLease.executionId, first.requestId))
    (accepted : ChildRegistry.replay equal first row = .ok row) (repeats : first.Repeats again) :
    world.enqueue equal capacity again =
      if again.action = later.action then
        .child later.childId (later.answered world.kernel.database)
      else .refused .requestConflict := by
  have found := ChildRegistry.find?_of_key sound.registry member
  rw [becomes.key, key, ← repeats.parent, ← repeats.requestId] at found
  unfold enqueue
  rw [found]
  dsimp only
  rw [ChildRegistry.replay_again accepted becomes repeats]
  by_cases same : again.action = later.action
  · rw [if_pos same, if_pos same]
  · rw [if_neg same, if_neg same]

theorem CallAnswer.replays_recorded (row : ChildRequest) (database : Database) :
    (CallAnswer.child row.childId (row.answered database)).Replays row database :=
  ⟨nofun, fun same => by cases same; rfl, fun _ => rfl⟩

/-- A `wait_for` looks at its target first, and asks again only if that has not ended. -/
theorem ChildWorld.handle_steady (waits : again.action ≠ .run)
    (child : again.childId = later.childId) (asks : ∀ current : ExecutionRow,
      world.enqueue equal capacity { again with
        action := world.kernel.database.waitAction again.parentLease.executionId current
        command := none } =
      if world.kernel.database.waitAction again.parentLease.executionId current = later.action then
        .child later.childId (later.answered world.kernel.database)
      else .refused .requestConflict) :
    (world.handle equal capacity again).Replays later world.kernel.database ↔
      again.Steady world.kernel.database later := by
  unfold handle ChildCall.issued ChildCall.Steady
  rw [if_neg waits, or_iff_right waits]
  cases present : world.kernel.database.executions.find? again.childId with
  | none =>
    refine ⟨fun replays => ?_, fun unsettled => ⟨nofun, nofun, fun settled => ?_⟩⟩
    · by_contra settled
      exact nomatch replays.recorded (Bool.not_eq_true _ ▸ settled)
    · exact nomatch unsettled.symm.trans settled
  | some current =>
    dsimp only
    by_cases ended : current.state.terminal = true
    · rw [if_pos ended, if_pos ended]
      dsimp only
      rw [child]
      refine ⟨fun replays settled => ?_, fun steady => ⟨nofun, fun same => ?_, fun settled => ?_⟩⟩
      · exact ((CallAnswer.child.inj (replays.recorded settled)).2).symm
      · exact (CallAnswer.child.inj same).1.symm
      · rw [steady settled]
    · rw [if_neg ended, if_neg ended]
      dsimp only
      rw [asks current]
      by_cases same : world.kernel.database.waitAction again.parentLease.executionId current =
          later.action
      · rw [if_pos same]
        exact iff_of_true (CallAnswer.replays_recorded later _) same
      · rw [if_neg same]
        exact iff_of_false (fun replays => replays.accepted rfl) same

variable {capacities : ℕ → Prop} {before after last : ChildWorld}

/-- Whenever a call that was registered is repeated by the same attempt, its request is still there,
about the same child. It is given what was recorded exactly if it is a `run`, or a `wait_for` whose
target calls for the same action or has ended with that result. -/
theorem child_calls_replayed (reflexive : ∀ payload, equal payload payload = true)
    (reachable : (childSystem equal capacities).Reachable before) {call again request : ChildCall}
    {capacity : ℕ} {waitId : String} {now : Timestamp} {new : Bool}
    (issued : call.issued before.kernel.database = some request)
    (registered : before.registry.register equal capacity request waitId now =
      .ok (row, new, after.registry))
    (moved : ChildMove equal capacities before .handler after)
    (run : (childSystem equal capacities).Run after last) (repeats : call.Repeats again) :
    ∃ later ∈ last.registry.requests, row.Becomes later ∧
      ∀ bound, (last.handle equal bound again).Replays later last.kernel.database ↔
        again.Steady last.kernel.database later := by
  have reached := reachable.next ⟨.handler, moved⟩
  unfold ChildCall.issued at issued
  by_cases runs : call.action = .run
  · rw [if_pos runs, Option.some.injEq] at issued
    subst issued
    obtain ⟨previous, stored, -⟩ := repeats.command runs
    obtain ⟨member, key, accepted⟩ := ChildRegistry.register_answers reflexive
      (fun _ missing => nomatch missing.symm.trans stored) registered
    obtain ⟨later, inside, becomes⟩ := ChildWorld.becomes reached run member
    refine ⟨later, inside, becomes, fun bound => iff_of_true ?_ (.inl (repeats.runs.mpr runs))⟩
    have action : again.action = later.action := by
      rw [becomes.action, (ChildRegistry.replay_ok accepted).2.2.1, runs, repeats.runs.mpr runs]
    unfold ChildWorld.handle ChildCall.issued
    rw [if_pos (repeats.runs.mpr runs)]
    dsimp only
    rw [ChildWorld.enqueue_again (ChildWorld.sound (reached.run run)) bound inside becomes key
      accepted repeats, if_pos action]
    exact CallAnswer.replays_recorded later _
  · rw [if_neg runs] at issued
    have waits : again.action ≠ .run := mt repeats.runs.mp runs
    split at issued
    · cases issued
    rename_i target found
    split at issued
    · cases issued
    cases issued
    have other := before.kernel.database.waitAction_ne call.parentLease.executionId target
    obtain ⟨member, key, accepted⟩ := ChildRegistry.register_answers reflexive
      (fun asked => absurd asked other) registered
    obtain ⟨later, inside, becomes⟩ := ChildWorld.becomes reached run member
    have child : again.childId = later.childId := by
      rw [becomes.childId, (ChildRegistry.replay_ok accepted).2.2.2.1 other, repeats.child runs]
    refine ⟨later, inside, becomes, fun bound =>
      ChildWorld.handle_steady waits child fun current => ?_⟩
    refine ChildWorld.enqueue_again (ChildWorld.sound (reached.run run)) bound inside becomes key
      accepted ?_
    exact ⟨repeats.requestId, repeats.parent, repeats.attempt,
      iff_of_false (last.kernel.database.waitAction_ne _ _) other,
      fun _ => repeats.child runs, fun asked => absurd asked other⟩

/-! ### A target that is leased in between -/

def sampleWaiting : ChildCall := { sampleAsking with action := .observe, command := none }

def sampleQueued : ChildWorld :=
  { sampleChildren with
    kernel := sampleChildren.kernel.after [(.enrol (.submit sampleChildCommand), sampleClocked 0)] }

def sampleAdopting : ChildWorld :=
  { sampleQueued with
    registry := (⟨[], []⟩ : ChildRegistry).insert { sampleWaiting with action := .adopt } "wait" 0
    handlers := Function.update sampleChildren.handlers 0
      (some (ChildRegistry.inserted { sampleWaiting with action := .adopt } "wait" 0, true))
    drawn := ["wait"] }

def sampleLeased : ChildWorld :=
  { sampleAdopting with
    kernel := Operation.apply (.work (.claim ⟨sampleName, none, none, none, none, none⟩))
      (sampleClocked 0) sampleQueued.kernel }

theorem sampleWaiting_issued : sampleWaiting.issued sampleQueued.kernel.database =
    some { sampleWaiting with action := .adopt } := by
  have facts : (sampleQueued.kernel.database.executions.find? sampleChildName).map (fun target =>
      (target.state, sampleQueued.kernel.database.parentOf target.executionId)) =
        some (.queued, none) := by decide +kernel
  obtain ⟨target, found, same⟩ := map_eq_some_iff.mp facts
  obtain ⟨queued, free⟩ := Prod.mk.inj same
  show (match sampleQueued.kernel.database.executions.find? sampleChildName with
    | none => none
    | some target => _) = _
  rw [found]
  simp only [queued, ExecutionState.terminal, Database.waitAction, free]
  rfl

theorem sampleAdopting_registered :
    sampleQueued.registry.register sampleEqual 1 { sampleWaiting with action := .adopt } "wait" 0 =
      .ok (ChildRegistry.inserted { sampleWaiting with action := .adopt } "wait" 0, true,
        sampleAdopting.registry) := by
  have admitted : ChildRegistry.admissible ⟨[], []⟩ 1 { sampleWaiting with action := .adopt } =
      .ok () := by decide
  show (do ChildRegistry.admissible ⟨[], []⟩ 1 { sampleWaiting with action := .adopt }; _) = _
  rw [admitted]
  rfl

theorem sampleAdopting_move : ChildMove sampleEqual (· = 1) sampleQueued .handler sampleAdopting :=
  .register rfl rfl not_mem_nil sampleAdopting_registered

theorem sampleLeased_run : (childSystem sampleEqual (· = 1)).Run sampleAdopting sampleLeased :=
  .single ⟨.kernel, .kernel _ _⟩

/-- The call of the example is repeated once the execution it waits for has been leased. -/
theorem child_calls_replayed_sample : ∃ later ∈ sampleLeased.registry.requests, ∀ bound,
    (sampleLeased.handle sampleEqual bound sampleWaiting).Replays later
      sampleLeased.kernel.database ↔ sampleWaiting.Steady sampleLeased.kernel.database later := by
  obtain ⟨later, inside, -, exactly⟩ := child_calls_replayed (fun _ => decide_eq_true rfl)
    (ChildWorld.reachable_after sampleChildren_reachable _)
    sampleWaiting_issued sampleAdopting_registered sampleAdopting_move sampleLeased_run
    ⟨rfl, rfl, rfl, .rfl, fun _ => rfl, fun runs => nomatch runs⟩
  exact ⟨later, inside, exactly⟩

/-- The request of the example is open, and the repeated call is a conflict. -/
theorem wait_for_conflicts : (childSystem sampleEqual (· = 1)).Reachable sampleQueued ∧
    sampleWaiting.issued sampleQueued.kernel.database =
      some { sampleWaiting with action := .adopt } ∧
    ChildMove sampleEqual (· = 1) sampleQueued .handler sampleAdopting ∧
    (childSystem sampleEqual (· = 1)).Run sampleAdopting sampleLeased ∧
    sampleLeased.handle sampleEqual 1 sampleWaiting = .refused .requestConflict := by
  refine ⟨ChildWorld.reachable_after sampleChildren_reachable _, sampleWaiting_issued,
    sampleAdopting_move, sampleLeased_run, ?_⟩
  have facts : (sampleLeased.kernel.database.executions.find? sampleChildName).map (·.state) =
      some .leased := by decide +kernel
  obtain ⟨target, found, leased⟩ := map_eq_some_iff.mp facts
  have issued : sampleWaiting.issued sampleLeased.kernel.database = some sampleWaiting := by
    show (match sampleLeased.kernel.database.executions.find? sampleChildName with
      | none => none
      | some target => _) = _
    rw [found]
    simp only [leased, ExecutionState.terminal, Database.waitAction]
    rfl
  unfold ChildWorld.handle
  rw [issued]
  rfl

open Relation Bool

/-! ### Children of settled requests -/

/-- The execution with this name has ended. -/
def KernelState.Ended (kernel : KernelState) (executionId : Identifier) : Prop :=
  ∃ row, kernel.database.executions.find? executionId = some row ∧ row.state.terminal = true

/-- A request that owns a child is settled with an outcome of the child. -/
def ChildRequest.Settled (request : ChildRequest) : Prop :=
  request.action.owns = true ∧ (request.state = .completed ∨ request.state = .failed)

theorem ChildRequest.Settled.closed {request : ChildRequest} (settled : request.Settled) :
    request.state.unsettled = false := by
  rcases settled.2 with same | same
  · rw [same]
    rfl
  · rw [same]
    rfl

/-- Nobody who works on the request with this key may still act. -/
def ChildWorld.Idle (world : ChildWorld) (key : Identifier × Identifier) : Prop :=
  ∀ body ∈ world.bodies, body.row.key = key → body.phase.acts = false

section Orphans

variable (equal : Json → Json → Bool) (capacities : ℕ → Prop)

/-- The child of the request has ended, or nobody who works on the request is ever again about to
submit, adopt or claim it. -/
def ChildWorld.Disposes (world : ChildWorld) (request : ChildRequest) : Prop :=
  world.kernel.Ended request.childId ∨
    ∀ last, (childSystem equal capacities).Run world last → ∀ body ∈ last.bodies,
      body.row.key = request.key → body.phase ≠ .submitting ∧ body.phase ≠ .claiming

/-- It settles a request with an outcome of its child only when the child has ended or nobody who
works on it may still act. -/
def ChildWorld.Permits (before after : ChildWorld) : Prop :=
  ∀ request ∈ before.registry.requests, request.state.unsettled = true →
    ∀ later ∈ after.registry.requests, later.key = request.key → later.Settled →
      before.kernel.Ended request.childId ∨ before.Idle request.key

/-- Handlers and services that settle requests under this condition only. -/
def guardedChildSystem : TransitionSystem ChildWorld where
  initial := (childSystem equal capacities).initial
  step before after := (∃ actor, ChildMove equal capacities before actor after) ∧
    before.Permits after

end Orphans

section Moves

variable {equal : Json → Json → Bool} {capacities : ℕ → Prop} {world : ChildWorld}
  {actor : ChildActor}

theorem guardedChildSystem_reachable
    (reachable : (guardedChildSystem equal capacities).Reachable world) :
    (childSystem equal capacities).Reachable world := by
  refine reachable.invariant _ (fun state initial => .start initial)
    fun before after _ reached step => ?_
  obtain ⟨⟨actor, move⟩, -⟩ := step
  exact reached.next ⟨actor, move⟩

/-! ### What the steps do to the kernel -/

variable {phase : ChildPhase}

variable {next : ChildRegistry}

theorem ChildStep.calls {kernel later : KernelState} {body : ChildBody}
    (step : ChildStep kernel registry body later next phase) :
    ExecutionKernel.kernel.Run kernel later := by
  have call : ∀ operation environment,
      ExecutionKernel.kernel.Run kernel (Operation.apply operation environment kernel) :=
    fun operation environment => .single ⟨operation, environment, rfl⟩
  cases step with
  | submit budget environment => exact call (.enrol (.submitChild _ _ budget)) environment
  | adopt budget environment => exact call (.enrol (.adoptChild _ _ budget)) environment
  | claim request excluded options environment =>
    exact call (.work (.claimAndStart request excluded options)) environment
  | cancel reason environment => exact call (.work (.cancel _ _ reason none)) environment
  | _ => exact .refl

theorem ChildMove.calls (move : ChildMove equal capacities before actor after) :
    ExecutionKernel.kernel.Run before.kernel after.kernel := by
  cases move with
  | kernel operation environment => exact .single ⟨operation, environment, rfl⟩
  | work under step => exact step.calls
  | _ => exact .refl

theorem ChildWorld.kernel_reachable (reachable : (childSystem equal capacities).Reachable world) :
    ExecutionKernel.kernel.Reachable world.kernel := by
  refine reachable.invariant (fun state => ExecutionKernel.kernel.Reachable state.kernel)
    (fun state first => ?_) fun before after _ reached step => ?_
  · exact .start first.1
  obtain ⟨actor, move⟩ := step
  exact reached.run move.calls

theorem KernelState.Ended.stays {state later : KernelState} {executionId : Identifier}
    (ended : state.Ended executionId) (reachable : kernel.Reachable state)
    (run : kernel.Run state later) : later.Ended executionId := by
  obtain ⟨row, stored, terminal⟩ := ended
  exact ⟨row, (ended_stays reachable run stored terminal).1, terminal⟩

/-! ### Who acts -/

theorem ChildPhase.afterCancel_acts (response error : Json.Text) (child : Option ExecutionRow) :
    (afterCancel response error child).acts = false := by
  cases child with
  | none => rfl
  | some child =>
    unfold afterCancel
    dsimp only
    split <;> rfl

theorem ChildStep.acts {kernel later : KernelState} {body : ChildBody}
    (step : ChildStep kernel registry body later next phase) (acts : phase.acts = true) :
    body.phase.acts = true := by
  cases step with
  | begin starting => rw [starting]; rfl
  | submit budget environment error submitting => rw [submitting]; rfl
  | adopt budget environment error submitting => rw [submitting]; rfl
  | adopted submitting => rw [submitting]; rfl
  | publish now publishing => rw [publishing]; rfl
  | watch response error watching => rw [watching]; rfl
  | claim request excluded options environment claiming => rw [claiming]; rfl
  | handle =>
    split at acts <;> cases acts
  | spare response =>
    rw [ChildPhase.afterCancel_acts] at acts
    cases acts
  | cancel reason environment =>
    split at acts <;> cases acts
  | reread response =>
    rw [ChildPhase.afterCancel_acts] at acts
    cases acts
  | _ => cases acts

theorem ChildRegistry.own_keeps (member : row ∈ registry.requests)
    (owner : Identifier) (rows : List ChildRequest) (now : Timestamp) :
    ∃ next ∈ (registry.own owner rows now).requests, next.key = row.key ∧ next.state = row.state := by
  refine ⟨_, mem_map_of_mem member, ?_⟩
  split <;> exact ⟨rfl, rfl⟩

theorem ChildMove.idle (move : ChildMove equal capacities before actor after)
    (sound : before.Sound) (member : later ∈ after.registry.requests)
    (settled : later.Settled) (idle : before.Idle later.key) : after.Idle later.key := by
  have unique := (move.sound sound).registry
  cases move with
  | tick room =>
    rename_i service now free
    intro body working same
    rcases mem_append.mp working with old | new
    · exact idle body old same
    · obtain ⟨row, claimed, rfl⟩ := mem_map.mp new
      have inside := mem_filter.mp (mem_insertionSort _ |>.mp
        (mem_of_mem_take claimed))
      have unsettled : row.state.unsettled = true :=
        (and_eq_true_iff.mp (and_eq_true_iff.mp inside.2).1).1
      obtain ⟨next, found, named, kept⟩ := ChildRegistry.own_keeps inside.1 service.owner
        (before.registry.claims now free) now
      have equal : next = later := unique.unique found member (named.trans same)
      rw [← kept, equal, settled.closed] at unsettled
      cases unsettled
  | observe known observes unsettled =>
    intro body working same
    rcases mem_append.mp working with old | new
    · exact idle body old same
    · rw [mem_singleton.mp new] at same ⊢
      have equal := sound.registry.unique known member same
      rw [← equal] at settled
      have owns := settled.1
      rw [observes] at owns
      cases owns
  | work under step =>
    intro body working same
    rcases mem_or_eq_of_mem_set working with old | rfl
    · exact idle body old same
    · have quiet := idle _ (mem_of_getElem? under) same
      cases acting : ChildPhase.acts _ with
      | false => rfl
      | true => exact absurd (step.acts acting) (eq_false_iff.mp quiet)
  | _ => exact idle

/-! ### What holds of settled requests -/

/-- The child of every settled request has ended, or nobody acts on the request. -/
def ChildWorld.Spared (world : ChildWorld) : Prop :=
  ∀ request ∈ world.registry.requests, request.Settled →
    world.kernel.Ended request.childId ∨ world.Idle request.key

theorem ChildRequest.Becomes.settled_same {request : ChildRequest}
    (becomes : request.Becomes later) (settled : request.Settled) : later.Settled := by
  have same := (becomes.settled settled.closed).1
  refine ⟨?_, ?_⟩
  · rw [becomes.action]
    exact settled.1
  · rw [same]
    exact settled.2

theorem ChildMove.spares (move : ChildMove equal capacities before actor after)
    (reachable : (childSystem equal capacities).Reachable before) (permitted : before.Permits after)
    (spared : before.Spared) : after.Spared := by
  have sound := ChildWorld.sound reachable
  intro later member settled
  have came : ∃ request ∈ before.registry.requests, request.Becomes later := by
    rcases (move.change sound).came member with old | ⟨-, pending⟩
    · exact old
    · have closed := settled.closed
      rw [pending] at closed
      cases closed
  obtain ⟨request, inside, becomes⟩ := came
  have disposed : before.kernel.Ended request.childId ∨ before.Idle request.key := by
    cases state : request.state.unsettled with
    | true => exact permitted request inside state later member becomes.key settled
    | false =>
      refine spared request inside ⟨becomes.action ▸ settled.1, ?_⟩
      rw [← (becomes.settled state).1]
      exact settled.2
  rw [becomes.childId]
  rcases disposed with ended | idle
  · exact .inl (ended.stays (ChildWorld.kernel_reachable reachable) move.calls)
  · rw [← becomes.key] at idle
    exact .inr (move.idle sound member settled idle)

theorem ChildWorld.idle_stays (reachable : (childSystem equal capacities).Reachable world)
    (run : (childSystem equal capacities).Run world last) {request : ChildRequest}
    (member : request ∈ world.registry.requests) (settled : request.Settled)
    (idle : world.Idle request.key) : last.Idle request.key := by
  have kept : (∃ later ∈ last.registry.requests, request.Becomes later) ∧ last.Idle request.key := by
    refine reachable.keeps (fun state => (∃ later ∈ state.registry.requests,
      request.Becomes later) ∧ state.Idle request.key) ?_
      ⟨⟨request, member, .refl request⟩, idle⟩ run
    rintro before after reached ⟨⟨later, inside, became⟩, quiet⟩ ⟨actor, move⟩
    have sound := ChildWorld.sound reached
    obtain ⟨next, found, becomes⟩ := (move.change sound).becomes inside
    have goes := became.trans becomes
    rw [← goes.key] at quiet ⊢
    exact ⟨⟨next, found, goes⟩, move.idle sound found (goes.settled_same settled) quiet⟩
  exact kept.2

/-- In every run in which a request is settled with an outcome of its child only when the child has
ended or nobody who works on the request may still act: once a request is settled so, its child has
ended, or nobody submits, adopts or claims it for that request any more. -/
theorem settled_children_disposed (reachable : (guardedChildSystem equal capacities).Reachable world)
    {request : ChildRequest} (member : request ∈ world.registry.requests)
    (settled : request.Settled) : world.Disposes equal capacities request := by
  have plain := guardedChildSystem_reachable reachable
  have spared : world.Spared := by
    refine reachable.invariant ChildWorld.Spared ?_ fun before after reached kept step => ?_
    · rintro state ⟨-, empty, -⟩ request member
      rw [empty] at member
      cases member
    · obtain ⟨⟨actor, move⟩, permitted⟩ := step
      exact move.spares (guardedChildSystem_reachable reached) permitted kept
  rcases spared request member settled with ended | idle
  · exact .inl ended
  · refine Or.inr fun last run body working same => ?_
    have quiet := ChildWorld.idle_stays plain run member settled idle body working same
    constructor
    · intro submitting
      rw [submitting] at quiet
      cases quiet
    · intro claiming
      rw [claiming] at quiet
      cases quiet

end Moves

/-! ### A child that is left behind -/

section Played

variable {equal : Json → Json → Bool} {next : ChildWorld}

/-- The next step of the work on a request, which may raise instead of going on. -/
def ChildBody.advance (kernel : KernelState) (registry : ChildRegistry) (body : ChildBody)
    (environment : Environment) (now : Timestamp) (raises : Bool) :
    Option (KernelState × ChildRegistry × ChildPhase) :=
  match body.phase with
  | .starting =>
    if raises = true then some (kernel, registry, .failing false [])
    else if body.row.depth ≤ body.service.maxDepth then some (kernel, registry, .submitting)
    else none
  | .submitting =>
    match body.row.action, body.row.command with
    | .run, some command =>
      let answer := submitChild command body.row.parentLease body.row.budget environment kernel
      some (answer.2, registry, match answer.1 with
        | .ok _ => .publishing
        | .error _ => .failing false [])
    | _, _ => none
  | .publishing => some (kernel, registry.markRunning body.row now, .watching)
  | .watching =>
    some (kernel, registry, .watched body.row.action [] []
      (kernel.database.executions.find? body.row.childId))
  | .claiming =>
    let request : ClaimRequest :=
      ⟨body.service.owner, none, none, none, some body.row.childId, none⟩
    some ((claimAndStart request [] ⟨0, none, none⟩ environment kernel).2, registry, .watching)
  | .failing submitted error =>
    some (kernel, registry,
      if body.row.action = .run ∨ (body.row.action = .adopt ∧ (submitted = true ∨
          kernel.database.bindsChild body.row.childId body.row.parentLease = true)) then
        .cancelling error
      else .settling .failed none (some error) true)
  | .cancelling error =>
    match kernel.database.executions.find? body.row.childId with
    | none => some (kernel, registry, .afterCancel [] error none)
    | some _ => none
  | .settling state response error _ =>
    some (kernel, registry.finish body.row state response error now, .ended)
  | _ => none

variable {raises : Bool}

variable {environment : Environment}

theorem ChildBody.advance_steps {kernel later : KernelState} {changed : ChildRegistry}
    {body : ChildBody} {now : Timestamp} {phase : ChildPhase}
    (played : body.advance kernel registry environment now raises = some (later, changed, phase)) :
    ChildStep kernel registry body later changed phase := by
  unfold advance at played
  cases shown : body.phase with
  | starting =>
    rw [shown] at played
    dsimp only at played
    split at played
    · cases played
      have acts : body.phase.acts = true := by rw [shown]; rfl
      have failed := @ChildStep.fail kernel registry body [] acts
      rwa [shown] at failed
    split at played
    · cases played
      rename_i shallow
      exact .begin shown shallow
    · cases played
  | submitting =>
    rw [shown] at played
    dsimp only at played
    split at played
    · rename_i command runs recorded
      cases played
      exact .submit _ _ _ shown runs recorded
    · cases played
  | publishing =>
    rw [shown] at played
    cases played
    exact .publish now shown
  | watching =>
    rw [shown] at played
    cases played
    exact .watch _ _ shown
  | claiming =>
    rw [shown] at played
    cases played
    exact .claim _ _ _ _ shown rfl
  | failing submitted error =>
    rw [shown] at played
    cases played
    exact .handle shown
  | cancelling error =>
    rw [shown] at played
    dsimp only at played
    split at played
    · rename_i absent
      cases played
      have spared := @ChildStep.spare kernel registry body error [] shown
        fun child found => nomatch absent.symm.trans found
      rwa [absent] at spared
    · cases played
  | settling state response error handled =>
    rw [shown] at played
    cases played
    exact .settle now shown
  | _ =>
    rw [shown] at played
    cases played

def ChildWorld.advance (world : ChildWorld) (index : ℕ) (environment : Environment)
    (now : Timestamp) (raises : Bool) : Option ChildWorld := do
  let body ← world.bodies[index]?
  let (kernel, registry, phase) ← body.advance world.kernel world.registry environment now raises
  return { world with kernel, registry, bodies := world.bodies.set index { body with phase } }

theorem ChildWorld.advance_moves {index : ℕ} {now : Timestamp}
    (played : world.advance index environment now raises = some next) :
    ChildMove equal capacities world (.body index) next := by
  unfold advance at played
  obtain ⟨body, under, played⟩ := bind_eq_some_iff.mp played
  obtain ⟨⟨kernel, registry, phase⟩, stepped, played⟩ := bind_eq_some_iff.mp played
  cases played
  exact .work under (ChildBody.advance_steps stepped)

/-- No request is settled, or nobody acts. -/
def ChildWorld.quiet (before after : ChildWorld) : Bool :=
  after.registry.requests.all (fun request => request.state.unsettled) ||
    before.bodies.all fun body => !body.phase.acts

theorem ChildWorld.permits_of_quiet (quiet : world.quiet next = true) : world.Permits next := by
  intro request member unsettled later inside same settled
  rcases or_eq_true_iff.mp quiet with all_ | still
  · have remains := all_eq_true.mp all_ later inside
    rw [settled.closed] at remains
    cases remains
  · refine Or.inr fun body working _ => ?_
    have rests := all_eq_true.mp still body working
    rwa [not_eq_true'] at rests

/-- The work goes on in this order; with `careful`, requests are settled only while nobody acts. -/
def ChildWorld.play (careful : Bool) (world : ChildWorld)
    (calls : List (ℕ × Environment × Timestamp × Bool)) : Option ChildWorld :=
  calls.foldlM (fun world (index, environment, now, raises) => do
    let next ← world.advance index environment now raises
    guard (careful = false ∨ world.quiet next = true)
    return next) world

variable {calls : List (ℕ × Environment × Timestamp × Bool)}

theorem ChildWorld.play_runs {careful : Bool} (played : world.play careful calls = some next) :
    (childSystem equal capacities).Run world next := by
  induction calls generalizing world with
  | nil =>
    cases played
    exact .refl
  | cons call rest hypothesis =>
    obtain ⟨middle, stepped, played⟩ := bind_eq_some_iff.mp played
    obtain ⟨reached, advanced, stepped⟩ := bind_eq_some_iff.mp stepped
    obtain ⟨_, -, stepped⟩ := bind_eq_some_iff.mp stepped
    cases stepped
    exact .head ⟨_, ChildWorld.advance_moves advanced⟩ (hypothesis played)

theorem ChildWorld.play_guarded (played : world.play true calls = some next) :
    (guardedChildSystem equal capacities).Run world next := by
  induction calls generalizing world with
  | nil =>
    cases played
    exact .refl
  | cons call rest hypothesis =>
    obtain ⟨middle, stepped, played⟩ := bind_eq_some_iff.mp played
    obtain ⟨reached, advanced, stepped⟩ := bind_eq_some_iff.mp stepped
    obtain ⟨_, allowed, stepped⟩ := bind_eq_some_iff.mp stepped
    cases stepped
    have quiet := ((guard_eq_some' _).mp allowed).resolve_left (by decide)
    exact .head ⟨⟨_, ChildWorld.advance_moves advanced⟩, ChildWorld.permits_of_quiet quiet⟩
      (hypothesis played)

theorem ChildWorld.permits_of_empty (empty : world.registry.requests = []) :
    world.Permits next := by
  intro request member
  rw [empty] at member
  cases member

theorem ChildWorld.guarded_after (reachable : (guardedChildSystem equal capacities).Reachable world)
    (empty : world.registry.requests = []) (calls : List (Operation × Environment)) :
    (guardedChildSystem equal capacities).Reachable
      { world with kernel := world.kernel.after calls } := by
  induction calls generalizing world with
  | nil => exact reachable
  | cons call rest hypothesis =>
    have move : ChildMove equal capacities world .kernel
        { world with kernel := call.1.apply call.2 world.kernel } := .kernel call.1 call.2
    exact hypothesis
      (reachable.next ⟨⟨.kernel, move⟩, ChildWorld.permits_of_empty empty⟩) empty

end Played

def sampleChildService : ChildService := ⟨sampleName, 1, 1⟩

/-- A service takes up the request of the example, if it may. -/
def ChildWorld.ticked (world : ChildWorld) (service : ChildService) (now : Timestamp) :
    ChildWorld :=
  { world with
    registry := world.registry.own service.owner (world.registry.claims now 1) now
    bodies := world.bodies ++
      (world.registry.claims now 1).map fun row => ⟨service, row, .starting⟩ }

/-- Two services have taken up the request, the second one once the name of the first had run out. -/
def sampleTaken : ChildWorld :=
  (sampleAsked.ticked sampleChildService 0).ticked ⟨sampleChildName, 1, 1⟩ 3

/-- The second service fails before it submits the child, finds no child and settles the request. -/
def sampleForsaken : Option ChildWorld :=
  sampleTaken.play false [(1, sampleClocked 0, 3, true), (1, sampleClocked 0, 3, false),
    (1, sampleClocked 0, 3, false), (1, sampleClocked 0, 3, false)]

/-- The first service begins, and then submits the child, publishes it, looks at it and claims it. -/
def sampleOrphaned : Option ChildWorld :=
  sampleForsaken.bind fun world => world.play false
    (List.replicate 5 (0, sampleClocked 0, 3, false))

/-- Only the first service works on the request: it fails, finds no child and settles it. -/
def sampleAbandoned : Option ChildWorld :=
  (sampleAsked.ticked sampleChildService 0).play true [(0, sampleClocked 0, 1, true),
    (0, sampleClocked 0, 1, false), (0, sampleClocked 0, 1, false), (0, sampleClocked 0, 1, false)]

def ChildPhase.submits : ChildPhase → Bool
  | .submitting => true
  | _ => false

theorem ChildPhase.submits_eq {phase : ChildPhase} (submits : phase.submits = true) :
    phase = .submitting := by
  cases phase <;> cases submits
  rfl

/-- The request of the example is settled as failed, with this state of its child. -/
def ChildWorld.failedWith (world : ChildWorld) (state : Option ExecutionState) : Bool :=
  world.registry.requests.head?.any (fun request => decide (request.state = .failed) &&
    decide (request.action = .run) && decide (request.childId = sampleChildName) &&
    decide (request.key = (sampleName, sampleName))) &&
  decide ((world.kernel.database.executions.find? sampleChildName).map (·.state) = state)

theorem ChildWorld.failedWith_eq {state : Option ExecutionState}
    (failed : world.failedWith state = true) :
    (∃ request ∈ world.registry.requests, request.state = .failed ∧ request.action = .run ∧
      request.childId = sampleChildName ∧ request.key = (sampleName, sampleName)) ∧
    (world.kernel.database.executions.find? sampleChildName).map (·.state) = state := by
  obtain ⟨settled, child⟩ := and_eq_true_iff.mp failed
  obtain ⟨request, first, held⟩ := (any_eq_true _ _).mp settled
  obtain ⟨held, keyed⟩ := and_eq_true_iff.mp held
  obtain ⟨held, named⟩ := and_eq_true_iff.mp held
  obtain ⟨failed, runs⟩ := and_eq_true_iff.mp held
  exact ⟨⟨request, mem_of_mem_head? first, of_decide_eq_true failed, of_decide_eq_true runs,
    of_decide_eq_true named, of_decide_eq_true keyed⟩, of_decide_eq_true child⟩

theorem sampleTaken_reachable : (childSystem sampleEqual (· = 1)).Reachable sampleTaken := by
  have first : ChildMove sampleEqual (· = 1) sampleAsked .service
      (sampleAsked.ticked sampleChildService 0) := .tick (by decide)
  have second : ChildMove sampleEqual (· = 1) (sampleAsked.ticked sampleChildService 0) .service
      sampleTaken := .tick (by decide)
  exact (sampleAsked_reachable.next ⟨_, first⟩).next ⟨_, second⟩

theorem sampleAsked_permitted : (guardedChildSystem sampleEqual (· = 1)).Reachable sampleAsked := by
  have fresh : (guardedChildSystem sampleEqual (· = 1)).Reachable
      { sampleChildren with kernel := .initial sampleName } :=
    .start ⟨⟨sampleName, rfl⟩, rfl, rfl, rfl⟩
  have started : (guardedChildSystem sampleEqual (· = 1)).Reachable sampleChildren :=
    ChildWorld.guarded_after fresh rfl (sampleBinding.take 5)
  exact started.next ⟨⟨.handler, sampleAsked_registered⟩, ChildWorld.permits_of_empty rfl⟩

theorem sampleAsked_guarded :
    (guardedChildSystem sampleEqual (· = 1)).Reachable (sampleAsked.ticked sampleChildService 0) := by
  have move : ChildMove sampleEqual (· = 1) sampleAsked .service
      (sampleAsked.ticked sampleChildService 0) := .tick (by decide)
  have quiet : sampleAsked.quiet (sampleAsked.ticked sampleChildService 0) = true := by
    decide
  exact sampleAsked_permitted.next ⟨⟨.service, move⟩, ChildWorld.permits_of_quiet quiet⟩

theorem sample_outcomes :
    (sampleAbandoned.any fun world => world.failedWith none) = true ∧
    (sampleForsaken.any fun world => world.failedWith none &&
      (world.play false [(0, sampleClocked 0, 3, false)]).any fun next =>
        next.bodies.head?.any fun body =>
          body.phase.submits && decide (body.row.key = (sampleName, sampleName))) = true ∧
    (sampleOrphaned.any fun world => world.failedWith (some .running)) = true := by
  decide +kernel

/-- The request of the example is given up, and nobody can submit the child any more. -/
theorem settled_children_disposed_sample : ∃ world request,
    (guardedChildSystem sampleEqual (· = 1)).Reachable world ∧
    request ∈ world.registry.requests ∧ request.Settled ∧
    world.Disposes sampleEqual (· = 1) request := by
  obtain ⟨world, played, outcome⟩ := (any_eq_true _ _).mp sample_outcomes.1
  obtain ⟨⟨request, member, failed, runs, -, -⟩, -⟩ := ChildWorld.failedWith_eq outcome
  have settled : request.Settled := ⟨by rw [runs]; rfl, Or.inr failed⟩
  have reached := sampleAsked_guarded.run (ChildWorld.play_guarded played)
  exact ⟨world, request, reached, member, settled,
    settled_children_disposed reached member settled⟩

/-- One service settles a request as failed while another has just begun to work on it, which then
submits the child and claims it. -/
theorem settled_child_left_behind : ∃ world last request,
    (childSystem sampleEqual (· = 1)).Reachable world ∧
    request ∈ world.registry.requests ∧ request.action = .run ∧ request.state = .failed ∧
    world.kernel.database.executions.find? request.childId = none ∧
    (childSystem sampleEqual (· = 1)).Run world last ∧
    (last.kernel.database.executions.find? request.childId).map (·.state) = some .running ∧
    ¬ world.Disposes sampleEqual (· = 1) request := by
  obtain ⟨forsaken, orphaned⟩ := sample_outcomes.2
  obtain ⟨world, played, forsaken⟩ := (any_eq_true _ _).mp forsaken
  obtain ⟨settled, begun⟩ := and_eq_true_iff.mp forsaken
  obtain ⟨next, steps, begun⟩ := (any_eq_true _ _).mp begun
  obtain ⟨body, first, begun⟩ := (any_eq_true _ _).mp begun
  obtain ⟨submits, keyed⟩ := and_eq_true_iff.mp begun
  obtain ⟨last, rest, orphaned⟩ := (any_eq_true _ _).mp orphaned
  obtain ⟨⟨request, member, failed, runs, named, key⟩, absent⟩ := ChildWorld.failedWith_eq settled
  obtain ⟨-, running⟩ := ChildWorld.failedWith_eq orphaned
  unfold sampleOrphaned at rest
  rw [played] at rest
  rw [map_eq_none_iff] at absent
  rw [← named] at absent running
  refine ⟨world, last, request, sampleTaken_reachable.run (ChildWorld.play_runs played), member,
    runs, failed, absent, ChildWorld.play_runs rest, running, ?_⟩
  rintro (⟨row, stored, -⟩ | never)
  · cases absent.symm.trans stored
  · have apart := never next (ChildWorld.play_runs steps) body (mem_of_mem_head? first)
      ((of_decide_eq_true keyed).trans key.symm)
    exact apart.1 (ChildPhase.submits_eq submits)

end DispatcherSdk.ExecutionKernel
