/-
This file proves what the registry of child requests keeps to in every run.

Every change of the registry is one of three: a request is inserted together with its wait, a
request is settled together with its wait, or requests are rewritten in what neither identifies
nor settles them.
-/

import DispatcherSdk.ExecutionKernel.ChildDepth

namespace DispatcherSdk.ExecutionKernel

open Library

/-! ### The rows of the journal -/

/-- The `action` of a request. -/
inductive ChildAction where
  | run
  | adopt
  | observe
  deriving DecidableEq

/-- A request with this action owns its child. -/
def ChildAction.owns : ChildAction → Bool
  | run | adopt => true
  | observe => false

/-- The `state` of a request. -/
inductive ChildRequestState where
  | pending
  | running
  | completed
  | failed
  | unknown
  | cancelled
  deriving DecidableEq

/-- `_OPEN`. -/
def ChildRequestState.unsettled : ChildRequestState → Bool
  | pending | running => true
  | completed | failed | unknown | cancelled => false

/-- A row of `sdk_child_requests`. -/
structure ChildRequest where
  parentLease : ExecutionLease
  requestId : Identifier
  childId : Identifier
  depth : ℕ
  action : ChildAction
  state : ChildRequestState
  command : Option ExecutionCommand
  budget : BudgetEnvelope
  waitId : String
  createdAt : Timestamp
  updatedAt : Timestamp
  response : Option Json.Text
  error : Option Json.Text
  /-- `service_owner` and `owner_expires_at`. -/
  owner : Option (Identifier × Timestamp)

def ChildRequest.key (request : ChildRequest) : Identifier × Identifier :=
  (request.parentLease.executionId, request.requestId)

/-- A row of `sdk_child_waits`; without a state it is open. -/
structure ChildWait where
  waitId : String
  parentId : Identifier
  parentAttempt : ℕ
  parentFence : ℕ
  targetId : Identifier
  reason : Identifier
  startedAt : Timestamp
  deadlineAt : Timestamp
  state : Option ChildRequestState
  updatedAt : Timestamp
  error : Option Json.Text

structure ChildRegistry where
  requests : List ChildRequest
  waits : List ChildWait

/-! ### Registration -/

/-- The code of a `ChildExecutionError` that a registration raises. -/
inductive ChildRefusal where
  | previousAttempt
  | requestConflict
  | waitCycle
  | graphLimit
  | capacityExhausted
  | relationshipConflict
  deriving DecidableEq

structure ChildCall where
  parentLease : ExecutionLease
  requestId : Identifier
  childId : Identifier
  depth : ℕ
  action : ChildAction
  command : Option ExecutionCommand
  budget : BudgetEnvelope
  reason : Identifier
  deadlineAt : Timestamp

def maxGraphNodes : ℕ := 256

namespace ChildRegistry

def find? (registry : ChildRegistry) (key : Identifier × Identifier) : Option ChildRequest :=
  registry.requests.find? fun request => request.key = key

/-- The targets of the open waits of an execution. -/
def targets (registry : ChildRegistry) (parentId : Identifier) : List Identifier :=
  (registry.waits.filter fun wait => wait.parentId = parentId ∧ wait.state = none).map (·.targetId)

/-- `_cycle`: whether the target waits for the parent already, as far as that can be seen. -/
def cycle (registry : ChildRegistry) (parentId targetId : Identifier) : StackSearch.Outcome :=
  StackSearch.search registry.targets maxGraphNodes parentId maxGraphNodes [targetId] []

/-- The requests that hold a place of the capacity. -/
def reserved (registry : ChildRegistry) : ℕ :=
  registry.requests.countP fun request => request.action.owns && request.state.unsettled

/-- The two commands ask for the same call. `equal` is the equality of payloads. -/
def sameCall (equal : Json → Json → Bool) (previous current : ExecutionCommand) : Bool :=
  decide (previous.handlerId = current.handlerId) &&
    decide (previous.handlerContractVersion = current.handlerContractVersion) &&
    equal previous.payload current.payload &&
    decide (previous.timeoutSeconds = current.timeoutSeconds)

/-- The answer to a registration whose key is in use. -/
def replay (equal : Json → Json → Bool) (call : ChildCall) (row : ChildRequest) :
    Except ChildRefusal ChildRequest :=
  if row.state.unsettled = true ∧ (row.parentLease.attempt, row.parentLease.fence) ≠
      (call.parentLease.attempt, call.parentLease.fence) then .error .previousAttempt
  else if row.action ≠ call.action ∨ (call.action ≠ .run ∧ row.childId ≠ call.childId) then
    .error .requestConflict
  else if call.action = .run ∧
      ¬ ∃ previous ∈ row.command, ∃ current ∈ call.command,
        sameCall equal previous current = true then
    .error .requestConflict
  else .ok row

def inserted (call : ChildCall) (waitId : String) (now : Timestamp) : ChildRequest where
  parentLease := call.parentLease
  requestId := call.requestId
  childId := call.childId
  depth := call.depth
  action := call.action
  state := .pending
  command := call.command
  budget := call.budget
  waitId := waitId
  createdAt := now
  updatedAt := now
  response := none
  error := none
  owner := none

/-- The wait that a registration inserts. -/
def insertedWait (call : ChildCall) (waitId : String) (now : Timestamp) : ChildWait where
  waitId := waitId
  parentId := call.parentLease.executionId
  parentAttempt := call.parentLease.attempt
  parentFence := call.parentLease.fence
  targetId := call.childId
  reason := call.reason
  startedAt := now
  deadlineAt := call.deadlineAt
  state := none
  updatedAt := now
  error := none

/-- The checks on a registration whose key is not in use. -/
def admissible (registry : ChildRegistry) (capacity : ℕ) (call : ChildCall) :
    Except ChildRefusal Unit :=
  match registry.cycle call.parentLease.executionId call.childId with
  | .reached => .error .waitCycle
  | .limited => .error .graphLimit
  | .unreached =>
    if maxGraphNodes ≤ registry.waits.countP fun wait => wait.state = none then .error .graphLimit
    else if call.action.owns = true then
      if capacity ≤ registry.reserved then .error .capacityExhausted
      else if registry.requests.any fun request =>
          decide (request.childId = call.childId) && request.action.owns then
        .error .relationshipConflict
      else .ok ()
    else .ok ()

/-- The registry once a request is registered. -/
def insert (registry : ChildRegistry) (call : ChildCall) (waitId : String) (now : Timestamp) :
    ChildRegistry where
  requests := registry.requests ++ [inserted call waitId now]
  waits := registry.waits ++ [insertedWait call waitId now]

/-! ### Later changes -/

/-- An `UPDATE` of an open request. -/
def change (registry : ChildRegistry) (key : Identifier × Identifier)
    (rewrite : ChildRequest → ChildRequest) : ChildRegistry :=
  { registry with
    requests := registry.requests.map fun request =>
      if request.key = key ∧ request.state.unsettled = true then rewrite request else request }

/-- `finish`, by somebody who holds a copy of the row. -/
def finish (registry : ChildRegistry) (row : ChildRequest) (state : ChildRequestState)
    (response error : Option Json.Text) (now : Timestamp) : ChildRegistry :=
  let changed := registry.requests.any fun request =>
    decide (request.key = row.key) && request.state.unsettled
  { requests :=
      (registry.change row.key fun request =>
        { request with state, response, error, updatedAt := now, owner := none }).requests
    waits :=
      if changed then
        registry.waits.map fun wait =>
          if wait.waitId = row.waitId then { wait with state := some state, error, updatedAt := now }
          else wait
      else registry.waits }

/-- `_retain_registration`. -/
def retain (registry : ChildRegistry) (row : ChildRequest) (error : Json.Text) (now : Timestamp) :
    ChildRegistry :=
  registry.change row.key fun request =>
    { request with error := some error, updatedAt := now, owner := none }

def markRunning (registry : ChildRegistry) (row : ChildRequest) (now : Timestamp) : ChildRegistry :=
  { registry with
    requests := registry.requests.map fun request =>
      if request.key = row.key ∧ request.state = .pending then
        { request with state := .running, updatedAt := now }
      else request }

/-- The floor of the clock of a request is raised. -/
def remember (registry : ChildRegistry) (row : ChildRequest) (budget : BudgetEnvelope)
    (now : Timestamp) : ChildRegistry :=
  registry.change row.key fun request => { request with budget, updatedAt := now }

/-- A request that a service may take up. -/
def claimable (request : ChildRequest) (now : Timestamp) : Bool :=
  request.state.unsettled && request.action.owns &&
    match request.owner with
    | none => true
    | some (_, expiresAt) => decide (expiresAt ≤ now)

/-- The rows that a tick takes up, oldest first. -/
def claims (registry : ChildRegistry) (now : Timestamp) (free : ℕ) : List ChildRequest :=
  ((registry.requests.filter fun request => claimable request now).insertionSort
    fun left right => left.createdAt < right.createdAt ∨
      (left.createdAt = right.createdAt ∧ left.requestId.text ≤ right.requestId.text)).take free

/-- The name of a service is put on the rows that it takes up. -/
def own (registry : ChildRegistry) (owner : Identifier) (rows : List ChildRequest)
    (now : Timestamp) : ChildRegistry :=
  { registry with
    requests := registry.requests.map fun request =>
      if ∃ row ∈ rows, row.key = request.key then
        { request with owner := some (owner, now + 2), updatedAt := now }
      else request }

def renew (registry : ChildRegistry) (owner : Identifier) (row : ChildRequest) (now : Timestamp) :
    ChildRegistry :=
  registry.change row.key fun request =>
    if request.owner.map Prod.fst = some owner then
      { request with owner := some (owner, now + 2) }
    else request

end ChildRegistry

/-! ### Work on a request -/

/-- The configuration of a `ChildService`. -/
structure ChildService where
  owner : Identifier
  capacity : ℕ
  maxDepth : ℕ

inductive ChildPhase where
  /-- The row has been read; checks and declarations are made. -/
  | starting
  /-- `submit_child` or `adopt_child` is called next. -/
  | submitting
  /-- `mark_running` is called next. -/
  | publishing
  /-- The child is looked at next. -/
  | watching
  /-- `run_once` is called next. -/
  | claiming
  /-- An error has been raised; `submitted` says that the child was submitted or adopted here. -/
  | failing (submitted : Bool) (error : Json.Text)
  /-- `_cancel` is called next. -/
  | cancelling (error : Json.Text)
  /-- The child is looked at once more after its cancellation. -/
  | cancelled (error : Json.Text)
  /-- `_retain_registration` is called next. -/
  | retaining
  /-- `finish` is called next; `handled` says that it is for an error. -/
  | settling (state : ChildRequestState) (response error : Option Json.Text) (handled : Bool)
  | ended

namespace ChildPhase

/-- Before its failure or its end, work may still submit, adopt or claim the child. -/
def acts : ChildPhase → Bool
  | starting | submitting | publishing | watching | claiming => true
  | failing .. | cancelling _ | cancelled _ | retaining | settling .. | ended => false

/-- The child was submitted or adopted here. -/
def submitted : ChildPhase → Bool
  | publishing | watching | claiming => true
  | _ => false

end ChildPhase

/-- Work of a service on a request: the copy of the row it has read, and where it stands. -/
structure ChildBody where
  service : ChildService
  row : ChildRequest
  phase : ChildPhase

/-- The committed relationship of a child is that of the lease of its parent. -/
def Database.bindsChild (database : Database) (childId : Identifier) (lease : ExecutionLease) :
    Bool :=
  match database.parentOf childId with
  | none => false
  | some parent => decide ((parent.executionId, parent.attempt, parent.fence) =
      (lease.executionId, lease.attempt, lease.fence))

/-- The state in which a result settles a request. -/
def ExecutionResult.settles (result : ExecutionResult) : ChildRequestState :=
  if result.status = .succeeded then .completed else .failed

/-- What the loop of `_execute` does with the child it has looked at. -/
def ChildPhase.watched (action : ChildAction) (response error : Json.Text) :
    Option ExecutionRow → ChildPhase
  | none => .failing true error
  | some child =>
    if child.state.terminal = true then
      .settling ((child.result.map ExecutionResult.settles).getD .failed) (some response) none false
    else if child.state = .recoveryRequired then .settling .unknown none (some error) false
    else if action ≠ .observe ∧ child.state = .queued then .claiming
    else .watching

/-- How a failure is settled once the child has been looked at by `_cancel`. -/
def ChildPhase.afterCancel (response error : Json.Text) : Option ExecutionRow → ChildPhase
  | none => .settling .failed none (some error) true
  | some child =>
    match child.result with
    | none => .settling .failed none (some error) true
    | some result =>
      .settling (if result.status = .succeeded then .completed else .failed) (some response)
        (some error) true

/-! ### The steps of the work on a request -/

/-- One call of the work on a request, and what it leaves. Whatever is asked about time, authority
or a declaration may fail. -/
inductive ChildStep (kernel : KernelState) (registry : ChildRegistry) (body : ChildBody) :
    KernelState → ChildRegistry → ChildPhase → Prop
  | begin (starting : body.phase = .starting) (shallow : body.row.depth ≤ body.service.maxDepth) :
      ChildStep kernel registry body kernel registry .submitting
  | submit {command : ExecutionCommand} (budget : BudgetEnvelope) (environment : Environment)
      (error : Json.Text) (submitting : body.phase = .submitting) (runs : body.row.action = .run)
      (recorded : body.row.command = some command) :
      ChildStep kernel registry body
        (submitChild command body.row.parentLease budget environment kernel).2 registry
        (match (submitChild command body.row.parentLease budget environment kernel).1 with
          | .ok _ => .publishing
          | .error _ => .failing false error)
  | adopt (budget : BudgetEnvelope) (environment : Environment) (error : Json.Text)
      (submitting : body.phase = .submitting) (adopts : body.row.action = .adopt) :
      ChildStep kernel registry body
        (adoptChild body.row.childId body.row.parentLease budget environment kernel).2 registry
        (match (adoptChild body.row.childId body.row.parentLease budget environment kernel).1 with
          | .ok _ => .publishing
          | .error _ =>
            .failing (kernel.database.bindsChild body.row.childId body.row.parentLease) error)
  /-- The child has been adopted by an earlier service, and is not queued any more. -/
  | adopted {child : ExecutionRow} (submitting : body.phase = .submitting)
      (adopts : body.row.action = .adopt)
      (bound : kernel.database.bindsChild body.row.childId body.row.parentLease = true)
      (found : kernel.database.executions.find? body.row.childId = some child)
      (begun : child.state ≠ .queued) :
      ChildStep kernel registry body kernel registry .publishing
  | publish (now : Timestamp) (publishing : body.phase = .publishing) :
      ChildStep kernel registry body kernel (registry.markRunning body.row now) .watching
  | watch (response error : Json.Text) (watching : body.phase = .watching) :
      ChildStep kernel registry body kernel registry
        (.watched body.row.action response error
          (kernel.database.executions.find? body.row.childId))
  | claim (request : ClaimRequest) (excluded : List Identifier) (options : StartOptions)
      (environment : Environment) (claiming : body.phase = .claiming)
      (named : request.executionId = some body.row.childId) :
      ChildStep kernel registry body (claimAndStart request excluded options environment kernel).2
        registry .watching
  /-- Something raises before the outcome of the child is known. -/
  | fail (error : Json.Text) (acts : body.phase.acts = true) :
      ChildStep kernel registry body kernel registry (.failing body.phase.submitted error)
  /-- The journal cannot be written at the end of the loop. -/
  | unpublished {state : ChildRequestState} {response error : Option Json.Text}
      (cause : Json.Text) (settling : body.phase = .settling state response error false) :
      ChildStep kernel registry body kernel registry (.failing true cause)
  /-- The outcome of the child or the revocation of its parent cannot be established. -/
  | retain (cause : Json.Text) (now : Timestamp)
      (handling : (∃ submitted error, body.phase = .failing submitted error) ∨
        (∃ error, body.phase = .cancelling error) ∨ (∃ error, body.phase = .cancelled error) ∨
        body.phase = .retaining) :
      ChildStep kernel registry body kernel (registry.retain body.row cause now) .ended
  /-- After a failure the child is cancelled, unless it was never adopted. -/
  | handle {submitted : Bool} {error : Json.Text}
      (failing : body.phase = .failing submitted error) :
      ChildStep kernel registry body kernel registry
        (if body.row.action = .run ∨ (body.row.action = .adopt ∧ (submitted = true ∨
            kernel.database.bindsChild body.row.childId body.row.parentLease = true)) then
          .cancelling error
        else .settling .failed none (some error) true)
  /-- `_cancel` finds no child, or one that it does not cancel. -/
  | spare {error : Json.Text} (response : Json.Text) (cancelling : body.phase = .cancelling error)
      (ended : ∀ child, kernel.database.executions.find? body.row.childId = some child →
        child.state.terminal = true ∨ child.state = .recoveryRequired) :
      ChildStep kernel registry body kernel registry
        (.afterCancel response error (kernel.database.executions.find? body.row.childId))
  /-- `_cancel` cancels a child that is under way. -/
  | cancel {error : Json.Text} {child : ExecutionRow} (reason : Identifier)
      (environment : Environment) (cancelling : body.phase = .cancelling error)
      (found : kernel.database.executions.find? body.row.childId = some child)
      (live : child.state.terminal = false ∧ child.state ≠ .recoveryRequired) :
      ChildStep kernel registry body
        (ExecutionKernel.cancel body.row.childId (.revision child.revision) reason none environment
          kernel).2 registry
        (match (ExecutionKernel.cancel body.row.childId (.revision child.revision) reason none
            environment kernel).1 with
          | .ok _ => .cancelled error
          | .error _ => .retaining)
  | reread {error : Json.Text} (response : Json.Text) (cancelled : body.phase = .cancelled error) :
      ChildStep kernel registry body kernel registry
        (.afterCancel response error (kernel.database.executions.find? body.row.childId))
  | settle {state : ChildRequestState} {response error : Option Json.Text} {handled : Bool}
      (now : Timestamp) (settling : body.phase = .settling state response error handled) :
      ChildStep kernel registry body kernel (registry.finish body.row state response error now)
        .ended
  /-- The process of the service ends. -/
  | crash : ChildStep kernel registry body kernel registry .ended

/-! ### Handlers, services and the kernel -/

/-- A kernel and a journal, the handlers that have registered a request or met one, and the work of
all services. -/
structure ChildWorld where
  kernel : KernelState
  registry : ChildRegistry
  /-- The row that a handler holds, and whether it has inserted it. -/
  handlers : ℕ → Option (ChildRequest × Bool)
  bodies : List ChildBody
  /-- The names that were drawn for waits. -/
  drawn : List String

inductive ChildActor where
  | kernel
  | handler
  | service
  | body (index : ℕ)

section Moves

variable (equal : Json → Json → Bool) (capacities : ℕ → Prop)

/-- `_enqueue`, from its transaction on. -/
def ChildRegistry.register (registry : ChildRegistry) (capacity : ℕ) (call : ChildCall)
    (waitId : String) (now : Timestamp) :
    Except ChildRefusal (ChildRequest × Bool × ChildRegistry) :=
  match registry.find? (call.parentLease.executionId, call.requestId) with
  | some row => do
    let answer ← replay equal call row
    return (answer, false, registry)
  | none => do
    registry.admissible capacity call
    return (inserted call waitId now, true, registry.insert call waitId now)

inductive ChildMove (before : ChildWorld) : ChildActor → ChildWorld → Prop
  /-- Anything else that is done with the kernel. -/
  | kernel (operation : Operation) (environment : Environment) :
      ChildMove before .kernel { before with kernel := operation.apply environment before.kernel }
  /-- A handler registers a request, or meets its own. -/
  | register {index capacity : ℕ} {call : ChildCall} {waitId : String} {now : Timestamp}
      {row : ChildRequest} {new : Bool} {registry : ChildRegistry} (used : capacities capacity)
      (vacant : before.handlers index = none) (fresh : waitId ∉ before.drawn)
      (registered : before.registry.register equal capacity call waitId now =
        .ok (row, new, registry)) :
      ChildMove before .handler
        { before with
          registry
          handlers := Function.update before.handlers index (some (row, new))
          drawn := waitId :: before.drawn }
  /-- The authority of the handler is gone right after it has registered a request. -/
  | withdraw {index : ℕ} {row : ChildRequest} (error : Json.Text) (now : Timestamp)
      (holds : before.handlers index = some (row, true)) :
      ChildMove before .handler
        { before with
          registry := before.registry.finish row .cancelled none (some error) now
          handlers := Function.update before.handlers index none }
  /-- A handler raises the floor of the clock of its request. -/
  | remember {index : ℕ} {row : ChildRequest} {new : Bool} (budget : BudgetEnvelope)
      (now : Timestamp) (holds : before.handlers index = some (row, new)) :
      ChildMove before .handler { before with registry := before.registry.remember row budget now }
  /-- A handler waits from now on, or its process ends. -/
  | leave (index : ℕ) :
      ChildMove before .handler
        { before with handlers := Function.update before.handlers index none }
  /-- A service takes up requests. -/
  | tick {service : ChildService} {now : Timestamp} {free : ℕ}
      (room : free + before.bodies.countP (fun body =>
        decide (body.service.owner = service.owner) && body.phase.acts) ≤ service.capacity) :
      ChildMove before .service
        { before with
          registry := before.registry.own service.owner (before.registry.claims now free) now
          bodies := before.bodies ++
            (before.registry.claims now free).map fun row => ⟨service, row, .starting⟩ }
  /-- A service renews its name on a row that it works on. -/
  | renew {body : ChildBody} (now : Timestamp) (works : body ∈ before.bodies) :
      ChildMove before .service
        { before with registry := before.registry.renew body.service.owner body.row now }
  /-- A service looks after a request that only observes. -/
  | observe {service : ChildService} {row : ChildRequest} (known : row ∈ before.registry.requests)
      (observes : row.action = .observe) (unsettled : row.state.unsettled = true) :
      ChildMove before .service
        { before with bodies := before.bodies ++ [⟨service, row, .watching⟩] }
  /-- The work on a request goes on. -/
  | work {index : ℕ} {body : ChildBody} {kernel : KernelState} {registry : ChildRegistry}
      {phase : ChildPhase} (under : before.bodies[index]? = some body)
      (step : ChildStep before.kernel before.registry body kernel registry phase) :
      ChildMove before (.body index)
        { before with
          kernel, registry, bodies := before.bodies.set index { body with phase } }

/-- The handlers and the services of one journal. The capacities are those that handlers are
configured with. -/
def childSystem : TransitionSystem ChildWorld where
  initial world := ExecutionKernel.kernel.initial world.kernel ∧ world.registry = ⟨[], []⟩ ∧
    world.handlers = (fun _ => none) ∧ world.bodies = []
  step world next := ∃ actor, ChildMove equal capacities world actor next

end Moves

open Relation List

/-! ### Requests and their waits -/

/-- A request goes on as this one: what identifies it stays, and so does all of its outcome once it
is settled. -/
structure ChildRequest.Becomes (request next : ChildRequest) : Prop where
  lease : next.parentLease = request.parentLease
  requestId : next.requestId = request.requestId
  childId : next.childId = request.childId
  action : next.action = request.action
  command : next.command = request.command
  waitId : next.waitId = request.waitId
  settled : request.state.unsettled = false →
    next.state = request.state ∧ next.response = request.response ∧ next.error = request.error

namespace ChildRequest.Becomes

variable {request next later : ChildRequest}

theorem refl (request : ChildRequest) : request.Becomes request :=
  ⟨rfl, rfl, rfl, rfl, rfl, rfl, fun _ => ⟨rfl, rfl, rfl⟩⟩

theorem key (becomes : request.Becomes next) : next.key = request.key := by
  unfold ChildRequest.key
  rw [becomes.lease, becomes.requestId]

theorem trans (first : request.Becomes next) (second : next.Becomes later) :
    request.Becomes later := by
  refine ⟨second.lease.trans first.lease, second.requestId.trans first.requestId,
    second.childId.trans first.childId, second.action.trans first.action,
    second.command.trans first.command, second.waitId.trans first.waitId, fun settled => ?_⟩
  obtain ⟨state, response, error⟩ := first.settled settled
  obtain ⟨again, same, still⟩ := second.settled (by rw [state]; exact settled)
  exact ⟨again.trans state, same.trans response, still.trans error⟩

theorem unsettled (becomes : request.Becomes next) (unsettled : next.state.unsettled = true) :
    request.state.unsettled = true := by
  cases settled : request.state.unsettled with
  | true => rfl
  | false =>
    rw [(becomes.settled settled).1, settled] at unsettled
    cases unsettled

end ChildRequest.Becomes

/-- A wait is the one of a request, and it is open exactly when the request is. -/
structure ChildRequest.Causes (request : ChildRequest) (wait : ChildWait) : Prop where
  waitId : wait.waitId = request.waitId
  parent : wait.parentId = request.parentLease.executionId
  target : wait.targetId = request.childId
  state : wait.state = if request.state.unsettled then none else some request.state

namespace ChildRegistry

/-- There is an open wait of one execution for another. -/
def Waits (registry : ChildRegistry) (parentId targetId : Identifier) : Prop :=
  targetId ∈ registry.targets parentId

/-- What holds of a registry whose waits have drawn names. -/
structure Sound (registry : ChildRegistry) (drawn : List String) : Prop where
  keys : (registry.requests.map ChildRequest.key).Nodup
  waitIds : (registry.requests.map ChildRequest.waitId).Nodup
  drawn : ∀ request ∈ registry.requests, request.waitId ∈ drawn
  paired : List.Forall₂ ChildRequest.Causes registry.requests registry.waits
  owned : (registry.requests.filter fun request => request.action.owns).Pairwise
    fun left right => left.childId ≠ right.childId
  acyclic : Acyclic registry.Waits

variable {registry next : ChildRegistry} {drawn more : List String}

variable {left right : ChildRequest}

section

variable (sound : registry.Sound drawn) (first : left ∈ registry.requests)
  (second : right ∈ registry.requests)

include sound first second

theorem Sound.unique (same : left.key = right.key) : left = right :=
  inj_on_of_nodup_map sound.keys first second same

theorem Sound.unique_wait (same : left.waitId = right.waitId) : left = right :=
  inj_on_of_nodup_map sound.waitIds first second same

end

variable {parentId targetId : Identifier}

theorem mem_targets :
    targetId ∈ registry.targets parentId ↔
      ∃ wait ∈ registry.waits, wait.parentId = parentId ∧ wait.state = none ∧
        wait.targetId = targetId := by
  simp [targets, and_assoc]

/-! ### The three changes -/

inductive Change (registry : ChildRegistry) (drawn : List String) (next : ChildRegistry)
    (more : List String) : Prop
  | rewrite (change : ChildRequest → ChildRequest)
      (becomes : ∀ request : ChildRequest, request.Becomes (change request))
      (unsettled : ∀ request : ChildRequest, (change request).state.unsettled = request.state.unsettled)
      (requests : next.requests = registry.requests.map change)
      (waits : next.waits = registry.waits)
  | finish {row : ChildRequest} {state : ChildRequestState} {response error : Option Json.Text}
      {now : Timestamp}
      (known : ∃ request ∈ registry.requests, row.Becomes request)
      (settles : state.unsettled = false)
      (finished : next = registry.finish row state response error now)
  | insert {capacity : ℕ} {call : ChildCall} {waitId : String} {now : Timestamp}
      (free : registry.find? (call.parentLease.executionId, call.requestId) = none)
      (admitted : registry.admissible capacity call = .ok ())
      (fresh : waitId ∉ drawn) (noted : waitId ∈ more)
      (inserted : next = registry.insert call waitId now)

/-- The requests of the registry once one of them is finished. -/
def finished (row : ChildRequest) (state : ChildRequestState) (response error : Option Json.Text)
    (now : Timestamp) (request : ChildRequest) : ChildRequest :=
  if request.key = row.key ∧ request.state.unsettled = true then
    { request with state, response, error, updatedAt := now, owner := none }
  else request

theorem finished_becomes (row : ChildRequest) (state : ChildRequestState)
    (response error : Option Json.Text) (now : Timestamp) (request : ChildRequest) :
    request.Becomes (finished row state response error now request) := by
  unfold finished
  by_cases chosen : request.key = row.key ∧ request.state.unsettled = true
  · rw [if_pos chosen]
    refine ⟨rfl, rfl, rfl, rfl, rfl, rfl, fun settled => ?_⟩
    cases chosen.2.symm.trans settled
  · rw [if_neg chosen]
    exact .refl request

theorem map_becomes (requests : List ChildRequest) {change : ChildRequest → ChildRequest}
    (becomes : ∀ request : ChildRequest, request.Becomes (change request)) :
    (requests.map change).map ChildRequest.key = requests.map ChildRequest.key ∧
    (requests.map change).map ChildRequest.waitId = requests.map ChildRequest.waitId ∧
    ((requests.filter fun request => request.action.owns).Pairwise
        (fun left right => left.childId ≠ right.childId) →
      ((requests.map change).filter fun request => request.action.owns).Pairwise
        fun left right => left.childId ≠ right.childId) := by
  refine ⟨?_, ?_, fun owned => ?_⟩
  · rw [List.map_map]
    exact map_congr_left fun request _ => (becomes request).key
  · rw [List.map_map]
    exact map_congr_left fun request _ => (becomes request).waitId
  · have same : ((fun request : ChildRequest => request.action.owns) ∘ change) =
        fun request => request.action.owns := by
      funext request
      exact congrArg ChildAction.owns (becomes request).action
    rw [filter_map, same]
    refine pairwise_map.mpr (owned.imp fun differs => ?_)
    rwa [(becomes _).childId, (becomes _).childId]

variable {now : Timestamp}

variable {state : ChildRequestState} {response error : Option Json.Text}

theorem finish_paired {row : ChildRequest} (sound : registry.Sound drawn)
    (known : ∃ request ∈ registry.requests, row.Becomes request)
    (settles : state.unsettled = false) :
    List.Forall₂ ChildRequest.Causes (registry.finish row state response error now).requests
      (registry.finish row state response error now).waits := by
  obtain ⟨current, member, became⟩ := known
  obtain ⟨lengths, paired⟩ := forall₂_iff_zip.mp sound.paired
  show List.Forall₂ _ (registry.requests.map (finished row state response error now)) _
  unfold finish
  dsimp only
  by_cases changed : (registry.requests.any fun request =>
      decide (request.key = row.key) && request.state.unsettled) = true
  · rw [if_pos changed]
    refine forall₂_iff_zip.mpr ⟨by simpa using lengths, fun {request wait} both => ?_⟩
    rw [zip_map] at both
    obtain ⟨⟨old, former⟩, pair, same⟩ := mem_map.mp both
    cases same
    have causes := paired pair
    have present := (of_mem_zip pair).1
    unfold finished
    dsimp only
    by_cases chosen : old.key = row.key ∧ old.state.unsettled = true
    · have equal : old = current := sound.unique present member (chosen.1.trans became.key.symm)
      have named : former.waitId = row.waitId := by
        rw [causes.waitId, equal, became.waitId]
      rw [if_pos chosen, if_pos named]
      refine ⟨causes.waitId, causes.parent, causes.target, ?_⟩
      show some state = if state.unsettled = true then none else some state
      rw [settles]
      rfl
    · rw [if_neg chosen]
      have other : former.waitId ≠ row.waitId := by
        intro named
        obtain ⟨witness, inside, open_⟩ := any_eq_true.mp changed
        rw [Bool.and_eq_true, decide_eq_true_eq] at open_
        have first : old = current := sound.unique_wait present member
          (causes.waitId.symm.trans (named.trans became.waitId.symm))
        have second : witness = current :=
          sound.unique inside member (open_.1.trans became.key.symm)
        rw [first, ← second] at chosen
        exact chosen open_
      rw [if_neg other]
      exact causes
  · rw [if_neg changed]
    have same : registry.requests.map (finished row state response error now) =
        registry.requests := by
      refine (map_congr_left fun request inside => ?_).trans (map_id _)
      unfold finished
      rw [if_neg fun chosen => changed (any_eq_true.mpr ⟨request, inside, by
        rw [Bool.and_eq_true, decide_eq_true_eq]
        exact chosen⟩)]
      rfl
    rw [same]
    exact sound.paired

theorem finish_waits {row : ChildRequest}
    (edge : (registry.finish row state response error now).Waits parentId targetId) :
    registry.Waits parentId targetId := by
  obtain ⟨wait, member, parent, opened, target⟩ := mem_targets.mp edge
  refine mem_targets.mpr ?_
  unfold finish at member
  dsimp only at member
  split at member
  · obtain ⟨former, inside, same⟩ := mem_map.mp member
    by_cases named : former.waitId = row.waitId
    · rw [if_pos named] at same
      subst same
      cases opened
    · rw [if_neg named] at same
      subst same
      exact ⟨former, inside, parent, opened, target⟩
  · exact ⟨wait, member, parent, opened, target⟩

variable {capacity : ℕ} {call : ChildCall}

theorem admissible_ok (admitted : registry.admissible capacity call = .ok ()) :
    registry.cycle call.parentLease.executionId call.childId = .unreached ∧
      (call.action.owns = true → registry.reserved < capacity ∧
        ∀ request ∈ registry.requests, request.action.owns = true →
          request.childId ≠ call.childId) := by
  unfold admissible at admitted
  cases found : registry.cycle call.parentLease.executionId call.childId with
  | reached =>
    rw [found] at admitted
    cases admitted
  | limited =>
    rw [found] at admitted
    cases admitted
  | unreached =>
    rw [found] at admitted
    dsimp only at admitted
    refine ⟨rfl, fun owns => ?_⟩
    split at admitted
    · cases admitted
    by_cases full : capacity ≤ registry.reserved
    · rw [if_pos full] at admitted
      cases admitted
    rw [if_neg full] at admitted
    refine ⟨not_le.mp full, fun request member owner same => ?_⟩
    have taken : (registry.requests.any fun request =>
        decide (request.childId = call.childId) && request.action.owns) = true :=
      any_eq_true.mpr ⟨request, member, by rw [owner, Bool.and_true, decide_eq_true_eq, same]⟩
    rw [if_pos taken] at admitted
    cases admitted

variable {waitId : String}

theorem insert_owned (sound : registry.Sound drawn)
    (admitted : registry.admissible capacity call = .ok ()) :
    ((registry.insert call waitId now).requests.filter fun request =>
      request.action.owns).Pairwise fun left right => left.childId ≠ right.childId := by
  show ((registry.requests ++ [inserted call waitId now]).filter _).Pairwise _
  rw [filter_append]
  refine pairwise_append.mpr ⟨sound.owned, ?_, fun left member right new => ?_⟩
  · exact (pairwise_singleton _ _).filter _
  · obtain ⟨single, owns⟩ := mem_filter.mp new
    obtain ⟨inside, owner⟩ := mem_filter.mp member
    obtain rfl := mem_singleton.mp single
    exact ((admissible_ok admitted).2 owns).2 left inside owner

theorem insert_acyclic (sound : registry.Sound drawn)
    (admitted : registry.admissible capacity call = .ok ()) :
    Acyclic (registry.insert call waitId now).Waits := by
  have edges : ∀ {parentId targetId : Identifier},
      (registry.insert call waitId now).Waits parentId targetId →
      registry.Waits parentId targetId ∨
        (parentId = call.parentLease.executionId ∧ targetId = call.childId) := by
    intro parentId targetId edge
    obtain ⟨wait, member, parent, opened, target⟩ := mem_targets.mp edge
    rcases mem_append.mp member with old | new
    · exact .inl (mem_targets.mpr ⟨wait, old, parent, opened, target⟩)
    · obtain rfl := mem_singleton.mp new
      exact .inr ⟨parent.symm, target.symm⟩
  have nothing : StackSearch.Covers registry.targets call.parentLease.executionId []
      [call.childId] := by
    rintro _ ⟨⟩
  have unreached := StackSearch.search_unreached nothing (admissible_ok admitted).1
  refine @Acyclic.replace _ registry.Waits _ call.parentLease.executionId sound.acyclic
    (fun edge differs => ?_) fun {second} edge path => ?_
  · rcases edges edge with old | ⟨same, -⟩
    · exact old
    · exact absurd same differs
  · rcases edges edge with old | ⟨-, rfl⟩
    · exact sound.acyclic _ (.head' old path)
    · exact unreached _ mem_cons_self path

section

variable (change : registry.Change drawn next more)

include change

theorem Change.came {later : ChildRequest} (member : later ∈ next.requests) :
    (∃ request ∈ registry.requests, request.Becomes later) ∨
      (later.waitId ∈ more ∧ later.state = .pending) := by
  cases change with
  | rewrite change becomes unsettled requests waits =>
    rw [requests] at member
    obtain ⟨request, inside, rfl⟩ := mem_map.mp member
    exact .inl ⟨request, inside, becomes request⟩
  | finish known settles ended =>
    rw [ended] at member
    obtain ⟨request, inside, rfl⟩ := mem_map.mp member
    exact .inl ⟨request, inside, finished_becomes _ _ _ _ _ request⟩
  | insert free admitted fresh noted placed =>
    rw [placed] at member
    rcases mem_append.mp member with old | new
    · exact .inl ⟨later, old, .refl later⟩
    · rw [mem_singleton.mp new]
      exact .inr ⟨noted, rfl⟩

theorem Change.sound (sound : registry.Sound drawn) (grows : ∀ name ∈ drawn, name ∈ more) :
    next.Sound more := by
  have named : ∀ request ∈ next.requests, request.waitId ∈ more := by
    intro later member
    rcases change.came member with ⟨request, inside, becomes⟩ | ⟨noted, -⟩
    · rw [becomes.waitId]
      exact grows _ (sound.drawn request inside)
    · exact noted
  cases change with
  | rewrite change becomes unsettled requests waits =>
    obtain ⟨keys, waitIds, owned⟩ := map_becomes registry.requests becomes
    refine ⟨?_, ?_, named, ?_, ?_, ?_⟩
    · rw [requests, keys]
      exact sound.keys
    · rw [requests, waitIds]
      exact sound.waitIds
    · rw [requests, waits]
      refine forall₂_map_left_iff.mpr (sound.paired.imp fun request wait causes => ?_)
      have kept := becomes request
      refine ⟨causes.waitId.trans kept.waitId.symm, causes.parent.trans ?_,
        causes.target.trans kept.childId.symm, causes.state.trans ?_⟩
      · rw [kept.lease]
      · rw [unsettled request]
        cases settled : request.state.unsettled with
        | true => rfl
        | false => rw [(kept.settled settled).1]
    · rw [requests]
      exact owned sound.owned
    · intro vertex cycle
      refine sound.acyclic vertex (TransGen.mono (fun parent target edge => ?_) _ _ cycle)
      unfold Waits targets at edge ⊢
      rwa [waits] at edge
  | finish known settles ended =>
    subst ended
    obtain ⟨keys, waitIds, owned⟩ := map_becomes registry.requests (finished_becomes _ _ _ _ _)
    refine ⟨keys ▸ sound.keys, waitIds ▸ sound.waitIds, named, finish_paired sound known settles,
      owned sound.owned, ?_⟩
    exact fun vertex cycle =>
      sound.acyclic vertex (TransGen.mono (fun _ _ => finish_waits) _ _ cycle)
  | insert free admitted fresh noted placed =>
    rename_i capacity call waitId now
    subst placed
    refine ⟨?_, ?_, named, ?_, insert_owned sound admitted, insert_acyclic sound admitted⟩
    · show (List.map _ (_ ++ [_])).Nodup
      rw [map_append]
      refine nodup_append.mpr ⟨sound.keys, nodup_singleton _, fun key known other new => ?_⟩
      obtain ⟨request, member, rfl⟩ := mem_map.mp known
      rw [mem_singleton.mp new]
      exact fun same => List.find?_eq_none.mp free request member (decide_eq_true same)
    · show (List.map _ (_ ++ [_])).Nodup
      rw [map_append]
      refine nodup_append.mpr
        ⟨sound.waitIds, nodup_singleton _, fun name known other new => ?_⟩
      obtain ⟨request, member, rfl⟩ := mem_map.mp known
      rw [mem_singleton.mp new]
      intro same
      have named : request.waitId = waitId := same
      exact fresh (named ▸ sound.drawn request member)
    · exact rel_append sound.paired (.cons ⟨rfl, rfl, rfl, rfl⟩ .nil)

theorem Change.becomes {request : ChildRequest} (member : request ∈ registry.requests) :
    ∃ later ∈ next.requests, request.Becomes later := by
  cases change with
  | rewrite change becomes unsettled requests waits =>
    rw [requests]
    exact ⟨_, mem_map_of_mem member, becomes request⟩
  | finish known settles ended =>
    rw [ended]
    exact ⟨_, mem_map_of_mem member, finished_becomes _ _ _ _ _ request⟩
  | insert free admitted fresh noted placed =>
    rw [placed]
    exact ⟨request, mem_append_left _ member, .refl request⟩

end

theorem Change.reserved (change : registry.Change drawn next drawn) :
    next.reserved ≤ registry.reserved := by
  have fewer : ∀ {change : ChildRequest → ChildRequest},
      (∀ request : ChildRequest, request.Becomes (change request)) →
      (registry.requests.map change).countP (fun request =>
        request.action.owns && request.state.unsettled) ≤ registry.reserved := by
    intro change becomes
    rw [countP_map]
    refine countP_mono_left fun request _ counted => ?_
    have both := Bool.and_eq_true_iff.mp counted
    rw [Bool.and_eq_true]
    exact ⟨(becomes request).action ▸ both.1, (becomes request).unsettled both.2⟩
  cases change with
  | rewrite change becomes unsettled requests waits =>
    unfold ChildRegistry.reserved
    rw [requests]
    exact fewer becomes
  | finish known settles ended =>
    rw [ended]
    exact fewer (finished_becomes _ _ _ _ _)
  | insert free admitted fresh noted placed => exact absurd noted fresh

theorem Change.of_change {key : Identifier × Identifier} {rewrite : ChildRequest → ChildRequest}
    (becomes : ∀ request : ChildRequest, request.state.unsettled = true →
      request.Becomes (rewrite request) ∧ (rewrite request).state.unsettled = true) :
    registry.Change drawn (registry.change key rewrite) more := by
  refine .rewrite (fun request => if request.key = key ∧ request.state.unsettled = true then
    rewrite request else request) (fun request => ?_) (fun request => ?_) rfl rfl
  · by_cases chosen : request.key = key ∧ request.state.unsettled = true
    · rw [if_pos chosen]
      exact (becomes request chosen.2).1
    · rw [if_neg chosen]
      exact .refl request
  · by_cases chosen : request.key = key ∧ request.state.unsettled = true
    · rw [if_pos chosen, (becomes request chosen.2).2, chosen.2]
    · rw [if_neg chosen]

theorem Change.same : registry.Change drawn registry more :=
  .rewrite id .refl (fun _ => rfl) (map_id _).symm rfl

theorem Change.retain (row : ChildRequest) (error : Json.Text) (now : Timestamp) :
    registry.Change drawn (registry.retain row error now) more :=
  .of_change fun _ unsettled =>
    ⟨⟨rfl, rfl, rfl, rfl, rfl, rfl, fun settled => nomatch unsettled.symm.trans settled⟩, unsettled⟩

theorem Change.remember (row : ChildRequest) (budget : BudgetEnvelope) (now : Timestamp) :
    registry.Change drawn (registry.remember row budget now) more :=
  .of_change fun _ unsettled =>
    ⟨⟨rfl, rfl, rfl, rfl, rfl, rfl, fun settled => nomatch unsettled.symm.trans settled⟩, unsettled⟩

theorem Change.renew (owner : Identifier) (row : ChildRequest) (now : Timestamp) :
    registry.Change drawn (registry.renew owner row now) more := by
  refine .of_change fun request unsettled => ?_
  split
  · exact ⟨⟨rfl, rfl, rfl, rfl, rfl, rfl, fun _ => ⟨rfl, rfl, rfl⟩⟩, unsettled⟩
  · exact ⟨.refl request, unsettled⟩

theorem Change.markRunning (row : ChildRequest) (now : Timestamp) :
    registry.Change drawn (registry.markRunning row now) more := by
  refine .rewrite (fun request => if request.key = row.key ∧ request.state = .pending then
    { request with state := .running, updatedAt := now } else request) (fun request => ?_)
    (fun request => ?_) rfl rfl
  · split
    · refine ⟨rfl, rfl, rfl, rfl, rfl, rfl, fun settled => ?_⟩
      rename_i chosen
      rw [chosen.2] at settled
      cases settled
    · exact .refl request
  · split
    · rename_i chosen
      rw [chosen.2]
      rfl
    · rfl

theorem Change.own (owner : Identifier) (rows : List ChildRequest) (now : Timestamp) :
    registry.Change drawn (registry.own owner rows now) more := by
  refine .rewrite (fun request => if ∃ row ∈ rows, row.key = request.key then
    { request with owner := some (owner, now + 2), updatedAt := now } else request)
    (fun request => ?_) (fun request => ?_) rfl rfl
  · split
    · exact ⟨rfl, rfl, rfl, rfl, rfl, rfl, fun _ => ⟨rfl, rfl, rfl⟩⟩
    · exact .refl request
  · split <;> rfl

end ChildRegistry

/-! ### Moves -/

/-- The row is an earlier copy of a request of the registry. -/
def ChildRegistry.Knows (registry : ChildRegistry) (row : ChildRequest) : Prop :=
  ∃ request ∈ registry.requests, row.Becomes request

/-- Work that is about to settle a request does settle it. -/
def ChildPhase.Settles (phase : ChildPhase) : Prop :=
  ∀ state response error handled, phase = .settling state response error handled →
    state.unsettled = false

theorem ExecutionResult.settles_unsettled (result : ExecutionResult) :
    result.settles.unsettled = false := by
  unfold settles
  split <;> rfl

theorem ChildPhase.watched_settles (action : ChildAction) (response error : Json.Text)
    (child : Option ExecutionRow) : (watched action response error child).Settles := by
  intro state given cause handled settling
  cases child with
  | none => cases settling
  | some child =>
    unfold watched at settling
    dsimp only at settling
    split at settling
    · cases settling
      cases child.result with
      | none => rfl
      | some result => exact result.settles_unsettled
    · split at settling
      · cases settling
        rfl
      · split at settling <;> cases settling

theorem ChildPhase.afterCancel_settles (response error : Json.Text) (child : Option ExecutionRow) :
    (afterCancel response error child).Settles := by
  intro state given cause handled settling
  cases child with
  | none =>
    cases settling
    rfl
  | some child =>
    unfold afterCancel at settling
    dsimp only at settling
    cases found : child.result with
    | none =>
      rw [found] at settling
      cases settling
      rfl
    | some result =>
      rw [found] at settling
      cases settling
      split <;> rfl

section Steps

variable {kernel later : KernelState} {registry next : ChildRegistry} {body : ChildBody}
  {phase : ChildPhase} {drawn more : List String}

theorem ChildStep.change (step : ChildStep kernel registry body later next phase)
    (known : registry.Knows body.row) (settles : body.phase.Settles) :
    registry.Change drawn next more := by
  cases step with
  | publish now => exact .markRunning body.row now
  | retain cause now => exact .retain body.row cause now
  | settle now settling => exact .finish known (settles _ _ _ _ settling) rfl
  | _ => exact .same

theorem ChildStep.settles (step : ChildStep kernel registry body later next phase) :
    phase.Settles := by
  cases step with
  | submit budget environment error =>
    intro state response cause handled settling
    split at settling <;> cases settling
  | adopt budget environment error =>
    intro state response cause handled settling
    split at settling <;> cases settling
  | watch response error => exact ChildPhase.watched_settles _ _ _ _
  | handle =>
    intro state response cause handled settling
    split at settling
    · cases settling
    · cases settling
      rfl
  | spare response => exact ChildPhase.afterCancel_settles _ _ _
  | cancel reason environment =>
    intro state response cause handled settling
    split at settling <;> cases settling
  | reread response => exact ChildPhase.afterCancel_settles _ _ _
  | _ =>
    intro state response cause handled settling
    cases settling

end Steps

section Moves

variable {equal : Json → Json → Bool} {capacities : ℕ → Prop} {before after world : ChildWorld}
  {actor : ChildActor}

/-- What holds of a registry and of those who hold copies of its rows. -/
structure ChildWorld.Sound (world : ChildWorld) : Prop where
  registry : world.registry.Sound world.drawn
  handlers : ∀ index row new, world.handlers index = some (row, new) → world.registry.Knows row
  bodies : ∀ body ∈ world.bodies, world.registry.Knows body.row ∧ body.phase.Settles

variable {row : ChildRequest}

theorem ChildRegistry.replay_ok {later : ChildRequest} {first : ChildCall}
    (accepted : replay equal first row = .ok later) :
    later = row ∧ (row.state.unsettled = true →
      (row.parentLease.attempt, row.parentLease.fence) =
        (first.parentLease.attempt, first.parentLease.fence)) ∧
    row.action = first.action ∧ (first.action ≠ .run → row.childId = first.childId) ∧
    (first.action = .run → ∃ previous ∈ row.command, ∃ current ∈ first.command,
      sameCall equal previous current = true) := by
  unfold replay at accepted
  split at accepted
  · cases accepted
  rename_i attempt
  split at accepted
  · cases accepted
  rename_i action
  split at accepted
  · cases accepted
  rename_i command
  rw [not_or, not_ne_iff, not_and, not_ne_iff] at action
  refine ⟨(Except.ok.inj accepted).symm, fun unsettled => ?_, action.1, action.2, fun runs => ?_⟩
  · exact not_ne_iff.mp fun other => attempt ⟨unsettled, other⟩
  · exact not_not.mp fun other => command ⟨runs, other⟩

theorem ChildRegistry.register_ok {registry next : ChildRegistry} {capacity : ℕ} {call : ChildCall}
    {waitId : String} {now : Timestamp} {new : Bool}
    (registered : registry.register equal capacity call waitId now = .ok (row, new, next)) :
    (next = registry ∧ row ∈ registry.requests) ∨
      (registry.find? (call.parentLease.executionId, call.requestId) = none ∧
        registry.admissible capacity call = .ok () ∧ row = inserted call waitId now ∧
        next = registry.insert call waitId now) := by
  unfold register at registered
  cases found : registry.find? (call.parentLease.executionId, call.requestId) with
  | some stored =>
    rw [found] at registered
    dsimp only at registered
    cases answer : replay equal call stored with
    | error refusal =>
      rw [answer] at registered
      cases registered
    | ok given =>
      rw [answer] at registered
      cases registered
      cases (replay_ok answer).1
      exact .inl ⟨rfl, mem_of_find?_eq_some found⟩
  | none =>
    rw [found] at registered
    dsimp only at registered
    cases admitted : registry.admissible capacity call with
    | error refusal =>
      rw [admitted] at registered
      cases registered
    | ok =>
      rw [admitted] at registered
      cases registered
      exact .inr ⟨rfl, rfl, rfl, rfl⟩

theorem ChildMove.change (move : ChildMove equal capacities before actor after)
    (sound : before.Sound) : before.registry.Change before.drawn after.registry after.drawn := by
  cases move with
  | register used vacant fresh registered =>
    rcases ChildRegistry.register_ok registered with ⟨still, -⟩ | ⟨free, admitted, -, placed⟩
    · rw [still]
      exact .same
    · exact .insert free admitted fresh mem_cons_self placed
  | withdraw error now holds => exact .finish (sound.handlers _ _ _ holds) rfl rfl
  | remember budget now holds => exact .remember _ budget now
  | tick room => exact .own _ _ _
  | renew now works => exact .renew _ _ now
  | work under step =>
    have member := mem_of_getElem? under
    exact step.change (sound.bodies _ member).1 (sound.bodies _ member).2
  | _ => exact .same

theorem ChildPhase.Settles.of_acts {phase : ChildPhase} (acts : phase.acts = true) :
    phase.Settles := by
  intro state response error handled settling
  rw [settling] at acts
  cases acts

theorem ChildRegistry.Knows.kept {registry next : ChildRegistry} {drawn more : List String}
    (known : registry.Knows row) (change : registry.Change drawn next more) : next.Knows row := by
  obtain ⟨request, member, became⟩ := known
  obtain ⟨later, inside, becomes⟩ := change.becomes member
  exact ⟨later, inside, became.trans becomes⟩

theorem ChildMove.sound (move : ChildMove equal capacities before actor after)
    (sound : before.Sound) : after.Sound := by
  have change := move.change sound
  have handlers : ∀ index row new, before.handlers index = some (row, new) →
      after.registry.Knows row :=
    fun index row new holds => (sound.handlers index row new holds).kept change
  have bodies : ∀ body ∈ before.bodies, after.registry.Knows body.row ∧ body.phase.Settles :=
    fun body member => ⟨(sound.bodies body member).1.kept change, (sound.bodies body member).2⟩
  have grows : ∀ name ∈ before.drawn, name ∈ after.drawn := by
    cases move with
    | register => exact fun name member => mem_cons_of_mem _ member
    | _ => exact fun name member => member
  have updated : ∀ index (held : Option (ChildRequest × Bool)),
      (∀ row new, held = some (row, new) → after.registry.Knows row) → ∀ other row new,
      Function.update before.handlers index held other = some (row, new) →
      after.registry.Knows row := by
    intro index held knows other row new holds
    by_cases same : other = index
    · rw [same, Function.update_self] at holds
      exact knows row new holds
    · rw [Function.update_of_ne same] at holds
      exact handlers other row new holds
  have vacant : ∀ row new, (none : Option (ChildRequest × Bool)) = some (row, new) →
      after.registry.Knows row := by
    intro row new held
    cases held
  refine ⟨change.sound sound.registry grows, ?_, ?_⟩
  · cases move with
    | register used vacant fresh registered =>
      refine updated _ _ fun row new held => ?_
      cases held
      rcases ChildRegistry.register_ok registered with ⟨still, member⟩ | ⟨-, -, same, placed⟩
      · exact ⟨_, still ▸ member, .refl _⟩
      · subst placed
        subst same
        exact ⟨_, mem_append_right _ mem_cons_self, .refl _⟩
    | withdraw => exact updated _ none vacant
    | leave index => exact updated index none vacant
    | _ => exact handlers
  · cases move with
    | tick room =>
      intro body member
      rcases mem_append.mp member with old | new
      · exact bodies body old
      · obtain ⟨row, claimed, rfl⟩ := mem_map.mp new
        have inside := (mem_filter.mp (mem_insertionSort _ |>.mp
          (mem_of_mem_take claimed))).1
        have known : before.registry.Knows row := ⟨row, inside, .refl row⟩
        exact ⟨known.kept change, .of_acts rfl⟩
    | observe known =>
      intro body member
      rcases mem_append.mp member with old | new
      · exact bodies body old
      · rw [mem_singleton.mp new]
        exact ⟨⟨_, known, .refl _⟩, .of_acts rfl⟩
    | work under step =>
      intro body member
      rcases mem_or_eq_of_mem_set member with old | rfl
      · exact bodies body old
      · exact ⟨(bodies _ (mem_of_getElem? under)).1, step.settles⟩
    | _ => exact bodies

section

variable (reachable : (childSystem equal capacities).Reachable world)

include reachable

theorem ChildWorld.sound : world.Sound := by
  refine reachable.invariant ChildWorld.Sound ?_ fun before after _ sound step => ?_
  · rintro state ⟨-, empty, handlers, bodies⟩
    refine ⟨?_, ?_, ?_⟩
    · rw [empty]
      refine ⟨nodup_nil, nodup_nil, fun request member => ?_, .nil, List.Pairwise.nil,
        fun vertex cycle => ?_⟩
      · cases member
      obtain ⟨next, edge, -⟩ := TransGen.head'_iff.mp cycle
      cases edge
    · intro index row new holds
      rw [handlers] at holds
      cases holds
    · intro body member
      rw [bodies] at member
      cases member
  · obtain ⟨actor, move⟩ := step
    exact move.sound sound

theorem ChildWorld.becomes {last : ChildWorld}
    (run : (childSystem equal capacities).Run world last) {request : ChildRequest}
    (member : request ∈ world.registry.requests) :
    ∃ later ∈ last.registry.requests, request.Becomes later := by
  refine reachable.keeps (fun state => ∃ later ∈ state.registry.requests, request.Becomes later) ?_
    ⟨request, member, .refl request⟩ run
  rintro before after reached ⟨later, inside, became⟩ ⟨actor, move⟩
  obtain ⟨next, found, becomes⟩ := (move.change (ChildWorld.sound reached)).becomes inside
  exact ⟨next, found, became.trans becomes⟩

theorem ChildWorld.reachable_after (calls : List (Operation × Environment)) :
    (childSystem equal capacities).Reachable
      { world with kernel := world.kernel.after calls } := by
  induction calls generalizing world with
  | nil => exact reachable
  | cons call rest hypothesis =>
    exact hypothesis (reachable.next ⟨.kernel, .kernel call.1 call.2⟩)

end

theorem ChildWorld.capacity {bound : ℕ} (bounded : ∀ capacity, capacities capacity →
    capacity ≤ bound) (reachable : (childSystem equal capacities).Reachable world) :
    world.registry.reserved ≤ bound := by
  refine reachable.invariant (fun state => state.registry.reserved ≤ bound) ?_
    fun before after reached held step => ?_
  · rintro state ⟨-, empty, -⟩
    rw [empty]
    exact Nat.zero_le bound
  · obtain ⟨actor, move⟩ := step
    have sound := ChildWorld.sound reached
    have change := move.change sound
    cases move with
    | register used vacant fresh registered =>
      rcases ChildRegistry.register_ok registered with ⟨still, -⟩ | ⟨-, admitted, -, placed⟩
      · rw [still]
        exact held
      · rename_i index capacity call waitId now row new registry
        subst placed
        show (before.registry.requests ++ [ChildRegistry.inserted call waitId now]).countP _ ≤ bound
        rw [countP_append]
        have one : [ChildRegistry.inserted call waitId now].countP (fun request =>
            request.action.owns && request.state.unsettled) ≤ 1 := countP_le_length
        cases owns : call.action.owns with
        | true =>
          have room := ((ChildRegistry.admissible_ok admitted).2 owns).1
          have least := bounded capacity used
          exact (Nat.add_le_add_left one _).trans (room.trans_le least)
        | false =>
          have none_ : [ChildRegistry.inserted call waitId now].countP (fun request =>
              request.action.owns && request.state.unsettled) = 0 := by
            simp [ChildRegistry.inserted, owns]
          rw [none_]
          exact held
    | _ => exact (ChildRegistry.Change.reserved change).trans held

/-- In every run of handlers and services: a key identifies one request, which never changes; a
child is owned by at most one; no open waits form a cycle; a request is settled once, with its wait;
and no more requests that own a child are open than handlers have the capacity for. -/
theorem child_registry_lawful (reachable : (childSystem equal capacities).Reachable world) :
    (world.registry.requests.map ChildRequest.key).Nodup ∧
    (∀ last, (childSystem equal capacities).Run world last →
      ∀ request ∈ world.registry.requests, ∃ later ∈ last.registry.requests,
        request.Becomes later) ∧
    (∀ left ∈ world.registry.requests, ∀ right ∈ world.registry.requests,
      left.action.owns = true → right.action.owns = true → left.childId = right.childId →
        left = right) ∧
    Acyclic world.registry.Waits ∧
    List.Forall₂ ChildRequest.Causes world.registry.requests world.registry.waits ∧
    ∀ bound, (∀ capacity, capacities capacity → capacity ≤ bound) →
      world.registry.reserved ≤ bound := by
  have sound := (ChildWorld.sound reachable).registry
  refine ⟨sound.keys, fun last run request member => ChildWorld.becomes reachable run member,
    fun left first right second owns owner same => ?_, sound.acyclic, sound.paired,
    fun bound bounded => ChildWorld.capacity bounded reachable⟩
  exact inj_on_of_nodup_map (pairwise_map.mpr sound.owned)
    (mem_filter.mpr ⟨first, owns⟩) (mem_filter.mpr ⟨second, owner⟩) same

end Moves

def sampleChildCommand : ExecutionCommand :=
  { sampleCommand with executionId := sampleChildName, idempotencyKey := sampleChildName }

def sampleAsking : ChildCall :=
  ⟨sampleLease 3 third_positive, sampleName, sampleChildName, 1, .run, some sampleChildCommand,
    { sampleEntry with constraints := [], startedAt := none }, sampleName, 1⟩

def sampleChildren : ChildWorld :=
  ⟨(KernelState.initial sampleName).after (sampleBinding.take 5), ⟨[], []⟩, fun _ => none, [], []⟩

def sampleAsked : ChildWorld where
  kernel := sampleChildren.kernel
  registry := ⟨[ChildRegistry.inserted sampleAsking "wait" 0],
    [ChildRegistry.insertedWait sampleAsking "wait" 0]⟩
  handlers := Function.update sampleChildren.handlers 0
    (some (ChildRegistry.inserted sampleAsking "wait" 0, true))
  bodies := []
  drawn := ["wait"]

def sampleEqual (left right : Json) : Bool := left.encode = right.encode

theorem sampleAsked_registered :
    ChildMove sampleEqual (· = 1) sampleChildren .handler sampleAsked := by
  have admitted : (ChildRegistry.admissible ⟨[], []⟩ 1 sampleAsking) = .ok () := by
    decide +kernel
  have registered : ChildRegistry.register sampleEqual ⟨[], []⟩ 1 sampleAsking "wait" 0 =
      .ok (ChildRegistry.inserted sampleAsking "wait" 0, true, sampleAsked.registry) := by
    show (do ChildRegistry.admissible ⟨[], []⟩ 1 sampleAsking; _) = _
    rw [admitted]
    rfl
  exact .register rfl rfl not_mem_nil registered

theorem sampleChildren_reachable : (childSystem sampleEqual (· = 1)).Reachable sampleChildren := by
  have fresh : (childSystem sampleEqual (· = 1)).Reachable
      { sampleChildren with kernel := .initial sampleName } :=
    .start ⟨⟨sampleName, rfl⟩, rfl, rfl, rfl⟩
  exact ChildWorld.reachable_after fresh (sampleBinding.take 5)

theorem sampleAsked_reachable : (childSystem sampleEqual (· = 1)).Reachable sampleAsked :=
  sampleChildren_reachable.next ⟨.handler, sampleAsked_registered⟩

/-- The handler of the example holds the only place. -/
theorem child_registry_lawful_sample : sampleAsked.registry.requests.length = 1 ∧
    Acyclic sampleAsked.registry.Waits ∧ sampleAsked.registry.reserved ≤ 1 := by
  have lawful := child_registry_lawful sampleAsked_reachable
  exact ⟨rfl, lawful.2.2.2.1, lawful.2.2.2.2.2 1 fun capacity same => same.le⟩

end DispatcherSdk.ExecutionKernel
