/-
This file models the permanent disposal of Runs.

A registry, kept in a file of its own, knows the Runs of several stores by a digest of their
identity, and which of them refer to which. A Run that has ended, has no tasks and is not
referred to may be deleted from its store, which keeps a signed tombstone of it.

SHA-256 and the HMAC of the registry are functions without further properties.
-/

import DispatcherSdk.Orchestrator.Reducer
import DispatcherSdk.Library.Transition

namespace DispatcherSdk.Provenance

open Library Orchestrator

/-! ### A store -/

/-- A row of a table of the store that belongs to a Run, with its other columns. -/
structure OwnedRow where
  runId : String
  columns : List String

/-- A row of `sdk_runs`. -/
structure RunRow where
  runId : String
  revision : ℕ
  state : RunState

/-- The `section` of a row of `sdk_run_items`. -/
inductive ItemSection where
  | root
  | task
  | attempt
  | waits
  | signals
  deriving DecidableEq

/-- A row of `sdk_run_items`. -/
structure ItemRow where
  runId : String
  part : ItemSection
  itemKey : String
  value : String

/-- A row of `sdk_run_revisions`. -/
structure RevisionRow where
  runId : String
  revision : ℕ

/-- A row of `sdk_events`. -/
structure EventRow where
  runId : String
  sequence : ℕ
  columns : List String

/-- A row of `sdk_run_links`. -/
structure LinkRow where
  previousRunId : String
  nextRunId : String

/-- The category and the key of a row of `sdk_retention_times`. -/
inductive RetentionKey where
  | event (sequence : ℕ)
  | revision (runId : String) (revision : ℕ)
  | other (category recordKey : String)

/-- The `tombstone` of a Run. -/
structure Tombstone where
  operationId : String
  originDigest : String
  runId : String
  storeId : String
  incarnation : String
  finalRevision : Option ℕ
  finalState : Option RunState
  disposedAt : ℕ
  planDigest : String
  deriving DecidableEq

/-- A row of `sdk_disposed_runs`. -/
structure DisposedRow where
  runId : String
  tombstone : Tombstone
  authentication : String

structure StoreToken where
  storeId : String
  incarnation : String
  mutation : ℕ

/-- The tables of a store that disposal reads or writes. -/
structure Source where
  token : StoreToken
  runs : List RunRow
  items : List ItemRow
  history : List OwnedRow
  revisions : List RevisionRow
  commands : List OwnedRow
  events : List EventRow
  subscriptions : List OwnedRow
  eventWatermarks : List OwnedRow
  expiredRevisions : List OwnedRow
  links : List LinkRow
  retentionTimes : List RetentionKey
  /-- `sdk_executions`: the execution and the Run. -/
  executions : List (String × String)
  recoveries : List OwnedRow
  outbox : List OwnedRow
  watches : List OwnedRow
  /-- The `run_id` in the payload of each notification. -/
  notifications : List (Option String)
  /-- The `execution_id` of each result. -/
  results : List String
  /-- The `correlation_id` of each command of a Kernel in the same file. -/
  kernelExecutions : List (Option String)
  /-- The rows of `runtime_sandbox_journals`, if there is such a table. -/
  sandboxJournals : ℕ
  contentObjects : List (String × String)
  disposedRuns : Table DisposedRow.runId
  sequences : (events.map EventRow.sequence).Nodup

structure RunRows where
  runs : List RunRow
  items : List ItemRow
  history : List OwnedRow
  revisions : List RevisionRow
  commands : List OwnedRow
  events : List EventRow
  subscriptions : List OwnedRow
  eventWatermarks : List OwnedRow
  expiredRevisions : List OwnedRow
  links : List LinkRow
  retentionTimes : List RetentionKey

def RunRows.none : RunRows := ⟨[], [], [], [], [], [], [], [], [], [], []⟩

def LinkRow.of (runId : String) (link : LinkRow) : Bool :=
  decide (link.previousRunId = runId) || decide (link.nextRunId = runId)

namespace Source

/-- The time of an event or a revision of the Run is kept under this key. -/
def times (source : Source) (runId : String) : RetentionKey → Bool
  | .event sequence =>
    source.events.any fun event => decide (event.runId = runId) && decide (event.sequence = sequence)
  | .revision other revision =>
    source.revisions.any fun row => decide (row.runId = runId) &&
      decide (other = runId) && decide (row.revision = revision)
  | .other _ _ => false

/-- The rows of a Run in the tables that disposal clears. -/
def rowsOf (source : Source) (runId : String) : RunRows where
  runs := source.runs.filter fun row => row.runId = runId
  items := source.items.filter fun row => row.runId = runId
  history := source.history.filter fun row => row.runId = runId
  revisions := source.revisions.filter fun row => row.runId = runId
  commands := source.commands.filter fun row => row.runId = runId
  events := source.events.filter fun row => row.runId = runId
  subscriptions := source.subscriptions.filter fun row => row.runId = runId
  eventWatermarks := source.eventWatermarks.filter fun row => row.runId = runId
  expiredRevisions := source.expiredRevisions.filter fun row => row.runId = runId
  links := source.links.filter fun link => link.of runId
  retentionTimes := source.retentionTimes.filter fun key => source.times runId key

/-- `_delete_run`: the rows of the Run are deleted and the tombstone is inserted. -/
def deleteRun (source : Source) (row : DisposedRow) (mutation : ℕ) : Source :=
  { source with
    token := { source.token with mutation }
    runs := source.runs.filter fun other => other.runId ≠ row.runId
    items := source.items.filter fun other => other.runId ≠ row.runId
    history := source.history.filter fun other => other.runId ≠ row.runId
    revisions := source.revisions.filter fun other => other.runId ≠ row.runId
    commands := source.commands.filter fun other => other.runId ≠ row.runId
    events := source.events.filter fun other => other.runId ≠ row.runId
    subscriptions := source.subscriptions.filter fun other => other.runId ≠ row.runId
    eventWatermarks := source.eventWatermarks.filter fun other => other.runId ≠ row.runId
    expiredRevisions := source.expiredRevisions.filter fun other => other.runId ≠ row.runId
    links := source.links.filter fun link => !link.of row.runId
    retentionTimes := source.retentionTimes.filter fun key => !source.times row.runId key
    disposedRuns := source.disposedRuns.put row
    sequences := source.sequences.sublist (List.filter_sublist.map _) }

/-- A transaction of the Orchestrator, which may change anything but Runs that have been disposed.
-/
structure Writes (before after : Source) : Prop where
  storeId : after.token.storeId = before.token.storeId
  incarnation : after.token.incarnation = before.token.incarnation
  disposedRuns : after.disposedRuns = before.disposedRuns
  spares : ∀ runId, before.disposedRuns.find? runId ≠ none →
    after.rowsOf runId = before.rowsOf runId

end Source

/-! ### The registry -/

/-- The `state` of a registered Run. -/
inductive RecordState where
  | active
  | archived
  | deleting
  | disposed
  deriving DecidableEq

structure Identity where
  storeId : String
  incarnation : String
  runId : String
  header : String
  deriving DecidableEq

/-- The `deletion` of a Run that is being deleted. -/
structure Deletion where
  operationId : String
  planDigest : String
  deriving DecidableEq

structure Locator where
  path : String
  originDigest : String
  runId : String
  tombstone : Tombstone
  sourceAuthentication : String
  authentication : String
  deriving DecidableEq

structure ColdLocator where
  path : String
  artifactDigest : String
  authentication : String
  deriving DecidableEq

structure RunRecord where
  identity : Identity
  originDigest : String
  state : RecordState
  hotPath : String
  coldLocator : Option ColdLocator
  deletion : Option Deletion
  tombstone : Option Locator
  deriving DecidableEq

structure Reference where
  source : String
  target : String
  deriving DecidableEq

def Reference.before (left right : Reference) : Prop :=
  left.source < right.source ∨ (left.source = right.source ∧ left.target ≤ right.target)

instance : DecidableRel Reference.before := fun left right =>
  inferInstanceAs (Decidable (left.source < right.source ∨
    (left.source = right.source ∧ left.target ≤ right.target)))

structure Registry where
  revision : ℕ
  scopeClosed : Bool
  runs : Table RunRecord.originDigest
  references : List Reference

/-- The state of a Run that is being deleted, or has been. -/
def RecordState.gone : RecordState → Bool
  | .deleting | .disposed => true
  | .active | .archived => false

namespace Registry

/-- `_store_document`. -/
def stored (registry : Registry) : Registry := { registry with revision := registry.revision + 1 }

def closeScope (registry : Registry) : Registry :=
  if registry.scopeClosed = true then registry else stored { registry with scopeClosed := true }

/-- The record that `register_run` makes. -/
def fresh (originDigest : String) (identity : Identity) (path : String) : RunRecord :=
  ⟨identity, originDigest, .active, path, none, none, none⟩

/-- The transaction of `register_run`. -/
def registerRun (registry : Registry) (originDigest : String) (identity : Identity)
    (path : String) : Option Registry :=
  if registry.runs.rows.any fun existing =>
      decide ((existing.identity.storeId, existing.identity.incarnation, existing.identity.runId) =
        (identity.storeId, identity.incarnation, identity.runId)) &&
      decide (existing.originDigest ≠ originDigest) then none
  else
    match registry.runs.find? originDigest with
    | some existing =>
      if existing.state.gone = true then none
      else if existing ≠ fresh originDigest identity path then none
      else some registry
    | none => some (stored { registry with
        runs := registry.runs.put (fresh originDigest identity path) })

def addReference (registry : Registry) (reference : Reference) : Option Registry :=
  match registry.runs.find? reference.source, registry.runs.find? reference.target with
  | some source, some target =>
    if source.state.gone = true then none
    else if target.state.gone = true then none
    else if reference ∈ registry.references then some registry
    else some (stored { registry with
      references := (registry.references ++ [reference]).insertionSort Reference.before })
  | _, _ => none

def registerArchive (registry : Registry) (originDigest : String) (locator : ColdLocator) :
    Option Registry :=
  match registry.runs.find? originDigest with
  | none => none
  | some record =>
    if record.state.gone = true then none
    else some (stored { registry with
      runs := registry.runs.put { record with coldLocator := some locator } })

/-- The marker of a Run that is about to be deleted. -/
def marked (registry : Registry) (record : RunRecord) (deletion : Deletion) : Registry :=
  stored { registry with
    runs := registry.runs.put { record with state := .deleting, deletion := some deletion } }

/-- The record of a disposal. The disposed Run refers to no other any more. -/
def recorded (registry : Registry) (record : RunRecord) (locator : Locator) : Registry :=
  stored { registry with
    runs := registry.runs.put { record with
      state := .disposed, hotPath := locator.path, coldLocator := none, deletion := none,
      tombstone := some locator }
    references := registry.references.filter fun reference => reference.source ≠ record.originDigest }

end Registry

/-! ### Plans -/

/-- The `code` of a blocker. -/
inductive BlockerCode where
  | alreadyDisposed
  | unknownRun
  | runNotTerminal
  | originNotUniquelyRegistered
  | originNotActive
  | archiveOriginBindingUnverified
  | originHotPathMismatch
  | incomingProvenanceReferences
  | registryScopeNotClosed
  | runLinks
  | taskOrAttemptRecords
  | executionRegistrations
  | recoveryRecords
  | outboxRecords
  | watchRecords
  | subscriptionRecords
  | notificationRecords
  | resultRecords
  | kernelExecutionEvidence
  | externalJournalOwnershipUnverified
  deriving DecidableEq

structure PlanBody where
  source : String
  runId : String
  runRevision : Option ℕ
  runState : Option RunState
  originDigest : Option String
  storeToken : StoreToken
  registryRevision : ℕ
  registryAuthentication : String
  scopeClosed : Bool
  blockers : List (BlockerCode × ℕ)
  applicable : Bool

structure Plan where
  body : PlanBody
  planDigest : String

/-- SHA-256 of what is digested here, and the HMAC with the key of the registry. -/
structure Digests where
  origin : Identity → String
  registry : Registry → String
  plan : PlanBody → String
  tombstone : Tombstone → String
  /-- Of the path, the origin, the Run, the tombstone and its authentication. -/
  locator : String → String → String → Tombstone → String → String

def block (code : BlockerCode) (count : ℕ) : List (BlockerCode × ℕ) :=
  if count = 0 then [] else [(code, count)]

def runTerminal : RunState → Bool
  | .succeeded | .failed | .cancelled => true
  | .running => false

def Registry.origins (registry : Registry) (token : StoreToken) (runId : String) : List RunRecord :=
  registry.runs.rows.filter fun record =>
    (record.identity.storeId, record.identity.incarnation, record.identity.runId) =
      (token.storeId, token.incarnation, runId)

namespace Source

variable (source : Source) (runId : String)

/-- What speaks against the disposal in the state of the Run. -/
def runBlockers : List (BlockerCode × ℕ) :=
  match source.runs.find? fun row => row.runId = runId with
  | none =>
    if (source.disposedRuns.find? runId).isSome then block .alreadyDisposed 1
    else block .unknownRun 1
  | some run => if runTerminal run.state = true then [] else block .runNotTerminal 1

/-- What speaks against the disposal in the registration of the Run. -/
def originBlockers (path : String) (registry : Registry) : List (BlockerCode × ℕ) :=
  match registry.origins source.token runId with
  | [record] =>
    (if record.state.gone = true then block .originNotActive 1 else []) ++
    (if record.state = .archived then block .archiveOriginBindingUnverified 1 else []) ++
    (if record.state = .active ∧ record.hotPath ≠ path then block .originHotPathMismatch 1
      else []) ++
    block .incomingProvenanceReferences
      (registry.references.countP fun reference => reference.target = record.originDigest)
  | _ => block .originNotUniquelyRegistered 1

/-- What the store still holds for the Run, or for whoever has to do with it. -/
def obligations : List (BlockerCode × ℕ) :=
  block .runLinks (source.links.countP fun link => link.of runId) ++
  block .taskOrAttemptRecords (source.items.countP fun row =>
    decide (row.runId = runId) && (decide (row.part = .task) || decide (row.part = .attempt))) ++
  block .executionRegistrations (source.executions.countP fun row => row.2 = runId) ++
  block .recoveryRecords (source.recoveries.countP fun row => row.runId = runId) ++
  block .outboxRecords (source.outbox.countP fun row => row.runId = runId) ++
  block .watchRecords (source.watches.countP fun row => row.runId = runId) ++
  block .subscriptionRecords (source.subscriptions.countP fun row => row.runId = runId) ++
  block .notificationRecords (source.notifications.countP fun target => target = some runId) ++
  block .resultRecords (source.results.countP fun executionId =>
    source.executions.any fun row => decide (row.1 = executionId) && decide (row.2 = runId)) ++
  block .kernelExecutionEvidence
    (source.kernelExecutions.countP fun correlationId => correlationId = some runId) ++
  block .externalJournalOwnershipUnverified source.sandboxJournals

def buildPlan (digests : Digests) (path : String) (registry : Registry) : Plan :=
  let run := source.runs.find? fun row => row.runId = runId
  let blockers := source.runBlockers runId ++ source.originBlockers runId path registry ++
    (if registry.scopeClosed = true then [] else block .registryScopeNotClosed 1) ++
    source.obligations runId
  let body : PlanBody := {
    source := path
    runId := runId
    runRevision := run.map (·.revision)
    runState := run.map (·.state)
    originDigest :=
      match registry.origins source.token runId with
      | [record] => some record.originDigest
      | _ => none
    storeToken := source.token
    registryRevision := registry.revision
    registryAuthentication := digests.registry registry
    scopeClosed := registry.scopeClosed
    blockers := blockers
    applicable := blockers.isEmpty }
  ⟨body, digests.plan body⟩

end Source

/-- `_validate_plan`: the plan has its own digest and no blockers, and names its origin. -/
def Plan.validated (digests : Digests) (plan : Plan) (origin : String) : Prop :=
  digests.plan plan.body = plan.planDigest ∧ plan.body.applicable = true ∧
    plan.body.blockers = [] ∧ plan.body.originDigest = some origin

/-- What must not have changed when a disposal is tried again. -/
def Plan.holdsAgain (plan recomputed : Plan) : Prop :=
  recomputed.body.blockers.filter (fun blocker => blocker.1 ≠ .originNotActive) = [] ∧
    recomputed.body.source = plan.body.source ∧ recomputed.body.runId = plan.body.runId ∧
    recomputed.body.runRevision = plan.body.runRevision ∧
    recomputed.body.runState = plan.body.runState ∧
    recomputed.body.originDigest = plan.body.originDigest ∧
    recomputed.body.storeToken = plan.body.storeToken ∧ recomputed.body.scopeClosed = true

/-! ### Calls and locks -/

/-- Where a call of `dispose_run` stands. -/
inductive DisposalPhase where
  /-- The transaction on the registry is begun next. -/
  | opened
  /-- The registry is locked and its document has been read. -/
  | loaded (document : Registry)
  /-- The marker is committed and the store is locked; the registry is locked again next. -/
  | marked
  /-- Both files are locked. -/
  | deleting (document : Registry)
  /-- The store has its tombstone; the registry is locked. -/
  | recording (document : Registry) (tombstone : Tombstone) (authentication : String)

/-- A call of `dispose_run`. -/
structure DisposalCall where
  plan : Plan
  origin : String
  operationId : String
  phase : DisposalPhase

/-- A call that takes more than one transaction. -/
inductive Call where
  /-- `register_run` has read the store and not yet written to the registry. -/
  | registering (identity : Identity) (path : String)
  | disposing (call : DisposalCall)

/-- An answer of `dispose_run`. -/
structure Answer where
  operationId : String
  plan : Plan
  origin : String
  locator : Locator

/-- The registry, the stores, the writer locks and the calls under way. -/
structure World where
  registry : Registry
  sources : String → Source
  registryLock : Option ℕ
  sourceLocks : String → Option ℕ
  calls : ℕ → Option Call
  /-- The disposals that were committed, with the store of each. -/
  disposals : List (String × DisposedRow)
  answers : List Answer

/-- Who makes a move: a transaction of the Orchestrator, or a call of the registry. -/
inductive Actor where
  | orchestrator
  | registry

namespace World

/-- The call of a process goes on to another phase. -/
def goes (world : World) (process : ℕ) (call : DisposalCall) (phase : DisposalPhase) : World :=
  { world with
    calls := Function.update world.calls process (some (.disposing { call with phase })) }

/-- The call of a process has ended, and so have its transactions. -/
def ends (world : World) (process : ℕ) : World :=
  { world with
    registryLock := if world.registryLock = some process then none else world.registryLock
    sourceLocks := fun path =>
      if world.sourceLocks path = some process then none else world.sourceLocks path
    calls := Function.update world.calls process none }

end World

namespace DisposalCall

def deletion (call : DisposalCall) : Deletion := ⟨call.operationId, call.plan.planDigest⟩

def tombstone (call : DisposalCall) (disposedAt : ℕ) : Tombstone where
  operationId := call.operationId
  originDigest := call.origin
  runId := call.plan.body.runId
  storeId := call.plan.body.storeToken.storeId
  incarnation := call.plan.body.storeToken.incarnation
  finalRevision := call.plan.body.runRevision
  finalState := call.plan.body.runState
  disposedAt := disposedAt
  planDigest := call.plan.planDigest

/-- The row that the call inserts into `sdk_disposed_runs`. -/
def row (digests : Digests) (call : DisposalCall) (disposedAt : ℕ) : DisposedRow :=
  ⟨call.plan.body.runId, call.tombstone disposedAt, digests.tombstone (call.tombstone disposedAt)⟩

/-- The locator that the call records and answers with. -/
def locator (digests : Digests) (call : DisposalCall) (tombstone : Tombstone)
    (authentication : String) : Locator where
  path := call.plan.body.source
  originDigest := call.origin
  runId := call.plan.body.runId
  tombstone := tombstone
  sourceAuthentication := authentication
  authentication := digests.locator call.plan.body.source call.origin call.plan.body.runId tombstone
    authentication

def owns (call : DisposalCall) (tombstone : Tombstone) : Prop :=
  tombstone.operationId = call.operationId ∧ tombstone.originDigest = call.origin ∧
    tombstone.planDigest = call.plan.planDigest

end DisposalCall

/-! ### The system -/

/-- One move: a transaction, or a part of a call between two commits or locks. -/
inductive Move (digests : Digests) (before : World) : Actor → World → Prop
  | write {path : String} {next : Source} (free : before.sourceLocks path = none)
      (writes : (before.sources path).Writes next) :
      Move digests before .orchestrator
        { before with sources := Function.update before.sources path next }
  | closeScope (free : before.registryLock = none) :
      Move digests before .registry { before with registry := before.registry.closeScope }
  | addReference {reference : Reference} {registry : Registry} (free : before.registryLock = none)
      (added : before.registry.addReference reference = some registry) :
      Move digests before .registry { before with registry }
  | registerArchive {originDigest : String} {locator : ColdLocator} {registry : Registry}
      (free : before.registryLock = none)
      (registered : before.registry.registerArchive originDigest locator = some registry) :
      Move digests before .registry { before with registry }
  /-- `register_run` reads the store. -/
  | readRun {process : ℕ} {path runId : String} (header : String)
      (idle : before.calls process = none)
      (present : (before.sources path).disposedRuns.find? runId = none)
      (known : ∃ run ∈ (before.sources path).runs, run.runId = runId) :
      Move digests before .registry
        { before with
          calls := Function.update before.calls process (some (.registering
            ⟨(before.sources path).token.storeId, (before.sources path).token.incarnation, runId,
              header⟩ path)) }
  | registerRun {process : ℕ} {identity : Identity} {path : String} {registry : Registry}
      (under : before.calls process = some (.registering identity path))
      (free : before.registryLock = none)
      (registered : before.registry.registerRun (digests.origin identity) identity path =
        some registry) :
      Move digests before .registry
        { before with registry, calls := Function.update before.calls process none }
  | dispose {process : ℕ} {plan : Plan} {origin : String} (operationId : String)
      (idle : before.calls process = none) (validated : plan.validated digests origin) :
      Move digests before .registry
        (before.goes process ⟨plan, origin, operationId, .opened⟩ .opened)
  /-- The Run is disposed already, by the same operation. -/
  | replay {process : ℕ} {call : DisposalCall} {record : RunRecord} {locator : Locator}
      (under : before.calls process = some (.disposing call)) (opened : call.phase = .opened)
      (free : before.registryLock = none)
      (found : before.registry.runs.find? call.origin = some record)
      (disposed : record.state = .disposed) (known : record.tombstone = some locator)
      (same : locator.tombstone.operationId = call.operationId ∧
        locator.tombstone.planDigest = call.plan.planDigest) :
      Move digests before .registry
        { before.ends process with
          answers := before.answers ++ [⟨call.operationId, call.plan, call.origin, locator⟩] }
  | load {process : ℕ} {call : DisposalCall} {record : RunRecord}
      (under : before.calls process = some (.disposing call)) (opened : call.phase = .opened)
      (free : before.registryLock = none)
      (found : before.registry.runs.find? call.origin = some record)
      (permitted : (record.state = .deleting ∧ record.deletion = some call.deletion) ∨
        (record.state.gone = false ∧
          before.registry.revision = call.plan.body.registryRevision)) :
      Move digests before .registry
        { before.goes process call (.loaded before.registry) with registryLock := some process }
  /-- The store has the tombstone of this operation already. -/
  | find {process : ℕ} {call : DisposalCall} {document : Registry} {row : DisposedRow}
      (under : before.calls process = some (.disposing call))
      (loaded : call.phase = .loaded document)
      (free : before.sourceLocks call.plan.body.source = none)
      (found : (before.sources call.plan.body.source).disposedRuns.find? call.plan.body.runId =
        some row)
      (verified : row.authentication = digests.tombstone row.tombstone)
      (own : call.owns row.tombstone) :
      Move digests before .registry
        (before.goes process call (.recording document row.tombstone row.authentication))
  /-- The plan still holds, and the marker is committed. -/
  | mark {process : ℕ} {call : DisposalCall} {document : Registry} {record : RunRecord}
      (under : before.calls process = some (.disposing call))
      (loaded : call.phase = .loaded document)
      (found : document.runs.find? call.origin = some record)
      (present : record.state ≠ .deleting)
      (free : before.sourceLocks call.plan.body.source = none)
      (absent : (before.sources call.plan.body.source).disposedRuns.find? call.plan.body.runId =
        none)
      (recomputed : (before.sources call.plan.body.source).buildPlan call.plan.body.runId digests
        call.plan.body.source document = call.plan) :
      Move digests before .registry
        { before.goes process call .marked with
          registry := document.marked record call.deletion
          registryLock := none
          sourceLocks := Function.update before.sourceLocks call.plan.body.source (some process) }
  /-- The marker was committed by an earlier call, and the plan still holds. -/
  | retry {process : ℕ} {call : DisposalCall} {document : Registry} {record : RunRecord}
      (under : before.calls process = some (.disposing call))
      (loaded : call.phase = .loaded document)
      (found : document.runs.find? call.origin = some record)
      (deleting : record.state = .deleting)
      (free : before.sourceLocks call.plan.body.source = none)
      (absent : (before.sources call.plan.body.source).disposedRuns.find? call.plan.body.runId =
        none)
      (holds : call.plan.holdsAgain ((before.sources call.plan.body.source).buildPlan
        call.plan.body.runId digests call.plan.body.source document)) :
      Move digests before .registry
        { before.goes process call (.deleting document) with
          sourceLocks := Function.update before.sourceLocks call.plan.body.source (some process) }
  | relock {process : ℕ} {call : DisposalCall}
      (under : before.calls process = some (.disposing call)) (marked : call.phase = .marked)
      (free : before.registryLock = none) :
      Move digests before .registry
        { before.goes process call (.deleting before.registry) with registryLock := some process }
  /-- The store deletes the Run and inserts the tombstone. -/
  | delete {process : ℕ} {call : DisposalCall} {document : Registry} (disposedAt mutation : ℕ)
      (under : before.calls process = some (.disposing call))
      (deleting : call.phase = .deleting document) :
      Move digests before .registry
        { before.goes process call (.recording document (call.tombstone disposedAt)
            (digests.tombstone (call.tombstone disposedAt))) with
          sources := Function.update before.sources call.plan.body.source
            ((before.sources call.plan.body.source).deleteRun (call.row digests disposedAt) mutation)
          sourceLocks := Function.update before.sourceLocks call.plan.body.source none
          disposals := before.disposals ++
            [(call.plan.body.source, call.row digests disposedAt)] }
  /-- The registry records the disposal, and the call answers. -/
  | record {process : ℕ} {call : DisposalCall} {document : Registry} {tombstone : Tombstone}
      {authentication : String} {record : RunRecord}
      (under : before.calls process = some (.disposing call))
      (recording : call.phase = .recording document tombstone authentication)
      (found : document.runs.find? call.origin = some record) :
      Move digests before .registry
        { before.ends process with
          registry := document.recorded record (call.locator digests tombstone authentication)
          answers := before.answers ++ [⟨call.operationId, call.plan, call.origin,
            call.locator digests tombstone authentication⟩] }
  /-- A call raises, or its process ends. -/
  | fail (process : ℕ) : Move digests before .registry (before.ends process)

/-- The registry and its stores. At first nothing is registered and nothing is disposed. -/
def disposalSystem (digests : Digests) : TransitionSystem World where
  initial world := world.registry = ⟨0, false, ∅, []⟩ ∧
    (∀ path, (world.sources path).disposedRuns = ∅) ∧ world.registryLock = none ∧
    (∀ path, world.sourceLocks path = none) ∧ (∀ process, world.calls process = none) ∧
    world.disposals = [] ∧ world.answers = []
  step before after := ∃ actor, Move digests before actor after

end DispatcherSdk.Provenance
