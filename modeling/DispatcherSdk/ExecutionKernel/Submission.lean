/-
This file models how a command becomes an execution, and how one is refused for good before
it does.

A command is accepted once: an execution is stored under the command's name, and neither
that name nor the command's idempotency key may ever stand for another command. An execution
of a managed Run is registered with the Run in the transaction that accepts it.
-/

import DispatcherSdk.ExecutionKernel.Completion

namespace DispatcherSdk.ExecutionKernel

open Library Library.Attempt List

/-! ### Expired leases -/

/-- `ORDER BY created_at, execution_id`. -/
def ExecutionRow.precedes (left right : ExecutionRow) : Prop :=
  left.createdAt < right.createdAt ∨
    (left.createdAt = right.createdAt ∧ left.executionId.text ≤ right.executionId.text)

instance (left right : ExecutionRow) : Decidable (left.precedes right) :=
  inferInstanceAs (Decidable (_ ∨ _))

/-- A supervisor of the current attempt may still be running. -/
def Database.awaitsSupervisor (database : Database) (row : ExecutionRow) : Bool :=
  match database.supervisorObligations.find? (row.executionId, row.attempt, row.fence) with
  | none => false
  | some obligation => obligation.resolution.isNone

/-- The lease of a row has expired and may be collected. -/
def Database.reapable (database : Database) (timestamp : Timestamp) (row : ExecutionRow) : Bool :=
  row.state.held && row.lease.any (fun columns => columns.expiresAt ≤ timestamp) &&
    !database.awaitsSupervisor row

def Database.expiredRows (database : Database) (timestamp : Timestamp) : List ExecutionRow :=
  ((database.executions.rows.filter (database.reapable timestamp)).insertionSort
    ExecutionRow.precedes).take 256

variable {timestamp : Timestamp}

variable {database : Database}

theorem Database.mem_expiredRows {row : ExecutionRow}
    (member : row ∈ database.expiredRows timestamp) :
    row ∈ database.executions ∧ database.reapable timestamp row = true := by
  have sorted := mem_of_mem_take member
  rw [mem_insertionSort, mem_filter] at sorted
  exact sorted

/-- Queue an execution again whose lease has expired. -/
def redeliverExpired (row : ExecutionRow) (timestamp : Timestamp) : KernelM Unit := do
  let environment ← ask
  let _ ← lift (reduceRow row .leaseExpired)
  let delay := row.command.retryPolicy.delayForAttempt environment.arithmetic row.attempt
  let nextAt ← lift (checkedAdd environment.arithmetic timestamp delay "lease retry delay")
  casExecution row (row.requeued nextAt timestamp) "lease expiry redelivery"
  appendEvent
    { executionId := row.executionId, revision := row.revision + 1
      eventType := .leaseExpiredRedelivery, fromState := some row.state, toState := .queued
      data :=
        [("attempt", .ofNat row.attempt), ("redelivery_count", .ofNat (row.redeliveryCount + 1))]
      createdAt := timestamp }

def reapRow (timestamp : Timestamp) (row : ExecutionRow) : KernelM Unit := do
  let parked ← parkUnfinishedEffects row timestamp .leaseExpired
  match parked with
  | some _ => return ()
  | none =>
    if row.command.retryPolicy.maxAttempts ≤ row.attempt then do
      let database ← KernelM.database
      let resultId ← KernelM.uuid
      let dead ← lift (deadResult row timestamp ⟨"lease_retry_exhausted", by decide⟩
        "lease expired after the retry budget was exhausted"
        [("max_attempts", .ofNat row.command.retryPolicy.maxAttempts)] resultId
        (database.committedEffectIds row.executionId))
      let _ ← terminal row dead .leaseExpiredDead timestamp
      return ()
    else redeliverExpired row timestamp

def reapInTransaction (timestamp : Timestamp) : KernelM (List Identifier) := do
  let database ← KernelM.database
  let rows := database.expiredRows timestamp
  forEach rows (reapRow timestamp)
  return rows.map (·.executionId)

/-- The batches of `reap`. A full batch takes its rows out of the leased states, so there are no
more than stored executions. -/
def reapBatches (timestamp : Timestamp) : ℕ → KernelM (List Identifier)
  | 0 => return []
  | bound + 1 => do
    let batch ← reapInTransaction timestamp
    if batch.length < 256 then return batch
    else do
      let later ← reapBatches timestamp bound
      return batch ++ later

/-- The snapshots of executions, in order. -/
def snapshots : List Identifier → KernelM (List ExecutionSnapshot)
  | [] => return []
  | executionId :: rest => do
    let row ← getRow executionId
    let first ← snapshot row
    let others ← snapshots rest
    return first :: others

/-- The body of `reap`. -/
def reapBody (timestamp : Timestamp) : KernelM (List ExecutionSnapshot) := do
  let database ← KernelM.database
  let collected ← reapBatches timestamp (database.executions.rows.length + 1)
  snapshots collected

def reap (environment : Environment) (state : KernelState) :
    Except KernelError (List ExecutionSnapshot) × KernelState :=
  transaction reapBody environment state

/-! ### Candidates for a claim -/

structure ClaimFilter where
  revisions : Option (List Identifier)
  executionId : Option Identifier := none
  excluded : List Identifier := []

def claimRevisions (registryRevision : Option Identifier)
    (registryRevisions : Option (List Identifier)) :
    Except KernelError (Option (List Identifier)) :=
  match registryRevision, registryRevisions with
  | some _, some _ =>
    .error (.value "registry_revision and registry_revisions are mutually exclusive")
  | some revision, none => .ok (some [revision])
  | none, none => .ok none
  | none, some [] =>
    .error (.value "registry_revisions must be a non-empty sequence of non-empty strings")
  | none, some revisions => .ok (some revisions.eraseDups)

/-- The membership conditions of `_next_claim_row`. -/
def Database.claimableMembership (database : Database) (timestamp : Timestamp)
    (row : ExecutionRow) : Bool :=
  match database.managedExecutions.find? row.executionId with
  | none => !row.executionId.managed
  | some member =>
    match database.runControls.find? member.runId with
    | none => false
    | some control =>
      ((database.unresolvedBarriers member.runId).all fun receipt =>
        decide (control.state = .pausing) && member.drainAllowed &&
          decide (member.generation = control.generation) &&
          receipt.passes control row.executionId) &&
        decide (control.claimsUsed < control.maxClaims) &&
        decide (timestamp < control.deadlineAt) &&
        (decide (control.state = .active) && decide (member.generation = control.generation) ||
          decide (control.state = .pausing) && member.drainAllowed)

/-- The conditions of `_next_claim_row` on a target or, without one, on a scan. -/
def Database.claimTargeted (database : Database) (filter : ClaimFilter)
    (after : Option ClaimCursor) (row : ExecutionRow) : Bool :=
  match filter.executionId with
  | some target => decide (row.executionId = target)
  | none =>
    after.all (fun cursor =>
      decide (cursor.createdAt < row.createdAt) ||
        (decide (row.createdAt = cursor.createdAt) &&
          decide (cursor.executionId.text < row.executionId.text))) &&
      (database.parentOf row.executionId).isNone &&
      database.gates.budgetSamples.all fun sample => sample.executionId ≠ row.executionId

/-- The whole predicate of `_next_claim_row`. -/
def Database.claimable (database : Database) (timestamp : Timestamp) (filter : ClaimFilter)
    (after : Option ClaimCursor) (row : ExecutionRow) : Bool :=
  decide (row.state = .queued) && decide (row.nextAttemptAt ≤ timestamp) &&
    filter.revisions.all (fun revisions => revisions.contains row.command.registryRevision) &&
    !database.awaitsSupervisor row &&
    (database.gates.lifecycleProducers.all fun producer =>
      producer.executionId ≠ row.executionId || (!producer.opened && producer.undelivered == 0)) &&
    !filter.excluded.contains row.executionId &&
    database.claimTargeted filter after row && database.claimableMembership timestamp row

def Database.nextClaimRow (database : Database) (timestamp : Timestamp) (filter : ClaimFilter)
    (after : Option ClaimCursor) : Option ExecutionRow :=
  ((database.executions.rows.filter (database.claimable timestamp filter after)).insertionSort
    ExecutionRow.precedes).head?

theorem Database.nextClaimRow_some {filter : ClaimFilter} {after : Option ClaimCursor}
    {row : ExecutionRow} (found : database.nextClaimRow timestamp filter after = some row) :
    row ∈ database.executions ∧ database.claimable timestamp filter after row = true := by
  have sorted := mem_of_head? found
  rw [mem_insertionSort, mem_filter] at sorted
  exact sorted

/-! ### The scan -/

/-- The largest identity that a scan may leave in a cursor. -/
def identityFits (executionId : Identifier) : Probe Unit :=
  require (executionId.text.utf8ByteSize ≤ 4096)
    (.value "budget scan execution identity exceeds its byte bound")

/-- The predicate that a cursor of a scan belongs to, as it is encoded. -/
def scanPredicate (revisions : Option (List Identifier)) : Json :=
  .object [("revisions",
    .ofOption (fun names => .array (names.map Identifier.toJson)) revisions)]

/-- The bounds on the predicate of a scan, and on the cursor it continues from. -/
def checkScan (arithmetic : FloatArithmetic) (filter : ClaimFilter)
    (cursor : Option ClaimCursor) : Except KernelError Unit := do
  let refusal := KernelError.value "budget scan predicate exceeds its byte bound"
  let values := filter.revisions.getD [] ++ filter.excluded
  ensure (values.length ≤ 1024) refusal
  ensure ((∀ value ∈ values, value.text.length ≤ 4096) ∧
    (values.map fun value => value.text.utf8ByteSize).sum ≤ 65536) refusal
  ensure ((scanPredicate filter.revisions).bytes arithmetic ≤ 65536) refusal
  ensure (∀ after ∈ cursor, filter.executionId = none ∧ after.revisions = filter.revisions)
    (.value "budget scan cursor does not match the claim predicate")
  ensure (∀ after ∈ cursor, after.executionId.text.utf8ByteSize ≤ 4096)
    (.value "invalid budget scan cursor")

/-- What a managed candidate has to be admitted by; a later scan goes on after it if its commit is
refused. -/
def admitCandidate (filter : ClaimFilter) (member : ManagedExecution) (row : ExecutionRow)
    (timestamp : Timestamp) : Probe Unit := do
  checkApplicationBudget member.runId member.generation row.executionId
    (some row.command.toDict.encode)
  checkRunAuthority member.runId "claim" timestamp (some row.executionId)
  noteContinuation
where
  noteContinuation : Probe Unit :=
    match filter.executionId with
    | some _ => pure ()
    | none => do
      identityFits row.executionId
      Attempt.change
        (fun session =>
          { session with
            continuation := some ⟨filter.revisions, row.createdAt, row.executionId⟩ })
        le_refl

def refusesCandidate (failure : KernelError) : Bool :=
  failure.kind = .casConflict || failure.kind = .storageIsolation

/-- The loop of `_next_budget_eligible_claim`, over the candidates it may still look at. -/
def scanClaims (filter : ClaimFilter) (timestamp : Timestamp) :
    ℕ → Option ClaimCursor → Probe (Option ExecutionRow)
  | 0, cursor => do
    forEach (cursor.toList.map (·.executionId)) identityFits
    fail { kind := .budgetScanContinuation
           message := "application budget scan requires continuation" }
  | bound + 1, cursor => do
    let database ← Probe.database
    match database.nextClaimRow timestamp filter cursor with
    | none => return none
    | some row =>
      match database.managedExecutions.find? row.executionId with
      | none => return some row
      | some member =>
        if filter.executionId.isSome then do
          admitCandidate filter member row timestamp
          return some row
        else do
          let admitted ← Probe.attempting refusesCandidate
            (admitCandidate filter member row timestamp)
          match admitted with
          | some () => return some row
          | none =>
            scanClaims filter timestamp bound
              (some ⟨filter.revisions, row.createdAt, row.executionId⟩)

def nextBudgetEligibleClaim (filter : ClaimFilter) (cursor : Option ClaimCursor)
    (timestamp : Timestamp) : Probe (Option ExecutionRow) := do
  let environment ← Probe.environment
  lift (checkScan environment.arithmetic filter cursor)
  scanClaims filter timestamp 64 cursor

/-- The body of `next_queued`. -/
def nextQueuedBody (registryRevision : Identifier) (timestamp : Timestamp) :
    KernelM (Option ExecutionSnapshot) := do
  let _ ← reapInTransaction timestamp
  let database ← KernelM.database
  match database.nextClaimRow timestamp { revisions := some [registryRevision] } none with
  | none => return none
  | some row => do
    let current ← snapshot row
    return some current

def nextQueued (registryRevision : Identifier) (environment : Environment)
    (state : KernelState) : Except KernelError (Option ExecutionSnapshot) × KernelState :=
  transaction (nextQueuedBody registryRevision) environment state

/-! ### Claims -/

def ExecutionRow.leasedTo (row : ExecutionRow) (columns : LeaseColumns) (timestamp : Timestamp) :
    ExecutionRow :=
  { row with
    state := .leased
    attempt := row.attempt + 1
    lease := some columns
    fence := row.fence + 1
    revision := row.revision + 1
    updatedAt := timestamp }

def ExecutionRow.nextLease (row : ExecutionRow) (columns : LeaseColumns) : ExecutionLease where
  executionId := row.executionId
  leaseId := columns.leaseId
  owner := columns.owner
  fence := row.fence + 1
  attempt := row.attempt + 1
  expiresAt := columns.expiresAt
  revision := row.revision + 1
  fencePositive := Nat.le_add_left 1 row.fence
  attemptPositive := Nat.le_add_left 1 row.attempt
  revisionPositive := Nat.le_add_left 1 row.revision

def ExecutionRow.leasedEvent (row : ExecutionRow) (owner : Identifier) (timestamp : Timestamp) :
    EventDraft where
  executionId := row.executionId
  revision := row.revision + 1
  eventType := .leased
  fromState := some .queued
  toState := .leased
  data :=
    [("owner", owner.toJson), ("attempt", .ofNat (row.attempt + 1)),
      ("fence", .ofNat (row.fence + 1))]
  createdAt := timestamp

/-- The body of `claim`. -/
def claimBody (owner : Identifier) (duration : Timestamp) (filter : ClaimFilter)
    (cursor : Option ClaimCursor) (timestamp : Timestamp) : KernelM (Option ExecutionLease) := do
  let environment ← ask
  let _ ← reapInTransaction timestamp
  let candidate ← KernelM.probe (nextBudgetEligibleClaim filter cursor timestamp)
  match candidate with
  | none => return none
  | some row => do
    KernelM.probe (assertBudgetClock row.executionId)
    let _ ← lift (reduceState row.state .lease row.executionId row.revision)
    let leaseId ← KernelM.uuid
    let expiresAt ← lift (checkedAdd environment.arithmetic timestamp duration "lease_seconds")
    chargeManagedClaim row.executionId timestamp
    casExecution row (row.leasedTo ⟨leaseId, owner, expiresAt⟩ timestamp) "execution claim"
    appendEvent (row.leasedEvent owner timestamp)
    return some (row.nextLease ⟨leaseId, owner, expiresAt⟩)

/-- The arguments of a claim, as its caller gives them. -/
structure ClaimRequest where
  owner : Identifier
  leaseSeconds : Option Timestamp
  registryRevision : Option Identifier
  registryRevisions : Option (List Identifier)
  executionId : Option Identifier
  cursor : Option ClaimCursor

def claim (request : ClaimRequest) (environment : Environment) (state : KernelState) :
    Except KernelError (Option ExecutionLease) × KernelState :=
  match do
    let revisions ← claimRevisions request.registryRevision request.registryRevisions
    let duration ← durationOr environment.defaultLeaseSeconds request.leaseSeconds "lease_seconds"
    return (revisions, duration) with
  | .error failure => (.error failure, state)
  | .ok (revisions, duration) =>
    transaction
      (claimBody request.owner duration { revisions, executionId := request.executionId }
        request.cursor) environment state

/-- An execution that runs under a fresh lease. -/
def ExecutionRow.startedUnder (row : ExecutionRow) (columns : LeaseColumns)
    (timestamp : Timestamp) : ExecutionRow :=
  { row with
    state := .running
    attempt := row.attempt + 1
    lease := some columns
    fence := row.fence + 1
    startedAt := some timestamp
    revision := row.revision + 2
    updatedAt := timestamp }

/-- The event of a start, given the attempt it is part of. -/
def startedEvent (executionId : Identifier) (revision attempt fence : ℕ)
    (timestamp : Timestamp) : EventDraft where
  executionId := executionId
  revision := revision
  eventType := .started
  fromState := some .leased
  toState := .running
  data := [("attempt", .ofNat attempt), ("fence", .ofNat fence)]
  createdAt := timestamp

/-- The reservation that a claim makes for the producer of lifecycle events. -/
structure LifecycleReservation where
  producerId : Identifier
  slots : ℕ

/-- `_lifecycle_reserve_in_transaction`: whether the producer has its slots. -/
def lifecycleReserve (executionId : Identifier) (attempt fence : ℕ)
    (reservation : LifecycleReservation) : KernelM Bool := do
  let database ← KernelM.database
  let gates := database.gates
  require (∀ retired ∈ gates.lifecycleRetired, retired.1 = executionId →
      ¬ (attempt < retired.2.1 ∨ (attempt = retired.2.1 ∧ fence ≤ retired.2.2)))
    (.lifecycleReceiptExpired "lifecycle generation has been retired")
  match gates.lifecycleProducers.find? fun producer => producer.token = reservation.producerId with
  | some existing => do
    require (existing.executionId = executionId ∧ existing.attempt = attempt ∧
        existing.fence = fence ∧ existing.slots = reservation.slots ∧ existing.opened = true)
      (.value "lifecycle producer token already used")
    return true
  | none => do
    let usage := ((gates.lifecycleProducers.filter (·.opened)).map (·.slots)).sum
    let pendingClosed := ((gates.lifecycleProducers.filter (!·.opened)).map (·.undelivered)).sum
    if 8192 < usage + pendingClosed + reservation.slots then return false
    else do
      KernelM.modify fun database =>
        { database with
          gates.lifecycleProducers := database.gates.lifecycleProducers ++
            [{ token := reservation.producerId, executionId, attempt, fence
               slots := reservation.slots, opened := true, undelivered := 0 }] }
      return true

/-- What `claim_and_start` is asked for beyond a claim. -/
structure StartOptions where
  safety : Timestamp
  childPool : Option Bool
  reservation : Option LifecycleReservation

/-- The lease and start of one candidate in one step. -/
def startCandidate (owner : Identifier) (floor : Timestamp) (options : StartOptions)
    (row : ExecutionRow) (timestamp : Timestamp) : KernelM (Option ExecutionLease) := do
  let environment ← ask
  let needed ← lift (checkedAdd environment.arithmetic row.command.timeoutSeconds options.safety
    "handler timeout safety")
  let _ ← lift (reduceState row.state .lease row.executionId row.revision)
  let _ ← lift (reduceState .leased .start row.executionId (row.revision + 1))
  let leaseId ← KernelM.uuid
  let reserved ← reserve
  if reserved = false then return none
  else do
    let expiresAt ← lift
      (checkedAdd environment.arithmetic timestamp (max floor needed) "lease_seconds")
    chargeManagedClaim row.executionId timestamp
    KernelM.probe (authorizeManagedOperation row.executionId timestamp .start)
    casExecution row (row.startedUnder ⟨leaseId, owner, expiresAt⟩ timestamp)
      "atomic execution claim/start"
    appendEvent (row.leasedEvent owner timestamp)
    appendEvent (startedEvent row.executionId (row.revision + 2) (row.attempt + 1)
      (row.fence + 1) timestamp)
    return some
      { row.nextLease ⟨leaseId, owner, expiresAt⟩ with
        revision := row.revision + 2
        revisionPositive := Nat.le_add_left 1 (row.revision + 1) }
where
  /-- A producer of lifecycle events is authorized and gets its slots. -/
  reserve : KernelM Bool :=
    match options.reservation with
    | none => pure true
    | some reservation => do
      KernelM.probe (authorizeLifecycle row.executionId (row.attempt + 1) (row.fence + 1)
        "reserve" timestamp (some reservation.producerId))
      lifecycleReserve row.executionId (row.attempt + 1) (row.fence + 1) reservation

/-- The body of `_claim_and_start`. -/
def claimAndStartBody (owner : Identifier) (floor : Timestamp) (filter : ClaimFilter)
    (cursor : Option ClaimCursor) (options : StartOptions) (timestamp : Timestamp) :
    KernelM (Option ExecutionLease) := do
  let _ ← reapInTransaction timestamp
  let candidate ← KernelM.probe (nextBudgetEligibleClaim filter cursor timestamp)
  match candidate with
  | none => return none
  | some row => do
    KernelM.probe (assertBudgetClock row.executionId)
    let database ← KernelM.database
    let isChild := (database.parentOf row.executionId).isSome
    -- Adoption may have changed the required pool since its slot was reserved.
    if options.childPool.any (fun wanted => wanted != isChild) then return none
    else do
      assertTarget row
      startCandidate owner floor options row timestamp
where
  /-- Only a claim of one named execution can claim a child. -/
  assertTarget (row : ExecutionRow) : KernelM Unit :=
    if filter.executionId.isSome then KernelM.probe (assertChildClaim row.executionId timestamp)
    else pure ()

/-- `claim_and_start`, from its transaction on. -/
def claimAndStart (request : ClaimRequest) (excluded : List Identifier) (options : StartOptions)
    (environment : Environment) (state : KernelState) :
    Except KernelError (Option ExecutionLease) × KernelState :=
  match do
    ensure (excluded.length ≤ 512)
      (.value "exclude_execution_ids must contain at most 512 non-empty strings")
    let revisions ← claimRevisions request.registryRevision request.registryRevisions
    let floor ← durationOr environment.defaultLeaseSeconds request.leaseSeconds "lease_seconds"
    ensure (∀ reservation ∈ options.reservation, reservation.producerId.text.length ≤ 256)
      (.value "invalid lifecycle producer token")
    ensure (∀ reservation ∈ options.reservation,
        1 ≤ reservation.slots ∧ reservation.slots ≤ 1024)
      (.value "invalid lifecycle reservation size")
    return (revisions, floor) with
  | .error failure => (.error failure, state)
  | .ok (revisions, floor) =>
    transaction
      (claimAndStartBody request.owner floor
        { revisions, executionId := request.executionId, excluded := excluded.eraseDups }
        request.cursor options) environment state

/-! ### Holding a lease -/

/-- The body of `verify`. -/
def verifyBody (lease : ExecutionLease) (timestamp : Timestamp) : KernelM ExecutionSnapshot := do
  let row ← assertLease lease timestamp [.leased, .running]
  KernelM.probe (authorizeManagedOperation lease.executionId timestamp .leaseVerification)
  snapshot row

def verify (lease : ExecutionLease) (environment : Environment) (state : KernelState) :
    Except KernelError ExecutionSnapshot × KernelState :=
  transaction (verifyBody lease) environment state

def ExecutionRow.started (row : ExecutionRow) (timestamp : Timestamp) : ExecutionRow :=
  { row with
    state := .running
    startedAt := some timestamp
    revision := row.revision + 1
    updatedAt := timestamp }

def ExecutionLease.renewedTo (lease : ExecutionLease) (expiresAt : Timestamp) (revision : ℕ) :
    ExecutionLease :=
  { lease with
    expiresAt := expiresAt
    revision := revision + 1
    revisionPositive := Nat.le_add_left 1 revision }

/-- The body of `start`. -/
def startBody (lease : ExecutionLease) (timestamp : Timestamp) : KernelM ExecutionLease := do
  let row ← assertLease lease timestamp [.leased]
  KernelM.probe (authorizeManagedOperation lease.executionId timestamp .start)
  KernelM.probe (assertBudgetClock lease.executionId)
  let _ ← lift (reduceRow row .start)
  casExecution row (row.started timestamp) "execution start"
  appendEvent (startedEvent lease.executionId (row.revision + 1) lease.attempt lease.fence
    timestamp)
  return lease.renewedTo lease.expiresAt row.revision

def start (lease : ExecutionLease) (environment : Environment) (state : KernelState) :
    Except KernelError ExecutionLease × KernelState :=
  transaction (startBody lease) environment state

/-- An execution whose lease expires at another time. -/
def ExecutionRow.renewed (row : ExecutionRow) (expiresAt timestamp : Timestamp) : ExecutionRow :=
  { row with
    lease := row.lease.map fun columns => { columns with expiresAt := expiresAt }
    revision := row.revision + 1
    updatedAt := timestamp }

/-- The body of `renew`. -/
def renewBody (lease : ExecutionLease) (duration timestamp : Timestamp) :
    KernelM ExecutionLease := do
  let environment ← ask
  let row ← assertLease lease timestamp [.leased, .running]
  KernelM.probe (authorizeManagedOperation lease.executionId timestamp .leaseRenewal)
  let expiresAt ← lift (checkedAdd environment.arithmetic timestamp duration "lease_seconds")
  casExecution row (row.renewed expiresAt timestamp) "lease renewal"
  appendEvent
    { executionId := lease.executionId, revision := row.revision + 1, eventType := .leaseRenewed
      fromState := some row.state, toState := row.state
      data := [("fence", .ofNat lease.fence), ("expires_at", .ofTimestamp expiresAt)]
      createdAt := timestamp }
  return lease.renewedTo expiresAt row.revision

def renew (lease : ExecutionLease) (leaseSeconds : Option Timestamp) (environment : Environment)
    (state : KernelState) : Except KernelError ExecutionLease × KernelState :=
  match durationOr environment.defaultLeaseSeconds leaseSeconds "lease_seconds" with
  | .error failure => (.error failure, state)
  | .ok duration => transaction (renewBody lease duration) environment state

/-! ### Looking without observing the clock -/

/-- `current_time`: the logical time, which is not written back. -/
def currentTime (environment : Environment) (state : KernelState) : Except KernelError Timestamp :=
  match environment.wallTime 0 with
  | none => .error (.value "clock must be a finite number")
  | some wall => .ok (max wall state.watermark)

/-! ### Obligations to a supervisor -/

/-- The body of `register_supervisor_obligation`; it answers when the obligation was registered. -/
def registerSupervisorObligationBody (lease : ExecutionLease) (timestamp : Timestamp) :
    KernelM Timestamp := do
  let _ ← assertLease lease timestamp [.leased, .running]
  let database ← KernelM.database
  match database.supervisorObligations.find? (lease.executionId, lease.attempt, lease.fence) with
  | none => do
    KernelM.modify fun database =>
      { database with
        supervisorObligations := database.supervisorObligations.put
          { executionId := lease.executionId, attempt := lease.attempt, fence := lease.fence
            registeredAt := timestamp, resolution := none } }
    return timestamp
  | some obligation => do
    require (obligation.resolution = none)
      (.casConflict "supervisor obligation is already resolved")
    return obligation.registeredAt

def registerSupervisorObligation (lease : ExecutionLease) (environment : Environment)
    (state : KernelState) : Except KernelError Timestamp × KernelState :=
  transaction (registerSupervisorObligationBody lease) environment state

/-- The decision about a supervisor that a host authenticates; its cleanup is confirmed and a
retry is authorized. -/
structure SupervisorDecision where
  executionId : Identifier
  attempt : ℕ
  fence : ℕ
  outcome : String
  evidence : Identifier

/-- The decision as it is compared and stored. -/
def SupervisorDecision.toJson (decision : SupervisorDecision) : Json := .object
  [("execution_id", decision.executionId.toJson), ("attempt", .ofNat decision.attempt),
    ("fence", .ofNat decision.fence), ("cleanup", .string "confirmed"),
    ("outcome", .string decision.outcome), ("disposition", .string "retry_authorized"),
    ("evidence", decision.evidence.toJson)]

/-- The host authenticates the decision about a supervisor. -/
def verifyResolution (credential : Credential) (decision : SupervisorDecision) :
    Probe Identifier := do
  let refusal := KernelError.storageIsolation "host did not authenticate supervisor resolution"
  masking refusal do
    let answer ← askHost (some credential) refusal
    let now ← Probe.advanceClock
    require (now < answer.expiresAt ∧
      answer.supervisorResolution = some decision.toJson.encode ∧
      answer.permits decision.executionId "kernel:resolve_supervisor" = true) refusal
    return answer.principal

/-- The body of `resolve_supervisor_obligation`. -/
def resolveSupervisorObligationBody (credential : Credential) (decision : SupervisorDecision) :
    KernelM Unit := do
  let principal ← KernelM.probe (verifyResolution credential decision)
  let database ← KernelM.database
  let obligation ← expect
    (database.supervisorObligations.find?
      (decision.executionId, decision.attempt, decision.fence))
    (.casConflict "exact supervisor obligation is unavailable")
  require ((database.executions.find? decision.executionId).map
      (fun row => (row.attempt, row.fence)) = some (decision.attempt, decision.fence))
    (.casConflict "supervisor execution generation changed")
  let record := (Json.object
    [("decision", decision.toJson), ("principal", principal.toJson)]).encode
  require (∀ recorded ∈ obligation.resolution, recorded = record)
    (.casConflict "supervisor obligation has a different resolution")
  KernelM.modify fun database =>
    { database with
      supervisorObligations :=
        database.supervisorObligations.put { obligation with resolution := some record } }
  let again ← KernelM.probe (verifyResolution credential decision)
  require (again = principal) (.storageIsolation "supervisor resolution authority changed")

def resolveSupervisorObligation (credential : Credential) (decision : SupervisorDecision)
    (environment : Environment) (state : KernelState) : Except KernelError Unit × KernelState :=
  if decision.outcome ∈ ["unknown", "failed", "not_invoked"] ∧
      decision.toJson.bytes environment.arithmetic ≤ 65536 then
    transaction (fun _ => resolveSupervisorObligationBody credential decision) environment state
  else (.error (.value "invalid supervisor resolution"), state)

/-! ### Acceptance -/

/-- The execution that a command's name or its idempotency key identifies; the name goes first. -/
def Database.accepted? (database : Database) (command : ExecutionCommand) : Option ExecutionRow :=
  (database.executions.find? command.executionId).or
    (database.executions.rows.find? fun row =>
      row.command.idempotencyKey = command.idempotencyKey)

theorem Database.accepted?_none {command : ExecutionCommand}
    (missing : database.accepted? command = none) :
    database.executions.find? command.executionId = none ∧
      ∀ row ∈ database.executions, row.command.idempotencyKey ≠ command.idempotencyKey := by
  rw [accepted?, Option.or_eq_none_iff] at missing
  refine ⟨missing.1, fun row member same => ?_⟩
  have absent := List.find?_eq_none.mp missing.2 row member
  simp [same] at absent

/-- An execution that waits for its first attempt. -/
def ExecutionCommand.submitted (command : ExecutionCommand) (timestamp : Timestamp) :
    ExecutionRow where
  executionId := command.executionId
  command := command
  state := .queued
  attempt := 0
  redeliveryCount := 0
  nextAttemptAt := timestamp
  lease := none
  fence := 0
  startedAt := none
  result := none
  recoveryEffectId := none
  recoveryTargetState := none
  recoveryReason := none
  revision := 1
  createdAt := timestamp
  updatedAt := timestamp

def ExecutionCommand.submittedEvent (command : ExecutionCommand) (timestamp : Timestamp) :
    EventDraft where
  executionId := command.executionId
  revision := 1
  eventType := .submitted
  fromState := none
  toState := .queued
  data := [("command", command.toDict)]
  createdAt := timestamp

/-- An accepted execution belongs to the very command that is presented. -/
def requireCommand (existing : ExecutionRow) (command : ExecutionCommand) : KernelM Unit :=
  require (existing.command.toDict.encode = command.toDict.encode)
    (.idempotencyConflict "execution_id/idempotency_key already identifies another command")

/-- `_submit_in_transaction`: the execution and whether it was accepted just now. -/
def submitInTransaction (command : ExecutionCommand) (timestamp : Timestamp) :
    KernelM (ExecutionRow × Bool) := do
  let database ← KernelM.database
  match database.accepted? command with
  | some existing => do
    requireCommand existing command
    return (existing, false)
  | none => do
    KernelM.write (.execution (command.submitted timestamp))
    appendEvent (command.submittedEvent timestamp)
    let row ← getRow command.executionId
    return (row, true)

/-- The body of `submit`. -/
def submitBody (command : ExecutionCommand) (timestamp : Timestamp) :
    KernelM ExecutionSnapshot := do
  let database ← KernelM.database
  require (database.managedExecutions.find? command.executionId).isNone
    (.storageIsolation "managed execution IDs require managed submission")
  let (row, _) ← submitInTransaction command timestamp
  snapshot row

def submit (command : ExecutionCommand) (environment : Environment) (state : KernelState) :
    Except KernelError ExecutionSnapshot × KernelState :=
  if command.executionId.managed = true then
    (.error (.storageIsolation "reserved managed execution IDs require submit_managed"), state)
  else transaction (submitBody command) environment state

/-! ### Managed submission -/

/-- The live parent that a supervisor is bound to. -/
structure SupervisorParent where
  lease : ExecutionLease
  envelope : BudgetEnvelope

def registerMember (executionId runId : Identifier) (generation : ℕ) : KernelM Unit :=
  KernelM.modify fun database =>
    { database with
      managedExecutions := database.managedExecutions.put
        { executionId, runId, generation, drainAllowed := false } }

/-- The pages of an import, the last one first. -/
def latestPage (pages : List ImportReceipt) : Option ImportReceipt :=
  (pages.insertionSort fun left right => right.adoption.pageSeq ≤ left.adoption.pageSeq).head?

/-- The last page of the import of a Run. -/
def Database.lastImportPage (database : Database) (runId : Identifier) : Option ImportReceipt :=
  latestPage <| database.legacyImportPages.filter fun page =>
    database.legacyImports.rows.any fun initial =>
      initial.adoption.runId = runId && initial.adoption.operationId = page.adoption.operationId

/-- A managed submission of a command that was accepted before. -/
def replayManaged (existing : ExecutionRow) (command : ExecutionCommand) (runId : Identifier)
    (generation : ℕ) (parent : Option SupervisorParent) : KernelM ExecutionSnapshot := do
  let database ← KernelM.database
  requireCommand existing command
  require (∃ member ∈ database.managedExecutions.find? command.executionId,
      member.runId = runId ∧ member.generation = generation)
    (.idempotencyConflict "existing execution has no matching managed Run registration")
  require (∀ presented ∈ parent, ∃ limits ∈ database.executionLimits.find? command.executionId,
      limits.parent = some
        ⟨presented.lease.executionId, presented.lease.attempt, presented.lease.fence⟩)
    (.idempotencyConflict "existing supervisor has no matching source binding")
  snapshot existing

/-- A managed submission of a command that was imported but not yet accepted. -/
def acceptPending (member : ManagedExecution) (control : RunControl) (command : ExecutionCommand)
    (runId : Identifier) (generation : ℕ) (parent : Option SupervisorParent)
    (timestamp : Timestamp) : KernelM ExecutionSnapshot := do
  let database ← KernelM.database
  let encoded := command.toDict.encode
  require ((database.legacyPendingCommands.find? command.executionId).map (·.command) =
        some encoded ∧ member.runId = runId ∧ member.generation = generation ∧ parent.isNone)
    (.storageIsolation "managed execution registration has no matching pending command")
  require (control.generation = generation ∧ control.state = .active)
    (.casConflict "pending execution requires its active generation")
  require (database.hasUnresolvedControlBarrier runId = false)
    (.casConflict "managed Run has an unresolved local pause barrier")
  require (∃ page ∈ database.lastImportPage runId, page.captureComplete = true)
    (.casConflict "legacy membership import is incomplete")
  KernelM.probe (checkApplicationBudget runId generation command.executionId (some encoded))
  KernelM.probe (checkRunAuthority runId "submit" timestamp (some command.executionId))
  let (row, created) ← submitInTransaction command timestamp
  require (created = true)
    (.idempotencyConflict "pending execution was already accepted with another identity")
  snapshot row

/-- A managed submission of a new command. -/
def acceptNew (control : RunControl) (command : ExecutionCommand) (runId : Identifier)
    (generation : ℕ) (parent : Option SupervisorParent) (timestamp : Timestamp) :
    KernelM ExecutionSnapshot := do
  require (command.executionId.managed = true)
    (.value "new managed execution_id must start with 'sdk-managed:'")
  require (command.correlationId = runId)
    (.value "managed execution correlation_id must match run_id")
  require (control.generation = generation) (.casConflict "managed execution generation is stale")
  require (control.state = .active)
    (.casConflict "new managed executions may only be accepted by an active Run")
  KernelM.probe (checkApplicationBudget runId generation command.executionId
    (some command.toDict.encode))
  KernelM.probe (checkRunAuthority runId "submit" timestamp (some command.executionId))
  registerMember command.executionId runId generation
  let (row, created) ← submitInTransaction command timestamp
  require (created = true)
    (.idempotencyConflict "execution was accepted without its managed registration")
  bindParent
  snapshot row
where
  /-- A supervisor is bound to its live parent. -/
  bindParent : KernelM Unit :=
    match parent with
    | none => pure ()
    | some presented => do
      let row ← assertLease presented.lease timestamp [.running]
      KernelM.probe
        (authorizeManagedOperation presented.lease.executionId timestamp .supervisorAdmission)
      let database ← KernelM.database
      bindChildLimits command.executionId row presented.envelope
        (database.childDepth presented.lease.executionId + 1)

/-- The body of `_submit_managed`. -/
def submitManagedBody (command : ExecutionCommand) (runId : Identifier) (generation : ℕ)
    (parent : Option SupervisorParent) (timestamp : Timestamp) : KernelM ExecutionSnapshot := do
  let database ← KernelM.database
  let control ← expect (database.runControls.find? runId)
    (.storageIsolation "managed Run control is missing")
  match database.accepted? command with
  | some existing => replayManaged existing command runId generation parent
  | none =>
    match database.managedExecutions.find? command.executionId with
    | some member => acceptPending member control command runId generation parent timestamp
    | none => acceptNew control command runId generation parent timestamp

/-- `submit_managed` and, with a parent, `_submit_supervisor`. -/
def submitManaged (command : ExecutionCommand) (runId : Identifier) (generation : ℕ)
    (parent : Option SupervisorParent) (environment : Environment) (state : KernelState) :
    Except KernelError ExecutionSnapshot × KernelState :=
  if maxSqliteInteger < generation then
    (.error (.value "generation must be a non-negative SQLite integer"), state)
  else transaction (submitManagedBody command runId generation parent) environment state

/-! ### Cancellation before acceptance -/

/-- Accept a command and cancel it right away, if it is new. -/
def submitCancelled (command : ExecutionCommand) (reason : Identifier) (timestamp : Timestamp)
    (accepted : KernelError) : KernelM ExecutionSnapshot := do
  let (row, created) ← submitInTransaction command timestamp
  require (created = true) accepted
  let resultId ← KernelM.uuid
  let result ← lift (cancelledResult row timestamp reason resultId [])
  terminal row result (.status .cancelled) timestamp

/-- The body of `cancel_before_accept`. -/
def cancelBeforeAcceptBody (command : ExecutionCommand) (reason : Identifier)
    (timestamp : Timestamp) : KernelM ExecutionSnapshot := do
  let database ← KernelM.database
  require (database.managedExecutions.find? command.executionId).isNone
    (.storageIsolation "managed execution IDs require managed cancellation")
  let (row, created) ← submitInTransaction command timestamp
  if created = false then snapshot row
  else do
    let resultId ← KernelM.uuid
    let result ← lift (cancelledResult row timestamp reason resultId [])
    terminal row result (.status .cancelled) timestamp

def cancelBeforeAccept (command : ExecutionCommand) (reason : Identifier)
    (environment : Environment) (state : KernelState) :
    Except KernelError ExecutionSnapshot × KernelState :=
  if command.executionId.managed = true then
    (.error (.storageIsolation
      "reserved managed execution IDs require cancel_managed_before_accept"), state)
  else transaction (cancelBeforeAcceptBody command reason) environment state

/-- The body of `cancel_managed_before_accept`. -/
def cancelManagedBeforeAcceptBody (command : ExecutionCommand) (runId : Identifier)
    (generation : ℕ) (reason : Identifier) (timestamp : Timestamp) :
    KernelM ExecutionSnapshot := do
  let database ← KernelM.database
  let control ← expect (database.runControls.find? runId)
    (.storageIsolation "managed Run control is missing")
  match database.accepted? command with
  | some existing => replayManaged existing command runId generation none
  | none => do
    require (database.managedExecutions.find? command.executionId).isNone
      (.storageIsolation
        "managed execution registration exists without its Kernel execution")
    require (command.executionId.managed = true)
      (.value "new managed execution_id must start with 'sdk-managed:'")
    require (command.correlationId = runId)
      (.value "managed execution correlation_id must match run_id")
    require (control.generation = generation) (.casConflict "managed execution generation is stale")
    require (database.hasUnresolvedControlBarrier runId = false)
      (.casConflict "managed Run has an unresolved local pause barrier")
    KernelM.probe (checkRunAuthority runId "submit" timestamp none)
    registerMember command.executionId runId generation
    submitCancelled command reason timestamp
      (.idempotencyConflict "execution was accepted without its managed registration")

def cancelManagedBeforeAccept (command : ExecutionCommand) (runId : Identifier)
    (generation : ℕ) (reason : Identifier) (environment : Environment) (state : KernelState) :
    Except KernelError ExecutionSnapshot × KernelState :=
  if maxSqliteInteger < generation then
    (.error (.value "generation must be a non-negative SQLite integer"), state)
  else
    transaction (cancelManagedBeforeAcceptBody command runId generation reason) environment state

/-! ### Cancellation behind a fence -/

/-- `_encode_pause_receipt` and its insertion. -/
def insertPauseReceipt (receipt : PauseReceipt) : KernelM Unit := do
  let environment ← ask
  require (receipt.toDict.bytes environment.arithmetic ≤ 1024 * 1024)
    (.storageIsolation "local pause facts exceed the receipt size limit")
  KernelM.modify fun database =>
    { database with pauseReceipts := database.pauseReceipts.put receipt }

/-- The authority of a host to cancel a Run, as it was first seen in a transaction, still holds. -/
def revalidateCancel (runId : Identifier) (authority : Identifier × Timestamp) : Probe Unit := do
  let environment ← Probe.environment
  let now ← Probe.advanceClock
  let again ← verifiedAuthority environment.workerCredential runId "kernel:cancel" now
  require (again = authority) (.storageIsolation "host cancellation authority changed")
  let later ← Probe.advanceClock
  require (later < authority.2) (.storageIsolation "host cancellation authority expired")

/-- The names of a cancellation behind a fence. -/
structure FencedCancellation where
  runId : Identifier
  generation : ℕ
  fenceOperationId : Identifier
  receiptOperationId : Identifier
  reason : Identifier

/-- A cancellation behind a fence that was carried out before. -/
def replayFenced (command : ExecutionCommand) (request : FencedCancellation)
    (receipt : PauseReceipt) : KernelM PauseReceipt := do
  let database ← KernelM.database
  require ((match receipt.fact with
      | .cancelledBeforeAccept fence executionId reason _ =>
        decide (fence = request.fenceOperationId) && decide (executionId = command.executionId) &&
          decide (reason = request.reason)
      | _ => false) = true ∧ receipt.runId = request.runId ∧
      receipt.generation = request.generation ∧ receipt.storeId = database.storeId ∧
      (∃ existing ∈ database.accepted? command,
        existing.command.toDict.encode = command.toDict.encode ∧
        existing.state = .cancelled) ∧
      ∃ member ∈ database.managedExecutions.find? command.executionId,
        member.runId = request.runId ∧ member.generation = request.generation)
    (.casConflict "cancellation receipt differs")
  return receipt

def acceptFenced (command : ExecutionCommand) (request : FencedCancellation)
    (fence : PauseReceipt) (timestamp : Timestamp) : KernelM PauseReceipt := do
  let database ← KernelM.database
  require (database.accepted? command).isNone
    (.storageIsolation "prior execution acceptance is not absence evidence")
  bindMember
  let _ ← submitCancelled command request.reason timestamp
    (.storageIsolation "execution acceptance is ambiguous")
  let receipt : PauseReceipt :=
    { operationId := request.receiptOperationId, runId := request.runId
      generation := request.generation, expectedEpoch := fence.expectedEpoch
      controlEpoch := fence.controlEpoch, storeId := database.storeId
      fact := .cancelledBeforeAccept request.fenceOperationId command.executionId request.reason
        timestamp }
  insertPauseReceipt receipt
  return receipt
where
  /-- The command is registered with its Run, or waits there since an import. -/
  bindMember : KernelM Unit := do
    let database ← KernelM.database
    match database.managedExecutions.find? command.executionId with
    | some member =>
      require (member.runId = request.runId ∧ member.generation = request.generation ∧
          (database.legacyPendingCommands.find? command.executionId).map (·.command) =
            some command.toDict.encode)
        (.storageIsolation "pending membership command is unavailable or mismatched")
    | none => do
      require (command.executionId.managed = true)
        (.storageIsolation
          "unregistered legacy execution has no authoritative pending binding")
      registerMember command.executionId request.runId request.generation

/-- The body of `cancel_fenced_before_accept`. -/
def cancelFencedBeforeAcceptBody (command : ExecutionCommand) (request : FencedCancellation)
    (timestamp : Timestamp) : KernelM PauseReceipt := do
  let environment ← ask
  let authority ← KernelM.probe
    (verifiedAuthority environment.workerCredential request.runId "kernel:cancel" timestamp)
  let database ← KernelM.database
  let stale := KernelError.casConflict "current cancellation fence is required"
  let fence ← expect (database.pauseReceipts.find? request.fenceOperationId) stale
  require (fence.isCancellationFence = true ∧ fence.runId = request.runId ∧
      fence.generation = request.generation ∧ fence.storeId = database.storeId ∧
      ∃ control ∈ database.runControls.find? request.runId,
        control.generation = request.generation ∧ control.controlEpoch = fence.controlEpoch ∧
          control.state = .paused) stale
  let receipt ← record fence
  KernelM.probe (revalidateCancel request.runId authority)
  return receipt
where
  record (fence : PauseReceipt) : KernelM PauseReceipt := do
    let database ← KernelM.database
    match database.pauseReceipts.find? request.receiptOperationId with
    | some receipt => replayFenced command request receipt
    | none => acceptFenced command request fence timestamp

def cancelFencedBeforeAccept (command : ExecutionCommand) (request : FencedCancellation)
    (environment : Environment) (state : KernelState) :
    Except KernelError PauseReceipt × KernelState :=
  match do
    ensure (request.generation ≤ maxSqliteInteger)
      (.value "generation must be a non-negative SQLite integer")
    ensure (request.fenceOperationId ≠ request.receiptOperationId ∧
        command.correlationId = request.runId)
      (.value "invalid cancellation receipt binding")
    ensure (command.toDict.bytes environment.arithmetic ≤ 65536 ∧
        request.reason.text.utf8ByteSize ≤ 4096)
      (.storageIsolation "cancellation command or reason exceeds bounded size") with
  | .error failure => (.error failure, state)
  | .ok () => transaction (cancelFencedBeforeAcceptBody command request) environment state

end DispatcherSdk.ExecutionKernel
