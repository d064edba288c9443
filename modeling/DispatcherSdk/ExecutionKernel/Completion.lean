/-
This file models how an execution ends: with its worker's result, with a retry, with
a dead letter, or by cancellation.

Whatever ends an execution first looks for unfinished effects. If there are any, the
execution is parked instead, and the call answers with the parked snapshot. A
terminal result is written in one step with the row's state, its event and its entry
in the result outbox.
-/

import DispatcherSdk.ExecutionKernel.Admission

namespace DispatcherSdk.ExecutionKernel

open Library Library.Attempt

/-! ### Effect rows -/

/-- The stored effect of this name, or `KeyError`. -/
def getEffectRow (effectId : Identifier) : KernelM EffectRow := do
  let database ← KernelM.database
  expect (database.effects.find? effectId) (.key effectId.text)

/-- `_effect`. -/
def effectRecord (row : EffectRow) : KernelM EffectRecord := lift row.record

/-- An `UPDATE` of an effect that names the row by its key and by the state and revision it was
read at, with its `_cas`. -/
def casEffect (before after : EffectRow) (operation : String) : KernelM Unit := do
  let database ← KernelM.database
  require ((database.effects.find? before.effectId).map (fun row => (row.state, row.revision)) =
      some (before.state, before.revision))
    (.casConflict ("revision CAS failed during " ++ operation))
  KernelM.write (.effect after)

def effectEvent (row : EffectRow) (eventType : EffectEventType) (fromState : Option EffectState)
    (data : List (String × Json)) (timestamp : Timestamp) : EffectEventRow where
  effectId := row.effectId
  executionId := row.executionId
  revision := row.revision
  eventType := eventType
  fromState := fromState
  toState := row.state
  data := data
  createdAt := timestamp

/-- The effects of an execution in order of their names. -/
def Database.effectsOf (database : Database) (executionId : Identifier) : List EffectRow :=
  (database.effects.rows.filter fun row => row.executionId = executionId).insertionSort
    fun left right => left.effectId.text ≤ right.effectId.text

def Database.unfinishedEffectRows (database : Database) (executionId : Identifier) :
    List EffectRow :=
  (database.effectsOf executionId).filter fun row => row.state.unfinished

variable {executionId : Identifier}

theorem Database.mem_effectsOf {database : Database} {row : EffectRow} :
    row ∈ database.effectsOf executionId ↔
      row ∈ database.effects ∧ row.executionId = executionId := by
  simp [effectsOf, List.mem_insertionSort, Table.mem_rows]

theorem Database.mem_unfinishedEffectRows {database : Database} {row : EffectRow} :
    row ∈ database.unfinishedEffectRows executionId ↔
      row ∈ database.effects ∧ row.executionId = executionId ∧ row.state.unfinished = true := by
  simp [unfinishedEffectRows, mem_effectsOf, and_assoc]

/-! ### Parking -/

/-- What is recorded as the response of an effect whose authority ended. -/
def uncertainOutcome (row : EffectRow) (trigger : ParkTrigger) : ExecutionError where
  code := ⟨"effect_outcome_uncertain", by decide⟩
  message := "execution authority ended before the effect outcome was settled"
  retryable := false
  details :=
    [("trigger", .string trigger.text), ("prior_state", .string row.state.text),
      ("attempt", .ofNat row.attempt), ("fence", .ofNat row.fence)]

/-- An open effect once its authority has ended. -/
def EffectRow.parked (row : EffectRow) (trigger : ParkTrigger) (timestamp : Timestamp) :
    EffectRow :=
  { row with
    state := .indeterminate
    response := some (uncertainOutcome row trigger).toDict
    indeterminateAt := some timestamp
    recoveryId := none
    recoveryDecision := none
    resolvedAt := none
    revision := row.revision + 1 }

def EffectRow.parkedEvent (row : EffectRow) (trigger : ParkTrigger) (timestamp : Timestamp) :
    EffectEventRow :=
  effectEvent (row.parked trigger timestamp)
    (if trigger = .leaseExpired then .leaseExpiredIndeterminate else .recoveryRequiredIndeterminate)
    (some row.state) [("trigger", .string trigger.text)] timestamp

/-- Make one unfinished effect indeterminate, unless it already is. -/
def parkEffect (trigger : ParkTrigger) (timestamp : Timestamp) (row : EffectRow) :
    KernelM Unit := do
  let record ← effectRecord row
  if record.state.open_ = true then do
    casEffect row (row.parked trigger timestamp) "unfinished effect indeterminate conversion"
    let _ ← effectRecord (row.parked trigger timestamp)
    KernelM.write (.effectEvent (row.parkedEvent trigger timestamp))
  else pure ()

/-- The effect a parked execution points at: the one before, if it is unfinished, and else the first
of the unfinished ones. -/
def recoveryPointer (execution : ExecutionRow) (first : EffectRow) (rest : List EffectRow) :
    Identifier :=
  match execution.recoveryEffectId with
  | some pointer =>
    if pointer ∈ (first :: rest).map (·.effectId) then pointer else first.effectId
  | none => first.effectId

/-- The data of an event by which an execution enters or stays in recovery. -/
def recoveryData (pointer : Identifier) (pointerRevision : ℕ) (effects : List EffectRow)
    (trigger : ParkTrigger) (target : RecoveryTarget) (reason : Option Identifier) :
    List (String × Json) :=
  [("effect_id", pointer.toJson), ("effect_revision", .ofNat pointerRevision),
    ("effect_ids", .array (effects.map fun row => row.effectId.toJson)),
    ("trigger", .string trigger.text), ("recovery_target_state", .string target.text),
    ("recovery_reason", .ofOption Identifier.toJson reason)]

/-- The target that parking asks for: a cancellation is remembered as one. -/
def ParkTrigger.requestedTarget : ParkTrigger → RecoveryTarget
  | .cancel => .cancelled
  | _ => .queued

/-- A cancellation, once requested, is never forgotten. -/
def RecoveryTarget.merge : RecoveryTarget → RecoveryTarget → RecoveryTarget
  | .queued, .queued => .queued
  | _, _ => .cancelled

/-- The parked execution with pointer, target and reason brought up to date. The first reason of a
cancellation stays. -/
def ExecutionRow.reparked (execution : ExecutionRow) (pointer : Identifier)
    (requested : RecoveryTarget) (cancelReason : Option Identifier) (timestamp : Timestamp) :
    ExecutionRow :=
  let current := execution.recoveryTargetState
  let target := (current.getD .queued).merge requested
  { execution with
    recoveryEffectId := some pointer
    recoveryTargetState := some target
    recoveryReason :=
      if current = some .cancelled then execution.recoveryReason
      else if target = .cancelled then cancelReason else none
    revision := execution.revision + 1
    updatedAt := timestamp }

/-- The execution that leaves the normal flow for recovery. -/
def ExecutionRow.parked (execution : ExecutionRow) (pointer : Identifier)
    (requested : RecoveryTarget) (cancelReason : Option Identifier) (timestamp : Timestamp) :
    ExecutionRow :=
  { execution with
    state := .recoveryRequired
    lease := none
    startedAt := some (execution.startedAt.getD timestamp)
    recoveryEffectId := some pointer
    recoveryTargetState := some requested
    recoveryReason := if requested = .cancelled then cancelReason else none
    revision := execution.revision + 1
    updatedAt := timestamp }

/-- `reduce_state`: refuse a transition that is not in the matrix. -/
def reduceState (current : ExecutionState) (event : TransitionEvent) (executionId : Identifier)
    (revision : ℕ) (leaseId : Option Identifier := none) (fence : Option ℕ := none) :
    Except KernelError ExecutionState := do
  let reason := "event='" ++ event.text ++ "'"
  let message := "invalid execution transition '" ++ current.text ++ "' -> '" ++
    event.target.text ++ "' for '" ++ executionId.text ++ "' at revision " ++
    toString revision ++ "; " ++ reason
  ensure (current.canTransition event.target = true)
    { kind := .invalidStateTransition
      message
      context :=
        [("execution_id", executionId.toJson), ("current_state", current.toJson),
          ("requested_state", event.target.toJson), ("revision", .ofNat revision),
          ("lease_id", .ofOption Identifier.toJson leaseId), ("fence", .ofOption .ofNat fence),
          ("reason", .string reason)] }
  return event.target

/-- `reduce_state` of a stored row, with its lease and fence for the context of a refusal. -/
def reduceRow (row : ExecutionRow) (event : TransitionEvent) : Except KernelError ExecutionState :=
  reduceState row.state event row.executionId row.revision (row.lease.map (·.leaseId))
    (some row.fence)

theorem reduceState_ok {current : ExecutionState} {event : TransitionEvent} {revision : ℕ}
    {leaseId : Option Identifier} {fence : Option ℕ} {target : ExecutionState}
    (reduced : reduceState current event executionId revision leaseId fence = .ok target) :
    target = event.target ∧ current.canTransition event.target = true := by
  simp only [reduceState, ensure_bind_eq_ok] at reduced
  obtain ⟨allowed, answered⟩ := reduced
  cases answered
  exact ⟨rfl, allowed⟩

/-- The execution of unfinished effects is updated: it enters recovery, or stays there. -/
def parkExecution (execution : ExecutionRow) (first : EffectRow) (rest : List EffectRow)
    (trigger : ParkTrigger) (cancelReason : Option Identifier) (timestamp : Timestamp) :
    KernelM ExecutionSnapshot := do
  let pointer := recoveryPointer execution first rest
  let pointerRow ← getEffectRow pointer
  if execution.state = .recoveryRequired then do
    let after := execution.reparked pointer trigger.requestedTarget cancelReason timestamp
    if execution.recoveryEffectId = after.recoveryEffectId ∧
        execution.recoveryTargetState = after.recoveryTargetState ∧
        execution.recoveryReason = after.recoveryReason then
      snapshot execution
    else do
      let upgraded := execution.recoveryTargetState ≠ some .cancelled ∧
        after.recoveryTargetState = some .cancelled
      casExecution execution after
        (if upgraded then "recovery cancellation upgrade" else "recovery pointer correction")
      appendEvent
        { executionId := execution.executionId, revision := after.revision
          eventType :=
            if upgraded then .effectRecoveryCancellationRequested
            else .effectRecoveryPointerCorrected
          fromState := some .recoveryRequired, toState := .recoveryRequired
          data := recoveryData pointer pointerRow.revision (first :: rest) trigger
            (after.recoveryTargetState.getD .queued) after.recoveryReason
          createdAt := timestamp }
      let stored ← getRow execution.executionId
      snapshot stored
  else do
    let _ ← lift (reduceRow execution .requireRecovery)
    let after := execution.parked pointer trigger.requestedTarget cancelReason timestamp
    casExecution execution after "execution effect-recovery park"
    appendEvent
      { executionId := execution.executionId, revision := after.revision
        eventType :=
          if trigger = .leaseExpired then .leaseExpiredEffectRecoveryRequired
          else .effectRecoveryRequired
        fromState := some execution.state, toState := .recoveryRequired
        data := recoveryData pointer pointerRow.revision (first :: rest) trigger
          trigger.requestedTarget after.recoveryReason
        createdAt := timestamp }
    let stored ← getRow execution.executionId
    snapshot stored

/-- `_park_unfinished_effects`: with unfinished effects the execution is parked and its snapshot
answered. -/
def parkUnfinishedEffects (execution : ExecutionRow) (timestamp : Timestamp)
    (trigger : ParkTrigger) (cancelReason : Option Identifier := none) :
    KernelM (Option ExecutionSnapshot) := do
  require (trigger = .cancel → cancelReason.isSome)
    (.value "cancel recovery requires a non-empty reason")
  require (trigger ≠ .cancel → cancelReason.isNone)
    (.value "cancel_reason is only valid for cancel recovery")
  let database ← KernelM.database
  match database.unfinishedEffectRows execution.executionId with
  | [] => return none
  | first :: rest => do
    forEach (first :: rest) (parkEffect trigger timestamp)
    let parked ← parkExecution execution first rest trigger cancelReason timestamp
    return some parked

/-! ### The operations on effects -/

/-- What an operation on an effect answers: the effect, or that its execution was parked. -/
inductive EffectAnswer where
  | effect (record : EffectRecord)
  | recoveryRequired (effectId : Identifier)

/-- The caller is told of a recovery by an error, after its parking is committed. -/
def raiseRecovery (outcome : Except KernelError EffectAnswer × KernelState) :
    Except KernelError EffectRecord × KernelState :=
  match outcome with
  | (.ok (.effect record), state) => (.ok record, state)
  | (.ok (.recoveryRequired effectId), state) => (.error (.effectRecoveryRequired effectId), state)
  | (.error failure, state) => (.error failure, state)

/-- The effect that `prepare_effect` stores under an unused name. -/
def preparedEffect (lease : ExecutionLease) (effectId name : Identifier) (request : Json)
    (timestamp : Timestamp) : EffectRow where
  effectId := effectId
  executionId := lease.executionId
  name := name
  request := request
  state := .prepared
  response := none
  leaseId := lease.leaseId
  claimId := none
  attempt := lease.attempt
  fence := lease.fence
  preparedAt := timestamp
  committedAt := none
  indeterminateAt := none
  recoveryId := none
  recoveryDecision := none
  resolvedAt := none
  revision := 1

/-- The effect that `prepare_effect` makes of one that was not applied: a new cycle of the same
name. -/
def EffectRow.reprepared (row : EffectRow) (lease : ExecutionLease) (timestamp : Timestamp) :
    EffectRow :=
  { row with
    state := .prepared
    response := none
    leaseId := lease.leaseId
    claimId := none
    attempt := lease.attempt
    fence := lease.fence
    preparedAt := timestamp
    committedAt := none
    indeterminateAt := none
    recoveryId := none
    recoveryDecision := none
    resolvedAt := none
    revision := row.revision + 1 }

/-- The attempt and fence of a lease, as they are recorded in an effect event. -/
def leaseData (lease : ExecutionLease) : List (String × Json) :=
  [("attempt", .ofNat lease.attempt), ("fence", .ofNat lease.fence)]

/-- The branch of `prepare_effect` for a name that identifies an effect already. -/
def prepareExisting (execution : ExecutionRow) (lease : ExecutionLease) (row : EffectRow)
    (candidate : EffectRow) (timestamp : Timestamp) : KernelM EffectAnswer := do
  let existing ← effectRecord row
  require (row.executionId = lease.executionId ∧ row.name = candidate.name ∧
      row.request.encode = candidate.request.encode)
    (.effectConflict "effect_id already identifies another effect")
  if row.state = .committed then return .effect existing
  else if row.state = .notApplied then do
    KernelM.probe (authorizeManagedOperation lease.executionId timestamp .effectPreparation)
    casEffect row (row.reprepared lease timestamp) "recovered effect re-preparation"
    let record ← effectRecord (row.reprepared lease timestamp)
    KernelM.write (.effectEvent (effectEvent (row.reprepared lease timestamp)
      .repreparedAfterNotApplied (some .notApplied)
      (leaseData lease ++ [("prior_recovery_id", .ofOption Identifier.toJson row.recoveryId),
        ("prior_recovery_revision", .ofNat row.revision)]) timestamp))
    return .effect record
  else if row.leaseId = lease.leaseId ∧ row.attempt = lease.attempt ∧ row.fence = lease.fence ∧
      row.state.open_ = true then
    return .effect existing
  else if row.fence < lease.fence then do
    let _ ← parkUnfinishedEffects execution timestamp .newerFenceObserved
    return .recoveryRequired row.effectId
  else if row.state = .indeterminate then do
    let _ ← parkUnfinishedEffects execution timestamp .indeterminateReuse
    return .recoveryRequired row.effectId
  else fail (.staleFence "effect belongs to an incompatible lease/fence")

/-- The body of `prepare_effect`. -/
def prepareEffectBody (lease : ExecutionLease) (effectId name : Identifier) (request : Json)
    (timestamp : Timestamp) : KernelM EffectAnswer := do
  let execution ← assertLease lease timestamp [.running]
  let candidate := preparedEffect lease effectId name request timestamp
  let record ← effectRecord candidate
  let database ← KernelM.database
  match database.effects.find? effectId with
  | none => do
    KernelM.probe (authorizeManagedOperation lease.executionId timestamp .effectPreparation)
    KernelM.write (.effect candidate)
    KernelM.write (.effectEvent
      (effectEvent candidate .prepared none (leaseData lease) timestamp))
    return .effect record
  | some row => prepareExisting execution lease row candidate timestamp

def prepareEffect (lease : ExecutionLease) (effectId name : Identifier) (request : Json)
    (environment : Environment) (state : KernelState) :
    Except KernelError EffectRecord × KernelState :=
  raiseRecovery (transaction (prepareEffectBody lease effectId name request) environment state)

def effectMatchesLease (row : EffectRow) (lease : ExecutionLease) : Except KernelError Unit :=
  ensure (row.executionId = lease.executionId ∧ row.leaseId = lease.leaseId ∧
      row.attempt = lease.attempt ∧ row.fence = lease.fence)
    (.staleFence "effect was prepared by another lease/fence"
      [("effect_id", row.effectId.toJson), ("effect_attempt", .ofNat row.attempt),
        ("attempt", .ofNat lease.attempt), ("effect_fence", .ofNat row.fence),
        ("fence", .ofNat lease.fence)])

/-- An effect whose perform authority has been granted. -/
def EffectRow.claimed (row : EffectRow) (claimId : Identifier) : EffectRow :=
  { row with state := .performing, claimId := some claimId, revision := row.revision + 1 }

/-- The body of `claim_effect`. -/
def claimEffectBody (lease : ExecutionLease) (effectId : Identifier) (timestamp : Timestamp) :
    KernelM EffectRecord := do
  let _ ← assertLease lease timestamp [.running]
  let row ← getEffectRow effectId
  let _ ← effectRecord row
  lift (effectMatchesLease row lease)
  require (row.state ≠ .performing)
    (.effectClaimConflict "effect perform authority is already claimed")
  require (row.state ≠ .indeterminate)
    (.effectIndeterminate "indeterminate effect requires recovery")
  require (row.state = .prepared) (.effectConflict "only a prepared effect can be claimed")
  KernelM.probe (authorizeManagedOperation lease.executionId timestamp .externalEffectClaim)
  let claimId ← KernelM.uuid
  require (row.claimId = none) (.casConflict "revision CAS failed during effect perform claim")
  casEffect row (row.claimed claimId) "effect perform claim"
  let record ← effectRecord (row.claimed claimId)
  KernelM.write (.effectEvent (effectEvent (row.claimed claimId) .performClaimed
    (some .prepared) (("claim_id", claimId.toJson) :: leaseData lease) timestamp))
  return record

/-- `claim_effect`: acquire the sole durable authority to invoke an external effect. -/
def claimEffect (lease : ExecutionLease) (effectId : Identifier) (environment : Environment)
    (state : KernelState) : Except KernelError EffectRecord × KernelState :=
  transaction (claimEffectBody lease effectId) environment state

def EffectRow.committed (row : EffectRow) (response : Json) (timestamp : Timestamp) : EffectRow :=
  { row with
    state := .committed
    response := some response
    committedAt := some timestamp
    revision := row.revision + 1 }

/-- The start of `commit_effect` and `mark_effect_indeterminate`: the effect under its lease and
its claim token. -/
def claimedEffect (effectId : Identifier) (lease : ExecutionLease) (claimId : Identifier)
    (timestamp : Timestamp) : KernelM (EffectRow × EffectRecord) := do
  let _ ← assertLease lease timestamp [.running]
  let row ← getEffectRow effectId
  let record ← effectRecord row
  lift (effectMatchesLease row lease)
  require (row.claimId = some claimId) (.effectClaimConflict "effect claim token is stale")
  return (row, record)

/-- The body of `commit_effect`. -/
def commitEffectBody (effectId : Identifier) (response : Json) (lease : ExecutionLease)
    (claimId : Identifier) (timestamp : Timestamp) : KernelM EffectRecord := do
  let (row, record) ← claimedEffect effectId lease claimId timestamp
  if row.state = .committed then do
    require (row.response.map Json.encode = some response.encode)
      (.effectConflict "committed effect response is immutable")
    return record
  else do
    require (row.state ≠ .indeterminate)
      (.effectIndeterminate "ordinary commit cannot resolve uncertainty")
    require (row.state = .performing) (.effectConflict "effect is not under performing authority")
    KernelM.probe (authorizeManagedOperation lease.executionId timestamp .effectCommit true)
    let validated ← effectRecord (row.committed response timestamp)
    casEffect row (row.committed response timestamp) "effect commit"
    KernelM.write (.effectEvent (effectEvent (row.committed response timestamp) .committed
      (some .performing) [("claim_id", claimId.toJson)] timestamp))
    return validated

def commitEffect (effectId : Identifier) (response : Json) (lease : ExecutionLease)
    (claimId : Identifier) (environment : Environment) (state : KernelState) :
    Except KernelError EffectRecord × KernelState :=
  transaction (commitEffectBody effectId response lease claimId) environment state

/-- An effect whose performer reports that it does not know the outcome. -/
def EffectRow.uncertain (row : EffectRow) (details : Json) (timestamp : Timestamp) : EffectRow :=
  { row with
    state := .indeterminate
    response := some details
    indeterminateAt := some timestamp
    recoveryId := none
    recoveryDecision := none
    resolvedAt := none
    revision := row.revision + 1 }

/-- The body of `mark_effect_indeterminate`. -/
def markEffectIndeterminateBody (effectId : Identifier) (details : Json) (lease : ExecutionLease)
    (claimId : Identifier) (timestamp : Timestamp) : KernelM EffectRecord := do
  let (row, record) ← claimedEffect effectId lease claimId timestamp
  if row.state = .indeterminate then do
    require (row.response.map Json.encode = some details.encode)
      (.effectConflict "indeterminate effect detail is immutable")
    return record
  else do
    require (row.state ≠ .committed)
      (.effectConflict "committed effect cannot become indeterminate")
    require (row.state = .performing) (.effectConflict "effect is not under performing authority")
    KernelM.probe
      (authorizeManagedOperation lease.executionId timestamp .effectUncertaintyRecording true)
    let validated ← effectRecord (row.uncertain details timestamp)
    casEffect row (row.uncertain details timestamp) "effect indeterminate mark"
    KernelM.write (.effectEvent (effectEvent (row.uncertain details timestamp)
      .markedIndeterminate (some .performing)
      [("claim_id", claimId.toJson), ("details", details)] timestamp))
    return validated

def markEffectIndeterminate (effectId : Identifier) (details : Json) (lease : ExecutionLease)
    (claimId : Identifier) (environment : Environment) (state : KernelState) :
    Except KernelError EffectRecord × KernelState :=
  transaction (markEffectIndeterminateBody effectId details lease claimId) environment state

/-! ### Origins of constraints -/

/-- The origin under which a constraint of a Run is kept, `"run:" + run_id`. -/
def runOrigin (runId : Identifier) : String := "run:" ++ runId.text

/-- The origin of an execution's own cutoff, `"execution:" + execution_id`. -/
def executionOrigin (executionId : Identifier) : String := "execution:" ++ executionId.text

/-- The constraint an envelope keeps for an origin. -/
def BudgetEnvelope.cutoff? (envelope : BudgetEnvelope) (origin : String) :
    Option DeadlineConstraint :=
  envelope.constraints.find? fun constraint => constraint.originId.text = origin

/-- `_run_budget`: the deadline of the Run is one of the constraints. -/
def runBudget (executionId : Identifier) (envelope : BudgetEnvelope) : Probe BudgetEnvelope := do
  let database ← Probe.database
  match database.controlOf executionId with
  | none => return envelope
  | some control =>
    let origin ← expect (Identifier.ofText (runOrigin control.runId))
      (.value "origin_id must be a non-empty string")
    let fresh ← lift (DeadlineConstraint.make origin .run control.deadlineAt 0)
    let constraint ← lift
      (match envelope.cutoff? origin.text with
        | none => .ok fresh
        | some prior =>
          DeadlineConstraint.make origin .run (min prior.deadlineAt fresh.deadlineAt)
            prior.reserveSeconds)
    lift (BudgetEnvelope.make
      (envelope.constraints.filter (fun item => item.originId.text ≠ origin.text) ++ [constraint])
      envelope.checkpoint envelope.startedAt)

/-- `envelope.recheckpoint(sample=sample_clock(wall_time=envelope.checkpoint.wall_at))`. -/
def recheckpointHere (wallAt : Timestamp) (envelope : BudgetEnvelope) : Probe BudgetEnvelope := do
  let environment ← Probe.environment
  let sample ← Probe.sampleClock wallAt
  lift (envelope.recheckpoint environment.arithmetic sample)

def writeLimits (limits : ExecutionLimits) : KernelM Unit :=
  KernelM.modify fun database =>
    { database with executionLimits := database.executionLimits.put limits }

/-! ### Handler entry -/

/-- No constraint of the stored envelope is missing from the presented one or weaker in it. -/
def BudgetEnvelope.tightens (presented stored : BudgetEnvelope) : Bool :=
  stored.constraints.all fun previous =>
    match presented.constraintOf? previous.originId with
    | none => false
    | some current =>
      decide (current.source = previous.source) &&
        decide (current.deadlineAt ≤ previous.deadlineAt) &&
        decide (previous.reserveSeconds ≤ current.reserveSeconds)

/-- `math.isclose(left, right, rel_tol=0, abs_tol=1e-6)`. -/
def closeTo (arithmetic : FloatArithmetic) (left right : Timestamp) : Bool :=
  match arithmetic.nearest (max left right - min left right) with
  | none => false
  | some difference => decide (difference ≤ 1 / 1000000)

/-- Merge the clock evidence of the presented and the stored envelope. -/
def mergeCheckpoints (presented stored : BudgetEnvelope) : Probe BudgetEnvelope := do
  let environment ← Probe.environment
  let arithmetic := environment.arithmetic
  if stored.checkpoint.elapsedAt ≤ presented.checkpoint.elapsedAt then do
    let advanced ← lift (stored.recheckpoint arithmetic presented.checkpoint)
    lift (presented.recheckpoint arithmetic advanced.checkpoint)
  else lift (presented.recheckpoint arithmetic stored.checkpoint)

/-- How a presented envelope relates to the stored entry of its execution. -/
structure EntryRelation where
  /-- The envelope of a child whose entry was never made starts where its parent's did. -/
  inheritedStart : Bool
  /-- The presented envelope has no entry of its own. -/
  noEntry : Bool
  /-- Work was refused before an entry was prepared. -/
  unprepared : Bool
  /-- A retry was refused before its own entry; it still carries the confirmed one. -/
  inherited : Bool

/-- The relation that `_merge_handler_entry_budget` computes. -/
def entryRelation (limits : ExecutionLimits) (lease : ExecutionLease)
    (envelope : BudgetEnvelope) (completion : Bool) : EntryRelation :=
  let origin := executionOrigin lease.executionId
  let oldHasEntry := (limits.envelope.cutoff? origin).isSome
  let inheritedStart := completion && !oldHasEntry && limits.parent.isSome &&
    decide (envelope.startedAt = limits.envelope.startedAt)
  let noEntry := (envelope.cutoff? origin).isNone &&
    (envelope.startedAt.isNone || inheritedStart)
  { inheritedStart
    noEntry
    unprepared := completion && noEntry && decide (limits.entry = .unentered) &&
      (limits.envelope.startedAt.isNone || inheritedStart) && !oldHasEntry
    inherited := completion && decide (envelope.startedAt = limits.envelope.startedAt) &&
      (match limits.entry with
        | .confirmed attempt fence => decide (attempt < lease.attempt) && decide (fence < lease.fence)
        | _ => false) }

/-- `_merge_handler_entry_budget`, without the state it only passes on. -/
def mergeHandlerEntryBudget (row : ExecutionRow) (lease : ExecutionLease)
    (envelope : BudgetEnvelope) (completion : Bool := false) : Probe BudgetEnvelope := do
  let missing := KernelError.casConflict "handler entry has no matching durable admission"
  let environment ← Probe.environment
  let database ← Probe.database
  let limits ← expect (database.executionLimits.find? lease.executionId) missing
  require (completion = true ∨ limits.entry ≠ .unentered) missing
  let origin := executionOrigin lease.executionId
  let relation := entryRelation limits lease envelope completion
  require (limits.entry.identity = some (lease.attempt, lease.fence) ∨
    relation.unprepared = true ∨ relation.inherited = true) missing
  let merged ← mergeCheckpoints envelope limits.envelope
  require (merged.tightens limits.envelope = true)
    (.value "handler entry weakens an admitted budget constraint")
  let pending := limits.entry.isPending
  let cutoff := merged.cutoff? origin
  require ((completion = true ∧ relation.noEntry = true ∧
        (pending = true ∨ relation.unprepared = true)) ∨
      (cutoff.map (·.source) = some .execution ∧ merged.startedAt.isSome))
    (.value "handler entry requires its execution cutoff and actual entry timestamp")
  require (∀ found ∈ cutoff, pending = true → (limits.envelope.cutoff? origin).isNone →
      ∃ started ∈ merged.startedAt,
        ∃ expected ∈ environment.arithmetic.add started row.command.timeoutSeconds,
          closeTo environment.arithmetic found.deadlineAt expected = true)
    (.value "first handler cutoff does not match its actual entry timeout")
  let bounded ← runBudget lease.executionId merged
  recheckpointHere merged.checkpoint.wallAt bounded

/-- The constraints of the presented envelope, completed by those only the stored one has. -/
def BudgetEnvelope.withStored (presented stored : BudgetEnvelope) : List DeadlineConstraint :=
  presented.constraints ++
    stored.constraints.filter fun previous => (presented.constraintOf? previous.originId).isNone

def tightenCompletionBudget (row : ExecutionRow) (lease : ExecutionLease)
    (envelope : BudgetEnvelope) : KernelM BudgetEnvelope := do
  let database ← KernelM.database
  let origin := executionOrigin lease.executionId
  match database.executionLimits.find? lease.executionId with
  | none => do
    require (envelope.startedAt.isNone ∧ (envelope.cutoff? origin).isNone)
      (.casConflict "handler entry has no matching durable admission")
    let bounded ← KernelM.probe (runBudget lease.executionId envelope)
    let kept ← KernelM.probe (recheckpointHere bounded.checkpoint.wallAt bounded)
    writeLimits
      { executionId := lease.executionId, envelope := kept, parent := none, depth := 0
        entry := .pending lease.attempt lease.fence }
    return kept
  | some limits => do
    let startedAt := if (limits.envelope.cutoff? origin).isSome then limits.envelope.startedAt
      else envelope.startedAt
    let completed ← lift
      (BudgetEnvelope.make (envelope.withStored limits.envelope) envelope.checkpoint startedAt)
    let kept ← KernelM.probe (mergeHandlerEntryBudget row lease completed true)
    writeLimits { limits with envelope := kept }
    return kept

/-! ### Children -/

def Database.childDepth (database : Database) (executionId : Identifier) : ℕ :=
  ((database.executionLimits.find? executionId).map (·.depth)).getD 0

/-- Add a constraint to those of an authority: one origin keeps its source, its earlier deadline
and its larger reserve. -/
def inheritConstraint (failure : KernelError) (values : List DeadlineConstraint)
    (item : DeadlineConstraint) : Except KernelError (List DeadlineConstraint) :=
  match values.find? fun value => value.originId = item.originId with
  | none => .ok (values ++ [item])
  | some previous => do
    ensure (previous.source = item.source) failure
    let merged ← DeadlineConstraint.make item.originId item.source
      (min item.deadlineAt previous.deadlineAt) (max item.reserveSeconds previous.reserveSeconds)
    return values.map fun value => if value.originId = item.originId then merged else value

/-- The ancestry of the parent does not lead back to the child, and it is not too long. -/
def acyclicAncestry (database : Database) (executionId : Identifier) :
    ℕ → Identifier → Except KernelError Unit
  | 0, _ => .error (.value "child relationship exceeds bounded depth")
  | bound + 1, ancestor =>
    if ancestor = executionId then .error (.value "child relationship forms a cycle")
    else
      match database.parentOf ancestor with
      | none => .ok ()
      | some parent => acyclicAncestry database executionId bound parent.executionId

/-- The later of two checkpoints that were moved to one sample. -/
def laterFloor (first second : ClockCheckpoint) : ClockCheckpoint :=
  if second.wallAt ≤ first.wallAt then first else second

def bindChildLimits (executionId : Identifier) (parent : ExecutionRow)
    (presented : BudgetEnvelope) (depth : ℕ) : KernelM Unit := do
  KernelM.probe (assertBudgetClock parent.executionId)
  KernelM.probe (assertBudgetClock executionId)
  require (executionId ≠ parent.executionId) (.value "execution cannot wait on itself")
  let environment ← ask
  let arithmetic := environment.arithmetic
  let sample ← KernelM.probe (Probe.sampleClock presented.checkpoint.wallAt)
  let envelope ← lift (presented.recheckpoint arithmetic sample)
  let database ← KernelM.database
  let parentLimits ← expect (database.executionLimits.find? parent.executionId)
    (.casConflict "child submission requires confirmed parent handler entry and limits")
  let authority ← lift (parentLimits.envelope.recheckpoint arithmetic sample)
  require (∃ remaining ∈ (match authority.view arithmetic sample with
      | .seconds remaining => some remaining
      | _ => none), 0 < remaining)
    (.casConflict "parent work deadline has elapsed")
  let values ← lift (envelope.constraints.foldlM
    (inheritConstraint
      (.value "child budget origin changes an authoritative constraint source"))
    authority.constraints)
  let checkpoint := laterFloor envelope.checkpoint authority.checkpoint
  lift (acyclicAncestry database executionId 64 parent.executionId)
  let binding : ParentBinding := ⟨parent.executionId, parent.attempt, parent.fence⟩
  match database.executionLimits.find? executionId with
  | none => do
    let kept ← lift (BudgetEnvelope.make values checkpoint envelope.startedAt)
    writeLimits
      { executionId, envelope := kept, parent := some binding, depth, entry := .unentered }
  | some existing => do
    require (∀ bound ∈ existing.parent, bound.executionId = parent.executionId)
      (.casConflict "child already belongs to another parent")
    require (∀ bound ∈ existing.parent, bound = binding)
      (.casConflict "child belongs to a previous parent attempt")
    let merged ← lift (existing.envelope.constraints.foldlM
      (inheritConstraint (.value "existing child constraint source cannot change")) values)
    let stored ← lift (existing.envelope.recheckpoint arithmetic sample)
    let startedAt :=
      if (existing.envelope.cutoff? (executionOrigin executionId)).isSome then
        existing.envelope.startedAt
      else envelope.startedAt
    let kept ← lift
      (BudgetEnvelope.make merged (laterFloor stored.checkpoint checkpoint) startedAt)
    writeLimits
      { existing with
        envelope := kept
        parent := some binding
        depth := if existing.parent.isNone then depth else existing.depth }

/-! ### The terminal step -/

/-- The outbox row of a result that has just been stored. -/
def pendingDelivery (result : ExecutionResult) (maxAttempts : ℕ) (timestamp : Timestamp) :
    OutboxRow where
  resultId := result.resultId
  executionId := result.executionId
  result := result
  maxAttempts := maxAttempts
  createdAt := timestamp
  delivery :=
    { state := .pending, lease := none, fence := 0, attempts := 0, nextAttemptAt := timestamp
      lastError := none, revision := 1, updatedAt := timestamp }

def insertResultOutbox (result : ExecutionResult) (timestamp : Timestamp) : KernelM Unit := do
  let environment ← ask
  let database ← KernelM.database
  match database.resultOutbox.rows.find? fun row =>
      row.resultId = result.resultId ∨ row.executionId = result.executionId with
  | some existing =>
    require (existing.resultId = result.resultId ∧ existing.executionId = result.executionId ∧
        existing.result.toJson = result.toJson)
      (.resultConflict ("result_id/execution_id already has another outbox fact: " ++
        result.resultId.text))
  | none =>
    KernelM.write (.outbox (pendingDelivery result environment.outboxMaxAttempts timestamp))

/-- The row of an execution that has ended. -/
def ExecutionRow.terminated (row : ExecutionRow) (result : ExecutionResult)
    (timestamp : Timestamp) : ExecutionRow :=
  { row with
    state := result.status
    result := some result
    lease := none
    startedAt := some result.startedAt
    recoveryEffectId := none
    recoveryTargetState := none
    recoveryReason := none
    revision := row.revision + 1
    updatedAt := timestamp }

def terminal (row : ExecutionRow) (result : ExecutionResult) (eventType : EventType)
    (timestamp : Timestamp) : KernelM ExecutionSnapshot := do
  let parked ← parkUnfinishedEffects row timestamp (.beforeTerminal eventType.text)
  match parked with
  | some waiting => return waiting
  | none => do
    let _ ← lift (reduceRow row (.status result.status))
    casExecution row (row.terminated result timestamp) "terminal result"
    appendEvent
      { executionId := row.executionId, revision := row.revision + 1, eventType
        fromState := some row.state, toState := result.status
        data := [("result", result.toDict)], createdAt := timestamp }
    insertResultOutbox result timestamp
    let stored ← getRow row.executionId
    snapshot stored

/-- `_execution_effect_ids`: the committed effects of an execution, in order. -/
def Database.committedEffectIds (database : Database) (executionId : Identifier) :
    List Identifier :=
  ((database.effectsOf executionId).filter fun row => row.state = .committed).map (·.effectId)

def deadResult (row : ExecutionRow) (timestamp : Timestamp) (code : Identifier)
    (message : String) (details : List (String × Json)) (resultId : Identifier)
    (effectIds : List Identifier) : Except KernelError ExecutionResult :=
  ExecutionResult.make
    { resultId, executionId := row.executionId, status := .dead, attempt := row.attempt
      fence := row.fence, effectIds, startedAt := row.startedAt.getD timestamp
      completedAt := timestamp, correlationId := row.command.correlationId
      causationId := row.command.causationId, value := .null
      error := some { code, message, retryable := false, details } }

def cancelledResult (row : ExecutionRow) (timestamp : Timestamp) (reason : Identifier)
    (resultId : Identifier) (effectIds : List Identifier) : Except KernelError ExecutionResult :=
  ExecutionResult.make
    { resultId, executionId := row.executionId, status := .cancelled, attempt := row.attempt
      fence := row.fence, effectIds, startedAt := row.startedAt.getD timestamp
      completedAt := timestamp, correlationId := row.command.correlationId
      causationId := row.command.causationId, value := .null
      error := some { code := ⟨"cancelled", by decide⟩, message := reason.text
                      retryable := false, details := [] } }

/-! ### Completion -/

/-- The attestation with which a host reconciles the result of a supervised execution. -/
structure Reconciliation where
  credential : Credential
  kernelStoreId : Identifier
  /-- The whole decision, as the host and the kernel compare it. -/
  decision : Json.Text

/-- The private options of `_complete_result`. -/
structure CompletionOptions where
  settlement : Bool := false
  budgetEnvelope : Option BudgetEnvelope := none
  supervisorCleanupConfirmed : Bool := false
  supervisorNotInvoked : Bool := false
  supervisorRegistrationUncertain : Bool := false
  reconciliation : Option Reconciliation := none

def validateResult (row : ExecutionRow) (lease : ExecutionLease) (result : ExecutionResult)
    (timestamp : Timestamp) (envelope : Option BudgetEnvelope) : KernelM Unit := do
  require (result.executionId = lease.executionId ∧ result.attempt = row.attempt ∧
      result.attempt = lease.attempt ∧ result.fence = row.fence ∧ result.fence = lease.fence ∧
      result.correlationId = row.command.correlationId ∧
      result.causationId = row.command.causationId ∧ row.startedAt = some result.startedAt)
    (.staleFence "result identity, attempt, fence, or causal binding is stale"
      [("execution_id", lease.executionId.toJson), ("result_attempt", .ofNat result.attempt),
        ("lease_attempt", .ofNat lease.attempt), ("current_attempt", .ofNat row.attempt),
        ("result_fence", .ofNat result.fence), ("lease_fence", .ofNat lease.fence),
        ("current_fence", .ofNat row.fence)])
  let acceptedAt ← acceptanceTime
  require (result.completedAt ≤ acceptedAt ∧ result.completedAt ≤ lease.expiresAt)
    (.staleFence "result completion time is after acceptance or lease expiry"
      [("completed_at", .ofTimestamp result.completedAt), ("accepted_at", .ofTimestamp acceptedAt),
        ("lease_expires_at", .ofTimestamp lease.expiresAt)])
  let database ← KernelM.database
  require (∀ effectId ∈ result.effectIds, ∃ effect ∈ database.effectsOf lease.executionId,
      effect.effectId = effectId ∧ effect.state ≠ .notApplied)
    (.staleFence "result references an absent, foreign, or resolved-not-applied effect")
where
  /-- The time up to which the result may claim to have been completed. -/
  acceptanceTime : KernelM Timestamp :=
    match envelope with
    | none => pure timestamp
    | some presented => do
      let retained ← tightenCompletionBudget row lease presented
      let environment ← ask
      let sample ← KernelM.probe (Probe.sampleClock timestamp)
      return (retained.checkpoint.effectiveTime environment.arithmetic sample).elim timestamp
        (max timestamp)

def retryable (result : ExecutionResult) (command : ExecutionCommand) : Bool :=
  match result.status, result.error with
  | .failed, some error => error.retryable
  | .timedOut, some error => error.retryable && command.retryPolicy.retryTimeouts
  | _, _ => false

/-- The row of an execution that waits for its next attempt. -/
def ExecutionRow.requeued (row : ExecutionRow) (nextAttemptAt timestamp : Timestamp) :
    ExecutionRow :=
  { row with
    state := .queued
    redeliveryCount := row.redeliveryCount + 1
    nextAttemptAt := nextAttemptAt
    lease := none
    startedAt := none
    recoveryEffectId := none
    revision := row.revision + 1
    updatedAt := timestamp }

/-- The retry branch of `_complete_result`. -/
def scheduleRetry (row : ExecutionRow) (result : ExecutionResult) (timestamp : Timestamp) :
    KernelM ExecutionSnapshot := do
  let environment ← ask
  let _ ← lift (reduceRow row .retry)
  let delay := row.command.retryPolicy.delayForAttempt environment.arithmetic row.attempt
  let nextAt ← lift (checkedAdd environment.arithmetic timestamp delay "retry delay")
  casExecution row (row.requeued nextAt timestamp) "execution retry"
  appendEvent
    { executionId := row.executionId, revision := row.revision + 1, eventType := .retryScheduled
      fromState := some .running, toState := .queued
      data := [("result", result.toDict), ("next_attempt_at", .ofTimestamp nextAt)]
      createdAt := timestamp }
  let stored ← getRow row.executionId
  snapshot stored

/-- What `resolve_supervisor` records of the supervisor's cleanup. -/
def supervisorResolution (result : ExecutionResult) (options : CompletionOptions) : Json.Text :=
  (Json.object
    [("source", .string
        (if options.supervisorNotInvoked then "sdk_supervisor_not_invoked"
          else "sdk_confirmed_supervisor_cleanup")),
      ("result_id", result.resultId.toJson), ("status", result.status.toJson)]).encode

def resolveSupervisor (lease : ExecutionLease) (resolution : Json.Text)
    (registrationUncertain : Bool) : KernelM Unit := do
  KernelM.probe (assertBudgetClock lease.executionId)
  let database ← KernelM.database
  match database.supervisorObligations.find? (lease.executionId, lease.attempt, lease.fence) with
  | none =>
    require (registrationUncertain = true)
      (.casConflict "exact supervisor obligation is unavailable")
  | some obligation => do
    require (∀ recorded ∈ obligation.resolution, recorded = resolution)
      (.casConflict "supervisor obligation has a different resolution")
    KernelM.modify fun database =>
      { database with
        supervisorObligations :=
          database.supervisorObligations.put { obligation with resolution := some resolution } }

/-- A result equals the stored one, or is the last result of an exhausted retry. -/
def recordedAs (saved result : ExecutionResult) : Bool :=
  decide (saved.toJson = result.toJson) ||
    (decide (saved.status = .dead) &&
      match saved.error with
      | none => false
      | some error => decide (error.code.text = "retry_exhausted") &&
          decide ((Json.get? error.details "last_result").map Json.encode = some result.toJson))

/-- The start of a reconciled completion: the host authenticates the decision, which may have been
carried out before. -/
def reconcile (lease : ExecutionLease) (result : ExecutionResult)
    (reconciliation : Reconciliation) (options : CompletionOptions) (timestamp : Timestamp) :
    KernelM (Json.Text × Option ExecutionSnapshot) := do
  let database ← KernelM.database
  require (database.storeId = reconciliation.kernelStoreId)
    (.storageIsolation "host did not authenticate supervisor result reconciliation")
  let principal ← KernelM.probe
    (verifyReconciliation reconciliation.credential lease.executionId reconciliation.decision)
  KernelM.probe (Probe.addCheck
    (.reconciliation reconciliation.credential lease.executionId reconciliation.decision principal))
  KernelM.probe (assertBudgetClock lease.executionId)
  let environment ← ask
  let sample ← KernelM.probe (Probe.sampleClock timestamp)
  require (∀ envelope ∈ options.budgetEnvelope,
      (envelope.checkpoint.effectiveTime environment.arithmetic sample).isSome)
    (.storageIsolation "reconciliation clock continuity is unknown")
  let record := Json.Lexeme.string "host_verified_supervisor_result" ::
    Json.Lexeme.string principal.text :: reconciliation.decision
  let row ← getRow lease.executionId
  require (row.attempt = lease.attempt ∧ row.fence = lease.fence)
    (.staleFence "supervisor execution generation changed")
  let obligation ← expect
    (database.supervisorObligations.find? (lease.executionId, lease.attempt, lease.fence))
    (.casConflict "exact supervisor obligation is unavailable")
  match obligation.resolution with
  | none => return (record, none)
  | some recorded => do
    require (recorded = record) (.casConflict "supervisor obligation has a different resolution")
    require (row.state = .queued → ∃ event ∈ database.events,
        event.executionId = lease.executionId ∧ event.revision = lease.revision + 1 ∧
          event.eventType = .retryScheduled ∧
          (Json.get? event.data "result").map Json.encode = some result.toJson)
      (.casConflict "original retry receipt is unavailable")
    require (row.state.terminal = true → ∃ saved ∈ row.result, recordedAs saved result = true)
      (.casConflict "reconciled terminal result is no longer current")
    require (row.state = .queued ∨ row.state.terminal = true)
      (.casConflict "reconciled result is no longer current")
    let current ← snapshot row
    return (record, some current)

/-- The branch of `_complete_result` for an execution that has ended: only the exact result that
is stored is accepted again. -/
def replayCompletion (row : ExecutionRow) (lease : ExecutionLease) (result : ExecutionResult)
    (options : CompletionOptions) (hostRecord : Option Json.Text) (timestamp : Timestamp) :
    KernelM ExecutionSnapshot := do
  require (∀ current ∈ row.result, current.toJson ≠ result.toJson →
      current.resultId ≠ result.resultId)
    (.resultConflict "duplicate result_id has different content")
  require (row.result.map ExecutionResult.toJson = some result.toJson)
    { kind := .invalidStateTransition, message := "terminal state is immutable" }
  revalidate
  if options.supervisorCleanupConfirmed = true ∨ options.supervisorNotInvoked = true ∨
      hostRecord.isSome then do
    require (row.attempt = lease.attempt ∧ row.fence = lease.fence)
      (.casConflict "supervisor execution generation changed")
    resolveSupervisor lease (hostRecord.getD (supervisorResolution result options))
      options.supervisorRegistrationUncertain
    snapshot row
  else snapshot row
where
  /-- An earlier receipt of the result does not prove that its clock floor was stored. -/
  revalidate : KernelM Unit :=
    match options.budgetEnvelope with
    | none => pure ()
    | some envelope => do
      KernelM.probe (assertBudgetClock lease.executionId)
      validateResult row lease result timestamp (some envelope)

/-- `_complete_result` once the row is known to be live: lease, permission, validation, parking,
retry or end. -/
def completeLive (lease : ExecutionLease) (result : ExecutionResult)
    (options : CompletionOptions) (hostRecord : Option Json.Text) (timestamp : Timestamp) :
    KernelM ExecutionSnapshot := do
  let row ← assertLease lease timestamp [.running] options.settlement
  KernelM.probe (authorizeManagedOperation lease.executionId timestamp .executionCompletion true)
  checkBudgetClock
  validateResult row lease result timestamp options.budgetEnvelope
  let parked ← parkUnfinishedEffects row timestamp (.complete result.status)
  match parked with
  | some waiting => return waiting
  | none => do
    resolveIfSupervised
    let database ← KernelM.database
    let deadlineElapsed := (database.controlOf lease.executionId).any fun control =>
      control.deadlineAt ≤ timestamp
    if retryable result row.command = true ∧ deadlineElapsed = false then
      if row.command.retryPolicy.maxAttempts ≤ row.attempt then do
        let dead ← lift (deadResult row timestamp ⟨"retry_exhausted", by decide⟩
          "retryable result exhausted the attempt budget"
          [("max_attempts", .ofNat row.command.retryPolicy.maxAttempts),
            ("last_result", result.toDict)]
          result.resultId (database.committedEffectIds row.executionId))
        terminal row dead .retryExhaustedDead timestamp
      else scheduleRetry row result timestamp
    else terminal row result (.status result.status) timestamp
where
  /-- A retained completion floor cannot establish the clock while a sample is unresolved. -/
  checkBudgetClock : KernelM Unit :=
    if options.budgetEnvelope.isSome then KernelM.probe (assertBudgetClock lease.executionId)
    else pure ()
  /-- Resolve the supervisor's obligation when its cleanup is proved. -/
  resolveIfSupervised : KernelM Unit :=
    if options.supervisorCleanupConfirmed = true ∨ options.supervisorNotInvoked = true ∨
        hostRecord.isSome then
      resolveSupervisor lease (hostRecord.getD (supervisorResolution result options))
        options.supervisorRegistrationUncertain
    else pure ()

/-- `_complete_result` after a possible reconciliation. -/
def completeRow (lease : ExecutionLease) (result : ExecutionResult)
    (options : CompletionOptions) (hostRecord : Option Json.Text) (timestamp : Timestamp) :
    KernelM ExecutionSnapshot := do
  let row ← getRow lease.executionId
  if row.state.terminal = true then
    replayCompletion row lease result options hostRecord timestamp
  else completeLive lease result options hostRecord timestamp

/-- The body of `_complete_result`. -/
def completeResultBody (lease : ExecutionLease) (result : ExecutionResult)
    (options : CompletionOptions) (timestamp : Timestamp) : KernelM ExecutionSnapshot :=
  match options.reconciliation with
  | none => completeRow lease result options none timestamp
  | some reconciliation => do
    let (record, settled) ← reconcile lease result reconciliation options timestamp
    match settled with
    | some current => return current
    | none => completeRow lease result options (some record) timestamp

/-- `complete` and its private variants. -/
def complete (lease : ExecutionLease) (result : ExecutionResult) (options : CompletionOptions)
    (environment : Environment) (state : KernelState) :
    Except KernelError ExecutionSnapshot × KernelState :=
  transaction (completeResultBody lease result options) environment state

/-! ### Recovery on request, dead letters -/

/-- The body of `_require_effect_recovery`. -/
def requireEffectRecoveryBody (lease : ExecutionLease) (effectId : Identifier)
    (settlement : Bool) (timestamp : Timestamp) : KernelM (Option ExecutionSnapshot) := do
  let row ← assertLease lease timestamp [.running] settlement
  let database ← KernelM.database
  require (∃ effect ∈ database.effects.find? effectId,
      effect.executionId = lease.executionId ∧ effect.state.unfinished = true)
    (.staleFence "recovery requires an unfinished effect owned by the execution"
      [("execution_id", lease.executionId.toJson), ("effect_id", effectId.toJson)])
  parkUnfinishedEffects row timestamp .handlerRecoverySignal

def requireEffectRecovery (lease : ExecutionLease) (effectId : Identifier) (settlement : Bool)
    (environment : Environment) (state : KernelState) :
    Except KernelError (Option ExecutionSnapshot) × KernelState :=
  transaction (requireEffectRecoveryBody lease effectId settlement) environment state

/-- The body of `dead_letter`. -/
def deadLetterBody (lease : ExecutionLease) (error : ExecutionError) (timestamp : Timestamp) :
    KernelM ExecutionSnapshot := do
  let row ← assertLease lease timestamp [.leased, .running]
  KernelM.probe (authorizeManagedOperation lease.executionId timestamp .deadLetterTransition true)
  let parked ← parkUnfinishedEffects row timestamp .deadLetter
  match parked with
  | some waiting => return waiting
  | none => do
    let database ← KernelM.database
    let resultId ← KernelM.uuid
    let dead ← lift (deadResult row timestamp error.code error.message error.details resultId
      (database.committedEffectIds row.executionId))
    terminal row dead .permanentDead timestamp

def deadLetter (lease : ExecutionLease) (error : ExecutionError) (environment : Environment)
    (state : KernelState) : Except KernelError ExecutionSnapshot × KernelState :=
  if error.retryable = true then
    (.error (.value "dead_letter requires a non-retryable ExecutionError"), state)
  else transaction (deadLetterBody lease error) environment state

/-! ### Cancellation -/

/-- The stall that a cancellation has to find unchanged. -/
structure StallDisposition where
  executionId : Identifier
  attempt : ℕ
  fence : ℕ
  progressRevision : ℕ
  episodeId : Option Identifier
  policyVersion : Option Identifier
  deriving DecidableEq

def assertStallDisposition (row : ExecutionRow) (expected : StallDisposition) :
    KernelM Unit := do
  let database ← KernelM.database
  require (row.state = .running ∧ expected.executionId = row.executionId ∧
      ∃ current ∈ database.supervision.find? row.executionId,
        expected = ⟨current.executionId, current.attempt, current.fence,
          current.progressRevision, current.episodeId, current.policyVersion⟩ ∧
        row.attempt = current.attempt ∧ row.fence = current.fence)
    (.casConflict "stall disposition is stale; current progress/episode changed")

/-- Who asks for a cancellation, and what it must find unchanged. -/
inductive CancelAuthority where
  | lease (lease : ExecutionLease)
  | revision (expected : ℕ)
  | none

/-- What a cancellation answers: the snapshot, or that effects have to be recovered first. -/
inductive CancelAnswer where
  | snapshot (current : ExecutionSnapshot)
  | recoveryRequired (effectId : Identifier)

/-- The managed Run of a cancelled execution is being paused, or is paused. -/
def requirePausedRun (executionId : Identifier) : KernelM Unit := do
  let database ← KernelM.database
  match database.managedExecutions.find? executionId with
  | none =>
    require (executionId.managed = false)
      (.storageIsolation "managed cancellation lacks Run control")
  | some member => do
    let control ← expect (database.runControls.find? member.runId)
      (.storageIsolation "managed cancellation lacks Run control")
    require (control.state = .pausing ∨ control.state = .paused)
      (.casConflict "managed cancellation requires a persisted pause barrier")

/-- The stored revision is the one that a cancellation expects. -/
def requireRevision (row : ExecutionRow) (expected : ℕ) : KernelM Unit :=
  require (row.revision = expected)
    (.casConflict ("execution cancellation revision conflict: expected " ++
      toString expected ++ ", found " ++ toString row.revision))

/-- Cancel an execution that waits for effect recovery: with the exact revision the target becomes
cancellation. -/
def cancelRecovering (row : ExecutionRow) (authority : CancelAuthority) (reason : Identifier)
    (timestamp : Timestamp) : KernelM (Option Identifier) :=
  match authority with
  | .lease _ | .none => return row.recoveryEffectId
  | .revision expected => do
    requireRevision row expected
    let parked ← parkUnfinishedEffects row timestamp .cancel (some reason)
    return parked.bind (·.recoveryEffectId)

/-- Cancel an execution outside of recovery, with a result that names its effects. -/
def cancelLive (executionId : Identifier) (row : ExecutionRow) (reason : Identifier)
    (timestamp : Timestamp) : KernelM CancelAnswer := do
  let parked ← parkUnfinishedEffects row timestamp .cancel (some reason)
  match parked.bind (·.recoveryEffectId) with
  | some effectId => return .recoveryRequired effectId
  | none => do
    let database ← KernelM.database
    let resultId ← KernelM.uuid
    let result ← lift (cancelledResult row timestamp reason resultId
      (database.committedEffectIds executionId))
    let answer ← terminal row result (.status .cancelled) timestamp
    return .snapshot answer

/-- A live execution is cancelled by its lease, by its exact revision, or, if nobody holds it,
without either. -/
def authorizeCancel (row : ExecutionRow) (authority : CancelAuthority) (timestamp : Timestamp) :
    KernelM ExecutionRow :=
  if row.state.held = true then
    match authority with
    | .none =>
      fail (.staleFence
        "active execution cancellation requires a live lease or exact expected_revision")
    | .revision expected => do
      requireRevision row expected
      return row
    | .lease lease => assertLease lease timestamp [.leased, .running]
  else
    match authority with
    | .revision expected => do
      requireRevision row expected
      return row
    | .lease _ | .none => return row

/-- The body of `cancel`. -/
def cancelBody (executionId : Identifier) (authority : CancelAuthority) (reason : Identifier)
    (expected : Option StallDisposition) (timestamp : Timestamp) : KernelM CancelAnswer := do
  let row ← getRow executionId
  expectStall row
  if row.state.terminal = true then do
    require (row.state = .cancelled)
      { kind := .invalidStateTransition
        message := "a non-cancelled terminal execution is immutable" }
    let current ← snapshot row
    return .snapshot current
  else do
    requirePausedRun executionId
    if row.state = .recoveryRequired then do
      let pointer ← cancelRecovering row authority reason timestamp
      let effectId ← expect pointer (.runtime "recovery pointer is missing")
      return .recoveryRequired effectId
    else do
      let current ← authorizeCancel row authority timestamp
      cancelLive executionId current reason timestamp
where
  /-- The observed stall has not been overtaken. -/
  expectStall (row : ExecutionRow) : KernelM Unit :=
    match expected with
    | none => pure ()
    | some disposition => assertStallDisposition row disposition

/-- The caller of `cancel` is told of a recovery by an error, after it is committed. -/
def raiseCancelRecovery (outcome : Except KernelError CancelAnswer × KernelState) :
    Except KernelError ExecutionSnapshot × KernelState :=
  match outcome with
  | (.ok (.snapshot current), state) => (.ok current, state)
  | (.ok (.recoveryRequired effectId), state) => (.error (.effectRecoveryRequired effectId), state)
  | (.error failure, state) => (.error failure, state)

/-- `cancel`. A lease names its execution. -/
def cancel (executionId : Identifier) (authority : CancelAuthority) (reason : Identifier)
    (expected : Option StallDisposition) (environment : Environment) (state : KernelState) :
    Except KernelError ExecutionSnapshot × KernelState :=
  raiseCancelRecovery
    (transaction (cancelBody executionId authority reason expected) environment state)

end DispatcherSdk.ExecutionKernel
