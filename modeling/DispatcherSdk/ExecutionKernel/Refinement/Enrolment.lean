/-
This file proves that the lease cycle is work and that accepting a command is enrolment.

Expired leases are collected, a candidate is leased and charged, and a held lease is started
and renewed; what carries the loops is that the rows still to come are stored as they were read.
A command is accepted under a name that no execution has yet, and an execution that was not
there owns no effects.
-/

import DispatcherSdk.ExecutionKernel.Refinement.Completion

namespace DispatcherSdk.ExecutionKernel

open Library Library.Attempt Relation List

variable {environment : Environment} {frame : Frame} {now : Timestamp}

/-! ### Expired leases -/

variable {row : ExecutionRow}

section

variable (found : frame.database.executions.find? row.executionId = some row)
  (held : row.state.held = true)

include found held

theorem redeliverExpired_works (spare : row.attempt < row.command.retryPolicy.maxAttempts)
    (settled : (frame.database.ledger row.executionId).Settled) :
    Relates (WorksOn now row.executionId) (redeliverExpired row now) environment frame := by
  unfold redeliverExpired
  refine ensures_bind (ensures_ask (then_lift fun _ _ => ?_))
  refine then_lift fun nextAt _ => ?_
  refine ensures_bind (casExecution_ensures (appendEvent_ensures ?_))
  exact works_transit found (.requeue rfl held spare settled nextAt) rfl rfl

theorem reapRow_works :
    Relates (WorksOn now row.executionId) (reapRow now row) environment frame := by
  unfold reapRow
  refine ensures_bind ((parkUnfinishedEffects_parks found).mono fun parked middle done => ?_)
  cases parked with
  | some waiting => exact ensures_pure done.2.2
  | none =>
    obtain ⟨rfl, settled⟩ := done
    refine ensures_ite (fun _ => ?_) fun spare =>
      redeliverExpired_works found held (Nat.lt_of_not_le spare) settled
    refine then_read (then_check fun resultId drawn => ?_)
    refine then_lift fun dead made => ?_
    refine ensures_bind ((@terminal_works _ ⟨middle.database, drawn⟩ _ _ _ _ found
      (deadResult_ok made).1 rfl rfl (ordinary_of_held held)).mono fun _ _ worked => ?_)
    exact ensures_pure worked

end

/-- The rows that are still to be collected are stored as they were read. -/
structure Reaping (remaining : List ExecutionRow) (current : Database) : Prop where
  unread : ∀ row ∈ remaining, current.executions.find? row.executionId = some row
  held : ∀ row ∈ remaining, row.state.held = true
  distinct : (remaining.map (·.executionId)).Nodup

theorem expiredRows_reaping (database : Database) (now : Timestamp) :
    Reaping (database.expiredRows now) database where
  unread row member := Table.find?_key (Database.mem_expiredRows member).1
  held row member := by
    have reapable := (Database.mem_expiredRows member).2
    simp only [Database.reapable, Bool.and_eq_true] at reapable
    exact reapable.1.1
  distinct := by
    have sorted : ((database.executions.rows.filter
        (database.reapable now)).insertionSort ExecutionRow.precedes).Perm
          (database.executions.rows.filter (database.reapable now)) :=
      perm_insertionSort _ _
    have names := (sorted.map (·.executionId)).nodup_iff.mpr
      (database.executions.unique.sublist (filter_sublist.map _))
    exact names.sublist ((take_sublist _ _).map _)

theorem reapInTransaction_collects :
    Ensures (reapInTransaction now) environment frame fun _ next =>
      Works now frame.database next.database ∧ ∀ executionId,
        (∀ row, frame.database.executions.find? executionId = some row →
          frame.database.reapable now row = false) →
        next.database.executions.find? executionId =
          frame.database.executions.find? executionId := by
  unfold reapInTransaction
  refine then_read (ensures_bind ?_)
  have looped := @ensures_forEach _ _ _ _ _ environment frame (frame.database.expiredRows now) (reapRow now) (fun remaining (next : Frame) =>
      Works now frame.database next.database ∧ Reaping remaining next.database ∧
        (∀ row ∈ remaining, row ∈ frame.database.expiredRows now) ∧
        ∀ executionId, (∀ row ∈ frame.database.expiredRows now, row.executionId ≠ executionId) →
          next.database.executions.find? executionId =
            frame.database.executions.find? executionId)
    ⟨.refl, expiredRows_reaping frame.database now, fun _ member => member, fun _ _ => rfl⟩ ?_
  · refine looped.mono fun _ _ reached => ensures_pure ⟨reached.1, fun executionId spared => ?_⟩
    refine reached.2.2.2 executionId fun row member same => ?_
    obtain ⟨stored, expired⟩ := Database.mem_expiredRows member
    rw [spared row (same ▸ Table.find?_key stored)] at expired
    cases expired
  · rintro row rest current ⟨worked, reaping, listed, kept⟩
    refine (reapRow_works (reaping.unread row mem_cons_self)
      (reaping.held row mem_cons_self)).mono fun _ next more => ?_
    have distinct := reaping.distinct
    rw [map_cons, nodup_cons] at distinct
    refine ⟨worked.trans more.works, ⟨?_, ?_, distinct.2⟩, ?_, ?_⟩
    · intro other member
      have different : other.executionId ≠ row.executionId := fun same =>
        distinct.1 (mem_map.mpr ⟨other, member, same⟩)
      rw [more.foreign different]
      exact reaping.unread other (mem_cons_of_mem row member)
    · exact fun other member => reaping.held other (mem_cons_of_mem row member)
    · exact fun other member => listed other (mem_cons_of_mem row member)
    · intro executionId unlisted
      have different := unlisted row (listed row mem_cons_self)
      rw [more.foreign different.symm]
      exact kept executionId unlisted

theorem reapInTransaction_works : Relates (Works now) (reapInTransaction now) environment frame :=
  reapInTransaction_collects.mono fun _ _ collected => collected.1

theorem reapBatches_works {bound : ℕ} :
    Relates (Works now) (reapBatches now bound) environment frame := by
  induction bound generalizing frame with
  | zero => exact ensures_pure .refl
  | succ bound hypothesis =>
    unfold reapBatches
    refine ensures_bind (reapInTransaction_works.mono fun batch middle worked => ?_)
    refine ensures_ite (fun _ => ensures_pure worked) fun _ => ?_
    refine ensures_bind (hypothesis.mono fun _ _ more => ?_)
    exact ensures_pure (worked.trans more)

theorem snapshots_same {names : List Identifier} :
    Ensures (snapshots names) environment frame fun _ next => next.database = frame.database := by
  induction names generalizing frame with
  | nil => exact ensures_pure rfl
  | cons name rest hypothesis =>
    unfold snapshots
    refine ensures_bind (getRow_ensures fun _ _ => then_lift fun _ _ => ?_)
    exact ensures_bind (hypothesis.mono fun _ _ same => ensures_pure same)

theorem reapBody_works : Relates (Works now) (reapBody now) environment frame := by
  unfold reapBody
  refine then_read (ensures_bind (reapBatches_works.mono ?_))
  intro _ middle worked
  refine snapshots_same.mono fun _ next same => ?_
  rw [same]
  exact worked

/-! ### Claims -/

variable {filter : ClaimFilter}

theorem Database.claimable_queued {database : Database} {after : Option ClaimCursor}
    (claimable : database.claimable now filter after row = true) : row.state = .queued := by
  simp only [Database.claimable, Bool.and_eq_true, decide_eq_true_eq] at claimable
  exact claimable.1.1.1.1.1.1.1

variable {cursor : Option ClaimCursor}

theorem scanClaims_ensures {surroundings : Environment × Database} {bound : ℕ} {session : Session} :
    Ensures (scanClaims filter now bound cursor) surroundings session fun answer _ =>
      ∀ row ∈ answer, row ∈ surroundings.2.executions ∧
        ∃ after, surroundings.2.claimable now filter after row = true := by
  induction bound generalizing cursor session with
  | zero =>
    unfold scanClaims
    exact ensures_bind ((ensures_trivial _).mono fun _ _ _ => ensures_fail _)
  | succ bound hypothesis =>
    unfold scanClaims
    refine ensures_bind (ensures_probe_database ?_)
    cases found : surroundings.2.nextClaimRow now filter cursor with
    | none => exact ensures_pure fun _ missing => by cases missing
    | some row =>
      obtain ⟨member, claimable⟩ := Database.nextClaimRow_some found
      have candidate : ∀ other ∈ some row, other ∈ surroundings.2.executions ∧
          ∃ after, surroundings.2.claimable now filter after other = true := by
        rintro other ⟨⟩
        exact ⟨member, cursor, claimable⟩
      dsimp only
      cases surroundings.2.managedExecutions.find? row.executionId with
      | none => exact ensures_pure candidate
      | some registered =>
        refine ensures_ite (fun _ => ?_) fun _ => ?_
        · exact ensures_bind ((ensures_trivial _).mono fun _ _ _ => ensures_pure candidate)
        · refine ensures_bind ((ensures_trivial _).mono fun admitted _ _ => ?_)
          cases admitted with
          | some _ => exact ensures_pure candidate
          | none => exact hypothesis

variable {condition : Option ExecutionRow → Frame → Prop}

theorem nextBudgetEligibleClaim_claimable
    (nobody : ∀ session, condition none { frame with session })
    (candidate : ∀ row session, frame.database.executions.find? row.executionId = some row →
      ∀ after, frame.database.claimable now filter after row = true →
        condition (some row) { frame with session }) :
    Ensures (KernelM.probe (nextBudgetEligibleClaim filter cursor now)) environment frame
      condition := by
  refine ensures_probe ?_
  unfold nextBudgetEligibleClaim
  refine ensures_bind (ensures_probe_environment (then_lift fun _ _ => ?_))
  refine scanClaims_ensures.mono fun answer session chosen => ?_
  cases answer with
  | none => exact nobody session
  | some row =>
    obtain ⟨member, after, claimable⟩ := chosen row rfl
    exact candidate row session (Table.find?_key member) after claimable

theorem nextBudgetEligibleClaim_ensures (nobody : ∀ session, condition none { frame with session })
    (candidate : ∀ row session, frame.database.executions.find? row.executionId = some row →
      row.state = .queued → condition (some row) { frame with session }) :
    Ensures (KernelM.probe (nextBudgetEligibleClaim filter cursor now)) environment frame
      condition :=
  nextBudgetEligibleClaim_claimable nobody fun row session found _ claimable =>
    candidate row session found (Database.claimable_queued claimable)

theorem Database.ledger_charged (database : Database) (executionId name : Identifier) :
    (database.charged executionId).ledger name = database.ledger name := by
  unfold charged
  split <;> rfl

theorem works_lease {before : Database} {columns : LeaseColumns} {owner : Identifier}
    (found : before.executions.find? row.executionId = some row) (queued : row.state = .queued)
    (allowed : before.Allows row.executionId now .claim) :
    Works now before
      (((before.charged row.executionId).write (.execution (row.leasedTo columns now))).write
        (.event (row.leasedEvent owner now))) := by
  have stored : ((before.charged row.executionId).ledger row.executionId).row = some row := by
    rw [Database.ledger_charged]
    exact found
  refine @Works.move row.executionId _ _ _ .claim allowed ?_
  refine @rewrites_enter _ (row.leasedTo columns now) _ _ rfl ⟨⟨row, stored⟩, ?_⟩
  have moved : Move now _ _ _ := Move.transit stored (.lease queued columns) rfl rfl
    [("owner", owner.toJson), ("attempt", .ofNat (row.attempt + 1)),
      ("fence", .ofNat (row.fence + 1))]
  rw [queued] at moved
  exact moved

variable {owner : Identifier}

variable {duration : Timestamp}

theorem claimBody_works :
    Relates (Works now) (claimBody owner duration filter cursor now) environment frame := by
  unfold claimBody
  refine ensures_bind (ensures_ask ?_)
  refine ensures_bind (reapInTransaction_works.mono fun _ middle reaped => ?_)
  refine works_then reaped ?_
  refine ensures_bind (nextBudgetEligibleClaim_ensures (fun _ => ensures_pure .refl)
    fun row session found queued => ?_)
  refine then_check fun _ _ => then_lift fun _ _ => ?_
  refine then_check fun leaseId _ => then_lift fun expiresAt _ => ?_
  refine ensures_bind (chargeManagedClaim_charges fun allowed session => ?_)
  refine ensures_bind (casExecution_ensures (ensures_bind (appendEvent_ensures ?_)))
  exact ensures_pure (works_lease found queued allowed)

variable {executionId : Identifier}

theorem lifecycleReserve_supports {attempt fence : ℕ} {reservation : LifecycleReservation} :
    Ensures (lifecycleReserve executionId attempt fence reservation) environment frame
      fun _ next => frame.database.Supports next.database := by
  unfold lifecycleReserve
  refine then_read (then_require fun _ => ?_)
  split
  · exact then_require fun _ => ensures_pure (.refl _)
  · refine ensures_ite (fun _ => ensures_pure (.refl _)) fun _ => ?_
    refine ensures_bind (ensures_modify (ensures_pure ?_))
    exact ⟨⟨rfl, rfl, rfl, rfl, rfl, fun _ => rfl⟩, ⟨rfl, rfl, rfl, rfl, rfl, rfl⟩,
      fun _ => rfl⟩

variable {before : Database}

theorem Database.Permits.sameRuns {after : Database} (same : before.SameRuns after) {drains : Bool}
    (permits : before.Permits executionId now drains) : after.Permits executionId now drains := by
  have unresolved : ∀ runId, after.unresolvedBarriers runId = before.unresolvedBarriers runId := by
    intro runId
    simp only [unresolvedBarriers, resolvedBarrier, same.pauseReceipts, same.resumeReceipts]
  intro member found
  rw [same.managedExecutions] at found
  obtain ⟨control, stored, unexpired, barrier, admitted⟩ := permits member found
  refine ⟨control, by rw [same.runControls]; exact stored, unexpired, ?_, admitted⟩
  simp only [hasUnresolvedControlBarrier, drainBarrierAllows, unresolved,
    same.managedExecutions, same.runControls]
  exact barrier

theorem works_startedUnder {columns : LeaseColumns}
    (found : before.executions.find? row.executionId = some row) (queued : row.state = .queued)
    (allowed : before.Allows row.executionId now .claim)
    (permits : (before.charged row.executionId).Permits row.executionId now true) :
    Works now before
      ((((before.charged row.executionId).write (.execution (row.startedUnder columns now))).write
        (.event (row.leasedEvent owner now))).write
          (.event (startedEvent row.executionId (row.revision + 2) (row.attempt + 1)
            (row.fence + 1) now))) := by
  have leased := @works_lease now _ _ columns owner found queued allowed
  refine leased.trans ?_
  generalize charged : before.charged row.executionId = base at permits
  have stored : (((base.write (.execution (row.leasedTo columns now))).write
      (.event (row.leasedEvent owner now))).ledger row.executionId).row =
        some (row.leasedTo columns now) :=
    Table.find?_put_same base.executions (row.leasedTo columns now)
  have later : Works now
      ((base.write (.execution (row.leasedTo columns now))).write
        (.event (row.leasedEvent owner now)))
      ((((base.write (.execution (row.leasedTo columns now))).write
        (.event (row.leasedEvent owner now))).write
          (.execution ((row.leasedTo columns now).started now))).write
            (.event (startedEvent row.executionId (row.revision + 2) (row.attempt + 1)
              (row.fence + 1) now))) := by
    refine @Works.move row.executionId _ _ _ .work ?_ ?_
    · exact permits.sameRuns (.trans (.write _ _) (.write _ _))
    · refine @rewrites_enter _ ((row.leasedTo columns now).started now) _ _ rfl
        ⟨⟨row.leasedTo columns now, stored⟩, ?_⟩
      exact Move.transit stored (.start rfl) rfl rfl
        [("attempt", .ofNat (row.attempt + 1)), ("fence", .ofNat (row.fence + 1))]
  have once : (base.write (.execution (row.startedUnder columns now))).write
      (.event (row.leasedEvent owner now)) =
        ((base.write (.execution (row.leasedTo columns now))).write
          (.event (row.leasedEvent owner now))).write
            (.execution ((row.leasedTo columns now).started now)) := by
    have puts : (base.executions.put (row.leasedTo columns now)).put
        ((row.leasedTo columns now).started now) =
          base.executions.put (row.startedUnder columns now) :=
      Table.put_put base.executions rfl
    simp only [Database.write, puts]
  rw [once]
  exact later

variable {options : StartOptions}

variable {floor : Timestamp}

theorem startCandidate_works (found : frame.database.executions.find? row.executionId = some row)
    (queued : row.state = .queued) :
    Relates (Works now) (startCandidate owner floor options row now) environment frame := by
  have reserved : ∀ {frame : Frame}, Ensures (startCandidate.reserve options row now)
      environment frame fun _ next => frame.database.Supports next.database ∧ True := by
    intro frame
    unfold startCandidate.reserve
    cases options.reservation with
    | none => exact ensures_pure ⟨.refl _, trivial⟩
    | some reservation =>
      refine then_check fun _ _ => ?_
      exact lifecycleReserve_supports.mono fun _ _ supports => ⟨supports, trivial⟩
  unfold startCandidate
  refine ensures_bind (ensures_ask (then_lift fun _ _ => ?_))
  refine then_lift fun _ _ => then_lift fun _ _ => ?_
  refine then_check fun leaseId drawn => ?_
  refine @supported _ _ _ _ _ _ _ (fun _ => True) reserved fun _ middle supports _ => ?_
  have kept := @Database.Supports.find? row.executionId _ _ supports _ found
  refine ensures_ite (fun _ => ensures_pure .refl) fun _ => ?_
  refine then_lift fun expiresAt _ => ?_
  refine ensures_bind (chargeManagedClaim_charges fun allowed _ => ?_)
  refine ensures_bind (authorized fun permits _ => ?_)
  refine ensures_bind (casExecution_ensures (ensures_bind (appendEvent_ensures ?_)))
  refine ensures_bind (appendEvent_ensures (ensures_pure ?_))
  exact works_startedUnder kept queued allowed permits

theorem claimAndStartBody_works :
    Relates (Works now) (claimAndStartBody owner floor filter cursor options now) environment frame := by
  have targeted : ∀ {row : ExecutionRow} {frame : Frame},
      Ensures (claimAndStartBody.assertTarget filter now row) environment frame
        fun _ next => next.database = frame.database := by
    intro row frame
    unfold claimAndStartBody.assertTarget
    exact ensures_ite (fun _ => checked fun _ _ => rfl) fun _ => ensures_pure rfl
  unfold claimAndStartBody
  refine ensures_bind (reapInTransaction_works.mono fun _ middle reaped => ?_)
  refine works_then reaped ?_
  refine ensures_bind (nextBudgetEligibleClaim_ensures (fun _ => ensures_pure .refl)
    fun row session found queued => ?_)
  refine then_check fun _ clocked => then_read ?_
  refine ensures_ite (fun _ => ensures_pure .refl) fun _ => ?_
  refine ensures_bind (targeted.mono fun _ next same => ?_)
  have kept : next.database.executions.find? row.executionId = some row := by
    rw [same]
    exact found
  refine (startCandidate_works kept queued).mono fun _ last worked => ?_
  rw [same] at worked
  exact worked

theorem nextQueuedBody_works {registryRevision : Identifier} :
    Relates (Works now) (nextQueuedBody registryRevision now) environment frame := by
  unfold nextQueuedBody
  refine ensures_bind (reapInTransaction_works.mono fun _ middle reaped => ?_)
  refine then_read ?_
  split
  · exact ensures_pure reaped
  · exact then_lift fun _ _ => ensures_pure reaped

/-! ### Holding a lease -/

variable {lease : ExecutionLease}

theorem verifyBody_same :
    Ensures (verifyBody lease now) environment frame
      fun _ next => next.database = frame.database := by
  unfold verifyBody
  refine ensures_bind (assertLease_ensures fun _ _ _ _ _ => ?_)
  exact then_check fun _ _ => ensures_lift fun _ _ => rfl

theorem works_keep {after : ExecutionRow} {eventType : EventType} {data : List (String × Json)}
    (found : before.executions.find? row.executionId = some row)
    (transit : Transit now (before.ledger row.executionId) row eventType after
      (before.ledger row.executionId).results) (alone : eventType.disposes = false)
    (needs : eventType.need = .work) (permits : before.Permits row.executionId now true) :
    Works now before
      ((before.write (.execution after)).write
        (.event (after.entry eventType (some row.state) data))) := by
  have same := transit.succeeds.executionId
  refine @Works.move row.executionId _ _ _ .work permits ?_
  show before.Rewrites row.executionId _ _
  rw [← same]
  refine rewrites_enter rfl ⟨⟨row, ?_⟩, ?_⟩
  · rw [same]
    exact found
  · rw [same]
    exact Move.transit found transit alone needs data

theorem startBody_works : Relates (Works now) (startBody lease now) environment frame := by
  unfold startBody
  refine ensures_bind (assertLease_ensures fun row found holds member _ => ?_)
  have leased : row.state = .leased := mem_singleton.mp member
  refine ensures_bind (authorized fun permits _ => then_check fun _ _ => ?_)
  rw [← holds.identity] at found permits
  refine then_lift fun _ _ => ?_
  refine ensures_bind (casExecution_ensures (ensures_bind (appendEvent_ensures ?_)))
  refine ensures_pure ?_
  have event : startedEvent lease.executionId (row.revision + 1) lease.attempt lease.fence now =
      (row.started now).entry .started (some row.state)
        [("attempt", .ofNat lease.attempt), ("fence", .ofNat lease.fence)] := by
    rw [leased, ← holds.identity]
    rfl
  rw [event]
  exact works_keep found (.start leased) rfl rfl permits

theorem renewBody_works : Relates (Works now) (renewBody lease duration now) environment frame := by
  unfold renewBody
  refine ensures_bind (ensures_ask ?_)
  refine ensures_bind (assertLease_ensures fun row found holds member _ => ?_)
  refine ensures_bind (authorized fun permits _ => ?_)
  refine then_lift fun expiresAt _ => ?_
  refine ensures_bind (casExecution_ensures (ensures_bind (appendEvent_ensures ?_)))
  refine ensures_pure ?_
  rw [← holds.identity] at found permits ⊢
  exact works_keep found (.renew (held_of_mem member) expiresAt) rfl rfl permits

/-! ### Support of a running execution -/

theorem registerSupervisorObligationBody_works :
    Relates (Works now) (registerSupervisorObligationBody lease now) environment frame := by
  unfold registerSupervisorObligationBody
  refine ensures_bind (assertLease_ensures fun _ _ _ _ _ => then_read ?_)
  split
  · exact ensures_bind (ensures_modify (ensures_pure (.support
      (Database.supports_obligations _ _))))
  · exact then_require fun _ => ensures_pure .refl

theorem resolveSupervisorObligationBody_works {credential : Credential}
    {decision : SupervisorDecision} :
    Relates (Works now) (resolveSupervisorObligationBody credential decision) environment frame := by
  unfold resolveSupervisorObligationBody
  refine then_check fun _ _ => then_read ?_
  refine then_expect fun _ _ => then_require fun _ => ?_
  refine then_require fun _ => ensures_bind (ensures_modify ?_)
  refine then_check fun _ _ => ensures_require fun _ => ?_
  exact .support (Database.supports_obligations _ _)

/-! ### Progress and stalls -/

/-- Supervision of an attempt about which nothing has been reported. -/
def SupervisionRow.fresh (executionId : Identifier) (attempt fence : ℕ) : SupervisionRow where
  executionId := executionId
  attempt := attempt
  fence := fence
  progressRevision := 0
  progressAt := none
  episodeId := none
  policyVersion := none
  episodeProgressRevision := none

/-- Store the supervision of an execution. -/
def writeSupervision (supervision : SupervisionRow) : KernelM Unit :=
  KernelM.modify fun database =>
    { database with supervision := database.supervision.put supervision }

/-- `_supervision_row`: what is stored about the current attempt; what is stored about an earlier
one is forgotten. -/
def supervisionRow (row : ExecutionRow) : KernelM SupervisionRow := do
  let database ← KernelM.database
  match (database.supervision.find? row.executionId).filter fun current =>
      current.attempt = row.attempt ∧ current.fence = row.fence with
  | some current => return current
  | none => do
    writeSupervision (.fresh row.executionId row.attempt row.fence)
    return .fresh row.executionId row.attempt row.fence

/-- What a confirmation of progress answers. -/
structure ProgressAnswer where
  new : Bool
  progressRevision : ℕ
  eventProgressRevision : ℕ
  progressAt : Option Timestamp

/-- The body of `confirm_progress`. -/
def confirmProgressBody (lease : ExecutionLease) (eventId : Identifier) (timestamp : Timestamp) :
    KernelM ProgressAnswer := do
  let row ← assertLease lease timestamp [.running]
  KernelM.probe (authorizeManagedOperation lease.executionId timestamp .progressConfirmation)
  let current ← supervisionRow row
  let database ← KernelM.database
  match database.progressKeys.find? (lease.executionId, lease.attempt, eventId) with
  | some previous =>
    return ⟨false, current.progressRevision, previous.progressRevision, current.progressAt⟩
  | none => do
    let revision := current.progressRevision + 1
    KernelM.modify fun database =>
      { database with
        progressKeys := database.progressKeys.put
          { executionId := lease.executionId, attempt := lease.attempt, eventId
            progressRevision := revision } }
    writeSupervision
      { current with
        progressRevision := revision
        progressAt := some timestamp
        episodeId := none
        episodeProgressRevision := none }
    return ⟨true, revision, revision, some timestamp⟩

def confirmProgress (lease : ExecutionLease) (eventId : Identifier) (environment : Environment)
    (state : KernelState) : Except KernelError ProgressAnswer × KernelState :=
  if 1024 < eventId.text.length then
    (.error (.value
      "progress event_id must be a non-empty string of at most 1024 characters"), state)
  else transaction (confirmProgressBody lease eventId) environment state

/-- The execution runs in this attempt, under a lease that has not expired. -/
def requireRunning (row : ExecutionRow) (attempt fence : ℕ) (timestamp : Timestamp)
    (message : String) : KernelM Unit :=
  require (row.state = .running ∧ row.attempt = attempt ∧ row.fence = fence ∧
      ∃ columns ∈ row.lease, timestamp < columns.expiresAt)
    (.staleFence message)

/-- The body of `register_stall_episode`. -/
def registerStallEpisodeBody (executionId : Identifier) (attempt fence progressRevision : ℕ)
    (episodeId policyVersion : Identifier) (timestamp : Timestamp) : KernelM Unit := do
  let row ← getRow executionId
  requireRunning row attempt fence timestamp
    "stall episode no longer belongs to an active execution"
  let current ← supervisionRow row
  require (∀ policy ∈ current.policyVersion, policy = policyVersion)
    (.casConflict "stall policy was replaced")
  require (current.progressRevision = progressRevision)
    (.casConflict "new progress invalidated the observed stall window")
  require (∀ episode ∈ current.episodeId, episode = episodeId)
    (.casConflict "another stall episode already owns this progress revision")
  writeSupervision
    { current with
      episodeId := some episodeId
      policyVersion := some policyVersion
      episodeProgressRevision := some progressRevision }

def registerStallEpisode (executionId : Identifier) (attempt fence progressRevision : ℕ)
    (episodeId policyVersion : Identifier) (environment : Environment) (state : KernelState) :
    Except KernelError Unit × KernelState :=
  transaction
    (registerStallEpisodeBody executionId attempt fence progressRevision episodeId policyVersion)
    environment state

/-- The body of `set_stall_policy`. -/
def setStallPolicyBody (executionId : Identifier) (attempt fence : ℕ)
    (policyVersion : Identifier) (timestamp : Timestamp) : KernelM Unit := do
  let row ← getRow executionId
  requireRunning row attempt fence timestamp "policy belongs to an inactive execution"
  let current ← supervisionRow row
  if current.policyVersion = some policyVersion then return ()
  else
    writeSupervision
      { current with
        policyVersion := some policyVersion
        episodeId := none
        episodeProgressRevision := none }

def setStallPolicy (executionId : Identifier) (attempt fence : ℕ) (policyVersion : Identifier)
    (environment : Environment) (state : KernelState) : Except KernelError Unit × KernelState :=
  transaction (setStallPolicyBody executionId attempt fence policyVersion) environment state

/-- The body of `clear_stall_episode`: whether the episode was still the current one. -/
def clearStallEpisodeBody (expected : StallDisposition) : KernelM Bool := do
  let row ← getRow expected.executionId
  let database ← KernelM.database
  match (database.supervision.find? row.executionId).filter fun current =>
      row.state = .running ∧ expected = ⟨current.executionId, current.attempt, current.fence,
        current.progressRevision, current.episodeId, current.policyVersion⟩ ∧
      row.attempt = current.attempt ∧ row.fence = current.fence with
  | none => return false
  | some current => do
    writeSupervision { current with episodeId := none, episodeProgressRevision := none }
    return true

def clearStallEpisode (expected : StallDisposition) (environment : Environment)
    (state : KernelState) : Except KernelError Bool × KernelState :=
  transaction (fun _ => clearStallEpisodeBody expected) environment state

/-! ### Handler entry -/

/-- The envelope that an entry is admitted with: the stored one, or an empty one that starts now. -/
def admittedEnvelope (existing : Option ExecutionLimits) : Probe BudgetEnvelope :=
  match existing with
  | some limits => pure limits.envelope
  | none => do
    let wall ← Probe.wallTime
    let checkpoint ← Probe.sampleClock wall
    lift (BudgetEnvelope.make [] checkpoint none)

/-- The body of `_prepare_execution_budget`. -/
def prepareExecutionBudgetBody (lease : ExecutionLease) (pending : Bool)
    (timestamp : Timestamp) : KernelM BudgetEnvelope := do
  KernelM.probe (assertBudgetClock lease.executionId)
  let _ ← assertLease lease timestamp [.running]
  KernelM.probe (assertChildClaim lease.executionId timestamp)
  KernelM.probe (authorizeManagedOperation lease.executionId timestamp .handlerEntryAdmission)
  let database ← KernelM.database
  let existing := database.executionLimits.find? lease.executionId
  require (∀ limits ∈ existing, limits.entry.isPending = true →
      limits.entry.identity = some (lease.attempt, lease.fence))
    (.budgetClockUnknown "entry_confirmation_pending: original handler entry is unresolved")
  let admitted ← KernelM.probe (admittedEnvelope existing)
  let bounded ← KernelM.probe (runBudget lease.executionId admitted)
  let envelope ← KernelM.probe (recheckpointHere admitted.checkpoint.wallAt bounded)
  let cutoff := envelope.cutoff? (executionOrigin lease.executionId)
  require (∀ constraint ∈ cutoff, constraint.source = .execution)
    (.value "execution origin conflicts with inherited constraint")
  require (∀ limits ∈ existing, limits.entry.isConfirmed = true → cutoff.isSome)
    (.budgetClockUnknown "confirmed handler entry has no original execution cutoff")
  let entry : HandlerEntry :=
    if cutoff.isSome ∧ pending = false then .confirmed lease.attempt lease.fence
    else .pending lease.attempt lease.fence
  match existing with
  | none =>
    writeLimits { executionId := lease.executionId, envelope, parent := none, depth := 0, entry }
  | some limits => writeLimits { limits with envelope, entry }
  return envelope

/-- `prepare_execution_budget` and `_prepare_handler_entry`. -/
def prepareExecutionBudget (lease : ExecutionLease) (pending : Bool) (environment : Environment)
    (state : KernelState) : Except KernelError BudgetEnvelope × KernelState :=
  transaction (prepareExecutionBudgetBody lease pending) environment state

/-- Store the envelope of an entry, and whether the entry is confirmed by it. -/
def storeEntry (executionId : Identifier) (envelope : BudgetEnvelope) (pending : Bool) :
    KernelM Unit := do
  let database ← KernelM.database
  let limits ← expect (database.executionLimits.find? executionId)
    (.casConflict "handler entry has no matching durable admission")
  let entry : HandlerEntry :=
    match limits.entry.identity with
    | none => limits.entry
    | some (attempt, fence) => if pending then .pending attempt fence else .confirmed attempt fence
  writeLimits { limits with envelope, entry }

/-- The body of `_record_handler_entry`. -/
def recordHandlerEntryBody (lease : ExecutionLease) (envelope : BudgetEnvelope) (pending : Bool)
    (timestamp : Timestamp) : KernelM BudgetEnvelope := do
  let row ← assertLease lease timestamp [.running]
  assertConfirmable
  KernelM.probe (authorizeManagedOperation lease.executionId timestamp .handlerEntryConfirmation)
  let kept ← KernelM.probe (mergeHandlerEntryBudget row lease envelope)
  storeEntry lease.executionId kept pending
  return kept
where
  /-- What only a confirmation needs. -/
  assertConfirmable : KernelM Unit :=
    if pending then pure ()
    else do
      KernelM.probe (assertBudgetClock lease.executionId)
      KernelM.probe (assertChildClaim lease.executionId timestamp)

/-- `confirm_handler_entry` and `_checkpoint_handler_entry`. -/
def recordHandlerEntry (lease : ExecutionLease) (envelope : BudgetEnvelope) (pending : Bool)
    (environment : Environment) (state : KernelState) :
    Except KernelError BudgetEnvelope × KernelState :=
  transaction (recordHandlerEntryBody lease envelope pending) environment state

/-! ### Children -/

/-- Bind a child to the Run of its parent, or make sure that neither has one. -/
def bindChildMember (parent : Option ManagedExecution) (command : ExecutionCommand) :
    KernelM Unit := do
  let database ← KernelM.database
  match parent with
  | none =>
    require (command.executionId.managed = false ∧
        (database.managedExecutions.find? command.executionId).isNone)
      (.value "ordinary parent cannot create a managed child")
  | some member => do
    KernelM.probe (checkApplicationBudget member.runId member.generation command.executionId
      (some command.toDict.encode))
    require (command.executionId.managed = true ∧ command.correlationId = member.runId)
      (.value "managed child must retain its Run control association")
    match database.managedExecutions.find? command.executionId with
    | some child =>
      require (child.runId = member.runId ∧ child.generation = member.generation)
        (.casConflict "child managed Run association changed")
    | none => do
      require (database.accepted? command).isNone
        (.casConflict "existing child lacks managed Run association")
      registerMember command.executionId member.runId member.generation

/-- The authority of the parent's Run over its new child. -/
def checkChildAuthority (parent : Option ManagedExecution) (executionId : Identifier)
    (timestamp : Timestamp) : Probe Unit :=
  match parent with
  | none => pure ()
  | some member => checkRunAuthority member.runId "child" timestamp (some executionId)

/-- The body of `submit_child`. -/
def submitChildBody (command : ExecutionCommand) (parentLease : ExecutionLease)
    (envelope : BudgetEnvelope) (timestamp : Timestamp) : KernelM ExecutionSnapshot := do
  let parent ← assertLease parentLease timestamp [.running]
  KernelM.probe (authorizeManagedOperation parentLease.executionId timestamp .childSubmission)
  let database ← KernelM.database
  let depth := database.childDepth parentLease.executionId
  let managed := database.managedExecutions.find? parentLease.executionId
  bindChildMember managed command
  let (row, _) ← submitInTransaction command timestamp
  KernelM.probe (checkChildAuthority managed command.executionId timestamp)
  bindChildLimits command.executionId parent envelope (depth + 1)
  snapshot row

def submitChild (command : ExecutionCommand) (parentLease : ExecutionLease)
    (envelope : BudgetEnvelope) (environment : Environment) (state : KernelState) :
    Except KernelError ExecutionSnapshot × KernelState :=
  transaction (submitChildBody command parentLease envelope) environment state

def ManagedExecution.binding (member : ManagedExecution) : Identifier × ℕ :=
  (member.runId, member.generation)

/-- The body of `adopt_child`. -/
def adoptChildBody (executionId : Identifier) (parentLease : ExecutionLease)
    (envelope : BudgetEnvelope) (timestamp : Timestamp) : KernelM ExecutionSnapshot := do
  let parent ← assertLease parentLease timestamp [.running]
  KernelM.probe (authorizeManagedOperation parentLease.executionId timestamp .childAdoption)
  let target ← getRow executionId
  require (target.state = .queued) (.casConflict "only a queued child may acquire inherited limits")
  let database ← KernelM.database
  require ((database.managedExecutions.find? parentLease.executionId).map (·.binding) =
      (database.managedExecutions.find? executionId).map (·.binding))
    (.casConflict "adopted child must retain the parent's managed Run and generation")
  bindChildLimits executionId parent envelope (database.childDepth parentLease.executionId + 1)
  snapshot target

def adoptChild (executionId : Identifier) (parentLease : ExecutionLease)
    (envelope : BudgetEnvelope) (environment : Environment) (state : KernelState) :
    Except KernelError ExecutionSnapshot × KernelState :=
  transaction (adoptChildBody executionId parentLease envelope) environment state

open Option Bool

variable {may : Identifier → Identifier → Prop}

/-! ### Acceptance -/

/-- The tables after a new command is stored. -/
def Database.accepting (database : Database) (command : ExecutionCommand) (now : Timestamp) :
    Database :=
  (database.write (.execution (command.submitted now))).write (.event (command.submittedEvent now))

variable {command : ExecutionCommand}

theorem submitInTransaction_ensures {condition : ExecutionRow × Bool → Frame → Prop}
    (existing : ∀ row, condition (row, false) frame)
    (created : frame.database.executions.find? command.executionId = none →
      condition (command.submitted now, true)
        { frame with database := frame.database.accepting command now }) :
    Ensures (submitInTransaction command now) environment frame condition := by
  unfold submitInTransaction
  refine then_read ?_
  cases accepted : frame.database.accepted? command with
  | some row => exact then_require fun _ => ensures_pure (existing row)
  | none =>
    have fresh := (Database.accepted?_none accepted).1
    refine ensures_bind (ensures_write (ensures_bind (appendEvent_ensures ?_)))
    refine ensures_bind (getRow_ensures fun row present => ensures_pure ?_)
    have stored : (frame.database.executions.put (command.submitted now)).find?
        (command.submitted now).executionId = some row := present
    rw [Table.find?_put_same, Option.some.injEq] at stored
    rw [← stored]
    exact created fresh

theorem accepting_rewrites {database : Database}
    (fresh : database.executions.find? command.executionId = none) :
    database.Rewrites command.executionId (fun ledger next => Move now ledger .nothing next)
      (database.accepting command now) :=
  @rewrites_enter _ (command.submitted now) _ _ rfl (Move.submit fresh command _)

/-- No effect is left without its execution. -/
def Database.EffectsOwned (database : Database) : Prop :=
  ∀ effect ∈ database.effects, (database.executions.find? effect.executionId).isSome

variable {database : Database}

theorem settled_of_fresh (owned : database.EffectsOwned)
    (fresh : database.executions.find? executionId = none) :
    (database.ledger executionId).effects = fun _ => none := by
  funext effectId
  cases present : (database.ledger executionId).effects effectId with
  | none => rfl
  | some effect =>
    obtain ⟨found, owner⟩ := Database.ledger_effects.mp present
    have row := owned effect (Table.mem_of_find? found)
    rw [owner, fresh] at row
    cases row

variable {reason : Identifier}

theorem cancelAccepted_enrols {start : Database} {session : Session} (owned : start.EffectsOwned)
    (fresh : start.executions.find? command.executionId = none)
    (named : command.executionId.managed = true →
      (start.managedExecutions.find? command.executionId).isSome) :
    Ensures (do
      let resultId ← KernelM.uuid
      let result ← lift (cancelledResult (command.submitted now) now reason resultId [])
      terminal (command.submitted now) result (.status .cancelled) now) environment
        ⟨start.accepting command now, session⟩
        fun _ next => Enrol may now start next.database ∧ start.SameRuns next.database := by
  refine then_check fun resultId drawn => then_lift fun result made => ?_
  obtain ⟨answers, cancelled, -⟩ := cancelledResult_ok made
  have accepted := @accepting_rewrites now _ _ fresh
  have found : (start.accepting command now).executions.find?
      (command.submitted now).executionId = some (command.submitted now) :=
    Table.find?_put_same start.executions (command.submitted now)
  have effects : ((start.accepting command now).ledger command.executionId).effects =
      (start.ledger command.executionId).effects := rfl
  rw [settled_of_fresh owned fresh] at effects
  have settled : ((start.accepting command now).ledger command.executionId).Settled := by
    intro effectId effect present
    rw [effects] at present
    cases present
  refine (@terminal_ensures _ ⟨start.accepting command now, drawn⟩ _ _ _ _ (fun ledger next => Move now ledger .nothing next ∧
      ∃ row, next.row = some row ∧ row.state = .cancelled) found answers.execution ?_).mono ?_
  · intro _ allowed results delivers
    refine ⟨?_, _, rfl, cancelled⟩
    have ordinary : ExecutionState.queued ≠ .recoveryRequired := by decide
    have finished := @Transit.finish now _ (command.submitted now) (.status .cancelled) _ _ rfl rfl ordinary allowed settled answers delivers
    exact Move.transit found finished rfl rfl _
  · rintro answer next (⟨unsettled, -, -⟩ | rewrites)
    · exact absurd settled unsettled
    · refine ⟨.refuse ((accepted.comp rewrites).mono ?_) named,
        accepted.sameRuns.trans rewrites.sameRuns⟩
      rintro before after ⟨middle, first, second, ended⟩
      exact ⟨⟨middle, first, second⟩, ended⟩

theorem submitBody_enrols (plain : command.executionId.managed = false) :
    Relates (Enrols may now) (submitBody command now) environment frame := by
  unfold submitBody
  refine then_read (then_require fun unregistered => ?_)
  refine ensures_bind (submitInTransaction_ensures (fun row => ?_) fun fresh => ?_)
  · exact ensures_lift fun _ _ => .refl
  · refine ensures_lift fun _ _ => .single (.submit ?_ (accepting_rewrites fresh) ?_)
    · intro member found
      rw [found] at unregistered
      cases unregistered
    · rw [plain]
      exact fun managed => nomatch managed

theorem cancelBeforeAcceptBody_enrols (owned : frame.database.EffectsOwned)
    (plain : command.executionId.managed = false) :
    Relates (Enrols may now) (cancelBeforeAcceptBody command reason now) environment frame := by
  unfold cancelBeforeAcceptBody
  refine then_read (then_require fun _ => ?_)
  refine ensures_bind (submitInTransaction_ensures (fun row => ?_) fun fresh => ?_)
  · exact ensures_ite (fun _ => ensures_lift fun _ _ => .refl) fun old => absurd rfl old
  · refine ensures_ite (fun new => absurd new true_eq_false_eq_False) fun _ => ?_
    refine (cancelAccepted_enrols owned fresh ?_).mono fun _ _ step => .single step.1
    rw [plain]
    exact fun managed => nomatch managed

theorem submitCancelled_enrols {accepted : KernelError} (owned : frame.database.EffectsOwned)
    (named : command.executionId.managed = true →
      (frame.database.managedExecutions.find? command.executionId).isSome) :
    Ensures (submitCancelled command reason now accepted) environment frame fun _ next =>
      Enrol may now frame.database next.database ∧ frame.database.SameRuns next.database := by
  unfold submitCancelled
  refine ensures_bind (submitInTransaction_ensures (fun row => ?_) fun fresh => ?_)
  · exact then_require fun new => absurd new false_ne_true
  · exact then_require fun _ => cancelAccepted_enrols owned fresh named

/-! ### Managed submission -/

/-- The tables after an execution is registered with a Run. -/
def Database.registering (database : Database) (executionId runId : Identifier)
    (generation : ℕ) : Database :=
  { database with
    managedExecutions := database.managedExecutions.put
      { executionId, runId, generation, drainAllowed := false } }

theorem Database.registering_registered (database : Database) (executionId runId : Identifier)
    (generation : ℕ) :
    ((database.registering executionId runId generation).managedExecutions.find?
      executionId).isSome := by
  unfold registering
  rw [Table.find?_put, if_pos rfl]
  rfl

variable {generation : ℕ} {parent : Option SupervisorParent}

variable {runId : Identifier}

theorem replayManaged_same {existing : ExecutionRow} :
    Ensures (replayManaged existing command runId generation parent) environment frame
      fun _ next => next.database = frame.database := by
  unfold replayManaged
  refine then_read (then_require fun _ => ?_)
  refine then_require fun _ => then_require fun _ => ?_
  exact ensures_lift fun _ _ => rfl

variable {control : RunControl}

theorem acceptPending_enrols {member : ManagedExecution}
    (controlled : frame.database.runControls.find? runId = some control)
    (registered : frame.database.managedExecutions.find? command.executionId = some member) :
    Relates (Enrols may now) (acceptPending member control command runId generation parent now) environment frame := by
  unfold acceptPending
  refine then_read (then_require fun pending => ?_)
  refine then_require fun current => then_require fun _ => ?_
  refine then_require fun _ => then_check fun _ _ => ?_
  refine then_check fun _ session => ?_
  refine ensures_bind (submitInTransaction_ensures (fun row => ?_) fun fresh => ?_)
  · exact then_require fun created => absurd created false_ne_true
  · refine then_require fun _ => ensures_lift fun _ _ => .single ?_
    refine .submit (fun other found => ?_) (accepting_rewrites fresh) fun _ => ?_
    · rw [registered, Option.some.injEq] at found
      rw [← found, pending.2.1]
      exact ⟨control, controlled, current.2⟩
    · show (frame.database.managedExecutions.find? command.executionId).isSome = true
      rw [registered]
      rfl

theorem bindChildLimits_enrols {parent : ExecutionRow} {presented : BudgetEnvelope} {depth : ℕ}
    (permits : frame.database.Permits parent.executionId now false)
    (allowed : may executionId parent.executionId) :
    Relates (Enrols may now) (bindChildLimits executionId parent presented depth) environment frame := by
  have bound : ∀ limits : ExecutionLimits, limits.executionId = executionId →
      limits.parent = some ⟨parent.executionId, parent.attempt, parent.fence⟩ →
      frame.database.Kin executionId parent.executionId → Enrols may now frame.database
        { frame.database with
          executionLimits := frame.database.executionLimits.put limits } := by
    intro limits named binding kin
    refine .single (@Enrol.bind _ _ _ executionId
      ⟨parent.executionId, parent.attempt, parent.fence⟩ _ permits allowed kin
      ⟨rfl, rfl, rfl, rfl, rfl, fun _ => rfl⟩ ⟨rfl, rfl, rfl, rfl, rfl, rfl⟩ ?_ ?_)
    · show ((frame.database.executionLimits.put limits).find? executionId).bind _ = _
      rw [← named, Table.find?_put_same]
      exact binding
    · intro name different
      show ((frame.database.executionLimits.put limits).find? name).bind _ = _
      rw [Table.find?_put_other _ (by rw [named]; exact different)]
      rfl
  unfold bindChildLimits
  refine then_check fun _ _ => then_check fun _ _ => ?_
  refine then_require fun _ => ensures_bind (ensures_ask ?_)
  refine then_check fun _ _ => then_lift fun _ _ => ?_
  refine then_read (then_expect fun _ _ => ?_)
  refine then_lift fun _ _ => then_require fun _ => ?_
  refine then_lift fun _ _ => then_lift fun _ acyclic => ?_
  cases stored : frame.database.executionLimits.find? executionId with
  | none =>
    have kin : frame.database.Kin executionId parent.executionId := by
      refine ⟨acyclic, fun binding bound => ?_⟩
      rw [Database.parentOf, stored] at bound
      cases bound
    refine then_lift fun _ _ => ensures_modify (bound _ rfl rfl kin)
  | some existing =>
    have named : existing.executionId = executionId := Table.key_of_find? stored
    refine then_require fun same => then_require fun _ => ?_
    have kin : frame.database.Kin executionId parent.executionId := by
      refine ⟨acyclic, fun binding bound => ?_⟩
      rw [Database.parentOf, stored] at bound
      exact same binding bound
    refine then_lift fun _ _ => then_lift fun _ _ => ?_
    exact then_lift fun _ _ => ensures_modify (bound _ named rfl kin)

theorem acceptNew_enrols (controlled : frame.database.runControls.find? runId = some control)
    (unregistered : frame.database.managedExecutions.find? command.executionId = none)
    (fresh : frame.database.executions.find? command.executionId = none)
    (allowed : ∀ presented ∈ parent, may command.executionId presented.lease.executionId) :
    Relates (Enrols may now) (acceptNew control command runId generation parent now) environment frame := by
  unfold acceptNew
  refine then_require fun _ => then_require fun _ => ?_
  refine then_require fun _ => then_require fun active => ?_
  refine then_check fun _ _ => then_check fun _ _ => ?_
  refine ensures_bind (ensures_modify ?_)
  have registered : Enrol may now frame.database
      (frame.database.registering command.executionId runId generation) :=
    .register fresh unregistered (by rw [controlled]; rfl)
  refine ensures_bind (submitInTransaction_ensures (fun row => ?_) fun _ => ?_)
  · exact then_require fun created => absurd created false_ne_true
  refine then_require fun _ => ?_
  have submitted : Enrol may now (frame.database.registering command.executionId runId generation)
      ((frame.database.registering command.executionId runId generation).accepting command
        now) := by
    refine .submit (fun member found => ?_) (accepting_rewrites fresh)
      fun _ => frame.database.registering_registered command.executionId runId generation
    have own : (frame.database.managedExecutions.put
        { executionId := command.executionId, runId, generation, drainAllowed := false }).find?
          command.executionId = some member := found
    rw [Table.find?_put, if_pos rfl, Option.some.injEq] at own
    rw [← own]
    exact ⟨control, controlled, active⟩
  have reached := (ReflTransGen.single registered).tail submitted
  refine ensures_bind ?_
  have bound : ∀ session, Ensures (acceptNew.bindParent command parent now) environment
      ⟨(frame.database.registering command.executionId runId generation).accepting command now,
        session⟩ fun _ next => Enrols may now frame.database next.database := by
    intro session
    unfold acceptNew.bindParent
    cases parent with
    | none => exact ensures_pure reached
    | some presented =>
      refine ensures_bind (assertLease_ensures fun row _ holds _ _ => ?_)
      refine ensures_bind (authorized fun permits drawn => then_read ?_)
      have named := allowed presented rfl
      rw [← holds.identity] at permits named
      exact (@bindChildLimits_enrols _ ⟨_, drawn⟩ _ _ _ _ _ _ permits named).mono
        fun _ _ more => reached.trans more
  refine (bound _).mono fun _ _ enrolled => ?_
  exact ensures_lift fun _ _ => enrolled

theorem submitManagedBody_enrols
    (allowed : ∀ presented ∈ parent, may command.executionId presented.lease.executionId) :
    Relates (Enrols may now) (submitManagedBody command runId generation parent now) environment frame := by
  unfold submitManagedBody
  refine then_read (then_expect fun control controlled => ?_)
  cases accepted : frame.database.accepted? command with
  | some existing =>
    refine replayManaged_same.mono fun _ next same => ?_
    rw [same]
  | none =>
    dsimp only
    cases registered : frame.database.managedExecutions.find? command.executionId with
    | some member => exact acceptPending_enrols controlled registered
    | none =>
      exact acceptNew_enrols controlled registered (Database.accepted?_none accepted).1 allowed

/-! ### Cancellation before acceptance -/

theorem cancelManagedBeforeAcceptBody_enrols (owned : frame.database.EffectsOwned) :
    Relates (Enrols may now) (cancelManagedBeforeAcceptBody command runId generation reason now) environment frame := by
  unfold cancelManagedBeforeAcceptBody
  refine then_read (then_expect fun control controlled => ?_)
  cases accepted : frame.database.accepted? command with
  | some existing =>
    refine replayManaged_same.mono fun _ next same => ?_
    rw [same]
  | none =>
    have fresh := (Database.accepted?_none accepted).1
    refine then_require fun unregistered => ?_
    refine then_require fun _ => then_require fun _ => ?_
    refine then_require fun _ => then_require fun _ => ?_
    refine then_check fun _ session => ensures_bind (ensures_modify ?_)
    have registered : Enrol may now frame.database
        (frame.database.registering command.executionId runId generation) :=
      .register fresh (isNone_iff_eq_none.mp unregistered) (by rw [controlled]; rfl)
    refine (@submitCancelled_enrols _
      ⟨frame.database.registering command.executionId runId generation, session⟩ _ may _ _ _ owned
      fun _ => frame.database.registering_registered command.executionId runId generation).mono ?_
    exact fun _ _ refused => (ReflTransGen.single registered).tail refused.1

variable {request : FencedCancellation}

theorem acceptFenced_enrols {fence : PauseReceipt} (owned : frame.database.EffectsOwned)
    (controlled : ∃ control, frame.database.runControls.find? request.runId = some control ∧
      control.controlEpoch = fence.controlEpoch)
    (unrecorded : frame.database.pauseReceipts.find? request.receiptOperationId = none) :
    Relates (Enrols may now) (acceptFenced command request fence now) environment frame := by
  obtain ⟨control, found, epoch⟩ := controlled
  unfold acceptFenced
  refine then_read (then_require fun absent => ?_)
  have fresh := (Database.accepted?_none (isNone_iff_eq_none.mp absent)).1
  have registered : Ensures (acceptFenced.bindMember command request) environment frame
      fun _ next => Enrols may now frame.database next.database ∧
        next.database.EffectsOwned ∧
        next.database.runControls = frame.database.runControls ∧
        next.database.pauseReceipts = frame.database.pauseReceipts ∧
        (next.database.managedExecutions.find? command.executionId).isSome := by
    unfold acceptFenced.bindMember
    refine then_read ?_
    cases unregistered : frame.database.managedExecutions.find? command.executionId with
    | some member =>
      refine ensures_require fun _ => ⟨.refl, owned, rfl, rfl, ?_⟩
      rw [unregistered]
      rfl
    | none =>
      refine then_require fun _ => ensures_modify ?_
      exact ⟨.single (.register fresh unregistered (by rw [found]; rfl)), owned, rfl, rfl,
        frame.database.registering_registered command.executionId request.runId request.generation⟩
  refine ensures_bind (registered.mono ?_)
  rintro _ middle ⟨reached, still, controls, receipts, bound⟩
  refine ensures_bind ((@submitCancelled_enrols _ middle _ may _ _ _ still fun _ => bound).mono ?_)
  rintro _ refused ⟨step, same⟩
  unfold insertPauseReceipt
  refine ensures_bind (ensures_bind (ensures_ask (then_require fun _ => ?_)))
  refine ensures_modify (ensures_pure ((reached.tail step).tail (.attest ?_ ⟨rfl, rfl, rfl⟩ ?_)))
  · rw [same.pauseReceipts, receipts]
    exact unrecorded
  · refine ⟨control, ?_, Nat.le_of_eq epoch.symm⟩
    rw [same.runControls, controls]
    exact found

theorem cancelFencedBeforeAcceptBody_enrols (owned : frame.database.EffectsOwned) :
    Relates (Enrols may now) (cancelFencedBeforeAcceptBody command request now) environment frame := by
  unfold cancelFencedBeforeAcceptBody
  refine ensures_bind (ensures_ask (then_check fun _ session => ?_))
  refine then_read (then_expect fun fence _ => ?_)
  refine then_require fun current => ?_
  obtain ⟨-, -, -, -, control, found, -, epoch, -⟩ := current
  refine ensures_bind ?_
  have recorded : Ensures (cancelFencedBeforeAcceptBody.record command request now fence)
      environment ⟨frame.database, session⟩
        fun _ next => Enrols may now frame.database next.database := by
    unfold cancelFencedBeforeAcceptBody.record
    refine then_read ?_
    cases unrecorded : frame.database.pauseReceipts.find? request.receiptOperationId with
    | some receipt =>
      unfold replayFenced
      exact then_read (then_require fun _ =>
        ensures_pure .refl)
    | none => exact acceptFenced_enrols owned ⟨control, found, epoch⟩ unrecorded
  refine recorded.mono fun _ _ enrolled => ?_
  exact then_check fun _ _ => ensures_pure enrolled

/-! ### Children -/

theorem Database.Permits.registering {parentId : Identifier} {drains : Bool}
    (different : parentId ≠ executionId) (permits : database.Permits parentId now drains) :
    (database.registering executionId runId generation).Permits parentId now drains := by
  have kept : (database.registering executionId runId generation).managedExecutions.find?
      parentId = database.managedExecutions.find? parentId :=
    Table.find?_put_other _ different
  intro member found
  rw [kept] at found
  obtain ⟨control, stored, unexpired, barrier, admitted⟩ := permits member found
  refine ⟨control, stored, unexpired, fun unresolved => ?_, admitted⟩
  have allowed := barrier unresolved
  simp only [drainBarrierAllows, kept] at allowed ⊢
  exact allowed

/-- The tables in which a child is submitted: it belongs to the Run of its parent, which still has
the permission of its Run. -/
structure ChildMember (may : Identifier → Identifier → Prop) (now : Timestamp) (start : Database) (parentId : Identifier)
    (command : ExecutionCommand) (next : Database) : Prop where
  reached : Enrols may now start next
  permits : next.Permits parentId now false
  active : ∀ member, next.managedExecutions.find? command.executionId = some member →
    ∃ control, next.runControls.find? member.runId = some control ∧ control.state = .active
  named : command.executionId.managed = true →
    (next.managedExecutions.find? command.executionId).isSome

theorem bindChildMember_ensures {parentId : Identifier}
    (permits : frame.database.Permits parentId now false) :
    Ensures (bindChildMember (frame.database.managedExecutions.find? parentId) command)
      environment frame
        fun _ next => ChildMember may now frame.database parentId command next.database := by
  unfold bindChildMember
  refine then_read ?_
  cases managed : frame.database.managedExecutions.find? parentId with
  | none =>
    refine ensures_require fun alone => ⟨.refl, permits, fun member found => ?_, fun named => ?_⟩
    · rw [isNone_iff_eq_none.mp alone.2] at found
      cases found
    · rw [alone.1] at named
      cases named
  | some parent =>
    obtain ⟨control, controlled, -, -, admitted⟩ := permits parent managed
    have active : control.state = .active := by
      rcases admitted with ⟨active, -⟩ | ⟨drains, -⟩
      · exact active
      · cases drains
    refine then_check fun _ _ => then_require fun _ => ?_
    cases registered : frame.database.managedExecutions.find? command.executionId with
    | some child =>
      refine ensures_require fun same => ⟨.refl, permits, fun member found => ?_, fun _ => ?_⟩
      · rw [registered, Option.some.injEq] at found
        rw [← found, same.1]
        exact ⟨control, controlled, active⟩
      · rw [registered]
        rfl
    | none =>
      refine then_require fun absent => ensures_modify ?_
      have fresh := (Database.accepted?_none (isNone_iff_eq_none.mp absent)).1
      have different : parentId ≠ command.executionId := by
        rintro rfl
        rw [managed] at registered
        cases registered
      refine ⟨.single (.register fresh registered (by rw [controlled]; rfl)),
        permits.registering different, fun member found => ?_,
        fun _ => frame.database.registering_registered command.executionId parent.runId
          parent.generation⟩
      have own : (frame.database.managedExecutions.put
          { executionId := command.executionId, runId := parent.runId
            generation := parent.generation, drainAllowed := false }).find?
              command.executionId = some member := found
      rw [Table.find?_put, if_pos rfl, Option.some.injEq] at own
      rw [← own]
      exact ⟨control, controlled, active⟩

variable {parentLease : ExecutionLease} {envelope : BudgetEnvelope}

theorem submitChildBody_enrols (allowed : may command.executionId parentLease.executionId) :
    Relates (Enrols may now) (submitChildBody command parentLease envelope now) environment frame := by
  unfold submitChildBody
  refine ensures_bind (assertLease_ensures fun parent _ holds _ _ => ?_)
  rw [← holds.identity] at allowed
  refine ensures_bind (authorized fun permits session => then_read ?_)
  refine ensures_bind ((@bindChildMember_ensures _ ⟨frame.database, session⟩ _ may _ _
    permits).mono fun _ middle child => ?_)
  have bound : ∀ {row : ExecutionRow} {current : Frame} {depth : ℕ},
      Enrols may now frame.database current.database →
      current.database.Permits parentLease.executionId now false →
      Ensures (do
        KernelM.probe (checkChildAuthority
          (frame.database.managedExecutions.find? parentLease.executionId) command.executionId now)
        bindChildLimits command.executionId parent envelope depth
        snapshot row) environment current
          fun _ next => Enrols may now frame.database next.database := by
    intro row current depth reached permitted
    rw [← holds.identity] at permitted
    refine then_check fun _ drawn => ?_
    refine ensures_bind ((@bindChildLimits_enrols _ ⟨current.database, drawn⟩ _ _ _ _ _ _
      permitted allowed).mono fun _ _ more => ?_)
    exact ensures_lift fun _ _ => reached.trans more
  refine ensures_bind (submitInTransaction_ensures (fun row => ?_) fun fresh => ?_)
  · exact bound child.reached child.permits
  · have accepted := @accepting_rewrites now _ _ fresh
    exact bound (child.reached.tail (.submit child.active accepted child.named))
      (child.permits.sameRuns accepted.sameRuns)

theorem adoptChildBody_enrols (allowed : may executionId parentLease.executionId) :
    Relates (Enrols may now) (adoptChildBody executionId parentLease envelope now) environment frame := by
  unfold adoptChildBody
  refine ensures_bind (assertLease_ensures fun parent _ holds _ _ => ?_)
  refine ensures_bind (authorized fun permits session => ?_)
  rw [← holds.identity] at permits allowed
  refine ensures_bind (getRow_ensures fun target _ => then_require fun _ => ?_)
  refine then_read (then_require fun _ => ?_)
  refine ensures_bind ((@bindChildLimits_enrols _ ⟨frame.database, session⟩ _ _ _ _ _ _
    permits allowed).mono fun _ _ enrolled => ?_)
  exact ensures_lift fun _ _ => enrolled

end DispatcherSdk.ExecutionKernel
