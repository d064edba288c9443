/-
This file proves that a lease which is not the current one of its execution, or which has
expired, is good for nothing, where unfinished effects are, and how often the authority to
perform an effect is granted.

A row never returns to an earlier revision, and the revision is part of the lease. An effect
whose outcome is open belongs to a running execution and to the very lease that it runs under;
whatever ends that lease has to make the effect's outcome uncertain first.
-/

import DispatcherSdk.ExecutionKernel.Results

namespace DispatcherSdk.ExecutionKernel

open Library Library.Attempt Relation

/-! ### Refusals -/

/-- The operation fails, and the tables are as they were. -/
def Refuses {Answer : Type} (outcome : Except KernelError Answer × KernelState)
    (state : KernelState) : Prop :=
  (∃ failure, outcome.1 = .error failure) ∧ outcome.2.database = state.database

/-- In a store the lease is the current one of a live execution, and a time is before its expiry. -/
def Database.Accepts (database : Database) (lease : ExecutionLease) (now : Timestamp) : Prop :=
  ∃ row, database.executions.find? lease.executionId = some row ∧ row.Holds lease ∧
    row.state.terminal = false ∧ now < lease.expiresAt

/-- The lease is refused at every time that an operation may observe. -/
def KernelState.Rejects (state : KernelState) (environment : Environment)
    (lease : ExecutionLease) : Prop :=
  ∀ wall, environment.wallTime 0 = some wall →
    ¬ state.database.Accepts lease (max state.watermark wall)

section Refusal

variable {Answer : Type} {environment : Environment} {state : KernelState}
  {lease : ExecutionLease}

theorem assertLease_refuses {frame : Frame} {now : Timestamp} {states : List ExecutionState}
    {rest : ExecutionRow → KernelM Answer} (rejected : ¬ frame.database.Accepts lease now)
    (live : ∀ state ∈ states, state.terminal = false) :
    Ensures (assertLease lease now states >>= rest) environment frame fun _ _ => False := by
  refine ensures_bind (assertLease_ensures fun row found holds member unexpired => ?_)
  rcases unexpired with settled | unexpired
  · cases settled
  · exact absurd ⟨row, found, holds, live row.state member, unexpired⟩ rejected

theorem transaction_rejects {states : List ExecutionState}
    {rest : Timestamp → ExecutionRow → KernelM Answer} (rejects : state.Rejects environment lease)
    (live : ∀ state ∈ states, state.terminal = false) :
    Refuses (transaction (fun now => assertLease lease now states >>= rest now) environment state)
      state :=
  transaction_refuses fun wall observed _ =>
    @assertLease_refuses _ _ _ ⟨state.database, _⟩ _ _ _ (rejects wall observed) live

theorem raiseRecovery_refuses {outcome : Except KernelError EffectAnswer × KernelState}
    (refused : Refuses outcome state) : Refuses (raiseRecovery outcome) state := by
  obtain ⟨⟨failure, failed⟩, same⟩ := refused
  obtain ⟨answer, next⟩ := outcome
  cases failed
  exact ⟨⟨failure, rfl⟩, same⟩

/-- The result is exactly the one that is stored for an execution that has ended. -/
def Database.Replays (database : Database) (lease : ExecutionLease) (result : ExecutionResult) :
    Prop :=
  ∃ row, database.executions.find? lease.executionId = some row ∧ row.state.terminal = true ∧
    row.result.map ExecutionResult.toJson = some result.toJson

theorem complete_refuses {result : ExecutionResult} {options : CompletionOptions}
    (rejects : state.Rejects environment lease) (unsettled : options.settlement = false)
    (plain : options.reconciliation = none) (new : ¬ state.database.Replays lease result) :
    Refuses (complete lease result options environment state) state := by
  refine transaction_refuses fun wall observed session => ?_
  unfold completeResultBody
  rw [plain]
  dsimp only
  unfold completeRow
  refine ensures_bind (getRow_ensures fun row found => ?_)
  refine ensures_ite (fun ended => ?_) (fun _ => ?_)
  · unfold replayCompletion
    refine then_require fun _ => then_require fun same => ?_
    exact absurd ⟨row, found, ended, same⟩ new
  · unfold completeLive
    rw [unsettled]
    refine assertLease_refuses (rejects wall observed) fun state member => ?_
    rw [List.mem_singleton.mp member]
    rfl

end Refusal

/-! ### A lease that is lost is lost for good -/

/-- The lease is the current one of its execution. -/
def KernelState.Holds (state : KernelState) (lease : ExecutionLease) : Prop :=
  ∃ row, state.database.executions.find? lease.executionId = some row ∧ row.Holds lease

variable {row : ExecutionRow}

theorem Move.revises {now : Timestamp} {ledger after : Ledger} {need : Need}
    (move : Move now ledger need after) (stored : ledger.row = some row) :
    ∃ next, after.row = some next ∧ (next = row ∨ row.revision < next.revision) := by
  cases move with
  | submit fresh =>
    cases stored.symm.trans fresh
  | transit found transit =>
    cases stored.symm.trans found
    exact ⟨_, rfl, Or.inr (by rw [transit.succeeds.revision]; exact Nat.lt_succ_self _)⟩
  | perform => exact ⟨row, stored, Or.inl rfl⟩
  | resolve found pointed known uncertain recorded transit =>
    cases stored.symm.trans found
    exact ⟨_, rfl, Or.inr (by rw [transit.succeeds.revision]; exact Nat.lt_succ_self _)⟩

theorem row_revises {state last : KernelState} (reachable : kernel.Reachable state)
    (run : kernel.Run state last) {executionId : Identifier}
    (stored : state.database.executions.find? executionId = some row) :
    ∃ next, last.database.executions.find? executionId = some next ∧
      (next = row ∨ row.revision < next.revision) := by
  refine formed_kept.respects (fun before after => ∀ row, before.row = some row →
      ∃ next, after.row = some next ∧ (next = row ∨ row.revision < next.revision))
    (fun _ row stored => ⟨row, stored, Or.inl rfl⟩) ?_ ?_ reachable run executionId row stored
  · intro first second third left right row stored
    obtain ⟨next, reached, forward⟩ := left row stored
    obtain ⟨last, finally_, onward⟩ := right next reached
    refine ⟨last, finally_, ?_⟩
    rcases forward with rfl | forward
    · exact onward
    · rcases onward with rfl | onward
      · exact .inr forward
      · exact .inr (forward.trans onward)
  · intro now ledger need after _ move row stored
    exact move.revises stored

theorem lease_lost {first middle last : KernelState} (reachable : kernel.Reachable first)
    (earlier : kernel.Run first middle) (later : kernel.Run middle last)
    {lease : ExecutionLease} (held : first.Holds lease) (lost : ¬ middle.Holds lease) :
    ¬ last.Holds lease := by
  obtain ⟨row, stored, holds⟩ := held
  obtain ⟨next, reached, forward⟩ := row_revises reachable earlier stored
  obtain ⟨final, finally_, onward⟩ := row_revises (reachable.run earlier) later reached
  have passed : lease.revision < next.revision := by
    rcases forward with rfl | forward
    · exact absurd ⟨next, reached, holds⟩ lost
    · rw [← holds.revision]
      exact forward
  rintro ⟨other, again, still⟩
  cases finally_.symm.trans again
  have same := still.revision
  rcases onward with rfl | onward <;> omega

theorem lease_unique {state : KernelState} {lease other : ExecutionLease}
    (held : state.Holds lease) (again : state.Holds other)
    (same : other.executionId = lease.executionId) : other = lease := by
  obtain ⟨row, stored, holds⟩ := held
  obtain ⟨next, found, holding⟩ := again
  rw [same, stored, Option.some.injEq] at found
  subst found
  have columns := holds.columns.symm.trans holding.columns
  simp only [Option.some.injEq, LeaseColumns.mk.injEq] at columns
  obtain ⟨leaseId, owner, expiresAt⟩ := columns
  have revision := holds.revision.symm.trans holding.revision
  have attempt := holds.attempt.symm.trans holding.attempt
  have fence := holds.fence.symm.trans holding.fence
  cases lease
  cases other
  simp only at same leaseId owner expiresAt revision attempt fence
  subst same leaseId owner expiresAt revision attempt fence
  rfl

/-! ### Every operation under a lease -/

/-- Whatever is asked for under a lease that is not the current one, or has expired, fails and
changes no table, but for the replay of a stored result; there is one current lease at most, and one
that was current once and is not any more is never current again. -/
theorem stale_leases_refused {state : KernelState} (reachable : kernel.Reachable state)
    (environment : Environment) (lease : ExecutionLease) :
    (state.Rejects environment lease →
      Refuses (start lease environment state) state ∧
      (∀ seconds, Refuses (renew lease seconds environment state) state) ∧
      Refuses (verify lease environment state) state ∧
      (∀ error, Refuses (deadLetter lease error environment state) state) ∧
      (∀ effectId name request,
        Refuses (prepareEffect lease effectId name request environment state) state) ∧
      (∀ effectId, Refuses (claimEffect lease effectId environment state) state) ∧
      (∀ effectId response claimId,
        Refuses (commitEffect effectId response lease claimId environment state) state) ∧
      (∀ effectId details claimId,
        Refuses (markEffectIndeterminate effectId details lease claimId environment state) state) ∧
      (∀ effectId, Refuses (requireEffectRecovery lease effectId false environment state) state) ∧
      (∀ eventId, Refuses (confirmProgress lease eventId environment state) state) ∧
      ∀ result options, options.settlement = false → options.reconciliation = none →
        ¬ state.database.Replays lease result →
          Refuses (complete lease result options environment state) state) ∧
    (∀ other, state.Holds lease → state.Holds other → other.executionId = lease.executionId →
      other = lease) ∧
    ∀ middle last, kernel.Run state middle → kernel.Run middle last → state.Holds lease →
      ¬ middle.Holds lease → ¬ last.Holds lease := by
  have running : ∀ state ∈ [ExecutionState.running], state.terminal = false := by decide
  have held : ∀ state ∈ [ExecutionState.leased, .running], state.terminal = false := by decide
  refine ⟨fun rejects => ⟨?_, ?_, ?_, ?_, ?_, ?_, ?_, ?_, ?_, ?_, ?_⟩,
    fun _ => lease_unique, fun _ _ earlier later => lease_lost reachable earlier later⟩
  · exact transaction_rejects rejects (by decide)
  · intro seconds
    unfold renew
    split
    · exact ⟨⟨_, rfl⟩, rfl⟩
    · refine transaction_refuses fun wall observed _ => ?_
      exact ensures_bind (ensures_ask (assertLease_refuses (rejects wall observed) held))
  · exact transaction_rejects rejects held
  · intro error
    unfold deadLetter
    split
    · exact ⟨⟨_, rfl⟩, rfl⟩
    · exact transaction_rejects rejects held
  · exact fun effectId name request =>
      raiseRecovery_refuses (transaction_rejects rejects running)
  · exact fun effectId => transaction_rejects rejects running
  · refine fun effectId response claimId => transaction_refuses fun wall observed _ => ?_
    exact ensures_bind ((assertLease_refuses (rejects wall observed) running).mono
      fun _ _ impossible => impossible.elim)
  · refine fun effectId details claimId => transaction_refuses fun wall observed _ => ?_
    exact ensures_bind ((assertLease_refuses (rejects wall observed) running).mono
      fun _ _ impossible => impossible.elim)
  · exact fun effectId => transaction_rejects rejects running
  · intro eventId
    unfold confirmProgress
    split
    · exact ⟨⟨_, rfl⟩, rfl⟩
    · exact transaction_rejects rejects running
  · exact fun result options unsettled plain new => complete_refuses rejects unsettled plain new

/-- In the store of the example the lease that the claim granted is refused after the start. -/
theorem stale_leases_sample : Refuses (claimEffect (sampleLease 2 (by decide)) sampleName
    (sampleEnvironment 0) samplePerformed) samplePerformed := by
  have revised : (samplePerformed.database.executions.find? sampleName).map (·.revision) =
      some 3 := by
    decide +kernel
  have rejects : samplePerformed.Rejects (sampleEnvironment 0) (sampleLease 2 (by decide)) := by
    rintro wall _ ⟨row, stored, holds, -⟩
    have stored : samplePerformed.database.executions.find? sampleName = some row := stored
    have revision : row.revision = 2 := holds.revision
    rw [stored, Option.map_some, revision] at revised
    cases revised
  obtain ⟨-, -, -, -, -, claim, -⟩ := (stale_leases_refused
    (reachable_after sampleName samplePerforming) (sampleEnvironment 0)
    (sampleLease 2 (by decide))).1 rejects
  exact claim sampleName

open List

/-! ### Where unfinished effects are -/

theorem EffectState.unfinished_of_open {state : EffectState} (opened : state.open_ = true) :
    state.unfinished = true := by
  cases state <;> simp_all [open_, unfinished]

theorem RecoveryDecision.closed (decision : RecoveryDecision) :
    decision.effectState.open_ = false := by
  cases decision <;> rfl

/-- The unfinished effects of an execution are where its state says. -/
structure Ledger.Located (ledger : Ledger) (row : ExecutionRow) : Prop where
  settled : row.state ≠ .running → row.state ≠ .recoveryRequired → ledger.Settled
  parked : row.state = .recoveryRequired → ¬ ledger.OwnsOpen ∧
    ∃ pointer, row.recoveryEffectId = some pointer ∧ ledger.Uncertain pointer
  guarded : ∀ effectId effect, ledger.effects effectId = some effect →
    effect.state.open_ = true → row.state = .running ∧ effect.attempt = row.attempt ∧
      effect.fence = row.fence ∧ ∃ columns, row.lease = some columns ∧
        columns.leaseId = effect.leaseId

variable {ledger : Ledger}

theorem Ledger.Located.of_settled
    (settled : ledger.Settled) (ordinary : row.state ≠ .recoveryRequired) :
    ledger.Located row where
  settled _ _ := settled
  parked parked := absurd parked ordinary
  guarded effectId effect found opened := by
    have finished := settled effectId effect found
    rw [EffectState.unfinished_of_open opened] at finished
    cases finished

theorem Ledger.Located.of_parked {pointer : Identifier} (closed : ¬ ledger.OwnsOpen)
    (uncertain : ledger.Uncertain pointer) (parked : row.state = .recoveryRequired)
    (pointed : row.recoveryEffectId = some pointer) :
    ledger.Located row where
  settled _ ordinary := absurd parked ordinary
  parked _ := ⟨closed, pointer, pointed, uncertain⟩
  guarded effectId effect found opened := absurd ⟨effectId, effect, found, opened⟩ closed

theorem Ledger.settled_of_certain (closed : ¬ ledger.OwnsOpen)
    (certain : ∀ effectId, ¬ ledger.Uncertain effectId) : ledger.Settled := by
  intro effectId effect found
  cases state : effect.state with
  | prepared => exact absurd ⟨effectId, effect, found, by rw [state]; rfl⟩ closed
  | performing => exact absurd ⟨effectId, effect, found, by rw [state]; rfl⟩ closed
  | indeterminate => exact absurd ⟨effect, found, state⟩ (certain effectId)
  | committed | notApplied => rfl

variable {now : Timestamp}

theorem Transit.located {after : Ledger} {next : ExecutionRow} {eventType : EventType}
    {results : List ExecutionResult} (transit : Transit now ledger row eventType next results)
    (closed : row.state = .recoveryRequired → ¬ ledger.OwnsOpen)
    (located : eventType.disposes = false → ledger.Located row)
    (same : after.effects = ledger.effects) : after.Located next := by
  have settles : ledger.Settled → after.Settled := fun settled effectId effect found =>
    settled effectId effect (by rw [← same]; exact found)
  have opens : ¬ ledger.OwnsOpen → ¬ after.OwnsOpen := by
    rintro shut ⟨effectId, effect, found, opened⟩
    exact shut ⟨effectId, effect, by rw [← same]; exact found, opened⟩
  have doubts : ∀ {pointer}, ledger.Uncertain pointer → after.Uncertain pointer := by
    rintro pointer ⟨effect, found, uncertain⟩
    exact ⟨effect, by rw [same]; exact found, uncertain⟩
  have ended : ∀ result : ExecutionResult, result.status ≠ .recoveryRequired := fun result =>
    (ExecutionState.terminal_settled result.status_terminal).1
  cases transit with
  | lease queued =>
    have settled := (located rfl).settled (by rw [queued]; decide) (by rw [queued]; decide)
    exact .of_settled (settles settled) nofun
  | start leased =>
    have settled := (located rfl).settled (by rw [leased]; decide) (by rw [leased]; decide)
    exact .of_settled (settles settled) nofun
  | renew held =>
    have before := located rfl
    refine ⟨fun stopped ordinary => settles (before.settled stopped ordinary), ?_, ?_⟩
    · intro parked
      exact absurd parked (ExecutionState.held_live held).2
    · intro effectId effect found opened
      rw [same] at found
      obtain ⟨running, attempt, fence, columns, stored, named⟩ :=
        before.guarded effectId effect found opened
      exact ⟨running, attempt, fence, _, congrArg (Option.map _) stored, named⟩
  | requeue redelivery held spare settled => exact .of_settled (settles settled) nofun
  | finish ending alone ordinary allowed settled =>
    exact .of_settled (settles settled) (ended _)
  | park parking ordinary allowed shut uncertain =>
    exact .of_parked (opens shut) (doubts uncertain) rfl rfl
  | repark correcting parked uncertain =>
    exact .of_parked (opens (closed parked)) (doubts uncertain) parked rfl
  | next parked uncertain =>
    exact .of_parked (opens (closed parked)) (doubts uncertain) parked rfl
  | cancel parked wanted reasoned cancelled explained settled =>
    exact .of_settled (settles settled) (ended _)
  | resume parked certain =>
    exact .of_settled (settles (Ledger.settled_of_certain (closed parked) certain)) nofun

variable {event : EffectEventRow}

variable {effect : EffectRow}

theorem Ledger.record_effects (effectId : Identifier) :
    (ledger.record effect event).effects effectId =
      if effectId = effect.effectId then some effect else ledger.effects effectId := by
  show Function.update ledger.effects effect.effectId (some effect) effectId = _
  rw [Function.update_apply]

theorem Ledger.record_closed (closed : ¬ ledger.OwnsOpen) (shut : effect.state.open_ = false) :
    ¬ (ledger.record effect event).OwnsOpen := by
  rintro ⟨effectId, other, found, opened⟩
  rw [record_effects] at found
  by_cases same : effectId = effect.effectId
  · rw [if_pos same, Option.some.injEq] at found
    rw [← found, shut] at opened
    cases opened
  · rw [if_neg same] at found
    exact closed ⟨effectId, other, found, opened⟩

theorem Ledger.Located.record (located : ledger.Located row) (running : row.state = .running)
    (guarded : effect.state.open_ = true → effect.attempt = row.attempt ∧
      effect.fence = row.fence ∧ ∃ columns, row.lease = some columns ∧
        columns.leaseId = effect.leaseId) :
    (ledger.record effect event).Located row where
  settled stopped := absurd running stopped
  parked parked := by
    rw [running] at parked
    cases parked
  guarded effectId other found opened := by
    rw [record_effects] at found
    by_cases same : effectId = effect.effectId
    · rw [if_pos same, Option.some.injEq] at found
      subst found
      exact ⟨running, guarded opened⟩
    · rw [if_neg same] at found
      exact located.guarded effectId other found opened

variable {eventType : EffectEventType} {before : Option EffectRow}

variable {after : EffectRow}

theorem Perform.located (perform : Perform now ledger row eventType before after)
    (found : ∀ effect ∈ before, ledger.effects effect.effectId = some effect)
    (located : ledger.Located row) : (ledger.record after event).Located row := by
  have own : ∀ {effect : EffectRow}, before = some effect → effect.state.open_ = true →
      row.state = .running ∧ effect.attempt = row.attempt ∧ effect.fence = row.fence ∧
        ∃ columns, row.lease = some columns ∧ columns.leaseId = effect.leaseId := by
    rintro effect rfl opened
    exact located.guarded effect.effectId effect (found effect rfl) opened
  cases perform with
  | prepare running holds fresh =>
    exact located.record running fun _ =>
      ⟨holds.attempt.symm, holds.fence.symm, _, holds.columns, rfl⟩
  | reprepare running holds decided =>
    exact located.record running fun _ =>
      ⟨holds.attempt.symm, holds.fence.symm, _, holds.columns, rfl⟩
  | claim prepared claimId =>
    obtain ⟨running, guarded⟩ := own rfl (by rw [prepared]; rfl)
    exact located.record running fun _ => guarded
  | commit performing response =>
    obtain ⟨running, guarded⟩ := own rfl (by rw [performing]; rfl)
    exact located.record running fun _ => guarded
  | mark performing details =>
    obtain ⟨running, guarded⟩ := own rfl (by rw [performing]; rfl)
    exact located.record running fun _ => guarded
  | park parking opened trigger =>
    obtain ⟨running, guarded⟩ := own rfl opened
    exact located.record running fun _ => guarded

theorem located_kept : Kept fun _ row ledger => ledger.Located row where
  later located _ := located
  submitted now command data := .of_settled (fun _ _ found => nomatch found) nofun
  moved := by
    intro now row next ledger need after stored located move reached
    cases move with
    | submit fresh =>
      rw [stored] at fresh
      cases fresh
    | transit found transit alone =>
      rw [stored, Option.some.injEq] at found
      cases reached
      subst found
      exact transit.located (fun parked => (located.parked parked).1) (fun _ => located) rfl
    | perform known found perform =>
      have same : ledger.row = some next := reached
      rw [known, Option.some.injEq] at same
      rw [stored, Option.some.injEq] at known
      subst known same
      exact perform.located found located
    | resolve found pointed kept uncertain recorded transit disposing =>
      rw [stored, Option.some.injEq] at found
      cases reached
      subst found
      refine transit.located (fun parked => ?_) (fun alone => ?_) rfl
      · rw [recorded]
        exact Ledger.record_closed (located.parked parked).1 (RecoveryDecision.closed _)
      · rw [disposing] at alone
        cases alone

/-! ### The authority to perform an effect -/

/-- The event grants the authority to perform its effect. -/
def EffectEventRow.grants (event : EffectEventRow) : Bool := event.eventType = .performClaimed

/-- The event records the decision that its effect was not applied. -/
def EffectEventRow.refutes (event : EffectEventRow) : Bool :=
  event.eventType = .recovery .notApplied

/-- What happened to one effect of the execution. -/
def Ledger.effectHistory (ledger : Ledger) (effectId : Identifier) : List EffectEventRow :=
  ledger.effectEvents.filter fun event => event.effectId = effectId

/-- Every grant of the authority to perform an effect is the first one or follows a decision that
the effect was not applied. -/
structure Ledger.Authorized (ledger : Ledger) : Prop where
  unused : ∀ effectId, ledger.effects effectId = none → ledger.effectHistory effectId = []
  licensed : ∀ effectId,
    Licensed EffectEventRow.grants EffectEventRow.refutes (ledger.effectHistory effectId)
  spare : ∀ effectId effect, ledger.effects effectId = some effect →
    effect.state = .prepared ∨ effect.state = .notApplied →
      holdsLicence EffectEventRow.grants EffectEventRow.refutes
        (ledger.effectHistory effectId) = true

theorem Ledger.record_history (effectId : Identifier) :
    (ledger.record effect event).effectHistory effectId =
      if effectId = event.effectId then ledger.effectHistory effectId ++ [event]
      else ledger.effectHistory effectId := by
  unfold effectHistory record
  rw [filter_append]
  by_cases same : effectId = event.effectId
  · rw [if_pos same, same]
    simp
  · rw [if_neg same]
    simp [Ne.symm same]

/-- Recording a new state of an effect keeps the order of grants, if a grant is made while there is
one to make and the new state leaves one only if there is. -/
theorem Ledger.Authorized.record
    (authorized : ledger.Authorized) (same : event.effectId = effect.effectId)
    (allowed : event.grants = true →
      holdsLicence EffectEventRow.grants EffectEventRow.refutes
        (ledger.effectHistory effect.effectId) = true)
    (spare : effect.state = .prepared ∨ effect.state = .notApplied →
      holdsLicence EffectEventRow.grants EffectEventRow.refutes
        (ledger.effectHistory effect.effectId ++ [event]) = true) :
    (ledger.record effect event).Authorized where
  unused effectId missing := by
    rw [record_effects] at missing
    by_cases own : effectId = effect.effectId
    · rw [if_pos own] at missing
      cases missing
    · rw [if_neg own] at missing
      rw [record_history, same, if_neg own]
      exact authorized.unused effectId missing
  licensed effectId := by
    rw [record_history, same]
    by_cases own : effectId = effect.effectId
    · rw [if_pos own, own]
      exact (authorized.licensed effect.effectId).concat allowed
    · rw [if_neg own]
      exact authorized.licensed effectId
  spare effectId other found waiting := by
    rw [record_effects] at found
    rw [record_history, same]
    by_cases own : effectId = effect.effectId
    · rw [if_pos own, Option.some.injEq] at found
      subst found
      rw [if_pos own, own]
      exact spare waiting
    · rw [if_neg own] at found
      rw [if_neg own]
      exact authorized.spare effectId other found waiting

theorem Perform.authorized {fromState : Option EffectState} {data : List (String × Json)}
    (perform : Perform now ledger row eventType before after)
    (found : ∀ effect ∈ before, ledger.effects effect.effectId = some effect)
    (authorized : ledger.Authorized) :
    (ledger.record after (effectEvent after eventType fromState data now)).Authorized := by
  cases perform with
  | prepare running holds fresh =>
    refine authorized.record rfl nofun fun _ => holdsLicence_keep ?_ rfl
    exact authorized.unused _ fresh ▸ rfl
  | @reprepare _ effect running holds decided =>
    refine authorized.record rfl nofun fun _ => holdsLicence_keep ?_ rfl
    exact authorized.spare effect.effectId effect (found effect rfl) (.inr decided)
  | @claim effect prepared claimId =>
    refine authorized.record rfl (fun _ => ?_) fun waiting => waiting.elim nofun nofun
    exact authorized.spare effect.effectId effect (found effect rfl) (.inl prepared)
  | commit performing response =>
    exact authorized.record rfl nofun fun waiting => waiting.elim nofun nofun
  | mark performing details =>
    exact authorized.record rfl nofun fun waiting => waiting.elim nofun nofun
  | park parking opened trigger =>
    refine authorized.record rfl (fun granted => ?_) fun waiting => waiting.elim nofun nofun
    unfold EffectEventRow.grants at granted
    rw [show (effectEvent _ eventType fromState data now).eventType = eventType from rfl,
      decide_eq_true_eq] at granted
    rw [granted] at parking
    cases parking

theorem authorized_kept : Kept fun _ _ ledger => ledger.Authorized where
  later authorized _ := authorized
  submitted now command data :=
    { unused := fun _ _ => rfl
      licensed := fun _ => .nil
      spare := fun _ _ found => nomatch found }
  moved := by
    intro now row next ledger need after stored authorized move reached
    have transits : ∀ {ledger : Ledger} {row event results}, ledger.Authorized →
        (ledger.enter row event results).Authorized := fun authorized =>
      ⟨authorized.unused, authorized.licensed, authorized.spare⟩
    cases move with
    | submit => exact transits authorized
    | transit => exact transits authorized
    | perform known found perform => exact perform.authorized found authorized
    | @resolve _ _ effect decision response recoveryId _ _ _ _ _ _ _ recorded =>
      refine transits ?_
      rw [recorded]
      refine authorized.record rfl nofun fun waiting => ?_
      cases decision with
      | applied => exact waiting.elim nofun nofun
      | notApplied => exact holdsLicence_return rfl rfl

/-! ### Committed effects -/

theorem Perform.uncommitted (perform : Perform now ledger row eventType before after)
    (known : ∀ effect ∈ before, ledger.effects effect.effectId = some effect)
    (found : ledger.effects after.effectId = some effect) : effect.state ≠ .committed := by
  have source : ∀ {other : EffectRow}, before = some other →
      other.effectId = after.effectId → other = effect := by
    rintro other rfl same
    have stored := known other rfl
    rw [same, found, Option.some.injEq] at stored
    exact stored.symm
  cases perform with
  | prepare running holds fresh =>
    have missing := fresh.symm.trans found
    cases missing
  | reprepare running holds decided => rw [← source rfl rfl, decided]; decide
  | claim prepared => rw [← source rfl rfl, prepared]; decide
  | commit performing => rw [← source rfl rfl, performing]; decide
  | mark performing => rw [← source rfl rfl, performing]; decide
  | park parking opened =>
    rw [← source rfl rfl]
    intro committed
    rw [committed] at opened
    cases opened

variable {effectId : Identifier}

theorem Move.committed {after : Ledger} {need : Need} (move : Move now ledger need after)
    (found : ledger.effects effectId = some effect) (committed : effect.state = .committed) :
    after.effects effectId = some effect := by
  cases move with
  | submit | transit => exact found
  | @perform _ _ other _ _ _ known perform =>
    have different : effectId ≠ other.effectId := by
      rintro rfl
      exact perform.uncommitted known found committed
    exact (Ledger.record_effects effectId).trans ((if_neg different).trans found)
  | @resolve _ _ other _ _ _ _ _ resolved _ _ known uncertain recorded =>
    have different : effectId ≠ other.effectId := by
      rintro rfl
      rw [found, Option.some.injEq] at known
      rw [known, uncertain] at committed
      cases committed
    have stays : resolved.effects effectId = some effect := by
      rw [recorded, Ledger.record_effects]
      exact (if_neg different).trans found
    exact stays

theorem committed_stays {state last : KernelState} (reachable : kernel.Reachable state)
    (run : kernel.Run state last) (stored : state.database.effects.find? effectId = some effect)
    (committed : effect.state = .committed) :
    last.database.effects.find? effectId = some effect := by
  have kept := authorized_kept.respects
    (fun before after => ∀ effect, before.effects effectId = some effect →
      effect.state = .committed → after.effects effectId = some effect)
    (fun _ _ found _ => found)
    (fun left right effect found committed =>
      right effect (left effect found committed) committed)
    (fun _ move effect found committed => move.committed found committed)
    reachable run effect.executionId
  exact (Database.ledger_effects.mp
    (kept effect (Database.ledger_effects.mpr ⟨stored, rfl⟩) committed)).1

/-- What happened to one effect, as the store has it. -/
def Database.effectHistory (database : Database) (effectId : Identifier) : List EffectEventRow :=
  database.effectEvents.filter fun event => event.effectId = effectId

variable {state : KernelState}

theorem effectHistory_ledger (reachable : kernel.Reachable state) (effectId : Identifier) :
    ∃ executionId, state.database.effectHistory effectId =
      (state.database.ledger executionId).effectHistory effectId := by
  have owned : ∀ event ∈ state.database.effectHistory effectId, ∃ effect,
      state.database.effects.find? effectId = some effect ∧
        effect.executionId = event.executionId := by
    intro event member
    obtain ⟨stored, named⟩ := mem_filter.mp member
    rw [decide_eq_true_eq] at named
    have authorized : (state.database.ledger event.executionId).Authorized := by
      obtain ⟨rooted, authorized⟩ := authorized_kept.obeys reachable event.executionId
      cases found : (state.database.ledger event.executionId).row with
      | some row => exact authorized row found
      | none =>
        have present : event ∈ (state.database.ledger event.executionId).effectEvents :=
          mem_filter.mpr ⟨stored, by simp⟩
        rw [rooted found] at present
        cases present
    cases found : (state.database.ledger event.executionId).effects effectId with
    | some effect =>
      obtain ⟨present, mine⟩ := Database.ledger_effects.mp found
      exact ⟨effect, present, mine⟩
    | none =>
      have empty := authorized.unused effectId found
      have present : event ∈ (state.database.ledger event.executionId).effectHistory effectId :=
        mem_filter.mpr ⟨mem_filter.mpr ⟨stored, by simp⟩, by simpa using named⟩
      rw [empty] at present
      cases present
  have same : ∀ executionId, (∀ event ∈ state.database.effectHistory effectId,
      event.executionId = executionId) → state.database.effectHistory effectId =
        (state.database.ledger executionId).effectHistory effectId := by
    intro executionId all
    show _ = List.filter _ (List.filter _ _)
    rw [filter_comm]
    exact (filter_eq_self.mpr fun event member => by simpa using all event member).symm
  cases found : state.database.effects.find? effectId with
  | none =>
    refine ⟨effectId, same effectId fun event member => ?_⟩
    obtain ⟨effect, stored, -⟩ := owned event member
    rw [found] at stored
    cases stored
  | some effect =>
    refine ⟨effect.executionId, same effect.executionId fun event member => ?_⟩
    obtain ⟨other, stored, mine⟩ := owned event member
    rw [found, Option.some.injEq] at stored
    rw [stored, mine]

theorem effectHistory_licensed (reachable : kernel.Reachable state) (effectId : Identifier) :
    Licensed EffectEventRow.grants EffectEventRow.refutes
      (state.database.effectHistory effectId) := by
  obtain ⟨executionId, same⟩ := effectHistory_ledger reachable effectId
  rw [same]
  obtain ⟨rooted, authorized⟩ := authorized_kept.obeys reachable executionId
  cases found : (state.database.ledger executionId).row with
  | some row => exact (authorized row found).licensed effectId
  | none =>
    rw [rooted found]
    exact .nil

theorem claimEffect_recorded {environment : Environment} {lease : ExecutionLease}
    {record : EffectRecord}
    (answered : (claimEffect lease effectId environment state).1 = .ok record) :
    ∃ event : EffectEventRow, event.grants = true ∧
      (claimEffect lease effectId environment state).2.database.effectHistory effectId =
        state.database.effectHistory effectId ++ [event] := by
  refine transaction_answers (fun _ next => ∃ event : EffectEventRow,
    event.grants = true ∧ next.effectHistory effectId =
      state.database.effectHistory effectId ++ [event]) (fun now session _ => ?_) answered
  unfold claimEffectBody
  refine ensures_bind (assertLease_ensures fun _ _ _ _ _ => ?_)
  refine ensures_bind (getEffectRow_ensures fun row stored => ?_)
  refine ensures_bind (effectRecord_ensures fun _ _ => ?_)
  refine then_lift fun _ _ => ?_
  refine then_require fun _ => ?_
  refine then_require fun _ => ?_
  refine then_require fun _ => ?_
  refine then_check fun _ _ => ?_
  refine then_check fun claimId _ => ?_
  refine then_require fun _ => ?_
  refine ensures_bind (casEffect_ensures ?_)
  refine ensures_bind (effectRecord_ensures fun _ _ => ?_)
  refine ensures_bind (ensures_write (ensures_pure ?_))
  have named : row.effectId = effectId := Table.key_of_find? stored
  refine ⟨effectEvent (row.claimed claimId) .performClaimed (some .prepared)
    (("claim_id", claimId.toJson) :: leaseData lease) now, rfl, ?_⟩
  simp [Database.effectHistory, Database.write, filter_append, effectEvent,
    EffectRow.claimed, named]

/-! ### The authority over effects in whole runs -/

/-- In every state of every run, the authority to perform an effect was granted at most once more
than it was decided that the effect was not applied, and between two grants there is such a
decision; every claim that is answered is one of these grants. A committed effect stays as it is. -/
theorem effect_performed_at_most_once {state last : KernelState}
    (reachable : kernel.Reachable state) (run : kernel.Run state last)
    (effectId : Identifier) :
    (last.database.effectHistory effectId).countP EffectEventRow.grants ≤
      1 + (last.database.effectHistory effectId).countP EffectEventRow.refutes ∧
    (∀ first earlier middle later rest,
      last.database.effectHistory effectId = first ++ earlier :: (middle ++ later :: rest) →
      earlier.grants = true → later.grants = true →
        ∃ event ∈ middle, event.refutes = true) ∧
    (∀ lease environment record,
      (claimEffect lease effectId environment last).1 = .ok record → ∃ event : EffectEventRow,
        event.grants = true ∧
        (claimEffect lease effectId environment last).2.database.effectHistory effectId =
          last.database.effectHistory effectId ++ [event]) ∧
    ∀ effect, state.database.effects.find? effectId = some effect →
      effect.state = .committed → last.database.effects.find? effectId = some effect := by
  have licensed := effectHistory_licensed (reachable.run run) effectId
  refine ⟨?_, ?_, fun _ _ _ => claimEffect_recorded, fun _ => committed_stays reachable run⟩
  · have bound := licensed.count
    omega
  · intro first earlier middle later rest split used again
    rw [split] at licensed
    exact licensed.returned used again

/-- The effect of the example is performed once. -/
theorem effect_performed_sample :
    (samplePerformed.database.effectHistory sampleName).countP EffectEventRow.grants = 1 ∧
    (samplePerformed.database.effectHistory sampleName).countP EffectEventRow.grants ≤
      1 + (samplePerformed.database.effectHistory sampleName).countP EffectEventRow.refutes :=
  ⟨by decide +kernel,
    (effect_performed_at_most_once (reachable_after sampleName []) (run_after _ samplePerforming)
      sampleName).1⟩

/-! ### The place of unfinished effects in the store -/

/-- The unfinished effects of an execution are where its state says, as the store has them. -/
structure Database.LocatesEffects (database : Database) (row : ExecutionRow) : Prop where
  settled : row.state ≠ .running → row.state ≠ .recoveryRequired → ∀ effect ∈ database.effects,
    effect.executionId = row.executionId →
      effect.state ≠ .prepared ∧ effect.state ≠ .performing ∧ effect.state ≠ .indeterminate
  parked : row.state = .recoveryRequired →
    (∃ pointer effect, row.recoveryEffectId = some pointer ∧
      database.effects.find? pointer = some effect ∧ effect.executionId = row.executionId ∧
      effect.state = .indeterminate) ∧
    ∀ effect ∈ database.effects, effect.executionId = row.executionId →
      effect.state ≠ .prepared ∧ effect.state ≠ .performing

theorem Ledger.Located.locates {database : Database}
    (located : (database.ledger row.executionId).Located row) :
    database.LocatesEffects row where
  settled stopped ordinary effect member owned := by
    have finished := located.settled stopped ordinary effect.effectId effect
      (Database.ledger_effects_of_mem member owned)
    cases state : effect.state <;> rw [state] at finished <;> revert finished <;> decide
  parked parked := by
    obtain ⟨closed, pointer, pointed, effect, found, uncertain⟩ := located.parked parked
    obtain ⟨stored, owned⟩ := Database.ledger_effects.mp found
    refine ⟨⟨pointer, effect, pointed, stored, owned, uncertain⟩, fun other member mine => ?_⟩
    have shut : other.state.open_ ≠ true := fun opened =>
      closed ⟨other.effectId, other, Database.ledger_effects_of_mem member mine, opened⟩
    cases state : other.state <;> rw [state] at shut <;> revert shut <;> decide

/-- In every reachable state the unfinished effects of an execution are where its state says, and
open ones belong to a running execution under its lease. -/
theorem unfinished_effects_located {state : KernelState} (reachable : kernel.Reachable state) :
    (∀ row ∈ state.database.executions, state.database.LocatesEffects row) ∧
    ∀ effect ∈ state.database.effects, effect.state = .prepared ∨ effect.state = .performing →
      ∃ row columns, state.database.executions.find? effect.executionId = some row ∧
        row.state = .running ∧ row.lease = some columns ∧ columns.leaseId = effect.leaseId ∧
        row.attempt = effect.attempt ∧ row.fence = effect.fence := by
  refine ⟨fun row member => ?_, fun effect member waiting => ?_⟩
  · exact (located_kept.holds reachable (Table.find?_key member)).locates
  · have owned := Database.ledger_effects_of_mem member rfl
    obtain ⟨rooted, located⟩ := located_kept.obeys reachable effect.executionId
    cases stored : (state.database.ledger effect.executionId).row with
    | none =>
      rw [rooted stored] at owned
      cases owned
    | some row =>
      have opened : effect.state.open_ = true := by
        rcases waiting with same | same <;> rw [same] <;> rfl
      obtain ⟨running, attempt, fence, columns, leased, named⟩ :=
        (located row stored).guarded effect.effectId effect owned opened
      exact ⟨row, columns, stored, running, leased, named, attempt.symm, fence.symm⟩

/-- The effect of the example is being performed by its running execution. -/
theorem unfinished_effects_sample :
    ∃ row, samplePerformed.database.executions.find? sampleName = some row ∧
      row.state = .running := by
  have located := (unfinished_effects_located (reachable_after sampleName samplePerforming)).2
  have performing : (samplePerformed.database.effects.find? sampleName).map
      (fun effect => (effect.state, effect.executionId)) = some (.performing, sampleName) := by
    decide +kernel
  obtain ⟨effect, stored, both⟩ := Option.map_eq_some_iff.mp performing
  obtain ⟨performing, owned⟩ := Prod.mk.injEq .. ▸ both
  obtain ⟨row, columns, found, running, -⟩ :=
    located effect (Table.mem_of_find? stored) (.inr performing)
  rw [owned] at found
  exact ⟨row, found, running⟩

/-! ### The journal of an effect -/

/-- An event of the type may lead from the one state to the other. -/
def EffectEventType.Leads (eventType : EffectEventType) (before : Option EffectState)
    (after : EffectState) : Prop :=
  match eventType with
  | prepared => before = none ∧ after = .prepared
  | repreparedAfterNotApplied => before = some .notApplied ∧ after = .prepared
  | performClaimed => before = some .prepared ∧ after = .performing
  | committed => before = some .performing ∧ after = .committed
  | markedIndeterminate => before = some .performing ∧ after = .indeterminate
  | leaseExpiredIndeterminate | recoveryRequiredIndeterminate =>
    before.any EffectState.open_ = true ∧ after = .indeterminate
  | recovery decision => before = some .indeterminate ∧ after = decision.effectState

/-- The events lead from one to the next, starting from no effect. -/
inductive EffectPath : List EffectEventRow → Option EffectState → Prop
  | nil : EffectPath [] none
  | snoc {history : List EffectEventRow} {event : EffectEventRow}
      (path : EffectPath history event.fromState)
      (leads : event.eventType.Leads event.fromState event.toState)
      (numbered : event.revision = history.length + 1) :
      EffectPath (history ++ [event]) (some event.toState)

/-- The time that the effect records for its present state. -/
def EffectRow.Dated (effect : EffectRow) (moment : Timestamp) : Prop :=
  match effect.state with
  | .prepared => effect.preparedAt = moment
  | .performing => True
  | .committed => effect.committedAt = some moment
  | .indeterminate => effect.indeterminateAt = some moment
  | .notApplied => effect.resolvedAt = some moment

/-- The history of an effect leads to what is stored of it. -/
structure Traced (history : List EffectEventRow) (effect : Option EffectRow) : Prop where
  path : EffectPath history (effect.map (·.state))
  revision : (effect.map (·.revision)).getD 0 = history.length
  dated : ∀ row ∈ effect, ∀ event ∈ history.getLast?, row.Dated event.createdAt

theorem Traced.snoc {history : List EffectEventRow} (traced : Traced history before)
    (source : event.fromState = before.map (·.state)) (target : event.toState = after.state)
    (leads : event.eventType.Leads event.fromState event.toState)
    (revision : event.revision = (before.map (·.revision)).getD 0 + 1)
    (current : after.revision = event.revision) (dated : after.Dated event.createdAt) :
    Traced (history ++ [event]) (some after) where
  path := by
    have path := traced.path
    rw [← source] at path
    rw [Option.map_some, ← target]
    exact path.snoc leads (by rw [revision, traced.revision])
  revision := by simp [current, revision, traced.revision]
  dated := by
    rintro _ ⟨⟩ last ending
    rw [List.getLast?_concat] at ending
    cases ending
    exact dated

theorem Traced.record (traced : ∀ effectId, Traced (ledger.effectHistory effectId)
      (ledger.effects effectId)) (named : event.effectId = effect.effectId)
    (next : Traced (ledger.effectHistory effect.effectId ++ [event]) (some effect))
    (effectId : Identifier) : Traced ((ledger.record effect event).effectHistory effectId)
      ((ledger.record effect event).effects effectId) := by
  rw [Ledger.record_history, Ledger.record_effects, named]
  by_cases own : effectId = effect.effectId
  · rw [if_pos own, if_pos own, own]
    exact next
  · rw [if_neg own, if_neg own]
    exact traced effectId

theorem Perform.source (perform : Perform now ledger row eventType before after)
    (found : ∀ effect ∈ before, ledger.effects effect.effectId = some effect) :
    ledger.effects after.effectId = before := by
  cases perform with
  | prepare running holds fresh => exact fresh
  | reprepare | claim | commit | mark | park => exact found _ rfl

theorem Perform.traced {data : List (String × Json)}
    (perform : Perform now ledger row eventType before after)
    (found : ∀ effect ∈ before, ledger.effects effect.effectId = some effect)
    (traced : ∀ effectId, Traced (ledger.effectHistory effectId) (ledger.effects effectId)) :
    Traced (ledger.effectHistory after.effectId ++
      [effectEvent after eventType (before.map (·.state)) data now]) (some after) := by
  have history := traced after.effectId
  rw [perform.source found] at history
  cases perform with
  | prepare => exact history.snoc rfl rfl ⟨rfl, rfl⟩ rfl rfl rfl
  | reprepare running holds decided =>
    exact history.snoc rfl rfl ⟨congrArg some decided, rfl⟩ rfl rfl rfl
  | claim prepared => exact history.snoc rfl rfl ⟨congrArg some prepared, rfl⟩ rfl rfl trivial
  | commit performing | mark performing =>
    exact history.snoc rfl rfl ⟨congrArg some performing, rfl⟩ rfl rfl rfl
  | park parking opened =>
    refine history.snoc rfl rfl ?_ rfl rfl rfl
    cases eventType <;> first | exact ⟨opened, rfl⟩ | cases parking

theorem Traced.nil : Traced [] none where
  path := .nil
  revision := rfl
  dated row member := by cases member

theorem traced_kept : Kept fun _ _ ledger =>
    ∀ effectId, Traced (ledger.effectHistory effectId) (ledger.effects effectId) where
  later traced _ := traced
  submitted now command data effectId := Traced.nil
  moved := by
    intro now row next ledger need after stored traced move reached
    cases move with
    | submit | transit => exact traced
    | perform known found perform => exact Traced.record traced rfl (perform.traced found traced)
    | @resolve _ _ effect decision response recoveryId _ _ _ _ _ found uncertain recorded =>
      rw [recorded]
      have history := traced effect.effectId
      rw [found] at history
      refine Traced.record traced rfl
        (history.snoc (congrArg some uncertain.symm) rfl ⟨rfl, rfl⟩ rfl rfl ?_)
      cases decision <;> rfl

theorem ledger_traced (reachable : kernel.Reachable state) (executionId effectId : Identifier) :
    Traced ((state.database.ledger executionId).effectHistory effectId)
      ((state.database.ledger executionId).effects effectId) := by
  obtain ⟨rooted, traced⟩ := traced_kept.obeys reachable executionId
  cases found : (state.database.ledger executionId).row with
  | some row => exact traced row found effectId
  | none =>
    rw [rooted found]
    exact .nil

/-- In every reachable state the events of an effect lead from one to the next, one for each
revision, to what is stored of it. -/
theorem effect_history_complete (reachable : kernel.Reachable state) (effectId : Identifier) :
    Traced (state.database.effectHistory effectId) (state.database.effects.find? effectId) := by
  obtain ⟨executionId, same⟩ := effectHistory_ledger reachable effectId
  have traced := ledger_traced reachable executionId effectId
  rw [← same] at traced
  cases mine : (state.database.ledger executionId).effects effectId with
  | some effect =>
    rw [mine] at traced
    rwa [(Database.ledger_effects.mp mine).1]
  | none =>
    rw [mine] at traced
    have empty := List.length_eq_zero_iff.mp traced.revision.symm
    cases stored : state.database.effects.find? effectId with
    | none => exact traced
    | some effect =>
      have own := ledger_traced reachable effect.executionId effectId
      have silent : (state.database.ledger effect.executionId).effectHistory effectId = [] := by
        show List.filter _ (List.filter _ _) = []
        rw [List.filter_comm]
        exact congrArg (List.filter _) empty
      rw [Database.ledger_effects.mpr ⟨stored, rfl⟩, silent] at own
      rwa [empty]

/-- The effect of the example is prepared and claimed. -/
theorem effect_history_sample :
    (samplePerformed.database.effectHistory sampleName).map (·.eventType) =
      [.prepared, .performClaimed] ∧
    Traced (samplePerformed.database.effectHistory sampleName)
      (samplePerformed.database.effects.find? sampleName) :=
  ⟨by decide +kernel,
    effect_history_complete (reachable_after sampleName samplePerforming) sampleName⟩

/-! ### Revisions -/

theorem Ledger.record_revises (stored : ledger.effects effectId = some effect)
    (later : effectId = after.effectId → effect.revision < after.revision) :
    ∃ next, (ledger.record after event).effects effectId = some next ∧
      (next = effect ∨ effect.revision < next.revision) := by
  rw [record_effects]
  by_cases same : effectId = after.effectId
  · exact ⟨after, if_pos same, .inr (later same)⟩
  · exact ⟨effect, (if_neg same).trans stored, .inl rfl⟩

theorem Move.revises_effect {after : Ledger} {need : Need} (move : Move now ledger need after)
    (stored : ledger.effects effectId = some effect) :
    ∃ next, after.effects effectId = some next ∧
      (next = effect ∨ effect.revision < next.revision) := by
  cases move with
  | submit | transit => exact ⟨effect, stored, .inl rfl⟩
  | perform _ found perform =>
    refine Ledger.record_revises stored ?_
    rintro rfl
    rw [perform.source found] at stored
    cases perform <;> cases stored <;> exact Nat.lt_succ_self _
  | @resolve _ _ _ _ _ _ _ _ resolved _ _ found _ recorded =>
    show ∃ next, resolved.effects effectId = some next ∧ _
    rw [recorded]
    refine Ledger.record_revises stored ?_
    rintro rfl
    cases stored.symm.trans found
    exact Nat.lt_succ_self _

/-- In every run a revision of an execution or of an effect is one version of it: what is stored
later is the same or has a greater revision. -/
theorem revisions_identify {last : KernelState} (reachable : kernel.Reachable state)
    (run : kernel.Run state last) :
    (∀ row ∈ state.database.executions, ∃ next,
      last.database.executions.find? row.executionId = some next ∧
        (next = row ∨ row.revision < next.revision)) ∧
    ∀ effect ∈ state.database.effects, ∃ next,
      last.database.effects.find? effect.effectId = some next ∧
        (next = effect ∨ effect.revision < next.revision) := by
  refine ⟨fun row member => row_revises reachable run (Table.find?_key member),
    fun effect member => ?_⟩
  have revised := formed_kept.respects (fun before after => ∀ effectId effect,
    before.effects effectId = some effect → ∃ next, after.effects effectId = some next ∧
      (next = effect ∨ effect.revision < next.revision)) (fun _ _ effect stored =>
      ⟨effect, stored, .inl rfl⟩) ?_ (fun _ move _ _ stored => move.revises_effect stored)
    reachable run effect.executionId _ effect (Database.ledger_effects_of_mem member rfl)
  · obtain ⟨next, found, forward⟩ := revised
    exact ⟨next, (Database.ledger_effects.mp found).1, forward⟩
  · intro first second third left right effectId effect stored
    obtain ⟨middle, reached, forward⟩ := left effectId effect stored
    obtain ⟨next, found, onward⟩ := right effectId middle reached
    refine ⟨next, found, ?_⟩
    rcases forward with rfl | forward
    · exact onward
    · exact .inr (onward.elim (fun same => same ▸ forward) forward.trans)

/-- The example goes on to revise what its first calls have stored. -/
theorem revisions_sample :
    let earlier := (KernelState.initial sampleName).after (samplePerforming.take 4)
    ∀ effect ∈ earlier.database.effects, ∃ next,
      samplePerformed.database.effects.find? effect.effectId = some next ∧
        (next = effect ∨ effect.revision < next.revision) :=
  (revisions_identify (reachable_after _ _) (run_after _ (samplePerforming.drop 4))).2

/-! ### What has ended -/

theorem Move.frozen {after : Ledger} {need : Need} (move : Move now ledger need after)
    (located : ledger.Located row) (stored : ledger.row = some row)
    (ended : row.state.terminal = true) : after = ledger := by
  have stopped : row.state ≠ .running := fun running => by rw [running] at ended; cases ended
  have settled := located.settled stopped fun parked => by rw [parked] at ended; cases ended
  have shut : ∀ effect, ledger.effects effect.effectId = some effect → effect.state.open_ ≠ true :=
    fun effect found opened => by
      simpa [EffectState.unfinished_of_open opened] using settled _ effect found
  cases move with
  | submit fresh => cases stored.symm.trans fresh
  | transit found transit | resolve found _ _ _ _ transit =>
    cases stored.symm.trans found
    exact absurd ended (by simp [transit.succeeds.live])
  | perform found known perform =>
    cases stored.symm.trans found
    cases perform with
    | prepare running | reprepare running => exact absurd running stopped
    | claim opened | commit opened | mark opened =>
      exact absurd (by rw [opened]; rfl) (shut _ (known _ rfl))
    | park _ opened => exact absurd opened (shut _ (known _ rfl))

/-- Once an execution has ended, nothing that is stored of it ever changes. -/
theorem ended_frozen {last : KernelState} (reachable : kernel.Reachable state)
    (run : kernel.Run state last) {executionId : Identifier}
    (stored : state.database.executions.find? executionId = some row)
    (ended : row.state.terminal = true) :
    last.database.ledger executionId = state.database.ledger executionId := by
  refine located_kept.respects (fun before after => ∀ row, before.row = some row →
      row.state.terminal = true → after = before) (fun _ _ _ _ => rfl) ?_ ?_ reachable run
    executionId row stored ended
  · intro first second third left right row stored ended
    cases left row stored ended
    exact right row stored ended
  · exact fun obeys move row stored ended => move.frozen (obeys.2 row stored) stored ended

/-- The cancelled command of the example stays as it is. -/
theorem ended_frozen_sample :
    let ended := (KernelState.initial sampleName).after sampleCancelling
    (ended.after samplePerforming).database.ledger sampleName =
      ended.database.ledger sampleName := by
  have cancelled : (((KernelState.initial sampleName).after
      sampleCancelling).database.executions.find? sampleName).map (·.state) = some .cancelled := by
    decide +kernel
  obtain ⟨row, stored, state⟩ := Option.map_eq_some_iff.mp cancelled
  exact ended_frozen (reachable_after _ _) (run_after _ _) stored (by rw [state]; rfl)

end DispatcherSdk.ExecutionKernel
