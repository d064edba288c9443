/-
This file proves when the Kernel accepts a disposition about a stall, and determines when a
cancellation under a lease is guarded by that lease.

A disposition names the progress, the attempt and the episode it is about, and none of them
comes back once it is overtaken. `cancel` compares the lease with the row it is for only where
the execution that is named is held: an execution that is queued again is cancelled under any
lease.
-/

import DispatcherSdk.ExecutionKernel.EffectHistory

namespace DispatcherSdk.ExecutionKernel

open Library Library.Attempt Relation Table Option Bool

variable {environment : Environment}

/-! ### The current stall -/

/-- Everything that the disposition names is the current one. -/
def StallDisposition.Current (disposition : StallDisposition) (database : Database) : Prop :=
  ∃ row ∈ database.executions.find? disposition.executionId,
    ∃ supervision ∈ database.supervision.find? disposition.executionId,
      row.state = .running ∧ row.attempt = disposition.attempt ∧ row.fence = disposition.fence ∧
      supervision.attempt = disposition.attempt ∧ supervision.fence = disposition.fence ∧
      supervision.progressRevision = disposition.progressRevision ∧
      supervision.episodeId = disposition.episodeId ∧
      supervision.policyVersion = disposition.policyVersion

/-- A later attempt is supervised, or the same one with more progress. -/
def StallDisposition.Overtaken (disposition : StallDisposition) (database : Database) : Prop :=
  ∃ supervision ∈ database.supervision.find? disposition.executionId,
    disposition.fence < supervision.fence ∨
      (supervision.fence = disposition.fence ∧
        disposition.progressRevision < supervision.progressRevision)

variable {disposition : StallDisposition}

theorem StallDisposition.Overtaken.not_current {database : Database}
    (overtaken : disposition.Overtaken database) : ¬ disposition.Current database := by
  rintro ⟨row, -, current, found, -, -, -, -, fence, progress, -, -⟩
  obtain ⟨supervision, stored, later⟩ := overtaken
  cases Option.some.inj (found.symm.trans stored)
  omega

variable {executionId reason : Identifier} {authority : CancelAuthority}

variable {now : Timestamp} {state : KernelState} {before next : Database} {ledger : Ledger}

theorem cancelBody_current {frame : Frame} :
    Ensures (cancelBody executionId authority reason (some disposition) now) environment frame
      fun _ _ => executionId = disposition.executionId ∧ disposition.Current frame.database := by
  unfold cancelBody
  refine ensures_bind (getRow_ensures fun row stored => ?_)
  have own : row.executionId = executionId := key_of_find? stored
  refine ensures_bind (then_read (ensures_require fun held => ?_))
  obtain ⟨running, same, current, found, named, attempt, fence⟩ := held
  have target : disposition.executionId = executionId := same.trans own
  have exactly : disposition.Current frame.database := by
    rw [own] at found
    refine ⟨row, ?_, current, ?_, running, ?_, ?_, ?_⟩
    · rw [target]
      exact stored
    · rw [target]
      exact found
    · rw [named]
      exact attempt
    · rw [named]
      exact fence
    · rw [named]
      exact ⟨rfl, rfl, rfl, rfl, rfl⟩
  intro _ _ _
  exact ⟨target.symm, exactly⟩

theorem cancel_refused
    (stale : ¬ (executionId = disposition.executionId ∧ disposition.Current state.database)) :
    (∃ failure, (cancel executionId authority reason (some disposition) environment state).1 =
        .error failure) ∧
      (cancel executionId authority reason (some disposition) environment state).2.database =
        state.database := by
  have refuses : (∃ failure, (transaction (cancelBody executionId authority reason
        (some disposition)) environment state).1 = .error failure) ∧
      (transaction (cancelBody executionId authority reason (some disposition)) environment
        state).2.database = state.database :=
    transaction_refuses fun _ _ _ => cancelBody_current.mono fun _ _ held => stale held
  obtain ⟨⟨failure, refused⟩, same⟩ := refuses
  unfold cancel
  rcases outcome : transaction (cancelBody executionId authority reason (some disposition))
    environment state with ⟨answer, after⟩
  rw [outcome] at refused same
  dsimp only at refused same
  subst refused
  exact ⟨⟨failure, rfl⟩, same⟩

/-! ### What is written about a running execution -/

/-- What is known about the current attempt of an execution. -/
def Database.supervised (database : Database) (row : ExecutionRow) : SupervisionRow :=
  ((database.supervision.find? row.executionId).filter fun current =>
    current.attempt = row.attempt ∧ current.fence = row.fence).getD
      (.fresh row.executionId row.attempt row.fence)

theorem Database.supervised_key (database : Database) (row : ExecutionRow) :
    (database.supervised row).executionId = row.executionId ∧
      (database.supervised row).attempt = row.attempt ∧
      (database.supervised row).fence = row.fence := by
  unfold supervised
  cases found : (database.supervision.find? row.executionId).filter fun current =>
      current.attempt = row.attempt ∧ current.fence = row.fence with
  | none => exact ⟨rfl, rfl, rfl⟩
  | some current =>
    obtain ⟨stored, same⟩ := filter_eq_some_iff.mp found
    exact ⟨key_of_find? stored, of_decide_eq_true same⟩

/-- Within one attempt progress only grows, and where it grows no stall is left. -/
structure SupervisionRow.Moves (current next : SupervisionRow) : Prop where
  executionId : next.executionId = current.executionId
  attempt : next.attempt = current.attempt
  fence : next.fence = current.fence
  progress : next.progressRevision = current.progressRevision ∨
    (current.progressRevision < next.progressRevision ∧ next.episodeId = none)

theorem SupervisionRow.Moves.refl (current : SupervisionRow) : current.Moves current :=
  ⟨rfl, rfl, rfl, Or.inl rfl⟩

/-- What is stored about stalls changes for the current attempt of one execution at most. -/
structure Database.Supervises (before after : Database) : Prop where
  executions : after.executions = before.executions
  supervision : after.supervision = before.supervision ∨
    ∃ row next, before.executions.find? row.executionId = some row ∧
      (before.supervised row).Moves next ∧ after.supervision = before.supervision.put next

variable {row : ExecutionRow}

/-- `_supervision_row` answers what is known about the attempt. -/
theorem supervisionRow_ensures {frame : Frame} :
    Ensures (supervisionRow row) environment frame fun current next =>
      current = frame.database.supervised row ∧
        next.database.executions = frame.database.executions ∧
        (next.database.supervision = frame.database.supervision ∨
          next.database.supervision = frame.database.supervision.put current) := by
  unfold supervisionRow
  refine then_read ?_
  unfold Database.supervised
  split
  · rename_i current found
    rw [found]
    exact ensures_pure ⟨rfl, rfl, Or.inl rfl⟩
  · rename_i missing
    rw [missing]
    exact ensures_bind (ensures_modify (ensures_pure ⟨rfl, rfl, Or.inr rfl⟩))

variable {current : SupervisionRow}

theorem supervises_read (stored : before.executions.find? row.executionId = some row)
    (answered : current = before.supervised row) (executions : next.executions = before.executions)
    (supervision : next.supervision = before.supervision ∨
      next.supervision = before.supervision.put current) : before.Supervises next := by
  refine ⟨executions, supervision.imp_right fun written => ⟨row, current, stored, ?_, written⟩⟩
  rw [answered]
  exact .refl _

theorem supervises_write {between : Database} (later : SupervisionRow)
    (stored : before.executions.find? row.executionId = some row)
    (answered : current = before.supervised row)
    (executions : between.executions = before.executions)
    (supervision : between.supervision = before.supervision ∨
      between.supervision = before.supervision.put current)
    (kept : next.executions = between.executions) (moves : current.Moves later)
    (written : next.supervision = between.supervision.put later) : before.Supervises next := by
  refine ⟨kept.trans executions, Or.inr ⟨row, later, stored, answered ▸ moves, ?_⟩⟩
  rw [written]
  rcases supervision with same | put
  · rw [same]
  · rw [put, put_put _ moves.executionId.symm]

section Bodies

variable {frame : Frame}

theorem confirmProgressBody_supervises {lease : ExecutionLease} {eventId : Identifier} :
    Ensures (confirmProgressBody lease eventId now) environment frame fun answer next =>
      frame.database.Supervises next.database ∧
        (answer.new = true → ∃ supervision ∈ next.database.supervision.find? lease.executionId,
          supervision.attempt = lease.attempt ∧ supervision.fence = lease.fence ∧
          supervision.progressRevision = answer.progressRevision ∧ supervision.episodeId = none ∧
          ∃ row, (frame.database.supervised row).progressRevision < answer.progressRevision ∧
            frame.database.executions.find? lease.executionId = some row) := by
  unfold confirmProgressBody
  refine ensures_bind (assertLease_ensures fun row stored holds _ _ =>
    then_check fun _ _ => ?_)
  have own : row.executionId = lease.executionId := key_of_find? stored
  refine ensures_bind (supervisionRow_ensures.mono ?_)
  rintro current middle ⟨answered, executions, supervision⟩
  refine then_read ?_
  split
  · exact ensures_pure ⟨supervises_read (own.symm ▸ stored) answered executions supervision, by rintro ⟨⟩⟩
  · refine ensures_bind (ensures_modify (ensures_bind (ensures_modify (ensures_pure ?_))))
    obtain ⟨executionId, attempt, fence⟩ := frame.database.supervised_key row
    rw [← answered] at executionId attempt fence
    let later : SupervisionRow :=
      { current with
        progressRevision := current.progressRevision + 1
        progressAt := some now
        episodeId := none
        episodeProgressRevision := none }
    refine ⟨supervises_write later (own.symm ▸ stored) answered executions supervision rfl
      ⟨rfl, rfl, rfl, Or.inr ⟨Nat.lt_succ_self _, rfl⟩⟩ rfl, fun _ => ?_⟩
    refine ⟨later, ?_, attempt.trans holds.attempt, fence.trans holds.fence, rfl, rfl, row, ?_, stored⟩
    · show Table.find? (Table.put _ later) lease.executionId = some later
      rw [← own, ← executionId]
      exact find?_put_same _ later
    · rw [← answered]
      exact Nat.lt_succ_self _

variable {policyVersion : Identifier}

theorem registerStallEpisodeBody_supervises {episodeId : Identifier}
    {attempt fence progressRevision : ℕ} :
    Ensures (registerStallEpisodeBody executionId attempt fence progressRevision episodeId
      policyVersion now) environment frame fun _ next =>
        frame.database.Supervises next.database ∧
          StallDisposition.Current ⟨executionId, attempt, fence, progressRevision, some episodeId,
            some policyVersion⟩ next.database := by
  unfold registerStallEpisodeBody
  refine ensures_bind (getRow_ensures fun row stored => then_require ?_)
  rintro ⟨running, rfl, rfl, -⟩
  have own : row.executionId = executionId := key_of_find? stored
  subst own
  refine ensures_bind (supervisionRow_ensures.mono ?_)
  rintro current middle ⟨answered, executions, supervision⟩
  refine then_require fun _ => then_require ?_
  rintro rfl
  refine then_require fun _ => ensures_modify ?_
  obtain ⟨sameExecution, sameAttempt, sameFence⟩ := frame.database.supervised_key row
  rw [← answered] at sameExecution sameAttempt sameFence
  let later : SupervisionRow :=
    { current with
      episodeId := some episodeId
      policyVersion := some policyVersion
      episodeProgressRevision := some current.progressRevision }
  refine ⟨supervises_write later stored answered executions supervision rfl
    ⟨rfl, rfl, rfl, Or.inl rfl⟩ rfl, row, ?_, later, ?_, running, rfl, rfl, sameAttempt, sameFence,
    rfl, rfl, rfl⟩
  · show middle.database.executions.find? row.executionId = some row
    rw [executions]
    exact stored
  · show Table.find? (Table.put _ later) row.executionId = some later
    rw [← sameExecution]
    exact find?_put_same _ later

theorem setStallPolicyBody_supervises {attempt fence : ℕ} :
    Ensures (setStallPolicyBody executionId attempt fence policyVersion now) environment frame
      fun _ next => frame.database.Supervises next.database := by
  unfold setStallPolicyBody
  refine ensures_bind (getRow_ensures fun row stored => then_require fun _ => ?_)
  have own : row.executionId = executionId := key_of_find? stored
  refine ensures_bind (supervisionRow_ensures.mono ?_)
  rintro current middle ⟨answered, executions, supervision⟩
  refine ensures_ite (fun _ => ensures_pure ?_) fun _ => ensures_modify ?_
  · exact supervises_read (own.symm ▸ stored) answered executions supervision
  · exact supervises_write
      { current with
        policyVersion := some policyVersion
        episodeId := none
        episodeProgressRevision := none }
      (own.symm ▸ stored) answered executions supervision rfl ⟨rfl, rfl, rfl, Or.inl rfl⟩ rfl

variable {expected : StallDisposition}

theorem clearStallEpisodeBody_supervises :
    Ensures (clearStallEpisodeBody expected) environment frame
      fun _ next => frame.database.Supervises next.database := by
  unfold clearStallEpisodeBody
  refine ensures_bind (getRow_ensures fun row stored => then_read ?_)
  have own : row.executionId = expected.executionId := key_of_find? stored
  split
  · exact ensures_pure ⟨rfl, Or.inl rfl⟩
  · rename_i current found
    obtain ⟨known, same⟩ := filter_eq_some_iff.mp found
    simp only [decide_and, and_eq_true, decide_eq_true_eq] at same
    obtain ⟨-, -, attempt, fence⟩ := same
    have answered : frame.database.supervised row = current := by
      unfold Database.supervised
      rw [known, filter_some_pos (by simp [attempt, fence])]
      rfl
    refine ensures_bind (ensures_modify (ensures_pure ?_))
    exact supervises_write { current with episodeId := none, episodeProgressRevision := none }
      (own.symm ▸ stored) answered.symm rfl (.inl rfl) rfl ⟨rfl, rfl, rfl, Or.inl rfl⟩ rfl

theorem clearStallEpisodeBody_current :
    Ensures (clearStallEpisodeBody expected) environment frame fun cleared next =>
      (expected.Current frame.database ∧ cleared = true) ∨
        (cleared = false ∧ next.database = frame.database) := by
  unfold clearStallEpisodeBody
  refine ensures_bind (getRow_ensures fun row stored => then_read ?_)
  have own : row.executionId = expected.executionId := key_of_find? stored
  split
  · exact ensures_pure (.inr ⟨rfl, rfl⟩)
  · rename_i current found
    obtain ⟨known, same⟩ := filter_eq_some_iff.mp found
    simp only [decide_and, and_eq_true, decide_eq_true_eq] at same
    obtain ⟨running, named, attempt, fence⟩ := same
    refine ensures_bind (ensures_modify (ensures_pure (.inl ⟨?_, rfl⟩)))
    refine ⟨row, stored, current, own ▸ known, running, ?_, ?_, ?_⟩
    · rw [named]
      exact attempt
    · rw [named]
      exact fence
    · rw [named]
      exact ⟨rfl, rfl, rfl, rfl, rfl⟩

end Bodies

theorem clear_refused {expected : StallDisposition} (stale : ¬ expected.Current state.database) :
    (clearStallEpisode expected environment state).1 ≠ .ok true ∧
      (clearStallEpisode expected environment state).2.database = state.database := by
  constructor
  · intro cleared
    have current : expected.Current state.database ∧ true = true ∨ _ :=
      transaction_answers (fun answer database => expected.Current state.database ∧ answer = true ∨
        (answer = false ∧ database = state.database))
        (fun _ _ _ => clearStallEpisodeBody_current) cleared
    rcases current with ⟨held, -⟩ | ⟨⟨⟩, -⟩
    exact stale held
  · have advances : Advances (fun _ before after => expected.Current before ∨ after = before)
        state (clearStallEpisode expected environment state).2 :=
      transaction_advances fun _ _ => clearStallEpisodeBody_current.mono fun _ _ done =>
        done.imp And.left And.right
    rcases advances.tables with same | ⟨-, -, -, held | same⟩
    · exact same
    · exact absurd held stale
    · exact same

/-! ### Attempts are replaced by later ones -/

/-- The same attempt under the same fence, or a greater fence. -/
def ExecutionRow.Advanced (row later : ExecutionRow) : Prop :=
  (later.fence = row.fence ∧ later.attempt = row.attempt) ∨ row.fence < later.fence

theorem ExecutionRow.Advanced.trans {first second third : ExecutionRow}
    (before : first.Advanced second) (after : second.Advanced third) : first.Advanced third := by
  unfold Advanced at before after ⊢
  omega

theorem Transit.advanced {after : ExecutionRow}
    {eventType : EventType} {results : List ExecutionResult}
    (transit : Transit now ledger row eventType after results) : row.Advanced after := by
  cases transit with
  | lease queued columns => exact .inr (Nat.lt_succ_self _)
  | _ => exact .inl ⟨rfl, rfl⟩

/-- A stored execution stays stored, in the same attempt or a later one. -/
def Ledger.Advanced (ledger next : Ledger) : Prop :=
  ∀ row, ledger.row = some row → ∃ later, next.row = some later ∧ row.Advanced later

theorem Move.advanced {next : Ledger} {need : Need}
    (move : Move now ledger need next) : ledger.Advanced next := by
  intro row stored
  cases move with
  | submit fresh => exact absurd (fresh.symm.trans stored) nofun
  | transit found transit =>
    cases found.symm.trans stored
    exact ⟨_, rfl, transit.advanced⟩
  | perform => exact ⟨row, stored, Or.inl ⟨rfl, rfl⟩⟩
  | resolve found _ _ _ _ transit =>
    cases found.symm.trans stored
    exact ⟨_, rfl, transit.advanced⟩

theorem Moves.advanced {next : Ledger} (moves : Moves now ledger next) : ledger.Advanced next := by
  induction moves with
  | refl => exact fun row stored => ⟨row, stored, Or.inl ⟨rfl, rfl⟩⟩
  | tail _ link hypothesis =>
    intro row stored
    obtain ⟨middle, between, before⟩ := hypothesis row stored
    obtain ⟨need, move⟩ := link
    obtain ⟨later, last, after⟩ := move.advanced middle between
    exact ⟨later, last, before.trans after⟩

theorem kernel_attempts_advance {next : KernelState} (reachable : kernel.Reachable state)
    (step : kernel.step state next) {name : Identifier}
    (stored : state.database.executions.find? name = some row) :
    ∃ later, next.database.executions.find? name = some later ∧ row.Advanced later := by
  obtain ⟨now, -, -, moves⟩ := (reachable_advances reachable step).moves
  exact (moves name).advanced row stored

/-! ### Overtaken dispositions -/

/-- What is stored about stalls is about an attempt that has been reached. -/
def Database.StallsReached (database : Database) : Prop :=
  ∀ supervision ∈ database.supervision, ∃ row,
    database.executions.find? supervision.executionId = some row ∧
      ((row.fence = supervision.fence ∧ row.attempt = supervision.attempt) ∨
        supervision.fence < row.fence)

/-- A step of the Kernel that writes about stalls as the calls above do, if at all. -/
structure StallKernelStep (state next : KernelState) : Prop where
  step : kernel.step state next
  stalls : next.database.supervision = state.database.supervision ∨
    state.database.Supervises next.database

namespace StallKernelStep

variable {next : KernelState}

section

variable (step : StallKernelStep state next)

include step

theorem cases :
    next.database.supervision = state.database.supervision ∨
      ∃ row later, state.database.executions.find? row.executionId = some row ∧
        next.database.executions = state.database.executions ∧
        (state.database.supervised row).Moves later ∧
        next.database.supervision = state.database.supervision.put later := by
  rcases step.stalls with same | supervises
  · exact .inl same
  · refine supervises.supervision.imp_right ?_
    rintro ⟨row, later, stored, moves, written⟩
    exact ⟨row, later, stored, supervises.executions, moves, written⟩

theorem stallsReached (reachable : kernel.Reachable state) (reached : state.database.StallsReached) :
    next.database.StallsReached := by
  have kept : ∀ supervision ∈ state.database.supervision, ∃ row,
      next.database.executions.find? supervision.executionId = some row ∧
        ((row.fence = supervision.fence ∧ row.attempt = supervision.attempt) ∨
          supervision.fence < row.fence) := by
    intro supervision member
    obtain ⟨row, stored, order⟩ := reached supervision member
    obtain ⟨later, found, advanced⟩ := kernel_attempts_advance reachable step.step stored
    refine ⟨later, found, ?_⟩
    unfold ExecutionRow.Advanced at advanced
    omega
  rcases step.cases with same | ⟨row, later, stored, executions, moves, written⟩
  · unfold Database.StallsReached
    rw [same]
    exact kept
  · intro supervision member
    rw [written] at member
    rcases mem_put.mp member with rfl | ⟨old, -⟩
    · obtain ⟨executionId, attempt, fence⟩ := state.database.supervised_key row
      refine ⟨row, ?_, Or.inl ⟨?_, ?_⟩⟩
      · rw [executions, moves.executionId, executionId]
        exact stored
      · rw [moves.fence, fence]
      · rw [moves.attempt, attempt]
    · exact kept supervision old

theorem overtaken (reached : state.database.StallsReached)
    (overtaken : disposition.Overtaken state.database) : disposition.Overtaken next.database := by
  obtain ⟨supervision, found, later⟩ := overtaken
  rcases step.cases with same | ⟨row, next', stored, -, moves, written⟩
  · unfold StallDisposition.Overtaken
    rw [same]
    exact ⟨supervision, found, later⟩
  obtain ⟨executionId, attempt, fence⟩ := state.database.supervised_key row
  have key : next'.executionId = row.executionId := moves.executionId.trans executionId
  unfold StallDisposition.Overtaken
  rw [written]
  by_cases own : disposition.executionId = row.executionId
  · refine ⟨next', ?_, ?_⟩
    · rw [own, ← key]
      exact find?_put_same _ _
    obtain ⟨holder, present, order⟩ := reached supervision (mem_of_find? found)
    rw [key_of_find? found, own, stored] at present
    cases present
    rw [moves.fence, fence]
    rcases order with ⟨sameFence, sameAttempt⟩ | replaced
    · have same : state.database.supervised row = supervision := by
        unfold Database.supervised
        rw [← own, found, filter_some_pos (by simp [sameFence, sameAttempt])]
        rfl
      rw [same] at moves
      have progress := moves.progress
      rw [sameFence]
      omega
    · left
      omega
  · refine ⟨supervision, ?_, later⟩
    rw [find?_put_other _ (key.symm ▸ own)]
    exact found

/-- A disposition that is current and stops to be so because of progress, or of a later attempt that
has reported, is overtaken. -/
theorem overtakes (current : disposition.Current state.database) {supervision : SupervisionRow}
    (found : next.database.supervision.find? disposition.executionId = some supervision)
    (changed : supervision.progressRevision ≠ disposition.progressRevision ∨
      supervision.fence ≠ disposition.fence) : disposition.Overtaken next.database := by
  obtain ⟨row, stored, before, known, -, attempt, fence, sameAttempt, sameFence, progress, -⟩ :=
    current
  refine ⟨supervision, found, ?_⟩
  rcases step.cases with same | ⟨other, later, present, -, moves, written⟩
  · rw [same, known] at found
    cases found
    omega
  obtain ⟨executionId, otherAttempt, otherFence⟩ := state.database.supervised_key other
  have key : later.executionId = other.executionId := moves.executionId.trans executionId
  rw [written, find?_put] at found
  split at found
  · rename_i own
    cases found
    have same : other = row := by
      rw [key] at own
      rw [← own] at present
      exact Option.some.inj (present.symm.trans stored)
    subst same
    have current : state.database.supervised other = before := by
      have own : other.executionId = disposition.executionId := key_of_find? stored
      unfold Database.supervised
      rw [own, known, filter_some_pos (by simp [attempt, fence, sameAttempt, sameFence])]
      rfl
    rw [current] at moves
    have grown := moves.progress
    have kept := moves.fence
    omega
  · cases known.symm.trans found
    omega

end

end StallKernelStep

/-! ### What a cancellation is allowed to do -/

/-- The lease is the current live lease of the execution. -/
def Database.LeasesTo (database : Database) (executionId : Identifier) (lease : ExecutionLease)
    (now : Timestamp) : Prop :=
  lease.executionId = executionId ∧ database.Accepts lease now

/-- Whatever else the call meets, a cancellation under a lease changes the tables only if it is the
current live lease of the execution. -/
def KernelState.GuardsCancel (state : KernelState) (executionId : Identifier)
    (lease : ExecutionLease) (reason : Identifier) (expected : Option StallDisposition)
    (now : Timestamp) : Prop :=
  ∀ environment : Environment, (environment.wallTime 0).map (max state.watermark) = some now →
    (cancel executionId (.lease lease) reason expected environment state).2.database ≠
      state.database → state.database.LeasesTo executionId lease now

/-- `requirePausedRun` lets a cancellation of the execution pass. -/
def Database.PausedFor (database : Database) (executionId : Identifier) : Prop :=
  match database.managedExecutions.find? executionId with
  | none => executionId.managed = false
  | some member => ∃ control, database.runControls.find? member.runId = some control ∧
      (control.state = .pausing ∨ control.state = .paused)

/-- The lease is not looked at: the execution is queued. -/
def Database.Unleased (database : Database) (executionId : Identifier)
    (expected : Option StallDisposition) : Prop :=
  expected = none ∧ database.PausedFor executionId ∧
    ∃ row, database.executions.find? executionId = some row ∧ row.state = .queued

/-- The lease is the live one of another execution, and the execution that is named is held. -/
def Database.Misdirected (database : Database) (executionId : Identifier) (lease : ExecutionLease)
    (expected : Option StallDisposition) (now : Timestamp) : Prop :=
  (∀ disposition ∈ expected,
      executionId = disposition.executionId ∧ disposition.Current database) ∧
    database.PausedFor executionId ∧
    (∃ row, database.executions.find? executionId = some row ∧ row.state.held = true) ∧
    lease.executionId ≠ executionId ∧ database.Accepts lease now

/-! ### The steps of a cancellation -/

section Steps

variable {frame : Frame}

variable {expected : Option StallDisposition}

theorem expectStall_ensures (stored : frame.database.executions.find? executionId = some row) :
    Ensures (cancelBody.expectStall expected row) environment frame fun _ next =>
      next = frame ∧ (∀ disposition ∈ expected, executionId = disposition.executionId ∧
        disposition.Current frame.database ∧ row.state = .running) := by
  have own : row.executionId = executionId := Table.key_of_find? stored
  subst own
  unfold cancelBody.expectStall
  cases expected with
  | none => exact ensures_pure ⟨rfl, nofun⟩
  | some disposition =>
    refine then_read (ensures_require fun held => ⟨rfl, ?_⟩)
    obtain ⟨running, target, current, found, named, attempt, fence⟩ := held
    rintro _ ⟨rfl⟩
    refine ⟨target.symm, ⟨row, ?_, current, ?_, running, ?_, ?_, ?_⟩, running⟩
    · rw [target]
      exact stored
    · rw [target]
      exact found
    · rw [named]
      exact attempt
    · rw [named]
      exact fence
    · rw [named]
      exact ⟨rfl, rfl, rfl, rfl, rfl⟩

theorem requirePausedRun_ensures :
    Ensures (requirePausedRun executionId) environment frame fun _ next =>
      next = frame ∧ frame.database.PausedFor executionId := by
  unfold requirePausedRun Database.PausedFor
  refine then_read ?_
  cases frame.database.managedExecutions.find? executionId with
  | none => exact ensures_require fun free => ⟨rfl, free⟩
  | some member =>
    refine then_expect fun control found => ensures_require fun closed => ?_
    exact ⟨rfl, control, found, closed⟩

/-- A cancellation that gets through leaves the tables as they are, was authorized, or has met one
of the two gaps. -/
theorem cancelBody_guarded {lease : ExecutionLease} :
    Ensures (cancelBody executionId (.lease lease) reason expected now) environment frame
      fun _ next => next.database = frame.database ∨
        frame.database.LeasesTo executionId lease now ∨
        frame.database.Unleased executionId expected ∨
        frame.database.Misdirected executionId lease expected now := by
  unfold cancelBody
  refine ensures_bind (getRow_ensures fun row stored => ?_)
  refine ensures_bind ((expectStall_ensures stored).mono ?_)
  rintro _ _ ⟨rfl, stalled⟩
  refine ensures_ite (fun _ => ?_) fun live => ?_
  · exact then_require fun _ => then_lift fun _ _ =>
      ensures_pure (.inl rfl)
  refine ensures_bind (requirePausedRun_ensures.mono ?_)
  rintro _ next ⟨rfl, paused⟩
  refine ensures_ite (fun _ => ?_) fun ordinary => ?_
  · exact ensures_bind (ensures_pure (then_expect fun _ _ =>
      ensures_pure (.inl rfl)))
  unfold authorizeCancel
  by_cases held : row.state.held = true
  · rw [if_pos held]
    refine ensures_bind (assertLease_ensures fun current found holds member unexpired => ?_)
    intro _ _ _
    have accepted : next.database.Accepts lease now := by
      refine ⟨current, found, holds, ?_, ?_⟩
      · rcases List.mem_pair.mp member with state | state <;> rw [state] <;> rfl
      · exact unexpired.resolve_left Bool.false_ne_true
    by_cases own : lease.executionId = executionId
    · exact .inr (.inl ⟨own, accepted⟩)
    · refine Or.inr (.inr (.inr ⟨fun disposition expects => ?_, paused, ⟨row, stored, held⟩,
        own, accepted⟩))
      exact ⟨(stalled disposition expects).1, (stalled disposition expects).2.1⟩
  · intro _ _ _
    have queued : row.state = .queued := by
      cases state : row.state <;> rw [state] at held live ordinary <;> revert held live ordinary <;>
        decide
    refine Or.inr (.inr (.inl ⟨?_, paused, row, stored, queued⟩))
    cases expected with
    | none => rfl
    | some disposition =>
      have running := (stalled disposition rfl).2.2
      cases queued.symm.trans running

end Steps

/-! ### The condition -/

/-- If the execution is not queued, and the lease not the live one of another, a cancellation needs
the current live lease. -/
theorem cancel_guarded {state : KernelState} {executionId : Identifier} {lease : ExecutionLease}
    {expected : Option StallDisposition} {now : Timestamp}
    (leased : ¬ state.database.Unleased executionId expected)
    (directed : ¬ state.database.Misdirected executionId lease expected now) (reason : Identifier) :
    state.GuardsCancel executionId lease reason expected now := by
  intro environment observed changed
  have moved : Advances (fun _ before after => after = before ∨
      before.LeasesTo executionId lease now) state
      (transaction (cancelBody executionId (.lease lease) reason expected) environment state).2 := by
    refine transaction_observes _ fun wall told session => cancelBody_guarded.mono ?_
    rw [told, Option.map_some, Option.some.injEq] at observed
    rw [observed]
    rintro _ next (same | leases | queued | misdirected)
    · exact .inl same
    · exact .inr leases
    · exact absurd queued leased
    · exact absurd misdirected directed
  have kept : (cancel executionId (.lease lease) reason expected environment state).2 =
      (transaction (cancelBody executionId (.lease lease) reason expected) environment state).2 := by
    unfold cancel raiseCancelRecovery
    split <;> rename_i outcome <;> rw [outcome]
  rw [kept] at changed
  rcases moved.tables with same | ⟨_, -, -, same | leases⟩
  · exact absurd same changed
  · exact absurd same changed
  · exact leases

def sampleHeld : KernelState :=
  (KernelState.initial sampleName).after [(.enrol (.submit sampleCommand), sampleEnvironment 0),
    (.work (.claim ⟨sampleName, none, none, none, none, none⟩), sampleEnvironment 0)]

/-- An execution that a worker holds is cancelled under its own lease only while that is live. -/
theorem cancel_guarded_held :
    sampleHeld.GuardsCancel sampleName (sampleLease 2 (by decide)) sampleName none 10 := by
  refine cancel_guarded (fun unleased => ?_) (fun misdirected => ?_) sampleName
  swap
  · exact misdirected.2.2.2.1 rfl
  obtain ⟨row, stored, queued⟩ := unleased.2.2
  have leased : (sampleHeld.database.executions.find? sampleName).map (·.state) = some .leased := by
    decide +kernel
  rw [stored, Option.map_some, queued] at leased
  cases leased

def sampleRetried : ExecutionCommand :=
  { sampleCommand with
    retryPolicy :=
      { sampleCommand.retryPolicy with maxAttempts := 2, attemptsPositive := second_positive } }

/-- The calls after which the command of the example is queued again, its lease having expired. -/
def sampleRequeuing : List (Operation × Environment) :=
  [(.enrol (.submit sampleRetried), sampleEnvironment 0),
    (.work (.claim ⟨sampleName, none, none, none, none, none⟩), sampleEnvironment 0),
    (.work .reap, sampleEnvironment (10 : ℕ))]

def sampleRequeued : KernelState := (KernelState.initial sampleName).after sampleRequeuing

/-- The worker whose lease has expired cancels the execution that is queued again. -/
theorem expired_lease_cancels : ¬ ∀ state, kernel.Reachable state →
    ∀ executionId lease reason expected now, state.watermark ≤ now →
      state.GuardsCancel executionId lease reason expected now := by
  intro guarded
  have guards := guarded sampleRequeued (reachable_after sampleName sampleRequeuing) sampleName
    (sampleLease 2 (by decide)) sampleName none 10 (by decide +kernel)
  have queued : (sampleRequeued.database.executions.find? sampleName).map (·.state) =
      some .queued := by
    decide +kernel
  have cancelled : ((cancel sampleName (.lease (sampleLease 2 (by decide))) sampleName none
      (sampleEnvironment 10) sampleRequeued).2.database.executions.find? sampleName).map
        (·.state) = some .cancelled := by
    decide +kernel
  obtain ⟨-, row, stored, holds, -, live⟩ := guards (sampleEnvironment 10) (by decide +kernel)
    fun same => by
      rw [same, queued] at cancelled
      cases cancelled
  exact absurd live (by decide +kernel)

end DispatcherSdk.ExecutionKernel
