/-
This file proves that every stored row is well formed, that an execution has exactly one
result once it has ended and none before, and that an ended execution stays as it is.

A row is decoded whenever it is read, and decoding refuses a row whose columns disagree.
What the columns of a row have to agree in is the invariant here; that decoding never
refuses is a consequence of it.
-/

import DispatcherSdk.ExecutionKernel.Reachable
import Mathlib.Data.List.Chain

namespace DispatcherSdk.ExecutionKernel

open Library Relation List Option

/-! ### Properties of rows and their histories -/

/-- A property of a row, its events and its results is kept by every move, if a move of the row
keeps it. -/
theorem Kept.ofHistory
    (Property : Timestamp → ExecutionRow → List EventDraft → List ExecutionResult → Prop)
    (later : ∀ {time now row events results}, Property time row events results → time ≤ now →
      Property now row events results)
    (submitted : ∀ (now : Timestamp) (command : ExecutionCommand) (data : List (String × Json)),
      Property now (command.submitted now)
        [(command.submitted now).entry .submitted none data] [])
    (transit : ∀ {now ledger row eventType after results} (data : List (String × Json)),
      Property now row ledger.events ledger.results →
      Transit now ledger row eventType after results →
      Property now after (ledger.events ++ [after.entry eventType (some row.state) data]) results) :
    Kept fun time row ledger => Property time row ledger.events ledger.results where
  later := later
  submitted := submitted
  moved := by
    intro now row next ledger need after stored holds move reached
    cases move with
    | submit fresh =>
      cases stored.symm.trans fresh
    | transit found moved alone needs data =>
      rw [stored, Option.some.injEq] at found
      cases reached
      subst found
      exact transit data holds moved
    | perform found =>
      have same : ledger.row = some next := reached
      rw [stored, Option.some.injEq] at same
      rw [← same]
      exact holds
    | @resolve row' _ _ _ _ _ _ _ _ found pointed kept uncertain recorded moved disposing data =>
      rw [stored, Option.some.injEq] at found
      cases reached
      subst found
      rw [recorded] at moved ⊢
      exact @transit now (ledger.record _ _) _ _ _ _ data holds moved

/-! ### Steps of the transition matrix -/

/-- An event that may leave the state as it is. -/
def EventType.updates : EventType → Bool
  | leaseRenewed => true
  | effectRecoveryCancellationRequested | effectRecoveryPointerCorrected => true
  | effectRecoveryNextRequired => true
  | _ => false

/-- A pair of states that an event may record. -/
def EventDraft.Allowed (event : EventDraft) (fromState : ExecutionState) : Prop :=
  fromState.canTransition event.toState = true ∨
    (fromState = event.toState ∧ event.eventType.updates = true)

variable {now : Timestamp} {row after : ExecutionRow} {eventType : EventType} {results : List ExecutionResult}

variable {ledger : Ledger}

theorem Transit.allowed
    (transit : Transit now ledger row eventType after results) (data : List (String × Json)) :
    (after.entry eventType (some row.state) data).Allowed row.state := by
  cases transit with
  | lease queued => exact .inl (by rw [queued]; rfl)
  | start leased => exact .inl (by rw [leased]; rfl)
  | renew held => exact .inr ⟨rfl, rfl⟩
  | requeue redelivery held =>
    refine Or.inl ?_
    show row.state.canTransition .queued = true
    revert held
    cases row.state <;> decide
  | finish ending alone ordinary allowed => exact .inl allowed
  | park parking ordinary allowed => exact .inl allowed
  | @repark eventType _ _ _ correcting =>
    refine Or.inr ⟨rfl, ?_⟩
    show eventType.updates = true
    revert correcting
    cases eventType <;> simp [EventType.corrects, EventType.updates]
  | next parked => exact .inr ⟨rfl, rfl⟩
  | cancel parked wanted reasoned cancelled =>
    refine Or.inl ?_
    show row.state.canTransition (row.terminated _ now).state = true
    rw [parked, show (row.terminated _ now).state = _ from cancelled]
    decide
  | resume parked => exact .inl (by rw [parked]; rfl)

/-! ### The chronicle of an execution -/

/-- The events lead from the submission of an execution to its row, one for each revision. -/
structure ExecutionRow.Chronicled (row : ExecutionRow) (events : List EventDraft) : Prop where
  revisions : events.map (·.revision) = List.range' 1 row.revision
  submission : ∃ event rest, events = event :: rest ∧ event.eventType = .submitted ∧
    event.fromState = none ∧ event.toState = .queued
  linked : events.IsChain fun earlier later => later.fromState = some earlier.toState
  allowed : ∀ event ∈ events, ∀ fromState ∈ event.fromState, event.Allowed fromState
  present : events.getLast?.map (·.toState) = some row.state

theorem ExecutionRow.Chronicled.append {events : List EventDraft}
    (chronicled : row.Chronicled events) (revision : after.revision = row.revision + 1)
    (data : List (String × Json))
    (allowed : (after.entry eventType (some row.state) data).Allowed row.state) :
    after.Chronicled (events ++ [after.entry eventType (some row.state) data]) where
  revisions := by
    rw [map_append, chronicled.revisions, revision, List.range'_concat]
    simp [ExecutionRow.entry, revision, Nat.add_comm]
  submission := by
    obtain ⟨event, rest, rfl, kind, source, target⟩ := chronicled.submission
    exact ⟨event, _, rfl, kind, source, target⟩
  linked := by
    rw [isChain_append]
    refine ⟨chronicled.linked, isChain_singleton _, ?_⟩
    intro earlier last later first
    rw [List.head?_singleton, mem_some_iff] at first
    have present := chronicled.present
    rw [mem_def.mp last, map_some, Option.some.injEq] at present
    rw [← first, present]
    rfl
  allowed := by
    intro event member fromState source
    rcases mem_append.mp member with old | new
    · exact chronicled.allowed event old fromState source
    · rw [mem_singleton] at new
      subst new
      rw [mem_def] at source
      cases source
      exact allowed
  present := by
    rw [List.getLast?_concat]
    rfl

theorem chronicled_kept : Kept fun _ row ledger => row.Chronicled ledger.events :=
  Kept.ofHistory (fun _ row events _ => row.Chronicled events) (fun chronicled _ => chronicled)
    (fun now command data =>
      { revisions := rfl
        submission := ⟨_, [], rfl, rfl, rfl, rfl⟩
        linked := isChain_singleton _
        allowed := by
          intro event member fromState source
          rw [mem_singleton] at member
          subst member
          cases source
        present := rfl })
    fun data chronicled transit =>
      chronicled.append transit.succeeds.revision data (transit.allowed data)

/-! ### The global sequence -/

/-- The events of all executions are numbered from one on, without a gap. -/
def Database.Sequenced (database : Database) : Prop :=
  database.events.map (·.sequence) = List.range' 1 database.eventSequence

variable {database : Database}

theorem Database.Sequenced.write (sequenced : database.Sequenced) (entry : Write) :
    (database.write entry).Sequenced := by
  cases entry with
  | event draft =>
    show (database.events ++ [_]).map _ = List.range' 1 (database.eventSequence + 1)
    rw [map_append, sequenced, List.range'_concat]
    simp [Nat.add_comm]
  | execution | effect | effectEvent | outbox => exact sequenced

theorem Database.Sequenced.writeAll (sequenced : database.Sequenced) (writes : List Write) :
    (database.writeAll writes).Sequenced := by
  induction writes generalizing database with
  | nil => exact sequenced
  | cons first rest hypothesis => exact hypothesis (sequenced.write first)

theorem Database.Rewrites.sequenced {next : Database} {executionId : Identifier}
    {relation : Ledger → Ledger → Prop} (rewrites : database.Rewrites executionId relation next)
    (sequenced : database.Sequenced) : next.Sequenced := by
  obtain ⟨writes, -, -, rfl, -⟩ := rewrites
  exact sequenced.writeAll writes

theorem Database.SameLives.sequenced {before after : Database} (lives : before.SameLives after)
    (sequenced : before.Sequenced) : after.Sequenced := by
  unfold Database.Sequenced
  rw [lives.events, lives.eventSequence]
  exact sequenced

theorem Database.Sequenced.spend (sequenced : database.Sequenced) (executionId : Identifier)
    (need : Need) : (database.spend executionId need).Sequenced := by
  cases need with
  | claim =>
    unfold Database.spend Database.charged
    cases database.controlOf executionId <;> exact sequenced
  | nothing | work | opening => exact sequenced

theorem Step.sequenced {before after : Database} (step : Step now before after)
    (sequenced : before.Sequenced) : after.Sequenced := by
  cases step with
  | work works =>
    refine keeps_of_links Database.Sequenced (fun holds link => ?_) sequenced works
    cases link with
    | move allowed rewrites => exact rewrites.sequenced (holds.spend _ _)
    | support supports => exact supports.lives.sequenced holds
  | enrol enrols =>
    refine keeps_of_links Database.Sequenced (fun holds link => ?_) sequenced enrols
    cases link with
    | register | attest => exact holds
    | submit active rewrites => exact rewrites.sequenced holds
    | refuse rewrites => exact rewrites.sequenced holds
    | bind permitted _ _ lives => exact lives.sequenced holds
    | support supports => exact supports.lives.sequenced holds
  | govern governs =>
    cases governs with
    | rule lives => exact lives.sequenced sequenced
    | support supports => exact supports.lives.sequenced sequenced

theorem kernel_sequenced {state : KernelState} (reachable : kernel.Reachable state) :
    state.database.Sequenced := by
  refine reachable.invariant (fun state => state.database.Sequenced) ?_ ?_
  · rintro _ ⟨storeId, rfl⟩
    rfl
  · intro state next reached sequenced step
    rcases (reachable_advances reached step).tables with same | ⟨now, -, -, moved⟩
    · rw [same]
      exact sequenced
    · exact moved.sequenced sequenced

/-- In every reachable state every stored execution has its complete history, and the events of all
executions are numbered without a gap. -/
theorem history_complete {state : KernelState} (reachable : kernel.Reachable state) :
    (∀ row ∈ state.database.executions,
      row.Chronicled (state.database.ledger row.executionId).events) ∧
    state.database.Sequenced :=
  ⟨fun _ member => chronicled_kept.holds reachable (Table.find?_key member),
    kernel_sequenced reachable⟩

/-- The history of the example is the submission, the lease and the start. -/
theorem history_sample :
    samplePerformed.database.events.map (·.eventType) = [.submitted, .leased, .started] ∧
    samplePerformed.database.Sequenced :=
  ⟨by decide +kernel, (history_complete (reachable_after sampleName samplePerforming)).2⟩

/-! ### Attempts and redeliveries -/

/-- The number of leases that a history grants. -/
def leasesGranted (events : List EventDraft) : ℕ :=
  events.countP fun event => event.eventType = .leased

/-- The number of times a history goes back to the queue after an attempt. -/
def redeliveries (events : List EventDraft) : ℕ :=
  events.countP fun event => event.eventType.redelivers

/-- The number of attempts that a history grants by deciding about uncertain effects. -/
def recoveriesResolved (events : List EventDraft) : ℕ :=
  events.countP fun event => event.eventType = .effectRecoveryResolved

/-- The event puts an execution back into the queue, and no decision about an uncertain effect is
the reason. -/
def EventDraft.Requeues (event : EventDraft) : Prop :=
  event.toState = .queued ∧ event.fromState.isSome ∧ event.eventType ≠ .effectRecoveryResolved

/-- The attempts of an execution are the leases it was granted, no more than the retry policy and
resolved recoveries allow. -/
structure ExecutionRow.Accounted (row : ExecutionRow) (events : List EventDraft) : Prop where
  fence : row.attempt = row.fence
  attempts : row.attempt = leasesGranted events
  redelivered : row.redeliveryCount = redeliveries events
  bounded : row.attempt ≤ row.command.retryPolicy.maxAttempts + recoveriesResolved events
  spare : row.state = .queued →
    row.attempt < row.command.retryPolicy.maxAttempts + recoveriesResolved events
  requeued : ∀ earlier event, earlier ++ [event] <+: events → event.Requeues →
    leasesGranted earlier < row.command.retryPolicy.maxAttempts

/-- What an event of a type adds to the columns that are counted. -/
structure EventType.Counts (eventType : EventType) (row after : ExecutionRow) : Prop where
  attempt : after.attempt = row.attempt + if eventType = .leased then 1 else 0
  fence : after.fence = row.fence + if eventType = .leased then 1 else 0
  redelivery : after.redeliveryCount = row.redeliveryCount + if eventType.redelivers then 1 else 0

theorem Transit.counts
    (transit : Transit now ledger row eventType after results) : eventType.Counts row after := by
  cases transit with
  | lease | start | renew | next | cancel | resume => exact ⟨rfl, rfl, rfl⟩
  | requeue redelivery =>
    have ordinary : eventType ≠ .leased := by
      rintro rfl
      cases redelivery
    exact ⟨by rw [if_neg ordinary]; rfl, by rw [if_neg ordinary]; rfl,
      by rw [redelivery]; rfl⟩
  | finish ending =>
    revert ending
    cases eventType <;> first | exact fun _ => ⟨rfl, rfl, rfl⟩ | exact nofun
  | park parking =>
    revert parking
    cases eventType <;> first | exact fun _ => ⟨rfl, rfl, rfl⟩ | exact nofun
  | repark correcting =>
    revert correcting
    cases eventType <;> first | exact fun _ => ⟨rfl, rfl, rfl⟩ | exact nofun

theorem Transit.requeues
    (transit : Transit now ledger row eventType after results) (queued : after.state = .queued) :
    eventType = .effectRecoveryResolved ∨
      (eventType.redelivers = true ∧ row.attempt < row.command.retryPolicy.maxAttempts) := by
  cases transit with
  | lease | start | park => cases queued
  | renew held =>
    rw [show row.state = .queued from queued] at held
    cases held
  | requeue redelivery held spare => exact .inr ⟨redelivery, spare⟩
  | @finish _ result _ ending alone ordinary allowed =>
    have ended := result.status_terminal
    rw [show result.status = .queued from queued] at ended
    cases ended
  | repark correcting parked =>
    rw [show row.state = .queued from queued] at parked
    cases parked
  | next parked =>
    rw [show row.state = .queued from queued] at parked
    cases parked
  | @cancel _ result _ parked wanted reasoned cancelled =>
    rw [show result.status = .queued from queued] at cancelled
    cases cancelled
  | resume parked => exact .inl rfl

section

variable (events : List EventDraft) (event : EventDraft)

include events event

theorem leasesGranted_concat :
    leasesGranted (events ++ [event]) =
      leasesGranted events + if event.eventType = .leased then 1 else 0 := by
  simp [leasesGranted, countP_append, countP_singleton]

theorem redeliveries_concat :
    redeliveries (events ++ [event]) =
      redeliveries events + if event.eventType.redelivers then 1 else 0 := by
  simp [redeliveries, countP_append, countP_singleton]

theorem recoveriesResolved_concat :
    recoveriesResolved (events ++ [event]) =
      recoveriesResolved events + if event.eventType = .effectRecoveryResolved then 1 else 0 := by
  simp [recoveriesResolved, countP_append, countP_singleton]

end

theorem Transit.accounted (data : List (String × Json)) (accounted : row.Accounted ledger.events)
    (transit : Transit now ledger row eventType after results) :
    after.Accounted (ledger.events ++ [after.entry eventType (some row.state) data]) := by
  have counts := transit.counts
  have command := transit.succeeds.command
  have bounded := accounted.bounded
  have resolved := recoveriesResolved_concat ledger.events
    (after.entry eventType (some row.state) data)
  rw [show (after.entry eventType (some row.state) data).eventType = eventType from rfl]
    at resolved
  refine ⟨?_, ?_, ?_, ?_, ?_, ?_⟩
  · rw [counts.attempt, counts.fence, accounted.fence]
  · rw [leasesGranted_concat, ← accounted.attempts]
    exact counts.attempt
  · rw [redeliveries_concat, ← accounted.redelivered]
    exact counts.redelivery
  · rw [counts.attempt, command, resolved]
    by_cases leased : eventType = .leased
    · have queued : row.state = .queued := by
        subst leased
        cases transit with
        | lease queued => exact queued
        | requeue redelivery => cases redelivery
        | finish ending => cases ending
        | park parking => cases parking
        | repark correcting => cases correcting
      have spare := accounted.spare queued
      rw [if_pos leased]
      omega
    · rw [if_neg leased]
      omega
  · intro queued
    rw [counts.attempt, command, resolved]
    rcases transit.requeues queued with rfl | ⟨redelivery, spare⟩
    · rw [if_neg (by decide), if_pos rfl]
      omega
    · have ordinary : eventType ≠ .leased := by
        rintro rfl
        cases redelivery
      rw [if_neg ordinary]
      omega
  · intro earlier event before requeues
    rw [command]
    rcases prefix_concat_iff.mp before with same | old
    · obtain ⟨rfl, new⟩ := append_inj' same rfl
      rw [List.cons.injEq] at new
      rw [← accounted.attempts]
      obtain ⟨queued, -, unresolved⟩ := requeues
      rw [new.1] at queued unresolved
      rcases transit.requeues queued with resolution | ⟨-, spare⟩
      · exact absurd resolution unresolved
      · exact spare
    · exact accounted.requeued earlier event old requeues

theorem accounted_kept : Kept fun _ row ledger => row.Accounted ledger.events :=
  Kept.ofHistory (fun _ row events _ => row.Accounted events) (fun accounted _ => accounted)
    (fun now command data =>
      { fence := rfl
        attempts := rfl
        redelivered := rfl
        bounded := Nat.zero_le _
        spare := fun _ => command.retryPolicy.attemptsPositive
        requeued := by
          intro earlier event before requeues
          obtain ⟨rest, same⟩ := before
          cases earlier with
          | nil =>
            rw [nil_append, singleton_append, List.cons.injEq] at same
            rw [same.1] at requeues
            cases requeues.2.1
          | cons first others => simp at same })
    fun data accounted transit => transit.accounted data accounted

/-- In every reachable state the attempts of every stored execution are accounted for. -/
theorem attempts_accounted {state : KernelState} (reachable : kernel.Reachable state) :
    ∀ row ∈ state.database.executions,
      row.Accounted (state.database.ledger row.executionId).events :=
  fun _ member => accounted_kept.holds reachable (Table.find?_key member)

/-- The execution of the example has used its one attempt. -/
theorem attempts_sample : ∃ row, samplePerformed.database.executions.find? sampleName = some row ∧
    row.attempt = 1 ∧ row.Accounted (samplePerformed.database.ledger sampleName).events := by
  have attempted : (samplePerformed.database.executions.find? sampleName).map (·.attempt) =
      some 1 := by
    decide +kernel
  obtain ⟨row, stored, attempt⟩ := map_eq_some_iff.mp attempted
  have accounted := attempts_accounted (reachable_after sampleName samplePerforming) row
    (Table.mem_of_find? stored)
  rw [Table.key_of_find? stored] at accounted
  exact ⟨row, stored, attempt, accounted⟩

/-! ### Well-formed rows -/

/-- The columns of a row agree with each other, and with the results of the execution that are in
the outbox. -/
structure ExecutionRow.Formed (row : ExecutionRow) (time : Timestamp)
    (results : List ExecutionResult) : Prop where
  command : row.command.executionId = row.executionId
  revision : 1 ≤ row.revision
  fence : row.attempt = row.fence
  held : row.state.held = true → 1 ≤ row.attempt
  lease : row.lease.isSome ↔ row.state.held = true
  ended : row.result.isSome ↔ row.state.terminal = true
  delivered : results = row.result.toList
  answers : ∀ result ∈ row.result, result.AnswersFor row ∧ result.status = row.state ∧
    row.startedAt = some result.startedAt
  pointer : row.recoveryEffectId.isSome ↔ row.state = .recoveryRequired
  target : row.recoveryTargetState.isSome ↔ row.state = .recoveryRequired
  reason : row.recoveryReason.isSome ↔ row.recoveryTargetState = some .cancelled
  started : row.state = .running ∨ row.state = .recoveryRequired → row.startedAt.isSome
  unstarted : row.state = .queued ∨ row.state = .leased → row.startedAt = none
  created : row.createdAt ≤ row.updatedAt
  updated : row.updatedAt ≤ time

namespace ExecutionRow.Formed

variable {time : Timestamp}

section

variable (formed : row.Formed time results)

include formed

theorem later (order : time ≤ now) : row.Formed now results :=
  { formed with updated := formed.updated.trans order }

theorem unanswered (live : row.state.terminal = false) : row.result = none ∧ results = [] := by
  have none : row.result = none := by
    rw [← not_isSome_iff_eq_none, formed.ended, live]
    exact Bool.false_ne_true
  refine ⟨none, ?_⟩
  rw [formed.delivered, none]
  rfl

theorem undisturbed (ordinary : row.state ≠ .recoveryRequired) :
    row.recoveryEffectId = none ∧ row.recoveryTargetState = none ∧ row.recoveryReason = none := by
  have target : row.recoveryTargetState = none := by
    rw [← not_isSome_iff_eq_none, formed.target]
    exact ordinary
  refine ⟨?_, target, ?_⟩
  · rw [← not_isSome_iff_eq_none, formed.pointer]
    exact ordinary
  · rw [← not_isSome_iff_eq_none, formed.reason, target]
    exact nofun

theorem unleased (free : row.state.held = false) : row.lease = none := by
  rw [← not_isSome_iff_eq_none, formed.lease, free]
  exact Bool.false_ne_true

end

end ExecutionRow.Formed

variable {state : ExecutionState}

theorem ExecutionState.held_live (held : state.held = true) :
    state.terminal = false ∧ state ≠ .recoveryRequired := by
  cases state <;> simp_all [ExecutionState.held, ExecutionState.terminal]

theorem ExecutionState.terminal_settled (ended : state.terminal = true) :
    state ≠ .recoveryRequired ∧ state ≠ .queued ∧ state ≠ .leased ∧ state ≠ .running := by
  cases state <;> simp_all [ExecutionState.terminal]

variable {time : Timestamp} {last : KernelState}

theorem ExecutionRow.Formed.terminated {after : List ExecutionResult} {result : ExecutionResult}
    (formed : row.Formed time results) (order : time ≤ now) (live : row.state.terminal = false)
    (answers : result.AnswersFor row) (stored : ledger.results = results)
    (delivers : ledger.Delivers result after) : (row.terminated result now).Formed now after := by
  have ended := result.status_terminal
  obtain ⟨settled, unqueued, unleased, stopped⟩ := ExecutionState.terminal_settled ended
  have empty := (formed.unanswered live).2
  have delivered : after = [result] := by
    rcases delivers with added | ⟨-, present⟩
    · rw [added, stored, empty]
    · rw [stored, empty] at present
      exact absurd rfl present
  exact
    { command := formed.command
      revision := Nat.le_add_left 1 row.revision
      fence := formed.fence
      held := fun held => absurd held (by
        rw [show (row.terminated result now).state = result.status from rfl,
          ExecutionState.terminal_not_held ended]
        exact Bool.false_ne_true)
      lease := by
        show false = true ↔ result.status.held = true
        rw [ExecutionState.terminal_not_held ended]
      ended := ⟨fun _ => ended, fun _ => rfl⟩
      delivered := delivered
      answers := by
        rintro _ ⟨⟩
        exact ⟨⟨answers.execution, answers.attempt, answers.fence, answers.correlation,
          answers.causation⟩, rfl, rfl⟩
      pointer := ⟨nofun, fun parked => absurd parked settled⟩
      target := ⟨nofun, fun parked => absurd parked settled⟩
      reason := ⟨nofun, nofun⟩
      started := fun running => running.elim (fun same => absurd same stopped)
        fun same => absurd same settled
      unstarted := fun waiting => waiting.elim (fun same => absurd same unqueued)
        fun same => absurd same unleased
      created := formed.created.trans (formed.updated.trans order)
      updated := le_refl now }

theorem Transit.formed (formed : row.Formed now ledger.results)
    (transit : Transit now ledger row eventType after results) : after.Formed now results := by
  have succeeds := transit.succeeds
  have created : after.createdAt ≤ after.updatedAt := by
    rw [succeeds.createdAt, succeeds.updatedAt]
    exact formed.created.trans formed.updated
  have updated : after.updatedAt ≤ now := succeeds.updatedAt.le
  have revision : 1 ≤ after.revision := by
    rw [succeeds.revision]
    exact Nat.le_add_left 1 row.revision
  have command : after.command.executionId = after.executionId := by
    rw [succeeds.command, succeeds.executionId]
    exact formed.command
  obtain ⟨unanswered, empty⟩ := formed.unanswered succeeds.live
  have silent : ∀ {state : ExecutionState} (other : ExecutionRow), state.terminal = false →
      (row.result.isSome ↔ state.terminal = true) ∧
        ∀ result ∈ row.result, result.AnswersFor other ∧ result.status = state ∧
          other.startedAt = some result.startedAt := by
    intro state other live
    rw [unanswered, live]
    exact ⟨⟨nofun, nofun⟩, nofun⟩
  cases transit with
  | lease queued columns =>
    obtain ⟨pointer, target, reason⟩ := formed.undisturbed (by rw [queued]; decide)
    exact
      { command, revision, created, updated
        fence := congrArg (· + 1) formed.fence
        held := fun _ => Nat.le_add_left 1 row.attempt
        lease := ⟨fun _ => rfl, fun _ => rfl⟩
        ended := (silent row rfl).1
        delivered := formed.delivered
        answers := (silent _ rfl).2
        pointer := by
          show row.recoveryEffectId.isSome ↔ _
          rw [pointer]
          exact ⟨nofun, nofun⟩
        target := by
          show row.recoveryTargetState.isSome ↔ _
          rw [target]
          exact ⟨nofun, nofun⟩
        reason := formed.reason
        started := fun running => running.elim nofun nofun
        unstarted := fun _ => formed.unstarted (.inl queued) }
  | start leased =>
    obtain ⟨pointer, target, reason⟩ := formed.undisturbed (by rw [leased]; decide)
    have held : row.state.held = true := by
      rw [leased]
      rfl
    exact
      { command, revision, created, updated
        fence := formed.fence
        held := fun _ => formed.held held
        lease := ⟨fun _ => rfl, fun _ => formed.lease.mpr held⟩
        ended := (silent row rfl).1
        delivered := formed.delivered
        answers := (silent _ rfl).2
        pointer := by
          show row.recoveryEffectId.isSome ↔ _
          rw [pointer]
          exact ⟨nofun, nofun⟩
        target := by
          show row.recoveryTargetState.isSome ↔ _
          rw [target]
          exact ⟨nofun, nofun⟩
        reason := formed.reason
        started := fun _ => rfl
        unstarted := fun waiting => waiting.elim nofun nofun }
  | renew held expiresAt =>
    exact
      { formed with
        command, revision, created, updated
        lease := by
          show (row.lease.map _).isSome ↔ _
          rw [isSome_map]
          exact formed.lease
        answers := (silent _ (ExecutionState.held_live held).1).2 }
  | requeue redelivery held spare settled nextAttemptAt =>
    obtain ⟨-, target, reason⟩ := formed.undisturbed (ExecutionState.held_live held).2
    exact
      { command, revision, created, updated
        fence := formed.fence
        held := nofun
        lease := ⟨nofun, nofun⟩
        ended := (silent row rfl).1
        delivered := formed.delivered
        answers := (silent _ rfl).2
        pointer := ⟨nofun, nofun⟩
        target := by
          show row.recoveryTargetState.isSome ↔ _
          rw [target]
          exact ⟨nofun, nofun⟩
        reason := formed.reason
        started := fun running => running.elim nofun nofun
        unstarted := fun _ => rfl }
  | finish ending alone ordinary allowed settled answers delivers =>
    exact formed.terminated (le_refl now) succeeds.live answers rfl delivers
  | @park _ pointer requested reason parking ordinary allowed closed uncertain durable =>
    exact
      { command, revision, created, updated
        fence := formed.fence
        held := nofun
        lease := ⟨nofun, nofun⟩
        ended := (silent row rfl).1
        delivered := formed.delivered
        answers := (silent _ rfl).2
        pointer := ⟨fun _ => rfl, fun _ => rfl⟩
        target := ⟨fun _ => rfl, fun _ => rfl⟩
        reason := by
          show (if requested = .cancelled then reason else none).isSome ↔
            some requested = some RecoveryTarget.cancelled
          by_cases wanted : requested = .cancelled
          · rw [if_pos wanted, wanted]
            exact ⟨fun _ => rfl, fun _ => durable wanted⟩
          · rw [if_neg wanted, Option.some.injEq]
            exact ⟨nofun, fun same => absurd same wanted⟩
        started := fun _ => rfl
        unstarted := fun waiting => waiting.elim nofun nofun }
  | @repark _ pointer requested reason correcting parked uncertain durable =>
    exact
      { formed with
        command, revision, created, updated
        answers := (silent _ succeeds.live).2
        pointer := ⟨fun _ => parked, fun _ => rfl⟩
        target := ⟨fun _ => parked, fun _ => rfl⟩
        reason := by
          show (if row.recoveryTargetState = some .cancelled then row.recoveryReason
            else if (row.recoveryTargetState.getD .queued).merge requested = .cancelled then reason
            else none).isSome ↔
              some ((row.recoveryTargetState.getD .queued).merge requested) =
                some RecoveryTarget.cancelled
          by_cases remembered : row.recoveryTargetState = some .cancelled
          · rw [if_pos remembered, formed.reason, remembered]
            cases requested <;> exact ⟨fun _ => rfl, fun _ => rfl⟩
          · rw [if_neg remembered, Option.some.injEq]
            have queued : row.recoveryTargetState.getD .queued = .queued := by
              cases current : row.recoveryTargetState with
              | none => rfl
              | some target =>
                cases target with
                | queued => rfl
                | cancelled => exact absurd current remembered
            rw [queued]
            by_cases wanted : RecoveryTarget.merge .queued requested = .cancelled
            · rw [if_pos wanted]
              refine ⟨fun _ => wanted, fun _ => durable ?_⟩
              cases requested with
              | queued => cases wanted
              | cancelled => rfl
            · rw [if_neg wanted]
              exact ⟨nofun, fun same => absurd same wanted⟩ }
  | next parked =>
    exact
      { formed with
        command, revision, created, updated
        answers := (silent _ succeeds.live).2
        pointer := ⟨fun _ => parked, fun _ => rfl⟩ }
  | cancel parked wanted reasoned cancelled explained settled answers delivers =>
    exact formed.terminated (le_refl now) succeeds.live answers rfl delivers
  | resume parked =>
    exact
      { command, revision, created, updated
        fence := formed.fence
        held := nofun
        lease := ⟨nofun, nofun⟩
        ended := (silent row rfl).1
        delivered := formed.delivered
        answers := (silent _ rfl).2
        pointer := ⟨nofun, nofun⟩
        target := ⟨nofun, nofun⟩
        reason := ⟨nofun, nofun⟩
        started := fun running => running.elim nofun nofun
        unstarted := fun _ => rfl }

theorem formed_kept : Kept fun time row ledger => row.Formed time ledger.results :=
  Kept.ofHistory (fun time row _ results => row.Formed time results)
    (fun formed order => formed.later order)
    (fun now _ _ =>
      { command := rfl
        revision := le_refl 1
        fence := rfl
        held := nofun
        lease := ⟨nofun, nofun⟩
        ended := ⟨nofun, nofun⟩
        delivered := rfl
        answers := nofun
        pointer := ⟨nofun, nofun⟩
        target := ⟨nofun, nofun⟩
        reason := ⟨nofun, nofun⟩
        started := fun running => running.elim nofun nofun
        unstarted := fun _ => rfl
        created := le_refl now
        updated := le_refl now })
    fun _ formed transit => transit.formed formed

/-! ### Decoding -/

theorem ExecutionRow.Formed.leaseRecord (formed : row.Formed time results) :
    ∃ lease, row.leaseRecord = .ok lease ∧ lease.isSome = row.lease.isSome ∧
      ∀ record ∈ lease, record.executionId = row.executionId ∧ record.attempt = row.attempt ∧
        record.fence = row.fence ∧ record.revision = row.revision := by
  unfold ExecutionRow.leaseRecord
  cases stored : row.lease with
  | none => exact ⟨none, rfl, rfl, nofun⟩
  | some columns =>
    have held : row.state.held = true := by
      rw [← formed.lease, stored]
      rfl
    have attempt := formed.held held
    have fence : 1 ≤ row.fence := by
      rw [← formed.fence]
      exact attempt
    dsimp only
    rw [dif_pos fence, dif_pos attempt, dif_pos formed.revision]
    refine ⟨_, rfl, rfl, ?_⟩
    rintro _ ⟨⟩
    exact ⟨rfl, rfl, rfl, rfl⟩

theorem ExecutionSnapshot.make_ok {fields : SnapshotFields} (accepted : fields.check = .ok ()) :
    ∃ snapshot, make fields = .ok snapshot := by
  unfold make
  split
  · exact ⟨_, rfl⟩
  · rename_i failed
    rw [accepted] at failed
    cases failed

theorem ExecutionRow.Formed.decodes (formed : row.Formed time results) :
    ∃ snapshot, row.snapshot = .ok snapshot := by
  obtain ⟨lease, decoded, present, identity⟩ := formed.leaseRecord
  unfold ExecutionRow.snapshot
  rw [decoded]
  refine ExecutionSnapshot.make_ok ?_
  have ordinary : row.state ≠ .recoveryRequired → row.recoveryEffectId.isNone ∧
      row.recoveryTargetState.isNone ∧ row.recoveryReason.isNone := by
    intro other
    obtain ⟨pointer, target, reason⟩ := formed.undisturbed other
    rw [pointer, target, reason]
    exact ⟨rfl, rfl, rfl⟩
  simp only [SnapshotFields.check, ensure_bind_eq_ok, ensure_eq_ok]
  refine ⟨formed.revision, by rw [formed.fence], formed.command, ?_, ?_, formed.ended.symm,
    formed.pointer.mpr, fun other => (ordinary other).1, formed.target.mpr,
    fun _ => formed.reason.symm, fun other => (ordinary other).2, identity, ?_, formed.started,
    fun waiting => by rw [formed.unstarted waiting]; rfl, formed.created, ?_⟩
  · intro held
    rw [present]
    exact formed.lease.mpr held
  · intro free
    rw [← not_isSome, present, formed.unleased free]
    rfl
  · intro result stored
    obtain ⟨answers, status, -⟩ := formed.answers result stored
    exact ⟨answers.execution, answers.attempt, answers.fence, status, answers.correlation,
      answers.causation⟩
  · intro ended
    obtain ⟨result, stored⟩ := isSome_iff_exists.mp (formed.ended.mpr ended)
    obtain ⟨-, -, started⟩ := formed.answers result stored
    rw [stored, started]
    exact ⟨rfl, rfl⟩

/-! ### What has ended stays -/

theorem Move.ended {after : Ledger} {need : Need}
    (move : Move now ledger need after) (stored : ledger.row = some row)
    (ended : row.state.terminal = true) :
    after.row = some row ∧ after.results = ledger.results := by
  cases move with
  | submit fresh =>
    rw [stored] at fresh
    cases fresh
  | transit found transit =>
    cases stored.symm.trans found
    rw [transit.succeeds.live] at ended
    cases ended
  | perform => exact ⟨stored, rfl⟩
  | resolve found pointed kept uncertain recorded transit =>
    cases stored.symm.trans found
    rw [transit.succeeds.live] at ended
    cases ended

variable {executionId : Identifier}

theorem ended_stays {state : KernelState} (reachable : kernel.Reachable state)
    (run : kernel.Run state last) (stored : state.database.executions.find? executionId = some row)
    (ended : row.state.terminal = true) :
    last.database.executions.find? executionId = some row ∧
      (last.database.ledger executionId).results = (state.database.ledger executionId).results := by
  refine formed_kept.respects (fun before after => ∀ row, before.row = some row →
      row.state.terminal = true → after.row = some row ∧ after.results = before.results)
    (fun _ _ stored _ => ⟨stored, rfl⟩) ?_ ?_ reachable run executionId row stored ended
  · intro first second third left right row stored ended
    obtain ⟨kept, same⟩ := left row stored ended
    obtain ⟨still, equal⟩ := right row kept ended
    exact ⟨still, equal.trans same⟩
  · intro now ledger need after _ move row stored ended
    exact move.ended stored ended

/-- A stored execution has a result exactly when it has ended, the outbox holds exactly that result,
and decoding accepts the row. -/
structure ExecutionRow.Answered (row : ExecutionRow) (database : Database) : Prop where
  ended : row.result.isSome ↔ row.state.terminal = true
  delivered : (database.resultOutbox.rows.filter fun delivery =>
    delivery.executionId = row.executionId).map (·.result) = row.result.toList
  answers : ∀ result ∈ row.result, result.AnswersFor row ∧ result.status = row.state ∧
    row.startedAt = some result.startedAt
  decodes : ∃ snapshot, row.snapshot = .ok snapshot

/-- In every state of every run each stored execution has its one result exactly when it has ended,
and between two states of a run an ended execution stays as it is. -/
theorem results_unique {state last : KernelState} (reachable : kernel.Reachable state)
    (run : kernel.Run state last) :
    (∀ row ∈ last.database.executions, row.Answered last.database) ∧
    ∀ row ∈ state.database.executions, row.state.terminal = true →
      last.database.executions.find? row.executionId = some row := by
  refine ⟨fun row member => ?_, fun row member ended => ?_⟩
  · have formed := formed_kept.holds (reachable.run run) (Table.find?_key member)
    exact ⟨formed.ended, formed.delivered, formed.answers, formed.decodes⟩
  · exact (ended_stays reachable run (Table.find?_key member) ended).1

/-- The calls of a submitter that takes its command back before it is claimed. -/
def sampleCancelling : List (Operation × Environment) :=
  [(.enrol (.submit sampleCommand), sampleEnvironment 0),
    (.work (.cancel sampleName .none sampleName none), sampleEnvironment 0)]

/-- The cancelled command of the example has its result. -/
theorem results_sample : ∃ row,
    ((KernelState.initial sampleName).after sampleCancelling).database.executions.find?
      sampleName = some row ∧ row.state = .cancelled ∧ row.result.isSome := by
  have cancelled : (((KernelState.initial sampleName).after
      sampleCancelling).database.executions.find? sampleName).map (·.state) = some .cancelled := by
    decide +kernel
  obtain ⟨row, stored, state⟩ := map_eq_some_iff.mp cancelled
  have answered := (results_unique (reachable_after sampleName []) (run_after _ sampleCancelling)).1
    row (Table.mem_of_find? stored)
  refine ⟨row, stored, state, answered.ended.mpr ?_⟩
  rw [state]
  rfl

/-! ### The intent to cancel -/

/-- The execution waits for recovery and is to be cancelled afterwards for a reason, or it has been
cancelled for that reason. -/
def ExecutionRow.Condemned (row : ExecutionRow) (reason : Identifier) : Prop :=
  (row.state = .recoveryRequired ∧ row.recoveryTargetState = some .cancelled ∧
    row.recoveryReason = some reason) ∨
  (row.state = .cancelled ∧ ∃ result ∈ row.result, result.status = .cancelled ∧
    result.error.map (·.message) = some reason.text)

variable {reason : Identifier}

theorem Transit.condemned (transit : Transit now ledger row eventType after results)
    (condemned : row.Condemned reason) : after.Condemned reason := by
  have live := transit.succeeds.live
  rcases condemned with ⟨parked, wanted, reasoned⟩ | ⟨cancelled, -⟩
  · cases transit with
    | lease queued =>
      rw [parked] at queued
      cases queued
    | start leased =>
      rw [parked] at leased
      cases leased
    | renew held =>
      rw [parked] at held
      cases held
    | requeue redelivery held =>
      rw [parked] at held
      cases held
    | finish ending alone ordinary => exact absurd parked ordinary
    | park parking ordinary => exact absurd parked ordinary
    | @repark _ pointer requested reason' =>
      refine Or.inl ⟨parked, ?_, ?_⟩
      · show some ((row.recoveryTargetState.getD .queued).merge requested) = _
        rw [wanted]
        cases requested <;> rfl
      · show (if row.recoveryTargetState = some .cancelled then row.recoveryReason else _) = _
        rw [if_pos wanted]
        exact reasoned
    | next => exact .inl ⟨parked, wanted, reasoned⟩
    | cancel _ _ named cancelled explained =>
      cases reasoned.symm.trans named
      exact .inr ⟨cancelled, _, rfl, cancelled, explained⟩
    | resume _ certain unwanted => exact absurd wanted unwanted
  · rw [cancelled] at live
    cases live

theorem Move.condemned {after : Ledger} {need : Need}
    (move : Move now ledger need after) (stored : ledger.row = some row)
    (condemned : row.Condemned reason) : ∃ next, after.row = some next ∧ next.Condemned reason := by
  cases move with
  | submit fresh =>
    rw [stored] at fresh
    cases fresh
  | transit found transit =>
    cases stored.symm.trans found
    exact ⟨_, rfl, transit.condemned condemned⟩
  | perform => exact ⟨row, stored, condemned⟩
  | resolve found pointed kept uncertain recorded transit =>
    cases stored.symm.trans found
    exact ⟨_, rfl, transit.condemned condemned⟩

theorem condemned_stays {state : KernelState} (reachable : kernel.Reachable state)
    (run : kernel.Run state last) (stored : state.database.executions.find? executionId = some row)
    (condemned : row.Condemned reason) :
    ∃ next, last.database.executions.find? executionId = some next ∧ next.Condemned reason := by
  refine formed_kept.respects (fun before after => ∀ row, before.row = some row →
      row.Condemned reason → ∃ next, after.row = some next ∧ next.Condemned reason)
    (fun _ row stored condemned => ⟨row, stored, condemned⟩) ?_ ?_ reachable run executionId row
      stored condemned
  · intro first second third left right row stored condemned
    obtain ⟨next, kept, still⟩ := left row stored condemned
    exact right next kept still
  · intro now ledger need after _ move row stored condemned
    exact move.condemned stored condemned

/-- Once an execution waits for recovery and is to be cancelled, it still waits so in every later
state, for the same reason, or has been cancelled for it. -/
theorem cancellation_durable {state last : KernelState} (reachable : kernel.Reachable state)
    (run : kernel.Run state last) {executionId : Identifier} {row : ExecutionRow}
    (stored : state.database.executions.find? executionId = some row)
    (parked : row.state = .recoveryRequired)
    (wanted : row.recoveryTargetState = some .cancelled) :
    ∃ reason, row.recoveryReason = some reason ∧
      ∃ next, last.database.executions.find? executionId = some next ∧
        next.Condemned reason := by
  have formed := formed_kept.holds reachable stored
  obtain ⟨reason, reasoned⟩ := isSome_iff_exists.mp (formed.reason.mpr wanted)
  exact ⟨reason, reasoned, condemned_stays reachable run stored
    (.inl ⟨parked, wanted, reasoned⟩)⟩

/-- The calls that cancel the command of the example while its effect is being performed. -/
def sampleParking : List (Operation × Environment) :=
  [(.work (.cancel sampleName (.revision 3) sampleName none), sampleEnvironment 0)]

def sampleResolving : List (Operation × Environment) :=
  [(.work (.resolveEffect sampleName .applied .null 3 sampleName), sampleEnvironment 0)]

/-- The command of the example, cancelled while its effect is performed, stays condemned. -/
theorem cancellation_sample : ∃ next,
    ((samplePerformed.after sampleParking).after sampleResolving).database.executions.find?
      sampleName = some next ∧ ∃ reason, next.Condemned reason := by
  have parked : ((samplePerformed.after sampleParking).database.executions.find? sampleName).map
      (fun row => (row.state, row.recoveryTargetState)) =
        some (.recoveryRequired, some .cancelled) := by
    decide +kernel
  obtain ⟨row, stored, both⟩ := map_eq_some_iff.mp parked
  rw [Prod.mk.injEq] at both
  have reachable : kernel.Reachable (samplePerformed.after sampleParking) :=
    (reachable_after sampleName samplePerforming).run (run_after _ sampleParking)
  obtain ⟨reason, -, next, found, condemned⟩ := cancellation_durable reachable
    (run_after _ sampleResolving) stored both.1 both.2
  exact ⟨next, found, reason, condemned⟩

end DispatcherSdk.ExecutionKernel
