/-
This file says what an operation may do to the tables as a whole.

Work moves the lives of executions that exist, and charges a Run for each attempt that it
grants; it leaves the controls of Runs, their members and their receipts alone. Enrolment brings
new executions and members in.
-/

import DispatcherSdk.ExecutionKernel.Submission
import Mathlib.Logic.Function.Basic
import Mathlib.Logic.Relation

namespace DispatcherSdk.ExecutionKernel

open Library List

/-- What the store holds about one execution. How a result is being delivered is left out. -/
@[ext] structure Ledger where
  row : Option ExecutionRow
  events : List EventDraft
  /-- The effects that the execution owns, by their names. -/
  effects : Identifier → Option EffectRow
  effectEvents : List EffectEventRow
  results : List ExecutionResult

namespace Ledger

/-- Nothing is known about the execution. -/
def blank : Ledger := ⟨none, [], fun _ => none, [], []⟩

def write (ledger : Ledger) : Write → Ledger
  | .execution row => { ledger with row := some row }
  | .event draft => { ledger with events := ledger.events ++ [draft] }
  | .effect row =>
    { ledger with effects := Function.update ledger.effects row.effectId (some row) }
  | .effectEvent row => { ledger with effectEvents := ledger.effectEvents ++ [row] }
  | .outbox row => { ledger with results := row.result :: ledger.results }

def writeAll (ledger : Ledger) (writes : List Write) : Ledger :=
  writes.foldl Ledger.write ledger

@[simp] theorem writeAll_nil (ledger : Ledger) : ledger.writeAll [] = ledger := rfl

@[simp] theorem writeAll_cons (ledger : Ledger) (first : Write) (rest : List Write) :
    ledger.writeAll (first :: rest) = (ledger.write first).writeAll rest := rfl

theorem writeAll_append (ledger : Ledger) (first second : List Write) :
    ledger.writeAll (first ++ second) = (ledger.writeAll first).writeAll second :=
  foldl_append

end Ledger

/-! ### The ledger of the tables -/

namespace Database

def ledger (database : Database) (executionId : Identifier) : Ledger where
  row := database.executions.find? executionId
  events :=
    (database.events.filter fun event => event.executionId = executionId).map (·.toEventDraft)
  effects effectId :=
    (database.effects.find? effectId).filter fun effect => effect.executionId = executionId
  effectEvents := database.effectEvents.filter fun event => event.executionId = executionId
  results :=
    (database.resultOutbox.rows.filter fun row => row.executionId = executionId).map (·.result)

variable {effect : EffectRow}

theorem ledger_effects {database : Database} {executionId effectId : Identifier} :
    (database.ledger executionId).effects effectId = some effect ↔
      database.effects.find? effectId = some effect ∧ effect.executionId = executionId := by
  simp [ledger, Option.filter_eq_some_iff]

theorem ledger_effects_of_mem {database : Database} {executionId : Identifier}
    (member : effect ∈ database.effects) (owned : effect.executionId = executionId) :
    (database.ledger executionId).effects effect.effectId = some effect :=
  ledger_effects.mpr ⟨Table.find?_key member, owned⟩

theorem ledger_initial (storeId executionId : Identifier) :
    (initial storeId).ledger executionId = Ledger.blank := by
  rfl

end Database

/-! ### Writes -/

def Write.Fits (database : Database) : Write → Prop
  | .effect row => ∀ stored, database.effects.find? row.effectId = some stored →
      stored.executionId = row.executionId
  | .outbox row => database.resultOutbox.find? row.resultId = none
  | .execution _ | .event _ | .effectEvent _ => True

/-- Several writes have room, one after the other. -/
def FitAll (database : Database) : List Write → Prop
  | [] => True
  | first :: rest => first.Fits database ∧ FitAll (database.write first) rest

variable {database : Database}

theorem FitAll.append {first second : List Write}
    (firstFit : FitAll database first) (secondFit : FitAll (database.writeAll first) second) :
    FitAll database (first ++ second) := by
  induction first generalizing database with
  | nil => exact secondFit
  | cons write rest hypothesis =>
    exact ⟨firstFit.1, hypothesis firstFit.2 secondFit⟩

namespace Database

theorem ledger_effects_put {row : EffectRow} (fits : (Write.effect row).Fits database)
    (executionId effectId : Identifier) :
    ((database.write (.effect row)).ledger executionId).effects effectId =
      if row.executionId = executionId then
        Function.update (database.ledger executionId).effects row.effectId (some row) effectId
      else (database.ledger executionId).effects effectId := by
  show ((database.effects.put row).find? effectId).filter _ = _
  rw [Table.find?_put]
  by_cases same : effectId = row.effectId
  · subst same
    by_cases owned : row.executionId = executionId
    · simp [owned]
    · rw [if_pos rfl, if_neg owned]
      have foreign : (database.ledger executionId).effects row.effectId = none := by
        cases found : (database.ledger executionId).effects row.effectId with
        | none => rfl
        | some stored =>
          obtain ⟨named, mine⟩ := ledger_effects.mp found
          exact absurd ((fits stored named).symm.trans mine) owned
      simp [foreign, owned]
  · rw [if_neg same]
    by_cases owned : row.executionId = executionId
    · rw [if_pos owned, Function.update_of_ne same]
      rfl
    · rw [if_neg owned]
      rfl

theorem ledger_results_put {row : OutboxRow} (fits : (Write.outbox row).Fits database)
    (executionId : Identifier) :
    ((database.write (.outbox row)).ledger executionId).results =
      if row.executionId = executionId then
        row.result :: (database.ledger executionId).results
      else (database.ledger executionId).results := by
  have kept : database.resultOutbox.rows.filter (fun other => other.resultId ≠ row.resultId) =
      database.resultOutbox.rows := by
    rw [filter_eq_self]
    intro other member
    have differs := Table.find?_eq_none_iff.mp fits other member
    simpa using differs
  show ((database.resultOutbox.put row).rows.filter _).map _ = _
  simp only [Table.put, kept, filter_cons]
  by_cases owned : row.executionId = executionId
  · simp [owned, ledger]
  · simp [owned, ledger]

theorem ledger_write {entry : Write} (fits : entry.Fits database) (executionId : Identifier) :
    (database.write entry).ledger executionId =
      if entry.executionId = executionId then (database.ledger executionId).write entry
      else database.ledger executionId := by
  by_cases same : entry.executionId = executionId
  · rw [if_pos same]
    subst same
    cases entry with
    | execution row => simp [ledger, write, Ledger.write, Write.executionId]
    | event draft => simp [ledger, write, Ledger.write, Write.executionId, filter_append]
    | effect row =>
      refine Ledger.ext rfl rfl (funext fun effectId => ?_) rfl rfl
      exact (ledger_effects_put fits _ effectId).trans (if_pos rfl)
    | effectEvent row =>
      simp [ledger, write, Ledger.write, Write.executionId, filter_append]
    | outbox row =>
      refine Ledger.ext rfl rfl rfl rfl ?_
      exact (ledger_results_put fits _).trans (if_pos rfl)
  · rw [if_neg same]
    cases entry with
    | execution row =>
      refine Ledger.ext ?_ rfl rfl rfl rfl
      exact Table.find?_put_other database.executions (Ne.symm same)
    | event draft =>
      have foreign : draft.executionId ≠ executionId := same
      simp [ledger, write, filter_append, foreign]
    | effect row =>
      refine Ledger.ext rfl rfl (funext fun effectId => ?_) rfl rfl
      exact (ledger_effects_put fits executionId effectId).trans (if_neg same)
    | effectEvent row =>
      have foreign : row.executionId ≠ executionId := same
      simp [ledger, write, filter_append, foreign]
    | outbox row =>
      refine Ledger.ext rfl rfl rfl rfl ?_
      exact (ledger_results_put fits executionId).trans (if_neg same)

variable {writes : List Write}

section

variable {executionId : Identifier} (fits : FitAll database writes)
  (concern : ∀ entry ∈ writes, entry.executionId = executionId)

include fits concern

theorem ledger_writeAll :
    (database.writeAll writes).ledger executionId =
      (database.ledger executionId).writeAll writes := by
  induction writes generalizing database with
  | nil => rfl
  | cons first rest hypothesis =>
    rw [writeAll_cons, Ledger.writeAll_cons, hypothesis fits.2 fun entry member =>
        concern entry (mem_cons_of_mem first member),
      ledger_write fits.1, if_pos (concern first mem_cons_self)]

theorem ledger_writeAll_other {other : Identifier} (different : other ≠ executionId) :
    (database.writeAll writes).ledger other = database.ledger other := by
  induction writes generalizing database with
  | nil => rfl
  | cons first rest hypothesis =>
    have foreign : first.executionId ≠ other := by
      rw [concern first mem_cons_self]
      exact different.symm
    rw [writeAll_cons, hypothesis fits.2 fun entry member =>
        concern entry (mem_cons_of_mem first member),
      ledger_write fits.1, if_neg foreign]

end

end Database

open Library.Attempt

/-- The state that a decision puts an effect in. -/
def RecoveryDecision.effectState : RecoveryDecision → EffectState
  | applied => .committed
  | notApplied => .notApplied

/-- An uncertain effect once it is decided. Only an effect that was applied keeps the token of its
performer. -/
def EffectRow.resolved (row : EffectRow) (decision : RecoveryDecision) (response : Json)
    (recoveryId : Identifier) (timestamp : Timestamp) : EffectRow :=
  { row with
    state := decision.effectState
    response := some response
    claimId := if decision = .applied then row.claimId else none
    committedAt := if decision = .applied then some timestamp else none
    recoveryId := some recoveryId
    recoveryDecision := some decision
    resolvedAt := some timestamp
    revision := row.revision + 1 }

def EffectRow.resolvedEvent (row : EffectRow) (decision : RecoveryDecision) (response : Json)
    (recoveryId : Identifier) (timestamp : Timestamp) : EffectEventRow :=
  effectEvent (row.resolved decision response recoveryId timestamp) (.recovery decision)
    (some .indeterminate) [("recovery_id", recoveryId.toJson), ("response", response)] timestamp

/-- The parked execution that points at its next uncertain effect. -/
def ExecutionRow.pointed (row : ExecutionRow) (next : Identifier) (timestamp : Timestamp) :
    ExecutionRow :=
  { row with
    recoveryEffectId := some next
    revision := row.revision + 1
    updatedAt := timestamp }

/-- The execution that leaves recovery for another attempt. -/
def ExecutionRow.resumed (row : ExecutionRow) (timestamp : Timestamp) : ExecutionRow :=
  { row with
    state := .queued
    nextAttemptAt := timestamp
    lease := none
    startedAt := none
    recoveryEffectId := none
    recoveryTargetState := none
    recoveryReason := none
    revision := row.revision + 1
    updatedAt := timestamp }

/-- The first uncertain effect of an execution in the order of their names. -/
def Database.nextIndeterminate (database : Database) (executionId : Identifier) :
    Option EffectRow :=
  (database.effectsOf executionId).find? fun row => row.state = .indeterminate

variable {executionId : Identifier}

theorem Database.nextIndeterminate_some {row : EffectRow}
    (found : database.nextIndeterminate executionId = some row) :
    row ∈ database.effects ∧ row.executionId = executionId ∧ row.state = .indeterminate := by
  have member := Database.mem_effectsOf.mp (List.mem_of_find?_eq_some found)
  have uncertain := List.find?_some found
  exact ⟨member.1, member.2, by simpa using uncertain⟩

theorem Database.nextIndeterminate_none {row : EffectRow}
    (missing : database.nextIndeterminate executionId = none) (member : row ∈ database.effects)
    (owned : row.executionId = executionId) : row.state ≠ .indeterminate := by
  have absent := List.find?_eq_none.mp missing row (Database.mem_effectsOf.mpr ⟨member, owned⟩)
  simpa using absent

/-- The cancellation an execution was parked for. -/
def cancelRecovered (execution : ExecutionRow) (timestamp : Timestamp) : KernelM Unit := do
  let reason ← expect execution.recoveryReason
    (.effectConflict "cancel recovery is missing its durable cancellation reason")
  let database ← KernelM.database
  let resultId ← KernelM.uuid
  let result ← lift (cancelledResult execution timestamp reason resultId
    (database.committedEffectIds execution.executionId))
  let ended ← terminal execution result .cancelledAfterEffectRecovery timestamp
  require (ended.state = .cancelled)
    (.effectConflict "cancel recovery did not terminalize the execution")

/-- The execution side of a decision: the next uncertain effect, the remembered cancellation, or
another attempt. -/
def disposeRecovered (execution : ExecutionRow) (effectId : Identifier)
    (decision : RecoveryDecision) (recoveryId : Identifier) (timestamp : Timestamp) :
    KernelM Unit := do
  let database ← KernelM.database
  match database.nextIndeterminate execution.executionId with
  | some next => do
    casExecution execution (execution.pointed next.effectId timestamp)
      "next effect recovery pointer"
    appendEvent
      { executionId := execution.executionId, revision := execution.revision + 1
        eventType := .effectRecoveryNextRequired
        fromState := some .recoveryRequired, toState := .recoveryRequired
        data :=
          [("resolved_effect_id", effectId.toJson), ("next_effect_id", next.effectId.toJson),
            ("effect_revision", .ofNat next.revision),
            ("recovery_target_state",
              .ofOption (fun target => .string target.text) execution.recoveryTargetState),
            ("recovery_reason", .ofOption Identifier.toJson execution.recoveryReason)]
        createdAt := timestamp }
  | none =>
    if execution.recoveryTargetState = some .cancelled then
      cancelRecovered execution timestamp
    else do
      let _ ← lift (reduceRow execution .recoveryResolved)
      casExecution execution (execution.resumed timestamp) "effect recovery execution resume"
      appendEvent
        { executionId := execution.executionId, revision := execution.revision + 1
          eventType := .effectRecoveryResolved
          fromState := some .recoveryRequired, toState := .queued
          data :=
            [("effect_id", effectId.toJson), ("decision", .string decision.text),
              ("recovery_id", recoveryId.toJson)]
          createdAt := timestamp }

/-- The body of `resolve_effect` for an effect that carries no decision yet. -/
def resolveUndecided (row : EffectRow) (effectId : Identifier) (decision : RecoveryDecision)
    (response : Json) (expectedRevision : ℕ) (recoveryId : Identifier) (timestamp : Timestamp) :
    KernelM EffectRecord := do
  require (row.revision = expectedRevision)
    (.staleFence "effect recovery revision is stale"
      [("effect_id", effectId.toJson), ("expected_revision", .ofNat expectedRevision),
        ("actual_revision", .ofNat row.revision)])
  require (row.state = .indeterminate)
    (.effectConflict "only an indeterminate effect can be resolved")
  let execution ← getRow row.executionId
  require (execution.state = .recoveryRequired ∧ execution.recoveryEffectId = some effectId)
    (.effectConflict "execution is not parked for this effect")
  let validated ← effectRecord (row.resolved decision response recoveryId timestamp)
  casEffect row (row.resolved decision response recoveryId timestamp) "effect recovery resolution"
  KernelM.write (.effectEvent (row.resolvedEvent decision response recoveryId timestamp))
  disposeRecovered execution effectId decision recoveryId timestamp
  return validated

/-- The body of `resolve_effect`. -/
def resolveEffectBody (effectId : Identifier) (decision : RecoveryDecision) (response : Json)
    (expectedRevision : ℕ) (recoveryId : Identifier) (timestamp : Timestamp) :
    KernelM EffectRecord := do
  let row ← getEffectRow effectId
  let record ← effectRecord row
  match row.recoveryId with
  | some recorded =>
    require (recorded = recoveryId)
      (.effectConflict "effect already has a different recovery decision")
    require (row.recoveryDecision = some decision ∧
        (decision = .notApplied ∨ row.response.map Json.encode = some response.encode))
      (.effectConflict "effect recovery identity is immutable")
    return record
  | none =>
    resolveUndecided row effectId decision response expectedRevision recoveryId timestamp

def resolveEffect (effectId : Identifier) (decision : RecoveryDecision) (response : Json)
    (expectedRevision : ℕ) (recoveryId : Identifier) (environment : Environment)
    (state : KernelState) : Except KernelError EffectRecord × KernelState :=
  if decision = .notApplied ∧ response.isNull = false then
    (.error (.value "not_applied recovery response must be null"), state)
  else if expectedRevision < 1 then
    (.error (.value "expected_revision must be a positive integer"), state)
  else
    transaction (resolveEffectBody effectId decision response expectedRevision recoveryId)
      environment state

/-! ### Kinds of events -/

/-- What a move needs from the Run of its execution. -/
inductive Need where
  | nothing
  /-- Keep working under a lease. -/
  | work
  /-- Begin with an external effect. -/
  | opening
  /-- A new attempt. -/
  | claim
  deriving DecidableEq

namespace EventType

/-- What a move that leaves such an event needs. -/
def need : EventType → Need
  | leased => .claim
  | started | leaseRenewed => .work
  | _ => .nothing

/-- The execution goes back to the queue after an attempt. -/
def redelivers : EventType → Bool
  | retryScheduled | leaseExpiredRedelivery => true
  | _ => false

def parks : EventType → Bool
  | effectRecoveryRequired | leaseExpiredEffectRecoveryRequired => true
  | _ => false

/-- What an execution in recovery waits for is brought up to date. -/
def corrects : EventType → Bool
  | effectRecoveryCancellationRequested | effectRecoveryPointerCorrected => true
  | _ => false

def ends : EventType → Bool
  | retryExhaustedDead | permanentDead | leaseExpiredDead | cancelledAfterEffectRecovery => true
  | status _ => true
  | _ => false

/-- A decision about an uncertain effect is carried out. -/
def disposes : EventType → Bool
  | effectRecoveryNextRequired | effectRecoveryResolved | cancelledAfterEffectRecovery => true
  | _ => false

end EventType

namespace EffectEventType

/-- What a move that leaves such an event needs. -/
def need : EffectEventType → Need
  | prepared | repreparedAfterNotApplied | performClaimed => .opening
  | _ => .nothing

/-- The outcome of the effect became uncertain because its authority ended. -/
def parks : EffectEventType → Bool
  | leaseExpiredIndeterminate | recoveryRequiredIndeterminate => true
  | _ => false

end EffectEventType

/-! ### Entries in a ledger -/

/-- The event that records how an execution came to a row. -/
def ExecutionRow.entry (row : ExecutionRow) (eventType : EventType)
    (fromState : Option ExecutionState) (data : List (String × Json)) : EventDraft where
  executionId := row.executionId
  revision := row.revision
  eventType := eventType
  fromState := fromState
  toState := row.state
  data := data
  createdAt := row.updatedAt

namespace Ledger

/-- Enter a new row of the execution with its event. -/
def enter (ledger : Ledger) (row : ExecutionRow) (event : EventDraft)
    (results : List ExecutionResult) : Ledger :=
  { ledger with row := some row, events := ledger.events ++ [event], results := results }

/-- Enter a new state of an effect with its event. -/
def record (ledger : Ledger) (effect : EffectRow) (event : EffectEventRow) : Ledger :=
  { ledger with
    effects := Function.update ledger.effects effect.effectId (some effect)
    effectEvents := ledger.effectEvents ++ [event] }

/-- The execution owns an effect of this name whose outcome is uncertain. -/
def Uncertain (ledger : Ledger) (effectId : Identifier) : Prop :=
  ∃ effect, ledger.effects effectId = some effect ∧ effect.state = .indeterminate

/-- The execution owns an effect that still needs the authority of a lease. -/
def OwnsOpen (ledger : Ledger) : Prop :=
  ∃ effectId effect, ledger.effects effectId = some effect ∧ effect.state.open_ = true

/-- No effect of the execution is left open or uncertain. -/
def Settled (ledger : Ledger) : Prop :=
  ∀ effectId effect, ledger.effects effectId = some effect → effect.state.unfinished = false

end Ledger

/-! ### Moves of an execution -/

/-- The result answers for the attempt that a row records. -/
structure ExecutionResult.AnswersFor (result : ExecutionResult) (row : ExecutionRow) : Prop where
  execution : result.executionId = row.executionId
  attempt : result.attempt = row.attempt
  fence : result.fence = row.fence
  correlation : result.correlationId = row.command.correlationId
  causation : result.causationId = row.command.causationId

/-- Storing a result: it goes to the outbox, unless the outbox holds one of the execution already. -/
def Ledger.Delivers (ledger : Ledger) (result : ExecutionResult)
    (results : List ExecutionResult) : Prop :=
  results = result :: ledger.results ∨ (results = ledger.results ∧ ledger.results ≠ [])

/-- The moves of a stored execution: the type of the event, the row it comes to, and the results
that are in the outbox afterwards. -/
inductive Transit (now : Timestamp) (ledger : Ledger) (row : ExecutionRow) :
    EventType → ExecutionRow → List ExecutionResult → Prop
  | lease (queued : row.state = .queued) (columns : LeaseColumns) :
      Transit now ledger row .leased (row.leasedTo columns now) ledger.results
  | start (leased : row.state = .leased) :
      Transit now ledger row .started (row.started now) ledger.results
  | renew (held : row.state.held = true) (expiresAt : Timestamp) :
      Transit now ledger row .leaseRenewed (row.renewed expiresAt now) ledger.results
  | requeue {eventType : EventType} (redelivery : eventType.redelivers = true)
      (held : row.state.held = true)
      (spare : row.attempt < row.command.retryPolicy.maxAttempts)
      (settled : ledger.Settled) (nextAttemptAt : Timestamp) :
      Transit now ledger row eventType (row.requeued nextAttemptAt now) ledger.results
  | finish {eventType : EventType} {result : ExecutionResult} {results : List ExecutionResult}
      (ending : eventType.ends = true) (alone : eventType.disposes = false)
      (ordinary : row.state ≠ .recoveryRequired)
      (allowed : row.state.canTransition result.status = true) (settled : ledger.Settled)
      (answers : result.AnswersFor row) (delivers : ledger.Delivers result results) :
      Transit now ledger row eventType (row.terminated result now) results
  | park {eventType : EventType} {pointer : Identifier} {requested : RecoveryTarget}
      {reason : Option Identifier} (parking : eventType.parks = true)
      (ordinary : row.state ≠ .recoveryRequired)
      (allowed : row.state.canTransition .recoveryRequired = true)
      (closed : ¬ ledger.OwnsOpen) (uncertain : ledger.Uncertain pointer)
      (durable : requested = .cancelled → reason.isSome) :
      Transit now ledger row eventType (row.parked pointer requested reason now) ledger.results
  | repark {eventType : EventType} {pointer : Identifier} {requested : RecoveryTarget}
      {reason : Option Identifier} (correcting : eventType.corrects = true)
      (parked : row.state = .recoveryRequired) (uncertain : ledger.Uncertain pointer)
      (durable : requested = .cancelled → reason.isSome) :
      Transit now ledger row eventType (row.reparked pointer requested reason now) ledger.results
  | next {pointer : Identifier} (parked : row.state = .recoveryRequired)
      (uncertain : ledger.Uncertain pointer) :
      Transit now ledger row .effectRecoveryNextRequired (row.pointed pointer now) ledger.results
  | cancel {reason : Identifier} {result : ExecutionResult} {results : List ExecutionResult}
      (parked : row.state = .recoveryRequired)
      (wanted : row.recoveryTargetState = some .cancelled)
      (reasoned : row.recoveryReason = some reason) (cancelled : result.status = .cancelled)
      (explained : result.error.map (·.message) = some reason.text) (settled : ledger.Settled)
      (answers : result.AnswersFor row) (delivers : ledger.Delivers result results) :
      Transit now ledger row .cancelledAfterEffectRecovery (row.terminated result now) results
  | resume (parked : row.state = .recoveryRequired)
      (certain : ∀ effectId, ¬ ledger.Uncertain effectId)
      (unwanted : row.recoveryTargetState ≠ some .cancelled) :
      Transit now ledger row .effectRecoveryResolved (row.resumed now) ledger.results

/-! ### Moves of an effect -/

/-- The moves of an effect: the type of the event, the effect it starts from, if there is one, and
the effect it comes to. -/
inductive Perform (now : Timestamp) (ledger : Ledger) (row : ExecutionRow) :
    EffectEventType → Option EffectRow → EffectRow → Prop
  | prepare {lease : ExecutionLease} {effectId name : Identifier} {request : Json}
      (running : row.state = .running) (holds : row.Holds lease)
      (fresh : ledger.effects effectId = none) :
      Perform now ledger row .prepared none (preparedEffect lease effectId name request now)
  | reprepare {lease : ExecutionLease} {effect : EffectRow} (running : row.state = .running)
      (holds : row.Holds lease) (decided : effect.state = .notApplied) :
      Perform now ledger row .repreparedAfterNotApplied (some effect) (effect.reprepared lease now)
  | claim {effect : EffectRow} (prepared : effect.state = .prepared) (claimId : Identifier) :
      Perform now ledger row .performClaimed (some effect) (effect.claimed claimId)
  | commit {effect : EffectRow} (performing : effect.state = .performing) (response : Json) :
      Perform now ledger row .committed (some effect) (effect.committed response now)
  | mark {effect : EffectRow} (performing : effect.state = .performing) (details : Json) :
      Perform now ledger row .markedIndeterminate (some effect) (effect.uncertain details now)
  | park {eventType : EffectEventType} {effect : EffectRow} (parking : eventType.parks = true)
      (opened : effect.state.open_ = true) (trigger : ParkTrigger) :
      Perform now ledger row eventType (some effect) (effect.parked trigger now)

/-! ### Moves -/

/-- What may happen to the ledger of an execution, and what that needs from its Run. -/
inductive Move (now : Timestamp) (ledger : Ledger) : Need → Ledger → Prop
  | submit (fresh : ledger.row = none) (command : ExecutionCommand) (data : List (String × Json)) :
      Move now ledger .nothing
        (ledger.enter (command.submitted now)
          ((command.submitted now).entry .submitted none data) ledger.results)
  | transit {row after : ExecutionRow} {eventType : EventType} {need : Need}
      {results : List ExecutionResult} (stored : ledger.row = some row)
      (transit : Transit now ledger row eventType after results)
      (alone : eventType.disposes = false) (needs : eventType.need = need)
      (data : List (String × Json)) :
      Move now ledger need
        (ledger.enter after (after.entry eventType (some row.state) data) results)
  | perform {row : ExecutionRow} {before : Option EffectRow} {after : EffectRow}
      {eventType : EffectEventType} {need : Need} (stored : ledger.row = some row)
      (found : ∀ effect ∈ before, ledger.effects effect.effectId = some effect)
      (perform : Perform now ledger row eventType before after) (needs : eventType.need = need)
      (data : List (String × Json)) :
      Move now ledger need
        (ledger.record after (effectEvent after eventType (before.map (·.state)) data now))
  | resolve {row after : ExecutionRow} {effect : EffectRow} {decision : RecoveryDecision}
      {response : Json} {recoveryId : Identifier} {eventType : EventType}
      {results : List ExecutionResult} {resolved : Ledger} (stored : ledger.row = some row)
      (pointed : row.recoveryEffectId = some effect.effectId)
      (found : ledger.effects effect.effectId = some effect)
      (uncertain : effect.state = .indeterminate)
      (recorded : resolved = ledger.record (effect.resolved decision response recoveryId now)
        (effect.resolvedEvent decision response recoveryId now))
      (transit : Transit now resolved row eventType after results)
      (disposing : eventType.disposes = true) (data : List (String × Json)) :
      Move now ledger .nothing
        (resolved.enter after (after.entry eventType (some row.state) data) results)

/-! ### What every move has in common -/

/-- What a move of a stored execution does to its row in any case. -/
structure ExecutionRow.Succeeds (now : Timestamp) (row : ExecutionRow) (eventType : EventType)
    (after : ExecutionRow) : Prop where
  executionId : after.executionId = row.executionId
  command : after.command = row.command
  createdAt : after.createdAt = row.createdAt
  updatedAt : after.updatedAt = now
  revision : after.revision = row.revision + 1
  live : row.state.terminal = false

theorem Transit.succeeds {now : Timestamp} {ledger : Ledger} {row after : ExecutionRow}
    {eventType : EventType} {results : List ExecutionResult}
    (transit : Transit now ledger row eventType after results) :
    row.Succeeds now eventType after := by
  cases transit with
  | lease queued => exact ⟨rfl, rfl, rfl, rfl, rfl, by rw [queued]; rfl⟩
  | start leased => exact ⟨rfl, rfl, rfl, rfl, rfl, by rw [leased]; rfl⟩
  | renew held =>
    refine ⟨rfl, rfl, rfl, rfl, rfl, ?_⟩
    cases state : row.state <;> simp_all [ExecutionState.held, ExecutionState.terminal]
  | requeue _ held =>
    refine ⟨rfl, rfl, rfl, rfl, rfl, ?_⟩
    cases state : row.state <;> simp_all [ExecutionState.held, ExecutionState.terminal]
  | finish _ _ _ allowed =>
    exact ⟨rfl, rfl, rfl, rfl, rfl, ExecutionState.terminal_absorbing allowed⟩
  | park _ _ allowed =>
    exact ⟨rfl, rfl, rfl, rfl, rfl, ExecutionState.terminal_absorbing allowed⟩
  | repark _ parked => exact ⟨rfl, rfl, rfl, rfl, rfl, by rw [parked]; rfl⟩
  | next parked => exact ⟨rfl, rfl, rfl, rfl, rfl, by rw [parked]; rfl⟩
  | cancel parked => exact ⟨rfl, rfl, rfl, rfl, rfl, by rw [parked]; rfl⟩
  | resume parked => exact ⟨rfl, rfl, rfl, rfl, rfl, by rw [parked]; rfl⟩

open Relation

/-! ### Rewriting one ledger -/

/-- Writes that concern one execution take its ledger through a relation. -/
def Database.Rewrites (database : Database) (executionId : Identifier)
    (relation : Ledger → Ledger → Prop) (next : Database) : Prop :=
  ∃ writes, FitAll database writes ∧ (∀ entry ∈ writes, entry.executionId = executionId) ∧
    next = database.writeAll writes ∧
    relation (database.ledger executionId) ((database.ledger executionId).writeAll writes)

namespace Database.Rewrites

variable {next last : Database} {relation other : Ledger → Ledger → Prop}

section

variable (rewrites : database.Rewrites executionId relation next)

include rewrites

theorem own : relation (database.ledger executionId) (next.ledger executionId) := by
  obtain ⟨writes, fits, concern, rfl, related⟩ := rewrites
  rw [ledger_writeAll fits concern]
  exact related

theorem foreign {name : Identifier} (different : name ≠ executionId) :
    next.ledger name = database.ledger name := by
  obtain ⟨writes, fits, concern, rfl, -⟩ := rewrites
  exact ledger_writeAll_other fits concern different

theorem mono (imply : ∀ before after, relation before after → other before after) :
    database.Rewrites executionId other next := by
  obtain ⟨writes, fits, concern, same, related⟩ := rewrites
  exact ⟨writes, fits, concern, same, imply _ _ related⟩

end

theorem comp (first : database.Rewrites executionId relation next)
    (second : next.Rewrites executionId other last) :
    database.Rewrites executionId (Comp relation other) last := by
  obtain ⟨firstWrites, firstFit, firstConcern, rfl, firstRelated⟩ := first
  obtain ⟨secondWrites, secondFit, secondConcern, rfl, secondRelated⟩ := second
  refine ⟨firstWrites ++ secondWrites, firstFit.append secondFit, ?_,
    (database.writeAll_append _ _).symm, ?_⟩
  · intro entry member
    rcases mem_append.mp member with here | there
    · exact firstConcern entry here
    · exact secondConcern entry there
  · rw [Ledger.writeAll_append, ← ledger_writeAll firstFit firstConcern]
    rw [← ledger_writeAll firstFit firstConcern] at firstRelated
    exact ⟨_, firstRelated, secondRelated⟩

end Database.Rewrites

variable {row : ExecutionRow} {event : EventDraft} {relation : Ledger → Ledger → Prop}

theorem rewrites_enter (same : event.executionId = row.executionId)
    (related : relation (database.ledger row.executionId)
      ((database.ledger row.executionId).enter row event
        (database.ledger row.executionId).results)) :
    database.Rewrites row.executionId relation
      ((database.write (.execution row)).write (.event event)) := by
  refine ⟨[.execution row, .event event], ⟨trivial, trivial, trivial⟩, ?_, rfl, related⟩
  intro entry member
  simp only [mem_cons, not_mem_nil, or_false] at member
  rcases member with rfl | rfl
  · rfl
  · exact same

theorem rewrites_deliver {delivery : OutboxRow} (same : event.executionId = row.executionId)
    (owned : delivery.executionId = row.executionId)
    (fresh : database.resultOutbox.find? delivery.resultId = none)
    (related : relation (database.ledger row.executionId)
      ((database.ledger row.executionId).enter row event
        (delivery.result :: (database.ledger row.executionId).results))) :
    database.Rewrites row.executionId relation
      (((database.write (.execution row)).write (.event event)).write (.outbox delivery)) := by
  refine ⟨[.execution row, .event event, .outbox delivery],
    ⟨trivial, trivial, fresh, trivial⟩, ?_, rfl, related⟩
  intro entry member
  simp only [mem_cons, not_mem_nil, or_false] at member
  rcases member with rfl | rfl | rfl
  · rfl
  · exact same
  · exact owned

theorem rewrites_record {effect : EffectRow} {event : EffectEventRow}
    (same : event.executionId = effect.executionId)
    (owned : ∀ stored, database.effects.find? effect.effectId = some stored →
      stored.executionId = effect.executionId)
    (related : relation (database.ledger effect.executionId)
      ((database.ledger effect.executionId).record effect event)) :
    database.Rewrites effect.executionId relation
      ((database.write (.effect effect)).write (.effectEvent event)) := by
  refine ⟨[.effect effect, .effectEvent event], ⟨owned, trivial, trivial⟩, ?_, rfl, related⟩
  intro entry member
  simp only [mem_cons, not_mem_nil, or_false] at member
  rcases member with rfl | rfl
  · rfl
  · exact same

/-! ### What a step leaves alone -/

/-- The lives of executions are the same in both. -/
structure Database.SameLives (before after : Database) : Prop where
  executions : after.executions = before.executions
  events : after.events = before.events
  eventSequence : after.eventSequence = before.eventSequence
  effects : after.effects = before.effects
  effectEvents : after.effectEvents = before.effectEvents
  ledger : ∀ executionId, after.ledger executionId = before.ledger executionId

/-- The controls of Runs are the same in both, with everything that tells their history. -/
structure Database.SameRuns (before after : Database) : Prop where
  runControls : after.runControls = before.runControls
  managedExecutions : after.managedExecutions = before.managedExecutions
  pauseReceipts : after.pauseReceipts = before.pauseReceipts
  resumeReceipts : after.resumeReceipts = before.resumeReceipts
  revisionInstalls : after.revisionInstalls = before.revisionInstalls
  legacyImports : after.legacyImports = before.legacyImports

/-- Every execution is bound to the same parent in both. -/
def Database.SameParents (before after : Database) : Prop :=
  ∀ executionId, after.parentOf executionId = before.parentOf executionId

structure Database.Supports (before after : Database) : Prop where
  lives : before.SameLives after
  runs : before.SameRuns after
  parents : before.SameParents after

theorem Database.SameLives.refl (database : Database) : database.SameLives database :=
  ⟨rfl, rfl, rfl, rfl, rfl, fun _ => rfl⟩

theorem Database.SameRuns.refl (database : Database) : database.SameRuns database :=
  ⟨rfl, rfl, rfl, rfl, rfl, rfl⟩

theorem Database.SameRuns.write (database : Database) (entry : Write) :
    database.SameRuns (database.write entry) := by
  cases entry <;> exact ⟨rfl, rfl, rfl, rfl, rfl, rfl⟩

theorem Database.SameRuns.trans {first second third : Database}
    (left : first.SameRuns second) (right : second.SameRuns third) : first.SameRuns third :=
  ⟨right.1.trans left.1, right.2.trans left.2, right.3.trans left.3, right.4.trans left.4,
    right.5.trans left.5, right.6.trans left.6⟩

theorem Database.SameRuns.writeAll (database : Database) (writes : List Write) :
    database.SameRuns (database.writeAll writes) := by
  induction writes generalizing database with
  | nil => exact .refl database
  | cons first rest hypothesis =>
    exact (Database.SameRuns.write database first).trans (hypothesis _)

theorem Database.parentOf_write (database : Database) (entry : Write) :
    database.SameParents (database.write entry) := by
  intro executionId
  cases entry <;> rfl

theorem Database.parentOf_writeAll (database : Database) (writes : List Write) :
    database.SameParents (database.writeAll writes) := by
  induction writes generalizing database with
  | nil => exact fun _ => rfl
  | cons first rest hypothesis =>
    exact fun executionId => (hypothesis _ executionId).trans
      (database.parentOf_write first executionId)

section

variable {next : Database} (rewrites : database.Rewrites executionId relation next)

include rewrites

theorem Database.Rewrites.sameRuns : database.SameRuns next := by
  obtain ⟨writes, -, -, rfl, -⟩ := rewrites
  exact .writeAll database writes

theorem Database.Rewrites.sameParents : database.SameParents next := by
  obtain ⟨writes, -, -, rfl, -⟩ := rewrites
  exact database.parentOf_writeAll writes

end

/-! ### Permission -/

/-- The Run of an execution lets it go on at a time: the Run is active in the execution's
generation and no barrier is up, or the execution is one that may drain while the Run is being
paused. An execution of no Run needs no permission. -/
def Database.Permits (database : Database) (executionId : Identifier) (now : Timestamp)
    (drains : Bool) : Prop :=
  ∀ member, database.managedExecutions.find? executionId = some member →
    ∃ control, database.runControls.find? member.runId = some control ∧
      now < control.deadlineAt ∧
      (database.hasUnresolvedControlBarrier member.runId = true →
        database.drainBarrierAllows member.runId executionId = true) ∧
      ((control.state = .active ∧ member.generation = control.generation) ∨
        (drains = true ∧ control.state = .pausing ∧ member.drainAllowed = true))

/-- The Run of an execution has a claim left. -/
def Database.HasClaim (database : Database) (executionId : Identifier) : Prop :=
  ∀ control, database.controlOf executionId = some control → control.claimsUsed < control.maxClaims

/-- The permission that a move of an execution is made under. -/
def Database.Allows (database : Database) (executionId : Identifier) (now : Timestamp) :
    Need → Prop
  | .nothing => True
  | .work => database.Permits executionId now true
  | .opening => database.Permits executionId now false
  | .claim => database.Permits executionId now true ∧ database.HasClaim executionId

/-- One more claim is charged to the Run of an execution, if it has one. -/
def Database.charged (database : Database) (executionId : Identifier) : Database :=
  match database.controlOf executionId with
  | none => database
  | some control =>
    { database with
      runControls := database.runControls.put
        { control with claimsUsed := control.claimsUsed + 1 } }

/-- What a move of an execution costs its Run. -/
def Database.spend (database : Database) (executionId : Identifier) : Need → Database
  | .claim => database.charged executionId
  | .nothing | .work | .opening => database

/-! ### Work -/

/-- One step of an operation on executions that exist. -/
inductive Work (now : Timestamp) (before : Database) : Database → Prop
  | move {executionId : Identifier} {need : Need} {after : Database}
      (allowed : before.Allows executionId now need)
      (rewrites : (before.spend executionId need).Rewrites executionId
        (fun ledger next => (∃ row, ledger.row = some row) ∧ Move now ledger need next) after) :
      Work now before after
  | support {after : Database} (supports : before.Supports after) : Work now before after

abbrev Works (now : Timestamp) : Database → Database → Prop := ReflTransGen (Work now)

/-! ### Enrolment -/

/-- The ancestry of a parent is checked for an execution that is its child or no child. -/
def Database.Kin (database : Database) (executionId parentId : Identifier) : Prop :=
  acyclicAncestry database executionId 64 parentId = .ok () ∧
    ∀ binding, database.parentOf executionId = some binding → binding.executionId = parentId

/-- One step of an operation that accepts a command and may bind certain children. -/
inductive Enrol (may : Identifier → Identifier → Prop) (now : Timestamp) (before : Database) :
    Database → Prop
  | register {executionId runId : Identifier} {generation : ℕ}
      (fresh : before.executions.find? executionId = none)
      (unregistered : before.managedExecutions.find? executionId = none)
      (controlled : (before.runControls.find? runId).isSome) :
      Enrol may now before
        { before with
          managedExecutions := before.managedExecutions.put
            { executionId, runId, generation, drainAllowed := false } }
  | submit {executionId : Identifier} {after : Database}
      (active : ∀ member, before.managedExecutions.find? executionId = some member →
        ∃ control, before.runControls.find? member.runId = some control ∧
          control.state = .active)
      (rewrites : before.Rewrites executionId
        (fun ledger next => Move now ledger .nothing next) after)
      (named : executionId.managed = true →
        (before.managedExecutions.find? executionId).isSome) :
      Enrol may now before after
  | refuse {executionId : Identifier} {after : Database}
      (rewrites : before.Rewrites executionId
        (fun ledger next =>
          Comp (fun ledger next => Move now ledger .nothing next)
            (fun ledger next => Move now ledger .nothing next) ledger next ∧
          ∃ row, next.row = some row ∧ row.state = .cancelled) after)
      (named : executionId.managed = true →
        (before.managedExecutions.find? executionId).isSome) :
      Enrol may now before after
  | bind {executionId : Identifier} {binding : ParentBinding} {after : Database}
      (permitted : before.Permits binding.executionId now false)
      (named : may executionId binding.executionId) (kin : before.Kin executionId binding.executionId)
      (lives : before.SameLives after) (runs : before.SameRuns after)
      (bound : after.parentOf executionId = some binding)
      (others : ∀ name, name ≠ executionId → after.parentOf name = before.parentOf name) :
      Enrol may now before after
  | attest {receipt : PauseReceipt} (fresh : before.pauseReceipts.find? receipt.operationId = none)
      (absent : receipt.isPauseBarrier = false ∧ receipt.isCancellationFence = false ∧
        receipt.barrierOperationId? = none)
      (current : ∃ control, before.runControls.find? receipt.runId = some control ∧
        receipt.controlEpoch ≤ control.controlEpoch) :
      Enrol may now before { before with pauseReceipts := before.pauseReceipts.put receipt }
  | support {after : Database} (supports : before.Supports after) : Enrol may now before after

abbrev Enrols (may : Identifier → Identifier → Prop) (now : Timestamp) :
    Database → Database → Prop := ReflTransGen (Enrol may now)

end DispatcherSdk.ExecutionKernel
