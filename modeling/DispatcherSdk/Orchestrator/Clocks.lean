/-
This file proves that the three authority clocks, of the kernel, of the notification inbox
and of the SDK results, are monotone: a persisted watermark never goes back, a transaction
keeps what it has observed even when it fails, and a lease that has expired at a watermark
is not accepted as live ever after.

The kernel's part rests on the kernel's own theorems.
-/

import DispatcherSdk.ExecutionKernel.Clock
import DispatcherSdk.Orchestrator.InboxRuns

namespace DispatcherSdk.Orchestrator

open Library ExecutionKernel Attempt

/-! ### The rows -/

inductive DeliveryState where
  | pending
  | delivering
  | delivered
  | dead
  deriving DecidableEq

/-- A row of `sdk_results`. -/
structure ResultRow where
  resultId : Identifier
  executionId : Identifier
  result : Json
  kernelRevision : ℕ
  state : DeliveryState
  leaseId : Option Identifier
  leaseOwner : Option Identifier
  fence : ℕ
  attempts : ℕ
  maxAttempts : ℕ
  leaseExpiresAt : Option Timestamp
  nextAttemptAt : Timestamp
  lastError : Option ExecutionError
  revision : ℕ
  createdAt : Timestamp
  updatedAt : Timestamp

/-- The record of a delivery: its row and the application generation of the execution. -/
structure ResultRecord where
  row : ResultRow
  generation : ℕ

structure ResultClaim where
  resultId : Identifier
  result : Json
  kernelRevision : ℕ
  leaseId : Identifier
  owner : Identifier
  fence : ℕ
  leaseUntil : Timestamp
  attempts : ℕ
  generation : ℕ

/-- The results and the generations under which executions are registered. -/
structure Results where
  rows : Table ResultRow.resultId
  generations : Identifier → Option ℕ

abbrev ResultsM := StoreM Results

/-- `_result_generation`. -/
def Results.generation (results : Results) (executionId : Identifier) : ℕ :=
  (results.generations executionId).getD 0

/-- The store after one row has been written. -/
def Results.write (results : Results) (row : ResultRow) : Results :=
  { results with rows := results.rows.put row }

def writeResult (row : ResultRow) : ResultsM Unit :=
  StoreM.modify fun results => results.write row

def getResult (resultId : Identifier) : ResultsM ResultRow := do
  let results ← StoreM.tables
  expect (results.rows.find? resultId) (.key resultId.text)

def resultRecord (row : ResultRow) : ResultsM ResultRecord := do
  let results ← StoreM.tables
  return ⟨row, results.generation row.executionId⟩

/-! ### Receiving -/

/-- The row of a result that has just been received. -/
def ResultRow.received (resultId executionId : Identifier) (result : Json)
    (kernelRevision maxAttempts : ℕ) (now : Timestamp) : ResultRow :=
  { resultId, executionId, result, kernelRevision, state := .pending, leaseId := none
    leaseOwner := none, fence := 0, attempts := 0, maxAttempts, leaseExpiresAt := none
    nextAttemptAt := now, lastError := none, revision := 1, createdAt := now, updatedAt := now }

/-- The transaction of `pump_results` that commits one result locally. -/
def receiveResultBody (resultId executionId : Identifier) (result : Json)
    (kernelRevision maxAttempts : ℕ) (now : Timestamp) : ResultsM Unit := do
  let results ← StoreM.tables
  match results.rows.rows.find? fun row =>
    row.resultId = resultId || row.executionId = executionId with
  | some previous =>
    require (previous.resultId = resultId ∧ previous.executionId = executionId ∧
        previous.result.encode = result.encode ∧ previous.kernelRevision = kernelRevision)
      ⟨.resultConflict, "SDK already holds a different immutable result"⟩
  | none =>
    writeResult (ResultRow.received resultId executionId result kernelRevision maxAttempts now)

/-! ### Reaping and claiming -/

theorem leaseExpired_filled : blank "outbox_lease_expired" = false := by decide

/-- The error recorded when a delivery lease runs out. -/
def deliveryExpired (attempts : ℕ) (retryable : Bool) : ExecutionError where
  code := ⟨"outbox_lease_expired", leaseExpired_filled⟩
  message := "result delivery lease expired"
  retryable := retryable
  details := [("attempts", .ofNat attempts)]

def ResultRow.overdue (row : ResultRow) (now : Timestamp) : Bool :=
  decide (row.state = .delivering) && row.leaseExpiresAt.any fun expiry => expiry ≤ now

/-- Give a delivery whose lease has run out back, or bury it. -/
def ResultRow.reaped (row : ResultRow) (now : Timestamp) : ResultRow :=
  if row.overdue now then
    { row with
      state := if row.maxAttempts ≤ row.attempts then .dead else .pending
      leaseExpiresAt := none
      nextAttemptAt := now
      lastError := some (deliveryExpired row.attempts (decide (row.attempts < row.maxAttempts)))
      revision := row.revision + 1
      updatedAt := now }
  else row

theorem ResultRow.reaped_resultId (row : ResultRow) (now : Timestamp) :
    (row.reaped now).resultId = row.resultId := by
  unfold ResultRow.reaped
  split <;> rfl

def Results.reap (results : Results) (now : Timestamp) : Results :=
  { results with
    rows := results.rows.update (fun row => row.reaped now) fun row => row.reaped_resultId now }

/-- `_reap_results_tx`. -/
def reapResultsBody (now : Timestamp) : ResultsM ℕ := do
  let results ← StoreM.tables
  StoreM.modify fun results => results.reap now
  return (results.rows.rows.filter fun row => row.overdue now).length

/-- `ORDER BY created_at,result_id`. -/
def ResultRow.precedes (left right : ResultRow) : Prop :=
  left.createdAt < right.createdAt ∨
    (left.createdAt = right.createdAt ∧ left.resultId.text ≤ right.resultId.text)

instance : DecidableRel ResultRow.precedes := fun left right => by
  unfold ResultRow.precedes
  infer_instance

def Results.due (results : Results) (now : Timestamp) (limit : ℕ) : List ResultRow :=
  ((results.rows.rows.filter fun row =>
    row.state = .pending ∧ row.attempts < row.maxAttempts ∧ row.nextAttemptAt ≤ now).insertionSort
      ResultRow.precedes).take limit

/-- The row of a delivery under a new lease. -/
def ResultRow.leased (row : ResultRow) (leaseId owner : Identifier) (expires now : Timestamp) :
    ResultRow :=
  { row with
    state := .delivering
    leaseId := some leaseId
    leaseOwner := some owner
    fence := row.fence + 1
    attempts := row.attempts + 1
    leaseExpiresAt := some expires
    revision := row.revision + 1
    updatedAt := now }

def leaseResults (owner : Identifier) (expires now : Timestamp) :
    List ResultRow → ResultsM (List ResultClaim)
  | [] => return []
  | row :: rest => do
    let leaseId ← StoreM.uuid
    writeResult (row.leased leaseId owner expires now)
    let results ← StoreM.tables
    let claims ← leaseResults owner expires now rest
    return { resultId := row.resultId, result := row.result, kernelRevision := row.kernelRevision
             leaseId, owner, fence := row.fence + 1, leaseUntil := expires
             attempts := row.attempts + 1, generation := results.generation row.executionId } ::
      claims

/-- `claim_results`, inside its transaction. -/
def claimResultsBody (owner : Identifier) (duration : Timestamp) (limit : ℕ) (now : Timestamp) :
    ResultsM (List ResultClaim) := do
  let environment ← ask
  let expires ← expect (environment.arithmetic.add now duration)
    (.value "lease expiry must be finite")
  let _ ← reapResultsBody now
  let results ← StoreM.tables
  leaseResults owner expires now (results.due now limit)

/-! ### Acknowledging and reviving -/

def ResultRow.acknowledged (row : ResultRow) (now : Timestamp) : ResultRow :=
  { row with
    state := .delivered
    leaseExpiresAt := none
    revision := row.revision + 1
    updatedAt := now }

/-- Whether the lease identity and the fence are those of the row. -/
def ResultRow.Same (row : ResultRow) (leaseId : Identifier) (fence : ℕ) : Prop :=
  row.leaseId = some leaseId ∧ row.fence = fence

instance (row : ResultRow) (leaseId : Identifier) (fence : ℕ) :
    Decidable (row.Same leaseId fence) := by
  unfold ResultRow.Same
  infer_instance

/-- What `acknowledge_result` asks of a row that is not delivered. -/
def ResultRow.deliverable (row : ResultRow) (leaseId : Identifier) (fence : ℕ)
    (now : Timestamp) : Except SdkError Unit :=
  if row.Same leaseId fence ∧ row.state = .delivering then
    match row.leaseExpiresAt with
    | none => .error (.type "'<=' not supported between instances of 'NoneType' and 'float'")
    | some expiry =>
      if expiry ≤ now then .error (.staleFence "SDK result delivery lease is stale") else .ok ()
  else .error (.staleFence "SDK result delivery lease is stale")

/-- `acknowledge_result`, inside its transaction. -/
def acknowledgeResultBody (resultId leaseId : Identifier) (fence : ℕ) (now : Timestamp) :
    ResultsM ResultRecord := do
  let row ← getResult resultId
  if row.Same leaseId fence ∧ row.state = .delivered then
    resultRecord row
  else
    lift (row.deliverable leaseId fence now)
    writeResult (row.acknowledged now)
    let current ← getResult resultId
    resultRecord current

/-- The row of a dead result that is delivered anew. -/
def ResultRow.revived (row : ResultRow) (now : Timestamp) : ResultRow :=
  { row with
    state := .pending
    leaseId := none
    leaseOwner := none
    leaseExpiresAt := none
    attempts := 0
    nextAttemptAt := now
    lastError := none
    revision := row.revision + 1
    updatedAt := now }

/-- `retry_result_outbox`, inside its transaction. -/
def retryResultBody (resultId : Identifier) (expectedRevision : ℕ) (now : Timestamp) :
    ResultsM ResultRecord := do
  let row ← getResult resultId
  if row.state = .pending ∧ row.revision = expectedRevision + 1 ∧ row.attempts = 0 ∧
      row.lastError.isNone then
    resultRecord row
  else
    require (row.revision = expectedRevision) (.staleFence "SDK result retry revision is stale")
    require (row.state = .dead) (.value "only a dead SDK result can be retried")
    writeResult (row.revived now)
    let current ← getResult resultId
    resultRecord current

/-! ### The operations -/

section Operations

variable (environment : Environment) (store : Store Results)

/-- Commit one result of the kernel locally. -/
def receiveResult (resultId executionId : Identifier) (result : Json)
    (kernelRevision maxAttempts : ℕ) : Except SdkError Unit × Store Results :=
  transaction (receiveResultBody resultId executionId result kernelRevision maxAttempts)
    environment store

/-- `reap_results`, on the side of the SDK. -/
def reapResults : Except SdkError ℕ × Store Results :=
  transaction reapResultsBody environment store

def claimResults (owner : Identifier) (leaseSeconds : Timestamp) (limit : ℕ) :
    Except SdkError (List ResultClaim) × Store Results :=
  if 0 < leaseSeconds then
    if 1 ≤ limit then transaction (claimResultsBody owner leaseSeconds limit) environment store
    else (.error (.value "limit must be a positive integer"), store)
  else (.error (.value "lease_seconds must be positive and finite"), store)

def acknowledgeResult (resultId leaseId : Identifier) (fence : ℕ) :
    Except SdkError ResultRecord × Store Results :=
  if 1 ≤ fence then transaction (acknowledgeResultBody resultId leaseId fence) environment store
  else (.error (.value "fence must be a positive integer"), store)

/-- `retry_result_outbox`. -/
def retryResult (resultId : Identifier) (expectedRevision : ℕ) :
    Except SdkError ResultRecord × Store Results :=
  if 1 ≤ expectedRevision then
    transaction (retryResultBody resultId expectedRevision) environment store
  else (.error (.value "expected_revision must be a positive integer"), store)

end Operations

/-- A call of an operation on the results. -/
inductive ResultsCall where
  | receive (resultId executionId : Identifier) (result : Json) (kernelRevision maxAttempts : ℕ)
  | reap
  | claim (owner : Identifier) (leaseSeconds : Timestamp) (limit : ℕ)
  | acknowledge (resultId leaseId : Identifier) (fence : ℕ)
  | retry (resultId : Identifier) (expectedRevision : ℕ)

def ResultsCall.apply (environment : Environment) (store : Store Results) :
    ResultsCall → Store Results
  | receive resultId executionId result kernelRevision maxAttempts =>
    (receiveResult environment store resultId executionId result kernelRevision maxAttempts).2
  | reap => (reapResults environment store).2
  | claim owner leaseSeconds limit =>
    (claimResults environment store owner leaseSeconds limit).2
  | acknowledge resultId leaseId fence =>
    (acknowledgeResult environment store resultId leaseId fence).2
  | retry resultId expectedRevision => (retryResult environment store resultId expectedRevision).2

/-- A new store of results, and every sequence of calls on it. The orchestrator registers
executions beside it. -/
def resultDeliveries : TransitionSystem (Store Results) where
  initial store := store.tables.rows = ∅ ∧ store.watermark = 0
  step store next :=
    (∃ call environment, next = ResultsCall.apply environment store call) ∨
      ∃ generations, next = { store with tables := { store.tables with generations } }

open List

/-! ### The clock of the inbox -/

section InboxClock

variable {Application : Type} {environment : Environment} {store last : Store (Inbox Application)}

/-- The outcome of a call and the store it leaves. -/
def InboxCall.outcome (environment : Environment) (store : Store (Inbox Application)) :
    InboxCall Application → Except SdkError Unit × Store (Inbox Application)
  | .accept sourceId payload notificationId maxAttempts =>
    let result := Orchestrator.accept environment store sourceId payload notificationId maxAttempts
    (result.1.map fun _ => (), result.2)
  | .claim owner sourceId leaseSeconds =>
    let result := Orchestrator.claim environment store owner sourceId leaseSeconds
    (result.1.map fun _ => (), result.2)
  | .consume lease mutation =>
    let result := Orchestrator.consume environment store lease mutation
    (result.1.map fun _ => (), result.2)
  | .fail lease error retryDelay =>
    let result := Orchestrator.fail environment store lease error retryDelay
    (result.1.map fun _ => (), result.2)
  | .retryDead sourceId notificationId expectedRevision =>
    let result := Orchestrator.retryDead environment store sourceId notificationId expectedRevision
    (result.1.map fun _ => (), result.2)

/-- A call is refused in one way whatever happens around it, or it keeps the time it observes unless
the storage gives its transaction up. -/
def Retains {Tables : Type} (store : Store Tables)
    (outcome : Environment → Except SdkError Unit × Store Tables) : Prop :=
  (∃ failure, ∀ environment, outcome environment = (.error failure, store)) ∨
    ∀ environment sample, environment.clock 0 = .ok sample →
      (∀ failure, environment.fault ≠ .lost failure) →
      max store.watermark sample ≤ (outcome environment).2.watermark

variable {Answer Checked : Type} {checked : Except SdkError Checked} {body : Checked → InboxM Application Answer}

theorem checkedTransaction_retains :
    Retains store fun environment =>
      ((checkedTransaction environment store checked body).1.map fun _ => (),
        (checkedTransaction environment store checked body).2) := by
  cases checked with
  | error failure => exact .inl ⟨failure, fun _ => rfl⟩
  | ok value => exact .inr fun _ _ sampled stored => transaction_retains sampled stored

theorem InboxCall.retains (call : InboxCall Application) (store : Store (Inbox Application)) :
    Retains store fun environment => call.outcome environment store := by
  cases call <;> exact checkedTransaction_retains

theorem checkedTransaction_watermark :
    store.watermark ≤ (checkedTransaction environment store checked body).2.watermark := by
  have transacts : Transacts store (fun _ _ => True)
      (checkedTransaction environment store checked body) :=
    checkedTransaction_transacts fun _ _ _ _ => ensures_trivial _
  exact transacts.watermark

theorem inbox_watermark {next : Store (Inbox Application)}
    (step : (inbox Application).step store next) : store.watermark ≤ next.watermark := by
  obtain ⟨call, environment, rfl⟩ := step
  cases call <;> exact checkedTransaction_watermark

theorem inbox_watermark_monotone (reachable : (inbox Application).Reachable store)
    (run : (inbox Application).Run store last) : store.watermark ≤ last.watermark :=
  reachable.respects (fun store last => store.watermark ≤ last.watermark) (fun _ => le_refl _)
    le_trans (fun _ _ _ step => inbox_watermark step) run

/-- The message is being processed under the lease, whose expiry the clock has reached. -/
def ExpiredNotification (store : Store (Inbox Application)) (lease : InboxLease) : Prop :=
  ∃ row expiry, store.tables.messages.find? lease.key = some row ∧ row.Matches lease ∧
    row.expiresAt = some expiry ∧ expiry ≤ store.watermark

/-- A call settles a message that is being processed, and so accepts the lease as live. -/
def AcceptsNotification (store : Store (Inbox Application)) (environment : Environment)
    (lease : InboxLease) : Prop :=
  InboxCall.Settles lease environment store ∧
    ∃ row, store.tables.messages.find? lease.key = some row ∧ row.state = .processing

variable {lease : InboxLease}

theorem AcceptsNotification.live (accepts : AcceptsNotification store environment lease) :
    ∃ row expiry, store.tables.messages.find? lease.key = some row ∧ row.Matches lease ∧
      row.expiresAt = some expiry ∧ store.watermark < expiry := by
  obtain ⟨settles, row, found, processing⟩ := accepts
  have unsettled : ∀ {after}, ¬ Inbox.Repeats lease store.tables after := by
    rintro after ⟨-, stored, again, -, ended⟩
    cases found.symm.trans again
    rw [processing] at ended
    rcases ended with ended | ⟨ended | ended, -⟩ <;> cases ended
  cases settles with
  | consume mutation record answered =>
    have reached : store.watermark ≤ (consume environment store lease mutation).2.watermark :=
      checkedTransaction_watermark
    obtain repeats | ⟨stored, _, again, ⟨matched, -, expiry, expires, live⟩, -⟩ :=
      consume_answers answered
    · exact absurd repeats unsettled
    · exact ⟨stored, expiry, again, matched, expires, reached.trans_lt live⟩
  | fail error retryDelay record answered =>
    have reached : store.watermark ≤ (fail environment store lease error retryDelay).2.watermark :=
      checkedTransaction_watermark
    obtain repeats | ⟨stored, _, again, ⟨matched, -, expiry, expires, live⟩, -⟩ :=
      fail_answers answered
    · exact absurd repeats unsettled
    · exact ⟨stored, expiry, again, matched, expires, reached.trans_lt live⟩

theorem notification_expired (reachable : (inbox Application).Reachable store)
    (run : (inbox Application).Run store last) (expired : ExpiredNotification store lease)
    (environment : Environment) : ¬ AcceptsNotification last environment lease := by
  intro accepts
  obtain ⟨row, expiry, found, matched, expires, reached⟩ := expired
  obtain ⟨next, foundNext, follows⟩ := inbox_retains reachable run lease.key row found
  obtain ⟨stored, later, again, matchedAgain, expiresAgain, live⟩ := accepts.live
  cases foundNext.symm.trans again
  have fence : row.fence = next.fence := by
    have both := matched.trans matchedAgain.symm
    simp only [Prod.mk.injEq] at both
    exact both.2.2
  rcases follows.expires with beyond | same | ended
  · exact absurd fence beyond.ne
  · rw [expiresAgain, expires, Option.some.injEq] at same
    subst same
    exact absurd live (not_lt.mpr (reached.trans (inbox_watermark_monotone reachable run)))
  · rw [ended] at expiresAgain
    cases expiresAgain

end InboxClock

/-! ### The clock of the results -/

section ResultsClock

variable {environment : Environment} {store last : Store Results}

/-- What becomes of a stored result: its fence does not go back, and under one fence the expiry is
not moved. -/
structure ResultRow.Follows (row next : ResultRow) : Prop where
  fence : row.fence ≤ next.fence
  expires : row.fence < next.fence ∨ next.leaseExpiresAt = row.leaseExpiresAt ∨
    next.leaseExpiresAt = none

theorem ResultRow.Follows.refl (row : ResultRow) : row.Follows row :=
  ⟨le_refl _, Or.inr (.inl rfl)⟩

theorem ResultRow.Follows.trans {first second third : ResultRow} (left : first.Follows second)
    (right : second.Follows third) : first.Follows third where
  fence := left.fence.trans right.fence
  expires := by
    rcases left.expires with later | same | ended
    · exact .inl (later.trans_le right.fence)
    · rw [← same]
      exact right.expires.imp_left left.fence.trans_lt
    · rcases right.expires with later | same | ended'
      · exact .inl (left.fence.trans_lt later)
      · exact .inr (.inr (same.trans ended))
      · exact .inr (.inr ended')

/-- Every result of one store is still there in another. -/
def Results.Retains (before after : Results) : Prop :=
  ∀ resultId row, before.rows.find? resultId = some row →
    ∃ next, after.rows.find? resultId = some next ∧ row.Follows next

theorem Results.Retains.refl (results : Results) : results.Retains results :=
  fun _ row found => ⟨row, found, .refl row⟩

theorem Results.Retains.trans {first second third : Results} (left : first.Retains second)
    (right : second.Retains third) : first.Retains third := by
  intro resultId row found
  obtain ⟨middle, foundMiddle, follows⟩ := left resultId row found
  obtain ⟨final, foundFinal, followsFinal⟩ := right resultId middle foundMiddle
  exact ⟨final, foundFinal, follows.trans followsFinal⟩

theorem Results.find?_write (results : Results) (row : ResultRow) (resultId : Identifier) :
    (results.write row).rows.find? resultId =
      if resultId = row.resultId then some row else results.rows.find? resultId :=
  Table.find?_put results.rows row resultId

theorem Results.retains_write {results : Results} {row : ResultRow}
    (replaced : ∀ old, results.rows.find? row.resultId = some old → old.Follows row) :
    results.Retains (results.write row) := by
  intro resultId old found
  rw [Results.find?_write]
  by_cases same : resultId = row.resultId
  · rw [if_pos same]
    exact ⟨row, rfl, replaced old (same ▸ found)⟩
  · rw [if_neg same]
    exact ⟨old, found, .refl old⟩

theorem Results.retains_reap (results : Results) (now : Timestamp) :
    results.Retains (results.reap now) := by
  intro resultId row found
  have reaped : (results.reap now).rows.find? resultId =
      (results.rows.find? resultId).map fun row => row.reaped now :=
    Table.find?_update results.rows _ (fun row => row.reaped_resultId now) resultId
  rw [reaped, found]
  refine ⟨row.reaped now, rfl, ?_⟩
  unfold ResultRow.reaped
  split
  · exact ⟨le_refl _, Or.inr (.inr rfl)⟩
  · exact .refl row

variable {frame : Frame Results}

theorem getResult_ensures {resultId : Identifier} {condition : ResultRow → Frame Results → Prop}
    (holds : ∀ row, frame.tables.rows.find? resultId = some row → condition row frame) :
    Ensures (getResult resultId) environment frame condition :=
  ensures_bind (ensures_tables (ensures_expect holds))

theorem writeResult_ensures {row next : ResultRow} {condition : Unit → Frame Results → Prop}
    (found : frame.tables.rows.find? row.resultId = some row) (same : next.resultId = row.resultId)
    (follows : row.Follows next) (holds : frame.tables.Retains (frame.tables.write next) →
      condition () { frame with tables := frame.tables.write next }) :
    Ensures (writeResult next) environment frame condition := by
  refine ensures_modify (holds (Results.retains_write fun old again => ?_))
  rw [same, found, Option.some.injEq] at again
  subst again
  exact follows

theorem resultRecord_ensures {row : ResultRow} {condition : ResultRecord → Frame Results → Prop}
    (holds : ∀ record, condition record frame) :
    Ensures (resultRecord row) environment frame condition :=
  ensures_bind (ensures_tables (ensures_pure (holds _)))

variable {now : Timestamp}

theorem receiveResultBody_ensures {resultId executionId : Identifier} {result : Json}
    {kernelRevision maxAttempts : ℕ} :
    Ensures (receiveResultBody resultId executionId result kernelRevision maxAttempts now)
      environment frame fun _ next => frame.tables.Retains next.tables := by
  refine ensures_bind (ensures_tables ?_)
  cases previous : frame.tables.rows.rows.find? fun row =>
      row.resultId = resultId || row.executionId = executionId with
  | some row => exact ensures_require fun _ => .refl _
  | none =>
    refine ensures_modify (Results.retains_write fun old found => ?_)
    have missing := List.find?_eq_none.mp previous old (Table.mem_of_find? found)
    have same : old.resultId = resultId := Table.key_of_find? found
    simp [same] at missing

theorem reapResultsBody_ensures :
    Ensures (reapResultsBody now) environment frame fun _ next =>
      frame.tables.Retains next.tables :=
  ensures_bind (ensures_tables (ensures_bind (ensures_modify
    (ensures_pure (frame.tables.retains_reap now)))))

variable {owner : Identifier}

theorem leaseResults_ensures {expires : Timestamp} {rows : List ResultRow} (frame : Frame Results)
    (stored : ∀ row ∈ rows, frame.tables.rows.find? row.resultId = some row)
    (distinct : (rows.map ResultRow.resultId).Nodup) :
    Ensures (leaseResults owner expires now rows) environment frame fun _ next =>
      frame.tables.Retains next.tables := by
  induction rows generalizing frame with
  | nil => exact ensures_pure (.refl _)
  | cons row rest hypothesis =>
    rw [map_cons, nodup_cons] at distinct
    refine ensures_bind (ensures_uuid fun leaseId => ?_)
    refine ensures_bind (writeResult_ensures (stored row mem_cons_self) rfl
      ⟨Nat.le_succ _, Or.inl (Nat.lt_succ_self _)⟩ fun retains => ?_)
    refine ensures_bind (ensures_tables (ensures_bind ?_))
    refine (hypothesis _ (fun other member => ?_) distinct.2).mono
      fun _ _ more => ensures_pure (retains.trans more)
    have different : other.resultId ≠ row.resultId := by
      intro same
      exact distinct.1 (same ▸ mem_map_of_mem member)
    exact (@Table.find?_put_other _ _ _ _ frame.tables.rows (row.leased leaseId owner expires now)
      _ different).trans (stored other (mem_cons_of_mem row member))

theorem claimResultsBody_ensures {duration : Timestamp} {limit : ℕ} :
    Ensures (claimResultsBody owner duration limit now) environment frame fun _ next =>
      frame.tables.Retains next.tables := by
  refine ensures_bind (ensures_ask (then_expect fun expires _ => ?_))
  refine ensures_bind (reapResultsBody_ensures.mono fun _ reaped retains => ?_)
  refine ensures_bind (ensures_tables ?_)
  have scanned : ((reaped.tables.due now limit).map ResultRow.resultId).Nodup := by
    refine List.Nodup.sublist ((take_sublist _ _).map _) ?_
    refine ((perm_insertionSort _ _).map _).nodup_iff.mpr ?_
    exact reaped.tables.rows.unique.sublist (filter_sublist.map _)
  refine (leaseResults_ensures reaped (fun row member => ?_) scanned).mono
    fun _ _ more => retains.trans more
  have sorted := mem_of_mem_take member
  rw [mem_insertionSort, mem_filter] at sorted
  exact Table.find?_key sorted.1

/-- A result is acknowledged under a lease that has not run out. -/
structure Results.Acknowledges (resultId leaseId : Identifier) (fence : ℕ) (now : Timestamp)
    (before after : Results) : Prop where
  acknowledged : ∃ row expiry, before.rows.find? resultId = some row ∧ row.Same leaseId fence ∧
    row.leaseExpiresAt = some expiry ∧ now < expiry ∧ after = before.write (row.acknowledged now)

variable {resultId leaseId : Identifier}

variable {fence : ℕ}

theorem acknowledgeResultBody_ensures :
    Ensures (acknowledgeResultBody resultId leaseId fence now) environment frame fun _ next =>
      (next.tables = frame.tables ∧
        ∃ row, frame.tables.rows.find? resultId = some row ∧ row.state = .delivered) ∨
      Results.Acknowledges resultId leaseId fence now frame.tables next.tables := by
  refine ensures_bind (getResult_ensures fun row found => ?_)
  refine ensures_ite (fun delivered => ?_) fun _ => ?_
  · exact resultRecord_ensures fun _ => Or.inl ⟨rfl, row, found, delivered.2⟩
  · refine then_lift fun _ accepted => ?_
    refine ensures_bind (ensures_modify ?_)
    refine ensures_bind (getResult_ensures fun _ _ => resultRecord_ensures fun _ => Or.inr ?_)
    unfold ResultRow.deliverable at accepted
    split at accepted
    · rename_i held
      split at accepted
      · cases accepted
      · rename_i expiry expires
        split at accepted
        · cases accepted
        · rename_i live
          exact ⟨row, expiry, found, held.1, expires, not_le.mp live, rfl⟩
    · cases accepted

theorem Results.Acknowledges.retains {before after : Results}
    (acknowledges : Results.Acknowledges resultId leaseId fence now before after) :
    before.Retains after := by
  obtain ⟨row, expiry, found, -, -, -, rfl⟩ := acknowledges
  refine Results.retains_write fun old again => ?_
  have own : row.resultId = resultId := Table.key_of_find? found
  rw [show (row.acknowledged now).resultId = resultId from own, found, Option.some.injEq] at again
  subst again
  exact ⟨le_refl _, Or.inr (.inr rfl)⟩

theorem retryResultBody_ensures {expectedRevision : ℕ} :
    Ensures (retryResultBody resultId expectedRevision now) environment frame fun _ next =>
      frame.tables.Retains next.tables := by
  refine ensures_bind (getResult_ensures fun row found => ?_)
  refine ensures_ite (fun _ => resultRecord_ensures fun _ => .refl _) fun _ => ?_
  refine then_require fun _ => then_require fun _ => ?_
  have own : row.resultId = resultId := Table.key_of_find? found
  refine ensures_bind (@writeResult_ensures _ _ row _ _ (by rw [own]; exact found) rfl
    ⟨le_refl _, Or.inr (.inr rfl)⟩ fun retains => ?_)
  exact ensures_bind (getResult_ensures fun _ _ => resultRecord_ensures fun _ => retains)

theorem Transacts.retains {Answer : Type} {condition : Answer → Frame Results → Prop}
    {result : Except SdkError Answer × Store Results} (transacts : Transacts store condition result)
    (retained : ∀ answer next, condition answer next → store.tables.Retains next.tables) :
    store.watermark ≤ result.2.watermark ∧ store.tables.Retains result.2.tables := by
  refine ⟨transacts.watermark, ?_⟩
  obtain ⟨-, same⟩ | ⟨answer, next, done, reached, -⟩ := transacts.outcome
  · rw [same]
    exact .refl _
  · rw [reached]
    exact retained answer next done

theorem acknowledgeResult_transacts :
    Transacts store (fun _ next =>
        (next.tables = store.tables ∧
          ∃ row, store.tables.rows.find? resultId = some row ∧ row.state = .delivered) ∨
        ∃ now, store.watermark ≤ now ∧
          Results.Acknowledges resultId leaseId fence now store.tables next.tables)
      (acknowledgeResult environment store resultId leaseId fence) := by
  unfold acknowledgeResult
  split
  · refine transaction_transacts fun observed later =>
      acknowledgeResultBody_ensures.mono fun _ _ done => ?_
    exact done.imp_right fun acknowledges => ⟨observed, later, acknowledges⟩
  · exact ⟨le_refl _, Or.inl ⟨⟨_, rfl⟩, rfl⟩⟩

theorem resultDeliveries_step {next : Store Results} (step : resultDeliveries.step store next) :
    store.watermark ≤ next.watermark ∧ store.tables.Retains next.tables := by
  have refused : ∀ {Answer : Type} {failure : SdkError}, Transacts store
      (fun (_ : Answer) next => store.tables.Retains next.tables) (.error failure, store) :=
    ⟨le_refl _, Or.inl ⟨⟨_, rfl⟩, rfl⟩⟩
  rcases step with ⟨call, environment, rfl⟩ | ⟨generations, rfl⟩
  · cases call with
    | receive resultId executionId result kernelRevision maxAttempts =>
      exact (transaction_transacts fun _ _ => receiveResultBody_ensures).retains
        fun _ _ retains => retains
    | reap =>
      exact (transaction_transacts fun _ _ => reapResultsBody_ensures).retains
        fun _ _ retains => retains
    | claim owner leaseSeconds limit =>
      dsimp only [ResultsCall.apply, claimResults]
      split
      · split
        · exact (transaction_transacts fun _ _ => claimResultsBody_ensures).retains
            fun _ _ retains => retains
        · exact refused.retains fun _ _ retains => retains
      · exact refused.retains fun _ _ retains => retains
    | acknowledge resultId leaseId fence =>
      refine acknowledgeResult_transacts.retains fun _ next done => ?_
      obtain ⟨same, -⟩ | ⟨now, -, acknowledges⟩ := done
      · rw [same]
        exact .refl _
      · exact acknowledges.retains
    | retry resultId expectedRevision =>
      dsimp only [ResultsCall.apply, retryResult]
      split
      · exact (transaction_transacts fun _ _ => retryResultBody_ensures).retains
          fun _ _ retains => retains
      · exact refused.retains fun _ _ retains => retains
  · exact ⟨le_refl _, fun _ row found => ⟨row, found, .refl row⟩⟩

theorem resultDeliveries_run (reachable : resultDeliveries.Reachable store)
    (run : resultDeliveries.Run store last) :
    store.watermark ≤ last.watermark ∧ store.tables.Retains last.tables :=
  reachable.respects
    (fun store last => store.watermark ≤ last.watermark ∧ store.tables.Retains last.tables)
    (fun _ => ⟨le_refl _, .refl _⟩)
    (fun left right => ⟨left.1.trans right.1, left.2.trans right.2⟩)
    (fun _ _ _ step => resultDeliveries_step step) run

/-- The result is being delivered under the lease, whose expiry the clock has reached. -/
def ExpiredDelivery (store : Store Results) (resultId leaseId : Identifier) (fence : ℕ) : Prop :=
  ∃ row expiry, store.tables.rows.find? resultId = some row ∧ row.Same leaseId fence ∧
    row.leaseExpiresAt = some expiry ∧ expiry ≤ store.watermark

/-- A call acknowledges a result that is not delivered yet, and so accepts the lease as live. -/
def AcceptsDelivery (store : Store Results) (environment : Environment)
    (resultId leaseId : Identifier) (fence : ℕ) : Prop :=
  (∃ record, (acknowledgeResult environment store resultId leaseId fence).1 = .ok record) ∧
    ∃ row, store.tables.rows.find? resultId = some row ∧ row.state ≠ .delivered

theorem delivery_expired (reachable : resultDeliveries.Reachable store)
    (run : resultDeliveries.Run store last)
    (expired : ExpiredDelivery store resultId leaseId fence) (environment : Environment) :
    ¬ AcceptsDelivery last environment resultId leaseId fence := by
  rintro ⟨⟨record, answered⟩, open_, foundOpen, undelivered⟩
  obtain ⟨row, expiry, found, held, expires, reached⟩ := expired
  obtain ⟨monotone, retains⟩ := resultDeliveries_run reachable run
  obtain ⟨next, foundNext, follows⟩ := retains resultId row found
  obtain ⟨_, after, done, -⟩ := acknowledgeResult_transacts.answers answered
  rcases done with ⟨-, stored, again, delivered⟩ |
    ⟨now, later, stored, expiryAgain, again, heldAgain, expiresAgain, live, -⟩
  · cases foundOpen.symm.trans again
    exact undelivered delivered
  · cases foundNext.symm.trans again
    rcases follows.expires with beyond | same | ended
    · exact absurd (held.2.trans heldAgain.2.symm) beyond.ne
    · rw [expiresAgain, expires, Option.some.injEq] at same
      subst same
      exact absurd live (not_lt.mpr (reached.trans (monotone.trans later)))
    · rw [ended] at expiresAgain
      cases expiresAgain

/-- The outcome of a call and the store it leaves. -/
def ResultsCall.outcome (environment : Environment) (store : Store Results) :
    ResultsCall → Except SdkError Unit × Store Results
  | receive resultId executionId result kernelRevision maxAttempts =>
    receiveResult environment store resultId executionId result kernelRevision maxAttempts
  | reap =>
    ((reapResults environment store).1.map fun _ => (), (reapResults environment store).2)
  | claim owner leaseSeconds limit =>
    let result := claimResults environment store owner leaseSeconds limit
    (result.1.map fun _ => (), result.2)
  | acknowledge resultId leaseId fence =>
    let result := acknowledgeResult environment store resultId leaseId fence
    (result.1.map fun _ => (), result.2)
  | retry resultId expectedRevision =>
    let result := retryResult environment store resultId expectedRevision
    (result.1.map fun _ => (), result.2)

theorem ResultsCall.retains (call : ResultsCall) (store : Store Results) :
    Retains store fun environment => call.outcome environment store := by
  cases call with
  | receive | reap => exact .inr fun _ _ sampled stored => transaction_retains sampled stored
  | claim owner leaseSeconds limit =>
    dsimp only [ResultsCall.outcome, claimResults]
    split
    · split
      · exact .inr fun _ _ sampled stored => transaction_retains sampled stored
      · exact .inl ⟨_, fun _ => rfl⟩
    · exact .inl ⟨_, fun _ => rfl⟩
  | acknowledge resultId leaseId fence =>
    dsimp only [ResultsCall.outcome, acknowledgeResult]
    split
    · exact .inr fun _ _ sampled stored => transaction_retains sampled stored
    · exact .inl ⟨_, fun _ => rfl⟩
  | retry resultId expectedRevision =>
    dsimp only [ResultsCall.outcome, retryResult]
    split
    · exact .inr fun _ _ sampled stored => transaction_retains sampled stored
    · exact .inl ⟨_, fun _ => rfl⟩

end ResultsClock

/-! ### The three clocks -/

/-- In every run the watermark does not go back, a lease that has expired at it is not accepted as
live ever after, and every call that opens its own transaction keeps what it observes whether it
succeeds or fails. -/
def KernelClockMonotone : Prop :=
  (∀ state last, kernel.Reachable state → kernel.Run state last →
    state.watermark ≤ last.watermark ∧ ∀ lease environment, lease.expiresAt ≤ state.watermark →
      ¬ last.AcceptsLive environment lease) ∧
  (∀ state environment,
    (∀ call : WorkCall, ExecutionKernel.Retains state environment fun surroundings =>
      call.outcome state surroundings) ∧
    (∀ call : EnrolCall, ExecutionKernel.Retains state environment fun surroundings =>
      call.outcome state surroundings) ∧
    ∀ call : GovernCall, call.shared = false →
      ExecutionKernel.Retains state environment fun surroundings =>
        call.outcome state surroundings) ∧
  ∀ (Answer : Type) (body : Timestamp → KernelM Answer) environment state wall,
    environment.wallTime 0 = some wall → (∀ failure, environment.fault ≠ .lost failure) →
    (ExecutionKernel.transaction body environment state).2.watermark =
      (ExecutionKernel.stopped body environment state wall).session.watermark

/-- The clock of a notification inbox, likewise. -/
def InboxClockMonotone (Application : Type) : Prop :=
  (∀ store last, (inbox Application).Reachable store → (inbox Application).Run store last →
    store.watermark ≤ last.watermark ∧ ∀ lease environment, ExpiredNotification store lease →
      ¬ AcceptsNotification last environment lease) ∧
  ∀ (store : Store (Inbox Application)) (call : InboxCall Application),
    Retains store fun environment => call.outcome environment store

/-- The clock of the SDK results, likewise. -/
def ResultsClockMonotone : Prop :=
  (∀ store last, resultDeliveries.Reachable store → resultDeliveries.Run store last →
    store.watermark ≤ last.watermark ∧ ∀ resultId leaseId fence environment,
      ExpiredDelivery store resultId leaseId fence →
        ¬ AcceptsDelivery last environment resultId leaseId fence) ∧
  ∀ (store : Store Results) (call : ResultsCall),
    Retains store fun environment => call.outcome environment store

/-- Every transaction of the two delivery stores keeps all that its work observes. -/
def TransactionsKeepTime : Prop :=
  ∀ (Tables Answer : Type) (body : Timestamp → StoreM Tables Answer) environment
    (store : Store Tables) sample, environment.clock 0 = .ok sample →
    (∀ failure, environment.fault ≠ .lost failure) →
    (transaction body environment store).2.watermark =
      (stopped body environment store sample).watermark

/-- The store of the example after a verification that came too late has failed. -/
def sampleTooLate : KernelState :=
  (ExecutionKernel.verify (ExecutionKernel.sampleLease 3 third_positive) (sampleEnvironment (20 : ℕ))
    samplePerformed).2

end DispatcherSdk.Orchestrator
