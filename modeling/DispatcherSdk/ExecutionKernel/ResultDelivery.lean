/-
This file proves what the calls of the result outbox make of its rows over every run.

One call is described row by row: a row is reaped, claimed, acknowledged, renewed or released,
each under the guard that the code has checked, and only a retry revives a row that is dead.
Every move raises the revision and none lowers the fence, so a row that has kept its revision is
the same row.
-/

import DispatcherSdk.ExecutionKernel.Reachable

namespace DispatcherSdk.ExecutionKernel

open Library Library.Checked Relation

/-! ### The rows -/

/-- A row of `kernel_result_outbox` with all its columns. -/
structure Delivery where
  resultId : Identifier
  executionId : Identifier
  result : ExecutionResult
  state : OutboxState
  leaseId : Option Identifier
  leaseOwner : Option Identifier
  fence : ℕ
  attempts : ℕ
  maxAttempts : ℕ
  leaseExpiresAt : Option Timestamp
  nextAttemptAt : Timestamp
  /-- `last_error_json`. -/
  lastError : Option Json.Text
  revision : ℕ
  createdAt : Timestamp
  updatedAt : Timestamp

/-- `kernel_result_outbox`. -/
abbrev ResultOutbox := Table Delivery.resultId

namespace Delivery

/-- The row of a result that has just been stored. -/
def inserted (result : ExecutionResult) (maxAttempts : ℕ) (timestamp : Timestamp) : Delivery where
  resultId := result.resultId
  executionId := result.executionId
  result
  state := .pending
  leaseId := none
  leaseOwner := none
  fence := 0
  attempts := 0
  maxAttempts
  leaseExpiresAt := none
  nextAttemptAt := timestamp
  lastError := none
  revision := 1
  createdAt := timestamp
  updatedAt := timestamp

/-- The error recorded when a delivery lease runs out. -/
def expiryError (row : Delivery) : ExecutionError where
  code := ⟨"outbox_lease_expired", by decide⟩
  message := "result delivery lease expired"
  retryable := decide (row.attempts < row.maxAttempts)
  details := [("attempts", .ofNat row.attempts)]

def overdue (row : Delivery) (timestamp : Timestamp) : Bool :=
  decide (row.state = .delivering) && row.leaseExpiresAt.any fun expiry => expiry ≤ timestamp

/-- A delivery that is given back, or buried once its attempts are used up. -/
def reaped (row : Delivery) (timestamp : Timestamp) : Delivery :=
  { row with
    state := if row.maxAttempts ≤ row.attempts then .dead else .pending
    leaseExpiresAt := none
    nextAttemptAt := timestamp
    lastError := some row.expiryError.toDict.encode
    revision := row.revision + 1
    updatedAt := timestamp }

/-- A pending delivery without attempts left. -/
def exhausted (row : Delivery) : Bool :=
  decide (row.state = .pending) && decide (row.maxAttempts ≤ row.attempts)

def buried (row : Delivery) (timestamp : Timestamp) : Delivery :=
  { row with state := .dead, revision := row.revision + 1, updatedAt := timestamp }

/-- The row of a delivery under a new lease. -/
def claimed (row : Delivery) (leaseId owner : Identifier) (expires timestamp : Timestamp) :
    Delivery :=
  { row with
    state := .delivering
    leaseId := some leaseId
    leaseOwner := some owner
    fence := row.fence + 1
    attempts := row.attempts + 1
    leaseExpiresAt := some expires
    revision := row.revision + 1
    updatedAt := timestamp }

def acknowledged (row : Delivery) (timestamp : Timestamp) : Delivery :=
  { row with
    state := .delivered, leaseExpiresAt := none, revision := row.revision + 1
    updatedAt := timestamp }

def renewed (row : Delivery) (expires timestamp : Timestamp) : Delivery :=
  { row with
    leaseExpiresAt := some expires, revision := row.revision + 1, updatedAt := timestamp }

/-- A delivery that its holder gives back. -/
def released (row : Delivery) (error : ExecutionError) (next timestamp : Timestamp) : Delivery :=
  { row with
    state := if error.retryable ∧ row.attempts < row.maxAttempts then .pending else .dead
    leaseExpiresAt := none
    nextAttemptAt := next
    lastError := some error.toDict.encode
    revision := row.revision + 1
    updatedAt := timestamp }

def revived (row : Delivery) (timestamp : Timestamp) : Delivery :=
  { row with
    state := .pending
    leaseId := none
    leaseOwner := none
    leaseExpiresAt := none
    attempts := 0
    nextAttemptAt := timestamp
    lastError := none
    revision := row.revision + 1
    updatedAt := timestamp }

/-- The lease identity and the fence are those of the row. -/
def Leased (row : Delivery) (leaseId : Identifier) (fence : ℕ) : Prop :=
  row.leaseId = some leaseId ∧ row.fence = fence

instance (row : Delivery) (leaseId : Identifier) (fence : ℕ) :
    Decidable (row.Leased leaseId fence) := by
  unfold Leased
  infer_instance

/-- What is asked of whoever acknowledges, renews or releases a delivery. -/
def checkHeld (row : Delivery) (leaseId : Identifier) (fence : ℕ) (timestamp : Timestamp) :
    Except KernelError Unit :=
  if row.state = .delivering ∧ row.Leased leaseId fence then
    match row.leaseExpiresAt with
    | none => .error (.type "'<=' not supported between instances of 'NoneType' and 'float'")
    | some expiry =>
      check (timestamp < expiry) (.staleFence "result outbox delivery is stale")
  else .error (.staleFence "result outbox delivery is stale")

/-- `ORDER BY created_at, result_id`. -/
def precedes (left right : Delivery) : Prop :=
  left.createdAt < right.createdAt ∨
    (left.createdAt = right.createdAt ∧ left.resultId.text ≤ right.resultId.text)

instance : DecidableRel precedes := fun left right => by
  unfold precedes
  infer_instance

end Delivery

/-! ### The operations -/

namespace ResultOutbox

/-- `fetchone` of a row by its result. -/
def fetch (outbox : ResultOutbox) (resultId : Identifier) : Except KernelError Delivery :=
  present (outbox.find? resultId) (.key resultId.text)

/-- `_insert_result_outbox`. -/
def insertResult (outbox : ResultOutbox) (result : ExecutionResult) (maxAttempts : ℕ)
    (timestamp : Timestamp) : Except KernelError ResultOutbox :=
  match outbox.rows.find? fun row =>
      row.resultId = result.resultId ∨ row.executionId = result.executionId with
  | some existing => do
    check (existing.resultId = result.resultId ∧ existing.executionId = result.executionId ∧
        existing.result.toJson = result.toJson)
      (.resultConflict ("result_id/execution_id already has another outbox fact: " ++
        result.resultId.text))
    return outbox
  | none => .ok (outbox.put (.inserted result maxAttempts timestamp))

/-- `_reap_outbox_in_transaction`. -/
def reap (outbox : ResultOutbox) (timestamp : Timestamp) : ResultOutbox :=
  outbox.update (fun row => if row.overdue timestamp then row.reaped timestamp else row) fun row => by
    split <;> rfl

/-- The sweep of `claim_outbox` over pending deliveries without attempts left. -/
def sweep (outbox : ResultOutbox) (timestamp : Timestamp) : ResultOutbox :=
  outbox.update (fun row => if row.exhausted then row.buried timestamp else row) fun row => by
    split <;> rfl

def due (outbox : ResultOutbox) (timestamp : Timestamp) : Option Delivery :=
  ((outbox.rows.filter fun row =>
    row.state = .pending ∧ row.attempts < row.maxAttempts ∧
      row.nextAttemptAt ≤ timestamp).insertionSort Delivery.precedes).head?

def reapOutbox (outbox : ResultOutbox) (timestamp : Timestamp) : ResultOutbox × List Identifier :=
  (outbox.reap timestamp,
    (outbox.rows.filter fun row => row.overdue timestamp).map Delivery.resultId)

/-- `claim_outbox`. An outbox without open deliveries is left alone. -/
def claimOutbox (arithmetic : FloatArithmetic) (outbox : ResultOutbox) (owner : Identifier)
    (leaseSeconds : Timestamp) (uuid : Identifier) (timestamp : Timestamp) :
    Except KernelError (ResultOutbox × Option Delivery) := do
  check (0 < leaseSeconds) (.value "lease_seconds must be finite and positive")
  if ∀ row ∈ outbox.rows, row.state ≠ .pending ∧ row.state ≠ .delivering then
    return (outbox, none)
  else
    let swept := (outbox.reap timestamp).sweep timestamp
    match swept.due timestamp with
    | none => return (swept, none)
    | some row =>
      let expires ← checkedAdd arithmetic timestamp leaseSeconds "lease_seconds"
      let claimed := row.claimed uuid owner expires timestamp
      return (swept.put claimed, some claimed)

def ackOutbox (outbox : ResultOutbox) (resultId leaseId : Identifier) (fence : ℕ)
    (timestamp : Timestamp) : Except KernelError (ResultOutbox × Delivery) := do
  check (1 ≤ fence) (.value "fence must be a positive integer")
  let row ← outbox.fetch resultId
  if row.state = .delivered ∧ row.Leased leaseId fence then return (outbox, row)
  else
    row.checkHeld leaseId fence timestamp
    let row := row.acknowledged timestamp
    return (outbox.put row, row)

def renewOutbox (arithmetic : FloatArithmetic) (outbox : ResultOutbox)
    (resultId leaseId : Identifier) (fence : ℕ) (leaseSeconds timestamp : Timestamp) :
    Except KernelError (ResultOutbox × Delivery) := do
  check (1 ≤ fence) (.value "fence must be a positive integer")
  check (0 < leaseSeconds) (.value "lease_seconds must be finite and positive")
  let row ← outbox.fetch resultId
  row.checkHeld leaseId fence timestamp
  let expires ← checkedAdd arithmetic timestamp leaseSeconds "lease_seconds"
  let row := row.renewed expires timestamp
  return (outbox.put row, row)

def releaseOutbox (arithmetic : FloatArithmetic) (outbox : ResultOutbox)
    (resultId leaseId : Identifier) (fence : ℕ) (error : ExecutionError)
    (delaySeconds timestamp : Timestamp) : Except KernelError (ResultOutbox × Delivery) := do
  check (1 ≤ fence) (.value "fence must be a positive integer")
  let row ← outbox.fetch resultId
  if (row.state = .pending ∨ row.state = .dead) ∧ row.Leased leaseId fence then
    check (row.lastError = some error.toDict.encode)
      (.staleFence "result outbox release is stale or conflicts")
    return (outbox, row)
  else
    row.checkHeld leaseId fence timestamp
    let next ← checkedAdd arithmetic timestamp delaySeconds "outbox retry delay"
    let row := row.released error next timestamp
    return (outbox.put row, row)

def retryResultOutbox (outbox : ResultOutbox) (resultId : Identifier) (expectedRevision : ℕ)
    (timestamp : Timestamp) : Except KernelError (ResultOutbox × Delivery) := do
  check (1 ≤ expectedRevision) (.value "expected_revision must be a positive integer")
  let row ← outbox.fetch resultId
  if row.state = .pending ∧ row.revision = expectedRevision + 1 ∧ row.attempts = 0 ∧
      row.lastError = none then return (outbox, row)
  else
    check (row.revision = expectedRevision) (.staleFence "result outbox retry revision is stale")
    check (row.state = .dead) (.value "only a dead result outbox record can be retried")
    let row := row.revived timestamp
    return (outbox.put row, row)

end ResultOutbox

/-! ### Runs -/

inductive OutboxCall where
  | insert (result : ExecutionResult) (maxAttempts : ℕ)
  | reap
  | claim (owner : Identifier) (leaseSeconds : Timestamp) (uuid : Identifier)
  | ack (resultId leaseId : Identifier) (fence : ℕ)
  | renew (resultId leaseId : Identifier) (fence : ℕ) (leaseSeconds : Timestamp)
  | release (resultId leaseId : Identifier) (fence : ℕ) (error : ExecutionError)
      (delaySeconds : Timestamp)
  | retry (resultId : Identifier) (expectedRevision : ℕ)

open ResultOutbox in
def OutboxCall.apply (arithmetic : FloatArithmetic) (outbox : ResultOutbox)
    (timestamp : Timestamp) : OutboxCall → Except KernelError ResultOutbox
  | insert result maxAttempts => do
    check (1 ≤ maxAttempts) (.value "outbox_max_attempts must be a positive integer")
    insertResult outbox result maxAttempts timestamp
  | reap => .ok (reapOutbox outbox timestamp).1
  | claim owner leaseSeconds uuid =>
    Prod.fst <$> claimOutbox arithmetic outbox owner leaseSeconds uuid timestamp
  | ack resultId leaseId fence => Prod.fst <$> ackOutbox outbox resultId leaseId fence timestamp
  | renew resultId leaseId fence leaseSeconds =>
    Prod.fst <$> renewOutbox arithmetic outbox resultId leaseId fence leaseSeconds timestamp
  | release resultId leaseId fence error delaySeconds =>
    Prod.fst <$> releaseOutbox arithmetic outbox resultId leaseId fence error delaySeconds timestamp
  | retry resultId expectedRevision =>
    Prod.fst <$> retryResultOutbox outbox resultId expectedRevision timestamp

/-- Every sequence of calls, each at any time. A call that fails changes nothing. -/
def resultDeliveries (arithmetic : FloatArithmetic) : TransitionSystem ResultOutbox where
  initial outbox := outbox = ∅
  step outbox next := ∃ (call : OutboxCall) (timestamp : Timestamp),
    call.apply arithmetic outbox timestamp = .ok next

open Table List

/-! ### What a call makes of a row -/

/-- One move of a row, other than its revival. -/
inductive DeliveryMove (row : Delivery) : Delivery → Prop where
  | reaped {timestamp : Timestamp} (delivering : row.state = .delivering) :
      DeliveryMove row (row.reaped timestamp)
  | claimed {leaseId owner : Identifier} {expires timestamp : Timestamp}
      (pending : row.state = .pending) (left : row.attempts < row.maxAttempts) :
      DeliveryMove row (row.claimed leaseId owner expires timestamp)
  | acknowledged {timestamp : Timestamp} (delivering : row.state = .delivering) :
      DeliveryMove row (row.acknowledged timestamp)
  | renewed {expires timestamp : Timestamp} (delivering : row.state = .delivering) :
      DeliveryMove row (row.renewed expires timestamp)
  | released {error : ExecutionError} {next timestamp : Timestamp}
      (delivering : row.state = .delivering) : DeliveryMove row (row.released error next timestamp)

def Revival (row later : Delivery) : Prop :=
  row.state = .dead ∧ ∃ timestamp, later = row.revived timestamp

/-- What becomes of a row in the course of a run. -/
abbrev Course : Delivery → Delivery → Prop :=
  ReflTransGen fun row later => DeliveryMove row later ∨ Revival row later

def FreshDelivery (row : Delivery) : Prop :=
  ∃ result maxAttempts timestamp, 1 ≤ maxAttempts ∧ row = .inserted result maxAttempts timestamp

def OutboxCall.Moves : OutboxCall → Delivery → Delivery → Prop
  | retry resultId _ => fun row later =>
    later = row ∨ (row.resultId = resultId ∧ Revival row later)
  | _ => ReflTransGen DeliveryMove

structure Delivery.Sound (row : Delivery) : Prop where
  positive : 1 ≤ row.maxAttempts
  bounded : row.attempts ≤ row.maxAttempts
  left : row.state = .pending → row.attempts < row.maxAttempts

variable {row later : Delivery}

theorem DeliveryMove.sound (move : DeliveryMove row later) (sound : row.Sound) : later.Sound := by
  obtain ⟨positive, bounded, left⟩ := sound
  cases move with
  | reaped delivering =>
    refine ⟨positive, bounded, fun pending => ?_⟩
    simp only [Delivery.reaped] at pending ⊢
    split at pending
    · cases pending
    · omega
  | claimed pending left => exact ⟨positive, left, nofun⟩
  | acknowledged delivering => exact ⟨positive, bounded, nofun⟩
  | renewed delivering =>
    refine ⟨positive, bounded, fun pending => ?_⟩
    rw [show (row.renewed _ _).state = row.state from rfl, delivering] at pending
    cases pending
  | released delivering =>
    refine ⟨positive, bounded, fun pending => ?_⟩
    simp only [Delivery.released] at pending ⊢
    split at pending
    · rename_i both
      exact both.2
    · cases pending

theorem DeliveryMove.revision (move : DeliveryMove row later) : row.revision < later.revision := by
  cases move <;> exact Nat.lt_succ_self _

theorem DeliveryMove.fence (move : DeliveryMove row later) : row.fence ≤ later.fence := by
  cases move <;> first | exact le_rfl | exact Nat.le_succ _

theorem DeliveryMove.open_ (move : DeliveryMove row later) :
    row.state = .pending ∨ row.state = .delivering := by
  cases move with
  | claimed pending _ => exact .inl pending
  | reaped delivering | acknowledged delivering | renewed delivering | released delivering =>
    exact .inr delivering

theorem Revival.sound (revival : Revival row later) (sound : row.Sound) : later.Sound := by
  obtain ⟨_, timestamp, rfl⟩ := revival
  exact ⟨sound.positive, Nat.zero_le _, fun _ => sound.positive⟩

theorem FreshDelivery.sound (fresh : FreshDelivery row) : row.Sound := by
  obtain ⟨result, maxAttempts, timestamp, positive, rfl⟩ := fresh
  exact ⟨positive, Nat.zero_le _, fun _ => positive⟩

theorem chain_sound (chain : ReflTransGen DeliveryMove row later) (sound : row.Sound) :
    later.Sound :=
  keeps_of_links Delivery.Sound (fun held move => move.sound held) sound chain

variable {call : OutboxCall}

theorem OutboxCall.Moves.sound (moves : call.Moves row later) (sound : row.Sound) :
    later.Sound := by
  cases call with
  | retry resultId expectedRevision =>
    rcases moves with rfl | ⟨_, revival⟩
    · exact sound
    · exact revival.sound sound
  | insert | reap | claim | ack | renew | release => exact chain_sound moves sound

theorem OutboxCall.Moves.course (moves : call.Moves row later) : Course row later := by
  cases call with
  | retry resultId expectedRevision =>
    rcases moves with rfl | ⟨_, revival⟩
    · exact .refl
    · exact .single (.inr revival)
  | insert | reap | claim | ack | renew | release =>
    exact ReflTransGen.mono (fun _ _ => Or.inl) _ _ moves

/-! ### The course of a row -/

theorem Course.revision (course : Course row later) :
    later = row ∨ row.revision < later.revision := by
  induction course with
  | refl => exact .inl rfl
  | @tail middle last _ step hypothesis =>
    have raised : middle.revision < last.revision := by
      rcases step with move | ⟨_, timestamp, rfl⟩
      · exact move.revision
      · exact Nat.lt_succ_self _
    rcases hypothesis with rfl | earlier
    · exact .inr raised
    · exact .inr (earlier.trans raised)

theorem Course.fence (course : Course row later) : row.fence ≤ later.fence := by
  induction course with
  | refl => exact le_rfl
  | tail _ step hypothesis =>
    rcases step with move | ⟨_, timestamp, rfl⟩
    · exact hypothesis.trans move.fence
    · exact hypothesis

theorem Course.delivered (course : Course row later) (delivered : row.state = .delivered) :
    later = row := by
  induction course with
  | refl => rfl
  | tail _ step hypothesis =>
    subst hypothesis
    rcases step with move | ⟨dead, _⟩
    · rcases move.open_ with pending | delivering
      · rw [delivered] at pending
        cases pending
      · rw [delivered] at delivering
        cases delivering
    · rw [delivered] at dead
      cases dead

theorem chain_dead (chain : ReflTransGen DeliveryMove row later) (dead : row.state = .dead) :
    later = row := by
  rcases ReflTransGen.cases_head chain with rfl | ⟨middle, move, _⟩
  · rfl
  · rcases move.open_ with pending | delivering
    · rw [dead] at pending
      cases pending
    · rw [dead] at delivering
      cases delivering

/-! ### What a call does to the outbox -/

variable {fence : ℕ}

variable {leaseId resultId : Identifier} {timestamp : Timestamp} {outbox next : ResultOutbox}
  {record : Delivery} {arithmetic : FloatArithmetic}

theorem checkHeld_eq_ok (held : row.checkHeld leaseId fence timestamp = .ok ()) :
    row.state = .delivering ∧ row.Leased leaseId fence := by
  unfold Delivery.checkHeld at held
  split at held
  · assumption
  · cases held

theorem fetch_eq_ok : outbox.fetch resultId = .ok row ↔ outbox.find? resultId = some row :=
  present_eq_ok

/-- A chain of moves for every row and no new row, which is what a call makes of the outbox when
it neither inserts nor retries. -/
abbrev Chained (before after : ResultOutbox) : Prop :=
  Rowwise (ReflTransGen DeliveryMove) (fun _ => False) before after

theorem chained_put (stored : row ∈ outbox)
    (same : later.resultId = row.resultId) (move : DeliveryMove row later) :
    Chained outbox (outbox.put later) :=
  Rowwise.put (fun _ => .refl) stored same (.single move)

theorem reap_chained (outbox : ResultOutbox) (timestamp : Timestamp) :
    Chained outbox (outbox.reap timestamp) := by
  refine Rowwise.update fun row _ => ?_
  split
  · rename_i overdue
    unfold Delivery.overdue at overdue
    simp only [Bool.and_eq_true, decide_eq_true_eq] at overdue
    exact .single (.reaped overdue.1)
  · exact .refl

theorem sweep_eq (sound : ∀ row ∈ outbox, row.Sound)
    (timestamp : Timestamp) : outbox.sweep timestamp = outbox := by
  refine Table.ext ?_
  unfold ResultOutbox.sweep Table.update
  dsimp only
  conv_rhs => rw [← map_id outbox.rows]
  refine map_congr_left fun row member => ?_
  rw [if_neg]
  · rfl
  · unfold Delivery.exhausted
    simp only [Bool.and_eq_true, decide_eq_true_eq, not_and, not_le]
    exact (sound row member).left

theorem due_eq_some (found : outbox.due timestamp = some row) :
    row ∈ outbox ∧ row.state = .pending ∧ row.attempts < row.maxAttempts := by
  unfold ResultOutbox.due at found
  have member := mem_of_head? found
  rw [mem_insertionSort, mem_filter] at member
  simp only [decide_eq_true_eq] at member
  exact ⟨member.1, member.2.1, member.2.2.1⟩

variable {owner uuid : Identifier} {found : Option Delivery}

section

variable {leaseSeconds : Timestamp} (sound : ∀ row ∈ outbox, row.Sound)
  (accepted : outbox.claimOutbox arithmetic owner leaseSeconds uuid timestamp = .ok (next, found))

include sound accepted

theorem claimOutbox_eq_ok :
    (found = none ∧ (next = outbox ∨ next = outbox.reap timestamp)) ∨
      ∃ row expires, row ∈ outbox.reap timestamp ∧ row.state = .pending ∧
        row.attempts < row.maxAttempts ∧
        found = some (row.claimed uuid owner expires timestamp) ∧
        next = (outbox.reap timestamp).put (row.claimed uuid owner expires timestamp) := by
  have swept := sweep_eq ((reap_chained outbox timestamp).holds
    (fun held chain => chain_sound chain held) False.elim sound) timestamp
  unfold ResultOutbox.claimOutbox at accepted
  simp only [passes_iff] at accepted
  obtain ⟨_, accepted⟩ := accepted
  split at accepted
  · cases accepted
    exact .inl ⟨rfl, Or.inl rfl⟩
  · rw [swept] at accepted
    split at accepted
    · cases accepted
      exact .inl ⟨rfl, Or.inr rfl⟩
    · rename_i row first
      obtain ⟨expires, _, answered⟩ := bind_eq_ok.mp accepted
      cases answered
      obtain ⟨member, pending, left⟩ := due_eq_some first
      exact .inr ⟨row, expires, member, pending, left, rfl, rfl⟩

theorem claimOutbox_chained : Chained outbox next := by
  have reaped := reap_chained outbox timestamp
  rcases claimOutbox_eq_ok sound accepted with
    ⟨_, rfl | rfl⟩ | ⟨row, expires, member, pending, left, _, rfl⟩
  · exact Rowwise.refl (fun _ => .refl) _
  · exact reaped
  · exact Rowwise.trans ReflTransGen.trans (fun absurd _ => absurd) reaped
      (chained_put member rfl (.claimed pending left))

end

theorem ackOutbox_eq_ok
        (accepted : outbox.ackOutbox resultId leaseId fence timestamp = .ok (next, record)) :
    ∃ row, outbox.find? resultId = some row ∧ row.Leased leaseId fence ∧
      ((row.state = .delivered ∧ next = outbox ∧ record = row) ∨
        (row.state = .delivering ∧ next = outbox.put (row.acknowledged timestamp) ∧
          record = row.acknowledged timestamp)) := by
  unfold ResultOutbox.ackOutbox at accepted
  simp only [passes_iff] at accepted
  obtain ⟨_, row, fetched, accepted⟩ := accepted
  refine ⟨row, fetch_eq_ok.mp fetched, ?_⟩
  split at accepted
  · rename_i replayed
    cases accepted
    exact ⟨replayed.2, Or.inl ⟨replayed.1, rfl, rfl⟩⟩
  · obtain ⟨⟨⟩, held, answered⟩ := bind_eq_ok.mp accepted
    cases answered
    obtain ⟨delivering, leased⟩ := checkHeld_eq_ok held
    exact ⟨leased, Or.inr ⟨delivering, rfl, rfl⟩⟩

theorem renewOutbox_eq_ok {leaseSeconds : Timestamp} (accepted : outbox.renewOutbox arithmetic resultId leaseId fence
      leaseSeconds timestamp = .ok (next, record)) :
    ∃ row expires, outbox.find? resultId = some row ∧ row.Leased leaseId fence ∧
      row.state = .delivering ∧ next = outbox.put (row.renewed expires timestamp) := by
  unfold ResultOutbox.renewOutbox at accepted
  simp only [passes_iff] at accepted
  obtain ⟨_, _, row, fetched, ⟨⟩, held, expires, _, answered⟩ := accepted
  cases answered
  obtain ⟨delivering, leased⟩ := checkHeld_eq_ok held
  exact ⟨row, expires, fetch_eq_ok.mp fetched, leased, delivering, rfl⟩

theorem releaseOutbox_eq_ok {error : ExecutionError} {delaySeconds : Timestamp}
    (accepted : outbox.releaseOutbox arithmetic resultId leaseId fence error delaySeconds
      timestamp = .ok (next, record)) :
    ∃ row, outbox.find? resultId = some row ∧ row.Leased leaseId fence ∧
      (((row.state = .pending ∨ row.state = .dead) ∧
          row.lastError = some error.toDict.encode ∧ next = outbox ∧ record = row) ∨
        ∃ later, row.state = .delivering ∧
          next = outbox.put (row.released error later timestamp) ∧
          record = row.released error later timestamp) := by
  unfold ResultOutbox.releaseOutbox at accepted
  simp only [passes_iff] at accepted
  obtain ⟨_, row, fetched, accepted⟩ := accepted
  refine ⟨row, fetch_eq_ok.mp fetched, ?_⟩
  split at accepted
  · rename_i returned
    simp only [passes_iff] at accepted
    obtain ⟨same, answered⟩ := accepted
    cases answered
    exact ⟨returned.2, Or.inl ⟨returned.1, same, rfl, rfl⟩⟩
  · obtain ⟨⟨⟩, held, accepted⟩ := bind_eq_ok.mp accepted
    obtain ⟨later, _, answered⟩ := bind_eq_ok.mp accepted
    cases answered
    obtain ⟨delivering, leased⟩ := checkHeld_eq_ok held
    exact ⟨leased, Or.inr ⟨later, delivering, rfl, rfl⟩⟩

theorem retryResultOutbox_eq_ok {expectedRevision : ℕ}
    (accepted : outbox.retryResultOutbox resultId expectedRevision timestamp =
      .ok (next, record)) :
    ∃ row, outbox.find? resultId = some row ∧ record.state = .pending ∧
      record.revision = expectedRevision + 1 ∧ record.attempts = 0 ∧ record.lastError = none ∧
      ((next = outbox ∧ record = row) ∨
        (row.state = .dead ∧ next = outbox.put (row.revived timestamp) ∧
          record = row.revived timestamp)) := by
  unfold ResultOutbox.retryResultOutbox at accepted
  simp only [passes_iff] at accepted
  obtain ⟨_, row, fetched, accepted⟩ := accepted
  refine ⟨row, fetch_eq_ok.mp fetched, ?_⟩
  split at accepted
  · rename_i replayed
    cases accepted
    exact ⟨replayed.1, replayed.2.1, replayed.2.2.1, replayed.2.2.2, Or.inl ⟨rfl, rfl⟩⟩
  · simp only [passes_iff] at accepted
    obtain ⟨current, dead, answered⟩ := accepted
    cases answered
    exact ⟨rfl, congrArg (· + 1) current, rfl, rfl, Or.inr ⟨dead, rfl, rfl⟩⟩

theorem insertResult_eq_ok {result : ExecutionResult} {maxAttempts : ℕ}
    (accepted : outbox.insertResult result maxAttempts timestamp = .ok next) :
    next = outbox ∨ (outbox.find? result.resultId = none ∧
      next = outbox.put (.inserted result maxAttempts timestamp)) := by
  unfold ResultOutbox.insertResult at accepted
  split at accepted
  · simp only [passes_iff] at accepted
    obtain ⟨_, answered⟩ := accepted
    cases answered
    exact .inl rfl
  · rename_i absent
    cases accepted
    refine Or.inr ⟨find?_eq_none_iff.mpr fun row stored same => ?_, rfl⟩
    have missing := List.find?_eq_none.mp absent row stored
    simp only [decide_eq_true_eq, not_or] at missing
    exact missing.1 same

theorem OutboxCall.rowwise (sound : ∀ row ∈ outbox, row.Sound)
    (accepted : call.apply arithmetic outbox timestamp = .ok next) :
    Rowwise call.Moves FreshDelivery outbox next := by
  have widen {after : ResultOutbox} (chained : Chained outbox after) :
      Rowwise (ReflTransGen DeliveryMove) FreshDelivery outbox after :=
    chained.mono (fun _ _ => id) fun _ => False.elim
  cases call with
  | insert result maxAttempts =>
    unfold OutboxCall.apply at accepted
    simp only [passes_iff] at accepted
    obtain ⟨positive, inserted⟩ := accepted
    rcases insertResult_eq_ok inserted with rfl | ⟨absent, rfl⟩
    · exact Rowwise.refl (fun _ => .refl) _
    · exact Rowwise.insert (fun _ => .refl) absent ⟨result, maxAttempts, timestamp, positive, rfl⟩
  | reap =>
    cases accepted
    exact widen (reap_chained outbox timestamp)
  | claim owner leaseSeconds uuid =>
    obtain ⟨⟨after, found⟩, claimed, rfl⟩ := map_eq_ok.mp accepted
    exact widen (claimOutbox_chained sound claimed)
  | ack resultId leaseId fence =>
    obtain ⟨⟨after, record⟩, served, rfl⟩ := map_eq_ok.mp accepted
    obtain ⟨row, found, _, ⟨_, rfl, _⟩ | ⟨delivering, rfl, _⟩⟩ := ackOutbox_eq_ok served
    · exact Rowwise.refl (fun _ => .refl) _
    · exact widen (chained_put (mem_of_find? found) rfl (.acknowledged delivering))
  | renew resultId leaseId fence leaseSeconds =>
    obtain ⟨⟨after, record⟩, served, rfl⟩ := map_eq_ok.mp accepted
    obtain ⟨row, expires, found, _, delivering, rfl⟩ := renewOutbox_eq_ok served
    exact widen (chained_put (mem_of_find? found) rfl (.renewed delivering))
  | release resultId leaseId fence error delaySeconds =>
    obtain ⟨⟨after, record⟩, served, rfl⟩ := map_eq_ok.mp accepted
    obtain ⟨row, found, _, ⟨_, _, rfl, _⟩ | ⟨later, delivering, rfl, _⟩⟩ :=
      releaseOutbox_eq_ok served
    · exact Rowwise.refl (fun _ => .refl) _
    · exact widen (chained_put (mem_of_find? found) rfl (.released delivering))
  | retry resultId expectedRevision =>
    have stays (row : Delivery) : (retry resultId expectedRevision).Moves row row := Or.inl rfl
    obtain ⟨⟨after, record⟩, served, rfl⟩ := map_eq_ok.mp accepted
    obtain ⟨row, found, _, _, _, _, ⟨rfl, _⟩ | ⟨dead, rfl, _⟩⟩ := retryResultOutbox_eq_ok served
    · exact Rowwise.refl stays _
    · exact Rowwise.put stays (mem_of_find? found) rfl
        (.inr ⟨key_of_find? found, dead, timestamp, rfl⟩)

/-! ### Runs -/

section

variable (reachable : (resultDeliveries arithmetic).Reachable outbox)

include reachable

theorem resultDeliveries_sound : ∀ row ∈ outbox, row.Sound := by
  refine reachable.invariant (fun outbox => ∀ row ∈ outbox, row.Sound) ?_ ?_
  · rintro state rfl row member
    cases member
  · rintro state next _ sound ⟨call, timestamp, accepted⟩
    exact (OutboxCall.rowwise sound accepted).holds (fun held moves => moves.sound held)
      FreshDelivery.sound sound

theorem resultDeliveries_course {last : ResultOutbox}
    (run : (resultDeliveries arithmetic).Run outbox last) :
    Rowwise Course (fun _ => True) outbox last := by
  refine reachable.respects (Rowwise Course fun _ => True) (Rowwise.refl fun _ => .refl)
    (Rowwise.trans ReflTransGen.trans fun _ _ => trivial) ?_ run
  rintro state next before ⟨call, timestamp, accepted⟩
  exact (OutboxCall.rowwise (resultDeliveries_sound before) accepted).mono
    (fun _ _ => OutboxCall.Moves.course) fun _ _ => trivial

end

/-- A row that has been given back is as it was, or it has lost its lease, or it has been claimed
since. -/
theorem Course.givenBack (course : Course row later)
    (back : row.state = .pending ∨ row.state = .dead) :
    later = row ∨ (later.leaseId = none ∧ later.state = .pending) ∨ row.fence < later.fence := by
  induction course with
  | refl => exact .inl rfl
  | @tail middle last earlier step hypothesis =>
    have held : row.fence ≤ middle.fence := Course.fence earlier
    rcases step with move | ⟨_, timestamp, rfl⟩
    · have pending : row.fence < middle.fence ∨ middle.state = .pending ∨ middle.state = .dead := by
        rcases hypothesis with rfl | ⟨_, pending⟩ | raised
        · exact .inr back
        · exact .inr (.inl pending)
        · exact .inl raised
      rcases pending with raised | back
      · exact .inr (.inr (raised.trans_le move.fence))
      · have claimed : middle.fence < last.fence := by
          cases move with
          | claimed => exact Nat.lt_succ_self _
          | reaped delivering | acknowledged delivering | renewed delivering
          | released delivering =>
            rw [delivering] at back
            rcases back with absurd | absurd <;> cases absurd
        exact .inr (.inr (held.trans_lt claimed))
    · exact .inr (.inl ⟨rfl, rfl⟩)
/-- A lease that the outbox serves: whoever names it may acknowledge, renew or release. -/
def Served (arithmetic : FloatArithmetic) (outbox : ResultOutbox) (resultId leaseId : Identifier)
    (fence : ℕ) : Prop :=
  ∃ timestamp answer, outbox.ackOutbox resultId leaseId fence timestamp = .ok answer ∨
      (∃ leaseSeconds, outbox.renewOutbox arithmetic resultId leaseId fence leaseSeconds timestamp =
        .ok answer) ∨
      ∃ error delaySeconds, outbox.releaseOutbox arithmetic resultId leaseId fence error
        delaySeconds timestamp = .ok answer

theorem Served.leased (served : Served arithmetic outbox resultId leaseId fence) :
    ∃ row, outbox.find? resultId = some row ∧ row.Leased leaseId fence := by
  obtain ⟨timestamp, ⟨next, record⟩, acknowledged | ⟨leaseSeconds, renewed⟩ |
    ⟨error, delaySeconds, released⟩⟩ := served
  · obtain ⟨row, found, leased, _⟩ := ackOutbox_eq_ok acknowledged
    exact ⟨row, found, leased⟩
  · obtain ⟨row, _, found, leased, _⟩ := renewOutbox_eq_ok renewed
    exact ⟨row, found, leased⟩
  · obtain ⟨row, found, leased, _⟩ := releaseOutbox_eq_ok released
    exact ⟨row, found, leased⟩

/-! ### Replays -/

section Replays

variable {last : ResultOutbox}

theorem later_row (reachable : (resultDeliveries arithmetic).Reachable next)
    (run : (resultDeliveries arithmetic).Run next last) (stored : next.find? resultId = some record) :
    ∃ later, last.find? resultId = some later ∧ Course record later :=
  (resultDeliveries_course reachable run).find? stored

theorem ackOutbox_replay
    (accepted : outbox.ackOutbox resultId leaseId fence timestamp = .ok (next, record))
    (reachable : (resultDeliveries arithmetic).Reachable next)
    (run : (resultDeliveries arithmetic).Run next last) (later : Timestamp) :
    last.ackOutbox resultId leaseId fence later = .ok (last, record) := by
  have positive : 1 ≤ fence := by
    unfold ResultOutbox.ackOutbox at accepted
    exact check_eq_ok.mp (bind_eq_ok.mp accepted).choose_spec.1
  have left : next.find? resultId = some record ∧ record.state = .delivered ∧
      record.Leased leaseId fence := by
    obtain ⟨row, found, leased, ⟨delivered, rfl, rfl⟩ | ⟨_, rfl, rfl⟩⟩ := ackOutbox_eq_ok accepted
    · exact ⟨found, delivered, leased⟩
    · refine ⟨?_, rfl, leased⟩
      rw [← key_of_find? found]
      exact find?_put_same outbox (row.acknowledged timestamp)
  obtain ⟨stored, delivered, leased⟩ := left
  obtain ⟨row, found, course⟩ := later_row reachable run stored
  obtain rfl := course.delivered delivered
  unfold ResultOutbox.ackOutbox
  refine bind_eq_ok.mpr ⟨(), check_eq_ok.mpr positive, ?_⟩
  refine bind_eq_ok.mpr ⟨row, fetch_eq_ok.mpr found, ?_⟩
  rw [if_pos ⟨delivered, leased⟩]
  rfl

variable {after : ResultOutbox} {answer : Delivery}

/-- A repeated release is answered only while the row is as the first one left it, and only for the
same error. -/
theorem releaseOutbox_replay {error : ExecutionError} {delaySeconds : Timestamp}
    (accepted : outbox.releaseOutbox arithmetic resultId leaseId fence error delaySeconds timestamp =
      .ok (next, record)) (reachable : (resultDeliveries arithmetic).Reachable next)
    (run : (resultDeliveries arithmetic).Run next last) {repeated : ExecutionError}
    {delay later : Timestamp}
    (again : last.releaseOutbox arithmetic resultId leaseId fence repeated delay later =
      .ok (after, answer)) :
    last.find? resultId = some record ∧ repeated.toDict.encode = error.toDict.encode ∧
      after = last ∧ answer = record := by
  have left : next.find? resultId = some record ∧ record.Leased leaseId fence ∧
      (record.state = .pending ∨ record.state = .dead) ∧
        record.lastError = some error.toDict.encode := by
    obtain ⟨row, found, leased, ⟨back, same, rfl, rfl⟩ | ⟨due, _, rfl, rfl⟩⟩ :=
      releaseOutbox_eq_ok accepted
    · exact ⟨found, leased, back, same⟩
    · refine ⟨?_, leased, ?_, rfl⟩
      · rw [← key_of_find? found]
        exact find?_put_same outbox (row.released error due timestamp)
      · unfold Delivery.released
        dsimp only
        split
        · exact .inl rfl
        · exact .inr rfl
  obtain ⟨stored, leased, back, recorded⟩ := left
  obtain ⟨row, found, course⟩ := later_row reachable run stored
  obtain ⟨held, same, leasedStill, served⟩ := releaseOutbox_eq_ok again
  obtain rfl : row = held := Option.some.inj (found.symm.trans same)
  have kept : row = record := by
    rcases course.givenBack back with kept | ⟨vacant, _⟩ | raised
    · exact kept
    · exact absurd (vacant.symm.trans leasedStill.1) nofun
    · exact absurd (leased.2.trans leasedStill.2.symm) (Nat.ne_of_lt raised)
  subst kept
  rcases served with ⟨_, equal, rfl, rfl⟩ | ⟨_, delivering, _, _⟩
  · exact ⟨found, Option.some.inj (equal.symm.trans recorded), rfl, rfl⟩
  · rcases back with back | back
    · rw [delivering] at back
      cases back
    · rw [delivering] at back
      cases back

variable {expectedRevision : ℕ}

section

variable
  (accepted : outbox.retryResultOutbox resultId expectedRevision timestamp = .ok (next, record))

include accepted

theorem retryResultOutbox_left :
    next.find? resultId = some record ∧ record.state = .pending ∧
      record.revision = expectedRevision + 1 ∧ record.attempts = 0 ∧ record.lastError = none := by
  obtain ⟨row, found, pending, raised, unused, clean, ⟨rfl, rfl⟩ | ⟨_, rfl, rfl⟩⟩ :=
    retryResultOutbox_eq_ok accepted
  · exact ⟨found, pending, raised, unused, clean⟩
  · refine ⟨?_, pending, raised, unused, clean⟩
    rw [← key_of_find? found]
    exact find?_put_same outbox (row.revived timestamp)

theorem retryResultOutbox_again (kept : last.find? resultId = some record) (later : Timestamp) :
    last.retryResultOutbox resultId expectedRevision later = .ok (last, record) := by
  obtain ⟨_, replayed⟩ := retryResultOutbox_left accepted
  have positive : 1 ≤ expectedRevision := by
    unfold ResultOutbox.retryResultOutbox at accepted
    exact check_eq_ok.mp (bind_eq_ok.mp accepted).choose_spec.1
  unfold ResultOutbox.retryResultOutbox
  refine bind_eq_ok.mpr ⟨(), check_eq_ok.mpr positive, ?_⟩
  refine bind_eq_ok.mpr ⟨record, fetch_eq_ok.mpr kept, ?_⟩
  rw [if_pos replayed]
  rfl

theorem retryResultOutbox_replay (reachable : (resultDeliveries arithmetic).Reachable next)
    (run : (resultDeliveries arithmetic).Run next last) {later : Timestamp}
    (again : last.retryResultOutbox resultId expectedRevision later = .ok (after, answer)) :
    after = last ∧ answer = record := by
  obtain ⟨stored, _, revision, _⟩ := retryResultOutbox_left accepted
  obtain ⟨row, found, course⟩ := later_row reachable run stored
  obtain ⟨held, same, _, raised, _, _, ⟨rfl, rfl⟩ | ⟨_, _, rfl⟩⟩ := retryResultOutbox_eq_ok again
  · obtain rfl : row = answer := Option.some.inj (found.symm.trans same)
    rcases course.revision with kept | greater
    · exact ⟨rfl, kept⟩
    · omega
  · -- A second revival would need the revision from before the first one.
    obtain rfl : row = held := Option.some.inj (found.symm.trans same)
    have equal : row.revision + 1 = expectedRevision + 1 := raised
    rcases course.revision with rfl | greater <;> omega

end

end Replays
/-! ### The delivery state machine -/

def sampleFailure : ExecutionResult where
  resultId := sampleName
  executionId := sampleName
  status := .failed
  attempt := 1
  fence := 1
  effectIds := []
  startedAt := 0
  completedAt := 0
  correlationId := sampleName
  causationId := none
  value := .null
  error := some ⟨sampleName, "failed", false, []⟩
  accepted := by rfl

/-- Over every sequence of calls at any times: attempts stay within their bound, a claim raises the
fence, a lease is served for one identity and one fence, a delivered row never changes and a dead
one only by its retry. -/
theorem resultDeliveries_lawful {arithmetic : FloatArithmetic} {outbox : ResultOutbox}
    (reachable : (resultDeliveries arithmetic).Reachable outbox) :
    (∀ row ∈ outbox, row.attempts ≤ row.maxAttempts ∧
      (row.state = .pending → row.attempts < row.maxAttempts)) ∧
    (∀ timestamp, (outbox.reap timestamp).sweep timestamp = outbox.reap timestamp) ∧
    (∀ owner leaseSeconds uuid timestamp next record,
      outbox.claimOutbox arithmetic owner leaseSeconds uuid timestamp = .ok (next, some record) →
        next.find? record.resultId = some record ∧
          ∃ row, outbox.find? record.resultId = some row ∧ record.fence = row.fence + 1) ∧
    (∀ resultId leaseId fence leaseId' fence', Served arithmetic outbox resultId leaseId fence →
        Served arithmetic outbox resultId leaseId' fence' → leaseId' = leaseId ∧ fence' = fence) ∧
    (∀ call timestamp next, OutboxCall.apply arithmetic outbox timestamp call = .ok next →
      ∀ row ∈ outbox, row.state = .dead →
        row ∈ next ∨ ∃ expectedRevision, call = .retry row.resultId expectedRevision) ∧
    (∀ last, (resultDeliveries arithmetic).Run outbox last → ∀ row ∈ outbox,
      (∃ later, last.find? row.resultId = some later ∧ row.fence ≤ later.fence) ∧
        (row.state = .delivered → row ∈ last)) ∧
    (∀ resultId leaseId fence timestamp next record,
      outbox.ackOutbox resultId leaseId fence timestamp = .ok (next, record) →
        ∀ last, (resultDeliveries arithmetic).Run next last → ∀ later,
          last.ackOutbox resultId leaseId fence later = .ok (last, record)) ∧
    (∀ resultId expectedRevision timestamp next record,
      outbox.retryResultOutbox resultId expectedRevision timestamp = .ok (next, record) →
        ∀ last, (resultDeliveries arithmetic).Run next last → ∀ later,
          (last.find? resultId = some record →
            last.retryResultOutbox resultId expectedRevision later = .ok (last, record)) ∧
          ∀ after answer,
            last.retryResultOutbox resultId expectedRevision later = .ok (after, answer) →
              after = last ∧ answer = record) ∧
    (∀ resultId leaseId fence error delaySeconds timestamp next record,
      outbox.releaseOutbox arithmetic resultId leaseId fence error delaySeconds timestamp =
        .ok (next, record) →
        ∀ last, (resultDeliveries arithmetic).Run next last →
          ∀ repeated delay later after answer,
            last.releaseOutbox arithmetic resultId leaseId fence repeated delay later =
              .ok (after, answer) →
              last.find? resultId = some record ∧ repeated.toDict.encode = error.toDict.encode ∧
                after = last ∧ answer = record) := by
  have sound := resultDeliveries_sound reachable
  have next_reachable (call : OutboxCall) {timestamp : Timestamp} {next : ResultOutbox}
      (accepted : call.apply arithmetic outbox timestamp = .ok next) :
      (resultDeliveries arithmetic).Reachable next :=
    reachable.next ⟨call, timestamp, accepted⟩
  refine ⟨fun row member => ?_, fun timestamp => ?_, ?_, ?_, ?_, ?_, ?_, ?_, ?_⟩
  · exact ⟨(sound row member).bounded, (sound row member).left⟩
  · exact sweep_eq ((reap_chained outbox timestamp).holds
      (fun held chain => chain_sound chain held) False.elim sound) timestamp
  · intro owner leaseSeconds uuid timestamp next record accepted
    obtain ⟨absurd, _⟩ | ⟨row, expires, member, _, _, same, rfl⟩ :=
      claimOutbox_eq_ok sound accepted
    · cases absurd
    · cases same
      refine ⟨find?_put_same _ (row.claimed uuid owner expires timestamp), ?_⟩
      -- Reaping changes no fence.
      obtain ⟨before, stored, rfl⟩ := mem_update.mp member
      refine ⟨before, ?_, ?_⟩
      · refine find?_eq_some_iff.mpr ⟨stored, ?_⟩
        show before.resultId = Delivery.resultId (if _ then _ else _)
        split <;> rfl
      · show Delivery.fence (if _ then _ else _) + 1 = _
        split <;> rfl
  · intro resultId leaseId fence leaseId' fence' first second
    obtain ⟨row, found, leased⟩ := first.leased
    obtain ⟨same, found', leased'⟩ := second.leased
    obtain rfl : row = same := Option.some.inj (found.symm.trans found')
    exact ⟨Option.some.inj (leased'.1.symm.trans leased.1), leased'.2.symm.trans leased.2⟩
  · intro call timestamp next accepted row member dead
    obtain ⟨later, kept, _, moves⟩ := (OutboxCall.rowwise sound accepted).forward row member
    cases call with
    | retry resultId expectedRevision =>
      rcases moves with rfl | ⟨rfl, _⟩
      · exact .inl kept
      · exact .inr ⟨expectedRevision, rfl⟩
    | insert | reap | claim | ack | renew | release =>
      exact .inl (chain_dead moves dead ▸ kept)
  · intro last run row member
    obtain ⟨later, kept, same, course⟩ := (resultDeliveries_course reachable run).forward row member
    exact ⟨⟨later, find?_eq_some_iff.mpr ⟨kept, same⟩, course.fence⟩,
      fun delivered => course.delivered delivered ▸ kept⟩
  · intro resultId leaseId fence timestamp next record accepted last run later
    exact ackOutbox_replay accepted
      (next_reachable (.ack resultId leaseId fence)
        (map_eq_ok.mpr ⟨_, accepted, rfl⟩)) run later
  · intro resultId expectedRevision timestamp next record accepted last run later
    refine ⟨fun kept => retryResultOutbox_again accepted kept later, fun after answer again => ?_⟩
    exact retryResultOutbox_replay accepted
      (next_reachable (.retry resultId expectedRevision)
        (map_eq_ok.mpr ⟨_, accepted, rfl⟩)) run again
  · intro resultId leaseId fence error delaySeconds timestamp next record accepted last run
      repeated delay later after answer again
    exact releaseOutbox_replay accepted
      (next_reachable (.release resultId leaseId fence error delaySeconds)
        (map_eq_ok.mpr ⟨_, accepted, rfl⟩)) run again

/-- The outbox into which one result has been inserted. -/
theorem resultDeliveries_lawful_inserted :
    (resultDeliveries .exact).Reachable (Table.put ∅ (.inserted sampleFailure 1 0)) ∧
    ∀ row ∈ (Table.put ∅ (.inserted sampleFailure 1 0) : ResultOutbox),
      row.attempts ≤ row.maxAttempts ∧ (row.state = .pending → row.attempts < row.maxAttempts) := by
  have empty : (resultDeliveries .exact).Reachable ∅ := .start rfl
  have inserted : (resultDeliveries .exact).Reachable (Table.put ∅ (.inserted sampleFailure 1 0)) :=
    empty.next ⟨.insert sampleFailure 1, 0, rfl⟩
  exact ⟨inserted, (resultDeliveries_lawful inserted).1⟩

def sampleGivenUp : Except KernelError ResultOutbox := do
  let outbox ← OutboxCall.apply .exact ∅ 0 (.insert sampleFailure 1)
  let outbox ← OutboxCall.apply .exact outbox 0 (.claim sampleName 1 sampleName)
  OutboxCall.apply .exact outbox 0
    (.release sampleName sampleName 1 ⟨sampleName, "failed", false, []⟩ 0)

/-- Once the reopened delivery has been claimed, the same retry is rejected. -/
theorem retryResultOutbox_not_repeated :
    ∃ outbox next last record, (resultDeliveries .exact).Reachable outbox ∧
      outbox.retryResultOutbox sampleName 3 0 = .ok (next, record) ∧
      (resultDeliveries .exact).Run next last ∧
      ∀ answer, last.retryResultOutbox sampleName 3 0 ≠ .ok answer := by
  have outcome : (do
      let outbox ← sampleGivenUp
      let retried ← outbox.retryResultOutbox sampleName 3 0
      let last ← OutboxCall.apply .exact retried.1 0 (.claim sampleName 1 sampleName)
      check ((last.retryResultOutbox sampleName 3 0).toOption.isNone = true)
        (.value "")).toOption.isSome = true := by
    decide +kernel
  cases passed : (do
      let outbox ← sampleGivenUp
      let retried ← outbox.retryResultOutbox sampleName 3 0
      let last ← OutboxCall.apply .exact retried.1 0 (.claim sampleName 1 sampleName)
      check ((last.retryResultOutbox sampleName 3 0).toOption.isNone = true)
        (.value "")) with
  | error failure =>
    rw [passed] at outcome
    cases outcome
  | ok done =>
    obtain ⟨outbox, givenUp, passed⟩ := bind_eq_ok.mp passed
    obtain ⟨⟨next, record⟩, retried, passed⟩ := bind_eq_ok.mp passed
    obtain ⟨last, claimed, passed⟩ := bind_eq_ok.mp passed
    obtain ⟨stored, inserted, passed'⟩ := bind_eq_ok.mp givenUp
    obtain ⟨handed, taken, released⟩ := bind_eq_ok.mp passed'
    refine ⟨outbox, next, last, record, ?_, retried, ?_, fun answer accepted => ?_⟩
    · have empty : (resultDeliveries .exact).Reachable ∅ := .start rfl
      have first : (resultDeliveries .exact).Reachable stored := empty.next ⟨_, _, inserted⟩
      have second : (resultDeliveries .exact).Reachable handed := first.next ⟨_, _, taken⟩
      exact second.next ⟨_, _, released⟩
    · exact .single ⟨_, _, claimed⟩
    · have rejected := check_eq_ok.mp passed
      rw [accepted] at rejected
      cases rejected

end DispatcherSdk.ExecutionKernel
