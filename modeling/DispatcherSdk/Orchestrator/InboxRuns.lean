/-
This file proves what the notification inbox promises over whole runs: a message's
effects on the application's tables are committed exactly once if it is consumed and
never otherwise, a consumed message stays consumed, only the current lease can settle
a message, and no message is lost.
-/

import DispatcherSdk.Library.Transition
import DispatcherSdk.Orchestrator.Reducer

namespace DispatcherSdk.Orchestrator

open Library ExecutionKernel

/-! ### The rows -/

inductive InboxState where
  | pending
  | processing
  | consumed
  | dead
  deriving DecidableEq

/-- A row of `notification_inbox_messages`. -/
structure InboxRow where
  sourceId : Identifier
  notificationId : Identifier
  payload : Json
  state : InboxState
  attempts : ℕ
  maxAttempts : ℕ
  leaseId : Option Identifier
  owner : Option Identifier
  fence : ℕ
  expiresAt : Option Timestamp
  nextAttemptAt : Timestamp
  lastError : Option Json
  settlement : Option Json.Text
  revision : ℕ
  createdAt : Timestamp
  updatedAt : Timestamp

def InboxRow.key (row : InboxRow) : Identifier × Identifier := (row.sourceId, row.notificationId)

structure InboxLease where
  sourceId : Identifier
  notificationId : Identifier
  leaseId : Identifier
  owner : Identifier
  fence : ℕ
  expiresAt : Timestamp
  attempt : ℕ
  payload : Json

def InboxLease.key (lease : InboxLease) : Identifier × Identifier :=
  (lease.sourceId, lease.notificationId)

structure InboxRecord where
  sourceId : Identifier
  notificationId : Identifier
  payload : Json
  state : InboxState
  attempts : ℕ
  maxAttempts : ℕ
  fence : ℕ
  revision : ℕ
  leaseId : Option Identifier
  owner : Option Identifier
  expiresAt : Option Timestamp
  nextAttemptAt : Timestamp
  lastError : Option Json
  createdAt : Timestamp
  updatedAt : Timestamp

/-- `payload.setdefault("generation", 0)` of a payload that is an object. -/
def withGeneration : Json → Json
  | .object fields =>
    .object (if (Json.get? fields "generation").isSome then fields
      else fields ++ [("generation", .int 0)])
  | payload => payload

def InboxRow.record (row : InboxRow) : InboxRecord :=
  { sourceId := row.sourceId, notificationId := row.notificationId
    payload := withGeneration row.payload, state := row.state, attempts := row.attempts
    maxAttempts := row.maxAttempts, fence := row.fence, revision := row.revision
    leaseId := row.leaseId, owner := row.owner, expiresAt := row.expiresAt
    nextAttemptAt := row.nextAttemptAt, lastError := row.lastError, createdAt := row.createdAt
    updatedAt := row.updatedAt }

def InboxRow.Matches (row : InboxRow) (lease : InboxLease) : Prop :=
  (row.leaseId, row.owner, row.fence) = (some lease.leaseId, some lease.owner, lease.fence)

instance (row : InboxRow) (lease : InboxLease) : Decidable (row.Matches lease) := by
  unfold InboxRow.Matches
  infer_instance

/-! ### The store -/

/-- What consuming a message has done to the application's tables. -/
structure Effect (Application : Type) where
  message : Identifier × Identifier
  payload : Json
  before : Application
  after : Application

/-- The tables of the inbox and of the application beside it, with the ledger of what mutations
have done. -/
structure Inbox (Application : Type) where
  messages : Table InboxRow.key
  application : Application
  effects : List (Effect Application)

abbrev InboxM (Application : Type) := StoreM (Inbox Application)

/-- SQL of the application: it reads the database and the payload, and answers the application's
tables or raises. -/
abbrev Mutation (Application : Type) := Inbox Application → Json → Except SdkError Application

variable {Application : Type}

open Attempt

/-- The inbox after a message has been stored under its key. -/
def Inbox.write (inbox : Inbox Application) (row : InboxRow) : Inbox Application :=
  { inbox with messages := inbox.messages.put row }

/-- The inbox after a mutation has answered on the payload of a message. -/
def Inbox.mutate (inbox : Inbox Application) (row : InboxRow) (application : Application) :
    Inbox Application :=
  { inbox with
    application
    effects := inbox.effects ++ [⟨row.key, row.payload, inbox.application, application⟩] }

/-- `INSERT` or `UPDATE` of one message. -/
def writeMessage (row : InboxRow) : InboxM Application Unit :=
  StoreM.modify fun inbox => inbox.write row

/-- `_row`. -/
def getMessage (key : Identifier × Identifier) : InboxM Application InboxRow := do
  let inbox ← StoreM.tables
  expect (inbox.messages.find? key) (.key (key.1.text ++ ", " ++ key.2.text))

def future (arithmetic : FloatArithmetic) (now delay : Timestamp) : Except SdkError Timestamp :=
  match arithmetic.add now delay with
  | none => .error (.value "delay cannot produce a finite future timestamp")
  | some result =>
    if 0 < delay ∧ result ≤ now then
      .error (.value "delay cannot produce a finite future timestamp")
    else .ok result

/-- What `_active` asks of the row. -/
def InboxRow.active (row : InboxRow) (lease : InboxLease) (now : Timestamp) : Except SdkError Unit :=
  if row.Matches lease ∧ row.state = .processing then
    match row.expiresAt with
    | none => .error (.type "'<=' not supported between instances of 'NoneType' and 'float'")
    | some expiry =>
      if expiry ≤ now then .error (.staleFence "notification inbox processing lease is stale")
      else .ok ()
  else .error (.staleFence "notification inbox processing lease is stale")

/-- `_active`. -/
def activeMessage (lease : InboxLease) (now : Timestamp) : InboxM Application InboxRow := do
  let row ← getMessage lease.key
  lift (row.active lease now)
  return row

/-- `_check_lease`, of a lease whose names are identifiers. -/
def checkLease (lease : InboxLease) : Except SdkError Unit :=
  if 1 ≤ lease.fence then .ok () else .error (.value "fence must be a positive integer")

/-! ### Receiving a message -/

/-- `payload.get("notification_id")` of a payload that is an object; `None` reads like a missing
entry. -/
def embeddedIdentity : Json → Option Json
  | .object fields =>
    match Json.get? fields "notification_id" with
    | some .null => none
    | found => found
  | _ => none

/-- Whether `"notification_id" in payload` and it is something else. -/
def contradicts (payload : Json) (name : Identifier) : Bool :=
  match payload with
  | .object fields =>
    match Json.get? fields "notification_id" with
    | some (.string text) => text ≠ name.text
    | some _ => true
    | none => false
  | _ => false

/-- The identity of a notification: the one passed, or else the one in its payload. -/
def resolveIdentity (payload : Json) : Option Identifier → Except SdkError Identifier
  | some name =>
    if contradicts payload name then
      .error (.value "notification_id differs from the payload's identity")
    else .ok name
  | none =>
    match embeddedIdentity payload with
    | some (.string text) =>
      match Identifier.ofText text with
      | some name => .ok name
      | none => .error (.value "notification_id must be a non-empty string")
    | _ => .error (.value "notification_id must be a non-empty string")

/-- The row of a message that has just been received. -/
def InboxRow.received (key : Identifier × Identifier) (payload : Json) (maxAttempts : ℕ)
    (now : Timestamp) : InboxRow :=
  { sourceId := key.1, notificationId := key.2, payload, state := .pending, attempts := 0
    maxAttempts, leaseId := none, owner := none, fence := 0, expiresAt := none
    nextAttemptAt := now, lastError := none, settlement := none, revision := 1
    createdAt := now, updatedAt := now }

/-- `accept`, inside its transaction. -/
def acceptBody (key : Identifier × Identifier) (payload : Json) (maxAttempts : ℕ) :
    InboxM Application InboxRecord := do
  let now ← StoreM.now
  let inbox ← StoreM.tables
  match inbox.messages.find? key with
  | some row =>
    require (row.payload.encode = payload.encode)
      (.commandConflict "source/notification identity already has different content")
    return row.record
  | none =>
    writeMessage (InboxRow.received key payload maxAttempts now)
    let row ← getMessage key
    return row.record

/-! ### Claiming -/

/-- The error recorded when a lease runs out. -/
def leaseExpired : Json :=
  .object [("type", .string "LeaseExpired"), ("message", .string "inbox processing lease expired")]

/-- Give a message whose lease has run out back, or bury it. -/
def InboxRow.reclaimed (row : InboxRow) (now : Timestamp) : InboxRow :=
  if row.state = .processing ∧ row.expiresAt.any fun expiry => expiry ≤ now then
    { row with
      state := if row.maxAttempts ≤ row.attempts then .dead else .pending
      expiresAt := none
      nextAttemptAt := now
      lastError := some leaseExpired
      settlement := none
      revision := row.revision + 1
      updatedAt := now }
  else row

theorem InboxRow.reclaimed_key (row : InboxRow) (now : Timestamp) :
    (row.reclaimed now).key = row.key := by
  unfold InboxRow.reclaimed
  split <;> rfl

/-- Give back or bury every message whose lease has run out. -/
def Inbox.reclaim (inbox : Inbox Application) (now : Timestamp) : Inbox Application :=
  { inbox with
    messages := inbox.messages.update (fun row => row.reclaimed now) fun row =>
      row.reclaimed_key now }

/-- `ORDER BY created_at,source_id,notification_id`. -/
def InboxRow.precedes (left right : InboxRow) : Prop :=
  left.createdAt < right.createdAt ∨
    (left.createdAt = right.createdAt ∧ (left.sourceId.text < right.sourceId.text ∨
      (left.sourceId.text = right.sourceId.text ∧
        left.notificationId.text ≤ right.notificationId.text)))

instance : DecidableRel InboxRow.precedes := fun left right => by
  unfold InboxRow.precedes
  infer_instance

/-- Whether a message waits to be processed. -/
def InboxRow.due (row : InboxRow) (now : Timestamp) (sourceId : Option Identifier) : Bool :=
  decide (row.state = .pending ∧ row.nextAttemptAt ≤ now) &&
    sourceId.all fun source => row.sourceId = source

/-- The first message that waits to be processed. -/
def Inbox.nextDue (inbox : Inbox Application) (now : Timestamp) (sourceId : Option Identifier) :
    Option InboxRow :=
  ((inbox.messages.rows.filter fun row => row.due now sourceId).insertionSort
    InboxRow.precedes).head?

/-- The row of a message under a new lease. -/
def InboxRow.leased (row : InboxRow) (leaseId owner : Identifier) (expiry now : Timestamp) :
    InboxRow :=
  { row with
    state := .processing
    attempts := row.attempts + 1
    fence := row.fence + 1
    leaseId := some leaseId
    owner := some owner
    expiresAt := some expiry
    settlement := none
    revision := row.revision + 1
    updatedAt := now }

/-- `claim`, inside its transaction. -/
def claimBody (owner : Identifier) (sourceId : Option Identifier) (duration : Timestamp) :
    InboxM Application (Option InboxLease) := do
  let now ← StoreM.now
  let environment ← ask
  let expiry ← lift (future environment.arithmetic now duration)
  StoreM.modify fun inbox => inbox.reclaim now
  let inbox ← StoreM.tables
  match inbox.nextDue now sourceId with
  | none => return none
  | some row =>
    let leaseId ← StoreM.uuid
    writeMessage (row.leased leaseId owner expiry now)
    return some
      { sourceId := row.sourceId, notificationId := row.notificationId, leaseId, owner
        fence := row.fence + 1, expiresAt := expiry, attempt := row.attempts + 1
        payload := row.payload }

/-! ### Settling -/

/-- What a mutation answers; to pass none leaves the application's tables alone. -/
def mutationOutcome (mutation : Option (Mutation Application)) (inbox : Inbox Application)
    (payload : Json) : Except SdkError Application :=
  match mutation with
  | none => .ok inbox.application
  | some mutation => mutation inbox payload

/-- Run the application's SQL on the payload of a message. -/
def runMutation (row : InboxRow) (mutation : Option (Mutation Application)) :
    InboxM Application Unit := do
  let inbox ← StoreM.tables
  let application ← lift (mutationOutcome mutation inbox row.payload)
  StoreM.modify fun inbox => inbox.mutate row application

def InboxRow.consume (row : InboxRow) (now : Timestamp) : InboxRow :=
  { row with
    state := .consumed
    expiresAt := none
    lastError := none
    settlement := some (Json.encode (.object [("kind", .string "consumed")]))
    revision := row.revision + 1
    updatedAt := now }

/-- `consume`, inside its transaction. -/
def consumeBody (lease : InboxLease) (mutation : Option (Mutation Application)) :
    InboxM Application InboxRecord := do
  let now ← StoreM.now
  let row ← getMessage lease.key
  if row.Matches lease ∧ row.state = .consumed then
    return row.record
  else
    let _ ← activeMessage lease now
    runMutation row mutation
    -- The callback may have taken long, so the clock is read again before the message is settled.
    let now ← StoreM.now
    let current ← activeMessage lease now
    writeMessage (current.consume now)
    let settled ← getMessage lease.key
    return settled.record

def failureReceipt (error : List (String × Json)) (delay : Timestamp) : Json.Text :=
  Json.encode (.object
    [("kind", .string "failed"), ("error", .object error), ("retry_delay", .ofTimestamp delay)])

/-- The row of a message whose processing has failed. -/
def InboxRow.failed (row : InboxRow) (error : List (String × Json)) (settlement : Json.Text)
    (nextAttemptAt now : Timestamp) : InboxRow :=
  { row with
    state := if row.maxAttempts ≤ row.attempts then .dead else .pending
    expiresAt := none
    nextAttemptAt
    lastError := some (.object error)
    settlement := some settlement
    revision := row.revision + 1
    updatedAt := now }

/-- `fail`, inside its transaction. -/
def failBody (lease : InboxLease) (error : List (String × Json)) (delay : Timestamp) :
    InboxM Application InboxRecord := do
  let now ← StoreM.now
  let row ← getMessage lease.key
  if row.Matches lease ∧ (row.state = .pending ∨ row.state = .dead) ∧ row.settlement.isSome then
    require (row.settlement = some (failureReceipt error delay))
      (.commandConflict "inbox lease already has a different failure receipt")
    return row.record
  else
    let current ← activeMessage lease now
    let environment ← ask
    let nextAttemptAt ← lift (future environment.arithmetic now delay)
    writeMessage (current.failed error (failureReceipt error delay) nextAttemptAt now)
    let settled ← getMessage lease.key
    return settled.record

/-- The row of a dead message that is given a new budget. -/
def InboxRow.revived (row : InboxRow) (now : Timestamp) : InboxRow :=
  { row with
    state := .pending
    attempts := 0
    leaseId := none
    owner := none
    expiresAt := none
    nextAttemptAt := now
    settlement := none
    revision := row.revision + 1
    updatedAt := now }

/-- `retry_dead`, inside its transaction. -/
def retryDeadBody (key : Identifier × Identifier) (expectedRevision : ℕ) :
    InboxM Application InboxRecord := do
  let now ← StoreM.now
  let row ← getMessage key
  require (row.revision = expectedRevision) (.staleFence "inbox retry revision is stale")
  require (row.state = .dead) (.value "only dead inbox messages can be retried")
  writeMessage (row.revived now)
  let revived ← getMessage key
  return revived.record

/-! ### The operations -/

section Operations

variable (environment : Environment) (store : Store (Inbox Application))

/-- Carry out an operation whose arguments have passed their checks. -/
def checkedTransaction {Answer Checked : Type} (checked : Except SdkError Checked)
    (body : Checked → InboxM Application Answer) :
    Except SdkError Answer × Store (Inbox Application) :=
  match checked with
  | .error failure => (.error failure, store)
  | .ok value => transaction (fun _ => body value) environment store

def accept (sourceId : Identifier) (payload : Json) (notificationId : Option Identifier)
    (maxAttempts : ℕ) : Except SdkError InboxRecord × Store (Inbox Application) :=
  checkedTransaction environment store
    (if 1 ≤ maxAttempts then resolveIdentity payload notificationId
      else .error (.value "max_attempts must be a positive integer"))
    fun name => acceptBody (sourceId, name) payload maxAttempts

def claim (owner : Identifier) (sourceId : Option Identifier) (leaseSeconds : Timestamp) :
    Except SdkError (Option InboxLease) × Store (Inbox Application) :=
  checkedTransaction environment store
    (if 0 < leaseSeconds then .ok leaseSeconds
      else .error (.value "lease_seconds must be finite and positive"))
    fun duration => claimBody owner sourceId duration

def consume (lease : InboxLease) (mutation : Option (Mutation Application)) :
    Except SdkError InboxRecord × Store (Inbox Application) :=
  checkedTransaction environment store (checkLease lease) fun _ => consumeBody lease mutation

def fail (lease : InboxLease) (error : List (String × Json)) (retryDelay : Timestamp) :
    Except SdkError InboxRecord × Store (Inbox Application) :=
  checkedTransaction environment store (checkLease lease) fun _ =>
    failBody lease error retryDelay

def retryDead (sourceId notificationId : Identifier) (expectedRevision : ℕ) :
    Except SdkError InboxRecord × Store (Inbox Application) :=
  checkedTransaction environment store
    (if 1 ≤ expectedRevision then .ok ()
      else .error (.value "expected_revision must be a positive integer"))
    fun _ => retryDeadBody (sourceId, notificationId) expectedRevision

end Operations

open List Option

/-! ### What an operation does -/

/-- The lease is the one the message is being processed under, and it has not run out. -/
def InboxRow.Live (row : InboxRow) (lease : InboxLease) (now : Timestamp) : Prop :=
  row.Matches lease ∧ row.state = .processing ∧ ∃ expiry, row.expiresAt = some expiry ∧ now < expiry

/-- A message is consumed under a lease that is live, together with the effects of a mutation. -/
structure Inbox.Consumes (lease : InboxLease) (mutation : Option (Mutation Application))
    (now : Timestamp) (before after : Inbox Application) : Prop where
  consumed : ∃ row application, before.messages.find? lease.key = some row ∧ row.Live lease now ∧
    mutationOutcome mutation before row.payload = .ok application ∧
    after = (before.mutate row application).write (row.consume now)

/-- Processing of a message fails under a lease that is live. -/
structure Inbox.Fails (lease : InboxLease) (error : List (String × Json)) (delay : Timestamp)
    (now : Timestamp) (before after : Inbox Application) : Prop where
  failed : ∃ row nextAttemptAt, before.messages.find? lease.key = some row ∧ row.Live lease now ∧
    after = before.write (row.failed error (failureReceipt error delay) nextAttemptAt now)

/-- A settlement is repeated under the lease that made it. -/
structure Inbox.Repeats (lease : InboxLease) (before after : Inbox Application) : Prop where
  same : after = before
  settled : ∃ row, before.messages.find? lease.key = some row ∧ row.Matches lease ∧
    (row.state = .consumed ∨ ((row.state = .pending ∨ row.state = .dead) ∧
      row.settlement.isSome))

/-- What one operation can do to the tables. -/
inductive Inbox.Moves (before : Inbox Application) : Inbox Application → Prop where
  | kept : Moves before before
  | received (key : Identifier × Identifier) (payload : Json) (maxAttempts : ℕ) (now : Timestamp)
    (positive : 1 ≤ maxAttempts) (fresh : before.messages.find? key = none) :
    Moves before (before.write (InboxRow.received key payload maxAttempts now))
  | reclaimed (now : Timestamp) : Moves before (before.reclaim now)
  | leased (now : Timestamp) (row : InboxRow) (leaseId owner : Identifier) (expiry : Timestamp)
    (member : row ∈ (before.reclaim now).messages) (pending : row.state = .pending) :
    Moves before ((before.reclaim now).write (row.leased leaseId owner expiry now))
  | consumed (lease : InboxLease) (mutation : Option (Mutation Application)) (now : Timestamp)
    (after : Inbox Application) (consumes : Inbox.Consumes lease mutation now before after) :
    Moves before after
  | failed (lease : InboxLease) (error : List (String × Json)) (delay now : Timestamp)
    (after : Inbox Application) (fails : Inbox.Fails lease error delay now before after) :
    Moves before after
  | revived (row : InboxRow) (now : Timestamp) (member : row ∈ before.messages)
    (dead : row.state = .dead) : Moves before (before.write (row.revived now))

section Bodies

variable {environment : Environment} {frame : Frame (Inbox Application)}

variable {key : Identifier × Identifier}

variable {condition : InboxRow → Frame (Inbox Application) → Prop}

theorem getMessage_ensures
    (holds : ∀ row, frame.tables.messages.find? key = some row → condition row frame) :
    Ensures (getMessage key) environment frame condition :=
  ensures_bind (ensures_tables (ensures_expect holds))

variable {row : InboxRow}

theorem writeMessage_ensures {condition : Unit → Frame (Inbox Application) → Prop}
    (holds : condition () { frame with tables := frame.tables.write row }) :
    Ensures (writeMessage row) environment frame condition :=
  ensures_modify holds

variable {lease : InboxLease}

variable {now : Timestamp}

theorem InboxRow.live_of_active (accepted : row.active lease now = .ok ()) :
    row.Live lease now := by
  unfold InboxRow.active at accepted
  split at accepted
  · rename_i both
    split at accepted
    · cases accepted
    · rename_i expiry expires
      split at accepted
      · cases accepted
      · rename_i later
        exact ⟨both.1, both.2, expiry, expires, not_le.mp later⟩
  · cases accepted

theorem activeMessage_ensures
    (holds : ∀ row, frame.tables.messages.find? lease.key = some row → row.Live lease now →
      condition row frame) :
    Ensures (activeMessage lease now) environment frame condition := by
  refine ensures_bind (getMessage_ensures fun row found => ?_)
  refine then_lift fun _ accepted => ensures_pure ?_
  exact holds row found (InboxRow.live_of_active accepted)

variable {mutation : Option (Mutation Application)}

theorem runMutation_ensures {condition : Unit → Frame (Inbox Application) → Prop}
    (holds : ∀ application, mutationOutcome mutation frame.tables row.payload = .ok application →
      condition () { frame with tables := frame.tables.mutate row application }) :
    Ensures (runMutation row mutation) environment frame condition := by
  refine ensures_bind (ensures_tables ?_)
  refine then_lift fun application answered => ensures_modify ?_
  exact holds application answered

theorem acceptBody_ensures {payload : Json} {maxAttempts : ℕ} (positive : 1 ≤ maxAttempts) :
    Ensures (acceptBody key payload maxAttempts) environment frame fun _ next =>
      Inbox.Moves frame.tables next.tables := by
  refine ensures_bind (ensures_now fun now _ => ?_)
  refine ensures_bind (ensures_tables ?_)
  cases found : frame.tables.messages.find? key with
  | some row =>
    dsimp only
    exact then_require fun _ => ensures_pure .kept
  | none =>
    dsimp only
    refine ensures_bind (writeMessage_ensures ?_)
    refine ensures_bind (getMessage_ensures fun row _ => ensures_pure ?_)
    exact .received key payload maxAttempts now positive found

variable {sourceId : Option Identifier}

theorem Inbox.nextDue_pending {inbox : Inbox Application}
    (found : inbox.nextDue now sourceId = some row) :
    row ∈ inbox.messages ∧ row.state = .pending := by
  have sorted := mem_of_mem_head? found
  rw [mem_insertionSort, mem_filter] at sorted
  obtain ⟨member, due⟩ := sorted
  unfold InboxRow.due at due
  simp only [Bool.and_eq_true, decide_eq_true_eq] at due
  exact ⟨member, due.1.1⟩

theorem claimBody_ensures {owner : Identifier} {duration : Timestamp} :
    Ensures (claimBody owner sourceId duration) environment frame fun _ next =>
      Inbox.Moves frame.tables next.tables := by
  refine ensures_bind (ensures_now fun now _ => ?_)
  refine ensures_bind (ensures_ask ?_)
  refine then_lift fun expiry _ => ?_
  refine ensures_bind (ensures_modify ?_)
  refine ensures_bind (ensures_tables ?_)
  dsimp only
  cases due : (frame.tables.reclaim now).nextDue now sourceId with
  | none => exact ensures_pure (.reclaimed now)
  | some row =>
    obtain ⟨member, pending⟩ := Inbox.nextDue_pending due
    refine ensures_bind (ensures_uuid fun leaseId => ?_)
    refine ensures_bind (writeMessage_ensures (ensures_pure ?_))
    exact .leased now row leaseId owner expiry member pending

theorem consumeBody_ensures :
    Ensures (consumeBody lease mutation) environment frame fun _ next =>
      Inbox.Repeats lease frame.tables next.tables ∨
        Inbox.Consumes lease mutation next.watermark frame.tables next.tables := by
  refine ensures_bind (ensures_now fun first _ => ?_)
  refine ensures_bind (getMessage_ensures fun row found => ?_)
  refine ensures_ite (fun both => ensures_pure ?_) fun _ => ?_
  · exact .inl ⟨rfl, row, found, both.1, Or.inl both.2⟩
  · refine ensures_bind (activeMessage_ensures fun _ _ _ => ?_)
    refine ensures_bind (runMutation_ensures fun application answered => ?_)
    refine ensures_bind (ensures_now fun now _ => ?_)
    refine ensures_bind (activeMessage_ensures fun current found' live => ?_)
    have same : current = row := Option.some.inj (found'.symm.trans found)
    subst same
    refine ensures_bind (writeMessage_ensures ?_)
    refine ensures_bind (getMessage_ensures fun _ _ => ensures_pure (.inr ?_))
    exact ⟨current, application, found, live, answered, rfl⟩

theorem failBody_ensures {error : List (String × Json)} {delay : Timestamp} :
    Ensures (failBody lease error delay) environment frame fun _ next =>
      Inbox.Repeats lease frame.tables next.tables ∨
        Inbox.Fails lease error delay next.watermark frame.tables next.tables := by
  refine ensures_bind (ensures_now fun now _ => ?_)
  refine ensures_bind (getMessage_ensures fun row found => ?_)
  refine ensures_ite (fun repeated => ?_) fun _ => ?_
  · refine then_require fun _ => ensures_pure (.inl ?_)
    exact ⟨rfl, row, found, repeated.1, Or.inr repeated.2⟩
  · refine ensures_bind (activeMessage_ensures fun current found' live => ?_)
    refine ensures_bind (ensures_ask ?_)
    refine then_lift fun nextAttemptAt _ => ?_
    refine ensures_bind (writeMessage_ensures ?_)
    refine ensures_bind (getMessage_ensures fun _ _ => ensures_pure (.inr ?_))
    exact ⟨current, nextAttemptAt, found', live, rfl⟩

theorem retryDeadBody_ensures {expectedRevision : ℕ} :
    Ensures (retryDeadBody key expectedRevision) environment frame fun _ next =>
      Inbox.Moves frame.tables next.tables := by
  refine ensures_bind (ensures_now fun now _ => ?_)
  refine ensures_bind (getMessage_ensures fun row found => ?_)
  refine then_require fun _ => ?_
  refine then_require fun dead => ?_
  refine ensures_bind (writeMessage_ensures ?_)
  refine ensures_bind (getMessage_ensures fun _ _ => ensures_pure ?_)
  exact .revived row now (Table.mem_of_find? found) dead

end Bodies

variable {lease : InboxLease} {store : Store (Inbox Application)} {environment : Environment}
  {record : InboxRecord}

theorem Inbox.Repeats.moves {before after : Inbox Application}
    (repeats : Inbox.Repeats lease before after) : Inbox.Moves before after :=
  repeats.same ▸ .kept

/-! ### The inbox as a system -/

inductive InboxCall (Application : Type) where
  | accept (sourceId : Identifier) (payload : Json) (notificationId : Option Identifier)
    (maxAttempts : ℕ)
  | claim (owner : Identifier) (sourceId : Option Identifier) (leaseSeconds : Timestamp)
  | consume (lease : InboxLease) (mutation : Option (Mutation Application))
  | fail (lease : InboxLease) (error : List (String × Json)) (retryDelay : Timestamp)
  | retryDead (sourceId notificationId : Identifier) (expectedRevision : ℕ)

def InboxCall.apply (environment : Environment) (store : Store (Inbox Application)) :
    InboxCall Application → Store (Inbox Application)
  | .accept sourceId payload notificationId maxAttempts =>
    (Orchestrator.accept environment store sourceId payload notificationId maxAttempts).2
  | .claim owner sourceId leaseSeconds =>
    (Orchestrator.claim environment store owner sourceId leaseSeconds).2
  | .consume lease mutation => (Orchestrator.consume environment store lease mutation).2
  | .fail lease error retryDelay =>
    (Orchestrator.fail environment store lease error retryDelay).2
  | .retryDead sourceId notificationId expectedRevision =>
    (Orchestrator.retryDead environment store sourceId notificationId expectedRevision).2

/-- A new inbox beside an application, and every sequence of calls on it by any number of
workers. -/
def inbox (Application : Type) : TransitionSystem (Store (Inbox Application)) where
  initial store := store.tables.messages = ∅ ∧ store.tables.effects = [] ∧ store.watermark = 0
  step store next := ∃ call environment, next = InboxCall.apply environment store call

section Calls

theorem checkedTransaction_transacts {Answer Checked : Type} {checked : Except SdkError Checked}
    {body : Checked → InboxM Application Answer}
    {condition : Answer → Frame (Inbox Application) → Prop}
    (ensures : ∀ value, checked = .ok value → ∀ observed, store.watermark ≤ observed →
      Ensures (body value) environment ⟨store.tables, observed, 1⟩ condition) :
    Transacts store condition (checkedTransaction environment store checked body) := by
  unfold checkedTransaction
  cases checked with
  | error failure => exact ⟨le_refl _, Or.inl ⟨⟨failure, rfl⟩, rfl⟩⟩
  | ok value => exact transaction_transacts (ensures value rfl)

theorem accept_transacts (sourceId : Identifier) (payload : Json)
    (notificationId : Option Identifier) (maxAttempts : ℕ) :
    Transacts store (fun _ next => Inbox.Moves store.tables next.tables)
      (accept environment store sourceId payload notificationId maxAttempts) := by
  refine checkedTransaction_transacts fun name checked observed _ => ?_
  split at checked
  · exact acceptBody_ensures ‹_›
  · cases checked

theorem claim_transacts (owner : Identifier) (sourceId : Option Identifier)
    (leaseSeconds : Timestamp) :
    Transacts store (fun _ next => Inbox.Moves store.tables next.tables)
      (claim environment store owner sourceId leaseSeconds) :=
  checkedTransaction_transacts fun _ _ _ _ => claimBody_ensures

theorem consume_transacts (lease : InboxLease) (mutation : Option (Mutation Application)) :
    Transacts store (fun _ next => Inbox.Repeats lease store.tables next.tables ∨
        Inbox.Consumes lease mutation next.watermark store.tables next.tables)
      (consume environment store lease mutation) :=
  checkedTransaction_transacts fun _ _ _ _ => consumeBody_ensures

theorem fail_transacts (lease : InboxLease) (error : List (String × Json)) (delay : Timestamp) :
    Transacts store (fun _ next => Inbox.Repeats lease store.tables next.tables ∨
        Inbox.Fails lease error delay next.watermark store.tables next.tables)
      (fail environment store lease error delay) :=
  checkedTransaction_transacts fun _ _ _ _ => failBody_ensures

theorem retryDead_transacts (sourceId notificationId : Identifier) (expectedRevision : ℕ) :
    Transacts store (fun _ next => Inbox.Moves store.tables next.tables)
      (retryDead environment store sourceId notificationId expectedRevision) :=
  checkedTransaction_transacts fun _ _ _ _ => retryDeadBody_ensures

end Calls

/-! ### One step -/

section Step

variable {before after : Inbox Application}

/-- Whether a message is stored as consumed. -/
def Inbox.Consumed (inbox : Inbox Application) (key : Identifier × Identifier) : Prop :=
  ∃ row, inbox.messages.find? key = some row ∧ row.state = .consumed

/-- A stored message stays, its fence does not go back, its lease is never extended, and once
consumed it does not change. -/
structure InboxRow.Follows (row next : InboxRow) : Prop where
  payload : next.payload = row.payload
  fence : row.fence ≤ next.fence
  expires : row.fence < next.fence ∨ next.expiresAt = row.expiresAt ∨ next.expiresAt = none
  absorbing : row.state = .consumed → next = row

theorem InboxRow.Follows.refl (row : InboxRow) : row.Follows row :=
  ⟨rfl, le_refl _, Or.inr (.inl rfl), fun _ => rfl⟩

theorem InboxRow.Follows.trans {first second third : InboxRow} (left : first.Follows second)
    (right : second.Follows third) : first.Follows third where
  payload := right.payload.trans left.payload
  fence := left.fence.trans right.fence
  expires := by
    rcases left.expires with later | same | ended
    · exact .inl (later.trans_le right.fence)
    · rw [← same]
      exact right.expires.imp_left left.fence.trans_lt
    · rcases right.expires with later | same | ended'
      · exact .inl (left.fence.trans_lt later)
      · exact .inr (.inr (same.trans ended))
      · exact .inr (.inr ended')
  absorbing := by
    intro consumed
    have same := left.absorbing consumed
    subst same
    exact right.absorbing consumed

/-- Every message of one inbox is still there in another. -/
def Inbox.Retains (before after : Inbox Application) : Prop :=
  ∀ key row, before.messages.find? key = some row →
    ∃ next, after.messages.find? key = some next ∧ row.Follows next

theorem Inbox.Retains.refl (inbox : Inbox Application) : inbox.Retains inbox :=
  fun _ row found => ⟨row, found, .refl row⟩

variable {first second third : Inbox Application}

theorem Inbox.Retains.trans
    (left : first.Retains second) (right : second.Retains third) : first.Retains third := by
  intro key row found
  obtain ⟨middle, foundMiddle, follows⟩ := left key row found
  obtain ⟨last, foundLast, followsLast⟩ := right key middle foundMiddle
  exact ⟨last, foundLast, follows.trans followsLast⟩

theorem Inbox.find?_write (inbox : Inbox Application) (row : InboxRow)
    (key : Identifier × Identifier) :
    (inbox.write row).messages.find? key =
      if key = row.key then some row else inbox.messages.find? key :=
  Table.find?_put inbox.messages row key

theorem Inbox.find?_reclaim (inbox : Inbox Application) (now : Timestamp)
    (key : Identifier × Identifier) :
    (inbox.reclaim now).messages.find? key =
      (inbox.messages.find? key).map fun row => row.reclaimed now :=
  Table.find?_update inbox.messages _ (fun row => row.reclaimed_key now) key

variable {inbox : Inbox Application}

theorem Inbox.retains_write {row : InboxRow}
    (replaced : ∀ old, inbox.messages.find? row.key = some old → old.Follows row) :
    inbox.Retains (inbox.write row) := by
  intro key old found
  rw [Inbox.find?_write]
  by_cases same : key = row.key
  · rw [if_pos same]
    exact ⟨row, rfl, replaced old (same ▸ found)⟩
  · rw [if_neg same]
    exact ⟨old, found, .refl old⟩

theorem InboxRow.reclaimed_cases (row : InboxRow) (now : Timestamp) :
    row.reclaimed now = row ∨ (row.state = .processing ∧ (row.reclaimed now).state ≠ .consumed) := by
  unfold InboxRow.reclaimed
  split
  · rename_i expired
    refine Or.inr ⟨expired.1, ?_⟩
    dsimp only
    split <;> exact fun equal => nomatch equal
  · exact .inl rfl

theorem InboxRow.reclaimed_follows (row : InboxRow) (now : Timestamp) :
    row.Follows (row.reclaimed now) := by
  refine ⟨?_, ?_, ?_, ?_⟩
  · unfold InboxRow.reclaimed
    split <;> rfl
  · unfold InboxRow.reclaimed
    split <;> exact le_refl _
  · unfold InboxRow.reclaimed
    split
    · exact .inr (.inr rfl)
    · exact .inr (.inl rfl)
  · intro consumed
    rcases row.reclaimed_cases now with same | ⟨processing, -⟩
    · exact same
    · rw [consumed] at processing
      cases processing

theorem Inbox.retains_reclaim (inbox : Inbox Application) (now : Timestamp) :
    inbox.Retains (inbox.reclaim now) := by
  intro key row found
  rw [Inbox.find?_reclaim, found]
  exact ⟨row.reclaimed now, rfl, row.reclaimed_follows now⟩

theorem Inbox.old_eq {row old : InboxRow} (member : row ∈ inbox.messages)
    (found : inbox.messages.find? row.key = some old) : old = row :=
  Option.some.inj (found.symm.trans (Table.find?_key member))

theorem Inbox.Moves.retains (moves : Inbox.Moves before after) : before.Retains after := by
  cases moves with
  | kept => exact .refl before
  | received key payload maxAttempts now positive fresh =>
    refine Inbox.retains_write fun old found => ?_
    rw [show (InboxRow.received key payload maxAttempts now).key = key from rfl, fresh] at found
    cases found
  | reclaimed now => exact before.retains_reclaim now
  | leased now row leaseId owner expiry member pending =>
    refine (before.retains_reclaim now).trans (Inbox.retains_write fun old found => ?_)
    have same := Inbox.old_eq member found
    subst same
    refine ⟨rfl, Nat.le_succ _, Or.inl (Nat.lt_succ_self _), fun consumed => ?_⟩
    rw [pending] at consumed
    cases consumed
  | consumed lease mutation now after consumes =>
    obtain ⟨row, application, found, live, -, rfl⟩ := consumes
    refine @Inbox.retains_write _ (before.mutate row application) _ fun old found' => ?_
    have same := @Inbox.old_eq _ before _ _ (Table.mem_of_find? found) found'
    subst same
    refine ⟨rfl, le_refl _, Or.inr (.inr rfl), fun consumed => ?_⟩
    rw [live.2.1] at consumed
    cases consumed
  | failed lease error delay now after fails =>
    obtain ⟨row, nextAttemptAt, found, live, rfl⟩ := fails
    refine Inbox.retains_write fun old found' => ?_
    have same := Inbox.old_eq (Table.mem_of_find? found) found'
    subst same
    refine ⟨rfl, le_refl _, Or.inr (.inr rfl), fun consumed => ?_⟩
    rw [live.2.1] at consumed
    cases consumed
  | revived row now member dead =>
    refine Inbox.retains_write fun old found => ?_
    have same := Inbox.old_eq member found
    subst same
    refine ⟨rfl, le_refl _, Or.inr (.inr rfl), fun consumed => ?_⟩
    rw [dead] at consumed
    cases consumed

/-! ### The effects of mutations -/

/-- The effects take the application's tables from one state to another, one after the other. -/
def Chained : Application → List (Effect Application) → Application → Prop
  | first, [], last => first = last
  | first, effect :: rest, last => effect.before = first ∧ Chained effect.after rest last

theorem Chained.append {first middle last : Application} {left right : List (Effect Application)}
    (begins : Chained first left middle) (ends : Chained middle right last) :
    Chained first (left ++ right) last := by
  induction left generalizing first with
  | nil =>
    cases begins
    exact ends
  | cons effect rest hypothesis =>
    exact ⟨begins.1, hypothesis begins.2⟩

/-- The application's tables change by the effects that are added to the ledger and by nothing
else. -/
def Inbox.Affects (before after : Inbox Application) : Prop :=
  ∃ added, after.effects = before.effects ++ added ∧
    Chained before.application added after.application

theorem Inbox.Affects.refl (inbox : Inbox Application) : inbox.Affects inbox :=
  ⟨[], (append_nil _).symm, rfl⟩

theorem Inbox.Affects.trans
    (left : first.Affects second) (right : second.Affects third) : first.Affects third := by
  obtain ⟨added, effects, chained⟩ := left
  obtain ⟨more, effectsMore, chainedMore⟩ := right
  refine ⟨added ++ more, ?_, chained.append chainedMore⟩
  rw [effectsMore, effects, append_assoc]

theorem Inbox.Moves.affects (moves : Inbox.Moves before after) : before.Affects after := by
  cases moves with
  | kept => exact .refl before
  | received => exact .refl before
  | reclaimed => exact .refl before
  | leased => exact .refl before
  | consumed lease mutation now after consumes =>
    obtain ⟨row, application, -, -, -, rfl⟩ := consumes
    exact ⟨[⟨row.key, row.payload, before.application, application⟩], rfl, rfl, rfl⟩
  | failed lease error delay now after fails =>
    obtain ⟨row, nextAttemptAt, -, -, rfl⟩ := fails
    exact .refl before
  | revived => exact .refl before

theorem Inbox.Moves.application (moves : Inbox.Moves before after) :
    (after.application = before.application ∧ after.effects = before.effects) ∨
      ∃ lease mutation now, Inbox.Consumes lease mutation now before after := by
  cases moves with
  | consumed lease mutation now _ consumes => exact .inr ⟨lease, mutation, now, consumes⟩
  | failed lease error delay now _ fails =>
    obtain ⟨row, nextAttemptAt, -, -, rfl⟩ := fails
    exact .inl ⟨rfl, rfl⟩
  | kept => exact .inl ⟨rfl, rfl⟩
  | received => exact .inl ⟨rfl, rfl⟩
  | reclaimed => exact .inl ⟨rfl, rfl⟩
  | leased => exact .inl ⟨rfl, rfl⟩
  | revived => exact .inl ⟨rfl, rfl⟩

/-! ### The invariant -/

structure InboxRow.Sound (row : InboxRow) : Prop where
  budget : row.attempts ≤ row.maxAttempts
  unspent : row.state = .pending → row.attempts < row.maxAttempts
  positive : 1 ≤ row.maxAttempts
  expires : row.state = .processing → row.expiresAt.isSome

/-- Every message is sound, and the ledger holds the effects of exactly the consumed messages, each
once. -/
structure Inbox.Sound (inbox : Inbox Application) : Prop where
  rows : ∀ key row, inbox.messages.find? key = some row → row.Sound
  once : (inbox.effects.map Effect.message).Nodup
  settled : ∀ key, key ∈ inbox.effects.map Effect.message ↔ inbox.Consumed key

variable {row : InboxRow}

theorem InboxRow.sound_reclaimed (sound : row.Sound) (now : Timestamp) :
    (row.reclaimed now).Sound := by
  unfold InboxRow.reclaimed
  split
  · refine ⟨sound.budget, fun pending => ?_, sound.positive, fun processing => ?_⟩
    · dsimp only at pending ⊢
      split at pending
      · cases pending
      · omega
    · dsimp only at processing
      split at processing <;> cases processing
  · exact sound

theorem Inbox.consumed_write (inbox : Inbox Application) (row : InboxRow)
    (key : Identifier × Identifier) :
    (inbox.write row).Consumed key ↔
      if key = row.key then row.state = .consumed else inbox.Consumed key := by
  unfold Inbox.Consumed
  rw [Inbox.find?_write]
  by_cases same : key = row.key
  · simp [same]
  · simp [same]

theorem Inbox.consumed_reclaim (inbox : Inbox Application) (now : Timestamp)
    (key : Identifier × Identifier) : (inbox.reclaim now).Consumed key ↔ inbox.Consumed key := by
  unfold Inbox.Consumed
  rw [Inbox.find?_reclaim]
  constructor
  · rintro ⟨row, found, consumed⟩
    obtain ⟨old, foundOld, rfl⟩ := map_eq_some_iff.mp found
    rcases old.reclaimed_cases now with same | ⟨-, open'⟩
    · exact ⟨old, foundOld, same ▸ consumed⟩
    · exact absurd consumed open'
  · rintro ⟨row, found, consumed⟩
    refine ⟨row.reclaimed now, by rw [found]; rfl, ?_⟩
    rw [(row.reclaimed_follows now).absorbing consumed]
    exact consumed

theorem Inbox.sound_reclaim (sound : inbox.Sound) (now : Timestamp) :
    (inbox.reclaim now).Sound where
  rows := by
    intro key row found
    rw [Inbox.find?_reclaim] at found
    obtain ⟨old, foundOld, rfl⟩ := map_eq_some_iff.mp found
    exact InboxRow.sound_reclaimed (sound.rows key old foundOld) now
  once := sound.once
  settled key := (sound.settled key).trans (inbox.consumed_reclaim now key).symm

theorem Inbox.rows_write
    (rows : ∀ key row, inbox.messages.find? key = some row → row.Sound) (sound : row.Sound) :
    ∀ key next, (inbox.write row).messages.find? key = some next → next.Sound := by
  intro key next found
  rw [Inbox.find?_write] at found
  by_cases same : key = row.key
  · rw [if_pos same] at found
    cases found
    exact sound
  · rw [if_neg same] at found
    exact rows key next found

theorem Inbox.sound_write (sound : inbox.Sound) (rowSound : row.Sound)
    (open' : row.state ≠ .consumed)
    (replaced : ∀ old, inbox.messages.find? row.key = some old → old.state ≠ .consumed) :
    (inbox.write row).Sound where
  rows := Inbox.rows_write sound.rows rowSound
  once := sound.once
  settled key := by
    rw [Inbox.consumed_write]
    refine (sound.settled key).trans ?_
    by_cases same : key = row.key
    · rw [if_pos same]
      refine ⟨?_, fun consumed => absurd consumed open'⟩
      rintro ⟨old, found, consumed⟩
      exact absurd consumed (replaced old (same ▸ found))
    · rw [if_neg same]

theorem Inbox.sound_consume (sound : inbox.Sound) {application : Application} {now : Timestamp}
    (member : row ∈ inbox.messages) (processing : row.state = .processing) :
    ((inbox.mutate row application).write (row.consume now)).Sound := by
  have rowSound : row.Sound := sound.rows row.key row (Table.find?_key member)
  have absent : row.key ∉ inbox.effects.map Effect.message := by
    intro listed
    obtain ⟨old, found, consumed⟩ := (sound.settled row.key).mp listed
    rw [Inbox.old_eq member found, processing] at consumed
    cases consumed
  have ledger : ((inbox.mutate row application).write (row.consume now)).effects.map
      Effect.message = inbox.effects.map Effect.message ++ [row.key] := map_append
  refine ⟨?_, ?_, fun key => ?_⟩
  · refine @Inbox.rows_write _ (inbox.mutate row application) _ sound.rows ?_
    exact ⟨rowSound.budget, (fun pending => nomatch pending), rowSound.positive,
      fun still => nomatch still⟩
  · rw [ledger]
    exact nodup_append.mpr ⟨sound.once, nodup_singleton _, fun key listed other last =>
      fun same => absent (mem_singleton.mp last ▸ same ▸ listed)⟩
  · rw [ledger, mem_append, mem_singleton, Inbox.consumed_write]
    change _ ↔ if key = row.key then _ else _
    by_cases same : key = row.key
    · rw [if_pos same]
      exact ⟨fun _ => rfl, fun _ => Or.inr same⟩
    · rw [if_neg same]
      exact ⟨fun listed => (sound.settled key).mp (listed.resolve_right same),
        fun consumed => Or.inl ((sound.settled key).mpr consumed)⟩

theorem Inbox.Moves.sound (moves : Inbox.Moves before after) (sound : before.Sound) :
    after.Sound := by
  cases moves with
  | kept => exact sound
  | received key payload maxAttempts now positive fresh =>
    refine Inbox.sound_write sound ?_ (fun equal => nomatch equal) fun old found => ?_
    · exact ⟨Nat.zero_le _, fun _ => positive, positive, fun processing => nomatch processing⟩
    · rw [show (InboxRow.received key payload maxAttempts now).key = key from rfl, fresh] at found
      cases found
  | reclaimed now => exact Inbox.sound_reclaim sound now
  | leased now row leaseId owner expiry member pending =>
    have kept := Inbox.sound_reclaim sound now
    have rowSound : row.Sound := kept.rows row.key row (Table.find?_key member)
    refine Inbox.sound_write kept ?_ (fun equal => nomatch equal) fun old found => ?_
    · exact ⟨rowSound.unspent pending, (fun still => nomatch still), rowSound.positive,
        fun _ => rfl⟩
    · rw [Inbox.old_eq member found, pending]
      exact fun equal => nomatch equal
  | consumed lease mutation now after consumes =>
    obtain ⟨row, application, found, live, -, rfl⟩ := consumes
    exact Inbox.sound_consume sound (Table.mem_of_find? found) live.2.1
  | failed lease error delay now after fails =>
    obtain ⟨row, nextAttemptAt, found, live, rfl⟩ := fails
    have rowSound : row.Sound := sound.rows _ row found
    refine Inbox.sound_write sound ⟨rowSound.budget, fun pending => ?_, rowSound.positive,
      fun processing => ?_⟩ ?_ fun old found' => ?_
    · unfold InboxRow.failed at pending ⊢
      dsimp only at pending ⊢
      split at pending
      · cases pending
      · omega
    · unfold InboxRow.failed at processing
      dsimp only at processing
      split at processing <;> cases processing
    · unfold InboxRow.failed
      dsimp only
      split <;> exact fun equal => nomatch equal
    · rw [Inbox.old_eq (Table.mem_of_find? found) found', live.2.1]
      exact fun equal => nomatch equal
  | revived row now member dead =>
    have rowSound : row.Sound := sound.rows row.key row (Table.find?_key member)
    refine Inbox.sound_write sound ⟨Nat.zero_le _, fun _ => rowSound.positive,
      rowSound.positive, fun processing => nomatch processing⟩ (fun equal => nomatch equal)
      fun old found => ?_
    rw [Inbox.old_eq member found, dead]
    exact fun equal => nomatch equal

end Step
/-! ### Whole runs -/

theorem Transacts.moves {Answer : Type} {condition : Answer → Frame (Inbox Application) → Prop}
    {result : Except SdkError Answer × Store (Inbox Application)}
    (transacts : Transacts store condition result)
    (moved : ∀ answer next, condition answer next → Inbox.Moves store.tables next.tables) :
    Inbox.Moves store.tables result.2.tables := by
  obtain ⟨-, same⟩ | ⟨answer, next, done, reached, -⟩ := transacts.outcome
  · rw [same]
    exact .kept
  · rw [reached]
    exact moved answer next done

theorem InboxCall.apply_moves (call : InboxCall Application) (environment : Environment)
    (store : Store (Inbox Application)) :
    Inbox.Moves store.tables (call.apply environment store).tables := by
  cases call with
  | accept sourceId payload notificationId maxAttempts =>
    exact (accept_transacts sourceId payload notificationId maxAttempts).moves fun _ _ move => move
  | claim owner sourceId leaseSeconds =>
    exact (claim_transacts owner sourceId leaseSeconds).moves fun _ _ move => move
  | consume lease mutation =>
    refine (consume_transacts lease mutation).moves fun _ next done => ?_
    exact done.elim (·.moves) fun consumes => .consumed lease mutation next.watermark _ consumes
  | fail lease error retryDelay =>
    refine (fail_transacts lease error retryDelay).moves fun _ next done => ?_
    exact done.elim (·.moves) fun fails => .failed lease error retryDelay next.watermark _ fails
  | retryDead sourceId notificationId expectedRevision =>
    exact (retryDead_transacts sourceId notificationId expectedRevision).moves fun _ _ move => move

theorem inbox_step {next : Store (Inbox Application)}
    (step : (inbox Application).step store next) : Inbox.Moves store.tables next.tables := by
  obtain ⟨call, environment, rfl⟩ := step
  exact call.apply_moves environment store

section

variable (reachable : (inbox Application).Reachable store)

include reachable

theorem inbox_sound : store.tables.Sound := by
  refine reachable.invariant (fun store => store.tables.Sound) ?_ ?_
  · rintro first ⟨messages, effects, -⟩
    have missing : ∀ key, first.tables.messages.find? key = none := by
      intro key
      rw [messages, Table.find?_empty]
    refine ⟨fun key row found => ?_, ?_, fun key => ?_⟩
    · rw [missing] at found
      cases found
    · rw [effects]
      exact nodup_nil
    · rw [effects]
      refine ⟨fun listed => absurd listed not_mem_nil, ?_⟩
      rintro ⟨row, found, -⟩
      rw [missing] at found
      cases found
  · exact fun _ _ _ sound step => (inbox_step step).sound sound

section

variable {last : Store (Inbox Application)} (run : (inbox Application).Run store last)

include run

theorem inbox_retains : store.tables.Retains last.tables :=
  reachable.respects (fun store last => store.tables.Retains last.tables)
    (fun store => .refl store.tables) (fun left right => left.trans right)
    (fun _ _ _ step => (inbox_step step).retains) run

theorem inbox_affects : store.tables.Affects last.tables :=
  reachable.respects (fun store last => store.tables.Affects last.tables)
    (fun store => .refl store.tables) (fun left right => left.trans right)
    (fun _ _ _ step => (inbox_step step).affects) run

end

end

/-! ### Settling a message -/

/-- A call that settles a message under a lease. -/
inductive InboxCall.Settles (lease : InboxLease) (environment : Environment)
    (store : Store (Inbox Application)) : Prop where
  | consume (mutation : Option (Mutation Application)) (record : InboxRecord)
    (answered : (Orchestrator.consume environment store lease mutation).1 = .ok record)
  | fail (error : List (String × Json)) (retryDelay : Timestamp) (record : InboxRecord)
    (answered : (Orchestrator.fail environment store lease error retryDelay).1 = .ok record)

theorem Transacts.answers {Tables Answer : Type} {store : Store Tables}
    {condition : Answer → Frame Tables → Prop} {result : Except SdkError Answer × Store Tables}
    (transacts : Transacts store condition result) {answer : Answer}
    (answered : result.1 = .ok answer) :
    ∃ answer next, condition answer next ∧ result.2 = ⟨next.tables, next.watermark⟩ := by
  obtain ⟨⟨failure, failed⟩, -⟩ | ⟨answer, next, done, reached, -⟩ := transacts.outcome
  · rw [failed] at answered
    cases answered
  · exact ⟨answer, next, done, reached⟩

theorem consume_answers {mutation : Option (Mutation Application)}
    (answered : (consume environment store lease mutation).1 = .ok record) :
    Inbox.Repeats lease store.tables (consume environment store lease mutation).2.tables ∨
      Inbox.Consumes lease mutation (consume environment store lease mutation).2.watermark
        store.tables (consume environment store lease mutation).2.tables := by
  obtain ⟨_, next, done, reached⟩ := (consume_transacts lease mutation).answers answered
  rw [reached]
  exact done

theorem fail_answers {error : List (String × Json)} {delay : Timestamp}
    (answered : (fail environment store lease error delay).1 = .ok record) :
    Inbox.Repeats lease store.tables (fail environment store lease error delay).2.tables ∨
      Inbox.Fails lease error delay (fail environment store lease error delay).2.watermark
        store.tables (fail environment store lease error delay).2.tables := by
  obtain ⟨_, next, done, reached⟩ := (fail_transacts lease error delay).answers answered
  rw [reached]
  exact done

section

variable (settles : InboxCall.Settles lease environment store)

include settles

theorem InboxCall.Settles.matches :
    ∃ row, store.tables.messages.find? lease.key = some row ∧ row.Matches lease := by
  cases settles with
  | consume mutation record answered =>
    obtain ⟨-, row, found, matched, -⟩ | ⟨row, _, found, live, -⟩ := consume_answers answered
    · exact ⟨row, found, matched⟩
    · exact ⟨row, found, live.1⟩
  | fail error retryDelay record answered =>
    obtain ⟨-, row, found, matched, -⟩ | ⟨row, _, found, live, -⟩ := fail_answers answered
    · exact ⟨row, found, matched⟩
    · exact ⟨row, found, live.1⟩

theorem InboxCall.Settles.unique {other : InboxLease} {surroundings : Environment}
    (settlesOther : InboxCall.Settles other surroundings store) (same : lease.key = other.key) :
    lease.leaseId = other.leaseId ∧ lease.owner = other.owner ∧ lease.fence = other.fence := by
  obtain ⟨row, found, matched⟩ := settles.matches
  obtain ⟨stored, foundOther, matchedOther⟩ := settlesOther.matches
  rw [← same, found] at foundOther
  cases foundOther
  have both := matched.symm.trans matchedOther
  simp only [Prod.mk.injEq, Option.some.injEq] at both
  exact both

end

/-! ### Exactly once -/

/-- In every state that a run of the inbox reaches, the application's tables have changed by the
effects of the consumed messages, each committed once, and by nothing else; no message is lost, none
is tried beyond its budget, and whoever settles one holds its current lease or repeats a settlement.
-/
theorem notifications_consumed_once {first store : Store (Inbox Application)}
    (initial : (inbox Application).initial first) (run : (inbox Application).Run first store) :
    (Chained first.tables.application store.tables.effects store.tables.application ∧
      (store.tables.effects.map Effect.message).Nodup ∧
      ∀ key, key ∈ store.tables.effects.map Effect.message ↔ store.tables.Consumed key) ∧
    (∀ next, (inbox Application).step store next →
      (next.tables.application = store.tables.application ∧
        next.tables.effects = store.tables.effects) ∨
      ∃ lease mutation now, Inbox.Consumes lease mutation now store.tables next.tables) ∧
    (∀ last, (inbox Application).Run store last → store.tables.Retains last.tables) ∧
    (∀ key row, store.tables.messages.find? key = some row → row.attempts ≤ row.maxAttempts ∧
      (row.state = .pending ∨ row.state = .dead ∨ row.state = .consumed ∨
        (row.state = .processing ∧ ∃ expiry, row.expiresAt = some expiry))) ∧
    (∀ environment lease mutation record,
      (consume environment store lease mutation).1 = .ok record →
      Inbox.Repeats lease store.tables (consume environment store lease mutation).2.tables ∨
        Inbox.Consumes lease mutation (consume environment store lease mutation).2.watermark
          store.tables (consume environment store lease mutation).2.tables) ∧
    (∀ environment lease error delay record,
      (fail environment store lease error delay).1 = .ok record →
      Inbox.Repeats lease store.tables (fail environment store lease error delay).2.tables ∨
        Inbox.Fails lease error delay (fail environment store lease error delay).2.watermark
          store.tables (fail environment store lease error delay).2.tables) ∧
    (∀ lease other environment surroundings, InboxCall.Settles lease environment store →
      InboxCall.Settles other surroundings store → lease.key = other.key →
      lease.leaseId = other.leaseId ∧ lease.owner = other.owner ∧ lease.fence = other.fence) := by
  have reachable : (inbox Application).Reachable store := ⟨first, initial, run⟩
  have sound := inbox_sound reachable
  refine ⟨⟨?_, sound.once, sound.settled⟩, ?_, ?_, ?_, ?_, ?_, ?_⟩
  · obtain ⟨added, effects, chained⟩ := inbox_affects (.start initial) run
    rw [initial.2.1, nil_append] at effects
    rw [effects]
    exact chained
  · exact fun next step => (inbox_step step).application
  · exact fun last later => inbox_retains reachable later
  · intro key row found
    have rowSound := sound.rows key row found
    refine ⟨rowSound.budget, ?_⟩
    cases state : row.state with
    | pending => exact .inl rfl
    | dead => exact .inr (.inl rfl)
    | consumed => exact .inr (.inr (.inl rfl))
    | processing =>
      exact .inr (.inr (.inr ⟨rfl, isSome_iff_exists.mp (rowSound.expires state)⟩))
  · exact fun _ _ _ _ answered => consume_answers answered
  · exact fun _ _ _ _ _ answered => fail_answers answered
  · exact fun _ _ _ _ settles settlesOther same => settles.unique settlesOther same

/-! ### A message, consumed and consumed again -/

def sampleSource : Identifier := ⟨"source", by decide⟩

def sampleSurroundings (time : Timestamp) : Environment where
  arithmetic := .exact
  clock _ := .ok time
  uuid _ := sampleSource
  fault := .none

def sampleInbox : Store (Inbox ℕ) := ⟨⟨∅, 0, []⟩, 0⟩

def sampleReceived : Store (Inbox ℕ) :=
  (accept (sampleSurroundings 0) sampleInbox sampleSource .null (some sampleSource) 5).2

def sampleClaimed : Store (Inbox ℕ) :=
  (claim (sampleSurroundings 0) sampleReceived sampleSource none (10 : ℕ)).2

def sampleLease : InboxLease where
  sourceId := sampleSource
  notificationId := sampleSource
  leaseId := sampleSource
  owner := sampleSource
  fence := 1
  expiresAt := (10 : ℕ)
  attempt := 1
  payload := .null

def sampleCounting : Mutation ℕ := fun inbox _ => .ok (inbox.application + 1)

def sampleConsumed : Store (Inbox ℕ) :=
  (consume (sampleSurroundings 5) sampleClaimed sampleLease (some sampleCounting)).2

theorem sampleConsumed_run : (inbox ℕ).Run sampleInbox sampleConsumed := by
  have received : (inbox ℕ).step sampleInbox sampleReceived :=
    ⟨.accept sampleSource .null (some sampleSource) 5, sampleSurroundings 0, rfl⟩
  have claimed : (inbox ℕ).step sampleReceived sampleClaimed :=
    ⟨.claim sampleSource none 10, sampleSurroundings 0, rfl⟩
  have consumed : (inbox ℕ).step sampleClaimed sampleConsumed :=
    ⟨.consume sampleLease (some sampleCounting), sampleSurroundings 5, rfl⟩
  exact .tail (.tail (.tail .refl received) claimed) consumed

theorem notifications_consumed_sample :
    Chained 0 sampleConsumed.tables.effects sampleConsumed.tables.application ∧
      sampleConsumed.tables.application = 1 ∧
      (sampleConsumed.tables.effects.map Effect.message).Nodup :=
  have once := @notifications_consumed_once ℕ _ _ ⟨rfl, rfl, rfl⟩ sampleConsumed_run
  ⟨once.1.1, by decide +kernel, once.1.2.1⟩

/-- A lease that has long run out succeeds in `consume` once more: its settlement is repeated,
without the mutation. -/
theorem consumption_repeated : ∃ store : Store (Inbox ℕ), (inbox ℕ).Reachable store ∧
    ∃ record, (consume (sampleSurroundings 20) store sampleLease (some sampleCounting)).1 =
        .ok record ∧
      sampleLease.expiresAt <
        (consume (sampleSurroundings 20) store sampleLease (some sampleCounting)).2.watermark := by
  have answered : ((consume (sampleSurroundings 20) sampleConsumed sampleLease
      (some sampleCounting)).1.toOption.isSome) = true := by decide +kernel
  refine ⟨sampleConsumed, ⟨sampleInbox, ⟨rfl, rfl, rfl⟩, sampleConsumed_run⟩, ?_⟩
  cases outcome : (consume (sampleSurroundings 20) sampleConsumed sampleLease
      (some sampleCounting)).1 with
  | error failure =>
    rw [outcome] at answered
    cases answered
  | ok record => exact ⟨record, rfl, by decide +kernel⟩

end DispatcherSdk.Orchestrator
