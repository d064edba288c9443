/-
This file models the transactions of the stall supervisor on the observation journal: watching
a policy, selecting it at the Kernel, committing an evaluation, ending and registering an
episode, and delivering its notification.

Each function is one transaction. What a call has read or asked before its transaction is an
argument, and so is the time of the transaction.
-/

import DispatcherSdk.ExecutionKernel.Completion

namespace DispatcherSdk.Observability

open ExecutionKernel Library Library.Checked

/-! ### Policies -/

structure StallPolicy where
  policyId : Identifier
  metrics : List Identifier
  sampleInterval : Timestamp
  consecutiveWindows : ℕ
  waitExemptions : List Identifier
  maxDeliveries : ℕ
  version : ℕ
  intervalPositive : 0 < sampleInterval
  windowsPositive : 0 < consecutiveWindows
  deliveriesPositive : 0 < maxDeliveries
  versionPositive : 0 < version
  metricsBounded : metrics ≠ [] ∧ metrics.length ≤ 32 ∧ waitExemptions.length ≤ 32
  deriving DecidableEq

/-- A policy as it applies to one attempt of an execution. -/
structure PolicyKey where
  policyId : Identifier
  version : ℕ
  executionId : Identifier
  attempt : ℕ
  fence : ℕ
  deriving DecidableEq

/-- `_policy_key`. -/
def policyVersion (policyId : Identifier) (version : ℕ) : Identifier where
  text := policyId.text ++ ":" ++ toString version
  filled := by
    have filled : policyId.text.toList.all isPythonSpace = false := policyId.filled
    simp [blank, String.toList_append, filled]

inductive PolicyState where
  | pendingExecution
  | registeringPolicy
  | active
  | superseded
  | closed
  deriving DecidableEq

/-- `state IN ('active','registering_policy','pending_execution')`. -/
def PolicyState.watched : PolicyState → Bool
  | active | registeringPolicy | pendingExecution => true
  | superseded | closed => false

/-! ### Readings -/

/-- What the Kernel answers about the execution. -/
structure SupervisionStatus where
  executionState : ExecutionState
  attempt : ℕ
  fence : ℕ
  progressRevision : ℕ
  entry : HandlerEntry

/-- One moment, on the wall clock and on the monotonic clock. -/
structure Stamp where
  wallAt : Timestamp
  elapsedAt : Timestamp

/-- The earlier one of two moments, as the wall clock shows them. -/
def Stamp.earlier (left right : Stamp) : Stamp :=
  if left.wallAt ≤ right.wallAt then left else right

/-- A collector that has not been retired. -/
structure SourceReport where
  sourceId : Identifier
  active : Bool
  observed : Bool

inductive WaitOwner where
  | absent
  | malformed
  | source (sourceId : String)

structure WaitReport where
  waiting : Bool
  reason : Option String
  owner : WaitOwner

/-- A wait for a child, with whether its state is `waiting` or `open`. -/
structure ChildWaitReport where
  waiting : Bool
  reason : Option String

/-- What the journal reports about the execution. `capturedAt` is the time of the newest sample of
any of its collectors. -/
structure ActivityReport where
  current : Bool
  truncated : Bool
  collectionGaps : ℕ
  sources : List SourceReport
  waits : List WaitReport
  childWaits : List ChildWaitReport
  metrics : List (String × ℕ)
  capturedAt : Option Stamp

/-- `sorted(source["source_id"] for source in report["sources"])`. -/
def ActivityReport.sourceIds (report : ActivityReport) : List String :=
  (report.sources.map (·.sourceId.text)).insertionSort (· ≤ ·)

structure Reading where
  sample : ClockCheckpoint
  status : SupervisionStatus
  report : ActivityReport

def Reading.now (reading : Reading) : Stamp :=
  ⟨reading.sample.wallAt, reading.sample.elapsedAt⟩

/-! ### What a reading shows -/

inductive Reason where
  | executionIdentityChanged
  | collectionUnknown
  | collectorNotObserved
  | waitExempt
  | metricNotInstalled (name : String)
  | clockContinuityUnknown
  | samplingGap
  | collectorIdentityChanged
  | collectionGap
  | metricCounterRegressed
  deriving DecidableEq

/-- Why a reading shows no metrics, with the reason of the wait if one exempts it. -/
structure Doubt where
  reason : Reason
  waitReason : Option String

abbrev Metrics := List (String × ℕ)

def StallPolicy.exempts (policy : StallPolicy) (reason : String) : Bool :=
  policy.waitExemptions.any fun exemption => exemption.text = reason

/-- What a wait of the journal has to say about the reading. -/
def waitDoubt (policy : StallPolicy) (report : ActivityReport) (wait : WaitReport) : Option Doubt :=
  match wait.reason.filter fun reason => wait.waiting && policy.exempts reason with
  | none => none
  | some reason =>
    match wait.owner with
    | .malformed => some ⟨.collectionUnknown, none⟩
    | .absent =>
      if report.sources.all fun source => source.active && source.observed then
        some ⟨.waitExempt, some reason⟩
      else some ⟨.collectionUnknown, none⟩
    | .source name =>
      if (report.sources.find? (·.sourceId.text = name)).any fun source =>
          source.active && source.observed then
        some ⟨.waitExempt, some reason⟩
      else some ⟨.collectionUnknown, none⟩

def childWaitDoubt (policy : StallPolicy) (wait : ChildWaitReport) : Option Doubt :=
  (wait.reason.filter fun reason => wait.waiting && policy.exempts reason).map
    fun reason => ⟨.waitExempt, some reason⟩

/-- The sum of the counters that are chosen, if there are any. -/
def ActivityReport.total (report : ActivityReport) (chosen : String → Bool) : Option ℕ :=
  let counts := (report.metrics.filter fun metric => chosen metric.1).map (·.2)
  if counts = [] then none else some counts.sum

def metricValue (status : SupervisionStatus) (report : ActivityReport) (name : String) : Option ℕ :=
  if name = "progress" then some status.progressRevision
  else if name = "output" then
    report.total fun key => key = "stdout_bytes" || key = "stderr_bytes"
  else if name = "model" then report.total fun key => "model_".isPrefixOf key
  else if name = "tool" then report.total fun key => "tool_".isPrefixOf key
  else report.metrics.lookup name

/-- Stop with the first doubt, if there is one. -/
def settleDoubt (doubt : Option Doubt) : Except Doubt Unit :=
  match doubt with
  | some found => .error found
  | none => .ok ()

def observed (key : PolicyKey) (policy : StallPolicy) (status : SupervisionStatus)
    (report : ActivityReport) : Except Doubt Metrics := do
  check (status.executionState = .running ∧ status.attempt = key.attempt ∧
      status.fence = key.fence)
    (⟨.executionIdentityChanged, none⟩ : Doubt)
  check (report.current ∧ ¬ report.truncated ∧ report.collectionGaps = 0 ∧
      ∀ source ∈ report.sources, source.observed)
    (⟨.collectionUnknown, none⟩ : Doubt)
  check (report.sources ≠ []) (⟨.collectorNotObserved, none⟩ : Doubt)
  settleDoubt (report.waits.findSome? (waitDoubt policy report))
  settleDoubt (report.childWaits.findSome? (childWaitDoubt policy))
  policy.metrics.mapM fun name => do
    let value ← present (metricValue status report name.text)
      (⟨.metricNotInstalled name.text, none⟩ : Doubt)
    pure (name.text, value)

/-! ### Policy rows -/

/-- `continuity_id`: what the evaluation that continued the window last has seen. -/
structure Continuity where
  clock : ClockCheckpoint
  metrics : Metrics
  baselineMetrics : Metrics
  sources : List String
  gapCount : ℕ

/-- A row of `obs_policies`. `nextSampleAt` is empty when the time is beyond the finite range. -/
structure PolicyRow where
  key : PolicyKey
  policy : StallPolicy
  target : String
  subscription : ℕ × ℕ
  state : PolicyState
  revision : ℕ
  baselineAt : Option Stamp
  nextSampleAt : Option Timestamp
  continuity : Option Continuity
  progressRevision : ℕ
  consecutive : ℕ
  episodeId : Option Identifier

/-- How often the supervisor samples, and how old a sample of a process may be. -/
structure Sampler where
  sampleInterval : Timestamp
  processFreshness : Timestamp

/-- More time has passed since the checkpoint than sampling may leave out. -/
def Sampler.skipped (arithmetic : FloatArithmetic) (sampler : Sampler)
    (checkpoint sample : ClockCheckpoint) : Prop :=
  ∃ tolerance ∈ arithmetic.multiply sampler.sampleInterval (((5 : ℕ) : Timestamp) / (2 : ℕ)),
    ∀ elapsed ∈ arithmetic.nearest (sample.elapsedAt - checkpoint.elapsedAt),
      max tolerance sampler.processFreshness < elapsed

instance (arithmetic : FloatArithmetic) (sampler : Sampler) (checkpoint sample : ClockCheckpoint) :
    Decidable (sampler.skipped arithmetic checkpoint sample) :=
  inferInstanceAs (Decidable (∃ tolerance ∈ _, _))

/-- Why a reading does not continue what the previous one has seen. -/
def breach (arithmetic : FloatArithmetic) (sampler : Sampler) (previous : Continuity)
    (reading : Reading) : Option Reason :=
  if previous.clock.effectiveTime arithmetic reading.sample = none ∨
      reading.sample.wallAt < previous.clock.wallAt then
    some .clockContinuityUnknown
  else if sampler.skipped arithmetic previous.clock reading.sample then some .samplingGap
  else if previous.sources ≠ reading.report.sourceIds then some .collectorIdentityChanged
  else if previous.gapCount ≠ reading.report.collectionGaps then some .collectionGap
  else none

/-- A counter of the metrics is smaller than it was. -/
def regressed (previous metrics : Metrics) : Bool :=
  metrics.any fun metric => (previous.lookup metric.1).any fun count => metric.2 < count

/-- Why a reading is not one of a complete window. -/
inductive Judgement where
  | doubtful (doubt : Doubt)
  | measured (metrics : Metrics)

/-- What `_evaluate` makes of a reading before it looks at the window. -/
def judge (arithmetic : FloatArithmetic) (sampler : Sampler) (row : PolicyRow)
    (reading : Reading) : Judgement :=
  let shown := observed row.key row.policy reading.status reading.report
  let waitReason :=
    match shown with
    | .error doubt => doubt.waitReason
    | .ok _ => none
  let broken :=
    match row.continuity with
    | some previous => breach arithmetic sampler previous reading
    | none => if reading.sample.domainId = none then some .clockContinuityUnknown else none
  match shown, row.continuity, broken with
  | .error doubt, _, none => .doubtful doubt
  | .error _, _, some reason => .doubtful ⟨reason, waitReason⟩
  | .ok metrics, some previous, broken =>
    if regressed previous.metrics metrics then .doubtful ⟨.metricCounterRegressed, none⟩
    else
      match broken with
      | some reason => .doubtful ⟨reason, none⟩
      | none => .measured metrics
  | .ok _, none, some reason => .doubtful ⟨reason, none⟩
  | .ok metrics, none, none => .measured metrics

/-! ### Windows -/

inductive WindowState where
  | exempt
  | unknown
  | progress
  | stalled
  | activity
  deriving DecidableEq

inductive WindowDetails where
  | interrupted (reason : Option Reason) (waitReason : Option String) (progressRevision : ℕ)
  | complete (baselineMetrics metrics : Metrics) (progressRevision : ℕ)

/-- A row of `obs_windows`, without the identity it is given. -/
structure WindowRow where
  key : PolicyKey
  startedAt : Stamp
  endedAt : Stamp
  state : WindowState
  baselineRevision : ℕ
  endRevision : ℕ
  details : WindowDetails
  windowRevision : ℕ

inductive EpisodeEnd where
  | progress
  | superseded
  | activity
  deriving DecidableEq

/-- What an evaluation concludes: a window, the next version of the row, and whether its episode
ends or a new one begins. -/
structure Assessment where
  window : Option (Stamp × Stamp × WindowState × WindowDetails)
  row : PolicyRow
  ends : Option EpisodeEnd
  begins : Bool

/-- The moment that the reading vouches for. -/
def Reading.observedEnd (reading : Reading) (baseline : Stamp) : Stamp :=
  match reading.report.capturedAt with
  | some captured => reading.now.earlier captured
  | none => baseline

/-- The row after an evaluation that leaves a window open from a baseline on. -/
def PolicyRow.continued (arithmetic : FloatArithmetic) (row : PolicyRow) (reading : Reading)
    (baseline : Stamp) (metrics baselineMetrics : Metrics) (consecutive : ℕ) : PolicyRow :=
  { row with
    baselineAt := some baseline
    nextSampleAt := arithmetic.add baseline.wallAt row.policy.sampleInterval
    continuity := some
      { clock := reading.sample
        metrics
        baselineMetrics
        sources := reading.report.sourceIds
        gapCount := reading.report.collectionGaps }
    progressRevision := reading.status.progressRevision
    consecutive
    revision := row.revision + 1 }

/-- The row after an evaluation that leaves no window open. -/
def PolicyRow.interrupted (arithmetic : FloatArithmetic) (row : PolicyRow) (reading : Reading)
    (reason : Reason) : PolicyRow :=
  { row with
    baselineAt := none
    nextSampleAt := arithmetic.add reading.sample.wallAt row.policy.sampleInterval
    continuity := none
    progressRevision := reading.status.progressRevision
    consecutive := 0
    state := if reason = .executionIdentityChanged then .superseded else .active
    revision := row.revision + 1 }

/-- The end of the episode of a row whose window is interrupted. -/
def interruptedEnd (row : PolicyRow) (reading : Reading) (reason : Option Reason) :
    Option EpisodeEnd :=
  if reading.status.progressRevision ≠ row.progressRevision then some .progress
  else if reason = some .executionIdentityChanged then some .superseded
  else none

/-- A reading in doubt closes the window that is open. -/
def assessDoubt (arithmetic : FloatArithmetic) (row : PolicyRow) (reading : Reading)
    (doubt : Doubt) : Assessment where
  window := row.baselineAt.map fun baseline =>
    (baseline, reading.now, if doubt.reason = .waitExempt then .exempt else .unknown,
      .interrupted (some doubt.reason) doubt.waitReason reading.status.progressRevision)
  row := row.interrupted arithmetic reading doubt.reason
  ends := interruptedEnd row reading (some doubt.reason)
  begins := false

/-- Confirmed progress closes the window that is open and opens the next one. -/
def assessProgress (arithmetic : FloatArithmetic) (row : PolicyRow) (reading : Reading)
    (metrics : Metrics) : Assessment where
  window := row.baselineAt.map fun baseline =>
    (baseline, reading.now, .progress, .interrupted none none reading.status.progressRevision)
  row := row.continued arithmetic reading reading.now metrics metrics 0
  ends := interruptedEnd row reading none
  begins := false

/-- The metrics of a policy are what they were at the baseline. -/
def stagnant (policy : StallPolicy) (baselineMetrics metrics : Metrics) : Prop :=
  ∀ name ∈ policy.metrics, metrics.lookup name.text = baselineMetrics.lookup name.text

instance (policy : StallPolicy) (baselineMetrics metrics : Metrics) :
    Decidable (stagnant policy baselineMetrics metrics) :=
  inferInstanceAs (Decidable (∀ name ∈ policy.metrics, _))

def assessComplete (arithmetic : FloatArithmetic) (row : PolicyRow) (reading : Reading)
    (baseline : Stamp) (baselineMetrics metrics : Metrics) : Assessment :=
  let finish := reading.observedEnd baseline
  let details := .complete baselineMetrics metrics reading.status.progressRevision
  if stagnant row.policy baselineMetrics metrics then
    { window := some (baseline, finish, .stalled, details)
      row := row.continued arithmetic reading finish metrics metrics (row.consecutive + 1)
      ends := none
      begins := row.policy.consecutiveWindows ≤ row.consecutive + 1 ∧ row.episodeId = none }
  else
    { window := some (baseline, finish, .activity, details)
      row := row.continued arithmetic reading finish metrics metrics 0
      ends := some .activity
      begins := false }

/-- `_evaluate`, without its transaction. -/
def assess (arithmetic : FloatArithmetic) (sampler : Sampler) (row : PolicyRow)
    (reading : Reading) : Assessment :=
  match judge arithmetic sampler row reading with
  | .doubtful doubt => assessDoubt arithmetic row reading doubt
  | .measured metrics =>
    if reading.status.progressRevision ≠ row.progressRevision then
      assessProgress arithmetic row reading metrics
    else
      match row.baselineAt, row.continuity with
      | some baseline, some previous =>
        if ∃ next ∈ row.nextSampleAt, next ≤ (reading.observedEnd baseline).wallAt then
          assessComplete arithmetic row reading baseline previous.baselineMetrics metrics
        else
          { window := none
            row := row.continued arithmetic reading baseline metrics previous.baselineMetrics
              row.consecutive
            ends := none
            begins := false }
      | _, _ =>
        { window := none
          row := row.continued arithmetic reading reading.now metrics metrics row.consecutive
          ends := none
          begins := false }

open Table

/-! ### Rows -/

inductive EpisodeState where
  | registering
  | active
  | ending
  | ended (how : EpisodeEnd)
  deriving DecidableEq

/-- A row of `obs_episodes`. `endState` is the state that an ending episode is to get. -/
structure EpisodeRow where
  episodeId : Identifier
  key : PolicyKey
  progressRevision : ℕ
  state : EpisodeState
  startedAt : Timestamp
  endedAt : Option Timestamp
  notificationId : Identifier
  disposition : StallDisposition
  endState : Option EpisodeEnd

structure StallNotice where
  target : String
  disposition : StallDisposition
  policyId : Identifier
  policyVersion : ℕ
  maxDeliveries : ℕ
  consecutiveWindows : ℕ
  observedAt : Timestamp

inductive NoticeState where
  | awaitingAuthority
  | pending
  | delivering
  | bridged
  | dead
  | superseded
  deriving DecidableEq

structure DeliveryLease where
  leaseId : Identifier
  owner : Identifier
  expiresAt : Timestamp

/-- A row of `obs_outbox`. -/
structure NoticeRow where
  notificationId : Identifier
  episodeId : Identifier
  payload : StallNotice
  state : NoticeState
  createdAt : Timestamp
  bridgedAt : Option Timestamp
  lastError : Option String
  attempts : ℕ
  maxAttempts : ℕ
  lease : Option DeliveryLease
  nextAttemptAt : Timestamp
  revision : ℕ

/-- The tables of the observation journal that the supervisor writes. -/
structure ObservationStore where
  policies : Table PolicyRow.key
  windows : List WindowRow
  episodes : Table EpisodeRow.episodeId
  outbox : Table NoticeRow.notificationId

def ObservationStore.empty : ObservationStore := ⟨∅, [], ∅, ∅⟩

/-! ### Ending an episode -/

/-- `state IN ('registering','active')`. -/
def EpisodeState.open? : EpisodeState → Bool
  | registering | active => true
  | ending | ended _ => false

/-- `state in ("registering", "active", "ending")`. -/
def EpisodeState.unended : EpisodeState → Bool
  | registering | active | ending => true
  | ended _ => false

/-- `state='superseded'`, unless the notification is bridged or dead. -/
def NoticeRow.supersede (notice : NoticeRow) : NoticeRow :=
  if notice.state = .bridged ∨ notice.state = .dead then notice
  else { notice with state := .superseded, lease := none, revision := notice.revision + 1 }

/-- `_end_episode`: the episode is ending, to be cleared at the Kernel. -/
def endEpisode (episode : Option Identifier) (now : Timestamp) (how : EpisodeEnd)
    (store : ObservationStore) : ObservationStore :=
  match episode.bind store.episodes.find? with
  | none => store
  | some row =>
    if row.state.unended then
      { store with
        episodes := store.episodes.put
          { row with state := .ending, endedAt := some now, endState := some how }
        outbox := store.outbox.update
          (fun notice => if notice.episodeId = row.episodeId then notice.supersede else notice)
          (fun notice => by
            unfold NoticeRow.supersede
            split
            · split <;> rfl
            · rfl) }
    else store

/-! ### Watching -/

/-- The execution and attempt that a subscription is for. -/
structure ObservedIdentity where
  executionId : Identifier
  attempt : ℕ
  fence : ℕ

/-- What `watch` is asked. `target` is the text without the identity of the subscription. -/
structure Subscription where
  identity : ObservedIdentity
  policy : StallPolicy
  target : String

def Subscription.key (subscription : Subscription) : PolicyKey :=
  ⟨subscription.policy.policyId, subscription.policy.version, subscription.identity.executionId,
    subscription.identity.attempt, subscription.identity.fence⟩

/-- The row says what the subscription says. -/
def Subscription.sameContent (subscription : Subscription) (row : PolicyRow) : Prop :=
  row.policy = subscription.policy ∧ row.target = subscription.target ∧
    row.subscription = (subscription.identity.attempt, subscription.identity.fence)

instance (subscription : Subscription) (row : PolicyRow) :
    Decidable (subscription.sameContent row) :=
  inferInstanceAs (Decidable (_ ∧ _ ∧ _))

/-- The row that `watch` has found before its transaction is the one of the subscription. -/
def Subscription.found (subscription : Subscription) (previous : PolicyRow) : Prop :=
  previous.key.policyId = subscription.policy.policyId ∧
    previous.key.version = subscription.policy.version ∧
    ((previous.key.attempt = subscription.identity.attempt ∧
        previous.key.fence = subscription.identity.fence) ∨
      previous.subscription = (subscription.identity.attempt, subscription.identity.fence))

instance (subscription : Subscription) (previous : PolicyRow) :
    Decidable (subscription.found previous) :=
  inferInstanceAs (Decidable (_ ∧ _ ∧ _))

def Subscription.row (subscription : Subscription) (authority : SupervisionStatus)
    (now : Timestamp) : PolicyRow where
  key := subscription.key
  policy := subscription.policy
  target := subscription.target
  subscription := (subscription.identity.attempt, subscription.identity.fence)
  state :=
    if authority.executionState = .queued ∨ authority.executionState = .leased then
      .pendingExecution
    else .registeringPolicy
  revision := 1
  baselineAt := none
  nextSampleAt := some now
  continuity := none
  progressRevision := 0
  consecutive := 0
  episodeId := none

/-- What a new subscription of an execution replaces is superseded. -/
def supersedeWatched (executionId : Identifier) (now : Timestamp) (store : ObservationStore) :
    ObservationStore :=
  let episodes := store.episodes.update
    (fun row =>
      if row.key.executionId = executionId ∧ row.state.open? then
        { row with state := .ended .superseded, endedAt := some now }
      else row)
    (fun row => by split <;> rfl)
  { store with
    policies := store.policies.update
      (fun row =>
        if row.key.executionId = executionId ∧ row.state.watched then
          { row with state := .superseded, revision := row.revision + 1 }
        else row)
      (fun row => by split <;> rfl)
    episodes
    outbox := store.outbox.update
      (fun notice =>
        if (episodes.find? notice.episodeId).any fun row =>
            row.key.executionId = executionId ∧ row.state = .ended .superseded then
          notice.supersede
        else notice)
      (fun notice => by
        unfold NoticeRow.supersede
        split
        · split <;> rfl
        · rfl) }

/-- `watch`. It answers whether the subscription was there before. -/
def watch (subscription : Subscription) (previous : Option PolicyRow)
    (authority : SupervisionStatus) (maxPolicies : ℕ) (now : Timestamp)
    (store : ObservationStore) : Except String (Bool × ObservationStore) :=
  match previous.filter fun row => subscription.found row with
  | some row =>
    if subscription.sameContent row then .ok (true, store)
    else .error "policy version already has different content or target"
  | none =>
    if subscription.identity.attempt ≠ authority.attempt ∨
        subscription.identity.fence ≠ authority.fence then
      .error "subscription identity is stale"
    else
      match store.policies.find? subscription.key with
      | some existing =>
        if existing.state.watched ∧ subscription.sameContent existing then .ok (true, store)
        else .error "superseded policy version cannot be reactivated; use a new version"
      | none =>
        if maxPolicies ≤ (store.policies.rows.filter (·.state.watched)).length ∧
            ¬ store.policies.rows.any fun row =>
              row.key.executionId = subscription.identity.executionId && row.state.watched then
          .error "supervision subscription capacity exhausted"
        else
          let superseded := supersedeWatched subscription.identity.executionId now store
          .ok (false, { superseded with
            policies := superseded.policies.put (subscription.row authority now) })

/-! ### Selecting a policy -/

/-- What `_select_policies` does with a row that waits for the Kernel. -/
inductive Selection where
  | wait
  | close
  | supersede
  | select

/-- The decision of `_select_policies` about a row. -/
def selection (row : PolicyRow) (status : SupervisionStatus) : Selection :=
  if status.executionState = .queued ∨ status.executionState = .leased then .wait
  else if status.executionState ≠ .running then .close
  else if row.state = .pendingExecution ∧
      status.entry ≠ .confirmed status.attempt status.fence then .wait
  else if row.state ≠ .pendingExecution ∧
      (row.key.attempt ≠ status.attempt ∨ row.key.fence ≠ status.fence) then .supersede
  else .select

/-- The identity that a policy is selected for. -/
def PolicyKey.at (key : PolicyKey) (status : SupervisionStatus) : PolicyKey :=
  { key with attempt := status.attempt, fence := status.fence }

/-- The row that `_select_policies` acts on, unless it has changed since it was read. -/
def unselected (row : PolicyRow) (store : ObservationStore) : Option PolicyRow :=
  (store.policies.find? row.key).filter fun current =>
    (current.state = .registeringPolicy ∨ current.state = .pendingExecution) ∧
      current.revision = row.revision

/-- `_select_policies` for one row, which moves to the attempt that the Kernel has selected, unless
there is another row under that key. -/
def selectPolicy (row : PolicyRow) (status : SupervisionStatus) (store : ObservationStore) :
    ObservationStore :=
  match unselected row store with
  | none => store
  | some current =>
    match selection current status with
    | .wait => store
    | .close =>
      { store with
        policies := store.policies.put
          { current with state := .closed, revision := current.revision + 1 } }
    | .supersede =>
      { store with
        policies := store.policies.put
          { current with state := .superseded, revision := current.revision + 1 } }
    | .select =>
      let rest := store.policies.keep fun other => other.key ≠ current.key
      match rest.find? (current.key.at status) with
      | some _ => store
      | none =>
        { store with
          policies := rest.put
            { current with
              key := current.key.at status
              state := .active
              revision := current.revision + 1 } }

/-! ### Committing an evaluation -/

/-- The identities that an evaluation draws for a new episode. -/
structure DrawnIds where
  episodeId : Identifier
  notificationId : Identifier

/-- No stored row has one of the identities. -/
def DrawnIds.fresh (drawn : DrawnIds) (store : ObservationStore) : Prop :=
  store.episodes.find? drawn.episodeId = none ∧
    store.outbox.find? drawn.notificationId = none ∧
    (∀ episode ∈ store.episodes.rows, episode.notificationId ≠ drawn.notificationId) ∧
    ∀ notice ∈ store.outbox.rows, notice.episodeId ≠ drawn.episodeId

instance (drawn : DrawnIds) (store : ObservationStore) : Decidable (drawn.fresh store) :=
  inferInstanceAs (Decidable (_ ∧ _ ∧ (∀ episode ∈ _, _) ∧ ∀ notice ∈ _, _))

/-- `_window`: one revision of a row has one window. -/
def recordWindow (row : PolicyRow) (window : Option (Stamp × Stamp × WindowState × WindowDetails))
    (endRevision : ℕ) (store : ObservationStore) : ObservationStore :=
  match window with
  | none => store
  | some (startedAt, endedAt, state, details) =>
    if store.windows.any fun stored =>
        stored.key = row.key && stored.windowRevision = row.revision then store
    else
      { store with
        windows := store.windows ++
          [{ key := row.key, startedAt, endedAt, state
             baselineRevision := row.progressRevision
             endRevision, details
             windowRevision := row.revision }] }

/-- The token that a disposition of the episode has to carry. -/
def dispositionToken (row : PolicyRow) (progressRevision : ℕ) (episodeId : Identifier) :
    StallDisposition where
  executionId := row.key.executionId
  attempt := row.key.attempt
  fence := row.key.fence
  progressRevision := progressRevision
  episodeId := some episodeId
  policyVersion := some (policyVersion row.policy.policyId row.policy.version)

def beginEpisode (row : PolicyRow) (reading : Reading) (consecutive : ℕ) (drawn : DrawnIds)
    (store : ObservationStore) : ObservationStore :=
  let disposition := dispositionToken row reading.status.progressRevision drawn.episodeId
  let now := reading.sample.wallAt
  { store with
    episodes := store.episodes.put
      { episodeId := drawn.episodeId
        key := row.key
        progressRevision := reading.status.progressRevision
        state := .registering
        startedAt := now
        endedAt := none
        notificationId := drawn.notificationId
        disposition
        endState := none }
    outbox := store.outbox.put
      { notificationId := drawn.notificationId
        episodeId := drawn.episodeId
        payload :=
          { target := row.target
            disposition
            policyId := row.policy.policyId
            policyVersion := row.policy.version
            maxDeliveries := row.policy.maxDeliveries
            consecutiveWindows := consecutive
            observedAt := now }
        state := .awaitingAuthority
        createdAt := now
        bridgedAt := none
        lastError := none
        attempts := 0
        maxAttempts := row.policy.maxDeliveries
        lease := none
        nextAttemptAt := now
        revision := 1 } }

/-- The row that an evaluation acts on, unless it has changed since it was read. -/
def evaluable (row : PolicyRow) (store : ObservationStore) : Option PolicyRow :=
  (store.policies.find? row.key).filter fun current =>
    current.revision = row.revision ∧ current.state = .active

/-- What an evaluation concludes, written down. -/
def commitAssessment (row : PolicyRow) (reading : Reading) (assessment : Assessment)
    (drawn : DrawnIds) (store : ObservationStore) : ObservationStore :=
  let recorded := recordWindow row assessment.window reading.status.progressRevision store
  let ended :=
    match assessment.ends with
    | none => recorded
    | some how => endEpisode row.episodeId reading.sample.wallAt how recorded
  let begun :=
    if assessment.begins then beginEpisode row reading assessment.row.consecutive drawn ended
    else ended
  { begun with
    policies := begun.policies.put
      { assessment.row with
        episodeId := if assessment.begins then some drawn.episodeId else row.episodeId } }

/-- `_evaluate`: the transaction, if it commits anything. -/
def evaluate (arithmetic : FloatArithmetic) (sampler : Sampler) (row : PolicyRow)
    (reading : Reading) (drawn : DrawnIds) (store : ObservationStore) : Option ObservationStore :=
  let assessment := assess arithmetic sampler row reading
  match evaluable row store with
  | none => none
  | some _ =>
    if assessment.begins = true ∧ ¬ drawn.fresh store then none
    else some (commitAssessment row reading assessment drawn store)

/-! ### Registering and clearing episodes -/

/-- The second half of `_clear_pending`: the Kernel has answered that the episode, as it was read,
is no longer the current one. -/
def clearEpisode (row : EpisodeRow) (store : ObservationStore) : ObservationStore :=
  match store.episodes.find? row.episodeId, row.endState with
  | some current, some how =>
    if current.state = .ending then
      { store with
        episodes := store.episodes.put { current with state := .ended how }
        policies := store.policies.update
          (fun policy =>
            if policy.episodeId = some row.episodeId then
              { policy with episodeId := none, revision := policy.revision + 1 }
            else policy)
          (fun policy => by split <;> rfl) }
    else store
  | _, _ => store

/-- The Kernel has registered the episode: its notification may be delivered. -/
def confirmEpisode (row : EpisodeRow) (store : ObservationStore) : ObservationStore :=
  match store.episodes.find? row.episodeId with
  | none => store
  | some current =>
    if current.state = .registering then
      { store with
        episodes := store.episodes.put { current with state := .active }
        outbox := store.outbox.update
          (fun notice =>
            if notice.episodeId = row.episodeId ∧ notice.state = .awaitingAuthority then
              { notice with state := .pending, lastError := none, revision := notice.revision + 1 }
            else notice)
          (fun notice => by split <;> rfl) }
    else store

/-- The answer of the Kernel shows that the episode is about something that has passed. -/
def EpisodeRow.stale (row : EpisodeRow) (status : SupervisionStatus) : Prop :=
  status.attempt ≠ row.key.attempt ∨ status.fence ≠ row.key.fence ∨
    status.progressRevision ≠ row.progressRevision ∨ status.executionState ≠ .running

instance (row : EpisodeRow) (status : SupervisionStatus) : Decidable (row.stale status) :=
  inferInstanceAs (Decidable (_ ∨ _ ∨ _ ∨ _))

def refuseEpisode (row : EpisodeRow) (status : SupervisionStatus) (error : String)
    (now : Timestamp) (store : ObservationStore) : ObservationStore :=
  if row.stale status then endEpisode (some row.episodeId) now .superseded store
  else
    { store with
      outbox := store.outbox.update
        (fun notice =>
          if notice.episodeId = row.episodeId then { notice with lastError := some error }
          else notice)
        (fun notice => by split <;> rfl) }

/-! ### Delivery -/

/-- A delivery whose lease has run out is dead or pending again. -/
def NoticeRow.expire (now : Timestamp) (notice : NoticeRow) : NoticeRow :=
  if notice.state = .delivering ∧ ∃ lease ∈ notice.lease, lease.expiresAt ≤ now then
    { notice with
      state := if notice.maxAttempts ≤ notice.attempts then .dead else .pending
      lease := none
      nextAttemptAt := now
      revision := notice.revision + 1 }
  else notice

def expireDeliveries (now : Timestamp) (store : ObservationStore) : ObservationStore :=
  { store with
    outbox := store.outbox.update (NoticeRow.expire now) fun notice => by
      unfold NoticeRow.expire
      split <;> rfl }

/-- A notification that may be delivered now. -/
def NoticeRow.due (now : Timestamp) (notice : NoticeRow) : Bool :=
  notice.state = .pending && notice.nextAttemptAt ≤ now

/-- A notification that is delivered under a lease. -/
def NoticeRow.claimed (lease : DeliveryLease) (notice : NoticeRow) : NoticeRow :=
  { notice with
    state := .delivering
    attempts := notice.attempts + 1
    lease := some lease
    revision := notice.revision + 1 }

/-- The first transaction of `deliver_pending`, with the notification it takes. It takes an oldest
one of those that are due; the lease ends after `leaseSeconds`. -/
def claimDelivery (notificationId : Identifier) (lease : DeliveryLease) (now : Timestamp)
    (store : ObservationStore) : Option ObservationStore :=
  let expired := expireDeliveries now store
  match expired.outbox.find? notificationId with
  | none => none
  | some notice =>
    if notice.due now ∧ (∀ other ∈ expired.outbox.rows, other.due now →
        notice.createdAt ≤ other.createdAt) then
      some { expired with outbox := expired.outbox.put (notice.claimed lease) }
    else none

/-- A notification after the bridge has answered. -/
def NoticeRow.settled (now : Timestamp) (nextAttemptAt : Timestamp) (error : Option String)
    (notice : NoticeRow) : NoticeRow :=
  { notice with
    state :=
      if error = none then .bridged
      else if notice.maxAttempts ≤ notice.attempts then .dead
      else .pending
    bridgedAt := if error = none then some now else none
    lastError := error
    lease := none
    nextAttemptAt
    revision := notice.revision + 1 }

/-- The second transaction of `deliver_pending`. -/
def settleDelivery (notificationId leaseId : Identifier) (error : Option String)
    (now nextAttemptAt : Timestamp) (store : ObservationStore) : ObservationStore :=
  match store.outbox.find? notificationId with
  | none => store
  | some notice =>
    if notice.state = .delivering ∧ ∃ lease ∈ notice.lease,
        lease.leaseId = leaseId ∧ now < lease.expiresAt then
      { store with outbox := store.outbox.put (notice.settled now nextAttemptAt error) }
    else store

def retryDead (notificationId : Identifier) (expectedRevision : ℕ) (now : Timestamp)
    (store : ObservationStore) : Except String ObservationStore := do
  let notice ← present (store.outbox.find? notificationId) notificationId.text
  check (notice.revision = expectedRevision ∧ notice.state = .dead)
    "notification retry requires current dead revision"
  return { store with
    outbox := store.outbox.put
      { notice with
        state := .pending
        attempts := 0
        nextAttemptAt := now
        lastError := none
        revision := notice.revision + 1 } }

end DispatcherSdk.Observability
